import Mathlib
import Perflint.Outline.Access
import Perflint.Proofs.Scopes
import Perflint.Proofs.Spans

namespace Perflint

namespace Position

variable (lines : Nat) (first second : Position)

@[simp] theorem le_shift : (first.shift lines).le (second.shift lines) = first.le second := by
  rw [Bool.eq_iff_iff, le_iff, le_iff]
  simp [shift]

@[simp] theorem lt_shift : (first.shift lines).lt (second.shift lines) = first.lt second := by
  rw [Bool.eq_iff_iff, lt_iff, lt_iff]
  simp [shift]

@[simp] theorem shift_lt_shift : first.shift lines < second.shift lines ↔ first < second :=
  Eq.to_iff (congrArg (· = true) (lt_shift lines first second))

@[simp] theorem beq_shift : (first.shift lines == second.shift lines) = (first == second) := by
  rw [Bool.eq_iff_iff, beq_iff_eq, beq_iff_eq, eq_iff, eq_iff]
  simp [shift]

end Position

namespace Span

variable (lines : Nat) (first second : Span)

@[simp] theorem start_shift : (first.shift lines).start = first.start.shift lines := rfl

@[simp] theorem finish_shift : (first.shift lines).finish = first.finish.shift lines := rfl

@[simp] theorem contains_shift : (first.shift lines).contains (second.shift lines) = first.contains second := by
  simp [contains]

@[simp] theorem sameRegion_shift : (first.shift lines).sameRegion (second.shift lines) = first.sameRegion second := by
  simp [sameRegion]

@[simp] theorem before_shift : (first.shift lines).before (second.shift lines) = first.before second := by
  simp [before]

end Span

namespace Node

mutual

-- The tree with so many lines put before the text.
def shift (lines : Nat) : Node → Node
  | .mk head children => .mk { head with span := head.span.shift lines } (shiftAll lines children)

def shiftAll (lines : Nat) : List Node → List Node
  | [] => []
  | node :: rest => node.shift lines :: shiftAll lines rest

end

theorem shiftAll_eq (lines : Nat) (nodes : List Node) : shiftAll lines nodes = nodes.map (shift lines) := by
  induction nodes with
  | nil => rfl
  | cons node rest ih => rw [shiftAll, ih, List.map_cons]

variable (lines : Nat) (node : Node)

@[simp] theorem children_shift : (node.shift lines).children = node.children.map (shift lines) := by
  cases node
  exact shiftAll_eq lines _

@[simp] theorem id_shift : (node.shift lines).id = node.id := by
  cases node
  rfl

@[simp] theorem span_shift : (node.shift lines).span = node.span.shift lines := by
  cases node
  rfl

@[simp] theorem info_shift : (node.shift lines).info = node.info := by
  cases node
  rfl

@[simp] theorem kind_shift : (node.shift lines).kind = node.kind := by
  simp [kind]

@[simp] theorem isFunction_shift : (node.shift lines).isFunction = node.isFunction := by
  simp [isFunction]

@[simp] theorem loop?_shift : (node.shift lines).loop? = node.loop? := by
  simp [loop?]

@[simp] theorem call?_shift : (node.shift lines).call? = node.call? := by
  simp [call?]

@[simp] theorem assignment?_shift : (node.shift lines).assignment? = node.assignment? := by
  simp [assignment?]

@[simp] theorem conditional?_shift : (node.shift lines).conditional? = node.conditional? := by
  simp [conditional?]

@[simp] theorem function?_shift : (node.shift lines).function? = node.function? := by
  simp [function?]

@[simp] theorem isLoop_shift : (node.shift lines).isLoop = node.isLoop := by
  simp [isLoop]

@[simp] theorem isClosure_shift : (node.shift lines).isClosure = node.isClosure := by
  simp [isClosure]

@[simp] theorem onceCount_shift : (node.shift lines).onceCount = node.onceCount := by
  simp [onceCount]

@[simp] theorem onceChildren_shift : (node.shift lines).onceChildren = node.onceChildren.map (shift lines) := by
  simp [onceChildren, List.map_take]

@[simp] theorem iterates_shift : (node.shift lines).iterates = node.iterates := by
  simp [iterates]

@[simp] theorem loopVars_shift : (node.shift lines).loopVars = node.loopVars := by
  simp [loopVars, List.flatMap_map]

@[simp] theorem firstVar_shift : (node.shift lines).firstVar = node.firstVar := by
  simp [firstVar]

@[simp] theorem firstArg_shift : (node.shift lines).firstArg = node.firstArg := by
  simp [firstArg]

@[simp] theorem loopText_shift : (node.shift lines).loopText = node.loopText := by
  simp [loopText]

@[simp] theorem loopRoot_shift : (node.shift lines).loopRoot = node.loopRoot := by
  simp [loopRoot]

@[simp] theorem conditionText_shift : (node.shift lines).conditionText = node.conditionText := by
  simp [conditionText]

@[simp] theorem isCountingLoop_shift : (node.shift lines).isCountingLoop = node.isCountingLoop := by
  simp [isCountingLoop]

@[simp] theorem bindsAfresh_shift (name : String) : (node.shift lines).bindsAfresh name = node.bindsAfresh name := by
  simp [bindsAfresh]

@[simp] theorem dependsOn_shift (names : List String) (receiver : Bool) :
    (node.shift lines).dependsOn names receiver = node.dependsOn names receiver := by
  simp [dependsOn, usedNames]

@[simp] theorem fetchStrength?_shift : (node.shift lines).fetchStrength? = node.fetchStrength? := by
  simp [fetchStrength?]

@[simp] theorem isIo_shift : (node.shift lines).isIo = node.isIo := by
  simp [isIo]

theorem preorder_shift : (node.shift lines).preorder = node.preorder.map (shift lines) := by
  induction node using nested_induction with
  | step node ih =>
    rw [preorder_eq, preorder_eq node, children_shift, List.map_cons, List.map_flatMap, List.flatMap_map]
    exact congrArg _ (List.flatMap_congr ih)

@[simp] theorem ids_shift : (node.shift lines).ids = node.ids := by
  simp [ids, preorder_shift]

end Node

namespace Site

def shift (lines : Nat) (site : Site) : Site :=
  { node := site.node.shift lines, above := site.above.map (Node.shift lines) }

variable (lines : Nat) (site : Site)

@[simp] theorem node_shift : (site.shift lines).node = site.node.shift lines := rfl

@[simp] theorem above_shift : (site.shift lines).above = site.above.map (Node.shift lines) := rfl

@[simp] theorem id_shift : (site.shift lines).id = site.id := site.node.id_shift lines

@[simp] theorem span_shift : (site.shift lines).span = site.span.shift lines := site.node.span_shift lines

@[simp] theorem kind_shift : (site.shift lines).kind = site.kind := site.node.kind_shift lines

theorem walk_shift (inScope : Bool) (above : List Node) (node : Node) :
    walk inScope (above.map (Node.shift lines)) (node.shift lines) = (walk inScope above node).map (shift lines) := by
  induction node using Node.nested_induction generalizing above with
  | step node ih =>
    rw [walk_eq, walk_eq inScope above node, Node.isFunction_shift, List.map_cons]
    refine congrArg _ ?_
    split
    · rfl
    · rw [Node.children_shift, List.map_flatMap, List.flatMap_map]
      exact List.flatMap_congr fun child member => ih child member (node :: above)

theorem walkAll_shift (inScope : Bool) (above nodes : List Node) :
    walkAll inScope (above.map (Node.shift lines)) (nodes.map (Node.shift lines)) =
      (walkAll inScope above nodes).map (shift lines) := by
  simp only [walkAll_eq, List.flatMap_map, List.map_flatMap, walk_shift]

@[simp] theorem descendants_shift : (site.shift lines).descendants = site.descendants.map (shift lines) := by
  rw [descendants, descendants, ← walkAll_shift, node_shift, Node.children_shift]
  rfl

@[simp] theorem descendantsInScope_shift :
    (site.shift lines).descendantsInScope = site.descendantsInScope.map (shift lines) := by
  rw [descendantsInScope, descendantsInScope, ← walkAll_shift, node_shift, Node.children_shift]
  rfl

@[simp] theorem children_shift : (site.shift lines).children = site.children.map (shift lines) := by
  simp [children, shift]

@[simp] theorem onceChildren_shift : (site.shift lines).onceChildren = site.onceChildren.map (shift lines) := by
  simp [onceChildren, List.map_take]

@[simp] theorem bodyChildren_shift : (site.shift lines).bodyChildren = site.bodyChildren.map (shift lines) := by
  simp [bodyChildren, List.map_drop]

theorem ancestorsFrom_shift (above : List Node) :
    ancestorsFrom (above.map (Node.shift lines)) = (ancestorsFrom above).map (shift lines) := by
  induction above with
  | nil => rfl
  | cons node above ih =>
    rw [List.map_cons, ancestorsFrom, ih]
    rfl

@[simp] theorem ancestors_shift : (site.shift lines).ancestors = site.ancestors.map (shift lines) :=
  ancestorsFrom_shift lines site.above

@[simp] theorem runsPerIteration_shift (parent child : Node) :
    (parent.shift lines).runsPerIteration (child.shift lines) = parent.runsPerIteration child := by
  simp [Node.runsPerIteration, Node.bodyChildren, ← List.map_drop, Function.comp_def]

@[simp] theorem repeats_shift (parent child : Node) :
    repeats (parent.shift lines) (child.shift lines) = repeats parent child := by
  simp [repeats, Function.comp_def]

theorem loopsFrom_shift (child : Node) (above : List Node) :
    loopsFrom (child.shift lines) (above.map (Node.shift lines)) = (loopsFrom child above).map (shift lines) := by
  induction above generalizing child with
  | nil => rfl
  | cons node above ih =>
    rw [List.map_cons, loopsFrom, loopsFrom, Node.kind_shift, repeats_shift, ih]
    split
    · rfl
    · split
      · rfl
      · rfl

@[simp] theorem loops_shift : (site.shift lines).loops = site.loops.map (shift lines) :=
  loopsFrom_shift lines site.node site.above

@[simp] theorem rebinds_shift (name : String) : (site.shift lines).rebinds name = site.rebinds name := by
  simp [rebinds, Function.comp_def]

@[simp] theorem invariantIn_shift (name : String) : (site.shift lines).invariantIn name = site.invariantIn name := by
  simp [invariantIn, Function.comp_def]

@[simp] theorem sourceCalls_shift : (site.shift lines).sourceCalls = site.sourceCalls.map (shift lines) := by
  have calls : ∀ roots : List Site,
      ((roots.map (shift lines)).flatMap fun root => (root :: root.descendantsInScope).filter (·.kind.isCall)) =
        (roots.flatMap fun root => (root :: root.descendantsInScope).filter (·.kind.isCall)).map (shift lines) := by
    intro roots
    rw [List.flatMap_map, List.map_flatMap]
    refine List.flatMap_congr fun root _ => ?_
    rw [descendantsInScope_shift, ← List.map_cons, List.filter_map]
    simp [Function.comp_def]
  unfold sourceCalls
  rw [node_shift, Node.isLoop_shift]
  split
  · rw [onceChildren_shift, calls]
  · rw [children_shift, List.filter_map, calls]
    simp [Function.comp_def]

@[simp] theorem enclosingClass?_shift : (site.shift lines).enclosingClass? = site.enclosingClass?.map (shift lines) := by
  simp [enclosingClass?]

end Site

namespace Scope

def shift (lines : Nat) (scope : Scope) : Scope :=
  { scope with root := scope.root.shift lines }

variable (lines : Nat) (scope : Scope)

@[simp] theorem root_shift : (scope.shift lines).root = scope.root.shift lines := rfl

@[simp] theorem isUnit_shift : (scope.shift lines).isUnit = scope.isUnit := rfl

@[simp] theorem name_shift : (scope.shift lines).name = scope.name := rfl

@[simp] theorem paramCount_shift : (scope.shift lines).paramCount = scope.paramCount := rfl

@[simp] theorem depth_shift : (scope.shift lines).depth = scope.depth := rfl

@[simp] theorem id_shift : (scope.shift lines).id = scope.id := scope.root.id_shift lines

@[simp] theorem span_shift : (scope.shift lines).span = scope.span.shift lines := scope.root.span_shift lines

@[simp] theorem function?_shift : (scope.shift lines).function? = scope.function? := by
  simp [function?]

@[simp] theorem params_shift : (scope.shift lines).params = scope.params := by
  simp [params]

@[simp] theorem paramType?_shift (name : String) : (scope.shift lines).paramType? name = scope.paramType? name := by
  simp [paramType?]

@[simp] theorem nodes_shift : (scope.shift lines).nodes = scope.nodes.map (Site.shift lines) := by
  simp [nodes, List.filter_map, Function.comp_def]

@[simp] theorem assignmentsTo_shift (name : String) :
    (scope.shift lines).assignmentsTo name = (scope.assignmentsTo name).map (Site.shift lines) := by
  simp [assignmentsTo, List.filter_map, Function.comp_def]

end Scope

theorem latestStart_shift (lines : Nat) (sites : List Site) :
    latestStart (sites.map (Site.shift lines)) = (latestStart sites).map (Site.shift lines) := by
  induction sites with
  | nil => rfl
  | cons site sites ih =>
    rw [List.map_cons, latestStart, latestStart, ih]
    cases latestStart sites with
    | none => rfl
    | some later =>
      simp only [Option.map_some, Site.span_shift, Span.start_shift, Position.lt_shift]
      split <;> rfl

theorem firstFetch?_shift (lines : Nat) (calls : List Site) :
    firstFetch? (calls.map (Site.shift lines)) = (firstFetch? calls).map (Prod.map id (Site.shift lines)) := by
  have fetches : ((calls.map (Site.shift lines)).filterMap fun call =>
      call.node.fetchStrength?.map fun strength => (strength, call)) =
      (calls.filterMap fun call => call.node.fetchStrength?.map fun strength => (strength, call)).map
        (Prod.map id (Site.shift lines)) := by
    rw [List.filterMap_map, List.map_filterMap]
    simp [Function.comp_def]
  unfold firstFetch?
  dsimp only
  rw [fetches, List.find?_map, List.head?_map, ← Option.map_or]
  rfl

namespace Outline

def shift (lines : Nat) (outline : Outline) : Outline :=
  { outline with
    root := outline.root.shift lines
    numbered := by
      rw [Node.ids_shift]
      exact outline.numbered }

variable (lines : Nat) (outline : Outline)

@[simp] theorem root_shift : (outline.shift lines).root = outline.root.shift lines := rfl

@[simp] theorem rootSite_shift : (outline.shift lines).rootSite = outline.rootSite.shift lines := rfl

@[simp] theorem preorder_shift : (outline.shift lines).preorder = outline.preorder.map (Site.shift lines) :=
  Site.walk_shift lines false [] outline.root

@[simp] theorem sites_shift : (outline.shift lines).sites = outline.sites.map (Site.shift lines) := by
  rw [sites, sites, preorder_shift, List.map_mergeSort]
  simp

@[simp] theorem site?_shift (id : Nat) : (outline.shift lines).site? id = (outline.site? id).map (Site.shift lines) := by
  simp [site?]

@[simp] theorem text_shift (node : Node) : (outline.shift lines).text (node.shift lines) = outline.text node := by
  rw [text, Node.span_shift]
  rfl

@[simp] theorem loopLabel_shift (node : Node) :
    (outline.shift lines).loopLabel (node.shift lines) = outline.loopLabel node := by
  simp [loopLabel]

@[simp] theorem inBounds_shift (span : Span) : (outline.shift lines).inBounds (span.shift lines) = outline.inBounds span := by
  simp [inBounds]

@[simp] theorem unitScope_shift : (outline.shift lines).unitScope = outline.unitScope.shift lines := rfl

theorem nearestFunction_shift (unit : Nat) (path : List Node) :
    nearestFunction unit (path.map (Node.shift lines)) = nearestFunction unit path := by
  simp only [nearestFunction, List.find?_map, Function.comp_def, Node.isFunction_shift]
  cases path.find? _ <;> simp

@[simp] theorem functionScope_shift (site : Site) :
    (outline.shift lines).functionScope (site.shift lines) = (outline.functionScope site).shift lines := by
  simp [functionScope, Scope.ofFunction, Scope.shift, nearestFunction_shift, Function.comp_def]

@[simp] theorem scopes_shift : (outline.shift lines).scopes = outline.scopes.map (Scope.shift lines) := by
  simp [scopes_eq, List.filter_map, Function.comp_def]

@[simp] theorem scope?_shift (id : Nat) : (outline.shift lines).scope? id = (outline.scope? id).map (Scope.shift lines) := by
  rw [scope?, scope?, scopes_shift, ← List.map_reverse, List.find?_map]
  simp

theorem owners_shift : (outline.shift lines).scopeTable.owners = outline.scopeTable.owners := by
  have walks := outline.preorder_shift lines
  unfold preorder at walks
  simp only [scopeTable_eq, ScopeTable.under_owners, walks, List.map_map]
  refine List.map_congr_left fun site _ => ?_
  have path := nearestFunction_shift lines outline.root.id (site.node :: site.above)
  simp [← path]

@[simp] theorem scopeOf_shift (site : Site) :
    (outline.shift lines).scopeOf (site.shift lines) = (outline.scopeOf site).shift lines := by
  rw [scopeOf, scopeOf, owners_shift, Site.id_shift]
  cases outline.scopeTable.owners.lookup site.id with
  | none => rfl
  | some id => simp

@[simp] theorem lookupScopes_shift (scope : Scope) :
    (outline.shift lines).lookupScopes (scope.shift lines) = (outline.lookupScopes scope).map (Scope.shift lines) := by
  rw [lookupScopes, lookupScopes, Scope.isUnit_shift]
  split <;> rfl

@[simp] theorem lastAssignment?_shift (scope : Scope) (name : String) (before : Position) :
    (outline.shift lines).lastAssignment? (scope.shift lines) name (before.shift lines) =
      (outline.lastAssignment? scope name before).map (Site.shift lines) := by
  simp only [lastAssignment?, lookupScopes_shift, List.findSome?_map, Function.comp_def, Scope.assignmentsTo_shift,
    List.filter_map, Site.span_shift, Span.finish_shift, Position.le_shift, latestStart_shift, List.map_findSome?]

theorem assignedKinds_shift (sites : List Site) : assignedKinds (sites.map (Site.shift lines)) = assignedKinds sites := by
  simp [assignedKinds, List.filterMap_map, Function.comp_def]

theorem scopeKinds_shift (scope : Scope) (name : String) : scopeKinds (scope.shift lines) name = scopeKinds scope name := by
  simp [scopeKinds, assignedKinds_shift]

@[simp] theorem originKinds_shift (site : Site) (name : String) :
    (outline.shift lines).originKinds (site.shift lines) name = outline.originKinds site name := by
  simp only [originKinds, Site.enclosingClass?_shift, rootSite_shift, Option.getD_map, Site.descendants_shift,
    List.filter_map, assignedKinds_shift, scopeOf_shift, lookupScopes_shift, List.map_map, Function.comp_def,
    scopeKinds_shift, Site.node_shift, Node.assignment?_shift]

@[simp] theorem initializedOutside_shift (loop : Site) (name : String) :
    (outline.shift lines).initializedOutside (loop.shift lines) name = outline.initializedOutside loop name := by
  simp [initializedOutside]

@[simp] theorem isUnitConstant_shift (name : String) :
    (outline.shift lines).isUnitConstant name = outline.isUnitConstant name := by
  simp only [isUnitConstant, unitScope_shift, Scope.assignmentsTo_shift]
  match outline.unitScope.assignmentsTo name with
  | [] => rfl
  | [only] => simp
  | _ :: _ :: _ => rfl

@[simp] theorem persistentRegion?_shift (site : Site) (receiver root : String) :
    (outline.shift lines).persistentRegion? (site.shift lines) receiver root =
      (outline.persistentRegion? site receiver root).map (Site.shift lines) := by
  simp only [persistentRegion?, Site.enclosingClass?_shift, rootSite_shift, Option.getD_map, scopeOf_shift,
    Scope.isUnit_shift, Scope.params_shift, unitScope_shift, Scope.assignmentsTo_shift, List.isEmpty_map,
    apply_ite (Option.map (Site.shift lines)), Option.map_none, Option.map_some]

@[simp] theorem fetchedOrigin?_shift (loop : Site) :
    (outline.shift lines).fetchedOrigin? (loop.shift lines) =
      (outline.fetchedOrigin? loop).map (Prod.map id (Site.shift lines)) := by
  unfold fetchedOrigin?
  rw [Site.sourceCalls_shift, firstFetch?_shift]
  cases firstFetch? loop.sourceCalls with
  | some origin => rfl
  | none =>
    simp only [Option.map_none, Site.node_shift, Node.loopRoot_shift, scopeOf_shift, Site.span_shift, Span.start_shift,
      lastAssignment?_shift]
    split
    · rfl
    · cases outline.lastAssignment? (outline.scopeOf loop) loop.node.loopRoot loop.span.start with
      | none => rfl
      | some assignment =>
        simp only [Option.map_some, Site.descendantsInScope_shift, List.filter_map, firstFetch?_shift,
          Function.comp_def, Site.kind_shift]

end Outline
end Perflint
