import Mathlib
import Perflint.Proofs.Lookups
import Perflint.Proofs.Scopes
import Perflint.Proofs.TwinEstimates

namespace Perflint

namespace Node

mutual

-- The node with `body` in place of the children of the node `target`.
def withBody (target : Nat) (body : List Node) : Node → Node
  | .mk head children => .mk head (if head.id == target then body else withBodyAll target body children)

def withBodyAll (target : Nat) (body : List Node) : List Node → List Node
  | [] => []
  | node :: rest => withBody target body node :: withBodyAll target body rest

end

variable {target : Nat} {body : List Node} {node other : Node}

theorem withBodyAll_eq (nodes : List Node) : withBodyAll target body nodes = nodes.map (withBody target body) := by
  induction nodes with
  | nil => rfl
  | cons node rest ih => rw [withBodyAll, ih, List.map_cons]

theorem head_withBody (node : Node) : (node.withBody target body).head = node.head := by
  cases node with
  | mk head children => rw [withBody, Node.head, Node.head]

theorem children_withBody (apart : node.id ≠ target) :
    (node.withBody target body).children = node.children.map (withBody target body) := by
  cases node with
  | mk head children =>
    have differs : (head.id == target) = false := beq_eq_false_iff_ne.mpr apart
    rw [withBody, differs, if_neg Bool.false_ne_true, withBodyAll_eq, Node.children, Node.children]

mutual

-- Every node gets its place in the preorder, from `next` on.
def renumber (next : Nat) : Node → Node
  | .mk head children => .mk { head with id := next } (renumberAll (next + 1) children)

def renumberAll (next : Nat) : List Node → List Node
  | [] => []
  | node :: rest => renumber next node :: renumberAll (next + node.ids.length) rest

end

mutual

theorem ids_renumber (next : Nat) : (node : Node) → (node.renumber next).ids = List.range' next node.ids.length
  | .mk head children => by
    have below := ids_renumberAll (next + 1) children
    simp only [renumber, ids, preorder, List.map_cons, List.length_cons, List.length_map] at below ⊢
    rw [below, List.range'_succ]
    rfl

theorem ids_renumberAll (next : Nat) : (nodes : List Node) →
    (preorderAll (renumberAll next nodes)).map id = List.range' next (preorderAll nodes).length
  | [] => rfl
  | node :: rest => by
    have here := ids_renumber next node
    have after := ids_renumberAll (next + node.ids.length) rest
    simp only [ids, List.length_map] at here after
    simp only [renumberAll, ids, preorderAll, List.map_append, List.length_append, List.length_map, here, after,
      List.range'_append_1]

end

theorem numbered_renumber (node : Node) : (node.renumber 0).ids.Perm (List.range (node.renumber 0).ids.length) := by
  rw [ids_renumber, List.length_range', List.range_eq_range']

theorem head_renumber (next : Nat) (node : Node) : (node.renumber next).head = { node.head with id := next } := by
  cases node with
  | mk head children => rfl

theorem children_renumber (next : Nat) (node : Node) :
    List.Forall₂ (fun child other => ∃ first, other = child.renumber first) node.children
      (node.renumber next).children := by
  have all : ∀ (nodes : List Node) (first : Nat),
      List.Forall₂ (fun child other => ∃ first, other = renumber first child) nodes (renumberAll first nodes) := by
    intro nodes
    induction nodes with
    | nil => exact fun _ => .nil
    | cons node rest ih => exact fun first => .cons ⟨first, rfl⟩ (ih _)
  cases node with
  | mk head children => exact all children (next + 1)

-- The second node is the first one after the change and a new numbering.
def Rebuilt (target : Nat) (body : List Node) (node other : Node) : Prop :=
  ∃ next, other = (node.withBody target body).renumber next

theorem Rebuilt.info (rebuilt : Rebuilt target body node other) : other.info = node.info := by
  obtain ⟨next, rfl⟩ := rebuilt
  rw [info, head_renumber, head_withBody, info]

theorem Rebuilt.span (rebuilt : Rebuilt target body node other) : other.span = node.span := by
  obtain ⟨next, rfl⟩ := rebuilt
  rw [Node.span, head_renumber, head_withBody, Node.span]

theorem Rebuilt.children (rebuilt : Rebuilt target body node other) (apart : node.id ≠ target) :
    List.Forall₂ (Rebuilt target body) node.children other.children := by
  obtain ⟨next, rfl⟩ := rebuilt
  have all := (node.withBody target body).children_renumber next
  rwa [children_withBody apart, List.forall₂_map_left_iff] at all

-- The change is out of sight where it is made in a function.
theorem Rebuilt.alike (rebuilt : Rebuilt target body node other)
    (inFunction : ∀ below ∈ node.preorder, below.id = target → below.isFunction = true) : node.Alike other := by
  induction node using nested_induction generalizing other with
  | step node ih =>
    by_cases same : node.id = target
    · exact .function (inFunction node (mem_preorder_self node) same) rebuilt.info rebuilt.span
    · refine .nested rebuilt.info rebuilt.span ?_
      refine forall₂_imp_mem (rebuilt.children same) fun child member other rebuilt => ih child member rebuilt ?_
      exact fun below inside => inFunction below ((preorder_sublist member).subset inside)

theorem Rebuilt.mirrors (rebuilt : Rebuilt target body node other) (apart : node.id ≠ target)
    (inFunction : ∀ below ∈ node.preorder, below.id = target → below.isFunction = true) : node.Mirrors other := by
  refine ⟨rebuilt.info, rebuilt.span, ?_⟩
  refine forall₂_imp_mem (rebuilt.children apart) fun child member other rebuilt => rebuilt.alike ?_
  exact fun below inside => inFunction below ((preorder_sublist member).subset inside)

end Node

-- The place that a list of positions leads to, each among the children of the one before.
def Site.follow? : List Nat → Site → Option Site
  | [], site => some site
  | position :: place, site => (site.children[position]?).bind (follow? place)

theorem Site.follow?_append (first second : List Nat) (site : Site) :
    site.follow? (first ++ second) = (site.follow? first).bind (follow? second) := by
  induction first generalizing site with
  | nil => rfl
  | cons position first ih =>
    rw [List.cons_append, follow?, follow?, Option.bind_assoc]
    exact congrArg _ (funext ih)

-- The outline with another body for the function `target`, numbered anew.
def Outline.withBody (outline : Outline) (target : Nat) (body : List Node) : Outline :=
  { outline with
    root := (outline.root.withBody target body).renumber 0
    numbered := Node.numbered_renumber _ }

-- Where the units mirror each other too, the names that a scope looks up are the same.
theorem Scope.Twin.of_units {outline outline' : Outline} {scope scope' : Scope}
    (roots : Site.Mirrored outline outline' scope.root scope'.root)
    (units : Site.Mirrored outline outline' outline.rootSite outline'.rootSite)
    (source : outline'.source = outline.source) (isUnit : scope'.isUnit = scope.isUnit) (name : scope'.name = scope.name)
    (paramCount : scope'.paramCount = scope.paramCount) (depth : scope'.depth = scope.depth)
    (isFunction : scope.isUnit = false → scope.root.node.isFunction = true) : scope.Twin outline outline' scope' := by
  have unitSame : ∀ name, List.Forall₂ Site.SaysSame (outline.unitScope.assignmentsTo name)
      (outline'.unitScope.assignmentsTo name) := Scope.assignmentsTo_same units
  have found : ∀ name place, Option.Rel Site.SaysSame (outline.lastAssignment? scope name place)
      (outline'.lastAssignment? scope' name place) := fun name place =>
    Outline.lastAssignment?_rel (fun _ _ same => same.span) isUnit (Scope.assignmentsTo_same roots name)
      (unitSame name) place
  have constants : outline'.isUnitConstant = outline.isUnitConstant :=
    funext fun name => Outline.isUnitConstant_eq (unitSame name)
  refine ⟨roots, source, isUnit, name, paramCount, depth, isFunction,
    fun name place => isSome_of_rel (found name place), ?_⟩
  intro loop loop' l twin member isLoop
  have plain : loop.node.isFunction = false := by simpa using (List.mem_filter.mp member).2
  have counts := Bound.countsToLiteral_eq (Bound.assignmentsIn_twin roots ⟨twin, plain⟩) (twin.span roots)
    fun name (_ : name ∈ l.conditionNames) => found name loop.span.start
  rw [Bound.isConstant, Bound.isConstant, constants, counts, Bound.isLiteralCollection_eq (unitSame l.iterable)]

namespace Outline

variable {outline : Outline} {function site : Site} (held : outline.Holds function)
  (isFunction : function.node.isFunction = true) (body : List Node)

include held isFunction

theorem isFunction_of_id {node below : Node} {above : List Node} (leads : Site.Leads outline.root node above)
    (inside : below ∈ node.preorder) (same : below.id = function.id) : below.isFunction = true := by
  have inRoot : below ∈ outline.preorder.map Site.node := by
    rw [preorder, Site.map_node_walk]
    exact (preorder_sublist_of_leads leads).subset inside
  obtain ⟨place, isPlace, rfl⟩ := List.mem_map.mp inRoot
  rw [eq_of_id_eq (mem_preorder.mp isPlace) held same]
  exact isFunction

omit isFunction held in
-- What does not lie in the function stands where it stood.
theorem exists_rebuilt (target : Nat) (siteHeld : outline.Holds site)
    (outside : ∀ upper ∈ site.ancestors, upper.id ≠ target) :
    ∃ place site', outline.rootSite.follow? place = some site ∧
      (outline.withBody target body).rootSite.follow? place = some site' ∧ (outline.withBody target body).Holds site' ∧
      site.node.Rebuilt target body site'.node ∧
      site'.above.countP (·.isFunction) = site.above.countP (·.isFunction) := by
  obtain ⟨node, above⟩ := site
  induction above generalizing node with
  | nil =>
    cases siteHeld
    exact ⟨[], (outline.withBody target body).rootSite, rfl, rfl, rfl, ⟨0, rfl⟩, rfl⟩
  | cons parent above ih =>
    obtain ⟨isChild, parentHeld⟩ := siteHeld
    obtain ⟨place, parent', found, found', held', rebuilt, depth⟩ := ih parent parentHeld fun upper member =>
      outside upper (List.mem_cons_of_mem _ member)
    have children := rebuilt.children (outside { node := parent, above } List.mem_cons_self)
    obtain ⟨i, inside, rfl⟩ := List.getElem_of_mem isChild
    have inside' : i < parent'.node.children.length := children.length_eq ▸ inside
    refine ⟨place ++ [i], { node := parent'.node.children[i], above := parent'.node :: parent'.above }, ?_, ?_, ?_, ?_, ?_⟩
    · rw [Site.follow?_append, found, Option.bind_some]
      simp [Site.follow?, Site.children, inside]
    · rw [Site.follow?_append, found', Option.bind_some]
      simp [Site.follow?, Site.children, inside']
    · exact holds_child held' (List.getElem_mem inside')
    · exact children.get inside inside'
    · rw [List.countP_cons, List.countP_cons, depth, Node.isFunction_of_info rebuilt.info]

theorem exists_twin {scope : Scope} (member : scope ∈ outline.scopes)
    (outside : function ∉ scope.root :: scope.root.ancestors) :
    ∃ place, ∃ scope' ∈ (outline.withBody function.id body).scopes,
      outline.rootSite.follow? place = some scope.root ∧
      (outline.withBody function.id body).rootSite.follow? place = some scope'.root ∧ scope'.isUnit = scope.isUnit ∧
      scope.Twin outline (outline.withBody function.id body) scope' := by
  have scopeHeld := holds_scope member
  have apart : ∀ upper ∈ scope.root :: scope.root.ancestors, upper.id ≠ function.id := by
    intro upper isUpper same
    have upperHeld : outline.Holds upper := by
      rcases List.mem_cons.mp isUpper with rfl | above
      · exact scopeHeld
      · exact holds_ancestor scopeHeld above
    exact outside (eq_of_id_eq upperHeld held same ▸ isUpper)
  obtain ⟨place, root', found, found', held', rebuilt, depth⟩ := exists_rebuilt body function.id scopeHeld
    fun upper above => apart upper (List.mem_cons_of_mem _ above)
  have units : Site.Mirrored outline (outline.withBody function.id body) outline.rootSite
      (outline.withBody function.id body).rootSite := by
    refine ⟨rfl, rfl, Node.Rebuilt.mirrors ⟨0, rfl⟩ (apart _ (rootSite_mem scopeHeld)) fun below inside same => ?_⟩
    exact isFunction_of_id held isFunction outline.holds_root inside same
  have roots : Site.Mirrored outline (outline.withBody function.id body) scope.root root' :=
    ⟨scopeHeld, held', rebuilt.mirrors (apart _ List.mem_cons_self) fun below inside same =>
      isFunction_of_id held isFunction scopeHeld inside same⟩
  rcases mem_scopes.mp member with rfl | ⟨owner, _, ownerIsFunction, rfl⟩
  · refine ⟨[], (outline.withBody function.id body).unitScope, List.mem_cons_self, rfl, rfl, rfl, ?_⟩
    exact .of_units units units rfl rfl rfl rfl rfl fun notUnit => by cases notUnit
  · have info := Node.function?_of_info rebuilt.info
    have isFunction' : root'.node.isFunction = true := (Node.isFunction_of_info rebuilt.info).trans ownerIsFunction
    refine ⟨place, (outline.withBody function.id body).functionScope root', ?_, found, found', rfl, ?_⟩
    · exact mem_scopes.mpr (.inr ⟨root', held', isFunction', rfl⟩)
    · refine .of_units roots units rfl rfl ?_ ?_ depth fun _ => ownerIsFunction
      · simp only [functionScope, Scope.ofFunction, info]
      · simp only [functionScope, Scope.ofFunction, info]

end Outline

-- What is done in a function does not leak: whatever its body is replaced by, the scope that stands at the place of
-- one outside it has the same estimate.
theorem Estimate.ofScope_withBody {outline : Outline} {function : Site} (held : outline.Holds function)
    (isFunction : function.node.isFunction = true) (body : List Node) {scope : Scope} (member : scope ∈ outline.scopes)
    (outside : function ∉ scope.root :: scope.root.ancestors) :
    ∃ place, ∃ scope' ∈ (outline.withBody function.id body).scopes,
      outline.rootSite.follow? place = some scope.root ∧
      (outline.withBody function.id body).rootSite.follow? place = some scope'.root ∧ scope'.isUnit = scope.isUnit ∧
      (ofScope outline none scope).Agrees (ofScope (outline.withBody function.id body) none scope') := by
  obtain ⟨place, scope', member', found, found', isUnit, twins⟩ :=
    Outline.exists_twin held isFunction body member outside
  exact ⟨place, scope', member', found, found', isUnit, ofScope_agrees twins rfl⟩

def plainNode (id : Nat) (info : Info) (children : List Node) : Node :=
  .mk { id, span := default, grammarType := "", info } children

def emptyFunction : Node :=
  plainNode 1 (.function { name := "f" }) []

-- A function without a body, and a loop after it.
def functionThenLoop : Outline :=
  { language := "", source := { bytes := [] }
    root := plainNode 0 .unit [emptyFunction, plainNode 2 (.loop { kind := .forEach }) []]
    numbered := by decide }

theorem Estimate.functionThenLoop_withBody :
    ∃ place, ∃ scope' ∈ (functionThenLoop.withBody 1 [plainNode 0 (.loop { kind := .whileDo }) []]).scopes,
      functionThenLoop.rootSite.follow? place = some functionThenLoop.rootSite ∧
      (functionThenLoop.withBody 1 [plainNode 0 (.loop { kind := .whileDo }) []]).rootSite.follow? place =
        some scope'.root ∧
      scope'.isUnit = true ∧
      (ofScope functionThenLoop none functionThenLoop.unitScope).Agrees
        (ofScope (functionThenLoop.withBody 1 [plainNode 0 (.loop { kind := .whileDo }) []]) none scope') := by
  let function : Site := { node := emptyFunction, above := [functionThenLoop.root] }
  have held : functionThenLoop.Holds function := ⟨List.mem_cons_self, rfl⟩
  have outside : function ∉ functionThenLoop.unitScope.root :: functionThenLoop.unitScope.root.ancestors := by
    intro member
    cases congrArg Site.id (List.mem_singleton.mp member)
  exact ofScope_withBody held rfl _ List.mem_cons_self outside

end Perflint
