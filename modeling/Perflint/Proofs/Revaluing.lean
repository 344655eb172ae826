import Mathlib
import Perflint.Proofs.Lookups
import Perflint.Proofs.SameCalls

namespace Perflint

-- What an assignment says of its value.
structure Values where
  value : String
  kind : ValueKind
  names : List String
  calls : List String

def AssignmentInfo.withValues (values : Values) (a : AssignmentInfo) : AssignmentInfo :=
  { a with value := values.value, valueKind := values.kind, valueNames := values.names, valueCalls := values.calls }

-- Another value where `name` alone is assigned.
def Info.revalue (name : String) (values : Values) : Info → Info
  | .assignment a => .assignment (if a.targets = [name] then a.withValues values else a)
  | info => info

namespace Node

mutual

-- Other values for the assignments to `name` alone, functions apart. `values` gives them by identifier.
def revalue (name : String) (values : Nat → Values) : Node → Node
  | .mk head children =>
    if (Node.mk head children).isFunction then .mk head children
    else .mk { head with info := head.info.revalue name (values head.id) } (revalueAll name values children)

def revalueAll (name : String) (values : Nat → Values) : List Node → List Node
  | [] => []
  | node :: rest => revalue name values node :: revalueAll name values rest

end

variable (name : String) (values : Nat → Values)

theorem revalueAll_eq (nodes : List Node) : revalueAll name values nodes = nodes.map (revalue name values) := by
  induction nodes with
  | nil => rfl
  | cons node rest ih => rw [revalueAll, ih, List.map_cons]

theorem revalue_eq (node : Node) :
    node.revalue name values =
      if node.isFunction then node
      else .mk { node.head with info := node.info.revalue name (values node.id) }
        (node.children.map (revalue name values)) := by
  cases node with
  | mk head children =>
    rw [revalue, revalueAll_eq]
    rfl

theorem id_revalue (node : Node) : (node.revalue name values).id = node.id := by
  rw [revalue_eq]
  split <;> rfl

theorem span_revalue (node : Node) : (node.revalue name values).span = node.span := by
  rw [revalue_eq]
  split <;> rfl

theorem ids_eq (node : Node) : node.ids = node.id :: node.children.flatMap ids := by
  rw [ids, preorder_eq, List.map_cons, List.map_flatMap]
  rfl

theorem ids_revalue (node : Node) : (node.revalue name values).ids = node.ids := by
  induction node using nested_induction with
  | step node ih =>
    rw [revalue_eq]
    split
    · rfl
    · rw [ids_eq, ids_eq node, Node.children, List.flatMap_map, List.flatMap_congr ih]
      rfl

end Node

theorem Info.kind_revalue (name : String) (values : Values) (info : Info) :
    (info.revalue name values).kind = info.kind := by
  cases info <;> rfl

theorem Node.info_revalue (name : String) (values : Nat → Values) (node : Node) :
    ∃ given, (node.revalue name values).info = node.info.revalue name given := by
  rw [Node.revalue_eq]
  split
  · rename_i isFunction
    refine ⟨values 0, ?_⟩
    cases isInfo : node.info with
    | function f => rfl
    | _ => simp [Node.isFunction, Node.kind, isInfo, Info.kind] at isFunction
  · exact ⟨values node.id, rfl⟩

theorem Node.isFunction_revalue (name : String) (values : Nat → Values) (node : Node) :
    (node.revalue name values).isFunction = node.isFunction := by
  obtain ⟨given, info⟩ := node.info_revalue name values
  rw [Node.isFunction, Node.isFunction, Node.kind, Node.kind, info, Info.kind_revalue]

-- Other values for the assignments of the unit to `name` alone.
def Outline.revalue (outline : Outline) (name : String) (values : Nat → Values) : Outline :=
  { outline with
    root := .mk outline.root.head (outline.root.children.map (Node.revalue name values))
    numbered := by
      have same : Node.ids (.mk outline.root.head (outline.root.children.map (Node.revalue name values))) =
          outline.root.ids := by
        rw [Node.ids_eq, Node.ids_eq outline.root, Node.children, List.flatMap_map,
          List.flatMap_congr fun child _ => Node.ids_revalue name values child]
        rfl
      rw [same]
      exact outline.numbered }

-- Two nodes that differ at most in the value that they give to `name`.
structure Site.Revalued (name : String) (site site' : Site) : Prop where
  span : site'.span = site.span
  info : ∃ values, site'.node.info = site.node.info.revalue name values

variable {outline : Outline} {name : String} {values : Nat → Values}

theorem Site.walk_revalue (name : String) (values : Nat → Values) (above above' : List Node) (node : Node) :
    List.Forall₂ (Site.Revalued name) (walk true above node) (walk true above' (node.revalue name values)) := by
  induction node using Node.nested_induction generalizing above above' with
  | step node ih =>
    rw [walk_eq, walk_eq, Bool.true_and, Bool.true_and, Node.isFunction_revalue]
    refine .cons ⟨node.span_revalue name values, node.info_revalue name values⟩ ?_
    cases closed : node.isFunction with
    | true => exact .nil
    | false =>
      rw [if_neg Bool.false_ne_true, if_neg Bool.false_ne_true]
      have children : (node.revalue name values).children = node.children.map (Node.revalue name values) := by
        rw [Node.revalue_eq, closed, if_neg Bool.false_ne_true, Node.children]
      rw [children, List.flatMap_map]
      have pairs : List.Forall₂ (fun child other => child ∈ node.children ∧ other = child) node.children node.children :=
        List.forall₂_same.mpr fun child member => ⟨member, rfl⟩
      refine List.rel_flatMap pairs ?_
      rintro child other ⟨member, rfl⟩
      exact ih other member _ _

theorem Outline.unitNodes_revalue (outline : Outline) (name : String) (values : Nat → Values) :
    List.Forall₂ (Site.Revalued name) outline.unitScope.nodes (outline.revalue name values).unitScope.nodes := by
  have below : List.Forall₂ (Site.Revalued name) outline.rootSite.descendantsInScope
      (outline.revalue name values).rootSite.descendantsInScope := by
    rw [Site.descendantsInScope, Site.descendantsInScope, Site.walkAll_eq, Site.walkAll_eq]
    change List.Forall₂ _ _ ((outline.root.children.map (Node.revalue name values)).flatMap _)
    rw [List.flatMap_map]
    exact List.rel_flatMap (List.forall₂_same.mpr fun _ _ => rfl) fun child other same => by
      cases same
      exact Site.walk_revalue name values _ _ child
  refine (forall₂_filter below fun site site' same => ?_).imp fun _ _ pair => pair.1
  obtain ⟨given, info⟩ := same.info
  rw [Node.isFunction, Node.isFunction, Node.kind, Node.kind, info, Info.kind_revalue]

theorem Site.Revalued.assignment? {site site' : Site} (same : site.Revalued name site') :
    ∃ given, site'.node.assignment? =
      site.node.assignment?.map fun a => if a.targets = [name] then a.withValues given else a := by
  obtain ⟨given, info⟩ := same.info
  refine ⟨given, ?_⟩
  rw [Node.assignment?, Node.assignment?, info]
  cases site.node.info <;> rfl

theorem Site.Revalued.assigns {site site' : Site} (same : site.Revalued name site') (other : String) :
    (match site'.node.assignment? with
      | some a => a.targets.contains other
      | none => false) =
    match site.node.assignment? with
      | some a => a.targets.contains other
      | none => false := by
  obtain ⟨given, assigned⟩ := same.assignment?
  rw [assigned]
  cases site.node.assignment? with
  | none => rfl
  | some a =>
    rw [Option.map_some]
    dsimp only
    split <;> rfl

theorem Outline.unitAssignments_revalue (outline : Outline) (name : String) (values : Nat → Values) (other : String) :
    List.Forall₂ (Site.Revalued name) (outline.unitScope.assignmentsTo other)
      ((outline.revalue name values).unitScope.assignmentsTo other) :=
  (forall₂_filter (outline.unitNodes_revalue name values) fun _ _ same => same.assigns other).imp fun _ _ pair => pair.1

-- Of the other names the unit says the same.
theorem Outline.unitAssignments_same (outline : Outline) (values : Nat → Values) {other : String}
    (differs : other ≠ name) :
    List.Forall₂ Site.SaysSame (outline.unitScope.assignmentsTo other)
      ((outline.revalue name values).unitScope.assignmentsTo other) := by
  refine (forall₂_filter (outline.unitNodes_revalue name values) fun _ _ same => same.assigns other).imp ?_
  rintro site site' ⟨same, kept⟩
  obtain ⟨given, info⟩ := same.info
  refine ⟨?_, same.span⟩
  rw [info]
  cases isInfo : site.node.info with
  | assignment a =>
    rw [Node.assignment?, isInfo] at kept
    have apart : a.targets ≠ [name] := by
      intro alone
      simp [alone, differs] at kept
    rw [Info.revalue, if_neg apart]
  | _ => rfl

namespace Outline

-- Every place is still there. What lies in a function is as it was, and the rest has its children in the same order.
theorem exists_revalued (notFunction : outline.root.isFunction = false) (values : Nat → Values) {site : Site}
    (held : outline.Holds site) :
    ∃ site', (outline.revalue name values).Holds site' ∧ site'.node.isFunction = site.node.isFunction ∧
      site'.above.countP (·.isFunction) = site.above.countP (·.isFunction) ∧
      (site'.node = site.node ∨ (site.node.isFunction = false ∧
        site'.node.children = site.node.children.map (Node.revalue name values))) := by
  obtain ⟨node, above⟩ := site
  induction above generalizing node with
  | nil =>
    cases held
    exact ⟨(outline.revalue name values).rootSite, rfl, rfl, rfl, .inr ⟨notFunction, rfl⟩⟩
  | cons parent above ih =>
    obtain ⟨isChild, parentHeld⟩ := held
    obtain ⟨parent', held', isFunction, depth, same | ⟨_, children⟩⟩ := ih parent parentHeld
    · refine ⟨{ node, above := parent'.node :: parent'.above }, holds_child held' ?_, rfl, ?_, .inl rfl⟩
      · rw [same]
        exact isChild
      · rw [List.countP_cons, List.countP_cons, depth, isFunction]
    · refine ⟨{ node := node.revalue name values, above := parent'.node :: parent'.above }, holds_child held' ?_,
        node.isFunction_revalue name values, ?_, ?_⟩
      · rw [children]
        exact List.mem_map_of_mem isChild
      · rw [List.countP_cons, List.countP_cons, depth, isFunction]
      · dsimp only
        rw [Node.revalue_eq]
        cases node.isFunction with
        | true => exact .inl rfl
        | false => exact .inr ⟨rfl, rfl⟩

theorem exists_revalued_function (notFunction : outline.root.isFunction = false) (values : Nat → Values) {scope : Scope}
    (member : scope ∈ outline.functions) :
    ∃ scope' ∈ (outline.revalue name values).functions, scope'.root.node = scope.root.node ∧ scope'.name = scope.name ∧
      scope'.paramCount = scope.paramCount ∧ scope'.depth = scope.depth := by
  obtain ⟨owner, held, isFunction, rfl⟩ := mem_functions.mp member
  obtain ⟨owner', held', isFunction', depth, same | ⟨closed, _⟩⟩ := exists_revalued notFunction values held
  · refine ⟨(outline.revalue name values).functionScope owner', ?_, same, ?_, ?_, depth⟩
    · exact mem_functions.mpr ⟨owner', held', isFunction'.trans isFunction, rfl⟩
    · simp only [functionScope, Scope.ofFunction, same]
    · simp only [functionScope, Scope.ofFunction, same]
  · rw [isFunction] at closed
    cases closed

end Outline

theorem Node.callsAlike_revalue (name : String) (values : Nat → Values) (node : Node) :
    node.CallsAlike (node.revalue name values) := by
  obtain ⟨given, info⟩ := node.info_revalue name values
  refine ⟨node.id_revalue name values, node.isFunction_revalue name values, ?_, ?_⟩
  · rw [function?, function?, info]
    cases node.info <;> rfl
  · rw [call?, call?, info]
    cases node.info <;> rfl

-- What lies in a function is the same node on both sides, so the walks are compared for both kinds at once.
theorem Site.walk_callsAlike {node node' : Node} (alike : node' = node ∨ node' = node.revalue name values)
    {above above' : List Node} (all : List.Forall₂ Node.CallsAlike above above') :
    List.Forall₂ Site.CallsAlike (walk false above node) (walk false above' node') := by
  induction node using Node.nested_induction generalizing node' above above' with
  | step node ih =>
    have here : node.CallsAlike node' := by
      rcases alike with rfl | rfl
      · exact .refl node'
      · exact node.callsAlike_revalue name values
    have kept : List.Forall₂ (fun child child' => child' = child ∨ child' = child.revalue name values)
        node.children node.children := List.forall₂_same.mpr fun _ _ => .inl rfl
    have children : List.Forall₂ (fun child child' => child' = child ∨ child' = child.revalue name values)
        node.children node'.children := by
      rcases alike with rfl | rfl
      · exact kept
      · rw [Node.revalue_eq]
        split
        · exact kept
        · exact List.forall₂_map_right_iff.mpr (List.forall₂_same.mpr fun _ _ => .inr rfl)
    rw [walk_eq, walk_eq, Bool.false_and, Bool.false_and, if_neg Bool.false_ne_true, if_neg Bool.false_ne_true]
    refine .cons ⟨here, all⟩ (List.rel_flatMap (forall₂_imp_mem children fun child member child' pair =>
      (show child ∈ node.children ∧ _ from ⟨member, pair⟩)) ?_)
    rintro child child' ⟨member, pair⟩
    exact ih child member pair (.cons here all)

theorem Outline.callsAlike_revalue (outline : Outline) (name : String) (values : Nat → Values) :
    outline.CallsAlike (outline.revalue name values) := by
  have root : outline.root.CallsAlike (outline.revalue name values).root := ⟨rfl, rfl, rfl, rfl⟩
  have children : List.Forall₂ (fun child child' => child' = child ∨ child' = child.revalue name values)
      outline.root.children (outline.revalue name values).root.children :=
    List.forall₂_map_right_iff.mpr (List.forall₂_same.mpr fun _ _ => .inr rfl)
  refine ⟨rfl, ?_⟩
  rw [preorder, preorder, Site.walk_eq, Site.walk_eq, Bool.false_and, Bool.false_and, if_neg Bool.false_ne_true,
    if_neg Bool.false_ne_true]
  refine .cons ⟨root, .nil⟩ (List.rel_flatMap children ?_)
  exact fun child child' alike => Site.walk_callsAlike alike (.cons root .nil)

end Perflint
