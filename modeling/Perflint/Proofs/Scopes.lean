import Mathlib
import Perflint.Proofs.Sites

namespace Perflint

-- The identifier of the nearest function of a path, and of the unit where there is none.
def nearestFunction (unit : Nat) (path : List Node) : Nat :=
  match path.find? (·.isFunction) with
  | some node => node.id
  | none => unit

theorem nearestFunction_cons (unit : Nat) (node : Node) (path : List Node) :
    nearestFunction unit (node :: path) = if node.isFunction then node.id else nearestFunction unit path := by
  unfold nearestFunction
  rw [List.find?_cons]
  cases node.isFunction <;> rfl

namespace Site

theorem map_node_ancestorsFrom (above : List Node) : (ancestorsFrom above).map Site.node = above := by
  induction above with
  | nil => rfl
  | cons node above ih => rw [ancestorsFrom, List.map_cons, ih]

-- The way up from a node, the node included.
theorem map_node_upward (site : Site) : (site :: site.ancestors).map Site.node = site.node :: site.above := by
  rw [List.map_cons, ancestors, map_node_ancestorsFrom]

end Site

namespace ScopeTable

-- The table of a walk that has come down a path.
def under (unit : Nat) (above : List Node) (node : Node) : ScopeTable :=
  ofNode above (nearestFunction unit above) (above.countP (·.isFunction)) node

theorem ofNodes_functions (above : List Node) (owner depth : Nat) (nodes : List Node) :
    (ofNodes above owner depth nodes).functions = nodes.flatMap fun node => (ofNode above owner depth node).functions := by
  induction nodes with
  | nil => rfl
  | cons node rest ih =>
    rw [ofNodes, List.flatMap_cons, ← ih]

theorem ofNodes_owners (above : List Node) (owner depth : Nat) (nodes : List Node) :
    (ofNodes above owner depth nodes).owners = nodes.flatMap fun node => (ofNode above owner depth node).owners := by
  induction nodes with
  | nil => rfl
  | cons node rest ih =>
    rw [ofNodes, List.flatMap_cons, ← ih]

-- What a node hands down is what the path through it says: its nearest function, and how many there are.
theorem under_eq (unit : Nat) (above : List Node) (node : Node) :
    (under unit above node).functions =
        (if node.isFunction then
          [.ofFunction { node, above } (nearestFunction unit above) (above.countP (·.isFunction))] else []) ++
          node.children.flatMap (fun child => (under unit (node :: above) child).functions) ∧
      (under unit above node).owners = (node.id, nearestFunction unit (node :: above)) ::
        node.children.flatMap fun child => (under unit (node :: above) child).owners := by
  cases node with
  | mk head children =>
    simp only [under, ofNode, nearestFunction_cons, List.countP_cons, ← ofNodes_functions, ← ofNodes_owners]
    cases Node.isFunction (.mk head children) <;> exact ⟨rfl, rfl⟩

theorem under_functions (unit : Nat) (above : List Node) (node : Node) :
    (under unit above node).functions = ((Site.walk false above node).filter (·.node.isFunction)).map fun site =>
      .ofFunction site (nearestFunction unit site.above) (site.above.countP (·.isFunction)) := by
  induction node using Node.nested_induction generalizing above with
  | step node ih =>
    rw [(under_eq unit above node).1, Site.walk_eq, List.flatMap_congr fun child member => ih child member _]
    cases opens : node.isFunction <;> simp [opens, List.filter_flatMap, List.map_flatMap]

theorem under_owners (unit : Nat) (above : List Node) (node : Node) :
    (under unit above node).owners =
      (Site.walk false above node).map fun site => (site.id, nearestFunction unit (site.node :: site.above)) := by
  induction node using Node.nested_induction generalizing above with
  | step node ih =>
    rw [(under_eq unit above node).2, Site.walk_eq, List.flatMap_congr fun child member => ih child member _]
    simp [List.map_flatMap, Site.id]

end ScopeTable

namespace Outline

variable {outline : Outline} {site : Site} {scope : Scope}

-- A function as a scope, told by the path to it.
def functionScope (outline : Outline) (site : Site) : Scope :=
  .ofFunction site (nearestFunction outline.root.id site.above) (site.above.countP (·.isFunction))

theorem scopeTable_eq (outline : Outline) : outline.scopeTable = .under outline.root.id [] outline.root :=
  rfl

-- The walk comes to the functions in preorder; sorted, they are in the order of the nodes.
theorem scopes_eq (outline : Outline) :
    outline.scopes = outline.unitScope :: (outline.sites.filter (·.node.isFunction)).map outline.functionScope := by
  have sorted : ((outline.preorder.filter (·.node.isFunction)).mergeSort fun a b => a.id ≤ b.id).map
      outline.functionScope =
        ((outline.preorder.filter (·.node.isFunction)).map outline.functionScope).mergeSort fun a b => a.id ≤ b.id :=
    List.map_mergeSort fun _ _ _ _ => rfl
  rw [scopes, scopeTable_eq, ScopeTable.under_functions, sites, filter_mergeSort]
  · exact congrArg (List.cons _) sorted.symm
  · simp only [decide_eq_true_eq]
    exact fun _ _ _ => Nat.le_trans
  · simp only [Bool.or_eq_true, decide_eq_true_eq]
    exact fun _ _ => Nat.le_total _ _

-- Where the walk comes to the functions in the order of their identifiers, nothing is left to sort.
theorem scopeOf_of_ascending (ascending : outline.scopeTable.functions.Pairwise fun a b => a.id ≤ b.id) (site : Site) :
    outline.scopeOf site = ((outline.scopeTable.owners.lookup site.id).bind fun id =>
      (outline.unitScope :: outline.scopeTable.functions).reverse.find? (·.id == id)).getD outline.unitScope := by
  have sorted : outline.scopes = outline.unitScope :: outline.scopeTable.functions := by
    rw [scopes, List.mergeSort_of_pairwise (by simpa using ascending)]
  rw [← sorted]
  rfl

theorem mem_scopes : scope ∈ outline.scopes ↔ scope = outline.unitScope ∨
    ∃ owner, outline.Holds owner ∧ owner.node.isFunction = true ∧ outline.functionScope owner = scope := by
  rw [scopes_eq, List.mem_cons]
  simp only [List.mem_map, List.mem_filter, mem_sites, and_assoc]

theorem holds_scope (member : scope ∈ outline.scopes) : outline.Holds scope.root := by
  rcases mem_scopes.mp member with rfl | ⟨owner, held, _, rfl⟩
  · exact outline.holds_root
  · exact held

theorem exists_scope? {id : Nat} (known : ∃ scope ∈ outline.scopes, scope.id = id) :
    ∃ scope, outline.scope? id = some scope := by
  obtain ⟨scope, member, same⟩ := known
  refine Option.isSome_iff_exists.mp (List.find?_isSome.mpr ⟨scope, List.mem_reverse.mpr member, ?_⟩)
  rw [same, beq_self_eq_true]

theorem scope?_function (held : outline.Holds site) (isFunction : site.node.isFunction = true) :
    outline.scope? site.id = some (outline.functionScope site) := by
  have listed : outline.functionScope site ∈
      ((outline.sites.filter (·.node.isFunction)).map outline.functionScope).reverse :=
    List.mem_reverse.mpr (List.mem_map_of_mem (List.mem_filter.mpr ⟨mem_sites.mpr held, isFunction⟩))
  have distinct : (((outline.sites.filter (·.node.isFunction)).map outline.functionScope).reverse.map Scope.id).Nodup := by
    rw [List.map_reverse, List.nodup_reverse, List.map_map]
    exact outline.sites_ids_nodup.sublist (List.filter_sublist.map _)
  rw [scope?, scopes_eq, List.reverse_cons, List.find?_append]
  exact congrArg (Option.or · _) (find?_key Scope.id distinct listed)

theorem scope?_unit (plainRoot : outline.root.isFunction = false) :
    outline.scope? outline.root.id = some outline.unitScope := by
  obtain ⟨found, isFound⟩ := exists_scope? ⟨outline.unitScope, mem_scopes.mpr (.inl rfl), rfl⟩
  have same := List.find?_some isFound
  rcases mem_scopes.mp (List.mem_reverse.mp (List.mem_of_find?_eq_some isFound)) with rfl | ⟨owner, held, opens, rfl⟩
  · exact isFound
  · cases eq_of_id_eq held outline.holds_root (beq_iff_eq.mp same)
    cases opens.symm.trans plainRoot

theorem owners_lookup (held : outline.Holds site) :
    outline.scopeTable.owners.lookup site.id = some (nearestFunction outline.root.id (site.node :: site.above)) := by
  rw [scopeTable_eq, ScopeTable.under_owners]
  exact lookup_key Site.id _ outline.preorder_ids_nodup (mem_preorder.mpr held)

theorem holds_upward {owner : Site} (held : outline.Holds site) (member : owner ∈ site :: site.ancestors) :
    outline.Holds owner := by
  rcases List.mem_cons.mp member with rfl | higher
  · exact held
  · exact holds_ancestor held higher

-- The scope that the table gives a node is that of the nearest function, the node itself included.
theorem scopeOf_eq (held : outline.Holds site) :
    outline.scopeOf site =
      match (site :: site.ancestors).find? (·.node.isFunction) with
      | some owner => outline.functionScope owner
      | none => outline.unitScope := by
  rw [scopeOf, owners_lookup held, nearestFunction, ← Site.map_node_upward, List.find?_map]
  cases found : (site :: site.ancestors).find? (·.node.isFunction) with
  | none =>
    have plainRoot := List.find?_eq_none.mp found outline.rootSite (rootSite_mem held)
    have isUnit : outline.scope? outline.root.id = some outline.unitScope :=
      scope?_unit (Bool.eq_false_iff.mpr plainRoot)
    simp [found, isUnit]
  | some owner =>
    have ownerHeld := holds_upward held (List.mem_of_find?_eq_some found)
    have isFunction := List.find?_some found
    have isOwner : outline.scope? owner.node.id = _ := scope?_function ownerHeld isFunction
    simp [found, isOwner]

theorem scopeOf_cases (held : outline.Holds site) :
    outline.scopeOf site = outline.unitScope ∨
      ∃ owner ∈ site :: site.ancestors, owner.node.isFunction = true ∧
        outline.scopeOf site = outline.functionScope owner := by
  rw [scopeOf_eq held]
  split
  · rename_i owner found
    have isFunction := List.find?_some found
    exact .inr ⟨owner, List.mem_of_find?_eq_some found, isFunction, rfl⟩
  · exact .inl rfl

theorem scopeOf_mem_scopes (held : outline.Holds site) : outline.scopeOf site ∈ outline.scopes := by
  rcases scopeOf_cases held with isUnit | ⟨owner, member, isFunction, isOwner⟩
  · exact mem_scopes.mpr (.inl isUnit)
  · exact mem_scopes.mpr (.inr ⟨owner, holds_upward held member, isFunction, isOwner.symm⟩)

theorem scopeOf_eq_unitScope_iff (held : outline.Holds site) : outline.scopeOf site = outline.unitScope ↔
    ∀ node ∈ site.node :: site.above, node.isFunction = false := by
  rw [scopeOf_eq held, ← Site.map_node_upward, List.forall_mem_map]
  constructor
  · intro isUnit
    split at isUnit
    · cases congrArg Scope.isUnit isUnit
    · rename_i none
      exact fun owner member => by simpa using List.find?_eq_none.mp none owner member
  · intro clear
    have none : (site :: site.ancestors).find? (·.node.isFunction) = none := by
      rw [List.find?_eq_none]
      intro owner member
      simp [clear owner member]
    rw [none]

-- Scopes are told apart by identifier, so the one that is looked up has the root of the one that was meant.
theorem scope?_root (member : scope ∈ outline.scopes) :
    ∃ found, outline.scope? scope.id = some found ∧ found.root = scope.root := by
  obtain ⟨found, isFound⟩ := exists_scope? ⟨scope, member, rfl⟩
  refine ⟨found, isFound, ?_⟩
  have foundMember : found ∈ outline.scopes := List.mem_reverse.mp (List.mem_of_find?_eq_some isFound)
  have same := List.find?_some isFound
  exact eq_of_id_eq (holds_scope foundMember) (holds_scope member) (beq_iff_eq.mp same)

end Outline
end Perflint
