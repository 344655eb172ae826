import Mathlib
import Perflint.CallGraph
import Perflint.Proofs.Nesting

namespace Perflint

namespace Site

-- A walk that stays in a scope comes to what has no function on the way.
theorem mem_walk_inScope {site : Site} {above : List Node} {top : Node} :
    site ∈ walk true above top ↔ ∃ path, Leads top site.node path ∧ site.above = path ++ above ∧
      ∀ node ∈ path, node.isFunction = false := by
  induction top using Node.nested_induction generalizing above with
  | step top ih =>
    rw [walk_eq, List.mem_cons, Bool.true_and]
    constructor
    · rintro (rfl | deeper)
      · exact ⟨[], rfl, rfl, by simp⟩
      · cases opened : top.isFunction with
        | true => simp [opened] at deeper
        | false =>
          rw [opened, if_neg Bool.false_ne_true, List.mem_flatMap] at deeper
          obtain ⟨child, isChild, member⟩ := deeper
          obtain ⟨path, leads, place, clear⟩ := (ih child isChild).mp member
          refine ⟨path ++ [top], leads_append leads ⟨isChild, rfl⟩, ?_, ?_⟩
          · rw [place, List.append_assoc, List.singleton_append]
          · intro node onPath
            rcases List.mem_append.mp onPath with lower | atTop
            · exact clear node lower
            · rw [List.mem_singleton.mp atTop, opened]
    · rintro ⟨path, leads, place, clear⟩
      rcases leads_split leads with ⟨atTop, rfl⟩ | ⟨child, isChild, lower, rfl, below⟩
      · left
        cases site
        simp_all
      · right
        have opened : top.isFunction = false := clear top (List.mem_append_right _ List.mem_cons_self)
        rw [opened, if_neg Bool.false_ne_true, List.mem_flatMap]
        refine ⟨child, isChild, (ih child isChild).mpr ⟨lower, below, ?_, ?_⟩⟩
        · rw [place, List.append_assoc, List.singleton_append]
        · exact fun node onPath => clear node (List.mem_append_left _ onPath)

theorem mem_descendantsInScope {site below : Site} : below ∈ site.descendantsInScope ↔
    ∃ child ∈ site.node.children, ∃ path, Leads child below.node path ∧
      below.above = path ++ site.node :: site.above ∧ ∀ node ∈ path, node.isFunction = false := by
  simp only [descendantsInScope, walkAll_eq, List.mem_flatMap, mem_walk_inScope]

theorem walk_inScope_sublist (above : List Node) (top : Node) :
    (walk true above top).Sublist (walk false above top) := by
  induction top using Node.nested_induction generalizing above with
  | step top ih =>
    rw [walk_eq, walk_eq, Bool.true_and, Bool.false_and, if_neg Bool.false_ne_true]
    refine List.Sublist.cons_cons _ ?_
    split
    · exact List.nil_sublist _
    · exact List.Sublist.flatMap_right _ fun child isChild => ih child isChild _

theorem inScope_sublist (site : Site) : site.descendantsInScope.Sublist site.descendants := by
  rw [descendantsInScope, descendants, walkAll_eq, walkAll_eq]
  exact List.Sublist.flatMap_right _ fun child _ => walk_inScope_sublist _ child

-- The nearest function above.
theorem find?_ancestorsFrom {above : List Node} {owner : Site} :
    (ancestorsFrom above).find? (·.node.isFunction) = some owner ↔
      owner.node.isFunction = true ∧ ∃ lower, above = lower ++ owner.node :: owner.above ∧
        ∀ node ∈ lower, node.isFunction = false := by
  induction above with
  | nil => simp [ancestorsFrom]
  | cons node above ih =>
    rw [ancestorsFrom, List.find?_cons]
    cases opens : node.isFunction with
    | true =>
      simp only [Option.some.injEq]
      constructor
      · rintro rfl
        exact ⟨opens, [], rfl, by simp⟩
      · rintro ⟨_, lower, split, clear⟩
        cases lower with
        | nil =>
          cases owner
          simp_all
        | cons first lower =>
          cases split
          rw [clear node List.mem_cons_self] at opens
          cases opens
    | false =>
      rw [ih]
      refine and_congr_right fun isFunction => ⟨?_, ?_⟩
      · rintro ⟨lower, rfl, clear⟩
        refine ⟨node :: lower, rfl, ?_⟩
        simpa [opens] using clear
      · rintro ⟨lower, split, clear⟩
        cases lower with
        | nil =>
          cases split
          rw [isFunction] at opens
          cases opens
        | cons first lower =>
          cases split
          exact ⟨lower, rfl, fun other member => clear other (List.mem_cons_of_mem _ member)⟩

theorem leads_middle {top middle node : Node} {lower upper : List Node}
    (leads : Leads top node (lower ++ middle :: upper)) : ∃ child ∈ middle.children, Leads child node lower := by
  induction lower generalizing node with
  | nil => exact ⟨node, leads.1, rfl⟩
  | cons parent lower ih =>
    obtain ⟨child, isChild, below⟩ := ih leads.2
    exact ⟨child, isChild, leads.1, below⟩

end Site

namespace Outline

variable {outline : Outline} {site : Site} {scope : Scope}

theorem functions_eq (outline : Outline) :
    outline.functions = (outline.sites.filter (·.node.isFunction)).map outline.functionScope := by
  rw [functions, scopes_eq, List.filter_cons_of_neg (by simp [unitScope]), List.filter_eq_self]
  intro scope member
  obtain ⟨_, _, rfl⟩ := List.mem_map.mp member
  rfl

theorem mem_functions : scope ∈ outline.functions ↔
    ∃ owner, outline.Holds owner ∧ owner.node.isFunction = true ∧ outline.functionScope owner = scope := by
  simp only [functions_eq, List.mem_map, List.mem_filter, mem_sites, and_assoc]

theorem functions_ids_nodup (outline : Outline) : (outline.functions.map Scope.id).Nodup := by
  rw [functions_eq, List.map_map]
  exact outline.sites_ids_nodup.sublist (List.filter_sublist.map _)

theorem function_eq_of_id_eq {other : Scope} (member : scope ∈ outline.functions)
    (otherMember : other ∈ outline.functions) (same : scope.id = other.id) : scope = other :=
  List.inj_on_of_nodup_map outline.functions_ids_nodup member otherMember same

-- A node belongs to a function or, where there is none up to the root, to the unit.
theorem scopeOf_mem_functions (held : outline.Holds site) :
    outline.scopeOf site ∈ outline.functions ∨
      (outline.scopeOf site = outline.unitScope ∧ outline.root.isFunction = false) := by
  rcases scopeOf_cases held with isUnit | ⟨owner, member, isFunction, isOwner⟩
  · have clear := (scopeOf_eq_unitScope_iff held).mp isUnit
    rw [← Site.map_node_upward] at clear
    exact .inr ⟨isUnit, clear _ (List.mem_map_of_mem (rootSite_mem held))⟩
  · exact .inl (mem_functions.mpr ⟨owner, holds_upward held member, isFunction, isOwner.symm⟩)

theorem function_not_unit (member : scope ∈ outline.functions) : scope.isUnit = false := by
  obtain ⟨_, _, _, rfl⟩ := mem_functions.mp member
  rfl

-- The unit has the identifier of a function only where the root is a function, and then nothing belongs to it.
theorem scopeOf_eq_iff (held : outline.Holds site) (member : scope ∈ outline.functions) :
    outline.scopeOf site = scope ↔ (outline.scopeOf site).id = scope.id := by
  refine ⟨congrArg Scope.id, fun same => ?_⟩
  rcases scopeOf_mem_functions held with isFunction | ⟨isUnit, plainRoot⟩
  · exact function_eq_of_id_eq isFunction member same
  · obtain ⟨owner, ownerHeld, isFunction, rfl⟩ := mem_functions.mp member
    rw [isUnit] at same
    have atRoot : outline.rootSite = owner := eq_of_id_eq outline.holds_root ownerHeld same
    rw [← atRoot] at isFunction
    exact absurd isFunction (by simp [rootSite, plainRoot])

theorem isUnit_scopeOf_ne (held : outline.Holds site) (member : scope ∈ outline.functions)
    (isUnit : (outline.scopeOf site).isUnit = true) : (outline.scopeOf site).id ≠ scope.id := by
  intro same
  rw [(scopeOf_eq_iff held member).mpr same, function_not_unit member] at isUnit
  cases isUnit

-- The nodes of a function are those that belong to it, save the function itself.
theorem mem_nodes (member : scope ∈ outline.functions) :
    site ∈ scope.nodes ↔ outline.Holds site ∧ site.node.isFunction = false ∧ outline.scopeOf site = scope := by
  obtain ⟨owner, ownerHeld, isFunction, rfl⟩ := mem_functions.mp member
  have upward : outline.Holds site → site.node.isFunction = false →
      (outline.scopeOf site = outline.functionScope owner ↔
        site.ancestors.find? (·.node.isFunction) = some owner) := by
    intro held plain
    rw [scopeOf_eq held, List.find?_cons, plain]
    constructor
    · intro same
      split at same
      · rename_i found isFound
        have sameOwner : found = owner := congrArg Scope.root same
        rw [← sameOwner]
        exact isFound
      · cases congrArg Scope.isUnit same
    · intro isFound
      dsimp only
      rw [isFound]
  rw [Scope.nodes, List.mem_filter, functionScope, Site.mem_descendantsInScope]
  constructor
  · rintro ⟨⟨child, isChild, path, leads, place, clear⟩, notFunction⟩
    have plain : site.node.isFunction = false := by simpa using notFunction
    have held : outline.Holds site := by
      rw [Holds, place]
      exact Site.leads_append leads (holds_child ownerHeld isChild)
    exact ⟨held, plain, (upward held plain).mpr (Site.find?_ancestorsFrom.mpr ⟨isFunction, path, place, clear⟩)⟩
  · rintro ⟨held, plain, belongs⟩
    obtain ⟨_, lower, place, clear⟩ := Site.find?_ancestorsFrom.mp ((upward held plain).mp belongs)
    have leads := held
    rw [Holds, place] at leads
    obtain ⟨child, isChild, below⟩ := Site.leads_middle leads
    exact ⟨⟨child, isChild, lower, below, place, clear⟩, by simp [plain]⟩

theorem nodes_ids_sublist (held : outline.Holds scope.root) : (scope.nodes.map Site.id).Sublist outline.root.ids := by
  have below : (scope.root.descendants.map Site.id).Sublist scope.root.node.ids := by
    rw [Node.ids, ← Site.map_node_walk scope.root.above scope.root.node, Site.walk_eq, List.map_map, Site.descendants,
      Site.walkAll_eq]
    exact (List.sublist_cons_self _ _).map _
  exact ((List.filter_sublist.trans scope.root.inScope_sublist).map _).trans (below.trans ((preorder_sublist_of_leads held).map _))

theorem nodes_nodup (held : outline.Holds scope.root) : scope.nodes.Nodup :=
  .of_map Site.id (outline.ids_nodup.sublist (nodes_ids_sublist held))

end Outline
end Perflint
