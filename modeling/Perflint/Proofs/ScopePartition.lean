import Mathlib
import Perflint.Proofs.Numbering
import Perflint.Proofs.ScopeNodes

namespace Perflint

namespace Outline

variable {outline : Outline} {site : Site} {scope : Scope}

theorem scopeOf_id (held : outline.Holds site) :
    (outline.scopeOf site).id = nearestFunction outline.root.id (site.node :: site.above) := by
  rw [scopeOf_eq held, nearestFunction, ← Site.map_node_upward, List.find?_map]
  cases found : (site :: site.ancestors).find? (·.node.isFunction) with
  | none => simp [found, unitScope, Scope.id, rootSite, Site.id]
  | some owner => simp [found, functionScope, Scope.ofFunction, Scope.id, Site.id]

-- What opens no scope belongs to the nearest function above it, and without one to the root.
theorem scopeOf_root (held : outline.Holds site) (plain : site.node.isFunction = false) :
    (outline.scopeOf site).root = (site.ancestors.find? (·.node.isFunction)).getD outline.rootSite := by
  rw [scopeOf_eq held, List.find?_cons_of_neg (by simp [plain])]
  cases site.ancestors.find? (·.node.isFunction) <;> rfl

-- A node of the outline that is neither its root nor a function.
structure IsPart (outline : Outline) (site : Site) : Prop where
  held : outline.Holds site
  below : site ≠ outline.rootSite
  plain : site.node.isFunction = false

theorem mem_unit_nodes (plainRoot : outline.root.isFunction = false) :
    site ∈ outline.unitScope.nodes ↔ outline.IsPart site ∧ outline.scopeOf site = outline.unitScope := by
  rw [Scope.nodes, List.mem_filter, Site.mem_descendantsInScope]
  constructor
  · rintro ⟨⟨child, isChild, path, leads, place, clear⟩, notFunction⟩
    have plain : site.node.isFunction = false := by simpa using notFunction
    have held : outline.Holds site := by
      rw [Holds, place]
      exact Site.leads_append leads (holds_child outline.holds_root isChild)
    rw [scopeOf_eq_unitScope_iff held, List.forall_mem_cons]
    refine ⟨⟨held, ?_, plain⟩, plain, ?_⟩
    · rintro rfl
      simp [rootSite] at place
    · rw [place]
      exact List.forall_mem_append.mpr ⟨clear, List.forall_mem_singleton.mpr plainRoot⟩
  · rintro ⟨⟨held, below, plain⟩, belongs⟩
    rw [scopeOf_eq_unitScope_iff held, List.forall_mem_cons] at belongs
    obtain ⟨_, clear⟩ := belongs
    refine ⟨?_, by simp [plain]⟩
    rcases Site.leads_split held with ⟨atRoot, nothingAbove⟩ | ⟨child, isChild, lower, place, leads⟩
    · refine absurd ?_ below
      cases site
      simp_all [rootSite]
    · rw [place] at clear
      exact ⟨child, isChild, lower, leads, place, (List.forall_mem_append.mp clear).1⟩

theorem scopeOf_rootSite (plainRoot : outline.root.isFunction = false) :
    outline.scopeOf outline.rootSite = outline.unitScope :=
  (scopeOf_eq_unitScope_iff outline.holds_root).mpr (List.forall_mem_singleton.mpr plainRoot)

-- The list of a scope and the scope of a node agree.
theorem mem_nodes_iff (plainRoot : outline.root.isFunction = false) (isScope : scope ∈ outline.scopes) :
    site ∈ scope.nodes ↔ outline.IsPart site ∧ outline.scopeOf site = scope := by
  cases isUnit : scope.isUnit with
  | true =>
    have isUnitScope : scope = outline.unitScope := by
      refine (mem_scopes.mp isScope).resolve_right ?_
      rintro ⟨_, _, _, rfl⟩
      cases isUnit
    rw [isUnitScope, mem_unit_nodes plainRoot]
  | false =>
    have isFunction : scope ∈ outline.functions := List.mem_filter.mpr ⟨isScope, by simp [isUnit]⟩
    rw [mem_nodes isFunction]
    constructor
    · rintro ⟨held, plain, belongs⟩
      refine ⟨⟨held, ?_, plain⟩, belongs⟩
      rintro rfl
      rw [scopeOf_rootSite plainRoot] at belongs
      rw [← belongs] at isUnit
      cases isUnit
    · rintro ⟨part, belongs⟩
      exact ⟨part.held, part.plain, belongs⟩

theorem listed_scopes (inPreorder : outline.InPreorder) : outline.scopes =
    outline.unitScope :: (outline.preorder.filter (·.node.isFunction)).map outline.functionScope := by
  rw [scopes_eq, sites_eq_preorder_iff.mpr inPreorder]

-- The root comes before everything below it, so that the unit comes before its functions.
theorem scopes_ascending (inPreorder : outline.InPreorder) (plainRoot : outline.root.isFunction = false) :
    (outline.scopes.map Scope.id).Pairwise (· < ·) := by
  have roots : (outline.scopes.map Scope.root).Sublist outline.preorder := by
    rw [listed_scopes inPreorder, preorder, Site.walk_eq, List.filter_cons_of_neg (by simp [plainRoot]), List.map_cons,
      List.map_map]
    refine List.Sublist.cons_cons _ ?_
    exact (List.map_id'' (fun _ => rfl) _) ▸ List.filter_sublist
  have ids := inPreorder.ascending
  rw [← map_id_preorder] at ids
  have parts := ids.sublist (roots.map Site.id)
  rwa [List.map_map] at parts

theorem nodes_ascending (inPreorder : outline.InPreorder) (isScope : scope ∈ outline.scopes) :
    (scope.nodes.map Site.id).Pairwise (· < ·) :=
  inPreorder.ascending.sublist (nodes_ids_sublist (holds_scope isScope))

theorem parent?_of_below (held : outline.Holds site) (below : site ≠ outline.rootSite) :
    ∃ parent, site.parent? = some parent ∧ site.above = parent.node :: parent.above := by
  obtain ⟨node, above⟩ := site
  cases above with
  | nil =>
    cases held
    exact absurd rfl below
  | cons upper above => exact ⟨_, rfl, rfl⟩

-- Every node belongs to one scope, and what a scope says of its place in the tree is so.
structure Partitioned (outline : Outline) : Prop where
  listed : outline.scopes =
    outline.unitScope :: (outline.preorder.filter (·.node.isFunction)).map outline.functionScope
  ascending : (outline.scopes.map Scope.id).Pairwise (· < ·)
  owner : ∀ site, outline.IsPart site → outline.scopeOf site ∈ outline.scopes ∧
    (outline.scopeOf site).root = (site.ancestors.find? (·.node.isFunction)).getD outline.rootSite
  once : ∀ site, outline.IsPart site → ∀ scope ∈ outline.scopes,
    (scope.nodes.map Site.id).count site.id = if scope.id = (outline.scopeOf site).id then 1 else 0
  only : ∀ scope ∈ outline.scopes, ∀ site ∈ scope.nodes, outline.IsPart site
  inOrder : ∀ scope ∈ outline.scopes, (scope.nodes.map Site.id).Pairwise (· < ·)
  nesting : ∀ scope ∈ outline.functions, ∃ parent, scope.root.parent? = some parent ∧
    scope.parentId = some (outline.scopeOf parent).id ∧
    scope.depth = (scope.root.ancestors.filter (·.node.isFunction)).length

theorem count_nodes (inPreorder : outline.InPreorder) (plainRoot : outline.root.isFunction = false)
    (part : outline.IsPart site) (isScope : scope ∈ outline.scopes) :
    (scope.nodes.map Site.id).count site.id = if scope.id = (outline.scopeOf site).id then 1 else 0 := by
  have distinct : (outline.scopes.map Scope.id).Nodup := (scopes_ascending inPreorder plainRoot).imp ne_of_lt
  split
  · rename_i same
    have belongs := List.inj_on_of_nodup_map distinct isScope (scopeOf_mem_scopes part.held) same
    have member := (mem_nodes_iff plainRoot isScope).mpr ⟨part, belongs.symm⟩
    exact List.count_eq_one_of_mem ((nodes_ascending inPreorder isScope).imp ne_of_lt) (List.mem_map_of_mem member)
  · rename_i other
    refine List.count_eq_zero.mpr fun listed => ?_
    obtain ⟨twin, isListed, same⟩ := List.mem_map.mp listed
    obtain ⟨twinPart, belongs⟩ := (mem_nodes_iff plainRoot isScope).mp isListed
    rw [eq_of_id_eq twinPart.held part.held same] at belongs
    exact other (congrArg Scope.id belongs.symm)

theorem function_nesting (plainRoot : outline.root.isFunction = false) (isFunction : scope ∈ outline.functions) :
    ∃ parent, scope.root.parent? = some parent ∧ scope.parentId = some (outline.scopeOf parent).id ∧
      scope.depth = (scope.root.ancestors.filter (·.node.isFunction)).length := by
  obtain ⟨owner, held, opens, rfl⟩ := mem_functions.mp isFunction
  have below : owner ≠ outline.rootSite := by
    rintro rfl
    cases opens.symm.trans plainRoot
  obtain ⟨parent, isParent, place⟩ := parent?_of_below held below
  have parentHeld : outline.Holds parent := holds_ancestor held (Site.mem_ancestorsFrom.mpr ⟨[], place⟩)
  refine ⟨parent, isParent, ?_, ?_⟩
  · rw [scopeOf_id parentHeld, ← place]
    rfl
  · rw [← List.countP_eq_length_filter]
    have above := List.countP_map (p := Node.isFunction) (f := Site.node) (l := owner.ancestors)
    rw [Site.ancestors, Site.map_node_ancestorsFrom] at above
    exact above

theorem scopes_partition (inPreorder : outline.InPreorder) (plainRoot : outline.root.isFunction = false) :
    outline.Partitioned where
  listed := listed_scopes inPreorder
  ascending := scopes_ascending inPreorder plainRoot
  owner _ part := ⟨scopeOf_mem_scopes part.held, scopeOf_root part.held part.plain⟩
  once _ part _ isScope := count_nodes inPreorder plainRoot part isScope
  only _ isScope _ member := ((mem_nodes_iff plainRoot isScope).mp member).1
  inOrder _ isScope := nodes_ascending inPreorder isScope
  nesting _ isFunction := function_nesting plainRoot isFunction

-- A function in a function, with a call after it in the outer one and one in the unit.
def nestedFunctions : Outline :=
  { language := "python", source := { bytes := [] }
    root := .mk { id := 0, span := default, grammarType := "module", info := .unit }
      [.mk { id := 1, span := default, grammarType := "function_definition", info := .function { name := "outer" } }
        [.mk { id := 2, span := default, grammarType := "function_definition", info := .function { name := "inner" } }
          [.mk { id := 3, span := default, grammarType := "return_statement", info := .returns "a" } []],
         .mk { id := 4, span := default, grammarType := "call", info := .call { callee := "inner" } } []],
       .mk { id := 5, span := default, grammarType := "call", info := .call { callee := "outer" } } []]
    numbered := .refl _ }

theorem nestedFunctions_partitioned :
    nestedFunctions.InPreorder ∧ nestedFunctions.root.isFunction = false ∧ nestedFunctions.Partitioned ∧
      (nestedFunctions.scopes.map fun scope => (scope.id, scope.parentId, scope.depth, scope.nodes.map Site.id)) =
        [(0, none, 0, [5]), (1, some 0, 0, [4]), (2, some 1, 1, [3])] := by
  have partitioned : nestedFunctions.Partitioned := scopes_partition rfl rfl
  refine ⟨rfl, rfl, partitioned, ?_⟩
  rw [partitioned.listed]
  rfl

end Outline
end Perflint
