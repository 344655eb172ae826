import Mathlib
import Perflint.Proofs.ScopePartition

namespace Perflint

namespace Site

theorem walk_site (site : Site) : walk false site.above site.node = site :: site.descendants := by
  rw [walk_eq, Bool.false_and, if_neg Bool.false_ne_true, descendants, walkAll_eq]

-- What a walk finds below a node stands together in every walk that begins further up.
theorem walk_infix {top node : Node} {path : List Node} (above : List Node) (leads : Leads top node path) :
    walk false (path ++ above) node <:+: walk false above top := by
  induction path generalizing node with
  | nil =>
    cases leads
    exact List.infix_rfl
  | cons parent path ih =>
    obtain ⟨isChild, upper⟩ := leads
    refine List.IsInfix.trans ?_ (ih upper)
    obtain ⟨before, after, split⟩ := List.append_of_mem isChild
    rw [walk_eq false _ parent, Bool.false_and, if_neg Bool.false_ne_true, split, List.flatMap_append,
      List.flatMap_cons]
    exact ((List.prefix_append _ _).isInfix.trans (List.suffix_append _ _).isInfix).trans (List.suffix_cons _ _).isInfix

-- The way up to an ancestor, the ancestor left out.
theorem takeWhile_ancestorsFrom {site : Site} {path : List Node} (apart : ∀ node ∈ path, node.id ≠ site.id) :
    ((ancestorsFrom (path ++ site.node :: site.above)).takeWhile (·.id != site.id)).map Site.node = path := by
  induction path with
  | nil => simp [ancestorsFrom]
  | cons node path ih =>
    obtain ⟨here, higher⟩ := List.forall_mem_cons.mp apart
    have goes : (Site.id { node, above := path ++ site.node :: site.above } != site.id) = true := bne_iff_ne.mpr here
    rw [List.cons_append, ancestorsFrom, List.takeWhile_cons, if_pos goes, List.map_cons, ih higher]

end Site

namespace Outline

variable {outline : Outline} {site : Site}

theorem mem_ancestors_iff {other : Site} (held : outline.Holds site) :
    other ∈ site.ancestors ↔ site ∈ other.descendants := by
  rw [Site.ancestors, Site.mem_ancestorsFrom, Site.mem_descendants]
  constructor
  · rintro ⟨lower, place⟩
    rw [Holds, place] at held
    obtain ⟨child, isChild, leads⟩ := Site.leads_middle held
    exact ⟨child, isChild, lower, leads, place⟩
  · rintro ⟨_, _, lower, _, place⟩
    exact ⟨lower, place⟩

-- The parent is the node that has a child with this number.
theorem parent?_eq_some_iff {upper : Site} (held : outline.Holds site) :
    site.parent? = some upper ↔ outline.Holds upper ∧ ∃ child ∈ upper.node.children, child.id = site.id := by
  constructor
  · intro isParent
    obtain ⟨node, above⟩ := site
    cases above with
    | nil => cases isParent
    | cons parent above =>
      cases isParent
      exact ⟨held.2, node, held.1, rfl⟩
  · rintro ⟨upperHeld, child, isChild, same⟩
    rw [eq_of_id_eq held (holds_child upperHeld isChild) same.symm]
    rfl

theorem preorder_split (held : outline.Holds site) :
    ∃ before after, outline.preorder = before ++ site :: site.descendants ++ after := by
  obtain ⟨before, after, split⟩ := Site.walk_infix [] held
  rw [List.append_nil, Site.walk_site] at split
  exact ⟨before, after, split.symm⟩

-- The last of the ancestors is the root.
theorem getLast?_upward (held : outline.Holds site) : (site :: site.ancestors).getLast? = some outline.rootSite := by
  obtain ⟨node, above⟩ := site
  induction above generalizing node with
  | nil =>
    cases held
    rfl
  | cons parent above ih => exact ih parent held.2

section Numbered

variable (inPreorder : outline.InPreorder) (held : outline.Holds site)

include inPreorder held

theorem map_id_descendants :
    site.descendants.map Site.id = List.range' (site.id + 1) site.descendants.length := by
  obtain ⟨before, after, split⟩ := preorder_split held
  have ids := inPreorder
  rw [InPreorder, ← map_id_preorder, split, List.map_append, List.map_append, List.map_cons, List.range_eq_range',
    eq_comm, List.range'_eq_append_iff] at ids
  obtain ⟨_, _, upTo, _⟩ := ids
  obtain ⟨_, _, _, onward⟩ := List.range'_eq_append_iff.mp upTo.symm
  obtain ⟨_, _, below⟩ := List.range'_eq_cons_iff.mp onward.symm
  have count := congrArg List.length below
  rw [List.length_map, List.length_range'] at count
  rw [below, count]

theorem id_lt_of_descendant {below : Site} (member : below ∈ site.descendants) : site.id < below.id := by
  have listed := List.mem_map_of_mem (f := Site.id) member
  rw [map_id_descendants inPreorder held, List.mem_range'_1] at listed
  exact listed.1

theorem descendants_sublist : site.descendants.Sublist outline.sites := by
  obtain ⟨before, after, split⟩ := preorder_split held
  rw [sites_eq_preorder_iff.mpr inPreorder, split]
  exact ((List.sublist_cons_self _ _).trans (List.sublist_append_right _ _)).trans (List.sublist_append_left _ _)

theorem upward_descending : ((site.node :: site.above).map Node.id).Pairwise (· > ·) := by
  obtain ⟨node, above⟩ := site
  induction above generalizing node with
  | nil => exact List.pairwise_singleton _ _
  | cons parent above ih =>
    refine List.pairwise_cons.mpr ⟨fun id isAbove => ?_, ih parent held.2⟩
    have upper : id ∈ ((Site.mk node (parent :: above)).ancestors.map Site.node).map Node.id := by
      rwa [Site.ancestors, Site.map_node_ancestorsFrom]
    rw [List.map_map] at upper
    obtain ⟨other, isAncestor, rfl⟩ := List.mem_map.mp upper
    exact id_lt_of_descendant inPreorder (holds_ancestor held isAncestor) ((mem_ancestors_iff held).mp isAncestor)

-- A node lies below another where it has that one among its ancestors.
theorem descendants_eq_filter :
    site.descendants = outline.sites.filter fun other => other.ancestors.any (·.id == site.id) := by
  rw [← filter_key_eq Site.id (descendants_sublist inPreorder held) outline.sites_ids_nodup]
  refine List.filter_congr fun other isSite => ?_
  have otherHeld := mem_sites.mp isSite
  rw [Bool.eq_iff_iff, List.contains_iff_mem, List.any_eq_true]
  constructor
  · intro listed
    obtain ⟨below, member, same⟩ := List.mem_map.mp listed
    rw [eq_of_id_eq (holds_descendant held member) otherHeld same] at member
    exact ⟨site, (mem_ancestors_iff otherHeld).mpr member, beq_self_eq_true _⟩
  · rintro ⟨upper, isAncestor, same⟩
    rw [eq_of_id_eq (holds_ancestor otherHeld isAncestor) held (beq_iff_eq.mp same)] at isAncestor
    exact List.mem_map_of_mem ((mem_ancestors_iff otherHeld).mp isAncestor)

end Numbered

-- The nodes strictly between a node and one of its ancestors.
theorem all_between {below : Site} {path : List Node} (inPreorder : outline.InPreorder) (held : outline.Holds below)
    (place : below.above = path ++ site.node :: site.above) (judge : Node → Bool) :
    ((below.ancestors.takeWhile (·.id != site.id)).all fun upper => judge upper.node) = path.all judge := by
  have apart : ∀ node ∈ path, node.id ≠ site.id := by
    have ids := upward_descending inPreorder held
    rw [place, List.map_cons, List.map_append, List.pairwise_cons, List.pairwise_append] at ids
    intro node onPath
    exact ne_of_gt (ids.2.2.2 _ (List.mem_map_of_mem onPath) _ List.mem_cons_self)
  have between := Site.takeWhile_ancestorsFrom apart
  rw [← between, List.all_map, Site.ancestors, place]
  rfl

-- A walk that stays in the scope leaves out what lies behind a function.
theorem inScope_eq_filter (inPreorder : outline.InPreorder) (held : outline.Holds site) :
    site.descendantsInScope = site.descendants.filter fun below =>
      (below.ancestors.takeWhile (·.id != site.id)).all (!·.node.isFunction) := by
  have distinct := outline.sites_ids_nodup.sublist ((descendants_sublist inPreorder held).map Site.id)
  rw [← filter_key_eq Site.id site.inScope_sublist distinct]
  refine List.filter_congr fun below member => ?_
  have belowHeld := holds_descendant held member
  obtain ⟨child, isChild, path, leads, place⟩ := Site.mem_descendants.mp member
  rw [all_between inPreorder belowHeld place (!·.isFunction), Bool.eq_iff_iff, List.contains_iff_mem]
  constructor
  · intro listed
    obtain ⟨twin, inScope, same⟩ := List.mem_map.mp listed
    have twinHeld := holds_descendant held (site.inScope_sublist.subset inScope)
    rw [eq_of_id_eq twinHeld belowHeld same] at inScope
    obtain ⟨_, _, lower, _, samePlace, clear⟩ := Site.mem_descendantsInScope.mp inScope
    cases List.append_cancel_right (samePlace.symm.trans place)
    simpa using clear
  · intro clear
    refine List.mem_map_of_mem (Site.mem_descendantsInScope.mpr ⟨child, isChild, path, leads, place, ?_⟩)
    simpa using clear

-- How many nodes have this one above them.
def countBelow (outline : Outline) (site : Site) : Nat :=
  outline.sites.countP fun other => other.ancestors.any (·.id == site.id)

-- Where a node stands: what lies below it, told by numbers, and the way up from it.
structure Subtree (outline : Outline) (site : Site) : Prop where
  interval : site.descendants.map some =
    (List.range' (site.id + 1) (outline.countBelow site)).map outline.site?
  parent : ∀ upper, site.parent? = some upper ↔
    outline.Holds upper ∧ ∃ child ∈ upper.node.children, child.id = site.id
  upward : ∀ other, other ∈ site.ancestors ↔ site ∈ other.descendants
  -- The root has no ancestors, so that the node itself begins its way up.
  toRoot : (site :: site.ancestors).getLast? = some outline.rootSite
  descending : ((site :: site.ancestors).map Site.id).Pairwise (· > ·)
  inScope : ∀ wanted : Kind → Bool, site.descendantsInScope.filter (wanted ·.kind) =
    site.descendants.filter fun below =>
      wanted below.kind && (below.ancestors.takeWhile (·.id != site.id)).all (!·.node.isFunction)

-- A subtree is an interval of numbers.
theorem subtree_of_holds (inPreorder : outline.InPreorder) (held : outline.Holds site) : outline.Subtree site where
  interval := by
    have count : outline.countBelow site = site.descendants.length := by
      rw [countBelow, List.countP_eq_length_filter, ← descendants_eq_filter inPreorder held]
    rw [count, ← map_id_descendants inPreorder held, List.map_map]
    exact List.map_congr_left fun below member => (site?_eq_some (holds_descendant held member)).symm
  parent _ := parent?_eq_some_iff held
  upward _ := mem_ancestors_iff held
  toRoot := getLast?_upward held
  descending := by
    have ids := upward_descending inPreorder held
    rwa [← Site.map_node_upward, List.map_map] at ids
  inScope _ := by
    rw [inScope_eq_filter inPreorder held, List.filter_filter]

theorem nestedFunctions_subtree :
    nestedFunctions.InPreorder ∧ ∃ outer, nestedFunctions.Holds outer ∧ outer.id = 1 ∧
      nestedFunctions.Subtree outer ∧ outer.descendants.map Site.id = [2, 3, 4] ∧
      (outer.descendantsInScope.filter ([Kind.call, .returns].contains ·.kind)).map Site.id = [4] := by
  have held : nestedFunctions.Holds { node := nestedFunctions.root.children.headD default
                                      above := [nestedFunctions.root] } := ⟨List.mem_cons_self, rfl⟩
  exact ⟨rfl, _, held, rfl, subtree_of_holds rfl held, rfl, rfl⟩

end Outline
end Perflint
