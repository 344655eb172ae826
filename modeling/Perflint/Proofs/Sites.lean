import Mathlib
import Perflint.Outline.Loops
import Perflint.Proofs.Lists

namespace Perflint

namespace Node

theorem preorderAll_eq (nodes : List Node) : preorderAll nodes = nodes.flatMap preorder := by
  induction nodes with
  | nil => rfl
  | cons node rest ih => rw [preorderAll, ih, List.flatMap_cons]

theorem preorder_eq (node : Node) : node.preorder = node :: node.children.flatMap preorder := by
  cases node with
  | mk head children => rw [preorder, preorderAll_eq, Node.children]

theorem mem_preorder_self (node : Node) : node ∈ node.preorder := by
  rw [preorder_eq]
  exact List.mem_cons_self

theorem sizeOf_child_lt {node child : Node} (member : child ∈ node.children) : sizeOf child < sizeOf node := by
  cases node with
  | mk head children =>
    have smaller := List.sizeOf_lt_of_mem member
    simp only [Node.children] at smaller
    simp only [Node.mk.sizeOf_spec]
    omega

-- What passes from the children of a node to the node holds of every node.
theorem nested_induction {motive : Node → Prop}
    (step : ∀ node, (∀ child ∈ node.children, motive child) → motive node) (node : Node) : motive node :=
  step node fun child _ => nested_induction step child
termination_by sizeOf node
decreasing_by exact sizeOf_child_lt (by assumption)

theorem preorder_sublist {node child : Node} (member : child ∈ node.children) :
    child.preorder.Sublist node.preorder := by
  rw [preorder_eq node, List.flatMap_def]
  exact (List.sublist_flatten_of_mem (List.mem_map_of_mem member)).cons _

theorem children_ids_nodup {node : Node} (distinct : node.ids.Nodup) : (node.children.map id).Nodup := by
  refine distinct.sublist ?_
  rw [ids, preorder_eq node]
  exact ((sublist_flatMap_self mem_preorder_self _).cons _).map _

-- What is not evaluated once is the body. Only with distinct identifiers does an identifier tell the two apart.
theorem repeats_eq_runsPerIteration {parent child : Node} (distinct : parent.ids.Nodup)
    (member : child ∈ parent.children) : Site.repeats parent child = parent.runsPerIteration child := by
  unfold Site.repeats runsPerIteration
  split
  · have ids := children_ids_nodup distinct
    rw [← List.take_append_drop parent.onceCount parent.children] at ids member
    rw [List.map_append, List.nodup_append] at ids
    obtain ⟨-, -, apart⟩ := ids
    rcases List.mem_append.mp member with once | body
    · have here : child.id ∈ parent.onceChildren.map id := List.mem_map_of_mem once
      have notBody : parent.bodyChildren.any (·.id == child.id) = false := by
        rw [List.any_eq_false]
        intro other otherBody same
        exact apart _ here _ (List.mem_map_of_mem otherBody) (by simpa using (beq_iff_eq.mp same).symm)
      rw [notBody, List.contains_iff_mem.mpr here]
      rfl
    · have inBody : parent.bodyChildren.any (·.id == child.id) = true :=
        List.any_eq_true.mpr ⟨child, body, beq_self_eq_true _⟩
      have notOnce : (parent.onceChildren.map id).contains child.id = false := by
        rw [← Bool.not_eq_true, List.contains_iff_mem]
        exact fun once => apart _ once _ (List.mem_map_of_mem body) rfl
      rw [inBody, notOnce]
      rfl
  · rfl

end Node

namespace Site

theorem walkAll_eq (inScope : Bool) (above nodes : List Node) :
    walkAll inScope above nodes = nodes.flatMap (walk inScope above) := by
  induction nodes with
  | nil => rfl
  | cons node rest ih => rw [walkAll, ih, List.flatMap_cons]

theorem walk_eq (inScope : Bool) (above : List Node) (node : Node) :
    walk inScope above node = { node, above } ::
      if inScope && node.isFunction then [] else node.children.flatMap (walk inScope (node :: above)) := by
  cases node with
  | mk head children => rw [walk, walkAll_eq, Node.children]

-- `path` leads from a node up to `top`, the parent first.
def Leads (top : Node) : Node → List Node → Prop
  | node, [] => node = top
  | node, parent :: path => node ∈ parent.children ∧ Leads top parent path

theorem leads_append {top middle node : Node} {lower upper : List Node} (below : Leads middle node lower)
    (above : Leads top middle upper) : Leads top node (lower ++ upper) := by
  induction lower generalizing node with
  | nil =>
    cases below
    exact above
  | cons parent lower ih => exact ⟨below.1, ih below.2⟩

-- The last step of a path that is not empty leaves a child of the top.
theorem leads_split {top node : Node} {path : List Node} (leads : Leads top node path) :
    (node = top ∧ path = []) ∨
      ∃ child ∈ top.children, ∃ lower, path = lower ++ [top] ∧ Leads child node lower := by
  induction path generalizing node with
  | nil => exact .inl ⟨leads, rfl⟩
  | cons parent path ih =>
    obtain ⟨member, upper⟩ := leads
    rcases ih upper with ⟨rfl, rfl⟩ | ⟨child, isChild, lower, rfl, below⟩
    · exact .inr ⟨node, member, [], rfl, rfl⟩
    · exact .inr ⟨child, isChild, parent :: lower, rfl, member, below⟩

theorem mem_walk {site : Site} {above : List Node} {top : Node} :
    site ∈ walk false above top ↔ ∃ path, Leads top site.node path ∧ site.above = path ++ above := by
  induction top using Node.nested_induction generalizing above with
  | step top ih =>
    rw [walk_eq, List.mem_cons]
    simp only [Bool.false_and, Bool.false_eq_true, if_false, List.mem_flatMap]
    constructor
    · rintro (rfl | ⟨child, isChild, member⟩)
      · exact ⟨[], rfl, rfl⟩
      · obtain ⟨path, leads, place⟩ := (ih child isChild).mp member
        refine ⟨path ++ [top], leads_append leads ⟨isChild, rfl⟩, ?_⟩
        rw [place, List.append_assoc, List.singleton_append]
    · rintro ⟨path, leads, place⟩
      rcases leads_split leads with ⟨atTop, rfl⟩ | ⟨child, isChild, lower, rfl, below⟩
      · left
        cases site
        simp_all
      · right
        refine ⟨child, isChild, (ih child isChild).mpr ⟨lower, below, ?_⟩⟩
        rw [place, List.append_assoc, List.singleton_append]

theorem map_node_walk (above : List Node) (top : Node) : (walk false above top).map Site.node = top.preorder := by
  induction top using Node.nested_induction generalizing above with
  | step top ih =>
    rw [walk_eq, Node.preorder_eq]
    simp only [Bool.false_and, Bool.false_eq_true, if_false, List.map_cons, List.map_flatMap]
    congr 1
    exact List.flatMap_congr fun child member => ih child member _

theorem mem_descendants {site below : Site} : below ∈ site.descendants ↔
    ∃ child ∈ site.node.children, ∃ path, Leads child below.node path ∧
      below.above = path ++ site.node :: site.above := by
  simp only [descendants, walkAll_eq, List.mem_flatMap, mem_walk]

theorem mem_ancestorsFrom {site : Site} {above : List Node} :
    site ∈ ancestorsFrom above ↔ ∃ lower, above = lower ++ site.node :: site.above := by
  induction above with
  | nil => simp [ancestorsFrom]
  | cons node above ih =>
    rw [ancestorsFrom, List.mem_cons, ih]
    constructor
    · rintro (rfl | ⟨lower, rfl⟩)
      · exact ⟨[], rfl⟩
      · exact ⟨node :: lower, rfl⟩
    · rintro ⟨lower, split⟩
      cases lower with
      | nil =>
        left
        cases site
        simp_all
      | cons first lower =>
        obtain ⟨rfl, rfl⟩ := List.cons.inj split
        exact .inr ⟨lower, rfl⟩

theorem mem_ancestors_of_loops {site loop : Site} (member : loop ∈ site.loops) : loop ∈ site.ancestors := by
  have upward : ∀ (above : List Node) (child : Node), loop ∈ loopsFrom child above → loop ∈ ancestorsFrom above := by
    intro above
    induction above with
    | nil =>
      intro child inside
      simp [loopsFrom] at inside
    | cons node above ih =>
      intro child inside
      rw [ancestorsFrom, List.mem_cons]
      unfold loopsFrom at inside
      split at inside
      · cases inside
      · split at inside
        · exact (List.mem_cons.mp inside).imp_right (ih node)
        · exact .inr (ih node inside)
  exact upward _ _ member

end Site

namespace Outline

-- The site is one of this outline: its ancestors lead to the root.
def Holds (outline : Outline) (site : Site) : Prop :=
  Site.Leads outline.root site.node site.above

variable {outline : Outline} {site : Site}

theorem mem_preorder : site ∈ outline.preorder ↔ outline.Holds site := by
  rw [preorder, Site.mem_walk, Holds]
  constructor
  · rintro ⟨path, leads, place⟩
    rw [place, List.append_nil]
    exact leads
  · intro leads
    exact ⟨site.above, leads, (List.append_nil _).symm⟩

theorem mem_sites : site ∈ outline.sites ↔ outline.Holds site := by
  rw [sites, List.mem_mergeSort, mem_preorder]

theorem holds_root (outline : Outline) : outline.Holds outline.rootSite :=
  rfl

theorem holds_child {child : Node} (held : outline.Holds site) (member : child ∈ site.node.children) :
    outline.Holds { node := child, above := site.node :: site.above } :=
  ⟨member, held⟩

theorem holds_descendant {below : Site} (held : outline.Holds site) (member : below ∈ site.descendants) :
    outline.Holds below := by
  obtain ⟨child, isChild, path, leads, place⟩ := Site.mem_descendants.mp member
  rw [Holds, place]
  exact Site.leads_append leads (holds_child held isChild)

theorem holds_ancestor {upper : Site} (held : outline.Holds site) (member : upper ∈ site.ancestors) :
    outline.Holds upper := by
  obtain ⟨lower, split⟩ := Site.mem_ancestorsFrom.mp member
  rw [Holds, split] at held
  clear split member
  revert held
  generalize site.node = node
  induction lower generalizing node with
  | nil => exact fun leads => leads.2
  | cons parent lower ih => exact fun leads => ih parent leads.2

theorem holds_loop {loop : Site} (held : outline.Holds site) (member : loop ∈ site.loops) : outline.Holds loop :=
  holds_ancestor held (Site.mem_ancestors_of_loops member)

theorem ids_nodup (outline : Outline) : outline.root.ids.Nodup :=
  outline.numbered.nodup_iff.mpr List.nodup_range

theorem map_id_preorder (outline : Outline) : outline.preorder.map Site.id = outline.root.ids := by
  rw [preorder, Node.ids, ← Site.map_node_walk [] outline.root, List.map_map]
  rfl

theorem preorder_ids_nodup (outline : Outline) : (outline.preorder.map Site.id).Nodup := by
  rw [map_id_preorder]
  exact outline.ids_nodup

-- An identifier belongs to one place only.
theorem eq_of_id_eq {other : Site} (held : outline.Holds site) (otherHeld : outline.Holds other)
    (same : site.id = other.id) : site = other :=
  List.inj_on_of_nodup_map outline.preorder_ids_nodup (mem_preorder.mpr held) (mem_preorder.mpr otherHeld) same

theorem preorder_sublist_of_leads {top node : Node} {path : List Node} (leads : Site.Leads top node path) :
    node.preorder.Sublist top.preorder := by
  induction path generalizing node with
  | nil =>
    cases leads
    exact List.Sublist.refl _
  | cons parent path ih => exact (Node.preorder_sublist leads.1).trans (ih leads.2)

theorem ids_nodup_of_holds (held : outline.Holds site) : site.node.ids.Nodup :=
  outline.ids_nodup.sublist ((preorder_sublist_of_leads held).map _)

theorem sites_ids_nodup (outline : Outline) : (outline.sites.map Site.id).Nodup := by
  rw [sites, ((List.mergeSort_perm outline.preorder _).map Site.id).nodup_iff]
  exact outline.preorder_ids_nodup

theorem site?_eq_some (held : outline.Holds site) : outline.site? site.id = some site :=
  find?_key Site.id outline.preorder_ids_nodup (mem_preorder.mpr held)

theorem rootSite_mem (held : outline.Holds site) : outline.rootSite ∈ site :: site.ancestors := by
  rcases Site.leads_split held with ⟨atRoot, noneAbove⟩ | ⟨_, _, lower, split, _⟩
  · cases site
    simp_all [rootSite]
  · exact List.mem_cons_of_mem _ (Site.mem_ancestorsFrom.mpr ⟨lower, split⟩)

end Outline
end Perflint
