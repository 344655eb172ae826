import Mathlib
import Perflint.Analysis
import Perflint.Proofs.Imprints

namespace Perflint

namespace Tree.Place

theorem map_node_walk (above : List Tree) (tree : Tree) : (walk above tree).map Place.node = tree.preorder := by
  induction tree using Tree.nested_induction generalizing above with
  | step tree ih =>
    rw [walk_eq, Tree.preorder_eq, List.map_cons, List.map_flatMap]
    congr 1
    exact List.flatMap_congr fun child member => ih child member _

theorem mem_walk {path : List Tree} {tree : Tree} {place : Tree.Place} (member : place ∈ walk path tree) :
    ∃ lower, place.above = lower ++ path ∧ tree ∈ place.node :: lower := by
  induction tree using Tree.nested_induction generalizing path with
  | step tree ih =>
    rw [walk_eq] at member
    rcases List.mem_cons.mp member with rfl | deeper
    · exact ⟨[], rfl, List.mem_cons_self⟩
    · obtain ⟨child, isChild, inside⟩ := List.mem_flatMap.mp deeper
      obtain ⟨lower, above, _⟩ := ih child isChild inside
      exact ⟨lower ++ [tree], by rw [above, List.append_assoc, List.singleton_append], by simp⟩

theorem mem_walk_of_ancestor {path : List Tree} {tree : Tree} {place upper : Tree.Place}
    (member : place ∈ walk path tree) (isUpper : upper ∈ ancestorsFrom place.above) :
    upper ∈ walk path tree ∨ upper ∈ ancestorsFrom path := by
  induction tree using Tree.nested_induction generalizing path with
  | step tree ih =>
    rw [walk_eq] at member ⊢
    rcases List.mem_cons.mp member with rfl | deeper
    · exact .inr isUpper
    · obtain ⟨child, isChild, inside⟩ := List.mem_flatMap.mp deeper
      rcases ih child isChild inside with below | above
      · exact .inl (List.mem_cons_of_mem _ (List.mem_flatMap.mpr ⟨child, isChild, below⟩))
      · rcases List.mem_cons.mp above with rfl | higher
        · exact .inl List.mem_cons_self
        · exact .inr higher

theorem map_node_ancestorsFrom (above : List Tree) : (ancestorsFrom above).map Place.node = above := by
  induction above with
  | nil => rfl
  | cons node above ih => rw [ancestorsFrom, List.map_cons, ih]

end Tree.Place

namespace Grammar

variable {g : Grammar} {source : Source}

-- A comment below the root hides every place in it.
theorem kindAt_of_comment {path : List Tree} {tree : Tree} {place : Tree.Place} (below : path ≠ [])
    (comment : tree.hasType g.commentTypes = true) (member : place ∈ Tree.Place.walk path tree) :
    g.kindAt source place = none := by
  obtain ⟨lower, above, passed⟩ := Tree.Place.mem_walk member
  have hidden : g.isHidden place = true := by
    rw [isHidden, List.any_eq_true]
    refine ⟨tree, ?_, comment⟩
    rw [above, List.dropLast_append_of_ne_nil below, ← List.cons_append]
    exact List.mem_append_left _ passed
  simp [kindAt, hidden]

-- Lowering that passes nothing over but comments reaches every place that plays a part.
theorem walk_imprints {path : List Tree} {tree : Tree} (visible : g.Visible path) :
    (Tree.Place.walk path tree).filterMap (g.imprintAt source) =
      (g.reach [] path tree).filterMap (g.imprintAt source) := by
  induction tree using Tree.nested_induction generalizing path with
  | step tree ih =>
    cases comment : tree.hasType g.commentTypes with
    | true =>
      have passes : g.passesOver [] tree = true := by simp [passesOver, comment]
      rw [reach_of_passes passes, List.filterMap_nil, List.filterMap_eq_nil_iff]
      exact fun place member => imprintAt_eq_none (kindAt_of_comment visible.below comment member)
    | false =>
      have stays : g.passesOver [] tree = false := by simp [passesOver, comment]
      rw [reach_of_stays stays, Tree.Place.walk_eq, List.filterMap_cons, List.filterMap_cons, List.filterMap_flatMap,
        List.filterMap_flatMap, List.flatMap_congr fun child member => ih child member (visible_cons visible comment)]

theorem outline_imprints {tag : String} {tree : Tree} {outline : Outline} (opens : g.ClausesOpen)
    (distinct : (tree.preorder.map Tree.key).Nodup) (done : g.outline tag source (some tree) = .ok outline) :
    (outline.root.children.flatMap (Node.imprints none false)).Perm
      ((Tree.Place.walk [] tree).filterMap (g.imprintAt source)) := by
  obtain ⟨top, parts, isTop, below, root⟩ := outline_eq_ok done
  cases isTop
  have atRoot : g.kindAt source { node := tree, above := [] } = none := by simp [kindAt]
  have noHolder : g.holderFrom source [tree] = none := holderFrom_cons_of_none atRoot
  have visible : g.Visible [tree] := ⟨List.cons_ne_nil _ _, by simp⟩
  have whole : Distinct [] tree := by rwa [Distinct, List.append_nil]
  rw [root, Tree.Place.walk_eq, List.filterMap_cons_none (imprintAt_eq_none atRoot), List.filterMap_flatMap]
  refine flatten_flatMap_perm below ?_
  rintro child member nodes ⟨_, _, lowered⟩
  have entered : g.Entered [] [tree] child := ⟨visible, distinct_child whole member, by simp⟩
  have flagged : ∀ place ∈ g.reach [] [tree] child,
      g.holderFrom source place.above = g.holderFrom source [tree] → g.isOnce source place = false := by
    intro place _ held
    rw [isOnce, held, noHolder]
  have perm := lower_imprints opens entered flagged lowered
  rw [noHolder] at perm
  rwa [walk_imprints visible]

end Grammar

namespace Site

-- The key of the parent, unless the parent is the root.
def parentKey : List Node → Option Tree.Key
  | parent :: _ :: _ => some parent.key
  | _ => none

def isOnce : List Node → Node → Bool
  | parent :: _, node => (parent.onceChildren.map Node.id).contains node.id
  | [], _ => false

def imprint (site : Site) : Imprint :=
  site.node.imprint (parentKey site.above) (isOnce site.above site.node)

theorem parent?_eq_some {site parent : Site} :
    site.parent? = some parent ↔ site.above = parent.node :: parent.above := by
  cases above : site.above with
  | nil => simp [parent?, above]
  | cons node rest =>
    cases parent
    simp [parent?, above]

theorem mem_onceChildren {site child : Site} :
    child ∈ site.onceChildren ↔
      ∃ node ∈ site.node.onceChildren, child = { node, above := site.node :: site.above } := by
  rw [onceChildren, children, ← List.map_take, List.mem_map]
  simp only [Node.onceChildren, eq_comm]

theorem imprints_children {node : Node} (above : List Node) (parent : Option Tree.Key) (distinct : node.ids.Nodup) :
    (node.children.flatMap fun child => child.imprints parent (isOnce (node :: above) child)) =
      node.onceChildren.flatMap (Node.imprints parent true) ++
        node.bodyChildren.flatMap (Node.imprints parent false) := by
  have ids := Node.children_ids_nodup distinct
  rw [← List.take_append_drop node.onceCount node.children, List.map_append, List.nodup_append] at ids
  obtain ⟨-, -, apart⟩ := ids
  nth_rewrite 1 [← List.take_append_drop node.onceCount node.children]
  rw [List.flatMap_append]
  congr 1
  · refine List.flatMap_congr fun child member => ?_
    have once : isOnce (node :: above) child = true := List.contains_iff_mem.mpr (List.mem_map_of_mem member)
    rw [once]
  · refine List.flatMap_congr fun child member => ?_
    have later : isOnce (node :: above) child = false := by
      rw [isOnce, ← Bool.not_eq_true, List.contains_iff_mem]
      exact fun once => apart _ once _ (List.mem_map_of_mem member) rfl
    rw [later]

theorem map_imprint_walk {node : Node} {above : List Node} (distinct : node.ids.Nodup) (inside : above ≠ []) :
    (walk false above node).map imprint = node.imprints (parentKey above) (isOnce above node) := by
  induction node using Node.nested_induction generalizing above with
  | step node ih =>
    have below : ∀ child ∈ node.children, (walk false (node :: above) child).map imprint =
        child.imprints (some node.key) (isOnce (node :: above) child) := by
      intro child member
      have key : parentKey (node :: above) = some node.key := by
        cases above with
        | nil => exact absurd rfl inside
        | cons parent rest => rfl
      rw [ih child member (distinct.sublist ((Node.preorder_sublist member).map Node.id)) (List.cons_ne_nil _ _), key]
    rw [walk_eq, Node.imprints_eq, ← imprints_children above _ distinct]
    simp only [Bool.false_and, Bool.false_eq_true, if_false, List.map_cons, List.map_flatMap]
    rw [List.flatMap_congr below]
    rfl

end Site

namespace Outline

theorem preorder_tail (outline : Outline) :
    outline.preorder.tail = outline.root.children.flatMap (Site.walk false [outline.root]) := by
  rw [preorder, Site.walk_eq]
  simp

theorem map_imprint_preorder {outline : Outline} (noLoop : outline.root.onceCount = 0) :
    outline.preorder.tail.map Site.imprint = outline.root.children.flatMap (Node.imprints none false) := by
  rw [preorder_tail, List.map_flatMap]
  refine List.flatMap_congr fun child member => ?_
  have distinct := outline.ids_nodup.sublist ((Node.preorder_sublist member).map Node.id)
  have first : Site.isOnce [outline.root] child = false := by simp [Site.isOnce, Node.onceChildren, noLoop]
  rw [Site.map_imprint_walk distinct (List.cons_ne_nil _ _), first]
  rfl

end Outline
namespace Grammar

variable {g : Grammar} {source : Source} {tree : Tree} {outline : Outline}

-- The nodes of an outline below its root, each with the place of the tree that it stands for.
structure Corresponds (g : Grammar) (source : Source) (tree : Tree) (outline : Outline)
    (pairs : List (Site × Tree.Place)) : Prop where
  sites : pairs.map Prod.fst = outline.preorder.tail
  places : (pairs.map Prod.snd).Perm (g.mapped source tree)
  same : ∀ pair ∈ pairs, pair.1.span = source.span pair.2.node.first pair.2.node.last ∧
    pair.1.node.head.grammarType = pair.2.node.type ∧ g.kindAt source pair.2 = some pair.1.kind
  -- The parent stands for the nearest place above that plays a part, and without one it is the root.
  parent : ∀ pair ∈ pairs,
    match g.holderFrom source pair.2.above with
    | none => pair.1.parent? = some outline.rootSite
    | some holder => ∃ parent, pair.1.parent? = some parent ∧ (parent, holder) ∈ pairs
  -- The first children of a loop are what comes from the parts that it evaluates once.
  once : ∀ loop ∈ pairs, loop.1.kind = .loop → ∀ child ∈ pairs,
    (child.1 ∈ loop.1.onceChildren ↔ g.holderFrom source child.2.above = some loop.2 ∧
      ∃ part ∈ g.onceParts loop.2.node, part.node ∈ child.2.node :: child.2.above)

-- The same, as far as the imprints tell it.
structure Paired (g : Grammar) (source : Source) (tree : Tree) (outline : Outline)
    (pairs : List (Site × Tree.Place)) : Prop where
  sites : pairs.map Prod.fst = outline.preorder.tail
  places : (pairs.map Prod.snd).Perm (g.mapped source tree)
  imprints : ∀ pair ∈ pairs, g.imprintAt source pair.2 = some pair.1.imprint

theorem exists_paired (done : (outline.root.children.flatMap (Node.imprints none false)).Perm
      ((Tree.Place.walk [] tree).filterMap (g.imprintAt source))) (noLoop : outline.root.onceCount = 0) :
    ∃ pairs, g.Paired source tree outline pairs := by
  have mappedEq : g.mapped source tree =
      (Tree.Place.walk [] tree).filter fun place => (g.imprintAt source place).isSome := by
    simp [mapped, imprintAt]
  rw [← Outline.map_imprint_preorder noLoop] at done
  have perm := done.map some
  rw [filterMap_map_some, ← mappedEq, List.map_map] at perm
  obtain ⟨pairs, sites, places, all⟩ := perm_map_pairs perm
  exact ⟨pairs, sites, places, fun pair member => (all pair member).symm⟩

theorem imprintAt_eq_some {place : Tree.Place} {site : Site} (kept : g.imprintAt source place = some site.imprint) :
    site.span = source.span place.node.first place.node.last ∧ site.node.head.grammarType = place.node.type ∧
      g.kindAt source place = some site.kind ∧
      Site.parentKey site.above = (g.holderFrom source place.above).map (·.node.key) ∧
      Site.isOnce site.above site.node = g.isOnce source place := by
  obtain ⟨kind, isKind, made⟩ := Option.map_eq_some_iff.mp kept
  obtain ⟨span, type, sameKind, parent, once⟩ := Imprint.mk.inj made
  exact ⟨span.symm, type.symm, by rw [isKind, sameKind]; rfl, parent.symm, once.symm⟩

namespace Paired

variable {pairs : List (Site × Tree.Place)} (paired : g.Paired source tree outline pairs)

include paired

theorem holds {pair : Site × Tree.Place} (member : pair ∈ pairs) : outline.Holds pair.1 ∧ pair.1.above ≠ [] := by
  have inTail : pair.1 ∈ outline.preorder.tail := paired.sites ▸ List.mem_map_of_mem member
  refine ⟨Outline.mem_preorder.mp (List.mem_of_mem_tail inTail), ?_⟩
  rw [Outline.preorder_tail] at inTail
  obtain ⟨child, _, inside⟩ := List.mem_flatMap.mp inTail
  obtain ⟨path, _, above⟩ := Site.mem_walk.mp inside
  rw [above]
  simp

theorem mem_walk {pair : Site × Tree.Place} (member : pair ∈ pairs) : pair.2 ∈ Tree.Place.walk [] tree :=
  (List.mem_filter.mp (paired.places.subset (List.mem_map_of_mem member))).1

theorem key_eq {pair : Site × Tree.Place} (member : pair ∈ pairs) : pair.1.node.key = pair.2.node.key := by
  obtain ⟨span, type, _⟩ := imprintAt_eq_some (paired.imprints pair member)
  rw [Node.key, type]
  change Tree.Key.mk pair.1.span.firstByte pair.1.span.lastByte _ = _
  rw [span]
  rfl

theorem exists_pair {site : Site} (held : outline.Holds site) (inside : site.above ≠ []) :
    ∃ place, (site, place) ∈ pairs := by
  have inPreorder := Outline.mem_preorder.mpr held
  rw [Outline.preorder, Site.walk_eq, List.mem_cons] at inPreorder
  rcases inPreorder with atRoot | below
  · rw [atRoot] at inside
    exact absurd rfl inside
  · have inTail : site ∈ pairs.map Prod.fst := by
      rw [paired.sites, Outline.preorder_tail]
      simpa using below
    obtain ⟨pair, member, rfl⟩ := List.mem_map.mp inTail
    exact ⟨pair.2, member⟩

theorem eq_of_id_eq {first second : Site × Tree.Place} (isFirst : first ∈ pairs) (isSecond : second ∈ pairs)
    (same : first.1.id = second.1.id) : first = second := by
  have ids : (pairs.map fun pair => pair.1.id).Nodup := by
    have all : (outline.preorder.tail.map Site.id).Nodup := by
      refine List.Nodup.sublist ((List.tail_sublist _).map _) ?_
      rw [Outline.map_id_preorder]
      exact outline.ids_nodup
    rwa [← paired.sites, List.map_map] at all
  exact List.inj_on_of_nodup_map ids isFirst isSecond same

-- A node on the way up from a place is a node of the tree.
theorem mem_preorder {pair : Site × Tree.Place} {node : Tree} (member : pair ∈ pairs)
    (onWay : node ∈ pair.2.node :: pair.2.above) : node ∈ tree.preorder := by
  have inTree := paired.mem_walk member
  rw [← Tree.Place.map_node_walk [] tree]
  rcases List.mem_cons.mp onWay with rfl | above
  · exact List.mem_map_of_mem inTree
  · rw [← Tree.Place.map_node_ancestorsFrom pair.2.above] at above
    obtain ⟨upper, isUpper, rfl⟩ := List.mem_map.mp above
    exact List.mem_map_of_mem
      ((Tree.Place.mem_walk_of_ancestor inTree isUpper).resolve_right List.not_mem_nil)

theorem exists_pair_of_holder {pair : Site × Tree.Place} {holder : Tree.Place} (member : pair ∈ pairs)
    (isHolder : g.holderFrom source pair.2.above = some holder) : ∃ site, (site, holder) ∈ pairs := by
  have above := List.mem_of_find?_eq_some isHolder
  have plays := List.find?_some isHolder
  have inTree := (Tree.Place.mem_walk_of_ancestor (paired.mem_walk member) above).resolve_right List.not_mem_nil
  have isMapped : holder ∈ g.mapped source tree := List.mem_filter.mpr ⟨inTree, plays⟩
  obtain ⟨found, isFound, rfl⟩ := List.mem_map.mp (paired.places.symm.subset isMapped)
  exact ⟨found.1, isFound⟩

variable (distinct : (tree.preorder.map Tree.key).Nodup)

include distinct

theorem eq_of_key_eq {first second : Site × Tree.Place} (isFirst : first ∈ pairs) (isSecond : second ∈ pairs)
    (same : first.2.node.key = second.2.node.key) : first = second := by
  have keys : (pairs.map fun pair => pair.2.node.key).Nodup := by
    have all : ((g.mapped source tree).map fun place => place.node.key).Nodup := by
      rw [← Tree.Place.map_node_walk [] tree, List.map_map] at distinct
      exact distinct.sublist (List.filter_sublist.map _)
    have perm := paired.places.map fun place => place.node.key
    rw [List.map_map] at perm
    exact perm.nodup_iff.mpr all
  exact List.inj_on_of_nodup_map keys isFirst isSecond same

-- The place that holds another one is the one that the parent stands for.
theorem parent_cases {pair : Site × Tree.Place} (member : pair ∈ pairs) :
    (g.holderFrom source pair.2.above = none ∧ pair.1.parent? = some outline.rootSite) ∨
      ∃ parent holder, g.holderFrom source pair.2.above = some holder ∧ pair.1.parent? = some parent ∧
        (parent, holder) ∈ pairs := by
  obtain ⟨held, inside⟩ := paired.holds member
  obtain ⟨_, _, _, parentEq, _⟩ := imprintAt_eq_some (paired.imprints pair member)
  cases above : pair.1.above with
  | nil => exact absurd above inside
  | cons parent rest =>
    rw [Outline.Holds, above] at held
    have isParent : pair.1.parent? = some { node := parent, above := rest } := by rw [Site.parent?, above]
    cases rest with
    | nil =>
      left
      rw [above] at parentEq
      have noHolder : g.holderFrom source pair.2.above = none := Option.map_eq_none_iff.mp parentEq.symm
      refine ⟨noHolder, ?_⟩
      rw [isParent]
      cases held.2
      rfl
    | cons upper rest =>
      right
      rw [above] at parentEq
      obtain ⟨holder, isHolder, sameKey⟩ := Option.map_eq_some_iff.mp parentEq.symm
      refine ⟨_, holder, isHolder, isParent, ?_⟩
      have parentHeld : outline.Holds { node := parent, above := upper :: rest } := held.2
      obtain ⟨place, isPair⟩ := paired.exists_pair parentHeld (List.cons_ne_nil _ _)
      obtain ⟨site, holds⟩ := paired.exists_pair_of_holder member isHolder
      have placeKey : parent.key = place.node.key := paired.key_eq isPair
      cases paired.eq_of_key_eq distinct isPair holds (placeKey.symm.trans sameKey.symm)
      exact isPair

-- A site and a place that stand in the same place of the pairs have parents that do.
theorem parent?_iff {loop child : Site × Tree.Place} (isLoop : loop ∈ pairs)
    (isChild : child ∈ pairs) :
    child.1.parent? = some loop.1 ↔ g.holderFrom source child.2.above = some loop.2 := by
  rcases paired.parent_cases distinct isChild with ⟨noHolder, atRoot⟩ | ⟨parent, holder, isHolder, isParent, both⟩
  · rw [noHolder, atRoot]
    refine ⟨fun same => ?_, fun impossible => by cases impossible⟩
    have atTop : loop.1.above = [] := by
      rw [← Option.some.inj same]
      rfl
    exact absurd atTop (paired.holds isLoop).2
  · rw [isHolder, isParent]
    constructor
    · intro same
      cases Option.some.inj same
      rw [← paired.eq_of_id_eq both isLoop rfl]
    · intro same
      cases Option.some.inj same
      rw [← paired.eq_of_key_eq distinct both isLoop rfl]

theorem isOnce_iff {loop child : Site × Tree.Place} (isLoop : loop ∈ pairs)
    (isChild : child ∈ pairs) (loopKind : g.kindAt source loop.2 = some .loop)
    (held : g.holderFrom source child.2.above = some loop.2) :
    g.isOnce source child.2 = true ↔
      ∃ part ∈ g.onceParts loop.2.node, part.node ∈ child.2.node :: child.2.above := by
  rw [isOnce_eq held loopKind, List.any_eq_true]
  refine exists_congr fun part => and_congr_right fun isPart => ?_
  rw [List.contains_iff_mem]
  constructor
  · intro inWay
    obtain ⟨node, onWay, sameKey⟩ := List.mem_map.mp inWay
    have below := Tree.mem_preorder_of_below (onceOf_below isPart).2.2
    have partInTree := Tree.mem_preorder_trans (paired.mem_preorder isLoop List.mem_cons_self) below
    rwa [← List.inj_on_of_nodup_map distinct (paired.mem_preorder isChild onWay) partInTree sameKey]
  · exact List.mem_map_of_mem

theorem once_iff {loop child : Site × Tree.Place} (isLoop : loop ∈ pairs)
    (loops : loop.1.kind = .loop) (isChild : child ∈ pairs) :
    child.1 ∈ loop.1.onceChildren ↔ g.holderFrom source child.2.above = some loop.2 ∧
      ∃ part ∈ g.onceParts loop.2.node, part.node ∈ child.2.node :: child.2.above := by
  obtain ⟨_, _, loopKind, _, _⟩ := imprintAt_eq_some (paired.imprints loop isLoop)
  obtain ⟨_, _, _, _, onceEq⟩ := imprintAt_eq_some (paired.imprints child isChild)
  rw [loops] at loopKind
  rw [← paired.parent?_iff distinct isLoop isChild, Site.mem_onceChildren]
  constructor
  · rintro ⟨node, isOnce, place⟩
    have above : child.1.above = loop.1.node :: loop.1.above := by rw [place]
    have isParent := Site.parent?_eq_some.mpr above
    refine ⟨isParent, ?_⟩
    have held := (paired.parent?_iff distinct isLoop isChild).mp isParent
    have flag : g.isOnce source child.2 = true := by
      rw [← onceEq, place]
      exact List.contains_iff_mem.mpr (List.mem_map_of_mem isOnce)
    exact (paired.isOnce_iff distinct isLoop isChild loopKind held).mp flag
  · rintro ⟨isParent, part, isPart, onWay⟩
    have held := (paired.parent?_iff distinct isLoop isChild).mp isParent
    have above := Site.parent?_eq_some.mp isParent
    have flag := (paired.isOnce_iff distinct isLoop isChild loopKind held).mpr ⟨part, isPart, onWay⟩
    rw [← onceEq, above] at flag
    obtain ⟨node, isOnce, sameId⟩ := List.mem_map.mp (List.contains_iff_mem.mp flag)
    refine ⟨node, isOnce, ?_⟩
    have nodeHeld : outline.Holds { node, above := loop.1.node :: loop.1.above } :=
      Outline.holds_child (paired.holds isLoop).1 (List.mem_of_mem_take isOnce)
    exact Outline.eq_of_id_eq (paired.holds isChild).1 nodeHeld sameId.symm

theorem corresponds : g.Corresponds source tree outline pairs := by
  refine ⟨paired.sites, paired.places, ?_, ?_, ?_⟩
  · intro pair member
    obtain ⟨span, type, kind, _⟩ := imprintAt_eq_some (paired.imprints pair member)
    exact ⟨span, type, kind⟩
  · intro pair member
    rcases paired.parent_cases distinct member with ⟨noHolder, atRoot⟩ | ⟨parent, holder, isHolder, isParent, both⟩
    · rw [noHolder]
      exact atRoot
    · rw [isHolder]
      exact ⟨parent, isParent, both⟩
  · intro loop isLoop loops child isChild
    exact paired.once_iff distinct isLoop loops isChild

end Paired

end Grammar

-- Lowering hands out the identifiers in preorder, and the outline is accepted because they are; nothing that lowering
-- makes is refused there.
theorem Language.outline_corresponds {language : Language} {source : Source} {tree : Tree}
    (distinct : (tree.preorder.map Tree.key).Nodup) :
    (∀ outline, language.outline source (some tree) = .ok outline →
      (∃ pairs, language.grammar.Corresponds source tree outline pairs) ∧
        outline.preorder.map Site.id = List.range outline.size) ∧
    ∀ root last, (language.grammar.unitNode source tree).run 0 = .ok (root, last) →
      ∃ outline, Outline.ofRoot language.text source root = .ok outline ∧
        language.outline source (some tree) = .ok outline := by
  refine ⟨?_, ?_⟩
  · intro outline done
    have lowered := mapError_eq_ok.mp done
    obtain ⟨top, last, isTop, made⟩ := Grammar.outline_eq_unitNode lowered
    obtain ⟨_, parts, _, root⟩ := Grammar.unitNode_eq_ok made
    have noLoop : outline.root.onceCount = 0 := by
      rw [root]
      rfl
    obtain ⟨pairs, paired⟩ := Grammar.exists_paired
      (Grammar.outline_imprints (Grammar.clausesOpen language) distinct lowered) noLoop
    refine ⟨⟨pairs, paired.corresponds distinct⟩, ?_⟩
    rw [Outline.map_id_preorder, Outline.size, Grammar.unitNode_ids made, List.length_range]
  · intro root last made
    obtain ⟨outline, accepted, _⟩ := Grammar.ofRoot_unitNode language.text made
    refine ⟨outline, accepted, ?_⟩
    rw [Language.outline, Grammar.outline_of_unitNode made, accepted]
    rfl

def callTree (first last : Nat) (fields : List String) : Tree :=
  .node { type := "call", first, last, fields }
    [.node { type := "identifier", first, last := first + 1, fields := ["function"] } [],
     .node { type := "argument_list", first := first + 1, last, fields := ["arguments"] } []]

-- A loop over a comprehension: both take what they run over ahead of what stands before it. The comment hides a call.
def headerTree : Tree :=
  .node { type := "module", first := 0, last := 40 }
    [.node { type := "for_statement", first := 0, last := 35 }
      [.node { type := "identifier", first := 4, last := 5, fields := ["left"] } [],
       .node { type := "list_comprehension", first := 9, last := 29, fields := ["right"] }
        [callTree 10 14 ["body"],
         .node { type := "for_in_clause", first := 15, last := 28 }
          [.node { type := "identifier", first := 19, last := 20, fields := ["left"] } [],
           callTree 24 28 ["right"]]],
       .node { type := "block", first := 31, last := 35, fields := ["body"] } [callTree 31 35 []]],
     .node { type := "comment", first := 36, last := 40 } [callTree 36 40 []]]

def headerSource : Source :=
  { bytes := "for x in [f(y) for y in g(z)]: h(x) i(x)".toUTF8.toList }

theorem headerTree_lowered : (Language.python.outline headerSource (some headerTree)).toOption.isSome = true := by
  decide +kernel

theorem headerTree_corresponds :
    (headerTree.preorder.map Tree.key).Nodup ∧
      (∃ outline, Language.python.outline headerSource (some headerTree) = .ok outline ∧
        outline.preorder.map (fun site => (site.span.firstByte, site.kind, site.node.onceCount)) =
          [(0, .unit, 0), (0, .loop, 1), (9, .loop, 1), (24, .call, 0), (10, .call, 0), (31, .call, 0)] ∧
        (∃ pairs, Language.python.grammar.Corresponds headerSource headerTree outline pairs) ∧
        outline.preorder.map Site.id = List.range outline.size) ∧
      ∃ root last, (Language.python.grammar.unitNode headerSource headerTree).run 0 = .ok (root, last) ∧
        ∃ outline, Outline.ofRoot "python" headerSource root = .ok outline ∧
          Language.python.outline headerSource (some headerTree) = .ok outline := by
  have distinct : (headerTree.preorder.map Tree.key).Nodup := by decide
  have done := eq_ok_get headerTree_lowered
  obtain ⟨_, last, ⟨⟩, made⟩ := Grammar.outline_eq_unitNode (mapError_eq_ok.mp done)
  refine ⟨distinct, ⟨_, done, by decide +kernel, (Language.outline_corresponds distinct).1 _ done⟩, _, last, made, ?_⟩
  exact (Language.outline_corresponds distinct).2 _ _ made

end Perflint
