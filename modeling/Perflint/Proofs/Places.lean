import Mathlib
import Perflint.Proofs.Lowering

namespace Perflint

-- A node of a tree in its place: `above` are its ancestors, the nearest first.
structure Tree.Place where
  node : Tree
  above : List Tree

namespace Tree.Place

mutual

-- Every node below a tree in its place, parents first.
def walk (above : List Tree) : Tree → List Tree.Place
  | .node label children =>
    { node := .node label children, above } :: walkAll (.node label children :: above) children

def walkAll (above : List Tree) : List Tree → List Tree.Place
  | [] => []
  | tree :: rest => walk above tree ++ walkAll above rest

end

theorem walkAll_eq (above trees : List Tree) : walkAll above trees = trees.flatMap (walk above) := by
  induction trees with
  | nil => rfl
  | cons tree rest ih => rw [walkAll, ih, List.flatMap_cons]

theorem walk_eq (above : List Tree) (tree : Tree) :
    walk above tree = { node := tree, above } :: tree.children.flatMap (walk (tree :: above)) := by
  cases tree with
  | node label children => rw [walk, walkAll_eq, Tree.children]

def ancestorsFrom : List Tree → List Tree.Place
  | [] => []
  | node :: above => { node, above } :: ancestorsFrom above

end Tree.Place

namespace Grammar

section Spec

variable (g : Grammar) (source : Source)

-- A comment hides everything in it. The root stands for the unit, whatever its type.
def isHidden (place : Tree.Place) : Bool :=
  (place.node :: place.above.dropLast).any (·.hasType g.commentTypes)

-- The part that a node plays in its place.
def kindAt (place : Tree.Place) : Option Kind :=
  if place.above.isEmpty || g.isHidden place then none
  else
    match g.classify source place.above place.node with
    | .ok kind => kind
    | .error _ => none

-- The places below the root that play a part.
def mapped (tree : Tree) : List Tree.Place :=
  (Tree.Place.walk [] tree).filter fun place => (g.kindAt source place).isSome

-- The nearest of some ancestors that plays a part.
def holderFrom (above : List Tree) : Option Tree.Place :=
  (Tree.Place.ancestorsFrom above).find? fun place => (g.kindAt source place).isSome

-- Whether a place is, or lies in, a part that the loop around it evaluates once.
def isOnce (place : Tree.Place) : Bool :=
  match g.holderFrom source place.above with
  | none => false
  | some holder =>
    g.kindAt source holder == some .loop &&
      (g.onceParts holder.node).any fun part => ((place.node :: place.above).map Tree.key).contains part.node.key

end Spec

end Grammar

-- What the outline keeps of a place.
structure Imprint where
  span : Span
  type : String
  kind : Kind
  -- The node above it, unless that is the unit.
  parent : Option Tree.Key
  once : Bool
  deriving DecidableEq

namespace Grammar

section Reach

variable {g : Grammar} {source : Source}

def imprintAt (g : Grammar) (source : Source) (place : Tree.Place) : Option Imprint :=
  (g.kindAt source place).map fun kind =>
    { span := source.span place.node.first place.node.last, type := place.node.type, kind
      parent := (g.holderFrom source place.above).map (·.node.key), once := g.isOnce source place }

theorem imprintAt_eq_none {place : Tree.Place} (noPart : g.kindAt source place = none) :
    g.imprintAt source place = none := by
  rw [imprintAt, noPart]
  rfl

-- The path leads to the root and meets no comment below it.
structure Visible (g : Grammar) (path : List Tree) : Prop where
  below : path ≠ []
  plain : ∀ tree ∈ path.dropLast, tree.hasType g.commentTypes = false

theorem visible_cons {path : List Tree} {tree : Tree} (visible : g.Visible path)
    (plain : tree.hasType g.commentTypes = false) : g.Visible (tree :: path) := by
  refine ⟨List.cons_ne_nil _ _, ?_⟩
  rw [List.dropLast_cons_of_ne_nil visible.below]
  intro other member
  rcases List.mem_cons.mp member with rfl | higher
  · exact plain
  · exact visible.plain other higher

theorem kindAt_of_visible {path : List Tree} {tree : Tree} {kind : Option Kind} (visible : g.Visible path)
    (plain : tree.hasType g.commentTypes = false) (classified : g.classify source path tree = .ok kind) :
    g.kindAt source { node := tree, above := path } = kind := by
  have shown : g.isHidden { node := tree, above := path } = false := by
    rw [isHidden, List.any_eq_false]
    intro other member
    rcases List.mem_cons.mp member with rfl | higher
    · exact Bool.eq_false_iff.mp plain
    · exact Bool.eq_false_iff.mp (visible.plain other higher)
  have inside : path.isEmpty = false := List.isEmpty_eq_false_iff.mpr visible.below
  simp only [kindAt, inside, shown, classified, Bool.or_self, Bool.false_eq_true, if_false]

theorem holderFrom_cons_of_none {path : List Tree} {tree : Tree}
    (noPart : g.kindAt source { node := tree, above := path } = none) :
    g.holderFrom source (tree :: path) = g.holderFrom source path := by
  simp [holderFrom, Tree.Place.ancestorsFrom, noPart]

theorem holderFrom_cons_of_some {path : List Tree} {tree : Tree} {kind : Kind}
    (part : g.kindAt source { node := tree, above := path } = some kind) :
    g.holderFrom source (tree :: path) = some { node := tree, above := path } := by
  simp [holderFrom, Tree.Place.ancestorsFrom, part]

mutual

-- The places that lowering looks at below a tree.
def reach (g : Grammar) (skip : List Tree.Key) (path : List Tree) : Tree → List Tree.Place
  | .node label children =>
    if g.passesOver skip (.node label children) then []
    else { node := .node label children, above := path } :: reachAll g skip (.node label children :: path) children

def reachAll (g : Grammar) (skip : List Tree.Key) (path : List Tree) : List Tree → List Tree.Place
  | [] => []
  | tree :: rest => reach g skip path tree ++ reachAll g skip path rest

end

theorem reachAll_eq (g : Grammar) (skip : List Tree.Key) (path trees : List Tree) :
    g.reachAll skip path trees = trees.flatMap (g.reach skip path) := by
  induction trees with
  | nil => rfl
  | cons tree rest ih => rw [reachAll, ih, List.flatMap_cons]

theorem reach_eq (g : Grammar) (skip : List Tree.Key) (path : List Tree) (tree : Tree) :
    g.reach skip path tree =
      if g.passesOver skip tree then []
      else { node := tree, above := path } :: tree.children.flatMap (g.reach skip (tree :: path)) := by
  cases tree with
  | node label children => rw [reach, reachAll_eq, Tree.children]

theorem reach_of_passes {skip : List Tree.Key} {path : List Tree} {tree : Tree}
    (passes : g.passesOver skip tree = true) : g.reach skip path tree = [] := by
  rw [reach_eq, if_pos passes]

theorem reach_of_stays {skip : List Tree.Key} {path : List Tree} {tree : Tree}
    (stays : g.passesOver skip tree = false) :
    g.reach skip path tree =
      { node := tree, above := path } :: tree.children.flatMap (g.reach skip (tree :: path)) := by
  rw [reach_eq, if_neg (Bool.eq_false_iff.mp stays)]

-- Between a place and the tree it was reached from, nothing was passed over.
theorem mem_reach {skip : List Tree.Key} {path : List Tree} {tree : Tree} {place : Tree.Place}
    (member : place ∈ g.reach skip path tree) :
    ∃ lower, place.above = lower ++ path ∧ tree ∈ place.node :: lower ∧
      ∀ between ∈ place.node :: lower, g.passesOver skip between = false := by
  induction tree using Tree.nested_induction generalizing path with
  | step tree ih =>
    cases stays : g.passesOver skip tree with
    | true =>
      rw [reach_of_passes stays] at member
      cases member
    | false =>
      rw [reach_of_stays stays] at member
      rcases List.mem_cons.mp member with rfl | deeper
      · exact ⟨[], rfl, List.mem_cons_self, by simpa using stays⟩
      · obtain ⟨child, isChild, inside⟩ := List.mem_flatMap.mp deeper
        obtain ⟨lower, place_eq, _, all⟩ := ih child isChild inside
        refine ⟨lower ++ [tree], by rw [place_eq, List.append_assoc, List.singleton_append], by simp, ?_⟩
        intro between isBetween
        rw [← List.cons_append, List.mem_append, List.mem_singleton] at isBetween
        rcases isBetween with below | rfl
        · exact all between below
        · exact stays

-- Keys that occur nowhere below do not change what is reached.
theorem reach_fresh {skip keys : List Tree.Key} {path : List Tree} {tree : Tree}
    (fresh : ∀ inner ∈ tree.preorder, inner.key ∉ keys) :
    g.reach (skip ++ keys) path tree = g.reach skip path tree := by
  induction tree using Tree.nested_induction generalizing path with
  | step tree ih =>
    rw [Tree.preorder_eq] at fresh
    have here : g.passesOver (skip ++ keys) tree = g.passesOver skip tree := by
      have outside := fresh tree List.mem_cons_self
      simp [passesOver, outside]
    rw [reach_eq, reach_eq, here]
    congr 2
    refine List.flatMap_congr fun child isChild => ih child isChild fun inner below => ?_
    exact fresh inner (List.mem_cons_of_mem _ (List.mem_flatMap.mpr ⟨child, isChild, below⟩))

end Reach

section Distinct

variable {g : Grammar}

-- No two nodes of the trees have the same key.
def Apart (trees : List Tree) : Prop :=
  ((trees.flatMap Tree.preorder).map Tree.key).Nodup

theorem eq_of_shared_key {trees : List Tree} {first second inFirst inSecond : Tree} (apart : Apart trees)
    (isFirst : first ∈ trees) (isSecond : second ∈ trees) (below : inFirst ∈ first.preorder)
    (belowSecond : inSecond ∈ second.preorder) (same : inFirst.key = inSecond.key) : first = second := by
  rw [Apart, List.map_flatMap, List.nodup_flatMap] at apart
  by_contra differ
  have symmetric : Std.Symm (Function.onFun List.Disjoint fun tree : Tree => tree.preorder.map Tree.key) :=
    ⟨fun _ _ disjoint => disjoint.symm⟩
  have disjoint := apart.2.forall isFirst isSecond differ
  exact disjoint (List.mem_map_of_mem below) (same ▸ List.mem_map_of_mem belowSecond)

theorem apart_children {trees : List Tree} {tree : Tree} (apart : Apart trees) (member : tree ∈ trees) :
    tree.key ∉ (tree.children.flatMap Tree.preorder).map Tree.key ∧ Apart tree.children := by
  rw [Apart, List.map_flatMap, List.nodup_flatMap] at apart
  have own := apart.1 tree member
  rw [Tree.preorder_eq, List.map_cons, List.nodup_cons] at own
  exact own

-- The key of a sibling occurs nowhere below a tree.
theorem key_not_below {trees : List Tree} {tree sibling inner : Tree} (apart : Apart trees) (member : tree ∈ trees)
    (isSibling : sibling ∈ trees) (below : inner ∈ tree.children.flatMap Tree.preorder) : inner.key ≠ sibling.key := by
  intro same
  cases eq_of_shared_key apart member isSibling (Tree.mem_preorder_of_below below) sibling.mem_preorder_self same
  exact (apart_children apart member).1 (same ▸ List.mem_map_of_mem below)

theorem apart_keys_nodup {trees : List Tree} (apart : Apart trees) : (trees.map Tree.key).Nodup :=
  apart.sublist ((sublist_flatMap_self Tree.mem_preorder_self trees).map _)

-- Siblings may be reached first; passing over them afterwards keeps every place once.
theorem reach_split {skip : List Tree.Key} {path trees chosen : List Tree} (apart : Apart trees)
    (some : chosen.Sublist trees) :
    (trees.flatMap (g.reach skip path)).Perm
      (chosen.flatMap (g.reach skip path) ++ trees.flatMap (g.reach (skip ++ chosen.map Tree.key) path)) := by
  have taken : chosen.flatMap (g.reach skip path) = trees.flatMap fun tree =>
      if (chosen.map Tree.key).contains tree.key then g.reach skip path tree else [] := by
    rw [← flatMap_filter, filter_key_eq Tree.key some (apart_keys_nodup apart)]
  have rest : ∀ tree ∈ trees, g.reach (skip ++ chosen.map Tree.key) path tree =
      if (chosen.map Tree.key).contains tree.key then [] else g.reach skip path tree := by
    intro tree member
    split
    · rename_i isChosen
      have taken : tree.key ∈ skip ++ chosen.map Tree.key :=
        List.mem_append_right _ (List.contains_iff_mem.mp isChosen)
      refine reach_of_passes ?_
      rw [passesOver, List.contains_iff_mem.mpr taken, Bool.or_true]
    · rename_i notChosen
      refine reach_fresh fun inner below inside => ?_
      obtain ⟨other, isOther, same⟩ := List.mem_map.mp inside
      rw [Tree.preorder_eq] at below
      rcases List.mem_cons.mp below with rfl | deeper
      · exact notChosen (List.contains_iff_mem.mpr inside)
      · exact key_not_below apart member (some.subset isOther) deeper same.symm
  rw [taken, List.flatMap_congr rest]
  refine List.Perm.trans (List.Perm.of_eq ?_) (List.flatMap_append_perm _ _ _).symm
  refine List.flatMap_congr fun tree _ => ?_
  split <;> simp

-- No two nodes of a tree and of the path to it have the same key.
def Distinct (path : List Tree) (tree : Tree) : Prop :=
  ((tree.preorder ++ path).map Tree.key).Nodup

theorem distinct_child {path : List Tree} {tree child : Tree} (distinct : Distinct path tree)
    (member : child ∈ tree.children) : Distinct (tree :: path) child := by
  have inside : child.preorder.Sublist (tree.children.flatMap Tree.preorder) := by
    rw [List.flatMap_def]
    exact List.sublist_flatten_of_mem (List.mem_map_of_mem member)
  have sub : (tree :: (child.preorder ++ path)).Sublist (tree.preorder ++ path) := by
    rw [Tree.preorder_eq tree, List.cons_append]
    exact (inside.append_right path).cons_cons tree
  refine (List.Perm.nodup_iff ?_).mp (distinct.sublist (sub.map Tree.key))
  exact List.perm_middle.symm.map Tree.key

theorem distinct_apart {path : List Tree} {tree : Tree} (distinct : Distinct path tree) : Apart tree.children := by
  refine distinct.sublist (List.Sublist.map _ ?_)
  rw [Tree.preorder_eq tree, List.cons_append]
  exact (List.sublist_append_left _ _).cons _

theorem distinct_below {path : List Tree} {tree inner upper : Tree} (distinct : Distinct path tree)
    (below : inner ∈ tree.children.flatMap Tree.preorder) (above : upper ∈ tree :: path) : inner.key ≠ upper.key := by
  rw [Distinct, Tree.preorder_eq tree, List.cons_append, List.map_cons, List.nodup_cons, List.map_append,
    List.nodup_append] at distinct
  obtain ⟨own, -, -, apart⟩ := distinct
  rcases List.mem_cons.mp above with rfl | higher
  · exact fun same => own (List.mem_append_left _ (same ▸ List.mem_map_of_mem below))
  · exact apart _ (List.mem_map_of_mem below) _ (List.mem_map_of_mem higher)

end Distinct

section Once

variable {g : Grammar} {source : Source}

theorem onceOf_below {kind : Kind} {tree : Tree} {part : OncePart tree} (member : part ∈ g.onceOf kind tree) :
    kind = .loop ∧ part ∈ g.onceParts tree ∧ part.node ∈ tree.children.flatMap Tree.preorder := by
  unfold onceOf at member
  split at member
  · rename_i isLoop
    refine ⟨beq_iff_eq.mp isLoop, member, ?_⟩
    rcases g.onceParts_cases tree with ⟨_, among⟩ | ⟨single, clause, only, isChild, _, _, below⟩
    · exact Tree.mem_below (among.subset (List.mem_map_of_mem member)) (Tree.mem_preorder_self _)
    · rw [only, List.mem_singleton] at member
      cases member
      exact Tree.mem_below isChild (Tree.mem_preorder_of_below (Tree.mem_below below (Tree.mem_preorder_self _)))
  · cases member

-- A clause is looked through: only what it holds is reached.
theorem reach_clause {skip : List Tree.Key} {path : List Tree} {clause : Tree} (opens : g.ClausesOpen)
    (visible : g.Visible path) (isClause : clause.hasType clauseTypes = true) (shown : clause.key ∉ skip) :
    (g.reach skip path clause).filterMap (g.imprintAt source) =
      (clause.children.flatMap (g.reach skip (clause :: path))).filterMap (g.imprintAt source) := by
  obtain ⟨plain, noPart⟩ := opens clause isClause
  have stays : g.passesOver skip clause = false := by simp [passesOver, plain, shown]
  rw [reach_of_stays stays, List.filterMap_cons_none]
  exact imprintAt_eq_none (kindAt_of_visible visible plain (noPart source path))

-- One child of a clause may be reached first.
theorem reach_split_clause {skip : List Tree.Key} {path : List Tree} {tree clause part : Tree} (opens : g.ClausesOpen)
    (visible : g.Visible (tree :: path)) (distinct : Distinct path tree)
    (clear : ∀ inner ∈ tree.children.flatMap Tree.preorder, inner.key ∉ skip) (isChild : clause ∈ tree.children)
    (isClause : clause.hasType clauseTypes = true) (below : part ∈ clause.children) :
    ((tree.children.flatMap (g.reach skip (tree :: path))).filterMap (g.imprintAt source)).Perm
      ((g.reach skip (clause :: tree :: path) part ++
        tree.children.flatMap (g.reach (skip ++ [part.key]) (tree :: path))).filterMap (g.imprintAt source)) := by
  have apart := distinct_apart distinct
  have inClause : part ∈ clause.preorder := Tree.mem_preorder_of_below (Tree.mem_below below part.mem_preorder_self)
  have shown : clause.key ∉ skip := clear clause (Tree.mem_below isChild clause.mem_preorder_self)
  have stillShown : clause.key ∉ skip ++ [part.key] := by
    rw [List.mem_append, List.mem_singleton]
    rintro (inSkip | same)
    · exact shown inSkip
    · exact (apart_children apart isChild).1 (same ▸ List.mem_map_of_mem (Tree.mem_below below part.mem_preorder_self))
  obtain ⟨before, after, split⟩ := List.append_of_mem isChild
  have single : clause.key ∉ before.map Tree.key ++ after.map Tree.key := by
    have keys := apart_keys_nodup apart
    rw [split, List.map_append, List.map_cons, List.nodup_middle, List.nodup_cons] at keys
    exact keys.1
  -- The key of the part occurs in the clause only, so the other children are reached as before.
  have elsewhere : ∀ others : List Tree, (∀ other ∈ others, other ∈ tree.children ∧ other.key ≠ clause.key) →
      others.flatMap (g.reach (skip ++ [part.key]) (tree :: path)) = others.flatMap (g.reach skip (tree :: path)) := by
    intro others apartFrom
    refine List.flatMap_congr fun other isOther => reach_fresh fun inner inside same => ?_
    obtain ⟨otherChild, differs⟩ := apartFrom other isOther
    exact differs (congrArg Tree.key
      (eq_of_shared_key apart otherChild isChild inside inClause (List.mem_singleton.mp same)))
  have inBefore := elsewhere before fun other member => ⟨by simp [split, member], fun same =>
    single (List.mem_append_left _ (same ▸ List.mem_map_of_mem member))⟩
  have inAfter := elsewhere after fun other member => ⟨by simp [split, member], fun same =>
    single (List.mem_append_right _ (same ▸ List.mem_map_of_mem member))⟩
  have inside := (reach_split (apart_children apart isChild).2 (List.singleton_sublist.mpr below) :
    (clause.children.flatMap (g.reach skip (clause :: tree :: path))).Perm _).filterMap (g.imprintAt source)
  rw [List.flatMap_singleton, List.filterMap_append, List.map_singleton] at inside
  rw [split]
  simp only [List.flatMap_append, List.flatMap_cons, List.filterMap_append, inBefore, inAfter,
    reach_clause opens visible isClause shown, reach_clause opens visible isClause stillShown]
  refine List.Perm.trans ((inside.append_right _).append_left _) ?_
  rw [List.append_assoc]
  exact List.perm_append_comm_assoc _ _ _

-- What a node evaluates once may be reached ahead of the rest, wherever it stands.
theorem reach_once {skip : List Tree.Key} {path : List Tree} {tree : Tree} (kind : Kind) (opens : g.ClausesOpen)
    (visible : g.Visible (tree :: path)) (distinct : Distinct path tree)
    (clear : ∀ inner ∈ tree.children.flatMap Tree.preorder, inner.key ∉ skip) :
    ((tree.children.flatMap (g.reach skip (tree :: path))).filterMap (g.imprintAt source)).Perm
      (((g.onceOf kind tree).flatMap (fun part => g.reach skip (part.between ++ tree :: path) part.node) ++
        tree.children.flatMap (g.reach (skip ++ (g.onceOf kind tree).map (·.node.key)) (tree :: path))).filterMap
          (g.imprintAt source)) := by
  unfold onceOf
  split
  · rcases g.onceParts_cases tree with ⟨direct, among⟩ | ⟨part, clause, only, isChild, isClause, between, below⟩
    · have nodes : (g.onceParts tree).flatMap (fun part => g.reach skip (part.between ++ tree :: path) part.node) =
          ((g.onceParts tree).map OncePart.node).flatMap (g.reach skip (tree :: path)) := by
        rw [List.flatMap_map]
        refine List.flatMap_congr fun part isPart => ?_
        rw [direct part isPart, List.nil_append]
      have keys : (g.onceParts tree).map (·.node.key) = ((g.onceParts tree).map OncePart.node).map Tree.key := by
        rw [List.map_map]
        rfl
      rw [nodes, keys]
      exact (reach_split (distinct_apart distinct) among).filterMap _
    · rw [only, List.flatMap_singleton, List.map_singleton, between]
      exact reach_split_clause opens visible distinct clear isChild isClause below
  · rw [List.flatMap_nil, List.map_nil, List.append_nil, List.nil_append]

end Once

end Grammar
end Perflint
