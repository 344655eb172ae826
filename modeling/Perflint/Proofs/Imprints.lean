import Mathlib
import Perflint.Proofs.Places

namespace Perflint

namespace Node

def key (node : Node) : Tree.Key :=
  { first := node.span.firstByte, last := node.span.lastByte, type := node.head.grammarType }

def imprint (parent : Option Tree.Key) (once : Bool) (node : Node) : Imprint :=
  { span := node.span, type := node.head.grammarType, kind := node.kind, parent, once }

mutual

-- The imprints of a node and of everything below it. `once` tells whether the node above evaluates it once.
def imprints (parent : Option Tree.Key) (once : Bool) : Node → List Imprint
  | .mk head children =>
    imprint parent once (.mk head children) ::
      imprintsAll (some (key (.mk head children))) (onceCount (.mk head children)) children

-- The first `left` nodes are evaluated once.
def imprintsAll (parent : Option Tree.Key) (left : Nat) : List Node → List Imprint
  | [] => []
  | node :: rest => imprints parent (0 < left) node ++ imprintsAll parent (left - 1) rest

end

theorem imprintsAll_eq (parent : Option Tree.Key) (left : Nat) (nodes : List Node) :
    imprintsAll parent left nodes =
      (nodes.take left).flatMap (imprints parent true) ++ (nodes.drop left).flatMap (imprints parent false) := by
  induction nodes generalizing left with
  | nil => simp [imprintsAll]
  | cons node rest ih =>
    rw [imprintsAll, ih]
    cases left with
    | zero => simp
    | succ left => simp

theorem imprints_eq (parent : Option Tree.Key) (once : Bool) (node : Node) :
    node.imprints parent once = node.imprint parent once ::
      (node.onceChildren.flatMap (imprints (some node.key) true) ++
        node.bodyChildren.flatMap (imprints (some node.key) false)) := by
  cases node with
  | mk head children =>
    rw [imprints, imprintsAll_eq]
    rfl

end Node

namespace Grammar

variable {g : Grammar} {source : Source}

theorem told_eq_ok {α : Type} {read : Reading α} {say : α → Info} {info : Info} :
    told read say = .ok info ↔ ∃ value, read = .ok value ∧ say value = info := by
  cases read <;> simp [told, Except.map, Except.mapError]

theorem describe_kind {path : List Tree} {tree : Tree} {kind : Kind} {info : Info}
    (described : g.describe source path tree kind = .ok info) : info.kind = kind := by
  cases kind with
  | unit | classDef | returns =>
    cases described
    rfl
  | function | loop =>
    simp only [describe] at described
    split at described
    · cases described
    · obtain ⟨_, _, rfl⟩ := told_eq_ok.mp described
      rfl
  | _ =>
    obtain ⟨_, _, rfl⟩ := told_eq_ok.mp described
    rfl

theorem countOnce_kind (info : Info) (count : Nat) : (countOnce info count).kind = info.kind := by
  cases info <;> rfl

theorem made_imprints {path : List Tree} {tree : Tree} {kind : Kind} {info : Info} {once rest : List Node}
    (described : g.describe source path tree kind = .ok info) (onlyLoops : kind ≠ .loop → once = [])
    (id : Nat) (parent : Option Tree.Key) (isOnce : Bool) :
    (made source tree id (countOnce info once.length) (once ++ rest)).imprints parent isOnce =
      { span := source.span tree.first tree.last, type := tree.type, kind, parent, once := isOnce } ::
        (once.flatMap (Node.imprints (some tree.key) true) ++ rest.flatMap (Node.imprints (some tree.key) false)) := by
  have kindEq := describe_kind described
  have count : (made source tree id (countOnce info once.length) (once ++ rest)).onceCount = once.length := by
    cases info with
    | loop l => rfl
    | _ =>
      rw [onlyLoops (by rw [← kindEq]; simp [Info.kind])]
      rfl
  have first : (made source tree id (countOnce info once.length) (once ++ rest)).onceChildren = once := by
    rw [Node.onceChildren, count]
    exact List.take_left
  have later : (made source tree id (countOnce info once.length) (once ++ rest)).bodyChildren = rest := by
    rw [Node.bodyChildren, count]
    exact List.drop_left
  rw [Node.imprints_eq, first, later]
  congr 1
  rw [← kindEq, ← countOnce_kind info once.length]
  rfl

-- A place is evaluated once when something between it and the node above is a part that this node evaluates once.
theorem isOnce_eq {place : Tree.Place} {path : List Tree} {tree : Tree} {kind : Kind}
    (held : g.holderFrom source place.above = some { node := tree, above := path })
    (part : g.kindAt source { node := tree, above := path } = some kind) :
    g.isOnce source place =
      (g.onceOf kind tree).any fun part => ((place.node :: place.above).map Tree.key).contains part.node.key := by
  rw [isOnce, held]
  dsimp only
  rw [part, onceOf]
  cases isLoop : kind == Kind.loop with
  | true =>
    rw [beq_iff_eq.mp isLoop]
    rfl
  | false =>
    have notLoop : kind ≠ .loop := by simpa using isLoop
    simp [notLoop]

theorem plain_of_stays {skip : List Tree.Key} {tree : Tree} (stays : g.passesOver skip tree = false) :
    tree.hasType g.commentTypes = false ∧ tree.key ∉ skip := by
  rw [passesOver, Bool.or_eq_false_iff] at stays
  exact ⟨stays.1, by simpa using stays.2⟩

-- What holds whenever a tree is looked at: it can be told from everything around it, and of the keys to pass over
-- none occurs below it, except among the children of a clause.
structure Entered (g : Grammar) (skip : List Tree.Key) (path : List Tree) (tree : Tree) : Prop where
  visible : g.Visible path
  distinct : Distinct path tree
  clear : ∀ inner ∈ tree.children.flatMap Tree.preorder, inner.key ∈ skip →
    tree.hasType clauseTypes = true ∧ inner ∈ tree.children

section Entered

variable {skip : List Tree.Key} {path : List Tree} {tree : Tree}

theorem Entered.opened {child : Tree} (entered : g.Entered skip path tree) (stays : g.passesOver skip tree = false)
    (member : child ∈ tree.children) : g.Entered skip (tree :: path) child := by
  refine ⟨visible_cons entered.visible (plain_of_stays stays).1, distinct_child entered.distinct member, ?_⟩
  intro inner below inSkip
  have inChild := Tree.mem_preorder_of_below below
  obtain ⟨_, isSibling⟩ := entered.clear inner (Tree.mem_below member inChild) inSkip
  exact absurd rfl (key_not_below (distinct_apart entered.distinct) member isSibling below)

-- A node with a part of its own is no clause, so nothing below it has been taken elsewhere.
theorem Entered.clear_of_part {kind : Kind} (entered : g.Entered skip path tree) (opens : g.ClausesOpen)
    (part : g.classify source path tree = .ok (some kind)) :
    ∀ inner ∈ tree.children.flatMap Tree.preorder, inner.key ∉ skip := by
  intro inner below inSkip
  have noPart := (opens tree (entered.clear inner below inSkip).1).2 source path
  rw [noPart] at part
  cases part

theorem Entered.once {kind : Kind} {part : OncePart tree} (entered : g.Entered skip path tree) (opens : g.ClausesOpen)
    (stays : g.passesOver skip tree = false) (classified : g.classify source path tree = .ok (some kind))
    (member : part ∈ g.onceOf kind tree) :
    g.Entered skip (part.between ++ tree :: path) part.node ∧
      g.holderFrom source (part.between ++ tree :: path) = some { node := tree, above := path } := by
  obtain ⟨_, isPart, isBelow⟩ := onceOf_below member
  have plain := (plain_of_stays stays).1
  have visible := visible_cons entered.visible plain
  have here := kindAt_of_visible entered.visible plain classified
  have clear : ∀ inner ∈ part.node.children.flatMap Tree.preorder, inner.key ∈ skip →
      part.node.hasType clauseTypes = true ∧ inner ∈ part.node.children := by
    intro inner below inSkip
    obtain ⟨child, isChild, inside⟩ := List.mem_flatMap.mp isBelow
    have inTree := Tree.mem_below isChild (Tree.mem_preorder_trans inside (Tree.mem_preorder_of_below below))
    exact absurd inSkip (entered.clear_of_part opens classified inner inTree)
  rcases g.onceParts_cases tree with ⟨direct, among⟩ | ⟨single, clause, only, isChild, isClause, between, below⟩
  · rw [direct part isPart, List.nil_append]
    have isChild := among.subset (List.mem_map_of_mem isPart)
    exact ⟨⟨visible, distinct_child entered.distinct isChild, clear⟩, holderFrom_cons_of_some here⟩
  · rw [only, List.mem_singleton] at isPart
    subst isPart
    rw [between, List.singleton_append]
    obtain ⟨clausePlain, noPart⟩ := opens clause isClause
    have distinct := distinct_child (distinct_child entered.distinct isChild) below
    refine ⟨⟨visible_cons visible clausePlain, distinct, clear⟩, ?_⟩
    rw [holderFrom_cons_of_none (kindAt_of_visible visible clausePlain (noPart source _)), holderFrom_cons_of_some here]

theorem Entered.rest {kind : Kind} {child : Tree} (entered : g.Entered skip path tree) (opens : g.ClausesOpen)
    (stays : g.passesOver skip tree = false) (classified : g.classify source path tree = .ok (some kind))
    (member : child ∈ tree.children) :
    g.Entered (skip ++ (g.onceOf kind tree).map (·.node.key)) (tree :: path) child := by
  refine ⟨visible_cons entered.visible (plain_of_stays stays).1, distinct_child entered.distinct member, ?_⟩
  intro inner below taken
  have apart := distinct_apart entered.distinct
  have inChild := Tree.mem_preorder_of_below below
  rcases List.mem_append.mp taken with inSkip | isOnce
  · exact absurd inSkip (entered.clear_of_part opens classified inner (Tree.mem_below member inChild))
  · obtain ⟨part, isOncePart, same⟩ := List.mem_map.mp isOnce
    obtain ⟨_, isPart, _⟩ := onceOf_below isOncePart
    rcases g.onceParts_cases tree with ⟨_, among⟩ | ⟨single, clause, only, isChild, isClause, _, inClause⟩
    · exact absurd same.symm (key_not_below apart member (among.subset (List.mem_map_of_mem isPart)) below)
    · rw [only, List.mem_singleton] at isPart
      subst isPart
      have inClausePreorder := Tree.mem_preorder_of_below (Tree.mem_below inClause part.node.mem_preorder_self)
      cases eq_of_shared_key apart member isChild inChild inClausePreorder same.symm
      have keys := (distinct_child entered.distinct member).sublist ((List.sublist_append_left _ _).map _)
      cases List.inj_on_of_nodup_map keys inChild inClausePreorder same.symm
      exact ⟨isClause, inClause⟩

end Entered

theorem once_nil_of_not_loop {kind : Kind} {tree : Tree} {gives : OncePart tree → List Node → Prop}
    {once : List (List Node)} (first : List.Forall₂ gives (g.onceOf kind tree) once) (notLoop : kind ≠ .loop) :
    once.flatten = [] := by
  have none : g.onceOf kind tree = [] := by simp [onceOf, notLoop]
  rw [none, List.forall₂_nil_left_iff] at first
  rw [first]
  rfl

section Flags

variable {skip : List Tree.Key} {path : List Tree} {tree : Tree} {kind : Kind} {place : Tree.Place}

theorem isOnce_of_part {part : OncePart tree} (here : g.kindAt source { node := tree, above := path } = some kind)
    (isPart : part ∈ g.onceOf kind tree) (inside : place ∈ g.reach skip (part.between ++ tree :: path) part.node)
    (held : g.holderFrom source place.above = some { node := tree, above := path }) : g.isOnce source place = true := by
  obtain ⟨lower, above, passed, _⟩ := mem_reach inside
  rw [isOnce_eq held here, List.any_eq_true]
  refine ⟨part, isPart, List.contains_iff_mem.mpr (List.mem_map_of_mem ?_)⟩
  rw [above, ← List.cons_append]
  exact List.mem_append_left _ passed

theorem isOnce_of_rest {child : Tree} (here : g.kindAt source { node := tree, above := path } = some kind)
    (distinct : Distinct path tree)
    (inside : place ∈ g.reach (skip ++ (g.onceOf kind tree).map (·.node.key)) (tree :: path) child)
    (held : g.holderFrom source place.above = some { node := tree, above := path }) :
    g.isOnce source place = false := by
  obtain ⟨lower, above, _, stays⟩ := mem_reach inside
  rw [isOnce_eq held here, List.any_eq_false]
  intro part isPart isInside
  obtain ⟨other, isOther, same⟩ := List.mem_map.mp (List.contains_iff_mem.mp isInside)
  rw [above, ← List.cons_append, List.mem_append] at isOther
  rcases isOther with below | onPath
  · have taken : part.node.key ∈ skip ++ (g.onceOf kind tree).map (·.node.key) :=
      List.mem_append_right _ (List.mem_map_of_mem isPart)
    exact (plain_of_stays (stays other below)).2 (same ▸ taken)
  · exact distinct_below distinct (onceOf_below isPart).2.2 onPath same.symm

end Flags

-- Every place that lowering reaches and that plays a part becomes one node, under the node of the nearest place
-- above it that plays one.
theorem lower_imprints {skip : List Tree.Key} {path : List Tree} {tree : Tree} {nodes : List Node} {next last : Nat}
    {once : Bool} (opens : g.ClausesOpen) (entered : g.Entered skip path tree)
    (flagged : ∀ place ∈ g.reach skip path tree,
      g.holderFrom source place.above = g.holderFrom source path → g.isOnce source place = once)
    (done : g.Lowers source skip path tree next nodes last) :
    (nodes.flatMap (Node.imprints ((g.holderFrom source path).map (·.node.key)) once)).Perm
      ((g.reach skip path tree).filterMap (g.imprintAt source)) := by
  induction tree using lowering_induction generalizing skip path nodes next last once with
  | step tree children parts =>
    cases lowered_of_lower done with
    | passed passes =>
      rw [reach_of_passes passes]
      exact .nil
    | opened stays noPart below =>
      have here := kindAt_of_visible entered.visible (plain_of_stays stays).1 noPart
      rw [reach_of_stays stays] at flagged ⊢
      rw [List.filterMap_cons_none (imprintAt_eq_none here), List.filterMap_flatMap]
      refine flatten_flatMap_perm below.each ?_
      rintro child member part ⟨_, _, lowered⟩
      rw [← holderFrom_cons_of_none here] at flagged ⊢
      refine children child member (entered.opened stays member) ?_ lowered
      intro place inside
      exact flagged place (List.mem_cons_of_mem _ (List.mem_flatMap.mpr ⟨child, member, inside⟩))
    | @kept kind info onceNodes restNodes _ _ _ stays classified described early below =>
      have plain := (plain_of_stays stays).1
      have here := kindAt_of_visible entered.visible plain classified
      have holder : g.holderFrom source (tree :: path) = some { node := tree, above := path } :=
        holderFrom_cons_of_some here
      rw [reach_of_stays stays] at flagged ⊢
      have own : g.imprintAt source { node := tree, above := path } =
          some { span := source.span tree.first tree.last, type := tree.type, kind
                 parent := (g.holderFrom source path).map (·.node.key), once } := by
        rw [imprintAt, here, flagged _ List.mem_cons_self rfl]
        rfl
      rw [List.flatMap_singleton, made_imprints described (once_nil_of_not_loop early.each),
        List.filterMap_cons_some own]
      refine List.Perm.cons _ (List.Perm.trans ?_ (reach_once kind opens (visible_cons entered.visible plain)
        entered.distinct (entered.clear_of_part opens classified)).symm)
      rw [List.filterMap_append, List.filterMap_flatMap, List.filterMap_flatMap]
      refine List.Perm.append (flatten_flatMap_perm early.each ?_) (flatten_flatMap_perm below.each ?_)
      · rintro part isPart nodes ⟨_, _, lowered⟩
        obtain ⟨partEntered, held⟩ := entered.once opens stays classified isPart
        have perm := parts part partEntered
          (fun place inside same => isOnce_of_part here isPart inside (same.trans held)) lowered
        rwa [held] at perm
      · rintro child isChild nodes ⟨_, _, lowered⟩
        have perm := children child isChild (entered.rest opens stays classified isChild)
          (fun place inside same => isOnce_of_rest here entered.distinct inside (same.trans holder)) lowered
        rwa [holder] at perm

end Grammar
end Perflint
