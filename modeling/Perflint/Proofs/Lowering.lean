import Mathlib
import Perflint.Grammar.Languages
import Perflint.Grammar.Lowering
import Perflint.Proofs.Sites

namespace Perflint

namespace Tree

theorem preorderAll_eq (trees : List Tree) : preorderAll trees = trees.flatMap preorder := by
  induction trees with
  | nil => rfl
  | cons tree rest ih => rw [preorderAll, ih, List.flatMap_cons]

theorem preorder_eq (tree : Tree) : tree.preorder = tree :: tree.children.flatMap preorder := by
  cases tree with
  | node label children => rw [preorder, preorderAll_eq, Tree.children]

theorem nested_induction {motive : Tree → Prop}
    (step : ∀ tree, (∀ child ∈ tree.children, motive child) → motive tree) (tree : Tree) : motive tree :=
  step tree fun child _ => nested_induction step child
termination_by sizeOf tree
decreasing_by exact sizeOf_child_lt (by assumption)

theorem mem_preorder_self (tree : Tree) : tree ∈ tree.preorder := by
  rw [preorder_eq]
  exact List.mem_cons_self

theorem mem_preorder_of_below {tree inner : Tree} (below : inner ∈ tree.children.flatMap preorder) :
    inner ∈ tree.preorder := by
  rw [preorder_eq]
  exact List.mem_cons_of_mem _ below

theorem mem_below {tree child inner : Tree} (member : child ∈ tree.children) (inside : inner ∈ child.preorder) :
    inner ∈ tree.children.flatMap preorder :=
  List.mem_flatMap.mpr ⟨child, member, inside⟩

theorem mem_preorder_trans {tree middle inner : Tree} (inTree : middle ∈ tree.preorder)
    (inMiddle : inner ∈ middle.preorder) : inner ∈ tree.preorder := by
  induction tree using nested_induction with
  | step tree ih =>
    rw [preorder_eq] at inTree
    rcases List.mem_cons.mp inTree with rfl | below
    · exact inMiddle
    · obtain ⟨child, isChild, inside⟩ := List.mem_flatMap.mp below
      exact mem_preorder_of_below (mem_below isChild (ih child isChild inside))

theorem mem_preorder_of_child {tree child : Tree} (isChild : child ∈ tree.children) : child ∈ tree.preorder :=
  mem_preorder_of_below (mem_below isChild (mem_preorder_self child))

theorem mem_children_of_field? {tree child : Tree} {name : String} (found : tree.field? name = some child) :
    child ∈ tree.children :=
  List.mem_of_find?_eq_some found

end Tree

namespace Grammar

-- Heads of loops that are nodes of their own between a loop and what it evaluates once.
def clauseTypes : List String := ["for_clause", "range_clause", "for_in_clause"]

-- Whether the type alone can give a node a part of its own.
def namesType (g : Grammar) (type : String) : Bool :=
  g.functionTypes.contains type || g.closureTypes.contains type || g.classTypes.contains type ||
    (g.loopTypes.lookup type).isSome || g.callTypes.contains type || g.newTypes.contains type ||
    (g.literalTypes.lookup type).isSome || g.conditionalTypes.contains type || g.assignmentTypes.contains type ||
    g.updateTypes.contains type || g.returnTypes.contains type || g.membershipTypes.contains type ||
    g.deletionTypes.contains type

theorem classify_of_unnamed {g : Grammar} {source : Source} {path : List Tree} {tree : Tree}
    (unnamed : g.namesType tree.type = false) : g.classify source path tree = .ok none := by
  simp only [namesType, Bool.or_eq_false_iff] at unnamed
  simp only [classify, Tree.hasType, isCall, literal?, unnamed, Bool.false_eq_true, if_false, Bool.or_self,
    Bool.false_and]

theorem clauses_unnamed (language : Language) : ∀ type ∈ clauseTypes,
    language.grammar.namesType type = false ∧ language.grammar.commentTypes.contains type = false := by
  cases language <;> decide

-- No grammar gives a clause a part of its own or takes it for a comment.
def ClausesOpen (g : Grammar) : Prop :=
  ∀ tree : Tree, tree.hasType clauseTypes = true →
    tree.hasType g.commentTypes = false ∧ ∀ source path, g.classify source path tree = .ok none

theorem clausesOpen (language : Language) : language.grammar.ClausesOpen := by
  intro tree isClause
  obtain ⟨unnamed, noComment⟩ := clauses_unnamed language tree.type (List.contains_iff_mem.mp isClause)
  exact ⟨noComment, fun _ _ => classify_of_unnamed unnamed⟩

section Once

variable {loop : Tree}

-- The parts are children of the loop, in their order.
def AmongChildren (parts : List (OncePart loop)) : Prop :=
  (∀ part ∈ parts, part.between = []) ∧ (parts.map OncePart.node).Sublist loop.children

-- There is one part, and a clause of the loop holds it.
def InClause (parts : List (OncePart loop)) : Prop :=
  ∃ part clause, parts = [part] ∧ clause ∈ loop.children ∧ clause.hasType clauseTypes = true ∧
    part.between = [clause] ∧ part.node ∈ clause.children

theorem amongChildren_nil : AmongChildren ([] : List (OncePart loop)) :=
  ⟨by simp, List.nil_sublist _⟩

theorem amongChildren_onceField (loop : Tree) (name : String) : AmongChildren (onceField loop name) := by
  unfold onceField
  split
  · rename_i node found
    exact ⟨by simp, List.singleton_sublist.mpr (Tree.mem_children_of_field? found)⟩
  · exact amongChildren_nil

theorem amongChildren_onceFields (loop : Tree) (name : String) : AmongChildren (onceFields loop name) := by
  unfold onceFields
  refine ⟨?_, ?_⟩
  · intro part member
    obtain ⟨field, _, rfl⟩ := List.mem_map.mp member
    rfl
  · have nodes : ((loop.fields name).attach.map Subtype.val).Sublist loop.children := by
      rw [List.attach_map_subtype_val]
      exact List.filter_sublist
    rw [List.map_map]
    exact nodes

theorem onceBelow_cases {clause : { child : Tree // child ∈ loop.children }} (name : String)
    (isClause : clause.1.hasType clauseTypes = true) :
    AmongChildren (onceBelow loop (some clause) name) ∨ InClause (onceBelow loop (some clause) name) := by
  unfold onceBelow
  dsimp only
  split
  · rename_i node found
    exact .inr ⟨_, clause.1, rfl, clause.2, isClause, rfl, Tree.mem_children_of_field? found⟩
  · exact .inl amongChildren_nil

theorem clause?_isClause {g : Grammar} {clause : { child : Tree // child ∈ loop.children }}
    (found : g.clause? loop = some clause) : clause.1.hasType clauseTypes = true := by
  have holds := List.find?_some found
  simp only [isClause, Bool.and_eq_true] at holds
  have known := List.contains_iff_mem.mp holds.2
  simp only [List.mem_cons, List.not_mem_nil, or_false] at known
  rcases known with same | same <;> simp [Tree.hasType, same, clauseTypes]

theorem generator_isClause {clause : { child : Tree // child ∈ loop.children }}
    (found : (generators loop).head? = some clause) : clause.1.hasType clauseTypes = true := by
  have member := List.mem_of_mem_head? found
  have holds := (List.mem_filter.mp member).2
  simp only [beq_iff_eq] at holds
  simp [Tree.hasType, holds, clauseTypes]

theorem onceParts_cases (g : Grammar) (loop : Tree) :
    AmongChildren (g.onceParts loop) ∨ InClause (g.onceParts loop) := by
  unfold onceParts
  split
  · exact .inl (amongChildren_onceField loop _)
  · exact .inl (amongChildren_onceField loop _)
  · exact .inl (amongChildren_onceFields loop _)
  · split
    · exact .inl amongChildren_nil
    · rename_i clause found
      exact onceBelow_cases _ (clause?_isClause found)
  · cases found : (generators loop).head? with
    | none => exact .inl amongChildren_nil
    | some clause => exact onceBelow_cases _ (generator_isClause found)
  · exact .inl amongChildren_nil

end Once

section Lower

-- Lowering goes from a tree to its children, and before them to the parts that a loop evaluates once.
theorem lowering_induction {motive : Tree → Prop}
    (step : ∀ tree, (∀ child ∈ tree.children, motive child) → (∀ part : OncePart tree, motive part.node) → motive tree)
    (tree : Tree) : motive tree :=
  step tree (fun child _ => lowering_induction step child) fun part => lowering_induction step part.node
termination_by sizeOf tree
decreasing_by
  · exact Tree.sizeOf_child_lt (by assumption)
  · exact part.smaller

variable (g : Grammar) (source : Source)

-- Comments are passed over, and so is what has been taken elsewhere.
def passesOver (skip : List Tree.Key) (tree : Tree) : Bool :=
  tree.hasType g.commentTypes || skip.contains tree.key

-- Only loops evaluate anything once.
def onceOf (kind : Kind) (tree : Tree) : List (OncePart tree) :=
  if kind == .loop then g.onceParts tree else []

-- A run of lowering on a tree: the nodes that stand for it, and the next identifier before and after.
def Lowers (skip : List Tree.Key) (path : List Tree) (tree : Tree) (first : Nat) (nodes : List Node) (last : Nat) :
    Prop :=
  (g.lower source skip path tree).run first = .ok (nodes, last)

-- The three ways in which nodes stand for a tree. A node takes its identifier ahead of everything below it.
inductive Lowered (skip : List Tree.Key) (path : List Tree) (tree : Tree) : Nat → List Node → Nat → Prop
  | passed {next : Nat} (passes : g.passesOver skip tree = true) : Lowered skip path tree next [] next
  | opened {parts : List (List Node)} {first last : Nat} (stays : g.passesOver skip tree = false)
      (noPart : g.classify source path tree = .ok none)
      (below : Threaded (g.Lowers source skip (tree :: path)) tree.children first parts last) :
      Lowered skip path tree first parts.flatten last
  | kept {kind : Kind} {info : Info} {once rest : List (List Node)} {first middle last : Nat}
      (stays : g.passesOver skip tree = false) (part : g.classify source path tree = .ok (some kind))
      (described : g.describe source path tree kind = .ok info)
      (early : Threaded (fun part => g.Lowers source skip (part.between ++ tree :: path) part.node)
        (g.onceOf kind tree) (first + 1) once middle)
      (below : Threaded (g.Lowers source (skip ++ (g.onceOf kind tree).map (·.node.key)) (tree :: path))
        tree.children middle rest last) :
      Lowered skip path tree first
        [made source tree first (countOnce info once.flatten.length) (once.flatten ++ rest.flatten)] last

variable {g source}
variable {skip : List Tree.Key} {path : List Tree} {tree : Tree} {nodes : List Node} {first last : Nat}

theorem attach_mapM (f : Tree → Lowering (List Node)) (trees : List Tree) :
    (trees.attach.mapM fun tree => f tree.1) = trees.mapM f := by
  have values := List.mapM_map (f := fun tree : { tree // tree ∈ trees } => tree.1) (l := trees.attach) (g := f)
  rwa [List.attach_map_subtype_val, eq_comm] at values

-- The steps of lowering, without the proofs that it ends.
theorem lower_eq (g : Grammar) (source : Source) (skip : List Tree.Key) (path : List Tree) (tree : Tree) :
    g.lower source skip path tree = do
      checkNode source tree
      if g.passesOver skip tree then return []
      match ← g.classify source path tree with
      | none =>
        let parts ← tree.children.mapM (g.lower source skip (tree :: path))
        return parts.flatten
      | some kind =>
        let id ← takeId
        let info ← g.describe source path tree kind
        let once ← (g.onceOf kind tree).mapM fun part => g.lower source skip (part.between ++ tree :: path) part.node
        let rest ← tree.children.mapM
          (g.lower source (skip ++ (g.onceOf kind tree).map (·.node.key)) (tree :: path))
        return [made source tree id (countOnce info once.flatten.length) (once.flatten ++ rest.flatten)] := by
  rw [lower]
  simp only [attach_mapM]
  rfl

theorem run_takeId_bind {α : Type} (next : Nat → Lowering α) (first : Nat) :
    (takeId >>= next).run first = (next first).run (first + 1) :=
  rfl

theorem lowered_of_lower (done : g.Lowers source skip path tree first nodes last) :
    g.Lowered source skip path tree first nodes last := by
  rw [Lowers, lower_eq, run_lift_bind] at done
  obtain ⟨_, _, done⟩ := bind_eq_ok.mp done
  cases stays : g.passesOver skip tree with
  | true =>
    rw [stays, if_pos rfl] at done
    cases done
    exact .passed stays
  | false =>
    rw [stays, if_neg Bool.false_ne_true, run_lift_bind] at done
    obtain ⟨kind, classified, done⟩ := bind_eq_ok.mp done
    cases kind with
    | none =>
      obtain ⟨parts, _, below, done⟩ := run_bind_eq_ok.mp done
      cases done
      exact .opened stays classified (run_mapM_eq_ok.mp below)
    | some kind =>
      rw [run_takeId_bind, run_lift_bind] at done
      obtain ⟨info, described, done⟩ := bind_eq_ok.mp done
      obtain ⟨once, _, early, done⟩ := run_bind_eq_ok.mp done
      obtain ⟨rest, _, below, done⟩ := run_bind_eq_ok.mp done
      cases done
      exact .kept stays classified described (run_mapM_eq_ok.mp early) (run_mapM_eq_ok.mp below)

end Lower

section Numbers

-- The nodes and everything below them, parents first, have the identifiers from `first` up to `last`.
def Numbers (first : Nat) (nodes : List Node) (last : Nat) : Prop :=
  first ≤ last ∧ nodes.flatMap Node.ids = List.range' first (last - first)

theorem numbers_append {before after : List Node} {first middle last : Nat} (here : Numbers first before middle)
    (rest : Numbers middle after last) : Numbers first (before ++ after) last := by
  refine ⟨here.1.trans rest.1, ?_⟩
  have next : middle = first + (middle - first) := by have := here.1; omega
  have whole : last - first = (middle - first) + (last - middle) := by have := here.1; have := rest.1; omega
  rw [List.flatMap_append, here.2, rest.2, whole, ← List.range'_append_1, ← next]

theorem numbers_threaded {α : Type} {step : α → Nat → List Node → Nat → Prop} {inputs : List α}
    {parts : List (List Node)} {first last : Nat} (all : Threaded step inputs first parts last)
    (each : ∀ input ∈ inputs, ∀ before nodes after, step input before nodes after → Numbers before nodes after) :
    Numbers first parts.flatten last := by
  induction all with
  | nil state => exact ⟨le_refl state, by simp⟩
  | cons here _ ih =>
    rw [List.flatten_cons]
    exact numbers_append (each _ List.mem_cons_self _ _ _ here)
      (ih fun input member => each input (List.mem_cons_of_mem _ member))

theorem numbers_made {source : Source} {tree : Tree} {info : Info} {children : List Node} {first last : Nat}
    (below : Numbers (first + 1) children last) : Numbers first [made source tree first info children] last := by
  obtain ⟨ordered, ids⟩ := below
  refine ⟨Nat.le_of_succ_le ordered, ?_⟩
  have count : last - first = (last - (first + 1)) + 1 := by omega
  rw [List.flatMap_singleton, Node.ids, Node.preorder_eq, List.map_cons, List.map_flatMap, count, List.range'_succ]
  exact congrArg (List.cons first) ids

variable {g : Grammar} {source : Source}

-- Identifiers are handed out in the order of the finished nodes, although parts of a loop are taken first.
theorem lower_numbers {skip : List Tree.Key} {path : List Tree} {tree : Tree} {nodes : List Node} {first last : Nat}
    (done : g.Lowers source skip path tree first nodes last) : Numbers first nodes last := by
  induction tree using lowering_induction generalizing skip path nodes first last with
  | step tree children parts =>
    cases lowered_of_lower done with
    | passed _ => exact ⟨le_refl first, by simp⟩
    | opened _ _ below => exact numbers_threaded below fun child member _ _ _ => children child member
    | kept _ _ _ early below =>
      exact numbers_made (numbers_append (numbers_threaded early fun part _ _ _ _ => parts part)
        (numbers_threaded below fun child member _ _ _ => children child member))

end Numbers

section Whole

variable {g : Grammar} {tag : String} {source : Source} {top : Tree} {root : Node} {first last : Nat}

-- The unit stands for the whole tree, and its children for those of the tree.
theorem unitNode_eq_ok (done : (g.unitNode source top).run first = .ok (root, last)) :
    checkNode source top = .ok () ∧ ∃ parts,
      Threaded (g.Lowers source [] [top]) top.children (first + 1) parts last ∧
      root = made source top first .unit parts.flatten := by
  rw [unitNode, run_lift_bind] at done
  obtain ⟨_, checked, done⟩ := bind_eq_ok.mp done
  rw [run_takeId_bind] at done
  obtain ⟨parts, _, below, done⟩ := run_bind_eq_ok.mp done
  cases done
  exact ⟨checked, parts, run_mapM_eq_ok.mp below, rfl⟩

theorem unitNode_ids (done : (g.unitNode source top).run 0 = .ok (root, last)) : root.ids = List.range last := by
  obtain ⟨_, parts, below, rfl⟩ := unitNode_eq_ok done
  have numbers : Numbers 0 [made source top 0 .unit parts.flatten] last :=
    numbers_made (numbers_threaded below fun _ _ _ _ _ => lower_numbers)
  have ids := numbers.2
  rwa [List.flatMap_singleton, Nat.sub_zero, ← List.range_eq_range'] at ids

-- What lowering makes has the numbering that an outline asks for.
theorem ofRoot_unitNode (tag : String) (done : (g.unitNode source top).run 0 = .ok (root, last)) :
    ∃ outline, Outline.ofRoot tag source root = .ok outline ∧ outline.root = root := by
  have numbered : root.ids.Perm (List.range root.ids.length) := by rw [unitNode_ids done, List.length_range]
  exact ⟨_, dif_pos numbered, rfl⟩

theorem outline_of_unitNode (done : (g.unitNode source top).run 0 = .ok (root, last)) :
    g.outline tag source (some top) = (Outline.ofRoot tag source root).mapError .misnumbered := by
  unfold Grammar.outline
  dsimp only
  rw [done]
  rfl

theorem outline_eq_unitNode {tree : Option Tree} {outline : Outline} (done : g.outline tag source tree = .ok outline) :
    ∃ top last, tree = some top ∧ (g.unitNode source top).run 0 = .ok (outline.root, last) := by
  cases tree with
  | none => cases done
  | some top =>
    obtain ⟨⟨root, last⟩, made, accepted⟩ := bind_eq_ok.mp done
    obtain ⟨other, isOther, same⟩ := ofRoot_unitNode tag made
    cases isOther.symm.trans (mapError_eq_ok.mp accepted)
    exact ⟨top, last, rfl, same ▸ made⟩

theorem outline_eq_ok {tree : Option Tree} {outline : Outline} (done : g.outline tag source tree = .ok outline) :
    ∃ top parts, tree = some top ∧
      List.Forall₂ (fun child nodes => ∃ first last, g.Lowers source [] [top] child first nodes last) top.children parts ∧
      outline.root = made source top 0 .unit parts.flatten := by
  obtain ⟨top, last, isTop, lowered⟩ := outline_eq_unitNode done
  obtain ⟨_, parts, below, root⟩ := unitNode_eq_ok lowered
  exact ⟨top, parts, isTop, below.each, root⟩

end Whole

end Grammar
end Perflint
