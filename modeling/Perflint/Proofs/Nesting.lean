import Mathlib
import Perflint.Proofs.Lowering
import Perflint.Proofs.Scopes
import Perflint.Proofs.Spans

namespace Perflint

namespace Tree

-- Every node lies inside its parent, byte by byte.
inductive Nested : Tree → Prop
  | intro {tree : Tree} (inside : ∀ child ∈ tree.children, tree.first ≤ child.first ∧ child.last ≤ tree.last)
      (below : ∀ child ∈ tree.children, child.Nested) : tree.Nested

-- The tree is sound and lies between two bytes.
structure NestedWithin (tree : Tree) (first last : Nat) : Prop where
  starts : first ≤ tree.first
  ends : tree.last ≤ last
  nested : tree.Nested

theorem Nested.child {tree child : Tree} (nested : tree.Nested) (member : child ∈ tree.children) :
    child.NestedWithin tree.first tree.last := by
  cases nested with
  | intro inside below => exact ⟨(inside child member).1, (inside child member).2, below child member⟩

theorem NestedWithin.child {tree child : Tree} {first last : Nat} (within : tree.NestedWithin first last)
    (member : child ∈ tree.children) : child.NestedWithin first last := by
  obtain ⟨starts, ends, nested⟩ := within.nested.child member
  exact ⟨within.starts.trans starts, ends.trans within.ends, nested⟩

theorem nested_iff (tree : Tree) : tree.Nested ↔
    ∀ inner ∈ tree.preorder, ∀ child ∈ inner.children, inner.first ≤ child.first ∧ child.last ≤ inner.last := by
  induction tree using nested_induction with
  | step tree ih =>
    rw [preorder_eq]
    constructor
    · intro nested inner member child isChild
      rcases List.mem_cons.mp member with rfl | deeper
      · obtain ⟨starts, ends, _⟩ := nested.child isChild
        exact ⟨starts, ends⟩
      · obtain ⟨between, isBetween, below⟩ := List.mem_flatMap.mp deeper
        exact (ih between isBetween).mp (nested.child isBetween).nested inner below child isChild
    · intro all
      refine .intro (all tree List.mem_cons_self) fun child isChild => (ih child isChild).mpr fun inner below => ?_
      exact all inner (List.mem_cons_of_mem _ (List.mem_flatMap.mpr ⟨child, isChild, below⟩))

instance (tree : Tree) : Decidable tree.Nested :=
  decidable_of_iff _ tree.nested_iff.symm

end Tree

namespace Node

-- The same for the spans of an outline.
inductive Nested : Node → Prop
  | intro {node : Node} (inside : ∀ child ∈ node.children, node.span.contains child.span = true)
      (below : ∀ child ∈ node.children, child.Nested) : node.Nested

theorem Nested.child {node child : Node} (nested : node.Nested) (member : child ∈ node.children) :
    node.span.contains child.span = true ∧ child.Nested := by
  cases nested with
  | intro inside below => exact ⟨inside child member, below child member⟩

end Node

namespace Grammar

theorem onceOf_within {g : Grammar} {kind : Kind} {tree : Tree} {part : OncePart tree} (nested : tree.Nested)
    (member : part ∈ g.onceOf kind tree) : part.node.NestedWithin tree.first tree.last := by
  unfold onceOf at member
  split at member
  · rcases g.onceParts_cases tree with ⟨_, among⟩ | ⟨single, clause, only, isChild, _, _, below⟩
    · exact nested.child (among.subset (List.mem_map_of_mem member))
    · rw [only, List.mem_singleton] at member
      cases member
      exact (nested.child isChild).child below
  · cases member

section Lower

variable {g : Grammar} {source : Source}

-- The nodes are sound and stand for something between two bytes.
def NodesWithin (source : Source) (nodes : List Node) (first last : Nat) : Prop :=
  ∀ node ∈ nodes, (source.span first last).contains node.span = true ∧ node.Nested

theorem nodesWithin_widen {nodes : List Node} {tree : Tree} {first last : Nat}
    (nodesWithin : NodesWithin source nodes tree.first tree.last) (within : tree.NestedWithin first last) :
    NodesWithin source nodes first last := by
  intro node member
  obtain ⟨inside, nested⟩ := nodesWithin node member
  exact ⟨Span.contains_trans (source.span_contains within.starts within.ends) inside, nested⟩

-- What holds of the nodes of each part holds of all nodes together.
theorem nodesWithin_flatten {α : Type} {inputs : List α} {parts : List (List Node)} {first last : Nat}
    {lowers : α → List Node → Prop} (all : List.Forall₂ lowers inputs parts)
    (each : ∀ input ∈ inputs, ∀ nodes, lowers input nodes → NodesWithin source nodes first last) :
    NodesWithin source parts.flatten first last := by
  intro node member
  obtain ⟨input, isInput, nodes, lowered, inside⟩ := exists_of_mem_flatten all member
  exact each input isInput nodes lowered node inside

theorem made_nested {tree : Tree} {id : Nat} {info : Info} {children : List Node}
    (within : NodesWithin source children tree.first tree.last) : (made source tree id info children).Nested :=
  .intro (fun child member => (within child member).1) fun child member => (within child member).2

-- Lowering keeps the nesting, wherever it takes the parts of a loop from.
theorem lower_nested {skip : List Tree.Key} {path : List Tree} {tree : Tree} {nodes : List Node} {first last : Nat}
    (nested : tree.Nested) (done : g.Lowers source skip path tree first nodes last) :
    NodesWithin source nodes tree.first tree.last := by
  induction tree using lowering_induction generalizing skip path nodes first last with
  | step tree children parts =>
    have fromChild : ∀ child ∈ tree.children, ∀ {skip path nodes},
        (∃ first last, g.Lowers source skip path child first nodes last) →
        NodesWithin source nodes tree.first tree.last := by
      rintro child isChild skip path nodes ⟨first, last, done⟩
      have within := nested.child isChild
      exact nodesWithin_widen (children child isChild within.nested done) within
    cases lowered_of_lower done with
    | passed _ => intro node member; cases member
    | opened _ _ below => exact nodesWithin_flatten below.each fun child isChild _ => fromChild child isChild
    | kept _ _ _ early below =>
      intro node member
      rw [List.mem_singleton.mp member]
      refine ⟨Span.contains_refl _, made_nested ?_⟩
      intro child isChild
      rcases List.mem_append.mp isChild with once | rest
      · refine nodesWithin_flatten early.each ?_ child once
        rintro part isPart nodes ⟨first, last, done⟩
        have within := onceOf_within nested isPart
        exact nodesWithin_widen (parts part within.nested done) within
      · exact nodesWithin_flatten below.each (fun child isChild _ => fromChild child isChild) child rest

theorem outline_nested {tag : String} {tree : Option Tree} {outline : Outline}
    (nested : ∀ top ∈ tree, top.Nested) (done : g.outline tag source tree = .ok outline) : outline.root.Nested := by
  obtain ⟨top, parts, rfl, below, root⟩ := outline_eq_ok done
  have sound : top.Nested := nested top rfl
  rw [root]
  refine made_nested (nodesWithin_flatten below ?_)
  rintro child member nodes ⟨first, last, lowered⟩
  exact nodesWithin_widen (lower_nested (sound.child member).nested lowered) (sound.child member)

end Lower

end Grammar

namespace Outline

variable {outline : Outline} {site : Site}

theorem contains_of_leads {top node : Node} {path : List Node} (nested : top.Nested)
    (leads : Site.Leads top node path) :
    node.Nested ∧ top.span.contains node.span = true ∧ ∀ upper ∈ path, upper.span.contains node.span = true := by
  induction path generalizing node with
  | nil =>
    cases leads
    exact ⟨nested, Span.contains_refl _, by simp⟩
  | cons parent path ih =>
    obtain ⟨isChild, onward⟩ := leads
    obtain ⟨parentNested, fromTop, fromPath⟩ := ih onward
    obtain ⟨here, nodeNested⟩ := parentNested.child isChild
    refine ⟨nodeNested, Span.contains_trans fromTop here, ?_⟩
    intro upper member
    rcases List.mem_cons.mp member with rfl | higher
    · exact here
    · exact Span.contains_trans (fromPath upper higher) here

theorem inBounds_of_holds (nested : outline.root.Nested) (held : outline.Holds site) :
    outline.inBounds site.span = true :=
  (contains_of_leads nested held).2.1

theorem contains_of_ancestor {upper : Site} (nested : outline.root.Nested) (held : outline.Holds site)
    (member : upper ∈ site.ancestors) : upper.span.contains site.span = true := by
  obtain ⟨lower, split⟩ := Site.mem_ancestorsFrom.mp member
  refine (contains_of_leads nested held).2.2 upper.node ?_
  rw [split]
  exact List.mem_append_right _ List.mem_cons_self

theorem contains_of_descendant {below : Site} (nested : outline.root.Nested) (held : outline.Holds site)
    (member : below ∈ site.descendants) : site.span.contains below.span = true := by
  refine contains_of_ancestor nested (holds_descendant held member) ?_
  obtain ⟨_, _, path, _, place⟩ := Site.mem_descendants.mp member
  exact Site.mem_ancestorsFrom.mpr ⟨path, place⟩

theorem scopeOf_contains (nested : outline.root.Nested) (held : outline.Holds site) :
    (outline.scopeOf site).span.contains site.span = true := by
  rcases scopeOf_cases held with isUnit | ⟨owner, member, _, isOwner⟩
  · rw [isUnit]
    exact inBounds_of_holds nested held
  · rw [isOwner]
    rcases List.mem_cons.mp member with rfl | higher
    · exact Span.contains_refl _
    · exact contains_of_ancestor nested held higher

end Outline
end Perflint
