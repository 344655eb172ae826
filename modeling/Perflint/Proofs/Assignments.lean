import Mathlib
import Perflint.Proofs.Nesting
import Perflint.Proofs.NodeOrigins
import Perflint.Proofs.SourceText

namespace Perflint

namespace Tree

theorem Nested.within {tree inner : Tree} (nested : tree.Nested) (member : inner ∈ tree.preorder) :
    inner.NestedWithin tree.first tree.last := by
  induction tree using nested_induction with
  | step tree ih =>
    rw [preorder_eq] at member
    rcases List.mem_cons.mp member with rfl | below
    · exact ⟨Nat.le_refl _, Nat.le_refl _, nested⟩
    · obtain ⟨child, isChild, inside⟩ := List.mem_flatMap.mp below
      obtain ⟨starts, ends, childNested⟩ := nested.child isChild
      obtain ⟨innerStarts, innerEnds, innerNested⟩ := ih child isChild childNested inside
      exact ⟨starts.trans innerStarts, innerEnds.trans ends, innerNested⟩

end Tree

-- Tokens that are plus signs by type are plus signs in the source.
def Source.PlusSigns (source : Source) (tree : Tree) : Prop :=
  ∀ inner ∈ tree.preorder, inner.named = false → inner.type = "+" → source.ofTree inner = "+"

instance (source : Source) (tree : Tree) : Decidable (source.PlusSigns tree) :=
  inferInstanceAs (Decidable (∀ inner ∈ tree.preorder, _))

theorem Text.isAscii_plus : Text.IsAscii '+' :=
  ⟨by decide, by decide⟩

namespace Grammar

variable {g : Grammar} {source : Source} {tree : Tree}

theorem plus_of_inner {inner : Tree} (nested : tree.Nested) (member : inner ∈ tree.preorder)
    (plus : '+' ∈ (source.ofTree inner).toList) : '+' ∈ (source.ofTree tree).toList := by
  obtain ⟨starts, ends, _⟩ := nested.within member
  exact source.mem_slice_of_within Text.isAscii_plus starts ends plus

theorem plus_of_sign (sign : source.ofTree tree = "+") : '+' ∈ (source.ofTree tree).toList := by
  rw [sign]
  decide

theorem plus_of_isConcat (nested : tree.Nested) (signs : source.PlusSigns tree)
    (isConcat : g.isConcat source tree = true) : '+' ∈ (source.ofTree tree).toList := by
  obtain ⟨_, operates⟩ := Bool.and_eq_true_iff.mp isConcat
  split at operates
  · rename_i operator found
    have inTree := Tree.mem_preorder_of_child (Tree.mem_children_of_field? found)
    exact plus_of_inner nested inTree (plus_of_sign (beq_iff_eq.mp operates))
  · obtain ⟨token, isChild, isToken⟩ := List.any_eq_true.mp operates
    have inTree := Tree.mem_preorder_of_child isChild
    simp only [Bool.and_eq_true, Bool.not_eq_true', beq_iff_eq] at isToken
    exact plus_of_inner nested inTree (plus_of_sign (signs token inTree isToken.1 isToken.2))

-- What an assignment says of the value that is assigned.
structure TellsValue (g : Grammar) (source : Source) (tree : Tree) (a : AssignmentInfo) : Prop where
  value : a.value = source.ofTree? (g.assigned? tree)
  kind : g.valueKind? source (g.assigned? tree) = .ok a.valueKind
  callee : a.valueCallee =
    match (g.assigned? tree).map g.unwrap with
    | some value => if g.isCall value then g.calleeLeaf source (g.callParts value).callee else ""
    | none => ""
  isConcat : a.valueIsConcat =
    match (g.assigned? tree).map g.unwrap with
    | some value => g.isConcat source value
    | none => false
  hasString : a.valueHasString =
    match g.assigned? tree with
    | some right => right.containsType g.stringTypes
    | none => false

theorem assignmentInfo_eq_ok {a : AssignmentInfo} (read : g.assignmentInfo source tree = .ok a) :
    g.TellsValue source tree a := by
  obtain ⟨_, _, read⟩ := bind_eq_ok.mp read
  obtain ⟨valueKind, isKind, read⟩ := bind_eq_ok.mp read
  obtain ⟨_, _, read⟩ := bind_eq_ok.mp read
  obtain ⟨_, _, read⟩ := bind_eq_ok.mp read
  cases read
  exact ⟨rfl, isKind, rfl, rfl, rfl⟩

-- The text of a sum shows a plus sign.
theorem assignmentInfo_plus {a : AssignmentInfo} (nested : tree.Nested) (signs : source.PlusSigns tree)
    (read : g.assignmentInfo source tree = .ok a) (isConcat : a.valueIsConcat = true) : '+' ∈ a.value.toList := by
  have tells := assignmentInfo_eq_ok read
  rw [tells.isConcat] at isConcat
  rw [tells.value]
  cases found : g.assigned? tree with
  | none =>
    rw [found] at isConcat
    cases isConcat
  | some value =>
    rw [found] at isConcat
    have inTree := mem_preorder_of_assigned found
    have inValue := g.unwrap_mem_preorder value
    have valueNested := (nested.within inTree).nested
    refine plus_of_inner valueNested inValue (plus_of_isConcat (valueNested.within inValue).nested ?_ isConcat)
    intro inner inside
    exact signs inner (Tree.mem_preorder_trans inTree (Tree.mem_preorder_trans inValue inside))

-- What is asked of a tree: ranges lie in each other, plus signs are plus signs, and no assignment is empty.
structure Readable (g : Grammar) (source : Source) (tree : Tree) : Prop where
  nested : tree.Nested
  signs : source.PlusSigns tree
  nonempty : ∀ place ∈ g.mapped source tree, g.kindAt source place = some .assignment →
    place.node.first < place.node.last

theorem info_of_assignment? {node : Node} {a : AssignmentInfo} (isAssignment : node.assignment? = some a) :
    node.info = .assignment a := by
  unfold Node.assignment? at isAssignment
  split at isAssignment
  · rename_i found
    cases isAssignment
    exact found
  · cases isAssignment

theorem StandsFor.assignment {place : Tree.Place} {node : Node} {a : AssignmentInfo}
    (stands : g.StandsFor source place node) (isAssignment : node.assignment? = some a) :
    g.kindAt source place = some .assignment ∧ g.assignmentInfo source place.node = .ok a := by
  have info := info_of_assignment? isAssignment
  have kind : node.kind = .assignment := congrArg Info.kind info
  obtain ⟨value, once, isRead, counted⟩ := stands.read_eq_ok kind rfl
  rw [info] at counted
  cases counted
  exact ⟨kind ▸ stands.part, isRead⟩

-- Every assignment of an outline was read off an assignment of the tree.
theorem assignment_origin {tag : String} {top : Tree} {outline : Outline} {site : Site} {a : AssignmentInfo}
    (opens : g.ClausesOpen) (done : g.outline tag source (some top) = .ok outline) (held : outline.Holds site)
    (isAssignment : site.node.assignment? = some a) : ∃ place ∈ Tree.Place.walk [] top,
      g.StandsFor source place site.node ∧ g.kindAt source place = some .assignment ∧
        g.assignmentInfo source place.node = .ok a := by
  have proper : site.node.info ≠ .unit := by simp [info_of_assignment? isAssignment]
  obtain ⟨place, isPlace, stands⟩ := outline_origin opens done held proper
  exact ⟨place, isPlace, stands, stands.assignment isAssignment⟩

theorem outline_assignment {tag : String} {top : Tree} {outline : Outline} {site : Site} {a : AssignmentInfo}
    (opens : g.ClausesOpen) (readable : g.Readable source top) (done : g.outline tag source (some top) = .ok outline)
    (held : outline.Holds site) (isAssignment : site.node.assignment? = some a) :
    (a.valueIsConcat = true → '+' ∈ a.value.toList) ∧ site.span.start.lt site.span.finish = true := by
  obtain ⟨place, isPlace, stands, part, read⟩ := assignment_origin opens done held isAssignment
  have inTop : place.node ∈ top.preorder := by
    rw [← Tree.Place.map_node_walk [] top]
    exact List.mem_map_of_mem isPlace
  refine ⟨?_, ?_⟩
  · refine assignmentInfo_plus (readable.nested.within inTop).nested ?_ read
    intro inner inside
    exact readable.signs inner (Tree.mem_preorder_trans inTop inside)
  · have isMapped : place ∈ g.mapped source top := List.mem_filter.mpr ⟨isPlace, by rw [part]; rfl⟩
    rw [show site.span = site.node.span from rfl, stands.span]
    exact source.position_strictMono (readable.nonempty place isMapped part)

end Grammar
end Perflint
