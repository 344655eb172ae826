import Mathlib
import Perflint.Proofs.Lowering

namespace Perflint

namespace Tree

theorem mem_preorder_of_field? {tree child : Tree} {name : String} (found : tree.field? name = some child) :
    child ∈ tree.preorder :=
  mem_preorder_of_child (mem_children_of_field? found)

theorem mem_preorder_of_firstField? {tree child : Tree} {names : List String}
    (found : tree.firstField? names = some child) : child ∈ tree.preorder := by
  obtain ⟨name, _, isField⟩ := List.exists_of_findSome?_eq_some found
  exact mem_preorder_of_field? isField

end Tree

namespace Grammar

section Below

variable {g : Grammar} {tree : Tree}

theorem unwrapFirst_eq_some {trees : List Tree} {inner : Tree} (found : g.unwrapFirst trees = some inner) :
    ∃ tree ∈ trees, inner = g.unwrap tree := by
  induction trees with
  | nil => cases found
  | cons tree rest ih =>
    unfold unwrapFirst at found
    split at found
    · cases found
      exact ⟨tree, List.mem_cons_self, rfl⟩
    · obtain ⟨other, member, same⟩ := ih found
      exact ⟨other, List.mem_cons_of_mem _ member, same⟩

theorem unwrap_mem_preorder (g : Grammar) (tree : Tree) : g.unwrap tree ∈ tree.preorder := by
  induction tree using Tree.nested_induction with
  | step tree ih =>
    cases tree with
    | node label children =>
      unfold unwrap
      split
      · cases found : g.unwrapFirst children with
        | none => exact Tree.mem_preorder_self _
        | some inner =>
          obtain ⟨child, isChild, rfl⟩ := unwrapFirst_eq_some found
          exact Tree.mem_preorder_of_below (Tree.mem_below isChild (ih child isChild))
      · exact Tree.mem_preorder_self _

theorem mem_preorder_of_parts {part : Tree} (member : part ∈ g.parts tree) : part ∈ tree.preorder :=
  Tree.mem_preorder_of_child (List.mem_filter.mp member).1

end Below

-- What a reader goes on to from an expression, and from a parameter.
inductive Link (g : Grammar) (tree : Tree) : Tree → Prop
  | object {next : Tree} {fields : String × String} (isMember : g.member? tree = some fields)
      (found : tree.field? fields.1 = some next) : Link g tree next
  | container {next : Tree} {field : String} (isSubscript : g.subscriptFields.lookup tree.type = some field)
      (found : tree.field? field = some next) : Link g tree next
  | receiver {next : Tree} (isCall : g.isCall tree = true) (found : (g.callParts tree).receiver = some next) :
      Link g tree next
  | callee {next : Tree} (isCall : g.isCall tree = true) (found : (g.callParts tree).callee = some next) :
      Link g tree next
  | argument {next : Tree} (isCall : g.isCall tree = true)
      (found : (g.argNodes (g.callParts tree).args).head? = some next) : Link g tree next
  | awaited {next : Tree} (waits : tree.hasType g.awaitTypes = true) (found : (g.parts tree).head? = some next) :
      Link g tree next
  | target {next : Tree} (found : tree.firstField? ["name", "pattern", "left"] = some next) : Link g tree next

-- So many links one after the other; wrappers do not count.
inductive Chain (g : Grammar) : Nat → Tree → Prop
  | start (tree : Tree) : Chain g 0 tree
  | wrapped {length : Nat} {tree : Tree} (rest : Chain g length (g.unwrap tree)) : Chain g length tree
  | step {length : Nat} {tree next : Tree} (link : g.Link tree next) (rest : Chain g length next) :
      Chain g (length + 1) tree

theorem Chain.shorter {g : Grammar} {short length : Nat} {tree : Tree} (chain : g.Chain length tree)
    (less : short ≤ length) : g.Chain short tree := by
  induction chain generalizing short with
  | start tree =>
    cases Nat.le_zero.mp less
    exact .start tree
  | wrapped _ ih => exact .wrapped (ih less)
  | step link _ ih =>
    cases short with
    | zero => exact .start _
    | succ short => exact .step link (ih (Nat.le_of_succ_le_succ less))

-- A node of the tree has a chain under it that a reader may have no room for.
def Deep (g : Grammar) (tree : Tree) : Prop :=
  ∃ inner ∈ tree.preorder, g.Chain (depthLimit / 2) inner

section Small

variable {g : Grammar} {tree next : Tree}

end Small

section Readers

-- A reader breaks down for want of room on a chain of so many links.
structure Exhausts (g : Grammar) (breakdown : Breakdown) (links : Nat) (tree : Tree) : Prop where
  tooDeep : breakdown = .tooDeep
  chain : g.Chain links tree

variable {g : Grammar} {source : Source} {breakdown : Breakdown}

namespace Exhausts

variable {links : Nat} {tree : Tree}

theorem wrapped (exhausts : g.Exhausts breakdown links (g.unwrap tree)) : g.Exhausts breakdown links tree :=
  ⟨exhausts.tooDeep, .wrapped exhausts.chain⟩

theorem step {next : Tree} (link : g.Link tree next) (exhausts : g.Exhausts breakdown links next) :
    g.Exhausts breakdown (links + 1) tree :=
  ⟨exhausts.tooDeep, .step link exhausts.chain⟩

theorem shorter {fewer : Nat} (exhausts : g.Exhausts breakdown links tree) (less : fewer ≤ links) :
    g.Exhausts breakdown fewer tree :=
  ⟨exhausts.tooDeep, exhausts.chain.shorter less⟩

end Exhausts

section Named

variable {room : Nat}

end Named

end Readers

section Readings

variable {g : Grammar} {source : Source} {tree : Tree}

-- The reading can fail only for want of room, and only with such a chain somewhere in the tree.
def FailsDeep {α : Type} (g : Grammar) (tree : Tree) (read : Reading α) : Prop :=
  ∀ breakdown, read = .error breakdown → breakdown = .tooDeep ∧ g.Deep tree

variable {α β : Type}

theorem FailsDeep.ok (value : α) : g.FailsDeep tree (.ok value) := by
  intro breakdown failed
  cases failed

theorem FailsDeep.bind {read : Reading α} {next : α → Reading β} (first : g.FailsDeep tree read)
    (rest : ∀ value, g.FailsDeep tree (next value)) : g.FailsDeep tree (read >>= next) := by
  intro breakdown failed
  rcases bind_eq_error.mp failed with here | ⟨value, _, later⟩
  · exact first breakdown here
  · exact rest value breakdown later

theorem FailsDeep.mapM {read : α → Reading β} {inputs : List α}
    (each : ∀ input ∈ inputs, g.FailsDeep tree (read input)) : g.FailsDeep tree (inputs.mapM read) := by
  intro breakdown failed
  obtain ⟨input, member, here⟩ := mapM_eq_error failed
  exact each input member breakdown here

end Readings

section Extractors

variable {g : Grammar} {source : Source} {path : List Tree} {tree : Tree}

theorem mem_preorder_of_assigned {value : Tree} (found : g.assigned? tree = some value) : value ∈ tree.preorder := by
  have inTree : ∀ {right : Tree}, (g.assignmentParts tree).right = some right → right ∈ tree.preorder := by
    intro right isRight
    unfold assignmentParts at isRight
    split at isRight
    · cases isRight
    · exact Tree.mem_preorder_of_firstField? isRight
  unfold assigned? at found
  split at found
  · cases found
  · rename_i right isRight
    split at found
    · rename_i single
      cases found
      have listed : value ∈ g.parts right := by simp [single]
      exact Tree.mem_preorder_trans (inTree isRight) (mem_preorder_of_parts listed)
    · cases found
      exact inTree isRight

end Extractors

end Grammar
end Perflint
