import Mathlib
import Perflint.Source

namespace Perflint

namespace Position

theorem le_iff {a b : Position} : a.le b = true ↔ a.line < b.line ∨ (a.line = b.line ∧ a.column ≤ b.column) := by
  simp [le]

theorem lt_iff {a b : Position} : a.lt b = true ↔ a.line < b.line ∨ (a.line = b.line ∧ a.column < b.column) := by
  simp [lt]

theorem eq_iff {a b : Position} : a = b ↔ a.line = b.line ∧ a.column = b.column := by
  cases a
  cases b
  simp

theorem le_refl (a : Position) : a.le a = true := by
  rw [le_iff]
  omega

theorem le_trans {a b c : Position} (first : a.le b = true) (second : b.le c = true) : a.le c = true := by
  rw [le_iff] at *
  omega

theorem le_of_lt {a b : Position} (less : a.lt b = true) : a.le b = true := by
  rw [lt_iff] at less
  rw [le_iff]
  omega

theorem lt_of_lt_of_le {a b c : Position} (first : a.lt b = true) (second : b.le c = true) : a.lt c = true := by
  rw [lt_iff] at *
  rw [le_iff] at second
  omega

end Position

namespace Span

theorem contains_iff {outer inner : Span} :
    outer.contains inner = true ↔ outer.start.le inner.start = true ∧ inner.finish.le outer.finish = true := by
  simp [contains]

theorem sameRegion_iff {a b : Span} : a.sameRegion b = true ↔ a.start = b.start ∧ a.finish = b.finish := by
  simp [sameRegion]

theorem sameRegion_comm (a b : Span) : a.sameRegion b = b.sameRegion a := by
  rw [Bool.eq_iff_iff, sameRegion_iff, sameRegion_iff]
  exact and_congr eq_comm eq_comm

theorem contains_refl (span : Span) : span.contains span = true :=
  contains_iff.mpr ⟨Position.le_refl _, Position.le_refl _⟩

theorem contains_trans {outer middle inner : Span} (first : outer.contains middle = true)
    (second : middle.contains inner = true) : outer.contains inner = true := by
  rw [contains_iff] at *
  exact ⟨Position.le_trans first.1 second.1, Position.le_trans second.2 first.2⟩

end Span

namespace Source

theorem position_lt_succ (source : Source) (offset : Nat) :
    (source.position offset).lt (source.position (offset + 1)) = true := by
  rw [Position.lt_iff]
  simp only [position]
  by_cases inside : offset < source.bytes.length
  · -- One more byte is read. A line feed opens a line, any other byte moves one column on.
    have shorter : ((source.bytes.take offset).reverse.takeWhile (!isNewline ·)).length ≤ offset := by
      refine (List.takeWhile_sublist _).length_le.trans ?_
      rw [List.length_reverse, List.length_take]
      exact Nat.min_le_left _ _
    rw [List.take_succ_eq_append_getElem inside, List.reverse_append, List.reverse_singleton, List.singleton_append,
      List.takeWhile_cons, List.countP_append, List.length_append, List.length_take, List.countP_singleton]
    cases isNewline source.bytes[offset] with
    | true =>
      left
      simp
    | false =>
      right
      refine ⟨rfl, ?_⟩
      simp only [Bool.not_false, if_true, List.length_cons, List.length_nil]
      omega
  · have whole : source.bytes.take (offset + 1) = source.bytes.take offset := by
      rw [List.take_of_length_le (by omega), List.take_of_length_le (by omega)]
    have read : (source.bytes.take offset).length ≤ offset := List.length_take_le _ _
    rw [whole]
    omega

theorem position_mono (source : Source) {first last : Nat} (order : first ≤ last) :
    (source.position first).le (source.position last) = true := by
  induction last, order using Nat.le_induction with
  | base => exact Position.le_refl _
  | succ last _ ih => exact Position.le_trans ih (Position.le_of_lt (source.position_lt_succ last))

theorem position_strictMono (source : Source) {first last : Nat} (order : first < last) :
    (source.position first).lt (source.position last) = true :=
  Position.lt_of_lt_of_le (source.position_lt_succ first) (source.position_mono order)

theorem span_contains (source : Source) {first last innerFirst innerLast : Nat} (starts : first ≤ innerFirst)
    (ends : innerLast ≤ last) : (source.span first last).contains (source.span innerFirst innerLast) = true :=
  Span.contains_iff.mpr ⟨source.position_mono starts, source.position_mono ends⟩

end Source
end Perflint
