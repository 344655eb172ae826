import Mathlib
import Perflint.Proofs.Spans

namespace Perflint

namespace Text

-- An open character that can only become one past the ASCII range.
structure PartialChar.Wide (p : PartialChar) : Prop where
  missing : 1 ≤ p.missing
  lower : 0x80 ≤ p.lower
  bits : 0x80 ≤ p.bits * 64 ^ p.missing + (p.lower - 0x80) * 64 ^ (p.missing - 1)

variable {byte : UInt8} {c : Char}

-- A byte of the ASCII range is a character; what any other byte opens lies past that range.
theorem firstByte_cases (byte : UInt8) :
    (byte.toNat < 0x80 ∧ firstByte byte = .whole (Char.ofNat byte.toNat)) ∨
      (0x80 ≤ byte.toNat ∧ (firstByte byte = .invalid ∨ ∃ p : PartialChar, firstByte byte = .opens p ∧ p.Wide)) := by
  unfold firstByte
  generalize byte.toNat = b
  dsimp only
  split
  · rename_i ascii
    exact .inl ⟨ascii, rfl⟩
  · rename_i high
    refine .inr ⟨Nat.not_lt.mp high, ?_⟩
    split
    · exact .inl rfl
    · repeat' split
      all_goals
        first
        | exact .inl rfl
        | refine .inr ⟨_, rfl, ?_⟩
          constructor <;> dsimp only <;> grind

theorem PartialChar.Wide.push_bits {p : PartialChar} (wide : p.Wide) (accepted : p.accepts byte = true) :
    0x80 ≤ (p.push byte).bits * 64 ^ (p.push byte).missing := by
  simp only [accepts, Bool.and_eq_true, decide_eq_true_eq] at accepted
  obtain ⟨missing, here⟩ := Nat.exists_eq_add_one.mpr wide.missing
  have bits := wide.bits
  simp only [push]
  rw [here] at bits ⊢
  rw [Nat.add_sub_cancel] at *
  calc 0x80 ≤ p.bits * 64 ^ (missing + 1) + (p.lower - 0x80) * 64 ^ missing := bits
    _ = (p.bits * 64 + (p.lower - 0x80)) * 64 ^ missing := by ring
    _ ≤ (p.bits * 64 + (byte.toNat - 0x80)) * 64 ^ missing := Nat.mul_le_mul_right _ (by omega)

theorem PartialChar.Wide.push {p : PartialChar} (wide : p.Wide) (accepted : p.accepts byte = true)
    (more : ¬ p.missing ≤ 1) : (p.push byte).Wide := by
  refine ⟨?_, Nat.le_refl _, ?_⟩
  · simp only [PartialChar.push]
    omega
  · exact (wide.push_bits accepted).trans (Nat.le_add_right _ _)

-- The characters that a text shows in one byte each.
structure IsAscii (c : Char) : Prop where
  positive : 0 < c.toNat
  ascii : c.toNat < 0x80

theorem IsAscii.ne_ofNat (isAscii : IsAscii c) {n : Nat} (wide : 0x80 ≤ n) : c ≠ Char.ofNat n := by
  obtain ⟨positive, ascii⟩ := isAscii
  rintro rfl
  rw [Char.toNat_ofNat] at positive ascii
  by_cases valid : n.isValidChar
  · rw [if_pos valid] at ascii
    omega
  · rw [if_neg valid] at positive
    omega

theorem IsAscii.ne_replacement (isAscii : IsAscii c) : c ≠ replacementChar :=
  isAscii.ne_ofNat (by decide)

theorem eq_ofNat_iff {n : Nat} (ascii : n < 0x80) : c = Char.ofNat n ↔ n = c.toNat := by
  constructor
  · rintro rfl
    have valid : n.isValidChar := .inl (by omega)
    rw [Char.toNat_ofNat, if_pos valid]
  · rintro rfl
    rw [Char.ofNat_toNat]

theorem PartialChar.Wide.toNat_ne {p : PartialChar} (wide : p.Wide) (isAscii : IsAscii c)
    (accepted : p.accepts byte = true) : byte.toNat ≠ c.toNat := by
  have lower := wide.lower
  have ascii := isAscii.ascii
  simp only [accepts, Bool.and_eq_true, decide_eq_true_eq] at accepted
  omega

-- A byte that does not go on with the open character is read like a first byte.
theorem decodeFrom_rejected {p : PartialChar} (rejected : p.accepts byte = false) (rest : List UInt8) :
    decodeFrom (some p) (byte :: rest) = replacementChar :: decodeFrom none (byte :: rest) := by
  simp only [decodeFrom, rejected, Bool.false_eq_true, if_false]

-- An ASCII character stands in a decoded text exactly where its byte does, whatever is wrong with the other bytes.
theorem mem_decodeFrom (isAscii : IsAscii c) {state : Option PartialChar} (wide : ∀ p ∈ state, p.Wide)
    (bytes : List UInt8) : c ∈ decodeFrom state bytes ↔ ∃ byte ∈ bytes, byte.toNat = c.toNat := by
  induction bytes generalizing state with
  | nil =>
    cases state with
    | none => simp [decodeFrom]
    | some p => simp [decodeFrom, isAscii.ne_replacement]
  | cons byte rest ih =>
    have closed := @ih none (by simp)
    have fresh : c ∈ decodeFrom none (byte :: rest) ↔ ∃ other ∈ byte :: rest, other.toNat = c.toNat := by
      rw [List.exists_mem_cons_iff, decodeFrom]
      rcases firstByte_cases byte with ⟨ascii, whole⟩ | ⟨high, invalid | ⟨p, opens, isWide⟩⟩
      · simp only [whole, List.mem_cons, closed, eq_ofNat_iff ascii]
      · have differs : byte.toNat ≠ c.toNat := by
          have := isAscii.ascii
          omega
        simp only [invalid, List.mem_cons, closed, isAscii.ne_replacement, differs, false_or]
      · have differs : byte.toNat ≠ c.toNat := by
          have := isAscii.ascii
          omega
        have opened := @ih (some p) (by simpa using isWide)
        simp only [opens, opened, differs, false_or]
    cases state with
    | none => exact fresh
    | some p =>
      have isWide := wide p rfl
      cases accepted : p.accepts byte with
      | false => rw [decodeFrom_rejected accepted, List.mem_cons, fresh, or_iff_right isAscii.ne_replacement]
      | true =>
        have differs := isWide.toNat_ne isAscii accepted
        rw [List.exists_mem_cons_iff, or_iff_right differs, decodeFrom, if_pos accepted]
        split
        · rename_i last
          have done : (p.push byte).missing = 0 := by
            simp only [PartialChar.push]
            omega
          have bits := isWide.push_bits accepted
          rw [done, pow_zero, mul_one] at bits
          rw [List.mem_cons, closed, or_iff_right (isAscii.ne_ofNat bits)]
        · rename_i more
          exact ih (by simpa using isWide.push accepted more)

theorem mem_decodeUtf8 (isAscii : IsAscii c) (bytes : List UInt8) :
    c ∈ (decodeUtf8 bytes).toList ↔ ∃ byte ∈ bytes, byte.toNat = c.toNat := by
  rw [decodeUtf8, String.toList_ofList]
  exact mem_decodeFrom isAscii (by simp) bytes

end Text

namespace Source

theorem slice_bytes_subset (source : Source) {first last innerFirst innerLast : Nat} (starts : first ≤ innerFirst)
    (ends : innerLast ≤ last) : (source.bytes.drop innerFirst).take (innerLast - innerFirst) ⊆
      (source.bytes.drop first).take (last - first) := by
  obtain ⟨skipped, rfl⟩ := Nat.exists_eq_add_of_le starts
  intro byte member
  have nonempty : 0 < innerLast - (first + skipped) := by
    by_contra none
    rw [Nat.eq_zero_of_not_pos none, List.take_zero] at member
    cases member
  rw [← List.drop_drop, List.take_drop] at member
  exact (List.take_prefix_take_left (by omega)).subset (List.mem_of_mem_drop member)

-- A character of the text of a region is one of the text of every larger region.
theorem mem_slice_of_within (source : Source) {c : Char} (isAscii : Text.IsAscii c)
    {first last innerFirst innerLast : Nat} (starts : first ≤ innerFirst) (ends : innerLast ≤ last)
    (member : c ∈ (source.slice innerFirst innerLast).toList) : c ∈ (source.slice first last).toList := by
  obtain ⟨byte, inside, same⟩ := (Text.mem_decodeUtf8 isAscii _).mp member
  exact (Text.mem_decodeUtf8 isAscii _).mpr ⟨byte, source.slice_bytes_subset starts ends inside, same⟩

end Source
end Perflint
