import Mathlib
import Perflint.Proofs.Lists
import Perflint.Rule.Catalog
import Perflint.Rule.Message

namespace Perflint

namespace MessagePart

-- A placeholder that is a bare name: no path into the text, no form, no layout.
def isPlain : MessagePart → Bool
  | .placeholder place =>
    place.form.isNone && place.layout.isEmpty && !place.field.toList.any fun c => c == '.' || c == '['
  | _ => true

end MessagePart

namespace Rule

-- Messages with nothing but bare names in them.
def isPlain (rule : Rule) : Bool :=
  (MessagePart.parse rule.message).all MessagePart.isPlain

end Rule

namespace Placeholder

-- A bare name gives the captured text, or the message does not fit.
theorem captured_plain {field : String} (bare : (field.toList.any fun c => c == '.' || c == '[') = false)
    (values : List (String × String)) :
    captured values field = .error .unfit ∨ ∃ words, captured values field = .ok (.text words) := by
  have rest : field.toList.dropWhile (fun c => !(c == '.' || c == '[')) = [] := by
    rw [List.dropWhile_eq_nil_iff]
    intro c member
    have plain := List.any_eq_false.mp bare c member
    simpa using plain
  unfold captured
  simp only [rest]
  split
  · exact .inl rfl
  · split
    · rename_i words _
      exact .inr ⟨words, rfl⟩
    · exact .inl rfl

end Placeholder

namespace MessagePart

-- A message of bare names is filled or unfit; it fails in no other way.
theorem fillText_plain {message : String} (plain : (parse message).all isPlain = true)
    {values : List (String × String)} {depth : Nat} {fault : MessageFault}
    (failed : fillText values (depth + 1) message = .error fault) : fault = .unfit := by
  unfold fillText at failed
  rcases bind_eq_error.mp failed with parts | ⟨texts, _, impossible⟩
  · obtain ⟨part, member, wrong⟩ := mapM_eq_error parts
    have bare := List.all_eq_true.mp plain part member
    cases part with
    | text words => cases wrong
    | broken =>
      cases wrong
      rfl
    | placeholder place =>
      simp only [isPlain, Bool.and_eq_true, Bool.not_eq_true', Option.isNone_iff_eq_none, String.isEmpty_iff] at bare
      obtain ⟨⟨noForm, noLayout⟩, noPath⟩ := bare
      dsimp only at wrong
      rcases Placeholder.captured_plain noPath values with unfit | ⟨words, captured⟩
      · rw [unfit] at wrong
        cases wrong
        rfl
      · rw [captured, noForm, noLayout] at wrong
        cases wrong
  · cases impossible

end MessagePart

theorem Rule.render_of_isPlain {rule : Rule} (plain : rule.isPlain = true) (values : List (String × String)) :
    ∃ text, rule.render values = .ok text := by
  unfold Rule.render
  split
  · exact ⟨_, rfl⟩
  · cases filled : MessagePart.fillText values 2 rule.message with
    | ok text => exact ⟨text, rfl⟩
    | error fault =>
      rw [MessagePart.fillText_plain plain filled]
      exact ⟨_, rfl⟩

-- Reading the characters of a message one by one costs the kernel less than taking them out of the text.
theorem Rule.isPlain_of_chars {rule : Rule} {chars : List Char} (message : String.ofList chars = rule.message)
    (plain : (MessagePart.parseFrom (.text []) chars).all MessagePart.isPlain = true) : rule.isPlain = true := by
  rw [Rule.isPlain, MessagePart.parse, ← message, String.toList_ofList]
  exact plain

namespace Catalog

theorem rules_plain : ∀ rule ∈ rules, rule.isPlain = true := by
  rw [forall_rules]
  and_intros <;> exact Rule.isPlain_of_chars rfl (by decide +kernel)

theorem render_total {id : String} {rule : Rule} (found : registry.get? id = some rule)
    (values : List (String × String)) : ∃ text, rule.render values = .ok text :=
  Rule.render_of_isPlain (rules_plain rule (List.mem_of_find?_eq_some found)) values

end Catalog
end Perflint
