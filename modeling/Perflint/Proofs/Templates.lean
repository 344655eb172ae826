import Mathlib
import Perflint.Proofs.CatalogHits
import Perflint.Proofs.Messages
import Perflint.Suggestion.Synthesis

namespace Perflint

def Known (values : List (String × String)) (names : List String) : Prop :=
  ∀ name ∈ names, ∃ text, values.lookup name = some text

theorem known_keys (values : List (String × String)) : Known values (values.map Prod.fst) := by
  intro name member
  obtain ⟨entry, isEntry, rfl⟩ := List.mem_map.mp member
  exact Option.isSome_iff_exists.mp (List.lookup_isSome_iff.mpr ⟨entry, isEntry, beq_self_eq_true _⟩)

namespace MessagePart

-- A part with what was captured in its place.
inductive Filled (values : List (String × String)) : MessagePart → String → Prop where
  | text (words : String) : Filled values (.text words) words
  | placeholder {name words : String} : values.lookup name = some words →
      Filled values (.placeholder { field := name }) words

def isCoveredBy (names : List String) : MessagePart → Bool
  | .text _ => true
  | .placeholder place => names.contains place.field && Placeholder.isName place.field.toList
  | .broken => false

end MessagePart

theorem Placeholder.captured_name {values : List (String × String)} {field words : String}
    (bare : (field.toList.any fun c => c == '.' || c == '[') = false) (isName : isName field.toList = true)
    (known : values.lookup field = some words) : captured values field = .ok (.text words) := by
  have whole : ∀ c ∈ field.toList, (!(c == '.' || c == '[')) = true := by
    intro c member
    simpa using List.any_eq_false.mp bare c member
  have taken : field.toList.takeWhile (fun c => !(c == '.' || c == '[')) = field.toList :=
    List.takeWhile_eq_self_iff.mpr whole
  have rest : field.toList.dropWhile (fun c => !(c == '.' || c == '[')) = [] :=
    List.dropWhile_eq_nil_iff.mpr whole
  simp only [captured, taken, rest, isName, String.ofList_toList, known]
  rfl

namespace MessagePart

theorem fillText_covered {values : List (String × String)} {names : List String} {message : String}
    (plain : (parse message).all isPlain = true) (covered : (parse message).all (isCoveredBy names) = true)
    (known : Known values names) (depth : Nat) :
    ∃ words, List.Forall₂ (Filled values) (parse message) words ∧
      fillText values (depth + 1) message = .ok (String.join words) := by
  rw [List.all_eq_true] at plain covered
  have each : ∀ part ∈ parse message, ∃ words, Filled values part words := by
    intro part member
    have bare := plain part member
    have inNames := covered part member
    cases part with
    | text words => exact ⟨words, .text words⟩
    | broken => cases inNames
    | placeholder place =>
      obtain ⟨field, form, layout⟩ := place
      simp only [isPlain, isCoveredBy, Bool.and_eq_true, Option.isNone_iff_eq_none, String.isEmpty_iff,
        List.contains_iff_mem] at bare inNames
      obtain ⟨⟨rfl, rfl⟩, _⟩ := bare
      obtain ⟨words, isKnown⟩ := known field inNames.1
      exact ⟨words, .placeholder isKnown⟩
  obtain ⟨words, filled⟩ := exists_forall₂ each
  refine ⟨words, filled, ?_⟩
  unfold fillText
  refine bind_eq_ok.mpr ⟨words, mapM_eq_ok.mpr (forall₂_imp_mem filled fun part member word fills => ?_), rfl⟩
  cases fills with
  | text => rfl
  | placeholder isKnown =>
    have bare := plain _ member
    have inNames := covered _ member
    simp only [isPlain, isCoveredBy, Bool.and_eq_true, Bool.not_eq_true'] at bare inNames
    dsimp only
    rw [Placeholder.captured_name bare.2 inNames.2 isKnown]
    rfl

end MessagePart

-- The message of the rule with captured texts in their places.
def Rule.MessageFilled (rule : Rule) (values : List (String × String)) (message : String) : Prop :=
  ∃ words, List.Forall₂ (MessagePart.Filled values) (MessagePart.parse rule.message) words ∧
    message = String.join words

theorem Rule.isCoveredBy_of_chars {rule : Rule} {names : List String} {chars : List Char}
    (message : String.ofList chars = rule.message)
    (covered : (MessagePart.parseFrom (.text []) chars).all (MessagePart.isCoveredBy names) = true) :
    (MessagePart.parse rule.message).all (MessagePart.isCoveredBy names) = true := by
  rw [MessagePart.parse, ← message, String.toList_ofList]
  exact covered

namespace Catalog

theorem messages_covered : ∀ entry ∈ forms,
    (MessagePart.parse entry.1.message).all (MessagePart.isCoveredBy entry.2.names) = true := by
  simp only [forms, List.forall_mem_cons, List.not_mem_nil, false_implies, implies_true, and_true]
  refine ⟨?_, ?_, ?_, ?_, ?_, ?_, ?_, ?_, ?_, ?_, ?_, ?_, ?_, ?_, ?_, ?_, ?_⟩
  all_goals exact Rule.isCoveredBy_of_chars rfl (by decide +kernel)

theorem messages_nonempty : ∀ rule ∈ rules, rule.message ≠ "" := by
  decide

-- No message of the catalog falls back on the title.
theorem render_filled {rule : Rule} {form : HitForm} (isForm : (rule, form) ∈ forms) {values : List (String × String)}
    (known : Known values form.names) : ∃ message, rule.render values = .ok message ∧ rule.MessageFilled values message := by
  have isRule : rule ∈ rules := by
    rw [← forms_rules]
    exact List.mem_map_of_mem isForm
  have covered := messages_covered (rule, form) isForm
  have nonempty : ¬rule.message.isEmpty = true := mt String.isEmpty_iff.mp (messages_nonempty rule isRule)
  obtain ⟨words, filled, written⟩ := MessagePart.fillText_covered (rules_plain rule isRule) covered known 1
  refine ⟨_, ?_, words, filled, rfl⟩
  rw [Rule.render, if_neg nonempty, written]

end Catalog

namespace Snippet

inductive Part.Filled (values : List (String × String)) : Part → String → Prop where
  | text (words : String) : Filled values (.text words) words
  | capture {name words : String} : values.lookup name = some words → Filled values (.capture name) words

def Part.isCoveredBy (names : List String) : Part → Bool
  | .text _ => true
  | .capture name => names.contains name
  | .stray _ => false

-- The text is a template with captured texts in their places.
def FilledFrom (values : List (String × String)) (template text : String) : Prop :=
  ∃ words, List.Forall₂ (Part.Filled values) (parts template) words ∧ text = String.join words

def CoveredBy (names : List String) (template : String) : Prop :=
  (parts template).all (Part.isCoveredBy names) = true

theorem fillPart_eq_ok {template words : String} {values : List (String × String)} {part : Part} :
    fillPart template values part = .ok words ↔ part.Filled values words := by
  constructor
  · intro filled
    cases part with
    | text =>
      cases filled
      exact .text _
    | capture name =>
      simp only [fillPart] at filled
      split at filled
      · rename_i isKnown
        cases filled
        exact .capture isKnown
      · cases filled
    | stray left => cases filled
  · rintro (_ | known)
    · rfl
    · simp only [fillPart, known]

theorem fill_eq_ok {values : List (String × String)} {template text : String} :
    fill values template = .ok text ↔ FilledFrom values template text := by
  have filled : ∀ words, (parts template).mapM (fillPart template values) = .ok words ↔
      List.Forall₂ (Part.Filled values) (parts template) words := by
    intro words
    simp only [mapM_eq_ok, fillPart_eq_ok]
  simp only [FilledFrom, ← filled, fill]
  cases (parts template).mapM (fillPart template values) with
  | error fault => simp [Except.map]
  | ok words => simp [Except.map, eq_comm]

theorem fill_eq_error {values : List (String × String)} {names : List String} {template : String} {fault : Fault}
    (covered : CoveredBy names template) (failed : fill values template = .error fault) :
    ∃ name ∈ names, fault = .missing name ∧ values.lookup name = none := by
  unfold fill at failed
  cases written : (parts template).mapM (fillPart template values) with
  | ok words =>
    rw [written] at failed
    cases failed
  | error fault =>
    rw [written] at failed
    cases failed
    obtain ⟨part, member, wrong⟩ := mapM_eq_error written
    have inNames := List.all_eq_true.mp covered part member
    cases part with
    | text words => cases wrong
    | stray left => cases inNames
    | capture name =>
      simp only [fillPart] at wrong
      split at wrong
      · cases wrong
      · rename_i unknown
        cases wrong
        exact ⟨name, List.contains_iff_mem.mp inNames, rfl, unknown⟩

-- The kernel reads a list of characters faster than it takes the characters out of a text.
theorem coveredBy_ofList {names : List String} {chars : List Char}
    (checked : (partsFrom (.text []) chars).all (Part.isCoveredBy names) = true) :
    CoveredBy names (String.ofList chars) := by
  rw [CoveredBy, parts, String.toList_ofList]
  exact checked

inductive Spelled : List String → List (List Char) → Prop where
  | nil : Spelled [] []
  | cons (chars : List Char) {rows : List String} {spelled : List (List Char)} : Spelled rows spelled →
      Spelled (String.ofList chars :: rows) (chars :: spelled)

theorem Spelled.map_toList {rows : List String} {spelled : List (List Char)} (same : Spelled rows spelled) :
    rows.map String.toList = spelled := by
  induction same with
  | nil => rfl
  | cons chars _ ih => rw [List.map_cons, String.toList_ofList, ih]

theorem coveredBy_lines {names rows : List String} {spelled : List (List Char)} (same : Spelled rows spelled)
    (checked : (partsFrom (.text []) (['\n'].intercalate spelled)).all (Part.isCoveredBy names) = true) :
    CoveredBy names (lines rows) := by
  rw [CoveredBy, parts, lines, Text.joined, String.toList_intercalate, same.map_toList]
  exact checked

-- What is captured for the snippets of a key: what the rule of that key captures, and the name of a function.
def namesFor (key : String) : List String :=
  match Catalog.forms.find? fun entry => entry.1.template == key with
  | some entry => entry.2.names
  | none => if key == "memoize" then ["function"] else []

theorem namesFor_template : ∀ entry ∈ Catalog.forms, namesFor entry.1.template = entry.2.names := by
  decide

-- Both halves of the snippet ask for what is captured only, and hold no dollar sign that opens nothing.
def Fits (snippet : Snippet) : Prop :=
  CoveredBy (namesFor snippet.key) snippet.before ∧ CoveredBy (namesFor snippet.key) snippet.after

theorem all_fit : ∀ snippet ∈ all, snippet.Fits := by
  simp only [all, io, lookups, allocation, text, repetition, Fits, List.forall_mem_append, List.forall_mem_cons,
    List.not_mem_nil, false_implies, implies_true, and_true]
  repeat' apply And.intro
  all_goals
    first
    | with_reducible apply coveredBy_lines
      · repeat (first | exact .nil | apply Spelled.cons)
      · decide +kernel
    | exact coveredBy_ofList (by decide +kernel)

end Snippet
end Perflint
