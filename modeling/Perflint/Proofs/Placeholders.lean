import Mathlib
import Perflint.Proofs.Suggestions

namespace Perflint

namespace Snippet

-- A letter or underscore, then letters, digits and underscores.
def IsName (name : List Char) : Prop :=
  ∃ first more, name = first :: more ∧ startsName first = true ∧ ∀ c ∈ more, isNameChar c = true

-- How a text is read off a template: a name after a dollar sign, bare or in braces, stands for the text of that name,
-- two dollar signs stand for one, and every other character for itself. A bare name is as long as can be. What a name
-- stands for goes into the text as it is, and reading goes on behind the name.
inductive Expands (captured : String → Option String) : List Char → List Char → Prop where
  | nil : Expands captured [] []
  | plain {c : Char} {rest out : List Char} : c ≠ '$' → Expands captured rest out →
      Expands captured (c :: rest) (c :: out)
  | dollar {rest out : List Char} : Expands captured rest out → Expands captured ('$' :: '$' :: rest) ('$' :: out)
  | named {name rest out : List Char} {value : String} : IsName name → (∀ c ∈ rest.head?, isNameChar c = false) →
      captured (String.ofList name) = some value → Expands captured rest out →
      Expands captured ('$' :: (name ++ rest)) (value.toList ++ out)
  | braced {name rest out : List Char} {value : String} : IsName name →
      captured (String.ofList name) = some value → Expands captured rest out →
      Expands captured ('$' :: '\x7b' :: (name ++ '\x7d' :: rest)) (value.toList ++ out)

-- The texts of the parts, one after another.
def Filling (values : List (String × String)) (parts : List Part) (out : List Char) : Prop :=
  ∃ words, List.Forall₂ (Part.Filled values) parts words ∧ out = words.flatMap String.toList

section Scanning

variable {values : List (String × String)} {piece chars out : List Char} {parts : List Part}

theorem filling_nil : Filling values [] out ↔ out = [] := by
  simp [Filling]

theorem filling_cons {part : Part} : Filling values (part :: parts) out ↔
    ∃ words rest, part.Filled values words ∧ out = words.toList ++ rest ∧ Filling values parts rest := by
  constructor
  · rintro ⟨_, _ | ⟨filled, below⟩, rfl⟩
    exact ⟨_, _, filled, List.flatMap_cons, _, below, rfl⟩
  · rintro ⟨words, _, filled, rfl, more, below, rfl⟩
    exact ⟨words :: more, .cons filled below, List.flatMap_cons.symm⟩

theorem filling_text {words : String} : Filling values (.text words :: parts) out ↔
    ∃ rest, out = words.toList ++ rest ∧ Filling values parts rest := by
  rw [filling_cons]
  constructor
  · rintro ⟨_, rest, ⟨⟩, split, below⟩
    exact ⟨rest, split, below⟩
  · rintro ⟨rest, split, below⟩
    exact ⟨words, rest, .text words, split, below⟩

theorem filling_capture {name : String} : Filling values (.capture name :: parts) out ↔
    ∃ value rest, values.lookup name = some value ∧ out = value.toList ++ rest ∧ Filling values parts rest := by
  rw [filling_cons]
  constructor
  · rintro ⟨_, rest, filled, split, below⟩
    cases filled with
    | capture known => exact ⟨_, rest, known, split, below⟩
  · rintro ⟨value, rest, known, split, below⟩
    exact ⟨value, rest, .capture known, split, below⟩

theorem not_filling_stray {left : Nat} : ¬Filling values (.stray left :: parts) out := by
  rw [filling_cons]
  rintro ⟨_, _, ⟨⟩, _⟩

theorem toList_pieceText (piece : List Char) : (pieceText piece).toList = piece.reverse :=
  String.toList_ofList

theorem partsFrom_text_dollar : partsFrom (.text piece) ('$' :: chars) =
    .text (pieceText piece) :: partsFrom .opened chars :=
  rfl

theorem partsFrom_text {c : Char} (plain : c ≠ '$') :
    partsFrom (.text piece) (c :: chars) = partsFrom (.text (c :: piece)) chars := by
  simp [partsFrom, step, plain]

-- What has been read of a text comes before what is still to be read.
theorem filling_piece : Filling values (partsFrom (.text piece) chars) out ↔
    ∃ rest, out = piece.reverse ++ rest ∧ Filling values (partsFrom (.text []) chars) rest := by
  induction chars generalizing piece out with
  | nil => simp [partsFrom, filling_text, filling_nil, toList_pieceText]
  | cons c rest ih =>
    by_cases dollar : c = '$'
    · subst dollar
      simp [partsFrom_text_dollar, filling_text, toList_pieceText]
    · rw [partsFrom_text dollar, partsFrom_text dollar, ih, List.reverse_cons]
      constructor
      · rintro ⟨more, rfl, below⟩
        exact ⟨[c] ++ more, List.append_assoc _ _ _, ih.mpr ⟨more, rfl, below⟩⟩
      · rintro ⟨_, rfl, read⟩
        obtain ⟨more, rfl, below⟩ := ih.mp read
        exact ⟨more, (List.append_assoc _ _ _).symm, below⟩

-- A bare name ends where no name character follows.
theorem filling_name : Filling values (partsFrom (.name piece) chars) out ↔
    ∃ value rest, values.lookup (String.ofList (piece.reverse ++ chars.takeWhile isNameChar)) = some value ∧
      out = value.toList ++ rest ∧ Filling values (partsFrom (.text []) (chars.dropWhile isNameChar)) rest := by
  induction chars generalizing piece with
  | nil =>
    simp only [partsFrom, filling_capture, filling_text, filling_nil, List.takeWhile_nil, List.dropWhile_nil, pieceText]
    simp
  | cons c rest ih =>
    by_cases goesOn : isNameChar c = true
    · have next : partsFrom (.name piece) (c :: rest) = partsFrom (.name (c :: piece)) rest := by
        simp [partsFrom, step, goesOn]
      rw [next, ih, List.takeWhile_cons_of_pos goesOn, List.dropWhile_cons_of_pos goesOn]
      simp
    · rw [List.takeWhile_cons_of_neg goesOn, List.dropWhile_cons_of_neg goesOn, List.append_nil]
      by_cases dollar : c = '$'
      · subst dollar
        have next : partsFrom (.name piece) ('$' :: rest) = .capture (pieceText piece) :: partsFrom .opened rest := rfl
        rw [next, partsFrom_text_dollar, filling_capture]
        simp [filling_text, pieceText]
      · have next : partsFrom (.name piece) (c :: rest) = .capture (pieceText piece) :: partsFrom (.text [c]) rest := by
          simp [partsFrom, step, goesOn, dollar]
        rw [next, partsFrom_text dollar, filling_capture]
        rfl

-- A name in braces goes up to the closing brace.
theorem filling_braced {last : Char} : Filling values (partsFrom (.braced (last :: piece)) chars) out ↔
    ∃ more value rest, chars.dropWhile isNameChar = '\x7d' :: more ∧
      values.lookup (String.ofList ((last :: piece).reverse ++ chars.takeWhile isNameChar)) = some value ∧
      out = value.toList ++ rest ∧ Filling values (partsFrom (.text []) more) rest := by
  induction chars generalizing last piece with
  | nil => simp [partsFrom, not_filling_stray]
  | cons c rest ih =>
    by_cases closes : c = '\x7d'
    · subst closes
      have next : partsFrom (.braced (last :: piece)) ('\x7d' :: rest) =
          .capture (pieceText (last :: piece)) :: partsFrom (.text []) rest := rfl
      have ends : ¬isNameChar '\x7d' = true := by decide
      rw [next, filling_capture, List.takeWhile_cons_of_neg ends, List.dropWhile_cons_of_neg ends]
      simp [pieceText]
    · by_cases goesOn : isNameChar c = true
      · have next : partsFrom (.braced (last :: piece)) (c :: rest) =
            partsFrom (.braced (c :: last :: piece)) rest := by
          simp [partsFrom, step, goesOn, closes]
        rw [next, ih, List.takeWhile_cons_of_pos goesOn, List.dropWhile_cons_of_pos goesOn]
        simp
      · have next : ∃ left, partsFrom (.braced (last :: piece)) (c :: rest) = [.stray left] := by
          simp [partsFrom, step, goesOn, closes]
        obtain ⟨left, next⟩ := next
        rw [next, List.dropWhile_cons_of_neg goesOn]
        simp [not_filling_stray, closes]

-- After a dollar sign stands another one, a brace or the start of a name.
theorem filling_opened {c : Char} : Filling values (partsFrom .opened (c :: chars)) out ↔
    (c = '$' ∧ Filling values (partsFrom (.text ['$']) chars) out) ∨
      (c = '\x7b' ∧ Filling values (partsFrom (.braced []) chars) out) ∨
      (startsName c = true ∧ Filling values (partsFrom (.name [c]) chars) out) := by
  by_cases dollar : c = '$'
  · subst dollar
    have next : partsFrom .opened ('$' :: chars) = partsFrom (.text ['$']) chars := rfl
    have noName : startsName '$' = false := by decide
    simp [next, noName]
  · by_cases brace : c = '\x7b'
    · subst brace
      have next : partsFrom .opened ('\x7b' :: chars) = partsFrom (.braced []) chars := rfl
      have noName : startsName '\x7b' = false := by decide
      simp [next, noName]
    · cases starts : startsName c with
      | true => simp [partsFrom, step, dollar, brace, starts]
      | false => simp [partsFrom, step, dollar, brace, starts, not_filling_stray]

theorem filling_brace {c : Char} : Filling values (partsFrom (.braced []) (c :: chars)) out ↔
    startsName c = true ∧ Filling values (partsFrom (.braced [c]) chars) out := by
  cases starts : startsName c with
  | true => simp [partsFrom, step, starts]
  | false => simp [partsFrom, step, starts, not_filling_stray]

end Scanning

theorem isName_takeWhile {first : Char} {chars : List Char} (starts : startsName first = true) :
    IsName (first :: chars.takeWhile isNameChar) :=
  ⟨first, _, rfl, starts, fun _ member => List.mem_takeWhile_imp member⟩

theorem takeWhile_name {more rest : List Char} (each : ∀ c ∈ more, isNameChar c = true)
    (ends : ∀ c ∈ rest.head?, isNameChar c = false) :
    (more ++ rest).takeWhile isNameChar = more ∧ (more ++ rest).dropWhile isNameChar = rest := by
  rw [List.takeWhile_append_of_pos each, List.dropWhile_append_of_pos each]
  cases rest with
  | nil => simp
  | cons c rest =>
    have stops : ¬isNameChar c = true := by simp [ends c rfl]
    rw [List.takeWhile_cons_of_neg stops, List.dropWhile_cons_of_neg stops, List.append_nil]
    exact ⟨rfl, rfl⟩

theorem closing_ends (rest : List Char) : ∀ c ∈ ('\x7d' :: rest).head?, isNameChar c = false := by
  rintro c ⟨⟩
  decide

-- What the reader of templates makes of a template is what the template says. The induction is on the length, since
-- reading goes on behind a whole name.
theorem expands_of_filling {values : List (String × String)} {chars out : List Char}
    (filling : Filling values (partsFrom (.text []) chars) out) : Expands (values.lookup ·) chars out := by
  induction size : chars.length using Nat.strong_induction_on generalizing chars out with
  | h size ih =>
    cases chars with
    | nil =>
      obtain ⟨_, rfl, rest⟩ := filling_text.mp filling
      rw [filling_nil.mp rest]
      exact .nil
    | cons c rest =>
      rw [List.length_cons] at size
      by_cases dollar : c = '$'
      · subst dollar
        obtain ⟨out, rfl, opened⟩ := filling_text.mp filling
        cases rest with
        | nil => exact absurd opened not_filling_stray
        | cons next rest =>
          rw [List.length_cons] at size
          have shorter : (rest.dropWhile isNameChar).length ≤ rest.length := (List.dropWhile_sublist _).length_le
          rcases filling_opened.mp opened with ⟨rfl, again⟩ | ⟨rfl, brace⟩ | ⟨starts, name⟩
          · obtain ⟨more, rfl, below⟩ := filling_piece.mp again
            exact .dollar (ih rest.length (by omega) below rfl)
          · cases rest with
            | nil => exact absurd brace not_filling_stray
            | cons first rest =>
              obtain ⟨starts, inside⟩ := filling_brace.mp brace
              obtain ⟨more, value, text, closes, known, rfl, below⟩ := filling_braced.mp inside
              have split := List.takeWhile_append_dropWhile (p := isNameChar) (l := rest)
              have closed : (rest.dropWhile isNameChar).length ≤ rest.length := (List.dropWhile_sublist _).length_le
              rw [closes] at split closed
              rw [List.length_cons] at closed size
              rw [← split]
              exact .braced (isName_takeWhile starts) known (ih more.length (by omega) below rfl)
          · obtain ⟨value, more, known, rfl, below⟩ := filling_name.mp name
            have ends : ∀ c ∈ (rest.dropWhile isNameChar).head?, isNameChar c = false := by
              intro c isHead
              have stops := List.head?_dropWhile_not isNameChar rest
              rwa [isHead] at stops
            have read := Expands.named (isName_takeWhile starts) ends known (ih _ (by omega) below rfl)
            rwa [List.cons_append, List.takeWhile_append_dropWhile] at read
      · rw [partsFrom_text dollar] at filling
        obtain ⟨more, rfl, below⟩ := filling_piece.mp filling
        exact .plain dollar (ih rest.length (by omega) below rfl)

theorem filling_of_expands {values : List (String × String)} {chars out : List Char}
    (expands : Expands (values.lookup ·) chars out) : Filling values (partsFrom (.text []) chars) out := by
  induction expands with
  | nil => exact filling_text.mpr ⟨[], rfl, filling_nil.mpr rfl⟩
  | plain other below ih =>
    rw [partsFrom_text other]
    exact filling_piece.mpr ⟨_, rfl, ih⟩
  | dollar below ih =>
    exact filling_text.mpr ⟨_, rfl, filling_opened.mpr (.inl ⟨rfl, filling_piece.mpr ⟨_, rfl, ih⟩⟩)⟩
  | @named name rest out value isName ends known below ih =>
    obtain ⟨first, more, rfl, starts, each⟩ := isName
    obtain ⟨taken, left⟩ := takeWhile_name each ends
    have inside : Filling values (partsFrom (.name [first]) (more ++ rest)) (value.toList ++ out) := by
      rw [filling_name, taken, left]
      exact ⟨value, out, known, rfl, ih⟩
    exact filling_text.mpr ⟨_, rfl, filling_opened.mpr (.inr (.inr ⟨starts, inside⟩))⟩
  | @braced name rest out value isName known below ih =>
    obtain ⟨first, more, rfl, starts, each⟩ := isName
    obtain ⟨taken, left⟩ := takeWhile_name each (closing_ends rest)
    have inside : Filling values (partsFrom (.braced [first]) (more ++ '\x7d' :: rest)) (value.toList ++ out) := by
      rw [filling_braced, taken, left]
      exact ⟨rest, value, out, rfl, known, rfl, ih⟩
    exact filling_text.mpr ⟨_, rfl, filling_opened.mpr (.inr (.inl ⟨rfl, filling_brace.mpr ⟨starts, inside⟩⟩))⟩

theorem filledFrom_iff {values : List (String × String)} {template text : String} :
    FilledFrom values template text ↔ Expands (values.lookup ·) template.toList text.toList := by
  have written : FilledFrom values template text ↔ Filling values (parts template) text.toList := by
    refine exists_congr fun words => and_congr_right fun _ => ?_
    rw [← String.toList_inj, String.toList_join]
  rw [written]
  exact ⟨expands_of_filling, filling_of_expands⟩

end Snippet

-- The text that a name stands for: of the captures of that name, the first that is not blank.
def captured? (captures : List (String × String)) (name : String) : Option String :=
  (captures.find? fun (other, text) => other == name && !Text.isBlankText text).map Prod.snd

theorem lookup_shownTexts (captures : List (String × String)) (name : String) :
    (shownTexts captures).lookup name = captured? captures name := by
  unfold shownTexts captured?
  induction captures with
  | nil => rfl
  | cons capture rest ih =>
    obtain ⟨other, text⟩ := capture
    cases blank : Text.isBlankText text with
    | true => simp [blank, ih]
    | false =>
      by_cases same : other = name
      · simp [blank, same]
      · have differs : (name == other) = false := by simp [Ne.symm same]
        simp [blank, same, differs, List.lookup_cons, ih]

namespace Finding

-- The fix of a finding in a language: both halves of its template with the captured texts in place.
structure IsFix (finding : Finding) (origin : Option Match) (language : String) (fix : Suggestion) : Prop where
  halves : ∃ snippet, Snippet.find? finding.templateKey language = some snippet ∧
    Snippet.Expands (captured? (finding.capturesFrom origin)) snippet.before.toList fix.before.toList ∧
      Snippet.Expands (captured? (finding.capturesFrom origin)) snippet.after.toList fix.after.toList
  language : fix.language = language

-- A finding and what it becomes: only the fix and the reason for its absence may differ, there is one of the two
-- where a template is asked for, and asking again changes nothing.
structure Completes (origin : Option Match) (tag : String) (finding made : Finding) : Prop where
  frame : { made with suggestion := finding.suggestion, suggestionError := finding.suggestionError } = finding
  unasked : finding.templateKey = "" → made = finding
  answered : finding.templateKey ≠ "" → Xor (made.suggestion ≠ none) (made.suggestionError ≠ "")
  fix : finding.templateKey ≠ "" → ∀ fix, made.suggestion = some fix ↔
    finding.IsFix origin (Language.normalize tag) fix
  again : made.synthesize origin tag = made

variable {finding : Finding} {origin : Option Match} {tag : String}

theorem synthesize_unasked (unasked : finding.templateKey = "") : finding.synthesize origin tag = finding := by
  unfold synthesize
  rw [if_pos (String.isEmpty_iff.mpr unasked)]

theorem isFix_iff {language : String} {fix : Suggestion} : finding.IsFix origin language fix ↔
    (∃ snippet, Snippet.find? finding.templateKey language = some snippet ∧
      fillSnippet snippet (shownTexts (finding.capturesFrom origin)) = .ok (fix.before, fix.after)) ∧
    fix.language = language := by
  have texts : (fun name => (shownTexts (finding.capturesFrom origin)).lookup name) =
      captured? (finding.capturesFrom origin) := funext (lookup_shownTexts _)
  have halves : ∀ snippet : Snippet,
      fillSnippet snippet (shownTexts (finding.capturesFrom origin)) = .ok (fix.before, fix.after) ↔
        Snippet.Expands (captured? (finding.capturesFrom origin)) snippet.before.toList fix.before.toList ∧
          Snippet.Expands (captured? (finding.capturesFrom origin)) snippet.after.toList fix.after.toList := by
    intro snippet
    rw [fillSnippet_eq_ok, Snippet.filledFrom_iff, Snippet.filledFrom_iff, texts]
  simp only [halves]
  constructor
  · intro isFix
    exact ⟨isFix.halves, isFix.language⟩
  · intro parts
    exact ⟨parts.1, parts.2⟩

theorem append_ne_empty {start rest : String} (nonempty : start ≠ "") : start ++ rest ≠ "" := by
  intro empty
  exact nonempty (String.append_eq_empty_iff.mp empty).1

theorem fault_text_ne_empty (key : String) (fault : Snippet.Fault) : fault.text key ≠ "" := by
  cases fault with
  | missing name =>
    unfold Snippet.Fault.text
    repeat apply append_ne_empty
    decide
  | invalid line column =>
    unfold Snippet.Fault.text
    repeat apply append_ne_empty
    decide

theorem synthesize_missing (asked : finding.templateKey ≠ "")
    (missing : Snippet.find? finding.templateKey (Language.normalize tag) = none) :
    ∃ error, error ≠ "" ∧ finding.synthesize origin tag = finding.withSuggestion none error := by
  rw [synthesize_asked asked, missing]
  exact ⟨_, by simp, rfl⟩

theorem synthesize_filled (asked : finding.templateKey ≠ "") {snippet : Snippet} {before after : String}
    (found : Snippet.find? finding.templateKey (Language.normalize tag) = some snippet)
    (filled : fillSnippet snippet (shownTexts (finding.capturesFrom origin)) = .ok (before, after)) :
    finding.synthesize origin tag =
      finding.withSuggestion (some { before, after, language := Language.normalize tag }) "" := by
  rw [synthesize_asked asked, found]
  dsimp only
  rw [filled]

theorem synthesize_failed (asked : finding.templateKey ≠ "") {snippet : Snippet} {fault : Snippet.Fault}
    (found : Snippet.find? finding.templateKey (Language.normalize tag) = some snippet)
    (failed : fillSnippet snippet (shownTexts (finding.capturesFrom origin)) = .error fault) :
    finding.synthesize origin tag = finding.withSuggestion none (fault.text finding.templateKey) := by
  rw [synthesize_asked asked, found]
  dsimp only
  rw [failed]

-- Either there is a fix and no error, or there is an error and nothing is a fix.
theorem synthesize_outcome (asked : finding.templateKey ≠ "") :
    (∃ fix, (∀ other, finding.IsFix origin (Language.normalize tag) other ↔ other = fix) ∧
      finding.synthesize origin tag = finding.withSuggestion (some fix) "") ∨
    ∃ error, error ≠ "" ∧ (∀ fix, ¬finding.IsFix origin (Language.normalize tag) fix) ∧
      finding.synthesize origin tag = finding.withSuggestion none error := by
  simp only [isFix_iff]
  cases found : Snippet.find? finding.templateKey (Language.normalize tag) with
  | none =>
    obtain ⟨error, nonempty, made⟩ := synthesize_missing asked found
    exact .inr ⟨error, nonempty, by simp, made⟩
  | some snippet =>
    simp only [Option.some.injEq, exists_eq_left']
    cases filled : fillSnippet snippet (shownTexts (finding.capturesFrom origin)) with
    | ok halves =>
      obtain ⟨before, after⟩ := halves
      refine .inl ⟨{ before, after, language := Language.normalize tag }, ?_, synthesize_filled asked found filled⟩
      rintro ⟨otherBefore, otherAfter, otherLanguage⟩
      simp [eq_comm, and_assoc]
    | error fault =>
      exact .inr ⟨_, fault_text_ne_empty _ fault, by simp, synthesize_failed asked found filled⟩

theorem synthesize_again (finding : Finding) (origin : Option Match) (tag : String) :
    (finding.synthesize origin tag).synthesize origin tag = finding.synthesize origin tag := by
  by_cases asked : finding.templateKey = ""
  · rw [synthesize_unasked asked, synthesize_unasked asked]
  · obtain ⟨suggestion, error, made⟩ := finding.synthesize_eq origin tag
    have stillAsked : (finding.withSuggestion suggestion error).templateKey ≠ "" := asked
    have same : (finding.withSuggestion suggestion error).synthesize origin tag = finding.synthesize origin tag := by
      rw [synthesize_asked asked, synthesize_asked stillAsked]
      cases origin <;> rfl
    rw [made, same, made]

theorem synthesize_completes (finding : Finding) (origin : Option Match) (tag : String) :
    Completes origin tag finding (finding.synthesize origin tag) := by
  have frame : { finding.synthesize origin tag with
      suggestion := finding.suggestion, suggestionError := finding.suggestionError } = finding := by
    obtain ⟨suggestion, error, made⟩ := finding.synthesize_eq origin tag
    rw [made]
    rfl
  refine ⟨frame, synthesize_unasked, ?_, ?_, finding.synthesize_again origin tag⟩
  · intro asked
    rcases synthesize_outcome asked with ⟨fix, _, made⟩ | ⟨error, nonempty, _, made⟩
    · rw [made]
      simp [withSuggestion, Xor]
    · rw [made]
      simp [withSuggestion, Xor, nonempty]
  · intro asked fix
    rcases synthesize_outcome asked with ⟨given, isFix, made⟩ | ⟨error, _, noFix, made⟩
    · rw [made, isFix, withSuggestion, Option.some.injEq, eq_comm]
    · rw [made]
      simp [withSuggestion, noFix]

-- Fixes are attached to findings one by one and in order, and each is its template with the captured texts as they
-- are: what a captured text itself spells after a dollar sign is never read.
theorem fixes_verbatim :
    (∀ finding origin tag, Completes origin tag finding (finding.synthesize origin tag)) ∧
    ∀ findings tag, List.Forall₂ (fun finding made => Completes finding.origin tag finding made) findings
      (synthesizeAll findings tag) := by
  refine ⟨synthesize_completes, ?_⟩
  intro findings tag
  rw [synthesizeAll, List.forall₂_map_right_iff, List.forall₂_same]
  intro finding _
  exact finding.synthesize_completes finding.origin tag

end Finding

example : Snippet.fill [("target", "$\x7bvalue\x7d"), ("value", "$target")] "$target = $\x7bvalue\x7d; $$" =
    .ok "$\x7bvalue\x7d = $target; $" := by
  decide +kernel

end Perflint
