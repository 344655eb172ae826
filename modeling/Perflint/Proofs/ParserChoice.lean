import Mathlib
import Perflint.Analysis

namespace Perflint.Language

-- A tree of this parser is one that the grammar of the language can read.
def Fits (language : Language) (parser : String) : Prop :=
  parser = language.grammar.parser ∨ parser = markupParser ∧ language = .typescript

theorem ofTag?_text (language : Language) : ofTag? language.text = some language := by
  cases language <;> decide +kernel

theorem ofTag?_markup {tag : String} (markup : Text.lowercase (Text.strip tag) = markupParser) :
    ofTag? tag = some .typescript := by
  have resolved : normalize tag = "typescript" := by
    unfold normalize
    rw [markup]
    decide
  rw [ofTag?, resolved]
  decide

theorem ofPath?_markup {file : String} (markup : Text.lowercase (extension file) = ".tsx") :
    ofPath? file = some .typescript := by
  rw [ofPath?, ofExtension?, markup]
  decide

theorem parser_ne_markup (language : Language) : language.grammar.parser ≠ markupParser := by
  cases language <;> decide

theorem fits_markup_iff {language : Language} : language.Fits markupParser ↔ language = .typescript := by
  constructor
  · rintro (same | ⟨_, isTypescript⟩)
    · exact absurd same.symm language.parser_ne_markup
    · exact isTypescript
  · exact fun isTypescript => .inr ⟨rfl, isTypescript⟩

theorem parserFor_of_markup {path : Option String} (markup : namesMarkup path = true) (tag : String) :
    parserFor tag path = .ok markupParser := by
  rw [parserFor, markup, Bool.true_or, if_pos rfl]

-- The name of the file comes before the tag, and the tag is asked for nothing but its own word for markup.
theorem parserFor_cases {tag parser : String} {path : Option String} {language : Language}
    (known : ofTag? tag = some language) (found : parserFor tag path = .ok parser) :
    (namesMarkup path = true ∧ parser = markupParser) ∨
      (namesMarkup path = false ∧ language = .typescript ∧ parser = markupParser) ∨
      (namesMarkup path = false ∧ parser = language.grammar.parser) := by
  cases markup : namesMarkup path with
  | true =>
    rw [parserFor_of_markup markup] at found
    exact .inl ⟨rfl, (Except.ok.inj found).symm⟩
  | false =>
    rw [parserFor, markup, Bool.false_or] at found
    split at found
    · rename_i tagged
      rw [ofTag?_markup (beq_iff_eq.mp tagged)] at known
      exact .inr (.inl ⟨rfl, (Option.some.inj known).symm, (Except.ok.inj found).symm⟩)
    · rw [known] at found
      exact .inr (.inr ⟨rfl, (Except.ok.inj found).symm⟩)

theorem request_eq_ok {tag path : Option String} {name parser : String} :
    request tag path = .ok (name, parser) ↔
      tagFor? tag path = some name ∧ (∃ language, ofTag? name = some language) ∧ parserFor name path = .ok parser := by
  constructor
  · intro asked
    unfold request at asked
    split at asked
    · cases asked
    · rename_i chosen isChosen
      split at asked
      · cases asked
      · rename_i language known
        cases found : parserFor chosen path with
        | error fault =>
          rw [found] at asked
          cases asked
        | ok reader =>
          rw [found] at asked
          cases asked
          exact ⟨isChosen, ⟨language, known⟩, found⟩
  · rintro ⟨isChosen, ⟨language, known⟩, found⟩
    unfold request
    rw [isChosen]
    dsimp only
    rw [known, found]
    rfl

-- Without a tag the file decides on both, and a file that promises markup decides on the language that has it.
theorem ofTag?_of_path {path : Option String} {name : String} (shown : tagFor? none path = some name)
    (markup : namesMarkup path = true) : ofTag? name = some .typescript := by
  cases path with
  | none => cases markup
  | some file =>
    have named : some (text .typescript) = some name := by
      rw [← shown, tagFor?, Option.none_or, Option.bind_some, ofPath?_markup (beq_iff_eq.mp markup), Option.map_some]
    rw [← Option.some.inj named, ofTag?_text]

theorem analyzeSource_of_request {tag path : Option String} {name parser : String}
    (asked : request tag path = .ok (name, parser)) (parse : String → Source → Option Tree) (unit : Request) :
    analyzeSource parse tag path unit =
      (analyze { unit with tag := name, tree := parse parser unit.source }).map fun report => (parser, report) := by
  rw [analyzeSource, asked]
  simp only [Except.mapError, bind, Except.bind]
  cases analyze { unit with tag := name, tree := parse parser unit.source } <;> rfl

-- The name of the file decides on the parser before the tag is heard, so that a tag which goes against the name
-- decides on the grammar alone.
theorem request_fits_iff {tag path : Option String} {name parser : String}
    (asked : request tag path = .ok (name, parser)) :
    ∃ language, tagFor? tag path = some name ∧ ofTag? name = some language ∧
      (∀ parse unit, analyzeSource parse tag path unit =
        (analyze { unit with tag := name, tree := parse parser unit.source }).map fun report => (parser, report)) ∧
      (language.Fits parser ↔ language = .typescript ∨ namesMarkup path = false) ∧
      (¬language.Fits parser → parser = markupParser) ∧ (tag = none → language.Fits parser) := by
  obtain ⟨chosen, ⟨language, known⟩, found⟩ := request_eq_ok.mp asked
  have chosenParser := parserFor_cases known found
  have fits : language.Fits parser ↔ language = .typescript ∨ namesMarkup path = false := by
    rcases chosenParser with ⟨markup, rfl⟩ | ⟨_, isTypescript, rfl⟩ | ⟨plain, rfl⟩
    · rw [fits_markup_iff, markup, or_iff_left Bool.noConfusion]
    · exact iff_of_true (fits_markup_iff.mpr isTypescript) (.inl isTypescript)
    · exact iff_of_true (.inl rfl) (.inr plain)
  refine ⟨language, chosen, known, analyzeSource_of_request asked, fits, ?_, ?_⟩
  · intro unfit
    rcases chosenParser with ⟨_, isMarkup⟩ | ⟨_, _, isMarkup⟩ | ⟨_, own⟩
    · exact isMarkup
    · exact isMarkup
    · exact absurd (.inl own) unfit
  · rintro rfl
    cases markup : namesMarkup path with
    | true =>
      have isTypescript := Option.some.inj (known.symm.trans (ofTag?_of_path chosen markup))
      exact fits.mpr (.inl isTypescript)
    | false => exact fits.mpr (.inr markup)

-- The tag, with blanks and capitals, and the file agree on markup.
theorem markup_fits :
    request (some " TSX ") (some "lib/App.Tsx") = .ok (" TSX ", "tsx") ∧ Fits .typescript "tsx" := by
  have markup : namesMarkup (some "lib/App.Tsx") = true := by decide +kernel
  have isTypescript : ofTag? " TSX " = some .typescript := by decide +kernel
  have asked : request (some " TSX ") (some "lib/App.Tsx") = .ok (" TSX ", "tsx") :=
    request_eq_ok.mpr ⟨rfl, ⟨_, isTypescript⟩, parserFor_of_markup markup _⟩
  obtain ⟨language, _, known, _, fits, _⟩ := request_fits_iff asked
  cases Option.some.inj (known.symm.trans isTypescript)
  exact ⟨asked, fits.mpr (.inl rfl)⟩

-- A script that is said to be Python is read by the parser for markup.
theorem script_read_as_markup :
    request (some "python") (some "App.tsx") = .ok ("python", "tsx") ∧ ofTag? "python" = some .python ∧
      ¬Fits .python "tsx" := by
  have markup : namesMarkup (some "App.tsx") = true := by decide +kernel
  have isPython : ofTag? "python" = some .python := by decide +kernel
  exact ⟨request_eq_ok.mpr ⟨rfl, ⟨_, isPython⟩, parserFor_of_markup markup _⟩, isPython,
    fun fits => nomatch fits_markup_iff.mp fits⟩

end Perflint.Language
