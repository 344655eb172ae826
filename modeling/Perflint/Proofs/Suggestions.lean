import Mathlib
import Perflint.Proofs.Containment
import Perflint.Proofs.Severities
import Perflint.Proofs.Templates

namespace Perflint

def shownTexts (captures : List (String × String)) : List (String × String) :=
  captures.filter fun (_, text) => !Text.isBlankText text

-- Only a blank text can be known and not shown.
theorem isBlankText_of_not_shown {captures : List (String × String)} {name text : String}
    (known : captures.lookup name = some text) (missing : (shownTexts captures).lookup name = none) :
    Text.isBlankText text = true := by
  obtain ⟨before, after, rfl, _⟩ := List.lookup_eq_some_iff.mp known
  by_contra shown
  have member : (name, text) ∈ shownTexts (before ++ (name, text) :: after) :=
    List.mem_filter.mpr ⟨List.mem_append_right _ List.mem_cons_self, by simpa using shown⟩
  have differs := List.lookup_eq_none_iff.mp missing _ member
  simp at differs

namespace Snippet

-- The parts of both halves, in the order in which they are filled.
def allParts (snippet : Snippet) : List Part :=
  parts snippet.before ++ parts snippet.after

theorem isCoveredBy_of_fits {snippet : Snippet} (fits : snippet.Fits) {part : Part} (member : part ∈ snippet.allParts) :
    part.isCoveredBy (namesFor snippet.key) = true := by
  rcases List.mem_append.mp member with inBefore | inAfter
  · exact List.all_eq_true.mp fits.1 part inBefore
  · exact List.all_eq_true.mp fits.2 part inAfter

theorem find?_eq_some {key language : String} {snippet : Snippet} (found : find? key language = some snippet) :
    snippet ∈ all ∧ snippet.key = key := by
  unfold find? at found
  have matched := List.find?_some found
  simp only [Bool.and_eq_true, beq_iff_eq] at matched
  exact ⟨List.mem_of_find?_eq_some found, matched.1⟩

end Snippet

namespace Finding

theorem fillSnippet_eq_ok {snippet : Snippet} {values : List (String × String)} {before after : String} :
    fillSnippet snippet values = .ok (before, after) ↔
      Snippet.FilledFrom values snippet.before before ∧ Snippet.FilledFrom values snippet.after after := by
  rw [← Snippet.fill_eq_ok, ← Snippet.fill_eq_ok]
  constructor
  · intro filled
    obtain ⟨first, isFirst, rest⟩ := bind_eq_ok.mp filled
    obtain ⟨second, isSecond, made⟩ := bind_eq_ok.mp rest
    cases made
    exact ⟨isFirst, isSecond⟩
  · rintro ⟨isFirst, isSecond⟩
    exact bind_eq_ok.mpr ⟨before, isFirst, bind_eq_ok.mpr ⟨after, isSecond, rfl⟩⟩

theorem fillSnippet_eq_error {snippet : Snippet} {values : List (String × String)} {fault : Snippet.Fault}
    (fits : snippet.Fits) (failed : fillSnippet snippet values = .error fault) :
    ∃ name ∈ Snippet.namesFor snippet.key, fault = .missing name ∧ values.lookup name = none := by
  rcases bind_eq_error.mp failed with inBefore | ⟨_, _, rest⟩
  · exact Snippet.fill_eq_error fits.1 inBefore
  · rcases bind_eq_error.mp rest with inAfter | ⟨_, _, impossible⟩
    · exact Snippet.fill_eq_error fits.2 inAfter
    · cases impossible

-- The halves of the fix are the halves of the snippet with the shown texts in place.
structure Attached (finding : Finding) (snippet : Snippet) (language before after : String) : Prop where
  suggestion : finding.suggestion = some { before, after, language }
  error : finding.suggestionError = ""
  before : Snippet.FilledFrom (shownTexts finding.captures) snippet.before before
  after : Snippet.FilledFrom (shownTexts finding.captures) snippet.after after

-- There is no fix because this captured text is blank.
structure LeftBlank (finding : Finding) (name text : String) : Prop where
  suggestion : finding.suggestion = none
  error : finding.suggestionError =
    "missing capture " ++ Text.quoted name ++ " for template " ++ Text.quoted finding.templateKey
  captured : finding.captures.lookup name = some text
  blank : Text.isBlankText text = true

structure Answers (finding : Finding) (snippet : Snippet) (language : String) : Prop where
  known : ∀ name, .capture name ∈ snippet.allParts → ∃ text, finding.captures.lookup name = some text
  valid : ∀ left, .stray left ∉ snippet.allParts
  outcome : (∃ before after, finding.Attached snippet language before after) ∨ ∃ name text, finding.LeftBlank name text

-- What a finding tells its snippet: the captures of its match are its own, and they have the names of its key.
structure Tells (finding : Finding) : Prop where
  origin : ∀ m, finding.origin = some m → m.captureTexts = finding.captures
  known : finding.templateKey ≠ "" → Known finding.captures (Snippet.namesFor finding.templateKey)

-- The captures that fill the fix: those of the match, or else of the finding.
def capturesFrom (finding : Finding) : Option Match → List (String × String)
  | some m => m.captureTexts
  | none => finding.captures

theorem synthesize_asked {finding : Finding} {origin : Option Match} {tag : String}
    (asked : finding.templateKey ≠ "") : finding.synthesize origin tag =
    match Snippet.find? finding.templateKey (Language.normalize tag) with
    | none => finding.withSuggestion none ("no " ++ Text.quoted finding.templateKey ++ " template for " ++
        (if (Language.normalize tag).isEmpty then "unknown language" else Language.normalize tag))
    | some snippet =>
      match fillSnippet snippet (shownTexts (finding.capturesFrom origin)) with
      | .ok (before, after) =>
        finding.withSuggestion (some { before, after, language := Language.normalize tag }) ""
      | .error fault => finding.withSuggestion none (fault.text finding.templateKey) := by
  unfold synthesize
  rw [if_neg (mt String.isEmpty_iff.mp asked)]
  cases origin <;> rfl

theorem Tells.synthesize_eq {finding : Finding} (tells : finding.Tells) {tag : String} {snippet : Snippet}
    (keyed : finding.templateKey ≠ "") (found : Snippet.find? finding.templateKey (Language.normalize tag) = some snippet) :
    finding.synthesize finding.origin tag =
      match fillSnippet snippet (shownTexts finding.captures) with
      | .ok (before, after) =>
        finding.withSuggestion (some { before, after, language := Language.normalize tag }) ""
      | .error fault => finding.withSuggestion none (fault.text finding.templateKey) := by
  have own : finding.capturesFrom finding.origin = finding.captures := by
    cases origin : finding.origin with
    | none => rfl
    | some m => exact tells.origin m origin
  rw [synthesize_asked keyed, found, own]

theorem Tells.answers {finding : Finding} (tells : finding.Tells) {tag : String} {snippet : Snippet}
    (keyed : finding.templateKey ≠ "") (found : Snippet.find? finding.templateKey (Language.normalize tag) = some snippet) :
    (finding.synthesize finding.origin tag).Answers snippet (Language.normalize tag) := by
  obtain ⟨member, sameKey⟩ := Snippet.find?_eq_some found
  have fits := Snippet.all_fit snippet member
  have known := tells.known keyed
  rw [← sameKey] at known
  have unchanged : (finding.synthesize finding.origin tag).captures = finding.captures := by
    obtain ⟨suggestion, error, same⟩ := finding.synthesize_eq finding.origin tag
    rw [same]
    rfl
  refine ⟨?_, ?_, ?_⟩
  · intro name inParts
    rw [unchanged]
    exact known name (List.contains_iff_mem.mp (Snippet.isCoveredBy_of_fits fits inParts))
  · intro left inParts
    cases Snippet.isCoveredBy_of_fits fits inParts
  · rw [tells.synthesize_eq keyed found]
    cases filled : fillSnippet snippet (shownTexts finding.captures) with
    | ok halves =>
      obtain ⟨before, after⟩ := fillSnippet_eq_ok.mp filled
      exact .inl ⟨_, _, rfl, rfl, before, after⟩
    | error fault =>
      obtain ⟨name, isName, rfl, missing⟩ := fillSnippet_eq_error fits filled
      obtain ⟨text, isKnown⟩ := known name isName
      exact .inr ⟨name, text, rfl, rfl, isKnown, isBlankText_of_not_shown isKnown missing⟩

-- A finding made of matches speaks with the message, the key and the captures of one of them.
structure SpeaksFor (finding : Finding) (registry : Registry) (m : Match) : Prop where
  patternId : finding.patternId = m.ruleId
  captures : finding.captures = m.captureTexts
  origin : finding.origin = some m
  rule : ∃ rule, registry.get? m.ruleId = some rule ∧ finding.templateKey = rule.template ∧
    rule.render m.captureTexts = .ok finding.message

theorem ofCluster_speaksFor {outline : Outline} {registry : Registry} {estimates : List Estimate} {cluster : Cluster}
    {finding : Finding} (made : (ofCluster outline registry cluster).map (annotated estimates) = .ok finding) :
    finding.SpeaksFor registry cluster.lead := by
  cases built : ofCluster outline registry cluster with
  | error fault =>
    rw [built] at made
    cases made
  | ok plain =>
    rw [built] at made
    cases made
    obtain ⟨complexity, same⟩ := annotated_eq estimates plain
    rw [same]
    unfold ofCluster at built
    dsimp only at built
    split at built
    · rename_i rule isRule
      split at built
      · obtain ⟨message, written, made⟩ := bind_eq_ok.mp built
        cases made
        exact ⟨rfl, rfl, rfl, rule, isRule, rfl, mapError_eq_ok.mp written⟩
      · cases built
    · cases built

theorem ofMatches_speaksFor {outline : Outline} {registry : Registry} {estimates : List Estimate} {found : List Match}
    {findings : List Finding} (made : ofMatches outline registry estimates found = .ok findings) :
    ∀ finding ∈ findings, ∃ m ∈ found, finding.SpeaksFor registry m := by
  intro finding member
  obtain ⟨pairs, firsts, rfl, all⟩ := forall₂_pairs (mapM_eq_ok.mp made)
  obtain ⟨pair, isPair, rfl⟩ := List.mem_map.mp member
  have isCluster : pair.1 ∈ clusters found := firsts ▸ List.mem_map_of_mem isPair
  obtain ⟨key, _, _, inside⟩ := mem_clusters isCluster
  exact ⟨pair.1.lead, (inside _ pair.1.lead_mem).1, ofCluster_speaksFor (all pair isPair)⟩

theorem costPattern_template (cost : CostClass) (keyed : (costPattern cost).template ≠ "") :
    (costPattern cost).template = "memoize" := by
  cases cost with
  | exponential => rfl
  | _ => exact absurd rfl keyed

theorem namesFor_memoize : Snippet.namesFor "memoize" = ["function"] := by
  decide

-- The finding of an estimate names its function, which is all that its snippets ask for.
theorem ofEstimate?_tells {outline : Outline} {hints : Hints} {estimate : Estimate} {finding : Finding}
    (made : ofEstimate? outline hints estimate = some finding) : finding.Tells := by
  refine ⟨?_, ?_⟩
  · intro m isOrigin
    rw [ofEstimate?_origin made] at isOrigin
    cases isOrigin
  · unfold ofEstimate? at made
    obtain ⟨severity, isSeverity, written⟩ := Option.bind_eq_some_iff.mp made
    cases written
    intro keyed name asked
    dsimp only at keyed asked ⊢
    rw [costPattern_template _ keyed, namesFor_memoize, List.mem_singleton] at asked
    subst asked
    split
    · exact ⟨estimate.scope, rfl⟩
    · exact ⟨estimate.scope, rfl⟩

end Finding

namespace Catalog

variable {ctx : Context} {budget : Budget} {m : Match}

theorem match_captures (member : m ∈ (evaluate ctx registry budget).found) :
    ∃ rule form, (rule, form) ∈ forms ∧ registry.get? m.ruleId = some rule ∧
      m.captureTexts.map Prod.fst = form.names := by
  obtain ⟨rule, isRule, site, hit, _, reported, rfl⟩ := evaluate_reported member
  obtain ⟨form, isForm⟩ := exists_form isRule
  refine ⟨rule, form, isForm, Registry.get?_eq_some_iff.mpr ⟨isRule, rfl⟩, ?_⟩
  rw [← (forms_kept _ isForm ctx site hit reported).names]
  simp [Match.captureTexts, Rule.toMatch]

-- What the match of a catalog rule tells is enough for its message and for every snippet of its key.
theorem speaksFor_tells {finding : Finding} (member : m ∈ (evaluate ctx registry budget).found)
    (speaks : finding.SpeaksFor registry m) :
    finding.Tells ∧ ∃ rule ∈ rules, rule.id = finding.patternId ∧ rule.MessageFilled finding.captures finding.message := by
  obtain ⟨rule, form, isForm, isRule, names⟩ := match_captures member
  obtain ⟨found, isFound, key, written⟩ := speaks.rule
  obtain rfl : rule = found := Option.some.inj (isRule.symm.trans isFound)
  have known : Known finding.captures form.names := by
    rw [speaks.captures, ← names]
    exact known_keys _
  refine ⟨⟨?_, ?_⟩, ?_⟩
  · intro origin isOrigin
    rw [speaks.origin] at isOrigin
    cases isOrigin
    exact speaks.captures.symm
  · intro _
    rw [key, Snippet.namesFor_template _ isForm]
    exact known
  · obtain ⟨isMember, sameId⟩ := Registry.get?_eq_some_iff.mp isRule
    obtain ⟨message, rendered, filled⟩ := render_filled isForm known
    rw [← speaks.captures, rendered] at written
    cases written
    exact ⟨rule, isMember, sameId.trans speaks.patternId.symm, filled⟩

-- Catalog, messages and snippets agree: every finding of a rule carries the message of the rule with its captures in
-- place, and every snippet for a finding is filled unless a text that it asks for is blank.
theorem findings_answered (ctx : Context) (budget : Budget) (hints : Hints) (settings : Settings)
    (estimates : List Estimate) (tag : String) :
    ∃ findings, aggregate ctx.outline registry hints settings (evaluate ctx registry budget).found estimates =
        .ok findings ∧
      ∀ finding ∈ Finding.synthesizeAll findings tag,
        (finding.origin.isSome = true → ∃ rule ∈ rules, rule.id = finding.patternId ∧
          rule.MessageFilled finding.captures finding.message) ∧
        ∀ snippet, finding.templateKey ≠ "" →
          Snippet.find? finding.templateKey (Language.normalize tag) = some snippet →
          finding.Answers snippet (Language.normalize tag) := by
  have drawn : ∀ rule ∈ registry.rules, rule ∈ rules := fun _ member => member
  obtain ⟨findings, made⟩ := exists_aggregate drawn ctx budget hints settings estimates
  refine ⟨findings, made, ?_⟩
  obtain ⟨fromMatches, ofMatches, rfl⟩ := aggregate_eq_ok.mp made
  have each : ∀ plain ∈ fromMatches ++ estimates.filterMap (Finding.ofEstimate? ctx.outline hints),
      plain.Tells ∧ (plain.origin.isSome = true → ∃ rule ∈ rules, rule.id = plain.patternId ∧
        rule.MessageFilled plain.captures plain.message) := by
    intro plain member
    rcases List.mem_append.mp member with fromMatch | fromEstimate
    · obtain ⟨m, isMatch, speaks⟩ := Finding.ofMatches_speaksFor ofMatches plain fromMatch
      exact (speaksFor_tells isMatch speaks).imp_right fun filled _ => filled
    · obtain ⟨estimate, _, ofEstimate⟩ := List.mem_filterMap.mp fromEstimate
      refine ⟨Finding.ofEstimate?_tells ofEstimate, fun isSome => ?_⟩
      rw [Finding.ofEstimate?_origin ofEstimate] at isSome
      cases isSome
  intro finding member
  obtain ⟨plain, selected, rfl⟩ := List.mem_map.mp member
  obtain ⟨tells, filled⟩ := each plain (Finding.select_subset _ _ selected)
  obtain ⟨suggestion, error, same⟩ := plain.synthesize_eq plain.origin tag
  refine ⟨?_, ?_⟩
  · rw [same]
    exact filled
  · intro snippet keyed found
    rw [same] at keyed found
    exact tells.answers keyed found

end Catalog
end Perflint
