import Mathlib
import Perflint.Proofs.Aggregation

namespace Perflint

theorem Severity.max_le_iff {first second severity : Severity} :
    max first second ≤ severity ↔ first ≤ severity ∧ second ≤ severity := by
  change (if first.level ≤ second.level then second else first).level ≤ severity.level ↔
    first.level ≤ severity.level ∧ second.level ≤ severity.level
  split <;> omega

-- The same settings, with every finding let through.
def Settings.unfiltered (settings : Settings) : Settings :=
  { settings with minSeverity := .low, maxFindings := 0 }

namespace Finding

theorem precedes_iff {a b : Finding} : precedes a b = true ↔
    b.severity.level < a.severity.level ∨ (a.severity.level = b.severity.level ∧
      (a.span.start.lt b.span.start = true ∨ (a.span.start = b.span.start ∧
        (a.span.finish.lt b.span.finish = true ∨ (a.span.finish = b.span.finish ∧ a.patternId ≤ b.patternId))))) := by
  simp only [precedes, Span.before, Span.sameRegion, Bool.or_eq_true, Bool.and_eq_true, beq_iff_eq, decide_eq_true_eq]
  tauto

theorem precedes_trans (a b c : Finding) (first : precedes a b = true) (second : precedes b c = true) :
    precedes a c = true := by
  rw [precedes_iff] at *
  simp only [Position.lt_iff, Position.eq_iff] at *
  rcases first with grave | ⟨grave, start | ⟨start, finish | ⟨finish, pattern⟩⟩⟩ <;>
    rcases second with grave' | ⟨grave', start' | ⟨start', finish' | ⟨finish', pattern'⟩⟩⟩
  case inr.inr.inr.inr.inr.inr =>
    exact .inr ⟨by omega, .inr ⟨by omega, .inr ⟨by omega, String.le_trans pattern pattern'⟩⟩⟩
  all_goals omega

theorem precedes_total (a b : Finding) : (precedes a b || precedes b a) = true := by
  rw [Bool.or_eq_true, precedes_iff, precedes_iff]
  simp only [Position.lt_iff, Position.eq_iff]
  rcases String.le_total a.patternId b.patternId with pattern | pattern <;> simp only [pattern, and_true] <;> omega

theorem level_le_of_precedes {a b : Finding} (order : precedes a b = true) : b.severity.level ≤ a.severity.level := by
  rw [precedes_iff] at order
  omega

-- The findings that are grave enough, and of those no more than the limit.
def limited (settings : Settings) (findings : List Finding) : List Finding :=
  let kept := findings.filter fun finding => settings.minSeverity ≤ finding.severity
  if 0 < settings.maxFindings then kept.take settings.maxFindings else kept

theorem select_unfiltered (settings : Settings) (findings : List Finding) :
    select settings.unfiltered findings = findings.mergeSort precedes := by
  have all : findings.filter (fun finding => settings.unfiltered.minSeverity ≤ finding.severity) = findings := by
    rw [List.filter_eq_self]
    intro finding _
    cases finding.severity <;> rfl
  unfold select
  rw [all]
  rfl

-- The order is that of all findings: to leave some out before it or after it is the same.
theorem select_eq_limited (settings : Settings) (findings : List Finding) :
    select settings findings = limited settings (select settings.unfiltered findings) := by
  rw [select_unfiltered, limited, filter_mergeSort precedes_trans precedes_total, select]
  by_cases none : settings.maxFindings = 0
  · simp [none]
  · simp [none, Nat.pos_of_ne_zero none]

theorem mem_of_mem_limited {settings : Settings} {findings : List Finding} {finding : Finding}
    (member : finding ∈ limited settings findings) : finding ∈ findings ∧ settings.minSeverity ≤ finding.severity := by
  have kept : finding ∈ findings.filter fun finding => settings.minSeverity ≤ finding.severity := by
    unfold limited at member
    dsimp only at member
    split at member
    · exact List.mem_of_mem_take member
    · exact member
  simpa using kept

theorem head?_limited (settings : Settings) (findings : List Finding) :
    (limited settings findings).head? =
      (findings.filter fun finding => settings.minSeverity ≤ finding.severity).head? := by
  unfold limited
  dsimp only
  split
  · rename_i some
    rw [List.head?_take, if_neg (Nat.ne_of_gt some)]
  · rfl

-- However small the limit, it leaves the first finding, which is the gravest: none at a gate is hidden by it.
theorem exists_mem_limited {settings : Settings} {findings : List Finding}
    (sorted : findings.Pairwise fun a b => precedes a b = true) (gate : Severity) :
    (∃ finding ∈ limited settings findings, gate ≤ finding.severity) ↔
      ∃ finding ∈ findings, max gate settings.minSeverity ≤ finding.severity := by
  constructor
  · rintro ⟨finding, member, grave⟩
    obtain ⟨isFinding, enough⟩ := mem_of_mem_limited member
    exact ⟨finding, isFinding, Severity.max_le_iff.mpr ⟨grave, enough⟩⟩
  · rintro ⟨finding, member, both⟩
    obtain ⟨grave, enough⟩ := Severity.max_le_iff.mp both
    have kept : finding ∈ findings.filter fun finding => settings.minSeverity ≤ finding.severity := by
      simp [member, enough]
    have order := sorted.filter fun finding => settings.minSeverity ≤ finding.severity
    have first := head?_limited settings findings
    generalize (findings.filter fun finding => settings.minSeverity ≤ finding.severity) = rest at kept order first
    cases rest with
    | nil => cases kept
    | cons gravest rest =>
      refine ⟨gravest, List.mem_of_mem_head? first, Nat.le_trans grave ?_⟩
      rcases List.mem_cons.mp kept with rfl | later
      · exact Nat.le_refl _
      · exact level_le_of_precedes (List.rel_of_pairwise_cons order later)

end Finding

theorem aggregate_eq_limited (outline : Outline) (registry : Registry) (hints : Hints) (settings : Settings)
    (found : List Match) (estimates : List Estimate) :
    aggregate outline registry hints settings found estimates =
      (aggregate outline registry hints settings.unfiltered found estimates).map (Finding.limited settings) := by
  unfold aggregate
  cases Finding.ofMatches outline registry estimates found with
  | error fault => rfl
  | ok fromMatches => exact congrArg Except.ok (Finding.select_eq_limited settings _)

theorem aggregate_sorted {outline : Outline} {registry : Registry} {hints : Hints} {settings : Settings}
    {found : List Match} {estimates : List Estimate} {findings : List Finding}
    (made : aggregate outline registry hints settings found estimates = .ok findings) :
    findings.Pairwise fun a b => Finding.precedes a b = true := by
  obtain ⟨fromMatches, _, rfl⟩ := aggregate_eq_ok.mp made
  have sorted := List.pairwise_mergeSort Finding.precedes_trans Finding.precedes_total
    ((fromMatches ++ estimates.filterMap (Finding.ofEstimate? outline hints)).filter
      fun finding => settings.minSeverity ≤ finding.severity)
  unfold Finding.select
  dsimp only
  split
  · exact sorted
  · exact sorted.sublist (List.take_sublist _ _)

end Perflint
