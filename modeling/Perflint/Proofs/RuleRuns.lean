import Mathlib
import Perflint.Proofs.Evaluation
import Perflint.Proofs.Spans

namespace Perflint

namespace Rule

theorem sortedTargets_nodup (rule : Rule) : rule.sortedTargets.Nodup :=
  (List.mergeSort_perm _ _).nodup_iff.mpr (eraseDups_nodup rule.targets)

theorem mem_sortedTargets {rule : Rule} {kind : Kind} : kind ∈ rule.sortedTargets ↔ kind ∈ rule.targets := by
  rw [sortedTargets, List.mem_mergeSort, List.mem_eraseDups]

-- A rule is asked about every node of its kinds, and about each once.
theorem sites_perm (rule : Rule) (all : List Site) :
    (rule.sites all).Perm (all.filter fun site => rule.targets.contains site.kind) := by
  have covered : ∀ site ∈ all.filter (fun site => rule.targets.contains site.kind), site.kind ∈ rule.sortedTargets := by
    intro site member
    exact mem_sortedTargets.mpr (List.contains_iff_mem.mp (List.mem_filter.mp member).2)
  refine List.Perm.trans (List.Perm.of_eq ?_) (flatMap_filter_perm Site.kind rule.sortedTargets_nodup covered)
  refine List.flatMap_congr fun kind isTarget => ?_
  rw [List.filter_filter]
  refine List.filter_congr fun site _ => ?_
  by_cases same : site.kind = kind
  · have wanted : rule.targets.contains site.kind = true := by
      rw [same, List.contains_iff_mem]
      exact mem_sortedTargets.mp isTarget
    rw [wanted, Bool.and_true]
  · rw [beq_false_of_ne same, Bool.false_and]

theorem mem_sites {rule : Rule} {all : List Site} {site : Site} :
    site ∈ rule.sites all ↔ site ∈ all ∧ rule.targets.contains site.kind = true := by
  rw [(rule.sites_perm all).mem_iff, List.mem_filter]

-- Whatever a rule says carries its id, and a failure carries the node that the rule was asked about.
theorem ruleId_of_match {rule : Rule} {ctx : Context} {site : Site} {m : Match}
    (judged : .inl m ∈ rule.judge ctx site) : m.ruleId = rule.id := by
  obtain ⟨_, _, hit, _, _, rfl⟩ := mem_judge_match.mp judged
  rfl

theorem names_of_failure {rule : Rule} {ctx : Context} {site : Site} {failure : Failure}
    (judged : .inr failure ∈ rule.judge ctx site) : failure.ruleId = rule.id ∧ failure.nodeId = site.id := by
  rcases mem_judge_failure.mp judged with ⟨_, _, rfl⟩ | ⟨_, _, _, _, _, rfl⟩
  · exact ⟨rfl, rfl⟩
  · exact ⟨rfl, rfl⟩

end Rule

namespace Evaluation

theorem precedes_iff {a b : Match} : precedes a b = true ↔
    a.span.start.lt b.span.start = true ∨ (a.span.start = b.span.start ∧
      (a.span.finish.lt b.span.finish = true ∨ (a.span.finish = b.span.finish ∧
        (a.ruleId < b.ruleId ∨ (a.ruleId = b.ruleId ∧ a.nodeId ≤ b.nodeId))))) := by
  simp only [precedes, Span.before, Span.sameRegion, Bool.or_eq_true, Bool.and_eq_true, beq_iff_eq, decide_eq_true_eq]
  tauto

theorem precedes_trans (a b c : Match) (first : precedes a b = true) (second : precedes b c = true) :
    precedes a c = true := by
  rw [precedes_iff] at *
  simp only [Position.lt_iff, Position.eq_iff] at *
  rcases first with start | ⟨start, finish | ⟨finish, rule⟩⟩ <;>
    rcases second with start' | ⟨start', finish' | ⟨finish', rule'⟩⟩
  case inr.inr.inr.inr =>
    refine .inr ⟨by omega, .inr ⟨by omega, ?_⟩⟩
    rcases rule with rule | ⟨rule, node⟩ <;> rcases rule' with rule' | ⟨rule', node'⟩
    · exact .inl (rule.trans rule')
    · exact .inl (rule' ▸ rule)
    · exact .inl (rule ▸ rule')
    · exact .inr ⟨rule.trans rule', node.trans node'⟩
  case inr.inl.inr.inl | inr.inl.inr.inr | inr.inr.inr.inl => exact .inr ⟨by omega, .inl (by omega)⟩
  all_goals exact .inl (by omega)

theorem precedes_total (a b : Match) : (precedes a b || precedes b a) = true := by
  rw [Bool.or_eq_true, precedes_iff, precedes_iff]
  simp only [Position.lt_iff, Position.eq_iff]
  rcases lt_trichotomy a.ruleId b.ruleId with rule | rule | rule
  · simp only [rule, true_or, and_true]
    omega
  · simp only [rule, lt_irrefl, false_or, true_and]
    omega
  · simp only [rule, true_or, and_true]
    omega

section Judged

variable (ctx : Context) (all : List Site)

theorem matchesOf_append (first last : List (Sum Match Failure)) :
    matchesOf (first ++ last) = matchesOf first ++ matchesOf last :=
  List.filterMap_append

theorem failuresOf_append (first last : List (Sum Match Failure)) :
    failuresOf (first ++ last) = failuresOf first ++ failuresOf last :=
  List.filterMap_append

theorem judgements_append (first last : List Rule) :
    judgements ctx all (first ++ last) = judgements ctx all first ++ judgements ctx all last :=
  List.flatMap_append

theorem matchesOf_judgements (rules : List Rule) :
    matchesOf (judgements ctx all rules) =
      rules.flatMap fun rule => matchesOf ((rule.sites all).flatMap (rule.judge ctx)) :=
  List.filterMap_flatMap

theorem failuresOf_judgements (rules : List Rule) :
    failuresOf (judgements ctx all rules) =
      rules.flatMap fun rule => failuresOf ((rule.sites all).flatMap (rule.judge ctx)) :=
  List.filterMap_flatMap

-- To choose by rule among all that was said is to choose among the rules.
theorem filter_matches (chosen : String → Bool) (rules : List Rule) :
    ((matchesOf (judgements ctx all rules)).filter fun m => chosen m.ruleId) =
      matchesOf (judgements ctx all (rules.filter fun rule => chosen rule.id)) := by
  rw [matchesOf_judgements, matchesOf_judgements]
  refine filter_flatMap_key Rule.id Match.ruleId ?_ chosen rules
  intro rule m member
  obtain ⟨site, _, judged⟩ := List.mem_flatMap.mp (mem_matchesOf.mp member)
  exact Rule.ruleId_of_match judged

theorem filter_failures (chosen : String → Bool) (rules : List Rule) :
    ((failuresOf (judgements ctx all rules)).filter fun failure => chosen failure.ruleId) =
      failuresOf (judgements ctx all (rules.filter fun rule => chosen rule.id)) := by
  rw [failuresOf_judgements, failuresOf_judgements]
  refine filter_flatMap_key Rule.id Failure.ruleId ?_ chosen rules
  intro rule failure member
  obtain ⟨site, _, judged⟩ := List.mem_flatMap.mp (mem_failuresOf.mp member)
  exact (Rule.names_of_failure judged).1

theorem run_unlimited (rules : List Rule) :
    run ctx all .unlimited rules =
      { found := matchesOf (judgements ctx all rules), failures := failuresOf (judgements ctx all rules)
        executed := rules.length, isPartial := false } := by
  induction rules with
  | nil => rfl
  | cons rule rules ih =>
    rw [judgements_cons, matchesOf_append, failuresOf_append, run]
    dsimp only [Budget.spend?, Budget.afford, Budget.after]
    rw [if_pos rfl, ih]
    rfl

end Judged

end Evaluation

namespace Registry

theorem mem_sorted {registry : Registry} {rule : Rule} : rule ∈ registry.sorted ↔ rule ∈ registry.rules :=
  List.mem_mergeSort

theorem sorted_ordered (registry : Registry) :
    registry.sorted.Pairwise fun first second => first.id < second.id := by
  have ascending : registry.sorted.Pairwise fun first second => decide (first.id ≤ second.id) = true := by
    refine List.pairwise_mergeSort ?_ ?_ registry.rules
    · intro a b c first second
      exact decide_eq_true (le_trans (of_decide_eq_true first) (of_decide_eq_true second))
    · intro a b
      simpa using le_total a.id b.id
  have distinct : (registry.sorted.map Rule.id).Nodup :=
    ((List.mergeSort_perm registry.rules _).map Rule.id).nodup_iff.mpr registry.distinct
  have apart : registry.sorted.Pairwise fun first second => first.id ≠ second.id := List.pairwise_map.mp distinct
  exact (ascending.and apart).imp fun both => lt_of_le_of_ne (of_decide_eq_true both.1) both.2

end Registry

-- The lists of the settings and the languages of the rule let it be asked here.
def Rule.Applies (rule : Rule) (ctx : Context) : Prop :=
  (ctx.settings.enabledRules = [] ∨ rule.id ∈ ctx.settings.enabledRules) ∧ rule.id ∉ ctx.settings.disabledRules ∧
    (rule.languages = [] ∨ ctx.language ∈ rule.languages)

namespace Context

def applicable (ctx : Context) (registry : Registry) : List Rule :=
  registry.rulesFor ctx.language ctx.settings.enabledRules ctx.settings.disabledRules

theorem admits_iff {ctx : Context} {rule : Rule} :
    Registry.admits ctx.settings.enabledRules ctx.settings.disabledRules ctx.language rule = true ↔
      rule.Applies ctx := by
  simp [Registry.admits, Rule.Applies, Rule.appliesTo, and_assoc]

theorem mem_applicable {ctx : Context} {registry : Registry} {rule : Rule} :
    rule ∈ ctx.applicable registry ↔ rule ∈ registry.rules ∧ rule.Applies ctx := by
  rw [applicable, Registry.rulesFor, List.mem_filter, Registry.mem_sorted, admits_iff]

theorem applicable_ordered (ctx : Context) (registry : Registry) :
    (ctx.applicable registry).Pairwise fun first second => first.id < second.id :=
  registry.sorted_ordered.sublist List.filter_sublist

theorem applicable_nodup (ctx : Context) (registry : Registry) : ((ctx.applicable registry).map Rule.id).Nodup :=
  List.pairwise_map.mpr ((ctx.applicable_ordered registry).imp ne_of_lt)

end Context

theorem evaluate_unlimited (ctx : Context) (registry : Registry) :
    evaluate ctx registry .unlimited =
      { found := (Evaluation.matchesOf (Evaluation.judgements ctx ctx.outline.sites
          (ctx.applicable registry))).mergeSort Evaluation.precedes
        failures := Evaluation.failuresOf (Evaluation.judgements ctx ctx.outline.sites (ctx.applicable registry))
        executed := (ctx.applicable registry).length, isPartial := false } := by
  rw [evaluate, Evaluation.run_unlimited]
  rfl

end Perflint
