import Mathlib
import Perflint.Proofs.CatalogPlaces
import Perflint.Proofs.Nesting

namespace Perflint

theorem Budget.afford_subset {α : Type} (budget : Budget) (units : List α) : (budget.afford units).1 ⊆ units := by
  cases budget with
  | unlimited => exact List.Subset.refl _
  | checks left => exact List.take_subset _ _

namespace Evaluation

-- Everything that the rules say about the nodes of their kinds.
def judgements (ctx : Context) (all : List Site) (rules : List Rule) : List (Sum Match Failure) :=
  rules.flatMap fun rule => (rule.sites all).flatMap (rule.judge ctx)

theorem mem_matchesOf {m : Match} {judgements : List (Sum Match Failure)} :
    m ∈ matchesOf judgements ↔ Sum.inl m ∈ judgements := by
  simp only [matchesOf, List.mem_filterMap, Sum.getLeft?_eq_some_iff, exists_eq_right]

theorem mem_failuresOf {failure : Failure} {judgements : List (Sum Match Failure)} :
    failure ∈ failuresOf judgements ↔ Sum.inr failure ∈ judgements := by
  simp only [failuresOf, List.mem_filterMap, Sum.getRight?_eq_some_iff, exists_eq_right]

theorem judgements_cons (ctx : Context) (all : List Site) (rule : Rule) (rules : List Rule) :
    judgements ctx all (rule :: rules) = (rule.sites all).flatMap (rule.judge ctx) ++ judgements ctx all rules :=
  List.flatMap_cons

theorem mem_judgements {ctx : Context} {all : List Site} {rules : List Rule} {judgement : Sum Match Failure}
    (member : judgement ∈ judgements ctx all rules) :
    ∃ rule ∈ rules, ∃ site ∈ all, judgement ∈ rule.judge ctx site := by
  obtain ⟨rule, isRule, inside⟩ := List.mem_flatMap.mp member
  obtain ⟨site, isSite, judged⟩ := List.mem_flatMap.mp inside
  obtain ⟨kind, _, filtered⟩ := List.mem_flatMap.mp isSite
  exact ⟨rule, isRule, site, (List.mem_filter.mp filtered).1, judged⟩

theorem run_judged (ctx : Context) (all : List Site) (budget : Budget) (rules : List Rule) :
    (∀ m ∈ (run ctx all budget rules).found, Sum.inl m ∈ judgements ctx all rules) ∧
      ∀ failure ∈ (run ctx all budget rules).failures, Sum.inr failure ∈ judgements ctx all rules := by
  induction rules generalizing budget with
  | nil => simp [run]
  | cons rule rest ih =>
    unfold run
    cases budget.spend? with
    | none => simp
    | some left =>
      dsimp only
      obtain ⟨foundLater, failedLater⟩ := ih (left.after (rule.sites all).length)
      have here : ∀ judgement ∈ (left.afford (rule.sites all)).1.flatMap (rule.judge ctx),
          judgement ∈ judgements ctx all (rule :: rest) := by
        intro judgement member
        obtain ⟨site, afforded, judged⟩ := List.mem_flatMap.mp member
        rw [judgements_cons, List.mem_append]
        exact .inl (List.mem_flatMap.mpr ⟨site, left.afford_subset _ afforded, judged⟩)
      have later : ∀ judgement ∈ judgements ctx all rest, judgement ∈ judgements ctx all (rule :: rest) := by
        intro judgement member
        rw [judgements_cons, List.mem_append]
        exact .inr member
      split
      · refine ⟨?_, ?_⟩
        · intro m member
          rcases List.mem_append.mp member with now | rest
          · exact here _ (mem_matchesOf.mp now)
          · exact later _ (foundLater m rest)
        · intro failure member
          rcases List.mem_append.mp member with now | rest
          · exact here _ (mem_failuresOf.mp now)
          · exact later _ (failedLater failure rest)
      · exact ⟨by simp, fun failure member => here _ (mem_failuresOf.mp member)⟩

end Evaluation

theorem evaluate_judged (ctx : Context) (registry : Registry) (budget : Budget) :
    (∀ m ∈ (evaluate ctx registry budget).found,
      ∃ rule ∈ registry.rules, ∃ site, ctx.outline.Holds site ∧ Sum.inl m ∈ rule.judge ctx site) ∧
    ∀ failure ∈ (evaluate ctx registry budget).failures,
      ∃ rule ∈ registry.rules, ∃ site, ctx.outline.Holds site ∧ Sum.inr failure ∈ rule.judge ctx site := by
  have origin : ∀ judgement ∈ Evaluation.judgements ctx ctx.outline.sites
      (registry.rulesFor ctx.language ctx.settings.enabledRules ctx.settings.disabledRules),
      ∃ rule ∈ registry.rules, ∃ site, ctx.outline.Holds site ∧ judgement ∈ rule.judge ctx site := by
    intro judgement member
    obtain ⟨rule, applies, site, inSites, judged⟩ := Evaluation.mem_judgements member
    exact ⟨rule, List.mem_mergeSort.mp (List.mem_filter.mp applies).1, site, Outline.mem_sites.mp inSites, judged⟩
  obtain ⟨found, failed⟩ := Evaluation.run_judged ctx ctx.outline.sites budget
    (registry.rulesFor ctx.language ctx.settings.enabledRules ctx.settings.disabledRules)
  refine ⟨?_, fun failure member => origin _ (failed failure member)⟩
  intro m member
  exact origin _ (found m (List.mem_mergeSort.mp member))

namespace Rule

variable {rule : Rule} {ctx : Context} {site : Site}

theorem mem_judge_match {m : Match} : Sum.inl m ∈ rule.judge ctx site ↔
    ∃ hits, rule.check ctx site = .ok hits ∧ ∃ hit ∈ hits, ctx.outline.inBounds hit.place.span = true ∧
      rule.toMatch ctx hit = m := by
  unfold judge
  cases rule.check ctx site with
  | error fault => simp
  | ok hits =>
    simp only [List.mem_map, Except.ok.injEq, exists_eq_left', judgeHit]
    refine exists_congr fun hit => and_congr_right fun _ => ?_
    cases inside : ctx.outline.inBounds hit.place.span <;> simp [toMatch, inside]

theorem mem_judge_failure {failure : Failure} : Sum.inr failure ∈ rule.judge ctx site ↔
    (∃ fault, rule.check ctx site = .error fault ∧
      failure = { ruleId := rule.id, nodeId := site.id, error := fault.text }) ∨
    ∃ hits, rule.check ctx site = .ok hits ∧ ∃ hit ∈ hits, ctx.outline.inBounds hit.place.span = false ∧
      failure = { ruleId := rule.id, nodeId := site.id, error := outsideText } := by
  unfold judge
  cases rule.check ctx site with
  | error fault => simp
  | ok hits =>
    simp only [List.mem_map, Except.ok.injEq, exists_eq_left', reduceCtorEq, false_and, exists_false, false_or,
      judgeHit]
    refine exists_congr fun hit => and_congr_right fun _ => ?_
    cases inside : ctx.outline.inBounds hit.place.span <;> simp [toMatch, inside, eq_comm]

theorem holds_place {hit : Hit} {hits : List Hit} (isLocal : rule.Local) (held : ctx.outline.Holds site)
    (found : rule.check ctx site = .ok hits) (member : hit ∈ hits) : ctx.outline.Holds hit.place := by
  rcases List.mem_cons.mp (isLocal.places ctx site hits found hit member) with same | inLoops
  · rw [same]
    exact held
  · exact Outline.holds_loop held inLoops

-- A match of a local rule speaks of a node of the outline and of the scope around it.
theorem judge_match {m : Match} (isLocal : rule.Local) (held : ctx.outline.Holds site)
    (judged : Sum.inl m ∈ rule.judge ctx site) :
    m.ruleId = rule.id ∧ ∃ place, ctx.outline.Holds place ∧ m.span = place.span ∧
      m.scopeId = (ctx.outline.scopeOf place).id := by
  obtain ⟨hits, found, hit, member, _, rfl⟩ := mem_judge_match.mp judged
  exact ⟨rfl, hit.place, holds_place isLocal held found member, rfl, rfl⟩

theorem judge_failure {failure : Failure} (isLocal : rule.Local) (nested : ctx.outline.root.Nested)
    (held : ctx.outline.Holds site) (judged : Sum.inr failure ∈ rule.judge ctx site) :
    failure.error ≠ outsideText := by
  rcases mem_judge_failure.mp judged with ⟨fault, failed, rfl⟩ | ⟨hits, found, hit, member, outside, _⟩
  · exact isLocal.faults ctx site fault failed
  · have inside := Outline.inBounds_of_holds nested (holds_place isLocal held found member)
    exact absurd inside (Bool.eq_false_iff.mp outside)

end Rule

end Perflint
