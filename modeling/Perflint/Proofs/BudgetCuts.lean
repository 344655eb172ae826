import Mathlib
import Perflint.Cost.Estimate
import Perflint.Proofs.RuleRuns

namespace Perflint

-- A list of work is started unit by unit, and the budget is asked before each.
theorem Budget.afford_cons {α : Type} (budget : Budget) (unit : α) (units : List α) :
    budget.afford (unit :: units) =
      match budget.spend? with
      | none => ([], false)
      | some rest => (unit :: (rest.afford units).1, (rest.afford units).2) := by
  cases budget with
  | unlimited => rfl
  | checks left =>
    cases left with
    | zero => rfl
    | succ left => simp [afford, spend?]

namespace Deadline

variable (deadline : Deadline)

-- Asking the budget is asking whether the deadline is over at the next reading of the clock.
theorem spend?_budget (now : Float) (readings : List Float) :
    (deadline.budget (now :: readings)).spend? =
      if deadline.isOver now then none else some (deadline.budget readings) := by
  unfold budget
  rw [List.findIdx?_cons]
  cases deadline.isOver now with
  | true => rfl
  | false => cases readings.findIdx? deadline.isOver <;> rfl

-- The work that is started is what comes before the first reading that is over.
theorem afford_budget {α : Type} (readings : List Float) (units : List α) (enough : units.length ≤ readings.length) :
    (deadline.budget readings).afford units =
      (((units.zip readings).takeWhile fun started => !deadline.isOver started.2).map Prod.fst,
        (readings.take units.length).all (!deadline.isOver ·)) := by
  induction units generalizing readings with
  | nil => cases deadline.budget readings <;> simp [Budget.afford]
  | cons unit units ih =>
    cases readings with
    | nil => cases enough
    | cons now readings =>
      rw [Budget.afford_cons, spend?_budget]
      cases late : deadline.isOver now with
      | true => simp [late]
      | false => simp [late, ih readings (Nat.le_of_succ_le_succ enough)]

end Deadline

namespace Rule

-- The checks that a rule needs: one for itself and one for each node of its kinds.
def demand (all : List Site) (rule : Rule) : Nat :=
  1 + all.countP fun site => rule.targets.contains site.kind

theorem length_sites (rule : Rule) (all : List Site) : rule.demand all = 1 + (rule.sites all).length := by
  rw [demand, (rule.sites_perm all).length_eq, List.countP_eq_length_filter]

end Rule

namespace Evaluation

def demandOf (all : List Site) (rules : List Rule) : Nat :=
  (rules.map (Rule.demand all)).sum

theorem demandOf_cons (all : List Site) (rule : Rule) (rules : List Rule) :
    demandOf all (rule :: rules) = rule.demand all + demandOf all rules :=
  List.sum_cons

theorem demandOf_take_le (all : List Site) (rules : List Rule) {fewer more : Nat} (le : fewer ≤ more) :
    demandOf all (rules.take fewer) ≤ demandOf all (rules.take more) :=
  ((List.take_sublist_take_left le).map _).sum_le_sum fun _ _ => Nat.zero_le _

section Steps

variable (ctx : Context) (all : List Site) {left : Nat} {rule : Rule} (rest : List Rule)

-- A rule that the budget cuts short: the first check goes to the rule, the others to its nodes.
theorem run_short (short : left < rule.demand all) :
    run ctx all (.checks left) (rule :: rest) =
      { failures := failuresOf (((rule.sites all).take (left - 1)).flatMap (rule.judge ctx)), isPartial := true } := by
  rw [rule.length_sites] at short
  cases left with
  | zero => rfl
  | succ left =>
    rw [run]
    dsimp only [Budget.spend?, Budget.afford]
    rw [if_neg (by simp; omega)]
    rfl

theorem run_afforded (enough : rule.demand all ≤ left) :
    run ctx all (.checks left) (rule :: rest) =
      let tail := run ctx all (.checks (left - rule.demand all)) rest
      { found := matchesOf ((rule.sites all).flatMap (rule.judge ctx)) ++ tail.found
        failures := failuresOf ((rule.sites all).flatMap (rule.judge ctx)) ++ tail.failures
        executed := tail.executed + 1, isPartial := tail.isPartial } := by
  rw [rule.length_sites] at *
  cases left with
  | zero => omega
  | succ left =>
    have fits : (rule.sites all).length ≤ left := by omega
    have same : left + 1 - (1 + (rule.sites all).length) = left - (rule.sites all).length := by omega
    rw [run]
    dsimp only [Budget.spend?, Budget.afford, Budget.after]
    rw [if_pos (by simpa using fits), List.take_of_length_le fits, same]

end Steps

-- What a run under a budget gives: all that the first `count` rules say, and the failures of the nodes that the
-- next rule was still asked about.
structure CutAt (ctx : Context) (all : List Site) (left : Nat) (rules : List Rule) (count : Nat)
    (result : Evaluation) : Prop where
  within : count ≤ rules.length
  executed : result.executed = count
  found : result.found = matchesOf (judgements ctx all (rules.take count))
  finished : failuresOf (judgements ctx all (rules.take count)) <+: result.failures
  failures : result.failures <+: failuresOf (judgements ctx all rules)
  isPartial : result.isPartial = true ↔ count < rules.length
  afforded : demandOf all (rules.take count) ≤ left
  exhausted : count < rules.length → left < demandOf all (rules.take (count + 1))

theorem run_cutAt (ctx : Context) (all : List Site) (left : Nat) (rules : List Rule) :
    ∃ count, CutAt ctx all left rules count (run ctx all (.checks left) rules) := by
  induction rules generalizing left with
  | nil => exact ⟨0, by constructor <;> simp [run, judgements, matchesOf, failuresOf, demandOf]⟩
  | cons rule rest ih =>
    by_cases enough : rule.demand all ≤ left
    · obtain ⟨count, cut⟩ := ih (left - rule.demand all)
      refine ⟨count + 1, ?_⟩
      rw [run_afforded ctx all rest enough]
      constructor
      case within => exact Nat.succ_le_succ cut.within
      case executed => exact congrArg Nat.succ cut.executed
      case found => rw [List.take_succ_cons, judgements_cons, matchesOf_append, ← cut.found]
      case finished =>
        rw [List.take_succ_cons, judgements_cons, failuresOf_append]
        exact (List.prefix_append_right_inj _).mpr cut.finished
      case failures =>
        rw [judgements_cons, failuresOf_append]
        exact (List.prefix_append_right_inj _).mpr cut.failures
      case isPartial => exact cut.isPartial.trans Nat.succ_lt_succ_iff.symm
      case afforded =>
        have afforded := cut.afforded
        rw [List.take_succ_cons, demandOf_cons]
        omega
      case exhausted =>
        intro more
        have exhausted := cut.exhausted (Nat.lt_of_succ_lt_succ more)
        rw [List.take_succ_cons, demandOf_cons]
        omega
    · have short : left < rule.demand all := Nat.lt_of_not_le enough
      refine ⟨0, ?_⟩
      rw [run_short ctx all rest short]
      constructor
      case within | afforded => exact Nat.zero_le _
      case executed | found => rfl
      case finished => exact List.nil_prefix
      case failures =>
        rw [judgements_cons, failuresOf_append]
        refine List.IsPrefix.trans ?_ (List.prefix_append _ _)
        exact ((List.take_prefix _ _).flatMap _).filterMap _
      case isPartial => simp
      case exhausted =>
        intro _
        simpa [demandOf] using short

theorem CutAt.isGreatest {ctx : Context} {all : List Site} {left count : Nat} {rules : List Rule} {result : Evaluation}
    (cut : CutAt ctx all left rules count result) :
    IsGreatest {number | number ≤ rules.length ∧ demandOf all (rules.take number) ≤ left} count := by
  refine ⟨⟨cut.within, cut.afforded⟩, ?_⟩
  rintro number ⟨within, afforded⟩
  by_contra more
  have next : count + 1 ≤ number := Nat.lt_of_not_le more
  have exhausted := cut.exhausted (next.trans within)
  have grows := demandOf_take_le all rules next
  omega

theorem length_le_demandOf (all : List Site) (rules : List Rule) : rules.length ≤ demandOf all rules := by
  induction rules with
  | nil => exact Nat.zero_le _
  | cons rule rules ih =>
    rw [demandOf_cons, Rule.demand, List.length_cons]
    omega

-- With fewer checks than rules not all of them are run.
theorem CutAt.isPartial_of_few {ctx : Context} {all : List Site} {left count : Nat} {rules : List Rule}
    {result : Evaluation} (cut : CutAt ctx all left rules count result) (few : left < rules.length) :
    result.isPartial = true := by
  refine cut.isPartial.mpr (Nat.lt_of_le_of_ne cut.within ?_)
  rintro rfl
  have afforded := cut.afforded
  rw [List.take_length] at afforded
  exact absurd (length_le_demandOf all rules) (Nat.not_le.mpr (afforded.trans_lt few))

theorem run_found (ctx : Context) (all : List Site) (budget : Budget) (rules : List Rule) :
    ∃ count, (run ctx all budget rules).found = matchesOf (judgements ctx all (rules.take count)) := by
  cases budget with
  | unlimited => exact ⟨rules.length, by rw [run_unlimited, List.take_length]⟩
  | checks left =>
    obtain ⟨count, cut⟩ := run_cutAt ctx all left rules
    exact ⟨count, cut.found⟩

theorem mem_take_of_earlier {rules : List Rule} {first second : Rule} {count : Nat}
    (ordered : rules.Pairwise fun first second => first.id < second.id) (isFirst : first ∈ rules)
    (taken : second ∈ rules.take count) (earlier : first.id < second.id) : first ∈ rules.take count := by
  rw [← List.take_append_drop count rules] at ordered isFirst
  rcases List.mem_append.mp isFirst with inside | dropped
  · exact inside
  · have later := (List.pairwise_append.mp ordered).2.2 second taken first dropped
    exact absurd later (lt_asymm earlier)

theorem mem_judgements_of_held {ctx : Context} {rules : List Rule} {rule : Rule} {site : Site}
    {judgement : Sum Match Failure} (isRule : rule ∈ rules) (held : ctx.outline.Holds site)
    (isTarget : rule.targets.contains site.kind = true) (judged : judgement ∈ rule.judge ctx site) :
    judgement ∈ judgements ctx ctx.outline.sites rules := by
  refine List.mem_flatMap.mpr ⟨rule, isRule, List.mem_flatMap.mpr ⟨site, ?_, judged⟩⟩
  exact Rule.mem_sites.mpr ⟨Outline.mem_sites.mpr held, isTarget⟩

end Evaluation

-- Under any budget, a rule whose match was found came after everything that the rules before it have found.
theorem mem_found_of_earlier {ctx : Context} {registry : Registry} {budget : Budget} {m other : Match} {rule : Rule}
    {site : Site} (member : m ∈ (evaluate ctx registry budget).found) (isRule : rule ∈ registry.rules)
    (applies : rule.Applies ctx) (earlier : rule.id < m.ruleId) (held : ctx.outline.Holds site)
    (isTarget : rule.targets.contains site.kind = true) (judged : .inl other ∈ rule.judge ctx site) :
    other ∈ (evaluate ctx registry budget).found := by
  obtain ⟨count, found⟩ := Evaluation.run_found ctx ctx.outline.sites budget (ctx.applicable registry)
  have asked : ∀ {m}, m ∈ (evaluate ctx registry budget).found ↔
      .inl m ∈ Evaluation.judgements ctx ctx.outline.sites ((ctx.applicable registry).take count) := by
    intro m
    rw [← Evaluation.mem_matchesOf, ← found]
    exact List.mem_mergeSort
  obtain ⟨later, isLater, _, _, judgedLater⟩ := Evaluation.mem_judgements (asked.mp member)
  rw [Rule.ruleId_of_match judgedLater] at earlier
  have taken := Evaluation.mem_take_of_earlier (ctx.applicable_ordered registry)
    (Context.mem_applicable.mpr ⟨isRule, applies⟩) isLater earlier
  exact asked.mpr (Evaluation.mem_judgements_of_held taken held isTarget judged)

-- Without a budget, all that the rules report is found.
theorem mem_found_unlimited {ctx : Context} {registry : Registry} {m : Match} {rule : Rule} {site : Site}
    (isRule : rule ∈ registry.rules) (applies : rule.Applies ctx) (held : ctx.outline.Holds site)
    (isTarget : rule.targets.contains site.kind = true) (judged : .inl m ∈ rule.judge ctx site) :
    m ∈ (evaluate ctx registry .unlimited).found := by
  rw [evaluate_unlimited]
  refine List.mem_mergeSort.mpr (Evaluation.mem_matchesOf.mpr ?_)
  exact Evaluation.mem_judgements_of_held (Context.mem_applicable.mpr ⟨isRule, applies⟩) held isTarget judged

section Whole

variable (ctx : Context) (registry : Registry) (count : Nat)

-- What the first rules say is found again in what all of them say, by the ids of the rules and in its order.
theorem found_take :
    ((evaluate ctx registry .unlimited).found.filter fun m =>
        (((ctx.applicable registry).take count).map Rule.id).contains m.ruleId) =
      (Evaluation.matchesOf (Evaluation.judgements ctx ctx.outline.sites
        ((ctx.applicable registry).take count))).mergeSort Evaluation.precedes := by
  rw [evaluate_unlimited, filter_mergeSort Evaluation.precedes_trans Evaluation.precedes_total,
    Evaluation.filter_matches ctx ctx.outline.sites fun id =>
      (((ctx.applicable registry).take count).map Rule.id).contains id,
    filter_key_eq Rule.id (List.take_sublist _ _) (ctx.applicable_nodup registry)]

theorem failures_take :
    ((evaluate ctx registry .unlimited).failures.filter fun failure =>
        (((ctx.applicable registry).take count).map Rule.id).contains failure.ruleId) =
      Evaluation.failuresOf (Evaluation.judgements ctx ctx.outline.sites ((ctx.applicable registry).take count)) := by
  rw [evaluate_unlimited,
    Evaluation.filter_failures ctx ctx.outline.sites fun id =>
      (((ctx.applicable registry).take count).map Rule.id).contains id,
    filter_key_eq Rule.id (List.take_sublist _ _) (ctx.applicable_nodup registry)]

end Whole

theorem Outline.estimates_checks (outline : Outline) (graph : CallGraph) (left : Nat) :
    (outline.estimates graph (.checks left)).results = (outline.estimates graph .unlimited).results.take left ∧
      ((outline.estimates graph (.checks left)).isPartial = true ↔ left < outline.scopes.length) ∧
      (outline.estimates graph .unlimited).results.length = outline.scopes.length ∧
      (outline.estimates graph .unlimited).isPartial = false := by
  simp [estimates, Budget.afford, List.map_take]

theorem evaluate_checks (ctx : Context) (registry : Registry) (graph : CallGraph) (left : Nat) :
    ∃ rules : List Rule, (rules.Pairwise fun first second => first.id < second.id) ∧
      (∀ rule, rule ∈ rules ↔ rule ∈ registry.rules ∧ rule.Applies ctx) ∧
      let cut := evaluate ctx registry (.checks left)
      let whole := evaluate ctx registry .unlimited
      IsGreatest {number | number ≤ rules.length ∧
          Evaluation.demandOf ctx.outline.sites (rules.take number) ≤ left} cut.executed ∧
        (cut.found = whole.found.filter fun m => ((rules.take cut.executed).map Rule.id).contains m.ruleId) ∧
        (whole.failures.filter fun failure => ((rules.take cut.executed).map Rule.id).contains failure.ruleId) <+:
          cut.failures ∧
        cut.failures <+: whole.failures ∧ (cut.isPartial = true ↔ cut.executed < rules.length) ∧
        whole.executed = rules.length ∧ whole.isPartial = false ∧
        let someScopes := ctx.outline.estimates graph (.checks left)
        let allScopes := ctx.outline.estimates graph .unlimited
        someScopes.results = allScopes.results.take left ∧
          (someScopes.isPartial = true ↔ left < ctx.outline.scopes.length) ∧
          allScopes.results.length = ctx.outline.scopes.length ∧ allScopes.isPartial = false := by
  refine ⟨ctx.applicable registry, ctx.applicable_ordered registry, fun _ => Context.mem_applicable, ?_⟩
  obtain ⟨count, cut⟩ := Evaluation.run_cutAt ctx ctx.outline.sites left (ctx.applicable registry)
  have executed : (evaluate ctx registry (.checks left)).executed = count := cut.executed
  dsimp only
  rw [executed]
  refine ⟨cut.isGreatest, ?_, ?_, ?_, ?_, ?_, ?_, ctx.outline.estimates_checks graph left⟩
  · rw [found_take, ← cut.found]
    rfl
  · rw [failures_take]
    exact cut.finished
  · rw [evaluate_unlimited]
    exact cut.failures
  · exact cut.isPartial
  · rw [evaluate_unlimited]
  · rw [evaluate_unlimited]

end Perflint
