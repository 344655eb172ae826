import Mathlib
import Perflint.Proofs.ShiftedFindings
import Perflint.Report.Sarif

namespace Perflint

theorem length_repr_mono {fewer more : Nat} (le : fewer ≤ more) : fewer.repr.length ≤ more.repr.length := by
  have below : more < 10 ^ more.repr.length := (Nat.length_repr_le_iff Nat.length_repr_pos).mp (Nat.le_refl _)
  exact (Nat.length_repr_le_iff Nat.length_repr_pos).mpr (Nat.lt_of_le_of_lt le below)

namespace Relined

variable {lines : Nat} {before after rest restAfter : String}

theorem length_le (relined : Relined lines before after) : before.length ≤ after.length := by
  induction relined with
  | text => exact Nat.le_refl _
  | line number => exact length_repr_mono (Nat.le_add_right number lines)
  | append _ _ ihFirst ihSecond =>
    rw [String.length_append, String.length_append]
    omega

theorem eq_of_zero (relined : Relined 0 before after) : after = before := by
  induction relined with
  | text => rfl
  | line number => rfl
  | append _ _ ihFirst ihSecond => rw [ihFirst, ihSecond]

-- No part of a text gets shorter, so what one part gains another cannot lose.
theorem append_eq_iff (first : Relined lines before after) (second : Relined lines rest restAfter) :
    after ++ restAfter = before ++ rest ↔ after = before ∧ restAfter = rest := by
  constructor
  · intro same
    have lengths := congrArg String.length same
    rw [String.length_append, String.length_append] at lengths
    have firstLe := first.length_le
    have secondLe := second.length_le
    have chars := congrArg String.toList same
    rw [String.toList_append, String.toList_append] at chars
    obtain ⟨fronts, backs⟩ := List.append_inj chars (by rw [String.length_toList, String.length_toList]; omega)
    exact ⟨String.toList_inj.mp fronts, String.toList_inj.mp backs⟩
  · rintro ⟨rfl, rfl⟩
    rfl

end Relined

theorem Renumbered.eq_iff {lines : Nat} {before after : String} (renumbered : Renumbered lines before after) :
    after = before ↔ lines = 0 := by
  constructor
  · intro same
    induction renumbered with
    | line number =>
      have numbers : number + lines = number := Nat.repr_inj.mp same
      omega
    | left first second ih => exact ih ((first.relined.append_eq_iff second).mp same).1
    | right first second ih => exact ih ((first.append_eq_iff second.relined).mp same).2
  · rintro rfl
    exact renumbered.relined.eq_of_zero

theorem Renumbered.ite {lines : Nat} (chosen : Prop) [Decidable chosen] {before after before' after' : String}
    (first : chosen → Renumbered lines before after) (second : ¬chosen → Renumbered lines before' after') :
    Renumbered lines (if chosen then before else before') (if chosen then after else after') := by
  split
  · exact first (by assumption)
  · exact second (by assumption)

-- A scope that costs something has a loop that counts.
theorem Cost.loops_ne_nil {outline : Outline} {scope : Scope} (costs : 1 ≤ (ofScope outline scope).degree) :
    (ofScope outline scope).loops ≠ [] := by
  intro none
  have degree : (ofScope outline scope).degree = 0 := ((ofScope_free outline scope).mp none).1
  omega

-- The classes of which findings are made.
def CostClass.IsReported (cost : CostClass) : Prop :=
  cost ∈ [CostClass.exponential, .polynomial, .quadratic, .linearithmic]

instance : DecidablePred CostClass.IsReported :=
  fun cost => inferInstanceAs (Decidable (cost ∈ [CostClass.exponential, .polynomial, .quadratic, .linearithmic]))

theorem CostClass.not_isReported_linear : ¬ CostClass.linear.IsReported := by decide

theorem CostClass.not_isReported_indeterminate : ¬ CostClass.indeterminate.IsReported := by decide

namespace Estimate

theorem linesOf_renumbered (lines : Nat) {sites : List Site} (some : sites ≠ []) :
    Renumbered lines (linesOf sites) (linesOf (sites.map (Site.shift lines))) := by
  cases sites with
  | nil => exact absurd rfl some
  | cons site rest =>
    rw [List.map_cons, linesOf, linesOf, Site.span_shift]
    exact .span lines _

theorem callLines_renumbered (lines : Nat) {calls : List Site} (some : calls ≠ []) :
    Renumbered lines (callLines calls) (callLines (calls.map (Site.shift lines))) := by
  cases calls with
  | nil => exact absurd rfl some
  | cons call rest =>
    have first : Renumbered lines (toString call.span.start.line) (toString (call.shift lines).span.start.line) := by
      rw [Site.span_shift]
      exact .line _
    have others := callLines_relined lines rest
    cases rest with
    | nil => simpa only [callLines, Text.joined, List.map_cons, List.map_nil, String.intercalate_singleton] using first
    | cons second rest =>
      simp only [callLines, Text.joined, List.map_cons, String.intercalate_cons_cons] at others ⊢
      exact .left (.left first (.text _)) others

theorem loopReason_renumbered (lines : Nat) {cost : Cost} (amortized : List Site) (degree : 1 ≤ cost.degree)
    (some : cost.loops ≠ []) :
    Renumbered lines (loopReason cost amortized) (loopReason (cost.shift lines) (amortized.map (Site.shift lines))) := by
  have loops := linesOf_renumbered lines some
  have inner := linesOf_relined lines amortized
  unfold loopReason
  rw [List.isEmpty_map]
  dsimp only [Cost.shift]
  have base := Renumbered.ite (cost.degree ≥ 2) (fun _ => .right (.text "nested loop at lines ") loops) fun flat =>
    .ite ((cost.degree == 1) = true)
      (fun _ => .right (.text ((if cost.logs > 0 then "loop with a halving inner loop" else "loop") ++ " at lines ")) loops)
      fun other => .ite (cost.logs > 0) (fun _ => .right (.text "halving loop at lines ") loops) fun _ =>
        (absurd (beq_iff_eq.mpr (show cost.degree = 1 by omega)) other : Renumbered lines "" "")
  exact .ite _ (fun _ => .left (.left (.left base (.text _)) inner) (.text _)) fun _ => base

-- What becomes further down of the reason of a cost that is reported: only a recursion that remembers its answers
-- quotes no line.
def Judgement.Retold (lines : Nat) (judgement shifted : Judgement) : Prop :=
  judgement.cost.IsReported →
    (judgement.recursion = .memoized ∧ shifted.reason = judgement.reason) ∨
      (judgement.recursion ≠ .memoized ∧ Renumbered lines judgement.reason shifted.reason)

variable {lines : Nat} {outline : Outline} {scope : Scope}

theorem ofLoops_retold (amortized : List Site) :
    (ofLoops (Cost.ofScope outline scope) amortized).Retold lines
      (ofLoops ((Cost.ofScope outline scope).shift lines) (amortized.map (Site.shift lines))) := by
  intro reported
  have degree : 1 ≤ (Cost.ofScope outline scope).degree := by
    by_contra none
    have zero : (Cost.ofScope outline scope).degree = 0 := by omega
    simp only [ofLoops, zero, CostClass.ofDegree] at reported
    split at reported <;> exact absurd reported (by decide)
  have told := loopReason_renumbered lines amortized degree (Cost.loops_ne_nil degree)
  exact .inr ⟨(by decide : Recursion.none ≠ .memoized), told⟩

theorem ofSelfCalls_retold (cost : Cost) {calls : List Site} (some : calls ≠ []) (loops shifted : Judgement) :
    (ofSelfCalls scope cost calls loops).Retold lines
      (ofSelfCalls (scope.shift lines) (cost.shift lines) (calls.map (Site.shift lines)) shifted) := by
  intro reported
  unfold ofSelfCalls at reported ⊢
  rw [structuralOver?_shift, Cost.degree_shift, Cost.logs_shift]
  cases structural : structuralOver? calls with
  | some collection =>
    rw [structural] at reported
    exact absurd reported CostClass.not_isReported_linear
  | none =>
    rw [structural] at reported
    dsimp only at reported ⊢
    rw [branches_shift, Scope.memoEvidence_shift]
    split
    · split
      · exact .inr ⟨(by decide : Recursion.branching ≠ .memoized), .right (.text _) (callLines_renumbered lines some)⟩
      · exact .inl ⟨rfl, rfl⟩
    · next straight =>
      rw [if_neg straight] at reported
      split at reported
      · exact absurd reported CostClass.not_isReported_indeterminate
      · exact absurd reported CostClass.not_isReported_linear

theorem withRecursion_retold (graph : Option CallGraph) (cost : Cost) {loops shifted : Judgement}
    (told : loops.Retold lines shifted) :
    (withRecursion scope graph cost loops).Retold lines
      (withRecursion (scope.shift lines) (graph.map (CallGraph.shift lines)) (cost.shift lines) shifted) := by
  refine withRecursion_related scope graph cost told ?mutuals ?selves
  case mutuals => exact fun _ reported => absurd reported CostClass.not_isReported_indeterminate
  case selves => exact fun calls => ofSelfCalls_retold cost calls loops shifted

theorem withUnbounded_retold (unbounded : List Site) {judgement shifted : Judgement} (same : shifted.cost = judgement.cost)
    (told : judgement.Retold lines shifted) :
    (withUnbounded outline unbounded judgement).Retold lines
      (withUnbounded (outline.shift lines) (unbounded.map (Site.shift lines)) shifted) := by
  cases unbounded with
  | nil => exact told
  | cons first rest =>
    rw [List.map_cons, withUnbounded, withUnbounded, same]
    split
    · exact told
    · exact fun reported => absurd reported CostClass.not_isReported_indeterminate

theorem judge_retold (graph : Option CallGraph) :
    (judge outline graph scope).Retold lines
      (judge (outline.shift lines) (graph.map (CallGraph.shift lines)) (scope.shift lines)) := by
  unfold judge
  dsimp only
  rw [Cost.ofScope_shift, Scope.boundedBy_shift, Scope.boundedBy_shift]
  have same := withRecursion_shiftOf scope graph (Cost.ofScope outline scope)
    (ofLoops_shiftOf lines (Cost.ofScope outline scope) (scope.boundedBy outline .amortized))
  exact withUnbounded_retold _ same.cost (withRecursion_retold graph _ (ofLoops_retold _))

theorem ofScope_reason_eq_iff (graph : Option CallGraph) (reported : (ofScope outline graph scope).cost.IsReported) :
    (ofScope (outline.shift lines) (graph.map (CallGraph.shift lines)) (scope.shift lines)).reason =
        (ofScope outline graph scope).reason ↔
      lines = 0 ∨ (ofScope outline graph scope).recursion = .memoized := by
  rcases @judge_retold lines outline scope graph reported with ⟨memoized, same⟩ | ⟨other, renumbered⟩
  · exact iff_of_true same (.inr memoized)
  · exact renumbered.eq_iff.trans ⟨.inl, fun either => either.resolve_right other⟩

theorem ShiftOf.headline_eq_iff {estimate shifted : Estimate} (same : estimate.ShiftOf lines shifted) :
    shifted.headline = estimate.headline ↔ shifted.reason = estimate.reason := by
  rw [same.headline_eq, Estimate.headline]
  split
  · next silent =>
    have before := String.isEmpty_iff.mp silent
    exact iff_of_true rfl ((same.reason.eq_empty_iff.mpr before).trans before.symm)
  · exact String.append_right_inj _

end Estimate

namespace Finding

variable {lines : Nat} {outline : Outline} {graph : CallGraph} {hints : Hints} {estimate : Estimate} {finding shifted : Finding}

theorem ofEstimate?_isReported (made : ofEstimate? outline hints estimate = some finding) : estimate.cost.IsReported := by
  unfold ofEstimate? at made
  obtain ⟨severity, grave, _⟩ := Option.bind_eq_some_iff.mp made
  unfold costSeverity? at grave
  cases cost : estimate.cost <;> rw [cost] at grave <;> first | decide | cases grave

theorem ofEstimate?_message (made : ofEstimate? outline hints estimate = some finding) :
    finding.message = "`" ++ finding.scope ++ "` is " ++ estimate.headline := by
  unfold ofEstimate? at made
  obtain ⟨severity, _, written⟩ := Option.bind_eq_some_iff.mp made
  cases written
  rfl

theorem fingerprintSource_eq_iff (patternId : shifted.patternId = finding.patternId) (scope : shifted.scope = finding.scope)
    (path : String) :
    Sarif.fingerprintSource shifted path = Sarif.fingerprintSource finding path ↔ shifted.message = finding.message := by
  simp only [Sarif.fingerprintSource, Text.joined, String.intercalate_cons_cons, String.intercalate_singleton, patternId, scope,
    String.append_right_inj, String.append_left_inj]

theorem ofScope_fingerprintSource_eq_iff {scope : Scope} (isScope : scope ∈ outline.scopes)
    (made : ofEstimate? outline hints (Estimate.ofScope outline (some graph) scope) = some finding)
    (moved : ofEstimate? (outline.shift lines) hints
      (Estimate.ofScope (outline.shift lines) (some (graph.shift lines)) (scope.shift lines)) = some shifted) (path : String) :
    Sarif.fingerprintSource shifted path = Sarif.fingerprintSource finding path ↔
      lines = 0 ∨ (Estimate.ofScope outline (some graph) scope).recursion = .memoized := by
  have same := (Moved.ofScope isScope made moved).shiftOf
  have estimated := @Estimate.ofScope_shiftOf lines outline scope (some graph)
  rw [Option.map_some] at estimated
  rw [fingerprintSource_eq_iff same.patternId same.scope, ofEstimate?_message made, ofEstimate?_message moved, same.scope,
    String.append_right_inj, estimated.headline_eq_iff]
  exact Estimate.ofScope_reason_eq_iff (some graph) (ofEstimate?_isReported made)

theorem Moved.fingerprintSource (moved : Moved lines outline graph hints finding shifted) (path : String) :
    (finding.origin.isSome = true ∧ Sarif.fingerprintSource shifted path = Sarif.fingerprintSource finding path) ∨
      ∃ scope ∈ outline.scopes,
        ofEstimate? outline hints (Estimate.ofScope outline (some graph) scope) = some finding ∧
        (Sarif.fingerprintSource shifted path = Sarif.fingerprintSource finding path ↔
          lines = 0 ∨ (Estimate.ofScope outline (some graph) scope).recursion = .memoized) := by
  cases moved with
  | ofMatch told quoted => exact .inl ⟨told, rfl⟩
  | @ofScope _ owner isScope made moved =>
    exact .inr ⟨owner, isScope, made, ofScope_fingerprintSource_eq_iff isScope made moved path⟩

end Finding

-- A finding made of matches keeps its fingerprint. One made of an estimate quotes the lines of its loops or calls, and
-- keeps it only where nothing moves or where the estimate quotes no line.
theorem fingerprintSource_shift (outline : Outline) (language : String) (hints : Hints) (settings : Settings)
    (ruleBudget costBudget : Budget) (lines : Nat) (path : String) :
    let shifted := outline.shift lines
    ∃ findings shiftedFindings,
      aggregate outline Catalog.registry hints settings
        (evaluate (outline.context language hints settings) Catalog.registry ruleBudget).found
        (outline.estimates outline.callGraph costBudget).results = .ok findings ∧
      aggregate shifted Catalog.registry hints settings
        (evaluate (shifted.context language hints settings) Catalog.registry ruleBudget).found
        (shifted.estimates shifted.callGraph costBudget).results = .ok shiftedFindings ∧
      List.Forall₂ (fun finding moved =>
        (finding.origin.isSome = true ∧ Sarif.fingerprintSource moved path = Sarif.fingerprintSource finding path) ∨
          ∃ scope ∈ outline.scopes,
            Finding.ofEstimate? outline hints (Estimate.ofScope outline (some outline.callGraph) scope) = some finding ∧
            (Sarif.fingerprintSource moved path = Sarif.fingerprintSource finding path ↔
              lines = 0 ∨ (Estimate.ofScope outline (some outline.callGraph) scope).recursion = .memoized))
        findings shiftedFindings := by
  intro shifted
  obtain ⟨findings, moved, answered, answeredAgain, related⟩ :=
    outline.findings_moved lines language hints settings ruleBudget costBudget
  exact ⟨findings, moved, answered, answeredAgain, related.imp fun _ _ made => made.fingerprintSource path⟩

theorem nestedLoops_not_memoized :
    (Estimate.ofScope nestedLoopsOutline (some nestedLoopsOutline.callGraph) nestedLoopsOutline.unitScope).recursion ≠
      .memoized := by
  have recursion : (Estimate.judge nestedLoopsOutline none nestedLoopsOutline.unitScope).recursion = .none := by
    decide +kernel
  simp only [Estimate.ofScope, nestedLoops_judge, recursion]
  decide

theorem nestedLoops_refingerprinted :
    ∃ findings moved,
      aggregate nestedLoopsOutline Catalog.registry {} {}
        (evaluate (nestedLoopsOutline.context "python" {} {}) Catalog.registry .unlimited).found
        (nestedLoopsOutline.estimates nestedLoopsOutline.callGraph .unlimited).results = .ok findings ∧
      aggregate (nestedLoopsOutline.shift 1) Catalog.registry {} {}
        (evaluate ((nestedLoopsOutline.shift 1).context "python" {} {}) Catalog.registry .unlimited).found
        ((nestedLoopsOutline.shift 1).estimates (nestedLoopsOutline.shift 1).callGraph .unlimited).results = .ok moved ∧
      ¬ List.Forall₂ (fun finding moved =>
          Sarif.fingerprintSource moved "app.py" = Sarif.fingerprintSource finding "app.py") findings moved := by
  obtain ⟨findings, moved, answered, answeredAgain, related⟩ :=
    nestedLoopsOutline.findings_moved 1 "python" {} {} .unlimited .unlimited
  refine ⟨findings, moved, answered, answeredAgain, fun same => ?_⟩
  have reported : ∃ finding, Finding.ofEstimate? nestedLoopsOutline {} (Estimate.ofScope nestedLoopsOutline
      (some nestedLoopsOutline.callGraph) nestedLoopsOutline.unitScope) = some finding := by
    simp only [Finding.ofEstimate?, Finding.costSeverity?, nestedLoops_estimate]
    exact ⟨_, rfl⟩
  obtain ⟨finding, made⟩ := reported
  have member : finding ∈ findings := by
    obtain ⟨fromMatches, _, rfl⟩ := aggregate_eq_ok.mp answered
    refine (Finding.select_perm rfl rfl _).mem_iff.mpr (List.mem_append_right _ (List.mem_filterMap.mpr ⟨_, ?_, made⟩))
    exact List.mem_map_of_mem List.mem_cons_self
  obtain ⟨pairs, rfl, rfl, each⟩ := forall₂_pairs related
  rw [List.forall₂_map_left_iff, List.forall₂_map_right_iff, List.forall₂_same] at same
  obtain ⟨pair, isPair, rfl⟩ := List.mem_map.mp member
  rcases (each pair isPair).fingerprintSource "app.py" with ⟨told, _⟩ | ⟨scope, isScope, _, kept⟩
  · rw [Finding.ofEstimate?_origin made] at told
    cases told
  · rw [Outline.scopes_eq_unit (by decide +kernel), List.mem_singleton] at isScope
    subst isScope
    exact (kept.mp (same pair isPair)).elim Nat.one_ne_zero nestedLoops_not_memoized

end Perflint
