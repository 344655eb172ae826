import Mathlib
import Perflint.Proofs.CoherentEstimates

namespace Perflint

namespace CostClass

-- The classes with a logarithm in them.
def HasLog (cost : CostClass) : Prop :=
  cost = .logarithmic ∨ cost = .linearithmic

theorem hasLog_ofDegree_iff {degree : Nat} {log : Bool} : (ofDegree degree log).HasLog ↔ log = true ∧ degree ≤ 1 := by
  rcases degree with _ | _ | _ | degree <;> cases log <;> simp [ofDegree, HasLog]

end CostClass

namespace Estimate

-- What a logarithm that is told comes from, and when the class has it too. `unbounded` are the loops that have been
-- judged to have no bound.
structure LogTold (cost : Cost) (unbounded : List Site) (judgement : Judgement) : Prop where
  told : judgement.logFactor = true ↔ (0 < cost.logs ∧ cost.degree ≤ 1) ∧
    judgement.recursion ≠ .structural ∧ judgement.recursion ≠ .memoized
  classed : judgement.cost.HasLog ↔ judgement.logFactor = true ∧ judgement.recursion = .none ∧ unbounded = []
  unclassed : judgement.logFactor = true → judgement.cost.HasLog ∨ judgement.cost = .indeterminate ∨
    judgement.cost = .exponential

theorem ofLoops_logTold (cost : Cost) (amortized : List Site) : LogTold cost [] (ofLoops cost amortized) := by
  have told : (ofLoops cost amortized).logFactor = true ↔ 0 < cost.logs ∧ cost.degree ≤ 1 := by simp [ofLoops]
  have classed : (ofLoops cost amortized).cost.HasLog ↔ (ofLoops cost amortized).logFactor = true := by
    rw [told, ofLoops, CostClass.hasLog_ofDegree_iff, decide_eq_true_iff]
  exact
    { told := told.trans (and_iff_left ⟨nofun, nofun⟩).symm
      classed := classed.trans (and_iff_left ⟨rfl, rfl⟩).symm
      unclassed := fun isTold => .inl (classed.mpr isTold) }

variable {cost : Cost} {judgement loops : Judgement}

-- The class is overwritten and the logarithm is left standing.
theorem logTold_kept (before : LogTold cost [] loops) (still : loops.recursion = .none)
    (kept : judgement.logFactor = loops.logFactor)
    (other : judgement.recursion = .mutual ∨ judgement.recursion = .branching ∨ judgement.recursion = .linear)
    (unclassed : judgement.cost = .indeterminate ∨ judgement.cost = .exponential) : LogTold cost [] judgement := by
  have loopsTold : loops.logFactor = true ↔ 0 < cost.logs ∧ cost.degree ≤ 1 := by simpa [still] using before.told
  have unlogged : ¬judgement.cost.HasLog := by rcases unclassed with isCost | isCost <;> simp [isCost, CostClass.HasLog]
  refine ⟨?_, iff_of_false unlogged ?_, fun _ => .inr unclassed⟩
  · rw [kept, loopsTold]
    rcases other with isOther | isOther | isOther <;> simp [isOther]
  · rcases other with isOther | isOther | isOther <;> simp [isOther]

-- The logarithm is taken back together with the class.
theorem logTold_dropped (dropped : judgement.logFactor = false) (unlogged : ¬judgement.cost.HasLog)
    (reason : 0 < cost.logs → judgement.recursion = .structural ∨ judgement.recursion = .memoized) :
    LogTold cost [] judgement := by
  refine ⟨iff_of_false (by simp [dropped]) ?_, iff_of_false unlogged (by simp [dropped]), by simp [dropped]⟩
  rintro ⟨⟨logs, _⟩, notStructural, notMemoized⟩
  exact (reason logs).elim notStructural notMemoized

theorem ofSelfCalls_logTold (scope : Scope) (calls : List Site) (before : LogTold cost [] loops)
    (still : loops.recursion = .none) : LogTold cost [] (ofSelfCalls scope cost calls loops) := by
  unfold ofSelfCalls
  cases structuralOver? calls with
  | some collection => exact logTold_dropped rfl nofun fun _ => .inl rfl
  | none =>
    dsimp only
    split_ifs with branches forgets loopsToo
    · exact logTold_kept before still rfl (.inr (.inl rfl)) (.inr rfl)
    · refine logTold_dropped rfl ?_ fun _ => .inr rfl
      rw [CostClass.hasLog_ofDegree_iff]
      exact fun logged => Bool.false_ne_true logged.1
    · exact logTold_kept before still rfl (.inr (.inr rfl)) (.inl rfl)
    · refine logTold_dropped rfl nofun fun logs => absurd ?_ loopsToo
      simp [logs]

theorem withRecursion_logTold (scope : Scope) (graph : Option CallGraph) (before : LogTold cost [] loops)
    (still : loops.recursion = .none) : LogTold cost [] (withRecursion scope graph cost loops) := by
  unfold withRecursion
  dsimp only
  split_ifs
  · exact logTold_kept before still rfl (.inl rfl) (.inl rfl)
  · exact before
  · exact ofSelfCalls_logTold scope _ before still

theorem withUnbounded_logTold (outline : Outline) (unbounded : List Site) (before : LogTold cost [] judgement) :
    LogTold cost unbounded (withUnbounded outline unbounded judgement) := by
  unfold withUnbounded
  split
  · exact before
  · split
    · rename_i exponential
      have isExponential : judgement.cost = .exponential := by simpa using exponential
      refine ⟨before.told, iff_of_false ?_ nofun, before.unclassed⟩
      simp [isExponential, CostClass.HasLog]
    · exact ⟨before.told, iff_of_false nofun nofun, fun _ => .inr (.inl rfl)⟩

-- The class takes its logarithm from the loops and gives it up to recursion and to loops without a bound, and what is
-- told of the logarithm beside it is given up to two kinds of recursion only.
theorem ofScope_logFactor (outline : Outline) (graph : Option CallGraph) (scope : Scope) :
    let estimate := ofScope outline graph scope
    let cost := Cost.ofScope outline scope
    (estimate.logFactor = true ↔
        (0 < cost.logs ∧ cost.degree ≤ 1) ∧ estimate.recursion ≠ .structural ∧ estimate.recursion ≠ .memoized) ∧
      (estimate.cost.HasLog ↔
        estimate.logFactor = true ∧ estimate.recursion = .none ∧ scope.boundedBy outline .unbounded = []) ∧
      (estimate.logFactor = true →
        estimate.cost.HasLog ∨ estimate.cost = .indeterminate ∨ estimate.cost = .exponential) := by
  have loops := ofLoops_logTold (Cost.ofScope outline scope) (scope.boundedBy outline .amortized)
  have judged := withUnbounded_logTold outline (scope.boundedBy outline .unbounded)
    (withRecursion_logTold scope graph loops rfl)
  exact ⟨judged.told, judged.classed, judged.unclassed⟩

-- A loop that halves a number, and after it a loop on a condition that nothing in it changes.
def halvingThenIdle : Outline :=
  { language := "python", source := { bytes := [] }
    root := .mk { id := 0, span := default, grammarType := "module", info := .unit }
      [.mk { id := 1, span := default, grammarType := "while_statement"
             info := .loop { kind := .whileDo, conditionNames := ["n"], comparesLiteral := true } }
        [.mk { id := 2, span := default, grammarType := "augmented_assignment"
               info := .assignment { targets := ["n"], targetRoots := ["n"], operator := "//=", value := "2" } } []],
       .mk { id := 3, span := default, grammarType := "while_statement"
             info := .loop { kind := .whileDo, conditionNames := ["busy"] } } []]
    numbered := .refl _ }

theorem halvingThenIdle_judged (graph : Option CallGraph) :
    (judge halvingThenIdle graph halvingThenIdle.unitScope).logFactor = true ∧
      (judge halvingThenIdle graph halvingThenIdle.unitScope).cost = .indeterminate := by
  unfold judge withRecursion
  cases graph with
  | none => exact ⟨rfl, rfl⟩
  | some graph =>
    dsimp only
    split
    · exact ⟨rfl, rfl⟩
    · exact ⟨rfl, rfl⟩

theorem halvingThenIdle_told :
    let estimate := ofScope halvingThenIdle (some halvingThenIdle.callGraph) halvingThenIdle.unitScope
    estimate.logFactor = true ∧ estimate.cost = .indeterminate ∧ ¬estimate.cost.HasLog := by
  obtain ⟨told, indeterminate⟩ := halvingThenIdle_judged (some halvingThenIdle.callGraph)
  refine ⟨told, indeterminate, fun logged => ?_⟩
  rcases logged with other | other <;> cases indeterminate.symm.trans other

end Estimate
end Perflint
