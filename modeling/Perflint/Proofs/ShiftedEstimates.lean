import Mathlib
import Perflint.Proofs.ShiftedCosts

namespace Perflint

-- The same text up to the line numbers in it, each of which has grown by so many lines.
inductive Relined (lines : Nat) : String → String → Prop where
  | text (text : String) : Relined lines text text
  | line (number : Nat) : Relined lines (toString number) (toString (number + lines))
  | append {before after rest restAfter : String} (first : Relined lines before after) (second : Relined lines rest restAfter) :
      Relined lines (before ++ rest) (after ++ restAfter)

-- The same with at least one line number in the text.
inductive Renumbered (lines : Nat) : String → String → Prop where
  | line (number : Nat) : Renumbered lines (toString number) (toString (number + lines))
  | left {before after rest restAfter : String} (first : Renumbered lines before after)
      (second : Relined lines rest restAfter) : Renumbered lines (before ++ rest) (after ++ restAfter)
  | right {before after rest restAfter : String} (first : Relined lines before after)
      (second : Renumbered lines rest restAfter) : Renumbered lines (before ++ rest) (after ++ restAfter)

namespace Renumbered

variable {lines : Nat} {before after : String}

theorem relined (renumbered : Renumbered lines before after) : Relined lines before after := by
  induction renumbered with
  | line number => exact .line number
  | left _ second ih => exact .append ih second
  | right first _ ih => exact .append first ih

theorem span (lines : Nat) (span : Span) : Renumbered lines span.lines (span.shift lines).lines := by
  have same : ((span.shift lines).start.line == (span.shift lines).finish.line) =
      (span.start.line == span.finish.line) := by
    simp [Position.shift]
  unfold Span.lines
  rw [same]
  split
  · exact .line _
  · exact .left (.left (.line _) (.text _)) (.line _)

end Renumbered

namespace Relined

variable {lines : Nat}

theorem ite (chosen : Prop) [Decidable chosen] {before after before' after' : String}
    (first : Relined lines before after) (second : Relined lines before' after') :
    Relined lines (if chosen then before else before') (if chosen then after else after') := by
  split
  · exact first
  · exact second

theorem joined (separator : String) {texts texts' : List String} (each : List.Forall₂ (Relined lines) texts texts') :
    Relined lines (Text.joined separator texts) (Text.joined separator texts') := by
  induction each with
  | nil => exact .text _
  | cons first rest ih =>
    cases rest with
    | nil =>
      simp only [Text.joined, String.intercalate_singleton]
      exact first
    | cons second others =>
      simp only [Text.joined, String.intercalate_cons_cons] at ih ⊢
      exact .append (.append first (.text separator)) ih

theorem eq_empty_iff {before after : String} (relined : Relined lines before after) : after = "" ↔ before = "" := by
  induction relined with
  | text => exact Iff.rfl
  | line number => simp [Nat.toString_eq_repr, Nat.repr_ne_empty]
  | append first second ihFirst ihSecond => rw [String.append_eq_empty_iff, String.append_eq_empty_iff, ihFirst, ihSecond]

end Relined

namespace Estimate

structure Judgement.ShiftOf (lines : Nat) (judgement shifted : Judgement) : Prop where
  cost : shifted.cost = judgement.cost
  degree : shifted.degree = judgement.degree
  logFactor : shifted.logFactor = judgement.logFactor
  contributors : shifted.contributors = judgement.contributors
  recursion : shifted.recursion = judgement.recursion
  reason : Relined lines judgement.reason shifted.reason

variable (lines : Nat) (outline : Outline) (scope : Scope)

theorem linesOf_relined (sites : List Site) : Relined lines (linesOf sites) (linesOf (sites.map (Site.shift lines))) := by
  cases sites with
  | nil => exact .text ""
  | cons site rest =>
    rw [List.map_cons, linesOf, linesOf, Site.span_shift]
    exact (Renumbered.span lines _).relined

theorem callLines_relined (calls : List Site) : Relined lines (callLines calls) (callLines (calls.map (Site.shift lines))) := by
  refine .joined ", " ?_
  rw [List.map_map, List.forall₂_map_left_iff, List.forall₂_map_right_iff, List.forall₂_same]
  intro call _
  rw [Function.comp_apply, Site.span_shift]
  exact .line _

theorem loopReason_relined (cost : Cost) (amortized : List Site) :
    Relined lines (loopReason cost amortized) (loopReason (cost.shift lines) (amortized.map (Site.shift lines))) := by
  have loops := linesOf_relined lines cost.loops
  have inner := linesOf_relined lines amortized
  unfold loopReason
  rw [List.isEmpty_map]
  dsimp only [Cost.shift]
  have base := Relined.ite (cost.degree ≥ 2) (.append (.text "nested loop at lines ") loops)
    (.ite ((cost.degree == 1) = true)
      (.append (.append (.text (if cost.logs > 0 then "loop with a halving inner loop" else "loop")) (.text " at lines ")) loops)
      (.ite (cost.logs > 0) (.append (.text "halving loop at lines ") loops) (.text "")))
  exact .ite _ (.append (.append (.append base (.text _)) inner) (.text _)) base

theorem ofLoops_shiftOf (cost : Cost) (amortized : List Site) :
    (ofLoops cost amortized).ShiftOf lines (ofLoops (cost.shift lines) (amortized.map (Site.shift lines))) := by
  constructor
  case contributors => simp [ofLoops, Cost.shift]
  case reason => exact loopReason_relined lines cost amortized
  all_goals rfl

variable {lines}

theorem branches_shift (lines : Nat) (calls : List Site) :
    (decide ((calls.map (Site.shift lines)).length ≥ 2) ||
        (calls.map (Site.shift lines)).any fun call => !call.loops.isEmpty) =
      (decide (calls.length ≥ 2) || calls.any fun call => !call.loops.isEmpty) := by
  simp [Function.comp_def]

theorem ofSelfCalls_shiftOf (cost : Cost) (calls : List Site) {loops shifted : Judgement} (same : loops.ShiftOf lines shifted) :
    (ofSelfCalls scope cost calls loops).ShiftOf lines
      (ofSelfCalls (scope.shift lines) (cost.shift lines) (calls.map (Site.shift lines)) shifted) := by
  have contributors : (calls.map (Site.shift lines)).map Site.id = calls.map Site.id := by
    simp
  have quoted := callLines_relined lines calls
  unfold ofSelfCalls
  rw [structuralOver?_shift, contributors, Cost.degree_shift, Cost.logs_shift]
  cases structuralOver? calls with
  | some collection => exact ⟨rfl, rfl, rfl, rfl, rfl, .text _⟩
  | none =>
    dsimp only
    rw [branches_shift, Scope.memoEvidence_shift]
    split
    · split
      · exact ⟨rfl, same.degree, same.logFactor, rfl, rfl, .append (.text _) quoted⟩
      · exact ⟨rfl, rfl, rfl, rfl, rfl, .text _⟩
    · split
      · exact ⟨rfl, same.degree, same.logFactor, rfl, rfl, .append (.append (.text _) quoted) (.text _)⟩
      · exact ⟨rfl, rfl, rfl, rfl, rfl, .append (.text _) quoted⟩

-- A scope recurs in the same way wherever it stands, so a relation need only be shown for each way.
theorem withRecursion_related {R : Judgement → Judgement → Prop} (graph : Option CallGraph) (cost : Cost)
    {loops shifted : Judgement} (same : R loops shifted)
    (mutuals : ∀ names : List String,
      R { loops with cost := .indeterminate, recursion := .mutual, reason := "mutual recursion: " ++ Text.joined ", " names }
        { shifted with cost := .indeterminate, recursion := .mutual
                       reason := "mutual recursion: " ++ Text.joined ", " names })
    (selves : scope.selfCalls ≠ [] → R (ofSelfCalls scope cost scope.selfCalls loops)
      (ofSelfCalls (scope.shift lines) (cost.shift lines) (scope.selfCalls.map (Site.shift lines)) shifted)) :
    R (withRecursion scope graph cost loops)
      (withRecursion (scope.shift lines) (graph.map (CallGraph.shift lines)) (cost.shift lines) shifted) := by
  have recursive : R (if scope.selfCalls.isEmpty then loops else ofSelfCalls scope cost scope.selfCalls loops)
      (if (scope.shift lines).selfCalls.isEmpty then shifted
        else ofSelfCalls (scope.shift lines) (cost.shift lines) (scope.shift lines).selfCalls shifted) := by
    rw [Scope.selfCalls_shift, List.isEmpty_map]
    split
    · exact same
    · next calls => exact selves (mt List.isEmpty_iff.mpr calls)
  cases graph with
  | none => exact recursive
  | some graph =>
    have cycle : (graph.shift lines).cycleNames (scope.shift lines).id = graph.cycleNames scope.id := by simp
    unfold withRecursion
    dsimp only [Option.map_some]
    rw [cycle]
    split
    · exact mutuals _
    · exact recursive

theorem withRecursion_shiftOf (graph : Option CallGraph) (cost : Cost) {loops shifted : Judgement}
    (same : loops.ShiftOf lines shifted) :
    (withRecursion scope graph cost loops).ShiftOf lines
      (withRecursion (scope.shift lines) (graph.map (CallGraph.shift lines)) (cost.shift lines) shifted) := by
  refine withRecursion_related scope graph cost same ?mutuals ?selves
  case mutuals => exact fun _ => ⟨rfl, same.degree, same.logFactor, same.contributors, rfl, .text _⟩
  case selves => exact fun _ => ofSelfCalls_shiftOf scope cost scope.selfCalls same

theorem withUnbounded_shiftOf (unbounded : List Site) {judgement shifted : Judgement} (same : judgement.ShiftOf lines shifted) :
    (withUnbounded outline unbounded judgement).ShiftOf lines
      (withUnbounded (outline.shift lines) (unbounded.map (Site.shift lines)) shifted) := by
  cases unbounded with
  | nil => exact same
  | cons first rest =>
    rw [List.map_cons, withUnbounded, withUnbounded, same.cost, Site.node_shift, Outline.loopLabel_shift, Site.span_shift]
    split
    · exact same
    · refine ⟨rfl, same.degree, same.logFactor, ?_, same.recursion, ?_⟩
      · simp
      · exact .append (.append (.append (.append (.text _) (Renumbered.span lines _).relined) (.text _)) (.text _)) (.text _)

theorem judge_shiftOf (graph : Option CallGraph) :
    (judge outline graph scope).ShiftOf lines
      (judge (outline.shift lines) (graph.map (CallGraph.shift lines)) (scope.shift lines)) := by
  unfold judge
  dsimp only
  rw [Cost.ofScope_shift, Scope.boundedBy_shift, Scope.boundedBy_shift]
  exact withUnbounded_shiftOf outline _ (withRecursion_shiftOf scope graph _ (ofLoops_shiftOf lines _ _))

-- The same estimate of a scope that stands so many lines further down.
structure ShiftOf (lines : Nat) (estimate shifted : Estimate) : Prop where
  scopeId : shifted.scopeId = estimate.scopeId
  scope : shifted.scope = estimate.scope
  span : shifted.span = estimate.span.shift lines
  cost : shifted.cost = estimate.cost
  degree : shifted.degree = estimate.degree
  logFactor : shifted.logFactor = estimate.logFactor
  contributors : shifted.contributors = estimate.contributors
  recursion : shifted.recursion = estimate.recursion
  testability : shifted.testability = estimate.testability
  reason : Relined lines estimate.reason shifted.reason

theorem ShiftOf.headline_eq {estimate shifted : Estimate} (same : estimate.ShiftOf lines shifted) :
    shifted.headline =
      if estimate.reason.isEmpty then estimate.written else estimate.written ++ " — " ++ shifted.reason := by
  have empty : shifted.reason.isEmpty = estimate.reason.isEmpty := by
    rw [Bool.eq_iff_iff, String.isEmpty_iff, String.isEmpty_iff, same.reason.eq_empty_iff]
  have written : shifted.written = estimate.written := by
    rw [Estimate.written, same.cost, same.degree]
    rfl
  rw [Estimate.headline, empty, written]

theorem ShiftOf.headline {estimate shifted : Estimate} (same : estimate.ShiftOf lines shifted) :
    Relined lines estimate.headline shifted.headline := by
  rw [same.headline_eq, Estimate.headline]
  exact .ite _ (.text _) (.append (.text _) same.reason)

theorem ofScope_shiftOf (graph : Option CallGraph) :
    (ofScope outline graph scope).ShiftOf lines
      (ofScope (outline.shift lines) (graph.map (CallGraph.shift lines)) (scope.shift lines)) := by
  obtain ⟨cost, degree, logFactor, contributors, recursion, reason⟩ := @judge_shiftOf lines outline scope graph
  have tested : testabilityOf (scope.shift lines) = testabilityOf scope := by
    funext cost
    simp [testabilityOf, List.countP_map, Function.comp_def]
  constructor
  case scopeId => exact scope.id_shift lines
  case scope => rfl
  case span => exact scope.span_shift lines
  case cost => exact cost
  case degree => simp only [ofScope, cost, degree]
  case logFactor => exact logFactor
  case contributors => exact contributors
  case recursion => exact recursion
  case testability => simp only [ofScope, cost, tested]
  case reason => exact reason

end Estimate

theorem Outline.estimates_shiftOf (lines : Nat) (outline : Outline) (graph : CallGraph) (budget : Budget) :
    List.Forall₂ (Estimate.ShiftOf lines) (outline.estimates graph budget).results
        ((outline.shift lines).estimates (graph.shift lines) budget).results ∧
      ((outline.shift lines).estimates (graph.shift lines) budget).isPartial = (outline.estimates graph budget).isPartial := by
  unfold Outline.estimates
  rw [Outline.scopes_shift, Budget.afford_map]
  obtain ⟨scopes, complete⟩ := budget.afford outline.scopes
  refine ⟨?_, rfl⟩
  dsimp only
  rw [List.map_map, List.forall₂_map_left_iff, List.forall₂_map_right_iff, List.forall₂_same]
  intro scope _
  exact Estimate.ofScope_shiftOf outline scope (some graph)

end Perflint
