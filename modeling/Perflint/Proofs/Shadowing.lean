import Mathlib
import Perflint.Proofs.Revaluing
import Perflint.Proofs.TwinEstimates

namespace Perflint

variable {outline : Outline} {name : String}

namespace Bound

-- What decides how often the loop runs is looked up in the unit under this name, whatever the function calls by it.
def AsksUnit (scope : Scope) (loop : Site) (l : LoopInfo) (name : String) : Prop :=
  l.boundConstant = false ∧
    match l.kind with
    | .forEach => name ∈ l.boundNames ∨ (l.iterable = name ∧ l.iterableRoot = name)
    | .counted => name ∈ l.boundNames
    | .whileDo | .doWhile =>
      l.comparesLiteral = true ∧ name ∈ l.conditionNames ∧ scope.latestBefore? name loop.span.start = none
    | _ => False

variable {scope scope' : Scope} {loop loop' : Site} {l : LoopInfo}

theorem all_isUnitConstant_revalue (outline : Outline) (values : Nat → Values) {names : List String}
    (unnamed : name ∉ names) :
    names.all (outline.revalue name values).isUnitConstant = names.all outline.isUnitConstant := by
  rw [Bool.eq_iff_iff, List.all_eq_true, List.all_eq_true]
  refine forall₂_congr fun other member => ?_
  have differs : other ≠ name := by
    rintro rfl
    exact unnamed member
  rw [Outline.isUnitConstant_eq (outline.unitAssignments_same values differs)]

theorem countsToLiteral_revalue (values : Nat → Values) (span : loop'.span = loop.span)
    (assignments : assignmentsIn loop' = assignmentsIn loop) (isUnit : scope'.isUnit = scope.isUnit)
    (own : ∀ other, List.Forall₂ Site.SaysSame (scope.assignmentsTo other) (scope'.assignmentsTo other))
    (bound : name ∈ l.conditionNames → scope.latestBefore? name loop.span.start ≠ none) :
    countsToLiteral (outline.revalue name values) scope' loop' l = countsToLiteral outline scope loop l := by
  refine countsToLiteral_eq assignments span fun other member => ?_
  by_cases same : other = name
  · -- The scope itself binds the name before the loop, so the unit is not asked.
    subst same
    have found := Scope.latestBefore?_rel (fun _ _ same => same.span) (own other) loop.span.start
    have isBound := bound member
    rw [Outline.lastAssignment?_eq, Outline.lastAssignment?_eq]
    generalize scope.latestBefore? other loop.span.start = first at found isBound
    generalize scope'.latestBefore? other loop.span.start = second at found
    cases found with
    | none => exact absurd rfl isBound
    | some here => exact .some here
  · exact Outline.lastAssignment?_rel (fun _ _ same => same.span) isUnit (own other)
      (outline.unitAssignments_same values same) loop.span.start

theorem isConstant_revalue (values : Nat → Values) (span : loop'.span = loop.span)
    (assignments : assignmentsIn loop' = assignmentsIn loop) (isUnit : scope'.isUnit = scope.isUnit)
    (own : ∀ other, List.Forall₂ Site.SaysSame (scope.assignmentsTo other) (scope'.assignmentsTo other))
    (unasked : ¬AsksUnit scope loop l name) :
    isConstant (outline.revalue name values) scope' loop' l = isConstant outline scope loop l := by
  unfold isConstant
  cases constant : l.boundConstant with
  | true => rfl
  | false =>
    rw [Bool.false_or, Bool.false_or]
    unfold AsksUnit at unasked
    rw [constant, eq_self_iff_true, true_and] at unasked
    cases kind : l.kind with
    | forEach =>
      simp only [kind, not_or, not_and] at unasked ⊢
      rw [all_isUnitConstant_revalue outline values unasked.1]
      by_cases plain : l.iterable = l.iterableRoot
      · have differs : l.iterable ≠ name := fun same => unasked.2 same (plain ▸ same)
        rw [isLiteralCollection_eq (outline.unitAssignments_same values differs)]
      · rw [beq_eq_false_iff_ne.mpr plain, Bool.and_false, Bool.false_and, Bool.false_and]
    | counted =>
      rw [kind] at unasked
      dsimp only
      rw [all_isUnitConstant_revalue outline values unasked]
    | whileDo | doWhile =>
      rw [kind] at unasked
      dsimp only
      cases compares : l.comparesLiteral with
      | false => rfl
      | true =>
        rw [countsToLiteral_revalue values span assignments isUnit own]
        exact fun named none => unasked ⟨compares, named, none⟩
    | comprehension | unknown => rfl

end Bound

theorem Outline.exists_revalued_twin (notFunction : outline.root.isFunction = false) (values : Nat → Values)
    {scope : Scope} (member : scope ∈ outline.functions)
    (unasked : ∀ loop ∈ scope.nodes, ∀ l, loop.node.loop? = some l → ¬Bound.AsksUnit scope loop l name) :
    ∃ scope' ∈ (outline.revalue name values).functions, scope'.id = scope.id ∧
      scope.Twin outline (outline.revalue name values) scope' := by
  obtain ⟨scope', member', sameRoot, sameName, paramCount, depth⟩ := exists_revalued_function notFunction values member
  obtain ⟨owner, held, isFunction, rfl⟩ := mem_functions.mp member
  obtain ⟨owner', held', _, rfl⟩ := mem_functions.mp member'
  have roots : Site.Mirrored outline (outline.revalue name values) owner owner' := by
    refine ⟨held, held', ?_⟩
    rw [show owner'.node = owner.node from sameRoot]
    exact ⟨rfl, rfl, List.forall₂_same.mpr fun child _ => .refl child⟩
  have own : ∀ other, List.Forall₂ Site.SaysSame ((outline.functionScope owner).assignmentsTo other)
      (((outline.revalue name values).functionScope owner').assignmentsTo other) := Scope.assignmentsTo_same roots
  refine ⟨_, member', congrArg Node.id sameRoot, roots, rfl, rfl, sameName, paramCount, depth, fun _ => isFunction,
    ?_, ?_⟩
  · -- Whether a name has a value does not depend on which value it is.
    intro other place
    have ownSpans := (own other).imp fun _ _ same => same.span
    have unitSpans := (outline.unitAssignments_revalue name values other).imp fun _ _ same => same.span
    have found := lastAssignment?_rel (fun _ _ same => same) (Eq.refl false) ownSpans unitSpans place
    exact isSome_of_rel found
  · intro loop loop' l twin inScope isLoop
    have plain : loop.node.isFunction = false := by simpa using (List.mem_filter.mp inScope).2
    exact Bound.isConstant_revalue values (twin.span roots) (Bound.assignmentsIn_twin roots ⟨twin, plain⟩) rfl own
      (unasked loop inScope l isLoop)

-- The value that the unit gives to a name, a parameter's or not, changes the estimate of a function through nothing
-- but a loop that asks the unit for it.
theorem Estimate.ofScope_revalue {outline : Outline} (notFunction : outline.root.isFunction = false) {name : String}
    (values : Nat → Values) {scope : Scope} (member : scope ∈ outline.functions)
    (unasked : ∀ loop ∈ scope.nodes, ∀ l, loop.node.loop? = some l → ¬Bound.AsksUnit scope loop l name) :
    ∃ scope' ∈ (outline.revalue name values).functions, scope'.id = scope.id ∧
      (∀ graph, (ofScope outline graph scope).Agrees (ofScope (outline.revalue name values) graph scope')) ∧
      (ofScope outline (some outline.callGraph) scope).Agrees
        (ofScope (outline.revalue name values) (some (outline.revalue name values).callGraph) scope') := by
  obtain ⟨scope', member', sameId, twins⟩ := Outline.exists_revalued_twin notFunction values member unasked
  refine ⟨scope', member', sameId, fun graph => ofScope_agrees twins ?_, ofScope_agrees twins ?_⟩
  · rw [sameId]
  · rw [sameId]
    exact (outline.callsAlike_revalue name values).cycleNames scope.id

def loopOver (l : LoopInfo) : Node :=
  .mk { id := 3, span := default, grammarType := "", info := .loop l } []

def functionOf (l : LoopInfo) : Node :=
  .mk { id := 2, span := default, grammarType := ""
        info := .function { name := "f", params := ["n", "rows"], paramCount := 2 } }
    [loopOver l]

-- The unit calls ten `n`, the function calls its first parameter so.
def parameterUnit (l : LoopInfo) : Outline :=
  { language := "", source := { bytes := [] }
    root := .mk { id := 0, span := default, grammarType := "", info := .unit }
      [.mk { id := 1, span := default, grammarType := ""
             info := .assignment { targets := ["n"], operator := "=", value := "10", valueKind := .number } } [],
       functionOf l]
    numbered := .refl _ }

def functionPlace (outline : Outline) (l : LoopInfo) : Site :=
  { node := functionOf l, above := [outline.root] }

theorem parameterUnit_held (l : LoopInfo) : (parameterUnit l).Holds (functionPlace (parameterUnit l) l) :=
  ⟨List.mem_cons_of_mem _ List.mem_cons_self, rfl⟩

def anyNumber : Nat → Values :=
  fun _ => { value := "m", kind := .other, names := ["m"], calls := [] }

-- A loop over the other parameter.
theorem Estimate.parameterUnit_unasked :
    let l : LoopInfo := { kind := .forEach, iterable := "rows", iterableRoot := "rows" }
    let outline := parameterUnit l
    let scope := outline.functionScope (functionPlace outline l)
    "n" ∈ scope.params ∧
    ∃ scope' ∈ (outline.revalue "n" anyNumber).functions, scope'.id = scope.id ∧
      (∀ graph, (ofScope outline graph scope).Agrees (ofScope (outline.revalue "n" anyNumber) graph scope')) ∧
      (ofScope outline (some outline.callGraph) scope).Agrees
        (ofScope (outline.revalue "n" anyNumber) (some (outline.revalue "n" anyNumber).callGraph) scope') := by
  intro l outline scope
  have member : scope ∈ outline.functions := Outline.mem_functions.mpr ⟨_, parameterUnit_held l, rfl, rfl⟩
  refine ⟨List.mem_cons_self, ofScope_revalue rfl anyNumber member ?_⟩
  intro loop inScope info isLoop asks
  have only : loop = { node := loopOver l, above := [functionOf l, outline.root] } := List.mem_singleton.mp inScope
  subst only
  cases isLoop
  obtain ⟨_, bound | ⟨same, _⟩⟩ := asks
  · cases bound
  · exact absurd same (by decide)

-- A loop that counts up to the first.
theorem Estimate.parameterUnit_asked :
    let l : LoopInfo := { kind := .forEach, iterable := "range(n)", boundNames := ["n"] }
    let outline := parameterUnit l
    let scope := outline.functionScope (functionPlace outline l)
    let revalued := outline.revalue "n" anyNumber
    let scope' := revalued.functionScope (functionPlace revalued l)
    "n" ∈ scope.params ∧ scope ∈ outline.functions ∧ scope' ∈ revalued.functions ∧
      (ofScope outline none scope).cost = .constant ∧ (ofScope revalued none scope').cost = .linear := by
  intro l outline scope revalued scope'
  have held' : revalued.Holds (functionPlace revalued l) := ⟨List.mem_cons_of_mem _ List.mem_cons_self, rfl⟩
  refine ⟨List.mem_cons_self, ?_, ?_, by decide +kernel, by decide +kernel⟩
  · exact Outline.mem_functions.mpr ⟨_, parameterUnit_held l, rfl, rfl⟩
  · exact Outline.mem_functions.mpr ⟨_, held', rfl, rfl⟩

end Perflint
