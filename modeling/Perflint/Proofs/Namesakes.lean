import Mathlib
import Perflint.Proofs.CallResolution
import Perflint.Proofs.CoherentEstimates

namespace Perflint

namespace Outline

variable {outline : Outline} {target other : Scope}

-- Of the functions of the unit, a function calls none by another name than its own.
def CallsOwnNameOnly (outline : Outline) (target : Scope) : Prop :=
  ∀ call, outline.Holds call → outline.scopeOf call = target →
    ∀ other ∈ outline.functions, outline.resolves other call = true → other.name = target.name

theorem callsOwnNameOnly_of_callees
    (callees : ∀ call ∈ outline.preorder, ∀ c ∈ call.node.call?, c.callee = target.name) :
    outline.CallsOwnNameOnly target := by
  intro call held _ other _ resolved
  unfold resolves at resolved
  split at resolved
  · rename_i c isCall
    obtain ⟨named, _⟩ := (Bool.and_eq_true _ _).mp resolved
    exact (beq_iff_eq.mp named).symm.trans (callees call (mem_preorder.mpr held) c isCall)
  · cases resolved

-- Calls go by name: what reaches one function reaches every function of that name.
theorem resolves_of_name_eq {call : Site} (named : other.name = target.name)
    (resolved : outline.resolves other call = true) : outline.resolves target call = true := by
  unfold resolves at resolved ⊢
  rwa [named] at resolved

theorem mem_selfCalls {call : Site} (isTarget : target ∈ outline.functions) :
    call ∈ target.selfCalls ↔
      outline.Holds call ∧ outline.resolves target call = true ∧ outline.scopeOf call = target := by
  rw [(selfCalls_perm isTarget).mem_iff, ownCalls, List.mem_filter, mem_callsTo, beq_iff_eq, and_assoc]
  exact and_congr_right fun held => and_congr_right fun _ => (scopeOf_eq_iff held isTarget).symm

-- An edge comes from a call in the one function that the other answers.
theorem exists_call_of_edge (isTarget : target ∈ outline.functions) {id : Nat}
    (edge : 0 < outline.callGraph.siteCount target.id id) :
    ∃ other ∈ outline.functions, other.id = id ∧ other ≠ target ∧
      ∃ call, outline.Holds call ∧ outline.resolves other call = true ∧ outline.scopeOf call = target := by
  have known := outline.successors_subset target.id (CallGraph.mem_successors.mpr edge)
  obtain ⟨other, isOther, rfl⟩ := List.mem_map.mp known
  rw [siteCount_eq isOther, List.countP_pos_iff] at edge
  obtain ⟨call, elsewhere, fromTarget⟩ := edge
  obtain ⟨isCall, differ⟩ := List.mem_filter.mp elsewhere
  obtain ⟨held, resolved⟩ := mem_callsTo.mp isCall
  obtain ⟨_, same⟩ := (Bool.and_eq_true _ _).mp fromTarget
  have caller := (scopeOf_eq_iff held isTarget).mpr (beq_iff_eq.mp same)
  refine ⟨other, isOther, rfl, ?_, call, held, resolved, caller⟩
  rintro rfl
  rw [caller] at differ
  simp at differ

-- A call to its own name goes to every namesake, so a namesake closes a cycle as soon as it leads back.
theorem inCycle_iff_namesake (isTarget : target ∈ outline.functions) (plain : outline.CallsOwnNameOnly target) :
    outline.callGraph.inCycle target.id = true ↔ target.selfCalls ≠ [] ∧ ∃ other ∈ outline.functions,
      other ≠ target ∧ other.name = target.name ∧ outline.callGraph.Reaches other.id target.id := by
  rw [inCycle_iff isTarget]
  constructor
  · rintro ⟨last, isLast, differ, there, back⟩
    rcases Relation.ReflTransGen.cases_head there with same | ⟨middle, edge, onward⟩
    · exact absurd (function_eq_of_id_eq isLast isTarget same.symm) differ
    · obtain ⟨other, isOther, rfl, apart, call, held, resolved, caller⟩ := exists_call_of_edge isTarget edge
      have named := plain call held caller other isOther resolved
      have own := (mem_selfCalls isTarget).mpr ⟨held, resolves_of_name_eq named resolved, caller⟩
      exact ⟨List.ne_nil_of_mem own, other, isOther, apart, named, onward.trans back⟩
  · rintro ⟨some, other, isOther, differ, named, back⟩
    obtain ⟨call, own⟩ := List.exists_mem_of_ne_nil _ some
    obtain ⟨held, resolved, caller⟩ := (mem_selfCalls isTarget).mp own
    have edge := siteCount_pos isOther held (resolves_of_name_eq named.symm resolved)
      (by rw [caller]; exact function_not_unit isTarget)
      (by rw [caller]; exact fun same => differ (function_eq_of_id_eq isOther isTarget same.symm))
    rw [caller] at edge
    exact ⟨other, isOther, differ, .single edge, back⟩

theorem cycleNames_eq_nil_iff (isTarget : target ∈ outline.functions) :
    outline.callGraph.cycleNames target.id = [] ↔ outline.callGraph.inCycle target.id = false := by
  constructor
  · intro none
    rw [Bool.eq_false_iff]
    intro inCycle
    obtain ⟨_, members, _, listed, all⟩ := cycle_listed isTarget inCycle
    have itself : target ∈ members := (all target).mpr ⟨isTarget, .inl rfl⟩
    rw [none, List.nil_perm, List.map_eq_nil_iff] at listed
    rw [listed] at itself
    cases itself
  · intro outside
    rw [CallGraph.cycleNames, outside, if_neg Bool.false_ne_true]

end Outline

namespace Estimate

theorem ofSelfCalls_ne_mutual (scope : Scope) (cost : Cost) (calls : List Site) (loops : Judgement) :
    (ofSelfCalls scope cost calls loops).recursion ≠ .mutual := by
  unfold ofSelfCalls
  cases structuralOver? calls with
  | some collection => simp
  | none =>
    dsimp only
    split
    · split <;> simp
    · split <;> simp

theorem withRecursion_eq_mutual_iff {scope : Scope} {graph : CallGraph} {cost : Cost} {loops : Judgement}
    (plain : loops.recursion = .none) :
    (withRecursion scope (some graph) cost loops).recursion = .mutual ↔ graph.cycleNames scope.id ≠ [] := by
  unfold withRecursion
  dsimp only
  split_ifs with cyclic still
  · simpa using cyclic
  · rw [plain]
    simpa using cyclic
  · refine iff_of_false (ofSelfCalls_ne_mutual scope cost scope.selfCalls loops) ?_
    simpa using cyclic

theorem ofScope_eq_mutual_iff {outline : Outline} {target : Scope} (isTarget : target ∈ outline.functions) :
    (ofScope outline (some outline.callGraph) target).recursion = .mutual ↔
      outline.callGraph.inCycle target.id = true := by
  change (judge outline (some outline.callGraph) target).recursion = .mutual ↔ _
  unfold judge
  dsimp only
  rw [withUnbounded_recursion, withRecursion_eq_mutual_iff rfl, Ne,
    Outline.cycleNames_eq_nil_iff isTarget, Bool.not_eq_false]

end Estimate

-- Plain self recursion is taken for mutual recursion exactly where a function of the same name leads back.
theorem Outline.self_recursion_mutual_iff {outline : Outline} {target : Scope} (isTarget : target ∈ outline.functions)
    (plain : outline.CallsOwnNameOnly target) :
    (outline.callGraph.inCycle target.id = true ↔ target.selfCalls ≠ [] ∧ ∃ other ∈ outline.functions,
      other ≠ target ∧ other.name = target.name ∧ outline.callGraph.Reaches other.id target.id) ∧
    ((Estimate.ofScope outline (some outline.callGraph) target).recursion = .mutual ↔
      outline.callGraph.inCycle target.id = true) ∧
    ((∀ other ∈ outline.functions, other.name = target.name → other = target) →
      outline.callGraph.inCycle target.id = false ∧
        (Estimate.ofScope outline (some outline.callGraph) target).recursion ≠ .mutual) := by
  refine ⟨inCycle_iff_namesake isTarget plain, Estimate.ofScope_eq_mutual_iff isTarget, ?_⟩
  intro unique
  have outside : outline.callGraph.inCycle target.id = false := by
    rw [Bool.eq_false_iff, Ne, inCycle_iff_namesake isTarget plain]
    rintro ⟨_, other, isOther, differ, named, _⟩
    exact differ (unique other isOther named)
  refine ⟨outside, ?_⟩
  rw [Ne, Estimate.ofScope_eq_mutual_iff isTarget, outside]
  exact Bool.false_ne_true

-- A function that calls itself, and another that calls it.
def recursiveUnit : Outline :=
  { language := "python", source := { bytes := [] }
    root := callingUnit [callingFunction 1 "f" "f", callingFunction 3 "g" "f"]
    numbered := by decide }

def recursiveSite : Site :=
  { node := callingFunction 1 "f" "f", above := [recursiveUnit.root] }

theorem recursiveUnit_not_mutual :
    let f := recursiveUnit.functionScope recursiveSite
    f ∈ recursiveUnit.functions ∧ recursiveUnit.CallsOwnNameOnly f ∧ f.selfCalls ≠ [] ∧
      recursiveUnit.callGraph.inCycle f.id = false ∧
      (Estimate.ofScope recursiveUnit (some recursiveUnit.callGraph) f).recursion ≠ .mutual := by
  intro f
  have held : recursiveUnit.Holds recursiveSite := ⟨List.mem_cons_self, rfl⟩
  have isFunction : f ∈ recursiveUnit.functions := Outline.mem_functions.mpr ⟨recursiveSite, held, rfl, rfl⟩
  have plain : recursiveUnit.CallsOwnNameOnly f := Outline.callsOwnNameOnly_of_callees (by decide)
  have unique : ∀ other ∈ recursiveUnit.functions, other.name = f.name → other = f := by
    intro other isOther named
    obtain ⟨owner, ownerHeld, opens, rfl⟩ := Outline.mem_functions.mp isOther
    have alone : ∀ site ∈ recursiveUnit.preorder, site.node.isFunction = true →
        (recursiveUnit.functionScope site).name = f.name → site.id = recursiveSite.id := by
      decide
    rw [Outline.eq_of_id_eq ownerHeld held (alone owner (Outline.mem_preorder.mpr ownerHeld) opens named)]
  exact ⟨isFunction, plain, nofun, (Outline.self_recursion_mutual_iff isFunction plain).2.2 unique⟩

-- Two functions of one name that each call themselves.
def namesakeUnit : Outline :=
  { language := "java", source := { bytes := [] }
    root := callingUnit [callingFunction 1 "f" "f", callingFunction 3 "f" "f"]
    numbered := by decide }

def firstNamesake : Site :=
  { node := callingFunction 1 "f" "f", above := [namesakeUnit.root] }

def secondNamesake : Site :=
  { node := callingFunction 3 "f" "f", above := [namesakeUnit.root] }

theorem namesakeUnit_mutual :
    let f := namesakeUnit.functionScope firstNamesake
    f ∈ namesakeUnit.functions ∧ namesakeUnit.CallsOwnNameOnly f ∧ namesakeUnit.callGraph.inCycle f.id = true ∧
      (Estimate.ofScope namesakeUnit (some namesakeUnit.callGraph) f).recursion = .mutual := by
  intro f
  have held : namesakeUnit.Holds firstNamesake := ⟨List.mem_cons_self, rfl⟩
  have otherHeld : namesakeUnit.Holds secondNamesake := ⟨List.mem_cons_of_mem _ List.mem_cons_self, rfl⟩
  have isFunction : f ∈ namesakeUnit.functions := Outline.mem_functions.mpr ⟨firstNamesake, held, rfl, rfl⟩
  have isOther : namesakeUnit.functionScope secondNamesake ∈ namesakeUnit.functions :=
    Outline.mem_functions.mpr ⟨secondNamesake, otherHeld, rfl, rfl⟩
  have plain : namesakeUnit.CallsOwnNameOnly f := Outline.callsOwnNameOnly_of_callees (by decide)
  have callHeld := Outline.holds_child otherHeld List.mem_cons_self
  have caller := Outline.scopeOf_eq callHeld
  have back := Outline.siteCount_pos isFunction callHeld (by decide) (by rw [caller]; rfl) (by rw [caller]; decide)
  rw [caller] at back
  have differ : namesakeUnit.functionScope secondNamesake ≠ f := fun same => absurd (congrArg Scope.id same) (by decide)
  have inCycle := (Outline.inCycle_iff_namesake isFunction plain).mpr
    ⟨nofun, _, isOther, differ, rfl, .single back⟩
  exact ⟨isFunction, plain, inCycle, (Estimate.ofScope_eq_mutual_iff isFunction).mpr inCycle⟩

end Perflint
