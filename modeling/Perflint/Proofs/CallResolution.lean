import Mathlib
import Perflint.Cost.Estimate
import Perflint.Proofs.ScopeNodes

namespace Perflint

section Spreading

variable {next : Nat → List Nat}

theorem spread_nodup {seen : List Nat} (rounds : Nat) (distinct : seen.Nodup) : (spread next rounds seen).Nodup := by
  induction rounds generalizing seen with
  | zero => exact distinct
  | succ rounds ih =>
    rw [spread]
    split
    · exact distinct
    · refine ih (distinct.append (eraseDups_nodup _) ?_)
      intro id old new
      simp [old] at new

theorem subset_spread (rounds : Nat) (seen : List Nat) : seen ⊆ spread next rounds seen := by
  induction rounds generalizing seen with
  | zero => exact List.Subset.refl _
  | succ rounds ih =>
    rw [spread]
    split
    · exact List.Subset.refl _
    · exact List.Subset.trans (List.subset_append_left _ _) (ih _)

theorem spread_sound {rounds : Nat} {seen : List Nat} {id : Nat} (member : id ∈ spread next rounds seen) :
    ∃ start ∈ seen, Relation.ReflTransGen (fun a b => b ∈ next a) start id := by
  induction rounds generalizing seen with
  | zero => exact ⟨id, member, .refl⟩
  | succ rounds ih =>
    rw [spread] at member
    split at member
    · exact ⟨id, member, .refl⟩
    · obtain ⟨start, isStart, path⟩ := ih member
      rcases List.mem_append.mp isStart with old | new
      · exact ⟨start, old, path⟩
      · rw [List.mem_eraseDups] at new
        obtain ⟨before, isBefore, step⟩ := List.mem_flatMap.mp (List.mem_filter.mp new).1
        exact ⟨before, isBefore, .head step path⟩

-- Every round that does not end the search takes at least one more from `all`, so it ends in time.
theorem spread_closed {all seen : List Nat} {rounds : Nat} (closed : ∀ id ∈ all, next id ⊆ all) (inside : seen ⊆ all)
    (distinct : seen.Nodup) (enough : all.length ≤ seen.length + rounds) :
    ∀ id ∈ spread next rounds seen, next id ⊆ spread next rounds seen := by
  induction rounds generalizing seen with
  | zero =>
    have whole : seen.Perm all := (distinct.subperm inside).perm_of_length_le enough
    intro id member other step
    exact whole.mem_iff.mpr (closed id (inside member) step)
  | succ rounds ih =>
    rw [spread]
    generalize fresh : ((seen.flatMap next).filter (!seen.contains ·)).eraseDups = new
    have isNew : ∀ id, id ∈ new ↔ (∃ before ∈ seen, id ∈ next before) ∧ id ∉ seen := by
      intro id
      rw [← fresh, List.mem_eraseDups, List.mem_filter, List.mem_flatMap]
      simp
    split
    · rename_i none
      intro id member other step
      by_contra unseen
      have inNew : other ∈ new := (isNew other).mpr ⟨⟨id, member, step⟩, unseen⟩
      rw [List.isEmpty_iff.mp none] at inNew
      cases inNew
    · rename_i some
      refine ih ?_ ?_ ?_
      · intro id member
        rcases List.mem_append.mp member with old | new
        · exact inside old
        · obtain ⟨⟨before, isBefore, step⟩, _⟩ := (isNew id).mp new
          exact closed before (inside isBefore) step
      · refine distinct.append (fresh ▸ eraseDups_nodup _) ?_
        intro id old new
        exact ((isNew id).mp new).2 old
      · have grows : 0 < new.length := List.length_pos_iff.mpr fun none => some (by rw [none]; rfl)
        rw [List.length_append]
        omega

theorem mem_spread_iff {all : List Nat} {start id : Nat} {rounds : Nat} (closed : ∀ id ∈ all, next id ⊆ all)
    (inside : start ∈ all) (enough : all.length ≤ rounds) :
    id ∈ spread next rounds [start] ↔ Relation.ReflTransGen (fun a b => b ∈ next a) start id := by
  constructor
  · intro member
    obtain ⟨first, isFirst, path⟩ := spread_sound member
    rwa [List.mem_singleton.mp isFirst] at path
  · intro path
    have stays := spread_closed closed (by simpa using inside) (List.nodup_singleton start)
      (Nat.le_add_left_of_le enough)
    induction path with
    | refl => exact subset_spread rounds _ List.mem_cons_self
    | tail _ step ih => exact stays _ ih step

end Spreading

namespace Outline

-- The call can only mean a function of the unit, and it has the name of this one.
def resolves (outline : Outline) (target : Scope) (call : Site) : Bool :=
  match call.node.call? with
  | some c => c.callee == target.name && c.staysInUnit (outline.scopeOf call)
  | none => false

-- The nodes that resolve to a function, each once.
def callsTo (outline : Outline) (target : Scope) : List Site :=
  outline.sites.filter (outline.resolves target)

def callsFromElsewhere (outline : Outline) (target : Scope) : List Site :=
  (outline.callsTo target).filter fun call => (outline.scopeOf call).id != target.id

def ownCalls (outline : Outline) (target : Scope) : List Site :=
  (outline.callsTo target).filter fun call => (outline.scopeOf call).id == target.id

-- The call as the graph keeps it.
def linkTo (outline : Outline) (target : Scope) (call : Site) : Link :=
  { call, caller := outline.scopeOf call, target, inLoop := !call.loops.isEmpty }

variable {outline : Outline} {target : Scope}

theorem mem_callsTo {call : Site} : call ∈ outline.callsTo target ↔
    outline.Holds call ∧ outline.resolves target call = true := by
  rw [callsTo, List.mem_filter, mem_sites]

theorem callsTo_nodup (outline : Outline) (target : Scope) : (outline.callsTo target).Nodup :=
  (List.Nodup.of_map Site.id outline.sites_ids_nodup).filter _

theorem targets_filter (isTarget : target ∈ outline.functions) (c : CallInfo) (caller : Scope) :
    (c.targets caller outline.functions).filter (·.id == target.id) =
      if c.callee == target.name && c.staysInUnit caller then [target] else [] := by
  have one : outline.functions.filter (·.id == target.id) = [target] := by
    have found := filter_key_eq Scope.id (List.singleton_sublist.mpr isTarget) outline.functions_ids_nodup
    simpa only [List.map_cons, List.map_nil, List.contains_cons, List.contains_nil, Bool.or_false] using found
  unfold CallInfo.targets
  cases c.staysInUnit caller with
  | false => simp
  | true =>
    rw [if_pos rfl, List.filter_filter, Bool.and_true]
    simp only [Bool.and_comm (_ == target.id)]
    rw [← List.filter_filter, one, List.filter_cons, List.filter_nil, Bool.beq_comm]

-- The links to a function are its resolving calls, each once.
theorem links_filter (isTarget : target ∈ outline.functions) :
    (outline.callGraph.links.filter fun link => link.target.id == target.id) =
      (outline.callsTo target).map (outline.linkTo target) := by
  have asFlat : (outline.callsTo target).map (outline.linkTo target) =
      (outline.callsTo target).flatMap fun call => [outline.linkTo target call] := List.map_eq_flatMap
  rw [asFlat, callsTo, flatMap_filter]
  unfold callGraph
  dsimp only
  rw [List.filter_flatMap]
  refine List.flatMap_congr fun call _ => ?_
  unfold resolves
  cases call.node.call? with
  | none => rfl
  | some c =>
    dsimp only
    rw [List.filter_map]
    have chosen := targets_filter isTarget c (outline.scopeOf call)
    unfold Function.comp
    dsimp only
    rw [chosen]
    split
    · rfl
    · rfl

theorem countP_links (isTarget : target ∈ outline.functions) (keep : Link → Bool) :
    (outline.callGraph.links.countP fun link => keep link && link.target.id == target.id) =
      (outline.callsTo target).countP fun call => keep (outline.linkTo target call) := by
  have split := @List.countP_filter _ keep (fun link => link.target.id == target.id) outline.callGraph.links
  rw [← split, links_filter isTarget, List.countP_map]
  rfl

theorem fanIn_eq (isTarget : target ∈ outline.functions) :
    outline.callGraph.fanIn target.id = (outline.callsFromElsewhere target).length := by
  rw [CallGraph.fanIn, CallGraph.crossing, List.countP_filter, callsFromElsewhere, ← List.countP_eq_length_filter]
  refine Eq.trans (List.countP_congr fun link _ => ?_)
    (countP_links isTarget fun link => link.caller.id != target.id)
  simp only [Bool.and_eq_true, beq_iff_eq, bne_iff_ne]
  constructor
  · rintro ⟨same, differ⟩
    exact ⟨fun caller => differ (same.trans caller.symm), same⟩
  · rintro ⟨differ, same⟩
    exact ⟨same, fun caller => differ (caller.symm.trans same)⟩

theorem siteCount_eq (isTarget : target ∈ outline.functions) (id : Nat) :
    outline.callGraph.siteCount id target.id = (outline.callsFromElsewhere target).countP fun call =>
      !(outline.scopeOf call).isUnit && (outline.scopeOf call).id == id := by
  rw [CallGraph.siteCount, CallGraph.edges, CallGraph.crossing, List.countP_filter, List.countP_filter,
    callsFromElsewhere, List.countP_filter]
  refine Eq.trans (List.countP_congr fun link _ => ?_) (countP_links isTarget fun link =>
    (!link.caller.isUnit && link.caller.id == id) && link.caller.id != target.id)
  simp only [Bool.and_eq_true, beq_iff_eq, bne_iff_ne, Bool.not_eq_true']
  constructor
  · rintro ⟨⟨⟨caller, same⟩, function⟩, differ⟩
    exact ⟨⟨⟨function, caller⟩, fun own => differ (same.trans own.symm)⟩, same⟩
  · rintro ⟨⟨⟨function, caller⟩, differ⟩, same⟩
    exact ⟨⟨⟨caller, same⟩, function⟩, fun own => differ (own.symm.trans same)⟩

-- A call that one function answers to another is an edge.
theorem siteCount_pos {call : Site} (isTarget : target ∈ outline.functions) (held : outline.Holds call)
    (resolved : outline.resolves target call = true) (inFunction : (outline.scopeOf call).isUnit = false)
    (differ : (outline.scopeOf call).id ≠ target.id) :
    0 < outline.callGraph.siteCount (outline.scopeOf call).id target.id := by
  rw [siteCount_eq isTarget, List.countP_pos_iff]
  refine ⟨call, List.mem_filter.mpr ⟨mem_callsTo.mpr ⟨held, resolved⟩, bne_iff_ne.mpr differ⟩, ?_⟩
  rw [inFunction, beq_self_eq_true]
  rfl

-- Each call from a function goes along the one edge that starts there; calls of the unit go along none.
theorem fanIn_eq_sum (isTarget : target ∈ outline.functions) :
    outline.callGraph.fanIn target.id =
      (outline.functions.map fun caller => outline.callGraph.siteCount caller.id target.id).sum +
        (outline.callsTo target).countP fun call => (outline.scopeOf call).isUnit := by
  have fromUnit : (outline.callsTo target).countP (fun call => (outline.scopeOf call).isUnit) =
      (outline.callsFromElsewhere target).countP fun call => (outline.scopeOf call).isUnit := by
    rw [callsFromElsewhere, List.countP_filter]
    refine List.countP_congr fun call member => ?_
    rw [Bool.and_eq_true]
    refine ⟨fun isUnit => ⟨isUnit, ?_⟩, And.left⟩
    exact bne_iff_ne.mpr (isUnit_scopeOf_ne (mem_callsTo.mp member).1 isTarget isUnit)
  have covered : ∀ call ∈ (outline.callsFromElsewhere target).filter (fun call => !(outline.scopeOf call).isUnit),
      (outline.scopeOf call).id ∈ outline.functions.map Scope.id := by
    intro call member
    obtain ⟨elsewhere, notUnit⟩ := List.mem_filter.mp member
    have held := (mem_callsTo.mp (List.mem_filter.mp elsewhere).1).1
    rcases scopeOf_mem_functions held with isFunction | ⟨isUnit, _⟩
    · exact List.mem_map_of_mem isFunction
    · simp [isUnit, unitScope] at notUnit
  have byCaller := (flatMap_filter_perm (fun call => (outline.scopeOf call).id) outline.functions_ids_nodup
    covered).length_eq
  rw [List.flatMap_map, List.length_flatMap] at byCaller
  have counts : (outline.functions.map fun caller => outline.callGraph.siteCount caller.id target.id).sum =
      ((outline.callsFromElsewhere target).filter fun call => !(outline.scopeOf call).isUnit).length := by
    rw [← byCaller]
    congr 1
    refine List.map_congr_left fun caller _ => ?_
    rw [siteCount_eq isTarget, List.filter_filter, List.countP_eq_length_filter]
    simp only [Bool.and_comm]
  rw [fanIn_eq isTarget, counts, fromUnit, ← List.countP_eq_length_filter, Nat.add_comm]
  simpa using List.length_eq_countP_add_countP fun call => (outline.scopeOf call).isUnit

theorem calledInLoop_iff (isTarget : target ∈ outline.functions) :
    outline.callGraph.calledInLoop target.id = true ↔
      ∃ call ∈ outline.callsFromElsewhere target, call.loops ≠ [] := by
  have asCount : outline.callGraph.calledInLoop target.id = true ↔ 0 < (outline.callGraph.links.countP fun link =>
      (link.inLoop && link.caller.id != target.id) && link.target.id == target.id) := by
    rw [CallGraph.calledInLoop, CallGraph.crossing, List.countP_pos_iff, List.any_eq_true]
    refine exists_congr fun link => ?_
    simp only [List.mem_filter, Bool.and_eq_true, beq_iff_eq, bne_iff_ne]
    constructor
    · rintro ⟨⟨member, differ⟩, same, inLoop⟩
      exact ⟨member, ⟨inLoop, fun own => differ (same.trans own.symm)⟩, same⟩
    · rintro ⟨member, ⟨inLoop, differ⟩, same⟩
      exact ⟨⟨member, fun own => differ (own.symm.trans same)⟩, same, inLoop⟩
  rw [asCount, countP_links isTarget fun link => link.inLoop && link.caller.id != target.id, List.countP_pos_iff]
  refine exists_congr fun call => ?_
  simp [callsFromElsewhere, linkTo, and_assoc, and_comm]

-- What a function says to itself is found by a search of its own.
theorem selfCalls_perm (isTarget : target ∈ outline.functions) :
    target.selfCalls.Perm (outline.ownCalls target) := by
  have isFunction := function_not_unit isTarget
  have held : outline.Holds target.root := by
    obtain ⟨owner, ownerHeld, _, rfl⟩ := mem_functions.mp isTarget
    exact ownerHeld
  rw [Scope.selfCalls, isFunction, if_neg Bool.false_ne_true]
  refine (List.perm_ext_iff_of_nodup ((nodes_nodup held).filter _) ((callsTo_nodup _ _).filter _)).mpr ?_
  intro call
  rw [List.mem_filter, List.mem_filter, mem_nodes isTarget, mem_callsTo, beq_iff_eq]
  unfold resolves
  cases isCall : call.node.call? with
  | none => simp
  | some c =>
    have plain : call.node.isFunction = false := by
      unfold Node.call? at isCall
      unfold Node.isFunction Node.kind
      split at isCall
      · rename_i info
        rw [info]
        rfl
      · rename_i info
        rw [info]
        rfl
      · cases isCall
    constructor
    · rintro ⟨⟨callHeld, _, belongs⟩, named⟩
      exact ⟨⟨callHeld, by rw [belongs]; exact named⟩, by rw [belongs]⟩
    · rintro ⟨⟨callHeld, named⟩, same⟩
      have belongs := (scopeOf_eq_iff callHeld isTarget).mpr same
      rw [belongs] at named
      exact ⟨⟨callHeld, plain, belongs⟩, named⟩

end Outline

namespace CallGraph

-- A way along the edges, from caller to callee.
def Reaches (graph : CallGraph) : Nat → Nat → Prop :=
  Relation.ReflTransGen fun caller target => 0 < graph.siteCount caller target

-- The names of `scope` and of all functions that it reaches and that reach it, in order.
def ListsCycle (graph : CallGraph) (scope : Scope) : Prop :=
  (graph.cycleNames scope.id).Pairwise (· ≤ ·) ∧
    ∃ members : List Scope, members.Nodup ∧ (graph.cycleNames scope.id).Perm (members.map Scope.name) ∧
      ∀ other, other ∈ members ↔ other ∈ graph.functions ∧
        (other = scope ∨ (graph.Reaches scope.id other.id ∧ graph.Reaches other.id scope.id))

theorem mem_successors {graph : CallGraph} {caller target : Nat} :
    target ∈ graph.successors caller ↔ 0 < graph.siteCount caller target := by
  simp only [successors, siteCount, List.countP_pos_iff, List.mem_map, List.mem_filter, Bool.and_eq_true, beq_iff_eq,
    and_assoc]

end CallGraph

namespace Outline

variable {outline : Outline} {target : Scope}

theorem successors_subset (outline : Outline) (id : Nat) :
    outline.callGraph.successors id ⊆ outline.functions.map Scope.id := by
  intro other member
  obtain ⟨link, kept, rfl⟩ := List.mem_map.mp member
  have isLink : link ∈ outline.callGraph.links :=
    (List.mem_filter.mp (List.mem_filter.mp (List.mem_filter.mp kept).1).1).1
  obtain ⟨call, _, made⟩ := List.mem_flatMap.mp isLink
  split at made
  · cases made
  · obtain ⟨target, isTarget, rfl⟩ := List.mem_map.mp made
    refine List.mem_map_of_mem ?_
    unfold CallInfo.targets at isTarget
    split at isTarget
    · exact (List.mem_filter.mp isTarget).1
    · cases isTarget

theorem mem_reachable {id other : Nat} (known : id ∈ outline.functions.map Scope.id) :
    other ∈ outline.callGraph.reachable id ↔ outline.callGraph.Reaches id other := by
  have inTime : (outline.functions.map Scope.id).length ≤ outline.callGraph.functions.length := by
    rw [List.length_map]
    exact Nat.le_refl _
  rw [CallGraph.reachable, mem_spread_iff (fun id _ => outline.successors_subset id) known inTime, CallGraph.Reaches]
  simp only [CallGraph.mem_successors]

theorem reaches_known {id other : Nat} (known : id ∈ outline.functions.map Scope.id)
    (path : outline.callGraph.Reaches id other) : other ∈ outline.functions.map Scope.id := by
  induction path with
  | refl => exact known
  | tail _ step _ => exact outline.successors_subset _ (CallGraph.mem_successors.mpr step)

theorem mem_cycleIds {id other : Nat} (known : id ∈ outline.functions.map Scope.id) :
    other ∈ outline.callGraph.cycleIds id ↔
      outline.callGraph.Reaches id other ∧ outline.callGraph.Reaches other id := by
  rw [CallGraph.cycleIds, List.mem_filter, mem_reachable known, List.contains_iff_mem]
  exact and_congr_right fun path => mem_reachable (reaches_known known path)

theorem cycleIds_nodup (outline : Outline) (id : Nat) : (outline.callGraph.cycleIds id).Nodup :=
  (spread_nodup _ (List.nodup_singleton id)).filter _

theorem inCycle_iff (isTarget : target ∈ outline.functions) :
    outline.callGraph.inCycle target.id = true ↔ ∃ other ∈ outline.functions, other ≠ target ∧
      outline.callGraph.Reaches target.id other.id ∧ outline.callGraph.Reaches other.id target.id := by
  have known : target.id ∈ outline.functions.map Scope.id := List.mem_map_of_mem isTarget
  have itself : target.id ∈ outline.callGraph.cycleIds target.id := (mem_cycleIds known).mpr ⟨.refl, .refl⟩
  rw [CallGraph.inCycle, decide_eq_true_eq]
  constructor
  · intro two
    obtain ⟨id, member, differ⟩ : ∃ id ∈ outline.callGraph.cycleIds target.id, id ≠ target.id := by
      by_contra alone
      have inside : outline.callGraph.cycleIds target.id ⊆ [target.id] := by
        intro id member
        by_contra differ
        exact alone ⟨id, member, fun same => differ (List.mem_singleton.mpr same)⟩
      have few := ((outline.cycleIds_nodup target.id).subperm inside).length_le
      rw [List.length_singleton] at few
      omega
    obtain ⟨there, back⟩ := (mem_cycleIds known).mp member
    obtain ⟨other, isFunction, rfl⟩ := List.mem_map.mp (reaches_known known there)
    exact ⟨other, isFunction, fun same => differ (congrArg Scope.id same), there, back⟩
  · rintro ⟨other, isFunction, differ, there, back⟩
    have member : other.id ∈ outline.callGraph.cycleIds target.id := (mem_cycleIds known).mpr ⟨there, back⟩
    have apart : [target.id, other.id].Nodup := by
      simpa using fun same => differ (function_eq_of_id_eq isFunction isTarget same.symm)
    exact (apart.subperm (by simpa using ⟨itself, member⟩)).length_le

theorem cycle_listed (isTarget : target ∈ outline.functions)
    (inCycle : outline.callGraph.inCycle target.id = true) : outline.callGraph.ListsCycle target := by
  have known : target.id ∈ outline.functions.map Scope.id := List.mem_map_of_mem isTarget
  unfold CallGraph.ListsCycle CallGraph.cycleNames
  rw [if_pos inCycle]
  dsimp only
  refine ⟨?_, outline.functions.filter fun scope => (outline.callGraph.cycleIds target.id).contains scope.id,
    (List.Nodup.of_map Scope.id outline.functions_ids_nodup).filter _, List.mergeSort_perm _ _, ?_⟩
  · refine (List.pairwise_mergeSort ?_ ?_ _).imp of_decide_eq_true
    · intro a b c first second
      exact decide_eq_true (le_trans (of_decide_eq_true first) (of_decide_eq_true second))
    · intro a b
      simpa using le_total a b
  · intro other
    rw [List.mem_filter, List.contains_iff_mem, mem_cycleIds known]
    refine and_congr_right fun isFunction => ⟨.inr, ?_⟩
    rintro (rfl | both)
    · exact ⟨.refl, .refl⟩
    · exact both

end Outline

-- What the graph says of one function is what the resolving calls say.
structure CallGraph.ExactAt (graph : CallGraph) (outline : Outline) (target : Scope) : Prop where
  fanIn : graph.fanIn target.id = (outline.callsFromElsewhere target).length
  alongEdges : graph.fanIn target.id =
    (graph.functions.map fun caller => graph.siteCount caller.id target.id).sum +
      (outline.callsTo target).countP fun call => (outline.scopeOf call).isUnit
  calledInLoop : graph.calledInLoop target.id = true ↔ ∃ call ∈ outline.callsFromElsewhere target, call.loops ≠ []
  selfCalls : target.selfCalls.Perm (outline.ownCalls target)
  countedOnce : (target.selfCalls ++ outline.callsFromElsewhere target).Perm (outline.callsTo target)
  noSelfEdge : graph.siteCount target.id target.id = 0
  inCycle : graph.inCycle target.id = true ↔ ∃ other ∈ graph.functions, other ≠ target ∧
    graph.Reaches target.id other.id ∧ graph.Reaches other.id target.id
  cycle : graph.inCycle target.id = true → graph.ListsCycle target
  noCycle : graph.inCycle target.id = false → graph.cycleNames target.id = []

theorem Outline.callGraph_exact {outline : Outline} {target : Scope} (isTarget : target ∈ outline.functions) :
    outline.callGraph.ExactAt outline target := by
  constructor
  case fanIn => exact fanIn_eq isTarget
  case alongEdges => exact fanIn_eq_sum isTarget
  case calledInLoop => exact calledInLoop_iff isTarget
  case selfCalls => exact selfCalls_perm isTarget
  case countedOnce =>
    refine ((selfCalls_perm isTarget).append_right _).trans ?_
    exact List.filter_append_perm (fun call => (outline.scopeOf call).id == target.id) (outline.callsTo target)
  case noSelfEdge =>
    rw [siteCount_eq isTarget, List.countP_eq_zero]
    intro call member
    have differ := (List.mem_filter.mp member).2
    simp_all
  case inCycle => exact inCycle_iff isTarget
  case cycle => exact cycle_listed isTarget
  case noCycle =>
    intro outside
    rw [CallGraph.cycleNames, outside]
    rfl

-- A unit that holds functions, each of which makes one call.
def callingFunction (id : Nat) (name callee : String) : Node :=
  .mk { id, span := default, grammarType := "function_definition", info := .function { name } }
    [.mk { id := id + 1, span := default, grammarType := "call", info := .call { callee } } []]

def callingUnit (functions : List Node) : Node :=
  .mk { id := 0, span := default, grammarType := "module", info := .unit } functions

-- Two functions that call each other.
def mutualUnit : Outline :=
  { language := "python", source := { bytes := [] }
    root := callingUnit [callingFunction 1 "even" "odd", callingFunction 3 "odd" "even"]
    numbered := List.Perm.refl [0, 1, 2, 3, 4] }

def evenSite : Site :=
  { node := callingFunction 1 "even" "odd", above := [mutualUnit.root] }

def oddSite : Site :=
  { node := callingFunction 3 "odd" "even", above := [mutualUnit.root] }

theorem mutualUnit_exact :
    let even := mutualUnit.functionScope evenSite
    even ∈ mutualUnit.functions ∧ mutualUnit.callGraph.ExactAt mutualUnit even ∧
      mutualUnit.callGraph.ListsCycle even := by
  intro even
  have evenHeld : mutualUnit.Holds evenSite := ⟨List.mem_cons_self, rfl⟩
  have oddHeld : mutualUnit.Holds oddSite := ⟨List.mem_cons_of_mem _ List.mem_cons_self, rfl⟩
  have isEven : even ∈ mutualUnit.functions := Outline.mem_functions.mpr ⟨evenSite, evenHeld, rfl, rfl⟩
  have isOdd : mutualUnit.functionScope oddSite ∈ mutualUnit.functions :=
    Outline.mem_functions.mpr ⟨oddSite, oddHeld, rfl, rfl⟩
  have exact := Outline.callGraph_exact isEven
  have callHeld := Outline.holds_child evenHeld List.mem_cons_self
  have answerHeld := Outline.holds_child oddHeld List.mem_cons_self
  have caller : mutualUnit.scopeOf _ = even := Outline.scopeOf_eq callHeld
  have answerer : mutualUnit.scopeOf _ = mutualUnit.functionScope oddSite := Outline.scopeOf_eq answerHeld
  have there := Outline.siteCount_pos isOdd callHeld (by decide) (by rw [caller]; rfl) (by rw [caller]; decide)
  have back := Outline.siteCount_pos isEven answerHeld (by decide) (by rw [answerer]; rfl) (by rw [answerer]; decide)
  rw [caller] at there
  rw [answerer] at back
  refine ⟨isEven, exact, exact.cycle (exact.inCycle.mpr ⟨_, isOdd, ?_, .single there, .single back⟩)⟩
  intro same
  have sameName := congrArg Scope.name same
  revert sameName
  decide

-- A function that calls nothing of its unit.
def loneUnit : Outline :=
  { language := "python", source := { bytes := [] }
    root := callingUnit [callingFunction 1 "f" "print"]
    numbered := List.Perm.refl [0, 1, 2] }

def loneSite : Site :=
  { node := callingFunction 1 "f" "print", above := [loneUnit.root] }

def loneFunction : Scope :=
  loneUnit.functionScope loneSite

-- Its cycle does not even list the function itself.
theorem loneFunction_unlisted :
    loneFunction ∈ loneUnit.functions ∧ loneUnit.callGraph.cycleNames loneFunction.id = [] ∧
      ¬loneUnit.callGraph.ListsCycle loneFunction := by
  have held : loneUnit.Holds loneSite := ⟨List.mem_cons_self, rfl⟩
  have isFunction : loneFunction ∈ loneUnit.functions := Outline.mem_functions.mpr ⟨loneSite, held, rfl, rfl⟩
  have alone : ∀ other ∈ loneUnit.functions, other = loneFunction := by
    intro other member
    obtain ⟨owner, held, opens, rfl⟩ := Outline.mem_functions.mp member
    have listed := Outline.mem_preorder.mpr held
    simp only [Outline.preorder, loneUnit, callingUnit, callingFunction, Site.walk, Site.walkAll, List.mem_cons,
      List.append_nil, List.not_mem_nil, or_false, Bool.false_and, Bool.false_eq_true, if_false] at listed
    rcases listed with rfl | rfl | rfl
    · cases opens
    · rfl
    · cases opens
  have outside : loneUnit.callGraph.inCycle loneFunction.id = false := by
    rw [Bool.eq_false_iff]
    intro inCycle
    obtain ⟨other, member, differ, _⟩ := (Outline.inCycle_iff isFunction).mp inCycle
    exact differ (alone other member)
  have empty : loneUnit.callGraph.cycleNames loneFunction.id = [] := by
    rw [CallGraph.cycleNames, outside]
    rfl
  refine ⟨isFunction, empty, ?_⟩
  rintro ⟨_, members, _, listed, all⟩
  have itself : loneFunction ∈ members := (all loneFunction).mpr ⟨isFunction, .inl rfl⟩
  rw [empty, List.nil_perm, List.map_eq_nil_iff] at listed
  rw [listed] at itself
  cases itself

end Perflint
