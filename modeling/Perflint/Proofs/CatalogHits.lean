import Mathlib
import Perflint.Proofs.HintOrder

namespace Perflint

-- Every match is made from a hit that a rule of the registry reports on a node of the outline.
theorem evaluate_reported {ctx : Context} {registry : Registry} {budget : Budget} {m : Match}
    (member : m ∈ (evaluate ctx registry budget).found) :
    ∃ rule ∈ registry.rules, ∃ site hit,
      ctx.outline.Holds site ∧ rule.Reports ctx site hit ∧ rule.toMatch ctx hit = m := by
  obtain ⟨rule, isRule, site, held, judged⟩ := (evaluate_judged ctx registry budget).1 m member
  obtain ⟨hits, done, hit, isHit, _, made⟩ := Rule.mem_judge_match.mp judged
  exact ⟨rule, isRule, site, hit, held, ⟨hits, done, isHit⟩, made⟩

-- What the hits of one rule have in common.
structure HitForm where
  -- The names of the captures, in order.
  names : List String
  -- The lists of modifiers that a hit may carry.
  modifiers : List (List String) := [[]]
  -- Only nodes in the per-iteration part of a loop are hit.
  inLoop : Bool := true
  deriving DecidableEq

structure Hit.Fits (hit : Hit) (form : HitForm) (site : Site) : Prop where
  names : hit.captures.map Prod.fst = form.names
  modifiers : hit.modifiers ∈ form.modifiers
  loops : form.inLoop = true → site.loops ≠ []

namespace Rule

def Keeps (rule : Rule) (form : HitForm) : Prop :=
  ∀ ctx site hit, rule.Reports ctx site hit → hit.Fits form site

theorem keeps_of_atMostOnce {rule : Rule} {form : HitForm} {find : Context → Site → Option Hit}
    (check : rule.check = atMostOnce find) (each : ∀ ctx site hit, find ctx site = some hit → hit.Fits form site) :
    rule.Keeps form :=
  fun ctx site hit reported => each ctx site hit ((reports_iff check).mp reported)

end Rule

namespace Catalog

theorem loops_of_head? {site loop : Site} (nearest : site.loops.head? = some loop) : site.loops ≠ [] := by
  rintro none
  rw [none] at nearest
  cases nearest

theorem loops_of_mem {site loop : Site} (member : loop ∈ site.loops) : site.loops ≠ [] :=
  List.ne_nil_of_mem member

def forms : List (Rule × HitForm) :=
  [(nPlusOneQuery,
    { names := ["call", "callee", "source_call", "loop_var", "collection"]
      modifiers := [[], ["large_input"], ["weak_origin", "large_input"]] }),
   (ioInLoop, { names := ["call", "loop_var", "collection"] }),
   (collectionScanInLoop,
    { names := ["call", "collection", "item", "loop_var"], modifiers := [[], ["large_input"]] }),
   (collectionCopyInLoop, { names := ["target", "value", "loop_var", "collection"] }),
   (frontInsertInLoop, { names := ["call", "collection", "item"] }),
   (manualMapAppend, { names := ["target", "item", "var", "collection"], inLoop := false }),
   (nestedLoopJoin, { names := ["outer", "inner", "outer_var", "inner_var", "condition"] }),
   (sortInLoop, { names := ["call", "target", "loop_var", "collection"] }),
   (stringConcatInLoop, { names := ["target", "piece", "loop_var", "collection"] }),
   (regexInLoop,
    { names := ["call", "pattern", "loop_var", "collection"], modifiers := [[], ["match_call"]] }),
   (deepCloneInHotPath, { names := ["call", "value"], modifiers := [[], ["hot_scope"]], inLoop := false }),
   (jsonDeepClone, { names := ["call", "value"], inLoop := false }),
   (unboundedGrowth, { names := ["collection", "item"], modifiers := [[], ["large_input"]], inLoop := false }),
   (chainedMapFilter, { names := ["collection", "first", "second", "first_fn", "second_fn"], inLoop := false }),
   (dataframeRowIteration, { names := ["frame"], inLoop := false }),
   (sleepInLoop, { names := ["call", "loop_kind", "duration"] }),
   (awaitInLoop, { names := ["call", "loop_var", "collection"] })]

theorem forms_rules : forms.map Prod.fst = rules := rfl

theorem exists_form {rule : Rule} (member : rule ∈ rules) : ∃ form, (rule, form) ∈ forms := by
  rw [← forms_rules] at member
  obtain ⟨entry, isEntry, rfl⟩ := List.mem_map.mp member
  exact ⟨entry.2, isEntry⟩

variable {ctx : Context} {site : Site} {hit : Hit}

theorem mem_modifiers_of_hint {hinted : Bool} {modifier : String} :
    (if hinted then [modifier] else []) ∈ ([[], [modifier]] : List (List String)) := by
  cases hinted <;> simp

theorem originModifiers?_mem {strength : FetchStrength} {large : Bool} {modifiers : List String}
    (chosen : originModifiers? strength large = some modifiers) :
    modifiers ∈ ([[], ["large_input"], ["weak_origin", "large_input"]] : List (List String)) := by
  revert chosen
  cases strength <;> cases large <;> rintro ⟨⟩ <;> decide

theorem nPlusOneQuery_keeps : nPlusOneQuery.Keeps
    { names := ["call", "callee", "source_call", "loop_var", "collection"]
      modifiers := [[], ["large_input"], ["weak_origin", "large_input"]] } := by
  refine Rule.keeps_of_atMostOnce rfl fun ctx call hit found => ?_
  unfold findQueryPerElement at found
  split at found
  · obtain ⟨loop, isLoop, shown⟩ := List.exists_of_findSome?_eq_some found
    simp only [queryPerElement?, Option.bind_eq_bind, Option.bind_eq_some_iff] at shown
    obtain ⟨_, _, ⟨strength, origin⟩, _, _, _, modifiers, chosen, ⟨⟩⟩ := shown
    exact ⟨rfl, originModifiers?_mem chosen, fun _ => loops_of_mem isLoop⟩
  · cases found

theorem ioInLoop_keeps : ioInLoop.Keeps { names := ["call", "loop_var", "collection"] } := by
  refine Rule.keeps_of_atMostOnce rfl fun ctx call hit found => ?_
  simp only [findIoInLoop, Option.bind_eq_bind, Option.bind_eq_some_iff] at found
  obtain ⟨_, _, loop, isLoop, ⟨⟩⟩ := found
  exact ⟨rfl, List.mem_cons_self, fun _ => loops_of_mem (List.mem_of_find?_eq_some isLoop)⟩

theorem collectionScanInLoop_keeps : collectionScanInLoop.Keeps
    { names := ["call", "collection", "item", "loop_var"], modifiers := [[], ["large_input"]] } := by
  refine Rule.keeps_of_atMostOnce rfl fun ctx op hit found => ?_
  simp only [findScan, Option.bind_eq_bind, Option.bind_eq_some_iff] at found
  obtain ⟨c, _, _, _, _, _, loop, nearest, _, _, _, _, _, _, ⟨⟩⟩ := found
  exact ⟨rfl, mem_modifiers_of_hint, fun _ => loops_of_head? nearest⟩

theorem collectionCopyInLoop_keeps : collectionCopyInLoop.Keeps
    { names := ["target", "value", "loop_var", "collection"] } := by
  refine Rule.keeps_of_atMostOnce rfl fun ctx site hit found => ?_
  simp only [findCopy, Option.bind_eq_bind, Option.bind_eq_some_iff] at found
  obtain ⟨a, _, _, _, loop, nearest, _, _, _, _, ⟨⟩⟩ := found
  exact ⟨rfl, List.mem_cons_self, fun _ => loops_of_head? nearest⟩

theorem frontInsertInLoop_keeps : frontInsertInLoop.Keeps { names := ["call", "collection", "item"] } := by
  refine Rule.keeps_of_atMostOnce rfl fun ctx op hit found => ?_
  simp only [findFrontInsert, Option.bind_eq_bind, Option.bind_eq_some_iff, Option.guard_eq_some'] at found
  obtain ⟨c, _, item, _, _, repeated, _, _, _, _, ⟨⟩⟩ := found
  refine ⟨rfl, List.mem_cons_self, fun _ none => ?_⟩
  rw [none] at repeated
  cases repeated

theorem manualMapAppend_keeps : manualMapAppend.Keeps
    { names := ["target", "item", "var", "collection"], inLoop := false } := by
  refine Rule.keeps_of_atMostOnce rfl fun ctx loop hit found => ?_
  simp only [findManualMap, Option.bind_eq_bind, Option.bind_eq_some_iff] at found
  obtain ⟨l, _, _, _, ⟨op, c⟩, _, _, _, _, _, ⟨⟩⟩ := found
  exact ⟨rfl, List.mem_cons_self, by simp⟩

theorem nestedLoopJoin_keeps : nestedLoopJoin.Keeps
    { names := ["outer", "inner", "outer_var", "inner_var", "condition"] } := by
  refine Rule.keeps_of_atMostOnce rfl fun ctx inner hit found => ?_
  simp only [findJoin, Option.bind_eq_bind, Option.bind_eq_some_iff] at found
  obtain ⟨l, _, _, _, outer, nearest, _, _, condition, _, ⟨⟩⟩ := found
  exact ⟨rfl, List.mem_cons_self, fun _ => loops_of_head? nearest⟩

theorem sortInLoop_keeps : sortInLoop.Keeps { names := ["call", "target", "loop_var", "collection"] } := by
  refine Rule.keeps_of_atMostOnce rfl fun ctx call hit found => ?_
  simp only [findSort, Option.bind_eq_bind, Option.bind_eq_some_iff] at found
  obtain ⟨c, _, _, _, loop, nearest, _, _, ⟨⟩⟩ := found
  exact ⟨rfl, List.mem_cons_self, fun _ => loops_of_head? nearest⟩

theorem stringConcatInLoop_keeps : stringConcatInLoop.Keeps
    { names := ["target", "piece", "loop_var", "collection"] } := by
  rintro ctx site hit ⟨hits, done, member⟩
  obtain ⟨a, piece, _, found⟩ := findConcat_eq_ok done member
  simp only [concatHit?, Option.bind_eq_bind, Option.bind_eq_some_iff] at found
  obtain ⟨loop, nearest, _, _, ⟨⟩⟩ := found
  exact ⟨rfl, List.mem_cons_self, fun _ => loops_of_head? nearest⟩

theorem patternUse?_modifiers {use : PatternUse} (used : patternUse? ctx site = some use) :
    use.modifiers ∈ ([[], ["match_call"]] : List (List String)) := by
  unfold patternUse? at used
  split at used
  · rw [Option.ite_none_left_eq_some, Option.some.injEq] at used
    obtain ⟨_, rfl⟩ := used
    exact List.mem_cons_self
  · rw [Option.ite_none_left_eq_some, Option.some.injEq] at used
    obtain ⟨_, rfl⟩ := used
    exact mem_modifiers_of_hint
  · rw [Option.ite_none_left_eq_some, Option.some.injEq] at used
    obtain ⟨_, rfl⟩ := used
    exact mem_modifiers_of_hint
  · cases used

theorem regexInLoop_keeps : regexInLoop.Keeps
    { names := ["call", "pattern", "loop_var", "collection"], modifiers := [[], ["match_call"]] } := by
  refine Rule.keeps_of_atMostOnce rfl fun ctx site hit found => ?_
  simp only [findRegex, Option.bind_eq_bind, Option.bind_eq_some_iff] at found
  obtain ⟨use, used, _, _, loop, nearest, _, _, ⟨⟩⟩ := found
  exact ⟨rfl, patternUse?_modifiers used, fun _ => loops_of_head? nearest⟩

theorem deepCloneInHotPath_keeps : deepCloneInHotPath.Keeps
    { names := ["call", "value"], modifiers := [[], ["hot_scope"]], inLoop := false } := by
  refine Rule.keeps_of_atMostOnce rfl fun ctx site hit found => ?_
  simp only [findDeepClone, Option.bind_eq_bind, Option.bind_eq_some_iff] at found
  obtain ⟨source, _, _, _, ⟨⟩⟩ := found
  exact ⟨rfl, mem_modifiers_of_hint, by simp⟩

theorem jsonDeepClone_keeps : jsonDeepClone.Keeps { names := ["call", "value"], inLoop := false } := by
  refine Rule.keeps_of_atMostOnce rfl fun ctx site hit found => ?_
  simp only [findRoundTrip, Option.bind_eq_bind, Option.bind_eq_some_iff] at found
  obtain ⟨source, _, ⟨⟩⟩ := found
  exact ⟨rfl, List.mem_cons_self, by simp⟩

theorem unboundedGrowth_keeps : unboundedGrowth.Keeps
    { names := ["collection", "item"], modifiers := [[], ["large_input"]], inLoop := false } := by
  refine Rule.keeps_of_atMostOnce rfl fun ctx site hit found => ?_
  simp only [findGrowth, Option.bind_eq_bind, Option.bind_eq_some_iff] at found
  obtain ⟨growth, _, region, _, first, _, _, _, ⟨⟩⟩ := found
  exact ⟨rfl, mem_modifiers_of_hint, by simp⟩

theorem chainedMapFilter_keeps : chainedMapFilter.Keeps
    { names := ["collection", "first", "second", "first_fn", "second_fn"], inLoop := false } := by
  refine Rule.keeps_of_atMostOnce rfl fun ctx op hit found => ?_
  simp only [findChain, Option.bind_eq_bind, Option.bind_eq_some_iff] at found
  obtain ⟨c, _, _, _, ⟨child, first⟩, _, ⟨⟩⟩ := found
  exact ⟨rfl, List.mem_cons_self, by simp⟩

theorem dataframeRowIteration_keeps : dataframeRowIteration.Keeps { names := ["frame"], inLoop := false } := by
  refine Rule.keeps_of_atMostOnce rfl fun ctx site hit found => ?_
  simp only [findRows, Option.bind_eq_bind, Option.bind_eq_some_iff] at found
  obtain ⟨frame, _, ⟨⟩⟩ := found
  exact ⟨rfl, List.mem_cons_self, by simp⟩

theorem sleepInLoop_keeps : sleepInLoop.Keeps { names := ["call", "loop_kind", "duration"] } := by
  refine Rule.keeps_of_atMostOnce rfl fun ctx call hit found => ?_
  simp only [findSleep, Option.bind_eq_bind, Option.bind_eq_some_iff] at found
  obtain ⟨c, _, _, _, found⟩ := found
  obtain ⟨loop, isLoop, shown⟩ := List.exists_of_findSome?_eq_some found
  simp only [Option.bind_eq_some_iff] at shown
  obtain ⟨l, _, _, _, ⟨⟩⟩ := shown
  exact ⟨rfl, List.mem_cons_self, fun _ => loops_of_mem isLoop⟩

theorem awaitInLoop_keeps : awaitInLoop.Keeps { names := ["call", "loop_var", "collection"] } := by
  refine Rule.keeps_of_atMostOnce rfl fun ctx call hit found => ?_
  simp only [findAwait, Option.bind_eq_bind, Option.bind_eq_some_iff] at found
  obtain ⟨c, _, _, _, loop, isLoop, ⟨⟩⟩ := found
  have inLoops := List.takeWhile_subset _ (List.mem_of_find?_eq_some isLoop)
  exact ⟨rfl, List.mem_cons_self, fun _ => loops_of_mem inLoops⟩

theorem forms_kept : ∀ entry ∈ forms, entry.1.Keeps entry.2 := by
  simp only [forms, List.forall_mem_cons, List.not_mem_nil, false_implies, implies_true, and_true]
  exact ⟨nPlusOneQuery_keeps, ioInLoop_keeps, collectionScanInLoop_keeps, collectionCopyInLoop_keeps,
    frontInsertInLoop_keeps, manualMapAppend_keeps, nestedLoopJoin_keeps, sortInLoop_keeps, stringConcatInLoop_keeps,
    regexInLoop_keeps, deepCloneInHotPath_keeps, jsonDeepClone_keeps, unboundedGrowth_keeps, chainedMapFilter_keeps,
    dataframeRowIteration_keeps, sleepInLoop_keeps, awaitInLoop_keeps⟩

end Catalog
end Perflint
