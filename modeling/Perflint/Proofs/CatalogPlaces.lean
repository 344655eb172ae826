import Mathlib
import Perflint.Proofs.Lists
import Perflint.Rule.Catalog
import Perflint.Rule.Evaluation

namespace Perflint

-- Whatever is found is reported at the place.
def ReportsAt (place : Site) (found : Option Hit) : Prop :=
  ∀ hit, found = some hit → hit.place = place

@[simp] theorem reportsAt_none (place : Site) : ReportsAt place none := by
  simp [ReportsAt]

@[simp] theorem reportsAt_some {place : Site} {hit : Hit} : ReportsAt place (some hit) ↔ hit.place = place := by
  simp [ReportsAt]

@[simp] theorem reportsAt_bind {α : Type} {place : Site} {first : Option α} {next : α → Option Hit} :
    ReportsAt place (first.bind next) ↔ ∀ value, first = some value → ReportsAt place (next value) := by
  cases first <;> simp

theorem reportsAt_findSome? {α : Type} {place : Site} {candidates : List α} {find : α → Option Hit}
    (each : ∀ candidate, ReportsAt place (find candidate)) : ReportsAt place (candidates.findSome? find) := by
  intro hit found
  obtain ⟨candidate, _, here⟩ := List.exists_of_findSome?_eq_some found
  exact each candidate hit here

namespace Rule

-- A rule speaks of the node it is asked about or of a loop around it, and it never claims to have left the tree.
structure Local (rule : Rule) : Prop where
  places : ∀ ctx site hits, rule.check ctx site = .ok hits → ∀ hit ∈ hits, hit.place ∈ site :: site.loops
  faults : ∀ ctx site fault, rule.check ctx site = .error fault → fault.text ≠ outsideText

theorem local_of_atMostOnce {rule : Rule} {find : Context → Site → Option Hit} (check : rule.check = atMostOnce find)
    (reports : ∀ ctx site hit, find ctx site = some hit → hit.place ∈ site :: site.loops) : rule.Local := by
  refine ⟨?_, ?_⟩
  · intro ctx site hits found hit member
    rw [check] at found
    cases found
    exact reports ctx site hit (Option.mem_toList.mp member)
  · intro ctx site fault failed
    rw [check] at failed
    cases failed

theorem local_of_reportsAt {rule : Rule} {find : Context → Site → Option Hit} (check : rule.check = atMostOnce find)
    (reports : ∀ ctx site, ReportsAt site (find ctx site)) : rule.Local :=
  local_of_atMostOnce check fun ctx site hit found => List.mem_cons.mpr (.inl (reports ctx site hit found))

end Rule

namespace Catalog

theorem nPlusOneQuery_local : nPlusOneQuery.Local := by
  refine Rule.local_of_reportsAt rfl fun ctx call => ?_
  unfold findQueryPerElement
  split
  · exact reportsAt_findSome? fun loop => by simp [queryPerElement?]
  · exact reportsAt_none _

theorem sleepInLoop_local : sleepInLoop.Local := by
  refine Rule.local_of_reportsAt rfl fun ctx call => ?_
  simp only [findSleep, Option.bind_eq_bind, reportsAt_bind]
  intro c _ _ _
  exact reportsAt_findSome? fun loop => by simp

-- The one rule that reports another node than the one it is asked about.
theorem nestedLoopJoin_local : nestedLoopJoin.Local := by
  refine Rule.local_of_atMostOnce rfl ?_
  intro ctx inner hit found
  simp only [findJoin, Option.bind_eq_bind, Option.bind_eq_some_iff] at found
  obtain ⟨l, _, _, _, outer, isOuter, _, _, condition, _, made⟩ := found
  cases made
  exact List.mem_cons_of_mem _ (List.mem_of_mem_head? isOuter)

section Concat

variable {ctx : Context} {site : Site}

theorem findConcat_eq_ok {hits : List Hit} {hit : Hit} (done : findConcat ctx site = .ok hits) (member : hit ∈ hits) :
    ∃ a piece, site.node.assignment? = some a ∧ concatHit? ctx site a piece = some hit := by
  unfold findConcat at done
  split at done
  · cases done
    cases member
  · rename_i a isAssignment
    split at done
    · cases done
      cases member
    · obtain ⟨piece, _, made⟩ := bind_eq_ok.mp done
      cases made
      obtain ⟨added, _, found⟩ := Option.bind_eq_some_iff.mp (Option.mem_toList.mp member)
      exact ⟨a, added, isAssignment, found⟩

theorem addedPiece_eq_error {a : AssignmentInfo} {target : String} {fault : Fault}
    (failed : addedPiece a target = .error fault) :
    fault = .missingPlus ∧ a.valueIsConcat = true ∧ Text.afterFirst? '+' a.value = none := by
  unfold addedPiece at failed
  split at failed
  · cases failed
  · split at failed
    · rename_i sum
      simp only [Bool.and_eq_true] at sum
      split at failed
      · cases failed
      · split at failed
        · cases failed
        · rename_i missing
          cases failed
          exact ⟨rfl, sum.1.2, missing⟩
    · cases failed

theorem findConcat_eq_error {fault : Fault} (failed : findConcat ctx site = .error fault) :
    ∃ a, site.node.assignment? = some a ∧ addedPiece a a.soleTarget = .error fault := by
  unfold findConcat at failed
  split at failed
  · cases failed
  · rename_i a isAssignment
    split at failed
    · cases failed
    · rcases bind_eq_error.mp failed with inPiece | ⟨_, _, impossible⟩
      · exact ⟨a, isAssignment, inPiece⟩
      · cases impossible

end Concat

-- The one rule that can fail.
theorem stringConcatInLoop_local : stringConcatInLoop.Local := by
  refine ⟨?_, ?_⟩
  · intro ctx site hits found hit member
    obtain ⟨a, piece, _, shown⟩ := findConcat_eq_ok found member
    have reports : ReportsAt site (concatHit? ctx site a piece) := by simp [concatHit?]
    exact List.mem_cons.mpr (.inl (reports hit shown))
  · intro ctx site fault failed
    obtain ⟨a, _, inPiece⟩ := findConcat_eq_error failed
    rw [(addedPiece_eq_error inPiece).1]
    decide

theorem rules_local : ∀ rule ∈ rules, rule.Local :=
  forall_rules.mpr
    ⟨nPlusOneQuery_local,
     Rule.local_of_reportsAt rfl fun ctx site => by simp [findIoInLoop],
     Rule.local_of_reportsAt rfl fun ctx site => by simp [findScan],
     Rule.local_of_reportsAt rfl fun ctx site => by simp [findCopy],
     Rule.local_of_reportsAt rfl fun ctx site => by simp [findFrontInsert],
     Rule.local_of_reportsAt rfl fun ctx site => by simp [findManualMap],
     nestedLoopJoin_local,
     Rule.local_of_reportsAt rfl fun ctx site => by simp [findSort],
     stringConcatInLoop_local,
     Rule.local_of_reportsAt rfl fun ctx site => by simp [findRegex],
     Rule.local_of_reportsAt rfl fun ctx site => by simp [findDeepClone],
     Rule.local_of_reportsAt rfl fun ctx site => by simp [findRoundTrip],
     Rule.local_of_reportsAt rfl fun ctx site => by simp [findGrowth],
     Rule.local_of_reportsAt rfl fun ctx site => by simp [findChain],
     Rule.local_of_reportsAt rfl fun ctx site => by simp [findRows],
     sleepInLoop_local,
     Rule.local_of_reportsAt rfl fun ctx site => by simp [findAwait]⟩

end Catalog
end Perflint
