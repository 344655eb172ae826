import Mathlib
import Perflint.Proofs.Lists
import Perflint.Proofs.Selection
import Perflint.Report.Sarif

namespace Perflint.Sarif

-- Error is above warning, and warning above note.
def Level.rank : Level → Nat
  | .error => 2
  | .warning => 1
  | .note => 0

def Level.ofText? (text : String) : Option Level :=
  [Level.error, .warning, .note].find? (·.text == text)

theorem Level.ofText?_text (level : Level) : ofText? level.text = some level := by
  cases level <;> rfl

theorem Level.rank_ofSeverity_le {weaker stronger : Severity} (le : weaker.level ≤ stronger.level) :
    (ofSeverity weaker).rank ≤ (ofSeverity stronger).rank := by
  revert le
  cases weaker <;> cases stronger <;> decide

-- What a rule and a result both carry: the id of a pattern, and a level.
structure Entry where
  id : String
  level : Level
  deriving DecidableEq, Repr

namespace Entry

def read? (id level : Option Json) : Option Entry := do
  let id ← (← id).str?
  let level ← Level.ofText? (← (← level).str?)
  return { id, level }

def ofRule? (rule : Json) : Option Entry :=
  read? (rule.get? "id") ((rule.get? "defaultConfiguration").bind (·.get? "level"))

def ofResult? (result : Json) : Option Entry :=
  read? (result.get? "ruleId") (result.get? "level")

def ofFinding (finding : Finding) : Entry :=
  { id := finding.patternId, level := Sarif.level finding }

theorem read?_texts (id : String) (level : Level) :
    read? (some (.str id)) (some (.str level.text)) = some { id, level } := by
  change (Level.ofText? level.text).bind (fun read => some (Entry.mk id read)) = some (Entry.mk id level)
  rw [Level.ofText?_text]
  rfl

theorem ofRule?_descriptor (finding : Finding) : ofRule? (descriptor finding).toJson = some (ofFinding finding) :=
  read?_texts finding.patternId (Sarif.level finding)

theorem ofResult?_result (path : String) (finding : Finding) :
    ofResult? (result path finding) = some (ofFinding finding) :=
  read?_texts finding.patternId (Sarif.level finding)

end Entry

-- The run of a log that has one.
def run? (log : Json) : Option Json := do
  match ← (← log.get? "runs").items? with
  | [run] => some run
  | _ => none

def rules? (log : Json) : Option (List Json) := do
  (← (← (← (← run? log).get? "tool").get? "driver").get? "rules").items?

def results? (log : Json) : Option (List Json) := do
  (← (← run? log).get? "results").items?

-- The rules and the results of a log, as they refer to each other.
def entries? (log : Json) : Option (List Entry × List Entry) := do
  let rules ← (← rules? log).mapM Entry.ofRule?
  let results ← (← results? log).mapM Entry.ofResult?
  return (rules, results)

-- The ids of the results are those of the rules, which stand as their ids first appear. A rule has the level of one of
-- its results, and none of them has a stronger one.
structure Resolved (rules results : List Entry) : Prop where
  distinct : (rules.map Entry.id).Nodup
  inOrder : rules.map Entry.id = (results.map Entry.id).eraseDups
  attained : ∀ rule ∈ rules, rule ∈ results
  strongest : ∀ rule ∈ rules, ∀ result ∈ results, result.id = rule.id → result.level.rank ≤ rule.level.rank

theorem results?_ofFindings (findings : List Finding) (path : String) :
    results? (ofFindings findings path) = some (findings.map (result path)) := rfl

theorem rules?_ofFindings (findings : List Finding) (path : String) :
    rules? (ofFindings findings path) =
      some ((firstOfPattern findings).map fun finding => (descriptor finding).toJson) :=
  congrArg some List.map_map

theorem entries?_ofFindings (findings : List Finding) (path : String) :
    entries? (ofFindings findings path) =
      some ((firstOfPattern findings).map Entry.ofFinding, findings.map Entry.ofFinding) := by
  unfold entries?
  rw [rules?_ofFindings, results?_ofFindings]
  simp only [Option.bind_eq_bind, Option.bind_some]
  rw [mapM_read Entry.ofRule?_descriptor, mapM_read (Entry.ofResult?_result path)]
  rfl

section
variable {findings : List Finding} {finding : Finding}

theorem firstOfPattern_append (findings : List Finding) (last : Finding) :
    firstOfPattern (findings ++ [last]) =
      if (firstOfPattern findings).any (·.patternId == last.patternId) then firstOfPattern findings
      else firstOfPattern findings ++ [last] :=
  List.foldl_append

theorem any_patternId_eq {chosen : List Finding} (id : String)
    (ids : chosen.map Finding.patternId = (findings.map Finding.patternId).eraseDups) :
    chosen.any (·.patternId == id) = (findings.map Finding.patternId).contains id := by
  rw [Bool.eq_iff_iff, List.contains_iff_mem, ← List.mem_eraseDups, ← ids, List.any_eq_true, List.mem_map]
  simp only [beq_iff_eq]

theorem firstOfPattern_ids (findings : List Finding) :
    (firstOfPattern findings).map Finding.patternId = (findings.map Finding.patternId).eraseDups := by
  induction findings using List.reverseRecOn with
  | nil => rfl
  | append_singleton findings last ih =>
    rw [firstOfPattern_append, List.map_append, List.map_singleton, eraseDups_append_singleton, any_patternId_eq _ ih]
    split
    · exact ih
    · rw [List.map_append, ih, List.map_singleton]

-- Induction on the end of the list: what is chosen stays, and a last finding is chosen if its pattern is new.
theorem exists_split_of_mem_firstOfPattern (member : finding ∈ firstOfPattern findings) :
    ∃ before after, findings = before ++ finding :: after ∧
      ∀ other ∈ before, other.patternId ≠ finding.patternId := by
  induction findings using List.reverseRecOn with
  | nil => cases member
  | append_singleton findings last ih =>
    have earlier (chosen : finding ∈ firstOfPattern findings) : ∃ before after,
        findings ++ [last] = before ++ finding :: after ∧ ∀ other ∈ before, other.patternId ≠ finding.patternId := by
      obtain ⟨before, after, rfl, apart⟩ := ih chosen
      exact ⟨before, after ++ [last], by simp, apart⟩
    rw [firstOfPattern_append] at member
    split at member
    · exact earlier member
    · rename_i unseen
      rcases List.mem_append.mp member with chosen | isLast
      · exact earlier chosen
      · obtain rfl := List.mem_singleton.mp isLast
        refine ⟨findings, [], rfl, fun other isOther same => unseen ?_⟩
        rw [any_patternId_eq _ (firstOfPattern_ids findings), List.contains_iff_mem]
        exact List.mem_map.mpr ⟨other, isOther, same⟩

-- Findings stand with the gravest first, so the first of a pattern is the gravest of it.
theorem level_le_of_mem_firstOfPattern (sorted : findings.Pairwise fun a b => Finding.precedes a b = true)
    (chosen : finding ∈ firstOfPattern findings) {other : Finding} (member : other ∈ findings)
    (same : other.patternId = finding.patternId) : other.severity.level ≤ finding.severity.level := by
  obtain ⟨before, after, rfl, apart⟩ := exists_split_of_mem_firstOfPattern chosen
  rcases List.mem_append.mp member with earlier | later
  · exact absurd same (apart other earlier)
  · rcases List.mem_cons.mp later with rfl | later
    · exact Nat.le_refl _
    · exact Finding.level_le_of_precedes
        (List.rel_of_pairwise_cons (List.pairwise_append.mp sorted).2.1 later)

theorem resolved_of_sorted (sorted : findings.Pairwise fun a b => Finding.precedes a b = true) :
    Resolved ((firstOfPattern findings).map Entry.ofFinding) (findings.map Entry.ofFinding) := by
  have ids : ((firstOfPattern findings).map Entry.ofFinding).map Entry.id =
      ((findings.map Entry.ofFinding).map Entry.id).eraseDups := by
    rw [List.map_map, List.map_map]
    exact firstOfPattern_ids findings
  constructor
  case distinct =>
    rw [ids]
    exact eraseDups_nodup _
  case inOrder => exact ids
  case attained =>
    intro rule isRule
    obtain ⟨finding, chosen, rfl⟩ := List.mem_map.mp isRule
    obtain ⟨before, after, rfl, _⟩ := exists_split_of_mem_firstOfPattern chosen
    exact List.mem_map_of_mem (List.mem_append_right before List.mem_cons_self)
  case strongest =>
    intro rule isRule result isResult same
    obtain ⟨finding, chosen, rfl⟩ := List.mem_map.mp isRule
    obtain ⟨other, member, rfl⟩ := List.mem_map.mp isResult
    exact Level.rank_ofSeverity_le (level_le_of_mem_firstOfPattern sorted chosen member same)

end

-- The log of what was found has one result to a finding, in their order, and its rules and results fit each other.
theorem ofFindings_resolved {outline : Outline} {registry : Registry} {hints : Hints} {settings : Settings}
    {found : List Match} {estimates : List Estimate} {findings : List Finding}
    (made : aggregate outline registry hints settings found estimates = .ok findings) (path : String) :
    results? (ofFindings findings path) = some (findings.map (result path)) ∧
    ∃ rules results, entries? (ofFindings findings path) = some (rules, results) ∧
      results = findings.map Entry.ofFinding ∧ Resolved rules results :=
  ⟨results?_ofFindings findings path, _, _, entries?_ofFindings findings path, rfl,
    resolved_of_sorted (aggregate_sorted made)⟩

def loopOver (id line : Nat) (collection : String) : Node :=
  .mk { id, span := { start := ⟨line, 0⟩, finish := ⟨line + 2, 0⟩ }, grammarType := "for_statement"
        info := .loop { kind := .forEach, iterable := collection, iterableRoot := collection } } []

def namesAndRows : Outline :=
  { language := "python", source := { bytes := [] }
    root := .mk { id := 0, span := { start := ⟨1, 0⟩, finish := ⟨9, 0⟩ }, grammarType := "module", info := .unit }
      [loopOver 1 2 "names", loopOver 2 6 "rows"]
    numbered := by decide }

def quadraticLoop (loop : Nat) : Estimate :=
  { scopeId := 0, scope := "<module>", span := { start := ⟨1, 0⟩, finish := ⟨9, 0⟩ }, cost := .quadratic
    contributors := [loop] }

def reportedLoops : List Finding :=
  [quadraticLoop 1, quadraticLoop 2].filterMap (Finding.ofEstimate? namesAndRows { largeCollections := ["rows"] })

-- The weaker estimate comes first, and the stronger one, over rows that are many, gives the rule its level.
theorem namesAndRows_resolved : ∃ findings,
    aggregate namesAndRows Catalog.registry { largeCollections := ["rows"] } {} [] [quadraticLoop 1, quadraticLoop 2] =
      .ok findings ∧
    Entry.mk "quadratic-complexity" .warning ∈ findings.map Entry.ofFinding ∧
    Entry.mk "quadratic-complexity" .error ∈ findings.map Entry.ofFinding ∧
    results? (ofFindings findings "app.py") = some (findings.map (result "app.py")) ∧
    ∃ rules results, entries? (ofFindings findings "app.py") = some (rules, results) ∧
      results = findings.map Entry.ofFinding ∧ Resolved rules results := by
  have made : aggregate namesAndRows Catalog.registry { largeCollections := ["rows"] } {} []
      [quadraticLoop 1, quadraticLoop 2] = .ok (Finding.select {} reportedLoops) :=
    aggregate_eq_ok.mpr ⟨[], by simp [Finding.ofMatches, Finding.clusters, Finding.groupKeys]; rfl, rfl⟩
  have listed : ((Finding.select {} reportedLoops).map Entry.ofFinding).Perm (reportedLoops.map Entry.ofFinding) := by
    have order : Finding.select {} reportedLoops = reportedLoops.mergeSort Finding.precedes :=
      Finding.select_unfiltered {} reportedLoops
    rw [order]
    exact (List.mergeSort_perm _ _).map _
  refine ⟨_, made, listed.mem_iff.mpr ?_, listed.mem_iff.mpr ?_, ofFindings_resolved made "app.py"⟩
  · decide +kernel
  · decide +kernel

end Perflint.Sarif
