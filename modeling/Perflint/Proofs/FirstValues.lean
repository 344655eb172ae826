import Mathlib
import Perflint.Proofs.CatalogFaults

namespace Perflint

theorem Position.lt_eq_false_iff {a b : Position} : a.lt b = false ↔ b.le a = true := by
  rw [← Bool.not_eq_true, lt_iff, le_iff]
  omega

-- Of nodes that start together the first is taken, but none starts later than the one that is taken.
theorem latestStart_of_mem {sites : List Site} {site : Site} (member : site ∈ sites) :
    ∃ last, latestStart sites = some last ∧ site.span.start.le last.span.start = true := by
  induction sites with
  | nil => cases member
  | cons first rest ih =>
    cases found : latestStart rest with
    | none =>
      rcases List.mem_cons.mp member with rfl | later
      · exact ⟨site, by rw [latestStart, found], Position.le_refl _⟩
      · obtain ⟨last, isLast, _⟩ := ih later
        cases isLast.symm.trans found
    | some later =>
      cases order : first.span.start.lt later.span.start with
      | true =>
        refine ⟨later, by simp [latestStart, found, order], ?_⟩
        rcases List.mem_cons.mp member with rfl | inRest
        · exact Position.le_of_lt order
        · obtain ⟨last, isLast, least⟩ := ih inRest
          cases isLast.symm.trans found
          exact least
      | false =>
        refine ⟨first, by simp [latestStart, found, order], ?_⟩
        rcases List.mem_cons.mp member with rfl | inRest
        · exact Position.le_refl _
        · obtain ⟨last, isLast, least⟩ := ih inRest
          cases isLast.symm.trans found
          exact Position.le_trans least (Position.lt_eq_false_iff.mp order)

namespace Outline

variable {outline : Outline} {scope : Scope} {name : String} {before : Position} {site : Site}

theorem assigned_of_lastAssignment? (found : outline.lastAssignment? scope name before = some site) :
    (site ∈ scope.assignmentsTo name ∨ site ∈ outline.unitScope.assignmentsTo name) ∧
      site.span.finish.le before = true := by
  obtain ⟨candidate, isCandidate, assigned, ends⟩ := mem_of_lastAssignment? found
  refine ⟨?_, ends⟩
  rcases mem_lookupScopes isCandidate with rfl | rfl
  · exact .inl assigned
  · exact .inr assigned

-- Where the scope itself has an assignment before the place, the unit is not asked.
theorem lastAssignment?_of_mem (outline : Outline) (assigned : site ∈ scope.assignmentsTo name)
    (ends : site.span.finish.le before = true) :
    ∃ last, outline.lastAssignment? scope name before = some last ∧ last ∈ scope.assignmentsTo name ∧
      site.span.start.le last.span.start = true := by
  have candidate : site ∈ (scope.assignmentsTo name).filter (·.span.finish.le before) :=
    List.mem_filter.mpr ⟨assigned, ends⟩
  obtain ⟨last, isLast, least⟩ := latestStart_of_mem candidate
  refine ⟨last, ?_, (List.mem_filter.mp (mem_of_latestStart isLast)).1, least⟩
  unfold lastAssignment? lookupScopes
  split <;> rw [List.findSome?_cons, isLast]

end Outline

theorem Node.bindsAfresh_iff {node : Node} {name : String} : node.bindsAfresh name = true ↔
    ∃ a, node.assignment? = some a ∧ name ∈ a.targets ∧ a.operator = "=" ∧ name ∉ a.valueNames := by
  unfold bindsAfresh
  cases node.assignment? with
  | none => simp
  | some a => simp [and_assoc]

-- Two regions that share nothing follow each other.
theorem Span.le_of_apart {first second : Span} (apart : first.overlaps second = false)
    (order : first.start.le second.start = true) (nonempty : second.start.lt second.finish = true) :
    first.finish.le second.start = true := by
  have reaches : first.start.lt second.finish = true := by
    rw [Position.le_iff] at order
    rw [Position.lt_iff] at nonempty ⊢
    omega
  rw [overlaps, reaches, Bool.true_and] at apart
  exact Position.lt_eq_false_iff.mp apart

namespace Catalog

variable {outline : Outline} {scope : Scope} {target : String} {before : Position} {result : Option Site}

theorem Searches.unique {other : Option Site} (searches : Searches outline scope target before result)
    (again : Searches outline scope target before other) : other = result := by
  induction searches with
  | missing nothing =>
    cases again with
    | missing _ => rfl
    | found found _ | onward found _ _ => cases nothing.symm.trans found
  | found found fresh =>
    cases again with
    | missing nothing => cases nothing.symm.trans found
    | found same _ =>
      cases same.symm.trans found
      rfl
    | onward same reads _ =>
      cases same.symm.trans found
      cases fresh.symm.trans reads
  | onward found reads _ ih =>
    cases again with
    | missing nothing => cases nothing.symm.trans found
    | found same fresh =>
      cases same.symm.trans found
      cases fresh.symm.trans reads
    | onward same _ rest =>
      cases same.symm.trans found
      exact ih rest

section Nonempty

variable (isScope : scope ∈ outline.scopes)
  (nonempty : ∀ site a, outline.Holds site → site.node.assignment? = some a → site.span.start < site.span.finish)

include isScope nonempty

-- Each round goes to a place further up.
theorem lastAssignment?_earlier {site : Site} (found : outline.lastAssignment? scope target before = some site) :
    site.span.start < before := by
  obtain ⟨held, ⟨a, isAssignment⟩, ends⟩ := Outline.lastAssignment?_eq_some isScope found
  exact Position.lt_of_lt_of_le (nonempty site a held isAssignment) ends

theorem Searches.sound {site : Site} (searches : Searches outline scope target before result)
    (isResult : result = some site) :
    (site ∈ scope.assignmentsTo target ∨ site ∈ outline.unitScope.assignmentsTo target) ∧
      site.span.finish ≤ before ∧ site.node.bindsAfresh target = true := by
  induction searches with
  | missing _ => cases isResult
  | found found fresh =>
    cases isResult
    obtain ⟨assigned, ends⟩ := Outline.assigned_of_lastAssignment? found
    exact ⟨assigned, ends, fresh⟩
  | onward found _ _ ih =>
    obtain ⟨assigned, ends, fresh⟩ := ih isResult
    have earlier := lastAssignment?_earlier isScope nonempty found
    exact ⟨assigned, Position.le_trans ends (Position.le_of_lt earlier), fresh⟩

-- As long as an assignment that gives a value of its own stands before the place, the search goes on to it, or stops
-- before it.
theorem Searches.complete {site : Site} (searches : Searches outline scope target before result)
    (assigned : site ∈ scope.assignmentsTo target)
    (apart : ∀ other ∈ scope.assignmentsTo target, other.id ≠ site.id → site.span.overlaps other.span = false)
    (fresh : site.node.bindsAfresh target = true) (ends : site.span.finish ≤ before) : result ≠ none := by
  induction searches with
  | missing nothing =>
    obtain ⟨last, isLast, _⟩ := Outline.lastAssignment?_of_mem outline assigned ends
    cases isLast.symm.trans nothing
  | found _ _ => exact Option.some_ne_none _
  | @onward before last result found reads _ ih =>
    refine ih ?_
    obtain ⟨same, isLast, isAssigned, order⟩ := Outline.lastAssignment?_of_mem outline assigned ends
    cases isLast.symm.trans found
    obtain ⟨held, ⟨a, isAssignment⟩, _⟩ := Outline.lastAssignment?_eq_some isScope found
    have siteHeld := Outline.holds_of_mem_nodes isScope (List.mem_filter.mp assigned).1
    have differs : last.id ≠ site.id := by
      intro sameId
      rw [Outline.eq_of_id_eq held siteHeld sameId, fresh] at reads
      cases reads
    exact Span.le_of_apart (apart last isAssigned differs) order (nonempty last a held isAssignment)

end Nonempty

-- What is asked of the search for the first value of a name before a loop.
structure FirstValue (outline : Outline) (scope : Scope) (target : String) (loop : Site) (result : Option Site) :
    Prop where
  ends : ∀ other, Searches outline scope target loop.span.start other ↔ other = result
  earlier : ∀ before site, outline.lastAssignment? scope target before = some site → site.span.start < before
  sound : ∀ site, result = some site →
    (site ∈ scope.assignmentsTo target ∨ site ∈ outline.unitScope.assignmentsTo target) ∧
      site.span.finish ≤ loop.span.start ∧
      ∃ a, site.node.assignment? = some a ∧ target ∈ a.targets ∧ a.operator = "=" ∧ target ∉ a.valueNames
  complete : result = none → ∀ site ∈ scope.assignmentsTo target, site.span.finish ≤ loop.span.start →
    (∀ other ∈ scope.assignmentsTo target, other.id ≠ site.id → site.span.overlaps other.span = false) →
    ∀ a, site.node.assignment? = some a → ¬(a.operator = "=" ∧ target ∉ a.valueNames)

theorem initializer?_firstValue {outline : Outline} {scope : Scope} (isScope : scope ∈ outline.scopes)
    (nonempty : ∀ site a, outline.Holds site → site.node.assignment? = some a → site.span.start < site.span.finish)
    (target : String) (loop : Site) :
    FirstValue outline scope target loop (initializer? outline scope target loop.span.start) := by
  have searches := searches_initializer? isScope nonempty target loop.span.start
  refine ⟨fun other => ⟨searches.unique, ?_⟩, fun _ _ => lastAssignment?_earlier isScope nonempty, ?_, ?_⟩
  · rintro rfl
    exact searches
  · intro site isResult
    obtain ⟨assigned, ends, fresh⟩ := searches.sound isScope nonempty isResult
    exact ⟨assigned, ends, Node.bindsAfresh_iff.mp fresh⟩
  · rintro nothing site assigned ends apart a isAssignment ⟨plain, unread⟩
    have isTarget : target ∈ a.targets := by
      have targeted := (List.mem_filter.mp assigned).2
      rw [isAssignment] at targeted
      simpa using targeted
    have fresh := Node.bindsAfresh_iff.mpr ⟨a, isAssignment, isTarget, plain, unread⟩
    exact searches.complete isScope nonempty assigned apart fresh ends nothing

-- A text that is begun, added to and then read by a loop.
def begunText : Outline :=
  { language := "python", source := { bytes := [] }
    root := .mk { id := 0, span := default, grammarType := "module", info := .unit }
      [.mk { id := 1, span := { start := ⟨1, 0⟩, finish := ⟨1, 6⟩ }, grammarType := "assignment"
             info := .assignment { targets := ["s"], operator := "=", value := "''" } } [],
       .mk { id := 2, span := { start := ⟨2, 0⟩, finish := ⟨2, 9⟩ }, grammarType := "assignment"
             info := .assignment { targets := ["s"], operator := "=", value := "s + x", valueNames := ["s", "x"] } } [],
       .mk { id := 3, span := { start := ⟨3, 0⟩, finish := ⟨4, 8⟩ }, grammarType := "for_statement"
             info := .loop { kind := .forEach, iterVars := ["c"], iterable := "s" } } []]
    numbered := .refl _ }

theorem begunText_nonempty : ∀ site a, begunText.Holds site → site.node.assignment? = some a →
    site.span.start < site.span.finish := by
  intro site a held isAssignment
  have each : ∀ inner ∈ begunText.preorder, inner.node.assignment?.isSome = true →
      inner.span.start < inner.span.finish := by decide +kernel
  exact each site (Outline.mem_preorder.mpr held) (by rw [isAssignment]; rfl)

-- The search goes past the sum, which reads the text, to where the text is begun.
theorem begunText_firstValue :
    ∃ loop, begunText.Holds loop ∧ loop.id = 3 ∧
      FirstValue begunText begunText.unitScope "s" loop
        (initializer? begunText begunText.unitScope "s" loop.span.start) ∧
      ∃ site, initializer? begunText begunText.unitScope "s" loop.span.start = some site ∧ site.id = 1 := by
  obtain ⟨loop, held, isLoop, start⟩ : ∃ loop, begunText.Holds loop ∧ loop.id = 3 ∧ loop.span.start = ⟨3, 0⟩ :=
    ⟨_, Outline.mem_preorder.mp (List.mem_of_getElem? (i := 3) rfl), rfl, rfl⟩
  have firstValue := initializer?_firstValue List.mem_cons_self begunText_nonempty "s" loop
  refine ⟨loop, held, isLoop, firstValue, ?_⟩
  have searches := firstValue.ends
  rw [start] at searches ⊢
  exact ⟨_, ((searches _).mp (.onward rfl rfl (.found rfl rfl))).symm, rfl⟩

end Catalog
end Perflint
