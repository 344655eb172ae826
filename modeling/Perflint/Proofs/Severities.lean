import Mathlib
import Perflint.Proofs.Aggregation
import Perflint.Proofs.CatalogHits

namespace Perflint

theorem Registry.get?_eq_some_iff {registry : Registry} {id : String} {rule : Rule} :
    registry.get? id = some rule ↔ rule ∈ registry.rules ∧ rule.id = id := by
  have named : ∀ {found}, registry.get? id = some found → found ∈ registry.rules ∧ found.id = id := by
    intro found isFound
    unfold get? at isFound
    exact ⟨List.mem_of_find?_eq_some isFound, by simpa using List.find?_some isFound⟩
  refine ⟨named, ?_⟩
  rintro ⟨member, sameId⟩
  have registered : registry.contains id = true := List.any_eq_true.mpr ⟨rule, member, beq_iff_eq.mpr sameId⟩
  obtain ⟨found, isFound⟩ := exists_get? registered
  obtain ⟨alsoMember, alsoNamed⟩ := named isFound
  rw [isFound, List.inj_on_of_nodup_map registry.distinct alsoMember member (alsoNamed.trans sameId.symm)]

namespace Severity

-- How far modifiers move a severity when each of them counts as often as it is counted.
def countedWeight (counted : String → Nat) (modifiers : List String) : Int :=
  (modifiers.map fun modifier => counted modifier * modifierWeight modifier).sum

theorem resolve_eq_sum (base : Severity) (modifiers : List String) :
    base.resolve modifiers = .ofLevel (base.level + (modifiers.map modifierWeight).sum) := by
  rw [resolve, List.sum_eq_foldl]

-- The raw list weighs what its sorted set weighs, with each modifier as often as the list repeats it.
theorem resolve_eq_counted (base : Severity) (modifiers : List String) :
    base.resolve modifiers =
      .ofLevel (base.level + countedWeight (modifiers.count ·) (Settings.sortedTexts modifiers)) := by
  have distinct : (Settings.sortedTexts modifiers).Nodup := (Settings.sortedTexts_pairwise modifiers).imp ne_of_lt
  have sameSet : (Settings.sortedTexts modifiers).toFinset = modifiers.toFinset := by
    ext modifier
    rw [List.mem_toFinset, List.mem_toFinset, Settings.mem_sortedTexts]
  rw [resolve_eq_sum, countedWeight, ← List.sum_toFinset _ distinct, sameSet, Finset.sum_list_map_count]
  simp only [nsmul_eq_mul]

theorem resolve_sortedTexts (base : Severity) {modifiers : List String}
    (single : ∀ modifier, modifierWeight modifier ≠ 0 → modifiers.count modifier ≤ 1) :
    base.resolve (Settings.sortedTexts modifiers) = base.resolve modifiers := by
  rw [resolve_eq_counted base modifiers, resolve_eq_sum, countedWeight]
  congr 3
  refine List.map_congr_left fun modifier member => ?_
  by_cases weightless : modifierWeight modifier = 0
  · rw [weightless, mul_zero]
  · have present : 0 < modifiers.count modifier := List.count_pos_iff.mpr (Settings.mem_sortedTexts.mp member)
    have once : modifiers.count modifier = 1 := le_antisymm (single modifier weightless) present
    rw [once, Nat.cast_one, one_mul]

end Severity

-- No rule of the catalog gives a modifier twice.
theorem Catalog.forms_nodup : ∀ entry ∈ forms, ∀ modifiers ∈ entry.2.modifiers, modifiers.Nodup := by
  decide

theorem Catalog.modifiers_nodup {rule : Rule} (member : rule ∈ rules) {ctx : Context} {site : Site} {hit : Hit}
    (reported : rule.Reports ctx site hit) : hit.modifiers.Nodup := by
  obtain ⟨form, isForm⟩ := exists_form member
  exact forms_nodup _ isForm _ (forms_kept _ isForm ctx site hit reported).modifiers

-- A match reports its modifiers as a set, and its severity counts them as often as the hit repeats them. The
-- severity follows from the rule and the reported modifiers where no modifier of weight is repeated; the catalog
-- never repeats one.
theorem evaluate_severity (ctx : Context) (registry : Registry) (budget : Budget) :
    ∀ m ∈ (evaluate ctx registry budget).found, ∃ rule, registry.get? m.ruleId = some rule ∧
      (∃ site hit, ctx.outline.Holds site ∧ rule.Reports ctx site hit ∧
        m.modifiers = Settings.sortedTexts hit.modifiers ∧
        m.severity = .ofLevel (rule.severity.level + Severity.countedWeight (hit.modifiers.count ·) m.modifiers) ∧
        ((∀ modifier, modifierWeight modifier ≠ 0 → hit.modifiers.count modifier ≤ 1) →
          m.severity = rule.severity.resolve m.modifiers)) ∧
      (rule ∈ Catalog.rules → m.severity = rule.severity.resolve m.modifiers) := by
  intro m member
  obtain ⟨rule, isRule, site, hit, held, reported, rfl⟩ := evaluate_reported member
  refine ⟨rule, Registry.get?_eq_some_iff.mpr ⟨isRule, rfl⟩, ⟨site, hit, held, reported, rfl, ?_, ?_⟩, ?_⟩
  · exact rule.severity.resolve_eq_counted hit.modifiers
  · intro single
    exact (rule.severity.resolve_sortedTexts single).symm
  · intro inCatalog
    have distinct := Catalog.modifiers_nodup inCatalog reported
    exact (rule.severity.resolve_sortedTexts fun modifier _ => List.nodup_iff_count_le_one.mp distinct modifier).symm

-- A rule that finds its unit large for two reasons.
def twiceLarge : Rule :=
  { id := "twice", title := "t", category := "test", targets := [.unit], severity := .low, message := "m"
    check := fun _ site => .ok [{ place := site, modifiers := ["large_input", "large_input"] }] }

def twiceLargeContext : Context :=
  { outline := bareOutline, language := "python", hints := {}, settings := {}, graph := bareOutline.callGraph }

def twiceLargeMatch : Match :=
  twiceLarge.toMatch twiceLargeContext { place := bareOutline.rootSite, modifiers := ["large_input", "large_input"] }

theorem twiceLarge_found :
    twiceLargeMatch ∈ (evaluate twiceLargeContext { rules := [twiceLarge] } .unlimited).found := by
  decide +kernel

theorem twiceLarge_weighed : ∃ m ∈ (evaluate twiceLargeContext { rules := [twiceLarge] } .unlimited).found,
    ∃ (rule : Rule) (site : Site) (hit : Hit), rule.id = m.ruleId ∧ rule.Reports twiceLargeContext site hit ∧
      m.severity = .ofLevel (rule.severity.level + Severity.countedWeight (hit.modifiers.count ·) m.modifiers) := by
  obtain ⟨rule, named, ⟨site, hit, _, reported, _, weighed, _⟩, _⟩ := evaluate_severity _ _ _ _ twiceLarge_found
  exact ⟨_, twiceLarge_found, rule, site, hit, (Registry.get?_eq_some_iff.mp named).2, reported, weighed⟩

theorem twiceLarge_raised : ∃ m ∈ (evaluate twiceLargeContext { rules := [twiceLarge] } .unlimited).found,
    m.ruleId = "twice" ∧ m.modifiers = ["large_input"] ∧ m.severity = .high ∧
      Severity.low.resolve m.modifiers = .medium := by
  refine ⟨twiceLargeMatch, twiceLarge_found, rfl, ?_, rfl, ?_⟩
  all_goals decide +kernel

end Perflint
