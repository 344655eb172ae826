import Mathlib
import Perflint.Proofs.RuleRuns

namespace Perflint

namespace Rule

-- The rule, with a check that fails at one node.
def raisingAt (rule : Rule) (site : Site) (fault : Fault) : Rule :=
  { rule with check := fun ctx other => if other.id = site.id then .error fault else rule.check ctx other }

variable (rule : Rule) (ctx : Context) (site : Site) (fault : Fault)

theorem judge_raisingAt_self :
    (rule.raisingAt site fault).judge ctx site =
      [.inr { ruleId := rule.id, nodeId := site.id, error := fault.text }] := by
  simp [judge, raisingAt]

theorem judge_raisingAt_other {other : Site} (differ : other.id ≠ site.id) :
    (rule.raisingAt site fault).judge ctx other = rule.judge ctx other := by
  unfold judge
  have same : (rule.raisingAt site fault).check ctx other = rule.check ctx other := if_neg differ
  rw [same]
  rfl

theorem flatMap_judge_raisingAt {sites : List Site} (differ : ∀ other ∈ sites, other.id ≠ site.id) :
    sites.flatMap ((rule.raisingAt site fault).judge ctx) = sites.flatMap (rule.judge ctx) :=
  List.flatMap_congr fun other member => rule.judge_raisingAt_other ctx site fault (differ other member)

end Rule

namespace Registry

def only (rule : Rule) : Registry :=
  { rules := [rule], distinct := List.nodup_singleton rule.id }

def changeAt (id : String) (site : Site) (fault : Fault) (rule : Rule) : Rule :=
  if rule.id = id then rule.raisingAt site fault else rule

theorem changeAt_id (id : String) (site : Site) (fault : Fault) (rule : Rule) :
    (changeAt id site fault rule).id = rule.id := by
  unfold changeAt
  split <;> rfl

-- The registry in which the rule of that id fails at one node.
def raisingAt (registry : Registry) (id : String) (site : Site) (fault : Fault) : Registry :=
  { registry with
    rules := registry.rules.map (changeAt id site fault)
    distinct := by
      rw [List.map_map, show Rule.id ∘ changeAt id site fault = Rule.id from funext (changeAt_id id site fault)]
      exact registry.distinct }

theorem sorted_eq_of_perm {registry other : Registry} (same : other.rules.Perm registry.rules) :
    other.sorted = registry.sorted := by
  have perm : other.sorted.Perm registry.sorted :=
    (List.mergeSort_perm _ _).trans (same.trans (List.mergeSort_perm _ _).symm)
  refine perm.eq_of_pairwise ?_ other.sorted_ordered registry.sorted_ordered
  intro first second _ _ less greater
  exact (lt_asymm less greater).elim

theorem sorted_raisingAt (registry : Registry) (id : String) (site : Site) (fault : Fault) :
    (registry.raisingAt id site fault).sorted = registry.sorted.map (changeAt id site fault) := by
  refine (List.map_mergeSort fun first _ second _ => ?_).symm
  rw [changeAt_id, changeAt_id]

end Registry

namespace Context

theorem applicable_only {ctx : Context} {rule : Rule} (applies : rule.Applies ctx) :
    ctx.applicable (Registry.only rule) = [rule] := by
  rw [applicable, Registry.rulesFor, Registry.sorted, Registry.only, List.mergeSort_singleton, List.filter_eq_self]
  intro other member
  rw [List.mem_singleton.mp member]
  exact admits_iff.mpr applies

theorem applicable_raisingAt (ctx : Context) (registry : Registry) (id : String) (site : Site) (fault : Fault) :
    ctx.applicable (registry.raisingAt id site fault) =
      (ctx.applicable registry).map (Registry.changeAt id site fault) := by
  rw [applicable, applicable, Registry.rulesFor, Registry.rulesFor, Registry.sorted_raisingAt, List.filter_map]
  congr 1
  refine List.filter_congr fun rule _ => ?_
  unfold Function.comp Registry.changeAt
  split <;> rfl

end Context

theorem Rule.sites_ids_nodup (rule : Rule) (outline : Outline) : ((rule.sites outline.sites).map Site.id).Nodup := by
  have all : (outline.sites.map Site.id).Nodup := by
    rw [Outline.sites, ((List.mergeSort_perm outline.preorder _).map Site.id).nodup_iff, outline.map_id_preorder]
    exact outline.ids_nodup
  rw [((rule.sites_perm outline.sites).map Site.id).nodup_iff]
  exact all.sublist (List.filter_sublist.map _)

namespace Evaluation

-- A rule speaks once about a node of its kinds, and where it is made to fail nothing else is said differently.
theorem judgements_raisingAt {ctx : Context} {registry : Registry} {rule : Rule} {site : Site}
    (applies : rule ∈ ctx.applicable registry) (held : ctx.outline.Holds site) (isTarget : site.kind ∈ rule.targets)
    (fault : Fault) :
    ∃ early late, judgements ctx ctx.outline.sites (ctx.applicable registry) = early ++ (rule.judge ctx site ++ late) ∧
      judgements ctx ctx.outline.sites (ctx.applicable (registry.raisingAt rule.id site fault)) =
        early ++ ([.inr { ruleId := rule.id, nodeId := site.id, error := fault.text }] ++ late) ∧
      ∀ failure, .inr failure ∈ early ++ late → ¬(failure.ruleId = rule.id ∧ failure.nodeId = site.id) := by
  have asked : site ∈ rule.sites ctx.outline.sites :=
    Rule.mem_sites.mpr ⟨Outline.mem_sites.mpr held, List.contains_iff_mem.mpr isTarget⟩
  obtain ⟨before, after, rules, otherRule⟩ := split_key_apart Rule.id (ctx.applicable_nodup registry) applies
  obtain ⟨first, last, sites, otherSite⟩ := split_key_apart Site.id (rule.sites_ids_nodup ctx.outline) asked
  have unchanged : ∀ some : List Rule, some ⊆ before ++ after →
      some.map (Registry.changeAt rule.id site fault) = some := by
    intro some part
    refine (List.map_congr_left fun other member => ?_).trans (List.map_id some)
    exact if_neg (otherRule other (part member))
  refine ⟨judgements ctx ctx.outline.sites before ++ first.flatMap (rule.judge ctx),
    last.flatMap (rule.judge ctx) ++ judgements ctx ctx.outline.sites after, ?_, ?_, ?_⟩
  · rw [rules, judgements_append, judgements_cons, sites, List.flatMap_append, List.flatMap_cons]
    simp only [List.append_assoc]
  · have changed : Registry.changeAt rule.id site fault rule = rule.raisingAt site fault := if_pos rfl
    have asks : (rule.raisingAt site fault).sites ctx.outline.sites = first ++ site :: last := sites
    rw [ctx.applicable_raisingAt, rules, List.map_append, List.map_cons, changed,
      unchanged before (List.subset_append_left _ _), unchanged after (List.subset_append_right _ _),
      judgements_append, judgements_cons, asks, List.flatMap_append, List.flatMap_cons, rule.judge_raisingAt_self,
      rule.flatMap_judge_raisingAt ctx site fault fun other member => otherSite other (List.mem_append_left _ member),
      rule.flatMap_judge_raisingAt ctx site fault fun other member => otherSite other (List.mem_append_right _ member)]
    simp only [List.append_assoc]
  · rintro failure member ⟨sameRule, sameSite⟩
    have notOther : ∀ some : List Rule, some ⊆ before ++ after →
        .inr failure ∉ judgements ctx ctx.outline.sites some := by
      intro some part said
      obtain ⟨other, isRule, asked, _, judged⟩ := mem_judgements said
      exact otherRule other (part isRule) ((Rule.names_of_failure judged).1.symm.trans sameRule)
    have notHere : ∀ some : List Site, some ⊆ first ++ last → .inr failure ∉ some.flatMap (rule.judge ctx) := by
      intro some part said
      obtain ⟨other, isSite, judged⟩ := List.mem_flatMap.mp said
      exact otherSite other (part isSite) ((Rule.names_of_failure judged).2.symm.trans sameSite)
    rcases List.mem_append.mp member with early | late
    · rcases List.mem_append.mp early with said | said
      · exact notOther before (List.subset_append_left _ _) said
      · exact notHere first (List.subset_append_left _ _) said
    · rcases List.mem_append.mp late with said | said
      · exact notHere last (List.subset_append_right _ _) said
      · exact notOther after (List.subset_append_right _ _) said

end Evaluation

section Isolation

variable {ctx : Context} {registry : Registry} {rule : Rule}

theorem evaluate_perm {other : Registry} (same : other.rules.Perm registry.rules) (budget : Budget) :
    evaluate ctx other budget = evaluate ctx registry budget := by
  unfold evaluate Registry.rulesFor
  rw [Registry.sorted_eq_of_perm same]

theorem evaluate_only (applies : rule ∈ ctx.applicable registry) :
    ((evaluate ctx registry .unlimited).found.filter fun m => m.ruleId == rule.id) =
        (evaluate ctx (Registry.only rule) .unlimited).found ∧
      ((evaluate ctx registry .unlimited).failures.filter fun failure => failure.ruleId == rule.id) =
        (evaluate ctx (Registry.only rule) .unlimited).failures := by
  have one : (ctx.applicable registry).filter (fun other => other.id == rule.id) = [rule] := by
    have found := filter_key_eq Rule.id (List.singleton_sublist.mpr applies) (ctx.applicable_nodup registry)
    simpa only [List.map_cons, List.map_nil, List.contains_cons, List.contains_nil, Bool.or_false] using found
  rw [evaluate_unlimited, evaluate_unlimited, Context.applicable_only (Context.mem_applicable.mp applies).2,
    filter_mergeSort Evaluation.precedes_trans Evaluation.precedes_total]
  dsimp only
  rw [Evaluation.filter_matches ctx ctx.outline.sites (· == rule.id),
    Evaluation.filter_failures ctx ctx.outline.sites (· == rule.id), one]
  exact ⟨rfl, rfl⟩

-- How it shows in a result that a rule fails at a node where it gave an answer before: its matches from there are
-- gone and the others stand as they stood, and one failure takes the place of those that it reported from there.
structure FailsAlone (rule : Rule) (ctx : Context) (site : Site) (fault : Fault) (before after : Evaluation) : Prop where
  kept : after.found.Sublist before.found
  lost : before.found.Perm (Evaluation.matchesOf (rule.judge ctx site) ++ after.found)
  failures : ∃ early late, before.failures = early ++ (Evaluation.failuresOf (rule.judge ctx site) ++ late) ∧
    after.failures = early ++ ([{ ruleId := rule.id, nodeId := site.id, error := fault.text }] ++ late) ∧
    ∀ failure ∈ early ++ late, ¬(failure.ruleId = rule.id ∧ failure.nodeId = site.id)
  executed : after.executed = before.executed
  isPartial : after.isPartial = before.isPartial

theorem evaluate_raisingAt {site : Site} (applies : rule ∈ ctx.applicable registry) (held : ctx.outline.Holds site)
    (isTarget : site.kind ∈ rule.targets) (fault : Fault) :
    FailsAlone rule ctx site fault (evaluate ctx registry .unlimited)
      (evaluate ctx (registry.raisingAt rule.id site fault) .unlimited) := by
  obtain ⟨early, late, before, after, apart⟩ := Evaluation.judgements_raisingAt applies held isTarget fault
  rw [evaluate_unlimited, evaluate_unlimited, before, after]
  simp only [Evaluation.matchesOf_append, Evaluation.failuresOf_append]
  constructor
  case kept =>
    refine mergeSort_sublist Evaluation.precedes_trans Evaluation.precedes_total ?_
    exact (List.Sublist.refl _).append (List.sublist_append_right _ _)
  case lost =>
    refine (List.mergeSort_perm _ _).trans ((List.perm_append_comm_assoc _ _ _).trans ?_)
    exact List.Perm.append_left _ (List.mergeSort_perm _ _).symm
  case failures =>
    refine ⟨Evaluation.failuresOf early, Evaluation.failuresOf late, rfl, rfl, ?_⟩
    intro failure member
    rw [← Evaluation.failuresOf_append] at member
    exact apart failure (Evaluation.mem_failuresOf.mp member)
  case executed => rw [ctx.applicable_raisingAt, List.length_map]
  case isPartial => rfl

theorem evaluate_isolated (ctx : Context) (registry : Registry) :
    (∀ other : Registry, other.rules.Perm registry.rules →
      evaluate ctx other .unlimited = evaluate ctx registry .unlimited) ∧
    ∀ rule ∈ registry.rules, rule.Applies ctx →
      (((evaluate ctx registry .unlimited).found.filter fun m => m.ruleId == rule.id) =
          (evaluate ctx (Registry.only rule) .unlimited).found ∧
        ((evaluate ctx registry .unlimited).failures.filter fun failure => failure.ruleId == rule.id) =
          (evaluate ctx (Registry.only rule) .unlimited).failures) ∧
      ∀ site, ctx.outline.Holds site → site.kind ∈ rule.targets → ∀ fault : Fault,
        FailsAlone rule ctx site fault (evaluate ctx registry .unlimited)
          (evaluate ctx (registry.raisingAt rule.id site fault) .unlimited) := by
  refine ⟨fun other same => evaluate_perm same .unlimited, ?_⟩
  intro rule member applies
  have listed : rule ∈ ctx.applicable registry := Context.mem_applicable.mpr ⟨member, applies⟩
  exact ⟨evaluate_only listed, fun site held isTarget fault => evaluate_raisingAt listed held isTarget fault⟩

end Isolation

def callLeaf (id : Nat) : Node :=
  .mk { id, span := default, grammarType := "", info := .call {} } []

def twoCalls : Outline :=
  { language := "", source := { bytes := [] }
    root := .mk { id := 0, span := default, grammarType := "", info := .unit } [callLeaf 1, callLeaf 2]
    numbered := by decide }

def twoCallsContext : Context :=
  { outline := twoCalls, language := "", hints := {}, settings := {}, graph := twoCalls.callGraph }

-- A rule that reports every call.
def everyCall (id : String) : Rule :=
  { id, targets := [.call], check := atMostOnce fun _ place => some { place } }

def twoRules (first second : String) (differ : first ≠ second) : Registry :=
  { rules := [everyCall first, everyCall second], distinct := by simpa [everyCall] using differ }

theorem twoRules_isolated :
    let ctx := twoCallsContext
    let registry := twoRules "here" "there" (by decide)
    let site : Site := { node := callLeaf 2, above := [twoCalls.root] }
    ((twoRules "there" "here" (by decide)).rules.Perm registry.rules ∧
        evaluate ctx (twoRules "there" "here" (by decide)) .unlimited = evaluate ctx registry .unlimited) ∧
      (everyCall "there" ∈ registry.rules ∧ (everyCall "there").Applies ctx) ∧
      (((evaluate ctx registry .unlimited).found.filter fun m => m.ruleId == "there") =
        (evaluate ctx (Registry.only (everyCall "there")) .unlimited).found) ∧
      (ctx.outline.Holds site ∧ site.kind ∈ (everyCall "there").targets) ∧
      ((everyCall "there").judge ctx site).length = 1 ∧
      FailsAlone (everyCall "there") ctx site (.raised "ValueError: no") (evaluate ctx registry .unlimited)
        (evaluate ctx (registry.raisingAt "there" site (.raised "ValueError: no")) .unlimited) := by
  intro ctx registry site
  obtain ⟨anyOrder, each⟩ := evaluate_isolated ctx registry
  have swapped : (twoRules "there" "here" (by decide)).rules.Perm registry.rules := List.Perm.swap _ _ _
  have member : everyCall "there" ∈ registry.rules := List.mem_cons_of_mem _ List.mem_cons_self
  have applies : (everyCall "there").Applies ctx := ⟨.inl rfl, List.not_mem_nil, .inl rfl⟩
  have held : ctx.outline.Holds site := ⟨List.mem_cons_of_mem _ List.mem_cons_self, rfl⟩
  have isTarget : site.kind ∈ (everyCall "there").targets := List.mem_cons_self
  obtain ⟨⟨sameFound, _⟩, failing⟩ := each _ member applies
  exact ⟨⟨swapped, anyOrder _ swapped⟩, ⟨member, applies⟩, sameFound, ⟨held, isTarget⟩, rfl,
    failing site held isTarget _⟩

end Perflint
