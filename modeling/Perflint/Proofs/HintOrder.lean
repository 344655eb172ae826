import Mathlib
import Perflint.Finding
import Perflint.Proofs.BudgetCuts
import Perflint.Proofs.Clusters

namespace Perflint

namespace Hints

-- Whatever the first hints name, the second name too.
structure Within (fewer more : Hints) : Prop where
  hot : fewer.hotScopes ⊆ more.hotScopes
  large : fewer.largeCollections ⊆ more.largeCollections

variable {fewer more : Hints}

theorem Within.isHot (within : fewer.Within more) {scope : String} (known : fewer.isHot scope = true) :
    more.isHot scope = true := by
  simp only [Hints.isHot, Bool.and_eq_true, List.contains_iff_mem] at known ⊢
  exact ⟨known.1, within.hot known.2⟩

theorem Within.isLarge (within : fewer.Within more) {names : List String} (known : fewer.isLarge names = true) :
    more.isLarge names = true := by
  simp only [Hints.isLarge, List.any_eq_true, Bool.and_eq_true, Bool.or_eq_true, List.contains_iff_mem] at known ⊢
  obtain ⟨name, member, named, listed⟩ := known
  exact ⟨name, member, named, listed.imp (@within.large name) (@within.large _)⟩

end Hints

namespace Severity

theorem le_refl (severity : Severity) : severity ≤ severity :=
  Nat.le_refl severity.level

theorem le_critical (severity : Severity) : severity ≤ .critical := by
  cases severity <;> decide

-- A step up is never a step down, on whatever end of the scale it is taken.
theorem resolve_nil_le_resolve_raised (base : Severity) {modifier : String} (raises : modifierWeight modifier = 1) :
    base.resolve [] ≤ base.resolve [modifier] := by
  unfold resolve
  simp only [List.map_nil, List.map_cons, List.foldl_nil, List.foldl_cons, raises]
  cases base <;> decide

end Severity

namespace Context

def hinted (ctx : Context) (hints : Hints) : Context :=
  { ctx with hints }

variable (ctx : Context) (scope : Scope)

theorem any_isStructural_hotReasons (hints : Hints) :
    ((ctx.hinted hints).hotReasons scope).any HotReason.isStructural =
      (!scope.isUnit && (decide (ctx.settings.hotFanIn ≤ ctx.graph.fanIn scope.id) ||
        ctx.graph.calledInLoop scope.id)) := by
  unfold hotReasons
  cases scope.isUnit with
  | true => rfl
  | false =>
    rw [if_neg Bool.false_ne_true, List.any_append, List.any_append]
    have hint : (if (ctx.hinted hints).hints.isHot scope.name then [HotReason.callerHint] else []).any
        HotReason.isStructural = false := by
      split <;> rfl
    rw [hint, Bool.false_or]
    refine congrArg₂ _ ?_ ?_
    · by_cases enough : ctx.graph.fanIn scope.id ≥ ctx.settings.hotFanIn <;> simp [hinted, enough, HotReason.isStructural]
    · cases looped : ctx.graph.calledInLoop scope.id <;> simp [hinted, looped, HotReason.isStructural]

theorem contains_callerHint (hints : Hints) :
    ((ctx.hinted hints).hotReasons scope).contains .callerHint = (!scope.isUnit && hints.isHot scope.name) := by
  unfold hotReasons
  cases scope.isUnit with
  | true => rfl
  | false =>
    rw [Bool.eq_iff_iff, List.contains_iff_mem, if_neg Bool.false_ne_true]
    simp only [List.mem_append, List.mem_ite_nil_right, List.mem_singleton, reduceCtorEq, and_false, or_false, and_true,
      Bool.not_false, Bool.true_and]
    rfl

end Context

-- The same place with a severity that is no lower.
def Hit.Graver (base : Severity) (hit graver : Hit) : Prop :=
  graver.place = hit.place ∧ base.resolve hit.modifiers ≤ base.resolve graver.modifiers

theorem Hit.graver_refl (base : Severity) (hit : Hit) : hit.Graver base hit :=
  ⟨rfl, Severity.le_refl _⟩

theorem related_bind {α : Type} {related : Option Hit → Option Hit → Prop} (nothing : related none none)
    {first : Option α} {few many : α → Option Hit} (each : ∀ value, related (few value) (many value)) :
    related (first.bind few) (first.bind many) := by
  cases first with
  | none => exact nothing
  | some value => exact each value

-- A hint that names one more collection or function adds the modifier that raises, and takes none away.
theorem Hit.graver_of_hint (base : Severity) {modifier : String} (raises : modifierWeight modifier = 1) {few many : Bool}
    (grows : few = true → many = true) {hit graver : Hit} (place : graver.place = hit.place)
    (first : hit.modifiers = if few then [modifier] else []) (second : graver.modifiers = if many then [modifier] else []) :
    hit.Graver base graver := by
  refine ⟨place, ?_⟩
  rw [first, second]
  cases few with
  | true =>
    rw [grows rfl]
    exact Severity.le_refl _
  | false =>
    cases many with
    | true => exact Severity.resolve_nil_le_resolve_raised base raises
    | false => exact Severity.le_refl _

namespace Rule

def Reports (rule : Rule) (ctx : Context) (site : Site) (hit : Hit) : Prop :=
  ∃ hits, rule.check ctx site = .ok hits ∧ hit ∈ hits

theorem reports_iff {rule : Rule} {find : Context → Site → Option Hit} (check : rule.check = atMostOnce find)
    {ctx : Context} {site : Site} {hit : Hit} : rule.Reports ctx site hit ↔ find ctx site = some hit := by
  simp only [Reports, check, atMostOnce, Except.ok.injEq, exists_eq_left', Option.mem_toList]

variable {rule : Rule} {ctx : Context} {fewer more : Hints} {site : Site}

-- With more hints a rule reports the same places, none of them as less grave. A place that only the additional hints
-- show comes from a doubtful fetch.
structure HintOrdered (rule : Rule) (ctx : Context) (fewer more : Hints) (site : Site) : Prop where
  kept : ∀ hit, rule.Reports (ctx.hinted fewer) site hit →
    ∃ graver, rule.Reports (ctx.hinted more) site graver ∧ hit.Graver rule.severity graver
  added : ∀ hit, rule.Reports (ctx.hinted more) site hit →
    (∃ known, rule.Reports (ctx.hinted fewer) site known ∧ known.place = hit.place) ∨
      (rule.id = "n-plus-one-query" ∧ hit.modifiers = ["weak_origin", "large_input"])

-- Most rules do not look at the hints.
theorem hintOrdered_of_same (same : rule.check (ctx.hinted fewer) site = rule.check (ctx.hinted more) site) :
    rule.HintOrdered ctx fewer more site := by
  constructor
  · rintro hit ⟨hits, found, member⟩
    exact ⟨hit, ⟨hits, same ▸ found, member⟩, hit.graver_refl _⟩
  · rintro hit ⟨hits, found, member⟩
    exact .inl ⟨hit, ⟨hits, same ▸ found, member⟩, rfl⟩

theorem hintOrdered_of_rel {find : Context → Site → Option Hit} (check : rule.check = atMostOnce find)
    (related : Option.Rel (Hit.Graver rule.severity) (find (ctx.hinted fewer) site) (find (ctx.hinted more) site)) :
    rule.HintOrdered ctx fewer more site := by
  constructor
  · intro hit reported
    rw [reports_iff check] at reported
    rw [reported] at related
    generalize found : find (ctx.hinted more) site = many at related
    cases related with
    | some graver => exact ⟨_, (reports_iff check).mpr found, graver⟩
  · intro hit reported
    rw [reports_iff check] at reported
    rw [reported] at related
    generalize found : find (ctx.hinted fewer) site = few at related
    cases related with
    | some graver => exact .inl ⟨_, (reports_iff check).mpr found, graver.1.symm⟩

end Rule

namespace Catalog

variable {ctx : Context} {fewer more : Hints} {site : Site}

theorem collectionScanInLoop_hintOrdered (within : fewer.Within more) :
    collectionScanInLoop.HintOrdered ctx fewer more site := by
  refine Rule.hintOrdered_of_rel rfl ?_
  simp only [findScan, Option.bind_eq_bind]
  refine related_bind .none fun c => related_bind .none fun _ => related_bind .none fun _ => related_bind .none fun loop =>
    related_bind .none fun _ => related_bind .none fun _ => related_bind .none fun _ => .some ?_
  exact Hit.graver_of_hint _ rfl within.isLarge rfl rfl rfl

theorem deepCloneInHotPath_hintOrdered (within : fewer.Within more) :
    deepCloneInHotPath.HintOrdered ctx fewer more site := by
  refine Rule.hintOrdered_of_rel rfl ?_
  simp only [findDeepClone, Option.bind_eq_bind, Context.any_isStructural_hotReasons, Context.contains_callerHint]
  refine related_bind .none fun source => related_bind .none fun _ => .some ?_
  refine Hit.graver_of_hint _ rfl ?_ rfl rfl rfl
  rw [Bool.and_eq_true, Bool.and_eq_true]
  exact And.imp_right within.isHot

theorem unboundedGrowth_hintOrdered (within : fewer.Within more) :
    unboundedGrowth.HintOrdered ctx fewer more site := by
  refine Rule.hintOrdered_of_rel rfl ?_
  simp only [findGrowth, Option.bind_eq_bind]
  refine related_bind .none fun growth => related_bind .none fun region => related_bind .none fun first =>
    related_bind .none fun _ => .some ?_
  exact Hit.graver_of_hint _ rfl within.isLarge rfl rfl rfl

-- A query that fewer hints show is shown with more hints. One that only the additional hints show walks data
-- of a doubtful fetch.
structure QueryOrdered (few many : Option Hit) : Prop where
  kept : few.isSome = true → many.isSome = true
  added : ∀ hit, many = some hit → few.isSome = true ∨ hit.modifiers = ["weak_origin", "large_input"]

theorem QueryOrdered.none : QueryOrdered none none :=
  ⟨id, fun _ found => nomatch found⟩

theorem QueryOrdered.findSome? {few many : Site → Option Hit} (each : ∀ loop, QueryOrdered (few loop) (many loop))
    (loops : List Site) : QueryOrdered (loops.findSome? few) (loops.findSome? many) := by
  induction loops with
  | nil => exact .none
  | cons loop loops ih =>
    obtain ⟨kept, added⟩ := each loop
    rw [List.findSome?_cons, List.findSome?_cons]
    -- The first loop that more hints show may stand before the first that fewer show.
    cases known : few loop with
    | some hit =>
      obtain ⟨graver, found⟩ := Option.isSome_iff_exists.mp (kept (Option.isSome_of_eq_some known))
      rw [found]
      exact ⟨fun _ => rfl, fun _ _ => .inl rfl⟩
    | none =>
      cases found : many loop with
      | none => exact ih
      | some hit =>
        refine ⟨fun _ => rfl, ?_⟩
        rintro _ ⟨⟩
        refine .inr ((added hit found).resolve_left ?_)
        simp [known]

theorem queryPerElement?_ordered (within : fewer.Within more) (loop : Site) :
    QueryOrdered (queryPerElement? (ctx.hinted fewer) site loop) (queryPerElement? (ctx.hinted more) site loop) := by
  simp only [queryPerElement?, Option.bind_eq_bind]
  refine related_bind .none fun _ => related_bind .none fun fetched => related_bind .none fun _ => ?_
  have large := @Hints.Within.isLarge _ _ within [loop.node.loopRoot, loop.node.loopText]
  rcases fetched with ⟨strength, origin⟩
  simp only [Context.hinted]
  cases known : fewer.isLarge _ with
  | true =>
    rw [large known]
    cases strength <;> exact ⟨fun _ => rfl, fun _ _ => .inl rfl⟩
  | false =>
    cases strength with
    | strong => cases more.isLarge _ <;> exact ⟨fun _ => rfl, fun _ _ => .inl rfl⟩
    | weak =>
      cases more.isLarge _ with
      | false => exact .none
      | true =>
        refine ⟨fun _ => rfl, ?_⟩
        rintro _ ⟨⟩
        exact .inr rfl

theorem modifiers_of_queryPerElement? {loop : Site} {hit : Hit} (found : queryPerElement? ctx site loop = some hit) :
    hit.place = site ∧ Severity.critical.resolve hit.modifiers = .critical := by
  simp only [queryPerElement?, Option.bind_eq_bind, Option.bind_eq_some_iff] at found
  obtain ⟨_, _, ⟨strength, origin⟩, _, _, _, modifiers, chosen, ⟨⟩⟩ := found
  refine ⟨rfl, ?_⟩
  revert chosen
  cases strength <;> cases ctx.hints.isLarge _ <;> rintro ⟨⟩ <;> rfl

theorem nPlusOneQuery_hintOrdered (within : fewer.Within more) : nPlusOneQuery.HintOrdered ctx fewer more site := by
  have ordered : QueryOrdered (findQueryPerElement (ctx.hinted fewer) site) (findQueryPerElement (ctx.hinted more) site) := by
    unfold findQueryPerElement
    split
    · exact .findSome? (queryPerElement?_ordered within) _
    · exact .none
  have critical : ∀ hints hit, findQueryPerElement (ctx.hinted hints) site = some hit →
      hit.place = site ∧ Severity.critical.resolve hit.modifiers = .critical := by
    intro hints hit found
    unfold findQueryPerElement at found
    split at found
    · obtain ⟨loop, _, shown⟩ := List.exists_of_findSome?_eq_some found
      exact modifiers_of_queryPerElement? shown
    · cases found
  constructor
  · intro hit reported
    rw [Rule.reports_iff rfl] at reported
    obtain ⟨graver, found⟩ := Option.isSome_iff_exists.mp (ordered.kept (Option.isSome_of_eq_some reported))
    obtain ⟨place, _⟩ := critical _ _ reported
    obtain ⟨samePlace, gravest⟩ := critical _ _ found
    refine ⟨graver, (Rule.reports_iff rfl).mpr found, samePlace.trans place.symm, ?_⟩
    exact (Severity.le_critical _).trans_eq gravest.symm
  · intro hit reported
    rw [Rule.reports_iff rfl] at reported
    refine (ordered.added hit reported).imp ?_ fun doubtful => ⟨rfl, doubtful⟩
    intro shown
    obtain ⟨known, found⟩ := Option.isSome_iff_exists.mp shown
    exact ⟨known, (Rule.reports_iff rfl).mpr found, (critical _ _ found).1.trans (critical _ _ reported).1.symm⟩

theorem rules_hintOrdered (within : fewer.Within more) : ∀ rule ∈ rules, rule.HintOrdered ctx fewer more site :=
  forall_rules.mpr
    ⟨nPlusOneQuery_hintOrdered within, Rule.hintOrdered_of_same rfl, collectionScanInLoop_hintOrdered within,
     Rule.hintOrdered_of_same rfl, Rule.hintOrdered_of_same rfl, Rule.hintOrdered_of_same rfl,
     Rule.hintOrdered_of_same rfl, Rule.hintOrdered_of_same rfl, Rule.hintOrdered_of_same rfl,
     Rule.hintOrdered_of_same rfl, deepCloneInHotPath_hintOrdered within, Rule.hintOrdered_of_same rfl,
     unboundedGrowth_hintOrdered within, Rule.hintOrdered_of_same rfl, Rule.hintOrdered_of_same rfl,
     Rule.hintOrdered_of_same rfl, Rule.hintOrdered_of_same rfl⟩

end Catalog

namespace Match

-- The same rule at the same place, with a severity that is no lower.
structure RaisedTo (m graver : Match) : Prop where
  ruleId : graver.ruleId = m.ruleId
  nodeId : graver.nodeId = m.nodeId
  scopeId : graver.scopeId = m.scopeId
  span : graver.span = m.span
  severity : m.severity ≤ graver.severity

def IsDoubtfulFetch (m : Match) : Prop :=
  m.ruleId = "n-plus-one-query" ∧ "large_input" ∈ m.modifiers ∧ "weak_origin" ∈ m.modifiers

end Match

-- Every match of the first list is raised in the second, which adds doubtful fetches only.
structure RaisedBy (few many : List Match) : Prop where
  kept : ∀ m ∈ few, ∃ graver ∈ many, m.RaisedTo graver
  added : ∀ m ∈ many, (∀ known ∈ few, ¬ (known.ruleId = m.ruleId ∧ known.nodeId = m.nodeId)) → m.IsDoubtfulFetch

namespace RaisedBy

theorem nil : RaisedBy [] [] :=
  ⟨by simp, by simp⟩

variable {few many few' many' : List Match}

theorem append (first : RaisedBy few many) (second : RaisedBy few' many') : RaisedBy (few ++ few') (many ++ many') := by
  constructor
  · intro m member
    rcases List.mem_append.mp member with here | there
    · obtain ⟨graver, found, raised⟩ := first.kept m here
      exact ⟨graver, List.mem_append_left _ found, raised⟩
    · obtain ⟨graver, found, raised⟩ := second.kept m there
      exact ⟨graver, List.mem_append_right _ found, raised⟩
  · intro m member unknown
    rcases List.mem_append.mp member with here | there
    · exact first.added m here fun known isKnown => unknown known (List.mem_append_left _ isKnown)
    · exact second.added m there fun known isKnown => unknown known (List.mem_append_right _ isKnown)

theorem flatMap {sites : List Site} {few many : Site → List Match}
    (each : ∀ site ∈ sites, RaisedBy (few site) (many site)) :
    RaisedBy (sites.flatMap few) (sites.flatMap many) := by
  induction sites with
  | nil => exact .nil
  | cons site sites ih =>
    rw [List.flatMap_cons, List.flatMap_cons]
    exact (each site List.mem_cons_self).append (ih fun site member => each site (List.mem_cons_of_mem _ member))

theorem of_perm (raised : RaisedBy few many) (first : few'.Perm few) (second : many'.Perm many) : RaisedBy few' many' := by
  constructor
  · intro m member
    obtain ⟨graver, found, raised⟩ := raised.kept m (first.mem_iff.mp member)
    exact ⟨graver, second.mem_iff.mpr found, raised⟩
  · intro m member unknown
    exact raised.added m (second.mem_iff.mp member) fun known isKnown => unknown known (first.mem_iff.mpr isKnown)

end RaisedBy

section Runs

variable {ctx : Context} {fewer more : Hints}

theorem Rule.HintOrdered.judge {rule : Rule} {site : Site} (ordered : rule.HintOrdered ctx fewer more site) :
    RaisedBy (Evaluation.matchesOf (rule.judge (ctx.hinted fewer) site))
      (Evaluation.matchesOf (rule.judge (ctx.hinted more) site)) := by
  constructor
  · intro m member
    obtain ⟨hits, found, hit, isHit, inside, rfl⟩ := Rule.mem_judge_match.mp (Evaluation.mem_matchesOf.mp member)
    obtain ⟨graver, ⟨hits, found, isHit⟩, place, severity⟩ := ordered.kept hit ⟨hits, found, isHit⟩
    refine ⟨rule.toMatch (ctx.hinted more) graver, ?_, ?_⟩
    · refine Evaluation.mem_matchesOf.mpr (Rule.mem_judge_match.mpr ⟨hits, found, graver, isHit, ?_, rfl⟩)
      rw [place]
      exact inside
    · refine ⟨rfl, congrArg Site.id place, ?_, congrArg Site.span place, severity⟩
      exact congrArg (fun place => (ctx.outline.scopeOf place).id) place
  · intro m member unknown
    obtain ⟨hits, found, hit, isHit, inside, rfl⟩ := Rule.mem_judge_match.mp (Evaluation.mem_matchesOf.mp member)
    rcases ordered.added hit ⟨hits, found, isHit⟩ with ⟨known, ⟨hits, found, isHit⟩, place⟩ | ⟨named, modifiers⟩
    · refine absurd ⟨rfl, congrArg Site.id place⟩ (unknown (rule.toMatch (ctx.hinted fewer) known) ?_)
      refine Evaluation.mem_matchesOf.mpr (Rule.mem_judge_match.mpr ⟨hits, found, known, isHit, ?_, rfl⟩)
      rw [place]
      exact inside
    · refine ⟨named, ?_, ?_⟩ <;> simp [Rule.toMatch, Settings.mem_sortedTexts, modifiers]

-- The hints cost nothing: both runs are cut at the same rule.
theorem Evaluation.run_raisedBy {rules : List Rule} {all : List Site}
    (ordered : ∀ rule ∈ rules, ∀ site, rule.HintOrdered ctx fewer more site) (budget : Budget) :
    RaisedBy (run (ctx.hinted fewer) all budget rules).found (run (ctx.hinted more) all budget rules).found := by
  induction rules generalizing budget with
  | nil => exact .nil
  | cons rule rules ih =>
    unfold run
    cases budget.spend? with
    | none => exact .nil
    | some left =>
      dsimp only
      split
      · refine RaisedBy.append ?_ (ih (fun rule member => ordered rule (List.mem_cons_of_mem _ member)) _)
        simp only [matchesOf, List.filterMap_flatMap]
        exact .flatMap fun site _ => (ordered rule List.mem_cons_self site).judge
      · exact .nil

end Runs

namespace Finding

theorem suspectsLargeInput_within {fewer more : Hints} (within : fewer.Within more) {outline : Outline} {estimate : Estimate}
    (suspected : suspectsLargeInput outline fewer estimate = true) : suspectsLargeInput outline more estimate = true := by
  simp only [suspectsLargeInput, List.any_eq_true, Bool.or_eq_true] at suspected ⊢
  obtain ⟨loop, member, suspected⟩ := suspected
  exact ⟨loop, member, suspected.imp_left within.isLarge⟩

theorem costSeverity?_within {fewer more : Hints} (within : fewer.Within more) {outline : Outline} {estimate : Estimate}
    {severity : Severity} (known : costSeverity? outline fewer estimate = some severity) :
    ∃ graver, costSeverity? outline more estimate = some graver ∧ severity ≤ graver := by
  have suspects := @suspectsLargeInput_within _ _ within outline estimate
  revert known
  unfold costSeverity?
  cases estimate.cost with
  | quadratic | linearithmic =>
    cases few : suspectsLargeInput outline fewer estimate with
    | true =>
      rw [suspects few]
      rintro ⟨⟩
      exact ⟨_, rfl, Severity.le_refl _⟩
    | false => cases suspectsLargeInput outline more estimate <;> rintro ⟨⟩ <;> exact ⟨_, rfl, by decide⟩
  | _ =>
    intro known
    exact ⟨_, known, Severity.le_refl _⟩

end Finding

theorem evaluate_hinted_raisedBy (ctx : Context) (budget : Budget) {fewer more : Hints} (within : fewer.Within more) :
    RaisedBy (evaluate (ctx.hinted fewer) Catalog.registry budget).found
        (evaluate (ctx.hinted more) Catalog.registry budget).found ∧
      ∀ estimate severity, Finding.costSeverity? ctx.outline fewer estimate = some severity →
        ∃ graver, Finding.costSeverity? ctx.outline more estimate = some graver ∧ severity ≤ graver := by
  refine ⟨?_, fun estimate severity => Finding.costSeverity?_within within⟩
  have ordered : ∀ rule ∈ ctx.applicable Catalog.registry, ∀ site, rule.HintOrdered ctx fewer more site :=
    fun rule applies site => Catalog.rules_hintOrdered within rule (Context.mem_applicable.mp applies).1
  exact (Evaluation.run_raisedBy ordered budget).of_perm (List.mergeSort_perm _ _) (List.mergeSort_perm _ _)

-- Rows that `get_rows` may have fetched, and a query for each of them.
def fetchingCall : Node :=
  .mk { id := 2, span := { start := ⟨1, 7⟩, finish := ⟨1, 17⟩ }, grammarType := "call"
        info := .call { callee := "get_rows", qualified := "get_rows" } } []

def fetchedRows : Node :=
  .mk { id := 1, span := { start := ⟨1, 0⟩, finish := ⟨1, 17⟩ }, grammarType := "assignment"
        info := .assignment { targets := ["rows"], operator := "=" } } [fetchingCall]

def rowQuery : Node :=
  .mk { id := 4, span := { start := ⟨3, 4⟩, finish := ⟨3, 19⟩ }, grammarType := "call"
        info := .call { callee := "execute", qualified := "db.execute", receiver := "db", argNames := ["row"] } } []

def rowLoop : Node :=
  .mk { id := 3, span := { start := ⟨2, 0⟩, finish := ⟨3, 19⟩ }, grammarType := "for_statement"
        info := .loop { kind := .forEach, iterVars := ["row"], iterable := "rows", iterableRoot := "rows" } } [rowQuery]

def rowsUnit : Outline :=
  { language := "python", source := { bytes := [] }
    root := .mk { id := 0, span := { start := ⟨1, 0⟩, finish := ⟨3, 19⟩ }, grammarType := "module", info := .unit }
      [fetchedRows, rowLoop]
    numbered := by decide }

def rowsContext : Context :=
  { outline := rowsUnit, language := "python", hints := {}, settings := {}, graph := rowsUnit.callGraph }

def rowQuerySite : Site :=
  { node := rowQuery, above := [rowLoop, rowsUnit.root] }

theorem rows_raisedBy :
    Hints.Within {} { largeCollections := ["rows"] } ∧
      Catalog.findQueryPerElement (rowsContext.hinted {}) rowQuerySite = none ∧
      (Catalog.findQueryPerElement (rowsContext.hinted { largeCollections := ["rows"] }) rowQuerySite).isSome = true ∧
      RaisedBy (evaluate (rowsContext.hinted {}) Catalog.registry .unlimited).found
        (evaluate (rowsContext.hinted { largeCollections := ["rows"] }) Catalog.registry .unlimited).found := by
  have within : Hints.Within {} { largeCollections := ["rows"] } := ⟨List.Subset.refl _, List.nil_subset _⟩
  exact ⟨within, by decide +kernel, by decide +kernel, (evaluate_hinted_raisedBy rowsContext .unlimited within).1⟩

end Perflint
