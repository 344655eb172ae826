import Mathlib
import Perflint.Analysis
import Perflint.Proofs.Aggregation
import Perflint.Proofs.BudgetCuts
import Perflint.Proofs.CostPaths
import Perflint.Proofs.Evaluation

namespace Perflint

namespace Cost

theorem mem_dearest_loops {costs : List Cost} {site : Site} (member : site ∈ (dearest costs).loops) :
    ∃ cost ∈ costs, site ∈ cost.loops := by
  rcases dearest_origin costs with free | found
  · rw [free] at member
    cases member
  · exact ⟨_, found, member⟩

-- The loops that a cost names are found below the node that it is the cost of.
theorem mem_walk_of_mem_loops {outline : Outline} {scope : Scope} {site : Site} {node : Node} {above : List Node}
    {enclosing : List Site} (member : site ∈ (ofNode outline scope above enclosing node).loops) :
    site ∈ Site.walk false above node := by
  induction node using Node.nested_induction generalizing above enclosing with
  | step node ih =>
    have deeper : ∀ child ∈ node.children, site ∈ (childCost outline scope { node, above } enclosing child).loops →
        site ∈ Site.walk false above node := by
      intro child isChild inChild
      rw [Site.walk_eq]
      exact List.mem_cons_of_mem _ (List.mem_flatMap.mpr ⟨child, isChild, ih child isChild inChild⟩)
    rw [ofNode_eq] at member
    split at member
    · cases member
    · obtain ⟨cost, listed, inCost⟩ := mem_dearest_loops member
      rcases List.mem_append.mp listed with once | nested
      · obtain ⟨child, filtered, rfl⟩ := List.mem_map.mp once
        exact deeper child (List.mem_filter.mp filtered).1 inCost
      · rw [List.mem_singleton.mp nested, nest] at inCost
        have body : site ∈ (dearest ((node.children.filter (node.runsPerIteration ·)).map
            (childCost outline scope { node, above } enclosing))).loops → site ∈ Site.walk false above node := by
          intro inBody
          obtain ⟨cost, listed, inside⟩ := mem_dearest_loops inBody
          obtain ⟨child, filtered, rfl⟩ := List.mem_map.mp listed
          exact deeper child (List.mem_filter.mp filtered).1 inside
        split at inCost
        · exact body inCost
        · rcases List.mem_cons.mp inCost with same | inBody
          · rw [same, Site.walk_eq]
            exact List.mem_cons_self
          · exact body inBody

theorem mem_descendants_of_mem_loops {outline : Outline} {scope : Scope} {site : Site}
    (member : site ∈ (ofScope outline scope).loops) : site ∈ scope.root.descendants := by
  obtain ⟨cost, listed, inside⟩ := mem_dearest_loops member
  obtain ⟨child, isChild, rfl⟩ := List.mem_map.mp listed
  rw [Site.descendants, Site.walkAll_eq]
  exact List.mem_flatMap.mpr ⟨child, isChild, mem_walk_of_mem_loops inside⟩

end Cost
namespace Estimate

theorem ofSelfCalls_recursion (scope : Scope) (cost : Cost) (calls : List Site) (loops : Judgement) :
    (ofSelfCalls scope cost calls loops).recursion ≠ .none := by
  unfold ofSelfCalls
  cases structuralOver? calls with
  | some collection => simp
  | none =>
    dsimp only
    split
    · split <;> simp
    · split <;> simp

theorem withRecursion_cases (scope : Scope) (graph : Option CallGraph) (cost : Cost) (loops : Judgement) :
    withRecursion scope graph cost loops = loops ∨ (withRecursion scope graph cost loops).recursion ≠ .none := by
  have acyclic : ∀ judgement,
      judgement = (if scope.selfCalls.isEmpty then loops else ofSelfCalls scope cost scope.selfCalls loops) →
        judgement = loops ∨ judgement.recursion ≠ .none := by
    rintro judgement rfl
    split
    · exact .inl rfl
    · exact .inr (ofSelfCalls_recursion _ _ _ _)
  unfold withRecursion
  cases graph with
  | none => exact acyclic _ rfl
  | some graph =>
    dsimp only
    split
    · exact .inr (by simp)
    · exact acyclic _ rfl

theorem withUnbounded_cases (outline : Outline) (unbounded : List Site) (judgement : Judgement) :
    withUnbounded outline unbounded judgement = judgement ∨
      (withUnbounded outline unbounded judgement).cost = .indeterminate := by
  unfold withUnbounded
  cases unbounded with
  | nil => exact .inl rfl
  | cons first rest =>
    dsimp only
    split
    · exact .inl rfl
    · exact .inr rfl

-- A cost that is told and does not come from recursion comes from loops.
theorem judge_contributors {outline : Outline} {graph : Option CallGraph} {scope : Scope}
    (still : (judge outline graph scope).recursion = .none) (told : (judge outline graph scope).cost ≠ .indeterminate) :
    (judge outline graph scope).contributors = (Cost.ofScope outline scope).loops.map Site.id := by
  unfold judge at still told ⊢
  dsimp only at still told ⊢
  rcases withUnbounded_cases outline (scope.boundedBy outline .unbounded) (withRecursion scope graph
      (Cost.ofScope outline scope) (ofLoops (Cost.ofScope outline scope) (scope.boundedBy outline .amortized)))
    with same | hidden
  · rw [same] at still ⊢
    rcases withRecursion_cases scope graph (Cost.ofScope outline scope)
      (ofLoops (Cost.ofScope outline scope) (scope.boundedBy outline .amortized)) with loops | recursive
    · rw [loops]
      rfl
    · exact absurd still recursive
  · exact absurd hidden told

end Estimate

namespace Finding

variable {outline : Outline}

-- The finding lies in the scope that it names.
def LiesInScope (outline : Outline) (finding : Finding) : Prop :=
  ∃ scope, outline.scope? finding.scopeId = some scope ∧ scope.span.contains finding.span = true

theorem liesInScope_of_mem {finding : Finding} {scope : Scope} (member : scope ∈ outline.scopes)
    (named : scope.id = finding.scopeId) (inside : scope.span.contains finding.span = true) :
    finding.LiesInScope outline := by
  obtain ⟨found, isFound, sameRoot⟩ := Outline.scope?_root member
  refine ⟨found, named ▸ isFound, ?_⟩
  rwa [Scope.span, sameRoot]

theorem ofMatches_liesInScope {registry : Registry} {estimates : List Estimate} {found : List Match}
    {findings : List Finding} (made : ofMatches outline registry estimates found = .ok findings)
    (inside : ∀ m ∈ found, ∃ scope ∈ outline.scopes, scope.id = m.scopeId ∧ scope.span.contains m.span = true) :
    ∀ finding ∈ findings, finding.LiesInScope outline := by
  intro finding member
  obtain ⟨pairs, firsts, rfl, all⟩ := forall₂_pairs (mapM_eq_ok.mp made)
  obtain ⟨pair, isPair, rfl⟩ := List.mem_map.mp member
  have isCluster : pair.1 ∈ clusters found := firsts ▸ List.mem_map_of_mem isPair
  obtain ⟨_, scopeId, _, span, _⟩ := ofCluster_gathers (clusters_uniform isCluster) (all pair isPair)
  obtain ⟨_, _, _, keys⟩ := mem_clusters isCluster
  obtain ⟨scope, isScope, named, contains⟩ := inside pair.1.outer (keys _ List.mem_cons_self).1
  exact liesInScope_of_mem isScope (named.trans scopeId.symm) (span ▸ contains)

-- Loops that make a scope costly stand in it.
theorem loopsOf_contained {graph : Option CallGraph} {scope : Scope} {loop : Site} (nested : outline.root.Nested)
    (isScope : scope ∈ outline.scopes) (still : (Estimate.ofScope outline graph scope).recursion = .none)
    (told : (Estimate.ofScope outline graph scope).cost ≠ .indeterminate)
    (member : loop ∈ loopsOf outline (Estimate.ofScope outline graph scope)) :
    scope.span.contains loop.span = true := by
  obtain ⟨id, isId, found⟩ := List.mem_filterMap.mp (List.mem_filter.mp member).1
  have contributors : (Estimate.ofScope outline graph scope).contributors =
      (Cost.ofScope outline scope).loops.map Site.id := Estimate.judge_contributors still told
  rw [contributors] at isId
  obtain ⟨counted, inLoops, rfl⟩ := List.mem_map.mp isId
  have below := Cost.mem_descendants_of_mem_loops inLoops
  have held := Outline.holds_scope isScope
  rw [Outline.site?_eq_some (Outline.holds_descendant held below)] at found
  cases found
  exact Outline.contains_of_descendant nested held below

theorem ofEstimate?_liesInScope {hints : Hints} {graph : Option CallGraph} {scope : Scope} {finding : Finding}
    (nested : outline.root.Nested) (isScope : scope ∈ outline.scopes)
    (made : ofEstimate? outline hints (Estimate.ofScope outline graph scope) = some finding) :
    finding.LiesInScope outline := by
  unfold ofEstimate? at made
  obtain ⟨severity, grave, written⟩ := Option.bind_eq_some_iff.mp made
  have told : (Estimate.ofScope outline graph scope).cost ≠ .indeterminate := by
    intro indeterminate
    rw [costSeverity?, indeterminate] at grave
    cases grave
  cases written
  refine liesInScope_of_mem isScope rfl ?_
  dsimp only
  split
  · rename_i loop found
    split at found
    · rename_i still
      exact loopsOf_contained nested isScope (beq_iff_eq.mp still) told (List.mem_of_mem_head? found)
    · cases found
  · exact Span.contains_refl _

theorem select_subset (settings : Settings) (findings : List Finding) : select settings findings ⊆ findings := by
  intro finding member
  have kept : finding ∈
      (findings.filter fun finding => settings.minSeverity ≤ finding.severity).mergeSort precedes := by
    unfold select at member
    dsimp only at member
    split at member
    · exact member
    · exact List.mem_of_mem_take member
  exact (List.mem_filter.mp (List.mem_mergeSort.mp kept)).1

-- Whatever comes of a snippet, nothing else about the finding changes.
theorem synthesize_eq (finding : Finding) (origin : Option Match) (tag : String) :
    ∃ suggestion error, finding.synthesize origin tag = finding.withSuggestion suggestion error := by
  unfold synthesize
  split
  · exact ⟨finding.suggestion, finding.suggestionError, rfl⟩
  · dsimp only
    split
    · exact ⟨_, _, rfl⟩
    · split
      · exact ⟨_, _, rfl⟩
      · exact ⟨_, _, rfl⟩

theorem synthesize_place (finding : Finding) (origin : Option Match) (tag : String) :
    (finding.synthesize origin tag).span = finding.span ∧
      (finding.synthesize origin tag).scopeId = finding.scopeId := by
  obtain ⟨suggestion, error, same⟩ := finding.synthesize_eq origin tag
  rw [same]
  exact ⟨rfl, rfl⟩

theorem synthesizeAll_liesInScope {findings : List Finding} {tag : String}
    (all : ∀ finding ∈ findings, finding.LiesInScope outline) :
    ∀ finding ∈ synthesizeAll findings tag, finding.LiesInScope outline := by
  intro finding member
  obtain ⟨plain, isPlain, rfl⟩ := List.mem_map.mp member
  obtain ⟨span, scopeId⟩ := plain.synthesize_place plain.origin tag
  rw [LiesInScope, span, scopeId]
  exact all plain isPlain

end Finding

-- Estimated scopes are scopes of the outline, however many of them there was time for.
theorem aggregate_liesInScope {outline : Outline} {registry : Registry} {hints : Hints} {settings : Settings}
    {graph : CallGraph} {budget : Budget} {found : List Match} {findings : List Finding} (nested : outline.root.Nested)
    (placed : ∀ m ∈ found, ∃ scope ∈ outline.scopes, scope.id = m.scopeId ∧ scope.span.contains m.span = true)
    (made : aggregate outline registry hints settings found (outline.estimates graph budget).results = .ok findings) :
    ∀ finding ∈ findings, finding.LiesInScope outline := by
  obtain ⟨fromMatches, ofMatches, rfl⟩ := aggregate_eq_ok.mp made
  intro finding member
  rcases List.mem_append.mp (Finding.select_subset _ _ member) with ofMatch | ofEstimate
  · exact Finding.ofMatches_liesInScope ofMatches placed finding ofMatch
  · obtain ⟨estimate, estimated, made⟩ := List.mem_filterMap.mp ofEstimate
    obtain ⟨scope, afforded, rfl⟩ := List.mem_map.mp estimated
    exact Finding.ofEstimate?_liesInScope nested (Budget.afford_subset _ _ afforded) made

-- Rules that report where they look find matches of their own on nodes of the outline.
theorem evaluate_placed {ctx : Context} {registry : Registry} {budget : Budget} {m : Match}
    (isLocal : ∀ rule ∈ registry.rules, rule.Local) (member : m ∈ (evaluate ctx registry budget).found) :
    registry.contains m.ruleId = true ∧
      ∃ place, ctx.outline.Holds place ∧ m.span = place.span ∧ m.scopeId = (ctx.outline.scopeOf place).id := by
  obtain ⟨rule, isRule, site, held, judged⟩ := (evaluate_judged ctx registry budget).1 m member
  obtain ⟨named, placed⟩ := Rule.judge_match (isLocal rule isRule) held judged
  exact ⟨List.any_eq_true.mpr ⟨rule, isRule, beq_iff_eq.mpr named.symm⟩, placed⟩

-- What a report is made of.
theorem analyze_eq_ok {request : Request} {report : Report} (done : analyze request = .ok report) :
    ∃ language outline findings, Language.ofTag? request.tag = some language ∧
      language.outline request.source request.tree = .ok outline ∧
      aggregate outline request.registryInUse request.hints request.settings
        (evaluate (request.context language outline) request.registryInUse request.allowance.rules).found
        (outline.estimates outline.callGraph request.allowance.costs).results = .ok findings ∧
      report.findings = (if request.suggest then Finding.synthesizeAll findings language.text else findings) ∧
      report.failures =
        (evaluate (request.context language outline) request.registryInUse request.allowance.rules).failures ∧
      report.isPartial =
        ((evaluate (request.context language outline) request.registryInUse request.allowance.rules).isPartial ||
          (outline.estimates outline.callGraph request.allowance.costs).isPartial) := by
  unfold analyze at done
  split at done
  · rename_i language isLanguage
    obtain ⟨outline, lowered, done⟩ := bind_eq_ok.mp done
    obtain ⟨findings, aggregated, done⟩ := bind_eq_ok.mp done
    refine ⟨language, outline, findings, isLanguage, mapError_eq_ok.mp lowered, mapError_eq_ok.mp aggregated, ?_⟩
    rcases ite_eq_iff.mp done with ⟨_, refused⟩ | ⟨_, made⟩
    · cases refused
    · cases made
      exact ⟨rfl, rfl, rfl⟩
  · cases done

theorem Request.registryInUse_subset {request : Request}
    (drawn : ∀ rule ∈ request.registry.rules, rule ∈ Catalog.rules) :
    ∀ rule ∈ request.registryInUse.rules, rule ∈ Catalog.rules := by
  intro rule member
  unfold Request.registryInUse Registry.orCatalog at member
  split at member
  · exact member
  · exact drawn rule member

-- Every finding lies in the scope it names, every match in the unit, and no rule is said to have left the tree.
def Report.Contained (report : Report) (request : Request) : Prop :=
  ∃ language outline, Language.ofTag? request.tag = some language ∧
    language.outline request.source request.tree = .ok outline ∧
    (∀ finding ∈ report.findings, finding.LiesInScope outline) ∧
    (∀ m ∈ (evaluate (request.context language outline) request.registryInUse request.allowance.rules).found,
      outline.root.span.contains m.span = true) ∧
    ∀ failure ∈ report.failures, failure.error ≠ outsideText

theorem analyze_contained {request : Request} {report : Report}
    (drawn : ∀ rule ∈ request.registry.rules, rule ∈ Catalog.rules) (nested : ∀ tree ∈ request.tree, tree.Nested)
    (done : analyze request = .ok report) : report.Contained request := by
  obtain ⟨language, outline, findings, isLanguage, lowered, aggregated, findingsEq, failuresEq, _⟩ := analyze_eq_ok done
  have rootNested : outline.root.Nested := Grammar.outline_nested nested (mapError_eq_ok.mp lowered)
  have isLocal : ∀ rule ∈ request.registryInUse.rules, rule.Local := fun rule member =>
    Catalog.rules_local rule (Request.registryInUse_subset drawn rule member)
  have places : ∀ m ∈ (evaluate (request.context language outline) request.registryInUse request.allowance.rules).found,
      outline.root.span.contains m.span = true ∧
        ∃ scope ∈ outline.scopes, scope.id = m.scopeId ∧ scope.span.contains m.span = true := by
    intro m member
    obtain ⟨_, place, placeHeld, span, scopeId⟩ := evaluate_placed isLocal member
    rw [span, scopeId]
    exact ⟨Outline.inBounds_of_holds rootNested placeHeld, _, Outline.scopeOf_mem_scopes placeHeld, rfl,
      Outline.scopeOf_contains rootNested placeHeld⟩
  have inScope := aggregate_liesInScope rootNested (fun m member => (places m member).2) aggregated
  refine ⟨language, outline, isLanguage, lowered, ?_, fun m member => (places m member).1, ?_⟩
  · rw [findingsEq]
    split
    · exact Finding.synthesizeAll_liesInScope inScope
    · exact inScope
  · rw [failuresEq]
    intro failure member
    obtain ⟨rule, isRule, site, held, judged⟩ := (evaluate_judged (request.context language outline)
      request.registryInUse request.allowance.rules).2 failure member
    exact Rule.judge_failure (isLocal rule isRule) rootNested held judged

theorem exists_aggregate {registry : Registry} (drawn : ∀ rule ∈ registry.rules, rule ∈ Catalog.rules) (ctx : Context)
    (budget : Budget) (hints : Hints) (settings : Settings) (estimates : List Estimate) :
    ∃ findings, aggregate ctx.outline registry hints settings (evaluate ctx registry budget).found estimates =
      .ok findings := by
  have placed : ∀ m ∈ (evaluate ctx registry budget).found, registry.contains m.ruleId = true ∧
      ∃ place, ctx.outline.Holds place ∧ m.span = place.span ∧ m.scopeId = (ctx.outline.scopeOf place).id :=
    fun _ => evaluate_placed fun rule isRule => Catalog.rules_local rule (drawn rule isRule)
  refine exists_findings drawn (fun m member => (placed m member).1) (fun m member => ?_) hints settings estimates
  obtain ⟨_, place, placeHeld, _, scopeId⟩ := placed m member
  exact ⟨_, Outline.scopeOf_mem_scopes placeHeld, scopeId.symm⟩

theorem analyze_of_aggregate {request : Request} {language : Language} {outline : Outline} {findings : List Finding}
    (lenient : request.strict = false) (isLanguage : Language.ofTag? request.tag = some language)
    (lowered : language.outline request.source request.tree = .ok outline)
    (aggregated : aggregate outline request.registryInUse request.hints request.settings
      (evaluate (request.context language outline) request.registryInUse request.allowance.rules).found
      (outline.estimates outline.callGraph request.allowance.costs).results = .ok findings) :
    ∃ report, analyze request = .ok report ∧
      report.findings = (if request.suggest then Finding.synthesizeAll findings language.text else findings) ∧
      report.isPartial =
        ((evaluate (request.context language outline) request.registryInUse request.allowance.rules).isPartial ||
          (outline.estimates outline.callGraph request.allowance.costs).isPartial) := by
  have accepted : ∀ cut : Bool, ¬(cut && request.strict) = true := by simp [lenient]
  unfold analyze
  rw [isLanguage]
  exact ⟨_, bind_eq_ok.mpr ⟨outline, mapError_eq_ok.mpr lowered,
    bind_eq_ok.mpr ⟨findings, mapError_eq_ok.mpr aggregated, if_neg (accepted _)⟩⟩, rfl, rfl⟩

-- Nothing after the outline keeps an analysis from its answer, unless it is to be refused for the time it took.
theorem analyze_answers {request : Request} {language : Language} {outline : Outline}
    (drawn : ∀ rule ∈ request.registry.rules, rule ∈ Catalog.rules) (lenient : request.strict = false)
    (isLanguage : Language.ofTag? request.tag = some language)
    (lowered : language.outline request.source request.tree = .ok outline) :
    ∃ report, analyze request = .ok report := by
  obtain ⟨findings, aggregated⟩ := exists_aggregate (Request.registryInUse_subset drawn) (request.context language outline)
    request.allowance.rules request.hints request.settings (outline.estimates outline.callGraph request.allowance.costs).results
  obtain ⟨report, made, _⟩ := analyze_of_aggregate lenient isLanguage lowered aggregated
  exact ⟨report, made⟩

theorem CallGraph.cycleNames_of_no_functions {graph : CallGraph} (none : graph.functions = []) (id : Nat) :
    graph.cycleNames id = [] := by
  simp [cycleNames, none]

theorem Outline.scopes_eq_unit {outline : Outline}
    (none : outline.preorder.all (fun site => !site.node.isFunction) = true) : outline.scopes = [outline.unitScope] := by
  have flat : outline.sites.filter (·.node.isFunction) = [] := by
    rw [List.filter_eq_nil_iff]
    intro site member
    have plain := List.all_eq_true.mp none site (mem_preorder.mpr (mem_sites.mp member))
    simpa using plain
  rw [scopes_eq, flat]
  rfl

theorem Outline.functions_eq_nil {outline : Outline}
    (none : outline.preorder.all (fun site => !site.node.isFunction) = true) : outline.functions = [] := by
  rw [functions, scopes_eq_unit none]
  rfl

def nestedLoopsTree : Tree :=
  let leaf (type : String) (first last : Nat) (fields : List String) : Tree := .node { type, first, last, fields } []
  .node { type := "module", first := 0, last := 27 }
    [.node { type := "for_statement", first := 0, last := 27 }
      [leaf "identifier" 4 5 ["left"], leaf "identifier" 9 10 ["right"],
       .node { type := "block", first := 14, last := 27, fields := ["body"] }
        [.node { type := "for_statement", first := 14, last := 27 }
          [leaf "identifier" 18 19 ["left"], leaf "identifier" 23 24 ["right"], leaf "block" 26 27 ["body"]]]]]

def nestedLoops : Request :=
  { tag := "python", tree := some nestedLoopsTree, suggest := false
    source := { bytes := "for a in b:\n  for c in d: e\n".toUTF8.toList } }

theorem nestedLoops_lowered : (Language.python.outline nestedLoops.source nestedLoops.tree).toOption.isSome = true := by
  decide +kernel

def nestedLoopsOutline : Outline :=
  (Language.python.outline nestedLoops.source nestedLoops.tree).toOption.get nestedLoops_lowered

theorem nestedLoops_judge :
    Estimate.judge nestedLoopsOutline (some nestedLoopsOutline.callGraph) nestedLoopsOutline.unitScope =
      Estimate.judge nestedLoopsOutline none nestedLoopsOutline.unitScope := by
  have noCycle : nestedLoopsOutline.callGraph.cycleNames nestedLoopsOutline.unitScope.id = [] :=
    CallGraph.cycleNames_of_no_functions (Outline.functions_eq_nil (by decide +kernel)) _
  simp only [Estimate.judge, Estimate.withRecursion, noCycle]

theorem nestedLoops_estimate :
    (Estimate.ofScope nestedLoopsOutline (some nestedLoopsOutline.callGraph) nestedLoopsOutline.unitScope).cost =
      .quadratic := by
  have cost : (Estimate.judge nestedLoopsOutline none nestedLoopsOutline.unitScope).cost = .quadratic := by
    decide +kernel
  simp only [Estimate.ofScope, nestedLoops_judge, cost]

-- The same loops, with time for some of the rules and for all of the estimates.
def hurriedLoops (seconds : Float) : Request :=
  { nestedLoops with seconds := some seconds, pace := fun _ => { rules := .checks 12 } }

theorem nestedLoops_quadratic : ∃ finding, Finding.ofEstimate? nestedLoopsOutline {} (Estimate.ofScope nestedLoopsOutline
    (some nestedLoopsOutline.callGraph) nestedLoopsOutline.unitScope) = some finding ∧
    finding.patternId = "quadratic-complexity" ∧ .medium ≤ finding.severity := by
  simp only [Finding.ofEstimate?, Finding.costSeverity?, Finding.costPattern, nestedLoops_estimate]
  refine ⟨_, rfl, rfl, ?_⟩
  dsimp only
  split <;> decide

-- There are more rules than the twelve checks that pass.
theorem hurriedLoops_cut (seconds : Float) :
    (evaluate ((hurriedLoops seconds).context .python nestedLoopsOutline) (hurriedLoops seconds).registryInUse
      (hurriedLoops seconds).allowance.rules).isPartial = true := by
  have enough : 12 < (Catalog.rules.filter (Registry.admits [] [] "python")).length := by decide +kernel
  have sorted := (List.mergeSort_perm Catalog.rules fun a b => a.id ≤ b.id).filter (Registry.admits [] [] "python")
  rw [← sorted.length_eq] at enough
  obtain ⟨count, isCut⟩ := Evaluation.run_cutAt ((hurriedLoops seconds).context .python nestedLoopsOutline)
    nestedLoopsOutline.sites 12 (Registry.rulesFor Catalog.registry "python" [] [])
  exact isCut.isPartial_of_few enough

theorem hurriedLoops_answered (seconds : Float) : ∃ report, analyze (hurriedLoops seconds) = .ok report ∧
    report.isPartial = true ∧
    ∃ finding ∈ report.findings, finding.patternId = "quadratic-complexity" ∧ .medium ≤ finding.severity := by
  have isLanguage : Language.ofTag? (hurriedLoops seconds).tag = some .python := by
    change Language.ofTag? "python" = some .python
    decide +kernel
  have lowered : Language.python.outline (hurriedLoops seconds).source (hurriedLoops seconds).tree =
      .ok nestedLoopsOutline := eq_ok_get _
  obtain ⟨report, done⟩ := analyze_answers (fun _ member => member) rfl isLanguage lowered
  obtain ⟨language, outline, findings, sameLanguage, sameOutline, aggregated, findingsEq, _, cut⟩ := analyze_eq_ok done
  cases isLanguage.symm.trans sameLanguage
  cases lowered.symm.trans sameOutline
  refine ⟨report, done, ?_, ?_⟩
  · rw [cut, Bool.or_eq_true]
    exact .inl (hurriedLoops_cut seconds)
  · obtain ⟨fromMatches, _, rfl⟩ := aggregate_eq_ok.mp aggregated
    obtain ⟨finding, made, grave⟩ := nestedLoops_quadratic
    refine ⟨finding, ?_, grave⟩
    rw [findingsEq]
    change finding ∈ Finding.select {} _
    refine (Finding.select_perm rfl rfl _).mem_iff.mpr (List.mem_append_right _ (List.mem_filterMap.mpr ⟨_, ?_, made⟩))
    exact List.mem_map_of_mem List.mem_cons_self

theorem hurriedLoops_contained :
    (∀ rule ∈ (hurriedLoops 1).registry.rules, rule ∈ Catalog.rules) ∧
      (∀ tree ∈ (hurriedLoops 1).tree, tree.Nested) ∧
      ∃ report, analyze (hurriedLoops 1) = .ok report ∧ report.isPartial = true ∧
        (∃ finding ∈ report.findings, finding.patternId = "quadratic-complexity") ∧
        report.Contained (hurriedLoops 1) := by
  have drawn : ∀ rule ∈ (hurriedLoops 1).registry.rules, rule ∈ Catalog.rules := fun _ member => member
  have nested : ∀ tree ∈ (hurriedLoops 1).tree, tree.Nested := by
    rintro tree ⟨⟩
    decide
  obtain ⟨report, done, cut, finding, listed, named, _⟩ := hurriedLoops_answered 1
  exact ⟨drawn, nested, report, done, cut, ⟨finding, listed, named⟩, analyze_contained drawn nested done⟩

end Perflint
