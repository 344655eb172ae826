import Mathlib
import Perflint.Proofs.Containment
import Perflint.Proofs.ShiftedEstimates

namespace Perflint

namespace Cluster

def shift (lines : Nat) (cluster : Cluster) : Cluster :=
  { outer := cluster.outer.shift lines, inner := cluster.inner.map (Match.shift lines) }

variable (lines : Nat)

theorem precedes_shift (first second : Match) : precedes (first.shift lines) (second.shift lines) = precedes first second := by
  unfold precedes Match.shift
  dsimp only [Span.start_shift, Span.finish_shift]
  rw [Position.lt_shift, Position.lt_shift, Position.beq_shift, Position.beq_shift]

theorem insert_shift (m : Match) (clusters : List Cluster) :
    insert (m.shift lines) (clusters.map (shift lines)) = (insert m clusters).map (shift lines) := by
  induction clusters with
  | nil => rfl
  | cons cluster clusters ih =>
    have covers : (cluster.shift lines).outer.span.contains (m.shift lines).span = cluster.outer.span.contains m.span :=
      Span.contains_shift lines _ _
    rw [List.map_cons, insert, insert, covers]
    split
    · simp [shift]
    · rw [ih, List.map_cons]

theorem ofMatches_shift (found : List Match) :
    ofMatches (found.map (Match.shift lines)) = (ofMatches found).map (shift lines) := by
  have sorted : (found.map (Match.shift lines)).mergeSort precedes = (found.mergeSort precedes).map (Match.shift lines) :=
    (List.map_mergeSort fun first _ second _ => (precedes_shift lines first second).symm).symm
  have fold : ∀ (sorted : List Match) (clusters : List Cluster),
      (sorted.map (Match.shift lines)).foldl (fun clusters m => insert m clusters) (clusters.map (shift lines)) =
        (sorted.foldl (fun clusters m => insert m clusters) clusters).map (shift lines) := by
    intro sorted
    induction sorted with
    | nil => intro clusters; rfl
    | cons m sorted ih =>
      intro clusters
      rw [List.map_cons, List.foldl_cons, List.foldl_cons, insert_shift, ih]
  rw [ofMatches, sorted]
  exact fold _ []

theorem gravest_shift (found : List Match) :
    gravest (found.map (Match.shift lines)) = (gravest found).map (Match.shift lines) := by
  induction found with
  | nil => rfl
  | cons m found ih =>
    rw [List.map_cons, gravest, gravest, ih]
    cases gravest found with
    | none => rfl
    | some other =>
      simp only [Option.map_some, apply_ite (Option.map (Match.shift lines))]
      rfl

theorem lead_shift (cluster : Cluster) : (cluster.shift lines).lead = cluster.lead.shift lines := by
  unfold lead shift
  dsimp only
  rw [gravest_shift]
  cases gravest cluster.inner with
  | none => rfl
  | some m =>
    simp only [Option.map_some, apply_ite (Match.shift lines)]
    rfl

theorem ruleIds_shift (cluster : Cluster) : (cluster.shift lines).ruleIds = cluster.ruleIds := by
  simp only [ruleIds, members, shift, List.map_cons, List.map_map]
  rfl

end Cluster

namespace Finding

-- A finding made of a match, so many lines further down.
def shift (lines : Nat) (finding : Finding) : Finding :=
  { finding with span := finding.span.shift lines, origin := finding.origin.map (Match.shift lines) }

variable (lines : Nat)

theorem clusters_shift (found : List Match) :
    clusters (found.map (Match.shift lines)) = (clusters found).map (Cluster.shift lines) := by
  have keys : groupKeys (found.map (Match.shift lines)) = groupKeys found := by
    rw [groupKeys, groupKeys, List.map_map]
    rfl
  rw [clusters, clusters, keys, List.map_flatMap]
  refine List.flatMap_congr fun key _ => ?_
  rw [List.filter_map, Cluster.ofMatches_shift]
  rfl

theorem ofCluster_shift (outline : Outline) (registry : Registry) (cluster : Cluster) :
    ofCluster (outline.shift lines) registry (cluster.shift lines) =
      (ofCluster outline registry cluster).map (shift lines) := by
  have texts : (cluster.lead.shift lines).captureTexts = cluster.lead.captureTexts := by
    simp [Match.captureTexts, Match.shift, Capture.shift, Function.comp_def]
  have ruleId : (cluster.lead.shift lines).ruleId = cluster.lead.ruleId := rfl
  have scopeId : (cluster.lead.shift lines).scopeId = cluster.lead.scopeId := rfl
  unfold ofCluster
  dsimp only
  rw [Cluster.lead_shift, texts, Cluster.ruleIds_shift, ruleId, scopeId, Outline.scope?_shift]
  cases registry.get? cluster.lead.ruleId with
  | none => rfl
  | some rule =>
    cases outline.scope? cluster.lead.scopeId with
    | none => rfl
    | some scope =>
      dsimp only [Option.map_some]
      cases rule.render cluster.lead.captureTexts with
      | error fault => rfl
      | ok message => rfl

-- The same finding so many lines further down. What it says of a cost may quote lines.
structure ShiftOf (lines : Nat) (finding shifted : Finding) : Prop where
  patternId : shifted.patternId = finding.patternId
  title : shifted.title = finding.title
  category : shifted.category = finding.category
  severity : shifted.severity = finding.severity
  span : shifted.span = finding.span.shift lines
  scope : shifted.scope = finding.scope
  scopeId : shifted.scopeId = finding.scopeId
  message : Relined lines finding.message shifted.message
  remediation : shifted.remediation = finding.remediation
  complexity : Option.Rel (Relined lines) finding.complexity shifted.complexity
  sources : shifted.sources = finding.sources
  merged : shifted.merged = finding.merged
  templateKey : shifted.templateKey = finding.templateKey
  captures : shifted.captures = finding.captures

variable {lines}

theorem annotated_shift {estimates shifted : List Estimate} (same : List.Forall₂ (Estimate.ShiftOf lines) estimates shifted)
    (finding : Finding) :
    ∃ complexity, annotated shifted (finding.shift lines) = { (annotated estimates finding).shift lines with complexity } ∧
      Option.Rel (Relined lines) (annotated estimates finding).complexity complexity := by
  have unchanged : Option.Rel (Relined lines) finding.complexity finding.complexity := by
    cases finding.complexity with
    | none => exact .none
    | some text => exact .some (.text text)
  have found : Option.Rel (Estimate.ShiftOf lines) (estimates.reverse.find? (·.scopeId == finding.scopeId))
      (shifted.reverse.find? (·.scopeId == finding.scopeId)) :=
    forall₂_find? (List.forall₂_reverse_iff.mpr same) fun _ _ related => by rw [related.scopeId]
  have scopeId : (finding.shift lines).scopeId = finding.scopeId := rfl
  unfold annotated
  rw [scopeId]
  generalize estimates.reverse.find? (·.scopeId == finding.scopeId) = estimate? at found
  generalize shifted.reverse.find? (·.scopeId == finding.scopeId) = shifted? at found
  cases found with
  | none => exact ⟨finding.complexity, rfl, unchanged⟩
  | @some estimate moved related =>
    have constant : moved.isConstant = estimate.isConstant := by rw [Estimate.isConstant, related.cost, Estimate.isConstant]
    dsimp only
    rw [constant]
    split
    · exact ⟨finding.complexity, rfl, unchanged⟩
    · exact ⟨some moved.headline, rfl, .some related.headline⟩

section Costs

variable (outline : Outline) (hints : Hints) {estimate shifted : Estimate}

theorem loopsOf_shift (same : shifted.contributors = estimate.contributors) :
    loopsOf (outline.shift lines) shifted = (loopsOf outline estimate).map (Site.shift lines) := by
  have sites : estimate.contributors.filterMap (outline.shift lines).site? =
      (estimate.contributors.filterMap outline.site?).map (Site.shift lines) := by
    rw [List.map_filterMap]
    exact List.filterMap_congr fun id _ => outline.site?_shift lines id
  rw [loopsOf, loopsOf, same, sites, List.filter_map]
  simp only [Function.comp_def, Site.node_shift, Node.iterates_shift]

theorem suspectsLargeInput_shift (same : shifted.contributors = estimate.contributors) :
    suspectsLargeInput (outline.shift lines) hints shifted = suspectsLargeInput outline hints estimate := by
  rw [suspectsLargeInput, suspectsLargeInput, loopsOf_shift outline same, List.any_map]
  refine congrArg (fun suspected => (loopsOf outline estimate).any suspected) (funext fun loop => ?_)
  simp only [Function.comp_apply, Site.node_shift, Node.loopRoot_shift, Node.loopText_shift, Outline.fetchedOrigin?_shift]
  cases outline.fetchedOrigin? loop with
  | none => rfl
  | some origin => rfl

theorem ofEstimate?_shiftOf (same : estimate.ShiftOf lines shifted) :
    Option.Rel (ShiftOf lines) (ofEstimate? outline hints estimate) (ofEstimate? (outline.shift lines) hints shifted) := by
  have severity : costSeverity? (outline.shift lines) hints shifted = costSeverity? outline hints estimate := by
    rw [costSeverity?, costSeverity?, same.cost, suspectsLargeInput_shift outline hints same.contributors]
  have loop : (if shifted.recursion == .none then (loopsOf (outline.shift lines) shifted).head? else none) =
      (if estimate.recursion == .none then (loopsOf outline estimate).head? else none).map (Site.shift lines) := by
    rw [same.recursion, loopsOf_shift outline same.contributors, List.head?_map,
      apply_ite (Option.map (Site.shift lines)), Option.map_none]
  unfold ofEstimate?
  rw [severity]
  cases costSeverity? outline hints estimate with
  | none => exact .none
  | some severity =>
    refine .some ?_
    rw [loop, same.cost, same.scope]
    generalize (if estimate.recursion == .none then (loopsOf outline estimate).head? else none) = loop?
    constructor
    case message => exact .append (.text _) same.headline
    case complexity => exact .some same.headline
    case span =>
      cases loop? with
      | none => exact same.span
      | some loop => exact loop.span_shift lines
    case captures =>
      cases loop? with
      | none => rfl
      | some loop => simp
    case scopeId => exact same.scopeId
    all_goals rfl

end Costs

-- How a finding and the same finding further down are made.
inductive Moved (lines : Nat) (outline : Outline) (graph : CallGraph) (hints : Hints) : Finding → Finding → Prop where
  | ofMatch {finding : Finding} {complexity : Option String} (told : finding.origin.isSome = true)
      (quoted : Option.Rel (Relined lines) finding.complexity complexity) :
      Moved lines outline graph hints finding { finding.shift lines with complexity }
  | ofScope {finding shifted : Finding} {scope : Scope} (isScope : scope ∈ outline.scopes)
      (made : ofEstimate? outline hints (Estimate.ofScope outline (some graph) scope) = some finding)
      (moved : ofEstimate? (outline.shift lines) hints
        (Estimate.ofScope (outline.shift lines) (some (graph.shift lines)) (scope.shift lines)) = some shifted) :
      Moved lines outline graph hints finding shifted

theorem Moved.shiftOf {outline : Outline} {graph : CallGraph} {hints : Hints} {finding shifted : Finding}
    (moved : Moved lines outline graph hints finding shifted) : finding.ShiftOf lines shifted := by
  cases moved with
  | ofMatch told quoted => exact ⟨rfl, rfl, rfl, rfl, rfl, rfl, rfl, .text _, rfl, quoted, rfl, rfl, rfl, rfl⟩
  | @ofScope _ owner isScope made moved =>
    have related := ofEstimate?_shiftOf outline hints (@Estimate.ofScope_shiftOf lines outline owner (some graph))
    rw [made, Option.map_some, moved] at related
    cases related with
    | some same => exact same

section Lists

variable (outline : Outline) (graph : CallGraph) (hints : Hints)

theorem ofMatches_moved {registry : Registry} {estimates shifted : List Estimate} {found : List Match} {findings : List Finding}
    (same : List.Forall₂ (Estimate.ShiftOf lines) estimates shifted)
    (made : ofMatches outline registry estimates found = .ok findings) :
    ∃ moved, ofMatches (outline.shift lines) registry shifted (found.map (Match.shift lines)) = .ok moved ∧
      List.Forall₂ (Moved lines outline graph hints) findings moved := by
  have told := (ofMatches_partition made).2
  obtain ⟨pairs, firsts, rfl, all⟩ := forall₂_pairs (mapM_eq_ok.mp made)
  have each : ∀ pair ∈ pairs, ∃ moved,
      (ofCluster (outline.shift lines) registry (pair.1.shift lines)).map (annotated shifted) = .ok moved ∧
        Moved lines outline graph hints pair.2 moved := by
    intro pair member
    have here := all pair member
    rw [ofCluster_shift]
    cases built : ofCluster outline registry pair.1 with
    | error fault =>
      rw [built] at here
      cases here
    | ok plain =>
      rw [built] at here
      have isFinding : pair.2 = annotated estimates plain := (Except.ok.inj here).symm
      obtain ⟨complexity, moved, quoted⟩ := annotated_shift same plain
      rw [← isFinding] at moved quoted
      refine ⟨_, congrArg Except.ok moved, .ofMatch (told _ (List.mem_map_of_mem member)) quoted⟩
  obtain ⟨moved, related⟩ := exists_forall₂ each
  refine ⟨moved, mapM_eq_ok.mpr ?_, ?_⟩
  · rw [clusters_shift, ← firsts, List.map_map, List.forall₂_map_left_iff]
    exact related.imp fun _ _ both => both.1
  · rw [List.forall₂_map_left_iff]
    exact related.imp fun _ _ both => both.2

theorem ofScopes_moved (budget : Budget) :
    List.Forall₂ (Moved lines outline graph hints)
      ((outline.estimates graph budget).results.filterMap (ofEstimate? outline hints))
      (((outline.shift lines).estimates (graph.shift lines) budget).results.filterMap
        (ofEstimate? (outline.shift lines) hints)) := by
  have part := budget.afford_subset outline.scopes
  unfold Outline.estimates
  rw [Outline.scopes_shift, Budget.afford_map]
  generalize budget.afford outline.scopes = afforded at part ⊢
  obtain ⟨scopes, complete⟩ := afforded
  dsimp only at part ⊢
  rw [List.map_map, List.filterMap_map, List.filterMap_map]
  refine List.rel_filterMap (R := fun scope other => scope = other ∧ scope ∈ outline.scopes) ?_
    (List.forall₂_same.mpr fun scope member => ⟨rfl, part member⟩)
  rintro scope _ ⟨rfl, isScope⟩
  have related := ofEstimate?_shiftOf outline hints (@Estimate.ofScope_shiftOf lines outline scope (some graph))
  rw [Option.map_some] at related
  rw [Function.comp_apply, Function.comp_apply, Function.comp_apply]
  revert related
  cases made : ofEstimate? outline hints (Estimate.ofScope outline (some graph) scope) with
  | none =>
    cases ofEstimate? (outline.shift lines) hints _ with
    | none => exact fun _ => .none
    | some shifted => nofun
  | some finding =>
    cases moved : ofEstimate? (outline.shift lines) hints _ with
    | none => nofun
    | some shifted => exact fun _ => .some (.ofScope isScope made moved)

theorem select_moved (settings : Settings) {findings moved : List Finding}
    (all : List.Forall₂ (Moved lines outline graph hints) findings moved) :
    List.Forall₂ (Moved lines outline graph hints) (select settings findings) (select settings moved) := by
  have kept : List.Forall₂ (Moved lines outline graph hints)
      ((findings.filter fun finding => settings.minSeverity ≤ finding.severity).mergeSort precedes)
      ((moved.filter fun finding => settings.minSeverity ≤ finding.severity).mergeSort precedes) := by
    refine forall₂_mergeSort (List.rel_filter ?_ all) ?_
    · intro finding shifted related
      dsimp only
      rw [related.shiftOf.severity]
    · intro first first' second second' isFirst isSecond
      have same := isFirst.shiftOf
      have other := isSecond.shiftOf
      rw [precedes, precedes, same.severity, other.severity, same.span, other.span, same.patternId, other.patternId,
        Span.before_shift, Span.sameRegion_shift]
  unfold select
  dsimp only
  split
  · exact kept
  · exact List.forall₂_take _ kept

end Lists

end Finding

theorem aggregate_moved (lines : Nat) (outline : Outline) (registry : Registry) (hints : Hints) (settings : Settings)
    (found : List Match) (graph : CallGraph) (budget : Budget) {findings : List Finding}
    (answered : aggregate outline registry hints settings found (outline.estimates graph budget).results = .ok findings) :
    ∃ moved, aggregate (outline.shift lines) registry hints settings (found.map (Match.shift lines))
        ((outline.shift lines).estimates (graph.shift lines) budget).results = .ok moved ∧
      List.Forall₂ (Finding.Moved lines outline graph hints) findings moved := by
  obtain ⟨fromMatches, made, rfl⟩ := aggregate_eq_ok.mp answered
  obtain ⟨moved, remade, related⟩ := Finding.ofMatches_moved outline graph hints
    (outline.estimates_shiftOf lines graph budget).1 made
  refine ⟨_, aggregate_eq_ok.mpr ⟨moved, remade, rfl⟩, ?_⟩
  exact Finding.select_moved outline graph hints settings
    (List.rel_append related (Finding.ofScopes_moved outline graph hints budget))

namespace Outline

-- What the rules look at when a unit is analysed.
def context (outline : Outline) (language : String) (hints : Hints) (settings : Settings) : Context :=
  { outline, language, hints, settings, graph := outline.callGraph }

variable (lines : Nat) (outline : Outline) (language : String) (hints : Hints) (settings : Settings)

theorem context_shift :
    (outline.shift lines).context language hints settings = (outline.context language hints settings).shift lines := by
  rw [context, callGraph_shift]
  rfl

theorem evaluate_context_shift (budget : Budget) :
    evaluate ((outline.shift lines).context language hints settings) Catalog.registry budget =
      (evaluate (outline.context language hints settings) Catalog.registry budget).shift lines := by
  rw [context_shift, evaluate_shift Catalog.rules_followShifts]

-- The findings of a unit and those of the same unit further down, made one by one in the same way.
theorem findings_moved (ruleBudget costBudget : Budget) :
    ∃ findings moved,
      aggregate outline Catalog.registry hints settings
        (evaluate (outline.context language hints settings) Catalog.registry ruleBudget).found
        (outline.estimates outline.callGraph costBudget).results = .ok findings ∧
      aggregate (outline.shift lines) Catalog.registry hints settings
        (evaluate ((outline.shift lines).context language hints settings) Catalog.registry ruleBudget).found
        ((outline.shift lines).estimates (outline.shift lines).callGraph costBudget).results = .ok moved ∧
      List.Forall₂ (Finding.Moved lines outline outline.callGraph hints) findings moved := by
  obtain ⟨findings, answered⟩ := @exists_aggregate Catalog.registry (fun _ isRule => isRule)
    (outline.context language hints settings) ruleBudget hints settings
    (outline.estimates outline.callGraph costBudget).results
  obtain ⟨moved, shifted, related⟩ := aggregate_moved lines outline Catalog.registry hints settings _ outline.callGraph
    costBudget answered
  refine ⟨findings, moved, answered, ?_, related⟩
  rw [evaluate_context_shift, callGraph_shift]
  exact shifted

end Outline

theorem analysis_shift (outline : Outline) (language : String) (hints : Hints) (settings : Settings)
    (ruleBudget costBudget : Budget) (lines : Nat) :
    let shifted := outline.shift lines
    let result := evaluate (outline.context language hints settings) Catalog.registry ruleBudget
    let shiftedResult := evaluate (shifted.context language hints settings) Catalog.registry ruleBudget
    let estimates := outline.estimates outline.callGraph costBudget
    let shiftedEstimates := shifted.estimates shifted.callGraph costBudget
    shiftedResult = result.shift lines ∧
      List.Forall₂ (Estimate.ShiftOf lines) estimates.results shiftedEstimates.results ∧
      shiftedEstimates.isPartial = estimates.isPartial ∧
      ∃ findings shiftedFindings,
        aggregate outline Catalog.registry hints settings result.found estimates.results = .ok findings ∧
        aggregate shifted Catalog.registry hints settings shiftedResult.found shiftedEstimates.results =
          .ok shiftedFindings ∧
        List.Forall₂ (Finding.ShiftOf lines) findings shiftedFindings := by
  intro shifted result shiftedResult estimates shiftedEstimates
  have estimated := outline.estimates_shiftOf lines outline.callGraph costBudget
  rw [← Outline.callGraph_shift] at estimated
  obtain ⟨findings, moved, answered, answeredAgain, related⟩ :=
    outline.findings_moved lines language hints settings ruleBudget costBudget
  refine ⟨outline.evaluate_context_shift lines language hints settings ruleBudget, estimated.1, estimated.2, findings, moved,
    answered, answeredAgain, related.imp fun _ _ => Finding.Moved.shiftOf⟩

end Perflint
