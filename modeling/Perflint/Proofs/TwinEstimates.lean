import Mathlib
import Perflint.Cost.Estimate
import Perflint.Proofs.CostPaths
import Perflint.Proofs.StalledLoops
import Perflint.Proofs.Twins

namespace Perflint

-- Two scopes, each in an outline of its own, that an estimate cannot tell apart: their nodes are twins, and the
-- names that they look up outside give the same answers.
structure Scope.Twin (outline outline' : Outline) (scope scope' : Scope) : Prop where
  roots : Site.Mirrored outline outline' scope.root scope'.root
  source : outline'.source = outline.source
  isUnit : scope'.isUnit = scope.isUnit
  name : scope'.name = scope.name
  paramCount : scope'.paramCount = scope.paramCount
  depth : scope'.depth = scope.depth
  isFunction : scope.isUnit = false → scope.root.node.isFunction = true
  assigned : ∀ name place,
    (outline'.lastAssignment? scope' name place).isSome = (outline.lastAssignment? scope name place).isSome
  constant : ∀ {loop loop' l}, Site.Twin scope.root scope'.root loop loop' → loop ∈ scope.nodes →
    loop.node.loop? = some l → Bound.isConstant outline' scope' loop' l = Bound.isConstant outline scope loop l

variable {outline outline' : Outline} {scope scope' : Scope}

namespace Bound

variable {loop loop' outer outer' : Site}

section Region

variable (roots : Site.Mirrored outline outline' scope.root scope'.root)
  (twins : Site.PlainTwin scope.root scope'.root loop loop')

include roots twins

theorem assignmentsIn_twin : assignmentsIn loop' = assignmentsIn loop := by
  refine (eq_of_forall₂ (List.rel_filterMap (fun _ _ pair => rel_of_eq ?_)
    (twins.twin.descendantsInScope roots (.inr twins.plain)))).symm
  exact (Node.assignment?_of_info (pair.info roots)).symm

theorem updatedNames_twin (l : LoopInfo) : updatedNames loop' l = updatedNames loop l := by
  have changed : (loop'.descendantsInScope.map fun site => changedBy site.node) =
      loop.descendantsInScope.map fun site => changedBy site.node := by
    refine (eq_of_forall₂ (List.rel_map (fun _ _ pair => ?_)
      (twins.twin.descendantsInScope roots (.inr twins.plain)))).symm
    rw [changedBy, changedBy, pair.info roots]
  rw [updatedNames, updatedNames, List.flatMap_def, List.flatMap_def, changed]

theorem isHalving_twin (l : LoopInfo) (names : List String) : isHalving loop' l names = isHalving loop l names := by
  rw [isHalving, isHalving, assignmentsIn_twin roots twins]

end Region

variable (scopes : scope.Twin outline outline' scope') (twins : Site.PlainTwin scope.root scope'.root loop loop')

include scopes twins

theorem keepsCursor_twin (around : Site.PlainTwin scope.root scope'.root outer outer') (updated : List String) :
    keepsCursor outline' scope' loop' outer' updated = keepsCursor outline scope loop outer updated := by
  have params : startParams scope' = startParams scope := by
    rw [startParams, startParams, Node.function?_of_info scopes.roots.mirrors.info]
  have fresh : ∀ name, (outer'.descendantsInScope.all fun site =>
      loop'.node.ids.contains site.id || !site.node.bindsAfresh name) =
        outer.descendantsInScope.all fun site => loop.node.ids.contains site.id || !site.node.bindsAfresh name := by
    intro name
    refine forall₂_all_eq (around.twin.descendantsInScope scopes.roots (.inr around.plain)) fun site site' pair => ?_
    have inside : loop'.node.ids.contains site'.id = loop.node.ids.contains site.id := by
      rw [Bool.eq_iff_iff, List.contains_iff_mem, List.contains_iff_mem]
      exact twins.twin.mem_ids scopes.roots pair
    rw [inside, Node.bindsAfresh_of_info (pair.info scopes.roots)]
  unfold keepsCursor
  dsimp only
  simp only [fresh, params, around.twin.span scopes.roots, scopes.assigned,
    Node.loop?_of_info (around.twin.info scopes.roots)]

theorem isAmortized_twin {enclosing enclosing' : List Site} (updated : List String)
    (around : List.Forall₂ (Site.PlainTwin scope.root scope'.root) enclosing enclosing') :
    isAmortized outline' scope' loop' updated enclosing' = isAmortized outline scope loop updated enclosing := by
  have nearest := forall₂_find? around fun outer outer' pair => Node.isLoop_of_info (pair.twin.info scopes.roots)
  unfold isAmortized
  generalize enclosing.find? (·.node.isLoop) = outer? at nearest
  generalize enclosing'.find? (·.node.isLoop) = outer?' at nearest
  cases nearest with
  | none => rfl
  | some pair => exact keepsCursor_twin scopes twins pair updated

theorem ofSite_twin {enclosing enclosing' : List Site} (inScope : loop ∈ scope.root.descendantsInScope)
    (around : List.Forall₂ (Site.PlainTwin scope.root scope'.root) enclosing enclosing') :
    ofSite outline' scope' loop' enclosing' = ofSite outline scope loop enclosing := by
  have info := twins.twin.info scopes.roots
  have member : loop ∈ scope.nodes := List.mem_filter.mpr ⟨inScope, by simp [twins.plain]⟩
  unfold ofSite
  rw [Node.loop?_of_info info, Node.iterates_of_info info]
  cases isLoop : loop.node.loop? with
  | none => rfl
  | some l =>
    simp only [ofLoop, ofCondition, scopes.constant twins.twin member isLoop, updatedNames_twin scopes.roots twins,
      isHalving_twin scopes.roots twins, isAmortized_twin scopes twins _ around]

end Bound

namespace Cost

-- The same cost of loops that stand at the same places.
structure Agrees (cost cost' : Cost) : Prop where
  degree : cost'.degree = cost.degree
  logs : cost'.logs = cost.logs
  spans : cost'.loops.map Site.span = cost.loops.map Site.span

theorem dearest_agrees {costs costs' : List Cost} (all : List.Forall₂ Agrees costs costs') :
    (dearest costs).Agrees (dearest costs') := by
  have fold : ∀ {best best' : Cost}, best.Agrees best' →
      (costs.foldl (fun best cost => if best.below cost then cost else best) best).Agrees
        (costs'.foldl (fun best cost => if best.below cost then cost else best) best') := by
    induction all with
    | nil => exact fun same => same
    | @cons cost cost' _ _ here _ ih =>
      intro best best' same
      have below : best'.below cost' = best.below cost := by
        rw [Cost.below, Cost.below, same.degree, same.logs, here.degree, here.logs]
      rw [List.foldl_cons, List.foldl_cons, below]
      refine ih ?_
      split
      · exact here
      · exact same
  exact fold ⟨rfl, rfl, rfl⟩

theorem nest_agrees {site site' : Site} (span : site'.span = site.span) (factor : Nat × Nat) {body body' : Cost}
    (same : body.Agrees body') : (nest site factor body).Agrees (nest site' factor body') := by
  unfold nest
  split
  · exact same
  · refine ⟨by rw [same.degree], by rw [same.logs], ?_⟩
    rw [List.map_cons, List.map_cons, span, same.spans]

variable (scopes : scope.Twin outline outline' scope')

include scopes

theorem ofNode_agrees {node node' : Node} {above above' : List Node} {enclosing enclosing' : List Site}
    (twin : Site.Twin scope.root scope'.root { node, above } { node := node', above := above' })
    (alike : node.Alike node') (inScope : { node, above } ∈ scope.root.descendantsInScope)
    (around : List.Forall₂ (Site.PlainTwin scope.root scope'.root) enclosing enclosing') :
    (ofNode outline scope above enclosing node).Agrees (ofNode outline' scope' above' enclosing' node') := by
  induction node using Node.nested_induction generalizing node' above above' enclosing enclosing' with
  | step node ih =>
    rw [ofNode_eq, ofNode_eq, Node.isFunction_of_info alike.info]
    cases plain : node.isFunction with
    | true =>
      rw [if_pos rfl, if_pos rfl]
      exact ⟨rfl, rfl, rfl⟩
    | false =>
      rw [if_neg Bool.false_ne_true, if_neg Bool.false_ne_true]
      have here : Site.PlainTwin scope.root scope'.root { node, above } { node := node', above := above' } := ⟨twin, plain⟩
      have pairs := twin.children scopes.roots (.inr plain)
      have costs : ∀ chosen : Bool → Bool, List.Forall₂ Agrees
          ((node.children.filter fun child => chosen (node.runsPerIteration child)).map
            (childCost outline scope { node, above } enclosing))
          ((node'.children.filter fun child => chosen (node'.runsPerIteration child)).map
            (childCost outline' scope' { node := node', above := above' } enclosing')) := by
        intro chosen
        rw [List.forall₂_map_left_iff, List.forall₂_map_right_iff]
        refine (forall₂_filter pairs fun child child' pair => congrArg chosen pair.runs).imp ?_
        rintro child child' ⟨pair, _⟩
        rw [childCost, childCost, pair.runs]
        refine ih child pair.member pair.twin pair.alike pair.inScope ?_
        split
        · exact .cons here around
        · exact around
      have factor : factorAt outline' scope' { node := node', above := above' } enclosing' =
          factorAt outline scope { node, above } enclosing := by
        rw [factorAt_eq, factorAt_eq, Bound.ofSite_twin scopes here inScope around]
      rw [factor]
      refine dearest_agrees (List.rel_append (costs (!·)) (.cons ?_ .nil))
      exact nest_agrees (twin.span scopes.roots) _ (dearest_agrees (costs (·)))

theorem ofScope_agrees : (ofScope outline scope).Agrees (ofScope outline' scope') := by
  refine dearest_agrees ?_
  rw [List.forall₂_map_left_iff, List.forall₂_map_right_iff]
  refine (Site.Twin.root.children scopes.roots (.inl ⟨rfl, rfl⟩)).imp ?_
  intro child child' pair
  exact ofNode_agrees scopes pair.twin pair.alike pair.inScope .nil

end Cost

namespace Visit

-- Visits of twins, with twins around them.
structure Twin (root root' : Site) (visit visit' : Visit) : Prop where
  site : Site.PlainTwin root root' visit.site visit'.site
  inScope : visit.site ∈ root.descendantsInScope
  enclosing : List.Forall₂ (Site.PlainTwin root root') visit.enclosing visit'.enclosing

theorem below_twins {root root' : Site} (roots : Site.Mirrored outline outline' root root') {node node' : Node}
    {above above' : List Node} {enclosing enclosing' : List Site}
    (twin : Site.Twin root root' { node, above } { node := node', above := above' }) (alike : node.Alike node')
    (inScope : { node, above } ∈ root.descendantsInScope)
    (around : List.Forall₂ (Site.PlainTwin root root') enclosing enclosing') :
    List.Forall₂ (Twin root root') (below above enclosing node) (below above' enclosing' node') := by
  induction node using Node.nested_induction generalizing node' above above' enclosing enclosing' with
  | step node ih =>
    rw [below_eq, below_eq, Node.isFunction_of_info alike.info]
    cases plain : node.isFunction with
    | true => exact .nil
    | false =>
      rw [if_neg Bool.false_ne_true, if_neg Bool.false_ne_true]
      have here : Site.PlainTwin root root' { node, above } { node := node', above := above' } := ⟨twin, plain⟩
      have pairs := twin.children roots (.inr plain)
      have visits : ∀ chosen : Bool → Bool, List.Forall₂ (Twin root root')
          ((node.children.filter fun child => chosen (node.runsPerIteration child)).flatMap
            (childVisits { node, above } enclosing))
          ((node'.children.filter fun child => chosen (node'.runsPerIteration child)).flatMap
            (childVisits { node := node', above := above' } enclosing')) := by
        intro chosen
        refine List.rel_flatMap (forall₂_filter pairs fun child child' pair => congrArg chosen pair.runs) ?_
        rintro child child' ⟨pair, _⟩
        refine ih child pair.member pair.twin pair.alike pair.inScope ?_
        rw [pair.runs]
        split
        · exact .cons here around
        · exact around
      exact List.rel_append (List.rel_append (visits (!·)) (visits (·))) (.cons ⟨here, inScope, around⟩ .nil)

end Visit

theorem Scope.boundedBy_twins (scopes : scope.Twin outline outline' scope') (bound : Bound) :
    List.Forall₂ (Site.PlainTwin scope.root scope'.root) (scope.boundedBy outline bound)
      (scope'.boundedBy outline' bound) := by
  have visits : List.Forall₂ (Visit.Twin scope.root scope'.root) (Visit.ofScope scope) (Visit.ofScope scope') :=
    List.rel_flatMap (Site.Twin.root.children scopes.roots (.inl ⟨rfl, rfl⟩)) fun _ _ pair =>
      Visit.below_twins scopes.roots pair.twin pair.alike pair.inScope .nil
  rw [boundedBy, boundedBy, List.forall₂_map_left_iff, List.forall₂_map_right_iff]
  refine (forall₂_filter visits fun visit visit' pair => ?_).imp fun _ _ pair => pair.1.site
  rw [Bound.ofSite_twin scopes pair.site pair.inScope pair.enclosing]

namespace Scope

theorem Twin.function? (scopes : scope.Twin outline outline' scope') : scope'.function? = scope.function? := by
  rw [Scope.function?, Scope.function?, scopes.isUnit, Node.function?_of_info scopes.roots.mirrors.info]

theorem selfCalls_twins (scopes : scope.Twin outline outline' scope') :
    List.Forall₂ (Site.PlainTwin scope.root scope'.root) scope.selfCalls scope'.selfCalls := by
  unfold selfCalls
  rw [scopes.isUnit]
  split
  · exact .nil
  · refine (forall₂_filter (nodes_twins scopes.roots) fun site site' pair => ?_).imp fun _ _ pair => pair.1
    rw [Node.call?_of_info (pair.twin.info scopes.roots)]
    simp only [CallInfo.staysInUnit, scopes.name, scopes.function?]

theorem memoEvidence_twin (scopes : scope.Twin outline outline' scope') {calls calls' : List Site}
    (same : List.Forall₂ (Site.PlainTwin scope.root scope'.root) calls calls') :
    scope'.memoEvidence calls' = scope.memoEvidence calls := by
  have nodes := nodes_twins scopes.roots
  have writes : scope'.writesTo = scope.writesTo := by
    funext container
    rw [writesTo, writesTo, List.any_eq_not_all_not, List.any_eq_not_all_not]
    refine congrArg (!·) (forall₂_all_eq nodes fun site site' pair => ?_)
    rw [pair.twin.info scopes.roots]
  have guards : scope'.guardContainer? calls' = scope.guardContainer? calls := by
    rw [guardContainer?, guardContainer?, ← List.head?_filterMap, ← List.head?_filterMap]
    refine congrArg List.head?
      (eq_of_forall₂ (List.rel_filterMap (fun site site' pair => rel_of_eq ?_) nodes)).symm
    have later : (calls'.all fun call => site'.span.start.lt call.span.start) =
        calls.all fun call => site.span.start.lt call.span.start :=
      forall₂_all_eq same fun call call' pairOfCalls => by
        rw [pair.twin.span scopes.roots, pairOfCalls.twin.span scopes.roots]
    rw [Node.conditional?_of_info (pair.twin.info scopes.roots), later, writes]
  rw [memoEvidence, memoEvidence, guards, Node.function?_of_info scopes.roots.mirrors.info]

end Scope

section Calls

variable {root root' call call' : Site} {calls calls' : List Site}

theorem Node.iterationNames_of_mirrors {node other : Node} (mirrors : node.Mirrors other) :
    other.iterationNames = node.iterationNames := by
  rw [Node.iterationNames, Node.iterationNames, Node.loopVars, Node.loopVars, Node.loop?_of_info mirrors.info]
  cases node.loop? with
  | some l => rfl
  | none =>
    dsimp only
    rw [List.flatMap_def, List.flatMap_def]
    refine congrArg List.flatten (eq_of_forall₂ (List.rel_map (fun child child' alike => ?_) mirrors.children)).symm
    rw [alike.info]

theorem loops_twins (roots : Site.Mirrored outline outline' root root') (isFunction : root.node.isFunction = true)
    (twins : Site.PlainTwin root root' call call') : List.Forall₂ (Site.PlainTwin root root') call.loops call'.loops := by
  have bars : root.node.kind.barsLoops = true := by
    rw [Node.isFunction] at isFunction
    simp [Kind.barsLoops, isFunction]
  refine (twins.twin.loops roots bars).resolve_left fun same => ?_
  have plain := twins.plain
  rw [same.1, isFunction] at plain
  cases plain

theorem walkedCollection?_twin (roots : Site.Mirrored outline outline' root root')
    (isFunction : root.node.isFunction = true) (twins : Site.PlainTwin root root' call call') :
    walkedCollection? call' = walkedCollection? call := by
  have loops := loops_twins roots isFunction twins
  unfold walkedCollection?
  rw [Node.call?_of_info (twins.twin.info roots)]
  generalize call.loops = around at loops
  generalize call'.loops = around' at loops
  cases loops with
  | nil => rfl
  | cons nearest _ =>
    have mirrors := nearest.twin.mirrors roots (.inr nearest.plain)
    cases call.node.call? with
    | none => rfl
    | some c =>
      dsimp only
      rw [Node.loopText_of_info mirrors.info, Node.iterationNames_of_mirrors mirrors]

theorem structuralOver?_twin (roots : Site.Mirrored outline outline' root root')
    (isFunction : root.node.isFunction = true) (same : List.Forall₂ (Site.PlainTwin root root') calls calls') :
    structuralOver? calls' = structuralOver? calls := by
  have every : (calls'.all fun call => (walkedCollection? call).isSome) =
      calls.all fun call => (walkedCollection? call).isSome :=
    forall₂_all_eq same fun _ _ pair => by rw [walkedCollection?_twin roots isFunction pair]
  have first : calls'.head?.bind walkedCollection? = calls.head?.bind walkedCollection? := by
    cases same with
    | nil => rfl
    | cons pair _ => exact walkedCollection?_twin roots isFunction pair
  rw [structuralOver?, structuralOver?, every, first]

end Calls

namespace Estimate

-- The same judgement, whatever the identifiers of what it comes from.
structure Judgement.Agrees (judgement judgement' : Judgement) : Prop where
  cost : judgement'.cost = judgement.cost
  degree : judgement'.degree = judgement.degree
  logFactor : judgement'.logFactor = judgement.logFactor
  reason : judgement'.reason = judgement.reason
  recursion : judgement'.recursion = judgement.recursion

-- The same estimate, whatever the identifiers of the scope and of what the estimate comes from.
structure Agrees (estimate estimate' : Estimate) : Prop where
  scope : estimate'.scope = estimate.scope
  span : estimate'.span = estimate.span
  cost : estimate'.cost = estimate.cost
  degree : estimate'.degree = estimate.degree
  logFactor : estimate'.logFactor = estimate.logFactor
  reason : estimate'.reason = estimate.reason
  recursion : estimate'.recursion = estimate.recursion
  testability : estimate'.testability = estimate.testability

theorem linesOf_eq {sites sites' : List Site} (spans : sites'.map Site.span = sites.map Site.span) :
    linesOf sites' = linesOf sites := by
  cases sites with
  | nil =>
    cases List.map_eq_nil_iff.mp spans
    rfl
  | cons site rest =>
    cases sites' with
    | nil => cases spans
    | cons site' rest' => rw [linesOf, linesOf, (List.cons.inj spans).1]

theorem ofLoops_agrees {cost cost' : Cost} {amortized amortized' : List Site} (same : cost.Agrees cost')
    (spans : amortized'.map Site.span = amortized.map Site.span) :
    (ofLoops cost amortized).Agrees (ofLoops cost' amortized') := by
  have none : amortized'.isEmpty = amortized.isEmpty := by
    rw [← List.isEmpty_map (f := Site.span), spans, List.isEmpty_map]
  have reason : loopReason cost' amortized' = loopReason cost amortized := by
    rw [loopReason, loopReason, linesOf_eq same.spans, linesOf_eq spans, none, same.degree, same.logs]
  refine ⟨?_, same.degree, ?_, reason, rfl⟩
  · simp only [ofLoops, same.degree, same.logs]
  · simp only [ofLoops, same.degree, same.logs]

theorem callLines_eq {calls calls' : List Site} (spans : calls'.map Site.span = calls.map Site.span) :
    callLines calls' = callLines calls := by
  have lines := congrArg (List.map fun span : Span => toString span.start.line) spans
  rw [List.map_map, List.map_map] at lines
  exact congrArg (Text.joined ", ") lines

theorem isEmpty_eq {related : Site → Site → Prop} {sites sites' : List Site} (same : List.Forall₂ related sites sites') :
    sites'.isEmpty = sites.isEmpty := by
  cases same <;> rfl

theorem withRecursion_eq (scope : Scope) (graph : Option CallGraph) (cost : Cost) (loops : Judgement) :
    withRecursion scope graph cost loops =
      if !(graph.elim [] (·.cycleNames scope.id)).isEmpty then
        { loops with cost := .indeterminate, recursion := .mutual
                     reason := "mutual recursion: " ++ Text.joined ", " (graph.elim [] (·.cycleNames scope.id)) }
      else if scope.selfCalls.isEmpty then loops
      else ofSelfCalls scope cost scope.selfCalls loops := by
  cases graph <;> rfl

section Scopes

variable (scopes : scope.Twin outline outline' scope')

include scopes

theorem spans_eq {sites sites' : List Site}
    (same : List.Forall₂ (Site.PlainTwin scope.root scope'.root) sites sites') :
    sites'.map Site.span = sites.map Site.span :=
  (eq_of_forall₂ (List.rel_map (fun _ _ pair => (pair.twin.span scopes.roots).symm) same)).symm

theorem ofSelfCalls_agrees {cost cost' : Cost} {calls calls' : List Site} {loops loops' : Judgement}
    (costs : cost.Agrees cost') (same : List.Forall₂ (Site.PlainTwin scope.root scope'.root) calls calls')
    (isFunction : scope.root.node.isFunction = true) (judged : loops.Agrees loops') :
    (ofSelfCalls scope cost calls loops).Agrees (ofSelfCalls scope' cost' calls' loops') := by
  have branches : (decide (calls'.length ≥ 2) || calls'.any fun call => !call.loops.isEmpty) =
      (decide (calls.length ≥ 2) || calls.any fun call => !call.loops.isEmpty) := by
    have around : (calls'.all fun call => call.loops.isEmpty) = calls.all fun call => call.loops.isEmpty :=
      forall₂_all_eq same fun call call' pair => isEmpty_eq (loops_twins scopes.roots isFunction pair)
    rw [same.length_eq, List.any_eq_not_all_not, List.any_eq_not_all_not]
    simp only [Bool.not_not, around]
  unfold ofSelfCalls
  rw [structuralOver?_twin scopes.roots isFunction same, branches, Scope.memoEvidence_twin scopes same,
    callLines_eq (spans_eq scopes same), costs.degree, costs.logs]
  cases structuralOver? calls with
  | some collection => exact ⟨rfl, rfl, rfl, rfl, rfl⟩
  | none =>
    dsimp only
    split
    · split
      · exact ⟨rfl, judged.degree, judged.logFactor, rfl, rfl⟩
      · exact ⟨rfl, rfl, rfl, rfl, rfl⟩
    · split
      · exact ⟨rfl, judged.degree, judged.logFactor, rfl, rfl⟩
      · exact ⟨rfl, rfl, rfl, rfl, rfl⟩

theorem withRecursion_agrees {graph graph' : Option CallGraph} {cost cost' : Cost} {loops loops' : Judgement}
    (cycles : graph'.elim [] (·.cycleNames scope'.id) = graph.elim [] (·.cycleNames scope.id))
    (costs : cost.Agrees cost') (judged : loops.Agrees loops') :
    (withRecursion scope graph cost loops).Agrees (withRecursion scope' graph' cost' loops') := by
  have calls := Scope.selfCalls_twins scopes
  rw [withRecursion_eq, withRecursion_eq, cycles, isEmpty_eq calls]
  split
  · exact ⟨rfl, judged.degree, judged.logFactor, rfl, rfl⟩
  · split
    · exact judged
    · rename_i some
      have notUnit : scope.isUnit = false := by
        cases isUnit : scope.isUnit with
        | false => rfl
        | true => simp [Scope.selfCalls, isUnit] at some
      exact ofSelfCalls_agrees scopes costs calls (scopes.isFunction notUnit) judged

theorem withUnbounded_agrees {unbounded unbounded' : List Site} {judgement judgement' : Judgement}
    (same : List.Forall₂ (Site.PlainTwin scope.root scope'.root) unbounded unbounded')
    (judged : judgement.Agrees judgement') :
    (withUnbounded outline unbounded judgement).Agrees (withUnbounded outline' unbounded' judgement') := by
  cases same with
  | nil => exact judged
  | @cons first first' _ _ pair _ =>
    have info := pair.twin.info scopes.roots
    have text : outline'.text first'.node = outline.text first.node := by
      rw [Outline.text, Outline.text, scopes.source]
      exact congrArg outline.source.text (pair.twin.span scopes.roots)
    have label : outline'.loopLabel first'.node = outline.loopLabel first.node := by
      rw [Outline.loopLabel, Outline.loopLabel, Node.loopText_of_info info, Node.conditionText_of_info info, text]
    unfold withUnbounded
    dsimp only
    rw [judged.cost, pair.twin.span scopes.roots, label]
    split
    · exact judged
    · exact ⟨rfl, judged.degree, judged.logFactor, rfl, judged.recursion⟩

theorem judge_agrees {graph graph' : Option CallGraph}
    (cycles : graph'.elim [] (·.cycleNames scope'.id) = graph.elim [] (·.cycleNames scope.id)) :
    (judge outline graph scope).Agrees (judge outline' graph' scope') := by
  have costs := Cost.ofScope_agrees scopes
  have loops := ofLoops_agrees costs (spans_eq scopes (Scope.boundedBy_twins scopes .amortized))
  exact withUnbounded_agrees scopes (Scope.boundedBy_twins scopes .unbounded)
    (withRecursion_agrees scopes cycles costs loops)

theorem testabilityOf_twin (cost : CostClass) : testabilityOf scope' cost = testabilityOf scope cost := by
  have conditionals : scope'.nodes.countP (·.kind == .conditional) = scope.nodes.countP (·.kind == .conditional) := by
    have filtered := forall₂_filter (Scope.nodes_twins scopes.roots) fun site site' pair =>
      congrArg (· == Kind.conditional) (Node.kind_of_info (pair.twin.info scopes.roots))
    rw [List.countP_eq_length_filter, List.countP_eq_length_filter]
    exact filtered.length_eq.symm
  rw [testabilityOf, testabilityOf, conditionals, scopes.depth, scopes.paramCount]

-- Twin scopes have the same estimate.
theorem ofScope_agrees {graph graph' : Option CallGraph}
    (cycles : graph'.elim [] (·.cycleNames scope'.id) = graph.elim [] (·.cycleNames scope.id)) :
    (ofScope outline graph scope).Agrees (ofScope outline' graph' scope') := by
  have judged := judge_agrees scopes cycles
  refine ⟨scopes.name, scopes.roots.mirrors.span, judged.cost, ?_, judged.logFactor, judged.reason, judged.recursion, ?_⟩
  · simp only [ofScope, judged.cost, judged.degree]
  · simp only [ofScope, judged.cost, testabilityOf_twin scopes]

end Scopes

end Estimate

end Perflint
