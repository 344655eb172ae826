import Mathlib
import Perflint.Proofs.RuleRuns
import Perflint.Proofs.Shifts

namespace Perflint

def Link.shift (lines : Nat) (link : Link) : Link :=
  { link with call := link.call.shift lines, caller := link.caller.shift lines, target := link.target.shift lines }

namespace CallGraph

def shift (lines : Nat) (graph : CallGraph) : CallGraph :=
  { functions := graph.functions.map (Scope.shift lines), links := graph.links.map (Link.shift lines) }

variable (lines : Nat) (graph : CallGraph)

theorem crossing_shift : (graph.shift lines).crossing = graph.crossing.map (Link.shift lines) := by
  simp [crossing, shift, Link.shift, List.filter_map, Function.comp_def]

theorem edges_shift : (graph.shift lines).edges = graph.edges.map (Link.shift lines) := by
  simp [edges, crossing_shift, Link.shift, List.filter_map, Function.comp_def]

@[simp] theorem fanIn_shift (id : Nat) : (graph.shift lines).fanIn id = graph.fanIn id := by
  simp [fanIn, crossing_shift, Link.shift, List.countP_map, Function.comp_def]

@[simp] theorem calledInLoop_shift (id : Nat) : (graph.shift lines).calledInLoop id = graph.calledInLoop id := by
  simp [calledInLoop, crossing_shift, Link.shift, Function.comp_def]

theorem successors_shift : (graph.shift lines).successors = graph.successors := by
  funext id
  simp [successors, edges_shift, Link.shift, List.filter_map, Function.comp_def]

theorem cycleIds_shift (id : Nat) : (graph.shift lines).cycleIds id = graph.cycleIds id := by
  have functions : (graph.shift lines).functions.length = graph.functions.length := List.length_map ..
  simp only [cycleIds, reachable, successors_shift, functions]

@[simp] theorem cycleNames_shift (id : Nat) : (graph.shift lines).cycleNames id = graph.cycleNames id := by
  have named : ∀ members : List Nat,
      ((graph.shift lines).functions.filter fun scope => members.contains scope.id).map Scope.name =
        (graph.functions.filter fun scope => members.contains scope.id).map Scope.name := by
    intro members
    simp [shift, List.filter_map, Function.comp_def]
  unfold cycleNames inCycle
  rw [cycleIds_shift]
  dsimp only
  rw [named]

end CallGraph

@[simp] theorem CallInfo.staysInUnit_shift (lines : Nat) (c : CallInfo) (caller : Scope) :
    c.staysInUnit (caller.shift lines) = c.staysInUnit caller := by
  simp [CallInfo.staysInUnit]

theorem CallInfo.targets_shift (lines : Nat) (c : CallInfo) (caller : Scope) (functions : List Scope) :
    c.targets (caller.shift lines) (functions.map (Scope.shift lines)) =
      (c.targets caller functions).map (Scope.shift lines) := by
  rw [CallInfo.targets, CallInfo.targets, CallInfo.staysInUnit_shift]
  split
  · simp [List.filter_map, Function.comp_def]
  · rfl

theorem Outline.functions_shift (lines : Nat) (outline : Outline) :
    (outline.shift lines).functions = outline.functions.map (Scope.shift lines) := by
  simp [Outline.functions, List.filter_map, Function.comp_def]

theorem Outline.callGraph_shift (lines : Nat) (outline : Outline) :
    (outline.shift lines).callGraph = outline.callGraph.shift lines := by
  unfold Outline.callGraph CallGraph.shift
  dsimp only
  rw [Outline.functions_shift, Outline.sites_shift, List.flatMap_map, List.map_flatMap]
  refine congrArg _ (List.flatMap_congr fun call _ => ?_)
  rw [Site.node_shift, Node.call?_shift]
  cases call.node.call? with
  | none => rfl
  | some c => simp [CallInfo.targets_shift, Link.shift, Function.comp_def]

def Capture.shift (lines : Nat) (capture : Capture) : Capture :=
  { capture with span := capture.span.shift lines }

def Hit.shift (lines : Nat) (hit : Hit) : Hit :=
  { hit with place := hit.place.shift lines, captures := hit.captures.map (Prod.map id (Capture.shift lines)) }

@[simp] theorem Site.labelled_shift (lines : Nat) (site : Site) (text : String) :
    (site.shift lines).labelled text = (site.labelled text).shift lines := by
  simp [Site.labelled, Capture.shift]

namespace Context

def shift (lines : Nat) (ctx : Context) : Context :=
  { ctx with outline := ctx.outline.shift lines, graph := ctx.graph.shift lines }

variable (lines : Nat) (ctx : Context)

@[simp] theorem outline_shift : (ctx.shift lines).outline = ctx.outline.shift lines := rfl

@[simp] theorem hints_shift : (ctx.shift lines).hints = ctx.hints := rfl

@[simp] theorem language_shift : (ctx.shift lines).language = ctx.language := rfl

@[simp] theorem text_shift (site : Site) : (ctx.shift lines).text (site.shift lines) = ctx.text site := by
  simp [text]

@[simp] theorem whole_shift (site : Site) :
    (ctx.shift lines).whole (site.shift lines) = (ctx.whole site).shift lines := by
  simp [whole, Capture.shift]

@[simp] theorem loopCaptures_shift (loop : Site) :
    (ctx.shift lines).loopCaptures (loop.shift lines) = (ctx.loopCaptures loop).map (Prod.map id (Capture.shift lines)) := by
  simp [loopCaptures, Capture.shift]

@[simp] theorem hotReasons_shift (scope : Scope) : (ctx.shift lines).hotReasons (scope.shift lines) = ctx.hotReasons scope := by
  have calls : (ctx.shift lines).graph.fanIn (scope.shift lines).id = ctx.graph.fanIn scope.id := by simp [shift]
  have looped : (ctx.shift lines).graph.calledInLoop (scope.shift lines).id = ctx.graph.calledInLoop scope.id := by
    simp [shift]
  rw [hotReasons, calls, looped]
  rfl

end Context

namespace Catalog

variable (lines : Nat) (ctx : Context) (site : Site)

theorem queryPerElement?_shift (loop : Site) :
    queryPerElement? (ctx.shift lines) (site.shift lines) (loop.shift lines) =
      (queryPerElement? ctx site loop).map (Hit.shift lines) := by
  simp [queryPerElement?, Option.bind_map, Hit.shift]

theorem findQueryPerElement_shift :
    findQueryPerElement (ctx.shift lines) (site.shift lines) = (findQueryPerElement ctx site).map (Hit.shift lines) := by
  unfold findQueryPerElement
  rw [Site.node_shift, Node.fetchStrength?_shift, Site.loops_shift, List.findSome?_map]
  split
  · simp only [Function.comp_def, queryPerElement?_shift, List.map_findSome?]
  · rfl

theorem findIoInLoop_shift :
    findIoInLoop (ctx.shift lines) (site.shift lines) = (findIoInLoop ctx site).map (Hit.shift lines) := by
  simp [findIoInLoop, Option.bind_map, Hit.shift]

theorem findScan_shift : findScan (ctx.shift lines) (site.shift lines) = (findScan ctx site).map (Hit.shift lines) := by
  simp only [findScan, Site.loops_shift, List.all_map, Function.comp_def, Site.invariantIn_shift, List.flatMap_map]
  simp [Option.bind_map, Hit.shift]
  rfl

theorem findCopy_shift : findCopy (ctx.shift lines) (site.shift lines) = (findCopy ctx site).map (Hit.shift lines) := by
  simp [findCopy, Option.bind_map, Hit.shift]

theorem isLinked_shift (scope : Scope) (name : String) : isLinked (scope.shift lines) name = isLinked scope name := by
  simp [isLinked, Function.comp_def]

theorem findFrontInsert_shift :
    findFrontInsert (ctx.shift lines) (site.shift lines) = (findFrontInsert ctx site).map (Hit.shift lines) := by
  simp [findFrontInsert, isLinked_shift, Hit.shift]

theorem soleAppend?_shift : soleAppend? (site.shift lines) = (soleAppend? site).map (Prod.map (Site.shift lines) id) := by
  unfold soleAppend?
  rw [Site.bodyChildren_shift]
  match site.bodyChildren with
  | [] => rfl
  | [op] =>
    simp only [List.map_cons, List.map_nil, Site.node_shift, Node.info_shift]
    cases op.node.info with
    | collectionOp c => simp [apply_ite (Option.map _)]
    | _ => rfl
  | _ :: _ :: _ => rfl

theorem startsEmpty_shift (name : String) :
    startsEmpty (ctx.shift lines) (site.shift lines) name = startsEmpty ctx site name := by
  simp [startsEmpty, Option.bind_map, Function.comp_def]

theorem findManualMap_shift :
    findManualMap (ctx.shift lines) (site.shift lines) = (findManualMap ctx site).map (Hit.shift lines) := by
  simp [findManualMap, soleAppend?_shift, startsEmpty_shift, Option.bind_map, Hit.shift]

theorem isIndependent_shift (l : LoopInfo) : isIndependent (site.shift lines) l = isIndependent site l := by
  simp [isIndependent]

theorem joinsOn_shift (outerVars innerVars : List String) :
    joinsOn outerVars innerVars (site.shift lines) = joinsOn outerVars innerVars site := by
  simp [joinsOn]

theorem findJoin_shift : findJoin (ctx.shift lines) (site.shift lines) = (findJoin ctx site).map (Hit.shift lines) := by
  simp [findJoin, isIndependent_shift, joinsOn_shift, Option.bind_map, Hit.shift]

theorem findSort_shift : findSort (ctx.shift lines) (site.shift lines) = (findSort ctx site).map (Hit.shift lines) := by
  simp [findSort, Option.bind_map, Hit.shift]

theorem initializer?_shift (outline : Outline) (scope : Scope) (target : String) (before : Position) :
    initializer? (outline.shift lines) (scope.shift lines) target (before.shift lines) =
      (initializer? outline scope target before).map (Site.shift lines) := by
  fun_induction initializer? outline scope target before with
  | case1 before nothing =>
    rw [initializer?, Outline.lastAssignment?_shift, nothing]
    rfl
  | case2 before site found fresh =>
    rw [initializer?, Outline.lastAssignment?_shift, found]
    simp [fresh]
  | case3 before site found stale earlier ih =>
    rw [initializer?, Outline.lastAssignment?_shift, found]
    simpa [stale, earlier] using ih
  | case4 before site found stale late =>
    rw [initializer?, Outline.lastAssignment?_shift, found]
    simp [stale, late]

theorem isStringAt_shift (loop : Site) (a : AssignmentInfo) (target : String) :
    isStringAt (ctx.shift lines) (site.shift lines) (loop.shift lines) a target = isStringAt ctx site loop a target := by
  simp [isStringAt, initializer?_shift, Option.bind_map, Function.comp_def]

theorem concatHit?_shift (a : AssignmentInfo) (piece : String) :
    concatHit? (ctx.shift lines) (site.shift lines) a piece = (concatHit? ctx site a piece).map (Hit.shift lines) := by
  simp [concatHit?, isStringAt_shift, Option.bind_map, Hit.shift]

theorem findConcat_shift :
    findConcat (ctx.shift lines) (site.shift lines) = (findConcat ctx site).map (List.map (Hit.shift lines)) := by
  unfold findConcat
  rw [Site.node_shift, Node.assignment?_shift]
  cases site.node.assignment? with
  | none => rfl
  | some a =>
    dsimp only
    split
    · rfl
    · cases addedPiece a a.soleTarget with
      | error fault => rfl
      | ok piece =>
        have hits : piece.bind (concatHit? (ctx.shift lines) (site.shift lines) a) =
            (piece.bind (concatHit? ctx site a)).map (Hit.shift lines) := by
          simp only [concatHit?_shift, Option.map_bind, Function.comp_def]
        refine congrArg Except.ok ?_
        rw [hits, Option.toList_map]

theorem patternUse?_shift : patternUse? (ctx.shift lines) (site.shift lines) = patternUse? ctx site := by
  simp [patternUse?]

theorem findRegex_shift : findRegex (ctx.shift lines) (site.shift lines) = (findRegex ctx site).map (Hit.shift lines) := by
  simp only [findRegex, patternUse?_shift, Site.loops_shift, List.all_map, Function.comp_def]
  simp [Option.bind_map, Hit.shift]

theorem roundTripSource?_shift : roundTripSource? (site.shift lines) = (roundTripSource? site).map (Site.shift lines) := by
  unfold roundTripSource?
  rw [Site.node_shift, Node.call?_shift]
  cases site.node.call? with
  | none => rfl
  | some c => simp [apply_ite (Option.map _), Function.comp_def]

theorem deepCopySource?_shift : deepCopySource? (site.shift lines) = (deepCopySource? site).map (Site.shift lines) := by
  unfold deepCopySource?
  rw [roundTripSource?_shift, Site.node_shift, Node.call?_shift]
  cases roundTripSource? site with
  | some inner => rfl
  | none =>
    cases site.node.call? with
    | none => rfl
    | some c => simp [apply_ite (Option.map _)]

theorem findDeepClone_shift :
    findDeepClone (ctx.shift lines) (site.shift lines) = (findDeepClone ctx site).map (Hit.shift lines) := by
  simp [findDeepClone, deepCopySource?_shift, Option.bind_map, Hit.shift]

theorem findRoundTrip_shift :
    findRoundTrip (ctx.shift lines) (site.shift lines) = (findRoundTrip ctx site).map (Hit.shift lines) := by
  simp [findRoundTrip, roundTripSource?_shift, Option.bind_map, Hit.shift]

theorem growth?_shift (node : Node) : growth? (node.shift lines) = growth? node := by
  simp [growth?]

theorem isBounded_shift (receiver : String) : isBounded (site.shift lines) receiver = isBounded site receiver := by
  simp [isBounded, Function.comp_def]

theorem isDrained_shift (receiver : String) : isDrained (site.shift lines) receiver = isDrained site receiver := by
  have drains : drainsAt receiver ∘ Site.shift lines = drainsAt receiver := by
    funext site
    simp [drainsAt]
  have resets : resetsAt receiver ∘ Site.shift lines = resetsAt receiver := by
    funext site
    simp [resetsAt]
  simp only [isDrained, Site.descendants_shift, List.any_map, List.countP_map, drains, resets]

theorem hasSizeCheck_shift (receiver : String) : hasSizeCheck (site.shift lines) receiver = hasSizeCheck site receiver := by
  simp [hasSizeCheck, Function.comp_def]

theorem growthRegion?_shift (growth : Growth) :
    growthRegion? (ctx.shift lines) (site.shift lines) growth = (growthRegion? ctx site growth).map (Site.shift lines) := by
  simp [growthRegion?, isBounded_shift, isDrained_shift, hasSizeCheck_shift, Option.bind_map]

theorem firstGrowth?_shift (receiver : String) :
    firstGrowth? (ctx.shift lines) (site.shift lines) receiver = (firstGrowth? ctx site receiver).map (Site.shift lines) := by
  simp [firstGrowth?, growth?_shift]

theorem findGrowth_shift : findGrowth (ctx.shift lines) (site.shift lines) = (findGrowth ctx site).map (Hit.shift lines) := by
  simp [findGrowth, growth?_shift, growthRegion?_shift, firstGrowth?_shift, Option.bind_map, Hit.shift]
  rfl

theorem chainHead?_shift (head : String) :
    chainHead? (site.shift lines) head = (chainHead? site head).map (Prod.map (Site.shift lines) id) := by
  unfold chainHead?
  rw [Site.children_shift, List.findSome?_map, List.map_findSome?]
  refine congrArg (fun find => site.children.findSome? find) (funext fun child => ?_)
  simp only [Function.comp_def, Site.node_shift, Node.info_shift]
  cases child.node.info with
  | collectionOp c => simp [apply_ite (Option.map _)]
  | _ => rfl

theorem findChain_shift : findChain (ctx.shift lines) (site.shift lines) = (findChain ctx site).map (Hit.shift lines) := by
  simp [findChain, chainHead?_shift, Option.bind_map, Hit.shift]

theorem findRows_shift : findRows (ctx.shift lines) (site.shift lines) = (findRows ctx site).map (Hit.shift lines) := by
  simp [findRows, rowFrame?, Hit.shift]

theorem findSleep_shift : findSleep (ctx.shift lines) (site.shift lines) = (findSleep ctx site).map (Hit.shift lines) := by
  simp [findSleep, Function.comp_def, Hit.shift, List.findSome?_map, List.map_findSome?]

theorem statementLoops_shift : statementLoops (site.shift lines) = (statementLoops site).map (Site.shift lines) := by
  simp [statementLoops, List.takeWhile_map, Function.comp_def]

theorem findAwait_shift : findAwait (ctx.shift lines) (site.shift lines) = (findAwait ctx site).map (Hit.shift lines) := by
  simp [findAwait, statementLoops_shift, Option.bind_map, Function.comp_def, Hit.shift]

end Catalog

namespace Rule

-- The lines before a unit change nothing but the places that a rule tells.
def FollowsShifts (rule : Rule) : Prop :=
  ∀ lines ctx site, rule.check (ctx.shift lines) (site.shift lines) = (rule.check ctx site).map (List.map (Hit.shift lines))

theorem followsShifts_of_atMostOnce {rule : Rule} {find : Context → Site → Option Hit} (check : rule.check = atMostOnce find)
    (follows : ∀ lines ctx site, find (ctx.shift lines) (site.shift lines) = (find ctx site).map (Hit.shift lines)) :
    rule.FollowsShifts := by
  intro lines ctx site
  rw [check]
  refine congrArg Except.ok ?_
  rw [follows, Option.toList_map]

end Rule

theorem Catalog.rules_followShifts : ∀ rule ∈ rules, rule.FollowsShifts :=
  forall_rules.mpr
    ⟨Rule.followsShifts_of_atMostOnce rfl findQueryPerElement_shift,
     Rule.followsShifts_of_atMostOnce rfl findIoInLoop_shift,
     Rule.followsShifts_of_atMostOnce rfl findScan_shift,
     Rule.followsShifts_of_atMostOnce rfl findCopy_shift,
     Rule.followsShifts_of_atMostOnce rfl findFrontInsert_shift,
     Rule.followsShifts_of_atMostOnce rfl findManualMap_shift,
     Rule.followsShifts_of_atMostOnce rfl findJoin_shift,
     Rule.followsShifts_of_atMostOnce rfl findSort_shift,
     findConcat_shift,
     Rule.followsShifts_of_atMostOnce rfl findRegex_shift,
     Rule.followsShifts_of_atMostOnce rfl findDeepClone_shift,
     Rule.followsShifts_of_atMostOnce rfl findRoundTrip_shift,
     Rule.followsShifts_of_atMostOnce rfl findGrowth_shift,
     Rule.followsShifts_of_atMostOnce rfl findChain_shift,
     Rule.followsShifts_of_atMostOnce rfl findRows_shift,
     Rule.followsShifts_of_atMostOnce rfl findSleep_shift,
     Rule.followsShifts_of_atMostOnce rfl findAwait_shift⟩

def Match.shift (lines : Nat) (m : Match) : Match :=
  { m with span := m.span.shift lines, captures := m.captures.map (Prod.map id (Capture.shift lines)) }

namespace Evaluation

-- Failures name nodes and no places.
def shiftSaid (lines : Nat) : Sum Match Failure → Sum Match Failure :=
  Sum.map (Match.shift lines) id

def shift (lines : Nat) (result : Evaluation) : Evaluation :=
  { result with found := result.found.map (Match.shift lines) }

end Evaluation

namespace Rule

variable {rule : Rule} (lines : Nat) (ctx : Context)

theorem judgeHit_shift (site : Site) (hit : Hit) :
    rule.judgeHit (ctx.shift lines) (site.shift lines) (hit.shift lines) =
      Evaluation.shiftSaid lines (rule.judgeHit ctx site hit) := by
  have result : rule.toMatch (ctx.shift lines) (hit.shift lines) = (rule.toMatch ctx hit).shift lines := by
    simp [toMatch, Match.shift, Hit.shift]
  have inside : (ctx.shift lines).outline.inBounds ((rule.toMatch ctx hit).shift lines).span =
      ctx.outline.inBounds (rule.toMatch ctx hit).span := ctx.outline.inBounds_shift lines _
  rw [judgeHit, judgeHit, result, inside, Site.id_shift]
  split <;> rfl

theorem FollowsShifts.judge (follows : rule.FollowsShifts) (site : Site) :
    rule.judge (ctx.shift lines) (site.shift lines) = (rule.judge ctx site).map (Evaluation.shiftSaid lines) := by
  rw [Rule.judge, Rule.judge, follows, Site.id_shift]
  cases rule.check ctx site with
  | error fault => rfl
  | ok hits => simp only [Except.map, List.map_map, Function.comp_def, judgeHit_shift]

theorem sites_shift (all : List Site) : rule.sites (all.map (Site.shift lines)) = (rule.sites all).map (Site.shift lines) := by
  simp only [sites, List.filter_map, List.map_flatMap, Function.comp_def, Site.kind_shift]

end Rule

theorem Budget.afford_map {α β : Type} (budget : Budget) (f : α → β) (units : List α) :
    budget.afford (units.map f) = ((budget.afford units).1.map f, (budget.afford units).2) := by
  cases budget with
  | unlimited => rfl
  | checks left => simp [Budget.afford, List.map_take]

namespace Evaluation

variable (lines : Nat) (ctx : Context)

theorem matchesOf_shift (judgements : List (Sum Match Failure)) :
    matchesOf (judgements.map (shiftSaid lines)) = (matchesOf judgements).map (Match.shift lines) := by
  simp only [matchesOf, shiftSaid, List.filterMap_map, List.map_filterMap, Function.comp_def, Sum.getLeft?_map]

theorem failuresOf_shift (judgements : List (Sum Match Failure)) :
    failuresOf (judgements.map (shiftSaid lines)) = failuresOf judgements := by
  simp only [failuresOf, shiftSaid, List.filterMap_map, Function.comp_def, Sum.getRight?_map, Option.map_id_fun, id]

theorem judged_shift {rule : Rule} (follows : rule.FollowsShifts) (sites : List Site) :
    (sites.map (Site.shift lines)).flatMap (rule.judge (ctx.shift lines)) =
      (sites.flatMap (rule.judge ctx)).map (shiftSaid lines) := by
  simp only [List.flatMap_map, List.map_flatMap, follows.judge]

-- Both runs have the same budget left after every rule.
theorem run_shift {rules : List Rule} (follow : ∀ rule ∈ rules, rule.FollowsShifts) (all : List Site) (budget : Budget) :
    run (ctx.shift lines) (all.map (Site.shift lines)) budget rules = (run ctx all budget rules).shift lines := by
  induction rules generalizing budget with
  | nil => rfl
  | cons rule rules ih =>
    have follows := follow rule List.mem_cons_self
    unfold run
    cases budget.spend? with
    | none => rfl
    | some left =>
      simp only [Rule.sites_shift, Budget.afford_map, judged_shift lines ctx follows, List.length_map,
        ih (fun rule member => follow rule (List.mem_cons_of_mem _ member)), matchesOf_shift, failuresOf_shift]
      split
      · simp [shift]
      · rfl

theorem precedes_shift (first second : Match) : precedes (first.shift lines) (second.shift lines) = precedes first second := by
  unfold precedes Match.shift
  dsimp only
  rw [Span.before_shift, Span.sameRegion_shift]

end Evaluation

theorem evaluate_shift {registry : Registry} (follow : ∀ rule ∈ registry.rules, rule.FollowsShifts) (lines : Nat)
    (ctx : Context) (budget : Budget) :
    evaluate (ctx.shift lines) registry budget = (evaluate ctx registry budget).shift lines := by
  have applicable : ∀ rule ∈ ctx.applicable registry, rule.FollowsShifts :=
    fun rule applies => follow rule (Context.mem_applicable.mp applies).1
  have ran := Evaluation.run_shift lines ctx applicable ctx.outline.sites budget
  rw [← Outline.sites_shift] at ran
  have sorted : ∀ found : List Match, (found.map (Match.shift lines)).mergeSort Evaluation.precedes =
      (found.mergeSort Evaluation.precedes).map (Match.shift lines) := by
    intro found
    refine (List.map_mergeSort fun first _ second _ => ?_).symm
    rw [Evaluation.precedes_shift]
  calc evaluate (ctx.shift lines) registry budget
    _ = { (Evaluation.run ctx ctx.outline.sites budget (ctx.applicable registry)).shift lines with
          found := ((Evaluation.run ctx ctx.outline.sites budget (ctx.applicable registry)).shift lines).found.mergeSort
            Evaluation.precedes } := by
      rw [← ran]
      rfl
    _ = (evaluate ctx registry budget).shift lines := by
      rw [Evaluation.shift, sorted]
      rfl

end Perflint
