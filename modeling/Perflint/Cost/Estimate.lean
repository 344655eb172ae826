import Perflint.Budget
import Perflint.CallGraph
import Perflint.Cost.Bound
import Perflint.Cost.Walk
import Perflint.Outline.Loops

namespace Perflint

inductive Recursion where
  | none
  | mutual
  | structural
  | memoized
  | branching
  | linear
  deriving DecidableEq, Repr, Inhabited

def Recursion.text : Recursion → String
  | .none => "none"
  | .mutual => "mutual"
  | .structural => "structural"
  | .memoized => "memoized"
  | .branching => "branching"
  | .linear => "linear"

namespace Scope

def selfCalls (scope : Scope) : List Site :=
  if scope.isUnit then []
  else scope.nodes.filter fun site =>
    match site.node.call? with
    | some c => c.callee == scope.name && c.staysInUnit scope
    | Option.none => false

def memoDecorators : List String :=
  ["cache", "lru_cache", "cached", "memoize", "memoized", "memo", "Cacheable", "cached_property"]

def memoWrites : List String :=
  ["set", "put", "add", "setdefault", "update", "putIfAbsent", "computeIfAbsent"]

def writesTo (scope : Scope) (container : String) : Bool :=
  scope.nodes.any fun site =>
    match site.node.info with
    | .assignment a => a.subscriptOf == container || a.targets.any (Text.startsWith · (container ++ "["))
    | .call c | .collectionOp c =>
      memoWrites.contains c.callee && (c.receiver == container || c.receiverRoot == container)
    | _ => false

def leastText? : List String → Option String
  | [] => .none
  | text :: rest =>
    match leastText? rest with
    | .none => some text
    | some least => some (if text ≤ least then text else least)

-- The container that a conditional before every one of `calls` consults to return early, and that the scope
-- stores into.
def guardContainer? (scope : Scope) (calls : List Site) : Option String :=
  scope.nodes.findSome? fun site =>
    match site.node.conditional? with
    | some c =>
      if !c.lookupContainer.isEmpty && c.guardReturns &&
          calls.all (fun call => site.span.start.lt call.span.start) && scope.writesTo c.lookupContainer
      then some c.lookupContainer
      else Option.none
    | Option.none => Option.none

def memoEvidence (scope : Scope) (calls : List Site) : String :=
  let decorators := match scope.root.node.function? with
    | some f => f.decorators
    | Option.none => []
  match leastText? (decorators.filter memoDecorators.contains) with
  | some decorator => "@" ++ decorator
  | Option.none =>
    match scope.guardContainer? calls with
    | some container => "lookup in " ++ container
    | Option.none => ""

end Scope

def Node.iterationNames (loop : Node) : List String :=
  match loop.loop? with
  | some l => l.iterVars
  | none => loop.loopVars

-- The collection that the loop around a call walks, when it belongs to something else and the call takes an
-- element of it.
def walkedCollection? (call : Site) : Option String :=
  match call.loops, call.node.call? with
  | loop :: _, some c =>
    let iterable := loop.node.loopText
    if Text.containsAny iterable [".", "["] && c.argNames.any loop.node.iterationNames.contains
    then some iterable else none
  | _, _ => none

def structuralOver? (calls : List Site) : Option String :=
  if calls.all fun call => (walkedCollection? call).isSome then calls.head?.bind walkedCollection? else none

structure Estimate where
  scopeId : Nat
  scope : String
  span : Span
  cost : CostClass
  degree : Nat := 0
  logFactor : Bool := false
  contributors : List Nat := []
  reason : String := ""
  recursion : Recursion := .none
  testability : Nat := 10
  deriving DecidableEq, Repr, Inhabited

namespace Estimate

def written (e : Estimate) : String :=
  e.cost.written e.degree

def headline (e : Estimate) : String :=
  if e.reason.isEmpty then e.written else e.written ++ " — " ++ e.reason

def isConstant (e : Estimate) : Bool :=
  e.cost == .constant

def classPenalty : CostClass → Nat
  | .linearithmic => 1
  | .quadratic => 2
  | .polynomial => 2
  | .exponential => 3
  | .indeterminate => 2
  | _ => 0

def testabilityOf (scope : Scope) (cost : CostClass) : Nat :=
  let conditionals := scope.nodes.countP (·.kind == .conditional)
  let penalty := scope.depth + (if scope.paramCount > 4 then 1 else 0) + min 3 (conditionals - 5) + classPenalty cost
  max 1 (10 - penalty)

structure Judgement where
  cost : CostClass
  degree : Nat
  logFactor : Bool
  contributors : List Nat
  reason : String
  recursion : Recursion
  deriving DecidableEq, Repr, Inhabited

def linesOf : List Site → String
  | [] => ""
  | site :: _ => site.span.lines

-- Why a scope costs what its loops cost. `amortized` are the loops that added nothing to the loop around.
def loopReason (cost : Cost) (amortized : List Site) : String :=
  let lines := linesOf cost.loops
  let base :=
    if cost.degree ≥ 2 then "nested loop at lines " ++ lines
    else if cost.degree == 1 then
      (if cost.logs > 0 then "loop with a halving inner loop" else "loop") ++ " at lines " ++ lines
    else if cost.logs > 0 then "halving loop at lines " ++ lines
    else ""
  if cost.degree ≥ 1 && !amortized.isEmpty then
    base ++ " (inner loop at lines " ++ linesOf amortized ++ " is amortized)"
  else base

def ofLoops (cost : Cost) (amortized : List Site) : Judgement :=
  { cost := .ofDegree cost.degree (cost.logs > 0), degree := cost.degree
    logFactor := cost.logs > 0 && cost.degree ≤ 1, contributors := cost.loops.map Site.id
    reason := loopReason cost amortized, recursion := .none }

def callLines (calls : List Site) : String :=
  Text.joined ", " (calls.map fun call => toString call.span.start.line)

def ofSelfCalls (scope : Scope) (cost : Cost) (calls : List Site) (loops : Judgement) : Judgement :=
  let base := { loops with contributors := calls.map Site.id }
  match structuralOver? calls with
  | some collection =>
    { base with cost := .linear, degree := 1, logFactor := false, recursion := .structural
                reason := "structural recursion over " ++ collection }
  | none =>
    if calls.length ≥ 2 || calls.any (fun call => !call.loops.isEmpty) then
      let memo := scope.memoEvidence calls
      if memo.isEmpty then
        { base with cost := .exponential, recursion := .branching
                    reason := "branching recursion at lines " ++ callLines calls }
      else
        { base with cost := .ofDegree (max cost.degree 1) false, degree := max cost.degree 1, logFactor := false
                    recursion := .memoized, reason := "memoized recursion (" ++ memo ++ ")" }
    else if cost.degree > 0 || cost.logs > 0 then
      { base with cost := .indeterminate, recursion := .linear
                  reason := "recursion at line " ++ callLines calls ++ " combined with loops" }
    else
      { base with cost := .linear, degree := 1, logFactor := false, recursion := .linear
                  reason := "recursive call at line " ++ callLines calls }

-- A cycle of calls outweighs what a function says to itself. Without a call graph there are no cycles.
def withRecursion (scope : Scope) (graph : Option CallGraph) (cost : Cost) (loops : Judgement) : Judgement :=
  let cycle := match graph with
    | some graph => graph.cycleNames scope.id
    | none => []
  let calls := scope.selfCalls
  if !cycle.isEmpty then
    { loops with cost := .indeterminate, recursion := .mutual
                 reason := "mutual recursion: " ++ Text.joined ", " cycle }
  else if calls.isEmpty then loops
  else ofSelfCalls scope cost calls loops

def withUnbounded (outline : Outline) (unbounded : List Site) (judgement : Judgement) : Judgement :=
  match unbounded with
  | [] => judgement
  | first :: _ =>
    if judgement.cost == .exponential then judgement
    else
      { judgement with
        cost := .indeterminate, contributors := unbounded.map Site.id
        reason := "loop at lines " ++ first.span.lines ++ " has no bound tied to its body (" ++
          outline.loopLabel first.node ++ ")" }

def judge (outline : Outline) (graph : Option CallGraph) (scope : Scope) : Judgement :=
  let cost := Cost.ofScope outline scope
  let loops := ofLoops cost (scope.boundedBy outline .amortized)
  withUnbounded outline (scope.boundedBy outline .unbounded) (withRecursion scope graph cost loops)

def ofScope (outline : Outline) (graph : Option CallGraph) (scope : Scope) : Estimate :=
  let j := judge outline graph scope
  { scopeId := scope.id, scope := scope.name, span := scope.span, cost := j.cost
    degree := if j.cost.hasDegree then j.degree else 0
    logFactor := j.logFactor, contributors := j.contributors, reason := j.reason, recursion := j.recursion
    testability := testabilityOf scope j.cost }

end Estimate

structure Estimates where
  results : List Estimate
  isPartial : Bool
  deriving Inhabited

def Outline.estimates (outline : Outline) (graph : CallGraph) (budget : Budget) : Estimates :=
  let (scopes, complete) := budget.afford outline.scopes
  { results := scopes.map (Estimate.ofScope outline (some graph)), isPartial := !complete }

end Perflint
