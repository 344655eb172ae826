import Perflint.Rule.Basic
import Perflint.Rule.Catalog.Repetition
import Perflint.Rule.Evaluation

namespace Perflint.Catalog

-- The latest assignment to `target` before a place that gives it a value of its own. Each assignment that does
-- not sends the search on to what stands before it.
def initializer? (outline : Outline) (scope : Scope) (target : String) (before : Position) : Option Site :=
  match outline.lastAssignment? scope target before with
  | none => none
  | some site =>
    if site.node.bindsAfresh target then some site
    else if site.span.start < before then initializer? outline scope target site.span.start
    else none
termination_by (before.line, before.column)
decreasing_by
  rename_i earlier
  have order : site.span.start.lt before = true := earlier
  simp only [Position.lt, Bool.or_eq_true, Bool.and_eq_true, decide_eq_true_eq, beq_iff_eq] at order
  rcases order with line | ⟨line, column⟩
  · exact Prod.Lex.left _ _ line
  · rw [line]
    exact Prod.Lex.right _ column

-- A string by its first value, or by its declared type where it has none.
def isStringAt (ctx : Context) (site loop : Site) (a : AssignmentInfo) (target : String) : Bool :=
  let scope := ctx.outline.scopeOf site
  match (initializer? ctx.outline scope target loop.span.start).bind (·.node.assignment?) with
  | some start =>
    start.valueKind == .string ||
      (a.valueHasString && !([.number, .list, .dict, .set, .deque] : List ValueKind).contains start.valueKind)
  | none => ["str", "string", "String"].contains (Text.strip ((scope.paramType? target).getD ""))

-- What an assignment adds to `target`. A sum has to start with the target itself.
def addedPiece (a : AssignmentInfo) (target : String) : Except Fault (Option String) :=
  if a.operator == "+=" then .ok (some a.value)
  else if a.operator == "=" && a.valueIsConcat && a.valueNames.contains target then
    if Text.strip (Text.beforeFirst '+' a.value) != target then .ok none
    else
      match Text.afterFirst? '+' a.value with
      | some piece => .ok (some (Text.strip piece))
      | none => .error .missingPlus
  else .ok none

def concatHit? (ctx : Context) (site : Site) (a : AssignmentInfo) (piece : String) : Option Hit := do
  let target := a.soleTarget
  let loop ← site.loops.head?
  guard (ctx.outline.initializedOutside loop target && isStringAt ctx site loop a target)
  return { place := site
           captures := [("target", site.labelled target), ("piece", site.labelled piece)] ++ ctx.loopCaptures loop }

def findConcat (ctx : Context) (site : Site) : Except Fault (List Hit) :=
  match site.node.assignment? with
  | none => .ok []
  | some a =>
    if a.soleTarget.isEmpty then .ok []
    else do
      let piece ← addedPiece a a.soleTarget
      return (piece.bind (concatHit? ctx site a)).toList

def stringConcatInLoop : Rule :=
  { id := "string-concat-in-loop"
    title := "String concatenation in loop"
    category := "string"
    targets := [.assignment]
    check := findConcat
    severity := .medium
    template := "join-parts"
    description := "A string accumulated with ``+``/``+=`` across loop iterations."
    remediation := "Collect the pieces in a list and join them once after the loop (or use a string builder)."
    message := "`{target}` is rebuilt by concatenation on every iteration" }

def regexCompilers : List String :=
  ["re.compile", "regex.compile", "Pattern.compile", "regexp.MustCompile", "regexp.Compile"]

def regexMatchers : List String :=
  ["re.match", "re.search", "re.findall", "re.finditer", "re.sub", "re.subn", "re.split", "re.fullmatch",
   "regexp.MatchString", "Pattern.matches"]

-- What stands between the first opening and the last closing bracket; without a closing one the last character
-- is left out.
def bracketed (text : String) : String :=
  match Text.afterFirst? '(' text with
  | none => ""
  | some rest =>
    let chars := rest.toList.reverse
    let inner := if chars.contains ')' then (chars.dropWhile (· != ')')).drop 1
      else if text.toList.contains ')' then [] else chars.drop 1
    String.ofList inner.reverse

structure PatternUse where
  pattern : String
  names : List String
  modifiers : List String

def patternUse? (ctx : Context) (site : Site) : Option PatternUse :=
  match site.node.info with
  | .allocation a =>
    if a.constructor != "RegExp" then none
    else
      some { pattern := Text.strip (Text.beforeFirst ',' (bracketed (ctx.text site))), names := a.argNames, modifiers := [] }
  | .call c | .collectionOp c =>
    let matching := regexMatchers.contains c.qualified
    if !matching && !regexCompilers.contains c.qualified then none
    else
      some { pattern := c.arg 0
             names := if c.argLiteralKinds.head? == some "string" then [] else c.argNames.take 1
             modifiers := if matching then ["match_call"] else [] }
  | _ => none

def findRegex (ctx : Context) (site : Site) : Option Hit := do
  let use ← patternUse? ctx site
  guard (!use.pattern.isEmpty)
  let loop ← site.loops.head?
  guard (site.loops.all fun loop => use.names.all loop.invariantIn)
  return { place := site, modifiers := use.modifiers
           captures := [("call", ctx.whole site), ("pattern", site.labelled use.pattern)] ++ ctx.loopCaptures loop }

def regexInLoop : Rule :=
  { id := "regex-in-loop"
    title := "Regular expression compiled inside a loop"
    category := "regex"
    targets := [.call, .allocation]
    check := atMostOnce findRegex
    severity := .high
    template := "precompile-regex"
    description := "A loop-invariant pattern compiled (or matched by string) per iteration."
    remediation := "Compile the pattern once outside the loop and reuse the compiled object."
    message := "the pattern {pattern} is compiled on every iteration" }

def deepCopies : List String :=
  ["copy.deepcopy", "structuredClone", "_.cloneDeep", "lodash.cloneDeep", "cloneDeep", "SerializationUtils.clone",
   "deepcopy"]

def roundTripSource? (site : Site) : Option Site :=
  match site.node.call? with
  | none => none
  | some c =>
    if c.qualified != "JSON.parse" || !c.argCallees.contains "JSON.stringify" then none
    else site.descendantsInScope.find? fun inner =>
      match inner.node.info with
      | .call c => c.qualified == "JSON.stringify"
      | _ => false

def deepCopySource? (site : Site) : Option Site :=
  match roundTripSource? site, site.node.call? with
  | some inner, _ => some inner
  | none, some c => if deepCopies.contains c.qualified then some site else none
  | none, none => none

def findDeepClone (ctx : Context) (site : Site) : Option Hit := do
  let source ← deepCopySource? site
  let reasons := ctx.hotReasons (ctx.outline.scopeOf site)
  guard (!site.loops.isEmpty || reasons.any HotReason.isStructural)
  return { place := site
           captures := [("call", ctx.whole site), ("value", site.labelled source.node.firstArg)]
           modifiers := if reasons.contains .callerHint then ["hot_scope"] else [] }

def deepCloneInHotPath : Rule :=
  { id := "deep-clone-in-hot-path"
    title := "Deep copy in a loop or hot function"
    category := "memory"
    targets := [.call]
    check := atMostOnce findDeepClone
    severity := .high
    template := "shallow-copy"
    description := "Deep copies inside a loop or a structurally hot function."
    remediation :=
      "Copy only what is mutated (a shallow copy or an immutable structure) instead of deep-copying."
    message := "`{call}` deep-copies `{value}` on a hot path" }

def findRoundTrip (ctx : Context) (site : Site) : Option Hit := do
  let source ← roundTripSource? site
  return { place := site
           captures := [("call", ctx.whole site), ("value", source.labelled source.node.firstArg)] }

def jsonDeepClone : Rule :=
  { id := "json-deep-clone"
    title := "Deep clone through JSON round-trip"
    category := "memory"
    targets := [.call]
    check := atMostOnce findRoundTrip
    severity := .low
    languages := ["javascript", "typescript"]
    template := "structured-clone"
    description := "``JSON.parse(JSON.stringify(x))`` used as a deep copy."
    remediation := "Use structuredClone(), which is faster and keeps Dates, Maps and Sets intact."
    message := "`{call}` clones `{value}` by serializing it to JSON and back" }

def growthCallees : List String :=
  ["append", "push", "add", "put", "appendleft", "extend", "setdefault", "offer", "unshift", "set"]

def drainCallees : List String :=
  ["pop", "popleft", "popitem", "shift", "clear", "remove", "discard", "delete", "splice", "poll", "removeAt",
   "truncate"]

def boundedMarkers : List String := ["maxlen", "LRU", "lru", "Bounded"]

structure Growth where
  receiver : String
  root : String
  item : String

def growth? (node : Node) : Option Growth :=
  match node.info with
  | .assignment a =>
    let receiver := Text.beforeFirst '[' a.soleTarget
    if a.subscriptOf.isEmpty || receiver.isEmpty then none
    else some { receiver, root := Text.beforeFirst '.' receiver, item := a.value }
  | .collectionOp c =>
    if !growthCallees.contains c.callee || c.receiver.isEmpty then none
    else some { receiver := c.receiver, root := c.receiverRoot, item := c.arg 0 }
  | _ => none

def isBounded (region : Site) (receiver : String) : Bool :=
  region.descendants.any fun site =>
    match site.node.assignment? with
    | some a => a.targets.contains receiver && Text.containsAny a.value boundedMarkers
    | none => false

def resetsAt (receiver : String) (site : Site) : Bool :=
  match site.node.assignment? with
  | some a => a.targets.contains receiver && a.operator == "="
  | none => false

def drainsAt (receiver : String) (site : Site) : Bool :=
  match site.node.call? with
  | some c => (c.receiver == receiver && drainCallees.contains c.callee) || c.args.contains receiver
  | none => false

-- Entries are removed, the collection is handed on, or it is bound more than once.
def isDrained (region : Site) (receiver : String) : Bool :=
  region.descendants.any (drainsAt receiver) || region.descendants.countP (resetsAt receiver) > 1

def hasSizeCheck (region : Site) (receiver : String) : Bool :=
  region.descendants.any fun site =>
    Text.containsAny site.node.conditionText
      ["len(" ++ receiver ++ ")", receiver ++ ".length", receiver ++ ".size", "len(" ++ receiver ++ "."]

def growsCollection (kinds : List ValueKind) : Bool :=
  !kinds.isEmpty && kinds.all [ValueKind.list, .dict, .set, .deque].contains

def growthRegion? (ctx : Context) (site : Site) (growth : Growth) : Option Site := do
  guard (!(ctx.outline.scopeOf site).isUnit)
  let region ← ctx.outline.persistentRegion? site growth.receiver growth.root
  guard (growsCollection (ctx.outline.originKinds site growth.receiver))
  guard (!isBounded region growth.receiver && !isDrained region growth.receiver &&
    !hasSizeCheck region growth.receiver)
  return region

def firstGrowth? (ctx : Context) (region : Site) (receiver : String) : Option Site :=
  region.descendants.find? fun site =>
    (match growth? site.node with
      | some growth => growth.receiver == receiver
      | none => false) && !(ctx.outline.scopeOf site).isUnit

-- Only the first place where a collection grows is reported.
def findGrowth (ctx : Context) (site : Site) : Option Hit := do
  let growth ← growth? site.node
  let region ← growthRegion? ctx site growth
  let first ← firstGrowth? ctx region growth.receiver
  guard (first.id == site.id)
  return { place := site
           captures := [("collection", site.labelled growth.receiver), ("item", site.labelled growth.item)]
           modifiers := if ctx.hints.isLarge [growth.receiver] then ["large_input"] else [] }

def unboundedGrowth : Rule :=
  { id := "unbounded-growth"
    title := "Unbounded growth of a long-lived collection"
    category := "memory"
    targets := [.collectionOp, .assignment]
    check := atMostOnce findGrowth
    severity := .medium
    template := "bounded-cache"
    description := "Module- or instance-level collections that are appended to but never drained."
    remediation :=
      "Bound the collection (evict, cap its size, or use an LRU cache) or clear it when its data is consumed."
    message := "`{collection}` only ever grows; nothing removes entries or resets it" }

def rowAxes : List String := ["axis=1", "axis='columns'", "axis=\"columns\""]

def rowFrame? (node : Node) : Option String :=
  match node.info with
  | .loop l => if ["iterrows", "itertuples"].contains l.iterableCallee then some l.iterableReceiver else none
  | .call c | .collectionOp c =>
    if c.callee == "apply" && !c.receiver.isEmpty && c.args.any (fun arg => rowAxes.contains (Text.without ' ' arg))
    then some c.receiver else none
  | _ => none

def findRows (_ : Context) (site : Site) : Option Hit := do
  let frame ← rowFrame? site.node
  return { place := site, captures := [("frame", site.labelled frame)] }

def dataframeRowIteration : Rule :=
  { id := "dataframe-row-iteration"
    title := "Row-by-row DataFrame iteration"
    category := "dataframe"
    targets := [.loop, .call, .collectionOp]
    check := atMostOnce findRows
    severity := .medium
    languages := ["python"]
    template := "vectorize"
    description := "``iterrows``/``itertuples`` loops and ``apply(axis=1)``."
    remediation := "Express the computation as vectorized column operations instead of iterating rows."
    message := "`{frame}` is processed one row at a time" }

def sleepQualified : List String :=
  ["time.sleep", "Thread.sleep", "time.Sleep", "asyncio.sleep", "TimeUnit.SECONDS.sleep"]

def isSleep (c : CallInfo) : Bool :=
  sleepQualified.contains c.qualified || (["sleep", "delay"].contains c.callee && c.receiver.isEmpty)

def findSleep (ctx : Context) (call : Site) : Option Hit := do
  let c ← call.node.call?
  guard (isSleep c)
  call.loops.findSome? fun loop => do
    let l ← loop.node.loop?
    guard l.kind.onCondition
    return { place := call
             captures := [("call", ctx.whole call), ("loop_kind", loop.labelled l.kind.text),
                          ("duration", call.labelled (c.arg 0))] }

def sleepInLoop : Rule :=
  { id := "sleep-in-loop"
    title := "Polling loop with sleep"
    category := "concurrency"
    targets := [.call]
    check := atMostOnce findSleep
    severity := .medium
    template := "event-wait"
    description := "Sleeping inside a condition-driven loop."
    remediation := "Wait on an event, condition or future instead of polling with sleep."
    message := "`{call}` polls inside a `{loop_kind}` loop" }

-- The loops up to the first closure: what a closure awaits is not awaited in turn.
def statementLoops (site : Site) : List Site :=
  site.loops.takeWhile (·.node.isLoop)

def findAwait (ctx : Context) (call : Site) : Option Hit := do
  let c ← call.node.call?
  guard (c.awaited && !isSleep c)
  let loop ← (statementLoops call).find? fun loop =>
    match loop.node.loop? with
    | some l => (l.kind == .counted || l.kind == .forEach) && call.node.dependsOn loop.node.loopVars true
    | none => false
  return { place := call, captures := ("call", ctx.whole call) :: ctx.loopCaptures loop }

def awaitInLoop : Rule :=
  { id := "await-in-loop"
    title := "Sequential await inside a loop"
    category := "concurrency"
    targets := [.call, .collectionOp]
    check := atMostOnce findAwait
    severity := .medium
    languages := ["python", "javascript", "typescript"]
    template := "gather"
    description := "Independent awaits serialized by a for loop."
    remediation := "Start the awaits together (asyncio.gather / Promise.all) instead of awaiting each in turn."
    message := "`{call}` is awaited one element of `{collection}` at a time" }

end Perflint.Catalog

namespace Perflint

namespace Catalog

-- Every rule confirms that its node is on a repeated path and that the operation there is costly.
def rules : List Rule :=
  [nPlusOneQuery, ioInLoop, collectionScanInLoop, collectionCopyInLoop, frontInsertInLoop, manualMapAppend,
   nestedLoopJoin, sortInLoop, stringConcatInLoop, regexInLoop, deepCloneInHotPath, jsonDeepClone, unboundedGrowth,
   chainedMapFilter, dataframeRowIteration, sleepInLoop, awaitInLoop]

theorem forall_rules {holds : Rule → Prop} : (∀ rule ∈ rules, holds rule) ↔
    holds nPlusOneQuery ∧ holds ioInLoop ∧ holds collectionScanInLoop ∧ holds collectionCopyInLoop ∧
      holds frontInsertInLoop ∧ holds manualMapAppend ∧ holds nestedLoopJoin ∧ holds sortInLoop ∧
      holds stringConcatInLoop ∧ holds regexInLoop ∧ holds deepCloneInHotPath ∧ holds jsonDeepClone ∧
      holds unboundedGrowth ∧ holds chainedMapFilter ∧ holds dataframeRowIteration ∧ holds sleepInLoop ∧
      holds awaitInLoop := by
  simp only [rules, List.forall_mem_cons, List.not_mem_nil, false_implies, implies_true, and_true]

def registry : Registry :=
  { rules, isFrozen := true }

end Catalog

def Registry.orCatalog (registry : Registry) : Registry :=
  if registry.rules.isEmpty then Catalog.registry else registry

end Perflint
