import Perflint.Rule.Basic
import Perflint.Text.Unicode

namespace Perflint.Catalog

-- The modifiers for a loop over fetched data. A doubtful fetch counts only when the caller calls the data large.
def originModifiers? (strength : FetchStrength) (large : Bool) : Option (List String) :=
  match strength, large with
  | .weak, false => none
  | .weak, true => some ["weak_origin", "large_input"]
  | .strong, true => some ["large_input"]
  | .strong, false => some []

def queryPerElement? (ctx : Context) (call : Site) (loop : Site) : Option Hit := do
  guard (call.node.dependsOn loop.node.loopVars true)
  let (strength, origin) ← ctx.outline.fetchedOrigin? loop
  guard (origin.id != call.id)
  let modifiers ← originModifiers? strength (ctx.hints.isLarge [loop.node.loopRoot, loop.node.loopText])
  let qualified := match call.node.call? with
    | some c => c.qualified
    | none => ""
  return { place := call, modifiers
           captures := [("call", ctx.whole call), ("callee", call.labelled qualified),
                        ("source_call", ctx.whole origin)] ++ ctx.loopCaptures loop }

def findQueryPerElement (ctx : Context) (call : Site) : Option Hit :=
  if call.node.fetchStrength? == some .strong then call.loops.findSome? (queryPerElement? ctx call) else none

def nPlusOneQuery : Rule :=
  { id := "n-plus-one-query"
    title := "N+1 query pattern"
    category := "io"
    targets := [.call, .collectionOp]
    check := atMostOnce findQueryPerElement
    severity := .critical
    template := "batch-fetch"
    description := "A data fetch per element of a collection that was itself fetched."
    remediation := "Fetch the related rows for all items in one batched query before the loop, then look them up."
    message := "`{call}` runs once per element of `{collection}`, which was itself fetched" }

def findIoInLoop (ctx : Context) (call : Site) : Option Hit := do
  guard call.node.isIo
  let loop ← call.loops.find? fun loop => loop.node.isCountingLoop && call.node.dependsOn loop.node.loopVars true
  return { place := call, captures := ("call", ctx.whole call) :: ctx.loopCaptures loop }

def ioInLoop : Rule :=
  { id := "io-in-loop"
    title := "I/O inside a loop"
    category := "io"
    targets := [.call, .collectionOp]
    check := atMostOnce findIoInLoop
    severity := .high
    template := "hoist-io"
    description := "File, network or database access repeated per loop iteration."
    remediation := "Move the I/O out of the loop: read or fetch everything once, or batch the requests."
    message := "`{call}` performs I/O on every iteration over `{collection}`" }

def sequenceScans : List String := ["index", "indexOf", "lastIndexOf", "includes"]

def closureScans : List String := ["find", "findIndex", "findLast", "some", "every"]

def listScans : List String := ["in", "contains", "count"]

def isScan (c : CallInfo) : Bool :=
  if closureScans.contains c.callee then c.hasClosureArg
  else sequenceScans.contains c.callee || listScans.contains c.callee

def scansLinearly (c : CallInfo) (kinds : List ValueKind) : Bool :=
  if listScans.contains c.callee then kinds == [.list]
  else !kinds.any [ValueKind.set, .dict, .string, .deque].contains

def findScan (ctx : Context) (op : Site) : Option Hit := do
  let c ← op.node.call?
  guard (isScan c)
  let name := c.trackedName
  guard (!name.isEmpty)
  let loop ← op.loops.head?
  guard (op.node.dependsOn (op.loops.flatMap (·.node.loopVars)) false)
  guard (op.loops.all (·.invariantIn name))
  guard (scansLinearly c (ctx.outline.originKinds op name))
  return { place := op
           captures := [("call", ctx.whole op), ("collection", op.labelled c.receiver), ("item", op.labelled (c.arg 0)),
                        ("loop_var", loop.labelled loop.node.firstVar)]
           modifiers := if ctx.hints.isLarge [name] then ["large_input"] else [] }

def collectionScanInLoop : Rule :=
  { id := "collection-scan-in-loop"
    title := "Linear search inside a loop"
    category := "collections"
    targets := [.collectionOp]
    check := atMostOnce findScan
    severity := .high
    template := "index-lookup"
    description := "A linear membership test or search on a loop-invariant list."
    remediation :=
      "Build a set or dict from the searched collection once, before the loop, and look items up in it."
    message := "`{call}` scans `{collection}` on every iteration" }

def copyCallees : List String := ["concat", "slice", "copy", "list", "toList", "clone"]

-- The value holds a copy of the whole of `target`: spread out, made by a copying method, or as a part of a sum.
def copiesWhole (a : AssignmentInfo) (target : String) (kinds : List ValueKind) : Bool :=
  if a.valueSpreads.contains target then true
  else if copyCallees.contains a.valueCallee then a.valueCalls.any (Text.startsWith · (target ++ "."))
  else a.valueIsConcat && (a.valueHasList || kinds == [.list])

def findCopy (ctx : Context) (site : Site) : Option Hit := do
  let a ← site.node.assignment?
  let target := a.soleTarget
  guard (!target.isEmpty && a.operator == "=" && a.valueNames.contains target)
  let loop ← site.loops.head?
  guard (ctx.outline.initializedOutside loop target)
  let kinds := ctx.outline.originKinds site target
  guard (!kinds.contains .string && !a.valueHasString && copiesWhole a target kinds)
  return { place := site
           captures := [("target", site.labelled target), ("value", site.labelled a.value)] ++ ctx.loopCaptures loop }

def collectionCopyInLoop : Rule :=
  { id := "collection-copy-in-loop"
    title := "Collection copied on every iteration"
    category := "collections"
    targets := [.assignment]
    check := atMostOnce findCopy
    severity := .medium
    template := "append-in-place"
    description := "Re-assigning a collection from a copy of itself inside a loop."
    remediation := "Append to the collection in place instead of rebuilding it each time."
    message := "`{target}` is rebuilt from a full copy of itself on every iteration" }

def frontOps : List String := ["unshift", "shift"]

def indexedArgs? (callee : String) : Option Nat :=
  [("insert", 2), ("add", 2), ("pop", 1), ("remove", 1), ("removeAt", 1)].lookup callee

-- Removing by index is removing by position in one language only.
def isPositional (c : CallInfo) (language : String) : Bool :=
  !(["remove", "removeAt"] : List String).contains c.callee || language == "java"

def frontItem? (c : CallInfo) (language : String) : Option String :=
  if frontOps.contains c.callee then some (c.arg 0)
  else if indexedArgs? c.callee == c.argCount && Text.strip (c.arg 0) == "0" && isPositional c language then
    some (c.arg 1)
  else none

def linkedMarkers : List String := ["deque", "LinkedList", "ArrayDeque", "list.New"]

-- The scope binds or declares `name` as something whose front is cheap.
def isLinked (scope : Scope) (name : String) : Bool :=
  (!name.isEmpty && (scope.assignmentsTo name).any fun site =>
    match site.node.assignment? with
    | some a => Text.containsAny a.value linkedMarkers
    | none => false) ||
  Text.containsAny ((scope.paramType? name).getD "") linkedMarkers

def findFrontInsert (ctx : Context) (op : Site) : Option Hit := do
  let c ← op.node.call?
  let item ← frontItem? c ctx.language
  guard (!op.loops.isEmpty)
  let name := c.trackedName
  guard (!isLinked (ctx.outline.scopeOf op) name)
  guard (!(ctx.outline.originKinds op name).any [ValueKind.set, .dict, .deque].contains)
  return { place := op
           captures := [("call", ctx.whole op), ("collection", op.labelled c.receiver), ("item", op.labelled item)] }

def frontInsertInLoop : Rule :=
  { id := "front-insert-in-loop"
    title := "Insert or remove at the front of a list inside a loop"
    category := "collections"
    targets := [.collectionOp]
    check := atMostOnce findFrontInsert
    severity := .medium
    template := "use-deque"
    description := "Operations at index 0 of an array-backed list, repeated in a loop."
    remediation := "Use a double-ended queue, or append and reverse once after the loop."
    message := "`{call}` shifts every element of `{collection}` on each iteration" }

def emptyLists : List String := ["[]", "list()", "newArray()", "Array()"]

def soleAppend? (loop : Site) : Option (Site × CallInfo) :=
  match loop.bodyChildren with
  | [op] =>
    match op.node.info with
    | .collectionOp c =>
      if ["append", "push"].contains c.callee && c.argCount == some 1 && !c.receiver.isEmpty &&
          c.receiver == c.receiverRoot
      then some (op, c) else none
    | _ => none
  | _ => none

def startsEmpty (ctx : Context) (loop : Site) (name : String) : Bool :=
  match (ctx.outline.lastAssignment? (ctx.outline.scopeOf loop) name loop.span.start).bind (·.node.assignment?) with
  | some a => a.valueKind == .list && emptyLists.contains (Text.without ' ' a.value)
  | none => false

def findManualMap (ctx : Context) (loop : Site) : Option Hit := do
  let l ← loop.node.loop?
  guard (l.kind == .forEach)
  let (op, c) ← soleAppend? loop
  let names := loop.node.loopVars
  guard (op.node.dependsOn names true && !names.contains c.receiver && !c.receiverNames.any names.contains)
  guard (startsEmpty ctx loop c.receiver)
  return { place := loop
           captures := [("target", op.labelled c.receiver), ("item", op.labelled (c.arg 0)),
                        ("var", loop.labelled (Text.joined ", " names)), ("collection", loop.labelled l.iterable)] }

def manualMapAppend : Rule :=
  { id := "manual-map-append"
    title := "Loop that only appends a transformed element"
    category := "collections"
    targets := [.loop]
    check := atMostOnce findManualMap
    severity := .low
    languages := ["python", "javascript", "typescript"]
    template := "comprehension"
    description := "A for-each loop whose body is a single append to an empty list."
    remediation := "Build the list with a comprehension or map() instead of appending in a loop."
    message := "the loop over `{collection}` only appends to `{target}`" }

def chainHeads : List String := ["map", "filter"]

def chainTails : List String := ["map", "filter", "forEach", "reduce", "flatMap", "some", "every", "find"]

def chainHead? (op : Site) (head : String) : Option (Site × CallInfo) :=
  op.children.findSome? fun child =>
    match child.node.info with
    | .collectionOp c => if c.callee == head && c.hasClosureArg then some (child, c) else none
    | _ => none

def findChain (_ : Context) (op : Site) : Option Hit := do
  let c ← op.node.call?
  guard (chainTails.contains c.callee && chainHeads.contains c.receiverCallee && c.hasClosureArg)
  let (child, first) ← chainHead? op c.receiverCallee
  return { place := op
           captures := [("collection", child.labelled first.receiver), ("first", child.labelled c.receiverCallee),
                        ("second", op.labelled c.callee), ("first_fn", child.labelled (first.arg 0)),
                        ("second_fn", op.labelled (c.arg 0))] }

def chainedMapFilter : Rule :=
  { id := "chained-map-filter"
    title := "Chained array passes"
    category := "collections"
    targets := [.collectionOp]
    check := atMostOnce findChain
    severity := .low
    languages := ["javascript", "typescript"]
    template := "single-pass"
    description := "``xs.map(f).filter(g)``-style chains that walk the data more than once."
    remediation := "Fold the chained callbacks into a single pass (one loop or one reduce)."
    message :=
      "`{collection}.{first}(...).{second}(...)` walks the array twice and allocates an intermediate copy" }

def equalityTests : List String := ["==", "===", "equals", "is"]

def joinsOn (outerVars innerVars : List String) (site : Site) : Bool :=
  match site.node.conditional? with
  | some c =>
    c.compareOps.any equalityTests.contains && c.conditionNames.any outerVars.contains &&
      c.conditionNames.any innerVars.contains
  | none => false

-- What the inner loop runs over does not hang on the outer one.
def isIndependent (outer : Site) (l : LoopInfo) : Bool :=
  let outerVars := outer.node.loopVars
  !l.iterableNames.any outerVars.contains &&
    (l.iterableRoot.isEmpty || outer.invariantIn l.iterableRoot) &&
    !(l.kind == .counted && l.boundNames.any outerVars.contains)

-- The match is reported at the outer loop.
def findJoin (ctx : Context) (inner : Site) : Option Hit := do
  let l ← inner.node.loop?
  guard (!l.boundConstant && (l.kind == .forEach || l.kind == .counted))
  let outer ← inner.loops.head?
  let outerVars := outer.node.loopVars
  let innerVars := inner.node.loopVars
  guard (isIndependent outer l)
  let condition ← inner.descendantsInScope.find? (joinsOn outerVars innerVars)
  return { place := outer
           captures := [("outer", outer.labelled (ctx.outline.loopLabel outer.node)),
                        ("inner", inner.labelled (ctx.outline.loopLabel inner.node)),
                        ("outer_var", outer.labelled outer.node.firstVar),
                        ("inner_var", inner.labelled inner.node.firstVar), ("condition", ctx.whole condition)] }

def nestedLoopJoin : Rule :=
  { id := "nested-loop-join"
    title := "Nested-loop join"
    category := "algorithmic"
    targets := [.loop]
    check := atMostOnce findJoin
    severity := .high
    template := "hash-join"
    description := "Two independent nested loops matched on an equality condition."
    remediation :=
      "Index the inner collection by its join key in a dict once, then look matches up per outer element."
    message := "every element of `{outer}` is compared against every element of `{inner}`" }

def sortMethods : List String := ["sort", "sort_values", "sort_index"]

def sortQualified : List String :=
  ["Arrays.sort", "Collections.sort", "sort.Slice", "sort.SliceStable", "sort.Strings", "sort.Ints", "sort.Sort",
   "slices.Sort"]

def sortTarget (c : CallInfo) : String :=
  if sortQualified.contains c.qualified || (c.callee == "sorted" && c.receiver.isEmpty) then c.arg 0
  else if sortMethods.contains c.callee then c.receiver
  else ""

def isPlainName (text : String) : Bool :=
  let letters := text.toList.filter fun c => c != '.' && c != '_'
  !letters.isEmpty && letters.all Text.isAlphanumeric

def findSort (ctx : Context) (call : Site) : Option Hit := do
  let c ← call.node.call?
  let target := sortTarget c
  guard (isPlainName target)
  let loop ← call.loops.head?
  guard (loop.invariantIn target)
  return { place := call
           captures := [("call", ctx.whole call), ("target", call.labelled target)] ++ ctx.loopCaptures loop }

def sortInLoop : Rule :=
  { id := "sort-in-loop"
    title := "Sorting inside a loop"
    category := "ordering"
    targets := [.call, .collectionOp]
    check := atMostOnce findSort
    severity := .high
    template := "sort-once"
    description := "Sorting a loop-invariant collection on each iteration."
    remediation := "Sort once after the loop, or keep the collection ordered with bisect/a heap as items arrive."
    message := "`{target}` is re-sorted on every iteration" }

end Perflint.Catalog
