import Perflint.Source

namespace Perflint

inductive Kind where
  | unit
  | classDef
  | function
  | loop
  | call
  | collectionOp
  | allocation
  | closure
  | conditional
  | assignment
  | returns
  deriving DecidableEq, Repr, Inhabited

namespace Kind

def text : Kind → String
  | .unit => "module"
  | .classDef => "class"
  | .function => "function"
  | .loop => "loop"
  | .call => "call"
  | .collectionOp => "collection_op"
  | .allocation => "allocation"
  | .closure => "closure"
  | .conditional => "conditional"
  | .assignment => "assignment"
  | .returns => "return"

def all : List Kind :=
  [.unit, .classDef, .function, .loop, .call, .collectionOp, .allocation, .closure, .conditional, .assignment, .returns]

def ofText? (text : String) : Option Kind :=
  all.find? (·.text == text)

def isCall (kind : Kind) : Bool :=
  kind == .call || kind == .collectionOp

-- Kinds that stop the upward search for enclosing loops.
def barsLoops (kind : Kind) : Bool :=
  kind == .function || kind == .classDef || kind == .unit

end Kind

inductive LoopKind where
  | forEach
  | counted
  | whileDo
  | doWhile
  | comprehension
  | unknown
  deriving DecidableEq, Repr, Inhabited

namespace LoopKind

def text : LoopKind → String
  | .forEach => "for-each"
  | .counted => "for"
  | .whileDo => "while"
  | .doWhile => "do-while"
  | .comprehension => "comprehension"
  | .unknown => ""

def ofText (text : String) : LoopKind :=
  ([.forEach, .counted, .whileDo, .doWhile, .comprehension].find? (·.text == text)).getD .unknown

def onCondition (kind : LoopKind) : Bool :=
  kind == .whileDo || kind == .doWhile

end LoopKind

inductive ValueKind where
  | string
  | number
  | list
  | dict
  | set
  | deque
  | tuple
  | object
  | call
  | other
  | unknown
  deriving DecidableEq, Repr, Inhabited

namespace ValueKind

def text : ValueKind → String
  | .string => "string"
  | .number => "number"
  | .list => "list"
  | .dict => "dict"
  | .set => "set"
  | .deque => "deque"
  | .tuple => "tuple"
  | .object => "object"
  | .call => "call"
  | .other => "other"
  | .unknown => "None"

def ofText (text : String) : ValueKind :=
  ([.string, .number, .list, .dict, .set, .deque, .tuple, .object, .call, .other].find? (·.text == text)).getD .unknown

end ValueKind

structure FunctionInfo where
  name : String := ""
  params : List String := []
  paramCount : Nat := 0
  paramTypes : List (String × String) := []
  decorators : List String := []
  isMethod : Bool := false
  receiverName : String := ""
  deriving DecidableEq, Repr, Inhabited

structure LoopInfo where
  kind : LoopKind := .unknown
  iterVars : List String := []
  iterable : String := ""
  iterableNames : List String := []
  iterableRoot : String := ""
  iterableCallee : String := ""
  iterableReceiver : String := ""
  iterableCalls : List String := []
  condition : String := ""
  conditionNames : List String := []
  comparesLiteral : Bool := false
  update : String := ""
  boundConstant : Bool := false
  boundNames : List String := []
  -- How many loops a comprehension stands for, and how many of them run over something constant.
  levels : Nat := 1
  constantLevels : Nat := 0
  -- How many of the first children are evaluated once and not per iteration.
  onceCount : Nat := 0
  deriving DecidableEq, Repr, Inhabited

structure CallInfo where
  callee : String := ""
  qualified : String := ""
  receiver : String := ""
  receiverRoot : String := ""
  receiverNames : List String := []
  receiverCallee : String := ""
  argCount : Option Nat := none
  args : List String := []
  argNames : List String := []
  argLiteralKinds : List String := []
  argCallees : List String := []
  awaited : Bool := false
  hasClosureArg : Bool := false
  iterates : Bool := false
  operator : String := ""
  deriving DecidableEq, Repr, Inhabited

structure AllocationInfo where
  constructor : String := ""
  literalKind : String := ""
  valueKind : ValueKind := .unknown
  argNames : List String := []
  empty : Bool := false
  deriving DecidableEq, Repr, Inhabited

structure ConditionalInfo where
  condition : String := ""
  conditionNames : List String := []
  compareOps : List String := []
  lookupContainer : String := ""
  guardReturns : Bool := false
  deriving DecidableEq, Repr, Inhabited

structure AssignmentInfo where
  targets : List String := []
  targetRoots : List String := []
  operator : String := ""
  value : String := ""
  valueKind : ValueKind := .unknown
  valueNames : List String := []
  valueCallee : String := ""
  valueCalls : List String := []
  valueIsConcat : Bool := false
  valueHasString : Bool := false
  valueHasList : Bool := false
  valueSpreads : List String := []
  subscriptOf : String := ""
  declaration : Bool := false
  deriving DecidableEq, Repr, Inhabited

inductive Info where
  | unit
  | classDef (name : String)
  | function (f : FunctionInfo)
  | loop (l : LoopInfo)
  | call (c : CallInfo)
  | collectionOp (c : CallInfo)
  | allocation (a : AllocationInfo)
  | closure (params : List String)
  | conditional (c : ConditionalInfo)
  | assignment (a : AssignmentInfo)
  | returns (value : String)
  deriving DecidableEq, Repr, Inhabited

def Info.kind : Info → Kind
  | .unit => .unit
  | .classDef _ => .classDef
  | .function _ => .function
  | .loop _ => .loop
  | .call _ => .call
  | .collectionOp _ => .collectionOp
  | .allocation _ => .allocation
  | .closure _ => .closure
  | .conditional _ => .conditional
  | .assignment _ => .assignment
  | .returns _ => .returns

-- A node without its children. `grammarType` is the type of the parse tree node it stands for.
structure Head where
  id : Nat
  span : Span
  grammarType : String
  info : Info
  deriving DecidableEq, Repr, Inhabited

inductive Node where
  | mk (head : Head) (children : List Node)
  deriving Inhabited

namespace Node

def head : Node → Head
  | .mk head _ => head

def children : Node → List Node
  | .mk _ children => children

def id (node : Node) : Nat :=
  node.head.id

def span (node : Node) : Span :=
  node.head.span

def info (node : Node) : Info :=
  node.head.info

def kind (node : Node) : Kind :=
  node.info.kind

def isFunction (node : Node) : Bool :=
  node.kind == .function

def loop? (node : Node) : Option LoopInfo :=
  match node.info with
  | .loop l => some l
  | _ => none

def call? (node : Node) : Option CallInfo :=
  match node.info with
  | .call c => some c
  | .collectionOp c => some c
  | _ => none

def assignment? (node : Node) : Option AssignmentInfo :=
  match node.info with
  | .assignment a => some a
  | _ => none

def conditional? (node : Node) : Option ConditionalInfo :=
  match node.info with
  | .conditional c => some c
  | _ => none

def function? (node : Node) : Option FunctionInfo :=
  match node.info with
  | .function f => some f
  | _ => none

def isLoop (node : Node) : Bool :=
  node.loop?.isSome

def isClosure (node : Node) : Bool :=
  node.kind == .closure

def onceCount (node : Node) : Nat :=
  match node.loop? with
  | some l => l.onceCount
  | none => 0

def onceChildren (node : Node) : List Node :=
  node.children.take node.onceCount

def bodyChildren (node : Node) : List Node :=
  node.children.drop node.onceCount

def iterates (node : Node) : Bool :=
  match node.info with
  | .loop _ => true
  | .collectionOp c => c.iterates
  | _ => false

-- Whether a child runs on every iteration: in the body of a loop, or as the closure that is called per element.
def runsPerIteration (parent child : Node) : Bool :=
  if parent.isLoop then parent.bodyChildren.any (·.id == child.id) else parent.iterates && child.isClosure

mutual

def preorder : Node → List Node
  | .mk head children => .mk head children :: preorderAll children

def preorderAll : List Node → List Node
  | [] => []
  | node :: rest => node.preorder ++ preorderAll rest

end

def ids (node : Node) : List Nat :=
  node.preorder.map id

end Node
end Perflint
