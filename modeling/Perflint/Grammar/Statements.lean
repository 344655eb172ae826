import Perflint.Grammar.Functions
import Perflint.Grammar.Values

namespace Perflint.Grammar

def callInfo (g : Grammar) (source : Source) (path : List Tree) (tree : Tree) : Reading CallInfo := do
  let call := g.callParts tree
  let leaf := g.calleeLeaf source call.callee
  let args := g.argNodes call.args
  let chained := match call.receiver.map g.unwrap with
    | some inner => if g.isCall inner then g.calleeLeaf source (g.callParts inner).callee else ""
    | none => ""
  let hasClosure := args.any fun arg => (g.unwrap (g.argValue arg)).hasType g.closureTypes
  let argCallees ← ((args.map g.unwrap).filter g.isCall).mapM (g.callQualified source depthLimit)
  let qualified ← g.callQualified source depthLimit tree
  let receiverRoot ← g.rootName? source call.receiver
  return { callee := leaf
           qualified
           receiver := source.ofTree? call.receiver
           receiverRoot
           receiverNames := g.names source call.receiver
           receiverCallee := chained
           argCount := some args.length
           args := args.map source.ofTree
           argNames := g.namesOf source args
           argLiteralKinds := args.map g.literalKind
           argCallees
           awaited := g.isAwaited path
           hasClosureArg := hasClosure
           iterates := hasClosure && Vocabulary.iterationMethods.contains leaf
           operator := "" }

def operatorInfo (g : Grammar) (source : Source) (callee operator : String) (receiver : Option Tree)
    (args : List Tree) : Reading CallInfo := do
  let receiverRoot ← g.rootName? source receiver
  return { callee
           qualified := callee
           receiver := source.ofTree? receiver
           receiverRoot
           receiverNames := g.names source receiver
           receiverCallee := ""
           argCount := some args.length
           args := args.map source.ofTree
           argNames := g.namesOf source args
           argLiteralKinds := args.map g.literalKind
           argCallees := []
           awaited := false
           hasClosureArg := false
           iterates := false
           operator }

def deletedFrom? (g : Grammar) (tree : Tree) : Option Tree :=
  (g.parts tree).head?.bind fun target =>
    let inner := g.unwrap target
    match g.subscriptFields.lookup inner.type with
    | some container => inner.field? container
    | none => some inner

-- A built-in function takes the collection as its first argument.
def builtinInfo (g : Grammar) (source : Source) (info : CallInfo) : List Tree → Reading CallInfo
  | [] => .error .noArgument
  | first :: rest => do
    let receiverRoot ← g.rootName source depthLimit first
    return { info with
      receiver := source.ofTree first
      receiverRoot
      receiverNames := g.names source (some first)
      args := rest.map source.ofTree
      argNames := g.namesOf source rest
      argCount := some rest.length
      argLiteralKinds := rest.map g.literalKind }

def collectionOpInfo (g : Grammar) (source : Source) (path : List Tree) (tree : Tree) : Reading CallInfo :=
  if tree.hasType g.membershipTypes then
    match membership? tree with
    | some (left, operator, right) => g.operatorInfo source "in" operator (some right) [left]
    | none => .error .noOperands
  else if tree.hasType g.deletionTypes then g.operatorInfo source "delete" "del" (g.deletedFrom? tree) []
  else do
    let info ← g.callInfo source path tree
    let call := g.callParts tree
    if g.collectionBuiltins.isEmpty || call.receiver.isSome then return info
    else g.builtinInfo source info (g.argNodes call.args)

def allocationInfo (g : Grammar) (source : Source) (tree : Tree) : Reading AllocationInfo :=
  match g.literal? tree with
  | some literal =>
    if g.isTypedLiteral tree then
      let kind := typedLiteralKind tree
      .ok { constructor := kind.text, literalKind := kind.text, valueKind := kind
            argNames := g.names source (some tree)
            empty := match tree.field? "body" with
              | some body => (g.parts body).isEmpty
              | none => true }
    else do
      let valueKind ← g.valueKind source depthLimit tree
      return { constructor := literal, literalKind := literal, valueKind
               argNames := g.names source (some tree), empty := (g.parts tree).isEmpty }
  | none => do
    let args := if g.isCall tree then (g.callParts tree).args else tree.field? "arguments"
    let valueKind ← g.valueKind source depthLimit tree
    return { constructor :=
               if g.isCall tree then g.calleeLeaf source (g.callParts tree).callee else constructorName source tree
             literalKind := "new"
             valueKind
             argNames := g.namesOf source (g.argNodes args)
             empty := (g.argNodes args).isEmpty }

def middlePart? (g : Grammar) (tree : Tree) : Option Tree :=
  match g.parts tree with
  | _ :: condition :: _ :: _ => some condition
  | _ => none

def conditionalInfo (g : Grammar) (source : Source) (tree : Tree) : Reading ConditionalInfo :=
  let compareOps := fun condition : Option Tree => match condition with
    | some condition => g.compareOps source condition
    | none => []
  if tree.hasType g.inlineConditionals then do
    let condition := g.middlePart? tree
    let lookupContainer ← g.lookupContainer source condition
    return { condition := source.ofTree? condition
             conditionNames := g.names source condition
             compareOps := compareOps condition
             lookupContainer
             guardReturns := false }
  else do
    let condition := tree.field? "condition"
    let initializer := tree.field? "initializer"
    let consulted ← g.lookupContainer source condition
    let lookupContainer ← if consulted.isEmpty then g.lookupContainer source initializer else pure consulted
    return { condition := source.ofTree? condition
             conditionNames := g.namesOf source (initializer.toList ++ condition.toList)
             compareOps := compareOps condition
             lookupContainer
             guardReturns := match tree.field? "consequence" with
               | some consequence => consequence.containsType g.returnTypes
               | none => false }

structure AssignmentParts where
  left : Option Tree
  operator : Option Tree
  right : Option Tree

def assignmentParts (g : Grammar) (tree : Tree) : AssignmentParts :=
  if tree.hasType g.updateTypes then
    { left := (tree.field? "argument").or (g.parts tree).head?
      operator := tree.children.find? (·.hasType ["++", "--"])
      right := none }
  else
    { left := tree.firstField? ["left", "name"]
      operator := tree.field? "operator"
      right := tree.firstField? ["right", "value"] }

def isConcat (g : Grammar) (source : Source) (tree : Tree) : Bool :=
  tree.hasType g.binaryTypes &&
    match tree.field? "operator" with
    | some operator => source.ofTree operator == "+"
    | none => tree.children.any fun child => !child.named && child.type == "+"

def assigned? (g : Grammar) (tree : Tree) : Option Tree :=
  match (g.assignmentParts tree).right with
  | none => none
  | some right =>
    match right.hasType g.multiTypes, g.parts right with
    | true, [only] => some only
    | _, _ => some right

def assignedTo (g : Grammar) (tree : Tree) : List Tree :=
  match (g.assignmentParts tree).left.map g.unwrap with
  | none => []
  | some left => if left.hasType g.multiTypes then g.parts left else [left]

-- What the first target with an index reaches into.
def indexedBy? (g : Grammar) (targets : List Tree) : Option Tree :=
  (targets.findSome? fun target => (g.subscriptFields.lookup target.type).map fun container => (target, container)).bind
    fun (target, container) => target.field? container

def assignmentInfo (g : Grammar) (source : Source) (tree : Tree) : Reading AssignmentInfo := do
  let targets := g.assignedTo tree
  let right := g.assigned? tree
  let value := right.map g.unwrap
  let listTypes := (g.literalTypes.filter fun entry => ["list", "array"].contains entry.2).map Prod.fst
  let targetRoots ← targets.mapM (g.rootName source depthLimit)
  let valueKind ← g.valueKind? source right
  let valueCalls ← g.callsIn source right
  let subscriptOf ← g.rootName? source (g.indexedBy? targets)
  return { targets := targets.map source.ofTree
           targetRoots
           operator := match (g.assignmentParts tree).operator with
             | some operator => source.ofTree operator
             | none => "="
           value := source.ofTree? right
           valueKind
           valueNames := g.names source right
           valueCallee := match value with
             | some value => if g.isCall value then g.calleeLeaf source (g.callParts value).callee else ""
             | none => ""
           valueCalls
           valueIsConcat := match value with
             | some value => g.isConcat source value
             | none => false
           valueHasString := match right with
             | some right => right.containsType g.stringTypes
             | none => false
           valueHasList := match right with
             | some right => right.containsType listTypes
             | none => false
           valueSpreads := match value with
             | some value => g.namesOf source (value.findAll g.spreadTypes)
             | none => []
           subscriptOf
           declaration := tree.hasType g.declarationTypes }

def returnedValue (g : Grammar) (source : Source) (tree : Tree) : String :=
  source.ofTree? (g.parts tree).head?

end Perflint.Grammar
