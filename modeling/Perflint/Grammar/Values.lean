import Perflint.Grammar.Names

namespace Perflint.Grammar

def argValue (g : Grammar) (arg : Tree) : Tree :=
  match g.keywordArguments.lookup arg.type with
  | some field => (arg.field? field).getD arg
  | none => arg

def literalKind (g : Grammar) (arg : Tree) : String :=
  let value := g.unwrap (g.argValue arg)
  if value.hasType g.stringTypes then "string"
  else if g.isNumber value then "number"
  else if value.hasType g.regexTypes then "regex"
  else "other"

def constructorName (source : Source) (tree : Tree) : String :=
  let written := source.ofTree? (tree.firstField? ["constructor", "type"])
  Text.strip (Text.beforeFirst '(' (Text.beforeFirst '<' written))

def typedLiteralKind (tree : Tree) : ValueKind :=
  match tree.field? "type" with
  | none => .object
  | some type =>
    if type.hasType ["slice_type", "array_type", "implicit_length_array_type"] then .list
    else if type.type == "map_type" then .dict
    else .object

def literalValueKind (literal : String) : ValueKind :=
  if literal == "array" then .list
  else if literal == "object" then .dict
  else ValueKind.ofText literal

def isTypedLiteral (g : Grammar) (tree : Tree) : Bool :=
  tree.hasType g.typedLiterals

-- The kind of an expression's value; waiting for a value does not change it.
def valueKind (g : Grammar) (source : Source) : Nat → Tree → Reading ValueKind
  | 0, _ => .error .tooDeep
  | room + 1, tree =>
    let inner := g.unwrap tree
    if g.isTypedLiteral inner then .ok (typedLiteralKind inner)
    else if inner.hasType g.awaitTypes then
      match (g.parts inner).head? with
      | some value => valueKind g source room value
      | none => .ok .other
    else if inner.hasType g.stringTypes then .ok .string
    else if g.isNumber inner then .ok .number
    else
      match g.literal? inner with
      | some literal => .ok (literalValueKind literal)
      | none =>
        if inner.hasType g.newTypes then
          .ok ((Vocabulary.constructorKind? (constructorName source inner) "" []).getD .other)
        else if g.isCall inner then do
          let call := g.callParts inner
          let args := (g.argNodes call.args).map source.ofTree
          let name ← g.callQualified source room inner
          return (Vocabulary.constructorKind? (g.calleeLeaf source call.callee) name args).getD .call
        else if inner.hasType g.binaryTypes && inner.containsType g.stringTypes then .ok .string
        else .ok ((g.expressionKinds.lookup inner.type).getD .other)

def valueKind? (g : Grammar) (source : Source) : Option Tree → Reading ValueKind :=
  readOr .other (g.valueKind source depthLimit)

def isWholeLiteral (g : Grammar) (tree : Tree) : Bool :=
  let inner := g.unwrap tree
  if inner.type == "unary_operator" then
    match (g.parts inner).getLast? with
    | some operand => g.isNumber operand
    | none => false
  else g.isNumber inner

def rangeArgs? (g : Grammar) (source : Source) (tree : Tree) : Option (List Tree) :=
  let inner := g.unwrap tree
  let call := g.callParts inner
  if g.isCall inner && call.receiver.isNone && g.rangeCall.isSome &&
      some (g.calleeLeaf source call.callee) == g.rangeCall then
    some (g.argNodes call.args)
  else none

def isConstantIterable (g : Grammar) (source : Source) (tree : Tree) : Bool :=
  match g.rangeArgs? source tree with
  | some args => !args.isEmpty && args.all g.isWholeLiteral
  | none =>
    let inner := g.unwrap tree
    if g.isTypedLiteral inner then typedLiteralKind inner == .list
    else if inner.hasType g.stringTypes then true
    else match g.literal? inner with
      | some literal =>
        ["list", "array", "set", "tuple"].contains literal && !inner.children.any (·.hasType g.spreadTypes)
      | none => false

def rangeBoundNames (g : Grammar) (source : Source) (tree : Tree) : List String :=
  match g.rangeArgs? source tree with
  | some args =>
    if args.all fun arg => (g.unwrap arg).hasType g.identTypes || g.isWholeLiteral arg then g.namesOf source args
    else []
  | none => []

-- What a loop walks when everything that only changes the way of walking is taken off.
def iterableRoot (g : Grammar) (source : Source) : Nat → Tree → Reading String
  | 0, _ => .error .tooDeep
  | room + 1, tree =>
    let inner := g.unwrap tree
    let call := g.callParts inner
    let leaf := g.calleeLeaf source call.callee
    let first := (g.argNodes call.args).head?
    if g.isCall inner then
      match call.receiver.isNone && Vocabulary.wrapperFunctions.contains leaf, first with
      | true, some arg => iterableRoot g source room arg
      | _, _ => do
        let name ← g.callQualified source room inner
        match Vocabulary.wrapperQualified.contains name, first, call.receiver with
        | true, some arg, _ => iterableRoot g source room arg
        | _, _, some receiver =>
          if Vocabulary.wrapperMethods.contains leaf then iterableRoot g source room receiver else return ""
        | _, _, none => return ""
    else g.rootName source room inner

def iterableCall? (g : Grammar) (source : Source) : Nat → Tree → Reading (Option Tree)
  | 0, _ => .error .tooDeep
  | room + 1, tree =>
    let inner := g.unwrap tree
    let call := g.callParts inner
    let leaf := g.calleeLeaf source call.callee
    if g.isCall inner then
      match call.receiver, (g.argNodes call.args).head? with
      | none, some arg =>
        if Vocabulary.wrapperFunctions.contains leaf then iterableCall? g source room arg else .ok (some inner)
      | some receiver, _ =>
        if Vocabulary.wrapperMethods.contains leaf then iterableCall? g source room receiver else .ok (some inner)
      | none, none => .ok (some inner)
    else .ok none

def anonymousTypes (tree : Tree) : List String :=
  (tree.children.filter (!·.named)).map Tree.type

def comparesLiteral (g : Grammar) (tree : Tree) : Bool :=
  (tree.findAll g.comparisonTypes).any fun comparison =>
    (anonymousTypes comparison).any Vocabulary.relationalTokens.contains &&
      (g.parts comparison).any fun operand => g.isNumber (g.unwrap operand)

def compareOps (g : Grammar) (source : Source) (tree : Tree) : List String :=
  let operators := (tree.findAll g.comparisonTypes).flatMap fun comparison =>
    (anonymousTypes comparison).filter Vocabulary.compareTokens.contains
  let methods := (tree.findAll g.callTypes).filterMap fun call =>
    if Vocabulary.equalsCallees.contains (g.calleeLeaf source (g.callParts call).callee) then some "equals" else none
  (operators ++ methods).eraseDups

-- The operands around the first membership operator: the last part before it and the first after it.
def membershipIn (passed : List Tree) : List Tree → Option (Tree × String × Tree)
  | [] => none
  | child :: rest =>
    let here := if !child.named && ["in", "not in"].contains child.type then
        match passed.find? Tree.named, rest.find? Tree.named with
        | some left, some right => some (left, child.type, right)
        | _, _ => none
      else none
    match here with
    | some found => some found
    | none => membershipIn (child :: passed) rest

def membership? (tree : Tree) : Option (Tree × String × Tree) :=
  membershipIn [] tree.children

def containerIn : List Tree → Option Tree
  | [] => none
  | child :: rest =>
    let right := rest.find? Tree.named
    if !child.named && ["in", "not in"].contains child.type && right.isSome then right else containerIn rest

def consulted? (g : Grammar) (source : Source) (tree : Tree) : Option Tree :=
  let tested := (tree.findAll g.comparisonTypes).findSome? fun comparison => containerIn comparison.children
  let asked := (tree.findAll g.callTypes).findSome? fun call =>
    if Vocabulary.lookupMethods.contains (g.calleeLeaf source (g.callParts call).callee) then
      (g.callParts call).receiver
    else none
  let indexed := (tree.findAll (g.subscriptFields.map Prod.fst)).head?
  (tested.or asked).or indexed

def lookupContainer (g : Grammar) (source : Source) (tree : Option Tree) : Reading String :=
  g.rootName? source (tree.bind (g.consulted? source))

end Perflint.Grammar
