import Perflint.Grammar.Vocabulary
import Perflint.Source
import Perflint.Text.Basic
import Perflint.Tree

namespace Perflint

inductive Language where
  | python
  | javascript
  | typescript
  | java
  | go
  deriving DecidableEq, Repr, Inhabited

inductive CallForm where
  | applied
  -- Name and receiver are fields of the call.
  | named
  deriving DecidableEq, Repr

inductive LoopForm where
  | each (vars iterable : String)
  | condition (kind : LoopKind)
  | threePart
  -- The same with any number of initialisers, all of them declarations.
  | declared
  | clause
  | comprehension
  deriving DecidableEq, Repr

inductive MethodForm where
  | insideClass
  | ofType (type : String)
  | always
  deriving DecidableEq, Repr

inductive DecoratorForm where
  | none
  | wrapped
  | modifiers
  deriving DecidableEq, Repr

inductive ParameterForm where
  | single
  | grouped
  deriving DecidableEq, Repr

-- What the analysis needs to know of a grammar: which node types play which part, and in which fields the
-- parts of a construct are held.
structure Grammar where
  language : Language
  parser : String
  extensions : List String
  classTypes : List String := []
  functionTypes : List String
  closureTypes : List String
  loopTypes : List (String × LoopForm)
  callTypes : List String
  newTypes : List String := []
  literalTypes : List (String × String)
  conditionalTypes : List String
  -- Conditionals without fields: the condition is the second of three parts.
  inlineConditionals : List String := []
  assignmentTypes : List String
  declarationTypes : List String := []
  updateTypes : List String := []
  returnTypes : List String := ["return_statement"]
  awaitTypes : List String := []
  commentTypes : List String := ["comment", "line_comment", "block_comment"]
  bodyRequired : List String
  allocatorCalls : List String := []
  collectionBuiltins : List String := []
  membershipTypes : List String := []
  deletionTypes : List String := []
  identTypes : List String := ["identifier"]
  nameTypes : List String := ["identifier", "property_identifier", "field_identifier", "type_identifier"]
  thisTypes : List String := []
  stringTypes : List String
  numberTypes : List String
  regexTypes : List String := []
  spreadTypes : List String := []
  parenTypes : List String := ["parenthesized_expression"]
  binaryTypes : List String := ["binary_expression"]
  comparisonTypes : List String := ["binary_expression"]
  argumentTypes : List String
  multiTypes : List String := []
  memberFields : List (String × String × String)
  subscriptFields : List (String × String)
  -- Fields whose identifiers do not refer to variables.
  skipFields : List (String × String) := []
  -- Constructs that give a closure a name: the fields of the name and of the value.
  bindingFields : List (String × String × String)
  keywordArguments : List (String × String) := []
  expressionKinds : List (String × ValueKind) := []
  typedLiterals : List String := []
  rangeCall : Option String := none
  callForm : CallForm := .applied
  methodForm : MethodForm
  decoratorForm : DecoratorForm := .none
  parameterForm : ParameterForm := .single
  receiverField : Option String := none

structure CallParts where
  callee : Option Tree
  receiver : Option Tree
  args : Option Tree

namespace Grammar

def isPart (g : Grammar) (tree : Tree) : Bool :=
  tree.named && !tree.hasType g.commentTypes

def parts (g : Grammar) (tree : Tree) : List Tree :=
  tree.children.filter g.isPart

mutual

def unwrap (g : Grammar) : Tree → Tree
  | .node label children =>
    if g.parenTypes.contains label.type then (unwrapFirst g children).getD (.node label children)
    else .node label children

def unwrapFirst (g : Grammar) : List Tree → Option Tree
  | [] => none
  | tree :: rest => if g.isPart tree then some (unwrap g tree) else unwrapFirst g rest

end

def member? (g : Grammar) (tree : Tree) : Option (String × String) :=
  g.memberFields.lookup tree.type

def callParts (g : Grammar) (tree : Tree) : CallParts :=
  match g.callForm with
  | .named =>
    { callee := tree.field? "name", receiver := tree.field? "object", args := tree.field? "arguments" }
  | .applied =>
    let callee := tree.field? "function"
    { callee
      receiver := callee.bind fun callee =>
        (g.member? (g.unwrap callee)).bind fun member => (g.unwrap callee).field? member.1
      args := tree.field? "arguments" }

def argNodes (g : Grammar) (args : Option Tree) : List Tree :=
  match args with
  | none => []
  | some args => if args.hasType g.argumentTypes then g.parts args else [args]

def isCall (g : Grammar) (tree : Tree) : Bool :=
  tree.hasType g.callTypes

def literal? (g : Grammar) (tree : Tree) : Option String :=
  g.literalTypes.lookup tree.type

def isNumber (g : Grammar) (tree : Tree) : Bool :=
  tree.hasType g.numberTypes

end Grammar

def Source.ofTree (source : Source) (tree : Tree) : String :=
  source.slice tree.first tree.last

def Source.ofTree? (source : Source) : Option Tree → String
  | none => ""
  | some tree => source.ofTree tree

end Perflint
