import Perflint.Grammar.Values

namespace Perflint.Grammar

def owner? (g : Grammar) (path : List Tree) : Option Tree :=
  path.find? (!·.hasType g.parenTypes)

def isAwaited (g : Grammar) (path : List Tree) : Bool :=
  match g.owner? path with
  | some owner => owner.hasType g.awaitTypes
  | none => false

def bindingName (g : Grammar) (source : Source) (path : List Tree) (tree : Tree) : String :=
  match g.owner? path with
  | none => ""
  | some owner =>
    match g.bindingFields.lookup owner.type with
    | none => ""
    | some (name, value) =>
      match (owner.field? value).map g.unwrap with
      | none => ""
      | some bound => if bound.key == tree.key then g.calleeLeaf source (owner.field? name) else ""

def paramName (g : Grammar) (source : Source) : Nat → Tree → Reading String
  | 0, _ => .error .tooDeep
  | room + 1, param =>
    if param.hasType g.identTypes then .ok (source.ofTree param)
    else
      match param.firstField? ["name", "pattern", "left"] with
      | some target => paramName g source room target
      | none => .ok (source.ofTree? (param.children.find? (·.hasType g.identTypes)))

def paramType (source : Source) (param : Tree) : String :=
  let written := (source.ofTree? (param.field? "type")).toList.dropWhile (· == ':')
  Text.strip (String.ofList written)

def parameters (g : Grammar) (source : Source) (tree : Tree) : Reading (List (String × String)) :=
  match g.parameterForm with
  | .single =>
    match tree.firstField? ["parameters", "parameter"] with
    | none => .ok []
    | some params =>
      if params.hasType g.identTypes then .ok [(source.ofTree params, "")]
      else do
        let named ← (g.parts params).mapM fun param => do
          return (← g.paramName source depthLimit param, paramType source param)
        return named.filter (!·.1.isEmpty)
  | .grouped =>
    match tree.field? "parameters" with
    | none => .ok []
    | some params => .ok ((g.parts params).flatMap fun declaration =>
        let type := source.ofTree? (declaration.field? "type")
        (declaration.fields "name").map fun name => (source.ofTree name, type))

def decorators (g : Grammar) (source : Source) (path : List Tree) (tree : Tree) : List String :=
  match g.decoratorForm with
  | .none => []
  | .wrapped =>
    match path.head? with
    | none => []
    | some parent =>
      if parent.type != "decorated_definition" then []
      else (parent.children.filter (·.type == "decorator")).filterMap fun decorator =>
        (g.parts decorator).head?.map fun expression =>
          let target := if expression.type == "call" then (g.callParts expression).callee else some expression
          let leaf := g.calleeLeaf source target
          if leaf.isEmpty then source.ofTree? target else leaf
  | .modifiers =>
    (tree.children.filter (·.type == "modifiers")).flatMap fun modifiers =>
      (modifiers.children.filter (·.hasType ["marker_annotation", "annotation"])).map fun mark =>
        Text.afterLast '.' (source.ofTree? (mark.field? "name"))

-- A method stands in the block of a class, decorated or not.
def isMethod (g : Grammar) (path : List Tree) (tree : Tree) : Bool :=
  match g.methodForm with
  | .always => true
  | .ofType type => tree.type == type
  | .insideClass =>
    let outer := match path with
      | parent :: rest => if parent.type == "decorated_definition" then rest else path
      | [] => []
    match outer with
    | block :: owner :: _ => block.type == "block" && owner.type == "class_definition"
    | _ => false

def receiverName (g : Grammar) (source : Source) (tree : Tree) : String :=
  match g.receiverField.bind tree.field? with
  | none => ""
  | some receiver =>
    match ((g.parts receiver).flatMap (·.fields "name")).head? with
    | some name => source.ofTree name
    | none => ""

-- A later parameter of the same name replaces the type of an earlier one.
def typedParams (params : List (String × String)) : List (String × String) :=
  params.foldl (fun known (name, type) =>
    if type.isEmpty then known
    else if known.any (·.1 == name) then known.map fun entry => if entry.1 == name then (name, type) else entry
    else known ++ [(name, type)]) []

-- The first parameter of a method stands for the object and does not count.
def ownParams (isMethod : Bool) : List (String × String) → List (String × String)
  | [] => []
  | (name, type) :: rest => if isMethod && ["self", "cls"].contains name then rest else (name, type) :: rest

def functionInfo (g : Grammar) (source : Source) (path : List Tree) (tree : Tree) : Reading FunctionInfo := do
  let own := source.ofTree? (tree.field? "name")
  let isMethod := g.isMethod path tree
  let params := ownParams isMethod (← g.parameters source tree)
  return { name := if own.isEmpty then g.bindingName source path tree else own
           params := params.map Prod.fst
           paramCount := params.length
           paramTypes := typedParams params
           decorators := g.decorators source path tree
           isMethod
           receiverName := g.receiverName source tree }

end Perflint.Grammar
