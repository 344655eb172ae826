import Perflint.Error
import Perflint.Grammar.Basic

namespace Perflint.Grammar

-- The nodes under which no variable is mentioned: member names and the fields the grammar skips.
def unmentioned (g : Grammar) (tree : Tree) : List Tree.Key :=
  let skipped := g.skipFields.filterMap fun (type, field) => if type == tree.type then some field else none
  let member := match g.member? tree with
    | some (_, name) => [name]
    | none => []
  (skipped ++ member).flatMap fun field => (tree.fields field).map Tree.key

mutual

def mentionsIn (g : Grammar) (source : Source) : Tree → List String
  | .node label children =>
    let tree := Tree.node label children
    if tree.hasType g.identTypes || tree.hasType g.thisTypes then [source.ofTree tree]
    else mentionsInAll g source (g.unmentioned tree) children

def mentionsInAll (g : Grammar) (source : Source) (skipped : List Tree.Key) : List Tree → List String
  | [] => []
  | tree :: rest =>
    (if skipped.contains tree.key then [] else mentionsIn g source tree) ++ mentionsInAll g source skipped rest

end

def namesOf (g : Grammar) (source : Source) (trees : List Tree) : List String :=
  (trees.flatMap (g.mentionsIn source)).eraseDups

def names (g : Grammar) (source : Source) (tree : Option Tree) : List String :=
  g.namesOf source tree.toList

abbrev Reading := Except Breakdown

def readOr {α : Type} (absent : α) (read : Tree → Reading α) : Option Tree → Reading α
  | none => .ok absent
  | some tree => read tree

-- How many of the readers that call themselves may stand on each other.
def depthLimit : Nat := 980

def start? (g : Grammar) (inner : Tree) : Option Tree :=
  match g.member? inner, g.subscriptFields.lookup inner.type with
  | some (object, _), _ => inner.field? object
  | none, some container => inner.field? container
  | none, none => if g.isCall inner then (g.callParts inner).receiver.or (g.callParts inner).callee else none

def rootName (g : Grammar) (source : Source) : Nat → Tree → Reading String
  | 0, _ => .error .tooDeep
  | room + 1, tree =>
    let inner := g.unwrap tree
    if inner.hasType g.identTypes || inner.hasType g.thisTypes then .ok (source.ofTree inner)
    else
      match g.start? inner with
      | some next => rootName g source room next
      | none => .ok ""

def rootName? (g : Grammar) (source : Source) : Option Tree → Reading String :=
  readOr "" (g.rootName source depthLimit)

def calleeLeaf (g : Grammar) (source : Source) (callee : Option Tree) : String :=
  match callee.map g.unwrap with
  | none => ""
  | some inner =>
    if inner.hasType g.nameTypes then source.ofTree inner
    else match g.member? inner with
      | some (_, name) => source.ofTree? (inner.field? name)
      | none => ""

def dotted (left right : String) : String :=
  if left.isEmpty then right else if right.isEmpty then left else left ++ "." ++ right

mutual

-- The dotted name of an expression; empty when it is not built like a name. A call is named after what it calls.
def qualified (g : Grammar) (source : Source) : Nat → Tree → Reading String
  | 0, _ => .error .tooDeep
  | room + 1, tree =>
    let inner := g.unwrap tree
    if inner.hasType g.nameTypes || inner.hasType g.thisTypes then .ok (source.ofTree inner)
    else
      match g.member? inner, g.subscriptFields.lookup inner.type with
      | some (object, name), _ => do
        let left ← match inner.field? object with
          | some next => qualified g source room next
          | none => .ok ""
        return dotted left (source.ofTree? (inner.field? name))
      | none, some container =>
        match inner.field? container with
        | some next => qualified g source room next
        | none => .ok ""
      | none, none => if g.isCall inner then callQualified g source room inner else .ok ""

def callQualified (g : Grammar) (source : Source) : Nat → Tree → Reading String
  | 0, _ => .error .tooDeep
  | room + 1, call =>
    let leaf := g.calleeLeaf source (g.callParts call).callee
    match (g.callParts call).receiver, (g.callParts call).callee with
    | some receiver, _ => do
      let start ← qualified g source room receiver
      return if start.isEmpty then leaf else start ++ "." ++ leaf
    | none, some callee => do
      let whole ← qualified g source room callee
      return if whole.isEmpty then leaf else whole
    | none, none => .ok leaf

end

def callsIn (g : Grammar) (source : Source) : Option Tree → Reading (List String) :=
  readOr [] fun tree => do
    let names ← (tree.findOutside g.callTypes (g.functionTypes ++ g.closureTypes)).mapM
      (g.callQualified source depthLimit)
    return names.filter (!·.isEmpty)

end Perflint.Grammar
