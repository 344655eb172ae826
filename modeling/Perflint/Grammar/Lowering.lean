import Perflint.Grammar.Statements
import Perflint.Grammar.Loops
import Perflint.Outline.Basic

namespace Perflint

inductive TreeFault where
  | noRoot
  | parseError
  | missingToken
  | callWithoutCallee
  | functionWithoutBody
  | loopWithoutBody
  deriving DecidableEq, Repr

def TreeFault.reason : TreeFault → String
  | .noRoot => "tree has no root node"
  | .parseError => "syntax error"
  | .missingToken => "missing token"
  | .callWithoutCallee => "call without callee"
  | .functionWithoutBody => "function without a body"
  | .loopWithoutBody => "loop without a body"

structure Malformed where
  fault : TreeFault
  type : Option String
  line : Option Nat
  deriving DecidableEq, Repr

inductive Refusal where
  | malformed (m : Malformed)
  | broken (breakdown : Breakdown)
  | misnumbered (error : NumberingError)
  deriving DecidableEq, Repr

namespace Grammar

def faultAt (source : Source) (fault : TreeFault) (tree : Tree) : Malformed :=
  { fault, type := some tree.type, line := some (source.position tree.first).line }

def brokenBy? (tree : Tree) : Option TreeFault :=
  if tree.type == "ERROR" || tree.label.isError then some .parseError
  else if tree.label.isMissing then some .missingToken
  else none

def checkNode (source : Source) (tree : Tree) : Except Refusal Unit :=
  match brokenBy? tree with
  | some fault => .error (.malformed (faultAt source fault tree))
  | none => .ok ()

def callKind (g : Grammar) (source : Source) (tree : Tree) : Kind :=
  let call := g.callParts tree
  let leaf := g.calleeLeaf source call.callee
  if call.receiver.isNone && g.collectionBuiltins.contains leaf && !(g.argNodes call.args).isEmpty then .collectionOp
  else if call.receiver.isNone && g.allocatorCalls.contains leaf then .allocation
  else if call.receiver.isSome && Vocabulary.collectionMethods.contains leaf then .collectionOp
  else .call

-- The part a node plays; `none` when it plays none and only its children count.
def classify (g : Grammar) (source : Source) (path : List Tree) (tree : Tree) : Except Refusal (Option Kind) :=
  if tree.hasType g.functionTypes then .ok (some .function)
  else if tree.hasType g.closureTypes then
    .ok (some (if (g.bindingName source path tree).isEmpty then .closure else .function))
  else if tree.hasType g.classTypes then .ok (some .classDef)
  else if (g.loopTypes.lookup tree.type).isSome then .ok (some .loop)
  else if g.isCall tree then
    if (g.callParts tree).callee.isNone then .error (.malformed (faultAt source .callWithoutCallee tree))
    else .ok (some (g.callKind source tree))
  else if tree.hasType g.newTypes || (g.literal? tree).isSome then .ok (some .allocation)
  else if tree.hasType g.conditionalTypes then .ok (some .conditional)
  else if tree.hasType g.assignmentTypes || tree.hasType g.updateTypes then .ok (some .assignment)
  else if tree.hasType g.returnTypes then .ok (some .returns)
  else if tree.hasType g.membershipTypes && (membership? tree).isSome then .ok (some .collectionOp)
  else if tree.hasType g.deletionTypes then .ok (some .collectionOp)
  else .ok none

def told (read : Reading α) (info : α → Info) : Except Refusal Info :=
  (read.map info).mapError .broken

def describe (g : Grammar) (source : Source) (path : List Tree) (tree : Tree) : Kind → Except Refusal Info
  | .unit => .ok .unit
  | .classDef => .ok (.classDef (source.ofTree? (tree.field? "name")))
  | .function =>
    if tree.hasType g.bodyRequired && (tree.field? "body").isNone then
      .error (.malformed (faultAt source .functionWithoutBody tree))
    else told (g.functionInfo source path tree) .function
  | .loop =>
    if (tree.field? "body").isNone then .error (.malformed (faultAt source .loopWithoutBody tree))
    else told (g.loopInfo source tree) .loop
  | .call => told (g.callInfo source path tree) .call
  | .collectionOp => told (g.collectionOpInfo source path tree) .collectionOp
  | .allocation => told (g.allocationInfo source tree) .allocation
  | .closure => told (g.parameters source tree) fun params => .closure (params.map Prod.fst)
  | .conditional => told (g.conditionalInfo source tree) .conditional
  | .assignment => told (g.assignmentInfo source tree) .assignment
  | .returns => .ok (.returns (g.returnedValue source tree))

def made (source : Source) (tree : Tree) (id : Nat) (info : Info) (children : List Node) : Node :=
  .mk { id, span := source.span tree.first tree.last, grammarType := tree.type, info } children

def countOnce (info : Info) (once : Nat) : Info :=
  match info with
  | .loop l => .loop { l with onceCount := once }
  | other => other

-- The state is the next identifier. A node takes its own before anything below it is looked at.
abbrev Lowering := StateT Nat (Except Refusal)

def takeId : Lowering Nat :=
  modifyGet fun next => (next, next + 1)

-- The nodes that stand for a tree, in order; a node without a part of its own stands for those of its
-- children. What a loop evaluates once comes first and is passed over where it stands, so `skip` holds the
-- keys of such parts. `path` are the ancestors, nearest first.
def lower (g : Grammar) (source : Source) (skip : List Tree.Key) (path : List Tree) (tree : Tree) :
    Lowering (List Node) := do
  checkNode source tree
  if tree.hasType g.commentTypes || skip.contains tree.key then return []
  match ← g.classify source path tree with
  | none =>
    let parts ← tree.children.attach.mapM fun ⟨child, _⟩ => lower g source skip (tree :: path) child
    return parts.flatten
  | some kind =>
    let id ← takeId
    let info ← g.describe source path tree kind
    let onceParts := if kind == .loop then g.onceParts tree else []
    let once ← onceParts.mapM fun part => lower g source skip (part.between ++ tree :: path) part.node
    let inside := skip ++ onceParts.map (·.node.key)
    let rest ← tree.children.attach.mapM fun ⟨child, _⟩ => lower g source inside (tree :: path) child
    return [made source tree id (countOnce info once.flatten.length) (once.flatten ++ rest.flatten)]
termination_by sizeOf tree
decreasing_by
  · exact Tree.sizeOf_child_lt (by assumption)
  · exact part.smaller
  · exact Tree.sizeOf_child_lt (by assumption)

def unitNode (g : Grammar) (source : Source) (tree : Tree) : Lowering Node := do
  checkNode source tree
  let id ← takeId
  let parts ← tree.children.mapM fun child => g.lower source [] [tree] child
  return made source tree id .unit parts.flatten

def outline (g : Grammar) (tag : String) (source : Source) : Option Tree → Except Refusal Outline
  | none => .error (.malformed { fault := .noRoot, type := none, line := none })
  | some tree => do
    let (root, _) ← (g.unitNode source tree).run 0
    (Outline.ofRoot tag source root).mapError .misnumbered

end Grammar
end Perflint
