import Perflint.Grammar.Vocabulary
import Perflint.Outline.Basic

namespace Perflint

structure Link where
  call : Site
  caller : Scope
  target : Scope
  inLoop : Bool

structure CallGraph where
  functions : List Scope
  links : List Link

-- Bare calls, calls through `self` and its kin, and calls through the receiver that a method names itself can
-- only mean a function of this unit.
def CallInfo.staysInUnit (c : CallInfo) (caller : Scope) : Bool :=
  c.receiver.isEmpty || Vocabulary.selfReceivers.contains c.receiver ||
    match caller.function? with
    | some f => !f.receiverName.isEmpty && c.receiver == f.receiverName
    | none => false

def CallInfo.targets (c : CallInfo) (caller : Scope) (functions : List Scope) : List Scope :=
  if c.staysInUnit caller then functions.filter (·.name == c.callee) else []

def Outline.functions (outline : Outline) : List Scope :=
  outline.scopes.filter (!·.isUnit)

def Outline.callGraph (outline : Outline) : CallGraph :=
  let functions := outline.functions
  { functions
    links := outline.sites.flatMap fun call =>
      match call.node.call? with
      | none => []
      | some c =>
        let caller := outline.scopeOf call
        (c.targets caller functions).map fun target => { call, caller, target, inLoop := !call.loops.isEmpty } }

-- Adds what one step from `seen` leads to until nothing new comes, for at most so many rounds.
def spread (next : Nat → List Nat) : Nat → List Nat → List Nat
  | 0, seen => seen
  | rounds + 1, seen =>
    let fresh := ((seen.flatMap next).filter (!seen.contains ·)).eraseDups
    if fresh.isEmpty then seen else spread next rounds (seen ++ fresh)

namespace CallGraph

def crossing (graph : CallGraph) : List Link :=
  graph.links.filter fun link => link.target.id != link.caller.id

def fanIn (graph : CallGraph) (id : Nat) : Nat :=
  graph.crossing.countP (·.target.id == id)

def calledInLoop (graph : CallGraph) (id : Nat) : Bool :=
  graph.crossing.any fun link => link.target.id == id && link.inLoop

def edges (graph : CallGraph) : List Link :=
  graph.crossing.filter (!·.caller.isUnit)

def successors (graph : CallGraph) (id : Nat) : List Nat :=
  (graph.edges.filter (·.caller.id == id)).map (·.target.id)

def siteCount (graph : CallGraph) (caller target : Nat) : Nat :=
  graph.edges.countP fun link => link.caller.id == caller && link.target.id == target

def reachable (graph : CallGraph) (id : Nat) : List Nat :=
  spread graph.successors graph.functions.length [id]

def cycleIds (graph : CallGraph) (id : Nat) : List Nat :=
  (graph.reachable id).filter fun other => (graph.reachable other).contains id

def inCycle (graph : CallGraph) (id : Nat) : Bool :=
  2 ≤ (graph.cycleIds id).length

def cycleNames (graph : CallGraph) (id : Nat) : List String :=
  if graph.inCycle id then
    let members := graph.cycleIds id
    ((graph.functions.filter fun scope => members.contains scope.id).map Scope.name).mergeSort (fun a b => a ≤ b)
  else []

end CallGraph
end Perflint
