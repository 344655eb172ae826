import Perflint.Grammar.Vocabulary
import Perflint.Outline.Basic
import Perflint.Text.Basic

namespace Perflint

namespace Node

-- The names bound on every iteration: loop variables, or the parameters of the closures that run.
def loopVars (loop : Node) : List String :=
  match loop.loop? with
  | some l => l.iterVars.filter (· != "_")
  | none => loop.children.flatMap fun child =>
      match child.info with
      | .closure params => params
      | _ => []

def loopText (loop : Node) : String :=
  match loop.info with
  | .loop l => l.iterable
  | .call c => c.receiver
  | .collectionOp c => c.receiver
  | _ => ""

def loopRoot (loop : Node) : String :=
  match loop.info with
  | .loop l => l.iterableRoot
  | .call c => c.receiverRoot
  | .collectionOp c => c.receiverRoot
  | _ => ""

def conditionText (node : Node) : String :=
  match node.info with
  | .loop l => l.condition
  | .conditional c => c.condition
  | _ => ""

def isCountingLoop (loop : Node) : Bool :=
  match loop.loop? with
  | some l => l.kind == .counted || l.kind == .forEach || l.kind == .comprehension
  | none => true

def bindsAfresh (node : Node) (name : String) : Bool :=
  match node.assignment? with
  | some a => a.targets.contains name && a.operator == "=" && !a.valueNames.contains name
  | none => false

def usedNames (node : Node) (receiver : Bool) : List String :=
  match node.info with
  | .call c | .collectionOp c => c.argNames ++ if receiver then c.receiverNames else []
  | .allocation a => a.argNames
  | .assignment a => a.valueNames
  | _ => []

def dependsOn (node : Node) (names : List String) (receiver : Bool) : Bool :=
  (node.usedNames receiver).any names.contains

end Node

namespace Site

def rebinds (region : Site) (name : String) : Bool :=
  region.descendantsInScope.any (·.node.bindsAfresh name)

def invariantIn (loop : Site) (name : String) : Bool :=
  if name.isEmpty then false
  else if loop.node.loopVars.contains (Text.beforeFirst '.' name) then false
  else if !loop.node.isLoop then !loop.rebinds name
  else !loop.bodyChildren.any fun child => child.node.bindsAfresh name || child.rebinds name

def sourceCalls (loop : Site) : List Site :=
  let roots := if loop.node.isLoop then loop.onceChildren else loop.children.filter (!·.node.isClosure)
  roots.flatMap fun root => (root :: root.descendantsInScope).filter (·.kind.isCall)

def enclosingClass? (site : Site) : Option Site :=
  site.ancestors.find? (·.kind == .classDef)

end Site

def Outline.loopLabel (outline : Outline) (loop : Node) : String :=
  if !loop.loopText.isEmpty then loop.loopText
  else if !loop.conditionText.isEmpty then loop.conditionText
  else Text.beforeFirst '\n' (outline.text loop)

def Scope.assignmentsTo (scope : Scope) (name : String) : List Site :=
  scope.nodes.filter fun site =>
    match site.node.assignment? with
    | some a => a.targets.contains name
    | none => false

-- Of several nodes the one that starts last; of those that start together the first.
def latestStart : List Site → Option Site
  | [] => none
  | site :: rest =>
    match latestStart rest with
    | none => some site
    | some later => if site.span.start.lt later.span.start then some later else some site

namespace Outline

-- A name is looked up in its scope, then in the unit.
def lookupScopes (outline : Outline) (scope : Scope) : List Scope :=
  if scope.isUnit then [scope] else [scope, outline.unitScope]

def lastAssignment? (outline : Outline) (scope : Scope) (name : String) (before : Position) : Option Site :=
  (outline.lookupScopes scope).findSome? fun candidate =>
    latestStart ((candidate.assignmentsTo name).filter fun site => site.span.finish.le before)

def typeMarkers : List (ValueKind × List String) :=
  [(.list, ["list", "List", "[]", "Array", "Sequence", "ArrayList", "LinkedList", "Iterable"]),
   (.set, ["set", "Set", "frozenset", "HashSet"]),
   (.dict, ["dict", "Dict", "Map", "Record", "Mapping", "HashMap"]),
   (.deque, ["deque", "Deque"]),
   (.string, ["str", "string", "String"])]

-- The kind of value that a declared type promises. Empty brackets count wherever they stand.
def declaredKind? (type : String) : Option ValueKind :=
  let head := Text.strip type
  (typeMarkers.find? fun (_, markers) =>
    markers.any fun marker => Text.startsWith head marker || (marker == "[]" && Text.contains head marker)).map Prod.fst

def assignedKinds (sites : List Site) : List ValueKind :=
  sites.filterMap fun site =>
    match site.node.assignment? with
    | some a => if a.operator == "=" then some a.valueKind else none
    | none => none

def scopeKinds (scope : Scope) (name : String) : List ValueKind :=
  assignedKinds (scope.assignmentsTo name) ++
    match scope.paramType? name with
    | some type => (declaredKind? type).toList
    | none => []

def isSelfName (name : String) : Bool :=
  Text.contains name "." && Vocabulary.selfReceivers.contains (Text.beforeFirst '.' name)

def originKinds (outline : Outline) (site : Site) (name : String) : List ValueKind :=
  if name.isEmpty then []
  else if isSelfName name then
    let region := site.enclosingClass?.getD outline.rootSite
    (assignedKinds (region.descendants.filter fun site =>
      match site.node.assignment? with
      | some a => a.targets.contains name
      | none => false)).eraseDups
  else
    (((outline.lookupScopes (outline.scopeOf site)).map (scopeKinds · name)).find? (!·.isEmpty)).getD [] |>.eraseDups

def initializedOutside (outline : Outline) (loop : Site) (name : String) : Bool :=
  let scope := outline.scopeOf loop
  (scope.params.contains name || (outline.lastAssignment? scope name loop.span.start).isSome) && !loop.rebinds name

def isUnitConstant (outline : Outline) (name : String) : Bool :=
  match outline.unitScope.assignmentsTo name with
  | [only] =>
    match only.node.assignment? with
    | some a => a.valueKind == .number && a.operator == "="
    | none => false
  | _ => false

-- The region in which a long-lived collection lives: the class of `self.x`, the whole unit for a name of
-- the unit. A local has none.
def persistentRegion? (outline : Outline) (site : Site) (receiver root : String) : Option Site :=
  let scope := outline.scopeOf site
  if receiver.isEmpty then none
  else if Text.contains receiver "." && Vocabulary.selfReceivers.contains root then
    some (site.enclosingClass?.getD outline.rootSite)
  else if receiver != root || scope.isUnit then none
  else if scope.params.contains root || !(scope.assignmentsTo root).isEmpty then none
  else if (outline.unitScope.assignmentsTo root).isEmpty then none
  else some outline.rootSite

end Outline
end Perflint
