import Perflint.Error
import Perflint.Outline.Node
import Perflint.Source
import Perflint.Text.Unicode

namespace Perflint

-- A node in its place: `above` are its ancestors, the nearest first.
structure Site where
  node : Node
  above : List Node
  deriving Inhabited

namespace Site

def id (site : Site) : Nat :=
  site.node.id

def span (site : Site) : Span :=
  site.node.span

def kind (site : Site) : Kind :=
  site.node.kind

def parent? (site : Site) : Option Site :=
  match site.above with
  | [] => none
  | node :: above => some { node, above }

def ancestorsFrom : List Node → List Site
  | [] => []
  | node :: above => { node, above } :: ancestorsFrom above

def ancestors (site : Site) : List Site :=
  ancestorsFrom site.above

mutual

-- A node and what lies below it, parents first. With `inScope` the walk does not enter functions.
def walk (inScope : Bool) (above : List Node) : Node → List Site
  | .mk head children =>
    let node := Node.mk head children
    { node, above } :: if inScope && node.isFunction then [] else walkAll inScope (node :: above) children

def walkAll (inScope : Bool) (above : List Node) : List Node → List Site
  | [] => []
  | node :: rest => walk inScope above node ++ walkAll inScope above rest

end

def descendants (site : Site) : List Site :=
  walkAll false (site.node :: site.above) site.node.children

def descendantsInScope (site : Site) : List Site :=
  walkAll true (site.node :: site.above) site.node.children

def children (site : Site) : List Site :=
  site.node.children.map fun node => { node, above := site.node :: site.above }

def onceChildren (site : Site) : List Site :=
  site.children.take site.node.onceCount

def bodyChildren (site : Site) : List Site :=
  site.children.drop site.node.onceCount

def repeats (parent child : Node) : Bool :=
  if parent.isLoop then !(parent.onceChildren.map Node.id).contains child.id
  else parent.iterates && child.isClosure

-- The search stops at a function, a class or the unit: what is defined in a loop does not run in it.
def loopsFrom (child : Node) : List Node → List Site
  | [] => []
  | node :: above =>
    if node.kind.barsLoops then []
    else if repeats node child then { node, above } :: loopsFrom node above
    else loopsFrom node above

-- The loops whose per-iteration part holds the node, nearest first. What a loop runs over and the receiver
-- of an iterating operation are evaluated once and lie outside.
def loops (site : Site) : List Site :=
  loopsFrom site.node site.above

end Site

structure Scope where
  root : Site
  isUnit : Bool
  name : String
  paramCount : Nat
  depth : Nat
  parentId : Option Nat
  deriving Inhabited

namespace Scope

def id (scope : Scope) : Nat :=
  scope.root.id

def span (scope : Scope) : Span :=
  scope.root.span

def kindText (scope : Scope) : String :=
  if scope.isUnit then "module" else "function"

def function? (scope : Scope) : Option FunctionInfo :=
  if scope.isUnit then none else scope.root.node.function?

def params (scope : Scope) : List String :=
  match scope.function? with
  | some f => f.params
  | none => []

def paramType? (scope : Scope) (name : String) : Option String :=
  match scope.function? with
  | some f => f.paramTypes.lookup name
  | none => none

def nodes (scope : Scope) : List Site :=
  scope.root.descendantsInScope.filter (!·.node.isFunction)

end Scope

def Scope.ofFunction (site : Site) (owner depth : Nat) : Scope :=
  let f := site.node.function?.getD {}
  { root := site, isUnit := false, name := if f.name.isEmpty then "<anonymous>" else f.name
    paramCount := f.paramCount, depth, parentId := some owner }

structure ScopeTable where
  functions : List Scope := []
  owners : List (Nat × Nat) := []

namespace ScopeTable

mutual

-- One walk fills the table and hands down what a function changes: who owns the nodes, and how deep they are.
def ofNode (above : List Node) (owner depth : Nat) : Node → ScopeTable
  | .mk head children =>
    let node := Node.mk head children
    if node.isFunction then
      let below := ofNodes (node :: above) node.id (depth + 1) children
      { functions := .ofFunction { node, above } owner depth :: below.functions
        owners := (node.id, node.id) :: below.owners }
    else
      let below := ofNodes (node :: above) owner depth children
      { below with owners := (node.id, owner) :: below.owners }

def ofNodes (above : List Node) (owner depth : Nat) : List Node → ScopeTable
  | [] => {}
  | node :: rest =>
    let here := ofNode above owner depth node
    let later := ofNodes above owner depth rest
    { functions := here.functions ++ later.functions, owners := here.owners ++ later.owners }

end

end ScopeTable

structure Outline where
  language : String
  source : Source
  root : Node
  numbered : root.ids.Perm (List.range root.ids.length)

def misnumbered? (ids : List Int) : Option NumberingError :=
  (ids.mergeSort (fun a b => a ≤ b)).zipIdx.findSome? fun (found, index) =>
    if found == index then none else some { found, index }

namespace Outline

def ofRoot (language : String) (source : Source) (root : Node) : Except NumberingError Outline :=
  if numbered : root.ids.Perm (List.range root.ids.length) then
    .ok { language, source, root, numbered }
  else .error ((misnumbered? (root.ids.map Int.ofNat)).getD { found := 0, index := 0 })

def rootSite (outline : Outline) : Site :=
  { node := outline.root, above := [] }

def preorder (outline : Outline) : List Site :=
  Site.walk false [] outline.root

def sites (outline : Outline) : List Site :=
  outline.preorder.mergeSort (fun a b => a.id ≤ b.id)

def size (outline : Outline) : Nat :=
  outline.root.ids.length

def site? (outline : Outline) (id : Nat) : Option Site :=
  outline.preorder.find? (·.id == id)

def text (outline : Outline) (node : Node) : String :=
  outline.source.text node.span

def inBounds (outline : Outline) (span : Span) : Bool :=
  outline.root.span.contains span

def unitScope (outline : Outline) : Scope :=
  { root := outline.rootSite, isUnit := true, name := "<module>", paramCount := 0, depth := 0, parentId := none }

def scopeTable (outline : Outline) : ScopeTable :=
  .ofNode [] outline.root.id 0 outline.root

def scopes (outline : Outline) : List Scope :=
  outline.unitScope :: outline.scopeTable.functions.mergeSort (fun a b => a.id ≤ b.id)

-- A root that is a function has two scopes; the later one counts.
def scope? (outline : Outline) (id : Nat) : Option Scope :=
  outline.scopes.reverse.find? (·.id == id)

-- The unit stands in for the scope of a node that is not of this outline.
def scopeOf (outline : Outline) (site : Site) : Scope :=
  ((outline.scopeTable.owners.lookup site.id).bind outline.scope?).getD outline.unitScope

end Outline

def Node.summary (node : Node) : String :=
  "ISGNode(id=" ++ toString node.id ++ ", kind=" ++ node.kind.text ++ ", ts_type=" ++
    Text.quoted node.head.grammarType ++ ", lines=" ++ node.span.lines ++ ")"

inductive Draft where
  | mk (id : Int) (span : Span) (grammarType : String) (info : Info) (children : List Draft)
  deriving Inhabited

namespace Draft

def id : Draft → Int
  | .mk id _ _ _ _ => id

def children : Draft → List Draft
  | .mk _ _ _ _ children => children

mutual

def preorder : Draft → List Draft
  | .mk id span grammarType info children => .mk id span grammarType info children :: preorderAll children

def preorderAll : List Draft → List Draft
  | [] => []
  | draft :: rest => draft.preorder ++ preorderAll rest

end

def ids (draft : Draft) : List Int :=
  draft.preorder.map id

mutual

-- Means something only where no number is negative.
def node : Draft → Node
  | .mk id span grammarType info children => .mk { id := id.toNat, span, grammarType, info } (nodes children)

def nodes : List Draft → List Node
  | [] => []
  | draft :: rest => draft.node :: nodes rest

end

end Draft

def Outline.ofDraft (language : String) (source : Source) (draft : Draft) : Except NumberingError Outline :=
  match misnumbered? draft.ids with
  | some error => .error error
  | none => ofRoot language source draft.node

end Perflint
