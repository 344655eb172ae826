import Perflint.Json.Basic
import Perflint.Text.Basic

namespace Perflint

-- What a parser says of one node. Offsets are bytes of the source; `fields` are the names under which the
-- parent holds the node.
structure Label where
  type : String
  named : Bool := true
  first : Nat
  last : Nat
  fields : List String := []
  isError : Bool := false
  isMissing : Bool := false
  deriving DecidableEq, Repr, Inhabited

inductive Tree where
  | node (label : Label) (children : List Tree)
  deriving Inhabited

namespace Tree

def label : Tree → Label
  | .node label _ => label

def children : Tree → List Tree
  | .node _ children => children

def type (tree : Tree) : String :=
  tree.label.type

def named (tree : Tree) : Bool :=
  tree.label.named

def first (tree : Tree) : Nat :=
  tree.label.first

def last (tree : Tree) : Nat :=
  tree.label.last

structure Key where
  first : Nat
  last : Nat
  type : String
  deriving DecidableEq, Repr

def key (tree : Tree) : Key :=
  { first := tree.first, last := tree.last, type := tree.type }

def hasType (tree : Tree) (types : List String) : Bool :=
  types.contains tree.type

def field? (tree : Tree) (name : String) : Option Tree :=
  tree.children.find? (·.label.fields.contains name)

def fields (tree : Tree) (name : String) : List Tree :=
  tree.children.filter (·.label.fields.contains name)

def firstField? (tree : Tree) (names : List String) : Option Tree :=
  names.findSome? tree.field?

theorem sizeOf_child_lt {tree child : Tree} (member : child ∈ tree.children) : sizeOf child < sizeOf tree := by
  cases tree with
  | node label children =>
    have := List.sizeOf_lt_of_mem member
    simp only [Tree.children] at this
    simp only [Tree.node.sizeOf_spec]
    omega

theorem sizeOf_field_lt {tree child : Tree} {name : String} (found : tree.field? name = some child) :
    sizeOf child < sizeOf tree :=
  sizeOf_child_lt (List.mem_of_find?_eq_some found)

mutual

def preorder : Tree → List Tree
  | .node label children => .node label children :: preorderAll children

def preorderAll : List Tree → List Tree
  | [] => []
  | tree :: rest => tree.preorder ++ preorderAll rest

end

mutual

def findBelow (types stop : List String) : Tree → List Tree
  | .node label children =>
    let here := if types.contains label.type then [.node label children] else []
    if stop.contains label.type then here else here ++ findBelowAll types stop children

def findBelowAll (types stop : List String) : List Tree → List Tree
  | [] => []
  | tree :: rest => findBelow types stop tree ++ findBelowAll types stop rest

end

-- A type in `stop` bars the search everywhere but at the node where it begins.
def findOutside (tree : Tree) (types stop : List String) : List Tree :=
  (if tree.hasType types then [tree] else []) ++ findBelowAll types stop tree.children

def findAll (tree : Tree) (types : List String) : List Tree :=
  tree.findOutside types []

def containsType (tree : Tree) (types : List String) : Bool :=
  tree.preorder.any (·.hasType types)

end Tree
end Perflint

namespace Perflint.Tree

-- A tree as rows in preorder, each with its depth. Read from the last row to the first, the rows that are
-- deeper than a row and have found no parent yet are its children.
def assemble (node : α → List β → β) (rows : List (Nat × α)) : Option β :=
  let pending := rows.foldr (fun (depth, label) pending =>
    let children := pending.takeWhile fun entry => depth < entry.1
    let rest := pending.dropWhile fun entry => depth < entry.1
    (depth, node label (children.map Prod.snd)) :: rest) ([] : List (Nat × β))
  pending.head?.map Prod.snd

def labelOf (type : String) (first last : Nat) (fields flags : String) : Label :=
  let named := !Text.startsWith type "'"
  { type := if named then type else String.ofList (type.toList.drop 1)
    named, first, last
    fields := if fields.isEmpty then [] else Text.pieces '|' fields
    isError := flags.toList.contains 'e'
    isMissing := flags.toList.contains 'm' }

def row? (row : Json) : Option (Nat × Label) :=
  match row with
  | .arr (.int depth :: .str type :: .int first :: .int last :: rest) =>
    let fields := ((rest[0]?).bind Json.str?).getD ""
    let flags := ((rest[1]?).bind Json.str?).getD ""
    some (depth.toNat, labelOf type first.toNat last.toNat fields flags)
  | _ => none

def ofJson? (rows : Json) : Option Tree := do
  let rows ← (← rows.items?).mapM row?
  assemble .node rows

end Perflint.Tree
