import Perflint.Yaml.Tag
import Perflint.Yaml.Cursor

namespace Perflint.Yaml

-- A document as a tree, before its words become values. What an alias names stands in its place.
inductive Node where
  | scalar (tag : Tag) (points : Points)
  | list (tag : Tag) (items : List Node)
  | mapping (tag : Tag) (members : List (Node × Node))
  | again (isMapping : Bool)
  deriving Inhabited

namespace Node

def tag : Node → Tag
  | .scalar tag _ => tag
  | .list tag _ => tag
  | .mapping tag _ => tag
  | .again isMapping => if isMapping then .mapping else .list

def missing : Node := .scalar .null []

mutual

def height : Node → Nat
  | .list _ items => heightItems items + 1
  | .mapping _ members => heightMembers members + 1
  | _ => 1

def heightItems : List Node → Nat
  | [] => 0
  | item :: rest => max item.height (heightItems rest)

def heightMembers : List (Node × Node) → Nat
  | [] => 0
  | (key, value) :: rest => max (max key.height value.height) (heightMembers rest)

end

end Node

structure Reading where
  tokens : List Token
  anchors : List (String × Node) := []
  handles : List (String × String) := []

abbrev Read := StateT Reading (Except Fault)

def defaultHandles : List (String × String) :=
  [("!", "!"), ("!!", Tag.standard)]

def deepestLevel : Nat := 485

-- Where a node stands. Only behind a key may a list have the column of its mapping.
inductive Site where
  | block
  | afterKey
  | flow
  deriving DecidableEq

namespace Read

def peek : Read (Option Token) := do
  match (← get).tokens with
  | [] => return none
  | .fault fault :: _ => throw fault
  | token :: _ => return some token

def advance : Read Unit :=
  modify fun reading => { reading with tokens := reading.tokens.drop 1 }

def isNext (tokens : List Token) : Read Bool := do
  match ← peek with
  | some token => return tokens.contains token
  | none => return false

def accept (token : Token) : Read Bool := do
  if ← isNext [token] then
    advance
    return true
  else return false

def expect (token : Token) : Read Unit := do
  if !(← accept token) then throw .malformed

def anchor? : Read (Option String) := do
  match ← peek with
  | some (.anchor name) =>
    advance
    return some name
  | _ => return none

def tag? : Read (Option String) := do
  match ← peek with
  | some (.tag none text) =>
    advance
    return some text
  | some (.tag (some handle) text) =>
    advance
    let some meaning := (← get).handles.lookup handle | throw .malformed
    return some (meaning ++ text)
  | _ => return none

def properties : Read (Option String × Option String) := do
  match ← anchor? with
  | some anchor => return (some anchor, ← tag?)
  | none =>
    match ← tag? with
    | some tag => return (← anchor?, some tag)
    | none => return (none, none)

def checkNew (anchor : Option String) : Read Unit := do
  if let some name := anchor then
    if ((← get).anchors.lookup name).isSome then throw .malformed

def declare (anchor : Option String) (node : Node) : Read Node := do
  if let some name := anchor then
    modify fun reading => { reading with anchors := (name, node) :: reading.anchors }
  return node

-- A lone mark leaves the choice of a kind open, as no tag does.
def tagOr (tag : Option String) (standing : Tag) : Tag :=
  match tag with
  | none => standing
  | some name => if name == "!" then standing else .ofName name

def scalarTag (tag : Option String) (points : Points) (plain : Bool) : Tag :=
  if tag.isNone && !plain then .text else tagOr tag (.ofWord (points.map Char.ofNat))

mutual

def node (site : Site) : Nat → Nat → Read Node
  | 0, _ => throw .tooDeep
  | fuel + 1, depth => do
    if deepestLevel < depth then throw .tooDeep
    if let some (.alias name) ← peek then
      advance
      let some node := (← get).anchors.lookup name | throw .malformed
      return node
    let (anchor, tag) ← properties
    checkNew anchor
    let isList := tagOr tag .list
    let isMapping := tagOr tag .mapping
    match ← peek with
    | some (.scalar points plain) =>
      advance
      declare anchor (.scalar (scalarTag tag points plain) points)
    | some .flowList =>
      advance
      let _ ← declare anchor (.again false)
      declare anchor (.list isList (← flowItems true fuel (depth + 1)))
    | some .flowMapping =>
      advance
      let _ ← declare anchor (.again true)
      declare anchor (.mapping isMapping (← flowMembers true fuel (depth + 1)))
    | token =>
      if token == some .blockEntry && site == .afterKey then
        let _ ← declare anchor (.again false)
        declare anchor (.list isList (← looseItems fuel (depth + 1)))
      else if token == some .blockList && site != .flow then
        advance
        let _ ← declare anchor (.again false)
        declare anchor (.list isList (← blockItems fuel (depth + 1)))
      else if token == some .blockMapping && site != .flow then
        advance
        let _ ← declare anchor (.again true)
        declare anchor (.mapping isMapping (← blockMembers fuel (depth + 1)))
      else if anchor.isSome || tag.isSome then declare anchor (.scalar (scalarTag tag [] true) [])
      else throw .malformed
termination_by structural fuel => fuel

def nodeUnless (site : Site) (stops : List Token) : Nat → Nat → Read Node
  | 0, _ => throw .tooDeep
  | fuel + 1, depth => do
    if ← isNext stops then return .missing else node site fuel depth
termination_by structural fuel => fuel

def blockItems : Nat → Nat → Read (List Node)
  | 0, _ => throw .tooDeep
  | fuel + 1, depth => do
    if ← accept .blockEntry then
      let item ← nodeUnless .block [.blockEntry, .blockEnd] fuel depth
      return item :: (← blockItems fuel depth)
    else
      expect .blockEnd
      return []
termination_by structural fuel => fuel

-- The entries of a list that has the column of its mapping. Nothing marks its end.
def looseItems : Nat → Nat → Read (List Node)
  | 0, _ => throw .tooDeep
  | fuel + 1, depth => do
    if ← accept .blockEntry then
      let item ← nodeUnless .block [.blockEntry, .key, .value, .blockEnd] fuel depth
      return item :: (← looseItems fuel depth)
    else return []
termination_by structural fuel => fuel

def blockMembers : Nat → Nat → Read (List (Node × Node))
  | 0, _ => throw .tooDeep
  | fuel + 1, depth => do
    if ← accept .key then
      let key ← nodeUnless .afterKey [.key, .value, .blockEnd] fuel depth
      let value ← if ← accept .value then nodeUnless .afterKey [.key, .value, .blockEnd] fuel depth else pure .missing
      return (key, value) :: (← blockMembers fuel depth)
    else
      expect .blockEnd
      return []
termination_by structural fuel => fuel

-- A list in brackets. An entry with a colon is a mapping of one member.
def flowItems (isFirst : Bool) : Nat → Nat → Read (List Node)
  | 0, _ => throw .tooDeep
  | fuel + 1, depth => do
    if ← accept .flowListEnd then return []
    if !isFirst then expect .flowEntry
    if ← accept .flowListEnd then return []
    let item ←
      if ← accept .key then do
        let key ← nodeUnless .flow [.value, .flowEntry, .flowListEnd] fuel (depth + 1)
        let value ←
          if ← accept .value then nodeUnless .flow [.flowEntry, .flowListEnd] fuel (depth + 1) else pure .missing
        pure (.mapping .mapping [(key, value)])
      else node .flow fuel depth
    return item :: (← flowItems false fuel depth)
termination_by structural fuel => fuel

def flowMembers (isFirst : Bool) : Nat → Nat → Read (List (Node × Node))
  | 0, _ => throw .tooDeep
  | fuel + 1, depth => do
    if ← accept .flowMappingEnd then return []
    if !isFirst then expect .flowEntry
    if ← accept .flowMappingEnd then return []
    let entry ←
      if ← accept .key then do
        let key ← nodeUnless .flow [.value, .flowEntry, .flowMappingEnd] fuel depth
        let value ← if ← accept .value then nodeUnless .flow [.flowEntry, .flowMappingEnd] fuel depth else pure .missing
        pure (key, value)
      else do
        let key ← node .flow fuel depth
        pure (key, .missing)
    return entry :: (← flowMembers false fuel depth)
termination_by structural fuel => fuel

end

-- The directives before a document. One version of the first kind may be told, and each handle once.
def directives (hasVersion : Bool) : Nat → Read Unit
  | 0 => throw .malformed
  | fuel + 1 => do
    match ← peek with
    | some (.directive (.version major)) =>
      if hasVersion || major != 1 then throw .malformed
      advance
      directives true fuel
    | some (.directive (.handle name meaning)) =>
      if ((← get).handles.lookup name).isSome then throw .malformed
      advance
      modify fun reading => { reading with handles := (name, meaning) :: reading.handles }
      directives hasVersion fuel
    | some (.directive .other) =>
      advance
      directives hasVersion fuel
    | _ => modify fun reading => { reading with handles := reading.handles ++ defaultHandles }

def skipEnds : Nat → Read Unit
  | 0 => return
  | fuel + 1 => do
    if ← accept .documentEnd then skipEnds fuel

def isExplicit : Option Token → Bool
  | some (.directive _) => true
  | some .documentStart => true
  | _ => false

def document : Read (Option Node) := do
  let fuel := 4 * (← get).tokens.length + 8
  let token ← peek
  if token.isNone then return none
  directives false fuel
  let root ←
    if isExplicit token then do
      expect .documentStart
      match ← peek with
      | none => pure .missing
      | some .documentStart => pure .missing
      | some .documentEnd => pure .missing
      | some (.directive _) => pure .missing
      | _ => node .block fuel 1
    else node .block fuel 1
  skipEnds fuel
  if (← peek).isSome then throw .malformed
  return some root

end Read

def Node.ofTokens (tokens : List Token) : Except Fault (Option Node) :=
  return (← Read.document.run { tokens }).1

end Perflint.Yaml
