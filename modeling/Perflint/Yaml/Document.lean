import Perflint.Calendar
import Perflint.Decimal
import Perflint.Json.Basic
import Perflint.Text.Encoding
import Perflint.Text.Unicode
import Perflint.Yaml.Cursor
import Perflint.Yaml.Node
import Perflint.Yaml.Tag
import Perflint.Yaml.Tokens

namespace Perflint.Yaml

-- A value that a document writes. Members of mappings keep their order, and any plain value can name one.
inductive Datum where
  | null
  | bool (value : Bool)
  | int (value : Int)
  | float (value : Float)
  | text (value : String)
  | halves (points : Points)
  | bytes (value : List UInt8)
  | day (value : Day)
  | moment (value : Moment)
  | list (items : List Datum)
  | pair (first second : Datum)
  | set (items : List Datum)
  | mapping (members : List (Datum × Datum))
  -- A list or a mapping inside itself.
  | again (isMapping : Bool)
  deriving Inhabited

def isHalf (point : Nat) : Bool :=
  0xD800 ≤ point && point ≤ 0xDFFF

def charsOf : Points → List Char
  | [] => []
  | high :: low :: rest =>
    if 0xD800 ≤ high && high ≤ 0xDBFF && 0xDC00 ≤ low && low ≤ 0xDFFF then
      Char.ofNat (0x10000 + (high - 0xD800) * 0x400 + (low - 0xDC00)) :: charsOf rest
    else (if isHalf high then Char.ofNat 0xFFFD else Char.ofNat high) :: charsOf (low :: rest)
  | [point] => [if isHalf point then Char.ofNat 0xFFFD else Char.ofNat point]

def textOf (points : Points) : String :=
  String.ofList (charsOf points)

def quotedPoints (points : Points) : String :=
  let mark := Text.quoteMark (charsOf points)
  let shown := points.flatMap fun point =>
    if isHalf point then '\\' :: 'u' :: Text.hexDigits 4 point else Text.escapeChar mark (Char.ofNat point)
  String.ofList (mark :: shown ++ [mark])

def quotedBytes (bytes : List UInt8) : String :=
  let chars := bytes.map fun byte => Char.ofNat byte.toNat
  let mark := Text.quoteMark chars
  let shown := chars.flatMap fun c => if c.toNat < 0x7F then Text.escapeChar mark c else Text.escapePoint c
  String.ofList ('b' :: mark :: shown ++ [mark])

namespace Datum

mutual

def display : Datum → String
  | .null => "None"
  | .bool true => "True"
  | .bool false => "False"
  | .int value => toString value
  | .float value => Decimal.plainFloat.write value
  | .text value => Text.quoted value
  | .halves points => quotedPoints points
  | .bytes value => quotedBytes value
  | .day value => Calendar.dayText value
  | .moment value => Calendar.momentText value
  | .list items => "[" ++ ", ".intercalate (displayItems items) ++ "]"
  | .pair first second => "(" ++ first.display ++ ", " ++ second.display ++ ")"
  | .set [] => "set()"
  | .set items => "\x7b" ++ ", ".intercalate (displayItems items) ++ "\x7d"
  | .mapping members => "\x7b" ++ ", ".intercalate (displayMembers members) ++ "\x7d"
  | .again false => "[...]"
  | .again true => "\x7b...\x7d"

def displayItems : List Datum → List String
  | [] => []
  | item :: rest => item.display :: displayItems rest

def displayMembers : List (Datum × Datum) → List String
  | [] => []
  | (key, value) :: rest => (key.display ++ ": " ++ value.display) :: displayMembers rest

end

mutual

def ofJson : Json → Datum
  | .null => .null
  | .bool value => .bool value
  | .int value => .int value
  | .float value => .float value
  | .str value => .text value
  | .arr items => .list (ofItems items)
  | .obj members => .mapping (ofMembers members)

def ofItems : List Json → List Datum
  | [] => []
  | item :: rest => ofJson item :: ofItems rest

def ofMembers : List (String × Json) → List (Datum × Datum)
  | [] => []
  | (name, value) :: rest => (.text name, ofJson value) :: ofMembers rest

end

def whole? : Datum → Option Int
  | .bool value => some (if value then 1 else 0)
  | .int value => some value
  | _ => none

def text? : Datum → Option String
  | .text value => some value
  | .halves points => some (textOf points)
  | _ => none

-- Whether two values name the same member. Numbers do so by their size, whatever their kind.
def sameKey (a b : Datum) : Bool :=
  match a, b with
  | .null, .null => true
  | .text a, .text b => a == b
  | .halves a, .halves b => a == b
  | .bytes a, .bytes b => a == b
  | .day a, .day b => a == b
  | .moment a, .moment b => a == b
  | .float a, .float b => a == b
  | .float a, other => other.whole?.any fun b => a == Float.ofInt b
  | other, .float b => other.whole?.any fun a => Float.ofInt a == b
  | a, b => a.whole?.isSome && a.whole? == b.whole?

def insertMember (key value : Datum) : List (Datum × Datum) → List (Datum × Datum)
  | [] => [(key, value)]
  | (other, old) :: rest =>
    if other.sameKey key then (other, value) :: rest else (other, old) :: insertMember key value rest

end Datum

def textDatum (points : Points) : Datum :=
  if points.any isHalf then .halves points else .text (textOf points)

def momentDatum (chars : List Char) : Except Fault Datum :=
  match moment? chars with
  | none => .error .notMoment
  | some (.inl day) => ((Calendar.checkDay day).map fun _ => .day day).mapError fun fault => .noSuch fault.message
  | some (.inr moment) =>
    ((Calendar.checkMoment moment).map fun _ => .moment moment).mapError fun fault => .noSuch fault.message

def bytesDatum (points : Points) : Except Fault Datum :=
  if points.any (0x7F < ·) then .error .malformed
  else
    match Text.paddedBase64? (charsOf points) with
    | some bytes => .ok (.bytes bytes)
    | none => .error .malformed

def wordDatum (tag : Tag) (points : Points) : Except Fault Datum :=
  let chars := charsOf points
  match tag with
  | .null => .ok .null
  | .bool => (truth (String.ofList chars)).map .bool
  | .int => (wholeNumber chars).map .int
  | .float => (realNumber chars).map .float
  | .bytes => bytesDatum points
  | .moment => momentDatum chars
  | .text => .ok (textDatum points)
  | _ => .error .malformed

namespace Node

mutual

def word? : Node → Option Points
  | .scalar _ points => some points
  | .mapping _ members => wordIn? members
  | _ => none

def wordIn? : List (Node × Node) → Option Points
  | [] => none
  | (key, value) :: rest => if key.tag == .value then value.word? else wordIn? rest

end

-- A key that could stand for its mapping is a text where the mapping is one.
def asKey : Node → Node
  | .scalar .value points => .scalar .text points
  | node => node

-- The members of a mapping, behind those of the mappings that it takes in. Of a list of these the first counts most.
def mergedMembers : Nat → List (Node × Node) → Except Fault (List (Node × Node))
  | 0, _ => .error .tooDeep
  | fuel + 1, members => do
    let taken ← (members.filter (·.1.tag == .merge)).mapM fun (_, value) =>
      match value with
      | .mapping _ inner => mergedMembers fuel inner
      | .again true => .ok []
      | .list _ items => do
        let parts ← items.mapM fun item =>
          match item with
          | .mapping _ inner => mergedMembers fuel inner
          | .again true => .ok []
          | _ => .error .malformed
        return parts.reverse.flatten
      | _ => .error .malformed
    return taken.flatten ++ (members.filter (·.1.tag != .merge)).map fun (key, value) => (key.asKey, value)

-- The values that a list or a mapping holds wait until the level above is done.
def begun (node : Node) : Except Fault (List Node) :=
  match node with
  | .again _ => .ok []
  | _ =>
    if node.tag.isCollection then .ok [node]
    else
      match node.word? with
      | some points => (wordDatum node.tag points).map fun _ => []
      | none => .error .malformed

def begunKey (node : Node) : Except Fault (List Node) :=
  if node.tag.isCollection then .error .malformed else node.begun

def pair? : Node → Option (Node × Node)
  | .mapping _ [entry] => some entry
  | _ => none

def settled (node : Node) : Except Fault (List Node) := do
  match node.tag, node with
  | .list, .list _ items => return (← items.mapM begun).flatten
  | .mapping, .mapping _ members | .set, .mapping _ members =>
    let members ← mergedMembers node.height members
    return (← members.mapM fun (key, value) => do return (← key.begunKey) ++ (← value.begun)).flatten
  | .orderedMapping, .list _ items | .pairs, .list _ items =>
    let entries ← items.mapM fun item => do
      let some (key, value) := item.pair? | throw .malformed
      return (← key.begun) ++ (← value.begun)
    return entries.flatten
  | _, _ => throw .malformed

-- Faults are found level by level.
def checked : Nat → List Node → Except Fault Unit
  | _, [] => .ok ()
  | 0, _ => .error .tooDeep
  | fuel + 1, nodes => do checked fuel (← nodes.mapM settled).flatten

def value : Nat → Node → Datum
  | 0, _ => .null
  | fuel + 1, node =>
    match node.tag, node with
    | _, .again isMapping => .again isMapping
    | .list, .list _ items => .list (items.map (value fuel))
    | .orderedMapping, .list _ items | .pairs, .list _ items =>
      .list (items.filterMap fun item => item.pair?.map fun (key, other) => .pair (value fuel key) (value fuel other))
    | .mapping, .mapping _ members => .mapping (valueMembers fuel members)
    | .set, .mapping _ members => .set ((valueMembers fuel members).map Prod.fst)
    | tag, _ => ((node.word?.map (wordDatum tag)).bind Except.toOption).getD .null
where
  valueMembers (fuel : Nat) (members : List (Node × Node)) : List (Datum × Datum) :=
    ((mergedMembers (fuel + 1) members).toOption.getD []).foldl
      (fun entries (key, other) => Datum.insertMember (value fuel key) (value fuel other) entries) []

def datum (node : Node) : Except Fault Datum := do
  checked (node.height + 1) (← node.begun)
  return node.value (2 * node.height + 1)

end Node

def read (text : String) : Except Fault Datum := do
  match ← Node.ofTokens (tokens (unifyBreaks text.toList)) with
  | none => return .null
  | some node => node.datum

end Perflint.Yaml
