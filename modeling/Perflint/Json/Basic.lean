import Perflint.Decimal
import Perflint.Text.Basic
import Perflint.Text.Unicode

namespace Perflint

-- A document. Members keep the order in which they were written; whole numbers have any size.
inductive Json where
  | null
  | bool (value : Bool)
  | int (value : Int)
  | float (value : Float)
  | str (value : String)
  | arr (items : List Json)
  | obj (members : List (String × Json))
  deriving BEq, Inhabited

namespace Json

def nat (n : Nat) : Json :=
  .int n

def strs (texts : List String) : Json :=
  .arr (texts.map .str)

def opt (encode : α → Json) : Option α → Json
  | none => .null
  | some a => encode a

-- Writing a name again replaces its value and keeps its place.
def insertMember (name : String) (value : Json) : List (String × Json) → List (String × Json)
  | [] => [(name, value)]
  | (other, old) :: rest =>
    if other == name then (name, value) :: rest else (other, old) :: insertMember name value rest

def get? (document : Json) (name : String) : Option Json :=
  match document with
  | .obj members => members.lookup name
  | _ => none

def str? : Json → Option String
  | .str value => some value
  | _ => none

def bool? : Json → Option Bool
  | .bool value => some value
  | _ => none

def int? : Json → Option Int
  | .int value => some value
  | _ => none

def nat? : Json → Option Nat
  | .int value => if 0 ≤ value then some value.toNat else none
  | _ => none

def items? : Json → Option (List Json)
  | .arr items => some items
  | _ => none

def members? : Json → Option (List (String × Json))
  | .obj members => some members
  | _ => none

def isNull : Json → Bool
  | .null => true
  | _ => false

open Text

structure Layout where
  indent : Option Nat
  -- Members in the order of their names by code point, so that equal documents have equal texts.
  sorted : Bool
  ascii : Bool

def escapeUnits (point : Nat) : List Char :=
  if point < 0x10000 then '\\' :: 'u' :: hexDigits 4 point
  else
    let offset := point - 0x10000
    '\\' :: 'u' :: hexDigits 4 (0xD800 + offset / 0x400) ++
      '\\' :: 'u' :: hexDigits 4 (0xDC00 + offset % 0x400)

def escapeStringChar (ascii : Bool) (c : Char) : List Char :=
  if c == '"' || c == '\\' then ['\\', c]
  else if c == '\n' then ['\\', 'n']
  else if c == '\r' then ['\\', 'r']
  else if c == '\t' then ['\\', 't']
  else if c.toNat == 8 then ['\\', 'b']
  else if c.toNat == 12 then ['\\', 'f']
  else if c.toNat < 32 || (ascii && 126 < c.toNat) then escapeUnits c.toNat
  else [c]

def stringText (ascii : Bool) (text : String) : String :=
  String.ofList ('"' :: text.toList.flatMap (escapeStringChar ascii) ++ ['"'])

def Layout.newline (layout : Layout) (depth : Nat) : String :=
  match layout.indent with
  | none => ""
  | some width => "\n" ++ String.ofList (List.replicate (width * depth) ' ')

def Layout.separator (layout : Layout) : String :=
  if layout.indent.isSome then "," else ", "

-- Brackets around the parts, one part to a line; nothing between the brackets of an empty container.
def Layout.wrap (layout : Layout) (opening closing : String) (depth : Nat) (parts : List String) : String :=
  if parts.isEmpty then opening ++ closing
  else
    opening ++ layout.newline (depth + 1) ++
      joined (layout.separator ++ layout.newline (depth + 1)) parts ++ layout.newline depth ++ closing

def Layout.order (layout : Layout) (members : List (String × String)) : List (String × String) :=
  if layout.sorted then members.mergeSort (fun a b => decide (a.1 ≤ b.1)) else members

mutual

def writeAt (layout : Layout) (depth : Nat) : Json → String
  | .null => "null"
  | .bool value => if value then "true" else "false"
  | .int value => toString value
  | .float value => Decimal.documentFloat.write value
  | .str value => stringText layout.ascii value
  | .arr items => layout.wrap "[" "]" depth (writeItems layout (depth + 1) items)
  | .obj members =>
    layout.wrap "\x7b" "\x7d" depth
      ((layout.order (writeMembers layout (depth + 1) members)).map fun (name, text) =>
        stringText layout.ascii name ++ ": " ++ text)

def writeItems (layout : Layout) (depth : Nat) : List Json → List String
  | [] => []
  | item :: rest => writeAt layout depth item :: writeItems layout depth rest

def writeMembers (layout : Layout) (depth : Nat) : List (String × Json) → List (String × String)
  | [] => []
  | (name, value) :: rest => (name, writeAt layout depth value) :: writeMembers layout depth rest

end

def write (layout : Layout) (document : Json) : String :=
  writeAt layout 0 document

mutual

def display : Json → String
  | .null => "None"
  | .bool true => "True"
  | .bool false => "False"
  | .int value => toString value
  | .float value => Decimal.plainFloat.write value
  | .str value => Text.quoted value
  | .arr items => "[" ++ ", ".intercalate (displayItems items) ++ "]"
  | .obj members => "\x7b" ++ ", ".intercalate (displayMembers members) ++ "\x7d"

def displayItems : List Json → List String
  | [] => []
  | item :: rest => item.display :: displayItems rest

def displayMembers : List (String × Json) → List String
  | [] => []
  | (name, value) :: rest => (Text.quoted name ++ ": " ++ value.display) :: displayMembers rest

end

def cell : Json → String
  | .str value => value
  | other => other.display

end Json
end Perflint
