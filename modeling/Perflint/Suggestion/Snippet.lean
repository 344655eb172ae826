import Perflint.Text.Basic
import Perflint.Text.Unicode

namespace Perflint

structure Snippet where
  key : String
  language : String
  before : String
  after : String
  deriving DecidableEq, Repr, Inhabited

namespace Snippet

def lines (parts : List String) : String :=
  Text.joined "\n" parts

-- A part of a snippet: text, the name of a capture, or a dollar sign that opens no placeholder. Nothing after such
-- a sign is read; `left` characters follow it.
inductive Part where
  | text (words : String)
  | capture (name : String)
  | stray (left : Nat)
  deriving DecidableEq, Repr

inductive Fault where
  | missing (name : String)
  | invalid (line column : Nat)
  deriving DecidableEq, Repr

def Fault.text (key : String) : Fault → String
  | .missing name => "missing capture " ++ Text.quoted name ++ " for template " ++ Text.quoted key
  | .invalid line column =>
    "invalid template " ++ Text.quoted key ++ ": Invalid placeholder in string: line " ++ toString line ++ ", col " ++
      toString column

def startsName (c : Char) : Bool :=
  c.isAlpha || c == '_'

def isNameChar (c : Char) : Bool :=
  c.isAlphanum || c == '_'

-- How far a snippet has been read; pieces are held backwards.
inductive Reading where
  | text (piece : List Char)
  | opened
  | name (piece : List Char)
  | braced (piece : List Char)
  deriving DecidableEq, Repr

def pieceText (piece : List Char) : String :=
  String.ofList piece.reverse

def step : Reading → Char → Option (List Part × Reading)
  | .text piece, c => some (if c == '$' then ([.text (pieceText piece)], .opened) else ([], .text (c :: piece)))
  | .opened, c =>
    if c == '$' then some ([], .text [c])
    else if c == '\x7b' then some ([], .braced [])
    else if startsName c then some ([], .name [c])
    else none
  | .name piece, c =>
    some (if isNameChar c then ([], .name (c :: piece))
      else ([.capture (pieceText piece)], if c == '$' then .opened else .text [c]))
  | .braced [], c => if startsName c then some ([], .braced [c]) else none
  | .braced (last :: piece), c =>
    if c == '\x7d' then some ([.capture (pieceText (last :: piece))], .text [])
    else if isNameChar c then some ([], .braced (c :: last :: piece))
    else none

def Reading.sinceDollar : Reading → Nat
  | .braced piece => piece.length + 1
  | _ => 0

def partsFrom (reading : Reading) : List Char → List Part
  | [] =>
    match reading with
    | .text piece => [.text (pieceText piece)]
    | .name piece => [.capture (pieceText piece)]
    | _ => [.stray reading.sinceDollar]
  | c :: rest =>
    match step reading c with
    | some (parts, next) => parts ++ partsFrom next rest
    | none => [.stray (reading.sinceDollar + rest.length + 1)]

def parts (text : String) : List Part :=
  partsFrom (.text []) text.toList

def strayFault (text : String) (left : Nat) : Fault :=
  let lines := Text.splitLines (String.ofList (text.toList.take (text.length - left)))
  .invalid lines.length (lines.getLastD "").length

def fillPart (text : String) (values : List (String × String)) : Part → Except Fault String
  | .text words => .ok words
  | .capture name =>
    match values.lookup name with
    | some value => .ok value
    | none => .error (.missing name)
  | .stray left => .error (strayFault text left)

-- Captured text is inserted as it is and not looked through again.
def fill (values : List (String × String)) (text : String) : Except Fault String :=
  ((parts text).mapM (fillPart text values)).map String.join

end Snippet
end Perflint
