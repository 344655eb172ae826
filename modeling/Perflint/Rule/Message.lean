import Perflint.Rule.Basic
import Perflint.Text.Basic
import Perflint.Text.Unicode

namespace Perflint.Text

inductive Side where
  | left
  | middle
  | right
  deriving DecidableEq, Repr, Inhabited

def Side.ofMark? (mark : Char) : Option Side :=
  if mark == '<' then some .left
  else if mark == '^' then some .middle
  else if mark == '>' then some .right
  else none

structure Alignment where
  side : Side := .left
  fill : Char := ' '
  width : Nat := 0
  cut : Option Nat := none
  deriving DecidableEq, Repr, Inhabited

namespace Alignment

-- Larger numbers cannot be lengths.
def largest : Nat := 9223372036854775807

-- Texts of this width fit into no memory.
def tooWide : Nat := 1099511627776

def length? (digits : List Char) : Option Nat :=
  let number := digitsNumber digits
  if number ≤ largest then some number else none

def ofMarks (chars : List Char) : Alignment × List Char :=
  match chars with
  | [] => ({}, [])
  | first :: rest =>
    match rest.head?.bind Side.ofMark?, Side.ofMark? first with
    | some side, _ => ({ side, fill := first }, rest.drop 1)
    | none, some side => ({ side, fill := if rest.head? == some '0' then '0' else ' ' }, rest)
    | none, none => ({ fill := if first == '0' then '0' else ' ' }, chars)

def cut? (chars : List Char) : Option (Option Nat × List Char) :=
  match chars with
  | '.' :: rest =>
    let digits := rest.takeWhile isDecimal
    if digits.isEmpty then none
    else (length? digits).map fun most => (some most, rest.dropWhile isDecimal)
  | _ => some (none, chars)

def parse? (chars : List Char) : Option Alignment := do
  let (marks, afterMarks) := ofMarks chars
  let width ← length? (afterMarks.takeWhile isDecimal)
  let (cut, letters) ← cut? (afterMarks.dropWhile isDecimal)
  guard (letters == [] || letters == ['s'])
  return { marks with width, cut }

-- In the middle an odd fill stands on the right.
def apply (alignment : Alignment) (text : String) : String :=
  let kept := match alignment.cut with
    | some most => text.toList.take most
    | none => text.toList
  let missing := alignment.width - kept.length
  let before := match alignment.side with
    | .left => 0
    | .middle => missing / 2
    | .right => missing
  String.ofList (List.replicate before alignment.fill ++ kept ++ List.replicate (missing - before) alignment.fill)

end Alignment
end Perflint.Text

namespace Perflint

structure Placeholder where
  field : String
  form : Option Char := none
  layout : String := ""
  deriving DecidableEq, Repr, Inhabited

inductive MessagePart where
  | text (words : String)
  | placeholder (place : Placeholder)
  | broken
  deriving DecidableEq, Repr

inductive MessageFault where
  | unfit
  | noMember
  | wrongKind
  | tooWide
  deriving DecidableEq, Repr

namespace MessagePart

-- How far a message has been read; pieces are held backwards.
inductive Reading where
  | text (piece : List Char)
  | opened (piece : List Char)
  | closed (piece : List Char)
  | field (piece : List Char)
  -- Inside brackets, where braces and marks mean nothing.
  | position (piece : List Char)
  | form (field : String)
  | formed (field : String) (letter : Char)
  -- `depth` counts the braces that are open in the layout.
  | layout (field : String) (form : Option Char) (piece : List Char) (depth : Nat)
  deriving DecidableEq, Repr

def pieceText (piece : List Char) : String :=
  String.ofList piece.reverse

def fieldStep (piece : List Char) (c : Char) : Option (List MessagePart × Reading) :=
  if c == '\x7d' then some ([.placeholder { field := pieceText piece }], .text [])
  else if c == ':' then some ([], .layout (pieceText piece) none [] 0)
  else if c == '!' then some ([], .form (pieceText piece))
  else if c == '[' then some ([], .position (c :: piece))
  else if c == '\x7b' then none
  else some ([], .field (c :: piece))

def step : Reading → Char → Option (List MessagePart × Reading)
  | .text piece, c =>
    some ([], if c == '\x7b' then .opened piece else if c == '\x7d' then .closed piece else .text (c :: piece))
  | .opened piece, c =>
    if c == '\x7b' then some ([], .text (c :: piece))
    else (fieldStep [] c).map fun (parts, next) => (.text (pieceText piece) :: parts, next)
  | .closed piece, c => if c == '\x7d' then some ([], .text (c :: piece)) else none
  | .field piece, c => fieldStep piece c
  | .position piece, c => some ([], if c == ']' then .field (c :: piece) else .position (c :: piece))
  | .form field, c => some ([], .formed field c)
  | .formed field letter, c =>
    if c == '\x7d' then some ([.placeholder { field, form := some letter }], .text [])
    else if c == ':' then some ([], .layout field (some letter) [] 0)
    else none
  | .layout field form piece depth, c =>
    if c == '\x7d' then
      match depth with
      | 0 => some ([.placeholder { field, form, layout := pieceText piece }], .text [])
      | depth + 1 => some ([], .layout field form (c :: piece) depth)
    else some ([], .layout field form (c :: piece) (if c == '\x7b' then depth + 1 else depth))

def parseFrom (reading : Reading) : List Char → List MessagePart
  | [] =>
    match reading with
    | .text piece => [.text (pieceText piece)]
    | _ => [.broken]
  | c :: rest =>
    match step reading c with
    | some (parts, next) => parts ++ parseFrom next rest
    | none => [.broken]

def parse (message : String) : List MessagePart :=
  parseFrom (.text []) message.toList

end MessagePart

inductive Subject where
  | text (words : String)
  | kind (name : String)
  deriving DecidableEq, Repr

namespace Subject

def shown : Subject → String
  | .text words => words
  | .kind name => "<class '" ++ name ++ "'>"

-- A text tells only its kind, and a kind its name and where it is from.
def member : Subject → String → Except MessageFault Subject
  | .text _, "__class__" => .ok (.kind "str")
  | .kind _, "__class__" => .ok (.kind "type")
  | .kind name, "__name__" => .ok (.text name)
  | .kind name, "__qualname__" => .ok (.text name)
  | .kind _, "__module__" => .ok (.text "builtins")
  | _, _ => .error .noMember

def character (subject : Subject) (position : List Char) : Except MessageFault Subject :=
  if position.isEmpty then .error .unfit
  else
    match subject with
    | .kind _ => .error .wrongKind
    | .text words =>
      if !position.all Text.isDecimal then .error .wrongKind
      else
        match words.toList[Text.digitsNumber position]? with
        | some c => .ok (.text c.toString)
        | none => .error .unfit

inductive Step where
  | outside
  | member (piece : List Char)
  | position (piece : List Char)

def memberNamed (subject : Subject) (piece : List Char) : Except MessageFault Subject :=
  if piece.isEmpty then .error .unfit else subject.member (String.ofList piece.reverse)

def follow (subject : Subject) : Step → List Char → Except MessageFault Subject
  | .outside, [] => .ok subject
  | .member piece, [] => subject.memberNamed piece
  | .position _, [] => .error .unfit
  | .outside, c :: rest =>
    if c == '.' then follow subject (.member []) rest
    else if c == '[' then follow subject (.position []) rest
    else .error .unfit
  | .member piece, c :: rest =>
    if c == '.' || c == '[' then
      match subject.memberNamed piece with
      | .ok next => follow next (if c == '.' then .member [] else .position []) rest
      | .error fault => .error fault
    else follow subject (.member (c :: piece)) rest
  | .position piece, c :: rest =>
    if c == ']' then
      match subject.character piece.reverse with
      | .ok next => follow next .outside rest
      | .error fault => .error fault
    else follow subject (.position (c :: piece)) rest

end Subject

namespace Placeholder

-- A number is a place in a list, and messages have no lists.
def isName (name : List Char) : Bool :=
  !name.isEmpty && !name.all Text.isDecimal

def captured (values : List (String × String)) (field : String) : Except MessageFault Subject :=
  let startsPath := fun c => c == '.' || c == '['
  let name := field.toList.takeWhile (!startsPath ·)
  if !isName name then .error .unfit
  else
    match values.lookup (String.ofList name) with
    | some words => (Subject.text words).follow .outside (field.toList.dropWhile (!startsPath ·))
    | none => .error .unfit

def formed (form : Option Char) (subject : Subject) : Except MessageFault Subject :=
  match form, subject with
  | none, _ => .ok subject
  | some 's', _ => .ok (.text subject.shown)
  | some 'r', .text words => .ok (.text (Text.quoted words))
  | some 'a', .text words => .ok (.text (Text.quotedAscii words))
  | some 'r', .kind _ | some 'a', .kind _ => .ok (.text subject.shown)
  | some _, _ => .error .unfit

def laidOut (layout : String) (subject : Subject) : Except MessageFault String :=
  if layout.isEmpty then .ok subject.shown
  else
    match subject with
    | .kind _ => .error .wrongKind
    | .text words =>
      match Text.Alignment.parse? layout.toList with
      | none => .error .unfit
      | some alignment =>
        if Text.Alignment.tooWide ≤ alignment.width then .error .tooWide else .ok (alignment.apply words)

end Placeholder

-- The text with everything filled in. `depth` bounds how deep layouts may hold placeholders.
def MessagePart.fillText (values : List (String × String)) : Nat → String → Except MessageFault String
  | 0, _ => .error .unfit
  | depth + 1, message => do
    let texts ← (parse message).mapM fun
      | .text words => .ok words
      | .broken => .error .unfit
      | .placeholder place => do
        let captured ← Placeholder.captured values place.field
        let formed ← Placeholder.formed place.form captured
        let layout ←
          if place.layout.toList.contains '\x7b' then fillText values depth place.layout else .ok place.layout
        Placeholder.laidOut layout formed
    return String.join texts

def Rule.render (rule : Rule) (values : List (String × String)) : Except MessageFault String :=
  if rule.message.isEmpty then .ok rule.title
  else
    match MessagePart.fillText values 2 rule.message with
    | .error .unfit => .ok rule.title
    | result => result

end Perflint
