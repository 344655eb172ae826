namespace Perflint.Yaml

inductive Fault where
  | malformed
  | noSuch (message : String)
  | notTruth
  | notMoment
  | emptyNumber
  | farPoint
  | tooDeep
  deriving DecidableEq, Repr, Inhabited

def Fault.message : Fault → String
  | .malformed => "not valid YAML"
  | .noSuch message => message
  | .notTruth => "not a truth value"
  | .notMoment => "not a moment"
  | .emptyNumber => "a number without digits"
  | .farPoint => "no such character"
  | .tooDeep => "too many levels"

-- A text by its code points. Escapes may name halves of surrogate pairs, which no character is.
abbrev Points := List Nat

inductive Directive where
  | version (major : Nat)
  | handle (name : String) (meaning : String)
  | other
  deriving DecidableEq, Repr, Inhabited

inductive Token where
  | directive (directive : Directive)
  | documentStart
  | documentEnd
  | blockList
  | blockMapping
  | blockEnd
  | flowList
  | flowMapping
  | flowListEnd
  | flowMappingEnd
  | flowEntry
  | blockEntry
  | key
  | value
  | alias (name : String)
  | anchor (name : String)
  | tag (handle : Option String) (suffix : String)
  | scalar (points : Points) (plain : Bool)
  | fault (fault : Fault)
  deriving DecidableEq, Repr, Inhabited

-- Stands for the end of the text, which itself never holds it.
def ending : Char := Char.ofNat 0

-- Every character that ends a line. Carriage returns have been dealt with before.
def isBreak (c : Char) : Bool :=
  c == '\n' || c.toNat == 0x85 || c.toNat == 0x2028 || c.toNat == 0x2029

def isBreakOrEnd (c : Char) : Bool :=
  isBreak c || c == ending

def isGap (c : Char) : Bool :=
  isBreakOrEnd c || c == ' '

def isGapOrTab (c : Char) : Bool :=
  isGap c || c == '\t'

def isInset (c : Char) : Bool :=
  c == ' ' || c == '\t'

-- Not counted as a column.
def byteOrderMark : Char := Char.ofNat 0xFEFF

def isAllowed (c : Char) : Bool :=
  let n := c.toNat
  n == 9 || n == 10 || n == 13 || (32 ≤ n && n ≤ 126) || n == 0x85 || (0xA0 ≤ n && n ≤ 0xFFFD) || 0x10000 ≤ n

def unifyBreaks : List Char → List Char
  | [] => []
  | '\r' :: '\n' :: rest => '\n' :: unifyBreaks rest
  | c :: rest => (if c == '\r' then '\n' else c) :: unifyBreaks rest

structure Cursor where
  rest : List Char
  index : Nat := 0
  line : Nat := 0
  column : Nat := 0
  deriving Inhabited

namespace Cursor

def peek (cursor : Cursor) : Char :=
  cursor.rest.headD ending

def peekAt (cursor : Cursor) (distance : Nat) : Char :=
  (cursor.rest.drop distance).headD ending

def next (cursor : Cursor) : Cursor :=
  match cursor.rest with
  | [] => cursor
  | c :: rest =>
    if isBreak c then { rest, index := cursor.index + 1, line := cursor.line + 1, column := 0 }
    else
      { rest, index := cursor.index + 1, line := cursor.line
        column := if c == byteOrderMark then cursor.column else cursor.column + 1 }

def skip : Nat → Cursor → Cursor
  | 0, cursor => cursor
  | count + 1, cursor => skip count cursor.next

def run (cursor : Cursor) (holds : Char → Bool) : List Char :=
  cursor.rest.takeWhile holds

def skipWhile (cursor : Cursor) (holds : Char → Bool) : Cursor :=
  cursor.skip (cursor.run holds).length

def lineBreak? (cursor : Cursor) : Option (Char × Cursor) :=
  let c := cursor.peek
  if !isBreak c then none
  else some (if c.toNat == 0x85 then '\n' else c, cursor.next)

def skipComment (cursor : Cursor) : Cursor :=
  let cursor := cursor.skipWhile (· == ' ')
  if cursor.peek == '#' then cursor.skipWhile (!isBreakOrEnd ·) else cursor

def isMarker (cursor : Cursor) : Bool :=
  let mark := cursor.rest.take 3
  (mark == ['-', '-', '-'] || mark == ['.', '.', '.']) && isGapOrTab (cursor.peekAt 3)

end Cursor
end Perflint.Yaml
