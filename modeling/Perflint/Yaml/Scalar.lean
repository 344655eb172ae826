import Perflint.Text.Basic
import Perflint.Yaml.Cursor

namespace Perflint.Yaml

def pointsOf (chars : List Char) : Points :=
  chars.map Char.toNat

-- One break between two words is a space, and more are so many breaks less one. A separator of lines or paragraphs
-- stands for itself.
def folded (first : Char) (others : List Char) : List Char :=
  if first != '\n' then first :: others
  else if others.isEmpty then [' ']
  else others

def flowMarks : List Char := [',', '[', ']', '\x7b', '\x7d']

def colonEnds (inFlow : Bool) (rest : List Char) : Bool :=
  let next := rest.headD ending
  isGapOrTab next || (inFlow && flowMarks.contains next)

def plainRun (inFlow : Bool) : List Char → Nat
  | [] => 0
  | c :: rest =>
    if isGapOrTab c || (c == ':' && colonEnds inFlow rest) || (inFlow && (c == '?' || flowMarks.contains c)) then 0
    else plainRun inFlow rest + 1

structure Gap where
  text : List Char
  cursor : Cursor
  broken : Bool

def moreBreaks : Nat → List Char → Cursor → Option (List Char) × Cursor
  | 0, breaks, cursor => (some breaks.reverse, cursor)
  | fuel + 1, breaks, cursor =>
    if cursor.peek == ' ' then moreBreaks fuel breaks cursor.next
    else
      match cursor.lineBreak? with
      | none => (some breaks.reverse, cursor)
      | some (c, cursor) => if cursor.isMarker then (none, cursor) else moreBreaks fuel (c :: breaks) cursor

def plainGap (cursor : Cursor) : Gap :=
  let spaces := cursor.run (· == ' ')
  let cursor := cursor.skip spaces.length
  match cursor.lineBreak? with
  | none => { text := spaces, cursor, broken := false }
  | some (first, cursor) =>
    if cursor.isMarker then { text := [], cursor, broken := true }
    else
      match moreBreaks (cursor.rest.length + 1) [] cursor with
      | (some others, cursor) => { text := folded first others, cursor, broken := true }
      | (none, cursor) => { text := [], cursor, broken := true }

-- A plain word, the place after it and the gap behind it, and whether that gap holds a break. Outside of brackets a
-- word goes on only over lines at `floor` or deeper. `gap` stands before the next run.
def plain (inFlow : Bool) (floor : Int) : Nat → List Char → List Char → Bool → Cursor → List Char × Cursor × Bool
  | 0, word, _, broken, cursor => (word, cursor, broken)
  | fuel + 1, word, gap, broken, cursor =>
    let length := plainRun inFlow cursor.rest
    if cursor.peek == '#' || length == 0 then (word, cursor, broken)
    else
      let word := word ++ gap ++ cursor.rest.take length
      let after := plainGap (cursor.skip length)
      if after.text.isEmpty || after.cursor.peek == '#' || (!inFlow && after.cursor.column < floor) then
        (word, after.cursor, after.broken)
      else plain inFlow floor fuel word after.text after.broken after.cursor

def quotedBreaks : Nat → List Char → Cursor → Except Fault (List Char × Cursor)
  | 0, breaks, cursor => .ok (breaks.reverse, cursor)
  | fuel + 1, breaks, cursor =>
    if cursor.isMarker then .error .malformed
    else
      match (cursor.skipWhile isInset).lineBreak? with
      | some (c, cursor) => quotedBreaks fuel (c :: breaks) cursor
      | none => .ok (breaks.reverse, cursor.skipWhile isInset)

def quotedGap (cursor : Cursor) : Except Fault (List Char × Cursor) := do
  let blanks := cursor.run isInset
  let cursor := cursor.skip blanks.length
  if cursor.peek == ending then throw .malformed
  match cursor.lineBreak? with
  | none => return (blanks, cursor)
  | some (first, cursor) =>
    let (others, cursor) ← quotedBreaks (cursor.rest.length + 1) [] cursor
    return (folded first others, cursor)

def escapes : List (Char × Nat) :=
  [('0', 0), ('a', 7), ('b', 8), ('t', 9), ('\t', 9), ('n', 10), ('v', 11), ('f', 12), ('r', 13), ('e', 27),
   (' ', 32), ('"', 34), ('\\', 92), ('/', 47), ('N', 0x85), ('_', 0xA0), ('L', 0x2028), ('P', 0x2029)]

def codeWidth? (c : Char) : Option Nat :=
  [('x', 2), ('u', 4), ('U', 8)].lookup c

def hexValue? (c : Char) : Option Nat :=
  if '0' ≤ c && c ≤ '9' then some (c.toNat - '0'.toNat)
  else if 'a' ≤ c && c ≤ 'f' then some (c.toNat - 'a'.toNat + 10)
  else if 'A' ≤ c && c ≤ 'F' then some (c.toNat - 'A'.toNat + 10)
  else none

def pointOf (digits : List Char) : Except Fault Nat := do
  let some values := digits.mapM hexValue? | throw .malformed
  let point := values.foldl (fun n digit => 16 * n + digit) 0
  if 0x7FFFFFFF < point then throw .farPoint
  if 0x10FFFF < point then throw (.noSuch "chr() arg not in range(0x110000)")
  return point

def escaped (cursor : Cursor) : Except Fault (Points × Cursor) := do
  let c := cursor.peek
  match escapes.lookup c, codeWidth? c with
  | some point, _ => return ([point], cursor.next)
  | none, some width =>
    let digits := cursor.next.rest.take width
    if digits.length < width then throw .malformed
    return ([← pointOf digits], cursor.next.skip width)
  | none, none =>
    match cursor.lineBreak? with
    | none => throw .malformed
    | some (_, cursor) =>
      let (breaks, cursor) ← quotedBreaks (cursor.rest.length + 1) [] cursor
      return (pointsOf breaks, cursor)

def quoted (double : Bool) : Nat → Points → Cursor → Except Fault (Points × Cursor)
  | 0, _, _ => .error .malformed
  | fuel + 1, points, cursor => do
    let c := cursor.peek
    if c == '"' && double then return (points.reverse, cursor.next)
    else if c == '\'' && !double then
      if cursor.peekAt 1 == '\'' then quoted double fuel (c.toNat :: points) (cursor.skip 2)
      else return (points.reverse, cursor.next)
    else if c == '\\' && double then
      let (more, cursor) ← escaped cursor.next
      quoted double fuel (more.reverse ++ points) cursor
    else if isGapOrTab c then
      let (gap, cursor) ← quotedGap cursor
      quoted double fuel ((pointsOf gap).reverse ++ points) cursor
    else quoted double fuel (c.toNat :: points) cursor.next

inductive Chomping where
  | strip
  | clip
  | keep
  deriving DecidableEq, Repr

def Chomping.ofMark? (c : Char) : Option Chomping :=
  if c == '+' then some .keep else if c == '-' then some .strip else none

def depthMark? (c : Char) : Option Nat :=
  if c.isDigit then some (c.toNat - '0'.toNat) else none

def blockMarks (cursor : Cursor) : Except Fault (Chomping × Option Nat × Cursor) := do
  let (chomping, depth, cursor) :=
    match Chomping.ofMark? cursor.peek, depthMark? cursor.peek with
    | some chomping, _ =>
      match depthMark? cursor.next.peek with
      | some depth => (chomping, some depth, cursor.skip 2)
      | none => (chomping, none, cursor.next)
    | none, some depth =>
      match Chomping.ofMark? cursor.next.peek with
      | some chomping => (chomping, some depth, cursor.skip 2)
      | none => (.clip, some depth, cursor.next)
    | none, none => (.clip, none, cursor)
  if depth == some 0 || !isGap cursor.peek then throw .malformed
  return (chomping, depth, cursor)

def emptyLine (cursor : Cursor) : Except Fault Cursor :=
  let cursor := cursor.skipComment
  if !isBreakOrEnd cursor.peek then .error .malformed
  else
    match cursor.lineBreak? with
    | some (_, cursor) => .ok cursor
    | none => .ok cursor

def firstDepth : Nat → List Char → Nat → Cursor → List Char × Nat × Cursor
  | 0, breaks, deepest, cursor => (breaks.reverse, deepest, cursor)
  | fuel + 1, breaks, deepest, cursor =>
    if cursor.peek == ' ' then firstDepth fuel breaks (max deepest cursor.next.column) cursor.next
    else
      match cursor.lineBreak? with
      | some (c, cursor) => firstDepth fuel (c :: breaks) deepest cursor
      | none => (breaks.reverse, deepest, cursor)

def skipTo (column : Nat) (cursor : Cursor) : Cursor :=
  cursor.skip (min (cursor.run (· == ' ')).length (column - cursor.column))

def blockBreaks (depth : Nat) : Nat → List Char → Cursor → List Char × Cursor
  | 0, breaks, cursor => (breaks.reverse, cursor)
  | fuel + 1, breaks, cursor =>
    let cursor := skipTo depth cursor
    match cursor.lineBreak? with
    | some (c, cursor) => blockBreaks depth fuel (c :: breaks) cursor
    | none => (breaks.reverse, cursor)

-- The lines of a block: its text, the break after its last line, and the empty lines behind. In a folded block a break
-- between two lines that start with a word is a space.
def blockLines (isFolded : Bool) (depth : Nat) :
    Nat → List Char → List Char → Cursor → List Char × Option Char × List Char × Cursor
  | 0, text, breaks, cursor => (text, none, breaks, cursor)
  | fuel + 1, text, breaks, cursor =>
    if cursor.column != depth || cursor.peek == ending then (text, none, breaks, cursor)
    else
      let startsWord := !isInset cursor.peek
      let line := cursor.run (!isBreakOrEnd ·)
      let text := text ++ breaks ++ line
      match (cursor.skip line.length).lineBreak? with
      | none => (text, none, [], cursor.skip line.length)
      | some (last, cursor) =>
        let (breaks, cursor) := blockBreaks depth (cursor.rest.length + 1) [] cursor
        if cursor.column != depth || cursor.peek == ending then (text, some last, breaks, cursor)
        else
          let joint :=
            if isFolded && last == '\n' && startsWord && !isInset cursor.peek then
              if breaks.isEmpty then [' '] else []
            else [last]
          blockLines isFolded depth fuel (text ++ joint) breaks cursor

-- What follows the sign of a block; `indent` is the column of the part it belongs to.
def block (isFolded : Bool) (indent : Int) (cursor : Cursor) : Except Fault (List Char × Cursor) := do
  let (chomping, depth?, cursor) ← blockMarks cursor
  let cursor ← emptyLine cursor
  let least := max 1 (indent + 1).toNat
  let fuel := cursor.rest.length + 1
  let (breaks, depth, cursor) := match depth? with
    | none =>
      let (breaks, deepest, cursor) := firstDepth fuel [] 0 cursor
      (breaks, max least deepest, cursor)
    | some depth =>
      let depth := least + depth - 1
      let (breaks, cursor) := blockBreaks depth fuel [] cursor
      (breaks, depth, cursor)
  let (text, last, breaks, cursor) := blockLines isFolded depth fuel [] breaks cursor
  let last := if chomping == .strip then [] else last.toList
  return (text ++ last ++ (if chomping == .keep then breaks else []), cursor)

end Perflint.Yaml
