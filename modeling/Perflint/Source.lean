import Perflint.Text.Encoding

namespace Perflint

-- A place in a text: lines count from one, columns from zero and in bytes.
structure Position where
  line : Nat
  column : Nat
  deriving DecidableEq, Repr, Inhabited

namespace Position

def le (a b : Position) : Bool :=
  a.line < b.line || (a.line == b.line && a.column ≤ b.column)

def lt (a b : Position) : Bool :=
  a.line < b.line || (a.line == b.line && a.column < b.column)

instance : LE Position := ⟨fun a b => a.le b = true⟩
instance : LT Position := ⟨fun a b => a.lt b = true⟩
instance (a b : Position) : Decidable (a ≤ b) := inferInstanceAs (Decidable (a.le b = true))
instance (a b : Position) : Decidable (a < b) := inferInstanceAs (Decidable (a.lt b = true))

def shift (lines : Nat) (p : Position) : Position :=
  { p with line := p.line + lines }

end Position

-- A region of a text. Nothing asks that it start before it ends; the byte offsets take no part in comparisons.
structure Span where
  start : Position
  finish : Position
  firstByte : Nat := 0
  lastByte : Nat := 0
  deriving DecidableEq, Repr, Inhabited

namespace Span

def contains (outer inner : Span) : Bool :=
  outer.start.le inner.start && inner.finish.le outer.finish

def overlaps (a b : Span) : Bool :=
  a.start.lt b.finish && b.start.lt a.finish

def sameRegion (a b : Span) : Bool :=
  a.start == b.start && a.finish == b.finish

def before (a b : Span) : Bool :=
  a.start.lt b.start || (a.start == b.start && a.finish.lt b.finish)

def lines (span : Span) : String :=
  if span.start.line == span.finish.line then toString span.start.line
  else toString span.start.line ++ "-" ++ toString span.finish.line

def shift (lines : Nat) (span : Span) : Span :=
  { span with start := span.start.shift lines, finish := span.finish.shift lines }

end Span

-- The bytes of one unit of code; they need not be valid UTF-8.
structure Source where
  bytes : List UInt8
  deriving DecidableEq, Inhabited

namespace Source

def ofText (text : String) : Source :=
  { bytes := Text.encodeUtf8 text }

def slice (source : Source) (first last : Nat) : String :=
  Text.decodeUtf8 ((source.bytes.drop first).take (last - first))

def isNewline (byte : UInt8) : Bool :=
  byte == 10

def position (source : Source) (offset : Nat) : Position :=
  let passed := source.bytes.take offset
  let column := (passed.reverse.takeWhile (!isNewline ·)).length
  { line := passed.countP isNewline + 1, column := offset - (passed.length - column) }

def span (source : Source) (first last : Nat) : Span :=
  { start := source.position first, finish := source.position last, firstByte := first, lastByte := last }

def text (source : Source) (span : Span) : String :=
  source.slice span.firstByte span.lastByte

end Source
end Perflint
