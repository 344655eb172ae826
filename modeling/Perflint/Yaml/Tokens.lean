import Perflint.Yaml.Scalar

namespace Perflint.Yaml

def isNameChar (c : Char) : Bool :=
  c.isAlphanum || c == '-' || c == '_'

def name (cursor : Cursor) : Except Fault (String × Cursor) :=
  let word := cursor.run isNameChar
  if word.isEmpty then .error .malformed else .ok (String.ofList word, cursor.skip word.length)

def endsAnchor (c : Char) : Bool :=
  isGapOrTab c || ['?', ':', ',', ']', '\x7d', '%', '@', '\x60'].contains c

def anchorName (cursor : Cursor) : Except Fault (String × Cursor) := do
  let (word, cursor) ← name cursor.next
  if !endsAnchor cursor.peek then throw .malformed
  return (word, cursor)

def tagMarks : List Char :=
  [';', '/', '?', ':', '@', '&', '=', '+', '$', ',', '.', '!', '~', '*', '\'', '(', ')', '[', ']']

def isTagChar (c : Char) : Bool :=
  isNameChar c || tagMarks.contains c

def escapedBytes : Nat → List UInt8 → Cursor → Except Fault (List UInt8 × Cursor)
  | 0, bytes, cursor => .ok (bytes.reverse, cursor)
  | fuel + 1, bytes, cursor =>
    if cursor.peek != '%' then .ok (bytes.reverse, cursor)
    else
      match hexValue? (cursor.peekAt 1), hexValue? (cursor.peekAt 2) with
      | some high, some low => escapedBytes fuel (UInt8.ofNat (16 * high + low) :: bytes) (cursor.skip 3)
      | _, _ => .error .malformed

def tagText : Nat → List Char → Cursor → Except Fault (String × Cursor)
  | 0, _, _ => .error .malformed
  | fuel + 1, text, cursor => do
    let text := text ++ cursor.run isTagChar
    let cursor := cursor.skipWhile isTagChar
    if cursor.peek == '%' then
      let (bytes, cursor) ← escapedBytes (cursor.rest.length + 1) [] cursor
      let some more := String.fromUTF8? ⟨bytes.toArray⟩ | throw .malformed
      tagText fuel (text ++ more.toList) cursor
    else if text.isEmpty then throw .malformed
    else return (String.ofList text, cursor)

def tagHandle (cursor : Cursor) : Except Fault (String × Cursor) := do
  if cursor.peek != '!' then throw .malformed
  if cursor.peekAt 1 == ' ' then return ("!", cursor.next)
  let word := cursor.next.run isNameChar
  let after := cursor.skip (word.length + 1)
  if after.peek != '!' then throw .malformed
  return (String.ofList ('!' :: word ++ ['!']), after.next)

def tagToken (cursor : Cursor) : Except Fault (Token × Cursor) := do
  let fuel := cursor.rest.length + 1
  let (token, cursor) ←
    if cursor.peekAt 1 == '<' then do
      let (text, cursor) ← tagText fuel [] (cursor.skip 2)
      if cursor.peek != '>' then throw .malformed
      pure (Token.tag none text, cursor.next)
    else if isGapOrTab (cursor.peekAt 1) then pure (Token.tag none "!", cursor.next)
    else do
      let hasHandle := (cursor.next.run (!isGap ·)).contains '!'
      let (handle, cursor) ← if hasHandle then tagHandle cursor else pure ("!", cursor.next)
      let (text, cursor) ← tagText fuel [] cursor
      pure (Token.tag (some handle) text, cursor)
  if !isGap cursor.peek then throw .malformed
  return (token, cursor)

def versionNumber (cursor : Cursor) : Except Fault (Nat × Cursor) :=
  let digits := cursor.run Char.isDigit
  if digits.isEmpty then .error .malformed
  else .ok (digits.foldl (fun n c => 10 * n + (c.toNat - '0'.toNat)) 0, cursor.skip digits.length)

def versionDirective (cursor : Cursor) : Except Fault (Directive × Cursor) := do
  let (major, cursor) ← versionNumber (cursor.skipWhile (· == ' '))
  if cursor.peek != '.' then throw .malformed
  let (_, cursor) ← versionNumber cursor.next
  if !isGap cursor.peek then throw .malformed
  return (.version major, cursor)

def handleDirective (cursor : Cursor) : Except Fault (Directive × Cursor) := do
  let (handle, cursor) ← tagHandle (cursor.skipWhile (· == ' '))
  if cursor.peek != ' ' then throw .malformed
  let cursor := cursor.skipWhile (· == ' ')
  let (meaning, cursor) ← tagText (cursor.rest.length + 1) [] cursor
  if !isGap cursor.peek then throw .malformed
  return (.handle handle meaning, cursor)

-- A line behind a percent sign. Directives of other names are passed over.
def directiveLine (cursor : Cursor) : Except Fault (Directive × Cursor) := do
  let (word, cursor) ← name cursor.next
  if !isGap cursor.peek then throw .malformed
  let (directive, cursor) ←
    if word == "YAML" then versionDirective cursor
    else if word == "TAG" then handleDirective cursor
    else pure (.other, cursor.skipWhile (!isBreakOrEnd ·))
  return (directive, ← emptyLine cursor)

-- Where a key without a question mark may have begun. Only a colon shows that it was one.
structure KeyStart where
  position : Nat
  isRequired : Bool
  index : Nat
  line : Nat
  column : Nat

-- How far a text has been cut into tokens. Tokens are held backwards.
structure Cutting where
  cursor : Cursor
  tokens : List Token := []
  level : Nat := 0
  indent : Int := -1
  outer : List Int := []
  mayStartKey : Bool := true
  keys : List (Nat × KeyStart) := []

namespace Cutting

def inFlow (cutting : Cutting) : Bool :=
  0 < cutting.level

def add (cutting : Cutting) (token : Token) : Cutting :=
  { cutting with tokens := token :: cutting.tokens }

def insert (cutting : Cutting) (position : Nat) (token : Token) : Cutting :=
  let after := cutting.tokens.length - position
  { cutting with tokens := cutting.tokens.take after ++ token :: cutting.tokens.drop after }

-- Spaces, comments and line breaks. Outside of brackets a key may start on a new line.
def skipGaps : Nat → Cutting → Cutting
  | 0, cutting => cutting
  | fuel + 1, cutting =>
    let cursor := cutting.cursor.skipComment
    match cursor.lineBreak? with
    | some (_, cursor) =>
      skipGaps fuel { cutting with cursor, mayStartKey := cutting.mayStartKey || !cutting.inFlow }
    | none => { cutting with cursor }

-- A key stands on one line and is at most so long.
def keyReach : Nat := 1024

def dropStaleKeys (cutting : Cutting) : Except Fault Cutting :=
  let isStale := fun (entry : Nat × KeyStart) =>
    entry.2.line != cutting.cursor.line || keyReach < cutting.cursor.index - entry.2.index
  if cutting.keys.any fun entry => isStale entry && entry.2.isRequired then .error .malformed
  else .ok { cutting with keys := cutting.keys.filter (!isStale ·) }

def dropKey (cutting : Cutting) : Except Fault Cutting :=
  match cutting.keys.lookup cutting.level with
  | none => .ok cutting
  | some key =>
    if key.isRequired then .error .malformed
    else .ok { cutting with keys := cutting.keys.filter (·.1 != cutting.level) }

def markKey (cutting : Cutting) : Except Fault Cutting := do
  if !cutting.mayStartKey then return cutting
  let key : KeyStart :=
    { position := cutting.tokens.length
      isRequired := !cutting.inFlow && cutting.indent == cutting.cursor.column
      index := cutting.cursor.index
      line := cutting.cursor.line
      column := cutting.cursor.column }
  let cutting ← cutting.dropKey
  return { cutting with keys := (cutting.level, key) :: cutting.keys }

def unwindFrom (column indent : Int) : List Int → Cutting → Cutting
  | [], cutting => { cutting with indent, outer := [] }
  | outer :: rest, cutting =>
    if column < indent then unwindFrom column outer rest (cutting.add .blockEnd)
    else { cutting with indent, outer := outer :: rest }

def unwind (cutting : Cutting) (column : Int) : Cutting :=
  if cutting.inFlow then cutting else unwindFrom column cutting.indent cutting.outer cutting

def deepen (cutting : Cutting) (column position : Nat) (start : Token) : Cutting :=
  if cutting.inFlow || (column : Int) ≤ cutting.indent then cutting
  else { cutting.insert position start with indent := column, outer := cutting.indent :: cutting.outer }

def take (cutting : Cutting) (count : Nat) (token : Token) : Cutting :=
  { cutting.add token with cursor := cutting.cursor.skip count }

def openFlow (cutting : Cutting) (token : Token) : Except Fault Cutting := do
  let cutting ← cutting.markKey
  return { cutting.take 1 token with level := cutting.level + 1, mayStartKey := true }

def closeFlow (cutting : Cutting) (token : Token) : Except Fault Cutting := do
  let cutting ← cutting.dropKey
  return { cutting.take 1 token with level := cutting.level - 1, mayStartKey := false }

def flowEntry (cutting : Cutting) : Except Fault Cutting := do
  let cutting ← cutting.dropKey
  return { cutting.take 1 .flowEntry with mayStartKey := true }

-- A mark that starts a list or a mapping of its own, if it stands deeper than the last one.
def blockMark (cutting : Cutting) (start mark : Token) (mayStartKey : Bool) : Except Fault Cutting := do
  if !cutting.inFlow && !cutting.mayStartKey then throw .malformed
  let cutting := cutting.deepen cutting.cursor.column cutting.tokens.length start
  let cutting ← cutting.dropKey
  return { cutting.take 1 mark with mayStartKey }

def value (cutting : Cutting) : Except Fault Cutting :=
  match cutting.keys.lookup cutting.level with
  | some key =>
    let cutting := { cutting with keys := cutting.keys.filter (·.1 != cutting.level) }
    let cutting := (cutting.insert key.position .key).deepen key.column key.position .blockMapping
    .ok { cutting.take 1 .value with mayStartKey := false }
  | none => cutting.blockMark .blockMapping .value (!cutting.inFlow)

-- The markers of documents and the directives end everything that is open.
def documentMark (cutting : Cutting) (token : Token) (cursor : Cursor) : Except Fault Cutting := do
  let cutting ← (cutting.unwind (-1)).dropKey
  return { cutting.add token with cursor, mayStartKey := false }

-- Something that can be a key itself, or stands before one.
def piece (cutting : Cutting) (token : Token) (cursor : Cursor) (mayStartKey : Bool) : Except Fault Cutting := do
  let cutting ← cutting.markKey
  return { cutting.add token with cursor, mayStartKey }

def plainWord (cutting : Cutting) : Except Fault Cutting :=
  let cursor := cutting.cursor
  let (word, cursor, broken) :=
    plain cutting.inFlow (cutting.indent + 1) (cursor.rest.length + 1) [] [] false cursor
  cutting.piece (.scalar (pointsOf word) true) cursor broken

def quotedText (cutting : Cutting) (double : Bool) : Except Fault Cutting := do
  let cutting ← cutting.markKey
  let (points, cursor) ← quoted double (cutting.cursor.rest.length + 1) [] cutting.cursor.next
  return { cutting.add (.scalar points false) with cursor, mayStartKey := false }

def blockText (cutting : Cutting) (isFolded : Bool) : Except Fault Cutting := do
  let cutting ← cutting.dropKey
  let (text, cursor) ← block isFolded cutting.indent cutting.cursor.next
  return { cutting.add (.scalar (pointsOf text) false) with cursor, mayStartKey := true }

def isReserved (c : Char) : Bool :=
  isGapOrTab c || flowMarks.contains c ||
    ['-', '?', ':', '#', '&', '*', '!', '|', '>', '\'', '"', '%', '@', '\x60'].contains c

-- A dash always, and outside of brackets a question mark or a colon, starts a word if it touches one.
def startsWord (cutting : Cutting) : Bool :=
  let c := cutting.cursor.peek
  !isReserved c ||
    (!isGapOrTab (cutting.cursor.peekAt 1) && (c == '-' || (!cutting.inFlow && (c == '?' || c == ':'))))

def next (cutting : Cutting) : Except Fault Cutting := do
  let cursor := cutting.cursor
  let c := cursor.peek
  let isApart := isGapOrTab (cursor.peekAt 1)
  if c == '%' && cursor.column == 0 then
    let cutting ← (cutting.unwind (-1)).dropKey
    let (directive, cursor) ← directiveLine cursor
    return { cutting.add (.directive directive) with cursor, mayStartKey := false }
  else if c == '-' && cursor.column == 0 && cursor.isMarker then cutting.documentMark .documentStart (cursor.skip 3)
  else if c == '.' && cursor.column == 0 && cursor.isMarker then cutting.documentMark .documentEnd (cursor.skip 3)
  else if c == '[' then cutting.openFlow .flowList
  else if c == '\x7b' then cutting.openFlow .flowMapping
  else if c == ']' then cutting.closeFlow .flowListEnd
  else if c == '\x7d' then cutting.closeFlow .flowMappingEnd
  else if c == ',' then cutting.flowEntry
  else if c == '-' && isApart then cutting.blockMark .blockList .blockEntry true
  else if c == '?' && (cutting.inFlow || isApart) then cutting.blockMark .blockMapping .key (!cutting.inFlow)
  else if c == ':' && (cutting.inFlow || isApart) then cutting.value
  else if c == '*' then
    let (word, after) ← anchorName cursor
    cutting.piece (.alias word) after false
  else if c == '&' then
    let (word, after) ← anchorName cursor
    cutting.piece (.anchor word) after false
  else if c == '!' then
    let (token, after) ← tagToken cursor
    cutting.piece token after false
  else if (c == '|' || c == '>') && !cutting.inFlow then cutting.blockText (c == '>')
  else if c == '\'' || c == '"' then cutting.quotedText (c == '"')
  else if cutting.startsWord then cutting.plainWord
  else throw .malformed

-- All tokens from a place on. A fault ends them.
def finish : Nat → Cutting → List Token
  | 0, cutting => (cutting.add (.fault .malformed)).tokens.reverse
  | fuel + 1, cutting =>
    let step := do
      let cutting ← (skipGaps (cutting.cursor.rest.length + 1) cutting).dropStaleKeys
      let cutting := cutting.unwind cutting.cursor.column
      if cutting.cursor.rest.isEmpty then
        let cutting ← (cutting.unwind (-1)).dropKey
        return (cutting, true)
      else return (← cutting.next, false)
    match step with
    | .error fault => (cutting.add (.fault fault)).tokens.reverse
    | .ok (cutting, true) => cutting.tokens.reverse
    | .ok (cutting, false) => finish fuel cutting

end Cutting

def tokens (chars : List Char) : List Token :=
  let cursor : Cursor := { rest := chars }
  let cursor := if cursor.peek == byteOrderMark then cursor.next else cursor
  if chars.all isAllowed then Cutting.finish (chars.length + 2) { cursor } else [.fault .malformed]

end Perflint.Yaml
