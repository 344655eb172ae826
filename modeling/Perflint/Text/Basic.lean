namespace Perflint.Text

def occursIn (part : List Char) : List Char → Bool
  | [] => part.isEmpty
  | c :: rest => part.isPrefixOf (c :: rest) || occursIn part rest

def contains (text part : String) : Bool :=
  occursIn part.toList text.toList

def startsWith (text start : String) : Bool :=
  start.toList.isPrefixOf text.toList

def endsWith (text finish : String) : Bool :=
  finish.toList.isSuffixOf text.toList

def startsWithAny (text : String) (starts : List String) : Bool :=
  starts.any (startsWith text)

def endsWithAny (text : String) (ends : List String) : Bool :=
  ends.any (endsWith text)

def containsAny (text : String) (parts : List String) : Bool :=
  parts.any (contains text)

def beforeFirst (mark : Char) (text : String) : String :=
  String.ofList (text.toList.takeWhile (· != mark))

def afterFirst? (mark : Char) (text : String) : Option String :=
  match text.toList.dropWhile (· != mark) with
  | [] => none
  | _ :: rest => some (String.ofList rest)

def afterLast (mark : Char) (text : String) : String :=
  String.ofList (text.toList.reverse.takeWhile (· != mark)).reverse

def piecesFrom (mark : Char) (piece : List Char) : List Char → List String
  | [] => [String.ofList piece.reverse]
  | c :: rest =>
    if c == mark then String.ofList piece.reverse :: piecesFrom mark [] rest
    else piecesFrom mark (c :: piece) rest

def pieces (mark : Char) (text : String) : List String :=
  piecesFrom mark [] text.toList

def without (unwanted : Char) (text : String) : String :=
  String.ofList (text.toList.filter (· != unwanted))

def replaceChar (old new : Char) (text : String) : String :=
  String.ofList (text.toList.map fun c => if c == old then new else c)

def padRight (width : Nat) (text : String) : String :=
  text ++ String.ofList (List.replicate (width - text.length) ' ')

def joined (separator : String) (parts : List String) : String :=
  separator.intercalate parts

-- Every character that ends a line; a carriage return and the line feed after it end one line together.
def isLineBreak (c : Char) : Bool :=
  (10 ≤ c.toNat && c.toNat ≤ 13) || (28 ≤ c.toNat && c.toNat ≤ 30) || c.toNat == 0x85 ||
  c.toNat == 0x2028 || c.toNat == 0x2029

-- `line` holds the current line, last character first. A break at the very end opens no further line.
def linesFrom (line : List Char) : List Char → List String
  | [] => if line.isEmpty then [] else [String.ofList line.reverse]
  | '\r' :: '\n' :: rest => String.ofList line.reverse :: linesFrom [] rest
  | c :: rest =>
    if isLineBreak c then String.ofList line.reverse :: linesFrom [] rest else linesFrom (c :: line) rest

def splitLines (text : String) : List String :=
  linesFrom [] text.toList

-- The separators and controls that count as white space; the four information separators are among them.
def isBlank (c : Char) : Bool :=
  (9 ≤ c.toNat && c.toNat ≤ 13) || (28 ≤ c.toNat && c.toNat ≤ 32) || c.toNat == 0x85 || c.toNat == 0xA0 ||
  c.toNat == 0x1680 || (0x2000 ≤ c.toNat && c.toNat ≤ 0x200A) || c.toNat == 0x2028 || c.toNat == 0x2029 ||
  c.toNat == 0x202F || c.toNat == 0x205F || c.toNat == 0x3000

def dropEndWhile (skip : Char → Bool) (chars : List Char) : List Char :=
  (chars.reverse.dropWhile skip).reverse

def trimBoth (skip : Char → Bool) (chars : List Char) : List Char :=
  dropEndWhile skip (chars.dropWhile skip)

def strip (text : String) : String :=
  String.ofList (trimBoth isBlank text.toList)

def stripStart (text : String) : String :=
  String.ofList (text.toList.dropWhile isBlank)

def stripEnd (text : String) : String :=
  String.ofList (dropEndWhile isBlank text.toList)

def isBlankText (text : String) : Bool :=
  text.toList.all isBlank

def digitRows : List Nat :=
  [48, 1632, 1776, 1984, 2406, 2534, 2662, 2790, 2918, 3046, 3174, 3302, 3430, 3558, 3664, 3792, 3872, 4160, 4240,
   6112, 6160, 6470, 6608, 6784, 6800, 6992, 7088, 7232, 7248, 42528, 43216, 43264, 43472, 43504, 43600, 44016,
   65296, 66720, 68912, 69734, 69872, 69942, 70096, 70384, 70736, 70864, 71248, 71360, 71472, 71904, 72016, 72784,
   73040, 73120, 92768, 92864, 93008, 120782, 120792, 120802, 120812, 120822, 123200, 123632, 125264, 130032]

def digitValue? (c : Char) : Option Nat :=
  (digitRows.find? fun first => first ≤ c.toNat && c.toNat < first + 10).map fun first => c.toNat - first

def isDecimal (c : Char) : Bool :=
  (digitValue? c).isSome

def digitsNumber (digits : List Char) : Nat :=
  digits.foldl (fun n c => 10 * n + (digitValue? c).getD 0) 0

def plainDigits (chars : List Char) : List Char :=
  chars.map fun c =>
    match digitValue? c with
    | some value => Char.ofNat (value + '0'.toNat)
    | none => c

end Perflint.Text
