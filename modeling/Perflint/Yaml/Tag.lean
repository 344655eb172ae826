import Perflint.Calendar
import Perflint.Decimal
import Perflint.Text.Basic
import Perflint.Text.Unicode
import Perflint.Yaml.Cursor

namespace Perflint.Yaml

inductive Tag where
  | null
  | bool
  | int
  | float
  | bytes
  | moment
  | text
  | list
  | mapping
  | set
  | orderedMapping
  | pairs
  | merge
  | value
  | unknown
  deriving DecidableEq, Repr, Inhabited

namespace Tag

def standard : String := "tag:yaml.org,2002:"

def names : List (String × Tag) :=
  [("null", .null), ("bool", .bool), ("int", .int), ("float", .float), ("binary", .bytes), ("timestamp", .moment),
   ("str", .text), ("seq", .list), ("map", .mapping), ("set", .set), ("omap", .orderedMapping), ("pairs", .pairs),
   ("merge", .merge), ("value", .value)]

def ofName (name : String) : Tag :=
  match names.find? fun (short, _) => standard ++ short == name with
  | some (_, tag) => tag
  | none => .unknown

def isCollection : Tag → Bool
  | .list | .mapping | .set | .orderedMapping | .pairs => true
  | _ => false

def truths : List (String × Bool) :=
  [("yes", true), ("no", false), ("true", true), ("false", false), ("on", true), ("off", false)]

def inThreeCases (word text : String) : Bool :=
  text == word || text == word.toUpper || text == word.capitalize

def isTruthWord (text : String) : Bool :=
  truths.any fun (word, _) => inThreeCases word text

def isNullWord (text : String) : Bool :=
  text == "" || text == "~" || inThreeCases "null" text

def isDigitOrMark (c : Char) : Bool :=
  c.isDigit || c == '_'

def withoutSign : List Char → List Char
  | '-' :: rest => rest
  | '+' :: rest => rest
  | chars => chars

-- The sign of an exponent has to be there, and no marks stand in it.
def isExponent : List Char → Bool
  | [] => true
  | mark :: sign :: digits =>
    (mark == 'e' || mark == 'E') && (sign == '-' || sign == '+') && !digits.isEmpty && digits.all Char.isDigit
  | _ => false

def isWhole : List Char → Bool
  | [] => false
  | first :: rest => first.isDigit && rest.all isDigitOrMark

def isSixtieth : List Char → Bool
  | [digit] => digit.isDigit
  | [tens, digit] => '0' ≤ tens && tens ≤ '5' && digit.isDigit
  | _ => false

def areSixtieths (isFirst : List Char → Bool) (chars : List Char) : Bool :=
  match (Text.pieces ':' (String.ofList chars)).map String.toList with
  | first :: rest => isFirst first && !rest.isEmpty && rest.all isSixtieth
  | [] => false

def isFraction (chars : List Char) : Bool :=
  match chars with
  | '.' :: rest => isExponent (rest.dropWhile isDigitOrMark)
  | _ => false

-- Digits, a point and an exponent with a sign; digits to the base sixty and a point; or a word for the infinite.
def isFloatWord (chars : List Char) : Bool :=
  let bare := withoutSign chars
  let whole := bare.takeWhile isDigitOrMark
  let sixties := bare.takeWhile (· != '.')
  let infinite := String.ofList (bare.drop 1)
  (isWhole whole && isFraction (bare.drop whole.length)) ||
    (isFraction chars && ((chars.drop 1).headD '_').isDigit) ||
    (areSixtieths isWhole sixties && !(bare.drop sixties.length).isEmpty &&
      ((bare.drop sixties.length).drop 1).all isDigitOrMark) ||
    (bare.headD '_' == '.' && inThreeCases "inf" infinite) ||
    (chars.headD '_' == '.' && ["nan", "NaN", "NAN"].contains (String.ofList (chars.drop 1)))

def isPlainWhole : List Char → Bool
  | [] => false
  | first :: rest => first.isDigit && first != '0' && rest.all isDigitOrMark

def isHexDigitOrMark (c : Char) : Bool :=
  c.isDigit || ('a' ≤ c && c ≤ 'f') || ('A' ≤ c && c ≤ 'F') || c == '_'

def isIntWord (chars : List Char) : Bool :=
  match withoutSign chars with
  | ['0'] => true
  | '0' :: 'b' :: rest => !rest.isEmpty && rest.all fun c => c == '0' || c == '1' || c == '_'
  | '0' :: 'x' :: rest => !rest.isEmpty && rest.all isHexDigitOrMark
  | '0' :: rest => rest.all fun c => ('0' ≤ c && c ≤ '7') || c == '_'
  | bare => isPlainWhole bare || areSixtieths isPlainWhole bare

end Tag

def digitsBetween? (least most : Nat) (chars : List Char) : Option (Nat × List Char) :=
  let digits := (chars.take most).takeWhile Char.isDigit
  if digits.length < least then none
  else some (digits.foldl (fun n c => 10 * n + (c.toNat - '0'.toNat)) 0, chars.drop digits.length)

def mark? (mark : Char) : List Char → Option (List Char)
  | c :: rest => if c == mark then some rest else none
  | [] => none

def microsOf (digits : List Char) : Nat :=
  ((digits ++ List.replicate 6 '0').take 6).foldl (fun n c => 10 * n + (c.toNat - '0'.toNat)) 0

def offset? (chars : List Char) : Option (Option Int) :=
  match chars with
  | [] => some none
  | ['Z'] => some (some 0)
  | sign :: rest => do
    if sign != '-' && sign != '+' then none
    let (hours, rest) ← digitsBetween? 1 2 rest
    let (minutes, rest) ← if rest.isEmpty then some (0, rest) else (mark? ':' rest).bind (digitsBetween? 2 2)
    if !rest.isEmpty then none
    let seconds : Int := hours * 3600 + minutes * 60
    return some (if sign == '-' then -seconds else seconds)

def timeOfDay? (day : Day) (chars : List Char) : Option Moment := do
  let (hour, rest) ← digitsBetween? 1 2 chars
  let (minute, rest) ← (mark? ':' rest).bind (digitsBetween? 2 2)
  let (second, rest) ← (mark? ':' rest).bind (digitsBetween? 2 2)
  let (digits, rest) := match rest with
    | '.' :: rest => (rest.takeWhile Char.isDigit, rest.dropWhile Char.isDigit)
    | _ => ([], rest)
  let zone := rest.dropWhile fun c => c == ' ' || c == '\t'
  if zone.isEmpty && !rest.isEmpty then none
  let offset ← offset? zone
  return { day, hour, minute, second, micro := microsOf digits, offset }

-- A day, or a day and a time behind the letter T or blanks. Whether there is such a day is not asked yet.
def moment? (chars : List Char) : Option (Day ⊕ Moment) := do
  let (year, rest) ← digitsBetween? 4 4 chars
  let (month, rest) ← (mark? '-' rest).bind (digitsBetween? 1 2)
  let (dayOfMonth, rest) ← (mark? '-' rest).bind (digitsBetween? 1 2)
  let day : Day := { year, month, day := dayOfMonth }
  match rest with
  | [] => return .inl day
  | c :: tail =>
    if c == 'T' || c == 't' then return .inr (← timeOfDay? day tail)
    else if c == ' ' || c == '\t' then
      return .inr (← timeOfDay? day (tail.dropWhile fun c => c == ' ' || c == '\t'))
    else none

-- A day alone has two digits for its month and two for itself.
def isMomentWord (chars : List Char) : Bool :=
  match moment? chars with
  | some (.inl _) => chars.length == 10
  | some (.inr _) => true
  | none => false

def Tag.ofWord (chars : List Char) : Tag :=
  let text := String.ofList chars
  if isTruthWord text then .bool
  else if isFloatWord chars then .float
  else if isIntWord chars then .int
  else if text == "<<" then .merge
  else if isNullWord text then .null
  else if isMomentWord chars then .moment
  else if text == "=" then .value
  else .text

def digitLimit : Nat := 4300

def notWhole (base : Nat) (text : String) : Fault :=
  .noSuch ("invalid literal for int() with base " ++ toString base ++ ": " ++
    String.ofList ((Text.quoted text).toList.take 200))

def notReal (text : String) : Fault :=
  .noSuch ("could not convert string to float: " ++ Text.quoted text)

def tooManyDigits (count : Nat) : Fault :=
  .noSuch ("Exceeds the limit (4300 digits) for integer string conversion: value has " ++ toString count ++
    " digits; use sys.set_int_max_str_digits() to increase the limit")

def baseDigit? (base : Nat) (c : Char) : Option Nat :=
  let value? :=
    if 'a' ≤ c && c ≤ 'f' then some (c.toNat - 'a'.toNat + 10)
    else if 'A' ≤ c && c ≤ 'F' then some (c.toNat - 'A'.toNat + 10)
    else Text.digitValue? c
  value?.filter (· < base)

def baseLetter? (base : Nat) : Option Char :=
  [(2, 'b'), (8, 'o'), (16, 'x')].lookup base

def withoutBase (base : Nat) (chars : List Char) : List Char :=
  match chars with
  | '0' :: letter :: rest => if baseLetter? base == some letter.toLower then rest else chars
  | _ => chars

-- Blanks around a number and a sign of its own are allowed.
def wholeToBase (base : Nat) (text : String) : Except Fault Int := do
  let chars := Text.trimBoth Text.isBlank text.toList
  let digits := withoutBase base (Tag.withoutSign chars)
  let some values := digits.mapM (baseDigit? base) | throw (notWhole base text)
  if values.isEmpty then throw (notWhole base text)
  if base == 10 && digitLimit < values.length then throw (tooManyDigits values.length)
  let size := values.foldl (fun n digit => base * n + digit) 0
  return if chars.headD '+' == '-' then -(size : Int) else size

def signOf (chars : List Char) : Int :=
  if chars.headD '+' == '-' then -1 else 1

def withoutMarks (chars : List Char) : List Char :=
  chars.filter (· != '_')

-- A nought in front tells a base: two, sixteen, or else eight. Colons divide the digits to the base sixty.
def wholeNumber (chars : List Char) : Except Fault Int := do
  let chars := withoutMarks chars
  let sign := signOf chars
  let bare := Tag.withoutSign chars
  let text := String.ofList bare
  if chars.isEmpty then throw .emptyNumber
  match bare with
  | [] => throw .emptyNumber
  | ['0'] => return 0
  | '0' :: 'b' :: rest => return sign * (← wholeToBase 2 (String.ofList rest))
  | '0' :: 'x' :: rest => return sign * (← wholeToBase 16 (String.ofList rest))
  | '0' :: _ => return sign * (← wholeToBase 8 text)
  | _ =>
    if bare.contains ':' then
      let parts ← (Text.pieces ':' text).mapM (wholeToBase 10)
      return sign * parts.foldl (fun n part => 60 * n + part) 0
    else return sign * (← wholeToBase 10 text)

def real (text : String) : Except Fault Float :=
  match Decimal.read? text with
  | some value => .ok value
  | none => .error (notReal text)

-- The last part has the weight one and every other sixty times the weight of the next. The small ones are added first.
def sixtiethsFrom (weight total : Float) : List Float → Float
  | [] => total
  | part :: rest => sixtiethsFrom (weight * 60.0) (total + part * weight) rest

def realNumber (chars : List Char) : Except Fault Float := do
  let chars := (Text.lowercase (String.ofList (withoutMarks chars))).toList
  let bare := Tag.withoutSign chars
  let text := String.ofList bare
  let signed := fun x : Float => if signOf chars < 0 then -x else x
  if chars.isEmpty then throw .emptyNumber
  if text == ".inf" then return signed (1.0 / 0.0)
  if text == ".nan" then return 0.0 / 0.0
  if bare.contains ':' then
    let parts ← (Text.pieces ':' text).mapM real
    return signed (sixtiethsFrom 1.0 0.0 parts.reverse)
  return signed (← real text)

def truth (text : String) : Except Fault Bool :=
  match Tag.truths.lookup (Text.lowercase text) with
  | some value => .ok value
  | none => .error .notTruth

end Perflint.Yaml
