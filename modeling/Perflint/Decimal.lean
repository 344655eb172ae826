import Perflint.Text.Basic

namespace Perflint.Decimal

structure Binary where
  negative : Bool
  mantissa : Nat
  exponent : Int
  -- The next smaller double is only half as far away as the next larger one.
  narrowBelow : Bool

def isNegative (x : Float) : Bool :=
  x.toBits >>> 63 == 1

def Binary.ofFloat? (x : Float) : Option Binary :=
  let bits := x.toBits.toNat
  let fraction : Nat := bits % Nat.pow 2 52
  let field : Nat := bits / Nat.pow 2 52 % Nat.pow 2 11
  if field == 2047 then none
  else if field == 0 then
    some { negative := isNegative x, mantissa := fraction, exponent := -1074, narrowBelow := false }
  else
    some { negative := isNegative x, mantissa := fraction + Nat.pow 2 52, exponent := (field : Int) - 1075,
           narrowBelow := fraction == 0 && field > 1 }

-- The nearest whole quotient; a half goes to the even neighbour.
def roundDiv (num den : Nat) : Nat :=
  let whole := num / den
  let rest := num % den
  if 2 * rest < den then whole
  else if den < 2 * rest then whole + 1
  else if whole % 2 == 0 then whole else whole + 1

def Binary.units (b : Binary) (places : Nat) : Nat :=
  roundDiv (b.mantissa * Nat.pow 2 b.exponent.toNat * Nat.pow 10 places) (Nat.pow 2 (-b.exponent).toNat)

def fixedText (places : Nat) (x : Float) : String :=
  match Binary.ofFloat? x with
  | none => if x.isNaN then "nan" else if isNegative x then "-inf" else "inf"
  | some b =>
    let units := b.units places
    let fraction := Nat.toDigits 10 (units % Nat.pow 10 places)
    (if b.negative then "-" else "") ++ toString (units / Nat.pow 10 places) ++ "." ++
      String.ofList (List.replicate (places - fraction.length) '0' ++ fraction)

def roundTo (places : Nat) (x : Float) : Float :=
  match Binary.ofFloat? x with
  | none => x
  | some b =>
    let rounded := Float.ofScientific (b.units places) true places
    if b.negative then -rounded else rounded

structure Scientific where
  digits : Nat
  exponent : Int
  deriving DecidableEq, Repr

-- A decimal grid laid over a double: all four are in the same unit, and `step` is one grid point.
structure Grid where
  step : Nat
  value : Nat
  low : Nat
  high : Nat
  closed : Bool

-- The grid of the multiples of ten to the power `exponent`. Quarters of a unit in the last place keep
-- the borders of the interval whole.
def Binary.grid (b : Binary) (exponent : Int) : Grid :=
  let up := Nat.pow 2 (b.exponent - 2).toNat * Nat.pow 10 (-exponent).toNat
  let down := Nat.pow 2 (2 - b.exponent).toNat * Nat.pow 10 exponent.toNat
  { step := down, value := 4 * b.mantissa * up,
    low := (4 * b.mantissa - (if b.narrowBelow then 1 else 2)) * up,
    high := (4 * b.mantissa + 2) * up,
    closed := b.mantissa % 2 == 0 }

def Grid.readsBack (g : Grid) (point : Nat) : Bool :=
  if g.closed then g.low ≤ point * g.step && point * g.step ≤ g.high
  else g.low < point * g.step && point * g.step < g.high

def Grid.nearest? (g : Grid) : Option Nat :=
  let below := g.value / g.step
  let above := below + 1
  match g.readsBack below, g.readsBack above with
  | false, false => none
  | true, false => some below
  | false, true => some above
  | true, true =>
    let left := g.value - below * g.step
    let right := above * g.step - g.value
    if left < right then some below
    else if right < left then some above
    else if below % 2 == 0 then some below else some above

def Binary.place (b : Binary) : Int :=
  let num := b.mantissa * Nat.pow 2 b.exponent.toNat
  let den := Nat.pow 2 (-b.exponent).toNat
  if den ≤ num then (Nat.toDigits 10 (num / den)).length
  else
    match (List.range 400).find? (fun zeros => den ≤ num * Nat.pow 10 (zeros + 1)) with
    | some zeros => -(zeros : Int)
    | none => 0

def Binary.shortest (b : Binary) : Scientific :=
  if b.mantissa == 0 then { digits := 0, exponent := 0 }
  else
    let place := b.place
    let found := (List.range 17).findSome? fun n =>
      let exponent := place - (n + 1 : Nat)
      (b.grid exponent).nearest?.map fun digits => { digits, exponent : Scientific }
    found.getD { digits := 0, exponent := 0 }

open Text

-- How a double is written: positionally while the point lies between `leastPlace` and `greatestPlace`,
-- with a mantissa and an exponent of at least `exponentDigits` digits beyond.
structure FloatFormat where
  leastPlace : Int
  greatestPlace : Int
  exponentDigits : Nat
  notANumber : String
  infinity : String

def plainFloat : FloatFormat :=
  { leastPlace := -3, greatestPlace := 16, exponentDigits := 2, notANumber := "nan", infinity := "inf" }

def documentFloat : FloatFormat :=
  { plainFloat with notANumber := "NaN", infinity := "Infinity" }

def positionalText (digits : List Char) (place : Int) : String :=
  if place ≤ 0 then "0." ++ String.ofList (List.replicate (-place).toNat '0' ++ digits)
  else
    let whole := digits.take place.toNat
    let padding := List.replicate (place.toNat - digits.length) '0'
    let fraction := digits.drop place.toNat
    String.ofList (whole ++ padding) ++ "." ++ (if fraction.isEmpty then "0" else String.ofList fraction)

def exponentText (format : FloatFormat) (digits : List Char) (place : Int) : String :=
  let exponent := place - 1
  let size := Nat.toDigits 10 exponent.natAbs
  let mantissa := match digits with
    | [] => "0"
    | [d] => String.singleton d
    | d :: rest => String.singleton d ++ "." ++ String.ofList rest
  mantissa ++ "e" ++ (if exponent < 0 then "-" else "+") ++
    String.ofList (List.replicate (format.exponentDigits - size.length) '0' ++ size)

def FloatFormat.write (format : FloatFormat) (x : Float) : String :=
  match Binary.ofFloat? x with
  | none =>
    if x.isNaN then format.notANumber
    else if isNegative x then "-" ++ format.infinity else format.infinity
  | some b =>
    let sign := if b.negative then "-" else ""
    if b.mantissa == 0 then sign ++ "0.0"
    else
      let shortest := b.shortest
      let all := Nat.toDigits 10 shortest.digits
      let place := all.length + shortest.exponent
      -- The nearest grid point of a value just below a power of ten is that power.
      let digits := dropEndWhile (· == '0') all
      sign ++ if format.leastPlace ≤ place && place ≤ format.greatestPlace
        then positionalText digits place
        else exponentText format digits place

def digitsValue (digits : List Char) : Nat :=
  digits.foldl (fun n c => n * 10 + (c.toNat - '0'.toNat)) 0

def digitsValue? (digits : List Char) : Option Nat :=
  if digits.isEmpty || !digits.all Char.isDigit then none else some (digitsValue digits)

def ofScientific (mantissa : Nat) (exponent : Int) : Float :=
  if mantissa == 0 then 0.0
  else
    let place := exponent + (Nat.toDigits 10 mantissa).length
    if 310 < place then 1.0 / 0.0
    else if place < -330 then 0.0
    else Float.ofScientific mantissa (exponent < 0) exponent.natAbs

def withoutGroupMarks? : Bool → List Char → Option (List Char)
  | _, [] => some []
  | afterDigit, '_' :: c :: rest =>
    if afterDigit && c.isDigit then (withoutGroupMarks? true rest).map (c :: ·) else none
  | _, ['_'] => none
  | _, c :: rest => (withoutGroupMarks? c.isDigit rest).map (c :: ·)

def exponent? : List Char → Option Int
  | [] => some 0
  | _ :: '-' :: digits => (digitsValue? digits).map fun n => -(n : Int)
  | _ :: '+' :: digits => (digitsValue? digits).map fun n => (n : Int)
  | _ :: digits => (digitsValue? digits).map fun n => (n : Int)

def unsigned? (chars : List Char) : Option Float := do
  let isMark := fun c : Char => c == 'e' || c == 'E'
  let mantissa := chars.takeWhile (!isMark ·)
  let whole := mantissa.takeWhile (· != '.')
  let fraction := (mantissa.dropWhile (· != '.')).drop 1
  let value ← digitsValue? (whole ++ fraction)
  let exponent ← exponent? (chars.dropWhile (!isMark ·))
  return ofScientific value (exponent - fraction.length)

def magnitude? (chars : List Char) : Option Float :=
  let word := String.ofList (chars.map Char.toLower)
  if word == "inf" || word == "infinity" then some (1.0 / 0.0)
  else if word == "nan" then some (0.0 / 0.0)
  else (withoutGroupMarks? false chars).bind unsigned?

def read? (text : String) : Option Float :=
  match Text.plainDigits (Text.trimBoth Text.isBlank text.toList) with
  | '-' :: rest => (magnitude? rest).map fun x => -x
  | '+' :: rest => magnitude? rest
  | chars => magnitude? chars

end Perflint.Decimal
