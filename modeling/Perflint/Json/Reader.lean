import Perflint.Decimal
import Perflint.Json.Basic

namespace Perflint.Json
open Decimal (digitsValue digitsValue? exponent? ofScientific)

inductive Token where
  | opens (brace : Bool)
  | closes (brace : Bool)
  | comma
  | colon
  | text (value : String)
  | word (value : String)
  deriving DecidableEq

-- Characters of a text read so far, last first; `high` is a leading surrogate that waits for its partner.
structure OpenText where
  chars : List Char
  high : Option Nat

inductive LexState where
  | idle
  | word (chars : List Char)
  | text (t : OpenText)
  | escape (t : OpenText)
  | unit (t : OpenText) (missing value : Nat)
  | broken

structure Lexer where
  state : LexState
  tokens : List Token

def OpenText.push (t : OpenText) (c : Char) : OpenText :=
  match t.high with
  | none => { t with chars := c :: t.chars }
  | some _ => { chars := c :: Char.ofNat 0xFFFD :: t.chars, high := none }

def OpenText.pushUnit (t : OpenText) (unit : Nat) : OpenText :=
  if 0xD800 ≤ unit && unit < 0xDC00 then
    match t.high with
    | none => { t with high := some unit }
    | some _ => { chars := Char.ofNat 0xFFFD :: t.chars, high := some unit }
  else if 0xDC00 ≤ unit && unit < 0xE000 then
    match t.high with
    | some lead =>
      { chars := Char.ofNat (0x10000 + (lead - 0xD800) * 0x400 + (unit - 0xDC00)) :: t.chars, high := none }
    | none => t.push (Char.ofNat 0xFFFD)
  else t.push (Char.ofNat unit)

def OpenText.finish (t : OpenText) : String :=
  match t.high with
  | none => String.ofList t.chars.reverse
  | some _ => String.ofList (Char.ofNat 0xFFFD :: t.chars).reverse

def hexValue? (c : Char) : Option Nat :=
  if '0' ≤ c && c ≤ '9' then some (c.toNat - '0'.toNat)
  else if 'a' ≤ c && c ≤ 'f' then some (c.toNat - 'a'.toNat + 10)
  else if 'A' ≤ c && c ≤ 'F' then some (c.toNat - 'A'.toNat + 10)
  else none

def punctuation? (c : Char) : Option Token :=
  if c == '[' then some (.opens false)
  else if c == ']' then some (.closes false)
  else if c.toNat == 0x7B then some (.opens true)
  else if c.toNat == 0x7D then some (.closes true)
  else if c == ',' then some .comma
  else if c == ':' then some .colon
  else none

def isGap (c : Char) : Bool :=
  c == ' ' || c == '\n' || c == '\r' || c == '\t'

def Lexer.start (lexer : Lexer) (c : Char) : Lexer :=
  match punctuation? c with
  | some token => { state := .idle, tokens := token :: lexer.tokens }
  | none =>
    if isGap c then { lexer with state := .idle }
    else if c == '"' then { lexer with state := .text { chars := [], high := none } }
    else { lexer with state := .word [c] }

def escaped? (c : Char) : Option Char :=
  [('"', '"'), ('\\', '\\'), ('/', '/'), ('b', Char.ofNat 8), ('f', Char.ofNat 12), ('n', '\n'), ('r', '\r'),
   ('t', '\t')].lookup c

def Lexer.feed (lexer : Lexer) (c : Char) : Lexer :=
  match lexer.state with
  | .idle => lexer.start c
  | .word chars =>
    if isGap c || c == '"' || (punctuation? c).isSome then
      { lexer with tokens := .word (String.ofList chars.reverse) :: lexer.tokens }.start c
    else { lexer with state := .word (c :: chars) }
  | .text t =>
    if c == '"' then { state := .idle, tokens := .text t.finish :: lexer.tokens }
    else if c == '\\' then { lexer with state := .escape t }
    else if c.toNat < 32 then { lexer with state := .broken }
    else { lexer with state := .text (t.push c) }
  | .escape t =>
    if c == 'u' then { lexer with state := .unit t 4 0 }
    else match escaped? c with
      | some plain => { lexer with state := .text (t.push plain) }
      | none => { lexer with state := .broken }
  | .unit t missing value =>
    match hexValue? c with
    | none => { lexer with state := .broken }
    | some digit =>
      let value := value * 16 + digit
      if missing ≤ 1 then { lexer with state := .text (t.pushUnit value) }
      else { lexer with state := .unit t (missing - 1) value }
  | .broken => lexer

def tokens? (chars : List Char) : Option (List Token) :=
  let lexer := chars.foldl Lexer.feed { state := .idle, tokens := [] }
  match lexer.state with
  | .idle => some lexer.tokens.reverse
  | .word word => some (.word (String.ofList word.reverse) :: lexer.tokens).reverse
  | _ => none

-- A number with a fraction or an exponent is a double; any other is whole.
def decimal? (negative : Bool) (chars : List Char) : Option Json :=
  let isMark := fun c : Char => c == 'e' || c == 'E'
  let mantissa := chars.takeWhile (!isMark ·)
  let exponentPart := chars.dropWhile (!isMark ·)
  let whole := mantissa.takeWhile (· != '.')
  let fractionPart := mantissa.dropWhile (· != '.')
  let fraction? : Option (List Char) := match fractionPart with
    | [] => some []
    | _ :: digits => (digitsValue? digits).map fun _ => digits
  match digitsValue? whole, fraction?, exponent? exponentPart with
  | some _, some fraction, some exponent =>
    if exponentPart.isEmpty && fractionPart.isEmpty then
      some (.int (if negative then -(digitsValue whole : Int) else digitsValue whole))
    else
      let size := ofScientific (digitsValue (whole ++ fraction)) (exponent - fraction.length)
      some (.float (if negative then -size else size))
  | _, _, _ => none

def number? (word : String) : Option Json :=
  match word.toList with
  | '-' :: rest => decimal? true rest
  | chars => decimal? false chars

def word? (word : String) : Option Json :=
  if word == "null" then some .null
  else if word == "true" then some (.bool true)
  else if word == "false" then some (.bool false)
  else number? word

-- A container that is still open; its parts are kept last first.
inductive Frame where
  | arr (items : List Json)
  | obj (members : List (String × Json)) (name : String)

inductive Expect where
  | value
  | firstItem
  | firstName
  | name
  | colon
  | more
  | finish (document : Json)

structure Builder where
  stack : List Frame
  expect : Expect

def Builder.deliver (stack : List Frame) (value : Json) : Builder :=
  match stack with
  | [] => { stack := [], expect := .finish value }
  | .arr items :: rest => { stack := .arr (value :: items) :: rest, expect := .more }
  | .obj members name :: rest =>
    { stack := .obj (insertMember name value members) name :: rest, expect := .more }

def Builder.close? (stack : List Frame) (brace : Bool) : Option Builder :=
  match stack, brace with
  | .arr items :: rest, false => some (.deliver rest (.arr items.reverse))
  | .obj members _ :: rest, true => some (.deliver rest (.obj members))
  | _, _ => none

def Builder.rename (stack : List Frame) (name : String) : List Frame :=
  match stack with
  | .obj members _ :: rest => .obj members name :: rest
  | other => other

def Builder.value? (stack : List Frame) : Token → Option Builder
  | .opens false => some { stack := .arr [] :: stack, expect := .firstItem }
  | .opens true => some { stack := .obj [] "" :: stack, expect := .firstName }
  | .text value => some (.deliver stack (.str value))
  | .word word => (word? word).map (.deliver stack)
  | _ => none

def Builder.step (builder : Builder) (token : Token) : Option Builder :=
  match builder.expect, token with
  | .firstItem, .closes brace => Builder.close? builder.stack brace
  | .firstItem, token => Builder.value? builder.stack token
  | .value, token => Builder.value? builder.stack token
  | .firstName, .closes brace => Builder.close? builder.stack brace
  | .firstName, .text name => some { stack := Builder.rename builder.stack name, expect := .colon }
  | .name, .text name => some { stack := Builder.rename builder.stack name, expect := .colon }
  | .colon, .colon => some { builder with expect := .value }
  | .more, .closes brace => Builder.close? builder.stack brace
  | .more, .comma =>
    match builder.stack with
    | .arr _ :: _ => some { builder with expect := .value }
    | .obj .. :: _ => some { builder with expect := .name }
    | [] => none
  | _, _ => none

def read? (text : String) : Option Json := do
  let tokens ← tokens? text.toList
  let builder ← tokens.foldlM Builder.step { stack := [], expect := .value }
  match builder.expect with
  | .finish document => some document
  | _ => none

end Perflint.Json
