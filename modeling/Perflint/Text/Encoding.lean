namespace Perflint.Text

def replacementChar : Char := Char.ofNat 0xFFFD

structure PartialChar where
  missing : Nat
  lower : Nat
  upper : Nat
  bits : Nat

inductive FirstByte where
  | whole (c : Char)
  | opens (p : PartialChar)
  | invalid

-- The narrowed bounds after E0, ED, F0 and F4 keep out overlong forms, surrogates and points past the last.
def firstByte (byte : UInt8) : FirstByte :=
  let b := byte.toNat
  if b < 0x80 then .whole (Char.ofNat b)
  else if b < 0xC2 then .invalid
  else if b < 0xE0 then .opens { missing := 1, lower := 0x80, upper := 0xBF, bits := b - 0xC0 }
  else if b == 0xE0 then .opens { missing := 2, lower := 0xA0, upper := 0xBF, bits := 0 }
  else if b == 0xED then .opens { missing := 2, lower := 0x80, upper := 0x9F, bits := 0xD }
  else if b < 0xF0 then .opens { missing := 2, lower := 0x80, upper := 0xBF, bits := b - 0xE0 }
  else if b == 0xF0 then .opens { missing := 3, lower := 0x90, upper := 0xBF, bits := 0 }
  else if b < 0xF4 then .opens { missing := 3, lower := 0x80, upper := 0xBF, bits := b - 0xF0 }
  else if b == 0xF4 then .opens { missing := 3, lower := 0x80, upper := 0x8F, bits := 4 }
  else .invalid

def PartialChar.accepts (p : PartialChar) (byte : UInt8) : Bool :=
  p.lower ≤ byte.toNat && byte.toNat ≤ p.upper

def PartialChar.push (p : PartialChar) (byte : UInt8) : PartialChar :=
  { missing := p.missing - 1, lower := 0x80, upper := 0xBF, bits := p.bits * 64 + (byte.toNat - 0x80) }

-- A byte that cannot continue the open character ends it as one replacement and is then read afresh.
def decodeFrom : Option PartialChar → List UInt8 → List Char
  | none, [] => []
  | some _, [] => [replacementChar]
  | none, byte :: rest =>
    match firstByte byte with
    | .whole c => c :: decodeFrom none rest
    | .opens p => decodeFrom (some p) rest
    | .invalid => replacementChar :: decodeFrom none rest
  | some p, byte :: rest =>
    if p.accepts byte then
      if p.missing ≤ 1 then Char.ofNat (p.push byte).bits :: decodeFrom none rest
      else decodeFrom (some (p.push byte)) rest
    else
      replacementChar ::
        match firstByte byte with
        | .whole c => c :: decodeFrom none rest
        | .opens q => decodeFrom (some q) rest
        | .invalid => replacementChar :: decodeFrom none rest

def decodeUtf8 (bytes : List UInt8) : String :=
  String.ofList (decodeFrom none bytes)

def encodeUtf8 (text : String) : List UInt8 :=
  text.toList.flatMap String.utf8EncodeChar

def base64Value? (c : Char) : Option Nat :=
  if 'A' ≤ c && c ≤ 'Z' then some (c.toNat - 65)
  else if 'a' ≤ c && c ≤ 'z' then some (c.toNat - 97 + 26)
  else if '0' ≤ c && c ≤ '9' then some (c.toNat - 48 + 52)
  else if c == '+' then some 62
  else if c == '/' then some 63
  else none

def base64From (bits count : Nat) : List Nat → List UInt8
  | [] => []
  | v :: rest =>
    let bits := bits * 64 + v
    let count := count + 6
    if count ≥ 8 then
      UInt8.ofNat (bits / Nat.pow 2 (count - 8)) :: base64From (bits % Nat.pow 2 (count - 8)) (count - 8) rest
    else base64From bits count rest

def decodeBase64 (text : String) : List UInt8 :=
  base64From 0 0 (text.toList.filterMap base64Value?)

-- The letters up to a full padding, if they are a whole number of groups of four with it. Other characters are skipped.
-- `place` is how many letters of a group have been read, and `pads` how many marks of padding stand behind them.
def paddedLetters? (letters : List Nat) (place pads : Nat) : List Char → Option (List Nat)
  | [] => if place == 0 then some letters.reverse else none
  | c :: rest =>
    if c == '=' then
      if 2 ≤ place && 4 ≤ place + pads + 1 then some letters.reverse
      else paddedLetters? letters place (if 2 ≤ place then pads + 1 else pads) rest
    else
      match base64Value? c with
      | some value => paddedLetters? (value :: letters) ((place + 1) % 4) 0 rest
      | none => paddedLetters? letters place pads rest

def paddedBase64? (chars : List Char) : Option (List UInt8) :=
  (paddedLetters? [] 0 0 chars).map (base64From 0 0)

end Perflint.Text
