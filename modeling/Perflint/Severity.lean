import Perflint.Json.Basic
import Perflint.Text.Basic

namespace Perflint

inductive Severity where
  | low
  | medium
  | high
  | critical
  deriving DecidableEq, Repr, Inhabited

namespace Severity

def all : List Severity := [.low, .medium, .high, .critical]

def level : Severity → Nat
  | .low => 1
  | .medium => 2
  | .high => 3
  | .critical => 4

def label : Severity → String
  | .low => "Low"
  | .medium => "Medium"
  | .high => "High"
  | .critical => "Critical"

-- Levels outside the scale count as its nearest end.
def ofLevel (level : Int) : Severity :=
  if level ≤ 1 then .low
  else if level == 2 then .medium
  else if level == 3 then .high
  else .critical

instance : LE Severity := ⟨fun a b => a.level ≤ b.level⟩
instance (a b : Severity) : Decidable (a ≤ b) := inferInstanceAs (Decidable (a.level ≤ b.level))

instance : Max Severity := ⟨fun a b => if a.level ≤ b.level then b else a⟩

-- Capital letters of the labels; the dotless i has the same capital as the dotted one.
def capital (c : Char) : Char :=
  if c == 'ı' then 'I' else c.toUpper

def ofText? (text : String) : Option Severity :=
  let wanted := (Text.strip text).map capital
  all.find? fun severity => severity.label.map Char.toUpper == wanted

def unknownText (shown : String) : String :=
  "unknown severity " ++ shown ++ " (expected one of: " ++ ", ".intercalate (all.map label) ++ ")"

def named (text? : Option String) (shown : String) : Except String Severity :=
  match text?.bind ofText? with
  | some severity => .ok severity
  | none => .error (unknownText shown)

def ofJson (value : Json) : Except String Severity :=
  named value.str? value.display

end Severity

def modifierWeight (modifier : String) : Int :=
  if modifier == "hot_scope" || modifier == "large_input" then 1
  else if modifier == "match_call" || modifier == "weak_origin" then -1
  else 0

def Severity.resolve (base : Severity) (modifiers : List String) : Severity :=
  .ofLevel (base.level + (modifiers.map modifierWeight).foldl (· + ·) 0)

end Perflint
