import Perflint.Error

namespace Perflint

-- How much work may still be started. The work asks before each unit of it.
inductive Budget where
  | unlimited
  | checks (left : Nat)
  deriving DecidableEq, Repr, Inhabited

namespace Budget

def spend? : Budget → Option Budget
  | .unlimited => some .unlimited
  | .checks 0 => none
  | .checks (left + 1) => some (.checks left)

def after : Budget → Nat → Budget
  | .unlimited, _ => .unlimited
  | .checks left, units => .checks (left - units)

def afford : Budget → List α → List α × Bool
  | .unlimited, units => (units, true)
  | .checks left, units => (units.take left, units.length ≤ left)

end Budget

structure Deadline where
  started : Float
  limit : Option Float

namespace Deadline

def start (now : Float) (seconds : Option Float) : Deadline :=
  { started := now, limit := seconds.map fun seconds => now + (if seconds > 0.0 then seconds else 0.0) }

def elapsed (deadline : Deadline) (now : Float) : Float :=
  now - deadline.started

def isOver (deadline : Deadline) (now : Float) : Bool :=
  match deadline.limit with
  | some limit => now > limit
  | none => false

def check (deadline : Deadline) (stage : String) (now later : Float) : Except Error Unit :=
  if deadline.isOver now then .error (.timeout stage (deadline.elapsed later)) else .ok ()

-- The checks that pass while a clock gives these readings, one for each check.
def budget (deadline : Deadline) (readings : List Float) : Budget :=
  match readings.findIdx? deadline.isOver with
  | some left => .checks left
  | none => .unlimited

end Deadline

-- The work that each of the two stages may start. They run side by side, so neither lives on what the other leaves.
structure Allowance where
  rules : Budget := .unlimited
  costs : Budget := .unlimited
  deriving DecidableEq, Repr, Inhabited

-- For want of a clock, a time that is over at once starts nothing, and any other suffices.
def Allowance.ofSeconds (seconds : Float) : Allowance :=
  if seconds > 0 then {} else { rules := .checks 0, costs := .checks 0 }

structure Clock where
  start : Float
  rules : List Float
  costs : List Float

def Clock.allowance (clock : Clock) (seconds : Float) : Allowance :=
  let deadline := Deadline.start clock.start (some seconds)
  { rules := deadline.budget clock.rules, costs := deadline.budget clock.costs }

end Perflint
