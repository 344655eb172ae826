import Perflint.Calendar
import Perflint.CommandLine.Run
import Perflint.Json.Reader
import Perflint.Text.Basic
import Perflint.Tree
import Std.Time.DateTime.Timestamp

namespace Perflint.CommandLine

def twoDigits (n : Nat) : String :=
  (if n < 10 then "0" else "") ++ toString n

def timestamp (seconds : Nat) : String :=
  let day := Calendar.dayOfCount (seconds / 86400)
  let rest := seconds % 86400
  toString day.year ++ "-" ++ twoDigits day.month ++ "-" ++ twoDigits day.day ++ "T" ++
    twoDigits (rest / 3600) ++ ":" ++ twoDigits (rest / 60 % 60) ++ ":" ++ twoDigits (rest % 60) ++ "Z"

def directoryCode : UInt32 := 21

def entryOnDisk (place : Place) : IO (Option Entry) := do
  try
    return some (.file (← IO.FS.readBinFile place.text).toList)
  catch
    | .inappropriateType _ code _ => return if code == directoryCode then some .directory else none
    | _ => return none

def withPlace (files : Files) (place : Place) : IO Files := do
  match ← entryOnDisk place with
  | some entry => return { files with entries := (place, entry) :: files.entries }
  | none => return files

def filesFor (base : Place) (invocation : Invocation) : IO Files := do
  let named ← (invocation.paths.map ({ base : Files }.resolve ·)).foldlM withPlace { base }
  match invocation.paths with
  | [] => return named
  | path :: _ => (Settings.candidates named path).foldlM withPlace named

def workingPlace : IO Place := do
  let path := (← IO.getEnv "PWD").getD "/"
  return { base := [] : Files }.resolve path

-- The rows of the syntax tree come from the standard input.
def treeOnInput : IO (Option Tree) := do
  let text ← (← IO.getStdin).readToEnd
  return (Json.read? text).bind Tree.ofJson?

def world (invocation : Invocation) : IO Surroundings := do
  let files ← filesFor (← workingPlace) invocation
  let tree ← match invocation.command with
    | .analyze _ => treeOnInput
    | _ => pure none
  let now ← Std.Time.Timestamp.now
  return { files, tree, timestamp := timestamp now.toSecondsSinceUnixEpoch.val.toNat }

-- An analysis is timed before it is written.
def performAnalyze (world : Surroundings) (invocation : Invocation) (options : AnalyzeOptions) : IO Outcome := do
  let started ← IO.monoMsNow
  match options.analyzed world with
  | .error outcome => return outcome
  | .ok analyzed =>
    let finished ← IO.monoMsNow
    return analyzed.outcome { world with elapsed := .float (Float.ofNat (finished - started)) } invocation options

def perform (args : List String) : IO Outcome := do
  match Invocation.ofWords args with
  | .error error => return { ending := .usage error }
  | .ok invocation =>
    let world ← world invocation
    match invocation.check world.files, invocation.command with
    | .ok _, .analyze options => performAnalyze world invocation options
    | _, _ => return invocation.run world

end Perflint.CommandLine

def main (args : List String) : IO UInt32 := do
  let outcome ← Perflint.CommandLine.perform args
  IO.print outcome.stdout
  IO.eprint outcome.stderr
  return UInt32.ofNat outcome.exitCode.toNat
