import Perflint.Error
import Perflint.Files
import Perflint.Severity
import Perflint.Text.Basic
import Perflint.Text.Encoding
import Perflint.Yaml.Document

namespace Perflint

-- What the caller knows of the code. Hints settle doubtful cases; they report nothing by themselves.
structure Hints where
  hotScopes : List String := []
  largeCollections : List String := []
  deriving DecidableEq, Repr, Inhabited

namespace Hints

def cleaned (names : List String) : List String :=
  ((names.map Text.strip).filter (!·.isEmpty)).eraseDups

def ofNames (hot large : List String) : Hints :=
  { hotScopes := cleaned hot, largeCollections := cleaned large }

def isHot (hints : Hints) (scope : String) : Bool :=
  !scope.isEmpty && hints.hotScopes.contains scope

-- A dotted name is also known by its last part.
def isLarge (hints : Hints) (names : List String) : Bool :=
  names.any fun name =>
    !name.isEmpty && (hints.largeCollections.contains name || hints.largeCollections.contains (Text.afterLast '.' name))

end Hints

structure Settings where
  hotFanIn : Nat := 3
  disabledRules : List String := []
  enabledRules : List String := []
  budget : Option Float := none
  isParallel : Bool := true
  minSeverity : Severity := .low
  maxFindings : Nat := 0
  deriving Inhabited

namespace Settings

def keys : List String :=
  ["hot_fan_in", "disabled_rules", "enabled_rules", "budget_s", "parallel", "min_severity", "max_findings"]

def sortedTexts (texts : List String) : List String :=
  texts.eraseDups.mergeSort (fun a b => a ≤ b)

open Yaml (Datum)

def readFanIn : Datum → Except Error Nat
  | .int value => if 1 ≤ value then .ok value.toNat else .error (.badConfig "hot_fan_in must be a positive integer")
  | _ => .error (.badConfig "hot_fan_in must be a positive integer")

def readRules (key : String) (value : Datum) : Except Error (List String) :=
  match value, value.text? with
  | .null, _ => .ok []
  | _, some id => .ok [id]
  | .list items, none =>
    match items.mapM Datum.text? with
    | some ids => .ok (sortedTexts ids)
    | none => .error (.badConfig (key ++ " must be a list of rule ids"))
  | _, none => .error (.badConfig (key ++ " must be a list of rule ids"))

def readBudget : Datum → Except Error (Option Float)
  | .null => .ok none
  | .int value =>
    if value ≤ 0 then .error (.badConfig "budget_s must be a positive number of seconds")
    else if (Float.ofInt value).isInf then .error .hugeBudget
    else .ok (some (Float.ofInt value))
  | .float value =>
    if value ≤ 0.0 then .error (.badConfig "budget_s must be a positive number of seconds") else .ok (some value)
  | _ => .error (.badConfig "budget_s must be a positive number of seconds")

def readParallel : Datum → Except Error Bool
  | .bool value => .ok value
  | _ => .error (.badConfig "parallel must be true or false")

def readSeverity (value : Datum) : Except Error Severity :=
  (Severity.named value.text? value.display).mapError .badConfig

def readMaxFindings : Datum → Except Error Nat
  | .int value =>
    if 0 ≤ value then .ok value.toNat else .error (.badConfig "max_findings must be a non-negative integer")
  | _ => .error (.badConfig "max_findings must be a non-negative integer")

def readKey (members : List (String × Datum)) (key : String) (read : Datum → Except Error α) (standing : α) :
    Except Error α :=
  match members.lookup key with
  | some value => read value
  | none => .ok standing

-- Unknown keys are told first, then the first bad value in the order of `keys`.
def ofMembers (members : List (String × Datum)) : Except Error Settings := do
  let unknown := sortedTexts ((members.map Prod.fst).filter (!keys.contains ·))
  if !unknown.isEmpty then
    throw (.badConfig ("unknown key(s): " ++ ", ".intercalate unknown))
  let base : Settings := {}
  let hotFanIn ← readKey members "hot_fan_in" readFanIn base.hotFanIn
  let disabledRules ← readKey members "disabled_rules" (readRules "disabled_rules") base.disabledRules
  let enabledRules ← readKey members "enabled_rules" (readRules "enabled_rules") base.enabledRules
  let budget ← readKey members "budget_s" readBudget base.budget
  let isParallel ← readKey members "parallel" readParallel base.isParallel
  let minSeverity ← readKey members "min_severity" readSeverity base.minSeverity
  let maxFindings ← readKey members "max_findings" readMaxFindings base.maxFindings
  return { hotFanIn, disabledRules, enabledRules, budget, isParallel, minSeverity, maxFindings }

def namedMember? (entry : Datum × Datum) : Option (String × Datum) :=
  entry.1.text?.map fun name => (name, entry.2)

def ofDatum : Datum → Except Error Settings
  | .null => .ok {}
  | .mapping entries =>
    match entries.mapM namedMember? with
    | some members => ofMembers members
    | none => .error .unnamedSetting
  | _ => .error (.badConfig "top level must be a mapping")

def ofJson (document : Json) : Except Error Settings :=
  ofDatum (.ofJson document)

def toJson (settings : Settings) : Json :=
  .obj [("hot_fan_in", .nat settings.hotFanIn), ("disabled_rules", .strs settings.disabledRules),
        ("enabled_rules", .strs settings.enabledRules), ("budget_s", .opt .float settings.budget),
        ("parallel", .bool settings.isParallel), ("min_severity", .str settings.minSeverity.label),
        ("max_findings", .nat settings.maxFindings)]

inductive OverrideFault where
  | severity (text : String)
  | unknownKey
  | unordered

-- Rules in order. A text alone counts by its letters.
def ordered : Json → Except OverrideFault Json
  | .str text => .ok (.strs ((text.toList.map Char.toString).mergeSort fun a b => a ≤ b))
  | .arr items =>
    match items.mapM Json.str? with
    | some ids => .ok (.strs (ids.mergeSort fun a b => a ≤ b))
    | none => .error .unordered
  | _ => .error .unordered

-- The settings with values in place of their own. Only severities and the order of rules are looked at.
def toJsonWith (settings : Settings) (overrides : List (String × Json)) : Except OverrideFault Json := do
  let given := overrides.filter fun (_, value) => !value.isNull
  let given ← match given.lookup "min_severity" with
    | some value => do
      let severity ← (Severity.ofJson value).mapError .severity
      pure (Json.insertMember "min_severity" (.str severity.label) given)
    | none => pure given
  if given.any fun (name, _) => !keys.contains name then throw .unknownKey
  let given ← given.mapM fun (name, value) => do
    if name == "disabled_rules" || name == "enabled_rules" then return (name, ← ordered value) else return (name, value)
  let members := (settings.toJson.members?).getD []
  return .obj (given.foldl (fun members (name, value) => Json.insertMember name value members) members)

def fileName : String := ".hotpath.yml"

def fileNames : List String := [fileName, ".hotpath.yaml"]

def upwards (place : Place) : List Place :=
  (List.range (place.length + 1)).map fun steps => place.take (place.length - steps)

def candidates (files : Files) (start : String) : List Place :=
  let place := files.resolve start
  let place := if files.isFile place then place.parent else place
  (upwards place).flatMap fun place => fileNames.map fun name => place ++ [name]

def find? (files : Files) (start : String) : Option Place :=
  (candidates files start).find? files.isFile

def ofText (path text : String) : Except Error Settings :=
  match Yaml.read text with
  | .error .malformed => .error (.badConfig (path ++ " is not valid YAML"))
  | .error fault => .error (.document fault)
  | .ok document => ofDatum document

def load (files : Files) (path : String) : Except Error Settings :=
  let path := Files.tidy path
  match files.read path with
  | .error fault => .error (.badConfig ("cannot read " ++ path ++ ": " ++ fault.text))
  | .ok bytes => ofText path (Text.decodeUtf8 bytes)

def discover (files : Files) (start : String) : Except Error Settings :=
  match find? files start with
  | some place => load files place.text
  | none => .ok {}

end Settings
end Perflint
