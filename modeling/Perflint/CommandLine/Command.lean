import Perflint.Decimal
import Perflint.Files
import Perflint.Severity
import Perflint.Text.Basic

namespace Perflint.CommandLine

inductive UsageError where
  | unknownOption (name : String)
  | missingValue (name : String)
  | unwantedValue (name : String)
  | missingCommand
  | unknownCommand (name : String)
  | missingPath
  | extraArgument (word : String)
  | badValue (name value : String)
  | badPath (path : String)

def UsageError.message : UsageError → String
  | .unknownOption name => "No such option: " ++ name
  | .missingValue name => "Option '" ++ name ++ "' requires an argument."
  | .unwantedValue name => "Option '" ++ name ++ "' does not take a value."
  | .missingCommand => "Missing command."
  | .unknownCommand name => "No such command '" ++ name ++ "'."
  | .missingPath => "Missing argument 'PATH'."
  | .extraArgument word => "Got unexpected extra argument (" ++ word ++ ")"
  | .badValue name value => "Invalid value for '" ++ name ++ "': '" ++ value ++ "'"
  | .badPath path => "Path '" ++ path ++ "' is not a file that can be read."

structure Switch where
  name : String
  letter : Option Char := none
  hasValue : Bool := false

abbrev Given := String × String

inductive Word where
  | argument
  | ending
  -- Options, the last of which may still wait for its value.
  | options (given : List Given) (waiting : Option String)

-- Letters after a single dash. The first one that takes a value takes the rest of the word, or else the next word.
def letters (switches : List Switch) : List Char → Except UsageError (List Given × Option String)
  | [] => .ok ([], none)
  | c :: rest =>
    match switches.find? (·.letter == some c) with
    | none => .error (.unknownOption ("-" ++ c.toString))
    | some switch =>
      if !switch.hasValue then
        (letters switches rest).map fun (given, waiting) => ((switch.name, "") :: given, waiting)
      else if rest.isEmpty then .ok ([], some switch.name)
      else .ok ([(switch.name, String.ofList rest)], none)

def longName (switches : List Switch) (word : String) : Except UsageError (List Given × Option String) :=
  let name := Text.beforeFirst '=' word
  match switches.find? (·.name == name), Text.afterFirst? '=' word with
  | none, _ => .error (.unknownOption name)
  | some switch, some value =>
    if switch.hasValue then .ok ([(name, value)], none) else .error (.unwantedValue name)
  | some switch, none => if switch.hasValue then .ok ([], some name) else .ok ([(name, "")], none)

def classify (switches : List Switch) (word : String) : Except UsageError Word :=
  match word.toList with
  | ['-', '-'] => .ok .ending
  | '-' :: '-' :: _ => (longName switches word).map fun (given, waiting) => .options given waiting
  | '-' :: c :: rest => (letters switches (c :: rest)).map fun (given, waiting) => .options given waiting
  | _ => .ok .argument

structure Words where
  options : List Given := []
  arguments : List String := []

namespace Words

-- Options and arguments apart. With `inFront` options stand before the first argument only.
def scan (switches : List Switch) (inFront : Bool) : List String → Except UsageError Words
  | [] => .ok {}
  | word :: rest =>
    match classify switches word with
    | .error e => .error e
    | .ok .ending => .ok { arguments := rest }
    | .ok .argument =>
      if inFront then .ok { arguments := word :: rest }
      else (scan switches inFront rest).map fun words => { words with arguments := word :: words.arguments }
    | .ok (.options given none) =>
      (scan switches inFront rest).map fun words => { words with options := given ++ words.options }
    | .ok (.options given (some name)) =>
      match rest with
      | [] => .error (.missingValue name)
      | value :: rest =>
        (scan switches inFront rest).map fun words => { words with options := given ++ (name, value) :: words.options }

def isGiven (words : Words) (name : String) : Bool :=
  words.options.any (·.1 == name)

def values (words : Words) (name : String) : List String :=
  (words.options.filter (·.1 == name)).map Prod.snd

def value? (words : Words) (name : String) : Option String :=
  (words.values name).getLast?

def read? (words : Words) (name : String) (read : String → Option α) : Except UsageError (Option α) :=
  match words.value? name with
  | none => .ok none
  | some value =>
    match read value with
    | some result => .ok (some result)
    | none => .error (.badValue name value)

end Words

structure AnalyzeOptions where
  path : String
  language : Option String := none
  hotScopes : List String := []
  largeCollections : List String := []
  seconds : Option Float := none
  minSeverity : Option Severity := none
  gate : Option Severity := none
  settingsPath : Option String := none
  suggest : Bool := true
  isVerbose : Bool := false

inductive Command where
  | analyze (options : AnalyzeOptions)
  | rules (language : Option String)
  | help
  | version

structure Invocation where
  wantsJson : Bool := false
  wantsSarif : Bool := false
  command : Command

def commonSwitches : List Switch :=
  [{ name := "--json" }, { name := "--sarif" }, { name := "--version" }, { name := "--help" }]

def analyzeSwitches : List Switch :=
  [{ name := "--language", letter := some 'l', hasValue := true }, { name := "--hot", hasValue := true },
   { name := "--large", hasValue := true }, { name := "--budget", hasValue := true },
   { name := "--min-severity", hasValue := true }, { name := "--fail-on", hasValue := true },
   { name := "--config", hasValue := true }, { name := "--no-suggestions" },
   { name := "--verbose", letter := some 'v' }, { name := "--help" }]

def rulesSwitches : List Switch :=
  [{ name := "--language", letter := some 'l', hasValue := true }, { name := "--help" }]

def severity? (text : String) : Option Severity :=
  Severity.all.find? fun severity => severity.label.map Char.toLower == text.map Char.toLower

def analyzeCommand (words : Words) : Except UsageError Command := do
  if words.isGiven "--help" then return .help
  let seconds ← words.read? "--budget" Decimal.read?
  let minSeverity ← words.read? "--min-severity" severity?
  let gate ← words.read? "--fail-on" severity?
  match words.arguments with
  | [] => throw .missingPath
  | [path] =>
    return .analyze
      { path, seconds, minSeverity, gate, language := words.value? "--language"
        hotScopes := words.values "--hot", largeCollections := words.values "--large"
        settingsPath := words.value? "--config", suggest := !words.isGiven "--no-suggestions"
        isVerbose := words.isGiven "--verbose" }
  | _ :: extra :: _ => throw (.extraArgument extra)

def rulesCommand (words : Words) : Except UsageError Command := do
  if words.isGiven "--help" then return .help
  match words.arguments with
  | [] => return .rules (words.value? "--language")
  | extra :: _ => throw (.extraArgument extra)

def commandOf (name : String) (rest : List String) : Except UsageError Command := do
  match name with
  | "analyze" => analyzeCommand (← Words.scan analyzeSwitches false rest)
  | "rules" => rulesCommand (← Words.scan rulesSwitches false rest)
  | _ => throw (.unknownCommand name)

namespace Invocation

def ofWords (args : List String) : Except UsageError Invocation := do
  let words ← Words.scan commonSwitches true args
  if words.isGiven "--help" then return { command := .help }
  if words.isGiven "--version" then return { command := .version }
  match words.arguments with
  | [] => throw .missingCommand
  | name :: rest =>
    return { wantsJson := words.isGiven "--json", wantsSarif := words.isGiven "--sarif"
             command := ← commandOf name rest }

def paths (invocation : Invocation) : List String :=
  match invocation.command with
  | .analyze options => options.path :: options.settingsPath.toList
  | _ => []

def check (files : Files) (invocation : Invocation) : Except UsageError Unit :=
  match invocation.paths.find? (!files.holdsFile ·) with
  | some path => .error (.badPath path)
  | none => .ok ()

end Invocation
end Perflint.CommandLine
