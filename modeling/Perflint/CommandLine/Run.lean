import Perflint.Analysis
import Perflint.CommandLine.Command
import Perflint.Report.Basic
import Perflint.Report.Text
import Perflint.Report.Sarif
import Perflint.Settings

namespace Perflint.CommandLine

-- What a run takes from the world: the files, the syntax tree of the analyzed one, and the time.
structure Surroundings where
  files : Files
  tree : Option Tree := none
  timestamp : String
  elapsed : Json := .null
  pace : Float → Allowance := .ofSeconds

inductive Ending where
  | success
  | usage (error : UsageError)
  | failed (error : Error)
  | cutShort

structure Outcome where
  output : List String := []
  notes : List String := []
  ending : Ending := .success
  parsers : List String := []

namespace Ending

def exitCode : Ending → Int
  | .success => Error.exitSuccess
  | .usage _ => Error.exitUsage
  | .failed error => error.exitCode
  | .cutShort => Error.exitPartial

def message? : Ending → Option String
  | .success => none
  | .usage error => some error.message
  | .failed error => some error.message
  | .cutShort => some "time budget exceeded; results are partial"

end Ending

def terminated (lines : List String) : String :=
  String.join (lines.map (· ++ "\n"))

def usageLine : String := "Usage: hotpath [--json] [--sarif] (analyze [OPTIONS] PATH | rules [OPTIONS])"

def optionText (switch : Switch) : String :=
  "  " ++ (match switch.letter with
    | some letter => "-" ++ letter.toString ++ ", "
    | none => "") ++ switch.name ++ (if switch.hasValue then " VALUE" else "")

def helpText : String :=
  Text.joined "\n" (usageLine :: "" :: "analyze" :: analyzeSwitches.map optionText ++
    "" :: "rules" :: rulesSwitches.map optionText)

namespace Outcome

def exitCode (outcome : Outcome) : Int :=
  outcome.ending.exitCode

def stdout (outcome : Outcome) : String :=
  terminated outcome.output

def stderr (outcome : Outcome) : String :=
  let usage := match outcome.ending with
    | .usage _ => [usageLine, ""]
    | _ => []
  terminated (outcome.notes ++ usage ++ (outcome.ending.message?.map ("Error: " ++ ·)).toList)

end Outcome

namespace AnalyzeOptions

def note (options : AnalyzeOptions) (origin text : String) : List String :=
  if options.isVerbose then [origin ++ ": " ++ text] else []

def settingsNote (options : AnalyzeOptions) (text : String) : List String :=
  options.note "hotpath.config" text

def runNote (options : AnalyzeOptions) (text : String) : List String :=
  options.note "hotpath.commands.cmd_analyze" text

def settingsFile? (options : AnalyzeOptions) (files : Files) : Option String :=
  match options.settingsPath with
  | some path => some (Files.tidy path)
  | none => (Settings.find? files options.path).map Place.text

def settings (options : AnalyzeOptions) (files : Files) : Except Error (Settings × List String) := do
  let adjusted := fun settings : Settings =>
    { settings with minSeverity := options.minSeverity.getD settings.minSeverity }
  match options.settingsFile? files with
  | some path =>
    let settings ← Settings.load files path
    return (adjusted settings, options.settingsNote ("loaded config from " ++ path))
  | none =>
    let notes := options.settingsNote
      ("no " ++ Settings.fileName ++ " found above " ++ options.path ++ "; using defaults")
    return (adjusted {}, notes)

def request (options : AnalyzeOptions) (world : Surroundings) (tag : String) (settings : Settings)
    (bytes : List UInt8) : Request :=
  { tag, tree := world.tree, source := { bytes }, hints := .ofNames options.hotScopes options.largeCollections, settings
    seconds := options.seconds, pace := world.pace, suggest := options.suggest }

def report (options : AnalyzeOptions) (world : Surroundings) (tag : String) (settings : Settings)
    (bytes : List UInt8) : Except AnalysisError Report :=
  analyze (options.request world tag settings bytes)

def envelope (options : AnalyzeOptions) (world : Surroundings) (report : Report) : Envelope :=
  { command := "analyze", timestamp := world.timestamp, elapsed := world.elapsed
    summary := (report.summaryJson.members?.getD []) ++ [("verdict", .str report.verdict)]
    payload := ("path", .str (Text.replaceChar '\\' '/' options.path)) ::
      report.members.filter (fun (name, _) => name != "summary") }

-- Of two formats that are asked for, the log of findings counts.
def output (options : AnalyzeOptions) (world : Surroundings) (wantsJson wantsSarif : Bool) (report : Report) : String :=
  if wantsSarif then (Sarif.ofFindings report.findings options.path).prettyAscii
  else if wantsJson then (options.envelope world report).toJson.pretty
  else report.write options.path options.suggest options.isVerbose

def failing (gate : Severity) (report : Report) : List Finding :=
  report.findings.filter fun finding => decide (gate ≤ finding.severity)

-- Findings at the gate count for more than a report that is cut short.
def ending (options : AnalyzeOptions) (report : Report) : Ending :=
  let rest : Ending := if report.isPartial then .cutShort else .success
  match options.gate with
  | none => rest
  | some gate =>
    let count := (failing gate report).length
    if count == 0 then rest
    else .failed (.gate (toString count ++ " finding(s) at or above " ++ gate.label))

end AnalyzeOptions

structure Analyzed where
  report : Report
  notes : List String
  parser : String

def AnalyzeOptions.analyzed (options : AnalyzeOptions) (world : Surroundings) : Except Outcome Analyzed :=
  match options.settings world.files with
  | .error error => .error { ending := .failed error }
  | .ok (settings, notes) =>
    match world.files.read options.path with
    | .error fault =>
      let error := .general ("cannot read " ++ options.path ++ ": " ++ fault.text) Error.exitGeneral
      .error { notes, ending := .failed error }
    | .ok bytes =>
      let notes := notes ++
        options.runNote ("analyzing " ++ options.path ++ " (" ++ toString bytes.length ++ " bytes)")
      match Language.request options.language (some options.path) with
      | .error error => .error { notes, ending := .failed error }
      | .ok (tag, parser) =>
        match options.report world tag settings bytes with
        | .error error => .error { notes, parsers := [parser], ending := .failed error.toError }
        | .ok report =>
          let done := options.runNote (toString report.rulesExecuted ++ " rules executed, " ++
            toString report.failures.length ++ " failures")
          .ok { report, parser, notes := notes ++ done }

def Analyzed.outcome (analyzed : Analyzed) (world : Surroundings) (invocation : Invocation) (options : AnalyzeOptions) :
    Outcome :=
  { output := [options.output world invocation.wantsJson invocation.wantsSarif analyzed.report]
    notes := analyzed.notes, parsers := [analyzed.parser], ending := options.ending analyzed.report }

def Invocation.runAnalyze (world : Surroundings) (invocation : Invocation) (options : AnalyzeOptions) : Outcome :=
  match options.analyzed world with
  | .error outcome => outcome
  | .ok analyzed => analyzed.outcome world invocation options

-- The rules for a language, with the name by which the language goes; no name asks for all rules.
def selectedRules (language : Option String) : Except Error (Option String × List Rule) :=
  match language with
  | none | some "" => .ok (none, Catalog.registry.sorted)
  | some tag =>
    match Language.ofTag? tag with
    | some language => .ok (some language.text, Catalog.registry.rulesFor language.text [] [])
    | none => .error (.unsupportedLanguage tag)

def rulesEnvelope (timestamp : String) (language : Option String) (rules : List Rule) : Envelope :=
  { command := "rules", timestamp
    summary := [("total", .nat rules.length), ("language", .opt .str language)]
    payload := [("rules", .arr (rules.map Rule.listing))] }

def runRules (world : Surroundings) (wantsJson : Bool) (language : Option String) : Outcome :=
  match selectedRules language with
  | .error error => { ending := .failed error }
  | .ok (language, rules) =>
    if wantsJson then { output := [(rulesEnvelope world.timestamp language rules).toJson.pretty] }
    else { output := [Listing.countText rules, Listing.table rules] }

def Invocation.run (world : Surroundings) (invocation : Invocation) : Outcome :=
  match invocation.check world.files with
  | .error error => { ending := .usage error }
  | .ok _ =>
    match invocation.command with
    | .analyze options => invocation.runAnalyze world options
    | .rules language => runRules world invocation.wantsJson language
    | .help => { output := [helpText] }
    | .version => { output := ["hotpath, version " ++ version] }

def run (world : Surroundings) (args : List String) : Outcome :=
  match Invocation.ofWords args with
  | .error error => { ending := .usage error }
  | .ok invocation => invocation.run world

end Perflint.CommandLine
