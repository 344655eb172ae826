import Perflint.Cost.Estimate
import Perflint.Decimal
import Perflint.Finding
import Perflint.Grammar.Languages
import Perflint.Json.Basic
import Perflint.Text.Basic

namespace Perflint

structure Metrics where
  total : Nat
  code : Nat
  comment : Nat
  averageLength : Float
  commentRatio : Float

namespace Metrics

-- How a line of comment starts. Where the language is not known, every start counts.
def commentStarts (language : String) : List String :=
  if language == "python" then ["#"]
  else if ["javascript", "typescript", "java", "go"].contains language then ["//", "/*", "*"]
  else ["#", "//", "/*", "*"]

def share (part whole places : Nat) : Float :=
  if whole == 0 then 0.0 else Decimal.roundTo places (Float.ofNat part / Float.ofNat whole)

def ofText (text tag : String) : Metrics :=
  let starts := commentStarts (Language.normalize tag)
  let lines := Text.splitLines text
  let filled := lines.filter (!Text.isBlankText ·)
  let comments := filled.countP fun line => Text.startsWithAny (Text.strip line) starts
  let width := (filled.map fun line => (Text.stripEnd line).length).foldl (· + ·) 0
  { total := lines.length, code := filled.length - comments, comment := comments
    averageLength := share width filled.length 1, commentRatio := share comments filled.length 3 }

def toJson (m : Metrics) : Json :=
  .obj [("total_lines", .nat m.total), ("code_lines", .nat m.code), ("comment_lines", .nat m.comment),
        ("avg_line_length", .float m.averageLength), ("comment_ratio", .float m.commentRatio)]

end Metrics

structure Report where
  language : String
  findings : List Finding
  estimates : List Estimate
  isPartial : Bool
  failures : List Failure
  metrics : Metrics
  nodes : Nat
  scopes : Nat
  rulesExecuted : Nat

namespace Report

def severityCounts (report : Report) : List (Severity × Nat) :=
  Severity.all.reverse.map fun severity => (severity, report.findings.countP (·.severity == severity))

def highest? (report : Report) : Option Severity :=
  ((report.severityCounts).find? (·.2 > 0)).map Prod.fst

end Report

def Span.toJson (span : Span) : Json :=
  .obj [("start_line", .nat span.start.line), ("start_col", .nat span.start.column),
        ("end_line", .nat span.finish.line), ("end_col", .nat span.finish.column)]

def Suggestion.toJson (suggestion : Suggestion) : Json :=
  .obj [("before", .str suggestion.before), ("after", .str suggestion.after), ("language", .str suggestion.language)]

def Finding.toJson (finding : Finding) : Json :=
  .obj ([("pattern_id", .str finding.patternId), ("title", .str finding.title), ("category", .str finding.category),
         ("severity", .str finding.severity.label), ("span", finding.span.toJson), ("scope", .str finding.scope),
         ("message", .str finding.message), ("remediation", .str finding.remediation),
         ("complexity", .opt .str finding.complexity), ("suggestion", .opt Suggestion.toJson finding.suggestion),
         ("sources", .strs finding.sources), ("merged", .strs finding.merged)] ++
        if finding.suggestionError.isEmpty then [] else [("suggestion_error", .str finding.suggestionError)])

def Estimate.toJson (e : Estimate) : Json :=
  .obj [("scope", .str e.scope), ("scope_id", .nat e.scopeId), ("span", e.span.toJson), ("complexity", .str e.cost.text),
        ("notation", .str e.written), ("degree", .nat e.degree), ("log_factor", .bool e.logFactor),
        ("contributors", .arr (e.contributors.map .nat)), ("reason", .str e.reason),
        ("recursion", .str e.recursion.text), ("testability", .nat e.testability)]

def Failure.toJson (failure : Failure) : Json :=
  .obj [("rule_id", .str failure.ruleId), ("node_id", .nat failure.nodeId), ("error", .str failure.error)]

namespace Report

def summaryJson (report : Report) : Json :=
  .obj [("findings", .nat report.findings.length),
        ("by_severity", .obj (report.severityCounts.map fun (severity, count) => (severity.label, .nat count))),
        ("highest", .opt (fun severity => .str severity.label) report.highest?),
        ("rules_executed", .nat report.rulesExecuted)]

def metricsJson (report : Report) : Json :=
  match report.metrics.toJson with
  | .obj members => .obj (members ++ [("isg_nodes", .nat report.nodes), ("scopes", .nat report.scopes)])
  | other => other

-- The same report always has the same text; times stand elsewhere.
def members (report : Report) : List (String × Json) :=
  [("language", .str report.language), ("partial", .bool report.isPartial), ("summary", report.summaryJson),
   ("findings", .arr (report.findings.map Finding.toJson)), ("complexity", .arr (report.estimates.map Estimate.toJson)),
   ("failures", .arr (report.failures.map Failure.toJson)), ("metrics", report.metricsJson)]

def toJson (report : Report) : Json :=
  .obj report.members

end Report

def version : String := "0.3.0"

structure Envelope where
  command : String
  summary : List (String × Json) := []
  payload : List (String × Json) := []
  timestamp : String
  elapsed : Json := .null

namespace Envelope

def ownNames : List String := ["command", "summary"]

def ofPayload? (command timestamp : String) (summary payload : List (String × Json)) : Option Envelope :=
  if payload.any fun (name, _) => ownNames.contains name then none
  else
    some { command, timestamp, summary, payload := payload.filter (·.1 != "elapsed_ms")
           elapsed := (payload.lookup "elapsed_ms").getD .null }

-- The payload may replace what stands before it, but not the times.
def toJson (envelope : Envelope) : Json :=
  let base : List (String × Json) :=
    [("schema", .str "hotpath-envelope-v1"), ("schema_version", .str "1.0.0"), ("command", .str envelope.command),
     ("version", .str version), ("summary", .obj envelope.summary)]
  let filled := envelope.payload.foldl (fun members (name, value) => Json.insertMember name value members) base
  .obj (Json.insertMember "_meta" (.obj [("timestamp", .str envelope.timestamp), ("elapsed_ms", envelope.elapsed)]) filled)

end Envelope

namespace Json

def pretty (document : Json) : String :=
  write { indent := some 2, sorted := true, ascii := false } document

def prettyAscii (document : Json) : String :=
  write { indent := some 2, sorted := true, ascii := true } document

end Json
end Perflint
