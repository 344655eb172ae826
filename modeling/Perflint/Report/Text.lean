import Perflint.Json.Basic
import Perflint.Report.Basic
import Perflint.Rule.Evaluation
import Perflint.Settings
import Perflint.Suggestion.Synthesis
import Perflint.Text.Basic

namespace Perflint.Blocks

def location (path : String) (line : Option Int) : String :=
  match line with
  | some line => path ++ ":" ++ toString line
  | none => path

-- The first entries that a limit lets through, and how many it keeps back. Zero is no limit, and a negative one
-- counts from the end.
def limited (limit : Int) (entries : List α) : List α × Option Int :=
  let length : Int := entries.length
  if limit == 0 || length ≤ limit then (entries, none)
  else (entries.take (if limit < 0 then length + limit else limit).toNat, some (length - limit))

def moreText (kept : Int) : String :=
  "(+" ++ toString kept ++ " more)"

def titled (title : String) (lines : List String) (limit : Int) : String :=
  let (shown, more) := limited limit lines
  let rest := match more with
    | some kept => ["  " ++ moreText kept]
    | none => []
  Text.joined "\n" (title :: shown ++ rest)

def indent (text : String) (level : Int) : String :=
  let margin := String.ofList (List.replicate (2 * level.toNat) ' ')
  Text.joined "\n" ((Text.splitLines text).map (margin ++ ·))

def widths (headers : List String) (rows : List (List String)) : List Nat :=
  headers.zipIdx.map fun (header, index) =>
    rows.foldl (fun width row => max width (row.getD index "").length) header.length

def cells (widths : List Nat) (row : List String) : String :=
  Text.joined "  " ((row.zip widths).map fun (cell, width) => Text.padRight width cell)

-- A table with aligned columns; `none` when a row has more cells than there are headers.
def table? (headers : List String) (rows : List (List String)) (limit : Int) : Option String :=
  if rows.isEmpty then some "(none)"
  else
    let widths := widths headers rows
    let (shown, more) := limited limit rows
    if shown.any fun row => headers.length < row.length then none
    else
      let rest := match more with
        | some kept => [moreText kept]
        | none => []
      some (Text.joined "\n" (cells widths headers ::
        Text.joined "  " (widths.map fun width => String.ofList (List.replicate width '-')) ::
        shown.map (fun row => Text.stripEnd (cells widths row)) ++ rest))

end Perflint.Blocks

namespace Perflint

namespace Rule

def members (rule : Rule) : List (String × Json) :=
  [("id", .str rule.id), ("title", .str rule.title), ("category", .str rule.category),
   ("severity", .str rule.severity.label), ("languages", .strs (Settings.sortedTexts rule.languages)),
   ("targets", .strs (Settings.sortedTexts (rule.targets.map Kind.text))), ("description", .str rule.description),
   ("remediation", .str rule.remediation)]

def listing (rule : Rule) : Json :=
  .obj (rule.members ++ [("template_languages", .strs (Snippet.languagesFor rule.template))])

def languageText (rule : Rule) : String :=
  if rule.languages.isEmpty then "all" else Text.joined ", " (Settings.sortedTexts rule.languages)

def row (rule : Rule) : List String :=
  [rule.id, rule.severity.label, rule.category, rule.languageText, rule.title]

end Rule

namespace Listing

def headers : List String := ["id", "severity", "category", "languages", "title"]

-- Every row has a cell for every header, so the table always comes out.
def table (rules : List Rule) : String :=
  (Blocks.table? headers (rules.map Rule.row) 0).getD ""

def countText (rules : List Rule) : String :=
  toString rules.length ++ (if rules.length == 1 then " rule" else " rules")

end Listing

def Severity.icon : Severity → String
  | .critical => "!!"
  | .high => "! "
  | .medium => "~ "
  | .low => "  "

def Finding.lines (finding : Finding) (path : String) (showFix : Bool) : List String :=
  let place :=
    if path.isEmpty then "line " ++ finding.span.lines
    else Blocks.location path (some (finding.span.start.line : Int))
  let head := finding.severity.icon ++ " [" ++ finding.severity.label ++ "] " ++ finding.patternId ++ "  " ++ place ++
    "  (" ++ finding.scope ++ ")"
  let also := if finding.merged.isEmpty then [] else ["     also: " ++ Text.joined ", " finding.merged]
  let complexity := match finding.complexity with
    | some text => if text.isEmpty then [] else ["     complexity: " ++ text]
    | none => []
  let fix := if finding.remediation.isEmpty then [] else ["     fix: " ++ finding.remediation]
  let suggested := match finding.suggestion with
    | some suggestion => if showFix then ["     suggested:", Blocks.indent suggestion.after 4] else []
    | none => []
  [head, "     " ++ finding.message] ++ also ++ complexity ++ fix ++ suggested

namespace Report

def verdict (report : Report) : String :=
  let total := report.findings.length
  let counts := report.severityCounts.filter (·.2 > 0)
  let text :=
    if total == 0 then "No performance findings"
    else toString total ++ " finding" ++ (if total == 1 then "" else "s") ++ " (" ++
      Text.joined ", " (counts.map fun (severity, count) => toString count ++ " " ++ severity.label) ++ ")"
  if report.isPartial then text ++ " [partial: time budget exceeded]" else text

def scopeNames (report : Report) : List String :=
  (report.findings.map Finding.scope).eraseDups

def scopeBlock (report : Report) (path : String) (showFixes : Bool) (scope : String) : List String :=
  scope :: (report.findings.filter (·.scope == scope)).flatMap
    (fun finding => (finding.lines path showFixes).map ("  " ++ ·)) ++ [""]

def costRows (report : Report) : List (List String) :=
  (report.estimates.filter (!·.isConstant)).map fun e =>
    [e.scope, e.span.lines, e.written, toString e.testability, e.reason]

def costBlock (report : Report) : List String :=
  let rows := report.costRows
  if rows.isEmpty then []
  else
    let table := (Blocks.table? ["scope", "lines", "class", "testability", "reason"] rows 0).getD ""
    [Blocks.titled "Complexity:" [table] 0]

def failureBlock (report : Report) : List String :=
  if report.failures.isEmpty then []
  else
    ["", Blocks.titled ("Rule failures (" ++ toString report.failures.length ++ "):")
      (report.failures.map fun failure =>
        "  " ++ failure.ruleId ++ " at node " ++ toString failure.nodeId ++ ": " ++ failure.error) 10]

def write (report : Report) (path : String) (showFixes showFailures : Bool) : String :=
  let findings :=
    if report.findings.isEmpty then []
    else "" :: report.scopeNames.flatMap (report.scopeBlock path showFixes)
  Text.stripEnd (Text.joined "\n" (("VERDICT: " ++ report.verdict) :: findings ++ report.costBlock ++
    if showFailures then report.failureBlock else []))

end Report
end Perflint
