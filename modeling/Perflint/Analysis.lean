import Perflint.Finding
import Perflint.Grammar.Lowering
import Perflint.Grammar.Languages
import Perflint.Report.Basic
import Perflint.Rule.Catalog
import Perflint.Suggestion.Synthesis

namespace Perflint

structure Request where
  tag : String
  tree : Option Tree
  source : Source
  hints : Hints := {}
  settings : Settings := {}
  -- Takes the place of the time in the settings.
  seconds : Option Float := none
  -- How far the stages get in a time.
  pace : Float → Allowance := .ofSeconds
  registry : Registry := Catalog.registry
  suggest : Bool := true
  strict : Bool := false

inductive AnalysisError where
  | stopped (error : Error)
  | outOfTime (stage : String) (report : Report)
  | noFinding (error : FindingError)

def AnalysisError.toError : AnalysisError → Error
  | .stopped error => error
  | .outOfTime stage _ => .timeout stage 0
  | .noFinding _ => .general "a rule is unknown or its message unfit" Error.exitGeneral

def Malformed.error (m : Malformed) : Error :=
  .malformedTree m.fault.reason m.type (m.line.map fun line => (line : Int))

def Refusal.error : Refusal → Error
  | .malformed m => m.error
  | .broken breakdown => .broken breakdown
  | .misnumbered error => .misnumbered error

def Language.outline (language : Language) (source : Source) (tree : Option Tree) : Except Error Outline :=
  (language.grammar.outline language.text source tree).mapError Refusal.error

namespace Request

def registryInUse (request : Request) : Registry :=
  request.registry.orCatalog

def allowance (request : Request) : Allowance :=
  match request.seconds.or request.settings.budget with
  | some seconds => request.pace seconds
  | none => {}

def context (request : Request) (language : Language) (outline : Outline) : Context :=
  { outline, language := language.text, hints := request.hints, settings := request.settings
    graph := outline.callGraph }

end Request

def analyze (request : Request) : Except AnalysisError Report := do
  let some language := Language.ofTag? request.tag | throw (.stopped (.unsupportedLanguage request.tag))
  let outline ← (language.outline request.source request.tree).mapError .stopped
  let ctx := request.context language outline
  let evaluation := evaluate ctx request.registryInUse request.allowance.rules
  let estimates := outline.estimates ctx.graph request.allowance.costs
  let findings ← (aggregate outline request.registryInUse request.hints request.settings evaluation.found
    estimates.results).mapError .noFinding
  let report : Report :=
    { language := language.text
      findings := if request.suggest then Finding.synthesizeAll findings language.text else findings
      estimates := estimates.results, isPartial := evaluation.isPartial || estimates.isPartial
      failures := evaluation.failures, metrics := Metrics.ofText (Text.decodeUtf8 request.source.bytes) language.text
      nodes := outline.size, scopes := outline.scopes.length, rulesExecuted := evaluation.executed }
  if report.isPartial && request.strict then
    throw (.outOfTime (if evaluation.isPartial then "rules" else "complexity") report)
  return report

-- Has a text parsed, then analyzes it: the parser that was asked, and the report. `parse` is what a parser, by its name,
-- makes of a source.
def analyzeSource (parse : String → Source → Option Tree) (tag path : Option String) (request : Request) :
    Except AnalysisError (String × Report) := do
  let (tag, parser) ← (Language.request tag path).mapError .stopped
  let report ← analyze { request with tag, tree := parse parser request.source }
  return (parser, report)

end Perflint
