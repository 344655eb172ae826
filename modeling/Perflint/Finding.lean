import Perflint.Cost.Estimate
import Perflint.Rule.Evaluation
import Perflint.Rule.Message

namespace Perflint

structure Suggestion where
  before : String
  after : String
  language : String
  deriving DecidableEq, Repr, Inhabited

structure Finding where
  patternId : String
  title : String
  category : String
  severity : Severity
  span : Span
  scope : String
  scopeId : Nat
  message : String
  remediation : String := ""
  complexity : Option String := none
  suggestion : Option Suggestion := none
  suggestionError : String := ""
  sources : List String := []
  merged : List String := []
  templateKey : String := ""
  captures : List (String × String) := []
  origin : Option Match := none
  deriving DecidableEq, Repr, Inhabited

def Match.captureTexts (m : Match) : List (String × String) :=
  m.captures.map fun (name, capture) => (name, capture.text)

namespace Finding

def precedes (a b : Finding) : Bool :=
  b.severity.level < a.severity.level ||
    (a.severity.level == b.severity.level &&
      (a.span.before b.span || (a.span.sameRegion b.span && a.patternId ≤ b.patternId)))

end Finding

structure Cluster where
  outer : Match
  inner : List Match := []
  deriving Inhabited

namespace Cluster

def members (cluster : Cluster) : List Match :=
  cluster.outer :: cluster.inner

def precedes (a b : Match) : Bool :=
  a.span.start.lt b.span.start || (a.span.start == b.span.start &&
    (b.span.finish.lt a.span.finish || (a.span.finish == b.span.finish && a.ruleId ≤ b.ruleId)))

-- A match joins the first cluster whose outer match contains it.
def insert (m : Match) : List Cluster → List Cluster
  | [] => [{ outer := m }]
  | cluster :: rest =>
    if cluster.outer.span.contains m.span then { cluster with inner := cluster.inner ++ [m] } :: rest
    else cluster :: insert m rest

def ofMatches (found : List Match) : List Cluster :=
  (found.mergeSort precedes).foldl (fun clusters m => insert m clusters) []

-- Of several matches the gravest; of equally grave ones that of the first rule; else the one met first.
def gravest : List Match → Option Match
  | [] => none
  | m :: rest =>
    match gravest rest with
    | none => some m
    | some other =>
      if m.severity.level < other.severity.level ||
          (m.severity.level == other.severity.level && other.ruleId < m.ruleId)
      then some other else some m

def lead (cluster : Cluster) : Match :=
  match gravest cluster.inner with
  | some m => if cluster.outer.severity.level < m.severity.level then m else cluster.outer
  | none => cluster.outer

def ruleIds (cluster : Cluster) : List String :=
  Settings.sortedTexts (cluster.members.map Match.ruleId)

end Cluster

inductive FindingError where
  | unknownRule (id : String)
  | unknownScope (id : Nat)
  | message (fault : MessageFault)
  deriving DecidableEq, Repr

namespace Finding

def ofCluster (outline : Outline) (registry : Registry) (cluster : Cluster) : Except FindingError Finding := do
  let lead := cluster.lead
  let some rule := registry.get? lead.ruleId | throw (.unknownRule lead.ruleId)
  let some scope := outline.scope? lead.scopeId | throw (.unknownScope lead.scopeId)
  let captures := lead.captureTexts
  let message ← (rule.render captures).mapError .message
  return { patternId := lead.ruleId, title := rule.title, category := lead.category, severity := lead.severity
           span := cluster.outer.span, scope := scope.name, scopeId := lead.scopeId
           message, remediation := rule.remediation, sources := cluster.ruleIds
           merged := cluster.ruleIds.filter (· != lead.ruleId), templateKey := rule.template, captures
           origin := some lead }

-- The finding with the cost of its scope, where that is not constant. The last estimate of a scope counts.
def annotated (estimates : List Estimate) (finding : Finding) : Finding :=
  match estimates.reverse.find? (·.scopeId == finding.scopeId) with
  | some estimate => if estimate.isConstant then finding else { finding with complexity := some estimate.headline }
  | none => finding

def groupKeys (found : List Match) : List (Nat × String) :=
  (found.map fun m => (m.scopeId, m.category)).eraseDups.mergeSort fun a b =>
    a.1 < b.1 || (a.1 == b.1 && a.2 ≤ b.2)

def clusters (found : List Match) : List Cluster :=
  (groupKeys found).flatMap fun key =>
    Cluster.ofMatches (found.filter fun m => (m.scopeId, m.category) == key)

def ofMatches (outline : Outline) (registry : Registry) (estimates : List Estimate) (found : List Match) :
    Except FindingError (List Finding) :=
  (clusters found).mapM fun cluster => (ofCluster outline registry cluster).map (annotated estimates)

structure CostPattern where
  id : String
  title : String
  remediation : String
  template : String := ""

def costPattern : CostClass → CostPattern
  | .exponential =>
    { id := "exponential-recursion"
      title := "Exponential-time recursion"
      remediation := "Memoize the function (cache results by argument) or rewrite it bottom-up."
      template := "memoize" }
  | .polynomial =>
    { id := "polynomial-complexity"
      title := "Deeply nested loops"
      remediation :=
        "Index the inner collections (dicts/sets) or precompute aggregates to remove a nesting level." }
  | .quadratic =>
    { id := "quadratic-complexity"
      title := "Quadratic nested loops"
      remediation := "Replace the inner loop with a dict/set lookup built once, or sort and merge." }
  | _ =>
    { id := "linearithmic-complexity"
      title := "O(n log n) work on a large input"
      remediation := "Check whether a single pass or a heap (top-k) avoids the log factor." }

def loopsOf (outline : Outline) (estimate : Estimate) : List Site :=
  (estimate.contributors.filterMap outline.site?).filter (·.node.iterates)

def suspectsLargeInput (outline : Outline) (hints : Hints) (estimate : Estimate) : Bool :=
  (loopsOf outline estimate).any fun loop =>
    hints.isLarge [loop.node.loopRoot, loop.node.loopText] ||
      match outline.fetchedOrigin? loop with
      | some (strength, _) => strength == .strong
      | none => false

def costSeverity? (outline : Outline) (hints : Hints) (estimate : Estimate) : Option Severity :=
  match estimate.cost with
  | .exponential => some .critical
  | .polynomial => some .high
  | .quadratic => some (if suspectsLargeInput outline hints estimate then .high else .medium)
  | .linearithmic => if suspectsLargeInput outline hints estimate then some .high else none
  | _ => none

-- Loops are reported where they stand, recursion at the function.
def ofEstimate? (outline : Outline) (hints : Hints) (estimate : Estimate) : Option Finding := do
  let severity ← costSeverity? outline hints estimate
  let pattern := costPattern estimate.cost
  let loop? := if estimate.recursion == .none then (loopsOf outline estimate).head? else none
  let named := [("function", estimate.scope)]
  return { patternId := pattern.id, title := pattern.title, category := "complexity", severity
           span := match loop? with
             | some loop => loop.span
             | none => estimate.span
           scope := estimate.scope, scopeId := estimate.scopeId
           message := "`" ++ estimate.scope ++ "` is " ++ estimate.headline
           remediation := pattern.remediation, complexity := some estimate.headline
           sources := ["complexity:" ++ estimate.cost.text], templateKey := pattern.template
           captures := match loop? with
             | some loop => named ++ [("outer", loop.node.loopText)]
             | none => named }

def select (settings : Settings) (findings : List Finding) : List Finding :=
  let kept := (findings.filter fun finding => settings.minSeverity ≤ finding.severity).mergeSort precedes
  if settings.maxFindings == 0 then kept else kept.take settings.maxFindings

end Finding

def aggregate (outline : Outline) (registry : Registry) (hints : Hints) (settings : Settings)
    (found : List Match) (estimates : List Estimate) : Except FindingError (List Finding) := do
  let fromMatches ← Finding.ofMatches outline registry estimates found
  let fromEstimates := estimates.filterMap (Finding.ofEstimate? outline hints)
  return Finding.select settings (fromMatches ++ fromEstimates)

end Perflint
