import Perflint.CallGraph
import Perflint.Settings
import Perflint.Outline.Access

namespace Perflint

structure Capture where
  text : String
  span : Span
  deriving DecidableEq, Repr, Inhabited

structure Hit where
  place : Site
  captures : List (String × Capture) := []
  modifiers : List String := []
  deriving Inhabited

inductive Fault where
  | missingPlus
  | raised (text : String)
  deriving DecidableEq, Repr

def Fault.text : Fault → String
  | .missingPlus => "IndexError: list index out of range"
  | .raised text => text

structure Context where
  outline : Outline
  language : String
  hints : Hints
  settings : Settings
  graph : CallGraph

inductive HotReason where
  | callerHint
  | callSites (count : Nat)
  | calledInLoop
  deriving DecidableEq, Repr

def HotReason.text : HotReason → String
  | .callerHint => "caller hint"
  | .callSites count => toString count ++ " call sites"
  | .calledInLoop => "called inside a loop"

-- The code itself shows it, whatever the caller says.
def HotReason.isStructural : HotReason → Bool
  | .callerHint => false
  | _ => true

namespace Context

def text (ctx : Context) (site : Site) : String :=
  ctx.outline.text site.node

def whole (ctx : Context) (site : Site) : Capture :=
  { text := ctx.text site, span := site.span }

def loopCaptures (ctx : Context) (loop : Site) : List (String × Capture) :=
  [("loop_var", { text := loop.node.firstVar, span := loop.span }),
   ("collection", { text := ctx.outline.loopLabel loop.node, span := loop.span })]

-- The unit is never hot.
def hotReasons (ctx : Context) (scope : Scope) : List HotReason :=
  if scope.isUnit then []
  else
    let calls := ctx.graph.fanIn scope.id
    (if ctx.hints.isHot scope.name then [.callerHint] else []) ++
      (if calls ≥ ctx.settings.hotFanIn then [.callSites calls] else []) ++
      (if ctx.graph.calledInLoop scope.id then [.calledInLoop] else [])

end Context

def Site.labelled (site : Site) (text : String) : Capture :=
  { text, span := site.span }

def atMostOnce (find : Context → Site → Option Hit) : Context → Site → Except Fault (List Hit) :=
  fun ctx site => .ok (find ctx site).toList

structure Rule where
  id : String
  title : String := ""
  category : String := ""
  targets : List Kind := []
  check : Context → Site → Except Fault (List Hit)
  severity : Severity := .low
  languages : List String := []
  template : String := ""
  description : String := ""
  remediation : String := ""
  message : String := ""

namespace Rule

def appliesTo (rule : Rule) (language : String) : Bool :=
  rule.languages.isEmpty || rule.languages.contains language

-- A rule that gives no key of its own is known to the suggestions by its id, and the first line of its
-- documentation describes it.
def documented (rule : Rule) (documentation : String) : Rule :=
  { rule with
    template := if rule.template.isEmpty then rule.id else rule.template
    description :=
      if rule.description.isEmpty then Text.beforeFirst '\n' (Text.strip documentation) else rule.description }

end Rule
end Perflint
