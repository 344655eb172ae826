import Perflint.Budget
import Perflint.Rule.Basic

namespace Perflint

structure Registry where
  rules : List Rule := []
  isFrozen : Bool := false
  distinct : (rules.map Rule.id).Nodup := by decide

inductive RegistryError where
  | frozen (id : String)
  | duplicate (id : String)
  deriving DecidableEq, Repr

def RegistryError.message : RegistryError → String
  | .frozen id => "rule registry is frozen; cannot register " ++ Text.quoted id
  | .duplicate id => "duplicate rule id " ++ Text.quoted id

namespace Registry

def size (registry : Registry) : Nat :=
  registry.rules.length

def get? (registry : Registry) (id : String) : Option Rule :=
  registry.rules.find? (·.id == id)

def contains (registry : Registry) (id : String) : Bool :=
  registry.rules.any (·.id == id)

theorem distinct_concat {registry : Registry} {rule : Rule} (fresh : ¬registry.contains rule.id = true) :
    ((registry.rules ++ [rule]).map Rule.id).Nodup := by
  rw [List.map_append, List.nodup_append]
  refine ⟨registry.distinct, by simp, ?_⟩
  intro known isKnown new isNew same
  obtain ⟨other, member, rfl⟩ := List.mem_map.mp isKnown
  obtain ⟨_, isRule, rfl⟩ := List.mem_map.mp isNew
  cases List.mem_singleton.mp isRule
  exact fresh (List.any_eq_true.mpr ⟨other, member, beq_iff_eq.mpr same⟩)

def register (registry : Registry) (rule : Rule) : Except RegistryError Registry :=
  if registry.isFrozen then .error (.frozen rule.id)
  else if known : registry.contains rule.id then .error (.duplicate rule.id)
  else .ok { registry with rules := registry.rules ++ [rule], distinct := distinct_concat known }

def freeze (registry : Registry) : Registry :=
  { registry with isFrozen := true }

def sorted (registry : Registry) : List Rule :=
  registry.rules.mergeSort (fun a b => a.id ≤ b.id)

-- A list of enabled rules leaves out all others; a disabled rule is out in any case.
def admits (enabled disabled : List String) (language : String) (rule : Rule) : Bool :=
  (enabled.isEmpty || enabled.contains rule.id) && !disabled.contains rule.id && rule.appliesTo language

def rulesFor (registry : Registry) (language : String) (enabled disabled : List String) : List Rule :=
  registry.sorted.filter (admits enabled disabled language)

end Registry

structure Match where
  ruleId : String
  category : String
  nodeId : Nat
  scopeId : Nat
  span : Span
  captures : List (String × Capture)
  modifiers : List String
  severity : Severity
  deriving DecidableEq, Repr, Inhabited

structure Failure where
  ruleId : String
  nodeId : Nat
  error : String
  deriving DecidableEq, Repr, Inhabited

structure Evaluation where
  found : List Match := []
  failures : List Failure := []
  executed : Nat := 0
  isPartial : Bool := false
  deriving Inhabited

def outsideText : String := "match span outside the syntax tree"

namespace Rule

-- A rule reports nodes of the outline that it is given; a hit on a node of another is not covered.
def toMatch (rule : Rule) (ctx : Context) (hit : Hit) : Match :=
  { ruleId := rule.id, category := rule.category, nodeId := hit.place.id
    scopeId := (ctx.outline.scopeOf hit.place).id, span := hit.place.span, captures := hit.captures
    modifiers := Settings.sortedTexts hit.modifiers
    severity := rule.severity.resolve hit.modifiers }

def judgeHit (rule : Rule) (ctx : Context) (site : Site) (hit : Hit) : Sum Match Failure :=
  let result := rule.toMatch ctx hit
  if ctx.outline.inBounds result.span then .inl result
  else .inr { ruleId := rule.id, nodeId := site.id, error := outsideText }

def judge (rule : Rule) (ctx : Context) (site : Site) : List (Sum Match Failure) :=
  match rule.check ctx site with
  | .ok hits => hits.map (rule.judgeHit ctx site)
  | .error fault => [.inr { ruleId := rule.id, nodeId := site.id, error := fault.text }]

def sortedTargets (rule : Rule) : List Kind :=
  rule.targets.eraseDups.mergeSort (fun a b => a.text ≤ b.text)

-- The nodes that a rule is asked about: kind by kind, and by identifier within a kind.
def sites (rule : Rule) (all : List Site) : List Site :=
  rule.sortedTargets.flatMap fun kind => all.filter (·.kind == kind)

end Rule

namespace Evaluation

def matchesOf (judgements : List (Sum Match Failure)) : List Match :=
  judgements.filterMap Sum.getLeft?

def failuresOf (judgements : List (Sum Match Failure)) : List Failure :=
  judgements.filterMap Sum.getRight?

-- The rules in turn: one unit of work for the rule and one for each of its nodes. A rule that the budget cuts
-- short keeps its failures and loses its matches.
def run (ctx : Context) (all : List Site) : Budget → List Rule → Evaluation
  | _, [] => {}
  | budget, rule :: rest =>
    match budget.spend? with
    | none => { isPartial := true }
    | some budget =>
      let sites := rule.sites all
      let (done, complete) := budget.afford sites
      let judgements := done.flatMap (rule.judge ctx)
      if complete then
        let tail := run ctx all (budget.after sites.length) rest
        { found := matchesOf judgements ++ tail.found, failures := failuresOf judgements ++ tail.failures
          executed := tail.executed + 1, isPartial := tail.isPartial }
      else { failures := failuresOf judgements, isPartial := true }

def precedes (a b : Match) : Bool :=
  a.span.before b.span || (a.span.sameRegion b.span &&
    (a.ruleId < b.ruleId || (a.ruleId == b.ruleId && a.nodeId ≤ b.nodeId)))

end Evaluation

def evaluate (ctx : Context) (registry : Registry) (budget : Budget) : Evaluation :=
  let rules := registry.rulesFor ctx.language ctx.settings.enabledRules ctx.settings.disabledRules
  let result := Evaluation.run ctx ctx.outline.sites budget rules
  { result with found := result.found.mergeSort Evaluation.precedes }

end Perflint
