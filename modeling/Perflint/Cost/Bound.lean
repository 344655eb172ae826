import Perflint.Outline.Loops
import Perflint.Text.Unicode

namespace Perflint

inductive CostClass where
  | constant
  | logarithmic
  | linear
  | linearithmic
  | quadratic
  | polynomial
  | exponential
  | indeterminate
  deriving DecidableEq, Repr, Inhabited

namespace CostClass

def text : CostClass → String
  | .constant => "O(1)"
  | .logarithmic => "O(log n)"
  | .linear => "O(n)"
  | .linearithmic => "O(n log n)"
  | .quadratic => "O(n^2)"
  | .polynomial => "O(n^k)"
  | .exponential => "O(2^n)"
  | .indeterminate => "indeterminate"

def all : List CostClass :=
  [.constant, .logarithmic, .linear, .linearithmic, .quadratic, .polynomial, .exponential, .indeterminate]

def ofText? (text : String) : Option CostClass :=
  all.find? (·.text == text)

def rank : CostClass → Nat
  | .constant => 0
  | .logarithmic => 1
  | .linear => 2
  | .linearithmic => 3
  | .quadratic => 4
  | .polynomial => 5
  | .exponential => 6
  | .indeterminate => 7

-- From the second degree on a logarithm is not told.
def ofDegree (degree : Nat) (log : Bool) : CostClass :=
  match degree with
  | 0 => if log then .logarithmic else .constant
  | 1 => if log then .linearithmic else .linear
  | 2 => .quadratic
  | _ => .polynomial

def hasDegree : CostClass → Bool
  | .linear | .linearithmic | .quadratic | .polynomial => true
  | _ => false

def superscript (c : Char) : Char :=
  (("0123456789".toList.zip "⁰¹²³⁴⁵⁶⁷⁸⁹".toList).lookup c).getD c

def written (cost : CostClass) (degree : Nat) : String :=
  match cost with
  | .quadratic => "O(n²)"
  | .polynomial => "O(n" ++ (toString (max degree 3)).map superscript ++ ")"
  | .exponential => "O(2ⁿ)"
  | other => other.text

end CostClass

inductive Bound where
  | constant
  | levels (count : Nat)
  | halving
  -- All runs together, over the loop around it, are no more than that loop's own.
  | amortized
  | unbounded
  deriving DecidableEq, Repr, Inhabited

namespace Bound

def factor : Bound → Nat × Nat
  | .levels count => (count, 0)
  | .halving => (0, 1)
  | .constant | .amortized | .unbounded => (0, 0)

def halvingOperators : List String :=
  ["//=", "/=", ">>=", ">>>=", "*=", "<<="]

def endsWord : List Char → Bool
  | [] => true
  | c :: _ => !Text.isWordChar c

def isNumber (digit : Char) (text : List Char) : Bool :=
  match text.dropWhile Text.isBlank with
  | [] => false
  | c :: rest => c == digit && endsWord rest

-- A division or multiplication by two, or a shift by one or two, starts here.
def halvesHere : List Char → Bool
  | '/' :: rest => isNumber '2' rest
  | '*' :: rest => isNumber '2' rest
  | '>' :: '>' :: rest => isNumber '2' rest || isNumber '1' rest
  | _ => false

def halvesIn : List Char → Bool
  | [] => false
  | c :: rest => halvesHere (c :: rest) || halvesIn rest

def halves (text : String) : Bool :=
  halvesIn text.toList

def startsName (c : Char) : Bool :=
  c.isAlpha || c == '_'

def namesFrom (word : List Char) : List Char → List String
  | [] => if word.isEmpty then [] else [String.ofList word.reverse]
  | c :: rest =>
    if word.isEmpty then if startsName c then namesFrom [c] rest else namesFrom [] rest
    else if Text.isWordChar c then namesFrom (c :: word) rest
    else String.ofList word.reverse :: namesFrom [] rest

def namesIn (text : String) : List String :=
  namesFrom [] text.toList

def common (a b : List String) : Bool :=
  a.any b.contains

def assignmentsIn (loop : Site) : List AssignmentInfo :=
  loop.descendantsInScope.filterMap (·.node.assignment?)

def changedBy (node : Node) : List String :=
  match node.info with
  | .assignment a => a.targetRoots ++ a.targets ++ if a.subscriptOf.isEmpty then [] else [a.subscriptOf]
  | .call c | .collectionOp c =>
    if !c.receiverRoot.isEmpty then [c.receiverRoot]
    else if c.receiver.isEmpty then c.argNames
    else []
  | _ => []

def updatedNames (loop : Site) (l : LoopInfo) : List String :=
  loop.descendantsInScope.flatMap (changedBy ·.node) ++ namesIn l.update

def midpoints (assignments : List AssignmentInfo) (names : List String) : List String :=
  (assignments.filter fun a => halves a.value && common a.valueNames names).flatMap (·.targets)

def isHalving (loop : Site) (l : LoopInfo) (names : List String) : Bool :=
  let assignments := assignmentsIn loop
  Text.containsAny l.update halvingOperators || halves l.update ||
    (assignments.any fun a =>
      (halvingOperators.contains a.operator || halves a.value) && common a.targets names) ||
    let middle := midpoints assignments names
    assignments.any fun a => common a.targets names && common a.valueNames middle

def countsToLiteral (outline : Outline) (scope : Scope) (loop : Site) (l : LoopInfo) : Bool :=
  !l.conditionNames.isEmpty && l.conditionNames.all fun name =>
    (match (outline.lastAssignment? scope name loop.span.start).bind (·.node.assignment?) with
      | some start => start.valueKind == .number
      | none => false) &&
    (assignmentsIn loop).all fun a =>
      !a.targets.contains name || ["+=", "-=", "++", "--"].contains a.operator

def isLiteralCollection (outline : Outline) (name : String) : Bool :=
  match outline.unitScope.assignmentsTo name with
  | [only] =>
    match only.node.assignment? with
    | some a =>
      a.operator == "=" && [ValueKind.list, .set, .dict, .tuple, .other].contains a.valueKind &&
        Text.startsWithAny (Text.stripStart a.value) ["[", "(", "\x7b"] &&
        a.valueNames.isEmpty && a.valueCalls.isEmpty
    | none => false
  | _ => false

def isConstant (outline : Outline) (scope : Scope) (loop : Site) (l : LoopInfo) : Bool :=
  l.boundConstant ||
    match l.kind with
    | .forEach =>
      (!l.boundNames.isEmpty && l.boundNames.all outline.isUnitConstant) ||
        (!l.iterable.isEmpty && l.iterable == l.iterableRoot && isLiteralCollection outline l.iterable)
    | .counted => !l.boundNames.isEmpty && l.boundNames.all outline.isUnitConstant
    | .whileDo | .doWhile => l.comparesLiteral && countsToLiteral outline scope loop l
    | _ => false

def startParams (scope : Scope) : List String :=
  match scope.root.node.function? with
  | some f => f.params
  | none => []

-- A cursor that the loop around `loop` does not set back: every name in `updated` has a value before `outer`,
-- is none of its variables, and gets no fresh value in `outer` outside `loop`.
def keepsCursor (outline : Outline) (scope : Scope) (loop outer : Site) (updated : List String) : Bool :=
  let inner := loop.node.ids
  updated.all fun name =>
    ((outline.lastAssignment? scope name outer.span.start).isSome || (startParams scope).contains name) &&
      !(match outer.node.loop? with
        | some l => l.iterVars.contains name
        | none => false) &&
      outer.descendantsInScope.all fun site => inner.contains site.id || !site.node.bindsAfresh name

def isAmortized (outline : Outline) (scope : Scope) (loop : Site) (updated : List String)
    (enclosing : List Site) : Bool :=
  match enclosing.find? (·.node.isLoop) with
  | some outer => keepsCursor outline scope loop outer updated
  | none => false

def runsOnCondition (l : LoopInfo) : Bool :=
  l.kind.onCondition || (l.kind == .counted && l.update.isEmpty && l.iterVars.isEmpty)

-- A loop on a condition is judged by those names of the condition that the loop changes.
def ofCondition (outline : Outline) (scope : Scope) (loop : Site) (l : LoopInfo) (enclosing : List Site) : Bound :=
  let updated := (updatedNames loop l).filter l.conditionNames.contains
  if updated.isEmpty then .unbounded
  else if isHalving loop l updated then .halving
  else if isAmortized outline scope loop updated enclosing then .amortized
  else .levels 1

def ofLoop (outline : Outline) (scope : Scope) (loop : Site) (l : LoopInfo) (enclosing : List Site) : Bound :=
  if l.kind == .comprehension then .levels (l.levels - l.constantLevels)
  else if isConstant outline scope loop l then .constant
  else if runsOnCondition l then ofCondition outline scope loop l enclosing
  else if l.kind == .counted && isHalving loop l l.iterVars then .halving
  else .levels 1

def ofSite (outline : Outline) (scope : Scope) (site : Site) (enclosing : List Site) : Bound :=
  match site.node.loop? with
  | some l => ofLoop outline scope site l enclosing
  | none => if site.node.iterates then .levels 1 else .constant

end Bound
end Perflint
