import Mathlib
import Perflint.Cost.Estimate
import Perflint.Proofs.Sites

namespace Perflint

namespace Visit

theorem belowAll_eq (parent : Site) (enclosing : List Site) (nodes : List Node) :
    belowAll parent enclosing nodes = nodes.map fun child =>
      (parent.node.runsPerIteration child, below (parent.node :: parent.above)
        (if parent.node.runsPerIteration child then parent :: enclosing else enclosing) child) := by
  induction nodes with
  | nil => rfl
  | cons child rest ih => rw [belowAll, ih, List.map_cons]

def childVisits (site : Site) (enclosing : List Site) (child : Node) : List Visit :=
  below (site.node :: site.above) (if site.node.runsPerIteration child then site :: enclosing else enclosing) child

theorem below_eq (above : List Node) (enclosing : List Site) (node : Node) :
    below above enclosing node =
      if node.isFunction then []
      else (node.children.filter (!node.runsPerIteration ·)).flatMap (childVisits { node, above } enclosing) ++
        (node.children.filter (node.runsPerIteration ·)).flatMap (childVisits { node, above } enclosing) ++
          [{ site := { node, above }, enclosing }] := by
  cases node with
  | mk head children =>
    simp only [below, belowAll_eq, List.filter_map, List.flatMap_map, Function.comp_def, Node.children]
    rfl

theorem mem_below {above : List Node} {enclosing : List Site} {node : Node} {visit : Visit}
    (opened : node.isFunction = false) :
    visit ∈ below above enclosing node ↔ visit = { site := { node, above }, enclosing } ∨
      ∃ child ∈ node.children, visit ∈ below (node :: above)
        (if node.runsPerIteration child then { node, above } :: enclosing else enclosing) child := by
  cases node with
  | mk head children =>
    rw [below, if_neg (by simp [opened])]
    simp only [belowAll_eq, Node.children, List.mem_append, List.mem_flatMap, List.mem_filter,
      List.mem_map, List.mem_singleton]
    constructor
    · rintro ((⟨part, ⟨⟨child, isChild, rfl⟩, _⟩, visited⟩ | ⟨part, ⟨⟨child, isChild, rfl⟩, _⟩, visited⟩) | rfl)
      · exact .inr ⟨child, isChild, visited⟩
      · exact .inr ⟨child, isChild, visited⟩
      · exact .inl rfl
    · rintro (rfl | ⟨child, isChild, visited⟩)
      · exact .inr rfl
      · left
        cases inside : Node.runsPerIteration (.mk head children) child with
        | false => exact .inl ⟨_, ⟨⟨child, isChild, rfl⟩, by simp [inside]⟩, visited⟩
        | true => exact .inr ⟨_, ⟨⟨child, isChild, rfl⟩, inside⟩, visited⟩

-- Whatever the loops around it, a walk through a scope comes to each of its nodes.
theorem below_covers {site : Site} {above : List Node} {node : Node} (enclosing : List Site)
    (member : site ∈ Site.walk true above node) (plain : site.node.isFunction = false) :
    ∃ visit ∈ below above enclosing node, visit.site = site := by
  induction node using Node.nested_induction generalizing above enclosing with
  | step node ih =>
    rw [Site.walk_eq, List.mem_cons] at member
    rcases member with rfl | deeper
    · exact ⟨_, (mem_below plain).mpr (.inl rfl), rfl⟩
    · cases opened : node.isFunction with
      | true => simp [opened] at deeper
      | false =>
        simp only [opened, Bool.and_false, Bool.false_eq_true, if_false, List.mem_flatMap] at deeper
        obtain ⟨child, isChild, inside⟩ := deeper
        obtain ⟨visit, visited, same⟩ := ih child isChild _ inside
        exact ⟨visit, (mem_below opened).mpr (.inr ⟨child, isChild, visited⟩), same⟩

theorem ofScope_covers {scope : Scope} {site : Site} (member : site ∈ scope.nodes) :
    ∃ visit ∈ ofScope scope, visit.site = site := by
  obtain ⟨inside, plain⟩ := List.mem_filter.mp member
  rw [Site.descendantsInScope, Site.walkAll_eq, List.mem_flatMap] at inside
  obtain ⟨child, isChild, below⟩ := inside
  obtain ⟨visit, visited, same⟩ := below_covers [] below (by simpa using plain)
  exact ⟨visit, List.mem_flatMap.mpr ⟨child, isChild, visited⟩, same⟩

end Visit

namespace Bound

-- No name of the condition is among those that the loop can change.
def Stalled (loop : Site) (l : LoopInfo) : Prop :=
  ∀ name ∈ l.conditionNames, name ∉ updatedNames loop l

-- The condition compares with a number, and the last value before the loop of each of its names is one too.
def StartsFromNumbers (outline : Outline) (scope : Scope) (loop : Site) (l : LoopInfo) : Prop :=
  l.comparesLiteral = true ∧ l.conditionNames ≠ [] ∧ ∀ name ∈ l.conditionNames, ∃ start a,
    outline.lastAssignment? scope name loop.span.start = some start ∧ start.node.assignment? = some a ∧
      a.valueKind = .number

variable (outline : Outline) (scope : Scope) {loop : Site} {l : LoopInfo}

theorem mem_updatedNames {a : AssignmentInfo} {name : String} (assigned : a ∈ assignmentsIn loop)
    (isTarget : name ∈ a.targets) : name ∈ updatedNames loop l := by
  obtain ⟨site, member, found⟩ := List.mem_filterMap.mp assigned
  refine List.mem_append_left _ (List.mem_flatMap.mpr ⟨site, member, ?_⟩)
  unfold Node.assignment? at found
  split at found
  · rename_i known
    cases found
    rw [changedBy, known]
    exact List.mem_append_left _ (List.mem_append_right _ isTarget)
  · cases found

-- What is never assigned only steps: nothing asks that it step at all.
theorem countsToLiteral_iff (stalled : Stalled loop l) :
    (l.comparesLiteral && countsToLiteral outline scope loop l) = true ↔ StartsFromNumbers outline scope loop l := by
  have steps : ∀ name ∈ l.conditionNames, ((assignmentsIn loop).all fun a =>
      !a.targets.contains name || ["+=", "-=", "++", "--"].contains a.operator) = true := by
    intro name inCondition
    rw [List.all_eq_true]
    intro a assigned
    have untouched : a.targets.contains name = false := by
      rw [Bool.eq_false_iff]
      intro isTarget
      exact stalled name inCondition (mem_updatedNames assigned (List.contains_iff_mem.mp isTarget))
    rw [untouched]
    rfl
  rw [Bool.and_eq_true, countsToLiteral, Bool.and_eq_true, List.all_eq_true, StartsFromNumbers]
  refine and_congr_right fun _ => and_congr (by simp) (forall₂_congr fun name inCondition => ?_)
  rw [steps name inCondition, Bool.and_true]
  cases outline.lastAssignment? scope name loop.span.start with
  | none => simp
  | some start => cases assigned : start.node.assignment? <;> simp [assigned]

theorem isConstant_iff (onCondition : l.kind.onCondition = true) (notConstant : l.boundConstant = false)
    (stalled : Stalled loop l) :
    isConstant outline scope loop l = true ↔ StartsFromNumbers outline scope loop l := by
  rw [← countsToLiteral_iff outline scope stalled]
  unfold isConstant
  rw [notConstant, Bool.false_or]
  cases kind : l.kind <;> simp_all [LoopKind.onCondition]

theorem ofCondition_stalled (stalled : Stalled loop l) (enclosing : List Site) :
    ofCondition outline scope loop l enclosing = .unbounded := by
  have none : (updatedNames loop l).filter l.conditionNames.contains = [] := by
    rw [List.filter_eq_nil_iff]
    intro name updated inCondition
    exact stalled name (List.contains_iff_mem.mp inCondition) updated
  unfold ofCondition
  rw [none]
  rfl

theorem ofLoop_stalled (onCondition : l.kind.onCondition = true) (notConstant : l.boundConstant = false)
    (stalled : Stalled loop l) (enclosing : List Site) :
    (StartsFromNumbers outline scope loop l ∧ ofLoop outline scope loop l enclosing = .constant) ∨
      (¬StartsFromNumbers outline scope loop l ∧ ofLoop outline scope loop l enclosing = .unbounded) := by
  have notComprehension : (l.kind == .comprehension) = false := by
    cases kind : l.kind <;> simp_all [LoopKind.onCondition]
  have decided := isConstant_iff outline scope onCondition notConstant stalled
  unfold ofLoop
  rw [notComprehension]
  by_cases numbers : StartsFromNumbers outline scope loop l
  · exact .inl ⟨numbers, by rw [if_neg Bool.false_ne_true, if_pos (decided.mpr numbers)]⟩
  · right
    have runs : runsOnCondition l = true := by rw [runsOnCondition, onCondition, Bool.true_or]
    rw [if_neg Bool.false_ne_true, if_neg (mt decided.mp numbers), if_pos runs]
    exact ⟨numbers, ofCondition_stalled outline scope stalled enclosing⟩

end Bound

namespace Estimate

theorem withUnbounded_cost (outline : Outline) {unbounded : List Site} (judgement : Judgement)
    (some : unbounded ≠ []) :
    (withUnbounded outline unbounded judgement).cost = .indeterminate ∨
      (withUnbounded outline unbounded judgement).cost = .exponential := by
  cases unbounded with
  | nil => exact absurd rfl some
  | cons first rest =>
    rw [withUnbounded]
    split
    · rename_i exponential
      exact .inr (by simpa using exponential)
    · exact .inl rfl

theorem unbounded_cost {outline : Outline} {scope : Scope} {site : Site} (graph : Option CallGraph)
    (member : site ∈ scope.nodes) (unbounded : ∀ enclosing, Bound.ofSite outline scope site enclosing = .unbounded) :
    (ofScope outline graph scope).cost = .indeterminate ∨ (ofScope outline graph scope).cost = .exponential := by
  obtain ⟨visit, visited, rfl⟩ := Visit.ofScope_covers member
  have judged : visit.site ∈ scope.boundedBy outline .unbounded := by
    refine List.mem_map_of_mem (List.mem_filter.mpr ⟨visited, ?_⟩)
    rw [unbounded visit.enclosing, beq_self_eq_true]
  exact withUnbounded_cost outline _ (List.ne_nil_of_mem judged)

-- A loop on a condition that nothing in it can change is told apart from those that end, save where every name of
-- the condition starts from a number: that loop is taken to run a fixed number of times.
theorem ofScope_stalled {outline : Outline} {scope : Scope} {loop : Site} {l : LoopInfo} (member : loop ∈ scope.nodes)
    (isLoop : loop.node.loop? = some l) (onCondition : l.kind.onCondition = true)
    (notConstant : l.boundConstant = false) (stalled : Bound.Stalled loop l) :
    (Bound.StartsFromNumbers outline scope loop l ∧
        ∀ enclosing, Bound.ofSite outline scope loop enclosing = .constant) ∨
      (¬Bound.StartsFromNumbers outline scope loop l ∧ ∀ graph, (ofScope outline graph scope).cost = .indeterminate ∨
        (ofScope outline graph scope).cost = .exponential) := by
  have judged : ∀ enclosing, Bound.ofSite outline scope loop enclosing = Bound.ofLoop outline scope loop l enclosing := by
    intro enclosing
    rw [Bound.ofSite, isLoop]
  have verdict := Bound.ofLoop_stalled outline scope onCondition notConstant stalled
  by_cases numbers : Bound.StartsFromNumbers outline scope loop l
  · refine .inl ⟨numbers, fun enclosing => (judged enclosing).trans ?_⟩
    exact ((verdict enclosing).resolve_right fun other => other.1 numbers).2
  · refine .inr ⟨numbers, fun graph => unbounded_cost graph member fun enclosing => (judged enclosing).trans ?_⟩
    exact ((verdict enclosing).resolve_left fun other => numbers other.1).2

-- A name that starts from zero, and after it a loop on a condition over `names` that makes a call and nothing else.
def idleLoop (names : List String) (comparesLiteral : Bool) : Node :=
  .mk { id := 2, span := { firstByte := 6, lastByte := 30, start := ⟨2, 0⟩, finish := ⟨3, 10⟩ }
        grammarType := "while_statement"
        info := .loop { kind := .whileDo, conditionNames := names, comparesLiteral } }
    [.mk { id := 3, span := default, grammarType := "call", info := .call { callee := "tick" } } []]

def idleUnit (names : List String) (comparesLiteral : Bool) : Outline :=
  { language := "python", source := { bytes := [] }
    root := .mk { id := 0, span := default, grammarType := "module", info := .unit }
      [.mk { id := 1, span := { firstByte := 0, lastByte := 5, start := ⟨1, 0⟩, finish := ⟨1, 5⟩ }
             grammarType := "assignment"
             info := .assignment { targets := ["i"], operator := "=", value := "0", valueKind := .number } } [],
       idleLoop names comparesLiteral]
    numbered := List.Perm.refl [0, 1, 2, 3] }

def idlePlace (names : List String) (comparesLiteral : Bool) : Site :=
  { node := idleLoop names comparesLiteral, above := [(idleUnit names comparesLiteral).root] }

theorem idlePlace_mem (names : List String) (comparesLiteral : Bool) :
    idlePlace names comparesLiteral ∈ (idleUnit names comparesLiteral).unitScope.nodes :=
  List.mem_cons_of_mem _ List.mem_cons_self

theorem idlePlace_stalled (names : List String) (comparesLiteral : Bool) :
    Bound.Stalled (idlePlace names comparesLiteral)
      { kind := .whileDo, conditionNames := names, comparesLiteral } := by
  intro name _ updated
  cases updated

-- Counting up to a limit that is a name, too.
theorem idleUnit_unbounded :
    let outline := idleUnit ["i", "limit"] false
    let loop := idlePlace ["i", "limit"] false
    loop ∈ outline.unitScope.nodes ∧
      ¬Bound.StartsFromNumbers outline outline.unitScope loop { kind := .whileDo, conditionNames := ["i", "limit"] } ∧
      ∀ graph, (ofScope outline graph outline.unitScope).cost = .indeterminate ∨
        (ofScope outline graph outline.unitScope).cost = .exponential := by
  intro outline loop
  have named : ¬Bound.StartsFromNumbers outline outline.unitScope loop
      { kind := .whileDo, conditionNames := ["i", "limit"] } := fun numbers => Bool.false_ne_true numbers.1
  rcases ofScope_stalled (idlePlace_mem _ _) rfl rfl rfl (idlePlace_stalled _ _) with ⟨numbers, _⟩ | ⟨_, cost⟩
  · exact absurd numbers named
  · exact ⟨idlePlace_mem _ _, named, cost⟩

-- Counting up to ten without a step.
theorem idleUnit_called_constant :
    let outline := idleUnit ["i"] true
    let loop := idlePlace ["i"] true
    loop ∈ outline.unitScope.nodes ∧
      Bound.Stalled loop { kind := .whileDo, conditionNames := ["i"], comparesLiteral := true } ∧
      (ofScope outline none outline.unitScope).cost = .constant :=
  ⟨idlePlace_mem _ _, idlePlace_stalled _ _, by decide +kernel⟩

end Estimate

end Perflint
