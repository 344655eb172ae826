import Perflint.Grammar.Functions

namespace Perflint.Grammar

structure LoopHeader where
  kind : LoopKind
  iterVars : List String := []
  iterable : Option Tree := none
  condition : Option Tree := none
  update : Option Tree := none
  startsAtNumber : Bool := false
  levels : Nat := 1
  constantLevels : Nat := 0

-- A part of a loop that is evaluated once: the node, and the nodes between it and the loop, nearest first.
structure OncePart (loop : Tree) where
  between : List Tree
  node : Tree
  smaller : sizeOf node < sizeOf loop

def onceField (loop : Tree) (name : String) : List (OncePart loop) :=
  match found : loop.field? name with
  | some node => [{ between := [], node, smaller := Tree.sizeOf_field_lt found }]
  | none => []

def onceFields (loop : Tree) (name : String) : List (OncePart loop) :=
  (loop.fields name).attach.map fun ⟨node, member⟩ =>
    { between := [], node, smaller := Tree.sizeOf_child_lt (List.mem_filter.mp member).1 }

def onceBelow (loop : Tree) (inner : Option { child : Tree // child ∈ loop.children }) (name : String) :
    List (OncePart loop) :=
  match inner with
  | none => []
  | some ⟨child, member⟩ =>
    match found : child.field? name with
    | some node =>
      [{ between := [child], node
         smaller := Nat.lt_trans (Tree.sizeOf_field_lt found) (Tree.sizeOf_child_lt member) }]
    | none => []

def isClause (tree : Tree) : Bool :=
  tree.hasType ["for_clause", "range_clause"]

def clause? (g : Grammar) (loop : Tree) : Option { child : Tree // child ∈ loop.children } :=
  loop.children.attach.find? fun ⟨child, _⟩ => g.isPart child && isClause child

def generators (loop : Tree) : List { child : Tree // child ∈ loop.children } :=
  loop.children.attach.filter fun ⟨child, _⟩ => child.type == "for_in_clause"

def onceParts (g : Grammar) (loop : Tree) : List (OncePart loop) :=
  match g.loopTypes.lookup loop.type with
  | some (.each _ iterable) => onceField loop iterable
  | some .threePart => onceField loop "initializer"
  | some .declared => onceFields loop "init"
  | some .clause =>
    match g.clause? loop with
    | none => []
    | some clause => onceBelow loop (some clause) (if clause.1.type == "range_clause" then "right" else "initializer")
  | some .comprehension => onceBelow loop (generators loop).head? "right"
  | _ => []

def declaredNames (g : Grammar) (source : Source) (init : Option Tree) : List String :=
  match init with
  | none => []
  | some init =>
    let declarators := init.findAll ["variable_declarator"]
    if declarators.isEmpty then
      g.namesOf source ((init.findAll ["assignment_expression"]).filterMap (·.field? "left"))
    else g.namesOf source (declarators.filterMap (·.field? "name"))

def allNumbers (g : Grammar) (values : List Tree) : Bool :=
  !values.isEmpty && values.all fun value => g.isNumber (g.unwrap value)

def threePartHeader (g : Grammar) (source : Source) (loop : Tree) : LoopHeader :=
  let init := loop.field? "initializer"
  let values := match init with
    | none => []
    | some init =>
      (init.findAll ["variable_declarator"]).filterMap (·.field? "value") ++
        (init.findAll ["assignment_expression"]).filterMap (·.field? "right")
  { kind := .counted, iterVars := g.declaredNames source init, condition := loop.field? "condition"
    update := loop.field? "increment", startsAtNumber := g.allNumbers values }

def declaredHeader (g : Grammar) (source : Source) (loop : Tree) : LoopHeader :=
  let declarators := (loop.fields "init").flatMap (·.findAll ["variable_declarator"])
  let values := declarators.map (·.field? "value")
  { kind := .counted, iterVars := g.namesOf source (declarators.filterMap (·.field? "name"))
    condition := loop.field? "condition", update := loop.field? "update"
    -- A variable without a value keeps the count open.
    startsAtNumber := values.all Option.isSome && g.allNumbers (values.filterMap fun value => value) }

def clauseHeader (g : Grammar) (source : Source) (loop : Tree) : LoopHeader :=
  match g.clause? loop with
  | some ⟨clause, _⟩ =>
    if clause.type == "range_clause" then
      { kind := .forEach, iterVars := g.names source (clause.field? "left"), iterable := clause.field? "right" }
    else
      let init := clause.field? "initializer"
      let values := match init with
        | some init =>
          if init.type == "short_var_declaration" then
            match init.field? "right" with
            | some right => g.parts right
            | none => []
          else []
        | none => []
      { kind := .counted, iterVars := g.names source (init.bind (·.field? "left"))
        condition := clause.field? "condition", update := clause.field? "update"
        startsAtNumber := g.allNumbers values }
  | none =>
    -- Without a clause, what is not the body is the condition.
    let body := loop.field? "body"
    let isBody := fun child : Tree => match body with
      | some body => child.first == body.first && child.last == body.last
      | none => false
    { kind := .whileDo, condition := (g.parts loop).find? fun child => !isBody child && !isClause child }

def comprehensionHeader (g : Grammar) (source : Source) (loop : Tree) : LoopHeader :=
  let clauses := (generators loop).map Subtype.val
  { kind := .comprehension
    iterVars := clauses.flatMap fun clause => g.names source (clause.field? "left")
    iterable := clauses.head?.bind (·.field? "right")
    levels := max 1 clauses.length
    constantLevels := clauses.countP fun clause =>
      match clause.field? "right" with
      | some right => g.isConstantIterable source right
      | none => false }

def loopHeader (g : Grammar) (source : Source) (loop : Tree) : LoopHeader :=
  match g.loopTypes.lookup loop.type with
  | some (.each vars iterable) =>
    { kind := .forEach, iterVars := g.names source (loop.field? vars), iterable := loop.field? iterable }
  | some (.condition kind) => { kind, condition := loop.field? "condition" }
  | some .threePart => g.threePartHeader source loop
  | some .declared => g.declaredHeader source loop
  | some .clause => g.clauseHeader source loop
  | some .comprehension => g.comprehensionHeader source loop
  | none => { kind := .unknown }

def loopInfo (g : Grammar) (source : Source) (loop : Tree) : Reading LoopInfo := do
  let header := g.loopHeader source loop
  let conditionNames := g.names source header.condition
  let comparesLiteral := match header.condition with
    | some condition => g.comparesLiteral condition
    | none => false
  let boundConstant := match header.iterable with
    | some iterable => g.isConstantIterable source iterable
    | none => header.kind == .counted && header.startsAtNumber && comparesLiteral
  let boundNames := match header.iterable with
    | some iterable => g.rangeBoundNames source iterable
    | none => conditionNames.filter (!header.iterVars.contains ·)
  let made ← readOr none (g.iterableCall? source depthLimit) header.iterable
  let iterableRoot ← readOr "" (g.iterableRoot source depthLimit) header.iterable
  let iterableCalls ← g.callsIn source header.iterable
  return { kind := header.kind
           iterVars := header.iterVars
           iterable := source.ofTree? header.iterable
           iterableNames := g.names source header.iterable
           iterableRoot
           iterableCallee := match made with
             | some call => g.calleeLeaf source (g.callParts call).callee
             | none => ""
           iterableReceiver := match made with
             | some call => source.ofTree? (g.callParts call).receiver
             | none => ""
           iterableCalls
           condition := source.ofTree? header.condition
           conditionNames
           comparesLiteral
           update := source.ofTree? header.update
           boundConstant
           boundNames
           levels := header.levels
           constantLevels := header.constantLevels }

end Perflint.Grammar
