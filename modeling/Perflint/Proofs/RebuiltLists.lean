import Mathlib
import Perflint.Proofs.Assignments
import Perflint.Proofs.HintOrder
import Perflint.Proofs.ScopeNodes

namespace Perflint

theorem Text.occursIn_singleton {mark : Char} {text : List Char} : occursIn [mark] text = true ↔ mark ∈ text := by
  induction text with
  | nil => simp [occursIn]
  | cons c rest ih =>
    rw [occursIn, Bool.or_eq_true, ih, List.mem_cons, List.isPrefixOf_cons_cons, List.isPrefixOf_nil_left,
      Bool.and_true, beq_iff_eq]

namespace Grammar

section Sums

variable {language : Language} {source : Source} {tree : Tree}

-- The types of sums say nothing of their values.
theorem sums_apart (language : Language) : ∀ type ∈ language.grammar.binaryTypes,
    language.grammar.typedLiterals.contains type = false ∧ language.grammar.awaitTypes.contains type = false ∧
      language.grammar.stringTypes.contains type = false ∧ language.grammar.numberTypes.contains type = false ∧
      language.grammar.literalTypes.lookup type = none ∧ language.grammar.newTypes.contains type = false ∧
      language.grammar.callTypes.contains type = false ∧ language.grammar.expressionKinds.lookup type = none := by
  cases language <;> decide

theorem containsType_inner {inner : Tree} {types : List String} (member : inner ∈ tree.preorder)
    (absent : tree.containsType types = false) : inner.containsType types = false := by
  rw [Tree.containsType, List.any_eq_false] at absent ⊢
  intro deeper inside
  exact absent deeper (Tree.mem_preorder_trans member inside)

theorem valueKind_of_sum {room : Nat}
    (isSum : (language.grammar.unwrap tree).hasType language.grammar.binaryTypes = true)
    (noText : tree.containsType language.grammar.stringTypes = false) :
    language.grammar.valueKind source (room + 1) tree = .ok .other := by
  obtain ⟨typed, awaits, text, number, literal, made, call, expression⟩ :=
    sums_apart language _ (List.contains_iff_mem.mp isSum)
  have noInnerText := containsType_inner (language.grammar.unwrap_mem_preorder tree) noText
  unfold valueKind
  simp only [isTypedLiteral, isNumber, isCall, literal?, Tree.hasType, typed, awaits, text, number, literal, made, call,
    expression, noInnerText, Bool.and_false, Bool.false_eq_true, if_false, Option.getD_none]

theorem isCall_of_sum (isSum : tree.hasType language.grammar.binaryTypes = true) :
    language.grammar.isCall tree = false := by
  obtain ⟨_, _, _, _, _, _, call, _⟩ := sums_apart language _ (List.contains_iff_mem.mp isSum)
  exact call

-- What is read off an assignment of a sum without texts: a value of no known kind, and no call.
theorem assignmentInfo_sum {a : AssignmentInfo} (read : language.grammar.assignmentInfo source tree = .ok a)
    (isSum : a.valueIsConcat = true) (noText : a.valueHasString = false) :
    a.valueKind = .other ∧ a.valueCallee = "" := by
  have tells := assignmentInfo_eq_ok read
  cases found : language.grammar.assigned? tree with
  | none =>
    rw [tells.isConcat, found] at isSum
    cases isSum
  | some right =>
    rw [tells.isConcat, found] at isSum
    rw [tells.hasString, found] at noText
    have sums := (Bool.and_eq_true_iff.mp isSum).1
    have kind := tells.kind
    rw [found] at kind
    have unknown : language.grammar.valueKind source depthLimit right = .ok .other := valueKind_of_sum sums noText
    refine ⟨Except.ok.inj (kind.symm.trans unknown), ?_⟩
    rw [tells.callee, found]
    dsimp only [Option.map_some]
    rw [isCall_of_sum sums, if_neg Bool.false_ne_true]

end Sums

section Parameters

variable {g : Grammar} {source : Source}

theorem foldl_keys_subset {step : List (String × String) → String × String → List (String × String)}
    (adds : ∀ known param, (step known param).map Prod.fst ⊆ known.map Prod.fst ++ [param.1])
    (params known : List (String × String)) :
    (params.foldl step known).map Prod.fst ⊆ known.map Prod.fst ++ params.map Prod.fst := by
  induction params generalizing known with
  | nil => exact List.subset_append_left _ _
  | cons param rest ih =>
    rw [List.map_cons, List.append_cons]
    refine List.Subset.trans (ih (step known param)) (List.append_subset.mpr ⟨?_, List.subset_append_right _ _⟩)
    exact List.subset_append_of_subset_left _ (adds known param)

-- Only parameters have declared types.
theorem typedParams_subset (params : List (String × String)) :
    (typedParams params).map Prod.fst ⊆ params.map Prod.fst := by
  refine foldl_keys_subset ?_ params []
  intro known param
  obtain ⟨name, type⟩ := param
  have later : known.map Prod.fst ⊆ known.map Prod.fst ++ [name] := List.subset_append_left _ _
  dsimp only
  split
  · exact later
  · split
    · have names : (known.map fun entry => if entry.1 == name then (name, type) else entry).map Prod.fst =
          known.map Prod.fst := by
        rw [List.map_map]
        refine List.map_congr_left fun entry _ => ?_
        by_cases same : entry.1 = name <;> simp [same]
      rw [names]
      exact later
    · simp

theorem functionInfo_typed {path : List Tree} {tree : Tree} {f : FunctionInfo}
    (read : g.functionInfo source path tree = .ok f) : f.paramTypes.map Prod.fst ⊆ f.params := by
  obtain ⟨_, _, read⟩ := bind_eq_ok.mp read
  cases read
  exact typedParams_subset _

theorem info_of_function? {node : Node} {f : FunctionInfo} (isFunction : node.function? = some f) :
    node.info = .function f := by
  unfold Node.function? at isFunction
  split at isFunction
  · rename_i found
    cases isFunction
    exact found
  · cases isFunction

theorem StandsFor.function {place : Tree.Place} {node : Node} {f : FunctionInfo}
    (stands : g.StandsFor source place node) (isFunction : node.function? = some f) :
    g.functionInfo source place.above place.node = .ok f := by
  have info := info_of_function? isFunction
  have kind : node.kind = .function := congrArg Info.kind info
  obtain ⟨told, once, described, counted⟩ := stands.read
  rw [kind, describe] at described
  split at described
  · cases described
  · obtain ⟨read, isRead, rfl⟩ := told_eq_ok.mp described
    rw [info] at counted
    cases counted
    exact isRead

-- What is no parameter of a function has no declared type in it.
theorem paramType?_eq_none {tag name : String} {top : Tree} {outline : Outline} {scope : Scope} (opens : g.ClausesOpen)
    (done : g.outline tag source (some top) = .ok outline) (member : scope ∈ outline.functions)
    (noParam : name ∉ scope.params) : scope.paramType? name = none := by
  obtain ⟨owner, held, _, rfl⟩ := Outline.mem_functions.mp member
  unfold Scope.paramType?
  unfold Scope.params at noParam
  cases isFunction : (outline.functionScope owner).function? with
  | none => rfl
  | some f =>
    rw [isFunction] at noParam
    have ownInfo : owner.node.function? = some f := isFunction
    obtain ⟨place, _, stands⟩ := outline_origin opens done held (by simp [info_of_function? ownInfo])
    refine List.lookup_eq_none_iff.mpr fun entry isEntry => ?_
    rw [bne_iff_ne]
    rintro rfl
    exact noParam (functionInfo_typed (stands.function ownInfo) (List.mem_map_of_mem isEntry))

end Parameters
end Grammar

theorem Scope.mem_assignmentsTo {scope : Scope} {site : Site} {name : String} : site ∈ scope.assignmentsTo name ↔
    site ∈ scope.nodes ∧ ∃ a ∈ site.node.assignment?, name ∈ a.targets := by
  rw [assignmentsTo, List.mem_filter]
  refine and_congr_right fun _ => ?_
  cases site.node.assignment? with
  | none => simp
  | some a => simp

namespace Outline

variable {outline : Outline} {site : Site} {name : String}

theorem mem_assignedKinds {kind : ValueKind} {sites : List Site} : kind ∈ assignedKinds sites ↔
    ∃ site ∈ sites, ∃ a ∈ site.node.assignment?, a.operator = "=" ∧ a.valueKind = kind := by
  simp only [assignedKinds, List.mem_filterMap]
  refine exists_congr fun site => and_congr_right fun _ => ?_
  cases site.node.assignment? with
  | none => simp
  | some a => simp

theorem originKinds_of_function (nonempty : name ≠ "") (undotted : '.' ∉ name.toList)
    (inFunction : (outline.scopeOf site).isUnit = false) (bound : scopeKinds (outline.scopeOf site) name ≠ []) :
    outline.originKinds site name = (scopeKinds (outline.scopeOf site) name).eraseDups := by
  have plain : isSelfName name = false := by
    have noDot : Text.contains name "." = false :=
      Bool.eq_false_iff.mpr fun dotted => undotted (Text.occursIn_singleton.mp dotted)
    rw [isSelfName, noDot, Bool.false_and]
  unfold originKinds
  rw [if_neg (by simpa using nonempty), plain, if_neg Bool.false_ne_true, lookupScopes, inFunction,
    if_neg Bool.false_ne_true, List.map_cons, List.find?_cons_of_pos (by simpa using bound), Option.getD_some]

-- A function rebuilds a list as a sum in a loop: every other plain assignment to the name gives it a list.
@[mk_iff]
structure RebuildsList (outline : Outline) (site : Site) (a : AssignmentInfo) (target : String) : Prop where
  read : a ∈ site.node.assignment?
  plain : a.operator = "="
  sole : a.targets = [target]
  isSum : a.valueIsConcat = true
  mentioned : target ∈ a.valueNames
  noText : a.valueHasString = false
  inFunction : (outline.scopeOf site).isUnit = false
  repeated : ∃ loop ∈ site.loops.head?, outline.initializedOutside loop target = true
  undotted : '.' ∉ target.toList
  noParam : target ∉ (outline.scopeOf site).params
  lists : ∀ other ∈ (outline.scopeOf site).assignmentsTo target, other.id ≠ site.id →
    ∀ b ∈ other.node.assignment?, b.operator = "=" → b.valueKind = .list
  bound : ∃ other ∈ (outline.scopeOf site).assignmentsTo target, other.id ≠ site.id ∧
    ∃ b ∈ other.node.assignment?, b.operator = "="

instance (outline : Outline) (site : Site) (a : AssignmentInfo) (target : String) :
    Decidable (outline.RebuildsList site a target) :=
  decidable_of_iff _ (rebuildsList_iff outline site a target).symm

namespace RebuildsList

variable {a : AssignmentInfo} {target : String}

theorem scope_mem (rebuilds : outline.RebuildsList site a target) (held : outline.Holds site) :
    outline.scopeOf site ∈ outline.functions := by
  rcases scopeOf_mem_functions held with isFunction | ⟨isUnit, _⟩
  · exact isFunction
  · have notUnit := rebuilds.inFunction
    rw [isUnit] at notUnit
    cases notUnit

theorem mem_assignmentsTo (rebuilds : outline.RebuildsList site a target) (held : outline.Holds site) :
    site ∈ (outline.scopeOf site).assignmentsTo target := by
  have info := Grammar.info_of_assignment? rebuilds.read
  have plain : site.node.isFunction = false := by simp [Node.isFunction, Node.kind, info, Info.kind]
  have inScope : site ∈ (outline.scopeOf site).nodes := (mem_nodes (rebuilds.scope_mem held)).mpr ⟨held, plain, rfl⟩
  refine Scope.mem_assignmentsTo.mpr ⟨inScope, a, rebuilds.read, ?_⟩
  rw [rebuilds.sole]
  exact List.mem_cons_self

-- The statement itself is one of the assignments that the kinds of the name are taken from.
theorem mem_originKinds (rebuilds : outline.RebuildsList site a target) (held : outline.Holds site)
    (nonempty : target ≠ "") (undeclared : (outline.scopeOf site).paramType? target = none)
    {kind : ValueKind} : kind ∈ outline.originKinds site target ↔ kind = .list ∨ kind = a.valueKind := by
  have assigned : scopeKinds (outline.scopeOf site) target =
      assignedKinds ((outline.scopeOf site).assignmentsTo target) := by
    rw [scopeKinds, undeclared, List.append_nil]
  have given : ∀ kind, kind ∈ assignedKinds ((outline.scopeOf site).assignmentsTo target) ↔
      kind = .list ∨ kind = a.valueKind := by
    intro kind
    rw [mem_assignedKinds]
    constructor
    · rintro ⟨other, member, b, read, plain, rfl⟩
      by_cases same : other.id = site.id
      · have otherHeld := ((mem_nodes (rebuilds.scope_mem held)).mp (Scope.mem_assignmentsTo.mp member).1).1
        rw [eq_of_id_eq otherHeld held same] at read
        exact .inr (by rw [Option.mem_unique read rebuilds.read])
      · exact .inl (rebuilds.lists other member same b read plain)
    · rintro (rfl | rfl)
      · obtain ⟨other, member, differs, b, read, plain⟩ := rebuilds.bound
        exact ⟨other, member, b, read, plain, rebuilds.lists other member differs b read plain⟩
      · exact ⟨site, rebuilds.mem_assignmentsTo held, a, rebuilds.read, rebuilds.plain, rfl⟩
  have bound : scopeKinds (outline.scopeOf site) target ≠ [] := by
    rw [assigned]
    exact List.ne_nil_of_mem ((given .list).mpr (.inl rfl))
  rw [originKinds_of_function nonempty rebuilds.undotted rebuilds.inFunction bound, assigned, List.mem_eraseDups, given]

end RebuildsList
end Outline

namespace Catalog

open Outline

variable {ctx : Context} {site : Site} {a : AssignmentInfo} {target : String}

-- What the rule asks of such a statement once everything that the statement grants is taken off.
theorem findCopy_isSome (rebuilds : ctx.outline.RebuildsList site a target) :
    (findCopy ctx site).isSome = true ↔ target ≠ "" ∧ ValueKind.string ∉ ctx.outline.originKinds site target ∧
      copiesWhole a target (ctx.outline.originKinds site target) = true := by
  obtain ⟨loop, nearest, outside⟩ := rebuilds.repeated
  have sole : a.soleTarget = target := by rw [AssignmentInfo.soleTarget, rebuilds.sole]
  unfold findCopy
  rw [Option.mem_def.mp rebuilds.read, Option.mem_def.mp nearest]
  simp only [Option.bind_eq_bind, Option.bind_some, sole, outside, rebuilds.plain, rebuilds.noText,
    List.contains_iff_mem.mpr rebuilds.mentioned, Option.isSome_iff_exists, Option.bind_eq_some_iff,
    Option.guard_eq_some']
  simp

theorem copiesWhole_iff {kinds : List ValueKind} (isSum : a.valueIsConcat = true) (noCall : a.valueCallee = "")
    (mixed : kinds ≠ [.list]) :
    copiesWhole a target kinds = true ↔ target ∈ a.valueSpreads ∨ a.valueHasList = true := by
  unfold copiesWhole
  rw [noCall, isSum]
  have unknown : "" ∉ copyCallees := by decide
  simp [unknown, mixed]

-- The kind of a sum is not known, and the sum itself counts among the values of its name. So what the other
-- assignments give never settles the matter: a list literal or a spread name in the sum does.
theorem sum_reported_iff {language : Language} {source : Source} {tree : Option Tree}
    (done : language.outline source tree = .ok ctx.outline) (held : ctx.outline.Holds site)
    (rebuilds : ctx.outline.RebuildsList site a target) :
    a.valueKind = .other ∧ ((∃ hit, collectionCopyInLoop.Reports ctx site hit) ↔
      target ≠ "" ∧ (target ∈ a.valueSpreads ∨ a.valueHasList = true)) := by
  have lowered := mapError_eq_ok.mp done
  obtain ⟨top, _, rfl, _, _⟩ := Grammar.outline_eq_ok lowered
  have opens := Grammar.clausesOpen language
  obtain ⟨place, _, _, _, read⟩ := Grammar.assignment_origin opens lowered held rebuilds.read
  obtain ⟨unknown, noCall⟩ := Grammar.assignmentInfo_sum read rebuilds.isSum rebuilds.noText
  have undeclared := Grammar.paramType?_eq_none opens lowered (rebuilds.scope_mem held) rebuilds.noParam
  refine ⟨unknown, ?_⟩
  have isSome : (∃ hit, collectionCopyInLoop.Reports ctx site hit) ↔ (findCopy ctx site).isSome = true := by
    rw [Option.isSome_iff_exists]
    exact exists_congr fun hit => Rule.reports_iff rfl
  rw [isSome, findCopy_isSome rebuilds]
  refine and_congr_right fun nonempty => ?_
  have kinds : ∀ kind, kind ∈ ctx.outline.originKinds site target ↔ kind = .list ∨ kind = .other := by
    intro kind
    rw [rebuilds.mem_originKinds held nonempty undeclared, unknown]
  have noString : ValueKind.string ∉ ctx.outline.originKinds site target := by simp [kinds]
  have mixed : ctx.outline.originKinds site target ≠ [.list] := by
    intro pure
    have sums := (kinds .other).mpr (.inr rfl)
    rw [pure] at sums
    cases List.mem_singleton.mp sums
  rw [copiesWhole_iff rebuilds.isSum noCall mixed]
  exact and_iff_right noString

end Catalog

def collectSource : Source :=
  { bytes := "def collect(rows, more):\n    acc = []\n    for row in rows:\n        acc = acc + more\n".toUTF8.toList }

-- A list that every iteration replaces by its sum with another variable.
def collectTree : Tree :=
  .node { type := "module", first := 0, last := 84 }
    [.node { type := "function_definition", first := 0, last := 83 }
      [.node { type := "identifier", first := 4, last := 11, fields := ["name"] } [],
       .node { type := "parameters", first := 11, last := 23, fields := ["parameters"] }
        [.node { type := "identifier", first := 12, last := 16 } [],
         .node { type := "identifier", first := 18, last := 22 } []],
       .node { type := "block", first := 29, last := 83, fields := ["body"] }
        [.node { type := "expression_statement", first := 29, last := 37 }
          [.node { type := "assignment", first := 29, last := 37 }
            [.node { type := "identifier", first := 29, last := 32, fields := ["left"] } [],
             .node { type := "list", first := 35, last := 37, fields := ["right"] } []]],
         .node { type := "for_statement", first := 42, last := 83 }
          [.node { type := "identifier", first := 46, last := 49, fields := ["left"] } [],
           .node { type := "identifier", first := 53, last := 57, fields := ["right"] } [],
           .node { type := "block", first := 67, last := 83, fields := ["body"] }
            [.node { type := "expression_statement", first := 67, last := 83 }
              [.node { type := "assignment", first := 67, last := 83 }
                [.node { type := "identifier", first := 67, last := 70, fields := ["left"] } [],
                 .node { type := "binary_operator", first := 73, last := 83, fields := ["right"] }
                  [.node { type := "identifier", first := 73, last := 76, fields := ["left"] } [],
                   .node { type := "+", named := false, first := 77, last := 78, fields := ["operator"] } [],
                   .node { type := "identifier", first := 79, last := 83, fields := ["right"] } []]]]]]]]]

theorem collectTree_lowered : (Language.python.outline collectSource (some collectTree)).toOption.isSome = true := by
  decide +kernel

def collectContext : Context :=
  let outline := (Language.python.outline collectSource (some collectTree)).toOption.get collectTree_lowered
  { outline, language := "python", hints := {}, settings := {}, graph := outline.callGraph }

theorem collect_rebuilds : ∃ site a, collectContext.outline.Holds site ∧
    collectContext.outline.RebuildsList site a "acc" ∧ Catalog.findCopy collectContext site = none := by
  have found : ∃ site ∈ collectContext.outline.preorder, ∃ a ∈ site.node.assignment?,
      collectContext.outline.RebuildsList site a "acc" ∧ (Catalog.findCopy collectContext site).isNone = true := by
    decide +kernel
  obtain ⟨site, inOutline, a, _, rebuilds, unreported⟩ := found
  exact ⟨site, a, Outline.mem_preorder.mp inOutline, rebuilds, Option.isNone_iff_eq_none.mp unreported⟩

theorem collect_judged :
    Language.python.outline collectSource (some collectTree) = .ok collectContext.outline ∧
      ∃ site a, collectContext.outline.Holds site ∧ collectContext.outline.RebuildsList site a "acc" ∧
        a.valueKind = .other ∧ ((∃ hit, Catalog.collectionCopyInLoop.Reports collectContext site hit) ↔
          "acc" ≠ "" ∧ ("acc" ∈ a.valueSpreads ∨ a.valueHasList = true)) := by
  have done := eq_ok_get collectTree_lowered
  obtain ⟨site, a, held, rebuilds, _⟩ := collect_rebuilds
  exact ⟨done, site, a, held, rebuilds, Catalog.sum_reported_iff done held rebuilds⟩

-- A known list is rebuilt in a loop, and nothing is reported.
theorem collect_unreported :
    Language.python.outline collectSource (some collectTree) = .ok collectContext.outline ∧
      ∃ site a, collectContext.outline.Holds site ∧ collectContext.outline.RebuildsList site a "acc" ∧
        ¬∃ hit, Catalog.collectionCopyInLoop.Reports collectContext site hit := by
  obtain ⟨site, a, held, rebuilds, nothing⟩ := collect_rebuilds
  refine ⟨eq_ok_get collectTree_lowered, site, a, held, rebuilds, ?_⟩
  rintro ⟨hit, reported⟩
  have found := (Rule.reports_iff rfl).mp reported
  rw [nothing] at found
  cases found

end Perflint
