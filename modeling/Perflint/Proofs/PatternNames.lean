import Mathlib
import Perflint.Analysis
import Perflint.Proofs.HintOrder
import Perflint.Proofs.NodeOrigins

namespace Perflint

theorem head?_eraseDups {α : Type} [BEq α] (list : List α) : list.eraseDups.head? = list.head? := by
  cases list with
  | nil => rfl
  | cons first rest => rw [List.eraseDups_cons, List.head?_cons, List.head?_cons]

theorem Text.beforeFirst_eq_self {mark : Char} {text : String} (absent : mark ∉ text.toList) :
    beforeFirst mark text = text := by
  have whole : ∀ c ∈ text.toList, (c != mark) = true := by
    intro c member
    rw [bne_iff_ne]
    rintro rfl
    exact absent member
  rw [beforeFirst, List.takeWhile_eq_self_iff.mpr whole, String.ofList_toList]

theorem Site.root_not_loopVar {loop : Site} {name : String} (invariant : loop.invariantIn name = true) :
    Text.beforeFirst '.' name ∉ loop.node.loopVars := by
  intro varies
  unfold invariantIn at invariant
  rw [List.contains_iff_mem.mpr varies] at invariant
  split at invariant
  · cases invariant
  · cases invariant

theorem Node.info_of_kind_call {node : Node} (kind : node.kind = .call) : ∃ c, node.info = .call c := by
  unfold Node.kind at kind
  cases found : node.info with
  | call c => exact ⟨c, rfl⟩
  | _ =>
    rw [found] at kind
    cases kind

namespace Grammar

variable {g : Grammar} {source : Source}

-- The first name of several arguments is one of the first argument, if that has any.
theorem head?_namesOf_cons {first : Tree} {rest : List Tree} (mentions : g.names source (some first) ≠ []) :
    (g.namesOf source (first :: rest)).head? = (g.names source (some first)).head? := by
  unfold names namesOf at mentions ⊢
  rw [head?_eraseDups, head?_eraseDups, Option.toList_some, List.flatMap_cons, List.flatMap_singleton]
  rw [Option.toList_some, List.flatMap_singleton] at mentions
  cases mentioned : g.mentionsIn source first with
  | nil => simp [mentioned] at mentions
  | cons name more => rfl

theorem StandsFor.call {place : Tree.Place} {node : Node} {c : CallInfo} (stands : g.StandsFor source place node)
    (isCall : node.info = .call c) : g.callInfo source place.above place.node = .ok c := by
  have kind : node.kind = .call := congrArg Info.kind isCall
  obtain ⟨value, once, isRead, counted⟩ := stands.read_eq_ok kind rfl
  rw [isCall] at counted
  cases counted
  exact isRead

-- Every call of an outline was read off a call of the tree.
theorem outline_call {tag : String} {top : Tree} {outline : Outline} {site : Site} {c : CallInfo}
    (opens : g.ClausesOpen) (done : g.outline tag source (some top) = .ok outline) (held : outline.Holds site)
    (isCall : site.node.info = .call c) : ∃ place ∈ Tree.Place.walk [] top,
      g.StandsFor source place site.node ∧ g.callInfo source place.above place.node = .ok c := by
  obtain ⟨place, isPlace, stands⟩ := outline_origin opens done held (by simp [isCall])
  exact ⟨place, isPlace, stands, stands.call isCall⟩

-- The arguments of a call as they stand in the tree.
def argsOf (g : Grammar) (call : Tree) : List Tree :=
  g.argNodes (g.callParts call).args

-- What a call says of its name and its arguments.
structure TellsCall (g : Grammar) (source : Source) (tree : Tree) (c : CallInfo) : Prop where
  qualified : g.callQualified source depthLimit tree = .ok c.qualified
  args : c.args = (g.argsOf tree).map source.ofTree
  kinds : c.argLiteralKinds = (g.argsOf tree).map g.literalKind
  names : c.argNames = g.namesOf source (g.argsOf tree)

theorem callInfo_eq_ok {path : List Tree} {tree : Tree} {c : CallInfo} (read : g.callInfo source path tree = .ok c) :
    g.TellsCall source tree c := by
  obtain ⟨_, _, read⟩ := bind_eq_ok.mp read
  obtain ⟨name, isName, read⟩ := bind_eq_ok.mp read
  obtain ⟨_, _, read⟩ := bind_eq_ok.mp read
  cases read
  exact ⟨isName, rfl, rfl, rfl⟩

end Grammar

namespace Catalog

variable {ctx : Context} {call : Site} {c : CallInfo}

theorem findRegex_isSome {use : PatternUse} (used : patternUse? ctx call = some use) :
    (findRegex ctx call).isSome = true ↔ use.pattern ≠ "" ∧ call.loops ≠ [] ∧
      ∀ loop ∈ call.loops, ∀ name ∈ use.names, loop.invariantIn name = true := by
  simp only [Option.isSome_iff_exists, findRegex, used, Option.bind_eq_bind, Option.bind_some, Option.bind_eq_some_iff,
    Option.guard_eq_some']
  cases call.loops with
  | nil => simp
  | cons nearest outer => simp

theorem patternUse?_call (ctx : Context) (isCall : call.node.info = .call c)
    (known : c.qualified ∈ regexMatchers ∨ c.qualified ∈ regexCompilers) :
    ∃ use, patternUse? ctx call = some use ∧ use.pattern = c.arg 0 ∧
      use.names = if c.argLiteralKinds.head? == some "string" then [] else c.argNames.take 1 := by
  unfold patternUse?
  rw [isCall]
  dsimp only
  split
  · rename_i unknown
    simp_all
  · exact ⟨_, rfl, rfl, rfl⟩

theorem findRegex_isSome_iff (isCall : call.node.info = .call c) :
    (findRegex ctx call).isSome = true ↔ (c.qualified ∈ regexMatchers ∨ c.qualified ∈ regexCompilers) ∧
      c.arg 0 ≠ "" ∧ call.loops ≠ [] ∧ (c.argLiteralKinds.head? = some "string" ∨
        ∀ loop ∈ call.loops, ∀ name ∈ c.argNames.head?, loop.invariantIn name = true) := by
  by_cases known : c.qualified ∈ regexMatchers ∨ c.qualified ∈ regexCompilers
  · obtain ⟨use, used, pattern, names⟩ := patternUse?_call ctx isCall known
    rw [findRegex_isSome used, pattern, names]
    simp only [known, true_and]
    refine and_congr_right fun _ => and_congr_right fun _ => ?_
    by_cases literal : c.argLiteralKinds.head? = some "string"
    · simp [literal]
    · simp only [literal, false_or, beq_iff_eq, if_false]
      cases c.argNames <;> simp
  · have unused : patternUse? ctx call = none := by
      unfold patternUse?
      rw [isCall]
      simp_all
    unfold findRegex
    rw [unused]
    simp [known]

-- What the rule asks of a pattern that is the first argument of a call.
def SeemsInvariant (g : Grammar) (source : Source) (loops : List Site) (args : List Tree) : Prop :=
  ∃ first rest, args = first :: rest ∧ source.ofTree first ≠ "" ∧ (g.literalKind first = "string" ∨
    ∀ loop ∈ loops, ∀ name ∈ (g.namesOf source args).head?, loop.invariantIn name = true)

theorem seemsInvariant_iff {g : Grammar} {source : Source} {tree : Tree} {loops : List Site}
    (tells : g.TellsCall source tree c) :
    SeemsInvariant g source loops (g.argsOf tree) ↔ c.arg 0 ≠ "" ∧ (c.argLiteralKinds.head? = some "string" ∨
      ∀ loop ∈ loops, ∀ name ∈ c.argNames.head?, loop.invariantIn name = true) := by
  rw [CallInfo.arg, tells.args, tells.kinds, tells.names, SeemsInvariant]
  cases g.argsOf tree with
  | nil => simp
  | cons first rest => simp

-- When a call in a loop is reported, and what of its first argument may then still change from iteration to iteration.
structure JudgesPattern (g : Grammar) (source : Source) (ctx : Context) (call : Site) (tree : Tree) : Prop where
  reported_iff : (∃ hit, regexInLoop.Reports ctx call hit) ↔
    (∃ name, g.callQualified source Grammar.depthLimit tree = .ok name ∧
      (name ∈ regexMatchers ∨ name ∈ regexCompilers)) ∧
      call.loops ≠ [] ∧ SeemsInvariant g source call.loops (g.argsOf tree)
  varying : (∃ hit, regexInLoop.Reports ctx call hit) → ∀ first ∈ (g.argsOf tree).head?,
    ∀ name ∈ g.names source (some first), ∀ loop ∈ call.loops, name ∈ loop.node.loopVars →
      g.literalKind first = "string" ∨ (g.names source (some first)).head? ≠ some name ∨ '.' ∈ name.toList

-- The pattern may change only inside a literal, behind the first of its names, or under a dotted name.
theorem SeemsInvariant.varying {g : Grammar} {source : Source} {loops : List Site} {args : List Tree}
    (seems : SeemsInvariant g source loops args) {first : Tree} (isFirst : first ∈ args.head?) {name : String}
    {loop : Site} (isLoop : loop ∈ loops) (varies : name ∈ loop.node.loopVars) :
    g.literalKind first = "string" ∨ (g.names source (some first)).head? ≠ some name ∨ '.' ∈ name.toList := by
  obtain ⟨head, rest, rfl, _, literal | invariant⟩ := seems
  · cases isFirst
    exact .inl literal
  · cases isFirst
    refine .inr (or_iff_not_imp_left.mpr fun leads => ?_)
    have isHead := not_not.mp leads
    by_contra plain
    have mentions : g.names source (some first) ≠ [] := by
      intro none
      rw [none] at isHead
      cases isHead
    have asked := invariant loop isLoop name (by rw [Grammar.head?_namesOf_cons mentions, isHead]; rfl)
    exact Site.root_not_loopVar asked (by rwa [Text.beforeFirst_eq_self plain])

theorem reported_iff {g : Grammar} {source : Source} {tree : Tree} (ctx : Context) (isCall : call.node.info = .call c)
    (tells : g.TellsCall source tree c) :
    (∃ hit, regexInLoop.Reports ctx call hit) ↔
      (∃ name, g.callQualified source Grammar.depthLimit tree = .ok name ∧
        (name ∈ regexMatchers ∨ name ∈ regexCompilers)) ∧
        call.loops ≠ [] ∧ SeemsInvariant g source call.loops (g.argsOf tree) := by
  have isSome : (∃ hit, regexInLoop.Reports ctx call hit) ↔ (findRegex ctx call).isSome = true := by
    rw [Option.isSome_iff_exists]
    exact exists_congr fun hit => Rule.reports_iff rfl
  have named : (∃ name, g.callQualified source Grammar.depthLimit tree = .ok name ∧
      (name ∈ regexMatchers ∨ name ∈ regexCompilers)) ↔
        c.qualified ∈ regexMatchers ∨ c.qualified ∈ regexCompilers := by
    simp [tells.qualified]
  rw [isSome, findRegex_isSome_iff isCall, seemsInvariant_iff tells, named]
  exact and_congr_right fun _ => and_left_comm

-- The pattern of a call in a loop is judged by the first name in its arguments alone, and not at all where it is
-- written as a literal.
theorem regexInLoop_judges {language : Language} {source : Source} {tree : Option Tree} {ctx : Context} {call : Site}
    {c : CallInfo} (done : language.outline source tree = .ok ctx.outline) (held : ctx.outline.Holds call)
    (isCall : call.node.info = .call c) :
    ∃ top ∈ tree, ∃ place ∈ Tree.Place.walk [] top, language.grammar.StandsFor source place call.node ∧
      language.grammar.callInfo source place.above place.node = .ok c ∧
      JudgesPattern language.grammar source ctx call place.node := by
  have lowered := mapError_eq_ok.mp done
  obtain ⟨top, _, rfl, _, _⟩ := Grammar.outline_eq_ok lowered
  obtain ⟨place, isPlace, stands, read⟩ := Grammar.outline_call (Grammar.clausesOpen language) lowered held isCall
  have judged := reported_iff ctx isCall (Grammar.callInfo_eq_ok read)
  refine ⟨top, rfl, place, isPlace, stands, read, judged, ?_⟩
  intro reported first isFirst name _ loop isLoop varies
  exact (judged.mp reported).2.2.varying isFirst isLoop varies

end Catalog

-- The second name of the pattern is the variable of the loop, or another one.
def variedSource (varied : Bool) : Source :=
  { bytes := ("for x in xs:\n    re.compile(p + " ++ (if varied then "x" else "q") ++ ")\n").toUTF8.toList }

def variedTree : Tree :=
  .node { type := "module", first := 0, last := 35 }
    [.node { type := "for_statement", first := 0, last := 34 }
      [.node { type := "identifier", first := 4, last := 5, fields := ["left"] } [],
       .node { type := "identifier", first := 9, last := 11, fields := ["right"] } [],
       .node { type := "block", first := 17, last := 34, fields := ["body"] }
        [.node { type := "expression_statement", first := 17, last := 34 }
          [.node { type := "call", first := 17, last := 34 }
            [.node { type := "attribute", first := 17, last := 27, fields := ["function"] }
              [.node { type := "identifier", first := 17, last := 19, fields := ["object"] } [],
               .node { type := "identifier", first := 20, last := 27, fields := ["attribute"] } []],
             .node { type := "argument_list", first := 27, last := 34, fields := ["arguments"] }
              [.node { type := "binary_operator", first := 28, last := 33 }
                [.node { type := "identifier", first := 28, last := 29, fields := ["left"] } [],
                 .node { type := "+", named := false, first := 30, last := 31, fields := ["operator"] } [],
                 .node { type := "identifier", first := 32, last := 33, fields := ["right"] } []]]]]]]]

theorem variedTree_lowered :
    ∀ varied, (Language.python.outline (variedSource varied) (some variedTree)).toOption.isSome = true := by
  decide +kernel

def variedContext (varied : Bool) : Context :=
  let outline := (Language.python.outline (variedSource varied) (some variedTree)).toOption.get (variedTree_lowered varied)
  { outline, language := "python", hints := {}, settings := {}, graph := outline.callGraph }

theorem varied_found (varied : Bool) : ∃ call c, (variedContext varied).outline.Holds call ∧ call.node.info = .call c ∧
    (∃ hit, Catalog.regexInLoop.Reports (variedContext varied) call hit) ∧
    ∃ loop ∈ call.loops, "x" ∈ loop.node.loopVars := by
  have found : ((variedContext varied).outline.preorder.any fun call => call.kind == .call &&
      (Catalog.findRegex (variedContext varied) call).isSome && call.loops.any (·.node.loopVars.contains "x")) = true := by
    revert varied
    decide +kernel
  obtain ⟨call, inOutline, held⟩ := List.any_eq_true.mp found
  simp only [Bool.and_eq_true, beq_iff_eq, List.any_eq_true, List.contains_iff_mem] at held
  obtain ⟨⟨kind, isSome⟩, loop, isLoop, varies⟩ := held
  obtain ⟨hit, isHit⟩ := Option.isSome_iff_exists.mp isSome
  obtain ⟨c, isCall⟩ := Node.info_of_kind_call kind
  exact ⟨call, c, Outline.mem_preorder.mp inOutline, isCall, ⟨hit, (Rule.reports_iff rfl).mpr isHit⟩, loop, isLoop,
    varies⟩

-- The names of the pattern at the one call of the tree.
theorem varied_names (varied : Bool) {place : Tree.Place} {node : Node} {c : CallInfo}
    (isPlace : place ∈ Tree.Place.walk [] variedTree)
    (stands : Language.python.grammar.StandsFor (variedSource varied) place node) (isCall : node.info = .call c) :
    ∃ first ∈ (Language.python.grammar.argsOf place.node).head?,
      Language.python.grammar.names (variedSource varied) (some first) = ["p", if varied then "x" else "q"] := by
  have named : ∀ varied, ∀ place ∈ Tree.Place.walk [] variedTree,
      Language.python.grammar.kindAt (variedSource varied) place = some .call →
        ∃ first ∈ (Language.python.grammar.argsOf place.node).head?,
          Language.python.grammar.names (variedSource varied) (some first) = ["p", if varied then "x" else "q"] := by
    decide +kernel
  refine named varied place isPlace ?_
  rw [stands.part, show node.kind = .call from congrArg Info.kind isCall]

-- Nothing of the reported pattern changes with the loop.
theorem varied_judged :
    Language.python.outline (variedSource false) (some variedTree) = .ok (variedContext false).outline ∧
      ∃ call c, (variedContext false).outline.Holds call ∧ call.node.info = .call c ∧
        (∃ hit, Catalog.regexInLoop.Reports (variedContext false) call hit) ∧
        ∃ top ∈ some variedTree, ∃ place ∈ Tree.Place.walk [] top,
          Language.python.grammar.StandsFor (variedSource false) place call.node ∧
          Language.python.grammar.callInfo (variedSource false) place.above place.node = .ok c ∧
          Catalog.JudgesPattern Language.python.grammar (variedSource false) (variedContext false) call place.node ∧
          ∃ first ∈ (Language.python.grammar.argsOf place.node).head?,
            Language.python.grammar.names (variedSource false) (some first) = ["p", "q"] := by
  have done := eq_ok_get (variedTree_lowered false)
  obtain ⟨call, c, held, isCall, reported, _⟩ := varied_found false
  obtain ⟨top, isTop, place, isPlace, stands, read, judges⟩ := Catalog.regexInLoop_judges done held isCall
  cases isTop
  exact ⟨done, call, c, held, isCall, reported, variedTree, rfl, place, isPlace, stands, read, judges,
    varied_names false isPlace stands isCall⟩

-- A reported pattern that mentions the variable of the loop.
theorem varied_reported :
    Language.python.outline (variedSource true) (some variedTree) = .ok (variedContext true).outline ∧
      ∃ call, (variedContext true).outline.Holds call ∧
        (∃ hit, Catalog.regexInLoop.Reports (variedContext true) call hit) ∧
        ∃ place ∈ Tree.Place.walk [] variedTree,
          Language.python.grammar.StandsFor (variedSource true) place call.node ∧
          ∃ first ∈ (Language.python.grammar.argsOf place.node).head?, ∃ loop ∈ call.loops,
            ∃ name ∈ Language.python.grammar.names (variedSource true) (some first), name ∈ loop.node.loopVars := by
  have done := eq_ok_get (variedTree_lowered true)
  obtain ⟨call, c, held, isCall, reported, loop, isLoop, varies⟩ := varied_found true
  obtain ⟨place, isPlace, stands, _⟩ := Grammar.outline_call (Grammar.clausesOpen .python) (mapError_eq_ok.mp done) held
    isCall
  obtain ⟨first, isFirst, names⟩ := varied_names true isPlace stands isCall
  exact ⟨done, call, held, reported, place, isPlace, stands, first, isFirst, loop, isLoop, "x", by simp [names], varies⟩

end Perflint
