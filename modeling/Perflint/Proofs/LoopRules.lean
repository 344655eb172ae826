import Mathlib
import Perflint.Proofs.CallResolution
import Perflint.Proofs.CatalogHits
import Perflint.Proofs.CostPaths

namespace Perflint

namespace Site

theorem iterates_of_repeats {parent child : Node} (repeated : repeats parent child = true) : parent.iterates = true := by
  unfold repeats at repeated
  split at repeated
  · rename_i isLoop
    exact Node.iterates_of_isLoop isLoop
  · exact (Bool.and_eq_true_iff.mp repeated).1

theorem iterates_of_mem_loops {site loop : Site} (member : loop ∈ site.loops) : loop.node.iterates = true := by
  have upward : ∀ (above : List Node) (child : Node), loop ∈ loopsFrom child above → loop.node.iterates = true := by
    intro above
    induction above with
    | nil =>
      intro child inside
      cases inside
    | cons node above ih =>
      intro child inside
      unfold loopsFrom at inside
      split at inside
      · cases inside
      · split at inside
        · rename_i repeated
          rcases List.mem_cons.mp inside with rfl | higher
          · exact iterates_of_repeats repeated
          · exact ih node higher
        · exact ih node inside
  exact upward site.above site.node member

-- Without a node that iterates nothing runs more than once.
theorem loops_eq_nil {outline : Outline} {site : Site} (held : outline.Holds site)
    (still : ∀ other, outline.Holds other → other.node.iterates = false) : site.loops = [] := by
  refine List.eq_nil_iff_forall_not_mem.mpr fun loop member => ?_
  have iterates := iterates_of_mem_loops member
  rw [still loop (Outline.holds_loop held member)] at iterates
  cases iterates

end Site

-- A function that a loop of another scope calls, or that has enough calls from other scopes.
def Context.Hot (ctx : Context) (scope : Scope) : Prop :=
  scope ∈ ctx.outline.functions ∧
    ((∃ call ∈ ctx.outline.callsFromElsewhere scope, call.loops ≠ []) ∨
      ctx.settings.hotFanIn ≤ (ctx.outline.callsFromElsewhere scope).length)

theorem Context.hot_of_structural {ctx : Context} {site : Site} (held : ctx.outline.Holds site)
    (ownGraph : ctx.graph = ctx.outline.callGraph)
    (reason : (ctx.hotReasons (ctx.outline.scopeOf site)).any HotReason.isStructural = true) :
    ctx.Hot (ctx.outline.scopeOf site) := by
  have structural := (any_isStructural_hotReasons ctx _ ctx.hints).symm.trans reason
  obtain ⟨notUnit, structural⟩ := Bool.and_eq_true_iff.mp structural
  have isFunction : ctx.outline.scopeOf site ∈ ctx.outline.functions := by
    rcases Outline.scopeOf_mem_functions held with isFunction | ⟨isUnit, _⟩
    · exact isFunction
    · rw [isUnit] at notUnit
      cases notUnit
  refine ⟨isFunction, ?_⟩
  rw [ownGraph, Bool.or_eq_true, decide_eq_true_eq, Outline.fanIn_eq isFunction,
    Outline.calledInLoop_iff isFunction] at structural
  exact structural.symm

namespace Catalog

def loopRules : List String :=
  ["n-plus-one-query", "io-in-loop", "collection-scan-in-loop", "collection-copy-in-loop", "front-insert-in-loop",
   "nested-loop-join", "sort-in-loop", "string-concat-in-loop", "regex-in-loop", "sleep-in-loop", "await-in-loop"]

theorem forms_inLoop : ∀ entry ∈ forms, entry.1.id ∈ loopRules → entry.2.inLoop = true := by
  decide

theorem loops_of_reports {rule : Rule} (member : rule ∈ rules) (speaksOfLoops : rule.id ∈ loopRules) {ctx : Context}
    {site : Site} {hit : Hit} (reported : rule.Reports ctx site hit) : site.loops ≠ [] := by
  obtain ⟨form, isForm⟩ := exists_form member
  exact (forms_kept _ isForm ctx site hit reported).loops (forms_inLoop _ isForm speaksOfLoops)

theorem deepClone_structural {ctx : Context} {site : Site} {hit : Hit}
    (reported : deepCloneInHotPath.Reports ctx site hit) :
    site.loops ≠ [] ∨ (ctx.hotReasons (ctx.outline.scopeOf site)).any HotReason.isStructural = true := by
  have found := (Rule.reports_iff rfl).mp reported
  simp only [findDeepClone, Option.bind_eq_bind, Option.bind_eq_some_iff, Option.guard_eq_some', Bool.or_eq_true,
    Bool.not_eq_true', List.isEmpty_eq_false_iff] at found
  obtain ⟨_, _, _, structural, _⟩ := found
  exact structural

-- The eleven rules report nodes in the per-iteration part of a loop only; a deep copy outside every loop is
-- reported in a function that the unit itself shows to be hot. Where nothing iterates, no hints change that.
theorem loopRules_report_in_loops (ctx : Context) :
    (∀ rule ∈ rules, rule.id ∈ loopRules → ∀ site hit, rule.Reports ctx site hit → site.loops ≠ []) ∧
    (ctx.graph = ctx.outline.callGraph → ∀ site hit, ctx.outline.Holds site →
      deepCloneInHotPath.Reports ctx site hit → site.loops ≠ [] ∨ ctx.Hot (ctx.outline.scopeOf site)) ∧
    ((∀ site, ctx.outline.Holds site → site.node.iterates = false) → ∀ hints budget,
      ∀ m ∈ (evaluate (ctx.hinted hints) registry budget).found, m.ruleId ∉ loopRules) := by
  refine ⟨?_, ?_, ?_⟩
  · intro rule member speaksOfLoops site hit reported
    exact loops_of_reports member speaksOfLoops reported
  · intro ownGraph site hit held reported
    exact (deepClone_structural reported).imp_right (Context.hot_of_structural held ownGraph)
  · intro still hints budget m member speaksOfLoops
    obtain ⟨rule, isRule, site, hit, held, reported, rfl⟩ := evaluate_reported member
    exact loops_of_reports isRule speaksOfLoops reported (Site.loops_eq_nil held still)

end Catalog

theorem rowQuery_repeated : ∃ hit, Catalog.nPlusOneQuery.Reports
    (rowsContext.hinted { largeCollections := ["rows"] }) rowQuerySite hit ∧ rowQuerySite.loops ≠ [] := by
  have shown : (Catalog.findQueryPerElement (rowsContext.hinted { largeCollections := ["rows"] })
      rowQuerySite).isSome = true := by decide +kernel
  obtain ⟨hit, found⟩ := Option.isSome_iff_exists.mp shown
  have reported : Catalog.nPlusOneQuery.Reports (rowsContext.hinted { largeCollections := ["rows"] }) rowQuerySite hit :=
    (Rule.reports_iff rfl).mpr found
  exact ⟨hit, reported, (Catalog.loopRules_report_in_loops _).1 _ List.mem_cons_self (by decide) _ _ reported⟩

end Perflint
