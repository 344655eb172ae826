import Mathlib
import Perflint.Proofs.CoherentEstimates

namespace Perflint

namespace Cost

-- The calls of the walk through a scope: the node, and the loops around it, nearest first. Every step goes from a node
-- to one of its children, and a loop is added where the child runs once per iteration.
inductive Calls (scope : Scope) : Site → List Site → Prop where
  | top {child : Node} (isChild : child ∈ scope.root.node.children) :
      Calls scope { node := child, above := scope.root.node :: scope.root.above } []
  | inside {site : Site} {enclosing : List Site} {child : Node} (called : Calls scope site enclosing)
      (opened : site.node.isFunction = false) (isChild : child ∈ site.node.children)
      (repeated : site.node.runsPerIteration child = true) :
      Calls scope { node := child, above := site.node :: site.above } (site :: enclosing)
  | outside {site : Site} {enclosing : List Site} {child : Node} (called : Calls scope site enclosing)
      (opened : site.node.isFunction = false) (isChild : child ∈ site.node.children)
      (once : site.node.runsPerIteration child = false) :
      Calls scope { node := child, above := site.node :: site.above } enclosing

variable {outline : Outline} {scope : Scope} {site : Site} {enclosing : List Site}

theorem Calls.holds (held : outline.Holds scope.root) (called : Calls scope site enclosing) : outline.Holds site := by
  induction called with
  | top isChild => exact Outline.holds_child held isChild
  | inside _ _ isChild _ ih | outside _ _ isChild _ ih => exact Outline.holds_child ih isChild

theorem Calls.repeats_eq {child : Node} (held : outline.Holds scope.root) (called : Calls scope site enclosing)
    (isChild : child ∈ site.node.children) : Site.repeats site.node child = site.node.runsPerIteration child :=
  Node.repeats_eq_runsPerIteration (Outline.ids_nodup_of_holds (called.holds held)) isChild

end Cost

-- No class and no unit lies strictly between the root of the scope and the node.
def Scope.Reaches (scope : Scope) (site : Site) : Prop :=
  ∀ between ∈ site.ancestors, scope.root ∈ between.ancestors → between.kind ≠ .classDef ∧ between.kind ≠ .unit

theorem Scope.Reaches.parent {scope : Scope} {site : Site} {child : Node}
    (reaches : scope.Reaches { node := child, above := site.node :: site.above }) (below : scope.root ∈ site.ancestors)
    (opened : site.node.isFunction = false) : site.kind.barsLoops = false ∧ scope.Reaches site := by
  refine ⟨?_, fun between isAbove => reaches between (List.mem_cons_of_mem _ isAbove)⟩
  obtain ⟨noClass, noUnit⟩ := reaches site List.mem_cons_self below
  have noFunction : site.kind ≠ .function := beq_eq_false_iff_ne.mp opened
  simp [Kind.barsLoops, noClass, noUnit, noFunction]

namespace Cost

variable {outline : Outline} {scope : Scope} {site : Site} {enclosing : List Site}

end Cost
end Perflint
