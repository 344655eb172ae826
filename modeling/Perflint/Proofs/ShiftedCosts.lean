import Mathlib
import Perflint.Cost.Estimate
import Perflint.Proofs.CostPaths
import Perflint.Proofs.ShiftedRules
import Perflint.Proofs.StalledLoops

namespace Perflint

namespace Bound

variable (lines : Nat) (outline : Outline) (scope : Scope) (loop : Site)

theorem assignmentsIn_shift : assignmentsIn (loop.shift lines) = assignmentsIn loop := by
  simp [assignmentsIn, List.filterMap_map, Function.comp_def]

theorem updatedNames_shift (l : LoopInfo) : updatedNames (loop.shift lines) l = updatedNames loop l := by
  simp [updatedNames, changedBy, List.flatMap_map]

theorem isHalving_shift (l : LoopInfo) (names : List String) :
    isHalving (loop.shift lines) l names = isHalving loop l names := by
  simp only [isHalving, assignmentsIn_shift]

theorem countsToLiteral_shift (l : LoopInfo) :
    countsToLiteral (outline.shift lines) (scope.shift lines) (loop.shift lines) l =
      countsToLiteral outline scope loop l := by
  simp only [countsToLiteral, assignmentsIn_shift, Site.span_shift, Span.start_shift, Outline.lastAssignment?_shift,
    Option.bind_map, Function.comp_def, Site.node_shift, Node.assignment?_shift]

theorem isLiteralCollection_shift (name : String) :
    isLiteralCollection (outline.shift lines) name = isLiteralCollection outline name := by
  simp only [isLiteralCollection, Outline.unitScope_shift, Scope.assignmentsTo_shift]
  match outline.unitScope.assignmentsTo name with
  | [] => rfl
  | [only] => simp
  | _ :: _ :: _ => rfl

theorem isConstant_shift (l : LoopInfo) :
    isConstant (outline.shift lines) (scope.shift lines) (loop.shift lines) l = isConstant outline scope loop l := by
  have constants : (outline.shift lines).isUnitConstant = outline.isUnitConstant :=
    funext (outline.isUnitConstant_shift lines)
  simp only [isConstant, constants, isLiteralCollection_shift, countsToLiteral_shift]

theorem keepsCursor_shift (outer : Site) (updated : List String) :
    keepsCursor (outline.shift lines) (scope.shift lines) (loop.shift lines) (outer.shift lines) updated =
      keepsCursor outline scope loop outer updated := by
  simp [keepsCursor, startParams, Function.comp_def]

theorem isAmortized_shift (updated : List String) (enclosing : List Site) :
    isAmortized (outline.shift lines) (scope.shift lines) (loop.shift lines) updated (enclosing.map (Site.shift lines)) =
      isAmortized outline scope loop updated enclosing := by
  unfold isAmortized
  rw [List.find?_map]
  simp only [Function.comp_def, Site.node_shift, Node.isLoop_shift]
  cases enclosing.find? (·.node.isLoop) with
  | none => rfl
  | some outer => exact keepsCursor_shift lines outline scope loop outer updated

theorem ofSite_shift (enclosing : List Site) :
    ofSite (outline.shift lines) (scope.shift lines) (loop.shift lines) (enclosing.map (Site.shift lines)) =
      ofSite outline scope loop enclosing := by
  simp only [ofSite, ofLoop, ofCondition, isConstant_shift, isHalving_shift, updatedNames_shift, isAmortized_shift,
    Site.node_shift, Node.loop?_shift, Node.iterates_shift]

end Bound

-- The children that are chosen and the loops around them, as both walks of a scope take them.
theorem Node.filter_children_shift (lines : Nat) (node : Node) (chosen : Bool → Bool) :
    ((node.shift lines).children.filter fun child => chosen ((node.shift lines).runsPerIteration child)) =
      (node.children.filter fun child => chosen (node.runsPerIteration child)).map (Node.shift lines) := by
  simp only [Node.children_shift, List.filter_map, Function.comp_def, Site.runsPerIteration_shift]

theorem Site.around_shift (lines : Nat) (site : Site) (enclosing : List Site) (child : Node) :
    (if (site.shift lines).node.runsPerIteration (child.shift lines)
        then site.shift lines :: enclosing.map (Site.shift lines) else enclosing.map (Site.shift lines)) =
      (if site.node.runsPerIteration child then site :: enclosing else enclosing).map (Site.shift lines) := by
  rw [Site.node_shift, Site.runsPerIteration_shift, apply_ite (List.map (Site.shift lines)), List.map_cons]

namespace Cost

def shift (lines : Nat) (cost : Cost) : Cost :=
  { cost with loops := cost.loops.map (Site.shift lines) }

variable (lines : Nat)

theorem degree_shift (cost : Cost) : (cost.shift lines).degree = cost.degree := rfl

theorem logs_shift (cost : Cost) : (cost.shift lines).logs = cost.logs := rfl

theorem dearest_shift (costs : List Cost) : dearest (costs.map (shift lines)) = (dearest costs).shift lines := by
  have fold : ∀ best : Cost,
      (costs.map (shift lines)).foldl (fun best cost => if best.below cost then cost else best) (best.shift lines) =
        (costs.foldl (fun best cost => if best.below cost then cost else best) best).shift lines := by
    induction costs with
    | nil => intro best; rfl
    | cons cost costs ih =>
      intro best
      have same : (best.shift lines).below (cost.shift lines) = best.below cost := rfl
      rw [List.map_cons, List.foldl_cons, List.foldl_cons, same, ← ih, apply_ite (shift lines)]
  exact fold {}

theorem nest_shift (site : Site) (factor : Nat × Nat) (body : Cost) :
    nest (site.shift lines) factor (body.shift lines) = (nest site factor body).shift lines := by
  unfold nest
  split <;> rfl

section Walk

variable (outline : Outline) (scope : Scope)

theorem factorAt_shift (site : Site) (enclosing : List Site) :
    factorAt (outline.shift lines) (scope.shift lines) (site.shift lines) (enclosing.map (Site.shift lines)) =
      factorAt outline scope site enclosing := by
  rw [factorAt_eq, factorAt_eq, Bound.ofSite_shift]

theorem ofNode_shift (above : List Node) (enclosing : List Site) (node : Node) :
    ofNode (outline.shift lines) (scope.shift lines) (above.map (Node.shift lines)) (enclosing.map (Site.shift lines))
        (node.shift lines) = (ofNode outline scope above enclosing node).shift lines := by
  induction node using Node.nested_induction generalizing above enclosing with
  | step node ih =>
    let site : Site := { node, above }
    have costs : ∀ chosen : Node → Bool, ((node.children.filter chosen).map (Node.shift lines)).map
        (childCost (outline.shift lines) (scope.shift lines) (site.shift lines) (enclosing.map (Site.shift lines))) =
          ((node.children.filter chosen).map (childCost outline scope site enclosing)).map (shift lines) := by
      intro chosen
      rw [List.map_map, List.map_map]
      refine List.map_congr_left fun child member => ?_
      rw [Function.comp_apply, Function.comp_apply, childCost, childCost, Site.around_shift]
      exact ih child (List.mem_filter.mp member).1 (node :: above) _
    rw [ofNode_eq, ofNode_eq, Node.isFunction_shift,
      node.filter_children_shift lines (!·), node.filter_children_shift lines (·)]
    split
    · rfl
    · change dearest (List.map (childCost _ _ (site.shift lines) _) _ ++ [nest (site.shift lines)
        (factorAt _ _ (site.shift lines) _) (dearest (List.map (childCost _ _ (site.shift lines) _) _))]) = _
      rw [costs, costs, dearest_shift, factorAt_shift, nest_shift, ← dearest_shift, List.map_append]
      rfl

end Walk

theorem ofScope_shift (outline : Outline) (scope : Scope) :
    ofScope (outline.shift lines) (scope.shift lines) = (ofScope outline scope).shift lines := by
  unfold ofScope
  dsimp only
  rw [← dearest_shift, Scope.root_shift, Site.node_shift, Node.children_shift, List.map_map, List.map_map]
  refine congrArg dearest (List.map_congr_left fun child _ => ?_)
  exact ofNode_shift lines outline scope (scope.root.node :: scope.root.above) [] child

end Cost

namespace Visit

def shift (lines : Nat) (visit : Visit) : Visit :=
  { site := visit.site.shift lines, enclosing := visit.enclosing.map (Site.shift lines) }

theorem below_shift (lines : Nat) (above : List Node) (enclosing : List Site) (node : Node) :
    below (above.map (Node.shift lines)) (enclosing.map (Site.shift lines)) (node.shift lines) =
      (below above enclosing node).map (shift lines) := by
  induction node using Node.nested_induction generalizing above enclosing with
  | step node ih =>
    let site : Site := { node, above }
    have visits : ∀ chosen : Node → Bool, ((node.children.filter chosen).map (Node.shift lines)).flatMap
        (childVisits (site.shift lines) (enclosing.map (Site.shift lines))) =
          ((node.children.filter chosen).flatMap (childVisits site enclosing)).map (shift lines) := by
      intro chosen
      rw [List.flatMap_map, List.map_flatMap]
      refine List.flatMap_congr fun child member => ?_
      rw [childVisits, childVisits, Site.around_shift]
      exact ih child (List.mem_filter.mp member).1 (node :: above) _
    rw [below_eq, below_eq, Node.isFunction_shift,
      node.filter_children_shift lines (!·), node.filter_children_shift lines (·)]
    split
    · rfl
    · change List.flatMap (childVisits (site.shift lines) _) _ ++ List.flatMap (childVisits (site.shift lines) _) _ ++ _ = _
      rw [visits, visits, List.map_append, List.map_append]
      rfl

theorem ofScope_shift (lines : Nat) (scope : Scope) : ofScope (scope.shift lines) = (ofScope scope).map (shift lines) := by
  unfold ofScope
  dsimp only
  rw [Scope.root_shift, Site.node_shift, Node.children_shift, List.flatMap_map, List.map_flatMap]
  exact List.flatMap_congr fun child _ => below_shift lines (scope.root.node :: scope.root.above) [] child

end Visit

theorem Scope.boundedBy_shift (lines : Nat) (scope : Scope) (outline : Outline) (bound : Bound) :
    (scope.shift lines).boundedBy (outline.shift lines) bound = (scope.boundedBy outline bound).map (Site.shift lines) := by
  simp only [Scope.boundedBy, Visit.ofScope_shift, List.filter_map, List.map_map, Function.comp_def, Visit.shift,
    Bound.ofSite_shift]

namespace Scope

variable (lines : Nat) (scope : Scope)

theorem selfCalls_shift : (scope.shift lines).selfCalls = scope.selfCalls.map (Site.shift lines) := by
  rw [selfCalls, selfCalls, isUnit_shift]
  split
  · rfl
  · simp only [nodes_shift, List.filter_map, Function.comp_def, Site.node_shift, Node.call?_shift,
      CallInfo.staysInUnit_shift, name_shift]

theorem guardContainer?_shift (calls : List Site) :
    (scope.shift lines).guardContainer? (calls.map (Site.shift lines)) = scope.guardContainer? calls := by
  have writes : (scope.shift lines).writesTo = scope.writesTo := by
    funext container
    simp only [writesTo, nodes_shift, List.any_map, Function.comp_def, Site.node_shift, Node.info_shift]
  simp only [guardContainer?, nodes_shift, List.findSome?_map, Function.comp_def, Site.node_shift, Node.conditional?_shift,
    List.all_map, Site.span_shift, Span.start_shift, Position.lt_shift, writes]

theorem memoEvidence_shift (calls : List Site) :
    (scope.shift lines).memoEvidence (calls.map (Site.shift lines)) = scope.memoEvidence calls := by
  simp only [memoEvidence, guardContainer?_shift, root_shift, Site.node_shift, Node.function?_shift]

end Scope

theorem walkedCollection?_shift (lines : Nat) (call : Site) :
    walkedCollection? (call.shift lines) = walkedCollection? call := by
  unfold walkedCollection?
  rw [Site.loops_shift, Site.node_shift, Node.call?_shift]
  cases call.loops with
  | nil => rfl
  | cons loop rest =>
    cases call.node.call? with
    | none => rfl
    | some c => simp [Node.iterationNames]

theorem structuralOver?_shift (lines : Nat) (calls : List Site) :
    structuralOver? (calls.map (Site.shift lines)) = structuralOver? calls := by
  simp only [structuralOver?, List.all_map, Function.comp_def, walkedCollection?_shift, List.head?_map, Option.bind_map]

end Perflint
