import Mathlib
import Perflint.Proofs.CallResolution
import Perflint.Proofs.CatalogFaults
import Perflint.Proofs.Containment
import Perflint.Proofs.CostPaths
import Perflint.Proofs.ScopeNodes
import Perflint.Proofs.StalledLoops

namespace Perflint

theorem flatMap_split_perm {α β : Type} (keep : α → Bool) (f : α → List β) (list : List α) :
    ((list.filter (!keep ·)).flatMap f ++ (list.filter keep).flatMap f).Perm (list.flatMap f) := by
  rw [← List.flatMap_append]
  exact (List.perm_append_comm.trans (List.filter_append_perm keep list)).flatMap_right f

namespace Site

theorem mem_ancestors_of_inScope {site below : Site} (member : below ∈ site.descendantsInScope) :
    site ∈ below.ancestors := by
  obtain ⟨_, _, path, _, place, _⟩ := mem_descendantsInScope.mp member
  exact mem_ancestorsFrom.mpr ⟨path, place⟩

theorem ne_of_mem_ancestors {outer inner : Site} (member : outer ∈ inner.ancestors) : outer ≠ inner := by
  rintro rfl
  obtain ⟨lower, place⟩ := mem_ancestorsFrom.mp member
  have length := congrArg List.length place
  rw [List.length_append, List.length_cons] at length
  omega

theorem inScope_child {parent node : Node} {above : List Node} (isChild : node ∈ parent.children) :
    { node, above := parent :: above } ∈ descendantsInScope { node := parent, above } :=
  mem_descendantsInScope.mpr ⟨node, isChild, [], rfl, rfl, by simp⟩

theorem inScope_deeper {parent node : Node} {above : List Node} {below : Site} (isChild : node ∈ parent.children)
    (opened : node.isFunction = false) (member : below ∈ descendantsInScope { node, above := parent :: above }) :
    below ∈ descendantsInScope { node := parent, above } := by
  obtain ⟨child, isGrandchild, path, leads, place, clear⟩ := mem_descendantsInScope.mp member
  refine mem_descendantsInScope.mpr ⟨node, isChild, path ++ [node], leads_append leads ⟨isGrandchild, rfl⟩, ?_, ?_⟩
  · rw [place, List.append_assoc, List.singleton_append]
  · intro onPath isOnPath
    rcases List.mem_append.mp isOnPath with lower | last
    · exact clear onPath lower
    · rw [List.mem_singleton.mp last, opened]

end Site

namespace Outline

variable {outline : Outline} {scope : Scope}

theorem map_id_nodup {sites : List Site} (isScope : scope ∈ outline.scopes)
    (inScope : ∀ site ∈ sites, site ∈ scope.nodes) (distinct : sites.Nodup) : (sites.map Site.id).Nodup := by
  refine List.Nodup.map_on ?_ distinct
  intro first isFirst second isSecond same
  exact eq_of_id_eq (holds_of_mem_nodes isScope (inScope first isFirst))
    (holds_of_mem_nodes isScope (inScope second isSecond)) same

end Outline

namespace Visit

theorem below_sites (above : List Node) (enclosing : List Site) (node : Node) :
    ((below above enclosing node).map Visit.site).Perm
      ((Site.walk true above node).filter (!·.node.isFunction)) := by
  induction node using Node.nested_induction generalizing above enclosing with
  | step node ih =>
    rw [below_eq, Site.walk_eq, Bool.true_and]
    cases opened : node.isFunction with
    | true => simp [opened]
    | false =>
      have visited := (flatMap_split_perm (node.runsPerIteration ·) (childVisits { node, above } enclosing)
        node.children).map Visit.site
      have walked : ((node.children.flatMap (childVisits { node, above } enclosing)).map Visit.site).Perm
          ((node.children.flatMap (Site.walk true (node :: above))).filter (!·.node.isFunction)) := by
        rw [List.map_flatMap, List.filter_flatMap]
        exact List.Perm.flatMap_left _ fun child isChild => ih child isChild _ _
      rw [if_neg Bool.false_ne_true, if_neg Bool.false_ne_true, List.map_append, List.map_singleton,
        List.filter_cons_of_pos (by simp [opened])]
      exact (List.perm_append_singleton _ _).trans ((visited.trans walked).cons _)

-- The visits come to every node of the scope, once.
theorem ofScope_sites (scope : Scope) : ((ofScope scope).map Visit.site).Perm scope.nodes := by
  rw [ofScope, Scope.nodes, Site.descendantsInScope, Site.walkAll_eq, List.map_flatMap, List.filter_flatMap]
  exact List.Perm.flatMap_left _ fun child _ => below_sites _ _ child

end Visit

namespace Scope

variable {outline : Outline} {scope : Scope} {bound : Bound} {site : Site}

theorem mem_nodes_of_boundedBy (member : site ∈ scope.boundedBy outline bound) : site ∈ scope.nodes :=
  (Visit.ofScope_sites scope).subset ((List.filter_sublist.map Visit.site).subset member)

theorem boundedBy_nodup (bound : Bound) (held : outline.Holds scope.root) : (scope.boundedBy outline bound).Nodup :=
  ((Visit.ofScope_sites scope).nodup_iff.mpr (Outline.nodes_nodup held)).sublist (List.filter_sublist.map Visit.site)

theorem iterates_of_unbounded (member : site ∈ scope.boundedBy outline .unbounded) : site.node.iterates = true := by
  obtain ⟨visit, listed, rfl⟩ := List.mem_map.mp member
  have unbounded := beq_iff_eq.mp (List.mem_filter.mp listed).2
  unfold Bound.ofSite at unbounded
  cases isLoop : visit.site.node.loop? with
  | some l => exact Node.iterates_of_isLoop (by simp [Node.isLoop, isLoop])
  | none =>
    rw [isLoop] at unbounded
    dsimp only at unbounded
    split at unbounded
    · assumption
    · cases unbounded

theorem selfCalls_sublist (scope : Scope) : scope.selfCalls.Sublist scope.nodes := by
  unfold selfCalls
  split
  · exact List.nil_sublist _
  · exact List.filter_sublist

end Scope

namespace Cost

variable {outline : Outline} {scope : Scope}

theorem mem_chargeAt {site : Site} {enclosing : List Site} {charge : Charge}
    (member : charge ∈ chargeAt outline scope site enclosing) : charge.site = site ∧ site.node.iterates = true := by
  unfold chargeAt at member
  split at member
  · rename_i iterates
    rw [List.mem_singleton.mp member]
    exact ⟨rfl, iterates⟩
  · cases member

-- The first node of a way may be charged for; the rest is charged as on the way that starts below it.
theorem charges_cons (outline : Outline) (scope : Scope) (above : List Node) (enclosing : List Site) (node : Node) (way : List Node) :
    ∃ here inner, here.Sublist (chargeAt outline scope { node, above } enclosing) ∧
      charges outline scope above enclosing (node :: way) =
        here ++ charges outline scope (node :: above) inner way := by
  cases way with
  | nil => exact ⟨_, enclosing, List.Sublist.refl _, by simp [charges]⟩
  | cons child rest =>
    rw [charges]
    split
    · exact ⟨_, _, List.Sublist.refl _, rfl⟩
    · exact ⟨[], enclosing, List.nil_sublist _, rfl⟩

theorem charged_inScope {parent : Node} {above : List Node} {enclosing : List Site} {way : List Node} {charge : Charge}
    (isWay : IsWay parent way) (member : charge ∈ charges outline scope (parent :: above) enclosing way) :
    charge.site ∈ Site.descendantsInScope { node := parent, above } ∧ charge.site.node.isFunction = false ∧
      charge.site.node.iterates = true := by
  induction way generalizing parent above enclosing with
  | nil => cases member
  | cons node way ih =>
    obtain ⟨isChild, opened, onward⟩ := isWay
    obtain ⟨here, inner, first, split⟩ := charges_cons outline scope (parent :: above) enclosing node way
    rw [split] at member
    rcases List.mem_append.mp member with atNode | later
    · obtain ⟨place, iterates⟩ := mem_chargeAt (first.subset atNode)
      rw [place]
      exact ⟨Site.inScope_child isChild, opened, iterates⟩
    · obtain ⟨below, plain, iterates⟩ := ih onward later
      exact ⟨Site.inScope_deeper isChild opened below, plain, iterates⟩

theorem charges_nested {parent : Node} {above : List Node} {enclosing : List Site} {way : List Node}
    (isWay : IsWay parent way) :
    (charges outline scope (parent :: above) enclosing way).Pairwise
      fun outer inner => outer.site ∈ inner.site.ancestors := by
  induction way generalizing parent above enclosing with
  | nil => exact List.Pairwise.nil
  | cons node way ih =>
    obtain ⟨isChild, opened, onward⟩ := isWay
    obtain ⟨here, inner, first, split⟩ := charges_cons outline scope (parent :: above) enclosing node way
    rw [split, List.pairwise_append]
    refine ⟨?_, ih onward, ?_⟩
    · refine List.Pairwise.sublist first ?_
      unfold chargeAt
      split
      · exact List.pairwise_singleton _ _
      · exact List.Pairwise.nil
    · intro outer atNode later isLater
      rw [(mem_chargeAt (first.subset atNode)).1]
      exact Site.mem_ancestors_of_inScope (charged_inScope onward isLater).1

-- What a scope is charged for: nodes of it that iterate, each around the next.
structure Nest (scope : Scope) (sites : List Site) : Prop where
  inScope : ∀ site ∈ sites, site ∈ scope.nodes
  iterate : ∀ site ∈ sites, site.node.iterates = true
  nested : sites.Pairwise fun outer inner => outer ∈ inner.ancestors

theorem ofScope_nest (outline : Outline) (scope : Scope) : Nest scope (ofScope outline scope).loops := by
  obtain ⟨way, isWay, attains⟩ := ofScope_attained outline scope
  have charged : ∀ site ∈ (ofScope outline scope).loops, site ∈ scope.root.descendantsInScope ∧
      site.node.isFunction = false ∧ site.node.iterates = true := by
    intro site member
    rw [attains.loops_eq] at member
    obtain ⟨charge, isCounted, rfl⟩ := List.mem_map.mp member
    exact charged_inScope isWay (List.mem_filter.mp isCounted).1
  refine ⟨?_, fun site member => (charged site member).2.2, ?_⟩
  · intro site member
    obtain ⟨below, plain, _⟩ := charged site member
    exact List.mem_filter.mpr ⟨below, by simp [plain]⟩
  · rw [attains.loops_eq, List.pairwise_map]
    exact (charges_nested isWay).filter _

end Cost

namespace CostClass

theorem ofDegree_eq_constant_iff {degree : Nat} {log : Bool} : ofDegree degree log = .constant ↔ degree = 0 ∧ log = false := by
  unfold ofDegree
  split
  · cases log <;> simp
  · cases log <;> simp
  · simp
  · simp_all

-- Where the degree is told it decides; a logarithm beside a second degree does not.
theorem ofDegree_log (degree : Nat) (log : Bool) : ofDegree degree log = ofDegree degree (log && degree ≤ 1) := by
  unfold ofDegree
  split <;> simp

theorem hasDegree_ofDegree {degree : Nat} {log : Bool} (none : (ofDegree degree log).hasDegree = false) : degree = 0 := by
  unfold ofDegree at none
  split at none
  · rfl
  · cases log <;> cases none
  · cases none
  · cases none

end CostClass

namespace Estimate

theorem loopReason_eq_empty_iff (cost : Cost) (amortized : List Site) :
    loopReason cost amortized = "" ↔ cost.degree = 0 ∧ cost.logs = 0 := by
  unfold loopReason
  dsimp only
  split_ifs <;> simp_all <;> omega

-- Lines are quoted where a loop counts, and nowhere else.
theorem loopReason_eq_empty_iff_loops (outline : Outline) (scope : Scope) (amortized : List Site) :
    loopReason (Cost.ofScope outline scope) amortized = "" ↔ (Cost.ofScope outline scope).loops = [] :=
  (loopReason_eq_empty_iff _ _).trans (Cost.ofScope_free outline scope).symm

-- The sites that a class comes from, as far as recursion leaves it to the loops.
structure ComesFrom (scope : Scope) (cost : CostClass) (recursion : Recursion) (sites : List Site) : Prop where
  inScope : ∀ site ∈ sites, site ∈ scope.nodes
  distinct : (sites.map Site.id).Nodup
  given : sites = [] → cost = .constant ∨ recursion = .mutual
  free : cost = .constant → sites = []
  iterate : recursion = .none → ∀ site ∈ sites, site.node.iterates = true
  nested : recursion = .none → cost ≠ .indeterminate → sites.Pairwise fun outer inner => outer ∈ inner.ancestors

namespace Judgement

def Classed (judgement : Judgement) : Prop :=
  judgement.cost = .exponential ∨ judgement.cost = .indeterminate ∨
    judgement.cost = .ofDegree judgement.degree judgement.logFactor

structure Coherent (scope : Scope) (judgement : Judgement) : Prop where
  classed : judgement.Classed
  reason : judgement.reason = "" ↔ judgement.cost = .constant
  contributors : ∃ sites, judgement.contributors = sites.map Site.id ∧
    ComesFrom scope judgement.cost judgement.recursion sites

variable {outline : Outline} {scope : Scope}

-- Nothing but its place in the scope is asked of the calls that a recursion is told by.
theorem coherent_of_recursive {judgement : Judgement} {calls : List Site} (isScope : scope ∈ outline.scopes)
    (isSublist : calls.Sublist scope.nodes) (some : calls ≠ []) (classed : judgement.Classed)
    (costly : judgement.cost ≠ .constant) (told : judgement.reason ≠ "") (recursive : judgement.recursion ≠ .none)
    (named : judgement.contributors = calls.map Site.id) : judgement.Coherent scope := by
  refine ⟨classed, iff_of_false told costly, calls, named, ?_⟩
  have inScope : ∀ call ∈ calls, call ∈ scope.nodes := fun _ isCall => isSublist.subset isCall
  have distinct := (Outline.nodes_nodup (Outline.holds_scope isScope)).sublist isSublist
  exact
    { inScope, distinct := Outline.map_id_nodup isScope inScope distinct
      given := fun none => absurd none some
      free := fun constant => absurd constant costly
      iterate := fun still => absurd still recursive
      nested := fun still => absurd still recursive }

end Judgement

variable {outline : Outline} {scope : Scope}

theorem ofLoops_coherent (isScope : scope ∈ outline.scopes) (amortized : List Site) :
    (ofLoops (Cost.ofScope outline scope) amortized).Coherent scope := by
  have nest := Cost.ofScope_nest outline scope
  have isConstant : CostClass.ofDegree (Cost.ofScope outline scope).degree ((Cost.ofScope outline scope).logs > 0) =
      .constant ↔ (Cost.ofScope outline scope).degree = 0 ∧ (Cost.ofScope outline scope).logs = 0 := by
    rw [CostClass.ofDegree_eq_constant_iff]
    simp
  have quotes := loopReason_eq_empty_iff_loops outline scope amortized
  have told := (loopReason_eq_empty_iff (Cost.ofScope outline scope) amortized).trans isConstant.symm
  refine ⟨.inr (.inr (CostClass.ofDegree_log _ _)), told, _, rfl, ?_⟩
  exact
    { inScope := nest.inScope
      distinct := Outline.map_id_nodup isScope nest.inScope (nest.nested.imp Site.ne_of_mem_ancestors)
      given := fun none => .inl (told.mp (quotes.mpr none))
      free := fun constant => quotes.mp (told.mpr constant)
      iterate := fun _ => nest.iterate
      nested := fun _ _ => nest.nested }

theorem ofSelfCalls_coherent (isScope : scope ∈ outline.scopes) (cost : Cost) {calls : List Site}
    (isSublist : calls.Sublist scope.nodes) (some : calls ≠ []) (loops : Judgement) :
    (ofSelfCalls scope cost calls loops).Coherent scope := by
  have recursive := ofSelfCalls_recursion scope cost calls loops
  unfold ofSelfCalls at recursive ⊢
  cases found : structuralOver? calls with
  | some collection =>
    rw [found] at recursive
    exact Judgement.coherent_of_recursive isScope isSublist some (.inr (.inr rfl)) nofun (by simp) recursive rfl
  | none =>
    rw [found] at recursive
    dsimp only at recursive ⊢
    split_ifs at recursive ⊢
    · exact Judgement.coherent_of_recursive isScope isSublist some (.inl rfl) nofun (by simp) recursive rfl
    · refine Judgement.coherent_of_recursive isScope isSublist some (.inr (.inr rfl)) ?_ (by simp) recursive rfl
      rw [Ne, CostClass.ofDegree_eq_constant_iff]
      omega
    · exact Judgement.coherent_of_recursive isScope isSublist some (.inr (.inl rfl)) nofun (by simp) recursive rfl
    · exact Judgement.coherent_of_recursive isScope isSublist some (.inr (.inr rfl)) nofun (by simp) recursive rfl

theorem withRecursion_coherent (isScope : scope ∈ outline.scopes) (graph : Option CallGraph) (cost : Cost)
    {loops : Judgement} (coherent : loops.Coherent scope) : (withRecursion scope graph cost loops).Coherent scope := by
  unfold withRecursion
  dsimp only
  split_ifs with cyclic still
  · obtain ⟨sites, named, comes⟩ := coherent.contributors
    refine ⟨.inr (.inl rfl), iff_of_false (by simp) nofun, sites, named, ?_⟩
    exact
      { inScope := comes.inScope
        distinct := comes.distinct
        given := fun _ => .inr rfl
        free := nofun
        iterate := nofun
        nested := nofun }
  · exact coherent
  · exact ofSelfCalls_coherent isScope cost scope.selfCalls_sublist (by simpa using still) loops

theorem withUnbounded_coherent (isScope : scope ∈ outline.scopes) {judgement : Judgement}
    (coherent : judgement.Coherent scope) :
    (withUnbounded outline (scope.boundedBy outline .unbounded) judgement).Coherent scope := by
  unfold withUnbounded
  split
  · exact coherent
  · rename_i first rest unbounded
    split
    · exact coherent
    · have inScope : ∀ site ∈ scope.boundedBy outline .unbounded, site ∈ scope.nodes :=
        fun _ => Scope.mem_nodes_of_boundedBy
      have distinct := Scope.boundedBy_nodup .unbounded (Outline.holds_scope isScope)
      refine ⟨.inr (.inl rfl), iff_of_false (by simp) nofun, scope.boundedBy outline .unbounded, rfl, ?_⟩
      exact
        { inScope, distinct := Outline.map_id_nodup isScope inScope distinct
          given := by simp [unbounded]
          free := nofun
          iterate := fun _ site => Scope.iterates_of_unbounded
          nested := fun _ told => absurd rfl told }

theorem judge_coherent (isScope : scope ∈ outline.scopes) (graph : Option CallGraph) :
    (judge outline graph scope).Coherent scope :=
  withUnbounded_coherent isScope (withRecursion_coherent isScope graph _ (ofLoops_coherent isScope _))

-- Every contributor is a node of the outline: looking them up loses none.
theorem contributors_held (isScope : scope ∈ outline.scopes) (graph : Option CallGraph) :
    ((ofScope outline graph scope).contributors.filterMap outline.site?).map Site.id =
      (ofScope outline graph scope).contributors := by
  obtain ⟨sites, named, comes⟩ := (judge_coherent isScope graph).contributors
  have found : ∀ site ∈ sites, (outline.site? ∘ Site.id) site = some site := fun site isSite =>
    Outline.site?_eq_some (Outline.holds_of_mem_nodes isScope (comes.inScope site isSite))
  have contributors : (ofScope outline graph scope).contributors = sites.map Site.id := named
  rw [contributors, List.filterMap_map, List.filterMap_congr found, List.filterMap_some]

theorem withUnbounded_recursion (outline : Outline) (unbounded : List Site) (judgement : Judgement) :
    (withUnbounded outline unbounded judgement).recursion = judgement.recursion := by
  unfold withUnbounded
  split
  · rfl
  · split <;> rfl

theorem judge_recursion_none (outline : Outline) {graph : Option CallGraph} (calls : scope.selfCalls = [])
    (acyclic : ∀ calls ∈ graph, calls.inCycle scope.id = false) : (judge outline graph scope).recursion = .none := by
  unfold judge
  dsimp only
  rw [withUnbounded_recursion]
  unfold withRecursion
  cases graph with
  | none =>
    rw [calls]
    rfl
  | some graph =>
    have names : graph.cycleNames scope.id = [] := by rw [CallGraph.cycleNames, acyclic graph rfl, if_neg Bool.false_ne_true]
    dsimp only
    rw [names, calls]
    rfl

-- What the parts of an estimate say of each other.
structure Coherent (scope : Scope) (estimate : Estimate) : Prop where
  classed : estimate.cost ≠ .exponential → estimate.cost ≠ .indeterminate →
    estimate.cost = .ofDegree estimate.degree estimate.logFactor
  unclassed : estimate.cost = .exponential ∨ estimate.cost = .indeterminate → estimate.degree = 0
  reason : estimate.reason = "" ↔ estimate.cost = .constant
  contributors : ∃ sites, estimate.contributors = sites.map Site.id ∧
    ComesFrom scope estimate.cost estimate.recursion sites

theorem ofScope_coherent (isScope : scope ∈ outline.scopes) (graph : Option CallGraph) :
    (ofScope outline graph scope).Coherent scope ∧
      ((∀ site ∈ scope.nodes, site.node.iterates = false) → scope.selfCalls = [] →
        (∀ calls ∈ graph, calls.inCycle scope.id = false) → (ofScope outline graph scope).cost = .constant) := by
  have coherent := judge_coherent isScope graph
  refine ⟨⟨?_, ?_, coherent.reason, coherent.contributors⟩, ?_⟩
  · intro tractable told
    have classed := (coherent.classed.resolve_left tractable).resolve_left told
    unfold ofScope
    dsimp only
    split
    · exact classed
    · rename_i none
      rw [classed] at none
      rw [← CostClass.hasDegree_ofDegree (by simpa using none)]
      exact classed
  · intro untold
    unfold ofScope at untold ⊢
    dsimp only at untold ⊢
    rcases untold with exponential | indeterminate
    · rw [exponential]
      rfl
    · rw [indeterminate]
      rfl
  · intro still calls acyclic
    obtain ⟨sites, _, comes⟩ := coherent.contributors
    have unrecursive := judge_recursion_none outline calls acyclic
    have none : sites = [] := by
      refine List.eq_nil_iff_forall_not_mem.mpr fun site isSite => ?_
      have iterates := comes.iterate unrecursive site isSite
      rw [still site (comes.inScope site isSite)] at iterates
      cases iterates
    refine (comes.given none).resolve_right ?_
    rw [unrecursive]
    nofun

theorem mappingOutline_coherent :
    let unit := Cost.mappingOutline.unitScope
    unit ∈ Cost.mappingOutline.scopes ∧ (ofScope Cost.mappingOutline none unit).cost = .polynomial ∧
      (ofScope Cost.mappingOutline none unit).contributors = [1, 4] ∧
      (ofScope Cost.mappingOutline none unit).Coherent unit ∧
      loneFunction ∈ loneUnit.scopes ∧ loneFunction.nodes ≠ [] ∧ (ofScope loneUnit none loneFunction).cost = .constant := by
  intro unit
  have isUnit : unit ∈ Cost.mappingOutline.scopes := List.mem_cons_self
  have isFunction : loneFunction ∈ loneUnit.functions :=
    Outline.mem_functions.mpr ⟨loneSite, ⟨List.mem_cons_self, rfl⟩, rfl, rfl⟩
  have isScope : loneFunction ∈ loneUnit.scopes := (List.mem_filter.mp isFunction).1
  refine ⟨isUnit, by decide, by decide, (ofScope_coherent isUnit none).1, isScope, nofun, ?_⟩
  exact (ofScope_coherent isScope none).2 (by decide) (by decide) nofun

end Estimate
end Perflint
