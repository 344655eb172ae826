import Mathlib
import Perflint.CallGraph
import Perflint.Proofs.Scopes

namespace Perflint

-- What the call graph reads of a node.
structure Node.CallsAlike (node node' : Node) : Prop where
  id : node'.id = node.id
  isFunction : node'.isFunction = node.isFunction
  function? : node'.function? = node.function?
  call? : node'.call? = node.call?

theorem Node.CallsAlike.refl (node : Node) : node.CallsAlike node :=
  ⟨rfl, rfl, rfl, rfl⟩

structure Site.CallsAlike (site site' : Site) : Prop where
  node : site.node.CallsAlike site'.node
  above : List.Forall₂ Node.CallsAlike site.above site'.above

theorem nearestFunction_alike (unit : Nat) {path path' : List Node} (alike : List.Forall₂ Node.CallsAlike path path') :
    nearestFunction unit path' = nearestFunction unit path := by
  have found := forall₂_find? alike fun a b (pair : a.CallsAlike b) => pair.isFunction
  unfold nearestFunction
  generalize path.find? (·.isFunction) = owner at found
  generalize path'.find? (·.isFunction) = owner' at found
  cases found with
  | none => rfl
  | some here => exact here.id

structure Scope.CallsAlike (scope scope' : Scope) : Prop where
  id : scope'.id = scope.id
  isUnit : scope'.isUnit = scope.isUnit
  name : scope'.name = scope.name
  function? : scope'.function? = scope.function?

structure Link.CallsAlike (link link' : Link) : Prop where
  caller : link.caller.CallsAlike link'.caller
  target : link.target.CallsAlike link'.target

theorem CallInfo.targets_alike (c : CallInfo) {caller caller' : Scope} {functions functions' : List Scope}
    (alike : caller.CallsAlike caller') (all : List.Forall₂ Scope.CallsAlike functions functions') :
    List.Forall₂ Scope.CallsAlike (c.targets caller functions) (c.targets caller' functions') := by
  have stays : c.staysInUnit caller' = c.staysInUnit caller := by
    rw [staysInUnit, staysInUnit, alike.function?]
  rw [targets, targets, stays]
  split
  · exact (forall₂_filter all fun _ _ same => congrArg (· == c.callee) same.name).imp fun _ _ pair => pair.1
  · exact .nil

-- Node by node the two outlines make the same calls.
structure Outline.CallsAlike (outline outline' : Outline) : Prop where
  root : outline'.root.id = outline.root.id
  preorder : List.Forall₂ Site.CallsAlike outline.preorder outline'.preorder

namespace Outline.CallsAlike

variable {outline outline' : Outline} (alike : outline.CallsAlike outline')

theorem functionScope {site site' : Site} (same : site.CallsAlike site') :
    (outline.functionScope site).CallsAlike (outline'.functionScope site') := by
  refine ⟨same.node.id, rfl, ?_, same.node.function?⟩
  simp only [Outline.functionScope, Scope.ofFunction, same.node.function?]

include alike

theorem unitScope : outline.unitScope.CallsAlike outline'.unitScope :=
  ⟨alike.root, rfl, rfl, rfl⟩

theorem sites : List.Forall₂ Site.CallsAlike outline.sites outline'.sites :=
  forall₂_mergeSort alike.preorder fun a a' b b' first second => by
    rw [show a'.id = a.id from first.node.id, show b'.id = b.id from second.node.id]

theorem owners : outline'.scopeTable.owners = outline.scopeTable.owners := by
  rw [scopeTable_eq, scopeTable_eq, ScopeTable.under_owners, ScopeTable.under_owners, alike.root]
  refine (eq_of_forall₂ (List.rel_map (fun site site' same => ?_) alike.preorder)).symm
  rw [nearestFunction_alike _ (.cons same.node same.above), show site'.id = site.id from same.node.id]

theorem scopes : List.Forall₂ Scope.CallsAlike outline.scopes outline'.scopes := by
  rw [scopes_eq, scopes_eq]
  refine .cons alike.unitScope ?_
  rw [List.forall₂_map_left_iff, List.forall₂_map_right_iff]
  exact (forall₂_filter alike.sites fun _ _ same => same.node.isFunction).imp fun _ _ pair => functionScope pair.1

theorem scopeOf {site site' : Site} (same : site'.id = site.id) :
    (outline.scopeOf site).CallsAlike (outline'.scopeOf site') := by
  unfold Outline.scopeOf
  rw [same, alike.owners]
  cases outline.scopeTable.owners.lookup site.id with
  | none => exact alike.unitScope
  | some id =>
    have found : Option.Rel Scope.CallsAlike (outline.scope? id) (outline'.scope? id) :=
      forall₂_find? (List.forall₂_reverse_iff.mpr alike.scopes) fun _ _ pair => by rw [pair.id]
    rw [Option.bind_some, Option.bind_some]
    generalize outline.scope? id = scope at found
    generalize outline'.scope? id = scope' at found
    cases found with
    | none => exact alike.unitScope
    | some here => exact here

theorem functions : List.Forall₂ Scope.CallsAlike outline.functions outline'.functions :=
  (forall₂_filter alike.scopes fun _ _ same => congrArg (!·) same.isUnit).imp fun _ _ pair => pair.1

theorem links : List.Forall₂ Link.CallsAlike outline.callGraph.links outline'.callGraph.links := by
  refine List.rel_flatMap alike.sites fun call call' same => ?_
  dsimp only
  rw [same.node.call?]
  cases call.node.call? with
  | none => exact .nil
  | some c =>
    dsimp only
    rw [List.forall₂_map_left_iff, List.forall₂_map_right_iff]
    have caller : (outline.scopeOf call).CallsAlike (outline'.scopeOf call') := alike.scopeOf same.node.id
    exact (c.targets_alike caller alike.functions).imp fun _ _ target => ⟨caller, target⟩

theorem successors (id : Nat) : outline'.callGraph.successors id = outline.callGraph.successors id := by
  have crossing : List.Forall₂ Link.CallsAlike outline.callGraph.crossing outline'.callGraph.crossing :=
    (forall₂_filter alike.links fun _ _ same => by rw [same.caller.id, same.target.id]).imp fun _ _ pair => pair.1
  have edges : List.Forall₂ Link.CallsAlike outline.callGraph.edges outline'.callGraph.edges :=
    (forall₂_filter crossing fun _ _ same => by rw [same.caller.isUnit]).imp fun _ _ pair => pair.1
  have leaving := forall₂_filter edges fun _ _ same => congrArg (· == id) same.caller.id
  exact (eq_of_forall₂ (List.rel_map (fun _ _ pair => pair.1.target.id.symm) leaving)).symm

theorem cycleIds (id : Nat) : outline'.callGraph.cycleIds id = outline.callGraph.cycleIds id := by
  have successors : outline'.callGraph.successors = outline.callGraph.successors := funext alike.successors
  have rounds : outline'.callGraph.functions.length = outline.callGraph.functions.length :=
    alike.functions.length_eq.symm
  simp only [CallGraph.cycleIds, CallGraph.reachable, successors, rounds]

theorem cycleNames (id : Nat) : outline'.callGraph.cycleNames id = outline.callGraph.cycleNames id := by
  have members := forall₂_filter alike.functions fun _ _ same =>
    congrArg (outline.callGraph.cycleIds id).contains same.id
  have names : ((outline'.callGraph.functions.filter fun scope =>
        (outline.callGraph.cycleIds id).contains scope.id).map Scope.name) =
      (outline.callGraph.functions.filter fun scope =>
        (outline.callGraph.cycleIds id).contains scope.id).map Scope.name :=
    (eq_of_forall₂ (List.rel_map (fun _ _ pair => pair.1.name.symm) members)).symm
  unfold CallGraph.cycleNames CallGraph.inCycle
  rw [alike.cycleIds]
  dsimp only
  rw [names]

end Outline.CallsAlike
end Perflint
