import Mathlib
import Perflint.Cost.Bound
import Perflint.Proofs.Twins

namespace Perflint

-- Two nodes that say the same of themselves at the same place.
structure Site.SaysSame (site site' : Site) : Prop where
  info : site'.node.info = site.node.info
  span : site'.span = site.span

variable {outline outline' : Outline} {scope scope' : Scope} {name : String}

theorem Scope.assignmentsTo_same (roots : Site.Mirrored outline outline' scope.root scope'.root) (name : String) :
    List.Forall₂ Site.SaysSame (scope.assignmentsTo name) (scope'.assignmentsTo name) := by
  refine (forall₂_filter (Scope.nodes_twins roots) fun site site' pair => ?_).imp fun site site' pair =>
    ⟨pair.1.twin.info roots, pair.1.twin.span roots⟩
  rw [Node.assignment?_of_info (pair.twin.info roots)]

-- The latest assignment to a name in one scope.
def Scope.latestBefore? (scope : Scope) (name : String) (before : Position) : Option Site :=
  latestStart ((scope.assignmentsTo name).filter fun site => site.span.finish.le before)

theorem Outline.lastAssignment?_eq (outline : Outline) (scope : Scope) (name : String) (before : Position) :
    outline.lastAssignment? scope name before = (scope.latestBefore? name before).or
      (if scope.isUnit then none else outline.unitScope.latestBefore? name before) := by
  unfold lastAssignment? lookupScopes Scope.latestBefore?
  cases scope.isUnit with
  | true =>
    simp only [if_true, List.findSome?_cons, List.findSome?_nil]
    cases latestStart ((scope.assignmentsTo name).filter fun site => site.span.finish.le before) <;> rfl
  | false =>
    simp only [Bool.false_eq_true, if_false, List.findSome?_cons, List.findSome?_nil]
    cases latestStart ((scope.assignmentsTo name).filter fun site => site.span.finish.le before) with
    | some here => rfl
    | none =>
      cases latestStart ((outline.unitScope.assignmentsTo name).filter fun site => site.span.finish.le before) <;> rfl

section Latest

variable {related : Site → Site → Prop} (spans : ∀ site site', related site site' → site'.span = site.span)

include spans

theorem latestStart_rel {sites sites' : List Site} (all : List.Forall₂ related sites sites') :
    Option.Rel related (latestStart sites) (latestStart sites') := by
  induction all with
  | nil => exact .none
  | @cons site site' rest rest' here _ ih =>
    unfold latestStart
    generalize latestStart rest = later at ih
    generalize latestStart rest' = later' at ih
    cases ih with
    | none => exact .some here
    | some after =>
      dsimp only
      rw [spans _ _ here, spans _ _ after]
      split
      · exact .some after
      · exact .some here

theorem Scope.latestBefore?_rel (all : List.Forall₂ related (scope.assignmentsTo name) (scope'.assignmentsTo name))
    (before : Position) : Option.Rel related (scope.latestBefore? name before) (scope'.latestBefore? name before) := by
  have filtered := forall₂_filter all fun site site' pair =>
    congrArg (fun span : Span => span.finish.le before) (spans site site' pair)
  exact latestStart_rel spans (filtered.imp fun _ _ pair => pair.1)

-- A name that is bound alike in both scopes and in both units is found alike.
theorem Outline.lastAssignment?_rel (isUnit : scope'.isUnit = scope.isUnit)
    (own : List.Forall₂ related (scope.assignmentsTo name) (scope'.assignmentsTo name))
    (unit : List.Forall₂ related (outline.unitScope.assignmentsTo name) (outline'.unitScope.assignmentsTo name))
    (before : Position) :
    Option.Rel related (outline.lastAssignment? scope name before) (outline'.lastAssignment? scope' name before) := by
  have inScope := Scope.latestBefore?_rel spans own before
  have inUnit := Scope.latestBefore?_rel spans unit before
  rw [lastAssignment?_eq, lastAssignment?_eq, isUnit]
  generalize scope.latestBefore? name before = found at inScope
  generalize scope'.latestBefore? name before = found' at inScope
  cases inScope with
  | some here => exact .some here
  | none =>
    rw [Option.none_or, Option.none_or]
    split
    · exact .none
    · exact inUnit

end Latest

theorem isSome_of_rel {α : Type} {related : α → α → Prop} {first second : Option α}
    (both : Option.Rel related first second) : second.isSome = first.isSome := by
  cases both <;> rfl

theorem Outline.isUnitConstant_eq
    (unit : List.Forall₂ Site.SaysSame (outline.unitScope.assignmentsTo name) (outline'.unitScope.assignmentsTo name)) :
    outline'.isUnitConstant name = outline.isUnitConstant name := by
  unfold isUnitConstant
  generalize outline.unitScope.assignmentsTo name = sites at unit
  generalize outline'.unitScope.assignmentsTo name = sites' at unit
  cases unit with
  | nil => rfl
  | cons only rest =>
    cases rest with
    | nil =>
      dsimp only
      rw [Node.assignment?_of_info only.info]
    | cons _ _ => rfl

namespace Bound

theorem isLiteralCollection_eq
    (unit : List.Forall₂ Site.SaysSame (outline.unitScope.assignmentsTo name) (outline'.unitScope.assignmentsTo name)) :
    isLiteralCollection outline' name = isLiteralCollection outline name := by
  unfold isLiteralCollection
  generalize outline.unitScope.assignmentsTo name = sites at unit
  generalize outline'.unitScope.assignmentsTo name = sites' at unit
  cases unit with
  | nil => rfl
  | cons only rest =>
    cases rest with
    | nil =>
      dsimp only
      rw [Node.assignment?_of_info only.info]
    | cons _ _ => rfl

theorem countsToLiteral_eq {loop loop' : Site} {l : LoopInfo} (assignments : assignmentsIn loop' = assignmentsIn loop)
    (span : loop'.span = loop.span) (each : ∀ name ∈ l.conditionNames, Option.Rel Site.SaysSame
      (outline.lastAssignment? scope name loop.span.start) (outline'.lastAssignment? scope' name loop.span.start)) :
    countsToLiteral outline' scope' loop' l = countsToLiteral outline scope loop l := by
  have start : ∀ name ∈ l.conditionNames,
      (outline'.lastAssignment? scope' name loop.span.start).bind (·.node.assignment?) =
        (outline.lastAssignment? scope name loop.span.start).bind (·.node.assignment?) := by
    intro name member
    have found := each name member
    generalize outline.lastAssignment? scope name loop.span.start = first at found
    generalize outline'.lastAssignment? scope' name loop.span.start = second at found
    cases found with
    | none => rfl
    | some same => exact Node.assignment?_of_info same.info
  unfold countsToLiteral
  rw [assignments, span]
  refine congrArg _ ?_
  rw [Bool.eq_iff_iff, List.all_eq_true, List.all_eq_true]
  refine forall₂_congr fun name member => ?_
  rw [start name member]

end Bound
end Perflint
