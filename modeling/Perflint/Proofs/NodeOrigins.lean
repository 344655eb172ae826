import Mathlib
import Perflint.Proofs.Rejection

namespace Perflint

namespace Grammar

-- A node and the place that it was made for.
structure StandsFor (g : Grammar) (source : Source) (place : Tree.Place) (node : Node) : Prop where
  span : node.span = source.span place.node.first place.node.last
  type : node.head.grammarType = place.node.type
  part : g.kindAt source place = some node.kind
  read : ∃ info once, g.describe source place.above place.node node.kind = .ok info ∧ node.info = countOnce info once

variable {g : Grammar} {source : Source}

-- Where a kind is told by one reading, the reading has succeeded.
theorem StandsFor.read_eq_ok {α : Type} {place : Tree.Place} {node : Node} {kind : Kind} {read : Reading α}
    {say : α → Info} (stands : g.StandsFor source place node) (isKind : node.kind = kind)
    (describes : g.describe source place.above place.node kind = told read say) :
    ∃ value once, read = .ok value ∧ node.info = countOnce (say value) once := by
  obtain ⟨info, once, described, counted⟩ := stands.read
  rw [isKind, describes] at described
  obtain ⟨value, isRead, rfl⟩ := told_eq_ok.mp described
  exact ⟨value, once, isRead, counted⟩

-- Every node that lowering makes, at whatever depth, stands for a place of the tree.
theorem lower_origins {skip : List Tree.Key} {path : List Tree} {tree : Tree} {nodes : List Node} {first last : Nat}
    (opens : g.ClausesOpen) (visible : g.Visible path) (done : g.Lowers source skip path tree first nodes last) :
    ∀ node ∈ nodes, ∀ inner ∈ node.preorder, ∃ place ∈ Tree.Place.walk path tree, g.StandsFor source place inner := by
  induction tree using lowering_induction generalizing skip path nodes first last with
  | step tree children parts =>
    intro node member inner inside
    cases lowered_of_lower done with
    | passed _ => cases member
    | opened stays _ below =>
      have plain : tree.hasType g.commentTypes = false := (Bool.or_eq_false_iff.mp stays).1
      obtain ⟨child, isChild, lowered, ⟨_, _, made⟩, fromChild⟩ := exists_of_mem_flatten below.each member
      obtain ⟨place, isPlace, stands⟩ := children child isChild (visible_cons visible plain) made
        node fromChild inner inside
      exact ⟨place, Tree.Place.mem_walk_child isChild isPlace, stands⟩
    | @kept kind info once rest _ _ _ stays part described early below =>
      have plain : tree.hasType g.commentTypes = false := (Bool.or_eq_false_iff.mp stays).1
      cases List.mem_singleton.mp member
      rw [Node.preorder_eq] at inside
      rcases List.mem_cons.mp inside with rfl | deeper
      · have kindEq : (countOnce info once.flatten.length).kind = kind :=
          (countOnce_kind _ _).trans (describe_kind described)
        refine ⟨_, Tree.Place.mem_walk_self path tree, rfl, rfl, ?_, info, _, ?_, rfl⟩
        · exact (kindAt_of_visible visible plain part).trans (congrArg some kindEq.symm)
        · exact (congrArg (g.describe source path tree) kindEq).trans described
      · obtain ⟨child, isChild, deepest⟩ := List.mem_flatMap.mp deeper
        rcases List.mem_append.mp isChild with fromOnce | fromRest
        · obtain ⟨taken, isTaken, lowered, ⟨_, _, made⟩, inLowered⟩ := exists_of_mem_flatten early.each fromOnce
          have isPart := (onceOf_below isTaken).2.1
          obtain ⟨place, isPlace, stands⟩ := parts taken
            (part_visible opens (visible_cons visible plain) isPart) made child inLowered inner deepest
          exact ⟨place, Tree.Place.mem_walk_trans (part_mem_walk path isPart) isPlace, stands⟩
        · obtain ⟨part, isFrom, lowered, ⟨_, _, made⟩, inLowered⟩ := exists_of_mem_flatten below.each fromRest
          obtain ⟨place, isPlace, stands⟩ := children part isFrom (visible_cons visible plain) made
            child inLowered inner deepest
          exact ⟨place, Tree.Place.mem_walk_child isFrom isPlace, stands⟩

theorem outline_origins {tag : String} {top : Tree} {outline : Outline} {site : Site} (opens : g.ClausesOpen)
    (done : g.outline tag source (some top) = .ok outline) (held : outline.Holds site) :
    site = outline.rootSite ∨ ∃ place ∈ Tree.Place.walk [] top, g.StandsFor source place site.node := by
  obtain ⟨_, parts, ⟨⟩, below, root⟩ := outline_eq_ok done
  rcases Site.leads_split held with ⟨atRoot, noPath⟩ | ⟨child, isChild, lower, _, leads⟩
  · left
    cases site
    cases atRoot
    cases noPath
    rfl
  · right
    have inChild : site.node ∈ child.preorder :=
      (Outline.preorder_sublist_of_leads leads).subset (Node.mem_preorder_self _)
    rw [root] at isChild
    obtain ⟨part, isFrom, lowered, ⟨_, _, made⟩, inLowered⟩ := exists_of_mem_flatten below isChild
    have visible : g.Visible [top] := ⟨List.cons_ne_nil _ _, by simp⟩
    obtain ⟨place, isPlace, stands⟩ := lower_origins opens visible made child inLowered site.node inChild
    exact ⟨place, Tree.Place.mem_walk_child isFrom isPlace, stands⟩

-- Only the root is a unit.
theorem outline_origin {tag : String} {top : Tree} {outline : Outline} {site : Site} (opens : g.ClausesOpen)
    (done : g.outline tag source (some top) = .ok outline) (held : outline.Holds site)
    (proper : site.node.info ≠ .unit) :
    ∃ place ∈ Tree.Place.walk [] top, g.StandsFor source place site.node := by
  rcases outline_origins opens done held with rfl | found
  · obtain ⟨_, _, ⟨⟩, _, root⟩ := outline_eq_ok done
    refine absurd ?_ proper
    rw [show outline.rootSite.node = outline.root from rfl, root]
    rfl
  · exact found

end Grammar
end Perflint
