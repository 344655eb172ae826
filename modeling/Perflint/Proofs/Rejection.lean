import Mathlib
import Perflint.Proofs.Chains
import Perflint.Proofs.Correspondence

namespace Perflint

theorem skipped_of_ite_ne {α : Type} {guard : Prop} [Decidable guard] {value rest result : α}
    (differs : value ≠ result) (same : (if guard then value else rest) = result) : ¬guard ∧ rest = result :=
  (ite_eq_iff.mp same).resolve_left fun taken => differs taken.2

theorem ite_eq_of_ne {α : Type} {guard : Prop} [Decidable guard] {value rest result : α} (differs : value ≠ result)
    (same : (if guard then value else rest) = result) : rest = result :=
  (skipped_of_ite_ne differs same).2

namespace Tree.Place

theorem mem_walk_self (path : List Tree) (tree : Tree) : { node := tree, above := path } ∈ walk path tree := by
  rw [walk_eq]
  exact List.mem_cons_self

theorem mem_walk_child {path : List Tree} {tree child : Tree} {place : Tree.Place} (isChild : child ∈ tree.children)
    (inside : place ∈ walk (tree :: path) child) : place ∈ walk path tree := by
  rw [walk_eq]
  exact List.mem_cons_of_mem _ (List.mem_flatMap.mpr ⟨child, isChild, inside⟩)

theorem mem_walk_cases {path : List Tree} {tree : Tree} {place : Tree.Place} (member : place ∈ walk path tree) :
    place = { node := tree, above := path } ∨ ∃ child ∈ tree.children, place ∈ walk (tree :: path) child := by
  rw [walk_eq] at member
  exact (List.mem_cons.mp member).imp_right List.mem_flatMap.mp

theorem mem_walk_trans {path : List Tree} {tree : Tree} {upper place : Tree.Place} (isUpper : upper ∈ walk path tree)
    (inside : place ∈ walk upper.above upper.node) : place ∈ walk path tree := by
  induction tree using Tree.nested_induction generalizing path with
  | step tree ih =>
    rcases mem_walk_cases isUpper with rfl | ⟨child, isChild, deeper⟩
    · exact inside
    · exact mem_walk_child isChild (ih child isChild deeper)

theorem distinct_of_mem_walk {path : List Tree} {tree : Tree} {place : Tree.Place}
    (distinct : Grammar.Distinct path tree) (member : place ∈ walk path tree) :
    Grammar.Distinct place.above place.node := by
  induction tree using Tree.nested_induction generalizing path with
  | step tree ih =>
    rcases mem_walk_cases member with rfl | ⟨child, isChild, deeper⟩
    · exact distinct
    · exact ih child isChild (Grammar.distinct_child distinct isChild) deeper

theorem eq_of_key_eq {path : List Tree} {tree : Tree} {first second : Tree.Place}
    (distinct : Grammar.Distinct path tree) (isFirst : first ∈ walk path tree) (isSecond : second ∈ walk path tree)
    (same : first.node.key = second.node.key) : first = second := by
  have keys : ((walk path tree).map fun place => place.node.key).Nodup := by
    have nodes := distinct.sublist ((List.sublist_append_left tree.preorder path).map Tree.key)
    rwa [← map_node_walk path tree, List.map_map] at nodes
  exact List.inj_on_of_nodup_map keys isFirst isSecond same

end Tree.Place

namespace Grammar

section Spec

variable (g : Grammar) (source : Source)

def calleeField : String :=
  match g.callForm with
  | .applied => "function"
  | .named => "name"

-- No comment stands above the place; the root may be one.
def isShown (place : Tree.Place) : Bool :=
  place.above.dropLast.all (!·.hasType g.commentTypes)

-- What is wrong at a place. Only below the root, and not at a comment, must a node have the parts of what it stands for.
inductive FaultyAt (place : Tree.Place) : TreeFault → Prop
  | parseError (broken : place.node.type = "ERROR" ∨ place.node.label.isError = true) : FaultyAt place .parseError
  | missingToken (missing : place.node.label.isMissing = true) : FaultyAt place .missingToken
  | callWithoutCallee (below : place.above ≠ []) (plain : place.node.hasType g.commentTypes = false)
      (isCall : place.node.hasType g.callTypes = true) (noCallee : place.node.field? g.calleeField = none) :
      FaultyAt place .callWithoutCallee
  | functionWithoutBody (below : place.above ≠ []) (plain : place.node.hasType g.commentTypes = false)
      (isFunction : g.classify source place.above place.node = .ok (some .function))
      (required : place.node.hasType g.bodyRequired = true) (noBody : place.node.field? "body" = none) :
      FaultyAt place .functionWithoutBody
  | loopWithoutBody (below : place.above ≠ []) (plain : place.node.hasType g.commentTypes = false)
      (isLoop : (g.loopTypes.lookup place.node.type).isSome = true) (noBody : place.node.field? "body" = none) :
      FaultyAt place .loopWithoutBody

-- What a whole tree can be refused for.
inductive Shows : Option Tree → Malformed → Prop
  | noRoot : Shows none { fault := .noRoot, type := none, line := none }
  | atPlace {top : Tree} {place : Tree.Place} {fault : TreeFault} (member : place ∈ Tree.Place.walk [] top)
      (shown : g.isShown place = true) (faulty : g.FaultyAt source place fault) :
      Shows (some top) (faultAt source fault place.node)

end Spec

section Tables

-- A type that names a loop or a call names nothing else before it, and no two of a call, a comparison and a deletion
-- share a type.
structure SortsTypes (g : Grammar) : Prop where
  loops : ∀ tree : Tree, (g.loopTypes.lookup tree.type).isSome = true →
    ∀ source path, g.classify source path tree = .ok (some .loop)
  calls : ∀ tree : Tree, tree.hasType g.callTypes = true → (g.callParts tree).callee = none →
    ∀ source path, g.classify source path tree = .error (.malformed (faultAt source .callWithoutCallee tree))
  members : ∀ tree : Tree, tree.hasType g.membershipTypes = true →
    tree.hasType g.callTypes = false ∧ tree.hasType g.deletionTypes = false
  deletions : ∀ tree : Tree, tree.hasType g.deletionTypes = true → tree.hasType g.callTypes = false

theorem loops_apart (language : Language) : ∀ entry ∈ language.grammar.loopTypes,
    language.grammar.functionTypes.contains entry.1 = false ∧ language.grammar.closureTypes.contains entry.1 = false ∧
      language.grammar.classTypes.contains entry.1 = false := by
  cases language <;> decide

theorem calls_apart (language : Language) : ∀ type ∈ language.grammar.callTypes,
    language.grammar.functionTypes.contains type = false ∧ language.grammar.closureTypes.contains type = false ∧
      language.grammar.classTypes.contains type = false ∧
      (language.grammar.loopTypes.lookup type).isSome = false := by
  cases language <;> decide

theorem members_apart (language : Language) : ∀ type ∈ language.grammar.membershipTypes,
    language.grammar.callTypes.contains type = false ∧ language.grammar.deletionTypes.contains type = false := by
  cases language <;> decide

theorem deletions_apart (language : Language) : ∀ type ∈ language.grammar.deletionTypes,
    language.grammar.callTypes.contains type = false := by
  cases language <;> decide

theorem isSome_lookup {β : Type} (table : List (String × β)) (type : String) :
    (table.lookup type).isSome = (table.map Prod.fst).contains type := by
  induction table with
  | nil => rfl
  | cons entry table ih =>
    rw [List.lookup_cons, List.map_cons, List.contains_cons]
    cases type == entry.1 <;> simp [ih]

theorem mem_keys_of_lookup {β : Type} {table : List (String × β)} {type : String}
    (found : (table.lookup type).isSome = true) : ∃ entry ∈ table, entry.1 = type := by
  rw [isSome_lookup, List.contains_iff_mem] at found
  exact List.mem_map.mp found

theorem sortsTypes (language : Language) : language.grammar.SortsTypes := by
  constructor
  · intro tree isLoop source path
    obtain ⟨entry, member, named⟩ := mem_keys_of_lookup isLoop
    obtain ⟨noFunction, noClosure, noClass⟩ := loops_apart language entry member
    rw [named] at noFunction noClosure noClass
    simp only [classify, Tree.hasType, noFunction, noClosure, noClass, isLoop, Bool.false_eq_true, if_false, if_true]
  · intro tree isCall noCallee source path
    obtain ⟨noFunction, noClosure, noClass, noLoop⟩ := calls_apart language tree.type (List.contains_iff_mem.mp isCall)
    simp only [classify, Grammar.isCall, isCall]
    simp only [Tree.hasType, noFunction, noClosure, noClass, noLoop, noCallee, Bool.false_eq_true, if_false, if_true,
      Option.isNone_none]
  · intro tree isMember
    exact members_apart language tree.type (List.contains_iff_mem.mp isMember)
  · intro tree deletes
    exact deletions_apart language tree.type (List.contains_iff_mem.mp deletes)

end Tables

section Steps

variable {g : Grammar} {source : Source} {skip : List Tree.Key} {path : List Tree} {tree : Tree}

theorem callee_eq (g : Grammar) (tree : Tree) : (g.callParts tree).callee = tree.field? g.calleeField := by
  unfold callParts calleeField
  cases g.callForm <;> rfl

theorem brokenBy?_eq_none (whole : brokenBy? tree = none) :
    ¬(tree.type = "ERROR" ∨ tree.label.isError = true) ∧ tree.label.isMissing ≠ true := by
  unfold brokenBy? at whole
  split at whole
  · cases whole
  · rename_i noError
    split at whole
    · cases whole
    · rename_i present
      exact ⟨by simpa using noError, present⟩

theorem checkNode_eq_ok {done : Unit} (checked : checkNode source tree = .ok done) : brokenBy? tree = none := by
  unfold checkNode at checked
  split at checked
  · cases checked
  · assumption

theorem classify_eq_error {refusal : Refusal} (failed : g.classify source path tree = .error refusal) :
    tree.hasType g.callTypes = true ∧ tree.field? g.calleeField = none ∧
      refusal = .malformed (faultAt source .callWithoutCallee tree) := by
  unfold classify at failed
  iterate 4 replace failed := ite_eq_of_ne (by simp) failed
  rcases ite_eq_iff.mp failed with ⟨isCall, failed⟩ | ⟨_, failed⟩
  · rcases ite_eq_iff.mp failed with ⟨noCallee, failed⟩ | ⟨_, failed⟩
    · cases failed
      rw [Option.isNone_iff_eq_none, callee_eq] at noCallee
      exact ⟨isCall, noCallee, rfl⟩
    · cases failed
  · iterate 6 replace failed := ite_eq_of_ne (by simp) failed
    cases failed

-- A node that is lowered has been given its kind, and what the kind asks for has been read.
theorem classified_of_lower {nodes : List Node} {first last : Nat}
    (done : g.Lowers source skip path tree first nodes last) (free : tree.key ∉ skip)
    (plain : tree.hasType g.commentTypes = false) :
    ∃ kind, g.classify source path tree = .ok kind ∧
      ∀ part ∈ kind, ∃ info, g.describe source path tree part = .ok info := by
  cases lowered_of_lower done with
  | passed passes => simp [passesOver, plain, free] at passes
  | opened _ noPart _ => exact ⟨none, noPart, by simp⟩
  | @kept kind info _ _ _ _ _ _ classified described _ _ =>
    refine ⟨some kind, classified, ?_⟩
    rintro part ⟨⟩
    exact ⟨info, described⟩

theorem not_faulty_of_lower {nodes : List Node} {first last : Nat} {fault : TreeFault} (sorts : g.SortsTypes)
    (done : g.Lowers source skip path tree first nodes last) (free : tree.key ∉ skip) :
    ¬ g.FaultyAt source { node := tree, above := path } fault := by
  have whole : brokenBy? tree = none := by
    rw [Lowers, lower_eq, run_lift_bind] at done
    obtain ⟨_, checked, _⟩ := bind_eq_ok.mp done
    exact checkNode_eq_ok checked
  obtain ⟨noError, present⟩ := brokenBy?_eq_none whole
  intro faulty
  cases faulty with
  | parseError broken => exact noError broken
  | missingToken missing => exact present missing
  | callWithoutCallee _ plain isCall noCallee =>
    obtain ⟨kind, classified, _⟩ := classified_of_lower done free plain
    rw [← callee_eq] at noCallee
    rw [sorts.calls tree isCall noCallee source path] at classified
    cases classified
  | functionWithoutBody _ plain isFunction required noBody =>
    obtain ⟨kind, classified, described⟩ := classified_of_lower done free plain
    cases isFunction.symm.trans classified
    obtain ⟨info, described⟩ := described _ rfl
    have noBody : (tree.field? "body").isNone = true := Option.isNone_iff_eq_none.mpr noBody
    have required : tree.hasType g.bodyRequired = true := required
    simp [describe, required, noBody] at described
  | loopWithoutBody _ plain isLoop noBody =>
    obtain ⟨kind, classified, described⟩ := classified_of_lower done free plain
    cases (sorts.loops tree isLoop source path).symm.trans classified
    obtain ⟨info, described⟩ := described _ rfl
    have noBody : (tree.field? "body").isNone = true := Option.isNone_iff_eq_none.mpr noBody
    simp [describe, noBody] at described

end Steps

section Run

variable {g : Grammar} {source : Source} {skip : List Tree.Key} {path : List Tree} {tree : Tree}

theorem part_mem_walk (path : List Tree) {part : OncePart tree} (member : part ∈ g.onceParts tree) :
    { node := part.node, above := part.between ++ tree :: path } ∈ Tree.Place.walk path tree := by
  rcases g.onceParts_cases tree with ⟨direct, among⟩ | ⟨single, clause, only, isChild, _, between, below⟩
  · rw [direct part member]
    exact Tree.Place.mem_walk_child (among.subset (List.mem_map_of_mem member)) (Tree.Place.mem_walk_self _ _)
  · rw [only, List.mem_singleton] at member
    subst member
    rw [between]
    exact Tree.Place.mem_walk_child isChild (Tree.Place.mem_walk_child below (Tree.Place.mem_walk_self _ _))

theorem part_visible {part : OncePart tree} (opens : g.ClausesOpen) (visible : g.Visible (tree :: path))
    (member : part ∈ g.onceParts tree) : g.Visible (part.between ++ tree :: path) := by
  rcases g.onceParts_cases tree with ⟨direct, _⟩ | ⟨single, clause, only, _, isClause, between, _⟩
  · rwa [direct part member]
  · rw [only, List.mem_singleton] at member
    subst member
    rw [between]
    exact visible_cons visible (opens clause isClause).1

theorem plain_of_isShown {child : Tree} {place : Tree.Place} (below : path ≠ []) (shown : g.isShown place = true)
    (inside : place ∈ Tree.Place.walk (tree :: path) child) : tree.hasType g.commentTypes = false := by
  obtain ⟨lower, above, _⟩ := Tree.Place.mem_walk inside
  rw [isShown, above, List.dropLast_append_of_ne_nil (List.cons_ne_nil _ _), List.dropLast_cons_of_ne_nil below,
    List.all_eq_true] at shown
  simpa using shown tree (by simp)

-- Lowering that succeeds has looked at every place that can be seen, unless the place, or something above it, was to
-- be skipped. A place below a part that a loop takes first is looked at there.
theorem lower_sound {nodes : List Node} {first last : Nat} {place : Tree.Place} {fault : TreeFault}
    (sorts : g.SortsTypes) (below : path ≠ []) (distinct : Distinct path tree)
    (done : g.Lowers source skip path tree first nodes last)
    (member : place ∈ Tree.Place.walk path tree) (shown : g.isShown place = true)
    (free : ∀ upper ∈ Tree.Place.walk path tree, place ∈ Tree.Place.walk upper.above upper.node →
      upper.node.key ∉ skip) : ¬ g.FaultyAt source place fault := by
  induction tree using lowering_induction generalizing skip path nodes first last with
  | step tree children parts =>
    have unskipped := free _ (Tree.Place.mem_walk_self path tree) member
    rcases Tree.Place.mem_walk_cases member with rfl | ⟨child, isChild, inside⟩
    · exact not_faulty_of_lower sorts done unskipped
    have plain := plain_of_isShown below shown inside
    have freeBelow : ∀ upper ∈ Tree.Place.walk (tree :: path) child, place ∈ Tree.Place.walk upper.above upper.node →
        upper.node.key ∉ skip :=
      fun upper isUpper => free upper (Tree.Place.mem_walk_child isChild isUpper)
    cases lowered_of_lower done with
    | passed passes => simp [passesOver, plain, unskipped] at passes
    | opened _ _ rest =>
      obtain ⟨_, _, _, _, lowered⟩ := exists_of_forall₂ rest.each isChild
      exact children child isChild (List.cons_ne_nil _ _) (distinct_child distinct isChild) lowered inside freeBelow
    | @kept kind _ _ _ _ _ _ _ _ _ early rest =>
      by_cases taken : ∃ upper ∈ Tree.Place.walk (tree :: path) child,
          place ∈ Tree.Place.walk upper.above upper.node ∧ upper.node.key ∈ (g.onceOf kind tree).map (·.node.key)
      · obtain ⟨upper, isUpper, under, isTaken⟩ := taken
        obtain ⟨part, isPart, same⟩ := List.mem_map.mp isTaken
        obtain ⟨_, _, _, _, lowered⟩ := exists_of_forall₂ early.each isPart
        have inTree := part_mem_walk path (onceOf_below isPart).2.1
        have samePlace := Tree.Place.eq_of_key_eq distinct inTree (Tree.Place.mem_walk_child isChild isUpper) same
        rw [← samePlace] at under
        exact parts part (by simp) (Tree.Place.distinct_of_mem_walk distinct inTree) lowered under
          fun other isOther => free other (Tree.Place.mem_walk_trans inTree isOther)
      · obtain ⟨_, _, _, _, lowered⟩ := exists_of_forall₂ rest.each isChild
        refine children child isChild (List.cons_ne_nil _ _) (distinct_child distinct isChild) lowered inside ?_
        intro upper isUpper under inEither
        rcases List.mem_append.mp inEither with inSkip | isTaken
        · exact freeBelow upper isUpper under inSkip
        · exact taken ⟨upper, isUpper, under, isTaken⟩

end Run

section Whole

variable {g : Grammar} {tag : String} {source : Source} {tree : Option Tree}

theorem shows_nothing_of_outline {outline : Outline} {m : Malformed} (sorts : g.SortsTypes)
    (distinct : ∀ top ∈ tree, (top.preorder.map Tree.key).Nodup) (done : g.outline tag source tree = .ok outline) :
    ¬ g.Shows source tree m := by
  obtain ⟨top, last, rfl, made⟩ := outline_eq_unitNode done
  obtain ⟨checked, parts, rest, _⟩ := unitNode_eq_ok made
  intro shows
  cases shows with
  | @atPlace _ place fault member shown faulty =>
  have whole : Distinct [] top := by
    rw [Distinct, List.append_nil]
    exact distinct top rfl
  rcases Tree.Place.mem_walk_cases member with rfl | ⟨child, isChild, inside⟩
  · obtain ⟨noError, present⟩ := brokenBy?_eq_none (checkNode_eq_ok checked)
    cases faulty with
    | parseError broken => exact noError broken
    | missingToken missing => exact present missing
    | callWithoutCallee below | functionWithoutBody below | loopWithoutBody below => exact below rfl
  · obtain ⟨_, _, _, _, lowered⟩ := exists_of_forall₂ rest.each isChild
    exact lower_sound sorts (List.cons_ne_nil _ _) (distinct_child whole isChild) lowered inside shown (by simp) faulty

end Whole

end Grammar

section Nested

variable {source : Source} {calls : Nat}

end Nested

end Perflint
