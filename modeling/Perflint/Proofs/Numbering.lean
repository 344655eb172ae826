import Mathlib
import Perflint.Outline.Basic
import Perflint.Proofs.Sites

namespace Perflint

theorem mergeSort_eq_of_perm {α : Type} [LinearOrder α] {list sorted : List α} (same : list.Perm sorted)
    (inOrder : sorted.Pairwise (· ≤ ·)) : (list.mergeSort fun a b => a ≤ b) = sorted :=
  ((List.mergeSort_perm list _).trans same).eq_of_pairwise' (List.pairwise_mergeSort' _ list) inOrder

-- Zero, one, two and so on.
def upTo (count : Nat) : List Int :=
  (List.range count).map Int.ofNat

theorem upTo_sorted (count : Nat) : (upTo count).Pairwise (· ≤ ·) :=
  List.pairwise_map.mpr (List.pairwise_le_range.imp Int.ofNat_le.mpr)

theorem map_toNat_upTo (count : Nat) : (upTo count).map Int.toNat = List.range count := by
  rw [upTo, List.map_map]
  exact List.map_id'' (fun _ => rfl) _

theorem eq_upTo_iff {list : List Int} :
    list = upTo list.length ↔ ∀ (id : Int) (index : Nat), list[index]? = some id → id = index := by
  constructor
  · intro counts id index found
    rw [counts, upTo, List.getElem?_map, List.getElem?_range (by grind), Option.map_some] at found
    exact (Option.some.inj found).symm
  · intro counts
    refine List.ext_getElem (by simp [upTo]) fun index inside _ => ?_
    simp [upTo, counts _ index (List.getElem?_eq_getElem inside)]

-- What is wrong with a numbering: the numbers below the index are there, one each, and the least of the others is
-- not the index.
structure FirstGap (ids : List Int) (error : NumberingError) : Prop where
  others : ∃ rest, ids.Perm (upTo error.index ++ error.found :: rest) ∧ ∀ id ∈ rest, error.found ≤ id
  below : ∀ id ∈ upTo error.index, id ≤ error.found
  gap : error.found ≠ error.index

theorem misnumbered?_eq_none_iff {ids : List Int} : misnumbered? ids = none ↔ ids.Perm (upTo ids.length) := by
  have counts : misnumbered? ids = none ↔
      (ids.mergeSort fun a b => a ≤ b) = upTo (ids.mergeSort fun a b => a ≤ b).length := by
    simp only [misnumbered?, List.findSome?_eq_none_iff, eq_upTo_iff, Prod.forall, List.mk_mem_zipIdx_iff_getElem?]
    simp
  rw [counts, List.length_mergeSort]
  constructor
  · intro sorted
    rw [← sorted]
    exact (List.mergeSort_perm ids _).symm
  · exact fun all => mergeSort_eq_of_perm all (upTo_sorted _)

theorem firstGap_of_misnumbered {ids : List Int} {error : NumberingError} (wrong : misnumbered? ids = some error) :
    FirstGap ids error := by
  obtain ⟨before, ⟨found, index⟩, after, split, differs, counted⟩ := List.findSome?_eq_some_iff.mp wrong
  have places : ∀ (entry : Int × Nat) (place : Nat),
      (before ++ (found, index) :: after)[place]? = some entry → entry.2 = place := by
    intro entry place here
    rw [← split, List.getElem?_zipIdx, Option.map_eq_some_iff] at here
    obtain ⟨_, _, rfl⟩ := here
    exact Nat.zero_add place
  have atEnd : index = before.length := places (found, index) before.length (by simp)
  have sorted := congrArg (List.map Prod.fst) split
  rw [List.zipIdx_map_fst, List.map_append, List.map_cons] at sorted
  have first : before.map Prod.fst = upTo index := by
    rw [atEnd, ← before.length_map Prod.fst]
    refine eq_upTo_iff.mpr fun id place here => ?_
    rw [List.getElem?_map, Option.map_eq_some_iff] at here
    obtain ⟨entry, isEntry, rfl⟩ := here
    have inPlace := places entry place (by rw [List.getElem?_append_left (List.getElem?_eq_some_iff.mp isEntry).1, isEntry])
    have counts := counted entry (List.mem_of_getElem? isEntry)
    simpa [inPlace] using counts
  have gap : found ≠ index ∧ { found, index } = error := by simpa using differs
  obtain ⟨isGap, rfl⟩ := gap
  have order := List.pairwise_mergeSort' (· ≤ ·) ids
  rw [sorted, first, List.pairwise_append, List.pairwise_cons] at order
  refine ⟨⟨after.map Prod.fst, ?_, order.2.1.1⟩, fun id isBelow => order.2.2 id isBelow found List.mem_cons_self, isGap⟩
  rw [← first, ← sorted]
  exact (List.mergeSort_perm ids _).symm

namespace Outline

variable {outline : Outline}

theorem map_id_sites (outline : Outline) : outline.sites.map Site.id = List.range outline.size := by
  rw [sites, List.map_mergeSort (s := fun a b : Nat => decide (a ≤ b)) (fun _ _ _ _ => rfl), map_id_preorder]
  exact mergeSort_eq_of_perm outline.numbered List.pairwise_le_range

-- The identifiers count the nodes in the order in which the tree lists them.
def InPreorder (outline : Outline) : Prop :=
  outline.root.ids = List.range outline.size

theorem InPreorder.ascending (inPreorder : outline.InPreorder) : outline.root.ids.Pairwise (· < ·) := by
  rw [inPreorder]
  exact List.pairwise_lt_range

theorem sites_eq_preorder_iff : outline.sites = outline.preorder ↔ outline.InPreorder := by
  constructor
  · intro same
    rw [InPreorder, ← map_id_preorder, ← same, map_id_sites]
  · intro inPreorder
    have ascending := inPreorder.ascending
    rw [← map_id_preorder, List.pairwise_map] at ascending
    exact List.mergeSort_of_pairwise (ascending.imp fun less => decide_eq_true less.le)

end Outline

namespace Draft

mutual

theorem ids_node : (draft : Draft) → draft.node.ids = draft.ids.map Int.toNat
  | .mk id span grammarType info children => by
    have below := ids_nodes children
    rw [node, Node.ids, Node.preorder, List.map_cons, below, ids, preorder, List.map_cons, List.map_cons]
    rfl

theorem ids_nodes : (drafts : List Draft) →
    (Node.preorderAll (nodes drafts)).map Node.id = ((preorderAll drafts).map id).map Int.toNat
  | [] => rfl
  | draft :: rest => by
    have here := ids_node draft
    rw [nodes, Node.preorderAll, preorderAll, List.map_append, List.map_append, List.map_append, ids_nodes rest]
    exact congrArg (· ++ _) here

end

theorem numbered_node {draft : Draft} (all : draft.ids.Perm (upTo draft.ids.length)) :
    draft.node.ids.Perm (List.range draft.node.ids.length) := by
  rw [ids_node, List.length_map, ← map_toNat_upTo]
  exact all.map Int.toNat

-- No number is lost on the way to a node where none is negative.
theorem ids_eq_upTo_iff {draft : Draft} (all : draft.ids.Perm (upTo draft.ids.length)) :
    draft.node.ids = List.range draft.node.ids.length ↔ draft.ids = upTo draft.ids.length := by
  rw [ids_node, List.length_map]
  constructor
  · intro counts
    have natural : ∀ id ∈ draft.ids, (Int.ofNat ∘ Int.toNat) id = id := by
      intro id isId
      obtain ⟨n, _, rfl⟩ := List.mem_map.mp (all.subset isId)
      rfl
    rw [upTo, ← counts, List.map_map, List.map_congr_left natural, List.map_id']
  · intro counts
    rw [← map_toNat_upTo, ← counts]

end Draft

namespace Outline

variable {language : String} {source : Source} {draft : Draft}

theorem ofDraft_of_perm (all : draft.ids.Perm (upTo draft.ids.length)) :
    ofDraft language source draft =
      .ok { language, source, root := draft.node, numbered := draft.numbered_node all } := by
  rw [ofDraft, misnumbered?_eq_none_iff.mpr all]
  exact dif_pos (draft.numbered_node all)

-- The numbers are looked at in ascending order, so that their order in the tree does not come into it: what is made
-- sure of is that every number is there, and the nodes are walked by number.
theorem ofDraft_numbering (language : String) (source : Source) (draft : Draft) :
    match ofDraft language source draft with
    | .ok outline =>
      draft.ids.Perm (upTo draft.ids.length) ∧
        outline.language = language ∧ outline.source = source ∧ outline.root = draft.node ∧
        outline.sites.map Site.id = List.range outline.size ∧
        (outline.sites = outline.preorder ↔ draft.ids = upTo draft.ids.length)
    | .error error => ¬draft.ids.Perm (upTo draft.ids.length) ∧ FirstGap draft.ids error := by
  by_cases all : draft.ids.Perm (upTo draft.ids.length)
  · rw [ofDraft_of_perm all]
    exact ⟨all, rfl, rfl, rfl, map_id_sites _, sites_eq_preorder_iff.trans (draft.ids_eq_upTo_iff all)⟩
  · cases found : misnumbered? draft.ids with
    | none => exact absurd (misnumbered?_eq_none_iff.mp found) all
    | some error =>
      rw [ofDraft, found]
      exact ⟨all, firstGap_of_misnumbered found⟩

end Outline

-- Two calls, of which the second has the smaller number.
def swappedCalls : Draft :=
  .mk 0 default "" .unit
    [.mk 2 default "" (.call { callee := "f" }) [], .mk 1 default "" (.call { callee := "g" }) []]

theorem swappedCalls_accepted :
    swappedCalls.ids = [0, 2, 1] ∧ ∃ outline, Outline.ofDraft "python" { bytes := [] } swappedCalls = .ok outline ∧
      outline.preorder.map Site.id = [0, 2, 1] ∧ outline.sites.map Site.id = [0, 1, 2] := by
  have all : swappedCalls.ids.Perm (upTo swappedCalls.ids.length) := by decide
  exact ⟨rfl, _, Outline.ofDraft_of_perm all, rfl, Outline.map_id_sites _⟩

end Perflint
