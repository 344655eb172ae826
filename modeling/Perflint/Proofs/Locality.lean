import Mathlib
import Perflint.Proofs.Aggregation
import Perflint.Proofs.Selection

namespace Perflint

-- No two matches of one scope and category stand for one rule at one place.
def Match.ToldApart (found : List Match) : Prop :=
  found.Pairwise fun a b =>
    a.scopeId = b.scopeId → a.category = b.category → a.ruleId = b.ruleId → a.span.sameRegion b.span = false

namespace Cluster

theorem precedes_antisymm {a b : Match} (first : precedes a b = true) (second : precedes b a = true) :
    a.span.sameRegion b.span = true ∧ a.ruleId = b.ruleId := by
  rw [precedes_iff] at first second
  rw [Span.sameRegion_iff]
  simp only [Position.lt_iff, Position.eq_iff] at *
  rcases first with start | ⟨start, finish | ⟨finish, rule⟩⟩ <;>
    rcases second with start' | ⟨start', finish' | ⟨finish', rule'⟩⟩
  case inr.inr.inr.inr => exact ⟨⟨start, finish⟩, String.le_antisymm rule rule'⟩
  all_goals omega

-- Where no two matches tie in the order, the sort undoes any permutation.
theorem ofMatches_eq_of_perm {found other : List Match} (perm : found.Perm other)
    (apart : found.Pairwise fun a b => a.ruleId = b.ruleId → a.span.sameRegion b.span = false) :
    ofMatches found = ofMatches other := by
  have trans : ∀ a b c, precedes a b = true → precedes b c = true → precedes a c = true :=
    fun _ _ _ => precedes_trans
  have sorted : found.mergeSort precedes = other.mergeSort precedes := by
    refine List.Perm.eq_of_pairwise ?_ (List.pairwise_mergeSort trans precedes_total found)
      (List.pairwise_mergeSort trans precedes_total other)
      ((List.mergeSort_perm found _).trans (perm.trans (List.mergeSort_perm other _).symm))
    intro a b inFound inOther first second
    by_contra differ
    obtain ⟨same, rule⟩ := precedes_antisymm first second
    have symmetric : Std.Symm fun a b : Match => a.ruleId = b.ruleId → a.span.sameRegion b.span = false := by
      refine ⟨fun a b distinct rule => ?_⟩
      rw [Span.sameRegion_comm]
      exact distinct rule.symm
    have distinct := apart.forall (List.mem_mergeSort.mp inFound)
      (perm.mem_iff.mpr (List.mem_mergeSort.mp inOther)) differ rule
    rw [same] at distinct
    cases distinct
  rw [ofMatches, ofMatches, sorted]

end Cluster

namespace Finding

theorem mem_groupKeys_iff {found : List Match} {key : Nat × String} :
    key ∈ groupKeys found ↔ ∃ m ∈ found, (m.scopeId, m.category) = key := by
  rw [groupKeys, List.mem_mergeSort, List.mem_eraseDups, List.mem_map]

theorem groupKeys_sorted (found : List Match) :
    (groupKeys found).Pairwise fun a b => a.1 < b.1 ∨ (a.1 = b.1 ∧ a.2 ≤ b.2) := by
  have sorted : (groupKeys found).Pairwise fun a b => (a.1 < b.1 || (a.1 == b.1 && a.2 ≤ b.2)) = true := by
    refine List.pairwise_mergeSort ?_ ?_ _
    · intro a b c first second
      simp only [Bool.or_eq_true, Bool.and_eq_true, decide_eq_true_eq, beq_iff_eq] at *
      rcases first with first | ⟨first, text⟩ <;> rcases second with second | ⟨second, text'⟩
      case inr.inr => exact .inr ⟨by omega, String.le_trans text text'⟩
      all_goals omega
    · intro a b
      simp only [Bool.or_eq_true, Bool.and_eq_true, decide_eq_true_eq, beq_iff_eq]
      rcases String.le_total a.2 b.2 with text | text <;> simp only [text, and_true] <;> omega
  exact sorted.imp fun order => by simpa using order

-- The groups are determined by what they hold.
theorem eq_groupKeys {found : List Match} {keys : List (Nat × String)} (distinct : keys.Nodup)
    (sorted : keys.Pairwise fun a b => a.1 < b.1 ∨ (a.1 = b.1 ∧ a.2 ≤ b.2))
    (members : ∀ key, key ∈ keys ↔ ∃ m ∈ found, (m.scopeId, m.category) = key) : keys = groupKeys found := by
  refine List.Perm.eq_of_pairwise ?_ sorted (groupKeys_sorted found) ?_
  · intro a b _ _ first second
    rcases first with first | ⟨first, text⟩ <;> rcases second with second | ⟨second, text'⟩
    case inr.inr => exact Prod.ext first (String.le_antisymm text text')
    all_goals omega
  · refine (List.perm_ext_iff_of_nodup distinct (groupKeys_nodup found)).mpr fun key => ?_
    rw [members, mem_groupKeys_iff]

theorem clusters_eq_of_perm {found other : List Match} (perm : found.Perm other) (apart : Match.ToldApart found) :
    clusters found = clusters other := by
  have keys : groupKeys found = groupKeys other := by
    refine eq_groupKeys (groupKeys_nodup found) (groupKeys_sorted found) fun key => ?_
    rw [mem_groupKeys_iff]
    exact exists_congr fun m => and_congr_left fun _ => perm.mem_iff
  rw [clusters, clusters, ← keys]
  refine List.flatMap_congr fun key _ => Cluster.ofMatches_eq_of_perm (perm.filter _) ?_
  refine (apart.filter _).imp_of_mem ?_
  intro a b inA inB distinct
  have keyA := beq_iff_eq.mp (List.mem_filter.mp inA).2
  have keyB := beq_iff_eq.mp (List.mem_filter.mp inB).2
  obtain ⟨scope, category⟩ := Prod.ext_iff.mp (keyA.trans keyB.symm)
  exact distinct scope category

-- The matches of a scope make the same clusters without the others.
theorem clusters_filter (found : List Match) (scopeId : Nat) :
    clusters (found.filter (·.scopeId == scopeId)) = (clusters found).filter (·.outer.scopeId == scopeId) := by
  have keys : (groupKeys found).filter (·.1 == scopeId) = groupKeys (found.filter (·.scopeId == scopeId)) := by
    refine eq_groupKeys ((groupKeys_nodup found).filter _) ((groupKeys_sorted found).filter _) fun key => ?_
    rw [List.mem_filter, mem_groupKeys_iff]
    constructor
    · rintro ⟨⟨m, member, rfl⟩, inScope⟩
      exact ⟨m, List.mem_filter.mpr ⟨member, inScope⟩, rfl⟩
    · rintro ⟨m, member, rfl⟩
      obtain ⟨member, inScope⟩ := List.mem_filter.mp member
      exact ⟨⟨m, member, rfl⟩, inScope⟩
  have carried := filter_flatMap_key (fun key : Nat × String => key.1) (fun cluster : Cluster => cluster.outer.scopeId)
    (fun key cluster inside => congrArg Prod.fst (@outer_key found key cluster inside)) (· == scopeId) (groupKeys found)
  rw [clusters, clusters, carried, ← keys]
  refine List.flatMap_congr fun key member => congrArg Cluster.ofMatches ?_
  rw [List.filter_filter]
  refine List.filter_congr fun m _ => ?_
  have inScope := (List.mem_filter.mp member).2
  by_cases same : (m.scopeId, m.category) = key
  · subst same
    simpa using inScope
  · simp [same]

theorem annotated_filter {scopeId : Nat} {finding : Finding} (inScope : finding.scopeId = scopeId)
    (estimates : List Estimate) :
    annotated (estimates.filter (·.scopeId == scopeId)) finding = annotated estimates finding := by
  unfold annotated
  rw [← List.filter_reverse, List.find?_filter, inScope]
  simp only [Bool.decide_and, Bool.and_self, Bool.decide_eq_true]

theorem ofMatches_filter {outline : Outline} {registry : Registry} {estimates : List Estimate} {found : List Match}
    {findings : List Finding} (made : ofMatches outline registry estimates found = .ok findings) (scopeId : Nat) :
    ofMatches outline registry (estimates.filter (·.scopeId == scopeId)) (found.filter (·.scopeId == scopeId)) =
      .ok (findings.filter (·.scopeId == scopeId)) := by
  unfold ofMatches at made ⊢
  rw [clusters_filter, mapM_eq_ok]
  obtain ⟨pairs, firsts, rfl, all⟩ := forall₂_pairs (mapM_eq_ok.mp made)
  have sameScope : ∀ pair ∈ pairs, pair.2.scopeId = pair.1.outer.scopeId := by
    intro pair member
    have isCluster : pair.1 ∈ clusters found := firsts ▸ List.mem_map_of_mem member
    exact (ofCluster_gathers (clusters_uniform isCluster) (all pair member)).2.1
  have kept : pairs.filter (fun pair => pair.1.outer.scopeId == scopeId) =
      pairs.filter fun pair => pair.2.scopeId == scopeId :=
    List.filter_congr fun pair member => by rw [sameScope pair member]
  rw [← firsts, List.filter_map, List.filter_map, Function.comp_def, Function.comp_def, kept,
    List.forall₂_map_left_iff, List.forall₂_map_right_iff, List.forall₂_same]
  intro pair member
  obtain ⟨isPair, inScope⟩ := List.mem_filter.mp member
  have made := all pair isPair
  cases built : ofCluster outline registry pair.1 with
  | error fault =>
    rw [built] at made
    cases made
  | ok plain =>
    rw [built] at made
    have annotation : annotated estimates plain = pair.2 := Except.ok.inj made
    obtain ⟨complexity, same⟩ := annotated_eq estimates plain
    have plainScope : plain.scopeId = pair.2.scopeId := by rw [← annotation, same]
    have swapped := annotated_filter (plainScope.trans (beq_iff_eq.mp inScope)) estimates
    exact congrArg Except.ok (swapped.trans annotation)

theorem ofEstimate?_scopeId {outline : Outline} {hints : Hints} {estimate : Estimate} {finding : Finding}
    (made : ofEstimate? outline hints estimate = some finding) : finding.scopeId = estimate.scopeId := by
  unfold ofEstimate? at made
  obtain ⟨severity, _, written⟩ := Option.bind_eq_some_iff.mp made
  cases written
  rfl

theorem select_filter {settings : Settings} (unlimited : settings.maxFindings = 0) (keep : Finding → Bool)
    (findings : List Finding) : (select settings findings).filter keep = select settings (findings.filter keep) := by
  have swap : (findings.filter fun finding => settings.minSeverity ≤ finding.severity).filter keep =
      (findings.filter keep).filter fun finding => settings.minSeverity ≤ finding.severity := by
    rw [List.filter_filter, List.filter_filter]
    exact List.filter_congr fun _ _ => Bool.and_comm _ _
  unfold select
  rw [unlimited]
  simp only [beq_self_eq_true, if_true]
  rw [filter_mergeSort precedes_trans precedes_total, swap]

theorem ofEstimates_filter (outline : Outline) (hints : Hints) (estimates : List Estimate) (scopeId : Nat) :
    (estimates.filterMap (ofEstimate? outline hints)).filter (·.scopeId == scopeId) =
      (estimates.filter (·.scopeId == scopeId)).filterMap (ofEstimate? outline hints) := by
  induction estimates with
  | nil => rfl
  | cons estimate estimates ih =>
    rw [List.filterMap_cons, List.filter_cons]
    cases made : ofEstimate? outline hints estimate with
    | none =>
      dsimp only
      split
      · rw [List.filterMap_cons, made]
        exact ih
      · exact ih
    | some finding =>
      dsimp only
      rw [List.filter_cons, ofEstimate?_scopeId made, ih]
      split
      · rw [List.filterMap_cons, made]
      · rfl

end Finding

-- The order of the matches does not count unless two of them tie, and what is said of a scope is said of its own
-- matches and estimates alone. Matches of the catalog's rules in known scopes always make findings.
theorem aggregate_local {outline : Outline} {registry : Registry} {hints : Hints} {settings : Settings}
    {found : List Match} {estimates : List Estimate} :
    (∀ other, found.Perm other → Match.ToldApart found →
      aggregate outline registry hints settings other estimates =
        aggregate outline registry hints settings found estimates) ∧
    (∀ findings, settings.maxFindings = 0 →
      aggregate outline registry hints settings found estimates = .ok findings →
      ∀ scopeId, aggregate outline registry hints settings (found.filter (·.scopeId == scopeId))
        (estimates.filter (·.scopeId == scopeId)) = .ok (findings.filter (·.scopeId == scopeId))) ∧
    ((∀ rule ∈ registry.rules, rule ∈ Catalog.rules) → (∀ m ∈ found, registry.contains m.ruleId = true) →
      (∀ m ∈ found, ∃ scope ∈ outline.scopes, scope.id = m.scopeId) →
      ∃ findings, aggregate outline registry hints settings found estimates = .ok findings) := by
  refine ⟨?_, ?_, fun drawn registered known => exists_findings drawn registered known hints settings estimates⟩
  · intro other perm apart
    have clusters := Finding.clusters_eq_of_perm perm apart
    unfold aggregate Finding.ofMatches
    rw [clusters]
  · intro findings unlimited made scopeId
    obtain ⟨fromMatches, ofMatches, rfl⟩ := aggregate_eq_ok.mp made
    refine aggregate_eq_ok.mpr ⟨_, Finding.ofMatches_filter ofMatches scopeId, ?_⟩
    rw [Finding.select_filter unlimited, List.filter_append, Finding.ofEstimates_filter]

theorem aggregate_local_overlapping :
    Match.ToldApart overlappingMatches ∧
    aggregate bareOutline Catalog.registry {} {} overlappingMatches.reverse [] =
      aggregate bareOutline Catalog.registry {} {} overlappingMatches [] ∧
    ∃ findings, aggregate bareOutline Catalog.registry {} {} overlappingMatches [] = .ok findings ∧
      aggregate bareOutline Catalog.registry {} {} (overlappingMatches.filter (·.scopeId == 0)) [] =
        .ok (findings.filter (·.scopeId == 0)) := by
  have apart : Match.ToldApart overlappingMatches := by
    unfold Match.ToldApart
    decide
  have inUnit : ∀ m ∈ overlappingMatches, bareOutline.unitScope.id = m.scopeId := by decide
  obtain ⟨reordered, ofScope, total⟩ := @aggregate_local bareOutline Catalog.registry {} {} overlappingMatches []
  obtain ⟨findings, made⟩ := total (fun _ member => member) (by decide)
    fun m member => ⟨bareOutline.unitScope, List.mem_cons_self, inUnit m member⟩
  exact ⟨apart, reordered _ (List.reverse_perm _).symm apart, findings, made, ofScope findings rfl made 0⟩

end Perflint
