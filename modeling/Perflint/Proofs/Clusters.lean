import Mathlib
import Perflint.Finding
import Perflint.Proofs.Lists
import Perflint.Proofs.Spans

namespace Perflint

namespace Settings

theorem mem_sortedTexts {text : String} {texts : List String} : text ∈ sortedTexts texts ↔ text ∈ texts := by
  rw [sortedTexts, List.mem_mergeSort, List.mem_eraseDups]

-- Each text once, in ascending order.
theorem sortedTexts_pairwise (texts : List String) : (sortedTexts texts).Pairwise (· < ·) := by
  have sorted : (sortedTexts texts).Pairwise (fun a b => decide (a ≤ b) = true) := by
    refine List.pairwise_mergeSort ?_ ?_ _
    · intro a b c first second
      exact decide_eq_true (String.le_trans (of_decide_eq_true first) (of_decide_eq_true second))
    · intro a b
      simpa using String.le_total a b
  have distinct : (sortedTexts texts).Nodup := (List.mergeSort_perm _ _).nodup_iff.mpr (eraseDups_nodup texts)
  exact (sorted.and distinct).imp fun both => lt_of_le_of_ne (of_decide_eq_true both.1) both.2

end Settings

namespace Cluster

theorem precedes_iff {a b : Match} : precedes a b = true ↔
    a.span.start.lt b.span.start = true ∨ (a.span.start = b.span.start ∧
      (b.span.finish.lt a.span.finish = true ∨ (a.span.finish = b.span.finish ∧ a.ruleId ≤ b.ruleId))) := by
  simp [precedes]

theorem precedes_trans {a b c : Match} (first : precedes a b = true) (second : precedes b c = true) :
    precedes a c = true := by
  rw [precedes_iff] at *
  simp only [Position.lt_iff, Position.eq_iff] at *
  rcases first with start | ⟨start, finish | ⟨finish, rule⟩⟩ <;>
    rcases second with start' | ⟨start', finish' | ⟨finish', rule'⟩⟩
  case inr.inr.inr.inr => exact .inr ⟨by omega, .inr ⟨by omega, String.le_trans rule rule'⟩⟩
  case inr.inl.inr.inl | inr.inl.inr.inr | inr.inr.inr.inl => exact .inr ⟨by omega, .inl (by omega)⟩
  all_goals exact .inl (by omega)

theorem precedes_total (a b : Match) : (precedes a b || precedes b a) = true := by
  rw [Bool.or_eq_true, precedes_iff, precedes_iff]
  simp only [Position.lt_iff, Position.eq_iff]
  rcases String.le_total a.ruleId b.ruleId with rule | rule <;> simp only [rule, and_true] <;> omega

-- What comes first in the order and lies in what comes later covers the same place.
theorem contains_of_precedes {a b : Match} (order : precedes a b = true) (inside : b.span.contains a.span = true) :
    a.span.contains b.span = true := by
  rw [precedes_iff] at order
  rw [Span.contains_iff] at inside ⊢
  simp only [Position.lt_iff, Position.eq_iff, Position.le_iff] at order inside ⊢
  omega

theorem insert_cases (m : Match) (clusters : List Cluster) :
    (∃ before cluster after, clusters = before ++ cluster :: after ∧ cluster.outer.span.contains m.span = true ∧
      insert m clusters = before ++ { cluster with inner := cluster.inner ++ [m] } :: after) ∨
    ((∀ cluster ∈ clusters, cluster.outer.span.contains m.span = false) ∧
      insert m clusters = clusters ++ [{ outer := m }]) := by
  induction clusters with
  | nil => exact .inr ⟨by simp, rfl⟩
  | cons first rest ih =>
    unfold insert
    split
    · rename_i inside
      exact .inl ⟨[], first, rest, rfl, inside, rfl⟩
    · rename_i outside
      rcases ih with ⟨before, cluster, after, rfl, inside, same⟩ | ⟨none, same⟩
      · exact .inl ⟨first :: before, cluster, after, rfl, inside, by rw [same, List.cons_append]⟩
      · refine .inr ⟨?_, by rw [same, List.cons_append]⟩
        intro cluster member
        rcases List.mem_cons.mp member with rfl | later
        · simpa using outside
        · exact none cluster later

-- Neither place lies in the other.
def Apart (a b : Span) : Prop :=
  a.contains b = false ∧ b.contains a = false

-- The clusters hold exactly the matches taken so far, each under an outer match that covers it, and no outer
-- match lies in another one.
structure Sound (taken : List Match) (clusters : List Cluster) : Prop where
  members : (clusters.flatMap members).Perm taken
  contained : ∀ cluster ∈ clusters, ∀ m ∈ cluster.members, cluster.outer.span.contains m.span = true
  apart : clusters.Pairwise fun a b => Apart a.outer.span b.outer.span

theorem insert_sound {taken : List Match} {clusters : List Cluster} {m : Match} (sound : Sound taken clusters)
    (last : ∀ earlier ∈ taken, precedes earlier m = true) : Sound (taken ++ [m]) (insert m clusters) := by
  rcases insert_cases m clusters with ⟨before, cluster, after, rfl, inside, same⟩ | ⟨outside, same⟩
  · have grown : (members { cluster with inner := cluster.inner ++ [m] }) = cluster.members ++ [m] := rfl
    rw [same]
    refine ⟨?_, ?_, ?_⟩
    · refine List.Perm.trans ?_ (sound.members.append_right [m])
      simp only [List.flatMap_append, List.flatMap_cons, grown, List.append_assoc]
      exact List.Perm.append_left _ (List.Perm.append_left _ List.perm_append_comm)
    · intro other member inner isMember
      rcases List.mem_append.mp member with early | late
      · exact sound.contained other (List.mem_append_left _ early) inner isMember
      · rcases List.mem_cons.mp late with rfl | later
        · rw [grown, List.mem_append, List.mem_singleton] at isMember
          rcases isMember with old | rfl
          · exact sound.contained cluster (by simp) inner old
          · exact inside
        · exact sound.contained other (by simp [later]) inner isMember
    · have apart := sound.apart
      rw [List.pairwise_append, List.pairwise_cons] at apart ⊢
      simpa using apart
  · rw [same]
    refine ⟨?_, ?_, ?_⟩
    · rw [List.flatMap_append]
      exact sound.members.append_right [m]
    · intro other member inner isMember
      rcases List.mem_append.mp member with old | new
      · exact sound.contained other old inner isMember
      · obtain rfl := List.mem_singleton.mp new
        obtain rfl : inner = m := by simpa [Cluster.members] using isMember
        exact Span.contains_refl _
    · rw [List.pairwise_append]
      refine ⟨sound.apart, List.pairwise_singleton _ _, ?_⟩
      intro other member single isSingle
      obtain rfl := List.mem_singleton.mp isSingle
      have taken : other.outer ∈ taken :=
        sound.members.mem_iff.mp (List.mem_flatMap.mpr ⟨other, member, List.mem_cons_self⟩)
      refine ⟨outside other member, ?_⟩
      -- Were the new match around an older outer one, they would cover the same place.
      rw [← Bool.not_eq_true]
      intro around
      have inside := contains_of_precedes (last _ taken) around
      rw [outside other member] at inside
      cases inside

theorem foldl_insert_sound {taken rest : List Match} {clusters : List Cluster} (sound : Sound taken clusters)
    (sorted : (taken ++ rest).Pairwise fun a b => precedes a b = true) :
    Sound (taken ++ rest) (rest.foldl (fun clusters m => insert m clusters) clusters) := by
  induction rest generalizing taken clusters with
  | nil => simpa using sound
  | cons m rest ih =>
    have last : ∀ earlier ∈ taken, precedes earlier m = true := fun earlier member =>
      (List.pairwise_append.mp sorted).2.2 earlier member m List.mem_cons_self
    rw [List.append_cons] at sorted ⊢
    exact ih (insert_sound sound last) sorted

theorem ofMatches_sound (found : List Match) : Sound found (ofMatches found) := by
  have sorted : (found.mergeSort precedes).Pairwise fun a b => precedes a b = true := by
    refine List.pairwise_mergeSort ?_ precedes_total found
    intro a b c first second
    exact precedes_trans first second
  have start : Sound [] [] := ⟨.nil, by simp, .nil⟩
  have sound := foldl_insert_sound start sorted
  exact ⟨sound.members.trans (List.mergeSort_perm _ _), sound.contained, sound.apart⟩

theorem mem_insert_members {m other : Match} {clusters : List Cluster} {cluster : Cluster}
    (isCluster : cluster ∈ insert m clusters) (member : other ∈ cluster.members) :
    other = m ∨ ∃ before ∈ clusters, other ∈ before.members := by
  rcases insert_cases m clusters with ⟨before, grown, after, rfl, _, same⟩ | ⟨_, same⟩
  · rw [same] at isCluster
    rcases List.mem_append.mp isCluster with early | late
    · exact .inr ⟨cluster, List.mem_append_left _ early, member⟩
    · rcases List.mem_cons.mp late with rfl | later
      · rcases List.mem_append.mp (show other ∈ grown.members ++ [m] from member) with old | new
        · exact .inr ⟨grown, by simp, old⟩
        · exact .inl (List.mem_singleton.mp new)
      · exact .inr ⟨cluster, by simp [later], member⟩
  · rw [same] at isCluster
    rcases List.mem_append.mp isCluster with old | new
    · exact .inr ⟨cluster, old, member⟩
    · cases List.mem_singleton.mp new
      exact .inl (List.mem_singleton.mp member)

-- No match lies in the outer match of a cluster before its own.
def FirstFit (clusters : List Cluster) : Prop :=
  clusters.Pairwise fun earlier later => ∀ m ∈ later.members, earlier.outer.span.contains m.span = false

theorem insert_firstFit {clusters : List Cluster} (m : Match) (fits : FirstFit clusters) :
    FirstFit (insert m clusters) := by
  induction clusters with
  | nil => exact List.pairwise_singleton _ _
  | cons first rest ih =>
    obtain ⟨outsideFirst, restFits⟩ := List.pairwise_cons.mp fits
    unfold insert
    split
    · exact List.pairwise_cons.mpr ⟨outsideFirst, restFits⟩
    · rename_i outside
      refine List.pairwise_cons.mpr ⟨?_, ih restFits⟩
      intro later isLater other member
      rcases mem_insert_members isLater member with rfl | ⟨before, isBefore, inBefore⟩
      · simpa using outside
      · exact outsideFirst before isBefore other inBefore

theorem foldl_insert_firstFit {clusters : List Cluster} (found : List Match) (fits : FirstFit clusters) :
    FirstFit (found.foldl (fun clusters m => insert m clusters) clusters) := by
  induction found generalizing clusters with
  | nil => exact fits
  | cons m rest ih => exact ih (insert_firstFit m fits)

-- Matches of one place stand in one cluster.
theorem ofMatches_together {found : List Match} {cluster other : Cluster} {a b : Match}
    (isCluster : cluster ∈ ofMatches found) (inCluster : a ∈ cluster.members) (isOther : other ∈ ofMatches found)
    (inOther : b ∈ other.members) (samePlace : a.span = b.span) : cluster = other := by
  have fits : FirstFit (ofMatches found) := foldl_insert_firstFit _ List.Pairwise.nil
  have contained := (ofMatches_sound found).contained
  have apart : (ofMatches found).Pairwise fun first second =>
      ∀ x ∈ first.members, ∀ y ∈ second.members, x.span ≠ y.span := by
    refine fits.imp_of_mem ?_
    intro first second isFirst _ outside x inFirst y inSecond same
    have covered := contained first isFirst x inFirst
    rw [same, outside y inSecond] at covered
    cases covered
  by_contra differ
  have symmetric : Std.Symm fun first second : Cluster =>
      ∀ x ∈ first.members, ∀ y ∈ second.members, x.span ≠ y.span :=
    ⟨fun first second separate y inSecond x inFirst same => separate x inFirst y inSecond same.symm⟩
  exact apart.forall isCluster isOther differ a inCluster b inOther samePlace

theorem gravest_eq_none {found : List Match} (none : gravest found = none) : found = [] := by
  cases found with
  | nil => rfl
  | cons first rest =>
    unfold gravest at none
    split at none
    · cases none
    · split at none <;> cases none

theorem gravest_eq_some {found : List Match} {m : Match} (grave : gravest found = some m) :
    m ∈ found ∧ ∀ other ∈ found, other.severity.level ≤ m.severity.level := by
  induction found generalizing m with
  | nil => cases grave
  | cons first rest ih =>
    unfold gravest at grave
    cases later : gravest rest with
    | none =>
      rw [later] at grave
      cases grave
      rw [gravest_eq_none later]
      simp
    | some other =>
      rw [later] at grave
      obtain ⟨member, greatest⟩ := ih later
      simp only [Bool.or_eq_true, decide_eq_true_eq, Bool.and_eq_true, beq_iff_eq] at grave
      split at grave <;> rename_i chosen <;> cases grave
      all_goals
        refine ⟨by simp [member], ?_⟩
        intro candidate isCandidate
        rcases List.mem_cons.mp isCandidate with rfl | inRest
        · omega
        · have bound := greatest candidate inRest
          omega

theorem lead_mem (cluster : Cluster) : cluster.lead ∈ cluster.members := by
  unfold lead members
  split
  · rename_i m grave
    split
    · exact List.mem_cons_of_mem _ (gravest_eq_some grave).1
    · exact List.mem_cons_self
  · exact List.mem_cons_self

theorem level_le_lead {cluster : Cluster} {m : Match} (member : m ∈ cluster.members) :
    m.severity.level ≤ cluster.lead.severity.level := by
  unfold lead
  split
  · rename_i other grave
    have bound := (gravest_eq_some grave).2
    rcases List.mem_cons.mp member with rfl | inner
    · split <;> omega
    · have lighter := bound m inner
      split <;> omega
  · rename_i none
    rw [members, gravest_eq_none none, List.mem_singleton] at member
    rw [member]

theorem mem_ruleIds {cluster : Cluster} {id : String} :
    id ∈ cluster.ruleIds ↔ ∃ m ∈ cluster.members, m.ruleId = id := by
  rw [ruleIds, Settings.mem_sortedTexts, List.mem_map]

end Cluster
end Perflint
