import Mathlib
import Perflint.Finding
import Perflint.Proofs.Clusters
import Perflint.Proofs.Messages
import Perflint.Proofs.Scopes

namespace Perflint

theorem Registry.exists_get? {registry : Registry} {id : String} (registered : registry.contains id = true) :
    ∃ rule, registry.get? id = some rule := by
  obtain ⟨rule, member, same⟩ := List.any_eq_true.mp registered
  exact Option.isSome_iff_exists.mp (List.find?_isSome.mpr ⟨rule, member, same⟩)

namespace Finding

-- The finding speaks for exactly these matches.
structure Gathers (finding : Finding) (members : List Match) : Prop where
  scope : ∀ m ∈ members, m.scopeId = finding.scopeId
  category : ∀ m ∈ members, m.category = finding.category
  covers : ∀ m ∈ members, finding.span.contains m.span = true
  gravest : ∀ m ∈ members, m.severity ≤ finding.severity
  place : ∃ m ∈ members, finding.span = m.span
  lead : ∃ m ∈ members, finding.severity = m.severity ∧ finding.patternId = m.ruleId
  sources : ∀ id, id ∈ finding.sources ↔ ∃ m ∈ members, m.ruleId = id
  sorted : finding.sources.Pairwise (· < ·)
  merged : finding.merged = finding.sources.filter (· != finding.patternId)

-- Every match stands in the group of exactly one finding, and of two findings of one scope and category neither
-- lies in the other.
def Partition (found : List Match) (findings : List Finding) : Prop :=
  ∃ groups : List (Finding × List Match),
    (groups.map Prod.fst).Perm findings ∧ (groups.flatMap Prod.snd).Perm found ∧
    (∀ group ∈ groups, group.1.Gathers group.2) ∧
    groups.Pairwise fun a b =>
      a.1.scopeId = b.1.scopeId → a.1.category = b.1.category → Cluster.Apart a.1.span b.1.span

-- The matches of a cluster share scope and category, and the outer one covers them all.
structure Uniform (cluster : Cluster) : Prop where
  scope : ∀ m ∈ cluster.members, m.scopeId = cluster.outer.scopeId
  category : ∀ m ∈ cluster.members, m.category = cluster.outer.category
  covers : ∀ m ∈ cluster.members, cluster.outer.span.contains m.span = true

theorem mem_groupKeys {found : List Match} {m : Match} (member : m ∈ found) :
    (m.scopeId, m.category) ∈ groupKeys found := by
  rw [groupKeys, List.mem_mergeSort, List.mem_eraseDups]
  exact List.mem_map_of_mem member

theorem groupKeys_nodup (found : List Match) : (groupKeys found).Nodup :=
  (List.mergeSort_perm _ _).nodup_iff.mpr (eraseDups_nodup _)

theorem clusters_perm (found : List Match) : ((clusters found).flatMap Cluster.members).Perm found := by
  rw [clusters, List.flatMap_assoc]
  refine List.Perm.trans (List.Perm.flatMap_left _ fun key _ => (Cluster.ofMatches_sound _).members) ?_
  exact flatMap_filter_perm (fun m => (m.scopeId, m.category)) (groupKeys_nodup found)
    fun m member => mem_groupKeys member

theorem outer_key {found : List Match} {key : Nat × String} {cluster : Cluster}
    (inside : cluster ∈ Cluster.ofMatches (found.filter fun m => (m.scopeId, m.category) == key)) :
    (cluster.outer.scopeId, cluster.outer.category) = key := by
  have sound := Cluster.ofMatches_sound (found.filter fun m => (m.scopeId, m.category) == key)
  have taken := sound.members.mem_iff.mp (List.mem_flatMap.mpr ⟨cluster, inside, List.mem_cons_self⟩)
  exact beq_iff_eq.mp (List.mem_filter.mp taken).2

-- The group that a cluster comes from.
theorem mem_clusters {found : List Match} {cluster : Cluster} (member : cluster ∈ clusters found) :
    ∃ key ∈ groupKeys found, cluster ∈ Cluster.ofMatches (found.filter fun m => (m.scopeId, m.category) == key) ∧
      ∀ m ∈ cluster.members, m ∈ found ∧ (m.scopeId, m.category) = key := by
  obtain ⟨key, isKey, inside⟩ := List.mem_flatMap.mp member
  refine ⟨key, isKey, inside, ?_⟩
  intro m isMember
  have sound := Cluster.ofMatches_sound (found.filter fun m => (m.scopeId, m.category) == key)
  have taken := sound.members.mem_iff.mp (List.mem_flatMap.mpr ⟨cluster, inside, isMember⟩)
  obtain ⟨original, same⟩ := List.mem_filter.mp taken
  exact ⟨original, beq_iff_eq.mp same⟩

theorem clusters_uniform {found : List Match} {cluster : Cluster} (member : cluster ∈ clusters found) :
    Uniform cluster := by
  obtain ⟨key, _, inside, keys⟩ := mem_clusters member
  have outer := (keys cluster.outer List.mem_cons_self).2
  refine ⟨?_, ?_, (Cluster.ofMatches_sound _).contained cluster inside⟩
  · intro m isMember
    exact congrArg Prod.fst ((keys m isMember).2.trans outer.symm)
  · intro m isMember
    exact congrArg Prod.snd ((keys m isMember).2.trans outer.symm)

theorem clusters_apart (found : List Match) : (clusters found).Pairwise fun a b =>
    a.outer.scopeId = b.outer.scopeId → a.outer.category = b.outer.category →
      Cluster.Apart a.outer.span b.outer.span := by
  rw [clusters, List.pairwise_flatMap]
  refine ⟨?_, ?_⟩
  · intro key _
    exact (Cluster.ofMatches_sound _).apart.imp fun apart _ _ => apart
  · -- Clusters of two groups differ in scope or category.
    refine (groupKeys_nodup found).imp_of_mem ?_
    intro key other _ _ differs a inA b inB sameScope sameCategory
    refine absurd ?_ differs
    rw [← outer_key inA, ← outer_key inB, sameScope, sameCategory]

theorem annotated_eq (estimates : List Estimate) (finding : Finding) :
    ∃ complexity, annotated estimates finding = { finding with complexity } := by
  unfold annotated
  split
  · split
    · exact ⟨finding.complexity, rfl⟩
    · exact ⟨_, rfl⟩
  · exact ⟨finding.complexity, rfl⟩

theorem ofCluster_gathers {outline : Outline} {registry : Registry} {estimates : List Estimate} {cluster : Cluster}
    {finding : Finding} (uniform : Uniform cluster)
    (made : (ofCluster outline registry cluster).map (annotated estimates) = .ok finding) :
    finding.Gathers cluster.members ∧ finding.scopeId = cluster.outer.scopeId ∧
      finding.category = cluster.outer.category ∧ finding.span = cluster.outer.span ∧ finding.origin.isSome = true := by
  have leadMember := cluster.lead_mem
  have leadScope := uniform.scope _ leadMember
  have leadCategory := uniform.category _ leadMember
  cases built : ofCluster outline registry cluster with
  | error fault =>
    rw [built] at made
    cases made
  | ok plain =>
    rw [built] at made
    cases made
    obtain ⟨complexity, same⟩ := annotated_eq estimates plain
    rw [same]
    unfold ofCluster at built
    dsimp only at built
    split at built
    · split at built
      · obtain ⟨message, _, written⟩ := bind_eq_ok.mp built
        cases written
        refine ⟨⟨?_, ?_, uniform.covers, ?_, ?_, ?_, ?_, ?_, rfl⟩, leadScope, leadCategory, rfl, rfl⟩
        · intro m member
          exact (uniform.scope m member).trans leadScope.symm
        · intro m member
          exact (uniform.category m member).trans leadCategory.symm
        · intro m member
          exact Cluster.level_le_lead member
        · exact ⟨cluster.outer, List.mem_cons_self, rfl⟩
        · exact ⟨cluster.lead, leadMember, rfl, rfl⟩
        · intro id
          exact Cluster.mem_ruleIds
        · exact Settings.sortedTexts_pairwise _
      · cases built
    · cases built

theorem ofMatches_partition {outline : Outline} {registry : Registry} {estimates : List Estimate}
    {found : List Match} {findings : List Finding} (made : ofMatches outline registry estimates found = .ok findings) :
    Partition found findings ∧ ∀ finding ∈ findings, finding.origin.isSome = true := by
  obtain ⟨pairs, firsts, rfl, all⟩ := forall₂_pairs (mapM_eq_ok.mp made)
  have gathered : ∀ pair ∈ pairs, pair.2.Gathers pair.1.members ∧ pair.2.scopeId = pair.1.outer.scopeId ∧
      pair.2.category = pair.1.outer.category ∧ pair.2.span = pair.1.outer.span ∧ pair.2.origin.isSome = true := by
    intro pair member
    have isCluster : pair.1 ∈ clusters found := firsts ▸ List.mem_map_of_mem member
    exact ofCluster_gathers (clusters_uniform isCluster) (all pair member)
  refine ⟨⟨pairs.map fun pair => (pair.2, pair.1.members), ?_, ?_, ?_, ?_⟩, ?_⟩
  · rw [List.map_map]
    exact .refl _
  · have perm := clusters_perm found
    rw [← firsts, List.flatMap_map] at perm
    rwa [List.flatMap_map]
  · intro group member
    obtain ⟨pair, inside, rfl⟩ := List.mem_map.mp member
    exact (gathered pair inside).1
  · have apart := clusters_apart found
    rw [← firsts, List.pairwise_map] at apart
    rw [List.pairwise_map]
    refine apart.imp_of_mem ?_
    intro a b inA inB separate
    obtain ⟨-, scopeA, categoryA, spanA, -⟩ := gathered a inA
    obtain ⟨-, scopeB, categoryB, spanB, -⟩ := gathered b inB
    dsimp only
    rw [scopeA, scopeB, categoryA, categoryB, spanA, spanB]
    exact separate
  · intro finding member
    obtain ⟨pair, inside, rfl⟩ := List.mem_map.mp member
    exact (gathered pair inside).2.2.2.2

-- With rule and scope known, only a message can keep a cluster from becoming a finding.
theorem ofCluster_error {outline : Outline} {registry : Registry} {cluster : Cluster} {error : FindingError}
    (registered : registry.contains cluster.lead.ruleId = true)
    (known : ∃ scope ∈ outline.scopes, scope.id = cluster.lead.scopeId)
    (failed : ofCluster outline registry cluster = .error error) :
    ∃ rule fault, registry.get? cluster.lead.ruleId = some rule ∧
      rule.render cluster.lead.captureTexts = .error fault ∧ error = .message fault := by
  unfold ofCluster at failed
  dsimp only at failed
  split at failed
  · rename_i rule isRule
    split at failed
    · rename_i scope isScope
      rcases bind_eq_error.mp failed with inner | ⟨message, _, impossible⟩
      · cases written : rule.render cluster.lead.captureTexts with
        | ok text =>
          rw [written] at inner
          cases inner
        | error fault =>
          rw [written] at inner
          cases inner
          exact ⟨rule, fault, isRule, written, rfl⟩
      · cases impossible
    · rename_i noScope
      obtain ⟨scope, isScope⟩ := Outline.exists_scope? known
      exact (noScope scope isScope).elim
  · rename_i noRule
    obtain ⟨rule, isRule⟩ := Registry.exists_get? registered
    exact (noRule rule isRule).elim

theorem ofMatches_error {outline : Outline} {registry : Registry} {estimates : List Estimate} {found : List Match}
    {error : FindingError} (registered : ∀ m ∈ found, registry.contains m.ruleId = true)
    (known : ∀ m ∈ found, ∃ scope ∈ outline.scopes, scope.id = m.scopeId)
    (failed : ofMatches outline registry estimates found = .error error) :
    ∃ m ∈ found, ∃ rule fault, registry.get? m.ruleId = some rule ∧
      rule.render m.captureTexts = .error fault ∧ error = .message fault := by
  obtain ⟨cluster, isCluster, wrong⟩ := mapM_eq_error failed
  have member : cluster.lead ∈ found := (mem_clusters isCluster).elim fun _ origin => (origin.2.2 _ cluster.lead_mem).1
  cases built : ofCluster outline registry cluster with
  | ok finding =>
    rw [built] at wrong
    cases wrong
  | error fault =>
    rw [built] at wrong
    cases wrong
    exact ⟨cluster.lead, member, ofCluster_error (registered _ member) (known _ member) built⟩

theorem ofEstimate?_origin {outline : Outline} {hints : Hints} {estimate : Estimate} {finding : Finding}
    (made : ofEstimate? outline hints estimate = some finding) : finding.origin = none := by
  unfold ofEstimate? at made
  obtain ⟨severity, _, written⟩ := Option.bind_eq_some_iff.mp made
  cases written
  rfl

theorem select_perm {settings : Settings} (low : settings.minSeverity = .low) (unlimited : settings.maxFindings = 0)
    (findings : List Finding) : (select settings findings).Perm findings := by
  have all : findings.filter (fun finding => settings.minSeverity ≤ finding.severity) = findings := by
    rw [List.filter_eq_self]
    intro finding _
    rw [low]
    cases finding.severity <;> rfl
  unfold select
  rw [unlimited, all]
  exact List.mergeSort_perm _ _

end Finding

theorem aggregate_eq_ok {outline : Outline} {registry : Registry} {hints : Hints} {settings : Settings}
    {found : List Match} {estimates : List Estimate} {findings : List Finding} :
    aggregate outline registry hints settings found estimates = .ok findings ↔
      ∃ fromMatches, Finding.ofMatches outline registry estimates found = .ok fromMatches ∧
        findings = Finding.select settings
          (fromMatches ++ estimates.filterMap (Finding.ofEstimate? outline hints)) := by
  unfold aggregate
  rw [bind_eq_ok]
  refine exists_congr fun fromMatches => and_congr_right fun _ => ?_
  exact ⟨fun same => by cases same; rfl, fun same => by rw [same]; rfl⟩

theorem aggregate_eq_error {outline : Outline} {registry : Registry} {hints : Hints} {settings : Settings}
    {found : List Match} {estimates : List Estimate} {error : FindingError}
    (failed : aggregate outline registry hints settings found estimates = .error error) :
    Finding.ofMatches outline registry estimates found = .error error := by
  unfold aggregate at failed
  rcases bind_eq_error.mp failed with inner | ⟨_, _, impossible⟩
  · exact inner
  · cases impossible

-- What a rule of the catalog has matched can always be told.
theorem exists_findings {registry : Registry} (drawn : ∀ rule ∈ registry.rules, rule ∈ Catalog.rules)
    {outline : Outline} {found : List Match} (registered : ∀ m ∈ found, registry.contains m.ruleId = true)
    (known : ∀ m ∈ found, ∃ scope ∈ outline.scopes, scope.id = m.scopeId) (hints : Hints) (settings : Settings)
    (estimates : List Estimate) : ∃ findings, aggregate outline registry hints settings found estimates = .ok findings := by
  cases aggregated : aggregate outline registry hints settings found estimates with
  | ok findings => exact ⟨findings, rfl⟩
  | error error =>
    obtain ⟨m, _, rule, fault, isRule, unwritten, _⟩ :=
      Finding.ofMatches_error registered known (aggregate_eq_error aggregated)
    have plain := Catalog.rules_plain rule (drawn rule (List.mem_of_find?_eq_some isRule))
    obtain ⟨text, written⟩ := Rule.render_of_isPlain plain m.captureTexts
    rw [written] at unwritten
    cases unwritten

-- The findings made of matches partition the matches. Nothing but a message that cannot be written stands in the way
-- of an answer, and the messages of the catalog can always be written.
theorem aggregate_partition {outline : Outline} {registry : Registry} {hints : Hints} {settings : Settings}
    {found : List Match} {estimates : List Estimate} (registered : ∀ m ∈ found, registry.contains m.ruleId = true)
    (known : ∀ m ∈ found, ∃ scope ∈ outline.scopes, scope.id = m.scopeId)
    (low : settings.minSeverity = .low) (unlimited : settings.maxFindings = 0) :
    (∀ findings, aggregate outline registry hints settings found estimates = .ok findings →
      Finding.Partition found (findings.filter (·.origin.isSome))) ∧
    (∀ error, aggregate outline registry hints settings found estimates = .error error →
      ∃ m ∈ found, ∃ rule fault, registry.get? m.ruleId = some rule ∧
        rule.render m.captureTexts = .error fault ∧ error = .message fault) ∧
    (registry = Catalog.registry →
      ∃ findings, aggregate outline registry hints settings found estimates = .ok findings) := by
  have onlyMessages : ∀ error, aggregate outline registry hints settings found estimates = .error error →
      ∃ m ∈ found, ∃ rule fault, registry.get? m.ruleId = some rule ∧
        rule.render m.captureTexts = .error fault ∧ error = .message fault := fun error failed =>
    Finding.ofMatches_error registered known (aggregate_eq_error failed)
  refine ⟨?_, onlyMessages, ?_⟩
  · intro findings made
    obtain ⟨fromMatches, ofMatches, rfl⟩ := aggregate_eq_ok.mp made
    obtain ⟨⟨groups, listed, rest⟩, origins⟩ := Finding.ofMatches_partition ofMatches
    refine ⟨groups, listed.trans ?_, rest⟩
    have noOrigin : (estimates.filterMap (Finding.ofEstimate? outline hints)).filter (·.origin.isSome) = [] := by
      rw [List.filter_eq_nil_iff]
      intro finding member
      obtain ⟨estimate, _, fromEstimate⟩ := List.mem_filterMap.mp member
      rw [Finding.ofEstimate?_origin fromEstimate]
      exact Bool.false_ne_true
    have perm := (Finding.select_perm low unlimited
      (fromMatches ++ estimates.filterMap (Finding.ofEstimate? outline hints))).filter (·.origin.isSome)
    rw [List.filter_append, List.filter_eq_self.mpr origins, noOrigin, List.append_nil] at perm
    exact perm.symm
  · rintro rfl
    cases answer : aggregate outline Catalog.registry hints settings found estimates with
    | ok findings => exact ⟨findings, rfl⟩
    | error error =>
      obtain ⟨m, _, rule, fault, isRule, unwritten, _⟩ := onlyMessages error answer
      obtain ⟨text, written⟩ := Catalog.render_total isRule m.captureTexts
      rw [written] at unwritten
      cases unwritten

def bareOutline : Outline :=
  { language := "", source := { bytes := [] }
    root := .mk { id := 0, span := default, grammarType := "", info := .unit } []
    numbered := by decide }

def matchAt (ruleId : String) (firstLine lastLine : Nat) (severity : Severity) : Match :=
  { ruleId, category := "io", nodeId := 0, scopeId := 0, captures := [], modifiers := [], severity
    span := { start := { line := firstLine, column := 0 }, finish := { line := lastLine, column := 0 } } }

-- Two matches that overlap without nesting, a graver one inside the first, and one that ends before it starts.
def overlappingMatches : List Match :=
  [matchAt "io-in-loop" 4 8 .high, matchAt "n-plus-one-query" 3 4 .critical, matchAt "io-in-loop" 2 6 .high,
   matchAt "io-in-loop" 9 1 .low]

theorem aggregate_partition_overlapping :
    (∀ m ∈ overlappingMatches, Catalog.registry.contains m.ruleId = true) ∧
    (∀ m ∈ overlappingMatches, ∃ scope ∈ bareOutline.scopes, scope.id = m.scopeId) ∧
    ∃ findings, aggregate bareOutline Catalog.registry {} {} overlappingMatches [] = .ok findings ∧
      Finding.Partition overlappingMatches (findings.filter (·.origin.isSome)) := by
  have registered : ∀ m ∈ overlappingMatches, Catalog.registry.contains m.ruleId = true := by decide
  have known : ∀ m ∈ overlappingMatches, ∃ scope ∈ bareOutline.scopes, scope.id = m.scopeId := by
    intro m member
    refine ⟨bareOutline.unitScope, List.mem_cons_self, ?_⟩
    simp only [overlappingMatches, List.mem_cons, List.not_mem_nil, or_false] at member
    rcases member with rfl | rfl | rfl | rfl <;> rfl
  have low : ({} : Settings).minSeverity = .low := rfl
  have unlimited : ({} : Settings).maxFindings = 0 := rfl
  obtain ⟨partition, _, total⟩ := aggregate_partition registered known low unlimited
  obtain ⟨findings, made⟩ := total rfl
  exact ⟨registered, known, findings, made, partition findings made⟩

end Perflint
