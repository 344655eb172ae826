import Mathlib
import Perflint.Analysis
import Perflint.Proofs.Containment
import Perflint.Proofs.NodeOrigins
import Perflint.Proofs.Severities

namespace Perflint

namespace Node

theorem info_of_loop? {node : Node} {l : LoopInfo} (isLoop : node.loop? = some l) : node.info = .loop l := by
  unfold loop? at isLoop
  split at isLoop
  · rename_i found
    cases isLoop
    exact found
  · cases isLoop

theorem kind_of_call? {node : Node} {c : CallInfo} (isCall : node.call? = some c) :
    node.kind = .call ∨ node.kind = .collectionOp := by
  unfold call? at isCall
  split at isCall
  · rename_i found
    exact .inl (congrArg Info.kind found)
  · rename_i found
    exact .inr (congrArg Info.kind found)
  · cases isCall

theorem loopVars_eq_nil {loop : Node} {l : LoopInfo} (isLoop : loop.loop? = some l) (bare : l.iterVars = []) :
    loop.loopVars = [] := by
  simp [loopVars, isLoop, bare]

end Node

namespace Grammar

variable {g : Grammar} {source : Source}

-- A loop that nothing but a condition ends binds no variable.
theorem loopHeader_counts (g : Grammar) (source : Source) (tree : Tree) :
    (g.loopHeader source tree).iterVars = [] ∨ (g.loopHeader source tree).kind = .counted ∨
      (g.loopHeader source tree).kind = .forEach ∨ (g.loopHeader source tree).kind = .comprehension := by
  unfold loopHeader
  cases g.loopTypes.lookup tree.type with
  | none => exact .inl rfl
  | some form =>
    cases form with
    | each vars iterable => exact .inr (.inr (.inl rfl))
    | condition kind => exact .inl rfl
    | threePart => exact .inr (.inl rfl)
    | declared => exact .inr (.inl rfl)
    | comprehension => exact .inr (.inr (.inr rfl))
    | clause =>
      unfold clauseHeader
      dsimp only
      cases g.clause? tree with
      | none => exact .inl rfl
      | some clause =>
        dsimp only
        split
        · exact .inr (.inr (.inl rfl))
        · exact .inr (.inl rfl)

theorem loopInfo_header {tree : Tree} {l : LoopInfo} (read : g.loopInfo source tree = .ok l) :
    l.iterVars = (g.loopHeader source tree).iterVars ∧ l.kind = (g.loopHeader source tree).kind := by
  obtain ⟨_, _, read⟩ := bind_eq_ok.mp read
  obtain ⟨_, _, read⟩ := bind_eq_ok.mp read
  obtain ⟨_, _, read⟩ := bind_eq_ok.mp read
  cases read
  exact ⟨rfl, rfl⟩

theorem StandsFor.loop {place : Tree.Place} {node : Node} {l : LoopInfo} (stands : g.StandsFor source place node)
    (isLoop : node.loop? = some l) :
    ∃ read once, g.loopInfo source place.node = .ok read ∧ l = { read with onceCount := once } := by
  have info := Node.info_of_loop? isLoop
  have kind : node.kind = .loop := congrArg Info.kind info
  obtain ⟨told, once, described, counted⟩ := stands.read
  rw [kind, describe] at described
  split at described
  · cases described
  · obtain ⟨read, isRead, rfl⟩ := told_eq_ok.mp described
    rw [info] at counted
    cases counted
    exact ⟨read, once, isRead, rfl⟩

-- In an outline of a tree, whatever binds a variable per iteration walks a collection or a counter.
theorem outline_counts {tag : String} {top : Tree} {outline : Outline} {loop : Site} (opens : g.ClausesOpen)
    (done : g.outline tag source (some top) = .ok outline) (held : outline.Holds loop)
    (binds : loop.node.loopVars ≠ []) : loop.node.isCountingLoop = true := by
  unfold Node.isCountingLoop
  cases isLoop : loop.node.loop? with
  | none => rfl
  | some l =>
    obtain ⟨place, _, stands⟩ := outline_origin opens done held (by simp [Node.info_of_loop? isLoop])
    obtain ⟨read, once, isRead, rfl⟩ := stands.loop isLoop
    obtain ⟨iterVars, kind⟩ := loopInfo_header isRead
    rcases g.loopHeader_counts source place.node with bare | counted | each | comprehension
    · exact absurd (Node.loopVars_eq_nil isLoop (iterVars.trans bare)) binds
    · simp [kind, counted]
    · simp [kind, each]
    · simp [kind, comprehension]

end Grammar

theorem CallInfo.isIo_of_strong {c : CallInfo} (strong : c.fetchStrength? = some .strong) : c.isIo = true := by
  cases plain : c.operator.isEmpty with
  | false =>
    rw [CallInfo.fetchStrength?, plain] at strong
    cases strong
  | true =>
    rw [CallInfo.isIo, plain, strong]
    simp

theorem Node.isIo_of_strong {node : Node} (strong : node.fetchStrength? = some .strong) : node.isIo = true := by
  obtain ⟨c, isCall, strength⟩ := Option.bind_eq_some_iff.mp strong
  unfold Node.isIo
  rw [isCall]
  exact CallInfo.isIo_of_strong strength

theorem Node.ne_nil_of_dependsOn {node : Node} {names : List String} {receiver : Bool}
    (depends : node.dependsOn names receiver = true) : names ≠ [] := by
  rintro rfl
  simp [Node.dependsOn] at depends

namespace Catalog

variable {ctx : Context} {call : Site} {hit : Hit}

theorem query_reported (reported : nPlusOneQuery.Reports ctx call hit) :
    hit.place = call ∧ call.node.fetchStrength? = some .strong ∧
      ∃ loop ∈ call.loops, call.node.dependsOn loop.node.loopVars true = true := by
  have found := (Rule.reports_iff rfl).mp reported
  unfold findQueryPerElement at found
  split at found
  · rename_i strong
    obtain ⟨loop, isLoop, shown⟩ := List.exists_of_findSome?_eq_some found
    simp only [queryPerElement?, Option.bind_eq_bind, Option.bind_eq_some_iff, Option.guard_eq_some'] at shown
    obtain ⟨_, depends, _, _, _, _, _, _, ⟨⟩⟩ := shown
    exact ⟨rfl, beq_iff_eq.mp strong, loop, isLoop, depends⟩
  · cases found

-- Where only counting loops bind variables, a query per element is access to data per element.
theorem io_of_query (counts : ∀ loop ∈ call.loops, loop.node.loopVars ≠ [] → loop.node.isCountingLoop = true)
    (reported : nPlusOneQuery.Reports ctx call hit) :
    ∃ io, ioInLoop.Reports ctx call io ∧ io.place = call := by
  obtain ⟨_, strong, loop, isLoop, depends⟩ := query_reported reported
  have counting := counts loop isLoop (Node.ne_nil_of_dependsOn depends)
  have some : (call.loops.find? fun loop =>
      loop.node.isCountingLoop && call.node.dependsOn loop.node.loopVars true).isSome = true :=
    List.find?_isSome.mpr ⟨loop, isLoop, by rw [counting, depends]; rfl⟩
  obtain ⟨nearest, isNearest⟩ := Option.isSome_iff_exists.mp some
  refine ⟨{ place := call, captures := ("call", ctx.whole call) :: ctx.loopCaptures nearest }, ?_, rfl⟩
  refine (Rule.reports_iff rfl).mpr ?_
  simp [findIoInLoop, Node.isIo_of_strong strong, isNearest]

-- The two rules of one category, and what their matches weigh.
theorem io_severity {budget : Budget} {m : Match} (member : m ∈ (evaluate ctx registry budget).found)
    (isIo : m.category = "io") :
    (m.ruleId = "n-plus-one-query" ∧ m.severity = .critical) ∨ (m.ruleId = "io-in-loop" ∧ m.severity = .high) := by
  obtain ⟨rule, isRule, site, hit, _, reported, rfl⟩ := evaluate_reported member
  obtain ⟨form, isForm⟩ := exists_form isRule
  have fits := forms_kept _ isForm ctx site hit reported
  have each : ∀ entry ∈ forms, entry.1.category = "io" → ∀ modifiers ∈ entry.2.modifiers,
      (entry.1.id = "n-plus-one-query" ∧ entry.1.severity.resolve modifiers = .critical) ∨
        (entry.1.id = "io-in-loop" ∧ entry.1.severity.resolve modifiers = .high) := by
    decide
  exact each _ isForm isIo _ fits.modifiers

end Catalog

-- Both speak of one node.
structure Match.SamePlace (a b : Match) : Prop where
  node : a.nodeId = b.nodeId
  scope : a.scopeId = b.scopeId
  span : a.span = b.span

theorem evaluate_query_io {ctx : Context} {budget : Budget} {m : Match}
    (counts : ∀ loop, ctx.outline.Holds loop → loop.node.loopVars ≠ [] → loop.node.isCountingLoop = true)
    (asked : Catalog.ioInLoop.Applies ctx) (member : m ∈ (evaluate ctx Catalog.registry budget).found)
    (isQuery : m.ruleId = "n-plus-one-query") :
    ∃ io ∈ (evaluate ctx Catalog.registry budget).found,
      io.ruleId = "io-in-loop" ∧ io.category = "io" ∧ m.category = "io" ∧ io.SamePlace m := by
  obtain ⟨rule, isRule, site, held, judged⟩ := (evaluate_judged ctx Catalog.registry budget).1 m member
  obtain ⟨hits, done, hit, isHit, inside, rfl⟩ := Rule.mem_judge_match.mp judged
  obtain rfl : rule = Catalog.nPlusOneQuery :=
    List.inj_on_of_nodup_map Catalog.registry.distinct isRule List.mem_cons_self isQuery
  have reported : Catalog.nPlusOneQuery.Reports ctx site hit := ⟨hits, done, isHit⟩
  obtain ⟨atSite, strong, _⟩ := Catalog.query_reported reported
  obtain ⟨io, ⟨ioHits, ioDone, isIoHit⟩, atCall⟩ :=
    Catalog.io_of_query (fun loop inLoops => counts loop (Outline.holds_loop held inLoops)) reported
  have samePlace : io.place = hit.place := atCall.trans atSite.symm
  refine ⟨Catalog.ioInLoop.toMatch ctx io, ?_, rfl, rfl, rfl, ⟨?_, ?_, ?_⟩⟩
  · obtain ⟨c, isCall, _⟩ := Option.bind_eq_some_iff.mp strong
    have isTarget : Catalog.ioInLoop.targets.contains site.kind = true := by
      rcases Node.kind_of_call? isCall with call | operation
      · rw [Site.kind, call]
        rfl
      · rw [Site.kind, operation]
        rfl
    have earlier : Catalog.ioInLoop.id < Catalog.nPlusOneQuery.id := by decide
    refine mem_found_of_earlier member (List.mem_cons_of_mem _ List.mem_cons_self) asked earlier held isTarget ?_
    exact Rule.mem_judge_match.mpr ⟨ioHits, ioDone, io, isIoHit, by rw [samePlace]; exact inside, rfl⟩
  all_goals simp only [Rule.toMatch, samePlace]

namespace Finding

-- Matches of one scope, category and place are told together.
theorem mem_of_same_place {found : List Match} {cluster : Cluster} {a b : Match} (isCluster : cluster ∈ clusters found)
    (inCluster : a ∈ cluster.members) (isFound : b ∈ found) (sameScope : b.scopeId = a.scopeId)
    (sameCategory : b.category = a.category) (samePlace : a.span = b.span) : b ∈ cluster.members := by
  obtain ⟨key, _, inside, keys⟩ := mem_clusters isCluster
  have isKey : (b.scopeId, b.category) = key := by
    rw [sameScope, sameCategory]
    exact (keys a inCluster).2
  have chosen : b ∈ found.filter fun m => (m.scopeId, m.category) == key :=
    List.mem_filter.mpr ⟨isFound, beq_iff_eq.mpr isKey⟩
  obtain ⟨other, isOther, inOther⟩ :=
    List.mem_flatMap.mp ((Cluster.ofMatches_sound _).members.mem_iff.mpr chosen)
  rw [Cluster.ofMatches_together inside inCluster isOther inOther samePlace]
  exact inOther

-- A query per element is told as such, whatever else of its category was met there.
structure TellsQuery (finding : Finding) : Prop where
  pattern : finding.patternId = "n-plus-one-query"
  severity : finding.severity = .critical
  merged : finding.merged = ["io-in-loop"]

theorem Gathers.tellsQuery {finding : Finding} {members : List Match} (gathers : finding.Gathers members)
    (weighed : ∀ m ∈ members, (m.ruleId = "n-plus-one-query" ∧ m.severity = .critical) ∨
      (m.ruleId = "io-in-loop" ∧ m.severity = .high))
    {query io : Match} (isQuery : query ∈ members) (queryId : query.ruleId = "n-plus-one-query")
    (isIo : io ∈ members) (ioId : io.ruleId = "io-in-loop") : finding.TellsQuery := by
  have critical : query.severity = .critical := by
    rcases weighed query isQuery with ⟨_, grave⟩ | ⟨other, _⟩
    · exact grave
    · exact absurd (queryId.symm.trans other) (by decide)
  have severity : finding.severity = .critical := by
    have least := gathers.gravest query isQuery
    rw [critical] at least
    revert least
    cases finding.severity <;> decide
  obtain ⟨lead, isLead, leadSeverity, leadId⟩ := gathers.lead
  have pattern : finding.patternId = "n-plus-one-query" := by
    rcases weighed lead isLead with ⟨isNamed, _⟩ | ⟨_, lighter⟩
    · exact leadId.trans isNamed
    · rw [← leadSeverity, severity] at lighter
      cases lighter
  have sources : finding.sources = ["io-in-loop", "n-plus-one-query"] := by
    refine List.Perm.eq_of_pairwise ?_ gathers.sorted (by decide) ?_
    · intro a b _ _ less greater
      exact absurd greater (lt_asymm less)
    · refine (List.perm_ext_iff_of_nodup (gathers.sorted.imp ne_of_lt) (by decide)).mpr fun id => ?_
      rw [gathers.sources, List.mem_cons, List.mem_singleton]
      constructor
      · rintro ⟨m, isMember, rfl⟩
        rcases weighed m isMember with ⟨isNamed, _⟩ | ⟨isNamed, _⟩
        · exact .inr isNamed
        · exact .inl isNamed
      · rintro (rfl | rfl)
        · exact ⟨io, isIo, ioId⟩
        · exact ⟨query, isQuery, queryId⟩
  refine ⟨pattern, severity, ?_⟩
  rw [gathers.merged, sources, pattern]
  decide

end Finding

-- A finding for every cluster.
theorem aggregate_tells {outline : Outline} {registry : Registry} {hints : Hints} {settings : Settings}
    {found : List Match} {estimates : List Estimate} {findings : List Finding} (low : settings.minSeverity = .low)
    (unlimited : settings.maxFindings = 0)
    (made : aggregate outline registry hints settings found estimates = .ok findings) {cluster : Cluster}
    (isCluster : cluster ∈ Finding.clusters found) : ∃ finding ∈ findings, finding.Gathers cluster.members := by
  obtain ⟨fromMatches, ofMatches, rfl⟩ := aggregate_eq_ok.mp made
  obtain ⟨pairs, firsts, rfl, all⟩ := forall₂_pairs (mapM_eq_ok.mp ofMatches)
  rw [← firsts] at isCluster
  obtain ⟨pair, isPair, rfl⟩ := List.mem_map.mp isCluster
  refine ⟨pair.2, ?_, ?_⟩
  · refine (Finding.select_perm low unlimited _).mem_iff.mpr (List.mem_append_left _ ?_)
    exact List.mem_map_of_mem isPair
  · have inFound : pair.1 ∈ Finding.clusters found := firsts ▸ List.mem_map_of_mem isPair
    exact (Finding.ofCluster_gathers (Finding.clusters_uniform inFound) (all pair isPair)).1

-- In the outline of a tree, every match of a query per element is also one of access to data in a loop, and the
-- cluster that it stands in makes one critical finding that names the other rule as merged.
theorem query_told_once {language : Language} {source : Source} {tree : Option Tree} {ctx : Context}
    (done : language.outline source tree = .ok ctx.outline) (asked : Catalog.ioInLoop.Applies ctx) (budget : Budget)
    (hints : Hints) {settings : Settings} (low : settings.minSeverity = .low) (unlimited : settings.maxFindings = 0)
    (estimates : List Estimate) :
    let found := (evaluate ctx Catalog.registry budget).found
    ∃ findings, aggregate ctx.outline Catalog.registry hints settings found estimates = .ok findings ∧
      ∀ m ∈ found, m.ruleId = "n-plus-one-query" →
        (∃ io ∈ found, io.ruleId = "io-in-loop" ∧ io.SamePlace m) ∧
        (∃ cluster ∈ Finding.clusters found, m ∈ cluster.members) ∧
        ∀ cluster ∈ Finding.clusters found, m ∈ cluster.members →
          ∃ finding ∈ findings, finding.Gathers cluster.members ∧ finding.TellsQuery := by
  intro found
  have lowered := mapError_eq_ok.mp done
  obtain ⟨top, _, rfl, _, _⟩ := Grammar.outline_eq_ok lowered
  have counts := fun loop (held : ctx.outline.Holds loop) binds =>
    Grammar.outline_counts (Grammar.clausesOpen language) lowered held binds
  have drawn : ∀ rule ∈ Catalog.registry.rules, rule ∈ Catalog.rules := fun _ isRule => isRule
  obtain ⟨findings, made⟩ := exists_aggregate drawn ctx budget hints settings estimates
  refine ⟨findings, made, ?_⟩
  intro m member isQuery
  obtain ⟨io, isIo, ioId, ioCategory, category, samePlace⟩ := evaluate_query_io counts asked member isQuery
  refine ⟨⟨io, isIo, ioId, samePlace⟩, ?_, ?_⟩
  · exact List.mem_flatMap.mp ((Finding.clusters_perm found).mem_iff.mpr member)
  · intro cluster isCluster inCluster
    obtain ⟨finding, isFinding, gathers⟩ := aggregate_tells low unlimited made isCluster
    have ioInCluster := Finding.mem_of_same_place isCluster inCluster isIo samePlace.scope
      (ioCategory.trans category.symm) samePlace.span.symm
    refine ⟨finding, isFinding, gathers, gathers.tellsQuery ?_ inCluster isQuery ioInCluster ioId⟩
    intro other isOther
    obtain ⟨_, _, _, keys⟩ := Finding.mem_clusters isCluster
    have sameCategory := (Finding.clusters_uniform isCluster).category
    refine Catalog.io_severity (keys other isOther).1 ?_
    rw [sameCategory other isOther, ← sameCategory m inCluster, category]

def weakOriginSource : Source :=
  { bytes := "for u in get():\n    open(db.query(u))\n".toUTF8.toList }

-- A query inside another access, for the elements of what only may have been fetched.
def weakOriginTree : Tree :=
  .node { type := "module", first := 0, last := 38 }
    [.node { type := "for_statement", first := 0, last := 37 }
      [.node { type := "identifier", first := 4, last := 5, fields := ["left"] } [],
       .node { type := "call", first := 9, last := 14, fields := ["right"] }
        [.node { type := "identifier", first := 9, last := 12, fields := ["function"] } [],
         .node { type := "argument_list", first := 12, last := 14, fields := ["arguments"] } []],
       .node { type := "block", first := 20, last := 37, fields := ["body"] }
        [.node { type := "expression_statement", first := 20, last := 37 }
          [.node { type := "call", first := 20, last := 37 }
            [.node { type := "identifier", first := 20, last := 24, fields := ["function"] } [],
             .node { type := "argument_list", first := 24, last := 37, fields := ["arguments"] }
              [.node { type := "call", first := 25, last := 36 }
                [.node { type := "attribute", first := 25, last := 33, fields := ["function"] }
                  [.node { type := "identifier", first := 25, last := 27, fields := ["object"] } [],
                   .node { type := "identifier", first := 28, last := 33, fields := ["attribute"] } []],
                 .node { type := "argument_list", first := 33, last := 36, fields := ["arguments"] }
                  [.node { type := "identifier", first := 34, last := 35 } []]]]]]]]]

theorem weakOriginTree_lowered : (Language.python.outline weakOriginSource (some weakOriginTree)).toOption.isSome = true := by
  decide +kernel

def weakOriginContext : Context :=
  let outline := (Language.python.outline weakOriginSource (some weakOriginTree)).toOption.get weakOriginTree_lowered
  { outline, language := "python", hints := { largeCollections := ["get()"] }, settings := {}
    graph := outline.callGraph }

theorem weakOrigin_queried :
    ∃ m ∈ (evaluate weakOriginContext Catalog.registry .unlimited).found, m.ruleId = "n-plus-one-query" := by
  have reported : (weakOriginContext.outline.preorder.any fun site =>
      Catalog.nPlusOneQuery.targets.contains site.kind &&
        (Catalog.nPlusOneQuery.judge weakOriginContext site).any Sum.isLeft) = true := by
    decide +kernel
  obtain ⟨site, inOutline, judges⟩ := List.any_eq_true.mp reported
  have held := Outline.mem_preorder.mp inOutline
  obtain ⟨isTarget, some⟩ := (Bool.and_eq_true _ _).mp judges
  obtain ⟨judgement, judged, isMatch⟩ := List.any_eq_true.mp some
  obtain ⟨m, rfl⟩ := Sum.isLeft_iff.mp isMatch
  have applies : Catalog.nPlusOneQuery.Applies weakOriginContext := ⟨.inl rfl, by simp [weakOriginContext], .inl rfl⟩
  exact ⟨m, mem_found_unlimited List.mem_cons_self applies held isTarget judged, Rule.ruleId_of_match judged⟩

theorem weakOrigin_told_once :
    Language.python.outline weakOriginSource (some weakOriginTree) = .ok weakOriginContext.outline ∧
      Catalog.ioInLoop.Applies weakOriginContext ∧
      let found := (evaluate weakOriginContext Catalog.registry .unlimited).found
      (∃ m ∈ found, m.ruleId = "n-plus-one-query") ∧
      ∃ findings, aggregate weakOriginContext.outline Catalog.registry {} {} found [] = .ok findings ∧
        ∀ m ∈ found, m.ruleId = "n-plus-one-query" →
          (∃ io ∈ found, io.ruleId = "io-in-loop" ∧ io.SamePlace m) ∧
          (∃ cluster ∈ Finding.clusters found, m ∈ cluster.members) ∧
          ∀ cluster ∈ Finding.clusters found, m ∈ cluster.members →
            ∃ finding ∈ findings, finding.Gathers cluster.members ∧ finding.TellsQuery := by
  have done := eq_ok_get weakOriginTree_lowered
  have asked : Catalog.ioInLoop.Applies weakOriginContext := ⟨.inl rfl, by simp [weakOriginContext], .inl rfl⟩
  exact ⟨done, asked, weakOrigin_queried, query_told_once done asked .unlimited {} rfl rfl []⟩

end Perflint
