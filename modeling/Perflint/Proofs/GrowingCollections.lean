import Mathlib
import Perflint.Analysis
import Perflint.Proofs.HintOrder
import Perflint.Proofs.ScopeNodes

namespace Perflint

namespace Outline

variable {outline : Outline} {site region : Site}

theorem mem_descendants_of_ancestor (held : outline.Holds site) (member : region ∈ site.ancestors) :
    site ∈ region.descendants := by
  obtain ⟨lower, place⟩ := Site.mem_ancestorsFrom.mp member
  have leads := held
  rw [Holds, place] at leads
  obtain ⟨child, isChild, below⟩ := Site.leads_middle leads
  exact Site.mem_descendants.mpr ⟨child, isChild, lower, below, place⟩

theorem persistentRegion?_cases {receiver root : String}
    (found : outline.persistentRegion? site receiver root = some region) :
    region = outline.rootSite ∨ region ∈ site.ancestors := by
  unfold persistentRegion? at found
  dsimp only at found
  split at found
  · cases found
  · split at found
    · cases enclosing : site.enclosingClass? with
      | none =>
        rw [enclosing] at found
        cases found
        exact .inl rfl
      | some owner =>
        rw [enclosing] at found
        cases found
        exact .inr (List.mem_of_find?_eq_some enclosing)
    · split at found
      · cases found
      · split at found
        · cases found
        · split at found
          · cases found
          · cases found
            exact .inl rfl

-- Nothing of a function is the root of a unit.
theorem mem_rootSite_descendants (held : outline.Holds site) (plain : site.node.isFunction = false)
    (inFunction : (outline.scopeOf site).isUnit = false) : site ∈ outline.rootSite.descendants := by
  rcases List.mem_cons.mp (rootSite_mem held) with atRoot | higher
  · exfalso
    have clear : ∀ node ∈ site.node :: site.above, node.isFunction = false := by
      rw [← atRoot] at plain ⊢
      intro node member
      cases List.mem_singleton.mp member
      exact plain
    rw [(scopeOf_eq_unitScope_iff held).mpr clear] at inFunction
    cases inFunction
  · exact mem_descendants_of_ancestor held higher

end Outline

namespace Catalog

-- A place in a function where a collection grows that is written `receiver`.
def GrowsAt (ctx : Context) (receiver : String) (site : Site) : Prop :=
  (ctx.outline.scopeOf site).isUnit = false ∧ ∃ growth ∈ growth? site.node, growth.receiver = receiver

-- The first of these places in a region.
def GrowsFirst (ctx : Context) (receiver : String) (region first : Site) : Prop :=
  GrowsAt ctx receiver first ∧ ∃ before after, region.descendants = before ++ first :: after ∧
    ∀ other ∈ before, ¬GrowsAt ctx receiver other

-- What grows at a node is a collection that outlives the call, and in its region nothing keeps it small.
structure Outgrows (ctx : Context) (receiver : String) (region site : Site) : Prop where
  inFunction : (ctx.outline.scopeOf site).isUnit = false
  grows : ∃ growth ∈ growth? site.node, growth.receiver = receiver ∧
    ctx.outline.persistentRegion? site receiver growth.root = some region
  known : ctx.outline.originKinds site receiver ≠ []
  collections : ctx.outline.originKinds site receiver ⊆ [.list, .dict, .set, .deque]
  unbounded : ∀ other ∈ region.descendants, ∀ a ∈ other.node.assignment?, receiver ∈ a.targets →
    ∀ marker ∈ boundedMarkers, Text.contains a.value marker = false
  kept : isDrained region receiver = false
  unchecked : hasSizeCheck region receiver = false

section Judgement

variable {ctx : Context} {receiver : String} {region site first : Site}

theorem Outgrows.growsAt (outgrows : Outgrows ctx receiver region site) : GrowsAt ctx receiver site := by
  obtain ⟨growth, isGrowth, same, _⟩ := outgrows.grows
  exact ⟨outgrows.inFunction, growth, isGrowth, same⟩

theorem isFunction_of_growth? {node : Node} {growth : Growth} (found : growth? node = some growth) :
    node.isFunction = false := by
  cases info : node.info with
  | function f => simp [growth?, info] at found
  | _ => simp [Node.isFunction, Node.kind, info, Info.kind]

theorem Outgrows.mem_descendants (held : ctx.outline.Holds site) (outgrows : Outgrows ctx receiver region site) :
    site ∈ region.descendants := by
  obtain ⟨growth, isGrowth, _, persistent⟩ := outgrows.grows
  rcases Outline.persistentRegion?_cases persistent with rfl | higher
  · exact Outline.mem_rootSite_descendants held (isFunction_of_growth? isGrowth) outgrows.inFunction
  · exact Outline.mem_descendants_of_ancestor held higher

theorem isBounded_eq_false : isBounded region receiver = false ↔
    ∀ other ∈ region.descendants, ∀ a ∈ other.node.assignment?, receiver ∈ a.targets →
      ∀ marker ∈ boundedMarkers, Text.contains a.value marker = false := by
  rw [isBounded, List.any_eq_false]
  refine forall₂_congr fun other _ => ?_
  cases other.node.assignment? with
  | none => simp
  | some a => simp [Text.containsAny]

theorem growsCollection_iff {kinds : List ValueKind} : growsCollection kinds = true ↔
    kinds ≠ [] ∧ kinds ⊆ [.list, .dict, .set, .deque] := by
  simp [growsCollection, List.subset_def]

theorem growthRegion?_eq_some {growth : Growth} (isGrowth : growth? site.node = some growth) :
    growthRegion? ctx site growth = some region ↔ Outgrows ctx growth.receiver region site := by
  simp only [growthRegion?, Option.bind_eq_bind, Option.bind_eq_some_iff, Option.guard_eq_some', Bool.and_eq_true,
    Bool.not_eq_true', growsCollection_iff, isBounded_eq_false]
  constructor
  · rintro ⟨_, inFunction, found, persistent, _, ⟨known, collections⟩, _, ⟨⟨unbounded, kept⟩, unchecked⟩, ⟨⟩⟩
    exact ⟨inFunction, ⟨growth, isGrowth, rfl, persistent⟩, known, collections, unbounded, kept, unchecked⟩
  · intro outgrows
    obtain ⟨other, isOther, _, persistent⟩ := outgrows.grows
    cases Option.mem_unique isOther isGrowth
    exact ⟨(), outgrows.inFunction, region, persistent, (), ⟨outgrows.known, outgrows.collections⟩, (),
      ⟨⟨outgrows.unbounded, outgrows.kept⟩, outgrows.unchecked⟩, rfl⟩

-- The search for the first place takes exactly those that grow the receiver in a function.
theorem firstGrowth?_search (ctx : Context) (region : Site) (receiver : String) : ∃ grows : Site → Bool,
    firstGrowth? ctx region receiver = region.descendants.find? grows ∧
      ∀ other, grows other = true ↔ GrowsAt ctx receiver other := by
  refine ⟨_, rfl, fun other => ?_⟩
  rw [GrowsAt]
  cases growth? other.node with
  | none => simp
  | some growth => simp [and_comm]

theorem firstGrowth?_eq_some : firstGrowth? ctx region receiver = some first ↔
    GrowsFirst ctx receiver region first := by
  obtain ⟨grows, search, growsAt⟩ := firstGrowth?_search ctx region receiver
  rw [search, List.find?_eq_some_iff_append]
  refine and_congr (growsAt first) (exists₂_congr fun before after => ?_)
  refine and_congr_right fun _ => forall₂_congr fun other _ => ?_
  rw [Bool.not_eq_true', ← Bool.not_eq_true]
  exact not_congr (growsAt other)

theorem growsFirst_unique {other : Site} (one : GrowsFirst ctx receiver region first)
    (two : GrowsFirst ctx receiver region other) : first = other := by
  have found := firstGrowth?_eq_some.mpr one
  rw [firstGrowth?_eq_some.mpr two] at found
  exact (Option.some.inj found).symm

theorem Outgrows.exists_first (held : ctx.outline.Holds site) (outgrows : Outgrows ctx receiver region site) :
    ∃ first, GrowsFirst ctx receiver region first := by
  obtain ⟨grows, search, growsAt⟩ := firstGrowth?_search ctx region receiver
  cases found : firstGrowth? ctx region receiver with
  | some first => exact ⟨first, firstGrowth?_eq_some.mp found⟩
  | none =>
    rw [search] at found
    have nowhere := List.find?_eq_none.mp found site (outgrows.mem_descendants held)
    exact absurd ((growsAt site).mpr outgrows.growsAt) nowhere

theorem Outgrows.holds_region (held : ctx.outline.Holds site) (outgrows : Outgrows ctx receiver region site) :
    ctx.outline.Holds region := by
  obtain ⟨_, _, _, persistent⟩ := outgrows.grows
  rcases Outline.persistentRegion?_cases persistent with rfl | higher
  · exact ctx.outline.holds_root
  · exact Outline.holds_ancestor held higher

theorem GrowsFirst.holds (held : ctx.outline.Holds region) (isFirst : GrowsFirst ctx receiver region first) :
    ctx.outline.Holds first := by
  obtain ⟨_, before, after, split, _⟩ := isFirst
  refine Outline.holds_descendant held ?_
  rw [split]
  exact List.mem_append_right _ List.mem_cons_self

theorem reports_growth : (∃ hit, unboundedGrowth.Reports ctx site hit) ↔
    ∃ receiver region first, Outgrows ctx receiver region site ∧ GrowsFirst ctx receiver region first ∧
      first.id = site.id := by
  have found : ∀ hit, unboundedGrowth.Reports ctx site hit ↔ findGrowth ctx site = some hit :=
    fun hit => Rule.reports_iff rfl
  simp only [found, findGrowth, Option.bind_eq_bind, Option.bind_eq_some_iff, Option.guard_eq_some', beq_iff_eq]
  constructor
  · rintro ⟨hit, growth, isGrowth, region, isRegion, first, isFirst, _, same, _⟩
    exact ⟨growth.receiver, region, first, (growthRegion?_eq_some isGrowth).mp isRegion,
      firstGrowth?_eq_some.mp isFirst, same⟩
  · rintro ⟨receiver, region, first, outgrows, isFirst, same⟩
    obtain ⟨growth, isGrowth, rfl, _⟩ := outgrows.grows
    exact ⟨_, growth, isGrowth, region, (growthRegion?_eq_some isGrowth).mpr outgrows, first,
      firstGrowth?_eq_some.mpr isFirst, (), same, rfl⟩

-- A node has one collection and one region.
theorem Outgrows.unique {other : String} {otherRegion : Site} (one : Outgrows ctx receiver region site)
    (two : Outgrows ctx other otherRegion site) : receiver = other ∧ region = otherRegion := by
  obtain ⟨growth, isGrowth, rfl, persistent⟩ := one.grows
  obtain ⟨same, isSame, rfl, otherPersistent⟩ := two.grows
  cases Option.mem_unique isGrowth isSame
  rw [persistent] at otherPersistent
  exact ⟨rfl, Option.some.inj otherPersistent⟩

theorem Outgrows.reported_iff (held : ctx.outline.Holds site) (outgrows : Outgrows ctx receiver region site) :
    (∃ hit, unboundedGrowth.Reports ctx site hit) ↔ GrowsFirst ctx receiver region site := by
  rw [reports_growth]
  constructor
  · rintro ⟨_, _, first, again, isFirst, same⟩
    obtain ⟨rfl, rfl⟩ := outgrows.unique again
    rwa [Outline.eq_of_id_eq (isFirst.holds (outgrows.holds_region held)) held same] at isFirst
  · intro isFirst
    exact ⟨receiver, region, site, outgrows, isFirst, rfl⟩

-- Whatever grows without bound in a region, one place is asked about: the first where a collection of that spelling
-- grows. It is reported if the collection that grows there is the long-lived one, and nothing is reported if it is
-- a parameter, a local or a member of another class that is spelled the same.
theorem growth_told_at_first (held : ctx.outline.Holds site) (outgrows : Outgrows ctx receiver region site) :
    ∃ first, GrowsFirst ctx receiver region first ∧
      (∀ other, ctx.outline.Holds other → Outgrows ctx receiver region other →
        ((∃ hit, unboundedGrowth.Reports ctx other hit) ↔ other = first)) ∧
      ((∃! other, ctx.outline.Holds other ∧ Outgrows ctx receiver region other ∧
        ∃ hit, unboundedGrowth.Reports ctx other hit) ↔ Outgrows ctx receiver region first) := by
  obtain ⟨first, isFirst⟩ := outgrows.exists_first held
  have firstHeld := isFirst.holds (outgrows.holds_region held)
  have told : ∀ other, ctx.outline.Holds other → Outgrows ctx receiver region other →
      ((∃ hit, unboundedGrowth.Reports ctx other hit) ↔ other = first) := by
    intro other otherHeld otherOutgrows
    rw [otherOutgrows.reported_iff otherHeld]
    constructor
    · intro otherFirst
      exact growsFirst_unique otherFirst isFirst
    · rintro rfl
      exact isFirst
  refine ⟨first, isFirst, told, ?_⟩
  constructor
  · rintro ⟨other, ⟨otherHeld, otherOutgrows, reported⟩, _⟩
    rwa [(told other otherHeld otherOutgrows).mp reported] at otherOutgrows
  · intro firstOutgrows
    refine ⟨first, ⟨firstHeld, firstOutgrows, (told first firstHeld firstOutgrows).mpr rfl⟩, ?_⟩
    rintro other ⟨otherHeld, otherOutgrows, reported⟩
    exact (told other otherHeld otherOutgrows).mp reported

end Judgement
end Catalog

-- A list of the unit grows in two functions, or in the second alone: then the first has a parameter of its name.
def seenSource (hidden : Bool) : Source :=
  { bytes := ("_seen = []\ndef record(" ++ (if hidden then "_seen" else "_kept") ++ ", event):\n" ++
      "    _seen.append(event)\ndef track(event):\n    _seen.append(event)\n").toUTF8.toList }

def seenTree : Tree :=
  .node { type := "module", first := 0, last := 103 }
    [.node { type := "expression_statement", first := 0, last := 10 }
       [.node { type := "assignment", first := 0, last := 10 }
          [.node { type := "identifier", first := 0, last := 5, fields := ["left"] } [],
           .node { type := "list", first := 8, last := 10, fields := ["right"] } []]],
     .node { type := "function_definition", first := 11, last := 60 }
       [.node { type := "identifier", first := 15, last := 21, fields := ["name"] } [],
        .node { type := "parameters", first := 21, last := 35, fields := ["parameters"] }
          [.node { type := "identifier", first := 22, last := 27 } [],
           .node { type := "identifier", first := 29, last := 34 } []],
        .node { type := "block", first := 41, last := 60, fields := ["body"] }
          [.node { type := "expression_statement", first := 41, last := 60 }
             [.node { type := "call", first := 41, last := 60 }
                [.node { type := "attribute", first := 41, last := 53, fields := ["function"] }
                   [.node { type := "identifier", first := 41, last := 46, fields := ["object"] } [],
                    .node { type := "identifier", first := 47, last := 53, fields := ["attribute"] } []],
                 .node { type := "argument_list", first := 53, last := 60, fields := ["arguments"] }
                   [.node { type := "identifier", first := 54, last := 59 } []]]]]],
     .node { type := "function_definition", first := 61, last := 102 }
       [.node { type := "identifier", first := 65, last := 70, fields := ["name"] } [],
        .node { type := "parameters", first := 70, last := 77, fields := ["parameters"] }
          [.node { type := "identifier", first := 71, last := 76 } []],
        .node { type := "block", first := 83, last := 102, fields := ["body"] }
          [.node { type := "expression_statement", first := 83, last := 102 }
             [.node { type := "call", first := 83, last := 102 }
                [.node { type := "attribute", first := 83, last := 95, fields := ["function"] }
                   [.node { type := "identifier", first := 83, last := 88, fields := ["object"] } [],
                    .node { type := "identifier", first := 89, last := 95, fields := ["attribute"] } []],
                 .node { type := "argument_list", first := 95, last := 102, fields := ["arguments"] }
                   [.node { type := "identifier", first := 96, last := 101 } []]]]]]]

theorem seenTree_lowered :
    ∀ hidden, (Language.python.outline (seenSource hidden) (some seenTree)).toOption.isSome = true := by
  decide +kernel

def seenContext (hidden : Bool) : Context :=
  let outline := (Language.python.outline (seenSource hidden) (some seenTree)).toOption.get (seenTree_lowered hidden)
  { outline, language := "python", hints := {}, settings := {}, graph := outline.callGraph }

theorem seen_ascending (hidden : Bool) :
    (seenContext hidden).outline.scopeTable.functions.Pairwise fun a b => a.id ≤ b.id := by
  revert hidden
  decide +kernel

theorem seen_outgrows (hidden : Bool) : ∃ region site, (seenContext hidden).outline.Holds site ∧
    Catalog.Outgrows (seenContext hidden) "_seen" region site ∧
    (Catalog.findGrowth (seenContext hidden) site).isSome = !hidden := by
  have found : ∃ site ∈ (seenContext hidden).outline.preorder, ∃ growth ∈ Catalog.growth? site.node,
      growth.receiver = "_seen" ∧ (Catalog.growthRegion? (seenContext hidden) site growth).isSome = true ∧
        (Catalog.findGrowth (seenContext hidden) site).isSome = !hidden := by
    simp only [Catalog.findGrowth, Catalog.firstGrowth?, Catalog.growthRegion?, Outline.persistentRegion?,
      Outline.originKinds, Outline.scopeOf_of_ascending (seen_ascending hidden)]
    revert hidden
    decide +kernel
  obtain ⟨site, inOutline, growth, isGrowth, same, isSome, reported⟩ := found
  obtain ⟨region, isRegion⟩ := Option.isSome_iff_exists.mp isSome
  refine ⟨region, site, Outline.mem_preorder.mp inOutline, ?_, reported⟩
  rw [← same]
  exact (Catalog.growthRegion?_eq_some isGrowth).mp isRegion

theorem seen_told_at_first : ∃ region site, (seenContext false).outline.Holds site ∧
    Catalog.Outgrows (seenContext false) "_seen" region site ∧
    ∃ first, Catalog.GrowsFirst (seenContext false) "_seen" region first ∧
      (∀ other, (seenContext false).outline.Holds other → Catalog.Outgrows (seenContext false) "_seen" region other →
        ((∃ hit, Catalog.unboundedGrowth.Reports (seenContext false) other hit) ↔ other = first)) ∧
      ∃! other, (seenContext false).outline.Holds other ∧ Catalog.Outgrows (seenContext false) "_seen" region other ∧
        ∃ hit, Catalog.unboundedGrowth.Reports (seenContext false) other hit := by
  obtain ⟨region, site, held, outgrows, found⟩ := seen_outgrows false
  obtain ⟨first, isFirst, told, once⟩ := Catalog.growth_told_at_first held outgrows
  obtain ⟨hit, isHit⟩ := Option.isSome_iff_exists.mp found
  have atFirst := (told site held outgrows).mp ⟨hit, (Rule.reports_iff rfl).mpr isHit⟩
  exact ⟨region, site, held, outgrows, first, isFirst, told, once.mpr (atFirst ▸ outgrows)⟩

-- The list grows without bound, and no node is reported.
theorem seen_untold : ∃ region site, (seenContext true).outline.Holds site ∧
    Catalog.Outgrows (seenContext true) "_seen" region site ∧
    ∀ other, (seenContext true).outline.Holds other →
      ¬∃ hit, Catalog.unboundedGrowth.Reports (seenContext true) other hit := by
  obtain ⟨region, site, held, outgrows, _⟩ := seen_outgrows true
  refine ⟨region, site, held, outgrows, ?_⟩
  rintro other otherHeld ⟨hit, reported⟩
  have nothing : ∀ other ∈ (seenContext true).outline.preorder,
      (Catalog.findGrowth (seenContext true) other).isNone = true := by
    simp only [Catalog.findGrowth, Catalog.firstGrowth?, Catalog.growthRegion?, Outline.persistentRegion?,
      Outline.originKinds, Outline.scopeOf_of_ascending (seen_ascending true)]
    decide +kernel
  have found := (Rule.reports_iff rfl).mp reported
  have unreported := nothing other (Outline.mem_preorder.mpr otherHeld)
  rw [found] at unreported
  cases unreported

end Perflint
