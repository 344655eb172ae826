import Mathlib
import Perflint.Proofs.NodeOrigins

namespace Perflint

namespace Grammar

-- All types that can give a node a part of its own.
def partTypes (g : Grammar) : List String :=
  g.functionTypes ++ g.closureTypes ++ g.classTypes ++ g.loopTypes.map Prod.fst ++ g.callTypes ++ g.newTypes ++
    g.literalTypes.map Prod.fst ++ g.conditionalTypes ++ g.assignmentTypes ++ g.updateTypes ++ g.returnTypes ++
    g.membershipTypes ++ g.deletionTypes

theorem namesType_eq (g : Grammar) (type : String) : g.namesType type = g.partTypes.contains type := by
  simp only [namesType, partTypes, isSome_lookup, List.contains_append]

-- A type of several words is the name of a rule of the grammar, and not the text of a token.
def namesRule (g : Grammar) (type : String) : Bool :=
  g.namesType type && type.toList.contains '_'

variable {g : Grammar} {source : Source}

-- What plays no part has a type that is in no table. A comparison may play none although its type is.
theorem unnamed_of_classify {path : List Tree} {tree : Tree} (nothing : g.classify source path tree = .ok none)
    (plain : g.membershipTypes.contains tree.type = false) : g.namesType tree.type = false := by
  unfold classify at nothing
  obtain ⟨noFunction, nothing⟩ := skipped_of_ite_ne (by simp) nothing
  obtain ⟨noClosure, nothing⟩ := skipped_of_ite_ne (by simp) nothing
  obtain ⟨noClass, nothing⟩ := skipped_of_ite_ne (by simp) nothing
  obtain ⟨noLoop, nothing⟩ := skipped_of_ite_ne (by simp) nothing
  obtain ⟨noCall, nothing⟩ := skipped_of_ite_ne (by split <;> simp) nothing
  obtain ⟨noLiteral, nothing⟩ := skipped_of_ite_ne (by simp) nothing
  obtain ⟨noConditional, nothing⟩ := skipped_of_ite_ne (by simp) nothing
  obtain ⟨noAssignment, nothing⟩ := skipped_of_ite_ne (by simp) nothing
  obtain ⟨noReturn, nothing⟩ := skipped_of_ite_ne (by simp) nothing
  obtain ⟨_, nothing⟩ := skipped_of_ite_ne (by simp) nothing
  obtain ⟨noDeletion, _⟩ := skipped_of_ite_ne (by simp) nothing
  simp only [Tree.hasType, isCall, literal?, Bool.not_eq_true, Bool.or_eq_false_iff] at *
  simp only [namesType, noFunction, noClosure, noClass, noLoop, noCall, noLiteral, noConditional, noAssignment,
    noReturn, plain, noDeletion, Bool.or_self]

theorem kindAt_eq_some {place : Tree.Place} {kind : Kind} : g.kindAt source place = some kind ↔
    place.above ≠ [] ∧ g.isHidden place = false ∧ g.classify source place.above place.node = .ok (some kind) := by
  unfold kindAt
  cases g.isHidden place with
  | true => simp
  | false =>
    cases place.above with
    | nil => simp
    | cons upper above =>
      cases g.classify source (upper :: above) place.node <;> simp

theorem namesType_of_kindAt {place : Tree.Place} {kind : Kind} (part : g.kindAt source place = some kind) :
    g.namesType place.node.type = true := by
  obtain ⟨_, _, classified⟩ := kindAt_eq_some.mp part
  by_contra unnamed
  cases classified.symm.trans (classify_of_unnamed (Bool.eq_false_iff.mpr unnamed))

theorem isShown_of_not_hidden {place : Tree.Place} (seen : g.isHidden place = false) : g.isShown place = true := by
  rw [isHidden, List.any_cons, Bool.or_eq_false_iff, List.any_eq_false] at seen
  rw [isShown, List.all_eq_true]
  intro upper member
  simpa using seen.2 upper member

-- A place of the tree that a node of the outline, other than the root, stands for.
def Kept (g : Grammar) (source : Source) (outline : Outline) (place : Tree.Place) : Prop :=
  ∃ site, outline.Holds site ∧ site ≠ outline.rootSite ∧ g.StandsFor source place site.node

variable {tag : String} {tree : Tree} {outline : Outline} {place : Tree.Place}

theorem StandsFor.key {node : Node} (stands : g.StandsFor source place node) : node.key = place.node.key := by
  rw [Node.key, stands.type, stands.span]
  rfl

theorem kept_of_kindAt {kind : Kind} (opens : g.ClausesOpen) (distinct : (tree.preorder.map Tree.key).Nodup)
    (done : g.outline tag source (some tree) = .ok outline) (inTree : place ∈ Tree.Place.walk [] tree)
    (part : g.kindAt source place = some kind) : g.Kept source outline place := by
  have noLoop : outline.root.onceCount = 0 := by
    obtain ⟨_, _, _, _, root⟩ := outline_eq_ok done
    rw [root]
    rfl
  obtain ⟨pairs, paired⟩ := exists_paired (outline_imprints opens distinct done) noLoop
  have isMapped : place ∈ g.mapped source tree := List.mem_filter.mpr ⟨inTree, by rw [part]; rfl⟩
  obtain ⟨pair, isPair, rfl⟩ := List.mem_map.mp (paired.places.symm.subset isMapped)
  obtain ⟨held, inside⟩ := paired.holds isPair
  have below : pair.1 ≠ outline.rootSite := fun atRoot => inside (by rw [atRoot]; rfl)
  obtain ⟨other, isOther, stands⟩ := (outline_origins opens done held).resolve_left below
  -- The node stands for some place, and no other place has its key.
  have whole : Distinct [] tree := by rwa [Distinct, List.append_nil]
  cases Tree.Place.eq_of_key_eq whole isOther inTree (stands.key.symm.trans (paired.key_eq isPair))
  exact ⟨pair.1, held, below, stands⟩

end Grammar

namespace Language

variable {language : Language} {source : Source} {tree : Tree} {outline : Outline}

-- The types of one word that play a part. A token goes by its text, and some of these are keywords as well.
def wordTypes : Language → List String
  | .python => ["lambda", "call", "list", "dictionary", "set", "tuple", "assignment"]
  | .javascript | .typescript => ["class", "function", "array", "object"]
  | .java | .go => []

theorem partTypes_cases (language : Language) : ∀ type ∈ language.grammar.partTypes,
    type.toList.contains '_' = true ∨ type ∈ language.wordTypes := by
  cases language <;> decide +kernel

theorem namesType_cases {type : String} (named : language.grammar.namesType type = true) :
    language.grammar.namesRule type = true ∨ type ∈ language.wordTypes := by
  have listed : type ∈ language.grammar.partTypes := by rwa [Grammar.namesType_eq, List.contains_iff_mem] at named
  refine (partTypes_cases language type listed).imp_left fun several => ?_
  rw [Grammar.namesRule, named, several, Bool.and_self]

theorem wordTypes_named (language : Language) : ∀ type ∈ language.wordTypes,
    language.grammar.namesType type = true ∧ language.grammar.membershipTypes.contains type = false := by
  cases language <;> decide

-- Of what is accepted, every visible place below the root with such a type plays a part.
theorem kindAt_of_word {place : Tree.Place} (distinct : (tree.preorder.map Tree.key).Nodup)
    (done : language.outline source (some tree) = .ok outline) (inTree : place ∈ Tree.Place.walk [] tree)
    (below : place.above ≠ []) (seen : language.grammar.isHidden place = false)
    (word : place.node.type ∈ language.wordTypes) : ∃ kind, language.grammar.kindAt source place = some kind := by
  obtain ⟨named, plain⟩ := wordTypes_named language _ word
  cases classified : language.grammar.classify source place.above place.node with
  | error m =>
    obtain ⟨isCall, noCallee, rfl⟩ := Grammar.classify_eq_error classified
    have noComment : place.node.hasType language.grammar.commentTypes = false := by
      rw [Grammar.isHidden, List.any_cons, Bool.or_eq_false_iff] at seen
      exact seen.1
    have shows : language.grammar.Shows source (some tree) _ :=
      .atPlace inTree (Grammar.isShown_of_not_hidden seen) (.callWithoutCallee below noComment isCall noCallee)
    refine absurd shows (Grammar.shows_nothing_of_outline (Grammar.sortsTypes language) ?_ (mapError_eq_ok.mp done))
    rintro top ⟨⟩
    exact distinct
  | ok part =>
    cases part with
    | none => cases named.symm.trans (Grammar.unnamed_of_classify classified plain)
    | some kind => exact ⟨kind, Grammar.kindAt_eq_some.mpr ⟨below, seen, classified⟩⟩

-- Whether a node is named is not asked: a token is kept where its text is a type that plays a part.
theorem outline_tokens (done : language.outline source (some tree) = .ok outline) :
    (∀ site, outline.Holds site → site ≠ outline.rootSite → ∃ place ∈ Tree.Place.walk [] tree,
      language.grammar.StandsFor source place site.node ∧
        (language.grammar.namesRule place.node.type = true ∨ place.node.type ∈ language.wordTypes)) ∧
    ((tree.preorder.map Tree.key).Nodup → ∀ place ∈ Tree.Place.walk [] tree, place.node.named = false →
      language.grammar.namesRule place.node.type = false →
      (language.grammar.Kept source outline place ↔
        place.above ≠ [] ∧ language.grammar.isHidden place = false ∧ place.node.type ∈ language.wordTypes)) := by
  have lowered := mapError_eq_ok.mp done
  have opens := Grammar.clausesOpen language
  refine ⟨?_, ?_⟩
  · intro site held below
    obtain ⟨place, inTree, stands⟩ := (Grammar.outline_origins opens lowered held).resolve_left below
    exact ⟨place, inTree, stands, namesType_cases (Grammar.namesType_of_kindAt stands.part)⟩
  · intro distinct place inTree _ noRule
    constructor
    · rintro ⟨site, _, _, stands⟩
      obtain ⟨below, seen, _⟩ := Grammar.kindAt_eq_some.mp stands.part
      have origin := namesType_cases (Grammar.namesType_of_kindAt stands.part)
      exact ⟨below, seen, origin.resolve_left (Bool.eq_false_iff.mp noRule)⟩
    · rintro ⟨below, seen, word⟩
      obtain ⟨kind, part⟩ := kindAt_of_word distinct done inTree below seen word
      exact Grammar.kept_of_kindAt opens distinct lowered inTree part

end Language

def emptyClassSource : Source :=
  { bytes := "class A {}".toUTF8.toList }

def classToken : Tree :=
  .node { type := "class", named := false, first := 0, last := 5 } []

def openingBrace : Tree :=
  .node { type := "\x7b", named := false, first := 8, last := 9 } []

def emptyBody : Tree :=
  .node { type := "class_body", first := 8, last := 10, fields := ["body"] }
    [openingBrace, .node { type := "\x7d", named := false, first := 9, last := 10 } []]

def emptyClass : Tree :=
  .node { type := "class_declaration", first := 0, last := 10 }
    [classToken, .node { type := "identifier", first := 6, last := 7, fields := ["name"] } [], emptyBody]

-- A class with nothing in it: its keyword goes by the type of a class expression.
def emptyClassTree : Tree :=
  .node { type := "program", first := 0, last := 10 } [emptyClass]

theorem emptyClassTree_lowered :
    (Language.javascript.outline emptyClassSource (some emptyClassTree)).toOption.isSome = true := by
  decide +kernel

theorem emptyClassTree_tokens :
    (emptyClassTree.preorder.map Tree.key).Nodup ∧
      ∃ outline, Language.javascript.outline emptyClassSource (some emptyClassTree) = .ok outline ∧
        Language.javascript.grammar.Kept emptyClassSource outline
          { node := classToken, above := [emptyClass, emptyClassTree] } ∧
        ¬Language.javascript.grammar.Kept emptyClassSource outline
          { node := openingBrace, above := [emptyBody, emptyClass, emptyClassTree] } := by
  have distinct : (emptyClassTree.preorder.map Tree.key).Nodup := by decide
  have lowered := eq_ok_get emptyClassTree_lowered
  have inClass : emptyClass ∈ emptyClassTree.children := List.mem_singleton.mpr rfl
  have keyword : { node := classToken, above := [emptyClass, emptyClassTree] } ∈ Tree.Place.walk [] emptyClassTree :=
    Tree.Place.mem_walk_child inClass (Tree.Place.mem_walk_child (by simp [emptyClass, Tree.children])
      (Tree.Place.mem_walk_self _ _))
  have brace : { node := openingBrace, above := [emptyBody, emptyClass, emptyClassTree] } ∈
      Tree.Place.walk [] emptyClassTree :=
    Tree.Place.mem_walk_child inClass (Tree.Place.mem_walk_child (by simp [emptyClass, Tree.children])
      (Tree.Place.mem_walk_child (by simp [emptyBody, Tree.children]) (Tree.Place.mem_walk_self _ _)))
  refine ⟨distinct, _, lowered, ?_, ?_⟩
  · exact ((Language.outline_tokens lowered).2 distinct _ keyword rfl (by decide)).mpr
      ⟨List.cons_ne_nil _ _, by decide, by decide⟩
  · intro kept
    have word := (((Language.outline_tokens lowered).2 distinct _ brace rfl (by decide)).mp kept).2.2
    revert word
    decide

-- Not every node below the root comes from a named place.
theorem emptyClassTree_keeps_keyword :
    ∃ outline, Language.javascript.outline emptyClassSource (some emptyClassTree) = .ok outline ∧
      ∃ site, outline.Holds site ∧ site ≠ outline.rootSite ∧
        ∀ place ∈ Tree.Place.walk [] emptyClassTree,
          Language.javascript.grammar.StandsFor emptyClassSource place site.node → place.node.named = false := by
  obtain ⟨outline, done, nodes⟩ : ∃ outline,
      Language.javascript.outline emptyClassSource (some emptyClassTree) = .ok outline ∧
        outline.preorder.map (fun site => (site.above.length, site.node.head.grammarType)) =
          [(0, "program"), (1, "class_declaration"), (2, "class")] :=
    ⟨_, eq_ok_get emptyClassTree_lowered, by decide +kernel⟩
  have last : (2, "class") ∈ outline.preorder.map fun site => (site.above.length, site.node.head.grammarType) := by
    rw [nodes]
    decide
  obtain ⟨site, inOutline, same⟩ := List.mem_map.mp last
  obtain ⟨depth, type⟩ := Prod.mk.inj same
  refine ⟨outline, done, site, Outline.mem_preorder.mp inOutline, ?_, ?_⟩
  · rintro rfl
    cases depth
  · intro place inTree stands
    have onlyToken : ∀ inner ∈ emptyClassTree.preorder, inner.type = "class" → inner.named = false := by decide
    have member : place.node ∈ emptyClassTree.preorder := by
      rw [← Tree.Place.map_node_walk [] emptyClassTree]
      exact List.mem_map_of_mem inTree
    exact onlyToken place.node member (stands.type.symm.trans type)

end Perflint
