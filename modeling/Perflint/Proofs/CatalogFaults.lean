import Mathlib
import Perflint.Analysis
import Perflint.Proofs.Assignments
import Perflint.Proofs.Evaluation
import Perflint.Proofs.ScopeNodes

namespace Perflint

theorem Text.not_mem_of_afterFirst? {mark : Char} {text : String} (missing : afterFirst? mark text = none) :
    mark ∉ text.toList := by
  unfold afterFirst? at missing
  split at missing
  · rename_i none
    intro member
    simpa using List.dropWhile_eq_nil_iff.mp none mark member
  · cases missing

namespace Outline

variable {outline : Outline} {scope : Scope} {name : String} {before : Position} {site : Site}

theorem mem_of_latestStart {sites : List Site} (found : latestStart sites = some site) : site ∈ sites := by
  induction sites with
  | nil => cases found
  | cons first rest ih =>
    unfold latestStart at found
    split at found
    · cases found
      exact List.mem_cons_self
    · rename_i later isLater
      split at found
      · cases found
        exact List.mem_cons_of_mem _ (ih isLater)
      · cases found
        exact List.mem_cons_self

theorem mem_lookupScopes {candidate : Scope} (member : candidate ∈ outline.lookupScopes scope) :
    candidate = scope ∨ candidate = outline.unitScope := by
  unfold lookupScopes at member
  split at member
  · exact .inl (List.mem_singleton.mp member)
  · simpa using member

theorem lookupScopes_subset (isScope : scope ∈ outline.scopes) : outline.lookupScopes scope ⊆ outline.scopes := by
  intro candidate member
  rcases mem_lookupScopes member with rfl | rfl
  · exact isScope
  · exact List.mem_cons_self

theorem holds_of_mem_nodes (isScope : scope ∈ outline.scopes) (member : site ∈ scope.nodes) : outline.Holds site := by
  obtain ⟨child, isChild, path, leads, place, _⟩ := Site.mem_descendantsInScope.mp (List.mem_filter.mp member).1
  exact holds_descendant (holds_scope isScope) (Site.mem_descendants.mpr ⟨child, isChild, path, leads, place⟩)

theorem mem_of_lastAssignment? (found : outline.lastAssignment? scope name before = some site) :
    ∃ candidate ∈ outline.lookupScopes scope, site ∈ candidate.assignmentsTo name ∧
      site.span.finish.le before = true := by
  obtain ⟨candidate, isCandidate, latest⟩ := List.exists_of_findSome?_eq_some found
  exact ⟨candidate, isCandidate, List.mem_filter.mp (mem_of_latestStart latest)⟩

-- What the search for an assignment finds is an assignment of the outline that ends before the place.
theorem lastAssignment?_eq_some (isScope : scope ∈ outline.scopes)
    (found : outline.lastAssignment? scope name before = some site) :
    outline.Holds site ∧ (∃ a, site.node.assignment? = some a) ∧ site.span.finish.le before = true := by
  obtain ⟨candidate, isCandidate, assigned, ends⟩ := mem_of_lastAssignment? found
  obtain ⟨inNodes, targeted⟩ := List.mem_filter.mp assigned
  refine ⟨holds_of_mem_nodes (lookupScopes_subset isScope isCandidate) inNodes, ?_, ends⟩
  split at targeted
  · rename_i a isAssignment
    exact ⟨a, isAssignment⟩
  · cases targeted

end Outline

namespace Catalog

-- The search for the first value of a name: from each assignment that reads the name on to what stands before it.
inductive Searches (outline : Outline) (scope : Scope) (target : String) : Position → Option Site → Prop where
  | missing {before : Position} : outline.lastAssignment? scope target before = none →
      Searches outline scope target before none
  | found {before : Position} {site : Site} : outline.lastAssignment? scope target before = some site →
      site.node.bindsAfresh target = true → Searches outline scope target before (some site)
  | onward {before : Position} {site : Site} {result : Option Site} :
      outline.lastAssignment? scope target before = some site → site.node.bindsAfresh target = false →
      Searches outline scope target site.span.start result → Searches outline scope target before result

-- Each round ends at an earlier place, so the search ends.
theorem searches_initializer? {outline : Outline} {scope : Scope} (isScope : scope ∈ outline.scopes)
    (nonempty : ∀ site a, outline.Holds site → site.node.assignment? = some a →
      site.span.start.lt site.span.finish = true) (target : String) (before : Position) :
    Searches outline scope target before (initializer? outline scope target before) := by
  fun_induction initializer? outline scope target before with
  | case1 before none => exact .missing none
  | case2 before site found fresh => exact .found found fresh
  | case3 before site found reads earlier ih => exact .onward found (Bool.eq_false_iff.mpr reads) ih
  | case4 before site found reads late =>
    obtain ⟨held, ⟨a, isAssignment⟩, ends⟩ := Outline.lastAssignment?_eq_some isScope found
    exact absurd (Position.lt_of_lt_of_le (nonempty site a held isAssignment) ends) late

-- The catalog fails only on a sum that shows no plus sign.
theorem rules_fault {rule : Rule} (member : rule ∈ rules) {ctx : Context} {site : Site} {fault : Fault}
    (failed : rule.check ctx site = .error fault) :
    ∃ a, site.node.assignment? = some a ∧ a.valueIsConcat = true ∧ '+' ∉ a.value.toList := by
  have onlyConcat : ∀ rule ∈ rules, rule.check ctx site = .error fault → rule = stringConcatInLoop :=
    forall_rules.mpr ⟨nofun, nofun, nofun, nofun, nofun, nofun, nofun, nofun, fun _ => rfl, nofun, nofun, nofun,
      nofun, nofun, nofun, nofun, nofun⟩
  rw [onlyConcat rule member failed] at failed
  obtain ⟨a, isAssignment, inPiece⟩ := findConcat_eq_error failed
  obtain ⟨_, isConcat, missing⟩ := addedPiece_eq_error inPiece
  exact ⟨a, isAssignment, isConcat, Text.not_mem_of_afterFirst? missing⟩

-- No rule of the catalog fails on the outline of a readable tree, and every search for a first value ends.
theorem evaluate_readable {language : Language} {source : Source} {tree : Option Tree} {outline : Outline}
    (readable : ∀ top ∈ tree, language.grammar.Readable source top) (done : language.outline source tree = .ok outline)
    (ctx : Context) (ofOutline : ctx.outline = outline) (budget : Budget) :
    (evaluate ctx registry budget).failures = [] ∧
      ∀ scope ∈ outline.scopes, ∀ target before,
        Searches outline scope target before (initializer? outline scope target before) := by
  subst ofOutline
  have lowered := mapError_eq_ok.mp done
  obtain ⟨top, _, rfl, _, _⟩ := Grammar.outline_eq_ok lowered
  have isReadable := readable top rfl
  have assignments := fun site a (held : ctx.outline.Holds site) (isAssignment : site.node.assignment? = some a) =>
    Grammar.outline_assignment (Grammar.clausesOpen language) isReadable lowered held isAssignment
  refine ⟨?_, ?_⟩
  · refine List.eq_nil_iff_forall_not_mem.mpr fun failure member => ?_
    obtain ⟨rule, isRule, site, held, judged⟩ := (evaluate_judged ctx registry budget).2 failure member
    rcases Rule.mem_judge_failure.mp judged with ⟨fault, failed, _⟩ | ⟨hits, found, hit, isHit, outside, _⟩
    · obtain ⟨a, isAssignment, isConcat, noPlus⟩ := rules_fault isRule failed
      exact noPlus ((assignments site a held isAssignment).1 isConcat)
    · have nested := Grammar.outline_nested (fun _ isTop => (readable _ isTop).nested) lowered
      have inside := Outline.inBounds_of_holds nested
        (Rule.holds_place (rules_local rule isRule) held found isHit)
      exact Bool.eq_false_iff.mp outside inside
  · intro scope isScope target before
    exact searches_initializer? isScope (fun site a held isAssignment => (assignments site a held isAssignment).2) target
      before

end Catalog

def sumSource : Source :=
  { bytes := "s = ''\nfor x in xs:\n    s = s + x\n".toUTF8.toList }

-- A text that a loop puts together.
def sumTree : Tree :=
  .node { type := "module", first := 0, last := 34 }
    [.node { type := "expression_statement", first := 0, last := 6 }
      [.node { type := "assignment", first := 0, last := 6 }
        [.node { type := "identifier", first := 0, last := 1, fields := ["left"] } [],
         .node { type := "string", first := 4, last := 6, fields := ["right"] } []]],
     .node { type := "for_statement", first := 7, last := 33 }
      [.node { type := "identifier", first := 11, last := 12, fields := ["left"] } [],
       .node { type := "identifier", first := 16, last := 18, fields := ["right"] } [],
       .node { type := "block", first := 24, last := 33, fields := ["body"] }
        [.node { type := "expression_statement", first := 24, last := 33 }
          [.node { type := "assignment", first := 24, last := 33 }
            [.node { type := "identifier", first := 24, last := 25, fields := ["left"] } [],
             .node { type := "binary_operator", first := 28, last := 33, fields := ["right"] }
              [.node { type := "identifier", first := 28, last := 29, fields := ["left"] } [],
               .node { type := "+", named := false, first := 30, last := 31, fields := ["operator"] } [],
               .node { type := "identifier", first := 32, last := 33, fields := ["right"] } []]]]]]]

theorem sumTree_readable : Language.python.grammar.Readable sumSource sumTree :=
  ⟨by decide, by decide +kernel, by decide +kernel⟩

theorem sumTree_lowered : (Language.python.outline sumSource (some sumTree)).toOption.isSome = true := by
  decide +kernel

theorem sumTree_faultless :
    Language.python.grammar.Readable sumSource sumTree ∧
      ∃ outline, Language.python.outline sumSource (some sumTree) = .ok outline ∧
        (outline.preorder.any fun site =>
          !site.loops.isEmpty && site.node.assignment?.any fun a => a.valueIsConcat) = true ∧
        ∀ ctx : Context, ctx.outline = outline → ∀ budget, (evaluate ctx Catalog.registry budget).failures = [] := by
  have lowered := eq_ok_get sumTree_lowered
  refine ⟨sumTree_readable, _, lowered, by decide +kernel, ?_⟩
  intro ctx ofOutline budget
  have readable : ∀ top ∈ some sumTree, Language.python.grammar.Readable sumSource top := by
    rintro top ⟨⟩
    exact sumTree_readable
  exact (Catalog.evaluate_readable readable lowered ctx ofOutline budget).1

end Perflint
