import Mathlib
import Perflint.Proofs.ScopeNodes

namespace Perflint

namespace Node

-- The same node down to the functions: neither identifiers nor what stands in a function count.
inductive Alike : Node → Node → Prop where
  | function {node other : Node} (isFunction : node.isFunction = true) (info : other.info = node.info)
      (span : other.span = node.span) : Alike node other
  | nested {node other : Node} (info : other.info = node.info) (span : other.span = node.span)
      (children : List.Forall₂ Alike node.children other.children) : Alike node other

-- The same node with the same children: what a walk needs where it goes on below.
structure Mirrors (node other : Node) : Prop where
  info : other.info = node.info
  span : other.span = node.span
  children : List.Forall₂ Alike node.children other.children

variable {node other : Node}

theorem Alike.info (alike : node.Alike other) : other.info = node.info := by
  cases alike with
  | function _ info _ => exact info
  | nested info _ _ => exact info

theorem Alike.span (alike : node.Alike other) : other.span = node.span := by
  cases alike with
  | function _ _ span => exact span
  | nested _ span _ => exact span

theorem Alike.mirrors (alike : node.Alike other) (closed : node.isFunction = false) : node.Mirrors other := by
  cases alike with
  | function isFunction =>
    rw [closed] at isFunction
    cases isFunction
  | nested info span children => exact ⟨info, span, children⟩

theorem Alike.refl (node : Node) : node.Alike node := by
  induction node using nested_induction with
  | step node ih => exact .nested rfl rfl (List.forall₂_same.mpr ih)

section SameInfo

variable (info : other.info = node.info)

include info

theorem kind_of_info : other.kind = node.kind := by
  rw [kind, kind, info]

theorem isFunction_of_info : other.isFunction = node.isFunction := by
  rw [isFunction, isFunction, kind_of_info info]

theorem isClosure_of_info : other.isClosure = node.isClosure := by
  rw [isClosure, isClosure, kind_of_info info]

theorem loop?_of_info : other.loop? = node.loop? := by
  rw [loop?, loop?, info]

theorem isLoop_of_info : other.isLoop = node.isLoop := by
  rw [isLoop, isLoop, loop?_of_info info]

theorem onceCount_of_info : other.onceCount = node.onceCount := by
  rw [onceCount, onceCount, loop?_of_info info]

theorem iterates_of_info : other.iterates = node.iterates := by
  rw [iterates, iterates, info]

theorem call?_of_info : other.call? = node.call? := by
  rw [call?, call?, info]

theorem assignment?_of_info : other.assignment? = node.assignment? := by
  rw [assignment?, assignment?, info]

theorem conditional?_of_info : other.conditional? = node.conditional? := by
  rw [conditional?, conditional?, info]

theorem function?_of_info : other.function? = node.function? := by
  rw [function?, function?, info]

theorem bindsAfresh_of_info (name : String) : other.bindsAfresh name = node.bindsAfresh name := by
  rw [bindsAfresh, bindsAfresh, assignment?_of_info info]

theorem loopText_of_info : other.loopText = node.loopText := by
  rw [loopText, loopText, info]

theorem conditionText_of_info : other.conditionText = node.conditionText := by
  rw [conditionText, conditionText, info]

end SameInfo

end Node

namespace Site

-- Which children are repeated is a matter of their positions.
theorem repeats_eq {parent child : Node} {i : Nat} (distinct : (parent.children.map Node.id).Nodup)
    (here : parent.children[i]? = some child) :
    repeats parent child =
      if parent.isLoop then decide (parent.onceCount ≤ i) else parent.iterates && child.isClosure := by
  have position : child.id ∈ parent.onceChildren.map Node.id ↔ i < parent.onceCount := by
    obtain ⟨inside, isChild⟩ := List.getElem?_eq_some_iff.mp here
    have isId : (parent.children.map Node.id)[i]? = some child.id := by rw [List.getElem?_map, here, Option.map_some]
    rw [Node.onceChildren, List.map_take, List.mem_take_iff_getElem]
    constructor
    · rintro ⟨j, early, same⟩
      have alsoId : (parent.children.map Node.id)[j]? = some child.id := by
        rw [← same, List.getElem?_eq_getElem]
      have sameIndex := (List.getElem?_inj (by simpa using inside) distinct).mp (isId.trans alsoId.symm)
      omega
    · intro early
      exact ⟨i, by simpa using ⟨early, inside⟩, by simp [isChild]⟩
  unfold repeats
  split
  · rw [Bool.eq_iff_iff, Bool.not_eq_true', ← Bool.not_eq_true, List.contains_iff_mem, position, decide_eq_true_eq, Nat.not_lt]
  · rfl

-- The same place below two sites, with no function on the way.
inductive Twin (root root' : Site) : Site → Site → Prop where
  | root : Twin root root' root root'
  | child {parent parent' : Site} {child child' : Node} {i : Nat} (parents : Twin root root' parent parent')
      (opened : (parent = root ∧ parent' = root') ∨ parent.node.isFunction = false)
      (here : parent.node.children[i]? = some child) (there : parent'.node.children[i]? = some child') :
      Twin root root' { node := child, above := parent.node :: parent.above }
        { node := child', above := parent'.node :: parent'.above }

-- Twins that are no functions: a walk goes on below them.
structure PlainTwin (root root' site site' : Site) : Prop where
  twin : Twin root root' site site'
  plain : site.node.isFunction = false

-- Two places from which the walks of a scope go the same way.
structure Mirrored (outline outline' : Outline) (root root' : Site) : Prop where
  held : outline.Holds root
  held' : outline'.Holds root'
  mirrors : root.node.Mirrors root'.node

-- A child and its counterpart.
structure Paired (root root' parent parent' : Site) (child child' : Node) : Prop where
  member : child ∈ parent.node.children
  alike : child.Alike child'
  repeats : repeats parent'.node child' = repeats parent.node child
  runs : parent'.node.runsPerIteration child' = parent.node.runsPerIteration child
  twin : Twin root root' { node := child, above := parent.node :: parent.above }
    { node := child', above := parent'.node :: parent'.above }
  inScope : { node := child, above := parent.node :: parent.above } ∈ root.descendantsInScope

section Places

variable {outline outline' : Outline} {root root' site site' other other' : Site}

namespace Twin

theorem alike_or_root (roots : Mirrored outline outline' root root') (twin : Twin root root' site site') :
    (site = root ∧ site' = root') ∨ site.node.Alike site'.node := by
  induction twin with
  | root => exact .inl ⟨rfl, rfl⟩
  | @child parent parent' child child' i parents opened here there ih =>
    have mirrors : parent.node.Mirrors parent'.node := by
      rcases ih with ⟨rfl, rfl⟩ | alike
      · exact roots.mirrors
      · rcases opened with ⟨rfl, rfl⟩ | closed
        · exact roots.mirrors
        · exact alike.mirrors closed
    exact .inr (forall₂_getElem? mirrors.children here there)

theorem mirrors (roots : Mirrored outline outline' root root') (twin : Twin root root' site site')
    (opened : (site = root ∧ site' = root') ∨ site.node.isFunction = false) : site.node.Mirrors site'.node := by
  rcases twin.alike_or_root roots with ⟨rfl, rfl⟩ | alike
  · exact roots.mirrors
  · rcases opened with ⟨rfl, rfl⟩ | closed
    · exact roots.mirrors
    · exact alike.mirrors closed

theorem info (roots : Mirrored outline outline' root root') (twin : Twin root root' site site') :
    site'.node.info = site.node.info := by
  rcases twin.alike_or_root roots with ⟨rfl, rfl⟩ | alike
  · exact roots.mirrors.info
  · exact alike.info

theorem span (roots : Mirrored outline outline' root root') (twin : Twin root root' site site') :
    site'.span = site.span := by
  rcases twin.alike_or_root roots with ⟨rfl, rfl⟩ | alike
  · exact roots.mirrors.span
  · exact alike.span

theorem held (roots : Mirrored outline outline' root root') (twin : Twin root root' site site') :
    outline.Holds site ∧ outline'.Holds site' := by
  induction twin with
  | root => exact ⟨roots.held, roots.held'⟩
  | child _ _ here there ih =>
    exact ⟨Outline.holds_child ih.1 (List.mem_of_getElem? here), Outline.holds_child ih.2 (List.mem_of_getElem? there)⟩

theorem length_above_le (twin : Twin root root' site site') :
    root.above.length ≤ site.above.length ∧ root'.above.length ≤ site'.above.length := by
  induction twin with
  | root => exact ⟨Nat.le_refl _, Nat.le_refl _⟩
  | child _ _ _ _ ih =>
    simp only [List.length_cons]
    omega

theorem inScope (twin : Twin root root' site site') : site = root ∨ site ∈ root.descendantsInScope := by
  induction twin with
  | root => exact .inl rfl
  | @child parent parent' child _ _ _ opened here _ ih =>
    have isChild := List.mem_of_getElem? here
    right
    rw [mem_descendantsInScope]
    rcases ih with rfl | member
    · exact ⟨child, isChild, [], rfl, rfl, by simp⟩
    · rcases opened with ⟨rfl, _⟩ | closed
      · exact ⟨child, isChild, [], rfl, rfl, by simp⟩
      · obtain ⟨top, isTop, path, leads, place, clear⟩ := mem_descendantsInScope.mp member
        refine ⟨top, isTop, parent.node :: path, ⟨isChild, leads⟩, by rw [place, List.cons_append], ?_⟩
        simpa [closed] using clear

end Twin

theorem child_eq_iff {child child' : Node} {i j : Nat} (held : outline.Holds site)
    (here : site.node.children[i]? = some child) (there : other.node.children[j]? = some child') :
    ({ node := child, above := site.node :: site.above } : Site) =
      { node := child', above := other.node :: other.above } ↔ site = other ∧ i = j := by
  constructor
  · intro same
    obtain ⟨rfl, above⟩ := Site.mk.inj same
    obtain ⟨node, above⟩ := List.cons.inj above
    have sameParent : site = other := by
      cases site
      cases other
      simp_all
    subst sameParent
    have distinct := (Node.children_ids_nodup (Outline.ids_nodup_of_holds held)).of_map
    obtain ⟨inside, _⟩ := List.getElem?_eq_some_iff.mp here
    exact ⟨rfl, (List.getElem?_inj inside distinct).mp (here.trans there.symm)⟩
  · rintro ⟨rfl, rfl⟩
    rw [here] at there
    cases there
    rfl

theorem Twin.child_ne_root (parents : Twin root root' site site') (child child' : Node) :
    { node := child, above := site.node :: site.above } ≠ root ∧
      { node := child', above := site'.node :: site'.above } ≠ root' := by
  have deep := parents.length_above_le
  constructor
  · rintro rfl
    simp only [List.length_cons] at deep
    omega
  · rintro rfl
    simp only [List.length_cons] at deep
    omega

-- Twins are told apart alike on both sides.
theorem Twin.eq_iff (roots : Mirrored outline outline' root root') (first : Twin root root' site site')
    (second : Twin root root' other other') : site = other ↔ site' = other' := by
  induction first generalizing other other' with
  | root =>
    cases second with
    | root => simp
    | child parents =>
      obtain ⟨differ, differ'⟩ := parents.child_ne_root _ _
      exact iff_of_false differ.symm differ'.symm
  | child parents _ here there ih =>
    cases second with
    | root =>
      obtain ⟨differ, differ'⟩ := parents.child_ne_root _ _
      exact iff_of_false differ differ'
    | child parents' _ here' there' =>
      obtain ⟨held, held'⟩ := parents.held roots
      rw [child_eq_iff held here here', child_eq_iff held' there there', ih parents']

-- What lies in a node is what has it above.
theorem mem_ids_iff (held : outline.Holds site) (otherHeld : outline.Holds other) :
    other.id ∈ site.node.ids ↔ site ∈ other :: other.ancestors := by
  have inside : other.id ∈ site.node.ids ↔ other ∈ walk false site.above site.node := by
    rw [Node.ids, ← map_node_walk site.above, List.map_map, List.mem_map]
    constructor
    · rintro ⟨same, member, sameId⟩
      have sameHeld : outline.Holds same := by
        obtain ⟨path, leads, place⟩ := mem_walk.mp member
        rw [Outline.Holds, place]
        exact leads_append leads held
      rwa [← Outline.eq_of_id_eq sameHeld otherHeld sameId]
    · exact fun member => ⟨other, member, rfl⟩
  rw [inside, mem_walk, List.mem_cons, ancestors, mem_ancestorsFrom]
  constructor
  · rintro ⟨path, leads, place⟩
    rcases leads_split leads with ⟨node, rfl⟩ | ⟨_, _, lower, rfl, _⟩
    · left
      cases site
      cases other
      simp_all
    · right
      exact ⟨lower, by rw [place, List.append_assoc, List.singleton_append]⟩
  · rintro (rfl | ⟨lower, place⟩)
    · exact ⟨[], rfl, rfl⟩
    · rw [Outline.Holds, place] at otherHeld
      obtain ⟨child, isChild, leads⟩ := leads_middle otherHeld
      refine ⟨lower ++ [site.node], leads_append leads ⟨isChild, rfl⟩, ?_⟩
      rw [place, List.append_assoc, List.singleton_append]

theorem length_above_lt {upper : Site} (member : upper ∈ site.ancestors) : upper.above.length < site.above.length := by
  obtain ⟨lower, place⟩ := mem_ancestorsFrom.mp member
  rw [place, List.length_append, List.length_cons]
  omega

theorem Twin.mem_ids (roots : Mirrored outline outline' root root') (upper : Twin root root' site site')
    (lower : Twin root root' other other') : other'.id ∈ site'.node.ids ↔ other.id ∈ site.node.ids := by
  obtain ⟨held, held'⟩ := upper.held roots
  obtain ⟨otherHeld, otherHeld'⟩ := lower.held roots
  rw [mem_ids_iff held otherHeld, mem_ids_iff held' otherHeld']
  clear otherHeld otherHeld'
  induction lower with
  | root =>
    -- Nothing above the roots is a twin.
    have notAbove : site ∉ root.ancestors := fun member => by
      have := length_above_lt member
      have := upper.length_above_le
      omega
    have notAbove' : site' ∉ root'.ancestors := fun member => by
      have := length_above_lt member
      have := upper.length_above_le
      omega
    rw [List.mem_cons, List.mem_cons, or_iff_left notAbove, or_iff_left notAbove']
    exact (upper.eq_iff roots .root).symm
  | child parents opened here there ih =>
    rw [List.mem_cons, List.mem_cons]
    exact or_congr (upper.eq_iff roots (.child parents opened here there)).symm ih

-- The children of twins pair off.
theorem Twin.children (roots : Mirrored outline outline' root root') (twin : Twin root root' site site')
    (opened : (site = root ∧ site' = root') ∨ site.node.isFunction = false) :
    List.Forall₂ (Paired root root' site site') site.node.children site'.node.children := by
  obtain ⟨held, held'⟩ := twin.held roots
  have mirrors := twin.mirrors roots opened
  refine List.forall₂_iff_get.mpr ⟨mirrors.children.length_eq, fun i inside inside' => ?_⟩
  have here := List.getElem?_eq_getElem inside
  have there := List.getElem?_eq_getElem inside'
  have alike : site.node.children[i].Alike site'.node.children[i] := forall₂_getElem? mirrors.children here there
  have pair := Twin.child twin opened here there
  have apart := (twin.child_ne_root site.node.children[i] site'.node.children[i]).1
  have distinct := Outline.ids_nodup_of_holds held
  have distinct' := Outline.ids_nodup_of_holds held'
  have same : repeats site'.node site'.node.children[i] = repeats site.node site.node.children[i] := by
    rw [repeats_eq (Node.children_ids_nodup distinct) here, repeats_eq (Node.children_ids_nodup distinct') there,
      Node.isLoop_of_info mirrors.info, Node.onceCount_of_info mirrors.info, Node.iterates_of_info mirrors.info,
      Node.isClosure_of_info alike.info]
  refine ⟨List.getElem_mem inside, alike, same, ?_, pair, pair.inScope.resolve_left apart⟩
  rwa [Node.repeats_eq_runsPerIteration distinct (List.getElem_mem inside),
    Node.repeats_eq_runsPerIteration distinct' (List.getElem_mem inside')] at same

-- A walk that stays in a scope meets twins.
theorem Twin.walk (roots : Mirrored outline outline' root root') {node node' : Node} {above above' : List Node}
    (twin : Twin root root' { node, above } { node := node', above := above' }) (alike : node.Alike node') :
    List.Forall₂ (Twin root root') (walk true above node) (walk true above' node') := by
  induction node using Node.nested_induction generalizing node' above above' with
  | step node ih =>
    rw [walk_eq, walk_eq, Bool.true_and, Bool.true_and, Node.isFunction_of_info alike.info]
    refine .cons twin ?_
    cases closed : node.isFunction with
    | true => exact .nil
    | false =>
      rw [if_neg Bool.false_ne_true, if_neg Bool.false_ne_true]
      refine List.rel_flatMap (twin.children roots (.inr closed)) ?_
      intro child child' pair
      exact ih child pair.member pair.twin pair.alike

theorem Twin.descendantsInScope (roots : Mirrored outline outline' root root') (twin : Twin root root' site site')
    (opened : (site = root ∧ site' = root') ∨ site.node.isFunction = false) :
    List.Forall₂ (Twin root root') site.descendantsInScope site'.descendantsInScope := by
  rw [Site.descendantsInScope, Site.descendantsInScope, walkAll_eq, walkAll_eq]
  exact List.rel_flatMap (twin.children roots opened) fun _ _ pair => pair.twin.walk roots pair.alike

-- The loops around twins are twins as far as the root, where that bars the search.
theorem Twin.loops (roots : Mirrored outline outline' root root') (bars : root.node.kind.barsLoops = true)
    (twin : Twin root root' site site') :
    (site = root ∧ site' = root') ∨
      List.Forall₂ (PlainTwin root root') site.loops site'.loops := by
  induction twin with
  | root => exact .inl ⟨rfl, rfl⟩
  | @child parent parent' child child' i parents opened here there ih =>
    right
    have pair := forall₂_getElem? (parents.children roots opened) here there
    unfold Site.loops loopsFrom
    dsimp only
    rw [Node.kind_of_info (parents.info roots), pair.repeats]
    cases barring : parent.node.kind.barsLoops with
    | true => exact .nil
    | false =>
      have closed : parent.node.isFunction = false := by
        simp only [Kind.barsLoops, Bool.or_eq_false_iff] at barring
        exact barring.1.1
      rw [if_neg Bool.false_ne_true, if_neg Bool.false_ne_true]
      rcases ih with ⟨rfl, rfl⟩ | rest
      · rw [bars] at barring
        cases barring
      · split
        · exact .cons ⟨parents, closed⟩ rest
        · exact rest

end Places

end Site

-- The nodes of two scopes that start at mirrored places.
theorem Scope.nodes_twins {outline outline' : Outline} {scope scope' : Scope}
    (roots : Site.Mirrored outline outline' scope.root scope'.root) :
    List.Forall₂ (Site.PlainTwin scope.root scope'.root) scope.nodes scope'.nodes := by
  have all := forall₂_filter (Site.Twin.root.descendantsInScope roots (.inl ⟨rfl, rfl⟩))
    fun site site' twin => congrArg (!·) (Node.isFunction_of_info (twin.info roots))
  exact all.imp fun _ _ pair => ⟨pair.1, by simpa using pair.2⟩

end Perflint
