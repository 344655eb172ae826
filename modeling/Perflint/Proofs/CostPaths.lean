import Mathlib
import Perflint.Cost.Walk
import Perflint.Proofs.Sites

namespace Perflint

namespace Node

theorem iterates_of_isLoop {node : Node} (isLoop : node.isLoop = true) : node.iterates = true := by
  unfold Node.isLoop Node.loop? at isLoop
  unfold Node.iterates
  split at isLoop
  · rename_i l found
    rw [found]
  · cases isLoop

end Node

namespace Cost

-- A way down from a node. Every step enters a child, and no step enters a function.
def IsWay (parent : Node) : List Node → Prop
  | [] => True
  | node :: rest => node ∈ parent.children ∧ node.isFunction = false ∧ IsWay node rest

-- What a loop, or an operation that iterates, adds to the cost of the ways through it.
structure Charge where
  site : Site
  factor : Nat × Nat

def factorAt (outline : Outline) (scope : Scope) (site : Site) (enclosing : List Site) : Nat × Nat :=
  match site.node.loop? with
  | some l => (Bound.ofLoop outline scope site l enclosing).factor
  | none => if site.node.iterates then (1, 0) else (0, 0)

def chargeAt (outline : Outline) (scope : Scope) (site : Site) (enclosing : List Site) : List Charge :=
  if site.node.iterates then [{ site, factor := factorAt outline scope site enclosing }] else []

-- What a way is charged for, outermost first. A node that the way leaves through a part evaluated once is not
-- charged, nor does it enclose what follows.
def charges (outline : Outline) (scope : Scope) : List Node → List Site → List Node → List Charge
  | _, _, [] => []
  | above, enclosing, [node] => chargeAt outline scope { node, above } enclosing
  | above, enclosing, node :: child :: rest =>
    if node.runsPerIteration child then
      chargeAt outline scope { node, above } enclosing ++
        charges outline scope (node :: above) ({ node, above } :: enclosing) (child :: rest)
    else charges outline scope (node :: above) enclosing (child :: rest)

-- The sum, component by component; sums are compared by degree first.
def weight (charges : List Charge) : ℕ ×ₗ ℕ :=
  (charges.map fun charge => toLex charge.factor).sum

def counted (charges : List Charge) : List Charge :=
  charges.filter (·.factor != (0, 0))

def key (cost : Cost) : ℕ ×ₗ ℕ :=
  toLex (cost.degree, cost.logs)

theorem below_iff (a b : Cost) : a.below b = true ↔ a.key < b.key := by
  simp [below, key, Prod.Lex.toLex_lt_toLex]

theorem zero_le_key (key : ℕ ×ₗ ℕ) : 0 ≤ key := by
  change toLex (0, 0) ≤ key
  rw [Prod.Lex.le_iff]
  simp only [ofLex_toLex]
  omega

theorem weight_append (first second : List Charge) : weight (first ++ second) = weight first + weight second := by
  simp [weight]

theorem weight_counted (charges : List Charge) : weight (counted charges) = weight charges := by
  induction charges with
  | nil => rfl
  | cons charge rest ih =>
    unfold counted weight at ih ⊢
    rw [List.filter_cons]
    split
    · rw [List.map_cons, List.map_cons, List.sum_cons, List.sum_cons, ih]
    · rename_i free
      have isFree : charge.factor = (0, 0) := by simpa using free
      rw [ih, List.map_cons, List.sum_cons, isFree]
      exact (zero_add _).symm

theorem counted_eq_nil_iff (charges : List Charge) : counted charges = [] ↔ weight charges = 0 := by
  rw [← weight_counted]
  constructor
  · intro none
    rw [none]
    rfl
  · intro free
    cases found : counted charges with
    | nil => rfl
    | cons charge rest =>
      have member : charge ∈ counted charges := by simp [found]
      have costs : charge.factor ≠ (0, 0) := by simpa [counted] using (List.mem_filter.mp member).2
      rw [found, weight, List.map_cons, List.sum_cons] at free
      have parts := congrArg ofLex free
      simp only [ofLex_add, ofLex_toLex, ofLex_zero, Prod.ext_iff, Prod.fst_add, Prod.snd_add, Prod.fst_zero,
        Prod.snd_zero, Nat.add_eq_zero_iff] at parts
      exact absurd (Prod.ext parts.1.1 parts.2.1) costs

theorem dearest_cons_best (best : Cost) (costs : List Cost) :
    let result := costs.foldl (fun best cost => if best.below cost then cost else best) best
    (result = best ∨ result ∈ costs) ∧ best.key ≤ result.key ∧ ∀ cost ∈ costs, cost.key ≤ result.key := by
  induction costs generalizing best with
  | nil => simp
  | cons cost costs ih =>
    obtain ⟨origin, least, greatest⟩ := ih (if best.below cost then cost else best)
    rw [List.foldl_cons]
    by_cases dearer : best.below cost = true
    · simp only [dearer, if_true] at origin least greatest ⊢
      have order := (below_iff best cost).mp dearer
      refine ⟨.inr ?_, order.le.trans least, ?_⟩
      · exact List.mem_cons.mpr origin
      · intro other member
        rcases List.mem_cons.mp member with rfl | later
        · exact least
        · exact greatest other later
    · simp only [dearer, if_false, Bool.false_eq_true] at origin least greatest ⊢
      have order := not_lt.mp (mt (below_iff best cost).mpr dearer)
      refine ⟨origin.imp_right (List.mem_cons_of_mem _), least, ?_⟩
      intro other member
      rcases List.mem_cons.mp member with rfl | later
      · exact order.trans least
      · exact greatest other later

theorem dearest_origin (costs : List Cost) : dearest costs = {} ∨ dearest costs ∈ costs :=
  (dearest_cons_best {} costs).1

theorem key_le_dearest {cost : Cost} {costs : List Cost} (member : cost ∈ costs) : cost.key ≤ (dearest costs).key :=
  (dearest_cons_best {} costs).2.2 cost member

theorem nest_key (site : Site) (factor : Nat × Nat) (body : Cost) :
    (nest site factor body).key = toLex factor + body.key := by
  unfold nest
  split
  · rename_i free
    rw [beq_iff_eq.mp free]
    exact (zero_add _).symm
  · change toLex (body.degree + factor.1, body.logs + factor.2) = toLex (factor.1 + body.degree, factor.2 + body.logs)
    rw [Nat.add_comm body.degree, Nat.add_comm body.logs]

theorem factorAt_eq (outline : Outline) (scope : Scope) (site : Site) (enclosing : List Site) :
    factorAt outline scope site enclosing = (Bound.ofSite outline scope site enclosing).factor := by
  unfold factorAt Bound.ofSite
  cases site.node.loop? with
  | some l => rfl
  | none => cases site.node.iterates <;> rfl

theorem factorAt_of_not_iterates {site : Site} (still : site.node.iterates = false) (outline : Outline)
    (scope : Scope) (enclosing : List Site) : factorAt outline scope site enclosing = (0, 0) := by
  unfold factorAt
  cases found : site.node.loop? with
  | none => simp [still]
  | some l =>
    have isLoop : site.node.isLoop = true := by simp [Node.isLoop, found]
    simp [Node.iterates_of_isLoop isLoop] at still

theorem weight_chargeAt (outline : Outline) (scope : Scope) (site : Site) (enclosing : List Site) :
    weight (chargeAt outline scope site enclosing) = toLex (factorAt outline scope site enclosing) := by
  unfold chargeAt
  cases still : site.node.iterates with
  | true => simp [weight]
  | false =>
    rw [factorAt_of_not_iterates still]
    rfl

-- The sites that count are those whose factor is not zero, whatever their kind.
theorem counted_chargeAt (outline : Outline) (scope : Scope) (site : Site) (enclosing : List Site) :
    (counted (chargeAt outline scope site enclosing)).map Charge.site =
      if factorAt outline scope site enclosing == (0, 0) then [] else [site] := by
  unfold chargeAt
  cases still : site.node.iterates with
  | true => by_cases free : factorAt outline scope site enclosing = (0, 0) <;> simp [counted, free]
  | false =>
    rw [factorAt_of_not_iterates still]
    rfl

section Walk

variable (outline : Outline) (scope : Scope)

-- The cost of a child of a node, as the walk computes it there.
def childCost (site : Site) (enclosing : List Site) (child : Node) : Cost :=
  ofNode outline scope (site.node :: site.above)
    (if site.node.runsPerIteration child then site :: enclosing else enclosing) child

theorem ofChildren_eq (parent : Site) (enclosing : List Site) (nodes : List Node) :
    ofChildren outline scope parent enclosing nodes =
      nodes.map fun child => (parent.node.runsPerIteration child, childCost outline scope parent enclosing child) := by
  induction nodes with
  | nil => rfl
  | cons child rest ih =>
    rw [ofChildren, ih, List.map_cons]
    rfl

theorem ofNode_eq (above : List Node) (enclosing : List Site) (node : Node) :
    ofNode outline scope above enclosing node =
      if node.isFunction then {}
      else dearest
        ((node.children.filter (!node.runsPerIteration ·)).map (childCost outline scope { node, above } enclosing) ++
          [nest { node, above } (factorAt outline scope { node, above } enclosing)
            (dearest ((node.children.filter (node.runsPerIteration ·)).map
              (childCost outline scope { node, above } enclosing)))]) := by
  cases node with
  | mk head children =>
    simp only [ofNode, ofChildren_eq, factorAt_eq, List.filter_map, List.map_map, Function.comp_def, Node.children]

theorem childCost_key_le_once {node child : Node} (above : List Node) (enclosing : List Site)
    (opened : node.isFunction = false) (member : child ∈ node.children) (once : node.runsPerIteration child = false) :
    (childCost outline scope { node, above } enclosing child).key ≤
      (ofNode outline scope above enclosing node).key := by
  rw [ofNode_eq, opened]
  refine key_le_dearest (List.mem_append_left _ (List.mem_map_of_mem (List.mem_filter.mpr ⟨member, ?_⟩)))
  rw [once]
  rfl

theorem nest_key_le {node : Node} (above : List Node) (enclosing : List Site) (opened : node.isFunction = false) :
    toLex (factorAt outline scope { node, above } enclosing) +
        (dearest ((node.children.filter (node.runsPerIteration ·)).map
          (childCost outline scope { node, above } enclosing))).key ≤
      (ofNode outline scope above enclosing node).key := by
  rw [ofNode_eq, opened, ← nest_key { node, above }]
  exact key_le_dearest (List.mem_append_right _ (List.mem_singleton.mpr rfl))

-- No way through a node is dearer than what the walk finds there.
theorem weight_charges_le {node : Node} (above : List Node) (enclosing : List Site) {way : List Node}
    (opened : node.isFunction = false) (isWay : IsWay node way) :
    weight (charges outline scope above enclosing (node :: way)) ≤ (ofNode outline scope above enclosing node).key := by
  induction node using Node.nested_induction generalizing above enclosing way with
  | step node ih =>
    cases way with
    | nil =>
      rw [charges, weight_chargeAt]
      exact (le_add_of_nonneg_right (zero_le_key _)).trans (nest_key_le outline scope above enclosing opened)
    | cons child way =>
      obtain ⟨member, childOpened, onward⟩ := isWay
      rw [charges]
      by_cases inside : node.runsPerIteration child = true
      · have further := ih child member (node :: above) ({ node, above } :: enclosing) childOpened onward
        have listed : childCost outline scope { node, above } enclosing child ∈
            (node.children.filter (node.runsPerIteration ·)).map (childCost outline scope { node, above } enclosing) :=
          List.mem_map_of_mem (List.mem_filter.mpr ⟨member, inside⟩)
        have dearer := key_le_dearest listed
        simp only [childCost, inside, if_true] at dearer
        rw [if_pos inside, weight_append, weight_chargeAt]
        exact (add_le_add_right (further.trans dearer) _).trans (nest_key_le outline scope above enclosing opened)
      · have once : node.runsPerIteration child = false := Bool.eq_false_iff.mpr inside
        have further := ih child member (node :: above) enclosing childOpened onward
        have cheaper := childCost_key_le_once outline scope above enclosing opened member once
        simp only [childCost, once, Bool.false_eq_true, if_false] at cheaper
        rw [if_neg inside]
        exact further.trans cheaper

-- A way that costs this much, and whose loops that add something are these.
structure Attains (above : List Node) (enclosing : List Site) (way : List Node) (cost : Cost) : Prop where
  weight_eq : weight (charges outline scope above enclosing way) = cost.key
  loops_eq : cost.loops = (counted (charges outline scope above enclosing way)).map Charge.site

theorem counted_append (first second : List Charge) : counted (first ++ second) = counted first ++ counted second :=
  List.filter_append ..

variable {outline scope}

theorem Attains.nest {node : Node} {above : List Node} {enclosing : List Site} {way : List Node} {body : Cost}
    {paid : List Charge} (weight_eq : weight paid = body.key) (loops_eq : body.loops = (counted paid).map Charge.site)
    (charged : charges outline scope above enclosing (node :: way) =
      chargeAt outline scope { node, above } enclosing ++ paid) :
    Attains outline scope above enclosing (node :: way)
      (Cost.nest { node, above } (factorAt outline scope { node, above } enclosing) body) := by
  refine ⟨?_, ?_⟩
  · rw [charged, weight_append, weight_chargeAt, weight_eq, nest_key]
  · rw [charged, counted_append, List.map_append, counted_chargeAt, ← loops_eq, Cost.nest]
    split <;> rfl

-- Free, or what some way through the node costs.
def Attained (outline : Outline) (scope : Scope) (above : List Node) (enclosing : List Site) (node : Node)
    (cost : Cost) : Prop :=
  cost = {} ∨ (node.isFunction = false ∧
    ∃ way, IsWay node way ∧ Attains outline scope above enclosing (node :: way) cost)

section Step

variable {node child : Node} {above : List Node} {enclosing : List Site} {cost : Cost}

-- A way that goes on through a part evaluated once is not charged for the node.
theorem attained_once (opened : node.isFunction = false) (member : child ∈ node.children)
    (outside : node.runsPerIteration child = false)
    (below : Attained outline scope (node :: above) enclosing child cost) :
    Attained outline scope above enclosing node cost := by
  rcases below with free | ⟨childOpened, way, isWay, attains⟩
  · exact .inl free
  · refine .inr ⟨opened, child :: way, ⟨member, childOpened, isWay⟩, ?_, ?_⟩
    · rw [charges, outside, if_neg Bool.false_ne_true, attains.weight_eq]
    · rw [charges, outside, if_neg Bool.false_ne_true, attains.loops_eq]

theorem attained_end (opened : node.isFunction = false) :
    Attained outline scope above enclosing node
      (Cost.nest { node, above } (factorAt outline scope { node, above } enclosing) {}) :=
  .inr ⟨opened, [], trivial, Attains.nest rfl rfl (List.append_nil _).symm⟩

theorem attained_nest (opened : node.isFunction = false) (member : child ∈ node.children)
    (inside : node.runsPerIteration child = true)
    (below : Attained outline scope (node :: above) ({ node, above } :: enclosing) child cost) :
    Attained outline scope above enclosing node
      (Cost.nest { node, above } (factorAt outline scope { node, above } enclosing) cost) := by
  rcases below with free | ⟨childOpened, way, isWay, attains⟩
  · rw [free]
    exact attained_end opened
  · refine .inr ⟨opened, child :: way, ⟨member, childOpened, isWay⟩, ?_⟩
    refine Attains.nest attains.weight_eq attains.loops_eq ?_
    rw [charges, if_pos inside]

end Step

theorem ofNode_attained (outline : Outline) (scope : Scope) (above : List Node) (enclosing : List Site) (node : Node) :
    Attained outline scope above enclosing node (ofNode outline scope above enclosing node) := by
  induction node using Node.nested_induction generalizing above enclosing with
  | step node ih =>
    have below : ∀ child ∈ node.children, Attained outline scope (node :: above)
        (if node.runsPerIteration child then { node, above } :: enclosing else enclosing) child
        (childCost outline scope { node, above } enclosing child) := by
      intro child member
      exact ih child member _ _
    rw [ofNode_eq]
    cases opened : node.isFunction with
    | true => exact .inl rfl
    | false =>
      rw [if_neg Bool.false_ne_true]
      rcases dearest_origin _ with free | found
      · exact .inl free
      · rcases List.mem_append.mp found with once | nested
        · obtain ⟨child, filtered, same⟩ := List.mem_map.mp once
          obtain ⟨member, outside⟩ := List.mem_filter.mp filtered
          rw [Bool.not_eq_true'] at outside
          have ofChild := below child member
          rw [outside, if_neg Bool.false_ne_true] at ofChild
          rw [← same]
          exact attained_once opened member outside ofChild
        · rw [List.mem_singleton.mp nested]
          rcases dearest_origin ((node.children.filter (node.runsPerIteration ·)).map
              (childCost outline scope { node, above } enclosing)) with free | found
          · rw [free]
            exact attained_end opened
          · obtain ⟨child, filtered, same⟩ := List.mem_map.mp found
            obtain ⟨member, inside⟩ := List.mem_filter.mp filtered
            have ofChild := below child member
            rw [if_pos inside] at ofChild
            rw [← same]
            exact attained_nest opened member inside ofChild

end Walk

def scopeCharges (outline : Outline) (scope : Scope) (way : List Node) : List Charge :=
  charges outline scope (scope.root.node :: scope.root.above) [] way

-- The cost of a scope is the greatest sum over all ways down from its root, and its loops are what one such way
-- is charged for, as far as it adds anything.
structure IsDearest (outline : Outline) (scope : Scope) (cost : Cost) : Prop where
  greatest : IsGreatest { total | ∃ way, IsWay scope.root.node way ∧ total = weight (scopeCharges outline scope way) }
    (toLex (cost.degree, cost.logs))
  loops : ∃ way, IsWay scope.root.node way ∧
    weight (scopeCharges outline scope way) = toLex (cost.degree, cost.logs) ∧
    cost.loops.map Site.id = (counted (scopeCharges outline scope way)).map (·.site.id) ∧
    weight (counted (scopeCharges outline scope way)) = toLex (cost.degree, cost.logs)
  free : cost.loops = [] ↔ (cost.degree, cost.logs) = (0, 0)

theorem ofScope_attained (outline : Outline) (scope : Scope) :
    ∃ way, IsWay scope.root.node way ∧
      Attains outline scope (scope.root.node :: scope.root.above) [] way (ofScope outline scope) := by
  unfold ofScope
  rcases dearest_origin (scope.root.node.children.map
      (ofNode outline scope (scope.root.node :: scope.root.above) [])) with free | found
  · rw [free]
    exact ⟨[], trivial, rfl, rfl⟩
  · obtain ⟨child, member, same⟩ := List.mem_map.mp found
    rw [← same]
    rcases ofNode_attained outline scope _ [] child with free | ⟨opened, way, isWay, attains⟩
    · rw [free]
      exact ⟨[], trivial, rfl, rfl⟩
    · exact ⟨child :: way, ⟨member, opened, isWay⟩, attains⟩

theorem ofScope_free (outline : Outline) (scope : Scope) :
    (ofScope outline scope).loops = [] ↔ (ofScope outline scope).degree = 0 ∧ (ofScope outline scope).logs = 0 := by
  obtain ⟨way, isWay, attains⟩ := ofScope_attained outline scope
  rw [attains.loops_eq, List.map_eq_nil_iff, counted_eq_nil_iff, attains.weight_eq]
  exact Prod.ext_iff

theorem weight_le_ofScope {outline : Outline} {scope : Scope} {way : List Node}
    (isWay : IsWay scope.root.node way) :
    weight (scopeCharges outline scope way) ≤ (ofScope outline scope).key := by
  cases way with
  | nil => exact zero_le_key _
  | cons child way =>
    obtain ⟨member, opened, onward⟩ := isWay
    exact (weight_charges_le outline scope _ [] opened onward).trans
      (key_le_dearest (List.mem_map_of_mem member))

theorem ofScope_isDearest (outline : Outline) (scope : Scope) :
    IsDearest outline scope (ofScope outline scope) := by
  obtain ⟨way, isWay, attains⟩ := ofScope_attained outline scope
  refine ⟨⟨⟨way, isWay, attains.weight_eq.symm⟩, ?_⟩, ⟨way, isWay, attains.weight_eq, ?_, ?_⟩, ?_⟩
  · rintro total ⟨other, otherWay, rfl⟩
    exact weight_le_ofScope otherWay
  · rw [attains.loops_eq, List.map_map]
    rfl
  · exact (weight_counted _).trans attains.weight_eq
  · exact (ofScope_free outline scope).trans Prod.mk_inj.symm

def loopNode (id levels once : Nat) (children : List Node) : Node :=
  .mk { id, span := default, grammarType := "",
        info := .loop { kind := .comprehension, levels, onceCount := once } } children

-- A loop that evaluates one loop once and then, per iteration, maps a closure over what a loop of five levels gives.
def mappingLoop : Node :=
  loopNode 1 1 1
    [loopNode 2 1 0 [],
     .mk { id := 3, span := default, grammarType := "", info := .collectionOp { iterates := true } }
       [loopNode 4 5 0 [],
        .mk { id := 5, span := default, grammarType := "", info := .closure [] } [loopNode 6 1 0 []]]]

def mappingOutline : Outline :=
  { language := "", source := { bytes := [] }
    root := .mk { id := 0, span := default, grammarType := "", info := .unit } [mappingLoop]
    numbered := by decide }

theorem mappingOutline_isDearest :
    mappingOutline.unitScope ∈ mappingOutline.scopes ∧
      (ofScope mappingOutline mappingOutline.unitScope).degree = 6 ∧
      (ofScope mappingOutline mappingOutline.unitScope).loops.map Site.id = [1, 4] ∧
      IsDearest mappingOutline mappingOutline.unitScope (ofScope mappingOutline mappingOutline.unitScope) :=
  ⟨List.mem_cons_self, by decide, by decide, ofScope_isDearest _ _⟩

end Cost
end Perflint
