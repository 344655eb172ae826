import Mathlib

namespace Perflint

theorem bind_eq_ok {α β ε : Type} {first : Except ε α} {next : α → Except ε β} {result : β} :
    first >>= next = .ok result ↔ ∃ value, first = .ok value ∧ next value = .ok result := by
  cases first <;> simp [bind, Except.bind]

theorem bind_eq_error {α β ε : Type} {first : Except ε α} {next : α → Except ε β} {fault : ε} :
    first >>= next = .error fault ↔ first = .error fault ∨ ∃ value, first = .ok value ∧ next value = .error fault := by
  cases first <;> simp [bind, Except.bind]

theorem mapError_eq_ok {α ε ε' : Type} {first : Except ε α} {rename : ε → ε'} {result : α} :
    first.mapError rename = .ok result ↔ first = .ok result := by
  cases first <;> simp [Except.mapError]

theorem eq_ok_get {α ε : Type} {first : Except ε α} (isSome : first.toOption.isSome = true) :
    first = .ok (first.toOption.get isSome) := by
  cases first with
  | error fault => cases isSome
  | ok value => rfl

-- A traversal succeeds when it succeeds at every element, and then element by element.
theorem mapM_eq_ok {α β ε : Type} {f : α → Except ε β} {inputs : List α} {results : List β} :
    inputs.mapM f = .ok results ↔ List.Forall₂ (fun input result => f input = .ok result) inputs results := by
  induction inputs generalizing results with
  | nil =>
    rw [List.mapM_nil, List.forall₂_nil_left_iff]
    constructor
    · intro done
      cases done
      rfl
    · rintro rfl
      rfl
  | cons input inputs ih =>
    rw [List.mapM_cons, bind_eq_ok, List.forall₂_cons_left_iff]
    simp only [bind_eq_ok, ih]
    constructor
    · rintro ⟨value, here, values, rest, same⟩
      cases same
      exact ⟨value, values, here, rest, rfl⟩
    · rintro ⟨value, values, here, rest, rfl⟩
      exact ⟨value, here, values, rest, rfl⟩

theorem mapM_eq_error {α β ε : Type} {f : α → Except ε β} {inputs : List α} {fault : ε}
    (failed : inputs.mapM f = .error fault) : ∃ input ∈ inputs, f input = .error fault := by
  induction inputs with
  | nil => cases failed
  | cons input inputs ih =>
    rw [List.mapM_cons, bind_eq_error] at failed
    rcases failed with here | ⟨value, here, rest⟩
    · exact ⟨input, List.mem_cons_self, here⟩
    · rcases bind_eq_error.mp rest with later | ⟨values, _, impossible⟩
      · obtain ⟨other, member, wrong⟩ := ih later
        exact ⟨other, List.mem_cons_of_mem _ member, wrong⟩
      · cases impossible

section Threads

-- A list gone through element by element, each step going on from the state that the one before has left.
inductive Threaded {α β σ : Type} (step : α → σ → β → σ → Prop) : List α → σ → List β → σ → Prop
  | nil (state : σ) : Threaded step [] state [] state
  | cons {input : α} {inputs : List α} {result : β} {results : List β} {first middle last : σ}
      (here : step input first result middle) (rest : Threaded step inputs middle results last) :
      Threaded step (input :: inputs) first (result :: results) last

theorem Threaded.each {α β σ : Type} {step : α → σ → β → σ → Prop} {inputs : List α} {results : List β}
    {first last : σ} (all : Threaded step inputs first results last) :
    List.Forall₂ (fun input result => ∃ before after, step input before result after) inputs results := by
  induction all with
  | nil => exact .nil
  | cons here _ ih => exact .cons ⟨_, _, here⟩ ih

variable {α β σ ε : Type}

theorem run_bind_eq_ok {first : StateT σ (Except ε) α} {next : α → StateT σ (Except ε) β} {before after : σ}
    {result : β} : (first >>= next).run before = .ok (result, after) ↔
      ∃ value between, first.run before = .ok (value, between) ∧ (next value).run between = .ok (result, after) := by
  rw [StateT.run_bind, bind_eq_ok, Prod.exists]

theorem run_lift_bind (plain : Except ε α) (next : α → StateT σ (Except ε) β) (before : σ) :
    ((liftM plain : StateT σ (Except ε) α) >>= next).run before = plain >>= fun value => (next value).run before := by
  cases plain <;> rfl

theorem run_mapM_eq_ok {f : α → StateT σ (Except ε) β} {inputs : List α} {results : List β} {before after : σ} :
    (inputs.mapM f).run before = .ok (results, after) ↔
      Threaded (fun input first result last => (f input).run first = .ok (result, last)) inputs before results after := by
  induction inputs generalizing results before after with
  | nil =>
    rw [List.mapM_nil]
    constructor
    · intro done
      cases done
      exact .nil _
    · intro done
      cases done
      rfl
  | cons input inputs ih =>
    rw [List.mapM_cons, run_bind_eq_ok]
    simp only [run_bind_eq_ok, ih]
    constructor
    · rintro ⟨value, between, here, values, _, rest, same⟩
      cases same
      exact .cons here rest
    · intro done
      cases done with
      | cons here rest => exact ⟨_, _, here, _, _, rest, rfl⟩

end Threads

theorem mapM_read {α β γ : Type} {write : α → β} {read : β → Option γ} {told : α → γ}
    (reads : ∀ a, read (write a) = some (told a)) (list : List α) :
    (list.map write).mapM read = some (list.map told) := by
  have same : read ∘ write = fun a => some (told a) := funext reads
  rw [List.mapM_map, same]
  exact List.mapM_pure

-- Two lists related element by element, as one list of related pairs.
theorem forall₂_pairs {α β : Type} {related : α → β → Prop} {first : List α} {second : List β}
    (all : List.Forall₂ related first second) :
    ∃ pairs : List (α × β), pairs.map Prod.fst = first ∧ pairs.map Prod.snd = second ∧
      ∀ pair ∈ pairs, related pair.1 pair.2 := by
  induction all with
  | nil => exact ⟨[], rfl, rfl, by simp⟩
  | @cons a b _ _ here _ ih =>
    obtain ⟨pairs, firsts, seconds, rest⟩ := ih
    refine ⟨(a, b) :: pairs, by rw [List.map_cons, firsts], by rw [List.map_cons, seconds], ?_⟩
    intro pair member
    rcases List.mem_cons.mp member with rfl | later
    · exact here
    · exact rest pair later

theorem exists_of_mem_flatten {α β : Type} {related : α → List β → Prop} {inputs : List α} {parts : List (List β)}
    {element : β} (all : List.Forall₂ related inputs parts) (member : element ∈ parts.flatten) :
    ∃ input ∈ inputs, ∃ part, related input part ∧ element ∈ part := by
  obtain ⟨part, isPart, inside⟩ := List.mem_flatten.mp member
  obtain ⟨pairs, rfl, rfl, each⟩ := forall₂_pairs all
  obtain ⟨pair, isPair, rfl⟩ := List.mem_map.mp isPart
  exact ⟨pair.1, List.mem_map_of_mem isPair, pair.2, each pair isPair, inside⟩

theorem exists_of_forall₂ {α β : Type} {related : α → β → Prop} {first : List α} {second : List β} {element : α}
    (all : List.Forall₂ related first second) (member : element ∈ first) : ∃ other ∈ second, related element other := by
  obtain ⟨pairs, rfl, rfl, each⟩ := forall₂_pairs all
  obtain ⟨pair, isPair, rfl⟩ := List.mem_map.mp member
  exact ⟨pair.2, List.mem_map_of_mem isPair, each pair isPair⟩

theorem exists_forall₂ {α β : Type} {related : α → β → Prop} {list : List α}
    (each : ∀ element ∈ list, ∃ other, related element other) : ∃ others, List.Forall₂ related list others := by
  induction list with
  | nil => exact ⟨[], .nil⟩
  | cons element list ih =>
    obtain ⟨other, here⟩ := each element List.mem_cons_self
    obtain ⟨others, rest⟩ := ih fun element member => each element (List.mem_cons_of_mem _ member)
    exact ⟨other :: others, .cons here rest⟩

-- A sort that orders related elements alike keeps them side by side.
theorem forall₂_mergeSort {α β : Type} {related : α → β → Prop} {first : List α} {second : List β}
    {le : α → α → Bool} {le' : β → β → Bool} (all : List.Forall₂ related first second)
    (agree : ∀ a a' b b', related a a' → related b b' → le' a' b' = le a b) :
    List.Forall₂ related (first.mergeSort le) (second.mergeSort le') := by
  obtain ⟨pairs, rfl, rfl, each⟩ := forall₂_pairs all
  have firsts : (pairs.mergeSort fun p q => le p.1 q.1).map Prod.fst = (pairs.map Prod.fst).mergeSort le :=
    List.map_mergeSort fun _ _ _ _ => rfl
  have seconds : (pairs.mergeSort fun p q => le p.1 q.1).map Prod.snd = (pairs.map Prod.snd).mergeSort le' :=
    List.map_mergeSort fun p isPair q isOther => (agree _ _ _ _ (each p isPair) (each q isOther)).symm
  rw [← firsts, ← seconds, List.forall₂_map_left_iff, List.forall₂_map_right_iff, List.forall₂_same]
  intro pair member
  exact each pair (List.mem_mergeSort.mp member)

theorem forall₂_find? {α β : Type} {related : α → β → Prop} {first : List α} {second : List β} {wanted : α → Bool}
    {wanted' : β → Bool} (all : List.Forall₂ related first second) (agree : ∀ a b, related a b → wanted' b = wanted a) :
    Option.Rel related (first.find? wanted) (second.find? wanted') := by
  induction all with
  | nil => exact .none
  | cons here _ ih =>
    rw [List.find?_cons, List.find?_cons, agree _ _ here]
    split
    · exact .some here
    · exact ih

theorem forall₂_getElem? {α β : Type} {related : α → β → Prop} {first : List α} {second : List β} {i : Nat} {a : α} {b : β}
    (all : List.Forall₂ related first second) (here : first[i]? = some a) (there : second[i]? = some b) :
    related a b := by
  obtain ⟨inFirst, rfl⟩ := List.getElem?_eq_some_iff.mp here
  obtain ⟨inSecond, rfl⟩ := List.getElem?_eq_some_iff.mp there
  exact all.get inFirst inSecond

theorem forall₂_imp_mem {α β : Type} {related related' : α → β → Prop} {first : List α} {second : List β}
    (all : List.Forall₂ related first second) (each : ∀ a ∈ first, ∀ b, related a b → related' a b) :
    List.Forall₂ related' first second := by
  induction all with
  | nil => exact .nil
  | cons here _ ih =>
    exact .cons (each _ List.mem_cons_self _ here) (ih fun a member => each a (List.mem_cons_of_mem _ member))

theorem eq_of_forall₂ {α : Type} {first second : List α} (all : List.Forall₂ (· = ·) first second) : first = second := by
  rwa [List.forall₂_eq_eq_eq] at all

theorem rel_of_eq {α : Type} {first second : Option α} (same : first = second) : Option.Rel (· = ·) first second := by
  subst same
  cases first with
  | none => exact .none
  | some element => exact .some rfl

theorem forall₂_all_eq {α β : Type} {related : α → β → Prop} {first : List α} {second : List β} {f : α → Bool} {h : β → Bool}
    (all : List.Forall₂ related first second) (same : ∀ a b, related a b → h b = f a) : second.all h = first.all f := by
  induction all with
  | nil => rfl
  | cons here _ ih => rw [List.all_cons, List.all_cons, same _ _ here, ih]

theorem forall₂_filter {α β : Type} {related : α → β → Prop} {first : List α} {second : List β} {keep : α → Bool}
    {keep' : β → Bool} (all : List.Forall₂ related first second) (same : ∀ a b, related a b → keep' b = keep a) :
    List.Forall₂ (fun a b => related a b ∧ keep a = true) (first.filter keep) (second.filter keep') := by
  induction all with
  | nil => exact .nil
  | cons here _ ih =>
    rw [List.filter_cons, List.filter_cons, same _ _ here]
    split
    · rename_i kept
      exact .cons ⟨here, kept⟩ ih
    · exact ih

-- What each input gives is, up to order, what it stands for; so is what all of them give.
theorem flatten_flatMap_perm {α β γ : Type} {inputs : List α} {parts : List (List β)} {gives : α → List β → Prop}
    {f : β → List γ} {meaning : α → List γ} (all : List.Forall₂ gives inputs parts)
    (each : ∀ input ∈ inputs, ∀ part, gives input part → (part.flatMap f).Perm (meaning input)) :
    (parts.flatten.flatMap f).Perm (inputs.flatMap meaning) := by
  induction all with
  | nil => exact .nil
  | @cons input part inputs parts here _ ih =>
    rw [List.flatten_cons, List.flatMap_append, List.flatMap_cons]
    refine List.Perm.append (each input List.mem_cons_self part here) (ih fun other member => ?_)
    exact each other (List.mem_cons_of_mem _ member)

theorem filterMap_map_some {α β : Type} (f : α → Option β) (list : List α) :
    (list.filterMap f).map some = (list.filter fun element => (f element).isSome).map f := by
  induction list with
  | nil => rfl
  | cons element rest ih => cases found : f element <;> simp [found, ih]

-- Lists whose images are the same up to order pair off.
theorem perm_map_pairs {α β γ : Type} {f : α → γ} {h : β → γ} {first : List α} {second : List β}
    (same : (first.map f).Perm (second.map h)) :
    ∃ pairs : List (α × β), pairs.map Prod.fst = first ∧ (pairs.map Prod.snd).Perm second ∧
      ∀ pair ∈ pairs, f pair.1 = h pair.2 := by
  induction first generalizing second with
  | nil =>
    rw [List.map_nil, List.nil_perm, List.map_eq_nil_iff] at same
    cases same
    exact ⟨[], rfl, .nil, by simp⟩
  | cons a first ih =>
    have inSecond : f a ∈ second.map h := same.subset List.mem_cons_self
    obtain ⟨b, isSecond, agree⟩ := List.mem_map.mp inSecond
    obtain ⟨before, after, rfl⟩ := List.append_of_mem isSecond
    rw [List.map_cons, List.map_append, List.map_cons, agree] at same
    have rest := (same.trans List.perm_middle).cons_inv
    rw [← List.map_append] at rest
    obtain ⟨pairs, firsts, seconds, all⟩ := ih rest
    refine ⟨(a, b) :: pairs, by rw [List.map_cons, firsts], ?_, ?_⟩
    · rw [List.map_cons]
      exact (seconds.cons b).trans List.perm_middle.symm
    · intro pair member
      rcases List.mem_cons.mp member with rfl | later
      · exact agree.symm
      · exact all pair later

theorem eraseDups_nodup {α : Type} [BEq α] [LawfulBEq α] (list : List α) : list.eraseDups.Nodup := by
  induction size : list.length using Nat.strong_induction_on generalizing list with
  | h size ih =>
    cases list with
    | nil => exact List.nodup_nil
    | cons first rest =>
      rw [List.eraseDups_cons, List.nodup_cons]
      refine ⟨?_, ih _ ?_ _ rfl⟩
      · rw [List.mem_eraseDups]
        simp
      · rw [← size]
        exact Nat.lt_succ_of_le (List.length_filter_le _ _)

theorem eraseDups_append_singleton {α : Type} [BEq α] [LawfulBEq α] (list : List α) (last : α) :
    (list ++ [last]).eraseDups = if list.contains last then list.eraseDups else list.eraseDups ++ [last] := by
  rw [List.eraseDups_append]
  by_cases seen : last ∈ list
  · simp [List.removeAll, seen]
  · simp [List.removeAll, List.eraseDups_cons, seen]

theorem sublist_flatMap_self {α : Type} {f : α → List α} (self : ∀ element, element ∈ f element) (list : List α) :
    list.Sublist (list.flatMap f) := by
  induction list with
  | nil => exact .slnil
  | cons element rest ih => exact (List.singleton_sublist.mpr (self element)).append ih

theorem flatMap_filter {α β : Type} (keep : α → Bool) (f : α → List β) (list : List α) :
    (list.filter keep).flatMap f = list.flatMap fun element => if keep element then f element else [] := by
  induction list with
  | nil => rfl
  | cons element rest ih => cases kept : keep element <;> simp [kept, ih]

-- Where every image carries the key of its origin, to choose among the images is to choose among the origins.
theorem filter_flatMap_key {α β κ : Type} (key : α → κ) (carried : β → κ) {f : α → List β}
    (carries : ∀ element, ∀ image ∈ f element, carried image = key element) (chosen : κ → Bool) (list : List α) :
    ((list.flatMap f).filter fun image => chosen (carried image)) =
      (list.filter fun element => chosen (key element)).flatMap f := by
  rw [List.filter_flatMap, flatMap_filter]
  refine List.flatMap_congr fun element _ => ?_
  cases kept : chosen (key element) with
  | true =>
    rw [if_pos rfl, List.filter_eq_self]
    intro image member
    rw [carries element image member, kept]
  | false =>
    rw [if_neg Bool.false_ne_true, List.filter_eq_nil_iff]
    intro image member
    rw [carries element image member, kept]
    exact Bool.false_ne_true

-- Taking a list apart by a key, with every key asked once, keeps each element exactly as often as it stood there.
theorem flatMap_filter_perm {α κ : Type} [BEq κ] [LawfulBEq κ] (key : α → κ) {keys : List κ} (distinct : keys.Nodup)
    {list : List α} (covered : ∀ element ∈ list, key element ∈ keys) :
    (keys.flatMap fun wanted => list.filter fun element => key element == wanted).Perm list := by
  induction keys generalizing list with
  | nil =>
    cases list with
    | nil => exact .nil
    | cons element rest => cases covered element List.mem_cons_self
  | cons first keys ih =>
    obtain ⟨fresh, distinct⟩ := List.nodup_cons.mp distinct
    rw [List.flatMap_cons]
    refine List.Perm.trans (List.Perm.append_left _ ?_)
      (List.filter_append_perm (fun element => key element == first) list)
    have others : ∀ element ∈ list.filter (fun element => !(key element == first)), key element ∈ keys := by
      intro element member
      obtain ⟨inside, apart⟩ := List.mem_filter.mp member
      refine (List.mem_cons.mp (covered element inside)).resolve_left ?_
      simpa using apart
    refine List.Perm.trans (List.Perm.of_eq ?_) (ih distinct others)
    refine List.flatMap_congr fun wanted member => ?_
    rw [List.filter_filter]
    refine List.filter_congr fun element _ => ?_
    have differs : wanted ≠ first := fun same => fresh (same ▸ member)
    by_cases same : key element = wanted <;> simp [same, differs]

-- Elements that are told apart by a key are found again by their keys.
theorem filter_key_eq {α κ : Type} [BEq κ] [LawfulBEq κ] (key : α → κ) {chosen list : List α}
    (some : chosen.Sublist list) (distinct : (list.map key).Nodup) :
    (list.filter fun element => (chosen.map key).contains (key element)) = chosen := by
  induction some with
  | slnil => rfl
  | @cons chosen list element sub ih =>
    rw [List.map_cons, List.nodup_cons] at distinct
    have outside : key element ∉ chosen.map key := fun inside => distinct.1 ((sub.map _).subset inside)
    rw [List.filter_cons_of_neg (by simpa using outside)]
    exact ih distinct.2
  | @cons_cons chosen list element sub ih =>
    rw [List.map_cons, List.nodup_cons] at distinct
    rw [List.filter_cons_of_pos (by simp)]
    congr 1
    refine Eq.trans (List.filter_congr fun other member => ?_) (ih distinct.2)
    have differ : key other ≠ key element := fun same => distinct.1 (same ▸ List.mem_map_of_mem member)
    simp [differ]

theorem find?_key {α κ : Type} [BEq κ] [LawfulBEq κ] (key : α → κ) {list : List α} {element : α}
    (distinct : (list.map key).Nodup) (member : element ∈ list) :
    list.find? (fun other => key other == key element) = some element := by
  cases found : list.find? fun other => key other == key element with
  | none => exact absurd (beq_self_eq_true (key element)) (List.find?_eq_none.mp found element member)
  | some other =>
    have same : key other = key element := by simpa using List.find?_some found
    rw [List.inj_on_of_nodup_map distinct (List.mem_of_find?_eq_some found) member same]

theorem lookup_key {α β κ : Type} [BEq κ] [LawfulBEq κ] (key : α → κ) (value : α → β) {list : List α} {element : α}
    (distinct : (list.map key).Nodup) (member : element ∈ list) :
    (list.map fun other => (key other, value other)).lookup (key element) = some (value element) := by
  induction list with
  | nil => cases member
  | cons first rest ih =>
    rw [List.map_cons, List.nodup_cons] at distinct
    rw [List.map_cons, List.lookup_cons]
    rcases List.mem_cons.mp member with rfl | later
    · rw [beq_self_eq_true]
    · have differ : key element ≠ key first := fun same => distinct.1 (same ▸ List.mem_map_of_mem later)
      rw [beq_false_of_ne differ]
      exact ih distinct.2 later

theorem split_key_apart {α κ : Type} (key : α → κ) {list : List α} {element : α} (distinct : (list.map key).Nodup)
    (member : element ∈ list) :
    ∃ before after, list = before ++ element :: after ∧ ∀ other ∈ before ++ after, key other ≠ key element := by
  obtain ⟨before, after, rfl⟩ := List.append_of_mem member
  refine ⟨before, after, rfl, ?_⟩
  rw [List.map_append, List.map_cons, List.nodup_middle, ← List.map_append, List.nodup_cons] at distinct
  intro other isOther same
  exact distinct.1 (same ▸ List.mem_map_of_mem isOther)

section Sorting

variable {α : Type} {le : α → α → Bool} (trans : ∀ a b c, le a b = true → le b c = true → le a c = true)
  (total : ∀ a b, (le a b || le b a) = true)

include trans total

-- The sort is stable: an element comes right before all that it may precede.
theorem mergeSort_cons_split (element : α) (list : List α) :
    ∃ before after, (element :: list).mergeSort le = before ++ element :: after ∧ list.mergeSort le = before ++ after ∧
      before = (list.mergeSort le).filter (fun other => !le element other) ∧
      after = (list.mergeSort le).filter (fun other => le element other) := by
  obtain ⟨before, after, whole, rest, smaller⟩ := List.mergeSort_cons trans total element list
  have sorted := List.pairwise_mergeSort trans total (element :: list)
  rw [whole, List.pairwise_append, List.pairwise_cons] at sorted
  have greater := sorted.2.1.1
  refine ⟨before, after, whole, rest, ?_, ?_⟩
  · have none : after.filter (fun other => !le element other) = [] := by
      rw [List.filter_eq_nil_iff]
      intro other member
      simpa using greater other member
    rw [rest, List.filter_append, none, List.append_nil, List.filter_eq_self.mpr smaller]
  · have none : before.filter (fun other => le element other) = [] := by
      rw [List.filter_eq_nil_iff]
      intro other member
      simpa using smaller other member
    rw [rest, List.filter_append, none, List.nil_append, List.filter_eq_self.mpr greater]

theorem filter_mergeSort (keep : α → Bool) (list : List α) :
    (list.mergeSort le).filter keep = (list.filter keep).mergeSort le := by
  induction list with
  | nil => simp
  | cons element list ih =>
    obtain ⟨before, after, whole, rest, isBefore, isAfter⟩ := mergeSort_cons_split trans total element list
    cases kept : keep element with
    | false =>
      rw [List.filter_cons_of_neg (by simp [kept]), ← ih, whole, rest, List.filter_append, List.filter_append,
        List.filter_cons_of_neg (by simp [kept])]
    | true =>
      obtain ⟨before', after', whole', _, isBefore', isAfter'⟩ :=
        mergeSort_cons_split trans total element (list.filter keep)
      have swap : ∀ side : α → Bool, ((list.mergeSort le).filter side).filter keep =
          ((list.filter keep).mergeSort le).filter side := by
        intro side
        rw [← ih, List.filter_filter, List.filter_filter]
        exact List.filter_congr fun other _ => Bool.and_comm _ _
      rw [List.filter_cons_of_pos kept, whole', whole, List.filter_append, List.filter_cons_of_pos kept, isBefore,
        isAfter, isBefore', isAfter', swap, swap]

theorem mergeSort_sublist {some list : List α} (part : some.Sublist list) :
    (some.mergeSort le).Sublist (list.mergeSort le) := by
  induction part with
  | slnil => exact List.Sublist.refl _
  | @cons some list element _ ih =>
    obtain ⟨before, after, whole, rest, _⟩ := mergeSort_cons_split trans total element list
    rw [whole]
    exact ih.trans (rest ▸ (List.Sublist.refl before).append (List.sublist_cons_self element after))
  | @cons_cons some list element _ ih =>
    obtain ⟨before, after, whole, _, isBefore, isAfter⟩ := mergeSort_cons_split trans total element some
    obtain ⟨before', after', whole', _, isBefore', isAfter'⟩ := mergeSort_cons_split trans total element list
    rw [whole, whole', isBefore, isAfter, isBefore', isAfter']
    exact (ih.filter _).append ((ih.filter _).cons_cons element)

end Sorting

end Perflint
