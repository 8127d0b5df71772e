import EntityGraph.Error

/-!
# Results

When a step that may fail succeeds, so did the steps that it is made of.
-/
namespace EntityGraph.Result

variable {α β γ : Type}

theorem bind_eq_ok_iff {x : Result α} {f : α → Result β} {b : β} :
    (x >>= f) = .ok b ↔ ∃ a, x = .ok a ∧ f a = .ok b := by
  cases x with
  | error e =>
    constructor
    · intro h
      cases h
    · rintro ⟨a, h, -⟩
      cases h
  | ok a =>
    constructor
    · intro h
      exact ⟨a, rfl, h⟩
    · rintro ⟨a', h, hf⟩
      cases h
      exact hf

theorem ok_bind (a : α) (f : α → Result β) : (Except.ok a >>= f) = f a := rfl

/-- Two alternatives with the same continuation. -/
theorem ite_bind {p : Prop} [Decidable p] (x y : Result α) (f : α → Result β) :
    (if p then x >>= f else y >>= f) = (if p then x else y) >>= f := by
  split <;> rfl

theorem ite_bind_eq_ok_iff {p : Prop} [Decidable p] {x y : Result α} {f : α → Result β} {b : β} :
    (if p then x >>= f else y >>= f) = .ok b ↔ ∃ a, (if p then x else y) = .ok a ∧ f a = .ok b := by
  rw [ite_bind, bind_eq_ok_iff]

theorem ite_refuse_eq_ok_iff {p : Prop} [Decidable p] {cause : ArgumentError} {x : Result α} {a : α} :
    (if p then refuse cause else x) = .ok a ↔ ¬p ∧ x = .ok a := by
  by_cases h : p <;> simp [h, refuse]

/-- What follows a check is reached if the check finds nothing to refuse. -/
theorem unless_refused_eq_ok_iff {p : Prop} [Decidable p] {cause : ArgumentError} {f : β → Result α} {x : Result α}
    {a : α} : (if p then refuse cause >>= f else x) = .ok a ↔ ¬p ∧ x = .ok a :=
  ite_refuse_eq_ok_iff

theorem map_eq_ok_iff {x : Result α} {f : α → β} {b : β} :
    Except.map f x = .ok b ↔ ∃ a, x = .ok a ∧ f a = b := by
  cases x with
  | error e => simp [Except.map]
  | ok a => simp [Except.map]

/-- Checks of all items succeed together. -/
theorem forM_eq_ok_iff {items : List α} {check : α → Result Unit} :
    items.forM check = .ok () ↔ ∀ a ∈ items, check a = .ok () := by
  induction items with
  | nil => exact iff_of_true rfl (by simp)
  | cons a rest ih =>
    rw [List.forM_eq_forM, List.forM_cons, bind_eq_ok_iff, List.forall_mem_cons, ← ih]
    constructor
    · rintro ⟨_, ha, hrest⟩
      exact ⟨ha, hrest⟩
    · rintro ⟨ha, hrest⟩
      exact ⟨(), ha, hrest⟩

/-- A step for each item succeeds if it does for the first item and for the others. -/
theorem mapM_cons_eq_ok_iff {f : α → Result β} {a : α} {rest : List α} {bs : List β} :
    (a :: rest).mapM f = .ok bs ↔ ∃ b bs', f a = .ok b ∧ rest.mapM f = .ok bs' ∧ bs = b :: bs' := by
  rw [List.mapM_cons, bind_eq_ok_iff]
  constructor
  · rintro ⟨b, hb, hrest⟩
    obtain ⟨bs', hbs', heq⟩ := bind_eq_ok_iff.1 hrest
    cases heq
    exact ⟨b, bs', hb, hbs', rfl⟩
  · rintro ⟨b, bs', hb, hbs', rfl⟩
    exact ⟨b, hb, bind_eq_ok_iff.2 ⟨bs', hbs', rfl⟩⟩

theorem mapM_append_eq_ok_iff {f : α → Result β} {items items' : List α} {bs : List β} :
    (items ++ items').mapM f = .ok bs ↔
      ∃ cs cs', items.mapM f = .ok cs ∧ items'.mapM f = .ok cs' ∧ bs = cs ++ cs' := by
  rw [List.mapM_append, bind_eq_ok_iff]
  constructor
  · rintro ⟨cs, hcs, hrest⟩
    obtain ⟨cs', hcs', heq⟩ := bind_eq_ok_iff.1 hrest
    cases heq
    exact ⟨cs, cs', hcs, hcs', rfl⟩
  · rintro ⟨cs, cs', hcs, hcs', rfl⟩
    exact ⟨cs, hcs, bind_eq_ok_iff.2 ⟨cs', hcs', rfl⟩⟩

theorem mapM_map_of_eq_ok {f : α → Result β} {items : List α} {bs : List β} (h : items.mapM f = .ok bs)
    (g : β → γ) : items.mapM (fun a => (f a).map g) = .ok (bs.map g) := by
  induction items generalizing bs with
  | nil =>
    cases h
    rfl
  | cons a rest ih =>
    obtain ⟨b, bs', hb, hbs', rfl⟩ := mapM_cons_eq_ok_iff.1 h
    exact mapM_cons_eq_ok_iff.2 ⟨g b, bs'.map g, map_eq_ok_iff.2 ⟨b, hb, rfl⟩, ih hbs', rfl⟩

/-- Steps that all succeed, one for each item. -/
theorem mapM_eq_ok_map {f : α → Result β} {g : α → β} {items : List α} (h : ∀ a ∈ items, f a = .ok (g a)) :
    items.mapM f = .ok (items.map g) := by
  induction items with
  | nil => rfl
  | cons a rest ih =>
    rw [List.forall_mem_cons] at h
    exact mapM_cons_eq_ok_iff.2 ⟨g a, rest.map g, h.1, ih h.2, rfl⟩

/-- Taking up the result of a step for each item is the same as taking up all results at the end. -/
theorem foldlM_map_eq (f : α → Result β) (g : γ → β → γ) (items : List α) (s : γ) :
    items.foldlM (fun s a => (f a).map (g s)) s = (items.mapM f).map (fun bs => bs.foldl g s) := by
  induction items generalizing s with
  | nil => rfl
  | cons a rest ih =>
    rw [List.foldlM_cons, List.mapM_cons]
    cases f a with
    | error e => rfl
    | ok b =>
      refine (ih (g s b)).trans ?_
      cases rest.mapM f <;> rfl

/-- Where steps for all items succeed, each item has a result and each result an item. -/
theorem mem_of_mapM_eq_ok {f : α → Result β} {items : List α} {bs : List β} (h : items.mapM f = .ok bs) :
    (∀ a ∈ items, ∃ b ∈ bs, f a = .ok b) ∧ ∀ b ∈ bs, ∃ a ∈ items, f a = .ok b := by
  induction items generalizing bs with
  | nil =>
    cases h
    simp
  | cons a rest ih =>
    obtain ⟨b, bs', hb, hbs', rfl⟩ := mapM_cons_eq_ok_iff.1 h
    obtain ⟨hitems, hresults⟩ := ih hbs'
    refine ⟨List.forall_mem_cons.2 ⟨⟨b, List.mem_cons_self, hb⟩, fun a' ha' => ?_⟩,
      List.forall_mem_cons.2 ⟨⟨a, List.mem_cons_self, hb⟩, fun b' hb' => ?_⟩⟩
    · obtain ⟨b', hb', heq⟩ := hitems a' ha'
      exact ⟨b', List.mem_cons_of_mem _ hb', heq⟩
    · obtain ⟨a', ha', heq⟩ := hresults b' hb'
      exact ⟨a', List.mem_cons_of_mem _ ha', heq⟩

/-- Steps for all items succeed if each of them does. -/
theorem mapM_ok_iff {f : α → Result β} {items : List α} :
    (∃ bs, items.mapM f = .ok bs) ↔ ∀ a ∈ items, ∃ b, f a = .ok b := by
  constructor
  · rintro ⟨bs, h⟩ a ha
    obtain ⟨b, -, hb⟩ := (mem_of_mapM_eq_ok h).1 a ha
    exact ⟨b, hb⟩
  · intro h
    induction items with
    | nil => exact ⟨[], rfl⟩
    | cons a rest ih =>
      obtain ⟨⟨b, hb⟩, hrest⟩ := List.forall_mem_cons.1 h
      obtain ⟨bs, hbs⟩ := ih hrest
      exact ⟨b :: bs, mapM_cons_eq_ok_iff.2 ⟨b, bs, hb, hbs, rfl⟩⟩

theorem map_ok_iff {x : Result α} {f : α → β} : (∃ b, Except.map f x = .ok b) ↔ ∃ a, x = .ok a := by
  cases x <;> simp [Except.map]

/-- Steps that do the same for every item. -/
theorem mapM_congr {f g : α → Result β} {items : List α} (h : ∀ a ∈ items, f a = g a) :
    items.mapM f = items.mapM g := by
  induction items with
  | nil => rfl
  | cons a rest ih =>
    obtain ⟨ha, hrest⟩ := List.forall_mem_cons.1 h
    rw [List.mapM_cons, List.mapM_cons, ha, ih hrest]

theorem foldlM_congr {f g : γ → α → Result γ} {items : List α} (h : ∀ a ∈ items, ∀ s, f s a = g s a) (s : γ) :
    items.foldlM f s = items.foldlM g s := by
  induction items generalizing s with
  | nil => rfl
  | cons a rest ih =>
    obtain ⟨ha, hrest⟩ := List.forall_mem_cons.1 h
    rw [List.foldlM_cons, List.foldlM_cons, ha]
    exact congrArg _ (funext (ih hrest))

/-! ### Steps that may have nothing to give -/

theorem mapM_flatMap_cons (f : α → Result (Option β)) (a : α) (rest : List α) :
    ((a :: rest).mapM f).map (fun bs => bs.flatMap Option.toList) = (do
      let b ← f a
      let bs ← (rest.mapM f).map (fun bs => bs.flatMap Option.toList)
      .ok (b.toList ++ bs)) := by
  rw [List.mapM_cons]
  cases f a with
  | error e => rfl
  | ok b => cases rest.mapM f <;> rfl

theorem mem_of_mapM_flatMap_eq_ok {f : α → Result (Option β)} {items : List α} {bs : List β}
    (h : (items.mapM f).map (fun bs => bs.flatMap Option.toList) = .ok bs) {b : β} :
    b ∈ bs ↔ ∃ a ∈ items, f a = .ok (some b) := by
  obtain ⟨given, hgiven, rfl⟩ := map_eq_ok_iff.1 h
  obtain ⟨hall, hof⟩ := mem_of_mapM_eq_ok hgiven
  simp only [List.mem_flatMap, Option.mem_toList, exists_eq_right]
  constructor
  · exact hof (some b)
  · rintro ⟨a, ha, hb⟩
    obtain ⟨b', hin, hb'⟩ := hall a ha
    rw [hb] at hb'
    cases hb'
    exact hin

/-- What steps give in the order of their items is in the order that the items bring about. -/
theorem pairwise_of_mapM_flatMap_eq_ok {f : α → Result (Option β)} {items : List α} {bs : List β}
    (h : (items.mapM f).map (fun bs => bs.flatMap Option.toList) = .ok bs) {R : α → α → Prop} {S : β → β → Prop}
    (hitems : items.Pairwise R)
    (hstep : ∀ a a' b b', R a a' → f a = .ok (some b) → f a' = .ok (some b') → S b b') : bs.Pairwise S := by
  induction items generalizing bs with
  | nil =>
    cases h
    exact .nil
  | cons a rest ih =>
    obtain ⟨hlater, hrest⟩ := List.pairwise_cons.1 hitems
    rw [mapM_flatMap_cons] at h
    obtain ⟨given, hgiven, h⟩ := bind_eq_ok_iff.1 h
    obtain ⟨others, hothers, h⟩ := bind_eq_ok_iff.1 h
    cases h
    cases given with
    | none => exact ih hothers hrest
    | some b =>
      refine List.pairwise_cons.2 ⟨fun b' hb' => ?_, ih hothers hrest⟩
      obtain ⟨a', ha', hb'⟩ := (mem_of_mapM_flatMap_eq_ok hothers).1 hb'
      exact hstep a a' b b' (hlater a' ha') hgiven hb'

theorem isSome_toOption_iff {x : Result α} : x.toOption.isSome = true ↔ ∃ a, x = .ok a := by
  cases x with
  | error e => simp [Except.toOption]
  | ok a => simp [Except.toOption]

/-- A result is there if something that is read off it is. -/
theorem exists_of_toOption_map {x : Result α} {f : α → β} {b : β} (h : (Except.map f x).toOption = some b) :
    ∃ a, x = .ok a ∧ f a = b := by
  cases x with
  | error e => cases h
  | ok a => exact ⟨a, rfl, Option.some.inj h⟩

/-! ## The first failure -/

/-- The failure that a result is. -/
def failure? : Result α → Option GraphError
  | .ok _ => none
  | .error e => some e

theorem failure?_map (x : Result α) (f : α → β) : failure? (x.map f) = failure? x := by
  cases x <;> rfl

theorem failure?_eq_none_iff {x : Result α} : failure? x = none ↔ ∃ a, x = .ok a := by
  cases x <;> simp [failure?]

theorem failure?_eq_some_iff {x : Result α} {e : GraphError} : failure? x = some e ↔ x = .error e := by
  cases x <;> simp [failure?]

/-- Steps for all items fail as the first step that fails. -/
theorem failure?_mapM (f : α → Result β) (items : List α) :
    failure? (items.mapM f) = items.findSome? fun a => failure? (f a) := by
  induction items with
  | nil => rfl
  | cons a rest ih =>
    rw [List.mapM_cons, List.findSome?_cons]
    cases h : f a with
    | error e => rfl
    | ok b =>
      rw [ok_bind]
      exact (failure?_map _ (List.cons b)).trans ih

/-- Steps one after the other fail as the first step that fails, if none depends on what was done before it. -/
theorem failure?_foldlM {step : γ → α → Result γ} {check : α → Option GraphError}
    (hstep : ∀ s a, failure? (step s a) = check a) (items : List α) (s : γ) :
    failure? (items.foldlM step s) = items.findSome? check := by
  induction items generalizing s with
  | nil => rfl
  | cons a rest ih =>
    rw [List.foldlM_cons, List.findSome?_cons, ← hstep s a]
    cases h : step s a with
    | error e => rfl
    | ok s' => exact ih s'

/-- Steps one after the other fail as one of them does, after those before it. -/
theorem foldlM_eq_error_iff {step : γ → α → Result γ} {items : List α} {s : γ} {e : GraphError} :
    items.foldlM step s = .error e ↔ ∃ before a after s', items = before ++ a :: after ∧
      before.foldlM step s = .ok s' ∧ step s' a = .error e := by
  induction items generalizing s with
  | nil => simp [pure, Except.pure]
  | cons first rest ih =>
    rw [List.foldlM_cons]
    constructor
    · intro h
      cases hfirst : step s first with
      | error e' =>
        rw [hfirst] at h
        cases h
        exact ⟨[], first, rest, s, rfl, rfl, hfirst⟩
      | ok s₁ =>
        rw [hfirst] at h
        obtain ⟨before, a, after, s', rfl, hbefore, ha⟩ := ih.1 h
        refine ⟨first :: before, a, after, s', rfl, ?_, ha⟩
        rw [List.foldlM_cons, hfirst]
        exact hbefore
    · rintro ⟨before, a, after, s', hsplit, hbefore, ha⟩
      cases before with
      | nil =>
        cases hsplit
        cases hbefore
        rw [ha]
        rfl
      | cons first' before =>
        cases hsplit
        rw [List.foldlM_cons] at hbefore
        obtain ⟨s₁, hfirst, hbefore⟩ := bind_eq_ok_iff.1 hbefore
        rw [hfirst]
        exact ih.2 ⟨before, a, after, s', rfl, hbefore, ha⟩

/-! ## Runs that agree -/

/-- Two runs that end alike: in related values, or in the same failure. -/
inductive Agree {α β : Type} (related : α → β → Prop) : Result α → Result β → Prop where
  | ok {a : α} {b : β} (h : related a b) : Agree related (.ok a) (.ok b)
  | error (e : GraphError) : Agree related (.error e) (.error e)

namespace Agree

variable {δ : Type} {related : α → β → Prop} {related' : γ → δ → Prop} {x : Result α} {y : Result β}

theorem bind (h : Agree related x y) {f : α → Result γ} {g : β → Result δ}
    (hnext : ∀ a b, related a b → Agree related' (f a) (g b)) : Agree related' (x >>= f) (y >>= g) := by
  cases h with
  | ok h => exact hnext _ _ h
  | error e => exact .error e

theorem map (h : Agree related x y) {f : α → γ} {g : β → δ} (hnext : ∀ a b, related a b → related' (f a) (g b)) :
    Agree related' (Except.map f x) (Except.map g y) := by
  cases h with
  | ok h => exact .ok (hnext _ _ h)
  | error e => exact .error e

/-- A step that both runs share. -/
theorem bind_self (x : Result α) {f : α → Result γ} {g : α → Result δ}
    (hnext : ∀ a, x = .ok a → Agree related' (f a) (g a)) : Agree related' (x >>= f) (x >>= g) := by
  cases x with
  | ok a => exact hnext a rfl
  | error e => exact .error e

end Agree

end EntityGraph.Result
