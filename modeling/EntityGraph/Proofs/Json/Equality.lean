import EntityGraph.Proofs.Dict
import EntityGraph.Json.Value

/-!
# Values that equal each other

Equal values are the same value unless they hold doubles, where zero equals negative zero. Values that equal a third one
equal each other. Objects are equal member by member, in order, so an object that equals one with increasing keys has
increasing keys itself.
-/
namespace EntityGraph.Json

/-! ## Numbers -/

/-- Doubles equal each other only if they are the same or both zero. -/
theorem eq_or_zero_of_beq {a b : Float.Model.UnpackedFloat} (h : a.beq b = true) :
    a = b ∨ ∃ s t, a = .zero s ∧ b = .zero t := by
  have hparts {e e' : Int} {m m' : Nat} (h : (compare e e').then (compare m m') = .eq) : e = e' ∧ m = m' :=
    (Ordering.then_eq_eq.1 h).imp Std.LawfulEqCmp.eq_of_compare Std.LawfulEqCmp.eq_of_compare
  have heq : a.compare b = some .eq := eq_of_beq h
  -- two infinities, two zeros, and two numbers of one sign; all others differ
  cases a with
  | notANumber => cases heq
  | infinity s =>
    cases b with
    | infinity t => cases s <;> cases t <;> first | exact .inl rfl | cases heq
    | _ => cases s <;> cases heq
  | zero s =>
    cases b with
    | zero t => exact .inr ⟨s, t, rfl, rfl⟩
    | notANumber => cases heq
    | infinity t => cases t <;> cases heq
    | finite t => cases t <;> cases heq
  | finite s m e =>
    cases b with
    | finite t m' e' =>
      cases s <;> cases t
      case negative.negative =>
        have hcompare : some ((compare e e').then (compare m m')).swap = some .eq := heq
        obtain ⟨rfl, rfl⟩ := hparts (Ordering.swap_eq_eq.1 (Option.some.inj hcompare))
        exact .inl rfl
      case positive.positive =>
        have hcompare : some ((compare e e').then (compare m m')) = some .eq := heq
        obtain ⟨rfl, rfl⟩ := hparts (Option.some.inj hcompare)
        exact .inl rfl
      all_goals cases heq
    | notANumber => cases heq
    | infinity t => cases t <;> cases heq
    | zero => cases s <;> cases heq

theorem beq_of_beq {a b c : Float} (h : (a == c) = true) (h' : (b == c) = true) : (a == b) = true := by
  change a.toModel.unpack.beq c.toModel.unpack = true at h
  change b.toModel.unpack.beq c.toModel.unpack = true at h'
  change a.toModel.unpack.beq b.toModel.unpack = true
  rcases eq_or_zero_of_beq h with ha | ⟨s, t, ha, hc⟩
  · rcases eq_or_zero_of_beq h' with hb | ⟨s, t, hb, hc⟩
    · rwa [hb]
    · rw [ha, hb, hc]
      rfl
  · rcases eq_or_zero_of_beq h' with hb | ⟨s', t', hb, -⟩
    · rw [ha, hb, hc]
      rfl
    · rw [ha, hb]
      rfl

theorem Number.same_of_same {a b c : Number} (h : a.same c = true) (h' : b.same c = true) : a.same b = true := by
  cases c with
  | int n => cases a <;> cases b <;> simp_all [same]
  | double x =>
    cases a <;> cases b <;> simp_all [same]
    exact beq_of_beq h h'

namespace Value

/-! ## Values that equal a third one -/

mutual
/-- Values that equal a third one equal each other. -/
theorem same_of_same : (u v w : Value) → u.same w = true → v.same w = true → u.same v = true
  | u, v, null, h, h' => by cases u <;> cases v <;> simp_all [same]
  | u, v, bool _, h, h' => by cases u <;> cases v <;> simp_all [same]
  | u, v, str _, h, h' => by cases u <;> cases v <;> simp_all [same]
  | u, v, num _, h, h' => by
    cases u <;> cases v <;> simp_all [same]
    exact Number.same_of_same h h'
  | u, v, arr ws, h, h' => by
    cases u <;> cases v <;> simp only [same, Bool.false_eq_true] at h h' ⊢
    exact sameItems_of_sameItems _ _ ws h h'
  | u, v, obj ws, h, h' => by
    cases u <;> cases v <;> simp only [same, Bool.false_eq_true] at h h' ⊢
    exact sameMembers_of_sameMembers _ _ ws h h'
theorem sameItems_of_sameItems : (us vs ws : List Value) → sameItems us ws = true → sameItems vs ws = true →
    sameItems us vs = true
  | us, vs, [], h, h' => by cases us <;> cases vs <;> simp_all [sameItems]
  | us, vs, w :: ws, h, h' => by
    cases us <;> cases vs <;> simp only [sameItems, Bool.and_eq_true, Bool.false_eq_true] at h h' ⊢
    exact ⟨same_of_same _ _ w h.1 h'.1, sameItems_of_sameItems _ _ ws h.2 h'.2⟩
theorem sameMembers_of_sameMembers : (us vs ws : List (String × Value)) → sameMembers us ws = true →
    sameMembers vs ws = true → sameMembers us vs = true
  | us, vs, [], h, h' => by cases us <;> cases vs <;> simp_all [sameMembers]
  | us, vs, (_, w) :: ws, h, h' => by
    cases us <;> cases vs <;> simp only [sameMembers, Bool.and_eq_true, beq_iff_eq, Bool.false_eq_true] at h h' ⊢
    exact ⟨⟨h.1.1.trans h'.1.1.symm, same_of_same _ _ w h.1.2 h'.1.2⟩, sameMembers_of_sameMembers _ _ ws h.2 h'.2⟩
end

/-! ## Values without doubles -/

mutual
/-- Whether a value holds no double. -/
def exact : Value → Bool
  | num (.double _) => false
  | arr items => exactItems items
  | obj members => exactMembers members
  | _ => true
def exactItems : List Value → Bool
  | [] => true
  | v :: rest => v.exact && exactItems rest
def exactMembers : List (String × Value) → Bool
  | [] => true
  | (_, v) :: rest => v.exact && exactMembers rest
end

mutual
/-- Values that equal each other are the same if one of them holds no double. -/
theorem eq_of_same : (u v : Value) → u.exact = true ∨ v.exact = true → u.same v = true → u = v
  | null, v, _, h => by cases v <;> simp_all [same]
  | bool _, v, _, h => by cases v <;> simp_all [same]
  | str _, v, _, h => by cases v <;> simp_all [same]
  | num m, v, hexact, h => by
    cases v with
    | num n => cases m <;> cases n <;> simp_all [same, exact, Number.same]
    | _ => simp [same] at h
  | arr us, v, hexact, h => by
    cases v with
    | arr vs =>
      simp only [same] at h
      simp only [exact] at hexact
      rw [eq_of_sameItems us vs hexact h]
    | _ => simp [same] at h
  | obj us, v, hexact, h => by
    cases v with
    | obj vs =>
      simp only [same] at h
      simp only [exact] at hexact
      rw [eq_of_sameMembers us vs hexact h]
    | _ => simp [same] at h
theorem eq_of_sameItems : (us vs : List Value) → exactItems us = true ∨ exactItems vs = true →
    sameItems us vs = true → us = vs
  | [], vs, _, h => by cases vs <;> simp_all [sameItems]
  | u :: us, vs, hexact, h => by
    cases vs with
    | nil => simp [sameItems] at h
    | cons v vs =>
      simp only [sameItems, Bool.and_eq_true] at h
      simp only [exactItems, Bool.and_eq_true] at hexact
      rw [eq_of_same u v (hexact.imp And.left And.left) h.1,
        eq_of_sameItems us vs (hexact.imp And.right And.right) h.2]
theorem eq_of_sameMembers : (us vs : List (String × Value)) → exactMembers us = true ∨ exactMembers vs = true →
    sameMembers us vs = true → us = vs
  | [], vs, _, h => by cases vs <;> simp_all [sameMembers]
  | (k, u) :: us, vs, hexact, h => by
    match vs with
    | [] => simp [sameMembers] at h
    | (l, v) :: vs =>
      simp only [sameMembers, Bool.and_eq_true, beq_iff_eq] at h
      simp only [exactMembers, Bool.and_eq_true] at hexact
      rw [h.1.1, eq_of_same u v (hexact.imp And.left And.left) h.1.2,
        eq_of_sameMembers us vs (hexact.imp And.right And.right) h.2]
end

@[simp] theorem exact_str (s : String) : (str s).exact = true := by
  simp only [exact]

@[simp] theorem exact_ofStrings (items : List String) : (ofStrings items).exact = true := by
  simp only [ofStrings, exact]
  induction items with
  | nil => simp only [List.map_nil, exactItems]
  | cons s rest ih => simp only [List.map_cons, exactItems, exact_str, ih, Bool.and_self]

theorem same_ofStrings_self (items : List String) : (ofStrings items).same (ofStrings items) = true := by
  simp only [ofStrings, same]
  induction items with
  | nil => simp only [List.map_nil, sameItems]
  | cons s rest ih => simp only [List.map_cons, sameItems, same, ih, beq_self_eq_true, Bool.and_self]

/-! ## Objects -/

theorem map_fst_of_sameMembers {us vs : List (String × Value)} (h : sameMembers us vs = true) :
    us.map Prod.fst = vs.map Prod.fst := by
  induction us generalizing vs with
  | nil => cases vs <;> simp_all [sameMembers]
  | cons a us ih =>
    cases vs with
    | nil => simp [sameMembers] at h
    | cons b vs =>
      simp only [sameMembers, Bool.and_eq_true, beq_iff_eq] at h
      rw [List.map_cons, List.map_cons, h.1.1, ih h.2]

/-- Members that equal each other are the same if those with the same key are. -/
theorem eq_of_sameMembers_of_forall {us vs : List (String × Value)} (h : sameMembers us vs = true)
    (hvalues : ∀ e ∈ us, ∀ v, (e.1, v) ∈ vs → e.2.same v = true → e.2 = v) : us = vs := by
  induction us generalizing vs with
  | nil => cases vs <;> simp_all [sameMembers]
  | cons a us ih =>
    match vs with
    | [] => simp [sameMembers] at h
    | (l, v) :: vs =>
      simp only [sameMembers, Bool.and_eq_true, beq_iff_eq] at h
      obtain ⟨⟨hkey, hsame⟩, hrest⟩ := h
      have hhead : a.2 = v := hvalues a List.mem_cons_self v (hkey ▸ List.mem_cons_self) hsame
      have htail : us = vs := ih hrest fun e he u hu =>
        hvalues e (List.mem_cons_of_mem _ he) u (List.mem_cons_of_mem _ hu)
      rw [← hkey, ← hhead, ← htail]

/-- An object that equals that of a dictionary has its keys in order. It is the dictionary's object if the dictionary
holds its values. -/
theorem eq_ofDict_of_same {members : List (String × Value)} {d : Dict Value}
    (h : (obj members).same (ofDict d) = true)
    (hvalues : Ascending members → ∀ e ∈ members, ∀ v, d.get? e.1 = some v → e.2.same v = true → e.2 = v) :
    obj members = ofDict d := by
  simp only [ofDict, same] at h
  have hascending : Ascending members := by
    have hkeys := List.pairwise_map.2 d.ascending
    rw [← map_fst_of_sameMembers h] at hkeys
    exact List.pairwise_map.1 hkeys
  rw [ofDict, eq_of_sameMembers_of_forall h fun e he v hv => hvalues hascending e he v (Dict.get?_of_mem hv)]

/-- An object equals the object of the dictionary with its members only if it is that object. -/
theorem eq_ofDict_ofList_of_same {members : List (String × Value)}
    (h : (obj members).same (ofDict (Dict.ofList members)) = true) :
    obj members = ofDict (Dict.ofList members) := by
  refine eq_ofDict_of_same h fun hascending e he v hv _ => ?_
  have hmember : (⟨members, hascending⟩ : Dict Value).get? e.1 = some e.2 := Dict.get?_of_mem he
  rw [Dict.get?_ofList hascending] at hv
  exact Option.some.inj (hmember.symm.trans hv)

end Value
end EntityGraph.Json
