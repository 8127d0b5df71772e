import EntityGraph.Dict

/-!
# Dictionaries after their operations

Which keys a dictionary has after each operation: what is inserted is there, and nothing else comes or goes. And what
it holds under a key: the last value that was put there.
-/
namespace EntityGraph

variable {α : Type}

theorem Entries.insert_of_forall_lt {key : String} {value : α} {entries : List (String × α)}
    (h : ∀ e ∈ entries, e.1 < key) : insert key value entries = entries ++ [(key, value)] := by
  induction entries with
  | nil => rfl
  | cons e rest ih =>
    obtain ⟨hlt, hrest⟩ := List.forall_mem_cons.1 h
    have hne : key ≠ e.1 := by
      rintro rfl
      exact String.lt_irrefl _ hlt
    rw [insert, if_neg (String.lt_asymm hlt), if_neg hne, ih hrest, List.cons_append]

theorem Entries.lookup_eq_some_iff {entries : List (String × α)} (h : (entries.map Prod.fst).Nodup) {key : String}
    {value : α} : entries.lookup key = some value ↔ (key, value) ∈ entries := by
  induction entries with
  | nil => simp
  | cons e rest ih =>
    obtain ⟨k, v⟩ := e
    obtain ⟨hfresh, hrest⟩ := List.nodup_cons.1 h
    rw [lookup_cons_eq, List.mem_cons, Prod.mk.injEq, ← ih hrest]
    by_cases hkey : key = k
    · subst hkey
      have hnone : (key, value) ∉ rest := fun hmem => hfresh (List.mem_map.2 ⟨(key, value), hmem, rfl⟩)
      rw [if_pos rfl, ih hrest]
      simp [hnone, eq_comm]
    · simp [hkey]

namespace Dict

theorem mem_of_get? {d : Dict α} {key : String} {value : α} (h : d.get? key = some value) :
    (key, value) ∈ d.toList := by
  obtain ⟨before, after, hentries, -⟩ := List.lookup_eq_some_iff.1 h
  rw [hentries]
  exact List.mem_append_right _ List.mem_cons_self

theorem get?_of_mem {d : Dict α} {key : String} {value : α} (h : (key, value) ∈ d.toList) :
    d.get? key = some value := by
  obtain ⟨before, after, hentries⟩ := List.append_of_mem h
  have hascending : Ascending (before ++ (key, value) :: after) := hentries ▸ d.ascending
  have hearlier := (List.pairwise_append.1 hascending).2.2
  refine List.lookup_eq_some_iff.2 ⟨before, after, hentries, fun e he => ?_⟩
  have hlt : e.1 < key := hearlier e he _ List.mem_cons_self
  rw [bne_iff_ne]
  rintro rfl
  exact String.lt_irrefl _ hlt

theorem mem_toList_iff {d : Dict α} {e : String × α} : e ∈ d.toList ↔ d.get? e.1 = some e.2 :=
  ⟨get?_of_mem, mem_of_get?⟩

theorem get?_erase (d : Dict α) (key other : String) :
    (d.erase key).get? other = if other = key then none else d.get? other := by
  show (Entries.erase key d.toList).lookup other = if other = key then none else d.toList.lookup other
  induction d.toList with
  | nil => simp [Entries.erase]
  | cons e rest ih =>
    obtain ⟨k, v⟩ := e
    rw [Entries.lookup_cons_eq]
    by_cases hkey : k = key
    · have hdrop : Entries.erase key ((k, v) :: rest) = Entries.erase key rest := by simp [Entries.erase, hkey]
      rw [hdrop, ih, hkey]
      by_cases hother : other = key <;> simp [hother]
    · have hkeep : Entries.erase key ((k, v) :: rest) = (k, v) :: Entries.erase key rest := by
        simp [Entries.erase, hkey]
      rw [hkeep, Entries.lookup_cons_eq, ih]
      by_cases hother : other = k <;> simp [hother, hkey]

theorem nodup_toList (d : Dict α) : d.toList.Nodup :=
  d.ascending.imp (S := (· ≠ ·)) fun {a b} (hlt : a.1 < b.1) heq => String.lt_irrefl b.1 (heq ▸ hlt)

/-- Dictionaries that hold the same under every key are the same. -/
theorem ext_get? {d d' : Dict α} (h : ∀ key, d.get? key = d'.get? key) : d = d' := by
  have hasymm (e e' : String × α) (_ : e ∈ d.toList) (_ : e' ∈ d'.toList) (hlt : e.1 < e'.1) (hlt' : e'.1 < e.1) :
      e = e' := absurd hlt' (String.lt_asymm hlt)
  have hperm : d.toList.Perm d'.toList :=
    (List.perm_ext_iff_of_nodup (nodup_toList d) (nodup_toList d')).2 fun e => by
      rw [mem_toList_iff, mem_toList_iff, h]
  exact ext (hperm.eq_of_pairwise hasymm d.ascending d'.ascending)

theorem erase_insert_of_ne {key other : String} (h : other ≠ key) (d : Dict α) (value : α) :
    (d.insert other value).erase key = (d.erase key).insert other value := by
  refine ext_get? fun name => ?_
  rw [get?_erase, get?_insert, get?_insert, get?_erase]
  by_cases hname : name = key
  · rw [if_pos hname, if_neg (hname ▸ h.symm), if_pos hname]
  · rw [if_neg hname, if_neg hname]

theorem erase_insert_self {d : Dict α} {key : String} (h : d.get? key = none) (value : α) :
    (d.insert key value).erase key = d := by
  refine ext_get? fun name => ?_
  rw [get?_erase, get?_insert]
  by_cases hname : name = key
  · rw [if_pos hname, hname, h]
  · rw [if_neg hname, if_neg hname]

/-- Of entries with different keys each one is found after all are inserted. -/
theorem get?_foldl_insert {entries : List (String × α)} (h : Ascending entries) (d : Dict α) (key : String) :
    (entries.foldl (fun d e => d.insert e.1 e.2) d).get? key = (entries.lookup key).or (d.get? key) := by
  induction entries generalizing d with
  | nil => rfl
  | cons e rest ih =>
    obtain ⟨k, v⟩ := e
    obtain ⟨hlater, hrest⟩ := List.pairwise_cons.1 h
    rw [List.foldl_cons, ih hrest, get?_insert, Entries.lookup_cons_eq]
    by_cases hkey : key = k
    · subst hkey
      have hnone : rest.lookup key = none := by
        refine List.lookup_eq_none_iff.2 fun e he => bne_iff_ne.2 ?_
        rintro rfl
        exact String.lt_irrefl _ (hlater e he)
      simp [hnone]
    · simp [hkey]

theorem get?_overlay (d other : Dict α) (key : String) :
    (d.overlay other).get? key = (other.get? key).or (d.get? key) :=
  get?_foldl_insert other.ascending d key

theorem get?_ofList {entries : List (String × α)} (h : Ascending entries) (key : String) :
    (ofList entries).get? key = entries.lookup key := by
  rw [ofList, get?_foldl_insert h, get?_empty, Option.or_none]

/-- Of entries in any order the last one with a key is found after all are inserted. -/
theorem get?_ofList_eq_lookup_reverse (entries : List (String × α)) (key : String) :
    (ofList entries).get? key = entries.reverse.lookup key := by
  suffices h : ∀ d : Dict α, (entries.foldl (fun d e => d.insert e.1 e.2) d).get? key =
      (entries.reverse.lookup key).or (d.get? key) by
    rw [ofList, h, get?_empty, Option.or_none]
  induction entries with
  | nil => exact fun _ => rfl
  | cons e rest ih =>
    obtain ⟨k, v⟩ := e
    intro d
    rw [List.foldl_cons, ih, get?_insert, List.reverse_cons, List.lookup_append, Option.or_assoc,
      Entries.lookup_cons_eq, List.lookup_nil]
    split <;> rfl

/-- Entries with different keys are all there, under their keys. -/
theorem get?_ofList_eq_some_iff {entries : List (String × α)} (h : (entries.map Prod.fst).Nodup) {key : String}
    {value : α} : (ofList entries).get? key = some value ↔ (key, value) ∈ entries := by
  have hreverse : (entries.reverse.map Prod.fst).Nodup := by
    rwa [List.map_reverse, (List.reverse_perm _).nodup_iff]
  rw [get?_ofList_eq_lookup_reverse, Entries.lookup_eq_some_iff hreverse, List.mem_reverse]

theorem toList_ofList_perm {entries : List (String × α)} (h : (entries.map Prod.fst).Nodup) :
    (ofList entries).toList.Perm entries := by
  have hentries : entries.Nodup := List.Pairwise.of_map Prod.fst (fun _ _ hne heq => hne (congrArg Prod.fst heq)) h
  refine (List.perm_ext_iff_of_nodup (nodup_toList _) hentries).2 fun e => ?_
  rw [mem_toList_iff, get?_ofList_eq_some_iff h]

theorem ofList_eq_of_perm {entries entries' : List (String × α)} (hperm : entries.Perm entries')
    (h : (entries.map Prod.fst).Nodup) : ofList entries = ofList entries' := by
  have h' : (entries'.map Prod.fst).Nodup := (hperm.map Prod.fst).nodup_iff.1 h
  refine ext_get? fun key => Option.ext fun value => ?_
  rw [get?_ofList_eq_some_iff h, get?_ofList_eq_some_iff h', hperm.mem_iff]

theorem isEmpty_iff {d : Dict α} : d.isEmpty = true ↔ d = ∅ := by
  constructor
  · exact fun h => ext (List.isEmpty_iff.1 h)
  · rintro rfl
    rfl

theorem isEmpty_ofList (entries : List (String × α)) : (ofList entries).isEmpty = entries.isEmpty := by
  cases entries with
  | nil => rfl
  | cons e rest =>
    rw [List.isEmpty_cons, isEmpty, List.isEmpty_eq_false_iff]
    intro hnil
    have hnone : (ofList (e :: rest)).get? e.1 = none := by rw [get?, hnil, List.lookup_nil]
    rw [get?_ofList_eq_lookup_reverse, List.lookup_eq_none_iff] at hnone
    simpa using hnone e (by simp)

theorem mem_of_mem_ofList {entries : List (String × α)} {e : String × α} (h : e ∈ (ofList entries).toList) :
    e ∈ entries := by
  obtain ⟨before, after, hreverse, -⟩ :=
    List.lookup_eq_some_iff.1 ((get?_ofList_eq_lookup_reverse entries e.1).symm.trans (get?_of_mem h))
  rw [← List.mem_reverse, hreverse]
  simp

/-- Entries that follow all others in order are put behind them. -/
theorem toList_foldl_insert {entries : List (String × α)} {d : Dict α} (h : Ascending (d.toList ++ entries)) :
    (entries.foldl (fun d e => d.insert e.1 e.2) d).toList = d.toList ++ entries := by
  induction entries generalizing d with
  | nil => rw [List.foldl_nil, List.append_nil]
  | cons e rest ih =>
    have hlast : ∀ e' ∈ d.toList, e'.1 < e.1 := fun e' he' =>
      (List.pairwise_append.1 h).2.2 e' he' e List.mem_cons_self
    have hinsert : (d.insert e.1 e.2).toList = d.toList ++ [e] := Entries.insert_of_forall_lt hlast
    rw [List.append_cons, ← hinsert] at h
    rw [List.foldl_cons, ih h, hinsert, ← List.append_cons]

/-- A dictionary is made of its entries. -/
theorem ofList_toList (d : Dict α) : ofList d.toList = d :=
  ext (toList_foldl_insert (d := ∅) d.ascending)

theorem contains_of_get? {d : Dict α} {key : String} {value : α} (h : d.get? key = some value) :
    d.contains key = true := by
  rw [contains, h]
  rfl

theorem contains_iff {d : Dict α} {key : String} : d.contains key = true ↔ key ∈ d.keys := by
  rw [contains, get?, List.lookup_isSome_iff, keys, List.mem_map]
  simp only [beq_iff_eq, eq_comm (a := key)]

@[simp] theorem contains_empty (key : String) : (∅ : Dict α).contains key = false := rfl

@[simp] theorem contains_insert (d : Dict α) (key other : String) (value : α) :
    (d.insert key value).contains other = true ↔ other = key ∨ d.contains other = true := by
  rw [contains, get?_insert]
  by_cases h : other = key <;> simp [h, contains]

/-- Under a key that was not taken there is one value more. -/
theorem mem_values_insert {d : Dict α} {key : String} (h : d.contains key = false) {value other : α} :
    other ∈ (d.insert key value).values ↔ other = value ∨ other ∈ d.values := by
  have hnone : d.get? key = none := by simpa [contains] using h
  simp only [values, List.mem_map, Prod.exists, exists_eq_right, mem_toList_iff, get?_insert]
  constructor
  · rintro ⟨k, hk⟩
    split at hk
    · exact .inl (Option.some.inj hk).symm
    · exact .inr ⟨k, hk⟩
  · rintro (rfl | ⟨k, hk⟩)
    · exact ⟨key, if_pos rfl⟩
    · refine ⟨k, ?_⟩
      rw [if_neg, hk]
      rintro rfl
      rw [hnone] at hk
      cases hk

/-- Steps that each add the keys of an item add the keys of all items. -/
theorem contains_foldl {β : Type} {step : Dict α → β → Dict α} {adds : β → Prop} {key : String}
    (h : ∀ d b, (step d b).contains key = true ↔ adds b ∨ d.contains key = true) (items : List β) (d : Dict α) :
    (items.foldl step d).contains key = true ↔ (∃ b ∈ items, adds b) ∨ d.contains key = true := by
  induction items generalizing d with
  | nil => simp
  | cons b rest ih =>
    rw [List.foldl_cons, ih, h]
    simp only [List.mem_cons, exists_eq_or_imp]
    rw [← or_assoc, or_comm (a := adds b)]

@[simp] theorem contains_overlay (d other : Dict α) (key : String) :
    (d.overlay other).contains key = true ↔ other.contains key = true ∨ d.contains key = true := by
  rw [overlay, contains_foldl (fun d e => contains_insert d e.1 key e.2), contains_iff (d := other), keys, List.mem_map]
  simp only [eq_comm (a := key)]

end Dict
end EntityGraph
