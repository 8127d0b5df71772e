/-!
# Dictionaries in key order

A dictionary lists its entries by strictly increasing key, in the byte order of the keys' UTF-8 text, so
equal dictionaries have equal lists and every walk over one meets its keys in that order. The operations on
bare entry lists come first; JSON objects share them.
-/
namespace EntityGraph

/-- Keys strictly increase along the list. -/
abbrev Ascending {α : Type} (entries : List (String × α)) : Prop :=
  entries.Pairwise (fun a b => a.1 < b.1)

namespace Entries

/-- Puts an entry in its place, replacing the value of a key that is already there. -/
def insert {α : Type} (key : String) (value : α) : List (String × α) → List (String × α)
  | [] => [(key, value)]
  | (k, v) :: rest =>
    if key < k then (key, value) :: (k, v) :: rest
    else if key = k then (key, value) :: rest
    else (k, v) :: insert key value rest

/-- Drops the entries of a key. -/
def erase {α : Type} (key : String) (entries : List (String × α)) : List (String × α) :=
  entries.filter (fun e => decide (e.1 ≠ key))

theorem mem_insert {α : Type} {key : String} {value : α} {e : String × α}
    {entries : List (String × α)} (h : e ∈ insert key value entries) :
    e = (key, value) ∨ e ∈ entries := by
  induction entries with
  | nil => simpa [insert] using h
  | cons head rest ih =>
    obtain ⟨k, v⟩ := head
    rw [insert] at h
    split at h
    · simpa using h
    · split at h
      · rcases List.mem_cons.1 h with h | h
        · exact .inl h
        · exact .inr (List.mem_cons_of_mem _ h)
      · rcases List.mem_cons.1 h with h | h
        · exact .inr (h ▸ List.mem_cons_self)
        · exact (ih h).imp id (List.mem_cons_of_mem _)

theorem lt_of_not_lt_of_ne {a b : String} (h : ¬a < b) (hne : a ≠ b) : b < a := by
  apply Decidable.byContradiction
  intro hba
  exact hne (String.le_antisymm (String.not_lt.1 hba) (String.not_lt.1 h))

theorem ascending_insert {α : Type} (key : String) (value : α) {entries : List (String × α)}
    (h : Ascending entries) : Ascending (insert key value entries) := by
  induction entries with
  | nil => simp [insert, Ascending]
  | cons head rest ih =>
    obtain ⟨k, v⟩ := head
    have htail := List.pairwise_cons.1 h
    rw [insert]
    split
    · rename_i hlt
      refine List.pairwise_cons.2 ⟨fun e he => ?_, h⟩
      rcases List.mem_cons.1 he with he | he
      · exact he ▸ hlt
      · exact String.lt_trans hlt (htail.1 e he)
    · rename_i hlt
      split
      · rename_i heq
        exact List.pairwise_cons.2 ⟨fun e he => heq ▸ htail.1 e he, htail.2⟩
      · rename_i hne
        refine List.pairwise_cons.2 ⟨fun e he => ?_, ih htail.2⟩
        rcases mem_insert he with he | he
        · exact he ▸ lt_of_not_lt_of_ne hlt hne
        · exact htail.1 e he

theorem lookup_cons_eq {α : Type} (k key : String) (v : α) (entries : List (String × α)) :
    ((k, v) :: entries).lookup key = if key = k then some v else entries.lookup key := by
  by_cases h : key = k
  · simp [h]
  · simp [List.lookup_cons, h, beq_eq_false_iff_ne.2 h]

/-- Looking a key up sees exactly the last insertion at that key. -/
theorem lookup_insert {α : Type} (key other : String) (value : α) (entries : List (String × α)) :
    (insert key value entries).lookup other =
      if other = key then some value else entries.lookup other := by
  induction entries with
  | nil => rw [insert, lookup_cons_eq]
  | cons head rest ih =>
    obtain ⟨k, v⟩ := head
    rw [insert]
    split
    · rw [lookup_cons_eq]
    · split
      · rename_i heq
        subst heq
        by_cases h : other = key <;> simp [lookup_cons_eq, h]
      · rename_i hne
        by_cases hk : other = k
        · subst hk
          simp [Ne.symm hne]
        · simp [lookup_cons_eq, hk, ih]

end Entries

/-- A finite map from names. -/
structure Dict (α : Type) where
  toList : List (String × α)
  ascending : Ascending toList

namespace Dict

variable {α β : Type}

theorem ext {a b : Dict α} (h : a.toList = b.toList) : a = b := by
  cases a
  cases b
  cases h
  rfl

instance [DecidableEq α] : DecidableEq (Dict α) := fun a b =>
  if h : a.toList = b.toList then isTrue (ext h) else isFalse (fun e => h (e ▸ rfl))

instance [Repr α] : Repr (Dict α) := ⟨fun d n => reprPrec d.toList n⟩

/-- The dictionary without entries. -/
def empty : Dict α := ⟨[], List.Pairwise.nil⟩

instance : EmptyCollection (Dict α) := ⟨empty⟩
instance : Inhabited (Dict α) := ⟨empty⟩

/-- Sets the value of a key. -/
def insert (d : Dict α) (key : String) (value : α) : Dict α :=
  ⟨Entries.insert key value d.toList, Entries.ascending_insert key value d.ascending⟩

/-- Forgets a key. -/
def erase (d : Dict α) (key : String) : Dict α :=
  ⟨Entries.erase key d.toList, d.ascending.filter _⟩

/-- The value of a key. -/
def get? (d : Dict α) (key : String) : Option α := d.toList.lookup key

/-- Whether a key has a value. -/
def contains (d : Dict α) (key : String) : Bool := (d.get? key).isSome

/-- The keys, in order. -/
def keys (d : Dict α) : List String := d.toList.map Prod.fst

/-- The values, in the order of their keys. -/
def values (d : Dict α) : List α := d.toList.map Prod.snd

def size (d : Dict α) : Nat := d.toList.length

def isEmpty (d : Dict α) : Bool := d.toList.isEmpty

/-- Of entries with the same key the last one stays. -/
def ofList (entries : List (String × α)) : Dict α :=
  entries.foldl (fun d e => d.insert e.1 e.2) empty

/-- Changes the values and keeps the keys. -/
def mapValues (f : String → α → β) (d : Dict α) : Dict β :=
  ⟨d.toList.map (fun e => (e.1, f e.1 e.2)), d.ascending.map _ (fun _ _ h => h)⟩

/-- The entries of `other` override those of `d`. -/
def overlay (d other : Dict α) : Dict α :=
  other.toList.foldl (fun d e => d.insert e.1 e.2) d

@[simp] theorem get?_empty (key : String) : (empty : Dict α).get? key = none := rfl

theorem get?_insert (d : Dict α) (key other : String) (value : α) :
    (d.insert key value).get? other = if other = key then some value else d.get? other :=
  Entries.lookup_insert key other value d.toList

end Dict
end EntityGraph
