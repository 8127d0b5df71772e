import Mathlib.Data.List.Induction
import Mathlib.Data.List.Nodup

/-!
# Groups of rows

Rows with the same key form a group, and duplicates are dropped by keeping the keys of the groups. What counts as
the same is a test that need not be equality. When several items contribute rows with a key of their own each, the
groups are what each item contributes; this is why an aggregation right behind a match brings back one row for
each row before the match.
-/
namespace EntityGraph.Graph

variable {α β κ : Type}

/-! ## Groups -/

/-- Adds a row to the group of its key. -/
def addRow (same : κ → κ → Bool) (key : κ) (row : α) : List (κ × List α) → List (κ × List α)
  | [] => [(key, [row])]
  | (k, rows) :: rest =>
    if same k key then (k, rows ++ [row]) :: rest else (k, rows) :: addRow same key row rest

/-- The groups of rows with the same key, in the order of their first rows. -/
def grouped (same : κ → κ → Bool) (key : α → κ) (rows : List α) : List (κ × List α) :=
  rows.foldl (fun groups row => addRow same (key row) row groups) []

theorem addRow_append_of_new {same : κ → κ → Bool} {key : κ} {groups : List (κ × List α)}
    (h : ∀ e ∈ groups, same e.1 key = false) (row : α) (rest : List (κ × List α)) :
    addRow same key row (groups ++ rest) = groups ++ addRow same key row rest := by
  induction groups with
  | nil => rfl
  | cons e groups ih =>
    have hhead : same e.1 key = false := h e List.mem_cons_self
    rw [List.cons_append, addRow, hhead, if_neg Bool.false_ne_true,
      ih (fun e he => h e (List.mem_cons_of_mem _ he)), List.cons_append]

/-- Rows of one new key form one group behind the others. -/
theorem foldl_addRow_of_new {same : κ → κ → Bool} {key : α → κ} {k : κ} (hrefl : same k k = true)
    {groups : List (κ × List α)} (hnew : ∀ e ∈ groups, same e.1 k = false) (started : List α) {rows : List α}
    (hkey : ∀ row ∈ rows, key row = k) :
    rows.foldl (fun groups row => addRow same (key row) row groups) (groups ++ [(k, started)]) =
      groups ++ [(k, started ++ rows)] := by
  induction rows generalizing started with
  | nil => simp
  | cons row rest ih =>
    have hrow : key row = k := hkey row List.mem_cons_self
    rw [List.foldl_cons, hrow, addRow_append_of_new hnew row, addRow, if_pos hrefl,
      ih _ (fun row h => hkey row (List.mem_cons_of_mem _ h)), List.append_assoc, List.singleton_append]

theorem foldl_addRow_flatMap {same : κ → κ → Bool} {key : α → κ} {k : β → κ} {f : β → List α} {items : List β}
    (hrefl : ∀ b ∈ items, same (k b) (k b) = true) (hnonempty : ∀ b ∈ items, f b ≠ [])
    (hkey : ∀ b ∈ items, ∀ row ∈ f b, key row = k b)
    (hdistinct : items.Pairwise (fun a b => same (k a) (k b) = false)) (groups : List (κ × List α))
    (hnew : ∀ e ∈ groups, ∀ b ∈ items, same e.1 (k b) = false) :
    (items.flatMap f).foldl (fun groups row => addRow same (key row) row groups) groups =
      groups ++ items.map (fun b => (k b, f b)) := by
  induction items generalizing groups with
  | nil => simp
  | cons b rest ih =>
    rw [List.pairwise_cons] at hdistinct
    have hb : b ∈ b :: rest := List.mem_cons_self
    have hnewb : ∀ e ∈ groups, same e.1 (k b) = false := fun e he => hnew e he b hb
    have hgroup : (f b).foldl (fun groups row => addRow same (key row) row groups) groups =
        groups ++ [(k b, f b)] := by
      cases hrows : f b with
      | nil => exact absurd hrows (hnonempty b hb)
      | cons row rows =>
        have hrow : key row = k b := hkey b hb row (hrows ▸ List.mem_cons_self)
        have hopened : addRow same (k b) row groups = groups ++ [(k b, [row])] := by
          simpa [addRow] using addRow_append_of_new hnewb row []
        rw [List.foldl_cons, hrow, hopened]
        exact foldl_addRow_of_new (hrefl b hb) hnewb [row]
          (fun row h => hkey b hb row (hrows ▸ List.mem_cons_of_mem _ h))
    have hrest := ih (fun b h => hrefl b (List.mem_cons_of_mem _ h))
      (fun b h => hnonempty b (List.mem_cons_of_mem _ h)) (fun b h => hkey b (List.mem_cons_of_mem _ h))
      hdistinct.2 (groups ++ [(k b, f b)])
    rw [List.flatMap_cons, List.foldl_append, hgroup, hrest, List.map_cons, List.append_assoc,
      List.singleton_append]
    intro e he b' hb'
    rcases List.mem_append.1 he with he | he
    · exact hnew e he b' (List.mem_cons_of_mem _ hb')
    · rw [List.mem_singleton.1 he]
      exact hdistinct.1 b' hb'

/-- When each of several items contributes rows of a key of its own, the groups are what each one contributes. -/
theorem grouped_flatMap {same : κ → κ → Bool} {key : α → κ} {k : β → κ} {f : β → List α} {items : List β}
    (hrefl : ∀ b ∈ items, same (k b) (k b) = true) (hnonempty : ∀ b ∈ items, f b ≠ [])
    (hkey : ∀ b ∈ items, ∀ row ∈ f b, key row = k b)
    (hdistinct : items.Pairwise (fun a b => same (k a) (k b) = false)) :
    grouped same key (items.flatMap f) = items.map (fun b => (k b, f b)) :=
  foldl_addRow_flatMap hrefl hnonempty hkey hdistinct [] (by simp)

/-! ## Dropping duplicates -/

/-- Keeps the first of the items that are the same. -/
def distinct (same : α → α → Bool) (items : List α) : List α := (grouped same id items).map Prod.fst

theorem keys_addRow (same : κ → κ → Bool) (key : κ) (row : α) (groups : List (κ × List α)) :
    (addRow same key row groups).map Prod.fst =
      if (groups.map Prod.fst).any (same · key) then groups.map Prod.fst else groups.map Prod.fst ++ [key] := by
  induction groups with
  | nil => rfl
  | cons e rest ih =>
    by_cases h : same e.1 key = true
    · simp [addRow, h]
    · simp only [addRow, h, Bool.false_eq_true, if_false, List.map_cons, ih, List.any_cons, Bool.false_or]
      split <;> rfl

theorem distinct_concat (same : α → α → Bool) (items : List α) (a : α) :
    distinct same (items ++ [a]) =
      if (distinct same items).any (same · a) then distinct same items else distinct same items ++ [a] := by
  unfold distinct grouped
  rw [List.foldl_append, List.foldl_cons, List.foldl_nil, keys_addRow]
  rfl

theorem mem_of_mem_distinct {same : α → α → Bool} {items : List α} {a : α} (h : a ∈ distinct same items) :
    a ∈ items := by
  induction items using List.reverseRecOn with
  | nil => cases h
  | append_singleton items b ih =>
    rw [distinct_concat] at h
    split at h
    · exact List.mem_append_left _ (ih h)
    · rcases List.mem_append.1 h with h | h
      · exact List.mem_append_left _ (ih h)
      · exact List.mem_append_right _ h

theorem exists_mem_distinct {same : α → α → Bool} {items : List α} {a : α} (hrefl : same a a = true)
    (h : a ∈ items) : ∃ b ∈ distinct same items, same b a = true := by
  induction items using List.reverseRecOn with
  | nil => cases h
  | append_singleton items b ih =>
    rw [distinct_concat]
    rcases List.mem_append.1 h with h | h
    · obtain ⟨b', hb', hsame⟩ := ih h
      split
      · exact ⟨b', hb', hsame⟩
      · exact ⟨b', List.mem_append_left _ hb', hsame⟩
    · rw [List.mem_singleton.1 h] at hrefl ⊢
      split
      · rename_i hany
        exact List.any_eq_true.1 hany
      · exact ⟨b, List.mem_append_right _ (List.mem_singleton_self b), hrefl⟩

theorem distinct_pairwise (same : α → α → Bool) (items : List α) :
    (distinct same items).Pairwise (fun a b => same a b = false) := by
  induction items using List.reverseRecOn with
  | nil => exact List.Pairwise.nil
  | append_singleton items b ih =>
    rw [distinct_concat]
    split
    · exact ih
    · rename_i hany
      refine List.pairwise_append.2 ⟨ih, List.pairwise_singleton _ _, fun a ha b' hb' => ?_⟩
      rw [List.mem_singleton.1 hb']
      have hnot := fun h => hany (List.any_eq_true.2 ⟨a, ha, h⟩)
      simpa using hnot

/-- When each of several items contributes copies of its own, one of each is kept. -/
theorem distinct_flatMap {same : α → α → Bool} {k : β → α} {f : β → List α} {items : List β}
    (hrefl : ∀ b ∈ items, same (k b) (k b) = true) (hnonempty : ∀ b ∈ items, f b ≠ [])
    (hcopies : ∀ b ∈ items, ∀ a ∈ f b, a = k b)
    (hdistinct : items.Pairwise (fun a b => same (k a) (k b) = false)) :
    distinct same (items.flatMap f) = items.map k := by
  have hgroups : grouped same id (items.flatMap f) = items.map (fun b => (k b, f b)) :=
    grouped_flatMap hrefl hnonempty hcopies hdistinct
  rw [distinct, hgroups, List.map_map]
  rfl

/-- Items that are pairwise not the same are all kept. -/
theorem distinct_eq_self {same : α → α → Bool} {items : List α} (hrefl : ∀ a ∈ items, same a a = true)
    (h : items.Pairwise (fun a b => same a b = false)) : distinct same items = items := by
  have hflat := distinct_flatMap (f := fun a => [a]) hrefl (fun _ _ => List.cons_ne_nil _ _)
    (fun _ _ _ ha => List.mem_singleton.1 ha) h
  rwa [List.flatMap_singleton', List.map_id'] at hflat

/-! ## The group of a row -/

theorem grouped_concat (same : κ → κ → Bool) (key : α → κ) (rows : List α) (row : α) :
    grouped same key (rows ++ [row]) = addRow same (key row) row (grouped same key rows) := by
  rw [grouped, List.foldl_append]
  rfl

/-- The keys of the groups are the keys of the rows, without duplicates. -/
theorem keys_grouped (same : κ → κ → Bool) (key : α → κ) (rows : List α) :
    (grouped same key rows).map Prod.fst = distinct same (rows.map key) := by
  induction rows using List.reverseRecOn with
  | nil => rfl
  | append_singleton rows row ih =>
    rw [grouped_concat, keys_addRow, List.map_append, List.map_singleton, distinct_concat, ih]

/-- What is true of the first rows of the groups stays true if it is true of the row that is added. -/
theorem head?_addRow {same : κ → κ → Bool} {key : κ} {row : α} {P : κ → α → Prop} (hrow : P key row)
    {groups : List (κ × List α)} (h : ∀ e ∈ groups, ∃ first, e.2.head? = some first ∧ P e.1 first) :
    ∀ e ∈ addRow same key row groups, ∃ first, e.2.head? = some first ∧ P e.1 first := by
  induction groups with
  | nil => simpa [addRow] using hrow
  | cons group rest ih =>
    rw [List.forall_mem_cons] at h
    rw [addRow]
    split
    · obtain ⟨⟨first, hfirst, hP⟩, hrest⟩ := h
      exact List.forall_mem_cons.2 ⟨⟨first, by rw [List.head?_append, hfirst, Option.some_or], hP⟩, hrest⟩
    · exact List.forall_mem_cons.2 ⟨h.1, ih h.2⟩

/-- A group begins with a row of its key. -/
theorem head?_of_mem_grouped (same : κ → κ → Bool) (key : α → κ) (rows : List α) :
    ∀ e ∈ grouped same key rows, ∃ first, e.2.head? = some first ∧ first ∈ rows ∧ key first = e.1 := by
  induction rows using List.reverseRecOn with
  | nil => simp [grouped]
  | append_singleton rows row ih =>
    rw [grouped_concat]
    have hrow : row ∈ rows ++ [row] ∧ key row = key row := ⟨List.mem_append_right _ (List.mem_singleton_self row), rfl⟩
    refine head?_addRow (P := fun k first => first ∈ rows ++ [row] ∧ key first = k) hrow fun e he => ?_
    obtain ⟨first, hhead, hmem, hkey⟩ := ih e he
    exact ⟨first, hhead, List.mem_append_left _ hmem, hkey⟩

/-- Each row is in a group whose first row has the same key. -/
theorem exists_group {same : κ → κ → Bool} (key : α → κ) {rows : List α} {row : α}
    (hrefl : same (key row) (key row) = true) (h : row ∈ rows) :
    ∃ e ∈ grouped same key rows, ∃ first ∈ rows, e.2.head? = some first ∧ same (key first) (key row) = true := by
  have hkey : key row ∈ rows.map key := List.mem_map_of_mem h
  obtain ⟨k, hk, hsame⟩ := exists_mem_distinct hrefl hkey
  rw [← keys_grouped] at hk
  obtain ⟨e, he, rfl⟩ := List.mem_map.1 hk
  obtain ⟨first, hhead, hfirst, hkeys⟩ := head?_of_mem_grouped same key rows e he
  exact ⟨e, he, first, hfirst, hhead, hkeys ▸ hsame⟩

/-! ## Items that contribute one row at most -/

theorem nodup_map_flatMap {key : α → κ} {k : β → κ} {f : β → List α} {items : List β}
    (hitems : (items.map k).Nodup) (hkey : ∀ b ∈ items, ∀ row ∈ f b, key row = k b)
    (hone : ∀ b ∈ items, (f b).length ≤ 1) : ((items.flatMap f).map key).Nodup := by
  induction items with
  | nil => exact List.nodup_nil
  | cons b rest ih =>
    rw [List.map_cons, List.nodup_cons] at hitems
    have hrest := ih hitems.2 (fun b h => hkey b (List.mem_cons_of_mem _ h))
      (fun b h => hone b (List.mem_cons_of_mem _ h))
    rw [List.flatMap_cons, List.map_append]
    refine List.nodup_append'.2 ⟨?_, hrest, ?_⟩
    · match f b, hone b List.mem_cons_self with
      | [], _ => exact List.nodup_nil
      | [row], _ => exact List.nodup_singleton _
      | _ :: _ :: _, h => simp at h
    · intro a ha hb
      obtain ⟨row, hrow, rfl⟩ := List.mem_map.1 ha
      obtain ⟨other, hother, heq⟩ := List.mem_map.1 hb
      obtain ⟨b', hb', hother⟩ := List.mem_flatMap.1 hother
      rw [hkey b List.mem_cons_self row hrow, hkey b' (List.mem_cons_of_mem _ hb') other hother] at heq
      exact hitems.1 (heq ▸ List.mem_map_of_mem hb')

theorem length_flatMap_le_one {f : β → List α} {items : List β} (hitems : items.Nodup)
    (hone : ∀ b ∈ items, (f b).length ≤ 1)
    (hunique : ∀ a ∈ items, ∀ b ∈ items, f a ≠ [] → f b ≠ [] → a = b) : (items.flatMap f).length ≤ 1 := by
  induction items with
  | nil => exact Nat.zero_le 1
  | cons b rest ih =>
    rw [List.nodup_cons] at hitems
    have hrest := ih hitems.2 (fun b h => hone b (List.mem_cons_of_mem _ h))
      (fun a ha b hb => hunique a (List.mem_cons_of_mem _ ha) b (List.mem_cons_of_mem _ hb))
    rw [List.flatMap_cons, List.length_append]
    by_cases hempty : f b = []
    · simpa [hempty] using hrest
    · have hothers : rest.flatMap f = [] := by
        rw [List.flatMap_eq_nil_iff]
        intro a ha
        by_contra hne
        have heq : b = a := hunique b List.mem_cons_self a (List.mem_cons_of_mem _ ha) hempty hne
        exact hitems.1 (heq ▸ ha)
      rw [hothers, List.length_nil, Nat.add_zero]
      exact hone b List.mem_cons_self

theorem nodup_of_nodup_filterMap {f : α → Option β} {items : List α} (hsome : ∀ a ∈ items, (f a).isSome = true)
    (h : (items.filterMap f).Nodup) : items.Nodup := by
  induction items with
  | nil => exact List.nodup_nil
  | cons a rest ih =>
    obtain ⟨b, hb⟩ := Option.isSome_iff_exists.1 (hsome a List.mem_cons_self)
    rw [List.filterMap_cons_some hb, List.nodup_cons] at h
    refine List.nodup_cons.2 ⟨fun ha => h.1 ?_, ih (fun a ha => hsome a (List.mem_cons_of_mem _ ha)) h.2⟩
    exact List.mem_filterMap.2 ⟨a, ha, hb⟩

end EntityGraph.Graph
