import EntityGraph.Compile.Write
import EntityGraph.Proofs.Result

/-!
# The targets of a relationship

What the input gives to a relationship is null, one value, or a list, of which nulls are left out. Its targets are the
ids that these values name, each once and in the order of their first occurrence. A value that names no id is refused,
the first one by name.
-/
namespace EntityGraph.Compile

open Json (Value)
open Schema (Relationship)

/-! ## Where the value comes from -/

/-- The value that a relationship gets its targets from. It is the member of the input under the relationship's key,
also if that is null. Only where the member is missing, a new entity takes what the caller's context knows under the
key that the relationship declares. -/
inductive LinkSource (caller : Caller) (mode : WriteMode) (input : Input) (name : String) (r : Relationship) :
    Value → Prop where
  | input {value : Value} (h : input.get? (r.inputKey name) = some value) : LinkSource caller mode input name r value
  | context {key : String} {value : Value} (hmode : mode = .create) (habsent : input.get? (r.inputKey name) = none)
      (hkey : r.contextKey = some key) (hvalue : caller.value? key = some value) :
      LinkSource caller mode input name r value

theorem linkValue_eq_some_iff {caller : Caller} {mode : WriteMode} {input : Input} {name : String} {r : Relationship}
    {value : Value} : linkValue caller mode input name r = some value ↔ LinkSource caller mode input name r value := by
  unfold linkValue
  constructor
  · intro h
    cases hinput : input.get? (r.inputKey name) with
    | some v =>
      rw [hinput] at h
      exact .input (hinput.trans h)
    | none =>
      rw [hinput] at h
      by_cases hmode : mode = .create
      · simp only [hmode, if_true] at h
        obtain ⟨key, hkey, hvalue⟩ := Option.bind_eq_some_iff.1 h
        exact .context hmode hinput hkey hvalue
      · simp [hmode] at h
  · rintro (h | ⟨hmode, habsent, hkey, hvalue⟩)
    · rw [h]
    · simp [habsent, hmode, hkey, hvalue]

/-- A replacement or an update asks nothing of the context. -/
theorem LinkSource.of_ne_create {caller : Caller} {mode : WriteMode} {input : Input} {name : String} {r : Relationship}
    {value : Value} (h : LinkSource caller mode input name r value) (hmode : mode ≠ .create) :
    input.get? (r.inputKey name) = some value := by
  cases h with
  | input h => exact h
  | context hcreate => exact absurd hcreate hmode

/-! ## The ids that a value names -/

/-- The values that name targets. -/
def targetValues : Value → List Value
  | .null => []
  | .arr items => items.filter (fun v => !v.isNull)
  | v => [v]

theorem mem_addId {ids : List String} {id other : String} : other ∈ addId ids id ↔ other = id ∨ other ∈ ids := by
  unfold addId
  split
  · rename_i h
    rw [List.contains_iff_mem] at h
    constructor
    · exact .inr
    · rintro (rfl | hother)
      · exact h
      · exact hother
  · rw [List.mem_append, List.mem_singleton, or_comm]

theorem nodup_addId {ids : List String} (h : ids.Nodup) (id : String) : (addId ids id).Nodup := by
  unfold addId
  split
  · exact h
  · rename_i hnew
    rw [List.contains_iff_mem] at hnew
    refine List.nodup_append.2 ⟨h, by simp, ?_⟩
    rintro a ha b hb rfl
    exact hnew (List.mem_singleton.1 hb ▸ ha)

theorem mem_foldl_addId {named ids : List String} {id : String} :
    id ∈ named.foldl addId ids ↔ id ∈ named ∨ id ∈ ids := by
  induction named generalizing ids with
  | nil => simp
  | cons first rest ih => rw [List.foldl_cons, ih, mem_addId, List.mem_cons, or_left_comm, or_assoc]

theorem nodup_foldl_addId {ids : List String} (h : ids.Nodup) (named : List String) :
    (named.foldl addId ids).Nodup := by
  induction named generalizing ids with
  | nil => exact h
  | cons first rest ih => exact ih (nodup_addId h first)

theorem singleId_eq_ok_iff {relationship : String} {value : Value} {id : String} :
    singleId relationship value = .ok id ↔ usableId? value = some id := by
  unfold singleId
  cases usableId? value <;> simp [refuse]

/-- The targets of a value are the different ids among its values. -/
theorem relatedIds_eq (relationship : String) (value : Value) :
    relatedIds relationship value =
      ((targetValues value).mapM (singleId relationship)).map (fun named => named.foldl addId []) := by
  have hsingle (v : Value) : (singleId relationship v).map (fun id => [id]) =
      ([v].mapM (singleId relationship)).map (fun named => named.foldl addId []) := by
    rw [List.mapM_cons, List.mapM_nil]
    cases singleId relationship v <;> rfl
  cases value with
  | null => rfl
  | arr items => exact Result.foldlM_map_eq ..
  | bool b => exact hsingle (.bool b)
  | num n => exact hsingle (.num n)
  | str s => exact hsingle (.str s)
  | obj members => exact hsingle (.obj members)

section Targets

variable {relationship : String} {value : Value} {ids : List String}

/-- A value has targets, none or some, if all its values name one. -/
theorem relatedIds_ok_iff :
    (∃ ids, relatedIds relationship value = .ok ids) ↔ ∀ v ∈ targetValues value, (usableId? v).isSome = true := by
  rw [relatedIds_eq, Result.map_ok_iff, Result.mapM_ok_iff]
  simp only [singleId_eq_ok_iff, Option.isSome_iff_exists]

theorem mem_relatedIds (h : relatedIds relationship value = .ok ids) {id : String} :
    id ∈ ids ↔ ∃ v ∈ targetValues value, usableId? v = some id := by
  rw [relatedIds_eq] at h
  obtain ⟨named, hnamed, rfl⟩ := Result.map_eq_ok_iff.1 h
  obtain ⟨hvalues, hids⟩ := Result.mem_of_mapM_eq_ok hnamed
  rw [mem_foldl_addId, or_iff_left (List.not_mem_nil)]
  constructor
  · intro hid
    obtain ⟨v, hv, hnames⟩ := hids id hid
    exact ⟨v, hv, singleId_eq_ok_iff.1 hnames⟩
  · rintro ⟨v, hv, hnames⟩
    obtain ⟨id', hid', hnames'⟩ := hvalues v hv
    rw [singleId_eq_ok_iff.1 hnames'] at hnames
    exact Option.some.inj hnames ▸ hid'

theorem nodup_relatedIds (h : relatedIds relationship value = .ok ids) : ids.Nodup := by
  rw [relatedIds_eq] at h
  obtain ⟨named, -, rfl⟩ := Result.map_eq_ok_iff.1 h
  exact nodup_foldl_addId List.nodup_nil named

theorem relatedIds_eq_nil_iff (h : relatedIds relationship value = .ok ids) : ids = [] ↔ targetValues value = [] := by
  constructor
  · rintro rfl
    refine List.eq_nil_iff_forall_not_mem.2 fun v hv => ?_
    obtain ⟨id, hid⟩ := Option.isSome_iff_exists.1 (relatedIds_ok_iff.1 ⟨_, h⟩ v hv)
    exact absurd ((mem_relatedIds h).2 ⟨v, hv, hid⟩) List.not_mem_nil
  · intro hnone
    refine List.eq_nil_iff_forall_not_mem.2 fun id hid => ?_
    obtain ⟨v, hv, -⟩ := (mem_relatedIds h).1 hid
    rw [hnone] at hv
    cases hv

/-- There is at most one target if all values name the same. -/
theorem length_relatedIds_le_one_iff (h : relatedIds relationship value = .ok ids) :
    ids.length ≤ 1 ↔ ∀ v ∈ targetValues value, ∀ w ∈ targetValues value, usableId? v = usableId? w := by
  have husable := relatedIds_ok_iff.1 ⟨_, h⟩
  constructor
  · intro hlength v hv w hw
    obtain ⟨id, hid⟩ := Option.isSome_iff_exists.1 (husable v hv)
    obtain ⟨id', hid'⟩ := Option.isSome_iff_exists.1 (husable w hw)
    have hmem := (mem_relatedIds h).2 ⟨v, hv, hid⟩
    have hmem' := (mem_relatedIds h).2 ⟨w, hw, hid'⟩
    match ids, hlength, hmem, hmem' with
    | [only], _, hmem, hmem' => rw [hid, hid', List.mem_singleton.1 hmem, List.mem_singleton.1 hmem']
  · intro hsame
    match ids, nodup_relatedIds h, h with
    | [], _, _ => simp
    | [_], _, _ => simp
    | first :: second :: rest, hnodup, h =>
      obtain ⟨v, hv, hfirst⟩ := (mem_relatedIds h).1 List.mem_cons_self
      obtain ⟨w, hw, hsecond⟩ := (mem_relatedIds h).1 (List.mem_cons_of_mem first List.mem_cons_self)
      have heq : first = second := Option.some.inj (by rw [← hfirst, ← hsecond, hsame v hv w hw])
      exact absurd (heq ▸ List.mem_cons_self) (List.nodup_cons.1 hnodup).1

end Targets
end EntityGraph.Compile
