import EntityGraph.Proofs.Compile.Targets
import Mathlib.Data.List.Forall2
import Mathlib.Data.List.Induction

/-!
# The order of a relationship's targets

An input has targets if it is null, names an id, or lists values that name ids, nulls aside. The targets are then the
ids that occur in it, each once and in the order of their first occurrences, which leaves one list only. Given as an
input themselves they stay as they are. An input that has no targets is refused for the first value that names no id.
-/
namespace EntityGraph.Compile

open Json (Value)

/-! ## The ids that occur in an input -/

/-- A value names an id: it is the id, or an object whose member `id` is. No id is empty. -/
inductive NamesId : Value → String → Prop where
  | text {id : String} (hne : id ≠ "") : NamesId (.str id) id
  | member {members : List (String × Value)} {id : String} (hid : members.lookup "id" = some (.str id))
      (hne : id ≠ "") : NamesId (.obj members) id

/-- The ids that occur in an input, in order and with repetitions. -/
inductive Occurring : Value → List String → Prop where
  | null : Occurring .null []
  | single {value : Value} {id : String} (h : NamesId value id) : Occurring value [id]
  | list {items : List Value} {named : List String}
      (h : List.Forall₂ NamesId (items.filter (fun v => !v.isNull)) named) : Occurring (.arr items) named

theorem usableId?_eq_some_iff {value : Value} {id : String} : usableId? value = some id ↔ NamesId value id := by
  constructor
  · intro h
    obtain ⟨hid, hne⟩ := Option.filter_eq_some_iff.1 h
    cases value with
    | str s =>
      cases hid
      exact .text (of_decide_eq_true hne)
    | obj members =>
      obtain ⟨v, hv, hstring⟩ := Option.bind_eq_some_iff.1 hid
      cases v with
      | str s =>
        cases hstring
        exact .member hv (of_decide_eq_true hne)
      | _ => cases hstring
    | _ => cases hid
  · rintro (hne | ⟨hid, hne⟩)
    · simp [usableId?, hne]
    · simp [usableId?, Value.member?, hid, Value.string?, hne]

theorem NamesId.ne_empty {value : Value} {id : String} (h : NamesId value id) : id ≠ "" := by
  cases h <;> assumption

theorem NamesId.targetValues_eq {value : Value} {id : String} (h : NamesId value id) : targetValues value = [value] := by
  cases h <;> rfl

section

variable {relationship : String} {value : Value}

theorem mapM_singleId_eq_ok_iff {values : List Value} {named : List String} :
    values.mapM (singleId relationship) = .ok named ↔ List.Forall₂ NamesId values named := by
  induction values generalizing named with
  | nil =>
    rw [List.forall₂_nil_left_iff]
    exact ⟨fun h => (Except.ok.inj h).symm, fun h => h ▸ rfl⟩
  | cons v rest ih =>
    simp only [Result.mapM_cons_eq_ok_iff, List.forall₂_cons_left_iff, singleId_eq_ok_iff, usableId?_eq_some_iff, ih]

/-- The values of an input name the ids that occur in it, one for one. -/
theorem occurring_iff {named : List String} :
    Occurring value named ↔ List.Forall₂ NamesId (targetValues value) named := by
  constructor
  · rintro (_ | h | h)
    · exact .nil
    · rw [h.targetValues_eq]
      exact .cons h .nil
    · exact h
  · intro h
    have hone (hvalue : targetValues value = [value]) : Occurring value named := by
      rw [hvalue] at h
      obtain ⟨id, others, hid, hothers, rfl⟩ := List.forall₂_cons_left_iff.1 h
      rw [List.forall₂_nil_left_iff.1 hothers]
      exact .single hid
    cases value with
    | null =>
      rw [List.forall₂_nil_left_iff.1 h]
      exact .null
    | arr items => exact .list h
    | bool b => exact hone rfl
    | num n => exact hone rfl
    | str s => exact hone rfl
    | obj members => exact hone rfl

end

/-! ## First occurrences -/

/-- The different ones among some ids, ordered by their first occurrences. -/
structure FirstOccurrences (named ids : List String) : Prop where
  nodup : ids.Nodup
  mem_iff : ∀ id, id ∈ ids ↔ id ∈ named
  ordered : ids.Pairwise (fun a b => named.idxOf a < named.idxOf b)

namespace FirstOccurrences

variable {named ids : List String}

/-- One more id comes last, unless it has occurred. -/
theorem addId (h : FirstOccurrences named ids) (id : String) :
    FirstOccurrences (named ++ [id]) (Compile.addId ids id) := by
  have hearlier {a : String} (ha : a ∈ ids) : (named ++ [id]).idxOf a = named.idxOf a :=
    List.idxOf_append_of_mem ((h.mem_iff a).1 ha)
  have hordered : ids.Pairwise (fun a b => (named ++ [id]).idxOf a < (named ++ [id]).idxOf b) := by
    refine h.ordered.imp_of_mem fun {a b} ha hb hlt => ?_
    rw [hearlier ha, hearlier hb]
    exact hlt
  refine ⟨nodup_addId h.nodup id, fun other => ?_, ?_⟩
  · rw [mem_addId, h.mem_iff, List.mem_append, List.mem_singleton, or_comm]
  · by_cases hid : id ∈ ids
    · rw [Compile.addId, if_pos (List.contains_iff_mem.2 hid)]
      exact hordered
    · have hnew : id ∉ named := fun hnamed => hid ((h.mem_iff id).2 hnamed)
      rw [Compile.addId, if_neg (by rwa [List.contains_iff_mem])]
      refine List.pairwise_append.2 ⟨hordered, List.pairwise_singleton _ _, fun a ha b hb => ?_⟩
      have hlt : named.idxOf a < named.length := List.idxOf_lt_length_of_mem ((h.mem_iff a).1 ha)
      rw [List.mem_singleton.1 hb, hearlier ha, List.idxOf_append_of_notMem hnew]
      omega

/-- Putting ids together one by one keeps their first occurrences. -/
theorem foldl_addId (named : List String) : FirstOccurrences named (named.foldl Compile.addId []) := by
  induction named using List.reverseRecOn with
  | nil => exact ⟨List.nodup_nil, fun _ => Iff.rfl, .nil⟩
  | append_singleton named id ih =>
    rw [List.foldl_append, List.foldl_cons, List.foldl_nil]
    exact ih.addId id

/-- Only one list has the first occurrences in order. -/
theorem unique {ids' : List String} (h : FirstOccurrences named ids) (h' : FirstOccurrences named ids') : ids = ids' := by
  have hperm : ids.Perm ids' := (List.perm_ext_iff_of_nodup h.nodup h'.nodup).2 fun id => by
    rw [h.mem_iff, h'.mem_iff]
  refine hperm.eq_of_pairwise (fun a b _ _ hab hba => ?_) h.ordered h'.ordered
  omega

/-- Ids that are all different are in the order of their first occurrences. -/
theorem of_nodup (h : ids.Nodup) : FirstOccurrences ids ids := by
  refine ⟨h, fun _ => Iff.rfl, List.pairwise_iff_getElem.2 fun i j hi hj hij => ?_⟩
  rw [h.idxOf_getElem i hi, h.idxOf_getElem j hj]
  exact hij

end FirstOccurrences

section

variable {relationship : String} {value : Value} {ids : List String}

/-- The targets of an input are the first occurrences of the ids in it. -/
theorem relatedIds_eq_ok_iff :
    relatedIds relationship value = .ok ids ↔ ∃ named, Occurring value named ∧ FirstOccurrences named ids := by
  rw [relatedIds_eq, Result.map_eq_ok_iff]
  simp only [mapM_singleId_eq_ok_iff, occurring_iff]
  constructor
  · rintro ⟨named, hnamed, rfl⟩
    exact ⟨named, hnamed, .foldl_addId named⟩
  · rintro ⟨named, hnamed, hids⟩
    exact ⟨named, hnamed, (FirstOccurrences.foldl_addId named).unique hids⟩

/-- Different ids, none of them empty, are their own targets. -/
theorem relatedIds_ofStrings (hnodup : ids.Nodup) (hne : ∀ id ∈ ids, id ≠ "") :
    relatedIds relationship (.ofStrings ids) = .ok ids := by
  refine relatedIds_eq_ok_iff.2 ⟨ids, .list ?_, .of_nodup hnodup⟩
  rw [List.filter_eq_self.2 (List.forall_mem_map.2 fun _ _ => rfl), List.forall₂_map_left_iff, List.forall₂_same]
  exact fun id hid => .text (hne id hid)

end

/-! ## Inputs that are refused -/

/-- The first value of an input that names no id. -/
inductive FirstUnusable : Value → Value → Prop where
  | single {value : Value} (hnull : value ≠ .null) (hitems : value.items? = none) (h : ∀ id, ¬NamesId value id) :
      FirstUnusable value value
  | item {before after : List Value} {v : Value} (hbefore : ∀ u ∈ before, u = .null ∨ ∃ id, NamesId u id)
      (hnull : v ≠ .null) (h : ∀ id, ¬NamesId v id) : FirstUnusable (.arr (before ++ v :: after)) v

/-- Why a value of an input is refused, if it is. -/
def refusal? (relationship : String) (v : Value) : Option GraphError :=
  if v.isNull then none else Result.failure? (singleId relationship v)

section

variable {relationship : String} {value : Value} {e : GraphError}

theorem failure?_singleId_eq_some_iff :
    Result.failure? (singleId relationship value) = some e ↔
      (∀ id, ¬NamesId value id) ∧ e = .invalidArgument (.unusableIds relationship value) := by
  rw [singleId]
  cases h : usableId? value with
  | some id =>
    have hid : NamesId value id := usableId?_eq_some_iff.1 h
    exact iff_of_false nofun fun hnone => hnone.1 id hid
  | none =>
    have hnone (id : String) : ¬NamesId value id := fun hid => by
      rw [usableId?_eq_some_iff.2 hid] at h
      cases h
    simp [refuse, Result.failure?, hnone, eq_comm]

theorem refusal?_eq_none_iff : refusal? relationship value = none ↔ value = .null ∨ ∃ id, NamesId value id := by
  unfold refusal?
  cases value with
  | null => simp [Value.isNull]
  | _ => simp [Value.isNull, Result.failure?_eq_none_iff, singleId_eq_ok_iff, usableId?_eq_some_iff]

theorem refusal?_eq_some_iff :
    refusal? relationship value = some e ↔
      value ≠ .null ∧ (∀ id, ¬NamesId value id) ∧ e = .invalidArgument (.unusableIds relationship value) := by
  unfold refusal?
  cases value with
  | null => simp [Value.isNull]
  | _ => simp [Value.isNull, failure?_singleId_eq_some_iff]

theorem failure?_relatedIds_arr (items : List Value) :
    Result.failure? (relatedIds relationship (.arr items)) = items.findSome? (refusal? relationship) := by
  rw [relatedIds_eq, Result.failure?_map, Result.failure?_mapM, targetValues]
  induction items with
  | nil => rfl
  | cons v rest ih =>
    rw [List.findSome?_cons, ← ih]
    cases v <;> rfl

theorem failure?_relatedIds_of_items?_eq_none (h : value.items? = none) :
    Result.failure? (relatedIds relationship value) = refusal? relationship value := by
  cases value with
  | null => rfl
  | arr items => cases h
  | bool b => exact Result.failure?_map (singleId relationship (.bool b)) fun id => [id]
  | num n => exact Result.failure?_map (singleId relationship (.num n)) fun id => [id]
  | str s => exact Result.failure?_map (singleId relationship (.str s)) fun id => [id]
  | obj members => exact Result.failure?_map (singleId relationship (.obj members)) fun id => [id]

/-- An input is refused for the first of its values that names no id. -/
theorem relatedIds_eq_error_iff :
    relatedIds relationship value = .error e ↔
      ∃ v, FirstUnusable value v ∧ e = .invalidArgument (.unusableIds relationship v) := by
  rw [← Result.failure?_eq_some_iff]
  cases hitems : value.items? with
  | none =>
    rw [failure?_relatedIds_of_items?_eq_none hitems, refusal?_eq_some_iff]
    constructor
    · rintro ⟨hnull, hid, he⟩
      exact ⟨value, .single hnull hitems hid, he⟩
    · rintro ⟨v, hv, he⟩
      cases hv with
      | single hnull _ hid => exact ⟨hnull, hid, he⟩
      | item => cases hitems
  | some items =>
    cases value with
    | arr items' =>
      rw [failure?_relatedIds_arr, List.findSome?_eq_some_iff]
      constructor
      · rintro ⟨before, v, after, rfl, hv, hbefore⟩
        obtain ⟨hnull, hid, he⟩ := refusal?_eq_some_iff.1 hv
        exact ⟨v, .item (fun u hu => refusal?_eq_none_iff.1 (hbefore u hu)) hnull hid, he⟩
      · rintro ⟨v, hv, he⟩
        cases hv with
        | single _ hnone _ => cases hnone
        | item hbefore hnull hid =>
          exact ⟨_, v, _, rfl, refusal?_eq_some_iff.2 ⟨hnull, hid, he⟩,
            fun u hu => refusal?_eq_none_iff.2 (hbefore u hu)⟩
    | _ => cases hitems

end

/-- An input has targets exactly if ids occur in it, possibly none, and no value beside them. They are the first
occurrences of these ids in order, stay the same when they are given as the input, and what is refused is the first
value that names no id. -/
theorem relatedIds_lists_first_occurrences (relationship : String) (value : Value) :
    ((∃ ids, relatedIds relationship value = .ok ids) ↔ ∃ named, Occurring value named) ∧
    (∀ ids, relatedIds relationship value = .ok ids ↔ ∃ named, Occurring value named ∧ FirstOccurrences named ids) ∧
    (∀ ids, relatedIds relationship value = .ok ids → relatedIds relationship (.ofStrings ids) = .ok ids) ∧
    ∀ e, relatedIds relationship value = .error e ↔
      ∃ v, FirstUnusable value v ∧ e = .invalidArgument (.unusableIds relationship v) := by
  refine ⟨?_, fun ids => relatedIds_eq_ok_iff, fun ids h => ?_, fun e => relatedIds_eq_error_iff⟩
  · constructor
    · rintro ⟨ids, hids⟩
      obtain ⟨named, hnamed, -⟩ := relatedIds_eq_ok_iff.1 hids
      exact ⟨named, hnamed⟩
    · rintro ⟨named, hnamed⟩
      exact ⟨_, relatedIds_eq_ok_iff.2 ⟨named, hnamed, .foldl_addId named⟩⟩
  · refine relatedIds_ofStrings (nodup_relatedIds h) fun id hid => ?_
    obtain ⟨v, -, hv⟩ := (mem_relatedIds h).1 hid
    exact (usableId?_eq_some_iff.1 hv).ne_empty

example : relatedIds "tags" (.arr [.str "t1", .obj [("id", .str "t2")], .null, .str "t1"]) = .ok ["t1", "t2"] := by
  rfl

end EntityGraph.Compile
