import EntityGraph.Proofs.Compile.EdgeProperties
import EntityGraph.Proofs.Compile.Targets

/-!
# Filled edge properties

What a write puts on the edges of a relationship: under each declared name what the input supplies, or else the default.
For one target that is a single map, for many a map for each target and no other. And exactly which supplied values are
refused: those that name anything which is not declared, or a target that is not linked.
-/
namespace EntityGraph.Compile

open Json (Value)
open Schema (Relationship)

/-- Whether a relationship declares a property of its edges. -/
def Declares (r : Relationship) (key : String) : Prop := ∃ f ∈ r.fields, f.name = key

/-- The default for a property of edges. Of fields with the same name the last one that has a default counts. -/
def declaredDefault (r : Relationship) (key : String) : Option Value :=
  r.fields.reverse.findSome? (fun f => if f.name = key then f.default else none)

/-- Whether a value describes an edge of a relationship: null, or an object of declared properties. -/
def DescribesEdge (r : Relationship) (v : Value) : Prop :=
  v = .null ∨ ∃ members, v = .obj members ∧ ∀ m ∈ members, Declares r m.1

/-- The properties in a value that may be missing. Null has none. -/
def propsOf (v : Option Value) : Dict Value := (v.map Value.dict).getD ∅

/-- Properties that are filled in: what is supplied goes before the default, and all of them are declared. -/
structure Filled (r : Relationship) (supplied props : Dict Value) : Prop where
  value : ∀ key, props.get? key = (supplied.get? key).or (declaredDefault r key)
  declared : ∀ key, props.contains key = true → Declares r key

/-- What the input supplies for the edges of a relationship, where null counts as nothing. -/
def suppliedProps (input : Input) (name : String) : Option Value :=
  (input.get? (edgePropsKey name)).filter (fun v => !v.isNull)

/-- The map that is filled in for the targets of a relationship: the properties of the one edge, or an entry for each
target. -/
def FilledFor (r : Relationship) (ids : List String) (supplied : Option Value) (filled : Dict Value) : Prop :=
  match r.cardinality with
  | .one => Filled r (propsOf supplied) filled
  | .many => (∀ id, filled.contains id = true ↔ id ∈ ids) ∧
      ∀ id ∈ ids, ∃ props, filled.get? id = some (.ofDict props) ∧ Filled r (propsOf ((propsOf supplied).get? id)) props

/-- What may be supplied for the edges of a relationship to these targets. -/
def AdmitsProps (r : Relationship) (ids : List String) (v : Value) : Prop :=
  r.fields ≠ [] ∧
    match r.cardinality with
    | .one => DescribesEdge r v
    | .many => ∃ members, v = .obj members ∧ ∀ id entry, v.dict.get? id = some entry → id ∈ ids ∧ DescribesEdge r entry

theorem suppliedProps_eq_some_iff {input : Input} {name : String} {v : Value} :
    suppliedProps input name = some v ↔ input.get? (edgePropsKey name) = some v ∧ v.isNull = false := by
  rw [suppliedProps, Option.filter_eq_some_iff, Bool.not_eq_true']

variable {name : String} {r : Relationship}

/-! ## One edge -/

theorem get?_edgeDefaults (r : Relationship) (key : String) : (edgeDefaults r).get? key = declaredDefault r key := by
  unfold edgeDefaults declaredDefault
  -- the induction is over all properties that are there before, and of these none give anything
  refine Eq.trans ?_ (Option.or_none ..)
  change _ = Option.or _ ((∅ : Dict Value).get? key)
  generalize (∅ : Dict Value) = d
  induction r.fields generalizing d with
  | nil => rfl
  | cons f rest ih =>
    rw [List.foldl_cons, ih, List.reverse_cons, List.findSome?_append, Option.or_assoc]
    congr 1
    cases hdefault : f.default with
    | none => simp [hdefault]
    | some v =>
      rw [Dict.get?_insert]
      by_cases hkey : f.name = key
      · simp [hdefault, hkey]
      · simp [hkey, Ne.symm hkey]

theorem declares_of_default {key : String} {v : Value} (h : declaredDefault r key = some v) : Declares r key := by
  obtain ⟨f, hf, hdefault⟩ := List.exists_of_findSome?_eq_some h
  split at hdefault
  · rename_i hname
    exact ⟨f, List.mem_reverse.1 hf, hname⟩
  · cases hdefault

variable (name) in
theorem checkEdgeFields_eq_ok_iff {v : Value} : checkEdgeFields name r v = .ok () ↔ DescribesEdge r v := by
  cases v with
  | obj members =>
    have hdeclares (m : String × Value) :
        (!r.fields.any (fun f => decide (f.name = m.1))) = false ↔ Declares r m.1 := by
      simp [Declares]
    simp only [checkEdgeFields, DescribesEdge, reduceCtorEq, false_or, Value.obj.injEq, exists_eq_left']
    cases hfound : members.find? (fun m => !r.fields.any (fun f => decide (f.name = m.1))) with
    | none =>
      refine iff_of_true rfl fun m hm => (hdeclares m).1 ?_
      simpa using List.find?_eq_none.1 hfound m hm
    | some m =>
      refine iff_of_false (by simp [refuse]) fun hall => ?_
      have hundeclared := List.find?_some hfound
      rw [(hdeclares m).2 (hall m (List.mem_of_find?_eq_some hfound))] at hundeclared
      cases hundeclared
  | null => simp [checkEdgeFields, DescribesEdge]
  | _ => simp [checkEdgeFields, DescribesEdge, refuse]

theorem DescribesEdge.declares {v : Value} (h : DescribesEdge r v) {key : String} (hkey : v.dict.contains key = true) :
    Declares r key := by
  rcases h with rfl | ⟨members, rfl, hdeclared⟩
  · cases hkey
  · obtain ⟨m, hm, rfl⟩ := List.mem_map.1 (Dict.contains_iff.1 hkey)
    exact hdeclared m (Dict.mem_of_mem_ofList hm)

theorem fillEdge_ok_iff {supplied : Option Value} :
    (∃ props, fillEdge name r supplied = .ok props) ↔ ∀ v, supplied = some v → DescribesEdge r v := by
  cases supplied with
  | none => simp [fillEdge]
  | some v =>
    simp only [fillEdge, Result.bind_eq_ok_iff, Option.some.injEq, forall_eq', ← checkEdgeFields_eq_ok_iff name]
    constructor
    · rintro ⟨_, _, hcheck, -⟩
      exact hcheck
    · exact fun hcheck => ⟨_, (), hcheck, rfl⟩

/-- The properties of an edge are those that are supplied, over the defaults. -/
theorem filled_of_fillEdge {supplied : Option Value} {props : Dict Value} (h : fillEdge name r supplied = .ok props) :
    Filled r (propsOf supplied) props := by
  cases supplied with
  | none =>
    cases h
    refine ⟨fun key => (get?_edgeDefaults r key).trans (Option.none_or ..).symm, fun key hkey => ?_⟩
    obtain ⟨v, hv⟩ := Option.isSome_iff_exists.1 hkey
    exact declares_of_default ((get?_edgeDefaults r key).symm.trans hv)
  | some v =>
    obtain ⟨_, hcheck, h⟩ := Result.bind_eq_ok_iff.1 h
    cases h
    refine ⟨fun key => by rw [Dict.get?_overlay, get?_edgeDefaults]; rfl, fun key hkey => ?_⟩
    rcases (Dict.contains_overlay ..).1 hkey with hsupplied | hdefault
    · exact ((checkEdgeFields_eq_ok_iff name).1 hcheck).declares hsupplied
    · obtain ⟨v, hv⟩ := Option.isSome_iff_exists.1 hdefault
      exact declares_of_default ((get?_edgeDefaults r key).symm.trans hv)

/-! ## The edges to many targets -/

/-- The entries of the targets are filled one by one, and then put together. -/
theorem fillTargets_eq (supplied : Dict Value) (ids : List String) :
    fillTargets name r supplied ids =
      (ids.mapM (fun id => (fillEdge name r (supplied.get? id)).map (fun props => (id, props)))).map
        (fun entries => entries.foldl (fun d e => d.insert e.1 (.ofDict e.2)) ∅) := by
  rw [← Result.foldlM_map_eq]
  have hmap (d : Dict Value) (id : String) :
      (fillEdge name r (supplied.get? id)).map (fun props => d.insert id (.ofDict props)) =
        ((fillEdge name r (supplied.get? id)).map (fun props => (id, props))).map
          (fun e => d.insert e.1 (.ofDict e.2)) := by
    cases fillEdge name r (supplied.get? id) <;> rfl
  simp only [fillTargets, hmap]

theorem contains_fillTargets {supplied : Dict Value} {ids : List String} {filled : Dict Value}
    (h : fillTargets name r supplied ids = .ok filled) (id : String) : filled.contains id = true ↔ id ∈ ids := by
  rw [fillTargets_eq] at h
  obtain ⟨entries, hentries, rfl⟩ := Result.map_eq_ok_iff.1 h
  obtain ⟨hids, hof⟩ := Result.mem_of_mapM_eq_ok hentries
  rw [Dict.contains_foldl (fun d e => Dict.contains_insert d e.1 id (.ofDict e.2)), Dict.contains_empty]
  simp only [Bool.false_eq_true, or_false]
  constructor
  · rintro ⟨e, he, rfl⟩
    obtain ⟨id, hid, hfilled⟩ := hof e he
    obtain ⟨props, -, rfl⟩ := Result.map_eq_ok_iff.1 hfilled
    exact hid
  · intro hid
    obtain ⟨e, he, hfilled⟩ := hids id hid
    obtain ⟨props, -, rfl⟩ := Result.map_eq_ok_iff.1 hfilled
    exact ⟨_, he, rfl⟩

theorem fillTargets_ok_iff {supplied : Dict Value} {ids : List String} :
    (∃ filled, fillTargets name r supplied ids = .ok filled) ↔
      ∀ id ∈ ids, ∀ v, supplied.get? id = some v → DescribesEdge r v := by
  simp only [fillTargets_eq, Result.map_ok_iff, Result.mapM_ok_iff, fillEdge_ok_iff]

/-! ## All edges of a relationship -/

/-- What is supplied for many targets is looked up by target, and each target has to be linked. -/
theorem stray_eq_none_iff {supplied : Dict Value} {ids : List String} :
    supplied.keys.find? (fun id => !ids.contains id) = none ↔ ∀ id entry, supplied.get? id = some entry → id ∈ ids := by
  rw [List.find?_eq_none]
  constructor
  · intro h id entry hentry
    simpa using h id (Dict.contains_iff.1 (Dict.contains_of_get? hentry))
  · intro h id hid
    obtain ⟨entry, hentry⟩ := Option.isSome_iff_exists.1 (Dict.contains_iff.2 hid)
    simpa using h id entry hentry

/-- The entries of all linked targets, unless something is supplied for a target that is not linked. -/
def fillLinked (name : String) (r : Relationship) (ids : List String) (supplied : Dict Value) : Result (Option Value) :=
  match supplied.keys.find? (fun id => !ids.contains id) with
  | some stray => refuse (.strayTarget (edgePropsKey name) stray)
  | none => (fillTargets name r supplied ids).map (fun props => some (.ofDict props))

theorem fillLinked_ok_iff {ids : List String} {supplied : Dict Value} :
    (∃ props, fillLinked name r ids supplied = .ok props) ↔
      ∀ id entry, supplied.get? id = some entry → id ∈ ids ∧ DescribesEdge r entry := by
  unfold fillLinked
  cases hstray : supplied.keys.find? (fun id => !ids.contains id) with
  | some stray =>
    refine iff_of_false (by simp [refuse]) fun hall => ?_
    rw [stray_eq_none_iff.2 fun id entry hentry => (hall id entry hentry).1] at hstray
    cases hstray
  | none =>
    have hlinked := stray_eq_none_iff.1 hstray
    rw [Result.map_ok_iff, fillTargets_ok_iff]
    constructor
    · intro hall id entry hentry
      have hid := hlinked id entry hentry
      exact ⟨hid, hall id hid entry hentry⟩
    · exact fun hall id _ entry hentry => (hall id entry hentry).2

theorem filled_of_fillLinked {ids : List String} {supplied : Dict Value} {props : Option Value}
    (h : fillLinked name r ids supplied = .ok props) :
    ∃ filled, props = some (.ofDict filled) ∧ (∀ id, filled.contains id = true ↔ id ∈ ids) ∧
      ∀ id ∈ ids, ∃ entry, filled.get? id = some (.ofDict entry) ∧ Filled r (propsOf (supplied.get? id)) entry := by
  unfold fillLinked at h
  split at h
  · cases h
  · obtain ⟨filled, hfilled, rfl⟩ := Result.map_eq_ok_iff.1 h
    refine ⟨filled, rfl, contains_fillTargets hfilled, fun id hid => ?_⟩
    obtain ⟨entry, hentry⟩ := Option.isSome_iff_exists.1 ((contains_fillTargets hfilled id).2 hid)
    obtain ⟨props, hprops, rfl⟩ := get?_fillTargets hfilled hentry
    exact ⟨props, hentry, filled_of_fillEdge hprops⟩

/-- What is supplied for many targets has to be given by target, if anything is. -/
theorem edgeProperties_many {input : Input} {ids : List String} (hfields : r.fields.isEmpty = false)
    (hcard : r.cardinality = .many) :
    edgeProperties name r input ids =
      match suppliedProps input name with
      | none => fillLinked name r ids ∅
      | some (.obj members) => fillLinked name r ids (Dict.ofList members)
      | some _ => refuse (.edgePropertiesNotByTarget (edgePropsKey name)) := by
  unfold edgeProperties
  rw [← suppliedProps, hfields, hcard]
  cases suppliedProps input name with
  | none => rfl
  | some v => cases v <;> rfl

theorem edgeProperties_one {input : Input} {ids : List String} (hfields : r.fields.isEmpty = false)
    (hcard : r.cardinality = .one) :
    edgeProperties name r input ids =
      (fillEdge name r (suppliedProps input name)).map (fun props => some (.ofDict props)) := by
  unfold edgeProperties
  rw [← suppliedProps, hfields, hcard]
  rfl

theorem edgeProperties_bare {input : Input} {ids : List String} (hfields : r.fields = []) :
    edgeProperties name r input ids =
      if (suppliedProps input name).isSome then refuse (.noEdgeFields name) else .ok none := by
  unfold edgeProperties
  rw [← suppliedProps, hfields]
  rfl

/-- Whatever is not admitted is refused, and nothing else. -/
theorem edgeProperties_ok_iff {input : Input} {ids : List String} :
    (∃ props, edgeProperties name r input ids = .ok props) ↔
      ∀ v, suppliedProps input name = some v → AdmitsProps r ids v := by
  unfold AdmitsProps
  by_cases hfields : r.fields = []
  · rw [edgeProperties_bare hfields]
    cases suppliedProps input name <;> simp [hfields, refuse]
  · have hdeclared : r.fields.isEmpty = false := by simpa using hfields
    cases hcard : r.cardinality with
    | one =>
      simp only [edgeProperties_one hdeclared hcard, Result.map_ok_iff, fillEdge_ok_iff, ne_eq, hfields,
        not_false_eq_true, true_and]
    | many =>
      simp only [edgeProperties_many hdeclared hcard, ne_eq, hfields, not_false_eq_true, true_and]
      cases suppliedProps input name with
      | none =>
        refine fillLinked_ok_iff.trans (iff_of_true ?_ ?_)
        · intro id entry hentry
          cases hentry
        · intro v hv
          cases hv
      | some v =>
        cases v with
        | obj members => exact fillLinked_ok_iff.trans (by simp [Value.dict])
        | _ => simp [refuse]

/-- The properties that a write puts on edges are filled in. Only a relationship without edge properties has none. -/
theorem filledFor_of_edgeProperties {input : Input} {ids : List String} {props : Option Value}
    (h : edgeProperties name r input ids = .ok props) :
    (r.fields = [] → props = none) ∧
      (r.fields ≠ [] →
        ∃ filled, props = some (.ofDict filled) ∧ FilledFor r ids (suppliedProps input name) filled) := by
  constructor
  · intro hfields
    rw [edgeProperties_bare hfields] at h
    split at h
    · cases h
    · cases h
      rfl
  · intro hfields
    have hdeclared : r.fields.isEmpty = false := by simpa using hfields
    unfold FilledFor
    cases hcard : r.cardinality with
    | one =>
      rw [edgeProperties_one hdeclared hcard] at h
      obtain ⟨filled, hfilled, rfl⟩ := Result.map_eq_ok_iff.1 h
      exact ⟨filled, rfl, filled_of_fillEdge hfilled⟩
    | many =>
      rw [edgeProperties_many hdeclared hcard] at h
      cases hsupplied : suppliedProps input name with
      | none =>
        rw [hsupplied] at h
        exact filled_of_fillLinked h
      | some v =>
        rw [hsupplied] at h
        cases v with
        | obj members => exact filled_of_fillLinked h
        | _ => cases h

/-- Only edges with declared properties are given any. -/
theorem fields_of_edgeProperties {input : Input} {ids : List String} {props : Value}
    (h : edgeProperties name r input ids = .ok (some props)) : r.fields ≠ [] := by
  intro hfields
  cases (filledFor_of_edgeProperties h).1 hfields

/-! ## Changes of edges -/

/-- What may be given as changes of a relationship's edges: declared properties by target. -/
def AdmitsChanges (r : Relationship) (v : Value) : Prop :=
  r.fields ≠ [] ∧ ∃ members, v = .obj members ∧ ∀ id entry, v.dict.get? id = some entry → DescribesEdge r entry

variable (name) in
theorem checkAll_eq_ok_iff {d : Dict Value} :
    d.values.forM (checkEdgeFields name r) = .ok () ↔ ∀ id entry, d.get? id = some entry → DescribesEdge r entry := by
  rw [Result.forM_eq_ok_iff]
  simp only [Dict.values, List.forall_mem_map, checkEdgeFields_eq_ok_iff, Prod.forall, Dict.mem_toList_iff]

/-- How the changes of a relationship's edges are resolved: null is none, and an object is checked entry by entry. -/
theorem resolveEdgeUpdate_eq_ok_iff {input : Input} {update : Option EdgeUpdate} :
    resolveEdgeUpdate input name r = .ok update ↔
      (∀ v, input.get? (edgeUpdateKey name) = some v → v.isNull = true) ∧ update = none ∨
        ∃ v, input.get? (edgeUpdateKey name) = some v ∧ AdmitsChanges r v ∧ update = some ⟨name, r, v.dict⟩ := by
  unfold resolveEdgeUpdate AdmitsChanges
  cases hinput : input.get? (edgeUpdateKey name) with
  | none => simp [eq_comm (a := none) (b := update)]
  | some v =>
    cases v with
    | null => simp [Value.isNull, eq_comm (a := none) (b := update)]
    | obj members =>
      simp only [Result.ite_refuse_eq_ok_iff, Result.bind_eq_ok_iff, Value.dict, Value.isNull,
        ← checkAll_eq_ok_iff name, Option.some.injEq, forall_eq', Bool.false_eq_true, false_and, false_or,
        exists_eq_left', Value.obj.injEq, List.isEmpty_iff, Except.ok.injEq, eq_comm (b := update), ne_eq]
      constructor
      · rintro ⟨hfields, _, hcheck, hupdate⟩
        exact ⟨⟨hfields, hcheck⟩, hupdate⟩
      · rintro ⟨⟨hfields, hcheck⟩, hupdate⟩
        exact ⟨hfields, (), hcheck, hupdate⟩
    | _ => simp [refuse, Value.isNull]

end EntityGraph.Compile
