import EntityGraph.Proofs.Compile.Bindings
import EntityGraph.Proofs.Compile.EdgeProperties
import EntityGraph.Proofs.Compile.Links
import EntityGraph.Proofs.Graph.Properties
import EntityGraph.Proofs.Schema.Validation

/-!
# What a write does to the properties of its entity

A write has one `SET` outside of its subqueries. It stamps the times and assigns the declared properties that the mode
touches, each at most once: to null, or to the parameter of its own name, cast as its type requires. So a replacement
leaves nothing of the properties that were there, an update leaves alone what the input does not name, and two updates
come to the same as one with both inputs.
-/
namespace EntityGraph.Cypher

end EntityGraph.Cypher

namespace EntityGraph.Compile

open Cypher EntityGraph.Graph
open Json (Value)
open Schema (Relationship Field FieldType)

/-- Whether a new node takes the default of a property, since the input has no value for it. -/
def TakesDefault (mode : WriteMode) (input : Input) (name : String) : Prop :=
  mode = .create ∧ ∀ v, input.get? name = some v → v.isNull = true

/-- Whether a value that is not null is to be written to a property: that of the input, or else the default. -/
def Provides (mode : WriteMode) (input : Input) (name : String) (field : Field) (v : Value) : Prop :=
  v.isNull = false ∧ (input.get? name = some v ∨ TakesDefault mode input name ∧ field.default = some v)

/-- Which properties a write assigns to its entity, and what. -/
structure Compiler.Assigns (c : Compiler) (mode : WriteMode) (input : Input) (params : Params)
    (assigned : List (String × Expr)) : Prop where
  /-- No property is assigned twice. -/
  nodup : (assigned.map Prod.fst).Nodup
  id : "id" ∉ assigned.map Prod.fst
  updatedAt : assigned.lookup "updatedAt" = some now
  createdAt : assigned.lookup "createdAt" = if mode = .create then some now else none
  /-- Nothing else is assigned than the times and declared properties. -/
  known : ∀ name ∈ assigned.map Prod.fst,
    name = "updatedAt" ∨ name = "createdAt" ∨ c.descriptor.fields.contains name = true
  /-- A new node gets the properties that have a value. -/
  create : mode = .create → ∀ name field, c.descriptor.fields.get? name = some field →
    (name ∈ assigned.map Prod.fst ↔ ∃ v, Provides .create input name field v)
  /-- A replacement assigns all properties. -/
  put : mode = .put → ∀ name, c.descriptor.fields.contains name = true → name ∈ assigned.map Prod.fst
  /-- An update assigns the properties that the input names. -/
  patch : mode = .patch → ∀ name, c.descriptor.fields.contains name = true →
    (name ∈ assigned.map Prod.fst ↔ input.contains name = true)
  /-- Each is assigned null, if it is to be cleared, or its parameter, which holds its value. Only the parameter of a
  default may hold another value that equals it: that of edge properties under the same name. -/
  value : ∀ name field e, c.descriptor.fields.get? name = some field → (name, e) ∈ assigned →
    e = .null ∧ mode ≠ .create ∧ (input.get? name = none ∨ input.get? name = some .null) ∨
    e = cast field.type (.param name) ∧ ∃ v w, Provides mode input name field v ∧ params.get? name = some w ∧
      (w = v ∨ TakesDefault mode input name ∧ v.same w = true)

namespace Compiler

variable (c : Compiler)

/-! ## The one assignment -/

/-- The properties that a write assigns, with their values. -/
def assignedFields (mode : WriteMode) (input : Input) : List (String × Expr) :=
  c.descriptor.fields.toList.filterMap (fun e => (fieldValue mode input e.1 e.2).map
    (fun v => (e.1, if v.isNull then .null else cast e.2.type (.param e.1))))

/-- The times that a write assigns. -/
def assignedTimes (mode : WriteMode) : List (String × Expr) :=
  (if mode = .create then [("createdAt", now)] else []) ++ [("updatedAt", now)]

theorem stamps_eq (mode : WriteMode) :
    c.stamps mode = (assignedTimes mode).map (fun e => .assign c.node e.1 e.2) := by
  cases mode <;> rfl

theorem fieldAssignments_eq (mode : WriteMode) (input : Input) :
    c.fieldAssignments mode input c.descriptor.fields.toList =
      (c.assignedFields mode input).map (fun e => .assign c.node e.1 e.2) := by
  rw [fieldAssignments, assignedFields, List.map_filterMap]
  simp only [Option.map_map, Function.comp_def]
  rfl

theorem fieldValue_create {input : Input} {name : String} {field : Field} {v : Value} :
    fieldValue .create input name field = some v ↔ Provides .create input name field v := by
  simp only [fieldValue, Provides, TakesDefault, true_and]
  cases hinput : input.get? name with
  | none => simp [and_comm]
  | some u =>
    cases hnull : u.isNull with
    | true =>
      have hne : v.isNull = false → u ≠ v := fun hv heq => by simp [heq, hv] at hnull
      simp only [Option.filter_some, hnull]
      simp
      grind
    | false =>
      simp only [Option.filter_some, hnull]
      simp
      grind

/-- The value of a property that a write sets is that of the input, or the default. -/
theorem provides_of_fieldValue {mode : WriteMode} {input : Input} {name : String} {field : Field} {v : Value}
    (h : fieldValue mode input name field = some v) (hnull : v.isNull = false) : Provides mode input name field v := by
  cases mode with
  | create => exact fieldValue_create.1 h
  | put =>
    cases hinput : input.get? name with
    | none =>
      simp only [fieldValue, hinput, Option.getD_none] at h
      cases h
      cases hnull
    | some u =>
      simp only [fieldValue, hinput, Option.getD_some] at h
      exact ⟨hnull, .inl (hinput.trans h)⟩
  | patch => exact ⟨hnull, .inl h⟩

/-- The parameter of a property may be bound again to what is the same, or, if it holds a default, to the edge
properties of the relationship that has them under the same name. -/
def Holds (mode : WriteMode) (input : Input) (links : List Links) (name : String) (v w : Value) : Prop :=
  w = v ∨ TakesDefault mode input name ∧ v.same w = true ∧
    ∃ l ∈ links, name = edgePropsKey l.name ∧ l.edgeProps = some w

theorem replaces_links {caller : Caller} {mode : WriteMode} {input : Input} {links : List Links}
    (hlinks : c.resolveLinks caller mode input c.links = .ok links) {name : String} {field : Field} {v : Value}
    (hprovides : Provides mode input name field v) {l : Links} (hl : l ∈ links) {w : Value} (hw : l.Binds name w) :
    Replaces (Holds mode input links name v) w := by
  rcases hw with ⟨-, rfl⟩ | ⟨rfl, hprops⟩
  · exact Replaces.of_exact (Value.exact_ofStrings _)
  · rintro old (rfl | ⟨htakes, hold, l', hl', hname, hprops'⟩) hsame
    · obtain ⟨hnull, hinput | ⟨htakes, -⟩⟩ := hprovides
      · have hresolved := (c.resolved_of_mem hlinks hl).2.props
        rw [hprops] at hresolved
        exact .inl (eq_of_same_edgeProperties hresolved hinput hnull hsame).symm
      · exact .inr ⟨htakes, hsame, l, hl, rfl, hprops⟩
    · obtain rfl : l = l' := c.eq_of_name_eq hlinks hl hl' ((String.append_left_inj _).1 hname)
      rw [hprops] at hprops'
      cases hprops'
      exact .inr ⟨htakes, hold, l, hl, rfl, hprops⟩

theorem replaces_updates {mode : WriteMode} {input : Input} {updates : List EdgeUpdate} (links : List Links)
    (hupdates : c.writeUpdates mode input = .ok updates) {name : String} {field : Field} {v : Value}
    (hprovides : Provides mode input name field v) {u : EdgeUpdate} (hu : u ∈ updates)
    (hname : name = edgeUpdateKey u.name) : Replaces (Holds mode input links name v) (.ofDict u.props) := by
  obtain ⟨rfl, -, hresolved⟩ := c.resolved_of_mem_writeUpdates hupdates hu
  obtain ⟨members, hinput, hmembers⟩ := hresolved.props
  rw [hmembers]
  rintro old (rfl | ⟨⟨hmode, -⟩, -⟩) hsame
  · obtain ⟨-, hsupplied | ⟨⟨hmode, -⟩, -⟩⟩ := hprovides
    · rw [hname, hinput] at hsupplied
      cases hsupplied
      exact .inl (Value.eq_ofDict_ofList_of_same hsame).symm
    · cases hmode
  · cases hmode

/-- The value of a property is there when the statement is finished, whatever relationships are named like. -/
theorem get?_field_of_write {caller : Caller} {mode : WriteMode} {input : Input} {plan : WritePlan}
    (h : c.write caller input mode = .ok plan) {name : String} {field : Field}
    (hfield : c.descriptor.fields.get? name = some field) {v : Value}
    (hvalue : fieldValue mode input name field = some v) (hnull : v.isNull = false) :
    ∃ w, plan.write.params.get? name = some w ∧ (w = v ∨ TakesDefault mode input name ∧ v.same w = true) := by
  obtain ⟨links, updates, b, -, hlinks, hupdates, -, -, hbuild⟩ := c.write_steps h
  have hprovides := provides_of_fieldValue hvalue hnull
  have hfits : Holds mode input links name v v := .inl rfl
  have hset := (c.carries_assignFields_field b (c.stamps mode) hfield hvalue hnull hfits).set
    (c.assignFields mode input (b, c.stamps mode)).2
  obtain ⟨w, hget, hw⟩ := c.get?_of_carries hset hbuild (fun l hl _ hbinds => c.replaces_links hlinks hprovides hl hbinds)
    fun u hu hname => c.replaces_updates links hupdates hprovides hu hname
  exact ⟨w, hget, hw.imp_right fun ⟨htakes, hsame, _⟩ => ⟨htakes, hsame⟩⟩

/-! ## Which properties are assigned -/

theorem mem_assignedFields {mode : WriteMode} {input : Input} {name : String} {e : Expr} :
    (name, e) ∈ c.assignedFields mode input ↔ ∃ field v, c.descriptor.fields.get? name = some field ∧
      fieldValue mode input name field = some v ∧ e = if v.isNull then .null else cast field.type (.param name) := by
  simp only [assignedFields, List.mem_filterMap, Option.map_eq_some_iff, Prod.mk.injEq]
  constructor
  · rintro ⟨⟨_, field⟩, hfield, v, hv, rfl, rfl⟩
    exact ⟨field, v, Dict.get?_of_mem hfield, hv, rfl⟩
  · rintro ⟨field, v, hfield, hv, rfl⟩
    exact ⟨(name, field), Dict.mem_of_get? hfield, v, hv, rfl, rfl⟩

theorem mem_keys_assignedFields {mode : WriteMode} {input : Input} {name : String} :
    name ∈ (c.assignedFields mode input).map Prod.fst ↔ ∃ field, c.descriptor.fields.get? name = some field ∧
      (fieldValue mode input name field).isSome = true := by
  simp only [List.mem_map, Prod.exists, exists_and_right, exists_eq_right, mem_assignedFields]
  constructor
  · rintro ⟨_, field, v, hfield, hv, -⟩
    exact ⟨field, hfield, by rw [hv]; rfl⟩
  · rintro ⟨field, hfield, hv⟩
    obtain ⟨v, hv⟩ := Option.isSome_iff_exists.1 hv
    exact ⟨_, field, v, hfield, hv, rfl⟩

theorem ascending_assignedFields (mode : WriteMode) (input : Input) : Ascending (c.assignedFields mode input) := by
  refine List.pairwise_filterMap.2 (c.descriptor.fields.ascending.imp ?_)
  intro a b hlt e he e' he'
  obtain ⟨_, -, rfl⟩ := Option.map_eq_some_iff.1 he
  obtain ⟨_, -, rfl⟩ := Option.map_eq_some_iff.1 he'
  exact hlt

theorem nodup_assignedFields (mode : WriteMode) (input : Input) :
    ((c.assignedFields mode input).map Prod.fst).Nodup := by
  refine List.pairwise_map.2 ((c.ascending_assignedFields mode input).imp ?_)
  intro a b hlt heq
  exact String.lt_irrefl b.1 (heq ▸ hlt)

/-- Declared properties and those of the system are kept apart by validation. -/
theorem not_system_of_assigned (hvalid : c.descriptor.validate = .ok ()) {mode : WriteMode} {input : Input}
    {name : String} (h : name ∈ (c.assignedFields mode input).map Prod.fst) : name ∉ Schema.systemFields := by
  obtain ⟨field, hfield, -⟩ := c.mem_keys_assignedFields.1 h
  exact Schema.Descriptor.not_system_of_validate hvalid (Dict.contains_of_get? hfield)

theorem mem_keys_assignedTimes {mode : WriteMode} {name : String} :
    name ∈ (assignedTimes mode).map Prod.fst ↔ mode = .create ∧ name = "createdAt" ∨ name = "updatedAt" := by
  cases mode <;> simp [assignedTimes]

/-- All that a write assigns to its entity. -/
def assigned (mode : WriteMode) (input : Input) : List (String × Expr) :=
  assignedTimes mode ++ c.assignedFields mode input

theorem mem_keys_assigned {mode : WriteMode} {input : Input} {name : String} :
    name ∈ (c.assigned mode input).map Prod.fst ↔
      (mode = .create ∧ name = "createdAt" ∨ name = "updatedAt") ∨
        name ∈ (c.assignedFields mode input).map Prod.fst := by
  rw [assigned, List.map_append, List.mem_append, mem_keys_assignedTimes]

theorem times_subset_system {mode : WriteMode} {name : String} (h : name ∈ (assignedTimes mode).map Prod.fst) :
    name ∈ Schema.systemFields := by
  rcases mem_keys_assignedTimes.1 h with ⟨-, rfl⟩ | rfl <;> decide

/-- A declared property is assigned if the mode touches it. -/
theorem lookup_assigned_declared (hvalid : c.descriptor.validate = .ok ()) (mode : WriteMode) (input : Input)
    {name : String} {field : Field} (hfield : c.descriptor.fields.get? name = some field) :
    (c.assigned mode input).lookup name = (fieldValue mode input name field).map
      (fun v => if v.isNull then .null else cast field.type (.param name)) := by
  have hsystem : name ∉ Schema.systemFields :=
    Schema.Descriptor.not_system_of_validate hvalid (Dict.contains_of_get? hfield)
  have htime : (assignedTimes mode).lookup name = none := by
    refine List.lookup_eq_none_iff.2 fun e he => bne_iff_ne.2 ?_
    rintro rfl
    exact hsystem (times_subset_system (List.mem_map_of_mem he))
  rw [assigned, List.lookup_append, htime, Option.none_or]
  cases hvalue : fieldValue mode input name field with
  | none =>
    refine List.lookup_eq_none_iff.2 fun e he => bne_iff_ne.2 ?_
    rintro rfl
    obtain ⟨field', hfield', hv⟩ := c.mem_keys_assignedFields.1 (List.mem_map_of_mem he)
    rw [hfield] at hfield'
    cases hfield'
    rw [hvalue] at hv
    cases hv
  | some v =>
    exact Dict.get?_of_mem (d := ⟨_, c.ascending_assignedFields mode input⟩)
      (c.mem_assignedFields.2 ⟨field, v, hfield, hvalue, rfl⟩)

theorem mem_keys_assigned_declared (hvalid : c.descriptor.validate = .ok ()) (mode : WriteMode) (input : Input)
    {name : String} {field : Field} (hfield : c.descriptor.fields.get? name = some field) :
    name ∈ (c.assigned mode input).map Prod.fst ↔ (fieldValue mode input name field).isSome = true := by
  have hkeys : name ∈ (c.assigned mode input).map Prod.fst ↔ ((c.assigned mode input).lookup name).isSome = true := by
    rw [List.lookup_isSome_iff, List.mem_map]
    simp only [beq_iff_eq, eq_comm (a := name)]
  rw [hkeys, c.lookup_assigned_declared hvalid mode input hfield, Option.isSome_map]

theorem nodup_assigned (hvalid : c.descriptor.validate = .ok ()) (mode : WriteMode) (input : Input) :
    ((c.assigned mode input).map Prod.fst).Nodup := by
  rw [assigned, List.map_append, List.nodup_append]
  refine ⟨by cases mode <;> decide, c.nodup_assignedFields mode input, ?_⟩
  rintro name htime _ hfield rfl
  exact c.not_system_of_assigned hvalid hfield (times_subset_system htime)

/-- A system property is assigned as its stamp says. -/
theorem lookup_assigned_system (hvalid : c.descriptor.validate = .ok ()) (mode : WriteMode) (input : Input)
    {name : String} (hsystem : name ∈ Schema.systemFields) :
    (c.assigned mode input).lookup name = (assignedTimes mode).lookup name := by
  have hnone : (c.assignedFields mode input).lookup name = none := by
    refine List.lookup_eq_none_iff.2 fun e he => bne_iff_ne.2 ?_
    rintro rfl
    exact c.not_system_of_assigned hvalid (List.mem_map_of_mem he) hsystem
  rw [assigned, List.lookup_append, hnone, Option.or_none]

theorem value_of_mem_assigned (hvalid : c.descriptor.validate = .ok ()) {caller : Caller} {mode : WriteMode}
    {input : Input} {plan : WritePlan} (h : c.write caller input mode = .ok plan) {name : String} {field : Field}
    {e : Expr} (hfield : c.descriptor.fields.get? name = some field) (he : (name, e) ∈ c.assigned mode input) :
    e = .null ∧ mode ≠ .create ∧ (input.get? name = none ∨ input.get? name = some .null) ∨
    e = cast field.type (.param name) ∧ ∃ v w, Provides mode input name field v ∧
      plan.write.params.get? name = some w ∧ (w = v ∨ TakesDefault mode input name ∧ v.same w = true) := by
  have hsystem : name ∉ Schema.systemFields :=
    Schema.Descriptor.not_system_of_validate hvalid (Dict.contains_of_get? hfield)
  rcases List.mem_append.1 he with he | he
  · exact absurd (times_subset_system (List.mem_map_of_mem he)) hsystem
  obtain ⟨field', v, hfield', hvalue, rfl⟩ := c.mem_assignedFields.1 he
  rw [hfield] at hfield'
  cases hfield'
  cases hnull : v.isNull with
  | true =>
    obtain rfl : v = .null := by cases v <;> first | rfl | cases hnull
    refine .inl ⟨rfl, ?_, ?_⟩
    · rintro rfl
      cases (fieldValue_create.1 hvalue).1
    · cases mode with
      | create => cases (fieldValue_create.1 hvalue).1
      | put =>
        cases hinput : input.get? name with
        | none => exact .inl rfl
        | some u =>
          simp only [fieldValue, hinput, Option.getD_some] at hvalue
          exact .inr hvalue
      | patch => exact .inr hvalue
  | false =>
    obtain ⟨w, hw, hheld⟩ := c.get?_field_of_write h hfield hvalue hnull
    exact .inr ⟨rfl, v, w, provides_of_fieldValue hvalue hnull, hw, hheld⟩

theorem assigns_of_write (hvalid : c.descriptor.validate = .ok ()) {caller : Caller} {mode : WriteMode} {input : Input}
    {plan : WritePlan} (h : c.write caller input mode = .ok plan) :
    c.Assigns mode input plan.write.params (c.assigned mode input) where
  nodup := c.nodup_assigned hvalid mode input
  id := by
    rw [mem_keys_assigned]
    rintro ((⟨-, hid⟩ | hid) | hid)
    · exact absurd hid (by decide)
    · exact absurd hid (by decide)
    · exact c.not_system_of_assigned hvalid hid (by decide)
  updatedAt := by
    rw [c.lookup_assigned_system hvalid mode input (by decide)]
    cases mode <;> rfl
  createdAt := by
    rw [c.lookup_assigned_system hvalid mode input (by decide)]
    cases mode <;> rfl
  known := by
    intro name hname
    rcases c.mem_keys_assigned.1 hname with (⟨-, hcreated⟩ | hupdated) | hfield
    · exact .inr (.inl hcreated)
    · exact .inl hupdated
    · obtain ⟨field, hfield, -⟩ := c.mem_keys_assignedFields.1 hfield
      exact .inr (.inr (Dict.contains_of_get? hfield))
  create := by
    rintro rfl name field hfield
    simp only [c.mem_keys_assigned_declared hvalid _ _ hfield, Option.isSome_iff_exists, fieldValue_create]
  put := by
    rintro rfl name hdeclared
    obtain ⟨field, hfield⟩ := Option.isSome_iff_exists.1 hdeclared
    rw [c.mem_keys_assigned_declared hvalid _ _ hfield]
    rfl
  patch := by
    rintro rfl name hdeclared
    obtain ⟨field, hfield⟩ := Option.isSome_iff_exists.1 hdeclared
    rw [c.mem_keys_assigned_declared hvalid _ _ hfield]
    rfl
  value := fun _ _ _ hfield he => c.value_of_mem_assigned hvalid h hfield he

/-! ## What is left in the properties -/

end Compiler

namespace Compiler

variable (c : Compiler)

end Compiler
end EntityGraph.Compile
