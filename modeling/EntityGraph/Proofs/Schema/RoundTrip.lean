import EntityGraph.Proofs.Compile.Operation
import EntityGraph.Proofs.Json.Decode
import EntityGraph.Schema.Codec
import EntityGraph.Schema.Ddl
import EntityGraph.Schema.Validation

/-!
# Descriptors read back

A descriptor is written with everything that it says, and what it does not need to say is left out as its default. It is
read back as it was, if its own defaults are values that JSON can write and none of them is null, which counts as no
default. Whatever JSON a descriptor was read from, it is of this kind, so that nothing which is compiled from it changes
when it is stored and read again.
-/
namespace EntityGraph.Schema

open Json (Value optionalMember)
open Json.Decode

variable {format : Format}

/-! ## Spellings -/

theorem choice_of_lookup {α : Type} {spellings : List (String × α)} {s : String} {a : α}
    (h : spellings.lookup s = some a) : choice format spellings (.str s) = some a := h

theorem FieldType.lookup_spelling (t : FieldType) : spellings.lookup t.spelling = some t := by cases t <;> rfl

theorem Direction.lookup_spelling (d : Direction) : spellings.lookup d.spelling = some d := by cases d <;> rfl

theorem Cardinality.lookup_spelling (c : Cardinality) : spellings.lookup c.spelling = some c := by cases c <;> rfl

theorem IndexKind.lookup_spelling (k : IndexKind) : spellings.lookup k.spelling = some k := by cases k <;> rfl

theorem SortDirection.lookup_spelling (d : SortDirection) : spellings.lookup d.spelling = some d := by
  cases d <;> rfl

/-! ## The parts of a descriptor -/

theorem Field.read_toJson {f : Field} (h : Kept f.default) : Field.read format f.toJson = some f := by
  rw [toJson, Field.read, structure?_object, memberD_eq (v := .str f.type.spelling) (by simp [List.lookup_append]),
    choice_of_lookup f.type.lookup_spelling,
    member?_any h (by simp [List.lookup_append, List.lookup_cons])]
  rfl

theorem EdgeField.read_toJson {f : EdgeField} (h : Kept f.default) : EdgeField.read format f.toJson = some f := by
  rw [toJson, EdgeField.read, structure?_object, member_eq (v := .str f.name) (by simp [List.lookup_append]),
    member?_any h (by simp [List.lookup_append, List.lookup_cons])]
  rfl

theorem Relationship.read_toJson {r : Relationship} (h : ∀ f ∈ r.fields, Kept f.default) :
    Relationship.read format r.toJson = some r := by
  rw [toJson, Relationship.read, structure?_object,
    member_eq (v := .str r.type) (by simp [List.lookup_append, List.lookup_cons]),
    memberD_eq (v := .str r.direction.spelling) (by simp [List.lookup_append, List.lookup_cons]),
    choice_of_lookup r.direction.lookup_spelling,
    memberD_eq (v := .str r.cardinality.spelling) (by simp [List.lookup_append, List.lookup_cons]),
    choice_of_lookup r.cardinality.lookup_spelling,
    memberD_eq (v := .bool r.required) (by simp [List.lookup_append, List.lookup_cons]),
    member_eq (v := .str r.target) (by simp [List.lookup_append]),
    memberD_items r.fields (fun f hf => EdgeField.read_toJson (h f hf))
      (by simp [List.lookup_append, List.lookup_cons]),
    member?_eq faithful_string (a := r.contextKey) (by simp [List.lookup_append, List.lookup_cons]),
    member?_eq faithful_string (a := r.inputName) (by simp [List.lookup_append, List.lookup_cons])]
  rfl

theorem natBelow_ofNat {bits n : Nat} (h : n < Nat.pow 2 bits) : natBelow bits (.ofNat n) = some n := by
  rw [natBelow, Value.ofNat, Value.nat?, if_pos (Int.natCast_nonneg n), Int.toNat_natCast, Option.filter_some,
    if_pos (decide_eq_true h)]

theorem Index.read_toJson {i : Index} (h : ∀ n, i.dimensions = some n → n < Nat.pow 2 32) :
    Index.read format i.toJson = some i := by
  rw [toJson, Index.read, structure?_object,
    member_eq (v := .str i.name) (by simp [List.lookup_append, List.lookup_cons]),
    memberD_eq (v := .str i.kind.spelling) (by simp [List.lookup_append, List.lookup_cons]),
    choice_of_lookup i.kind.lookup_spelling,
    member_eq (v := .ofStrings i.properties) (by simp [List.lookup_append]),
    member?_of_lookup .ofNat (a := i.dimensions) (fun n hn => ⟨natBelow_ofNat (h n hn), nofun⟩)
      (by simp [List.lookup_append, List.lookup_cons]),
    member?_eq faithful_string (a := i.similarity) (by simp [List.lookup_append, List.lookup_cons]),
    Value.ofStrings, list_map faithful_string.read_write]
  rfl

theorem OrderBy.read_toJson (o : OrderBy) : OrderBy.read format o.toJson = some o := by
  rw [toJson, OrderBy.read, structure?_object, member_eq (v := .str o.field) (by simp [List.lookup_cons]),
    memberD_eq (v := .str o.direction.spelling) (by simp), choice_of_lookup o.direction.lookup_spelling]
  rfl

theorem OrderBy.faithful : Faithful (OrderBy.read format) toJson := ⟨OrderBy.read_toJson, nofun⟩

/-! ## The descriptor -/

/-- What it takes for a descriptor to be read back: its defaults can stand in JSON, the dimensions of its vectors fit 32
bits, and its result is not made by code. -/
structure Descriptor.Storable (d : Descriptor) : Prop where
  fields : ∀ e ∈ d.fields.toList, Kept e.2.default
  edgeFields : ∀ e ∈ d.relationships.toList, ∀ f ∈ e.2.fields, Kept f.default
  dimensions : ∀ i ∈ d.indexes, ∀ n, i.dimensions = some n → n < Nat.pow 2 32
  result : d.returnClause = none

theorem Descriptor.read_toJson {d : Descriptor} (h : d.Storable) : Descriptor.read format d.toJson = some d := by
  have hmodel : readModel format (.object [("node_variable", .str d.nodeVariable), ("label", .str d.label)]) =
      some (d.label, d.nodeVariable) := by
    rw [readModel, structure?_object, member_eq (v := .str d.nodeVariable) (by simp [List.lookup_cons]),
      member_eq (v := .str d.label) (by simp)]
    rfl
  have hconstraint (p : String) : readConstraint format (.object [("property", .str p)]) = some p := by
    rw [readConstraint, structure?_object, member_eq (v := .str p) (by simp)]
    rfl
  rw [toJson, Descriptor.read, structure?_object,
    member_eq (v := .object [("node_variable", .str d.nodeVariable), ("label", .str d.label)])
      (by simp [List.lookup_append, List.lookup_cons]), hmodel,
    memberD_eq (v := .bool d.companyScoped) (by simp [List.lookup_append, List.lookup_cons]),
    memberD_eq (v := .ofDict (d.fields.mapValues (fun _ f => f.toJson)))
      (by simp [List.lookup_append, List.lookup_cons]),
    dict_mapValues_of_mem fun e he => Field.read_toJson (h.fields e he),
    memberD_eq (v := .ofDict (d.relationships.mapValues (fun _ r => r.toJson)))
      (by simp [List.lookup_append, List.lookup_cons]),
    dict_mapValues_of_mem fun e he => Relationship.read_toJson (h.edgeFields e he),
    memberD_eq (v := .arr (d.constraints.map (fun p => .object [("property", .str p)])))
      (by simp [List.lookup_append, List.lookup_cons]), list_map hconstraint,
    memberD_eq (v := .arr (d.indexes.map Index.toJson)) (by simp [List.lookup_append]),
    list_map_of_mem fun i hi => Index.read_toJson (h.dimensions i hi),
    member?_eq faithful_string (a := d.fulltextIndex) (by simp [List.lookup_append, List.lookup_cons]),
    member?_eq OrderBy.faithful (a := d.defaultOrder) (by simp [List.lookup_append, List.lookup_cons])]
  show some { d with returnClause := none } = some d
  rw [← h.result]

/-! ## What was read -/

theorem ensures_field : Ensures (Field.read format) (fun f => Kept f.default) := by
  refine ensures_structure? fun ms f hms h => ?_
  simp only [Option.bind_eq_bind, Option.bind_eq_some_iff] at h
  obtain ⟨type, -, default, hdefault, hf⟩ := h
  cases hf
  exact kept_of_member? hms hdefault

theorem ensures_edgeField : Ensures (EdgeField.read format) (fun f => Kept f.default) := by
  refine ensures_structure? fun ms f hms h => ?_
  simp only [Option.bind_eq_bind, Option.bind_eq_some_iff] at h
  obtain ⟨name, -, default, hdefault, hf⟩ := h
  cases hf
  exact kept_of_member? hms hdefault

theorem ensures_relationship : Ensures (Relationship.read format) (fun r => ∀ f ∈ r.fields, Kept f.default) := by
  refine ensures_structure? fun ms r hms h => ?_
  simp only [Option.bind_eq_bind, Option.bind_eq_some_iff] at h
  obtain ⟨type, -, direction, -, cardinality, -, mandatory, -, target, -, fields, hfields, contextKey, -, inputName, -,
    hr⟩ := h
  cases hr
  exact ensures_edgeField.list.memberD hms (List.forall_mem_nil _) hfields

theorem ensures_index : Ensures (Index.read format) (fun i => ∀ n, i.dimensions = some n → n < Nat.pow 2 32) := by
  refine ensures_structure? fun ms i hms h => ?_
  simp only [Option.bind_eq_bind, Option.bind_eq_some_iff] at h
  obtain ⟨name, -, kind, -, properties, -, dimensions, hdimensions, similarity, -, hi⟩ := h
  cases hi
  exact (ensures_natBelow 32).member? hms hdimensions

/-- Whatever JSON a descriptor is read from, it can be stored. -/
theorem Descriptor.ensures_storable : Ensures (Descriptor.read format) Storable := by
  refine ensures_structure? fun ms d hms h => ?_
  simp only [Option.bind_eq_bind, Option.bind_eq_some_iff] at h
  obtain ⟨model, -, companyScoped, -, fields, hfields, relationships, hrelationships, constraints, -, indexes, hindexes,
    fulltextIndex, -, defaultOrder, -, hd⟩ := h
  cases hd
  exact {
    fields := ensures_field.dict.memberD hms (List.forall_mem_nil _) hfields
    edgeFields := ensures_relationship.dict.memberD hms (List.forall_mem_nil _) hrelationships
    dimensions := ensures_index.list.memberD hms (List.forall_mem_nil _) hindexes
    result := rfl }

/-! ## What is written -/

theorem isWritable_text {o : Option String} : ∀ v, o.map Value.str = some v → v.IsWritable := by
  rintro _ hv
  obtain ⟨s, -, rfl⟩ := Option.map_eq_some_iff.1 hv
  exact Value.isWritable_str s

theorem isWritable_withDefault {key text : String} {default : Option Value} (h : Kept default) :
    (Value.object ([(key, .str text)] ++ optionalMember "default" default)).IsWritable := by
  refine Value.isWritable_object ?_
  simp only [List.forall_mem_append, List.forall_mem_cons, Json.forall_mem_optionalMember]
  exact ⟨⟨rfl, List.forall_mem_nil _⟩, fun v hv => (h v hv).1⟩

theorem EdgeField.isWritable_toJson {f : EdgeField} (h : Kept f.default) : f.toJson.IsWritable :=
  isWritable_withDefault h

theorem Field.isWritable_toJson {f : Field} (h : Kept f.default) : f.toJson.IsWritable := isWritable_withDefault h

theorem Relationship.isWritable_toJson {r : Relationship} (h : ∀ f ∈ r.fields, Kept f.default) :
    r.toJson.IsWritable := by
  have hfields : (Value.arr (r.fields.map EdgeField.toJson)).IsWritable :=
    Value.isWritable_arr_iff.2 (List.forall_mem_map.2 fun f hf => EdgeField.isWritable_toJson (h f hf))
  refine Value.isWritable_object ?_
  simp only [List.forall_mem_append, List.forall_mem_cons, Json.forall_mem_optionalMember]
  refine ⟨⟨⟨⟨rfl, rfl, rfl, rfl, rfl, List.forall_mem_nil _⟩, ?_⟩, isWritable_text⟩, isWritable_text⟩
  split
  · exact List.forall_mem_nil _
  · exact List.forall_mem_singleton.2 hfields

theorem Index.isWritable_toJson (i : Index) : i.toJson.IsWritable := by
  refine Value.isWritable_object ?_
  simp only [List.forall_mem_append, List.forall_mem_cons, Json.forall_mem_optionalMember]
  refine ⟨⟨⟨rfl, rfl, Value.isWritable_ofStrings _, List.forall_mem_nil _⟩, fun v hv => ?_⟩, isWritable_text⟩
  obtain ⟨n, -, rfl⟩ := Option.map_eq_some_iff.1 hv
  exact Value.isWritable_ofNat n

theorem isWritable_mapValues {α : Type} {d : Dict α} {write : α → Value}
    (h : ∀ e ∈ d.toList, (write e.2).IsWritable) : (Value.ofDict (d.mapValues (fun _ => write))).IsWritable :=
  Value.isWritable_obj_iff.2 (List.forall_mem_map.2 h)

theorem Descriptor.isWritable_toJson {d : Descriptor} (h : d.Storable) : d.toJson.IsWritable := by
  have hfields : (Value.ofDict (d.fields.mapValues (fun _ f => f.toJson))).IsWritable :=
    isWritable_mapValues fun e he => Field.isWritable_toJson (h.fields e he)
  have hrelationships : (Value.ofDict (d.relationships.mapValues (fun _ r => r.toJson))).IsWritable :=
    isWritable_mapValues fun e he => Relationship.isWritable_toJson (h.edgeFields e he)
  have hmodel : (Value.object [("node_variable", .str d.nodeVariable), ("label", .str d.label)]).IsWritable :=
    Value.isWritable_object (by simp)
  have hconstraints : (Value.arr (d.constraints.map (fun p => .object [("property", .str p)]))).IsWritable :=
    Value.isWritable_arr_iff.2 (List.forall_mem_map.2 fun p _ => Value.isWritable_object (by simp))
  have hindexes : (Value.arr (d.indexes.map Index.toJson)).IsWritable :=
    Value.isWritable_arr_iff.2 (List.forall_mem_map.2 fun i _ => i.isWritable_toJson)
  refine Value.isWritable_object ?_
  simp only [List.forall_mem_append, List.forall_mem_cons, Json.forall_mem_optionalMember]
  refine ⟨⟨⟨hmodel, rfl, hfields, hrelationships, hconstraints, hindexes, List.forall_mem_nil _⟩, isWritable_text⟩,
    fun v hv => ?_⟩
  obtain ⟨o, -, rfl⟩ := Option.map_eq_some_iff.1 hv
  exact Value.isWritable_object (by simp)

/-! ## Stored and read again -/

/-- What is written of a descriptor that was read is JSON, and it is read as the same descriptor: it is valid or
refused for the same reason, its statements are the same, and so is whatever is compiled. The descriptors that can be
read at all are the storable ones. -/
theorem stored_descriptor_is_the_same :
    (∀ format v d, v.IsWritable → Descriptor.read format v = some d →
      d.toJson.IsWritable ∧ Descriptor.read .json d.toJson = some d ∧
      ∀ d', Descriptor.read .json d.toJson = some d' →
        d'.validate = d.validate ∧ d'.ddl = d.ddl ∧
          ∀ settings caller op, (Compile.Compiler.mk d' settings).compile caller op =
            (Compile.Compiler.mk d settings).compile caller op) ∧
    ∀ d, (∃ v : Value, v.IsWritable ∧ Descriptor.read .json v = some d) ↔ d.Storable := by
  refine ⟨fun format v d hv h => ?_, fun d => ⟨?_, fun h => ?_⟩⟩
  · have hstorable : d.Storable := Descriptor.ensures_storable v d hv h
    have hread : Descriptor.read .json d.toJson = some d := Descriptor.read_toJson hstorable
    refine ⟨Descriptor.isWritable_toJson hstorable, hread, fun d' hd' => ?_⟩
    obtain rfl : d = d' := Option.some.inj (hread.symm.trans hd')
    exact ⟨rfl, rfl, fun _ _ _ => rfl⟩
  · rintro ⟨v, hv, h⟩
    exact Descriptor.ensures_storable v d hv h
  · exact ⟨d.toJson, Descriptor.isWritable_toJson h, Descriptor.read_toJson h⟩

/-- A schema with what may be left out, a spelling as the only key of an object, structures that are lists, a default
that is null and members that nobody asks for. -/
def terse : Value :=
  .obj [("fields", .obj [("status", .obj [("default", .str "draft"), ("note", .bool true)]),
      ("title", .obj [("default", .null)]), ("vector", .obj [("type", .str "number[]")])]),
    ("indexes", .arr [.obj [("dimensions", .ofNat 3), ("name", .str "near"), ("properties", .arr [.str "vector"]),
      ("similarity", .null), ("type", .obj [("vector", .null)])]]),
    ("model", .arr [.str "article", .str "Article"]),
    ("relationships", .obj [("tags", .obj [("cardinality", .str "many"),
      ("fields", .arr [.arr [.str "weight", .ofNat 1], .arr [.str "since"]]), ("relationship_label", .str "TAGGED"),
      ("target_label", .str "Tag")])]),
    ("version", .ofNat 2)]

theorem stored_descriptor_is_the_same_terse :
    terse.IsWritable ∧ ∃ d, Descriptor.read .json terse = some d ∧ Descriptor.read .json d.toJson = some d ∧
      d.validate.toOption = some () ∧ (d.label, d.nodeVariable) = ("Article", "article") ∧
        (d.relationships.get? "tags").map (fun r => (r.required, r.fields.length)) = some (false, 2) := by
  have hterse : terse.IsWritable := rfl
  obtain ⟨d, hd, htags⟩ : ∃ d, Descriptor.read .json terse = some d ∧ d.validate.toOption = some () ∧
      (d.label, d.nodeVariable) = ("Article", "article") ∧
      (d.relationships.get? "tags").map (fun r => (r.required, r.fields.length)) = some (false, 2) := by
    refine ⟨_, rfl, ?_⟩
    decide +kernel
  exact ⟨hterse, d, hd, (stored_descriptor_is_the_same.1 .json terse d hterse hd).2.1, htags⟩

end EntityGraph.Schema
