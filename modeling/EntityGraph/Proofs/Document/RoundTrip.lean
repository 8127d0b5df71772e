import EntityGraph.Document.Codec
import EntityGraph.Document.Failure
import EntityGraph.Proofs.Document.Linkage
import EntityGraph.Proofs.Json.Decode

/-!
# Documents read back

Every part of a document is read back as it was written. The document itself is too, unless its primary data is null:
a member that is null counts as absent, so a document that says that no resource was found is read as one that says
nothing of a resource. Of the documents that are assembled only the one of no entity is such a document, and of those
that are read none is.
-/
namespace EntityGraph

open Json (Value optionalMember)
open Json.Decode

namespace Document

@[simp] theorem lookup_optionalItems (key other : String) (items : List Value) :
    (optionalItems key items).lookup other = if other = key ∧ items ≠ [] then some (.arr items) else none := by
  cases items with
  | nil => simp [optionalItems]
  | cons v rest => simp [optionalItems, Entries.lookup_cons_eq]

@[simp] theorem reverse_optionalItems (key : String) (items : List Value) :
    (optionalItems key items).reverse = optionalItems key items := by
  cases items <;> rfl

/-! ## The parts of a document -/

theorem Links.faithful : Faithful Links.read Links.toJson where
  read_write l := by
    rw [toJson, Links.read, structure?_object,
      member?_eq faithful_string (a := l.toSelf) (by simp [List.lookup_append]),
      member?_eq faithful_string (a := l.next) (by simp [List.lookup_append]),
      member?_eq faithful_string (a := l.prev) (by simp [List.lookup_append]),
      member?_eq faithful_string (a := l.related) (by simp [List.lookup_append])]
    rfl
  ne_null := nofun

theorem Identifier.faithful : Faithful Identifier.read toJson where
  read_write i := by
    rw [toJson, Identifier.read, structure?_object, member_eq (v := .str i.type) (by simp [List.lookup_cons]),
      member_eq (v := .str i.id) (by simp)]
    rfl
  ne_null := nofun

/-- A list of identifiers is none itself, which would begin with its type. -/
theorem Identifier.read_map_toJson (targets : List Identifier) : Identifier.read (.arr (targets.map toJson)) = none :=
  structure?_arr_eq_none (List.forall_mem_map.2 fun _ _ => rfl) _

theorem Linkage.read_toJson (l : Linkage) : Linkage.read l.toJson = some l := by
  match l with
  | .one none => rfl
  | .one (some target) => exact oneOrMany_one Identifier.faithful target
  | .many targets => exact oneOrMany_many Identifier.faithful (Identifier.read_map_toJson targets)

theorem Relationship.read_toJson (r : Relationship) : Relationship.read r.toJson = some r := by
  rw [toJson, Relationship.read, structure?_object, member_eq (v := r.linkage.toJson) (by simp [List.lookup_append]),
    member?_eq Links.faithful (a := r.links) (by simp [List.lookup_append, List.lookup_cons]),
    r.linkage.read_toJson]
  rfl

theorem Resource.faithful : Faithful Resource.read toJson where
  read_write r := by
    rw [toJson, Resource.read, structure?_object,
      member_eq (v := .str r.type) (by simp [List.lookup_append, List.lookup_cons]),
      member_eq (v := .str r.id) (by simp [List.lookup_append, List.lookup_cons]),
      memberD_eq (v := .ofDict r.attributes) (by simp [List.lookup_append]),
      member?_eq (faithful_dict Relationship.read_toJson) (a := r.relationships)
        (by simp [List.lookup_append, List.lookup_cons]),
      member?_eq Links.faithful (a := r.links) (by simp [List.lookup_append, List.lookup_cons]),
      member?_eq faithful_ofDict (a := r.metadata) (by simp [List.lookup_append, List.lookup_cons]),
      faithful_ofDict.read_write]
    rfl
  ne_null := nofun

/-- A list of resources is none itself, which would begin with its type. -/
theorem Resource.read_map_toJson (resources : List Resource) : Resource.read (.arr (resources.map toJson)) = none :=
  structure?_arr_eq_none (List.forall_mem_map.2 fun _ _ => rfl) _

theorem Fault.read_toJson (f : Fault) : Fault.read f.toJson = some f := by
  rw [toJson, Fault.read, structure?_object, member_eq (v := .str f.status) (by simp [List.lookup_cons]),
    member_eq (v := .str f.code) (by simp [List.lookup_cons]),
    member_eq (v := .str f.title) (by simp [List.lookup_cons]), member_eq (v := .str f.detail) (by simp)]
  rfl

/-! ## The document -/

/-- Whether the primary data says that no resource was found. -/
def Primary.isNull : Primary → Bool
  | .one none => true
  | _ => false

/-- The document without primary data that is null. -/
def asRead (d : Document) : Document := { d with primary := d.primary.filter (fun p => !p.isNull) }

theorem Primary.read_toJson (p : Primary) : Primary.read p.toJson = some p := by
  match p with
  | .one none => rfl
  | .one (some resource) => exact oneOrMany_one Resource.faithful resource
  | .many resources => exact oneOrMany_many Resource.faithful (Resource.read_map_toJson resources)

/-- Primary data that is null counts as absent. -/
theorem member?_primary {ms : Members} (primary : Option Primary)
    (hlookup : ms.lookup "data" = primary.map Primary.toJson) :
    member? ms "data" Primary.read = some (primary.filter (fun p => !p.isNull)) := by
  rw [member?, hlookup]
  rcases primary with - | (- | resource) | resources
  · rfl
  · rfl
  · exact congrArg (Option.map some) (Primary.one (some resource)).read_toJson
  · exact congrArg (Option.map some) (Primary.many resources).read_toJson

/-- What is read of a written document. -/
theorem read_toJson (d : Document) : read d.toJson = some d.asRead := by
  rw [toJson, read, structure?_object,
    member?_eq Links.faithful (a := d.links) (by simp [List.lookup_append]),
    member?_primary d.primary (by simp [List.lookup_append]),
    memberD_items d.included (fun r _ => Resource.faithful.read_write r) (by simp [List.lookup_append]),
    member?_eq faithful_ofDict (a := d.metadata) (by simp [List.lookup_append]),
    memberD_items d.faults (fun f _ => f.read_toJson) (by simp [List.lookup_append])]
  rfl

theorem asRead_of_ne_null {d : Document} (h : ∀ p, d.primary = some p → p.isNull = false) : d.asRead = d := by
  have hkept : d.primary.filter (fun p => !p.isNull) = d.primary := by
    cases hprimary : d.primary with
    | none => rfl
    | some p => rw [Option.filter_some, h p hprimary]; rfl
  rw [asRead, hkept]

/-! ## The documents that are assembled -/

variable {κ : Type}

/-- Every assembled document is read back as it was written, but for the one of no entity, which comes back without the
null that it was written for. -/
theorem assembled_is_read_back (a : Assembler κ) (key : κ) (request : Request) :
    (∀ entity d, a.single key (some entity) request = .ok d → read d.toJson = some d) ∧
    (∀ d, a.single key none request = .ok d →
      d.primary = some (.one none) ∧ read d.toJson = some { d with primary := none }) ∧
    (∀ entities d, a.list key entities request = .ok d → read d.toJson = some d) ∧
    (∀ p d, a.page key p request = .ok d → read d.toJson = some d) ∧
    ∀ e, read (ofError e).toJson = some (ofError e) := by
  have hlist : ∀ request entities d, a.list key entities request = .ok d → read d.toJson = some d := by
    intro request entities d h
    obtain ⟨found, -, rfl⟩ := Result.map_eq_ok_iff.1 h
    rw [read_toJson, asRead_of_ne_null]
    rintro _ ⟨⟩
    rfl
  refine ⟨fun entity d h => ?_, fun d h => ?_, hlist request, fun p d => hlist _ p.items d, fun e => ?_⟩
  · obtain ⟨found, -, rfl⟩ := Result.map_eq_ok_iff.1 h
    rw [read_toJson, asRead_of_ne_null]
    rintro _ ⟨⟩
    rfl
  · cases h
    exact ⟨rfl, read_toJson _⟩
  · rw [read_toJson, asRead_of_ne_null]
    nofun

/-- A part and the part inside it. -/
theorem assembled_is_read_back_part :
    ∃ d, partsAssembler.single () (some (part "1" [part "2" []])) ⟨.anonymous, none, none, none, none⟩ = .ok d ∧
      d.resources.map Resource.id = ["1", "2"] ∧ read d.toJson = some d := by
  obtain ⟨d, hd, hids⟩ : ∃ d, partsAssembler.single () (some (part "1" [part "2" []]))
      ⟨.anonymous, none, none, none, none⟩ = .ok d ∧ d.resources.map Resource.id = ["1", "2"] :=
    Result.exists_of_toOption_map (show ((partsAssembler.single () (some (part "1" [part "2" []]))
      ⟨.anonymous, none, none, none, none⟩).map _).toOption = some _ by decide +kernel)
  exact ⟨d, hd, hids, (assembled_is_read_back partsAssembler () ⟨.anonymous, none, none, none, none⟩).1 _ d hd⟩

/-- The document of no entity is not read back as it was written. -/
theorem not_assembled_is_read_back :
    ¬∀ (a : Assembler Unit) (entity : Option Value) (request : Request) (d : Document),
      a.single () entity request = .ok d → read d.toJson = some d := by
  intro h
  have hread := h partsAssembler none ⟨.anonymous, none, none, none, none⟩ _ rfl
  rw [read_toJson] at hread
  have hprimary := congrArg primary (Option.some.inj hread)
  exact absurd hprimary nofun

/-! ## Documents that were read -/

/-- Primary data that was read is not null, since a member that is null counts as absent. -/
theorem isNull_of_member?_primary {ms : Members} {primary : Option Primary}
    (h : member? ms "data" Primary.read = some primary) : ∀ p, primary = some p → p.isNull = false := by
  rintro p rfl
  unfold member? at h
  split at h
  · cases h
  · cases h
  · rename_i v hnull hlookup
    obtain ⟨_, hread, heq⟩ := Option.map_eq_some_iff.1 h
    cases heq
    obtain ⟨resource, rfl⟩ | ⟨resources, rfl⟩ := some_or_many_of_oneOrMany (hnull ·) hread
    · rfl
    · rfl

theorem isNull_of_read {v : Value} {d : Document} (h : read v = some d) :
    ∀ p, d.primary = some p → p.isNull = false := by
  obtain ⟨ms, hms, -⟩ := exists_members h
  simp only [Option.bind_eq_bind, Option.bind_eq_some_iff] at hms
  obtain ⟨links, -, primary, hprimary, included, -, metadata, -, faults, -, hd⟩ := hms
  cases hd
  exact isNull_of_member?_primary hprimary

/-- JSON as it is written after it was read. -/
def normalize (v : Value) : Option Value := (read v).map toJson

/-- What was read is written as JSON that is read as the same document, so JSON that was read and written once stays as
it is. The documents that can be read at all are those whose primary data is not null. -/
theorem normalize_settles :
    (∀ v d, read v = some d → read d.toJson = some d) ∧
    (∀ v, (normalize v).bind normalize = normalize v) ∧
    ∀ d : Document, (∃ v, read v = some d) ↔ ∀ p, d.primary = some p → p.isNull = false := by
  have hagain : ∀ v d, read v = some d → read d.toJson = some d := by
    intro v d h
    rw [read_toJson, asRead_of_ne_null (isNull_of_read h)]
  refine ⟨hagain, fun v => ?_, fun d => ⟨?_, fun h => ⟨d.toJson, ?_⟩⟩⟩
  · cases h : read v with
    | none => simp only [normalize, h, Option.map_none, Option.bind_none]
    | some d => simp only [normalize, h, Option.map_some, Option.bind_some, hagain v d h]
  · rintro ⟨v, h⟩
    exact isNull_of_read h
  · rw [read_toJson, asRead_of_ne_null h]

/-- A document with members that nobody asks for, nulls, empty lists and an empty object. -/
def untidy : Value :=
  .obj [("data", .obj [("extra", .ofNat 1), ("id", .str "1"), ("links", .null),
      ("relationships", .obj [("author", .obj [("data", .null),
        ("links", .obj [("about", .str "/"), ("next", .null)])])]),
      ("type", .str "articles")]),
    ("errors", .arr []), ("included", .arr []), ("jsonapi", .obj [("version", .str "1.1")]), ("links", .null),
    ("meta", .obj [])]

theorem normalize_settles_untidy :
    ∃ d, read untidy = some d ∧ normalize untidy = some (.obj [("data", .obj [("attributes", .obj []), ("id", .str "1"),
        ("relationships", .obj [("author", .obj [("data", .null), ("links", .obj [])])]), ("type", .str "articles")]),
      ("meta", .obj [])]) ∧ read d.toJson = some d := by
  obtain ⟨d, hd⟩ : ∃ d, read untidy = some d := Option.isSome_iff_exists.1 (by decide +kernel)
  exact ⟨d, hd, rfl, normalize_settles.1 untidy d hd⟩

end Document
end EntityGraph
