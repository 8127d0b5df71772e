import EntityGraph.Proofs.Dict
import EntityGraph.Proofs.Result
import EntityGraph.Proofs.Text.Identifier
import EntityGraph.Schema.Validation

/-!
# What valid descriptors guarantee

A descriptor that was accepted consists of identifiers and refers to known properties only.
-/
namespace EntityGraph.Schema

open Text (isIdentifier)

/-- The names of a relationship are identifiers. -/
structure SpelledRelationship (name : String) (r : Relationship) : Prop where
  name : isIdentifier name = true
  type : isIdentifier r.type = true
  target : isIdentifier r.target = true
  fields : ∀ f ∈ r.fields, isIdentifier f.name = true

/-- All names of a descriptor are identifiers. -/
structure Descriptor.Spelled (d : Descriptor) : Prop where
  label : isIdentifier d.label = true
  node : isIdentifier d.nodeVariable = true
  property : ∀ name, d.knowsProperty name = true → isIdentifier name = true
  relationship : ∀ e ∈ d.relationships.toList, SpelledRelationship e.1 e.2
  index : ∀ i ∈ d.indexes, isIdentifier i.name = true
  fulltext : ∀ name, d.fulltextIndex = some name → isIdentifier name = true
  order : ∀ o, d.defaultOrder = some o → isIdentifier o.field = true

theorem checkIdentifier_eq_ok_iff {what token : String} :
    checkIdentifier what token = .ok () ↔ isIdentifier token = true := by
  unfold checkIdentifier
  split
  · rename_i h
    simp [h]
  · rename_i h
    simp [h, refuse]

theorem spelledRelationship_of_check {name : String} {r : Relationship} (h : checkRelationship name r = .ok ()) :
    SpelledRelationship name r := by
  obtain ⟨_, hname, h⟩ := Result.bind_eq_ok_iff.1 h
  obtain ⟨_, htype, h⟩ := Result.bind_eq_ok_iff.1 h
  obtain ⟨_, htarget, h⟩ := Result.bind_eq_ok_iff.1 h
  obtain ⟨_, -, h⟩ := Result.bind_eq_ok_iff.1 h
  exact {
    name := checkIdentifier_eq_ok_iff.1 hname
    type := checkIdentifier_eq_ok_iff.1 htype
    target := checkIdentifier_eq_ok_iff.1 htarget
    fields := fun f hf => checkIdentifier_eq_ok_iff.1 (Result.forM_eq_ok_iff.1 h f hf) }

theorem isIdentifier_of_checkField {label name : String} (h : checkField label name = .ok ()) :
    isIdentifier name = true := by
  obtain ⟨_, hname, -⟩ := Result.bind_eq_ok_iff.1 h
  exact checkIdentifier_eq_ok_iff.1 hname

theorem not_system_of_checkField {label name : String} (h : checkField label name = .ok ()) :
    systemFields.contains name = false := by
  obtain ⟨_, -, h⟩ := Result.bind_eq_ok_iff.1 h
  split at h
  · cases h
  · simp_all

/-- The declared properties of a valid descriptor are none of the system's. -/
theorem Descriptor.not_system_of_validate {d : Descriptor} (h : d.validate = .ok ()) {name : String}
    (hname : d.fields.contains name = true) : name ∉ systemFields := by
  obtain ⟨_, -, h⟩ := Result.bind_eq_ok_iff.1 h
  obtain ⟨_, -, h⟩ := Result.bind_eq_ok_iff.1 h
  obtain ⟨_, hfields, -⟩ := Result.bind_eq_ok_iff.1 h
  have hsystem := not_system_of_checkField (Result.forM_eq_ok_iff.1 hfields name (Dict.contains_iff.1 hname))
  simpa using hsystem

theorem isIdentifier_of_systemField {name : String} (h : systemFields.contains name = true) :
    isIdentifier name = true := by
  simp only [systemFields, List.contains_eq_mem, List.mem_cons, List.not_mem_nil, or_false, decide_eq_true_eq] at h
  rcases h with rfl | rfl | rfl <;> decide

theorem Descriptor.spelled_of_validate {d : Descriptor} (h : d.validate = .ok ()) : d.Spelled := by
  obtain ⟨_, hlabel, h⟩ := Result.bind_eq_ok_iff.1 h
  obtain ⟨_, hnode, h⟩ := Result.bind_eq_ok_iff.1 h
  obtain ⟨_, hfields, h⟩ := Result.bind_eq_ok_iff.1 h
  obtain ⟨_, hrelationships, h⟩ := Result.bind_eq_ok_iff.1 h
  obtain ⟨_, -, h⟩ := Result.bind_eq_ok_iff.1 h
  obtain ⟨_, hindexes, h⟩ := Result.bind_eq_ok_iff.1 h
  obtain ⟨_, hfulltext, horder⟩ := Result.bind_eq_ok_iff.1 h
  have hproperty : ∀ name, d.knowsProperty name = true → isIdentifier name = true := by
    intro name hknown
    rcases (Bool.or_eq_true ..).mp hknown with hfield | hsystem
    · exact isIdentifier_of_checkField (Result.forM_eq_ok_iff.1 hfields name (Dict.contains_iff.1 hfield))
    · exact isIdentifier_of_systemField hsystem
  refine ⟨checkIdentifier_eq_ok_iff.1 hlabel, checkIdentifier_eq_ok_iff.1 hnode, hproperty, ?_, ?_, ?_, ?_⟩
  · intro e he
    exact spelledRelationship_of_check (Result.forM_eq_ok_iff.1 hrelationships e he)
  · intro i hi
    obtain ⟨_, hname, -⟩ := Result.bind_eq_ok_iff.1 (Result.forM_eq_ok_iff.1 hindexes i hi)
    exact checkIdentifier_eq_ok_iff.1 hname
  · intro name hname
    rw [hname] at hfulltext
    obtain ⟨_, htoken, -⟩ := Result.bind_eq_ok_iff.1 hfulltext
    exact checkIdentifier_eq_ok_iff.1 htoken
  · intro o ho
    rw [ho] at horder
    have hcheck : d.checkOrder o = .ok () := horder
    unfold checkOrder at hcheck
    split at hcheck
    · rename_i hknown
      exact hproperty _ hknown
    · cases hcheck

/-- An index is named by an identifier and covers known properties, at least one, and one for vectors has dimensions. -/
structure Descriptor.SoundIndex (d : Descriptor) (i : Index) : Prop where
  name : isIdentifier i.name = true
  covers : i.properties ≠ []
  known : ∀ p ∈ i.properties, d.knowsProperty p = true
  dimensions : i.kind = .vector → i.dimensions.isSome = true

theorem Descriptor.soundIndex_of_check {d : Descriptor} {i : Index} (h : d.checkIndex i = .ok ()) :
    d.SoundIndex i := by
  obtain ⟨_, hname, h⟩ := Result.bind_eq_ok_iff.1 h
  have hname := checkIdentifier_eq_ok_iff.1 hname
  cases hcovers : i.properties.isEmpty with
  | true => simp [hcovers, refuse, bind, Except.bind] at h
  | false =>
    cases hunknown : i.properties.find? (fun p => !d.knowsProperty p) with
    | some p => simp [hcovers, hunknown, refuse, bind, Except.bind] at h
    | none =>
      refine { name := hname, covers := by simpa using hcovers, known := ?_, dimensions := ?_ }
      · intro p hp
        simpa using List.find?_eq_none.1 hunknown p hp
      · intro hkind
        simp only [hcovers, hunknown, hkind] at h
        cases hdimensions : i.dimensions with
        | none => simp [hdimensions, refuse] at h
        | some _ => rfl

/-- The constraints and the indexes of a valid descriptor are sound. -/
theorem Descriptor.sound_of_validate {d : Descriptor} (h : d.validate = .ok ()) :
    (∀ p ∈ d.constraints, d.knowsProperty p = true) ∧ ∀ i ∈ d.indexes, d.SoundIndex i := by
  obtain ⟨_, -, h⟩ := Result.bind_eq_ok_iff.1 h
  obtain ⟨_, -, h⟩ := Result.bind_eq_ok_iff.1 h
  obtain ⟨_, -, h⟩ := Result.bind_eq_ok_iff.1 h
  obtain ⟨_, -, h⟩ := Result.bind_eq_ok_iff.1 h
  obtain ⟨_, hconstraints, h⟩ := Result.bind_eq_ok_iff.1 h
  obtain ⟨_, hindexes, -⟩ := Result.bind_eq_ok_iff.1 h
  refine ⟨fun p hp => ?_, fun i hi => soundIndex_of_check (Result.forM_eq_ok_iff.1 hindexes i hi)⟩
  have hcheck := Result.forM_eq_ok_iff.1 hconstraints p hp
  unfold checkConstraint at hcheck
  split at hcheck
  · rename_i hknown
    exact hknown
  · cases hcheck

end EntityGraph.Schema
