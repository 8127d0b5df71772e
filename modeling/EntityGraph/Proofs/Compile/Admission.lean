import EntityGraph.Proofs.Compile.Filling
import EntityGraph.Proofs.Compile.Links

/-!
# Which writes are admitted

What the parts of a write ask for before it is put together: an id, a tenant where one is needed, usable targets, as
many as the relationship takes, and properties of edges that are declared. All parts are there exactly if this is given.
-/
namespace EntityGraph.Compile

open Json (Value)
open Schema (Relationship)

/-- What a relationship may be given as targets. All values are usable. For one target they name the same, and a
required relationship is given some. -/
structure AdmitsTargets (r : Relationship) (value : Value) : Prop where
  usable : ∀ v ∈ targetValues value, (usableId? v).isSome = true
  one : r.cardinality = .one → ∀ v ∈ targetValues value, ∀ w ∈ targetValues value, usableId? v = usableId? w
  required : r.required = true → targetValues value ≠ []

/-- What a write may be given. -/
structure Compiler.AdmitsWrite (c : Compiler) (caller : Caller) (mode : WriteMode) (input : Input) : Prop where
  id : ∃ id, input.get? "id" = some (.str id) ∧ id ≠ ""
  /-- A new entity of a tenant needs one even if access is elevated. -/
  tenant : c.descriptor.companyScoped = true → mode = .create ∨ caller.elevated = false →
    ∃ company, caller.company = some company ∧ company ≠ ""
  required : mode = .create → ∀ name r, c.descriptor.relationships.get? name = some r → r.required = true →
    ∃ value, LinkSource caller mode input name r value
  targets : ∀ name r value, c.descriptor.relationships.get? name = some r →
    LinkSource caller mode input name r value → AdmitsTargets r value
  /-- Properties are supplied for edges that are linked. -/
  props : ∀ name r value ids v, c.descriptor.relationships.get? name = some r →
    LinkSource caller mode input name r value → relatedIds name value = .ok ids →
    input.get? (edgePropsKey name) = some v → v.isNull = false → AdmitsProps r ids v
  changes : mode = .patch → ∀ name r v, c.descriptor.relationships.get? name = some r →
    input.get? (edgeUpdateKey name) = some v → v.isNull = false → AdmitsChanges r v

theorem inputId?_eq_some_iff {input : Input} {id : String} :
    inputId? input = some id ↔ input.get? "id" = some (.str id) ∧ id ≠ "" := by
  simp only [inputId?, Option.filter_eq_some_iff, Option.bind_eq_some_iff, decide_eq_true_eq]
  refine and_congr_left fun _ => ⟨?_, fun h => ⟨_, h, rfl⟩⟩
  rintro ⟨v, hv, hid⟩
  cases v with
  | str s =>
    cases hid
    exact hv
  | _ => cases hid

theorem admitsTargets_iff (name : String) {r : Relationship} {value : Value} :
    AdmitsTargets r value ↔ ∃ ids, relatedIds name value = .ok ids ∧ (r.required = true → ids ≠ []) ∧
      (r.cardinality = .one → ids.length ≤ 1) := by
  constructor
  · rintro ⟨husable, hone, hrequired⟩
    obtain ⟨ids, hids⟩ : ∃ ids, relatedIds name value = .ok ids := relatedIds_ok_iff.2 husable
    refine ⟨ids, hids, fun h => ?_, fun h => (length_relatedIds_le_one_iff hids).2 (hone h)⟩
    rw [Ne, relatedIds_eq_nil_iff hids]
    exact hrequired h
  · rintro ⟨ids, hids, hrequired, hone⟩
    refine ⟨relatedIds_ok_iff.1 ⟨ids, hids⟩, fun h => (length_relatedIds_le_one_iff hids).1 (hone h), fun h => ?_⟩
    rw [Ne, ← relatedIds_eq_nil_iff hids]
    exact hrequired h

theorem resolveEdgeUpdate_ok_iff {input : Input} {name : String} {r : Relationship} :
    (∃ update, resolveEdgeUpdate input name r = .ok update) ↔
      ∀ v, input.get? (edgeUpdateKey name) = some v → v.isNull = false → AdmitsChanges r v := by
  simp only [resolveEdgeUpdate_eq_ok_iff]
  constructor
  · rintro ⟨update, ⟨hnone, -⟩ | ⟨v', hv', hadmits, -⟩⟩ v hv hnull
    · rw [hnone v hv] at hnull
      cases hnull
    · rw [hv] at hv'
      cases hv'
      exact hadmits
  · intro hadmits
    by_cases hnone : ∀ v, input.get? (edgeUpdateKey name) = some v → v.isNull = true
    · exact ⟨_, .inl ⟨hnone, rfl⟩⟩
    · obtain ⟨v, hv⟩ := not_forall.1 hnone
      obtain ⟨hv, hnull⟩ := Classical.not_imp.1 hv
      exact ⟨_, .inr ⟨v, hv, hadmits v hv (by simpa using hnull), rfl⟩⟩

namespace Compiler

variable (c : Compiler) {caller : Caller} {mode : WriteMode} {input : Input}

theorem writeScope_ok_iff : (∃ scope, c.writeScope mode caller = .ok scope) ↔
    (c.descriptor.companyScoped = true → mode = .create ∨ caller.elevated = false →
      ∃ company, caller.company = some company ∧ company ≠ "") := by
  cases hscoped : c.descriptor.companyScoped with
  | false => cases mode <;> simp [writeScope, scope, hscoped]
  | true =>
    cases hcompany : caller.company with
    | none =>
      cases mode <;> cases helevated : caller.elevated <;> simp [writeScope, scope, hscoped, hcompany, helevated]
    | some company =>
      by_cases hempty : company = "" <;> cases mode <;> cases helevated : caller.elevated <;>
        simp [writeScope, scope, hscoped, hcompany, helevated, hempty, Option.filter_some]

/-- When a relationship is resolved: a new entity has a value for it if it is required, and a value has targets and edge
properties in order. -/
theorem resolveLink_ok_iff {name : String} {r : Relationship} :
    (∃ link, c.resolveLink caller mode input name r = .ok link) ↔
      (mode = .create → r.required = true → ∃ value, LinkSource caller mode input name r value) ∧
        ∀ value, LinkSource caller mode input name r value → AdmitsTargets r value ∧
          ∀ ids, relatedIds name value = .ok ids → ∀ v, input.get? (edgePropsKey name) = some v → v.isNull = false →
            AdmitsProps r ids v := by
  simp only [c.resolveLink_eq_ok_iff, ← linkValue_eq_some_iff, admitsTargets_iff name]
  have hprops (ids : List String) : (∃ props, edgeProperties name r input ids = .ok props) ↔
      ∀ v, input.get? (edgePropsKey name) = some v → v.isNull = false → AdmitsProps r ids v := by
    simp only [edgeProperties_ok_iff, suppliedProps_eq_some_iff, and_imp]
  cases linkValue caller mode input name r with
  | none => simp
  | some value =>
    constructor
    · rintro ⟨link, ⟨hnone, -⟩ | ⟨value', ids, props, hvalue, hids, hrequired, hone, hfilled, -⟩⟩
      · cases hnone
      · cases hvalue
        refine ⟨fun _ _ => ⟨value, rfl⟩, ?_⟩
        rintro _ ⟨⟩
        refine ⟨⟨ids, hids, hrequired, hone⟩, fun ids' hids' => ?_⟩
        obtain rfl : ids = ids' := Except.ok.inj (hids.symm.trans hids')
        exact (hprops ids).1 ⟨props, hfilled⟩
    · rintro ⟨-, hadmits⟩
      obtain ⟨⟨ids, hids, hrequired, hone⟩, hsupplied⟩ := hadmits value rfl
      obtain ⟨props, hfilled⟩ := (hprops ids).2 (hsupplied ids hids)
      exact ⟨_, .inr ⟨value, ids, props, rfl, hids, hrequired, hone, hfilled, rfl⟩⟩

/-- A write is admitted exactly if all parts that it is put together from are there. -/
theorem admitsWrite_iff : c.AdmitsWrite caller mode input ↔ (∃ id, inputId? input = some id) ∧
    (∃ scope, c.writeScope mode caller = .ok scope) ∧ (∃ links, c.resolveLinks caller mode input c.links = .ok links) ∧
      ∃ updates, c.writeUpdates mode input = .ok updates := by
  have hlinks : (∃ links, c.resolveLinks caller mode input c.links = .ok links) ↔
      ∀ e ∈ c.links, ∃ link, c.resolveLink caller mode input e.1 e.2 = .ok link := c.resolveLinks_ok_iff
  have hupdates : (∃ updates, c.writeUpdates mode input = .ok updates) ↔ (mode = .patch →
      ∀ e ∈ c.links, ∃ update, resolveEdgeUpdate input e.1 e.2 = .ok update) := by
    rw [← resolveEdgeUpdates_ok_iff, writeUpdates]
    by_cases hmode : mode = .patch <;> simp [hmode]
  simp only [resolveLink_ok_iff] at hlinks
  simp only [resolveEdgeUpdate_ok_iff] at hupdates
  rw [hlinks, hupdates, writeScope_ok_iff]
  simp only [inputId?_eq_some_iff]
  constructor
  · rintro ⟨hid, htenant, hrequired, htargets, hprops, hchanges⟩
    refine ⟨hid, htenant, fun e he => ?_, fun hmode e he v hv => ?_⟩
    · have hr : c.descriptor.relationships.get? e.1 = some e.2 := Dict.get?_of_mem he
      exact ⟨fun hmode => hrequired hmode _ _ hr, fun value hsource =>
        ⟨htargets _ _ _ hr hsource, fun ids hids v hv => hprops _ _ _ _ _ hr hsource hids hv⟩⟩
    · exact hchanges hmode _ _ v (Dict.get?_of_mem he) hv
  · rintro ⟨hid, htenant, hresolved, hchanges⟩
    refine ⟨hid, htenant, ?_, ?_, ?_, ?_⟩
    · exact fun hmode name r hr => (hresolved (name, r) (Dict.mem_of_get? hr)).1 hmode
    · exact fun name r value hr hsource => ((hresolved (name, r) (Dict.mem_of_get? hr)).2 value hsource).1
    · exact fun name r value ids v hr hsource hids =>
        ((hresolved (name, r) (Dict.mem_of_get? hr)).2 value hsource).2 ids hids v
    · exact fun hmode name r v hr => hchanges hmode (name, r) (Dict.mem_of_get? hr) v

end Compiler
end EntityGraph.Compile
