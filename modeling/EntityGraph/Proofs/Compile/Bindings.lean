import EntityGraph.Proofs.Compile.WriteOutline
import EntityGraph.Proofs.Json.Equality

/-!
# What the parameters of a write hold

The steps of a write share one space of parameter names: the id and the tenant's id, the declared properties, the ids
and edge properties of relationships, and the changes of edges. Each step binds its own values and leaves a value that
is there as it is, since only an equal one may take its place.
-/
namespace EntityGraph.Compile

open Cypher
open Json (Value)
open Schema (Relationship Field)

/-- Whether a value may take the place of every fitting value that equals it. -/
def Replaces (fits : Value → Prop) (value : Value) : Prop := ∀ old, fits old → old.same value = true → fits value

/-- A value without doubles gives way to itself only. -/
theorem replaces_of_exact {expected : Value} (h : expected.exact = true) (value : Value) :
    Replaces (· = expected) value := by
  rintro old rfl hsame
  exact (Value.eq_of_same _ _ (.inl h) hsame).symm

/-- A value without doubles replaces itself only. -/
theorem Replaces.of_exact {fits : Value → Prop} {value : Value} (h : value.exact = true) : Replaces fits value := by
  intro old hold hsame
  rwa [Value.eq_of_same _ _ (.inr h) hsame] at hold

/-- The parameters that the links of a relationship bind: its ids and the properties of merged edges. -/
def Links.Binds (l : Links) (name : String) (value : Value) : Prop :=
  name = l.name ∧ value = .ofStrings l.ids ∨ name = edgePropsKey l.name ∧ l.edgeProps = some value

theorem Links.binds_of_staleParams {l : Links} {name : String} {value : Value}
    (h : l.staleParams.get? name = some value) : l.Binds name value := by
  rw [staleParams, Dict.get?_insert] at h
  split at h
  · rename_i hname
    exact .inl ⟨hname, (Option.some.inj h).symm⟩
  · cases h

theorem Links.binds_of_mergeParams {l : Links} {name : String} {value : Value}
    (h : l.mergeParams.get? name = some value) : l.Binds name value := by
  unfold mergeParams at h
  cases hprops : l.edgeProps with
  | none =>
    rw [hprops] at h
    exact binds_of_staleParams h
  | some props =>
    simp only [hprops, Dict.get?_insert] at h
    split at h
    · rename_i hname
      exact .inr ⟨hname, hprops.trans h⟩
    · exact binds_of_staleParams h

theorem ne_edgePropsKey (name : String) : name ≠ edgePropsKey name := by
  intro h
  have hlength := congrArg String.length h
  simp [edgePropsKey, String.length_append] at hlength

theorem Links.get?_staleParams (l : Links) : l.staleParams.get? l.name = some (.ofStrings l.ids) := by
  rw [staleParams, Dict.get?_insert, if_pos rfl]

theorem Links.get?_mergeParams (l : Links) : l.mergeParams.get? l.name = some (.ofStrings l.ids) := by
  unfold mergeParams
  cases l.edgeProps with
  | none => exact l.get?_staleParams
  | some props => rw [Dict.get?_insert, if_neg (ne_edgePropsKey l.name), l.get?_staleParams]

theorem Links.get?_mergeParams_props {l : Links} {props : Value} (h : l.edgeProps = some props) :
    l.mergeParams.get? (edgePropsKey l.name) = some props := by
  simp [mergeParams, h, Dict.get?_insert]

/-- The parameters of edge properties end in another letter than most others. -/
theorem edgePropsKey_ne {other : String} (h : other.toList.getLast? ≠ some 's') (name : String) :
    edgePropsKey name ≠ other := by
  rintro rfl
  simp [edgePropsKey, String.toList_append] at h

theorem edgePropsKey_ne_edgeUpdateKey (name other : String) : edgePropsKey name ≠ edgeUpdateKey other :=
  edgePropsKey_ne (by simp [edgeUpdateKey, String.toList_append]) name

theorem EdgeUpdate.get?_params {u : EdgeUpdate} {name : String} {value : Value}
    (h : u.params.get? name = some value) : name = edgeUpdateKey u.name ∧ value = .ofDict u.props := by
  rw [params, Dict.get?_insert] at h
  split at h
  · rename_i hname
    exact ⟨hname, (Option.some.inj h).symm⟩
  · cases h

namespace Compiler

variable (c : Compiler) {b : Builder} {name : String} {fits : Value → Prop}

/-! ## The steps -/

theorem carries_foldl_assignField (h : b.Carries name fits) (mode : WriteMode) (input : Input)
    (fields : List (String × Field)) (items : List Assignment)
    (hagain : ∀ e ∈ fields, e.1 = name → ∀ value, fieldValue mode input e.1 e.2 = some value → Replaces fits value) :
    (fields.foldl
      (fun state e => match fieldValue mode input e.1 e.2 with
        | none => state
        | some value => c.assignField state e.1 e.2 value)
      (b, items)).1.Carries name fits := by
  induction fields generalizing b items with
  | nil => exact h
  | cons e rest ih =>
    rw [List.foldl_cons]
    have hrest (e' : String × Field) (he : e' ∈ rest) := hagain e' (List.mem_cons_of_mem _ he)
    cases hvalue : fieldValue mode input e.1 e.2 with
    | none => exact ih h items hrest
    | some value =>
      by_cases hnull : value.isNull = true
      · simpa only [assignField, hnull, if_true] using ih h _ hrest
      · have hbound := h.bind e.1 value fun hname => hagain e List.mem_cons_self hname value hvalue
        simpa only [assignField, hnull, Bool.false_eq_true, if_false] using ih hbound _ hrest

theorem carries_assignFields (h : b.Carries name fits) (mode : WriteMode) (input : Input) (items : List Assignment)
    (hagain : ∀ field value, c.descriptor.fields.get? name = some field →
      fieldValue mode input name field = some value → Replaces fits value) :
    (c.assignFields mode input (b, items)).1.Carries name fits := by
  refine c.carries_foldl_assignField h mode input _ items ?_
  rintro ⟨_, field⟩ he rfl value hvalue
  exact hagain field value (Dict.get?_of_mem he) hvalue

/-- The value of a declared property is there after all are bound. -/
theorem carries_assignFields_field (b : Builder) {mode : WriteMode} {input : Input} (items : List Assignment)
    {field : Field} {value : Value} (hfield : c.descriptor.fields.get? name = some field)
    (hvalue : fieldValue mode input name field = some value) (hnull : value.isNull = false) (hfits : fits value) :
    (c.assignFields mode input (b, items)).1.Carries name fits := by
  obtain ⟨before, after, hentries, -⟩ := List.lookup_eq_some_iff.1 hfield
  have hascending : Ascending (before ++ (name, field) :: after) := hentries ▸ c.descriptor.fields.ascending
  have hlater := (List.pairwise_cons.1 (List.pairwise_append.1 hascending).2.1).1
  unfold assignFields
  rw [hentries, List.foldl_append, List.foldl_cons]
  simp only [hvalue, assignField, hnull, Bool.false_eq_true, if_false]
  refine c.carries_foldl_assignField (Builder.carries_bind _ name hfits) mode input after _ ?_
  rintro e he rfl
  exact absurd (hlater e he) (String.lt_irrefl _)

theorem carries_writeLink (h : b.Carries name fits) (mode : WriteMode) (l : Links)
    (hagain : ∀ value, l.Binds name value → Replaces fits value) : (c.writeLinks mode b l).Carries name fits := by
  have hstale : (if mode = .create then b else b.subquery [c.node] (c.deleteStale l)).Carries name fits := by
    split
    · exact h
    · exact h.subquery (c.deleteStale_holds l) _ fun value hvalue => hagain value (Links.binds_of_staleParams hvalue)
  unfold writeLinks
  cases l.ids.isEmpty with
  | true => exact hstale
  | false =>
    exact hstale.subquery (c.mergeListed_holds l) _ fun value hvalue => hagain value (Links.binds_of_mergeParams hvalue)

theorem carries_writeLinks (h : b.Carries name fits) (mode : WriteMode) (links : List Links)
    (hagain : ∀ l ∈ links, ∀ value, l.Binds name value → Replaces fits value) :
    (links.foldl (c.writeLinks mode) b).Carries name fits := by
  induction links generalizing b with
  | nil => exact h
  | cons l rest ih =>
    exact ih (c.carries_writeLink h mode l (hagain l List.mem_cons_self))
      fun l' hl' => hagain l' (List.mem_cons_of_mem _ hl')

theorem carries_updateEdges (h : b.Carries name fits) (updates : List EdgeUpdate)
    (hagain : ∀ u ∈ updates, name = edgeUpdateKey u.name → Replaces fits (.ofDict u.props)) :
    (updates.foldl c.updateEdges b).Carries name fits := by
  induction updates generalizing b with
  | nil => exact h
  | cons u rest ih =>
    refine ih ?_ fun u' hu' => hagain u' (List.mem_cons_of_mem _ hu')
    obtain ⟨nested, hnested, -, heq⟩ := c.updateEdges_eq_subquery u
    rw [heq]
    refine h.subquery hnested _ fun value hvalue => ?_
    obtain ⟨hname, rfl⟩ := EdgeUpdate.get?_params hvalue
    exact hagain u List.mem_cons_self hname

/-- What is bound before the links is there when the statement is finished. -/
theorem get?_of_carries (h : b.Carries name fits) {mode : WriteMode} {links : List Links} {updates : List EdgeUpdate}
    {columns : List Column} {s : Statement}
    (hs : ((updates.foldl c.updateEdges (links.foldl (c.writeLinks mode) b)).returning columns []).build = .ok s)
    (hlinks : ∀ l ∈ links, ∀ value, l.Binds name value → Replaces fits value)
    (hupdates : ∀ u ∈ updates, name = edgeUpdateKey u.name → Replaces fits (.ofDict u.props)) :
    ∃ value, s.params.get? name = some value ∧ fits value :=
  ((c.carries_updateEdges (c.carries_writeLinks h mode links hlinks) updates hupdates).push _).build hs

theorem carries_id_createNode {b b' : Builder} {caller : Caller} {id : String}
    (hb : c.createNode b caller id = .ok b') : b'.Carries "id" (· = .str id) := by
  have hid := Builder.carries_bind_self b "id" (.str id)
  unfold createNode at hb
  split at hb
  · split at hb
    · cases hb
    · cases hb
      exact (((hid.bind _ _ fun h => absurd h (by decide)).push _).push _).push _
  · cases hb
    exact hid.push _

theorem carries_id_matchById {b b' : Builder} {caller : Caller} {id : String}
    (hb : c.matchById b caller id = .ok b') : b'.Carries "id" (· = .str id) := by
  have hid := Builder.carries_bind_self b "id" (.str id)
  obtain ⟨scope, -, hb⟩ := Result.bind_eq_ok_iff.1 hb
  cases scope with
  | some company =>
    cases hb
    exact (hid.bind _ _ fun h => absurd h (by decide)).push _
  | none =>
    cases hb
    exact hid.push _

/-- No property, relationship or edge parameter of a write replaces the id of its entity. -/
theorem get?_id_of_write {caller : Caller} {input : Input} {mode : WriteMode} {plan : WritePlan}
    (h : c.write caller input mode = .ok plan) : plan.write.params.get? "id" = some (.str plan.id) := by
  obtain ⟨links, updates, b, -, -, -, -, hopen, hbuild⟩ := c.write_steps h
  have hopened : b.Carries "id" (· = .str plan.id) := by
    cases mode with
    | create => exact c.carries_id_createNode hopen
    | put => exact c.carries_id_matchById hopen
    | patch => exact c.carries_id_matchById hopen
  have hreplaces := replaces_of_exact (Value.exact_str plan.id)
  have hset := (c.carries_assignFields hopened mode input (c.stamps mode) fun _ _ _ _ => hreplaces _).set
    (c.assignFields mode input (b, c.stamps mode)).2
  obtain ⟨_, hget, rfl⟩ := c.get?_of_carries hset hbuild (fun _ _ _ _ => hreplaces _) fun _ _ _ => hreplaces _
  exact hget

/-- The ids of a relationship stay what they are in the parameters of a write. A new entity binds them only if there are
any. -/
theorem get?_ids_of_write {caller : Caller} {input : Input} {mode : WriteMode} {plan : WritePlan} {links : List Links}
    (h : c.write caller input mode = .ok plan) (hlinks : c.resolveLinks caller mode input c.links = .ok links)
    {l : Links} (hl : l ∈ links) (hbound : mode = .create → l.ids.isEmpty = false) :
    plan.write.params.get? l.name = some (.ofStrings l.ids) := by
  obtain ⟨links', updates, b, -, hlinks', -, -, -, hbuild⟩ := c.write_steps h
  obtain rfl : links = links' := Except.ok.inj (hlinks.symm.trans hlinks')
  obtain ⟨before, after, rfl⟩ := List.append_of_mem hl
  rw [List.foldl_append, List.foldl_cons] at hbuild
  have hreplaces := replaces_of_exact (Value.exact_ofStrings l.ids)
  generalize before.foldl (c.writeLinks mode) _ = b at hbuild
  have hwritten : (c.writeLinks mode b l).Carries l.name (· = .ofStrings l.ids) := by
    unfold writeLinks
    cases hids : l.ids.isEmpty with
    | true =>
      have hmode : mode ≠ .create := fun hcreate => Bool.noConfusion (hids.symm.trans (hbound hcreate))
      simp only [if_neg hmode, if_true]
      exact Builder.carries_subquery _ (c.deleteStale_holds l) _ l.get?_staleParams rfl
    | false =>
      simp only [Bool.false_eq_true, if_false]
      exact Builder.carries_subquery _ (c.mergeListed_holds l) _ l.get?_mergeParams rfl
  obtain ⟨_, hget, rfl⟩ := c.get?_of_carries hwritten hbuild (fun _ _ _ _ => hreplaces _) fun _ _ _ => hreplaces _
  exact hget

end Compiler
end EntityGraph.Compile
