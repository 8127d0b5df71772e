import EntityGraph.Proofs.Compile.Admission
import EntityGraph.Proofs.Compile.Bindings
import EntityGraph.Proofs.Cypher.Conflicts
import EntityGraph.Proofs.Schema.Validation

/-!
# Which writes compile

A write compiles if it is admitted and the values that it binds under one name agree. Properties, relationships and
their edges share the names of parameters, and validation looks at each name alone, so whether the values can differ is
up to the descriptor. If its names are apart they never do, and then a write compiles exactly if it is admitted.
-/
namespace EntityGraph.Compile

open Cypher
open Json (Value)
open Schema (Relationship Field)

/-- What the properties of an entity bind. -/
def fieldBindings (mode : WriteMode) (input : Input) (fields : List (String × Field)) : List (String × Value) :=
  fields.filterMap (fun e =>
    ((fieldValue mode input e.1 e.2).filter (fun v => !v.isNull)).map (fun v => (e.1, v)))

/-- What the links of a relationship bind: the ids, once for edges that are deleted and once for those that are merged,
and the properties of the latter. -/
def Links.bindings (mode : WriteMode) (l : Links) : List (String × Value) :=
  (if mode = .create then [] else l.staleParams.toList) ++ (if l.ids.isEmpty then [] else l.mergeParams.toList)

namespace Compiler

variable (c : Compiler)

/-- What a write binds, in the order of its steps. -/
def writeBindings (mode : WriteMode) (scope : Option String) (id : String) (input : Input) (links : List Links)
    (updates : List EdgeUpdate) : List (String × Value) :=
  ("id", .str id) :: scope.toList.map (fun company => (companyParam, .str company)) ++
    fieldBindings mode input c.descriptor.fields.toList ++ links.flatMap (Links.bindings mode) ++
      updates.flatMap (fun u => u.params.toList)

/-- Whether the values agree that a write binds under one name. -/
def Agrees (caller : Caller) (mode : WriteMode) (input : Input) : Prop :=
  ∀ scope id links updates, c.writeScope mode caller = .ok scope → inputId? input = some id →
    c.resolveLinks caller mode input c.links = .ok links → c.writeUpdates mode input = .ok updates →
    Agreeing (c.writeBindings mode scope id input links updates)

/-- Whether the parameters of writes have names of their own: the ids, the declared properties, the relationships, and
the properties and changes of their edges. -/
structure NamesApart : Prop where
  id : c.descriptor.relationships.contains "id" = false
  tenant : c.descriptor.companyScoped = true →
    c.descriptor.fields.contains companyParam = false ∧ c.descriptor.relationships.contains companyParam = false
  fields : ∀ name, c.descriptor.fields.contains name = true → c.descriptor.relationships.contains name = false
  edges : ∀ name r, c.descriptor.relationships.get? name = some r → r.fields ≠ [] →
    ∀ key ∈ [edgePropsKey name, edgeUpdateKey name],
      c.descriptor.fields.contains key = false ∧ c.descriptor.relationships.contains key = false

/-! ## The steps of a write -/

section Steps

variable {b : Builder} {bindings : List (String × Value)} {caller : Caller} {mode : WriteMode} {input : Input}

theorem misuse_deleteStale (l : Links) : (c.deleteStale l).misuse = none := rfl

theorem misuse_mergeListed (l : Links) : (c.mergeListed l).misuse = none := by
  unfold mergeListed
  cases l.edgeProps with
  | none => rfl
  | some props =>
    have hids : Builder.empty.bind l.name (.ofStrings l.ids) = ⟨[], l.staleParams, none, none, none⟩ :=
      Builder.bind_of_fresh rfl _
    have hfresh : l.staleParams.get? (edgePropsKey l.name) = none := by
      rw [Links.staleParams, Dict.get?_insert, if_neg (ne_edgePropsKey l.name).symm]
      rfl
    simp only [hids, Builder.set_misuse]
    rw [Builder.bind_of_fresh (by simpa [Builder.merge, Builder.matching, Builder.unwind] using hfresh)]
    simp [Builder.merge, Builder.matching, Builder.unwind]

theorem tracks_matchById {scope : Option String} (hscope : c.scope caller = .ok scope) (id : String) :
    ∃ b, c.matchById c.builder caller id = .ok b ∧
      b.Tracks (("id", .str id) :: scope.toList.map (fun company => (companyParam, .str company))) := by
  have hid := (Builder.tracks_forEntity c.label (some c.node)).bind "id" (.str id)
  unfold matchById
  rw [hscope]
  cases scope with
  | none => exact ⟨_, rfl, hid.push _⟩
  | some company => exact ⟨_, rfl, (hid.bind companyParam (.str company)).push _⟩

theorem tracks_createNode {scope : Option String} (hscope : c.writeScope .create caller = .ok scope) (id : String) :
    ∃ b, c.createNode c.builder caller id = .ok b ∧
      b.Tracks (("id", .str id) :: scope.toList.map (fun company => (companyParam, .str company))) := by
  have hid := (Builder.tracks_forEntity c.label (some c.node)).bind "id" (.str id)
  unfold writeScope at hscope
  unfold createNode
  cases hscoped : c.descriptor.companyScoped with
  | false =>
    simp only [hscoped, Bool.false_eq_true, if_false] at hscope ⊢
    cases hscope
    exact ⟨_, rfl, hid.push _⟩
  | true =>
    simp only [hscoped, if_true] at hscope ⊢
    cases hcompany : caller.company.filter (fun s => s ≠ "") with
    | none =>
      rw [hcompany] at hscope
      cases hscope
    | some company =>
      rw [hcompany] at hscope
      cases hscope
      exact ⟨_, rfl, (((hid.bind companyParam (.str company)).push _).push _).push _⟩

/-- The opening of a write binds the ids of the entity and of its tenant. -/
theorem tracks_opening {scope : Option String} (hscope : c.writeScope mode caller = .ok scope) (id : String) :
    ∃ b, (if mode = .create then c.createNode c.builder caller id else c.matchById c.builder caller id) = .ok b ∧
      b.Tracks (("id", .str id) :: scope.toList.map (fun company => (companyParam, .str company))) := by
  cases mode with
  | create => exact c.tracks_createNode hscope id
  | put => exact c.tracks_matchById hscope id
  | patch => exact c.tracks_matchById hscope id

theorem tracks_assignFields (h : b.Tracks bindings) (mode : WriteMode) (input : Input) (items : List Assignment) :
    (c.assignFields mode input (b, items)).1.Tracks
      (bindings ++ fieldBindings mode input c.descriptor.fields.toList) := by
  unfold assignFields fieldBindings
  induction c.descriptor.fields.toList generalizing b bindings items with
  | nil => simpa using h
  | cons e rest ih =>
    cases hvalue : fieldValue mode input e.1 e.2 with
    | none => simpa [hvalue] using ih h items
    | some value =>
      by_cases hnull : value.isNull = true
      · simpa [hvalue, assignField, hnull] using ih h (items ++ [assign c.node e.1 .null])
      · simpa [hvalue, assignField, hnull] using
          ih (h.bind e.1 value) (items ++ [assign c.node e.1 (cast e.2.type (.param e.1))])

theorem tracks_writeLinks (h : b.Tracks bindings) (mode : WriteMode) (links : List Links) :
    (links.foldl (c.writeLinks mode) b).Tracks (bindings ++ links.flatMap (Links.bindings mode)) := by
  induction links generalizing b bindings with
  | nil => simpa using h
  | cons l rest ih =>
    have hstale : (if mode = .create then b else b.subquery [c.node] (c.deleteStale l)).Tracks
        (bindings ++ if mode = .create then [] else l.staleParams.toList) := by
      split
      · simpa using h
      · exact h.subquery (c.misuse_deleteStale l) (c.deleteStale_holds l) [c.node]
    rw [List.foldl_cons, List.flatMap_cons, ← List.append_assoc]
    refine ih ?_
    unfold writeLinks Links.bindings
    rw [← List.append_assoc]
    cases l.ids.isEmpty with
    | true => simpa using hstale
    | false => simpa using hstale.subquery (c.misuse_mergeListed l) (c.mergeListed_holds l) [c.node]

theorem tracks_updateEdges (h : b.Tracks bindings) (updates : List EdgeUpdate) :
    (updates.foldl c.updateEdges b).Tracks (bindings ++ updates.flatMap (fun u => u.params.toList)) := by
  induction updates generalizing b bindings with
  | nil => simpa using h
  | cons u rest ih =>
    obtain ⟨nested, hnested, hmisuse, heq⟩ := c.updateEdges_eq_subquery u
    rw [List.foldl_cons, List.flatMap_cons, ← List.append_assoc, heq]
    exact ih (h.subquery hmisuse hnested [c.node])

/-- A write whose parts are there compiles exactly if its bindings agree. -/
theorem write_of_resolved {scope : Option String} {id : String} {links : List Links} {updates : List EdgeUpdate}
    (hscope : c.writeScope mode caller = .ok scope) (hid : inputId? input = some id)
    (hlinks : c.resolveLinks caller mode input c.links = .ok links)
    (hupdates : c.writeUpdates mode input = .ok updates) :
    (Agreeing (c.writeBindings mode scope id input links updates) → ∃ plan, c.write caller input mode = .ok plan) ∧
      (¬Agreeing (c.writeBindings mode scope id input links updates) →
        ∃ name, c.write caller input mode = refuse (.conflictingParameter name)) := by
  obtain ⟨precheck, hprecheck⟩ : ∃ precheck, c.relatedExistence (links.flatMap Links.references) = .ok precheck := by
    unfold relatedExistence
    split
    · exact ⟨_, rfl⟩
    · exact ⟨_, rfl⟩
  obtain ⟨b, hopen, htracks⟩ := c.tracks_opening hscope id
  have hset := (c.tracks_assignFields htracks mode input (c.stamps mode)).set
    (c.assignFields mode input (b, c.stamps mode)).2
  have hbuild := (c.tracks_updateEdges (c.tracks_writeLinks hset mode links) updates).build
    (.returning [.expr (.prop c.node "id") "id"] false [])
  rw [c.write_eq hid hlinks hupdates hprecheck hopen]
  constructor
  · intro hagreeing
    obtain ⟨s, hs⟩ := hbuild.1 hagreeing
    exact ⟨_, Result.map_eq_ok_iff.2 ⟨s, hs, rfl⟩⟩
  · intro hconflict
    obtain ⟨name, hfailed⟩ := hbuild.2 hconflict
    exact ⟨name, congrArg (Except.map _) hfailed⟩

end Steps

/-! ## Names that are apart -/

section Apart

variable {caller : Caller} {mode : WriteMode} {input : Input} {links : List Links} {updates : List EdgeUpdate}
  {e : String × Value}

/-- Whether a name is one that relationships are bound under. -/
def IsLinkName (name : String) : Prop :=
  c.descriptor.relationships.contains name = true ∨ ∃ relationship r,
    c.descriptor.relationships.get? relationship = some r ∧ r.fields ≠ [] ∧
      name ∈ [edgePropsKey relationship, edgeUpdateKey relationship]

theorem mem_opening {scope : Option String} (hscope : c.writeScope mode caller = .ok scope) {id : String}
    (he : e ∈ ("id", Value.str id) :: scope.toList.map (fun company => (companyParam, .str company))) :
    e.1 = "id" ∨ c.descriptor.companyScoped = true ∧ e.1 = companyParam := by
  rcases List.mem_cons.1 he with rfl | he
  · exact .inl rfl
  · obtain ⟨company, hcompany, rfl⟩ := List.mem_map.1 he
    obtain rfl := Option.mem_toList.1 hcompany
    exact .inr ⟨c.companyScoped_of_writeScope hscope, rfl⟩

theorem mem_fieldBindings (he : e ∈ fieldBindings mode input c.descriptor.fields.toList) :
    c.descriptor.fields.contains e.1 = true := by
  obtain ⟨⟨name, field⟩, hfield, hvalue⟩ := List.mem_filterMap.1 he
  obtain ⟨v, -, rfl⟩ := Option.map_eq_some_iff.1 hvalue
  exact Dict.contains_of_get? (Dict.get?_of_mem hfield)

theorem binds_of_mem_bindings {l : Links} (he : e ∈ l.bindings mode) : l.Binds e.1 e.2 := by
  unfold Links.bindings at he
  rcases List.mem_append.1 he with he | he <;> split at he
  · cases he
  · exact Links.binds_of_staleParams (Dict.get?_of_mem he)
  · cases he
  · exact Links.binds_of_mergeParams (Dict.get?_of_mem he)

theorem isLinkName_of_binds (hlinks : c.resolveLinks caller mode input c.links = .ok links) {l : Links} (hl : l ∈ links)
    {name : String} {value : Value} (h : l.Binds name value) : c.IsLinkName name := by
  obtain ⟨hmem, hresolved⟩ := c.resolved_of_mem hlinks hl
  rcases h with ⟨rfl, -⟩ | ⟨rfl, hprops⟩
  · exact .inl (c.contains_of_links hlinks hl)
  · exact .inr ⟨_, _, Dict.get?_of_mem hmem, fields_of_edgeProperties (hprops ▸ hresolved.props), by simp⟩

theorem mem_updateBindings (hupdates : c.writeUpdates mode input = .ok updates)
    (he : e ∈ updates.flatMap (fun u => u.params.toList)) :
    ∃ u ∈ updates, e.1 = edgeUpdateKey u.name ∧ c.IsLinkName e.1 := by
  obtain ⟨u, hu, he⟩ := List.mem_flatMap.1 he
  obtain ⟨hname, -⟩ := EdgeUpdate.get?_params (Dict.get?_of_mem he)
  obtain ⟨-, hmem, hresolved⟩ := c.resolved_of_mem_writeUpdates hupdates hu
  exact ⟨u, hu, hname, .inr ⟨_, _, Dict.get?_of_mem hmem, hresolved.fields, by simp [hname]⟩⟩

/-- Properties are named differently than what is bound for relationships, and neither is named like an id. -/
theorem NamesApart.ne_linkName (h : c.NamesApart) {name : String} (hname : c.IsLinkName name) :
    name ≠ "id" ∧ (c.descriptor.companyScoped = true → name ≠ companyParam) ∧
      c.descriptor.fields.contains name = false := by
  have hdifferent {other : String} (hother : c.descriptor.relationships.contains other = false)
      (hlast : other.toList.getLast? = some 'd') : name ≠ other := by
    rintro rfl
    rcases hname with hname | ⟨relationship, r, -, -, hkey⟩
    · rw [hname] at hother
      cases hother
    · rcases List.mem_cons.1 hkey with rfl | hkey
      · simp [edgePropsKey, String.toList_append] at hlast
      · rw [List.mem_singleton.1 hkey] at hlast
        simp [edgeUpdateKey, String.toList_append] at hlast
  refine ⟨hdifferent h.id rfl, fun hscoped => hdifferent (h.tenant hscoped).2 rfl, ?_⟩
  rcases hname with hname | ⟨relationship, r, hr, hfields, hkey⟩
  · by_contra hfield
    rw [h.fields name (by simpa using hfield)] at hname
    cases hname
  · exact (h.edges relationship r hr hfields name hkey).1

theorem NamesApart.not_relationship_edgePropsKey (h : c.NamesApart)
    (hlinks : c.resolveLinks caller mode input c.links = .ok links) {l : Links} (hl : l ∈ links) {props : Value}
    (hprops : l.edgeProps = some props) : c.descriptor.relationships.contains (edgePropsKey l.name) = false := by
  obtain ⟨hmem, hresolved⟩ := c.resolved_of_mem hlinks hl
  have hfields := fields_of_edgeProperties (hprops ▸ hresolved.props)
  exact (h.edges _ _ (Dict.get?_of_mem hmem) hfields _ List.mem_cons_self).2

/-- Different relationships bind different names. -/
theorem NamesApart.ne_of_binds (h : c.NamesApart) (hlinks : c.resolveLinks caller mode input c.links = .ok links)
    {l l' : Links} (hl : l ∈ links) (hl' : l' ∈ links) (hname : l.name ≠ l'.name) {name name' : String}
    {value value' : Value} (hbinds : l.Binds name value) (hbinds' : l'.Binds name' value') : name ≠ name' := by
  rcases hbinds with ⟨rfl, -⟩ | ⟨rfl, hprops⟩ <;> rcases hbinds' with ⟨rfl, -⟩ | ⟨rfl, hprops'⟩
  · exact hname
  · intro heq
    have hcontains := c.contains_of_links hlinks hl
    rw [heq, h.not_relationship_edgePropsKey c hlinks hl' hprops'] at hcontains
    cases hcontains
  · intro heq
    have hcontains := c.contains_of_links hlinks hl'
    rw [← heq, h.not_relationship_edgePropsKey c hlinks hl hprops] at hcontains
    cases hcontains
  · exact fun heq => hname ((String.append_left_inj _).1 heq)

/-- A relationship binds its ids twice at most, and then they are the same. -/
theorem pairwise_bindings (mode : WriteMode) (l : Links) : (l.bindings mode).Pairwise MayFollow := by
  have hstale : (if mode = .create then [] else l.staleParams.toList).Pairwise MayFollow := by
    split
    · exact .nil
    · exact pairwise_mayFollow_toList _
  have hmerge : (if l.ids.isEmpty then [] else l.mergeParams.toList).Pairwise MayFollow := by
    split
    · exact .nil
    · exact pairwise_mayFollow_toList _
  refine List.pairwise_append.2 ⟨hstale, hmerge, fun e he e' he' hname => ?_⟩
  split at he
  · cases he
  split at he'
  · cases he'
  obtain rfl := List.mem_singleton.1 he
  rcases Links.binds_of_mergeParams (Dict.get?_of_mem he') with ⟨-, hids⟩ | ⟨hprops, -⟩
  · rw [hids]
    exact Value.same_ofStrings_self l.ids
  · exact absurd (hname.trans hprops) (ne_edgePropsKey l.name)

/-- Changes of edges are bound under names of their own. -/
theorem NamesApart.ne_updateKey (h : c.NamesApart) (hlinks : c.resolveLinks caller mode input c.links = .ok links)
    (hupdates : c.writeUpdates mode input = .ok updates) {l : Links} (hl : l ∈ links) {u : EdgeUpdate}
    (hu : u ∈ updates) {name : String} {value : Value} (hbinds : l.Binds name value) : name ≠ edgeUpdateKey u.name := by
  obtain ⟨-, hmem, hresolved⟩ := c.resolved_of_mem_writeUpdates hupdates hu
  have hfree := (h.edges _ _ (Dict.get?_of_mem hmem) hresolved.fields (edgeUpdateKey u.name) (by simp)).2
  rcases hbinds with ⟨rfl, -⟩ | ⟨rfl, -⟩
  · intro heq
    have hcontains := c.contains_of_links hlinks hl
    rw [heq, hfree] at hcontains
    cases hcontains
  · exact edgePropsKey_ne_edgeUpdateKey l.name u.name

theorem NamesApart.pairwise_links (h : c.NamesApart) (hlinks : c.resolveLinks caller mode input c.links = .ok links) :
    (links.flatMap (Links.bindings mode)).Pairwise MayFollow := by
  refine List.pairwise_flatMap.2 ⟨fun l _ => pairwise_bindings mode l, ?_⟩
  refine (c.ascending_resolveLinks c.descriptor.relationships.ascending hlinks).imp_of_mem ?_
  intro l l' hl hl' hlt e he e' he'
  have hname : l.name ≠ l'.name := fun heq => String.lt_irrefl l'.name (heq ▸ hlt)
  exact mayFollow_of_ne (h.ne_of_binds c hlinks hl hl' hname (binds_of_mem_bindings he) (binds_of_mem_bindings he'))

theorem pairwise_updates (hupdates : c.writeUpdates mode input = .ok updates) :
    (updates.flatMap (fun u => u.params.toList)).Pairwise MayFollow := by
  have hascending : updates.Pairwise (fun u u' => u.name < u'.name) := by
    unfold writeUpdates at hupdates
    split at hupdates
    · exact ascending_resolveEdgeUpdates c.descriptor.relationships.ascending hupdates
    · cases hupdates
      exact .nil
  refine List.pairwise_flatMap.2 ⟨fun u _ => pairwise_mayFollow_toList u.params, hascending.imp ?_⟩
  intro u u' hlt e he e' he'
  refine mayFollow_of_ne fun heq => ?_
  rw [(EdgeUpdate.get?_params (Dict.get?_of_mem he)).1, (EdgeUpdate.get?_params (Dict.get?_of_mem he')).1] at heq
  exact String.lt_irrefl u'.name ((String.append_left_inj _).1 heq ▸ hlt)

theorem pairwise_fields (mode : WriteMode) (input : Input) :
    (fieldBindings mode input c.descriptor.fields.toList).Pairwise MayFollow := by
  refine List.pairwise_filterMap.2 (c.descriptor.fields.ascending.imp fun {a b} hlt e he e' he' => ?_)
  obtain ⟨_, -, rfl⟩ := Option.map_eq_some_iff.1 he
  obtain ⟨_, -, rfl⟩ := Option.map_eq_some_iff.1 he'
  exact mayFollow_of_ne fun heq => String.lt_irrefl b.1 ((show a.1 = b.1 from heq) ▸ hlt)

theorem pairwise_opening (scope : Option String) (id : String) :
    (("id", Value.str id) :: scope.toList.map (fun company => (companyParam, .str company))).Pairwise MayFollow := by
  cases scope with
  | none => exact List.pairwise_singleton _ _
  | some company => exact List.pairwise_pair.2 (mayFollow_of_ne (by decide : "id" ≠ companyParam))

/-- If names are apart, all values under one name agree. -/
theorem NamesApart.agrees (h : c.NamesApart) (hvalid : c.descriptor.validate = .ok ()) (caller : Caller)
    (mode : WriteMode) (input : Input) : c.Agrees caller mode input := by
  intro scope id links updates hscope hid hlinks hupdates
  have hopening {e e' : String × Value}
      (he : e ∈ ("id", Value.str id) :: scope.toList.map (fun company => (companyParam, .str company)))
      (hid : e'.1 ≠ "id") (htenant : c.descriptor.companyScoped = true → e'.1 ≠ companyParam) : MayFollow e e' := by
    refine mayFollow_of_ne fun heq => ?_
    rcases c.mem_opening hscope he with hname | ⟨hscoped, hname⟩
    · exact hid (heq ▸ hname)
    · exact htenant hscoped (heq ▸ hname)
  -- What is bound for relationships comes after the ids and the properties, under other names.
  have hlater {e e' : String × Value} (he' : c.IsLinkName e'.1)
      (he : e ∈ ("id", Value.str id) :: scope.toList.map (fun company => (companyParam, .str company)) ++
        fieldBindings mode input c.descriptor.fields.toList) : MayFollow e e' := by
    obtain ⟨hne, htenant, hfield⟩ := h.ne_linkName c he'
    rcases List.mem_append.1 he with he | he
    · exact hopening he hne htenant
    · refine mayFollow_of_ne fun heq => ?_
      have hdeclared := c.mem_fieldBindings he
      rw [heq, hfield] at hdeclared
      cases hdeclared
  refine agreeing_of_pairwise (List.pairwise_append.2 ⟨List.pairwise_append.2 ⟨List.pairwise_append.2
    ⟨pairwise_opening scope id, c.pairwise_fields mode input, ?_⟩, h.pairwise_links c hlinks, ?_⟩,
    c.pairwise_updates hupdates, ?_⟩)
  · intro e he e' he'
    have hfield := c.mem_fieldBindings he'
    refine hopening he (fun heq => ?_) fun hscoped heq => ?_
    · exact Schema.Descriptor.not_system_of_validate hvalid hfield (by rw [heq]; decide)
    · rw [heq, (h.tenant hscoped).1] at hfield
      cases hfield
  · intro e he e' he'
    obtain ⟨l, hl, he'⟩ := List.mem_flatMap.1 he'
    exact hlater (c.isLinkName_of_binds hlinks hl (binds_of_mem_bindings he')) he
  · intro e he e' he'
    obtain ⟨u, hu, hkey, hname⟩ := c.mem_updateBindings hupdates he'
    rcases List.mem_append.1 he with he | he
    · exact hlater hname he
    · obtain ⟨l, hl, he⟩ := List.mem_flatMap.1 he
      exact mayFollow_of_ne (hkey ▸ h.ne_updateKey c hlinks hupdates hl hu (binds_of_mem_bindings he))

end Apart

/-! ## The whole write -/

/-- For a valid descriptor a write compiles exactly if it is admitted and the values that it binds under one name agree.
An admitted write that does not compile says which name is bound to values that differ. It does not happen if the names
of the descriptor are apart. -/
theorem write_accepts_admitted (hvalid : c.descriptor.validate = .ok ()) (caller : Caller) (mode : WriteMode)
    (input : Input) :
    ((∃ plan, c.write caller input mode = .ok plan) ↔ c.AdmitsWrite caller mode input ∧ c.Agrees caller mode input) ∧
      (c.AdmitsWrite caller mode input → ¬c.Agrees caller mode input →
        ∃ name, c.write caller input mode = refuse (.conflictingParameter name)) ∧
      (c.NamesApart → c.Agrees caller mode input) := by
  refine ⟨⟨?_, ?_⟩, ?_, fun h => h.agrees c hvalid caller mode input⟩
  · rintro ⟨plan, hplan⟩
    obtain ⟨scope, links, updates, hscope, hid, hlinks, hupdates, -⟩ := c.write_outline hplan
    refine ⟨c.admitsWrite_iff.2 ⟨⟨_, hid⟩, ⟨_, hscope⟩, ⟨_, hlinks⟩, ⟨_, hupdates⟩⟩, ?_⟩
    intro scope' id' links' updates' hscope' hid' hlinks' hupdates'
    by_contra hconflict
    obtain ⟨name, hfailed⟩ := (c.write_of_resolved hscope' hid' hlinks' hupdates').2 hconflict
    rw [hplan] at hfailed
    cases hfailed
  · rintro ⟨hadmits, hagrees⟩
    obtain ⟨⟨id, hid⟩, ⟨scope, hscope⟩, ⟨links, hlinks⟩, ⟨updates, hupdates⟩⟩ := c.admitsWrite_iff.1 hadmits
    exact (c.write_of_resolved hscope hid hlinks hupdates).1 (hagrees _ _ _ _ hscope hid hlinks hupdates)
  · intro hadmits hdiffers
    obtain ⟨⟨id, hid⟩, ⟨scope, hscope⟩, ⟨links, hlinks⟩, ⟨updates, hupdates⟩⟩ := c.admitsWrite_iff.1 hadmits
    refine (c.write_of_resolved hscope hid hlinks hupdates).2 fun hagreeing => hdiffers ?_
    intro scope' id' links' updates' hscope' hid' hlinks' hupdates'
    obtain rfl := Except.ok.inj (hscope.symm.trans hscope')
    obtain rfl := Option.some.inj (hid.symm.trans hid')
    obtain rfl := Except.ok.inj (hlinks.symm.trans hlinks')
    obtain rfl := Except.ok.inj (hupdates.symm.trans hupdates')
    exact hagreeing

/-- Essays with a byline and an author. -/
def essays : Compiler :=
  ⟨((Schema.Descriptor.base "Essay" "essay").withField "byline" ⟨.string, none⟩).withRelationship "author"
    ⟨"WROTE", .incoming, .one, false, "User", [⟨"role", none⟩], none, none⟩, default⟩

theorem namesApart_essays : essays.NamesApart where
  id := rfl
  tenant h := by cases h
  fields name hname := by
    have hmem : name ∈ ["byline"] := Dict.contains_iff.1 hname
    rw [List.mem_singleton.1 hmem]
    rfl
  edges name r hr _ key hkey := by
    have hmem : name ∈ ["author"] := Dict.contains_iff.1 (Dict.contains_of_get? hr)
    rw [List.mem_singleton.1 hmem] at hkey
    rcases List.mem_pair.1 hkey with rfl | rfl <;> exact ⟨by decide, by decide⟩

/-- Essays keep the two apart, so all writes that are admitted compile, and no others. -/
theorem write_accepts_admitted_essays :
    essays.descriptor.validate = .ok () ∧ ∀ caller mode input,
      (∃ plan, essays.write caller input mode = .ok plan) ↔ essays.AdmitsWrite caller mode input := by
  have hvalid : essays.descriptor.validate = .ok () := rfl
  refine ⟨hvalid, fun caller mode input => ?_⟩
  obtain ⟨hiff, -, hagrees⟩ := write_accepts_admitted essays hvalid caller mode input
  exact hiff.trans (and_iff_left (hagrees namesApart_essays))

/-- Notes whose byline is named like the relationship to their author. -/
def bylines : Compiler :=
  ⟨((Schema.Descriptor.base "Note" "note").withField "author" ⟨.string, none⟩).withRelationship "author"
    ⟨"WROTE", .incoming, .one, false, "User", [], none, none⟩, default⟩

/-- An admitted write does not compile: the byline of a note and the id of its author differ. -/
theorem admitted_write_conflicts :
    let input : Input := .ofList [("id", .str "n1"), ("author", .str "u1")]
    bylines.descriptor.validate = .ok () ∧ bylines.AdmitsWrite .system .put input ∧
      bylines.write .system input .put = refuse (.conflictingParameter "author") := by
  intro input
  have hlinks : (bylines.resolveLinks .system .put input bylines.links).toOption.isSome = true := by decide +kernel
  refine ⟨rfl, bylines.admitsWrite_iff.2 ⟨⟨_, rfl⟩, ⟨_, rfl⟩, Result.isSome_toOption_iff.1 hlinks, ⟨_, rfl⟩⟩, rfl⟩

end Compiler
end EntityGraph.Compile
