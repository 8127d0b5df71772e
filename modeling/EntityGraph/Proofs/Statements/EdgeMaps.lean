import EntityGraph.Proofs.Compile.Bindings
import EntityGraph.Proofs.Compile.Filling
import EntityGraph.Proofs.Statements.Linking
import EntityGraph.Proofs.Statements.Parameters

/-!
# The properties that a write puts on edges

A write that merges edges to the targets of a relationship finds their properties in a parameter: a map for the one
edge, or a map by target that has an entry for each id that is merged and no other. Whatever the input supplies for
edges that are merged is in it, and so are all changes of edges that exist.
-/
namespace EntityGraph.Compile

open Cypher
open Json (Value)
open Schema (Relationship)

/-- Whether what is supplied for the edges of a relationship names a property that is not declared. -/
def NamesUndeclared (r : Relationship) (v : Value) : Prop :=
  match r.cardinality with
  | .one => ∃ key, v.dict.contains key = true ∧ ¬Declares r key
  | .many => ∃ id entry key, v.dict.get? id = some entry ∧ entry.dict.contains key = true ∧ ¬Declares r key

/-- Whether all members of a value are in another one. -/
def Covers (bound v : Value) : Prop := ∀ key member, v.dict.get? key = some member → bound.dict.get? key = some member

/-- Whether all properties that are supplied for the edges of a relationship are in another value. -/
def CoversProps (r : Relationship) (bound v : Value) : Prop :=
  match r.cardinality with
  | .one => Covers bound v
  | .many => ∀ id entry, v.dict.get? id = some entry → ∃ props, bound.dict.get? id = some props ∧ Covers props entry

/-- How a write that was accepted fills the properties of the edges that it merges. -/
structure Compiler.FillsEdges (c : Compiler) (caller : Caller) (mode : WriteMode) (input : Input) (plan : WritePlan) :
    Prop where
  /-- They are filled for the ids that edges are merged to. -/
  filled : ∀ name r value ids, c.descriptor.relationships.get? name = some r →
    LinkSource caller mode input name r value → relatedIds name value = .ok ids → ids ≠ [] → r.fields ≠ [] →
    .subquery [c.node] (c.mergeBody name r true) ∈ plan.write.clauses ∧
      plan.write.params.get? name = some (.ofStrings ids) ∧ ∃ filled,
        plan.write.params.get? (edgePropsKey name) = some (.ofDict filled) ∧
          FilledFor r ids (suppliedProps input name) filled
  /-- Where none are declared, none are merged. The name of their parameter is left to a property or a relationship that
  is named so. -/
  bare : ∀ name r, c.descriptor.relationships.get? name = some r → r.fields = [] →
    .subquery [c.node] (c.mergeBody name r true) ∉ plan.write.clauses ∧
      (plan.write.params.contains (edgePropsKey name) = true →
        c.descriptor.fields.contains (edgePropsKey name) = true ∨
          c.descriptor.relationships.contains (edgePropsKey name) = true)

/-- What a write that was accepted does with the properties that its input supplies for edges. -/
structure Compiler.AppliesEdgeProps (c : Compiler) (caller : Caller) (mode : WriteMode) (input : Input)
    (plan : WritePlan) : Prop where
  /-- They are all merged into the edges to the targets, if there are any. -/
  merged : ∀ name r value ids v, c.descriptor.relationships.get? name = some r →
    LinkSource caller mode input name r value → relatedIds name value = .ok ids → ids ≠ [] →
    input.get? (edgePropsKey name) = some v → v.isNull = false →
    .subquery [c.node] (c.mergeBody name r true) ∈ plan.write.clauses ∧
      ∃ bound, plan.write.params.get? (edgePropsKey name) = some bound ∧ CoversProps r bound v
  /-- Nothing is supplied by target for a relationship that loses all its targets. -/
  emptied : ∀ name r value v, c.descriptor.relationships.get? name = some r →
    LinkSource caller mode input name r value → relatedIds name value = .ok [] → r.cardinality = .many →
    input.get? (edgePropsKey name) = some v → v.dict.isEmpty = true
  /-- A relationship without a value keeps its edges, and no edge is merged. -/
  untouched : ∀ name r, c.descriptor.relationships.get? name = some r →
    (∀ value, ¬LinkSource caller mode input name r value) →
    ∀ withProps, .subquery [c.node] (c.mergeBody name r withProps) ∉ plan.write.clauses
  /-- An update merges all changes of edges into the edges that exist. -/
  changed : mode = .patch → ∀ name r v, c.descriptor.relationships.get? name = some r →
    input.get? (edgeUpdateKey name) = some v → v.isNull = false →
    .subquery [c.node] (c.updateBody name r) ∈ plan.write.clauses ∧
      ∃ bound, plan.write.params.get? (edgeUpdateKey name) = some bound ∧ Covers bound v

theorem dict_ofDict (d : Dict Value) : (Value.ofDict d).dict = d := Dict.ofList_toList d

/-! ## What is admitted -/

section Admitted

variable {r : Relationship} {ids : List String} {v : Value}

theorem AdmitsProps.not_namesUndeclared (h : AdmitsProps r ids v) : ¬NamesUndeclared r v := by
  obtain ⟨-, h⟩ := h
  unfold NamesUndeclared
  cases hcard : r.cardinality with
  | one =>
    rw [hcard] at h
    rintro ⟨key, hkey, hundeclared⟩
    exact hundeclared (h.declares hkey)
  | many =>
    rw [hcard] at h
    obtain ⟨members, -, h⟩ := h
    rintro ⟨id, entry, key, hentry, hkey, hundeclared⟩
    exact hundeclared ((h id entry hentry).2.declares hkey)

/-- What is admitted by target is for targets that are linked. -/
theorem AdmitsProps.mem_ids (h : AdmitsProps r ids v) (hcard : r.cardinality = .many) {id : String}
    (hid : v.dict.contains id = true) : id ∈ ids := by
  obtain ⟨-, h⟩ := h
  rw [hcard] at h
  obtain ⟨members, -, h⟩ := h
  obtain ⟨entry, hentry⟩ := Option.isSome_iff_exists.1 hid
  exact (h id entry hentry).1

theorem AdmitsProps.isEmpty (h : AdmitsProps r [] v) (hcard : r.cardinality = .many) : v.dict.isEmpty = true := by
  rw [Dict.isEmpty, List.isEmpty_iff, List.eq_nil_iff_forall_not_mem]
  intro e he
  have hkey : v.dict.contains e.1 = true := Dict.contains_iff.2 (List.mem_map_of_mem he)
  exact List.not_mem_nil (h.mem_ids hcard hkey)

theorem NamesUndeclared.isNull (h : NamesUndeclared r v) : v.isNull = false := by
  cases v with
  | null =>
    unfold NamesUndeclared at h
    split at h
    · obtain ⟨key, hkey, -⟩ := h
      cases hkey
    · obtain ⟨id, entry, key, hentry, -⟩ := h
      cases hentry
  | _ => rfl

theorem isNull_of_contains {key : String} (h : v.dict.contains key = true) : v.isNull = false := by
  cases v with
  | null => cases h
  | _ => rfl

theorem Filled.covers {props : Dict Value} (h : Filled r v.dict props) : Covers (.ofDict props) v := by
  intro key member hmember
  rw [dict_ofDict, h.value, hmember, Option.some_or]

theorem FilledFor.coversProps {filled : Dict Value} (h : FilledFor r ids (some v) filled)
    (hadmits : AdmitsProps r ids v) : CoversProps r (.ofDict filled) v := by
  unfold FilledFor at h
  unfold CoversProps
  cases hcard : r.cardinality with
  | one =>
    rw [hcard] at h
    exact h.covers
  | many =>
    rw [hcard] at h
    intro id entry hentry
    have hid : id ∈ ids := hadmits.mem_ids hcard (Dict.contains_of_get? hentry)
    obtain ⟨props, hprops, hfilled⟩ := h.2 id hid
    have hsupplied : (propsOf (some v)).get? id = some entry := hentry
    rw [hsupplied] at hfilled
    exact ⟨.ofDict props, by rw [dict_ofDict, hprops], hfilled.covers⟩

end Admitted

namespace Compiler

variable (c : Compiler) {caller : Caller} {mode : WriteMode} {input : Input} {plan : WritePlan} {links : List Links}

/-! ## The subqueries for edges -/

theorem mergeBody_inj {name name' : String} {r r' : Relationship} {withProps withProps' : Bool}
    (h : c.mergeBody name r withProps = c.mergeBody name' r' withProps') : name = name' ∧ withProps = withProps' := by
  cases withProps <;> cases withProps' <;> simp_all [mergeBody]

/-- The only subqueries that merge edges are those for links. -/
theorem links_of_mergeBody_mem {tied : Bool} {updates : List EdgeUpdate} {name : String} {r : Relationship}
    {withProps : Bool}
    (h : .subquery [c.node] (c.mergeBody name r withProps) ∈ c.writeClauses mode tied input links updates) :
    ∃ l ∈ links, l.name = name ∧ l.ids ≠ [] ∧ l.edgeProps.isSome = withProps := by
  rcases c.mem_writeClauses h with hopening | ⟨items, heq⟩ | ⟨l, hl, hlink⟩ | ⟨u, -, heq⟩ | ⟨columns, order, heq⟩
  · have hinside := c.inside_writeOpening hopening
    simp [mergeBody, Clause.inside, allInside] at hinside
  · cases heq
  · rcases c.mem_linkClauses_iff.1 hlink with ⟨-, heq⟩ | ⟨hids, heq⟩
    · simp [staleBody, mergeBody] at heq
    · obtain ⟨rfl, rfl⟩ := c.mergeBody_inj (Clause.subquery.inj heq).2
      exact ⟨l, hl, rfl, hids, rfl⟩
  · simp [updateClause, updateBody, mergeBody] at heq
  · cases heq

theorem mem_writeClauses_of_links {tied : Bool} {updates : List EdgeUpdate} {l : Links} (hl : l ∈ links) {k : Clause}
    (hk : k ∈ c.linkClauses mode l) : k ∈ c.writeClauses mode tied input links updates := by
  simp only [writeClauses, List.mem_append, List.mem_cons, List.mem_flatMap]
  exact .inr (.inr (.inl (.inl ⟨l, hl, hk⟩)))

theorem updateClause_mem_writeClauses {tied : Bool} {updates : List EdgeUpdate} {u : EdgeUpdate} (hu : u ∈ updates) :
    c.updateClause u ∈ c.writeClauses mode tied input links updates := by
  simp only [writeClauses, List.mem_append, List.mem_cons, List.mem_map]
  exact .inr (.inr (.inl (.inr ⟨u, hu, rfl⟩)))

/-! ## The maps that are bound -/

/-- The edge properties of a relationship stay what they are in the parameters of a write. Only the relationship binds
them anew, and ids are never equal to them. -/
theorem get?_edgeProps_of_write (h : c.write caller input mode = .ok plan)
    (hlinks : c.resolveLinks caller mode input c.links = .ok links) {l : Links} (hl : l ∈ links) (hids : l.ids ≠ [])
    {props : Value} (hprops : l.edgeProps = some props) :
    plan.write.params.get? (edgePropsKey l.name) = some props := by
  obtain ⟨links', updates, b, -, hlinks', -, -, -, hbuild⟩ := c.write_steps h
  obtain rfl : links = links' := Except.ok.inj (hlinks.symm.trans hlinks')
  obtain ⟨before, after, rfl⟩ := List.append_of_mem hl
  rw [List.foldl_append, List.foldl_cons] at hbuild
  generalize before.foldl (c.writeLinks mode) _ = b at hbuild
  have hwritten : (c.writeLinks mode b l).Carries (edgePropsKey l.name) (· = props) := by
    have hsome : l.ids.isEmpty = false := by simpa using hids
    unfold writeLinks
    simp only [hsome, Bool.false_eq_true, if_false]
    exact Builder.carries_subquery _ (c.mergeListed_holds l) _ (Links.get?_mergeParams_props hprops) rfl
  have hlater : ∀ l' ∈ after, ∀ value, l'.Binds (edgePropsKey l.name) value → Replaces (· = props) value := by
    rintro l' hl' value (⟨-, rfl⟩ | ⟨hname, hprops'⟩)
    · exact Replaces.of_exact (Value.exact_ofStrings _)
    · have hl' : l' ∈ before ++ l :: after := List.mem_append_right _ (List.mem_cons_of_mem _ hl')
      obtain rfl : l = l' := c.eq_of_name_eq hlinks hl hl' ((String.append_left_inj _).1 hname)
      obtain rfl : props = value := Option.some.inj (hprops.symm.trans hprops')
      exact fun _ _ _ => rfl
  obtain ⟨_, hget, rfl⟩ := c.get?_of_carries hwritten hbuild hlater fun u _ hname =>
    absurd hname (edgePropsKey_ne_edgeUpdateKey l.name u.name)
  exact hget

/-- So do the changes of edges. -/
theorem get?_update_of_write (h : c.write caller input .patch = .ok plan) {updates : List EdgeUpdate}
    (hupdates : c.writeUpdates .patch input = .ok updates) {u : EdgeUpdate} (hu : u ∈ updates) :
    plan.write.params.get? (edgeUpdateKey u.name) = some (.ofDict u.props) := by
  obtain ⟨links, updates', b, -, -, hupdates', -, -, hbuild⟩ := c.write_steps h
  obtain rfl : updates = updates' := Except.ok.inj (hupdates.symm.trans hupdates')
  obtain ⟨before, after, rfl⟩ := List.append_of_mem hu
  rw [List.foldl_append, List.foldl_cons] at hbuild
  generalize before.foldl c.updateEdges _ = b at hbuild
  have hupdated : (c.updateEdges b u).Carries (edgeUpdateKey u.name) (· = .ofDict u.props) := by
    obtain ⟨nested, hnested, -, heq⟩ := c.updateEdges_eq_subquery u
    rw [heq]
    exact Builder.carries_subquery _ hnested _ (by simp [EdgeUpdate.params, Dict.get?_insert]) rfl
  -- Changes for the same relationship are the same members of the input.
  have hsame : ∀ u' ∈ after, edgeUpdateKey u.name = edgeUpdateKey u'.name → u'.props = u.props := by
    intro u' hu' hname
    have hu' : u' ∈ before ++ u :: after := List.mem_append_right _ (List.mem_cons_of_mem _ hu')
    obtain ⟨members, hinput, hmembers⟩ := (c.resolved_of_mem_writeUpdates hupdates hu).2.2.props
    obtain ⟨members', hinput', hmembers'⟩ := (c.resolved_of_mem_writeUpdates hupdates hu').2.2.props
    rw [← hname, hinput] at hinput'
    cases hinput'
    rw [hmembers, hmembers']
  have hcarried := (c.carries_updateEdges hupdated after fun u' hu' hname => by
    rw [hsame u' hu' hname]
    exact fun _ _ _ => rfl).push (.returning [.expr (.prop c.node "id") "id"] false [])
  obtain ⟨_, hget, rfl⟩ := hcarried.build hbuild
  exact hget

/-! ## What a write fills in -/

theorem fillsEdges_of_write (h : c.write caller input mode = .ok plan) : c.FillsEdges caller mode input plan := by
  obtain ⟨scope, links, updates, -, -, hlinks, -, -, hwrite⟩ := c.write_outline h
  refine ⟨?_, ?_⟩
  · intro name r value ids hr hsource hids hne hfields
    obtain ⟨l, hl, rfl, rfl, hids', -⟩ := c.resolved_of_source hlinks hr hsource
    obtain rfl : l.ids = ids := Except.ok.inj (hids'.symm.trans hids)
    have hresolved := (c.resolved_of_mem hlinks hl).2
    obtain ⟨filled, hprops, hfilled⟩ := (filledFor_of_edgeProperties hresolved.props).2 hfields
    have hclause : .subquery [c.node] (c.mergeBody l.name l.relationship l.edgeProps.isSome) ∈ c.linkClauses mode l :=
      c.mem_linkClauses_iff.2 (.inr ⟨hne, rfl⟩)
    rw [hprops] at hclause
    refine ⟨?_, c.get?_ids_of_write h hlinks hl fun _ => by simpa using hne, filled, ?_, hfilled⟩
    · rw [hwrite]
      exact c.mem_writeClauses_of_links hl hclause
    · exact c.get?_edgeProps_of_write h hlinks hl hne hprops
  · intro name r hr hfields
    have hbare : ∀ l ∈ links, l.name = name → l.edgeProps = none := by
      rintro l hl rfl
      obtain ⟨hmem, hresolved⟩ := c.resolved_of_mem hlinks hl
      obtain rfl : l.relationship = r := Option.some.inj ((Dict.get?_of_mem hmem).symm.trans hr)
      exact (filledFor_of_edgeProperties hresolved.props).1 hfields
    rw [hwrite]
    constructor
    · intro hclause
      obtain ⟨l, hl, hname, -, hprops⟩ := c.links_of_mergeBody_mem hclause
      rw [hbare l hl hname] at hprops
      cases hprops
    · intro hbound
      have hnamed : ∀ l ∈ links, edgePropsKey name = l.name →
          c.descriptor.relationships.contains (edgePropsKey name) = true := by
        intro l hl hkey
        rw [hkey]
        exact c.contains_of_links hlinks hl
      rcases contains_writeParams.1 hbound with ⟨u, -, hkey⟩ | ⟨l, hl, hlinked⟩ | ⟨e, he, -, hkey⟩ | ⟨-, hkey⟩ | hkey
      · exact absurd hkey (edgePropsKey_ne_edgeUpdateKey name u.name)
      · rcases hlinked with ⟨-, hkey⟩ | ⟨-, hkey | ⟨hprops, hkey⟩⟩
        · exact .inr (hnamed l hl hkey)
        · exact .inr (hnamed l hl hkey)
        · rw [hbare l hl ((String.append_left_inj _).1 hkey).symm] at hprops
          cases hprops
      · rw [hkey]
        exact .inl (Dict.contains_of_get? (Dict.get?_of_mem he))
      · exact absurd hkey (edgePropsKey_ne (by decide) name)
      · exact absurd hkey (edgePropsKey_ne (by decide) name)

/-- The edge properties of links are admitted. -/
theorem admitsProps_of_mem (hlinks : c.resolveLinks caller mode input c.links = .ok links) {l : Links} (hl : l ∈ links)
    {v : Value} (hv : input.get? (edgePropsKey l.name) = some v) (hnull : v.isNull = false) :
    AdmitsProps l.relationship l.ids v :=
  edgeProperties_ok_iff.1 ⟨_, (c.resolved_of_mem hlinks hl).2.props⟩ v (suppliedProps_eq_some_iff.2 ⟨hv, hnull⟩)

/-- A write that compiles fills in the properties of all edges that it merges. And if a relationship has a value, a
write does not compile whose input names a property of its edges that is not declared or a target that is not linked. -/
theorem write_fills_edge_properties (caller : Caller) (mode : WriteMode) (input : Input) :
    (∀ plan, c.write caller input mode = .ok plan → c.FillsEdges caller mode input plan) ∧
      ∀ name r value v, c.descriptor.relationships.get? name = some r →
        LinkSource caller mode input name r value → input.get? (edgePropsKey name) = some v →
        (NamesUndeclared r v ∨ r.cardinality = .many ∧ ∃ id, v.dict.contains id = true ∧
          ∀ ids, relatedIds name value = .ok ids → id ∉ ids) →
        ∃ cause, c.write caller input mode = .error cause := by
  refine ⟨fun plan h => c.fillsEdges_of_write h, fun name r value v hr hsource hv hwrong => ?_⟩
  cases hwrite : c.write caller input mode with
  | error cause => exact ⟨cause, rfl⟩
  | ok plan =>
    obtain ⟨_, links, _, -, -, hlinks, -⟩ := c.write_outline hwrite
    obtain ⟨l, hl, rfl, rfl, hids, -⟩ := c.resolved_of_source hlinks hr hsource
    rcases hwrong with hundeclared | ⟨hcard, id, hid, hstray⟩
    · exact absurd hundeclared (c.admitsProps_of_mem hlinks hl hv hundeclared.isNull).not_namesUndeclared
    · exact absurd ((c.admitsProps_of_mem hlinks hl hv (isNull_of_contains hid)).mem_ids hcard hid) (hstray _ hids)

/-- Playlists with a cover and tracks, which are put at their start unless the input says where. -/
def playlists : Compiler :=
  ⟨((Schema.Descriptor.base "Playlist" "playlist").withRelationship "cover"
    ⟨"SHOWS", .outgoing, .one, false, "Image", [⟨"caption", none⟩], none, none⟩).withRelationship "tracks"
    ⟨"CONTAINS", .outgoing, .many, false, "Track", [⟨"position", some (.num (.int 0))⟩, ⟨"note", none⟩], none, none⟩,
    default⟩

/-- A new playlist with two tracks, one of them with a note. A note for a third track is refused. -/
theorem write_fills_edge_properties_playlist :
    let noted (id : String) : Input := .ofList [("id", .str "p1"), ("tracks", .ofStrings ["t1", "t2"]),
      ("tracksEdgeProps", .object [(id, .object [("note", .str "live")])])]
    (∃ plan, playlists.write .system (noted "t2") .create = .ok plan ∧ ∃ filled first second,
      plan.write.params.get? "tracksEdgeProps" = some (.ofDict filled) ∧
        (∀ id, filled.contains id = true ↔ id ∈ ["t1", "t2"]) ∧
        filled.get? "t1" = some (.ofDict first) ∧ first.get? "position" = some (.num (.int 0)) ∧
        first.get? "note" = none ∧ filled.get? "t2" = some (.ofDict second) ∧
        second.get? "position" = some (.num (.int 0)) ∧ second.get? "note" = some (.str "live")) ∧
    ∃ cause, playlists.write .system (noted "t3") .create = .error cause := by
  intro noted
  constructor
  · obtain ⟨plan, hplan⟩ := Result.isSome_toOption_iff.1
      (by decide +kernel : (playlists.write .system (noted "t2") .create).toOption.isSome = true)
    have hfills := (write_fills_edge_properties playlists .system .create (noted "t2")).1 plan hplan
    obtain ⟨-, -, filled, hbound, hids, hentries⟩ :=
      hfills.filled "tracks" _ _ ["t1", "t2"] rfl (.input rfl) rfl (by decide) (by decide)
    obtain ⟨first, hfirst, hfirst'⟩ := hentries "t1" (by decide)
    obtain ⟨second, hsecond, hsecond'⟩ := hentries "t2" (by decide)
    exact ⟨plan, hplan, filled, first, second, hbound, hids, hfirst, hfirst'.value _, hfirst'.value _, hsecond,
      hsecond'.value _, hsecond'.value _⟩
  · refine (write_fills_edge_properties playlists .system .create (noted "t3")).2 "tracks" _ _ _ rfl (.input rfl) rfl
      (.inr ⟨rfl, "t3", rfl, fun ids hids => ?_⟩)
    cases hids
    decide

/-! ## What a write applies -/

/-- Changes of edges that the input has are resolved. -/
theorem mem_updates_of_get? {updates : List EdgeUpdate} (hupdates : c.writeUpdates .patch input = .ok updates)
    {name : String} {r : Relationship} (hr : c.descriptor.relationships.get? name = some r) {v : Value}
    (hv : input.get? (edgeUpdateKey name) = some v) (hnull : v.isNull = false) : ⟨name, r, v.dict⟩ ∈ updates := by
  have hmem : (name, r) ∈ c.links := Dict.mem_of_get? hr
  obtain ⟨update, hupdate⟩ := resolveEdgeUpdates_ok_iff.1 ⟨updates, hupdates⟩ _ hmem
  obtain ⟨hnone, -⟩ | ⟨v', hv', -, rfl⟩ := resolveEdgeUpdate_eq_ok_iff.1 hupdate
  · rw [hnone v hv] at hnull
    cases hnull
  · obtain rfl : v = v' := Option.some.inj (hv.symm.trans hv')
    exact (mem_resolveEdgeUpdates_iff hupdates).2 ⟨hmem, hupdate⟩

/-- A write that compiles applies the supplied properties of all edges that it merges, and an update all changes of
edges. What is supplied for a relationship without a value is left out with the relationship. -/
theorem write_applies_edge_properties (h : c.write caller input mode = .ok plan) :
    c.AppliesEdgeProps caller mode input plan := by
  obtain ⟨scope, links, updates, -, -, hlinks, hupdates, -, hwrite⟩ := c.write_outline h
  refine ⟨?_, ?_, ?_, ?_⟩
  · intro name r value ids v hr hsource hids hne hv hnull
    obtain ⟨l, hl, rfl, rfl, hids', -⟩ := c.resolved_of_source hlinks hr hsource
    obtain rfl : l.ids = ids := Except.ok.inj (hids'.symm.trans hids)
    have hadmits := c.admitsProps_of_mem hlinks hl hv hnull
    obtain ⟨hclause, -, filled, hbound, hfilled⟩ :=
      (c.fillsEdges_of_write h).filled _ _ value _ hr hsource hids hne hadmits.1
    rw [suppliedProps_eq_some_iff.2 ⟨hv, hnull⟩] at hfilled
    exact ⟨hclause, _, hbound, hfilled.coversProps hadmits⟩
  · intro name r value v hr hsource hids hcard hv
    obtain ⟨l, hl, rfl, rfl, hids', -⟩ := c.resolved_of_source hlinks hr hsource
    have hnone : l.ids = [] := Except.ok.inj (hids'.symm.trans hids)
    cases hnull : v.isNull with
    | true =>
      obtain rfl : v = .null := by cases v <;> first | rfl | cases hnull
      rfl
    | false => exact AdmitsProps.isEmpty (hnone ▸ c.admitsProps_of_mem hlinks hl hv hnull) hcard
  · intro name r hr hnone withProps hclause
    rw [hwrite] at hclause
    obtain ⟨l, hl, rfl, -⟩ := c.links_of_mergeBody_mem hclause
    obtain ⟨hr', value, hsource, -⟩ := c.source_of_mem hlinks hl
    obtain rfl : l.relationship = r := Option.some.inj (hr'.symm.trans hr)
    exact hnone value hsource
  · rintro rfl name r v hr hv hnull
    have hu := c.mem_updates_of_get? hupdates hr hv hnull
    refine ⟨?_, _, c.get?_update_of_write h hupdates hu, fun key member hmember => by rw [dict_ofDict, hmember]⟩
    rw [hwrite]
    exact c.updateClause_mem_writeClauses hu

/-- A playlist that gets a track with a note, while the note of another track changes. -/
theorem write_applies_edge_properties_playlist :
    let input : Input := .ofList [("id", .str "p1"), ("tracks", .ofStrings ["t1", "t2"]),
      ("tracksEdgeProps", .object [("t2", .object [("note", .str "live")])]),
      ("tracksEdgePropsUpdate", .object [("t1", .object [("note", .str "demo")])])]
    ∃ plan, playlists.write .system input .patch = .ok plan ∧ ∃ props changes,
      plan.write.params.get? "tracksEdgeProps" = some props ∧
        (∃ entry, props.dict.get? "t2" = some entry ∧ entry.dict.get? "note" = some (.str "live")) ∧
        plan.write.params.get? "tracksEdgePropsUpdate" = some changes ∧
        changes.dict.get? "t1" = some (.object [("note", .str "demo")]) := by
  intro input
  obtain ⟨plan, hplan⟩ := Result.isSome_toOption_iff.1
    (by decide +kernel : (playlists.write .system input .patch).toOption.isSome = true)
  have happlied := write_applies_edge_properties playlists hplan
  obtain ⟨-, props, hprops, hcovered⟩ :=
    happlied.merged "tracks" _ _ ["t1", "t2"] _ rfl (.input rfl) rfl (by decide) rfl rfl
  obtain ⟨entry, hentry, hnote⟩ := hcovered "t2" _ rfl
  obtain ⟨-, changes, hchanges, hchanged⟩ := happlied.changed rfl "tracks" _ _ rfl rfl rfl
  exact ⟨plan, hplan, props, changes, hprops, ⟨entry, hentry, hnote "note" _ rfl⟩, hchanges, hchanged "t1" _ rfl⟩

/-- Properties of edges are not always applied: an update with a note for a track that does not name the tracks compiles
and leaves the note out. -/
theorem not_write_applies_edge_properties :
    ¬∀ (c : Compiler) (caller : Caller) (mode : WriteMode) (input : Input) (plan : WritePlan),
      c.write caller input mode = .ok plan → ∀ name r v, c.descriptor.relationships.get? name = some r →
        input.get? (edgePropsKey name) = some v → v.isNull = false →
        .subquery [c.node] (c.mergeBody name r true) ∈ plan.write.clauses ∧
          ∃ bound, plan.write.params.get? (edgePropsKey name) = some bound ∧ CoversProps r bound v := by
  intro hall
  have hunbound : ((playlists.write .system (.ofList [("id", .str "p1"),
      ("tracksEdgeProps", .object [("t1", .object [("note", .str "live")])])]) .patch).map
        (fun plan => plan.write.params.contains (edgePropsKey "tracks"))).toOption = some false := by decide +kernel
  obtain ⟨plan, hplan, hcontains⟩ := Result.exists_of_toOption_map hunbound
  obtain ⟨-, bound, hbound, -⟩ := hall playlists .system .patch _ plan hplan "tracks" _ _ rfl rfl rfl
  rw [Dict.contains, hbound] at hcontains
  cases hcontains

end Compiler
end EntityGraph.Compile
