import EntityGraph.Proofs.Graph.Matching
import EntityGraph.Proofs.Statements.EdgeMaps

/-!
# What is merged into an edge

The subqueries of a write that overlay edges take the elements of a list one by one: the ids of a relationship, or the
keys of the changes of its edges. What they overlay an edge with is looked up in a parameter and is worth the same in
every graph. It is a map of declared properties, but for changes of an edge that are null: a null is admitted there as
it is where properties are filled in, and nothing is filled in for it.
-/
namespace EntityGraph.Graph

open Json (Value)

namespace Val

theorem lookup_ofMembers (members : List (String × Value)) (key : String) :
    (ofMembers members).lookup key = (members.lookup key).map ofJson := by
  induction members with
  | nil => simp only [ofMembers, List.lookup_nil, Option.map_none]
  | cons m rest ih =>
    obtain ⟨k, v⟩ := m
    rw [ofMembers, Entries.lookup_cons_eq, Entries.lookup_cons_eq, ih]
    split <;> rfl

/-- The entry of an object is the member under its key, and null without one. -/
theorem entry_ofDict (d : Dict Value) (key : String) :
    (ofJson (.ofDict d)).entry (text key) = ofJson ((d.get? key).getD .null) := by
  rw [Value.ofDict, ofJson, entry, lookup_ofMembers, Dict.get?]
  cases d.toList.lookup key with
  | none => simp only [Option.map_none, Option.getD_none, ofJson]
  | some v => rfl

theorem map_fst_ofMembers (members : List (String × Value)) :
    (ofMembers members).map Prod.fst = members.map Prod.fst := by
  induction members with
  | nil => simp only [ofMembers, List.map_nil]
  | cons m rest ih =>
    obtain ⟨k, v⟩ := m
    rw [ofMembers, List.map_cons, List.map_cons, ih]

theorem keys_ofDict (d : Dict Value) : (ofJson (.ofDict d)).keys = list (d.keys.map text) := by
  rw [Value.ofDict, ofJson, keys, Dict.keys, ← map_fst_ofMembers, List.map_map]
  rfl

end Val
end EntityGraph.Graph

namespace EntityGraph.Compile

open Cypher
open EntityGraph.Graph (Context Env Val)
open Json (Value)
open Schema (Relationship)

/-- Whether a subquery takes elements one by one and what an expression is worth for each of them is a given value. -/
def MergesEach (s : Statement) (k : Clause) (e : Expr) (elements : List String) (given : String → Value) : Prop :=
  ∃ imports list each rest, k = .subquery imports (.unwind list each :: rest) ∧
    ∀ (x : Context) (env : Env), x.params = s.params →
      list.value x env = .list (elements.map Val.text) ∧
        ∀ id ∈ elements, env.read each = .text id → e.value x env = Val.ofJson (given id)

/-- Whether a value is a map of declared edge properties. -/
def IsEdgeMap (r : Relationship) (v : Value) : Prop := ∃ members, v = .obj members ∧ ∀ m ∈ members, Declares r m.1

/-- Whether an input gives null as the changes of the edge to a target. -/
def NullsEdge (input : Input) (name id : String) : Prop :=
  ∃ v, input.get? (edgeUpdateKey name) = some v ∧ v.dict.get? id = some .null

/-- What a subquery merges into edges is the same however it is told. -/
theorem MergesEach.agree {s : Statement} {k : Clause} {e : Expr} {elements elements' : List String}
    {given given' : String → Value} (h : MergesEach s k e elements given) (h' : MergesEach s k e elements' given') :
    elements = elements' ∧ ∀ id ∈ elements, Val.ofJson (given id) = Val.ofJson (given' id) := by
  obtain ⟨imports, list, each, rest, rfl, hvalue⟩ := h
  obtain ⟨imports', list', each', rest', heq, hvalue'⟩ := h'
  cases heq
  -- Any graph will do: what is merged depends on the parameters alone.
  let x : Context := ⟨.ofGraph ⟨[], [], by simp, by simp, by simp⟩, s.params, []⟩
  have helements : elements.map Val.text = elements'.map Val.text :=
    Val.list.inj ((hvalue x [] rfl).1.symm.trans (hvalue' x [] rfl).1)
  obtain rfl : elements = elements' := List.map_injective_iff.2 (fun _ _ => Val.text.inj) helements
  refine ⟨rfl, fun id hid => ?_⟩
  have hread : Env.read [(each, .text id)] each = .text id := by simp [Env.read]
  rw [← (hvalue x _ rfl).2 id hid hread, ← (hvalue' x _ rfl).2 id hid hread]

theorem Filled.isEdgeMap {r : Relationship} {supplied props : Dict Value} (h : Filled r supplied props) :
    IsEdgeMap r (.ofDict props) :=
  ⟨props.toList, rfl, fun m hm => h.declared m.1 (Dict.contains_iff.2 (List.mem_map_of_mem hm))⟩

/-- What is overlaid for a target, of the properties that are filled in for all targets. -/
def filledValue (r : Relationship) (filled : Dict Value) (id : String) : Value :=
  match r.cardinality with
  | .one => .ofDict filled
  | .many => (filled.get? id).getD .null

theorem FilledFor.isEdgeMap {r : Relationship} {ids : List String} {supplied : Option Value} {filled : Dict Value}
    (h : FilledFor r ids supplied filled) {id : String} (hid : id ∈ ids) : IsEdgeMap r (filledValue r filled id) := by
  unfold FilledFor at h
  unfold filledValue
  cases hcard : r.cardinality with
  | one =>
    rw [hcard] at h
    exact h.isEdgeMap
  | many =>
    rw [hcard] at h
    obtain ⟨props, hprops, hfilled⟩ := h.2 id hid
    dsimp only
    rw [hprops, Option.getD_some]
    exact hfilled.isEdgeMap

namespace Compiler

variable (c : Compiler) {caller : Caller} {mode : WriteMode} {input : Input} {plan : WritePlan} {links : List Links}
  {updates : List EdgeUpdate} {s : Statement}

/-! ## What a parameter gives -/

theorem mergesEach_mergeBody {name : String} (r : Relationship) {ids : List String} {filled : Dict Value}
    (hids : s.params.get? name = some (.ofStrings ids))
    (hfilled : s.params.get? (edgePropsKey name) = some (.ofDict filled)) :
    MergesEach s (.subquery [c.node] (c.mergeBody name r true)) (mergedProps name r) ids (filledValue r filled) := by
  refine ⟨_, _, _, _, rfl, fun x env hx => ?_⟩
  rw [← hx] at hids hfilled
  constructor
  · rw [Expr.value, x.param_of_get? hids, Val.ofJson_ofStrings]
  · intro id _ hread
    unfold mergedProps filledValue
    cases r.cardinality with
    | one => exact x.param_of_get? hfilled
    | many =>
      dsimp only
      rw [Expr.value, Expr.value, hread, x.param_of_get? hfilled, Val.entry_ofDict]

theorem mergesEach_updateClause {u : EdgeUpdate}
    (hprops : s.params.get? (edgeUpdateKey u.name) = some (.ofDict u.props)) :
    MergesEach s (c.updateClause u) (.entry (edgeUpdateKey u.name) (.var (u.name ++ "_id"))) u.props.keys
      (fun id => (u.props.get? id).getD .null) := by
  refine ⟨_, _, _, _, rfl, fun x env hx => ?_⟩
  rw [← hx] at hprops
  have hparam := x.param_of_get? hprops
  constructor
  · rw [Expr.value, Expr.value, hparam, Val.keys_ofDict]
  · intro id _ hread
    rw [Expr.value, Expr.value, hread, hparam, Val.entry_ofDict]

/-! ## The subqueries that overlay edges -/

theorem overlay_of_mem_writeClauses {tied : Bool} {k : Clause}
    (hk : k ∈ c.writeClauses mode tied input links updates) {items : List Assignment} (hset : .set items ∈ k.inside)
    {edge : String} {e : Expr} (he : .overlay edge e ∈ items) :
    (∃ l ∈ links, l.ids ≠ [] ∧ l.edgeProps.isSome = true ∧
        k = .subquery [c.node] (c.mergeBody l.name l.relationship true) ∧ edge = l.name ++ "_edge" ∧
          e = mergedProps l.name l.relationship) ∨
      ∃ u ∈ updates, k = c.updateClause u ∧ edge = u.name ++ "_edge" ∧
        e = .entry (edgeUpdateKey u.name) (.var (u.name ++ "_id")) := by
  rcases c.mem_writeClauses hk with hopening | ⟨_, rfl⟩ | ⟨l, hl, hlink⟩ | ⟨u, hu, rfl⟩ | ⟨_, _, rfl⟩
  · rw [c.inside_writeOpening hopening] at hset
    cases hset
  · cases hset
  · rcases c.mem_linkClauses_iff.1 hlink with ⟨-, rfl⟩ | ⟨hids, rfl⟩
    · simp [Clause.inside, staleBody, allInside] at hset
    · cases hprops : l.edgeProps.isSome with
      | false =>
        rw [hprops] at hset
        simp [Clause.inside, mergeBody, allInside, Clause.matching] at hset
      | true =>
        rw [hprops] at hset
        obtain rfl : items = [.overlay (l.name ++ "_edge") (mergedProps l.name l.relationship)] := by
          simpa [Clause.inside, mergeBody, allInside, Clause.matching] using hset
        cases List.mem_singleton.1 he
        exact .inl ⟨l, hl, hids, hprops, rfl, rfl, rfl⟩
  · obtain rfl : items = [.overlay (u.name ++ "_edge") (.entry (edgeUpdateKey u.name) (.var (u.name ++ "_id")))] := by
      simpa [Clause.inside, updateClause, updateBody, allInside, Clause.matching] using hset
    cases List.mem_singleton.1 he
    exact .inr ⟨u, hu, rfl, rfl, rfl⟩
  · cases hset

/-- Changes of edges are those of a declared relationship, as the input gives them. -/
theorem admitted_of_mem_updates (hupdates : c.writeUpdates mode input = .ok updates) {u : EdgeUpdate}
    (hu : u ∈ updates) : mode = .patch ∧ c.descriptor.relationships.get? u.name = some u.relationship ∧
      ∃ v, input.get? (edgeUpdateKey u.name) = some v ∧ AdmitsChanges u.relationship v ∧ u.props = v.dict := by
  obtain ⟨rfl, hmem, -⟩ := c.resolved_of_mem_writeUpdates hupdates hu
  have hupdate := ((mem_resolveEdgeUpdates_iff hupdates).1 hu).2
  obtain ⟨-, hnone⟩ | ⟨v, hv, hadmits, heq⟩ := resolveEdgeUpdate_eq_ok_iff.1 hupdate
  · cases hnone
  · exact ⟨rfl, Dict.get?_of_mem hmem, v, hv, hadmits, congrArg EdgeUpdate.props (Option.some.inj heq)⟩

/-! ## All maps of a write -/

/-- What a write merges into edges. -/
structure MergesMaps (caller : Caller) (mode : WriteMode) (input : Input) (plan : WritePlan) : Prop where
  /-- Every overlay of an edge belongs to a relationship and is a map of its edge properties for each element of the
  list that its subquery takes. Only where an update gives null as the changes of an edge, it is null. -/
  maps : ∀ k ∈ plan.write.clauses, ∀ items edge e, .set items ∈ k.inside → .overlay edge e ∈ items →
    ∃ name r elements given, c.descriptor.relationships.get? name = some r ∧ edge = name ++ "_edge" ∧
      MergesEach plan.write k e elements given ∧ ∀ id ∈ elements,
        IsEdgeMap r (given id) ∨ mode = .patch ∧ NullsEdge input name id ∧ given id = .null
  /-- Each null that an update gives as the changes of an edge is overlaid as it is. -/
  nulls : mode = .patch → ∀ name r id, c.descriptor.relationships.get? name = some r → NullsEdge input name id →
    ∃ k ∈ plan.write.clauses, ∃ e elements given, .set [.overlay (name ++ "_edge") e] ∈ k.inside ∧
      MergesEach plan.write k e elements given ∧ id ∈ elements ∧ given id = .null

theorem mergesMaps_links (h : c.write caller input mode = .ok plan)
    (hlinks : c.resolveLinks caller mode input c.links = .ok links) {l : Links} (hl : l ∈ links) (hids : l.ids ≠ [])
    (hprops : l.edgeProps.isSome = true) :
    ∃ given, MergesEach plan.write (.subquery [c.node] (c.mergeBody l.name l.relationship true))
      (mergedProps l.name l.relationship) l.ids given ∧ ∀ id ∈ l.ids, IsEdgeMap l.relationship (given id) := by
  obtain ⟨props, hsome⟩ := Option.isSome_iff_exists.1 hprops
  have hresolved := (c.resolved_of_mem hlinks hl).2.props
  rw [hsome] at hresolved
  obtain ⟨filled, hfilled, hfor⟩ := (filledFor_of_edgeProperties hresolved).2 (fields_of_edgeProperties hresolved)
  obtain rfl : props = .ofDict filled := Option.some.inj hfilled
  have hboundIds := c.get?_ids_of_write h hlinks hl fun _ => by simpa using hids
  have hboundProps := c.get?_edgeProps_of_write h hlinks hl hids hsome
  exact ⟨_, c.mergesEach_mergeBody l.relationship hboundIds hboundProps, fun id hid => hfor.isEdgeMap hid⟩

/-- A null that an update gives as the changes of an edge is overlaid as it is. -/
theorem merges_null (h : c.write caller input .patch = .ok plan) {name : String} {r : Relationship}
    (hr : c.descriptor.relationships.get? name = some r) {id : String} (hnulls : NullsEdge input name id) :
    ∃ k ∈ plan.write.clauses, ∃ e elements given, .set [.overlay (name ++ "_edge") e] ∈ k.inside ∧
      MergesEach plan.write k e elements given ∧ id ∈ elements ∧ given id = .null := by
  obtain ⟨scope, links, updates, -, -, -, hupdates, -, hwrite⟩ := c.write_outline h
  obtain ⟨v, hv, hnull⟩ := hnulls
  have hgiven : v.isNull = false := isNull_of_contains (Dict.contains_of_get? hnull)
  have hu := c.mem_updates_of_get? hupdates hr hv hgiven
  have hclause : c.updateClause ⟨name, r, v.dict⟩ ∈ plan.write.clauses := by
    rw [hwrite]
    exact c.updateClause_mem_writeClauses hu
  have hmerges := c.mergesEach_updateClause (c.get?_update_of_write h hupdates hu)
  refine ⟨_, hclause, _, _, _, ?_, hmerges, Dict.contains_iff.1 (Dict.contains_of_get? hnull), ?_⟩
  · simp [updateClause, updateBody, Clause.inside]
  · simp [hnull]

/-- Every value that a write merges into an edge is a map of declared properties, unless it is an update and the value
is a null that the input gives as the changes of the edge. That null is merged. -/
theorem write_merges_maps (h : c.write caller input mode = .ok plan) : c.MergesMaps caller mode input plan := by
  obtain ⟨scope, links, updates, -, -, hlinks, hupdates, -, hwrite⟩ := c.write_outline h
  constructor
  · intro k hk items edge e hset he
    rw [hwrite] at hk
    obtain ⟨l, hl, hids, hprops, rfl, rfl, rfl⟩ | ⟨u, hu, rfl, rfl, rfl⟩ := c.overlay_of_mem_writeClauses hk hset he
    · obtain ⟨given, hmerges, hmaps⟩ := c.mergesMaps_links h hlinks hl hids hprops
      have hdeclared := Dict.get?_of_mem (c.resolved_of_mem hlinks hl).1
      exact ⟨l.name, l.relationship, l.ids, given, hdeclared, rfl, hmerges, fun id hid => .inl (hmaps id hid)⟩
    · obtain ⟨rfl, hdeclared, v, hv, ⟨-, members, -, hentries⟩, hprops⟩ := c.admitted_of_mem_updates hupdates hu
      have hmerges := c.mergesEach_updateClause (c.get?_update_of_write h hupdates hu)
      refine ⟨u.name, u.relationship, _, _, hdeclared, rfl, hmerges, fun id hid => ?_⟩
      obtain ⟨entry, hentry⟩ := Option.isSome_iff_exists.1 (Dict.contains_iff.2 hid)
      rw [hentry, Option.getD_some]
      rw [hprops] at hentry
      -- The check of changes lets null pass beside maps of declared properties.
      rcases hentries id entry hentry with rfl | hmap
      · exact .inr ⟨rfl, ⟨v, hv, hentry⟩, rfl⟩
      · exact .inl hmap
  · rintro rfl name r id hr hnulls
    exact c.merges_null h hr hnulls

/-- Changes that are null for one track and none for another. -/
theorem write_merges_maps_playlist :
    let input : Input := .ofList [("id", .str "p1"), ("tracks", .ofStrings ["t1", "t2"]),
      ("tracksEdgePropsUpdate", .object [("t1", .null), ("t2", .object [])])]
    ∃ plan, playlists.write .system input .patch = .ok plan ∧ playlists.MergesMaps .system .patch input plan ∧
      ∃ k ∈ plan.write.clauses, ∃ e elements given, .set [.overlay "tracks_edge" e] ∈ k.inside ∧
        MergesEach plan.write k e elements given ∧ "t1" ∈ elements ∧ given "t1" = .null := by
  intro input
  obtain ⟨plan, hplan⟩ := Result.isSome_toOption_iff.1
    (by decide +kernel : (playlists.write .system input .patch).toOption.isSome = true)
  have hmerges := write_merges_maps playlists hplan
  exact ⟨plan, hplan, hmerges, hmerges.nulls rfl "tracks" _ "t1" rfl ⟨_, rfl, rfl⟩⟩

/-- Not every value that is merged into an edge is a map: an update may give null as the changes of an edge. -/
theorem not_write_merges_maps :
    ¬∀ (c : Compiler) (caller : Caller) (mode : WriteMode) (input : Input) (plan : WritePlan),
      c.write caller input mode = .ok plan → ∀ k ∈ plan.write.clauses, ∀ items edge e, .set items ∈ k.inside →
        .overlay edge e ∈ items → ∃ name r elements given, c.descriptor.relationships.get? name = some r ∧
          MergesEach plan.write k e elements given ∧ ∀ id ∈ elements, IsEdgeMap r (given id) := by
  intro hall
  let input : Input := .ofList [("id", .str "p1"), ("tracksEdgePropsUpdate", .object [("t1", .null)])]
  obtain ⟨plan, hplan⟩ := Result.isSome_toOption_iff.1
    (by decide +kernel : (playlists.write .system input .patch).toOption.isSome = true)
  have hgiven : input.get? (edgeUpdateKey "tracks") = some (.object [("t1", .null)]) := by
    rw [Dict.get?_ofList_eq_lookup_reverse]
    rfl
  have hnulls : NullsEdge input "tracks" "t1" := ⟨_, hgiven, rfl⟩
  obtain ⟨k, hk, e, elements, given, hset, hmerges, hid, hnull⟩ := playlists.merges_null hplan rfl hnulls
  obtain ⟨name, r, elements', given', -, hmerges', hmaps⟩ :=
    hall playlists .system .patch input plan hplan k hk _ _ e hset List.mem_cons_self
  obtain ⟨rfl, hvalues⟩ := hmerges.agree hmerges'
  obtain ⟨members, hmap, -⟩ := hmaps "t1" hid
  have hvalue := hvalues "t1" hid
  rw [hnull, hmap, Val.ofJson, Val.ofJson] at hvalue
  cases hvalue

end Compiler
end EntityGraph.Compile
