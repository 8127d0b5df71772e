import EntityGraph.Proofs.Compile.WriteOutline
import Mathlib.Data.List.Nodup

/-!
# The links that a write resolves

Each relationship that the input names, or that the caller's context stands in for, gets its links. They keep the order
of the relationships, and there are none for the others. The changes of edges are resolved likewise.
-/
namespace EntityGraph.Compile

open Json (Value)
open Schema (Relationship)

/-- The ids that a write is given for a relationship, also by the caller's context; none if it is left alone. -/
def requestedIds (caller : Caller) (mode : WriteMode) (input : Input) (name : String) (r : Relationship) :
    List String :=
  match linkValue caller mode input name r with
  | none => []
  | some value => (relatedIds name value).toOption.getD []

/-- Where links come from: a value of the input or of the context, and the edge properties of the input. -/
structure Links.Resolved (caller : Caller) (mode : WriteMode) (input : Input) (l : Links) : Prop where
  ids : ∃ value, linkValue caller mode input l.name l.relationship = some value ∧ relatedIds l.name value = .ok l.ids
  props : edgeProperties l.name l.relationship input l.ids = .ok l.edgeProps

theorem Links.Resolved.requestedIds_eq {caller : Caller} {mode : WriteMode} {input : Input} {l : Links}
    (h : l.Resolved caller mode input) : requestedIds caller mode input l.name l.relationship = l.ids := by
  obtain ⟨value, hvalue, hids⟩ := h.ids
  simp [requestedIds, hvalue, hids, Except.toOption]

namespace Compiler

variable (c : Compiler) {caller : Caller} {mode : WriteMode} {input : Input}

/-- How a relationship is resolved. Without a value it is left alone, unless a new entity must have it. A value gives it
its links if there are as many targets as the relationship takes and their edge properties are in order. -/
theorem resolveLink_eq_ok_iff {name : String} {r : Relationship} {link : Option Links} :
    c.resolveLink caller mode input name r = .ok link ↔
      (linkValue caller mode input name r = none ∧ (mode = .create → r.required = false) ∧ link = none) ∨
        ∃ value ids props, linkValue caller mode input name r = some value ∧ relatedIds name value = .ok ids ∧
          (r.required = true → ids ≠ []) ∧ (r.cardinality = .one → ids.length ≤ 1) ∧
          edgeProperties name r input ids = .ok props ∧ link = some ⟨name, r, ids, props⟩ := by
  unfold resolveLink
  cases hvalue : linkValue caller mode input name r with
  | none => simp [Result.ite_refuse_eq_ok_iff, eq_comm (b := link)]
  | some value =>
    simp only [Result.bind_eq_ok_iff, Result.unless_refused_eq_ok_iff, Bool.and_eq_true, List.isEmpty_iff, not_and,
      decide_eq_true_eq, Nat.not_lt, Except.ok.injEq, eq_comm (b := link), ne_eq, reduceCtorEq, false_and, false_or,
      Option.some.injEq, exists_and_left, exists_eq_left']

/-- A relationship has links exactly if there is a value for it. -/
theorem resolveLink_cases {name : String} {r : Relationship} {link : Option Links}
    (h : c.resolveLink caller mode input name r = .ok link) :
    link = none ∧ linkValue caller mode input name r = none ∨
      ∃ l, link = some l ∧ l.name = name ∧ l.relationship = r ∧ l.Resolved caller mode input := by
  obtain ⟨hvalue, -, rfl⟩ | ⟨value, ids, props, hvalue, hids, -, -, hprops, rfl⟩ := c.resolveLink_eq_ok_iff.1 h
  · exact .inl ⟨rfl, hvalue⟩
  · exact .inr ⟨_, rfl, rfl, rfl, ⟨value, hvalue, hids⟩, hprops⟩

/-- What resolving a run of relationships gives, link by link. -/
theorem resolveLinks_cons {e : String × Relationship} {rest : List (String × Relationship)} {links : List Links}
    (h : c.resolveLinks caller mode input (e :: rest) = .ok links) :
    ∃ link others, c.resolveLink caller mode input e.1 e.2 = .ok link ∧
      c.resolveLinks caller mode input rest = .ok others ∧ links = link.toList ++ others := by
  obtain ⟨link, hlink, h⟩ := Result.bind_eq_ok_iff.1 h
  obtain ⟨others, hothers, h⟩ := Result.bind_eq_ok_iff.1 h
  cases h
  exact ⟨link, others, hlink, hothers, rfl⟩

/-- Relationships are resolved one by one. -/
theorem resolveLinks_eq (relationships : List (String × Relationship)) :
    c.resolveLinks caller mode input relationships =
      (relationships.mapM (fun e => c.resolveLink caller mode input e.1 e.2)).map
        (fun links => links.flatMap Option.toList) := by
  induction relationships with
  | nil => rfl
  | cons e rest ih => rw [Result.mapM_flatMap_cons, resolveLinks, ih]

/-- Links of a write are what their relationships are resolved to. -/
theorem mem_resolveLinks_iff {relationships : List (String × Relationship)} {links : List Links}
    (h : c.resolveLinks caller mode input relationships = .ok links) {l : Links} :
    l ∈ links ↔ (l.name, l.relationship) ∈ relationships ∧
      c.resolveLink caller mode input l.name l.relationship = .ok (some l) := by
  rw [resolveLinks_eq] at h
  rw [Result.mem_of_mapM_flatMap_eq_ok h]
  constructor
  · rintro ⟨e, he, hlink⟩
    obtain ⟨-, -, hnone⟩ | ⟨value, ids, props, -, -, -, -, -, hsome⟩ := c.resolveLink_eq_ok_iff.1 hlink
    · cases hnone
    · cases hsome
      exact ⟨he, hlink⟩
  · rintro ⟨hmem, hlink⟩
    exact ⟨_, hmem, hlink⟩

/-- All relationships are resolved if each of them is. -/
theorem resolveLinks_ok_iff {relationships : List (String × Relationship)} :
    (∃ links, c.resolveLinks caller mode input relationships = .ok links) ↔
      ∀ e ∈ relationships, ∃ link, c.resolveLink caller mode input e.1 e.2 = .ok link := by
  rw [resolveLinks_eq, Result.map_ok_iff, Result.mapM_ok_iff]

theorem resolved_of_mem {relationships : List (String × Relationship)} {links : List Links}
    (h : c.resolveLinks caller mode input relationships = .ok links) {l : Links} (hl : l ∈ links) :
    (l.name, l.relationship) ∈ relationships ∧ l.Resolved caller mode input := by
  obtain ⟨hmem, hlink⟩ := (c.mem_resolveLinks_iff h).1 hl
  obtain ⟨hnone, -⟩ | ⟨l', hl', -, -, hresolved⟩ := c.resolveLink_cases hlink
  · cases hnone
  · cases hl'
    exact ⟨hmem, hresolved⟩

theorem contains_of_links {links : List Links} (h : c.resolveLinks caller mode input c.links = .ok links) {l : Links}
    (hl : l ∈ links) : c.descriptor.relationships.contains l.name = true :=
  Dict.contains_of_get? (Dict.get?_of_mem (c.resolved_of_mem h hl).1)

/-- A relationship with a value has links. -/
theorem exists_links_of_linkValue {relationships : List (String × Relationship)} {links : List Links}
    (h : c.resolveLinks caller mode input relationships = .ok links) {name : String} {r : Relationship}
    (hmem : (name, r) ∈ relationships) {value : Value} (hvalue : linkValue caller mode input name r = some value) :
    ∃ l ∈ links, l.name = name ∧ l.relationship = r := by
  obtain ⟨link, hlink⟩ := c.resolveLinks_ok_iff.1 ⟨links, h⟩ _ hmem
  obtain ⟨-, hnone⟩ | ⟨l, rfl, rfl, rfl, -⟩ := c.resolveLink_cases hlink
  · rw [hvalue] at hnone
    cases hnone
  · exact ⟨l, (c.mem_resolveLinks_iff h).2 ⟨hmem, hlink⟩, rfl, rfl⟩

/-- Links come in the order of their names. -/
theorem ascending_resolveLinks {relationships : List (String × Relationship)} (hascending : Ascending relationships)
    {links : List Links} (h : c.resolveLinks caller mode input relationships = .ok links) :
    links.Pairwise (fun a b => a.name < b.name) := by
  rw [resolveLinks_eq] at h
  refine Result.pairwise_of_mapM_flatMap_eq_ok h hascending fun e e' l l' hlt hl hl' => ?_
  obtain ⟨hnone, -⟩ | ⟨_, hsome, hname, -⟩ := c.resolveLink_cases hl
  · cases hnone
  · obtain ⟨hnone', -⟩ | ⟨_, hsome', hname', -⟩ := c.resolveLink_cases hl'
    · cases hnone'
    · cases hsome
      cases hsome'
      rwa [hname, hname']

/-- A relationship has its links once. -/
theorem eq_of_name_eq {links : List Links} (h : c.resolveLinks caller mode input c.links = .ok links) {l l' : Links}
    (hl : l ∈ links) (hl' : l' ∈ links) (hname : l.name = l'.name) : l = l' := by
  have hascending := c.ascending_resolveLinks c.descriptor.relationships.ascending h
  have hnodup : (links.map Links.name).Nodup := by
    refine List.pairwise_map.2 (hascending.imp ?_)
    intro a b hlt heq
    exact String.lt_irrefl b.name (heq ▸ hlt)
  exact List.inj_on_of_nodup_map hnodup hl hl' hname

/-- The references of all links are the ids that were given, relationship by relationship. -/
theorem references_resolveLinks {relationships : List (String × Relationship)} {links : List Links}
    (h : c.resolveLinks caller mode input relationships = .ok links) :
    links.flatMap Links.references = relationships.flatMap (fun e =>
      (requestedIds caller mode input e.1 e.2).map (fun id => ⟨e.1, e.2.target, id⟩)) := by
  induction relationships generalizing links with
  | nil =>
    cases h
    rfl
  | cons e rest ih =>
    obtain ⟨name, r⟩ := e
    obtain ⟨link, others, hlink, hothers, rfl⟩ := c.resolveLinks_cons h
    rw [List.flatMap_append, List.flatMap_cons, ih hothers]
    rcases c.resolveLink_cases hlink with ⟨rfl, hnone⟩ | ⟨l, rfl, rfl, rfl, hresolved⟩
    · simp [requestedIds, hnone]
    · simp [hresolved.requestedIds_eq, Links.references]

end Compiler

/-! ## Changes of edges -/

/-- Where the changes of edges come from: an object in the input of a relationship whose edges have properties. -/
structure EdgeUpdate.Resolved (input : Input) (u : EdgeUpdate) : Prop where
  props : ∃ members, input.get? (edgeUpdateKey u.name) = some (.obj members) ∧ u.props = Dict.ofList members
  fields : u.relationship.fields ≠ []

theorem resolveEdgeUpdate_cases {input : Input} {name : String} {r : Relationship} {update : Option EdgeUpdate}
    (h : resolveEdgeUpdate input name r = .ok update) :
    update = none ∨ ∃ u, update = some u ∧ u.name = name ∧ u.relationship = r ∧ u.Resolved input := by
  unfold resolveEdgeUpdate at h
  split at h
  · cases h
    exact .inl rfl
  · cases h
    exact .inl rfl
  · rename_i members hinput
    split at h
    · cases h
    · rename_i hfields
      obtain ⟨_, -, h⟩ := Result.bind_eq_ok_iff.1 h
      cases h
      exact .inr ⟨_, rfl, rfl, rfl, ⟨members, hinput, rfl⟩, by simpa using hfields⟩
  · cases h

section Updates

variable {input : Input} {relationships : List (String × Relationship)} {updates : List EdgeUpdate}

/-- Changes of edges are resolved one by one. -/
theorem resolveEdgeUpdates_eq (relationships : List (String × Relationship)) :
    resolveEdgeUpdates input relationships =
      (relationships.mapM (fun e => resolveEdgeUpdate input e.1 e.2)).map
        (fun updates => updates.flatMap Option.toList) := by
  induction relationships with
  | nil => rfl
  | cons e rest ih => rw [Result.mapM_flatMap_cons, resolveEdgeUpdates, ih]

theorem mem_resolveEdgeUpdates_iff (h : resolveEdgeUpdates input relationships = .ok updates) {u : EdgeUpdate} :
    u ∈ updates ↔ (u.name, u.relationship) ∈ relationships ∧
      resolveEdgeUpdate input u.name u.relationship = .ok (some u) := by
  rw [resolveEdgeUpdates_eq] at h
  rw [Result.mem_of_mapM_flatMap_eq_ok h]
  constructor
  · rintro ⟨⟨name, r⟩, he, hupdate⟩
    obtain hnone | ⟨u', hu', rfl, rfl, -⟩ := resolveEdgeUpdate_cases hupdate
    · cases hnone
    · cases hu'
      exact ⟨he, hupdate⟩
  · rintro ⟨hmem, hupdate⟩
    exact ⟨_, hmem, hupdate⟩

/-- Changes of edges come in the order of the names of their relationships. -/
theorem ascending_resolveEdgeUpdates (hascending : Ascending relationships)
    (h : resolveEdgeUpdates input relationships = .ok updates) : updates.Pairwise (fun a b => a.name < b.name) := by
  rw [resolveEdgeUpdates_eq] at h
  refine Result.pairwise_of_mapM_flatMap_eq_ok h hascending fun e e' u u' hlt hu hu' => ?_
  obtain hnone | ⟨_, hsome, hname, -⟩ := resolveEdgeUpdate_cases hu
  · cases hnone
  · obtain hnone' | ⟨_, hsome', hname', -⟩ := resolveEdgeUpdate_cases hu'
    · cases hnone'
    · cases hsome
      cases hsome'
      rwa [hname, hname']

theorem resolveEdgeUpdates_ok_iff :
    (∃ updates, resolveEdgeUpdates input relationships = .ok updates) ↔
      ∀ e ∈ relationships, ∃ update, resolveEdgeUpdate input e.1 e.2 = .ok update := by
  rw [resolveEdgeUpdates_eq, Result.map_ok_iff, Result.mapM_ok_iff]

theorem resolved_of_mem_updates (h : resolveEdgeUpdates input relationships = .ok updates) {u : EdgeUpdate}
    (hu : u ∈ updates) : (u.name, u.relationship) ∈ relationships ∧ u.Resolved input := by
  obtain ⟨hmem, hupdate⟩ := (mem_resolveEdgeUpdates_iff h).1 hu
  obtain hnone | ⟨u', hu', -, -, hresolved⟩ := resolveEdgeUpdate_cases hupdate
  · cases hnone
  · cases hu'
    exact ⟨hmem, hresolved⟩

end Updates

/-- Only an update changes edges that exist. -/
theorem Compiler.resolved_of_mem_writeUpdates (c : Compiler) {mode : WriteMode} {input : Input}
    {updates : List EdgeUpdate} (h : c.writeUpdates mode input = .ok updates) {u : EdgeUpdate} (hu : u ∈ updates) :
    mode = .patch ∧ (u.name, u.relationship) ∈ c.links ∧ u.Resolved input := by
  unfold Compiler.writeUpdates at h
  split at h
  · rename_i hmode
    exact ⟨hmode, resolved_of_mem_updates h hu⟩
  · cases h
    cases hu

end EntityGraph.Compile
