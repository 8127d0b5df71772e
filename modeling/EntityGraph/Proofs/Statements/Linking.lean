import EntityGraph.Proofs.Compile.Targets
import EntityGraph.Proofs.Statements.Merges

/-!
# A write keeps to the cardinality of relationships

A write that compiles gives a required relationship at least one target and a relationship to one node at most one. The
edges that it deletes and merges belong to relationships with a value, and the value is the input's own unless a new
entity falls back to the caller's context. Nothing else of the context matters to what is linked.
-/
namespace EntityGraph.Cypher

/-- Whether a clause deletes. -/
def Clause.unlinks : Clause → Bool
  | .delete .. => true
  | _ => false

end EntityGraph.Cypher

namespace EntityGraph.Compile

open Cypher
open Json (Value)
open Schema (Relationship)

/-- How a write that was accepted treats the relationships of its entity. -/
structure Compiler.KeepsCardinality (c : Compiler) (caller : Caller) (mode : WriteMode) (input : Input)
    (plan : WritePlan) : Prop where
  /-- What a required relationship is given is not empty, and every new entity gives it something. -/
  required : ∀ name r, c.descriptor.relationships.get? name = some r → r.required = true →
    mode = .create ∨ input.contains (r.inputKey name) = true →
    ∃ value ids, LinkSource caller mode input name r value ∧ relatedIds name value = .ok ids ∧ ids ≠ [] ∧
      plan.write.params.get? name = some (.ofStrings ids)
  /-- A relationship to one node is given one at most. -/
  one : ∀ name r value, c.descriptor.relationships.get? name = some r → r.cardinality = .one →
    LinkSource caller mode input name r value → ∃ ids, relatedIds name value = .ok ids ∧ ids.length ≤ 1
  /-- Besides the membership of a new entity, edges come and go in two kinds of subquery only: those that delete the
  edges of a relationship to targets that are not listed, and those that merge edges to the listed ones. There is a
  value that lists the targets, and a required relationship lists some. -/
  edges : ∀ k ∈ plan.write.clauses, ∀ j ∈ k :: k.inside, j.mayLink = true ∨ j.unlinks = true →
    mode = .create ∧ j = .create (c.membership (.bound c.node) (.bound tenantVar)) ∨
    ∃ name r value ids, c.descriptor.relationships.get? name = some r ∧ LinkSource caller mode input name r value ∧
      relatedIds name value = .ok ids ∧ plan.write.params.get? name = some (.ofStrings ids) ∧
      (k = .subquery [c.node] (c.staleBody name r) ∧ mode ≠ .create ∧ (r.required = true → ids ≠ []) ∨
        ∃ withProps, k = .subquery [c.node] (c.mergeBody name r withProps) ∧ ids ≠ [])
  /-- A replacement or an update asks the context for the tenant only. -/
  untouched : mode ≠ .create → ∀ caller', c.scope caller' = c.scope caller → c.write caller' input mode = .ok plan
  /-- A new entity asks it for the tenant, and for the keys of relationships that the input leaves out. -/
  fallback : mode = .create → ∀ caller', c.writeScope .create caller' = c.writeScope .create caller →
    (∀ name r key, c.descriptor.relationships.get? name = some r → input.get? (r.inputKey name) = none →
      r.contextKey = some key → caller'.value? key = caller.value? key) →
    c.write caller' input mode = .ok plan

namespace Compiler

variable (c : Compiler) {caller caller' : Caller} {mode : WriteMode} {input : Input}

/-! ## What the links are -/

/-- A relationship with a value got as many targets as it takes. -/
theorem resolved_of_source {links : List Links} (h : c.resolveLinks caller mode input c.links = .ok links)
    {name : String} {r : Relationship} (hr : c.descriptor.relationships.get? name = some r) {value : Value}
    (hsource : LinkSource caller mode input name r value) :
    ∃ l ∈ links, l.name = name ∧ l.relationship = r ∧ relatedIds name value = .ok l.ids ∧
      (r.required = true → l.ids ≠ []) ∧ (r.cardinality = .one → l.ids.length ≤ 1) := by
  have hmem : (name, r) ∈ c.links := Dict.mem_of_get? hr
  obtain ⟨link, hlink⟩ := c.resolveLinks_ok_iff.1 ⟨links, h⟩ _ hmem
  have hvalue := linkValue_eq_some_iff.2 hsource
  obtain ⟨hnone, -⟩ | ⟨value', ids, props, hvalue', hids, hrequired, hone, -, rfl⟩ := c.resolveLink_eq_ok_iff.1 hlink
  · rw [hvalue] at hnone
    cases hnone
  · obtain rfl : value = value' := Option.some.inj (hvalue.symm.trans hvalue')
    have hl : ⟨name, r, ids, props⟩ ∈ links := (c.mem_resolveLinks_iff h).2 ⟨hmem, hlink⟩
    exact ⟨_, hl, rfl, rfl, hids, hrequired, hone⟩

/-- A required relationship of a new entity has a value. -/
theorem source_of_required {links : List Links} (h : c.resolveLinks caller mode input c.links = .ok links)
    {name : String} {r : Relationship} (hr : c.descriptor.relationships.get? name = some r)
    (hrequired : r.required = true) (hgiven : mode = .create ∨ input.contains (r.inputKey name) = true) :
    ∃ value, LinkSource caller mode input name r value := by
  rcases hgiven with rfl | hgiven
  · obtain ⟨link, hlink⟩ := c.resolveLinks_ok_iff.1 ⟨links, h⟩ _ (Dict.mem_of_get? hr)
    obtain ⟨-, hoptional, -⟩ | ⟨value, -, -, hvalue, -⟩ := c.resolveLink_eq_ok_iff.1 hlink
    · rw [hoptional rfl] at hrequired
      cases hrequired
    · exact ⟨value, linkValue_eq_some_iff.1 hvalue⟩
  · obtain ⟨value, hvalue⟩ := Option.isSome_iff_exists.1 hgiven
    exact ⟨value, .input hvalue⟩

/-! ## Which subqueries change edges -/

theorem mem_linkClauses_iff {l : Links} {k : Clause} :
    k ∈ c.linkClauses mode l ↔
      mode ≠ .create ∧ k = .subquery [c.node] (c.staleBody l.name l.relationship) ∨
        l.ids ≠ [] ∧ k = .subquery [c.node] (c.mergeBody l.name l.relationship l.edgeProps.isSome) := by
  rw [linkClauses, List.mem_append]
  refine or_congr ?_ ?_
  · by_cases hmode : mode = .create <;> simp [hmode]
  · cases l.ids <;> simp

/-- Outside of the subqueries for links only a new entity gets an edge, that to its tenant. -/
theorem changesEdges_writeClauses {tied : Bool} {links : List Links} {updates : List EdgeUpdate} {k j : Clause}
    (hk : k ∈ c.writeClauses mode tied input links updates) (hj : j ∈ k :: k.inside)
    (hchanges : j.mayLink = true ∨ j.unlinks = true) :
    mode = .create ∧ j = .create (c.membership (.bound c.node) (.bound tenantVar)) ∨
      ∃ l ∈ links, k ∈ c.linkClauses mode l := by
  rcases c.mem_writeClauses hk with hopening | ⟨items, rfl⟩ | hl | ⟨u, -, rfl⟩ | ⟨columns, order, rfl⟩
  · rw [c.inside_writeOpening hopening, List.mem_singleton] at hj
    subst hj
    rcases hchanges with hlink | hdelete
    · obtain ⟨hmode, -, heq⟩ := c.mayLink_writeOpening hopening hlink
      exact .inl ⟨hmode, heq⟩
    · cases mode <;> cases tied <;>
        simp [writeOpening, Clause.matching] at hopening <;>
        rcases hopening with rfl | rfl | rfl <;> cases hdelete
  · rw [List.mem_singleton.1 hj] at hchanges
    simp [Clause.mayLink, Clause.unlinks] at hchanges
  · exact .inr hl
  · rcases List.mem_cons.1 hj with rfl | hj
    · simp [updateClause, Clause.mayLink, Clause.unlinks] at hchanges
    · rw [c.mayLink_inside_updateClause hj] at hchanges
      rcases hj with _ | ⟨_, _ | ⟨_, _ | ⟨_, hj⟩⟩⟩
      · simp [Clause.unlinks] at hchanges
      · simp [Clause.unlinks, Clause.matching] at hchanges
      · simp [Clause.unlinks] at hchanges
      · cases hj
  · rw [List.mem_singleton.1 hj] at hchanges
    simp [Clause.mayLink, Clause.unlinks] at hchanges

/-! ## What the context is asked for -/

/-- A new node depends on the caller by its tenant only. -/
theorem createNode_congr (h : c.writeScope .create caller' = c.writeScope .create caller) (b : Builder) (id : String) :
    c.createNode b caller' id = c.createNode b caller id := by
  unfold writeScope at h
  unfold createNode
  cases hscoped : c.descriptor.companyScoped with
  | false => rfl
  | true =>
    simp only [hscoped, if_true] at h ⊢
    generalize caller.company.filter (fun s => s ≠ "") = company at h ⊢
    generalize caller'.company.filter (fun s => s ≠ "") = company' at h ⊢
    cases company <;> cases company' <;> simp_all

/-- The context is asked for a relationship's key only, and only if a new entity's input leaves the relationship out. -/
theorem linkValue_congr {name : String} {r : Relationship}
    (h : mode = .create → input.get? (r.inputKey name) = none → ∀ key, r.contextKey = some key →
      caller'.value? key = caller.value? key) :
    linkValue caller' mode input name r = linkValue caller mode input name r := by
  unfold linkValue
  cases hinput : input.get? (r.inputKey name) with
  | some value => rfl
  | none =>
    by_cases hmode : mode = .create
    · cases hkey : r.contextKey with
      | none => rfl
      | some key => simp [h hmode hinput key hkey]
    · simp [hmode]

theorem resolveLinks_congr {relationships : List (String × Relationship)}
    (h : ∀ e ∈ relationships, linkValue caller' mode input e.1 e.2 = linkValue caller mode input e.1 e.2) :
    c.resolveLinks caller' mode input relationships = c.resolveLinks caller mode input relationships := by
  induction relationships with
  | nil => rfl
  | cons e rest ih =>
    obtain ⟨he, hrest⟩ := List.forall_mem_cons.1 h
    rw [resolveLinks, resolveLinks, ih hrest, resolveLink, resolveLink, he]

/-- Callers with the same tenant get the same write, if their relationships have the same values. -/
theorem write_congr_caller (hscope : c.writeScope mode caller' = c.writeScope mode caller)
    (hvalues : ∀ e ∈ c.links, linkValue caller' mode input e.1 e.2 = linkValue caller mode input e.1 e.2) :
    c.write caller' input mode = c.write caller input mode := by
  have hlinks : c.resolveLinks caller' mode input c.descriptor.relationships.toList =
    c.resolveLinks caller mode input c.descriptor.relationships.toList := c.resolveLinks_congr hvalues
  cases mode with
  | create => simp only [write, hlinks, if_true, c.createNode_congr hscope]
  | put | patch =>
    have hscope : c.scope caller' = c.scope caller := hscope
    simp only [write, hlinks, reduceCtorEq, if_false, matchById, hscope]

/-! ## The whole write -/

/-- The links of a write come from a value, and there are some for a required relationship. -/
theorem source_of_mem {links : List Links} (h : c.resolveLinks caller mode input c.links = .ok links) {l : Links}
    (hl : l ∈ links) :
    c.descriptor.relationships.get? l.name = some l.relationship ∧ ∃ value,
      LinkSource caller mode input l.name l.relationship value ∧ relatedIds l.name value = .ok l.ids ∧
        (l.relationship.required = true → l.ids ≠ []) := by
  obtain ⟨hmem, hlink⟩ := (c.mem_resolveLinks_iff h).1 hl
  refine ⟨Dict.get?_of_mem hmem, ?_⟩
  obtain ⟨-, -, hnone⟩ | ⟨value, ids, props, hvalue, hids, hrequired, -, -, hsome⟩ := c.resolveLink_eq_ok_iff.1 hlink
  · cases hnone
  · have hlids : l.ids = ids := congrArg Links.ids (Option.some.inj hsome)
    rw [hlids]
    exact ⟨value, linkValue_eq_some_iff.1 hvalue, hids, hrequired⟩

/-- A write that compiles keeps to the cardinality of every relationship, and takes from the caller's context no more
than it may. -/
theorem write_keeps_cardinality {plan : WritePlan} (h : c.write caller input mode = .ok plan) :
    c.KeepsCardinality caller mode input plan := by
  obtain ⟨scope, links, updates, -, -, hlinks, -, -, hwrite⟩ := c.write_outline h
  refine ⟨?_, ?_, ?_, ?_, ?_⟩
  · intro name r hr hrequired hgiven
    obtain ⟨value, hsource⟩ := c.source_of_required hlinks hr hrequired hgiven
    obtain ⟨l, hl, rfl, rfl, hids, hsome, -⟩ := c.resolved_of_source hlinks hr hsource
    have hne := hsome hrequired
    exact ⟨value, l.ids, hsource, hids, hne, c.get?_ids_of_write h hlinks hl fun _ => by simpa using hne⟩
  · intro name r value hr hone hsource
    obtain ⟨l, -, -, -, hids, -, hle⟩ := c.resolved_of_source hlinks hr hsource
    exact ⟨l.ids, hids, hle hone⟩
  · intro k hk j hj hchanges
    rw [hwrite] at hk
    refine (c.changesEdges_writeClauses hk hj hchanges).imp_right fun ⟨l, hl, hkl⟩ => ?_
    obtain ⟨hr, value, hsource, hids, hrequired⟩ := c.source_of_mem hlinks hl
    have hkinds := c.mem_linkClauses_iff.1 hkl
    have hbound : mode = .create → l.ids.isEmpty = false := by
      intro hcreate
      rcases hkinds with ⟨hmode, -⟩ | ⟨hne, -⟩
      · exact absurd hcreate hmode
      · simpa using hne
    refine ⟨l.name, l.relationship, value, l.ids, hr, hsource, hids, c.get?_ids_of_write h hlinks hl hbound, ?_⟩
    rcases hkinds with ⟨hmode, hstale⟩ | ⟨hne, hmerge⟩
    · exact .inl ⟨hstale, hmode, hrequired⟩
    · exact .inr ⟨_, hmerge, hne⟩
  · intro hmode caller' hscope
    have hwriteScope : c.writeScope mode caller' = c.writeScope mode caller := by
      cases mode with
      | create => exact absurd rfl hmode
      | put | patch => exact hscope
    exact (c.write_congr_caller hwriteScope fun e _ => linkValue_congr fun hcreate => absurd hcreate hmode).trans h
  · rintro rfl caller' hscope hvalues
    refine (c.write_congr_caller hscope fun e he => linkValue_congr fun _ hinput key hkey => ?_).trans h
    exact hvalues e.1 e.2 key (Dict.get?_of_mem he) hinput hkey

/-- A shelf that is handed over and emptied. Its books are null, which a new shelf would not need either; its owner is
the one of the input, whatever the context says. -/
theorem write_keeps_cardinality_shelf :
    let input : Input := .ofList [("id", .str "s1"), ("books", .null), ("owner", .object [("id", .str "u2")])]
    ∃ plan, shelves.write (.member "c1" "u1") input .put = .ok plan ∧
      shelves.KeepsCardinality (.member "c1" "u1") .put input plan ∧
      plan.write.params.get? "owner" = some (.ofStrings ["u2"]) ∧
      shelves.write (.member "c1" "u9") input .put = .ok plan := by
  intro input
  obtain ⟨plan, hplan⟩ := Result.isSome_toOption_iff.1
    (by decide +kernel : (shelves.write (.member "c1" "u1") input .put).toOption.isSome = true)
  have hkept := write_keeps_cardinality shelves hplan
  refine ⟨plan, hplan, hkept, ?_, hkept.untouched (by decide) _ rfl⟩
  obtain ⟨value, ids, hsource, hids, -, hbound⟩ := hkept.required "owner" _ rfl rfl (.inr rfl)
  obtain rfl := Option.some.inj ((hsource.of_ne_create (by decide)).symm.trans rfl)
  cases hids
  exact hbound

end Compiler
end EntityGraph.Compile
