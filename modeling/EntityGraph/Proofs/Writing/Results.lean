import EntityGraph.Proofs.Compile.Tenancy
import EntityGraph.Proofs.Statements.Fields
import EntityGraph.Proofs.Writing.Openings
import EntityGraph.Proofs.Writing.Subqueries

/-!
# Writes set the links that they are given

After a write the links of every relationship that a value was given for lead to the listed targets and no others. The
links of the other relationships are what they were, and so is every arc that is not a link of the entity.
-/
namespace EntityGraph.Compile

open Cypher EntityGraph.Graph PropertyGraph
open Json (Value)
open Schema (Relationship)

/-- Whether a write changes the properties of a relationship's edges, apart from those that it merges. -/
def ChangesEdges (mode : WriteMode) (input : Input) (name : String) : Prop :=
  mode = .patch ∧ ∃ members, input.get? (edgeUpdateKey name) = some (.obj members)

namespace Compiler

variable (c : Compiler)

/-! ## What is taken for granted -/

/-- No two relationships have one type, and none has that of membership. -/
structure TypesApart : Prop where
  nodup : (c.links.map (fun e => e.2.type)).Nodup
  membership : c.settings.membershipEdge ∉ c.links.map (fun e => e.2.type)

/-- The variable of the entity is introduced once: neither by the tie to the tenant nor by a subquery again. -/
structure NodeApart (caller : Caller) (mode : WriteMode) (input : Input) : Prop where
  tenant : ∀ company, c.writeScope mode caller = .ok (some company) → c.node ≠ tenantVar
  stale : mode ≠ .create → ∀ e ∈ c.links, (linkValue caller mode input e.1 e.2).isSome → c.node ∉ staleVars e.1
  merged : ∀ e ∈ c.links, requestedIds caller mode input e.1 e.2 ≠ [] ∨ ChangesEdges mode input e.1 →
    c.node ∉ mergeVars e.1

/-- Whether all nodes that a write links to exist under the labels of their relationships. -/
def TargetsExist (caller : Caller) (mode : WriteMode) (input : Input) (g : PropertyGraph) : Prop :=
  ∀ e ∈ c.links, ∀ id ∈ requestedIds caller mode input e.1 e.2, ∃ v, g.Names e.2.target id v

/-- A write that is accepted, and a graph where it finds what it needs. -/
structure Feasible (caller : Caller) (mode : WriteMode) (input : Input) (plan : WritePlan) (db : Database) : Prop where
  valid : c.descriptor.validate = .ok ()
  types : c.TypesApart
  accepted : c.write caller input mode = .ok plan
  compares : db.ComparesTexts
  identified : db.graph.Identified
  membership : c.OneMembership db.graph
  matched : ∀ scope, c.writeScope mode caller = .ok scope → c.Matched mode scope plan.id db.graph
  targets : c.TargetsExist caller mode input db.graph

/-! ## What is promised -/

/-- What a write makes of the links of its entity, and of all other arcs. -/
structure SetsLinks (caller : Caller) (mode : WriteMode) (input : Input) (g g' : PropertyGraph) (entity : Nat)
    (added : List Arc) : Prop where
  /-- A relationship with a value joins the targets whose ids are in it, and no others. -/
  given : ∀ e ∈ c.links, ∀ value, linkValue caller mode input e.1 e.2 = some value →
    ∃ ids, relatedIds e.1 value = .ok ids ∧
      ∀ v, (∃ u, g'.Joins e.2 entity u ∧ u.prop "id" = v) ↔ v ∈ ids.map Val.text
  /-- A relationship without a value keeps its links. Only an update of its edges changes properties of them. -/
  kept : ∀ e ∈ c.links, linkValue caller mode input e.1 e.2 = none → ∀ a, g'.IsLink e.2 entity a →
    (a.bare ∈ g'.arcs.map Arc.bare ↔ a.bare ∈ g.arcs.map Arc.bare) ∧
      (¬ChangesEdges mode input e.1 → (a ∈ g'.arcs ↔ a ∈ g.arcs))
  /-- So a new entity has no links of it. -/
  none : mode = .create → ∀ e ∈ c.links, linkValue caller mode input e.1 e.2 = none → ∀ u, ¬g'.Joins e.2 entity u
  /-- All arcs that are not links of the entity stay as they are. -/
  others : ∀ a, (∀ e ∈ c.links, ¬g'.IsLink e.2 entity a) → (a ∈ g'.arcs ↔ a ∈ g.arcs ∨ a ∈ added)

/-! ## From one subquery after the other to the whole -/

/-- What the subqueries of a write bring about, relationship by relationship, in the graph that they start from. -/
structure Steps (caller : Caller) (mode : WriteMode) (input : Input) (links : List Links) (updates : List EdgeUpdate)
    (entity : Nat) (g₁ g₂ g' : PropertyGraph) : Prop where
  resolved : c.resolveLinks caller mode input c.links = .ok links
  changes : c.writeUpdates mode input = .ok updates
  linked : OnlyLinks (links.map Links.relationship) entity g₁ g₂
  joins : ∀ l ∈ links, ∀ v, g₂.Joins l.relationship entity v ↔ g₁.Listed l.relationship l.ids v
  updated : OnlyLinks (updates.map EdgeUpdate.relationship) entity g₂ g'
  bare : g'.arcs.map Arc.bare = g₂.arcs.map Arc.bare

section Steps

variable {c} {caller : Caller} {mode : WriteMode} {input : Input} {scope : Option String} {id : String}
  {g g₁ g₂ g' : PropertyGraph} {n : Vertex} {added : List Arc} {links : List Links}
  {updates : List EdgeUpdate} {e : String × Relationship}

/-- The arcs that a write adds for its entity are no links. -/
theorem Founds.type_of_mem (h : c.Founds mode scope g n.id added) {a : Arc} (ha : a ∈ added) :
    a.type = c.settings.membershipEdge := by
  cases mode with
  | create =>
    cases scope with
    | none => exact absurd ((h : added = []) ▸ ha) List.not_mem_nil
    | some company =>
      obtain ⟨t, b, -, rfl, -, htype, -⟩ := h
      exact List.mem_singleton.1 ha ▸ htype
  | put => exact absurd ((h : added = []) ▸ ha) List.not_mem_nil
  | patch => exact absurd ((h : added = []) ▸ ha) List.not_mem_nil

/-- Relationships are told apart by their types. -/
theorem TypesApart.eq_of_type_eq (h : c.TypesApart) {e' : String × Relationship} (he : e ∈ c.links)
    (he' : e' ∈ c.links) (htype : e.2.type = e'.2.type) : e = e' :=
  List.inj_on_of_nodup_map h.nodup he he' htype

/-- No arc that is added for the entity is one of a relationship. -/
theorem mem_of_founds (htypes : c.TypesApart) (hfounds : c.Founds mode scope g n.id added)
    (harcs : g₁.arcs = g.arcs ++ added) (he : e ∈ c.links) {a : Arc} (htype : a.type = e.2.type) :
    a ∈ g₁.arcs ↔ a ∈ g.arcs := by
  rw [harcs, List.mem_append, or_iff_left]
  intro ha
  refine htypes.membership (List.mem_map.2 ⟨e, he, ?_⟩)
  rw [← htype, hfounds.type_of_mem ha]

/-- An arc leads somewhere from its own ends only. -/
theorem eq_or_eq_of_mem_ends {a : Arc} {arrow : Arrow} {i other : Nat} (h : other ∈ a.ends arrow i) :
    i = a.source ∨ i = a.target := by
  unfold Arc.ends at h
  cases arrow <;> dsimp only at h <;> split_ifs at h <;> simp_all

/-- A new entity has no links before the subqueries. -/
theorem Begun.not_joins (h : c.Begun mode scope id g g₁ n added) (hmode : mode = .create) (htypes : c.TypesApart)
    (harcs : g₁.arcs = g.arcs ++ added) (he : e ∈ c.links) (u : Vertex) : ¬g₁.Joins e.2 n.id u := by
  rintro ⟨-, -, a, ha, htype, hends⟩
  rw [mem_of_founds htypes h.founds harcs he htype] at ha
  refine h.new hmode ?_
  rcases eq_or_eq_of_mem_ends hends with heq | heq
  · exact heq ▸ (g.closed a ha).1
  · exact heq ▸ (g.closed a ha).2

namespace Steps

variable (h : c.Steps caller mode input links updates n.id g₁ g₂ g') (htypes : c.TypesApart)
include h

/-- A relationship with a value joins what is listed. -/
theorem given (hbegun : c.Begun mode scope id g g₁ n added) (htargets : c.TargetsExist caller mode input g)
    (he : e ∈ c.links) {value : Value} (hvalue : linkValue caller mode input e.1 e.2 = some value) :
    ∃ ids, relatedIds e.1 value = .ok ids ∧
      ∀ v, (∃ u, g'.Joins e.2 n.id u ∧ u.prop "id" = v) ↔ v ∈ ids.map Val.text := by
  obtain ⟨l, hl, hname, hr⟩ := c.exists_links_of_linkValue h.resolved he hvalue
  obtain ⟨-, hresolved⟩ := c.resolved_of_mem h.resolved hl
  obtain rfl : (l.name, l.relationship) = e := Prod.ext hname hr
  obtain ⟨value', hvalue', hids⟩ := hresolved.ids
  obtain rfl : value' = value := Option.some.inj (hvalue'.symm.trans hvalue)
  have hjoins (u : Vertex) : g'.Joins l.relationship n.id u ↔ g₁.Listed l.relationship l.ids u := by
    rw [joins_congr_bare h.updated.vertices h.bare, h.joins l hl]
  refine ⟨l.ids, hids, fun v => ⟨?_, fun hv => ?_⟩⟩
  · rintro ⟨u, hu, rfl⟩
    exact ((hjoins u).1 hu).2.2
  · obtain ⟨s, hs, rfl⟩ := List.mem_map.1 hv
    obtain ⟨t, ht⟩ := htargets _ he s (by rwa [hresolved.requestedIds_eq])
    obtain ⟨t', hmem, hlabel, hprop⟩ := hbegun.names _ _ t ht
    exact ⟨t', (hjoins t').2 ⟨hmem, hlabel, hprop ▸ hv⟩, hprop⟩

/-- Arcs that are not links stay as they are. -/
theorem others (harcs : g₁.arcs = g.arcs ++ added) {a : Arc} (ha : ∀ e ∈ c.links, ¬g'.IsLink e.2 n.id a) :
    a ∈ g'.arcs ↔ a ∈ g.arcs ∨ a ∈ added := by
  have hupdated : a ∈ g'.arcs ↔ a ∈ g₂.arcs := by
    refine h.updated.arcs a fun r hr => ?_
    obtain ⟨u, hu, rfl⟩ := List.mem_map.1 hr
    rw [← isLink_congr h.updated.vertices]
    exact ha _ (c.resolved_of_mem_writeUpdates h.changes hu).2.1
  have hlinked : a ∈ g₂.arcs ↔ a ∈ g₁.arcs := by
    refine h.linked.arcs a fun r hr => ?_
    obtain ⟨l, hl, rfl⟩ := List.mem_map.1 hr
    rw [← isLink_congr (h.updated.vertices.trans h.linked.vertices)]
    exact ha _ (c.resolved_of_mem h.resolved hl).1
  rw [hupdated, hlinked, harcs, List.mem_append]

include htypes

/-- A relationship without a value has another type than all that links are set for. -/
theorem type_not_mem (he : e ∈ c.links) (hnone : linkValue caller mode input e.1 e.2 = none) :
    e.2.type ∉ (links.map Links.relationship).map Relationship.type := by
  intro hmem
  obtain ⟨_, hr, hsame⟩ := List.mem_map.1 hmem
  obtain ⟨l, hl, rfl⟩ := List.mem_map.1 hr
  obtain ⟨hdeclared, hresolved⟩ := c.resolved_of_mem h.resolved hl
  obtain rfl := htypes.eq_of_type_eq he hdeclared hsame.symm
  obtain ⟨value, hvalue, -⟩ := hresolved.ids
  rw [hnone] at hvalue
  cases hvalue

/-- The arcs of a relationship whose edges are not changed are there before and after the changes. -/
theorem mem_of_unchanged (he : e ∈ c.links) (hunchanged : ¬ChangesEdges mode input e.1) {a : Arc}
    (htype : a.type = e.2.type) : a ∈ g'.arcs ↔ a ∈ g₂.arcs := by
  refine h.updated.arcs_of_type fun hmem => hunchanged ?_
  obtain ⟨_, hr, hsame⟩ := List.mem_map.1 hmem
  obtain ⟨u, hu, rfl⟩ := List.mem_map.1 hr
  obtain ⟨hmode, hdeclared, hresolved⟩ := c.resolved_of_mem_writeUpdates h.changes hu
  obtain rfl := htypes.eq_of_type_eq he hdeclared (htype.symm.trans hsame.symm)
  obtain ⟨members, hinput, -⟩ := hresolved.props
  exact ⟨hmode, members, hinput⟩

/-- A relationship without a value keeps its links. -/
theorem kept (hfounds : c.Founds mode scope g n.id added) (harcs : g₁.arcs = g.arcs ++ added) (he : e ∈ c.links)
    (hnone : linkValue caller mode input e.1 e.2 = none) {a : Arc} (htype : a.type = e.2.type) :
    (a.bare ∈ g'.arcs.map Arc.bare ↔ a.bare ∈ g.arcs.map Arc.bare) ∧
      (¬ChangesEdges mode input e.1 → (a ∈ g'.arcs ↔ a ∈ g.arcs)) := by
  have hfirst {b : Arc} (hb : b.type = e.2.type) : b ∈ g₂.arcs ↔ b ∈ g.arcs :=
    (h.linked.arcs_of_type (hb ▸ h.type_not_mem htypes he hnone)).trans (mem_of_founds htypes hfounds harcs he hb)
  refine ⟨?_, fun hunchanged => (h.mem_of_unchanged htypes he hunchanged htype).trans (hfirst htype)⟩
  rw [h.bare, List.mem_map, List.mem_map]
  refine exists_congr fun b => and_congr_left fun hbare => hfirst ?_
  exact (congrArg (·.2.1) hbare).trans htype

/-- A new entity has no links of a relationship without a value. -/
theorem none (hbegun : c.Begun mode scope id g g₁ n added) (hmode : mode = .create) (harcs : g₁.arcs = g.arcs ++ added)
    (he : e ∈ c.links) (hnone : linkValue caller mode input e.1 e.2 = none) (u : Vertex) : ¬g'.Joins e.2 n.id u := by
  rw [joins_congr_bare h.updated.vertices h.bare, h.linked.joins_of_type (h.type_not_mem htypes he hnone)]
  exact hbegun.not_joins hmode htypes harcs he u

theorem setsLinks (hbegun : c.Begun mode scope id g g₁ n added) (harcs : g₁.arcs = g.arcs ++ added)
    (htargets : c.TargetsExist caller mode input g) : c.SetsLinks caller mode input g g' n.id added where
  given := fun _ he _ hvalue => h.given hbegun htargets he hvalue
  kept := fun _ he hnone _ ha => h.kept htypes hbegun.founds harcs he hnone ha.1
  none := fun hmode _ he hnone => h.none htypes hbegun hmode harcs he hnone
  others := fun _ ha => h.others harcs ha

end Steps

end Steps

/-! ## The whole write -/

/-- The one row of the result holds the id of the entity. -/
theorem run_returning (x : Context) {g : PropertyGraph} {env : Env} {n : Vertex} (hn : n ∈ g.vertices)
    (hnode : env.lookup c.node = some (.vertex n.id)) :
    (Clause.returning [.expr (.prop c.node "id") "id"] false []).run x g [env] =
      some (g, [[("id", n.prop "id")]]) := by
  have hplain : [Column.expr (.prop c.node "id") "id"].any Column.aggregates = false := rfl
  rw [Clause.run, Clause.reads, Clause.rows, project_plain _ hplain, sorted_nil]
  simp [Column.bind, Column.value, Column.name, Expr.value, Env.read_of_lookup hnode, g.property_vertex hn]

/-- Links of different relationships have different types. -/
theorem TypesApart.nodup_links {c : Compiler} (h : c.TypesApart) {caller : Caller} {mode : WriteMode} {input : Input}
    {links : List Links} (hlinks : c.resolveLinks caller mode input c.links = .ok links) :
    (links.map (fun l => l.relationship.type)).Nodup := by
  refine List.pairwise_map.2 ((c.ascending_resolveLinks c.descriptor.relationships.ascending hlinks).imp_of_mem ?_)
  intro l l' hl hl' hlt htype
  have heq := h.eq_of_type_eq (c.resolved_of_mem hlinks hl).1 (c.resolved_of_mem hlinks hl').1 htype
  have hname : l.name = l'.name := congrArg Prod.fst heq
  exact String.lt_irrefl l'.name (hname ▸ hlt)

section Write

variable {c} {caller : Caller} {mode : WriteMode} {input : Input} {plan : WritePlan} {scope : Option String}
  {links : List Links} {updates : List EdgeUpdate}

/-- What the opening of a write relies on. -/
theorem param_id_of_write (h : c.write caller input mode = .ok plan) (db : Database) :
    Context.param ⟨db, plan.write.params, []⟩ "id" = .text plan.id := by
  rw [Context.param_of_get? _ (c.get?_id_of_write h), Val.ofJson_str]

theorem param_company_of_write (h : c.write caller input mode = .ok plan) {company : String}
    (hscope : c.writeScope mode caller = .ok (some company)) (db : Database) :
    Context.param ⟨db, plan.write.params, []⟩ companyParam = .text company := by
  rw [Context.param_of_get? _ (c.get?_company_of_write h hscope), Val.ofJson_str]

/-- What the subqueries for links rely on. -/
theorem prepared_of_write (h : c.write caller input mode = .ok plan) (hapart : c.NodeApart caller mode input)
    (hlinks : c.resolveLinks caller mode input c.links = .ok links) (db : Database) {l : Links} (hl : l ∈ links) :
    c.Prepared ⟨db, plan.write.params, []⟩ mode l := by
  obtain ⟨hdeclared, hresolved⟩ := c.resolved_of_mem hlinks hl
  obtain ⟨value, hvalue, -⟩ := hresolved.ids
  refine ⟨fun hbound => ?_, fun hmode => hapart.stale hmode _ hdeclared (by rw [hvalue]; rfl), fun hids => ?_⟩
  · rw [Context.param_of_get? _ (c.get?_ids_of_write h hlinks hl hbound), Val.ofJson_ofStrings]
  · refine hapart.merged _ hdeclared (.inl ?_)
    rw [hresolved.requestedIds_eq]
    rintro hnil
    rw [hnil] at hids
    cases hids

theorem NodeApart.of_mem_updates (h : c.NodeApart caller mode input) (hupdates : c.writeUpdates mode input = .ok updates)
    {u : EdgeUpdate} (hu : u ∈ updates) : c.node ∉ mergeVars u.name := by
  obtain ⟨hmode, hdeclared, hresolved⟩ := c.resolved_of_mem_writeUpdates hupdates hu
  obtain ⟨members, hinput, -⟩ := hresolved.props
  exact h.merged _ hdeclared (.inr ⟨hmode, members, hinput⟩)

/-- The clauses of a write one after the other: the opening, the assignments, the subqueries and the result. -/
theorem run_writeClauses {db : Database} (h : c.Feasible caller mode input plan db)
    (hapart : c.NodeApart caller mode input) (hscope : c.writeScope mode caller = .ok scope)
    (hlinks : c.resolveLinks caller mode input c.links = .ok links)
    (hupdates : c.writeUpdates mode input = .ok updates) :
    ∃ g₁ g₂ g' n added,
      runThrough ⟨db, plan.write.params, []⟩ (c.writeClauses mode scope.isSome input links updates) db.graph [[]] =
        some (g', [[("id", .text plan.id)]]) ∧
      c.Begun mode scope plan.id db.graph g₁ n added ∧ g₁.arcs = db.graph.arcs ++ added ∧
      c.Steps caller mode input links updates n.id g₁ g₂ g' := by
  have htied : ∀ company, scope = some company →
      Context.param ⟨db, plan.write.params, []⟩ companyParam = .text company ∧ c.node ≠ tenantVar := by
    rintro company rfl
    exact ⟨param_company_of_write h.accepted hscope db, hapart.tenant company hscope⟩
  obtain ⟨g₀, n₀, added, env, hopening, hnode, hbegun₀, harcs⟩ := c.run_opening _ h.compares h.identified h.membership
    (param_id_of_write h.accepted db) htied (h.matched scope hscope)
  obtain ⟨g₁, hset, hprops⟩ := c.run_assignments _ hnode (c.assigns_of_write h.valid h.accepted).id
  obtain ⟨n, hsame, hbegun⟩ := hbegun₀.onlyProps hprops
  rw [← hprops.arcs] at harcs
  rw [← hsame] at hnode
  have hstanding : c.Standing ⟨db, plan.write.params, []⟩ g₁ n env :=
    ⟨h.compares, hbegun.ids, hbegun.entity.1, hnode⟩
  obtain ⟨g₂, hlinked, honly, hjoins⟩ := run_links hstanding
    (fun _ => prepared_of_write h.accepted hapart hlinks db) (h.types.nodup_links hlinks) fun hmode l hl =>
      hbegun.not_joins hmode h.types harcs (c.resolved_of_mem hlinks hl).1
  obtain ⟨g', hupdated, honly', hbare⟩ := run_updates (hstanding.congr honly.vertices)
    fun _ => hapart.of_mem_updates hupdates
  have hend := hbegun.congr (honly'.vertices.trans honly.vertices)
  refine ⟨g₁, g₂, g', n, added, ?_, hbegun, harcs, hlinks, hupdates, honly, hjoins, honly', hbare⟩
  rw [writeClauses, runThrough_append, hopening, Option.bind_some, runThrough, stamps_eq, fieldAssignments_eq,
    ← List.map_append, ← assigned, hset, Option.bind_some, List.append_assoc, runThrough_append, hlinked,
    Option.bind_some, runThrough_append, hupdated, Option.bind_some, runThrough,
    c.run_returning _ hend.entity.1 hnode, hend.entity.2.2]
  rfl

end Write

/-- A write returns the id of its entity, and sets the links that it is given and no others. -/
theorem write_sets_links {caller : Caller} {mode : WriteMode} {input : Input} {plan : WritePlan} {db : Database}
    (h : c.Feasible caller mode input plan db) (hapart : c.NodeApart caller mode input) :
    ∃ scope g' n added, c.writeScope mode caller = .ok scope ∧
      plan.write.run db = some (g', [[("id", .text plan.id)]]) ∧ c.Begun mode scope plan.id db.graph g' n added ∧
      c.SetsLinks caller mode input db.graph g' n.id added := by
  obtain ⟨scope, links, updates, hscope, -, hlinks, hupdates, -, hwrite⟩ := c.write_outline h.accepted
  obtain ⟨g₁, g₂, g', n, added, hrun, hbegun, harcs, hsteps⟩ := run_writeClauses h hapart hscope hlinks hupdates
  have hclauses : plan.write.clauses = c.writeClauses mode scope.isSome input links updates := by rw [hwrite]
  refine ⟨scope, g', n, added, hscope, ?_, hbegun.congr (hsteps.updated.vertices.trans hsteps.linked.vertices),
    hsteps.setsLinks h.types hbegun harcs h.targets⟩
  rw [Statement.run_eq, hclauses, hrun]

/-! ## An article and its tags -/

/-- The edges from articles to their tags. -/
def tagged : Relationship := ⟨"HAS_TAG", .outgoing, .many, false, "Tag", [⟨"weight", none⟩], none, none⟩

/-- Articles of a company with their tags. -/
def articles (node : String) : Compiler :=
  ⟨(Schema.Descriptor.base "Article" node).withTenant.withRelationship "tags" tagged, default⟩

/-- An article with one of two tags. -/
def articleGraph : PropertyGraph where
  vertices := [⟨0, ["Company"], .ofList [("id", .text "c1")]⟩, ⟨1, ["Article"], .ofList [("id", .text "a1")]⟩,
    ⟨2, ["Tag"], .ofList [("id", .text "t1")]⟩, ⟨3, ["Tag"], .ofList [("id", .text "t2")]⟩]
  arcs := [⟨0, "BELONGS_TO", 1, 0, ∅⟩, ⟨1, "HAS_TAG", 1, 2, .ofList [("weight", .int 1)]⟩]
  vertices_nodup := by decide
  arcs_nodup := by decide
  closed := by decide

theorem identified_articleGraph : articleGraph.Identified where
  ids := by
    have hids : ∀ v ∈ articleGraph.vertices, (v.prop "id").isNull = false := by decide
    intro v hv hnull
    have hfalse := hids v hv
    rw [hnull] at hfalse
    cases hfalse
  unique := by
    have hdifferent : ∀ v ∈ articleGraph.vertices, ∀ u ∈ articleGraph.vertices, v.id ≠ u.id →
        (v.prop "id").same (u.prop "id") = false := by decide
    intro v hv u hu _ _ _ hprop
    refine articleGraph.eq_of_id_eq hv hu (Classical.byContradiction fun hne => ?_)
    have hfalse := hdifferent v hv u hu hne
    rw [hprop, Val.same_refl] at hfalse
    cases hfalse

theorem oneMembership_articles (node : String) : (articles node).OneMembership articleGraph := by
  have hone : ∀ a ∈ articleGraph.arcs, a.type = "BELONGS_TO" → a.id = 0 := by decide
  intro a ha b hb htype htype' _ _
  exact articleGraph.arc_eq_of_id_eq ha hb ((hone a ha htype).trans (hone b hb htype').symm)

theorem names_articleGraph {label id : String}
    (h : ∃ v ∈ articleGraph.vertices, label ∈ v.labels ∧ (v.prop "id").same (.text id) = true) :
    ∃ v, articleGraph.Names label id v := by
  obtain ⟨v, hv, hlabel, hsame⟩ := h
  exact ⟨v, hv, hlabel, Val.same_text.1 hsame⟩

/-- Every accepted write to the article is feasible if its tags exist. -/
theorem feasible_articles {node : String} {mode : WriteMode} {input : Input} {plan : WritePlan}
    (hmode : mode ≠ .create) (hvalid : (articles node).descriptor.validate = .ok ())
    (h : (articles node).write (.member "c1" "u1") input mode = .ok plan) (hid : inputId? input = some "a1")
    (htargets : ∀ e ∈ (articles node).links, ∀ id ∈ requestedIds (.member "c1" "u1") mode input e.1 e.2,
      ∃ v ∈ articleGraph.vertices, e.2.target ∈ v.labels ∧ (v.prop "id").same (.text id) = true) :
    (articles node).Feasible (.member "c1" "u1") mode input plan (.ofGraph articleGraph) where
  valid := hvalid
  types := ⟨List.nodup_singleton _, fun hmem => absurd (List.mem_singleton.1 hmem) (by decide : "BELONGS_TO" ≠ "HAS_TAG")⟩
  accepted := h
  compares := comparesTexts_ofGraph articleGraph
  identified := identified_articleGraph
  membership := oneMembership_articles node
  matched := by
    intro scope hscope
    obtain rfl : scope = some "c1" := by
      cases mode with
      | create => exact absurd rfl hmode
      | put => exact (Except.ok.inj hscope).symm
      | patch => exact (Except.ok.inj hscope).symm
    obtain ⟨-, -, -, -, hid', -⟩ := (articles node).write_outline h
    rw [← Option.some.inj (hid.symm.trans hid'), (articles node).matched_iff_put hmode]
    exact ⟨_, _, ⟨List.mem_cons_of_mem _ List.mem_cons_self, List.mem_singleton_self _, rfl⟩,
      ⟨List.mem_cons_self, List.mem_singleton_self _, rfl⟩, _, List.mem_cons_self, rfl, rfl, rfl⟩
  targets := fun e he id hid => names_articleGraph (htargets e he id hid)

/-- The tag of an article is replaced by another one. -/
theorem write_sets_links_articles :
    let c := articles "article"
    let caller : Caller := .member "c1" "u1"
    let input : Input := .ofList [("id", .str "a1"), ("tags", .ofStrings ["t2"])]
    ∃ plan, c.Feasible caller .put input plan (.ofGraph articleGraph) ∧ c.NodeApart caller .put input ∧
      ∃ scope g' n added, c.writeScope .put caller = .ok scope ∧
        plan.write.run (.ofGraph articleGraph) = some (g', [[("id", .text plan.id)]]) ∧
        c.Begun .put scope plan.id articleGraph g' n added ∧ c.SetsLinks caller .put input articleGraph g' n.id added := by
  intro c caller input
  obtain ⟨plan, hplan⟩ : ∃ plan, c.write caller input .put = .ok plan :=
    Result.isSome_toOption_iff.1 (by decide +kernel)
  have hfeasible : c.Feasible caller .put input plan (.ofGraph articleGraph) :=
    feasible_articles (by decide) (by rfl) hplan (by decide +kernel) (by decide +kernel)
  have hapart : c.NodeApart caller .put input :=
    ⟨fun _ _ => by decide, fun _ e he _ => (by decide +kernel : ∀ e ∈ c.links, c.node ∉ staleVars e.1) e he,
      fun e he _ => (by decide +kernel : ∀ e ∈ c.links, c.node ∉ mergeVars e.1) e he⟩
  exact ⟨plan, hfeasible, hapart, write_sets_links c hfeasible hapart⟩

/-- The edge to the one tag is gone and the other one has got an edge. -/
example : ((articles "article").write (.member "c1" "u1") (.ofList [("id", .str "a1"), ("tags", .ofStrings ["t2"])])
    .put).toOption.bind (fun plan => (plan.write.run (.ofGraph articleGraph)).map (fun s => s.1.arcs.map Arc.bare)) =
    some [(0, "BELONGS_TO", 1, 0), (1, "HAS_TAG", 1, 3)] := by decide +kernel

/-- Where the variable of the entity is the one for targets, no target is found and all links are gone. And an update of
an edge changes a link although no links are given. -/
theorem links_of_articles_differ :
    let caller : Caller := .member "c1" "u1"
    let db : Database := .ofGraph articleGraph
    let listed : Input := .ofList [("id", .str "a1"), ("tags", .ofStrings ["t2"])]
    let weighed : Input := .ofList [("id", .str "a1"),
      ("tagsEdgePropsUpdate", .object [("t1", .object [("weight", .ofNat 2)])])]
    (∃ plan g' rows, (articles "tags_target").Feasible caller .put listed plan db ∧
      plan.write.run db = some (g', rows) ∧
      (∃ value, linkValue caller .put listed "tags" tagged = some value ∧ relatedIds "tags" value = .ok ["t2"]) ∧
      ∀ u, ¬g'.Joins tagged 1 u) ∧
    ∃ plan g' rows a, (articles "article").Feasible caller .patch weighed plan db ∧
      plan.write.run db = some (g', rows) ∧ linkValue caller .patch weighed "tags" tagged = none ∧
      a ∈ articleGraph.arcs ∧ articleGraph.IsLink tagged 1 a ∧ a ∉ g'.arcs := by
  intro caller db listed weighed
  refine ⟨?_, ?_⟩
  · obtain ⟨plan, hplan⟩ : ∃ plan, (articles "tags_target").write caller listed .put = .ok plan :=
      Result.isSome_toOption_iff.1 (by decide +kernel)
    have hnone : ((articles "tags_target").write caller listed .put).toOption.bind (fun plan =>
        (plan.write.run db).map (fun s => (linked s.1 tagged 1).isEmpty)) = some true := by decide +kernel
    rw [hplan] at hnone
    obtain ⟨⟨g', rows⟩, hrun, hempty⟩ := Option.map_eq_some_iff.1 hnone
    refine ⟨plan, g', rows, feasible_articles (by decide) (by rfl) hplan (by decide +kernel) (by decide +kernel), hrun,
      ⟨_, rfl, rfl⟩, fun u hu => ?_⟩
    obtain ⟨a, ha⟩ := joins_iff.1 hu
    rw [List.isEmpty_iff.1 hempty] at ha
    cases ha
  · obtain ⟨plan, hplan⟩ : ∃ plan, (articles "article").write caller weighed .patch = .ok plan :=
      Result.isSome_toOption_iff.1 (by decide +kernel)
    have hchanged : ((articles "article").write caller weighed .patch).toOption.bind (fun plan =>
        (plan.write.run db).map (fun s => s.1.arcs.all (fun a => !(a.prop "weight").same (.int 1)))) = some true := by
      decide +kernel
    rw [hplan] at hchanged
    obtain ⟨⟨g', rows⟩, hrun, hall⟩ := Option.map_eq_some_iff.1 hchanged
    refine ⟨plan, g', rows, ⟨1, "HAS_TAG", 1, 2, .ofList [("weight", .int 1)]⟩,
      feasible_articles (by decide) (by rfl) hplan (by decide +kernel) (by decide +kernel), hrun, rfl,
      List.mem_cons_of_mem _ (List.mem_singleton_self _), ⟨rfl, ⟨2, ["Tag"], .ofList [("id", .text "t1")]⟩, ?_,
        List.mem_singleton_self _, by decide⟩,
      fun ha => ?_⟩
    · exact List.mem_cons_of_mem _ (List.mem_cons_of_mem _ List.mem_cons_self)
    · have hfalse := List.all_eq_true.1 hall _ ha
      revert hfalse
      decide

end Compiler
end EntityGraph.Compile
