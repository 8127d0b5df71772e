import EntityGraph.Proofs.Listing.Basic
import EntityGraph.Proofs.Listing.Finds

/-!
# The candidates of a list

Four openings find the candidates: by label or by the index, within a tenant or anywhere. Each of them finds the
vertices with the entity's label that belong to the tenant and were yielded by the index, each once. The tests on
the entity then keep those that pass the filters and own the required edges.
-/
namespace EntityGraph.Compile

open Cypher EntityGraph.Graph
open Json (Value)
open Paging (Window)
open Schema (Relationship)

namespace Compiler

variable (c : Compiler) {x : Context}

/-- What an opening finds. -/
structure Opened (db : Database) (scope : Option String) (hits : Option (List Val)) (v : Vertex) : Prop where
  label : c.label ∈ v.labels
  tenant : ∀ company, scope = some company → ∃ a tenant, c.Belongs db company v a tenant
  found : ∀ args, hits = some args →
    ∃ hit ∈ db.procedure searchProcedure args, Env.read hit "node" = .vertex v.id

/-- A tenant with an id. -/
def IsTenant (db : Database) (company : String) (t : Vertex) : Prop :=
  c.settings.tenantLabel ∈ t.labels ∧ db.equal (t.prop "id") (.text company) = some true

theorem mem_reached_membership {v : Vertex} {p : Arc × Vertex} {company : String} :
    (p ∈ x.db.graph.reached c.settings.membershipEdge .outgoing v.id ∧ c.IsTenant x.db company p.2) ↔
      c.Belongs x.db company v p.1 p.2 := by
  rw [PropertyGraph.mem_reached]
  constructor
  · rintro ⟨⟨harc, htype, hvertex, hends⟩, hlabel, hid⟩
    have hsides : p.1.source = v.id ∧ p.1.target = p.2.id := by
      unfold Arc.ends at hends
      by_cases hsource : p.1.source = v.id
      · rw [if_pos hsource, List.mem_singleton] at hends
        exact ⟨hsource, hends.symm⟩
      · rw [if_neg hsource] at hends
        cases hends
    exact ⟨harc, htype, hsides.1, hsides.2, hvertex, hlabel, hid⟩
  · rintro ⟨harc, htype, hsource, htarget, hvertex, hlabel, hid⟩
    refine ⟨⟨harc, htype, hvertex, ?_⟩, hlabel, hid⟩
    unfold Arc.ends
    rw [if_pos hsource, htarget]
    exact List.mem_singleton_self _

/-- The membership arcs of an entity within one tenant make one row at most, and one if there is such an arc. -/
theorem membership_rows (hdb : c.Orderly x.db) {company : String} {v : Vertex} (hv : v ∈ x.db.graph.vertices)
    (hlabel : c.label ∈ v.labels) {f : Arc × Vertex → List Env}
    (hone : ∀ p ∈ x.db.graph.reached c.settings.membershipEdge .outgoing v.id, (f p).length ≤ 1)
    (hf : ∀ p ∈ x.db.graph.reached c.settings.membershipEdge .outgoing v.id,
      f p ≠ [] ↔ c.IsTenant x.db company p.2) :
    ((x.db.graph.reached c.settings.membershipEdge .outgoing v.id).flatMap f).length ≤ 1 ∧
      ((x.db.graph.reached c.settings.membershipEdge .outgoing v.id).flatMap f ≠ [] ↔
        ∃ a tenant, c.Belongs x.db company v a tenant) := by
  constructor
  · refine length_flatMap_le_one (x.db.graph.reached_nodup _ _ _) hone fun p hp q hq hfp hfq => ?_
    have hbp := c.mem_reached_membership.1 ⟨hp, (hf p hp).1 hfp⟩
    have hbq := c.mem_reached_membership.1 ⟨hq, (hf q hq).1 hfq⟩
    have htenant : p.2 = q.2 :=
      hdb.tenant p.2 hbp.vertex q.2 hbq.vertex hbp.label hbq.label company hbp.id hbq.id
    have harc : p.1 = q.1 := hdb.membership v hv hlabel company p.1 q.1 p.2 hbp (htenant ▸ hbq)
    exact Prod.ext harc htenant
  · rw [ne_eq, List.flatMap_eq_nil_iff]
    push Not
    constructor
    · rintro ⟨p, hp, hfp⟩
      exact ⟨p.1, p.2, c.mem_reached_membership.1 ⟨hp, (hf p hp).1 hfp⟩⟩
    · rintro ⟨a, tenant, hbelongs⟩
      obtain ⟨hp, htenant⟩ := c.mem_reached_membership (p := (a, tenant)).2 hbelongs
      exact ⟨(a, tenant), hp, (hf _ hp).2 htenant⟩

/-! ## Openings by label -/

theorem rows_labeled (w : Window) :
    ∃ rows, (Clause.matching (.node (.labeled c.node c.label))).rows x w [[]] = some rows ∧
      Finds x.db.graph c.node [c.node] (fun v => c.label ∈ v.labels) rows := by
  refine ⟨_, Clause.rows_matching x w _ _, ?_⟩
  rw [List.flatMap_singleton, Pattern.paths_node]
  simp only [Node.accept_labeled x (rfl : ([] : Env).lookup c.node = none)]
  refine Finds.of_vertices ?_ ?_ ?_ ?_
  · intro v hv row hrow
    by_cases h : c.label ∈ v.labels <;> simp_all [Env.vars]
  · intro v hv row hrow
    by_cases h : c.label ∈ v.labels <;> simp_all
  · intro v hv
    split <;> simp
  · intro v hv
    split <;> simp_all

/-- The row with the tenant, if there is one. -/
theorem paths_tenant (hdb : c.Orderly x.db) {company : String} (hcompany : x.param companyParam = .text company) :
    (∃ t ∈ x.db.graph.vertices, c.IsTenant x.db company t ∧
        (Pattern.node c.tenantNode).paths x [] = [[(tenantVar, .vertex t.id)]]) ∨
      ((∀ t ∈ x.db.graph.vertices, ¬c.IsTenant x.db company t) ∧ (Pattern.node c.tenantNode).paths x [] = []) := by
  have hpaths : (Pattern.node c.tenantNode).paths x [] = x.db.graph.vertices.flatMap (fun t =>
      (if c.settings.tenantLabel ∈ t.labels ∧ x.db.equal (t.prop "id") (.text company) = some true then
        some [(tenantVar, .vertex t.id)] else none : Option Env).toList) := by
    rw [Pattern.paths_node]
    simp only [tenantNode, Node.accept_withProp x (rfl : ([] : Env).lookup tenantVar = none), hcompany,
      List.nil_append]
  rw [hpaths]
  by_cases h : ∃ t ∈ x.db.graph.vertices, c.IsTenant x.db company t
  · obtain ⟨t, ht, htenant⟩ := h
    refine .inl ⟨t, ht, htenant, ?_⟩
    have hsearch : ∀ u ∈ x.db.graph.vertices,
        (if c.settings.tenantLabel ∈ u.labels ∧ x.db.equal (u.prop "id") (.text company) = some true then
          some [(tenantVar, .vertex u.id)] else none : Option Env).toList =
        if t.id = u.id then [[(tenantVar, .vertex u.id)]] else [] := by
      intro u hu
      by_cases hu' : c.settings.tenantLabel ∈ u.labels ∧ x.db.equal (u.prop "id") (.text company) = some true
      · rw [if_pos hu', if_pos (hdb.tenant t ht u hu htenant.1 hu'.1 company htenant.2 hu'.2 ▸ rfl)]
        rfl
      · have hne : t.id ≠ u.id := fun heq => hu' (x.db.graph.eq_of_id_eq ht hu heq ▸ htenant)
        rw [if_neg hu', if_neg hne]
        rfl
    rw [List.flatMap_congr hsearch]
    exact x.db.graph.flatMap_vertex ht (fun u => [[(tenantVar, Val.vertex u.id)]])
  · refine .inr ⟨fun t ht htenant => h ⟨t, ht, htenant⟩, ?_⟩
    rw [List.flatMap_eq_nil_iff]
    intro t ht
    have hnot : ¬(c.settings.tenantLabel ∈ t.labels ∧ x.db.equal (t.prop "id") (.text company) = some true) :=
      fun htenant => h ⟨t, ht, htenant⟩
    rw [if_neg hnot]
    rfl

/-- From the tenant, the membership arcs of the vertices with the entity's label lead back to it. -/
theorem paths_labeled_membership (hnames : c.node ≠ tenantVar) (t : Vertex) :
    (c.membership (.labeled c.node c.label) (.bound tenantVar)).paths x [(tenantVar, .vertex t.id)] =
      x.db.graph.vertices.flatMap (fun v => if c.label ∈ v.labels then
        (x.db.graph.reached c.settings.membershipEdge .outgoing v.id).flatMap (fun p =>
          if t.id = p.2.id then [[(tenantVar, .vertex t.id), (c.node, .vertex v.id)]] else []) else []) := by
  have hfresh : List.lookup c.node [(tenantVar, Val.vertex t.id)] = none := by
    simp [Entries.lookup_cons_eq, hnames]
  have htenantVar (v : Vertex) : List.lookup tenantVar [(tenantVar, Val.vertex t.id), (c.node, .vertex v.id)] =
      some (.vertex t.id) := List.lookup_cons_self
  rw [membership, Pattern.paths_hop]
  refine List.flatMap_congr fun v hv => ?_
  rw [Node.accept_labeled x hfresh]
  by_cases hlabel : c.label ∈ v.labels
  · rw [if_pos hlabel, if_pos hlabel, Option.toList_some, List.flatMap_singleton]
    refine List.flatMap_congr fun p hp => ?_
    rw [Env.bind?, Option.bind_some, List.cons_append, List.nil_append, Node.accept_bound x (htenantVar v)]
    split <;> rfl
  · rw [if_neg hlabel, if_neg hlabel]
    rfl

theorem finds_labeled_membership (hdb : c.Orderly x.db) (hnames : c.node ≠ tenantVar) {company : String} {t : Vertex}
    (ht : t ∈ x.db.graph.vertices) (htenant : c.IsTenant x.db company t) :
    Finds x.db.graph c.node [tenantVar, c.node]
      (fun v => c.label ∈ v.labels ∧ ∃ a tenant, c.Belongs x.db company v a tenant)
      ((c.membership (.labeled c.node c.label) (.bound tenantVar)).paths x [(tenantVar, .vertex t.id)]) := by
  have hrow (v : Vertex) (p : Arc × Vertex)
      (hp : p ∈ x.db.graph.reached c.settings.membershipEdge .outgoing v.id) :
      (if t.id = p.2.id then [[(tenantVar, Val.vertex t.id), (c.node, .vertex v.id)]] else []) ≠ [] ↔
        c.IsTenant x.db company p.2 := by
    have hvertex := (x.db.graph.mem_reached.1 hp).2.2.1
    by_cases heq : t.id = p.2.id
    · simp [heq, ← x.db.graph.eq_of_id_eq ht hvertex heq, htenant]
    · simp only [heq, if_false, ne_eq, not_true_eq_false, false_iff]
      intro hp
      exact heq (congrArg Vertex.id (hdb.tenant t ht p.2 hvertex htenant.1 hp.1 company htenant.2 hp.2))
  have hmember (v : Vertex) (row : Env) (hrow : row ∈ if c.label ∈ v.labels then
      (x.db.graph.reached c.settings.membershipEdge .outgoing v.id).flatMap (fun p =>
        if t.id = p.2.id then [[(tenantVar, Val.vertex t.id), (c.node, .vertex v.id)]] else []) else []) :
      row = [(tenantVar, .vertex t.id), (c.node, .vertex v.id)] := by
    split at hrow
    · obtain ⟨p, -, hrow⟩ := List.mem_flatMap.1 hrow
      split at hrow
      · exact List.mem_singleton.1 hrow
      · cases hrow
    · cases hrow
  rw [c.paths_labeled_membership hnames t]
  refine Finds.of_vertices ?_ ?_ ?_ ?_
  · intro v hv row hrow
    rw [hmember v row hrow]
    rfl
  · intro v hv row hrow
    rw [hmember v row hrow]
    simp [Entries.lookup_cons_eq, hnames]
  · intro v hv
    split
    · rename_i hlabel
      exact (c.membership_rows hdb hv hlabel (fun p _ => by split <;> simp) (hrow v)).1
    · exact Nat.zero_le 1
  · intro v hv
    by_cases hlabel : c.label ∈ v.labels
    · rw [if_pos hlabel, (c.membership_rows hdb hv hlabel (fun p _ => by split <;> simp) (hrow v)).2]
      simp [hlabel]
    · simp [hlabel]

theorem rows_labeled_tenant (w : Window) (hdb : c.Orderly x.db) (hnames : c.node ≠ tenantVar) {company : String}
    (hcompany : x.param companyParam = .text company) :
    ∃ rows, rowsThrough x w [.matching (.node c.tenantNode),
        .matching (c.membership (.labeled c.node c.label) (.bound tenantVar))] [[]] = some rows ∧
      Finds x.db.graph c.node [tenantVar, c.node]
        (fun v => c.label ∈ v.labels ∧ ∃ a tenant, c.Belongs x.db company v a tenant) rows := by
  have hrows : rowsThrough x w [.matching (.node c.tenantNode),
        .matching (c.membership (.labeled c.node c.label) (.bound tenantVar))] [[]] =
      some (((Pattern.node c.tenantNode).paths x []).flatMap
        ((c.membership (.labeled c.node c.label) (.bound tenantVar)).paths x)) := by
    simp only [rowsThrough, Clause.rows_matching, Option.bind_some, List.flatMap_singleton]
  refine ⟨_, hrows, ?_⟩
  rcases c.paths_tenant hdb hcompany with ⟨t, ht, htenant, hpaths⟩ | ⟨hnone, hpaths⟩
  · rw [hpaths, List.flatMap_singleton]
    exact c.finds_labeled_membership hdb hnames ht htenant
  · rw [hpaths, List.flatMap_nil]
    refine Finds.nil _ _ _ ?_
    rintro v hv ⟨-, a, tenant, hbelongs⟩
    exact hnone tenant hbelongs.vertex ⟨hbelongs.label, hbelongs.id⟩

/-! ## Openings by the index -/

theorem rows_hits (w : Window) (hdb : c.Orderly x.db) (args : List Expr) :
    ∃ rows, rowsThrough x w [.procedure searchProcedure args ["node", scoreVar], c.hitClause] [[]] = some rows ∧
      Finds x.db.graph c.node [c.node, scoreVar]
        (fun v => c.label ∈ v.labels ∧ ∃ hit ∈ x.db.procedure searchProcedure (exprValues x [] args),
          Env.read hit "node" = .vertex v.id) rows := by
  let named (hit : Env) : Env := [(c.node, hit.read "node"), (scoreVar, hit.read scoreVar)]
  let isHit (env : Env) : Bool := keeps x (some (.hasLabel c.node c.label)) env
  have hread (hit : Env) : Env.read (named hit) c.node = hit.read "node" :=
    Env.read_of_lookup List.lookup_cons_self
  have hhit (hit : Env) : isHit (named hit) = true ↔
      ∃ labels, x.db.graph.labels (hit.read "node") = some labels ∧ c.label ∈ labels := by
    simp [isHit, keeps, Predicate.truth, hread]
  have hrows : rowsThrough x w [.procedure searchProcedure args ["node", scoreVar], c.hitClause] [[]] =
      some (((x.db.procedure searchProcedure (exprValues x [] args)).map named).filter isHit) := by
    have hcolumn : [Column.var "node" (some c.node), Column.ofVar scoreVar].any Column.aggregates = false := rfl
    simp only [rowsThrough, Clause.rows, hitClause, Option.bind_some, List.flatMap_singleton, List.nil_append,
      sorted_nil, project_plain x hcolumn, List.map_map, Bool.false_eq_true, if_false]
    congr 2
  refine ⟨_, hrows, ?_, ?_, ?_, ?_⟩
  · intro env henv
    obtain ⟨hit, -, rfl⟩ := List.mem_map.1 (List.mem_filter.1 henv).1
    rfl
  · intro env henv
    obtain ⟨henv, hpass⟩ := List.mem_filter.1 henv
    obtain ⟨hit, hhits, rfl⟩ := List.mem_map.1 henv
    obtain ⟨labels, hlabels, hlabel⟩ := (hhit hit).1 hpass
    obtain ⟨v, hv, hvertex, rfl⟩ := x.db.graph.eq_vertex_of_labels hlabels
    exact ⟨v, hv, by rw [← hvertex]; exact List.lookup_cons_self, hlabel, hit, hhits, hvertex⟩
  · rintro v hv ⟨hlabel, hit, hhits, hvertex⟩
    refine ⟨named hit, List.mem_filter.2 ⟨List.mem_map_of_mem hhits, (hhit hit).2 ?_⟩, ?_⟩
    · exact ⟨v.labels, by rw [hvertex, x.db.graph.labels_vertex hv], hlabel⟩
    · rw [← hvertex]
      exact List.lookup_cons_self
  · refine nodup_of_nodup_filterMap (f := Val.vertex?) ?_ ?_
    · intro u hu
      obtain ⟨env, henv, rfl⟩ := List.mem_map.1 hu
      obtain ⟨henv, hpass⟩ := List.mem_filter.1 henv
      obtain ⟨hit, -, rfl⟩ := List.mem_map.1 henv
      obtain ⟨labels, hlabels, -⟩ := (hhit hit).1 hpass
      obtain ⟨v, -, hvertex, -⟩ := x.db.graph.eq_vertex_of_labels hlabels
      rw [hread, hvertex]
      rfl
    · have hall := hdb.hits (exprValues x [] args)
      have hids : ((x.db.procedure searchProcedure (exprValues x [] args)).map named).filterMap
          (fun env => (env.read c.node).vertex?) =
          (x.db.procedure searchProcedure (exprValues x [] args)).filterMap
            (fun hit => (Env.read hit "node").vertex?) := by
        rw [List.filterMap_map]
        refine congrArg (List.filterMap · _) (funext fun hit => ?_)
        rw [Function.comp_apply, hread]
      rw [List.filterMap_map]
      refine List.Nodup.sublist ?_ (hids ▸ hall)
      exact List.filter_sublist.filterMap _

/-- From an entity, its membership arcs lead to the tenant. -/
theorem paths_bound_membership {company : String} (hcompany : x.param companyParam = .text company) {env : Env}
    {v : Vertex} (hv : v ∈ x.db.graph.vertices) (hlookup : env.lookup c.node = some (.vertex v.id))
    (hfresh : env.lookup tenantVar = none) :
    (c.membership (.bound c.node) c.tenantNode).paths x env =
      (x.db.graph.reached c.settings.membershipEdge .outgoing v.id).flatMap (fun p =>
        if c.settings.tenantLabel ∈ p.2.labels ∧ x.db.equal (p.2.prop "id") (.text company) = some true then
          [env ++ [(tenantVar, .vertex p.2.id)]] else []) := by
  rw [membership, Pattern.paths_hop_bound x hv hlookup]
  refine List.flatMap_congr fun p hp => ?_
  rw [Env.bind?, Option.bind_some, tenantNode, Node.accept_withProp x hfresh, hcompany]
  split <;> rfl

/-- The match of a membership arc behind the hits of an index keeps those that belong to the tenant. -/
theorem rows_hits_tenant (w : Window) (hdb : c.Orderly x.db) (hnames : c.node ≠ tenantVar) {company : String}
    (hcompany : x.param companyParam = .text company) {P : Vertex → Prop} {rows : List Env}
    (h : Finds x.db.graph c.node [c.node, scoreVar] (fun v => c.label ∈ v.labels ∧ P v) rows) :
    ∃ rows', (Clause.matching (c.membership (.bound c.node) c.tenantNode)).rows x w rows = some rows' ∧
      Finds x.db.graph c.node [c.node, scoreVar, tenantVar]
        (fun v => (c.label ∈ v.labels ∧ P v) ∧ ∃ a tenant, c.Belongs x.db company v a tenant) rows' := by
  refine ⟨_, Clause.rows_matching x w _ _, ?_⟩
  have hfresh (env : Env) (henv : env ∈ rows) : env.lookup tenantVar = none := by
    refine Env.lookup_eq_none_of_not_mem ?_
    rw [h.vars env henv]
    simpa [scoreVar, tenantVar] using hnames.symm
  have hmember (env : Env) (henv : env ∈ rows) (row : Env)
      (hrow : row ∈ (c.membership (.bound c.node) c.tenantNode).paths x env) : ∃ u, row = env ++ [(tenantVar, u)] := by
    obtain ⟨v, hv, hlookup, -⟩ := h.sound env henv
    rw [c.paths_bound_membership hcompany hv hlookup (hfresh env henv)] at hrow
    obtain ⟨p, -, hrow⟩ := List.mem_flatMap.1 hrow
    split at hrow
    · exact ⟨_, List.mem_singleton.1 hrow⟩
    · cases hrow
  have hcount (env : Env) (henv : env ∈ rows) {v : Vertex} (hv : v ∈ x.db.graph.vertices)
      (hlookup : env.lookup c.node = some (.vertex v.id)) (hlabel : c.label ∈ v.labels) :
      ((c.membership (.bound c.node) c.tenantNode).paths x env).length ≤ 1 ∧
        ((c.membership (.bound c.node) c.tenantNode).paths x env ≠ [] ↔
          ∃ a tenant, c.Belongs x.db company v a tenant) := by
    rw [c.paths_bound_membership hcompany hv hlookup (hfresh env henv)]
    refine c.membership_rows hdb hv hlabel (fun p _ => by split <;> simp) (fun p _ => ?_)
    unfold IsTenant
    split <;> simp_all
  refine h.flatMap ?_ ?_ ?_ ?_
  · intro env henv row hrow
    obtain ⟨u, rfl⟩ := hmember env henv row hrow
    rw [Env.vars_append, h.vars env henv]
    rfl
  · intro env henv row hrow
    obtain ⟨id, hlookup⟩ := h.exists_id env henv
    obtain ⟨u, rfl⟩ := hmember env henv row hrow
    rw [List.lookup_append, hlookup]
    rfl
  · intro env henv
    obtain ⟨v, hv, hlookup, hlabel, -⟩ := h.sound env henv
    exact (hcount env henv hv hlookup hlabel).1
  · intro env henv v hv hlookup
    obtain ⟨u, hu, hlookup', hlabel, -⟩ := h.sound env henv
    rw [hlookup] at hlookup'
    obtain rfl := x.db.graph.eq_of_id_eq hv hu (Val.vertex.inj (Option.some.inj hlookup'))
    exact (hcount env henv hv hlookup hlabel).2

/-! ## Tests -/

/-- A hop along a relationship makes one row for each linked target that it accepts the label of. -/
theorem paths_relationship {env : Env} {v : Vertex} (hv : v ∈ x.db.graph.vertices)
    (hlookup : env.lookup c.node = some (.vertex v.id)) {binder : Option String} {r : Relationship} {n : Node}
    {f : Arc × Vertex → Env}
    (hstep : ∀ p : Arc × Vertex, ((env.bind? binder (.arc p.1.id)).bind (fun env => n.accept x env p.2)).toList =
      if r.target ∈ p.2.labels then [f p] else []) :
    (c.relationshipPattern binder r n).paths x env = (linked x.db.graph r v.id).map f := by
  rw [relationshipPattern, Pattern.paths_hop_bound x hv hlookup, linked]
  simp only [hstep]
  induction x.db.graph.reached r.type r.arrow v.id with
  | nil => rfl
  | cons p rest ih =>
    rw [List.flatMap_cons, ih]
    by_cases hlabel : r.target ∈ p.2.labels <;> simp [hlabel]

/-- The parameters of a list hold what it was asked with. -/
structure Supplied (x : Context) (scope : Option String) (criteria : Criteria)
    (related : Option (Relationship × List String)) : Prop where
  company : ∀ company, scope = some company → x.param companyParam = .text company
  filter : ∀ f ∈ criteria.filters.toList, f.2.isNull = false → x.param (filterParam f.1) = .ofJson f.2
  term : ∀ index pattern, c.termSource? criteria = some (index, pattern) → x.param "term" = .text pattern
  ids : ∀ r ids, related = some (r, ids) → x.param "relatedIds" = .list (ids.map .text)

theorem truth_filterTest {env : Env} {v : Vertex} (hv : v ∈ x.db.graph.vertices)
    (hlookup : env.lookup c.node = some (.vertex v.id)) {filter : String × Value}
    (hparam : filter.2.isNull = false → x.param (filterParam filter.1) = .ofJson filter.2) :
    (c.filterTest filter.1 filter.2.isNull).truth x env = some true ↔ Passes x.db v filter := by
  have hprop : x.db.graph.property (env.read c.node) filter.1 = v.prop filter.1 := by
    rw [Env.read_of_lookup hlookup, x.db.graph.property_vertex hv]
  unfold filterTest Passes
  cases hnull : filter.2.isNull with
  | true => simp [Predicate.truth, Expr.value, hprop, Val.isNull_iff]
  | false => simp [Predicate.truth, Expr.value, hprop, hparam hnull]

theorem truth_edgeTest {env : Env} {v : Vertex} (hv : v ∈ x.db.graph.vertices)
    (hlookup : env.lookup c.node = some (.vertex v.id)) (r : Relationship) :
    (c.edgeTest r).truth x env = some true ↔ ∃ a target, Leads x.db.graph r v a target := by
  have hpaths : (c.relationshipPattern none r (.anonymous r.target)).paths x env =
      (linked x.db.graph r v.id).map (fun _ => env) := by
    refine c.paths_relationship hv hlookup fun p => ?_
    rw [Env.bind?, Option.bind_some, Node.accept_anonymous]
    split <;> rfl
  rw [← linked_ne_nil_iff]
  simp [edgeTest, Predicate.truth, hpaths]

/-- The tests of a list on an entity. -/
structure Tested (db : Database) (criteria : Criteria) (v : Vertex) : Prop where
  filters : ∀ filter ∈ criteria.filters.toList, Passes db v filter
  required : ∀ e ∈ c.links, e.2.cardinality = .one → e.2.required = true →
    ∃ a target, Leads db.graph e.2 v a target

theorem truth_listTests {scope : Option String} {criteria : Criteria}
    {related : Option (Relationship × List String)} (hsupplied : c.Supplied x scope criteria related) {env : Env}
    {v : Vertex} (hv : v ∈ x.db.graph.vertices) (hlookup : env.lookup c.node = some (.vertex v.id)) :
    (c.listTests criteria).all (fun p => p.truth x env = some true) = true ↔ c.Tested x.db criteria v := by
  rw [List.all_eq_true]
  constructor
  · intro h
    refine ⟨fun filter hfilter => ?_, fun e he hone hrequired => ?_⟩
    · refine (c.truth_filterTest hv hlookup (hsupplied.filter filter hfilter)).1 (of_decide_eq_true (h _ ?_))
      exact List.mem_append_left _ (List.mem_map.2 ⟨filter, hfilter, rfl⟩)
    · refine (c.truth_edgeTest hv hlookup e.2).1 (of_decide_eq_true (h _ ?_))
      refine List.mem_append_right _ (List.mem_map.2 ⟨e.2, List.mem_filter.2 ⟨?_, ?_⟩, rfl⟩)
      · exact List.mem_map_of_mem he
      · simp [Relationship.isOptional, hone, hrequired]
  · intro h p hp
    refine decide_eq_true ?_
    rcases List.mem_append.1 hp with hp | hp
    · obtain ⟨filter, hfilter, rfl⟩ := List.mem_map.1 hp
      exact (c.truth_filterTest hv hlookup (hsupplied.filter filter hfilter)).2 (h.filters filter hfilter)
    · obtain ⟨r, hr, rfl⟩ := List.mem_map.1 hp
      obtain ⟨hr, hmandatory⟩ := List.mem_filter.1 hr
      obtain ⟨e, he, rfl⟩ := List.mem_map.1 hr
      refine (c.truth_edgeTest hv hlookup e.2).2 (h.required e he ?_ ?_)
      · cases hcard : e.2.cardinality with
        | one => rfl
        | many => simp [Relationship.isOptional, hcard] at hmandatory
      · cases hrequired : e.2.required with
        | true => rfl
        | false => simp [Relationship.isOptional, hrequired] at hmandatory

/-! ## All openings -/

/-- What the index is searched with. -/
def searchArgs (criteria : Criteria) : Option (List Val) :=
  (c.termSource? criteria).map (fun hit => [.text hit.1, .text hit.2])

/-- The variables behind the opening of a list. -/
def openedVars (tied : Bool) (criteria : Criteria) : List String :=
  if (c.termSource? criteria).isSome then [c.node, scoreVar] ++ (if tied then [tenantVar] else [])
  else (if tied then [tenantVar] else []) ++ [c.node]

theorem selects_openingLast (tied : Bool) (source : Source) : (c.openingLast tied source).selects = true := by
  cases tied <;> cases source <;> rfl

theorem rows_opening (w : Window) (hdb : c.Orderly x.db) {scope : Option String} {criteria : Criteria}
    {related : Option (Relationship × List String)} (hsupplied : c.Supplied x scope criteria related)
    (hnames : scope.isSome = true → c.node ≠ tenantVar) :
    ∃ rows, rowsThrough x w (c.openingInit scope.isSome (c.listSource criteria) ++
        [c.openingLast scope.isSome (c.listSource criteria)]) [[]] = some rows ∧
      Finds x.db.graph c.node (c.openedVars scope.isSome criteria)
        (c.Opened x.db scope (c.searchArgs criteria)) rows := by
  unfold listSource openedVars searchArgs
  cases hhit : c.termSource? criteria with
  | none =>
    cases scope with
    | none =>
      obtain ⟨rows, hrows, hfinds⟩ := c.rows_labeled (x := x) w
      refine ⟨rows, ?_, hfinds.congr fun v hv => ⟨fun h => ⟨h, by simp, by simp⟩, fun h => h.label⟩⟩
      exact (Option.bind_fun_some _).trans hrows
    | some company =>
      obtain ⟨rows, hrows, hfinds⟩ :=
        c.rows_labeled_tenant w hdb (hnames rfl) (hsupplied.company company rfl)
      refine ⟨rows, hrows, hfinds.congr fun v hv => ⟨fun h => ⟨h.1, ?_, by simp⟩, fun h => ⟨h.label, ?_⟩⟩⟩
      · rintro _ ⟨⟩
        exact h.2
      · exact h.tenant company rfl
  | some hit =>
    have hargs : exprValues x [] [.quoted hit.1, .param "term"] = [.text hit.1, .text hit.2] := by
      simp only [exprValues, Expr.value, hsupplied.term hit.1 hit.2 hhit]
    obtain ⟨hits, hhits, hfound⟩ := c.rows_hits w hdb [.quoted hit.1, .param "term"]
    rw [hargs] at hfound
    cases scope with
    | none =>
      refine ⟨hits, hhits, hfound.congr fun v hv => ⟨fun h => ⟨h.1, by simp, ?_⟩, fun h => ⟨h.label, ?_⟩⟩⟩
      · rintro _ ⟨⟩
        exact h.2
      · exact h.found _ rfl
    | some company =>
      obtain ⟨rows, hrows, hfinds⟩ :=
        c.rows_hits_tenant w hdb (hnames rfl) (hsupplied.company company rfl) hfound
      refine ⟨rows, ?_, hfinds.congr fun v hv =>
        ⟨fun h => ⟨h.1.1, ?_, ?_⟩, fun h => ⟨⟨h.label, ?_⟩, ?_⟩⟩⟩
      · show rowsThrough x w ([.procedure searchProcedure [.quoted hit.1, .param "term"] ["node", scoreVar],
          c.hitClause] ++ [.matching (c.membership (.bound c.node) c.tenantNode)]) [[]] = some rows
        rw [rowsThrough_append, hhits, Option.bind_some, rowsThrough, hrows]
        rfl
      · rintro _ ⟨⟩
        exact h.2
      · rintro _ ⟨⟩
        exact h.1.2
      · exact h.found _ rfl
      · exact h.tenant company rfl

/-- The opening with its tests finds the entities that the tests are true of. -/
theorem rows_tested (w : Window) (hdb : c.Orderly x.db) {scope : Option String} {criteria : Criteria}
    {related : Option (Relationship × List String)} (hsupplied : c.Supplied x scope criteria related)
    (hnames : scope.isSome = true → c.node ≠ tenantVar) :
    ∃ rows, rowsThrough x w (c.openingInit scope.isSome (c.listSource criteria) ++
        [(c.openingLast scope.isSome (c.listSource criteria)).guardedBy (c.listTests criteria)]) [[]] =
          some rows ∧
      Finds x.db.graph c.node (c.openedVars scope.isSome criteria)
        (fun v => c.Opened x.db scope (c.searchArgs criteria) v ∧ c.Tested x.db criteria v) rows := by
  obtain ⟨rows, hrows, hfinds⟩ := c.rows_opening w hdb hsupplied hnames
  refine ⟨_, rowsThrough_guardedBy x w (c.selects_openingLast _ _) _ hrows, hfinds.filter ?_⟩
  intro env henv v hv hlookup
  exact c.truth_listTests hsupplied hv hlookup

end Compiler
end EntityGraph.Compile
