import EntityGraph.Proofs.Listing.Results
import EntityGraph.Proofs.Statements.Scoping

/-!
# Look-ups by an id

A look-up has no page in front of its traversals, so an entity may come with the tenant and more than once, and each
traversal joins the copies again. What matters is that it comes: an entity of the tenant with the id and with every
required edge is in some row until the end. The look at existence counts the vertices with the id, whoever they belong
to and whatever they are linked to.
-/
namespace EntityGraph.Graph

/-- Whether integers are compared as numbers. -/
def Database.ComparesInts (db : Database) : Prop :=
  ∀ m n : Int, db.greater (.int m) (.int n) = some (decide (n < m))

end EntityGraph.Graph

namespace EntityGraph.Compile.Compiler

open Cypher EntityGraph.Graph
open Paging (Window)
open Schema (Relationship)

variable (c : Compiler) {x : Context}

/-- A vertex with the entity's label and an id. -/
structure HasId (db : Database) (id : String) (v : Vertex) : Prop where
  vertex : v ∈ db.graph.vertices
  label : c.label ∈ v.labels
  id : db.equal (v.prop "id") (.text id) = some true

/-- Whether a vertex has an edge of every relationship that requires one. -/
def HasRequiredEdges (db : Database) (v : Vertex) : Prop :=
  ∀ e ∈ c.links, e.2.cardinality = .one → e.2.required = true → ∃ a target, Leads db.graph e.2 v a target

/-- The names that the statement of a look-up within a tenant generates. -/
def lookupNames : List String := [c.node, tenantVar] ++ c.links.flatMap (fun e => c.linkNames e.1 e.2)

/-! ## Rows that include a vertex -/

/-- Rows that hold some variables and a vertex each, of which one is the given vertex. -/
structure Includes (x : Context) (scope : List String) (v : Vertex) (rows : List Env) : Prop where
  vars : ∀ env ∈ rows, env.vars = scope
  vertex : ∀ env ∈ rows, ∃ u ∈ x.db.graph.vertices, env.lookup c.node = some (.vertex u.id)
  found : ∃ env ∈ rows, env.lookup c.node = some (.vertex v.id)

section Step

variable {scope bound : List String} {v : Vertex} {rows : List Env} {name : String} {r : Relationship}

/-- The row that the aggregation of a traversal makes of a group of rows. -/
def traversed (x : Context) (bound : List String) (name : String) (r : Relationship) (group : List Env) : Env :=
  (bound.map Column.ofVar ++ c.gathered name r).map (Column.bind (x.over group) (group.headD []))

theorem vars_traversed (group : List Env) : (c.traversed x bound name r group).vars = bound ++ c.boundBy name r := by
  have hnames : (c.traversed x bound name r group).vars =
      (bound.map Column.ofVar ++ c.gathered name r).map Column.name := by
    rw [traversed, Env.vars, List.map_map]
    rfl
  rw [hnames, List.map_append, names_ofVar, c.names_gathered]

theorem lookup_node_traversed (hnode : c.node ∈ bound) {group : List Env} {first : Env}
    (hfirst : group.head? = some first) :
    (c.traversed x bound name r group).lookup c.node = some (first.read c.node) := by
  rw [traversed, List.map_append, bind_ofVar, List.lookup_append, lookup_carry hnode, Option.some_or,
    List.headD_eq_head?_getD, hfirst, Option.getD_some]

/-- The match of a traversal and its aggregation. -/
theorem rows_traversal (w : Window) (h : c.Includes x scope v rows) (hbound : bound ≠ [])
    (hnew : ∀ n ∈ c.stepNames name r, n ∉ scope) :
    rowsThrough x w [c.traversalMatch name r, c.traversalWith bound name r] rows =
      some ((grouped (alikeAll x.db) (fun row => bound.map row.read) (rows.flatMap (fun env =>
        (outcomes x.db.graph r (c.entityId env)).map (fun o => env ++ c.found name r o)))).map
          (fun e => c.traversed x bound name r e.2)) := by
  rw [rowsThrough, c.rows_traversalMatch w h.vertex (fun env henv => h.vars env henv ▸ hnew), Option.bind_some,
    rowsThrough, c.rows_traversalWith_groups x w hbound]
  rfl

/-- A traversal keeps a vertex that has the edge if one is required. -/
theorem Includes.step (w : Window) (h : c.Includes x scope v rows) (hnode : c.node ∈ bound) (hbound : bound ⊆ scope)
    (hnew : ∀ n ∈ c.stepNames name r, n ∉ scope) (hrequired : r.isOptional = false → linked x.db.graph r v.id ≠ []) :
    ∃ rows', rowsThrough x w [c.traversalMatch name r, c.traversalWith bound name r] rows = some rows' ∧
      c.Includes x (bound ++ c.boundBy name r) v rows' := by
  let matched := rows.flatMap (fun env =>
    (outcomes x.db.graph r (c.entityId env)).map (fun o => env ++ c.found name r o))
  have hread {env : Env} (henv : env ∈ rows) {id : Nat} (hlookup : env.lookup c.node = some (.vertex id)) (env' : Env) :
      Env.read (env ++ env') c.node = .vertex id := by
    rw [Env.read_append_of_mem (h.vars env henv ▸ hbound hnode), Env.read_of_lookup hlookup]
  have hmatched : ∀ row ∈ matched, ∃ u ∈ x.db.graph.vertices, row.read c.node = .vertex u.id := by
    intro row hrow
    obtain ⟨env, henv, hrow⟩ := List.mem_flatMap.1 hrow
    obtain ⟨o, -, rfl⟩ := List.mem_map.1 hrow
    obtain ⟨u, hu, hlookup⟩ := h.vertex env henv
    exact ⟨u, hu, hread henv hlookup _⟩
  refine ⟨_, c.rows_traversal w h (List.ne_nil_of_mem hnode) hnew, ?_, ?_, ?_⟩
  · intro row hrow
    obtain ⟨e, -, rfl⟩ := List.mem_map.1 hrow
    exact c.vars_traversed e.2
  · intro row hrow
    obtain ⟨e, he, rfl⟩ := List.mem_map.1 hrow
    obtain ⟨first, hhead, hfirst, -⟩ := head?_of_mem_grouped _ _ matched e he
    obtain ⟨u, hu, hvertex⟩ := hmatched first hfirst
    exact ⟨u, hu, by rw [c.lookup_node_traversed hnode hhead, hvertex]⟩
  · obtain ⟨env, henv, hlookup⟩ := h.found
    have hsome : outcomes x.db.graph r (c.entityId env) ≠ [] := by
      rw [c.entityId_eq hlookup]
      exact outcomes_ne_nil hrequired
    obtain ⟨o, ho⟩ := List.exists_mem_of_ne_nil _ hsome
    have hrow : env ++ c.found name r o ∈ matched :=
      List.mem_flatMap.2 ⟨env, henv, List.mem_map_of_mem ho⟩
    -- The first row of the group need not be one of the vertex's own rows, but it is alike on the vertex.
    obtain ⟨e, he, first, hfirst, hhead, hsame⟩ :=
      exists_group (fun row : Env => bound.map row.read) (alikeAll_refl x.db _) hrow
    obtain ⟨u, hu, hvertex⟩ := hmatched first hfirst
    have halike := alike_of_alikeAll hsame hnode
    rw [hvertex, hread henv hlookup] at halike
    refine ⟨_, List.mem_map_of_mem he, ?_⟩
    rw [c.lookup_node_traversed hnode hhead, hvertex, x.db.alike_vertex _ _ halike]

end Step

/-- Traversals keep a vertex that has the edges that are required. -/
theorem rows_traversals_ne_nil (w : Window) {links : List (String × Relationship)} {scope bound : List String}
    {v : Vertex} {rows : List Env} (h : c.Includes x scope v rows) (hnode : c.node ∈ bound) (hbound : bound ⊆ scope)
    (hfresh : ∀ n ∈ links.flatMap (fun e => c.linkNames e.1 e.2), n ∉ scope)
    (hnodup : (links.flatMap (fun e => c.linkNames e.1 e.2)).Nodup)
    (hrequired : ∀ e ∈ links, e.2.isOptional = false → linked x.db.graph e.2 v.id ≠ []) :
    ∃ rows', rowsThrough x w (c.traversals bound links) rows = some rows' ∧ rows' ≠ [] := by
  induction links generalizing scope bound rows with
  | nil =>
    obtain ⟨env, henv, -⟩ := h.found
    exact ⟨rows, rfl, List.ne_nil_of_mem henv⟩
  | cons e rest ih =>
    obtain ⟨name, r⟩ := e
    rw [List.flatMap_cons] at hfresh hnodup
    rw [List.forall_mem_append] at hfresh
    rw [List.forall_mem_cons] at hrequired
    obtain ⟨rows₁, hrows₁, hincludes⟩ := Includes.step c w h hnode hbound
      (fun n hn => hfresh.1 n (c.stepNames_subset name r n hn)) hrequired.1
    have hrest : ∀ n ∈ rest.flatMap (fun e => c.linkNames e.1 e.2), n ∉ bound ++ c.boundBy name r := by
      intro n hn hmem
      rcases List.mem_append.1 hmem with hmem | hmem
      · exact hfresh.2 n hn (hbound hmem)
      · exact (List.nodup_append'.1 hnodup).2.2 ((c.boundBy_sublist name r).subset hmem) hn
    obtain ⟨rows₂, hrows₂, hsome⟩ := ih hincludes (List.mem_append_left _ hnode) (List.Subset.refl _) hrest
      (List.nodup_append'.1 hnodup).2.1 hrequired.2
    refine ⟨rows₂, ?_, hsome⟩
    have hsplit : c.traversals bound ((name, r) :: rest) =
        [c.traversalMatch name r, c.traversalWith bound name r] ++
          c.traversals (bound ++ c.boundBy name r) rest := rfl
    rw [hsplit, rowsThrough_append, hrows₁, Option.bind_some, hrows₂]

/-! ## The opening -/

theorem mem_paths_tenant {company : String} (hcompany : x.param companyParam = .text company) {env : Env} :
    env ∈ (Pattern.node c.tenantNode).paths x [] ↔
      ∃ t ∈ x.db.graph.vertices, c.IsTenant x.db company t ∧ env = [(tenantVar, .vertex t.id)] := by
  rw [Pattern.paths_node, List.mem_flatMap]
  refine exists_congr fun t => and_congr_right fun _ => ?_
  rw [tenantNode, Node.accept_withProp x (rfl : ([] : Env).lookup tenantVar = none), hcompany, IsTenant]
  split <;> simp_all

/-- The rows of the opening: a tenant with the id, and a vertex with a membership arc to it. -/
theorem mem_paths_opening (hnames : c.node ≠ tenantVar) {company : String}
    (hcompany : x.param companyParam = .text company) {env : Env} :
    env ∈ ((Pattern.node c.tenantNode).paths x []).flatMap
        ((c.membership (.labeled c.node c.label) (.bound tenantVar)).paths x) ↔
      ∃ t ∈ x.db.graph.vertices, c.IsTenant x.db company t ∧ ∃ u ∈ x.db.graph.vertices, c.label ∈ u.labels ∧
        (∃ p ∈ x.db.graph.reached c.settings.membershipEdge .outgoing u.id, t.id = p.2.id) ∧
          env = [(tenantVar, .vertex t.id), (c.node, .vertex u.id)] := by
  have hmembership (t : Vertex) :
      env ∈ (c.membership (.labeled c.node c.label) (.bound tenantVar)).paths x [(tenantVar, .vertex t.id)] ↔
        ∃ u ∈ x.db.graph.vertices, c.label ∈ u.labels ∧
          (∃ p ∈ x.db.graph.reached c.settings.membershipEdge .outgoing u.id, t.id = p.2.id) ∧
            env = [(tenantVar, .vertex t.id), (c.node, .vertex u.id)] := by
    rw [c.paths_labeled_membership hnames t, List.mem_flatMap]
    refine exists_congr fun u => and_congr_right fun _ => ?_
    split
    · rename_i hlabel
      simp only [List.mem_flatMap, hlabel, true_and]
      constructor
      · rintro ⟨p, hp, hrow⟩
        split at hrow
        · rename_i heq
          exact ⟨⟨p, hp, heq⟩, List.mem_singleton.1 hrow⟩
        · cases hrow
      · rintro ⟨⟨p, hp, heq⟩, rfl⟩
        exact ⟨p, hp, by rw [if_pos heq]; exact List.mem_singleton_self _⟩
    · rename_i hlabel
      simp [hlabel]
  rw [List.mem_flatMap]
  constructor
  · rintro ⟨start, hstart, henv⟩
    obtain ⟨t, ht, htenant, rfl⟩ := (c.mem_paths_tenant hcompany).1 hstart
    exact ⟨t, ht, htenant, (hmembership t).1 henv⟩
  · rintro ⟨t, ht, htenant, henv⟩
    exact ⟨_, (c.mem_paths_tenant hcompany).2 ⟨t, ht, htenant, rfl⟩, (hmembership t).2 henv⟩

/-- The test on the id in a row with a vertex. -/
theorem truth_idTest {id : String} (hid : x.param searchParam = .text id) {env : Env} {v : Vertex}
    (hv : v ∈ x.db.graph.vertices) (hlookup : env.lookup c.node = some (.vertex v.id)) :
    c.idTest.truth x env = some true ↔ x.db.equal (v.prop "id") (.text id) = some true := by
  rw [idTest, Predicate.truth, Expr.value, Expr.value, Env.read_of_lookup hlookup, x.db.graph.property_vertex hv, hid]

/-- The opening finds an entity of the tenant that has the id. -/
theorem includes_opening (w : Window) (hnames : c.node ≠ tenantVar) {company id : String}
    (hcompany : x.param companyParam = .text company) (hid : x.param searchParam = .text id) {v : Vertex}
    (hv : c.HasId x.db id v) {a : Arc} {tenant : Vertex} (hbelongs : c.Belongs x.db company v a tenant) :
    ∃ rows, rowsThrough x w (c.openingInit true .label ++ [(c.openingLast true .label).guarded c.idTest]) [[]] =
      some rows ∧ c.Includes x [tenantVar, c.node] v rows := by
  have hopening : rowsThrough x w (c.openingInit true .label ++ [c.openingLast true .label]) [[]] =
      some (((Pattern.node c.tenantNode).paths x []).flatMap
        ((c.membership (.labeled c.node c.label) (.bound tenantVar)).paths x)) := by
    simp only [openingInit, openingLast, if_true, List.singleton_append, rowsThrough, Clause.rows_matching,
      Option.bind_some, List.flatMap_singleton]
  have hlookup (t u : Vertex) :
      List.lookup c.node [(tenantVar, Val.vertex t.id), (c.node, .vertex u.id)] = some (.vertex u.id) := by
    simp [Entries.lookup_cons_eq, hnames]
  refine ⟨_, rowsThrough_guardedBy x w (c.selects_openingLast true .label) [c.idTest] hopening, ?_, ?_, ?_⟩
  · intro env henv
    obtain ⟨t, -, -, u, -, -, -, rfl⟩ := (c.mem_paths_opening hnames hcompany).1 (List.mem_filter.1 henv).1
    rfl
  · intro env henv
    obtain ⟨t, -, -, u, hu, -, -, rfl⟩ := (c.mem_paths_opening hnames hcompany).1 (List.mem_filter.1 henv).1
    exact ⟨u, hu, hlookup t u⟩
  · refine ⟨[(tenantVar, .vertex tenant.id), (c.node, .vertex v.id)], List.mem_filter.2 ⟨?_, ?_⟩, hlookup tenant v⟩
    · obtain ⟨hreached, htenant⟩ := c.mem_reached_membership (p := (a, tenant)).2 hbelongs
      exact (c.mem_paths_opening hnames hcompany).2
        ⟨tenant, hbelongs.vertex, htenant, v, hv.vertex, hv.label, ⟨_, hreached, rfl⟩, rfl⟩
    · simpa using (c.truth_idTest hid hv.vertex (hlookup tenant v)).2 hv.id

/-! ## The rows of a look-up -/

theorem param_searchParam {s : Statement} {params : Params} {id : String}
    (h : s.params = params.insert searchParam (.str id)) (db : Database) : (s.context db .all).param searchParam = .text id := by
  have hget : (s.render .all).params.get? searchParam = some (.str id) := by
    rw [Statement.get?_render (by decide) (by decide), h, Dict.get?_insert, if_pos rfl]
  rw [Context.param_of_get? _ hget, Val.ofJson_str]

/-- A look-up shows an entity of the tenant that has the id and every required edge. -/
theorem rows_findById_ne_nil {caller : Caller} {company id : String} {s : Statement} {db : Database}
    (h : c.findById caller id = .ok s) (hscope : c.scope caller = .ok (some company))
    (hcustom : c.descriptor.returnClause = none) (hnames : c.lookupNames.Nodup) {v : Vertex} (hv : c.HasId db id v)
    {a : Arc} {tenant : Vertex} (hbelongs : c.Belongs db company v a tenant) (hedges : c.HasRequiredEdges db v) :
    ∃ rows, s.rows db .all = some rows ∧ rows ≠ [] := by
  obtain ⟨scope, hscope', hs⟩ := c.findById_outline h
  obtain rfl : scope = some company := Except.ok.inj (hscope'.symm.trans hscope)
  have hparams : s.params = (withScope (some company) ∅).insert searchParam (.str id) := by rw [hs]
  have hcompany : (s.context db .all).param companyParam = .text company := by
    have hget : (s.render .all).params.get? companyParam = some (.str company) := by
      rw [Statement.get?_render (by decide) (by decide), hparams, Dict.get?_insert, if_neg (by decide), get?_withScope]
    rw [Context.param_of_get? _ hget, Val.ofJson_str]
  have hdistinct := List.nodup_append'.1 hnames
  have htenant : c.node ≠ tenantVar := by simpa using hdistinct.1
  obtain ⟨opened, hopened, hincludes⟩ := c.includes_opening (x := s.context db .all) .all htenant hcompany
    (param_searchParam hparams db) hv hbelongs
  have hfresh : ∀ n ∈ c.links.flatMap (fun e => c.linkNames e.1 e.2), n ∉ [tenantVar, c.node] := by
    intro n hn hmem
    exact hdistinct.2.2 (by simpa [or_comm] using hmem) hn
  have hrequired : ∀ e ∈ c.links, e.2.isOptional = false → linked db.graph e.2 v.id ≠ [] := by
    intro e he hmandatory
    rw [linked_ne_nil_iff]
    cases hcard : e.2.cardinality <;> cases hreq : e.2.required <;>
      simp [Relationship.isOptional, hcard, hreq] at hmandatory
    exact hedges e he hcard hreq
  obtain ⟨rows, hrows, hsome⟩ := c.rows_traversals_ne_nil .all hincludes (List.mem_singleton_self c.node)
    (by simp) hfresh hdistinct.2.1 hrequired
  have hclauses : s.clauses = (c.openingInit true .label ++ [(c.openingLast true .label).guarded c.idTest]) ++
      (c.traversals [c.node] c.links ++ [c.finish [c.node] []]) := by
    rw [hs]
    simp [tail]
  have hrun : s.rows db .all =
      some (rows.map (fun row => c.resultColumns.map (Column.bind (s.context db .all) row))) := by
    show rowsThrough (s.context db .all) .all s.clauses [[]] = _
    rw [hclauses, rowsThrough_append, hopened, Option.bind_some, rowsThrough_append, hrows, Option.bind_some,
      rowsThrough, c.rows_finish _ _ hcustom, sorted_nil, List.map_map]
    rfl
  refine ⟨_, hrun, fun hnil => hsome (List.map_eq_nil_iff.1 hnil)⟩

/-- Whether there are rows with a vertex each, by a count of the vertices. -/
theorem rows_exists (x : Context) (w : Window) (hdb : x.db.ComparesInts) {node : String} {rows : List Env}
    (hvertex : ∀ env ∈ rows, ∃ id, env.lookup node = some (.vertex id)) :
    (Clause.returning [.expr (.truth (.gt (.apply "count" [.var node]) (.int 0))) "exists"] false []).rows x w rows =
      some [[("exists", .bool (decide (rows ≠ [])))]] := by
  have hcount : isAggregate "count" = true := by decide
  have hcollect : ¬"count" = "collect" := by decide
  have hvalues : rows.flatMap (fun row => [Env.read row node]) = rows.map (Env.read · node) :=
    List.map_eq_flatMap.symm
  have hpresent := Env.present_vertices hvertex
  have hgreater : x.db.greater (.int rows.length) (.int 0) = some (decide (rows ≠ [])) := by
    rw [hdb]
    simp [List.length_pos_iff]
  simp [Clause.rows, sorted_nil, project, groupsOf, Column.aggregates, Column.bind, Column.name, Column.value,
    Expr.apply, Expr.aggregates, anyAggregates, Predicate.aggregates, Predicate.truth, Expr.value, exprValues, hcount,
    hcollect, Context.aggregate, Context.over, hvalues, hpresent, hgreater, ofTruth]

/-- The look at existence has one row, which says whether a vertex has the id. -/
theorem rows_existsUnscoped {id : String} {s : Statement} {db : Database} (h : c.existsUnscoped id = .ok s)
    (hdb : db.ComparesInts) :
    ∃ b, s.rows db .all = some [[("exists", .bool b)]] ∧ (b = true ↔ ∃ v, c.HasId db id v) := by
  have hs := c.existsUnscoped_outline h
  have hid := param_searchParam (by rw [hs] : s.params = (∅ : Params).insert searchParam (.str id)) db
  let x := s.context db .all
  obtain ⟨labeled, hlabeled, hfinds⟩ := c.rows_labeled (x := x) .all
  let found := labeled.filter (fun env => c.idTest.truth x env = some true)
  have hfound : Finds db.graph c.node [c.node]
      (fun v => c.label ∈ v.labels ∧ db.equal (v.prop "id") (.text id) = some true) found :=
    hfinds.filter fun env henv v hv hlookup => by
      rw [decide_eq_true_iff]
      exact c.truth_idTest hid hv hlookup
  have hmatch :
      ((Clause.matching (.node (.labeled c.node c.label))).guarded c.idTest).rows x .all [[]] = some found := by
    rw [Clause.rows_guarded x .all rfl, hlabeled]
    rfl
  refine ⟨decide (found ≠ []), ?_, ?_⟩
  · show rowsThrough x .all s.clauses [[]] = _
    rw [hs, rowsThrough, hmatch, Option.bind_some, rowsThrough, rows_exists x .all hdb hfound.exists_id]
    rfl
  · rw [decide_eq_true_iff]
    constructor
    · intro hsome
      obtain ⟨env, henv⟩ := List.exists_mem_of_ne_nil _ hsome
      obtain ⟨v, hv, -, hlabel, hequal⟩ := hfound.sound env henv
      exact ⟨v, hv, hlabel, hequal⟩
    · rintro ⟨v, hv⟩
      obtain ⟨env, henv, -⟩ := hfound.complete v hv.vertex ⟨hv.label, hv.id⟩
      exact List.ne_nil_of_mem henv

end EntityGraph.Compile.Compiler
