import EntityGraph.Proofs.Listing.Lookups
import EntityGraph.Proofs.Writing.Results

/-!
# Writes that find nothing

Behind the opening of an update or a deletion, each clause makes one row of each row. So there are no rows in the end
only if the opening has found none, and then nothing was done: the tenant has no entity with the id, and the graph is
what it was.
-/
namespace EntityGraph.Graph

theorem PropertyGraph.eq_of_lists_eq {g g' : PropertyGraph} (hvertices : g'.vertices = g.vertices)
    (harcs : g'.arcs = g.arcs) : g' = g := by
  cases g
  cases g'
  cases hvertices
  cases harcs
  rfl

/-- A deletion of nothing. -/
theorem PropertyGraph.delete?_nil (g : PropertyGraph) (detach : Bool) : g.delete? [] [] detach = some g := by
  rw [delete?, dif_pos fun a _ => ⟨List.not_mem_nil, List.not_mem_nil⟩]
  refine congrArg some (eq_of_lists_eq ?_ ?_) <;> simp

theorem length_eachRow {step : PropertyGraph → Env → Option (PropertyGraph × List Env)}
    (hstep : ∀ g env s, step g env = some s → s.2.length = 1) {g : PropertyGraph} {rows : List Env}
    {s : PropertyGraph × List Env} (h : eachRow step g rows = some s) : s.2.length = rows.length := by
  induction rows generalizing g s with
  | nil =>
    cases h
    rfl
  | cons env rest ih =>
    obtain ⟨made, hmade, h⟩ := Option.bind_eq_some_iff.1 h
    obtain ⟨others, hothers, h⟩ := Option.bind_eq_some_iff.1 h
    cases h
    rw [List.length_append, hstep g env made hmade, ih hothers, List.length_cons, Nat.add_comm]

end EntityGraph.Graph

namespace EntityGraph.Cypher

open EntityGraph.Graph

/-- A clause that makes one row of each row and does nothing without rows. -/
structure Clause.RowByRow (k : Clause) : Prop where
  length : ∀ {x g rows s}, k.run x g rows = some s → s.2.length = rows.length
  nothing : ∀ {x g s}, k.run x g [] = some s → s.1 = g

namespace Clause.RowByRow

/-- A clause that runs a step for each row, which hands the row on. -/
theorem of_eachRow {k : Clause} (step : Context → PropertyGraph → Env → Option (PropertyGraph × List Env))
    (hrun : ∀ x g rows, k.run x g rows = eachRow (step x) g rows)
    (hstep : ∀ x g env s, step x g env = some s → s.2 = [env]) : k.RowByRow where
  length := by
    intro x g rows s h
    rw [hrun] at h
    exact length_eachRow (fun g env s hs => by rw [hstep x g env s hs, List.length_singleton]) h
  nothing := by
    intro x g s h
    rw [hrun] at h
    cases h
    rfl

theorem set (items : List Assignment) : (Clause.set items).RowByRow := by
  refine of_eachRow (fun x => setRow x items) (fun x g rows => by rw [Clause.run]) fun x g env s hs => ?_
  obtain ⟨_, -, rfl⟩ := Option.map_eq_some_iff.1 hs
  rfl

theorem subquery (imports : List String) (body : List Clause) : (Clause.subquery imports body).RowByRow := by
  refine of_eachRow (fun x g env => (runThrough x body g [env.only imports]).map (fun s => (s.1, [env])))
    (fun x g rows => by rw [Clause.run]) fun x g env s hs => ?_
  obtain ⟨_, -, rfl⟩ := Option.map_eq_some_iff.1 hs
  rfl

theorem delete (vars : List String) (detach : Bool) : (Clause.delete vars detach).RowByRow where
  length := by
    intro x g rows s h
    rw [Clause.run, deleteAll] at h
    split at h
    · obtain ⟨_, -, rfl⟩ := Option.map_eq_some_iff.1 h
      rfl
    · cases h
  nothing := by
    intro x g s h
    rw [Clause.run, deleteAll, List.flatMap_nil, List.all_nil, if_pos rfl, List.filterMap_nil, List.filterMap_nil,
      g.delete?_nil] at h
    cases h
    rfl

/-- A clause that reads and makes one row of each row. -/
theorem of_reads {k : Clause} (hrun : ∀ x g rows, k.run x g rows = k.reads x g rows)
    (hlength : ∀ x rows rows', k.rows x .all rows = some rows' → rows'.length = rows.length) : k.RowByRow where
  length := by
    intro x g rows s h
    rw [hrun] at h
    obtain ⟨rows', hrows, rfl⟩ := Option.map_eq_some_iff.1 h
    exact hlength _ rows rows' hrows
  nothing := by
    intro x g s h
    rw [hrun] at h
    obtain ⟨_, -, rfl⟩ := Option.map_eq_some_iff.1 h
    rfl

theorem length_sorted_project (x : Context) {columns : List Column} (h : columns.any Column.aggregates = false)
    (order : List SortKey) (rows : List Env) :
    (sorted x order (project x columns false rows)).length = rows.length := by
  rw [(sorted_perm x order _).length_eq, project_plain x h, List.length_map, List.length_map]

theorem returning {columns : List Column} (h : columns.any Column.aggregates = false) (order : List SortKey) :
    (Clause.returning columns false order).RowByRow := by
  refine of_reads (fun x g rows => by rw [Clause.run]) fun x rows rows' hrows => ?_
  rw [Clause.rows] at hrows
  cases hrows
  exact length_sorted_project x h order rows

theorem projection {columns : List Column} (h : columns.any Column.aggregates = false) (order : List SortKey) :
    (Clause.projection columns false none order false).RowByRow := by
  refine of_reads (fun x g rows => by rw [Clause.run]) fun x rows rows' hrows => ?_
  rw [Clause.rows] at hrows
  cases hrows
  rw [filter_keeps_none]
  exact length_sorted_project x h order rows

end Clause.RowByRow

/-- Clauses that work row by row end without rows only if they began without any, and then did nothing. -/
theorem eq_nil_of_runThrough {x : Context} {ks : List Clause} (h : ∀ k ∈ ks, k.RowByRow) {g g' : PropertyGraph}
    {rows : List Env} (hrun : runThrough x ks g rows = some (g', [])) : rows = [] ∧ g' = g := by
  induction ks generalizing g rows with
  | nil =>
    cases hrun
    exact ⟨rfl, rfl⟩
  | cons k rest ih =>
    rw [List.forall_mem_cons] at h
    rw [runThrough] at hrun
    obtain ⟨⟨g₁, rows₁⟩, hk, hrest⟩ := Option.bind_eq_some_iff.1 hrun
    obtain ⟨rfl, rfl⟩ := ih h.2 hrest
    obtain rfl : rows = [] := List.length_eq_zero_iff.1 (h.1.length hk).symm
    exact ⟨rfl, h.1.nothing hk⟩

end EntityGraph.Cypher

namespace EntityGraph.Compile.Compiler

open Cypher EntityGraph.Graph

variable (c : Compiler) {db : Database} {company id : String}

/-! ## The opening -/

/-- The opening of an update or a deletion has a row for each membership arc between an entity with the id and the
tenant. -/
theorem mem_paths_owned {x : Context} (hnames : c.node ≠ tenantVar) (hid : x.param "id" = .text id)
    (hcompany : x.param companyParam = .text company) {v : Vertex} (hv : c.HasId x.db id v) {a : Arc} {tenant : Vertex}
    (hbelongs : c.Belongs x.db company v a tenant) :
    [(c.node, .vertex v.id), (tenantVar, .vertex tenant.id)] ∈ (c.membership c.nodeById c.tenantNode).paths x [] := by
  obtain ⟨hreached, htenant⟩ := c.mem_reached_membership (p := (a, tenant)).2 hbelongs
  have hfresh : List.lookup tenantVar [(c.node, Val.vertex v.id)] = none := by
    simp [Entries.lookup_cons_eq, hnames.symm]
  have hstart : c.nodeById.accept x [] v = some [(c.node, .vertex v.id)] := by
    rw [nodeById, Node.accept_withProp x (rfl : ([] : Env).lookup c.node = none), hid, if_pos ⟨hv.label, hv.id⟩]
    rfl
  have hend : c.tenantNode.accept x [(c.node, .vertex v.id)] tenant =
      some [(c.node, .vertex v.id), (tenantVar, .vertex tenant.id)] := by
    rw [tenantNode, Node.accept_withProp x hfresh, hcompany]
    exact if_pos htenant
  rw [membership, Pattern.paths_hop, List.mem_flatMap]
  refine ⟨v, hv.vertex, ?_⟩
  rw [hstart, Option.toList_some, List.flatMap_singleton, List.mem_flatMap]
  refine ⟨(a, tenant), hreached, ?_⟩
  rw [Env.bind?, Option.bind_some, hend]
  exact List.mem_singleton_self _

/-- An update or a deletion within a tenant that returns no rows has changed nothing, and the tenant has no entity with
the id. -/
theorem not_belongs_of_run {s : Statement} {rest : List Clause}
    (hclauses : s.clauses = c.writeOpening .put true ++ rest)
    (hrest : ∀ k ∈ rest, k.RowByRow) (hid : s.params.get? "id" = some (.str id))
    (hcompany : s.params.get? companyParam = some (.str company)) (hnames : c.node ≠ tenantVar) {g : PropertyGraph}
    (hrun : s.run db = some (g, [])) :
    g = db.graph ∧ ∀ v, c.HasId db id v → ∀ a tenant, ¬c.Belongs db company v a tenant := by
  let x : Context := ⟨db, s.params, []⟩
  have hopening : runThrough x (c.writeOpening .put true) db.graph [[]] =
      some (db.graph, (c.membership c.nodeById c.tenantNode).paths x []) := by
    show runThrough x [.matching (c.membership c.nodeById c.tenantNode)] db.graph [[]] = _
    rw [runThrough, Clause.run_matching, Option.bind_some, List.flatMap_singleton]
    rfl
  rw [s.run_eq, hclauses, runThrough_append, hopening, Option.bind_some] at hrun
  obtain ⟨hnone, hgraph⟩ := eq_nil_of_runThrough hrest hrun
  refine ⟨hgraph, fun v hv a tenant hbelongs => ?_⟩
  have hmem := c.mem_paths_owned (x := x) hnames (by rw [x.param_of_get? hid, Val.ofJson_str])
    (by rw [x.param_of_get? hcompany, Val.ofJson_str]) hv hbelongs
  exact List.ne_nil_of_mem hmem hnone

/-! ## Updates and deletions -/

/-- What follows the opening of a write works row by row. -/
theorem rowByRow_writeClauses (mode : WriteMode) (tied : Bool) (input : Input) (links : List Links)
    (updates : List EdgeUpdate) :
    ∃ rest, c.writeClauses mode tied input links updates = c.writeOpening mode tied ++ rest ∧
      ∀ k ∈ rest, k.RowByRow := by
  refine ⟨_, rfl, ?_⟩
  refine List.forall_mem_cons.2 ⟨.set _, List.forall_mem_append.2 ⟨List.forall_mem_append.2 ⟨?_, ?_⟩, ?_⟩⟩
  · intro k hk
    obtain ⟨l, -, hk⟩ := List.mem_flatMap.1 hk
    obtain ⟨body, rfl⟩ := c.subquery_of_mem_linkClauses hk
    exact .subquery _ body
  · intro k hk
    obtain ⟨u, -, rfl⟩ := List.mem_map.1 hk
    exact .subquery _ _
  · intro k hk
    rw [List.mem_singleton.1 hk]
    exact .returning rfl []

theorem not_belongs_of_write {caller : Caller} {input : Input} {mode : WriteMode} {plan : WritePlan}
    (h : c.write caller input mode = .ok plan) (hmode : mode ≠ .create) (hscope : c.scope caller = .ok (some company))
    (hnames : c.node ≠ tenantVar) {g : PropertyGraph} (hrun : plan.write.run db = some (g, [])) :
    g = db.graph ∧ ∀ v, c.HasId db plan.id v → ∀ a tenant, ¬c.Belongs db company v a tenant := by
  have hwriteScope : c.writeScope mode caller = .ok (some company) := by
    cases mode with
    | create => exact absurd rfl hmode
    | put => exact hscope
    | patch => exact hscope
  obtain ⟨scope, links, updates, hscope', -, -, -, -, hwrite⟩ := c.write_outline h
  obtain rfl : scope = some company := Except.ok.inj (hscope'.symm.trans hwriteScope)
  obtain ⟨rest, hclauses, hrest⟩ := c.rowByRow_writeClauses mode true input links updates
  rw [c.writeOpening_eq_put hmode] at hclauses
  exact c.not_belongs_of_run (by rw [hwrite]; exact hclauses) hrest (c.get?_id_of_write h)
    (c.get?_company_of_write h hwriteScope) hnames hrun

theorem not_belongs_of_delete {caller : Caller} {s : Statement} (h : c.delete caller id = .ok s)
    (hscope : c.scope caller = .ok (some company)) (hnames : c.node ≠ tenantVar) {g : PropertyGraph}
    (hrun : s.run db = some (g, [])) :
    g = db.graph ∧ ∀ v, c.HasId db id v → ∀ a tenant, ¬c.Belongs db company v a tenant := by
  obtain ⟨scope, hscope', hs⟩ := c.delete_outline h
  obtain rfl : scope = some company := Except.ok.inj (hscope'.symm.trans hscope)
  have hrest : ∀ k ∈ [Clause.projection [.ofVar c.node, .expr (.prop c.node "id") "deletedId"] false none [] false,
      .delete [c.node] true, .returning [.var "deletedId" (some "id")] false []], k.RowByRow := by
    simp only [List.forall_mem_cons]
    exact ⟨.projection rfl [], .delete _ true, .returning rfl [], by simp⟩
  refine c.not_belongs_of_run (by rw [hs]; rfl) hrest ?_ (by rw [hs]; exact get?_withScope company _) hnames hrun
  rw [hs]
  exact (get?_withScope_of_ne (by decide) _ _).trans ((Dict.get?_insert _ _ _ _).trans (if_pos rfl))

end EntityGraph.Compile.Compiler
