import EntityGraph.Proofs.Writing.Basic

/-!
# What the subqueries of a write do to links

Seen from a vertex, the subquery for stale edges drops the links to targets that are not listed, the one that merges
adds a link to each listed target that has none, and the one for changes of edges changes properties only. All three
leave the vertices alone and all arcs that are not links of their relationship.
-/
namespace EntityGraph.Compile.Compiler

open Cypher EntityGraph.Graph PropertyGraph
open Schema (Relationship)

variable (c : Compiler) (x : Context) {g : PropertyGraph} {n : Vertex} {name : String} {r : Relationship}

/-- The variables that the subquery for stale links introduces. -/
def staleVars (name : String) : List String := [name ++ "_stale", name ++ "_existing"]

/-- The variables that the subqueries introduce that merge or change links. -/
def mergeVars (name : String) : List String := [name ++ "_id", name ++ "_target", name ++ "_edge"]

/-! ## Stale links -/

/-- A link to an existing target. -/
def staleLink (name : String) (r : Relationship) : Pattern :=
  c.relationshipPattern (some (name ++ "_stale")) r (.labeled (name ++ "_existing") r.target)

/-- The test for existing targets that are not listed. -/
def unlisted (name : String) : Predicate := .not (.isIn (.prop (name ++ "_existing") "id") (.param name))

/-- The row of a link to an existing target. -/
def staleRow (n : Vertex) (name : String) (p : Arc × Vertex) : Env :=
  [(c.node, .vertex n.id), (name ++ "_stale", .arc p.1.id), (name ++ "_existing", .vertex p.2.id)]

/-- The links to existing targets that are not listed. -/
def staleLinks (g : PropertyGraph) (n : Vertex) (name : String) (r : Relationship) : List (Arc × Vertex) :=
  (linked g r n.id).filter (fun p => keeps (x.seeing g) (some (unlisted name)) (c.staleRow n name p))

section Stale

variable (hnames : c.node ∉ staleVars name)

theorem ne_staleVars (hnames : c.node ∉ staleVars name) : c.node ≠ name ++ "_stale" ∧ c.node ≠ name ++ "_existing" := by
  simpa [staleVars] using hnames

include hnames

theorem paths_stale (hn : n ∈ g.vertices) :
    (c.staleLink name r).paths (x.seeing g) [(c.node, .vertex n.id)] =
      (linked g r n.id).map (c.staleRow n name) := by
  obtain ⟨hstale, hexisting⟩ := c.ne_staleVars hnames
  have hfresh : ([(c.node, .vertex n.id)] : Env).lookup (name ++ "_stale") = none := by
    simp [Entries.lookup_cons_eq, Ne.symm hstale]
  have hfresh' (a : Arc) : ([(c.node, .vertex n.id), (name ++ "_stale", .arc a.id)] : Env).lookup
      (name ++ "_existing") = none := by
    simp [Entries.lookup_cons_eq, Ne.symm hexisting]
  rw [staleLink, relationshipPattern, Pattern.paths_hop_bound (x.seeing g) hn (by simp),
    ← List.filterMap_eq_flatMap_toList, linked, ← List.filterMap_eq_map, List.filterMap_filter]
  refine List.filterMap_congr fun p _ => ?_
  rw [Env.bind?_fresh hfresh, Option.bind_some, List.singleton_append, Node.accept_labeled _ (hfresh' p.1)]
  simp only [decide_eq_true_eq]
  rfl

theorem matched_stale (hn : n ∈ g.vertices) :
    matched (x.seeing g) (c.staleLink name r) (some (unlisted name)) [(c.node, .vertex n.id)] =
      (c.staleLinks x g n name r).map (c.staleRow n name) := by
  rw [matched, c.paths_stale x hnames hn, List.filter_map]
  rfl

theorem keeps_staleRow (hdb : x.db.ComparesTexts) (hids : ∀ v ∈ g.vertices, v.prop "id" ≠ .null) {ids : List String}
    (hparam : x.param name = .list (ids.map .text)) {p : Arc × Vertex} (hp : p.2 ∈ g.vertices) :
    keeps (x.seeing g) (some (unlisted name)) (c.staleRow n name p) = true ↔ p.2.prop "id" ∉ ids.map Val.text := by
  have hdifferent : name ++ "_existing" ≠ name ++ "_stale" :=
    fun h => absurd ((String.append_right_inj _).1 h) (by decide)
  have hread : (c.staleRow n name p).read (name ++ "_existing") = .vertex p.2.id := by
    simp [staleRow, Env.read, Entries.lookup_cons_eq, (c.ne_staleVars hnames).2.symm, hdifferent]
  rw [unlisted, keeps, Option.all_some, decide_eq_true_iff, Predicate.truth, Predicate.truth, Expr.value, Expr.value,
    hread, Context.seeing_param, hparam, Context.seeing_graph, g.property_vertex hp,
    ← Context.isIn_texts_eq_false_iff (x := x.seeing g) hdb (hids _ hp)]
  cases (x.seeing g).isIn (p.2.prop "id") (.list (ids.map .text)) with
  | none => simp
  | some b => cases b <;> simp

/-- The arcs of stale links are those that lead to a target that is not listed. -/
theorem mem_staleLinks_ids (hdb : x.db.ComparesTexts) (hids : ∀ v ∈ g.vertices, v.prop "id" ≠ .null)
    {ids : List String} (hparam : x.param name = .list (ids.map .text)) {a : Arc} (ha : a ∈ g.arcs) :
    a.id ∈ (c.staleLinks x g n name r).map (fun p => p.1.id) ↔
      ∃ v, (a, v) ∈ linked g r n.id ∧ ¬v.prop "id" ∈ ids.map Val.text := by
  have hstale {b : Arc} {v : Vertex} : (b, v) ∈ c.staleLinks x g n name r ↔
      (b, v) ∈ linked g r n.id ∧ v.prop "id" ∉ ids.map Val.text := by
    rw [staleLinks, List.mem_filter]
    refine and_congr_right fun hp => ?_
    exact c.keeps_staleRow x hnames hdb hids hparam (PropertyGraph.mem_linked_iff.1 hp).2.2.1
  rw [List.mem_map]
  constructor
  · rintro ⟨⟨b, v⟩, hp, hid⟩
    obtain ⟨hlinked, hv⟩ := hstale.1 hp
    obtain rfl := g.arc_eq_of_id_eq (PropertyGraph.mem_linked_iff.1 hlinked).1 ha hid
    exact ⟨v, hlinked, hv⟩
  · rintro ⟨v, hlinked, hv⟩
    exact ⟨(a, v), hstale.2 ⟨hlinked, hv⟩, rfl⟩

theorem deleteAll_staleRows (stale : List (Arc × Vertex)) :
    deleteAll [name ++ "_stale"] false g (stale.map (c.staleRow n name)) =
      (g.delete? (stale.map (fun p => p.1.id)) [] false).map (fun g => (g, stale.map (c.staleRow n name))) := by
  have hread (p : Arc × Vertex) : (c.staleRow n name p).read (name ++ "_stale") = .arc p.1.id := by
    simp [staleRow, Env.read, Entries.lookup_cons_eq, (c.ne_staleVars hnames).1.symm]
  have hvalues : (stale.map (c.staleRow n name)).flatMap (fun env => [name ++ "_stale"].map env.read) =
      stale.map (fun p => .arc p.1.id) := by
    rw [List.flatMap_map]
    simp only [List.map_cons, List.map_nil, hread]
    exact List.map_eq_flatMap.symm
  rw [deleteAll, hvalues]
  simp [List.filterMap_map, Function.comp_def, Val.arc?, Val.vertex?]

/-- The subquery for stale links drops those to targets that are not listed. -/
theorem run_staleBody (hdb : x.db.ComparesTexts) (hids : ∀ v ∈ g.vertices, v.prop "id" ≠ .null) {ids : List String}
    (hparam : x.param name = .list (ids.map .text)) (hn : n ∈ g.vertices) :
    ∃ g' rows, runThrough x (c.staleBody name r) g [[(c.node, .vertex n.id)]] = some (g', rows) ∧
      OnlyLinks [r] n.id g g' ∧ ∀ v, g'.Joins r n.id v ↔ g.Joins r n.id v ∧ v.prop "id" ∈ ids.map Val.text := by
  obtain ⟨g', hdelete, hvertices, harcs⟩ := g.delete?_arcs ((c.staleLinks x g n name r).map (fun p => p.1.id)) false
  have hmatched : (Clause.pattern (c.staleLink name r) false (some (unlisted name))).run x g [[(c.node, .vertex n.id)]] =
      some (g, (c.staleLinks x g n name r).map (c.staleRow n name)) := by
    rw [Clause.run, Clause.reads, Clause.rows]
    simp only [Bool.false_and, Bool.false_eq_true, if_false, List.flatMap_singleton, c.matched_stale x hnames hn,
      Option.map_some]
  have hdeleted : (Clause.delete [name ++ "_stale"] false).run x g
      ((c.staleLinks x g n name r).map (c.staleRow n name)) =
        some (g', (c.staleLinks x g n name r).map (c.staleRow n name)) := by
    rw [Clause.run, c.deleteAll_staleRows hnames, hdelete]
    rfl
  have hbody : c.staleBody name r =
      [.pattern (c.staleLink name r) false (some (unlisted name)), .delete [name ++ "_stale"] false] := rfl
  refine ⟨g', (c.staleLinks x g n name r).map (c.staleRow n name), ?_, joins_of_dropped hvertices harcs fun a ha => ?_⟩
  · rw [hbody, runThrough, hmatched, Option.bind_some, runThrough, hdeleted]
    rfl
  · exact c.mem_staleLinks_ids x hnames hdb hids hparam ha

end Stale

/-! ## Properties of links -/

/-- The overlay of links' properties, row by row. -/
theorem run_overlay (edge : String) (map : Expr) {rows : List Env}
    (hrows : ∀ env ∈ rows, ∃ a ∈ g.arcs, g.IsLink r n.id a ∧ env.read edge = .arc a.id) :
    ∃ g', (Clause.set [.overlay edge map]).run x g rows = some (g', rows) ∧ OnlyLinks [r] n.id g g' ∧
      g'.arcs.map Arc.bare = g.arcs.map Arc.bare := by
  rw [Clause.run]
  induction rows generalizing g with
  | nil => exact ⟨g, rfl, .refl [r] n.id g, rfl⟩
  | cons env rest ih =>
    obtain ⟨a, ha, hlink, hread⟩ := hrows env List.mem_cons_self
    let f (props : Dict Val) := overlayProps props (map.value (x.seeing g) env)
    have hstep : setRow x [.overlay edge map] g env = some (g.changeArc a.id f, [env]) := by
      simp only [setRow, List.foldlM_cons, List.foldlM_nil, Assignment.run, hread, PropertyGraph.change?]
      rfl
    have honly := onlyLinks_changeArc ha hlink f
    obtain ⟨g', hrest, honly', hbare⟩ := ih (g := g.changeArc a.id f) fun env' henv' => by
      obtain ⟨b, hb, hblink, hbread⟩ := hrows env' (List.mem_cons_of_mem _ henv')
      refine ⟨b.changed a.id f, List.mem_map_of_mem hb, ?_, ?_⟩
      · rwa [isLink_congr honly.vertices, isLink_congr_bare (b.changed_bare a.id f)]
      · rw [hbread, show (b.changed a.id f).id = b.id from congrArg Prod.fst (b.changed_bare a.id f)]
    refine ⟨g', ?_, honly.trans honly', hbare.trans (bare_changeArc a.id f)⟩
    simp only [eachRow, hstep, Option.bind_eq_bind, Option.bind_some, hrest, List.singleton_append]

/-! ## Merged links -/

/-- A target with the id that a row holds. -/
def listedTarget (name : String) (r : Relationship) : Pattern :=
  .node ((Node.labeled (name ++ "_target") r.target).withProp "id" (.var (name ++ "_id")))

/-- A link to the target that a row holds. -/
def linkToTarget (name : String) (r : Relationship) : Pattern :=
  c.relationshipPattern (some (name ++ "_edge")) r (.bound (name ++ "_target"))

/-- The row of a listed id with a target that has it. -/
def targetRow (n : Vertex) (name id : String) (v : Vertex) : Env :=
  [(c.node, .vertex n.id), (name ++ "_id", .text id), (name ++ "_target", .vertex v.id)]

/-- The row of a listed id with a target and a link to it. -/
def linkRow (n : Vertex) (name id : String) (v : Vertex) (arc : Nat) : Env :=
  c.targetRow n name id v ++ [(name ++ "_edge", .arc arc)]

section Rows

variable (hnames : c.node ∉ mergeVars name) (n : Vertex) (id : String) (v : Vertex)

theorem lookup_node_targetRow : (c.targetRow n name id v).lookup c.node = some (.vertex n.id) := by
  simp [targetRow]

variable {c}

theorem ne_mergeVars (hnames : c.node ∉ mergeVars name) :
    c.node ≠ name ++ "_id" ∧ c.node ≠ name ++ "_target" ∧ c.node ≠ name ++ "_edge" := by
  simpa [mergeVars] using hnames

include hnames

theorem lookup_target_targetRow : (c.targetRow n name id v).lookup (name ++ "_target") = some (.vertex v.id) := by
  simp [targetRow, Entries.lookup_cons_eq, Ne.symm (ne_mergeVars hnames).2.1, String.append_right_inj]

theorem lookup_edge_targetRow : (c.targetRow n name id v).lookup (name ++ "_edge") = none := by
  simp [targetRow, Entries.lookup_cons_eq, Ne.symm (ne_mergeVars hnames).2.2, String.append_right_inj]

theorem lookup_target_linkRow (arc : Nat) :
    (c.linkRow n name id v arc).lookup (name ++ "_target") = some (.vertex v.id) := by
  rw [linkRow, List.lookup_append, lookup_target_targetRow hnames, Option.some_or]

theorem read_edge_linkRow (arc : Nat) : (c.linkRow n name id v arc).read (name ++ "_edge") = .arc arc := by
  rw [Env.read, linkRow, List.lookup_append, lookup_edge_targetRow hnames, Option.none_or, List.lookup_cons_self,
    Option.getD_some]

end Rows

/-- The rows of all listed ids with their targets. -/
theorem run_listed (hdb : x.db.ComparesTexts) (hids : ∀ v ∈ g.vertices, v.prop "id" ≠ .null)
    (hnames : c.node ∉ mergeVars name) {ids : List String} (hparam : x.param name = .list (ids.map .text)) :
    ∃ rows, runThrough x [.unwind (.param name) (name ++ "_id"),
        .matching (listedTarget name r)] g [[(c.node, .vertex n.id)]] = some (g, rows) ∧
      ∀ env, env ∈ rows ↔ ∃ id ∈ ids, ∃ v ∈ g.vertices, r.target ∈ v.labels ∧ v.prop "id" = .text id ∧
        env = c.targetRow n name id v := by
  obtain ⟨hid, htarget, -⟩ := ne_mergeVars hnames
  have hdifferent : name ++ "_target" ≠ name ++ "_id" := fun h => absurd ((String.append_right_inj _).1 h) (by decide)
  have hread (id : String) :
      Env.read [(c.node, .vertex n.id), (name ++ "_id", .text id)] (name ++ "_id") = .text id := by
    simp [Env.read, Entries.lookup_cons_eq, Ne.symm hid]
  have hfresh (id : String) : ([(c.node, .vertex n.id), (name ++ "_id", .text id)] : Env).lookup (name ++ "_target") =
      none := by
    simp [Entries.lookup_cons_eq, Ne.symm htarget, hdifferent]
  have hlist : (Expr.param name).value (x.seeing g) [(c.node, .vertex n.id)] = .list (ids.map .text) := by
    rw [Expr.value, Context.seeing_param, hparam]
  obtain ⟨items, hrun, hitems⟩ := run_unwind_matching x g (.param name) (name ++ "_id") (listedTarget name r)
    [(c.node, .vertex n.id)]
  obtain rfl := hitems _ hlist
  refine ⟨_, hrun, fun env => ?_⟩
  rw [List.flatMap_map, List.mem_flatMap]
  refine exists_congr fun id => and_congr_right fun _ => ?_
  rw [List.singleton_append, listedTarget, Pattern.paths_node, List.mem_flatMap]
  refine exists_congr fun v => and_congr_right fun hv => ?_
  have hequal : (x.seeing g).db.equal (v.prop "id") (.text id) = some true ↔ _ := hdb.equal_iff (hids v hv) id
  rw [Node.accept_withExpr _ (hfresh id), Expr.value, hread, Option.mem_toList,
    Option.ite_none_right_eq_some, hequal, and_assoc, Option.some.injEq, eq_comm (a := env)]
  rfl

/-- The links to a target that are found in its row. -/
theorem paths_link (hnames : c.node ∉ mergeVars name) (hn : n ∈ g.vertices) (v : Vertex) (id : String) :
    (c.linkToTarget name r).paths (x.seeing g) (c.targetRow n name id v) =
      ((g.reached r.type r.arrow n.id).filter (fun p => v.id = p.2.id)).map
        (fun p => c.linkRow n name id v p.1.id) := by
  rw [linkToTarget, relationshipPattern, Pattern.paths_hop_bound (x.seeing g) hn (c.lookup_node_targetRow n id v),
    ← List.filterMap_eq_flatMap_toList, ← List.filterMap_eq_map, List.filterMap_filter]
  refine List.filterMap_congr fun p _ => ?_
  rw [Env.bind?_fresh (lookup_edge_targetRow hnames n id v), Option.bind_some, ← linkRow,
    Node.accept_bound _ (lookup_target_linkRow hnames n id v p.1.id)]
  simp only [decide_eq_true_eq]
  rfl

/-- An arc of the relationship's type from a vertex to a target. -/
def linkTo (g : PropertyGraph) (n v : Vertex) (r : Relationship) : Arc :=
  ⟨g.nextArc, r.type, if r.direction = .incoming then v.id else n.id, if r.direction = .incoming then n.id else v.id, ∅⟩

theorem ends_linkTo (n v : Vertex) : (linkTo g n v r).ends r.arrow n.id = [v.id] := by
  unfold linkTo Arc.ends Schema.Relationship.arrow
  cases r.direction <;> simp

/-- A link that is made. -/
theorem create_link (hnames : c.node ∉ mergeVars name) (hn : n ∈ g.vertices) {v : Vertex} (hv : v ∈ g.vertices)
    (id : String) :
    ∃ g', (c.linkToTarget name r).create x g (c.targetRow n name id v) = some (g', c.linkRow n name id v g.nextArc) ∧
      g'.vertices = g.vertices ∧ g'.arcs = g.arcs ++ [linkTo g n v r] := by
  have hedge : (c.targetRow n name id v).bound? (some (name ++ "_edge")) = none := lookup_edge_targetRow hnames n id v
  have hmem := List.mem_map_of_mem (f := Vertex.id) hn
  have hmem' := List.mem_map_of_mem (f := Vertex.id) hv
  have hadded : ∃ g', g.addArc? r.type (if r.arrow = .incoming then (v.id, n.id) else (n.id, v.id)).1
      (if r.arrow = .incoming then (v.id, n.id) else (n.id, v.id)).2 ∅ = some g' ∧ g'.vertices = g.vertices ∧
        g'.arcs = g.arcs ++ [linkTo g n v r] := by
    unfold linkTo Schema.Relationship.arrow
    cases r.direction
    · exact g.addArc?_of_mem hmem hmem' r.type ∅
    · exact g.addArc?_of_mem hmem' hmem r.type ∅
  obtain ⟨g', hadd, hg'⟩ := hadded
  refine ⟨g', ?_, hg'⟩
  simp only [linkToTarget, relationshipPattern, Pattern.node, Pattern.hop, List.nil_append, Pattern.create, createHops,
    Node.create_bound x (c.lookup_node_targetRow n id v),
    Node.create_bound x (lookup_target_targetRow hnames n id v), hedge, Option.bind_eq_bind, Option.bind_some,
    Option.isNone_none, if_true, hadd]
  rfl

/-- Finding or making a link to a target. -/
theorem findOrCreate_link (hnames : c.node ∉ mergeVars name) (hn : n ∈ g.vertices) {v : Vertex} (hv : v ∈ g.vertices)
    (hlabel : r.target ∈ v.labels) (id : String) :
    ∃ g' made, (c.linkToTarget name r).findOrCreate x g (c.targetRow n name id v) = some (g', made) ∧
      Adds r n.id (· = v) g g' ∧
      ∀ env ∈ made, ∃ a ∈ g'.arcs, g.IsLink r n.id a ∧ env.read (name ++ "_edge") = .arc a.id := by
  have hread := read_edge_linkRow hnames n id v
  have hfound := c.paths_link (r := r) x hnames hn v id
  cases hreached : (g.reached r.type r.arrow n.id).filter (fun p => v.id = p.2.id) with
  | cons p rest =>
    have hmem {q : Arc × Vertex} (hq : q ∈ p :: rest) : (q.1, v) ∈ linked g r n.id := by
      rw [← hreached, List.mem_filter, PropertyGraph.mem_reached, decide_eq_true_iff] at hq
      obtain ⟨⟨ha, htype, hu, hends⟩, hid⟩ := hq
      have heq := g.eq_of_id_eq hv hu hid
      exact PropertyGraph.mem_linked_iff.2 ⟨ha, htype, hv, hlabel, heq ▸ hends⟩
    rw [hreached] at hfound
    refine ⟨g, (p :: rest).map (fun p => c.linkRow n name id v p.1.id), ?_, .refl ?_, ?_⟩
    · rw [Pattern.findOrCreate, hfound]
      rfl
    · rintro _ rfl
      exact joins_iff.2 ⟨p.1, hmem List.mem_cons_self⟩
    · intro env henv
      obtain ⟨q, hq, rfl⟩ := List.mem_map.1 henv
      exact ⟨q.1, (PropertyGraph.mem_linked_iff.1 (hmem hq)).1, isLink_of_mem_linked (hmem hq), hread q.1.id⟩
  | nil =>
    rw [hreached] at hfound
    obtain ⟨g', hcreate, hvertices, harcs⟩ := c.create_link (r := r) x hnames hn hv id
    have hends : (linkTo g n v r).ends r.arrow n.id = [v.id] := ends_linkTo n v
    refine ⟨g', [c.linkRow n name id v g.nextArc], ?_, adds_concat hvertices harcs rfl hends hv hlabel, ?_⟩
    · rw [Pattern.findOrCreate, hfound, List.map_nil, List.isEmpty_nil, if_pos rfl, hcreate, Option.map_some]
    · intro env henv
      obtain rfl := List.mem_singleton.1 henv
      refine ⟨linkTo g n v r, ?_, ⟨rfl, v, hv, hlabel, hends ▸ List.mem_singleton_self _⟩, hread g.nextArc⟩
      rw [harcs]
      exact List.mem_append_right _ (List.mem_singleton_self _)

theorem targetRow_injective {id id' : String} {v v' : Vertex}
    (h : c.targetRow n name id v = c.targetRow n name id' v') : id = id' ∧ v.id = v'.id := by
  simpa [targetRow] using h

/-- Links to the targets of all rows. -/
theorem eachRow_findOrCreate (hnames : c.node ∉ mergeVars name) {rows : List Env} (hn : n ∈ g.vertices)
    (hrows : ∀ env ∈ rows, ∃ id v, v ∈ g.vertices ∧ r.target ∈ v.labels ∧ env = c.targetRow n name id v) :
    ∃ g' made, eachRow ((c.linkToTarget name r).findOrCreate x) g rows = some (g', made) ∧
      Adds r n.id (fun v => v ∈ g.vertices ∧ ∃ id, c.targetRow n name id v ∈ rows) g g' ∧
      ∀ env ∈ made, ∃ a ∈ g'.arcs, g.IsLink r n.id a ∧ env.read (name ++ "_edge") = .arc a.id := by
  induction rows generalizing g with
  | nil => exact ⟨g, [], rfl, .refl (by simp), by simp⟩
  | cons env rest ih =>
    obtain ⟨id, v, hv, hlabel, rfl⟩ := hrows env List.mem_cons_self
    obtain ⟨g', made, hfirst, hadds, hmade⟩ := c.findOrCreate_link x hnames hn hv hlabel id
    -- Links are added but the vertices stay, so the rows that follow still stand for targets.
    have hvertices := hadds.only.vertices
    obtain ⟨g'', others, hrest, hadds', hothers⟩ := ih (g := g') (hvertices ▸ hn) fun env henv => by
      rw [hvertices]
      exact hrows env (List.mem_cons_of_mem _ henv)
    refine ⟨g'', made ++ others, ?_, (hadds.trans hadds').congr fun u => ?_, ?_⟩
    · simp only [eachRow, hfirst, Option.bind_eq_bind, Option.bind_some, hrest]
    · rw [hvertices]
      simp only [List.mem_cons, exists_or, and_or_left]
      refine or_congr_left ⟨?_, ?_⟩
      · rintro rfl
        exact ⟨hv, id, rfl⟩
      · rintro ⟨hu, id', heq⟩
        exact g.eq_of_id_eq hu hv (c.targetRow_injective heq).2
    · intro env henv
      rcases List.mem_append.1 henv with henv | henv
      · obtain ⟨a, ha, hlink, hread⟩ := hmade env henv
        exact ⟨a, hadds'.kept a ha, hlink, hread⟩
      · obtain ⟨a, ha, hlink, hread⟩ := hothers env henv
        exact ⟨a, ha, (isLink_congr hvertices).1 hlink, hread⟩

/-- The subquery that merges adds a link to each listed target that has none. -/
theorem run_mergeBody (hdb : x.db.ComparesTexts) (hids : ∀ v ∈ g.vertices, v.prop "id" ≠ .null)
    (hnames : c.node ∉ mergeVars name) {ids : List String} (hparam : x.param name = .list (ids.map .text))
    (hn : n ∈ g.vertices) (withProps : Bool) :
    ∃ g' rows, runThrough x (c.mergeBody name r withProps) g [[(c.node, .vertex n.id)]] = some (g', rows) ∧
      OnlyLinks [r] n.id g g' ∧ ∀ v, g'.Joins r n.id v ↔ g.Joins r n.id v ∨ g.Listed r ids v := by
  obtain ⟨rows, hlisted, hrows⟩ := c.run_listed (g := g) (n := n) (r := r) x hdb hids hnames hparam
  have htargets : ∀ env ∈ rows, ∃ id v, v ∈ g.vertices ∧ r.target ∈ v.labels ∧ env = c.targetRow n name id v := by
    intro env henv
    obtain ⟨id, -, v, hv, hlabel, -, heq⟩ := (hrows env).1 henv
    exact ⟨id, v, hv, hlabel, heq⟩
  obtain ⟨g', made, hmerged, hadds, hmade⟩ := c.eachRow_findOrCreate x hnames hn htargets
  have hjoins (v : Vertex) : g'.Joins r n.id v ↔ g.Joins r n.id v ∨ g.Listed r ids v := by
    rw [hadds.joins]
    refine or_congr_right ⟨?_, ?_⟩
    · rintro ⟨hv, id, hid⟩
      obtain ⟨id', hid', u, hu, hlabel, hprop, heq⟩ := (hrows _).1 hid
      obtain ⟨rfl, hsame⟩ := c.targetRow_injective heq
      obtain rfl := g.eq_of_id_eq hv hu hsame
      exact ⟨hv, hlabel, List.mem_map.2 ⟨id, hid', hprop.symm⟩⟩
    · rintro ⟨hv, hlabel, hprop⟩
      obtain ⟨id, hid, hprop⟩ := List.mem_map.1 hprop
      exact ⟨hv, id, (hrows _).2 ⟨id, hid, v, hv, hlabel, hprop.symm, rfl⟩⟩
  have hmerge : runThrough x ([.unwind (.param name) (name ++ "_id"), .matching (listedTarget name r)] ++
      [.merge (c.linkToTarget name r)]) g [[(c.node, .vertex n.id)]] = some (g', made) := by
    rw [runThrough_append, hlisted]
    simp only [Option.bind_some, runThrough, Clause.run, hmerged]
  have hbody : runThrough x (c.mergeBody name r withProps) g [[(c.node, .vertex n.id)]] =
      runThrough x (if withProps then [.set [.overlay (name ++ "_edge") (mergedProps name r)]] else []) g' made := by
    rw [mergeBody, runThrough_append]
    exact congrArg (Option.bind · _) hmerge
  cases withProps with
  | false => exact ⟨g', made, hbody, hadds.only, hjoins⟩
  | true =>
    obtain ⟨g'', hset, honly, hbare⟩ := run_overlay x (name ++ "_edge") (mergedProps name r) fun env henv => by
      obtain ⟨a, ha, hlink, hread⟩ := hmade env henv
      exact ⟨a, ha, (isLink_congr hadds.only.vertices).2 hlink, hread⟩
    refine ⟨g'', made, ?_, hadds.only.trans honly, fun v => ?_⟩
    · rw [hbody, if_pos rfl, runThrough, hset]
      rfl
    · rw [joins_congr_bare honly.vertices hbare, hjoins]

/-! ## Changed links -/

/-- A link to a target with the id that a row holds. -/
def linkById (name : String) (r : Relationship) : Pattern :=
  c.relationshipPattern (some (name ++ "_edge")) r
    ((Node.labeled (name ++ "_target") r.target).withProp "id" (.var (name ++ "_id")))

theorem isLink_of_mem_paths (hnames : c.node ∉ mergeVars name) (hn : n ∈ g.vertices) {key : Val} {env : Env}
    (henv : env ∈ (c.linkById name r).paths (x.seeing g) ([(c.node, .vertex n.id)] ++ [(name ++ "_id", key)])) :
    ∃ a ∈ g.arcs, g.IsLink r n.id a ∧ env.read (name ++ "_edge") = .arc a.id := by
  obtain ⟨-, htarget, hedge⟩ := ne_mergeVars hnames
  have hfresh : ([(c.node, .vertex n.id)] ++ [(name ++ "_id", key)] : Env).lookup (name ++ "_edge") = none := by
    simp [Entries.lookup_cons_eq, hedge.symm, String.append_right_inj]
  have hfresh' (a : Arc) : ([(c.node, .vertex n.id)] ++ [(name ++ "_id", key)] ++ [(name ++ "_edge", .arc a.id)] :
      Env).lookup (name ++ "_target") = none := by
    simp [Entries.lookup_cons_eq, htarget.symm, String.append_right_inj]
  rw [linkById, relationshipPattern, Pattern.paths_hop_bound (x.seeing g) hn (by simp), List.mem_flatMap] at henv
  obtain ⟨⟨a, v⟩, hp, henv⟩ := henv
  rw [Env.bind?_fresh hfresh, Option.bind_some, Node.accept_withExpr _ (hfresh' a), Option.mem_toList,
    Option.ite_none_right_eq_some, Option.some.injEq] at henv
  obtain ⟨⟨hlabel, -⟩, rfl⟩ := henv
  obtain ⟨ha, htype, hv, hends⟩ := g.mem_reached.1 hp
  refine ⟨a, ha, ⟨htype, v, hv, hlabel, hends⟩, ?_⟩
  simp [Env.read, Entries.lookup_cons_eq, hedge.symm, String.append_right_inj]

/-- The subquery for changes of edges changes properties of links only. -/
theorem run_updateBody (hnames : c.node ∉ mergeVars name) (hn : n ∈ g.vertices) :
    ∃ g' rows, runThrough x (c.updateBody name r) g [[(c.node, .vertex n.id)]] = some (g', rows) ∧
      OnlyLinks [r] n.id g g' ∧ g'.arcs.map Arc.bare = g.arcs.map Arc.bare := by
  obtain ⟨items, hmatched, -⟩ := run_unwind_matching x g (.keys (.param (edgeUpdateKey name))) (name ++ "_id")
    (c.linkById name r) [(c.node, .vertex n.id)]
  have hlinks : ∀ env ∈ items.flatMap (fun key => (c.linkById name r).paths (x.seeing g)
      ([(c.node, .vertex n.id)] ++ [(name ++ "_id", key)])),
      ∃ a ∈ g.arcs, g.IsLink r n.id a ∧ env.read (name ++ "_edge") = .arc a.id := by
    intro env henv
    obtain ⟨key, -, henv⟩ := List.mem_flatMap.1 henv
    exact c.isLink_of_mem_paths x hnames hn henv
  generalize items.flatMap _ = rows at hmatched hlinks
  obtain ⟨g', hset, honly, hbare⟩ := run_overlay x (name ++ "_edge")
    (.entry (edgeUpdateKey name) (.var (name ++ "_id"))) hlinks
  have hbody : c.updateBody name r =
      [.unwind (.keys (.param (edgeUpdateKey name))) (name ++ "_id"), .matching (c.linkById name r)] ++
        [.set [.overlay (name ++ "_edge") (.entry (edgeUpdateKey name) (.var (name ++ "_id")))]] := rfl
  refine ⟨g', rows, ?_, honly, hbare⟩
  rw [hbody, runThrough_append, hmatched, Option.bind_some, runThrough, hset]
  rfl

end EntityGraph.Compile.Compiler
