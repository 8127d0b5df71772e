import EntityGraph.Proofs.Compile.WriteOutline
import EntityGraph.Proofs.Writing.Basic

/-!
# How a write begins

The opening of a write leaves one row, for the entity. An entity that is there is found once, since ids are unique under
a label and an entity belongs to a tenant by one arc at most; a new one is a new vertex, with an arc to its tenant. Then
the assignments change properties of the entity, but not its id.
-/
namespace EntityGraph.Graph.PropertyGraph

variable (g : PropertyGraph)

/-- Whether a vertex is the one that an id stands for under a label. -/
def Names (label id : String) (v : Vertex) : Prop := v ∈ g.vertices ∧ label ∈ v.labels ∧ v.prop "id" = .text id

/-- Every vertex has an id, and no other vertex has it under the same label. -/
structure Identified : Prop where
  ids : ∀ v ∈ g.vertices, v.prop "id" ≠ .null
  unique : ∀ v ∈ g.vertices, ∀ u ∈ g.vertices, ∀ label ∈ v.labels, label ∈ u.labels → v.prop "id" = u.prop "id" → v = u

/-- A change of the properties of a vertex that keeps its id. -/
structure OnlyProps (id : Nat) (g g' : PropertyGraph) : Prop where
  arcs : g'.arcs = g.arcs
  vertices : ∃ f : Dict Val → Dict Val, (∀ props, (f props).get? "id" = props.get? "id") ∧
    g'.vertices = g.vertices.map (Vertex.changed id f)

namespace OnlyProps

variable {g} {g' g'' : PropertyGraph} {id : Nat}

theorem refl (id : Nat) (g : PropertyGraph) : OnlyProps id g g where
  arcs := rfl
  vertices := by
    refine ⟨fun props => props, fun _ => rfl, (List.map_id'' (fun v => ?_) _).symm⟩
    unfold Vertex.changed
    split <;> rfl

theorem trans (h : OnlyProps id g g') (h' : OnlyProps id g' g'') : OnlyProps id g g'' where
  arcs := h'.arcs.trans h.arcs
  vertices := by
    obtain ⟨f, hf, hvertices⟩ := h.vertices
    obtain ⟨f', hf', hvertices'⟩ := h'.vertices
    refine ⟨fun props => f' (f props), fun props => (hf' _).trans (hf props), ?_⟩
    rw [hvertices', hvertices, List.map_map]
    refine List.map_congr_left fun v _ => ?_
    unfold Vertex.changed Function.comp
    by_cases hid : v.id = id <;> simp [hid]

theorem changeVertex (g : PropertyGraph) (id : Nat) {key : String} (hkey : key ≠ "id") (v : Val) :
    OnlyProps id g (g.changeVertex id fun props => setProp props key v) where
  arcs := rfl
  vertices := ⟨_, fun props => by rw [get?_setProp, if_neg hkey.symm], rfl⟩

theorem prop_changed {f : Dict Val → Dict Val} (hf : ∀ props, (f props).get? "id" = props.get? "id") (v : Vertex) :
    (v.changed id f).prop "id" = v.prop "id" := by
  unfold Vertex.changed Vertex.prop
  split
  · rw [hf]
  · rfl

theorem ids (h : OnlyProps id g g') (hids : ∀ v ∈ g.vertices, v.prop "id" ≠ .null) :
    ∀ v ∈ g'.vertices, v.prop "id" ≠ .null := by
  obtain ⟨f, hf, hvertices⟩ := h.vertices
  rw [hvertices, List.forall_mem_map]
  intro v hv
  rw [prop_changed hf]
  exact hids v hv

/-- An id stands for the same vertex before and after. -/
theorem exists_names (h : OnlyProps id g g') {label s : String} {v : Vertex} (hv : g.Names label s v) :
    ∃ v', g'.Names label s v' ∧ v'.id = v.id := by
  obtain ⟨f, hf, hvertices⟩ := h.vertices
  refine ⟨v.changed id f, ⟨?_, ?_, ?_⟩, v.changed_id id f⟩
  · rw [hvertices]
    exact List.mem_map_of_mem hv.1
  · rw [Vertex.changed_labels]
    exact hv.2.1
  · rw [prop_changed hf]
    exact hv.2.2

/-- Other vertices stay as they are. -/
theorem mem_of_ne (h : OnlyProps id g g') {v : Vertex} (hne : v.id ≠ id) : v ∈ g'.vertices ↔ v ∈ g.vertices := by
  obtain ⟨f, -, hvertices⟩ := h.vertices
  rw [hvertices, List.mem_map]
  constructor
  · rintro ⟨u, hu, rfl⟩
    rw [Vertex.changed_id] at hne
    rwa [Vertex.changed, if_neg hne]
  · exact fun hv => ⟨v, hv, if_neg hne⟩

end OnlyProps

end EntityGraph.Graph.PropertyGraph

namespace EntityGraph.Compile.Compiler

open Cypher EntityGraph.Graph PropertyGraph

variable (c : Compiler) (x : Context) {g : PropertyGraph} {env : Env}

/-! ## Vertices by their ids -/

/-- A search that only one item answers, and with one row. -/
theorem flatMap_eq_singleton {α β : Type} {items : List α} (hnodup : items.Nodup) {a : α} (ha : a ∈ items)
    {f : α → List β} {b : β} (hf : f a = [b]) (hothers : ∀ other ∈ items, other ≠ a → f other = []) :
    items.flatMap f = [b] := by
  induction items with
  | nil => cases ha
  | cons other rest ih =>
    obtain ⟨hfresh, hnodup⟩ := List.nodup_cons.1 hnodup
    have hrest {b : α} (hb : b ∈ rest) := hothers b (List.mem_cons_of_mem other hb)
    rw [List.flatMap_cons]
    rcases List.mem_cons.1 ha with rfl | ha
    · rw [hf, List.flatMap_eq_nil_iff.2 fun b hb => hrest hb fun heq => hfresh (heq ▸ hb), List.append_nil]
    · rw [hothers other List.mem_cons_self fun heq => hfresh (heq ▸ ha), List.nil_append]
      exact ih hnodup ha fun b hb => hrest hb

theorem accept_names (hdb : x.db.ComparesTexts) (hg : g.Identified) {label id name param : String} {v : Vertex}
    (hv : g.Names label id v) (hfresh : env.lookup name = none) (hparam : x.param param = .text id) {u : Vertex}
    (hu : u ∈ g.vertices) :
    ((Node.labeled name label).withProp "id" (.param param)).accept (x.seeing g) env u =
      if v.id = u.id then some (env ++ [(name, .vertex u.id)]) else none := by
  have hequal : (x.seeing g).db.equal (u.prop "id") (.text id) = some true ↔ _ := hdb.equal_iff (hg.ids u hu) id
  rw [Node.accept_withProp _ hfresh, Context.seeing_param, hparam]
  refine if_congr ⟨?_, fun h => ?_⟩ rfl rfl
  · rintro ⟨hlabel, hprop⟩
    rw [hg.unique v hv.1 u hu label hv.2.1 hlabel (hv.2.2.trans (hequal.1 hprop).symm)]
  · obtain rfl := g.eq_of_id_eq hv.1 hu h
    exact ⟨hv.2.1, hequal.2 hv.2.2⟩

/-- The one path to a vertex that an id stands for. -/
theorem paths_names (hdb : x.db.ComparesTexts) (hg : g.Identified) {label id name param : String} {v : Vertex}
    (hv : g.Names label id v) (hfresh : env.lookup name = none) (hparam : x.param param = .text id) :
    (Pattern.node ((Node.labeled name label).withProp "id" (.param param))).paths (x.seeing g) env =
      [env ++ [(name, .vertex v.id)]] := by
  rw [Pattern.paths_node, Context.seeing_graph]
  refine (List.flatMap_congr fun u hu => ?_).trans (g.flatMap_vertex hv.1 fun u => [env ++ [(name, .vertex u.id)]])
  rw [accept_names x hdb hg hv hfresh hparam hu]
  split <;> rfl

/-- Between an entity and a tenant there is one membership arc at most. -/
def OneMembership (g : PropertyGraph) : Prop :=
  ∀ a ∈ g.arcs, ∀ b ∈ g.arcs, a.type = c.settings.membershipEdge → b.type = c.settings.membershipEdge →
    a.source = b.source → a.target = b.target → a = b

/-- The one path from an entity to its tenant. -/
theorem paths_membership (hdb : x.db.ComparesTexts) (hg : g.Identified) (hone : c.OneMembership g)
    (hapart : c.node ≠ tenantVar) {id company : String} {v t : Vertex} (hv : g.Names c.label id v)
    (ht : g.Names c.settings.tenantLabel company t) (hid : x.param "id" = .text id)
    (hcompany : x.param companyParam = .text company) {a : Arc} (ha : a ∈ g.arcs)
    (htype : a.type = c.settings.membershipEdge) (hsource : a.source = v.id) (htarget : a.target = t.id) :
    (c.membership c.nodeById c.tenantNode).paths (x.seeing g) [] =
      [[(c.node, .vertex v.id), (tenantVar, .vertex t.id)]] := by
  have hstart {u : Vertex} (hu : u ∈ g.vertices) :=
    accept_names x hdb hg hv (List.lookup_nil (a := c.node)) hid hu
  have hfresh : ([(c.node, .vertex v.id)] : Env).lookup tenantVar = none := by
    simp [Entries.lookup_cons_eq, Ne.symm hapart]
  have htenant {u : Vertex} (hu : u ∈ g.vertices) := accept_names x hdb hg ht hfresh hcompany hu
  have hreached : (a, t) ∈ g.reached c.settings.membershipEdge .outgoing v.id :=
    g.mem_reached.2 ⟨ha, htype, ht.1, by simp [Arc.ends, hsource, htarget]⟩
  rw [membership, nodeById, Pattern.paths_hop, Context.seeing_graph]
  refine flatMap_eq_singleton (List.Nodup.of_map _ g.vertices_nodup) hv.1 ?_ fun u hu hne => ?_
  · rw [hstart hv.1, if_pos rfl, Option.toList_some, List.flatMap_singleton]
    refine flatMap_eq_singleton (g.reached_nodup _ _ _) hreached ?_ fun p hp hne => ?_
    · simp only [Env.bind?, Option.bind_some, List.nil_append]
      rw [tenantNode, htenant ht.1, if_pos rfl]
      rfl
    · obtain ⟨b, u⟩ := p
      obtain ⟨hb, hbtype, hu, hends⟩ := g.mem_reached.1 hp
      simp only [Env.bind?, Option.bind_some, List.nil_append]
      rw [tenantNode, htenant hu, if_neg]
      · rfl
      · intro hid
        obtain rfl := g.eq_of_id_eq ht.1 hu hid
        obtain ⟨hbsource, hbtarget⟩ : b.source = v.id ∧ b.target = t.id := by
          simpa [Arc.ends, eq_comm] using hends
        rw [hone b hb a ha hbtype htype (hbsource.trans hsource.symm) (hbtarget.trans htarget.symm)] at hne
        exact hne rfl
  · rw [hstart hu, if_neg fun hid => hne (g.eq_of_id_eq hu hv.1 hid.symm)]
    rfl

/-! ## The opening -/

/-- Whether the opening of a write finds what it matches: the entity, unless it is new, and the tenant, if the write is
tied to one, with a membership arc between the two. -/
def Matched (mode : WriteMode) (scope : Option String) (id : String) (g : PropertyGraph) : Prop :=
  match mode, scope with
  | .create, none => True
  | .create, some company => ∃ t, g.Names c.settings.tenantLabel company t
  | _, none => ∃ v, g.Names c.label id v
  | _, some company => ∃ v t, g.Names c.label id v ∧ g.Names c.settings.tenantLabel company t ∧
      ∃ a ∈ g.arcs, a.type = c.settings.membershipEdge ∧ a.source = v.id ∧ a.target = t.id

/-- Writes to an entity that is there look for the same. -/
theorem matched_iff_put {mode : WriteMode} (hmode : mode ≠ .create) {scope : Option String} {id : String} :
    c.Matched mode scope id g ↔ c.Matched .put scope id g := by
  cases mode with
  | create => exact absurd rfl hmode
  | put => rfl
  | patch => cases scope <;> rfl

theorem writeOpening_eq_put {mode : WriteMode} (hmode : mode ≠ .create) (tied : Bool) :
    c.writeOpening mode tied = c.writeOpening .put tied := by
  cases mode with
  | create => exact absurd rfl hmode
  | put => rfl
  | patch => rfl

/-- The arcs that a write adds for its entity: for a new one that is tied to a tenant a membership arc to it. -/
def Founds (mode : WriteMode) (scope : Option String) (g : PropertyGraph) (entity : Nat) (added : List Arc) : Prop :=
  match mode, scope with
  | .create, some company => ∃ t a, g.Names c.settings.tenantLabel company t ∧ added = [a] ∧
      a.id ∉ g.arcs.map Arc.id ∧ a.type = c.settings.membershipEdge ∧ a.source = entity ∧ a.target = t.id
  | _, _ => added = []

/-- The entity of a write among the vertices, which are what they were otherwise. It was there, or it is new. -/
structure Begun (mode : WriteMode) (scope : Option String) (id : String) (g g' : PropertyGraph) (n : Vertex)
    (added : List Arc) : Prop where
  entity : g'.Names c.label id n
  found : mode ≠ .create → ∃ old, g.Names c.label id old ∧ old.id = n.id
  new : mode = .create → n.id ∉ g.vertices.map Vertex.id
  founds : c.Founds mode scope g n.id added
  vertices : ∀ v, v.id ≠ n.id → (v ∈ g'.vertices ↔ v ∈ g.vertices)
  names : ∀ label s v, g.Names label s v → ∃ v', g'.Names label s v'
  ids : ∀ v ∈ g'.vertices, v.prop "id" ≠ .null

section Begun

variable {c} {mode : WriteMode} {scope : Option String} {id : String} {g' g'' : PropertyGraph} {n : Vertex}
  {added : List Arc}

theorem begun_found (hg : g.Identified) (hmode : mode ≠ .create) (scope : Option String) (hn : g.Names c.label id n) :
    c.Begun mode scope id g g n [] where
  entity := hn
  found := fun _ => ⟨n, hn, rfl⟩
  new := fun hcreate => absurd hcreate hmode
  founds := by
    cases mode with
    | create => exact absurd rfl hmode
    | put => rfl
    | patch => rfl
  vertices := fun _ _ => Iff.rfl
  names := fun _ _ v hv => ⟨v, hv⟩
  ids := hg.ids

theorem begun_new (hg : g.Identified) (hvertices : g'.vertices = g.vertices ++ [n])
    (hnew : n.id ∉ g.vertices.map Vertex.id) (hlabel : c.label ∈ n.labels) (hprop : n.prop "id" = .text id)
    (hfounds : c.Founds .create scope g n.id added) : c.Begun .create scope id g g' n added where
  entity := ⟨by simp [hvertices], hlabel, hprop⟩
  found := fun hmode => absurd rfl hmode
  new := fun _ => hnew
  founds := hfounds
  vertices := fun v hne => by
    rw [hvertices, List.mem_append, or_iff_left]
    exact fun hmem => hne (congrArg Vertex.id (List.mem_singleton.1 hmem))
  names := fun _ _ v hv => ⟨v, by simp [hvertices, hv.1], hv.2⟩
  ids := by
    intro v hv
    rw [hvertices] at hv
    rcases List.mem_append.1 hv with hv | hv
    · exact hg.ids v hv
    · rw [List.mem_singleton.1 hv, hprop]
      exact Val.noConfusion

theorem Begun.congr (h : c.Begun mode scope id g g' n added) (hvertices : g''.vertices = g'.vertices) :
    c.Begun mode scope id g g'' n added where
  entity := by
    rw [Names, hvertices]
    exact h.entity
  found := h.found
  new := h.new
  founds := h.founds
  vertices := hvertices ▸ h.vertices
  names := by
    simp only [Names, hvertices]
    exact h.names
  ids := hvertices ▸ h.ids

/-- What is said of the entity stays true when its properties change. -/
theorem Begun.onlyProps (h : c.Begun mode scope id g g' n added) (hprops : OnlyProps n.id g' g'') :
    ∃ n', n'.id = n.id ∧ c.Begun mode scope id g g'' n' added := by
  obtain ⟨n', hn', hid⟩ := hprops.exists_names h.entity
  refine ⟨n', hid, hn', hid ▸ h.found, hid ▸ h.new, hid ▸ h.founds, fun v hne => ?_, fun label s v hv => ?_,
    hprops.ids h.ids⟩
  · rw [hid] at hne
    rw [hprops.mem_of_ne hne, h.vertices v hne]
  · obtain ⟨v', hv'⟩ := h.names label s v hv
    obtain ⟨v'', hv'', -⟩ := hprops.exists_names hv'
    exact ⟨v'', hv''⟩

end Begun

/-- A new vertex with the label and the id of the entity. -/
theorem create_entity (hfresh : env.lookup c.node = none) {id : String} (hid : x.param "id" = .text id) :
    ∃ g' n, (Pattern.node c.nodeById).create x g env = some (g', env ++ [(c.node, .vertex n.id)]) ∧
      g'.vertices = g.vertices ++ [n] ∧ g'.arcs = g.arcs ∧ n.id ∉ g.vertices.map Vertex.id ∧
      c.label ∈ n.labels ∧ n.prop "id" = .text id := by
  let props := setProp ∅ "id" (.text id)
  refine ⟨g.addVertex [c.label] props, ⟨g.nextVertex, [c.label], props⟩, ?_, rfl, rfl, fresh_not_mem _,
    List.mem_singleton_self _, ?_⟩
  · simp [nodeById, Node.labeled, Node.withProp, Pattern.node, Pattern.create, Node.create, createHops, Env.bound?,
      hfresh, entryValues, Expr.value, hid, Env.with, props]
  · rw [Vertex.prop, get?_setProp]
    rfl

/-- An arc from the entity to the tenant. -/
theorem create_membership {entity tenant : Nat} (hentity : env.lookup c.node = some (.vertex entity))
    (htenant : env.lookup tenantVar = some (.vertex tenant)) (hmem : entity ∈ g.vertices.map Vertex.id)
    (hmem' : tenant ∈ g.vertices.map Vertex.id) :
    ∃ g', (c.membership (.bound c.node) (.bound tenantVar)).create x g env = some (g', env) ∧
      g'.vertices = g.vertices ∧ g'.arcs = g.arcs ++ [⟨g.nextArc, c.settings.membershipEdge, entity, tenant, ∅⟩] := by
  obtain ⟨g', hadd, hg'⟩ := g.addArc?_of_mem hmem hmem' c.settings.membershipEdge ∅
  refine ⟨g', ?_, hg'⟩
  simp [membership, Pattern.node, Pattern.hop, Pattern.create, createHops, Node.create_bound x hentity,
    Node.create_bound x htenant, Env.bound?, Env.with, hadd]

theorem run_create {p : Pattern} {g' : PropertyGraph} {env' : Env} (h : p.create x g env = some (g', env')) :
    (Clause.create p).run x g [env] = some (g', [env']) := by
  rw [Clause.run, eachRow_singleton, h]
  rfl

/-- An entity that is there is found once. -/
theorem run_opening_found (hdb : x.db.ComparesTexts) (hg : g.Identified) (hone : c.OneMembership g) {mode : WriteMode}
    (hmode : mode ≠ .create) {scope : Option String} {id : String} (hid : x.param "id" = .text id)
    (hcompany : ∀ company, scope = some company → x.param companyParam = .text company ∧ c.node ≠ tenantVar)
    (hmatched : c.Matched mode scope id g) :
    ∃ n env, runThrough x (c.writeOpening mode scope.isSome) g [[]] = some (g, [env]) ∧
      env.lookup c.node = some (.vertex n.id) ∧ g.Names c.label id n := by
  rw [c.matched_iff_put hmode] at hmatched
  rw [c.writeOpening_eq_put hmode]
  cases scope with
  | none =>
    obtain ⟨n, hn⟩ := hmatched
    have hpaths := paths_names x hdb hg hn (List.lookup_nil (a := c.node)) hid
    refine ⟨n, [(c.node, .vertex n.id)], ?_, by simp, hn⟩
    simp only [writeOpening, Option.isSome_none, Bool.false_eq_true, if_false, runThrough, Clause.run_matching,
      List.flatMap_singleton, nodeById, hpaths, Option.bind_some, List.nil_append]
  | some company =>
    obtain ⟨n, t, hn, ht, a, ha, htype, hsource, htarget⟩ := hmatched
    obtain ⟨hcompany, hapart⟩ := hcompany company rfl
    have hpaths := c.paths_membership x hdb hg hone hapart hn ht hid hcompany ha htype hsource htarget
    refine ⟨n, [(c.node, .vertex n.id), (tenantVar, .vertex t.id)], ?_, by simp, hn⟩
    simp only [writeOpening, Option.isSome_some, if_true, runThrough, Clause.run_matching, List.flatMap_singleton,
      hpaths, Option.bind_some]

/-- A new entity is created in its tenant. -/
theorem run_opening_new (hdb : x.db.ComparesTexts) (hg : g.Identified) {scope : Option String} {id : String}
    (hid : x.param "id" = .text id)
    (hcompany : ∀ company, scope = some company → x.param companyParam = .text company ∧ c.node ≠ tenantVar)
    (hmatched : c.Matched .create scope id g) :
    ∃ g' n added env, runThrough x (c.writeOpening .create scope.isSome) g [[]] = some (g', [env]) ∧
      env.lookup c.node = some (.vertex n.id) ∧ c.Begun .create scope id g g' n added ∧ g'.arcs = g.arcs ++ added := by
  cases scope with
  | none =>
    obtain ⟨g', n, hcreate, hvertices, harcs, hnew, hlabel, hprop⟩ :=
      c.create_entity (g := g) x (List.lookup_nil (a := c.node)) hid
    refine ⟨g', n, [], [(c.node, .vertex n.id)], ?_, by simp, begun_new hg hvertices hnew hlabel hprop rfl,
      by simp [harcs]⟩
    simp only [writeOpening, Option.isSome_none, Bool.false_eq_true, if_false, runThrough, run_create x hcreate,
      Option.bind_some, List.nil_append]
  | some company =>
    obtain ⟨t, ht⟩ := hmatched
    obtain ⟨hcompany, hapart⟩ := hcompany company rfl
    have hpaths := paths_names x hdb hg ht (List.lookup_nil (a := tenantVar)) hcompany
    have hfresh : ([] ++ [(tenantVar, .vertex t.id)] : Env).lookup c.node = none := by
      simp [Entries.lookup_cons_eq, hapart]
    obtain ⟨g₁, n, hcreate, hvertices, harcs, hnew, hlabel, hprop⟩ := c.create_entity (g := g) x hfresh hid
    have hentity : ([] ++ [(tenantVar, .vertex t.id)] ++ [(c.node, .vertex n.id)] : Env).lookup c.node =
        some (.vertex n.id) := by
      simp [Entries.lookup_cons_eq, hapart]
    have htenant : ([] ++ [(tenantVar, .vertex t.id)] ++ [(c.node, .vertex n.id)] : Env).lookup tenantVar =
        some (.vertex t.id) := by
      simp
    obtain ⟨g', hmember, hvertices', harcs'⟩ := c.create_membership (g := g₁) x hentity htenant
      (by simp [hvertices]) (List.mem_map_of_mem (by simp [hvertices, ht.1]))
    have hfounds : c.Founds .create (some company) g n.id [⟨g₁.nextArc, c.settings.membershipEdge, n.id, t.id, ∅⟩] :=
      ⟨t, _, ht, rfl, by rw [← harcs]; exact fresh_not_mem _, rfl, rfl, rfl⟩
    refine ⟨g', n, _, [(tenantVar, .vertex t.id), (c.node, .vertex n.id)], ?_,
      hentity, begun_new hg (hvertices'.trans hvertices) hnew hlabel hprop hfounds, harcs'.trans (by rw [harcs])⟩
    simp only [writeOpening, Option.isSome_some, if_true, runThrough, Clause.run_matching, List.flatMap_singleton,
      tenantNode, hpaths, Option.bind_some, run_create x hcreate, run_create x hmember]
    rfl

/-- The opening leaves one row, for the entity, which is new or was there. -/
theorem run_opening (hdb : x.db.ComparesTexts) (hg : g.Identified) (hone : c.OneMembership g) {mode : WriteMode}
    {scope : Option String} {id : String} (hid : x.param "id" = .text id)
    (hcompany : ∀ company, scope = some company → x.param companyParam = .text company ∧ c.node ≠ tenantVar)
    (hmatched : c.Matched mode scope id g) :
    ∃ g' n added env, runThrough x (c.writeOpening mode scope.isSome) g [[]] = some (g', [env]) ∧
      env.lookup c.node = some (.vertex n.id) ∧ c.Begun mode scope id g g' n added ∧ g'.arcs = g.arcs ++ added := by
  by_cases hmode : mode = .create
  · subst hmode
    exact c.run_opening_new x hdb hg hid hcompany hmatched
  · obtain ⟨n, env, hrun, hnode, hn⟩ := c.run_opening_found x hdb hg hone hmode hid hcompany hmatched
    exact ⟨g, n, [], env, hrun, hnode, begun_found hg hmode scope hn, (List.append_nil _).symm⟩

/-! ## The assignments -/

/-- The assignments change the entity only, and not its id. -/
theorem run_assignments {entity : Nat} (hnode : env.lookup c.node = some (.vertex entity))
    {assigned : List (String × Expr)} (hid : "id" ∉ assigned.map Prod.fst) :
    ∃ g', (Clause.set (assigned.map (fun e => .assign c.node e.1 e.2))).run x g [env] = some (g', [env]) ∧
      OnlyProps entity g g' := by
  suffices hrun : ∃ g', (assigned.map (fun e => Assignment.assign c.node e.1 e.2)).foldlM (Assignment.run x env) g =
      some g' ∧ OnlyProps entity g g' by
    obtain ⟨g', hrun, hprops⟩ := hrun
    refine ⟨g', ?_, hprops⟩
    rw [Clause.run, eachRow_singleton, setRow, hrun]
    rfl
  induction assigned generalizing g with
  | nil => exact ⟨g, rfl, .refl entity g⟩
  | cons e rest ih =>
    obtain ⟨hkey, hrest⟩ := not_or.1 (mt List.mem_cons.2 hid)
    have hchanged := OnlyProps.changeVertex g entity (Ne.symm hkey) (e.2.value (x.seeing g) env)
    obtain ⟨g', hrun, hprops⟩ := ih (g := _) hrest
    refine ⟨g', ?_, hchanged.trans hprops⟩
    rw [List.map_cons, List.foldlM_cons, Assignment.run, Env.read_of_lookup hnode]
    exact hrun

end EntityGraph.Compile.Compiler
