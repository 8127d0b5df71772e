import EntityGraph.Proofs.Compile.Links
import EntityGraph.Proofs.Writing.Links

/-!
# What the subqueries of a write do together

The subqueries run one relationship after the other, each on what the ones before left. Relationships of different types
do not touch each other's links, so what one subquery brings about stays until the end.
-/
namespace EntityGraph.Compile.Compiler

open Cypher EntityGraph.Graph PropertyGraph
open Schema (Relationship)

/-- A row that stands for the entity, in a graph whose vertices have ids. -/
structure Standing (c : Compiler) (x : Context) (g : PropertyGraph) (n : Vertex) (env : Env) : Prop where
  compares : x.db.ComparesTexts
  ids : ∀ v ∈ g.vertices, v.prop "id" ≠ .null
  vertex : n ∈ g.vertices
  node : env.lookup c.node = some (.vertex n.id)

variable {c : Compiler} {x : Context} {g g' : PropertyGraph} {n : Vertex} {env : Env}

theorem Standing.congr (h : c.Standing x g n env) (hvertices : g'.vertices = g.vertices) : c.Standing x g' n env where
  compares := h.compares
  ids := hvertices ▸ h.ids
  vertex := hvertices ▸ h.vertex
  node := h.node

/-- A subquery runs for the entity and leaves the row as it is. -/
theorem Standing.run_subquery (h : c.Standing x g n env) {body : List Clause} {rows : List Env}
    (hbody : runThrough x body g [[(c.node, .vertex n.id)]] = some (g', rows)) :
    runThrough x [.subquery [c.node] body] g [env] = some (g', [env]) := by
  have honly : env.only [c.node] = [(c.node, .vertex n.id)] := by
    simp [Env.only, h.node]
  rw [runThrough, Clause.run, eachRow_singleton, honly, hbody]
  rfl

/-! ## Links -/

/-- What the subqueries for a relationship rely on: the list of ids, unless nothing is done about it, and names of their
own for what they introduce. -/
structure Prepared (c : Compiler) (x : Context) (mode : WriteMode) (l : Links) : Prop where
  lists : (mode = .create → l.ids.isEmpty = false) → x.param l.name = .list (l.ids.map .text)
  stale : mode ≠ .create → c.node ∉ staleVars l.name
  merged : l.ids.isEmpty = false → c.node ∉ mergeVars l.name

theorem run_stale (h : c.Standing x g n env) {mode : WriteMode} {l : Links} (hready : c.Prepared x mode l)
    (hnew : mode = .create → ∀ v, ¬g.Joins l.relationship n.id v) :
    ∃ g', runThrough x (if mode = .create then [] else [.subquery [c.node] (c.staleBody l.name l.relationship)]) g
        [env] = some (g', [env]) ∧ OnlyLinks [l.relationship] n.id g g' ∧
      ∀ v, g'.Joins l.relationship n.id v → g.Listed l.relationship l.ids v := by
  by_cases hmode : mode = .create
  · refine ⟨g, ?_, .refl _ _ g, fun v hv => absurd hv (hnew hmode v)⟩
    rw [if_pos hmode]
    rfl
  · have hparam := hready.lists fun hcreate => absurd hcreate hmode
    obtain ⟨g', rows, hbody, honly, hjoins⟩ :=
      c.run_staleBody (r := l.relationship) x (hready.stale hmode) h.compares h.ids hparam h.vertex
    refine ⟨g', ?_, honly, fun v hv => ?_⟩
    · rw [if_neg hmode]
      exact h.run_subquery hbody
    · obtain ⟨⟨hvertex, hlabel, -⟩, hlisted⟩ := (hjoins v).1 hv
      exact ⟨hvertex, hlabel, hlisted⟩

theorem run_merge (h : c.Standing x g n env) {mode : WriteMode} {l : Links} (hready : c.Prepared x mode l) :
    ∃ g', runThrough x (if l.ids.isEmpty then []
          else [.subquery [c.node] (c.mergeBody l.name l.relationship l.edgeProps.isSome)]) g [env] =
        some (g', [env]) ∧ OnlyLinks [l.relationship] n.id g g' ∧
      ∀ v, g'.Joins l.relationship n.id v ↔ g.Joins l.relationship n.id v ∨ g.Listed l.relationship l.ids v := by
  cases hids : l.ids.isEmpty with
  | true =>
    refine ⟨g, rfl, .refl _ _ g, fun v => (or_iff_left ?_).symm⟩
    rintro ⟨-, -, hlisted⟩
    rw [List.isEmpty_iff.1 hids] at hlisted
    cases hlisted
  | false =>
    obtain ⟨g', rows, hbody, honly, hjoins⟩ := c.run_mergeBody (r := l.relationship) x h.compares h.ids
      (hready.merged hids) (hready.lists fun _ => hids) h.vertex l.edgeProps.isSome
    exact ⟨g', h.run_subquery hbody, honly, hjoins⟩

/-- The links of one relationship: behind its subqueries they lead to what is listed. -/
theorem run_linkClauses (h : c.Standing x g n env) {mode : WriteMode} {l : Links} (hready : c.Prepared x mode l)
    (hnew : mode = .create → ∀ v, ¬g.Joins l.relationship n.id v) :
    ∃ g', runThrough x (c.linkClauses mode l) g [env] = some (g', [env]) ∧ OnlyLinks [l.relationship] n.id g g' ∧
      ∀ v, g'.Joins l.relationship n.id v ↔ g.Listed l.relationship l.ids v := by
  obtain ⟨g₁, hstale, honly₁, hkept⟩ := run_stale h hready hnew
  obtain ⟨g₂, hmerge, honly₂, hjoins⟩ := run_merge (h.congr honly₁.vertices) hready
  refine ⟨g₂, ?_, honly₁.trans honly₂, fun v => ?_⟩
  · rw [linkClauses, runThrough_append, hstale, Option.bind_some, hmerge]
  · rw [hjoins, listed_congr honly₁.vertices]
    exact or_iff_right_of_imp (hkept v)

/-- The links of relationships of different types. -/
theorem run_links (h : c.Standing x g n env) {mode : WriteMode} {links : List Links}
    (hready : ∀ l ∈ links, c.Prepared x mode l)
    (htypes : (links.map (fun l => l.relationship.type)).Nodup)
    (hnew : mode = .create → ∀ l ∈ links, ∀ v, ¬g.Joins l.relationship n.id v) :
    ∃ g', runThrough x (links.flatMap (c.linkClauses mode)) g [env] = some (g', [env]) ∧
      OnlyLinks (links.map Links.relationship) n.id g g' ∧
      ∀ l ∈ links, ∀ v, g'.Joins l.relationship n.id v ↔ g.Listed l.relationship l.ids v := by
  induction links generalizing g with
  | nil => exact ⟨g, rfl, .refl _ _ g, by simp⟩
  | cons l rest ih =>
    obtain ⟨hother, htypes⟩ := List.nodup_cons.1 htypes
    have hrest {l' : Links} (hl' : l' ∈ rest) := List.mem_cons_of_mem l hl'
    obtain ⟨g₁, hfirst, honly₁, hjoins₁⟩ := run_linkClauses h (hready l List.mem_cons_self)
      fun hmode => hnew hmode l List.mem_cons_self
    have hnew' : mode = .create → ∀ l' ∈ rest, ∀ v, ¬g₁.Joins l'.relationship n.id v := by
      intro hmode l' hl' v
      rw [honly₁.joins_of_type ?_ v]
      · exact hnew hmode l' (hrest hl') v
      · rw [List.map_singleton, List.mem_singleton]
        exact fun heq => hother (List.mem_map.2 ⟨l', hl', heq⟩)
    obtain ⟨g₂, hothers, honly₂, hjoins₂⟩ := ih (h.congr honly₁.vertices) (fun l' hl' => hready l' (hrest hl'))
      htypes hnew'
    refine ⟨g₂, ?_, (honly₁.mono ?_).trans (honly₂.mono ?_), fun l' hl' v => ?_⟩
    · rw [List.flatMap_cons, runThrough_append, hfirst, Option.bind_some, hothers]
    · exact List.cons_subset_cons _ (List.nil_subset _)
    · exact List.subset_cons_self _ _
    · rcases List.mem_cons.1 hl' with rfl | hl'
      · rw [honly₂.joins_of_type ?_ v, hjoins₁]
        rwa [List.map_map]
      · rw [hjoins₂ l' hl' v, listed_congr honly₁.vertices]

/-! ## Changes of edges -/

/-- The changes of edges leave everything as it is but the properties of links. -/
theorem run_updates (h : c.Standing x g n env) {updates : List EdgeUpdate}
    (hnames : ∀ u ∈ updates, c.node ∉ mergeVars u.name) :
    ∃ g', runThrough x (updates.map c.updateClause) g [env] = some (g', [env]) ∧
      OnlyLinks (updates.map EdgeUpdate.relationship) n.id g g' ∧ g'.arcs.map Arc.bare = g.arcs.map Arc.bare := by
  induction updates generalizing g with
  | nil => exact ⟨g, rfl, .refl _ _ g, rfl⟩
  | cons u rest ih =>
    obtain ⟨g₁, rows, hbody, honly₁, hbare₁⟩ :=
      c.run_updateBody (r := u.relationship) x (hnames u List.mem_cons_self) h.vertex
    obtain ⟨g₂, hothers, honly₂, hbare₂⟩ := ih (h.congr honly₁.vertices)
      fun u' hu' => hnames u' (List.mem_cons_of_mem u hu')
    refine ⟨g₂, ?_, (honly₁.mono ?_).trans (honly₂.mono ?_), hbare₂.trans hbare₁⟩
    · rw [List.map_cons, ← List.singleton_append, runThrough_append, updateClause, h.run_subquery hbody,
        Option.bind_some, hothers]
    · exact List.cons_subset_cons _ (List.nil_subset _)
    · exact List.subset_cons_self _ _

end EntityGraph.Compile.Compiler
