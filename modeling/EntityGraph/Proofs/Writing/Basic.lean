import EntityGraph.Proofs.Graph.Effects
import EntityGraph.Proofs.Listing.Basic

/-!
# Links in a graph

The arcs of a relationship at a vertex, the vertices that they join to it, and changes of a graph that leave all other
arcs and the vertices alone. Nothing here refers to clauses.
-/
namespace EntityGraph.Graph

open Schema (Relationship)

/-- Every value but null is equal to a text or different from it, as it is that text or not. -/
def Database.ComparesTexts (db : Database) : Prop :=
  ∀ v s, v ≠ .null → db.equal v (.text s) = some true ∧ v = .text s ∨ db.equal v (.text s) = some false ∧ v ≠ .text s

theorem Database.ComparesTexts.equal_iff {db : Database} (h : db.ComparesTexts) {v : Val} (hv : v ≠ .null)
    (s : String) : db.equal v (.text s) = some true ↔ v = .text s := by
  rcases h v s hv with ⟨hequal, heq⟩ | ⟨hequal, hne⟩
  · exact iff_of_true hequal heq
  · exact iff_of_false (by simp [hequal]) hne

/-- Values of a graph on its own compare with texts. -/
theorem comparesTexts_ofGraph (g : PropertyGraph) : (Database.ofGraph g).ComparesTexts := by
  intro v s hv
  have hnull : v.isNull = false := by
    cases v <;> first | rfl | exact absurd rfl hv
  cases v <;> simp_all [Database.ofGraph, Val.isNull, Val.same, eq_or_ne]

theorem anyOf_eq_false_iff {parts : List (Option Bool)} : anyOf parts = some false ↔ ∀ p ∈ parts, p = some false := by
  unfold anyOf
  constructor
  · intro h p hp
    split at h
    · cases h
    · rename_i htrue
      split at h
      · cases h
      · rename_i hnone
        match p with
        | some false => rfl
        | some true => exact absurd (List.contains_iff_mem.2 hp) htrue
        | none => exact absurd (List.contains_iff_mem.2 hp) hnone
  · intro h
    have htrue : ¬parts.contains (some true) = true := fun hc => by
      have := h _ (List.contains_iff_mem.1 hc)
      cases this
    have hnone : ¬parts.contains none = true := fun hc => by
      have := h _ (List.contains_iff_mem.1 hc)
      cases this
    rw [if_neg htrue, if_neg hnone]

/-- A value that is not null is known not to be in a list of texts if it is none of them. -/
theorem Context.isIn_texts_eq_false_iff {x : Context} (hdb : x.db.ComparesTexts) {v : Val} (hv : v ≠ .null)
    (ids : List String) : x.isIn v (.list (ids.map .text)) = some false ↔ v ∉ ids.map Val.text := by
  rw [Context.isIn, anyOf_eq_false_iff, List.map_map, List.forall_mem_map, List.mem_map]
  constructor
  · rintro h ⟨s, hs, rfl⟩
    have hequal := h s hs
    rw [Function.comp_apply, (hdb.equal_iff hv s).2 rfl] at hequal
    cases hequal
  · intro h s hs
    rcases hdb v s hv with ⟨-, heq⟩ | ⟨hequal, -⟩
    · exact absurd ⟨s, hs, heq.symm⟩ h
    · exact hequal

/-! ## Arcs -/

/-- An arc leads to one vertex at most. -/
theorem Arc.eq_of_mem_ends {a : Arc} {arrow : Cypher.Arrow} {id p q : Nat} (hp : p ∈ a.ends arrow id)
    (hq : q ∈ a.ends arrow id) : p = q := by
  unfold Arc.ends at hp hq
  cases arrow <;> dsimp only at hp hq <;> split_ifs at hp hq <;> simp_all

/-- What an arc leads to does not depend on its properties. -/
theorem Arc.ends_congr {a b : Arc} (h : a.bare = b.bare) (arrow : Cypher.Arrow) (id : Nat) :
    a.ends arrow id = b.ends arrow id := by
  simp only [Arc.bare, Prod.mk.injEq] at h
  simp only [Arc.ends, h.2.2]

namespace PropertyGraph

variable (g : PropertyGraph)

theorem arc_eq_of_id_eq {a b : Arc} (ha : a ∈ g.arcs) (hb : b ∈ g.arcs) (h : a.id = b.id) : a = b := by
  have hfound := g.find?_arc ha
  rw [h, g.find?_arc hb] at hfound
  exact (Option.some.inj hfound).symm

/-! ## Links -/

/-- Whether an arc is one of a relationship at a vertex: it has the type, and leads in the direction of the relationship
to a vertex with the target's label. -/
def IsLink (r : Relationship) (id : Nat) (a : Arc) : Prop :=
  a.type = r.type ∧ ∃ v ∈ g.vertices, r.target ∈ v.labels ∧ v.id ∈ a.ends r.arrow id

/-- Whether a relationship joins a vertex with the target's label to a vertex. -/
def Joins (r : Relationship) (id : Nat) (v : Vertex) : Prop :=
  v ∈ g.vertices ∧ r.target ∈ v.labels ∧ ∃ a ∈ g.arcs, a.type = r.type ∧ v.id ∈ a.ends r.arrow id

/-- Whether a vertex is a target of a relationship with one of some ids. -/
def Listed (r : Relationship) (ids : List String) (v : Vertex) : Prop :=
  v ∈ g.vertices ∧ r.target ∈ v.labels ∧ v.prop "id" ∈ ids.map Val.text

variable {g} {g' : PropertyGraph} {r : Relationship} {id : Nat} {a : Arc} {v : Vertex}

theorem mem_linked_iff : (a, v) ∈ linked g r id ↔
    a ∈ g.arcs ∧ a.type = r.type ∧ v ∈ g.vertices ∧ r.target ∈ v.labels ∧ v.id ∈ a.ends r.arrow id := by
  rw [linked, List.mem_filter, mem_reached, decide_eq_true_iff]
  simp only [and_assoc, and_comm (a := v.id ∈ a.ends r.arrow id)]

theorem joins_iff : g.Joins r id v ↔ ∃ a, (a, v) ∈ linked g r id := by
  simp only [mem_linked_iff, Joins]
  constructor
  · rintro ⟨hv, hlabel, a, ha, htype, hends⟩
    exact ⟨a, ha, htype, hv, hlabel, hends⟩
  · rintro ⟨a, ha, htype, hv, hlabel, hends⟩
    exact ⟨hv, hlabel, a, ha, htype, hends⟩

theorem isLink_of_mem_linked (h : (a, v) ∈ linked g r id) : g.IsLink r id a := by
  obtain ⟨-, htype, hv, hlabel, hends⟩ := mem_linked_iff.1 h
  exact ⟨htype, v, hv, hlabel, hends⟩

/-- A change of the graph that leaves everything alone but the arcs of some relationships at a vertex. -/
structure OnlyLinks (rs : List Relationship) (id : Nat) (g g' : PropertyGraph) : Prop where
  vertices : g'.vertices = g.vertices
  arcs : ∀ a, (∀ r ∈ rs, ¬g.IsLink r id a) → (a ∈ g'.arcs ↔ a ∈ g.arcs)

theorem isLink_congr (h : g'.vertices = g.vertices) : g'.IsLink r id a ↔ g.IsLink r id a := by
  rw [IsLink, IsLink, h]

theorem listed_congr (h : g'.vertices = g.vertices) {ids : List String} : g'.Listed r ids v ↔ g.Listed r ids v := by
  rw [Listed, Listed, h]

namespace OnlyLinks

variable {rs rs' : List Relationship} {g'' : PropertyGraph}

theorem refl (rs : List Relationship) (id : Nat) (g : PropertyGraph) : OnlyLinks rs id g g := ⟨rfl, fun _ _ => Iff.rfl⟩

theorem mono (h : OnlyLinks rs id g g') (hsubset : rs ⊆ rs') : OnlyLinks rs' id g g' where
  vertices := h.vertices
  arcs := fun a ha => h.arcs a fun r hr => ha r (hsubset hr)

theorem trans (h : OnlyLinks rs id g g') (h' : OnlyLinks rs id g' g'') : OnlyLinks rs id g g'' where
  vertices := h'.vertices.trans h.vertices
  arcs := fun a ha => (h'.arcs a fun r hr => mt (isLink_congr h.vertices).1 (ha r hr)).trans (h.arcs a ha)

/-- An arc of another type stays. -/
theorem arcs_of_type (h : OnlyLinks rs id g g') (htype : a.type ∉ rs.map Relationship.type) :
    a ∈ g'.arcs ↔ a ∈ g.arcs :=
  h.arcs a fun r hr hlink => htype (List.mem_map.2 ⟨r, hr, hlink.1.symm⟩)

/-- What a relationship of another type joins stays. -/
theorem joins_of_type (h : OnlyLinks rs id g g') (htype : r.type ∉ rs.map Relationship.type) (v : Vertex) :
    g'.Joins r id v ↔ g.Joins r id v := by
  rw [Joins, Joins, h.vertices]
  refine and_congr_right fun _ => and_congr_right fun _ => exists_congr fun a => ?_
  rw [and_left_comm (a := a ∈ g'.arcs), and_left_comm (a := a ∈ g.arcs)]
  refine and_congr_right fun heq => and_congr_left fun _ => h.arcs_of_type ?_
  rwa [heq]

end OnlyLinks

/-! ## Fewer links -/

/-- The links to some vertices are dropped. -/
theorem joins_of_dropped {ids : List Nat} {keep : Vertex → Prop} (hvertices : g'.vertices = g.vertices)
    (harcs : ∀ a, a ∈ g'.arcs ↔ a ∈ g.arcs ∧ a.id ∉ ids)
    (hids : ∀ a ∈ g.arcs, a.id ∈ ids ↔ ∃ v, (a, v) ∈ linked g r id ∧ ¬keep v) :
    OnlyLinks [r] id g g' ∧ ∀ v, g'.Joins r id v ↔ g.Joins r id v ∧ keep v := by
  refine ⟨⟨hvertices, fun a ha => ?_⟩, fun v => ?_⟩
  · rw [harcs, and_iff_left_iff_imp]
    rintro hmem hid
    obtain ⟨v, hlinked, -⟩ := (hids a hmem).1 hid
    exact ha r (List.mem_singleton_self r) (isLink_of_mem_linked hlinked)
  · have hlinked {a : Arc} : (a, v) ∈ linked g' r id ↔ (a, v) ∈ linked g r id ∧ a.id ∉ ids := by
      rw [mem_linked_iff, mem_linked_iff, hvertices, harcs]
      tauto
    simp only [joins_iff, hlinked]
    constructor
    · rintro ⟨a, ha, hkept⟩
      refine ⟨⟨a, ha⟩, Classical.byContradiction fun hv => hkept ?_⟩
      exact (hids a (mem_linked_iff.1 ha).1).2 ⟨v, ha, hv⟩
    · rintro ⟨⟨a, ha⟩, hv⟩
      refine ⟨a, ha, fun hid => ?_⟩
      obtain ⟨hmem, -, hvertex, -, hends⟩ := mem_linked_iff.1 ha
      obtain ⟨u, hu, hnot⟩ := (hids a hmem).1 hid
      obtain ⟨-, -, huvertex, -, huends⟩ := mem_linked_iff.1 hu
      -- An arc leads to one vertex only, so what is dropped for another target was no link to this one.
      obtain rfl := g.eq_of_id_eq hvertex huvertex (Arc.eq_of_mem_ends hends huends)
      exact hnot hv

/-! ## More links -/

/-- A change of the graph that keeps all arcs and adds links to some vertices. -/
structure Adds (r : Relationship) (id : Nat) (more : Vertex → Prop) (g g' : PropertyGraph) : Prop where
  only : OnlyLinks [r] id g g'
  kept : ∀ a ∈ g.arcs, a ∈ g'.arcs
  joins : ∀ v, g'.Joins r id v ↔ g.Joins r id v ∨ more v

theorem Adds.refl {more : Vertex → Prop} (h : ∀ v, more v → g.Joins r id v) : Adds r id more g g where
  only := .refl [r] id g
  kept := fun _ ha => ha
  joins := fun v => (or_iff_left_of_imp (h v)).symm

theorem Adds.trans {more more' : Vertex → Prop} {g'' : PropertyGraph} (h : Adds r id more g g')
    (h' : Adds r id more' g' g'') : Adds r id (fun v => more v ∨ more' v) g g'' where
  only := h.only.trans h'.only
  kept := fun a ha => h'.kept a (h.kept a ha)
  joins := fun v => by rw [h'.joins, h.joins, or_assoc]

theorem Adds.congr {more more' : Vertex → Prop} (h : Adds r id more g g') (hmore : ∀ v, more v ↔ more' v) :
    Adds r id more' g g' where
  only := h.only
  kept := h.kept
  joins := fun v => by rw [h.joins, hmore]

/-- A link is added at the end. -/
theorem adds_concat (hvertices : g'.vertices = g.vertices) (harcs : g'.arcs = g.arcs ++ [a]) (htype : a.type = r.type)
    (hends : a.ends r.arrow id = [v.id]) (hv : v ∈ g.vertices) (hlabel : r.target ∈ v.labels) :
    Adds r id (· = v) g g' := by
  have hmem : v.id ∈ a.ends r.arrow id := hends ▸ List.mem_singleton_self _
  refine ⟨⟨hvertices, fun b hb => ?_⟩, fun b hb => harcs ▸ List.mem_append_left _ hb, fun u => ?_⟩
  · rw [harcs, List.mem_append, List.mem_singleton, or_iff_left_iff_imp]
    rintro rfl
    exact absurd ⟨htype, v, hv, hlabel, hmem⟩ (hb r (List.mem_singleton_self r))
  · simp only [Joins, hvertices, harcs, List.mem_append, List.mem_singleton]
    constructor
    · rintro ⟨hu, hlabel', b, hb | rfl, htype', hends'⟩
      · exact .inl ⟨hu, hlabel', b, hb, htype', hends'⟩
      · rw [hends, List.mem_singleton] at hends'
        exact .inr (g.eq_of_id_eq hu hv hends')
    · rintro (⟨hu, hlabel', b, hb, htype', hends'⟩ | rfl)
      · exact ⟨hu, hlabel', b, .inl hb, htype', hends'⟩
      · exact ⟨hv, hlabel, a, .inr rfl, htype, hmem⟩

/-! ## Changes of properties -/

theorem isLink_congr_bare {b : Arc} (h : b.bare = a.bare) : g.IsLink r id b ↔ g.IsLink r id a := by
  have htype : b.type = a.type := congrArg (·.2.1) h
  simp only [IsLink, htype, Arc.ends_congr h]

/-- What is joined does not depend on the properties of arcs. -/
theorem joins_congr_bare (hvertices : g'.vertices = g.vertices) (harcs : g'.arcs.map Arc.bare = g.arcs.map Arc.bare) :
    g'.Joins r id v ↔ g.Joins r id v := by
  have hforward {g g' : PropertyGraph} (h : g'.arcs.map Arc.bare = g.arcs.map Arc.bare) :
      (∃ a ∈ g.arcs, a.type = r.type ∧ v.id ∈ a.ends r.arrow id) →
        ∃ a ∈ g'.arcs, a.type = r.type ∧ v.id ∈ a.ends r.arrow id := by
    rintro ⟨a, ha, htype, hends⟩
    obtain ⟨b, hb, hbare⟩ := List.mem_map.1 (h ▸ List.mem_map_of_mem ha : a.bare ∈ g'.arcs.map Arc.bare)
    refine ⟨b, hb, (congrArg (·.2.1) hbare).trans htype, ?_⟩
    rwa [Arc.ends_congr hbare]
  rw [Joins, Joins, hvertices]
  exact and_congr_right fun _ => and_congr_right fun _ => ⟨hforward harcs.symm, hforward harcs⟩

/-- A change of the properties of a link. -/
theorem onlyLinks_changeArc (ha : a ∈ g.arcs) (hlink : g.IsLink r id a) (f : Dict Val → Dict Val) :
    OnlyLinks [r] id g (g.changeArc a.id f) where
  vertices := rfl
  arcs := by
    intro b hb
    replace hb := hb r (List.mem_singleton_self r)
    have hother {d : Arc} (hd : d ∈ g.arcs) (hnot : ¬g.IsLink r id d) : d.changed a.id f = d := by
      refine Arc.changed_of_ne (fun hid => hnot ?_) f
      rwa [g.arc_eq_of_id_eq hd ha hid]
    constructor
    · intro hmem
      obtain ⟨d, hd, rfl⟩ := List.mem_map.1 hmem
      rw [isLink_congr_bare (d.changed_bare a.id f)] at hb
      rwa [hother hd hb]
    · intro hmem
      exact List.mem_map.2 ⟨b, hmem, hother hmem hb⟩

theorem bare_changeArc (i : Nat) (f : Dict Val → Dict Val) :
    (g.changeArc i f).arcs.map Arc.bare = g.arcs.map Arc.bare := by
  rw [changeArc, List.map_map]
  exact List.map_congr_left fun a _ => a.changed_bare i f

end PropertyGraph
end EntityGraph.Graph
