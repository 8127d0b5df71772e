import EntityGraph.Proofs.Graph.Properties

/-!
# Changes of a graph

New elements get ids that no other element has, arcs join vertices that exist, and a vertex is deleted together with
its arcs or only if it has none. So what a change makes of a property graph is a property graph.
-/
namespace EntityGraph.Graph

/-- A number above all others. -/
def fresh (ids : List Nat) : Nat := ids.foldr (fun id n => max (id + 1) n) 0

theorem lt_fresh {ids : List Nat} {id : Nat} (h : id ∈ ids) : id < fresh ids := by
  induction ids with
  | nil => cases h
  | cons other rest ih =>
    rw [fresh, List.foldr_cons, ← fresh]
    rcases List.mem_cons.1 h with rfl | h
    · omega
    · have := ih h
      omega

theorem fresh_not_mem (ids : List Nat) : fresh ids ∉ ids := fun h => Nat.lt_irrefl _ (lt_fresh h)

theorem nodup_concat_fresh {ids : List Nat} (h : ids.Nodup) : (ids ++ [fresh ids]).Nodup := by
  rw [List.nodup_append]
  refine ⟨h, List.nodup_singleton _, ?_⟩
  rintro id hid _ hfresh rfl
  exact fresh_not_mem ids (List.mem_singleton.1 hfresh ▸ hid)

/-- The vertex with its properties changed, if it has an id. -/
def Vertex.changed (id : Nat) (f : Dict Val → Dict Val) (v : Vertex) : Vertex :=
  if v.id = id then { v with props := f v.props } else v

/-- The arc with its properties changed, if it has an id. -/
def Arc.changed (id : Nat) (f : Dict Val → Dict Val) (a : Arc) : Arc :=
  if a.id = id then { a with props := f a.props } else a

/-- What stays of an arc when its properties change. -/
def Arc.bare (a : Arc) : Nat × String × Nat × Nat := (a.id, a.type, a.source, a.target)

@[simp] theorem Vertex.changed_id (id : Nat) (f : Dict Val → Dict Val) (v : Vertex) : (v.changed id f).id = v.id := by
  unfold changed
  split <;> rfl

@[simp] theorem Vertex.changed_labels (id : Nat) (f : Dict Val → Dict Val) (v : Vertex) :
    (v.changed id f).labels = v.labels := by
  unfold changed
  split <;> rfl

@[simp] theorem Arc.changed_bare (id : Nat) (f : Dict Val → Dict Val) (a : Arc) : (a.changed id f).bare = a.bare := by
  unfold changed
  split <;> rfl

theorem Arc.changed_of_ne {id : Nat} {a : Arc} (h : a.id ≠ id) (f : Dict Val → Dict Val) : a.changed id f = a :=
  if_neg h

namespace PropertyGraph

variable (g : PropertyGraph)

/-- The id of the next vertex. -/
def nextVertex : Nat := fresh (g.vertices.map Vertex.id)

/-- The id of the next arc. -/
def nextArc : Nat := fresh (g.arcs.map Arc.id)

/-- Adds a vertex. -/
def addVertex (labels : List String) (props : Dict Val) : PropertyGraph where
  vertices := g.vertices ++ [⟨g.nextVertex, labels, props⟩]
  arcs := g.arcs
  vertices_nodup := by
    rw [List.map_append]
    exact nodup_concat_fresh g.vertices_nodup
  arcs_nodup := g.arcs_nodup
  closed := fun a ha => by
    rw [List.map_append]
    exact ⟨List.mem_append_left _ (g.closed a ha).1, List.mem_append_left _ (g.closed a ha).2⟩

/-- Adds an arc between vertices of the graph. -/
def addArc? (type : String) (source target : Nat) (props : Dict Val) : Option PropertyGraph :=
  if h : source ∈ g.vertices.map Vertex.id ∧ target ∈ g.vertices.map Vertex.id then
    some {
      vertices := g.vertices
      arcs := g.arcs ++ [⟨g.nextArc, type, source, target, props⟩]
      vertices_nodup := g.vertices_nodup
      arcs_nodup := by
        rw [List.map_append]
        exact nodup_concat_fresh g.arcs_nodup
      closed := by
        intro a ha
        rcases List.mem_append.1 ha with ha | ha
        · exact g.closed a ha
        · obtain rfl := List.mem_singleton.1 ha
          exact h }
  else none

/-- Changes the properties of a vertex. -/
def changeVertex (id : Nat) (f : Dict Val → Dict Val) : PropertyGraph where
  vertices := g.vertices.map (Vertex.changed id f)
  arcs := g.arcs
  vertices_nodup := by
    simpa only [List.map_map, Function.comp_def, Vertex.changed_id] using g.vertices_nodup
  arcs_nodup := g.arcs_nodup
  closed := by
    simpa only [List.map_map, Function.comp_def, Vertex.changed_id] using g.closed

/-- Changes the properties of an arc. -/
def changeArc (id : Nat) (f : Dict Val → Dict Val) : PropertyGraph where
  vertices := g.vertices
  arcs := g.arcs.map (Arc.changed id f)
  vertices_nodup := g.vertices_nodup
  arcs_nodup := by
    have hids : (g.arcs.map (Arc.changed id f)).map Arc.id = g.arcs.map Arc.id := by
      rw [List.map_map]
      exact List.map_congr_left fun a _ => congrArg Prod.fst (a.changed_bare id f)
    rw [hids]
    exact g.arcs_nodup
  closed := by
    intro a ha
    obtain ⟨b, hb, rfl⟩ := List.mem_map.1 ha
    have hends : (b.changed id f).source = b.source ∧ (b.changed id f).target = b.target := by
      simpa [Arc.bare] using (congrArg (·.2.2) (b.changed_bare id f))
    rw [hends.1, hends.2]
    exact g.closed b hb

/-- Changes the properties of an element. Nothing happens to null. -/
def change? (v : Val) (f : Dict Val → Dict Val) : Option PropertyGraph :=
  match v with
  | .vertex id => some (g.changeVertex id f)
  | .arc id => some (g.changeArc id f)
  | .null => some g
  | _ => none

/-- Drops arcs and vertices. A vertex that has other arcs left takes them along or stops the deletion. -/
def delete? (arcs vertices : List Nat) (detach : Bool) : Option PropertyGraph :=
  let kept := g.arcs.filter (fun a =>
    !arcs.contains a.id && !(detach && (vertices.contains a.source || vertices.contains a.target)))
  if h : ∀ a ∈ kept, a.source ∉ vertices ∧ a.target ∉ vertices then
    some {
      vertices := g.vertices.filter (fun v => !vertices.contains v.id)
      arcs := kept
      vertices_nodup := List.Nodup.sublist (List.filter_sublist.map _) g.vertices_nodup
      arcs_nodup := List.Nodup.sublist (List.filter_sublist.map _) g.arcs_nodup
      closed := by
        have hstays {id : Nat} (hid : id ∈ g.vertices.map Vertex.id) (hnot : id ∉ vertices) :
            id ∈ (g.vertices.filter (fun v => !vertices.contains v.id)).map Vertex.id := by
          obtain ⟨v, hv, rfl⟩ := List.mem_map.1 hid
          exact List.mem_map_of_mem (List.mem_filter.2 ⟨hv, by simpa using hnot⟩)
        intro a ha
        have hends := g.closed a (List.mem_filter.1 ha).1
        exact ⟨hstays hends.1 (h a ha).1, hstays hends.2 (h a ha).2⟩ }
  else none

/-- A deletion of arcs. -/
theorem delete?_arcs (arcs : List Nat) (detach : Bool) :
    ∃ g', g.delete? arcs [] detach = some g' ∧ g'.vertices = g.vertices ∧
      ∀ a, a ∈ g'.arcs ↔ a ∈ g.arcs ∧ a.id ∉ arcs := by
  refine ⟨_, dif_pos fun _ _ => ⟨List.not_mem_nil, List.not_mem_nil⟩, ?_, fun a => ?_⟩
  · simp
  · simp [List.mem_filter]

/-- An arc between vertices of the graph is added. -/
theorem addArc?_of_mem {source target : Nat} (hsource : source ∈ g.vertices.map Vertex.id)
    (htarget : target ∈ g.vertices.map Vertex.id) (type : String) (props : Dict Val) :
    ∃ g', g.addArc? type source target props = some g' ∧ g'.vertices = g.vertices ∧
      g'.arcs = g.arcs ++ [⟨g.nextArc, type, source, target, props⟩] :=
  ⟨_, dif_pos ⟨hsource, htarget⟩, rfl, rfl⟩

end PropertyGraph
end EntityGraph.Graph
