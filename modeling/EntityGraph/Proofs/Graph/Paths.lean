import EntityGraph.Proofs.Graph.Rows

/-!
# Paths of one hop

The patterns of reads have one hop at most. Which rows such a pattern makes of a row is written down here without
the search for the path: the arcs of a type at a vertex, each with the vertex that it leads to.
-/
namespace EntityGraph.Graph

/-! ## Rows under evaluation -/

namespace Env

@[simp] theorem vars_nil : vars [] = [] := rfl

@[simp] theorem vars_cons (name : String) (v : Val) (env : Env) : vars ((name, v) :: env) = name :: vars env := rfl

@[simp] theorem vars_append (env env' : Env) : vars (env ++ env') = vars env ++ vars env' := List.map_append

theorem read_of_lookup {env : Env} {name : String} {v : Val} (h : env.lookup name = some v) : env.read name = v := by
  rw [read, h, Option.getD_some]

theorem lookup_eq_none_of_not_mem {env : Env} {name : String} (h : name ∉ env.vars) : env.lookup name = none := by
  rw [List.lookup_eq_none_iff]
  intro e he
  rw [bne_iff_ne]
  rintro rfl
  exact h (List.mem_map_of_mem he)

theorem bind?_fresh {env : Env} {name : String} (h : env.lookup name = none) (v : Val) :
    env.bind? (some name) v = some (env ++ [(name, v)]) := by
  simp only [bind?, h]

theorem bind?_vertex {env : Env} {name : String} {id : Nat} (h : env.lookup name = some (.vertex id)) (other : Nat) :
    env.bind? (some name) (.vertex other) = if id = other then some env else none := by
  by_cases heq : id = other <;> simp [bind?, h, heq]

end Env

/-! ## Arcs at a vertex -/

namespace PropertyGraph

variable (g : PropertyGraph)

/-- The arcs of a type at a vertex, each with the vertex at its other end. -/
def reached (type : String) (arrow : Cypher.Arrow) (id : Nat) : List (Arc × Vertex) :=
  g.arcs.flatMap (fun a =>
    if a.type = type then (a.ends arrow id).flatMap (fun other => (g.withId other).map (fun v => (a, v))) else [])

theorem mem_reached {type : String} {arrow : Cypher.Arrow} {id : Nat} {p : Arc × Vertex} :
    p ∈ g.reached type arrow id ↔
      p.1 ∈ g.arcs ∧ p.1.type = type ∧ p.2 ∈ g.vertices ∧ p.2.id ∈ p.1.ends arrow id := by
  obtain ⟨a, v⟩ := p
  unfold reached
  constructor
  · intro h
    obtain ⟨b, hb, h⟩ := List.mem_flatMap.1 h
    split at h
    · rename_i htype
      obtain ⟨other, hother, h⟩ := List.mem_flatMap.1 h
      obtain ⟨u, hu, heq⟩ := List.mem_map.1 h
      cases heq
      obtain ⟨hv, rfl⟩ := g.mem_withId.1 hu
      exact ⟨hb, htype, hv, hother⟩
    · cases h
  · rintro ⟨ha, htype, hv, hends⟩
    refine List.mem_flatMap.2 ⟨a, ha, ?_⟩
    rw [if_pos htype]
    exact List.mem_flatMap.2 ⟨v.id, hends, List.mem_map.2 ⟨v, g.mem_withId.2 ⟨hv, rfl⟩, rfl⟩⟩

theorem length_withId_le_one (id : Nat) : (g.withId id).length ≤ 1 := by
  cases hfound : g.withId id with
  | nil => exact Nat.zero_le 1
  | cons v rest =>
    obtain ⟨hv, rfl⟩ := g.mem_withId.1 (hfound ▸ List.mem_cons_self : v ∈ g.withId id)
    rw [← hfound, g.withId_of_mem hv, List.length_singleton]

/-- An arc is reached once at most, also if it returns to its vertex. -/
theorem reached_nodup (type : String) (arrow : Cypher.Arrow) (id : Nat) :
    (g.reached type arrow id).Nodup := by
  have hends (a : Arc) : (a.ends arrow id).length ≤ 1 := by
    unfold Arc.ends
    cases arrow <;> dsimp only <;> split_ifs <;> simp_all
  have hids : ((g.reached type arrow id).map (fun p => p.1.id)).Nodup := by
    refine nodup_map_flatMap g.arcs_nodup ?_ ?_
    · intro a ha p hp
      split at hp
      · obtain ⟨other, -, hp⟩ := List.mem_flatMap.1 hp
        obtain ⟨v, -, rfl⟩ := List.mem_map.1 hp
        rfl
      · cases hp
    · intro a ha
      split
      · match a.ends arrow id, hends a with
        | [], _ => exact Nat.zero_le 1
        | [other], _ => simpa using g.length_withId_le_one other
        | _ :: _ :: _, h => simp at h
      · exact Nat.zero_le 1
  exact List.Nodup.of_map _ hids

/-- A search for the vertex with a known id. -/
theorem flatMap_vertex {β : Type} {v : Vertex} (h : v ∈ g.vertices) (f : Vertex → List β) :
    g.vertices.flatMap (fun u => if v.id = u.id then f u else []) = f v := by
  have hfilter (vertices : List Vertex) : vertices.flatMap (fun u => if v.id = u.id then f u else []) =
      (vertices.filter (fun u => u.id = v.id)).flatMap f := by
    induction vertices with
    | nil => rfl
    | cons u rest ih =>
      by_cases heq : u.id = v.id
      · simp [heq, ih]
      · simp [heq, Ne.symm heq, ih]
  rw [hfilter, filter_eq_singleton g.vertices_nodup h, List.flatMap_singleton]

end PropertyGraph
end EntityGraph.Graph

namespace EntityGraph.Cypher

open EntityGraph.Graph

variable (x : Context) {env : Env}

/-! ## Nodes -/

theorem Node.accept_bound {name : String} {id : Nat} (h : env.lookup name = some (.vertex id)) (v : Vertex) :
    (Node.bound name).accept x env v = if id = v.id then some env else none := by
  simp [Node.bound, Node.accept, entryValues, Env.bind?_vertex h]

theorem Node.accept_labeled {name : String} (h : env.lookup name = none) (label : String) (v : Vertex) :
    (Node.labeled name label).accept x env v =
      if label ∈ v.labels then some (env ++ [(name, .vertex v.id)]) else none := by
  by_cases hlabel : label ∈ v.labels <;>
    simp [Node.labeled, Node.accept, entryValues, Env.bind?_fresh h, hlabel]

theorem Node.accept_anonymous (env : Env) (label : String) (v : Vertex) :
    (Node.anonymous label).accept x env v = if label ∈ v.labels then some env else none := by
  by_cases hlabel : label ∈ v.labels <;>
    simp [Node.anonymous, Node.accept, entryValues, Env.bind?, hlabel]

theorem Node.accept_withExpr {name : String} (h : env.lookup name = none) (label key : String) (e : Expr)
    (v : Vertex) :
    ((Node.labeled name label).withProp key e).accept x env v =
      if label ∈ v.labels ∧ x.db.equal (v.prop key) (e.value x env) = some true then
        some (env ++ [(name, .vertex v.id)])
      else none := by
  by_cases hlabel : label ∈ v.labels <;>
    simp [Node.labeled, Node.withProp, Node.accept, entryValues, Env.bind?_fresh h, hlabel]

theorem Node.accept_withProp {name : String} (h : env.lookup name = none) (label key param : String)
    (v : Vertex) :
    ((Node.labeled name label).withProp key (.param param)).accept x env v =
      if label ∈ v.labels ∧ x.db.equal (v.prop key) (x.param param) = some true then
        some (env ++ [(name, .vertex v.id)])
      else none := by
  rw [Node.accept_withExpr x h, Expr.value]

/-! ## Patterns -/

theorem filter_keeps_none (rows : List Env) : rows.filter (keeps x none) = rows :=
  List.filter_eq_self.2 fun _ _ => rfl

theorem matched_none (p : Pattern) (env : Env) : matched x p none env = p.paths x env :=
  filter_keeps_none x _

theorem Clause.rows_matching (w : Paging.Window) (p : Pattern) (rows : List Env) :
    (Clause.matching p).rows x w rows = some (rows.flatMap (p.paths x)) := by
  simp only [Clause.matching, Clause.rows, Bool.false_and, Bool.false_eq_true, if_false, matched_none]

theorem Pattern.paths_node (n : Node) (env : Env) :
    (Pattern.node n).paths x env = x.db.graph.vertices.flatMap (fun v => (n.accept x env v).toList) := by
  simp only [Pattern.node, Pattern.paths, hopPaths]
  simp

theorem hopPaths_singleton (env : Env) (id : Nat) (e : Edge) (n : Node) :
    hopPaths x env id [] [(e, n)] =
      (x.db.graph.reached e.type e.arrow id).flatMap (fun p =>
        ((env.bind? e.binder (.arc p.1.id)).bind (fun env => n.accept x env p.2)).toList) := by
  unfold PropertyGraph.reached
  rw [List.flatMap_assoc]
  simp only [hopPaths]
  refine congrArg (x.db.graph.arcs.flatMap ·) (funext fun a => ?_)
  by_cases htype : a.type = e.type <;> simp [htype, List.flatMap_assoc, List.flatMap_map]

theorem Pattern.paths_hop (start : Node) (binder : Option String) (type : String) (arrow : Arrow) (n : Node)
    (env : Env) :
    ((Pattern.node start).hop binder type arrow n).paths x env =
      x.db.graph.vertices.flatMap (fun v => (start.accept x env v).toList.flatMap (fun env =>
        (x.db.graph.reached type arrow v.id).flatMap (fun p =>
          ((env.bind? binder (.arc p.1.id)).bind (fun env => n.accept x env p.2)).toList))) := by
  simp only [Pattern.node, Pattern.hop, Pattern.paths, List.nil_append, hopPaths_singleton]

/-- A hop from a vertex that is bound already. -/
theorem Pattern.paths_hop_bound {name : String} {v : Vertex} (hv : v ∈ x.db.graph.vertices)
    (h : env.lookup name = some (.vertex v.id)) (binder : Option String) (type : String) (arrow : Arrow)
    (n : Node) :
    ((Pattern.node (.bound name)).hop binder type arrow n).paths x env =
      (x.db.graph.reached type arrow v.id).flatMap (fun p =>
        ((env.bind? binder (.arc p.1.id)).bind (fun env => n.accept x env p.2)).toList) := by
  rw [Pattern.paths_hop]
  have hstart (u : Vertex) : ((Node.bound name).accept x env u).toList.flatMap (fun env =>
        (x.db.graph.reached type arrow u.id).flatMap (fun p =>
          ((env.bind? binder (.arc p.1.id)).bind (fun env => n.accept x env p.2)).toList)) =
      if v.id = u.id then (x.db.graph.reached type arrow u.id).flatMap (fun p =>
          ((env.bind? binder (.arc p.1.id)).bind (fun env => n.accept x env p.2)).toList)
        else [] := by
    rw [Node.accept_bound x h]
    by_cases heq : v.id = u.id <;> simp [heq]
  simp only [hstart]
  exact x.db.graph.flatMap_vertex hv _

end EntityGraph.Cypher
