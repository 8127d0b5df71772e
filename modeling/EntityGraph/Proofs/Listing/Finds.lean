import EntityGraph.Proofs.Cypher.Drafts
import EntityGraph.Proofs.Graph.Paths

/-!
# Rows that find vertices

Until the page, a list works on rows that hold one vertex each under the entity's variable. Such rows find the
vertices with some property, each of them once. Tests and further matches narrow the property and keep the rest, so
the candidates of a list can be followed clause by clause.
-/
namespace EntityGraph.Graph

/-- The rows have the given variables and find the vertices with a property, each once. -/
structure Finds (g : PropertyGraph) (node : String) (vars : List String) (P : Vertex → Prop)
    (rows : List Env) : Prop where
  vars : ∀ env ∈ rows, env.vars = vars
  sound : ∀ env ∈ rows, ∃ v ∈ g.vertices, env.lookup node = some (.vertex v.id) ∧ P v
  complete : ∀ v ∈ g.vertices, P v → ∃ env ∈ rows, env.lookup node = some (.vertex v.id)
  once : (rows.map (Env.read · node)).Nodup

namespace Finds

variable {g : PropertyGraph} {node : String} {vars : List String} {P Q : Vertex → Prop} {rows : List Env}

theorem nil (g : PropertyGraph) (node : String) (vars : List String) (h : ∀ v ∈ g.vertices, ¬P v) :
    Finds g node vars P [] where
  vars := fun env henv => by cases henv
  sound := fun env henv => by cases henv
  complete := fun v hv hP => absurd hP (h v hv)
  once := List.nodup_nil

theorem congr (h : Finds g node vars P rows) (hPQ : ∀ v ∈ g.vertices, P v ↔ Q v) : Finds g node vars Q rows where
  vars := h.vars
  sound := by
    intro env henv
    obtain ⟨v, hv, hlookup, hP⟩ := h.sound env henv
    exact ⟨v, hv, hlookup, (hPQ v hv).1 hP⟩
  complete := fun v hv hQ => h.complete v hv ((hPQ v hv).2 hQ)
  once := h.once

theorem perm (h : Finds g node vars P rows) {rows' : List Env} (hperm : rows'.Perm rows) :
    Finds g node vars P rows' where
  vars := fun env henv => h.vars env (hperm.mem_iff.1 henv)
  sound := fun env henv => h.sound env (hperm.mem_iff.1 henv)
  complete := by
    intro v hv hP
    obtain ⟨env, henv, hlookup⟩ := h.complete v hv hP
    exact ⟨env, hperm.mem_iff.2 henv, hlookup⟩
  once := (hperm.map _).nodup_iff.2 h.once

theorem exists_id (h : Finds g node vars P rows) : ∀ env ∈ rows, ∃ id, env.lookup node = some (.vertex id) := by
  intro env henv
  obtain ⟨v, -, hlookup, -⟩ := h.sound env henv
  exact ⟨v.id, hlookup⟩

/-- A test on the entity narrows the property. -/
theorem filter (h : Finds g node vars P rows) {test : Env → Bool}
    (htest : ∀ env ∈ rows, ∀ v ∈ g.vertices, env.lookup node = some (.vertex v.id) → (test env = true ↔ Q v)) :
    Finds g node vars (fun v => P v ∧ Q v) (rows.filter test) where
  vars := fun env henv => h.vars env (List.mem_filter.1 henv).1
  sound := by
    intro env henv
    obtain ⟨hrow, hpass⟩ := List.mem_filter.1 henv
    obtain ⟨v, hv, hlookup, hP⟩ := h.sound env hrow
    exact ⟨v, hv, hlookup, hP, (htest env hrow v hv hlookup).1 hpass⟩
  complete := by
    rintro v hv ⟨hP, hQ⟩
    obtain ⟨env, henv, hlookup⟩ := h.complete v hv hP
    exact ⟨env, List.mem_filter.2 ⟨henv, (htest env henv v hv hlookup).2 hQ⟩, hlookup⟩
  once := h.once.sublist (List.filter_sublist.map _)

/-- A clause that makes one row of each row, for the same entity, keeps the property. -/
theorem map (h : Finds g node vars P rows) {f : Env → Env} {vars' : List String}
    (hvars : ∀ env ∈ rows, (f env).vars = vars')
    (hnode : ∀ env ∈ rows, (f env).lookup node = env.lookup node) : Finds g node vars' P (rows.map f) where
  vars := by
    intro row hrow
    obtain ⟨env, henv, rfl⟩ := List.mem_map.1 hrow
    exact hvars env henv
  sound := by
    intro row hrow
    obtain ⟨env, henv, rfl⟩ := List.mem_map.1 hrow
    rw [hnode env henv]
    exact h.sound env henv
  complete := by
    intro v hv hP
    obtain ⟨env, henv, hlookup⟩ := h.complete v hv hP
    exact ⟨f env, List.mem_map_of_mem henv, (hnode env henv).trans hlookup⟩
  once := by
    have hread : (rows.map f).map (Env.read · node) = rows.map (Env.read · node) := by
      rw [List.map_map]
      refine List.map_congr_left fun env henv => ?_
      rw [Function.comp_apply, Env.read, Env.read, hnode env henv]
    rw [hread]
    exact h.once

/-- A clause that makes one row at most of each row, for the same entity, narrows the property. -/
theorem flatMap (h : Finds g node vars P rows) {f : Env → List Env} {vars' : List String}
    (hvars : ∀ env ∈ rows, ∀ row ∈ f env, row.vars = vars')
    (hnode : ∀ env ∈ rows, ∀ row ∈ f env, row.lookup node = env.lookup node)
    (hone : ∀ env ∈ rows, (f env).length ≤ 1)
    (hfound : ∀ env ∈ rows, ∀ v ∈ g.vertices, env.lookup node = some (.vertex v.id) → (f env ≠ [] ↔ Q v)) :
    Finds g node vars' (fun v => P v ∧ Q v) (rows.flatMap f) where
  vars := by
    intro row hrow
    obtain ⟨env, henv, hrow⟩ := List.mem_flatMap.1 hrow
    exact hvars env henv row hrow
  sound := by
    intro row hrow
    obtain ⟨env, henv, hrow⟩ := List.mem_flatMap.1 hrow
    obtain ⟨v, hv, hlookup, hP⟩ := h.sound env henv
    refine ⟨v, hv, (hnode env henv row hrow).trans hlookup, hP, ?_⟩
    exact (hfound env henv v hv hlookup).1 (List.ne_nil_of_mem hrow)
  complete := by
    rintro v hv ⟨hP, hQ⟩
    obtain ⟨env, henv, hlookup⟩ := h.complete v hv hP
    obtain ⟨row, hrow⟩ := List.exists_mem_of_ne_nil _ ((hfound env henv v hv hlookup).2 hQ)
    exact ⟨row, List.mem_flatMap.2 ⟨env, henv, hrow⟩, (hnode env henv row hrow).trans hlookup⟩
  once := by
    refine nodup_map_flatMap h.once ?_ hone
    intro env henv row hrow
    rw [Env.read, Env.read, hnode env henv row hrow]

/-- A search through all vertices that makes one row at most of each of them. -/
theorem of_vertices {f : Vertex → List Env} (hvars : ∀ v ∈ g.vertices, ∀ row ∈ f v, row.vars = vars)
    (hnode : ∀ v ∈ g.vertices, ∀ row ∈ f v, row.lookup node = some (.vertex v.id))
    (hone : ∀ v ∈ g.vertices, (f v).length ≤ 1) (hfound : ∀ v ∈ g.vertices, (f v ≠ [] ↔ P v)) :
    Finds g node vars P (g.vertices.flatMap f) where
  vars := by
    intro row hrow
    obtain ⟨v, hv, hrow⟩ := List.mem_flatMap.1 hrow
    exact hvars v hv row hrow
  sound := by
    intro row hrow
    obtain ⟨v, hv, hrow⟩ := List.mem_flatMap.1 hrow
    exact ⟨v, hv, hnode v hv row hrow, (hfound v hv).1 (List.ne_nil_of_mem hrow)⟩
  complete := by
    intro v hv hP
    obtain ⟨row, hrow⟩ := List.exists_mem_of_ne_nil _ ((hfound v hv).2 hP)
    exact ⟨row, List.mem_flatMap.2 ⟨v, hv, hrow⟩, hnode v hv row hrow⟩
  once := by
    have hids : (g.vertices.map (fun v => Val.vertex v.id)).Nodup := by
      have hmap : g.vertices.map (fun v => Val.vertex v.id) = (g.vertices.map Vertex.id).map Val.vertex := by
        rw [List.map_map]
        rfl
      rw [hmap]
      exact g.vertices_nodup.map fun _ _ h => Val.vertex.inj h
    exact nodup_map_flatMap hids (fun v hv row hrow => Env.read_of_lookup (hnode v hv row hrow)) hone

/-- Rows that find the same vertices are equally many. -/
theorem length_eq (h : Finds g node vars P rows) {vars' : List String} {rows' : List Env}
    (h' : Finds g node vars' P rows') : rows.length = rows'.length := by
  have hmem {vars vars' : List String} {rows rows' : List Env} (h : Finds g node vars P rows)
      (h' : Finds g node vars' P rows') (u : Val) (hu : u ∈ rows.map (Env.read · node)) :
      u ∈ rows'.map (Env.read · node) := by
    obtain ⟨env, henv, rfl⟩ := List.mem_map.1 hu
    obtain ⟨v, hv, hlookup, hP⟩ := h.sound env henv
    obtain ⟨env', henv', hlookup'⟩ := h'.complete v hv hP
    refine List.mem_map.2 ⟨env', henv', ?_⟩
    rw [Env.read_of_lookup hlookup, Env.read_of_lookup hlookup']
  have hperm : (rows.map (Env.read · node)).Perm (rows'.map (Env.read · node)) :=
    (List.perm_ext_iff_of_nodup h.once h'.once).2 fun u => ⟨hmem h h' u, hmem h' h u⟩
  simpa using hperm.length_eq

end Finds
end EntityGraph.Graph

namespace EntityGraph.Cypher

open EntityGraph.Graph
open Paging (Window)

/-! ## Tests joined to a clause -/

theorem predicateTruths_eq (x : Context) (env : Env) (ps : List Predicate) :
    predicateTruths x env ps = ps.map (Predicate.truth x env) := by
  induction ps with
  | nil => rw [predicateTruths, List.map_nil]
  | cons p rest ih => rw [predicateTruths, List.map_cons, ih]

theorem Predicate.truth_and (x : Context) (env : Env) (p q : Predicate) :
    (p.and q).truth x env = some true ↔ p.truth x env = some true ∧ q.truth x env = some true := by
  cases p with
  | all parts =>
    simp only [Predicate.and, Predicate.truth, allOf_eq_true_iff, predicateTruths_eq, List.map_append,
      List.mem_append, List.map_cons, List.map_nil, List.mem_singleton]
    constructor
    · intro h
      exact ⟨fun p hp => h p (.inl hp), h _ (.inr rfl)⟩
    · rintro ⟨hparts, hq⟩ p (hp | rfl)
      · exact hparts p hp
      · exact hq
  | _ => simp [Predicate.and, Predicate.truth, allOf_eq_true_iff, predicateTruths]

theorem keeps_joined (x : Context) (predicate : Option Predicate) (p : Predicate) :
    keeps x (some (joined predicate p)) =
      fun env => keeps x predicate env && decide (p.truth x env = some true) := by
  funext env
  cases predicate with
  | none => simp [keeps, joined]
  | some q => simp [keeps, joined, Predicate.truth_and]

/-- Clauses that keep only the rows that their predicate is true of. -/
def Clause.selects : Clause → Bool
  | .pattern _ optional _ => !optional
  | .projection _ _ _ _ _ => true
  | _ => false

theorem Clause.selects_guarded {k : Clause} (h : k.selects = true) (p : Predicate) :
    (k.guarded p).selects = true := by
  cases k <;> simp_all [Clause.selects, Clause.guarded, Clause.filtered?]

theorem Clause.rows_guarded (x : Context) (w : Window) {k : Clause} (h : k.selects = true) (p : Predicate)
    (rows : List Env) :
    (k.guarded p).rows x w rows =
      (k.rows x w rows).map (List.filter (fun env => p.truth x env = some true)) := by
  cases k with
  | pattern path optional predicate =>
    cases optional with
    | true => cases h
    | false =>
      simp [Clause.guarded, Clause.filtered?, Clause.rows, matched, List.filter_flatMap, List.filter_filter,
        keeps_joined, Bool.and_comm]
  | projection columns distinct predicate order page =>
    simp [Clause.guarded, Clause.filtered?, Clause.rows, List.filter_filter, keeps_joined, Bool.and_comm]
  | _ => cases h

/-- Tests joined to a clause that selects rows narrow its rows. -/
theorem Clause.rows_guardedBy (x : Context) (w : Window) {k : Clause} (h : k.selects = true)
    (tests : List Predicate) (rows : List Env) :
    (k.guardedBy tests).rows x w rows =
      (k.rows x w rows).map (List.filter (fun env => tests.all (fun p => p.truth x env = some true))) := by
  induction tests generalizing k with
  | nil =>
    have hfilter : List.filter (fun env : Env => ([] : List Predicate).all
        (fun p => p.truth x env = some true)) = id := funext fun rows => List.filter_true rows
    rw [hfilter, Option.map_id, Clause.guardedBy_nil, id]
  | cons p rest ih =>
    rw [Clause.guardedBy_cons, ih (Clause.selects_guarded h p), Clause.rows_guarded x w h, Option.map_map]
    congr 1
    funext rows
    simp [List.filter_filter, Bool.and_comm]

theorem rowsThrough_append (x : Context) (w : Window) (ks ls : List Clause) (rows : List Env) :
    rowsThrough x w (ks ++ ls) rows = (rowsThrough x w ks rows).bind (rowsThrough x w ls) := by
  induction ks generalizing rows with
  | nil => rfl
  | cons k rest ih =>
    rw [List.cons_append, rowsThrough, rowsThrough, Option.bind_assoc]
    simp only [ih]

/-- Tests joined to the last of several clauses narrow the rows of all of them. -/
theorem rowsThrough_guardedBy (x : Context) (w : Window) {k : Clause} (hk : k.selects = true)
    (tests : List Predicate) {ks : List Clause} {rows rows' : List Env}
    (h : rowsThrough x w (ks ++ [k]) rows = some rows') :
    rowsThrough x w (ks ++ [k.guardedBy tests]) rows =
      some (rows'.filter (fun env => tests.all (fun p => p.truth x env = some true))) := by
  rw [rowsThrough_append] at h ⊢
  obtain ⟨before, hbefore, h⟩ := Option.bind_eq_some_iff.1 h
  simp only [rowsThrough, Option.bind_fun_some] at h ⊢
  rw [hbefore, Option.bind_some, Clause.rows_guardedBy x w hk, h]
  rfl

end EntityGraph.Cypher
