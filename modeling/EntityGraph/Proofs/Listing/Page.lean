import EntityGraph.Proofs.Listing.Candidates

/-!
# The page of a list

The page carries the entity, and the score of a hit, of every candidate. A look at linked nodes repeats a candidate
for each node that it finds, and the page then drops the duplicates, so with or without it the page holds every
wanted entity once.
-/
namespace EntityGraph.Graph

theorem Env.exists_lookup_of_mem {env : Env} {name : String} (h : name ∈ env.vars) :
    ∃ v, env.lookup name = some v := by
  rw [← Option.isSome_iff_exists, List.lookup_isSome_iff]
  obtain ⟨e, he, rfl⟩ := List.mem_map.1 h
  exact ⟨e, he, beq_self_eq_true _⟩

theorem Env.read_append_of_mem {env : Env} {name : String} (h : name ∈ env.vars) (env' : Env) :
    Env.read (env ++ env') name = env.read name := by
  obtain ⟨v, hlookup⟩ := exists_lookup_of_mem h
  rw [read, read, List.lookup_append, hlookup, Option.some_or]

/-- None of the vertices of some rows is null. -/
theorem Env.present_vertices {rows : List Env} {node : String}
    (h : ∀ env ∈ rows, ∃ id, env.lookup node = some (.vertex id)) :
    (rows.map (Env.read · node)).filter (fun v => !v.isNull) = rows.map (Env.read · node) := by
  rw [List.filter_eq_self]
  intro u hu
  obtain ⟨env, henv, rfl⟩ := List.mem_map.1 hu
  obtain ⟨id, hnode⟩ := h env henv
  rw [Env.read_of_lookup hnode]
  rfl

/-- Items that contribute nothing may be left out. -/
theorem flatMap_filter_isEmpty {α β : Type} (f : α → List β) (items : List α) :
    (items.filter (fun a => !(f a).isEmpty)).flatMap f = items.flatMap f := by
  induction items with
  | nil => rfl
  | cons a rest ih =>
    by_cases hempty : f a = []
    · simp [hempty, ih]
    · simp [hempty, ih]

theorem Env.mem_of_lookup {env : Env} {name : String} {v : Val} (h : env.lookup name = some v) :
    name ∈ env.vars := by
  by_contra hnot
  rw [Env.lookup_eq_none_of_not_mem hnot] at h
  cases h

end EntityGraph.Graph

namespace EntityGraph.Cypher

open EntityGraph.Graph
open Paging (Window)

theorem alikeAll_refl (db : Database) (us : List Val) : alikeAll db us us = true := by
  induction us with
  | nil => rfl
  | cons u rest ih => rw [alikeAll, db.alike_refl, ih, Bool.and_self]

theorem alike_of_alikeAll {db : Database} {names : List String} {f g : String → Val}
    (h : alikeAll db (names.map f) (names.map g) = true) {name : String} (hname : name ∈ names) :
    db.alike (f name) (g name) = true := by
  induction names with
  | nil => cases hname
  | cons n rest ih =>
    rw [List.map_cons, List.map_cons, alikeAll, Bool.and_eq_true] at h
    rcases List.mem_cons.1 hname with rfl | hname
    · exact h.1
    · exact ih h.2 hname

/-- A row cut down to some of its variables. -/
def carry (names : List String) (env : Env) : Env := names.map (fun name => (name, env.read name))

@[simp] theorem vars_carry (names : List String) (env : Env) : (carry names env).vars = names := by
  rw [carry, Env.vars, List.map_map]
  exact List.map_id names

theorem lookup_carry {names : List String} {name : String} (h : name ∈ names) (env : Env) :
    (carry names env).lookup name = some (env.read name) := by
  induction names with
  | nil => cases h
  | cons n rest ih =>
    rw [carry, List.map_cons, Entries.lookup_cons_eq]
    by_cases heq : name = n
    · rw [if_pos heq, heq]
    · rw [if_neg heq]
      exact ih ((List.mem_cons.1 h).resolve_left heq)

theorem carry_append {names : List String} {env : Env} (h : ∀ name ∈ names, name ∈ env.vars) (env' : Env) :
    carry names (env ++ env') = carry names env := by
  refine List.map_congr_left fun name hname => ?_
  rw [Env.read_append_of_mem (h name hname)]

theorem values_carry (names : List String) (env : Env) :
    (carry names env).map Prod.snd = names.map env.read := by
  rw [carry, List.map_map]
  rfl

theorem bind_ofVar (x : Context) (env : Env) (names : List String) :
    (names.map Column.ofVar).map (Column.bind x env) = carry names env := by
  rw [List.map_map]
  rfl

theorem aggregates_ofVar (names : List String) : (names.map Column.ofVar).any Column.aggregates = false := by
  rw [List.any_eq_false]
  intro k hk
  obtain ⟨name, -, rfl⟩ := List.mem_map.1 hk
  exact Bool.false_ne_true

theorem project_ofVar (x : Context) (names : List String) (rows : List Env) :
    (project x (names.map Column.ofVar) false rows).map Prod.fst = rows.map (carry names) := by
  rw [project_plain x (aggregates_ofVar names), List.map_map]
  refine List.map_congr_left fun row hrow => ?_
  exact bind_ofVar x row names

theorem project_distinct (x : Context) (names : List String) (rows : List Env) :
    (project x (names.map Column.ofVar) true rows).map Prod.fst =
      distinct (fun a b => alikeAll x.db (a.map Prod.snd) (b.map Prod.snd)) (rows.map (carry names)) := by
  have hplain : (project x (names.map Column.ofVar) true rows).map Prod.fst =
      distinct (fun a b => alikeAll x.db (a.map Prod.snd) (b.map Prod.snd))
        ((project x (names.map Column.ofVar) false rows).map Prod.fst) := by
    simp only [project, if_true, Bool.false_eq_true, if_false, List.map_map]
    exact List.map_id _
  rw [hplain, project_ofVar]

/-- Rows with different vertices are not alike. -/
theorem not_alike_of_vertex {db : Database} {node : String} {names : List String} (hnode : node ∈ names)
    {a b : Env} {i j : Nat} (ha : a.lookup node = some (.vertex i)) (hb : b.lookup node = some (.vertex j))
    (hne : i ≠ j) : alikeAll db (names.map a.read) (names.map b.read) = false := by
  rw [Bool.eq_false_iff]
  intro halike
  have hvertex := alike_of_alikeAll halike hnode
  rw [Env.read_of_lookup ha, Env.read_of_lookup hb] at hvertex
  exact hne (db.alike_vertex i j hvertex)

/-- Rows with a vertex each, all different, are pairwise not alike, so none of them is dropped as a duplicate. -/
theorem pairwise_not_alike {db : Database} {node : String} {names : List String} {rows : List Env}
    (hnode : node ∈ names) (hvertex : ∀ env ∈ rows, ∃ id, env.lookup node = some (.vertex id))
    (honce : (rows.map (Env.read · node)).Nodup) :
    rows.Pairwise (fun a b => alikeAll db (names.map a.read) (names.map b.read) = false) := by
  refine (List.pairwise_map.1 honce).imp_of_mem fun {a b} ha hb hne => ?_
  obtain ⟨i, hi⟩ := hvertex a ha
  obtain ⟨j, hj⟩ := hvertex b hb
  refine not_alike_of_vertex hnode hi hj fun heq => hne ?_
  rw [Env.read_of_lookup hi, Env.read_of_lookup hj, heq]

/-- Behind a clause that repeats or drops the rows of different vertices, one copy of each row that is left is kept. -/
theorem project_repeated (x : Context) {node : String} {names : List String} {rows : List Env} {f : Env → List Env}
    (hnode : node ∈ names) (hvertex : ∀ env ∈ rows, ∃ id, env.lookup node = some (.vertex id))
    (honce : (rows.map (Env.read · node)).Nodup)
    (hkept : ∀ env ∈ rows, ∀ row ∈ f env, carry names row = carry names env) :
    (project x (names.map Column.ofVar) true (rows.flatMap f)).map Prod.fst =
      (rows.filter (fun env => !(f env).isEmpty)).map (carry names) := by
  rw [project_distinct, ← flatMap_filter_isEmpty f, List.map_flatMap]
  refine distinct_flatMap (fun _ _ => alikeAll_refl _ _) ?_ ?_ ?_
  · intro env henv
    simpa using (List.mem_filter.1 henv).2
  · intro env henv row hrow
    obtain ⟨found, hfound, rfl⟩ := List.mem_map.1 hrow
    exact hkept env (List.mem_filter.1 henv).1 found hfound
  · simp only [values_carry]
    exact (pairwise_not_alike hnode hvertex honce).sublist List.filter_sublist

end EntityGraph.Cypher

namespace EntityGraph.Compile

open Cypher EntityGraph.Graph
open Json (Value)
open Paging (Window)
open Schema (Relationship)

namespace Compiler

variable (c : Compiler) {x : Context}

/-- An entity that a relationship links to one of some ids. -/
def LinkedTo (db : Database) (related : Option (Relationship × List String)) (v : Vertex) : Prop :=
  ∀ r ids, related = some (r, ids) → ∃ a target, Leads db.graph r v a target ∧
    ∃ id ∈ ids, db.equal (target.prop "id") (.text id) = some true

/-- What the page of a list finds. -/
structure Wanted (db : Database) (scope : Option String) (criteria : Criteria)
    (related : Option (Relationship × List String)) (v : Vertex) : Prop where
  opened : c.Opened db scope (c.searchArgs criteria) v
  tested : c.Tested db criteria v
  linked : LinkedTo db related v

theorem node_mem_carried (criteria : Criteria) : c.node ∈ c.carried criteria := by
  unfold carried
  split <;> exact List.mem_cons_self

theorem carried_subset (tied : Bool) (criteria : Criteria) :
    ∀ name ∈ c.carried criteria, name ∈ c.openedVars tied criteria := by
  unfold carried openedVars
  split
  · intro name h
    exact List.mem_append_left _ h
  · intro name h
    exact List.mem_append_right _ h

/-- The rows of the look at linked nodes. -/
def lookRelated (x : Context) (r : Relationship) (env : Env) : List Env :=
  matched x (c.relationshipPattern none r (.labeled "related" r.target))
    (some (.isIn (.prop "related" "id") (.param "relatedIds"))) env

/-- There is one row for each linked node with one of the ids. -/
theorem lookRelated_eq {env : Env} {v : Vertex} (hv : v ∈ x.db.graph.vertices)
    (hlookup : env.lookup c.node = some (.vertex v.id)) (hfresh : env.lookup "related" = none) (r : Relationship)
    {ids : List String} (hids : x.param "relatedIds" = .list (ids.map .text)) :
    c.lookRelated x r env =
      ((linked x.db.graph r v.id).filter (fun p =>
        ids.any (fun id => x.db.equal (p.2.prop "id") (.text id) = some true))).map
          (fun p => env ++ [("related", .vertex p.2.id)]) := by
  have hpaths : (c.relationshipPattern none r (.labeled "related" r.target)).paths x env =
      (linked x.db.graph r v.id).map (fun p => env ++ [("related", .vertex p.2.id)]) := by
    refine c.paths_relationship hv hlookup fun p => ?_
    rw [Env.bind?, Option.bind_some, Node.accept_labeled x hfresh]
    split <;> rfl
  rw [lookRelated, matched, hpaths, List.filter_map]
  refine congrArg (List.map _) (List.filter_congr fun p hp => ?_)
  have hleads : Leads x.db.graph r v p.1 p.2 := mem_linked.1 hp
  have hread : Env.read (env ++ [("related", Val.vertex p.2.id)]) "related" = .vertex p.2.id := by
    refine Env.read_of_lookup ?_
    rw [List.lookup_append, hfresh]
    rfl
  have hid := x.db.graph.property_vertex hleads.vertex "id"
  rw [Function.comp_apply, Bool.eq_iff_iff]
  simp [keeps, Predicate.truth, Expr.value, hread, hid, hids, Context.isIn, anyOf_eq_true_iff]

theorem lookRelated_ne_nil_iff {env : Env} {v : Vertex} (hv : v ∈ x.db.graph.vertices)
    (hlookup : env.lookup c.node = some (.vertex v.id)) (hfresh : env.lookup "related" = none) {r : Relationship}
    {ids : List String} (hids : x.param "relatedIds" = .list (ids.map .text)) :
    c.lookRelated x r env ≠ [] ↔ LinkedTo x.db (some (r, ids)) v := by
  rw [c.lookRelated_eq hv hlookup hfresh r hids, ne_eq, List.map_eq_nil_iff, List.filter_eq_nil_iff]
  push Not
  constructor
  · rintro ⟨p, hp, hid⟩ _ _ ⟨⟩
    obtain ⟨id, hid, hequal⟩ := List.any_eq_true.1 hid
    exact ⟨p.1, p.2, mem_linked.1 hp, id, hid, of_decide_eq_true hequal⟩
  · intro h
    obtain ⟨a, target, hleads, id, hid, hequal⟩ := h r ids rfl
    refine ⟨(a, target), mem_linked.2 hleads, List.any_eq_true.2 ⟨id, hid, decide_eq_true hequal⟩⟩

/-- Behind the look at linked nodes, what the page carries of each row. -/
theorem rows_candidates (w : Window) (hdb : c.Orderly x.db) {scope : Option String} {criteria : Criteria}
    {related : Option (Relationship × List String)} (hsupplied : c.Supplied x scope criteria related)
    (hnames : scope.isSome = true → c.node ≠ tenantVar)
    (hrelated : related.isSome = true → "related" ∉ c.openedVars scope.isSome criteria) :
    ∃ rows, rowsThrough x w (c.candidates scope.isSome criteria (related.map Prod.fst)) [[]] = some rows ∧
      Finds x.db.graph c.node (c.carried criteria) (c.Wanted x.db scope criteria related)
        ((project x ((c.carried criteria).map Column.ofVar) related.isSome rows).map Prod.fst) := by
  obtain ⟨rows, hrows, hfinds⟩ := c.rows_tested w hdb hsupplied hnames
  have hsubset (env : Env) (henv : env ∈ rows) : ∀ name ∈ c.carried criteria, name ∈ env.vars := by
    rw [hfinds.vars env henv]
    exact c.carried_subset _ criteria
  have hnode (env : Env) (henv : env ∈ rows) : (carry (c.carried criteria) env).lookup c.node = env.lookup c.node := by
    obtain ⟨v, -, hlookup, -⟩ := hfinds.sound env henv
    rw [lookup_carry (c.node_mem_carried criteria), Env.read_of_lookup hlookup, hlookup]
  cases related with
  | none =>
    refine ⟨rows, hrows, ?_⟩
    rw [Option.isSome_none, project_ofVar]
    refine (hfinds.map (fun env henv => vars_carry _ _) hnode).congr fun v hv => ?_
    exact ⟨fun h => ⟨h.1, h.2, fun r ids hnone => by cases hnone⟩, fun h => ⟨h.opened, h.tested⟩⟩
  | some link =>
    obtain ⟨r, ids⟩ := link
    have hids := hsupplied.ids r ids rfl
    have hfresh (env : Env) (henv : env ∈ rows) : env.lookup "related" = none :=
      Env.lookup_eq_none_of_not_mem (hfinds.vars env henv ▸ hrelated rfl)
    have hthrough : rowsThrough x w (c.candidates scope.isSome criteria (some r)) [[]] =
        some (rows.flatMap (c.lookRelated x r)) := by
      have hcandidates : c.candidates scope.isSome criteria (some r) =
          (c.openingInit scope.isSome (c.listSource criteria) ++
            [(c.openingLast scope.isSome (c.listSource criteria)).guardedBy (c.listTests criteria)]) ++
              [c.relatedMatch r] := by
        simp [candidates]
      rw [hcandidates, rowsThrough_append, hrows]
      simp only [Option.bind_some, rowsThrough, relatedMatch, Clause.rows, Bool.false_and, Bool.false_eq_true,
        if_false]
      rfl
    have hkept : ∀ env ∈ rows, ∀ row ∈ c.lookRelated x r env,
        carry (c.carried criteria) row = carry (c.carried criteria) env := by
      intro env henv row hrow
      obtain ⟨v, hv, hlookup, -⟩ := hfinds.sound env henv
      rw [c.lookRelated_eq hv hlookup (hfresh env henv) r hids] at hrow
      obtain ⟨p, -, rfl⟩ := List.mem_map.1 hrow
      exact carry_append (hsubset env henv) _
    have hnarrowed : Finds x.db.graph c.node (c.openedVars scope.isSome criteria)
        (fun v => (c.Opened x.db scope (c.searchArgs criteria) v ∧ c.Tested x.db criteria v) ∧
          LinkedTo x.db (some (r, ids)) v)
        (rows.filter (fun env => !(c.lookRelated x r env).isEmpty)) := by
      refine hfinds.filter fun env henv v hv hlookup => ?_
      rw [← c.lookRelated_ne_nil_iff hv hlookup (hfresh env henv) hids]
      simp
    refine ⟨_, hthrough, ?_⟩
    rw [Option.isSome_some,
      project_repeated x (c.node_mem_carried criteria) hfinds.exists_id hfinds.once hkept]
    refine (hnarrowed.map (fun env henv => vars_carry _ _)
      (fun env henv => hnode env (List.mem_filter.1 henv).1)).congr fun v hv => ?_
    exact ⟨fun h => ⟨h.1.1, h.1.2, h.2⟩, fun h => ⟨⟨h.opened, h.tested⟩, h.linked⟩⟩

end Compiler
end EntityGraph.Compile
