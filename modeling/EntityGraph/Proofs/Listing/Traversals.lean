import EntityGraph.Proofs.Listing.Page

/-!
# Traversals keep one row for each entity

A traversal matches a relationship and aggregates at once. The match repeats the row of an entity for each arc, or
keeps it with nulls if the relationship may be missing; the aggregation groups by all that was carried so far. Rows
of different entities never fall into one group, so each entity comes back as one row with what its relationship
gathered. By induction this holds of any number of relationships.
-/
namespace EntityGraph.Graph

theorem Env.lookup_of_mem {env : Env} (hnodup : env.vars.Nodup) {name : String} {v : Val} (h : (name, v) ∈ env) :
    env.lookup name = some v := by
  induction env with
  | nil => cases h
  | cons e rest ih =>
    rw [Env.vars, List.map_cons, List.nodup_cons] at hnodup
    rw [← Prod.mk.eta (p := e), Entries.lookup_cons_eq]
    rcases List.mem_cons.1 h with rfl | h
    · rw [if_pos rfl]
    · have hne : name ≠ e.1 := by
        rintro rfl
        exact hnodup.1 (List.mem_map.2 ⟨_, h, rfl⟩)
      rw [if_neg hne]
      exact ih hnodup.2 h

theorem Env.read_append_right {env : Env} {name : String} (h : name ∉ env.vars) (env' : Env) :
    Env.read (env ++ env') name = Env.read env' name := by
  rw [read, read, List.lookup_append, lookup_eq_none_of_not_mem h, Option.none_or]

end EntityGraph.Graph

namespace EntityGraph.Cypher

open EntityGraph.Graph

theorem entryValues_eq_map (x : Context) (env : Env) (entries : List (String × Expr)) :
    entryValues x env entries = entries.map (fun e => (e.1, e.2.value x env)) := by
  induction entries with
  | nil => rw [entryValues, List.map_nil]
  | cons e rest ih => rw [entryValues, List.map_cons, ih]

theorem carry_vars {env : Env} (hnodup : env.vars.Nodup) : carry env.vars env = env := by
  have hid : carry env.vars env = env.map id := by
    rw [carry, Env.vars, List.map_map]
    refine List.map_congr_left fun e he => ?_
    rw [Function.comp_apply, Env.read_of_lookup (Env.lookup_of_mem hnodup he)]
    rfl
  rw [hid, List.map_id]

/-- The groups of an aggregation that carries some variables: rows that agree on these. -/
theorem groupsOf_ofVar (x : Context) {bound : List String} {aggregated : List Column} (hbound : bound ≠ [])
    (hall : ∀ k ∈ aggregated, k.aggregates = true) (rows : List Env) :
    groupsOf x (bound.map Column.ofVar ++ aggregated) rows =
      (grouped (alikeAll x.db) (fun row => bound.map row.read) rows).map Prod.snd := by
  have hkeys : (bound.map Column.ofVar ++ aggregated).filter (fun k => !k.aggregates) = bound.map Column.ofVar := by
    rw [List.filter_append, List.filter_eq_self.2, List.filter_eq_nil_iff.2, List.append_nil]
    · intro k hk
      rw [hall k hk]
      exact Bool.false_ne_true
    · intro k hk
      obtain ⟨n, -, rfl⟩ := List.mem_map.1 hk
      rfl
  have hkey (row : Env) : (bound.map Column.ofVar).map (Column.value x row) = bound.map row.read := by
    rw [List.map_map]
    rfl
  have hvars : ¬(bound.map Column.ofVar).isEmpty = true := by
    rw [List.isEmpty_iff, List.map_eq_nil_iff]
    exact hbound
  unfold groupsOf
  simp only [hkeys, hkey, if_neg hvars]

end EntityGraph.Cypher

namespace EntityGraph.Compile

open Cypher EntityGraph.Graph
open Paging (Window)
open Schema (Relationship)

/-- What the match of a traversal finds for an entity: its linked targets, or that there is none. -/
def outcomes (g : PropertyGraph) (r : Relationship) (id : Nat) : List (Option (Arc × Vertex)) :=
  if r.isOptional && (linked g r id).isEmpty then [none] else (linked g r id).map some

theorem outcomes_ne_nil {g : PropertyGraph} {r : Relationship} {id : Nat}
    (h : r.isOptional = false → linked g r id ≠ []) : outcomes g r id ≠ [] := by
  unfold outcomes
  cases hoptional : r.isOptional with
  | true => cases hlinked : linked g r id <;> simp
  | false => simpa using h hoptional

theorem mem_linked_of_outcome {g : PropertyGraph} {r : Relationship} {id : Nat} {p : Arc × Vertex}
    (h : some p ∈ outcomes g r id) : p ∈ linked g r id := by
  unfold outcomes at h
  split at h
  · simp at h
  · simpa using h

/-- Aggregates skip the null of an entity without targets. -/
theorem outcomes_present (g : PropertyGraph) (r : Relationship) (id : Nat) {f : Arc × Vertex → Val}
    (hf : ∀ p, (f p).isNull = false) :
    ((outcomes g r id).map (fun o => (o.map f).getD .null)).filter (fun v => !v.isNull) =
      (linked g r id).map f := by
  unfold outcomes
  split
  · rename_i hempty
    rw [Bool.and_eq_true, List.isEmpty_iff] at hempty
    rw [hempty.2]
    rfl
  · rw [List.map_map, List.filter_eq_self.2]
    · rfl
    · intro u hu
      obtain ⟨p, -, rfl⟩ := List.mem_map.1 hu
      simpa using hf p

namespace Compiler

variable (c : Compiler) {x : Context}

/-- The entity of a row. -/
def entityId (env : Env) : Nat := (env.read c.node).vertex?.getD 0

theorem entityId_eq {env : Env} {id : Nat} (h : env.lookup c.node = some (.vertex id)) : c.entityId env = id := by
  rw [entityId, Env.read_of_lookup h]
  rfl

theorem edgeVar_ne_targetVar (name : String) : c.edgeVar name ≠ c.targetVar name := by
  intro h
  have hlength := congrArg String.length h
  simp [edgeVar] at hlength

/-- What the match of a traversal adds to a row. -/
def found (name : String) (r : Relationship) (o : Option (Arc × Vertex)) : Env :=
  (if r.fields.isEmpty then [] else [(c.edgeVar name, (o.map (fun p => .arc p.1.id)).getD .null)]) ++
    [(c.targetVar name, (o.map (fun p => .vertex p.2.id)).getD .null)]

/-- What a traversal adds to the row of an entity. -/
def gains (db : Database) (name : String) (r : Relationship) (id : Nat) : Env :=
  let first (f : Arc × Vertex → Val) : Val := ((linked db.graph r id).head?.map f).getD .null
  let all (f : Arc × Vertex → Val) : Val := .list (distinct db.alike ((linked db.graph r id).map f))
  match r.cardinality with
  | .one => (c.targetVar name, first (fun p => .vertex p.2.id)) ::
      if r.fields.isEmpty then [] else [(c.edgeVar name, first (fun p => .arc p.1.id))]
  | .many => (c.targetVar name, all (fun p => .vertex p.2.id)) ::
      if r.fields.isEmpty then [] else [(c.edgesVar name, all (fun p => edgeValue r p.1 p.2))]

theorem vars_gains (db : Database) (name : String) (r : Relationship) (id : Nat) :
    (c.gains db name r id).vars = c.boundBy name r := by
  unfold gains boundBy edgeVars
  cases r.cardinality <;> cases r.fields.isEmpty <;> rfl

/-- The names that a traversal needs to be new. -/
def stepNames (name : String) (r : Relationship) : List String :=
  if r.fields.isEmpty then [c.targetVar name] else [c.targetVar name, c.edgeVar name]

/-! ## The match -/

/-- The path of a traversal. -/
def traversalPath (name : String) (r : Relationship) : Pattern :=
  c.relationshipPattern (if r.fields.isEmpty then none else some (c.edgeVar name)) r
    (.labeled (c.targetVar name) r.target)

theorem lookup_target {env : Env} {name : String} {r : Relationship}
    (hnew : ∀ n ∈ c.stepNames name r, n ∉ env.vars) : env.lookup (c.targetVar name) = none :=
  Env.lookup_eq_none_of_not_mem (hnew _ (by unfold stepNames; split <;> simp))

theorem lookup_edge {env : Env} {name : String} {r : Relationship}
    (hnew : ∀ n ∈ c.stepNames name r, n ∉ env.vars) (hfields : r.fields.isEmpty = false) :
    env.lookup (c.edgeVar name) = none :=
  Env.lookup_eq_none_of_not_mem (hnew _ (by simp [stepNames, hfields]))

theorem paths_traversal {env : Env} {v : Vertex} {name : String} {r : Relationship}
    (hv : v ∈ x.db.graph.vertices) (hlookup : env.lookup c.node = some (.vertex v.id))
    (hnew : ∀ n ∈ c.stepNames name r, n ∉ env.vars) :
    (c.traversalPath name r).paths x env =
      (linked x.db.graph r v.id).map (fun p => env ++ c.found name r (some p)) := by
  have htarget := c.lookup_target hnew
  refine c.paths_relationship hv hlookup fun p => ?_
  cases hfields : r.fields.isEmpty with
  | true =>
    simp only [if_true, Env.bind?, Option.bind_some, Node.accept_labeled x htarget, found, hfields, List.nil_append]
    split <;> rfl
  | false =>
    have hedge := c.lookup_edge hnew hfields
    have htarget' : List.lookup (c.targetVar name) (env ++ [(c.edgeVar name, Val.arc p.1.id)]) = none := by
      rw [List.lookup_append, htarget, Option.none_or, Entries.lookup_cons_eq,
        if_neg (c.edgeVar_ne_targetVar name).symm]
      rfl
    simp only [Bool.false_eq_true, if_false, Env.bind?_fresh hedge, Option.bind_some,
      Node.accept_labeled x htarget', found, hfields, List.append_assoc]
    split <;> rfl

theorem unmatched_traversal {env : Env} {name : String} {r : Relationship} (hbound : c.node ∈ env.vars)
    (hnew : ∀ n ∈ c.stepNames name r, n ∉ env.vars) :
    unmatched (c.traversalPath name r) env = env ++ c.found name r none := by
  obtain ⟨u, hnode⟩ := Env.exists_lookup_of_mem hbound
  have htarget := c.lookup_target hnew
  have hbinders (binder : Option String) : (c.relationshipPattern binder r
      (.labeled (c.targetVar name) r.target)).binders = c.node :: (binder.toList ++ [c.targetVar name]) := by
    simp [relationshipPattern, Pattern.node, Pattern.hop, Pattern.binders, Node.bound, Node.labeled]
  rw [unmatched, traversalPath, hbinders]
  refine congrArg (env ++ ·) ?_
  cases hfields : r.fields.isEmpty with
  | true => simp [found, hfields, hnode, htarget]
  | false => simp [found, hfields, hnode, htarget, c.lookup_edge hnew hfields]

/-- The match repeats the row of an entity for each of its outcomes. -/
theorem rows_traversalMatch (w : Window) {name : String} {r : Relationship} {rows : List Env}
    (hvertex : ∀ env ∈ rows, ∃ v ∈ x.db.graph.vertices, env.lookup c.node = some (.vertex v.id))
    (hnew : ∀ env ∈ rows, ∀ n ∈ c.stepNames name r, n ∉ env.vars) :
    (c.traversalMatch name r).rows x w rows =
      some (rows.flatMap (fun env =>
        (outcomes x.db.graph r (c.entityId env)).map (fun o => env ++ c.found name r o))) := by
  show some (rows.flatMap (fun env =>
      if r.isOptional && (matched x (c.traversalPath name r) none env).isEmpty
        then [unmatched (c.traversalPath name r) env]
        else matched x (c.traversalPath name r) none env)) = _
  refine congrArg some (List.flatMap_congr fun env henv => ?_)
  obtain ⟨v, hv, hlookup⟩ := hvertex env henv
  rw [matched_none, c.paths_traversal hv hlookup (hnew env henv),
    c.unmatched_traversal (Env.mem_of_lookup hlookup) (hnew env henv), List.isEmpty_map, c.entityId_eq hlookup]
  unfold outcomes
  split
  · rfl
  · rw [List.map_map]
    rfl

/-! ## The aggregation -/

theorem read_target {env : Env} {name : String} {r : Relationship} (hnew : ∀ n ∈ c.stepNames name r, n ∉ env.vars)
    (o : Option (Arc × Vertex)) :
    Env.read (env ++ c.found name r o) (c.targetVar name) = (o.map (fun p => .vertex p.2.id)).getD .null := by
  rw [Env.read_append_right (hnew _ (by unfold stepNames; split <;> simp)), found]
  split
  · exact Env.read_of_lookup List.lookup_cons_self
  · rw [Env.read_append_right (by simpa using (c.edgeVar_ne_targetVar name).symm)]
    exact Env.read_of_lookup List.lookup_cons_self

theorem read_edge {env : Env} {name : String} {r : Relationship} (hnew : ∀ n ∈ c.stepNames name r, n ∉ env.vars)
    (hfields : r.fields.isEmpty = false) (o : Option (Arc × Vertex)) :
    Env.read (env ++ c.found name r o) (c.edgeVar name) = (o.map (fun p => .arc p.1.id)).getD .null := by
  rw [Env.read_append_right (hnew _ (by simp [stepNames, hfields])), found, hfields]
  exact Env.read_of_lookup List.lookup_cons_self

theorem value_edgeEntry {env : Env} {name : String} {r : Relationship} {entity : Vertex}
    (hnew : ∀ n ∈ c.stepNames name r, n ∉ env.vars)
    (hfields : r.fields.isEmpty = false) {o : Option (Arc × Vertex)}
    (ho : o ∈ outcomes x.db.graph r entity.id) :
    (c.edgeEntry name r).value x (env ++ c.found name r o) =
      (o.map (fun p => edgeValue r p.1 p.2)).getD .null := by
  have htarget := c.read_target hnew o
  have hedge := c.read_edge hnew hfields o
  cases o with
  | none => simp [edgeEntry, Expr.value, Predicate.truth, htarget, Val.isNull]
  | some p =>
    have hleads : Leads x.db.graph r entity p.1 p.2 := mem_linked.1 (mem_linked_of_outcome ho)
    simp [edgeEntry, edgeValue, Expr.value, Predicate.truth, htarget, hedge, entryValues_eq_map, Val.isNull,
      x.db.graph.property_vertex hleads.vertex, x.db.graph.property_arc hleads.arc, List.map_map,
      Function.comp_def]

theorem bind_firstOf (x : Context) (group : List Env) (env : Env) (var : String) :
    (firstOf var).bind (x.over group) env =
      (var, (((group.map (fun row => row.read var)).filter (fun v => !v.isNull)).head?).getD .null) := by
  have hcollect : isAggregate "collect" = true := by decide
  have hhead : isAggregate "head" = false := by decide
  have hvalues : group.flatMap (fun row => [row.read var]) = group.map (fun row => row.read var) :=
    List.map_eq_flatMap.symm
  simp [firstOf, Column.bind, Column.name, Column.value, Expr.apply, Expr.value, exprValues, hcollect, hhead,
    Context.over, Context.aggregate, Context.apply, hvalues, Val.head_list]

theorem bind_collect (x : Context) (group : List Env) (env : Env) (e : Expr) (name : String) :
    (Column.expr (.applyDistinct "collect" e) name).bind (x.over group) env =
      (name, .list (distinct x.db.alike
        ((group.map (fun row => e.value x.alone row)).filter (fun v => !v.isNull)))) := by
  have hcollect : isAggregate "collect" = true := by decide
  have hvalues : group.flatMap (fun row => [e.value x.alone row]) = group.map (fun row => e.value x.alone row) :=
    List.map_eq_flatMap.symm
  simp only [Column.bind, Column.name, Column.value, Expr.applyDistinct, Expr.value, exprValues, hcollect, if_true,
    Context.aggregate]
  exact congrArg (fun values => (name, Val.list (distinct x.db.alike (values.filter (fun v => !v.isNull))))) hvalues

/-- What the aggregates make of the outcomes for an entity. -/
theorem bind_gathered {env : Env} {name : String} {r : Relationship} {entity : Vertex}
    (hnew : ∀ n ∈ c.stepNames name r, n ∉ env.vars) (row : Env) :
    (c.gathered name r).map (Column.bind
        (x.over ((outcomes x.db.graph r entity.id).map (fun o => env ++ c.found name r o))) row) =
      c.gains x.db name r entity.id := by
  have hpresent {f : Arc × Vertex → Val} {g : Env → Val} (hf : ∀ p, (f p).isNull = false)
      (hg : ∀ o ∈ outcomes x.db.graph r entity.id, g (env ++ c.found name r o) = (o.map f).getD .null) :
      (((outcomes x.db.graph r entity.id).map (fun o => env ++ c.found name r o)).map g).filter
          (fun v => !v.isNull) = (linked x.db.graph r entity.id).map f := by
    rw [← outcomes_present x.db.graph r entity.id hf, List.map_map]
    exact congrArg (List.filter _) (List.map_congr_left hg)
  have htargets := hpresent (f := fun p => .vertex p.2.id) (g := fun row => row.read (c.targetVar name))
    (fun _ => rfl) (fun o _ => c.read_target hnew o)
  unfold gathered gains
  cases hcard : r.cardinality with
  | one =>
    cases hfields : r.fields.isEmpty with
    | true => simp only [if_true, List.map_cons, List.map_nil, bind_firstOf, htargets, List.head?_map]
    | false =>
      have hedges := hpresent (f := fun p => .arc p.1.id) (g := fun row => row.read (c.edgeVar name))
        (fun _ => rfl) (fun o _ => c.read_edge hnew hfields o)
      simp only [Bool.false_eq_true, if_false, List.map_cons, List.map_nil, bind_firstOf, htargets, hedges,
        List.head?_map]
  | many =>
    have htargetValue (row : Env) : (Expr.var (c.targetVar name)).value x.alone row = row.read (c.targetVar name) := by
      rw [Expr.value]
    cases hfields : r.fields.isEmpty with
    | true => simp only [if_true, List.map_cons, List.map_nil, bind_collect, htargetValue, htargets]
    | false =>
      have hedges := hpresent (f := fun p => edgeValue r p.1 p.2) (g := (c.edgeEntry name r).value x.alone)
        (fun _ => rfl) (fun o ho => c.value_edgeEntry hnew hfields ho)
      simp only [Bool.false_eq_true, if_false, List.map_cons, List.map_nil, bind_collect, htargetValue, htargets,
        hedges]

theorem aggregates_gathered (name : String) (r : Relationship) :
    c.gathered name r ≠ [] ∧ ∀ k ∈ c.gathered name r, k.aggregates = true := by
  have hfirst (var : String) : (firstOf var).aggregates = true := by
    simp [firstOf, Column.aggregates, Expr.apply, Expr.aggregates, anyAggregates, isAggregate]
  have hcollect (e : Expr) (name : String) : (Column.expr (.applyDistinct "collect" e) name).aggregates = true := by
    simp [Column.aggregates, Expr.applyDistinct, Expr.aggregates, isAggregate]
  unfold gathered
  cases r.cardinality <;> cases r.fields.isEmpty <;> simp [hfirst, hcollect]

/-- The aggregation makes one row of each group of rows that agree on what was carried so far. -/
theorem rows_traversalWith_groups (x : Context) (w : Window) {bound : List String} (hbound : bound ≠ []) (name : String)
    (r : Relationship) (rows : List Env) :
    (c.traversalWith bound name r).rows x w rows =
      some ((grouped (alikeAll x.db) (fun row => bound.map row.read) rows).map (fun e =>
        (bound.map Column.ofVar ++ c.gathered name r).map (Column.bind (x.over e.2) (e.2.headD [])))) := by
  obtain ⟨hgathered, hall⟩ := c.aggregates_gathered name r
  have hany : (bound.map Column.ofVar ++ c.gathered name r).any Column.aggregates = true := by
    obtain ⟨k, hk⟩ := List.exists_mem_of_ne_nil _ hgathered
    exact List.any_eq_true.2 ⟨k, List.mem_append_right _ hk, hall k hk⟩
  simp only [traversalWith, Clause.rows, sorted_nil, project, hany, if_true, Bool.false_eq_true, if_false,
    List.map_map, groupsOf_ofVar x hbound hall]
  rw [filter_keeps_none]
  rfl

/-- The aggregation brings back one row for each entity, with what the traversal gathered. -/
theorem rows_traversalWith (w : Window) {bound : List String} {name : String} {r : Relationship}
    {rows : List Env} (hnode : c.node ∈ bound) (hbound : bound.Nodup)
    (hvars : ∀ env ∈ rows, env.vars = bound)
    (hvertex : ∀ env ∈ rows, ∃ v ∈ x.db.graph.vertices, env.lookup c.node = some (.vertex v.id))
    (honce : (rows.map (Env.read · c.node)).Nodup)
    (hnew : ∀ env ∈ rows, ∀ n ∈ c.stepNames name r, n ∉ env.vars)
    (hfound : ∀ env ∈ rows, outcomes x.db.graph r (c.entityId env) ≠ []) :
    (c.traversalWith bound name r).rows x w (rows.flatMap (fun env =>
        (outcomes x.db.graph r (c.entityId env)).map (fun o => env ++ c.found name r o))) =
      some (rows.map (fun env => env ++ c.gains x.db name r (c.entityId env))) := by
  have hids : ∀ env ∈ rows, ∃ id, env.lookup c.node = some (.vertex id) := by
    intro env henv
    obtain ⟨v, -, hlookup⟩ := hvertex env henv
    exact ⟨v.id, hlookup⟩
  have hsame : ∀ env ∈ rows, ∀ row ∈ (outcomes x.db.graph r (c.entityId env)).map
      (fun o => env ++ c.found name r o), bound.map row.read = bound.map env.read := by
    intro env henv row hrow
    obtain ⟨o, -, rfl⟩ := List.mem_map.1 hrow
    rw [← values_carry, ← values_carry, carry_append (fun n hn => hvars env henv ▸ hn)]
  have hgroups := grouped_flatMap (k := fun env : Env => bound.map env.read) (fun _ _ => alikeAll_refl x.db _)
    (fun env henv => by simpa using hfound env henv) hsame (pairwise_not_alike hnode hids honce)
  rw [c.rows_traversalWith_groups x w (List.ne_nil_of_mem hnode), hgroups, List.map_map]
  refine congrArg some (List.map_congr_left fun env henv => ?_)
  obtain ⟨v, hv, hlookup⟩ := hvertex env henv
  have hid := c.entityId_eq hlookup
  obtain ⟨o, rest, houtcomes⟩ := List.exists_cons_of_ne_nil (hfound env henv)
  rw [Function.comp_apply, List.map_append, hid, c.bind_gathered (hnew env henv), bind_ofVar, ← hid,
    houtcomes, List.map_cons, List.headD_cons, carry_append (fun n hn => hvars env henv ▸ hn), ← hvars env henv,
    carry_vars (hvars env henv ▸ hbound)]

/-! ## Any number of traversals -/

/-- Rows that the traversals of some relationships may start from: each holds the bound variables and an entity of
its own that has every required edge. -/
structure Ready (x : Context) (bound : List String) (links : List (String × Relationship)) (rows : List Env) :
    Prop where
  node : c.node ∈ bound
  vars : ∀ env ∈ rows, env.vars = bound
  vertex : ∀ env ∈ rows, ∃ v ∈ x.db.graph.vertices, env.lookup c.node = some (.vertex v.id)
  once : (rows.map (Env.read · c.node)).Nodup
  required : ∀ env ∈ rows, ∀ e ∈ links, e.2.isOptional = false → linked x.db.graph e.2 (c.entityId env) ≠ []

theorem stepNames_subset (name : String) (r : Relationship) : ∀ n ∈ c.stepNames name r, n ∈ c.linkNames name r := by
  unfold stepNames linkNames
  cases r.fields.isEmpty <;> simp

theorem boundBy_sublist (name : String) (r : Relationship) : (c.boundBy name r).Sublist (c.linkNames name r) := by
  unfold boundBy edgeVars linkNames
  cases r.fields.isEmpty with
  | true => exact List.Sublist.refl _
  | false =>
    cases r.cardinality with
    | one => simp
    | many => exact List.Sublist.cons_cons _ (List.Sublist.cons _ (List.Sublist.refl _))

/-- One traversal. -/
theorem Ready.step {bound : List String} {name : String} {r : Relationship} {rest : List (String × Relationship)}
    {rows : List Env} (h : c.Ready x bound ((name, r) :: rest) rows) :
    c.Ready x (bound ++ c.boundBy name r) rest
      (rows.map (fun env => env ++ c.gains x.db name r (c.entityId env))) := by
  have hread (env : Env) (henv : env ∈ rows) (env' : Env) : Env.read (env ++ env') c.node = env.read c.node :=
    Env.read_append_of_mem (h.vars env henv ▸ h.node) env'
  refine ⟨List.mem_append_left _ h.node, ?_, ?_, ?_, ?_⟩
  · intro row hrow
    obtain ⟨env, henv, rfl⟩ := List.mem_map.1 hrow
    rw [Env.vars_append, h.vars env henv, vars_gains]
  · intro row hrow
    obtain ⟨env, henv, rfl⟩ := List.mem_map.1 hrow
    obtain ⟨v, hv, hlookup⟩ := h.vertex env henv
    exact ⟨v, hv, by rw [List.lookup_append, hlookup, Option.some_or]⟩
  · have hmap : (rows.map (fun env => env ++ c.gains x.db name r (c.entityId env))).map (Env.read · c.node) =
        rows.map (Env.read · c.node) := by
      rw [List.map_map]
      exact List.map_congr_left fun env henv => hread env henv _
    rw [hmap]
    exact h.once
  · intro row hrow e he hmandatory
    obtain ⟨env, henv, rfl⟩ := List.mem_map.1 hrow
    rw [entityId, hread env henv]
    exact h.required env henv e (List.mem_cons_of_mem _ he) hmandatory

/-- Traversals keep every row and add to it what its entity's relationships gather. -/
theorem rows_traversals (w : Window) {links : List (String × Relationship)} {bound : List String}
    {rows : List Env} (h : c.Ready x bound links rows)
    (hnames : (bound ++ links.flatMap (fun e => c.linkNames e.1 e.2)).Nodup) :
    rowsThrough x w (c.traversals bound links) rows =
      some (rows.map (fun env => env ++ links.flatMap (fun e => c.gains x.db e.1 e.2 (c.entityId env)))) := by
  induction links generalizing bound rows with
  | nil => simp [traversals, rowsThrough]
  | cons e rest ih =>
    obtain ⟨name, r⟩ := e
    rw [List.flatMap_cons] at hnames
    have hnew (env : Env) (henv : env ∈ rows) : ∀ n ∈ c.stepNames name r, n ∉ env.vars := by
      intro n hn hbound
      rw [h.vars env henv] at hbound
      exact (List.nodup_append'.1 hnames).2.2 hbound (List.mem_append_left _ (c.stepNames_subset name r n hn))
    have hoptional (env : Env) (henv : env ∈ rows) : outcomes x.db.graph r (c.entityId env) ≠ [] :=
      outcomes_ne_nil (h.required env henv (name, r) List.mem_cons_self)
    have hrest : (bound ++ c.boundBy name r ++ rest.flatMap (fun e => c.linkNames e.1 e.2)).Nodup := by
      rw [List.append_assoc]
      exact hnames.sublist (((c.boundBy_sublist name r).append_right _).append_left _)
    have hread (env : Env) (henv : env ∈ rows) (env' : Env) : c.entityId (env ++ env') = c.entityId env := by
      rw [entityId, entityId, Env.read_append_of_mem (h.vars env henv ▸ h.node)]
    rw [traversals, rowsThrough, c.rows_traversalMatch w h.vertex hnew, Option.bind_some, rowsThrough,
      c.rows_traversalWith w h.node (List.nodup_append'.1 hnames).1 h.vars h.vertex h.once hnew hoptional,
      Option.bind_some, ih h.step hrest, List.map_map]
    refine congrArg some (List.map_congr_left fun env henv => ?_)
    rw [Function.comp_apply, hread env henv, List.flatMap_cons, List.append_assoc]

end Compiler
end EntityGraph.Compile
