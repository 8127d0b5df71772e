import EntityGraph.Proofs.Listing.Supplied
import EntityGraph.Proofs.Listing.Traversals
import Mathlib.Data.List.Flatten

/-!
# Lists are right

A list that compiles shows exactly the entities that it should hold, one row for each, with what their relationships
lead to. The page finds them, the traversals extend their rows, and the result is a choice of columns from these.
-/
namespace EntityGraph.Cypher

open EntityGraph.Graph
open Json (Value)
open Paging (Window)

/-- The context that a statement is evaluated in. -/
def Statement.context (s : Statement) (db : Database) (w : Window) : Context := ⟨db, (s.render w).params, []⟩

theorem windowed_subset (x : Context) (w : Window) (rows : List Env) : (windowed x w rows).Sublist rows := by
  cases w with
  | all => exact List.Sublist.refl _
  | first limit => exact List.take_sublist _ _
  | offset skip limit => exact (List.take_sublist _ _).trans (List.drop_sublist _ _)

end EntityGraph.Cypher

namespace EntityGraph.Compile.Compiler

open Cypher EntityGraph.Graph
open Json (Value)
open Paging (Window)
open Schema (EdgeField Relationship)

variable (c : Compiler) {db : Database} {x : Context}

/-! ## Names -/

/-- The names of a list do not meet where it relies on that. -/
structure Named (tied : Bool) (criteria : Criteria) (related : Bool) : Prop where
  tenant : tied = true → c.node ≠ tenantVar
  related : related = true → "related" ∉ c.openedVars tied criteria
  links : (c.carried criteria ++ c.links.flatMap (fun e => c.linkNames e.1 e.2)).Nodup

theorem named_of_nodup {caller : Caller} {l : Listing} {scope : Option String} (hscope : c.scope caller = .ok scope)
    (h : (c.listNames caller l).Nodup) : c.Named scope.isSome l.criteria l.related.isSome := by
  unfold listNames at h
  rw [hscope, isTied_ok] at h
  refine ⟨fun htied => ?_, fun hrelated => ?_, h.sublist ?_⟩
  · rintro heq
    simp [htied, heq] at h
  · intro hmem
    have hopened : ∀ name ∈ c.openedVars scope.isSome l.criteria, name ∈ [c.node] ++
        (if scope.isSome then [tenantVar] else []) ++
        (if (c.termSource? l.criteria).isSome then [scoreVar] else []) := by
      unfold openedVars
      cases scope.isSome <;> cases (c.termSource? l.criteria).isSome <;> simp
    rw [hrelated, if_pos rfl] at h
    exact (List.nodup_append'.1 (List.nodup_append'.1 h).1).2.2 (hopened _ hmem) (List.mem_singleton_self _)
  · unfold carried
    refine List.Sublist.append_right ?_ _
    cases scope.isSome <;> cases (c.termSource? l.criteria).isSome <;> cases l.related.isSome <;> simp

theorem columnsBy_sublist (name : String) (r : Relationship) :
    ((c.columnsBy name r).map Column.name).Sublist (c.linkNames name r) := by
  unfold columnsBy
  cases hcard : r.cardinality with
  | one =>
    have hnames : (r.fields.map (fun f => Column.expr (.prop (c.edgeVar name) f.name) (c.edgeColumn name f.name))).map
        Column.name = r.fields.map (fun f => c.edgeColumn name f.name) := by
      rw [List.map_map]
      rfl
    rw [List.map_cons, hnames]
    unfold linkNames
    refine List.Sublist.cons_cons _ ?_
    cases hfields : r.fields with
    | nil => exact List.Sublist.refl _
    | cons f rest =>
      simp only [hcard, List.isEmpty_cons, Bool.false_eq_true, if_false]
      exact List.Sublist.cons _ (List.Sublist.refl _)
  | many =>
    have hnames : ((c.boundBy name r).map Column.ofVar).map Column.name = c.boundBy name r := by
      rw [List.map_map]
      exact List.map_id _
    dsimp only
    rw [hnames]
    exact c.boundBy_sublist name r

/-- The columns of the result have different names. -/
theorem Named.columns {tied related : Bool} {criteria : Criteria} (h : c.Named tied criteria related) :
    (c.resultColumns.map Column.name).Nodup := by
  have hnames : c.resultColumns.map Column.name =
      c.node :: c.links.flatMap (fun e => (c.columnsBy e.1 e.2).map Column.name) := by
    rw [resultColumns, List.map_cons, List.map_flatMap]
    rfl
  have hnode : [c.node].Sublist (c.carried criteria) :=
    List.singleton_sublist.2 (c.node_mem_carried criteria)
  rw [hnames, ← List.singleton_append]
  exact h.links.sublist (hnode.append (List.Sublist.flatMap_right _ fun e _ => c.columnsBy_sublist e.1 e.2))

/-- The variables behind all traversals are different. -/
theorem Named.bound {tied related : Bool} {criteria : Criteria} (h : c.Named tied criteria related) :
    (c.carried criteria ++ c.links.flatMap (fun e => c.boundBy e.1 e.2)).Nodup :=
  h.links.sublist ((List.Sublist.flatMap_right _ fun e _ => c.boundBy_sublist e.1 e.2).append_left _)

/-! ## The rows of a list -/

/-- The statement of a list. -/
def listStatement (scope : Option String) (criteria : Criteria) (related : Option (Relationship × List String))
    (order : List SortKey) : Statement :=
  ⟨c.listClauses scope.isSome criteria (related.map Prod.fst) order, c.listParams scope criteria related,
    some c.node, some c.label⟩

/-- The row of an entity behind all traversals. -/
def gathering (db : Database) (env : Env) : Env :=
  env ++ c.links.flatMap (fun e => c.gains db e.1 e.2 (c.entityId env))

/-- The row of an entity in the result. -/
def shown (x : Context) (env : Env) : Env := c.resultColumns.map (Column.bind x (c.gathering x.db env))

theorem aggregates_resultColumns : c.resultColumns.any Column.aggregates = false := by
  rw [List.any_eq_false]
  intro k hk
  rcases List.mem_cons.1 hk with rfl | hk
  · exact Bool.false_ne_true
  · obtain ⟨e, -, hk⟩ := List.mem_flatMap.1 hk
    unfold columnsBy at hk
    cases hcard : e.2.cardinality with
    | one =>
      rw [hcard] at hk
      rcases List.mem_cons.1 hk with rfl | hk
      · exact Bool.false_ne_true
      · obtain ⟨f, -, rfl⟩ := List.mem_map.1 hk
        simp [Column.aggregates, Expr.aggregates]
    | many =>
      rw [hcard] at hk
      obtain ⟨name, -, rfl⟩ := List.mem_map.1 hk
      exact Bool.false_ne_true

/-- The result has one row for each row before it. -/
theorem rows_finish (x : Context) (w : Window) (hcustom : c.descriptor.returnClause = none) (bound : List String)
    (order : List SortKey) (rows : List Env) : (c.finish bound order).rows x w rows =
      some (sorted x order (rows.map (fun row => (c.resultColumns.map (Column.bind x row), row)))) := by
  unfold finish
  rw [hcustom, Clause.rows, project_plain x c.aggregates_resultColumns]

/-- Behind the page, each row of the window becomes one row of the result. -/
theorem rows_tail (w : Window) (hcustom : c.descriptor.returnClause = none) {criteria : Criteria} {page : List Env}
    (h : c.Ready x (c.carried criteria) c.links page)
    (hnames : (c.carried criteria ++ c.links.flatMap (fun e => c.linkNames e.1 e.2)).Nodup) (order : List SortKey) :
    ∃ rows, rowsThrough x w (c.tail (c.carried criteria) order) page = some rows ∧
      rows.Perm (page.map (c.shown x)) := by
  have hrows : rowsThrough x w (c.tail (c.carried criteria) order) page =
      some (sorted x order ((page.map (c.gathering x.db)).map
        (fun row => (c.resultColumns.map (Column.bind x row), row)))) := by
    rw [tail, rowsThrough_append, c.rows_traversals w h hnames, Option.bind_some, rowsThrough,
      c.rows_finish x w hcustom]
    rfl
  refine ⟨_, hrows, (sorted_perm x order _).trans ?_⟩
  rw [List.map_map, List.map_map]
  exact List.Perm.refl _

variable {scope : Option String} {criteria : Criteria} {related : Option (Relationship × List String)}

theorem supplied_render {s : Statement} (hparams : s.params = c.listParams scope criteria related) (w : Window) :
    c.Supplied (s.context db w) scope criteria related := by
  refine c.supplied_of_params fun name hskip hlimit => ?_
  rw [← hparams]
  exact Statement.get?_render hskip hlimit s w

/-- The page of a list cuts the window out of what the list finds. -/
theorem rows_page (hdb : c.Orderly x.db) (hnamed : c.Named scope.isSome criteria related.isSome)
    (hsupplied : c.Supplied x scope criteria related) (order : List SortKey) (w : Window) :
    ∃ candidates found, rowsThrough x w (c.candidates scope.isSome criteria (related.map Prod.fst)) [[]] =
        some candidates ∧
      Finds x.db.graph c.node (c.carried criteria) (c.Wanted x.db scope criteria related) found ∧
      (c.pageClause criteria (related.map Prod.fst) order).rows x w candidates = some (windowed x w found) := by
  obtain ⟨candidates, hcandidates, hfinds⟩ := c.rows_candidates w hdb hsupplied hnamed.tenant hnamed.related
  refine ⟨candidates, _, hcandidates, hfinds.perm (sorted_perm x order _), ?_⟩
  rw [pageClause, Clause.rows, Option.isSome_map, filter_keeps_none]
  rfl

/-- Some of what a list finds is ready for the traversals. -/
theorem ready_of_finds {found page : List Env}
    (h : Finds x.db.graph c.node (c.carried criteria) (c.Wanted x.db scope criteria related) found)
    (hpage : page.Sublist found) : c.Ready x (c.carried criteria) c.links page where
  node := c.node_mem_carried criteria
  vars := fun env henv => h.vars env (hpage.mem henv)
  vertex := by
    intro env henv
    obtain ⟨v, hv, hlookup, -⟩ := h.sound env (hpage.mem henv)
    exact ⟨v, hv, hlookup⟩
  once := h.once.sublist (hpage.map _)
  required := by
    intro env henv e he hmandatory
    obtain ⟨v, hv, hlookup, hwanted⟩ := h.sound env (hpage.mem henv)
    rw [c.entityId_eq hlookup, linked_ne_nil_iff]
    cases hcard : e.2.cardinality <;> cases hrequired : e.2.required <;>
      simp [Relationship.isOptional, hcard, hrequired] at hmandatory
    exact hwanted.tested.required e he hcard hrequired

/-- A list finds what it should hold, cuts the window out of it and shows each of the entities left. -/
theorem rows_list (hcustom : c.descriptor.returnClause = none) (hdb : c.Orderly db)
    (hnamed : c.Named scope.isSome criteria related.isSome) (order : List SortKey) (w : Window) :
    let s := c.listStatement scope criteria related order
    ∃ found rows, Finds db.graph c.node (c.carried criteria) (c.Wanted db scope criteria related) found ∧
      s.rows db w = some rows ∧ rows.Perm ((windowed (s.context db w) w found).map (c.shown (s.context db w))) := by
  intro s
  have hsupplied : c.Supplied (s.context db w) scope criteria related := c.supplied_render rfl w
  obtain ⟨candidates, found, hcandidates, hfound, hpage⟩ := c.rows_page hdb hnamed hsupplied order w
  have hready := c.ready_of_finds hfound (windowed_subset (s.context db w) w found)
  obtain ⟨rows, hrows, hperm⟩ := c.rows_tail w hcustom hready hnamed.links order
  refine ⟨found, rows, hfound, ?_, hperm⟩
  show rowsThrough (s.context db w) w (c.listClauses scope.isSome criteria (related.map Prod.fst) order) [[]] = _
  rw [listClauses, rowsThrough_append, hcandidates, Option.bind_some, rowsThrough, hpage, Option.bind_some, hrows]

/-! ## What a row of the result holds -/

theorem lookup_shown (hcolumns : (c.resultColumns.map Column.name).Nodup) (env : Env) {k : Column}
    (hk : k ∈ c.resultColumns) :
    (c.shown x env).lookup k.name = some (k.value x (c.gathering x.db env)) := by
  have hvars : (c.shown x env).vars = c.resultColumns.map Column.name := by
    rw [shown, Env.vars, List.map_map]
    rfl
  exact Env.lookup_of_mem (hvars ▸ hcolumns) (List.mem_map_of_mem hk)

theorem vars_gathering {env : Env} (hvars : env.vars = c.carried criteria) :
    (c.gathering db env).vars = c.carried criteria ++ c.links.flatMap (fun e => c.boundBy e.1 e.2) := by
  rw [gathering, Env.vars_append, hvars, Env.vars, List.map_flatMap]
  exact congrArg (c.carried criteria ++ ·) (List.flatMap_congr fun e _ => c.vars_gains db e.1 e.2 _)

/-- What a relationship gathered is still there behind all traversals. -/
theorem read_gathering {env : Env} (hvars : env.vars = c.carried criteria)
    (hbound : (c.carried criteria ++ c.links.flatMap (fun e => c.boundBy e.1 e.2)).Nodup) {id : Nat}
    (hnode : env.lookup c.node = some (.vertex id)) {e : String × Relationship} (he : e ∈ c.links) {name : String}
    {v : Val} (hgain : (name, v) ∈ c.gains db e.1 e.2 id) : Env.read (c.gathering db env) name = v := by
  refine Env.read_of_lookup (Env.lookup_of_mem (c.vars_gathering hvars ▸ hbound) ?_)
  rw [← c.entityId_eq hnode] at hgain
  exact List.mem_append_right _ (List.mem_flatMap.2 ⟨e, he, hgain⟩)

theorem mem_resultColumns {e : String × Relationship} (he : e ∈ c.links) {k : Column}
    (hk : k ∈ c.columnsBy e.1 e.2) : k ∈ c.resultColumns :=
  List.mem_cons_of_mem _ (List.mem_flatMap.2 ⟨e, he, hk⟩)

section Shown

variable {env : Env} {entity : Vertex} (hvars : env.vars = c.carried criteria)
  (hbound : (c.carried criteria ++ c.links.flatMap (fun e => c.boundBy e.1 e.2)).Nodup)
  (hcolumns : (c.resultColumns.map Column.name).Nodup) (hnode : env.lookup c.node = some (.vertex entity.id))

include hvars hbound hcolumns hnode

theorem lookup_gained {e : String × Relationship} (he : e ∈ c.links) {name : String} {v : Val}
    (hcolumn : Column.ofVar name ∈ c.columnsBy e.1 e.2) (hgain : (name, v) ∈ c.gains x.db e.1 e.2 entity.id) :
    (c.shown x env).lookup name = some v := by
  have hlookup := c.lookup_shown (x := x) hcolumns env (c.mem_resultColumns he hcolumn)
  have hvalue : (Column.ofVar name).value x (c.gathering x.db env) = Env.read (c.gathering x.db env) name := rfl
  rwa [hvalue, c.read_gathering hvars hbound hnode he hgain] at hlookup

theorem lookup_edgeColumn {e : String × Relationship} (he : e ∈ c.links) (hone : e.2.cardinality = .one)
    {f : EdgeField} (hf : f ∈ e.2.fields) {v : Val} (hgain : (c.edgeVar e.1, v) ∈ c.gains x.db e.1 e.2 entity.id) :
    (c.shown x env).lookup (c.edgeColumn e.1 f.name) = some (x.db.graph.property v f.name) := by
  have hcolumn : Column.expr (.prop (c.edgeVar e.1) f.name) (c.edgeColumn e.1 f.name) ∈ c.columnsBy e.1 e.2 := by
    unfold columnsBy
    rw [hone]
    exact List.mem_cons_of_mem _ (List.mem_map.2 ⟨f, hf, rfl⟩)
  have hlookup := c.lookup_shown (x := x) hcolumns env (c.mem_resultColumns he hcolumn)
  rwa [Column.value, Expr.value, c.read_gathering hvars hbound hnode he hgain] at hlookup

theorem shows_one {e : String × Relationship} (he : e ∈ c.links) (hone : e.2.cardinality = .one) :
    c.ShowsOne x.db entity e.1 e.2 (c.shown x env) := by
  have htarget : Column.ofVar (c.targetVar e.1) ∈ c.columnsBy e.1 e.2 := by simp [columnsBy, hone]
  cases hlinked : linked x.db.graph e.2 entity.id with
  | nil =>
    refine .inr ⟨fun a target hleads => ?_, ?_, fun f hf => ?_⟩
    · have hmem := (mem_linked (p := (a, target))).2 hleads
      rw [hlinked] at hmem
      cases hmem
    · exact c.lookup_gained hvars hbound hcolumns hnode he htarget (by simp [gains, hone, hlinked])
    · have hedge : (c.edgeVar e.1, Val.null) ∈ c.gains x.db e.1 e.2 entity.id := by
        simp [gains, hone, hlinked, List.ne_nil_of_mem hf]
      rw [c.lookup_edgeColumn hvars hbound hcolumns hnode he hone hf hedge, PropertyGraph.property_null]
  | cons p rest =>
    have hleads : Leads x.db.graph e.2 entity p.1 p.2 := mem_linked.1 (hlinked ▸ List.mem_cons_self)
    refine .inl ⟨p.1, p.2, hleads, ?_, fun f hf => ?_⟩
    · exact c.lookup_gained hvars hbound hcolumns hnode he htarget (by simp [gains, hone, hlinked])
    · have hedge : (c.edgeVar e.1, Val.arc p.1.id) ∈ c.gains x.db e.1 e.2 entity.id := by
        simp [gains, hone, hlinked, List.ne_nil_of_mem hf]
      rw [c.lookup_edgeColumn hvars hbound hcolumns hnode he hone hf hedge, x.db.graph.property_arc hleads.arc]

theorem shows_many {e : String × Relationship} (he : e ∈ c.links) (hmany : e.2.cardinality = .many) :
    c.ShowsMany x.db entity e.1 e.2 (c.shown x env) := by
  have halike (u : Val) : x.db.alike u u = true := x.db.alike_refl u
  refine ⟨⟨distinct x.db.alike ((linked x.db.graph e.2 entity.id).map (fun p => .vertex p.2.id)), ?_, ?_, ?_⟩,
    fun hfields => ⟨distinct x.db.alike ((linked x.db.graph e.2 entity.id).map (fun p => edgeValue e.2 p.1 p.2)),
      ?_, distinct_pairwise _ _, ?_, ?_⟩⟩
  · refine c.lookup_gained hvars hbound hcolumns hnode he ?_ ?_
    · simp [columnsBy, boundBy, hmany]
    · simp [gains, hmany]
  · refine (distinct_pairwise x.db.alike _).imp fun {u v} hnot heq => ?_
    rw [heq, halike] at hnot
    cases hnot
  · intro v
    constructor
    · intro hv
      obtain ⟨p, hp, rfl⟩ := List.mem_map.1 (mem_of_mem_distinct hv)
      exact ⟨p.1, p.2, mem_linked.1 hp, rfl⟩
    · rintro ⟨a, target, hleads, rfl⟩
      have hmem := List.mem_map_of_mem (f := fun p : Arc × Vertex => Val.vertex p.2.id)
        ((mem_linked (p := (a, target))).2 hleads)
      obtain ⟨u, hu, hsame⟩ := exists_mem_distinct (halike _) hmem
      obtain ⟨p, -, rfl⟩ := List.mem_map.1 (mem_of_mem_distinct hu)
      rwa [x.db.alike_vertex _ _ hsame] at hu
  · refine c.lookup_gained hvars hbound hcolumns hnode he ?_ ?_
    · simp [columnsBy, boundBy, edgeVars, hmany, hfields]
    · simp [gains, hmany, hfields]
  · intro v hv
    obtain ⟨p, hp, rfl⟩ := List.mem_map.1 (mem_of_mem_distinct hv)
    exact ⟨p.1, p.2, mem_linked.1 hp, rfl⟩
  · intro a target hleads
    have hmem := List.mem_map_of_mem (f := fun p : Arc × Vertex => edgeValue e.2 p.1 p.2)
      ((mem_linked (p := (a, target))).2 hleads)
    exact exists_mem_distinct (halike _) hmem

/-- The row of an entity holds the entity and what its relationships lead to. -/
theorem shows_shown : c.Shows x.db entity (c.shown x env) where
  node := by
    have hlookup := c.lookup_shown (x := x) hcolumns env (k := .ofVar c.node) List.mem_cons_self
    have hvalue : (Column.ofVar c.node).value x (c.gathering x.db env) = .vertex entity.id := by
      show Env.read (env ++ _) c.node = _
      rw [Env.read_append_of_mem (Env.mem_of_lookup hnode), Env.read_of_lookup hnode]
    rwa [hvalue] at hlookup
  columns := by
    rw [shown, Env.vars, List.map_map]
    rfl
  links := by
    intro e he
    cases hcard : e.2.cardinality with
    | one => exact c.shows_one hvars hbound hcolumns hnode he hcard
    | many => exact c.shows_many hvars hbound hcolumns hnode he hcard

end Shown

/-! ## Lists are right -/

/-- The declared relationship that a list looks at, with the ids. -/
def resolved (l : Listing) : Option (Relationship × List String) :=
  l.related.bind (fun link => (c.descriptor.relationships.get? link.1).map (·, link.2))

theorem resolved_eq_some_iff {l : Listing} {r : Relationship} {ids : List String} :
    c.resolved l = some (r, ids) ↔
      ∃ name, l.related = some (name, ids) ∧ c.descriptor.relationships.get? name = some r := by
  unfold resolved
  rw [Option.bind_eq_some_iff]
  constructor
  · rintro ⟨⟨name, ids'⟩, hrelated, hr⟩
    obtain ⟨r', hr', heq⟩ := Option.map_eq_some_iff.1 hr
    cases heq
    exact ⟨name, hrelated, hr'⟩
  · rintro ⟨name, hrelated, hr⟩
    exact ⟨(name, ids), hrelated, Option.map_eq_some_iff.2 ⟨r, hr, rfl⟩⟩

/-- A list that compiles is the statement of its criteria and its relationship. -/
theorem listStatement_of_compile {caller : Caller} {l : Listing} {r : Compiled}
    (h : c.compile caller l.operation = .ok r) :
    ∃ scope order, c.scope caller = .ok scope ∧ (c.resolved l).isSome = l.related.isSome ∧
      r.main = c.listStatement scope l.criteria (c.resolved l) order := by
  have hlist : c.list caller l.criteria (c.resolved l) = .ok r.main ∧
      (c.resolved l).isSome = l.related.isSome := by
    unfold Listing.operation at h
    cases hrelated : l.related with
    | none =>
      rw [hrelated] at h
      obtain ⟨s, hs, rfl⟩ := Result.map_eq_ok_iff.1 h
      simpa [resolved, hrelated, find] using hs
    | some link =>
      rw [hrelated] at h
      obtain ⟨s, hs, rfl⟩ := Result.map_eq_ok_iff.1 h
      obtain ⟨declared, hdeclared, hs⟩ := Result.bind_eq_ok_iff.1 hs
      unfold Schema.Descriptor.relationship at hdeclared
      split at hdeclared
      · rename_i found hget
        cases hdeclared
        simpa [resolved, hrelated, hget] using hs
      · cases hdeclared
  obtain ⟨scope, order, hscope, -, hs⟩ := c.list_outline hlist.1
  exact ⟨scope, order, hscope, hlist.2, hs⟩

theorem termSource?_eq_some_iff {criteria : Criteria} {index pattern : String} :
    c.termSource? criteria = some (index, pattern) ↔ c.descriptor.fulltextIndex = some index ∧
      ∃ term, criteria.term = some term ∧ Search.pattern? term = some pattern := by
  unfold termSource?
  simp [Option.bind_eq_some_iff]

/-- What the page of a list finds is what the list should hold. -/
theorem wanted_iff_answers {caller : Caller} {l : Listing} {scope : Option String}
    (hscope : c.scope caller = .ok scope) {v : Vertex} (hv : v ∈ db.graph.vertices) :
    c.Wanted db scope l.criteria (c.resolved l) v ↔ c.Answers db caller l v := by
  constructor
  · intro h
    refine ⟨hv, h.opened.label, fun company hcompany => ?_, h.tested.filters, h.tested.required,
      fun index term pattern hindex hterm hpattern => ?_, fun name ids r hrelated hr => ?_⟩
    · rw [hscope] at hcompany
      exact h.opened.tenant company (Except.ok.inj hcompany)
    · have hhit := c.termSource?_eq_some_iff.2 ⟨hindex, term, hterm, hpattern⟩
      exact h.opened.found _ (by rw [searchArgs, hhit, Option.map_some])
    · exact h.linked r ids (c.resolved_eq_some_iff.2 ⟨name, hrelated, hr⟩)
  · intro h
    refine ⟨⟨h.label, fun company hcompany => h.tenant company (hcompany ▸ hscope), fun args hargs => ?_⟩,
      ⟨h.filters, h.required⟩, fun r ids hlink => ?_⟩
    · obtain ⟨⟨index, pattern⟩, hhit, rfl⟩ := Option.map_eq_some_iff.1 hargs
      obtain ⟨hindex, term, hterm, hpattern⟩ := c.termSource?_eq_some_iff.1 hhit
      exact h.found index term pattern hindex hterm hpattern
    · obtain ⟨name, hrelated, hr⟩ := c.resolved_eq_some_iff.1 hlink
      exact h.related name ids r hrelated hr

/-- A list that compiles shows the entities that it should hold and no others, each in one row with what its
relationships lead to. -/
theorem rows_show_exactly_answers {caller : Caller} {l : Listing} {r : Compiled}
    (h : c.compile caller l.operation = .ok r) (hcustom : c.descriptor.returnClause = none)
    (hnames : (c.listNames caller l).Nodup) (hdb : c.Orderly db) :
    ∃ rows, r.main.rows db .all = some rows ∧
      (∀ row ∈ rows, ∃ entity, c.Answers db caller l entity ∧ c.Shows db entity row) ∧
      (∀ entity, c.Answers db caller l entity → ∃ row ∈ rows, c.Shows db entity row) ∧
      (rows.map (Env.read · c.node)).Nodup := by
  obtain ⟨scope, order, hscope, hrelated, hs⟩ := c.listStatement_of_compile h
  have hnamed := c.named_of_nodup hscope hnames
  rw [← hrelated] at hnamed
  obtain ⟨found, rows, hfinds, hrows, hperm⟩ := c.rows_list hcustom hdb hnamed order .all
  have hshows (env : Env) (henv : env ∈ found) (v : Vertex) (hnode : env.lookup c.node = some (.vertex v.id)) :=
    c.shows_shown (x := r.main.context db .all) (hfinds.vars env henv) hnamed.bound hnamed.columns hnode
  rw [← hs] at hrows hperm
  refine ⟨rows, hrows, ?_, ?_, ?_⟩
  · intro row hrow
    obtain ⟨env, henv, rfl⟩ := List.mem_map.1 (hperm.mem_iff.1 hrow)
    obtain ⟨v, hv, hnode, hwanted⟩ := hfinds.sound env henv
    exact ⟨v, (c.wanted_iff_answers hscope hv).1 hwanted, hshows env henv v hnode⟩
  · intro v hanswers
    obtain ⟨env, henv, hnode⟩ :=
      hfinds.complete v hanswers.vertex ((c.wanted_iff_answers hscope hanswers.vertex).2 hanswers)
    exact ⟨_, hperm.mem_iff.2 (List.mem_map_of_mem henv), hshows env henv v hnode⟩
  · have hread : (found.map (c.shown (r.main.context db .all))).map (Env.read · c.node) =
        found.map (Env.read · c.node) := by
      rw [List.map_map]
      refine List.map_congr_left fun env henv => ?_
      obtain ⟨v, -, hnode, -⟩ := hfinds.sound env henv
      rw [Function.comp_apply, Env.read_of_lookup (hshows env henv v hnode).node, Env.read_of_lookup hnode]
    refine (hperm.map _).nodup_iff.2 ?_
    show ((found.map (c.shown (r.main.context db .all))).map (Env.read · c.node)).Nodup
    rw [hread]
    exact hfinds.once

/-- Tags with an owner each and the books that carry them. -/
def tags : Compiler :=
  ⟨((Schema.Descriptor.base "Tag" "tag").withTenant.withRelationship "owner"
      ⟨"OWNED_BY", .outgoing, .one, true, "User", [⟨"since", none⟩], none, none⟩).withRelationship "books"
      ⟨"TAGGED", .incoming, .many, false, "Book", [], none, none⟩, default⟩

/-- Two tags of a company. One of them has no owner; the other one has one by two arcs, and one book. -/
def tagGraph : PropertyGraph where
  vertices := [⟨0, ["Company"], .ofList [("id", .text "c1")]⟩, ⟨1, ["Tag"], .ofList [("id", .text "t1")]⟩,
    ⟨2, ["Tag"], .ofList [("id", .text "t2")]⟩, ⟨3, ["User"], .ofList [("id", .text "u1")]⟩,
    ⟨4, ["Book"], .ofList [("id", .text "b1")]⟩]
  arcs := [⟨0, "BELONGS_TO", 1, 0, ∅⟩, ⟨1, "BELONGS_TO", 2, 0, ∅⟩,
    ⟨2, "OWNED_BY", 1, 3, .ofList [("since", .int 2020)]⟩, ⟨3, "OWNED_BY", 1, 3, .ofList [("since", .int 2021)]⟩,
    ⟨4, "TAGGED", 4, 1, ∅⟩, ⟨5, "TAGGED", 4, 1, ∅⟩]
  vertices_nodup := by decide
  arcs_nodup := by decide
  closed := by decide

theorem orderly_tagGraph : tags.Orderly (.ofGraph tagGraph) where
  tenant := by
    intro s hs t ht hslabel htlabel _ _ _
    have htenant : ∀ v ∈ tagGraph.vertices, "Company" ∈ v.labels → v.id = 0 := by decide
    refine tagGraph.eq_of_id_eq hs ht ?_
    rw [htenant s hs hslabel, htenant t ht htlabel]
  membership := by
    intro entity _ _ company a b tenant ha hb
    have harc : ∀ a ∈ tagGraph.arcs, a.type = "BELONGS_TO" → a.id + 1 = a.source := by decide
    have hid : a.id + 1 = b.id + 1 := by
      rw [harc a ha.arc ha.type, harc b hb.arc hb.type, ha.source, hb.source]
    exact List.inj_on_of_nodup_map tagGraph.arcs_nodup ha.arc hb.arc (Nat.succ.inj hid)
  hits := fun _ => List.nodup_nil

/-- The tags of a company that are linked to a book. -/
theorem rows_show_exactly_answers_tagGraph :
    let caller : Caller := .member "c1" "u1"
    let l : Listing := ⟨default, some ("books", ["b1"])⟩
    ∃ r, tags.compile caller l.operation = .ok r ∧ ∃ rows, r.main.rows (.ofGraph tagGraph) .all = some rows ∧
      (∀ row ∈ rows, ∃ entity, tags.Answers (.ofGraph tagGraph) caller l entity ∧
        tags.Shows (.ofGraph tagGraph) entity row) ∧
      (∀ entity, tags.Answers (.ofGraph tagGraph) caller l entity →
        ∃ row ∈ rows, tags.Shows (.ofGraph tagGraph) entity row) ∧
      (rows.map (Env.read · tags.node)).Nodup := by
  intro caller l
  obtain ⟨r, hr⟩ : ∃ r, tags.compile caller l.operation = .ok r := Result.isSome_toOption_iff.1 (by decide +kernel)
  exact ⟨r, hr, rows_show_exactly_answers tags hr rfl (by decide) orderly_tagGraph⟩

/-- The tag without an owner is left out; the two arcs to the owner and to the book make one row. -/
example : (tags.compile (.member "c1" "u1") (.find default)).toOption.bind
    (fun r => r.main.rows (.ofGraph tagGraph) .all) =
    some [[("tag", .vertex 1), ("tag_books", .list [.vertex 4]), ("tag_owner", .vertex 3),
      ("tag_owner_since", .int 2020)]] := by rfl

end EntityGraph.Compile.Compiler
