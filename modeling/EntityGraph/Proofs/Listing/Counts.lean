import EntityGraph.Proofs.Listing.Results

/-!
# Counts agree and pages are full

The count of a list and the list itself are two statements that share the clauses before the page. Both find the same
entities there, so the count is the number of rows of the whole list. Nothing behind the page drops or repeats a row,
so a window returns as many rows as fit.
-/
namespace EntityGraph.Paging

/-- How many of some rows a window leaves. -/
def Window.count (w : Window) (total : Nat) : Nat :=
  match w with
  | .all => total
  | .first limit => min limit total
  | .offset skip limit => min limit (total - skip)

end EntityGraph.Paging

namespace EntityGraph.Cypher

open EntityGraph.Graph
open Json (Value)
open Paging (Window)

theorem Statement.size_windowParams {params : Params} {x : Context} {w : Window}
    (h : x.params = windowParams params w) (rows : List Env) :
    (windowed x w rows).length = w.count rows.length := by
  have hlimit (params : Params) (n : Nat) : ((params.insert limitParam (.ofNat n)).get? limitParam).bind
      Value.nat? = some n := by
    rw [Dict.get?_insert, if_pos rfl]
    simp [Value.ofNat, Value.nat?]
  cases w with
  | all => rfl
  | first limit =>
    have hsize : x.size limitParam = limit := by
      rw [Context.size, h, windowParams, hlimit, Option.getD_some]
    rw [windowed, hsize, List.length_take, Window.count]
  | offset skip limit =>
    have hsize : x.size limitParam = limit := by
      rw [Context.size, h, windowParams, hlimit, Option.getD_some]
    have hskip : x.size skipParam = skip := by
      rw [Context.size, h, windowParams, Dict.get?_insert, if_neg (by decide), Dict.get?_insert, if_pos rfl]
      simp [Value.ofNat, Value.nat?]
    rw [windowed, hsize, hskip, List.length_take, List.length_drop, Window.count]

/-! ## The count of a paged statement -/

/-- Clauses that a count keeps as they are. -/
def Clause.Plain (k : Clause) : Prop := Statement.unordered k = k

theorem Clause.Plain.not_marker {k : Clause} (h : k.Plain) : k.isPageMarker = false := by
  cases k with
  | projection columns distinct predicate order page =>
    injection h with _ _ _ _ hpage
    exact hpage.symm
  | _ => rfl

theorem Clause.Plain.guardedBy {k : Clause} (h : k.Plain) (tests : List Predicate) : (k.guardedBy tests).Plain := by
  induction tests generalizing k with
  | nil => exact h
  | cons p rest ih =>
    refine ih ?_
    cases k with
    | projection columns distinct predicate order page =>
      injection h with _ _ _ horder hpage
      subst horder hpage
      rfl
    | _ => rfl

theorem Statement.throughMarker_append {ks : List Clause} (hplain : ∀ k ∈ ks, k.Plain) {page : Clause}
    (hpage : page.isPageMarker = true) (rest : List Clause) :
    throughMarker (ks ++ page :: rest) = some (ks ++ [page]) := by
  induction ks with
  | nil => rw [List.nil_append, throughMarker, if_pos hpage, List.nil_append]
  | cons k ks ih =>
    have hk : ¬k.isPageMarker = true := by
      rw [(hplain k List.mem_cons_self).not_marker]
      exact Bool.false_ne_true
    rw [List.cons_append, throughMarker, if_neg hk, ih fun k h => hplain k (List.mem_cons_of_mem _ h)]
    rfl

/-- The count of different values of a variable. -/
def counting (node : String) : Clause :=
  .returning [.expr (.applyDistinct "count" (.var node)) Statement.totalColumn] false []

/-- A statement whose clauses before the page are plain is counted by those. -/
theorem Statement.count?_append {ks : List Clause} (hplain : ∀ k ∈ ks, k.Plain) {page : Clause}
    (hpage : page.isPageMarker = true) (rest : List Clause) (params : Params) (node : String)
    (entity : Option String) :
    Statement.count? ⟨ks ++ page :: rest, params, some node, entity⟩ =
      some ⟨ks ++ [unordered page, counting node], params, some node, entity⟩ := by
  have hkept : ks.map unordered = ks := by
    rw [List.map_congr_left hplain, List.map_id']
  simp only [count?, Option.bind_eq_bind, Option.bind_some, throughMarker_append hplain hpage, List.map_append, hkept,
    List.map_cons, List.map_nil, List.append_assoc, List.cons_append, List.nil_append, counting]

/-- Rows with a vertex each, all different, are counted one by one. -/
theorem rows_counting (x : Context) (w : Window) {node : String} {rows : List Env}
    (hvertex : ∀ env ∈ rows, ∃ id, env.lookup node = some (.vertex id))
    (honce : (rows.map (Env.read · node)).Nodup) :
    (counting node).rows x w rows = some [[(Statement.totalColumn, .int rows.length)]] := by
  have hcount : isAggregate "count" = true := by decide
  have hcollect : ¬"count" = "collect" := by decide
  have hvalues : rows.flatMap (fun row => [Env.read row node]) = rows.map (Env.read · node) :=
    List.map_eq_flatMap.symm
  have hpresent := Env.present_vertices hvertex
  have hdistinct : distinct x.db.alike (rows.map (Env.read · node)) = rows.map (Env.read · node) := by
    refine distinct_eq_self (fun u _ => x.db.alike_refl u) (honce.imp_of_mem fun {u v} hu hv hne => ?_)
    obtain ⟨a, ha, rfl⟩ := List.mem_map.1 hu
    obtain ⟨b, hb, rfl⟩ := List.mem_map.1 hv
    obtain ⟨i, hi⟩ := hvertex a ha
    obtain ⟨j, hj⟩ := hvertex b hb
    rw [Env.read_of_lookup hi, Env.read_of_lookup hj] at hne ⊢
    rw [Bool.eq_false_iff]
    exact fun halike => hne (congrArg Val.vertex (x.db.alike_vertex i j halike))
  simp [counting, Clause.rows, sorted_nil, project, groupsOf, Column.aggregates, Column.bind, Column.name,
    Column.value, Expr.applyDistinct, Expr.aggregates, Expr.value, exprValues, hcount, Context.aggregate,
    Context.over, hvalues, hpresent, hdistinct]

end EntityGraph.Cypher

namespace EntityGraph.Compile.Compiler

open Cypher EntityGraph.Graph
open Paging (Window)
open Schema (Relationship)

variable (c : Compiler) {db : Database} {scope : Option String} {criteria : Criteria}
  {related : Option (Relationship × List String)}

theorem plain_openingInit (tied : Bool) (source : Source) : ∀ k ∈ c.openingInit tied source, k.Plain := by
  intro k hk
  cases source with
  | label =>
    cases tied with
    | false => cases hk
    | true =>
      rw [List.mem_singleton.1 hk]
      rfl
  | index procedure args =>
    rcases List.mem_cons.1 hk with rfl | hk
    · rfl
    · cases tied with
      | false => cases hk
      | true =>
        rw [List.mem_singleton.1 hk]
        rfl

theorem plain_openingLast (tied : Bool) (source : Source) : (c.openingLast tied source).Plain := by
  cases tied <;> cases source <;> rfl

theorem plain_candidates (tied : Bool) (criteria : Criteria) (related : Option Relationship) :
    ∀ k ∈ c.candidates tied criteria related, k.Plain := by
  intro k hk
  rcases List.mem_append.1 hk with hk | hk
  · exact c.plain_openingInit tied _ k hk
  · rcases List.mem_cons.1 hk with rfl | hk
    · exact (c.plain_openingLast tied _).guardedBy _
    · obtain ⟨r, -, rfl⟩ := Option.map_eq_some_iff.1 (Option.mem_toList.1 hk)
      rfl

/-- The statement that counts a list. -/
def countStatement (scope : Option String) (criteria : Criteria) (related : Option (Relationship × List String))
    (order : List SortKey) : Statement :=
  ⟨c.candidates scope.isSome criteria (related.map Prod.fst) ++
      [Statement.unordered (c.pageClause criteria (related.map Prod.fst) order), counting c.node],
    c.listParams scope criteria related, some c.node, some c.label⟩

theorem count?_listStatement (scope : Option String) (criteria : Criteria)
    (related : Option (Relationship × List String)) (order : List SortKey) :
    (c.listStatement scope criteria related order).count? = some (c.countStatement scope criteria related order) :=
  Statement.count?_append (c.plain_candidates _ _ _) rfl _ _ _ _

/-- The count of a list finds what the list finds, and counts it. -/
theorem rows_countStatement (hdb : c.Orderly db) (hnamed : c.Named scope.isSome criteria related.isSome)
    (order : List SortKey) (w : Window) :
    ∃ found, Finds db.graph c.node (c.carried criteria) (c.Wanted db scope criteria related) found ∧
      (c.countStatement scope criteria related order).rows db w =
        some [[(Statement.totalColumn, .int found.length)]] := by
  have hsupplied : c.Supplied ((c.countStatement scope criteria related order).context db w) scope criteria related :=
    c.supplied_render rfl w
  obtain ⟨candidates, hcandidates, hfinds⟩ := c.rows_candidates w hdb hsupplied hnamed.tenant hnamed.related
  refine ⟨_, hfinds, ?_⟩
  have hpage (x : Context) : (Statement.unordered (c.pageClause criteria (related.map Prod.fst) order)).rows x w
      candidates = some ((project x ((c.carried criteria).map Column.ofVar) related.isSome candidates).map
        Prod.fst) := by
    rw [pageClause, Statement.unordered, Clause.rows, Option.isSome_map, sorted_nil, filter_keeps_none]
    rfl
  show rowsThrough ((c.countStatement scope criteria related order).context db w) w
    (c.candidates scope.isSome criteria (related.map Prod.fst) ++
      [Statement.unordered (c.pageClause criteria (related.map Prod.fst) order), counting c.node]) [[]] = _
  rw [rowsThrough_append, hcandidates, Option.bind_some, rowsThrough, hpage, Option.bind_some, rowsThrough,
    rows_counting _ w hfinds.exists_id hfinds.once]
  rfl

/-- The count of a list that compiles is the number of its rows, and through any window it has as many rows as fit. -/
theorem count_rows_and_length_rows {caller : Caller} {l : Listing} {r : Compiled}
    (h : c.compile caller l.operation = .ok r) (hcustom : c.descriptor.returnClause = none)
    (hnames : (c.listNames caller l).Nodup) (hdb : c.Orderly db) :
    ∃ (k : Statement) (total : Nat), r.main.count? = some k ∧
      (∀ w, k.rows db w = some [[(Statement.totalColumn, .int total)]]) ∧
      ∀ w, ∃ rows, r.main.rows db w = some rows ∧ rows.length = w.count total := by
  obtain ⟨scope, order, hscope, hrelated, hs⟩ := c.listStatement_of_compile h
  have hnamed := c.named_of_nodup hscope hnames
  rw [← hrelated] at hnamed
  obtain ⟨all, hall, -⟩ := c.rows_countStatement hdb hnamed order .all
  refine ⟨c.countStatement scope l.criteria (c.resolved l) order, all.length, ?_, fun w => ?_, fun w => ?_⟩
  · rw [hs]
    exact c.count?_listStatement scope l.criteria (c.resolved l) order
  · obtain ⟨found, hfinds, hrows⟩ := c.rows_countStatement hdb hnamed order w
    rw [hrows, hfinds.length_eq hall]
  · obtain ⟨found, rows, hfinds, hrows, hperm⟩ := c.rows_list hcustom hdb hnamed order w
    have hpaginated : (c.listStatement scope l.criteria (c.resolved l) order).isPaginated = true := by
      simp [Statement.isPaginated, listStatement, listClauses, pageClause, Clause.isPageMarker]
    have hparams : ((c.listStatement scope l.criteria (c.resolved l) order).context db w).params =
        Statement.windowParams (c.listStatement scope l.criteria (c.resolved l) order).params w := by
      rw [Statement.context, Statement.render, hpaginated]
      rfl
    refine ⟨rows, hs ▸ hrows, ?_⟩
    rw [hperm.length_eq, List.length_map, Statement.size_windowParams hparams, hfinds.length_eq hall]

/-- The count and the pages of the tags that are linked to a book. -/
theorem count_rows_and_length_rows_tagGraph :
    let l : Listing := ⟨default, some ("books", ["b1"])⟩
    ∃ r, tags.compile (.member "c1" "u1") l.operation = .ok r ∧ ∃ (k : Statement) (total : Nat),
      r.main.count? = some k ∧
      (∀ w, k.rows (.ofGraph tagGraph) w = some [[(Statement.totalColumn, .int total)]]) ∧
      ∀ w, ∃ rows, r.main.rows (.ofGraph tagGraph) w = some rows ∧ rows.length = w.count total := by
  intro l
  obtain ⟨r, hr⟩ : ∃ r, tags.compile (.member "c1" "u1") l.operation = .ok r :=
    Result.isSome_toOption_iff.1 (by decide +kernel)
  exact ⟨r, hr, count_rows_and_length_rows tags hr rfl (by decide) orderly_tagGraph⟩

end EntityGraph.Compile.Compiler
