import EntityGraph.Proofs.Graph.Matching
import Mathlib.Data.List.Sort

/-!
# Rows of a statement

Clauses take rows to rows. A projection with an aggregate makes one row of each group of rows that agree on the
other columns, and a single row of all rows if there are no other columns. Then it orders its rows, cuts the window
out of them if it carries the page, and keeps those that pass its predicate. Clauses that write have no rows here.
-/
namespace EntityGraph.Cypher

open EntityGraph.Graph
open Paging (Window)

/-! ## Columns -/

mutual
/-- Whether an expression ranges over a group. -/
def Expr.aggregates : Expr → Bool
  | .call function _ args => isAggregate function || anyAggregates args
  | .entry _ key => key.aggregates
  | .comprehension _ source item => source.aggregates || item.aggregates
  | .map entries => anyEntryAggregates entries
  | .choice test yes no => test.aggregates || yes.aggregates || no.aggregates
  | .keys map => map.aggregates
  | .truth test => test.aggregates
  | _ => false
def anyAggregates : List Expr → Bool
  | [] => false
  | e :: rest => e.aggregates || anyAggregates rest
def anyEntryAggregates : List (String × Expr) → Bool
  | [] => false
  | (_, e) :: rest => e.aggregates || anyEntryAggregates rest
/-- Whether a predicate ranges over a group. -/
def Predicate.aggregates : Predicate → Bool
  | .eq left right => left.aggregates || right.aggregates
  | .gt left right => left.aggregates || right.aggregates
  | .isIn item list => item.aggregates || list.aggregates
  | .isNull e => e.aggregates
  | .isNotNull e => e.aggregates
  | .inLabels label _ => label.aggregates
  | .all parts => anyPredicateAggregates parts
  | .any parts => anyPredicateAggregates parts
  | .not p => p.aggregates
  | _ => false
def anyPredicateAggregates : List Predicate → Bool
  | [] => false
  | p :: rest => p.aggregates || anyPredicateAggregates rest
end

namespace Column

/-- Whether a column ranges over a group. -/
def aggregates : Column → Bool
  | .var _ _ => false
  | .expr e _ => e.aggregates

/-- The value of a column in a row. -/
def value (x : Context) (env : Env) : Column → Val
  | .var name _ => env.read name
  | .expr e _ => e.value x env

/-- The variable that a column binds, with its value. -/
def bind (x : Context) (env : Env) (k : Column) : String × Val := (k.name, k.value x env)

end Column

/-! ## Projections -/

/-- Whether two lists of values are alike item by item. -/
def alikeAll (db : Database) : List Val → List Val → Bool
  | [], [] => true
  | u :: us, v :: vs => db.alike u v && alikeAll db us vs
  | _, _ => false

/-- The groups of rows that agree on the columns without aggregates. -/
def groupsOf (x : Context) (columns : List Column) (rows : List Env) : List (List Env) :=
  let keys := columns.filter (fun k => !k.aggregates)
  if keys.isEmpty then [rows]
  else (grouped (alikeAll x.db) (fun row => keys.map (Column.value x row)) rows).map Prod.snd

/-- The rows of a projection, each with the row behind it whose variables an ordering may also name. -/
def project (x : Context) (columns : List Column) (dropDuplicates : Bool) (rows : List Env) : List (Env × Env) :=
  let projected :=
    if columns.any Column.aggregates then
      (groupsOf x columns rows).map
        (fun group => (columns.map (Column.bind (x.over group) (group.headD [])), []))
    else rows.map (fun row => (columns.map (Column.bind x row), row))
  if dropDuplicates then
    (distinct (fun a b => alikeAll x.db (a.map Prod.snd) (b.map Prod.snd)) (projected.map Prod.fst)).map (·, [])
  else projected

theorem project_plain (x : Context) {columns : List Column} (h : columns.any Column.aggregates = false)
    (rows : List Env) :
    project x columns false rows = rows.map (fun row => (columns.map (Column.bind x row), row)) := by
  simp only [project, h, Bool.false_eq_true, if_false]

/-- Whether a row does not come after another one. -/
def inOrder (x : Context) (a b : Env) : List SortKey → Bool
  | [] => true
  | key :: rest =>
    let u := key.expr.value x a
    let v := key.expr.value x b
    let forward := if key.descending then x.db.precedes v u else x.db.precedes u v
    let backward := if key.descending then x.db.precedes u v else x.db.precedes v u
    if forward && backward then inOrder x a b rest else forward

/-- Projected rows in their order. -/
def sorted (x : Context) (order : List SortKey) (rows : List (Env × Env)) : List Env :=
  (rows.insertionSort (fun a b => inOrder x (a.1 ++ a.2) (b.1 ++ b.2) order = true)).map Prod.fst

theorem sorted_nil (x : Context) (rows : List (Env × Env)) : sorted x [] rows = rows.map Prod.fst := by
  have hpairwise : rows.Pairwise (fun a b => inOrder x (a.1 ++ a.2) (b.1 ++ b.2) [] = true) :=
    List.pairwise_of_forall fun _ _ => rfl
  rw [sorted, hpairwise.insertionSort_eq]

theorem sorted_perm (x : Context) (order : List SortKey) (rows : List (Env × Env)) :
    (sorted x order rows).Perm (rows.map Prod.fst) :=
  (List.perm_insertionSort _ rows).map Prod.fst

/-- The rows of a window. -/
def windowed (x : Context) (w : Window) (rows : List Env) : List Env :=
  match w with
  | .all => rows
  | .first _ => rows.take (x.size limitParam)
  | .offset _ _ => (rows.drop (x.size skipParam)).take (x.size limitParam)

/-! ## Clauses -/

/-- The rows that a `MATCH` makes of a row. -/
def matched (x : Context) (p : Pattern) (predicate : Option Predicate) (env : Env) : List Env :=
  (p.paths x env).filter (keeps x predicate)

/-- The row with null for the variables of a pattern that found nothing. -/
def unmatched (p : Pattern) (env : Env) : Env :=
  env ++ (p.binders.filter (fun name => (env.lookup name).isNone)).map (fun name => (name, .null))

/-- The rows that a clause makes of rows, unless it writes. -/
def Clause.rows (x : Context) (w : Window) : Clause → List Env → Option (List Env)
  | .pattern p optional predicate, rows =>
    some (rows.flatMap (fun env =>
      let found := matched x p predicate env
      if optional && found.isEmpty then [unmatched p env] else found))
  | .procedure name args yields, rows =>
    some (rows.flatMap (fun env => (x.db.procedure name (exprValues x env args)).map
      (fun out => env ++ yields.map (fun column => (column, Env.read out column)))))
  | .projection columns distinct predicate order page, rows =>
    let listed := sorted x order (project x columns distinct rows)
    some ((if page then windowed x w listed else listed).filter (keeps x predicate))
  | .unwind list binder, rows =>
    some (rows.flatMap (fun env =>
      match list.value x env with
      | .list items => items.map (fun v => env ++ [(binder, v)])
      | .null => []
      | v => [env ++ [(binder, v)]]))
  | .returning columns distinct order, rows => some (sorted x order (project x columns distinct rows))
  | _, _ => none

/-- The rows that clauses make of rows one after the other. -/
def rowsThrough (x : Context) (w : Window) : List Clause → List Env → Option (List Env)
  | [], rows => some rows
  | k :: rest, rows => (k.rows x w rows).bind (rowsThrough x w rest)

/-- The rows of a statement rendered through a window. -/
def Statement.rows (s : Statement) (db : Database) (w : Window) : Option (List Env) :=
  rowsThrough ⟨db, (s.render w).params, []⟩ w s.clauses [[]]

end EntityGraph.Cypher
