import EntityGraph.Cypher.Statement
import EntityGraph.Proofs.Graph.Basic
import EntityGraph.Proofs.Graph.Grouping

/-!
# Expressions and patterns over a graph

What an expression is worth in a row, whether a predicate is true there, and which rows a pattern makes of a row:
one for each way to find its path in the graph along different arcs. Predicates have three values, and only true
keeps a row. `collect` and `count` range over the group of rows that a projection is evaluated for.
-/
namespace EntityGraph.Graph

/-- A row under evaluation: values by variable, where an unbound variable reads as null. -/
abbrev Env := List (String × Val)

namespace Env

/-- The value of a variable. -/
def read (env : Env) (name : String) : Val := (env.lookup name).getD .null

/-- The variables in scope. -/
def vars (env : Env) : List String := env.map Prod.fst

/-- Binds a variable to an element, or checks that it is bound to that element already. -/
def bind? (env : Env) (binder : Option String) (v : Val) : Option Env :=
  match binder with
  | none => some env
  | some name =>
    match env.lookup name with
    | none => some (env ++ [(name, v)])
    | some old => if old.sameElement v then some env else none

end Env

/-- The vertices at the other end of an arc, entered at a vertex. -/
def Arc.ends (a : Arc) (arrow : Cypher.Arrow) (id : Nat) : List Nat :=
  let out := if a.source = id then [a.target] else []
  let into := if a.target = id then [a.source] else []
  match arrow with
  | .outgoing => out
  | .incoming => into
  | .either => if a.source = a.target then out else out ++ into

/-- Conjunction over three values. -/
def allOf (parts : List (Option Bool)) : Option Bool :=
  if parts.contains (some false) then some false else if parts.contains none then none else some true

/-- Disjunction over three values. -/
def anyOf (parts : List (Option Bool)) : Option Bool :=
  if parts.contains (some true) then some true else if parts.contains none then none else some false

theorem allOf_eq_true_iff {parts : List (Option Bool)} :
    allOf parts = some true ↔ ∀ p ∈ parts, p = some true := by
  unfold allOf
  constructor
  · intro h p hp
    split at h
    · cases h
    · rename_i hfalse
      split at h
      · cases h
      · rename_i hnone
        match p with
        | some true => rfl
        | some false => exact absurd (List.contains_iff_mem.2 hp) hfalse
        | none => exact absurd (List.contains_iff_mem.2 hp) hnone
  · intro h
    have hfalse : ¬parts.contains (some false) = true := fun hc => by
      have := h _ (List.contains_iff_mem.1 hc)
      cases this
    have hnone : ¬parts.contains none = true := fun hc => by
      have := h _ (List.contains_iff_mem.1 hc)
      cases this
    rw [if_neg hfalse, if_neg hnone]

theorem anyOf_eq_true_iff {parts : List (Option Bool)} : anyOf parts = some true ↔ some true ∈ parts := by
  unfold anyOf
  constructor
  · intro h
    split at h
    · rename_i htrue
      exact List.contains_iff_mem.1 htrue
    · split at h <;> cases h
  · intro h
    rw [if_pos (List.contains_iff_mem.2 h)]

/-- What evaluation reads besides the row. -/
structure Context where
  db : Database
  params : Cypher.Params
  /-- The rows that aggregates range over. -/
  group : List Env

/-- The value of a parameter. -/
def Context.param (x : Context) (name : String) : Val := ((x.params.get? name).map Val.ofJson).getD .null

/-- A parameter is read as a value. -/
theorem Context.param_of_get? (x : Context) {name : String} {value : Json.Value}
    (h : x.params.get? name = some value) : x.param name = .ofJson value := by
  rw [param, h, Option.map_some, Option.getD_some]

/-- The number that a parameter holds. -/
def Context.size (x : Context) (name : String) : Nat := ((x.params.get? name).bind Json.Value.nat?).getD 0

/-- The context for a group. -/
def Context.over (x : Context) (group : List Env) : Context := { x with group := group }

/-- The context inside of aggregates. -/
def Context.alone (x : Context) : Context := x.over []

/-- The functions that range over a group. -/
def isAggregate (function : String) : Bool := function = "collect" || function = "count"

/-- An aggregate of the values that are not null. -/
def Context.aggregate (x : Context) (function : String) (dropDuplicates : Bool) (values : List Val) : Val :=
  let present := values.filter (fun v => !v.isNull)
  let kept := if dropDuplicates then distinct x.db.alike present else present
  if function = "collect" then .list kept else .int kept.length

/-- A function of its arguments. -/
def Context.apply (x : Context) (function : String) (args : List Val) : Val :=
  if function = "head" then (args.headD .null).head else x.db.function function args

/-- Membership in a list, unknown if only an unknown comparison could make it true. -/
def Context.isIn (x : Context) (item list : Val) : Option Bool :=
  match list with
  | .list items => anyOf (items.map (x.db.equal item))
  | _ => none

/-- A three-valued truth as a value. -/
def ofTruth : Option Bool → Val
  | some b => .bool b
  | none => .null

end EntityGraph.Graph

namespace EntityGraph.Cypher

open EntityGraph.Graph

mutual
/-- The value of an expression in a row. -/
def Expr.value (x : Context) (env : Env) : Expr → Val
  | .var name => env.read name
  | .prop var key => x.db.graph.property (env.read var) key
  | .param name => x.param name
  | .entry param key => (x.param param).entry (key.value x env)
  | .null => .null
  | .int n => .int n
  | .quoted name => .text name
  | .call function distinct args =>
    if isAggregate function then
      x.aggregate function distinct (x.group.flatMap (fun row => exprValues x.alone row args))
    else x.apply function (exprValues x env args)
  | .comprehension binder source item =>
    match source.value x env with
    | .list items => .list (items.map (fun v => item.value x ((binder, v) :: env)))
    | _ => .null
  | .map entries => .map (entryValues x env entries)
  | .choice test yes no => if test.truth x env = some true then yes.value x env else no.value x env
  | .keys map => (map.value x env).keys
  | .truth test => ofTruth (test.truth x env)
def exprValues (x : Context) (env : Env) : List Expr → List Val
  | [] => []
  | e :: rest => e.value x env :: exprValues x env rest
def entryValues (x : Context) (env : Env) : List (String × Expr) → List (String × Val)
  | [] => []
  | (k, e) :: rest => (k, e.value x env) :: entryValues x env rest
/-- Whether a predicate is true in a row, if that is known. -/
def Predicate.truth (x : Context) (env : Env) : Predicate → Option Bool
  | .eq left right => x.db.equal (left.value x env) (right.value x env)
  | .gt left right => x.db.greater (left.value x env) (right.value x env)
  | .isIn item list => x.isIn (item.value x env) (list.value x env)
  | .isNull e => some (e.value x env).isNull
  | .isNotNull e => some !(e.value x env).isNull
  | .hasLabel var label => (x.db.graph.labels (env.read var)).map (fun labels => labels.contains label)
  | .inLabels label var => (x.db.graph.labels (env.read var)).bind
      (fun labels => x.isIn (label.value x env) (.list (labels.map .text)))
  | .all parts => allOf (predicateTruths x env parts)
  | .any parts => anyOf (predicateTruths x env parts)
  | .not p => (p.truth x env).map not
  | .exists pattern => some !(pattern.paths x env).isEmpty
def predicateTruths (x : Context) (env : Env) : List Predicate → List (Option Bool)
  | [] => []
  | p :: rest => p.truth x env :: predicateTruths x env rest
/-- The row with a vertex bound by a node, if the node accepts the vertex. -/
def Node.accept (x : Context) (env : Env) (v : Vertex) : Node → Option Env
  | ⟨binder, label, props⟩ =>
    if label.all v.labels.contains &&
        (entryValues x env props).all (fun e => x.db.equal (v.prop e.1) e.2 = some true) then
      env.bind? binder (.vertex v.id)
    else none
/-- The rows that a path makes of a row. -/
def Pattern.paths (x : Context) (env : Env) : Pattern → List Env
  | ⟨start, hops⟩ =>
    x.db.graph.vertices.flatMap (fun v =>
      (start.accept x env v).toList.flatMap (fun env => hopPaths x env v.id [] hops))
/-- The rows that the hops from a vertex make of a row, along arcs that are not used yet. -/
def hopPaths (x : Context) (env : Env) (at_ : Nat) (used : List Nat) : List (Edge × Node) → List Env
  | [] => [env]
  | (e, n) :: rest =>
    x.db.graph.arcs.flatMap (fun a =>
      if a.type = e.type ∧ a.id ∉ used then
        (a.ends e.arrow at_).flatMap (fun id =>
          (x.db.graph.withId id).flatMap (fun v =>
            ((env.bind? e.binder (.arc a.id)).bind (fun env => n.accept x env v)).toList.flatMap
              (fun env => hopPaths x env v.id (a.id :: used) rest)))
      else [])
end

/-- Whether an optional predicate keeps a row. -/
def keeps (x : Context) (predicate : Option Predicate) (env : Env) : Bool :=
  predicate.all (fun p => p.truth x env = some true)

/-- The variables that a pattern binds. -/
def Pattern.binders (p : Pattern) : List String :=
  p.start.binder.toList ++ p.hops.flatMap (fun h => h.1.binder.toList ++ h.2.binder.toList)

end EntityGraph.Cypher
