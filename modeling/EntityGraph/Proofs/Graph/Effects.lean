import EntityGraph.Proofs.Graph.Paths
import EntityGraph.Proofs.Graph.Updates

/-!
# What statements do to a graph

A clause takes a graph and rows to a graph and rows. Clauses that read see the graph as the clauses before them left it.
`CREATE` makes its pattern for each row; `MERGE` does so only for a row that does not find it, and finds what it made
for the rows before; `DELETE` drops what its variables stand for in all rows; a unit subquery runs for each row, sees the
variables that it imports, and leaves the rows as they are.
-/
namespace EntityGraph.Graph

/-- The arc that a value is. -/
def Val.arc? : Val → Option Nat
  | .arc id => some id
  | _ => none

/-- Evaluation in a graph. -/
def Context.seeing (x : Context) (g : PropertyGraph) : Context := { x with db := { x.db with graph := g } }

@[simp] theorem Context.seeing_param (x : Context) (g : PropertyGraph) (name : String) :
    (x.seeing g).param name = x.param name := rfl

@[simp] theorem Context.seeing_graph (x : Context) (g : PropertyGraph) : (x.seeing g).db.graph = g := rfl

/-- The variables that a subquery imports. -/
def Env.only (env : Env) (names : List String) : Env :=
  names.filterMap (fun name => (env.lookup name).map (fun v => (name, v)))

/-- What a binder is bound to. -/
def Env.bound? (env : Env) (binder : Option String) : Option Val := binder.bind (fun name => env.lookup name)

/-- The row with an element bound by a binder. -/
def Env.with (env : Env) (binder : Option String) (v : Val) : Env := env ++ (binder.map (fun name => (name, v))).toList

/-- Runs a step for each row, one after the other, on the graph that the rows before left. -/
def eachRow (step : PropertyGraph → Env → Option (PropertyGraph × List Env)) (g : PropertyGraph) :
    List Env → Option (PropertyGraph × List Env)
  | [] => some (g, [])
  | env :: rest => do
    let (g, made) ← step g env
    let (g, others) ← eachRow step g rest
    some (g, made ++ others)

theorem eachRow_singleton (step : PropertyGraph → Env → Option (PropertyGraph × List Env)) (g : PropertyGraph)
    (env : Env) : eachRow step g [env] = step g env := by
  cases h : step g env <;> simp [eachRow, h]

end EntityGraph.Graph

namespace EntityGraph.Cypher

open EntityGraph.Graph

/-! ## Patterns that are made -/

/-- Finds the vertex that a node is bound to, or makes one. A node that is bound can say nothing more. -/
def Node.create (x : Context) (g : PropertyGraph) (env : Env) (n : Node) : Option (PropertyGraph × Env × Nat) :=
  match env.bound? n.binder with
  | some v => if n.label.isNone && n.props.isEmpty then v.vertex?.map (fun id => (g, env, id)) else none
  | none =>
    let props := (entryValues (x.seeing g) env n.props).foldl (fun props e => setProp props e.1 e.2) ∅
    some (g.addVertex n.label.toList props, env.with n.binder (.vertex g.nextVertex), g.nextVertex)

/-- A node that is bound to a vertex stands for it. -/
theorem Node.create_bound (x : Context) {g : PropertyGraph} {env : Env} {binder : String} {id : Nat}
    (h : env.lookup binder = some (.vertex id)) : (Node.bound binder).create x g env = some (g, env, id) := by
  simp [Node.create, Node.bound, Env.bound?, h, Val.vertex?]

/-- Makes the hops of a pattern from a vertex. An arc without a direction leads to the right. -/
def createHops (x : Context) : PropertyGraph → Env → Nat → List (Edge × Node) → Option (PropertyGraph × Env)
  | g, env, _, [] => some (g, env)
  | g, env, id, (e, n) :: rest => do
    let (g, env, other) ← n.create x g env
    let ends := if e.arrow = .incoming then (other, id) else (id, other)
    let g' ← if (env.bound? e.binder).isNone then g.addArc? e.type ends.1 ends.2 ∅ else none
    createHops x g' (env.with e.binder (.arc g.nextArc)) other rest

/-- Makes a pattern. -/
def Pattern.create (x : Context) (g : PropertyGraph) (env : Env) (p : Pattern) : Option (PropertyGraph × Env) := do
  let (g, env, id) ← p.start.create x g env
  createHops x g env id p.hops

/-- Finds a pattern, or makes it. -/
def Pattern.findOrCreate (x : Context) (p : Pattern) (g : PropertyGraph) (env : Env) :
    Option (PropertyGraph × List Env) :=
  let found := p.paths (x.seeing g) env
  if found.isEmpty then (p.create x g env).map (fun s => (s.1, [s.2])) else some (g, found)

/-! ## Clauses -/

/-- Carries an assignment out. -/
def Assignment.run (x : Context) (env : Env) (g : PropertyGraph) : Assignment → Option PropertyGraph
  | .assign var key e => g.change? (env.read var) (fun props => setProp props key (e.value (x.seeing g) env))
  | .overlay var map => g.change? (env.read var) (fun props => overlayProps props (map.value (x.seeing g) env))

/-- Carries assignments out in a row. -/
def setRow (x : Context) (items : List Assignment) (g : PropertyGraph) (env : Env) :
    Option (PropertyGraph × List Env) :=
  (items.foldlM (Assignment.run x env) g).map (fun g => (g, [env]))

/-- Deletes the elements that variables stand for. Null stands for none, and nothing else can be deleted. -/
def deleteAll (vars : List String) (detach : Bool) (g : PropertyGraph) (rows : List Env) :
    Option (PropertyGraph × List Env) :=
  let values := rows.flatMap (fun env => vars.map env.read)
  if values.all (fun v => v.isNull || v.arc?.isSome || v.vertex?.isSome) then
    (g.delete? (values.filterMap Val.arc?) (values.filterMap Val.vertex?) detach).map (fun g => (g, rows))
  else none

/-- Reads a graph without changing it. -/
def Clause.reads (x : Context) (g : PropertyGraph) (rows : List Env) (k : Clause) : Option (PropertyGraph × List Env) :=
  (k.rows (x.seeing g) .all rows).map (fun rows => (g, rows))

mutual
/-- The graph and the rows that a clause makes of a graph and rows, unless it fails. -/
def Clause.run (x : Context) : Clause → PropertyGraph → List Env → Option (PropertyGraph × List Env)
  | .create p, g, rows => eachRow (fun g env => (p.create x g env).map (fun s => (s.1, [s.2]))) g rows
  | .merge p, g, rows => eachRow (p.findOrCreate x) g rows
  | .set items, g, rows => eachRow (setRow x items) g rows
  | .delete vars detach, g, rows => deleteAll vars detach g rows
  | .subquery imports body, g, rows =>
    eachRow (fun g env => (runThrough x body g [env.only imports]).map (fun s => (s.1, [env]))) g rows
  | .pattern p optional predicate, g, rows => (Clause.pattern p optional predicate).reads x g rows
  | .procedure name args yields, g, rows => (Clause.procedure name args yields).reads x g rows
  | .projection columns distinct predicate order page, g, rows =>
    (Clause.projection columns distinct predicate order page).reads x g rows
  | .unwind list binder, g, rows => (Clause.unwind list binder).reads x g rows
  | .returning columns distinct order, g, rows => (Clause.returning columns distinct order).reads x g rows
/-- The graph and the rows that clauses make of a graph and rows, one after the other. -/
def runThrough (x : Context) : List Clause → PropertyGraph → List Env → Option (PropertyGraph × List Env)
  | [], g, rows => some (g, rows)
  | k :: rest, g, rows => (k.run x g rows).bind (fun s => runThrough x rest s.1 s.2)
end

/-- The graph that a statement leaves, and its rows. -/
def Statement.run (s : Statement) (db : Database) : Option (PropertyGraph × List Env) :=
  runThrough ⟨db, (s.render .all).params, []⟩ s.clauses db.graph [[]]

theorem Statement.run_eq (s : Statement) (db : Database) :
    s.run db = runThrough ⟨db, s.params, []⟩ s.clauses db.graph [[]] := by
  have hparams : (s.render .all).params = s.params := by
    unfold Statement.render
    split <;> rfl
  rw [run, hparams]

theorem Clause.run_matching (x : Context) (p : Pattern) (g : PropertyGraph) (rows : List Env) :
    (Clause.matching p).run x g rows = some (g, rows.flatMap (p.paths (x.seeing g))) := by
  have hrows := Clause.rows_matching (x.seeing g) .all p rows
  rw [Clause.matching] at hrows ⊢
  rw [Clause.run, Clause.reads, hrows, Option.map_some]

theorem runThrough_append (x : Context) (ks ks' : List Clause) (g : PropertyGraph) (rows : List Env) :
    runThrough x (ks ++ ks') g rows = (runThrough x ks g rows).bind (fun s => runThrough x ks' s.1 s.2) := by
  induction ks generalizing g rows with
  | nil => rfl
  | cons k rest ih =>
    rw [List.cons_append, runThrough, runThrough]
    cases k.run x g rows with
    | none => rfl
    | some s => exact ih s.1 s.2

/-- The paths from each item of what is unwound, which are those of the list if it is one. -/
theorem run_unwind_matching (x : Context) (g : PropertyGraph) (list : Expr) (binder : String) (p : Pattern) (env : Env) :
    ∃ items, runThrough x [.unwind list binder, .matching p] g [env] =
        some (g, items.flatMap (fun v => p.paths (x.seeing g) (env ++ [(binder, v)]))) ∧
      ∀ vs, list.value (x.seeing g) env = .list vs → items = vs := by
  have hunwound (items : List Val)
      (h : (Clause.unwind list binder).rows (x.seeing g) .all [env] = some (items.map (fun v => env ++ [(binder, v)]))) :
      runThrough x [.unwind list binder, .matching p] g [env] =
        some (g, items.flatMap (fun v => p.paths (x.seeing g) (env ++ [(binder, v)]))) := by
    rw [runThrough, Clause.run, Clause.reads, h, Option.map_some, Option.bind_some, runThrough, Clause.run_matching,
      List.flatMap_map]
    rfl
  cases h : list.value (x.seeing g) env with
  | list items => exact ⟨items, hunwound items (by simp [Clause.rows, h]), fun _ hvs => Val.list.inj hvs⟩
  | null => exact ⟨[], hunwound [] (by simp [Clause.rows, h]), by simp⟩
  | _ => exact ⟨[_], hunwound [_] (by simp [Clause.rows, h]; rfl), by simp⟩

end EntityGraph.Cypher
