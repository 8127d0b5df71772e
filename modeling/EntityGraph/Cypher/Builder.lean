import EntityGraph.Cypher.Statement
import EntityGraph.Error

/-!
# Building statements

A builder gathers clauses and parameter values. The first misuse is remembered and reported when the statement
is finished; clauses offered after it are dropped. Misuses are binding a name to two different values,
filtering where no `MATCH` or `WITH` precedes, and marking a second page.
-/
namespace EntityGraph.Cypher

/-- A statement under construction. -/
structure Builder where
  clauses : List Clause
  params : Params
  primary : Option String
  entity : Option String
  /-- The first misuse. -/
  misuse : Option ArgumentError

/-- A predicate that may be absent, joined with another one. -/
def joined (predicate : Option Predicate) (p : Predicate) : Predicate :=
  match predicate with
  | some q => q.and p
  | none => p

/-- The clause with a predicate joined to its own, if it can carry one. -/
def Clause.filtered? (p : Predicate) : Clause → Option Clause
  | .pattern path optional predicate => some (.pattern path optional (some (joined predicate p)))
  | .projection columns distinct predicate order page =>
    some (.projection columns distinct (some (joined predicate p)) order page)
  | _ => none

namespace Builder

/-- A builder without clauses. -/
def empty : Builder := ⟨[], ∅, none, none, none⟩

/-- A builder for a statement about an entity, whose rows are keyed by a variable. -/
def forEntity (entity : String) (primary : Option String) : Builder := ⟨[], ∅, primary, some entity, none⟩

/-- Remembers a misuse unless there was one before. -/
def fail (b : Builder) (cause : ArgumentError) : Builder :=
  { b with misuse := b.misuse.or (some cause) }

/-- Gives a parameter its value. A name keeps its first value. -/
def bind (b : Builder) (name : String) (value : Json.Value) : Builder :=
  match b.params.get? name with
  | some old =>
    if old.same value then { b with params := b.params.insert name value }
    else b.fail (.conflictingParameter name)
  | none => { b with params := b.params.insert name value }

def isBound (b : Builder) (name : String) : Bool := b.params.contains name

/-- Appends a clause. -/
def push (b : Builder) (c : Clause) : Builder :=
  if b.misuse.isSome then b else { b with clauses := b.clauses ++ [c] }

/-- Appends a `MATCH` or `OPTIONAL MATCH`. -/
def matching (b : Builder) (p : Pattern) (optional : Bool) : Builder := b.push (.pattern p optional none)

/-- Joins a predicate to the last `MATCH` or `WITH`. -/
def filter (b : Builder) (p : Predicate) : Builder :=
  if b.misuse.isSome then b
  else
    match b.clauses.getLast?.bind (Clause.filtered? p) with
    | some c => { b with clauses := b.clauses.dropLast ++ [c] }
    | none => b.fail .filterWithoutMatch

/-- Appends a procedure call. -/
def procedure (b : Builder) (name : String) (args : List Expr) (yields : List String) : Builder :=
  b.push (.procedure name args yields)

/-- Takes over parameter values one by one, in the order of their names. -/
def bindAll (b : Builder) (params : Params) : Builder :=
  params.toList.foldl (fun b e => b.bind e.1 e.2) b

/-- Appends the clauses of another builder as a unit subquery and takes over its parameters. -/
def subquery (b : Builder) (imports : List String) (nested : Builder) : Builder :=
  if b.misuse.isSome then b
  else
    match nested.misuse with
    | some cause => b.fail cause
    | none => (b.bindAll nested.params).push (.subquery imports nested.clauses)

/-- Appends a `WITH`. -/
def projection (b : Builder) (columns : List Column) (distinct : Bool) : Builder :=
  b.push (.projection columns distinct none [] false)

/-- Appends the ordered `WITH` that carries the page marker. -/
def page (b : Builder) (columns : List Column) (order : List SortKey) (distinct : Bool) : Builder :=
  if b.clauses.any Clause.isPageMarker then b.fail .secondPageMarker
  else b.push (.projection columns distinct none order true)

/-- Appends an `UNWIND`. -/
def unwind (b : Builder) (list : Expr) (binder : String) : Builder := b.push (.unwind list binder)

/-- Appends a `CREATE`. -/
def create (b : Builder) (p : Pattern) : Builder := b.push (.create p)

/-- Appends a `MERGE`. -/
def merge (b : Builder) (p : Pattern) : Builder := b.push (.merge p)

/-- Appends a `SET` unless it would assign nothing. -/
def set (b : Builder) (items : List Assignment) : Builder :=
  if items.isEmpty then b else b.push (.set items)

/-- Appends a `DELETE`. -/
def delete (b : Builder) (vars : List String) (detach : Bool) : Builder := b.push (.delete vars detach)

/-- Appends a `RETURN`. -/
def returning (b : Builder) (columns : List Column) (order : List SortKey) : Builder :=
  b.push (.returning columns false order)

/-- The finished statement, or the first misuse. -/
def build (b : Builder) : Result Statement :=
  match b.misuse with
  | some cause => refuse cause
  | none =>
    if b.clauses.isEmpty then refuse .emptyStatement
    else .ok ⟨b.clauses, b.params, b.primary, b.entity⟩

end Builder
end EntityGraph.Cypher
