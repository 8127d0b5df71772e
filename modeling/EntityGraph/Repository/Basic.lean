import EntityGraph.Compile.Read
import EntityGraph.Compile.Write
import EntityGraph.Paging.Page
import EntityGraph.Repository.Mapper
import EntityGraph.Session.Client

/-!
# Repositories

Reads and writes of one kind of entity. A write first looks up every node that it refers to, and afterwards
reads the entity back. Where a scoped entity is not found, one look without the scope tells whether it is another
tenant's.
-/
namespace EntityGraph

open Compile
open Cypher (Row Statement)
open Json (Value)
open Paging (Cursor Page)
open Session

/-- The entities of one kind in a database. -/
structure Repository (σ : Type) where
  client : Client σ
  compiler : Compiler

namespace Repository

variable {σ : Type} (r : Repository σ)

/-- The cursor of a request's query parameters. -/
def cursorOf (query : Dict String) : Result Cursor := Cursor.ofQuery query r.compiler.settings.defaultTake

/-- The entities of rows. -/
def entities (rows : List Row) : Result (List Value) := rows.mapM (entityOf r.compiler.descriptor)

/-- A page of the entities that a statement finds. -/
def page (s : Statement) (cursor : Cursor) : Action σ GraphError (Page Value) := do
  let (rows, total) ← r.client.readPage s cursor
  let items ← r.entities rows
  return ⟨items, total, cursor⟩

/-- A page of the entities that meet the criteria. -/
def find (caller : Caller) (criteria : Criteria) (cursor : Cursor) : Action σ GraphError (Page Value) := do
  let s ← r.compiler.find caller criteria
  r.page s cursor

/-- A page of the entities that are related to any of the given nodes. -/
def findByRelated (caller : Caller) (relationship : String) (ids : List String) (criteria : Criteria)
    (cursor : Cursor) : Action σ GraphError (Page Value) := do
  let s ← r.compiler.findByRelated caller relationship ids criteria
  r.page s cursor

/-- The entities nearest to a vector, nearest first. -/
def findSimilar (caller : Caller) (vector : List Float) (k : Nat) : Action σ GraphError (List Value) := do
  let s ← r.compiler.findSimilar caller vector k
  let rows ← r.client.read (s.render .all)
  r.entities rows

/-- Whether the first row says that something exists. -/
def saysExists (rows : List Row) : Bool :=
  ((rows.head?.bind (fun row => row.get? "exists")).bind Value.bool?).getD false

/-- Why an entity was not found: it may be another tenant's. -/
def miss (caller : Caller) (id : String) : Action σ GraphError GraphError := do
  let label := r.compiler.label
  if !r.compiler.descriptor.companyScoped || caller.elevated then return .notFound label id
  let s ← r.compiler.existsUnscoped id
  let rows ← r.client.read (s.render .all)
  return if saysExists rows then .accessDenied label id else .notFound label id

/-- The entity with an id. -/
def findById (caller : Caller) (id : String) : Action σ GraphError Value := do
  let s ← r.compiler.findById caller id
  let rows ← r.client.read (s.render .all)
  match rows with
  | row :: _ => entityOf r.compiler.descriptor row
  | [] => throw (← r.miss caller id)

/-- Looks up the nodes that a write refers to, and fails if some are missing. -/
def checkReferences (precheck : Option Statement) : Action σ GraphError Unit := do
  match precheck with
  | none => return ()
  | some s =>
    let rows ← r.client.read (s.render .all)
    let missing ← missingReferences rows
    if missing.isEmpty then return () else throw (.referentialIntegrity missing)

/-- Why a write changed nothing. A new node is not created only if its tenant does not exist. -/
def writeMiss (caller : Caller) (id : String) (mode : WriteMode) : Action σ GraphError GraphError := do
  match mode with
  | .create => return .notFound r.compiler.settings.tenantLabel (caller.company.getD "")
  | _ => r.miss caller id

/-- Writes an entity and reads it back. -/
def write (caller : Caller) (input : Input) (mode : WriteMode) : Action σ GraphError Value := do
  let plan ← r.compiler.write caller input mode
  r.checkReferences plan.precheck
  let rows ← r.client.write (plan.write.render .all)
  if rows.isEmpty then throw (← r.writeMiss caller plan.id mode)
  r.findById caller plan.id

/-- Removes an entity with its edges. -/
def delete (caller : Caller) (id : String) : Action σ GraphError Unit := do
  let s ← r.compiler.delete caller id
  let rows ← r.client.write (s.render .all)
  if rows.isEmpty then throw (← r.miss caller id)

end Repository
end EntityGraph
