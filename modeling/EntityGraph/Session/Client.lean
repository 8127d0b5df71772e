import EntityGraph.Paging.Cursor
import EntityGraph.Schema.Registry
import EntityGraph.Session.Retry
import EntityGraph.Session.Transaction

/-!
# The client

The client takes a slot of its pool for every transaction and gives it back at the end, whatever the end is.
Reads are attempted once, writes as often as the policy says, and a batch runs in one transaction.
-/
namespace EntityGraph.Session

open Cypher (Query Row Statement)
open Paging (Cursor)

/-- How the client waits between attempts: for real, or by noting the span. -/
inductive Sleeper where
  | timer
  | notes
  deriving Repr, DecidableEq, Inhabited

/-- The size of the pool, the longest wait for a slot, and the policy for writes. -/
structure Options where
  slots : Nat
  acquireTimeout : Duration
  retry : RetryPolicy
  deriving Repr, DecidableEq

instance : Inhabited Options := ⟨⟨16, .ofMillis 5000, default⟩⟩

/-- A client of a database. -/
structure Client (σ : Type) where
  respond : Responder σ
  options : Options
  sleeper : Sleeper

namespace Client

variable {σ α : Type} (c : Client σ)

/-- How many slots the pool has; there is at least one. -/
def capacity : Nat := max 1 c.options.slots

/-- How many slots are free. -/
def available (s : State σ) : Nat := c.capacity - s.taken

/-- Takes a slot. When all are taken nobody gives one back in time. -/
def acquire : Action σ GraphError Unit := fun s =>
  if s.taken < c.capacity then (.ok (), { s with taken := s.taken + 1 })
  else (.error (.poolTimeout c.options.acquireTimeout), s)

/-- Gives a slot back. -/
def release {ε : Type} : Action σ ε Unit := fun s => (.ok (), { s with taken := s.taken - 1 })

/-- Runs a computation with a slot and hands on its result. -/
def withSlot {ε : Type} (body : Action σ ε α) : Action σ GraphError (Except ε α) := do
  c.acquire
  let result ← attempt body
  release
  return result

/-- Runs a computation as a write session. -/
def asWriteSession {ε : Type} (body : Action σ ε α) : Action σ ε α := fun s =>
  let (result, s) := body { s with openWrites := s.openWrites + 1 }
  (result, { s with openWrites := s.openWrites - 1 })

/-- Waits. -/
def sleep {ε : Type} (d : Duration) : Action σ ε Unit := fun s =>
  match c.sleeper with
  | .timer => (.ok (), s)
  | .notes => (.ok (), { s with sleeps := s.sleeps ++ [d] })

/-- Runs a query in one read transaction. -/
def read (q : Query) : Action σ GraphError (List Row) := do
  match ← c.withSlot (runOnce c.respond .read q) with
  | .ok rows => return rows
  | .error fault => throw (.readExecution q.entityLabel q.text fault)

/-- Runs a query in a write transaction, beginning with the given attempt. -/
def writeFrom (attempt : Nat) (q : Query) : Action σ GraphError (List Row) := do
  match ← c.withSlot (asWriteSession (runOnce c.respond .write q)) with
  | .ok rows => return rows
  | .error fault =>
    if h : c.options.retry.retries attempt fault = true then
      c.sleep (c.options.retry.backoff attempt)
      writeFrom (attempt + 1) q
    else throw (.writeExecution q.entityLabel q.text attempt fault)
termination_by c.options.retry.maxAttempts - attempt
decreasing_by
  have := RetryPolicy.lt_of_retries h
  omega

/-- Runs a query in a write transaction, again as long as the policy retries. -/
def write (q : Query) : Action σ GraphError (List Row) := c.writeFrom 1 q

/-- The number that a count returned. -/
def totalOf (rows : List Row) : Result Nat :=
  match (rows.head?.bind (fun row => row.get? Statement.totalColumn)).bind Json.Value.nat? with
  | some n => .ok n
  | none => .error (.mapping .noTotal)

/-- The rows of a page, and the number of all rows if the statement can be counted. -/
def readPage (s : Statement) (cursor : Cursor) : Action σ GraphError (List Row × Option Nat) := do
  let window ← cursor.window
  let rows ← c.read (s.render window)
  match s.count? with
  | none => return (rows, none)
  | some count =>
    let total ← totalOf (← c.read (count.render .all))
    return (rows, some total)

/-- Runs queries in the open transaction up to the first that fails, which is told with its place. -/
def runAll (index : Nat) : List Query → Action σ (Nat × DatabaseFault) (List (List Row))
  | [] => return []
  | q :: rest => do
    match ← attempt (runQuery c.respond .write q) with
    | .ok rows => return rows :: (← runAll (index + 1) rest)
    | .error fault => throw (index, fault)

/-- Runs queries in one write transaction: all of them, or in the end none. -/
def runBatch (queries : List Query) : Action σ (Nat × DatabaseFault) (List (List Row)) := do
  match ← attempt (beginTransaction .write) with
  | .error fault => throw (0, fault)
  | .ok () =>
    match ← attempt (c.runAll 0 queries) with
    | .error failure =>
      rollback .write
      throw failure
    | .ok results =>
      match ← attempt (commit .write) with
      | .error fault => throw (queries.length, fault)
      | .ok () => return results

/-- Runs queries in one write transaction and returns the rows of each. -/
def batch (queries : List Query) : Action σ GraphError (List (List Row)) := do
  match ← c.withSlot (asWriteSession (c.runBatch queries)) with
  | .ok results => return results
  | .error (index, fault) => throw (.transactionRollback index fault)

/-- Runs each text as a write. -/
def writeAll : List String → Action σ GraphError Unit
  | [] => return ()
  | text :: rest => do
    let _ ← c.write (.raw text)
    writeAll rest

/-- Creates the constraints and indexes of a registry, and tells how many statements that took. -/
def applySchema (r : Schema.Registry) : Action σ GraphError Nat := do
  let statements := Schema.Registry.ddl r
  c.writeAll statements
  return statements.length

end Client
end EntityGraph.Session
