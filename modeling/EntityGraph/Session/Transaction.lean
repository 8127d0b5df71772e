import EntityGraph.Cypher.Statement
import EntityGraph.Error

/-!
# Transactions

The database answers each query from a state of its own. Opening, committing and rolling back a transaction can
fail by an arrangement made before; each of them that succeeds, and every query, is recorded. A transaction that
could neither be committed nor rolled back stays open.
-/
namespace EntityGraph.Session

open Cypher (Query Row)

/-- What a transaction may do. -/
inductive Mode where
  | read
  | write
  deriving Repr, DecidableEq, Inhabited

/-- What happened at the database. -/
inductive Event where
  | began (mode : Mode)
  | ran (mode : Mode) (query : Query)
  | committed (mode : Mode)
  | rolledBack (mode : Mode)
  deriving Repr

/-- The rows of a query, or its failure. -/
abbrev Outcome := Except DatabaseFault (List Row)

/-- How the database answers a query in a transaction, from a state and to the next one. -/
abbrev Responder (σ : Type) := σ → Mode → Query → Outcome × σ

/-- Everything that changes while the client works. -/
structure State (σ : Type) where
  /-- What the database answers from. -/
  script : σ
  /-- What happened, oldest first. -/
  log : List Event
  /-- Transactions begun and not yet ended. -/
  openTransactions : Nat
  beginFailures : List DatabaseFault
  commitFailures : List DatabaseFault
  rollbackFailures : List DatabaseFault
  /-- Slots of the pool that are taken. -/
  taken : Nat
  /-- Write sessions under way. -/
  openWrites : Nat
  /-- Waits between attempts, oldest first. -/
  sleeps : List Duration

/-- The state before anything happened. -/
def State.initial {σ : Type} (script : σ) : State σ := ⟨script, [], 0, [], [], [], 0, 0, []⟩

/-- A computation that changes the state and may fail. What it changed before failing stays. -/
abbrev Action (σ ε α : Type) := ExceptT ε (StateM (State σ)) α

variable {σ : Type}

/-- Runs a computation and hands on its result, whatever it is. -/
def attempt {ε ε' α : Type} (x : Action σ ε α) : Action σ ε' (Except ε α) := fun s =>
  let (result, s) := x s
  (.ok result, s)

/-- Records an event. -/
def State.record (s : State σ) (event : Event) : State σ := { s with log := s.log ++ [event] }

/-- Forgets what happened. -/
def State.clearLog (s : State σ) : State σ := { s with log := [] }

def Event.isRun : Event → Bool
  | ran .. => true
  | _ => false

def Event.isCommit : Event → Bool
  | committed _ => true
  | _ => false

def Event.isRollback : Event → Bool
  | rolledBack _ => true
  | _ => false

/-- Opens a transaction. -/
def beginTransaction (mode : Mode) : Action σ DatabaseFault Unit := fun s =>
  match s.beginFailures with
  | fault :: rest => (.error fault, { s with beginFailures := rest })
  | [] => (.ok (), { s.record (.began mode) with openTransactions := s.openTransactions + 1 })

/-- Runs a query in the open transaction. -/
def runQuery (respond : Responder σ) (mode : Mode) (q : Query) : Action σ DatabaseFault (List Row) := fun s =>
  let (outcome, script) := respond s.script mode q
  (outcome, { s.record (.ran mode q) with script })

/-- Ends the open transaction. -/
def State.close (s : State σ) (event : Event) : State σ :=
  { s.record event with openTransactions := s.openTransactions - 1 }

/-- Commits the open transaction. -/
def commit (mode : Mode) : Action σ DatabaseFault Unit := fun s =>
  match s.commitFailures with
  | fault :: rest => (.error fault, { s with commitFailures := rest })
  | [] => (.ok (), s.close (.committed mode))

/-- Rolls the open transaction back. Nobody hears of a failure to do so. -/
def rollback {ε : Type} (mode : Mode) : Action σ ε Unit := fun s =>
  match s.rollbackFailures with
  | _ :: rest => (.ok (), { s with rollbackFailures := rest })
  | [] => (.ok (), s.close (.rolledBack mode))

/-- Runs a query in a transaction of its own. -/
def runOnce (respond : Responder σ) (mode : Mode) (q : Query) : Action σ DatabaseFault (List Row) := do
  beginTransaction mode
  match ← attempt (runQuery respond mode q) with
  | .ok rows =>
    commit mode
    return rows
  | .error fault =>
    rollback mode
    throw fault

end EntityGraph.Session
