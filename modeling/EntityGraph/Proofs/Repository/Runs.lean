import EntityGraph.Proofs.Session.Brackets
import EntityGraph.Proofs.Statements.Updates
import EntityGraph.Repository.Basic
import EntityGraph.Session.Script

/-!
# Runs of operations

A client and the repositories on it do one operation after the other, some of which fail. After each of them nothing
is open or taken, and the log consists of whole transactions. Repositories run the statements of their compilers. Those
that change the graph run in write transactions, unless nothing but a descriptor's custom result changes it.
-/
namespace EntityGraph

open Compile
open Cypher (Query Row Statement)
open Json (Value)
open Paging (Cursor Window)
open Session

variable {σ : Type}

/-! ## Repositories -/

namespace Repository

/-- What a repository may run: the statements of its compiler. A clause that changes the graph needs a write
transaction, unless it is the custom result of the descriptor, which is the descriptor's own to answer for. -/
def MayRun (c : Compiler) (mode : Mode) (q : Query) : Prop :=
  ∃ s w, q = s.render w ∧ c.Emits s ∧ ∀ k ∈ s.clauses, k.updates = true → mode = .write ∨ c.IsCustomResult k

theorem mayRun_of_quiet {c : Compiler} {s : Statement} (hemits : c.Emits s) (h : c.Quiet s.clauses) (mode : Mode)
    (w : Window) : MayRun c mode (s.render w) :=
  ⟨s, w, rfl, hemits, fun k hk hupdates => .inr (h k hk hupdates)⟩

theorem mayRun_write {c : Compiler} {s : Statement} (hemits : c.Emits s) (w : Window) :
    MayRun c .write (s.render w) := ⟨s, w, rfl, hemits, fun _ _ _ => .inl rfl⟩

variable {r : Repository σ}

theorem read_settles {s : Statement} (hemits : r.compiler.Emits s) (h : r.compiler.Quiet s.clauses) :
    Settles r.client.respond (MayRun r.compiler) (r.client.read (s.render .all)) :=
  Client.read_settles (mayRun_of_quiet hemits h .read .all)

theorem page_settles {s : Statement} (hemits : r.compiler.Emits s) (h : r.compiler.Quiet s.clauses) (cursor : Cursor) :
    Settles r.client.respond (MayRun r.compiler) (r.page s cursor) := by
  have hpage : Settles r.client.respond (MayRun r.compiler) (r.client.readPage s cursor) :=
    Client.readPage_settles (mayRun_of_quiet hemits h .read) fun count hcount =>
      mayRun_of_quiet (hemits.count hcount) (h.count hcount) .read
  exact hpage.bind fun _ => .bind_lift fun _ _ => .pure _

theorem find_settles (caller : Caller) (criteria : Criteria) (cursor : Cursor) :
    Settles r.client.respond (MayRun r.compiler) (r.find caller criteria cursor) := by
  refine .bind_lift fun s hs => ?_
  have hcompiled : r.compiler.compile caller (.find criteria) = .ok ⟨none, s⟩ := congrArg (Except.map _) hs
  exact page_settles (.main hcompiled) (Compiler.quiet_list hs) cursor

theorem findByRelated_settles (caller : Caller) (relationship : String) (ids : List String) (criteria : Criteria)
    (cursor : Cursor) :
    Settles r.client.respond (MayRun r.compiler) (r.findByRelated caller relationship ids criteria cursor) := by
  refine .bind_lift fun s hs => ?_
  have hcompiled : r.compiler.compile caller (.findByRelated relationship ids criteria) = .ok ⟨none, s⟩ :=
    congrArg (Except.map _) hs
  obtain ⟨_, -, hlist⟩ := Result.bind_eq_ok_iff.1 hs
  exact page_settles (.main hcompiled) (Compiler.quiet_list hlist) cursor

theorem findSimilar_settles (caller : Caller) (vector : List Float) (k : Nat) :
    Settles r.client.respond (MayRun r.compiler) (r.findSimilar caller vector k) := by
  refine .bind_lift fun s hs => ?_
  have hcompiled : r.compiler.compile caller (.findSimilar vector k) = .ok ⟨none, s⟩ := congrArg (Except.map _) hs
  exact (read_settles (.main hcompiled) (Compiler.quiet_findSimilar hs)).bind fun _ => .lift _

theorem miss_settles (caller : Caller) (id : String) :
    Settles r.client.respond (MayRun r.compiler) (r.miss caller id) := by
  unfold miss
  dsimp only
  split
  · exact .pure _
  · refine .bind_lift fun s hs => ?_
    have hcompiled : r.compiler.compile caller (.existsUnscoped id) = .ok ⟨none, s⟩ := congrArg (Except.map _) hs
    exact (read_settles (.main hcompiled) (Compiler.quiet_existsUnscoped hs)).bind fun _ => .pure _

theorem findById_settles (caller : Caller) (id : String) :
    Settles r.client.respond (MayRun r.compiler) (r.findById caller id) := by
  refine .bind_lift fun s hs => ?_
  have hcompiled : r.compiler.compile caller (.findById id) = .ok ⟨none, s⟩ := congrArg (Except.map _) hs
  refine (read_settles (.main hcompiled) (Compiler.quiet_findById hs)).bind fun rows => ?_
  cases rows with
  | nil => exact (miss_settles caller id).bind fun _ => .throw _
  | cons row rest => exact .lift _

theorem checkReferences_settles {precheck : Option Statement}
    (h : ∀ s, precheck = some s → r.compiler.Emits s ∧ r.compiler.Quiet s.clauses) :
    Settles r.client.respond (MayRun r.compiler) (r.checkReferences precheck) := by
  cases precheck with
  | none => exact .pure ()
  | some s =>
    obtain ⟨hemits, hquiet⟩ := h s rfl
    refine (read_settles hemits hquiet).bind fun rows => .bind_lift fun missing _ => ?_
    split
    · exact .pure ()
    · exact .throw _

theorem writeMiss_settles (caller : Caller) (id : String) (mode : WriteMode) :
    Settles r.client.respond (MayRun r.compiler) (r.writeMiss caller id mode) := by
  cases mode with
  | create => exact .pure _
  | put => exact miss_settles caller id
  | patch => exact miss_settles caller id

theorem write_settles (caller : Caller) (input : Input) (mode : WriteMode) :
    Settles r.client.respond (MayRun r.compiler) (r.write caller input mode) := by
  refine .bind_lift fun plan hplan => ?_
  have hcompiled : r.compiler.compile caller (.write mode input) = .ok ⟨plan.precheck, plan.write⟩ :=
    congrArg (Except.map _) hplan
  have hlookup : ∀ s, plan.precheck = some s → r.compiler.Emits s ∧ r.compiler.Quiet s.clauses := by
    intro s hs
    obtain ⟨refs, hrefs⟩ := r.compiler.exists_relatedExistence hcompiled hs
    exact ⟨.precheck hcompiled hs, Compiler.quiet_relatedExistence hrefs⟩
  refine (checkReferences_settles hlookup).bind fun _ => ?_
  refine (Client.write_settles (mayRun_write (.main hcompiled) .all)).bind fun rows => ?_
  split
  · exact (writeMiss_settles caller plan.id mode).bind fun _ => .throw _
  · exact findById_settles caller plan.id

theorem delete_settles (caller : Caller) (id : String) :
    Settles r.client.respond (MayRun r.compiler) (r.delete caller id) := by
  refine .bind_lift fun s hs => ?_
  have hcompiled : r.compiler.compile caller (.delete id) = .ok ⟨none, s⟩ := congrArg (Except.map _) hs
  refine (Client.write_settles (mayRun_write (.main hcompiled) .all)).bind fun rows => ?_
  split
  · exact (miss_settles caller id).bind fun _ => .throw _
  · exact .pure ()

end Repository

/-! ## Operations one after the other -/

/-- An operation of a client, or of a repository with some compiler on that client; or an arrangement that the next
transactions cannot be opened. -/
inductive Call where
  | failBegins (faults : List DatabaseFault)
  | read (q : Query)
  | write (q : Query)
  | batch (queries : List Query)
  | readPage (s : Statement) (cursor : Cursor)
  | applySchema (registry : Schema.Registry)
  | find (c : Compiler) (caller : Caller) (criteria : Criteria) (cursor : Cursor)
  | findByRelated (c : Compiler) (caller : Caller) (relationship : String) (ids : List String) (criteria : Criteria)
      (cursor : Cursor)
  | findSimilar (c : Compiler) (caller : Caller) (vector : List Float) (k : Nat)
  | findById (c : Compiler) (caller : Caller) (id : String)
  | writeEntity (c : Compiler) (caller : Caller) (input : Input) (mode : WriteMode)
  | delete (c : Compiler) (caller : Caller) (id : String)

namespace Call

/-- The state after an operation, whatever its result is. -/
def perform (client : Client σ) (s : State σ) : Call → State σ
  | failBegins faults => { s with beginFailures := s.beginFailures ++ faults }
  | read q => (client.read q s).2
  | write q => (client.write q s).2
  | batch queries => (client.batch queries s).2
  | readPage statement cursor => (client.readPage statement cursor s).2
  | applySchema registry => (client.applySchema registry s).2
  | find c caller criteria cursor => (Repository.find ⟨client, c⟩ caller criteria cursor s).2
  | findByRelated c caller relationship ids criteria cursor =>
    (Repository.findByRelated ⟨client, c⟩ caller relationship ids criteria cursor s).2
  | findSimilar c caller vector k => (Repository.findSimilar ⟨client, c⟩ caller vector k s).2
  | findById c caller id => (Repository.findById ⟨client, c⟩ caller id s).2
  | writeEntity c caller input mode => (Repository.write ⟨client, c⟩ caller input mode s).2
  | delete c caller id => (Repository.delete ⟨client, c⟩ caller id s).2

/-- The state after operations, one behind the other. -/
def performAll (client : Client σ) (s : State σ) (calls : List Call) : State σ := calls.foldl (perform client) s

/-- The queries that an operation may run, with the kind of their transaction. -/
def MayRun : Call → Mode → Query → Prop
  | failBegins _, _, _ => False
  | read q, mode, q' => mode = .read ∧ q' = q
  | write q, mode, q' => mode = .write ∧ q' = q
  | batch queries, mode, q => mode = .write ∧ q ∈ queries
  | readPage s _, mode, q =>
    mode = .read ∧ ∃ w, q = s.render w ∨ ∃ count, s.count? = some count ∧ q = count.render w
  | applySchema registry, mode, q => mode = .write ∧ ∃ text ∈ registry.ddl, q = .raw text
  | find c .., mode, q => Repository.MayRun c mode q
  | findByRelated c .., mode, q => Repository.MayRun c mode q
  | findSimilar c .., mode, q => Repository.MayRun c mode q
  | findById c .., mode, q => Repository.MayRun c mode q
  | writeEntity c .., mode, q => Repository.MayRun c mode q
  | delete c .., mode, q => Repository.MayRun c mode q

/-- One operation. -/
theorem settled (client : Client σ) (call : Call) {s : State σ} (hcommit : s.commitFailures = [])
    (hrollback : s.rollbackFailures = []) : Settled client.respond call.MayRun s (call.perform client s) := by
  cases call with
  | failBegins faults => exact .of_queues s (s.beginFailures ++ faults) s.sleeps
  | read q => exact Client.read_settles ⟨rfl, rfl⟩ s hcommit hrollback
  | write q => exact Client.write_settles ⟨rfl, rfl⟩ s hcommit hrollback
  | batch queries => exact Client.batch_settles (fun q hq => ⟨rfl, hq⟩) s hcommit hrollback
  | readPage statement cursor =>
    exact Client.readPage_settles (fun w => ⟨rfl, w, .inl rfl⟩)
      (fun count hcount w => ⟨rfl, w, .inr ⟨count, hcount, rfl⟩⟩) s hcommit hrollback
  | applySchema registry =>
    exact Client.applySchema_settles (fun text htext => ⟨rfl, text, htext, rfl⟩) s hcommit hrollback
  | find c caller criteria cursor =>
    exact Repository.find_settles (r := ⟨client, c⟩) caller criteria cursor s hcommit hrollback
  | findByRelated c caller relationship ids criteria cursor =>
    exact Repository.findByRelated_settles (r := ⟨client, c⟩) caller relationship ids criteria cursor s hcommit
      hrollback
  | findSimilar c caller vector k =>
    exact Repository.findSimilar_settles (r := ⟨client, c⟩) caller vector k s hcommit hrollback
  | findById c caller id =>
    exact Repository.findById_settles (r := ⟨client, c⟩) caller id s hcommit hrollback
  | writeEntity c caller input mode =>
    exact Repository.write_settles (r := ⟨client, c⟩) caller input mode s hcommit hrollback
  | delete c caller id =>
    exact Repository.delete_settles (r := ⟨client, c⟩) caller id s hcommit hrollback

/-- Any number of operations. -/
theorem settled_performAll (client : Client σ) (calls : List Call) {s : State σ} (hcommit : s.commitFailures = [])
    (hrollback : s.rollbackFailures = []) :
    Settled client.respond (fun mode q => ∃ call ∈ calls, call.MayRun mode q) s (performAll client s calls) := by
  induction calls generalizing s with
  | nil => exact .refl s
  | cons call rest ih =>
    have hfirst := call.settled client hcommit hrollback
    have hrest := ih (hfirst.commitFailures.trans hcommit) (hfirst.rollbackFailures.trans hrollback)
    refine (hfirst.imp fun mode q hq => ?_).trans (hrest.imp fun mode q hq => ?_)
    · exact ⟨call, List.mem_cons_self, hq⟩
    · obtain ⟨other, hother, hq⟩ := hq
      exact ⟨other, List.mem_cons_of_mem call hother, hq⟩

/-- After any operations no transaction is open, no write session is under way and no slot is taken, and the log
consists of whole transactions. The next operation runs only queries that it may run. -/
theorem runs_are_wellBracketed (client : Client σ) (script : σ) (calls : List Call) :
    let s := performAll client (.initial script) calls
    s.openTransactions = 0 ∧ s.openWrites = 0 ∧ s.taken = 0 ∧ WellBracketed client.respond script s.log ∧
      ∀ call : Call, ∃ events, (call.perform client s).log = s.log ++ events ∧
        ∀ mode q, .ran mode q ∈ events → call.MayRun mode q := by
  intro s
  have hrun : Settled client.respond _ (.initial script) s := settled_performAll client calls rfl rfl
  obtain ⟨events, hlog, -, hbracketed, -⟩ := hrun.log
  refine ⟨hrun.openTransactions, hrun.openWrites, hrun.taken, ?_, fun call => ?_⟩
  · rw [hlog]
    exact hbracketed
  · obtain ⟨next, hnext, -, -, hallowed⟩ := (call.settled client hrun.commitFailures hrun.rollbackFailures).log
    exact ⟨next, hnext, hallowed⟩

/-- The first transaction cannot be opened, and the second query of the batch fails. -/
example :
    let s := performAll ⟨Session.respond, default, .notes⟩ (.initial [⟨"MERGE", none, none, .error ⟨.query, "no"⟩⟩])
      [.failBegins [⟨.query, "down"⟩], .read (.raw "RETURN 1"),
        .batch [.raw "RETURN 1", .raw "MERGE (n)", .raw "RETURN 2"]]
    s.log.map Event.isRollback = [false, false, false, true] := by decide +kernel

/-- Notes that are deleted where others would be returned. -/
def emptying : Compiler :=
  ⟨{ Schema.Descriptor.base "Note" "note" with returnClause := some fun node _ => .delete [node] true }, default⟩

/-- A custom result may change the graph, and a look-up by id runs it in a read transaction all the same. -/
theorem not_runs_are_wellBracketed :
    ¬∀ (client : Client (List Rule)) (script : List Rule) (c : Compiler) (caller : Caller) (id : String) (s : Statement),
      c.findById caller id = .ok s → (∃ k ∈ s.clauses, k.updates = true) →
      ∀ mode, .ran mode (s.render .all) ∈ ((findById c caller id).perform client (.initial script)).log →
        mode = .write := by
  intro hwrites
  let client : Client (List Rule) := ⟨Session.respond, default, .notes⟩
  obtain ⟨s, hs⟩ : ∃ s, emptying.findById .anonymous "n1" = .ok s := ⟨_, rfl⟩
  have hupdates : ∃ k ∈ s.clauses, k.updates = true := by
    cases hs
    exact List.any_eq_true.1 rfl
  have hlog : .ran .read (s.render .all) ∈
      ((findById emptying .anonymous "n1").perform client (.initial [])).log := by
    cases hs
    exact List.mem_cons_of_mem _ List.mem_cons_self
  exact absurd (hwrites client [] emptying .anonymous "n1" s hs hupdates .read hlog) nofun

end Call
end EntityGraph
