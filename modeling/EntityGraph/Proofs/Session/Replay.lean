import EntityGraph.Proofs.Session.Traces

/-!
# What was written

The database answers from its script alone, so the script and the log tell what every query in the log returned.
Replayed from the script at its beginning, a log tells which write transactions were committed and with what rows.
-/
namespace EntityGraph.Session

open Cypher (Query Row)

variable {σ ε α β : Type}

/-! ## The script behind a log -/

/-- The script after the queries of a log. -/
def scriptAfter (respond : Responder σ) (script : σ) (events : List Event) : σ :=
  (queries events).foldl (fun script p => (respond script p.1 p.2).2) script

@[simp] theorem scriptAfter_nil (respond : Responder σ) (script : σ) : scriptAfter respond script [] = script := rfl

@[simp] theorem scriptAfter_append (respond : Responder σ) (script : σ) (events events' : List Event) :
    scriptAfter respond script (events ++ events') =
      scriptAfter respond (scriptAfter respond script events) events' := by
  rw [scriptAfter, queries_append, List.foldl_append]
  rfl

/-- A computation changes the script by the queries that it appends to the log, and by nothing else. -/
def Tracks (respond : Responder σ) (x : Action σ ε α) : Prop :=
  ∀ s, ∃ events, (x s).2.log = s.log ++ events ∧ (x s).2.script = scriptAfter respond s.script events

namespace Tracks

variable {respond : Responder σ}

theorem of_quiet {x : Action σ ε α} (hlog : ∀ s, (x s).2.log = s.log) (hscript : ∀ s, (x s).2.script = s.script) :
    Tracks respond x := fun s => ⟨[], by rw [hlog, List.append_nil], hscript s⟩

theorem bind {x : Action σ ε α} {f : α → Action σ ε β} (hx : Tracks respond x) (hf : ∀ a, Tracks respond (f a)) :
    Tracks respond (x >>= f) := by
  intro s
  obtain ⟨events, hlog, hscript⟩ := hx s
  rw [bind_apply]
  cases hrun : x s with
  | mk result s' =>
    rw [hrun] at hlog hscript
    cases result with
    | error e => exact ⟨events, hlog, hscript⟩
    | ok a =>
      obtain ⟨events', hlog', hscript'⟩ := hf a s'
      refine ⟨events ++ events', ?_, ?_⟩
      · rw [hlog', hlog, List.append_assoc]
      · rw [hscript', hscript, scriptAfter_append]

/-- A computation behind changes that concern neither the script nor the log. -/
theorem framed {x : Action σ ε α} {y : Action σ ε β} (hx : Tracks respond x)
    (h : ∀ s, ∃ s', s'.log = s.log ∧ s'.script = s.script ∧ (y s).2.log = (x s').2.log ∧
      (y s).2.script = (x s').2.script) : Tracks respond y := by
  intro s
  obtain ⟨s', hlog', hscript', hlog, hscript⟩ := h s
  obtain ⟨events, hevents, hafter⟩ := hx s'
  exact ⟨events, by rw [hlog, hevents, hlog'], by rw [hscript, hafter, hscript']⟩

/-- The events that a computation appends are the ones that changed the script. -/
theorem script_eq {x : Action σ ε α} (hx : Tracks respond x) {s : State σ} {events : List Event}
    (h : (x s).2.log = s.log ++ events) : (x s).2.script = scriptAfter respond s.script events := by
  obtain ⟨events', hlog, hscript⟩ := hx s
  rw [hscript, List.append_cancel_left (hlog.symm.trans h)]

theorem beginTransaction (mode : Mode) : Tracks respond (Session.beginTransaction mode : Action σ _ _) := by
  intro s
  unfold Session.beginTransaction
  split
  · exact ⟨[], (List.append_nil _).symm, rfl⟩
  · exact ⟨[.began mode], rfl, rfl⟩

theorem runQuery (mode : Mode) (q : Query) : Tracks respond (Session.runQuery respond mode q) :=
  fun _ => ⟨[.ran mode q], rfl, rfl⟩

theorem commit (mode : Mode) : Tracks respond (Session.commit mode : Action σ _ _) := by
  intro s
  unfold Session.commit
  split
  · exact ⟨[], (List.append_nil _).symm, rfl⟩
  · exact ⟨[.committed mode], rfl, rfl⟩

theorem rollback (mode : Mode) : Tracks respond (Session.rollback mode : Action σ ε Unit) := by
  intro s
  unfold Session.rollback
  split
  · exact ⟨[], (List.append_nil _).symm, rfl⟩
  · exact ⟨[.rolledBack mode], rfl, rfl⟩

theorem attempt {ε' : Type} {x : Action σ ε α} (hx : Tracks respond x) :
    Tracks respond (Session.attempt x : Action σ ε' (Except ε α)) := hx

theorem runOnce (mode : Mode) (q : Query) : Tracks respond (Session.runOnce respond mode q) := by
  refine (beginTransaction mode).bind fun _ => (attempt (runQuery mode q)).bind fun outcome => ?_
  cases outcome with
  | ok rows => exact (commit mode).bind fun _ => of_quiet (fun _ => rfl) fun _ => rfl
  | error fault => exact (rollback mode).bind fun _ => of_quiet (fun _ => rfl) fun _ => rfl

end Tracks

/-- The second computation begins with the script that the first one leaves. -/
theorem Appends.bind_tracked {respond : Responder σ} {x : Action σ ε α} {f : α → Action σ ε β}
    {fits : σ → Except ε α → List Event → Prop} {g : α → σ → Except ε β → List Event → Prop}
    {fits' : σ → Except ε β → List Event → Prop} (hx : Appends x fits) (htracks : Tracks respond x)
    (hf : ∀ a, Appends (f a) (g a))
    (herror : ∀ script e events, fits script (.error e) events → fits' script (.error e) events)
    (hok : ∀ script a result events events', fits script (.ok a) events →
      g a (scriptAfter respond script events) result events' → fits' script result (events ++ events')) :
    Appends (x >>= f) fits' := by
  intro s
  obtain ⟨events, hlog, hfits⟩ := hx s
  have hscript := htracks.script_eq hlog
  rw [bind_apply]
  cases hrun : x s with
  | mk result s' =>
    rw [hrun] at hlog hscript hfits
    cases result with
    | error e => exact ⟨events, hlog, herror _ e events hfits⟩
    | ok a =>
      obtain ⟨events', hlog', hnext⟩ := hf a s'
      rw [hscript] at hnext
      refine ⟨events ++ events', ?_, hok _ a _ events events' hfits hnext⟩
      rw [hlog', hlog, List.append_assoc]

namespace Client

variable (c : Client σ)

theorem withSlot_tracks {body : Action σ ε α} (h : Tracks c.respond body) : Tracks c.respond (c.withSlot body) := by
  intro s
  by_cases hfree : s.taken < c.capacity
  · obtain ⟨events, hlog, hscript⟩ := h { s with taken := s.taken + 1 }
    refine ⟨events, ?_, ?_⟩
    · simpa [withSlot, bind_apply, map_apply, attempt_apply, acquire, release, hfree] using hlog
    · simpa [withSlot, bind_apply, map_apply, attempt_apply, acquire, release, hfree] using hscript
  · exact ⟨[], by simp [withSlot, bind_apply, acquire, hfree], by simp [withSlot, bind_apply, acquire, hfree]⟩

theorem asWriteSession_tracks {body : Action σ ε α} (h : Tracks c.respond body) :
    Tracks c.respond (asWriteSession body) :=
  h.framed fun s => ⟨{ s with openWrites := s.openWrites + 1 }, rfl, rfl, rfl, rfl⟩

theorem read_tracks (q : Query) : Tracks c.respond (c.read q) := by
  refine (c.withSlot_tracks (.runOnce .read q)).bind fun outcome => ?_
  cases outcome with
  | ok rows => exact .of_quiet (fun _ => rfl) fun _ => rfl
  | error fault => exact .of_quiet (fun _ => rfl) fun _ => rfl

theorem sleep_tracks (d : Duration) : Tracks c.respond (c.sleep d : Action σ ε Unit) := by
  refine .of_quiet (fun s => ?_) fun s => ?_ <;>
  · unfold sleep
    cases c.sleeper <;> rfl

end Client

/-! ## Committed writes -/

/-- How far a log has been replayed: the script, the rows of the transaction under way, and those of every write
transaction that was committed. -/
structure Replay (σ : Type) where
  script : σ
  rows : List Row
  written : List (List Row)

namespace Replay

variable (respond : Responder σ)

/-- Replays one event. A query that failed returned no rows. -/
def next (p : Replay σ) : Event → Replay σ
  | .began _ => { p with rows := [] }
  | .ran mode q =>
    let (outcome, script) := respond p.script mode q
    { p with script, rows := p.rows ++ outcome.toOption.getD [] }
  | .committed .write => { p with rows := [], written := p.written ++ [p.rows] }
  | .committed .read => { p with rows := [] }
  | .rolledBack _ => { p with rows := [] }

/-- Replays events. -/
def run (p : Replay σ) (events : List Event) : Replay σ := events.foldl (next respond) p

variable {respond}

@[simp] theorem run_nil (p : Replay σ) : p.run respond [] = p := rfl

@[simp] theorem run_append (p : Replay σ) (events events' : List Event) :
    p.run respond (events ++ events') = (p.run respond events).run respond events' := List.foldl_append

theorem script_run (p : Replay σ) (events : List Event) :
    (p.run respond events).script = scriptAfter respond p.script events := by
  induction events generalizing p with
  | nil => rfl
  | cons e rest ih =>
    have hstep : (p.run respond (e :: rest)).script = scriptAfter respond (next respond p e).script rest :=
      ih (next respond p e)
    rw [hstep]
    cases e with
    | ran mode q => rfl
    | committed mode => cases mode <;> rfl
    | _ => rfl

/-- Only the commit of a write transaction adds to what was written. -/
theorem written_run {events : List Event} (h : ∀ e ∈ events, e.isCommit = true → e.mode = .read) (p : Replay σ) :
    (p.run respond events).written = p.written := by
  induction events generalizing p with
  | nil => rfl
  | cons e rest ih =>
    obtain ⟨hhead, hrest⟩ := List.forall_mem_cons.1 h
    have hstep : (next respond p e).written = p.written := by
      cases e with
      | committed mode =>
        cases mode with
        | read => rfl
        | write => cases hhead rfl
      | _ => rfl
    exact (ih hrest _).trans hstep

theorem written_run_of_reads {events : List Event} (h : ∀ e ∈ events, e.mode = .read) (p : Replay σ) :
    (p.run respond events).written = p.written := written_run (fun e he _ => h e he) p

theorem written_run_of_aborted {mode : Mode} {q : Query} {events : List Event} (h : Aborted mode q events)
    (p : Replay σ) : (p.run respond events).written = p.written := by
  refine written_run (fun e he hcommit => ?_) p
  rw [h.not_committed e he] at hcommit
  cases hcommit

theorem written_run_transaction (p : Replay σ) (q : Query) :
    (p.run respond (transaction .write q)).written =
      p.written ++ [(respond p.script .write q).1.toOption.getD []] := rfl

end Replay

/-- The rows of each write transaction that was committed, from the script at the beginning of the log. -/
def committedWrites (respond : Responder σ) (script : σ) (events : List Event) : List (List Row) :=
  (Replay.run respond ⟨script, [], []⟩ events).written

/-- A write that succeeds commits one write transaction, with its rows. A write that fails commits none. -/
def Commits (respond : Responder σ) (script : σ) (result : Except ε (List Row)) (events : List Event) : Prop :=
  ∀ p : Replay σ, p.script = script → (p.run respond events).written = p.written ++ result.toOption.toList

/-- What an attempt leaves open: nothing if it brought rows, and else all that the write commits. -/
def LeavesOpen (respond : Responder σ) (outcome : Outcome) (script : σ) (result : Except GraphError (List Row))
    (events : List Event) : Prop :=
  match outcome with
  | .ok rows => result = .ok rows ∧ events = []
  | .error _ => Commits respond script result events

namespace Client

variable (c : Client σ)

/-- Of the attempts at a write only one that brings rows is committed, and it is the last. -/
theorem writeFrom_commits (attempt : Nat) (q : Query) :
    Appends (c.writeFrom attempt q) (Commits c.respond) := by
  have hunopened (script : σ) (e : GraphError) : Commits c.respond script (.error e) [] :=
    fun p _ => (List.append_nil _).symm
  rw [writeFrom]
  refine (c.withSlot_appends (asWriteSession_appends (runOnce_appends c.respond .write q))).bind_tracked
    (c.withSlot_tracks (c.asWriteSession_tracks (.runOnce .write q)))
    (g := LeavesOpen c.respond) ?_ ?_ ?_
  · rintro (fault | rows)
    · dsimp only
      split
      · rename_i hretries
        have := RetryPolicy.lt_of_retries hretries
        refine (c.sleep_appends _).bind_tracked (c.sleep_tracks _) (fun _ => writeFrom_commits (attempt + 1) q) ?_ ?_
        · rintro script e events rfl
          exact hunopened script e
        · rintro script _ result events events' rfl h
          exact h
      · exact Appends.throw fun script => hunopened script _
    · exact Appends.pure fun _ => ⟨rfl, rfl⟩
  · rintro script e events rfl
    exact hunopened script e
  · rintro script (fault | rows) result events events' hfits hnext
    · intro p hp
      rw [Replay.run_append, hnext _ (by rw [Replay.script_run, hp]), Replay.written_run_of_aborted hfits]
    · obtain ⟨rfl, rfl⟩ := hnext
      obtain ⟨rfl, hrows⟩ := hfits
      intro p hp
      rw [List.append_nil, Replay.written_run_transaction, hp, hrows]
      rfl
termination_by c.options.retry.maxAttempts - attempt

theorem write_commits (q : Query) : Appends (c.write q) (Commits c.respond) := c.writeFrom_commits 1 q

end Client
end EntityGraph.Session
