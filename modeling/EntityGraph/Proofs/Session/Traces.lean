import EntityGraph.Session.Client

/-!
# What computations leave in the log

A computation only ever appends to the log. A transaction for one query leaves nothing if it could not be opened;
otherwise it is begun, runs its query, and is committed if the query has rows. A read is one such transaction at most.
A write is a series of them, of which none but the last is committed.
-/
namespace EntityGraph.Session

open Cypher (Query Row)

variable {σ ε α β : Type}

/-! ## Events -/

/-- The kind of transaction that an event belongs to. -/
def Event.mode : Event → Mode
  | began mode => mode
  | ran mode _ => mode
  | committed mode => mode
  | rolledBack mode => mode

/-- The query that an event runs, with the kind of its transaction. -/
def Event.query? : Event → Option (Mode × Query)
  | ran mode q => some (mode, q)
  | _ => none

/-- The queries that were run, oldest first. -/
def queries (events : List Event) : List (Mode × Query) := events.filterMap Event.query?

@[simp] theorem queries_nil : queries [] = [] := rfl

@[simp] theorem queries_append (events events' : List Event) :
    queries (events ++ events') = queries events ++ queries events' := List.filterMap_append

theorem mem_queries {events : List Event} {mode : Mode} {q : Query} :
    (mode, q) ∈ queries events ↔ .ran mode q ∈ events := by
  rw [queries, List.mem_filterMap]
  constructor
  · rintro ⟨e, he, heq⟩
    cases e with
    | ran mode' q' =>
      cases heq
      exact he
    | _ => cases heq
  · intro h
    exact ⟨_, h, rfl⟩

/-! ## Computations -/

/-- Whatever state it begins in, a computation appends events that fit its result and what the database answered from. -/
def Appends (x : Action σ ε α) (fits : σ → Except ε α → List Event → Prop) : Prop :=
  ∀ s, ∃ events, (x s).2.log = s.log ++ events ∧ fits s.script (x s).1 events

theorem bind_apply (x : Action σ ε α) (f : α → Action σ ε β) (s : State σ) :
    (x >>= f) s = match x s with
      | (.ok a, s') => f a s'
      | (.error e, s') => (.error e, s') := by
  show ((fun p : Except ε α × State σ => ExceptT.bindCont f p.1 p.2) (x s)) = _
  cases x s with
  | mk result s' => cases result <;> rfl

/-- A computation in two steps that succeeded: both steps did. -/
theorem bind_eq_ok {x : Action σ ε α} {f : α → Action σ ε β} {s s' : State σ} {b : β}
    (h : (x >>= f) s = (.ok b, s')) : ∃ a s₁, x s = (.ok a, s₁) ∧ f a s₁ = (.ok b, s') := by
  rw [bind_apply] at h
  cases hx : x s with
  | mk result s₁ =>
    rw [hx] at h
    cases result with
    | error e => cases h
    | ok a => exact ⟨a, s₁, rfl, h⟩

/-- A computation in two steps that failed: one of the steps did. -/
theorem bind_eq_error {x : Action σ ε α} {f : α → Action σ ε β} {s s' : State σ} {e : ε}
    (h : (x >>= f) s = (.error e, s')) :
    x s = (.error e, s') ∨ ∃ a s₁, x s = (.ok a, s₁) ∧ f a s₁ = (.error e, s') := by
  rw [bind_apply] at h
  cases hx : x s with
  | mk result s₁ =>
    rw [hx] at h
    cases result with
    | error e' =>
      cases h
      exact .inl rfl
    | ok a => exact .inr ⟨a, s₁, rfl, h⟩

/-- A result that needs no database. -/
theorem lift_apply (x : Except ε α) (s : State σ) : (liftM x : Action σ ε α) s = (x, s) := by
  cases x <;> rfl

theorem attempt_apply {ε' : Type} (x : Action σ ε α) (s : State σ) :
    (attempt x : Action σ ε' (Except ε α)) s = (.ok (x s).1, (x s).2) := rfl

theorem pure_apply (a : α) (s : State σ) : (pure a : Action σ ε α) s = (.ok a, s) := rfl

theorem throw_apply (e : ε) (s : State σ) : (throw e : Action σ ε α) s = (.error e, s) := rfl

theorem map_apply (f : α → β) (x : Action σ ε α) (s : State σ) : (f <$> x) s = ((x s).1.map f, (x s).2) := by
  rw [← bind_pure_comp, bind_apply]
  cases x s with
  | mk result s' => cases result <;> rfl

namespace Appends

variable {fits fits' : σ → Except ε α → List Event → Prop}

theorem imp {x : Action σ ε α} (h : Appends x fits)
    (himp : ∀ script result events, fits script result events → fits' script result events) : Appends x fits' := by
  intro s
  obtain ⟨events, hlog, hfits⟩ := h s
  exact ⟨events, hlog, himp _ _ _ hfits⟩

/-- A computation that leaves the log alone. -/
theorem of_log_eq {x : Action σ ε α} (hlog : ∀ s, (x s).2.log = s.log) (h : ∀ s, fits s.script (x s).1 []) :
    Appends x fits := by
  intro s
  exact ⟨[], by rw [hlog, List.append_nil], h s⟩

theorem pure {a : α} (h : ∀ script, fits script (.ok a) []) : Appends (Pure.pure a : Action σ ε α) fits :=
  of_log_eq (fun _ => rfl) fun s => h s.script

theorem throw {e : ε} (h : ∀ script, fits script (.error e) []) :
    Appends (MonadExcept.throw e : Action σ ε α) fits := of_log_eq (fun _ => rfl) fun s => h s.script

/-- A result that needs no database, and what follows if there is one. -/
theorem lift {x : Except ε β} {f : β → Action σ ε α} (herror : ∀ script e, x = .error e → fits script (.error e) [])
    (hok : ∀ b, x = .ok b → Appends (f b) fits) : Appends (liftM x >>= f) fits := by
  cases x with
  | error e => exact of_log_eq (fun _ => rfl) fun s => herror s.script e rfl
  | ok b => exact hok b rfl

/-- The second computation runs only if the first one succeeds, and its events come behind. -/
theorem bind {x : Action σ ε α} {f : α → Action σ ε β} {g : α → σ → Except ε β → List Event → Prop}
    {fits' : σ → Except ε β → List Event → Prop} (hx : Appends x fits) (hf : ∀ a, Appends (f a) (g a))
    (herror : ∀ script e events, fits script (.error e) events → fits' script (.error e) events)
    (hok : ∀ script script' a result events events', fits script (.ok a) events → g a script' result events' →
      fits' script result (events ++ events')) : Appends (x >>= f) fits' := by
  intro s
  obtain ⟨events, hlog, hfits⟩ := hx s
  rw [bind_apply]
  cases hrun : x s with
  | mk result s' =>
    rw [hrun] at hlog hfits
    cases result with
    | error e => exact ⟨events, hlog, herror _ e events hfits⟩
    | ok a =>
      obtain ⟨events', hlog', hnext⟩ := hf a s'
      refine ⟨events ++ events', ?_, hok _ _ a _ events events' hfits hnext⟩
      rw [hlog', hlog, List.append_assoc]

/-- The second computation leaves the log alone. -/
theorem bind_quiet {x : Action σ ε α} {f : α → Action σ ε β} {fits' : σ → Except ε β → List Event → Prop}
    (hx : Appends x fits) (hquiet : ∀ a s, (f a s).2.log = s.log)
    (herror : ∀ script e events, fits script (.error e) events → fits' script (.error e) events)
    (hok : ∀ script a s events, fits script (.ok a) events → fits' script (f a s).1 events) :
    Appends (x >>= f) fits' := by
  have hf (a : α) : Appends (f a) (fun _ result events => events = [] ∧ ∃ s, result = (f a s).1) :=
    of_log_eq (hquiet a) fun s => ⟨rfl, s, rfl⟩
  refine hx.bind hf herror ?_
  rintro script script' a result events events' hfits ⟨rfl, s, rfl⟩
  rw [List.append_nil]
  exact hok script a s events hfits

end Appends

/-! ## Transactions for one query -/

/-- The events of a transaction that was committed after one query. -/
def transaction (mode : Mode) (q : Query) : List Event := [.began mode, .ran mode q, .committed mode]

/-- What a transaction for one query that failed leaves: it could not be opened, or it was rolled back, or it was left
open because it could neither be committed nor rolled back. -/
inductive Aborted (mode : Mode) (q : Query) : List Event → Prop
  | unopened : Aborted mode q []
  | rolledBack : Aborted mode q [.began mode, .ran mode q, .rolledBack mode]
  | leftOpen : Aborted mode q [.began mode, .ran mode q]

/-- A transaction for one query is committed with the rows that the database answered, or aborted. -/
def Attempt (respond : Responder σ) (mode : Mode) (q : Query) (script : σ) (result : Except ε (List Row))
    (events : List Event) : Prop :=
  match result with
  | .ok rows => events = transaction mode q ∧ (respond script mode q).1 = .ok rows
  | .error _ => Aborted mode q events

theorem Aborted.mode {mode : Mode} {q : Query} {events : List Event} (h : Aborted mode q events) :
    ∀ e ∈ events, e.mode = mode := by
  cases h <;> simp [Event.mode]

theorem Aborted.queries_eq {mode : Mode} {q : Query} {events : List Event} (h : Aborted mode q events) :
    queries events = [] ∨ queries events = [(mode, q)] := by
  cases h with
  | unopened => exact .inl rfl
  | rolledBack => exact .inr rfl
  | leftOpen => exact .inr rfl

theorem Aborted.not_committed {mode : Mode} {q : Query} {events : List Event} (h : Aborted mode q events) :
    ∀ e ∈ events, e.isCommit = false := by
  cases h <;> simp [Event.isCommit]

@[simp] theorem attempt_ok {respond : Responder σ} {mode : Mode} {q : Query} {script : σ} {rows : List Row}
    {events : List Event} : Attempt respond mode q script (.ok rows : Except ε (List Row)) events ↔
      events = transaction mode q ∧ (respond script mode q).1 = .ok rows := Iff.rfl

@[simp] theorem attempt_error {respond : Responder σ} {mode : Mode} {q : Query} {script : σ} {e : ε}
    {events : List Event} :
    Attempt respond mode q script (.error e : Except ε (List Row)) events ↔ Aborted mode q events := Iff.rfl

theorem Attempt.mode {respond : Responder σ} {mode : Mode} {q : Query} {script : σ} {result : Except ε (List Row)}
    {events : List Event} (h : Attempt respond mode q script result events) : ∀ e ∈ events, e.mode = mode := by
  cases result with
  | ok rows =>
    obtain ⟨rfl, -⟩ := h
    simp [transaction, Event.mode]
  | error e => exact Aborted.mode h

theorem Attempt.queries_eq {respond : Responder σ} {mode : Mode} {q : Query} {script : σ} {result : Except ε (List Row)}
    {events : List Event} (h : Attempt respond mode q script result events) :
    queries events = [] ∨ queries events = [(mode, q)] := by
  cases result with
  | ok rows =>
    obtain ⟨rfl, -⟩ := h
    exact .inr rfl
  | error e => exact Aborted.queries_eq h

theorem Attempt.eq_of_mem_queries {respond : Responder σ} {mode : Mode} {q : Query} {script : σ}
    {result : Except ε (List Row)} {events : List Event} (h : Attempt respond mode q script result events) :
    ∀ p ∈ queries events, p = (mode, q) := by
  intro p hp
  rcases h.queries_eq with hnone | hone
  · rw [hnone] at hp
    cases hp
  · rw [hone] at hp
    exact List.mem_singleton.1 hp

theorem runOnce_appends (respond : Responder σ) (mode : Mode) (q : Query) :
    Appends (runOnce respond mode q) (Attempt respond mode q) := by
  intro s
  cases hbegin : s.beginFailures with
  | cons fault rest =>
    refine ⟨[], ?_, ?_⟩ <;> simp [runOnce, bind_apply, beginTransaction, hbegin, Aborted.unopened]
  | nil =>
    cases hanswer : (respond s.script mode q).1 with
    | ok rows =>
      cases hcommit : s.commitFailures with
      | cons fault rest =>
        refine ⟨[.began mode, .ran mode q], ?_, ?_⟩ <;>
          simp [runOnce, bind_apply, map_apply, beginTransaction, attempt, runQuery, commit, State.record, hbegin,
            hanswer, hcommit, Except.map, Aborted.leftOpen]
      | nil =>
        refine ⟨transaction mode q, ?_, ?_⟩ <;>
          simp [runOnce, bind_apply, map_apply, beginTransaction, attempt, runQuery, commit, State.record, State.close,
            hbegin, hanswer, hcommit, Except.map, transaction]
    | error fault =>
      cases hrollback : s.rollbackFailures with
      | cons other rest =>
        refine ⟨[.began mode, .ran mode q], ?_, ?_⟩ <;>
          simp [runOnce, bind_apply, throw_apply, beginTransaction, attempt, runQuery, rollback, State.record, hbegin,
            hanswer, hrollback, Aborted.leftOpen]
      | nil =>
        refine ⟨[.began mode, .ran mode q, .rolledBack mode], ?_, ?_⟩ <;>
          simp [runOnce, bind_apply, throw_apply, beginTransaction, attempt, runQuery, rollback, State.record,
            State.close, hbegin, hanswer, hrollback, Aborted.rolledBack]

/-! ## Attempts at a write -/

/-- What attempts at a write leave: aborted transactions and, if the write succeeds, behind them one that was committed
with its rows. -/
def Attempts (respond : Responder σ) (q : Query) (result : Except ε (List Row)) (events : List Event) : Prop :=
  ∃ failed : List (List Event), (∀ part ∈ failed, Aborted .write q part) ∧
    match result with
    | .ok rows =>
      (∃ script, (respond script .write q).1 = .ok rows) ∧ events = failed.flatten ++ transaction .write q
    | .error _ => events = failed.flatten

/-- What follows an attempt: nothing if it brought rows, or else further attempts. -/
def Onwards {ε' : Type} (respond : Responder σ) (q : Query) (outcome : Except ε' (List Row))
    (result : Except ε (List Row)) (events : List Event) : Prop :=
  match outcome with
  | .ok rows => result = .ok rows ∧ events = []
  | .error _ => Attempts respond q result events

namespace Attempts

variable {respond : Responder σ} {q : Query} {result : Except ε (List Row)} {events : List Event}

theorem none {e : ε} : Attempts respond q (.error e) [] := ⟨[], by simp, rfl⟩

/-- One more attempt in front, which failed. -/
theorem cons {part : List Event} (h : Attempts respond q result events) (hpart : Aborted .write q part) :
    Attempts respond q result (part ++ events) := by
  obtain ⟨failed, hfailed, h⟩ := h
  refine ⟨part :: failed, List.forall_mem_cons.2 ⟨hpart, hfailed⟩, ?_⟩
  cases result with
  | ok rows => exact ⟨h.1, by rw [h.2, List.flatten_cons, List.append_assoc]⟩
  | error e => rw [h, List.flatten_cons]

theorem mode (h : Attempts respond q result events) : ∀ e ∈ events, e.mode = .write := by
  obtain ⟨failed, hfailed, h⟩ := h
  have hparts : ∀ e ∈ failed.flatten, e.mode = .write := by
    intro e he
    obtain ⟨part, hpart, he⟩ := List.mem_flatten.1 he
    exact (hfailed part hpart).mode e he
  cases result with
  | ok rows =>
    rw [h.2]
    refine List.forall_mem_append.2 ⟨hparts, ?_⟩
    simp [transaction, Event.mode]
  | error e => rwa [h]

theorem eq_of_mem_queries (h : Attempts respond q result events) : ∀ p ∈ queries events, p = (.write, q) := by
  obtain ⟨failed, hfailed, h⟩ := h
  have hparts : ∀ p ∈ queries failed.flatten, p = (.write, q) := by
    intro p hp
    obtain ⟨e, he, hp⟩ := List.mem_filterMap.1 hp
    obtain ⟨part, hpart, he⟩ := List.mem_flatten.1 he
    have hmem : p ∈ queries part := List.mem_filterMap.2 ⟨e, he, hp⟩
    rcases (hfailed part hpart).queries_eq with hnone | hone
    · rw [hnone] at hmem
      cases hmem
    · rw [hone] at hmem
      exact List.mem_singleton.1 hmem
  cases result with
  | ok rows =>
    rw [h.2, queries_append]
    refine List.forall_mem_append.2 ⟨hparts, ?_⟩
    simp [transaction, queries, Event.query?]
  | error e => rwa [h]

/-- Nothing follows a commit. -/
theorem committed_last (h : Attempts respond q result events) :
    events.Pairwise (fun e _ => e.isCommit = false) := by
  obtain ⟨failed, hfailed, h⟩ := h
  have hparts : ∀ e ∈ failed.flatten, e.isCommit = false := by
    intro e he
    obtain ⟨part, hpart, he⟩ := List.mem_flatten.1 he
    exact (hfailed part hpart).not_committed e he
  have hfailed : failed.flatten.Pairwise (fun e _ => e.isCommit = false) :=
    List.pairwise_iff_forall_sublist.2 fun hsub => hparts _ (hsub.subset List.mem_cons_self)
  cases result with
  | ok rows =>
    rw [h.2]
    refine List.pairwise_append.2 ⟨hfailed, ?_, fun e he _ _ => hparts e he⟩
    simp [transaction, Event.isCommit]
  | error e => rwa [h]

end Attempts

/-! ## Reads and writes of the client -/

namespace Client

variable (c : Client σ)

theorem withSlot_appends {body : Action σ ε α} {fits : σ → Except ε α → List Event → Prop} (h : Appends body fits) :
    Appends (c.withSlot body) (fun script result events =>
      match result with
      | .ok outcome => fits script outcome events
      | .error _ => events = []) := by
  intro s
  by_cases hfree : s.taken < c.capacity
  · obtain ⟨events, hlog, hfits⟩ := h { s with taken := s.taken + 1 }
    refine ⟨events, ?_, ?_⟩
    · simpa [withSlot, bind_apply, map_apply, attempt_apply, acquire, release, hfree] using hlog
    · simpa [withSlot, bind_apply, map_apply, attempt_apply, acquire, release, hfree, Except.map] using hfits
  · refine ⟨[], ?_, ?_⟩ <;> simp [withSlot, bind_apply, acquire, hfree]

theorem asWriteSession_appends {body : Action σ ε α} {fits : σ → Except ε α → List Event → Prop}
    (h : Appends body fits) : Appends (asWriteSession body) fits := by
  intro s
  exact h { s with openWrites := s.openWrites + 1 }

/-- A read is committed with its rows or aborted. -/
theorem read_appends (q : Query) : Appends (c.read q) (Attempt c.respond .read q) := by
  refine (c.withSlot_appends (runOnce_appends c.respond .read q)).bind_quiet ?_ ?_ ?_
  · rintro (fault | rows) s <;> rfl
  · rintro script e events rfl
    exact .unopened
  · rintro script (fault | rows) s events hfits
    · exact hfits
    · exact hfits

theorem sleep_appends (d : Duration) : Appends (c.sleep d : Action σ ε Unit) (fun _ _ events => events = []) := by
  refine Appends.of_log_eq (fun s => ?_) fun _ => rfl
  unfold sleep
  cases c.sleeper <;> rfl

/-- A write from some attempt on is a series of attempts. -/
theorem writeFrom_appends (attempt : Nat) (q : Query) :
    Appends (c.writeFrom attempt q) (fun _ => Attempts c.respond q) := by
  rw [writeFrom]
  refine (c.withSlot_appends (asWriteSession_appends (runOnce_appends c.respond .write q))).bind
    (g := fun outcome _ => Onwards c.respond q outcome) ?_ ?_ ?_
  · rintro (fault | rows)
    · show Appends _ (fun _ => Attempts c.respond q)
      dsimp only
      split
      · rename_i hretries
        have := RetryPolicy.lt_of_retries hretries
        refine (c.sleep_appends _).bind (fun _ => writeFrom_appends (attempt + 1) q) ?_ ?_
        · rintro _ e events rfl
          exact Attempts.none
        · rintro _ _ _ result events events' rfl h
          exact h
      · exact Appends.throw fun _ => Attempts.none
    · exact Appends.pure fun _ => ⟨rfl, rfl⟩
  · rintro _ e events rfl
    exact Attempts.none
  · rintro script _ (fault | rows) result events events' hfits hnext
    · exact hnext.cons hfits
    · obtain ⟨rfl, rfl⟩ := hnext
      obtain ⟨rfl, hrows⟩ := hfits
      exact ⟨[], by simp, ⟨script, hrows⟩, by simp⟩
termination_by c.options.retry.maxAttempts - attempt

theorem write_appends (q : Query) : Appends (c.write q) (fun _ => Attempts c.respond q) := c.writeFrom_appends 1 q

end Client
end EntityGraph.Session
