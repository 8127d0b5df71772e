import EntityGraph.Proofs.Session.Replay

/-!
# Whole transactions

As long as no commit and no rollback is arranged to fail, every computation of the client ends the transactions that
it begins. What it appends to the log is a row of whole transactions: each is begun, runs queries, and is committed if
all of them succeeded, or rolled back behind the one that failed. Slots and write sessions are given back on the way,
whatever the result is.
-/
namespace EntityGraph.Session

open Cypher (Query Row Statement)
open Paging (Cursor)

variable {σ ε ε' α β : Type}

/-! ## Logs of whole transactions -/

/-- What the database answers to queries that run one after the other. -/
def outcomes (respond : Responder σ) (mode : Mode) : σ → List Query → List Outcome
  | _, [] => []
  | script, q :: rest => (respond script mode q).1 :: outcomes respond mode (respond script mode q).2 rest

/-- The events of queries that run in one transaction. -/
def ran (mode : Mode) (qs : List Query) : List Event := qs.map (.ran mode)

/-- The events of a transaction from its beginning to its end. -/
def bracket (mode : Mode) (qs : List Query) (ending : Event) : List Event := .began mode :: (ran mode qs ++ [ending])

/-- How a transaction that runs queries may end. -/
structure Ends (respond : Responder σ) (script : σ) (mode : Mode) (qs : List Query) (ending : Event) : Prop where
  once : ending = .committed mode ∨ ending = .rolledBack mode
  /-- Nothing runs behind a query that failed. -/
  before : ∀ o ∈ (outcomes respond mode script qs).dropLast, ∃ rows, o = .ok rows
  /-- It is committed if all queries succeeded, and only then. -/
  committed_iff : ending = .committed mode ↔ ∀ o ∈ outcomes respond mode script qs, ∃ rows, o = .ok rows
  /-- It is rolled back if the last query failed, and only then. -/
  rolledBack_iff :
    ending = .rolledBack mode ↔ ∃ fault, (outcomes respond mode script qs).getLast? = some (.error fault)

/-- A log that whole transactions make, one behind the other. -/
inductive WellBracketed (respond : Responder σ) : σ → List Event → Prop
  | nil {script : σ} : WellBracketed respond script []
  | cons {script : σ} {mode : Mode} {qs : List Query} {ending : Event} {rest : List Event}
      (h : Ends respond script mode qs ending)
      (hrest : WellBracketed respond (scriptAfter respond script (bracket mode qs ending)) rest) :
      WellBracketed respond script (bracket mode qs ending ++ rest)

theorem WellBracketed.append {respond : Responder σ} {script : σ} {events events' : List Event}
    (h : WellBracketed respond script events) (h' : WellBracketed respond (scriptAfter respond script events) events') :
    WellBracketed respond script (events ++ events') := by
  induction h with
  | nil => exact h'
  | cons hends _ ih =>
    rw [scriptAfter_append] at h'
    rw [List.append_assoc]
    exact .cons hends (ih h')

/-- Queries that all succeeded, or of which the last one is the one that failed, as the result of running them says. -/
def Fits (respond : Responder σ) (script : σ) (mode : Mode) (result : Except ε α) (qs : List Query) : Prop :=
  match result with
  | .ok _ => ∀ o ∈ outcomes respond mode script qs, ∃ rows, o = .ok rows
  | .error _ => (∃ fault, (outcomes respond mode script qs).getLast? = some (.error fault)) ∧
      ∀ o ∈ (outcomes respond mode script qs).dropLast, ∃ rows, o = .ok rows

/-- One more query in front, which succeeded. -/
theorem Fits.cons {respond : Responder σ} {script : σ} {mode : Mode} {q : Query} {qs : List Query} {rows : List Row}
    {result : Except ε α} (hq : (respond script mode q).1 = .ok rows)
    (h : Fits respond (respond script mode q).2 mode result qs) (f : α → β) :
    Fits respond script mode (result.map f) (q :: qs) := by
  cases result with
  | ok a => exact List.forall_mem_cons.2 ⟨⟨rows, hq⟩, h⟩
  | error e =>
    obtain ⟨⟨fault, hlast⟩, hbefore⟩ := h
    have hne : outcomes respond mode (respond script mode q).2 qs ≠ [] := by
      rintro hnil
      rw [hnil] at hlast
      cases hlast
    refine ⟨⟨fault, by rw [outcomes, List.getLast?_cons, hlast, Option.getD_some]⟩, ?_⟩
    rw [outcomes, List.dropLast_cons_of_ne_nil hne]
    exact List.forall_mem_cons.2 ⟨⟨rows, hq⟩, hbefore⟩

theorem Ends.committed {respond : Responder σ} {script : σ} {mode : Mode} {qs : List Query} {a : α}
    (h : Fits respond script mode (.ok a : Except ε α) qs) : Ends respond script mode qs (.committed mode) := by
  refine ⟨.inl rfl, fun o ho => h o (List.dropLast_subset _ ho), iff_of_true rfl h, iff_of_false nofun ?_⟩
  rintro ⟨fault, hlast⟩
  obtain ⟨rows, hrows⟩ := h _ (List.mem_of_getLast? hlast)
  cases hrows

theorem Ends.rolledBack {respond : Responder σ} {script : σ} {mode : Mode} {qs : List Query} {e : ε}
    (h : Fits respond script mode (.error e : Except ε α) qs) : Ends respond script mode qs (.rolledBack mode) := by
  obtain ⟨hfails, hbefore⟩ := h
  refine ⟨.inr rfl, hbefore, iff_of_false nofun fun hall => ?_, iff_of_true rfl hfails⟩
  obtain ⟨fault, hlast⟩ := hfails
  obtain ⟨rows, hrows⟩ := hall _ (List.mem_of_getLast? hlast)
  cases hrows

/-! ## Computations that end what they begin -/

/-- What a computation leaves of a state: nothing is open or taken that was not before, and the log grew by whole
transactions, whose queries are allowed. -/
structure Settled (respond : Responder σ) (allowed : Mode → Query → Prop) (s s' : State σ) : Prop where
  log : ∃ events, s'.log = s.log ++ events ∧ s'.script = scriptAfter respond s.script events ∧
    WellBracketed respond s.script events ∧ ∀ mode q, .ran mode q ∈ events → allowed mode q
  openTransactions : s'.openTransactions = s.openTransactions
  taken : s'.taken = s.taken
  openWrites : s'.openWrites = s.openWrites
  commitFailures : s'.commitFailures = s.commitFailures
  rollbackFailures : s'.rollbackFailures = s.rollbackFailures

namespace Settled

variable {respond : Responder σ} {allowed allowed' : Mode → Query → Prop} {s s' s'' : State σ}

/-- Failures that are arranged or used up and waits that are noted leave everything else alone. -/
theorem of_queues (s : State σ) (beginFailures : List DatabaseFault) (sleeps : List Duration) :
    Settled respond allowed s { s with beginFailures, sleeps } :=
  ⟨⟨[], (List.append_nil _).symm, rfl, .nil, nofun⟩, rfl, rfl, rfl, rfl, rfl⟩

theorem refl (s : State σ) : Settled respond allowed s s := of_queues s s.beginFailures s.sleeps

theorem trans (h : Settled respond allowed s s') (h' : Settled respond allowed s' s'') :
    Settled respond allowed s s'' := by
  obtain ⟨events, hlog, hscript, hbracketed, hallowed⟩ := h.log
  obtain ⟨events', hlog', hscript', hbracketed', hallowed'⟩ := h'.log
  refine ⟨⟨events ++ events', ?_, ?_, ?_, fun mode q hq => ?_⟩, h'.openTransactions.trans h.openTransactions,
    h'.taken.trans h.taken, h'.openWrites.trans h.openWrites, h'.commitFailures.trans h.commitFailures,
    h'.rollbackFailures.trans h.rollbackFailures⟩
  · rw [hlog', hlog, List.append_assoc]
  · rw [hscript', hscript, scriptAfter_append]
  · rw [hscript] at hbracketed'
    exact hbracketed.append hbracketed'
  · exact (List.mem_append.1 hq).elim (hallowed mode q) (hallowed' mode q)

theorem imp (h : Settled respond allowed s s') (himp : ∀ mode q, allowed mode q → allowed' mode q) :
    Settled respond allowed' s s' := by
  obtain ⟨events, hlog, hscript, hbracketed, hallowed⟩ := h.log
  exact ⟨⟨events, hlog, hscript, hbracketed, fun mode q hq => himp mode q (hallowed mode q hq)⟩, h.openTransactions,
    h.taken, h.openWrites, h.commitFailures, h.rollbackFailures⟩

end Settled

/-- A computation settles every state in which no commit and no rollback is arranged to fail. -/
def Settles (respond : Responder σ) (allowed : Mode → Query → Prop) (x : Action σ ε α) : Prop :=
  ∀ s : State σ, s.commitFailures = [] → s.rollbackFailures = [] → Settled respond allowed s (x s).2

namespace Settles

variable {respond : Responder σ} {allowed : Mode → Query → Prop}

theorem of_unchanged {x : Action σ ε α} (h : ∀ s, (x s).2 = s) : Settles respond allowed x := by
  intro s _ _
  rw [h s]
  exact .refl s

theorem pure (a : α) : Settles respond allowed (Pure.pure a : Action σ ε α) := of_unchanged fun _ => rfl

theorem throw (e : ε) : Settles respond allowed (MonadExcept.throw e : Action σ ε α) := of_unchanged fun _ => rfl

theorem lift (x : Except ε α) : Settles respond allowed (liftM x : Action σ ε α) :=
  of_unchanged fun s => congrArg Prod.snd (lift_apply x s)

theorem bind_of_result {x : Action σ ε α} {f : α → Action σ ε β} (hx : Settles respond allowed x)
    (hf : ∀ s a, (x s).1 = .ok a → Settles respond allowed (f a)) : Settles respond allowed (x >>= f) := by
  intro s hcommit hrollback
  have hfirst := hx s hcommit hrollback
  rw [bind_apply]
  cases hrun : x s with
  | mk result s' =>
    rw [hrun] at hfirst
    cases result with
    | error e => exact hfirst
    | ok a =>
      exact hfirst.trans (hf s a (congrArg Prod.fst hrun) s' (hfirst.commitFailures.trans hcommit)
        (hfirst.rollbackFailures.trans hrollback))

theorem bind {x : Action σ ε α} {f : α → Action σ ε β} (hx : Settles respond allowed x)
    (hf : ∀ a, Settles respond allowed (f a)) : Settles respond allowed (x >>= f) :=
  hx.bind_of_result fun _ a _ => hf a

/-- A result that needs no database, and what follows if there is one. -/
theorem bind_lift {x : Except ε α} {f : α → Action σ ε β} (hf : ∀ a, x = .ok a → Settles respond allowed (f a)) :
    Settles respond allowed (liftM x >>= f) :=
  (lift x).bind_of_result fun s a h => hf a (by rwa [lift_apply] at h)

end Settles

/-! ## Transactions -/

/-- The state after events that only run queries or stand for whole transactions. -/
def State.after (respond : Responder σ) (s : State σ) (events : List Event) : State σ :=
  { s with log := s.log ++ events, script := scriptAfter respond s.script events }

@[simp] theorem State.after_nil (respond : Responder σ) (s : State σ) : s.after respond [] = s := by
  simp [State.after]

@[simp] theorem State.after_after (respond : Responder σ) (s : State σ) (events events' : List Event) :
    (s.after respond events).after respond events' = s.after respond (events ++ events') := by
  simp [State.after]

/-- A computation in an open transaction: it runs queries until one fails and changes nothing else. -/
def RunsQueries (respond : Responder σ) (mode : Mode) (allowed : Query → Prop) (body : Action σ ε α) : Prop :=
  ∀ s, ∃ qs, (∀ q ∈ qs, allowed q) ∧ Fits respond s.script mode (body s).1 qs ∧
    (body s).2 = s.after respond (ran mode qs)

theorem RunsQueries.imp {respond : Responder σ} {mode : Mode} {allowed allowed' : Query → Prop} {body : Action σ ε α}
    (h : RunsQueries respond mode allowed body) (himp : ∀ q, allowed q → allowed' q) :
    RunsQueries respond mode allowed' body := by
  intro s
  obtain ⟨qs, hqs, hfits⟩ := h s
  exact ⟨qs, fun q hq => himp q (hqs q hq), hfits⟩

theorem runQuery_runs (respond : Responder σ) (mode : Mode) (q : Query) :
    RunsQueries respond mode (· = q) (runQuery respond mode q) := by
  refine fun s => ⟨[q], fun _ => List.mem_singleton.1, ?_, rfl⟩
  show Fits respond s.script mode (respond s.script mode q).1 [q]
  cases hanswer : (respond s.script mode q).1 with
  | ok rows => simp [Fits, outcomes, hanswer]
  | error fault => simp [Fits, outcomes, hanswer]

/-- A whole transaction settles the state that it begins in. -/
theorem Settled.bracket {respond : Responder σ} {mode : Mode} {qs : List Query} {ending : Event} {s : State σ}
    {allowed : Mode → Query → Prop} (hends : Ends respond s.script mode qs ending)
    (hallowed : ∀ q ∈ qs, allowed mode q) : Settled respond allowed s (s.after respond (bracket mode qs ending)) := by
  refine ⟨⟨_, rfl, rfl, ?_, fun m q hq => ?_⟩, rfl, rfl, rfl, rfl, rfl⟩
  · rw [← List.append_nil (Session.bracket mode qs ending)]
    exact .cons hends .nil
  · obtain ⟨q', hq', heq⟩ : ∃ q' ∈ qs, Event.ran mode q' = .ran m q := by
      rcases hends.once with rfl | rfl <;> simpa [Session.bracket, ran] using hq
    cases heq
    exact hallowed q hq'

/-- The state in a transaction that was just begun. -/
def State.opened (s : State σ) (mode : Mode) : State σ :=
  { s.record (.began mode) with openTransactions := s.openTransactions + 1 }

theorem scriptAfter_bracket (respond : Responder σ) (script : σ) (mode : Mode) (qs : List Query) {ending : Event}
    (hending : ending.query? = none) :
    scriptAfter respond script (bracket mode qs ending) = scriptAfter respond script (ran mode qs) := by
  have hlast : scriptAfter respond (scriptAfter respond script (ran mode qs)) [ending] =
      scriptAfter respond script (ran mode qs) := by
    rw [scriptAfter, queries, List.filterMap_cons_none hending]
    rfl
  exact (scriptAfter_append respond script (ran mode qs) [ending]).trans hlast

theorem State.close_after_opened (respond : Responder σ) (s : State σ) (mode : Mode) (qs : List Query) {ending : Event}
    (hending : ending.query? = none) :
    ((s.opened mode).after respond (ran mode qs)).close ending = s.after respond (bracket mode qs ending) := by
  unfold State.after
  rw [scriptAfter_bracket respond s.script mode qs hending]
  simp [close, record, opened, bracket]

/-- A computation that begins a transaction, runs queries in it, and commits it behind them or rolls it back. -/
theorem RunsQueries.settles {respond : Responder σ} {mode : Mode} {allowed : Mode → Query → Prop} {body : Action σ ε α}
    (hbody : RunsQueries respond mode (allowed mode) body) {x : Action σ ε' β}
    (hunopened : ∀ s fault rest, s.beginFailures = fault :: rest → (x s).2 = { s with beginFailures := rest })
    (hcommitted : ∀ s a s', s.beginFailures = [] → body (s.opened mode) = (.ok a, s') → s'.commitFailures = [] →
      (x s).2 = s'.close (.committed mode))
    (hrolledBack : ∀ s e s', s.beginFailures = [] → body (s.opened mode) = (.error e, s') → s'.rollbackFailures = [] →
      (x s).2 = s'.close (.rolledBack mode)) : Settles respond allowed x := by
  intro s hcommit hrollback
  cases hbegin : s.beginFailures with
  | cons fault rest =>
    rw [hunopened s fault rest hbegin]
    exact .of_queues s rest s.sleeps
  | nil =>
    obtain ⟨qs, hqs, hfits, hafter⟩ := hbody (s.opened mode)
    cases hrun : body (s.opened mode) with
    | mk result s' =>
      rw [hrun] at hfits hafter
      subst hafter
      -- Queries leave the arranged failures alone, so ending the transaction cannot fail either.
      cases result with
      | ok a =>
        rw [hcommitted s a _ hbegin hrun hcommit, State.close_after_opened respond s mode qs rfl]
        exact .bracket (.committed hfits) hqs
      | error e =>
        rw [hrolledBack s e _ hbegin hrun hrollback, State.close_after_opened respond s mode qs rfl]
        exact .bracket (.rolledBack hfits) hqs

theorem beginTransaction_opened {s : State σ} (h : s.beginFailures = []) (mode : Mode) :
    beginTransaction mode s = (.ok (), s.opened mode) := by
  rw [beginTransaction, h]
  rfl

theorem commit_closes {s : State σ} (h : s.commitFailures = []) (mode : Mode) :
    commit mode s = (.ok (), s.close (.committed mode)) := by
  rw [commit, h]

theorem rollback_closes {s : State σ} (h : s.rollbackFailures = []) (mode : Mode) :
    (rollback mode : Action σ ε Unit) s = (.ok (), s.close (.rolledBack mode)) := by
  rw [rollback, h]

/-- A transaction that is committed behind its queries. -/
theorem commit_after (respond : Responder σ) {s : State σ} (h : s.commitFailures = []) (mode : Mode) (qs : List Query) :
    commit mode ((s.opened mode).after respond (ran mode qs)) =
      (.ok (), s.after respond (bracket mode qs (.committed mode))) := by
  rw [commit_closes (s := (s.opened mode).after respond (ran mode qs)) h, State.close_after_opened respond s mode qs rfl]

/-- A transaction that is rolled back behind its queries. -/
theorem rollback_after (respond : Responder σ) {s : State σ} (h : s.rollbackFailures = []) (mode : Mode)
    (qs : List Query) :
    (rollback mode : Action σ ε Unit) ((s.opened mode).after respond (ran mode qs)) =
      (.ok (), s.after respond (bracket mode qs (.rolledBack mode))) := by
  rw [rollback_closes (s := (s.opened mode).after respond (ran mode qs)) h,
    State.close_after_opened respond s mode qs rfl]

theorem runOnce_settles (respond : Responder σ) {mode : Mode} {q : Query} {allowed : Mode → Query → Prop}
    (hallowed : allowed mode q) : Settles respond allowed (runOnce respond mode q) := by
  have hbody : RunsQueries respond mode (allowed mode) (runQuery respond mode q) :=
    (runQuery_runs respond mode q).imp fun q' hq' => hq' ▸ hallowed
  refine hbody.settles (fun s fault rest hbegin => ?_) (fun s rows s' hbegin hrun hcommit => ?_)
    fun s fault s' hbegin hrun hrollback => ?_
  · simp [runOnce, bind_apply, beginTransaction, hbegin]
  · simp [runOnce, bind_apply, beginTransaction_opened hbegin, attempt_apply, hrun, map_apply, commit_closes hcommit]
  · simp [runOnce, bind_apply, beginTransaction_opened hbegin, attempt_apply, hrun, throw_apply,
      rollback_closes hrollback]

namespace Client

variable (c : Client σ)

theorem runAll_cons (index : Nat) (q : Query) (rest : List Query) (s : State σ) :
    c.runAll index (q :: rest) s = match (c.respond s.script .write q).1 with
      | .ok rows => ((c.runAll (index + 1) rest (s.after c.respond [.ran .write q])).1.map (rows :: ·),
          (c.runAll (index + 1) rest (s.after c.respond [.ran .write q])).2)
      | .error fault => (.error (index, fault), s.after c.respond [.ran .write q]) := by
  have hrun : runQuery c.respond .write q s =
      ((c.respond s.script .write q).1, s.after c.respond [.ran .write q]) := rfl
  rw [runAll, bind_apply, attempt_apply, hrun]
  cases (c.respond s.script .write q).1 with
  | ok rows => simp [map_apply]
  | error fault => rfl

/-- The queries of a batch run in their order up to the first that fails. -/
theorem runAll_runs (index : Nat) (queries : List Query) :
    RunsQueries c.respond .write (· ∈ queries) (c.runAll index queries) := by
  induction queries generalizing index with
  | nil => exact fun s => ⟨[], nofun, nofun, (State.after_nil c.respond s).symm⟩
  | cons q rest ih =>
    intro s
    rw [runAll_cons]
    cases hanswer : (c.respond s.script .write q).1 with
    | error fault => exact ⟨[q], by simp, by simp [Fits, outcomes, hanswer], rfl⟩
    | ok rows =>
      obtain ⟨qs, hqs, hfits, hafter⟩ := ih (index + 1) (s.after c.respond [.ran .write q])
      refine ⟨q :: qs, List.forall_mem_cons.2 ⟨List.mem_cons_self, fun q' hq' => List.mem_cons_of_mem q (hqs q' hq')⟩,
        Fits.cons hanswer hfits (rows :: ·), ?_⟩
      rw [hafter, State.after_after]
      rfl

theorem runBatch_settles {queries : List Query} {allowed : Mode → Query → Prop}
    (hallowed : ∀ q ∈ queries, allowed .write q) : Settles c.respond allowed (c.runBatch queries) := by
  have hbody : RunsQueries c.respond .write (allowed .write) (c.runAll 0 queries) :=
    (c.runAll_runs 0 queries).imp hallowed
  refine hbody.settles (fun s fault rest hbegin => ?_) (fun s results s' hbegin hrun hcommit => ?_)
    fun s failure s' hbegin hrun hrollback => ?_
  · simp [runBatch, bind_apply, attempt_apply, beginTransaction, hbegin, throw_apply]
  · simp [runBatch, bind_apply, attempt_apply, beginTransaction_opened hbegin, hrun, commit_closes hcommit,
      pure_apply]
  · simp [runBatch, bind_apply, attempt_apply, beginTransaction_opened hbegin, hrun, throw_apply,
      rollback_closes hrollback]

/-! ## The client -/

/-- With a slot a computation runs as it would without the pool. -/
theorem withSlot_apply (body : Action σ ε α) {s : State σ} (hfree : s.taken < c.capacity) :
    c.withSlot body s = (.ok (body { s with taken := s.taken + 1 }).1,
      { (body { s with taken := s.taken + 1 }).2 with
        taken := (body { s with taken := s.taken + 1 }).2.taken - 1 }) := by
  simp [withSlot, bind_apply, map_apply, attempt_apply, acquire, release, hfree, Except.map]

variable {c} {allowed : Mode → Query → Prop}

theorem withSlot_settles {body : Action σ ε α} (h : Settles c.respond allowed body) :
    Settles c.respond allowed (c.withSlot body) := by
  intro s hcommit hrollback
  by_cases hfree : s.taken < c.capacity
  · have hbody := h { s with taken := s.taken + 1 } hcommit hrollback
    rw [withSlot_apply c body hfree]
    refine ⟨hbody.log, hbody.openTransactions, ?_, hbody.openWrites, hbody.commitFailures, hbody.rollbackFailures⟩
    show _ - 1 = s.taken
    rw [hbody.taken, Nat.add_sub_cancel]
  · have hrun : (c.withSlot body s).2 = s := by simp [withSlot, bind_apply, acquire, hfree]
    rw [hrun]
    exact .refl s

theorem asWriteSession_settles {respond : Responder σ} {body : Action σ ε α} (h : Settles respond allowed body) :
    Settles respond allowed (asWriteSession body) := by
  intro s hcommit hrollback
  have hbody := h { s with openWrites := s.openWrites + 1 } hcommit hrollback
  refine ⟨hbody.log, hbody.openTransactions, hbody.taken, ?_, hbody.commitFailures, hbody.rollbackFailures⟩
  show _ - 1 = s.openWrites
  rw [hbody.openWrites, Nat.add_sub_cancel]

theorem sleep_settles (d : Duration) : Settles c.respond allowed (c.sleep d : Action σ ε Unit) := by
  intro s _ _
  unfold sleep
  cases c.sleeper with
  | timer => exact .refl s
  | notes => exact .of_queues s s.beginFailures (s.sleeps ++ [d])

theorem read_settles {q : Query} (h : allowed .read q) : Settles c.respond allowed (c.read q) := by
  refine (withSlot_settles (runOnce_settles c.respond h)).bind fun outcome => ?_
  cases outcome with
  | ok rows => exact .pure rows
  | error fault => exact .throw _

theorem writeFrom_settles (attempt : Nat) {q : Query} (h : allowed .write q) :
    Settles c.respond allowed (c.writeFrom attempt q) := by
  rw [writeFrom]
  refine (withSlot_settles (asWriteSession_settles (runOnce_settles c.respond h))).bind fun outcome => ?_
  cases outcome with
  | ok rows => exact .pure rows
  | error fault =>
    dsimp only
    split
    · rename_i hretries
      have := RetryPolicy.lt_of_retries hretries
      exact (sleep_settles _).bind fun _ => writeFrom_settles (attempt + 1) h
    · exact .throw _
termination_by c.options.retry.maxAttempts - attempt

theorem write_settles {q : Query} (h : allowed .write q) : Settles c.respond allowed (c.write q) :=
  writeFrom_settles 1 h

theorem batch_settles {queries : List Query} (h : ∀ q ∈ queries, allowed .write q) :
    Settles c.respond allowed (c.batch queries) := by
  refine (withSlot_settles (asWriteSession_settles (c.runBatch_settles h))).bind fun outcome => ?_
  cases outcome with
  | ok results => exact .pure results
  | error failure => exact .throw _

theorem readPage_settles {s : Statement} {cursor : Cursor} (h : ∀ w, allowed .read (s.render w))
    (hcount : ∀ count, s.count? = some count → ∀ w, allowed .read (count.render w)) :
    Settles c.respond allowed (c.readPage s cursor) := by
  refine .bind_lift fun window _ => (read_settles (h window)).bind fun rows => ?_
  cases hs : s.count? with
  | none => exact .pure _
  | some count =>
    exact (read_settles (hcount count hs .all)).bind fun counted => .bind_lift fun total _ => .pure _

theorem applySchema_settles {r : Schema.Registry} (h : ∀ text ∈ r.ddl, allowed .write (.raw text)) :
    Settles c.respond allowed (c.applySchema r) := by
  have hall (texts : List String) (htexts : ∀ text ∈ texts, allowed .write (.raw text)) :
      Settles c.respond allowed (c.writeAll texts) := by
    induction texts with
    | nil => exact .pure ()
    | cons text rest ih =>
      obtain ⟨hfirst, hrest⟩ := List.forall_mem_cons.1 htexts
      exact (write_settles hfirst).bind fun _ => ih hrest
  exact (hall _ h).bind fun _ => .pure _

end Client
end EntityGraph.Session
