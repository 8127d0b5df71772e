import EntityGraph.Proofs.Session.Brackets

/-!
# Attempts at a write

A database replies to one attempt at a write after the other: it refuses the transaction, fails the query or returns
rows. The last attempt is the first that returns rows, fails for good or uses up the budget, and its reply is what the
write returns. A database may refuse at any time, so the refusals of a state, which come before all else, are only one
way to reply.
-/
namespace EntityGraph.Session

open Cypher (Query Row)

variable {σ : Type}

/-! ## Replies -/

/-- What an attempt at a write comes to: its transaction was refused, or its query was run. -/
inductive Reply where
  | refused (fault : DatabaseFault)
  | ran (outcome : Outcome)

namespace Reply

/-- What the attempt returns. -/
def outcome : Reply → Outcome
  | refused fault => .error fault
  | ran outcome => outcome

/-- What the attempt leaves in the log. -/
def events (q : Query) : Reply → List Event
  | refused _ => []
  | ran (.ok _) => bracket .write [q] (.committed .write)
  | ran (.error _) => bracket .write [q] (.rolledBack .write)

end Reply

/-- What a database has left to reply from: its script and the refusals that are arranged. -/
abbrev Pending (σ : Type) := σ × List DatabaseFault

/-- How a database answers when a transaction is to be opened. It may refuse. -/
abbrev Gate (σ : Type) := Pending σ → Option DatabaseFault × Pending σ

/-- Refuses as long as refusals are arranged. -/
def arranged : Gate σ
  | (script, fault :: rest) => (some fault, (script, rest))
  | (script, []) => (none, (script, []))

def State.pending (s : State σ) : Pending σ := (s.script, s.beginFailures)

def State.withPending (s : State σ) (p : Pending σ) : State σ := { s with script := p.1, beginFailures := p.2 }

namespace Gate

/-- Opens a transaction. -/
def begin (gate : Gate σ) (mode : Mode) : Action σ DatabaseFault Unit := fun s =>
  match gate s.pending with
  | (some fault, p) => (.error fault, s.withPending p)
  | (none, p) => (.ok (), (s.withPending p).opened mode)

/-- Runs a query in a transaction of its own. -/
def runOnce (gate : Gate σ) (respond : Responder σ) (mode : Mode) (q : Query) : Action σ DatabaseFault (List Row) := do
  gate.begin mode
  match ← attempt (runQuery respond mode q) with
  | .ok rows =>
    commit mode
    return rows
  | .error fault =>
    rollback mode
    throw fault

/-- The reply to an attempt at a write, and what is left to reply from. -/
def reply (gate : Gate σ) (respond : Responder σ) (q : Query) (p : Pending σ) : Reply × Pending σ :=
  match gate p with
  | (some fault, p) => (.refused fault, p)
  | (none, p) => (.ran (respond p.1 .write q).1, ((respond p.1 .write q).2, p.2))

/-- What is left to reply from after some attempts. -/
def left (gate : Gate σ) (respond : Responder σ) (q : Query) (p : Pending σ) : Nat → Pending σ
  | 0 => p
  | n + 1 => (gate.reply respond q (left gate respond q p n)).2

/-- Attempts at a write have these replies, counted from one. -/
def Plays (gate : Gate σ) (respond : Responder σ) (q : Query) (p : Pending σ) (replies : Nat → Reply) : Prop :=
  ∀ n, (gate.reply respond q (gate.left respond q p n)).1 = replies (n + 1)

/-- The gate of a database whose script counts the attempts and whose replies to them are planned. -/
def planned (replies : Nat → Reply) : Gate Nat
  | (n, refusals) =>
    match replies n with
    | .refused fault => (some fault, (n + 1, refusals))
    | .ran _ => (none, (n, refusals))

/-- Attempts can have any replies. -/
theorem plays_planned (replies : Nat → Reply) (q : Query) (refusals : List DatabaseFault) :
    (planned replies).Plays (fun n _ _ => ((replies n).outcome, n + 1)) q (1, refusals) replies := by
  let respond : Responder Nat := fun n _ _ => ((replies n).outcome, n + 1)
  have hreply (n : Nat) : (planned replies).reply respond q (n, refusals) = (replies n, (n + 1, refusals)) := by
    cases hn : replies n <;> simp [reply, planned, respond, hn, Reply.outcome]
  have hleft (n : Nat) : (planned replies).left respond q (1, refusals) n = (n + 1, refusals) := by
    induction n with
    | zero => rfl
    | succ n ih => rw [left, ih, hreply]
  intro n
  rw [hleft, hreply]

theorem begin_arranged (mode : Mode) : (arranged : Gate σ).begin mode = beginTransaction mode := by
  funext s
  unfold begin beginTransaction State.pending
  cases hrefusals : s.beginFailures with
  | cons fault rest => rfl
  | nil =>
    have hs : s.withPending (s.script, []) = s := by rw [← hrefusals]; rfl
    simp only [arranged, hs]
    rfl

theorem runOnce_arranged (respond : Responder σ) (mode : Mode) (q : Query) :
    (arranged : Gate σ).runOnce respond mode q = Session.runOnce respond mode q := by
  rw [Gate.runOnce, begin_arranged]
  rfl

/-- A transaction for one query leaves what the reply says, unless it cannot be ended. -/
theorem runOnce_eq (gate : Gate σ) (respond : Responder σ) (q : Query) {s : State σ} (hcommit : s.commitFailures = [])
    (hrollback : s.rollbackFailures = []) :
    gate.runOnce respond .write q s =
      ((gate.reply respond q s.pending).1.outcome,
        { s.withPending (gate.reply respond q s.pending).2 with
          log := s.log ++ (gate.reply respond q s.pending).1.events q }) := by
  cases hgate : gate s.pending with
  | mk refusal p =>
    cases refusal with
    | some fault =>
      have hbegin : gate.begin .write s = (.error fault, s.withPending p) := by rw [begin, hgate]
      have hreply : gate.reply respond q s.pending = (.refused fault, p) := by rw [reply, hgate]
      rw [Gate.runOnce, bind_apply, hbegin, hreply]
      simp [Reply.outcome, Reply.events, State.withPending]
    | none =>
      have hbegin : gate.begin .write s = (.ok (), (s.withPending p).opened .write) := by rw [begin, hgate]
      have hreply : gate.reply respond q s.pending =
          (.ran (respond p.1 .write q).1, ((respond p.1 .write q).2, p.2)) := by rw [reply, hgate]
      have hrun : runQuery respond .write q ((s.withPending p).opened .write) =
          ((respond p.1 .write q).1, ((s.withPending p).opened .write).after respond (ran .write [q])) := rfl
      rw [Gate.runOnce, bind_apply, hbegin, hreply]
      simp only [bind_apply, attempt_apply, hrun]
      cases (respond p.1 .write q).1 with
      | ok rows =>
        simp only [bind_apply, commit_after respond (s := s.withPending p) hcommit]
        rfl
      | error fault =>
        simp only [bind_apply, rollback_after respond (s := s.withPending p) hrollback]
        rfl

end Gate

/-! ## The last attempt -/

namespace RetryPolicy

/-- Whether no attempt follows one with this outcome: it has rows, fails for good or uses up the budget. -/
def Final (p : RetryPolicy) (attempt : Nat) : Outcome → Prop
  | .ok _ => True
  | .error fault => retryable fault = false ∨ p.maxAttempts ≤ attempt

/-- The first attempt that no other follows. -/
structure IsLast (p : RetryPolicy) (replies : Nat → Reply) (n : Nat) : Prop where
  pos : 1 ≤ n
  final : p.Final n (replies n).outcome
  before : ∀ m, 1 ≤ m → m < n → ¬p.Final m (replies m).outcome

variable {p : RetryPolicy}

theorem retries_iff {attempt : Nat} {fault : DatabaseFault} :
    p.retries attempt fault = true ↔ ¬p.Final attempt (.error fault) := by
  simp [retries, Final, and_comm]

theorem final_of_le {attempt : Nat} (h : p.maxAttempts ≤ attempt) (outcome : Outcome) : p.Final attempt outcome := by
  cases outcome with
  | ok rows => trivial
  | error fault => exact .inr h

theorem IsLast.le {replies : Nat → Reply} {n : Nat} (h : p.IsLast replies n) : n ≤ max 1 p.maxAttempts :=
  Nat.le_of_not_lt fun hlt =>
    h.before _ (Nat.le_max_left 1 p.maxAttempts) hlt (final_of_le (Nat.le_max_right 1 p.maxAttempts) _)

/-- Replies determine which attempt is the last. -/
theorem IsLast.unique {replies : Nat → Reply} {n m : Nat} (h : p.IsLast replies n) (h' : p.IsLast replies m) :
    n = m := by
  rcases Nat.lt_trichotomy n m with hlt | heq | hlt
  · exact absurd h.final (h'.before n h.pos hlt)
  · exact heq
  · exact absurd h'.final (h.before m h'.pos hlt)

/-- The waits grow by the same span each time, up to the longest one. -/
theorem backoff_eq (p : RetryPolicy) (attempt : Nat) :
    p.backoff attempt = ⟨min (p.baseDelay.nanos * attempt) Duration.max.nanos⟩ := by
  unfold backoff Duration.scale
  split
  · rename_i h
    rw [Nat.min_eq_left h]
  · rename_i h
    rw [Nat.min_eq_right (Nat.le_of_not_le h)]

end RetryPolicy

namespace Client

variable (c : Client σ)

/-- Runs a query in a write transaction, beginning with the given attempt, at a database that opens transactions its
own way. -/
def writeThrough (gate : Gate σ) (attempt : Nat) (q : Query) : Action σ GraphError (List Row) := do
  match ← c.withSlot (asWriteSession (gate.runOnce c.respond .write q)) with
  | .ok rows => return rows
  | .error fault =>
    if h : c.options.retry.retries attempt fault = true then
      c.sleep (c.options.retry.backoff attempt)
      writeThrough gate (attempt + 1) q
    else throw (.writeExecution q.entityLabel q.text attempt fault)
termination_by c.options.retry.maxAttempts - attempt
decreasing_by
  have := RetryPolicy.lt_of_retries h
  omega

theorem writeThrough_arranged (attempt : Nat) (q : Query) :
    c.writeThrough arranged attempt q = c.writeFrom attempt q := by
  rw [writeThrough, writeFrom, Gate.runOnce_arranged]
  congr 1
  funext outcome
  cases outcome with
  | ok rows => rfl
  | error fault =>
    dsimp only
    split
    · rename_i hretries
      have := RetryPolicy.lt_of_retries hretries
      rw [writeThrough_arranged (attempt + 1) q]
    · rfl
termination_by c.options.retry.maxAttempts - attempt

/-- What a client notes of its waits. -/
def noted (waits : List Duration) : List Duration :=
  match c.sleeper with
  | .timer => []
  | .notes => waits

@[simp] theorem noted_nil : c.noted [] = [] := by
  unfold noted
  cases c.sleeper <;> rfl

/-- The state after attempts at a write and waits between them. -/
def tried (gate : Gate σ) (q : Query) (replies : Nat → Reply) (s : State σ) (attempts waits : Nat) : State σ :=
  { s.withPending (gate.left c.respond q s.pending attempts) with
    log := s.log ++ (List.range' 1 attempts).flatMap fun n => (replies n).events q
    sleeps := s.sleeps ++ c.noted ((List.range' 1 waits).map c.options.retry.backoff) }

theorem withSlot_runOnce (gate : Gate σ) (q : Query) {s : State σ} (hfree : s.taken < c.capacity)
    (hcommit : s.commitFailures = []) (hrollback : s.rollbackFailures = []) :
    c.withSlot (asWriteSession (gate.runOnce c.respond .write q)) s =
      (.ok (gate.reply c.respond q s.pending).1.outcome,
        { s.withPending (gate.reply c.respond q s.pending).2 with
          log := s.log ++ (gate.reply c.respond q s.pending).1.events q }) := by
  have hrun := gate.runOnce_eq c.respond q (s := { s with taken := s.taken + 1, openWrites := s.openWrites + 1 })
    hcommit hrollback
  rw [withSlot_apply _ _ hfree]
  simp only [asWriteSession, hrun]
  rfl

section Tried

variable {c} {gate : Gate σ} {q : Query} {s : State σ} {replies : Nat → Reply}
  (hplays : gate.Plays c.respond q s.pending replies)

include hplays in
/-- One more attempt has the next reply. -/
theorem tried_attempt (hfree : s.taken < c.capacity) (hcommit : s.commitFailures = [])
    (hrollback : s.rollbackFailures = []) (n waits : Nat) :
    c.withSlot (asWriteSession (gate.runOnce c.respond .write q)) (c.tried gate q replies s n waits) =
      (.ok (replies (n + 1)).outcome, c.tried gate q replies s (n + 1) waits) := by
  have hreply : (gate.reply c.respond q (c.tried gate q replies s n waits).pending).1 = replies (n + 1) := hplays n
  rw [c.withSlot_runOnce gate q (s := c.tried gate q replies s n waits) hfree hcommit hrollback, hreply]
  have hlog : (c.tried gate q replies s n waits).log ++ (replies (n + 1)).events q =
      s.log ++ (List.range' 1 (n + 1)).flatMap fun n => (replies n).events q := by
    rw [List.range'_1_concat, List.flatMap_append, List.flatMap_singleton, Nat.add_comm 1 n, ← List.append_assoc]
    rfl
  rw [hlog]
  rfl

/-- One more wait is longer by the base delay. -/
theorem tried_sleep (n waits : Nat) :
    (c.sleep (c.options.retry.backoff (waits + 1)) : Action σ GraphError Unit) (c.tried gate q replies s n waits) =
      (.ok (), c.tried gate q replies s n (waits + 1)) := by
  unfold sleep tried noted
  cases c.sleeper with
  | timer => rfl
  | notes =>
    simp only [List.range'_1_concat, List.map_append, List.map_cons, List.map_nil, List.append_assoc,
      Nat.add_comm 1 waits]

include hplays in
/-- Attempts go on from those that were not the last. -/
theorem writeThrough_tried (hfree : s.taken < c.capacity) (hcommit : s.commitFailures = [])
    (hrollback : s.rollbackFailures = []) (n : Nat)
    (hbefore : ∀ m, 1 ≤ m → m ≤ n → ¬c.options.retry.Final m (replies m).outcome) :
    ∃ last, c.options.retry.IsLast replies last ∧
      c.writeThrough gate (n + 1) q (c.tried gate q replies s n n) =
        ((replies last).outcome.mapError (.writeExecution q.entityLabel q.text last),
          c.tried gate q replies s last (last - 1)) := by
  have hattempt := tried_attempt hplays hfree hcommit hrollback n n
  have hlast (hfinal : c.options.retry.Final (n + 1) (replies (n + 1)).outcome) :
      c.options.retry.IsLast replies (n + 1) :=
    ⟨Nat.succ_pos n, hfinal, fun m hpos hlt => hbefore m hpos (Nat.le_of_lt_succ hlt)⟩
  rw [writeThrough, bind_apply, hattempt]
  cases houtcome : (replies (n + 1)).outcome with
  | ok rows => exact ⟨n + 1, hlast (by rw [houtcome]; trivial), by rw [houtcome]; rfl⟩
  | error fault =>
    dsimp only
    split
    · rename_i hretries
      have hbudget := RetryPolicy.lt_of_retries hretries
      have hnext := writeThrough_tried hfree hcommit hrollback (n + 1) fun m hpos hle => by
        rcases Nat.lt_or_eq_of_le hle with hlt | rfl
        · exact hbefore m hpos (Nat.le_of_lt_succ hlt)
        · rw [houtcome]
          exact RetryPolicy.retries_iff.1 hretries
      rw [bind_apply, tried_sleep]
      exact hnext
    · rename_i hretries
      have hfinal : c.options.retry.Final (n + 1) (replies (n + 1)).outcome := by
        rw [houtcome]
        exact Classical.not_not.1 (mt RetryPolicy.retries_iff.2 hretries)
      exact ⟨n + 1, hlast hfinal, by rw [houtcome]; rfl⟩
termination_by c.options.retry.maxAttempts - n

end Tried

/-- A write makes the attempts that its policy grants, whatever the database replies to them, and no others. It waits
between them and returns the reply to the last one. An attempt that was let in leaves its transaction in the log. -/
theorem write_follows_policy {c : Client σ} {gate : Gate σ} {q : Query} {s : State σ} {replies : Nat → Reply}
    (hplays : gate.Plays c.respond q s.pending replies) (hfree : s.taken < c.capacity)
    (hcommit : s.commitFailures = []) (hrollback : s.rollbackFailures = [])
    (hbudget : c.options.retry.maxAttempts < Nat.pow 2 32) :
    c.write q = c.writeThrough arranged 1 q ∧
      ∃ n, c.options.retry.IsLast replies n ∧ n ≤ max 1 c.options.retry.maxAttempts ∧ n < Nat.pow 2 32 ∧
        c.writeThrough gate 1 q s =
          ((replies n).outcome.mapError (.writeExecution q.entityLabel q.text n),
            { s.withPending (gate.left c.respond q s.pending n) with
              log := s.log ++ (List.range' 1 n).flatMap fun k => (replies k).events q
              sleeps := s.sleeps ++ c.noted ((List.range' 1 (n - 1)).map fun k =>
                ⟨min (c.options.retry.baseDelay.nanos * k) Duration.max.nanos⟩) }) := by
  have hstart : c.tried gate q replies s 0 0 = s := by
    simp [tried, Gate.left, State.withPending, State.pending]
  obtain ⟨n, hlast, hrun⟩ := writeThrough_tried hplays hfree hcommit hrollback 0 fun m hpos hle =>
    absurd hpos (Nat.not_le_of_lt (Nat.lt_succ_of_le hle))
  have hwaits : c.options.retry.backoff = fun k => ⟨min (c.options.retry.baseDelay.nanos * k) Duration.max.nanos⟩ :=
    funext c.options.retry.backoff_eq
  rw [hstart, tried, hwaits] at hrun
  have hcounter : n < Nat.pow 2 32 := Nat.lt_of_le_of_lt hlast.le (Nat.max_lt.2 ⟨by decide, hbudget⟩)
  exact ⟨(c.writeThrough_arranged 1 q).symm, n, hlast, hlast.le, hcounter, hrun⟩

/-- A deadlock, a refused connection, and then rows. -/
theorem write_follows_policy_third_time :
    let replies : Nat → Reply
      | 1 => .ran (.error ⟨.transient, "deadlock"⟩)
      | 2 => .refused ⟨.connection, "refused"⟩
      | _ => .ran (.ok [])
    let c : Client Nat := ⟨fun n _ _ => ((replies n).outcome, n + 1), default, .notes⟩
    let q := Query.raw "CREATE (n)"
    let s := State.initial 1
    ((Gate.planned replies).Plays c.respond q s.pending replies ∧ s.taken < c.capacity ∧
        c.options.retry.maxAttempts < Nat.pow 2 32) ∧
      (c.writeThrough (Gate.planned replies) 1 q s).1 = .ok [] ∧
      (c.writeThrough (Gate.planned replies) 1 q s).2.log =
        bracket .write [q] (.rolledBack .write) ++ bracket .write [q] (.committed .write) ∧
      (c.writeThrough (Gate.planned replies) 1 q s).2.sleeps = [.ofMillis 100, .ofMillis 200] := by
  intro replies c q s
  have hplays : (Gate.planned replies).Plays c.respond q s.pending replies := Gate.plays_planned replies q []
  have hfree : s.taken < c.capacity := by decide
  have hbudget : c.options.retry.maxAttempts < Nat.pow 2 32 := by decide
  have hthird : c.options.retry.IsLast replies 3 := by
    refine ⟨by decide, trivial, fun m hpos hlt => ?_⟩
    obtain rfl | rfl : m = 1 ∨ m = 2 := by omega
    · exact RetryPolicy.retries_iff.1 (by decide)
    · exact RetryPolicy.retries_iff.1 (by decide)
  obtain ⟨-, n, hlast, -, -, hrun⟩ := write_follows_policy hplays hfree rfl rfl hbudget
  obtain rfl := hlast.unique hthird
  rw [hrun]
  exact ⟨⟨hplays, hfree, hbudget⟩, rfl, rfl, by decide⟩

end Client
end EntityGraph.Session
