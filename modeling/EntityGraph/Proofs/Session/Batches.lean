import EntityGraph.Proofs.Session.Brackets

/-!
# Batches

A batch is one write transaction: it is committed behind the last of its queries, or rolled back behind the first that
fails. The result tells which of the two happened, and where.
-/
namespace EntityGraph.Session

open Cypher (Query Row)

variable {σ : Type}

/-- How a batch ends that got a slot, and the state that it leaves. -/
inductive BatchEnds (respond : Responder σ) (s : State σ) (queries : List Query) :
    Except GraphError (List (List Row)) → State σ → Prop where
  /-- Its transaction was not opened. -/
  | refused {fault : DatabaseFault} {rest : List DatabaseFault} (hrefused : s.beginFailures = fault :: rest) :
      BatchEnds respond s queries (.error (.transactionRollback 0 fault)) { s with beginFailures := rest }
  /-- All queries had rows, and these are the result. -/
  | committed {results : List (List Row)} (hopened : s.beginFailures = [])
      (hrows : outcomes respond .write s.script queries = results.map .ok) :
      BatchEnds respond s queries (.ok results) (s.after respond (bracket .write queries (.committed .write)))
  /-- One query failed, and those before it had rows. -/
  | rolledBack {before after : List Query} {q : Query} {results : List (List Row)} {fault : DatabaseFault}
      (hopened : s.beginFailures = []) (hqueries : queries = before ++ q :: after)
      (hfirst : outcomes respond .write s.script (before ++ [q]) = results.map .ok ++ [.error fault]) :
      BatchEnds respond s queries (.error (.transactionRollback before.length fault))
        (s.after respond (bracket .write (before ++ [q]) (.rolledBack .write)))

/-- A slot and a write session around the batch are given back. -/
theorem BatchEnds.framed {respond : Responder σ} {s s' : State σ} {queries : List Query}
    {result : Except GraphError (List (List Row))}
    (h : BatchEnds respond { s with taken := s.taken + 1, openWrites := s.openWrites + 1 } queries result s') :
    BatchEnds respond s queries result { s' with taken := s'.taken - 1, openWrites := s'.openWrites - 1 } := by
  cases h with
  | refused hrefused => exact .refused hrefused
  | committed hopened hrows => exact .committed hopened hrows
  | rolledBack hopened hqueries hfirst => exact .rolledBack hopened hqueries hfirst

namespace Client

variable {c : Client σ}

/-- Queries run up to the first that fails, or to the end. -/
theorem runAll_cases (index : Nat) (queries : List Query) (s : State σ) :
    (∃ results : List (List Row), outcomes c.respond .write s.script queries = results.map .ok ∧
      c.runAll index queries s = (.ok results, s.after c.respond (ran .write queries))) ∨
    ∃ (before after : List Query) (q : Query) (results : List (List Row)) (fault : DatabaseFault),
      queries = before ++ q :: after ∧
      outcomes c.respond .write s.script (before ++ [q]) = results.map .ok ++ [.error fault] ∧
      c.runAll index queries s =
        (.error (index + before.length, fault), s.after c.respond (ran .write (before ++ [q]))) := by
  induction queries generalizing index s with
  | nil => exact .inl ⟨[], rfl, by rw [ran, List.map_nil, State.after_nil]; rfl⟩
  | cons q rest ih =>
    rw [runAll_cons]
    cases hanswer : (c.respond s.script .write q).1 with
    | error fault => exact .inr ⟨[], rest, q, [], fault, rfl, by simp [outcomes, hanswer], rfl⟩
    | ok rows =>
      rcases ih (index + 1) (s.after c.respond [.ran .write q]) with
        ⟨results, hrows, hrun⟩ | ⟨before, after, failed, results, fault, hqueries, hfirst, hrun⟩
      · refine .inl ⟨rows :: results, ?_, ?_⟩
        · rw [outcomes, hanswer, List.map_cons, ← hrows]
          rfl
        · rw [hrun, State.after_after]
          rfl
      · refine .inr ⟨q :: before, after, failed, rows :: results, fault, by rw [hqueries, List.cons_append], ?_, ?_⟩
        · rw [List.cons_append, outcomes, hanswer, List.map_cons, List.cons_append, ← hfirst]
          rfl
        · rw [hrun, State.after_after, List.length_cons, Nat.add_right_comm, Nat.add_assoc]
          rfl

/-- A batch without a pool around it. -/
theorem runBatch_ends (queries : List Query) {s : State σ} (hcommit : s.commitFailures = [])
    (hrollback : s.rollbackFailures = []) :
    BatchEnds c.respond s queries ((c.runBatch queries s).1.mapError fun f => .transactionRollback f.1 f.2)
      (c.runBatch queries s).2 := by
  cases hrefusals : s.beginFailures with
  | cons fault rest =>
    have hbegin : beginTransaction .write s = (.error fault, { s with beginFailures := rest }) := by
      rw [beginTransaction, hrefusals]
    rw [runBatch, bind_apply, attempt_apply, hbegin]
    exact .refused hrefusals
  | nil =>
    rw [runBatch, bind_apply, attempt_apply, beginTransaction_opened hrefusals]
    dsimp only
    rw [bind_apply, attempt_apply]
    rcases runAll_cases (c := c) 0 queries (s.opened .write) with
      ⟨results, hrows, hrun⟩ | ⟨before, after, q, results, fault, hqueries, hfirst, hrun⟩
    · rw [hrun]
      dsimp only
      rw [bind_apply, attempt_apply, commit_after c.respond hcommit]
      exact .committed hrefusals hrows
    · rw [hrun, Nat.zero_add]
      dsimp only
      rw [bind_apply, rollback_after c.respond hrollback]
      exact .rolledBack hrefusals hqueries hfirst

/-- A batch that gets a slot runs all its queries in one transaction that is committed, or those up to the first that
fails in one that is rolled back, or none. Without a slot nothing happens at all. -/
theorem batch_all_or_nothing {queries : List Query} {s : State σ} (hcommit : s.commitFailures = [])
    (hrollback : s.rollbackFailures = []) :
    (s.taken < c.capacity → BatchEnds c.respond s queries (c.batch queries s).1 (c.batch queries s).2) ∧
      (c.capacity ≤ s.taken → c.batch queries s = (.error (.poolTimeout c.options.acquireTimeout), s)) := by
  constructor
  · intro hfree
    have hends := (runBatch_ends (c := c) queries
      (s := { s with taken := s.taken + 1, openWrites := s.openWrites + 1 }) hcommit hrollback).framed
    rw [batch, bind_apply, withSlot_apply c _ hfree]
    simp only [asWriteSession]
    cases hrun : c.runBatch queries { s with taken := s.taken + 1, openWrites := s.openWrites + 1 } with
    | mk result s' =>
      rw [hrun] at hends
      cases result with
      | ok results => exact hends
      | error failure => exact hends
  · intro hfull
    have hslot : c.withSlot (asWriteSession (c.runBatch queries)) s =
        (.error (.poolTimeout c.options.acquireTimeout), s) := by
      simp [withSlot, bind_apply, acquire, Nat.not_lt_of_le hfull]
    rw [batch, bind_apply, hslot]

/-- The second of three queries fails. -/
theorem batch_all_or_nothing_second_fails :
    let c : Client Unit :=
      ⟨fun _ _ q => (if q.text = "FAIL" then .error ⟨.query, "violated"⟩ else .ok [], ()), default, .notes⟩
    let queries := [Query.raw "CREATE (a)", .raw "FAIL", .raw "CREATE (b)"]
    let s := State.initial ()
    (s.commitFailures = [] ∧ s.rollbackFailures = [] ∧ s.taken < c.capacity) ∧
      BatchEnds c.respond s queries (c.batch queries s).1 (c.batch queries s).2 := by
  intro c queries s
  have hfree : s.taken < c.capacity := by decide
  exact ⟨⟨rfl, rfl, hfree⟩, (batch_all_or_nothing rfl rfl).1 hfree⟩

/-- A batch that gets no slot ends in none of these ways. -/
theorem not_batch_all_or_nothing :
    ¬∀ (c : Client Unit) (s : State Unit) (queries : List Query), s.commitFailures = [] → s.rollbackFailures = [] →
      BatchEnds c.respond s queries (c.batch queries s).1 (c.batch queries s).2 := by
  intro h
  have hends := h ⟨fun _ _ _ => (.ok [], ()), ⟨1, .ofMillis 5000, default⟩, .notes⟩
    { State.initial () with taken := 1 } [.raw "RETURN 1"] rfl rfl
  cases hends

end Client
end EntityGraph.Session
