import EntityGraph.Proofs.Repository.Writes
import EntityGraph.Proofs.Session.Replay

/-!
# Writes that fail

A write that fails before its rows are there has committed nothing. Once its rows are there they are committed, and
the only thing that may still fail is to read the entity back.
-/
namespace EntityGraph.Repository

open Compile
open Cypher (Row Statement)
open Json (Value)
open Session

variable {σ : Type} (r : Repository σ)

/-- The part of a write that writes: the look-up of what it refers to, and the write itself. -/
def writeRows (plan : WritePlan) : Action σ GraphError (List Row) := do
  r.checkReferences plan.precheck
  r.client.write (plan.write.render .all)

/-- A write is the part that writes and what follows its rows. -/
theorem write_apply {caller : Caller} {input : Input} {mode : WriteMode} {plan : WritePlan}
    (hplan : r.compiler.write caller input mode = .ok plan) (s : State σ) :
    r.write caller input mode s = match r.writeRows plan s with
      | (.ok [], s') => (r.writeMiss caller plan.id mode >>= throw) s'
      | (.ok (_ :: _), s') => r.findById caller plan.id s'
      | (.error e, s') => (.error e, s') := by
  unfold write
  rw [hplan]
  show (do
    r.checkReferences plan.precheck
    let rows ← r.client.write (plan.write.render .all)
    if rows.isEmpty then throw (← r.writeMiss caller plan.id mode)
    r.findById caller plan.id : Action σ GraphError Value) s = _
  rw [writeRows, bind_apply, bind_apply]
  cases r.checkReferences plan.precheck s with
  | mk checked s₁ =>
    cases checked with
    | error e => rfl
    | ok _ =>
      simp only []
      rw [bind_apply]
      cases r.client.write (plan.write.render .all) s₁ with
      | mk written s₂ =>
        cases written with
        | error e => rfl
        | ok rows =>
          cases rows with
          | nil =>
            simp only [List.isEmpty_nil, if_true, bind_apply]
            cases r.writeMiss caller plan.id mode s₂ with
            | mk reason s₃ => cases reason <;> rfl
          | cons row rest => rfl

theorem checkReferences_tracks (precheck : Option Statement) :
    Tracks r.client.respond (r.checkReferences precheck) := by
  cases precheck with
  | none => exact .of_quiet (fun _ => rfl) fun _ => rfl
  | some s =>
    have hquiet (rows : List Row) (st : State σ) : ((do
        let missing ← missingReferences rows
        if missing.isEmpty then return () else throw (.referentialIntegrity missing) : Action σ GraphError Unit) st).2 =
        st := by
      cases missingReferences rows with
      | error e => rfl
      | ok missing => cases missing <;> rfl
    refine (r.client.read_tracks _).bind fun rows => .of_quiet (fun st => ?_) fun st => ?_
    · rw [hquiet]
    · rw [hquiet]

/-- The part of a write that writes commits one write transaction if it succeeds, and else none. -/
theorem writeRows_commits (plan : WritePlan) : Appends (r.writeRows plan) (Commits r.client.respond) := by
  refine (r.checkReferences_appends plan.precheck).bind_tracked (r.checkReferences_tracks plan.precheck)
    (fun _ => r.client.write_commits _) ?_ ?_
  · intro script e events hchecked p _
    rw [Replay.written_run_of_reads hchecked.mode]
    exact (List.append_nil _).symm
  · intro script _ result events events' hchecked hwrites p hp
    rw [Replay.run_append, hwrites _ (by rw [Replay.script_run, hp]), Replay.written_run_of_reads hchecked.mode]

theorem committedWrites_append_reads {respond : Responder σ} {script : σ} {result : Result (List Row)}
    {events reads : List Event} (h : Commits respond script result events) (hreads : ∀ e ∈ reads, e.mode = .read) :
    committedWrites respond script (events ++ reads) = result.toOption.toList := by
  rw [committedWrites, Replay.run_append, Replay.written_run_of_reads hreads, h _ rfl]
  exact List.nil_append _

variable {r}

/-- A write that was committed with its rows and could not be read back. -/
structure NotReadBack (r : Repository σ) (caller : Caller) (input : Input) (mode : WriteMode) (s : State σ)
    (e : GraphError) (events : List Event) (plan : WritePlan) (rows : List Row) : Prop where
  compiled : r.compiler.write caller input mode = .ok plan
  written : (r.writeRows plan s).1 = .ok rows
  nonempty : rows ≠ []
  /-- The rows were committed, and no other write was. -/
  committed : committedWrites r.client.respond s.script events = [rows]
  /-- From the state behind the commit, the look-up of the entity by its id fails as the write does. -/
  fails : r.findById caller plan.id (r.writeRows plan s).2 = (.error e, (r.write caller input mode s).2)

/-- A write that fails has committed no rows, unless all that failed was to read back what it had committed. -/
theorem failed_write_committed_nothing_or_was_not_read_back {caller : Caller} {input : Input} {mode : WriteMode}
    {s : State σ} {e : GraphError} (h : (r.write caller input mode s).1 = .error e) :
    ∃ events, (r.write caller input mode s).2.log = s.log ++ events ∧
      ((∀ rows ∈ committedWrites r.client.respond s.script events, rows = []) ∨
        ∃ plan rows, NotReadBack r caller input mode s e events plan rows) := by
  cases hplan : r.compiler.write caller input mode with
  | error e' =>
    have hrun : r.write caller input mode s = (.error e', s) := by
      unfold write
      rw [hplan]
      rfl
    exact ⟨[], by rw [hrun, List.append_nil], .inl (by simp [committedWrites])⟩
  | ok plan =>
    obtain ⟨events, hlog, hcommits⟩ := r.writeRows_commits plan s
    have hwrite := write_apply r hplan s
    cases hrows : r.writeRows plan s with
    | mk result s' =>
      rw [hrows] at hlog hcommits hwrite
      match result, hrows, hcommits, hwrite with
      | .error e', _, hcommits, hwrite =>
        refine ⟨events, by rw [hwrite, hlog], .inl ?_⟩
        rw [← List.append_nil events, committedWrites_append_reads hcommits (by simp)]
        simp [Except.toOption]
      | .ok [], _, hcommits, hwrite =>
        have hmiss : Appends (r.writeMiss caller plan.id mode >>= throw : Action σ GraphError Value)
            (fun _ _ events => Afterwards events) :=
          (r.writeMiss_appends caller plan.id mode).bind_quiet (fun _ _ => rfl) (fun _ _ _ h => h) fun _ _ _ _ h => h
        obtain ⟨reads, hlog', hreads⟩ := hmiss s'
        refine ⟨events ++ reads, by rw [hwrite, hlog', hlog, List.append_assoc], .inl ?_⟩
        rw [committedWrites_append_reads hcommits hreads.reads]
        simp [Except.toOption]
      | .ok (row :: rest), hrows, hcommits, hwrite =>
        obtain ⟨reads, hlog', hreads⟩ := r.findById_appends caller plan.id s'
        have hcommitted := committedWrites_append_reads hcommits hreads.reads
        rw [hwrite] at h
        refine ⟨events ++ reads, by rw [hwrite, hlog', hlog, List.append_assoc], .inr ⟨plan, row :: rest, ?_⟩⟩
        exact ⟨hplan, by rw [hrows], List.cons_ne_nil _ _, hcommitted, by rw [hrows, hwrite]; exact Prod.ext h rfl⟩

/-- Notes in a database that takes every write and answers no read. -/
def unreadableNotes : Repository (List Rule) :=
  ⟨⟨respond, default, .notes⟩, ⟨Schema.Descriptor.base "Note" "note", default⟩⟩

/-- The rules of that database. -/
def unreadable : List Rule :=
  [⟨"", some .write, none, .ok [.ofList [("id", .str "n1")]]⟩,
    ⟨"", some .read, none, .error ⟨.connection, "reset by peer"⟩⟩]

theorem unreadableNotes_fails :
    ∃ e, (unreadableNotes.write .anonymous (.ofList [("id", .str "n1")]) .patch (.initial unreadable)).1 =
      .error e := by
  have hfails : (unreadableNotes.write .anonymous (.ofList [("id", .str "n1")]) .patch
      (.initial unreadable)).1.toOption.isNone = true := by decide +kernel
  cases hrun : (unreadableNotes.write .anonymous (.ofList [("id", .str "n1")]) .patch (.initial unreadable)).1 with
  | error e => exact ⟨e, rfl⟩
  | ok v =>
    rw [hrun] at hfails
    cases hfails

/-- The note was patched, and the patch failed. -/
theorem patched_note_was_not_read_back :
    ∃ e, (unreadableNotes.write .anonymous (.ofList [("id", .str "n1")]) .patch (.initial unreadable)).1 = .error e ∧
      ∃ events,
        (unreadableNotes.write .anonymous (.ofList [("id", .str "n1")]) .patch (.initial unreadable)).2.log =
          [] ++ events ∧
        ((∀ rows ∈ committedWrites respond unreadable events, rows = []) ∨ ∃ plan rows,
          NotReadBack unreadableNotes .anonymous (.ofList [("id", .str "n1")]) .patch (.initial unreadable) e events
            plan rows) := by
  obtain ⟨e, he⟩ := unreadableNotes_fails
  exact ⟨e, he, failed_write_committed_nothing_or_was_not_read_back he⟩

/-- That a write failed does not mean that it committed nothing. -/
theorem not_failed_write_committed_nothing :
    ¬∀ (r : Repository (List Rule)) (caller : Caller) (input : Input) (mode : WriteMode) (s : State (List Rule))
        (e : GraphError), (r.write caller input mode s).1 = .error e →
      ∃ events, (r.write caller input mode s).2.log = s.log ++ events ∧
        ∀ rows ∈ committedWrites r.client.respond s.script events, rows = [] := by
  intro h
  obtain ⟨e, he⟩ := unreadableNotes_fails
  obtain ⟨events, hlog, hnothing⟩ := h _ _ _ _ _ _ he
  have hcommitted : (committedWrites respond unreadable (unreadableNotes.write .anonymous (.ofList [("id", .str "n1")])
      .patch (.initial unreadable)).2.log).map List.length = [1] := by decide +kernel
  rw [show (unreadableNotes.write .anonymous (.ofList [("id", .str "n1")]) .patch (.initial unreadable)).2.log = events
    from hlog] at hcommitted
  have hempty : ∀ n ∈ (committedWrites respond unreadable events).map List.length, n = 0 := by
    intro n hn
    obtain ⟨rows, hrows, rfl⟩ := List.mem_map.1 hn
    rw [hnothing rows hrows, List.length_nil]
  rw [hcommitted] at hempty
  exact absurd (hempty 1 List.mem_cons_self) (by decide)

end EntityGraph.Repository
