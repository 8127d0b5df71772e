import EntityGraph.Proofs.Graph.Effects
import EntityGraph.Proofs.Session.Replay

/-!
# Databases that hold a graph

What the client relies on when a database holds a graph: a statement that it answers in a read transaction returns its
rows and changes nothing; in a write transaction the graph becomes what the statement makes of it. The database may
fail at any time. The client hands on what the database answered, and whatever fails on the way is no denial.
-/
namespace EntityGraph.Session

open Cypher (Query Row Statement)
open EntityGraph.Graph

variable {σ ε α : Type}

/-- Truth values reach the caller as they are. -/
def Hands (env : Env) (row : Row) : Prop :=
  ∀ name b, env.lookup name = some (.bool b) → row.get? name = some (.bool b)

/-- A database that answers a statement from the graph that it holds. -/
structure Serves (respond : Responder σ) (db : σ → Database) (s : Statement) : Prop where
  reads : ∀ script rows, (respond script .read (s.render .all)).1 = .ok rows →
    ∃ envs, s.rows (db script) .all = some envs ∧ List.Forall₂ Hands envs rows
  unchanged : ∀ script, db (respond script .read (s.render .all)).2 = db script
  writes : ∀ script rows, (respond script .write (s.render .all)).1 = .ok rows →
    ∃ g envs, s.run (db script) = some (g, envs) ∧ List.Forall₂ Hands envs rows ∧
      db (respond script .write (s.render .all)).2 = { db script with graph := g }

/-! ## A database that serves -/

/-- The truth values of a row. -/
def handed (env : Env) : Row :=
  env.foldr (fun e row => match e.2 with
    | .bool b => row.insert e.1 (.bool b)
    | _ => row) ∅

theorem hands_handed (env : Env) : Hands env (handed env) := by
  intro name b h
  induction env with
  | nil => cases h
  | cons e rest ih =>
    rw [← Prod.mk.eta (p := e), Entries.lookup_cons_eq] at h
    rw [handed, List.foldr_cons, ← handed]
    split at h
    · rename_i hname
      obtain rfl := hname
      rw [Option.some.inj h]
      exact (Dict.get?_insert _ _ _ _).trans (if_pos rfl)
    · rename_i hname
      split
      · exact (Dict.get?_insert _ _ _ _).trans ((if_neg hname).trans (ih h))
      · exact ih h

/-- A database that knows some statements by their texts. What it does not know, or cannot run, fails. -/
def serving (db : PropertyGraph → Database) (statements : List Statement) : Responder PropertyGraph := fun g mode q =>
  let refused : Outcome × PropertyGraph := (.error ⟨.query, "refused"⟩, g)
  match statements.find? (fun s => (s.render .all).text = q.text) with
  | none => refused
  | some s =>
    match mode with
    | .read => ((s.rows (db g) .all).map (fun envs => (.ok (envs.map handed), g))).getD refused
    | .write => ((s.run (db g)).map (fun p => (.ok (p.2.map handed), p.1))).getD refused

theorem find?_text {statements : List Statement} (htexts : (statements.map (fun s => (s.render .all).text)).Nodup)
    {s : Statement} (hs : s ∈ statements) :
    statements.find? (fun t => (t.render .all).text = (s.render .all).text) = some s := by
  induction statements with
  | nil => cases hs
  | cons t rest ih =>
    rw [List.map_cons, List.nodup_cons] at htexts
    rw [List.find?_cons]
    rcases List.mem_cons.1 hs with rfl | hs
    · simp
    · have hne : ¬(t.render .all).text = (s.render .all).text := fun heq => htexts.1 (heq ▸ List.mem_map_of_mem hs)
      simpa [hne] using ih htexts.2 hs

/-- A database that knows statements with different texts serves each of them. -/
theorem serves_serving {db : PropertyGraph → Database} (hdb : ∀ g g', db g' = { db g with graph := g' })
    {statements : List Statement} (htexts : (statements.map (fun s => (s.render .all).text)).Nodup) {s : Statement}
    (hs : s ∈ statements) : Serves (serving db statements) db s where
  reads := by
    intro g rows h
    simp only [serving, find?_text htexts hs] at h
    cases hrows : s.rows (db g) .all with
    | none => simp [hrows] at h
    | some envs =>
      simp only [hrows, Option.map_some, Option.getD_some] at h
      cases h
      exact ⟨envs, rfl, List.forall₂_map_right_iff.2 (List.forall₂_same.2 fun env _ => hands_handed env)⟩
  unchanged := by
    intro g
    simp only [serving, find?_text htexts hs]
    cases s.rows (db g) .all <;> rfl
  writes := by
    intro g rows h
    simp only [serving, find?_text htexts hs] at h ⊢
    cases hrun : s.run (db g) with
    | none => simp [hrun] at h
    | some p =>
      simp only [hrun, Option.map_some, Option.getD_some] at h ⊢
      cases h
      exact ⟨p.1, p.2, rfl, List.forall₂_map_right_iff.2 (List.forall₂_same.2 fun env _ => hands_handed env), hdb g p.1⟩

/-! ## What the client hands on -/

namespace Client

variable (c : Client σ)

/-- What a transaction for one query returned is what the database answered, and the database went on from there. -/
theorem withSlot_eq_ok {mode : Mode} {q : Query} {body : Action σ DatabaseFault (List Row)}
    (happends : Appends body (Attempt c.respond mode q)) (htracks : Tracks c.respond body) {s s' : State σ}
    {rows : List Row} (h : c.withSlot body s = (.ok (.ok rows), s')) :
    (c.respond s.script mode q).1 = .ok rows ∧ s'.script = (c.respond s.script mode q).2 := by
  obtain ⟨events, hlog, hfits⟩ := c.withSlot_appends happends s
  have hscript := (c.withSlot_tracks htracks).script_eq hlog
  rw [h] at hfits hscript
  obtain ⟨rfl, hrows⟩ := hfits
  exact ⟨hrows, hscript⟩

theorem withSlot_eq_error {body : Action σ ε α} {s s' : State σ} {e : GraphError}
    (h : c.withSlot body s = (.error e, s')) : e = .poolTimeout c.options.acquireTimeout := by
  rcases bind_eq_error h with hacquire | ⟨_, s₁, -, h⟩
  · unfold acquire at hacquire
    split at hacquire
    · cases hacquire
    · cases hacquire
      rfl
  · rcases bind_eq_error h with hattempt | ⟨_, s₂, -, h⟩
    · cases hattempt
    · rcases bind_eq_error h with hrelease | ⟨_, s₃, -, h⟩
      · cases hrelease
      · cases h

/-- A read returns what the database answered. -/
theorem read_eq_ok {q : Query} {s s' : State σ} {rows : List Row} (h : c.read q s = (.ok rows, s')) :
    (c.respond s.script .read q).1 = .ok rows ∧ s'.script = (c.respond s.script .read q).2 := by
  obtain ⟨outcome, s₁, hslot, h⟩ := bind_eq_ok h
  cases outcome with
  | error fault => cases h
  | ok rows' =>
    cases h
    exact c.withSlot_eq_ok (runOnce_appends c.respond .read q) (.runOnce .read q) hslot

theorem read_ne_accessDenied {q : Query} {s s' : State σ} {label id : String} :
    c.read q s ≠ (.error (.accessDenied label id), s') := by
  intro h
  rcases bind_eq_error h with hslot | ⟨outcome, s₁, -, h⟩
  · cases c.withSlot_eq_error hslot
  · cases outcome <;> cases h

theorem sleep_ne_error (d : Duration) {s s' : State σ} {e : ε} : (c.sleep d : Action σ ε Unit) s ≠ (.error e, s') := by
  intro h
  unfold sleep at h
  split at h <;> cases h

/-- A write returns what the database answered to the last attempt. -/
theorem writeFrom_eq_ok {attempt : Nat} {q : Query} {s s' : State σ} {rows : List Row}
    (h : c.writeFrom attempt q s = (.ok rows, s')) :
    ∃ script, (c.respond script .write q).1 = .ok rows ∧ s'.script = (c.respond script .write q).2 := by
  rw [writeFrom] at h
  obtain ⟨outcome, s₁, hslot, h⟩ := bind_eq_ok h
  cases outcome with
  | ok rows' =>
    cases h
    exact ⟨s.script, c.withSlot_eq_ok (asWriteSession_appends (runOnce_appends c.respond .write q))
      (c.asWriteSession_tracks (.runOnce .write q)) hslot⟩
  | error fault =>
    dsimp only at h
    split at h
    · rename_i hretries
      have := RetryPolicy.lt_of_retries hretries
      obtain ⟨_, s₂, -, h⟩ := bind_eq_ok h
      exact writeFrom_eq_ok h
    · cases h
termination_by c.options.retry.maxAttempts - attempt

theorem writeFrom_ne_accessDenied {attempt : Nat} {q : Query} {s s' : State σ} {label id : String} :
    c.writeFrom attempt q s ≠ (.error (.accessDenied label id), s') := by
  intro h
  rw [writeFrom] at h
  rcases bind_eq_error h with hslot | ⟨outcome, s₁, -, h⟩
  · cases c.withSlot_eq_error hslot
  · cases outcome with
    | ok rows => cases h
    | error fault =>
      dsimp only at h
      split at h
      · rename_i hretries
        have := RetryPolicy.lt_of_retries hretries
        rcases bind_eq_error h with hsleep | ⟨_, s₂, -, h⟩
        · exact c.sleep_ne_error _ hsleep
        · exact writeFrom_ne_accessDenied h
      · cases h
termination_by c.options.retry.maxAttempts - attempt

end Client
end EntityGraph.Session
