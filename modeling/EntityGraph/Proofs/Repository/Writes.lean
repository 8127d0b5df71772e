import EntityGraph.Proofs.Session.Traces
import EntityGraph.Proofs.Statements.Parameters
import EntityGraph.Repository.Basic
import EntityGraph.Session.Script

/-!
# The order of events in a write

A write looks up the nodes that it links to before it does anything else, and opens no write transaction unless all of
them were found. Only the write itself runs in write transactions, none but the last of them is committed, and whatever
follows the commit only reads.
-/
namespace EntityGraph

open Compile
open Cypher (Params Query Row Statement)
open Json (Value)
open Session

namespace Cypher.Statement

theorem params_render_all (s : Statement) : (s.render .all).params = s.params := by
  show (if s.isPaginated then windowParams s.params .all else s.params) = s.params
  split <;> rfl

end Cypher.Statement

/-! ## Rows of a look-up -/

namespace Compile.Row

/-- Whether a row of a look-up says that its node was found. -/
def found? (row : Row) : Option Bool := (row.get? "found").bind Value.bool?

/-- The reference that a row of a look-up is about. -/
def reference? (row : Row) : Option Reference := do
  let relationship ← (row.get? "relationship").bind Value.string?
  let label ← (row.get? "label").bind Value.string?
  let id ← (row.get? "id").bind Value.string?
  some ⟨relationship, label, id⟩

/-- A row that says whether its node was found, and which one it is if it was not. -/
def Telling (row : Row) : Prop := found? row = some true ∨ found? row = some false ∧ (reference? row).isSome = true

theorem text_eq_ok_iff {row : Row} {column text : String} :
    Row.text row column = .ok text ↔ (row.get? column).bind Value.string? = some text := by
  unfold Row.text
  cases (row.get? column).bind Value.string? <;> simp

theorem missing?_of_found {row : Row} (h : found? row = some true) : Row.missing? row = .ok none := by
  unfold Row.missing?
  rw [show (row.get? "found").bind Value.bool? = some true from h]

theorem found?_of_missing? {row : Row} (h : Row.missing? row = .ok none) : found? row = some true := by
  unfold Row.missing? at h
  split at h
  · cases h
  · assumption
  · obtain ⟨_, -, h⟩ := Result.bind_eq_ok_iff.1 h
    obtain ⟨_, -, h⟩ := Result.bind_eq_ok_iff.1 h
    obtain ⟨_, -, h⟩ := Result.bind_eq_ok_iff.1 h
    cases h

theorem missing?_of_reference {row : Row} {r : Reference} (h : found? row = some false)
    (hr : reference? row = some r) : Row.missing? row = .ok (some r) := by
  obtain ⟨relationship, hrelationship, hr⟩ := Option.bind_eq_some_iff.1 hr
  obtain ⟨label, hlabel, hr⟩ := Option.bind_eq_some_iff.1 hr
  obtain ⟨id, hid, hr⟩ := Option.bind_eq_some_iff.1 hr
  cases hr
  unfold Row.missing?
  rw [show (row.get? "found").bind Value.bool? = some false from h]
  exact Result.bind_eq_ok_iff.2 ⟨relationship, text_eq_ok_iff.2 hrelationship,
    Result.bind_eq_ok_iff.2 ⟨label, text_eq_ok_iff.2 hlabel,
      Result.bind_eq_ok_iff.2 ⟨id, text_eq_ok_iff.2 hid, rfl⟩⟩⟩

/-- The reference of a row that says that its node was not found. -/
def lacking? (row : Row) : Option Reference := if found? row = some false then reference? row else none

theorem missing?_of_telling {row : Row} (h : Telling row) : Row.missing? row = .ok (lacking? row) := by
  unfold lacking?
  rcases h with h | ⟨h, hr⟩
  · rw [missing?_of_found h, if_neg (by simp [h])]
  · obtain ⟨r, hr⟩ := Option.isSome_iff_exists.1 hr
    rw [missing?_of_reference h hr, if_pos h, hr]

end Compile.Row

namespace Compile

/-- Nothing is reported as missing only if every row says that its node was found. -/
theorem found_of_missingReferences {rows : List Row} (h : missingReferences rows = .ok []) :
    ∀ row ∈ rows, Row.found? row = some true := by
  induction rows with
  | nil => simp
  | cons row rest ih =>
    obtain ⟨missing, hmissing, h⟩ := Result.bind_eq_ok_iff.1 h
    obtain ⟨others, hothers, h⟩ := Result.bind_eq_ok_iff.1 h
    obtain ⟨hnone, rfl⟩ := List.append_eq_nil_iff.1 (Except.ok.inj h)
    rw [Option.toList_eq_nil_iff] at hnone
    exact List.forall_mem_cons.2 ⟨Row.found?_of_missing? (hnone ▸ hmissing), ih hothers⟩

theorem missingReferences_of_telling {rows : List Row} (h : ∀ row ∈ rows, Row.Telling row) :
    missingReferences rows = .ok (rows.filterMap Row.lacking?) := by
  induction rows with
  | nil => rfl
  | cons row rest ih =>
    obtain ⟨hrow, hrest⟩ := List.forall_mem_cons.1 h
    refine Result.bind_eq_ok_iff.2 ⟨_, Row.missing?_of_telling hrow, Result.bind_eq_ok_iff.2 ⟨_, ih hrest, ?_⟩⟩
    cases hlacking : Row.lacking? row <;> simp [hlacking]

end Compile

/-! ## The parts of a write -/

namespace Repository

variable {σ : Type} (r : Repository σ)

/-- What a look-up makes of its rows. -/
def verdict (rows : List Row) : Result Unit := do
  let missing ← missingReferences rows
  if missing.isEmpty then .ok () else .error (.referentialIntegrity missing)

/-- What the look-up of a write leaves, if there is one: a read, which the result judges. -/
def Checked (precheck : Option Statement) (script : σ) (result : Result Unit) (events : List Event) : Prop :=
  match precheck with
  | none => result = .ok () ∧ events = []
  | some s => ∃ read : Result (List Row), Attempt r.client.respond .read (s.render .all) script read events ∧
      result = read >>= verdict

theorem checkReferences_appends (precheck : Option Statement) :
    Appends (r.checkReferences precheck) (r.Checked precheck) := by
  cases precheck with
  | none => exact Appends.pure fun _ => ⟨rfl, rfl⟩
  | some s =>
    have hjudged (rows : List Row) (st : State σ) : (do
        let missing ← missingReferences rows
        if missing.isEmpty then return () else throw (.referentialIntegrity missing) : Action σ GraphError Unit) st =
        (verdict rows, st) := by
      unfold verdict
      cases missingReferences rows with
      | error e => rfl
      | ok missing => cases missing <;> rfl
    refine (r.client.read_appends (s.render .all)).bind_quiet ?_ ?_ ?_
    · intro rows st
      rw [hjudged]
    · intro script e events h
      exact ⟨.error e, h, rfl⟩
    · intro script rows st events h
      rw [hjudged]
      exact ⟨.ok rows, h, rfl⟩

/-- Events that only read, by queries that are neither a write nor its look-up. -/
structure Afterwards (events : List Event) : Prop where
  reads : ∀ e ∈ events, e.mode = .read
  others : ∀ p ∈ queries events, p.2.params.contains "id" = false ∧ p.2.params.contains "relatedRefs" = false

namespace Afterwards

theorem nil : Afterwards [] := ⟨by simp, by simp⟩

theorem append {events events' : List Event} (h : Afterwards events) (h' : Afterwards events') :
    Afterwards (events ++ events') := by
  refine ⟨List.forall_mem_append.2 ⟨h.reads, h'.reads⟩, ?_⟩
  rw [queries_append]
  exact List.forall_mem_append.2 ⟨h.others, h'.others⟩

/-- A look-up by the id that a search is for. -/
theorem of_attempt {s : Statement} {script : σ} {result : Result (List Row)} {events : List Event}
    (hid : s.params.contains "id" = false) (hrefs : s.params.contains "relatedRefs" = false)
    (h : Attempt r.client.respond .read (s.render .all) script result events) : Afterwards events := by
  refine ⟨h.mode, fun p hp => ?_⟩
  rw [h.eq_of_mem_queries p hp, s.params_render_all]
  exact ⟨hid, hrefs⟩

end Afterwards

theorem contains_params_findById {caller : Caller} {id : String} {s : Statement}
    (h : r.compiler.findById caller id = .ok s) :
    s.params.contains "id" = false ∧ s.params.contains "relatedRefs" = false := by
  obtain ⟨scope, -, rfl⟩ := r.compiler.findById_outline h
  constructor <;> cases scope <;> rfl

theorem contains_params_existsUnscoped {id : String} {s : Statement} (h : r.compiler.existsUnscoped id = .ok s) :
    s.params.contains "id" = false ∧ s.params.contains "relatedRefs" = false := by
  rw [r.compiler.existsUnscoped_outline h]
  exact ⟨rfl, rfl⟩

theorem miss_appends (caller : Caller) (id : String) :
    Appends (r.miss caller id) (fun _ _ events => Afterwards events) := by
  unfold miss
  split
  · exact Appends.pure fun _ => .nil
  · refine Appends.lift (fun _ _ _ => .nil) fun s hs => ?_
    obtain ⟨hid, hrefs⟩ := r.contains_params_existsUnscoped hs
    refine (r.client.read_appends (s.render .all)).bind_quiet (fun _ _ => rfl) ?_ ?_
    · intro script e events h
      exact .of_attempt r hid hrefs h
    · intro script rows st events h
      exact .of_attempt r hid hrefs h

theorem writeMiss_appends (caller : Caller) (id : String) (mode : WriteMode) :
    Appends (r.writeMiss caller id mode) (fun _ _ events => Afterwards events) := by
  cases mode with
  | create => exact Appends.pure fun _ => .nil
  | put => exact r.miss_appends caller id
  | patch => exact r.miss_appends caller id

theorem findById_appends (caller : Caller) (id : String) :
    Appends (r.findById caller id) (fun _ _ events => Afterwards events) := by
  refine Appends.lift (fun _ _ _ => .nil) fun s hs => ?_
  obtain ⟨hid, hrefs⟩ := r.contains_params_findById hs
  refine (r.client.read_appends (s.render .all)).bind (g := fun _ _ _ events => Afterwards events) (fun rows => ?_)
    (fun _ _ _ h => .of_attempt r hid hrefs h) fun _ _ _ _ _ _ h h' => .append (.of_attempt r hid hrefs h) h'
  cases rows with
  | cons row rest => exact Appends.of_log_eq (fun _ => rfl) fun _ => .nil
  | nil =>
    refine (r.miss_appends caller id).bind_quiet (fun _ _ => rfl) (fun _ _ _ h => h) fun _ _ _ _ h => h

/-- What a write leaves that compiled: its look-up and, unless this failed or found something missing, attempts at the
write and reads behind them. -/
inductive Written (plan : WritePlan) (script : σ) : Result Value → List Event → Prop
  | rejected {e : GraphError} {lookup : List Event} (h : r.Checked plan.precheck script (.error e) lookup) :
      Written plan script (.error e) lookup
  | attempted {written : Result (List Row)} {result : Result Value} {lookup writes reads : List Event}
      (h : r.Checked plan.precheck script (.ok ()) lookup)
      (hwrites : Attempts r.client.respond (plan.write.render .all) written writes) (hreads : Afterwards reads) :
      Written plan script result (lookup ++ (writes ++ reads))

theorem write_appends {caller : Caller} {input : Input} {mode : WriteMode} {plan : WritePlan}
    (hplan : r.compiler.write caller input mode = .ok plan) :
    Appends (r.write caller input mode) (r.Written plan) := by
  refine Appends.lift (fun _ e he => ?_) fun plan' hplan' => ?_
  · rw [hplan] at he
    cases he
  · obtain rfl := Except.ok.inj (hplan.symm.trans hplan')
    have hdone : Appends (do
        let rows ← r.client.write (plan.write.render .all)
        if rows.isEmpty then throw (← r.writeMiss caller plan.id mode)
        r.findById caller plan.id) (fun _ _ events => ∃ (written : Result (List Row)) (writes reads : List Event),
          Attempts r.client.respond (plan.write.render .all) written writes ∧ Afterwards reads ∧
            events = writes ++ reads) := by
      refine (r.client.write_appends _).bind (g := fun _ _ _ events => Afterwards events) (fun rows => ?_)
        (fun _ e events h => ⟨.error e, events, [], h, .nil, (List.append_nil _).symm⟩)
        fun _ _ rows _ events events' h h' => ⟨.ok rows, events, events', h, h', rfl⟩
      split
      · exact (r.writeMiss_appends caller plan.id mode).bind_quiet (fun _ _ => rfl) (fun _ _ _ h => h) fun _ _ _ _ h => h
      · exact r.findById_appends caller plan.id
    refine (r.checkReferences_appends plan.precheck).bind (fun _ => hdone) (fun _ _ _ h => .rejected h) ?_
    rintro script _ _ result lookup _ h ⟨written, writes, reads, hwrites, hreads, rfl⟩
    exact .attempted h hwrites hreads

/-! ## Look-up first -/

variable {r}

theorem verdict_eq_ok {rows : List Row} (h : verdict rows = .ok ()) : ∀ row ∈ rows, Row.found? row = some true := by
  obtain ⟨missing, hmissing, h⟩ := Result.bind_eq_ok_iff.1 h
  split at h
  · rename_i hempty
    rw [List.isEmpty_iff.1 hempty] at hmissing
    exact found_of_missingReferences hmissing
  · cases h

theorem verdict_of_telling {rows : List Row} (htelling : ∀ row ∈ rows, Row.Telling row)
    (hlacking : ∃ row ∈ rows, Row.found? row = some false) :
    verdict rows = .error (.referentialIntegrity (rows.filterMap Row.lacking?)) := by
  obtain ⟨row, hrow, hfound⟩ := hlacking
  have hne : (rows.filterMap Row.lacking?).isEmpty = false := by
    rcases htelling row hrow with htrue | ⟨-, hsome⟩
    · rw [hfound] at htrue
      cases htrue
    · obtain ⟨reference, hreference⟩ := Option.isSome_iff_exists.1 hsome
      have hmem : reference ∈ rows.filterMap Row.lacking? :=
        List.mem_filterMap.2 ⟨row, hrow, by rw [Row.lacking?, if_pos hfound, hreference]⟩
      simpa using List.ne_nil_of_mem hmem
  unfold verdict
  rw [missingReferences_of_telling htelling]
  show (if (rows.filterMap Row.lacking?).isEmpty = true then _ else _) = _
  rw [hne]
  rfl

theorem Checked.mode {precheck : Option Statement} {script : σ} {result : Result Unit} {events : List Event}
    (h : r.Checked precheck script result events) : ∀ e ∈ events, e.mode = .read := by
  cases precheck with
  | none =>
    obtain ⟨-, rfl⟩ := h
    simp
  | some s =>
    obtain ⟨read, hread, -⟩ := h
    exact hread.mode

theorem Checked.contains_id {precheck : Option Statement} {script : σ} {result : Result Unit} {events : List Event}
    (h : r.Checked precheck script result events)
    (hid : ∀ check, precheck = some check → check.params.contains "id" = false) :
    ∀ p ∈ queries events, p.2.params.contains "id" = false := by
  cases precheck with
  | none =>
    obtain ⟨-, rfl⟩ := h
    simp
  | some check =>
    obtain ⟨read, hread, -⟩ := h
    intro p hp
    rw [hread.eq_of_mem_queries p hp, check.params_render_all]
    exact hid check rfl

/-- A look-up that lets the write go on was committed, and every row says that its node was found. -/
theorem Checked.found {check : Statement} {script : σ} {events : List Event}
    (h : r.Checked (some check) script (.ok ()) events) :
    events = transaction .read (check.render .all) ∧ ∃ rows,
      (r.client.respond script .read (check.render .all)).1 = .ok rows ∧ ∀ row ∈ rows, Row.found? row = some true := by
  obtain ⟨read, hread, hverdict⟩ := h
  cases read with
  | error e => cases hverdict
  | ok rows =>
    obtain ⟨rfl, hrows⟩ := hread
    exact ⟨rfl, rows, hrows, verdict_eq_ok hverdict.symm⟩

/-- The parameters tell a write from its look-up. -/
theorem contains_params_write {caller : Caller} {input : Input} {mode : WriteMode} {plan : WritePlan}
    (hplan : r.compiler.write caller input mode = .ok plan) :
    plan.write.params.contains "id" = true ∧ ∀ check, plan.precheck = some check →
      check.params.contains "id" = false ∧ check.params.contains "relatedRefs" = true := by
  obtain ⟨scope, links, updates, -, -, -, -, hprecheck, hwrite⟩ := r.compiler.write_outline hplan
  refine ⟨?_, fun check hcheck => ?_⟩
  · rw [hwrite, Compiler.writeParams, Dict.contains_foldl (fun d u => Dict.contains_overlay d u.params "id"),
      Dict.contains_foldl (fun d l => Compiler.contains_withLink mode d l), Compiler.contains_withFields,
      Compiler.contains_withScope, Dict.contains_insert]
    simp
  · have houtline := r.compiler.relatedExistence_outline hprecheck
    rw [hcheck] at houtline
    split at houtline
    · cases houtline
    · cases houtline
      exact ⟨rfl, rfl⟩

/-- Of elements that exclude each other there is one at most. -/
theorem countP_le_one {α : Type} {p : α → Bool} {items : List α}
    (h : items.Pairwise (fun a b => p a = true → p b = false)) : items.countP p ≤ 1 := by
  induction items with
  | nil => exact Nat.zero_le 1
  | cons a rest ih =>
    obtain ⟨hhead, hrest⟩ := List.pairwise_cons.1 h
    by_cases ha : p a = true
    · have hzero : rest.countP p = 0 := by
        rw [List.countP_eq_zero]
        intro b hb
        simp [hhead b hb ha]
      rw [List.countP_cons_of_pos ha, hzero]
    · rw [List.countP_cons_of_neg ha]
      exact ih hrest

/-- The commit of a write transaction. -/
def commitsWrite (e : Event) : Bool := e.isCommit && decide (e.mode = .write)

/-- What the events of a write show, from what the database answered from and with the result of the write. -/
structure LooksUpFirst (r : Repository σ) (plan : WritePlan) (script : σ) (result : Result Value)
    (events : List Event) : Prop where
  /-- If there is a look-up, it is the first query to run. It runs in a read transaction and does not run again. -/
  first : ∀ check, plan.precheck = some check → queries events = [] ∨ ∃ rest,
    queries events = (.read, check.render .all) :: rest ∧ ∀ p ∈ rest, p.2 ≠ check.render .all
  /-- A write transaction is opened only behind a look-up that succeeded and found everything. -/
  found : .began .write ∈ events → ∀ check, plan.precheck = some check → ∃ rows rest,
    (r.client.respond script .read (check.render .all)).1 = .ok rows ∧
      events = transaction .read (check.render .all) ++ rest ∧ ∀ row ∈ rows, Row.found? row = some true
  /-- If the look-up succeeds with rows that lack something, these rows are the failure, and nothing is written. -/
  missing : ∀ check rows rest, plan.precheck = some check →
    (r.client.respond script .read (check.render .all)).1 = .ok rows →
    events = transaction .read (check.render .all) ++ rest → (∀ row ∈ rows, Row.Telling row) →
    (∃ row ∈ rows, Row.found? row = some false) →
      result = .error (.referentialIntegrity (rows.filterMap Row.lacking?)) ∧ .began .write ∉ events
  /-- The write runs in write transactions, and nothing else does. -/
  writes : ∀ mode q, .ran mode q ∈ events → (mode = .write ↔ q = plan.write.render .all)
  committed : events.countP commitsWrite ≤ 1
  /-- Behind the commit of the write there are only reads. -/
  reads : events.Pairwise (fun e e' => commitsWrite e = true → e'.mode = .read)

theorem commitsWrite_of_read {e : Event} (h : e.mode = .read) : commitsWrite e = false := by
  simp [commitsWrite, h]

/-- Behind the commit of a write there are only reads, wherever its look-up and what follows only read. -/
theorem pairwise_reads {lookup writes reads : List Event} (hlookup : ∀ e ∈ lookup, e.mode = .read)
    (hwrites : writes.Pairwise (fun e _ => e.isCommit = false)) (hreads : ∀ e ∈ reads, e.mode = .read) :
    (lookup ++ (writes ++ reads)).Pairwise (fun e e' => commitsWrite e = true → e'.mode = .read) := by
  have hquiet {events : List Event} (h : ∀ e ∈ events, e.mode = .read) :
      events.Pairwise (fun e e' => commitsWrite e = true → e'.mode = .read) :=
    List.pairwise_iff_forall_sublist.2 fun hsub _ => h _ (hsub.subset (by simp))
  refine List.pairwise_append.2 ⟨hquiet hlookup, List.pairwise_append.2 ⟨?_, hquiet hreads, ?_⟩, ?_⟩
  · refine hwrites.imp fun hcommit h => ?_
    simp [commitsWrite, hcommit] at h
  · exact fun _ _ e' he' _ => hreads e' he'
  · intro e he _ _ h
    rw [commitsWrite_of_read (hlookup e he)] at h
    cases h

/-- The events of a write in their order: the look-up, attempts at the write, and reads. -/
theorem Written.parts {plan : WritePlan} {script : σ} {result : Result Value} {events : List Event}
    (h : r.Written plan script result events) :
    ∃ (checked : Result Unit) (written : Result (List Row)) (lookup writes reads : List Event),
      r.Checked plan.precheck script checked lookup ∧
      Attempts r.client.respond (plan.write.render .all) written writes ∧ Afterwards reads ∧
      events = lookup ++ (writes ++ reads) ∧
      ∀ e, checked = .error e → result = .error e ∧ writes ++ reads = [] := by
  cases h with
  | @rejected e _ h =>
    refine ⟨.error e, .error e, _, [], [], h, .none, .nil, by simp, fun e' he => ?_⟩
    rw [Except.error.inj he]
    exact ⟨rfl, rfl⟩
  | attempted h hwrites hreads => exact ⟨.ok (), _, _, _, _, h, hwrites, hreads, rfl, fun e he => by cases he⟩

theorem Written.looksUpFirst {caller : Caller} {input : Input} {mode : WriteMode} {plan : WritePlan}
    (hplan : r.compiler.write caller input mode = .ok plan) {script : σ} {result : Result Value}
    {events : List Event} (h : r.Written plan script result events) : r.LooksUpFirst plan script result events := by
  obtain ⟨hid, hlookups⟩ := contains_params_write hplan
  obtain ⟨checked, written, lookup, writes, reads, hchecked, hwrites, hreads, rfl, hstops⟩ := h.parts
  have hwrite : (plan.write.render .all).params.contains "id" = true := by rw [plan.write.params_render_all, hid]
  have hordered := pairwise_reads hchecked.mode hwrites.committed_last hreads.reads
  -- Nothing of the look-up or of the reads belongs to a write transaction.
  have hreading {e : Event} (he : e ∈ lookup ∨ e ∈ reads) : e.mode = .read := he.elim (hchecked.mode e) (hreads.reads e)
  constructor
  case first =>
    intro check hcheck
    obtain ⟨hcheckId, hrefs⟩ := hlookups check hcheck
    rw [hcheck] at hchecked
    have hothers : ∀ p ∈ queries (writes ++ reads), p.2 ≠ check.render .all := by
      rw [queries_append]
      refine List.forall_mem_append.2 ⟨fun p hp heq => ?_, fun p hp heq => ?_⟩
      · rw [hwrites.eq_of_mem_queries p hp] at heq
        rw [show plan.write.render .all = check.render .all from heq, check.params_render_all, hcheckId] at hwrite
        cases hwrite
      · obtain ⟨-, hno⟩ := hreads.others p hp
        rw [heq, check.params_render_all, hrefs] at hno
        cases hno
    cases checked with
    | ok _ =>
      obtain ⟨rfl, -⟩ := hchecked.found
      exact .inr ⟨_, by rw [queries_append]; rfl, hothers⟩
    | error e =>
      obtain ⟨-, hnothing⟩ := hstops e rfl
      obtain ⟨read, hread, -⟩ := hchecked
      rw [hnothing, List.append_nil]
      exact hread.queries_eq.imp id fun hone => ⟨[], hone, by simp⟩
  case found =>
    intro hbegan check hcheck
    rw [hcheck] at hchecked
    cases checked with
    | ok _ =>
      obtain ⟨hlookup, rows, hrows, hfound⟩ := hchecked.found
      exact ⟨rows, _, hrows, by rw [hlookup], hfound⟩
    | error e =>
      obtain ⟨-, hnothing⟩ := hstops e rfl
      rw [hnothing, List.append_nil] at hbegan
      cases hchecked.mode _ hbegan
  case missing =>
    intro check rows rest hcheck hrows hevents htelling hlacking
    rw [hcheck] at hchecked
    cases checked with
    | ok _ =>
      obtain ⟨-, rows', hrows', hfound⟩ := hchecked.found
      obtain rfl := Except.ok.inj (hrows.symm.trans hrows')
      obtain ⟨row, hrow, hlacks⟩ := hlacking
      rw [hfound row hrow] at hlacks
      cases hlacks
    | error e =>
      obtain ⟨hresult, hnothing⟩ := hstops e rfl
      rw [hnothing, List.append_nil] at hevents ⊢
      obtain ⟨read, hread, hverdict⟩ := hchecked
      cases read with
      | error e' =>
        have hcommitted : Event.committed .read ∈ lookup := by simp [hevents, transaction]
        cases Aborted.not_committed hread _ hcommitted
      | ok rows' =>
        obtain rfl := Except.ok.inj (hrows.symm.trans hread.2)
        have hmissing := hverdict.trans (verdict_of_telling htelling hlacking)
        refine ⟨hresult.trans (congrArg Except.error (Except.error.inj hmissing)), fun hbegan => ?_⟩
        cases hreading (.inl hbegan)
  case writes =>
    intro mode q hran
    have hreadOnly (hran : .ran mode q ∈ lookup ∨ .ran mode q ∈ reads) (hq : q.params.contains "id" = false) :
        mode = .write ↔ q = plan.write.render .all := by
      have hmode : mode = .read := hreading hran
      refine iff_of_false (by simp [hmode]) fun hsame => ?_
      rw [hsame, hwrite] at hq
      cases hq
    rcases List.mem_append.1 hran with hran | hran
    · exact hreadOnly (.inl hran) (hchecked.contains_id (fun check hcheck => (hlookups check hcheck).1) _
        (mem_queries.2 hran))
    rcases List.mem_append.1 hran with hran | hran
    · obtain ⟨rfl, rfl⟩ := Prod.mk.inj (hwrites.eq_of_mem_queries _ (mem_queries.2 hran))
      exact iff_of_true rfl rfl
    · exact hreadOnly (.inr hran) (hreads.others _ (mem_queries.2 hran)).1
  case committed =>
    refine countP_le_one (hordered.imp fun himp he => ?_)
    exact commitsWrite_of_read (himp he)
  case reads => exact hordered

/-- A write that does not compile leaves nothing, and one that does looks up first what it links to. -/
theorem write_looks_up_first (r : Repository σ) (caller : Caller) (input : Input) (mode : WriteMode) (s : State σ) :
    ∃ events, (r.write caller input mode s).2.log = s.log ++ events ∧
      (∀ e, r.compiler.write caller input mode = .error e →
        events = [] ∧ (r.write caller input mode s).1 = .error e) ∧
      ∀ plan, r.compiler.write caller input mode = .ok plan →
        r.LooksUpFirst plan s.script (r.write caller input mode s).1 events := by
  cases hcompiled : r.compiler.write caller input mode with
  | error e =>
    have hrun : r.write caller input mode s = (.error e, s) := by
      unfold write
      rw [hcompiled]
      rfl
    rw [hrun]
    refine ⟨[], (List.append_nil _).symm, fun e' he => ?_, fun plan hplan => by cases hplan⟩
    rw [Except.error.inj he]
    exact ⟨rfl, rfl⟩
  | ok plan =>
    obtain ⟨events, hlog, hwritten⟩ := r.write_appends hcompiled s
    refine ⟨events, hlog, fun e he => (by cases he), fun plan' hplan' => ?_⟩
    rw [← Except.ok.inj hplan']
    exact hwritten.looksUpFirst hcompiled

/-- A note that links to a missing tag: the look-up is all that happens. -/
example :
    let notes : Compiler := ⟨(Schema.Descriptor.base "Note" "note").withRelationship "tags"
      ⟨"TAGGED", .outgoing, .many, false, "Tag", [], none, none⟩, default⟩
    let missing : Row := .ofList [("found", .bool false), ("id", .str "t1"), ("label", .str "Tag"),
      ("relationship", .str "tags")]
    let run := Repository.write ⟨⟨Session.respond, default, .notes⟩, notes⟩ .anonymous
      (.ofList [("id", .str "n1"), ("tags", .arr [.str "t1"])]) .put (.initial [⟨"UNWIND", none, none, .ok [missing]⟩])
    run.2.log.map Event.mode = [.read, .read, .read] := by decide +kernel

end Repository
end EntityGraph
