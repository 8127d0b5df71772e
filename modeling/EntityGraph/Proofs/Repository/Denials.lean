import EntityGraph.Proofs.Repository.Failures
import EntityGraph.Proofs.Session.Answers
import EntityGraph.Proofs.Writing.Misses

/-!
# Denials

A miss is a denial if the look without the scope finds the id. After an update or a deletion without rows that means
what it says, since their openings match the entity and its tenant alone. A look-up also matches the required edges, so
it may deny an entity to its own tenant: one that a required edge is missing of.
-/
namespace EntityGraph

open Compile EntityGraph.Graph
open Cypher (Builder Statement)
open Session

theorem Cypher.Builder.build_ne_accessDenied (b : Builder) {label id : String} :
    b.build ≠ .error (.accessDenied label id) := by
  intro h
  unfold build at h
  split at h
  · cases h
  · split at h <;> cases h

namespace Compile.Compiler

variable (c : Compiler) {caller : Caller} {scope : Option String} {id : String}

theorem findById_ne_accessDenied (hscope : c.scope caller = .ok scope) {label id' : String} :
    c.findById caller id ≠ .error (.accessDenied label id') := by
  unfold findById openSource
  rw [hscope]
  cases scope <;> exact Builder.build_ne_accessDenied _

theorem delete_ne_accessDenied (hscope : c.scope caller = .ok scope) {label id' : String} :
    c.delete caller id ≠ .error (.accessDenied label id') := by
  unfold delete matchById
  rw [hscope]
  cases scope <;> (dsimp only [Bind.bind, Except.bind]; exact Builder.build_ne_accessDenied _)

theorem existsUnscoped_ne_accessDenied {label id' : String} :
    c.existsUnscoped id ≠ .error (.accessDenied label id') := by
  unfold existsUnscoped
  exact Builder.build_ne_accessDenied _

/-- An id that is taken, and by no entity that belongs to a tenant. -/
structure Foreign (db : Database) (company id : String) : Prop where
  taken : ∃ v, c.HasId db id v
  apart : ∀ v, c.HasId db id v → ∀ a tenant, ¬c.Belongs db company v a tenant

/-- An id that is taken, and by no entity that belongs to a tenant unless a required edge of that entity is missing. -/
structure Unreadable (db : Database) (company id : String) : Prop where
  taken : ∃ v, c.HasId db id v
  lacking : ∀ v, c.HasId db id v → ∀ a tenant, c.Belongs db company v a tenant → ¬c.HasRequiredEdges db v

theorem Foreign.unreadable {c : Compiler} {db : Database} {company id : String} (h : c.Foreign db company id) :
    c.Unreadable db company id where
  taken := h.taken
  lacking := fun v hv a tenant hbelongs => absurd hbelongs (h.apart v hv a tenant)

end Compile.Compiler

namespace Repository

variable {σ α : Type} {r : Repository σ} {db : σ → Database} {caller : Caller} {company id label id' : String}
  {s s' : State σ}

/-- What look-ups within a tenant rely on: no name is used twice, and the database compares integers as numbers and
answers the two look-ups from the graph that it holds. -/
structure LooksUp (r : Repository σ) (db : σ → Database) (caller : Caller) (company id : String) : Prop where
  scope : r.compiler.scope caller = .ok (some company)
  result : r.compiler.descriptor.returnClause = none
  names : r.compiler.lookupNames.Nodup
  ints : ∀ script, (db script).ComparesInts
  finds : ∀ st, r.compiler.findById caller id = .ok st → Serves r.client.respond db st
  looks : ∀ st, r.compiler.existsUnscoped id = .ok st → Serves r.client.respond db st

theorem get?_exists_of_saysExists {rows : List Cypher.Row} (h : saysExists rows = true) :
    ∃ row rest, rows = row :: rest ∧ row.get? "exists" = some (.bool true) := by
  cases rows with
  | nil => cases h
  | cons row rest =>
    refine ⟨row, rest, rfl, ?_⟩
    rw [saysExists, List.head?_cons, Option.bind_some] at h
    cases hget : row.get? "exists" with
    | none => simp [hget] at h
    | some v =>
      cases v with
      | bool b => simpa [hget, Json.Value.bool?] using h
      | _ => simp [hget, Json.Value.bool?] at h

/-- A miss is reported as a denial only if some entity has the id. -/
theorem LooksUp.taken_of_miss (h : LooksUp r db caller company id)
    (hmiss : r.miss caller id s = (.ok (.accessDenied label id'), s')) :
    db s'.script = db s.script ∧ ∃ v, r.compiler.HasId (db s.script) id v := by
  unfold miss at hmiss
  split at hmiss
  · cases hmiss
  · obtain ⟨st, s₁, hlift, hmiss⟩ := bind_eq_ok hmiss
    rw [lift_apply] at hlift
    obtain ⟨hst, rfl⟩ := Prod.mk.inj hlift
    obtain ⟨rows, s₂, hread, hmiss⟩ := bind_eq_ok hmiss
    split at hmiss
    · rename_i hsays
      cases hmiss
      obtain ⟨hrows, hscript⟩ := r.client.read_eq_ok hread
      have hserves := h.looks st hst
      refine ⟨by rw [hscript, hserves.unchanged], ?_⟩
      obtain ⟨b, henvs, hb⟩ := r.compiler.rows_existsUnscoped hst (h.ints s.script)
      obtain ⟨envs, henvs', hands⟩ := hserves.reads s.script rows hrows
      obtain rfl := Option.some.inj (henvs.symm.trans henvs')
      obtain ⟨row, rest, rfl, hget⟩ := get?_exists_of_saysExists hsays
      have hrow := (List.forall₂_cons.1 hands).1 "exists" b rfl
      rw [hget] at hrow
      cases hrow
      exact hb.1 rfl
    · cases hmiss

/-- A miss that fails is no denial. -/
theorem miss_ne_accessDenied : r.miss caller id s ≠ (.error (.accessDenied label id'), s') := by
  intro h
  unfold miss at h
  split at h
  · cases h
  · rcases bind_eq_error h with hlift | ⟨st, s₁, -, h⟩
    · rw [lift_apply] at hlift
      exact r.compiler.existsUnscoped_ne_accessDenied (Prod.mk.inj hlift).1
    · rcases bind_eq_error h with hread | ⟨rows, s₂, -, h⟩
      · exact r.client.read_ne_accessDenied hread
      · cases h

/-- A denial comes from a miss. -/
theorem miss_eq_of_throw
    (h : (r.miss caller id >>= throw : Action σ GraphError α) s = (.error (.accessDenied label id'), s')) :
    r.miss caller id s = (.ok (.accessDenied label id'), s') := by
  rcases bind_eq_error h with hmiss | ⟨e, s₁, hmiss, h⟩
  · exact absurd hmiss miss_ne_accessDenied
  · cases h
    exact hmiss

theorem entityOf_ne_accessDenied {d : Schema.Descriptor} {row : Cypher.Row} :
    entityOf d row ≠ .error (.accessDenied label id') := by
  intro h
  unfold entityOf at h
  split at h <;> cases h

/-- What a look-up found before its denial: nothing, and then a miss that was a denial. -/
theorem read_of_findById_denied (hscope : r.compiler.scope caller = .ok (some company))
    (hrun : r.findById caller id s = (.error (.accessDenied label id'), s')) :
    ∃ st s₁, r.compiler.findById caller id = .ok st ∧ r.client.read (st.render .all) s = (.ok [], s₁) ∧
      r.miss caller id s₁ = (.ok (.accessDenied label id'), s') := by
  unfold findById at hrun
  rcases bind_eq_error hrun with hlift | ⟨st, s₁, hlift, hrun⟩ <;> rw [lift_apply] at hlift
  · exact absurd (Prod.mk.inj hlift).1 (r.compiler.findById_ne_accessDenied hscope)
  · obtain ⟨hst, rfl⟩ := Prod.mk.inj hlift
    rcases bind_eq_error hrun with hread | ⟨rows, s₂, hread, hrun⟩
    · exact absurd hread r.client.read_ne_accessDenied
    · cases rows with
      | nil => exact ⟨st, s₂, hst, hread, miss_eq_of_throw hrun⟩
      | cons row rest =>
        have hentity : (liftM (entityOf r.compiler.descriptor row) : Action σ GraphError Json.Value) s₂ =
            (.error (.accessDenied label id'), s') := hrun
        rw [lift_apply] at hentity
        exact absurd (Prod.mk.inj hentity).1 entityOf_ne_accessDenied

/-- A look-up that is denied has changed nothing and found nothing. -/
theorem LooksUp.unreadable_of_findById (h : LooksUp r db caller company id)
    (hrun : r.findById caller id s = (.error (.accessDenied label id'), s')) :
    db s'.script = db s.script ∧ r.compiler.Unreadable (db s.script) company id := by
  obtain ⟨st, s₁, hst, hread, hmiss⟩ := read_of_findById_denied h.scope hrun
  obtain ⟨hrows, hscript⟩ := r.client.read_eq_ok hread
  have hserves := h.finds st hst
  have hsame : db s₁.script = db s.script := by rw [hscript, hserves.unchanged]
  obtain ⟨hdb, htaken⟩ := h.taken_of_miss hmiss
  rw [hsame] at hdb htaken
  obtain ⟨envs, henvs, hands⟩ := hserves.reads s.script [] hrows
  obtain rfl := List.forall₂_nil_right_iff.1 hands
  refine ⟨hdb, htaken, fun v hv a tenant hbelongs hedges => ?_⟩
  obtain ⟨rows, hfound, hsome⟩ := r.compiler.rows_findById_ne_nil hst h.scope h.result h.names hv hbelongs hedges
  exact hsome (Option.some.inj (hfound.symm.trans henvs))

/-- A write without rows ran the statement on some graph, and its graph is the one that the database holds now. -/
theorem run_of_write_eq_ok {st : Statement} (hserves : Serves r.client.respond db st)
    (hwrite : r.client.write (st.render .all) s = (.ok [], s')) :
    ∃ d g, st.run d = some (g, []) ∧ db s'.script = { d with graph := g } := by
  obtain ⟨script, hrows, hscript⟩ := r.client.writeFrom_eq_ok hwrite
  obtain ⟨g, envs, hrun, hands, hdb⟩ := hserves.writes script [] hrows
  obtain rfl := List.forall₂_nil_right_iff.1 hands
  exact ⟨db script, g, hrun, by rw [hscript, hdb]⟩

theorem LooksUp.foreign_of_miss (h : LooksUp r db caller company id)
    (hapart : ∀ v, r.compiler.HasId (db s.script) id v →
      ∀ a tenant, ¬r.compiler.Belongs (db s.script) company v a tenant)
    (hmiss : r.miss caller id s = (.ok (.accessDenied label id'), s')) :
    r.compiler.Foreign (db s'.script) company id := by
  obtain ⟨hdb, htaken⟩ := h.taken_of_miss hmiss
  rw [hdb]
  exact ⟨htaken, hapart⟩

theorem LooksUp.node_ne_tenantVar (h : LooksUp r db caller company id) : r.compiler.node ≠ tenantVar := by
  simpa using (List.nodup_append'.1 h.names).1

/-- The miss of a write. -/
theorem LooksUp.foreign_of_write {input : Input} {mode : WriteMode} {plan : WritePlan}
    (h : LooksUp r db caller company plan.id) (hplan : r.compiler.write caller input mode = .ok plan)
    (hserves : Serves r.client.respond db plan.write) {s₁ : State σ} (hpart : r.writeRows plan s = (.ok [], s₁))
    (hrun : r.write caller input mode s = (.error (.accessDenied label id'), s')) :
    r.compiler.Foreign (db s'.script) company plan.id := by
  rw [write_apply r hplan s, hpart] at hrun
  have hmode : mode ≠ .create := by
    rintro rfl
    cases hrun
  have hmiss : (r.miss caller plan.id >>= throw : Action σ GraphError Json.Value) s₁ =
      (.error (.accessDenied label id'), s') := by
    cases mode with
    | create => exact absurd rfl hmode
    | put => exact hrun
    | patch => exact hrun
  obtain ⟨_, s₀, -, hwrite⟩ := bind_eq_ok hpart
  obtain ⟨d, g, hd, hdb⟩ := run_of_write_eq_ok hserves hwrite
  obtain ⟨rfl, hapart⟩ := r.compiler.not_belongs_of_write hplan hmode h.scope h.node_ne_tenantVar hd
  exact h.foreign_of_miss (by rw [hdb]; exact hapart) (miss_eq_of_throw hmiss)

/-- The miss of a deletion. -/
theorem LooksUp.foreign_of_delete (h : LooksUp r db caller company id)
    (hserves : ∀ st, r.compiler.delete caller id = .ok st → Serves r.client.respond db st)
    (hrun : r.delete caller id s = (.error (.accessDenied label id'), s')) :
    r.compiler.Foreign (db s'.script) company id := by
  unfold delete at hrun
  rcases bind_eq_error hrun with hlift | ⟨st, s₁, hlift, hrun⟩ <;> rw [lift_apply] at hlift
  · exact absurd (Prod.mk.inj hlift).1 (r.compiler.delete_ne_accessDenied h.scope)
  · obtain ⟨hst, rfl⟩ := Prod.mk.inj hlift
    rcases bind_eq_error hrun with hwrite | ⟨rows, s₂, hwrite, hrun⟩
    · exact absurd hwrite r.client.writeFrom_ne_accessDenied
    · cases rows with
      | cons row rest => cases hrun
      | nil =>
        obtain ⟨d, g, hd, hdb⟩ := run_of_write_eq_ok (hserves st hst) hwrite
        obtain ⟨rfl, hapart⟩ := r.compiler.not_belongs_of_delete hst h.scope h.node_ne_tenantVar hd
        have hmiss : (r.miss caller id >>= throw : Action σ GraphError Unit) s₂ =
            (.error (.accessDenied label id'), s') := hrun
        exact h.foreign_of_miss (by rw [hdb]; exact hapart) (miss_eq_of_throw hmiss)

/-- What a denial says: the id is taken, and a write or a deletion that met no row has met none because no entity of
the caller's tenant has it. A look-up also denies an entity of the tenant that a required edge is missing of, and so
does the look-up that reads a write back. -/
theorem denied_is_foreign_or_lacks_required_edge (h : LooksUp r db caller company id) (s : State σ) :
    (∀ label id', (r.findById caller id s).1 = .error (.accessDenied label id') →
      db (r.findById caller id s).2.script = db s.script ∧ r.compiler.Unreadable (db s.script) company id) ∧
    (∀ input mode plan rows label id', r.compiler.write caller input mode = .ok plan → plan.id = id →
      Serves r.client.respond db plan.write → (r.writeRows plan s).1 = .ok rows →
      (r.write caller input mode s).1 = .error (.accessDenied label id') →
      (rows = [] → r.compiler.Foreign (db (r.write caller input mode s).2.script) company id) ∧
        r.compiler.Unreadable (db (r.write caller input mode s).2.script) company id) ∧
    (∀ label id', (∀ st, r.compiler.delete caller id = .ok st → Serves r.client.respond db st) →
      (r.delete caller id s).1 = .error (.accessDenied label id') →
      r.compiler.Foreign (db (r.delete caller id s).2.script) company id) := by
  refine ⟨fun label id' hdenied => ?_, ?_, fun label id' hserves hdenied => ?_⟩
  · exact h.unreadable_of_findById (Prod.ext hdenied rfl)
  · rintro input mode plan rows label id' hplan rfl hserves hrows hdenied
    have hpart : r.writeRows plan s = (.ok rows, (r.writeRows plan s).2) := Prod.ext hrows rfl
    have hrun : r.write caller input mode s = (.error (.accessDenied label id'), (r.write caller input mode s).2) :=
      Prod.ext hdenied rfl
    cases rows with
    | nil =>
      have hforeign := h.foreign_of_write hplan hserves hpart hrun
      exact ⟨fun _ => hforeign, hforeign.unreadable⟩
    | cons row rest =>
      rw [write_apply r hplan s, hpart] at hrun ⊢
      obtain ⟨hdb, hunreadable⟩ := h.unreadable_of_findById hrun
      refine ⟨fun hnil => absurd hnil (List.cons_ne_nil _ _), ?_⟩
      rwa [hdb]
  · exact h.foreign_of_delete hserves (Prod.ext hdenied rfl)

/-- A graph in a database that compares integers. -/
def counted (g : PropertyGraph) : Database :=
  { Database.ofGraph g with
    greater := fun u v => match u, v with
      | .int m, .int n => some (decide (n < m))
      | _, _ => none }

/-- The statements that look an entity up by its id, patch it or delete it. -/
def statementsFor (c : Compiler) (caller : Caller) (id : String) : List Statement :=
  (c.findById caller id).toOption.toList ++ (c.existsUnscoped id).toOption.toList ++
    ((c.write caller (.ofList [("id", .str id)]) .patch).toOption.map WritePlan.write).toList ++
      (c.delete caller id).toOption.toList

/-- Tags in a database that knows the statements about one of them. -/
def tagsOf (caller : Caller) (id : String) : Repository PropertyGraph :=
  ⟨⟨serving counted (statementsFor Compiler.tags caller id), default, .notes⟩, Compiler.tags⟩

theorem serves_tagsOf {caller : Caller} {id : String}
    (htexts : ((statementsFor Compiler.tags caller id).map (fun s => (s.render .all).text)).Nodup) {st : Statement}
    (hst : st ∈ statementsFor Compiler.tags caller id) : Serves (tagsOf caller id).client.respond counted st :=
  serves_serving (fun _ _ => rfl) htexts hst

theorem looksUp_tagsOf {caller : Caller} {company id : String}
    (hscope : Compiler.tags.scope caller = .ok (some company))
    (htexts : ((statementsFor Compiler.tags caller id).map (fun s => (s.render .all).text)).Nodup) :
    LooksUp (tagsOf caller id) counted caller company id where
  scope := hscope
  result := rfl
  names := (by decide : Compiler.tags.lookupNames.Nodup)
  ints := fun _ _ _ => rfl
  finds := fun st hst => serves_tagsOf htexts (by
    have hfind : Compiler.tags.findById caller id = .ok st := hst
    simp [statementsFor, hfind, Except.toOption])
  looks := fun st hst => serves_tagsOf htexts (by
    have hlook : Compiler.tags.existsUnscoped id = .ok st := hst
    simp [statementsFor, hlook, Except.toOption])

/-- Whether a result is a denial. -/
def isDenied {α : Type} : Except GraphError α → Bool
  | .error (.accessDenied _ _) => true
  | _ => false

theorem isDenied_iff {x : Except GraphError α} :
    isDenied x = true ↔ ∃ label id, x = .error (.accessDenied label id) := by
  unfold isDenied
  split <;> simp_all

/-- A tag of the caller's tenant without an owner, and a tag that is not the caller's. -/
theorem denied_tags :
    (∃ label id, ((tagsOf (.member "c1" "u1") "t2").findById (.member "c1" "u1") "t2" (.initial Compiler.tagGraph)).1 =
        .error (.accessDenied label id)) ∧
      Compiler.tags.Unreadable (counted Compiler.tagGraph) "c1" "t2" ∧
    (∃ label id, ((tagsOf (.member "c2" "u2") "t1").delete (.member "c2" "u2") "t1" (.initial Compiler.tagGraph)).1 =
        .error (.accessDenied label id)) ∧
      Compiler.tags.Foreign (counted ((tagsOf (.member "c2" "u2") "t1").delete (.member "c2" "u2") "t1"
        (.initial Compiler.tagGraph)).2.script) "c2" "t1" := by
  have hown : LooksUp (tagsOf (.member "c1" "u1") "t2") counted (.member "c1" "u1") "c1" "t2" :=
    looksUp_tagsOf rfl (by decide +kernel)
  have hother : LooksUp (tagsOf (.member "c2" "u2") "t1") counted (.member "c2" "u2") "c2" "t1" :=
    looksUp_tagsOf rfl (by decide +kernel)
  have hlook := isDenied_iff.1 (by decide +kernel : isDenied ((tagsOf (.member "c1" "u1") "t2").findById
    (.member "c1" "u1") "t2" (.initial Compiler.tagGraph)).1 = true)
  have hdelete := isDenied_iff.1 (by decide +kernel : isDenied ((tagsOf (.member "c2" "u2") "t1").delete
    (.member "c2" "u2") "t1" (.initial Compiler.tagGraph)).1 = true)
  obtain ⟨label, id, hlook'⟩ := hlook
  obtain ⟨label', id', hdelete'⟩ := hdelete
  refine ⟨⟨label, id, hlook'⟩, ?_, ⟨label', id', hdelete'⟩, ?_⟩
  · exact ((denied_is_foreign_or_lacks_required_edge hown (.initial Compiler.tagGraph)).1 label id hlook').2
  · refine (denied_is_foreign_or_lacks_required_edge hother (.initial Compiler.tagGraph)).2.2 label' id' ?_ hdelete'
    intro st hst
    have hdeleted : Compiler.tags.delete (.member "c2" "u2") "t1" = .ok st := hst
    exact serves_tagsOf (by decide +kernel) (by simp [statementsFor, hdeleted, Except.toOption])

/-- A denial does not mean that the entity is not the caller's own. -/
theorem not_denied_is_foreign :
    ¬∀ (r : Repository PropertyGraph) (db : PropertyGraph → Database) (caller : Caller) (company id : String)
        (s : State PropertyGraph), LooksUp r db caller company id →
      ∀ label id', (r.findById caller id s).1 = .error (.accessDenied label id') →
        r.compiler.Foreign (db s.script) company id := by
  intro h
  have hdenied := isDenied_iff.1 (by decide +kernel : isDenied ((tagsOf (.member "c1" "u1") "t2").findById
    (.member "c1" "u1") "t2" (.initial Compiler.tagGraph)).1 = true)
  obtain ⟨label, id, hdenied⟩ := hdenied
  have hforeign := h _ _ _ "c1" _ _ (looksUp_tagsOf rfl (by decide +kernel)) label id hdenied
  have hid : Compiler.tags.HasId (counted Compiler.tagGraph) "t2" (Compiler.tagGraph.vertices.get ⟨2, by decide⟩) :=
    ⟨List.get_mem _ _, by decide, by rfl⟩
  have hbelongs : Compiler.tags.Belongs (counted Compiler.tagGraph) "c1" (Compiler.tagGraph.vertices.get ⟨2, by decide⟩)
      (Compiler.tagGraph.arcs.get ⟨1, by decide⟩) (Compiler.tagGraph.vertices.get ⟨0, by decide⟩) :=
    ⟨List.get_mem _ _, by decide, by decide, by decide, List.get_mem _ _, by decide, by rfl⟩
  exact hforeign.apart _ hid _ _ hbelongs

end Repository
end EntityGraph
