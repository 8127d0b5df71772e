import EntityGraph.Proofs.Compile.Bindings
import EntityGraph.Proofs.Compile.Operation

/-!
# Tenant isolation

Every statement about a company-scoped entity, compiled for a caller without elevated access, is tied to the
caller's tenant before it reads, changes or returns anything: its clauses begin by finding the entity through a
membership edge to the tenant, or by creating it with such an edge, and the parameter with the tenant's id holds
the caller's company whatever the input names its members.
-/
namespace EntityGraph.Compile

open Cypher
open Json (Value)
open Schema (Relationship Field)

/-- A clause that may stand before the tie to the tenant: a look-up of nodes without edges, the call of an index,
or a change of names. It neither pages, follows an edge, writes, runs a subquery nor returns. -/
def Opens : Clause → Prop
  | .procedure _ _ _ => True
  | .projection _ _ _ _ page => page = false
  | .pattern p optional _ => optional = false ∧ p.hops = []
  | _ => False

/-- Operations that make a new entity. -/
def Operation.creates : Operation → Bool
  | .write .create _ => true
  | _ => false

namespace Compiler

variable (c : Compiler)

/-- Nothing but opening clauses stands before a match that requires a membership edge from the entity to the
tenant, written in place or bound by one of those clauses. -/
def TiedToTenant (clauses : List Clause) : Prop :=
  ∃ before start tenant predicate after,
    clauses = before ++ .pattern (c.membership start tenant) false predicate :: after ∧
      start.binder = some c.node ∧
      (tenant = c.tenantNode ∨ tenant = .bound tenantVar ∧ .matching (.node c.tenantNode) ∈ before) ∧
      ∀ k ∈ before, Opens k

/-- The tenant is found first, and the new entity gets a membership edge to it at once. -/
def FoundedInTenant (clauses : List Clause) : Prop :=
  ∃ after, clauses = .matching (.node c.tenantNode) :: .create (.node c.nodeById) ::
    .create (c.membership (.bound c.node) (.bound tenantVar)) :: after

/-! ## The scope of a caller -/

theorem scope_of_company {caller : Caller} {scope : Option String} (hscoped : c.descriptor.companyScoped = true)
    (hplain : caller.elevated = false) (h : c.scope caller = .ok scope) :
    ∃ company, scope = some company ∧ caller.company = some company ∧ company ≠ "" := by
  unfold Compiler.scope at h
  rw [hscoped, hplain] at h
  cases hcompany : caller.company with
  | none => simp [hcompany] at h
  | some company =>
    by_cases hempty : company = ""
    · simp [hcompany, hempty] at h
    · simp only [hcompany, hempty, Bool.not_true, Bool.or_self, Bool.false_eq_true, if_false] at h
      cases h
      exact ⟨company, rfl, rfl, hempty⟩

theorem writeScope_of_company {mode : WriteMode} {caller : Caller} {scope : Option String}
    (hscoped : c.descriptor.companyScoped = true) (hplain : caller.elevated = false)
    (h : c.writeScope mode caller = .ok scope) :
    ∃ company, scope = some company ∧ caller.company = some company ∧ company ≠ "" := by
  cases mode with
  | create =>
    simp only [writeScope, hscoped, if_true] at h
    cases hcompany : caller.company.filter (fun s => s ≠ "") with
    | none =>
      rw [hcompany] at h
      cases h
    | some company =>
      rw [hcompany] at h
      cases h
      obtain ⟨hsome, hne⟩ := Option.filter_eq_some_iff.1 hcompany
      exact ⟨company, rfl, hsome, by simpa using hne⟩
  | put => exact c.scope_of_company hscoped hplain h
  | patch => exact c.scope_of_company hscoped hplain h

/-! ## The tie -/

theorem guardedBy_pattern (p : Pattern) (optional : Bool) (predicate : Option Predicate)
    (tests : List Predicate) :
    ∃ predicate', (Clause.pattern p optional predicate).guardedBy tests = .pattern p optional predicate' := by
  induction tests generalizing predicate with
  | nil => exact ⟨predicate, rfl⟩
  | cons test rest ih => exact ih (some (joined predicate test))

/-- The opening of a read for a tenant ends with the tie, whatever tests are joined to it. -/
theorem tied_opening (source : Source) (tests : List Predicate) (after : List Clause) :
    c.TiedToTenant
      (c.openingInit true source ++ (c.openingLast true source).guardedBy tests :: after) := by
  cases source with
  | label =>
    obtain ⟨predicate, htie⟩ :=
      guardedBy_pattern (c.membership (.labeled c.node c.label) (.bound tenantVar)) false none tests
    refine ⟨[.matching (.node c.tenantNode)], .labeled c.node c.label, .bound tenantVar, predicate, after,
      ?_, rfl, .inr ⟨rfl, List.mem_singleton_self _⟩, ?_⟩
    · rw [← htie]
      rfl
    · intro k hk
      obtain rfl := List.mem_singleton.1 hk
      exact ⟨rfl, rfl⟩
  | index procedure args =>
    obtain ⟨predicate, htie⟩ :=
      guardedBy_pattern (c.membership (.bound c.node) c.tenantNode) false none tests
    refine ⟨[.procedure procedure args ["node", scoreVar], c.hitClause], .bound c.node, c.tenantNode, predicate,
      after, ?_, rfl, .inl rfl, ?_⟩
    · rw [← htie]
      rfl
    · intro k hk
      simp only [List.mem_cons, List.not_mem_nil, or_false] at hk
      rcases hk with rfl | rfl
      · trivial
      · rfl

theorem tied_matchById {mode : WriteMode} (h : mode ≠ .create) (after : List Clause) :
    c.TiedToTenant (c.writeOpening mode true ++ after) := by
  refine ⟨[], c.nodeById, c.tenantNode, none, after, ?_, rfl, .inl rfl, fun k hk => by cases hk⟩
  cases mode with
  | create => exact absurd rfl h
  | put => rfl
  | patch => rfl

/-! ## The tenant's id in a write -/

theorem carries_createNode {b b' : Builder} {caller : Caller} {id company : String}
    (hscope : c.writeScope .create caller = .ok (some company)) (hb : c.createNode b caller id = .ok b') :
    b'.Carries companyParam (· = .str company) := by
  unfold writeScope at hscope
  unfold createNode at hb
  split at hb
  · rename_i hscoped
    simp only [hscoped, if_true] at hscope
    cases hcompany : caller.company.filter (fun s => s ≠ "") with
    | none =>
      rw [hcompany] at hscope
      cases hscope
    | some found =>
      rw [hcompany] at hb hscope
      cases hscope
      cases hb
      exact (((Builder.carries_bind_self _ _ _).push _).push _).push _
  · rename_i hscoped
    simp [hscoped] at hscope

theorem carries_matchById {b b' : Builder} {caller : Caller} {id company : String}
    (hscope : c.scope caller = .ok (some company)) (hb : c.matchById b caller id = .ok b') :
    b'.Carries companyParam (· = .str company) := by
  obtain ⟨scope, hscope', hb⟩ := Result.bind_eq_ok_iff.1 hb
  rw [hscope] at hscope'
  cases hscope'
  cases hb
  exact (Builder.carries_bind_self _ _ _).push _

/-- No property, relationship or edge parameter of a write replaces the tenant's id. -/
theorem get?_company_of_write {caller : Caller} {input : Input} {mode : WriteMode} {plan : WritePlan}
    {company : String} (h : c.write caller input mode = .ok plan)
    (hscope : c.writeScope mode caller = .ok (some company)) :
    plan.write.params.get? companyParam = some (.str company) := by
  obtain ⟨links, updates, b, -, -, -, -, hopen, hbuild⟩ := c.write_steps h
  have hopened : b.Carries companyParam (· = .str company) := by
    cases mode with
    | create => exact c.carries_createNode hscope hopen
    | put => exact c.carries_matchById hscope hopen
    | patch => exact c.carries_matchById hscope hopen
  have hreplaces := replaces_of_exact (Value.exact_str company)
  have hset := (c.carries_assignFields hopened mode input (c.stamps mode) fun _ _ _ _ => hreplaces _).set
    (c.assignFields mode input (b, c.stamps mode)).2
  obtain ⟨_, hget, rfl⟩ := c.get?_of_carries hset hbuild (fun _ _ _ _ => hreplaces _) fun _ _ _ => hreplaces _
  exact hget

/-! ## Isolation -/

/-- What isolation promises of the statement of one operation. -/
def Isolated (op : Operation) (company : String) (s : Statement) : Prop :=
  s.params.get? companyParam = some (.str company) ∧
    (op.creates = false → c.TiedToTenant s.clauses) ∧ (op.creates = true → c.FoundedInTenant s.clauses)

theorem isolated_list {caller : Caller} {criteria : Criteria} {related : Option (Relationship × List String)}
    {s : Statement} {op : Operation} (hscoped : c.descriptor.companyScoped = true)
    (hplain : caller.elevated = false) (hop : op.creates = false) (h : c.list caller criteria related = .ok s) :
    ∃ company, caller.company = some company ∧ company ≠ "" ∧ c.Isolated op company s := by
  obtain ⟨scope, order, hscope, -, rfl⟩ := c.list_outline h
  obtain ⟨company, rfl, hcompany, hne⟩ := c.scope_of_company hscoped hplain hscope
  refine ⟨company, hcompany, hne, c.get?_listParams_company company criteria related, fun _ => ?_, ?_⟩
  · simpa [listClauses, candidates] using c.tied_opening (c.listSource criteria) (c.listTests criteria) _
  · intro hcreates
    rw [hop] at hcreates
    cases hcreates

theorem isolated_findById {caller : Caller} {id : String} {s : Statement}
    (hscoped : c.descriptor.companyScoped = true) (hplain : caller.elevated = false)
    (h : c.findById caller id = .ok s) :
    ∃ company, caller.company = some company ∧ company ≠ "" ∧ c.Isolated (.findById id) company s := by
  obtain ⟨scope, hscope, rfl⟩ := c.findById_outline h
  obtain ⟨company, rfl, hcompany, hne⟩ := c.scope_of_company hscoped hplain hscope
  refine ⟨company, hcompany, hne, ?_, fun _ => c.tied_opening .label [c.idTest] _, by simp [Operation.creates]⟩
  rw [Dict.get?_insert, if_neg (by decide), get?_withScope]

theorem isolated_findSimilar {caller : Caller} {vector : List Float} {k : Nat} {s : Statement}
    (hscoped : c.descriptor.companyScoped = true) (hplain : caller.elevated = false)
    (h : c.findSimilar caller vector k = .ok s) :
    ∃ company, caller.company = some company ∧ company ≠ "" ∧
      c.Isolated (.findSimilar vector k) company s := by
  obtain ⟨index, scope, -, hscope, rfl⟩ := c.findSimilar_outline h
  obtain ⟨company, rfl, hcompany, hne⟩ := c.scope_of_company hscoped hplain hscope
  exact ⟨company, hcompany, hne, get?_withScope _ _, fun _ => c.tied_opening (vectorSource index.name) [] _,
    by simp [Operation.creates]⟩

theorem isolated_write {caller : Caller} {input : Input} {mode : WriteMode} {plan : WritePlan}
    (hscoped : c.descriptor.companyScoped = true) (hplain : caller.elevated = false)
    (h : c.write caller input mode = .ok plan) :
    ∃ company, caller.company = some company ∧ company ≠ "" ∧
      c.Isolated (.write mode input) company plan.write := by
  obtain ⟨scope, links, updates, hscope, -, -, -, -, hwrite⟩ := c.write_outline h
  obtain ⟨company, rfl, hcompany, hne⟩ := c.writeScope_of_company hscoped hplain hscope
  refine ⟨company, hcompany, hne, c.get?_company_of_write h hscope, ?_, ?_⟩
  · intro hcreates
    rw [hwrite]
    refine c.tied_matchById ?_ _
    rintro rfl
    cases hcreates
  · intro hcreates
    rw [hwrite]
    cases mode with
    | create => exact ⟨_, rfl⟩
    | put => cases hcreates
    | patch => cases hcreates

theorem isolated_delete {caller : Caller} {id : String} {s : Statement}
    (hscoped : c.descriptor.companyScoped = true) (hplain : caller.elevated = false)
    (h : c.delete caller id = .ok s) :
    ∃ company, caller.company = some company ∧ company ≠ "" ∧ c.Isolated (.delete id) company s := by
  obtain ⟨scope, hscope, rfl⟩ := c.delete_outline h
  obtain ⟨company, rfl, hcompany, hne⟩ := c.scope_of_company hscoped hplain hscope
  exact ⟨company, hcompany, hne, get?_withScope _ _, fun _ => c.tied_matchById (by decide) _,
    by simp [Operation.creates]⟩

/-- Whatever is asked of a company-scoped entity without elevated access: without a company nothing compiles, and
whatever compiles binds the caller's company as the tenant's id and is tied to that tenant before all else. -/
theorem compile_isolated {caller : Caller} {op : Operation} (hscoped : c.descriptor.companyScoped = true)
    (hplain : caller.elevated = false) (hop : ∀ id, op ≠ .existsUnscoped id) :
    ((∀ company, caller.company = some company → company = "") → ∀ r, c.compile caller op ≠ .ok r) ∧
      ∀ r, c.compile caller op = .ok r →
        ∃ company, caller.company = some company ∧ company ≠ "" ∧ c.Isolated op company r.main := by
  have hisolated : ∀ r, c.compile caller op = .ok r →
      ∃ company, caller.company = some company ∧ company ≠ "" ∧ c.Isolated op company r.main := by
    intro r h
    cases op with
    | find criteria =>
      obtain ⟨s, hs, rfl⟩ := Result.map_eq_ok_iff.1 h
      exact c.isolated_list hscoped hplain rfl hs
    | findByRelated relationship ids criteria =>
      obtain ⟨s, hs, rfl⟩ := Result.map_eq_ok_iff.1 h
      obtain ⟨r, -, hs⟩ := Result.bind_eq_ok_iff.1 hs
      exact c.isolated_list hscoped hplain rfl hs
    | findById id =>
      obtain ⟨s, hs, rfl⟩ := Result.map_eq_ok_iff.1 h
      exact c.isolated_findById hscoped hplain hs
    | findSimilar vector k =>
      obtain ⟨s, hs, rfl⟩ := Result.map_eq_ok_iff.1 h
      exact c.isolated_findSimilar hscoped hplain hs
    | existsUnscoped id => exact absurd rfl (hop id)
    | write mode input =>
      obtain ⟨plan, hplan, rfl⟩ := Result.map_eq_ok_iff.1 h
      exact c.isolated_write hscoped hplain hplan
    | delete id =>
      obtain ⟨s, hs, rfl⟩ := Result.map_eq_ok_iff.1 h
      exact c.isolated_delete hscoped hplain hs
  refine ⟨fun hnone r h => ?_, hisolated⟩
  obtain ⟨company, hcompany, hne, -⟩ := hisolated r h
  exact hne (hnone company hcompany)

/-- A new entity whose own property is named like the parameter with the tenant's id. -/
theorem compile_isolated_own_companyId :
    let c : Compiler :=
      ⟨(Schema.Descriptor.base "Tag" "tag").withTenant.withField companyParam ⟨.string, none⟩, default⟩
    let op : Operation := .write .create (.ofList [("id", .str "t1"), (companyParam, .str "c1")])
    ∃ r, c.compile (.member "c1" "u1") op = .ok r ∧
      ∃ company, (Caller.member "c1" "u1").company = some company ∧ company ≠ "" ∧
        c.Isolated op company r.main := by
  intro c op
  obtain ⟨r, hr⟩ : ∃ r, c.compile (.member "c1" "u1") op = .ok r := ⟨_, rfl⟩
  exact ⟨r, hr, (compile_isolated c rfl rfl fun _ => Operation.noConfusion).2 r hr⟩

end Compiler
end EntityGraph.Compile
