import EntityGraph.Proofs.Compile.Operation

/-!
# Elevated access

A statement for a caller with elevated access is the statement for a tenant without the restriction to that tenant.
Both are built step by step from openings that differ in that restriction alone, and each step that follows does the
same to both, so they agree in all that stands behind the opening and in every failure.
-/
namespace EntityGraph.Cypher

/-- The parts of a conjunction; another predicate is its only part. -/
def conjuncts : Option Predicate → List Predicate
  | none => []
  | some (.all parts) => parts
  | some p => [p]

/-- One more predicate that is no conjunction is one more part. -/
theorem conjuncts_joined {p : Predicate} (h : ∀ parts, p ≠ .all parts) (predicate : Option Predicate) :
    conjuncts (some (joined predicate p)) = conjuncts predicate ++ [p] := by
  cases predicate with
  | none =>
    rw [joined, conjuncts.eq_3 p h]
    rfl
  | some q => cases q <;> rfl

end EntityGraph.Cypher

namespace EntityGraph.Compile

open Cypher
open Json (Value)
open Schema (Relationship)

/-- Operations that may reach the entities of a tenant only, and add none. -/
def Operation.confined : Operation → Bool
  | find _ | findByRelated _ _ _ | findById _ | findSimilar _ _ | delete _ => true
  | existsUnscoped _ | write _ _ => false

namespace Compiler

variable (c : Compiler)

/-! ## Clauses and statements without their tenant -/

/-- Clauses with the restriction to a tenant, and what is left of them without it. The opening loses the `MATCH` of
the tenant and the hop to it. Behind the hits of an index nothing is left of the `MATCH` with that hop, so its
predicate goes to the clause that binds the entity. Later clauses stay as they are. -/
inductive Untied : List Clause → List Clause → Prop where
  | label (predicate : Option Predicate) :
      Untied
        [.matching (.node c.tenantNode),
          .pattern (c.membership (.labeled c.node c.label) (.bound tenantVar)) false predicate]
        [.pattern (.node (.labeled c.node c.label)) false predicate]
  | id (predicate : Option Predicate) :
      Untied [.pattern (c.membership c.nodeById c.tenantNode) false predicate]
        [.pattern (.node c.nodeById) false predicate]
  | index (procedure : String) (args : List Expr) (predicate : Option Predicate) :
      Untied
        [.procedure procedure args ["node", scoreVar], c.hitClause,
          .pattern (c.membership (.bound c.node) c.tenantNode) false predicate]
        [.procedure procedure args ["node", scoreVar], c.hitClause.guardedBy (conjuncts predicate)]
  | later {ks ks' : List Clause} (k : Clause) (h : Untied ks ks') : Untied (ks ++ [k]) (ks' ++ [k])

/-- A statement for a tenant, and the same statement without the restriction to that tenant. -/
structure Lifted (company : String) (s s' : Statement) : Prop where
  clauses : c.Untied s.clauses s'.clauses
  bound : s.params.get? companyParam = some (.str company)
  params : s'.params = s.params.erase companyParam
  primary : s'.primary = s.primary
  entity : s'.entity = s.entity

/-- Builders that were misused alike, if at all, and hold a statement for a tenant and the one without it. -/
structure Twins (company : String) (b b' : Builder) : Prop where
  misuse : b'.misuse = b.misuse
  lifted : c.Lifted company b.draft b'.draft

variable {c} {company : String}

namespace Untied

/-- No opening carries the page marker. -/
theorem any_isPageMarker {ks ks' : List Clause} (h : c.Untied ks ks') :
    ks'.any Clause.isPageMarker = ks.any Clause.isPageMarker := by
  induction h with
  | label predicate => rfl
  | id predicate => rfl
  | index procedure args predicate =>
    simp only [List.any_cons, List.any_nil, Clause.isPageMarker_guardedBy]
    rfl
  | later k h ih => rw [List.any_append, List.any_append, ih]

/-- A predicate that goes to the last clauses is taken by both or by neither. -/
theorem filter {ks ks' : List Clause} (h : c.Untied ks ks') {p : Predicate} (hp : ∀ parts, p ≠ .all parts) :
    (ks.getLast?.bind (Clause.filtered? p) = none ∧ ks'.getLast?.bind (Clause.filtered? p) = none) ∨
      ∃ k k', ks.getLast?.bind (Clause.filtered? p) = some k ∧ ks'.getLast?.bind (Clause.filtered? p) = some k' ∧
        c.Untied (ks.dropLast ++ [k]) (ks'.dropLast ++ [k']) := by
  cases h with
  | label predicate => exact .inr ⟨_, _, rfl, rfl, .label (some (joined predicate p))⟩
  | id predicate => exact .inr ⟨_, _, rfl, rfl, .id (some (joined predicate p))⟩
  | index procedure args predicate =>
    have hhit : (c.hitClause.guardedBy (conjuncts predicate)).filtered? p =
        some (c.hitClause.guardedBy (conjuncts (some (joined predicate p)))) := by
      rw [conjuncts_joined hp]
      exact Clause.filtered?_guardedBy rfl (conjuncts predicate)
    exact .inr ⟨_, _, rfl, hhit, .index procedure args (some (joined predicate p))⟩
  | later k h =>
    simp only [List.getLast?_concat, List.dropLast_concat, Option.bind_some]
    cases hk : k.filtered? p with
    | none => exact .inl ⟨rfl, rfl⟩
    | some k' => exact .inr ⟨k', k', rfl, rfl, .later k' h⟩

end Untied

/-! ## Steps of two builders -/

namespace Lifted

variable {s s' : Statement}

theorem push (h : c.Lifted company s s') (k : Clause) : c.Lifted company (s.push k) (s'.push k) :=
  ⟨.later k h.clauses, h.bound, h.params, h.primary, h.entity⟩

theorem bind (h : c.Lifted company s s') {name : String} (hname : name ≠ companyParam) (value : Value) :
    c.Lifted company (s.bind name value) (s'.bind name value) where
  clauses := h.clauses
  bound := by rw [Statement.bind, Dict.get?_insert, if_neg hname.symm, h.bound]
  params := by rw [Statement.bind, Statement.bind, Dict.erase_insert_of_ne hname, h.params]
  primary := h.primary
  entity := h.entity

/-- Both hold the same under every name but that of the tenant's id. -/
theorem get?_of_ne (h : c.Lifted company s s') {name : String} (hname : name ≠ companyParam) :
    s'.params.get? name = s.params.get? name := by
  rw [h.params, Dict.get?_erase, if_neg hname]

end Lifted

namespace Twins

variable {b b' : Builder}

theorem fail (h : c.Twins company b b') (cause : ArgumentError) : c.Twins company (b.fail cause) (b'.fail cause) :=
  ⟨by rw [Builder.fail, Builder.fail, h.misuse], h.lifted⟩

theorem push (h : c.Twins company b b') (k : Clause) : c.Twins company (b.push k) (b'.push k) := by
  rw [Builder.push_eq, Builder.push_eq, h.misuse]
  split
  · exact h
  · exact ⟨rfl, h.lifted.push k⟩

theorem bind (h : c.Twins company b b') {name : String} (hname : name ≠ companyParam) (value : Value) :
    c.Twins company (b.bind name value) (b'.bind name value) := by
  have hinserted : c.Twins company { b with params := b.params.insert name value }
      { b' with params := b'.params.insert name value } := ⟨h.misuse, h.lifted.bind hname value⟩
  have hget : b'.params.get? name = b.params.get? name := h.lifted.get?_of_ne hname
  unfold Builder.bind
  rw [hget]
  cases b.params.get? name with
  | none => exact hinserted
  | some old =>
    by_cases hsame : old.same value = true
    · simp only [hsame, if_true]
      exact hinserted
    · simp only [hsame]
      exact h.fail _

theorem filter (h : c.Twins company b b') {p : Predicate} (hp : ∀ parts, p ≠ .all parts) :
    c.Twins company (b.filter p) (b'.filter p) := by
  unfold Builder.filter
  rw [h.misuse]
  split
  · exact h
  · rcases h.lifted.clauses.filter hp with ⟨hnone, hnone'⟩ | ⟨k, k', hk, hk', hclauses⟩
    · simp only [Builder.draft] at hnone hnone'
      rw [hnone, hnone']
      exact h.fail _
    · simp only [Builder.draft] at hk hk'
      rw [hk, hk']
      exact ⟨rfl, hclauses, h.lifted.bound, h.lifted.params, h.lifted.primary, h.lifted.entity⟩

theorem page (h : c.Twins company b b') (columns : List Column) (order : List SortKey) (distinct : Bool) :
    c.Twins company (b.page columns order distinct) (b'.page columns order distinct) := by
  have hmarker : b'.clauses.any Clause.isPageMarker = b.clauses.any Clause.isPageMarker :=
    h.lifted.clauses.any_isPageMarker
  unfold Builder.page
  rw [hmarker]
  split
  · exact h.fail _
  · exact h.push _

/-- Both are finished, or both report the same misuse. -/
theorem build (h : c.Twins company b b') : Result.Agree (c.Lifted company) b.build b'.build := by
  have hne {ks ks' : List Clause} (h : c.Untied ks ks') : ks.isEmpty = false ∧ ks'.isEmpty = false := by
    cases h <;> simp
  obtain ⟨hclauses, hclauses'⟩ : b.clauses.isEmpty = false ∧ b'.clauses.isEmpty = false := hne h.lifted.clauses
  unfold Builder.build
  rw [h.misuse, hclauses, hclauses']
  cases b.misuse with
  | some cause => exact .error _
  | none => exact .ok h.lifted

end Twins

/-! ## Steps of compiled reads -/

theorem equals_ne_all (left right : Expr) (value : Value) (parts : List Predicate) :
    equals left right value ≠ .all parts := by
  unfold equals
  split <;> nofun

namespace Twins

variable {b b' : Builder}

theorem applyFilter (h : c.Twins company b b') (field : String) (value : Value) :
    Result.Agree (c.Twins company) (c.applyFilter b field value) (c.applyFilter b' field value) := by
  have hparam : filterParam field ≠ companyParam := filterParam_ne (by decide)
  unfold Compiler.applyFilter
  split
  · exact .error _
  · split
    · exact .ok (h.filter (equals_ne_all _ _ value))
    · exact .ok ((h.bind hparam value).filter (equals_ne_all _ _ value))

theorem applyFilters (h : c.Twins company b b') (filters : List (String × Value)) :
    Result.Agree (c.Twins company) (c.applyFilters b filters) (c.applyFilters b' filters) := by
  induction filters generalizing b b' with
  | nil => exact .ok h
  | cons f rest ih => exact (h.applyFilter f.1 f.2).bind fun _ _ hfiltered => ih hfiltered

theorem requireEdges (h : c.Twins company b b') : c.Twins company (c.requireEdges b) (c.requireEdges b') := by
  unfold Compiler.requireEdges
  induction c.descriptor.relationships.values generalizing b b' with
  | nil => exact h
  | cons r rest ih =>
    refine ih ?_
    dsimp only
    split
    · exact h
    · exact h.filter nofun

theorem requireRelated (h : c.Twins company b b') (r : Relationship) (ids : List String) :
    c.Twins company (c.requireRelated b r ids) (c.requireRelated b' r ids) :=
  ((h.bind (by decide) _).push _).filter nofun

/-- What the traversals of both find is the same. -/
theorem traverse {t t' : Traversal} (h : c.Twins company t.builder t'.builder) (hbound : t'.bound = t.bound)
    (hcolumns : t'.columns = t.columns) (name : String) (r : Relationship) :
    c.Twins company (c.traverse t name r).builder (c.traverse t' name r).builder ∧
      (c.traverse t' name r).bound = (c.traverse t name r).bound ∧
      (c.traverse t' name r).columns = (c.traverse t name r).columns := by
  unfold Compiler.traverse
  rw [hbound, hcolumns]
  cases r.cardinality with
  | one => exact ⟨(h.push _).push _, rfl, rfl⟩
  | many => exact ⟨(h.push _).push _, rfl, rfl⟩

theorem traverseAll (h : c.Twins company b b') (bound : List String) (order : List SortKey) :
    c.Twins company (c.traverseAll b bound order) (c.traverseAll b' bound order) := by
  have hfold (links : List (String × Relationship)) (t t' : Traversal) (h : c.Twins company t.builder t'.builder)
      (hbound : t'.bound = t.bound) (hcolumns : t'.columns = t.columns) :
      let u := links.foldl (fun t e => c.traverse t e.1 e.2) t
      let u' := links.foldl (fun t e => c.traverse t e.1 e.2) t'
      c.Twins company u.builder u'.builder ∧ u'.bound = u.bound ∧ u'.columns = u.columns := by
    induction links generalizing t t' with
    | nil => exact ⟨h, hbound, hcolumns⟩
    | cons e rest ih =>
      obtain ⟨hnext, hbound', hcolumns'⟩ := h.traverse hbound hcolumns e.1 e.2
      exact ih _ _ hnext hbound' hcolumns'
  obtain ⟨hall, hbound, hcolumns⟩ := hfold c.descriptor.relationships.toList ⟨b, bound, [.ofVar c.node]⟩
    ⟨b', bound, [.ofVar c.node]⟩ h rfl rfl
  unfold Compiler.traverseAll
  simp only [hbound, hcolumns]
  cases c.descriptor.returnClause with
  | some custom => exact hall.push _
  | none => exact hall.push _

end Twins

/-- What a list does once its candidates are found and filtered. -/
def listed (c : Compiler) (criteria : Criteria) (related : Option (Relationship × List String)) (b : Builder)
    (order : List SortKey) : Builder :=
  let b := match related with
    | some (r, ids) => c.requireRelated (c.requireEdges b) r ids
    | none => c.requireEdges b
  c.traverseAll (b.page ((c.carried criteria).map Column.ofVar) order related.isSome) (c.carried criteria) order

theorem Twins.listed {b b' : Builder} (h : c.Twins company b b') (criteria : Criteria)
    (related : Option (Relationship × List String)) (order : List SortKey) :
    c.Twins company (c.listed criteria related b order) (c.listed criteria related b' order) := by
  refine Twins.traverseAll (Twins.page ?_ _ _ _) _ _
  cases related with
  | none => exact h.requireEdges
  | some link => exact h.requireEdges.requireRelated link.1 link.2

/-! ## Openings -/

/-- The opening of a statement for a tenant binds the id of the tenant, which no parameter holds yet. -/
theorem lifted_opening {ks ks' : List Clause} (h : c.Untied ks ks') {params : Params}
    (hfree : params.get? companyParam = none) (primary entity : Option String) :
    c.Lifted company ⟨ks, params.insert companyParam (.str company), primary, entity⟩
      ⟨ks', params, primary, entity⟩ where
  clauses := h
  bound := by rw [Dict.get?_insert, if_pos rfl]
  params := (Dict.erase_insert_self hfree _).symm
  primary := rfl
  entity := rfl

theorem bind_free {b : Builder} {name : String} (h : b.params.get? name = none) (value : Value) :
    b.bind name value = { b with params := b.params.insert name value } := by
  rw [Builder.bind, h]

theorem scope_of_member {caller : Caller} (hscoped : c.descriptor.companyScoped = true)
    (hplain : caller.elevated = false) (hcompany : caller.company = some company) (hne : company ≠ "") :
    c.scope caller = .ok (some company) := by
  simp [scope, hscoped, hplain, hcompany, hne]

theorem scope_of_elevated {caller : Caller} (h : caller.elevated = true) : c.scope caller = .ok none := by
  simp [scope, h]

section Callers

variable {member exempt : Caller} (hmember : c.scope member = .ok (some company)) (hexempt : c.scope exempt = .ok none)

include hmember hexempt

theorem twins_openSource {params : Params} (hfree : params.get? companyParam = none) (primary entity : Option String)
    (source : Source) :
    Result.Agree (c.Twins company) (c.openSource ⟨[], params, primary, entity, none⟩ member source)
      (c.openSource ⟨[], params, primary, entity, none⟩ exempt source) := by
  have hbind (b : Builder) (hb : b.params = params) : b.bind companyParam (.str company) =
      { b with params := b.params.insert companyParam (.str company) } := bind_free (hb ▸ hfree) _
  unfold openSource
  rw [hmember, hexempt]
  cases source with
  | label =>
    refine .ok ?_
    rw [hbind _ rfl]
    exact ⟨rfl, lifted_opening (.label none) hfree primary entity⟩
  | index procedure args =>
    refine .ok ?_
    rw [hbind _ rfl]
    exact ⟨rfl, lifted_opening (.index procedure args none) hfree primary entity⟩

theorem twins_matchById {id : String} :
    Result.Agree (c.Twins company) (c.matchById c.builder member id) (c.matchById c.builder exempt id) := by
  have hfree : (c.builder.bind "id" (.str id)).params.get? companyParam = none := rfl
  unfold matchById
  rw [hmember, hexempt]
  refine .ok ?_
  rw [bind_free hfree]
  exact ⟨rfl, lifted_opening (.id none) hfree (some c.node) (some c.label)⟩

/-! ## Operations -/

theorem agree_list (criteria : Criteria) (related : Option (Relationship × List String)) :
    Result.Agree (c.Lifted company) (c.list member criteria related) (c.list exempt criteria related) := by
  have hrest {b b' : Builder} (h : c.Twins company b b') (order : List SortKey) :=
    (h.listed criteria related order).build
  unfold listed carried at hrest
  unfold list
  cases hhit : c.termSource? criteria with
  | some hit =>
    rw [hhit] at hrest
    have hfree : ((∅ : Params).insert "term" (.str hit.2)).get? companyParam = none := rfl
    exact (twins_openSource hmember hexempt hfree _ _ _).bind fun _ _ hopened =>
      (hopened.applyFilters _).bind fun _ _ hfiltered => hrest hfiltered scoreKeys
  | none =>
    rw [hhit] at hrest
    exact (twins_openSource hmember hexempt rfl _ _ _).bind fun _ _ hopened =>
      (hopened.applyFilters _).bind fun _ _ hfiltered =>
        Result.Agree.bind_self _ fun order _ => hrest hfiltered order

theorem agree_findByRelated (relationship : String) (ids : List String) (criteria : Criteria) :
    Result.Agree (c.Lifted company) (c.findByRelated member relationship ids criteria)
      (c.findByRelated exempt relationship ids criteria) :=
  Result.Agree.bind_self _ fun r _ => agree_list hmember hexempt criteria (some (r, ids))

theorem agree_findById (id : String) :
    Result.Agree (c.Lifted company) (c.findById member id) (c.findById exempt id) :=
  (twins_openSource hmember hexempt rfl _ _ .label).bind fun _ _ hopened =>
    (((hopened.bind (by decide) _).filter (p := c.idTest) nofun).traverseAll _ _).build

theorem agree_findSimilar (vector : List Float) (k : Nat) :
    Result.Agree (c.Lifted company) (c.findSimilar member vector k) (c.findSimilar exempt vector k) := by
  have hfree : (vectorParams vector k).get? companyParam = none := rfl
  unfold findSimilar
  cases c.descriptor.vectorIndex? with
  | none => exact .error _
  | some index =>
    by_cases hk : k = 0
    · simp only [hk, if_true]
      exact .error _
    · simp only [hk, if_false]
      exact (twins_openSource hmember hexempt hfree _ _ (vectorSource index.name)).bind fun _ _ hopened =>
        (hopened.traverseAll _ _).build

theorem agree_delete (id : String) :
    Result.Agree (c.Lifted company) (c.delete member id) (c.delete exempt id) :=
  (twins_matchById hmember hexempt).bind fun _ _ hopened => (((hopened.push _).push _).push _).build

end Callers

/-- The statements of an operation on an entity, for a tenant and without the restriction to that tenant. -/
def LiftedMain (c : Compiler) (company : String) (r r' : Compiled) : Prop :=
  r.precheck = none ∧ r'.precheck = none ∧ c.Lifted company r.main r'.main

/-- Elevated access lifts the restriction to the caller's tenant and changes nothing else: what compiles for one
compiles for the other, to statements that agree but for the tenant, and what does not fails for the same reason. -/
theorem compile_elevated {member exempt : Caller} {op : Operation} (hscoped : c.descriptor.companyScoped = true)
    (hplain : member.elevated = false) (hcompany : member.company = some company) (hne : company ≠ "")
    (helevated : exempt.elevated = true) (hop : op.confined = true) :
    Result.Agree (c.LiftedMain company) (c.compile member op) (c.compile exempt op) := by
  have hmember : c.scope member = .ok (some company) := scope_of_member hscoped hplain hcompany hne
  have hexempt : c.scope exempt = .ok none := scope_of_elevated helevated
  have hmain {x y : Result Statement} (h : Result.Agree (c.Lifted company) x y) :
      Result.Agree (c.LiftedMain company) (Except.map (⟨none, ·⟩) x) (Except.map (⟨none, ·⟩) y) :=
    h.map fun _ _ hlifted => ⟨rfl, rfl, hlifted⟩
  cases op with
  | find criteria => exact hmain (agree_list hmember hexempt criteria none)
  | findByRelated relationship ids criteria =>
    exact hmain (agree_findByRelated hmember hexempt relationship ids criteria)
  | findById id => exact hmain (agree_findById hmember hexempt id)
  | findSimilar vector k => exact hmain (agree_findSimilar hmember hexempt vector k)
  | existsUnscoped id => cases hop
  | write mode input => cases hop
  | delete id => exact hmain (agree_delete hmember hexempt id)

/-- A filtered search in the text of notes: the filter stands at the hop to the tenant, or at the hits. -/
theorem compile_elevated_search :
    let c : Compiler :=
      ⟨((Schema.Descriptor.base "Note" "note").withTenant.withField "title" ⟨.string, none⟩).withFulltext "note_text"
        ["title"], default⟩
    let op : Operation := .find ⟨some "plan", none, .ofList [("title", .str "Plan")]⟩
    ∃ r r', c.compile (.member "c1" "u1") op = .ok r ∧ c.compile (.exempt "u2") op = .ok r' ∧
      c.LiftedMain "c1" r r' := by
  intro c op
  have hagree : Result.Agree (c.LiftedMain "c1") (c.compile (.member "c1" "u1") op) (c.compile (.exempt "u2") op) :=
    compile_elevated rfl rfl rfl (by decide) rfl rfl
  obtain ⟨r, hr⟩ : ∃ r, c.compile (.member "c1" "u1") op = .ok r := ⟨_, rfl⟩
  obtain ⟨r', hr'⟩ : ∃ r', c.compile (.exempt "u2") op = .ok r' := ⟨_, rfl⟩
  rw [hr, hr'] at hagree
  cases hagree with
  | ok hlifted => exact ⟨r, r', hr, hr', hlifted⟩

end Compiler
end EntityGraph.Compile
