import EntityGraph.Proofs.Cypher.Anatomy
import EntityGraph.Proofs.Dict
import EntityGraph.Proofs.Listing.Counts

/-!
# All statements of a compiler

Every statement that a compiler makes is one of eight outlines: a list, its count, a single entity, neighbours, a
question of existence, a write, a deletion or a look-up of linked nodes. What is to be shown of every statement is
shown of the eight.
-/
namespace EntityGraph.Compile

open Cypher
open Json (Value)
open Schema (Relationship OrderBy)

namespace Compiler

/-- The statements that a compiler makes: the one of an operation, its look-up of linked nodes, the look-up of any
references, and the counts of all these. -/
inductive Emits (c : Compiler) : Statement → Prop where
  | main {caller : Caller} {op : Operation} {r : Compiled} (h : c.compile caller op = .ok r) : Emits c r.main
  | precheck {caller : Caller} {op : Operation} {r : Compiled} {s : Statement}
      (h : c.compile caller op = .ok r) (hs : r.precheck = some s) : Emits c s
  | lookup {refs : List Reference} {s : Statement} (h : c.relatedExistence refs = .ok (some s)) : Emits c s
  | count {s t : Statement} (h : Emits c s) (ht : s.count? = some t) : Emits c t

variable (c : Compiler)

/-- The statement that finds an entity by its id. -/
def singleStatement (scope : Option String) (id : String) : Statement :=
  ⟨c.openingInit scope.isSome .label ++ (c.openingLast scope.isSome .label).guarded c.idTest :: c.tail [c.node] [],
    (withScope scope ∅).insert searchParam (.str id), some c.node, some c.label⟩

/-- The statement that finds the neighbours of a vector. -/
def neighboursStatement (index : String) (scope : Option String) (vector : List Float) (k : Nat) : Statement :=
  ⟨c.openingInit scope.isSome (vectorSource index) ++
      c.openingLast scope.isSome (vectorSource index) :: c.tail [c.node, scoreVar] scoreKeys,
    withScope scope (vectorParams vector k), some c.node, some c.label⟩

/-- The statement that asks whether an entity exists at all. -/
def existenceStatement (id : String) : Statement :=
  ⟨[(Clause.matching (.node (.labeled c.node c.label))).guarded c.idTest,
      .returning [.expr (.truth (.gt (.apply "count" [.var c.node]) (.int 0))) "exists"] false []],
    (∅ : Params).insert searchParam (.str id), none, some c.label⟩

/-- The statement of a write. -/
def writeStatement (mode : WriteMode) (scope : Option String) (id : String) (input : Input) (links : List Links)
    (updates : List EdgeUpdate) : Statement :=
  ⟨c.writeClauses mode scope.isSome input links updates, c.writeParams mode scope id input links updates,
    some c.node, some c.label⟩

/-- What a deletion does once the entity is found. -/
def deletionClauses : List Clause :=
  [.projection [.ofVar c.node, .expr (.prop c.node "id") "deletedId"] false none [] false, .delete [c.node] true,
    .returning [.var "deletedId" (some "id")] false []]

/-- The statement of a deletion. -/
def deletionStatement (scope : Option String) (id : String) : Statement :=
  ⟨c.writeOpening .put scope.isSome ++ c.deletionClauses, withScope scope ((∅ : Params).insert "id" (.str id)),
    some c.node, some c.label⟩

/-- The statement that looks references up. -/
def lookupStatement (refs : List Reference) : Statement :=
  ⟨existenceClauses, (∅ : Params).insert "relatedRefs" (.arr (refs.map referenceValue)), none, some c.label⟩

/-- What a list may be asked for: filters on known properties, an order that is accepted, and a relationship of the
descriptor. -/
structure Admits (criteria : Criteria) (related : Option (Relationship × List String)) (order : List SortKey) :
    Prop where
  filters : ∀ f ∈ criteria.filters.toList, c.descriptor.knowsProperty f.1 = true
  order : c.listOrder criteria = .ok order
  related : ∀ r ids, related = some (r, ids) → ∃ name, (name, r) ∈ c.links

/-- The outlines of all statements. -/
inductive Outlined : Statement → Prop where
  | list (scope : Option String) {criteria : Criteria} {related : Option (Relationship × List String)}
      {order : List SortKey} (h : c.Admits criteria related order) :
      Outlined (c.listStatement scope criteria related order)
  | count (scope : Option String) {criteria : Criteria} {related : Option (Relationship × List String)}
      {order : List SortKey} (h : c.Admits criteria related order) :
      Outlined (c.countStatement scope criteria related order)
  | single (scope : Option String) (id : String) : Outlined (c.singleStatement scope id)
  | neighbours (scope : Option String) (vector : List Float) (k : Nat) {index : Schema.Index}
      (h : index ∈ c.descriptor.indexes) : Outlined (c.neighboursStatement index.name scope vector k)
  | existence (id : String) : Outlined (c.existenceStatement id)
  | write (mode : WriteMode) (scope : Option String) (id : String) (input : Input) {links : List Links}
      {updates : List EdgeUpdate} (hlinks : ∀ l ∈ links, (l.name, l.relationship) ∈ c.links)
      (hupdates : ∀ u ∈ updates, (u.name, u.relationship) ∈ c.links) :
      Outlined (c.writeStatement mode scope id input links updates)
  | deletion (scope : Option String) (id : String) : Outlined (c.deletionStatement scope id)
  | lookup (refs : List Reference) : Outlined (c.lookupStatement refs)

/-! ## Operations have outlines -/

theorem knows_of_applyFilters {b b' : Builder} {filters : List (String × Value)}
    (h : c.applyFilters b filters = .ok b') : ∀ f ∈ filters, c.descriptor.knowsProperty f.1 = true := by
  induction filters generalizing b with
  | nil => simp
  | cons f rest ih =>
    obtain ⟨b₁, hfirst, hrest⟩ := Result.bind_eq_ok_iff.1 h
    intro g hg
    rcases List.mem_cons.1 hg with rfl | hg
    · unfold applyFilter at hfirst
      split at hfirst
      · cases hfirst
      · rename_i hknown
        simpa using hknown
    · exact ih hrest g hg

theorem outlined_list {caller : Caller} {criteria : Criteria} {related : Option (Relationship × List String)}
    {s : Statement} (hrelated : ∀ r ids, related = some (r, ids) → ∃ name, (name, r) ∈ c.links)
    (h : c.list caller criteria related = .ok s) : c.Outlined s := by
  obtain ⟨_, _, _, _, -, -, hfilters, -⟩ := c.list_steps h
  obtain ⟨scope, order, -, horder, rfl⟩ := c.list_outline h
  exact .list scope ⟨c.knows_of_applyFilters hfilters, horder, hrelated⟩

theorem mem_links_of_relationship {name : String} {r : Relationship}
    (h : c.descriptor.relationship name = .ok r) : (name, r) ∈ c.links := by
  unfold Schema.Descriptor.relationship at h
  cases hfound : c.descriptor.relationships.get? name with
  | none =>
    rw [hfound] at h
    cases h
  | some found =>
    rw [hfound] at h
    cases h
    exact Dict.mem_of_get? hfound

theorem mem_links_of_resolveLinks {caller : Caller} {mode : WriteMode} {input : Input} {links : List Links}
    (h : c.resolveLinks caller mode input c.links = .ok links) :
    ∀ l ∈ links, (l.name, l.relationship) ∈ c.links := by
  intro l hl
  have houtline := List.mem_map_of_mem (f := Links.outline) hl
  rw [c.outline_resolveLinks h, List.mem_filterMap] at houtline
  obtain ⟨e, he, houtline⟩ := houtline
  obtain ⟨idle, -, heq⟩ := Option.map_eq_some_iff.1 houtline
  obtain ⟨hname, hrelationship, -⟩ : e.1 = l.name ∧ e.2 = l.relationship ∧ _ := by
    simpa only [Links.outline, Prod.mk.injEq] using heq
  rw [← hname, ← hrelationship]
  exact he

theorem mem_links_of_writeUpdates {mode : WriteMode} {input : Input} {updates : List EdgeUpdate}
    (h : c.writeUpdates mode input = .ok updates) : ∀ u ∈ updates, (u.name, u.relationship) ∈ c.links := by
  intro u hu
  unfold writeUpdates at h
  split at h
  · have houtline := List.mem_map_of_mem (f := EdgeUpdate.outline) hu
    rw [outline_resolveEdgeUpdates h, List.mem_filterMap] at houtline
    obtain ⟨e, he, houtline⟩ := houtline
    split at houtline
    · rw [Option.some.injEq] at houtline
      rw [show (u.name, u.relationship) = e from houtline.symm]
      exact he
    · cases houtline
  · cases h
    cases hu

theorem outlined_lookup {refs : List Reference} {s : Statement} (h : c.relatedExistence refs = .ok (some s)) :
    c.Outlined s := by
  have hlookup := c.relatedExistence_outline h
  split at hlookup
  · cases hlookup
  · cases hlookup
    exact .lookup refs

theorem outlined_main {caller : Caller} {op : Operation} {r : Compiled} (h : c.compile caller op = .ok r) :
    c.Outlined r.main := by
  cases op with
  | find criteria =>
    obtain ⟨s, hs, rfl⟩ := Result.map_eq_ok_iff.1 h
    exact c.outlined_list (fun _ _ hnone => by cases hnone) hs
  | findByRelated relationship ids criteria =>
    obtain ⟨s, hs, rfl⟩ := Result.map_eq_ok_iff.1 h
    obtain ⟨r, hr, hs⟩ := Result.bind_eq_ok_iff.1 hs
    refine c.outlined_list (fun _ _ hsome => ?_) hs
    cases hsome
    exact ⟨relationship, c.mem_links_of_relationship hr⟩
  | findById id =>
    obtain ⟨s, hs, rfl⟩ := Result.map_eq_ok_iff.1 h
    obtain ⟨scope, -, rfl⟩ := c.findById_outline hs
    exact .single scope id
  | findSimilar vector k =>
    obtain ⟨s, hs, rfl⟩ := Result.map_eq_ok_iff.1 h
    obtain ⟨index, scope, hindex, -, rfl⟩ := c.findSimilar_outline hs
    exact .neighbours scope vector k (List.mem_of_find?_eq_some hindex)
  | existsUnscoped id =>
    unfold compile at h
    obtain ⟨s, hs, rfl⟩ := Result.map_eq_ok_iff.1 h
    rw [c.existsUnscoped_outline hs]
    exact .existence id
  | write mode input =>
    obtain ⟨plan, hplan, rfl⟩ := Result.map_eq_ok_iff.1 h
    obtain ⟨scope, links, updates, -, -, hlinks, hupdates, -, hwrite⟩ := c.write_outline hplan
    rw [hwrite]
    exact .write mode scope plan.id input (c.mem_links_of_resolveLinks hlinks) (c.mem_links_of_writeUpdates hupdates)
  | delete id =>
    obtain ⟨s, hs, rfl⟩ := Result.map_eq_ok_iff.1 h
    obtain ⟨scope, -, rfl⟩ := c.delete_outline hs
    exact .deletion scope id

/-- A write looks up the references of its links, and no other operation looks anything up. -/
theorem exists_relatedExistence {caller : Caller} {op : Operation} {r : Compiled} {s : Statement}
    (h : c.compile caller op = .ok r) (hs : r.precheck = some s) :
    ∃ refs, c.relatedExistence refs = .ok (some s) := by
  unfold compile at h
  cases op with
  | write mode input =>
    obtain ⟨plan, hplan, rfl⟩ := Result.map_eq_ok_iff.1 h
    obtain ⟨-, links, -, -, -, -, -, hprecheck, -⟩ := c.write_outline hplan
    exact ⟨_, hprecheck.trans (congrArg Except.ok hs)⟩
  | _ =>
    obtain ⟨_, -, rfl⟩ := Result.map_eq_ok_iff.1 h
    cases hs

/-- The last clause of an opening takes tests. -/
theorem guardable_openingLast (tied : Bool) (source : Source) : (c.openingLast tied source).guardable = true := by
  cases tied <;> cases source <;> rfl

/-! ## Only lists are paged -/

theorem inner_openingInit (tied : Bool) {source : Source}
    (hsource : ∀ procedure args, source = .index procedure args → '$' ∉ procedure.toList) :
    areInner (c.openingInit tied source) = true := by
  cases source with
  | label => cases tied <;> rfl
  | index procedure args =>
    have hprocedure := hsource procedure args rfl
    cases tied <;> simp [openingInit, Clause.isInner, hitClause, hprocedure]

theorem inner_openingLast (tied : Bool) (source : Source) : (c.openingLast tied source).isInner = true := by
  cases tied <;> cases source <;> rfl

theorem plain_listSource (criteria : Criteria) (procedure : String) (args : List Expr)
    (h : c.listSource criteria = .index procedure args) : '$' ∉ procedure.toList := by
  unfold listSource at h
  split at h
  · cases h
    decide
  · cases h

theorem plain_vectorSource (index procedure : String) (args : List Expr)
    (h : vectorSource index = .index procedure args) : '$' ∉ procedure.toList := by
  cases h
  decide

theorem inner_candidates (tied : Bool) (criteria : Criteria) (related : Option Relationship) :
    areInner (c.candidates tied criteria related) = true := by
  have hlast := Clause.isInner_guardedBy (c.inner_openingLast tied (c.listSource criteria)) (c.listTests criteria)
  have hrelated : areInner (related.map c.relatedMatch).toList = true := by cases related <;> rfl
  simp [candidates, c.inner_openingInit tied (c.plain_listSource criteria), hlast, hrelated]

theorem inner_traversals (bound : List String) (links : List (String × Relationship)) :
    areInner (c.traversals bound links) = true := by
  induction links generalizing bound with
  | nil => rfl
  | cons e rest ih => simp [traversals, traversalMatch, traversalWith, Clause.isInner, ih]

theorem tail_eq (hreturn : c.descriptor.returnClause = none) (bound : List String) (order : List SortKey) :
    c.tail bound order = c.traversals bound c.links ++ [.returning c.resultColumns false order] := by
  rw [tail, finish, hreturn]

theorem inner_writeOpening (mode : WriteMode) (tied : Bool) : areInner (c.writeOpening mode tied) = true := by
  cases mode <;> cases tied <;> rfl

theorem inner_linkClauses (mode : WriteMode) (l : Links) : areInner (c.linkClauses mode l) = true := by
  have hstale : areInner (c.staleBody l.name l.relationship) = true := rfl
  have hmerge : areInner (c.mergeBody l.name l.relationship l.edgeProps.isSome) = true := by
    cases l.edgeProps.isSome <;> rfl
  rw [linkClauses, areInner_append]
  constructor <;> split <;> simp [Clause.isInner, hstale, hmerge]

/-- What a write does before it returns the id. -/
theorem inner_writeClauses (mode : WriteMode) (tied : Bool) (input : Input) (links : List Links)
    (updates : List EdgeUpdate) :
    ∃ ks, areInner ks = true ∧ c.writeClauses mode tied input links updates =
      ks ++ [.returning [.expr (.prop c.node "id") "id"] false []] := by
  refine ⟨c.writeOpening mode tied ++
    .set (c.stamps mode ++ c.fieldAssignments mode input c.descriptor.fields.toList) ::
      (links.flatMap (c.linkClauses mode) ++ updates.map c.updateClause), ?_, by simp [writeClauses]⟩
  have hlinks : areInner (links.flatMap (c.linkClauses mode)) = true := by
    rw [areInner_iff]
    intro k hk
    obtain ⟨l, -, hk⟩ := List.mem_flatMap.1 hk
    exact areInner_iff.1 (c.inner_linkClauses mode l) k hk
  have hupdates : areInner (updates.map c.updateClause) = true := by
    rw [areInner_iff]
    intro k hk
    obtain ⟨u, -, rfl⟩ := List.mem_map.1 hk
    rfl
  simp [c.inner_writeOpening mode tied, Clause.isInner, hlinks, hupdates]

variable {c}

/-- Every statement but that of a list consists of inner clauses and its result. -/
theorem Outlined.inner_or_list {s : Statement} (hreturn : c.descriptor.returnClause = none) (h : c.Outlined s) :
    (∃ ks columns order, areInner ks = true ∧ s.clauses = ks ++ [.returning columns false order]) ∨
      ∃ scope criteria related order, c.Admits criteria related order ∧
        s = c.listStatement scope criteria related order := by
  cases h with
  | @list scope criteria related order hadmits => exact .inr ⟨scope, criteria, related, order, hadmits, rfl⟩
  | @count scope criteria related order hadmits =>
    refine .inl ⟨c.candidates scope.isSome criteria (related.map Prod.fst) ++
      [Statement.unordered (c.pageClause criteria (related.map Prod.fst) order)], _, [], ?_,
      by simp [countStatement, counting]; rfl⟩
    simp [c.inner_candidates, pageClause, Statement.unordered, Clause.isInner]
  | single scope id =>
    refine .inl ⟨c.openingInit scope.isSome .label ++
      (c.openingLast scope.isSome .label).guarded c.idTest :: c.traversals [c.node] c.links, c.resultColumns, [], ?_,
      by simp [singleStatement, c.tail_eq hreturn]⟩
    have hlast := Clause.isInner_guardedBy (c.inner_openingLast scope.isSome .label) [c.idTest]
    simpa [c.inner_openingInit, c.inner_traversals] using hlast
  | @neighbours scope vector k index hindex =>
    refine .inl ⟨c.openingInit scope.isSome (vectorSource index.name) ++
      c.openingLast scope.isSome (vectorSource index.name) :: c.traversals [c.node, scoreVar] c.links,
      c.resultColumns, scoreKeys, ?_, by simp [neighboursStatement, c.tail_eq hreturn]⟩
    simp [c.inner_openingInit scope.isSome (plain_vectorSource index.name), c.inner_openingLast, c.inner_traversals]
  | existence id =>
    exact .inl ⟨[(Clause.matching (.node (.labeled c.node c.label))).guarded c.idTest], _, [], rfl, rfl⟩
  | write mode scope id input hlinks hupdates =>
    obtain ⟨ks, hks, hclauses⟩ := c.inner_writeClauses mode scope.isSome input _ _
    exact .inl ⟨ks, _, [], hks, hclauses⟩
  | deletion scope id =>
    refine .inl ⟨c.writeOpening .put scope.isSome ++
      [.projection [.ofVar c.node, .expr (.prop c.node "id") "deletedId"] false none [] false, .delete [c.node] true],
      [.var "deletedId" (some "id")], [], ?_, by simp [deletionStatement, deletionClauses]⟩
    simp [c.inner_writeOpening, Clause.isInner]
  | lookup refs => exact .inl ⟨existenceClauses.dropLast, _, [], rfl, rfl⟩

/-- Every statement has the anatomy of a statement. -/
theorem Outlined.anatomy {s : Statement} (hreturn : c.descriptor.returnClause = none) (h : c.Outlined s) :
    Anatomy s.clauses := by
  rcases h.inner_or_list hreturn with ⟨ks, columns, order, hks, hclauses⟩ |
    ⟨scope, criteria, related, order, -, rfl⟩
  · rw [hclauses]
    exact .plain hks columns order
  · rw [listStatement, listClauses, c.tail_eq hreturn]
    exact .paged (c.inner_candidates _ _ _) (c.inner_traversals _ _) _ _ _ _ _

theorem throughMarker_eq_none {ks : List Clause} (h : ks.any Clause.isPageMarker = false) :
    Statement.throughMarker ks = none := by
  induction ks with
  | nil => rfl
  | cons k rest ih =>
    rw [List.any_cons, Bool.or_eq_false_iff] at h
    rw [Statement.throughMarker, if_neg (by simp [h.1]), ih h.2]
    rfl

/-- There is no count of a statement without a page. -/
theorem count?_eq_none {s : Statement} (h : s.isPaginated = false) : s.count? = none := by
  unfold Statement.count?
  rw [throughMarker_eq_none h]
  cases s.primary <;> rfl

/-- Every statement that a compiler makes has one of the eight outlines. -/
theorem Emits.outlined {s : Statement} (hreturn : c.descriptor.returnClause = none) (h : c.Emits s) :
    c.Outlined s := by
  induction h with
  | main h => exact c.outlined_main h
  | precheck h hs =>
    obtain ⟨refs, hlookup⟩ := c.exists_relatedExistence h hs
    exact c.outlined_lookup hlookup
  | lookup h => exact c.outlined_lookup h
  | @count s t _ ht ih =>
    rcases ih.inner_or_list hreturn with ⟨ks, columns, order', hks, hclauses⟩ |
      ⟨scope, criteria, related, order, hadmits, rfl⟩
    · have hpaged : s.isPaginated = false := by
        rw [Statement.isPaginated, hclauses, List.any_append, any_marker_of_areInner hks]
        rfl
      rw [count?_eq_none hpaged] at ht
      cases ht
    · rw [c.count?_listStatement] at ht
      cases ht
      exact .count scope hadmits

end Compiler
end EntityGraph.Compile
