import EntityGraph.Proofs.Cypher.Scope
import EntityGraph.Proofs.Statements.Identifiers

/-!
# Statements are well-formed

The opening of a statement binds the entity, each traversal carries on what was bound before it together with what it
adds itself, and the subqueries of a write start from the entity. So every variable is in scope where it is used, down
to the order of the result.
-/
namespace EntityGraph.Compile

open Cypher

/-- The variables that a read starts with. -/
def Compiler.sourceVars (c : Compiler) : Source → List String
  | .label => [c.node]
  | .index _ _ => [c.node, scoreVar]

/-- The variables in what an index is asked for. -/
def Source.free : Source → List String
  | .label => []
  | .index _ args => exprsFree args

namespace Compiler

open Json (Value)
open Schema (Relationship Field)

variable {c : Compiler} {scope : List String}

@[simp] theorem start_relationshipPattern (binder : Option String) (r : Relationship) (target : Node) :
    (c.relationshipPattern binder r target).start = .bound c.node := rfl

@[simp] theorem free_relationshipPattern (binder : Option String) (r : Relationship) (target : Node) :
    (c.relationshipPattern binder r target).free = c.node :: target.free := by
  simp [relationshipPattern]

@[simp] theorem binders_relationshipPattern (binder : Option String) (r : Relationship) (target : Node) :
    (c.relationshipPattern binder r target).binders = c.node :: (binder.toList ++ target.binder.toList) := by
  simp [relationshipPattern]

theorem free_ofVar (names : List String) : (names.map Column.ofVar).flatMap Column.free = names := by
  induction names with
  | nil => rfl
  | cons v rest ih =>
    rw [List.map_cons, List.flatMap_cons, ih]
    rfl

theorem names_ofVar (names : List String) : (names.map Column.ofVar).map Column.name = names := by
  rw [List.map_map]
  exact List.map_id names

/-! ## Reads -/

/-- The opening of a read brings the variables in scope that the read starts with. -/
theorem scoped_opening (tied : Bool) {source : Source} (hsource : source.free = []) :
    Scoped [] (c.openingInit tied source) ∧
      (c.openingLast tied source).Scoped (scopeAfter [] (c.openingInit tied source)) ∧
      c.sourceVars source ⊆ (c.openingLast tied source).scope (scopeAfter [] (c.openingInit tied source)) := by
  cases source with
  | label =>
    cases tied <;> simp [openingInit, openingLast, sourceVars, Clause.matching, Clause.scope, membership, tenantNode]
  | index procedure args =>
    have hargs : exprsFree args = [] := hsource
    cases tied <;>
      simp [openingInit, openingLast, sourceVars, hitClause, Clause.matching, Clause.scope, membership, tenantNode, hargs]

theorem free_listTests (criteria : Criteria) : ∀ t ∈ c.listTests criteria, t.free ⊆ [c.node] := by
  intro t ht
  rcases List.mem_append.1 ht with ht | ht
  · obtain ⟨f, -, rfl⟩ := List.mem_map.1 ht
    cases hnull : f.2.isNull <;> simp [filterTest]
  · obtain ⟨r, -, rfl⟩ := List.mem_map.1 ht
    simp [edgeTest]

theorem free_listSource (criteria : Criteria) : (c.listSource criteria).free = [] := by
  unfold listSource
  split <;> simp [Source.free]

theorem sourceVars_listSource (criteria : Criteria) : c.sourceVars (c.listSource criteria) = c.carried criteria := by
  unfold listSource carried
  cases c.termSource? criteria <;> rfl

theorem node_mem_sourceVars (source : Source) : c.node ∈ c.sourceVars source := by
  cases source <;> exact List.mem_cons_self

theorem scoped_candidates (tied : Bool) (criteria : Criteria) (related : Option Relationship) :
    Scoped [] (c.candidates tied criteria related) ∧
      c.carried criteria ⊆ scopeAfter [] (c.candidates tied criteria related) := by
  obtain ⟨hinit, hlast, hvars⟩ := scoped_opening (c := c) tied (free_listSource criteria)
  have hnode := hvars (node_mem_sourceVars _)
  have htested := Clause.scoped_guardedBy hlast fun t ht =>
    List.Subset.trans (free_listTests criteria t ht) (List.cons_subset.2 ⟨hnode, List.nil_subset _⟩)
  rw [sourceVars_listSource] at hvars
  cases related with
  | none => simpa [candidates, hinit, htested] using hvars
  | some r =>
    have hmatch : (c.relatedMatch r).Scoped ((c.openingLast tied (c.listSource criteria)).scope
        (scopeAfter [] (c.openingInit tied (c.listSource criteria)))) := by simp [relatedMatch, hnode]
    have hkept : c.carried criteria ⊆ (c.relatedMatch r).scope ((c.openingLast tied (c.listSource criteria)).scope
        (scopeAfter [] (c.openingInit tied (c.listSource criteria)))) := List.subset_append_of_subset_left _ hvars
    simpa [candidates, hinit, htested, hmatch] using hkept

theorem free_order {criteria : Criteria} {order : List SortKey} (h : c.listOrder criteria = .ok order) :
    orderFree order ⊆ c.carried criteria := by
  unfold listOrder orderKeys at h
  unfold carried
  split at h
  · rename_i hhit
    cases h
    simp [hhit, scoreKeys]
  · rename_i hhit
    rw [if_neg hhit]
    split at h
    · split at h
      · cases h
        simp
      · cases h
    · cases h
      simp

theorem scoped_pageClause {criteria : Criteria} {order : List SortKey} (horder : orderFree order ⊆ c.carried criteria)
    (hcarried : c.carried criteria ⊆ scope) (related : Option Relationship) :
    (c.pageClause criteria related order).Scoped scope := by
  rw [pageClause, Clause.Scoped, free_ofVar, names_ofVar]
  exact ⟨hcarried, List.nil_subset _, horder⟩

/-! ## Traversals -/

theorem names_gathered (name : String) (r : Relationship) :
    (c.gathered name r).map Column.name = c.boundBy name r := by
  cases hcard : r.cardinality <;> cases hfields : r.fields.isEmpty <;>
    simp [gathered, boundBy, edgeVars, firstOf, hcard, hfields]

/-- The aggregates of a traversal use what its match binds. -/
theorem free_gathered (name : String) (r : Relationship) :
    (c.gathered name r).flatMap Column.free ⊆ (c.traversalMatch name r).scope scope := by
  have hentry : (c.edgeEntry name r).free ⊆ [c.targetVar name, c.edgeVar name] := by
    have hentries : entriesFree (r.fields.map (fun f => (f.name, .prop (c.edgeVar name) f.name))) ⊆ [c.edgeVar name] := by
      induction r.fields with
      | nil => exact List.nil_subset _
      | cons f rest ih => simpa using ih
    have hentries' := List.Subset.trans hentries (List.subset_cons_self (c.targetVar name) _)
    simpa [edgeEntry] using hentries'
  cases hcard : r.cardinality <;> cases hfields : r.fields.isEmpty <;>
    simp [gathered, hcard, hfields, firstOf, traversalMatch, Clause.scope]
  exact List.Subset.trans hentry (by simp)

/-- What one traversal keeps: it needs the entity and what is carried, and leaves what is carried with what it adds. -/
theorem scoped_traversal {bound : List String} (hnode : c.node ∈ bound) (hbound : bound ⊆ scope) (name : String)
    (r : Relationship) :
    Scoped scope [c.traversalMatch name r, c.traversalWith bound name r] ∧
      scopeAfter scope [c.traversalMatch name r, c.traversalWith bound name r] = bound ++ c.boundBy name r := by
  have hmatch : (c.traversalMatch name r).Scoped scope := by simp [traversalMatch, hbound hnode]
  have hkept : bound ⊆ (c.traversalMatch name r).scope scope := List.subset_append_of_subset_left _ hbound
  have hwith : (c.traversalWith bound name r).Scoped ((c.traversalMatch name r).scope scope) := by
    rw [traversalWith, Clause.Scoped, List.flatMap_append, free_ofVar]
    exact ⟨List.append_subset.2 ⟨hkept, free_gathered name r⟩, List.nil_subset _, List.nil_subset _⟩
  refine ⟨by simp [hmatch, hwith], ?_⟩
  rw [scopeAfter_cons, scopeAfter_cons, scopeAfter_nil, traversalWith, Clause.scope, List.map_append, names_ofVar,
    names_gathered]

/-- All variables that the traversals of relationships leave. -/
theorem scoped_traversals (links : List (String × Relationship)) {bound : List String} (hnode : c.node ∈ bound)
    (hbound : bound ⊆ scope) :
    Scoped scope (c.traversals bound links) ∧
      bound ++ links.flatMap (fun e => c.boundBy e.1 e.2) ⊆ scopeAfter scope (c.traversals bound links) := by
  induction links generalizing bound scope with
  | nil => simpa [traversals] using hbound
  | cons e rest ih =>
    obtain ⟨hstep, hafter⟩ := scoped_traversal hnode hbound e.1 e.2
    obtain ⟨hrest, hleft⟩ := ih (List.mem_append_left _ hnode) (List.Subset.refl (bound ++ c.boundBy e.1 e.2))
    have hcons : c.traversals bound (e :: rest) =
        [c.traversalMatch e.1 e.2, c.traversalWith bound e.1 e.2] ++ c.traversals (bound ++ c.boundBy e.1 e.2) rest := rfl
    rw [hcons, scoped_append, scopeAfter_append, hafter, List.flatMap_cons, ← List.append_assoc]
    exact ⟨⟨hstep, hrest⟩, hleft⟩

theorem free_columnsBy (name : String) (r : Relationship) :
    (c.columnsBy name r).flatMap Column.free ⊆ c.boundBy name r := by
  cases hcard : r.cardinality with
  | one =>
    simp only [columnsBy, boundBy, edgeVars, hcard]
    refine List.cons_subset.2 ⟨List.mem_cons_self, fun v hv => List.mem_cons_of_mem _ ?_⟩
    obtain ⟨column, hcolumn, hv⟩ := List.mem_flatMap.1 hv
    obtain ⟨f, hf, rfl⟩ := List.mem_map.1 hcolumn
    rw [List.isEmpty_eq_false_iff.2 (List.ne_nil_of_mem hf)]
    exact hv
  | many =>
    rw [columnsBy, hcard]
    exact (free_ofVar _).symm ▸ List.Subset.refl _

theorem free_resultColumns (bound : List String) (hnode : c.node ∈ bound) :
    c.resultColumns.flatMap Column.free ⊆ bound ++ c.links.flatMap (fun e => c.boundBy e.1 e.2) := by
  rw [resultColumns, List.flatMap_cons, List.flatMap_assoc]
  refine List.append_subset.2 ⟨List.cons_subset.2 ⟨List.mem_append_left _ hnode, List.nil_subset _⟩, fun v hv => ?_⟩
  obtain ⟨e, he, hv⟩ := List.mem_flatMap.1 hv
  exact List.mem_append_right _ (List.mem_flatMap.2 ⟨e, he, free_columnsBy e.1 e.2 hv⟩)

theorem scoped_tail (hreturn : c.descriptor.returnClause = none) {bound : List String} {order : List SortKey}
    (hnode : c.node ∈ bound) (hbound : bound ⊆ scope) (horder : orderFree order ⊆ bound) :
    Scoped scope (c.tail bound order) := by
  obtain ⟨hscoped, hleft⟩ := scoped_traversals c.links hnode hbound
  have hfinish : (Clause.returning c.resultColumns false order).Scoped (scopeAfter scope (c.traversals bound c.links)) :=
    ⟨List.Subset.trans (free_resultColumns bound hnode) hleft,
      fun v hv => List.mem_append_left _ (hleft (List.mem_append_left _ (horder hv)))⟩
  rw [c.tail_eq hreturn, scoped_append]
  exact ⟨hscoped, hfinish, trivial⟩

/-! ## Writes -/

theorem scoped_writeOpening (mode : WriteMode) (tied : Bool) :
    Scoped [] (c.writeOpening mode tied) ∧ c.node ∈ scopeAfter [] (c.writeOpening mode tied) := by
  cases mode <;> cases tied <;> simp [writeOpening, Clause.matching, Clause.scope, membership, tenantNode, nodeById]

theorem free_cast (type : Schema.FieldType) (key : String) : (cast type (.param key)).free = [] := by
  cases type <;> simp [cast, dateOf]

/-- The assignments of a write use the entity only. -/
theorem free_assignments (mode : WriteMode) (input : Input) (fields : List (String × Field)) :
    (c.stamps mode ++ c.fieldAssignments mode input fields).flatMap Assignment.free ⊆ [c.node] := by
  intro v hv
  obtain ⟨a, ha, hv⟩ := List.mem_flatMap.1 hv
  rcases List.mem_append.1 ha with ha | ha
  · have hstamps : (c.stamps mode).flatMap Assignment.free ⊆ [c.node] := by
      cases mode <;> simp [stamps, assign, now]
    exact hstamps (List.mem_flatMap.2 ⟨a, ha, hv⟩)
  · obtain ⟨e, -, hvalue⟩ := List.mem_filterMap.1 ha
    obtain ⟨value, -, rfl⟩ := Option.map_eq_some_iff.1 hvalue
    unfold fieldAssignment assign at hv
    split at hv
    · simpa using hv
    · simpa [free_cast] using hv

theorem scoped_staleBody (name : String) (r : Relationship) : Scoped [c.node] (c.staleBody name r) := by
  simp [staleBody, Clause.scope]

theorem scoped_mergeBody (name : String) (r : Relationship) (withProps : Bool) :
    Scoped [c.node] (c.mergeBody name r withProps) := by
  have hmerged : (mergedProps name r).free ⊆ [name ++ "_id"] := by
    unfold mergedProps
    split <;> simp
  have hset : (mergedProps name r).free ⊆ [c.node, name ++ "_id", name ++ "_target", c.node, name ++ "_edge",
      name ++ "_target"] := List.Subset.trans hmerged (by simp)
  cases withProps <;> simp [mergeBody, Clause.matching, Clause.scope, hset]

theorem scoped_updateBody (name : String) (r : Relationship) : Scoped [c.node] (c.updateBody name r) := by
  simp [updateBody, Clause.matching, Clause.scope]

/-- Subqueries that start from the entity leave the scope as it is. -/
theorem scoped_subqueries (hnode : c.node ∈ scope) {ks : List Clause}
    (h : ∀ k ∈ ks, ∃ body, k = .subquery [c.node] body ∧ Scoped [c.node] body) :
    Scoped scope ks ∧ scopeAfter scope ks = scope := by
  induction ks with
  | nil => exact ⟨scoped_nil scope, rfl⟩
  | cons k rest ih =>
    obtain ⟨body, rfl, hbody⟩ := h k List.mem_cons_self
    obtain ⟨hrest, hafter⟩ := ih fun j hj => h j (List.mem_cons_of_mem _ hj)
    have hk : (Clause.subquery [c.node] body).Scoped scope := by simp [hnode, hbody]
    exact ⟨scoped_cons.2 ⟨hk, hrest⟩, hafter⟩

theorem scoped_writeClauses (mode : WriteMode) (tied : Bool) (input : Input) (links : List Links)
    (updates : List EdgeUpdate) : Scoped [] (c.writeClauses mode tied input links updates) := by
  obtain ⟨hopening, hnode⟩ := scoped_writeOpening (c := c) mode tied
  have hset : (Clause.set (c.stamps mode ++ c.fieldAssignments mode input c.descriptor.fields.toList)).Scoped
      (scopeAfter [] (c.writeOpening mode tied)) :=
    List.Subset.trans (free_assignments mode input _) (List.cons_subset.2 ⟨hnode, List.nil_subset _⟩)
  have hlinks : ∀ k ∈ links.flatMap (c.linkClauses mode) ++ updates.map c.updateClause,
      ∃ body, k = .subquery [c.node] body ∧ Scoped [c.node] body := by
    intro k hk
    rcases List.mem_append.1 hk with hk | hk
    · obtain ⟨l, -, hk⟩ := List.mem_flatMap.1 hk
      rcases List.mem_append.1 hk with hk | hk
      · split at hk
        · cases hk
        · exact ⟨_, List.mem_singleton.1 hk, scoped_staleBody l.name l.relationship⟩
      · split at hk
        · cases hk
        · exact ⟨_, List.mem_singleton.1 hk, scoped_mergeBody l.name l.relationship _⟩
    · obtain ⟨u, -, rfl⟩ := List.mem_map.1 hk
      exact ⟨_, rfl, scoped_updateBody u.name u.relationship⟩
  obtain ⟨hsubqueries, hafter⟩ := scoped_subqueries hnode hlinks
  have hreturn : (Clause.returning [.expr (.prop c.node "id") "id"] false []).Scoped
      (scopeAfter [] (c.writeOpening mode tied)) := by simp [hnode]
  have hunchanged : Clause.scope (scopeAfter [] (c.writeOpening mode tied))
      (.set (c.stamps mode ++ c.fieldAssignments mode input c.descriptor.fields.toList)) =
        scopeAfter [] (c.writeOpening mode tied) := rfl
  rw [writeClauses, scoped_append, scoped_cons, hunchanged, scoped_append, hafter]
  exact ⟨hopening, hset, hsubqueries, hreturn, trivial⟩

/-! ## All statements -/

theorem Outlined.scoped (hreturn : c.descriptor.returnClause = none) {s : Statement} (h : c.Outlined s) :
    Scoped [] s.clauses := by
  have hnode : c.node ∈ [c.node] := List.mem_cons_self
  have hidTest : ∀ t ∈ [c.idTest], t.free ⊆ [c.node] := by simp [idTest]
  have htested {scope : List String} (hscope : c.node ∈ scope) : ∀ t ∈ [c.idTest], t.free ⊆ scope := fun t ht =>
    List.Subset.trans (hidTest t ht) (List.cons_subset.2 ⟨hscope, List.nil_subset _⟩)
  cases h with
  | @list scope criteria related order hadmits =>
    obtain ⟨hcandidates, hcarried⟩ := scoped_candidates (c := c) scope.isSome criteria (related.map Prod.fst)
    have horder := free_order hadmits.order
    have hpage := scoped_pageClause horder hcarried (related.map Prod.fst)
    have hcarriedNode : c.node ∈ c.carried criteria := sourceVars_listSource criteria ▸ node_mem_sourceVars _
    refine scoped_append.2 ⟨hcandidates, scoped_cons.2 ⟨hpage, ?_⟩⟩
    rw [pageClause, Clause.scope, names_ofVar]
    exact scoped_tail hreturn hcarriedNode (List.Subset.refl _) horder
  | @count scope criteria related order hadmits =>
    obtain ⟨hcandidates, hcarried⟩ := scoped_candidates (c := c) scope.isSome criteria (related.map Prod.fst)
    have hcarriedNode : c.node ∈ c.carried criteria := sourceVars_listSource criteria ▸ node_mem_sourceVars _
    have hpage : (Statement.unordered (c.pageClause criteria (related.map Prod.fst) order)).Scoped
        (scopeAfter [] (c.candidates scope.isSome criteria (related.map Prod.fst))) := by
      rw [pageClause, Statement.unordered, Clause.Scoped, free_ofVar]
      exact ⟨hcarried, List.nil_subset _, List.nil_subset _⟩
    refine scoped_append.2 ⟨hcandidates, scoped_cons.2 ⟨hpage, ?_⟩⟩
    rw [pageClause, Statement.unordered, Clause.scope, names_ofVar]
    simp [counting, hcarriedNode]
  | single scope id =>
    obtain ⟨hinit, hlast, hvars⟩ := scoped_opening (c := c) scope.isSome (rfl : Source.label.free = [])
    have hopened := hvars (node_mem_sourceVars _)
    have hguarded := Clause.scoped_guardedBy hlast (htested hopened)
    refine scoped_append.2 ⟨hinit, scoped_cons.2 ⟨hguarded, ?_⟩⟩
    rw [Clause.scope_guarded]
    exact scoped_tail hreturn hnode hvars (List.nil_subset _)
  | @neighbours scope vector k index hindex =>
    have hsource : (vectorSource index.name).free = [] := by simp [vectorSource, Source.free]
    obtain ⟨hinit, hlast, hvars⟩ := scoped_opening (c := c) scope.isSome hsource
    refine scoped_append.2 ⟨hinit, scoped_cons.2 ⟨hlast, ?_⟩⟩
    exact scoped_tail hreturn List.mem_cons_self hvars (by simp [scoreKeys])
  | existence id =>
    have hmatch : (Clause.matching (.node (.labeled c.node c.label))).Scoped [] := by
      simp [Clause.matching]
    have hopened : c.node ∈ (Clause.matching (.node (.labeled c.node c.label))).scope [] := by
      simp [Clause.matching, Clause.scope]
    have hguarded := Clause.scoped_guardedBy hmatch (htested hopened)
    refine scoped_cons.2 ⟨hguarded, ?_⟩
    rw [Clause.scope_guarded]
    simp [hopened]
  | write mode scope id input hlinks hupdates => exact scoped_writeClauses mode _ input _ _
  | deletion scope id =>
    obtain ⟨hopening, hopened⟩ := scoped_writeOpening (c := c) .put scope.isSome
    refine scoped_append.2 ⟨hopening, ?_⟩
    simp [deletionClauses, Clause.scope, hopened]
  | lookup refs =>
    simp [lookupStatement, existenceClauses, Clause.scope, Node.free]

/-- Every statement is well-formed. -/
theorem statements_are_wellFormed {s : Statement} (hreturn : c.descriptor.returnClause = none) (h : c.Emits s) :
    WellFormed s.clauses := by
  have houtlined := h.outlined hreturn
  have hanatomy := houtlined.anatomy hreturn
  exact hanatomy.wellFormed (houtlined.scoped hreturn)

/-- An update that links a tag to two books, changes one of the links and looks the books up first. -/
theorem statements_are_wellFormed_two_books :
    let op : Operation := .write .patch (.ofList [("id", .str "t1"), ("books", .ofStrings ["b1", "b2"]),
      ("booksEdgePropsUpdate", .obj [("b1", .obj [("weight", .str "heavy")])])])
    ∃ r lookup, catalogue.compile (.member "c1" "u1") op = .ok r ∧ r.precheck = some lookup ∧
      WellFormed r.main.clauses ∧ WellFormed lookup.clauses := by
  intro op
  have hprecheck : (catalogue.compile (.member "c1" "u1") op).toOption.map (fun r => r.precheck.isSome) = some true := by
    decide +kernel
  obtain ⟨r, hr⟩ : ∃ r, catalogue.compile (.member "c1" "u1") op = .ok r :=
    Result.isSome_toOption_iff.1 (by decide +kernel)
  rw [hr] at hprecheck
  obtain ⟨lookup, hlookup⟩ := Option.isSome_iff_exists.1 (Option.some.inj hprecheck)
  exact ⟨r, lookup, hr, hlookup, statements_are_wellFormed rfl (Emits.main hr),
    statements_are_wellFormed rfl (Emits.precheck hr hlookup)⟩

end Compiler
end EntityGraph.Compile
