import EntityGraph.Compile.Read
import EntityGraph.Proofs.Cypher.Drafts
import EntityGraph.Proofs.Result

/-!
# The outline of a read

Which clauses and parameters a read has, written down without a builder: an opening whose last clause carries the
tests on the entity, perhaps a look at linked nodes, the page, one traversal with its aggregation for each
relationship, and the result. Every read that compiles is equal to its outline, so whatever is to be known about
compiled reads can be read off the outlines.
-/
namespace EntityGraph.Cypher

/-- Appends clauses. -/
def Statement.append (s : Statement) (ks : List Clause) : Statement := { s with clauses := s.clauses ++ ks }

end EntityGraph.Cypher

namespace EntityGraph.Compile.Compiler

open Cypher
open Json (Value)
open Schema (Relationship OrderBy)

variable (c : Compiler)

/-! ## The opening -/

/-- Names the hit of an index as the entity and keeps it only if it is one. -/
def hitClause : Clause :=
  .projection [.var "node" (some c.node), .ofVar scoreVar] false (some (.hasLabel c.node c.label)) [] false

/-- The clauses before the last one of an opening. -/
def openingInit (tied : Bool) : Source → List Clause
  | .label => if tied then [.matching (.node c.tenantNode)] else []
  | .index procedure args =>
    .procedure procedure args ["node", scoreVar] :: (if tied then [c.hitClause] else [])

/-- The last clause of an opening, which takes the tests on the entity. -/
def openingLast (tied : Bool) : Source → Clause
  | .label =>
    if tied then .matching (c.membership (.labeled c.node c.label) (.bound tenantVar))
    else .matching (.node (.labeled c.node c.label))
  | .index _ _ => if tied then .matching (c.membership (.bound c.node) c.tenantNode) else c.hitClause

/-- The parameters with the tenant's id, if there is a tenant. -/
def withScope (scope : Option String) (params : Params) : Params :=
  match scope with
  | some company => params.insert companyParam (.str company)
  | none => params

theorem openSource_holds {b b' : Builder} {caller : Caller} {source : Source} {params : Params}
    {primary entity : Option String} (h : b.Holds ⟨[], params, primary, entity⟩)
    (hb : c.openSource b caller source = .ok b') :
    ∃ scope, c.scope caller = .ok scope ∧
      b'.Holds ⟨c.openingInit scope.isSome source ++ [c.openingLast scope.isSome source],
        withScope scope params, primary, entity⟩ := by
  obtain ⟨scope, hscope, hb⟩ := Result.bind_eq_ok_iff.1 hb
  refine ⟨scope, hscope, ?_⟩
  cases source with
  | label =>
    cases scope with
    | some company =>
      cases hb
      exact ((h.bind _ _).push _).push _
    | none =>
      cases hb
      exact h.push _
  | index procedure args =>
    cases scope with
    | some company =>
      cases hb
      exact (((h.push _).push _).bind _ _).push _
    | none =>
      cases hb
      exact (h.push _).push _

/-! ## The tests on the entity -/

/-- The test of a filter: equality with its parameter, or absence. -/
def filterTest (field : String) (absent : Bool) : Predicate :=
  if absent then .isNull (.prop c.node field) else .eq (.prop c.node field) (.param (filterParam field))

/-- The tests of all filters. -/
def filterTests (filters : List (String × Value)) : List Predicate :=
  filters.map (fun f => c.filterTest f.1 f.2.isNull)

/-- The parameters with the values of the filters that have one. -/
def withFilters (filters : List (String × Value)) (params : Params) : Params :=
  filters.foldl (fun params f => if f.2.isNull then params else params.insert (filterParam f.1) f.2) params

/-- The test that a relationship leads somewhere. -/
def edgeTest (r : Relationship) : Predicate := .exists (c.relationshipPattern none r (.anonymous r.target))

/-- The tests on the edges that no entity may lack. -/
def edgeTests : List Predicate :=
  (c.descriptor.relationships.values.filter (fun r => !r.isOptional)).map c.edgeTest

theorem applyFilters_holds {b b' : Builder} {filters : List (String × Value)} {init : List Clause}
    {last : Clause} {params : Params} {primary entity : Option String}
    (h : b.Holds ⟨init ++ [last], params, primary, entity⟩) (hb : c.applyFilters b filters = .ok b') :
    b'.Holds ⟨init ++ [last.guardedBy (c.filterTests filters)], withFilters filters params, primary, entity⟩ := by
  induction filters generalizing b last params with
  | nil =>
    cases hb
    exact h
  | cons f rest ih =>
    obtain ⟨field, value⟩ := f
    obtain ⟨b₁, hb₁, hrest⟩ := Result.bind_eq_ok_iff.1 hb
    have hstep : b₁.Holds ⟨init ++ [last.guarded (c.filterTest field value.isNull)],
        withFilters [(field, value)] params, primary, entity⟩ := by
      unfold applyFilter at hb₁
      split at hb₁
      · cases hb₁
      · split at hb₁
        · rename_i hnull
          cases hb₁
          simpa [filterTest, withFilters, equals, hnull] using h.filter (equals (.prop c.node field) .null value)
        · rename_i hnull
          cases hb₁
          simpa [filterTest, withFilters, equals, hnull, Statement.bind] using
            (h.bind (filterParam field) value).filter
              (equals (.prop c.node field) (.param (filterParam field)) value)
    simpa [filterTests, withFilters] using ih hstep hrest

theorem requireEdges_holds {b : Builder} {init : List Clause} {last : Clause} {params : Params}
    {primary entity : Option String} (h : b.Holds ⟨init ++ [last], params, primary, entity⟩) :
    (c.requireEdges b).Holds ⟨init ++ [last.guardedBy c.edgeTests], params, primary, entity⟩ := by
  unfold requireEdges edgeTests
  induction c.descriptor.relationships.values generalizing b last with
  | nil => exact h
  | cons r rest ih =>
    by_cases hr : r.isOptional = true
    · simpa [hr] using ih h
    · have hstep : (b.filter (c.edgeTest r)).Holds
          ⟨init ++ [last.guarded (c.edgeTest r)], params, primary, entity⟩ := by
        simpa using h.filter (c.edgeTest r)
      simp only [List.foldl_cons, hr, List.filter_cons, Bool.not_false]
      exact ih hstep

/-! ## Linked nodes -/

/-- The look at the nodes that a relationship leads to, which has to find one of the given ids. -/
def relatedMatch (r : Relationship) : Clause :=
  .pattern (c.relationshipPattern none r (.labeled "related" r.target)) false
    (some (.isIn (.prop "related" "id") (.param "relatedIds")))

theorem requireRelated_holds {b : Builder} {s : Statement} (h : b.Holds s) (r : Relationship)
    (ids : List String) :
    (c.requireRelated b r ids).Holds
      ((s.bind "relatedIds" (.ofStrings ids)).append [c.relatedMatch r]) := by
  have hmatch := (h.bind "relatedIds" (.ofStrings ids)).push
    (.matching (c.relationshipPattern none r (.labeled "related" r.target)))
  simpa [requireRelated, Builder.matching, Statement.push, Statement.bind, Statement.append, relatedMatch,
    Clause.matching, Clause.guarded, Clause.filtered?, joined] using
    hmatch.filter (.isIn (.prop "related" "id") (.param "relatedIds"))

/-! ## Traversals -/

/-- The variable that holds the edges of a relationship, if it has edge fields. -/
def edgeVars (name : String) (r : Relationship) : List String :=
  if r.fields.isEmpty then []
  else match r.cardinality with
    | .one => [c.edgeVar name]
    | .many => [c.edgesVar name]

/-- The variables that a traversal adds. -/
def boundBy (name : String) (r : Relationship) : List String := c.targetVar name :: c.edgeVars name r

/-- What a traversal adds to the result. -/
def columnsBy (name : String) (r : Relationship) : List Column :=
  match r.cardinality with
  | .one => .ofVar (c.targetVar name) ::
      r.fields.map (fun f => .expr (.prop (c.edgeVar name) f.name) (c.edgeColumn name f.name))
  | .many => (c.boundBy name r).map Column.ofVar

/-- The aggregates of a traversal: the first target and edge of a `one`, all of a `many`. -/
def gathered (name : String) (r : Relationship) : List Column :=
  match r.cardinality with
  | .one => firstOf (c.targetVar name) ::
      (if r.fields.isEmpty then [] else [firstOf (c.edgeVar name)])
  | .many => .expr (.applyDistinct "collect" (.var (c.targetVar name))) (c.targetVar name) ::
      (if r.fields.isEmpty then []
        else [.expr (.applyDistinct "collect" (c.edgeEntry name r)) (c.edgesVar name)])

/-- The match of a traversal. -/
def traversalMatch (name : String) (r : Relationship) : Clause :=
  .pattern (c.relationshipPattern (if r.fields.isEmpty then none else some (c.edgeVar name)) r
    (.labeled (c.targetVar name) r.target)) r.isOptional none

/-- The aggregation behind the match of a traversal. -/
def traversalWith (bound : List String) (name : String) (r : Relationship) : Clause :=
  .projection (bound.map Column.ofVar ++ c.gathered name r) false none [] false

/-- The traversals of relationships, starting with the given variables in scope. -/
def traversals : List String → List (String × Relationship) → List Clause
  | _, [] => []
  | bound, (name, r) :: rest =>
    c.traversalMatch name r :: c.traversalWith bound name r :: traversals (bound ++ c.boundBy name r) rest

/-- All relationships of the descriptor, by name. -/
def links : List (String × Relationship) := c.descriptor.relationships.toList

/-- The columns of the result. -/
def resultColumns : List Column := .ofVar c.node :: c.links.flatMap (fun e => c.columnsBy e.1 e.2)

/-- The last clause: the descriptor's own, or the node with the columns of all traversals. -/
def finish (bound : List String) (order : List SortKey) : Clause :=
  match c.descriptor.returnClause with
  | some custom => custom c.node (bound ++ c.links.flatMap (fun e => c.boundBy e.1 e.2))
  | none => .returning c.resultColumns false order

/-- What follows the candidates of a read. -/
def tail (bound : List String) (order : List SortKey) : List Clause :=
  c.traversals bound c.links ++ [c.finish bound order]

theorem traverse_holds {t : Traversal} {s : Statement} (h : t.builder.Holds s) (name : String)
    (r : Relationship) :
    (c.traverse t name r).builder.Holds
        (s.append [c.traversalMatch name r, c.traversalWith t.bound name r]) ∧
      (c.traverse t name r).bound = t.bound ++ c.boundBy name r ∧
      (c.traverse t name r).columns = t.columns ++ c.columnsBy name r := by
  have happend (k₁ k₂ : Clause) : s.append [k₁, k₂] = (s.push k₁).push k₂ := by
    simp [Statement.append, Statement.push]
  have hholds := (h.push (c.traversalMatch name r)).push (c.traversalWith t.bound name r)
  rw [happend]
  cases hcard : r.cardinality <;> cases hfields : r.fields.isEmpty <;>
    simp_all [traverse, traversalMatch, traversalWith, gathered, boundBy, edgeVars, columnsBy,
      Builder.matching, Builder.projection]

theorem traverseAll_holds {b : Builder} {s : Statement} (h : b.Holds s) (bound : List String)
    (order : List SortKey) : (c.traverseAll b bound order).Holds (s.append (c.tail bound order)) := by
  have hfold : ∀ (links : List (String × Relationship)) (t : Traversal) (s : Statement), t.builder.Holds s →
      let t' := links.foldl (fun t e => c.traverse t e.1 e.2) t
      t'.builder.Holds (s.append (c.traversals t.bound links)) ∧
        t'.bound = t.bound ++ links.flatMap (fun e => c.boundBy e.1 e.2) ∧
        t'.columns = t.columns ++ links.flatMap (fun e => c.columnsBy e.1 e.2) := by
    intro links
    induction links with
    | nil => intro t s h; simpa [Statement.append, traversals] using h
    | cons e rest ih =>
      intro t s h
      obtain ⟨hholds, hbound, hcolumns⟩ := c.traverse_holds h e.1 e.2
      obtain ⟨ihholds, ihbound, ihcolumns⟩ := ih _ _ hholds
      refine ⟨?_, ?_, ?_⟩
      · simpa [Statement.append, traversals, hbound] using ihholds
      · simp [ihbound, hbound]
      · simp [ihcolumns, hcolumns]
  obtain ⟨hholds, hbound, hcolumns⟩ := hfold c.links ⟨b, bound, [.ofVar c.node]⟩ s h
  have happend (k : Clause) : s.append (c.traversals bound c.links ++ [k]) =
      (s.append (c.traversals bound c.links)).push k := by
    simp [Statement.append, Statement.push]
  unfold traverseAll tail finish
  rw [happend]
  cases hcustom : c.descriptor.returnClause with
  | some custom =>
    exact hbound ▸ hholds.push _
  | none =>
    have hresult : _ = c.resultColumns := hcolumns
    exact hresult ▸ hholds.push _

/-! ## Lists -/

/-- Where a list finds its candidates. -/
def listSource (criteria : Criteria) : Source :=
  match c.termSource? criteria with
  | some (index, _) => .index "db.index.fulltext.queryNodes" [.quoted index, .param "term"]
  | none => .label

/-- The parameters with the pattern of the search term, if one is searched. -/
def withTerm (criteria : Criteria) (params : Params) : Params :=
  match c.termSource? criteria with
  | some (_, pattern) => params.insert "term" (.str pattern)
  | none => params

/-- The order of a list: by score if a term is searched. -/
def listOrder (criteria : Criteria) : Result (List SortKey) :=
  if (c.termSource? criteria).isSome then .ok scoreKeys else c.orderKeys criteria.order

/-- The variables that the page of a list carries. -/
def carried (criteria : Criteria) : List String :=
  if (c.termSource? criteria).isSome then [c.node, scoreVar] else [c.node]

/-- The tests that a list puts on its candidates. -/
def listTests (criteria : Criteria) : List Predicate := c.filterTests criteria.filters.toList ++ c.edgeTests

/-- The clauses of a list before its page. -/
def candidates (tied : Bool) (criteria : Criteria) (related : Option Relationship) : List Clause :=
  c.openingInit tied (c.listSource criteria) ++
    (c.openingLast tied (c.listSource criteria)).guardedBy (c.listTests criteria) ::
      (related.map c.relatedMatch).toList

/-- The page of a list. -/
def pageClause (criteria : Criteria) (related : Option Relationship) (order : List SortKey) : Clause :=
  .projection ((c.carried criteria).map Column.ofVar) related.isSome none order true

/-- The clauses of a list. -/
def listClauses (tied : Bool) (criteria : Criteria) (related : Option Relationship) (order : List SortKey) :
    List Clause :=
  c.candidates tied criteria related ++ c.pageClause criteria related order :: c.tail (c.carried criteria) order

/-- The parameters of a list. -/
def listParams (scope : Option String) (criteria : Criteria)
    (related : Option (Relationship × List String)) : Params :=
  let params := withFilters criteria.filters.toList (withScope scope (c.withTerm criteria ∅))
  match related with
  | some (_, ids) => params.insert "relatedIds" (.ofStrings ids)
  | none => params

/-- The steps that a list is compiled in. -/
theorem list_steps {caller : Caller} {criteria : Criteria} {related : Option (Relationship × List String)}
    {s : Statement} (h : c.list caller criteria related = .ok s) :
    ∃ b b₁ b₂ order, b.Holds ⟨[], c.withTerm criteria ∅, some c.node, some c.label⟩ ∧
      c.openSource b caller (c.listSource criteria) = .ok b₁ ∧
      c.applyFilters b₁ criteria.filters.toList = .ok b₂ ∧
      c.listOrder criteria = .ok order ∧
      (c.traverseAll
        ((match related with
          | some (r, ids) => c.requireRelated (c.requireEdges b₂) r ids
          | none => c.requireEdges b₂).page ((c.carried criteria).map Column.ofVar) order related.isSome)
        (c.carried criteria) order).build = .ok s := by
  have hbuilder : c.builder.Holds ⟨[], ∅, some c.node, some c.label⟩ := Builder.holds_forEntity _ _
  unfold list at h
  unfold listSource withTerm listOrder carried
  cases hhit : c.termSource? criteria with
  | some hit =>
    rw [hhit] at h
    obtain ⟨b₁, hopen, h⟩ := Result.bind_eq_ok_iff.1 h
    obtain ⟨b₂, hfilters, h⟩ := Result.bind_eq_ok_iff.1 h
    exact ⟨_, b₁, b₂, scoreKeys, hbuilder.bind _ _, hopen, hfilters, rfl, h⟩
  | none =>
    rw [hhit] at h
    obtain ⟨b₁, hopen, h⟩ := Result.bind_eq_ok_iff.1 h
    obtain ⟨b₂, hfilters, h⟩ := Result.bind_eq_ok_iff.1 h
    obtain ⟨order, horder, h⟩ := Result.bind_eq_ok_iff.1 h
    exact ⟨_, b₁, b₂, order, hbuilder, hopen, hfilters, horder, h⟩

/-- A list that compiles is equal to its outline. -/
theorem list_outline {caller : Caller} {criteria : Criteria} {related : Option (Relationship × List String)}
    {s : Statement} (h : c.list caller criteria related = .ok s) :
    ∃ scope order, c.scope caller = .ok scope ∧ c.listOrder criteria = .ok order ∧
      s = ⟨c.listClauses scope.isSome criteria (related.map Prod.fst) order,
        c.listParams scope criteria related, some c.node, some c.label⟩ := by
  obtain ⟨b, b₁, b₂, order, hb, hopen, hfilters, horder, hbuild⟩ := c.list_steps h
  obtain ⟨scope, hscope, hopened⟩ := c.openSource_holds hb hopen
  have htested := c.requireEdges_holds (c.applyFilters_holds hopened hfilters)
  rw [← Clause.guardedBy_append] at htested
  refine ⟨scope, order, hscope, horder, ?_⟩
  cases related with
  | none =>
    have hpage := htested.page ((c.carried criteria).map Column.ofVar) order false
    simpa [Statement.push, Statement.append, listClauses, candidates, pageClause, listTests, listParams] using
      (c.traverseAll_holds hpage (c.carried criteria) order).build hbuild
  | some link =>
    have hpage := (c.requireRelated_holds htested link.1 link.2).page
      ((c.carried criteria).map Column.ofVar) order true
    simpa [Statement.push, Statement.append, Statement.bind, listClauses, candidates, pageClause, listTests,
      listParams] using (c.traverseAll_holds hpage (c.carried criteria) order).build hbuild

/-! ## The values that a list binds -/

theorem filterParam_ne {field name : String} (h : ¬"filter_".toList <+: name.toList) :
    filterParam field ≠ name := by
  rintro rfl
  exact h ⟨field.toList, by simp [filterParam]⟩

theorem filterParam_inj {a b : String} : filterParam a = filterParam b ↔ a = b := by
  simp [filterParam, String.ext_iff]

theorem get?_withScope (company : String) (params : Params) :
    (withScope (some company) params).get? companyParam = some (.str company) := by
  simp [withScope, Dict.get?_insert]

theorem get?_withScope_of_ne {name : String} (h : name ≠ companyParam) (scope : Option String)
    (params : Params) : (withScope scope params).get? name = params.get? name := by
  cases scope with
  | none => rfl
  | some company => simp [withScope, Dict.get?_insert, h]

theorem get?_withFilters_of_ne {name : String} (h : ¬"filter_".toList <+: name.toList)
    (filters : List (String × Value)) (params : Params) :
    (withFilters filters params).get? name = params.get? name := by
  unfold withFilters
  induction filters generalizing params with
  | nil => rfl
  | cons f rest ih =>
    rw [List.foldl_cons, ih]
    split
    · rfl
    · rw [Dict.get?_insert, if_neg (filterParam_ne h).symm]

theorem get?_listParams_company (company : String) (criteria : Criteria)
    (related : Option (Relationship × List String)) :
    (c.listParams (some company) criteria related).get? companyParam = some (.str company) := by
  have hscope : (withFilters criteria.filters.toList
      (withScope (some company) (c.withTerm criteria ∅))).get? companyParam = some (.str company) := by
    rw [get?_withFilters_of_ne (by decide), get?_withScope]
  unfold listParams
  cases related with
  | none => exact hscope
  | some link =>
    simp only
    rw [Dict.get?_insert, if_neg (by decide), hscope]

/-! ## Single entities, neighbours and existence -/

/-- The test on the id that a lookup searches for. -/
def idTest : Predicate := .eq (.prop c.node "id") (.param searchParam)

theorem findById_outline {caller : Caller} {id : String} {s : Statement}
    (h : c.findById caller id = .ok s) :
    ∃ scope, c.scope caller = .ok scope ∧
      s = ⟨c.openingInit scope.isSome .label ++
          (c.openingLast scope.isSome .label).guarded c.idTest :: c.tail [c.node] [],
        (withScope scope ∅).insert searchParam (.str id), some c.node, some c.label⟩ := by
  obtain ⟨b, hopen, hbuild⟩ := Result.bind_eq_ok_iff.1 h
  obtain ⟨scope, hscope, hopened⟩ := c.openSource_holds (Builder.holds_forEntity _ _) hopen
  refine ⟨scope, hscope, ?_⟩
  have htested := (hopened.bind searchParam (.str id)).filter c.idTest
  simpa [Statement.bind, Statement.append, idTest] using
    (c.traverseAll_holds htested [c.node] []).build hbuild

/-- Where a search for neighbours finds its candidates. -/
def vectorSource (index : String) : Source :=
  .index "db.index.vector.queryNodes" [.quoted index, .param "k", .param "vector"]

/-- The parameters of a search for neighbours. -/
def vectorParams (vector : List Float) (k : Nat) : Params :=
  ((∅ : Params).insert "k" (.ofNat k)).insert "vector" (.arr (vector.map .ofDouble))

theorem findSimilar_outline {caller : Caller} {vector : List Float} {k : Nat} {s : Statement}
    (h : c.findSimilar caller vector k = .ok s) :
    ∃ index scope, c.descriptor.vectorIndex? = some index ∧ c.scope caller = .ok scope ∧
      s = ⟨c.openingInit scope.isSome (vectorSource index.name) ++
          c.openingLast scope.isSome (vectorSource index.name) :: c.tail [c.node, scoreVar] scoreKeys,
        withScope scope (vectorParams vector k), some c.node, some c.label⟩ := by
  unfold findSimilar at h
  cases hindex : c.descriptor.vectorIndex? with
  | none =>
    rw [hindex] at h
    cases h
  | some index =>
    rw [hindex] at h
    obtain ⟨_, hfound, h⟩ := Result.bind_eq_ok_iff.1 h
    cases hfound
    dsimp only at h
    by_cases hk : k = 0
    · rw [if_pos hk] at h
      cases h
    · rw [if_neg hk] at h
      obtain ⟨b, hopen, hbuild⟩ := Result.bind_eq_ok_iff.1 h
      have hbound := ((Builder.holds_forEntity c.label (some c.node)).bind "k" (.ofNat k)).bind "vector"
        (.arr (vector.map .ofDouble))
      obtain ⟨scope, hscope, hopened⟩ := c.openSource_holds hbound hopen
      refine ⟨index, scope, rfl, hscope, ?_⟩
      simpa [Statement.append, vectorSource, vectorParams, Statement.bind] using
        (c.traverseAll_holds hopened [c.node, scoreVar] scoreKeys).build hbuild

theorem existsUnscoped_outline {id : String} {s : Statement} (h : c.existsUnscoped id = .ok s) :
    s = ⟨[(Clause.matching (.node (.labeled c.node c.label))).guarded c.idTest,
        .returning [.expr (.truth (.gt (.apply "count" [.var c.node]) (.int 0))) "exists"] false []],
      (∅ : Params).insert searchParam (.str id), none, some c.label⟩ := by
  have hstart := ((Builder.holds_forEntity c.label none).bind searchParam (.str id)).push
    (.matching (.node (.labeled c.node c.label)))
  have htested := (hstart.filter c.idTest).push
    (.returning [.expr (.truth (.gt (.apply "count" [.var c.node]) (.int 0))) "exists"] false [])
  simpa [Statement.bind, Statement.push, Statement.filter] using htested.build h

end EntityGraph.Compile.Compiler
