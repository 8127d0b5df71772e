import EntityGraph.Proofs.Cypher.Misuses
import EntityGraph.Proofs.Statements.Identifiers

/-!
# Which lists are refused

A list is compiled step by step, and no step misuses the builder: every parameter has a name of its own, every test
finds a clause that takes it, and there is one page. So a list is refused for the names that it is asked with and for
nothing else: for a filter on an unknown property, and for an order by one unless a term is searched.
-/
namespace EntityGraph.Cypher

open Json (Value)

namespace Builder

/-- The builder that holds a statement and was never misused. -/
def holding (s : Statement) : Builder := ⟨s.clauses, s.params, s.primary, s.entity, none⟩

theorem eq_holding {b : Builder} {s : Statement} (hmisuse : b.misuse = none) (h : b.Holds s) : b = holding s := by
  obtain ⟨clauses, params, primary, entity, misuse⟩ := b
  cases hmisuse
  rw [← h rfl]
  rfl

theorem holding_bind {s : Statement} {name : String} (h : s.params.get? name = none) (value : Value) :
    (holding s).bind name value = holding (s.bind name value) := bind_of_fresh h value

theorem holding_push (s : Statement) (k : Clause) : (holding s).push k = holding (s.push k) := rfl

theorem holding_filter (ks : List Clause) {k : Clause} (hk : k.guardable = true) (params : Params)
    (primary entity : Option String) (p : Predicate) : (holding ⟨ks ++ [k], params, primary, entity⟩).filter p =
      holding ⟨ks ++ [k.guarded p], params, primary, entity⟩ := filter_of_guardable rfl rfl hk p

theorem holding_page {s : Statement} (h : s.isPaginated = false) (columns : List Column) (order : List SortKey)
    (distinct : Bool) : (holding s).page columns order distinct =
      holding (s.push (.projection columns distinct none order true)) := by
  have hunmarked : ¬(holding s).clauses.any Clause.isPageMarker = true := by
    rw [show (holding s).clauses.any Clause.isPageMarker = false from h]
    exact Bool.false_ne_true
  rw [Builder.page, if_neg hunmarked, holding_push]

theorem holding_build {s : Statement} (h : s.clauses ≠ []) : (holding s).build = .ok s := by
  have hsome : ¬(holding s).clauses.isEmpty = true := by rwa [List.isEmpty_iff]
  rw [Builder.build]
  exact if_neg hsome

end Builder
end EntityGraph.Cypher

namespace EntityGraph.Compile.Compiler

open Cypher
open Cypher.Builder (holding)
open Json (Value)
open Schema (Relationship OrderBy)

variable {c : Compiler} {caller : Caller} {criteria : Criteria} {params : Params} {primary entity : Option String}

/-! ## The steps of a list -/

theorem openSource_holding {scope : Option String} (hscope : c.scope caller = .ok scope)
    (hfresh : params.get? companyParam = none) (source : Source) :
    c.openSource (holding ⟨[], params, primary, entity⟩) caller source =
      .ok (holding ⟨c.openingInit scope.isSome source ++ [c.openingLast scope.isSome source], withScope scope params,
        primary, entity⟩) := by
  unfold openSource
  rw [hscope, Result.ok_bind]
  cases source with
  | label =>
    cases scope with
    | some company => dsimp only; rw [Builder.holding_bind hfresh]; rfl
    | none => rfl
  | index procedure args =>
    cases scope with
    | some company =>
      dsimp only
      rw [Builder.procedure, Builder.holding_push, Builder.holding_push, Builder.holding_bind hfresh]
      rfl
    | none => rfl

theorem get?_withFilters_singleton {field other : String} (h : other ≠ field) (value : Value) (params : Params) :
    (withFilters [(field, value)] params).get? (filterParam other) = params.get? (filterParam other) := by
  rw [withFilters, List.foldl_cons, List.foldl_nil]
  split
  · rfl
  · rw [Dict.get?_insert, if_neg (fun heq => h (filterParam_inj.1 heq))]

theorem applyFilter_holding {field : String} {value : Value} (hknown : c.descriptor.knowsProperty field = true)
    {init : List Clause} {last : Clause} (hlast : last.guardable = true)
    (hfresh : params.get? (filterParam field) = none) :
    c.applyFilter (holding ⟨init ++ [last], params, primary, entity⟩) field value =
      .ok (holding ⟨init ++ [last.guarded (c.filterTest field value.isNull)], withFilters [(field, value)] params,
        primary, entity⟩) := by
  have hunrefused : ¬(!c.descriptor.knowsProperty field) = true := by simp [hknown]
  rw [applyFilter, if_neg hunrefused]
  cases hnull : value.isNull with
  | true =>
    rw [if_pos rfl, Builder.holding_filter init hlast]
    simp only [equals, withFilters, List.foldl_cons, List.foldl_nil, hnull, if_true, filterTest]
  | false =>
    rw [if_neg Bool.false_ne_true, Builder.holding_bind hfresh]
    have hfilter := Builder.holding_filter init hlast (params.insert (filterParam field) value) primary entity
      (.eq (.prop c.node field) (.param (filterParam field)))
    simp only [equals, hnull, filterTest, withFilters, List.foldl_cons, List.foldl_nil, Bool.false_eq_true, if_false]
    exact congrArg Except.ok hfilter

/-- Filters are applied up to the first one on an unknown property. -/
theorem applyFilters_holding {filters : List (String × Value)} (hascending : Ascending filters) {init : List Clause}
    {last : Clause} (hlast : last.guardable = true) (hfresh : ∀ f ∈ filters, params.get? (filterParam f.1) = none) :
    c.applyFilters (holding ⟨init ++ [last], params, primary, entity⟩) filters =
      match filters.find? (fun f => !c.descriptor.knowsProperty f.1) with
      | some f => refuse (.unknownFilter c.label f.1)
      | none => .ok (holding ⟨init ++ [last.guardedBy (c.filterTests filters)], withFilters filters params, primary,
          entity⟩) := by
  induction filters generalizing last params with
  | nil => rfl
  | cons f rest ih =>
    obtain ⟨field, value⟩ := f
    obtain ⟨hlater, hrest⟩ := List.pairwise_cons.1 hascending
    obtain ⟨hhead, htail⟩ := List.forall_mem_cons.1 hfresh
    rw [applyFilters, List.find?_cons]
    cases hknown : c.descriptor.knowsProperty field with
    | false =>
      rw [applyFilter, hknown]
      rfl
    | true =>
      -- The filters are on different properties, so the parameters of the later ones are still free.
      have hfresh' : ∀ f ∈ rest, (withFilters [(field, value)] params).get? (filterParam f.1) = none := by
        intro f hf
        have hne : f.1 ≠ field := fun heq => String.lt_irrefl field (heq ▸ hlater f hf)
        rw [get?_withFilters_singleton hne, htail f hf]
      have hguardable := (last.guardable_guarded (c.filterTest field value.isNull)).trans hlast
      rw [applyFilter_holding hknown hlast hhead, Result.ok_bind, ih hrest hguardable hfresh']
      rfl

theorem requireEdges_holding {init : List Clause} {last : Clause} (hlast : last.guardable = true) :
    c.requireEdges (holding ⟨init ++ [last], params, primary, entity⟩) =
      holding ⟨init ++ [last.guardedBy c.edgeTests], params, primary, entity⟩ := by
  unfold requireEdges edgeTests
  induction c.descriptor.relationships.values generalizing last with
  | nil => rfl
  | cons r rest ih =>
    rw [List.foldl_cons, List.filter_cons]
    cases hoptional : r.isOptional with
    | true => exact ih hlast
    | false =>
      have hguardable := (last.guardable_guarded (c.edgeTest r)).trans hlast
      have hfilter := Builder.holding_filter init hlast params primary entity (c.edgeTest r)
      simp only [Bool.false_eq_true, if_false]
      exact (congrArg (fun b => List.foldl _ b rest) hfilter).trans (ih hguardable)

theorem requireRelated_holding {s : Statement} (hfresh : s.params.get? "relatedIds" = none) (r : Relationship)
    (ids : List String) : c.requireRelated (holding s) r ids =
      holding ((s.bind "relatedIds" (.ofStrings ids)).append [c.relatedMatch r]) := by
  refine Builder.eq_holding ?_ (c.requireRelated_holds (fun _ => rfl) r ids)
  rw [requireRelated, Builder.holding_bind hfresh, Builder.matching, Builder.holding_push]
  exact congrArg Builder.misuse (Builder.holding_filter s.clauses rfl _ _ _ _)

/-- Nothing is misused where relationships are followed and the result is returned. -/
theorem misuse_traverseAll (b : Builder) (bound : List String) (order : List SortKey) :
    (c.traverseAll b bound order).misuse = b.misuse := by
  have hstep (t : Traversal) (e : String × Relationship) :
      (c.traverse t e.1 e.2).builder.misuse = t.builder.misuse := by
    unfold traverse
    cases e.2.cardinality <;> simp [Builder.matching, Builder.projection]
  have hfold (links : List (String × Relationship)) (t : Traversal) :
      (links.foldl (fun t e => c.traverse t e.1 e.2) t).builder.misuse = t.builder.misuse := by
    induction links generalizing t with
    | nil => rfl
    | cons e rest ih => rw [List.foldl_cons, ih, hstep]
  unfold traverseAll
  cases c.descriptor.returnClause with
  | some custom => exact (Builder.push_misuse _ _).trans (hfold _ _)
  | none => exact (Builder.push_misuse _ _).trans (hfold _ _)

theorem traverseAll_holding (s : Statement) (bound : List String) (order : List SortKey) :
    c.traverseAll (holding s) bound order = holding (s.append (c.tail bound order)) :=
  Builder.eq_holding (c.misuse_traverseAll _ bound order) (c.traverseAll_holds (fun _ => rfl) bound order)

/-! ## Lists -/

section Lists

variable (c)

/-- The opening of a list. -/
def openedList (scope : Option String) (criteria : Criteria) : Statement :=
  ⟨c.openingInit scope.isSome (c.listSource criteria) ++ [c.openingLast scope.isSome (c.listSource criteria)],
    withScope scope (c.withTerm criteria ∅), some c.node, some c.label⟩

/-- The opening of a list with its filters. -/
def filteredList (scope : Option String) (criteria : Criteria) : Statement :=
  ⟨c.openingInit scope.isSome (c.listSource criteria) ++
      [(c.openingLast scope.isSome (c.listSource criteria)).guardedBy (c.filterTests criteria.filters.toList)],
    withFilters criteria.filters.toList (withScope scope (c.withTerm criteria ∅)), some c.node, some c.label⟩

/-- A list before its page. -/
def unpagedList (scope : Option String) (criteria : Criteria) (related : Option (Relationship × List String)) :
    Statement :=
  ⟨c.candidates scope.isSome criteria (related.map Prod.fst), c.listParams scope criteria related, some c.node,
    some c.label⟩

end Lists

theorem get?_withTerm_of_ne {name : String} (h : name ≠ "term") (criteria : Criteria) :
    (c.withTerm criteria ∅).get? name = none := by
  unfold withTerm
  split
  · rw [Dict.get?_insert, if_neg h]
    rfl
  · rfl

theorem openList_holding {scope : Option String} (hscope : c.scope caller = .ok scope) (criteria : Criteria) :
    (match c.termSource? criteria with
      | some (index, pattern) =>
        c.openSource (c.builder.bind "term" (.str pattern)) caller
          (.index "db.index.fulltext.queryNodes" [.quoted index, .param "term"])
      | none => c.openSource c.builder caller .label) = .ok (holding (c.openedList scope criteria)) := by
  have hopen : c.openSource (holding ⟨[], c.withTerm criteria ∅, some c.node, some c.label⟩) caller
      (c.listSource criteria) = .ok (holding (c.openedList scope criteria)) :=
    openSource_holding hscope (get?_withTerm_of_ne (by decide) criteria) _
  rw [← hopen]
  unfold listSource withTerm
  cases c.termSource? criteria <;> rfl

theorem filterList_holding (scope : Option String) (criteria : Criteria) :
    c.applyFilters (holding (c.openedList scope criteria)) criteria.filters.toList =
      match criteria.filters.toList.find? (fun f => !c.descriptor.knowsProperty f.1) with
      | some f => refuse (.unknownFilter c.label f.1)
      | none => .ok (holding (c.filteredList scope criteria)) := by
  refine applyFilters_holding criteria.filters.ascending (c.guardable_openingLast _ _) fun f _ => ?_
  rw [get?_withScope_of_ne (filterParam_ne (by decide)), get?_withTerm_of_ne (filterParam_ne (by decide))]

theorem requireList_holding (scope : Option String) (criteria : Criteria)
    (related : Option (Relationship × List String)) :
    (match related with
      | some (r, ids) => c.requireRelated (c.requireEdges (holding (c.filteredList scope criteria))) r ids
      | none => c.requireEdges (holding (c.filteredList scope criteria))) =
      holding (c.unpagedList scope criteria related) := by
  have hlast : ((c.openingLast scope.isSome (c.listSource criteria)).guardedBy
      (c.filterTests criteria.filters.toList)).guardable = true := by
    rw [Clause.guardable_guardedBy]
    exact c.guardable_openingLast _ _
  rw [filteredList, requireEdges_holding hlast, ← Clause.guardedBy_append]
  cases related with
  | none => rfl
  | some link =>
    have hfresh : (withFilters criteria.filters.toList (withScope scope (c.withTerm criteria ∅))).get? "relatedIds" =
        none := by
      rw [get?_withFilters_of_ne (by decide), get?_withScope_of_ne (by decide), get?_withTerm_of_ne (by decide)]
    dsimp only
    rw [requireRelated_holding hfresh]
    simp [unpagedList, candidates, listParams, listTests, Statement.bind, Statement.append]

theorem pageList_holding (scope : Option String) (criteria : Criteria) (related : Option (Relationship × List String))
    (order : List SortKey) :
    (c.traverseAll ((holding (c.unpagedList scope criteria related)).page ((c.carried criteria).map Column.ofVar) order
      related.isSome) (c.carried criteria) order).build = .ok (c.listStatement scope criteria related order) := by
  have hunpaged : (c.unpagedList scope criteria related).isPaginated = false :=
    any_marker_of_areInner (c.inner_candidates _ criteria _)
  have hstatement : ((c.unpagedList scope criteria related).push
      (.projection ((c.carried criteria).map Column.ofVar) related.isSome none order true)).append
        (c.tail (c.carried criteria) order) = c.listStatement scope criteria related order := by
    simp [Statement.push, Statement.append, unpagedList, listStatement, listClauses, pageClause]
  rw [Builder.holding_page hunpaged, traverseAll_holding, hstatement]
  exact Builder.holding_build (by simp [listStatement, listClauses])

/-- A list fails for the first filter on an unknown property, else for its order, and else not at all. -/
theorem list_eq {scope : Option String} (hscope : c.scope caller = .ok scope) (criteria : Criteria)
    (related : Option (Relationship × List String)) :
    c.list caller criteria related =
      match criteria.filters.toList.find? (fun f => !c.descriptor.knowsProperty f.1) with
      | some f => refuse (.unknownFilter c.label f.1)
      | none => (c.listOrder criteria).map (fun order => c.listStatement scope criteria related order) := by
  have hopen := openList_holding hscope criteria
  have hfilter := filterList_holding (c := c) scope criteria
  have hpage (order : List SortKey) := pageList_holding (c := c) scope criteria related order
  rw [← requireList_holding, carried] at hpage
  -- Only without a searched term is the order that is asked for read.
  unfold list listOrder
  cases hhit : c.termSource? criteria with
  | some hit =>
    rw [hhit] at hopen hpage
    dsimp only at hopen ⊢
    rw [hopen, Result.ok_bind, hfilter]
    cases criteria.filters.toList.find? (fun f => !c.descriptor.knowsProperty f.1) with
    | some f => rfl
    | none =>
      exact hpage scoreKeys
  | none =>
    rw [hhit] at hopen hpage
    dsimp only at hopen ⊢
    rw [hopen, Result.ok_bind, hfilter]
    cases criteria.filters.toList.find? (fun f => !c.descriptor.knowsProperty f.1) with
    | some f => rfl
    | none =>
      cases c.orderKeys criteria.order with
      | error e => rfl
      | ok order => exact hpage order

/-! ## Refusals -/

/-- Whether a list is asked with a name that it refuses. -/
def Misnames (c : Compiler) (criteria : Criteria) : Prop :=
  (∃ field, criteria.filters.contains field = true ∧ c.descriptor.knowsProperty field = false) ∨
    c.termSource? criteria = none ∧ ∃ o, criteria.order = some o ∧ c.descriptor.knowsProperty o.field = false

/-- Whether an error is about a name that a list is asked with. -/
def BlamesName (c : Compiler) (criteria : Criteria) (e : GraphError) : Prop :=
  (∃ field, criteria.filters.contains field = true ∧ c.descriptor.knowsProperty field = false ∧
      e = .invalidArgument (.unknownFilter c.label field)) ∨
    ∃ o, criteria.order = some o ∧ c.descriptor.knowsProperty o.field = false ∧
      e = .invalidArgument (.unknownOrder c.label o.field)

theorem listOrder_error_iff {e : GraphError} : c.listOrder criteria = .error e ↔ c.termSource? criteria = none ∧
    ∃ o, criteria.order = some o ∧ c.descriptor.knowsProperty o.field = false ∧
      e = .invalidArgument (.unknownOrder c.label o.field) := by
  unfold listOrder orderKeys
  cases c.termSource? criteria with
  | some hit => simp
  | none =>
    cases criteria.order with
    | none => simp
    | some o =>
      cases hknown : c.descriptor.knowsProperty o.field with
      | true => simp [hknown]
      | false =>
        simp only [hknown, Option.isSome_none, Bool.false_eq_true, if_false]
        constructor
        · intro h
          exact ⟨trivial, o, rfl, hknown, (Except.error.inj h).symm⟩
        · rintro ⟨-, o', ho', -, rfl⟩
          cases ho'
          rfl

theorem exists_unknown_filter_iff : (∃ field, criteria.filters.contains field = true ∧
      c.descriptor.knowsProperty field = false) ↔
    ∃ f, criteria.filters.toList.find? (fun f => !c.descriptor.knowsProperty f.1) = some f := by
  rw [← Option.isSome_iff_exists, List.find?_isSome]
  simp only [Dict.contains_iff, Dict.keys, List.mem_map]
  constructor
  · rintro ⟨_, ⟨f, hf, rfl⟩, hunknown⟩
    exact ⟨f, hf, by simp [hunknown]⟩
  · rintro ⟨f, hf, hunknown⟩
    exact ⟨f.1, ⟨f, hf, rfl⟩, by simpa using hunknown⟩

/-- A list is refused if it is asked with a name that lists refuse, and the error is about such a name. -/
theorem list_error {scope : Option String} (hscope : c.scope caller = .ok scope) (criteria : Criteria)
    (related : Option (Relationship × List String)) :
    ((∃ e, c.list caller criteria related = .error e) ↔ c.Misnames criteria) ∧
      ∀ e, c.list caller criteria related = .error e → c.BlamesName criteria e := by
  rw [list_eq hscope, Misnames, exists_unknown_filter_iff]
  cases hfound : criteria.filters.toList.find? (fun f => !c.descriptor.knowsProperty f.1) with
  | some f =>
    have hunknown : c.descriptor.knowsProperty f.1 = false := by simpa using List.find?_some hfound
    have hfilter : criteria.filters.contains f.1 = true :=
      Dict.contains_of_get? (Dict.get?_of_mem (List.mem_of_find?_eq_some hfound))
    refine ⟨iff_of_true ⟨_, rfl⟩ (.inl ⟨f, rfl⟩), fun e he => .inl ⟨f.1, hfilter, hunknown, ?_⟩⟩
    exact (Except.error.inj he).symm
  | none =>
    cases horder : c.listOrder criteria with
    | error e =>
      obtain ⟨hterm, o, ho, hunknown, rfl⟩ := listOrder_error_iff.1 horder
      refine ⟨iff_of_true ⟨_, rfl⟩ (.inr ⟨hterm, o, ho, hunknown⟩), fun e he => .inr ⟨o, ho, hunknown, ?_⟩⟩
      exact (Except.error.inj he).symm
    | ok order =>
      refine ⟨iff_of_false (fun ⟨e, he⟩ => nomatch he) ?_, fun e he => nomatch he⟩
      rintro (⟨f, hf⟩ | ⟨hterm, o, ho, hunknown⟩)
      · cases hf
      · have herror := listOrder_error_iff.2 ⟨hterm, o, ho, hunknown, rfl⟩
        rw [horder] at herror
        cases herror

theorem scope_of_reach (h : c.descriptor.companyScoped = false ∨ caller.elevated = true ∨
    ∃ company, caller.company = some company ∧ company ≠ "") : ∃ scope, c.scope caller = .ok scope := by
  unfold scope
  split
  · exact ⟨none, rfl⟩
  · rename_i htied
    rcases h with h | h | ⟨company, hcompany, hsome⟩
    · simp [h] at htied
    · simp [h] at htied
    · exact ⟨some company, by simp [hcompany, hsome]⟩

/-- A list is refused for a filter on a property that is neither declared nor every entity's own, and for an order by
such a property if no term is searched. Nothing else is refused, and each error is about such a name. While a term is
searched the order that is asked for is not looked at. -/
theorem lists_refuse_unknown_names {c : Compiler} {caller : Caller} (hcaller : c.descriptor.companyScoped = false ∨
      caller.elevated = true ∨ ∃ company, caller.company = some company ∧ company ≠ "") (criteria : Criteria) :
    (((∃ e, c.find caller criteria = .error e) ↔ c.Misnames criteria) ∧
      ∀ e, c.find caller criteria = .error e → c.BlamesName criteria e) ∧
    ∀ name r, c.descriptor.relationships.get? name = some r → ∀ ids,
      ((∃ e, c.findByRelated caller name ids criteria = .error e) ↔ c.Misnames criteria) ∧
        ∀ e, c.findByRelated caller name ids criteria = .error e → c.BlamesName criteria e := by
  obtain ⟨scope, hscope⟩ := scope_of_reach hcaller
  refine ⟨list_error hscope criteria none, fun name r hr ids => ?_⟩
  have hrelated : c.findByRelated caller name ids criteria = c.list caller criteria (some (r, ids)) := by
    rw [findByRelated, Schema.Descriptor.relationship, hr]
    rfl
  rw [hrelated]
  exact list_error hscope criteria (some (r, ids))

/-- By an unknown property tags are not ordered, but the hits of a term may be asked for in such an order. -/
theorem lists_refuse_unknown_names_catalogue :
    (∃ e, catalogue.find (.member "c1" "u1") ⟨none, some ⟨"rating", .asc⟩, ∅⟩ = .error e) ∧
      ¬∃ e, catalogue.find (.member "c1" "u1") ⟨some "rust", some ⟨"rating", .asc⟩, ∅⟩ = .error e := by
  have hcaller : catalogue.descriptor.companyScoped = false ∨ (Caller.member "c1" "u1").elevated = true ∨
      ∃ company, (Caller.member "c1" "u1").company = some company ∧ company ≠ "" := .inr (.inr ⟨"c1", rfl, by decide⟩)
  constructor
  · refine (lists_refuse_unknown_names hcaller _).1.1.2 (.inr ⟨by decide +kernel, ⟨"rating", .asc⟩, rfl, by decide⟩)
  · rw [(lists_refuse_unknown_names hcaller _).1.1]
    rintro (⟨field, hfield, -⟩ | ⟨hterm, -⟩)
    · cases hfield
    · exact absurd hterm (by decide +kernel)

/-- Not every list with a name that is unknown is refused. -/
theorem not_lists_refuse_unknown_names : ¬∀ (c : Compiler) (caller : Caller) (criteria : Criteria),
    (c.descriptor.companyScoped = false ∨ caller.elevated = true ∨
      ∃ company, caller.company = some company ∧ company ≠ "") →
    ((∃ e, c.find caller criteria = .error e) ↔
      (∃ field, criteria.filters.contains field = true ∧ c.descriptor.knowsProperty field = false) ∨
        ∃ o, criteria.order = some o ∧ c.descriptor.knowsProperty o.field = false) := by
  intro hrefuses
  obtain ⟨e, he⟩ := (hrefuses catalogue (.member "c1" "u1") ⟨some "rust", some ⟨"rating", .asc⟩, ∅⟩
    (.inr (.inr ⟨"c1", rfl, by decide⟩))).2 (.inr ⟨⟨"rating", .asc⟩, rfl, by decide⟩)
  obtain ⟨s, hs⟩ := Result.isSome_toOption_iff.1 (by decide +kernel : (catalogue.find (.member "c1" "u1")
    ⟨some "rust", some ⟨"rating", .asc⟩, ∅⟩).toOption.isSome = true)
  rw [he] at hs
  cases hs

end EntityGraph.Compile.Compiler
