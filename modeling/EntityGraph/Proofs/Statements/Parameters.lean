import EntityGraph.Proofs.Statements.Identifiers

/-!
# Parameters are bound if and only if they are referred to

A statement binds every parameter that its clauses refer to and no other one. The window of a paged statement adds
the parameters that its own text refers to. So the text of a statement and its parameters fit together, whatever was
asked for, unless one of the two names that the deployment chooses has a dollar sign: nothing binds what it refers to.
-/
namespace EntityGraph.Cypher

open Paging (Window)

/-- The parameters that a statement refers to through a window: those of its clauses, and the window's own if it is
paged. -/
def Statement.Refers (s : Statement) (w : Window) (p : String) : Prop :=
  .param p ∈ s.names ∨ s.isPaginated = true ∧ p ∈ windowReferences w

/-- A window sets the parameters that it refers to and leaves the others alone. -/
theorem Statement.get?_render_of_not_mem {w : Window} {p : String} (h : p ∉ windowReferences w) (s : Statement) :
    (s.render w).params.get? p = s.params.get? p := by
  show (if s.isPaginated then windowParams s.params w else s.params).get? p = _
  split
  · cases w with
    | all => rfl
    | first limit =>
      rw [windowReferences, List.mem_singleton] at h
      rw [windowParams, Dict.get?_insert, if_neg h]
    | offset skip limit =>
      simp only [windowReferences, List.mem_cons, List.not_mem_nil, or_false, not_or] at h
      rw [windowParams, Dict.get?_insert, if_neg h.2, Dict.get?_insert, if_neg h.1]
  · rfl

/-- Tests on the last of some clauses add their names. -/
theorem mem_clauseNames_guardedBy (init : List Clause) {last : Clause} (h : last.guardable = true)
    (ps : List Predicate) (rest : List Clause) {n : Name} :
    n ∈ clauseNames (init ++ last.guardedBy ps :: rest) ↔
      n ∈ clauseNames (init ++ [last]) ∨ (∃ p ∈ ps, n ∈ p.names) ∨ n ∈ clauseNames rest := by
  simp only [clauseNames_append, clauseNames, List.mem_append, Clause.mem_names_guardedBy h, List.not_mem_nil,
    or_false, or_assoc]

end EntityGraph.Cypher

namespace EntityGraph.Compile

open Cypher

/-- The names in what an index is asked for. -/
def Source.names : Source → List Name
  | .label => []
  | .index _ args => exprNames args

namespace Compiler

open Json (Value)
open Paging (Window)
open Schema (Relationship Field)
open Text (isIdentifier)

variable {c : Compiler} {p : String}

/-! ## Reads -/

theorem param_mem_opening (tied : Bool) (source : Source) :
    .param p ∈ clauseNames (c.openingInit tied source ++ [c.openingLast tied source]) ↔
      tied = true ∧ p = companyParam ∨ .param p ∈ source.names := by
  cases tied <;> cases source <;>
    simp [openingInit, openingLast, hitClause, membership, tenantNode, Source.names, or_comm]

theorem contains_withScope (scope : Option String) (params : Params) :
    (withScope scope params).contains p = true ↔
      scope.isSome = true ∧ p = companyParam ∨ params.contains p = true := by
  cases scope <;> simp [withScope]

theorem param_not_mem_edgeTest (r : Relationship) : .param p ∉ (c.edgeTest r).names := by
  simp [edgeTest]

theorem param_mem_listTests (criteria : Criteria) :
    (∃ t ∈ c.listTests criteria, .param p ∈ t.names) ↔
      ∃ f ∈ criteria.filters.toList, f.2.isNull = false ∧ p = filterParam f.1 := by
  have hfilter (f : String × Value) :
      .param p ∈ (c.filterTest f.1 f.2.isNull).names ↔ f.2.isNull = false ∧ p = filterParam f.1 := by
    cases hnull : f.2.isNull <;> simp [filterTest]
  have hedge : ¬∃ t ∈ c.edgeTests, .param p ∈ t.names := by
    rintro ⟨t, ht, hp⟩
    obtain ⟨r, -, rfl⟩ := List.mem_map.1 ht
    exact param_not_mem_edgeTest r hp
  simp only [listTests, List.mem_append, or_and_right, exists_or, hedge, or_false, filterTests, List.mem_map,
    exists_exists_and_eq_and, hfilter]

theorem contains_withFilters (filters : List (String × Value)) (params : Params) :
    (withFilters filters params).contains p = true ↔
      (∃ f ∈ filters, f.2.isNull = false ∧ p = filterParam f.1) ∨ params.contains p = true := by
  refine Dict.contains_foldl (fun d f => ?_) filters params
  cases f.2.isNull <;> simp

theorem param_mem_relatedMatch (r : Relationship) : .param p ∈ (c.relatedMatch r).names ↔ p = "relatedIds" := by
  simp [relatedMatch]

theorem param_mem_candidates (tied : Bool) (criteria : Criteria) (related : Option Relationship) :
    .param p ∈ clauseNames (c.candidates tied criteria related) ↔
      (tied = true ∧ p = companyParam ∨ .param p ∈ (c.listSource criteria).names) ∨
        (∃ f ∈ criteria.filters.toList, f.2.isNull = false ∧ p = filterParam f.1) ∨
        related.isSome = true ∧ p = "relatedIds" := by
  rw [candidates, mem_clauseNames_guardedBy _ (c.guardable_openingLast _ _), param_mem_opening, param_mem_listTests]
  cases related <;> simp [param_mem_relatedMatch]

theorem contains_withTerm (criteria : Criteria) :
    (c.withTerm criteria ∅).contains p = true ↔ .param p ∈ (c.listSource criteria).names := by
  unfold withTerm listSource
  cases c.termSource? criteria <;> simp [Source.names]

theorem contains_listParams (scope : Option String) (criteria : Criteria)
    (related : Option (Relationship × List String)) :
    (c.listParams scope criteria related).contains p = true ↔
      .param p ∈ clauseNames (c.candidates scope.isSome criteria (related.map Prod.fst)) := by
  have hparams : (withFilters criteria.filters.toList (withScope scope (c.withTerm criteria ∅))).contains p = true ↔
      (∃ f ∈ criteria.filters.toList, f.2.isNull = false ∧ p = filterParam f.1) ∨
        scope.isSome = true ∧ p = companyParam ∨ .param p ∈ (c.listSource criteria).names := by
    rw [contains_withFilters, contains_withScope, contains_withTerm]
  rw [param_mem_candidates, or_left_comm, ← or_assoc, ← hparams]
  unfold listParams
  cases related <;> simp [or_comm]

theorem param_not_mem_order {criteria : Criteria} {order : List SortKey} (h : c.listOrder criteria = .ok order) :
    .param p ∉ orderNames order := by
  unfold listOrder orderKeys at h
  repeat' split at h
  all_goals
    cases h
    try simp [scoreKeys]

/-! ## Traversals -/

theorem param_not_mem_ofVar (names : List String) : .param p ∉ (names.map Column.ofVar).flatMap Column.names := by
  simp

theorem param_not_mem_traversalMatch (name : String) (r : Relationship) :
    .param p ∉ (c.traversalMatch name r).names := by
  simp [traversalMatch]

theorem param_not_mem_edgeEntry (name : String) (r : Relationship) : .param p ∉ (c.edgeEntry name r).names := by
  have hentries : .param p ∉ entryNames (r.fields.map (fun f => (f.name, .prop (c.edgeVar name) f.name))) := by
    induction r.fields with
    | nil => simp
    | cons f rest ih => simpa using ih
  simp [edgeEntry, hentries]

theorem param_not_mem_gathered (name : String) (r : Relationship) :
    .param p ∉ (c.gathered name r).flatMap Column.names := by
  have hentry := param_not_mem_edgeEntry (c := c) (p := p) name r
  cases hcard : r.cardinality <;> cases hfields : r.fields.isEmpty <;> simp [gathered, hcard, hfields, firstOf, hentry]

theorem param_not_mem_traversals (bound : List String) (links : List (String × Relationship)) :
    .param p ∉ clauseNames (c.traversals bound links) := by
  induction links generalizing bound with
  | nil => simp [traversals]
  | cons e rest ih =>
    have hwith : .param p ∉ (c.traversalWith bound e.1 e.2).names := by
      rw [traversalWith, Clause.names, List.flatMap_append, whereNames_none, orderNames_nil, List.append_nil,
        List.append_nil, List.mem_append, not_or]
      exact ⟨param_not_mem_ofVar bound, param_not_mem_gathered e.1 e.2⟩
    simp [traversals, param_not_mem_traversalMatch, hwith, ih]

theorem param_not_mem_columnsBy (name : String) (r : Relationship) :
    .param p ∉ (c.columnsBy name r).flatMap Column.names := by
  unfold columnsBy
  cases r.cardinality with
  | one => simp
  | many => exact param_not_mem_ofVar _

theorem param_not_mem_tail (hreturn : c.descriptor.returnClause = none) (bound : List String) {order : List SortKey}
    (horder : .param p ∉ orderNames order) : .param p ∉ clauseNames (c.tail bound order) := by
  have hcolumns : .param p ∉ c.resultColumns.flatMap Column.names := by
    rw [resultColumns, List.flatMap_cons, List.flatMap_assoc, List.mem_append, List.mem_flatMap]
    rintro (hp | ⟨e, -, hp⟩)
    · simp at hp
    · exact param_not_mem_columnsBy e.1 e.2 hp
  rw [c.tail_eq hreturn, clauseNames_append]
  simp [param_not_mem_traversals, hcolumns, horder]

/-! ## Writes -/

theorem param_mem_writeOpening (mode : WriteMode) (tied : Bool) :
    .param p ∈ clauseNames (c.writeOpening mode tied) ↔ tied = true ∧ p = companyParam ∨ p = "id" := by
  cases mode <;> cases tied <;> simp [writeOpening, membership, tenantNode, nodeById, or_comm]

theorem param_mem_cast (type : Schema.FieldType) (value : Expr) :
    .param p ∈ (cast type value).names ↔ .param p ∈ value.names := by
  cases type <;> simp [cast, dateOf]

theorem param_not_mem_stamps (mode : WriteMode) : .param p ∉ (c.stamps mode).flatMap Assignment.names := by
  cases mode <;> simp [stamps, assign, now]

theorem param_mem_fieldAssignments (mode : WriteMode) (input : Input) (fields : List (String × Field)) :
    .param p ∈ (c.fieldAssignments mode input fields).flatMap Assignment.names ↔
      ∃ e ∈ fields, (∃ v, fieldValue mode input e.1 e.2 = some v ∧ v.isNull = false) ∧ p = e.1 := by
  have hassigned (e : String × Field) (v : Value) :
      .param p ∈ (c.fieldAssignment e.1 e.2 v.isNull).names ↔ v.isNull = false ∧ p = e.1 := by
    cases v.isNull <;> simp [fieldAssignment, assign, param_mem_cast]
  rw [List.mem_flatMap]
  constructor
  · rintro ⟨a, ha, hp⟩
    obtain ⟨e, he, hvalue⟩ := List.mem_filterMap.1 ha
    obtain ⟨v, hv, rfl⟩ := Option.map_eq_some_iff.1 hvalue
    obtain ⟨hnull, rfl⟩ := (hassigned e v).1 hp
    exact ⟨e, he, ⟨v, hv, hnull⟩, rfl⟩
  · rintro ⟨e, he, ⟨v, hv, hnull⟩, rfl⟩
    exact ⟨_, List.mem_filterMap.2 ⟨e, he, Option.map_eq_some_iff.2 ⟨v, hv, rfl⟩⟩, (hassigned e v).2 ⟨hnull, rfl⟩⟩

theorem contains_withFields (mode : WriteMode) (input : Input) (fields : List (String × Field)) (params : Params) :
    (withFields mode input fields params).contains p = true ↔
      (∃ e ∈ fields, (∃ v, fieldValue mode input e.1 e.2 = some v ∧ v.isNull = false) ∧ p = e.1) ∨
        params.contains p = true := by
  refine Dict.contains_foldl (fun d e => ?_) fields params
  cases fieldValue mode input e.1 e.2 with
  | none => simp
  | some v => cases hnull : v.isNull <;> simp [hnull]

/-- The parameters of a relationship's links: the ids, if any edge is deleted or merged for them, and the properties of
merged edges. -/
def Linked (mode : WriteMode) (p : String) (l : Links) : Prop :=
  mode ≠ .create ∧ p = l.name ∨
    l.ids.isEmpty = false ∧ (p = l.name ∨ l.edgeProps.isSome = true ∧ p = edgePropsKey l.name)

theorem param_mem_staleBody (name : String) (r : Relationship) :
    .param p ∈ clauseNames (c.staleBody name r) ↔ p = name := by
  simp [staleBody]

theorem param_mem_mergeBody (name : String) (r : Relationship) (withProps : Bool) :
    .param p ∈ clauseNames (c.mergeBody name r withProps) ↔
      p = name ∨ withProps = true ∧ p = edgePropsKey name := by
  have hmerged : .param p ∈ (mergedProps name r).names ↔ p = edgePropsKey name := by
    unfold mergedProps
    split <;> simp
  cases withProps <;> simp [mergeBody, hmerged]

theorem param_mem_linkClauses (mode : WriteMode) (l : Links) :
    .param p ∈ clauseNames (c.linkClauses mode l) ↔ Linked mode p l := by
  rw [linkClauses, clauseNames_append, List.mem_append]
  refine or_congr ?_ ?_
  · by_cases hmode : mode = .create
    · simp [hmode]
    · simp [hmode, param_mem_staleBody]
  · cases hids : l.ids.isEmpty with
    | true => simp
    | false => simp [param_mem_mergeBody]

theorem contains_withLink (mode : WriteMode) (params : Params) (l : Links) :
    (withLink mode params l).contains p = true ↔ Linked mode p l ∨ params.contains p = true := by
  have hmerge : l.mergeParams.contains p = true ↔
      p = l.name ∨ l.edgeProps.isSome = true ∧ p = edgePropsKey l.name := by
    unfold Links.mergeParams
    cases l.edgeProps <;> simp [Links.staleParams, or_comm]
  have hkept : (if mode = .create then params else params.overlay l.staleParams).contains p = true ↔
      mode ≠ .create ∧ p = l.name ∨ params.contains p = true := by
    by_cases hmode : mode = .create <;> simp [hmode, Links.staleParams]
  unfold withLink Linked
  cases l.ids.isEmpty with
  | true => simpa using hkept
  | false => simp only [Bool.false_eq_true, if_false, Dict.contains_overlay, hmerge, hkept, true_and]; grind

theorem param_mem_updateClause (u : EdgeUpdate) : .param p ∈ (c.updateClause u).names ↔ p = edgeUpdateKey u.name := by
  simp [updateClause, updateBody]

/-- Which parameters a write binds. -/
theorem contains_writeParams {mode : WriteMode} {scope : Option String} {id : String} {input : Input}
    {links : List Links} {updates : List EdgeUpdate} :
    (c.writeParams mode scope id input links updates).contains p = true ↔
      (∃ u ∈ updates, p = edgeUpdateKey u.name) ∨ (∃ l ∈ links, Linked mode p l) ∨
        (∃ e ∈ c.descriptor.fields.toList,
          (∃ v, fieldValue mode input e.1 e.2 = some v ∧ v.isNull = false) ∧ p = e.1) ∨
        scope.isSome = true ∧ p = companyParam ∨ p = "id" := by
  rw [writeParams, Dict.contains_foldl (fun d u => Dict.contains_overlay d u.params p),
    Dict.contains_foldl (fun d l => contains_withLink mode d l), contains_withFields, contains_withScope,
    Dict.contains_insert]
  simp [EdgeUpdate.params]

theorem param_mem_writeClauses (mode : WriteMode) (scope : Option String) (id : String) (input : Input)
    (links : List Links) (updates : List EdgeUpdate) :
    .param p ∈ clauseNames (c.writeClauses mode scope.isSome input links updates) ↔
      (c.writeParams mode scope id input links updates).contains p = true := by
  have hlinks : .param p ∈ clauseNames (links.flatMap (c.linkClauses mode)) ↔ ∃ l ∈ links, Linked mode p l := by
    rw [clauseNames_eq, List.flatMap_assoc, List.mem_flatMap]
    simp only [← clauseNames_eq, param_mem_linkClauses]
  have hupdates : .param p ∈ clauseNames (updates.map c.updateClause) ↔ ∃ u ∈ updates, p = edgeUpdateKey u.name := by
    rw [mem_clauseNames]
    simp [param_mem_updateClause]
  have hset : .param p ∈ (c.stamps mode ++ c.fieldAssignments mode input c.descriptor.fields.toList).flatMap
      Assignment.names ↔ ∃ e ∈ c.descriptor.fields.toList,
        (∃ v, fieldValue mode input e.1 e.2 = some v ∧ v.isNull = false) ∧ p = e.1 := by
    rw [List.flatMap_append, List.mem_append, or_iff_right (param_not_mem_stamps mode), param_mem_fieldAssignments]
  rw [contains_writeParams]
  simp only [writeClauses, clauseNames_append, clauseNames, Clause.names, List.mem_append, param_mem_writeOpening,
    hset, hlinks, hupdates]
  simp
  grind

/-! ## All statements -/

/-- A statement binds exactly the parameters that its clauses refer to. -/
theorem contains_params_iff (hreturn : c.descriptor.returnClause = none) {s : Statement} (h : c.Outlined s) :
    s.params.contains p = true ↔ .param p ∈ s.names := by
  have hidTest : .param p ∈ c.idTest.names ↔ p = searchParam := by simp [idTest]
  unfold Statement.names
  cases h with
  | @list scope criteria related order hadmits =>
    have horder := param_not_mem_order (p := p) hadmits.order
    have hpage : .param p ∉ (c.pageClause criteria (related.map Prod.fst) order).names := by
      simp [pageClause, horder]
    show (c.listParams scope criteria related).contains p = true ↔
      .param p ∈ clauseNames (c.listClauses scope.isSome criteria (related.map Prod.fst) order)
    rw [contains_listParams, listClauses, clauseNames_append, List.mem_append, clauseNames, List.mem_append]
    simp [hpage, param_not_mem_tail hreturn _ horder]
  | @count scope criteria related order hadmits =>
    have hpage : .param p ∉ (Statement.unordered (c.pageClause criteria (related.map Prod.fst) order)).names := by
      simp [pageClause, Statement.unordered]
    have hcounting : .param p ∉ (counting c.node).names := by simp [counting]
    rw [countStatement, contains_listParams, clauseNames_append, List.mem_append, clauseNames, List.mem_append]
    simp [hpage, hcounting]
  | single scope id =>
    have htail : .param p ∉ clauseNames (c.tail [c.node] []) :=
      param_not_mem_tail hreturn [c.node] (by simp)
    have hlast := mem_clauseNames_guardedBy (c.openingInit scope.isSome .label)
      (c.guardable_openingLast scope.isSome .label) [c.idTest] (c.tail [c.node] []) (n := .param p)
    rw [Clause.guardedBy_cons, Clause.guardedBy_nil, param_mem_opening] at hlast
    rw [singleStatement, hlast, Dict.contains_insert, contains_withScope]
    simp [htail, hidTest, Source.names, or_comm]
  | @neighbours scope vector k index hindex =>
    have hscore : .param p ∉ orderNames scoreKeys := by simp [scoreKeys]
    have htail := param_not_mem_tail (p := p) hreturn [c.node, scoreVar] hscore
    have hopening := param_mem_opening (c := c) (p := p) scope.isSome (vectorSource index.name)
    rw [clauseNames_append, List.mem_append, clauseNames, clauseNames, List.append_nil] at hopening
    rw [neighboursStatement, contains_withScope, clauseNames_append, clauseNames, List.mem_append, List.mem_append,
      ← or_assoc, hopening]
    simp [htail, vectorParams, vectorSource, Source.names, or_comm]
  | existence id =>
    have hmatch : (Clause.matching (.node (.labeled c.node c.label))).guardable = true := rfl
    have hlast := mem_clauseNames_guardedBy [] hmatch [c.idTest]
      [.returning [.expr (.truth (.gt (.apply "count" [.var c.node]) (.int 0))) "exists"] false []] (n := .param p)
    rw [Clause.guardedBy_cons, Clause.guardedBy_nil, List.nil_append] at hlast
    rw [existenceStatement, hlast, Dict.contains_insert]
    simp [hidTest]
  | write mode scope id input hlinks hupdates =>
    exact (param_mem_writeClauses mode scope id input _ _).symm
  | deletion scope id =>
    rw [deletionStatement, contains_withScope, clauseNames_append, List.mem_append, param_mem_writeOpening]
    simp [deletionClauses]
  | lookup refs =>
    simp [lookupStatement, existenceClauses, Node.names]

/-- The names that the deployment chooses. -/
def Chooses (c : Compiler) (n : Name) : Prop := n = .label c.settings.tenantLabel ∨ n = .type c.settings.membershipEdge

/-- Whether a statement writes a name that the deployment chose and that refers to a parameter. -/
def ChosenRefers (c : Compiler) (s : Statement) (p : String) : Prop := ∃ n ∈ s.names, c.Chooses n ∧ p ∈ n.references

/-- Of the names that are identifiers only those of parameters refer to something. -/
theorem mem_references_iff_of_isIdentifier {n : Name} (h : isIdentifier n.text = true) :
    p ∈ n.references ↔ n = .param p := by
  cases n with
  | param s =>
    have hident : isIdentifier s = true := h
    rw [references_paramName, Text.references_param (Text.isIdentifierRest_of_mem hident), List.mem_singleton,
      Name.param.injEq, eq_comm]
  | _ => simp [Name.references, Text.references_plain (Text.dollar_not_mem h)]

/-- Names that may be written refer to the parameters among them, and to what the deployment's names refer to. -/
theorem mem_nameReferences_iff {ns : List Name} (h : c.AllowsAll ns) :
    p ∈ nameReferences ns ↔ .param p ∈ ns ∨ ∃ n ∈ ns, c.Chooses n ∧ p ∈ n.references := by
  rw [nameReferences, List.mem_flatMap]
  constructor
  · rintro ⟨n, hn, hp⟩
    obtain hident | hchosen := h n hn
    · obtain rfl := (mem_references_iff_of_isIdentifier hident).1 hp
      exact .inl hn
    · exact .inr ⟨n, hn, hchosen, hp⟩
  · rintro (hn | ⟨n, hn, -, hp⟩)
    · have hident : isIdentifier (Name.param p).text = true := allows_param.1 (h _ hn)
      exact ⟨.param p, hn, (mem_references_iff_of_isIdentifier (n := .param p) hident).2 rfl⟩
    · exact ⟨n, hn, hp⟩

/-- The text of a statement refers to the parameters that the statement refers to, and to those that the deployment's
names refer to where it writes them. -/
theorem mem_references_text_iff {s : Statement} (hvalid : c.descriptor.validate = .ok ())
    (hreturn : c.descriptor.returnClause = none) (h : c.Emits s) (w : Window) :
    p ∈ Text.references (s.render w).text ↔ s.Refers w p ∨ c.ChosenRefers s p := by
  have houtlined := h.outlined hreturn
  have hallowed : c.AllowsAll s.names := allowsAll_names (Schema.Descriptor.spelled_of_validate hvalid) hreturn houtlined
  have hnames : p ∈ nameReferences (clauseNames s.clauses) ↔ .param p ∈ s.names ∨ c.ChosenRefers s p :=
    mem_nameReferences_iff hallowed
  rw [Statement.render, references_render, (houtlined.anatomy hreturn).mem_references, hnames, or_right_comm,
    Statement.Refers, Statement.isPaginated]

/-- A chosen name that a statement writes refers to nothing but what the label of tenants or the type of memberships
refers to. -/
theorem not_chosenRefers {s : Statement} (htenant : p ∉ Text.references c.settings.tenantLabel)
    (hmembership : p ∉ Text.references c.settings.membershipEdge) : ¬c.ChosenRefers s p := by
  rintro ⟨n, -, rfl | rfl, hp⟩
  · exact htenant hp
  · exact hmembership hp

/-- A statement binds exactly the parameters that its clauses refer to. Rendered through a window it binds exactly those
that it refers to then, and the window changes only the parameters that it refers to itself. The text refers to what is
bound, and beyond that only to what a name that the deployment chose refers to where the statement writes it. So what
the deployment's names do not refer to is bound if and only if it stands in the text. -/
theorem params_are_closed {s : Statement} (hvalid : c.descriptor.validate = .ok ())
    (hreturn : c.descriptor.returnClause = none) (h : c.Emits s) :
    (∀ name, .param name ∈ s.names ↔ s.params.contains name = true) ∧
      ∀ w, (∀ name, s.Refers w name ↔ (s.render w).params.contains name = true) ∧
        (∀ name, name ∉ windowReferences w → (s.render w).params.get? name = s.params.get? name) ∧
        (∀ name, name ∈ Text.references (s.render w).text ↔
          (s.render w).params.contains name = true ∨ c.ChosenRefers s name) ∧
        ∀ name, name ∉ Text.references c.settings.tenantLabel → name ∉ Text.references c.settings.membershipEdge →
          (name ∈ Text.references (s.render w).text ↔ (s.render w).params.contains name = true) := by
  have hclosed (name : String) : .param name ∈ s.names ↔ s.params.contains name = true :=
    (contains_params_iff hreturn (h.outlined hreturn)).symm
  have hrefers (w : Window) (name : String) : s.Refers w name ↔ (s.render w).params.contains name = true := by
    rw [s.contains_render, ← hclosed, Statement.Refers]
  have htext (w : Window) (name : String) : name ∈ Text.references (s.render w).text ↔
      (s.render w).params.contains name = true ∨ c.ChosenRefers s name := by
    rw [mem_references_text_iff hvalid hreturn h, hrefers]
  refine ⟨hclosed, fun w => ⟨hrefers w, fun name hname => s.get?_render_of_not_mem hname, htext w, ?_⟩⟩
  intro name htenant hmembership
  rw [htext, or_iff_left (not_chosenRefers htenant hmembership)]

/-- A search through the second page of ten tags. -/
theorem params_are_closed_second_page :
    let op : Operation := .find ⟨some "rust", none, .ofList [("name", .str "x")]⟩
    ∃ r, catalogue.compile (.member "c1" "u1") op = .ok r ∧
      (∀ name, .param name ∈ r.main.names ↔ r.main.params.contains name = true) ∧
      (r.main.render (.offset 10 10)).params.contains skipParam = true ∧
      skipParam ∈ Text.references (r.main.render (.offset 10 10)).text ∧
      skipParam ∉ Text.references (r.main.render (.first 10)).text := by
  intro op
  obtain ⟨_, hvalid⟩ := Result.isSome_toOption_iff.1
    (by decide +kernel : catalogue.descriptor.validate.toOption.isSome = true)
  have hskip : (catalogue.compile (.member "c1" "u1") op).toOption.map
      (fun r => ((r.main.render (.offset 10 10)).params.contains skipParam,
        (r.main.render (.first 10)).params.contains skipParam)) = some (true, false) := by decide +kernel
  obtain ⟨r, hr⟩ : ∃ r, catalogue.compile (.member "c1" "u1") op = .ok r :=
    Result.isSome_toOption_iff.1 (by decide +kernel)
  rw [hr] at hskip
  obtain ⟨hoffset, hfirst⟩ := Prod.mk.inj (Option.some.inj hskip)
  obtain ⟨hclosed, hrendered⟩ := params_are_closed hvalid rfl (Emits.main hr)
  have htext (w : Window) := (hrendered w).2.2.2 skipParam (by decide) (by decide)
  refine ⟨r, hr, hclosed, hoffset, (htext _).2 hoffset, fun hmem => ?_⟩
  rw [htext, hfirst] at hmem
  cases hmem

/-- A deployment whose label of tenants has a dollar sign. -/
def dollarCatalogue : Compiler := ⟨catalogue.descriptor, { catalogue.settings with tenantLabel := "Company$cursorSkip" }⟩

/-- A look-up by id in that deployment refers to the beginning of a window, which it has not. -/
theorem not_params_are_closed :
    ¬∀ (c : Compiler) (s : Statement), c.descriptor.validate = .ok () → c.descriptor.returnClause = none →
      c.Emits s → ∀ w, skipParam ∈ Text.references (s.render w).text ↔
        (s.render w).params.contains skipParam = true := by
  intro hclosed
  obtain ⟨_, hvalid⟩ := Result.isSome_toOption_iff.1
    (by decide +kernel : dollarCatalogue.descriptor.validate.toOption.isSome = true)
  let op : Operation := .findById "t1"
  have hlookup : (dollarCatalogue.compile (.member "c1" "u1") op).toOption.map
      (fun r => (decide (.label "Company$cursorSkip" ∈ r.main.names),
        (r.main.render .all).params.contains skipParam)) = some (true, false) := by decide +kernel
  obtain ⟨r, hr⟩ : ∃ r, dollarCatalogue.compile (.member "c1" "u1") op = .ok r :=
    Result.isSome_toOption_iff.1 (by decide +kernel)
  rw [hr] at hlookup
  obtain ⟨hlabel, hunbound⟩ := Prod.mk.inj (Option.some.inj hlookup)
  have hchosen : dollarCatalogue.ChosenRefers r.main skipParam :=
    ⟨.label "Company$cursorSkip", of_decide_eq_true hlabel, .inl rfl, by decide⟩
  have htext : skipParam ∈ Text.references (r.main.render .all).text :=
    (mem_references_text_iff hvalid rfl (.main hr) .all).2 (.inr hchosen)
  rw [hclosed dollarCatalogue r.main hvalid rfl (.main hr) .all, hunbound] at htext
  cases htext

end Compiler
end EntityGraph.Compile
