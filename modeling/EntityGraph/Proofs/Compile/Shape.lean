import EntityGraph.Proofs.Compile.Operation
import Mathlib.Data.List.Basic

/-!
# Values stay out of the text

The shape of a request is what its text may show: whether the statement is tied to a tenant, which relationship,
order and properties a read names, which properties, relationships and edges a write touches, and where it gives
null or no ids. Requests of the same shape have the same clauses, so their statements read the same through every
window of the same kind. Ids, terms, vectors and all other values travel as parameters.
-/
namespace EntityGraph.Paging

/-- The kind of a window: the window without its sizes. -/
def Window.unsized : Window → Window
  | .all => .all
  | .first _ => .first 0
  | .offset _ _ => .offset 0 0

end EntityGraph.Paging

namespace EntityGraph.Cypher

open Paging (Window)

theorem windowText_congr {w₁ w₂ : Window} (h : w₁.unsized = w₂.unsized) : windowText w₁ = windowText w₂ := by
  cases w₁ <;> cases w₂ <;> first | rfl | cases h

mutual
theorem Clause.text_congr {w₁ w₂ : Window} (h : windowText w₁ = windowText w₂) :
    ∀ k : Clause, k.text w₁ = k.text w₂
  | .subquery imports body => by simp only [Clause.text, clauseTexts_congr h body]
  | .projection .. => by simp only [Clause.text, h]
  | .pattern .. => by simp only [Clause.text]
  | .procedure .. => by simp only [Clause.text]
  | .unwind .. => by simp only [Clause.text]
  | .create .. => by simp only [Clause.text]
  | .merge .. => by simp only [Clause.text]
  | .set .. => by simp only [Clause.text]
  | .delete .. => by simp only [Clause.text]
  | .returning .. => by simp only [Clause.text]
theorem clauseTexts_congr {w₁ w₂ : Window} (h : windowText w₁ = windowText w₂) :
    ∀ ks : List Clause, clauseTexts w₁ ks = clauseTexts w₂ ks
  | [] => rfl
  | k :: rest => by rw [clauseTexts, clauseTexts, Clause.text_congr h k, clauseTexts_congr h rest]
end

/-- The text of a statement depends on its clauses and on the kind of the window. -/
theorem Statement.render_text_congr {s₁ s₂ : Statement} {w₁ w₂ : Window} (hclauses : s₁.clauses = s₂.clauses)
    (hw : w₁.unsized = w₂.unsized) : (s₁.render w₁).text = (s₂.render w₂).text := by
  show Cypher.render w₁ s₁.clauses = Cypher.render w₂ s₂.clauses
  rw [Cypher.render, Cypher.render, clauseTexts_congr (windowText_congr hw), hclauses]

/-- The clauses of a count depend on the clauses and the primary variable. -/
theorem Statement.count?_clauses_congr {s₁ s₂ : Statement} (hclauses : s₁.clauses = s₂.clauses)
    (hprimary : s₁.primary = s₂.primary) :
    s₁.count?.map Statement.clauses = s₂.count?.map Statement.clauses := by
  unfold Statement.count?
  rw [hclauses, hprimary]
  cases s₂.primary with
  | none => rfl
  | some primary => cases throughMarker s₂.clauses <;> rfl

end EntityGraph.Cypher

namespace EntityGraph.Compile

open Cypher
open Json (Value)
open Paging (Window)
open Schema (Relationship OrderBy Field)

/-! ## Shapes -/

/-- The shape of a list's criteria: the order, the filtered properties with whether null is asked for, and whether
a term is searched. -/
structure CriteriaShape where
  order : Option OrderBy
  filters : List (String × Bool)
  searched : Bool
  deriving Repr, DecidableEq

/-- The shape of a write's input. A property is untouched or has whether it becomes null; a relationship is
untouched or has whether it loses all its links; and the edges of a relationship change or not. -/
structure InputShape where
  fields : List (Option Bool)
  links : List (Option Bool)
  updates : List Bool
  deriving Repr, DecidableEq

/-- The shape of a request. -/
inductive Shape where
  | find (tied : Bool) (criteria : CriteriaShape)
  | findByRelated (tied : Bool) (relationship : String) (criteria : CriteriaShape)
  | findById (tied : Bool)
  | findSimilar (tied : Bool)
  | existsUnscoped
  | write (tied : Bool) (mode : WriteMode) (input : InputShape)
  | delete (tied : Bool)
  deriving Repr, DecidableEq

/-- Whether the links of a relationship are touched, and whether no id is left. -/
def linkShape (caller : Caller) (mode : WriteMode) (input : Input) (name : String) (r : Relationship) :
    Option Bool :=
  (linkValue caller mode input name r).map (fun value => ((relatedIds name value).toOption.getD []).isEmpty)

/-- Whether the input changes edges of a relationship. -/
def changesEdges (input : Input) (name : String) : Bool :=
  match input.get? (edgeUpdateKey name) with
  | some value => !value.isNull
  | none => false

/-- Whether a scope was found and ties to a tenant. -/
def isTied (scope : Result (Option String)) : Bool := (scope.toOption.getD none).isSome

namespace Compiler

variable (c : Compiler)

/-- The shape of a list's criteria. -/
def criteriaShape (criteria : Criteria) : CriteriaShape where
  order := criteria.order
  filters := criteria.filters.toList.map (fun f => (f.1, f.2.isNull))
  searched := (c.termSource? criteria).isSome

/-- The shape of a write's input. -/
def inputShape (caller : Caller) (mode : WriteMode) (input : Input) : InputShape where
  fields := c.descriptor.fields.toList.map (fun e => (fieldValue mode input e.1 e.2).map Value.isNull)
  links := c.links.map (fun e => linkShape caller mode input e.1 e.2)
  updates := c.links.map (fun e => changesEdges input e.1)

/-- The shape of a request. -/
def shape (caller : Caller) : Operation → Shape
  | .find criteria => .find (isTied (c.scope caller)) (c.criteriaShape criteria)
  | .findByRelated relationship _ criteria =>
    .findByRelated (isTied (c.scope caller)) relationship (c.criteriaShape criteria)
  | .findById _ => .findById (isTied (c.scope caller))
  | .findSimilar _ _ => .findSimilar (isTied (c.scope caller))
  | .existsUnscoped _ => .existsUnscoped
  | .write mode input => .write (isTied (c.writeScope mode caller)) mode (c.inputShape caller mode input)
  | .delete _ => .delete (isTied (c.scope caller))

end Compiler

theorem isTied_ok (scope : Option String) : isTied (.ok scope) = scope.isSome := rfl

/-- Statements with the same clauses that count the same variable. -/
def SameClauses (s₁ s₂ : Statement) : Prop := s₁.clauses = s₂.clauses ∧ s₁.primary = s₂.primary

namespace Compiler

variable (c : Compiler)

/-! ## Lists -/

theorem listSource_eq (criteria : Criteria) :
    c.listSource criteria =
      if (c.termSource? criteria).isSome then
        .index "db.index.fulltext.queryNodes" [.quoted (c.descriptor.fulltextIndex.getD ""), .param "term"]
      else .label := by
  unfold listSource
  cases hhit : c.termSource? criteria with
  | none => rfl
  | some hit =>
    obtain ⟨index, hindex, hrest⟩ := Option.bind_eq_some_iff.1 hhit
    obtain ⟨term, -, hrest⟩ := Option.bind_eq_some_iff.1 hrest
    obtain ⟨pattern, -, hsome⟩ := Option.bind_eq_some_iff.1 hrest
    cases hsome
    simp [hindex]

theorem filterTests_eq (filters : List (String × Value)) :
    c.filterTests filters =
      (filters.map (fun f => (f.1, f.2.isNull))).map (fun f => c.filterTest f.1 f.2) := by
  simp [filterTests, List.map_map, Function.comp_def]

theorem listOrder_congr {criteria₁ criteria₂ : Criteria}
    (h : c.criteriaShape criteria₁ = c.criteriaShape criteria₂) :
    c.listOrder criteria₁ = c.listOrder criteria₂ := by
  obtain ⟨horder, -, hsearched⟩ := CriteriaShape.mk.injEq .. ▸ h
  rw [listOrder, listOrder, hsearched, horder]

theorem listClauses_congr {criteria₁ criteria₂ : Criteria}
    (h : c.criteriaShape criteria₁ = c.criteriaShape criteria₂) (tied : Bool)
    (related : Option Relationship) (order : List SortKey) :
    c.listClauses tied criteria₁ related order = c.listClauses tied criteria₂ related order := by
  obtain ⟨-, hfilters, hsearched⟩ := CriteriaShape.mk.injEq .. ▸ h
  have htests : c.listTests criteria₁ = c.listTests criteria₂ := by
    rw [listTests, listTests, filterTests_eq, filterTests_eq, hfilters]
  have hsource : c.listSource criteria₁ = c.listSource criteria₂ := by
    rw [listSource_eq, listSource_eq, hsearched]
  have hcarried : c.carried criteria₁ = c.carried criteria₂ := by
    rw [carried, carried, hsearched]
  rw [listClauses, listClauses, candidates, candidates, pageClause, pageClause, htests, hsource, hcarried]

theorem list_congr {caller₁ caller₂ : Caller} {criteria₁ criteria₂ : Criteria}
    {related₁ related₂ : Option (Relationship × List String)} {s₁ s₂ : Statement}
    (htied : isTied (c.scope caller₁) = isTied (c.scope caller₂))
    (hcriteria : c.criteriaShape criteria₁ = c.criteriaShape criteria₂)
    (hrelated : related₁.map Prod.fst = related₂.map Prod.fst)
    (h₁ : c.list caller₁ criteria₁ related₁ = .ok s₁) (h₂ : c.list caller₂ criteria₂ related₂ = .ok s₂) :
    SameClauses s₁ s₂ := by
  obtain ⟨scope₁, order₁, hscope₁, horder₁, rfl⟩ := c.list_outline h₁
  obtain ⟨scope₂, order₂, hscope₂, horder₂, rfl⟩ := c.list_outline h₂
  rw [hscope₁, hscope₂, isTied_ok, isTied_ok] at htied
  rw [c.listOrder_congr hcriteria, horder₂] at horder₁
  cases horder₁
  refine ⟨?_, rfl⟩
  show c.listClauses _ criteria₁ _ order₁ = c.listClauses _ criteria₂ _ order₁
  rw [htied, hrelated, c.listClauses_congr hcriteria]

/-! ## Single entities and neighbours -/

theorem findById_congr {caller₁ caller₂ : Caller} {id₁ id₂ : String} {s₁ s₂ : Statement}
    (htied : isTied (c.scope caller₁) = isTied (c.scope caller₂))
    (h₁ : c.findById caller₁ id₁ = .ok s₁) (h₂ : c.findById caller₂ id₂ = .ok s₂) : SameClauses s₁ s₂ := by
  obtain ⟨scope₁, hscope₁, rfl⟩ := c.findById_outline h₁
  obtain ⟨scope₂, hscope₂, rfl⟩ := c.findById_outline h₂
  rw [hscope₁, hscope₂, isTied_ok, isTied_ok] at htied
  exact ⟨by simp only [htied], rfl⟩

theorem findSimilar_congr {caller₁ caller₂ : Caller} {vector₁ vector₂ : List Float} {k₁ k₂ : Nat}
    {s₁ s₂ : Statement} (htied : isTied (c.scope caller₁) = isTied (c.scope caller₂))
    (h₁ : c.findSimilar caller₁ vector₁ k₁ = .ok s₁) (h₂ : c.findSimilar caller₂ vector₂ k₂ = .ok s₂) :
    SameClauses s₁ s₂ := by
  obtain ⟨index₁, scope₁, hindex₁, hscope₁, rfl⟩ := c.findSimilar_outline h₁
  obtain ⟨index₂, scope₂, hindex₂, hscope₂, rfl⟩ := c.findSimilar_outline h₂
  rw [hindex₁] at hindex₂
  cases hindex₂
  rw [hscope₁, hscope₂, isTied_ok, isTied_ok] at htied
  exact ⟨by simp only [htied], rfl⟩

theorem existsUnscoped_congr {id₁ id₂ : String} {s₁ s₂ : Statement} (h₁ : c.existsUnscoped id₁ = .ok s₁)
    (h₂ : c.existsUnscoped id₂ = .ok s₂) : SameClauses s₁ s₂ := by
  rw [c.existsUnscoped_outline h₁, c.existsUnscoped_outline h₂]
  exact ⟨rfl, rfl⟩

theorem delete_congr {caller₁ caller₂ : Caller} {id₁ id₂ : String} {s₁ s₂ : Statement}
    (htied : isTied (c.scope caller₁) = isTied (c.scope caller₂))
    (h₁ : c.delete caller₁ id₁ = .ok s₁) (h₂ : c.delete caller₂ id₂ = .ok s₂) : SameClauses s₁ s₂ := by
  obtain ⟨scope₁, hscope₁, rfl⟩ := c.delete_outline h₁
  obtain ⟨scope₂, hscope₂, rfl⟩ := c.delete_outline h₂
  rw [hscope₁, hscope₂, isTied_ok, isTied_ok] at htied
  exact ⟨by simp only [htied], rfl⟩

/-! ## Links -/

end Compiler

/-- What the clauses of a relationship's links depend on. -/
def Links.outline (l : Links) : String × Relationship × Bool × Bool :=
  (l.name, l.relationship, l.ids.isEmpty, l.edgeProps.isSome)

/-- What the clauses of a relationship's edge changes depend on. -/
def EdgeUpdate.outline (u : EdgeUpdate) : String × Relationship := (u.name, u.relationship)

theorem isSome_edgeProperties {name : String} {r : Relationship} {input : Input} {ids : List String}
    {props : Option Value} (h : edgeProperties name r input ids = .ok props) :
    props.isSome = !r.fields.isEmpty := by
  unfold edgeProperties at h
  cases hfields : r.fields.isEmpty with
  | true =>
    simp only [hfields, if_true] at h
    split at h
    · cases h
    · cases h
      rfl
  | false =>
    simp only [hfields, Bool.false_eq_true, if_false] at h
    cases hcard : r.cardinality with
    | one =>
      rw [hcard] at h
      obtain ⟨filled, -, rfl⟩ := Result.map_eq_ok_iff.1 h
      rfl
    | many =>
      rw [hcard] at h
      dsimp only at h
      split at h
      case h_3 => cases h
      all_goals
        obtain ⟨perTarget, -, h⟩ := Result.bind_eq_ok_iff.1 h
        split at h
        · cases h
        · obtain ⟨filled, -, rfl⟩ := Result.map_eq_ok_iff.1 h
          rfl

namespace Compiler

variable (c : Compiler)

theorem outline_resolveLink {caller : Caller} {mode : WriteMode} {input : Input} {name : String}
    {r : Relationship} {link : Option Links} (h : c.resolveLink caller mode input name r = .ok link) :
    link.map Links.outline =
      (linkShape caller mode input name r).map (fun idle => (name, r, idle, !r.fields.isEmpty)) := by
  unfold resolveLink at h
  unfold linkShape
  cases hvalue : linkValue caller mode input name r with
  | none =>
    simp only [hvalue] at h
    split at h
    · cases h
    · cases h
      rfl
  | some value =>
    simp only [hvalue] at h
    obtain ⟨ids, hids, h⟩ := Result.bind_eq_ok_iff.1 h
    split at h
    · cases h
    · split at h
      · cases h
      · obtain ⟨props, hprops, h⟩ := Result.bind_eq_ok_iff.1 h
        cases h
        simp [Links.outline, hids, isSome_edgeProperties hprops, Except.toOption]

theorem outline_resolveLinks {caller : Caller} {mode : WriteMode} {input : Input}
    {relationships : List (String × Relationship)} {links : List Links}
    (h : c.resolveLinks caller mode input relationships = .ok links) :
    links.map Links.outline = relationships.filterMap (fun e =>
      (linkShape caller mode input e.1 e.2).map (fun idle => (e.1, e.2, idle, !e.2.fields.isEmpty))) := by
  induction relationships generalizing links with
  | nil =>
    cases h
    rfl
  | cons e rest ih =>
    obtain ⟨link, hlink, h⟩ := Result.bind_eq_ok_iff.1 h
    obtain ⟨others, hothers, h⟩ := Result.bind_eq_ok_iff.1 h
    cases h
    have hfirst := c.outline_resolveLink hlink
    rw [List.map_append, ih hothers, List.filterMap_cons, ← hfirst]
    cases link <;> rfl

theorem linkClauses_congr {mode : WriteMode} {links₁ links₂ : List Links}
    (h : links₁.map Links.outline = links₂.map Links.outline) :
    links₁.flatMap (c.linkClauses mode) = links₂.flatMap (c.linkClauses mode) := by
  have houtline (links : List Links) : links.flatMap (c.linkClauses mode) =
      (links.map Links.outline).flatMap (fun o =>
        (if mode = .create then [] else [.subquery [c.node] (c.staleBody o.1 o.2.1)]) ++
          (if o.2.2.1 then [] else [.subquery [c.node] (c.mergeBody o.1 o.2.1 o.2.2.2)])) := by
    rw [List.flatMap_map]
    rfl
  rw [houtline, houtline, h]

end Compiler

theorem references_isEmpty_congr {links₁ links₂ : List Links}
    (h : links₁.map Links.outline = links₂.map Links.outline) :
    (links₁.flatMap Links.references).isEmpty = (links₂.flatMap Links.references).isEmpty := by
  have houtline (links : List Links) : (links.flatMap Links.references).isEmpty =
      (links.map Links.outline).all (fun o => o.2.2.1) := by
    induction links with
    | nil => rfl
    | cons l rest ih =>
      rw [List.map_cons, List.all_cons, ← ih, List.flatMap_cons, Bool.eq_iff_iff]
      simp [Links.references, Links.outline]
  rw [houtline, houtline, h]

/-! ## Changes of edges -/

theorem outline_resolveEdgeUpdate {input : Input} {name : String} {r : Relationship}
    {update : Option EdgeUpdate} (h : resolveEdgeUpdate input name r = .ok update) :
    update.map EdgeUpdate.outline = if changesEdges input name then some (name, r) else none := by
  unfold resolveEdgeUpdate at h
  unfold changesEdges
  cases hvalue : input.get? (edgeUpdateKey name) with
  | none =>
    rw [hvalue] at h
    cases h
    rfl
  | some value =>
    rw [hvalue] at h
    cases value with
    | null =>
      cases h
      rfl
    | obj members =>
      dsimp only at h
      split at h
      · cases h
      · obtain ⟨-, -, h⟩ := Result.bind_eq_ok_iff.1 h
        cases h
        rfl
    | bool b => cases h
    | num n => cases h
    | str s => cases h
    | arr items => cases h

theorem outline_resolveEdgeUpdates {input : Input} {relationships : List (String × Relationship)}
    {updates : List EdgeUpdate} (h : resolveEdgeUpdates input relationships = .ok updates) :
    updates.map EdgeUpdate.outline = relationships.filterMap (fun e =>
      if changesEdges input e.1 then some (e.1, e.2) else none) := by
  induction relationships generalizing updates with
  | nil =>
    cases h
    rfl
  | cons e rest ih =>
    obtain ⟨update, hupdate, h⟩ := Result.bind_eq_ok_iff.1 h
    obtain ⟨others, hothers, h⟩ := Result.bind_eq_ok_iff.1 h
    cases h
    have hfirst := outline_resolveEdgeUpdate hupdate
    rw [List.map_append, ih hothers, List.filterMap_cons, ← hfirst]
    cases update <;> rfl

namespace Compiler

variable (c : Compiler)

theorem updateClauses_congr {updates₁ updates₂ : List EdgeUpdate}
    (h : updates₁.map EdgeUpdate.outline = updates₂.map EdgeUpdate.outline) :
    updates₁.map c.updateClause = updates₂.map c.updateClause := by
  have houtline (updates : List EdgeUpdate) : updates.map c.updateClause =
      (updates.map EdgeUpdate.outline).map (fun o => .subquery [c.node] (c.updateBody o.1 o.2)) := by
    rw [List.map_map]
    rfl
  rw [houtline, houtline, h]

/-! ## Writes -/

theorem fieldAssignments_congr {mode : WriteMode} {input₁ input₂ : Input} {fields : List (String × Field)}
    (h : fields.map (fun e => (fieldValue mode input₁ e.1 e.2).map Value.isNull) =
      fields.map (fun e => (fieldValue mode input₂ e.1 e.2).map Value.isNull)) :
    c.fieldAssignments mode input₁ fields = c.fieldAssignments mode input₂ fields := by
  refine List.filterMap_congr fun e he => ?_
  have hmap (input : Input) : (fieldValue mode input e.1 e.2).map
        (fun value => c.fieldAssignment e.1 e.2 value.isNull) =
      ((fieldValue mode input e.1 e.2).map Value.isNull).map (c.fieldAssignment e.1 e.2) := by
    rw [Option.map_map]
    rfl
  rw [hmap, hmap, List.map_inj_left.1 h e he]

theorem relatedExistence_congr {refs₁ refs₂ : List Reference} {precheck₁ precheck₂ : Option Statement}
    (hrefs : refs₁.isEmpty = refs₂.isEmpty) (h₁ : c.relatedExistence refs₁ = .ok precheck₁)
    (h₂ : c.relatedExistence refs₂ = .ok precheck₂) :
    precheck₁.map Statement.clauses = precheck₂.map Statement.clauses := by
  rw [c.relatedExistence_outline h₁, c.relatedExistence_outline h₂, hrefs]
  split <;> rfl

theorem write_congr {caller₁ caller₂ : Caller} {mode : WriteMode} {input₁ input₂ : Input}
    {plan₁ plan₂ : WritePlan} (htied : isTied (c.writeScope mode caller₁) = isTied (c.writeScope mode caller₂))
    (hinput : c.inputShape caller₁ mode input₁ = c.inputShape caller₂ mode input₂)
    (h₁ : c.write caller₁ input₁ mode = .ok plan₁) (h₂ : c.write caller₂ input₂ mode = .ok plan₂) :
    SameClauses plan₁.write plan₂.write ∧
      plan₁.precheck.map Statement.clauses = plan₂.precheck.map Statement.clauses := by
  obtain ⟨scope₁, links₁, updates₁, hscope₁, -, hlinks₁, hupdates₁, hprecheck₁, hwrite₁⟩ := c.write_outline h₁
  obtain ⟨scope₂, links₂, updates₂, hscope₂, -, hlinks₂, hupdates₂, hprecheck₂, hwrite₂⟩ := c.write_outline h₂
  obtain ⟨hfields, hlinkShapes, hchanges⟩ := InputShape.mk.injEq .. ▸ hinput
  rw [hscope₁, hscope₂, isTied_ok, isTied_ok] at htied
  have hlinks : links₁.map Links.outline = links₂.map Links.outline := by
    rw [c.outline_resolveLinks hlinks₁, c.outline_resolveLinks hlinks₂]
    exact List.filterMap_congr fun e he => by rw [List.map_inj_left.1 hlinkShapes e he]
  have hupdates : updates₁.map EdgeUpdate.outline = updates₂.map EdgeUpdate.outline := by
    unfold writeUpdates at hupdates₁ hupdates₂
    by_cases hmode : mode = .patch
    · rw [if_pos hmode] at hupdates₁ hupdates₂
      rw [outline_resolveEdgeUpdates hupdates₁, outline_resolveEdgeUpdates hupdates₂]
      exact List.filterMap_congr fun e he => by rw [List.map_inj_left.1 hchanges e he]
    · rw [if_neg hmode] at hupdates₁ hupdates₂
      cases hupdates₁
      cases hupdates₂
      rfl
  refine ⟨⟨?_, ?_⟩, c.relatedExistence_congr (references_isEmpty_congr hlinks) hprecheck₁ hprecheck₂⟩
  · rw [hwrite₁, hwrite₂]
    show c.writeClauses mode _ input₁ links₁ updates₁ = c.writeClauses mode _ input₂ links₂ updates₂
    rw [writeClauses, writeClauses, htied, c.fieldAssignments_congr hfields, c.linkClauses_congr hlinks,
      c.updateClauses_congr hupdates]
  · rw [hwrite₁, hwrite₂]

/-! ## All operations -/

theorem compile_congr {caller₁ caller₂ : Caller} {op₁ op₂ : Operation} {r₁ r₂ : Compiled}
    (hshape : c.shape caller₁ op₁ = c.shape caller₂ op₂) (h₁ : c.compile caller₁ op₁ = .ok r₁)
    (h₂ : c.compile caller₂ op₂ = .ok r₂) :
    SameClauses r₁.main r₂.main ∧
      r₁.precheck.map Statement.clauses = r₂.precheck.map Statement.clauses := by
  cases op₁ with
  | find criteria₁ =>
    cases op₂ with
    | find criteria₂ =>
      obtain ⟨htied, hcriteria⟩ := Shape.find.inj hshape
      obtain ⟨s₁, hs₁, rfl⟩ := Result.map_eq_ok_iff.1 h₁
      obtain ⟨s₂, hs₂, rfl⟩ := Result.map_eq_ok_iff.1 h₂
      exact ⟨c.list_congr htied hcriteria rfl hs₁ hs₂, rfl⟩
    | _ => cases hshape
  | findByRelated relationship₁ ids₁ criteria₁ =>
    cases op₂ with
    | findByRelated relationship₂ ids₂ criteria₂ =>
      obtain ⟨htied, rfl, hcriteria⟩ := Shape.findByRelated.inj hshape
      obtain ⟨s₁, hs₁, rfl⟩ := Result.map_eq_ok_iff.1 h₁
      obtain ⟨s₂, hs₂, rfl⟩ := Result.map_eq_ok_iff.1 h₂
      obtain ⟨relationship, hfound₁, hs₁⟩ := Result.bind_eq_ok_iff.1 hs₁
      obtain ⟨_, hfound₂, hs₂⟩ := Result.bind_eq_ok_iff.1 hs₂
      rw [hfound₁] at hfound₂
      cases hfound₂
      have hrelated : (some (relationship, ids₁)).map Prod.fst = (some (relationship, ids₂)).map Prod.fst := rfl
      exact ⟨c.list_congr htied hcriteria hrelated hs₁ hs₂, rfl⟩
    | _ => cases hshape
  | findById id₁ =>
    cases op₂ with
    | findById id₂ =>
      obtain ⟨s₁, hs₁, rfl⟩ := Result.map_eq_ok_iff.1 h₁
      obtain ⟨s₂, hs₂, rfl⟩ := Result.map_eq_ok_iff.1 h₂
      exact ⟨c.findById_congr (Shape.findById.inj hshape) hs₁ hs₂, rfl⟩
    | _ => cases hshape
  | findSimilar vector₁ k₁ =>
    cases op₂ with
    | findSimilar vector₂ k₂ =>
      obtain ⟨s₁, hs₁, rfl⟩ := Result.map_eq_ok_iff.1 h₁
      obtain ⟨s₂, hs₂, rfl⟩ := Result.map_eq_ok_iff.1 h₂
      exact ⟨c.findSimilar_congr (Shape.findSimilar.inj hshape) hs₁ hs₂, rfl⟩
    | _ => cases hshape
  | existsUnscoped id₁ =>
    cases op₂ with
    | existsUnscoped id₂ =>
      unfold compile at h₁ h₂
      obtain ⟨s₁, hs₁, rfl⟩ := Result.map_eq_ok_iff.1 h₁
      obtain ⟨s₂, hs₂, rfl⟩ := Result.map_eq_ok_iff.1 h₂
      exact ⟨c.existsUnscoped_congr hs₁ hs₂, rfl⟩
    | _ => cases hshape
  | write mode₁ input₁ =>
    cases op₂ with
    | write mode₂ input₂ =>
      obtain ⟨htied, rfl, hinput⟩ := Shape.write.inj hshape
      obtain ⟨plan₁, hplan₁, rfl⟩ := Result.map_eq_ok_iff.1 h₁
      obtain ⟨plan₂, hplan₂, rfl⟩ := Result.map_eq_ok_iff.1 h₂
      exact c.write_congr htied hinput hplan₁ hplan₂
    | _ => cases hshape
  | delete id₁ =>
    cases op₂ with
    | delete id₂ =>
      obtain ⟨s₁, hs₁, rfl⟩ := Result.map_eq_ok_iff.1 h₁
      obtain ⟨s₂, hs₂, rfl⟩ := Result.map_eq_ok_iff.1 h₂
      exact ⟨c.delete_congr (Shape.delete.inj hshape) hs₁ hs₂, rfl⟩
    | _ => cases hshape

/-- The texts of an operation through a window: the look-up, the statement and the count of its rows. -/
def texts (r : Compiled) (w : Window) : Option String × String × Option String :=
  (r.precheck.map (fun s => (s.render w).text), (r.main.render w).text,
    r.main.count?.map (fun s => (s.render w).text))

/-- Requests of the same shape have the same texts through windows of the same kind, whatever their values. -/
theorem texts_eq_of_shape_eq {caller₁ caller₂ : Caller} {op₁ op₂ : Operation} {r₁ r₂ : Compiled}
    {w₁ w₂ : Window} (hshape : c.shape caller₁ op₁ = c.shape caller₂ op₂) (hw : w₁.unsized = w₂.unsized)
    (h₁ : c.compile caller₁ op₁ = .ok r₁) (h₂ : c.compile caller₂ op₂ = .ok r₂) :
    texts r₁ w₁ = texts r₂ w₂ := by
  obtain ⟨⟨hmain, hprimary⟩, hprecheck⟩ := c.compile_congr hshape h₁ h₂
  have htexts {s₁ s₂ : Option Statement} (h : s₁.map Statement.clauses = s₂.map Statement.clauses) :
      s₁.map (fun s => (s.render w₁).text) = s₂.map (fun s => (s.render w₂).text) := by
    cases s₁ with
    | none =>
      rw [Option.map_eq_none_iff.1 h.symm]
      rfl
    | some s₁ =>
      obtain ⟨s, rfl, hs⟩ := Option.map_eq_some_iff.1 h.symm
      exact congrArg some (Statement.render_text_congr hs.symm hw)
  rw [texts, texts, htexts hprecheck, htexts (Statement.count?_clauses_congr hmain hprimary),
    Statement.render_text_congr hmain hw]

/-- Two updates of different entities in different tenants, each with a text to store and another target. -/
theorem texts_eq_of_two_updates :
    let c : Compiler :=
      ⟨((Schema.Descriptor.base "Tag" "tag").withTenant.withField "name" ⟨.string, none⟩).withRelationship "owner"
        ⟨"OWNED_BY", .outgoing, .one, true, "User", [⟨"since", none⟩], none, none⟩, default⟩
    let op₁ : Operation := .write .patch (.ofList [("id", .str "t1"), ("name", .str "x"), ("owner", .str "u1")])
    let op₂ : Operation := .write .patch (.ofList [("id", .str "t2"), ("name", .str "') DETACH DELETE tag"),
      ("owner", .ofStrings ["u2"]), ("ownerEdgeProps", .object [("since", .ofNat 2020)])])
    ∃ r₁ r₂, c.compile (.member "c1" "u1") op₁ = .ok r₁ ∧ c.compile (.member "c2" "u2") op₂ = .ok r₂ ∧
      texts r₁ (.first 10) = texts r₂ (.first 20) := by
  intro c op₁ op₂
  obtain ⟨r₁, h₁⟩ : ∃ r, c.compile (.member "c1" "u1") op₁ = .ok r :=
    Result.isSome_toOption_iff.1 (by decide +kernel)
  obtain ⟨r₂, h₂⟩ : ∃ r, c.compile (.member "c2" "u2") op₂ = .ok r :=
    Result.isSome_toOption_iff.1 (by decide +kernel)
  have hshape : c.shape (.member "c1" "u1") op₁ = c.shape (.member "c2" "u2") op₂ := by decide +kernel
  exact ⟨r₁, r₂, h₁, h₂, texts_eq_of_shape_eq c hshape rfl h₁ h₂⟩

end Compiler
end EntityGraph.Compile
