import EntityGraph.Proofs.Schema.Validation
import EntityGraph.Proofs.Statements.Emitted

/-!
# Only identifiers are written into statements

Statements are put together from names: those of the descriptor, those that the caller picks among them, and fixed
words. For a descriptor that was accepted, all of these are identifiers, and so is every name that is joined from
them. The two names that the deployment chooses stand for a label and for a relationship type only.
-/
namespace EntityGraph.Compile.Compiler

open Cypher
open Json (Value)
open Schema (Relationship SpelledRelationship OrderBy Field)
open Text (isIdentifier isIdentifier_append)

variable (c : Compiler)

/-- A name that may be written: an identifier, the tenants' label, or the type of membership edges. -/
def Allows (n : Name) : Prop :=
  isIdentifier n.text = true ∨ n = .label c.settings.tenantLabel ∨ n = .type c.settings.membershipEdge

/-- All names may be written. -/
def AllowsAll (ns : List Name) : Prop := ∀ n ∈ ns, c.Allows n

variable {c}

/-! ## Single names -/

@[simp] theorem allows_var {s : String} : c.Allows (.var s) ↔ isIdentifier s = true := by simp [Allows, Name.text]

@[simp] theorem allows_property {s : String} : c.Allows (.property s) ↔ isIdentifier s = true := by
  simp [Allows, Name.text]

@[simp] theorem allows_key {s : String} : c.Allows (.key s) ↔ isIdentifier s = true := by simp [Allows, Name.text]

@[simp] theorem allows_given {s : String} : c.Allows (.given s) ↔ isIdentifier s = true := by
  simp [Allows, Name.text]

@[simp] theorem allows_param {s : String} : c.Allows (.param s) ↔ isIdentifier s = true := by
  simp [Allows, Name.text]

@[simp] theorem allows_quoted {s : String} : c.Allows (.quoted s) ↔ isIdentifier s = true := by
  simp [Allows, Name.text]

@[simp] theorem allows_function {s : String} : c.Allows (.function s) ↔ isIdentifier s = true := by
  simp [Allows, Name.text]

@[simp] theorem allows_label {s : String} :
    c.Allows (.label s) ↔ isIdentifier s = true ∨ s = c.settings.tenantLabel := by
  simp [Allows, Name.text]

@[simp] theorem allows_type {s : String} :
    c.Allows (.type s) ↔ isIdentifier s = true ∨ s = c.settings.membershipEdge := by
  simp [Allows, Name.text]

/-! ## Lists of names -/

@[simp] theorem allowsAll_nil : c.AllowsAll [] := by simp [AllowsAll]

@[simp] theorem allowsAll_cons {n : Name} {ns : List Name} :
    c.AllowsAll (n :: ns) ↔ c.Allows n ∧ c.AllowsAll ns := by
  simp [AllowsAll]

@[simp] theorem allowsAll_append {ns ns' : List Name} :
    c.AllowsAll (ns ++ ns') ↔ c.AllowsAll ns ∧ c.AllowsAll ns' := by
  simp [AllowsAll, or_imp, forall_and]

@[simp] theorem allowsAll_flatMap {α : Type} {items : List α} {f : α → List Name} :
    c.AllowsAll (items.flatMap f) ↔ ∀ a ∈ items, c.AllowsAll (f a) := by
  simp only [AllowsAll, List.mem_flatMap]
  constructor
  · intro h a ha n hn
    exact h n ⟨a, ha, hn⟩
  · rintro h n ⟨a, ha, hn⟩
    exact h a ha n hn

theorem allowsAll_clauseNames {ks : List Clause} :
    c.AllowsAll (clauseNames ks) ↔ ∀ k ∈ ks, c.AllowsAll k.names := by
  rw [clauseNames_eq, allowsAll_flatMap]

theorem allowsAll_guardedBy {k : Clause} (hk : k.guardable = true) (ps : List Predicate)
    (h : c.AllowsAll k.names) (hps : ∀ p ∈ ps, c.AllowsAll p.names) : c.AllowsAll (k.guardedBy ps).names := by
  intro n hn
  rcases (Clause.mem_names_guardedBy hk).1 hn with hn | ⟨p, hp, hn⟩
  · exact h n hn
  · exact hps p hp n hn

theorem allowsAll_ofVar {names : List String} (h : ∀ name ∈ names, isIdentifier name = true) :
    c.AllowsAll ((names.map Column.ofVar).flatMap Column.names) := by
  simpa using h

@[simp] theorem allowsAll_membership {start tenant : Node} :
    c.AllowsAll (c.membership start tenant).names ↔ c.AllowsAll start.names ∧ c.AllowsAll tenant.names := by
  simp [membership]

@[simp] theorem allowsAll_tenantNode : c.AllowsAll c.tenantNode.names := by simp +decide [tenantNode]

@[simp] theorem names_relationshipPattern (binder : Option String) (r : Relationship) (target : Node) :
    (c.relationshipPattern binder r target).names =
      .var c.node :: ((binder.map Name.var).toList ++ .type r.type :: target.names) := by simp [relationshipPattern]

theorem isIdentifier_filterParam {field : String} (h : isIdentifier field = true) :
    isIdentifier (filterParam field) = true := isIdentifier_append (by decide) h

theorem allowsAll_cast {value : Expr} (h : c.AllowsAll value.names) (type : Schema.FieldType) :
    c.AllowsAll (cast type value).names := by
  cases type <;> simp +decide [cast, dateOf, h]

section Spelled

variable (hspelled : c.descriptor.Spelled)

include hspelled

/-! ## Names of relationships -/

theorem isIdentifier_targetVar {name : String} (h : isIdentifier name = true) :
    isIdentifier (c.targetVar name) = true :=
  isIdentifier_append (isIdentifier_append hspelled.node (by decide)) h

theorem isIdentifier_edgeVar {name : String} (h : isIdentifier name = true) :
    isIdentifier (c.edgeVar name) = true :=
  isIdentifier_append (isIdentifier_targetVar hspelled h) (by decide)

theorem isIdentifier_edgesVar {name : String} (h : isIdentifier name = true) :
    isIdentifier (c.edgesVar name) = true :=
  isIdentifier_append (isIdentifier_targetVar hspelled h) (by decide)

theorem isIdentifier_edgeColumn {name field : String} (h : isIdentifier name = true)
    (hfield : isIdentifier field = true) : isIdentifier (c.edgeColumn name field) = true :=
  isIdentifier_append (isIdentifier_append (isIdentifier_targetVar hspelled h) (by decide)) hfield

/-! ## Reads -/

theorem allowsAll_opening (source : Source) (tied : Bool)
    (hsource : ∀ procedure args, source = .index procedure args → c.AllowsAll (exprNames args)) :
    (∀ k ∈ c.openingInit tied source, c.AllowsAll k.names) ∧ c.AllowsAll (c.openingLast tied source).names := by
  have hnode : isIdentifier c.node = true := hspelled.node
  have hlabel : isIdentifier c.label = true := hspelled.label
  cases source with
  | label => cases tied <;> simp +decide [openingInit, openingLast, hnode, hlabel]
  | index procedure args =>
    have hargs := hsource procedure args rfl
    have hhit : c.AllowsAll c.hitClause.names := by simp +decide [hitClause, hnode, hlabel]
    cases tied <;> simp +decide [openingInit, openingLast, hargs, hhit, hnode]

theorem allowsAll_filterTest {field : String} (absent : Bool) (h : isIdentifier field = true) :
    c.AllowsAll (c.filterTest field absent).names := by
  have hnode : isIdentifier c.node = true := hspelled.node
  cases absent <;> simp [filterTest, hnode, h, isIdentifier_filterParam h]

theorem allowsAll_edgeTest {name : String} {r : Relationship} (hr : SpelledRelationship name r) :
    c.AllowsAll (c.edgeTest r).names := by
  have hnode : isIdentifier c.node = true := hspelled.node
  simp [edgeTest, hnode, hr.type, hr.target]

theorem allowsAll_listTests {criteria : Criteria}
    (h : ∀ f ∈ criteria.filters.toList, c.descriptor.knowsProperty f.1 = true) :
    ∀ p ∈ c.listTests criteria, c.AllowsAll p.names := by
  intro p hp
  rcases List.mem_append.1 hp with hp | hp
  · obtain ⟨f, hf, rfl⟩ := List.mem_map.1 hp
    exact allowsAll_filterTest hspelled _ (hspelled.property _ (h f hf))
  · obtain ⟨r, hr, rfl⟩ := List.mem_map.1 hp
    obtain ⟨e, he, rfl⟩ := List.mem_map.1 (List.mem_filter.1 hr).1
    exact allowsAll_edgeTest hspelled (hspelled.relationship e he)

theorem allowsAll_relatedMatch {name : String} {r : Relationship} (hr : SpelledRelationship name r) :
    c.AllowsAll (c.relatedMatch r).names := by
  have hnode : isIdentifier c.node = true := hspelled.node
  simp +decide [relatedMatch, hnode, hr.type, hr.target]

theorem allowsAll_order {criteria : Criteria} {order : List SortKey} (h : c.listOrder criteria = .ok order) :
    c.AllowsAll (orderNames order) := by
  have hnode : isIdentifier c.node = true := hspelled.node
  have hkey (o : OrderBy) (ho : isIdentifier o.field = true) :
      c.AllowsAll (orderNames [⟨.prop c.node o.field, o.direction = .desc⟩]) := by simp [hnode, ho]
  unfold listOrder orderKeys at h
  split at h
  · cases h
    simp +decide [scoreKeys]
  · cases hrequested : criteria.order with
    | some o =>
      rw [hrequested] at h
      simp only at h
      split at h
      · rename_i hknown
        cases h
        exact hkey o (hspelled.property _ hknown)
      · cases h
    | none =>
      rw [hrequested] at h
      cases h
      cases hdefault : c.descriptor.defaultOrder with
      | some o => exact hkey o (hspelled.order o hdefault)
      | none => exact hkey ⟨"updatedAt", .desc⟩ (by decide)

theorem isIdentifier_carried (criteria : Criteria) : ∀ name ∈ c.carried criteria, isIdentifier name = true := by
  have hnode : isIdentifier c.node = true := hspelled.node
  unfold carried
  split <;> simp +decide [hnode]

theorem allowsAll_listSource (criteria : Criteria) (procedure : String) (args : List Expr)
    (h : c.listSource criteria = .index procedure args) : c.AllowsAll (exprNames args) := by
  unfold listSource at h
  cases hhit : c.termSource? criteria with
  | none =>
    rw [hhit] at h
    cases h
  | some hit =>
    rw [hhit] at h
    cases h
    obtain ⟨index, pattern⟩ := hit
    obtain ⟨hindex, -⟩ := c.termSource?_eq_some_iff.1 hhit
    simp +decide [hspelled.fulltext index hindex]

theorem allowsAll_candidates {criteria : Criteria} {related : Option (Relationship × List String)}
    {order : List SortKey} (tied : Bool) (h : c.Admits criteria related order) :
    ∀ k ∈ c.candidates tied criteria (related.map Prod.fst), c.AllowsAll k.names := by
  obtain ⟨hinit, hlast⟩ := allowsAll_opening hspelled _ tied (allowsAll_listSource hspelled criteria)
  intro k hk
  rcases List.mem_append.1 hk with hk | hk
  · exact hinit k hk
  · rcases List.mem_cons.1 hk with rfl | hk
    · exact allowsAll_guardedBy (c.guardable_openingLast tied _) _ hlast (allowsAll_listTests hspelled h.filters)
    · obtain ⟨link, hlink, rfl⟩ := Option.map_eq_some_iff.1 (Option.mem_toList.1 hk)
      obtain ⟨⟨r, ids⟩, hrelated, rfl⟩ := Option.map_eq_some_iff.1 hlink
      obtain ⟨name, hname⟩ := h.related r ids hrelated
      exact allowsAll_relatedMatch hspelled (hspelled.relationship _ hname)

/-! ## Traversals -/

theorem allowsAll_traversalMatch {name : String} {r : Relationship} (hr : SpelledRelationship name r) :
    c.AllowsAll (c.traversalMatch name r).names := by
  have hnode : isIdentifier c.node = true := hspelled.node
  have htarget := isIdentifier_targetVar hspelled hr.name
  have hedge := isIdentifier_edgeVar hspelled hr.name
  cases hfields : r.fields.isEmpty <;> simp [traversalMatch, hfields, hnode, htarget, hedge, hr.type, hr.target]

theorem isIdentifier_boundBy {name : String} {r : Relationship} (hr : SpelledRelationship name r) :
    ∀ v ∈ c.boundBy name r, isIdentifier v = true := by
  have htarget := isIdentifier_targetVar hspelled hr.name
  have hedge := isIdentifier_edgeVar hspelled hr.name
  have hedges := isIdentifier_edgesVar hspelled hr.name
  cases hfields : r.fields.isEmpty <;> cases hcard : r.cardinality <;>
    simp [boundBy, edgeVars, hfields, hcard, htarget, hedge, hedges]

theorem allowsAll_edgeEntry {name : String} {r : Relationship} (hr : SpelledRelationship name r) :
    c.AllowsAll (c.edgeEntry name r).names := by
  have htarget := isIdentifier_targetVar hspelled hr.name
  have hedge := isIdentifier_edgeVar hspelled hr.name
  have hentries : ∀ fields : List Schema.EdgeField, (∀ f ∈ fields, isIdentifier f.name = true) →
      c.AllowsAll (entryNames (fields.map (fun f => (f.name, .prop (c.edgeVar name) f.name)))) := by
    intro fields
    induction fields with
    | nil => simp
    | cons f rest ih =>
      intro h
      have hf := h f List.mem_cons_self
      simpa [hf, hedge] using ih fun g hg => h g (List.mem_cons_of_mem _ hg)
  simp +decide [edgeEntry, htarget, hentries r.fields hr.fields]

theorem allowsAll_gathered {name : String} {r : Relationship} (hr : SpelledRelationship name r) :
    c.AllowsAll ((c.gathered name r).flatMap Column.names) := by
  have htarget := isIdentifier_targetVar hspelled hr.name
  have hedge := isIdentifier_edgeVar hspelled hr.name
  have hedges := isIdentifier_edgesVar hspelled hr.name
  have hentry := allowsAll_edgeEntry hspelled hr
  cases hfields : r.fields.isEmpty <;> cases hcard : r.cardinality <;>
    simp +decide [gathered, hfields, hcard, firstOf, htarget, hedge, hedges, hentry]

theorem allowsAll_traversals {links : List (String × Relationship)}
    (hlinks : ∀ e ∈ links, SpelledRelationship e.1 e.2) {bound : List String}
    (hbound : ∀ v ∈ bound, isIdentifier v = true) : ∀ k ∈ c.traversals bound links, c.AllowsAll k.names := by
  induction links generalizing bound with
  | nil =>
    intro k hk
    cases hk
  | cons e rest ih =>
    have hr := hlinks e List.mem_cons_self
    have hnext : ∀ v ∈ bound ++ c.boundBy e.1 e.2, isIdentifier v = true := by
      intro v hv
      rcases List.mem_append.1 hv with hv | hv
      · exact hbound v hv
      · exact isIdentifier_boundBy hspelled hr v hv
    intro k hk
    rcases List.mem_cons.1 hk with rfl | hk
    · exact allowsAll_traversalMatch hspelled hr
    · rcases List.mem_cons.1 hk with rfl | hk
      · simp [traversalWith, List.flatMap_append, allowsAll_ofVar hbound, allowsAll_gathered hspelled hr]
      · exact ih (fun e he => hlinks e (List.mem_cons_of_mem _ he)) hnext k hk

theorem allowsAll_columnsBy {name : String} {r : Relationship} (hr : SpelledRelationship name r) :
    c.AllowsAll ((c.columnsBy name r).flatMap Column.names) := by
  have htarget := isIdentifier_targetVar hspelled hr.name
  have hedge := isIdentifier_edgeVar hspelled hr.name
  unfold columnsBy
  cases r.cardinality with
  | one =>
    simp only [List.flatMap_cons, List.flatMap_map, allowsAll_append, allowsAll_flatMap]
    refine ⟨by simp [htarget], fun f hf => ?_⟩
    simp [hedge, hr.fields f hf, isIdentifier_edgeColumn hspelled hr.name (hr.fields f hf)]
  | many => exact allowsAll_ofVar (isIdentifier_boundBy hspelled hr)

theorem allowsAll_tail (hreturn : c.descriptor.returnClause = none) {bound : List String} {order : List SortKey}
    (hbound : ∀ v ∈ bound, isIdentifier v = true) (horder : c.AllowsAll (orderNames order)) :
    ∀ k ∈ c.tail bound order, c.AllowsAll k.names := by
  intro k hk
  rcases List.mem_append.1 hk with hk | hk
  · exact allowsAll_traversals hspelled hspelled.relationship hbound k hk
  · have hnode : isIdentifier c.node = true := hspelled.node
    rw [List.mem_singleton.1 hk, finish, hreturn]
    simp only [Clause.names, resultColumns, List.flatMap_cons, List.flatMap_assoc, allowsAll_append,
      @allowsAll_flatMap c _ c.links]
    refine ⟨⟨by simp [hnode], fun e he => ?_⟩, horder⟩
    exact allowsAll_columnsBy hspelled (hspelled.relationship e he)

/-! ## Writes -/

theorem allowsAll_nodeById : c.AllowsAll c.nodeById.names := by
  have hnode : isIdentifier c.node = true := hspelled.node
  have hlabel : isIdentifier c.label = true := hspelled.label
  simp +decide [nodeById, hnode, hlabel]

theorem allowsAll_writeOpening (mode : WriteMode) (tied : Bool) :
    ∀ k ∈ c.writeOpening mode tied, c.AllowsAll k.names := by
  have hnode : isIdentifier c.node = true := hspelled.node
  have hentity := allowsAll_nodeById hspelled
  cases mode <;> cases tied <;> simp +decide [writeOpening, hnode, hentity]

theorem allowsAll_fieldAssignments (mode : WriteMode) (input : Input) {fields : List (String × Field)}
    (hfields : ∀ e ∈ fields, isIdentifier e.1 = true) :
    ∀ a ∈ c.fieldAssignments mode input fields, c.AllowsAll a.names := by
  have hnode : isIdentifier c.node = true := hspelled.node
  intro a ha
  obtain ⟨e, he, hvalue⟩ := List.mem_filterMap.1 ha
  obtain ⟨value, -, rfl⟩ := Option.map_eq_some_iff.1 hvalue
  have hname := hfields e he
  have hparam : c.AllowsAll (Expr.param e.1).names := by simp [hname]
  unfold fieldAssignment assign
  split
  · simp [hnode, hname]
  · simp [hnode, hname, allowsAll_cast hparam]

theorem allowsAll_stamps (mode : WriteMode) : ∀ a ∈ c.stamps mode, c.AllowsAll a.names := by
  have hnode : isIdentifier c.node = true := hspelled.node
  have hstamp (key : String) (hkey : isIdentifier key = true) : c.AllowsAll (assign c.node key now).names := by
    simp +decide [assign, now, hnode, hkey]
  have hupdated := hstamp "updatedAt" (by decide)
  have hcreated := hstamp "createdAt" (by decide)
  cases mode <;> simp [stamps, hupdated, hcreated]

section Links

variable {name : String} {r : Relationship} (hr : SpelledRelationship name r)

include hr

theorem allowsAll_staleBody : c.AllowsAll (clauseNames (c.staleBody name r)) := by
  have hnode : isIdentifier c.node = true := hspelled.node
  have hexisting : isIdentifier (name ++ "_existing") = true := isIdentifier_append hr.name (by decide)
  have hstale : isIdentifier (name ++ "_stale") = true := isIdentifier_append hr.name (by decide)
  simp +decide [staleBody, hnode, hexisting, hstale, hr.name, hr.type, hr.target]

theorem allowsAll_mergeBody (withProps : Bool) : c.AllowsAll (clauseNames (c.mergeBody name r withProps)) := by
  have hnode : isIdentifier c.node = true := hspelled.node
  have hid : isIdentifier (name ++ "_id") = true := isIdentifier_append hr.name (by decide)
  have htarget : isIdentifier (name ++ "_target") = true := isIdentifier_append hr.name (by decide)
  have hedge : isIdentifier (name ++ "_edge") = true := isIdentifier_append hr.name (by decide)
  have hprops : isIdentifier (edgePropsKey name) = true := isIdentifier_append hr.name (by decide)
  have hmerged : c.AllowsAll (mergedProps name r).names := by
    unfold mergedProps
    split <;> simp [hprops, hid]
  cases withProps <;> simp +decide [mergeBody, hmerged, hnode, hid, htarget, hedge, hr.name, hr.type, hr.target]

theorem allowsAll_updateBody : c.AllowsAll (clauseNames (c.updateBody name r)) := by
  have hnode : isIdentifier c.node = true := hspelled.node
  have hid : isIdentifier (name ++ "_id") = true := isIdentifier_append hr.name (by decide)
  have htarget : isIdentifier (name ++ "_target") = true := isIdentifier_append hr.name (by decide)
  have hedge : isIdentifier (name ++ "_edge") = true := isIdentifier_append hr.name (by decide)
  have hkey : isIdentifier (edgeUpdateKey name) = true := isIdentifier_append hr.name (by decide)
  simp +decide [updateBody, hnode, hid, htarget, hedge, hkey, hr.type, hr.target]

end Links

theorem allowsAll_writeClauses (mode : WriteMode) (tied : Bool) (input : Input) {links : List Links}
    {updates : List EdgeUpdate} (hlinks : ∀ l ∈ links, (l.name, l.relationship) ∈ c.links)
    (hupdates : ∀ u ∈ updates, (u.name, u.relationship) ∈ c.links) :
    ∀ k ∈ c.writeClauses mode tied input links updates, c.AllowsAll k.names := by
  have hnode : isIdentifier c.node = true := hspelled.node
  have hsubquery {body : List Clause} (hbody : c.AllowsAll (clauseNames body)) :
      c.AllowsAll (Clause.subquery [c.node] body).names := by simp [hnode, hbody]
  have hfields : ∀ e ∈ c.descriptor.fields.toList, isIdentifier e.1 = true := fun e he =>
    hspelled.property _ ((Bool.or_eq_true ..).mpr (.inl (Dict.contains_iff.2 (List.mem_map_of_mem he))))
  intro k hk
  rcases List.mem_append.1 hk with hk | hk
  · exact allowsAll_writeOpening hspelled mode tied k hk
  rcases List.mem_cons.1 hk with rfl | hk
  · rw [Clause.names, allowsAll_flatMap]
    intro a ha
    rcases List.mem_append.1 ha with ha | ha
    · exact allowsAll_stamps hspelled mode a ha
    · exact allowsAll_fieldAssignments hspelled mode input hfields a ha
  rcases List.mem_append.1 hk with hk | hk
  · rcases List.mem_append.1 hk with hk | hk
    · obtain ⟨l, hl, hk⟩ := List.mem_flatMap.1 hk
      have hr := hspelled.relationship _ (hlinks l hl)
      rcases List.mem_append.1 hk with hk | hk
      · split at hk
        · cases hk
        · rw [List.mem_singleton.1 hk]
          exact hsubquery (allowsAll_staleBody hspelled hr)
      · split at hk
        · cases hk
        · rw [List.mem_singleton.1 hk]
          exact hsubquery (allowsAll_mergeBody hspelled hr _)
    · obtain ⟨u, hu, rfl⟩ := List.mem_map.1 hk
      exact hsubquery (allowsAll_updateBody hspelled (hspelled.relationship _ (hupdates u hu)))
  · rw [List.mem_singleton.1 hk]
    simp +decide [hnode]

/-! ## All statements -/

theorem allowsAll_names (hreturn : c.descriptor.returnClause = none) {s : Statement} (h : c.Outlined s) :
    c.AllowsAll s.names := by
  have hnode : isIdentifier c.node = true := hspelled.node
  have hlabel : isIdentifier c.label = true := hspelled.label
  have hidTest : ∀ p ∈ [c.idTest], c.AllowsAll p.names := by simp +decide [idTest, hnode]
  have hscore : c.AllowsAll (orderNames scoreKeys) := by simp +decide [scoreKeys]
  unfold Statement.names
  rw [allowsAll_clauseNames]
  intro k hk
  cases h with
  | @list scope criteria related order h =>
    rcases List.mem_append.1 hk with hk | hk
    · exact allowsAll_candidates hspelled _ h k hk
    rcases List.mem_cons.1 hk with rfl | hk
    · simp [pageClause, allowsAll_ofVar (isIdentifier_carried hspelled criteria), allowsAll_order hspelled h.order]
    · exact allowsAll_tail hspelled hreturn (isIdentifier_carried hspelled criteria)
        (allowsAll_order hspelled h.order) k hk
  | @count scope criteria related order h =>
    rcases List.mem_append.1 hk with hk | hk
    · exact allowsAll_candidates hspelled _ h k hk
    simp only [List.mem_cons, List.not_mem_nil, or_false] at hk
    rcases hk with rfl | rfl
    · simp [pageClause, Statement.unordered, allowsAll_ofVar (isIdentifier_carried hspelled criteria)]
    · simp +decide [counting, hnode]
  | single scope id =>
    obtain ⟨hinit, hlast⟩ := allowsAll_opening hspelled .label scope.isSome (by simp)
    rcases List.mem_append.1 hk with hk | hk
    · exact hinit k hk
    rcases List.mem_cons.1 hk with rfl | hk
    · exact allowsAll_guardedBy (c.guardable_openingLast _ _) [c.idTest] hlast hidTest
    · exact allowsAll_tail hspelled hreturn (by simp [hnode]) (by simp) k hk
  | @neighbours scope vector k' index hindex =>
    have hname := hspelled.index index hindex
    obtain ⟨hinit, hlast⟩ := allowsAll_opening hspelled (vectorSource index.name) scope.isSome (by
      intro procedure args hsource
      cases hsource
      simp +decide [hname])
    rcases List.mem_append.1 hk with hk | hk
    · exact hinit k hk
    rcases List.mem_cons.1 hk with rfl | hk
    · exact hlast
    · exact allowsAll_tail hspelled hreturn (by simp +decide [hnode]) hscore k hk
  | existence id =>
    simp only [existenceStatement, List.mem_cons, List.not_mem_nil, or_false] at hk
    rcases hk with rfl | rfl
    · refine allowsAll_guardedBy (k := .matching _) rfl [c.idTest] ?_ hidTest
      simp [hnode, hlabel]
    · simp +decide [hnode]
  | write mode scope id input hlinks hupdates =>
    exact allowsAll_writeClauses hspelled mode _ input hlinks hupdates k hk
  | deletion scope id =>
    rcases List.mem_append.1 hk with hk | hk
    · exact allowsAll_writeOpening hspelled _ _ k hk
    · simp only [deletionClauses, List.mem_cons, List.not_mem_nil, or_false] at hk
      rcases hk with rfl | rfl | rfl <;> simp +decide [hnode]
  | lookup refs =>
    simp only [lookupStatement, existenceClauses, List.mem_cons, List.not_mem_nil, or_false] at hk
    rcases hk with rfl | rfl | rfl <;> simp +decide [Node.names]

end Spelled

/-- Every name that a statement of an accepted descriptor spells out is an identifier, if the tenants' label and the
type of membership edges are. -/
theorem names_are_identifiers {s : Statement} (hvalid : c.descriptor.validate = .ok ())
    (hreturn : c.descriptor.returnClause = none) (htenant : isIdentifier c.settings.tenantLabel = true)
    (hmembership : isIdentifier c.settings.membershipEdge = true) (h : c.Emits s) :
    ∀ n ∈ s.names, isIdentifier n.text = true := by
  intro n hn
  rcases allowsAll_names (Schema.Descriptor.spelled_of_validate hvalid) hreturn (h.outlined hreturn) n hn with
    hidentifier | rfl | rfl
  · exact hidentifier
  · exact htenant
  · exact hmembership

/-- Tags with a searched name, an owner and weighted links to books. -/
def catalogue : Compiler :=
  ⟨((((Schema.Descriptor.base "Tag" "tag").withTenant.withField "name" ⟨.string, none⟩).withFulltext "tag_search"
    ["name"]).withRelationship "owner" ⟨"OWNED_BY", .outgoing, .one, true, "User", [⟨"since", none⟩], none,
      none⟩).withRelationship "books" ⟨"TAGGED", .incoming, .many, false, "Book", [⟨"weight", none⟩], none, none⟩,
    default⟩

/-- A search through all relationships, and the count of its rows. -/
theorem names_are_identifiers_catalogue :
    let op : Operation := .findByRelated "books" ["b1"] ⟨some "rust", none, .ofList [("name", .str "x")]⟩
    ∃ r t, catalogue.compile (.member "c1" "u1") op = .ok r ∧ r.main.count? = some t ∧
      (∀ n ∈ r.main.names, isIdentifier n.text = true) ∧ ∀ n ∈ t.names, isIdentifier n.text = true := by
  intro op
  have hvalid : catalogue.descriptor.validate = .ok () := by
    obtain ⟨_, h⟩ := Result.isSome_toOption_iff.1
      (by decide +kernel : catalogue.descriptor.validate.toOption.isSome = true)
    exact h
  obtain ⟨r, hr⟩ : ∃ r, catalogue.compile (.member "c1" "u1") op = .ok r :=
    Result.isSome_toOption_iff.1 (by decide +kernel)
  obtain ⟨t, ht⟩ : ∃ t, r.main.count? = some t := by
    obtain ⟨scope, order, -, -, hmain⟩ := catalogue.listStatement_of_compile (l := ⟨_, some ("books", ["b1"])⟩) hr
    exact ⟨_, hmain ▸ catalogue.count?_listStatement _ _ _ _⟩
  have hmain := Emits.main hr
  exact ⟨r, t, hr, ht, names_are_identifiers hvalid rfl (by decide) (by decide) hmain,
    names_are_identifiers hvalid rfl (by decide) (by decide) (hmain.count ht)⟩

end EntityGraph.Compile.Compiler
