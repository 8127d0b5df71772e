import EntityGraph.Compile.Write
import EntityGraph.Proofs.Compile.ReadOutline

/-!
# The outline of a write

Which clauses and parameters a write has, written down without a builder: an opening that creates or finds the
entity, the assignments, two subqueries at most for each relationship whose links are set, one for each
relationship whose edges are changed, and the id. Every write that compiles is equal to its outline.
-/
namespace EntityGraph.Compile

open Cypher
open Json (Value)
open Schema (Relationship Field)

/-- The parameters of the subquery that deletes stale edges. -/
def Links.staleParams (l : Links) : Params := (∅ : Params).insert l.name (.ofStrings l.ids)

/-- The parameters of the subquery that merges the listed edges. -/
def Links.mergeParams (l : Links) : Params :=
  match l.edgeProps with
  | some props => l.staleParams.insert (edgePropsKey l.name) props
  | none => l.staleParams

/-- The parameters of the subquery that changes edges. -/
def EdgeUpdate.params (u : EdgeUpdate) : Params := (∅ : Params).insert (edgeUpdateKey u.name) (.ofDict u.props)

namespace Compiler

variable (c : Compiler)

/-! ## The opening -/

/-- The tenant that a write is tied to, if any. A creation within a tenant needs one even if access is elevated. -/
def writeScope (mode : WriteMode) (caller : Caller) : Result (Option String) :=
  match mode with
  | .create =>
    if c.descriptor.companyScoped then
      match caller.company.filter (fun s => s ≠ "") with
      | none => .error (.missingTenant c.label)
      | some company => .ok (some company)
    else .ok none
  | _ => c.scope caller

theorem companyScoped_of_writeScope {mode : WriteMode} {caller : Caller} {company : String}
    (h : c.writeScope mode caller = .ok (some company)) : c.descriptor.companyScoped = true := by
  cases hscoped : c.descriptor.companyScoped with
  | true => rfl
  | false => cases mode <;> simp [writeScope, scope, hscoped] at h

/-- The clauses that create the entity or find it by its id. -/
def writeOpening (mode : WriteMode) (tied : Bool) : List Clause :=
  match mode with
  | .create =>
    if tied then [.matching (.node c.tenantNode), .create (.node c.nodeById),
      .create (c.membership (.bound c.node) (.bound tenantVar))]
    else [.create (.node c.nodeById)]
  | _ =>
    if tied then [.matching (c.membership c.nodeById c.tenantNode)] else [.matching (.node c.nodeById)]

theorem matchById_holds {b b' : Builder} {caller : Caller} {id : String} {params : Params}
    {primary entity : Option String} (h : b.Holds ⟨[], params, primary, entity⟩)
    (hb : c.matchById b caller id = .ok b') :
    ∃ scope, c.scope caller = .ok scope ∧
      b'.Holds ⟨c.writeOpening .put scope.isSome, withScope scope (params.insert "id" (.str id)),
        primary, entity⟩ := by
  obtain ⟨scope, hscope, hb⟩ := Result.bind_eq_ok_iff.1 hb
  refine ⟨scope, hscope, ?_⟩
  cases scope with
  | some company =>
    cases hb
    exact ((h.bind _ _).bind _ _).push _
  | none =>
    cases hb
    exact (h.bind _ _).push _

theorem createNode_holds {b b' : Builder} {caller : Caller} {id : String} {params : Params}
    {primary entity : Option String} (h : b.Holds ⟨[], params, primary, entity⟩)
    (hb : c.createNode b caller id = .ok b') :
    ∃ scope, c.writeScope .create caller = .ok scope ∧
      b'.Holds ⟨c.writeOpening .create scope.isSome, withScope scope (params.insert "id" (.str id)),
        primary, entity⟩ := by
  unfold createNode at hb
  unfold writeScope
  split at hb
  · rename_i hscoped
    cases hcompany : caller.company.filter (fun s => s ≠ "") with
    | none =>
      rw [hcompany] at hb
      cases hb
    | some company =>
      rw [hcompany] at hb
      cases hb
      exact ⟨some company, by simp [hscoped], ((((h.bind _ _).bind _ _).push _).push _).push _⟩
  · rename_i hscoped
    cases hb
    exact ⟨none, by simp [hscoped], (h.bind _ _).push _⟩

/-! ## Assignments -/

/-- The times that a write stamps. -/
def stamps (mode : WriteMode) : List Assignment :=
  (if mode = .create then [assign c.node "createdAt" now] else []) ++ [assign c.node "updatedAt" now]

/-- The assignment of a declared property. -/
def fieldAssignment (name : String) (field : Field) (absent : Bool) : Assignment :=
  assign c.node name (if absent then .null else cast field.type (.param name))

/-- The assignments of the declared properties that a write touches. -/
def fieldAssignments (mode : WriteMode) (input : Input) (fields : List (String × Field)) : List Assignment :=
  fields.filterMap (fun e => (fieldValue mode input e.1 e.2).map
    (fun value => c.fieldAssignment e.1 e.2 value.isNull))

/-- The parameters with the values of the declared properties that a write sets. -/
def withFields (mode : WriteMode) (input : Input) (fields : List (String × Field)) (params : Params) : Params :=
  fields.foldl
    (fun params e => match fieldValue mode input e.1 e.2 with
      | none => params
      | some value => if value.isNull then params else params.insert e.1 value)
    params

theorem assignFields_holds (mode : WriteMode) (input : Input) (items : List Assignment) {b : Builder}
    {clauses : List Clause} {params : Params} {primary entity : Option String}
    (h : b.Holds ⟨clauses, params, primary, entity⟩) :
    (c.assignFields mode input (b, items)).1.Holds
        ⟨clauses, withFields mode input c.descriptor.fields.toList params, primary, entity⟩ ∧
      (c.assignFields mode input (b, items)).2 =
        items ++ c.fieldAssignments mode input c.descriptor.fields.toList := by
  unfold assignFields withFields fieldAssignments
  induction c.descriptor.fields.toList generalizing b items params with
  | nil => exact ⟨h, by simp⟩
  | cons e rest ih =>
    cases hvalue : fieldValue mode input e.1 e.2 with
    | none => simpa [hvalue] using ih items h
    | some value =>
      by_cases hnull : value.isNull = true
      · simpa [hvalue, assignField, hnull, fieldAssignment] using
          ih (items ++ [assign c.node e.1 .null]) h
      · simpa [hvalue, assignField, hnull, fieldAssignment, Statement.bind] using
          ih (items ++ [assign c.node e.1 (cast e.2.type (.param e.1))]) (h.bind e.1 value)

/-! ## Links -/

/-- The body of the subquery that deletes the edges to targets that are not listed. -/
def staleBody (name : String) (r : Relationship) : List Clause :=
  [.pattern (c.relationshipPattern (some (name ++ "_stale")) r (.labeled (name ++ "_existing") r.target)) false
      (some (.not (.isIn (.prop (name ++ "_existing") "id") (.param name)))),
    .delete [name ++ "_stale"] false]

/-- The properties of a merged edge, in the parameter that holds them. -/
def mergedProps (name : String) (r : Relationship) : Expr :=
  match r.cardinality with
  | .one => .param (edgePropsKey name)
  | .many => .entry (edgePropsKey name) (.var (name ++ "_id"))

/-- The body of the subquery that merges an edge to every listed target. -/
def mergeBody (name : String) (r : Relationship) (withProps : Bool) : List Clause :=
  [.unwind (.param name) (name ++ "_id"),
    .matching (.node ((Node.labeled (name ++ "_target") r.target).withProp "id" (.var (name ++ "_id")))),
    .merge (c.relationshipPattern (some (name ++ "_edge")) r (.bound (name ++ "_target")))] ++
  (if withProps then [.set [.overlay (name ++ "_edge") (mergedProps name r)]] else [])

/-- The clauses that bring the edges of a relationship in line with its links. -/
def linkClauses (mode : WriteMode) (l : Links) : List Clause :=
  (if mode = .create then [] else [.subquery [c.node] (c.staleBody l.name l.relationship)]) ++
    (if l.ids.isEmpty then []
      else [.subquery [c.node] (c.mergeBody l.name l.relationship l.edgeProps.isSome)])

theorem subquery_of_mem_linkClauses {mode : WriteMode} {l : Links} {k : Clause} (h : k ∈ c.linkClauses mode l) :
    ∃ body, k = .subquery [c.node] body := by
  unfold linkClauses at h
  rcases List.mem_append.1 h with h | h <;> split at h
  · cases h
  · exact ⟨_, List.mem_singleton.1 h⟩
  · cases h
  · exact ⟨_, List.mem_singleton.1 h⟩

/-- The parameters with those of a relationship's links. -/
def withLink (mode : WriteMode) (params : Params) (l : Links) : Params :=
  let kept := if mode = .create then params else params.overlay l.staleParams
  if l.ids.isEmpty then kept else kept.overlay l.mergeParams

theorem deleteStale_holds (l : Links) :
    (c.deleteStale l).Holds ⟨c.staleBody l.name l.relationship, l.staleParams, none, none⟩ := by
  have hmatch := (Builder.holds_empty.bind l.name (.ofStrings l.ids)).push
    (.matching (c.relationshipPattern (some (l.name ++ "_stale")) l.relationship
      (.labeled (l.name ++ "_existing") l.relationship.target)))
  have hstale := (hmatch.filter (.not (.isIn (.prop (l.name ++ "_existing") "id") (.param l.name)))).push
    (.delete [l.name ++ "_stale"] false)
  simpa [Statement.push, Statement.bind, Statement.filter, Clause.matching, Clause.guarded, Clause.filtered?,
    joined, deleteStale, Builder.matching, Builder.delete, staleBody, Links.staleParams] using hstale

theorem edgeMap_eq (l : Links) : edgeMap l = mergedProps l.name l.relationship := by
  unfold edgeMap mergedProps
  cases l.relationship.cardinality <;> rfl

theorem mergeListed_holds (l : Links) :
    (c.mergeListed l).Holds
      ⟨c.mergeBody l.name l.relationship l.edgeProps.isSome, l.mergeParams, none, none⟩ := by
  have hmerge := (((Builder.holds_empty.bind l.name (.ofStrings l.ids)).push
    (.unwind (.param l.name) (l.name ++ "_id"))).push
    (.matching (.node ((Node.labeled (l.name ++ "_target") l.relationship.target).withProp "id"
      (.var (l.name ++ "_id")))))).push
    (.merge (c.relationshipPattern (some (l.name ++ "_edge")) l.relationship (.bound (l.name ++ "_target"))))
  cases hprops : l.edgeProps with
  | none =>
    simpa [Statement.push, Statement.bind, Clause.matching, mergeListed, Builder.matching, Builder.unwind,
      Builder.merge, mergeBody, Links.mergeParams, Links.staleParams, hprops] using hmerge
  | some props =>
    have hset := (hmerge.bind (edgePropsKey l.name) props).push
      (.set [.overlay (l.name ++ "_edge") (mergedProps l.name l.relationship)])
    simpa [Statement.push, Statement.bind, Clause.matching, mergeListed, Builder.matching, Builder.unwind,
      Builder.merge, Builder.set, edgeMap_eq, mergeBody, Links.mergeParams, Links.staleParams,
      hprops] using hset

theorem writeLinks_holds (mode : WriteMode) {b : Builder} {clauses : List Clause} {params : Params}
    {primary entity : Option String} (h : b.Holds ⟨clauses, params, primary, entity⟩) (l : Links) :
    (c.writeLinks mode b l).Holds
      ⟨clauses ++ c.linkClauses mode l, withLink mode params l, primary, entity⟩ := by
  have hstale : (if mode = .create then b else b.subquery [c.node] (c.deleteStale l)).Holds
      ⟨clauses ++ (if mode = .create then [] else [.subquery [c.node] (c.staleBody l.name l.relationship)]),
        if mode = .create then params else params.overlay l.staleParams, primary, entity⟩ := by
    split
    · simpa using h
    · exact h.subquery (c.deleteStale_holds l) [c.node]
  unfold writeLinks linkClauses withLink
  cases l.ids.isEmpty with
  | true => simpa using hstale
  | false => simpa [Statement.push] using hstale.subquery (c.mergeListed_holds l) [c.node]

theorem foldl_writeLinks_holds (mode : WriteMode) (links : List Links) {b : Builder} {clauses : List Clause}
    {params : Params} {primary entity : Option String} (h : b.Holds ⟨clauses, params, primary, entity⟩) :
    (links.foldl (c.writeLinks mode) b).Holds
      ⟨clauses ++ links.flatMap (c.linkClauses mode), links.foldl (withLink mode) params, primary, entity⟩ := by
  induction links generalizing b clauses params with
  | nil => simpa using h
  | cons l rest ih => simpa using ih (c.writeLinks_holds mode h l)

/-! ## Changes of edges -/

/-- The body of the subquery that overlays the properties of edges that exist. -/
def updateBody (name : String) (r : Relationship) : List Clause :=
  [.unwind (.keys (.param (edgeUpdateKey name))) (name ++ "_id"),
    .matching (c.relationshipPattern (some (name ++ "_edge")) r
      ((Node.labeled (name ++ "_target") r.target).withProp "id" (.var (name ++ "_id")))),
    .set [.overlay (name ++ "_edge") (.entry (edgeUpdateKey name) (.var (name ++ "_id")))]]

/-- The clause that changes the edges of a relationship. -/
def updateClause (u : EdgeUpdate) : Clause := .subquery [c.node] (c.updateBody u.name u.relationship)

/-- The changes of the edges of a relationship are a subquery without misuses, the same whatever stands before it. -/
theorem updateEdges_eq_subquery (u : EdgeUpdate) :
    ∃ nested, nested.Holds ⟨c.updateBody u.name u.relationship, u.params, none, none⟩ ∧ nested.misuse = none ∧
      ∀ b, c.updateEdges b u = b.subquery [c.node] nested := by
  have hnested := (((Builder.holds_empty.bind (edgeUpdateKey u.name) (.ofDict u.props)).push
    (.unwind (.keys (.param (edgeUpdateKey u.name))) (u.name ++ "_id"))).push
    (.matching (c.relationshipPattern (some (u.name ++ "_edge")) u.relationship
      ((Node.labeled (u.name ++ "_target") u.relationship.target).withProp "id"
        (.var (u.name ++ "_id")))))).push
    (.set [.overlay (u.name ++ "_edge") (.entry (edgeUpdateKey u.name) (.var (u.name ++ "_id")))])
  exact ⟨_, hnested, rfl, fun _ => rfl⟩

theorem updateEdges_holds {b : Builder} {clauses : List Clause} {params : Params}
    {primary entity : Option String} (h : b.Holds ⟨clauses, params, primary, entity⟩) (u : EdgeUpdate) :
    (c.updateEdges b u).Holds
      ⟨clauses ++ [c.updateClause u], params.overlay u.params, primary, entity⟩ := by
  obtain ⟨nested, hnested, -, heq⟩ := c.updateEdges_eq_subquery u
  rw [heq]
  exact h.subquery hnested [c.node]

theorem foldl_updateEdges_holds (updates : List EdgeUpdate) {b : Builder} {clauses : List Clause}
    {params : Params} {primary entity : Option String} (h : b.Holds ⟨clauses, params, primary, entity⟩) :
    (updates.foldl c.updateEdges b).Holds
      ⟨clauses ++ updates.map c.updateClause, updates.foldl (fun params u => params.overlay u.params) params,
        primary, entity⟩ := by
  induction updates generalizing b clauses params with
  | nil => simpa using h
  | cons u rest ih => simpa using ih (c.updateEdges_holds h u)

/-! ## The look-up of linked nodes -/

/-- The clauses of the look-up of all nodes that a write links to. -/
def existenceClauses : List Clause :=
  [.unwind (.param "relatedRefs") "ref",
    .pattern (.node ⟨some "related", none, [("id", .prop "ref" "id")]⟩) true
      (some (.inLabels (.prop "ref" "label") "related")),
    .returning
      [.expr (.prop "ref" "relationship") "relationship", .expr (.prop "ref" "id") "id",
        .expr (.prop "ref" "label") "label", .expr (.truth (.isNotNull (.var "related"))) "found"] false []]

theorem relatedExistence_outline {refs : List Reference} {precheck : Option Statement}
    (h : c.relatedExistence refs = .ok precheck) :
    precheck = if refs.isEmpty then none
      else some ⟨existenceClauses, (∅ : Params).insert "relatedRefs" (.arr (refs.map referenceValue)), none,
        some c.label⟩ := by
  unfold relatedExistence at h
  split at h
  · rename_i hrefs
    cases h
    rw [if_pos hrefs]
  · rename_i hrefs
    obtain ⟨s, hs, rfl⟩ := Result.map_eq_ok_iff.1 h
    cases hs
    rw [if_neg hrefs]
    rfl

/-! ## The whole write -/

/-- The changes of edges that a write applies: only an update has any. -/
def writeUpdates (mode : WriteMode) (input : Input) : Result (List EdgeUpdate) :=
  if mode = .patch then resolveEdgeUpdates input c.links else .ok []

/-- The clauses of a write. -/
def writeClauses (mode : WriteMode) (tied : Bool) (input : Input) (links : List Links)
    (updates : List EdgeUpdate) : List Clause :=
  c.writeOpening mode tied ++
    .set (c.stamps mode ++ c.fieldAssignments mode input c.descriptor.fields.toList) ::
      (links.flatMap (c.linkClauses mode) ++ updates.map c.updateClause ++
        [.returning [.expr (.prop c.node "id") "id"] false []])

/-- What is looked for in the clauses of a write and found neither in its opening nor in its end. -/
theorem filterMap_writeClauses {β : Type} (f : Clause → Option β) {mode : WriteMode} {tied : Bool}
    (hopening : ∀ k ∈ c.writeOpening mode tied, f k = none) (hupdate : ∀ u, f (c.updateClause u) = none)
    (hreturn : f (.returning [.expr (.prop c.node "id") "id"] false []) = none) (input : Input) (links : List Links)
    (updates : List EdgeUpdate) :
    (c.writeClauses mode tied input links updates).filterMap f =
      (f (.set (c.stamps mode ++ c.fieldAssignments mode input c.descriptor.fields.toList))).toList ++
        links.flatMap (fun l => (c.linkClauses mode l).filterMap f) := by
  have hupdates : (updates.map c.updateClause).filterMap f = [] := by
    rw [List.filterMap_map, List.filterMap_eq_nil_iff]
    exact fun u _ => hupdate u
  rw [writeClauses, List.filterMap_append, List.filterMap_eq_nil_iff.2 hopening, List.nil_append, List.filterMap_cons,
    List.filterMap_append, List.filterMap_append, hupdates, List.filterMap_cons_none hreturn, List.filterMap_nil,
    List.append_nil, List.append_nil, List.filterMap_flatMap]
  cases f (.set (c.stamps mode ++ c.fieldAssignments mode input c.descriptor.fields.toList)) <;> rfl

/-- The parameters of a write. -/
def writeParams (mode : WriteMode) (scope : Option String) (id : String) (input : Input) (links : List Links)
    (updates : List EdgeUpdate) : Params :=
  let opened := withScope scope ((∅ : Params).insert "id" (.str id))
  let set := withFields mode input c.descriptor.fields.toList opened
  updates.foldl (fun params u => params.overlay u.params) (links.foldl (withLink mode) set)

/-- The steps that a write is compiled in. -/
theorem write_steps {caller : Caller} {input : Input} {mode : WriteMode} {plan : WritePlan}
    (h : c.write caller input mode = .ok plan) :
    ∃ links updates b, inputId? input = some plan.id ∧
      c.resolveLinks caller mode input c.links = .ok links ∧ c.writeUpdates mode input = .ok updates ∧
      c.relatedExistence (links.flatMap Links.references) = .ok plan.precheck ∧
      (if mode = .create then c.createNode c.builder caller plan.id
        else c.matchById c.builder caller plan.id) = .ok b ∧
      ((updates.foldl c.updateEdges (links.foldl (c.writeLinks mode)
        ((c.assignFields mode input (b, c.stamps mode)).1.set
          (c.assignFields mode input (b, c.stamps mode)).2))).returning
            [.expr (.prop c.node "id") "id"] []).build = .ok plan.write := by
  unfold write at h
  cases hid : inputId? input with
  | none =>
    rw [hid] at h
    cases h
  | some id =>
    rw [hid] at h
    obtain ⟨_, hfound, h⟩ := Result.bind_eq_ok_iff.1 h
    cases hfound
    obtain ⟨links, hlinks, h⟩ := Result.bind_eq_ok_iff.1 h
    obtain ⟨updates, hupdates, h⟩ := Result.ite_bind_eq_ok_iff.1 h
    obtain ⟨precheck, hprecheck, h⟩ := Result.bind_eq_ok_iff.1 h
    obtain ⟨b, hopen, h⟩ := Result.ite_bind_eq_ok_iff.1 h
    obtain ⟨write, hwrite, hplan⟩ := Result.bind_eq_ok_iff.1 h
    cases hplan
    exact ⟨links, updates, b, rfl, hlinks, hupdates, hprecheck, hopen, hwrite⟩

/-- A write is what its parts are put together to, if they are all there. -/
theorem write_eq {caller : Caller} {mode : WriteMode} {input : Input} {b : Builder} {id : String} {links : List Links}
    {updates : List EdgeUpdate} {precheck : Option Statement}
    (hid : inputId? input = some id) (hlinks : c.resolveLinks caller mode input c.links = .ok links)
    (hupdates : c.writeUpdates mode input = .ok updates)
    (hprecheck : c.relatedExistence (links.flatMap Links.references) = .ok precheck)
    (hopen : (if mode = .create then c.createNode c.builder caller id else c.matchById c.builder caller id) = .ok b) :
    c.write caller input mode = ((updates.foldl c.updateEdges (links.foldl (c.writeLinks mode)
      ((c.assignFields mode input (b, c.stamps mode)).1.set
        (c.assignFields mode input (b, c.stamps mode)).2))).push
          (.returning [.expr (.prop c.node "id") "id"] false [])).build.map (fun write => ⟨id, precheck, write⟩) := by
  unfold writeUpdates at hupdates
  unfold Compiler.links at hlinks hupdates
  unfold write
  simp only [hid]
  rw [Result.ok_bind, hlinks, Result.ok_bind, Result.ite_bind, hupdates, Result.ok_bind, hprecheck, Result.ok_bind,
    Result.ite_bind, hopen]
  rfl

/-- A write that compiles is equal to its outline. -/
theorem write_outline {caller : Caller} {input : Input} {mode : WriteMode} {plan : WritePlan}
    (h : c.write caller input mode = .ok plan) :
    ∃ scope links updates, c.writeScope mode caller = .ok scope ∧ inputId? input = some plan.id ∧
      c.resolveLinks caller mode input c.links = .ok links ∧ c.writeUpdates mode input = .ok updates ∧
      c.relatedExistence (links.flatMap Links.references) = .ok plan.precheck ∧
      plan.write = ⟨c.writeClauses mode scope.isSome input links updates,
        c.writeParams mode scope plan.id input links updates, some c.node, some c.label⟩ := by
  obtain ⟨links, updates, b, hid, hlinks, hupdates, hprecheck, hopen, hbuild⟩ := c.write_steps h
  have hopened : ∃ scope, c.writeScope mode caller = .ok scope ∧
      b.Holds ⟨c.writeOpening mode scope.isSome, withScope scope ((∅ : Params).insert "id" (.str plan.id)),
        some c.node, some c.label⟩ := by
    cases mode with
    | create => exact c.createNode_holds (Builder.holds_forEntity _ _) hopen
    | put => exact c.matchById_holds (Builder.holds_forEntity _ _) hopen
    | patch => exact c.matchById_holds (Builder.holds_forEntity _ _) hopen
  obtain ⟨scope, hscope, hopened⟩ := hopened
  refine ⟨scope, links, updates, hscope, hid, hlinks, hupdates, hprecheck, ?_⟩
  obtain ⟨hassigned, hitems⟩ := c.assignFields_holds mode input (c.stamps mode) hopened
  rw [hitems] at hbuild
  have hset := hassigned.set (by simp [stamps] :
    c.stamps mode ++ c.fieldAssignments mode input c.descriptor.fields.toList ≠ [])
  have hreturned := (c.foldl_updateEdges_holds updates
    (c.foldl_writeLinks_holds mode links hset)).push
    (.returning [.expr (.prop c.node "id") "id"] false [])
  simpa [Statement.push, writeClauses, writeParams] using hreturned.build hbuild

/-- A deletion that compiles is equal to its outline. -/
theorem delete_outline {caller : Caller} {id : String} {s : Statement} (h : c.delete caller id = .ok s) :
    ∃ scope, c.scope caller = .ok scope ∧
      s = ⟨c.writeOpening .put scope.isSome ++
          [.projection [.ofVar c.node, .expr (.prop c.node "id") "deletedId"] false none [] false,
            .delete [c.node] true, .returning [.var "deletedId" (some "id")] false []],
        withScope scope ((∅ : Params).insert "id" (.str id)), some c.node, some c.label⟩ := by
  obtain ⟨b, hopen, hbuild⟩ := Result.bind_eq_ok_iff.1 h
  obtain ⟨scope, hscope, hopened⟩ := c.matchById_holds (Builder.holds_forEntity _ _) hopen
  refine ⟨scope, hscope, ?_⟩
  have hreturned := ((hopened.push
    (.projection [.ofVar c.node, .expr (.prop c.node "id") "deletedId"] false none [] false)).push
    (.delete [c.node] true)).push (.returning [.var "deletedId" (some "id")] false [])
  simpa [Statement.push] using hreturned.build hbuild

end Compiler
end EntityGraph.Compile
