import EntityGraph.Compile.EdgeProperties
import EntityGraph.Compile.Integrity

/-!
# Writes

Create, put, patch and delete. A write sets the declared properties that its mode touches, replaces the links
of every relationship that the input names, and returns the entity's id, so an empty result means that nothing
was matched. Before it comes a look-up of all nodes that it links to.
-/
namespace EntityGraph.Compile

open Cypher
open Json (Value)
open Schema (Descriptor Relationship Field)

/-- How a write treats what the input leaves out. -/
inductive WriteMode where
  /-- A new node: defaults are filled in, null properties are skipped. -/
  | create
  /-- A replacement: what is left out is cleared. -/
  | put
  /-- An update: what is left out stays. -/
  | patch
  deriving Repr, DecidableEq, Inhabited

/-- The input of a write. -/
abbrev Input := Dict Value

/-- The statements of a write. -/
structure WritePlan where
  id : String
  /-- The look-up of the nodes that the write links to. -/
  precheck : Option Statement
  write : Statement

/-- The links that a write gives to a relationship. -/
structure Links where
  name : String
  relationship : Relationship
  ids : List String
  edgeProps : Option Value

/-- The edge changes of a relationship, by target id. -/
structure EdgeUpdate where
  name : String
  relationship : Relationship
  props : Dict Value

/-- An assignment to a property. -/
def assign (node key : String) (value : Expr) : Assignment := .assign node key value

/-- The present moment. -/
def now : Expr := .apply "datetime" []

/-- The id of the input, if it is a text that is not empty. -/
def inputId? (input : Input) : Option String :=
  ((input.get? "id").bind Value.string?).filter (fun s => s ≠ "")

/-- The value of a declared property: absent if the mode leaves it alone, null if it is to be cleared. -/
def fieldValue (mode : WriteMode) (input : Input) (name : String) (field : Field) : Option Value :=
  match mode with
  | .create => ((((input.get? name).filter (fun v => !v.isNull)).or field.default).filter (fun v => !v.isNull))
  | .put => some ((input.get? name).getD .null)
  | .patch => input.get? name

/-- The input of a relationship: its member, or for a new node the value of the caller that stands in for it. -/
def linkValue (caller : Caller) (mode : WriteMode) (input : Input) (name : String) (r : Relationship) :
    Option Value :=
  match input.get? (r.inputKey name) with
  | some v => some v
  | none => if mode = .create then r.contextKey.bind caller.value? else none

namespace Compiler

variable (c : Compiler)

/-- The links of a relationship, if the write touches it. -/
def resolveLink (caller : Caller) (mode : WriteMode) (input : Input) (name : String) (r : Relationship) :
    Result (Option Links) :=
  match linkValue caller mode input name r with
  | none => if mode = .create && r.required then refuse (.emptyRequired c.label name) else .ok none
  | some value => do
    let ids ← relatedIds name value
    if r.required && ids.isEmpty then refuse (.emptyRequired c.label name)
    if r.cardinality = .one && 1 < ids.length then refuse (.severalTargets c.label name)
    let edgeProps ← edgeProperties name r input ids
    .ok (some ⟨name, r, ids, edgeProps⟩)

/-- The links of all relationships that the write touches. -/
def resolveLinks (caller : Caller) (mode : WriteMode) (input : Input) :
    List (String × Relationship) → Result (List Links)
  | [] => .ok []
  | (name, r) :: rest => do
    let link ← c.resolveLink caller mode input name r
    let links ← resolveLinks caller mode input rest
    .ok (link.toList ++ links)

end Compiler

/-- The edge changes of a relationship, if the input has any. -/
def resolveEdgeUpdate (input : Input) (name : String) (r : Relationship) : Result (Option EdgeUpdate) :=
  match input.get? (edgeUpdateKey name) with
  | none => .ok none
  | some .null => .ok none
  | some (.obj members) =>
    if r.fields.isEmpty then refuse (.edgeUpdatesNotByTarget (edgeUpdateKey name))
    else do
      let props := Dict.ofList members
      props.values.forM (checkEdgeFields name r)
      .ok (some ⟨name, r, props⟩)
  | some _ => refuse (.edgeUpdatesNotByTarget (edgeUpdateKey name))

/-- The edge changes of all relationships. -/
def resolveEdgeUpdates (input : Input) : List (String × Relationship) → Result (List EdgeUpdate)
  | [] => .ok []
  | (name, r) :: rest => do
    let update ← resolveEdgeUpdate input name r
    let updates ← resolveEdgeUpdates input rest
    .ok (update.toList ++ updates)

/-- The references of links to their targets. -/
def Links.references (l : Links) : List Reference := l.ids.map (fun id => ⟨l.name, l.relationship.target, id⟩)

namespace Compiler

variable (c : Compiler)

/-- Creates the entity, in the caller's tenant if it is company scoped. -/
def createNode (b : Builder) (caller : Caller) (id : String) : Result Builder :=
  let b := b.bind "id" (.str id)
  if c.descriptor.companyScoped then
    match caller.company.filter (fun s => s ≠ "") with
    | none => .error (.missingTenant c.label)
    | some company =>
      .ok ((((b.bind companyParam (.str company)).matching (.node c.tenantNode) false).create
        (.node c.nodeById)).create (c.membership (.bound c.node) (.bound tenantVar)))
  else .ok (b.create (.node c.nodeById))

/-- Binds the value of a property and assigns it. Null clears the property. -/
def assignField (state : Builder × List Assignment) (name : String) (field : Field) (value : Value) :
    Builder × List Assignment :=
  if value.isNull then (state.1, state.2 ++ [assign c.node name .null])
  else (state.1.bind name value, state.2 ++ [assign c.node name (cast field.type (.param name))])

/-- Assigns the declared properties that the mode touches, in the order of their names. -/
def assignFields (mode : WriteMode) (input : Input) (state : Builder × List Assignment) :
    Builder × List Assignment :=
  c.descriptor.fields.toList.foldl
    (fun state e => match fieldValue mode input e.1 e.2 with
      | none => state
      | some value => c.assignField state e.1 e.2 value)
    state

/-- Deletes the edges to targets that are not listed. -/
def deleteStale (l : Links) : Builder :=
  let existing := l.name ++ "_existing"
  let stale := l.name ++ "_stale"
  (((Builder.empty.bind l.name (.ofStrings l.ids)).matching
    (c.relationshipPattern (some stale) l.relationship (.labeled existing l.relationship.target)) false).filter
    (.not (.isIn (.prop existing "id") (.param l.name)))).delete [stale] false

/-- The properties of a merged edge, in the parameter that holds them. -/
def edgeMap (l : Links) : Expr :=
  match l.relationship.cardinality with
  | .one => .param (edgePropsKey l.name)
  | .many => .entry (edgePropsKey l.name) (.var (l.name ++ "_id"))

/-- Merges an edge to every listed target and overlays its properties. -/
def mergeListed (l : Links) : Builder :=
  let each := l.name ++ "_id"
  let target := l.name ++ "_target"
  let edge := l.name ++ "_edge"
  let b := Builder.empty.bind l.name (.ofStrings l.ids)
  let b := b.unwind (.param l.name) each
  let b := b.matching (.node ((Node.labeled target l.relationship.target).withProp "id" (.var each))) false
  let b := b.merge (c.relationshipPattern (some edge) l.relationship (.bound target))
  match l.edgeProps with
  | some props => (b.bind (edgePropsKey l.name) props).set [.overlay edge (edgeMap l)]
  | none => b

/-- Brings the edges of a relationship in line with its links. A new node has no stale edges. -/
def writeLinks (mode : WriteMode) (b : Builder) (l : Links) : Builder :=
  let b := if mode = .create then b else b.subquery [c.node] (c.deleteStale l)
  if l.ids.isEmpty then b else b.subquery [c.node] (c.mergeListed l)

/-- Overlays the properties of edges that exist. -/
def updateEdges (b : Builder) (u : EdgeUpdate) : Builder :=
  let param := edgeUpdateKey u.name
  let each := u.name ++ "_id"
  let target := u.name ++ "_target"
  let edge := u.name ++ "_edge"
  let nested := Builder.empty.bind param (.ofDict u.props)
  let nested := nested.unwind (.keys (.param param)) each
  let nested := nested.matching
    (c.relationshipPattern (some edge) u.relationship
      ((Node.labeled target u.relationship.target).withProp "id" (.var each))) false
  let nested := nested.set [.overlay edge (.entry param (.var each))]
  b.subquery [c.node] nested

/-- The statements of a write. -/
def write (caller : Caller) (input : Input) (mode : WriteMode) : Result WritePlan := do
  let id ← match inputId? input with
    | some id => .ok id
    | none => refuse (.missingId c.label)
  let relationships := c.descriptor.relationships.toList
  let links ← c.resolveLinks caller mode input relationships
  let updates ← if mode = .patch then resolveEdgeUpdates input relationships else .ok []
  let precheck ← c.relatedExistence (links.flatMap Links.references)
  let b ← if mode = .create then c.createNode c.builder caller id else c.matchById c.builder caller id
  let stamps := (if mode = .create then [assign c.node "createdAt" now] else []) ++
    [assign c.node "updatedAt" now]
  let (b, assignments) := c.assignFields mode input (b, stamps)
  let b := b.set assignments
  let b := links.foldl (c.writeLinks mode) b
  let b := updates.foldl c.updateEdges b
  let write ← (b.returning [.expr (.prop c.node "id") "id"] []).build
  .ok ⟨id, precheck, write⟩

/-- The statement that removes an entity with its edges. -/
def delete (caller : Caller) (id : String) : Result Statement := do
  let b ← c.matchById c.builder caller id
  let b := b.projection [.ofVar c.node, .expr (.prop c.node "id") "deletedId"] false
  let b := b.delete [c.node] true
  (b.returning [.var "deletedId" (some "id")] []).build

end Compiler
end EntityGraph.Compile
