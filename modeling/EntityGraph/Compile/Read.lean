import EntityGraph.Compile.Scope
import EntityGraph.Search

/-!
# Reads

Lists, single entities and nearest neighbours. A list finds its candidates by label or by the index of a search
term, keeps those that pass the filters and own every required edge, orders and pages them, and only then
follows the relationships. Each traversal is aggregated at once, so a candidate stays a single row.
-/
namespace EntityGraph.Compile

open Cypher
open Json (Value)
open Schema (Descriptor Relationship OrderBy)

/-- What a list read asks for. -/
structure Criteria where
  term : Option String
  order : Option OrderBy
  /-- Properties with the values that they must have. -/
  filters : Dict Value

instance : Inhabited Criteria := ⟨⟨none, none, ∅⟩⟩

/-- Where the candidate nodes of a read come from. -/
inductive Source where
  | label
  | index (procedure : String) (args : List Expr)

/-- The variable of an index hit's score. -/
def scoreVar : String := "score"

/-- The parameter of a filter's value. -/
def filterParam (field : String) : String := "filter_" ++ field

/-- Equality with a bound value, or absence if the value is null. -/
def equals (left right : Expr) (value : Value) : Predicate :=
  if value.isNull then .isNull left else .eq left right

/-- The first of a group's values of a variable, under the same name. -/
def firstOf (var : String) : Column := .expr (.apply "head" [.apply "collect" [.var var]]) var

/-- The variables and result columns gathered by traversals. -/
structure Traversal where
  builder : Builder
  /-- The variables in scope. -/
  bound : List String
  /-- The columns of the result. -/
  columns : List Column

namespace Compiler

variable (c : Compiler)

/-- Binds the entity and ties it to the tenant. An index also binds the score of the hit. -/
def openSource (b : Builder) (caller : Caller) (source : Source) : Result Builder := do
  let scope ← c.scope caller
  match source with
  | .label =>
    let start := Node.labeled c.node c.label
    match scope with
    | some company =>
      .ok (((b.bind companyParam (.str company)).matching (.node c.tenantNode) false).matching
        (c.membership start (.bound tenantVar)) false)
    | none => .ok (b.matching (.node start) false)
  | .index procedure args =>
    let b := (b.procedure procedure args ["node", scoreVar]).push
      (.projection [.var "node" (some c.node), .ofVar scoreVar] false
        (some (.hasLabel c.node c.label)) [] false)
    match scope with
    | some company =>
      .ok ((b.bind companyParam (.str company)).matching (c.membership (.bound c.node) c.tenantNode) false)
    | none => .ok b

/-- Requires a property to have a value. -/
def applyFilter (b : Builder) (field : String) (value : Value) : Result Builder :=
  if !c.descriptor.knowsProperty field then refuse (.unknownFilter c.label field)
  else if value.isNull then .ok (b.filter (equals (.prop c.node field) .null value))
  else
    .ok ((b.bind (filterParam field) value).filter
      (equals (.prop c.node field) (.param (filterParam field)) value))

/-- Applies the filters in the order of their properties. -/
def applyFilters (b : Builder) : List (String × Value) → Result Builder
  | [] => .ok b
  | (field, value) :: rest => do applyFilters (← c.applyFilter b field value) rest

/-- Requires every edge without which a traversal would lose the entity. -/
def requireEdges (b : Builder) : Builder :=
  c.descriptor.relationships.values.foldl
    (fun b r =>
      if r.isOptional then b
      else b.filter (.exists (c.relationshipPattern none r (.anonymous r.target))))
    b

/-- Requires a link to one of the given nodes. -/
def requireRelated (b : Builder) (r : Relationship) (ids : List String) : Builder :=
  ((b.bind "relatedIds" (.ofStrings ids)).matching
    (c.relationshipPattern none r (.labeled "related" r.target)) false).filter
    (.isIn (.prop "related" "id") (.param "relatedIds"))

/-- The order asked for, else the descriptor's, else the latest change first. -/
def orderKeys (requested : Option OrderBy) : Result (List SortKey) :=
  let key (o : OrderBy) : SortKey := ⟨.prop c.node o.field, o.direction = .desc⟩
  match requested with
  | some o =>
    if c.descriptor.knowsProperty o.field then .ok [key o] else refuse (.unknownOrder c.label o.field)
  | none => .ok [key (c.descriptor.defaultOrder.getD ⟨"updatedAt", .desc⟩)]

/-- The highest score first. -/
def scoreKeys : List SortKey := [⟨.var scoreVar, true⟩]

/-- The variable of a related node. -/
def targetVar (name : String) : String := c.node ++ "_" ++ name

/-- The variable of the edge to a related node. -/
def edgeVar (name : String) : String := c.targetVar name ++ "_relationship"

/-- The variable of the collected edges to related nodes. -/
def edgesVar (name : String) : String := c.targetVar name ++ "_edges"

/-- The column of an edge property. -/
def edgeColumn (name field : String) : String := c.targetVar name ++ "_" ++ field

/-- The entry of a collected edge: the id of its target and its properties. -/
def edgeEntry (name : String) (r : Relationship) : Expr :=
  .choice (.isNull (.var (c.targetVar name))) .null
    (.map [("relatedId", .prop (c.targetVar name) "id"),
      ("edgeProps", .map (r.fields.map (fun f => (f.name, .prop (c.edgeVar name) f.name))))])

/-- Follows a relationship and aggregates what it finds: the first node of a `one`, all of a `many`. -/
def traverse (t : Traversal) (name : String) (r : Relationship) : Traversal :=
  let target := c.targetVar name
  let withEdges := !r.fields.isEmpty
  let binder := if withEdges then some (c.edgeVar name) else none
  let matched := t.builder.matching (c.relationshipPattern binder r (.labeled target r.target)) r.isOptional
  let kept := t.bound.map Column.ofVar
  match r.cardinality with
  | .one =>
    { builder := matched.projection
        (kept ++ [firstOf target] ++ (if withEdges then [firstOf (c.edgeVar name)] else [])) false
      bound := t.bound ++ [target] ++ (if withEdges then [c.edgeVar name] else [])
      columns := t.columns ++ [.ofVar target] ++
        r.fields.map (fun f => .expr (.prop (c.edgeVar name) f.name) (c.edgeColumn name f.name)) }
  | .many =>
    { builder := matched.projection
        (kept ++ [.expr (.applyDistinct "collect" (.var target)) target] ++
          (if withEdges then [.expr (.applyDistinct "collect" (c.edgeEntry name r)) (c.edgesVar name)] else []))
        false
      bound := t.bound ++ [target] ++ (if withEdges then [c.edgesVar name] else [])
      columns := t.columns ++ [.ofVar target] ++ (if withEdges then [.ofVar (c.edgesVar name)] else []) }

/-- Follows every relationship in the order of their names and returns the result. -/
def traverseAll (b : Builder) (bound : List String) (order : List SortKey) : Builder :=
  let t := c.descriptor.relationships.toList.foldl (fun t e => c.traverse t e.1 e.2)
    ⟨b, bound, [.ofVar c.node]⟩
  match c.descriptor.returnClause with
  | some custom => t.builder.push (custom c.node t.bound)
  | none => t.builder.returning t.columns order

/-- The index pattern of a search term, if the descriptor has an index for it and the term is not blank. -/
def termSource? (criteria : Criteria) : Option (String × String) := do
  let index ← c.descriptor.fulltextIndex
  let term ← criteria.term
  let pattern ← Search.pattern? term
  some (index, pattern)

/-- A paged list, perhaps of those entities only that are linked to given nodes. -/
def list (caller : Caller) (criteria : Criteria) (related : Option (Relationship × List String)) :
    Result Statement := do
  let hit := c.termSource? criteria
  let b ← match hit with
    | some (index, pattern) =>
      c.openSource (c.builder.bind "term" (.str pattern)) caller
        (.index "db.index.fulltext.queryNodes" [.quoted index, .param "term"])
    | none => c.openSource c.builder caller .label
  let b ← c.applyFilters b criteria.filters.toList
  let b := c.requireEdges b
  let b := match related with
    | some (r, ids) => c.requireRelated b r ids
    | none => b
  let order ← if hit.isSome then pure scoreKeys else c.orderKeys criteria.order
  let carried := if hit.isSome then [c.node, scoreVar] else [c.node]
  let b := b.page (carried.map Column.ofVar) order related.isSome
  (c.traverseAll b carried order).build

/-- A paged list of entities. -/
def find (caller : Caller) (criteria : Criteria) : Result Statement := c.list caller criteria none

/-- A paged list of the entities that a relationship links to any of the given nodes. -/
def findByRelated (caller : Caller) (relationship : String) (ids : List String) (criteria : Criteria) :
    Result Statement := do
  let r ← c.descriptor.relationship relationship
  c.list caller criteria (some (r, ids))

/-- The entity with an id. -/
def findById (caller : Caller) (id : String) : Result Statement := do
  let b ← c.openSource c.builder caller .label
  let b := (b.bind searchParam (.str id)).filter (.eq (.prop c.node "id") (.param searchParam))
  (c.traverseAll b [c.node] []).build

/-- The `k` nearest neighbours of a vector. -/
def findSimilar (caller : Caller) (vector : List Float) (k : Nat) : Result Statement := do
  let index ← match c.descriptor.vectorIndex? with
    | some index => .ok index
    | none => refuse (.noVectorIndex c.label)
  if k = 0 then refuse .noNeighbours
  let b := (c.builder.bind "k" (.ofNat k)).bind "vector" (.arr (vector.map .ofDouble))
  let b ← c.openSource b caller
    (.index "db.index.vector.queryNodes" [.quoted index.name, .param "k", .param "vector"])
  (c.traverseAll b [c.node, scoreVar] scoreKeys).build

/-- Whether an entity with an id exists in any tenant. -/
def existsUnscoped (id : String) : Result Statement :=
  let b := (Builder.forEntity c.label none).bind searchParam (.str id)
  let b := (b.matching (.node (.labeled c.node c.label)) false).filter
    (.eq (.prop c.node "id") (.param searchParam))
  (b.returning [.expr (.truth (.gt (.apply "count" [.var c.node]) (.int 0))) "exists"] []).build

end Compiler
end EntityGraph.Compile
