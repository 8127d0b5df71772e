import EntityGraph.Cypher.Statement
import EntityGraph.Error
import EntityGraph.Schema.Descriptor

/-!
# From rows to entities

The properties of the node are the members of the entity. Every relationship whose column a row has becomes a
member of its own: the related node, or the list of related nodes, each with the properties of its edge.
-/
namespace EntityGraph.Repository

open Cypher (Row)
open Json (Value)
open Schema (Descriptor Relationship)

/-- The properties of a node, which may come with its labels beside them. -/
def properties (v : Value) : Value :=
  match v.member? "labels", v.member? "properties" with
  | some _, some (.obj members) => .obj members
  | _, _ => v

/-- A node with the properties of its edge. Anything that is no node stays as it is. -/
def withEdge (node : Value) (edge : Value) : Value :=
  match node with
  | .obj members => .ofDict ((Dict.ofList members).insert "edgeProps" edge)
  | v => v

/-- The properties of an edge that has columns of its own. -/
def edgeColumns (row : Row) (column : String) (r : Relationship) : Dict Value :=
  Dict.ofList (r.fields.filterMap (fun f => (row.get? (column ++ "_" ++ f.name)).map (fun v => (f.name, v))))

/-- The related node of a relationship to at most one. -/
def relatedOne (row : Row) (column : String) (r : Relationship) (v : Value) : Value :=
  let edge := edgeColumns row column r
  if edge.isEmpty then properties v else withEdge (properties v) (.ofDict edge)

/-- The properties of the edge to the node with a given id, from the list of all edges. -/
def edgeTo? (edges : List Value) (id : Value) : Option Value :=
  (edges.find? (fun e => (e.member? "relatedId").any (fun other => other.same id))).bind
    (fun e => e.member? "edgeProps")

/-- One related node among several. -/
def relatedItem (edges : List Value) (v : Value) : Value :=
  let node := properties v
  match (node.member? "id").bind (edgeTo? edges) with
  | some edge => withEdge node edge
  | none => node

/-- The related nodes of a relationship to many. -/
def relatedMany (row : Row) (column : String) (v : Value) : Value :=
  let edges := ((row.get? (column ++ "_edges")).bind Value.items?).getD []
  .arr (((v.items?.getD []).filter (fun item => !item.isNull)).map (relatedItem edges))

/-- Adds the member of a relationship if the row has its column. -/
def addRelationship (node : String) (row : Row) (entity : Dict Value) (e : String × Relationship) : Dict Value :=
  let column := node ++ "_" ++ e.1
  match row.get? column with
  | none => entity
  | some v =>
    entity.insert e.1 (match e.2.cardinality with
      | .one => relatedOne row column e.2 v
      | .many => relatedMany row column v)

/-- The entity of a row. -/
def entityOf (d : Descriptor) (row : Row) : Result Value :=
  match (row.get? d.nodeVariable).map properties with
  | some (.obj members) =>
    .ok (.ofDict (d.relationships.toList.foldl (addRelationship d.nodeVariable row) (Dict.ofList members)))
  | _ => .error (.mapping (.noNodeColumn d.label d.nodeVariable))

end EntityGraph.Repository
