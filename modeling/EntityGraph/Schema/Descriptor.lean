import EntityGraph.Cypher.Clause
import EntityGraph.Error

/-!
# Entity descriptors

A descriptor declares one entity: the label and variable of its node, its properties, its relationships with
their edge properties, and the constraints and indexes that the database should carry. It is data only; every
compiler takes one.
-/
namespace EntityGraph.Schema

/-- The kinds of property. Only the temporal kinds change the statements. -/
inductive FieldType where
  | string
  | number
  | boolean
  | datetime
  | date
  | datetimeList
  | dateList
  | stringList
  | numberList
  | json
  deriving Repr, DecidableEq, Inhabited

/-- Whether values of the kind are cast to dates or times. -/
def FieldType.isTemporal : FieldType → Bool
  | datetime => true
  | date => true
  | datetimeList => true
  | dateList => true
  | _ => false

/-- A property; the default serves when an entity is created without it. -/
structure Field where
  type : FieldType
  default : Option Json.Value
  deriving Repr, Inhabited

/-- The direction of a relationship, read from the entity. -/
inductive Direction where
  | outgoing
  | incoming
  deriving Repr, DecidableEq, Inhabited

/-- How many nodes a relationship may lead to. -/
inductive Cardinality where
  | one
  | many
  deriving Repr, DecidableEq, Inhabited

/-- A property of an edge; the default serves when a link is written without it. -/
structure EdgeField where
  name : String
  default : Option Json.Value
  deriving Repr, Inhabited

/-- A relationship to nodes of another label. -/
structure Relationship where
  /-- The relationship type in the graph. -/
  type : String
  direction : Direction
  cardinality : Cardinality
  /-- Whether every entity must have the relationship. -/
  required : Bool
  target : String
  fields : List EdgeField
  /-- The value of the request context that stands in for an absent input. -/
  contextKey : Option String
  /-- The input member with the ids, if it is not named like the relationship. -/
  inputName : Option String
  deriving Repr, Inhabited

namespace Relationship

/-- The input member that carries the ids of the relationship of this name. -/
def inputKey (r : Relationship) (name : String) : String := r.inputName.getD name

/-- Whether an entity may lack the relationship in a result. -/
def isOptional (r : Relationship) : Bool := r.cardinality = .many || !r.required

/-- The arrow of the relationship in a pattern that starts at the entity. -/
def arrow (r : Relationship) : Cypher.Arrow :=
  match r.direction with
  | .outgoing => .outgoing
  | .incoming => .incoming

end Relationship

/-- The kinds of index. -/
inductive IndexKind where
  | range
  | fulltext
  | vector
  deriving Repr, DecidableEq, Inhabited

/-- An index. -/
structure Index where
  name : String
  kind : IndexKind
  properties : List String
  dimensions : Option Nat
  similarity : Option String
  deriving Repr, DecidableEq, Inhabited

/-- The direction of an ordering. -/
inductive SortDirection where
  | asc
  | desc
  deriving Repr, DecidableEq, Inhabited

/-- An ordering by a property. -/
structure OrderBy where
  field : String
  direction : SortDirection
  deriving Repr, DecidableEq, Inhabited

/-- A replacement for the last projection, given the entity's variable and all variables bound so far. -/
abbrev ReturnClause := String → List String → Cypher.Clause

/-- The declaration of an entity. -/
structure Descriptor where
  label : String
  nodeVariable : String
  /-- Whether the entity hangs off a tenant. -/
  companyScoped : Bool
  fields : Dict Field
  relationships : Dict Relationship
  /-- The properties that must be unique. -/
  constraints : List String
  indexes : List Index
  /-- The index that term searches use. -/
  fulltextIndex : Option String
  defaultOrder : Option OrderBy
  returnClause : Option ReturnClause

/-- The properties that every entity has. -/
def systemFields : List String := ["id", "createdAt", "updatedAt"]

namespace Descriptor

/-- A descriptor that only requires unique ids. -/
def base (label nodeVariable : String) : Descriptor where
  label := label
  nodeVariable := nodeVariable
  companyScoped := false
  fields := ∅
  relationships := ∅
  constraints := ["id"]
  indexes := []
  fulltextIndex := none
  defaultOrder := none
  returnClause := none

/-- Scopes the entity to its tenant. -/
def withTenant (d : Descriptor) : Descriptor := { d with companyScoped := true }

def withField (d : Descriptor) (name : String) (field : Field) : Descriptor :=
  { d with fields := d.fields.insert name field }

def withRelationship (d : Descriptor) (name : String) (r : Relationship) : Descriptor :=
  { d with relationships := d.relationships.insert name r }

/-- Requires a property to be unique. -/
def withConstraint (d : Descriptor) (property : String) : Descriptor :=
  if d.constraints.contains property then d else { d with constraints := d.constraints ++ [property] }

def withIndex (d : Descriptor) (index : Index) : Descriptor := { d with indexes := d.indexes ++ [index] }

/-- Declares the index of term searches. -/
def withFulltext (d : Descriptor) (name : String) (properties : List String) : Descriptor :=
  { d.withIndex ⟨name, .fulltext, properties, none, none⟩ with fulltextIndex := some name }

def withDefaultOrder (d : Descriptor) (order : OrderBy) : Descriptor := { d with defaultOrder := some order }

/-- The relationship of a name. -/
def relationship (d : Descriptor) (name : String) : Result Relationship :=
  match d.relationships.get? name with
  | some r => .ok r
  | none => .error (.unknownRelationship d.label name)

/-- Whether a property is declared or belongs to every entity. -/
def knowsProperty (d : Descriptor) (name : String) : Bool :=
  d.fields.contains name || systemFields.contains name

/-- The index of similarity searches. -/
def vectorIndex? (d : Descriptor) : Option Index := d.indexes.find? (fun i => i.kind = .vector)

end Descriptor
end EntityGraph.Schema
