import EntityGraph.Json.Decode
import EntityGraph.Schema.Descriptor

/-!
# Descriptors as documents

Descriptors read from and written to JSON. What a descriptor does not need to say is left out when it is
written. A descriptor may also come from another format whose values map to JSON ones.
-/
namespace EntityGraph.Schema

open Json (Value optionalMember)
open Json.Decode

/-- The spellings of property kinds. -/
def FieldType.spellings : List (String × FieldType) :=
  [("string", .string), ("number", .number), ("boolean", .boolean), ("datetime", .datetime), ("date", .date),
    ("datetime[]", .datetimeList), ("date[]", .dateList), ("string[]", .stringList),
    ("number[]", .numberList), ("json", .json)]

def FieldType.spelling : FieldType → String
  | string => "string"
  | number => "number"
  | boolean => "boolean"
  | datetime => "datetime"
  | date => "date"
  | datetimeList => "datetime[]"
  | dateList => "date[]"
  | stringList => "string[]"
  | numberList => "number[]"
  | json => "json"

def Direction.spellings : List (String × Direction) := [("out", .outgoing), ("in", .incoming)]

def Direction.spelling : Direction → String
  | outgoing => "out"
  | incoming => "in"

def Cardinality.spellings : List (String × Cardinality) := [("one", .one), ("many", .many)]

def Cardinality.spelling : Cardinality → String
  | one => "one"
  | many => "many"

def IndexKind.spellings : List (String × IndexKind) :=
  [("range", .range), ("fulltext", .fulltext), ("vector", .vector)]

def IndexKind.spelling : IndexKind → String
  | range => "range"
  | fulltext => "fulltext"
  | vector => "vector"

def SortDirection.spellings : List (String × SortDirection) := [("ASC", .asc), ("DESC", .desc)]

def SortDirection.spelling : SortDirection → String
  | asc => "ASC"
  | desc => "DESC"

section Reading

variable (format : Format)

def Field.read : Reader Field := structure? format ["type", "default"] fun ms => do
  let type ← memberD ms "type" .string (choice format FieldType.spellings)
  let default ← member? ms "default" any
  some ⟨type, default⟩

def EdgeField.read : Reader EdgeField := structure? format ["name", "default"] fun ms => do
  let name ← member ms "name" string
  let default ← member? ms "default" any
  some ⟨name, default⟩

def Relationship.keys : List String :=
  ["relationship_label", "direction", "cardinality", "required", "target_label", "fields", "context_key", "dto_key"]

def Relationship.read : Reader Relationship := structure? format Relationship.keys fun ms => do
  let type ← member ms "relationship_label" string
  let direction ← memberD ms "direction" .outgoing (choice format Direction.spellings)
  let cardinality ← memberD ms "cardinality" .one (choice format Cardinality.spellings)
  let mandatory ← memberD ms "required" false bool
  let target ← member ms "target_label" string
  let fields ← memberD ms "fields" [] (list (EdgeField.read format))
  let contextKey ← member? ms "context_key" string
  let inputName ← member? ms "dto_key" string
  some ⟨type, direction, cardinality, mandatory, target, fields, contextKey, inputName⟩

def Index.keys : List String := ["name", "type", "properties", "dimensions", "similarity"]

def Index.read : Reader Index := structure? format Index.keys fun ms => do
  let name ← member ms "name" string
  let kind ← memberD ms "type" .range (choice format IndexKind.spellings)
  let properties ← member ms "properties" (list string)
  let dimensions ← member? ms "dimensions" (natBelow 32)
  let similarity ← member? ms "similarity" string
  some ⟨name, kind, properties, dimensions, similarity⟩

def OrderBy.read : Reader OrderBy := structure? format ["field", "direction"] fun ms => do
  let field ← member ms "field" string
  let direction ← memberD ms "direction" .desc (choice format SortDirection.spellings)
  some ⟨field, direction⟩

/-- The label and the variable of a node. -/
def readModel : Reader (String × String) := structure? format ["node_variable", "label"] fun ms => do
  let nodeVariable ← member ms "node_variable" string
  let label ← member ms "label" string
  some (label, nodeVariable)

def readConstraint : Reader String := structure? format ["property"] fun ms => member ms "property" string

def Descriptor.keys : List String :=
  ["model", "is_company_scoped", "fields", "relationships", "constraints", "indexes", "fulltext_index_name",
    "default_order_by"]

/-- A descriptor from its document. -/
def Descriptor.read : Reader Descriptor := structure? format Descriptor.keys fun ms => do
  let (label, nodeVariable) ← member ms "model" (readModel format)
  let companyScoped ← memberD ms "is_company_scoped" false bool
  let fields ← memberD ms "fields" ∅ (dict (Field.read format))
  let relationships ← memberD ms "relationships" ∅ (dict (Relationship.read format))
  let constraints ← memberD ms "constraints" [] (list (readConstraint format))
  let indexes ← memberD ms "indexes" [] (list (Index.read format))
  let fulltextIndex ← member? ms "fulltext_index_name" string
  let defaultOrder ← member? ms "default_order_by" (OrderBy.read format)
  some {
    label, nodeVariable, companyScoped, fields, relationships, constraints, indexes, fulltextIndex, defaultOrder
    returnClause := none }

end Reading

def Field.toJson (f : Field) : Value :=
  .object ([("type", .str f.type.spelling)] ++ optionalMember "default" f.default)

def EdgeField.toJson (f : EdgeField) : Value :=
  .object ([("name", .str f.name)] ++ optionalMember "default" f.default)

def Relationship.toJson (r : Relationship) : Value :=
  .object ([("relationship_label", .str r.type), ("direction", .str r.direction.spelling),
      ("cardinality", .str r.cardinality.spelling), ("required", .bool r.required),
      ("target_label", .str r.target)] ++
    (if r.fields.isEmpty then [] else [("fields", .arr (r.fields.map EdgeField.toJson))]) ++
    optionalMember "context_key" (r.contextKey.map .str) ++
    optionalMember "dto_key" (r.inputName.map .str))

def Index.toJson (i : Index) : Value :=
  .object ([("name", .str i.name), ("type", .str i.kind.spelling), ("properties", .ofStrings i.properties)] ++
    optionalMember "dimensions" (i.dimensions.map .ofNat) ++
    optionalMember "similarity" (i.similarity.map .str))

def OrderBy.toJson (o : OrderBy) : Value :=
  .object [("field", .str o.field), ("direction", .str o.direction.spelling)]

/-- The document of a descriptor. -/
def Descriptor.toJson (d : Descriptor) : Value :=
  .object ([("model", .object [("node_variable", .str d.nodeVariable), ("label", .str d.label)]),
      ("is_company_scoped", .bool d.companyScoped),
      ("fields", .ofDict (d.fields.mapValues (fun _ f => f.toJson))),
      ("relationships", .ofDict (d.relationships.mapValues (fun _ r => r.toJson))),
      ("constraints", .arr (d.constraints.map (fun p => .object [("property", .str p)]))),
      ("indexes", .arr (d.indexes.map Index.toJson))] ++
    optionalMember "fulltext_index_name" (d.fulltextIndex.map .str) ++
    optionalMember "default_order_by" (d.defaultOrder.map OrderBy.toJson))

end EntityGraph.Schema
