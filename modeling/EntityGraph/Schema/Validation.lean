import EntityGraph.Schema.Descriptor
import EntityGraph.Text.Identifier

/-!
# Valid descriptors

Every name that statements interpolate must be an identifier, and every property that the descriptor refers to
must be declared. The checks run in the order of the descriptor's members; the first failure is reported.
-/
namespace EntityGraph.Schema

/-- Requires a name to be an identifier. -/
def checkIdentifier (what token : String) : Result Unit :=
  if Text.isIdentifier token then .ok () else refuse (.badIdentifier what token)

/-- Requires an identifier that is not one of the system's properties. -/
def checkField (label name : String) : Result Unit := do
  checkIdentifier "field" name
  if systemFields.contains name then refuse (.reservedName label name)

/-- Requires all names of a relationship to be identifiers. -/
def checkRelationship (name : String) (r : Relationship) : Result Unit := do
  checkIdentifier "relationship" name
  checkIdentifier "relationship label" r.type
  checkIdentifier "target label" r.target
  r.inputName.forM (checkIdentifier "dto key")
  r.fields.forM (fun f => checkIdentifier "edge field" f.name)

namespace Descriptor

/-- Requires the property of a constraint to be known. -/
def checkConstraint (d : Descriptor) (property : String) : Result Unit :=
  if d.knowsProperty property then .ok () else refuse (.constraintOnUndeclared d.label property)

/-- Requires an index to be named, to cover known properties, and to have dimensions if it holds vectors. -/
def checkIndex (d : Descriptor) (i : Index) : Result Unit := do
  checkIdentifier "index" i.name
  if i.properties.isEmpty then refuse (.indexWithoutProperties d.label i.name)
  match i.properties.find? (fun p => !d.knowsProperty p) with
  | some p => refuse (.indexOnUndeclared d.label i.name p)
  | none => pure ()
  if i.kind = .vector && i.dimensions.isNone then refuse (.indexWithoutDimensions d.label i.name)

/-- Requires the index of term searches to be declared, if any index is. -/
def checkFulltext (d : Descriptor) (name : String) : Result Unit := do
  checkIdentifier "fulltext index" name
  if !d.indexes.isEmpty && !d.indexes.any (fun i => i.kind = .fulltext && i.name = name) then
    refuse (.undeclaredFulltextIndex d.label name)

/-- Requires the property of an ordering to be known. -/
def checkOrder (d : Descriptor) (order : OrderBy) : Result Unit :=
  if d.knowsProperty order.field then .ok () else refuse (.defaultOrderOnUndeclared d.label order.field)

/-- Accepts a descriptor or reports what is wrong with it first. -/
def validate (d : Descriptor) : Result Unit := do
  checkIdentifier "label" d.label
  checkIdentifier "node variable" d.nodeVariable
  d.fields.keys.forM (checkField d.label)
  d.relationships.toList.forM (fun e => checkRelationship e.1 e.2)
  d.constraints.forM d.checkConstraint
  d.indexes.forM d.checkIndex
  d.fulltextIndex.forM d.checkFulltext
  d.defaultOrder.forM d.checkOrder

end Descriptor
end EntityGraph.Schema
