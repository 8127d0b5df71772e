import EntityGraph.Schema.Ddl
import EntityGraph.Schema.Validation

/-!
# Registries

A registry holds valid descriptors with different labels, in the order of their labels.
-/
namespace EntityGraph.Schema

/-- Descriptors by label. -/
abbrev Registry := Dict Descriptor

namespace Registry

/-- Adds a descriptor that is valid and whose label is not taken. -/
def register (r : Registry) (d : Descriptor) : Result Registry := do
  d.validate
  if r.contains d.label then refuse (.registeredTwice d.label)
  .ok (r.insert d.label d)

/-- The registry of a list of descriptors, or the first failure in its order. -/
def ofList (ds : List Descriptor) : Result Registry := ds.foldlM register Dict.empty

/-- The statements of all descriptors, in the order of their labels. -/
def ddl (r : Registry) : List String := r.values.flatMap Descriptor.ddl

end Registry
end EntityGraph.Schema
