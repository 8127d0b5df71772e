import EntityGraph.Json.Value

/-!
# Compound documents

A document holds its primary data, one resource or a list, the resources related to it, links, and further
information; or it holds errors. Resources point at one another by type and id.
-/
namespace EntityGraph

open Json (Value)

/-- Links of a document, a resource or a relationship. -/
structure Document.Links where
  toSelf : Option String
  next : Option String
  prev : Option String
  related : Option String
  deriving Repr, DecidableEq, Inhabited

/-- The links that hold only the place itself. -/
def Document.Links.ofSelf (url : String) : Document.Links := ⟨some url, none, none, none⟩

/-- What points at a resource. -/
structure Document.Identifier where
  type : String
  id : String
  deriving Repr, DecidableEq, Inhabited

/-- What a relationship points at: at most one resource, or a list. -/
inductive Document.Linkage where
  | one (target : Option Document.Identifier)
  | many (targets : List Document.Identifier)
  deriving Repr, DecidableEq, Inhabited

/-- The identifiers of a linkage. -/
def Document.Linkage.targets : Document.Linkage → List Document.Identifier
  | .one target => target.toList
  | .many targets => targets

/-- A relationship of a resource. -/
structure Document.Relationship where
  linkage : Document.Linkage
  links : Option Document.Links
  deriving Repr, DecidableEq, Inhabited

/-- A resource. -/
structure Document.Resource where
  type : String
  id : String
  attributes : Dict Value
  relationships : Option (Dict Document.Relationship)
  links : Option Document.Links
  metadata : Option (Dict Value)
  deriving Repr, Inhabited

/-- What points at the resource. -/
def Document.Resource.identifier (r : Document.Resource) : Document.Identifier := ⟨r.type, r.id⟩

/-- The primary data: at most one resource, or a list. -/
inductive Document.Primary where
  | one (resource : Option Document.Resource)
  | many (resources : List Document.Resource)
  deriving Repr, Inhabited

/-- One error: the status of the response, the code and the title of its class, and what happened. -/
structure Document.Fault where
  status : String
  code : String
  title : String
  detail : String
  deriving Repr, DecidableEq, Inhabited

/-- A document. -/
structure Document where
  links : Option Document.Links
  primary : Option Document.Primary
  included : List Document.Resource
  metadata : Option (Dict Value)
  faults : List Document.Fault
  deriving Repr, Inhabited

/-- The resources of the primary data. -/
def Document.primaryResources (d : Document) : List Document.Resource :=
  match d.primary with
  | none => []
  | some (.one resource) => resource.toList
  | some (.many resources) => resources

end EntityGraph
