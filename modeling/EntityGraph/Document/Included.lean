import EntityGraph.Document.Basic

/-!
# Included resources

The resources that a document holds beside its primary data, in the order of discovery. Of resources with the
same type and id the first one stays; the types and ids found are noted beside the resources.
-/
namespace EntityGraph.Document

/-- Resources in the order of discovery, and the types and ids that have been found. -/
structure Included where
  resources : List Resource
  seen : List Identifier
  deriving Repr, Inhabited

namespace Included

/-- No resources. -/
def empty : Included := ⟨[], []⟩

instance : EmptyCollection Included := ⟨empty⟩

/-- The types and ids of the resources. -/
def keys (s : Included) : List Identifier := s.resources.map Resource.identifier

/-- Whether a resource with this type and id has been found. -/
def contains (s : Included) (key : Identifier) : Bool := s.seen.contains key

/-- Takes in a resource unless its type and id have been found before, and tells whether it did. -/
def offer (s : Included) (r : Resource) : Bool × Included :=
  if s.contains r.identifier then (false, s) else (true, ⟨s.resources ++ [r], s.seen ++ [r.identifier]⟩)

/-- Adds a resource unless its type and id have been found before. -/
def insert (s : Included) (r : Resource) : Included := (s.offer r).2

/-- Adds all resources of another set, in their order. -/
def extend (s other : Included) : Included := other.resources.foldl insert s

/-- The resources that are not primary and, where only some types are wanted, of a wanted type. -/
def finish (s : Included) (wanted : Option (List String)) (primary : List Identifier) : List Resource :=
  s.resources.filter (fun r =>
    !primary.contains r.identifier && (wanted.map (fun types => types.contains r.type)).getD true)

end Included
end EntityGraph.Document
