import EntityGraph.Caller
import EntityGraph.Text.Quoted

/-!
# Serializers

A serializer says how an entity becomes a resource: its type, where its id, attributes and further information
come from, and its relationships. A serializer refers to others by key, so that serializers may refer to one
another in circles; a catalog gives the serializer of each key.
-/
namespace EntityGraph.Document

open Json (Value)

/-- Where a value comes from: a member of the entity, or a computation from the entity and the caller. -/
inductive Source where
  | field (name : String)
  | computed (compute : Value → Caller → Value)

namespace Source

/-- The value. A member that the entity lacks is null. -/
def resolve (s : Source) (entity : Value) (caller : Caller) : Value :=
  match s with
  | field name => (entity.member? name).getD .null
  | computed compute => compute entity caller

/-- The text that describes a source. -/
def text : Source → String
  | field name => s!"Field({Text.quoted name})"
  | computed _ => "Computed(..)"

end Source

/-- A relationship: a link to resources whose ids come from a source, or entities found inside the entity. Each
of these is serialized by the serializer that `choose` gives for it, and else by the fallback. -/
inductive RelationshipSpec (κ : Type) where
  | link (type : String) (id : Source)
  | nested (fallback : κ) (choose : Option (Value → Option κ))

/-- How entities of one kind become resources. -/
structure Serializer (κ : Type) where
  type : String
  id : Source
  attributes : List (String × Source)
  metadata : List (String × Source)
  relationships : List (String × RelationshipSpec κ)
  /-- Whether the resource links to itself. -/
  linksToSelf : Bool

/-- The serializers of all keys. -/
abbrev Catalog (κ : Type) := κ → Serializer κ

/-- The serializer of a nested entity. -/
def RelationshipSpec.chosen {κ : Type} (fallback : κ) (choose : Option (Value → Option κ)) (item : Value) : κ :=
  ((choose.bind (fun f => f item))).getD fallback

/-- The text that describes a relationship. -/
def RelationshipSpec.text {κ : Type} (catalog : Catalog κ) : RelationshipSpec κ → String
  | link type id => s!"Identifier \x7b resource_type: {Text.quoted type}, id: {id.text} \x7d"
  | nested fallback choose =>
    let choice := if choose.isSome then "true" else "false"
    s!"Nested \x7b serializer: {Text.quoted (catalog fallback).type}, resolver: {choice} \x7d"

end EntityGraph.Document
