import EntityGraph.Document.Included
import EntityGraph.Document.Related
import EntityGraph.Document.Serializer
import EntityGraph.Paging.Links
import EntityGraph.Paging.Page

/-!
# Assembly

From entities to documents. A resource is assembled with the resources of all entities nested in it; each comes
before those nested in itself. Since nested entities are parts of the entity, assembly ends whatever serializers
are chosen for them.
-/
namespace EntityGraph.Document

open Json (Value Part)
open Paging (Cursor Page)

variable {κ : Type}

/-- What assembly needs to know about the request: who asks, which types are wanted beside the primary data, the
URL, and the place and size of the list. -/
structure Request where
  caller : Caller
  wanted : Option (List String)
  url : Option Url
  cursor : Option Cursor
  total : Option Nat

/-- A resource with the resources nested in it. -/
structure Assembled where
  resource : Resource
  nested : Included
  deriving Inhabited

/-- Everything that is found with a resource, itself first. -/
def Included.addAssembled (s : Included) (a : Assembled) : Included := (s.insert a.resource).extend a.nested

/-- The serializers, and the URL that resources' links to themselves begin with. -/
structure Assembler (κ : Type) where
  catalog : Catalog κ
  base : Option Url

/-- The relationships of a resource under way and the resources found by then. -/
structure Collected where
  relationships : Dict Relationship
  nested : Included

/-- Notes a relationship and what was found with it. -/
def Collected.add (c : Collected) (name : String) (linkage : Linkage) (found : List Assembled) : Collected :=
  ⟨c.relationships.insert name ⟨linkage, none⟩, found.foldl Included.addAssembled c.nested⟩

/-- Takes in one relationship; `nest` assembles the entities inside this one. -/
def collect (caller : Caller) (entity : Value) (nest : Part entity → κ → Result Assembled) (c : Collected)
    (relationship : String × RelationshipSpec κ) : Result Collected :=
  let name := relationship.1
  match relationship.2 with
  | .link type id => (linkage name type (id.resolve entity caller)).map (fun l => c.add name l [])
  | .nested fallback choose =>
    let assemble (item : Part entity) : Result Assembled :=
      nest item (RelationshipSpec.chosen fallback choose item.val)
    match related? entity name with
    | none => .ok c
    | some (.one none) => .ok (c.add name (.one none) [])
    | some (.one (some item)) =>
      (assemble item).map (fun a => c.add name (.one (some a.resource.identifier)) [a])
    | some (.many items) =>
      (items.mapM assemble).map (fun found => c.add name (.many (found.map (fun a => a.resource.identifier))) found)

/-- The values of named sources; of equal names the last one stays. -/
def resolveAll (sources : List (String × Source)) (entity : Value) (caller : Caller) : Dict Value :=
  Dict.ofList (sources.map (fun s => (s.1, s.2.resolve entity caller)))

/-- A dictionary unless it is empty. -/
def unlessEmpty {α : Type} (d : Dict α) : Option (Dict α) := if d.isEmpty then none else some d

/-- The link of a resource to itself. -/
def selfLink (base : Url) (type id : String) : String :=
  let stem := String.ofList (base.text.toList.reverse.dropWhile (· == '/')).reverse
  stem ++ "/" ++ type ++ "/" ++ id

namespace Assembler

variable (a : Assembler κ)

/-- Assembles an entity, given how to assemble those inside it. -/
def assembleWith (caller : Caller) (key : κ) (entity : Value) (nest : Part entity → κ → Result Assembled) :
    Result Assembled :=
  let s := a.catalog key
  match idText? (s.id.resolve entity caller) with
  | none => .error (.mapping (.unusableId s.type))
  | some id =>
    (s.relationships.foldlM (collect caller entity nest) ⟨∅, ∅⟩).map (fun c =>
      let link := if s.linksToSelf then a.base.map (fun base => Links.ofSelf (selfLink base s.type id)) else none
      ⟨⟨s.type, id, resolveAll s.attributes entity caller, unlessEmpty c.relationships, link,
        unlessEmpty (resolveAll s.metadata entity caller)⟩, c.nested⟩)

/-- Assembles an entity. -/
def assemble (caller : Caller) (key : κ) (entity : Value) : Result Assembled :=
  a.assembleWith caller key entity (fun item key => assemble caller key item.val)
termination_by sizeOf entity
decreasing_by exact item.property

/-- The document of at most one entity. -/
def single (key : κ) (entity : Option Value) (request : Request) : Result Document :=
  let links := request.url.map (fun url => Links.ofSelf url.text)
  match entity with
  | none => .ok ⟨links, some (.one none), [], none, []⟩
  | some entity =>
    (a.assemble request.caller key entity).map (fun found =>
      ⟨links, some (.one (some found.resource)),
        found.nested.finish request.wanted [found.resource.identifier], none, []⟩)

/-- The document of a list of entities. -/
def list (key : κ) (entities : List Value) (request : Request) : Result Document :=
  (entities.mapM (a.assemble request.caller key)).map (fun found =>
    let resources := found.map (fun f => f.resource)
    let nested : Included := found.foldl (fun s f => s.extend f.nested) ∅
    let cursor := request.cursor.getD default
    ⟨request.url.map (fun url => cursor.links url resources.length request.total), some (.many resources),
      nested.finish request.wanted (resources.map Resource.identifier),
      request.total.map (fun n => Dict.empty.insert "total" (.ofNat n)), []⟩)

/-- The document of a page. -/
def page (key : κ) (p : Page Value) (request : Request) : Result Document :=
  a.list key p.items { request with cursor := some p.cursor, total := p.total }

end Assembler
end EntityGraph.Document
