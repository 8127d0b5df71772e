import EntityGraph.Document.Basic
import EntityGraph.Json.Decode

/-!
# Documents as JSON

What is absent is not written, with two exceptions: the attributes of a resource and the linkage of a
relationship always are. Where one item or a list may stand, null and an item that reads as one come first, so
that a list which is one item by its members is that item.
-/
namespace EntityGraph.Document

open Json (Value optionalMember)
open Json.Decode

/-! ## Reading -/

def Links.read : Reader Links := structure? .json ["self", "next", "prev", "related"] fun ms => do
  let toSelf ← member? ms "self" string
  let next ← member? ms "next" string
  let prev ← member? ms "prev" string
  let related ← member? ms "related" string
  some ⟨toSelf, next, prev, related⟩

def Identifier.read : Reader Identifier := structure? .json ["type", "id"] fun ms => do
  let type ← member ms "type" string
  let id ← member ms "id" string
  some ⟨type, id⟩

def Linkage.read : Reader Linkage := oneOrMany Identifier.read .one .many

def Relationship.read : Reader Relationship := structure? .json ["data", "links"] fun ms => do
  let linkage ← member ms "data" Linkage.read
  let links ← member? ms "links" Links.read
  some ⟨linkage, links⟩

def Resource.keys : List String := ["type", "id", "attributes", "relationships", "links", "meta"]

def Resource.read : Reader Resource := structure? .json Resource.keys fun ms => do
  let type ← member ms "type" string
  let id ← member ms "id" string
  let attributes ← memberD ms "attributes" ∅ (dict some)
  let relationships ← member? ms "relationships" (dict Relationship.read)
  let links ← member? ms "links" Links.read
  let metadata ← member? ms "meta" (dict some)
  some ⟨type, id, attributes, relationships, links, metadata⟩

def Primary.read : Reader Primary := oneOrMany Resource.read .one .many

def Fault.read : Reader Fault := structure? .json ["status", "code", "title", "detail"] fun ms => do
  let status ← member ms "status" string
  let code ← member ms "code" string
  let title ← member ms "title" string
  let detail ← member ms "detail" string
  some ⟨status, code, title, detail⟩

/-- A document from its JSON. -/
def read : Reader Document := structure? .json ["links", "data", "included", "meta", "errors"] fun ms => do
  let links ← member? ms "links" Links.read
  let primary ← member? ms "data" Primary.read
  let included ← memberD ms "included" [] (list Resource.read)
  let metadata ← member? ms "meta" (dict some)
  let faults ← memberD ms "errors" [] (list Fault.read)
  some ⟨links, primary, included, metadata, faults⟩

/-! ## Writing -/

def Links.toJson (l : Links) : Value :=
  .object (optionalMember "self" (l.toSelf.map .str) ++ optionalMember "next" (l.next.map .str) ++
    optionalMember "prev" (l.prev.map .str) ++ optionalMember "related" (l.related.map .str))

def Identifier.toJson (i : Identifier) : Value := .object [("type", .str i.type), ("id", .str i.id)]

def Linkage.toJson : Linkage → Value
  | .one none => .null
  | .one (some target) => target.toJson
  | .many targets => .arr (targets.map Identifier.toJson)

def Relationship.toJson (r : Relationship) : Value :=
  .object ([("data", r.linkage.toJson)] ++ optionalMember "links" (r.links.map Links.toJson))

def Resource.toJson (r : Resource) : Value :=
  .object ([("type", .str r.type), ("id", .str r.id), ("attributes", .ofDict r.attributes)] ++
    optionalMember "relationships"
      (r.relationships.map (fun rs => .ofDict (rs.mapValues (fun _ rel => rel.toJson)))) ++
    optionalMember "links" (r.links.map Links.toJson) ++ optionalMember "meta" (r.metadata.map .ofDict))

def Primary.toJson : Primary → Value
  | .one none => .null
  | .one (some resource) => resource.toJson
  | .many resources => .arr (resources.map Resource.toJson)

def Fault.toJson (f : Fault) : Value :=
  .object [("status", .str f.status), ("code", .str f.code), ("title", .str f.title), ("detail", .str f.detail)]

/-- A list that is written only if it has items. -/
def optionalItems (key : String) (items : List Value) : List (String × Value) :=
  if items.isEmpty then [] else [(key, .arr items)]

/-- The JSON of a document. -/
def toJson (d : Document) : Value :=
  .object (optionalMember "links" (d.links.map Links.toJson) ++
    optionalMember "data" (d.primary.map Primary.toJson) ++
    optionalItems "included" (d.included.map Resource.toJson) ++
    optionalMember "meta" (d.metadata.map .ofDict) ++
    optionalItems "errors" (d.faults.map Fault.toJson))

end EntityGraph.Document
