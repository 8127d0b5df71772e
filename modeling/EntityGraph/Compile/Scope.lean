import EntityGraph.Caller
import EntityGraph.Cypher.Builder
import EntityGraph.Paging.Cursor
import EntityGraph.Schema.Descriptor

/-!
# Compiler settings and tenant scope

A compiler serves one descriptor in one deployment. A statement about a company-scoped entity is tied to the
caller's tenant by a membership edge, unless the caller's access is elevated.
-/
namespace EntityGraph.Compile

open Cypher
open Json (Value)
open Schema (Descriptor Relationship FieldType)

/-- What a deployment decides. -/
structure Settings where
  /-- The label of tenants. -/
  tenantLabel : String
  /-- The relationship type from an entity to its tenant. -/
  membershipEdge : String
  /-- The size of a page when the caller gives none. -/
  defaultTake : Nat
  deriving Repr, DecidableEq

instance : Inhabited Settings := ⟨⟨"Company", "BELONGS_TO", Paging.defaultTake⟩⟩

/-- A descriptor with the settings of its deployment. -/
structure Compiler where
  descriptor : Descriptor
  settings : Settings

/-- The parameter with the tenant's id. -/
def companyParam : String := "companyId"

/-- The parameter with the id that a lookup searches for. -/
def searchParam : String := "searchValue"

/-- The variable of the tenant. -/
def tenantVar : String := "company"

namespace Compiler

variable (c : Compiler)

/-- The variable of the entity. -/
def node : String := c.descriptor.nodeVariable

/-- The label of the entity. -/
def label : String := c.descriptor.label

/-- A builder for a statement about the entity. -/
def builder : Builder := .forEntity c.label (some c.node)

/-- The tenant that a statement for this caller must stay within, if any. -/
def scope (caller : Caller) : Result (Option String) :=
  if !c.descriptor.companyScoped || caller.elevated then .ok none
  else
    match caller.company with
    | some id => if id = "" then .error (.missingTenant c.label) else .ok (some id)
    | none => .error (.missingTenant c.label)

/-- The tenant node of the bound company id. -/
def tenantNode : Node := (Node.labeled tenantVar c.settings.tenantLabel).withProp "id" (.param companyParam)

/-- A membership edge from one node to another. -/
def membership (start tenant : Node) : Pattern :=
  (Pattern.node start).hop none c.settings.membershipEdge .outgoing tenant

/-- The entity node with the bound id. -/
def nodeById : Node := (Node.labeled c.node c.label).withProp "id" (.param "id")

/-- Matches the entity by its id, within the caller's tenant. -/
def matchById (b : Builder) (caller : Caller) (id : String) : Result Builder := do
  let b := b.bind "id" (.str id)
  match ← c.scope caller with
  | some company =>
    .ok ((b.bind companyParam (.str company)).matching (c.membership c.nodeById c.tenantNode) false)
  | none => .ok (b.matching (.node c.nodeById) false)

/-- A hop from the entity along a relationship. -/
def relationshipPattern (binder : Option String) (r : Relationship) (target : Node) : Pattern :=
  (Pattern.node (.bound c.node)).hop binder r.type r.arrow target

end Compiler

/-- The calendar date of a value. -/
def dateOf (value : Expr) : Expr := .apply "date" [.apply "left" [value, .int 10]]

/-- A value cast as its property kind requires. -/
def cast (type : FieldType) (value : Expr) : Expr :=
  match type with
  | .datetime => .apply "datetime" [value]
  | .date => dateOf value
  | .datetimeList => .comprehension "value" value (.apply "datetime" [.var "value"])
  | .dateList => .comprehension "value" value (dateOf (.var "value"))
  | _ => value

end EntityGraph.Compile
