import EntityGraph.Proofs.Compile.Shape
import EntityGraph.Proofs.Graph.Paths

/-!
# What a list should hold

The entities that a list read asks for, and what the row of an entity says about its relationships, in terms of the
graph alone. Nothing here refers to clauses.
-/
namespace EntityGraph.Graph

open Schema (Relationship)

/-- An arc of a relationship that leads from an entity to a target. -/
structure Leads (g : PropertyGraph) (r : Relationship) (entity : Vertex) (a : Arc) (target : Vertex) : Prop where
  arc : a ∈ g.arcs
  type : a.type = r.type
  vertex : target ∈ g.vertices
  label : r.target ∈ target.labels
  ends : match r.direction with
    | .outgoing => a.source = entity.id ∧ a.target = target.id
    | .incoming => a.source = target.id ∧ a.target = entity.id

/-- The arcs of a relationship at an entity, each with the target that it leads to. -/
def linked (g : PropertyGraph) (r : Relationship) (id : Nat) : List (Arc × Vertex) :=
  (g.reached r.type r.arrow id).filter (fun p => r.target ∈ p.2.labels)

theorem mem_linked {g : PropertyGraph} {r : Relationship} {entity : Vertex} {p : Arc × Vertex} :
    p ∈ linked g r entity.id ↔ Leads g r entity p.1 p.2 := by
  rw [linked, List.mem_filter, PropertyGraph.mem_reached, decide_eq_true_iff]
  constructor
  · rintro ⟨⟨harc, htype, hvertex, hends⟩, hlabel⟩
    refine ⟨harc, htype, hvertex, hlabel, ?_⟩
    unfold Relationship.arrow Arc.ends at hends
    cases hdirection : r.direction with
    | outgoing =>
      simp only [hdirection] at hends
      split at hends
      · rename_i hsource
        exact ⟨hsource, (List.mem_singleton.1 hends).symm⟩
      · cases hends
    | incoming =>
      simp only [hdirection] at hends
      split at hends
      · rename_i htarget
        exact ⟨(List.mem_singleton.1 hends).symm, htarget⟩
      · cases hends
  · rintro ⟨harc, htype, hvertex, hlabel, hends⟩
    refine ⟨⟨harc, htype, hvertex, ?_⟩, hlabel⟩
    unfold Relationship.arrow Arc.ends
    cases hdirection : r.direction with
    | outgoing =>
      simp only [hdirection] at hends ⊢
      rw [if_pos hends.1, hends.2]
      exact List.mem_singleton_self _
    | incoming =>
      simp only [hdirection] at hends ⊢
      rw [if_pos hends.2, hends.1]
      exact List.mem_singleton_self _

theorem linked_ne_nil_iff {g : PropertyGraph} {r : Relationship} {entity : Vertex} :
    linked g r entity.id ≠ [] ↔ ∃ a target, Leads g r entity a target := by
  constructor
  · intro h
    obtain ⟨p, hp⟩ := List.exists_mem_of_ne_nil _ h
    exact ⟨p.1, p.2, mem_linked.1 hp⟩
  · rintro ⟨a, target, hleads⟩
    exact List.ne_nil_of_mem ((mem_linked (p := (a, target))).2 hleads)

/-- What a collected edge says: the id of its target and its declared properties. -/
def edgeValue (r : Relationship) (a : Arc) (target : Vertex) : Val :=
  .map [("relatedId", target.prop "id"), ("edgeProps", .map (r.fields.map (fun f => (f.name, a.prop f.name))))]

end EntityGraph.Graph

namespace EntityGraph.Compile

open Cypher EntityGraph.Graph
open Json (Value)
open Schema (Relationship)

/-- A list that is asked for: the criteria, and perhaps the relationship that has to lead to one of some ids. -/
structure Listing where
  criteria : Criteria
  related : Option (String × List String)

/-- The operation that asks for a list. -/
def Listing.operation (l : Listing) : Operation :=
  match l.related with
  | none => .find l.criteria
  | some (relationship, ids) => .findByRelated relationship ids l.criteria

/-- The procedure that searches a full-text index. -/
def searchProcedure : String := "db.index.fulltext.queryNodes"

/-- Whether an entity has the value that a filter asks for. Null asks for absence. -/
def Passes (db : Database) (entity : Vertex) (filter : String × Value) : Prop :=
  if filter.2.isNull then entity.prop filter.1 = .null
  else db.equal (entity.prop filter.1) (.ofJson filter.2) = some true

namespace Compiler

variable (c : Compiler) (db : Database)

/-- A membership arc from an entity to a tenant with an id. -/
structure Belongs (company : String) (entity : Vertex) (a : Arc) (tenant : Vertex) : Prop where
  arc : a ∈ db.graph.arcs
  type : a.type = c.settings.membershipEdge
  source : a.source = entity.id
  target : a.target = tenant.id
  vertex : tenant ∈ db.graph.vertices
  label : c.settings.tenantLabel ∈ tenant.labels
  id : db.equal (tenant.prop "id") (.text company) = some true

/-- An entity that a list should hold. -/
structure Answers (caller : Caller) (l : Listing) (entity : Vertex) : Prop where
  vertex : entity ∈ db.graph.vertices
  label : c.label ∈ entity.labels
  tenant : ∀ company, c.scope caller = .ok (some company) → ∃ a tenant, c.Belongs db company entity a tenant
  filters : ∀ filter ∈ l.criteria.filters.toList, Passes db entity filter
  required : ∀ e ∈ c.links, e.2.cardinality = .one → e.2.required = true →
    ∃ a target, Leads db.graph e.2 entity a target
  found : ∀ index term pattern, c.descriptor.fulltextIndex = some index → l.criteria.term = some term →
    Search.pattern? term = some pattern →
    ∃ hit ∈ db.procedure searchProcedure [.text index, .text pattern], Env.read hit "node" = .vertex entity.id
  related : ∀ name ids r, l.related = some (name, ids) → c.descriptor.relationships.get? name = some r →
    ∃ a target, Leads db.graph r entity a target ∧ ∃ id ∈ ids, db.equal (target.prop "id") (.text id) = some true

/-- What a row says about a relationship to one target: some target with the properties of an edge to it, or null
throughout if there is no target. -/
def ShowsOne (entity : Vertex) (name : String) (r : Relationship) (row : Env) : Prop :=
  (∃ a target, Leads db.graph r entity a target ∧ row.lookup (c.targetVar name) = some (.vertex target.id) ∧
      ∀ f ∈ r.fields, row.lookup (c.edgeColumn name f.name) = some (a.prop f.name)) ∨
    ((∀ a target, ¬Leads db.graph r entity a target) ∧ row.lookup (c.targetVar name) = some .null ∧
      ∀ f ∈ r.fields, row.lookup (c.edgeColumn name f.name) = some .null)

/-- What a row says about a relationship to many targets: each target once, and of the edges' properties with their
target's id everything that is not alike once. -/
def ShowsMany (entity : Vertex) (name : String) (r : Relationship) (row : Env) : Prop :=
  (∃ targets, row.lookup (c.targetVar name) = some (.list targets) ∧ targets.Nodup ∧
      ∀ v, v ∈ targets ↔ ∃ a target, Leads db.graph r entity a target ∧ v = .vertex target.id) ∧
    (r.fields ≠ [] → ∃ edges, row.lookup (c.edgesVar name) = some (.list edges) ∧
      edges.Pairwise (fun u v => db.alike u v = false) ∧
      (∀ v ∈ edges, ∃ a target, Leads db.graph r entity a target ∧ v = edgeValue r a target) ∧
      ∀ a target, Leads db.graph r entity a target → ∃ v ∈ edges, db.alike v (edgeValue r a target) = true)

/-- What the row of an entity holds: the entity, and what its relationships lead to. -/
structure Shows (entity : Vertex) (row : Env) : Prop where
  node : row.lookup c.node = some (.vertex entity.id)
  columns : row.vars = c.resultColumns.map Column.name
  links : ∀ e ∈ c.links, match e.2.cardinality with
    | .one => c.ShowsOne db entity e.1 e.2 row
    | .many => c.ShowsMany db entity e.1 e.2 row

/-! ## What is taken for granted -/

/-- What the graph and the index are relied on for: tenants with one id are one tenant, an entity belongs to a tenant
by one arc, and a search yields a vertex once. -/
structure Orderly : Prop where
  tenant : ∀ s ∈ db.graph.vertices, ∀ t ∈ db.graph.vertices, c.settings.tenantLabel ∈ s.labels →
    c.settings.tenantLabel ∈ t.labels → ∀ company, db.equal (s.prop "id") (.text company) = some true →
    db.equal (t.prop "id") (.text company) = some true → s = t
  membership : ∀ entity ∈ db.graph.vertices, c.label ∈ entity.labels → ∀ company a b tenant,
    c.Belongs db company entity a tenant → c.Belongs db company entity b tenant → a = b
  hits : ∀ args, ((db.procedure searchProcedure args).filterMap (fun hit => (Env.read hit "node").vertex?)).Nodup

/-- The names that a statement generates for a relationship. -/
def linkNames (name : String) (r : Relationship) : List String :=
  c.targetVar name ::
    if r.fields.isEmpty then []
    else c.edgeVar name ::
      match r.cardinality with
      | .one => r.fields.map (fun f => c.edgeColumn name f.name)
      | .many => [c.edgesVar name]

/-- The names that the statement of a list generates. -/
def listNames (caller : Caller) (l : Listing) : List String :=
  [c.node] ++ (if isTied (c.scope caller) then [tenantVar] else []) ++
    (if (c.termSource? l.criteria).isSome then [scoreVar] else []) ++
    (if l.related.isSome then ["related"] else []) ++ c.links.flatMap (fun e => c.linkNames e.1 e.2)

end Compiler
end EntityGraph.Compile
