import EntityGraph.Proofs.Compile.Bindings
import EntityGraph.Proofs.Compile.Links
import EntityGraph.Proofs.Cypher.Scope
import EntityGraph.Proofs.Statements.Emitted

/-!
# What is looked up is what is linked

A write makes edges in subqueries that merge one to the node of each listed id, and a new entity gets its membership
edge. The look-up before the write lists the ids of all those subqueries, and there is none if there are no such
subqueries, so no node is linked to that was not looked up under the same label.
-/
namespace EntityGraph.Cypher

/-- Edges that a subquery merges: to the node of a label with each id in the list of a parameter. -/
structure Merging where
  list : String
  label : String
  type : String
  arrow : Arrow
  deriving DecidableEq

/-- The edges that a subquery merges, if it takes the ids of a list one by one, finds the node of each under a label and
merges an edge to it. -/
def Clause.merging? : Clause → Option Merging
  | .subquery _ (.unwind (.param list) each :: .pattern ⟨⟨some target, some label, [("id", .var id)]⟩, []⟩ false none ::
      .merge ⟨_, [(edge, ⟨some far, none, []⟩)]⟩ :: _) =>
    if id = each ∧ far = target then some ⟨list, label, edge.type, edge.arrow⟩ else none
  | _ => none

/-- Whether a clause may make an edge, or merges anything at all. -/
def Clause.mayLink : Clause → Bool
  | .create p => !p.hops.isEmpty
  | .merge _ => true
  | _ => false

/-- The items of the list in a parameter. -/
def Statement.listed (s : Statement) (param : String) : List Json.Value :=
  ((s.params.get? param).bind Json.Value.items?).getD []

/-- What a statement merges edges for, in the order of its subqueries: the list, the label and each id. -/
def Statement.merged (s : Statement) : List Json.Value :=
  (s.clauses.filterMap Clause.merging?).flatMap (fun m =>
    (s.listed m.list).map (fun id => .object [("relationship", .str m.list), ("label", .str m.label), ("id", id)]))

theorem mem_allInside {ks : List Clause} {j : Clause} : j ∈ allInside ks ↔ ∃ k ∈ ks, j ∈ k.inside := by
  induction ks with
  | nil => simp [allInside]
  | cons k rest ih => simp [allInside, ih]

end EntityGraph.Cypher

namespace EntityGraph.Compile

open Cypher
open Json (Value)
open Schema (Relationship)

/-- What the links of a relationship merge, if there are any. -/
def Links.merging? (l : Links) : Option Merging :=
  if l.ids.isEmpty then none
  else some ⟨l.name, l.relationship.target, l.relationship.type, l.relationship.arrow⟩

theorem Links.eq_of_merging? {l : Links} {m : Merging} (h : l.merging? = some m) :
    m = ⟨l.name, l.relationship.target, l.relationship.type, l.relationship.arrow⟩ := by
  unfold merging? at h
  split at h
  · cases h
  · exact (Option.some.inj h).symm

namespace Compiler

variable (c : Compiler)

/-! ## The subqueries of a write -/

theorem merging?_mergeBody (name : String) (r : Relationship) (withProps : Bool) :
    (Clause.subquery [c.node] (c.mergeBody name r withProps)).merging? = some ⟨name, r.target, r.type, r.arrow⟩ := by
  simp [mergeBody, Clause.matching, Pattern.node, Node.labeled, Node.withProp, relationshipPattern, Pattern.hop,
    Node.bound, Clause.merging?]

theorem filterMap_merging?_linkClauses (mode : WriteMode) (l : Links) :
    (c.linkClauses mode l).filterMap Clause.merging? = l.merging?.toList := by
  have hstale : (Clause.subquery [c.node] (c.staleBody l.name l.relationship)).merging? = none := rfl
  unfold linkClauses Links.merging?
  by_cases hmode : mode = .create <;> cases l.ids.isEmpty <;>
    simp [hmode, hstale, c.merging?_mergeBody]

theorem filterMap_merging?_writeClauses (mode : WriteMode) (tied : Bool) (input : Input) (links : List Links)
    (updates : List EdgeUpdate) :
    (c.writeClauses mode tied input links updates).filterMap Clause.merging? = links.filterMap Links.merging? := by
  have hopening : ∀ k ∈ c.writeOpening mode tied, k.merging? = none := by
    cases mode <;> cases tied <;> simp [writeOpening, Clause.matching, Clause.merging?]
  rw [c.filterMap_writeClauses _ hopening (fun _ => rfl) rfl]
  simp only [c.filterMap_merging?_linkClauses, List.filterMap_eq_flatMap_toList]
  rfl

theorem merged_write {caller : Caller} {input : Input} {mode : WriteMode} {plan : WritePlan} {links : List Links}
    (h : c.write caller input mode = .ok plan) (hlinks : c.resolveLinks caller mode input c.links = .ok links)
    (hmerging : plan.write.clauses.filterMap Clause.merging? = links.filterMap Links.merging?) :
    plan.write.merged = (links.flatMap Links.references).map referenceValue := by
  have hids : ∀ l ∈ links, l.ids.isEmpty = false → plan.write.listed l.name = l.ids.map .str := by
    intro l hl hne
    rw [Statement.listed, c.get?_ids_of_write h hlinks hl fun _ => hne]
    rfl
  rw [Statement.merged, hmerging, List.map_flatMap]
  clear hmerging hlinks
  induction links with
  | nil => rfl
  | cons l rest ih =>
    have hrest := ih fun l' hl' => hids l' (List.mem_cons_of_mem _ hl')
    rw [List.filterMap_cons, List.flatMap_cons, ← hrest]
    cases hempty : l.ids.isEmpty with
    | true =>
      have hreferences : l.references = [] := by simp [Links.references, List.isEmpty_iff.1 hempty]
      simp [Links.merging?, hempty, hreferences]
    | false =>
      simp [Links.merging?, hempty, hids l List.mem_cons_self hempty, Links.references, referenceValue]

/-! ## Clauses that make edges -/

theorem mayLink_writeOpening {mode : WriteMode} {tied : Bool} {k : Clause} (hk : k ∈ c.writeOpening mode tied)
    (hlink : k.mayLink = true) :
    mode = .create ∧ tied = true ∧ k = .create (c.membership (.bound c.node) (.bound tenantVar)) := by
  cases mode <;> cases tied <;>
    simp [writeOpening, Clause.matching] at hk <;>
    rcases hk with rfl | rfl | rfl <;> simp_all [Clause.mayLink, Pattern.node]

theorem inside_writeOpening {mode : WriteMode} {tied : Bool} {k : Clause} (hk : k ∈ c.writeOpening mode tied) :
    k.inside = [] := by
  cases mode <;> cases tied <;>
    simp [writeOpening] at hk <;> rcases hk with rfl | rfl | rfl <;> rfl

/-- Inside of the subqueries for a relationship only the merges of listed edges make any. -/
theorem mayLink_inside_linkClauses {mode : WriteMode} {l : Links} {k j : Clause} (hk : k ∈ c.linkClauses mode l)
    (hj : j ∈ k.inside) (hlink : j.mayLink = true) :
    ∃ m binder far, k.merging? = some m ∧
      j = .merge ((Pattern.node (.bound c.node)).hop binder m.type m.arrow (.bound far)) := by
  have hcases : k = .subquery [c.node] (c.staleBody l.name l.relationship) ∨
      k = .subquery [c.node] (c.mergeBody l.name l.relationship l.edgeProps.isSome) := by
    unfold linkClauses at hk
    rcases List.mem_append.1 hk with hk | hk <;> split at hk <;> simp_all
  rcases hcases with rfl | rfl
  · rcases hj with _ | ⟨_, _ | ⟨_, hj⟩⟩
    · cases hlink
    · cases hlink
    · cases hj
  · refine ⟨_, some (l.name ++ "_edge"), l.name ++ "_target", c.merging?_mergeBody _ _ _, ?_⟩
    cases hprops : l.edgeProps.isSome <;>
      simp [mergeBody, hprops, Clause.inside, allInside, Clause.matching] at hj <;>
      rcases hj with rfl | rfl | rfl | rfl <;> first | rfl | cases hlink

theorem mayLink_inside_updateClause {u : EdgeUpdate} {j : Clause} (hj : j ∈ (c.updateClause u).inside) :
    j.mayLink = false := by
  rcases hj with _ | ⟨_, _ | ⟨_, _ | ⟨_, hj⟩⟩⟩
  · rfl
  · rfl
  · rfl
  · cases hj

theorem mem_writeClauses {mode : WriteMode} {tied : Bool} {input : Input} {links : List Links}
    {updates : List EdgeUpdate} {k : Clause} (h : k ∈ c.writeClauses mode tied input links updates) :
    k ∈ c.writeOpening mode tied ∨ (∃ items, k = .set items) ∨ (∃ l ∈ links, k ∈ c.linkClauses mode l) ∨
      (∃ u ∈ updates, k = c.updateClause u) ∨ ∃ columns order, k = .returning columns false order := by
  rcases List.mem_append.1 h with h | h
  · exact .inl h
  rcases List.mem_cons.1 h with rfl | h
  · exact .inr (.inl ⟨_, rfl⟩)
  rcases List.mem_append.1 h with h | h
  · rcases List.mem_append.1 h with h | h
    · exact .inr (.inr (.inl (List.mem_flatMap.1 h)))
    · obtain ⟨u, hu, rfl⟩ := List.mem_map.1 h
      exact .inr (.inr (.inr (.inl ⟨u, hu, rfl⟩)))
  · exact .inr (.inr (.inr (.inr ⟨_, _, List.mem_singleton.1 h⟩)))

/-! ## The whole write -/

/-- What the look-up before a write has to do with the edges that the write makes. -/
structure LooksUpLinked (caller : Caller) (mode : WriteMode) (input : Input) (plan : WritePlan) : Prop where
  /-- The look-up lists exactly what the write merges edges for. -/
  listed : ∀ check, plan.precheck = some check →
    check.params.get? "relatedRefs" = some (.arr plan.write.merged)
  /-- There is none exactly if nothing is merged. -/
  none_iff : plan.precheck = none ↔ ∀ k ∈ plan.write.clauses, k.merging? = none
  /-- Each list is that of a relationship, one after the other in the order of their names. -/
  ordered : (plan.write.clauses.filterMap Clause.merging?).Pairwise (fun m n => m.list < n.list)
  declared : ∀ k ∈ plan.write.clauses, ∀ m, k.merging? = some m →
    ∃ r, c.descriptor.relationships.get? m.list = some r ∧ m = ⟨m.list, r.target, r.type, r.arrow⟩
  /-- The ids are those that the input or the context gives to the relationships. -/
  requested : plan.write.merged = c.links.flatMap (fun e =>
    (requestedIds caller mode input e.1 e.2).map (fun id => referenceValue ⟨e.1, e.2.target, id⟩))
  /-- Edges are made only by the subqueries that merge them and by the membership of a new entity in its tenant. -/
  edges : ∀ j ∈ plan.write.clauses ++ allInside plan.write.clauses, j.mayLink = true →
    (∃ k ∈ plan.write.clauses, j ∈ k.inside ∧ ∃ m binder far, k.merging? = some m ∧
      j = .merge ((Pattern.node (.bound c.node)).hop binder m.type m.arrow (.bound far))) ∨
    mode = .create ∧ c.descriptor.companyScoped = true ∧
      j = .create (c.membership (.bound c.node) (.bound tenantVar))

/-- The only clause of a write that makes an edge outside of subqueries is the membership of a new entity. -/
theorem mayLink_writeClauses {mode : WriteMode} {tied : Bool} {input : Input} {links : List Links}
    {updates : List EdgeUpdate} {j : Clause} (hj : j ∈ c.writeClauses mode tied input links updates)
    (hlink : j.mayLink = true) :
    mode = .create ∧ tied = true ∧ j = .create (c.membership (.bound c.node) (.bound tenantVar)) := by
  rcases c.mem_writeClauses hj with hopening | ⟨items, rfl⟩ | ⟨l, -, hl⟩ | ⟨u, -, rfl⟩ | ⟨columns, order, rfl⟩
  · exact c.mayLink_writeOpening hopening hlink
  · cases hlink
  · obtain ⟨body, rfl⟩ := c.subquery_of_mem_linkClauses hl
    cases hlink
  · cases hlink
  · cases hlink

theorem mayLink_inside_writeClauses {mode : WriteMode} {tied : Bool} {input : Input} {links : List Links}
    {updates : List EdgeUpdate} {k j : Clause} (hk : k ∈ c.writeClauses mode tied input links updates)
    (hj : j ∈ k.inside) (hlink : j.mayLink = true) :
    ∃ m binder far, k.merging? = some m ∧
      j = .merge ((Pattern.node (.bound c.node)).hop binder m.type m.arrow (.bound far)) := by
  rcases c.mem_writeClauses hk with hopening | ⟨items, rfl⟩ | ⟨l, -, hl⟩ | ⟨u, -, rfl⟩ | ⟨columns, order, rfl⟩
  · rw [c.inside_writeOpening hopening] at hj
    cases hj
  · cases hj
  · exact c.mayLink_inside_linkClauses hl hj hlink
  · rw [c.mayLink_inside_updateClause hj] at hlink
    cases hlink
  · cases hj

/-- The look-up before a write covers exactly what the write links. -/
theorem write_looks_up_linked {caller : Caller} {mode : WriteMode} {input : Input} {plan : WritePlan}
    (h : c.write caller input mode = .ok plan) : c.LooksUpLinked caller mode input plan := by
  obtain ⟨scope, links, updates, hscope, -, hlinks, -, hprecheck, hwrite⟩ := c.write_outline h
  have hclauses : plan.write.clauses = c.writeClauses mode scope.isSome input links updates := by rw [hwrite]
  have hmerging : plan.write.clauses.filterMap Clause.merging? = links.filterMap Links.merging? := by
    rw [hclauses, c.filterMap_merging?_writeClauses]
  have hmerged := c.merged_write h hlinks hmerging
  have hreferences : (links.flatMap Links.references).isEmpty = true ↔ links.filterMap Links.merging? = [] := by
    simp [Links.references, Links.merging?, List.flatMap_eq_nil_iff]
  have hlookup := c.relatedExistence_outline hprecheck
  refine ⟨?_, ?_, ?_, ?_, ?_, ?_⟩
  · intro check hcheck
    rw [hlookup] at hcheck
    split at hcheck
    · cases hcheck
    · cases hcheck
      rw [Dict.get?_insert, if_pos rfl, hmerged]
  · rw [hlookup, ← List.filterMap_eq_nil_iff, hmerging, ← hreferences]
    split <;> simp_all
  · rw [hmerging]
    refine List.pairwise_filterMap.2 ?_
    refine (c.ascending_resolveLinks c.descriptor.relationships.ascending hlinks).imp ?_
    intro a b hlt m hm n hn
    rwa [Links.eq_of_merging? hm, Links.eq_of_merging? hn]
  · intro k hk m hm
    have hmem : m ∈ links.filterMap Links.merging? := hmerging ▸ List.mem_filterMap.2 ⟨k, hk, hm⟩
    obtain ⟨l, hl, hm⟩ := List.mem_filterMap.1 hmem
    have hdeclared := Dict.get?_of_mem (c.resolved_of_mem hlinks hl).1
    obtain rfl := Links.eq_of_merging? hm
    exact ⟨l.relationship, hdeclared, rfl⟩
  · rw [hmerged, c.references_resolveLinks hlinks, List.map_flatMap]
    simp only [List.map_map, Function.comp_def]
  · intro j hj hlink
    rw [hclauses] at hj ⊢
    rcases List.mem_append.1 hj with hj | hj
    · obtain ⟨rfl, htied, rfl⟩ := c.mayLink_writeClauses hj hlink
      obtain ⟨company, rfl⟩ := Option.isSome_iff_exists.1 htied
      exact .inr ⟨rfl, c.companyScoped_of_writeScope hscope, rfl⟩
    · obtain ⟨k, hk, hj⟩ := mem_allInside.1 hj
      exact .inl ⟨k, hk, hj, c.mayLink_inside_writeClauses hk hj hlink⟩

/-- Shelves of a tenant that hold books and belong to the user who makes them. -/
def shelves : Compiler :=
  ⟨((Schema.Descriptor.base "Shelf" "shelf").withTenant.withRelationship "owner"
    ⟨"OWNED_BY", .outgoing, .one, true, "User", [], some "userId", none⟩).withRelationship "books"
    ⟨"HOLDS", .outgoing, .many, false, "Book", [], none, none⟩, default⟩

/-- A new shelf for two books, one of them given twice. Its owner comes from the context. -/
theorem write_looks_up_linked_new_shelf :
    let input : Input := .ofList [("id", .str "s1"), ("books", .ofStrings ["b1", "b2", "b1"])]
    ∃ plan, shelves.write (.member "c1" "u1") input .create = .ok plan ∧
      shelves.LooksUpLinked (.member "c1" "u1") .create input plan ∧
      plan.write.merged = [referenceValue ⟨"books", "Book", "b1"⟩, referenceValue ⟨"books", "Book", "b2"⟩,
        referenceValue ⟨"owner", "User", "u1"⟩] := by
  intro input
  obtain ⟨plan, hplan⟩ := Result.isSome_toOption_iff.1
    (by decide +kernel : (shelves.write (.member "c1" "u1") input .create).toOption.isSome = true)
  have hlooked := write_looks_up_linked shelves hplan
  exact ⟨plan, hplan, hlooked, hlooked.requested⟩

end Compiler
end EntityGraph.Compile
