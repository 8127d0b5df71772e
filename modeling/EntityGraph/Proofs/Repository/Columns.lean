import EntityGraph.Proofs.Listing.Traversals
import EntityGraph.Proofs.Repository.Mapping
import EntityGraph.Proofs.Statements.Naming

/-!
# Reads return what the mapper looks up

Reads name the columns of their results, and the mapper looks them up, and each joins the names on its own. They agree
for any relationships. The only column that the mapper asks for in vain is that of the edges to many nodes without
properties, which nothing collects.
-/
namespace EntityGraph.Compile

open Cypher EntityGraph.Graph
open Json (Value)
open Repository (Consults columnsAt edgeItem entityOf lookedUp paired)
open Schema (Relationship)

namespace Compiler

variable {c : Compiler}

/-- What a relationship is looked up in is what its traversal returns, but for edges that have no properties. -/
theorem mem_columnsAt_iff {name : String} {r : Relationship} {column : String} :
    column ∈ columnsAt (c.targetVar name) r ↔
      column ∈ (c.columnsBy name r).map Column.name ∨
        r.cardinality = .many ∧ r.fields = [] ∧ column = c.edgesVar name := by
  cases hcard : r.cardinality with
  | one => simp [columnsAt, columnsBy, hcard, edgeColumn]
  | many => cases hfields : r.fields <;> simp [columnsAt, columnsBy, boundBy, edgeVars, hcard, hfields, edgesVar]

theorem mem_lookedUp_iff {column : String} :
    column ∈ lookedUp c.descriptor ↔
      column ∈ c.resultColumns.map Column.name ∨
        ∃ e ∈ c.links, e.2.cardinality = .many ∧ e.2.fields = [] ∧ column = c.edgesVar e.1 := by
  have hlinks : column ∈ c.descriptor.relationships.toList.flatMap
      (fun e => columnsAt (c.descriptor.nodeVariable ++ "_" ++ e.1) e.2) ↔
        ∃ e ∈ c.links, column ∈ columnsAt (c.targetVar e.1) e.2 := List.mem_flatMap
  rw [lookedUp, resultColumns, List.map_cons, List.map_flatMap, List.mem_cons, List.mem_cons, hlinks, List.mem_flatMap,
    or_assoc, ← exists_or]
  simp only [mem_columnsAt_iff, and_or_left]
  rfl

theorem mem_names_resultColumns_iff {column : String} :
    column ∈ c.resultColumns.map Column.name ↔
      column = c.node ∨ ∃ e ∈ c.links, column = c.targetVar e.1 ∨
        e.2.cardinality = .one ∧ (∃ f ∈ e.2.fields, column = c.edgeColumn e.1 f.name) ∨
        e.2.cardinality = .many ∧ e.2.fields ≠ [] ∧ column = c.edgesVar e.1 := by
  have hcolumns (e : String × Relationship) : column ∈ (c.columnsBy e.1 e.2).map Column.name ↔
      column = c.targetVar e.1 ∨
        e.2.cardinality = .one ∧ (∃ f ∈ e.2.fields, column = c.edgeColumn e.1 f.name) ∨
        e.2.cardinality = .many ∧ e.2.fields ≠ [] ∧ column = c.edgesVar e.1 := by
    cases hcard : e.2.cardinality with
    | one => simp [columnsBy, hcard, eq_comm]
    | many => cases hfields : e.2.fields <;> simp [columnsBy, boundBy, edgeVars, hcard, hfields]
  rw [resultColumns, List.map_cons, List.map_flatMap, List.mem_cons, List.mem_flatMap]
  simp only [hcolumns]
  rfl

/-! ## Collected edges -/

/-- What is collected of the edge in a row: the id of its target and its properties. -/
def collectedEdge (c : Compiler) (x : Context) (row : Env) (name : String) (r : Relationship) : Val :=
  .map [("relatedId", x.db.graph.property (row.read (c.targetVar name)) "id"),
    ("edgeProps", .map (r.fields.map (fun f => (f.name, x.db.graph.property (row.read (c.edgeVar name)) f.name))))]

theorem value_edgeEntry_eq (x : Context) (row : Env) (name : String) (r : Relationship) :
    (c.edgeEntry name r).value x row =
      if (row.read (c.targetVar name)).isNull then .null else c.collectedEdge x row name r := by
  simp [edgeEntry, collectedEdge, Expr.value, Predicate.truth, entryValues_eq_map, Function.comp_def]

/-- Of the edges to many nodes nothing is collected but their entries. -/
theorem value_collected (x : Context) (group : List Env) (env : Env) (name : String) (r : Relationship) :
    ∃ items, (Column.expr (.applyDistinct "collect" (c.edgeEntry name r)) (c.edgesVar name)).value (x.over group) env =
        .list items ∧ ∀ item ∈ items, ∃ row ∈ group, item = c.collectedEdge x row name r := by
  have hvalue := congrArg Prod.snd (bind_collect x group env (c.edgeEntry name r) (c.edgesVar name))
  refine ⟨_, hvalue, fun item hitem => ?_⟩
  obtain ⟨hmem, hpresent⟩ := List.mem_filter.1 (mem_of_mem_distinct hitem)
  obtain ⟨row, hrow, rfl⟩ := List.mem_map.1 hmem
  rw [value_edgeEntry_eq] at hpresent ⊢
  split at hpresent
  · simp [Val.isNull] at hpresent
  · rename_i hnull
    exact ⟨row, hrow, if_neg hnull⟩

theorem exists_traversalWith_mem {links : List (String × Relationship)} {e : String × Relationship} (he : e ∈ links)
    (bound : List String) : ∃ carried, c.traversalWith carried e.1 e.2 ∈ c.traversals bound links := by
  induction links generalizing bound with
  | nil => cases he
  | cons head rest ih =>
    rcases List.mem_cons.1 he with rfl | he
    · exact ⟨bound, by simp [traversals]⟩
    · obtain ⟨carried, hcarried⟩ := ih he (bound ++ c.boundBy head.1 head.2)
      exact ⟨carried, List.mem_cons_of_mem _ (List.mem_cons_of_mem _ hcarried)⟩

/-! ## Reads and the mapper -/

/-- A read and the mapper agree on columns and on what the collected edges look like. -/
structure AgreesWithMapper (c : Compiler) (s : Statement) : Prop where
  /-- The mapper consults the columns of the result and, in vain, those of edges to many without properties. -/
  consulted : ∀ column, Consults c.descriptor column ↔
    column ∈ s.columns ∨ ∃ e ∈ c.links, e.2.cardinality = .many ∧ e.2.fields = [] ∧ column = c.edgesVar e.1
  /-- The node, the targets, the properties of an edge to one and the edges to many are returned, nothing else. -/
  returned : ∀ column, column ∈ s.columns ↔
    column = c.node ∨ ∃ e ∈ c.links, column = c.targetVar e.1 ∨
      e.2.cardinality = .one ∧ (∃ f ∈ e.2.fields, column = c.edgeColumn e.1 f.name) ∨
      e.2.cardinality = .many ∧ e.2.fields ≠ [] ∧ column = c.edgesVar e.1
  /-- Rows that agree on what is consulted have the same entity. -/
  determined : ∀ row other : Row, (∀ column, Consults c.descriptor column → row.get? column = other.get? column) →
    entityOf c.descriptor row = entityOf c.descriptor other
  /-- The edges to many are collected from the matched rows, each as the id of its target with all its properties. -/
  collected : ∀ e ∈ c.links, e.2.cardinality = .many → e.2.fields ≠ [] →
    ∃ columns, Clause.projection columns false none [] false ∈ s.clauses ∧ ∃ k ∈ columns, k.name = c.edgesVar e.1 ∧
      ∀ (x : Context) (group : List Env) (env : Env), ∃ items, k.value (x.over group) env = .list items ∧
        ∀ item ∈ items, ∃ row ∈ group, item = c.collectedEdge x row e.1 e.2
  /-- The mapper pairs the edges with the targets by these ids. -/
  pairs : ∀ e ∈ c.links, e.2.cardinality = .many → ∀ (row : Row) (items : List Value) (edges : List (Value × Value))
    (entity : Value), row.get? (c.targetVar e.1) = some (.arr items) →
      row.get? (c.edgesVar e.1) = some (.arr (edges.map edgeItem)) → entityOf c.descriptor row = .ok entity →
        entity.member? e.1 = some (.arr ((items.filter (fun v => !v.isNull)).map (paired edges)))

/-- Every read of a descriptor without a custom return clause agrees with the mapper. -/
theorem read_agrees_with_mapper (hreturn : c.descriptor.returnClause = none) {caller : Caller} {op : Operation}
    {r : Compiled} (hop : op.isRead = true) (h : c.compile caller op = .ok r) : c.AgreesWithMapper r.main := by
  have hcolumns := columns_eq hreturn hop h
  refine {
    consulted := fun column => by rw [Repository.consults_iff, mem_lookedUp_iff, hcolumns]
    returned := fun column => by rw [hcolumns, mem_names_resultColumns_iff]
    determined := fun row other hsame =>
      Repository.entityOf_congr fun column hcolumn => hsame column (Repository.consults_iff.2 hcolumn)
    collected := fun e he hmany hfields => ?_
    pairs := fun e he hmany row items edges entity hitems hedges hentity =>
      Repository.member?_of_edgeItems he hmany hitems hedges hentity }
  obtain ⟨source, tests, middle, order, -, hclauses, -⟩ := exists_read_clauses hop h
  obtain ⟨carried, hcarried⟩ := exists_traversalWith_mem he (c.sourceVars source)
  have hfields' : e.2.fields.isEmpty = false := List.isEmpty_eq_false_iff.2 hfields
  refine ⟨carried.map Column.ofVar ++ c.gathered e.1 e.2, ?_,
    .expr (.applyDistinct "collect" (c.edgeEntry e.1 e.2)) (c.edgesVar e.1), ?_, rfl,
    fun x group env => value_collected x group env e.1 e.2⟩
  · rw [hclauses, c.tail_eq hreturn]
    exact List.mem_append_right _ (List.mem_cons_of_mem _ (List.mem_append_right _ (List.mem_append_left _ hcarried)))
  · simp [gathered, hmany, hfields']

/-- A look-up of a tag with its owner and its books. -/
theorem read_of_catalogue_agrees :
    catalogue.descriptor.returnClause = none ∧ ∃ r, catalogue.compile (.member "c1" "u1") (.findById "t1") = .ok r ∧
      r.main.columns = ["tag", "tag_books", "tag_books_edges", "tag_owner", "tag_owner_since"] ∧
      catalogue.AgreesWithMapper r.main := by
  have hcolumns : (catalogue.compile (.member "c1" "u1") (.findById "t1")).toOption.map (fun r => r.main.columns) =
      some ["tag", "tag_books", "tag_books_edges", "tag_owner", "tag_owner_since"] := by decide +kernel
  obtain ⟨r, hr⟩ : ∃ r, catalogue.compile (.member "c1" "u1") (.findById "t1") = .ok r :=
    Result.isSome_toOption_iff.1 (by decide +kernel)
  rw [hr] at hcolumns
  exact ⟨rfl, r, hr, Option.some.inj hcolumns, read_agrees_with_mapper rfl rfl hr⟩

end Compiler
end EntityGraph.Compile
