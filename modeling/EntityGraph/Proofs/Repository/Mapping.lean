import EntityGraph.Proofs.Dict
import EntityGraph.Proofs.Text.Identifier
import EntityGraph.Repository.Mapper
import Mathlib.Data.List.Basic

/-!
# What the entity of a row depends on

The mapper looks a row up under the name of the node and, for each relationship, under names that are joined from it.
No other column matters, and each of these does: some two rows that differ in it alone have different entities.
-/
namespace EntityGraph.Repository

open Cypher (Row)
open Json (Value)
open Schema (Descriptor Relationship)

variable {d : Descriptor} {row other : Row}

/-- What a relationship becomes, if the row has its column. -/
def related? (row : Row) (column : String) (r : Relationship) : Option Value :=
  (row.get? column).map fun v =>
    match r.cardinality with
    | .one => relatedOne row column r v
    | .many => relatedMany row column v

theorem addRelationship_eq (node : String) (row : Row) (entity : Dict Value) (e : String × Relationship) :
    addRelationship node row entity e =
      ((related? row (node ++ "_" ++ e.1) e.2).map (entity.insert e.1)).getD entity := by
  simp only [addRelationship, related?]
  cases row.get? (node ++ "_" ++ e.1) <;> rfl

theorem get?_addRelationship (node : String) (row : Row) (entity : Dict Value) (e : String × Relationship)
    (key : String) :
    (addRelationship node row entity e).get? key =
      if key = e.1 then (related? row (node ++ "_" ++ e.1) e.2).or (entity.get? key) else entity.get? key := by
  rw [addRelationship_eq]
  cases related? row (node ++ "_" ++ e.1) e.2 with
  | none => simp
  | some v => simp [Dict.get?_insert]

theorem get?_foldl_addRelationship_of_new {node : String} {links : List (String × Relationship)} {key : String}
    (h : ∀ e ∈ links, key ≠ e.1) (entity : Dict Value) :
    (links.foldl (addRelationship node row) entity).get? key = entity.get? key := by
  induction links generalizing entity with
  | nil => rfl
  | cons e rest ih =>
    obtain ⟨hne, hrest⟩ := List.forall_mem_cons.1 h
    rw [List.foldl_cons, ih hrest, get?_addRelationship, if_neg hne]

/-- An entity has each relationship under its name. -/
theorem get?_foldl_addRelationship {node : String} {links : List (String × Relationship)} (hlinks : Ascending links)
    {e : String × Relationship} (he : e ∈ links) (entity : Dict Value) :
    (links.foldl (addRelationship node row) entity).get? e.1 =
      (related? row (node ++ "_" ++ e.1) e.2).or (entity.get? e.1) := by
  induction links generalizing entity with
  | nil => cases he
  | cons head rest ih =>
    obtain ⟨hlater, hrest⟩ := List.pairwise_cons.1 hlinks
    have hne {later : String × Relationship} (hlast : later ∈ rest) : head.1 ≠ later.1 := by
      intro heq
      exact String.lt_irrefl _ (heq ▸ hlater later hlast)
    rw [List.foldl_cons]
    rcases List.mem_cons.1 he with rfl | he
    · rw [get?_foldl_addRelationship_of_new fun later => hne, get?_addRelationship, if_pos rfl]
    · rw [ih hrest he, get?_addRelationship, if_neg (hne he).symm]

/-! ## No other column matters -/

/-- The columns in which a relationship is looked up. -/
def columnsAt (column : String) (r : Relationship) : List String :=
  column ::
    match r.cardinality with
    | .one => r.fields.map (fun f => column ++ "_" ++ f.name)
    | .many => [column ++ "_edges"]

/-- The columns in which an entity is looked up. -/
def lookedUp (d : Descriptor) : List String :=
  d.nodeVariable :: d.relationships.toList.flatMap (fun e => columnsAt (d.nodeVariable ++ "_" ++ e.1) e.2)

theorem related?_congr {column : String} {r : Relationship}
    (h : ∀ name ∈ columnsAt column r, row.get? name = other.get? name) :
    related? row column r = related? other column r := by
  obtain ⟨hcolumn, hmore⟩ := List.forall_mem_cons.1 h
  rw [related?, related?, hcolumn]
  refine Option.map_congr fun v _ => ?_
  cases hcard : r.cardinality with
  | one =>
    rw [hcard, List.forall_mem_map] at hmore
    have hedge : edgeColumns row column r = edgeColumns other column r :=
      congrArg Dict.ofList (List.filterMap_congr fun f hf => by rw [hmore f hf])
    simp only [relatedOne, hedge]
  | many =>
    have hedges := hmore (column ++ "_edges") (by simp [hcard])
    simp only [relatedMany, hedges]

/-- Rows that agree in the columns of a descriptor have the same entity. -/
theorem entityOf_congr (h : ∀ column ∈ lookedUp d, row.get? column = other.get? column) :
    entityOf d row = entityOf d other := by
  obtain ⟨hnode, hlinks⟩ := List.forall_mem_cons.1 h
  have hfold (entity : Dict Value) : d.relationships.toList.foldl (addRelationship d.nodeVariable row) entity =
      d.relationships.toList.foldl (addRelationship d.nodeVariable other) entity := by
    refine List.foldl_ext _ _ _ fun entity e he => ?_
    rw [addRelationship_eq, addRelationship_eq, related?_congr fun column hcolumn => ?_]
    exact hlinks column (List.mem_flatMap.2 ⟨e, he, hcolumn⟩)
  simp only [entityOf, hnode, hfold]

/-! ## Each of these columns does -/

/-- Some two rows that differ in a column alone have different entities. -/
def Consults (d : Descriptor) (column : String) : Prop :=
  ∃ row other : Row, (∀ key, key ≠ column → row.get? key = other.get? key) ∧ entityOf d row ≠ entityOf d other

theorem consults_of_insert (row : Row) (v : Value) {column : String}
    (h : entityOf d row ≠ entityOf d (row.insert column v)) : Consults d column :=
  ⟨row, row.insert column v, fun key hkey => by rw [Dict.get?_insert, if_neg hkey], h⟩

/-- A node without properties. -/
def bare (d : Descriptor) : Row := (∅ : Row).insert d.nodeVariable .emptyObject

theorem related?_eq_of_entityOf_eq (hrow : row.get? d.nodeVariable = some .emptyObject)
    (hother : other.get? d.nodeVariable = some .emptyObject) (h : entityOf d row = entityOf d other)
    {e : String × Relationship} (he : e ∈ d.relationships.toList) :
    related? row (d.nodeVariable ++ "_" ++ e.1) e.2 = related? other (d.nodeVariable ++ "_" ++ e.1) e.2 := by
  have hentity {row : Row} (hrow : row.get? d.nodeVariable = some .emptyObject) :
      entityOf d row =
        .ok (.ofDict (d.relationships.toList.foldl (addRelationship d.nodeVariable row) Dict.empty)) := by
    rw [entityOf, hrow]
    rfl
  rw [hentity hrow, hentity hother] at h
  have hdict := Dict.ext (Value.obj.inj (Except.ok.inj h))
  have hmember := congrArg (fun entity => entity.get? e.1) hdict
  simpa only [get?_foldl_addRelationship d.relationships.ascending he, Dict.get?_empty, Option.or_none] using hmember

theorem consults_node : Consults d d.nodeVariable := by
  refine consults_of_insert ∅ .emptyObject fun h => ?_
  have hother : ((∅ : Row).insert d.nodeVariable .emptyObject).get? d.nodeVariable = some .emptyObject := by
    rw [Dict.get?_insert, if_pos rfl]
  rw [entityOf, entityOf, hother] at h
  cases h

theorem consults_of_related? {e : String × Relationship} (he : e ∈ d.relationships.toList)
    (hrow : row.get? d.nodeVariable = some .emptyObject) {column : String} (hcolumn : d.nodeVariable ≠ column)
    {v : Value}
    (h : related? row (d.nodeVariable ++ "_" ++ e.1) e.2 ≠
      related? (row.insert column v) (d.nodeVariable ++ "_" ++ e.1) e.2) : Consults d column := by
  refine consults_of_insert row v fun heq => h (related?_eq_of_entityOf_eq hrow ?_ heq he)
  rw [Dict.get?_insert, if_neg hcolumn, hrow]

theorem consults_target {e : String × Relationship} (he : e ∈ d.relationships.toList) :
    Consults d (d.nodeVariable ++ "_" ++ e.1) := by
  have hne := Text.joined_ne d.nodeVariable e.1
  have hnode : (bare d).get? d.nodeVariable = some .emptyObject := by rw [bare, Dict.get?_insert, if_pos rfl]
  have hnone : (bare d).get? (d.nodeVariable ++ "_" ++ e.1) = none := by
    rw [bare, Dict.get?_insert, if_neg hne]
    rfl
  refine consults_of_related? (v := .null) he hnode hne.symm ?_
  rw [related?, related?, hnone, Dict.get?_insert, if_pos rfl, Option.map_none, Option.map_some]
  exact Option.some_ne_none _ ∘ Eq.symm

/-- A node without properties that is linked to something. -/
def linkedTo (d : Descriptor) (name : String) (target : Value) : Row :=
  (bare d).insert (d.nodeVariable ++ "_" ++ name) target

theorem get?_linkedTo_node (d : Descriptor) (name : String) (target : Value) :
    (linkedTo d name target).get? d.nodeVariable = some .emptyObject := by
  rw [linkedTo, Dict.get?_insert, if_neg (Text.joined_ne d.nodeVariable name).symm, bare, Dict.get?_insert, if_pos rfl]

theorem get?_linkedTo_target (d : Descriptor) (name : String) (target : Value) :
    (linkedTo d name target).get? (d.nodeVariable ++ "_" ++ name) = some target := by
  rw [linkedTo, Dict.get?_insert, if_pos rfl]

/-- A longer name is that of neither the node nor the target. -/
theorem get?_linkedTo_longer (d : Descriptor) (name suffix : String) (target : Value) :
    (linkedTo d name target).get? (d.nodeVariable ++ "_" ++ name ++ "_" ++ suffix) = none := by
  rw [linkedTo, Dict.get?_insert, if_neg (Text.joined_ne _ suffix), bare, Dict.get?_insert,
    if_neg (Text.joined_twice_ne _ _ _)]
  rfl

theorem consults_longer {e : String × Relationship} (he : e ∈ d.relationships.toList) {suffix : String}
    (target v : Value)
    (h : related? (linkedTo d e.1 target) (d.nodeVariable ++ "_" ++ e.1) e.2 ≠
      related? ((linkedTo d e.1 target).insert (d.nodeVariable ++ "_" ++ e.1 ++ "_" ++ suffix) v)
        (d.nodeVariable ++ "_" ++ e.1) e.2) :
    Consults d (d.nodeVariable ++ "_" ++ e.1 ++ "_" ++ suffix) :=
  consults_of_related? he (get?_linkedTo_node d e.1 target) (Text.joined_twice_ne _ _ _).symm h

theorem isEmpty_edgeColumns {column : String} {r : Relationship} :
    (edgeColumns row column r).isEmpty = true ↔ ∀ f ∈ r.fields, row.get? (column ++ "_" ++ f.name) = none := by
  simp [edgeColumns, Dict.isEmpty_ofList]

theorem consults_edge {e : String × Relationship} (he : e ∈ d.relationships.toList) (hone : e.2.cardinality = .one)
    {f : Schema.EdgeField} (hf : f ∈ e.2.fields) : Consults d (d.nodeVariable ++ "_" ++ e.1 ++ "_" ++ f.name) := by
  refine consults_longer he .emptyObject .null ?_
  have hlonger := Text.joined_ne (d.nodeVariable ++ "_" ++ e.1) f.name
  have hnone : (edgeColumns (linkedTo d e.1 .emptyObject) (d.nodeVariable ++ "_" ++ e.1) e.2).isEmpty = true :=
    isEmpty_edgeColumns.2 fun g _ => get?_linkedTo_longer d e.1 g.name _
  have hsome : ¬(edgeColumns ((linkedTo d e.1 .emptyObject).insert
      (d.nodeVariable ++ "_" ++ e.1 ++ "_" ++ f.name) .null) (d.nodeVariable ++ "_" ++ e.1) e.2).isEmpty = true := by
    intro hempty
    have hnull := isEmpty_edgeColumns.1 hempty f hf
    rw [Dict.get?_insert, if_pos rfl] at hnull
    cases hnull
  rw [related?, related?, Dict.get?_insert, if_neg hlonger.symm, get?_linkedTo_target]
  simp only [hone, Option.map_some, relatedOne, if_pos hnone, if_neg hsome]
  exact fun h => nomatch Option.some.inj h

theorem consults_edges {e : String × Relationship} (he : e ∈ d.relationships.toList)
    (hmany : e.2.cardinality = .many) : Consults d (d.nodeVariable ++ "_" ++ e.1 ++ "_edges") := by
  have hsuffix : "_edges" = "_" ++ "edges" := by decide
  have hjoined : d.nodeVariable ++ "_" ++ e.1 ++ "_edges" = d.nodeVariable ++ "_" ++ e.1 ++ "_" ++ "edges" := by
    rw [hsuffix, ← String.append_assoc]
  have hlonger := Text.joined_ne (d.nodeVariable ++ "_" ++ e.1) "edges"
  have hnone := get?_linkedTo_longer d e.1 "edges" (.arr [.obj [("id", .str "x")]])
  have hplain : relatedItem [] (.obj [("id", .str "x")]) = .obj [("id", .str "x")] := rfl
  have hpaired : relatedItem [.obj [("edgeProps", .emptyObject), ("relatedId", .str "x")]] (.obj [("id", .str "x")]) =
      .obj [("edgeProps", .emptyObject), ("id", .str "x")] := rfl
  rw [hjoined]
  refine consults_longer he (.arr [.obj [("id", .str "x")]])
    (.arr [.obj [("edgeProps", .emptyObject), ("relatedId", .str "x")]]) ?_
  rw [related?, related?, Dict.get?_insert, if_neg hlonger.symm, get?_linkedTo_target]
  simp [hmany, relatedMany, hjoined, hnone, Dict.get?_insert, Value.items?, Value.isNull, hplain, hpaired]

/-- The entities of a descriptor depend on the columns in which they are looked up, and on no others. -/
theorem consults_iff {column : String} : Consults d column ↔ column ∈ lookedUp d := by
  constructor
  · rintro ⟨row, other, hsame, hne⟩
    by_contra hcolumn
    exact hne (entityOf_congr fun key hkey => hsame key fun heq => hcolumn (heq ▸ hkey))
  · intro hcolumn
    rcases List.mem_cons.1 hcolumn with rfl | hcolumn
    · exact consults_node
    · obtain ⟨e, he, hcolumn⟩ := List.mem_flatMap.1 hcolumn
      rcases List.mem_cons.1 hcolumn with rfl | hcolumn
      · exact consults_target he
      · cases hcard : e.2.cardinality with
        | one =>
          simp only [hcard, List.mem_map] at hcolumn
          obtain ⟨f, hf, rfl⟩ := hcolumn
          exact consults_edge he hcard hf
        | many =>
          simp only [hcard, List.mem_singleton] at hcolumn
          exact hcolumn ▸ consults_edges he hcard

/-! ## Edges are paired with their targets -/

/-- A collected edge in a row: the id of its target and its properties. -/
def edgeItem (e : Value × Value) : Value := .object [("relatedId", e.1), ("edgeProps", e.2)]

/-- A related node with the properties of the first edge to its id, if there is one. -/
def paired (edges : List (Value × Value)) (v : Value) : Value :=
  let node := properties v
  match (node.member? "id").bind (fun id => edges.find? (fun e => e.1.same id)) with
  | some e => withEdge node e.2
  | none => node

theorem relatedId_edgeItem (e : Value × Value) : (edgeItem e).member? "relatedId" = some e.1 :=
  Dict.get?_ofList_eq_lookup_reverse [("relatedId", e.1), ("edgeProps", e.2)] "relatedId"

theorem edgeProps_edgeItem (e : Value × Value) : (edgeItem e).member? "edgeProps" = some e.2 :=
  Dict.get?_ofList_eq_lookup_reverse [("relatedId", e.1), ("edgeProps", e.2)] "edgeProps"

theorem edgeTo?_edgeItems (edges : List (Value × Value)) (id : Value) :
    edgeTo? (edges.map edgeItem) id = (edges.find? (fun e => e.1.same id)).map Prod.snd := by
  rw [edgeTo?, List.find?_map, Option.bind_map]
  simp only [Function.comp_def, relatedId_edgeItem, edgeProps_edgeItem, Option.any_some]
  exact (Option.map_eq_bind).symm

theorem relatedItem_edgeItems (edges : List (Value × Value)) (v : Value) :
    relatedItem (edges.map edgeItem) v = paired edges v := by
  rw [relatedItem, paired]
  cases (properties v).member? "id" with
  | none => rfl
  | some id =>
    simp only [Option.bind_some, edgeTo?_edgeItems]
    cases edges.find? (fun e => e.1.same id) <;> rfl

/-- A relationship to many becomes the list of its nodes, each with the properties of its edge. -/
theorem member?_of_edgeItems {e : String × Relationship} (he : e ∈ d.relationships.toList)
    (hmany : e.2.cardinality = .many) {edges : List (Value × Value)} {items : List Value}
    (hitems : row.get? (d.nodeVariable ++ "_" ++ e.1) = some (.arr items))
    (hedges : row.get? (d.nodeVariable ++ "_" ++ e.1 ++ "_edges") = some (.arr (edges.map edgeItem))) {entity : Value}
    (h : entityOf d row = .ok entity) :
    entity.member? e.1 = some (.arr ((items.filter (fun v => !v.isNull)).map (paired edges))) := by
  have hrelated : related? row (d.nodeVariable ++ "_" ++ e.1) e.2 =
      some (.arr ((items.filter (fun v => !v.isNull)).map (paired edges))) := by
    simp [related?, hitems, hmany, relatedMany, hedges, Value.items?, relatedItem_edgeItems]
  unfold entityOf at h
  split at h
  · cases h
    exact (get?_foldl_addRelationship d.relationships.ascending he _).trans (by rw [hrelated, Option.some_or])
  · cases h

end EntityGraph.Repository
