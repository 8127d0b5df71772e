import EntityGraph.Json.Part
import EntityGraph.Proofs.Repository.Mapping
import EntityGraph.Schema.Validation
import Mathlib.Data.List.Forall2
import Mathlib.Data.Option.Basic

/-!
# Nodes in two shapes

A node is delivered plain, as the object of its properties, or wrapped, as an object that has its labels and its
properties as members. Rows with the same nodes in either shape, and the same edges, have the same entity. Only a plain
node that has both of these members itself is taken for a wrapped one, and keeps nothing else.
-/
namespace EntityGraph.Repository

open Cypher (Row)
open Json (Value)
open Schema (Descriptor Relationship Cardinality)

/-! ## What a node is delivered as -/

/-- Whether a value has the members of a wrapped node. -/
def IsWrapped (v : Value) : Prop :=
  ∃ labels members, v.member? "labels" = some labels ∧ v.member? "properties" = some (.obj members)

/-- How a node with these properties is delivered. -/
inductive Delivers (members : List (String × Value)) : Value → Prop where
  | plain (h : ¬IsWrapped (.obj members)) : Delivers members (.obj members)
  | wrapped {v labels : Value} (hlabels : v.member? "labels" = some labels)
      (hproperties : v.member? "properties" = some (.obj members)) : Delivers members v

theorem properties_of_not_isWrapped {v : Value} (h : ¬IsWrapped v) : properties v = v := by
  unfold properties
  split
  · rename_i labels members hlabels hproperties
    exact absurd ⟨labels, members, hlabels, hproperties⟩ h
  · rfl

theorem Delivers.properties_eq {members : List (String × Value)} {v : Value} (h : Delivers members v) :
    properties v = .obj members := by
  cases h with
  | plain h => exact properties_of_not_isWrapped h
  | wrapped hlabels hproperties => rw [properties, hlabels, hproperties]

/-- Every object is a node in one of the shapes. -/
theorem exists_delivers (members : List (String × Value)) : ∃ inner, Delivers inner (.obj members) := by
  by_cases h : IsWrapped (.obj members)
  · obtain ⟨labels, inner, hlabels, hproperties⟩ := h
    exact ⟨inner, .wrapped hlabels hproperties⟩
  · exact ⟨members, .plain h⟩

theorem not_isWrapped_of_members? {v : Value} (h : v.members? = none) : ¬IsWrapped v := by
  rintro ⟨labels, members, hlabels, -⟩
  cases v with
  | obj => cases h
  | _ => cases hlabels

/-- A plain node with the members of a wrapped one is not read as it is. -/
theorem properties_eq_self_iff {members : List (String × Value)} :
    properties (.obj members) = .obj members ↔ ¬IsWrapped (.obj members) := by
  constructor
  · rintro h ⟨labels, inner, hlabels, hproperties⟩
    rw [(Delivers.wrapped hlabels hproperties).properties_eq] at h
    have hlt := Value.sizeOf_lt_of_member? hproperties
    rw [h] at hlt
    omega
  · exact properties_of_not_isWrapped

/-! ## Rows with the same nodes -/

/-- The wrapped form of a node. -/
def wrapped (labels : List String) (p : Dict Value) : Value :=
  .object [("labels", .ofStrings labels), ("properties", .ofDict p)]

theorem delivers_wrapped (labels : List String) (p : Dict Value) : Delivers p.toList (wrapped labels p) := by
  have hmember (key : String) : (wrapped labels p).member? key =
      [("properties", Value.ofDict p), ("labels", Value.ofStrings labels)].lookup key :=
    Dict.get?_ofList_eq_lookup_reverse [("labels", Value.ofStrings labels), ("properties", Value.ofDict p)] key
  exact .wrapped (hmember "labels") (hmember "properties")

/-- A value as it is, or the wrapped form of a plain node. -/
inductive Rewrapped : Value → Value → Prop where
  | same (v : Value) : Rewrapped v v
  | wrapped {p : Dict Value} (labels : List String) (h : ¬IsWrapped (.ofDict p)) :
      Rewrapped (.ofDict p) (wrapped labels p)

/-- What a relationship leads to, with some of its plain nodes wrapped. -/
inductive RewrappedTarget : Cardinality → Value → Value → Prop where
  | node {c : Cardinality} {v w : Value} (h : Rewrapped v w) : RewrappedTarget c v w
  | list {items items' : List Value} (h : List.Forall₂ Rewrapped items items') :
      RewrappedTarget .many (.arr items) (.arr items')

/-- The columns for the properties of a relationship's edges. -/
def edgeColumnsAt (column : String) (r : Relationship) : List String := (columnsAt column r).tail

/-- Two rows with the same nodes and edges, where the second one has some of the first one's plain nodes wrapped. -/
structure RewrappedRow (d : Descriptor) (row other : Row) : Prop where
  node : Option.Rel Rewrapped (row.get? d.nodeVariable) (other.get? d.nodeVariable)
  target : ∀ e ∈ d.relationships.toList, Option.Rel (RewrappedTarget e.2.cardinality)
    (row.get? (d.nodeVariable ++ "_" ++ e.1)) (other.get? (d.nodeVariable ++ "_" ++ e.1))
  edges : ∀ e ∈ d.relationships.toList, ∀ column ∈ edgeColumnsAt (d.nodeVariable ++ "_" ++ e.1) e.2,
    row.get? column = other.get? column

variable {d : Descriptor} {row other : Row}

theorem map_eq_of_rel {α β γ : Type} {R : α → β → Prop} {x : Option α} {y : Option β} (h : Option.Rel R x y)
    {f : α → γ} {g : β → γ} (hfg : ∀ a b, R a b → f a = g b) : x.map f = y.map g := by
  cases h with
  | none => rfl
  | some hab => exact congrArg some (hfg _ _ hab)

theorem Rewrapped.properties_eq {v w : Value} (h : Rewrapped v w) : properties v = properties w := by
  cases h with
  | same => rfl
  | wrapped labels h => rw [properties_of_not_isWrapped h, (delivers_wrapped labels _).properties_eq, Value.ofDict]

theorem Rewrapped.isNull_eq {v w : Value} (h : Rewrapped v w) : v.isNull = w.isNull := by
  cases h <;> rfl

theorem Rewrapped.items?_eq {v w : Value} (h : Rewrapped v w) : v.items? = w.items? := by
  cases h <;> rfl

theorem Rewrapped.relatedItem_eq {v w : Value} (h : Rewrapped v w) (edges : List Value) :
    relatedItem edges v = relatedItem edges w := by
  rw [relatedItem, relatedItem, h.properties_eq]

theorem relatedItems_eq {items items' : List Value} (h : List.Forall₂ Rewrapped items items') (edges : List Value) :
    (items.filter (fun v => !v.isNull)).map (relatedItem edges) =
      (items'.filter (fun v => !v.isNull)).map (relatedItem edges) := by
  induction h with
  | nil => rfl
  | cons hv _ ih =>
    rw [List.filter_cons, List.filter_cons, hv.isNull_eq]
    split
    · rw [List.map_cons, List.map_cons, hv.relatedItem_eq, ih]
    · exact ih

theorem related?_of_rewrapped {column : String} {r : Relationship}
    (htarget : Option.Rel (RewrappedTarget r.cardinality) (row.get? column) (other.get? column))
    (hedges : ∀ name ∈ edgeColumnsAt column r, row.get? name = other.get? name) :
    related? row column r = related? other column r := by
  refine map_eq_of_rel htarget fun v w hvw => ?_
  cases hcard : r.cardinality with
  | one =>
    have hcolumns : ∀ f ∈ r.fields, row.get? (column ++ "_" ++ f.name) = other.get? (column ++ "_" ++ f.name) := by
      simpa [edgeColumnsAt, columnsAt, hcard] using hedges
    have hedge : edgeColumns row column r = edgeColumns other column r :=
      congrArg Dict.ofList (List.filterMap_congr fun f hf => by rw [hcolumns f hf])
    rw [hcard] at hvw
    cases hvw with
    | node h => simp only [relatedOne, hedge, h.properties_eq]
  | many =>
    have hcolumn : row.get? (column ++ "_edges") = other.get? (column ++ "_edges") := by
      simpa [edgeColumnsAt, columnsAt, hcard] using hedges
    rw [hcard] at hvw
    simp only [relatedMany, hcolumn]
    cases hvw with
    | node h => rw [h.items?_eq]
    | list h => rw [Value.items?, Value.items?, Option.getD_some, Option.getD_some, relatedItems_eq h]

/-! ## The members of an entity -/

/-- The members of the entity that a row has for a node with these properties. -/
def membersOf (d : Descriptor) (row : Row) (members : List (String × Value)) : Dict Value :=
  d.relationships.toList.foldl (addRelationship d.nodeVariable row) (Dict.ofList members)

theorem entityOf_of_delivers {v : Value} {members : List (String × Value)} (hnode : row.get? d.nodeVariable = some v)
    (hv : Delivers members v) : entityOf d row = .ok (.ofDict (membersOf d row members)) := by
  rw [entityOf, hnode, Option.map_some, hv.properties_eq]
  rfl

/-- Relationships stand under their names if the row has their columns. -/
theorem get?_membersOf (members : List (String × Value)) (key : String) :
    (membersOf d row members).get? key =
      ((d.relationships.get? key).bind (related? row (d.nodeVariable ++ "_" ++ key))).or
        ((Dict.ofList members).get? key) := by
  cases h : d.relationships.get? key with
  | none =>
    rw [Option.bind_none, Option.none_or]
    refine get?_foldl_addRelationship_of_new (fun e he hkey => ?_) _
    have hsome : d.relationships.get? key = some e.2 := Dict.get?_of_mem (hkey ▸ he)
    rw [h] at hsome
    cases hsome
  | some r => exact get?_foldl_addRelationship d.relationships.ascending (Dict.mem_of_get? h) _

theorem entityOf_of_rewrappedRow (h : RewrappedRow d row other) : entityOf d row = entityOf d other := by
  have hproperties : (row.get? d.nodeVariable).map properties = (other.get? d.nodeVariable).map properties :=
    map_eq_of_rel h.node fun v w hvw => hvw.properties_eq
  have hfold (entity : Dict Value) : d.relationships.toList.foldl (addRelationship d.nodeVariable row) entity =
      d.relationships.toList.foldl (addRelationship d.nodeVariable other) entity := by
    refine List.foldl_ext _ _ _ fun entity e he => ?_
    rw [addRelationship_eq, addRelationship_eq, related?_of_rewrapped (h.target e he) (h.edges e he)]
  simp only [entityOf, hproperties, hfold]

/-- A row and the same row with plain nodes wrapped have the same entity, and a plain node's properties are all in it
under names that are not those of relationships. That is so for each plain node that does not have the members of a
wrapped one, and a node that has them is not read as its wrapped form. -/
theorem shapes_map_alike (h : RewrappedRow d row other) :
    entityOf d row = entityOf d other ∧
    (∀ p : Dict Value, row.get? d.nodeVariable = some (.ofDict p) → ¬IsWrapped (.ofDict p) →
      ∃ entity : Dict Value, entityOf d row = .ok (.ofDict entity) ∧
        ∀ key, d.relationships.get? key = none → entity.get? key = p.get? key) ∧
    ∀ (p : Dict Value) (labels : List String),
      properties (.ofDict p) = properties (wrapped labels p) ↔ ¬IsWrapped (.ofDict p) := by
  refine ⟨entityOf_of_rewrappedRow h, fun p hnode hp => ?_, fun p labels => ?_⟩
  · refine ⟨_, entityOf_of_delivers hnode (.plain hp), fun key hkey => ?_⟩
    rw [get?_membersOf, hkey, Option.bind_none, Option.none_or, Dict.ofList_toList]
  · rw [(delivers_wrapped labels p).properties_eq]
    exact properties_eq_self_iff

/-- Articles with an author and tags. -/
def signedArticles : Descriptor :=
  ((Descriptor.base "Article" "article").withRelationship "author"
    ⟨"AUTHORED_BY", .outgoing, .one, false, "User", [⟨"role", none⟩], none, none⟩).withRelationship "tags"
    ⟨"TAGGED", .outgoing, .many, false, "Tag", [⟨"weight", none⟩], none, none⟩

/-- The properties of a node that has an id only. -/
def idOnly (id : String) : Dict Value := Dict.ofList [("id", .str id)]

/-- The edges to two tags. -/
def tagEdges : List Value :=
  [edgeItem (.str "t2", .object [("weight", .ofNat 2)]), edgeItem (.str "t1", .object [("weight", .ofNat 1)])]

/-- A row for an article with these nodes, whose author and tags have properties of their edges. -/
def articleRow (article author : Value) (tags : List Value) : Row :=
  Dict.ofList [("article", article), ("article_author", author), ("article_author_role", .str "editor"),
    ("article_tags", .arr tags), ("article_tags_edges", .arr tagEdges)]

/-- An article of which the node, the author and one of the tags may be wrapped. -/
theorem shapes_of_articles_map_alike :
    entityOf signedArticles (articleRow (.ofDict (idOnly "a1")) (.ofDict (idOnly "u1"))
        [.ofDict (idOnly "t1"), .null, .ofDict (idOnly "t2")]) =
      entityOf signedArticles (articleRow (wrapped ["Article"] (idOnly "a1")) (wrapped ["User"] (idOnly "u1"))
        [.ofDict (idOnly "t1"), .null, wrapped ["Tag"] (idOnly "t2")]) ∧
    ∃ entity : Dict Value, entityOf signedArticles (articleRow (.ofDict (idOnly "a1")) (.ofDict (idOnly "u1"))
        [.ofDict (idOnly "t1"), .null, .ofDict (idOnly "t2")]) = .ok (.ofDict entity) ∧
      entity.get? "id" = some (.str "a1") := by
  have hplain (id : String) : ¬IsWrapped (.ofDict (idOnly id)) := by
    rintro ⟨labels, members, hlabels, -⟩
    cases hlabels
  have hrow : RewrappedRow signedArticles
      (articleRow (.ofDict (idOnly "a1")) (.ofDict (idOnly "u1")) [.ofDict (idOnly "t1"), .null, .ofDict (idOnly "t2")])
      (articleRow (wrapped ["Article"] (idOnly "a1")) (wrapped ["User"] (idOnly "u1"))
        [.ofDict (idOnly "t1"), .null, wrapped ["Tag"] (idOnly "t2")]) := by
    refine ⟨.some (.wrapped _ (hplain _)), ?_, ?_⟩
    · refine List.forall_mem_cons.2 ⟨.some (.node (.wrapped _ (hplain _))), List.forall_mem_singleton.2 (.some (.list ?_))⟩
      exact .cons (.same _) (.cons (.same _) (.cons (.wrapped _ (hplain _)) .nil))
    · refine List.forall_mem_cons.2 ⟨?_, List.forall_mem_singleton.2 ?_⟩ <;> exact List.forall_mem_singleton.2 rfl
  obtain ⟨hsame, hproperties, -⟩ := shapes_map_alike hrow
  obtain ⟨entity, hentity, hown⟩ := hproperties (idOnly "a1") rfl (hplain _)
  exact ⟨hsame, entity, hentity, hown "id" rfl⟩

/-- Drafts with declared properties that are named like the members of a wrapped node. -/
def drafts : Descriptor :=
  ((Descriptor.base "Draft" "draft").withField "labels" ⟨.stringList, none⟩).withField "properties" ⟨.json, none⟩

/-- A plain node is not read as its wrapped form if its descriptor declares such properties. -/
theorem not_shapes_map_alike :
    ¬∀ (d : Descriptor) (row : Row) (p : Dict Value) (labels : List String), d.validate = .ok () →
      entityOf d (row.insert d.nodeVariable (.ofDict p)) = entityOf d (row.insert d.nodeVariable (wrapped labels p)) := by
  intro h
  have hdraft := h drafts ∅ (Dict.ofList [("id", .str "d1"), ("labels", .ofStrings ["urgent"]),
    ("properties", .object [("pages", .ofNat 3)])]) ["Draft"] rfl
  have hid := congrArg (fun entity => (entity.toOption.bind (fun v => v.member? "id")).isSome) hdraft
  cases hid

end EntityGraph.Repository
