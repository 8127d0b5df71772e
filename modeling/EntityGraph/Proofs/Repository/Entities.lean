import EntityGraph.Proofs.Json.Equality
import EntityGraph.Proofs.Repository.Shapes
import Mathlib.Data.List.Pairwise

/-!
# Entities are complete

An entity has all properties of its node and whatever the node is related to, each related node with the properties of
its edge. The edges to many nodes come in a column of their own, and a node takes the first edge to its id. If the
edges lead to different nodes their order does not matter, unless another relationship is looked up in the same column.
-/
namespace EntityGraph.Repository

open Cypher (Row)
open Json (Value)
open Schema (Descriptor Relationship)

/-! ## Edges by the ids of their targets -/

/-- Whether an edge leads to the node with this id. -/
def PointsTo (edge id : Value) : Prop := ∃ other, edge.member? "relatedId" = some other ∧ other.same id = true

/-- The first edge to the node with this id. -/
def FirstEdge (edges : List Value) (id edge : Value) : Prop :=
  ∃ before after, edges = before ++ edge :: after ∧ (∀ e ∈ before, ¬PointsTo e id) ∧ PointsTo edge id

/-- Edges with different ids, if they have one. -/
def Distinct (edges : List Value) : Prop :=
  edges.Pairwise fun e e' => ∀ id id', e.member? "relatedId" = some id → e'.member? "relatedId" = some id' →
    id.same id' = false

theorem pointsTo_iff {edge id : Value} :
    PointsTo edge id ↔ (edge.member? "relatedId").any (fun other => other.same id) = true := by
  rw [Option.any_eq_true]
  rfl

theorem edgeTo?_eq_some_iff {edges : List Value} {id props : Value} :
    edgeTo? edges id = some props ↔ ∃ edge, FirstEdge edges id edge ∧ edge.member? "edgeProps" = some props := by
  simp only [edgeTo?, Option.bind_eq_some_iff, List.find?_eq_some_iff_append, ← pointsTo_iff, Bool.not_eq_true',
    ← Bool.not_eq_true]
  refine exists_congr fun edge => and_congr_left fun _ => ?_
  constructor
  · rintro ⟨hedge, before, after, hedges, hbefore⟩
    exact ⟨before, after, hedges, hbefore, hedge⟩
  · rintro ⟨before, after, hedges, hbefore, hedge⟩
    exact ⟨hedge, before, after, hedges, hbefore⟩

theorem exists_firstEdge {edges : List Value} {id edge : Value} (hmem : edge ∈ edges) (hedge : PointsTo edge id) :
    ∃ first, FirstEdge edges id first := by
  induction edges with
  | nil => cases hmem
  | cons head rest ih =>
    by_cases hhead : PointsTo head id
    · exact ⟨head, [], rest, rfl, by simp, hhead⟩
    · rcases List.mem_cons.1 hmem with rfl | hmem
      · exact absurd hedge hhead
      · obtain ⟨first, before, after, hrest, hbefore, hfirst⟩ := ih hmem
        refine ⟨first, head :: before, after, ?_, List.forall_mem_cons.2 ⟨hhead, hbefore⟩, hfirst⟩
        rw [hrest, List.cons_append]

/-- Of edges with different ids only one leads to a node. -/
theorem Distinct.eq_of_pointsTo {edges : List Value} (h : Distinct edges) {id e e' : Value} (he : e ∈ edges)
    (he' : e' ∈ edges) : PointsTo e id → PointsTo e' id → e = e' := by
  have hpairs : edges.Pairwise fun e e' => PointsTo e id → PointsTo e' id → e = e' := by
    refine h.imp fun {e e'} hne ⟨other, hother, hsame⟩ ⟨other', hother', hsame'⟩ => ?_
    -- both ids equal that of the node, so they would equal each other
    have heq := Value.same_of_same other other' id hsame hsame'
    rw [hne other other' hother hother'] at heq
    cases heq
  have hsymm : Std.Symm fun e e' => PointsTo e id → PointsTo e' id → e = e' :=
    ⟨fun e e' heq hpoints' hpoints => (heq hpoints hpoints').symm⟩
  exact hpairs.forall_of_forall (fun _ _ _ _ => rfl) he he'

theorem firstEdge_iff {edges : List Value} {id : Value}
    (h : ∀ e ∈ edges, ∀ e' ∈ edges, PointsTo e id → PointsTo e' id → e = e') {edge : Value} :
    FirstEdge edges id edge ↔ edge ∈ edges ∧ PointsTo edge id := by
  have hmem {first : Value} (hfirst : FirstEdge edges id first) : first ∈ edges ∧ PointsTo first id := by
    obtain ⟨before, after, rfl, -, hedge⟩ := hfirst
    exact ⟨by simp, hedge⟩
  refine ⟨hmem, fun ⟨hedge, hpoints⟩ => ?_⟩
  obtain ⟨first, hfirst⟩ := exists_firstEdge hedge hpoints
  rwa [h edge hedge first (hmem hfirst).1 hpoints (hmem hfirst).2]

/-- The order of edges with different ids does not matter. -/
theorem edgeTo?_of_perm {edges shuffled : List Value} (h : Distinct edges) (hperm : edges.Perm shuffled) (id : Value) :
    edgeTo? shuffled id = edgeTo? edges id := by
  have hedge (edge : Value) : FirstEdge shuffled id edge ↔ FirstEdge edges id edge := by
    rw [firstEdge_iff fun e he e' he' => h.eq_of_pointsTo he he', firstEdge_iff, hperm.mem_iff]
    exact fun e he e' he' => h.eq_of_pointsTo (hperm.mem_iff.2 he) (hperm.mem_iff.2 he')
  refine Option.ext fun props => ?_
  simp only [edgeTo?_eq_some_iff, hedge]

/-! ## What related nodes become -/

/-- What one node among several becomes: its properties, with those of the first edge to its id. -/
inductive Item (edges : List Value) : Value → Value → Prop where
  | paired {v id edge props : Value} {members : List (String × Value)} (hv : Delivers members v)
      (hid : members.lookup "id" = some id) (hedge : FirstEdge edges id edge)
      (hprops : edge.member? "edgeProps" = some props) :
      Item edges v (.ofDict ((Dict.ofList members).insert "edgeProps" props))
  | unpaired {v : Value} {members : List (String × Value)} (hv : Delivers members v)
      (hnone : ∀ id edge, members.lookup "id" = some id → FirstEdge edges id edge →
        edge.member? "edgeProps" = none) : Item edges v (.obj members)
  | other {v : Value} (h : v.members? = none) : Item edges v v

theorem exists_delivers_of_members? {v : Value} (h : v.members? ≠ none) : ∃ members, Delivers members v := by
  cases v with
  | obj members => exact exists_delivers members
  | _ => exact absurd rfl h

theorem properties_of_members? {v : Value} (h : v.members? = none) : properties v = v :=
  properties_of_not_isWrapped (not_isWrapped_of_members? h)

theorem item_relatedItem (edges : List Value) (v : Value) : Item edges v (relatedItem edges v) := by
  by_cases hv : v.members? = none
  · have hitem : relatedItem edges v = v := by
      rw [relatedItem, properties_of_members? hv]
      cases v with
      | obj => cases hv
      | _ => rfl
    rw [hitem]
    exact .other hv
  · obtain ⟨members, hv⟩ := exists_delivers_of_members? hv
    rw [relatedItem, hv.properties_eq]
    cases hprops : ((Value.obj members).member? "id").bind (edgeTo? edges) with
    | none =>
      refine .unpaired hv fun id edge hid hedge => ?_
      by_contra hsome
      obtain ⟨props, hedgeProps⟩ := Option.ne_none_iff_exists'.1 hsome
      rw [Value.member?, hid, Option.bind_some, edgeTo?_eq_some_iff.2 ⟨edge, hedge, hedgeProps⟩] at hprops
      cases hprops
    | some props =>
      obtain ⟨id, hid, hto⟩ := Option.bind_eq_some_iff.1 hprops
      obtain ⟨edge, hedge, hprops⟩ := edgeTo?_eq_some_iff.1 hto
      exact .paired hv hid hedge hprops

/-- The edges to many nodes in a row. -/
def edgesAt (row : Row) (column : String) : List Value := ((row.get? (column ++ "_edges")).bind Value.items?).getD []

/-- Whether these are the properties of an edge that a row has columns for. -/
def IsEdgeAt (row : Row) (column : String) (r : Relationship) (edge : Dict Value) : Prop :=
  ∀ name value, edge.get? name = some value ↔
    (∃ f ∈ r.fields, f.name = name) ∧ row.get? (column ++ "_" ++ name) = some value

/-- What the value in the column of a relationship becomes: a single node takes the properties of its edge if the row
has any, and null stays as it is; many nodes become a list without nulls. -/
inductive Nested (row : Row) (column : String) (r : Relationship) : Value → Value → Prop where
  | bare {v : Value} {members : List (String × Value)} (hone : r.cardinality = .one) (hv : Delivers members v)
      (hedge : IsEdgeAt row column r ∅) : Nested row column r v (.obj members)
  | joined {v : Value} {members : List (String × Value)} {edge : Dict Value} (hone : r.cardinality = .one)
      (hv : Delivers members v) (hne : edge ≠ ∅) (hedge : IsEdgeAt row column r edge) :
      Nested row column r v (.ofDict ((Dict.ofList members).insert "edgeProps" (.ofDict edge)))
  | other {v : Value} (hone : r.cardinality = .one) (h : v.members? = none) : Nested row column r v v
  | list {items related : List Value} (hmany : r.cardinality = .many)
      (h : List.Forall₂ (Item (edgesAt row column)) (items.filter (fun v => !v.isNull)) related) :
      Nested row column r (.arr items) (.arr related)
  | unlisted {v : Value} (hmany : r.cardinality = .many) (h : v.items? = none) : Nested row column r v (.arr [])

theorem isEdgeAt_edgeColumns (row : Row) (column : String) (r : Relationship) :
    IsEdgeAt row column r (edgeColumns row column r) := by
  -- a name that is declared twice is looked up in one column, so that whatever is held under it is right
  have hread {name : String} {value : Value} (h : (edgeColumns row column r).get? name = some value) :
      (∃ f ∈ r.fields, f.name = name) ∧ row.get? (column ++ "_" ++ name) = some value := by
    obtain ⟨f, hf, hentry⟩ := List.mem_filterMap.1 (Dict.mem_of_mem_ofList (Dict.mem_of_get? h))
    obtain ⟨v, hv, heq⟩ := Option.map_eq_some_iff.1 hentry
    cases heq
    exact ⟨⟨f, hf, rfl⟩, hv⟩
  intro name value
  refine ⟨hread, ?_⟩
  rintro ⟨⟨f, hf, rfl⟩, hv⟩
  cases hget : (edgeColumns row column r).get? f.name with
  | some other =>
    rw [← hv]
    exact (hread hget).2.symm
  | none =>
    rw [edgeColumns, Dict.get?_ofList_eq_lookup_reverse, List.lookup_eq_none_iff] at hget
    have hentry : (f.name, value) ∈ r.fields.filterMap
        (fun f => (row.get? (column ++ "_" ++ f.name)).map (fun v => (f.name, v))) :=
      List.mem_filterMap.2 ⟨f, hf, by rw [hv, Option.map_some]⟩
    simpa using hget _ (List.mem_reverse.2 hentry)

theorem nested_relatedOne {row : Row} {column : String} {r : Relationship} (hone : r.cardinality = .one) (v : Value) :
    Nested row column r v (relatedOne row column r v) := by
  by_cases hmembers : v.members? = none
  · have hsame : relatedOne row column r v = v := by
      rw [relatedOne, properties_of_members? hmembers]
      cases v with
      | obj => cases hmembers
      | _ => exact ite_self _
    rw [hsame]
    exact .other hone hmembers
  · obtain ⟨members, hv⟩ := exists_delivers_of_members? hmembers
    have hedge := isEdgeAt_edgeColumns row column r
    rw [relatedOne, hv.properties_eq]
    by_cases hempty : edgeColumns row column r = ∅
    · rw [hempty] at hedge ⊢
      exact .bare hone hv hedge
    · rw [if_neg (mt Dict.isEmpty_iff.1 hempty)]
      exact .joined hone hv hempty hedge

theorem nested_relatedMany {row : Row} {column : String} {r : Relationship} (hmany : r.cardinality = .many) (v : Value) :
    Nested row column r v (relatedMany row column v) := by
  cases v with
  | arr items =>
    refine .list hmany ?_
    rw [List.forall₂_map_right_iff]
    exact List.forall₂_same.2 fun v _ => item_relatedItem _ v
  | _ => exact .unlisted hmany rfl

theorem nested_of_related? {row : Row} {column : String} {r : Relationship} {v w : Value}
    (hv : row.get? column = some v) (hw : related? row column r = some w) : Nested row column r v w := by
  rw [related?, hv, Option.map_some, Option.some.injEq] at hw
  cases hcard : r.cardinality with
  | one =>
    rw [hcard] at hw
    exact hw ▸ nested_relatedOne hcard v
  | many =>
    rw [hcard] at hw
    exact hw ▸ nested_relatedMany hcard v

/-! ## Entities -/

/-- The column for the edges of a relationship to many. -/
def edgesColumn (d : Descriptor) (key : String) : String := d.nodeVariable ++ "_" ++ key ++ "_edges"

variable {d : Descriptor} {row : Row}

/-- An entity that has all properties of its node and all that a row relates it to. -/
structure Nests (d : Descriptor) (row : Row) (members : List (String × Value)) (entity : Dict Value) : Prop where
  /-- The properties of the node are kept, but for the names of relationships in the row, and nothing is added. -/
  own : ∀ key, (∀ r, d.relationships.get? key = some r → row.get? (d.nodeVariable ++ "_" ++ key) = none) →
    entity.get? key = (Dict.ofList members).get? key
  /-- Each relationship in the row stands under its name. -/
  nested : ∀ key r v, d.relationships.get? key = some r → row.get? (d.nodeVariable ++ "_" ++ key) = some v →
    ∃ w, entity.get? key = some w ∧ Nested row (d.nodeVariable ++ "_" ++ key) r v w

theorem nests_membersOf (members : List (String × Value)) : Nests d row members (membersOf d row members) where
  own key hkey := by
    rw [get?_membersOf]
    cases hr : d.relationships.get? key with
    | none => rfl
    | some r => rw [Option.bind_some, related?, hkey r hr, Option.map_none, Option.none_or]
  nested key r v hr hv := by
    obtain ⟨w, hw⟩ : ∃ w, related? row (d.nodeVariable ++ "_" ++ key) r = some w := by
      rw [related?, hv]
      exact ⟨_, rfl⟩
    refine ⟨w, ?_, nested_of_related? hv hw⟩
    rw [get?_membersOf, hr, Option.bind_some, hw, Option.some_or]

/-! ## Edges in another order -/

theorem edgesColumn_eq (d : Descriptor) (key : String) :
    edgesColumn d key = d.nodeVariable ++ "_" ++ key ++ "_" ++ "edges" := by
  have hsuffix : "_edges" = "_" ++ "edges" := by decide
  rw [edgesColumn, hsuffix, ← String.append_assoc]

theorem relatedItem_of_perm {edges shuffled : List Value} (h : Distinct edges) (hperm : edges.Perm shuffled)
    (v : Value) : relatedItem shuffled v = relatedItem edges v := by
  rw [relatedItem, relatedItem, funext (edgeTo?_of_perm h hperm)]

theorem related?_of_perm {key : String} {r : Relationship} {edges shuffled : List Value}
    (hmany : r.cardinality = .many) (hedges : row.get? (edgesColumn d key) = some (.arr edges)) (h : Distinct edges)
    (hperm : edges.Perm shuffled) :
    related? (row.insert (edgesColumn d key) (.arr shuffled)) (d.nodeVariable ++ "_" ++ key) r =
      related? row (d.nodeVariable ++ "_" ++ key) r := by
  have htarget : (row.insert (edgesColumn d key) (.arr shuffled)).get? (d.nodeVariable ++ "_" ++ key) =
      row.get? (d.nodeVariable ++ "_" ++ key) := by
    rw [edgesColumn_eq, Dict.get?_insert, if_neg (Text.joined_ne _ _).symm]
  rw [related?, related?, htarget]
  refine Option.map_congr fun v _ => ?_
  have hshuffled : (row.insert (edgesColumn d key) (.arr shuffled)).get? (d.nodeVariable ++ "_" ++ key ++ "_edges") =
      some (.arr shuffled) := by
    rw [Dict.get?_insert]
    exact if_pos rfl
  have hedges' : row.get? (d.nodeVariable ++ "_" ++ key ++ "_edges") = some (.arr edges) := hedges
  simp only [hmany, relatedMany, hshuffled, hedges', Option.bind_some, Value.items?, Option.getD_some,
    funext (relatedItem_of_perm h hperm)]

/-- A row has the entity that its node and its relationships make up, whatever shapes the nodes have. Edges to different
nodes may come in any order: only a relationship that is looked up in the same column can tell. -/
theorem entity_nests_related {v : Value} {members : List (String × Value)} (hnode : row.get? d.nodeVariable = some v)
    (hv : Delivers members v) :
    ∃ entity : Dict Value, entityOf d row = .ok (.ofDict entity) ∧ Nests d row members entity ∧
      ∀ (key : String) (r : Relationship) (edges shuffled : List Value), d.relationships.get? key = some r →
        r.cardinality = .many → row.get? (edgesColumn d key) = some (.arr edges) → Distinct edges →
        edges.Perm shuffled →
        ∃ entity' : Dict Value,
          entityOf d (row.insert (edgesColumn d key) (.arr shuffled)) = .ok (.ofDict entity') ∧
          ∀ other, (∀ r', d.relationships.get? other = some r' → other ≠ key →
            edgesColumn d key ∉ columnsAt (d.nodeVariable ++ "_" ++ other) r') →
            entity'.get? other = entity.get? other := by
  refine ⟨_, entityOf_of_delivers hnode hv, nests_membersOf members, ?_⟩
  intro key r edges shuffled hr hmany hedges hdistinct hperm
  have hnode' : (row.insert (edgesColumn d key) (.arr shuffled)).get? d.nodeVariable = some v := by
    rw [edgesColumn_eq, Dict.get?_insert, if_neg (Text.joined_twice_ne _ _ _).symm, hnode]
  refine ⟨_, entityOf_of_delivers hnode' hv, fun other hother => ?_⟩
  have hrelated : ∀ r', d.relationships.get? other = some r' →
      related? (row.insert (edgesColumn d key) (.arr shuffled)) (d.nodeVariable ++ "_" ++ other) r' =
        related? row (d.nodeVariable ++ "_" ++ other) r' := by
    intro r' hr'
    by_cases hkey : other = key
    · subst hkey
      rw [hr'] at hr
      cases hr
      exact related?_of_perm hmany hedges hdistinct hperm
    · refine related?_congr fun column hcolumn => ?_
      rw [Dict.get?_insert, if_neg]
      rintro rfl
      exact hother r' hr' hkey hcolumn
  rw [get?_membersOf, get?_membersOf, Option.bind_congr hrelated]

theorem distinct_pair {e e' : Value × Value} (h : e.1.same e'.1 = false) : Distinct [edgeItem e, edgeItem e'] := by
  refine List.pairwise_pair.2 fun id id' hid hid' => ?_
  rw [relatedId_edgeItem] at hid hid'
  rwa [← Option.some.inj hid, ← Option.some.inj hid']

/-- A row for a wrapped article with an author and two tags. -/
def wrappedArticleRow : Row :=
  articleRow (wrapped ["Article"] (idOnly "a1")) (.ofDict (idOnly "u1"))
    [.ofDict (idOnly "t1"), .null, .ofDict (idOnly "t2")]

/-- An article whose edges to its tags may be reversed. -/
theorem article_nests_related :
    ∃ entity : Dict Value, entityOf signedArticles wrappedArticleRow = .ok (.ofDict entity) ∧
      Nests signedArticles wrappedArticleRow (idOnly "a1").toList entity ∧
      ∃ entity' : Dict Value,
        entityOf signedArticles (wrappedArticleRow.insert (edgesColumn signedArticles "tags") (.arr tagEdges.reverse)) =
          .ok (.ofDict entity') ∧
        ∀ key, entity'.get? key = entity.get? key := by
  have hnode : wrappedArticleRow.get? signedArticles.nodeVariable = some (wrapped ["Article"] (idOnly "a1")) := rfl
  have hdistinct : Distinct tagEdges := distinct_pair (by simp [Value.same])
  obtain ⟨entity, hentity, hnests, hreorder⟩ := entity_nests_related hnode (delivers_wrapped ["Article"] (idOnly "a1"))
  obtain ⟨entity', hentity', hsame⟩ :=
    hreorder "tags" _ tagEdges tagEdges.reverse rfl rfl rfl hdistinct (List.reverse_perm tagEdges).symm
  refine ⟨entity, hentity, hnests, entity', hentity', fun key => hsame key fun r' hr' hkey => ?_⟩
  rcases List.mem_cons.1 (Dict.mem_of_get? hr') with hauthor | htags
  · cases hauthor
    decide
  · cases List.mem_singleton.1 htags
    exact absurd rfl hkey

/-- Articles with a relationship that is named like the column of another one's edges. -/
def markedArticles : Descriptor :=
  ((Descriptor.base "Article" "article").withRelationship "tags"
    ⟨"TAGGED", .outgoing, .many, false, "Tag", [], none, none⟩).withRelationship "tags_edges"
    ⟨"MARKED", .outgoing, .many, false, "Tag", [], none, none⟩

/-- A plain node with the members of a wrapped one loses its properties, and edges in another order change the entity of
a descriptor whose relationships share a column. -/
theorem not_entity_nests_related :
    (¬∀ (d : Descriptor) (row : Row) (p : Dict Value), d.validate = .ok () →
      row.get? d.nodeVariable = some (.ofDict p) →
        ∃ entity : Dict Value, entityOf d row = .ok (.ofDict entity) ∧
          ∀ key, d.relationships.get? key = none → entity.get? key = p.get? key) ∧
    ¬∀ (d : Descriptor) (row : Row) (members : List (String × Value)) (v : Value) (key : String) (r : Relationship)
      (edges shuffled : List Value), d.validate = .ok () → row.get? d.nodeVariable = some v → Delivers members v →
        d.relationships.get? key = some r → r.cardinality = .many →
        row.get? (edgesColumn d key) = some (.arr edges) → Distinct edges → edges.Perm shuffled →
        entityOf d (row.insert (edgesColumn d key) (.arr shuffled)) = entityOf d row := by
  constructor
  · intro h
    obtain ⟨entity, hentity, hown⟩ := h drafts (Dict.ofList [("draft", .object [("id", .str "d2"),
      ("labels", .ofStrings []), ("properties", .emptyObject)])])
      (Dict.ofList [("id", .str "d2"), ("labels", .ofStrings []), ("properties", .emptyObject)]) rfl rfl
    have hid : entity.get? "id" = some (.str "d2") := hown "id" rfl
    have hnone : entity.get? "id" = none := congrArg
      (fun e : Result Value => e.toOption.bind (fun v => v.member? "id")) hentity.symm
    rw [hid] at hnone
    cases hnone
  · intro h
    have hrow := h markedArticles (Dict.ofList [("article", wrapped ["Article"] (idOnly "a1")),
      ("article_tags", .arr [.ofDict (idOnly "t1"), .ofDict (idOnly "t2")]),
      ("article_tags_edges", .arr tagEdges)]) (idOnly "a1").toList _ "tags" _ tagEdges tagEdges.reverse rfl rfl
        (delivers_wrapped ["Article"] (idOnly "a1")) rfl rfl rfl (distinct_pair (by simp [Value.same]))
        (List.reverse_perm tagEdges).symm
    have hfirst : some "t1" = some "t2" := congrArg (fun e => ((((e.toOption.bind
      (fun v => v.member? "tags_edges")).bind (fun v => v.items?)).bind List.head?).bind
        (fun v => v.member? "relatedId")).bind (fun v => v.string?)) hrow
    exact absurd hfirst (by decide)

end EntityGraph.Repository
