import EntityGraph.Proofs.Statements.Scoping
import Mathlib.Data.List.Nodup
import Mathlib.Data.List.Pairwise

/-!
# When the names of a read meet

A read joins its names from the node variable, the names of relationships and suffixes with underscores, and next to
them it uses a few fixed variables. Nothing keeps these names apart: that is up to the descriptor. Here is what exactly
it takes for them to be different.
-/
namespace EntityGraph.Cypher

/-- The variables and columns that clauses introduce. -/
def introduced (ks : List Clause) : List String := ks.flatMap (Clause.scope [])

/-- The columns of the result. -/
def Statement.columns (s : Statement) : List String :=
  match s.clauses.getLast? with
  | some (.returning columns _ _) => columns.map Column.name
  | _ => []

@[simp] theorem introduced_nil : introduced [] = [] := rfl

@[simp] theorem introduced_cons (k : Clause) (ks : List Clause) : introduced (k :: ks) = k.scope [] ++ introduced ks :=
  List.flatMap_cons

@[simp] theorem introduced_append (ks ks' : List Clause) : introduced (ks ++ ks') = introduced ks ++ introduced ks' :=
  List.flatMap_append

end EntityGraph.Cypher

namespace EntityGraph.Compile

open Cypher
open Schema (Relationship)

/-! ## Names joined with underscores -/

/-- What the names of a relationship end in behind the node variable: its own name, alone and with each suffix. -/
def endings (suffixes : Relationship → List String) (e : String × Relationship) : List String :=
  e.1 :: (suffixes e.2).map (fun s => e.1 ++ "_" ++ s)

/-- The names of relationships with their suffixes do not meet: a relationship has each suffix once, none is named
like another one with a suffix, and no two have the same name with suffixes of theirs. -/
structure Apart (links : List (String × Relationship)) (suffixes : Relationship → List String) : Prop where
  own : ∀ e ∈ links, (suffixes e.2).Nodup
  plain : ∀ e ∈ links, ∀ s ∈ suffixes e.2, ∀ e' ∈ links, e'.1 ≠ e.1 ++ "_" ++ s
  suffixed : ∀ e ∈ links, ∀ e' ∈ links, e.1 ≠ e'.1 → ∀ s ∈ suffixes e.2, ∀ s' ∈ suffixes e'.2,
    e.1 ++ "_" ++ s ≠ e'.1 ++ "_" ++ s'

theorem nodup_endings_iff {links : List (String × Relationship)} {suffixes : Relationship → List String}
    (hkeys : (links.map Prod.fst).Nodup) : (links.flatMap (endings suffixes)).Nodup ↔ Apart links suffixes := by
  have hown (e : String × Relationship) :
      ((suffixes e.2).map (fun s => e.1 ++ "_" ++ s)).Nodup ↔ (suffixes e.2).Nodup :=
    List.nodup_map_iff fun _ _ h => (String.append_right_inj _).1 h
  have hdifferent : ∀ e ∈ links, ∀ e' ∈ links, e ≠ e' → e.1 ≠ e'.1 := fun e he e' he' hne heq =>
    hne (List.inj_on_of_nodup_map hkeys he he' heq)
  rw [List.nodup_flatMap]
  constructor
  · rintro ⟨hself, hpairs⟩
    have hsymm : Std.Symm (Function.onFun List.Disjoint (endings suffixes)) := ⟨fun _ _ h _ hv hv' => h hv' hv⟩
    have hdisjoint : ∀ e ∈ links, ∀ e' ∈ links, e.1 ≠ e'.1 → (endings suffixes e).Disjoint (endings suffixes e') :=
      fun e he e' he' hne => hpairs.forall he he' (fun heq => hne (congrArg Prod.fst heq))
    have hmem {e : String × Relationship} {s : String} (hs : s ∈ suffixes e.2) :
        e.1 ++ "_" ++ s ∈ endings suffixes e := List.mem_cons_of_mem _ (List.mem_map_of_mem hs)
    refine ⟨fun e he => (hown e).1 (List.nodup_cons.1 (hself e he)).2, ?_, ?_⟩
    · intro e he s hs e' he' heq
      by_cases hname : e'.1 = e.1
      · refine (List.nodup_cons.1 (hself e he)).1 ?_
        exact List.mem_map.2 ⟨s, hs, (hname.symm.trans heq).symm⟩
      · exact hdisjoint e' he' e he hname List.mem_cons_self (heq ▸ hmem hs)
    · intro e he e' he' hne s hs s' hs' heq
      exact hdisjoint e he e' he' hne (hmem hs) (heq ▸ hmem hs')
  · intro h
    refine ⟨fun e he => List.nodup_cons.2 ⟨fun hmem => ?_, (hown e).2 (h.own e he)⟩, ?_⟩
    · obtain ⟨s, hs, heq⟩ := List.mem_map.1 hmem
      exact h.plain e he s hs e he heq.symm
    · refine (List.Nodup.of_map _ hkeys).pairwise_of_forall_ne fun e he e' he' hne v hv hv' => ?_
      have hname := hdifferent e he e' he' hne
      rcases List.mem_cons.1 hv with rfl | hv <;> rcases List.mem_cons.1 hv' with hv' | hv'
      · exact hname hv'
      · obtain ⟨s', hs', heq⟩ := List.mem_map.1 hv'
        exact h.plain e' he' s' hs' e he heq.symm
      · obtain ⟨s, hs, heq⟩ := List.mem_map.1 hv
        exact h.plain e he s hs e' he' (hv'.symm.trans heq.symm)
      · obtain ⟨s, hs, heq⟩ := List.mem_map.1 hv
        obtain ⟨s', hs', heq'⟩ := List.mem_map.1 hv'
        exact h.suffixed e he e' he' hname s hs s' hs' (heq.trans heq'.symm)

/-- It is enough that no name goes on from another one with an underscore. -/
theorem apart_of_not_continued {links : List (String × Relationship)} {suffixes : Relationship → List String}
    (hown : ∀ e ∈ links, (suffixes e.2).Nodup)
    (hcontinued : ∀ e ∈ links, ∀ e' ∈ links, ∀ s : String, e'.1 ≠ e.1 ++ "_" ++ s) : Apart links suffixes := by
  refine ⟨hown, fun e he s _ e' he' => hcontinued e he e' he' s, fun e he e' he' hne s _ s' _ heq => ?_⟩
  have hchars : e.1.toList ++ '_' :: s.toList = e'.1.toList ++ '_' :: s'.toList := by
    simpa using congrArg String.toList heq
  -- The longer name starts with the shorter one, and then the underscore behind that comes next.
  have hlonger {a b : String} {cs ds more : List Char} (hb : b.toList = a.toList ++ more)
      (hnext : '_' :: cs = more ++ ds) : a = b ∨ ∃ t : String, b = a ++ "_" ++ t := by
    cases more with
    | nil => exact .inl (String.ext (by simpa using hb.symm))
    | cons ch rest =>
      obtain ⟨rfl, -⟩ := List.cons.inj hnext
      exact .inr ⟨String.ofList rest, String.ext (by simpa using hb)⟩
  rcases List.append_eq_append_iff.1 hchars with ⟨more, hmore, hnext⟩ | ⟨more, hmore, hnext⟩
  · rcases hlonger hmore hnext with heq | ⟨t, ht⟩
    · exact hne heq
    · exact hcontinued e he e' he' t ht
  · rcases hlonger hmore hnext with heq | ⟨t, ht⟩
    · exact hne heq.symm
    · exact hcontinued e' he' e he t ht

/-- The suffixes that the names of a relationship have in a read: of the edge and its properties, or of the edge and the
list of all edges. -/
def nameSuffixes (r : Relationship) : List String :=
  if r.fields.isEmpty then []
  else "relationship" ::
    match r.cardinality with
    | .one => r.fields.map (fun f => f.name)
    | .many => ["edges"]

/-- The suffixes that the columns of a relationship have. -/
def columnSuffixes (r : Relationship) : List String :=
  match r.cardinality with
  | .one => r.fields.map (fun f => f.name)
  | .many => if r.fields.isEmpty then [] else ["edges"]

/-- Whether candidates are found by an index. -/
def Source.isIndex : Source → Bool
  | .label => false
  | .index _ _ => true

/-- Whether an operation reads entities together with their relationships. -/
def Operation.isRead : Operation → Bool
  | .find _ => true
  | .findByRelated _ _ _ => true
  | .findById _ => true
  | .findSimilar _ _ => true
  | _ => false

/-- Whether an operation looks at the nodes that a relationship leads to before it reads. -/
def Operation.isLinked : Operation → Bool
  | .findByRelated _ _ _ => true
  | _ => false

namespace Compiler

variable (c : Compiler)

/-- Whether an operation finds its candidates by an index, which scores them. -/
def isScored : Operation → Bool
  | .find criteria => (c.termSource? criteria).isSome
  | .findByRelated _ _ criteria => (c.termSource? criteria).isSome
  | .findSimilar _ _ => true
  | _ => false

/-- The fixed variables that the statement of an operation uses. -/
def helpers (caller : Caller) (op : Operation) : List String :=
  (if isTied (c.scope caller) then [tenantVar] else []) ++ (if c.isScored op then [scoreVar] else []) ++
    (if op.isLinked then ["related"] else [])

/-- The names that the statement of an operation uses in different roles. -/
def roleNames (caller : Caller) (op : Operation) : List String :=
  c.node :: (c.helpers caller op ++ c.links.flatMap (fun e => c.linkNames e.1 e.2))

/-- For a list, these are the names that it needs to be different. -/
theorem roleNames_operation (caller : Caller) (l : Listing) : c.roleNames caller l.operation = c.listNames caller l := by
  obtain ⟨criteria, related⟩ := l
  cases related <;> simp [roleNames, helpers, listNames, Listing.operation, isScored, Operation.isLinked] <;> rfl

/-! ## Which names are different -/

theorem linkNames_eq (e : String × Relationship) :
    c.linkNames e.1 e.2 = (endings nameSuffixes e).map (fun ending => c.node ++ "_" ++ ending) := by
  have hedge : c.edgeVar e.1 = c.node ++ "_" ++ (e.1 ++ "_" ++ "relationship") := by
    simp [edgeVar, targetVar, String.append_assoc]
  have hedges : c.edgesVar e.1 = c.node ++ "_" ++ (e.1 ++ "_" ++ "edges") := by
    simp [edgesVar, targetVar, String.append_assoc]
  cases hfields : e.2.fields.isEmpty <;> cases hcard : e.2.cardinality <;>
    simp [linkNames, endings, nameSuffixes, hfields, hcard, hedge, hedges, targetVar, edgeColumn, String.append_assoc]

theorem names_resultColumns :
    c.resultColumns.map Column.name =
      c.node :: (c.links.flatMap (endings columnSuffixes)).map (fun ending => c.node ++ "_" ++ ending) := by
  have hcolumns (e : String × Relationship) :
      (c.columnsBy e.1 e.2).map Column.name =
        (endings columnSuffixes e).map (fun ending => c.node ++ "_" ++ ending) := by
    cases hfields : e.2.fields.isEmpty <;> cases hcard : e.2.cardinality <;>
      simp [columnsBy, boundBy, edgeVars, endings, columnSuffixes, hfields, hcard, targetVar, edgesVar, edgeColumn, String.append_assoc]
  rw [resultColumns, List.map_cons, List.map_flatMap, List.map_flatMap]
  simp only [hcolumns]
  rfl

theorem nodup_joined_iff (suffixes : Relationship → List String) :
    (c.node :: (c.links.flatMap (endings suffixes)).map (fun ending => c.node ++ "_" ++ ending)).Nodup ↔
      Apart c.links suffixes := by
  have hnode : c.node ∉ (c.links.flatMap (endings suffixes)).map (fun ending => c.node ++ "_" ++ ending) := by
    intro hmem
    obtain ⟨ending, -, heq⟩ := List.mem_map.1 hmem
    exact Text.joined_ne c.node ending heq
  have hkeys : (c.links.map Prod.fst).Nodup := keys_nodup c.descriptor.relationships
  rw [List.nodup_cons, and_iff_right hnode, List.nodup_map_iff fun _ _ h => (String.append_right_inj _).1 h,
    nodup_endings_iff hkeys]

theorem helpers_sublist (caller : Caller) (op : Operation) :
    (c.helpers caller op).Sublist ([tenantVar] ++ [scoreVar] ++ ["related"]) := by
  have hif (used : Bool) (v : String) : (if used then [v] else []).Sublist [v] := by cases used <;> simp
  exact ((hif _ _).append (hif _ _)).append (hif _ _)

/-- The fixed variables have no underscore, unlike all names that are joined. -/
theorem joined_not_mem_helpers (caller : Caller) (op : Operation) (ending : String) :
    c.node ++ "_" ++ ending ∉ c.helpers caller op := by
  have hplain : ∀ v ∈ [tenantVar] ++ [scoreVar] ++ ["related"], '_' ∉ v.toList := by decide
  intro hmem
  exact hplain _ ((c.helpers_sublist caller op).subset hmem) (by simp)

theorem nodup_roleNames_iff (caller : Caller) (op : Operation) :
    (c.roleNames caller op).Nodup ↔ c.node ∉ c.helpers caller op ∧ Apart c.links nameSuffixes := by
  have hlinks : c.links.flatMap (fun e => c.linkNames e.1 e.2) =
      (c.links.flatMap (endings nameSuffixes)).map (fun ending => c.node ++ "_" ++ ending) := by
    rw [List.map_flatMap]
    exact congrArg (c.links.flatMap ·) (funext c.linkNames_eq)
  have hdisjoint : ∀ v ∈ c.helpers caller op,
      ∀ u ∈ (c.links.flatMap (endings nameSuffixes)).map (fun ending => c.node ++ "_" ++ ending), v ≠ u := by
    rintro v hv u hu rfl
    obtain ⟨ending, -, rfl⟩ := List.mem_map.1 hu
    exact c.joined_not_mem_helpers caller op ending hv
  rw [roleNames, hlinks, ← c.nodup_joined_iff nameSuffixes, List.nodup_cons, List.nodup_cons, List.mem_append, not_or,
    List.nodup_append]
  constructor
  · rintro ⟨⟨hhelpers, hnode⟩, -, hjoined, -⟩
    exact ⟨hhelpers, hnode, hjoined⟩
  · rintro ⟨hhelpers, hnode, hjoined⟩
    exact ⟨⟨hhelpers, hnode⟩, (c.helpers_sublist caller op).nodup (by decide), hjoined, hdisjoint⟩

/-- What a list needs of its names is up to the descriptor and the fixed variables. -/
theorem nodup_listNames_iff (caller : Caller) (l : Listing) :
    (c.listNames caller l).Nodup ↔ c.node ∉ c.helpers caller l.operation ∧ Apart c.links nameSuffixes := by
  rw [← c.roleNames_operation, c.nodup_roleNames_iff]

/-! ## The names of a statement -/

variable {c}

/-- The fixed variables that a read starts with, among them that of the tenant. -/
theorem mem_introduced_opening (tied : Bool) (source : Source) {v : String} :
    v ∈ introduced (c.openingInit tied source ++ [c.openingLast tied source]) ↔
      v ∈ c.sourceVars source ∨ tied = true ∧ v = tenantVar ∨ source.isIndex = true ∧ v = "node" := by
  cases source <;> cases tied <;>
    simp [openingInit, openingLast, hitClause, sourceVars, Source.isIndex, Clause.matching, Clause.scope, membership, tenantNode] <;> grind

/-- What one traversal and its columns introduce besides the entity and what is carried. -/
theorem mem_linkNames_iff {name : String} {r : Relationship} {v : String} :
    v ∈ c.linkNames name r ↔
      v = c.targetVar name ∨ r.fields.isEmpty = false ∧ v = c.edgeVar name ∨ v ∈ c.boundBy name r ∨
        v ∈ (c.columnsBy name r).map Column.name := by
  cases hfields : r.fields <;> cases hcard : r.cardinality <;>
    simp [linkNames, boundBy, edgeVars, columnsBy, hfields, hcard] <;> grind

theorem mem_introduced_traversals {bound : List String} {links : List (String × Relationship)} {v : String} :
    v ∈ introduced (c.traversals bound links) ↔
      links ≠ [] ∧ (v ∈ bound ∨ v = c.node) ∨
        ∃ e ∈ links, v = c.targetVar e.1 ∨ e.2.fields.isEmpty = false ∧ v = c.edgeVar e.1 ∨ v ∈ c.boundBy e.1 e.2 := by
  induction links generalizing bound with
  | nil => simp [traversals]
  | cons e rest ih =>
    have hmatch : v ∈ (c.traversalMatch e.1 e.2).scope [] ↔
        v = c.node ∨ v = c.targetVar e.1 ∨ e.2.fields.isEmpty = false ∧ v = c.edgeVar e.1 := by
      cases hfields : e.2.fields.isEmpty <;> simp [traversalMatch, Clause.scope, hfields, or_comm]
    have hwith : v ∈ (c.traversalWith bound e.1 e.2).scope [] ↔ v ∈ bound ∨ v ∈ c.boundBy e.1 e.2 := by
      rw [traversalWith, Clause.scope, List.map_append, names_ofVar, names_gathered, List.mem_append]
    rw [traversals, introduced_cons, introduced_cons, List.mem_append, List.mem_append, hmatch, hwith, ih]
    simp only [List.mem_append, List.mem_cons, exists_eq_or_imp]
    grind

/-- Traversals and the result introduce the names of all relationships and nothing else. -/
theorem mem_introduced_tail (hreturn : c.descriptor.returnClause = none) {bound : List String} (hnode : c.node ∈ bound)
    (order : List SortKey) {v : String} :
    v ∈ introduced (c.tail bound order) ∨ v ∈ bound ↔ v ∈ bound ∨ ∃ e ∈ c.links, v ∈ c.linkNames e.1 e.2 := by
  have hcolumns : v ∈ c.resultColumns.map Column.name ↔
      v = c.node ∨ ∃ e ∈ c.links, v ∈ (c.columnsBy e.1 e.2).map Column.name := by
    rw [resultColumns, List.map_cons, List.map_flatMap, List.mem_cons, List.mem_flatMap]
    rfl
  have hresult : introduced [.returning c.resultColumns false order] = c.resultColumns.map Column.name :=
    List.append_nil _
  rw [c.tail_eq hreturn, introduced_append, List.mem_append, mem_introduced_traversals, hresult, hcolumns]
  simp only [mem_linkNames_iff]
  grind

/-- The clauses of a read: an opening with tests, perhaps a look at linked nodes and a page, and the tail. -/
theorem exists_read_clauses {caller : Caller} {op : Operation} {r : Compiled} (hop : op.isRead = true)
    (h : c.compile caller op = .ok r) :
    ∃ source tests middle order, source.isIndex = c.isScored op ∧
      r.main.clauses = c.openingInit (isTied (c.scope caller)) source ++
        (c.openingLast (isTied (c.scope caller)) source).guardedBy tests ::
          (middle ++ c.tail (c.sourceVars source) order) ∧
      ∀ v, v ∈ introduced middle ∨ v ∈ c.sourceVars source ↔
        op.isLinked = true ∧ v = "related" ∨ v ∈ c.sourceVars source := by
  have hlist {l : Listing} (h : c.compile caller l.operation = .ok r) :
      ∃ source tests middle order, source.isIndex = (c.termSource? l.criteria).isSome ∧
        r.main.clauses = c.openingInit (isTied (c.scope caller)) source ++
          (c.openingLast (isTied (c.scope caller)) source).guardedBy tests ::
            (middle ++ c.tail (c.sourceVars source) order) ∧
        ∀ v, v ∈ introduced middle ∨ v ∈ c.sourceVars source ↔
          l.related.isSome = true ∧ v = "related" ∨ v ∈ c.sourceVars source := by
    obtain ⟨scope, order, hscope, hresolved, hmain⟩ := c.listStatement_of_compile h
    have hsource : (c.listSource l.criteria).isIndex = (c.termSource? l.criteria).isSome := by
      unfold listSource
      cases c.termSource? l.criteria <;> rfl
    refine ⟨c.listSource l.criteria, c.listTests l.criteria,
      (((c.resolved l).map Prod.fst).map c.relatedMatch).toList ++
        [c.pageClause l.criteria ((c.resolved l).map Prod.fst) order], order, hsource, ?_, fun v => ?_⟩
    · rw [hmain, hscope, isTied_ok, sourceVars_listSource]
      simp [listStatement, listClauses, candidates]
    · have hpage : introduced [c.pageClause l.criteria ((c.resolved l).map Prod.fst) order] =
          c.sourceVars (c.listSource l.criteria) := by
        rw [sourceVars_listSource, introduced_cons, introduced_nil, List.append_nil, pageClause, Clause.scope,
          names_ofVar]
      have hnode := node_mem_sourceVars (c := c) (c.listSource l.criteria)
      rw [introduced_append, hpage, ← hresolved]
      cases c.resolved l with
      | none => simp
      | some link =>
        simp [relatedMatch, Clause.scope]
        grind
  cases op with
  | find criteria => exact hlist (l := ⟨criteria, none⟩) h
  | findByRelated relationship ids criteria => exact hlist (l := ⟨criteria, some (relationship, ids)⟩) h
  | findById id =>
    obtain ⟨s, hs, rfl⟩ := Result.map_eq_ok_iff.1 h
    obtain ⟨scope, hscope, rfl⟩ := c.findById_outline hs
    rw [hscope, isTied_ok]
    exact ⟨.label, [c.idTest], [], [], rfl, rfl, by simp [Operation.isLinked]⟩
  | findSimilar vector k =>
    obtain ⟨s, hs, rfl⟩ := Result.map_eq_ok_iff.1 h
    obtain ⟨index, scope, -, hscope, rfl⟩ := c.findSimilar_outline hs
    rw [hscope, isTied_ok]
    exact ⟨vectorSource index.name, [], [], scoreKeys, rfl, rfl, by simp [Operation.isLinked]⟩
  | existsUnscoped id => cases hop
  | write mode input => cases hop
  | delete id => cases hop

/-- The names of a read are the names of its roles, and what the index calls its hits. -/
theorem mem_introduced_iff (hreturn : c.descriptor.returnClause = none) {caller : Caller} {op : Operation}
    {r : Compiled} (hop : op.isRead = true) (h : c.compile caller op = .ok r) (v : String) :
    v ∈ introduced r.main.clauses ↔ v ∈ c.roleNames caller op ∨ c.isScored op = true ∧ v = "node" := by
  obtain ⟨source, tests, middle, order, hscored, hclauses, hmiddle⟩ := exists_read_clauses hop h
  have htail := mem_introduced_tail hreturn (node_mem_sourceVars source) order (v := v)
  have hopening := mem_introduced_opening (c := c) (isTied (c.scope caller)) source (v := v)
  have hvars : v ∈ c.sourceVars source ↔ v = c.node ∨ source.isIndex = true ∧ v = scoreVar := by
    cases source <;> simp [sourceVars, Source.isIndex]
  have hhelpers : v ∈ c.helpers caller op ↔ isTied (c.scope caller) = true ∧ v = tenantVar ∨
      c.isScored op = true ∧ v = scoreVar ∨ op.isLinked = true ∧ v = "related" := by
    simp only [helpers, List.mem_append, List.mem_ite_nil_right, List.mem_singleton, or_assoc]
  rw [introduced_append, introduced_cons, introduced_nil, List.append_nil, List.mem_append] at hopening
  rw [hclauses, introduced_append, introduced_cons, introduced_append, Clause.scope_guardedBy, List.mem_append,
    List.mem_append, List.mem_append, ← or_assoc, hopening, roleNames, List.mem_cons, List.mem_append, hhelpers,
    List.mem_flatMap, ← hscored]
  have hlinked := hmiddle v
  clear hclauses hmiddle hopening hhelpers
  grind

theorem columns_eq (hreturn : c.descriptor.returnClause = none) {caller : Caller} {op : Operation} {r : Compiled}
    (hop : op.isRead = true) (h : c.compile caller op = .ok r) :
    r.main.columns = c.resultColumns.map Column.name := by
  obtain ⟨source, tests, middle, order, -, hclauses, -⟩ := exists_read_clauses hop h
  have hlast : r.main.clauses.getLast? = some (.returning c.resultColumns false order) := by
    rw [hclauses, c.tail_eq hreturn]
    simp [List.getLast?_append, List.getLast?_cons]
  rw [Statement.columns, hlast]

/-- The names that a read uses in different roles are the names of its statement. They are all different if and only if
the node variable is none of the fixed variables that the statement uses and the names of relationships are apart, and
the columns of the result are if and only if the relationships with the suffixes of columns are apart. -/
theorem names_differ_iff (hreturn : c.descriptor.returnClause = none) {caller : Caller} {op : Operation}
    {r : Compiled} (hop : op.isRead = true) (h : c.compile caller op = .ok r) :
    (∀ v, v ∈ introduced r.main.clauses ↔ v ∈ c.roleNames caller op ∨ c.isScored op = true ∧ v = "node") ∧
      ((c.roleNames caller op).Nodup ↔ c.node ∉ c.helpers caller op ∧ Apart c.links nameSuffixes) ∧
      (r.main.columns.Nodup ↔ Apart c.links columnSuffixes) := by
  refine ⟨mem_introduced_iff hreturn hop h, c.nodup_roleNames_iff caller op, ?_⟩
  rw [columns_eq hreturn hop h, names_resultColumns]
  exact c.nodup_joined_iff columnSuffixes

/-- Notes of a company that are named like the company, with a name on the edge to the author and another relationship
that is called by both. -/
def notes : Compiler :=
  ⟨((Schema.Descriptor.base "Note" "company").withTenant.withRelationship "author" ⟨"WROTE", .incoming, .one, false, "User",
    [⟨"name", none⟩], none, none⟩).withRelationship "author_name" ⟨"CREDITS", .outgoing, .one, false, "Name", [], none,
      none⟩, default⟩

/-- An accepted descriptor whose names meet: a column of the result appears twice, and the node variable is that of the
tenant. -/
theorem names_of_notes_meet :
    notes.descriptor.validate.toOption = some () ∧ notes.descriptor.returnClause = none ∧
      ∃ r, notes.compile (.member "c1" "u1") (.findById "n1") = .ok r ∧
        r.main.columns = ["company", "company_author", "company_author_name", "company_author_name"] ∧
        ¬r.main.columns.Nodup ∧ notes.node ∈ notes.helpers (.member "c1" "u1") (.findById "n1") := by
  have hcolumns : (notes.compile (.member "c1" "u1") (.findById "n1")).toOption.map (fun r => r.main.columns) =
      some ["company", "company_author", "company_author_name", "company_author_name"] := by decide +kernel
  obtain ⟨r, hr⟩ : ∃ r, notes.compile (.member "c1" "u1") (.findById "n1") = .ok r :=
    Result.isSome_toOption_iff.1 (by decide +kernel)
  rw [hr] at hcolumns
  have heq : r.main.columns = ["company", "company_author", "company_author_name", "company_author_name"] :=
    Option.some.inj hcolumns
  refine ⟨by decide +kernel, rfl, r, hr, heq, ?_, by decide +kernel⟩
  rw [heq]
  decide

/-- The names of a search through the catalogue are different. -/
theorem names_of_catalogue_differ :
    let op : Operation := .findByRelated "books" ["b1"] ⟨some "rust", none, ∅⟩
    op.isRead = true ∧ ∃ r, catalogue.compile (.member "c1" "u1") op = .ok r ∧
      (catalogue.roleNames (.member "c1" "u1") op).Nodup ∧ r.main.columns.Nodup ∧
      ∀ v ∈ introduced r.main.clauses, v ∈ catalogue.roleNames (.member "c1" "u1") op ∨ v = "node" := by
  intro op
  obtain ⟨r, hr⟩ : ∃ r, catalogue.compile (.member "c1" "u1") op = .ok r :=
    Result.isSome_toOption_iff.1 (by decide +kernel)
  obtain ⟨hnames, hroles, hcolumns⟩ := names_differ_iff (c := catalogue) rfl rfl hr
  have hplain : ∀ e ∈ catalogue.links, '_' ∉ e.1.toList := by decide +kernel
  have hcontinued : ∀ e ∈ catalogue.links, ∀ e' ∈ catalogue.links, ∀ s : String, e'.1 ≠ e.1 ++ "_" ++ s := by
    intro e _ e' he' s heq
    exact hplain e' he' (by simp [heq])
  refine ⟨rfl, r, hr, hroles.2 ⟨by decide +kernel, ?_⟩, hcolumns.2 ?_, fun v hv => ((hnames v).1 hv).imp id And.right⟩
  · exact apart_of_not_continued (by decide +kernel) hcontinued
  · exact apart_of_not_continued (by decide +kernel) hcontinued

end Compiler
end EntityGraph.Compile
