import EntityGraph.Json.Value

/-!
# Property graphs

A property graph has vertices with labels and arcs with a type; both carry properties, where an absent property
reads as null. Around the graph a database adds what statements leave to it: how values compare, its functions and
its procedures.
-/
namespace EntityGraph.Graph

/-- A value that a statement computes with. Vertices and arcs are values by their ids. -/
inductive Val where
  | null
  | bool (b : Bool)
  | int (n : Int)
  | double (x : Float)
  | text (s : String)
  | list (items : List Val)
  | map (entries : List (String × Val))
  | vertex (id : Nat)
  | arc (id : Nat)
  deriving Repr, Inhabited

namespace Val

mutual
/-- A parameter's value inside a statement. -/
def ofJson : Json.Value → Val
  | .null => null
  | .bool b => bool b
  | .num (.int n) => int n
  | .num (.double x) => double x
  | .str s => text s
  | .arr items => list (ofItems items)
  | .obj members => map (ofMembers members)
def ofItems : List Json.Value → List Val
  | [] => []
  | v :: rest => ofJson v :: ofItems rest
def ofMembers : List (String × Json.Value) → List (String × Val)
  | [] => []
  | (k, v) :: rest => (k, ofJson v) :: ofMembers rest
end

def isNull : Val → Bool
  | null => true
  | _ => false

/-- Whether two values are the same vertex or the same arc. -/
def sameElement : Val → Val → Bool
  | vertex a, vertex b => a == b
  | arc a, arc b => a == b
  | _, _ => false

/-- The vertex that a value is. -/
def vertex? : Val → Option Nat
  | vertex id => some id
  | _ => none

/-- The first item of a list. -/
def head : Val → Val
  | list (v :: _) => v
  | _ => null

/-- The entry of a map under a text. -/
def entry (m key : Val) : Val :=
  match m, key with
  | map entries, text k => (entries.lookup k).getD null
  | _, _ => null

/-- The keys of a map. -/
def keys : Val → Val
  | map entries => list (entries.map (fun e => text e.1))
  | _ => null

theorem head_list (items : List Val) : (list items).head = items.head?.getD null := by
  cases items <;> rfl

theorem isNull_iff {v : Val} : v.isNull = true ↔ v = null := by
  cases v <;> simp [isNull]

@[simp] theorem sameElement_vertex (v : Val) (id : Nat) : v.sameElement (vertex id) = true ↔ v = vertex id := by
  cases v <;> simp [sameElement]

@[simp] theorem ofJson_str (s : String) : ofJson (.str s) = text s := by
  simp only [ofJson]

theorem ofJson_ofStrings (items : List String) : ofJson (.ofStrings items) = list (items.map text) := by
  have hitems : ofItems (items.map Json.Value.str) = items.map text := by
    induction items with
    | nil => simp only [List.map_nil, ofItems]
    | cons s rest ih => simp only [List.map_cons, ofItems, ih, ofJson_str]
  simp only [Json.Value.ofStrings, ofJson, hitems]

/-! ## Sameness -/

mutual
/-- Whether two values are the same, item by item. -/
def same : Val → Val → Bool
  | null, null => true
  | bool a, bool b => a == b
  | int a, int b => a == b
  | double a, double b => a.toBits == b.toBits
  | text a, text b => a == b
  | list us, list vs => sameItems us vs
  | map us, map vs => sameEntries us vs
  | vertex a, vertex b => a == b
  | arc a, arc b => a == b
  | _, _ => false
def sameItems : List Val → List Val → Bool
  | [], [] => true
  | u :: us, v :: vs => same u v && sameItems us vs
  | _, _ => false
def sameEntries : List (String × Val) → List (String × Val) → Bool
  | [], [] => true
  | (k, u) :: us, (l, v) :: vs => k == l && same u v && sameEntries us vs
  | _, _ => false
end

mutual
theorem same_refl : (v : Val) → same v v = true
  | null => by simp only [same]
  | bool _ => by simp only [same, beq_self_eq_true]
  | int _ => by simp only [same, beq_self_eq_true]
  | double _ => by simp only [same, beq_self_eq_true]
  | text _ => by simp only [same, beq_self_eq_true]
  | list items => by simp only [same, sameItems_refl items]
  | map entries => by simp only [same, sameEntries_refl entries]
  | vertex _ => by simp only [same, beq_self_eq_true]
  | arc _ => by simp only [same, beq_self_eq_true]
theorem sameItems_refl : (items : List Val) → sameItems items items = true
  | [] => by simp only [sameItems]
  | v :: rest => by simp only [sameItems, same_refl v, sameItems_refl rest, Bool.and_self]
theorem sameEntries_refl : (entries : List (String × Val)) → sameEntries entries entries = true
  | [] => by simp only [sameEntries]
  | (_, v) :: rest => by
    simp only [sameEntries, same_refl v, sameEntries_refl rest, beq_self_eq_true, Bool.and_self]
end

theorem same_text {v : Val} {s : String} : v.same (text s) = true ↔ v = text s := by
  cases v <;> simp [same]
end Val

/-- A vertex with its labels and properties. -/
structure Vertex where
  id : Nat
  labels : List String
  props : Dict Val

/-- An arc of a type between two vertices. -/
structure Arc where
  id : Nat
  type : String
  source : Nat
  target : Nat
  props : Dict Val

/-- A property of a vertex. -/
def Vertex.prop (v : Vertex) (key : String) : Val := (v.props.get? key).getD .null

/-- A property of an arc. -/
def Arc.prop (a : Arc) (key : String) : Val := (a.props.get? key).getD .null

/-- Of elements with different keys only one has the key of a member. -/
theorem filter_eq_singleton {α : Type} {key : α → Nat} {items : List α} (hnodup : (items.map key).Nodup)
    {a : α} (h : a ∈ items) : items.filter (fun b => key b = key a) = [a] := by
  induction items with
  | nil => cases h
  | cons b rest ih =>
    rw [List.map_cons, List.nodup_cons] at hnodup
    rcases List.mem_cons.1 h with rfl | h
    · have hrest : rest.filter (fun b => key b = key a) = [] := by
        rw [List.filter_eq_nil_iff]
        intro b hb heq
        exact hnodup.1 (List.mem_map.2 ⟨b, hb, by simpa using heq⟩)
      simp [hrest]
    · have hne : key b ≠ key a := fun heq => hnodup.1 (List.mem_map.2 ⟨a, h, heq.symm⟩)
      simp only [List.filter_cons, hne, decide_false, Bool.false_eq_true, if_false]
      exact ih hnodup.2 h

/-- A finite property graph. -/
structure PropertyGraph where
  vertices : List Vertex
  arcs : List Arc
  vertices_nodup : (vertices.map Vertex.id).Nodup
  arcs_nodup : (arcs.map Arc.id).Nodup
  /-- Arcs join vertices of the graph. -/
  closed : ∀ a ∈ arcs, a.source ∈ vertices.map Vertex.id ∧ a.target ∈ vertices.map Vertex.id

namespace PropertyGraph

variable (g : PropertyGraph)

/-- The vertices with an id, of which there is one at most. -/
def withId (id : Nat) : List Vertex := g.vertices.filter (fun v => v.id = id)

theorem withId_of_mem {v : Vertex} (h : v ∈ g.vertices) : g.withId v.id = [v] :=
  filter_eq_singleton g.vertices_nodup h

theorem eq_of_id_eq {v u : Vertex} (hv : v ∈ g.vertices) (hu : u ∈ g.vertices) (h : v.id = u.id) : v = u := by
  have hlist := g.withId_of_mem hv
  rw [h, g.withId_of_mem hu] at hlist
  simpa using hlist.symm

theorem mem_withId {v : Vertex} {id : Nat} : v ∈ g.withId id ↔ v ∈ g.vertices ∧ v.id = id := by
  simp [withId]

/-- The property of an element under a key. Maps answer like elements, and everything else with null. -/
def property (v : Val) (key : String) : Val :=
  match v with
  | .vertex id => ((g.vertices.find? (fun u => u.id = id)).map (fun u => u.prop key)).getD .null
  | .arc id => ((g.arcs.find? (fun a => a.id = id)).map (fun a => a.prop key)).getD .null
  | .map entries => (entries.lookup key).getD .null
  | _ => .null

/-- The labels of a vertex. -/
def labels (v : Val) : Option (List String) :=
  match v with
  | .vertex id => (g.vertices.find? (fun u => u.id = id)).map Vertex.labels
  | _ => none

theorem find?_vertex {v : Vertex} (h : v ∈ g.vertices) : g.vertices.find? (fun u => u.id = v.id) = some v := by
  rw [← List.head?_filter, filter_eq_singleton g.vertices_nodup h]
  rfl

theorem find?_arc {a : Arc} (h : a ∈ g.arcs) : g.arcs.find? (fun b => b.id = a.id) = some a := by
  rw [← List.head?_filter, filter_eq_singleton g.arcs_nodup h]
  rfl

theorem property_vertex {v : Vertex} (h : v ∈ g.vertices) (key : String) :
    g.property (.vertex v.id) key = v.prop key := by
  simp only [property, g.find?_vertex h, Option.map_some, Option.getD_some]

theorem property_arc {a : Arc} (h : a ∈ g.arcs) (key : String) : g.property (.arc a.id) key = a.prop key := by
  simp only [property, g.find?_arc h, Option.map_some, Option.getD_some]

@[simp] theorem property_null (key : String) : g.property .null key = .null := rfl

theorem labels_vertex {v : Vertex} (h : v ∈ g.vertices) : g.labels (.vertex v.id) = some v.labels := by
  simp only [labels, g.find?_vertex h, Option.map_some]

theorem eq_vertex_of_labels {u : Val} {labels : List String} (h : g.labels u = some labels) :
    ∃ v ∈ g.vertices, u = .vertex v.id ∧ v.labels = labels := by
  cases u with
  | vertex id =>
    obtain ⟨v, hfound, hlabels⟩ := Option.map_eq_some_iff.1 h
    have hid := List.find?_some hfound
    exact ⟨v, List.mem_of_find?_eq_some hfound, by rw [← of_decide_eq_true hid], hlabels⟩
  | _ => cases h

end PropertyGraph

/-- A graph with what statements leave to the database that holds it. -/
structure Database where
  graph : PropertyGraph
  /-- The rows that a procedure yields, by column. -/
  procedure : String → List Val → List (List (String × Val))
  /-- The functions without a meaning here, such as those on dates. -/
  function : String → List Val → Val
  /-- Equality, which may be unknown. -/
  equal : Val → Val → Option Bool
  /-- Comparison, which may be unknown. -/
  greater : Val → Val → Option Bool
  /-- Whether a value does not come after another one in an ordering. -/
  precedes : Val → Val → Bool
  /-- Whether two values count as one where duplicates are dropped and rows are grouped. -/
  alike : Val → Val → Bool
  alike_refl : ∀ v, alike v v = true
  alike_vertex : ∀ a b, alike (.vertex a) (.vertex b) = true → a = b

/-- A graph on its own: nothing is indexed, and values are equal if they are the same, which is unknown of null. -/
def Database.ofGraph (g : PropertyGraph) : Database where
  graph := g
  procedure := fun _ _ => []
  function := fun _ _ => .null
  equal := fun u v => if u.isNull || v.isNull then none else some (u.same v)
  greater := fun _ _ => none
  precedes := fun _ _ => true
  alike := Val.same
  alike_refl := Val.same_refl
  alike_vertex := fun a b h => by simpa [Val.same] using h

end EntityGraph.Graph
