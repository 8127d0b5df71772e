import EntityGraph.Compile.Scope

/-!
# Referential integrity

The ids that a relationship's input names, the statement that looks all of them up at once, and the references
that its rows report as missing.
-/
namespace EntityGraph.Compile

open Cypher
open Json (Value)

/-- The id that a value names: the value itself, or the `id` member of an object. -/
def usableId? (value : Value) : Option String :=
  let id := match value with
    | .str id => some id
    | v => (v.member? "id").bind Value.string?
  id.filter (fun s => s ≠ "")

/-- The id that a value names, or the failure that it names none. -/
def singleId (relationship : String) (value : Value) : Result String :=
  match usableId? value with
  | some id => .ok id
  | none => refuse (.unusableIds relationship value)

/-- Appends an id that is not in the list yet. -/
def addId (ids : List String) (id : String) : List String := if ids.contains id then ids else ids ++ [id]

/-- The different ids that a relationship's input names, in the order of their first occurrence. -/
def relatedIds (relationship : String) (value : Value) : Result (List String) :=
  match value with
  | .null => .ok []
  | .arr items =>
    (items.filter (fun v => !v.isNull)).foldlM
      (fun ids v => (singleId relationship v).map (addId ids)) []
  | v => (singleId relationship v).map (fun id => [id])

/-- A reference as a parameter value. -/
def referenceValue (r : Reference) : Value :=
  .object [("relationship", .str r.relationship), ("label", .str r.label), ("id", .str r.id)]

/-- The statement that says of every reference whether its node exists. There is none without references. -/
def Compiler.relatedExistence (c : Compiler) (refs : List Reference) : Result (Option Statement) :=
  if refs.isEmpty then .ok none
  else
    let b := (Builder.forEntity c.label none).bind "relatedRefs" (.arr (refs.map referenceValue))
    let b := b.unwind (.param "relatedRefs") "ref"
    let b := b.matching (.node ⟨some "related", none, [("id", .prop "ref" "id")]⟩) true
    let b := b.filter (.inLabels (.prop "ref" "label") "related")
    let b := b.returning
      [.expr (.prop "ref" "relationship") "relationship", .expr (.prop "ref" "id") "id",
        .expr (.prop "ref" "label") "label", .expr (.truth (.isNotNull (.var "related"))) "found"] []
    b.build.map some

/-- A text column of a row. -/
def Row.text (row : Row) (column : String) : Result String :=
  match (row.get? column).bind Value.string? with
  | some s => .ok s
  | none => .error (.mapping (.existenceWithout column))

/-- The reference that a row reports as missing, if it does. -/
def Row.missing? (row : Row) : Result (Option Reference) :=
  match (row.get? "found").bind Value.bool? with
  | none => .error (.mapping (.existenceWithout "found"))
  | some true => .ok none
  | some false => do
    let relationship ← Row.text row "relationship"
    let label ← Row.text row "label"
    let id ← Row.text row "id"
    .ok (some ⟨relationship, label, id⟩)

/-- The references that rows report as missing, in their order. -/
def missingReferences : List Row → Result (List Reference)
  | [] => .ok []
  | row :: rest => do
    let missing ← Row.missing? row
    let others ← missingReferences rest
    .ok (missing.toList ++ others)

end EntityGraph.Compile
