import EntityGraph.Document.Basic
import EntityGraph.Error
import EntityGraph.Json.Part
import EntityGraph.Json.Printer

/-!
# Related values

The ids that values stand for, and the entities that are found inside an entity under the name of a
relationship.
-/
namespace EntityGraph.Document

open Json (Value Part)

/-- The id that a value stands for: a text that is not empty, a number, or what the `id` member stands for. -/
def idText? (v : Value) : Option String :=
  match v with
  | .str s => if s = "" then none else some s
  | .num n => some n.text
  | .obj members => (Part.member? (.obj members) "id").bind (fun p => idText? p.val)
  | _ => none
termination_by sizeOf v
decreasing_by exact p.property

/-- The linkage to resources of a type with given ids. -/
def linkage (name type : String) (ids : Value) : Result Linkage :=
  let target (v : Value) : Result Identifier :=
    match idText? v with
    | some id => .ok ⟨type, id⟩
    | none => .error (.mapping (.unusableLinkage name v))
  match ids with
  | .null => .ok (.one none)
  | .arr items => (items.mapM target).map .many
  | v => (target v).map (fun t => .one (some t))

/-- Splits a name at its first double underscore. -/
def splitJoin : List Char → Option (List Char × List Char)
  | '_' :: '_' :: rest => some ([], rest)
  | c :: rest => (splitJoin rest).map (fun s => (c :: s.1, s.2))
  | [] => none

/-- Entities found inside an entity: at most one, or a list. -/
inductive Related (entity : Value) where
  | one (item : Option (Part entity))
  | many (items : List (Part entity))

/-- The entities found under `target` in the items of the list `join`. -/
def joined? (entity : Value) (join target : String) : Option (List (Part entity)) := do
  let list ← Part.member? entity join
  let items ← Part.items? list.val
  let rows := items.map list.trans
  some (rows.filterMap (fun row =>
    ((Part.member? row.val target).filter (fun p => p.val.members?.isSome)).map row.trans))

/-- What is found under a name itself. Nulls in a list do not count. -/
def direct? (entity : Value) (name : String) : Option (Related entity) :=
  (Part.member? entity name).map (fun p =>
    if p.val.isNull then .one none
    else
      match Part.items? p.val with
      | some items => .many ((items.filter (fun q => !q.val.isNull)).map p.trans)
      | none => .one (some p))

/-- The entities found under the name of a relationship. A name of the form `join__target` reads the list `join`
where there is one. -/
def related? (entity : Value) (name : String) : Option (Related entity) :=
  let joined := (splitJoin name.toList).bind (fun s => joined? entity (String.ofList s.1) (String.ofList s.2))
  match joined with
  | some items => some (.many items)
  | none => direct? entity name

end EntityGraph.Document
