import EntityGraph.Json.Value

/-!
# Decoding values

Readers of typed data. A required member must be present; an optional one may be absent or null; one with a
default may be absent but not null. Members that nobody asks for are ignored. A structure may also be a list,
whose items are its members in their order: then the last ones may be absent.
-/
namespace EntityGraph.Json.Decode

/-- A reader of one kind of value. -/
abbrev Reader (α : Type) := Value → Option α

def string : Reader String := Value.string?

def bool : Reader Bool := Value.bool?

/-- A whole number below `2 ^ bits`. -/
def natBelow (bits : Nat) : Reader Nat := fun v => v.nat?.filter (fun n => decide (n < Nat.pow 2 bits))

mutual
/-- The value with null for every double that JSON cannot write. -/
def writable : Value → Value
  | .num (.double x) => .ofDouble x
  | .arr items => .arr (writableItems items)
  | .obj members => .obj (writableMembers members)
  | .null => .null
  | .bool b => .bool b
  | .num (.int n) => .num (.int n)
  | .str s => .str s
def writableItems : List Value → List Value
  | [] => []
  | v :: rest => writable v :: writableItems rest
def writableMembers : List (String × Value) → List (String × Value)
  | [] => []
  | (k, v) :: rest => (k, writable v) :: writableMembers rest
end

/-- Any value that JSON can write. -/
def any : Reader Value := fun v => some (writable v)

/-- A list of items of one kind. -/
def list {α : Type} (item : Reader α) : Reader (List α)
  | .arr items => items.mapM item
  | _ => none

/-- An object whose members are of one kind. -/
def dict {α : Type} (member : Reader α) : Reader (Dict α)
  | .obj members => (members.mapM (fun e : String × Value => (member e.2).map (fun a => (e.1, a)))).map Dict.ofList
  | _ => none

/-- At most one item, or else a list of them. Null is no item, and a list that reads as one item is that item. -/
def oneOrMany {α β : Type} (item : Reader α) (one : Option α → β) (many : List α → β) : Reader β
  | .null => some (one none)
  | v => ((item v).map (fun a => one (some a))).or ((list item v).map many)

/-- What a format decides for itself about values that are otherwise the same. -/
structure Format where
  /-- Contents that carry nothing. -/
  blank : Value → Bool
  /-- Whether a structure may be a list with more items than members. The further ones are ignored. -/
  surplus : Bool

/-- In JSON only null carries nothing, and each item of a structure is one of its members. -/
def Format.json : Format := ⟨Value.isNull, false⟩

/-- One of a list of spellings. An object with the spelling as its only key and a content that carries nothing
is taken too. -/
def choice {α : Type} (format : Format) (spellings : List (String × α)) : Reader α
  | .str s => spellings.lookup s
  | .obj [(s, content)] => if format.blank content then spellings.lookup s else none
  | _ => none

/-- The members of a structure. -/
abbrev Members := List (String × Value)

/-- A structure, read from its members: those of an object, or the items of a list in the order of their keys. -/
def structure? {α : Type} (format : Format) (keys : List String) (read : Members → Option α) : Reader α
  | .obj members => read members
  | .arr items => if items.length ≤ keys.length ∨ format.surplus then read (keys.zip items) else none
  | _ => none

/-- A member that must be present. -/
def member {α : Type} (ms : Members) (key : String) (read : Reader α) : Option α :=
  (ms.lookup key).bind read

/-- A member that may be absent or null. -/
def member? {α : Type} (ms : Members) (key : String) (read : Reader α) : Option (Option α) :=
  match ms.lookup key with
  | none => some none
  | some .null => some none
  | some v => (read v).map some

/-- A member that may be absent. -/
def memberD {α : Type} (ms : Members) (key : String) (default : α) (read : Reader α) : Option α :=
  match ms.lookup key with
  | none => some default
  | some v => read v

end EntityGraph.Json.Decode
