import EntityGraph.Json.Decode

/-!
# TOML values

A document is a table. How a table came about decides what may still be added to it: a table in braces is
complete, a table with a header of its own has no second header, and a table that only occurs on the way to
others may get a header later.
-/
namespace EntityGraph.Toml

/-- How a table came about. -/
inductive TableKind where
  /-- Written in braces. -/
  | braces
  /-- Named by a header. -/
  | header
  /-- On the way to a table named by a header. -/
  | implied
  /-- On the way of a dotted key. -/
  | dotted
  deriving Repr, DecidableEq, Inhabited

/-- A TOML value. -/
inductive Value where
  | str (s : String)
  | int (n : Int)
  | float (x : Float)
  | bool (b : Bool)
  | array (items : List Value)
  | table (kind : TableKind) (members : List (String × Value))
  /-- Tables that are each begun by a header in double brackets. -/
  | tables (items : List Value)
  deriving Repr, Inhabited

/-- The members of a table, in the order of the document. -/
abbrev Members := List (String × Value)

mutual
/-- The JSON value with the same content. -/
def Value.toJson : Value → Json.Value
  | .str s => .str s
  | .int n => .ofInt n
  | .float x => .num (.double x)
  | .bool b => .bool b
  | .array items => .arr (itemsToJson items)
  | .table _ members => .object (membersToJson members)
  | .tables items => .arr (itemsToJson items)
def itemsToJson : List Value → List Json.Value
  | [] => []
  | v :: rest => v.toJson :: itemsToJson rest
def membersToJson : List (String × Value) → List (String × Json.Value)
  | [] => []
  | (k, v) :: rest => (k, v.toJson) :: membersToJson rest
end

/-- Contents that carry nothing: an empty list or table. -/
def isBlank : Json.Value → Bool
  | .arr items => items.isEmpty
  | .obj members => members.isEmpty
  | _ => false

/-- How typed data is read from TOML. -/
def format : Json.Decode.Format := ⟨isBlank, true⟩

end EntityGraph.Toml
