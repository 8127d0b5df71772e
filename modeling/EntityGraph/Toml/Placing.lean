import EntityGraph.Toml.Value

/-!
# Placing values in tables

Headers open tables and keys put values into them; a path leads from table to table, and through a list of
tables into its last one. Nothing is ever replaced: what is there already makes a second value, a second header,
or a key into a complete table a failure.
-/
namespace EntityGraph.Toml

/-- How many keys a path may have, plus one. -/
def pathLimit : Nat := 80

/-- Changes the last item of a list. -/
def changeLast {α : Type} (f : α → Option α) : List α → Option (List α)
  | [] => none
  | [a] => (f a).map (fun a => [a])
  | a :: b :: rest => (changeLast f (b :: rest)).map (a :: ·)

/-- Changes the value of a key, which may be absent before. -/
def changeAt (key : String) (f : Option Value → Option Value) : Members → Option Members
  | [] => (f none).map (fun v => [(key, v)])
  | (k, v) :: rest =>
    if k = key then (f (some v)).map (fun v => (k, v) :: rest)
    else (changeAt key f rest).map ((k, v) :: ·)

/-- Changes the members of a table. -/
def changeTable (f : Members → Option Members) : Value → Option Value
  | .table kind members => (f members).map (.table kind)
  | _ => none

/-- Puts a value where a dotted key leads. A table with a header is not entered, and one that headers lead
through is only passed. -/
def put (value : Value) : List String → Members → Option Members
  | [], _ => none
  | [key], members => changeAt key (fun old => if old.isSome then none else some value) members
  | key :: next :: rest, members =>
    changeAt key (fun old =>
      match old with
      | none => (put value (next :: rest) []).map (.table .dotted)
      | some (.table .dotted inner) => (put value (next :: rest) inner).map (.table .dotted)
      | some (.table .implied inner) =>
        if rest.isEmpty then none else (put value (next :: rest) inner).map (.table .implied)
      | some (.tables items) =>
        if rest.isEmpty then none else (changeLast (changeTable (put value (next :: rest))) items).map .tables
      | some _ => none) members

/-- Follows the path of a header and changes the table it leads to, given what stands there. -/
def follow (finish : String → Members → Option Members) : List String → Members → Option Members
  | [], _ => none
  | [key], members => finish key members
  | key :: next :: rest, members =>
    changeAt key (fun old =>
      match old with
      | none => (follow finish (next :: rest) []).map (.table .implied)
      | some (.table .braces _) => none
      | some (.table kind inner) => (follow finish (next :: rest) inner).map (.table kind)
      | some (.tables items) => (changeLast (changeTable (follow finish (next :: rest))) items).map .tables
      | some _ => none) members

/-- Opens the table of a header. -/
def openTable : List String → Members → Option Members :=
  follow (fun key => changeAt key (fun old =>
    match old with
    | none => some (.table .header [])
    | some (.table .implied members) => some (.table .header members)
    | some _ => none))

/-- Opens one more table in the list of a header in double brackets. -/
def openElement : List String → Members → Option Members :=
  follow (fun key => changeAt key (fun old =>
    match old with
    | none => some (.tables [.table .header []])
    | some (.tables items) => some (.tables (items ++ [.table .header []]))
    | some _ => none))

/-- Puts a value into the table that a header opened. -/
def putUnder (path keys : List String) (value : Value) (members : Members) : Option Members :=
  match path with
  | [] => put value keys members
  | key :: rest =>
    changeAt key (fun old =>
      match old with
      | some (.table kind inner) => (putUnder rest keys value inner).map (.table kind)
      | some (.tables items) => (changeLast (changeTable (putUnder rest keys value)) items).map .tables
      | _ => none) members

/-- The members of a table in braces. -/
def ofPairs (pairs : List (List String × Value)) : Option Members :=
  pairs.foldlM (fun members p => put p.2 p.1 members) []

/-- One line of a document: a header, a header in double brackets, or a key with its value. -/
inductive Line where
  | table (path : List String)
  | element (path : List String)
  | pair (keys : List String) (value : Value)
  deriving Repr

/-- A document under way: the path of the last header, and all members. -/
structure Draft where
  path : List String
  members : Members

/-- Takes in one line. -/
def Draft.add (d : Draft) : Line → Option Draft
  | .table path => (openTable path d.members).map (fun ms => ⟨path, ms⟩)
  | .element path => (openElement path d.members).map (fun ms => ⟨path, ms⟩)
  | .pair keys value => (putUnder d.path keys value d.members).map (fun ms => ⟨d.path, ms⟩)

/-- The document of lines. -/
def ofLines (lines : List Line) : Option Members :=
  (lines.foldlM Draft.add ⟨[], []⟩).map (fun d => d.members)

end EntityGraph.Toml
