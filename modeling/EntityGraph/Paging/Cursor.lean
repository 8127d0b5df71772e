import EntityGraph.Error
import EntityGraph.Paging.Window
import EntityGraph.Text.Blank
import EntityGraph.Text.Number

/-!
# Cursors

A cursor is a place in a paged list: an offset that callers hand back unread, the size of the page, and whether
paging is off. The next and the previous cursor are a page away; there is none beyond either end.
-/
namespace EntityGraph.Paging

/-- The size of a page when the caller gives none. -/
def defaultTake : Nat := 26

/-- A place in a paged list. -/
structure Cursor where
  /-- The row to begin with, in digits; the first page has none. -/
  offset : Option String
  take : Nat
  fetchAll : Bool
  deriving Repr, DecidableEq

/-- The row that an offset names. -/
def readOffset (text : String) : Result Nat :=
  match Text.nat64? text with
  | some n => .ok n
  | none => refuse (.badPosition text)

namespace Cursor

/-- The first page. -/
def first (take : Nat) : Cursor := ⟨none, take, false⟩

/-- The page that begins at a row. -/
def startingAt (row take : Nat) : Cursor := ⟨some (Nat.repr row), take, false⟩

/-- Every row. -/
def all : Cursor := ⟨none, defaultTake, true⟩

instance : Inhabited Cursor := ⟨first defaultTake⟩

/-- A query parameter without blanks around it, unless nothing is left of it. -/
def parameter? (query : Dict String) (key : String) : Option String :=
  ((query.get? key).map Text.trim).filter (fun s => s ≠ "")

/-- The size of the page that a request asks for. -/
def takeOf (query : Dict String) (default : Nat) : Result Nat := do
  let take ← match parameter? query "take" with
    | none => .ok default
    | some text =>
      match Text.nat64? text with
      | some n => .ok n
      | none => refuse (.badTake text)
  if take = 0 then refuse .zeroTake
  .ok take

/-- The offset that a request asks for. -/
def offsetOf (query : Dict String) : Result (Option String) :=
  match parameter? query "cursor" with
  | none => .ok none
  | some text => (readOffset text).map (fun _ => some text)

/-- The cursor of a request's query parameters. -/
def ofQuery (query : Dict String) (default : Nat) : Result Cursor := do
  let take ← takeOf query default
  let offset ← offsetOf query
  let fetchAll := (query.get? "fetchAll").map Text.trim
  .ok ⟨offset, take, fetchAll = some "true" || fetchAll = some "1"⟩

/-- The row that the page begins with. -/
def position (c : Cursor) : Result Nat :=
  match c.offset with
  | none => .ok 0
  | some text => readOffset text

/-- The window that the cursor asks for. -/
def window (c : Cursor) : Result Window :=
  if c.fetchAll then .ok .all
  else
    match c.offset with
    | none => .ok (.first c.take)
    | some _ => c.position.map (fun skip => .offset skip c.take)

/-- The cursor after a page that held `returned` rows. There is none after a short page, or when the page is
known to have been the last. -/
def next? (c : Cursor) (returned : Nat) (total : Option Nat) : Option Cursor :=
  if c.fetchAll || returned < c.take then none
  else
    match c.position with
    | .error _ => none
    | .ok p =>
      if total.any (fun t => decide (t ≤ p + c.take)) then none
      else some (startingAt (p + c.take) c.take)

/-- The cursor before this one. There is none before the first row. -/
def prev? (c : Cursor) : Option Cursor :=
  if c.fetchAll then none
  else
    match c.position with
    | .error _ => none
    | .ok p => if p = 0 then none else some (startingAt (p - c.take) c.take)

end Cursor
end EntityGraph.Paging
