import EntityGraph.Json.Decode
import EntityGraph.Paging.Page

/-!
# Cursors and pages as documents

A cursor without an offset and a page without a total leave the member out.
-/
namespace EntityGraph.Paging

open Json (Value optionalMember)
open Json.Decode

/-- A cursor from its document. -/
def Cursor.read : Reader Cursor := structure? .json ["offset", "take", "fetchAll"] fun ms => do
  let offset ← member? ms "offset" string
  let take ← member ms "take" (natBelow 64)
  let fetchAll ← memberD ms "fetchAll" false bool
  some ⟨offset, take, fetchAll⟩

/-- The document of a cursor. -/
def Cursor.toJson (c : Cursor) : Value :=
  .object (optionalMember "offset" (c.offset.map .str) ++
    [("take", .ofNat c.take), ("fetchAll", .bool c.fetchAll)])

/-- The document of a page of values. -/
def Page.toJson (p : Page Value) : Value :=
  .object (optionalMember "total" (p.total.map .ofNat) ++ [("items", .arr p.items), ("cursor", p.cursor.toJson)])

end EntityGraph.Paging
