import EntityGraph.Document.Basic
import EntityGraph.Paging.Cursor
import EntityGraph.Url.Basic
import EntityGraph.Url.Form

/-!
# Links between pages

The links of a page are the request's own URL and, where there is a next or a previous page, the same URL with
that page's cursor in its query.
-/
namespace EntityGraph.Paging

/-- The query parameters that a cursor is told by. -/
def Cursor.parameters (c : Cursor) : List (String × String) :=
  (c.offset.map (fun offset => ("cursor", offset))).toList ++ [("take", Nat.repr c.take)]

/-- The URL with the cursor in place of any that it told before. -/
def Cursor.inUrl (c : Cursor) (url : Url) : Url :=
  let pairs := Url.Form.decode (url.query.getD "")
  let kept := pairs.filter (fun p => p.1 ≠ "cursor" && p.1 ≠ "take")
  { url with query := some (Url.Form.encode (kept ++ c.parameters)) }

/-- The links of a page that held `returned` rows. -/
def Cursor.links (c : Cursor) (request : Url) (returned : Nat) (total : Option Nat) : Document.Links :=
  ⟨some request.text, (c.next? returned total).map (fun next => (next.inUrl request).text),
    c.prev?.map (fun prev => (prev.inUrl request).text), none⟩

end EntityGraph.Paging
