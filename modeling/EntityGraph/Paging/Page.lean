import EntityGraph.Paging.Cursor

/-!
# Pages

The items of one page with the number of all items, if they were counted, and the cursor that asked for them.
-/
namespace EntityGraph.Paging

/-- One page. -/
structure Page (α : Type) where
  items : List α
  total : Option Nat
  cursor : Cursor
  deriving Repr

namespace Page

variable {α β : Type}

/-- The cursor of the page after this one. -/
def next? (p : Page α) : Option Cursor := p.cursor.next? p.items.length p.total

/-- The cursor of the page before this one. -/
def prev? (p : Page α) : Option Cursor := p.cursor.prev?

/-- Changes every item, or fails with the first item that cannot be changed. -/
def mapM (f : α → Result β) (p : Page α) : Result (Page β) := do
  let items ← p.items.mapM f
  .ok ⟨items, p.total, p.cursor⟩

end Page
end EntityGraph.Paging
