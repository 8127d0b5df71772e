import EntityGraph.Cypher.Text
import EntityGraph.Json.Value

/-!
# Statements

A statement is its clauses with the values of its parameters. Rendering it through a window resolves the page
marker; the size of the window travels in two further parameters, present only if the text refers to them.
The count of a paged statement keeps the clauses up to the marker and counts the distinct primary nodes.
-/
namespace EntityGraph.Cypher

open Paging (Window)

/-- Values by parameter name. -/
abbrev Params := Dict Json.Value

/-- A row of a result, by column. -/
abbrev Row := Dict Json.Value

/-- A compiled statement. -/
structure Statement where
  clauses : List Clause
  params : Params
  /-- The variable whose distinct nodes a count counts. -/
  primary : Option String
  /-- The label of the entity that the statement is about. -/
  entity : Option String

/-- Statement text with its parameters, ready to run. -/
structure Query where
  text : String
  params : Params
  paginated : Bool
  entity : Option String
  deriving Repr

namespace Query

/-- Text without parameters. -/
def raw (text : String) : Query := ⟨text, ∅, false, none⟩

/-- How failures name the entity of the query. -/
def entityLabel (q : Query) : String := q.entity.getD "-"

/-- The query as an object, its text first. -/
def toJson (q : Query) : Json.Value :=
  .obj ([("text", .str q.text), ("params", .ofDict q.params), ("paginated", .bool q.paginated)] ++
    Json.optionalMember "entity" (q.entity.map .str))

end Query

namespace Statement

/-- Whether a clause at top level carries the page marker. -/
def isPaginated (s : Statement) : Bool := s.clauses.any Clause.isPageMarker

/-- The parameters with those of a window. -/
def windowParams (params : Params) : Window → Params
  | .all => params
  | .first limit => params.insert limitParam (.ofNat limit)
  | .offset skip limit => (params.insert skipParam (.ofNat skip)).insert limitParam (.ofNat limit)

/-- The statement with its page marker resolved to a window. -/
def render (s : Statement) (w : Window) : Query where
  text := Cypher.render w s.clauses
  params := if s.isPaginated then windowParams s.params w else s.params
  paginated := s.isPaginated
  entity := s.entity

/-- The column of a count. -/
def totalColumn : String := "total"

/-- A `WITH` without its ordering and marker. -/
def unordered : Clause → Clause
  | .projection columns distinct predicate _ _ => .projection columns distinct predicate [] false
  | c => c

/-- The clauses up to and with the page marker, if there is one. -/
def throughMarker : List Clause → Option (List Clause)
  | [] => none
  | c :: rest => if c.isPageMarker then some [c] else (throughMarker rest).map (c :: ·)

/-- The statement that counts the rows of a paged statement. -/
def count? (s : Statement) : Option Statement := do
  let primary ← s.primary
  let kept ← throughMarker s.clauses
  some {
    clauses := kept.map unordered ++
      [.returning [.expr (.applyDistinct "count" (.var primary)) totalColumn] false []]
    params := s.params
    primary := some primary
    entity := s.entity }

end Statement
end EntityGraph.Cypher
