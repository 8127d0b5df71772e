/-!
# Lines

A line ends at a line feed, together with one carriage return right before it. Text after the last line feed
is a line of its own unless it is empty.
-/
namespace EntityGraph.Text

/-- Drops one carriage return at the end. -/
def dropReturn (line : List Char) : List Char :=
  if line.getLast? = some '\r' then line.dropLast else line

/-- The lines of a text; `line` is what was read of the current one. -/
def linesFrom (line : List Char) : List Char → List (List Char)
  | [] => if line.isEmpty then [] else [line]
  | c :: rest =>
    if c = '\n' then dropReturn line :: linesFrom [] rest else linesFrom (line ++ [c]) rest

/-- The lines of a text, in order. -/
def lines (s : String) : List String := (linesFrom [] s.toList).map String.ofList

/-- A line moved two columns to the right. -/
def indented (line : String) : String := "  " ++ line

end EntityGraph.Text
