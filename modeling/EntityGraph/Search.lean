import EntityGraph.Text.Blank

/-!
# Search patterns

A search term becomes a pattern that asks for every word of the term as the beginning of an indexed word. The
operators of the pattern language lose their meaning behind a backslash.
-/
namespace EntityGraph.Search

/-- The characters with a meaning in patterns. -/
def specialChars : List Char :=
  ['+', '-', '&', '|', '!', '(', ')', '\x7b', '\x7d', '[', ']', '^', '"', '~', '*', '?', ':', '\\', '/']

/-- Puts a backslash before every special character. -/
def escapeChars : List Char → List Char
  | [] => []
  | c :: rest => if specialChars.contains c then '\\' :: c :: escapeChars rest else c :: escapeChars rest

/-- A word whose characters all stand for themselves. -/
def escape (word : String) : String := String.ofList (escapeChars word.toList)

/-- The pattern of a term, unless the term is blank. -/
def pattern? (term : String) : Option String :=
  let words := Text.words term
  if words.isEmpty then none
  else some (" AND ".intercalate (words.map (fun w => escape w ++ "*")))

end EntityGraph.Search
