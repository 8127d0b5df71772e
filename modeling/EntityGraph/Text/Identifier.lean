/-!
# Identifiers

An identifier is an ASCII letter or underscore followed by ASCII letters, digits and underscores. Only such
names may stand in a statement unquoted.
-/
namespace EntityGraph.Text

/-- What an identifier may begin with. The letters are the ASCII ones. -/
def isIdentifierStart (c : Char) : Bool := c.isAlpha || c == '_'

/-- What may follow in an identifier. The letters and digits are the ASCII ones. -/
def isIdentifierRest (c : Char) : Bool := c.isAlphanum || c == '_'

/-- Whether a text is an identifier. -/
def isIdentifier (s : String) : Bool :=
  match s.toList with
  | [] => false
  | c :: rest => isIdentifierStart c && rest.all isIdentifierRest

end EntityGraph.Text
