import EntityGraph.Cypher.Clause
import EntityGraph.Paging.Window
import EntityGraph.Text.Lines

/-!
# The text of a statement

Each clause starts a line; so do `WHERE`, `ORDER BY` and the window of a paged `WITH`. The body of a subquery
is indented by two columns for each level. A disjunction and the argument of a negation stand in parentheses.
-/
namespace EntityGraph.Cypher

open Paging (Window)

/-- The parameter that holds the number of rows to skip. -/
def skipParam : String := "cursorSkip"

/-- The parameter that holds the size of the page. -/
def limitParam : String := "cursorLimit"

/-- A part that may be absent. -/
def optionalText (before : String) : Option String → String
  | none => ""
  | some s => before ++ s

/-- The edge between two nodes. -/
def Edge.text (e : Edge) : String :=
  let body := "[" ++ e.binder.getD "" ++ ":" ++ e.type ++ "]"
  match e.arrow with
  | .outgoing => "-" ++ body ++ "->"
  | .incoming => "<-" ++ body ++ "-"
  | .either => "-" ++ body ++ "-"

mutual
/-- The text of an expression. -/
def Expr.text : Expr → String
  | .var name => name
  | .prop var key => var ++ "." ++ key
  | .param name => "$" ++ name
  | .entry param key => "$" ++ param ++ "[" ++ key.text ++ "]"
  | .null => "NULL"
  | .int n => if n < 0 then "-" ++ Nat.repr n.natAbs else Nat.repr n.natAbs
  | .quoted name => "\"" ++ name ++ "\""
  | .call function distinct args =>
    function ++ "(" ++ (if distinct then "DISTINCT " else "") ++ ", ".intercalate (exprTexts args) ++ ")"
  | .comprehension binder source item =>
    "[" ++ binder ++ " IN " ++ source.text ++ " | " ++ item.text ++ "]"
  | .map entries => "\x7b" ++ ", ".intercalate (entryTexts entries) ++ "\x7d"
  | .choice test yes no =>
    "CASE WHEN " ++ test.text ++ " THEN " ++ yes.text ++ " ELSE " ++ no.text ++ " END"
  | .keys map => "keys(" ++ map.text ++ ")"
  | .truth test => test.text
def exprTexts : List Expr → List String
  | [] => []
  | e :: rest => e.text :: exprTexts rest
def entryTexts : List (String × Expr) → List String
  | [] => []
  | (k, e) :: rest => (k ++ ": " ++ e.text) :: entryTexts rest
/-- The text of a predicate. -/
def Predicate.text : Predicate → String
  | .eq left right => left.text ++ " = " ++ right.text
  | .gt left right => left.text ++ " > " ++ right.text
  | .isIn item list => item.text ++ " IN " ++ list.text
  | .isNull e => e.text ++ " IS NULL"
  | .isNotNull e => e.text ++ " IS NOT NULL"
  | .hasLabel var label => var ++ ":" ++ label
  | .inLabels label var => label.text ++ " IN labels(" ++ var ++ ")"
  | .all parts => " AND ".intercalate (predicateTexts parts)
  | .any parts => "(" ++ " OR ".intercalate (predicateTexts parts) ++ ")"
  | .not p => "NOT (" ++ p.text ++ ")"
  | .exists pattern => "EXISTS \x7b MATCH " ++ pattern.text ++ " \x7d"
def predicateTexts : List Predicate → List String
  | [] => []
  | p :: rest => p.text :: predicateTexts rest
/-- The text of a node. -/
def Node.text : Node → String
  | ⟨binder, label, props⟩ =>
    let name := binder.getD "" ++ optionalText ":" label
    let gap := if binder.isSome || label.isSome then " " else ""
    let map := if props.isEmpty then "" else gap ++ "\x7b" ++ ", ".intercalate (entryTexts props) ++ "\x7d"
    "(" ++ name ++ map ++ ")"
/-- The text of a path. -/
def Pattern.text : Pattern → String
  | ⟨start, hops⟩ => start.text ++ hopsText hops
def hopsText : List (Edge × Node) → String
  | [] => ""
  | (e, n) :: rest => e.text ++ n.text ++ hopsText rest
end

/-- The text of a column. -/
def Column.text : Column → String
  | .var name none => name
  | .var name (some given) => name ++ " AS " ++ given
  | .expr e given => e.text ++ " AS " ++ given

/-- The text of a sort key. -/
def SortKey.text (k : SortKey) : String := k.expr.text ++ (if k.descending then " DESC" else " ASC")

/-- The text of an assignment. -/
def Assignment.text : Assignment → String
  | .assign var key value => var ++ "." ++ key ++ " = " ++ value.text
  | .overlay var map => var ++ " += " ++ map.text

/-- The columns of a projection, behind `DISTINCT` if asked for. -/
def columnsText (distinct : Bool) (columns : List Column) : String :=
  (if distinct then "DISTINCT " else "") ++ ", ".intercalate (columns.map Column.text)

/-- The line of a predicate. -/
def whereText (predicate : Option Predicate) : String := optionalText "\nWHERE " (predicate.map Predicate.text)

/-- The line of an ordering. -/
def orderText (order : List SortKey) : String :=
  if order.isEmpty then "" else "\nORDER BY " ++ ", ".intercalate (order.map SortKey.text)

/-- The line of a window. -/
def windowText : Window → String
  | .all => ""
  | .first _ => "\nLIMIT $" ++ limitParam
  | .offset _ _ => "\nSKIP $" ++ skipParam ++ " LIMIT $" ++ limitParam

/-- A block in braces whose lines are indented. -/
def blockText (opening content : String) : String :=
  "\n".intercalate (opening :: (Text.lines content).map Text.indented ++ ["\x7d"])

mutual
/-- The text of a clause. -/
def Clause.text (w : Window) : Clause → String
  | .pattern p optional predicate =>
    (if optional then "OPTIONAL " else "") ++ "MATCH " ++ p.text ++ whereText predicate
  | .procedure name args yields =>
    "CALL " ++ name ++ "(" ++ ", ".intercalate (exprTexts args) ++ ")" ++
      (if yields.isEmpty then "" else " YIELD " ++ ", ".intercalate yields)
  | .subquery imports body =>
    blockText "CALL \x7b"
      ((if imports.isEmpty then "" else "WITH " ++ ", ".intercalate imports ++ "\n") ++
        "\n".intercalate (clauseTexts w body))
  | .projection columns distinct predicate order page =>
    "WITH " ++ columnsText distinct columns ++ whereText predicate ++ orderText order ++
      (if page then windowText w else "")
  | .unwind list binder => "UNWIND " ++ list.text ++ " AS " ++ binder
  | .create p => "CREATE " ++ p.text
  | .merge p => "MERGE " ++ p.text
  | .set items => "SET " ++ ", ".intercalate (items.map Assignment.text)
  | .delete vars detach => (if detach then "DETACH " else "") ++ "DELETE " ++ ", ".intercalate vars
  | .returning columns distinct order => "RETURN " ++ columnsText distinct columns ++ orderText order
def clauseTexts (w : Window) : List Clause → List String
  | [] => []
  | c :: rest => c.text w :: clauseTexts w rest
end

/-- The text of a list of clauses, with the page marker resolved to a window. -/
def render (w : Window) (clauses : List Clause) : String := "\n".intercalate (clauseTexts w clauses)

end EntityGraph.Cypher
