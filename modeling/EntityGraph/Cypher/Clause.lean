/-!
# Statements as trees

Clauses, patterns, predicates and expressions of a Cypher statement. The tree holds names and parameter
references only, never a value of a caller, so whatever is to be known about the text of a statement can be
read off its tree.
-/
namespace EntityGraph.Cypher

/-- The direction of an edge, read from its left node. -/
inductive Arrow where
  | outgoing
  | incoming
  | either
  deriving Repr, DecidableEq, Inhabited

/-- An edge of a pattern: `-[binder:type]->`. -/
structure Edge where
  binder : Option String
  type : String
  arrow : Arrow
  deriving Repr, DecidableEq, Inhabited

mutual
/-- An expression. -/
inductive Expr where
  | var (name : String)
  | prop (var key : String)
  | param (name : String)
  /-- The entry of a map parameter. -/
  | entry (param : String) (key : Expr)
  | null
  | int (n : Int)
  /-- A name in quotes, such as that of an index. -/
  | quoted (name : String)
  | call (function : String) (distinct : Bool) (args : List Expr)
  /-- The list of `item` for each `binder` in `source`. -/
  | comprehension (binder : String) (source item : Expr)
  | map (entries : List (String × Expr))
  | choice (test : Predicate) (yes no : Expr)
  | keys (map : Expr)
  | truth (test : Predicate)
/-- A predicate. -/
inductive Predicate where
  | eq (left right : Expr)
  | gt (left right : Expr)
  | isIn (item list : Expr)
  | isNull (e : Expr)
  | isNotNull (e : Expr)
  | hasLabel (var label : String)
  /-- Whether a label given by an expression is among the labels of a variable. -/
  | inLabels (label : Expr) (var : String)
  | all (parts : List Predicate)
  | any (parts : List Predicate)
  | not (p : Predicate)
  | exists (pattern : Pattern)
/-- A node of a pattern: `(binder:label {props})`. -/
structure Node where
  binder : Option String
  label : Option String
  props : List (String × Expr)
/-- A path: a node and the hops to its right. -/
structure Pattern where
  start : Node
  hops : List (Edge × Node)
end

instance : Inhabited Expr := ⟨.null⟩
instance : Inhabited Node := ⟨⟨none, none, []⟩⟩
instance : Inhabited Pattern := ⟨⟨default, []⟩⟩
instance : Inhabited Predicate := ⟨.all []⟩

namespace Expr

/-- A function applied to plain arguments. -/
def apply (function : String) (args : List Expr) : Expr := .call function false args

/-- An aggregate over the distinct values of its argument. -/
def applyDistinct (function : String) (arg : Expr) : Expr := .call function true [arg]

end Expr

/-- Conjunction. A conjunction on the left is extended in place. -/
def Predicate.and (p q : Predicate) : Predicate :=
  match p with
  | .all parts => .all (parts ++ [q])
  | p => .all [p, q]

namespace Node

/-- A node without a binder. -/
def anonymous (label : String) : Node := ⟨none, some label, []⟩

/-- A node that is bound already. -/
def bound (binder : String) : Node := ⟨some binder, none, []⟩

/-- A binder with its label. -/
def labeled (binder label : String) : Node := ⟨some binder, some label, []⟩

/-- Requires a property to equal a value. -/
def withProp (n : Node) (key : String) (value : Expr) : Node := ⟨n.binder, n.label, n.props ++ [(key, value)]⟩

end Node

namespace Pattern

/-- A single node. -/
def node (n : Node) : Pattern := ⟨n, []⟩

/-- Extends the path by one edge. -/
def hop (p : Pattern) (binder : Option String) (type : String) (arrow : Arrow) (n : Node) : Pattern :=
  ⟨p.start, p.hops ++ [(⟨binder, type, arrow⟩, n)]⟩

end Pattern

/-- A column of a `WITH` or `RETURN`. -/
inductive Column where
  | var (name : String) (given : Option String)
  | expr (e : Expr) (given : String)

/-- The name that a column binds. -/
def Column.name : Column → String
  | .var name given => given.getD name
  | .expr _ given => given

/-- A variable projected under its own name. -/
def Column.ofVar (name : String) : Column := .var name none

/-- A sort key. -/
structure SortKey where
  expr : Expr
  descending : Bool

/-- An item of a `SET`. -/
inductive Assignment where
  | assign (var key : String) (value : Expr)
  /-- Overlays the properties of a variable with those of a map. -/
  | overlay (var : String) (map : Expr)

/-- A clause. -/
inductive Clause where
  | pattern (p : Pattern) (optional : Bool) (predicate : Option Predicate)
  | procedure (name : String) (args : List Expr) (yields : List String)
  /-- A unit subquery, which keeps the rows around it. -/
  | subquery (imports : List String) (body : List Clause)
  /-- A `WITH`; `page` marks where the window of rows goes. -/
  | projection (columns : List Column) (distinct : Bool) (predicate : Option Predicate)
      (order : List SortKey) (page : Bool)
  | unwind (list : Expr) (binder : String)
  | create (p : Pattern)
  | merge (p : Pattern)
  | set (items : List Assignment)
  | delete (vars : List String) (detach : Bool)
  | returning (columns : List Column) (distinct : Bool) (order : List SortKey)

namespace Clause

/-- A `MATCH` without a predicate. -/
def matching (p : Pattern) : Clause := .pattern p false none

/-- A `WITH` that passes variables on. -/
def passing (vars : List String) : Clause := .projection (vars.map Column.ofVar) false none [] false

/-- Whether this is the `WITH` that carries the page marker. -/
def isPageMarker : Clause → Bool
  | .projection _ _ _ _ page => page
  | _ => false

end Clause
end EntityGraph.Cypher
