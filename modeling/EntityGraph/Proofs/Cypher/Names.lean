import EntityGraph.Cypher.Statement
import EntityGraph.Proofs.Cypher.Drafts

/-!
# The names in a statement

Every name that the text of a statement spells out, in the order of the text and with what it stands for. What a
statement may depend on, which parameters it refers to and which variables it binds are questions about this list.
-/
namespace EntityGraph.Cypher

/-- A name in a statement, by what it stands for. Names of procedures are the database's own and do not count. -/
inductive Name where
  | var (text : String)
  | label (text : String)
  | type (text : String)
  | property (text : String)
  /-- A key of a map, also of the map of properties in a node pattern. -/
  | key (text : String)
  /-- The name that a column is given. -/
  | given (text : String)
  | param (text : String)
  | quoted (text : String)
  | function (text : String)
  deriving Repr, DecidableEq

namespace Name

def text : Name → String
  | var s => s
  | label s => s
  | type s => s
  | property s => s
  | key s => s
  | given s => s
  | param s => s
  | quoted s => s
  | function s => s

end Name

def Edge.names (e : Edge) : List Name := (e.binder.map Name.var).toList ++ [.type e.type]

mutual
def Expr.names : Expr → List Name
  | .var name => [.var name]
  | .prop var key => [.var var, .property key]
  | .param name => [.param name]
  | .entry param key => .param param :: key.names
  | .null => []
  | .int _ => []
  | .quoted name => [.quoted name]
  | .call function _ args => .function function :: exprNames args
  | .comprehension binder source item => .var binder :: (source.names ++ item.names)
  | .map entries => entryNames entries
  | .choice test yes no => test.names ++ yes.names ++ no.names
  | .keys map => map.names
  | .truth test => test.names
def exprNames : List Expr → List Name
  | [] => []
  | e :: rest => e.names ++ exprNames rest
def entryNames : List (String × Expr) → List Name
  | [] => []
  | (k, e) :: rest => .key k :: (e.names ++ entryNames rest)
def Predicate.names : Predicate → List Name
  | .eq left right => left.names ++ right.names
  | .gt left right => left.names ++ right.names
  | .isIn item list => item.names ++ list.names
  | .isNull e => e.names
  | .isNotNull e => e.names
  | .hasLabel var label => [.var var, .label label]
  | .inLabels label var => label.names ++ [.var var]
  | .all parts => predicateNames parts
  | .any parts => predicateNames parts
  | .not p => p.names
  | .exists pattern => pattern.names
def predicateNames : List Predicate → List Name
  | [] => []
  | p :: rest => p.names ++ predicateNames rest
def Node.names : Node → List Name
  | ⟨binder, label, props⟩ =>
    (binder.map Name.var).toList ++ (label.map Name.label).toList ++ entryNames props
def Pattern.names : Pattern → List Name
  | ⟨start, hops⟩ => start.names ++ hopNames hops
def hopNames : List (Edge × Node) → List Name
  | [] => []
  | (e, n) :: rest => e.names ++ n.names ++ hopNames rest
end

def Column.names : Column → List Name
  | .var name given => .var name :: (given.map Name.given).toList
  | .expr e given => e.names ++ [.given given]

def Assignment.names : Assignment → List Name
  | .assign var key value => .var var :: .property key :: value.names
  | .overlay var map => .var var :: map.names

/-- The names of an optional predicate. -/
def whereNames (predicate : Option Predicate) : List Name := (predicate.map Predicate.names).getD []

/-- The names of an ordering. -/
def orderNames (order : List SortKey) : List Name := order.flatMap (fun k => k.expr.names)

mutual
def Clause.names : Clause → List Name
  | .pattern p _ predicate => p.names ++ whereNames predicate
  | .procedure _ args yields => exprNames args ++ yields.map Name.var
  | .subquery imports body => imports.map Name.var ++ clauseNames body
  | .projection columns _ predicate order _ =>
    columns.flatMap Column.names ++ whereNames predicate ++ orderNames order
  | .unwind list binder => list.names ++ [.var binder]
  | .create p => p.names
  | .merge p => p.names
  | .set items => items.flatMap Assignment.names
  | .delete vars _ => vars.map Name.var
  | .returning columns _ order => columns.flatMap Column.names ++ orderNames order
def clauseNames : List Clause → List Name
  | [] => []
  | k :: rest => k.names ++ clauseNames rest
end

mutual
/-- The procedures that a clause calls. -/
def Clause.procedures : Clause → List String
  | .procedure name _ _ => [name]
  | .subquery _ body => proceduresOf body
  | _ => []
/-- The procedures that clauses call. -/
def proceduresOf : List Clause → List String
  | [] => []
  | k :: rest => k.procedures ++ proceduresOf rest
end

/-- The names in the clauses of a statement. -/
def Statement.names (s : Statement) : List Name := clauseNames s.clauses

attribute [simp] Expr.names exprNames entryNames Predicate.names predicateNames Clause.names clauseNames

@[simp] theorem Column.names_expr (e : Expr) (given : String) : (Column.expr e given).names = e.names ++ [.given given] :=
  rfl

@[simp] theorem Assignment.names_assign (var key : String) (value : Expr) :
    (Assignment.assign var key value).names = .var var :: .property key :: value.names := rfl

@[simp] theorem Assignment.names_overlay (var : String) (map : Expr) :
    (Assignment.overlay var map).names = .var var :: map.names := rfl

@[simp] theorem whereNames_none : whereNames none = [] := rfl

@[simp] theorem whereNames_some (p : Predicate) : whereNames (some p) = p.names := rfl

@[simp] theorem orderNames_nil : orderNames [] = [] := rfl

@[simp] theorem orderNames_cons (k : SortKey) (order : List SortKey) :
    orderNames (k :: order) = k.expr.names ++ orderNames order := List.flatMap_cons

theorem entryNames_append (es es' : List (String × Expr)) :
    entryNames (es ++ es') = entryNames es ++ entryNames es' := by
  induction es with
  | nil => rfl
  | cons e rest ih => rw [List.cons_append, entryNames, entryNames, ih, List.cons_append, List.append_assoc]

theorem hopNames_append (hops hops' : List (Edge × Node)) :
    hopNames (hops ++ hops') = hopNames hops ++ hopNames hops' := by
  induction hops with
  | nil => rfl
  | cons h rest ih =>
    obtain ⟨e, n⟩ := h
    rw [List.cons_append, hopNames, hopNames, ih, List.append_assoc, List.append_assoc, List.append_assoc]

theorem predicateNames_append (ps qs : List Predicate) :
    predicateNames (ps ++ qs) = predicateNames ps ++ predicateNames qs := by
  induction ps with
  | nil => rfl
  | cons p rest ih => rw [List.cons_append, predicateNames, predicateNames, ih, List.append_assoc]

theorem clauseNames_eq (ks : List Clause) : clauseNames ks = ks.flatMap Clause.names := by
  induction ks with
  | nil => rfl
  | cons k rest ih => rw [clauseNames, ih, List.flatMap_cons]

theorem clauseNames_append (ks ks' : List Clause) : clauseNames (ks ++ ks') = clauseNames ks ++ clauseNames ks' := by
  rw [clauseNames_eq, clauseNames_eq, clauseNames_eq, List.flatMap_append]

theorem mem_clauseNames {ks : List Clause} {n : Name} : n ∈ clauseNames ks ↔ ∃ k ∈ ks, n ∈ k.names := by
  rw [clauseNames_eq, List.mem_flatMap]

theorem proceduresOf_eq (ks : List Clause) : proceduresOf ks = ks.flatMap Clause.procedures := by
  induction ks with
  | nil => rfl
  | cons k rest ih => rw [proceduresOf, ih, List.flatMap_cons]

/-! ## Patterns and columns -/

@[simp] theorem Node.names_anonymous (label : String) : (Node.anonymous label).names = [.label label] := rfl

@[simp] theorem Node.names_bound (binder : String) : (Node.bound binder).names = [.var binder] := rfl

@[simp] theorem Node.names_labeled (binder label : String) :
    (Node.labeled binder label).names = [.var binder, .label label] := rfl

@[simp] theorem Node.names_withProp (n : Node) (key : String) (value : Expr) :
    (n.withProp key value).names = n.names ++ .key key :: value.names := by
  obtain ⟨binder, label, props⟩ := n
  simp [withProp, Node.names, entryNames_append]

@[simp] theorem Pattern.names_node (n : Node) : (Pattern.node n).names = n.names := List.append_nil _

@[simp] theorem Pattern.names_hop (p : Pattern) (binder : Option String) (type : String) (arrow : Arrow) (n : Node) :
    (p.hop binder type arrow n).names = p.names ++ ((binder.map Name.var).toList ++ .type type :: n.names) := by
  obtain ⟨start, hops⟩ := p
  simp [hop, Pattern.names, hopNames_append, hopNames, Edge.names]

@[simp] theorem Expr.names_apply (function : String) (args : List Expr) :
    (Expr.apply function args).names = .function function :: exprNames args := by rw [apply, names]

@[simp] theorem Expr.names_applyDistinct (function : String) (arg : Expr) :
    (Expr.applyDistinct function arg).names = .function function :: arg.names := by
  rw [applyDistinct, names, exprNames, exprNames, List.append_nil]

@[simp] theorem Column.names_var (name : String) (given : Option String) :
    (Column.var name given).names = .var name :: (given.map Name.given).toList := rfl

@[simp] theorem Column.names_ofVar (name : String) : (Column.ofVar name).names = [.var name] := rfl

@[simp] theorem Clause.names_matching (p : Pattern) : (Clause.matching p).names = p.names := by
  rw [matching, names, whereNames_none, List.append_nil]

/-! ## Tests joined to a clause -/

/-- Clauses that a predicate can be joined to. -/
def Clause.guardable : Clause → Bool
  | .pattern .. => true
  | .projection .. => true
  | _ => false

theorem Predicate.names_and (p q : Predicate) : (p.and q).names = p.names ++ q.names := by
  cases p <;> simp [Predicate.and, Predicate.names, predicateNames, predicateNames_append]

theorem whereNames_joined (predicate : Option Predicate) (p : Predicate) :
    whereNames (some (joined predicate p)) = whereNames predicate ++ p.names := by
  cases predicate with
  | none => rfl
  | some q => exact q.names_and p

theorem Clause.guardable_guarded (k : Clause) (p : Predicate) : (k.guarded p).guardable = k.guardable := by
  cases k <;> rfl

theorem Clause.guardable_guardedBy (k : Clause) (ps : List Predicate) : (k.guardedBy ps).guardable = k.guardable := by
  induction ps generalizing k with
  | nil => rfl
  | cons p rest ih => rw [guardedBy_cons, ih, guardable_guarded]

theorem Clause.mem_names_guarded {k : Clause} (h : k.guardable = true) {p : Predicate} {n : Name} :
    n ∈ (k.guarded p).names ↔ n ∈ k.names ∨ n ∈ p.names := by
  cases k with
  | pattern path optional predicate =>
    show n ∈ path.names ++ whereNames (some (joined predicate p)) ↔ n ∈ path.names ++ whereNames predicate ∨ _
    rw [whereNames_joined, ← List.append_assoc, List.mem_append]
  | projection columns distinct predicate order page =>
    show n ∈ columns.flatMap Column.names ++ whereNames (some (joined predicate p)) ++ orderNames order ↔
      n ∈ columns.flatMap Column.names ++ whereNames predicate ++ orderNames order ∨ _
    rw [whereNames_joined]
    simp only [List.mem_append]
    rw [← or_assoc, or_right_comm]
  | _ => cases h

theorem Clause.mem_names_guardedBy {k : Clause} (h : k.guardable = true) {ps : List Predicate} {n : Name} :
    n ∈ (k.guardedBy ps).names ↔ n ∈ k.names ∨ ∃ p ∈ ps, n ∈ p.names := by
  induction ps generalizing k with
  | nil => simp
  | cons p rest ih =>
    rw [guardedBy_cons, ih ((k.guardable_guarded p).trans h), mem_names_guarded h, or_assoc]
    simp only [List.mem_cons, exists_eq_or_imp]

end EntityGraph.Cypher
