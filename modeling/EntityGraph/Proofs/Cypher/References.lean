import EntityGraph.Proofs.Cypher.Names
import EntityGraph.Proofs.Text.References

/-!
# Which parameters the text of a statement refers to

The text of a tree refers to exactly what its names refer to, in their order, and to the sizes of the window where
the page marker stands. This holds of every tree, whatever its names are made of: all that is used is that something
no identifier holds stands behind each name.
-/
namespace EntityGraph.Cypher

open Paging (Window)
open Text (references Separates Ends references_plain references_append references_append_of_plain references_closed
  references_separated references_intercalate)

/-- The parameters that a name refers to where a statement spells it out. -/
def Name.references : Name → List String
  | .param s => Text.references ("$" ++ s)
  | n => Text.references n.text

/-- The parameters that names refer to, in order. -/
def nameReferences (ns : List Name) : List String := ns.flatMap Name.references

@[simp] theorem nameReferences_nil : nameReferences [] = [] := rfl

@[simp] theorem nameReferences_cons (n : Name) (ns : List Name) :
    nameReferences (n :: ns) = n.references ++ nameReferences ns := List.flatMap_cons

@[simp] theorem nameReferences_append (ns ns' : List Name) :
    nameReferences (ns ++ ns') = nameReferences ns ++ nameReferences ns' := List.flatMap_append

/-- The parameters that a window refers to. -/
def windowReferences : Window → List String
  | .all => []
  | .first _ => [limitParam]
  | .offset _ _ => [skipParam, limitParam]

mutual
/-- The parameters that a clause refers to. -/
def Clause.references (w : Window) : Clause → List String
  | .procedure name args yields => Text.references name ++ nameReferences (exprNames args ++ yields.map Name.var)
  | .subquery imports body => nameReferences (imports.map Name.var) ++ clauseReferences w body
  | .projection columns _ predicate order page =>
    nameReferences (columns.flatMap Column.names ++ whereNames predicate ++ orderNames order) ++
      (if page then windowReferences w else [])
  | .pattern p _ predicate => nameReferences (p.names ++ whereNames predicate)
  | .unwind list binder => nameReferences (list.names ++ [.var binder])
  | .create p => nameReferences p.names
  | .merge p => nameReferences p.names
  | .set items => nameReferences (items.flatMap Assignment.names)
  | .delete vars _ => nameReferences (vars.map Name.var)
  | .returning columns _ order => nameReferences (columns.flatMap Column.names ++ orderNames order)
/-- The parameters that clauses refer to. -/
def clauseReferences (w : Window) : List Clause → List String
  | [] => []
  | k :: rest => k.references w ++ clauseReferences w rest
end

/-! ## Names -/

@[simp] theorem references_var (s : String) : (Name.var s).references = references s := rfl

@[simp] theorem references_label (s : String) : (Name.label s).references = references s := rfl

@[simp] theorem references_type (s : String) : (Name.type s).references = references s := rfl

@[simp] theorem references_property (s : String) : (Name.property s).references = references s := rfl

@[simp] theorem references_key (s : String) : (Name.key s).references = references s := rfl

@[simp] theorem references_given (s : String) : (Name.given s).references = references s := rfl

@[simp] theorem references_quoted (s : String) : (Name.quoted s).references = references s := rfl

@[simp] theorem references_function (s : String) : (Name.function s).references = references s := rfl

theorem references_paramName (s : String) : (Name.param s).references = references ("$" ++ s) := rfl

theorem nameReferences_var (vars : List String) :
    nameReferences (vars.map Name.var) = vars.flatMap Text.references := List.flatMap_map ..

/-! ## Expressions, predicates and patterns -/

theorem references_repr (n : Nat) : references (Nat.repr n) = [] := by
  refine references_plain fun hmem => ?_
  rw [Nat.repr, String.toList_ofList] at hmem
  have hdigit := Nat.isDigit_of_mem_toDigits (by decide) (by decide) hmem
  exact absurd hdigit (by decide)

theorem references_int (n : Int) : references (Expr.int n).text = [] := by
  rw [Expr.text]
  split
  · rw [references_append_of_plain (by decide), references_repr]
  · exact references_repr _

theorem references_edge (e : Edge) : references e.text = nameReferences e.names := by
  obtain ⟨binder, type, arrow⟩ := e
  have hbody : references ("[" ++ binder.getD "" ++ ":" ++ type ++ "]") =
      nameReferences (Edge.names ⟨binder, type, arrow⟩) := by
    rw [references_closed (by decide), references_separated (by decide), references_append_of_plain (by decide)]
    cases binder with
    | none =>
      simp [Edge.names]
      rfl
    | some b => simp [Edge.names]
  cases arrow <;> simp only [Edge.text] <;>
    rw [references_closed (by decide), references_append_of_plain (by decide), hbody]

theorem references_nodeHead (binder label : Option String) :
    references (binder.getD "" ++ optionalText ":" label) =
      nameReferences ((binder.map Name.var).toList ++ (label.map Name.label).toList) := by
  have hlabel : references (optionalText ":" label) = nameReferences (label.map Name.label).toList := by
    cases label with
    | none => rfl
    | some l =>
      rw [optionalText, references_append_of_plain (by decide)]
      simp
  have hends : Ends (optionalText ":" label).toList := by
    cases label with
    | none => simp [optionalText, Ends]
    | some l => exact Separates.ends_append (by decide) _
  rw [references_append hends, hlabel, nameReferences_append]
  cases binder with
  | none => rfl
  | some b => simp

theorem ends_nodeText (n : Node) : Ends n.text.toList := by
  obtain ⟨binder, label, props⟩ := n
  simp only [Node.text, String.append_assoc]
  exact Separates.ends_append (by decide) _

theorem ends_hopsText (hops : List (Edge × Node)) : Ends (hopsText hops).toList := by
  cases hops with
  | nil => simp [hopsText, Ends]
  | cons h rest =>
    obtain ⟨⟨binder, type, arrow⟩, n⟩ := h
    cases arrow <;> simp only [hopsText, Edge.text, String.append_assoc] <;> exact Separates.ends_append (by decide) _

mutual
theorem Expr.references_text : (e : Expr) → references e.text = nameReferences e.names
  | .var name => by simp [Expr.text, Expr.names]
  | .prop var key => by
    simp only [Expr.text, Expr.names]
    rw [references_separated (by decide)]
    simp
  | .param name => by simp [Expr.text, Expr.names, references_paramName]
  | .entry param key => by
    simp only [Expr.text, Expr.names]
    rw [references_closed (by decide), references_separated (by decide), key.references_text]
    simp [references_paramName]
  | .null => by simp only [Expr.text]; exact references_plain (by decide)
  | .int n => references_int n
  | .quoted name => by
    simp only [Expr.text, Expr.names]
    rw [references_closed (by decide), references_append_of_plain (by decide)]
    simp
  | .call function distinct args => by
    have hargs : references (", ".intercalate (exprTexts args)) = nameReferences (exprNames args) := by
      rw [references_intercalate (by decide), references_exprTexts args]
    simp only [Expr.text, Expr.names]
    rw [references_closed (by decide), String.append_assoc, references_separated (by decide),
      references_append_of_plain (by cases distinct <;> decide), hargs]
    simp
  | .comprehension binder source item => by
    simp only [Expr.text, Expr.names]
    rw [references_closed (by decide), references_separated (by decide), references_separated (by decide),
      references_append_of_plain (by decide), source.references_text, item.references_text]
    simp
  | .map entries => by
    simp only [Expr.text, Expr.names]
    rw [references_closed (by decide), references_append_of_plain (by decide), references_intercalate (by decide),
      references_entryTexts entries]
  | .choice test yes no => by
    simp only [Expr.text, Expr.names]
    rw [references_closed (by decide), references_separated (by decide), references_separated (by decide),
      references_append_of_plain (by decide), test.references_text, yes.references_text, no.references_text]
    simp
  | .keys map => by
    simp only [Expr.text, Expr.names]
    rw [references_closed (by decide), references_append_of_plain (by decide), map.references_text]
  | .truth test => by
    simp only [Expr.text, Expr.names]
    exact test.references_text
theorem references_exprTexts : (es : List Expr) →
    (exprTexts es).flatMap references = nameReferences (exprNames es)
  | [] => rfl
  | e :: rest => by
    rw [exprTexts, exprNames, List.flatMap_cons, nameReferences_append, e.references_text, references_exprTexts rest]
theorem references_entryTexts : (es : List (String × Expr)) →
    (entryTexts es).flatMap references = nameReferences (entryNames es)
  | [] => rfl
  | (k, e) :: rest => by
    rw [entryTexts, entryNames, List.flatMap_cons, references_separated (by decide), e.references_text,
      references_entryTexts rest]
    simp
theorem Predicate.references_text : (p : Predicate) → references p.text = nameReferences p.names
  | .eq left right => by
    simp only [Predicate.text, Predicate.names]
    rw [references_separated (by decide), left.references_text, right.references_text, nameReferences_append]
  | .gt left right => by
    simp only [Predicate.text, Predicate.names]
    rw [references_separated (by decide), left.references_text, right.references_text, nameReferences_append]
  | .isIn item list => by
    simp only [Predicate.text, Predicate.names]
    rw [references_separated (by decide), item.references_text, list.references_text, nameReferences_append]
  | .isNull e => by
    simp only [Predicate.text, Predicate.names]
    rw [references_closed (by decide), e.references_text]
  | .isNotNull e => by
    simp only [Predicate.text, Predicate.names]
    rw [references_closed (by decide), e.references_text]
  | .hasLabel var label => by
    simp only [Predicate.text, Predicate.names]
    rw [references_separated (by decide)]
    simp
  | .inLabels label var => by
    simp only [Predicate.text, Predicate.names]
    rw [references_closed (by decide), references_separated (by decide), label.references_text]
    simp
  | .all parts => by
    simp only [Predicate.text, Predicate.names]
    rw [references_intercalate (by decide), references_predicateTexts parts]
  | .any parts => by
    simp only [Predicate.text, Predicate.names]
    rw [references_closed (by decide), references_append_of_plain (by decide), references_intercalate (by decide),
      references_predicateTexts parts]
  | .not p => by
    simp only [Predicate.text, Predicate.names]
    rw [references_closed (by decide), references_append_of_plain (by decide), p.references_text]
  | .exists pattern => by
    simp only [Predicate.text, Predicate.names]
    rw [references_closed (by decide), references_append_of_plain (by decide), pattern.references_text]
theorem references_predicateTexts : (ps : List Predicate) →
    (predicateTexts ps).flatMap references = nameReferences (predicateNames ps)
  | [] => rfl
  | p :: rest => by
    rw [predicateTexts, predicateNames, List.flatMap_cons, nameReferences_append, p.references_text,
      references_predicateTexts rest]
theorem Node.references_text : (n : Node) → references n.text = nameReferences n.names
  | ⟨binder, label, props⟩ => by
    simp only [Node.text, Node.names]
    rw [references_closed (by decide)]
    cases hprops : props.isEmpty with
    | true =>
      rw [if_pos rfl, String.append_empty, references_append_of_plain (by decide), references_nodeHead,
        List.isEmpty_iff.1 hprops, entryNames, List.append_nil]
    | false =>
      have hgap : '$' ∉ (if binder.isSome || label.isSome then " " else "").toList := by split <;> decide
      have hmap : ∀ gap ∈ [" ", ""], Ends (gap ++ "\x7b" ++ ", ".intercalate (entryTexts props) ++ "\x7d").toList := by
        simp only [List.forall_mem_cons, String.append_assoc]
        exact ⟨Separates.ends_append (by decide) _, Separates.ends_append (s := "\x7b") (by decide) _, by simp⟩
      rw [if_neg Bool.false_ne_true, references_append (hmap _ (by split <;> simp)),
        references_append_of_plain (by decide), references_nodeHead, references_closed (by decide), String.append_assoc,
        references_append_of_plain hgap, references_append_of_plain (by decide), references_intercalate (by decide),
        references_entryTexts props, nameReferences_append, nameReferences_append, nameReferences_append]
theorem Pattern.references_text : (p : Pattern) → references p.text = nameReferences p.names
  | ⟨start, hops⟩ => by
    rw [Pattern.text, Pattern.names, references_append (ends_hopsText hops), start.references_text,
      references_hopsText hops, nameReferences_append]
theorem references_hopsText : (hops : List (Edge × Node)) →
    references (hopsText hops) = nameReferences (hopNames hops)
  | [] => rfl
  | (e, n) :: rest => by
    rw [hopsText, hopNames, references_append (ends_hopsText rest), references_append (ends_nodeText n),
      references_edge, n.references_text, references_hopsText rest, nameReferences_append, nameReferences_append]
end

/-! ## Clauses -/

theorem Column.references_text (col : Column) : references col.text = nameReferences col.names := by
  cases col with
  | var name given =>
    cases given with
    | none => simp [Column.text, Column.names]
    | some g =>
      rw [Column.text, Column.names, references_separated (by decide)]
      simp
  | expr e given =>
    rw [Column.text, Column.names, references_separated (by decide), e.references_text]
    simp

theorem SortKey.references_text (k : SortKey) : references k.text = nameReferences k.expr.names := by
  rw [SortKey.text, references_closed (by split <;> decide), k.expr.references_text]

theorem Assignment.references_text (a : Assignment) : references a.text = nameReferences a.names := by
  cases a with
  | assign var key value =>
    rw [Assignment.text, Assignment.names, references_separated (by decide), references_separated (by decide),
      value.references_text]
    simp
  | overlay var map =>
    rw [Assignment.text, Assignment.names, references_separated (by decide), map.references_text]
    simp

/-- Items that are listed with commas refer to what each of them refers to. -/
theorem references_listed {α : Type} {text : α → String} {names : α → List Name}
    (h : ∀ a, references (text a) = nameReferences (names a)) (items : List α) :
    references (", ".intercalate (items.map text)) = nameReferences (items.flatMap names) := by
  rw [references_intercalate (by decide), List.flatMap_map, nameReferences, List.flatMap_assoc]
  exact congrArg (items.flatMap ·) (funext h)

theorem references_vars (vars : List String) :
    references (", ".intercalate vars) = nameReferences (vars.map Name.var) := by
  rw [references_intercalate (by decide), nameReferences_var]

theorem references_columnsText (distinct : Bool) (columns : List Column) :
    references (columnsText distinct columns) = nameReferences (columns.flatMap Column.names) := by
  rw [columnsText, references_append_of_plain (by cases distinct <;> decide),
    references_listed Column.references_text]

theorem references_whereText (predicate : Option Predicate) :
    references (whereText predicate) = nameReferences (whereNames predicate) := by
  cases predicate with
  | none => rfl
  | some p =>
    rw [whereText, Option.map_some, optionalText, references_append_of_plain (by decide), p.references_text]
    rfl

theorem ends_whereText (predicate : Option Predicate) : Ends (whereText predicate).toList := by
  cases predicate with
  | none => simp [whereText, optionalText, Ends]
  | some p => exact Separates.ends_append (by decide) _

theorem references_orderText (order : List SortKey) :
    references (orderText order) = nameReferences (orderNames order) := by
  unfold orderText
  cases order with
  | nil => rfl
  | cons k rest =>
    rw [if_neg (by simp), references_append_of_plain (by decide), references_listed SortKey.references_text]
    rfl

theorem ends_orderText (order : List SortKey) : Ends (orderText order).toList := by
  unfold orderText
  split
  · simp [Ends]
  · exact Separates.ends_append (by decide) _

theorem references_windowText (w : Window) : references (windowText w) = windowReferences w := by
  cases w with
  | all => rfl
  | first limit =>
    show references ("\nLIMIT $" ++ limitParam) = [limitParam]
    decide
  | offset skip limit =>
    show references ("\nSKIP $" ++ skipParam ++ " LIMIT $" ++ limitParam) = [skipParam, limitParam]
    decide

theorem ends_windowText (w : Window) : Ends (windowText w).toList := by
  cases w with
  | all => simp [windowText, Ends]
  | first limit =>
    show Ends ("\nLIMIT $" ++ limitParam).toList
    decide
  | offset skip limit =>
    show Ends ("\nSKIP $" ++ skipParam ++ " LIMIT $" ++ limitParam).toList
    decide

theorem references_blockText {opening : String} (h : '$' ∉ opening.toList) (content : String) :
    references (blockText opening content) = references content := by
  have hindented (line : String) : references (Text.indented line) = references line :=
    references_append_of_plain (by decide) line
  rw [blockText, references_intercalate (by decide), List.flatMap_append, List.flatMap_cons, List.flatMap_map,
    references_plain h, List.nil_append]
  simp only [hindented, Text.flatMap_references_lines]
  exact List.append_nil _

mutual
theorem Clause.references_text (w : Window) : (k : Clause) → references (k.text w) = k.references w
  | .pattern p optional predicate => by
    rw [Clause.text, Clause.references, references_append (ends_whereText predicate), String.append_assoc,
      references_append_of_plain (by cases optional <;> decide), references_append_of_plain (by decide),
      p.references_text, references_whereText, nameReferences_append]
  | .procedure name args yields => by
    have hyields : references (if yields.isEmpty then "" else " YIELD " ++ ", ".intercalate yields) =
        nameReferences (yields.map Name.var) := by
      cases yields with
      | nil => rfl
      | cons y rest => rw [if_neg (by simp), references_append_of_plain (by decide), references_vars]
    have hends : Ends (if yields.isEmpty then "" else " YIELD " ++ ", ".intercalate yields).toList := by
      split
      · simp [Ends]
      · exact Separates.ends_append (by decide) _
    rw [Clause.text, Clause.references, references_append hends, hyields, references_closed (by decide),
      references_separated (by decide), references_append_of_plain (by decide), references_intercalate (by decide),
      references_exprTexts, nameReferences_append, List.append_assoc]
  | .subquery imports body => by
    have hbody : references ("\n".intercalate (clauseTexts w body)) = clauseReferences w body := by
      rw [references_intercalate (by decide), references_clauseTexts w body]
    rw [Clause.text, Clause.references, references_blockText (by decide)]
    cases imports with
    | nil => exact hbody
    | cons i rest =>
      rw [if_neg (by simp), references_separated (by decide), references_append_of_plain (by decide), references_vars,
        hbody]
  | .projection columns distinct predicate order page => by
    have hpage : references (if page then windowText w else "") = if page then windowReferences w else [] := by
      cases page with
      | true => exact references_windowText w
      | false => rfl
    have hends : Ends (if page then windowText w else "").toList := by
      cases page with
      | true => exact ends_windowText w
      | false => simp [Ends]
    rw [Clause.text, Clause.references, references_append hends, references_append (ends_orderText order),
      references_append (ends_whereText predicate), references_append_of_plain (by decide), references_columnsText,
      references_whereText, references_orderText, hpage, nameReferences_append, nameReferences_append]
  | .unwind list binder => by
    rw [Clause.text, Clause.references, references_separated (by decide), references_append_of_plain (by decide),
      list.references_text]
    simp
  | .create p => by
    rw [Clause.text, Clause.references, references_append_of_plain (by decide), p.references_text]
  | .merge p => by
    rw [Clause.text, Clause.references, references_append_of_plain (by decide), p.references_text]
  | .set items => by
    rw [Clause.text, Clause.references, references_append_of_plain (by decide),
      references_listed Assignment.references_text]
  | .delete vars detach => by
    rw [Clause.text, Clause.references, String.append_assoc,
      references_append_of_plain (by cases detach <;> decide), references_append_of_plain (by decide),
      references_vars]
  | .returning columns distinct order => by
    rw [Clause.text, Clause.references, references_append (ends_orderText order),
      references_append_of_plain (by decide), references_columnsText, references_orderText, nameReferences_append]
theorem references_clauseTexts (w : Window) : (ks : List Clause) →
    (clauseTexts w ks).flatMap references = clauseReferences w ks
  | [] => rfl
  | k :: rest => by
    rw [clauseTexts, clauseReferences, List.flatMap_cons, k.references_text, references_clauseTexts w rest]
end

/-- The text of clauses refers to what the clauses refer to. -/
theorem references_render (w : Window) (ks : List Clause) : references (render w ks) = clauseReferences w ks := by
  rw [render, references_intercalate (by decide), references_clauseTexts]

/-! ## The parameters of a rendered statement -/

theorem Statement.contains_windowParams (params : Params) (w : Window) (p : String) :
    (windowParams params w).contains p = true ↔ p ∈ windowReferences w ∨ params.contains p = true := by
  cases w <;> simp [windowParams, windowReferences, or_left_comm, or_assoc]

theorem Statement.contains_render (s : Statement) (w : Window) (p : String) :
    (s.render w).params.contains p = true ↔
      s.params.contains p = true ∨ s.isPaginated = true ∧ p ∈ windowReferences w := by
  show (if s.isPaginated then windowParams s.params w else s.params).contains p = true ↔ _
  split
  · rename_i hpaged
    rw [contains_windowParams]
    simp [hpaged, or_comm]
  · rename_i hpaged
    simp [hpaged]

end EntityGraph.Cypher
