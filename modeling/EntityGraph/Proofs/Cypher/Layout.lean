import EntityGraph.Proofs.Cypher.Lines

/-!
# The layout of a statement

Clauses are written below one another, some of them in several lines. The lines of a subquery stand between two braces
and two columns to the right, with those of the subqueries inside it, so that a line says by its first column how deep
it lies. All of this needs names that stay in their line: a name with a line break would be torn apart.
-/
namespace EntityGraph.Cypher

open Paging (Window)
open Text (Unbroken)

/-! ## Lines -/

/-- A line of a statement: how many subqueries it lies in, and what it reads there. -/
structure Line where
  depth : Nat
  text : String

/-- A line moved to the right by two columns for each subquery around it. -/
def indentedBy (depth : Nat) (line : String) : String := String.ofList (List.replicate (2 * depth) ' ') ++ line

theorem indentedBy_zero (line : String) : indentedBy 0 line = line := String.empty_append

theorem indentedBy_succ (depth : Nat) (line : String) :
    indentedBy (depth + 1) line = Text.indented (indentedBy depth line) := by
  have hcolumns : List.replicate (2 * (depth + 1)) ' ' = ' ' :: ' ' :: List.replicate (2 * depth) ' ' := rfl
  refine String.toList_inj.1 ?_
  simp only [indentedBy, Text.indented, hcolumns, String.toList_append, String.toList_ofList]
  rfl

namespace Line

/-- The line as it is shown. -/
def shown (l : Line) : String := indentedBy l.depth l.text

/-- The line inside one more subquery. -/
def inner (l : Line) : Line := ⟨l.depth + 1, l.text⟩

theorem map_shown_outermost (ls : List String) : (ls.map (Line.mk 0)).map shown = ls := by
  rw [List.map_map]
  exact List.map_id'' indentedBy_zero ls

theorem map_shown_inner (ls : List Line) : (ls.map inner).map shown = (ls.map shown).map Text.indented := by
  rw [List.map_map, List.map_map]
  exact List.map_congr_left fun l _ => indentedBy_succ l.depth l.text

end Line

/-- Whether a text begins with a character that is no space. -/
def Flush (s : String) : Prop := s.toList.head?.any (· != ' ') = true

instance (s : String) : Decidable (Flush s) := inferInstanceAs (Decidable (_ = true))

/-- A text that can be a line: it stays in one, and it begins in the first column. -/
structure IsLine (s : String) : Prop where
  unbroken : Unbroken s
  flush : Flush s

theorem Flush.append {s : String} (h : Flush s) (t : String) : Flush (s ++ t) := by
  unfold Flush at *
  rw [String.toList_append, List.head?_append]
  cases hfirst : s.toList.head? with
  | none => simp [hfirst] at h
  | some ch => simpa [hfirst] using h

theorem IsLine.append {s t : String} (h : IsLine s) (ht : Unbroken t) : IsLine (s ++ t) :=
  ⟨h.unbroken.append ht, h.flush.append t⟩

instance (s : String) : Decidable (IsLine s) :=
  decidable_of_iff (Unbroken s ∧ Flush s) ⟨fun h => ⟨h.1, h.2⟩, fun h => ⟨h.unbroken, h.flush⟩⟩

/-- A line begins in the column that its depth says. -/
theorem Line.length_takeWhile_shown {l : Line} (h : IsLine l.text) :
    (l.shown.toList.takeWhile (· == ' ')).length = 2 * l.depth := by
  have hstop : l.text.toList.takeWhile (· == ' ') = [] := by
    have hflush := h.flush
    unfold Flush at hflush
    cases hchars : l.text.toList with
    | nil => rfl
    | cons ch rest =>
      have hch : ch ≠ ' ' := by simpa [hchars] using hflush
      simp [hch]
  have hspaces : ∀ ch ∈ List.replicate (2 * l.depth) ' ', (ch == ' ') = true := by simp
  rw [Line.shown, indentedBy, String.toList_append, String.toList_ofList, List.takeWhile_append_of_pos hspaces, hstop,
    List.append_nil, List.length_replicate]

theorem unbroken_columns (n : Nat) : Unbroken (String.ofList (List.replicate n ' ')) := by
  have hspace : ∀ ch ∈ List.replicate n ' ', ch = ' ' := fun _ => List.eq_of_mem_replicate
  rw [Unbroken, String.toList_ofList]
  refine ⟨fun hmem => ?_, fun hlast => ?_⟩
  · exact absurd (hspace _ hmem) (by decide)
  · exact absurd (hspace _ (List.mem_of_getLast? hlast)) (by decide)

theorem Line.shown_unbroken {l : Line} (h : IsLine l.text) : Unbroken l.shown ∧ l.shown ≠ "" := by
  refine ⟨(unbroken_columns _).append h.unbroken, fun hempty => ?_⟩
  have htext : l.text = "" := (String.append_eq_empty_iff.1 hempty).2
  exact absurd (htext ▸ h.flush) (by decide)

/-! ## The lines of clauses -/

/-- The line of a predicate, if there is one. -/
def whereLines (predicate : Option Predicate) : List String := (predicate.map fun p => "WHERE " ++ p.text).toList

/-- The line of an ordering, if it has keys. -/
def orderLines (order : List SortKey) : List String :=
  if order.isEmpty then [] else ["ORDER BY " ++ ", ".intercalate (order.map SortKey.text)]

/-- The line of a window, if it has one. -/
def windowLines : Window → List String
  | .all => []
  | .first _ => ["LIMIT $" ++ limitParam]
  | .offset _ _ => ["SKIP $" ++ skipParam ++ " LIMIT $" ++ limitParam]

/-- The line of the variables that a subquery imports, if it imports any. -/
def importLines (imports : List String) : List String :=
  if imports.isEmpty then [] else ["WITH " ++ ", ".intercalate imports]

/-- The first line of a clause. -/
def Clause.head : Clause → String
  | .pattern p optional _ => (if optional then "OPTIONAL MATCH " else "MATCH ") ++ p.text
  | .procedure name args yields =>
    "CALL " ++ name ++ "(" ++ ", ".intercalate (exprTexts args) ++ ")" ++
      (if yields.isEmpty then "" else " YIELD " ++ ", ".intercalate yields)
  | .subquery _ _ => "CALL \x7b"
  | .projection columns distinct _ _ _ => "WITH " ++ columnsText distinct columns
  | .unwind list binder => "UNWIND " ++ list.text ++ " AS " ++ binder
  | .create p => "CREATE " ++ p.text
  | .merge p => "MERGE " ++ p.text
  | .set items => "SET " ++ ", ".intercalate (items.map Assignment.text)
  | .delete vars detach => (if detach then "DETACH DELETE " else "DELETE ") ++ ", ".intercalate vars
  | .returning columns distinct _ => "RETURN " ++ columnsText distinct columns

/-- The lines that a clause other than a subquery has behind the first one. -/
def Clause.further (w : Window) : Clause → List String
  | .pattern _ _ predicate => whereLines predicate
  | .projection _ _ predicate order page =>
    whereLines predicate ++ (orderLines order ++ if page then windowLines w else [])
  | .returning _ _ order => orderLines order
  | _ => []

mutual
/-- The lines of a clause, each with its depth. -/
def Clause.layout (w : Window) : Clause → List Line
  | .subquery imports body =>
    ⟨0, "CALL \x7b"⟩ :: (((importLines imports).map (Line.mk 0) ++ layouts w body).map Line.inner ++ [⟨0, "\x7d"⟩])
  | k => (k.head :: k.further w).map (Line.mk 0)
/-- The lines of clauses, in order. -/
def layouts (w : Window) : List Clause → List Line
  | [] => []
  | k :: rest => k.layout w ++ layouts w rest
end

theorem Clause.layout_ne_nil (w : Window) (k : Clause) : k.layout w ≠ [] := by
  cases k <;> simp [Clause.layout]

theorem layouts_ne_nil (w : Window) (k : Clause) (rest : List Clause) : layouts w (k :: rest) ≠ [] := by
  rw [layouts]
  exact List.append_ne_nil_of_left_ne_nil (k.layout_ne_nil w) _

/-- A clause no name of which breaks a line, that of a procedure included. -/
structure Clause.Tidy (k : Clause) : Prop where
  names : UnbrokenNames k.names
  procedures : ∀ name ∈ k.procedures, Unbroken name

theorem tidy_of_mem {ks : List Clause} (hnames : UnbrokenNames (clauseNames ks))
    (hprocedures : ∀ name ∈ proceduresOf ks, Unbroken name) : ∀ k ∈ ks, k.Tidy := by
  rw [clauseNames_eq] at hnames
  rw [proceduresOf_eq] at hprocedures
  exact fun k hk => ⟨fun n hn => hnames n (List.mem_flatMap.2 ⟨k, hk, hn⟩),
    fun name hname => hprocedures name (List.mem_flatMap.2 ⟨k, hk, hname⟩)⟩

theorem Clause.Tidy.of_subquery {imports : List String} {body : List Clause} (h : (Clause.subquery imports body).Tidy) :
    (∀ i ∈ imports, Unbroken i) ∧ ∀ k ∈ body, k.Tidy := by
  obtain ⟨himports, hbody⟩ := List.forall_mem_append.1 h.names
  exact ⟨fun i hi => himports _ (List.mem_map_of_mem hi), tidy_of_mem hbody h.procedures⟩

/-! ### Each of them is a line -/

theorem isLine_where {predicate : Option Predicate} (h : UnbrokenNames (whereNames predicate)) :
    ∀ s ∈ whereLines predicate, IsLine s := by
  cases predicate with
  | none => exact List.forall_mem_nil _
  | some p =>
    have hline : IsLine ("WHERE " ++ p.text) := .append (by decide) (p.unbroken_text h)
    exact List.forall_mem_singleton.2 hline

theorem isLine_order {order : List SortKey} (h : UnbrokenNames (orderNames order)) :
    ∀ s ∈ orderLines order, IsLine s := by
  cases order with
  | nil => exact List.forall_mem_nil _
  | cons key rest =>
    have hline := IsLine.append (s := "ORDER BY ") (by decide) (unbroken_items SortKey.unbroken_text h)
    exact List.forall_mem_singleton.2 hline

theorem isLine_window (w : Window) : ∀ s ∈ windowLines w, IsLine s := by
  have hfirst : IsLine ("LIMIT $" ++ limitParam) := by decide
  have hoffset : IsLine ("SKIP $" ++ skipParam ++ " LIMIT $" ++ limitParam) := by decide
  cases w with
  | all => exact List.forall_mem_nil _
  | first limit => exact List.forall_mem_singleton.2 hfirst
  | offset skip limit => exact List.forall_mem_singleton.2 hoffset

theorem isLine_import {imports : List String} (h : ∀ i ∈ imports, Unbroken i) :
    ∀ s ∈ importLines imports, IsLine s := by
  cases imports with
  | nil => exact List.forall_mem_nil _
  | cons i rest =>
    have hline := IsLine.append (s := "WITH ") (by decide) (unbroken_listed h)
    exact List.forall_mem_singleton.2 hline

theorem Clause.Tidy.isLine_head {k : Clause} (h : k.Tidy) : IsLine k.head := by
  have hnames := h.names
  cases k with
  | pattern p optional predicate =>
    refine .append ?_ (p.unbroken_text (List.forall_mem_append.1 hnames).1)
    cases optional <;> decide
  | procedure name args yields =>
    obtain ⟨hargs, hyields⟩ := List.forall_mem_append.1 hnames
    have hname : Unbroken name := h.procedures name (List.mem_singleton_self _)
    have hcall := IsLine.append (s := "CALL ") (by decide) hname
    refine (((hcall.append (by decide)).append (unbroken_listed (unbroken_exprTexts args hargs))).append
      (by decide)).append (unbroken_ite (by decide) ?_)
    exact .append (by decide) (unbroken_vars hyields)
  | subquery imports body => exact (by decide : IsLine "CALL \x7b")
  | projection columns distinct predicate order page =>
    obtain ⟨hnames, -⟩ := List.forall_mem_append.1 hnames
    exact .append (by decide) (unbroken_columnsText distinct (List.forall_mem_append.1 hnames).1)
  | unwind list binder =>
    obtain ⟨hlist, hbinder⟩ := List.forall_mem_append.1 hnames
    have hfrom := IsLine.append (s := "UNWIND ") (by decide) (list.unbroken_text hlist)
    exact (hfrom.append (by decide)).append (hbinder _ (List.mem_singleton_self _))
  | create p => exact .append (by decide) (p.unbroken_text hnames)
  | merge p => exact .append (by decide) (p.unbroken_text hnames)
  | set items => exact .append (by decide) (unbroken_items Assignment.unbroken_text hnames)
  | delete vars detach =>
    refine .append ?_ (unbroken_vars hnames)
    cases detach <;> decide
  | returning columns distinct order =>
    exact .append (by decide) (unbroken_columnsText distinct (List.forall_mem_append.1 hnames).1)

theorem Clause.Tidy.isLine_further {k : Clause} (h : k.Tidy) (w : Window) : ∀ s ∈ k.further w, IsLine s := by
  have hnames := h.names
  cases k with
  | pattern p optional predicate => exact isLine_where (List.forall_mem_append.1 hnames).2
  | projection columns distinct predicate order page =>
    obtain ⟨hnames, horder⟩ := List.forall_mem_append.1 hnames
    have hwhere := isLine_where (List.forall_mem_append.1 hnames).2
    have hwindow : ∀ s ∈ if page then windowLines w else [], IsLine s := by
      cases page with
      | false => exact List.forall_mem_nil _
      | true => exact isLine_window w
    exact List.forall_mem_append.2 ⟨hwhere, List.forall_mem_append.2 ⟨isLine_order horder, hwindow⟩⟩
  | returning columns distinct order => exact isLine_order (List.forall_mem_append.1 hnames).2
  | _ => exact List.forall_mem_nil _

/-! ## The text of clauses -/

theorem whereText_eq (predicate : Option Predicate) : whereText predicate = Text.below (whereLines predicate) := by
  cases predicate with
  | none => rfl
  | some p =>
    have hbreak : "\nWHERE " = "\n" ++ "WHERE " := rfl
    simp only [whereText, whereLines, optionalText, Option.map_some, Option.toList_some, Text.below, hbreak,
      String.append_assoc, String.append_empty]

theorem orderText_eq (order : List SortKey) : orderText order = Text.below (orderLines order) := by
  cases order with
  | nil => rfl
  | cons key rest =>
    have hbreak : "\nORDER BY " = "\n" ++ "ORDER BY " := rfl
    simp only [orderText, orderLines, List.isEmpty_cons, Bool.false_eq_true, if_false, Text.below, hbreak,
      String.append_assoc, String.append_empty]

theorem windowText_eq (w : Window) : windowText w = Text.below (windowLines w) := by
  cases w <;> rfl

/-- A clause that is no subquery. -/
def Clause.IsFlat (k : Clause) : Prop := ∀ imports body, k ≠ .subquery imports body

theorem Clause.text_of_flat (w : Window) {k : Clause} (h : k.IsFlat) :
    k.text w = "\n".intercalate (k.head :: k.further w) := by
  rw [Text.intercalate_eq_below]
  cases k with
  | pattern p optional predicate =>
    rw [Clause.text, Clause.head, Clause.further, whereText_eq]
    cases optional <;> rfl
  | subquery imports body => exact absurd rfl (h imports body)
  | projection columns distinct predicate order page =>
    rw [Clause.text, Clause.head, Clause.further, whereText_eq, orderText_eq, windowText_eq, Text.below_append,
      Text.below_append]
    cases page <;> simp only [String.append_assoc, if_true, Bool.false_eq_true, if_false, Text.below]
  | returning columns distinct order => rw [Clause.text, Clause.head, Clause.further, orderText_eq]
  | delete vars detach =>
    have hfurther : (Clause.delete vars detach).further w = [] := rfl
    rw [Clause.text, Clause.head, hfurther, Text.below, String.append_empty]
    cases detach <;> rfl
  | _ => simp [Clause.text, Clause.head, Clause.further, Text.below]

theorem Clause.layout_of_flat (w : Window) {k : Clause} (h : k.IsFlat) :
    k.layout w = (k.head :: k.further w).map (Line.mk 0) := by
  cases k with
  | subquery imports body => exact absurd rfl (h imports body)
  | _ => simp only [Clause.layout]

/-- What holds of clauses other than subqueries, and of a subquery if it holds of the clauses in it, holds of all. -/
@[elab_as_elim]
theorem Clause.nested_induction {P : Clause → Prop} (flat : ∀ k : Clause, k.IsFlat → P k)
    (subquery : ∀ imports body, (∀ k ∈ body, P k) → P (.subquery imports body)) : (k : Clause) → P k
  | .subquery imports body => subquery imports body fun k _ => k.nested_induction flat subquery
  | .pattern .. => flat _ nofun
  | .procedure .. => flat _ nofun
  | .projection .. => flat _ nofun
  | .unwind .. => flat _ nofun
  | .create _ => flat _ nofun
  | .merge _ => flat _ nofun
  | .set _ => flat _ nofun
  | .delete .. => flat _ nofun
  | .returning .. => flat _ nofun

/-! ## The text is laid out -/

/-- What is promised of the lines of a clause: each is a line, and together they are its text. -/
structure Clause.LaidOut (w : Window) (k : Clause) : Prop where
  lines : ∀ l ∈ k.layout w, IsLine l.text
  text : k.text w = "\n".intercalate ((k.layout w).map Line.shown)

/-- What is promised of the lines of several clauses. -/
structure AllLaidOut (w : Window) (ks : List Clause) : Prop where
  lines : ∀ l ∈ layouts w ks, IsLine l.text
  text : render w ks = "\n".intercalate ((layouts w ks).map Line.shown)

section LaidOut

variable {w : Window}

theorem layouts_eq (ks : List Clause) : layouts w ks = ks.flatMap (Clause.layout w) := by
  induction ks with
  | nil => rfl
  | cons k rest ih => rw [layouts, ih, List.flatMap_cons]

/-- Clauses that are laid out make up lines that are. -/
theorem allLaidOut_of_forall {ks : List Clause} (h : ∀ k ∈ ks, k.LaidOut w) : AllLaidOut w ks := by
  induction ks with
  | nil => exact ⟨List.forall_mem_nil _, rfl⟩
  | cons k rest ih =>
    obtain ⟨hk, hrest⟩ := List.forall_mem_cons.1 h
    refine ⟨List.forall_mem_append.2 ⟨hk.lines, (ih hrest).lines⟩, ?_⟩
    -- Only between clauses there is a line break, so the last one is apart.
    cases rest with
    | nil =>
      rw [render, clauseTexts, clauseTexts, String.intercalate_singleton, layouts, layouts, List.append_nil]
      exact hk.text
    | cons k' rest =>
      have hne : ∀ ls : List Line, ls ≠ [] → ls.map Line.shown ≠ [] := fun ls => mt List.map_eq_nil_iff.1
      have hjoin := String.intercalate_append_of_ne_nil (s := "\n") (hne _ (k.layout_ne_nil w))
        (hne _ (layouts_ne_nil w k' rest))
      rw [layouts, List.map_append, hjoin, ← hk.text, ← (ih hrest).text]
      exact String.intercalate_cons_cons

/-- The lines of the text of clauses are those of their layout. -/
theorem AllLaidOut.lines_render {ks : List Clause} (h : AllLaidOut w ks) :
    Text.lines (render w ks) = (layouts w ks).map Line.shown := by
  rw [h.text, Text.lines_intercalate (List.forall_mem_map.2 fun l hl => Line.shown_unbroken (h.lines l hl))]

theorem AllLaidOut.intercalate_lines {ks : List Clause} (h : AllLaidOut w ks) :
    "\n".intercalate (Text.lines (render w ks)) = render w ks := by
  rw [h.lines_render, ← h.text]

theorem lines_importing {imports : List String} (h : ∀ i ∈ imports, Unbroken i) (t : String) :
    Text.lines ((if imports.isEmpty then "" else "WITH " ++ ", ".intercalate imports ++ "\n") ++ t) =
      importLines imports ++ Text.lines t := by
  cases imports with
  | nil => exact congrArg Text.lines String.empty_append
  | cons i rest => exact Text.lines_joined (Unbroken.append (by decide) (unbroken_listed h)) t

/-- A subquery is a block in braces: what it imports, and the lines of its body. -/
theorem Clause.text_subquery {imports : List String} (h : ∀ i ∈ imports, Unbroken i) (body : List Clause) :
    (Clause.subquery imports body).text w = "\n".intercalate ("CALL \x7b" ::
      ((importLines imports ++ Text.lines (render w body)).map Text.indented ++ ["\x7d"])) := by
  rw [Clause.text, blockText, lines_importing h]
  rfl

theorem Clause.layout_subquery (imports : List String) {body : List Clause} (h : AllLaidOut w body) :
    ((Clause.subquery imports body).layout w).map Line.shown = "CALL \x7b" ::
      ((importLines imports ++ Text.lines (render w body)).map Text.indented ++ ["\x7d"]) := by
  rw [Clause.layout, List.map_cons, List.map_append, Line.map_shown_inner, List.map_append, Line.map_shown_outermost,
    ← h.lines_render]
  rfl

theorem Clause.Tidy.laidOut_of_flat {k : Clause} (h : k.Tidy) (hflat : k.IsFlat) : k.LaidOut w := by
  constructor
  · rw [layout_of_flat w hflat]
    exact List.forall_mem_map.2 (List.forall_mem_cons.2 ⟨h.isLine_head, h.isLine_further w⟩)
  · rw [layout_of_flat w hflat, Line.map_shown_outermost, text_of_flat w hflat]

theorem Clause.laidOut_subquery {imports : List String} {body : List Clause} (himports : ∀ i ∈ imports, Unbroken i)
    (h : AllLaidOut w body) : (Clause.subquery imports body).LaidOut w := by
  constructor
  · have hopening : IsLine "CALL \x7b" := by decide
    have hclosing : IsLine "\x7d" := by decide
    have hinside : ∀ l ∈ (importLines imports).map (Line.mk 0) ++ layouts w body, IsLine l.text :=
      List.forall_mem_append.2 ⟨List.forall_mem_map.2 (isLine_import himports), h.lines⟩
    exact List.forall_mem_cons.2 ⟨hopening, List.forall_mem_append.2
      ⟨List.forall_mem_map.2 hinside, List.forall_mem_singleton.2 hclosing⟩⟩
  · rw [text_subquery himports, layout_subquery imports h]

/-- Clauses without line breaks in their names are laid out. The text of a subquery is made by splitting that of its
body, so the lines of the body have to be known first. -/
theorem Clause.Tidy.laidOut {k : Clause} (h : k.Tidy) : k.LaidOut w := by
  induction k using Clause.nested_induction with
  | flat k hflat => exact h.laidOut_of_flat hflat
  | subquery imports body ih =>
    obtain ⟨himports, hbody⟩ := h.of_subquery
    exact laidOut_subquery himports (allLaidOut_of_forall fun k hk => ih k hk (hbody k hk))

theorem allLaidOut {ks : List Clause} (h : ∀ k ∈ ks, k.Tidy) : AllLaidOut w ks :=
  allLaidOut_of_forall fun k hk => (h k hk).laidOut

end LaidOut

end EntityGraph.Cypher
