import EntityGraph.Proofs.Cypher.Layout

/-!
# Subqueries in the text of a statement

A subquery can be read off the text around it: without its braces and two columns to the left, its lines are those of
its body. The same holds of bodies inside bodies, at two columns for each subquery on the way.
-/
namespace EntityGraph.Cypher

open Paging (Window)
open Text (Unbroken)

/-- The lines between the first one and the last one, moved two columns to the left. -/
def unwrapped (text : String) : List String := (Text.lines text).tail.dropLast.map Text.outdented

/-- What is promised of the text of a subquery. -/
structure Block (w : Window) (imports : List String) (body : List Clause) : Prop where
  text : (Clause.subquery imports body).text w = "\n".intercalate ("CALL \x7b" ::
    ((importLines imports ++ Text.lines (render w body)).map Text.indented ++ ["\x7d"]))
  /-- Without the braces and the indentation, what is imported and the body are left. -/
  unwrapped : unwrapped ((Clause.subquery imports body).text w) = importLines imports ++ Text.lines (render w body)
  /-- The lines behind what is imported are the text of the body, character by character. -/
  recovered : "\n".intercalate
    ((Cypher.unwrapped ((Clause.subquery imports body).text w)).drop (importLines imports).length) = render w body

section Block

variable {w : Window} {imports : List String} {body : List Clause}

theorem unwrapped_subquery (himports : ∀ i ∈ imports, Unbroken i) (h : AllLaidOut w body) :
    unwrapped ((Clause.subquery imports body).text w) = importLines imports ++ Text.lines (render w body) := by
  have hlaid := Clause.laidOut_subquery himports h
  have hshown : ∀ l ∈ ((Clause.subquery imports body).layout w).map Line.shown, Unbroken l ∧ l ≠ "" :=
    List.forall_mem_map.2 fun l hl => Line.shown_unbroken (hlaid.lines l hl)
  have hback (ls : List String) : (ls.map Text.indented).map Text.outdented = ls :=
    List.map_map.trans (List.map_id'' Text.outdented_indented ls)
  rw [unwrapped, hlaid.text, Text.lines_intercalate hshown, Clause.layout_subquery imports h, List.tail_cons,
    List.dropLast_concat, hback]

theorem block_of_allLaidOut (himports : ∀ i ∈ imports, Unbroken i) (h : AllLaidOut w body) : Block w imports body where
  text := Clause.text_subquery himports body
  unwrapped := unwrapped_subquery himports h
  recovered := by rw [unwrapped_subquery himports h, List.drop_left, h.intercalate_lines]

end Block

/-- Clauses that stand inside others, with the number of subqueries around them. -/
inductive Nested : Nat → List Clause → List Clause → Prop
  | here (ks : List Clause) : Nested 0 ks ks
  | inside {depth : Nat} {ks body inner : List Clause} {imports : List String} (hmem : .subquery imports body ∈ ks)
      (h : Nested depth body inner) : Nested (depth + 1) ks inner

/-- The lines of a clause stand together among those of all clauses. -/
theorem layout_together (w : Window) {k : Clause} {ks : List Clause} (hk : k ∈ ks) : k.layout w <:+: layouts w ks := by
  obtain ⟨before, behind, rfl⟩ := List.append_of_mem hk
  refine ⟨layouts w before, layouts w behind, ?_⟩
  simp only [layouts_eq, List.flatMap_append, List.flatMap_cons, List.append_assoc]

/-- The lines of a body stand together among those of the clauses around it, indented. -/
theorem lines_body_together {w : Window} {imports : List String} {body ks : List Clause}
    (hmem : .subquery imports body ∈ ks) (hbody : AllLaidOut w body) (h : AllLaidOut w ks) :
    (Text.lines (render w body)).map Text.indented <:+: Text.lines (render w ks) := by
  have hblock := (layout_together w hmem).map Line.shown
  rw [Clause.layout_subquery imports hbody, ← h.lines_render, List.map_append] at hblock
  refine List.IsInfix.trans ⟨"CALL \x7b" :: (importLines imports).map Text.indented, ["\x7d"], ?_⟩ hblock
  rw [List.cons_append, List.cons_append, List.append_assoc]

/-- The lines of clauses at some depth stand together in the text, two columns to the right for each level. -/
theorem Nested.lines_together {w : Window} {depth : Nat} {ks inner : List Clause} (h : Nested depth ks inner)
    (htidy : ∀ k ∈ ks, k.Tidy) :
    (Text.lines (render w inner)).map (indentedBy depth) <:+: Text.lines (render w ks) := by
  induction h with
  | here ks =>
    have hsame : (Text.lines (render w ks)).map (indentedBy 0) = Text.lines (render w ks) :=
      List.map_id'' indentedBy_zero _
    simp only [hsame, List.infix_rfl]
  | @inside depth ks body inner imports hmem hnested ih =>
    have hbody := (htidy _ hmem).of_subquery.2
    have hdeeper : indentedBy (depth + 1) = Text.indented ∘ indentedBy depth := funext (indentedBy_succ depth)
    rw [hdeeper, ← List.map_map]
    exact ((ih hbody).map Text.indented).trans (lines_body_together hmem (allLaidOut hbody) (allLaidOut htidy))

/-- Subqueries are exactly indented. If no name breaks a line, a subquery with these clauses is a block from which they
can be recovered. Their own text consists of the lines of their layout, each of which begins two columns to the right
for each subquery around it, and holds the text of all clauses inside them, moved by their depth. -/
theorem subqueries_are_indented (w : Window) (ks : List Clause) (hnames : UnbrokenNames (clauseNames ks))
    (hprocedures : ∀ name ∈ proceduresOf ks, Unbroken name) :
    (∀ imports : List String, (∀ i ∈ imports, Unbroken i) → Block w imports ks) ∧
    render w ks = "\n".intercalate ((layouts w ks).map Line.shown) ∧
    Text.lines (render w ks) = (layouts w ks).map Line.shown ∧
    (∀ l ∈ layouts w ks, (l.shown.toList.takeWhile (· == ' ')).length = 2 * l.depth) ∧
    ∀ depth inner, Nested depth ks inner →
      (Text.lines (render w inner)).map (indentedBy depth) <:+: Text.lines (render w ks) := by
  have htidy := tidy_of_mem hnames hprocedures
  have h : AllLaidOut w ks := allLaidOut htidy
  exact ⟨fun imports himports => block_of_allLaidOut himports h, h.text, h.lines_render,
    fun l hl => Line.length_takeWhile_shown (h.lines l hl), fun depth inner hnested => hnested.lines_together htidy⟩

/-- A list of labels, and a subquery in several lines with an empty one inside. -/
def taggedLabels : List Clause :=
  [.procedure "db.labels" [] ["label"],
    .subquery ["label"]
      [.projection [.ofVar "label"] false (some (.isNotNull (.var "label"))) [⟨.var "label", true⟩] true,
        .subquery [] []],
    .returning [.ofVar "label"] false []]

theorem taggedLabels_are_indented : (∀ n ∈ clauseNames taggedLabels, Unbroken n.text) ∧
    (∀ name ∈ proceduresOf taggedLabels, Unbroken name) ∧
    Text.lines (render (.first 2) taggedLabels) = ["CALL db.labels() YIELD label", "CALL \x7b", "  WITH label",
      "  WITH label", "  WHERE label IS NOT NULL", "  ORDER BY label DESC", "  LIMIT $cursorLimit", "  CALL \x7b",
      "  \x7d", "\x7d", "RETURN label"] ∧
    unwrapped ((Clause.subquery [] taggedLabels).text (.first 2)) = Text.lines (render (.first 2) taggedLabels) := by
  have hnames : ∀ n ∈ clauseNames taggedLabels, Unbroken n.text := by decide
  have hprocedures : ∀ name ∈ proceduresOf taggedLabels, Unbroken name := by decide
  have h := subqueries_are_indented (.first 2) taggedLabels hnames hprocedures
  exact ⟨hnames, hprocedures, h.2.2.1.trans (by decide), (h.1 [] nofun).unwrapped.trans (List.nil_append _)⟩

end EntityGraph.Cypher
