import EntityGraph.Proofs.Text.Identifier
import EntityGraph.Text.Lines

/-!
# Parameters in a text

A text refers to a parameter by a dollar sign and the name behind it, as far as identifiers go. References do not
notice what stands around them as long as something that is no part of an identifier follows, so the references of a
text are those of its parts.
-/
namespace EntityGraph.Text

/-- The names of the parameters that characters refer to, in order. -/
def referencesIn : List Char → List String
  | [] => []
  | ch :: rest =>
    if ch = '$' then String.ofList (rest.takeWhile isIdentifierRest) :: referencesIn rest else referencesIn rest

/-- The names of the parameters that a text refers to, in order. -/
def references (s : String) : List String := referencesIn s.toList

/-- Characters that end an identifier before them: none, or first one that no identifier holds. -/
def Ends (cs : List Char) : Prop := ∀ ch ∈ cs.head?, isIdentifierRest ch = false

theorem ends_cons {ch : Char} (h : isIdentifierRest ch = false) (cs : List Char) : Ends (ch :: cs) := by
  intro d hd
  cases hd
  exact h

-- By the first character alone: a search over every character would decide it as well, and never end.
instance : (cs : List Char) → Decidable (Ends cs)
  | [] => .isTrue (by simp [Ends])
  | ch :: rest => decidable_of_iff (isIdentifierRest ch = false) ⟨fun h => ends_cons h rest, fun h => h ch rfl⟩

theorem takeWhile_append_of_ends {cs ds : List Char} (h : Ends ds) :
    (cs ++ ds).takeWhile isIdentifierRest = cs.takeWhile isIdentifierRest := by
  induction cs with
  | nil =>
    cases ds with
    | nil => rfl
    | cons d rest => rw [List.nil_append, List.takeWhile_cons, h d rfl, List.takeWhile_nil, if_neg Bool.false_ne_true]
  | cons ch rest ih => rw [List.cons_append, List.takeWhile_cons, List.takeWhile_cons, ih]

theorem referencesIn_append {cs ds : List Char} (h : Ends ds) :
    referencesIn (cs ++ ds) = referencesIn cs ++ referencesIn ds := by
  induction cs with
  | nil => rfl
  | cons ch rest ih =>
    rw [List.cons_append, referencesIn, referencesIn, takeWhile_append_of_ends h, ih]
    split <;> rfl

theorem referencesIn_append_of_plain {cs : List Char} (h : '$' ∉ cs) (ds : List Char) :
    referencesIn (cs ++ ds) = referencesIn ds := by
  induction cs with
  | nil => rfl
  | cons ch rest ih =>
    rw [List.mem_cons, not_or] at h
    rw [List.cons_append, referencesIn, if_neg (Ne.symm h.1), ih h.2]

theorem referencesIn_plain {cs : List Char} (h : '$' ∉ cs) : referencesIn cs = [] := by
  rw [← List.append_nil cs, referencesIn_append_of_plain h, referencesIn]

/-- A parameter refers to itself. -/
theorem referencesIn_param {name : List Char} (h : ∀ ch ∈ name, isIdentifierRest ch = true) :
    referencesIn ('$' :: name) = [String.ofList name] := by
  have hplain : '$' ∉ name := by
    intro hmem
    have hrest := h _ hmem
    rw [isIdentifierRest_dollar] at hrest
    cases hrest
  have hwhole : name.takeWhile isIdentifierRest = name := by
    rw [← List.append_nil name, List.takeWhile_append_of_pos h, List.takeWhile_nil]
  rw [referencesIn, if_pos rfl, referencesIn_plain hplain, hwhole]

/-! ## Texts -/

theorem references_plain {s : String} (h : '$' ∉ s.toList) : references s = [] := referencesIn_plain h

theorem references_append {s t : String} (h : Ends t.toList) : references (s ++ t) = references s ++ references t := by
  rw [references, String.toList_append, referencesIn_append h]
  rfl

theorem references_append_of_plain {s : String} (h : '$' ∉ s.toList) (t : String) :
    references (s ++ t) = references t := by
  rw [references, String.toList_append, referencesIn_append_of_plain h]
  rfl

theorem references_param {name : String} (h : ∀ ch ∈ name.toList, isIdentifierRest ch = true) :
    references ("$" ++ name) = [name] := by
  rw [references, String.toList_append]
  exact (referencesIn_param h).trans (congrArg (fun s => [s]) String.ofList_toList)

/-- What stands between two texts so that neither refers into the other. -/
def Separates (s : String) : Prop := s.toList ≠ [] ∧ Ends s.toList ∧ '$' ∉ s.toList

instance (s : String) : Decidable (Separates s) := inferInstanceAs (Decidable (_ ∧ _ ∧ _))

theorem ends_append_of_ne_nil {cs : List Char} (hne : cs ≠ []) (h : Ends cs) (ds : List Char) : Ends (cs ++ ds) := by
  cases cs with
  | nil => exact absurd rfl hne
  | cons ch rest => exact h

theorem Separates.ends_append {s : String} (h : Separates s) (t : String) : Ends (s ++ t).toList := by
  rw [String.toList_append]
  exact ends_append_of_ne_nil h.1 h.2.1 _

theorem references_separated {s between : String} (h : Separates between) (t : String) :
    references (s ++ between ++ t) = references s ++ references t := by
  rw [String.append_assoc, references_append (h.ends_append t), references_append_of_plain h.2.2]

theorem references_closed {s after : String} (h : Separates after) : references (s ++ after) = references s := by
  rw [references_append h.2.1, references_plain h.2.2, List.append_nil]

theorem references_intercalate {between : String} (h : Separates between) (texts : List String) :
    references (between.intercalate texts) = texts.flatMap references := by
  induction texts with
  | nil => rfl
  | cons t rest ih =>
    cases rest with
    | nil => simp
    | cons u rest =>
      rw [String.intercalate_cons_cons, references_separated h, ih, ← List.flatMap_cons]

/-! ## Lines -/

theorem isIdentifierRest_newline : isIdentifierRest '\n' = false := by decide

theorem isIdentifierRest_return : isIdentifierRest '\r' = false := by decide

theorem referencesIn_dropReturn (line : List Char) : referencesIn (dropReturn line) = referencesIn line := by
  unfold dropReturn
  split
  · rename_i hlast
    obtain ⟨front, rfl⟩ := List.getLast?_eq_some_iff.1 hlast
    have hreturn : referencesIn ['\r'] = [] := referencesIn_plain (by decide)
    rw [List.dropLast_concat, referencesIn_append (ends_cons isIdentifierRest_return _), hreturn, List.append_nil]
  · rfl

/-- Splitting into lines neither loses nor joins references. -/
theorem flatMap_referencesIn_linesFrom (line cs : List Char) :
    (linesFrom line cs).flatMap referencesIn = referencesIn (line ++ cs) := by
  induction cs generalizing line with
  | nil =>
    cases line with
    | nil => rfl
    | cons ch rest => simp [linesFrom]
  | cons ch rest ih =>
    rw [linesFrom]
    split
    · rename_i hch
      subst hch
      rw [List.flatMap_cons, referencesIn_dropReturn, ih, List.nil_append,
        referencesIn_append (ends_cons isIdentifierRest_newline _), referencesIn, if_neg (by decide)]
    · rw [ih, List.append_assoc, List.singleton_append]

theorem flatMap_references_lines (s : String) : (lines s).flatMap references = references s := by
  rw [lines, List.flatMap_map]
  have hlines := flatMap_referencesIn_linesFrom [] s.toList
  simpa [references] using hlines

end EntityGraph.Text
