import EntityGraph.Text.Lines

/-!
# Lines put together and told apart

Texts without line breaks, joined by line feeds, are the lines of the joined text.
-/
namespace EntityGraph.Text

/-- A text that stays in its line: it neither holds a line feed nor ends in a carriage return, which would be taken for
part of the line break behind it. -/
def Unbroken (s : String) : Prop := '\n' ∉ s.toList ∧ s.toList.getLast? ≠ some '\r'

instance (s : String) : Decidable (Unbroken s) := inferInstanceAs (Decidable (_ ∧ _))

namespace Unbroken

variable {s t between : String}

theorem append (hs : Unbroken s) (ht : Unbroken t) : Unbroken (s ++ t) := by
  rw [Unbroken, String.toList_append]
  refine ⟨fun h => (List.mem_append.1 h).elim hs.1 ht.1, ?_⟩
  rw [List.getLast?_append]
  cases hlast : t.toList.getLast? with
  | none => exact hs.2
  | some ch => exact fun h => ht.2 (hlast.trans h)

theorem joined (hs : Unbroken s) (hbetween : Unbroken between) (ht : Unbroken t) : Unbroken (s ++ between ++ t) :=
  (hs.append hbetween).append ht

theorem intercalate (hbetween : Unbroken between) {texts : List String} (h : ∀ t ∈ texts, Unbroken t) :
    Unbroken (between.intercalate texts) := by
  induction texts with
  | nil =>
    rw [String.intercalate_nil]
    decide
  | cons t rest ih =>
    obtain ⟨ht, hrest⟩ := List.forall_mem_cons.1 h
    cases rest with
    | nil => rwa [String.intercalate_singleton]
    | cons u rest =>
      rw [String.intercalate_cons_cons]
      exact ht.joined hbetween (ih hrest)

end Unbroken

/-! ## Splitting -/

theorem linesFrom_append {cs : List Char} (h : '\n' ∉ cs) (line rest : List Char) :
    linesFrom line (cs ++ rest) = linesFrom (line ++ cs) rest := by
  induction cs generalizing line with
  | nil => rw [List.nil_append, List.append_nil]
  | cons ch cs ih =>
    rw [List.mem_cons, not_or] at h
    obtain ⟨hch, hcs⟩ := h
    rw [List.cons_append, linesFrom, if_neg (Ne.symm hch), ih hcs, List.append_assoc, List.singleton_append]

/-- The first line of a text ends where it is joined to the others. -/
theorem lines_joined {s : String} (h : Unbroken s) (t : String) : lines (s ++ "\n" ++ t) = s :: lines t := by
  have hchars : (s ++ "\n" ++ t).toList = s.toList ++ '\n' :: t.toList := by
    simp only [String.toList_append, List.append_assoc]
    rfl
  have hreturn : dropReturn s.toList = s.toList := if_neg h.2
  rw [lines, hchars, linesFrom_append h.1, List.nil_append, linesFrom, if_pos rfl, hreturn, List.map_cons,
    String.ofList_toList, lines]

theorem lines_of_unbroken {s : String} (h : Unbroken s) (hne : s ≠ "") : lines s = [s] := by
  have hchars : s.toList.isEmpty = false := by
    rw [List.isEmpty_eq_false_iff]
    exact fun hnil => hne (String.toList_inj.1 hnil)
  have hwhole := linesFrom_append h.1 [] []
  rw [List.append_nil, List.nil_append, linesFrom, hchars, if_neg Bool.false_ne_true] at hwhole
  rw [lines, hwhole, List.map_singleton, String.ofList_toList]

/-- Lines come apart as they were put together. -/
theorem lines_intercalate {ls : List String} (h : ∀ l ∈ ls, Unbroken l ∧ l ≠ "") :
    lines ("\n".intercalate ls) = ls := by
  induction ls with
  | nil => rfl
  | cons l rest ih =>
    obtain ⟨⟨hl, hne⟩, hrest⟩ := List.forall_mem_cons.1 h
    cases rest with
    | nil => rw [String.intercalate_singleton, lines_of_unbroken hl hne]
    | cons m rest => rw [String.intercalate_cons_cons, lines_joined hl, ih hrest]

/-! ## Joining -/

/-- Lines that stand below a text. -/
def below : List String → String
  | [] => ""
  | l :: rest => "\n" ++ l ++ below rest

theorem below_append (ls ls' : List String) : below (ls ++ ls') = below ls ++ below ls' := by
  induction ls with
  | nil => rw [List.nil_append, below, String.empty_append]
  | cons l rest ih => simp only [List.cons_append, below, ih, String.append_assoc]

theorem intercalate_eq_below (l : String) (rest : List String) : "\n".intercalate (l :: rest) = l ++ below rest := by
  induction rest generalizing l with
  | nil => rw [String.intercalate_singleton, below, String.append_empty]
  | cons m rest ih => simp only [String.intercalate_cons_cons, ih, below, String.append_assoc]

/-! ## Indentation -/

/-- A line moved two columns to the left. -/
def outdented (line : String) : String := String.ofList (line.toList.drop 2)

theorem outdented_indented (line : String) : outdented (indented line) = line := by
  rw [outdented, indented, String.toList_append]
  exact String.ofList_toList

end EntityGraph.Text
