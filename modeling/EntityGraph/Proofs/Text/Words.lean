import EntityGraph.Text.Blank
import Mathlib.Data.List.Basic

/-!
# The words of a text

The words are what blanks leave over when they cut a text, without the empty pieces. A text has no words if it is blank.
-/
namespace EntityGraph.Text

variable {word cs w : List Char}

theorem wordsFrom_eq (word cs : List Char) :
    wordsFrom word cs = (cs.splitOnPPrepend isBlank word.reverse).filter (fun w => !w.isEmpty) := by
  induction cs generalizing word with
  | nil => cases word <;> simp [wordsFrom]
  | cons c rest ih =>
    rw [wordsFrom, List.splitOnPPrepend_cons_eq_if, List.reverse_reverse]
    by_cases hc : isBlank c = true
    · rw [if_pos hc, if_pos hc, ih, List.reverse_nil, List.splitOnPPrepend_nil_right]
      cases word <;> simp
    · rw [if_neg hc, if_neg hc, ih, List.reverse_append, List.reverse_singleton, List.singleton_append]

/-- The words of a text are its pieces between blanks, empty ones aside. -/
theorem words_eq (s : String) :
    words s = ((s.toList.splitOnP isBlank).filter (fun w => !w.isEmpty)).map String.ofList := by
  rw [words, wordsFrom_eq, List.reverse_nil, List.splitOnPPrepend_nil_right]

theorem wordsFrom_eq_nil_iff : wordsFrom word cs = [] ↔ word = [] ∧ ∀ c ∈ cs, isBlank c = true := by
  induction cs generalizing word with
  | nil => cases word <;> simp [wordsFrom]
  | cons c rest ih =>
    rw [wordsFrom, List.forall_mem_cons]
    by_cases hc : isBlank c = true
    · cases word <;> simp [hc, ih]
    · simp [hc, ih]

theorem words_eq_nil_iff {s : String} : words s = [] ↔ ∀ c ∈ s.toList, isBlank c = true := by
  rw [words, List.map_eq_nil_iff, wordsFrom_eq_nil_iff, and_iff_right rfl]

theorem isBlank_of_mem_wordsFrom (hword : ∀ c ∈ word, isBlank c = false) (h : w ∈ wordsFrom word cs) :
    ∀ c ∈ w, isBlank c = false := by
  induction cs generalizing word with
  | nil =>
    cases word with
    | nil => cases h
    | cons first rest => exact List.mem_singleton.1 h ▸ hword
  | cons c rest ih =>
    rw [wordsFrom] at h
    by_cases hc : isBlank c = true
    · have hrest : w ∈ wordsFrom [] rest → ∀ c ∈ w, isBlank c = false := ih (by simp)
      cases word with
      | nil =>
        rw [if_pos hc] at h
        exact hrest h
      | cons first more =>
        rw [if_pos hc] at h
        rcases List.mem_cons.1 h with rfl | h
        · exact hword
        · exact hrest h
    · rw [if_neg hc] at h
      refine ih (fun c' hc' => ?_) h
      rcases List.mem_append.1 hc' with hc' | hc'
      · exact hword c' hc'
      · exact List.mem_singleton.1 hc' ▸ Bool.eq_false_iff.2 hc

/-- No word holds a blank. -/
theorem isBlank_of_mem_words {s w : String} (h : w ∈ words s) : ∀ c ∈ w.toList, isBlank c = false := by
  obtain ⟨cs, hcs, rfl⟩ := List.mem_map.1 h
  rw [String.toList_ofList]
  exact isBlank_of_mem_wordsFrom (by simp) hcs

end EntityGraph.Text
