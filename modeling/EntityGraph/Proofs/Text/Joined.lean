import Mathlib.Data.List.Basic

/-!
# Joined lists

What a list holds that is joined of pieces, and what becomes of it if each of its items is written out.
-/
namespace EntityGraph.Text

variable {α β : Type}

/-- Joined pieces hold what the separator or a piece holds. -/
theorem mem_of_mem_intercalate {sep : List α} {xss : List (List α)} {x : α} (h : x ∈ sep.intercalate xss) :
    x ∈ sep ∨ ∃ xs ∈ xss, x ∈ xs := by
  induction xss with
  | nil => cases h
  | cons xs rest ih =>
    cases rest with
    | nil =>
      rw [List.intercalate_singleton] at h
      exact .inr ⟨xs, List.mem_singleton_self xs, h⟩
    | cons ys rest =>
      rw [List.intercalate_cons_cons, List.mem_append, List.mem_append] at h
      rcases h with (h | h) | h
      · exact .inr ⟨xs, List.mem_cons_self, h⟩
      · exact .inl h
      · exact (ih h).imp id fun ⟨zs, hzs, hx⟩ => ⟨zs, List.mem_cons_of_mem xs hzs, hx⟩

/-- Joined pieces are written out piece by piece. -/
theorem flatMap_intercalate (f : α → List β) (sep : List α) (xss : List (List α)) :
    (sep.intercalate xss).flatMap f = (sep.flatMap f).intercalate (xss.map (List.flatMap f)) := by
  induction xss with
  | nil => rfl
  | cons xs rest ih =>
    cases rest with
    | nil => simp
    | cons ys rest =>
      rw [List.map_cons] at ih
      rw [List.intercalate_cons_cons, List.flatMap_append, List.flatMap_append, ih, List.map_cons, List.map_cons,
        List.intercalate_cons_cons]

end EntityGraph.Text
