import EntityGraph.Paging.Cursor
import EntityGraph.Proofs.Result
import EntityGraph.Proofs.Text.Number
import Mathlib.Data.List.Range
import Mathlib.Tactic.Common

/-!
# Paging forward

A caller begins with the first page and asks for the next one as long as there is one. If every page is reported
with the rows that it holds, the caller gets every row once and in order, and then there is no next page: right
behind the last row when the number of rows is known, and behind the first short page when it is not.
-/
namespace EntityGraph.Paging

/-- The rows that a window asks for. -/
def Window.cut {α : Type} : Window → List α → List α
  | .all, rows => rows
  | .first limit, rows => rows.take limit
  | .offset skip limit, rows => (rows.drop skip).take limit

/-- How many of `rows` rows a page holds that begins at `position`. -/
def held (rows position take : Nat) : Nat := min take (rows - position)

theorem readOffset_repr {n : Nat} (h : n < Nat.pow 2 64) : readOffset (Nat.repr n) = .ok n := by
  rw [readOffset, Text.nat64?_repr h]

/-- The pages of a walk forward over `rows` rows that begins at a cursor. Every page is reported with the rows that
it holds and with the total that the caller is told, and the walk ends where there is no next page. -/
inductive Walk (rows : Nat) (total : Option Nat) : Cursor → List Cursor → Prop
  | last {c : Cursor} {position : Nat} (hposition : c.position = .ok position)
      (hnext : c.next? (held rows position c.take) total = none) : Walk rows total c [c]
  | step {c next : Cursor} {position : Nat} {pages : List Cursor} (hposition : c.position = .ok position)
      (hnext : c.next? (held rows position c.take) total = some next) (hrest : Walk rows total next pages) :
      Walk rows total c (c :: pages)

theorem Walk.unique {rows : Nat} {total : Option Nat} {c : Cursor} {pages pages' : List Cursor}
    (h : Walk rows total c pages) (h' : Walk rows total c pages') : pages = pages' := by
  induction h generalizing pages' with
  | last hposition hnext =>
    cases h' with
    | last => rfl
    | step hposition' hnext' =>
      cases hposition.symm.trans hposition'
      cases hnext.symm.trans hnext'
  | step hposition hnext _ ih =>
    cases h' with
    | last hposition' hnext' =>
      cases hposition.symm.trans hposition'
      cases hnext.symm.trans hnext'
    | step hposition' hnext' hrest' =>
      cases hposition.symm.trans hposition'
      cases hnext.symm.trans hnext'
      rw [ih hrest']

namespace Cursor

/-- The cursor of a page, by its number. -/
def page (take : Nat) : Nat → Cursor
  | 0 => first take
  | n + 1 => startingAt ((n + 1) * take) take

@[simp] theorem take_page (take n : Nat) : (page take n).take = take := by cases n <;> rfl

@[simp] theorem fetchAll_page (take n : Nat) : (page take n).fetchAll = false := by cases n <;> rfl

theorem position_page {take n : Nat} (h : n * take < Nat.pow 2 64) : (page take n).position = .ok (n * take) := by
  cases n with
  | zero => rw [Nat.zero_mul]; rfl
  | succ n => exact readOffset_repr h

/-- The rows of a page are those behind the pages before it. -/
theorem window_page {take n : Nat} (h : n * take < Nat.pow 2 64) :
    (page take n).window = .ok (if n = 0 then .first take else .offset (n * take) take) := by
  cases n with
  | zero => rfl
  | succ n =>
    rw [window, fetchAll_page, if_neg Bool.false_ne_true, if_neg (Nat.succ_ne_zero n)]
    simp only [page, startingAt, position, readOffset_repr h]
    rfl

/-- The page after one that is full, unless the total is known to be reached. -/
theorem next?_page {take n rows : Nat} {total : Option Nat} (h : n * take < Nat.pow 2 64) :
    (page take n).next? (held rows (n * take) take) total =
      if held rows (n * take) take < take ∨ ∃ t ∈ total, t ≤ (n + 1) * take then none
      else some (page take (n + 1)) := by
  have hsucc : n * take + take = (n + 1) * take := (Nat.succ_mul n take).symm
  rw [next?, fetchAll_page, take_page, position_page h, Bool.false_or]
  by_cases hshort : held rows (n * take) take < take
  · rw [if_pos (decide_eq_true hshort), if_pos (Or.inl hshort)]
  · simp only [hshort, decide_false, Bool.false_eq_true, if_false, false_or, hsucc]
    cases total with
    | none => simp [page]
    | some t => simp [page]

end Cursor

/-! ## The number of pages -/

/-- The number of pages that a walk over `rows` rows takes. -/
def pageCount (rows take : Nat) : Option Nat → Nat
  | some _ => max 1 ((rows + take - 1) / take)
  | none => rows / take + 1

section

variable {rows take : Nat} {total : Option Nat}

theorem pageCount_pos : 0 < pageCount rows take total := by
  cases total with
  | none => exact Nat.succ_pos _
  | some t => exact Nat.lt_of_lt_of_le Nat.one_pos (Nat.le_max_left ..)

/-- There is a page behind page `n` if that page is full and the total is not known to be reached with it. -/
theorem succ_lt_pageCount_iff (htake : 0 < take) (honest : ∀ t ∈ total, t = rows) (n : Nat) :
    n + 1 < pageCount rows take total ↔ (n + 1) * take ≤ rows ∧ ∀ t ∈ total, (n + 1) * take < t := by
  cases total with
  | none =>
    have hdiv : n + 1 ≤ rows / take ↔ (n + 1) * take ≤ rows := Nat.le_div_iff_mul_le htake
    simp only [pageCount, Option.mem_def, reduceCtorEq, false_implies, implies_true, and_true]
    omega
  | some t =>
    obtain rfl : t = rows := honest t rfl
    have hdiv : n + 2 ≤ (t + take - 1) / take ↔ (n + 2) * take ≤ t + take - 1 := Nat.le_div_iff_mul_le htake
    have hmul : (n + 2) * take = (n + 1) * take + take := Nat.succ_mul ..
    simp only [pageCount, Option.mem_def, Option.some.injEq, forall_eq']
    omega

theorem start_le_of_lt_pageCount (htake : 0 < take) (honest : ∀ t ∈ total, t = rows) {n : Nat}
    (h : n < pageCount rows take total) : n * take ≤ rows := by
  cases n with
  | zero => rw [Nat.zero_mul]; exact Nat.zero_le rows
  | succ n => exact ((succ_lt_pageCount_iff htake honest n).1 h).1

theorem le_pageCount_mul (htake : 0 < take) (honest : ∀ t ∈ total, t = rows) :
    rows ≤ pageCount rows take total * take := by
  obtain ⟨n, hn⟩ : ∃ n, pageCount rows take total = n + 1 := Nat.exists_eq_succ_of_ne_zero pageCount_pos.ne'
  have hlast := (succ_lt_pageCount_iff htake honest n).not.1 (by omega)
  rw [hn]
  by_contra hmore
  refine hlast ⟨by omega, fun t ht => ?_⟩
  rw [honest t ht]
  omega

/-! ## The walk -/

theorem next?_page_of_honest (hrows : rows < Nat.pow 2 64) (htake : 0 < take) (honest : ∀ t ∈ total, t = rows) {n : Nat}
    (h : n < pageCount rows take total) :
    (Cursor.page take n).next? (held rows (n * take) take) total =
      if n + 1 < pageCount rows take total then some (Cursor.page take (n + 1)) else none := by
  have hstart : n * take ≤ rows := start_le_of_lt_pageCount htake honest h
  have hmul : (n + 1) * take = n * take + take := Nat.succ_mul ..
  have hfull : held rows (n * take) take < take ↔ ¬(n + 1) * take ≤ rows := by
    rw [held]
    omega
  have hlast : (held rows (n * take) take < take ∨ ∃ t ∈ total, t ≤ (n + 1) * take) ↔
      ¬n + 1 < pageCount rows take total := by
    rw [succ_lt_pageCount_iff htake honest, hfull, not_and_or]
    simp only [not_forall, not_lt, exists_prop]
  rw [Cursor.next?_page (by omega)]
  by_cases hmore : n + 1 < pageCount rows take total
  · rw [if_neg (fun hstop => hlast.1 hstop hmore), if_pos hmore]
  · rw [if_pos (hlast.2 hmore), if_neg hmore]

/-- The walk from a page on, by induction on the number of pages behind it. -/
theorem walk_page (hrows : rows < Nat.pow 2 64) (htake : 0 < take) (honest : ∀ t ∈ total, t = rows) {n behind : Nat}
    (h : n + behind + 1 = pageCount rows take total) :
    Walk rows total (Cursor.page take n) ((List.range' n (behind + 1)).map (Cursor.page take)) := by
  induction behind generalizing n with
  | zero =>
    have hn : n < pageCount rows take total := by omega
    have hstart := start_le_of_lt_pageCount htake honest hn
    refine .last (Cursor.position_page (by omega)) ?_
    rw [Cursor.take_page, next?_page_of_honest hrows htake honest hn, if_neg (by omega)]
  | succ behind ih =>
    have hn : n < pageCount rows take total := by omega
    have hstart := start_le_of_lt_pageCount htake honest hn
    rw [List.range'_succ, List.map_cons]
    refine .step (Cursor.position_page (by omega)) ?_ (ih (n := n + 1) (by omega))
    rw [Cursor.take_page, next?_page_of_honest hrows htake honest hn, if_pos (by omega)]

/-- Pages one after the other hold what is before the end of the last one. -/
theorem flatten_pages {α : Type} (items : List α) (take count : Nat) :
    ((List.range count).map fun n => (items.drop (n * take)).take take).flatten = items.take (count * take) := by
  induction count with
  | zero => simp
  | succ n ih =>
    rw [List.range_succ, List.map_append, List.flatten_append, ih, List.map_singleton, List.flatten_singleton,
      Nat.succ_mul, List.take_add]

end

/-- The rows that a page asks for. -/
def Cursor.cut {α : Type} (c : Cursor) (items : List α) : Result (List α) := c.window.map fun w => w.cut items

/-- What holds of the pages that a caller gets who asks for `take` of `rows` rows at a time. -/
structure VisitsEachRowOnce (rows take : Nat) (total : Option Nat) (pages : List Cursor) : Prop where
  count : pages.length = match total with
    | some _ => max 1 ((rows + take - 1) / take)
    | none => rows / take + 1
  /-- The windows lie next to each other. -/
  window : ∀ n (h : n < pages.length),
    pages[n].window = .ok (if n = 0 then .first take else .offset (n * take) take)
  /-- Every offset is read back as the row that it was made from. -/
  offset : ∀ n (h : n < pages.length), 0 < n →
    pages[n].offset = some (Nat.repr (n * take)) ∧ pages[n].position = .ok (n * take)
  /-- One page after the other holds all rows. -/
  covers : ∀ {α : Type} (items : List α), items.length = rows →
    ∃ parts, pages.mapM (Cursor.cut · items) = .ok parts ∧ parts.flatten = items
  /-- The row behind a full page has a number of 64 bits. -/
  fits : ∀ c ∈ pages, ∀ position, c.position = .ok position → ¬held rows position c.take < c.take →
    position + c.take < Nat.pow 2 64

theorem visitsEachRowOnce_pages {rows take : Nat} {total : Option Nat} (hrows : rows < Nat.pow 2 64) (htake : 0 < take)
    (honest : ∀ t ∈ total, t = rows) :
    VisitsEachRowOnce rows take total ((List.range (pageCount rows take total)).map (Cursor.page take)) := by
  have hstart (n : Nat) (h : n < pageCount rows take total) : n * take < Nat.pow 2 64 :=
    Nat.lt_of_le_of_lt (start_le_of_lt_pageCount htake honest h) hrows
  refine ⟨?count, ?window, ?offset, ?covers, ?fits⟩
  case count =>
    rw [List.length_map, List.length_range]
    cases total <;> rfl
  case window =>
    intro n h
    rw [List.length_map, List.length_range] at h
    rw [List.getElem_map, List.getElem_range]
    exact Cursor.window_page (hstart n h)
  case offset =>
    intro n h hn
    rw [List.length_map, List.length_range] at h
    rw [List.getElem_map, List.getElem_range]
    obtain ⟨k, rfl⟩ := Nat.exists_eq_succ_of_ne_zero hn.ne'
    exact ⟨rfl, Cursor.position_page (hstart _ h)⟩
  case covers =>
    intro α items hlength
    refine ⟨(List.range (pageCount rows take total)).map fun n => (items.drop (n * take)).take take, ?_, ?_⟩
    · rw [List.mapM_map]
      refine Result.mapM_eq_ok_map fun n hn => ?_
      simp only [Function.comp_apply, Cursor.cut, Cursor.window_page (hstart n (List.mem_range.1 hn))]
      by_cases hzero : n = 0
      · simp [hzero, Except.map, Window.cut]
      · simp [hzero, Except.map, Window.cut]
    · rw [flatten_pages, List.take_of_length_le]
      rw [hlength]
      exact le_pageCount_mul htake honest
  case fits =>
    intro c hc position hposition hfull
    obtain ⟨n, hn, rfl⟩ := List.mem_map.1 hc
    have heq : position = n * take := by
      rw [Cursor.position_page (hstart n (List.mem_range.1 hn))] at hposition
      exact (Except.ok.inj hposition).symm
    rw [heq, Cursor.take_page, held] at hfull
    rw [heq, Cursor.take_page]
    omega

/-- Paging forward visits every row exactly once, whether the total is told or not, and then stops. -/
theorem walk_forward_visits_each_row_once {rows take : Nat} {total : Option Nat} (hrows : rows < Nat.pow 2 64)
    (htake : 0 < take) (honest : ∀ t ∈ total, t = rows) :
    ∃ pages, (∀ walk, Walk rows total (.first take) walk ↔ walk = pages) ∧ VisitsEachRowOnce rows take total pages := by
  refine ⟨(List.range (pageCount rows take total)).map (Cursor.page take), fun walk => ?_,
    visitsEachRowOnce_pages hrows htake honest⟩
  have hwalk : Walk rows total (.first take) ((List.range (pageCount rows take total)).map (Cursor.page take)) := by
    obtain ⟨behind, hbehind⟩ := Nat.exists_eq_succ_of_ne_zero (pageCount_pos : 0 < pageCount rows take total).ne'
    rw [hbehind, List.range_eq_range']
    exact walk_page (n := 0) hrows htake honest (by omega)
  constructor
  · intro h
    exact h.unique hwalk
  · rintro rfl
    exact hwalk

/-- Four rows, two at a time, by a caller who does not know that there are four. -/
theorem walk_forward_over_four_rows :
    4 < Nat.pow 2 64 ∧ 0 < 2 ∧ (∀ t ∈ (none : Option Nat), t = 4) ∧
      ∃ pages, (∀ walk, Walk 4 none (.first 2) walk ↔ walk = pages) ∧ VisitsEachRowOnce 4 2 none pages :=
  ⟨by decide, by decide, by simp, walk_forward_visits_each_row_once (by decide) (by decide) (by simp)⟩

end EntityGraph.Paging
