import EntityGraph.Proofs.Paging.Forward

/-!
# Paging backward

A page that begins with another row than the first one has a page before it. Where pages begin at multiples of their
size, asking for the next page undoes asking for the previous one and the other way round. So a caller who has come
forward to a page gets back over the same rows, page by page, to the first row.
-/
namespace EntityGraph.Paging

/-- What a cursor asks for: the page of `take` rows that begins with `row`, however its offset is written. -/
structure Cursor.At (c : Cursor) (row take : Nat) : Prop where
  position : c.position = .ok row
  size : c.take = take
  paged : c.fetchAll = false

/-- The cursors before a cursor, each the previous one of the one before it, up to one that has none. -/
inductive Back : Cursor → List Cursor → Prop
  | done {c : Cursor} (hprev : c.prev? = none) : Back c []
  | step {c before : Cursor} {chain : List Cursor} (hprev : c.prev? = some before) (hrest : Back before chain) :
      Back c (before :: chain)

theorem Back.unique {c : Cursor} {chain chain' : List Cursor} (h : Back c chain) (h' : Back c chain') :
    chain = chain' := by
  induction h generalizing chain' with
  | done hprev =>
    cases h' with
    | done => rfl
    | step hprev' => cases hprev.symm.trans hprev'
  | step hprev _ ih =>
    cases h' with
    | done hprev' => cases hprev.symm.trans hprev'
    | step hprev' hrest' =>
      cases hprev.symm.trans hprev'
      rw [ih hrest']

namespace Cursor

variable {c : Cursor} {row take : Nat}

/-! ## One step -/

theorem at_startingAt (h : row < Nat.pow 2 64) (take : Nat) : (startingAt row take).At row take :=
  ⟨readOffset_repr h, rfl, rfl⟩

theorem at_page {n : Nat} (h : n * take < Nat.pow 2 64) : (page take n).At (n * take) take :=
  ⟨position_page h, take_page take n, fetchAll_page take n⟩

theorem eq_of_position_page {n : Nat} (h : (page take n).position = .ok row) : row = n * take := by
  cases n with
  | zero => rw [Nat.zero_mul, ← Except.ok.inj (show Except.ok 0 = Except.ok row from h)]
  | succ n =>
    change readOffset (Nat.repr ((n + 1) * take)) = .ok row at h
    rw [readOffset] at h
    split at h
    · next m hread => rw [← Except.ok.inj h, Text.eq_of_nat64?_repr hread]
    · cases h

theorem At.prev?_eq (h : c.At row take) : c.prev? = if row = 0 then none else some (startingAt (row - take) take) := by
  rw [prev?, h.paged, if_neg Bool.false_ne_true, h.position, h.size]

/-- Behind a full page whose end is not known to be the last one there is a next page. -/
theorem At.next?_eq (h : c.At row take) : c.next? take none = some (startingAt (row + take) take) := by
  rw [next?, h.paged, h.position, h.size]
  simp

theorem At.next?_inv (h : c.At row take) {returned : Nat} {total : Option Nat} {next : Cursor}
    (hnext : c.next? returned total = some next) : next = startingAt (row + take) take := by
  rw [next?, h.position, h.size] at hnext
  split at hnext
  · cases hnext
  · simp only at hnext
    split at hnext
    · cases hnext
    · exact (Option.some.inj hnext).symm

theorem At.window_eq (h : c.At row take) :
    c.window = .ok (if c.offset.isNone then .first take else .offset row take) := by
  rw [window, h.paged, if_neg Bool.false_ne_true, h.size]
  split
  · next hoffset => rw [hoffset]; rfl
  · next text hoffset => rw [h.position, hoffset]; rfl

/-- The rows of a page do not depend on how its offset is written. -/
theorem At.cut_eq {α : Type} (h : c.At row take) (items : List α) :
    c.cut items = .ok ((items.drop row).take take) := by
  rw [cut, h.window_eq]
  cases hoffset : c.offset with
  | none =>
    have hposition := h.position
    simp only [Cursor.position, hoffset] at hposition
    obtain rfl := Except.ok.inj hposition
    rfl
  | some text => rfl

/-- What one step back and one step forward from a page do. -/
structure Reversible (c : Cursor) (row take : Nat) : Prop where
  prev_none : c.prev? = none ↔ row = 0
  prev_at : ∀ before, c.prev? = some before → before.At (row - take) take
  next_prev : ∃ next, c.next? take none = some next ∧ ∃ again, next.prev? = some again ∧ again.At row take
  prev_next : 0 < row → ∃ before, c.prev? = some before ∧
    ∃ again, before.next? take none = some again ∧ again.At row take

theorem At.reversible (h : c.At row take) (htake : 0 < take) (hmultiple : take ∣ row)
    (hfits : row + take < Nat.pow 2 64) : c.Reversible row take where
  prev_none := by
    rw [h.prev?_eq]
    split <;> simp_all
  prev_at := by
    intro before hprev
    rw [h.prev?_eq] at hprev
    split at hprev
    · cases hprev
    · obtain rfl := Option.some.inj hprev
      exact at_startingAt (by omega) take
  next_prev := by
    have hnext : (startingAt (row + take) take).At (row + take) take := at_startingAt hfits take
    refine ⟨_, h.next?_eq, startingAt row take, ?_, at_startingAt (by omega) take⟩
    rw [hnext.prev?_eq, if_neg (by omega), Nat.add_sub_cancel]
  prev_next := by
    intro hrow
    have hle : take ≤ row := Nat.le_of_dvd hrow hmultiple
    have hbefore : (startingAt (row - take) take).At (row - take) take := at_startingAt (by omega) take
    refine ⟨_, by rw [h.prev?_eq, if_neg (by omega)], startingAt row take, ?_, at_startingAt (by omega) take⟩
    rw [hbefore.next?_eq, Nat.sub_add_cancel hle]

/-! ## The way back -/

/-- The way back from page `n` goes through the pages before it, by induction on their number. -/
theorem At.back {n : Nat} (h : c.At (n * take) take) (htake : 0 < take) (hfits : n * take < Nat.pow 2 64) :
    Back c ((List.range n).reverse.map fun k => startingAt (k * take) take) := by
  induction n generalizing c with
  | zero => exact .done (by rw [h.prev?_eq, if_pos (Nat.zero_mul take)])
  | succ n ih =>
    have hmul : (n + 1) * take = n * take + take := Nat.succ_mul n take
    have hprev : c.prev? = some (startingAt (n * take) take) := by
      rw [h.prev?_eq, if_neg (by omega), hmul, Nat.add_sub_cancel]
    have hbefore : (startingAt (n * take) take).At (n * take) take := at_startingAt (by omega) take
    rw [List.range_succ, List.reverse_append, List.reverse_singleton, List.singleton_append, List.map_cons]
    exact .step hprev (ih hbefore (by omega))

end Cursor

/-- A cursor that has a position on a walk forward is that of a page. -/
theorem Walk.getElem_eq_page {rows take : Nat} {total : Option Nat} {m : Nat} {pages : List Cursor}
    (h : Walk rows total (Cursor.page take m) pages) {n : Nat} (hn : n < pages.length) :
    pages[n] = Cursor.page take (m + n) := by
  generalize hc : Cursor.page take m = c at h
  induction h generalizing m n with
  | last =>
    obtain rfl : n = 0 := by simpa using hn
    exact hc.symm
  | @step c next position pages hposition hnext _ ih =>
    subst hc
    cases n with
    | zero => rfl
    | succ n =>
      have hat : (Cursor.page take m).At position take := ⟨hposition, Cursor.take_page .., Cursor.fetchAll_page ..⟩
      have hstart : position = m * take := Cursor.eq_of_position_page hposition
      have hpage : Cursor.page take (m + 1) = next := by
        rw [hat.next?_inv hnext, hstart, ← Nat.succ_mul]
        rfl
      rw [List.getElem_cons_succ, ih (by simpa using hn) hpage, Nat.add_right_comm, Nat.add_assoc]

/-! ## From a page of a walk -/

/-- What the cursors on the way back from a page ask for, behind the pages before it. -/
structure Retraces (take row : Nat) (c : Cursor) (before chain : List Cursor) : Prop where
  /-- One step for each page of the size. -/
  length : chain.length = row / take
  /-- The way back ends with the first row. -/
  ends : ((c :: chain).getLast (List.cons_ne_nil c chain)).position = .ok 0
  /-- Each step goes back by the size of a page. -/
  window : ∀ i (h : i < chain.length), chain[i].window = .ok (.offset (row - (i + 1) * take) take)
  /-- In reverse, the pages before ask for the same rows. -/
  same : List.Forall₂ (fun back page => ∀ {α : Type} (items : List α), back.cut items = page.cut items) chain
    before.reverse
  /-- Together the steps hold each row before the page once. -/
  covers : ∀ {α : Type} (items : List α),
    ∃ parts, chain.reverse.mapM (Cursor.cut · items) = .ok parts ∧ parts.flatten = items.take row

theorem retraces_pages {take n : Nat} {c : Cursor} (hc : c.At (n * take) take) (htake : 0 < take)
    (hfits : n * take < Nat.pow 2 64) :
    Retraces take (n * take) c ((List.range n).map (Cursor.page take))
      ((List.range n).reverse.map fun k => Cursor.startingAt (k * take) take) := by
  have hstart (k : Nat) (h : k < n) : k * take < Nat.pow 2 64 :=
    Nat.lt_of_le_of_lt (Nat.mul_le_mul_right take h.le) hfits
  have hat (k : Nat) (h : k < n) : (Cursor.startingAt (k * take) take).At (k * take) take :=
    Cursor.at_startingAt (hstart k h) take
  refine ⟨?length, ?ends, ?window, ?same, ?covers⟩
  case length => rw [List.length_map, List.length_reverse, List.length_range, Nat.mul_div_cancel n htake]
  case ends =>
    cases n with
    | zero => simpa using hc.position
    | succ n =>
      have hzero : (Cursor.startingAt 0 take).position = .ok 0 :=
        (Cursor.at_startingAt (by decide) take).position
      simpa [List.range_succ_eq_map] using hzero
  case window =>
    intro i h
    rw [List.length_map, List.length_reverse, List.length_range] at h
    have hrow : (n - 1 - i) * take = n * take - (i + 1) * take := by
      rw [← Nat.sub_mul]
      congr 1
      omega
    rw [List.getElem_map, List.getElem_reverse, List.getElem_range, List.length_range, (hat _ (by omega)).window_eq,
      hrow]
    rfl
  case same =>
    rw [← List.map_reverse, List.forall₂_map_left_iff, List.forall₂_map_right_iff, List.forall₂_same]
    intro k hk α items
    rw [List.mem_reverse, List.mem_range] at hk
    rw [(hat k hk).cut_eq, (Cursor.at_page (hstart k hk)).cut_eq]
  case covers =>
    intro α items
    refine ⟨(List.range n).map fun k => (items.drop (k * take)).take take, ?_, flatten_pages items take n⟩
    rw [← List.map_reverse, List.reverse_reverse, List.mapM_map]
    exact Result.mapM_eq_ok_map fun k hk => (hat k (List.mem_range.1 hk)).cut_eq items

/-- Paging backward undoes paging forward: one step each way, and the whole way back from a page of a walk. -/
theorem backward_retraces_forward {take row : Nat} (htake : 0 < take) (hmultiple : take ∣ row)
    (hfits : row + take < Nat.pow 2 64) :
    (∀ c : Cursor, c.At row take → c.Reversible row take) ∧
      ∀ {rows : Nat} {total : Option Nat} {pages : List Cursor}, Walk rows total (.first take) pages →
        ∀ n (h : n < pages.length), pages[n].position = .ok row →
          ∃ chain, (∀ other, Back pages[n] other ↔ other = chain) ∧
            Retraces take row pages[n] (pages.take n) chain := by
  refine ⟨fun c hc => hc.reversible htake hmultiple hfits, fun {rows total pages} hwalk n hn hposition => ?_⟩
  have hpages (i : Nat) (h : i < pages.length) : pages[i] = Cursor.page take i := by
    rw [Walk.getElem_eq_page (m := 0) hwalk h, Nat.zero_add]
  obtain rfl : row = n * take := by
    rw [hpages n hn] at hposition
    exact Cursor.eq_of_position_page hposition
  have hbefore : pages.take n = (List.range n).map (Cursor.page take) := by
    refine List.ext_getElem (by simp [hn.le]) fun i hi _ => ?_
    rw [List.getElem_take, hpages i (by simp at hi; omega), List.getElem_map, List.getElem_range]
  have hat : pages[n].At (n * take) take := hpages n hn ▸ Cursor.at_page (by omega)
  have hback := hat.back htake (by omega)
  refine ⟨_, fun other => ⟨fun h => h.unique hback, fun h => h ▸ hback⟩, ?_⟩
  rw [hbefore]
  exact retraces_pages hat htake (by omega)

/-- Back from the third page of five rows, two at a time. -/
theorem backward_retraces_forward_from_third_page :
    0 < 2 ∧ 2 ∣ 4 ∧ 4 + 2 < Nat.pow 2 64 ∧ (Cursor.startingAt 4 2).Reversible 4 2 ∧
      Walk 5 (some 5) (.first 2) [.first 2, .startingAt 2 2, .startingAt 4 2] ∧
      ∃ chain, (∀ other, Back (.startingAt 4 2) other ↔ other = chain) ∧
        Retraces 2 4 (.startingAt 4 2) [.first 2, .startingAt 2 2] chain := by
  have hat : (Cursor.startingAt 4 2).At 4 2 := Cursor.at_startingAt (by decide) 2
  have hmiddle : (Cursor.startingAt 2 2).position = .ok 2 := (Cursor.at_startingAt (by decide) 2).position
  have hwalk : Walk 5 (some 5) (.first 2) [.first 2, .startingAt 2 2, .startingAt 4 2] :=
    .step rfl rfl (.step hmiddle (by decide) (.last hat.position (by decide)))
  obtain ⟨hstep, hway⟩ := @backward_retraces_forward 2 4 (by decide) (by decide) (by decide)
  exact ⟨by decide, by decide, by decide, hstep _ hat, hwalk, hway hwalk 2 (by decide) hat.position⟩

end EntityGraph.Paging
