import EntityGraph.Proofs.Text.Joined
import EntityGraph.Proofs.Text.Utf8
import EntityGraph.Url.Form

/-!
# Pairs written as a query and read again

A key or a value comes back from what is written for it, byte by byte. What is written for one holds no mark that
separates pairs, a key from its value, or the query from the fragment, so that splitting undoes joining and a list of
pairs comes back as it was.
-/
namespace EntityGraph.Url

theorem hexDigit?_upperHex : ∀ n < 16, Text.hexDigit? (upperHex n) = some n := by decide

theorem percentDecode_percentByte {b : Nat} (h : b < 256) (rest : List Char) :
    percentDecode (percentByte b ++ rest) = b :: percentDecode rest := by
  have hvalue : 16 * (b / 16) + b % 16 = b := Nat.div_add_mod b 16
  rw [percentByte, List.cons_append, List.cons_append, List.cons_append, List.nil_append, percentDecode,
    hexDigit?_upperHex (b / 16) (by omega), hexDigit?_upperHex (b % 16) (by omega)]
  simp only [hvalue]

theorem percentDecode_cons {c : Char} (h : c ≠ '%') (rest : List Char) :
    percentDecode (c :: rest) = Text.Utf8.encodeChar c ++ percentDecode rest := by
  rw [percentDecode]
  intro a b rest' hc
  exact absurd hc h

namespace Form

/-! ## Keys and values -/

/-- A plus sign is a space. -/
def plusToSpace (c : Char) : Char := if c = '+' then ' ' else c

theorem plusToSpace_of_ne {c : Char} (h : c ≠ '+') : plusToSpace c = c := if_neg h

/-- Whether a character has a meaning of its own in a query. -/
def isMark (c : Char) : Bool := ['+', '%', '&', '=', '#'].contains c

theorem plain_of_lt : ∀ b < 128, isPlain b = true →
    isMark (Char.ofNat b) = false ∧ Text.Utf8.encodeChar (Char.ofNat b) = [b] := by decide +kernel

/-- A byte that is written as it is makes a character without a meaning of its own. -/
theorem plain {b : Nat} (h : isPlain b = true) :
    isMark (Char.ofNat b) = false ∧ Text.Utf8.encodeChar (Char.ofNat b) = [b] := by
  refine plain_of_lt b ?_ h
  simp only [isPlain, Bool.or_eq_true, Bool.and_eq_true, decide_eq_true_eq, beq_iff_eq] at h
  omega

theorem isMark_upperHex : ∀ n < 16, isMark (upperHex n) = false := by decide

/-- A byte is written without marks, but for the plus sign of a space and the percent sign. -/
theorem mark_encodeByte {b : Nat} (h : b < 256) {c : Char} (hc : c ∈ encodeByte b) :
    isMark c = false ∨ c = '+' ∨ c = '%' := by
  unfold encodeByte at hc
  split at hc
  · exact .inr (.inl (List.mem_singleton.1 hc))
  · split at hc
    · rename_i hplain
      rw [List.mem_singleton.1 hc]
      exact .inl (plain hplain).1
    · rcases List.mem_cons.1 hc with rfl | hc
      · exact .inr (.inr rfl)
      · rcases List.mem_cons.1 hc with rfl | hc
        · exact .inl (isMark_upperHex _ (by omega))
        · rw [List.mem_singleton.1 hc]
          exact .inl (isMark_upperHex _ (by omega))

theorem ne_of_isMark {c m : Char} (h : isMark c = false) (hm : isMark m = true) : c ≠ m := by
  rintro rfl
  rw [h] at hm
  cases hm

theorem percentDecode_encodeByte {b : Nat} (h : b < 256) (rest : List Char) :
    percentDecode ((encodeByte b).map plusToSpace ++ rest) = b :: percentDecode rest := by
  unfold encodeByte
  split
  · rename_i hspace
    rw [hspace]
    exact percentDecode_cons (by decide) rest
  · split
    · rename_i hplain
      obtain ⟨hmark, hbyte⟩ := plain hplain
      rw [List.map_singleton, plusToSpace_of_ne (ne_of_isMark hmark (by decide)), List.singleton_append,
        percentDecode_cons (ne_of_isMark hmark (by decide)), hbyte, List.singleton_append]
    · have hdigit {n : Nat} (hn : n < 16) : plusToSpace (upperHex n) = upperHex n :=
        plusToSpace_of_ne (ne_of_isMark (isMark_upperHex n hn) (by decide))
      have hmap : (percentByte b).map plusToSpace = percentByte b := by
        rw [percentByte, List.map_cons, List.map_cons, List.map_cons, List.map_nil, plusToSpace_of_ne (by decide),
          hdigit (by omega), hdigit (by omega)]
      rw [hmap, percentDecode_percentByte h]

theorem percentDecode_encodeBytes {bs : List Nat} (h : ∀ b ∈ bs, b < 256) :
    percentDecode ((bs.flatMap encodeByte).map plusToSpace) = bs := by
  induction bs with
  | nil => rw [List.flatMap_nil, List.map_nil, percentDecode]
  | cons b bs ih =>
    obtain ⟨hb, hbs⟩ := List.forall_mem_cons.1 h
    rw [List.flatMap_cons, List.map_append, percentDecode_encodeByte hb, ih hbs]

theorem lt_of_mem_encode {cs : List Char} {b : Nat} (h : b ∈ Text.Utf8.encode cs) : b < 256 := by
  obtain ⟨c, -, hc⟩ := List.mem_flatMap.1 h
  exact Text.Utf8.lt_of_mem_encodeChar hc

/-- A key or a value comes back. -/
theorem decodeText_encodeText (s : String) : decodeText (encodeText s).toList = s := by
  rw [decodeText, encodeText, String.toList_ofList]
  change String.ofList (Text.Utf8.decodeLossy (percentDecode (List.map plusToSpace _))) = s
  rw [percentDecode_encodeBytes fun b hb => lt_of_mem_encode hb, Text.Utf8.decodeLossy_encode, String.ofList_toList]

theorem encodeText_marks {s : String} {c : Char} (h : c ∈ (encodeText s).toList) : c ≠ '&' ∧ c ≠ '=' ∧ c ≠ '#' := by
  rw [encodeText, String.toList_ofList] at h
  obtain ⟨b, hb, hc⟩ := List.mem_flatMap.1 h
  rcases mark_encodeByte (lt_of_mem_encode hb) hc with hmark | rfl | rfl
  · exact ⟨ne_of_isMark hmark (by decide), ne_of_isMark hmark (by decide), ne_of_isMark hmark (by decide)⟩
  · decide
  · decide

/-! ## Pairs -/

/-- A pair as it is written. -/
def pairText (p : String × String) : List Char := (encodeText p.1).toList ++ '=' :: (encodeText p.2).toList

theorem pairText_marks {p : String × String} {c : Char} (h : c ∈ pairText p) : c ≠ '&' ∧ c ≠ '#' := by
  rcases List.mem_append.1 h with h | h
  · exact ⟨(encodeText_marks h).1, (encodeText_marks h).2.2⟩
  · rcases List.mem_cons.1 h with rfl | h
    · decide
    · exact ⟨(encodeText_marks h).1, (encodeText_marks h).2.2⟩

theorem decodePair_pairText (p : String × String) : decodePair (pairText p) = p := by
  have hkey : ∀ c ∈ (encodeText p.1).toList, (decide (c ≠ '=')) = true := fun c hc =>
    decide_eq_true (encodeText_marks hc).2.1
  rw [decodePair, pairText, List.takeWhile_append_of_pos hkey, List.dropWhile_append_of_pos hkey]
  simp [decodeText_encodeText]

theorem encode_toList (pairs : List (String × String)) :
    (encode pairs).toList = ['&'].intercalate (pairs.map pairText) := by
  have hpair : ∀ p ∈ pairs, (encodeText p.1 ++ "=" ++ encodeText p.2).toList = pairText p := fun p _ => by
    simp [pairText]
  rw [encode, String.toList_intercalate, List.map_map]
  exact congrArg _ (List.map_congr_left hpair)

/-- A query of pairs does not end where it is written. -/
theorem encode_marks {pairs : List (String × String)} {c : Char} (h : c ∈ (encode pairs).toList) : c ≠ '#' := by
  rw [encode_toList] at h
  rcases Text.mem_of_mem_intercalate h with h | ⟨xs, hxs, h⟩
  · rw [List.mem_singleton.1 h]
    decide
  · obtain ⟨p, -, rfl⟩ := List.mem_map.1 hxs
    exact (pairText_marks h).2

/-! ## Splitting -/

theorem splitFrom_append {separator : Char} {xs : List Char} (h : separator ∉ xs) (piece rest : List Char) :
    splitFrom separator piece (xs ++ rest) = splitFrom separator (piece ++ xs) rest := by
  induction xs generalizing piece with
  | nil => rw [List.nil_append, List.append_nil]
  | cons x xs ih =>
    rw [List.mem_cons, not_or] at h
    obtain ⟨hx, hxs⟩ := h
    rw [List.cons_append, splitFrom, if_neg (Ne.symm hx), ih hxs, List.append_assoc, List.singleton_append]

/-- Splitting undoes joining where no piece holds the separator. -/
theorem splitFrom_intercalate {separator : Char} {xss : List (List Char)} (hne : xss ≠ [])
    (h : ∀ xs ∈ xss, separator ∉ xs) : splitFrom separator [] ([separator].intercalate xss) = xss := by
  induction xss with
  | nil => exact absurd rfl hne
  | cons xs rest ih =>
    obtain ⟨hxs, hrest⟩ := List.forall_mem_cons.1 h
    cases rest with
    | nil =>
      have hsplit := splitFrom_append hxs [] []
      rw [List.append_nil, List.nil_append, splitFrom] at hsplit
      rw [List.intercalate_singleton, hsplit]
    | cons ys rest =>
      rw [List.intercalate_cons_cons, List.append_assoc, splitFrom_append hxs, List.nil_append, List.singleton_append,
        splitFrom, if_pos rfl, ih (List.cons_ne_nil ys rest) hrest]

/-- Pairs come back from the query that they are written as. -/
theorem decode_encode (pairs : List (String × String)) : decode (encode pairs) = pairs := by
  cases pairs with
  | nil => rfl
  | cons p rest =>
    have hparts : ∀ part ∈ (p :: rest).map pairText, '&' ∉ part := by
      intro part hpart hmark
      obtain ⟨q, -, rfl⟩ := List.mem_map.1 hpart
      exact (pairText_marks hmark).1 rfl
    have hnonempty : ((p :: rest).map pairText).filter (fun part => !part.isEmpty) = (p :: rest).map pairText :=
      List.filter_eq_self.2 fun part hpart => by
        obtain ⟨q, -, rfl⟩ := List.mem_map.1 hpart
        simp [pairText]
    rw [decode, encode_toList, splitFrom_intercalate (by simp) hparts, hnonempty, List.map_map]
    exact (List.map_congr_left fun q _ => decodePair_pairText q).trans (List.map_id _)

end Form
end EntityGraph.Url
