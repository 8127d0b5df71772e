import EntityGraph.Text.Utf8

/-!
# Characters written as bytes and read again

What is written for a character is read as that character, whatever follows, so that a text comes back from its bytes.
Texts are in the order of their bytes.
-/
namespace EntityGraph.Text.Utf8

theorem toNat_lt (c : Char) : c.toNat < 0x110000 := by
  rcases c.valid with h | h
  · exact Nat.lt_trans h (by decide)
  · exact h.2

theorem lt_of_mem_encodeChar {c : Char} {b : Nat} (h : b ∈ encodeChar c) : b < 256 := by
  have hc := toNat_lt c
  unfold encodeChar at h
  simp only at h
  split at h
  · simp only [List.mem_singleton] at h
    omega
  · split at h
    · simp only [List.mem_cons, List.not_mem_nil, or_false] at h
      omega
    · split at h <;> simp only [List.mem_cons, List.not_mem_nil, or_false] at h <;> omega

/-! ## Bytes that follow -/

theorem tails_zero (value low high : Nat) (bytes : List Nat) :
    (tails 0 value low high bytes).1 = some value ∧ (tails 0 value low high bytes).2.1 = bytes := by
  cases bytes <;> exact ⟨rfl, rfl⟩

theorem tails_succ {low high b : Nat} (h : low ≤ b ∧ b ≤ high) (count value : Nat) (rest : List Nat) :
    (tails (count + 1) value low high (b :: rest)).1 = (tails count (value * 64 + (b - 0x80)) 0x80 0xBF rest).1 ∧
      (tails (count + 1) value low high (b :: rest)).2.1 =
        (tails count (value * 64 + (b - 0x80)) 0x80 0xBF rest).2.1 := by
  rw [tails, if_neg (Nat.succ_ne_zero count), if_pos h]
  exact ⟨rfl, rfl⟩

/-- Bytes of six bits each are all read if the first is in range, by induction on them: from the second on, the range
holds whatever six bits make. -/
theorem tails_append (ns : List Nat) (hns : ∀ n ∈ ns, n < 64) {low high : Nat}
    (hfirst : ∀ n ∈ ns.head?, low ≤ 0x80 + n ∧ 0x80 + n ≤ high) (value : Nat) (rest : List Nat) :
    (tails ns.length value low high (ns.map (0x80 + ·) ++ rest)).1 =
        some (ns.foldl (fun value n => value * 64 + n) value) ∧
      (tails ns.length value low high (ns.map (0x80 + ·) ++ rest)).2.1 = rest := by
  induction ns generalizing value low high with
  | nil => exact tails_zero value low high rest
  | cons n ns ih =>
    obtain ⟨-, hns⟩ := List.forall_mem_cons.1 hns
    have hnext : ∀ m ∈ ns.head?, 0x80 ≤ 0x80 + m ∧ 0x80 + m ≤ 0xBF := by
      intro m hm
      have := hns m (List.mem_of_mem_head? hm)
      omega
    obtain ⟨hvalue, hleft⟩ := tails_succ (hfirst n rfl) ns.length value (ns.map (0x80 + ·) ++ rest)
    rw [List.length_cons, List.map_cons, List.cons_append, hvalue, hleft, Nat.add_sub_cancel_left]
    exact ih hns hnext _

/-! ## First bytes -/

theorem lead?_two : ∀ n < 32, 2 ≤ n → lead? (0xC0 + n) = some ⟨n, 1, 0x80, 0xBF⟩ := by decide

/-- The range of the second of three bytes leaves out what has a shorter form and what is no character. -/
theorem lead?_three : ∀ n < 16,
    lead? (0xE0 + n) = some ⟨n, 2, if n = 0 then 0xA0 else 0x80, if n = 13 then 0x9F else 0xBF⟩ := by decide

/-- The range of the second of four bytes leaves out what has a shorter form and what is beyond all characters. -/
theorem lead?_four : ∀ n < 5,
    lead? (0xF0 + n) = some ⟨n, 3, if n = 0 then 0x90 else 0x80, if n = 4 then 0x8F else 0xBF⟩ := by decide

theorem scan_of_lead? {b : Nat} {l : Lead} (hb : 0x80 ≤ b) (hlead : lead? b = some l) {value : Nat}
    {bytes rest : List Nat}
    (htails : (tails l.count l.bits l.low l.high bytes).1 = some value ∧
      (tails l.count l.bits l.low l.high bytes).2.1 = rest) :
    scan (b :: bytes) = some (Char.ofNat value) :: scan rest := by
  rw [← htails.2, ← Option.map_some (f := Char.ofNat), ← htails.1, scan, if_neg (Nat.not_lt.2 hb), hlead]

/-! ## Characters -/

/-- What is written for a character is read as that character. -/
theorem scan_encodeChar (c : Char) (rest : List Nat) : scan (encodeChar c ++ rest) = some c :: scan rest := by
  have hc : Char.ofNat c.toNat = c := Char.ofNat_toNat c
  have hlt := toNat_lt c
  have hvalid : c.toNat < 0xD800 ∨ 0xDFFF < c.toNat := c.valid.imp id And.left
  unfold encodeChar
  simp only
  generalize c.toNat = n at hc hlt hvalid
  split
  · rename_i hone
    rw [List.singleton_append, scan, if_pos hone, hc]
  · split
    · rename_i hone htwo
      have hvalue : n / 64 * 64 + n % 64 = n := by omega
      have h := scan_of_lead? (by omega) (lead?_two (n / 64) (by omega) (by omega))
        (tails_append [n % 64] (by simp; omega) (by simp; omega) (n / 64) rest)
      rwa [List.foldl_cons, List.foldl_nil, hvalue, hc] at h
    · split
      · rename_i hone htwo hthree
        have hvalue : (n / 4096 * 64 + n / 64 % 64) * 64 + n % 64 = n := by omega
        have h := scan_of_lead? (by omega) (lead?_three (n / 4096) (by omega))
          (tails_append [n / 64 % 64, n % 64] (by simp; omega)
            (by simp; constructor <;> split <;> omega) (n / 4096) rest)
        rwa [List.foldl_cons, List.foldl_cons, List.foldl_nil, hvalue, hc] at h
      · rename_i hone htwo hthree
        have hvalue : ((n / 262144 * 64 + n / 4096 % 64) * 64 + n / 64 % 64) * 64 + n % 64 = n := by omega
        have h := scan_of_lead? (by omega) (lead?_four (n / 262144) (by omega))
          (tails_append [n / 4096 % 64, n / 64 % 64, n % 64] (by simp; omega)
            (by simp; constructor <;> split <;> omega) (n / 262144) rest)
        rwa [List.foldl_cons, List.foldl_cons, List.foldl_cons, List.foldl_nil, hvalue, hc] at h

/-- A text comes back from its bytes. -/
theorem decodeLossy_encode (cs : List Char) : decodeLossy (encode cs) = cs := by
  have hscan : scan (encode cs) = cs.map some := by
    induction cs with
    | nil => rw [encode, List.flatMap_nil, scan, List.map_nil]
    | cons c rest ih => rw [encode, List.flatMap_cons, scan_encodeChar, ← encode, ih, List.map_cons]
  rw [decodeLossy, hscan, List.map_map]
  exact List.map_id cs

/-! ## The order of bytes -/

theorem encodeChar_ne_nil (c : Char) : encodeChar c ≠ [] := by
  unfold encodeChar
  simp only
  repeat' split
  all_goals exact List.cons_ne_nil _ _

/-- Longer characters begin with greater bytes, and those of one length differ as their numbers do. -/
theorem encodeChar_append_lt {c d : Char} (h : c < d) (xs ys : List Nat) : encodeChar c ++ xs < encodeChar d ++ ys := by
  have hlt : c.toNat < d.toNat := h
  have hc := toNat_lt c
  have hd := toNat_lt d
  unfold encodeChar
  simp only
  generalize c.toNat = m at hlt hc
  generalize d.toNat = n at hlt hd
  repeat' split
  all_goals
    simp only [List.cons_append, List.nil_append, List.cons_lt_cons_iff]
    omega

theorem encode_lt_of_lt {cs ds : List Char} (h : cs < ds) : encode cs < encode ds := by
  induction cs generalizing ds with
  | nil =>
    cases ds with
    | nil => exact absurd h (List.lt_irrefl [])
    | cons d rest =>
      obtain ⟨b, bytes, hbytes⟩ := List.exists_cons_of_ne_nil (encodeChar_ne_nil d)
      rw [encode, encode, List.flatMap_nil, List.flatMap_cons, hbytes, List.cons_append]
      exact List.nil_lt_cons b _
  | cons c rest ih =>
    cases ds with
    | nil => exact absurd h (List.not_lt_nil _)
    | cons d rest' =>
      rw [encode, encode, List.flatMap_cons, List.flatMap_cons]
      rcases List.cons_lt_cons_iff.1 h with hlt | ⟨rfl, hrest⟩
      · exact encodeChar_append_lt hlt _ _
      · exact List.append_left_lt (ih hrest)

/-- Texts are ordered as their bytes are. -/
theorem encode_lt_encode_iff {s t : String} : encode s.toList < encode t.toList ↔ s < t := by
  refine ⟨fun h => String.not_le.1 fun hle => ?_, encode_lt_of_lt⟩
  by_cases hlt : t < s
  · exact List.lt_asymm h (encode_lt_of_lt hlt)
  · exact List.lt_irrefl _ (String.le_antisymm hle (String.not_lt.1 hlt) ▸ h)

end EntityGraph.Text.Utf8
