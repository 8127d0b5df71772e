import EntityGraph.Text.Identifier

/-!
# Identifiers put together

An identifier may follow another, so names that are joined from identifiers and from endings that start with an
underscore are identifiers again.
-/
namespace EntityGraph.Text

theorem isIdentifierRest_of_start {ch : Char} (h : isIdentifierStart ch = true) : isIdentifierRest ch = true := by
  rw [isIdentifierStart, Bool.or_eq_true] at h
  rw [isIdentifierRest, Char.isAlphanum, Bool.or_eq_true, Bool.or_eq_true]
  exact h.imp .inl id

theorem isIdentifier_iff {s : String} :
    isIdentifier s = true ↔
      ∃ ch rest, s.toList = ch :: rest ∧ isIdentifierStart ch = true ∧ ∀ d ∈ rest, isIdentifierRest d = true := by
  unfold isIdentifier
  cases hs : s.toList with
  | nil => simp
  | cons ch rest =>
    rw [Bool.and_eq_true, List.all_eq_true]
    constructor
    · rintro ⟨hch, hrest⟩
      exact ⟨ch, rest, rfl, hch, hrest⟩
    · rintro ⟨_, _, heq, hch, hrest⟩
      cases heq
      exact ⟨hch, hrest⟩

theorem isIdentifierRest_of_mem {s : String} (h : isIdentifier s = true) :
    ∀ ch ∈ s.toList, isIdentifierRest ch = true := by
  obtain ⟨first, rest, hs, hfirst, hrest⟩ := isIdentifier_iff.1 h
  intro ch hch
  rw [hs] at hch
  rcases List.mem_cons.1 hch with rfl | hch
  · exact isIdentifierRest_of_start hfirst
  · exact hrest ch hch

/-- An identifier behind a prefix that is one itself. -/
theorem isIdentifier_append {s t : String} (h : isIdentifier s = true) (ht : isIdentifier t = true) :
    isIdentifier (s ++ t) = true := by
  obtain ⟨first, rest, hs, hfirst, hrest⟩ := isIdentifier_iff.1 h
  refine isIdentifier_iff.2 ⟨first, rest ++ t.toList, by rw [String.toList_append, hs, List.cons_append], hfirst, ?_⟩
  intro ch hch
  rcases List.mem_append.1 hch with hch | hch
  · exact hrest ch hch
  · exact isIdentifierRest_of_mem ht ch hch

/-- A name is shorter than any name that is joined from it. -/
theorem joined_ne (s t : String) : s ++ "_" ++ t ≠ s := by
  intro h
  have hlength := congrArg String.length h
  have hunderscore : "_".length = 1 := by decide
  rw [String.length_append, String.length_append] at hlength
  omega

theorem joined_twice_ne (s t u : String) : s ++ "_" ++ t ++ "_" ++ u ≠ s := by
  rw [String.append_assoc, String.append_assoc]
  exact joined_ne s _

/-- Lower case spells an identifier with its characters again. -/
theorem isIdentifierRest_toLower {ch : Char} (h : isIdentifierRest ch = true) : isIdentifierRest ch.toLower = true := by
  have hcapitals : ∀ n ≤ 90, 65 ≤ n → isIdentifierRest (Char.ofNat n).toLower = true := by decide
  by_cases hupper : ch.val ≥ 'A'.val ∧ ch.val ≤ 'Z'.val
  · rw [← Char.ofNat_toNat ch]
    exact hcapitals ch.toNat (UInt32.le_iff_toNat_le.1 hupper.2) (UInt32.le_iff_toNat_le.1 hupper.1)
  · have hsame : ch.toLower = ch := dif_neg hupper
    rwa [hsame]

theorem isIdentifierStart_toLower {ch : Char} (h : isIdentifierStart ch = true) :
    isIdentifierStart ch.toLower = true := by
  have hcapitals : ∀ n ≤ 90, 65 ≤ n → isIdentifierStart (Char.ofNat n).toLower = true := by decide
  by_cases hupper : ch.val ≥ 'A'.val ∧ ch.val ≤ 'Z'.val
  · rw [← Char.ofNat_toNat ch]
    exact hcapitals ch.toNat (UInt32.le_iff_toNat_le.1 hupper.2) (UInt32.le_iff_toNat_le.1 hupper.1)
  · have hsame : ch.toLower = ch := dif_neg hupper
    rwa [hsame]

theorem isIdentifierRest_dollar : isIdentifierRest '$' = false := by decide

theorem dollar_not_mem {s : String} (h : isIdentifier s = true) : '$' ∉ s.toList := by
  intro hmem
  have hrest := isIdentifierRest_of_mem h _ hmem
  rw [isIdentifierRest_dollar] at hrest
  cases hrest

end EntityGraph.Text
