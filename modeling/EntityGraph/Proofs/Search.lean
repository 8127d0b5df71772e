import EntityGraph.Proofs.Text.Joined
import EntityGraph.Proofs.Text.Words
import EntityGraph.Search

/-!
# Patterns read back

A pattern is read character by character: a backslash takes the meaning away from the character behind it. What is cut
at the separator, loses its last star and is read that way is the words of the term again, so no two lists of words
share a pattern, and none of the words' special characters has a meaning.
-/
namespace EntityGraph.Search

/-! ## Characters with and without a meaning -/

/-- A character of a pattern, and whether a backslash stands before it. -/
structure Glyph where
  char : Char
  escaped : Bool
  deriving Repr, DecidableEq

/-- The characters of a pattern as the pattern language reads them. -/
def glyphs : List Char → List Glyph
  | [] => []
  | '\\' :: c :: rest => ⟨c, true⟩ :: glyphs rest
  | c :: rest => ⟨c, false⟩ :: glyphs rest

/-- Whether a character has a meaning in the pattern language. -/
def Glyph.isOperator (g : Glyph) : Bool := !g.escaped && specialChars.contains g.char

/-- The character that asks for words with a given beginning. -/
def star : Glyph := ⟨'*', false⟩

/-- A word with every special character escaped, and no other. -/
def literal (word : String) : List Glyph := word.toList.map (fun c => ⟨c, specialChars.contains c⟩)

/-- What asks for words that begin with a given one. -/
def beginning (word : String) : List Glyph := literal word ++ [star]

theorem glyphs_cons {c : Char} (h : c ≠ '\\') (rest : List Char) : glyphs (c :: rest) = ⟨c, false⟩ :: glyphs rest := by
  rw [glyphs]
  rintro next rest' rfl
  exact absurd rfl h

/-- Special characters are read as escaped, the others as they are. -/
theorem glyphs_escapeChars (word rest : List Char) :
    glyphs (escapeChars word ++ rest) = word.map (fun c => ⟨c, specialChars.contains c⟩) ++ glyphs rest := by
  induction word with
  | nil => rfl
  | cons c more ih =>
    rw [escapeChars, List.map_cons, List.cons_append, ← ih]
    by_cases hc : specialChars.contains c = true
    · rw [if_pos hc, hc]
      rfl
    · have hne : c ≠ '\\' := by
        rintro rfl
        exact hc (by decide)
      rw [if_neg hc, Bool.eq_false_iff.2 hc, List.cons_append, glyphs_cons hne]

theorem isOperator_of_mem_literal {word : String} {g : Glyph} (h : g ∈ literal word) : g.isOperator = false := by
  obtain ⟨c, -, rfl⟩ := List.mem_map.1 h
  simp [Glyph.isOperator]

theorem map_char_literal (word : String) : (literal word).map Glyph.char = word.toList := by
  rw [literal, List.map_map]
  exact List.map_id _

/-! ## Pieces between separators -/

/-- The pieces of a text between the occurrences of a separator, found from left to right. Of the one found last there
are still `skip` characters to pass; `piece` is the piece read so far. -/
def piecesFrom (sep piece : List Char) : Nat → List Char → List (List Char)
  | _, [] => [piece]
  | skip + 1, _ :: rest => piecesFrom sep piece skip rest
  | 0, c :: rest =>
    if sep.isPrefixOf (c :: rest) then piece :: piecesFrom sep [] (sep.length - 1) rest
    else piecesFrom sep (piece ++ [c]) 0 rest

/-- The pieces of a text between the occurrences of a separator. -/
def pieces (sep text : List Char) : List (List Char) := piecesFrom sep [] 0 text

theorem piecesFrom_skip (sep piece passed rest : List Char) :
    piecesFrom sep piece passed.length (passed ++ rest) = piecesFrom sep piece 0 rest := by
  induction passed with
  | nil => rfl
  | cons c passed ih => exact ih

section Pieces

variable {first : Char} {others : List Char}

/-- No separator begins where its first character does not stand. -/
theorem piecesFrom_append {part : List Char} (h : first ∉ part) (piece rest : List Char) :
    piecesFrom (first :: others) piece 0 (part ++ rest) = piecesFrom (first :: others) (piece ++ part) 0 rest := by
  induction part generalizing piece with
  | nil => rw [List.nil_append, List.append_nil]
  | cons c part ih =>
    rw [List.mem_cons, not_or] at h
    have hprefix : (first :: others).isPrefixOf (c :: (part ++ rest)) = false := by
      rw [List.isPrefixOf, beq_eq_false_iff_ne.2 h.1, Bool.false_and]
    rw [List.cons_append, piecesFrom, if_neg (Bool.eq_false_iff.1 hprefix), ih h.2, List.append_assoc,
      List.singleton_append]

theorem piecesFrom_separator (piece rest : List Char) :
    piecesFrom (first :: others) piece 0 (first :: others ++ rest) = piece :: pieces (first :: others) rest := by
  have hprefix : (first :: others).isPrefixOf (first :: (others ++ rest)) = true :=
    List.isPrefixOf_iff_prefix.2 (List.prefix_append (first :: others) rest)
  rw [List.cons_append, piecesFrom, if_pos hprefix, List.length_cons, Nat.add_sub_cancel, piecesFrom_skip, pieces]

/-- Pieces without the first character of the separator are found again after they are joined. -/
theorem pieces_intercalate {parts : List (List Char)} (hne : parts ≠ []) (h : ∀ part ∈ parts, first ∉ part) :
    pieces (first :: others) ((first :: others).intercalate parts) = parts := by
  induction parts with
  | nil => exact absurd rfl hne
  | cons part rest ih =>
    obtain ⟨hpart, hrest⟩ := List.forall_mem_cons.1 h
    cases rest with
    | nil =>
      have hwhole : piecesFrom (first :: others) [] 0 (part ++ []) = [part] := piecesFrom_append hpart [] []
      rw [List.append_nil] at hwhole
      rw [List.intercalate_singleton, pieces, hwhole]
    | cons next rest =>
      rw [List.intercalate_cons_cons, List.append_assoc, pieces, piecesFrom_append hpart, List.nil_append,
        piecesFrom_separator, ih (List.cons_ne_nil _ _) hrest]

end Pieces

/-! ## The words that a pattern asks for -/

/-- What stands between the words of a pattern. -/
def separator : List Char := [' ', 'A', 'N', 'D', ' ']

/-- The beginning that a piece asks for: what it reads before a last star that has its meaning. -/
def wordOf? (piece : List Char) : Option String :=
  if (glyphs piece).getLast? = some star then some (String.ofList ((glyphs piece).dropLast.map Glyph.char)) else none

/-- The words that a pattern asks for. -/
def wordsOf? (pattern : String) : Option (List String) := (pieces separator pattern.toList).mapM wordOf?

/-- The piece of a pattern for one word. -/
def wordPiece (word : String) : List Char := escapeChars word.toList ++ ['*']

theorem glyphs_wordPiece_append (word : String) (rest : List Char) :
    glyphs (wordPiece word ++ rest) = beginning word ++ glyphs rest := by
  have hstar : glyphs ('*' :: rest) = star :: glyphs rest := glyphs_cons (by decide) rest
  rw [wordPiece, List.append_assoc, glyphs_escapeChars, List.singleton_append, hstar, beginning, List.append_assoc,
    List.singleton_append, literal]

theorem glyphs_wordPiece (word : String) : glyphs (wordPiece word) = beginning word := by
  have h := glyphs_wordPiece_append word []
  rwa [List.append_nil, glyphs, List.append_nil] at h

theorem wordOf?_wordPiece (word : String) : wordOf? (wordPiece word) = some word := by
  rw [wordOf?, glyphs_wordPiece, beginning, if_pos List.getLast?_concat, List.dropLast_concat, map_char_literal,
    String.ofList_toList]

theorem mem_of_mem_escapeChars {c : Char} {word : List Char} (h : c ∈ escapeChars word) : c = '\\' ∨ c ∈ word := by
  induction word with
  | nil => cases h
  | cons d rest ih =>
    rw [escapeChars] at h
    rw [List.mem_cons]
    by_cases hd : specialChars.contains d = true
    · rw [if_pos hd, List.mem_cons, List.mem_cons] at h
      rcases h with h | h | h
      · exact .inl h
      · exact .inr (.inl h)
      · exact (ih h).imp id .inr
    · rw [if_neg hd, List.mem_cons] at h
      rcases h with h | h
      · exact .inr (.inl h)
      · exact (ih h).imp id .inr

theorem blank_not_mem_wordPiece {word : String} (h : ∀ c ∈ word.toList, Text.isBlank c = false) :
    ' ' ∉ wordPiece word := by
  intro hmem
  rcases List.mem_append.1 hmem with hmem | hmem
  · rcases mem_of_mem_escapeChars hmem with hslash | hmem
    · exact absurd hslash (by decide)
    · exact absurd (h _ hmem) (by decide)
  · exact absurd (List.mem_singleton.1 hmem) (by decide)

theorem glyphs_separator (rest : List Char) : glyphs (separator ++ rest) = glyphs separator ++ glyphs rest := by
  simp [separator, glyphs_cons]
  rfl

/-- A pattern is read as its pieces are, with the separators between them. -/
theorem glyphs_intercalate (words : List String) :
    glyphs (separator.intercalate (words.map wordPiece)) =
      (glyphs separator).intercalate (words.map beginning) := by
  induction words with
  | nil => rfl
  | cons word rest ih =>
    cases rest with
    | nil => simpa using glyphs_wordPiece word
    | cons next rest =>
      rw [List.map_cons, List.map_cons] at ih
      simp only [List.map_cons, List.intercalate_cons_cons, List.append_assoc, glyphs_wordPiece_append,
        glyphs_separator, ih]

theorem pattern?_eq (term : String) :
    pattern? term =
      if Text.words term = [] then none
      else some (String.ofList (separator.intercalate ((Text.words term).map wordPiece))) := by
  have hseparator : " AND ".toList = separator := by decide
  have hpiece (word : String) : (escape word ++ "*").toList = wordPiece word := by
    rw [String.toList_append, escape, String.toList_ofList]
    rfl
  have htext : " AND ".intercalate ((Text.words term).map (fun w => escape w ++ "*")) =
      String.ofList (separator.intercalate ((Text.words term).map wordPiece)) := by
    rw [← String.toList_inj, String.toList_ofList, String.toList_intercalate, hseparator, List.map_map]
    exact congrArg separator.intercalate (List.map_congr_left fun word _ => hpiece word)
  simp only [pattern?, List.isEmpty_iff, htext]

theorem pattern?_eq_none_iff {term : String} : pattern? term = none ↔ Text.words term = [] := by
  rw [pattern?_eq]
  by_cases hnone : Text.words term = [] <;> simp [hnone]

theorem pattern?_eq_some_iff {term pattern : String} :
    pattern? term = some pattern ↔
      Text.words term ≠ [] ∧ pattern.toList = separator.intercalate ((Text.words term).map wordPiece) := by
  rw [pattern?_eq, ← String.toList_ofList (l := separator.intercalate _), String.toList_inj]
  by_cases hnone : Text.words term = [] <;> simp [hnone, eq_comm]

theorem pieces_of_pattern? {term pattern : String} (h : pattern? term = some pattern) :
    pieces separator pattern.toList = (Text.words term).map wordPiece := by
  obtain ⟨hne, htext⟩ := pattern?_eq_some_iff.1 h
  rw [htext]
  refine pieces_intercalate (by simpa using hne) (List.forall_mem_map.2 fun w hw => ?_)
  exact blank_not_mem_wordPiece (Text.isBlank_of_mem_words hw)

/-! ## Nothing is lost, nothing leaks -/

/-- What a pattern says of the words that it was made from. -/
structure Spells (words : List String) (pattern : String) : Prop where
  /-- The words are read back from the pattern. -/
  wordsOf : wordsOf? pattern = some words
  /-- Each piece reads as its word, special characters escaped and no others, before a star that has its meaning. -/
  pieces : (Search.pieces separator pattern.toList).map glyphs = words.map beginning
  /-- The pattern reads as its pieces, with the separators between them. -/
  whole : glyphs pattern.toList =
    (glyphs separator).intercalate ((Search.pieces separator pattern.toList).map glyphs)
  /-- Nothing has a meaning but the star of each piece. -/
  operators : (glyphs pattern.toList).filter Glyph.isOperator = words.map (fun _ => star)

theorem filter_isOperator_intercalate (words : List String) :
    ((glyphs separator).intercalate (words.map beginning)).filter Glyph.isOperator = words.map (fun _ => star) := by
  have hword (word : String) : (beginning word).filter Glyph.isOperator = [star] := by
    rw [beginning, List.filter_append, List.filter_eq_nil_iff.2 fun g hg => by rw [isOperator_of_mem_literal hg]; decide]
    rfl
  have hseparator : (glyphs separator).filter Glyph.isOperator = [] := by decide
  induction words with
  | nil => rfl
  | cons word rest ih =>
    cases rest with
    | nil => simpa using hword word
    | cons next rest =>
      rw [List.map_cons] at ih
      simp only [List.map_cons, List.intercalate_cons_cons, List.filter_append, hword, hseparator, ih]
      rfl

theorem spells_of_pattern? {term pattern : String} (h : pattern? term = some pattern) :
    Spells (Text.words term) pattern := by
  have hpieces := pieces_of_pattern? h
  have hreads : (Search.pieces separator pattern.toList).map glyphs = (Text.words term).map beginning := by
    rw [hpieces, List.map_map]
    exact List.map_congr_left fun word _ => glyphs_wordPiece word
  have htext : glyphs pattern.toList = (glyphs separator).intercalate ((Text.words term).map beginning) := by
    rw [(pattern?_eq_some_iff.1 h).2, glyphs_intercalate]
  refine ⟨?_, hreads, by rw [hreads, htext], by rw [htext, filter_isOperator_intercalate]⟩
  rw [wordsOf?, hpieces]
  induction Text.words term with
  | nil => rfl
  | cons word rest ih =>
    rw [List.map_cons, List.mapM_cons, wordOf?_wordPiece, ih]
    rfl

/-- Only blank terms have no pattern. Any other pattern is read back as the words of its term, the non-empty pieces of
the term between blanks, whose special characters all lose their meaning. Terms share a pattern if they share their
words. -/
theorem pattern?_spells_words (term : String) :
    (pattern? term = none ↔ ∀ c ∈ term.toList, Text.isBlank c = true) ∧
    Text.words term = ((term.toList.splitOnP Text.isBlank).filter (fun w => !w.isEmpty)).map String.ofList ∧
    (∀ pattern, pattern? term = some pattern → Spells (Text.words term) pattern) ∧
    ∀ other, pattern? term = pattern? other ↔ Text.words term = Text.words other := by
  refine ⟨pattern?_eq_none_iff.trans Text.words_eq_nil_iff, Text.words_eq term, fun _ => spells_of_pattern?,
    fun other => ?_⟩
  constructor
  · intro h
    cases hpattern : pattern? term with
    | none => rw [pattern?_eq_none_iff.1 hpattern, pattern?_eq_none_iff.1 (h ▸ hpattern)]
    | some pattern =>
      have hterm := (spells_of_pattern? hpattern).wordsOf
      have hother := (spells_of_pattern? (h ▸ hpattern)).wordsOf
      exact Option.some.inj (hterm.symm.trans hother)
  · intro h
    rw [pattern?_eq, pattern?_eq, h]

example : pattern? " c++  (beta)" = some "c\\+\\+* AND \\(beta\\)*" := by decide +kernel

end EntityGraph.Search
