import EntityGraph.Proofs.Schema.Ddl
import Mathlib.Data.List.SplitBy

/-!
# What schema statements interpolate

A schema statement is fixed text with names and numbers in its gaps. The names of a valid descriptor are identifiers,
all but the similarity function of an index for vectors, which nothing checks. Where that is an identifier too, the
statement is cut into words and symbols as its fixed text says, with one word in each gap.
-/
namespace EntityGraph.Text

/-! ## Words and symbols -/

/-- A text cut into words, which go as far as identifiers do, and single other characters. -/
def tokens (s : String) : List (List Char) := s.toList.splitBy fun a b => isIdentifierRest a && isIdentifierRest b

/-- A run of characters that identifiers consist of. -/
def IsWord (cs : List Char) : Prop := cs ≠ [] ∧ ∀ ch ∈ cs, isIdentifierRest ch = true

/-- A text that no identifier goes on from: it is empty or ends in a character that no identifier holds. -/
def Closed (s : String) : Prop := s.toList.getLast?.any isIdentifierRest = false

instance (s : String) : Decidable (Closed s) := inferInstanceAs (Decidable (_ = _))

theorem isWord_of_isIdentifier {s : String} (h : isIdentifier s = true) : IsWord s.toList := by
  obtain ⟨first, rest, hs, -, -⟩ := isIdentifier_iff.1 h
  exact ⟨by simp [hs], isIdentifierRest_of_mem h⟩

theorem isWord_repr (n : Nat) : IsWord (Nat.repr n).toList := by
  rw [Nat.toList_repr]
  refine ⟨Nat.toDigits_ne_nil, fun ch hch => ?_⟩
  rw [isIdentifierRest, Char.isAlphanum, isDigit_of_mem_toDigits hch, Bool.or_true, Bool.true_or]

theorem tokens_word {s : String} (h : IsWord s.toList) : tokens s = [s.toList] := by
  have hpairs : s.toList.Pairwise fun a b => (isIdentifierRest a && isIdentifierRest b) = true :=
    List.pairwise_of_forall_mem_list fun a ha b hb => by rw [h.2 a ha, h.2 b hb, Bool.and_self]
  exact List.splitBy_of_isChain h.1 hpairs.isChain

/-- A text is cut where no identifier goes on. -/
theorem tokens_append {s t : String} (h : Closed s ∨ Ends t.toList) : tokens (s ++ t) = tokens s ++ tokens t := by
  rw [tokens, String.toList_append]
  refine List.splitBy_append fun a ha b hb => ?_
  rw [Bool.and_eq_false_iff]
  refine h.imp (fun hclosed => ?_) (fun hends => hends b hb)
  rw [Closed, Option.mem_def.1 ha] at hclosed
  exact hclosed

end EntityGraph.Text

namespace EntityGraph.Schema

open Text (isIdentifier tokens IsWord Closed Ends Separates)

/-! ## Pieces of statements -/

/-- A piece of a statement. -/
inductive Piece where
  /-- Text that stands in the statement whatever the descriptor says. -/
  | fixed (text : String)
  /-- Text of the descriptor. -/
  | given (text : String)
  /-- A number of the descriptor, in decimal digits. -/
  | number (n : Nat)

namespace Piece

def text : Piece → String
  | fixed text => text
  | given text => text
  | number n => Nat.repr n

/-- Pieces one behind the other. -/
def written : List Piece → String
  | [] => ""
  | p :: rest => p.text ++ written rest

/-- What the tokens of a piece must be: those of fixed text, or any word. -/
def slots : Piece → List (Option (List Char))
  | fixed text => (tokens text).map some
  | given _ => [none]
  | number _ => [none]

/-- Whether a token is the one that is called for, or a word if any word will do. -/
def Fits : Option (List Char) → List Char → Prop
  | some token, cs => cs = token
  | none, cs => IsWord cs

/-- No word goes on from one piece to the next. -/
def Fenced : List Piece → Prop
  | [] => True
  | p :: rest => (Closed p.text ∨ Ends (written rest).toList) ∧ Fenced rest

theorem written_append (ps qs : List Piece) : written (ps ++ qs) = written ps ++ written qs := by
  induction ps with
  | nil => exact (String.empty_append).symm
  | cons p rest ih => rw [List.cons_append, written, written, ih, String.append_assoc]

/-- Pieces are cut into tokens one by one. -/
theorem tokens_written {ps : List Piece} (h : Fenced ps) : tokens (written ps) = ps.flatMap fun p => tokens p.text := by
  induction ps with
  | nil => rfl
  | cons p rest ih => rw [written, Text.tokens_append h.1, ih h.2, List.flatMap_cons]

theorem fits_tokens {p : Piece} (h : ∀ s, p = given s → IsWord s.toList) :
    List.Forall₂ Fits p.slots (tokens p.text) := by
  cases p with
  | fixed text => exact List.forall₂_map_left_iff.2 (List.forall₂_same.2 fun _ _ => rfl)
  | given text =>
    have hword := h text rfl
    rw [Piece.text, Text.tokens_word hword]
    exact .cons hword .nil
  | number n =>
    rw [Piece.text, Text.tokens_word (Text.isWord_repr n)]
    exact .cons (Text.isWord_repr n) .nil

/-- Pieces whose names are words read as they should. -/
theorem fits_written {ps : List Piece} (hfenced : Fenced ps) (hwords : ∀ s, given s ∈ ps → IsWord s.toList) :
    List.Forall₂ Fits (ps.flatMap slots) (tokens (written ps)) := by
  rw [tokens_written hfenced]
  induction ps with
  | nil => exact .nil
  | cons p rest ih =>
    have hpiece : List.Forall₂ Fits p.slots (tokens p.text) :=
      fits_tokens fun s hs => hwords s (hs ▸ List.mem_cons_self)
    exact List.rel_append hpiece (ih hfenced.2 fun s hs => hwords s (List.mem_cons_of_mem p hs))

theorem fenced_fixed {s : String} (hs : Closed s) {rest : List Piece} (h : Fenced rest) : Fenced (fixed s :: rest) :=
  ⟨.inl hs, h⟩

/-- Fixed text that no identifier goes into ends the piece before it. -/
theorem fenced_gap {p : Piece} {s : String} (hs : Separates s) {rest : List Piece} (h : Fenced (fixed s :: rest)) :
    Fenced (p :: fixed s :: rest) :=
  ⟨.inr (hs.ends_append _), h⟩

end Piece

/-! ## The pieces of schema statements -/

namespace Creation

open Piece

/-- The properties of an index. -/
def covering : List String → List Piece
  | [] => []
  | p :: rest => fixed "n." :: given p :: rest.flatMap fun q => [fixed ", n.", given q]

/-- What stands behind the properties of an index. -/
def closing (i : Index) : List Piece :=
  match i.kind with
  | .range => [fixed ")"]
  | .fulltext => [fixed "]"]
  | .vector =>
    [fixed ") OPTIONS \x7bindexConfig: \x7b\x60vector.dimensions\x60: ", number (i.dimensions.getD 0),
      fixed ", \x60vector.similarity_function\x60: '", given (i.similarity.getD "cosine"), fixed "'\x7d\x7d"]

/-- What stands before the properties of an index. -/
def lead : IndexKind → String
  | .range => ") ON ("
  | .fulltext => ") ON EACH ["
  | .vector => ") ON ("

def targetPieces : Creation → List Piece
  | unique property => [fixed ") REQUIRE n.", given property, fixed " IS UNIQUE"]
  | index i => fixed (lead i.kind) :: (covering i.properties ++ closing i)

def pieces (label : String) (x : Creation) : List Piece :=
  fixed x.opening :: given (x.name label) :: fixed " IF NOT EXISTS FOR (n:" :: given label :: x.targetPieces

theorem written_covering (ps : List String) : written (covering ps) = covered ps := by
  cases ps with
  | nil => rfl
  | cons p rest =>
    have hcontinued : written (rest.flatMap fun q => [fixed ", n.", given q]) = continued rest := by
      induction rest with
      | nil => rfl
      | cons q rest ih => rw [List.flatMap_cons, written_append, ih, continued, written, written, written,
          String.append_empty, text, text, String.append_assoc]
    rw [covering, written, written, hcontinued, covered_cons, text, text]

theorem written_targetPieces (x : Creation) : written x.targetPieces = x.target := by
  cases x with
  | unique property => simp only [targetPieces, written, text, String.append_empty, target]
  | index i =>
    obtain ⟨name, kind, properties, dimensions, similarity⟩ := i
    cases kind <;>
      simp only [targetPieces, lead, closing, written, written_append, written_covering, text, String.append_empty,
        target]

/-- A statement is its pieces. -/
theorem written_pieces (label : String) (x : Creation) : written (x.pieces label) = x.statement label := by
  rw [statement_eq, pieces, written, written, written, written, written_targetPieces]
  rfl

/-- A creation of the same kind, on as many properties, without any name or number. -/
def blank : Creation → Creation
  | unique _ => unique ""
  | index i => index ⟨"", i.kind, i.properties.map fun _ => "", none, none⟩

theorem slots_blank (label : String) (x : Creation) :
    (x.blank.pieces "").flatMap slots = (x.pieces label).flatMap slots := by
  cases x with
  | unique property =>
    simp only [blank, pieces, targetPieces, opening, slots, List.flatMap_cons, List.flatMap_nil]
  | index i =>
    obtain ⟨name, kind, properties, dimensions, similarity⟩ := i
    have hcovering : (covering (properties.map fun _ => "")).flatMap slots = (covering properties).flatMap slots := by
      cases properties with
      | nil => rfl
      | cons p rest =>
        simp only [List.map_cons, covering, List.flatMap_cons, List.flatMap_assoc, List.flatMap_map, List.flatMap_nil,
          slots]
    cases kind <;>
      simp only [blank, pieces, targetPieces, lead, closing, opening, hcovering, slots, List.flatMap_cons,
        List.flatMap_append, List.flatMap_nil]

theorem fenced_covering (ps : List String) {s : String} (hs : Separates s) {rest : List Piece}
    (h : Fenced (fixed s :: rest)) : Fenced (covering ps ++ fixed s :: rest) := by
  have hcomma : Separates ", n." := by decide
  have hbehind (p : String) (qs : List String) :
      Fenced (given p :: (qs.flatMap (fun q => [fixed ", n.", given q]) ++ fixed s :: rest)) := by
    induction qs generalizing p with
    | nil => exact fenced_gap hs h
    | cons q qs ih => exact fenced_gap hcomma (fenced_fixed (by decide) (ih q))
  cases ps with
  | nil => exact h
  | cons p qs => exact fenced_fixed (by decide) (hbehind p qs)

theorem fenced_targetPieces (x : Creation) : Fenced x.targetPieces := by
  have hlast (s : String) : Fenced [fixed s] := ⟨.inr (by decide), trivial⟩
  have hlead (kind : IndexKind) : Closed (lead kind) := by cases kind <;> decide
  cases x with
  | unique property => exact fenced_fixed (by decide) (fenced_gap (by decide) (hlast _))
  | index i =>
    refine fenced_fixed (hlead i.kind) ?_
    unfold closing
    cases i.kind with
    | range => exact fenced_covering i.properties (by decide) (hlast _)
    | fulltext => exact fenced_covering i.properties (by decide) (hlast _)
    | vector =>
      have hsimilarity : Fenced [given (i.similarity.getD "cosine"), fixed "'\x7d\x7d"] :=
        fenced_gap (by decide) (hlast _)
      have hdimensions := fenced_gap (p := number (i.dimensions.getD 0)) (by decide)
        (fenced_fixed (s := ", \x60vector.similarity_function\x60: '") (by decide) hsimilarity)
      exact fenced_covering i.properties (by decide) (fenced_fixed (by decide) hdimensions)

theorem fenced_pieces (label : String) (x : Creation) : Fenced (x.pieces label) := by
  have hopening : ∀ s ∈ openings, Closed s := by decide
  have hlabel : Fenced (given label :: x.targetPieces) := by
    refine ⟨.inr ?_, x.fenced_targetPieces⟩
    rw [written_targetPieces]
    exact x.ends_target
  exact fenced_fixed (hopening _ x.opening_mem) (fenced_gap (by decide) (fenced_fixed (by decide) hlabel))

/-! ## Names -/

/-- The similarity function that the statement of an index for vectors names. -/
def similarity? : Creation → Option String
  | unique _ => none
  | index i => if i.kind = .vector then some (i.similarity.getD "cosine") else none

theorem isIdentifier_lowered {s : String} (h : isIdentifier s = true) : isIdentifier (lowered s) = true := by
  obtain ⟨first, rest, hs, hfirst, hrest⟩ := Text.isIdentifier_iff.1 h
  refine Text.isIdentifier_iff.2 ⟨first.toLower, rest.map Char.toLower, by simp [lowered, hs],
    Text.isIdentifierStart_toLower hfirst, ?_⟩
  rintro _ hlower
  obtain ⟨ch, hch, rfl⟩ := List.mem_map.1 hlower
  exact Text.isIdentifierRest_toLower (hrest ch hch)

/-- The name of a constraint is an identifier, and so is that of a sound index. -/
theorem isIdentifier_name {label : String} (hlabel : isIdentifier label = true) {x : Creation} (h : x.Sound) :
    isIdentifier (x.name label) = true := by
  cases x with
  | unique property =>
    have hbetween : isIdentifier (lowered label ++ "_") = true :=
      Text.isIdentifier_append (isIdentifier_lowered hlabel) (by decide)
    exact Text.isIdentifier_append (Text.isIdentifier_append hbetween h) (by decide)
  | index i => exact h.1

theorem given_mem_covering {s : String} {ps : List String} : given s ∈ covering ps ↔ s ∈ ps := by
  cases ps with
  | nil => simp [covering]
  | cons p rest => simp [covering]

/-- The statement of an index names its properties and, for vectors, the similarity function. -/
theorem given_mem_targetPieces {i : Index} {s : String} :
    given s ∈ (index i).targetPieces ↔ s ∈ i.properties ∨ (index i).similarity? = some s := by
  have hclosing : given s ∈ closing i ↔ (index i).similarity? = some s := by
    cases hkind : i.kind <;> simp [closing, similarity?, hkind, eq_comm]
  rw [targetPieces, List.mem_cons, List.mem_append, given_mem_covering, hclosing]
  simp

/-- All that a sound creation names is named by identifiers, perhaps but for the similarity function. -/
theorem isIdentifier_of_given {label : String} (hlabel : isIdentifier label = true) {x : Creation} (h : x.Sound)
    {s : String} (hs : given s ∈ x.pieces label) : isIdentifier s = true ∨ x.similarity? = some s := by
  simp only [pieces, List.mem_cons, given.injEq, reduceCtorEq, false_or] at hs
  rcases hs with rfl | rfl | hs
  · exact .inl (isIdentifier_name hlabel h)
  · exact .inl hlabel
  · cases x with
    | unique property =>
      obtain rfl : s = property := by simpa [targetPieces] using hs
      exact .inl h
    | index i => exact (given_mem_targetPieces.1 hs).imp_left (h.2.2.1 s)

theorem given_of_similarity {label s : String} {x : Creation} (h : x.similarity? = some s) :
    given s ∈ x.pieces label := by
  cases x with
  | unique property => cases h
  | index i =>
    have htarget := given_mem_targetPieces.2 (.inr h)
    simp only [pieces, List.mem_cons, htarget, or_true]

/-- Only an index for vectors names a similarity function: the one that it declares, or the cosine. -/
theorem similarity_cases {x : Creation} {s : String} (h : x.similarity? = some s) :
    ∃ i, x = index i ∧ i.kind = .vector ∧ s = i.similarity.getD "cosine" := by
  cases x with
  | unique property => cases h
  | index i =>
    obtain ⟨hkind, hs⟩ := Option.ite_none_right_eq_some.1 h
    exact ⟨i, rfl, hkind, (Option.some.inj hs).symm⟩

end Creation

/-! ## Statements of valid descriptors -/

open Piece

/-- The statements of a valid descriptor are fixed text with identifiers and numbers in its gaps, all but the
similarity functions that its indexes for vectors declare: there is nothing else that could be no identifier. A
statement whose similarity function is an identifier has the words and symbols of its kind, with a word in each gap. -/
theorem interpolates_identifiers_but_similarity {d : Descriptor} (h : d.validate = .ok ()) :
    d.ddl = d.creations.map (fun x => written (x.pieces d.label)) ∧
      (∀ x ∈ d.creations, ∀ s, given s ∈ x.pieces d.label → isIdentifier s = true ∨ x.similarity? = some s) ∧
      ((∀ x ∈ d.creations, ∀ s, given s ∈ x.pieces d.label → isIdentifier s = true) ↔
        ∀ i ∈ d.indexes, i.kind = .vector → ∀ s, i.similarity = some s → isIdentifier s = true) ∧
      ∀ x ∈ d.creations, (∀ s, x.similarity? = some s → isIdentifier s = true) →
        List.Forall₂ Fits ((x.blank.pieces "").flatMap slots) (tokens (x.statement d.label)) := by
  have hlabel := (Descriptor.spelled_of_validate h).label
  have hgiven (x) (hx : x ∈ d.creations) (s) (hs : given s ∈ x.pieces d.label) :
      isIdentifier s = true ∨ x.similarity? = some s :=
    Creation.isIdentifier_of_given hlabel (Descriptor.sound_creations h x hx) hs
  refine ⟨?_, hgiven, ⟨fun hall i hi hkind s hs => ?_, fun hall x hx s hs => ?_⟩, fun x hx hsimilarity => ?_⟩
  · simp only [Descriptor.ddl_eq, Creation.written_pieces]
  · have hx : Creation.index i ∈ d.creations := List.mem_append_right _ (List.mem_map_of_mem hi)
    exact hall _ hx s (Creation.given_of_similarity (by simp [Creation.similarity?, hkind, hs]))
  · rcases hgiven x hx s hs with hidentifier | hsimilarity
    · exact hidentifier
    · obtain ⟨i, rfl, hkind, rfl⟩ := Creation.similarity_cases hsimilarity
      have hi : i ∈ d.indexes := by simpa [Descriptor.creations] using hx
      cases hdeclared : i.similarity with
      | none => decide
      | some s => exact hall i hi hkind s hdeclared
  · rw [Creation.slots_blank d.label, ← Creation.written_pieces]
    refine fits_written (x.fenced_pieces d.label) fun s hs => Text.isWord_of_isIdentifier ?_
    exact (hgiven x hx s hs).elim id (hsimilarity s)

/-- Passages with an index of their embeddings, which compares them in the given way. -/
def passages (similarity : String) : Descriptor :=
  ((Descriptor.base "Passage" "passage").withField "embedding" ⟨.numberList, none⟩).withIndex
    ⟨"passage_embedding", .vector, ["embedding"], some 3, some similarity⟩

theorem passages_interpolate_identifiers :
    (passages "euclidean").validate = .ok () ∧
      ∀ x ∈ (passages "euclidean").creations, ∀ s, given s ∈ x.pieces "Passage" → isIdentifier s = true :=
  ⟨rfl, (interpolates_identifiers_but_similarity (d := passages "euclidean") rfl).2.2.1.2 (by decide)⟩

/-- The similarity function is the only text of a valid descriptor that can be no identifier. A quote in it ends the
setting that it stands in, so what follows adds a setting of its own. -/
theorem not_interpolates_identifiers_only :
    (¬∀ d : Descriptor, d.validate = .ok () →
        ∀ x ∈ d.creations, ∀ s, given s ∈ x.pieces d.label → isIdentifier s = true) ∧
      ¬∀ d : Descriptor, d.validate = .ok () →
        ∀ x ∈ d.creations, List.Forall₂ Fits ((x.blank.pieces "").flatMap slots) (tokens (x.statement d.label)) := by
  let i : Index := ⟨"passage_embedding", .vector, ["embedding"], some 3, some "cosine', extra: 'on"⟩
  have hi : Creation.index i ∈ (passages "cosine', extra: 'on").creations :=
    List.mem_append_right _ (List.mem_map_of_mem List.mem_cons_self)
  constructor
  · intro h
    have hidentifier := h (passages "cosine', extra: 'on") rfl _ hi "cosine', extra: 'on"
      (Creation.given_of_similarity rfl)
    exact absurd hidentifier (by decide)
  · intro h
    have hlength := (h (passages "cosine', extra: 'on") rfl _ hi).length_eq
    rw [← Creation.written_pieces, tokens_written (Creation.fenced_pieces _ _)] at hlength
    exact absurd hlength (by decide +kernel)

end EntityGraph.Schema
