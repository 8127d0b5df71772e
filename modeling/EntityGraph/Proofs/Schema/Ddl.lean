import EntityGraph.Proofs.Schema.Registry
import EntityGraph.Proofs.Text.Number
import EntityGraph.Proofs.Text.References
import EntityGraph.Text.Scan

/-!
# When schema statements shadow each other

A statement creates a constraint or an index unless one of its name exists, so of two different statements with the
same name only the first one has an effect. Names are lower-case labels joined with properties, or are declared, and
nothing compares those of different descriptors. Here is what exactly it takes for them to stay apart.
-/
namespace EntityGraph.Text

/-- Where characters of one class end and others begin, a text falls apart in one way only. -/
theorem append_inj_of_stop {p : Char → Bool} {s t x y : String} (hs : ∀ ch ∈ s.toList, p ch = true)
    (ht : ∀ ch ∈ t.toList, p ch = true) (hx : ∀ ch ∈ x.toList.head?, p ch = false)
    (hy : ∀ ch ∈ y.toList.head?, p ch = false) (h : s ++ x = t ++ y) : s = t ∧ x = y := by
  have hread {u z : String} (hu : ∀ ch ∈ u.toList, p ch = true) (hz : ∀ ch ∈ z.toList.head?, p ch = false) :
      (u ++ z).toList.takeWhile p = u.toList := by
    have hstop : z.toList.takeWhile p = [] := by
      cases hchars : z.toList with
      | nil => rfl
      | cons ch rest => rw [List.takeWhile_cons, hz ch (by rw [hchars]; rfl), if_neg Bool.false_ne_true]
    rw [String.toList_append, List.takeWhile_append_of_pos hu, hstop, List.append_nil]
  obtain rfl : s = t := String.ext (by rw [← hread hs hx, h, hread ht hy])
  exact ⟨rfl, (String.append_right_inj s).1 h⟩

end EntityGraph.Text

namespace EntityGraph.Schema

open Text (isIdentifier isIdentifierRest Ends Separates)

/-! ## The name in a statement -/

/-- What the statements begin with that create something. -/
def openings : List String :=
  ["CREATE CONSTRAINT ", "CREATE INDEX ", "CREATE FULLTEXT INDEX ", "CREATE VECTOR INDEX "]

/-- The name of what a statement creates. -/
def createdName? (statement : String) : Option String :=
  openings.findSome? fun opening =>
    (Text.word? opening.toList statement.toList).map fun rest => String.ofList (rest.1.takeWhile isIdentifierRest)

/-- No statement is skipped because a different one has created something of the same name. -/
def Unshadowed (statements : List String) : Prop :=
  ∀ s ∈ statements, ∀ s' ∈ statements, ∀ name, createdName? s = some name → createdName? s' = some name → s = s'

theorem createdName?_opening {opening : String} (h : opening ∈ openings) {name rest : String}
    (hname : ∀ ch ∈ name.toList, isIdentifierRest ch = true) (hrest : Ends rest.toList) :
    createdName? (opening ++ (name ++ rest)) = some name := by
  have hread : (name.toList ++ rest.toList).takeWhile isIdentifierRest = name.toList := by
    rw [Text.takeWhile_append_of_ends hrest, ← List.append_nil name.toList, List.takeWhile_append_of_pos hname,
      List.takeWhile_nil]
  simp only [openings, List.mem_cons, List.not_mem_nil, or_false] at h
  rcases h with rfl | rfl | rfl | rfl <;>
    simp [createdName?, openings, Text.word?, Text.dropSome, hread]

theorem opening_inj {opening opening' : String} (h : opening ∈ openings) (h' : opening' ∈ openings) {s s' : String}
    (heq : opening ++ s = opening' ++ s') : opening = opening' ∧ s = s' := by
  have hsame : opening = opening' := by
    simp only [openings, List.mem_cons, List.not_mem_nil, or_false] at h h'
    have hchars := congrArg String.toList heq
    simp only [String.toList_append] at hchars
    rcases h with rfl | rfl | rfl | rfl <;> rcases h' with rfl | rfl | rfl | rfl <;>
      first | rfl | simp at hchars
  subst hsame
  exact ⟨rfl, (String.append_right_inj _).1 heq⟩

/-! ## What a descriptor has created -/

/-- A property that is made unique, or an index. -/
inductive Creation where
  | unique (property : String)
  | index (i : Index)

namespace Creation

def name (label : String) : Creation → String
  | unique property => lowered label ++ "_" ++ property ++ "_unique"
  | index i => i.name

def statement (label : String) : Creation → String
  | unique property => constraintStatement label property
  | index i => i.statement label

def opening : Creation → String
  | unique _ => "CREATE CONSTRAINT "
  | index i =>
    match i.kind with
    | .range => "CREATE INDEX "
    | .fulltext => "CREATE FULLTEXT INDEX "
    | .vector => "CREATE VECTOR INDEX "

/-- What an index is on, between its brackets. -/
def covered (properties : List String) : String := ", ".intercalate (properties.map ("n." ++ ·))

/-- The statement behind the label. -/
def target : Creation → String
  | unique property => ") REQUIRE n." ++ (property ++ " IS UNIQUE")
  | index i =>
    match i.kind with
    | .range => ") ON (" ++ (covered i.properties ++ ")")
    | .fulltext => ") ON EACH [" ++ (covered i.properties ++ "]")
    | .vector =>
      ") ON (" ++ (covered i.properties ++ (") OPTIONS \x7bindexConfig: \x7b\x60vector.dimensions\x60: " ++
        (Nat.repr (i.dimensions.getD 0) ++ (", \x60vector.similarity_function\x60: '" ++
          (i.similarity.getD "cosine" ++ "'\x7d\x7d")))))

/-- Two creations are of the same kind, on the same properties, and vectors are compared in the same way. -/
def Alike : Creation → Creation → Prop
  | unique property, unique property' => property = property'
  | index i, index j =>
    i.kind = j.kind ∧ i.properties = j.properties ∧
      (i.kind = .vector → i.dimensions = j.dimensions ∧ i.similarity.getD "cosine" = j.similarity.getD "cosine")
  | _, _ => False

/-- What valid descriptors have created: names and properties are identifiers, vectors have dimensions. -/
def Sound : Creation → Prop
  | unique property => isIdentifier property = true
  | index i =>
    isIdentifier i.name = true ∧ i.properties ≠ [] ∧ (∀ p ∈ i.properties, isIdentifier p = true) ∧
      (i.kind = .vector → i.dimensions.isSome = true)

theorem opening_mem (x : Creation) : x.opening ∈ openings := by
  cases x with
  | unique property => simp [opening, openings]
  | index i => cases hkind : i.kind <;> simp [opening, openings, hkind]

theorem statement_eq (label : String) (x : Creation) :
    x.statement label = x.opening ++ (x.name label ++ (" IF NOT EXISTS FOR (n:" ++ (label ++ x.target))) := by
  cases x with
  | unique property =>
    have hsuffix : "_unique" ++ " IF NOT EXISTS FOR (n:" = "_unique IF NOT EXISTS FOR (n:" := by decide
    simp only [statement, opening, name, target]
    -- Only `unfold` opens the statement: its equation is checked by running both sides, which takes too long.
    unfold constraintStatement
    simp only [← hsuffix, String.append_assoc]
  | index i =>
    obtain ⟨name, kind, properties, dimensions, similarity⟩ := i
    cases kind <;> simp only [statement, Index.statement, opening, Creation.name, target, covered, String.append_assoc]

/-- Behind the label no identifier goes on. -/
theorem ends_target (x : Creation) : Ends x.target.toList := by
  cases x with
  | unique property =>
    have hbetween : Separates ") REQUIRE n." := by decide
    exact hbetween.ends_append _
  | index i =>
    obtain ⟨name, kind, properties, dimensions, similarity⟩ := i
    have hlist : Separates ") ON (" := by decide
    have heach : Separates ") ON EACH [" := by decide
    cases kind with
    | range => exact hlist.ends_append _
    | fulltext => exact heach.ends_append _
    | vector => exact hlist.ends_append _

theorem rest_of_name {label : String} (hlabel : isIdentifier label = true) {x : Creation} (h : x.Sound) :
    ∀ ch ∈ (x.name label).toList, isIdentifierRest ch = true := by
  cases x with
  | unique property =>
    have hbetween : ∀ ch ∈ "_".toList, isIdentifierRest ch = true := List.all_eq_true.1 (by decide)
    have hsuffix : ∀ ch ∈ "_unique".toList, isIdentifierRest ch = true := List.all_eq_true.1 (by decide)
    simp only [name, lowered, String.toList_append, String.toList_ofList, List.mem_append, List.mem_map]
    rintro ch (((⟨capital, hcapital, rfl⟩ | hch) | hch) | hch)
    · exact Text.isIdentifierRest_toLower (Text.isIdentifierRest_of_mem hlabel capital hcapital)
    · exact hbetween ch hch
    · exact Text.isIdentifierRest_of_mem h ch hch
    · exact hsuffix ch hch
  | index i => exact Text.isIdentifierRest_of_mem h.1

/-! ### Targets tell what they are on -/

/-- The properties behind the first one of a list. -/
def continued : List String → String
  | [] => ""
  | p :: rest => ", n." ++ (p ++ continued rest)

theorem covered_cons (p : String) (rest : List String) : covered (p :: rest) = "n." ++ (p ++ continued rest) := by
  induction rest generalizing p with
  | nil => simp [covered, continued]
  | cons q rest ih =>
    have hcomma : ", " ++ "n." = ", n." := by decide
    have hrest : ", ".intercalate (("n." ++ q) :: rest.map ("n." ++ ·)) = "n." ++ (q ++ continued rest) := ih q
    rw [covered, List.map_cons, List.map_cons, String.intercalate_cons_cons, hrest, continued, ← hcomma]
    simp only [String.append_assoc]

/-- A text that goes on neither an identifier nor a list. -/
def Closes (s : String) : Prop := Ends s.toList ∧ s.toList.head? ≠ some ','

instance (s : String) : Decidable (Closes s) := inferInstanceAs (Decidable (_ ∧ _))

theorem Closes.append {s : String} (h : Closes s) (hne : s.toList ≠ []) (t : String) : Closes (s ++ t) := by
  rw [Closes, String.toList_append]
  refine ⟨Text.ends_append_of_ne_nil hne h.1 _, ?_⟩
  rw [List.head?_append, Option.or_of_isSome (List.isSome_head?.2 hne)]
  exact h.2

theorem ends_continued (ps : List String) {x : String} (h : Closes x) : Ends (continued ps ++ x).toList := by
  have hcomma : Separates ", n." := by decide
  cases ps with
  | nil => exact h.1
  | cons p rest =>
    rw [continued, String.append_assoc]
    exact hcomma.ends_append _

theorem continued_inj {ps qs : List String} (hps : ∀ p ∈ ps, isIdentifier p = true)
    (hqs : ∀ q ∈ qs, isIdentifier q = true) {x y : String} (hx : Closes x) (hy : Closes y)
    (h : continued ps ++ x = continued qs ++ y) : ps = qs ∧ x = y := by
  have hcomma (t : String) : (", n." ++ t).toList.head? = some ',' := by simp
  -- If one list ends first, what closes it is the comma of the other one.
  induction ps generalizing qs with
  | nil =>
    cases qs with
    | nil => exact ⟨rfl, (String.append_right_inj _).1 h⟩
    | cons q rest =>
      rw [continued, continued, String.append_assoc, String.empty_append] at h
      exact absurd (h ▸ hcomma _) hx.2
  | cons p rest ih =>
    cases qs with
    | nil =>
      rw [continued, continued, String.append_assoc, String.empty_append] at h
      exact absurd (h ▸ hcomma _) hy.2
    | cons q rest' =>
      rw [List.forall_mem_cons] at hps hqs
      simp only [continued, String.append_assoc] at h
      obtain ⟨rfl, hrest⟩ := Text.append_inj_of_stop (Text.isIdentifierRest_of_mem hps.1)
        (Text.isIdentifierRest_of_mem hqs.1) (ends_continued rest hx) (ends_continued rest' hy)
        ((String.append_right_inj _).1 h)
      obtain ⟨rfl, hxy⟩ := ih hps.2 hqs.2 hrest
      exact ⟨rfl, hxy⟩

theorem covered_inj {ps qs : List String} (hne : ps ≠ []) (hne' : qs ≠ []) (hps : ∀ p ∈ ps, isIdentifier p = true)
    (hqs : ∀ q ∈ qs, isIdentifier q = true) {x y : String} (hx : Closes x) (hy : Closes y)
    (h : covered ps ++ x = covered qs ++ y) : ps = qs ∧ x = y := by
  obtain ⟨p, rest, rfl⟩ := List.exists_cons_of_ne_nil hne
  obtain ⟨q, rest', rfl⟩ := List.exists_cons_of_ne_nil hne'
  simp only [covered_cons, String.append_assoc, String.append_right_inj] at h
  exact continued_inj hps hqs hx hy (by simp only [continued, String.append_assoc, h])

theorem settings_inj {m n : Nat} {s t : String}
    (h : Nat.repr m ++ (", \x60vector.similarity_function\x60: '" ++ (s ++ "'\x7d\x7d")) =
      Nat.repr n ++ (", \x60vector.similarity_function\x60: '" ++ (t ++ "'\x7d\x7d"))) : m = n ∧ s = t := by
  have hdigits (n : Nat) : ∀ ch ∈ (Nat.repr n).toList, ch.isDigit = true := by
    rw [Nat.toList_repr]
    exact fun ch => Text.isDigit_of_mem_toDigits
  have hcomma (t : String) :
      ∀ ch ∈ (", \x60vector.similarity_function\x60: '" ++ t).toList.head?, ch.isDigit = false := by
    simp
  obtain ⟨hnumber, htext⟩ := Text.append_inj_of_stop (hdigits m) (hdigits n) (hcomma _) (hcomma _) h
  exact ⟨Text.eq_of_repr_eq hnumber, (String.append_left_inj _).1 ((String.append_right_inj _).1 htext)⟩

theorem kind_of_opening {i j : Index} (h : (index i).opening = (index j).opening) : i.kind = j.kind := by
  cases hi : i.kind <;> cases hj : j.kind <;> simp [opening, hi, hj] at h ⊢

theorem opening_unique_ne (property : String) (i : Index) : (unique property).opening ≠ (index i).opening := by
  cases hi : i.kind <;> simp [opening, hi]

/-- Statements that begin in the same way and have the same target create the same. -/
theorem alike_of_target {x y : Creation} (hx : x.Sound) (hy : y.Sound) (hopening : x.opening = y.opening)
    (h : x.target = y.target) : x.Alike y := by
  cases x with
  | unique property =>
    cases y with
    | unique property' => exact (String.append_left_inj _).1 ((String.append_right_inj _).1 h)
    | index j => exact absurd hopening (opening_unique_ne property j)
  | index i =>
    cases y with
    | unique property => exact absurd hopening.symm (opening_unique_ne property i)
    | index j =>
      have hkind := kind_of_opening hopening
      obtain ⟨-, hne, hps, hdimensions⟩ := hx
      obtain ⟨-, hne', hqs, hdimensions'⟩ := hy
      cases hi : i.kind with
      | range =>
        have hclose : Closes ")" := by decide
        simp only [target, hi, ← hkind, String.append_right_inj] at h
        exact ⟨hkind, (covered_inj hne hne' hps hqs hclose hclose h).1, fun hvector => by simp [hi] at hvector⟩
      | fulltext =>
        have hclose : Closes "]" := by decide
        simp only [target, hi, ← hkind, String.append_right_inj] at h
        exact ⟨hkind, (covered_inj hne hne' hps hqs hclose hclose h).1, fun hvector => by simp [hi] at hvector⟩
      | vector =>
        have hoptions : Closes ") OPTIONS \x7bindexConfig: \x7b\x60vector.dimensions\x60: " := by decide
        have hclose (t : String) := hoptions.append (by simp) t
        simp only [target, hi, ← hkind, String.append_right_inj] at h
        obtain ⟨hproperties, hsettings⟩ := covered_inj hne hne' hps hqs (hclose _) (hclose _) h
        obtain ⟨hnumber, hsimilarity⟩ := settings_inj ((String.append_right_inj _).1 hsettings)
        obtain ⟨n, hn⟩ := Option.isSome_iff_exists.1 (hdimensions hi)
        obtain ⟨m, hm⟩ := Option.isSome_iff_exists.1 (hdimensions' (hkind ▸ hi))
        rw [hn, hm] at hnumber
        exact ⟨hkind, hproperties, fun _ => ⟨by rw [hn, hm]; exact congrArg some hnumber, hsimilarity⟩⟩

theorem target_of_alike {x y : Creation} (h : x.Alike y) : x.opening = y.opening ∧ x.target = y.target := by
  cases x with
  | unique property =>
    cases y with
    | unique property' =>
      cases h
      exact ⟨rfl, rfl⟩
    | index j => cases h
  | index i =>
    cases y with
    | unique property' => cases h
    | index j =>
      obtain ⟨hkind, hproperties, hvector⟩ := h
      cases hi : i.kind <;> simp_all [opening, target, ← hkind]

/-- The name by which the database knows what is created. -/
theorem createdName?_statement {label : String} (hlabel : isIdentifier label = true) {x : Creation} (h : x.Sound) :
    createdName? (x.statement label) = some (x.name label) := by
  have hbehind : Separates " IF NOT EXISTS FOR (n:" := by decide
  rw [statement_eq]
  exact createdName?_opening x.opening_mem (rest_of_name hlabel h) (hbehind.ends_append _)

/-- A statement tells what it creates for which label. -/
theorem statement_inj {label label' : String} (hlabel : isIdentifier label = true)
    (hlabel' : isIdentifier label' = true) {x y : Creation} (hx : x.Sound) (hy : y.Sound)
    (h : x.statement label = y.statement label') : label = label' ∧ x.Alike y := by
  have hbehind : Separates " IF NOT EXISTS FOR (n:" := by decide
  rw [statement_eq, statement_eq] at h
  obtain ⟨hopening, hrest⟩ := opening_inj x.opening_mem y.opening_mem h
  obtain ⟨-, hpattern⟩ := Text.append_inj_of_stop (rest_of_name hlabel hx) (rest_of_name hlabel' hy)
    (hbehind.ends_append _) (hbehind.ends_append _) hrest
  obtain ⟨hsame, htarget⟩ := Text.append_inj_of_stop (Text.isIdentifierRest_of_mem hlabel)
    (Text.isIdentifierRest_of_mem hlabel') x.ends_target y.ends_target ((String.append_right_inj _).1 hpattern)
  exact ⟨hsame, alike_of_target hx hy hopening htarget⟩

/-- What is alike and has the same name and label is created by the same statement. -/
theorem statement_of_alike {label : String} {x y : Creation} (hname : x.name label = y.name label) (h : x.Alike y) :
    x.statement label = y.statement label := by
  obtain ⟨hopening, htarget⟩ := target_of_alike h
  rw [statement_eq, statement_eq, hopening, hname, htarget]

instance : (x y : Creation) → Decidable (x.Alike y)
  | unique property, unique property' => inferInstanceAs (Decidable (property = property'))
  | index _, index _ => inferInstanceAs (Decidable (_ ∧ _ ∧ (_ → _)))
  | unique _, index _ => .isFalse id
  | index _, unique _ => .isFalse id

end Creation

/-! ## What a registry has created -/

def Descriptor.creations (d : Descriptor) : List Creation := d.constraints.map .unique ++ d.indexes.map .index

theorem Descriptor.ddl_eq (d : Descriptor) : d.ddl = d.creations.map (Creation.statement d.label) := by
  rw [ddl, creations, List.map_append, List.map_map, List.map_map]
  rfl

theorem Descriptor.sound_creations {d : Descriptor} (h : d.validate = .ok ()) : ∀ x ∈ d.creations, x.Sound := by
  have hspelled := spelled_of_validate h
  obtain ⟨hconstraints, hindexes⟩ := sound_of_validate h
  intro x hx
  rcases List.mem_append.1 hx with hx | hx
  · obtain ⟨property, hproperty, rfl⟩ := List.mem_map.1 hx
    exact hspelled.property property (hconstraints property hproperty)
  · obtain ⟨i, hi, rfl⟩ := List.mem_map.1 hx
    have hsound := hindexes i hi
    exact ⟨hsound.name, hsound.covers, fun p hp => hspelled.property p (hsound.known p hp), hsound.dimensions⟩

/-- What descriptors have created under one name has one label and is alike. -/
def NamesApart (ds : List Descriptor) : Prop :=
  ∀ d ∈ ds, ∀ x ∈ d.creations, ∀ d' ∈ ds, ∀ y ∈ d'.creations,
    x.name d.label = y.name d'.label → d.label = d'.label ∧ x.Alike y

instance (ds : List Descriptor) : Decidable (NamesApart ds) :=
  inferInstanceAs (Decidable (∀ d ∈ ds, ∀ x ∈ d.creations, ∀ d' ∈ ds, ∀ y ∈ d'.creations, _ → _))

namespace Registry

theorem mem_ddl_iff {ds : List Descriptor} {r : Registry} (h : ofList ds = .ok r) {s : String} :
    s ∈ r.ddl ↔ ∃ d ∈ ds, ∃ x ∈ d.creations, s = x.statement d.label := by
  simp only [mem_ddl h, Descriptor.ddl_eq, List.mem_map, eq_comm]

theorem unshadowed_iff {ds : List Descriptor} {r : Registry} (h : ofList ds = .ok r) :
    Unshadowed r.ddl ↔ NamesApart ds := by
  have hlabel : ∀ d ∈ ds, isIdentifier d.label = true := fun d hd =>
    (Descriptor.spelled_of_validate (validate_of_ofList h d hd)).label
  have hsound : ∀ d ∈ ds, ∀ x ∈ d.creations, x.Sound := fun d hd =>
    Descriptor.sound_creations (validate_of_ofList h d hd)
  constructor
  · intro hunshadowed d hd x hx d' hd' y hy hname
    refine Creation.statement_inj (hlabel d hd) (hlabel d' hd') (hsound d hd x hx) (hsound d' hd' y hy) ?_
    refine hunshadowed _ ((mem_ddl_iff h).2 ⟨d, hd, x, hx, rfl⟩) _ ((mem_ddl_iff h).2 ⟨d', hd', y, hy, rfl⟩) _
      (Creation.createdName?_statement (hlabel d hd) (hsound d hd x hx)) ?_
    rw [Creation.createdName?_statement (hlabel d' hd') (hsound d' hd' y hy), hname]
  · intro hapart s hs s' hs' name hname hname'
    obtain ⟨d, hd, x, hx, rfl⟩ := (mem_ddl_iff h).1 hs
    obtain ⟨d', hd', y, hy, rfl⟩ := (mem_ddl_iff h).1 hs'
    rw [Creation.createdName?_statement (hlabel d hd) (hsound d hd x hx)] at hname
    rw [Creation.createdName?_statement (hlabel d' hd') (hsound d' hd' y hy)] at hname'
    have hsame := Option.some.inj (hname.trans hname'.symm)
    obtain ⟨heq, halike⟩ := hapart d hd x hx d' hd' y hy hsame
    rw [heq] at hsame ⊢
    exact Creation.statement_of_alike hsame halike

/-- The constraints of one label are named apart by their properties. -/
theorem unshadowed_constraints {d : Descriptor} (h : d.validate = .ok ()) :
    Unshadowed (d.constraints.map (constraintStatement d.label)) := by
  have hlabel := (Descriptor.spelled_of_validate h).label
  have hcreates : ∀ s ∈ d.constraints.map (constraintStatement d.label), ∃ property,
      s = (Creation.unique property).statement d.label ∧
      createdName? s = some (lowered d.label ++ "_" ++ property ++ "_unique") := by
    intro s hs
    obtain ⟨property, hproperty, heq⟩ := List.mem_map.1 hs
    -- Again an equation and not `rfl`, which would run the statement.
    have hstatement : s = (Creation.unique property).statement d.label := by rw [Creation.statement, heq]
    refine ⟨property, hstatement, ?_⟩
    rw [hstatement]
    exact Creation.createdName?_statement hlabel
      (Descriptor.sound_creations h (.unique property) (List.mem_append_left _ (List.mem_map_of_mem hproperty)))
  intro s hs s' hs' name hname hname'
  obtain ⟨property, rfl, hcreated⟩ := hcreates s hs
  obtain ⟨property', rfl, hcreated'⟩ := hcreates s' hs'
  have hsame := Option.some.inj (hcreated.symm.trans (hname.trans (hname'.symm.trans hcreated')))
  rw [(String.append_right_inj _).1 ((String.append_left_inj _).1 hsame)]

/-- The statements of a registry create what its descriptors declare, each under its own name, and none of them is
skipped for a different one exactly if the descriptors use each name for one thing only. Among the constraints of one
descriptor that is always so. -/
theorem ddl_unshadowed_iff_names_apart {ds : List Descriptor} {r : Registry} (h : ofList ds = .ok r) :
    (∀ s, s ∈ r.ddl ↔ ∃ d ∈ ds, ∃ x ∈ d.creations, s = x.statement d.label) ∧
      (∀ d ∈ ds, ∀ x ∈ d.creations, createdName? (x.statement d.label) = some (x.name d.label)) ∧
      (Unshadowed r.ddl ↔ NamesApart ds) ∧
      ∀ d ∈ ds, Unshadowed (d.constraints.map (constraintStatement d.label)) := by
  refine ⟨fun s => mem_ddl_iff h, fun d hd x hx => ?_, unshadowed_iff h, fun d hd => ?_⟩
  · have hvalid := validate_of_ofList h d hd
    exact Creation.createdName?_statement (Descriptor.spelled_of_validate hvalid).label
      (Descriptor.sound_creations hvalid x hx)
  · exact unshadowed_constraints (validate_of_ofList h d hd)

/-- Tags and articles, which have an index of their titles. -/
def shelf : List Descriptor :=
  [.base "Tag" "tag",
    ((Descriptor.base "Article" "article").withField "title" ⟨.string, none⟩).withFulltext "article_titles" ["title"]]

theorem ddl_unshadowed_of_shelf : ∃ r, ofList shelf = .ok r ∧ Unshadowed r.ddl :=
  ⟨_, rfl, (@ddl_unshadowed_iff_names_apart shelf _ rfl).2.2.1.2 (by decide)⟩

/-- Labels that differ in case only have the same constraint names, so one of them goes without its constraint. -/
theorem not_forall_unshadowed : ¬∀ ds r, ofList ds = .ok r → Unshadowed r.ddl := by
  intro h
  have hall := h [.base "Tag" "tag", .base "TAG" "t"] _ rfl
  have hsame := hall (constraintStatement "Tag" "id") (by decide) (constraintStatement "TAG" "id") (by decide)
    "tag_id_unique" (by decide) (by decide)
  exact absurd hsame (by decide)

end Registry
end EntityGraph.Schema
