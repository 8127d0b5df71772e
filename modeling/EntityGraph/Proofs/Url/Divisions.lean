import EntityGraph.Proofs.Text.Identifier
import EntityGraph.Proofs.Url.Marks
import EntityGraph.Url.Parser
import Mathlib.Data.List.TakeWhile

/-!
# URLs divided at their marks

The query of a URL stands behind the first question mark of its text, and the fragment behind the first hash sign, for
whatever a URL was read from: each of its parts was read up to a mark or is written without one.
-/
namespace EntityGraph.Url

/-! ## Parts of a text -/

/-- What stands in front of the query and the fragment. -/
def frontIn (text : String) : String := String.ofList (text.toList.takeWhile (fun c => !isDivider c))

/-- What stands between the first question mark and the first hash sign. -/
def queryIn (text : String) : Option String :=
  ((text.toList.takeWhile (· ≠ '#')).dropWhile (· ≠ '?')).tail?.map String.ofList

/-- What stands behind the first hash sign. -/
def fragmentIn (text : String) : Option String := (text.toList.dropWhile (· ≠ '#')).tail?.map String.ofList

/-- The text of a URL up to its query. -/
def front (u : Url) : String := u.scheme ++ ":" ++ u.authority ++ pathText u.host.isSome u.path

/-- Whether a path has no mark. -/
def Path.Undivided : Path → Prop
  | .plain text => Url.Undivided text.toList
  | .segments items => ∀ item ∈ items, Url.Undivided item.toList

/-- Whether the marks in the text of a URL are those in front of its query and its fragment. -/
structure IsDivided (u : Url) : Prop where
  scheme : Undivided u.scheme.toList
  username : Undivided u.username.toList
  password : Undivided u.password.toList
  host : ∀ host, u.host = some host → Undivided host.toList
  path : u.path.Undivided
  /-- A question mark in a query is nothing special. -/
  query : ∀ q, u.query = some q → '#' ∉ q.toList

/-- A part behind its mark. -/
def marked (mark : Char) (part : Option String) : List Char := (part.map (fun s => mark :: s.toList)).getD []

theorem text_toList (u : Url) : u.text.toList = u.front.toList ++ marked '?' u.query ++ marked '#' u.fragment := by
  have hpart (mark : String) (part : Option String) :
      ((part.map (mark ++ ·)).getD "").toList = (part.map (fun s => mark.toList ++ s.toList)).getD [] := by
    cases part <;> simp
  rw [text, String.toList_append, String.toList_append, hpart, hpart]
  rfl

theorem takeWhile_marked (mark : Char) (part : Option String) : (marked mark part).takeWhile (· ≠ mark) = [] := by
  cases part <;> simp [marked]

theorem dropWhile_marked (mark : Char) (part : Option String) :
    (marked mark part).dropWhile (· ≠ mark) = marked mark part := by
  cases part <;> simp [marked]

theorem tail?_marked (mark : Char) (part : Option String) : (marked mark part).tail?.map String.ofList = part := by
  cases part <;> simp [marked]

theorem undivided_segmentsText {items : List String} (h : ∀ item ∈ items, Undivided item.toList) :
    Undivided (segmentsText items).toList := by
  rw [segmentsText, String.toList_join, List.flatMap_map]
  intro c hc
  obtain ⟨item, hitem, hc⟩ := List.mem_flatMap.1 hc
  rw [String.toList_append] at hc
  exact undivided_append.2 ⟨by decide, h item hitem⟩ c hc

namespace IsDivided

variable {u : Url}

theorem authority (h : u.IsDivided) : Undivided u.authority.toList := by
  unfold Url.authority
  cases hhost : u.host with
  | none => exact undivided_nil
  | some host =>
    have hcredentials : Undivided u.credentials.toList := by
      unfold credentials
      split
      · exact undivided_nil
      · split
        · simpa [undivided_append] using ⟨h.username, by decide⟩
        · simpa [undivided_append, undivided_cons] using ⟨h.username, by decide, h.password, by decide⟩
    have hport : Undivided ((u.port.map (fun n => ":" ++ Nat.repr n)).getD "").toList := by
      cases u.port with
      | none => exact undivided_nil
      | some n =>
        rw [Option.map_some, Option.getD_some, String.toList_append]
        exact undivided_append.2 ⟨by decide, undivided_repr n⟩
    simp only [String.toList_append, undivided_append]
    exact ⟨⟨⟨by decide, hcredentials⟩, h.host host hhost⟩, hport⟩

theorem front (h : u.IsDivided) : Undivided u.front.toList := by
  have hpath : Undivided (pathText u.host.isSome u.path).toList := by
    have hwritten := h.path
    cases hpath : u.path with
    | plain text =>
      rw [hpath] at hwritten
      exact hwritten
    | segments items =>
      rw [hpath] at hwritten
      have htext := undivided_segmentsText hwritten
      unfold pathText
      dsimp only
      split
      · rw [String.toList_append]
        exact undivided_append.2 ⟨by decide, htext⟩
      · exact htext
  simp only [Url.front, String.toList_append, undivided_append]
  exact ⟨⟨⟨h.scheme, by decide⟩, h.authority⟩, hpath⟩

theorem ne_hash (h : u.IsDivided) : ∀ c ∈ u.front.toList ++ marked '?' u.query, (decide (c ≠ '#')) = true := by
  intro c hc
  refine decide_eq_true ?_
  rcases List.mem_append.1 hc with hc | hc
  · exact ne_of_isDivider (h.front c hc) rfl
  · cases hq : u.query with
    | none => simp [marked, hq] at hc
    | some q =>
      rw [marked, hq] at hc
      rcases List.mem_cons.1 hc with rfl | hc
      · decide
      · rintro rfl
        exact h.query q hq hc

theorem frontIn_text (h : u.IsDivided) : frontIn u.text = u.front := by
  have hfront : ∀ c ∈ u.front.toList, (!isDivider c) = true := fun c hc => by rw [h.front c hc]; rfl
  have hbehind : (marked '?' u.query ++ marked '#' u.fragment).takeWhile (fun c => !isDivider c) = [] := by
    cases u.query <;> cases u.fragment <;> simp [marked, isDivider]
  rw [frontIn, text_toList, List.append_assoc, List.takeWhile_append_of_pos hfront, hbehind, List.append_nil,
    String.ofList_toList]

theorem queryIn_text (h : u.IsDivided) : queryIn u.text = u.query := by
  have hfront : ∀ c ∈ u.front.toList, (decide (c ≠ '?')) = true := fun c hc =>
    decide_eq_true (ne_of_isDivider (h.front c hc) rfl)
  rw [queryIn, text_toList, List.takeWhile_append_of_pos h.ne_hash, takeWhile_marked, List.append_nil,
    List.dropWhile_append_of_pos hfront, dropWhile_marked, tail?_marked]

theorem fragmentIn_text (h : u.IsDivided) : fragmentIn u.text = u.fragment := by
  rw [fragmentIn, text_toList, List.dropWhile_append_of_pos h.ne_hash, dropWhile_marked, tail?_marked]

/-- Another query may take the place of a query. -/
theorem withQuery (h : u.IsDivided) {q : String} (hq : '#' ∉ q.toList) : IsDivided { u with query := some q } :=
  { h with query := fun q' hq' => by rwa [← Option.some_inj.1 hq'] }

end IsDivided

/-! ## Parts that are read -/

theorem isDivider_of_isAlpha {c : Char} (h : c.isAlpha = true) : isDivider c = false :=
  isDivider_of_kind Char.isAlpha rfl rfl h

theorem isDivider_toLower {c : Char} (h : isSchemeChar c = true) : isDivider c.toLower = false := by
  simp only [isSchemeChar, Bool.or_eq_true, beq_iff_eq] at h
  rcases h with ((h | rfl) | rfl) | rfl
  · have hrest : Text.isIdentifierRest c = true := by rw [Text.isIdentifierRest, h, Bool.true_or]
    exact isDivider_of_kind Text.isIdentifierRest rfl rfl (Text.isIdentifierRest_toLower hrest)
  all_goals decide

theorem undivided_scheme? {cs rest : List Char} {scheme : String} (h : scheme? cs = some (scheme, rest)) :
    Undivided scheme.toList := by
  unfold scheme? at h
  dsimp only at h
  split at h
  · split at h
    · rename_i hscheme
      cases h
      rw [Bool.and_eq_true, List.all_eq_true] at hscheme
      rw [String.toList_ofList]
      intro c hc
      obtain ⟨d, hd, rfl⟩ := List.mem_map.1 hc
      exact isDivider_toLower (hscheme.2 d hd)
    · cases h
  · cases h

theorem undivided_splitTail (kind : SchemeKind) (cs : List Char) : Undivided (splitTail kind cs).path := by
  intro c hc
  have hquery := List.mem_takeWhile_imp hc
  have hhash := List.mem_takeWhile_imp ((List.takeWhile_subset _) hc)
  simpa [isDivider] using And.intro hquery hhash

theorem hash_not_mem_splitTail {kind : SchemeKind} {cs : List Char} {q : String}
    (h : (splitTail kind cs).query = some q) : '#' ∉ q.toList := by
  obtain ⟨query, -, rfl⟩ := Option.map_eq_some_iff.1 h
  rw [String.toList_ofList]
  intro hmem
  rcases mem_percentEncode hmem with ⟨-, hset⟩ | hdivider
  · split at hset <;> cases hset
  · cases hdivider

/-! ## Paths -/

theorem dropSegment_subset (items : List (List Char)) : dropSegment items ⊆ items := by
  unfold dropSegment
  split
  · exact List.Subset.refl items
  · exact List.dropLast_subset items

namespace Trail

/-- Whether no segment has a mark. -/
def Undivided (t : Trail) : Prop := ∀ item ∈ t.items, Url.Undivided item

variable {t : Trail}

theorem Undivided.close (h : t.Undivided) (isLast : Bool) : (t.close isLast).Undivided := by
  unfold Trail.close
  split
  · exact List.forall_mem_append.2 ⟨h, List.forall_mem_singleton.2 undivided_nil⟩
  · exact h

theorem undivided_splitDrive? {segment drive rest : List Char} (h : splitDrive? segment = some (drive, rest)) :
    Url.Undivided drive := by
  unfold splitDrive? at h
  dsimp only at h
  split at h
  · split at h
    · rename_i hletter
      cases h
      rw [Bool.and_eq_true, Bool.and_eq_true] at hletter
      exact undivided_cons.2 ⟨isDivider_of_isAlpha hletter.1.1, by decide⟩
    · cases h
  · cases h

theorem undivided_drive {text : List Char} (h : isDrive text = true) : Url.Undivided (text.take 1 ++ [':']) := by
  unfold isDrive at h
  split at h
  · rw [namesDrive, Bool.and_eq_true] at h
    exact undivided_append.2 ⟨List.forall_mem_singleton.2 (isDivider_of_isAlpha h.1), by decide⟩
  · cases h

/-- A segment is taken in with its marks encoded. -/
theorem Undivided.add (h : t.Undivided) (kind : SchemeKind) (segment : List Char) (isLast : Bool) :
    (t.add kind segment isLast).Undivided := by
  unfold Trail.add
  dsimp only
  split
  · rename_i drive rest hdrive
    split at hdrive
    · exact List.forall_mem_cons.2
        ⟨undivided_splitDrive? hdrive, List.forall_mem_singleton.2 (undivided_percentEncode_set rfl rfl _)⟩
    · cases hdrive
  · split
    · exact Undivided.close (fun item hitem => h item (dropSegment_subset t.items hitem)) isLast
    · split
      · exact h.close isLast
      · split
        · rename_i hdrive
          exact List.forall_mem_singleton.2 (undivided_drive hdrive.2)
        · exact List.forall_mem_append.2 ⟨h, List.forall_mem_singleton.2 (undivided_percentEncode_set rfl rfl _)⟩

theorem Undivided.addAll (h : t.Undivided) (kind : SchemeKind) (segments : List (List Char)) :
    (t.addAll kind segments).Undivided := by
  induction segments generalizing t with
  | nil => exact h
  | cons segment rest ih =>
    cases rest with
    | nil => exact h.add kind segment true
    | cons next rest => exact ih (h.add kind segment false)

end Trail

theorem undivided_readTrail (kind : SchemeKind) (cs : List Char) : (readTrail kind cs).Undivided :=
  Trail.Undivided.addAll (t := .empty) (List.forall_mem_nil _) kind _

theorem undivided_segments {items : List (List Char)} (h : ∀ item ∈ items, Undivided item) :
    (Path.segments (items.map String.ofList)).Undivided := by
  intro item hitem
  obtain ⟨cs, hcs, rfl⟩ := List.mem_map.1 hitem
  rw [String.toList_ofList]
  exact h cs hcs

theorem undivided_authorityPath (kind : SchemeKind) (cs : List Char) : (authorityPath kind cs).Undivided := by
  refine undivided_segments ?_
  split
  · split
    · exact List.forall_mem_singleton.2 undivided_nil
    · exact List.forall_mem_nil _
  · split <;> exact undivided_readTrail kind _

/-! ## URLs that are read -/

theorem bind_eq_ok {α β : Type} {x : Except UrlError α} {f : α → Except UrlError β} {b : β} (h : (x >>= f) = .ok b) :
    ∃ a, x = .ok a ∧ f a = .ok b := by
  cases x with
  | error e => cases h
  | ok a => exact ⟨a, rfl, h⟩

theorem isDivided_readAuthority {scheme : String} {kind : SchemeKind} {cs : List Char} {u : Url}
    (hscheme : Undivided scheme.toList) (h : readAuthority scheme kind cs = .ok u) : u.IsDivided := by
  have hparts {host : String} {port : Option Nat} {name password tail : List Char} (hhost : Undivided host.toList) :
      IsDivided ⟨scheme, String.ofList (percentEncode inUserinfoSet name),
        String.ofList (percentEncode inUserinfoSet password), some host, port,
        authorityPath kind (splitTail kind tail).path, (splitTail kind tail).query, (splitTail kind tail).fragment⟩ :=
    { scheme := hscheme
      username := by
        rw [String.toList_ofList]
        exact undivided_percentEncode_set rfl rfl name
      password := by
        rw [String.toList_ofList]
        exact undivided_percentEncode_set rfl rfl password
      host := fun host' hhost' => by rwa [← Option.some_inj.1 hhost']
      path := undivided_authorityPath kind _
      query := fun q hq => hash_not_mem_splitTail hq }
  unfold readAuthority at h
  dsimp only at h
  split at h
  · cases h
  · split at h
    · cases h
    · split at h
      · obtain ⟨host, hhost, h⟩ := bind_eq_ok h
        obtain ⟨port, -, h⟩ := bind_eq_ok h
        split at h
        · cases h
        · cases h
          exact hparts (undivided_webHost hhost)
      · obtain ⟨host, hhost, h⟩ := bind_eq_ok h
        obtain ⟨port, -, h⟩ := bind_eq_ok h
        split at h
        · cases h
        · cases h
          exact hparts (undivided_plainHost hhost)

theorem undivided_dropEmpty {items : List (List Char)} (h : ∀ item ∈ items, Undivided item) :
    ∀ item ∈ dropEmpty items, Undivided item := by
  unfold dropEmpty
  dsimp only
  split
  · exact List.forall_mem_singleton.2 undivided_nil
  · exact fun item hitem => h item (List.dropWhile_subset _ hitem)

theorem undivided_empty : Undivided "".toList := undivided_nil

theorem isDivided_fileUrl {host : String} (hhost : Undivided host.toList) (rest : List Char) :
    (fileUrl host rest).IsDivided where
  scheme := show Undivided "file".toList by decide
  username := undivided_empty
  password := undivided_empty
  host host' hhost' := by
    rw [← Option.some_inj.1 hhost']
    split
    · exact undivided_empty
    · exact hhost
  path := undivided_segments (undivided_dropEmpty (undivided_readTrail _ _))
  query q hq := hash_not_mem_splitTail hq

theorem isDivided_readFile {cs : List Char} {u : Url} (h : readFile cs = .ok u) : u.IsDivided := by
  unfold readFile at h
  split at h
  · cases h
    exact isDivided_fileUrl undivided_empty _
  · split at h
    · cases h
      exact isDivided_fileUrl undivided_empty _
    · dsimp only at h
      split at h
      · cases h
        exact isDivided_fileUrl undivided_empty _
      · split at h
        · cases h
          exact isDivided_fileUrl undivided_empty _
        · obtain ⟨host, hhost, h⟩ := bind_eq_ok h
          split at h
          · cases h
            exact isDivided_fileUrl undivided_empty _
          · cases h
            exact isDivided_fileUrl (undivided_webHost hhost) _

/-- Whatever text a URL is read from, its own text divides into its parts. -/
theorem isDivided_of_parse {given : String} {u : Url} (h : parse given = .ok u) : u.IsDivided := by
  unfold parse at h
  split at h
  · cases h
  · rename_i scheme rest hread
    have hscheme := undivided_scheme? hread
    dsimp only at h
    split at h
    · exact isDivided_readAuthority hscheme h
    · exact isDivided_readFile h
    · split at h
      · exact isDivided_readAuthority hscheme h
      · cases h
        exact
          { scheme := hscheme
            username := undivided_empty
            password := undivided_empty
            host := fun host hhost => nomatch hhost
            path := by
              dsimp only
              split
              · exact undivided_segments (undivided_readTrail _ _)
              · rw [Path.Undivided, String.toList_ofList]
                exact undivided_percentEncode fun c hc _ => undivided_splitTail _ _ c hc
            query := fun q hq => hash_not_mem_splitTail hq }

end EntityGraph.Url
