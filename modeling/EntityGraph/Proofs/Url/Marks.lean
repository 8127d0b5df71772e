import EntityGraph.Proofs.Json.Decode
import EntityGraph.Proofs.Url.Form
import EntityGraph.Url.Host

/-!
# Marks in the parts of a URL

A question mark ends what stands in front of the query of a URL, and a hash sign what stands in front of its fragment.
Percent-encoding takes them out of a text. No host has one: addresses are digits, dots and colons, and no label of a
domain is spelled with one, as it is or in Punycode.
-/
namespace EntityGraph.Url

/-- Whether a character begins the query or the fragment. -/
def isDivider (c : Char) : Bool := c == '?' || c == '#'

/-- Whether a text has no place where the query or the fragment begins. -/
def Undivided (cs : List Char) : Prop := ∀ c ∈ cs, isDivider c = false

instance (cs : List Char) : Decidable (Undivided cs) := List.decidableBAll (fun c => isDivider c = false) cs

theorem undivided_nil : Undivided [] := List.forall_mem_nil _

theorem undivided_cons {c : Char} {cs : List Char} : Undivided (c :: cs) ↔ isDivider c = false ∧ Undivided cs :=
  List.forall_mem_cons

theorem undivided_append {xs ys : List Char} : Undivided (xs ++ ys) ↔ Undivided xs ∧ Undivided ys :=
  List.forall_mem_append

theorem undivided_intercalate {sep : List Char} {xss : List (List Char)} (hsep : Undivided sep)
    (h : ∀ xs ∈ xss, Undivided xs) : Undivided (sep.intercalate xss) := by
  intro c hc
  rcases Text.mem_of_mem_intercalate hc with hc | ⟨xs, hxs, hc⟩
  · exact hsep c hc
  · exact h xs hxs c hc

theorem ne_of_isDivider {c m : Char} (h : isDivider c = false) (hm : isDivider m = true) : c ≠ m := by
  rintro rfl
  rw [h] at hm
  cases hm

/-- A kind of characters that leaves out both marks. -/
theorem isDivider_of_kind (kind : Char → Bool) (hquery : kind '?' = false) (hfragment : kind '#' = false) {c : Char}
    (h : kind c = true) : isDivider c = false := by
  rw [isDivider, Bool.or_eq_false_iff, beq_eq_false_iff_ne, beq_eq_false_iff_ne]
  constructor <;> rintro rfl
  · rw [hquery] at h
    cases h
  · rw [hfragment] at h
    cases h

/-! ## Numbers -/

theorem isDivider_digitChar (n : Nat) : isDivider (Nat.digitChar n) = false := by
  by_cases h : n < 16
  · exact (by decide : ∀ n < 16, isDivider (Nat.digitChar n) = false) n h
  · have hstar : Nat.digitChar n = '*' := by
      rw [Nat.digitChar]
      repeat rw [if_neg (by omega)]
    rw [hstar]
    decide

theorem undivided_toDigitsCore (base fuel n : Nat) {acc : List Char} (h : Undivided acc) :
    Undivided (Nat.toDigitsCore base fuel n acc) := by
  induction fuel generalizing n acc with
  | zero => exact h
  | succ fuel ih =>
    have hnext : Undivided (Nat.digitChar (n % base) :: acc) := undivided_cons.2 ⟨isDivider_digitChar _, h⟩
    rw [Nat.toDigitsCore]
    split
    · exact hnext
    · exact ih _ hnext

theorem undivided_toDigits (base n : Nat) : Undivided (Nat.toDigits base n) :=
  undivided_toDigitsCore base _ n undivided_nil

theorem undivided_repr (n : Nat) : Undivided (Nat.repr n).toList := by
  rw [Nat.toList_repr]
  exact undivided_toDigits 10 n

/-! ## Percent-encoding -/

theorem isDivider_upperHex : ∀ n < 16, isDivider (upperHex n) = false := by decide

/-- Characters of the set are written with others, none of which begins a query or a fragment. -/
theorem mem_percentEncode {set : Char → Bool} {cs : List Char} {c : Char} (h : c ∈ percentEncode set cs) :
    c ∈ cs ∧ set c = false ∨ isDivider c = false := by
  obtain ⟨d, hd, hc⟩ := List.mem_flatMap.1 h
  unfold encodeCharIn at hc
  split at hc
  · obtain ⟨b, hb, hc⟩ := List.mem_flatMap.1 hc
    have hlt := Text.Utf8.lt_of_mem_encodeChar hb
    right
    rcases List.mem_cons.1 hc with rfl | hc
    · decide
    · rcases List.mem_cons.1 hc with rfl | hc
      · exact isDivider_upperHex _ (by omega)
      · rw [List.mem_singleton.1 hc]
        exact isDivider_upperHex _ (by omega)
  · rename_i hset
    rw [List.mem_singleton.1 hc]
    exact .inl ⟨hd, Bool.eq_false_iff.2 hset⟩

theorem undivided_percentEncode {set : Char → Bool} {cs : List Char}
    (h : ∀ c ∈ cs, set c = false → isDivider c = false) : Undivided (percentEncode set cs) := by
  intro c hc
  rcases mem_percentEncode hc with ⟨hmem, hset⟩ | hc
  · exact h c hmem hset
  · exact hc

/-- A set with both marks takes them out. -/
theorem undivided_percentEncode_set {set : Char → Bool} (hquery : set '?' = true) (hfragment : set '#' = true)
    (cs : List Char) : Undivided (percentEncode set cs) :=
  undivided_percentEncode fun c _ h =>
    isDivider_of_kind (fun c => !set c) (by rw [hquery]; rfl) (by rw [hfragment]; rfl) (by rw [h]; rfl)

/-! ## Addresses -/

namespace Address

theorem undivided_ipv4Text (value : Nat) : Undivided (ipv4Text value).toList := by
  rw [ipv4Text, String.toList_intercalate, List.map_map]
  refine undivided_intercalate (by decide) fun xs hxs => ?_
  obtain ⟨place, -, rfl⟩ := List.mem_map.1 hxs
  exact undivided_repr _

theorem undivided_piecesText (ns : List Nat) : Undivided (piecesText ns).toList := by
  rw [piecesText, String.toList_intercalate, List.map_map]
  refine undivided_intercalate (by decide) fun xs hxs => ?_
  obtain ⟨n, -, rfl⟩ := List.mem_map.1 hxs
  rw [Function.comp_apply, hexText, String.toList_ofList]
  exact undivided_toDigits 16 n

theorem undivided_ipv6Text (ns : List Nat) : Undivided (ipv6Text ns).toList := by
  unfold ipv6Text
  split
  · exact undivided_piecesText ns
  · rw [String.toList_append, String.toList_append]
    exact undivided_append.2 ⟨undivided_append.2 ⟨undivided_piecesText _, by decide⟩, undivided_piecesText _⟩

end Address

/-! ## Punycode -/

namespace Punycode

theorem isDivider_digit : ∀ n < 36, isDivider (digit n) = false := by decide

theorem undivided_digits (bias position q : Nat) : Undivided (digits bias position q) := by
  induction position, q using digits.induct bias with
  | case1 position q t h =>
    have ht : t ≤ 26 := Nat.min_le_left _ _
    rw [digits, if_pos h]
    exact undivided_cons.2 ⟨isDivider_digit q (by omega), undivided_nil⟩
  | case2 position q t h ih =>
    have ht : threshold position bias ≤ 26 := Nat.min_le_left _ _
    have hdigit := Nat.mod_lt (q - threshold position bias) (show 0 < 36 - threshold position bias by omega)
    rw [digits, if_neg h]
    exact undivided_cons.2 ⟨isDivider_digit _ (by omega), ih⟩

theorem Writing.undivided_pass {w : Writing} (h : Undivided w.text) (isFirst : Nat → Bool) (n c : Nat) :
    Undivided (w.pass isFirst n c).text := by
  unfold pass
  split
  · exact h
  · split
    · exact undivided_append.2 ⟨h, undivided_digits _ _ _⟩
    · exact h

theorem Writing.undivided_passes {w : Writing} (h : Undivided w.text) (isFirst : Nat → Bool) (n : Nat) (cs : List Nat) :
    Undivided (cs.foldl (pass isFirst n) w).text := by
  induction cs generalizing w with
  | nil => exact h
  | cons c cs ih => exact ih (undivided_pass h isFirst n c)

theorem Writing.undivided_tell {w : Writing} (h : Undivided w.text) (cs : List Nat) (isFirst : Nat → Bool)
    (ns : List Nat) (low : Nat) : Undivided (tell cs isFirst ns low w).text := by
  induction ns generalizing w low with
  | nil => exact h
  | cons n ns ih =>
    refine ih ?_ _
    exact undivided_passes (w := { w with moves := w.moves + (n - low) * (w.count + 1) }) h isFirst n cs

theorem undivided_encode {cs : List Char} (h : Undivided cs) : Undivided (encode cs) := by
  refine Writing.undivided_tell ?_ _ _ _ _
  simp only
  split
  · exact undivided_nil
  · exact undivided_append.2 ⟨fun c hc => h c (List.mem_filter.1 hc).1, by decide⟩

theorem isDivider_of_digitValue? {c : Char} {d : Nat} (h : digitValue? c = some d) : isDivider c = false :=
  isDivider_of_kind (fun c => (digitValue? c).isSome) rfl rfl (by rw [h]; rfl)

theorem Reading.mem_finish? {r r' : Reading} {isFirst : Bool} {value : Nat} (h : r.finish? isFirst value = some r') :
    r.codes ⊆ r'.codes := by
  unfold finish? at h
  dsimp only at h
  split at h
  · cases h
    intro n hn
    rw [insertAt, List.mem_append, List.mem_cons]
    rw [← List.take_append_drop ((r.place + value) % (r.codes.length + 1)) r.codes, List.mem_append] at hn
    exact hn.imp id .inr
  · cases h

/-- Whatever is read as numbers is in digits, and keeps the code points that are there, by induction on the text. -/
theorem Reading.run_eq_some {r : Reading} {isFirst : Bool} {cs : List Char} {codes : List Nat}
    (h : r.run isFirst cs = some codes) : Undivided cs ∧ r.codes ⊆ codes := by
  induction cs generalizing r isFirst with
  | nil =>
    rw [run] at h
    split at h
    · cases h
      exact ⟨undivided_nil, fun n hn => hn⟩
    · cases h
  | cons c rest ih =>
    rw [run] at h
    cases hdigit : digitValue? c with
    | none => simp [hdigit] at h
    | some d =>
      simp only [hdigit] at h
      split at h
      · obtain ⟨r', hr', hrun⟩ := Option.bind_eq_some_iff.1 h
        obtain ⟨hrest, hcodes⟩ := ih hrun
        exact ⟨undivided_cons.2 ⟨isDivider_of_digitValue? hdigit, hrest⟩,
          fun n hn => hcodes (mem_finish? hr' hn)⟩
      · obtain ⟨hrest, hcodes⟩ := ih h
        exact ⟨undivided_cons.2 ⟨isDivider_of_digitValue? hdigit, hrest⟩, hcodes⟩

/-- A character stands before the last hyphen, is that hyphen or stands behind it. -/
theorem mem_splitBasic {cs : List Char} {c : Char} (h : c ∈ cs) :
    c ∈ (splitBasic cs).1 ∨ c = '-' ∨ c ∈ (splitBasic cs).2 := by
  unfold splitBasic
  simp only
  split
  · exact .inr (.inr h)
  · rw [← List.mem_reverse, ← List.takeWhile_append_dropWhile (p := (· ≠ '-')) (l := cs.reverse),
      List.mem_append] at h
    rcases h with h | h
    · exact .inr (.inr (List.mem_reverse.2 h))
    · cases hdrop : cs.reverse.dropWhile (· ≠ '-') with
      | nil =>
        rw [hdrop] at h
        cases h
      | cons d rest =>
        have hd : d = '-' := by
          have hhead := List.head?_dropWhile_not (· ≠ '-') cs.reverse
          rw [hdrop] at hhead
          simpa using hhead
        rw [hdrop] at h
        rcases List.mem_cons.1 h with rfl | h
        · exact .inr (.inl hd)
        · exact .inl (by simpa using h)

/-- A text that stands for a name without a mark has none. -/
theorem undivided_of_decode? {cs name : List Char} (h : decode? cs = some name) (hname : Undivided name) :
    Undivided cs := by
  unfold decode? at h
  simp only at h
  split at h
  · obtain ⟨codes, hrun, rfl⟩ := Option.map_eq_some_iff.1 h
    obtain ⟨hdigits, hbasic⟩ := Reading.run_eq_some hrun
    intro c hc
    rcases mem_splitBasic hc with hc | rfl | hc
    · refine hname c (List.mem_map.2 ⟨c.toNat, hbasic (List.mem_map_of_mem hc), Char.ofNat_toNat c⟩)
    · decide
    · exact hdigits c hc
  · cases h

end Punycode

/-! ## Domains -/

namespace Domain

theorem isDivider_of_not_isForbidden {c : Char} (h : isForbidden c.toNat = false) : isDivider c = false :=
  isDivider_of_kind (fun c => !isForbidden c.toNat) rfl rfl (by rw [h]; rfl)

/-- The characters of a label are not forbidden. -/
theorem undivided_of_isLabel {cs : List Char} (h : isLabel (cs.map Char.toNat) = true) : Undivided cs := by
  simp only [isLabel, Bool.and_eq_true, Bool.not_eq_true', List.any_eq_false] at h
  intro c hc
  exact isDivider_of_not_isForbidden (Bool.eq_false_iff.2 (h.1.1.1.2 c.toNat (List.mem_map_of_mem hc)))

theorem undivided_ofCode? {code : List Char} {name : Name} (h : ofCode? code = some name)
    (hname : isLabel name = true) : Undivided code := by
  unfold ofCode? at h
  split at h
  · cases h
  · obtain ⟨cs, hcs, h⟩ := Option.bind_eq_some_iff.1 h
    dsimp only at h
    split at h
    · cases h
    · cases h
      exact Punycode.undivided_of_decode? hcs (undivided_of_isLabel hname)

/-- A label in Punycode has the characters of its name and digits, and any other its own. -/
theorem undivided_label? {cs : List Char} {l : Name × List Char} (h : label? cs = some l) : Undivided l.2 := by
  unfold label? at h
  simp only [Option.bind_eq_bind] at h
  split at h
  · rename_i hmark
    split at h
    · cases h
    · obtain ⟨inner, hinner, h⟩ := Option.bind_eq_some_iff.1 h
      split at h
      · rename_i hlabel
        cases h
        obtain ⟨code, rfl⟩ := List.isPrefixOf_iff_prefix.1 hmark
        rw [List.drop_left] at hinner
        exact undivided_append.2 ⟨by decide, undivided_ofCode? hinner hlabel⟩
      · cases h
  · split at h
    · rename_i hlabel
      cases h
      have hcs := undivided_of_isLabel hlabel
      simp only
      split
      · exact hcs
      · exact undivided_append.2 ⟨by decide, Punycode.undivided_encode hcs⟩
    · cases h

theorem undivided_toAscii? {cs : List Char} {domain : String} (h : toAscii? cs = some domain) :
    Undivided domain.toList := by
  obtain ⟨composed, -, h⟩ := Option.bind_eq_some_iff.1 h
  obtain ⟨labels, hlabels, h⟩ := Option.bind_eq_some_iff.1 h
  split at h
  · cases h
  · cases h
    rw [String.toList_intercalate, List.map_map]
    refine undivided_intercalate (by decide) fun xs hxs => ?_
    obtain ⟨l, hl, rfl⟩ := List.mem_map.1 hxs
    obtain ⟨part, -, hpart⟩ := Json.Decode.exists_of_mem_of_mapM hlabels l hl
    rw [Function.comp_apply, String.toList_ofList]
    exact undivided_label? hpart

theorem undivided_ofEncoded? {cs : List Char} {domain : String} (h : ofEncoded? cs = some domain) :
    Undivided domain.toList := by
  obtain ⟨name, -, hascii⟩ := Option.bind_eq_some_iff.1 h
  exact undivided_toAscii? hascii

end Domain

/-! ## Hosts -/

theorem undivided_bracketed {cs : List Char} {host : String} (h : bracketed cs = .ok host) : Undivided host.toList := by
  unfold bracketed at h
  split at h
  · split at h
    · cases h
      rw [String.toList_append, String.toList_append]
      exact undivided_append.2 ⟨undivided_append.2 ⟨by decide, Address.undivided_ipv6Text _⟩, by decide⟩
    · cases h
  · cases h

theorem undivided_webHost {cs : List Char} {host : String} (h : webHost cs = .ok host) : Undivided host.toList := by
  unfold webHost at h
  split at h
  · exact undivided_bracketed h
  · cases hdomain : Domain.ofEncoded? cs with
    | none => simp [hdomain] at h
    | some domain =>
      simp only [hdomain] at h
      split at h
      · cases h
      · split at h
        · split at h
          · cases h
            exact Address.undivided_ipv4Text _
          · cases h
        · cases h
          exact Domain.undivided_ofEncoded? hdomain

theorem undivided_plainHost {cs : List Char} {host : String} (h : plainHost cs = .ok host) :
    Undivided host.toList := by
  unfold plainHost at h
  split at h
  · exact undivided_bracketed h
  · split at h
    · cases h
    · rename_i hbreaker
      cases h
      rw [String.toList_ofList]
      refine undivided_percentEncode fun c hc _ => ?_
      have hc : isHostBreaker c = false :=
        Bool.eq_false_iff.2 fun hbreaks => hbreaker (List.any_eq_true.2 ⟨c, hc, hbreaks⟩)
      exact isDivider_of_kind (fun c => !isHostBreaker c) rfl rfl (by rw [hc]; rfl)

end EntityGraph.Url
