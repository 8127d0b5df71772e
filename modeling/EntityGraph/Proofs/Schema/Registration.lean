import EntityGraph.Proofs.Schema.Registry
import EntityGraph.Proofs.Text.Utf8

/-!
# Which descriptors make a registry

Descriptors are checked, compared with those before them and put in their place one by one. What comes of a list does
not depend on its order as long as all goes well: it makes a registry if its descriptors are valid and have different
labels, and the registry is that of any other order. Only the failure that is reported goes by the order of the list.
-/
namespace EntityGraph.Schema

open Text

/-- Descriptors that can be registered together: each is valid, and no two have the same label. -/
structure Registrable (ds : List Descriptor) : Prop where
  valid : ∀ d ∈ ds, d.validate = .ok ()
  apart : (ds.map Descriptor.label).Nodup

theorem Registrable.perm {ds ds' : List Descriptor} (h : Registrable ds) (hperm : ds'.Perm ds) : Registrable ds' where
  valid d hd := h.valid d (hperm.mem_iff.1 hd)
  apart := (hperm.map Descriptor.label).nodup_iff.2 h.apart

/-- What is wrong with a descriptor behind others: it is invalid, or it is valid and repeats a label. -/
inductive Descriptor.Faulty (earlier : List Descriptor) (d : Descriptor) : GraphError → Prop
  | invalid {e : GraphError} (h : d.validate = .error e) : Faulty earlier d e
  | repeated (hvalid : d.validate = .ok ()) (h : ∃ d' ∈ earlier, d'.label = d.label) :
      Faulty earlier d (.invalidArgument (.registeredTwice d.label))

namespace Registry

/-- A descriptor under its label. -/
def entry (d : Descriptor) : String × Descriptor := (d.label, d)

/-- What a registry of descriptors holds; `sorted` are the descriptors in the byte order of their labels. -/
structure Holds (r : Registry) (ds sorted : List Descriptor) : Prop where
  same : sorted.Perm ds
  ordered : sorted.Pairwise (fun d d' => Utf8.encode d.label.toList < Utf8.encode d'.label.toList)
  entries : r.toList = sorted.map entry
  ddl : r.ddl = sorted.flatMap Descriptor.ddl

theorem nodup_keys {ds : List Descriptor} (h : Registrable ds) : ((ds.map entry).map Prod.fst).Nodup := by
  rw [List.map_map]
  exact h.apart

/-! ## Acceptance -/

/-- By induction on the descriptors: those still to come must be apart from one another and from those registered. -/
theorem foldlM_register_eq_ok_iff {ds : List Descriptor} {r r' : Registry} :
    ds.foldlM register r = .ok r' ↔
      Registrable ds ∧ (∀ d ∈ ds, r.contains d.label = false) ∧
        r' = (ds.map entry).foldl (fun r e => r.insert e.1 e.2) r := by
  induction ds generalizing r with
  | nil =>
    constructor
    · intro h
      cases h
      exact ⟨⟨by simp, by simp⟩, by simp, rfl⟩
    · rintro ⟨-, -, rfl⟩
      rfl
  | cons d rest ih =>
    have hfresh : (∀ d' ∈ rest, (r.insert d.label d).contains d'.label = false) ↔
        d.label ∉ rest.map Descriptor.label ∧ ∀ d' ∈ rest, r.contains d'.label = false := by
      simp only [← Bool.not_eq_true, Dict.contains_insert, not_or, List.mem_map, not_exists, not_and]
      exact ⟨fun h => ⟨fun d' hd' => (h d' hd').1, fun d' hd' => (h d' hd').2⟩,
        fun h d' hd' => ⟨h.1 d' hd', h.2 d' hd'⟩⟩
    rw [List.foldlM_cons, Result.bind_eq_ok_iff]
    constructor
    · rintro ⟨r₁, hregister, hrest⟩
      obtain ⟨hvalid, hnew, rfl⟩ := register_eq_ok_iff.1 hregister
      obtain ⟨⟨hvalids, hapart⟩, hothers, rfl⟩ := ih.1 hrest
      obtain ⟨hlabel, hothers⟩ := hfresh.1 hothers
      exact ⟨⟨List.forall_mem_cons.2 ⟨hvalid, hvalids⟩, List.nodup_cons.2 ⟨hlabel, hapart⟩⟩,
        List.forall_mem_cons.2 ⟨hnew, hothers⟩, rfl⟩
    · rintro ⟨⟨hvalids, hapart⟩, hnew, rfl⟩
      obtain ⟨hvalid, hvalids⟩ := List.forall_mem_cons.1 hvalids
      obtain ⟨hlabel, hapart⟩ := List.nodup_cons.1 hapart
      obtain ⟨hnew, hothers⟩ := List.forall_mem_cons.1 hnew
      exact ⟨_, register_eq_ok_iff.2 ⟨hvalid, hnew, rfl⟩, ih.2 ⟨⟨hvalids, hapart⟩, hfresh.2 ⟨hlabel, hothers⟩, rfl⟩⟩

theorem ofList_eq_ok_iff {ds : List Descriptor} {r : Registry} :
    ofList ds = .ok r ↔ Registrable ds ∧ r = Dict.ofList (ds.map entry) := by
  rw [ofList, foldlM_register_eq_ok_iff]
  exact and_congr_right fun _ => and_iff_right fun d _ => Dict.contains_empty d.label

theorem ofList_of_perm {ds ds' : List Descriptor} (hperm : ds'.Perm ds) {r : Registry} (h : ofList ds = .ok r) :
    ofList ds' = .ok r := by
  obtain ⟨hregistrable, rfl⟩ := ofList_eq_ok_iff.1 h
  have hsame := Dict.ofList_eq_of_perm (hperm.symm.map entry) (nodup_keys hregistrable)
  exact ofList_eq_ok_iff.2 ⟨hregistrable.perm hperm, hsame⟩

/-- The order of the list does not matter where it makes a registry. -/
theorem ofList_perm {ds ds' : List Descriptor} (hperm : ds'.Perm ds) {r : Registry} :
    ofList ds' = .ok r ↔ ofList ds = .ok r :=
  ⟨ofList_of_perm hperm.symm, ofList_of_perm hperm⟩

/-! ## What a registry holds -/

theorem holds_of_ofList {ds : List Descriptor} {r : Registry} (h : ofList ds = .ok r) : r.Holds ds r.values := by
  obtain ⟨hregistrable, rfl⟩ := ofList_eq_ok_iff.1 h
  have hperm := Dict.toList_ofList_perm (nodup_keys hregistrable)
  have hentry : ∀ e ∈ (Dict.ofList (ds.map entry)).toList, e = entry e.2 := by
    intro e he
    obtain ⟨d, -, rfl⟩ := List.mem_map.1 (hperm.mem_iff.1 he)
    rfl
  refine { same := ?_, ordered := ?_, entries := ?_, ddl := rfl }
  · have hvalues : (ds.map entry).map Prod.snd = ds := by
      rw [List.map_map]
      exact List.map_id ds
    have hsame := hperm.map Prod.snd
    rwa [hvalues] at hsame
  · refine List.pairwise_map.2 ((Dict.ofList (ds.map entry)).ascending.imp_of_mem fun {e e'} he he' hlt => ?_)
    rw [hentry e he, hentry e' he'] at hlt
    exact Utf8.encode_lt_encode_iff.2 hlt
  · rw [Dict.values, List.map_map]
    exact (List.map_id _).symm.trans (List.map_congr_left hentry)

/-! ## Refusal -/

theorem register_eq_error_iff {r : Registry} {d : Descriptor} {e : GraphError} :
    r.register d = .error e ↔ d.validate = .error e ∨
      d.validate = .ok () ∧ r.contains d.label = true ∧ e = .invalidArgument (.registeredTwice d.label) := by
  rw [register]
  cases hvalidate : d.validate with
  | error e' => simp [bind, Except.bind]
  | ok _ =>
    cases htaken : r.contains d.label with
    | false => simp [bind, Except.bind]
    | true => simp [bind, Except.bind, refuse, eq_comm]

/-- The labels of the descriptors that were registered are taken, and no others. -/
theorem contains_ofList {ds : List Descriptor} {r : Registry} (h : ofList ds = .ok r) {label : String} :
    r.contains label = true ↔ ∃ d ∈ ds, d.label = label := by
  have hholds := holds_of_ofList h
  simp only [Dict.contains_iff, Dict.keys, hholds.entries, List.map_map, List.mem_map, hholds.same.mem_iff,
    Function.comp_apply, entry]

theorem register_eq_error_iff_faulty {ds : List Descriptor} {r : Registry} (h : ofList ds = .ok r) {d : Descriptor}
    {e : GraphError} : r.register d = .error e ↔ d.Faulty ds e := by
  rw [register_eq_error_iff, contains_ofList h]
  constructor
  · rintro (hinvalid | ⟨hvalid, htaken, rfl⟩)
    · exact .invalid hinvalid
    · exact .repeated hvalid htaken
  · rintro (hinvalid | ⟨hvalid, htaken⟩)
    · exact .inl hinvalid
    · exact .inr ⟨hvalid, htaken, rfl⟩

theorem ofList_eq_error_iff {ds : List Descriptor} {e : GraphError} :
    ofList ds = .error e ↔ ∃ earlier d later, ds = earlier ++ d :: later ∧ Registrable earlier ∧ d.Faulty earlier e := by
  rw [ofList, Result.foldlM_eq_error_iff]
  constructor
  · rintro ⟨earlier, d, later, r, rfl, hearlier, hd⟩
    exact ⟨earlier, d, later, rfl, (ofList_eq_ok_iff.1 hearlier).1, (register_eq_error_iff_faulty hearlier).1 hd⟩
  · rintro ⟨earlier, d, later, rfl, hearlier, hd⟩
    have hofList := ofList_eq_ok_iff.2 ⟨hearlier, rfl⟩
    exact ⟨earlier, d, later, _, rfl, hofList, (register_eq_error_iff_faulty hofList).2 hd⟩

/-- Descriptors make a registry exactly if they are valid and have different labels. It holds them under their labels,
in the byte order of these, with their statements in that order, and it is the same for every order of the
descriptors. Otherwise the failure is that of the first descriptor that is invalid or repeats a label. -/
theorem registration_is_exact (ds : List Descriptor) :
    ((∃ r, ofList ds = .ok r) ↔ Registrable ds) ∧
      (∀ r, ofList ds = .ok r → ∃ sorted, r.Holds ds sorted) ∧
      (∀ ds', ds'.Perm ds → ∀ r, ofList ds' = .ok r ↔ ofList ds = .ok r) ∧
      ∀ e, ofList ds = .error e ↔
        ∃ earlier d later, ds = earlier ++ d :: later ∧ Registrable earlier ∧ d.Faulty earlier e := by
  refine ⟨⟨?_, ?_⟩, fun r h => ⟨r.values, holds_of_ofList h⟩, fun ds' hperm r => ofList_perm hperm,
    fun e => ofList_eq_error_iff⟩
  · rintro ⟨r, h⟩
    exact (ofList_eq_ok_iff.1 h).1
  · intro h
    exact ⟨_, ofList_eq_ok_iff.2 ⟨h, rfl⟩⟩

/-- Tags and users, and tags once more, of which only the first can be registered. -/
def repeatedTags : List Descriptor := [.base "Tag" "tag", .base "User" "user", .base "Tag" "t", .base "1" "one"]

/-- The second tags are reported and not the invalid label behind them; without both, either order will do. -/
theorem registration_of_repeatedTags :
    ofList repeatedTags = .error (.invalidArgument (.registeredTwice "Tag")) ∧
      ∃ r, ofList (repeatedTags.take 2) = .ok r ∧ ofList (repeatedTags.take 2).reverse = .ok r ∧
        ∃ sorted, r.Holds (repeatedTags.take 2) sorted := by
  have hfaulty : (Descriptor.base "Tag" "t").Faulty (repeatedTags.take 2)
      (.invalidArgument (.registeredTwice "Tag")) := .repeated rfl ⟨.base "Tag" "tag", List.mem_cons_self, rfl⟩
  have htwo : Registrable (repeatedTags.take 2) := by
    refine ⟨?_, by decide⟩
    simp only [repeatedTags, List.take_succ_cons, List.take_zero, List.forall_mem_cons]
    exact ⟨rfl, rfl, by simp⟩
  obtain ⟨r, hr⟩ := (registration_is_exact (repeatedTags.take 2)).1.2 htwo
  refine ⟨((registration_is_exact repeatedTags).2.2.2 _).2 ⟨_, _, _, rfl, htwo, hfaulty⟩, r, hr, ?_, ?_⟩
  · exact ((registration_is_exact _).2.2.1 _ (List.reverse_perm _) r).2 hr
  · exact (registration_is_exact _).2.1 r hr

end Registry
end EntityGraph.Schema
