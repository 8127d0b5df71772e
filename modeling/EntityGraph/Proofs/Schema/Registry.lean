import EntityGraph.Proofs.Schema.Validation
import EntityGraph.Schema.Registry

/-!
# What a registry holds

A registry that was built holds the descriptors of its list, all of them valid, and its statements are theirs.
-/
namespace EntityGraph.Schema.Registry

theorem register_eq_ok_iff {r r' : Registry} {d : Descriptor} :
    r.register d = .ok r' ↔ d.validate = .ok () ∧ r.contains d.label = false ∧ r' = r.insert d.label d := by
  rw [register, Result.bind_eq_ok_iff]
  cases htaken : r.contains d.label with
  | true => simp [refuse, bind, Except.bind]
  | false =>
    constructor
    · rintro ⟨_, hvalid, hr⟩
      cases hr
      exact ⟨hvalid, rfl, rfl⟩
    · rintro ⟨hvalid, -, rfl⟩
      exact ⟨(), hvalid, rfl⟩

theorem values_foldlM {ds : List Descriptor} {r r' : Registry} (h : ds.foldlM register r = .ok r') :
    (∀ d, d ∈ r'.values ↔ d ∈ r.values ∨ d ∈ ds) ∧ ∀ d ∈ ds, d.validate = .ok () := by
  induction ds generalizing r with
  | nil =>
    cases h
    simp
  | cons d rest ih =>
    obtain ⟨r₁, hregister, hrest⟩ := Result.bind_eq_ok_iff.1 h
    obtain ⟨hvalid, hfresh, rfl⟩ := register_eq_ok_iff.1 hregister
    obtain ⟨hvalues, hvalids⟩ := ih hrest
    refine ⟨fun d' => ?_, List.forall_mem_cons.2 ⟨hvalid, hvalids⟩⟩
    rw [hvalues, Dict.mem_values_insert hfresh, List.mem_cons, or_assoc, or_left_comm]

theorem mem_values_ofList {ds : List Descriptor} {r : Registry} (h : ofList ds = .ok r) {d : Descriptor} :
    d ∈ r.values ↔ d ∈ ds := by
  rw [(values_foldlM h).1]
  exact or_iff_right List.not_mem_nil

theorem validate_of_ofList {ds : List Descriptor} {r : Registry} (h : ofList ds = .ok r) :
    ∀ d ∈ ds, d.validate = .ok () :=
  (values_foldlM h).2

theorem mem_ddl {ds : List Descriptor} {r : Registry} (h : ofList ds = .ok r) {s : String} :
    s ∈ r.ddl ↔ ∃ d ∈ ds, s ∈ d.ddl := by
  simp only [ddl, List.mem_flatMap, mem_values_ofList h]

end EntityGraph.Schema.Registry
