import EntityGraph.Compile.EdgeProperties
import EntityGraph.Proofs.Json.Equality
import EntityGraph.Proofs.Result

/-!
# Supplied edge properties

The defaults of a relationship are filled in under the properties that the input supplies. If the result equals what was
supplied, nothing was filled in and nothing was put in order: it is what was supplied.
-/
namespace EntityGraph.Compile

open Json (Value)
open Schema (Relationship)

variable {name : String} {r : Relationship}

theorem eq_of_same_fillEdge {v : Value} {filled : Dict Value} (h : fillEdge name r (some v) = .ok filled)
    (hsame : v.same (.ofDict filled) = true) : v = .ofDict filled := by
  obtain ⟨_, -, h⟩ := Result.bind_eq_ok_iff.1 h
  cases h
  cases v with
  | obj members =>
    refine Value.eq_ofDict_of_same hsame fun hascending e he v hv _ => ?_
    have hmember : members.lookup e.1 = some e.2 := Dict.get?_of_mem (d := ⟨members, hascending⟩) he
    rw [Dict.get?_overlay, Value.dict, Dict.get?_ofList hascending, hmember] at hv
    exact Option.some.inj hv
  | _ => simp [Value.same, Value.ofDict] at hsame

/-- What the targets of a relationship are filled with. -/
theorem get?_fillTargets {supplied : Dict Value} {ids : List String} {filled : Dict Value}
    (h : fillTargets name r supplied ids = .ok filled) {id : String} {v : Value} (hv : filled.get? id = some v) :
    ∃ props, fillEdge name r (supplied.get? id) = .ok props ∧ v = .ofDict props := by
  have hstep (ids : List String) (d : Dict Value)
      (h : ids.foldlM (fun d id => (fillEdge name r (supplied.get? id)).map
        (fun props => d.insert id (.ofDict props))) d = .ok filled)
      (hd : ∀ v, d.get? id = some v → ∃ props, fillEdge name r (supplied.get? id) = .ok props ∧ v = .ofDict props) :
      ∃ props, fillEdge name r (supplied.get? id) = .ok props ∧ v = .ofDict props := by
    induction ids generalizing d with
    | nil =>
      cases h
      exact hd v hv
    | cons first rest ih =>
      rw [List.foldlM_cons] at h
      obtain ⟨_, hfirst, h⟩ := Result.bind_eq_ok_iff.1 h
      obtain ⟨props, hprops, rfl⟩ := Result.map_eq_ok_iff.1 hfirst
      refine ih _ h fun u hu => ?_
      rw [Dict.get?_insert] at hu
      split at hu
      · rename_i hid
        subst hid
        exact ⟨props, hprops, (Option.some.inj hu).symm⟩
      · exact hd u hu
  exact hstep ids ∅ h fun u hu => by cases hu

/-- Edge properties that equal the input's are the input's. -/
theorem eq_of_same_edgeProperties {input : Dict Value} {ids : List String} {v props : Value}
    (h : edgeProperties name r input ids = .ok (some props)) (hinput : input.get? (edgePropsKey name) = some v)
    (hnull : v.isNull = false) (hsame : v.same props = true) : v = props := by
  have hsupplied : (input.get? (edgePropsKey name)).filter (fun v => !v.isNull) = some v := by simp [hinput, hnull]
  unfold edgeProperties at h
  simp only [hsupplied] at h
  split at h
  · cases h
  cases hcard : r.cardinality with
  | one =>
    rw [hcard] at h
    obtain ⟨filled, hfilled, hprops⟩ := Result.map_eq_ok_iff.1 h
    cases hprops
    exact eq_of_same_fillEdge hfilled hsame
  | many =>
    rw [hcard] at h
    cases v with
    | obj members =>
      obtain ⟨perTarget, hperTarget, h⟩ := Result.bind_eq_ok_iff.1 h
      cases hperTarget
      split at h
      · cases h
      · obtain ⟨filled, hfilled, hprops⟩ := Result.map_eq_ok_iff.1 h
        cases hprops
        refine Value.eq_ofDict_of_same hsame fun hascending e he u hu hequal => ?_
        obtain ⟨props, hprops, rfl⟩ := get?_fillTargets hfilled hu
        have hmember : members.lookup e.1 = some e.2 := Dict.get?_of_mem (d := ⟨members, hascending⟩) he
        rw [Dict.get?_ofList hascending, hmember] at hprops
        exact eq_of_same_fillEdge hprops hequal
    | _ => cases h

end EntityGraph.Compile
