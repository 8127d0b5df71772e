import EntityGraph.Json.Value

/-!
# Parts of values

The values inside a value, each known to be smaller than the value that holds it, so that a walk into the parts
of a value ends.
-/
namespace EntityGraph.Json

theorem sizeOf_lt_of_lookup {members : List (String × Value)} {key : String} {w : Value}
    (h : members.lookup key = some w) : sizeOf w < sizeOf members := by
  induction members with
  | nil => simp at h
  | cons e rest ih =>
    obtain ⟨k, v⟩ := e
    rw [List.lookup_cons] at h
    split at h
    · cases h
      simp only [List.cons.sizeOf_spec, Prod.mk.sizeOf_spec]
      omega
    · have := ih h
      simp only [List.cons.sizeOf_spec]
      omega

theorem Value.sizeOf_lt_of_member? {v w : Value} {key : String} (h : v.member? key = some w) :
    sizeOf w < sizeOf v := by
  unfold Value.member? at h
  split at h
  · have := sizeOf_lt_of_lookup h
    simp only [obj.sizeOf_spec]
    omega
  · cases h

theorem Value.sizeOf_lt_arr {items : List Value} {w : Value} (h : w ∈ items) :
    sizeOf w < sizeOf (Value.arr items) := by
  have := List.sizeOf_lt_of_mem h
  simp only [arr.sizeOf_spec]
  omega

/-- A value inside another. -/
abbrev Part (v : Value) := { w : Value // sizeOf w < sizeOf v }

namespace Part

/-- A part of a part is a part. -/
def trans {v : Value} (p : Part v) (q : Part p.val) : Part v := ⟨q.val, Nat.lt_trans q.property p.property⟩

/-- The member of an object. -/
def member? (v : Value) (key : String) : Option (Part v) :=
  match h : v.member? key with
  | none => none
  | some w => some ⟨w, Value.sizeOf_lt_of_member? h⟩

/-- The items of a list. -/
def items? (v : Value) : Option (List (Part v)) :=
  match v with
  | .arr items => some (items.attach.map (fun ⟨w, h⟩ => ⟨w, Value.sizeOf_lt_arr h⟩))
  | _ => none

end Part
end EntityGraph.Json
