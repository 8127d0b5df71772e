import EntityGraph.Json.Decode
import EntityGraph.Proofs.Dict

/-!
# Reading back what was written

A reader that knows how its values are written reads them back. For a structure this is seen member by member: each
member is found under its own key, whatever stands beside it, and an optional one is told from an absent one as long as
it is never written as null.
-/
namespace EntityGraph.Json

variable {α : Type}

/-! ## Members that are written -/

@[simp] theorem lookup_optionalMember (key other : String) (v : Option Value) :
    (optionalMember key v).lookup other = if other = key then v else none := by
  cases v with
  | none => rw [optionalMember, List.lookup_nil, ite_self]
  | some v => rw [optionalMember, Entries.lookup_cons_eq, List.lookup_nil]

@[simp] theorem reverse_optionalMember (key : String) (v : Option Value) :
    (optionalMember key v).reverse = optionalMember key v := by
  cases v <;> rfl

theorem forall_mem_optionalMember {key : String} {v : Option Value} {P : String × Value → Prop} :
    (∀ e ∈ optionalMember key v, P e) ↔ ∀ w, v = some w → P (key, w) := by
  cases v <;> simp [optionalMember]

/-- A member that is written unless a condition holds. -/
@[simp] theorem lookup_unless (c : Prop) [Decidable c] (key other : String) (v : Value) :
    (if c then [] else [(key, v)]).lookup other = if other = key ∧ ¬c then some v else none := by
  by_cases hc : c <;> simp [hc, Entries.lookup_cons_eq]

@[simp] theorem reverse_unless (c : Prop) [Decidable c] (e : String × Value) :
    (if c then [] else [e]).reverse = if c then [] else [e] := by
  split <;> rfl

namespace Decode

/-- A reader reads back what was written, and nothing is written as null. -/
structure Faithful (read : Reader α) (write : α → Value) : Prop where
  read_write : ∀ a, read (write a) = some a
  ne_null : ∀ a, write a ≠ .null

theorem faithful_string : Faithful string .str := ⟨fun _ => rfl, nofun⟩

/-- A list is read back if its items are. -/
theorem list_map_of_mem {read : Reader α} {write : α → Value} {items : List α}
    (h : ∀ a ∈ items, read (write a) = some a) : list read (.arr (items.map write)) = some items := by
  show (items.map write).mapM read = some items
  induction items with
  | nil => rfl
  | cons a rest ih =>
    rw [List.forall_mem_cons] at h
    rw [List.map_cons, List.mapM_cons, h.1, ih h.2]
    rfl

theorem list_map {read : Reader α} {write : α → Value} (h : ∀ a, read (write a) = some a) (items : List α) :
    list read (.arr (items.map write)) = some items :=
  list_map_of_mem fun a _ => h a

/-- A dictionary is read back if its values are. -/
theorem dict_mapValues_of_mem {read : Reader α} {write : α → Value} {d : Dict α}
    (h : ∀ e ∈ d.toList, read (write e.2) = some e.2) :
    dict read (.ofDict (d.mapValues (fun _ => write))) = some d := by
  have hentries : ∀ entries : List (String × α), (∀ e ∈ entries, read (write e.2) = some e.2) →
      (entries.map (fun e => (e.1, write e.2))).mapM (fun e : String × Value => (read e.2).map (fun a => (e.1, a))) =
        some entries := by
    intro entries hread
    induction entries with
    | nil => rfl
    | cons e rest ih =>
      rw [List.forall_mem_cons] at hread
      rw [List.map_cons, List.mapM_cons, ih hread.2, hread.1]
      rfl
  exact (congrArg (Option.map Dict.ofList) (hentries d.toList h)).trans (congrArg some d.ofList_toList)

theorem faithful_dict {read : Reader α} {write : α → Value} (h : ∀ a, read (write a) = some a) :
    Faithful (dict read) (fun d => .ofDict (d.mapValues (fun _ => write))) :=
  ⟨fun _ => dict_mapValues_of_mem fun e _ => h e.2, nofun⟩

/-- A dictionary of any values is read as it stands. -/
theorem faithful_ofDict : Faithful (dict some) .ofDict := by
  refine ⟨fun d => ?_, nofun⟩
  have h : dict some (.ofDict (d.mapValues (fun _ => id))) = some d := (faithful_dict (fun _ => rfl)).read_write d
  rwa [show d.mapValues (fun _ => id) = d from Dict.ext (List.map_id _)] at h

/-! ## One item or a list -/

section OneOrMany

variable {β : Type} {read : Reader α} {write : α → Value} {one : Option α → β} {many : List α → β}

theorem oneOrMany_of_ne_null {v : Value} (hv : v ≠ .null) :
    oneOrMany read one many v = ((read v).map (fun a => one (some a))).or ((list read v).map many) := by
  unfold oneOrMany
  split
  · contradiction
  · rfl

theorem oneOrMany_one (h : Faithful read write) (a : α) : oneOrMany read one many (write a) = some (one (some a)) := by
  rw [oneOrMany_of_ne_null (h.ne_null a), h.read_write, Option.map_some, Option.some_or]

/-- A list is read as one unless it is an item itself. -/
theorem oneOrMany_many (h : Faithful read write) {items : List α} (hitem : read (.arr (items.map write)) = none) :
    oneOrMany read one many (.arr (items.map write)) = some (many items) := by
  rw [oneOrMany_of_ne_null (v := .arr (items.map write)) nofun, hitem, list_map h.read_write, Option.map_none,
    Option.none_or, Option.map_some]

/-- Only null is read as no item. -/
theorem some_or_many_of_oneOrMany {v : Value} {b : β} (hv : v ≠ .null) (h : oneOrMany read one many v = some b) :
    (∃ a, b = one (some a)) ∨ ∃ items, b = many items := by
  rw [oneOrMany_of_ne_null hv, Option.or_eq_some_iff] at h
  obtain hone | ⟨-, hmany⟩ := h
  · obtain ⟨a, -, rfl⟩ := Option.map_eq_some_iff.1 hone
    exact .inl ⟨a, rfl⟩
  · obtain ⟨items, -, rfl⟩ := Option.map_eq_some_iff.1 hmany
    exact .inr ⟨items, rfl⟩

end OneOrMany

/-! ## Members of a structure -/

section Members

variable {ms : Members} {key : String} {read : Reader α} {write : α → Value}

variable {format : Format} {keys : List String}

theorem structure?_object (read : Members → Option α) (entries : List (String × Value)) :
    structure? format keys read (.object entries) = read (Dict.ofList entries).toList := rfl

/-- A structure that begins with a text is no list without texts. -/
theorem structure?_arr_eq_none {items : List Value} (h : ∀ v ∈ items, v.string? = none)
    (rest : Members → String → Option α) :
    structure? format (key :: keys) (fun ms => (member ms key string).bind (rest ms)) (.arr items) = none := by
  have hfirst : member ((key :: keys).zip items) key string = none := by
    cases items with
    | nil => rfl
    | cons v others =>
      rw [List.zip_cons_cons, member, List.lookup_cons_self, Option.bind_some]
      exact h v List.mem_cons_self
  rw [structure?, hfirst, Option.bind_none, ite_self]

@[simp] theorem lookup_ofList (entries : List (String × Value)) (key : String) :
    (Dict.ofList entries).toList.lookup key = entries.reverse.lookup key :=
  Dict.get?_ofList_eq_lookup_reverse entries key

theorem member_eq {v : Value} (hlookup : ms.lookup key = some v) : member ms key read = read v := by
  rw [member, hlookup, Option.bind_some]

/-- An optional member is read back if it is where there is one, unless it was written as null. -/
theorem member?_of_lookup (write : α → Value) {a : Option α}
    (h : ∀ b, a = some b → read (write b) = some b ∧ write b ≠ .null) (hlookup : ms.lookup key = a.map write) :
    member? ms key read = some a := by
  rw [member?, hlookup]
  cases a with
  | none => rfl
  | some a =>
    obtain ⟨hread, hnull⟩ := h a rfl
    rw [Option.map_some]
    split
    · contradiction
    · rename_i heq
      exact absurd (Option.some.inj heq) hnull
    · rename_i heq
      rw [← Option.some.inj heq, hread, Option.map_some]

theorem member?_eq (h : Faithful read write) {a : Option α} (hlookup : ms.lookup key = a.map write) :
    member? ms key read = some a :=
  member?_of_lookup write (fun b _ => ⟨h.read_write b, h.ne_null b⟩) hlookup

theorem memberD_eq {default : α} {v : Value} (hlookup : ms.lookup key = some v) :
    memberD ms key default read = read v := by
  rw [memberD, hlookup]

theorem memberD_eq_default {default : α} (hlookup : ms.lookup key = none) :
    memberD ms key default read = some default := by
  rw [memberD, hlookup]

/-- A list that is written only if it has items is read as the empty list where it was not. -/
theorem memberD_items (items : List α) (hread : ∀ a ∈ items, read (write a) = some a)
    (hlookup : ms.lookup key = if items = [] then none else some (.arr (items.map write))) :
    memberD ms key [] (list read) = some items := by
  split at hlookup
  · rename_i hnil
    rw [memberD_eq_default hlookup, hnil]
  · rw [memberD_eq hlookup, list_map_of_mem hread]

end Members

end Decode

/-! ## Values that JSON can write -/

namespace Value

/-- Whether JSON can write a value as it is: it has no numeral for infinite doubles and for those that are no number. -/
def IsWritable (v : Value) : Prop := Decode.writable v = v

theorem isWritable_arr_iff {items : List Value} : (arr items).IsWritable ↔ ∀ v ∈ items, v.IsWritable := by
  have hitems : Decode.writableItems items = items ↔ ∀ v ∈ items, v.IsWritable := by
    induction items with
    | nil => simp [Decode.writableItems]
    | cons v rest ih => rw [Decode.writableItems, List.cons.injEq, ih, List.forall_mem_cons, IsWritable]
  rw [IsWritable, Decode.writable, arr.injEq, hitems]

theorem isWritable_obj_iff {members : List (String × Value)} :
    (obj members).IsWritable ↔ ∀ e ∈ members, e.2.IsWritable := by
  have hmembers : Decode.writableMembers members = members ↔ ∀ e ∈ members, e.2.IsWritable := by
    induction members with
    | nil => simp [Decode.writableMembers]
    | cons e rest ih =>
      obtain ⟨k, v⟩ := e
      simp only [Decode.writableMembers, List.cons.injEq, Prod.mk.injEq, true_and, ih, List.forall_mem_cons, IsWritable]
  rw [IsWritable, Decode.writable, obj.injEq, hmembers]

@[simp] theorem isWritable_str (s : String) : (str s).IsWritable := rfl

@[simp] theorem isWritable_bool (b : Bool) : (bool b).IsWritable := rfl

@[simp] theorem isWritable_ofNat (n : Nat) : (ofNat n).IsWritable := rfl

@[simp] theorem isWritable_ofStrings (items : List String) : (ofStrings items).IsWritable := by
  refine isWritable_arr_iff.2 fun v hv => ?_
  obtain ⟨s, -, rfl⟩ := List.mem_map.1 hv
  rfl

theorem isWritable_object {entries : List (String × Value)} (h : ∀ e ∈ entries, e.2.IsWritable) :
    (object entries).IsWritable :=
  isWritable_obj_iff.2 fun e he => h e (Dict.mem_of_mem_ofList he)

end Value

/-! ## What readers ensure -/

namespace Decode

/-- Whatever a reader makes of JSON has a property. -/
def Ensures (read : Reader α) (P : α → Prop) : Prop := ∀ v a, v.IsWritable → read v = some a → P a

theorem ensures_any : Ensures any Value.IsWritable := by
  rintro v _ hv ⟨⟩
  exact (show writable v = v from hv).symm ▸ hv

theorem ensures_natBelow (bits : Nat) : Ensures (natBelow bits) (· < Nat.pow 2 bits) := by
  intro v n _ h
  exact of_decide_eq_true (Option.filter_eq_some_iff.1 h).2

/-- Where a step succeeds for all items, each result comes of an item. -/
theorem exists_of_mem_of_mapM {β : Type} {f : β → Option α} {items : List β} {results : List α}
    (h : items.mapM f = some results) : ∀ a ∈ results, ∃ b ∈ items, f b = some a := by
  induction items generalizing results with
  | nil =>
    cases h
    simp
  | cons b rest ih =>
    simp only [List.mapM_cons, Option.bind_eq_bind, Option.bind_eq_some_iff] at h
    obtain ⟨a, ha, others, hothers, heq⟩ := h
    cases heq
    refine List.forall_mem_cons.2 ⟨⟨b, List.mem_cons_self, ha⟩, fun a' ha' => ?_⟩
    obtain ⟨b', hb', hfound⟩ := ih hothers a' ha'
    exact ⟨b', List.mem_cons_of_mem _ hb', hfound⟩

theorem Ensures.list {item : Reader α} {P : α → Prop} (h : Ensures item P) :
    Ensures (Decode.list item) (fun items => ∀ a ∈ items, P a) := by
  intro v items hv hread a ha
  cases v with
  | arr vs =>
    obtain ⟨u, hu, hitem⟩ := exists_of_mem_of_mapM (show vs.mapM item = some items from hread) a ha
    exact h u a (Value.isWritable_arr_iff.1 hv u hu) hitem
  | _ => cases hread

theorem Ensures.dict {value : Reader α} {P : α → Prop} (h : Ensures value P) :
    Ensures (Decode.dict value) (fun d => ∀ e ∈ d.toList, P e.2) := by
  intro v d hv hread e he
  cases v with
  | obj ms =>
    obtain ⟨entries, hentries, rfl⟩ := Option.map_eq_some_iff.1 hread
    obtain ⟨m, hm, hvalue⟩ := exists_of_mem_of_mapM hentries e (Dict.mem_of_mem_ofList he)
    obtain ⟨a, ha, rfl⟩ := Option.map_eq_some_iff.1 hvalue
    exact h m.2 a (Value.isWritable_obj_iff.1 hv m hm) ha
  | _ => cases hread

section Structures

variable {format : Format} {keys : List String} {read : Members → Option α}

/-- A structure is what its members make of it, whether they are named or stand in order, and they are JSON if it is. -/
theorem exists_members {v : Value} {a : α} (h : structure? format keys read v = some a) :
    ∃ ms, read ms = some a ∧ (v.IsWritable → ∀ e ∈ ms, e.2.IsWritable) := by
  cases v with
  | obj ms => exact ⟨ms, h, Value.isWritable_obj_iff.1⟩
  | arr items =>
    obtain ⟨-, hread⟩ := Option.ite_none_right_eq_some.1 h
    exact ⟨_, hread, fun hv e he => Value.isWritable_arr_iff.1 hv e.2 (List.of_mem_zip he).2⟩
  | _ => cases h

/-- A structure is ensured what its members say of it. -/
theorem ensures_structure? {P : α → Prop} (h : ∀ ms a, (∀ e ∈ ms, e.2.IsWritable) → read ms = some a → P a) :
    Ensures (structure? format keys read) P := by
  intro v a hv hread
  obtain ⟨ms, hms, hwritable⟩ := exists_members hread
  exact h ms a (hwritable hv) hms

end Structures

section Members

variable {ms : Members} {key : String} {read : Reader α} {P : α → Prop}

theorem isWritable_of_lookup (hms : ∀ e ∈ ms, e.2.IsWritable) {v : Value} (h : ms.lookup key = some v) :
    v.IsWritable := by
  obtain ⟨before, after, rfl, -⟩ := List.lookup_eq_some_iff.1 h
  exact hms (key, v) (by simp)

theorem Ensures.memberD (h : Ensures read P) (hms : ∀ e ∈ ms, e.2.IsWritable) {default a : α} (hdefault : P default)
    (hread : Decode.memberD ms key default read = some a) : P a := by
  unfold Decode.memberD at hread
  split at hread
  · cases hread
    exact hdefault
  · rename_i v hlookup
    exact h v a (isWritable_of_lookup hms hlookup) hread

theorem Ensures.member? (h : Ensures read P) (hms : ∀ e ∈ ms, e.2.IsWritable) {o : Option α}
    (hread : Decode.member? ms key read = some o) : ∀ a, o = some a → P a := by
  rintro a rfl
  unfold Decode.member? at hread
  split at hread
  · cases hread
  · cases hread
  · rename_i v hnull hlookup
    obtain ⟨a', hvalue, heq⟩ := Option.map_eq_some_iff.1 hread
    cases heq
    exact h v a (isWritable_of_lookup hms hlookup) hvalue

/-- A value that stands in an optional member as it is: JSON can write it, and it is not null, which counts as
absent. -/
def Kept (o : Option Value) : Prop := ∀ v, o = some v → v.IsWritable ∧ v ≠ .null

theorem kept_of_member? (hms : ∀ e ∈ ms, e.2.IsWritable) {o : Option Value}
    (h : Decode.member? ms key any = some o) : Kept o := by
  intro v hv
  refine ⟨ensures_any.member? hms h v hv, ?_⟩
  rintro rfl
  subst hv
  unfold Decode.member? at h
  split at h
  · cases h
  · cases h
  · rename_i v hnull hlookup
    have hv : writable v = v := isWritable_of_lookup hms hlookup
    have hread : writable v = .null := Option.some.inj (Option.some.inj h)
    exact hnull (hv.symm.trans hread)

theorem member?_any {o : Option Value} (hkept : Kept o) (hlookup : ms.lookup key = o) :
    Decode.member? ms key any = some o :=
  member?_of_lookup id (fun v hv => ⟨congrArg some (hkept v hv).1, (hkept v hv).2⟩)
    (by rw [hlookup, Option.map_id_apply])

end Members

end Decode
end EntityGraph.Json
