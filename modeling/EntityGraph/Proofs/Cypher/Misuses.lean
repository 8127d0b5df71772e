import EntityGraph.Proofs.Cypher.Calls
import EntityGraph.Proofs.Cypher.Names
import EntityGraph.Proofs.Json.Equality
import Mathlib.Data.List.Find
import Mathlib.Logic.Relation

/-!
# The first misuse

A builder remembers the first call that misuses it and loses nothing of the others. What each call does to a builder is
compared with what the call asks for. As long as no call was a misuse the builder holds the clauses and the values of
the calls so far, and from the first misuse on it holds that misuse. A nested builder is one more run of calls.
-/
namespace EntityGraph.Cypher

open Json (Value)

theorem Clause.isSome_filtered? (k : Clause) (p : Predicate) : (k.filtered? p).isSome = k.guardable := by
  cases k <;> rfl

/-- The first new value that differs from the one held under its name. -/
def conflict? (held : Params) (new : List (String × Value)) : Option ArgumentError :=
  (new.find? (fun e => (held.get? e.1).any (fun old => !old.same e.2))).map (fun e => .conflictingParameter e.1)

mutual
/-- How a call is a misuse after others that are none. -/
def Call.misuse? (before : List Call) : Call → Option ArgumentError
  | .bind name value => conflict? (paramsOf before) [(name, value)]
  | .filter _ => if (clausesOf before).getLast?.any Clause.guardable then none else some .filterWithoutMatch
  | .subquery _ nested => (misuseAfter [] nested).or (conflict? (paramsOf before) (paramsOf nested).toList)
  | .page .. => if (clausesOf before).any Clause.isPageMarker then some .secondPageMarker else none
  | _ => none
/-- The first misuse among calls that follow others. -/
def misuseAfter (before : List Call) : List Call → Option ArgumentError
  | [] => none
  | call :: rest => (call.misuse? before).or (misuseAfter (before ++ [call]) rest)
end

/-- The first misuse among calls. -/
def misuseOf (calls : List Call) : Option ArgumentError := misuseAfter [] calls

theorem misuseAfter_append (before calls later : List Call) :
    misuseAfter before (calls ++ later) = (misuseAfter before calls).or (misuseAfter (before ++ calls) later) := by
  induction calls generalizing before with
  | nil => rw [List.nil_append, misuseAfter, Option.none_or, List.append_nil]
  | cons call rest ih => rw [List.cons_append, misuseAfter, misuseAfter, ih, Option.or_assoc, ← List.append_cons]

theorem misuseOf_append (calls later : List Call) :
    misuseOf (calls ++ later) = (misuseOf calls).or (misuseAfter calls later) := misuseAfter_append [] calls later

theorem misuseOf_snoc (before : List Call) (call : Call) :
    misuseOf (before ++ [call]) = (misuseOf before).or (call.misuse? before) := by
  rw [misuseOf_append, misuseAfter, misuseAfter, Option.or_none]

/-- The first misuse is that of a call before which there is none. -/
theorem misuseOf_eq_some_iff {calls : List Call} {cause : ArgumentError} :
    misuseOf calls = some cause ↔ ∃ before call later, calls = before ++ call :: later ∧ misuseOf before = none ∧
      call.misuse? before = some cause := by
  constructor
  · intro h
    induction calls using List.reverseRecOn with
    | nil => cases h
    | append_singleton before call ih =>
      rw [misuseOf_snoc] at h
      cases hbefore : misuseOf before with
      | none =>
        rw [hbefore, Option.none_or] at h
        exact ⟨before, call, [], rfl, hbefore, h⟩
      | some earlier =>
        rw [hbefore, Option.some_or] at h
        obtain ⟨before', call', later, rfl, hfirst⟩ := ih (hbefore.trans h)
        exact ⟨before', call', later ++ [call], by simp, hfirst⟩
  · rintro ⟨before, call, later, rfl, hbefore, hcall⟩
    rw [misuseOf_append, hbefore, Option.none_or, misuseAfter, hcall, Option.some_or]

/-! ## Values without conflict -/

/-- Whether equal values lead from one value to another. -/
def Akin (u v : Value) : Prop := Relation.ReflTransGen (fun u v => Value.same u v = true) u v

theorem Akin.refl (v : Value) : Akin v v := Relation.ReflTransGen.refl

theorem Akin.same {u v w : Value} (h : Akin u v) (hsame : v.same w = true) : Akin u w := h.tail hsame

/-- Nothing but itself is akin to a value without doubles. -/
theorem Akin.eq {u v : Value} (h : Akin u v) (hexact : u.exact = true) : v = u := by
  induction h with
  | refl => rfl
  | tail _ hsame ih =>
    subst ih
    exact (Value.eq_of_same _ _ (.inl hexact) hsame).symm

theorem conflict?_eq_none_iff {held : Params} {new : List (String × Value)} : conflict? held new = none ↔
    ∀ e ∈ new, ∀ old, held.get? e.1 = some old → old.same e.2 = true := by
  rw [conflict?, Option.map_eq_none_iff, List.find?_eq_none]
  refine forall₂_congr fun e _ => ?_
  cases held.get? e.1 <;> simp

theorem conflict?_cons {held : Params} {e : String × Value} {rest : List (String × Value)} (h : Ascending (e :: rest)) :
    conflict? held (e :: rest) = (conflict? held [e]).or (conflict? (held.insert e.1 e.2) rest) := by
  have hlater := (List.pairwise_cons.1 h).1
  have hrest : conflict? (held.insert e.1 e.2) rest = conflict? held rest := by
    unfold conflict?
    congr 1
    refine List.find?_congr fun e' he' => ?_
    have hne : e'.1 ≠ e.1 := fun heq => String.lt_irrefl e.1 (heq ▸ hlater e' he')
    rw [Dict.get?_insert, if_neg hne]
  rw [hrest]
  unfold conflict?
  simp only [List.find?_cons, List.find?_nil]
  split <;> simp

namespace Builder

variable {b : Builder} {before : List Call}

theorem fail_misuse (h : b.misuse = none) (cause : ArgumentError) : (b.fail cause).misuse = some cause := by
  rw [fail, h, Option.none_or]

theorem misuse_fail_of_misused {cause : ArgumentError} (h : b.misuse = some cause) (other : ArgumentError) :
    (b.fail other).misuse = some cause := by
  rw [fail, h, Option.some_or]

theorem misuse_bind (h : b.misuse = none) (name : String) (value : Value) :
    (b.bind name value).misuse = conflict? b.params [(name, value)] := by
  unfold Builder.bind conflict?
  cases hold : b.params.get? name with
  | none => simp [hold, h]
  | some old =>
    cases hsame : old.same value with
    | true => simp [hold, hsame, h]
    | false => simp [hold, hsame, fail_misuse h]

theorem misuse_foldl_of_misused {cause : ArgumentError} (h : b.misuse = some cause) (new : List (String × Value)) :
    (new.foldl (fun b e => b.bind e.1 e.2) b).misuse = some cause := by
  induction new generalizing b with
  | nil => exact h
  | cons e rest ih => exact ih (misuse_bind_of_misused h e.1 e.2)

/-- Values under different names are all taken over, or the first one that is in conflict is the misuse. -/
theorem foldl_bind (h : b.misuse = none) {new : List (String × Value)} (hnew : Ascending new) :
    (new.foldl (fun b e => b.bind e.1 e.2) b).misuse = conflict? b.params new ∧
      (conflict? b.params new = none → new.foldl (fun b e => b.bind e.1 e.2) b =
        { b with params := new.foldl (fun d e => d.insert e.1 e.2) b.params }) := by
  induction new generalizing b with
  | nil => exact ⟨h, fun _ => rfl⟩
  | cons e rest ih =>
    have hrest := (List.pairwise_cons.1 hnew).2
    rw [conflict?_cons hnew, List.foldl_cons, List.foldl_cons]
    cases hconflict : conflict? b.params [e] with
    | some cause =>
      -- The later values are still bound, but the misuse stays.
      have hmisuse := (misuse_bind h e.1 e.2).trans hconflict
      exact ⟨misuse_foldl_of_misused hmisuse rest, fun hnone => nomatch hnone⟩
    | none =>
      have hmisuse := (misuse_bind h e.1 e.2).trans hconflict
      have hbound := ((bind_cases b e.1 e.2).resolve_left fun hbad => hbad hmisuse).1
      rw [hbound, Option.none_or]
      exact ih (b := { b with params := b.params.insert e.1 e.2 }) h hrest

/-- A misuse stays whatever is called. -/
theorem misuse_call_of_misused {cause : ArgumentError} (h : b.misuse = some cause) (call : Call) :
    (b.call call).misuse = some cause := by
  cases call with
  | bind name value => exact misuse_bind_of_misused h name value
  | filter p => simp [call, filter, h]
  | subquery imports nested => simp [call, subquery, h]
  | page columns order distinct =>
    rw [call, page]
    split
    · exact misuse_fail_of_misused h _
    · exact (push_misuse b _).trans h
  | set items => exact (set_misuse b items).trans h
  | _ => exact (push_misuse b _).trans h

theorem filter_of_guardable (h : b.misuse = none) {ks : List Clause} {k : Clause} (hlast : b.clauses = ks ++ [k])
    (hguardable : k.guardable = true) (p : Predicate) : b.filter p = { b with clauses := ks ++ [k.guarded p] } := by
  obtain ⟨k', hk'⟩ := Option.isSome_iff_exists.1 ((k.isSome_filtered? p).trans hguardable)
  simp [filter, h, hlast, hk', Clause.guarded]

theorem filter_of_not_guardable (h : b.misuse = none) (hguardable : b.clauses.getLast?.any Clause.guardable = false)
    (p : Predicate) : b.filter p = b.fail .filterWithoutMatch := by
  have hnone : b.clauses.getLast?.bind (Clause.filtered? p) = none := by
    cases hlast : b.clauses.getLast? with
    | none => rfl
    | some k =>
      rw [hlast, Option.any_some, ← k.isSome_filtered? p] at hguardable
      exact Option.not_isSome_iff_eq_none.1 (by rw [Option.bind_some, hguardable]; exact Bool.false_ne_true)
  rw [filter, h, hnone]
  rfl

theorem subquery_of_misused {nested : Builder} {cause : ArgumentError} (h : b.misuse = none)
    (hnested : nested.misuse = some cause) (imports : List String) : b.subquery imports nested = b.fail cause := by
  rw [subquery, h, hnested]
  rfl

theorem subquery_of_clean {nested : Builder} (h : b.misuse = none) (hnested : nested.misuse = none)
    (imports : List String) :
    b.subquery imports nested = (b.bindAll nested.params).push (.subquery imports nested.clauses) := by
  rw [subquery, h, hnested]
  rfl

end Builder

/-! ## Values that are held -/

/-- Whether each value that was bound leads to one that is held, and nothing else is held. -/
structure Gathers (held bound : List (String × Value)) : Prop where
  leads : ∀ e ∈ bound, ∃ v, held.lookup e.1 = some v ∧ Akin e.2 v
  bound : ∀ e ∈ held, e ∈ bound

theorem gathers_nil : Gathers [] [] := ⟨by simp, by simp⟩

/-- New values that are not in conflict with those that are held take their places. -/
theorem Gathers.insert {d : Params} {bound new bound' : List (String × Value)} (h : Gathers d.toList bound)
    (hnew : Gathers new bound') (hascending : Ascending new) (hconflict : conflict? d new = none) :
    Gathers (new.foldl (fun d e => d.insert e.1 e.2) d).toList (bound ++ bound') := by
  have hget (name : String) : (new.foldl (fun d e => d.insert e.1 e.2) d).toList.lookup name =
      (new.lookup name).or (d.get? name) := Dict.get?_foldl_insert hascending d name
  constructor
  · intro e he
    rw [hget]
    rcases List.mem_append.1 he with he | he
    · obtain ⟨old, hold, hakin⟩ := h.leads e he
      cases hv : new.lookup e.1 with
      | none => exact ⟨old, hold, hakin⟩
      | some v =>
        obtain ⟨before, after, hentries, -⟩ := List.lookup_eq_some_iff.1 hv
        have hmem : (e.1, v) ∈ new := by rw [hentries]; simp
        exact ⟨v, rfl, hakin.same (conflict?_eq_none_iff.1 hconflict (e.1, v) hmem old hold)⟩
    · obtain ⟨v, hv, hakin⟩ := hnew.leads e he
      exact ⟨v, by rw [hv, Option.some_or], hakin⟩
  · intro e he
    have hlookup : (new.foldl (fun d e => d.insert e.1 e.2) d).get? e.1 = some e.2 := Dict.get?_of_mem he
    rw [Dict.get?, hget, Option.or_eq_some_iff] at hlookup
    rcases hlookup with hv | ⟨-, hold⟩
    · obtain ⟨before, after, hentries, -⟩ := List.lookup_eq_some_iff.1 hv
      exact List.mem_append_right _ (hnew.bound e (by rw [hentries]; simp))
    · exact List.mem_append_left _ (h.bound e (Dict.mem_of_get? hold))

theorem Call.ascending_bindings (call : Call) : Ascending call.bindings := by
  cases call with
  | bind name value => exact List.pairwise_singleton _ _
  | subquery imports nested => exact (paramsOf nested).ascending
  | _ => exact List.Pairwise.nil

theorem Call.conflict?_bindings {before : List Call} {call : Call} (h : call.misuse? before = none) :
    conflict? (paramsOf before) call.bindings = none := by
  cases call with
  | bind name value => exact h
  | subquery imports nested => exact (Option.or_eq_none_iff.1 h).2
  | _ => rfl

namespace Builder

variable {b nested : Builder} {before : List Call} {call : Call}

/-- Whether a builder is what calls make of an empty one: it holds what they ask for, or their first misuse. -/
structure Reflects (b : Builder) (calls : List Call) : Prop where
  misuse : b.misuse = misuseOf calls
  clauses : misuseOf calls = none → b.clauses = clausesOf calls
  params : misuseOf calls = none → b.params = paramsOf calls
  gathers : misuseOf calls = none → Gathers (paramsOf calls).toList (boundIn calls)

theorem reflects_opened (primary entity : Option String) : (opened primary entity).Reflects [] where
  misuse := rfl
  clauses _ := rfl
  params _ := rfl
  gathers _ := gathers_nil

theorem reflects_of_misused {calls : List Call} {cause : ArgumentError} (h : b.misuse = some cause)
    (hcalls : misuseOf calls = some cause) : b.Reflects calls := by
  have hmisused : misuseOf calls ≠ none := by rw [hcalls]; exact Option.some_ne_none cause
  exact ⟨h.trans hcalls.symm, fun hnone => absurd hnone hmisused, fun hnone => absurd hnone hmisused,
    fun hnone => absurd hnone hmisused⟩

/-- After calls without misuse the next call decides. -/
theorem Reflects.snoc {b' : Builder} (h : b.Reflects before) (hbefore : misuseOf before = none)
    (hmisuse : b'.misuse = call.misuse? before)
    (hclauses : call.misuse? before = none → b'.clauses = clausesOf (before ++ [call]))
    (hparams : call.misuse? before = none → b'.params = call.bindings.foldl (fun d e => d.insert e.1 e.2) b.params)
    (hgathers : call.misuse? before = none → Gathers call.bindings call.bound) : b'.Reflects (before ++ [call]) := by
  have hsnoc : misuseOf (before ++ [call]) = call.misuse? before := by rw [misuseOf_snoc, hbefore, Option.none_or]
  constructor <;> rw [hsnoc]
  · exact hmisuse
  · exact hclauses
  · intro hcall
    rw [hparams hcall, h.params hbefore, paramsOf_snoc]
  · intro hcall
    rw [paramsOf_snoc, boundIn_snoc]
    exact (h.gathers hbefore).insert (hgathers hcall) call.ascending_bindings (Call.conflict?_bindings hcall)

/-- A call that does no more than append a clause. -/
theorem Reflects.append (h : b.Reflects before) (hbefore : misuseOf before = none) {k : Clause}
    (hclause : call.clause? = some k) (hcall : call.misuse? before = none) (hbindings : call.bindings = [])
    (hbound : call.bound = []) : (b.push k).Reflects (before ++ [call]) := by
  have hmisuse : b.misuse = none := h.misuse.trans hbefore
  refine h.snoc hbefore ?_ (fun _ => ?_) (fun _ => ?_) (fun _ => ?_)
  · rw [push_misuse, hmisuse, hcall]
  · rw [push_eq, hmisuse, clausesOf_snoc_of_some hclause, ← h.clauses hbefore]
    rfl
  · rw [push_params, hbindings, List.foldl_nil]
  · rw [hbindings, hbound]
    exact gathers_nil

theorem Reflects.misused (h : b.Reflects before) (hbefore : misuseOf before = none) {cause : ArgumentError}
    (hcall : call.misuse? before = some cause) : (b.fail cause).Reflects (before ++ [call]) := by
  have hmisuse : b.misuse = none := h.misuse.trans hbefore
  exact reflects_of_misused (fail_misuse hmisuse cause) (by rw [misuseOf_snoc, hbefore, Option.none_or, hcall])

theorem Reflects.bind (h : b.Reflects before) (hbefore : misuseOf before = none) (name : String) (value : Value) :
    (b.bind name value).Reflects (before ++ [.bind name value]) := by
  have hmisuse : b.misuse = none := h.misuse.trans hbefore
  have hparams := h.params hbefore
  obtain ⟨hmisused, hbound⟩ := foldl_bind hmisuse (List.pairwise_singleton _ (name, value))
  rw [List.foldl_cons, List.foldl_nil, hparams] at hmisused hbound
  refine h.snoc hbefore hmisused (fun hcall => ?_) (fun hcall => ?_) (fun _ => ?_)
  · rw [clausesOf_snoc_of_none rfl rfl, ← h.clauses hbefore, hbound hcall]
  · rw [hparams, hbound hcall]
    rfl
  · refine ⟨fun e he => ⟨value, ?_, ?_⟩, fun e he => he⟩ <;> rw [List.mem_singleton.1 he]
    · exact List.lookup_cons_self
    · exact .refl value

theorem Reflects.filter (h : b.Reflects before) (hbefore : misuseOf before = none) (p : Predicate) :
    (b.filter p).Reflects (before ++ [.filter p]) := by
  have hmisuse : b.misuse = none := h.misuse.trans hbefore
  have hclauses := h.clauses hbefore
  cases hguardable : b.clauses.getLast?.any Clause.guardable with
  | false =>
    rw [filter_of_not_guardable hmisuse hguardable]
    rw [hclauses] at hguardable
    exact h.misused hbefore (by rw [Call.misuse?, hguardable]; rfl)
  | true =>
    obtain ⟨k, hk, hk'⟩ := (Option.any_eq_true _ _).1 hguardable
    obtain ⟨ks, hks⟩ := List.getLast?_eq_some_iff.1 hk
    have hcall : (Call.filter p).misuse? before = none := by rw [Call.misuse?, ← hclauses, hguardable]; rfl
    rw [filter_of_guardable hmisuse hks hk']
    refine h.snoc hbefore (hmisuse.trans hcall.symm) (fun _ => ?_) (fun _ => rfl) (fun _ => gathers_nil)
    exact (clausesOf_snoc_filter (hclauses.symm.trans hks) p).symm

theorem Reflects.page (h : b.Reflects before) (hbefore : misuseOf before = none) (columns : List Column)
    (order : List SortKey) (distinct : Bool) :
    (b.page columns order distinct).Reflects (before ++ [.page columns order distinct]) := by
  have hcall : (Call.page columns order distinct).misuse? before =
      if b.clauses.any Clause.isPageMarker then some .secondPageMarker else none := by
    rw [h.clauses hbefore, Call.misuse?]
  unfold Builder.page
  split
  · rename_i hmarked
    exact h.misused hbefore (by rw [hcall, if_pos hmarked])
  · rename_i hunmarked
    exact h.append hbefore rfl (by rw [hcall, if_neg hunmarked]) rfl rfl

theorem Reflects.set (h : b.Reflects before) (hbefore : misuseOf before = none) (items : List Assignment) :
    (b.set items).Reflects (before ++ [.set items]) := by
  unfold Builder.set
  split
  · rename_i hempty
    have hclause : (Call.set items).clause? = none := by rw [Call.clause?, if_pos hempty]
    refine h.snoc hbefore (h.misuse.trans hbefore) (fun _ => ?_) (fun _ => rfl) (fun _ => gathers_nil)
    rw [clausesOf_snoc_of_none hclause rfl, h.clauses hbefore]
  · rename_i hsome
    exact h.append hbefore (by rw [Call.clause?, if_neg hsome]) rfl rfl rfl

/-- A nested builder hands over its misuse, or else its clauses and the values that it holds. -/
theorem Reflects.subquery {calls : List Call} (h : b.Reflects before) (hbefore : misuseOf before = none)
    (hnested : nested.Reflects calls) (imports : List String) :
    (b.subquery imports nested).Reflects (before ++ [.subquery imports calls]) := by
  have hmisuse : b.misuse = none := h.misuse.trans hbefore
  have hparams := h.params hbefore
  cases hcalls : misuseOf calls with
  | some cause =>
    rw [subquery_of_misused hmisuse (hnested.misuse.trans hcalls)]
    exact h.misused hbefore (by rw [Call.misuse?, ← misuseOf, hcalls, Option.some_or])
  | none =>
    have hcall : (Call.subquery imports calls).misuse? before = conflict? b.params (paramsOf calls).toList := by
      rw [Call.misuse?, ← misuseOf, hcalls, Option.none_or, hparams]
    obtain ⟨hmisused, hbound⟩ := foldl_bind hmisuse (paramsOf calls).ascending
    rw [← hcall] at hmisused hbound
    rw [subquery_of_clean hmisuse (hnested.misuse.trans hcalls), hnested.params hcalls, hnested.clauses hcalls]
    refine h.snoc hbefore ?_ (fun hnone => ?_) (fun hnone => ?_) (fun _ => hnested.gathers hcalls)
    · exact (push_misuse _ _).trans hmisused
    · rw [bindAll, hbound hnone, push_eq, hmisuse, clausesOf_snoc_of_some rfl, ← h.clauses hbefore]
      rfl
    · rw [push_params, bindAll, hbound hnone]
      rfl

/-! ## Runs -/

theorem Reflects.step_of_misused (h : b.Reflects before) {cause : ArgumentError}
    (hbefore : misuseOf before = some cause) (call : Call) : (b.call call).Reflects (before ++ [call]) := by
  have hsnoc : misuseOf (before ++ [call]) = some cause := by rw [misuseOf_snoc, hbefore, Option.some_or]
  exact reflects_of_misused (misuse_call_of_misused (h.misuse.trans hbefore) call) hsnoc

mutual
/-- What a call does to a builder without misuse is what it asks for. -/
theorem Reflects.step {b : Builder} {before : List Call} (h : b.Reflects before) (hbefore : misuseOf before = none) :
    (call : Call) → (b.call call).Reflects (before ++ [call])
  | .bind name value => h.bind hbefore name value
  | .filter p => h.filter hbefore p
  | .subquery imports nested => h.subquery hbefore ((reflects_opened none none).run nested) imports
  | .page columns order distinct => h.page hbefore columns order distinct
  | .set items => h.set hbefore items
  | .matching _ _ => h.append hbefore rfl rfl rfl rfl
  | .procedure _ _ _ => h.append hbefore rfl rfl rfl rfl
  | .projection _ _ => h.append hbefore rfl rfl rfl rfl
  | .unwind _ _ => h.append hbefore rfl rfl rfl rfl
  | .create _ => h.append hbefore rfl rfl rfl rfl
  | .merge _ => h.append hbefore rfl rfl rfl rfl
  | .delete _ _ => h.append hbefore rfl rfl rfl rfl
  | .returning _ _ => h.append hbefore rfl rfl rfl rfl
  | .push _ => h.append hbefore rfl rfl rfl rfl
theorem Reflects.run {b : Builder} {before : List Call} (h : b.Reflects before) :
    (calls : List Call) → (b.run calls).Reflects (before ++ calls)
  | [] => by rwa [List.append_nil]
  | call :: rest => by
    rw [List.append_cons]
    -- A step is compared with what its call asks for only as long as there is no misuse to report.
    cases hbefore : misuseOf before with
    | some cause => exact (h.step_of_misused hbefore call).run rest
    | none => exact (h.step hbefore call).run rest
end

/-! ## What a statement is about -/

theorem about_push (b : Builder) (k : Clause) : (b.push k).primary = b.primary ∧ (b.push k).entity = b.entity := by
  rw [push_eq]
  split <;> exact ⟨rfl, rfl⟩

theorem about_bind (b : Builder) (name : String) (value : Value) :
    (b.bind name value).primary = b.primary ∧ (b.bind name value).entity = b.entity := by
  unfold Builder.bind
  split
  · split <;> exact ⟨rfl, rfl⟩
  · exact ⟨rfl, rfl⟩

theorem about_bindAll (b : Builder) (params : Params) :
    (b.bindAll params).primary = b.primary ∧ (b.bindAll params).entity = b.entity := by
  unfold bindAll
  induction params.toList generalizing b with
  | nil => exact ⟨rfl, rfl⟩
  | cons e rest ih =>
    obtain ⟨hprimary, hentity⟩ := about_bind b e.1 e.2
    rw [← hprimary, ← hentity]
    exact ih (b.bind e.1 e.2)

/-- No call changes what the statement is about. -/
theorem about_call (b : Builder) (call : Call) :
    (b.call call).primary = b.primary ∧ (b.call call).entity = b.entity := by
  cases call with
  | bind name value => exact about_bind b name value
  | filter p =>
    rw [Builder.call, Builder.filter]
    split
    · exact ⟨rfl, rfl⟩
    · split <;> exact ⟨rfl, rfl⟩
  | subquery imports nested =>
    rw [Builder.call, Builder.subquery]
    split
    · exact ⟨rfl, rfl⟩
    · split
      · exact ⟨rfl, rfl⟩
      · rw [(about_push _ _).1, (about_push _ _).2]
        exact about_bindAll b _
  | page columns order distinct =>
    rw [Builder.call, Builder.page]
    split
    · exact ⟨rfl, rfl⟩
    · exact about_push b _
  | set items =>
    rw [Builder.call, Builder.set]
    split
    · exact ⟨rfl, rfl⟩
    · exact about_push b _
  | _ => exact about_push b _

theorem about_run (b : Builder) (calls : List Call) :
    (b.run calls).primary = b.primary ∧ (b.run calls).entity = b.entity := by
  induction calls generalizing b with
  | nil => exact ⟨rfl, rfl⟩
  | cons call rest ih =>
    obtain ⟨hprimary, hentity⟩ := about_call b call
    rw [← hprimary, ← hentity]
    exact ih (b.call call)

end Builder

variable {primary entity : Option String} {calls : List Call}

theorem reflects_run (primary entity : Option String) (calls : List Call) :
    ((Builder.opened primary entity).run calls).Reflects calls :=
  (Builder.reflects_opened primary entity).run calls

/-- What a nested builder is about does not matter to the builder that absorbs it. -/
theorem subquery_run_opened (b : Builder) (imports : List String) (primary entity : Option String) (calls : List Call) :
    b.subquery imports ((Builder.opened primary entity).run calls) = b.call (.subquery imports calls) := by
  have hrun := reflects_run primary entity calls
  have hempty := reflects_run none none calls
  rw [Builder.call, show Builder.empty = Builder.opened none none from rfl]
  unfold Builder.subquery
  rw [hrun.misuse, hempty.misuse]
  cases hcalls : misuseOf calls with
  | some cause => rfl
  | none => rw [hrun.clauses hcalls, hempty.clauses hcalls, hrun.params hcalls, hempty.params hcalls]

theorem built_of_misused {cause : ArgumentError} (h : misuseOf calls = some cause) :
    built primary entity calls = refuse cause := by
  rw [built, Builder.build, (reflects_run primary entity calls).misuse, h]

/-- Calls without misuse build what they ask for unless they append no clause. -/
theorem built_of_clean (h : misuseOf calls = none) :
    built primary entity calls =
      if clausesOf calls = [] then refuse .emptyStatement
      else .ok ⟨clausesOf calls, paramsOf calls, primary, entity⟩ := by
  have hrun := reflects_run primary entity calls
  obtain ⟨hprimary, hentity⟩ := Builder.about_run (.opened primary entity) calls
  rw [built, Builder.build, hrun.misuse, h, hrun.clauses h, hrun.params h, hprimary, hentity]
  simp only [List.isEmpty_iff]
  rfl

theorem built_eq_refuse_iff {cause : ArgumentError} : built primary entity calls = refuse cause ↔
    misuseOf calls = some cause ∨ misuseOf calls = none ∧ clausesOf calls = [] ∧ cause = .emptyStatement := by
  cases hcalls : misuseOf calls with
  | some first => simp [built_of_misused hcalls, refuse]
  | none =>
    rw [built_of_clean hcalls]
    by_cases hnil : clausesOf calls = []
    · simp [hnil, refuse, eq_comm (a := cause)]
    · simp [hnil, refuse]

theorem built_eq_ok_iff {s : Statement} : built primary entity calls = .ok s ↔
    misuseOf calls = none ∧ clausesOf calls ≠ [] ∧ s = ⟨clausesOf calls, paramsOf calls, primary, entity⟩ := by
  cases hcalls : misuseOf calls with
  | some first => simp [built_of_misused hcalls, refuse]
  | none =>
    rw [built_of_clean hcalls]
    by_cases hnil : clausesOf calls = []
    · simp [hnil, refuse]
    · simp [hnil, eq_comm (a := s)]

theorem gathers_of_clean (h : misuseOf calls = none) : Gathers (paramsOf calls).toList (boundIn calls) :=
  (reflects_run none none calls).gathers h

/-- A builder reports the first of its calls that is a misuse of what the calls before it left, whatever is called
later, or that no call appended a clause. Otherwise its statement has the clauses of all calls, each with the predicates
of the filters behind it, and under each name that was bound, at any depth, the last one of values that are akin. -/
theorem built_iff (primary entity : Option String) (calls : List Call) :
    (∀ cause, built primary entity calls = refuse cause ↔
      (∃ before call later, calls = before ++ call :: later ∧ misuseOf before = none ∧
        call.misuse? before = some cause) ∨
      misuseOf calls = none ∧ (∀ call ∈ calls, call.appends = false) ∧ cause = .emptyStatement) ∧
    (misuseOf calls ≠ none → ∀ later, built primary entity (calls ++ later) = built primary entity calls) ∧
    (∀ s, built primary entity calls = .ok s ↔
      misuseOf calls = none ∧ (∃ call ∈ calls, call.appends = true) ∧
        s = ⟨clausesOf calls, paramsOf calls, primary, entity⟩) ∧
    (misuseOf calls = none →
      (∀ name value, (name, value) ∈ boundIn calls → ∃ held, (paramsOf calls).get? name = some held ∧
        Akin value held ∧ (value.exact = true → held = value)) ∧
      ∀ name held, (paramsOf calls).get? name = some held → (name, held) ∈ boundIn calls) := by
  refine ⟨fun cause => ?_, fun hmisused later => ?_, fun s => ?_, fun hclean => ⟨fun name value hbound => ?_, ?_⟩⟩
  · rw [built_eq_refuse_iff, misuseOf_eq_some_iff, clausesOf_eq_nil_iff]
  · obtain ⟨cause, hcause⟩ := Option.ne_none_iff_exists'.1 hmisused
    have hmore : misuseOf (calls ++ later) = some cause := by rw [misuseOf_append, hcause, Option.some_or]
    rw [built_of_misused hmore, built_of_misused hcause]
  · have happends : clausesOf calls ≠ [] ↔ ∃ call ∈ calls, call.appends = true := by simp [clausesOf_eq_nil_iff]
    rw [built_eq_ok_iff, happends]
  · obtain ⟨held, hheld, hakin⟩ := (gathers_of_clean hclean).leads (name, value) hbound
    exact ⟨held, hheld, hakin, hakin.eq⟩
  · exact fun name held hheld => (gathers_of_clean hclean).bound (name, held) (Dict.mem_of_get? hheld)

/-- Finds a tag by its id. -/
def tagById : List Call :=
  [.bind "id" (.str "t1"), .matching (.node (.labeled "tag" "Tag")) false,
    .filter (.eq (.prop "tag" "id") (.param "id"))]

/-- The clause of the match takes the test on the id. A subquery that binds another id is the first misuse, and a filter
behind it does not matter any more. -/
theorem built_iff_tagById :
    (∃ s, built none none tagById = .ok s ∧ s.params.get? "id" = some (.str "t1") ∧
      s.clauses = [.pattern (.node (.labeled "tag" "Tag")) false (some (.eq (.prop "tag" "id") (.param "id")))]) ∧
    built none none (tagById ++ [.subquery [] [.bind "id" (.str "t2"), .unwind (.param "id") "x"], .filter (.all [])]) =
      refuse (.conflictingParameter "id") := by
  constructor
  · exact ⟨_, ((built_iff none none tagById).2.2.1 _).2 ⟨rfl, ⟨_, .tail _ (.head _), rfl⟩, rfl⟩, rfl, rfl⟩
  · exact ((built_iff none none _).1 _).2 (.inl ⟨tagById, _, _, rfl, rfl, rfl⟩)

end EntityGraph.Cypher
