import EntityGraph.Proofs.Cypher.Conflicts

/-!
# Calls on a builder

A statement is made by calls on a builder, and a subquery by calls on a builder of its own that another call absorbs.
What calls ask for is read off them: the clauses that they append, each with the predicates of the filters behind it,
and the values that they bind. Whether a call is a misuse depends on the calls before it.
-/
namespace EntityGraph.Cypher

/-- A call on a builder. -/
inductive Call where
  | bind (name : String) (value : Json.Value)
  | matching (p : Pattern) (optional : Bool)
  | filter (p : Predicate)
  | procedure (name : String) (args : List Expr) (yields : List String)
  /-- Absorbs the builder that further calls make from an empty one. -/
  | subquery (imports : List String) (nested : List Call)
  | projection (columns : List Column) (distinct : Bool)
  | page (columns : List Column) (order : List SortKey) (distinct : Bool)
  | unwind (list : Expr) (binder : String)
  | create (p : Pattern)
  | merge (p : Pattern)
  | set (items : List Assignment)
  | delete (vars : List String) (detach : Bool)
  | returning (columns : List Column) (order : List SortKey)
  | push (k : Clause)

mutual
/-- The builder after a call. -/
def Builder.call (b : Builder) : Call → Builder
  | .bind name value => b.bind name value
  | .matching p optional => b.matching p optional
  | .filter p => b.filter p
  | .procedure name args yields => b.procedure name args yields
  | .subquery imports nested => b.subquery imports (Builder.run .empty nested)
  | .projection columns distinct => b.projection columns distinct
  | .page columns order distinct => b.page columns order distinct
  | .unwind list binder => b.unwind list binder
  | .create p => b.create p
  | .merge p => b.merge p
  | .set items => b.set items
  | .delete vars detach => b.delete vars detach
  | .returning columns order => b.returning columns order
  | .push k => b.push k
/-- The builder after calls. -/
def Builder.run (b : Builder) : List Call → Builder
  | [] => b
  | call :: rest => Builder.run (b.call call) rest
end

/-- A builder before the first call. -/
def Builder.opened (primary entity : Option String) : Builder := ⟨[], ∅, primary, entity, none⟩

/-- What comes of calls on a new builder. -/
def built (primary entity : Option String) (calls : List Call) : Result Statement :=
  ((Builder.opened primary entity).run calls).build

/-! ## Clauses -/

/-- The predicate that a call joins to the clause before it. -/
def Call.predicate? : Call → Option Predicate
  | .filter p => some p
  | _ => none

/-- Whether a call appends a clause. -/
def Call.appends : Call → Bool
  | .bind .. => false
  | .filter _ => false
  | .set items => !items.isEmpty
  | _ => true

/-- The predicates for the clause before some calls: those of the filters up to the next call that appends a clause. -/
def predicatesOf (calls : List Call) : List Predicate :=
  (calls.takeWhile (fun call => !call.appends)).filterMap Call.predicate?

mutual
/-- The clause that a call appends. -/
def Call.clause? : Call → Option Clause
  | .bind .. => none
  | .matching p optional => some (.pattern p optional none)
  | .filter _ => none
  | .procedure name args yields => some (.procedure name args yields)
  | .subquery imports nested => some (.subquery imports (clausesOf nested))
  | .projection columns distinct => some (.projection columns distinct none [] false)
  | .page columns order distinct => some (.projection columns distinct none order true)
  | .unwind list binder => some (.unwind list binder)
  | .create p => some (.create p)
  | .merge p => some (.merge p)
  | .set items => if items.isEmpty then none else some (.set items)
  | .delete vars detach => some (.delete vars detach)
  | .returning columns order => some (.returning columns false order)
  | .push k => some k
/-- The clauses that calls append, in their order, each with the predicates for it. -/
def clausesOf : List Call → List Clause
  | [] => []
  | call :: rest => (call.clause?.map (fun k => k.guardedBy (predicatesOf rest))).toList ++ clausesOf rest
end

theorem Call.isSome_clause? (call : Call) : call.clause?.isSome = call.appends := by
  cases call with
  | set items => cases h : items.isEmpty <;> simp [clause?, appends, h]
  | _ => simp [clause?, appends]

theorem clausesOf_cons (call : Call) (rest : List Call) :
    clausesOf (call :: rest) = (call.clause?.map (·.guardedBy (predicatesOf rest))).toList ++ clausesOf rest := by
  rw [clausesOf]

theorem clausesOf_eq_nil_iff {calls : List Call} :
    clausesOf calls = [] ↔ ∀ call ∈ calls, call.appends = false := by
  induction calls with
  | nil => simp [clausesOf]
  | cons call rest ih =>
    rw [clausesOf_cons, List.append_eq_nil_iff, ih, List.forall_mem_cons, ← call.isSome_clause?]
    cases call.clause? <;> simp

variable {before : List Call} {call : Call}

theorem predicatesOf_cons (call : Call) (rest : List Call) :
    predicatesOf (call :: rest) = if call.appends then [] else call.predicate?.toList ++ predicatesOf rest := by
  cases h : call.appends with
  | true => simp [predicatesOf, h]
  | false => cases hp : call.predicate? <;> simp [predicatesOf, h, hp]

theorem predicatesOf_snoc_of_none (h : call.predicate? = none) (calls : List Call) :
    predicatesOf (calls ++ [call]) = predicatesOf calls := by
  induction calls with
  | nil =>
    rw [List.nil_append, predicatesOf_cons, h]
    split <;> rfl
  | cons c rest ih => rw [List.cons_append, predicatesOf_cons, predicatesOf_cons, ih]

theorem predicatesOf_snoc_filter (calls : List Call) (p : Predicate) :
    predicatesOf (calls ++ [.filter p]) = predicatesOf calls ++ if clausesOf calls = [] then [p] else [] := by
  induction calls with
  | nil => rfl
  | cons c rest ih =>
    rw [List.cons_append, predicatesOf_cons, predicatesOf_cons, ih]
    simp only [clausesOf_eq_nil_iff, List.forall_mem_cons]
    cases c.appends <;> simp

/-- A clause that is appended stands behind all others. -/
theorem clausesOf_snoc_of_some {k : Clause} (h : call.clause? = some k) :
    clausesOf (before ++ [call]) = clausesOf before ++ [k] := by
  have hnone : call.predicate? = none := by
    cases call <;> first | rfl | simp [Call.clause?] at h
  induction before with
  | nil => simp [clausesOf, h, predicatesOf]
  | cons c rest ih =>
    rw [List.cons_append, clausesOf_cons, clausesOf_cons, ih, predicatesOf_snoc_of_none hnone, List.append_assoc]

theorem clausesOf_snoc_of_none (h : call.clause? = none) (hnone : call.predicate? = none) :
    clausesOf (before ++ [call]) = clausesOf before := by
  induction before with
  | nil => simp [clausesOf, h]
  | cons c rest ih => rw [List.cons_append, clausesOf_cons, clausesOf_cons, ih, predicatesOf_snoc_of_none hnone]

/-- A filter goes to the last clause. -/
theorem clausesOf_snoc_filter {ks : List Clause} {k : Clause} (h : clausesOf before = ks ++ [k]) (p : Predicate) :
    clausesOf (before ++ [.filter p]) = ks ++ [k.guarded p] := by
  induction before generalizing ks with
  | nil => simp [clausesOf] at h
  | cons c rest ih =>
    rw [List.cons_append, clausesOf_cons, predicatesOf_snoc_filter]
    rw [clausesOf_cons] at h
    -- The last clause is that of `c` only if the calls behind it append none.
    by_cases hrest : clausesOf rest = []
    · have hsame : clausesOf (rest ++ [.filter p]) = [] := by
        rw [clausesOf_eq_nil_iff] at hrest ⊢
        simpa [or_imp, forall_and, Call.appends] using hrest
      rw [hrest, List.append_nil] at h
      rw [if_pos hrest, hsame, List.append_nil]
      cases hc : c.clause? with
      | none => simp [hc] at h
      | some k' =>
        rw [hc, Option.map_some, Option.toList_some, ← List.nil_append [_]] at h
        obtain ⟨hks, hk⟩ := List.append_inj' h rfl
        rw [Option.map_some, Option.toList_some, Clause.guardedBy_append, ← hks, ← List.singleton_inj.1 hk]
        rfl
    · obtain ⟨ks', k', hlast⟩ := (List.eq_nil_or_concat' (clausesOf rest)).resolve_left hrest
      rw [hlast, ← List.append_assoc] at h
      obtain ⟨hks, hk⟩ := List.append_inj' h rfl
      rw [if_neg hrest, List.append_nil, ← hks, List.append_assoc, ih (hlast.trans (congrArg _ hk))]

/-! ## Parameters -/

mutual
/-- The values that a call binds. A builder that is absorbed hands over the last value under each of its names. -/
def Call.bindings : Call → List (String × Json.Value)
  | .bind name value => [(name, value)]
  | .subquery _ nested => (Dict.ofList (bindingsOf nested)).toList
  | _ => []
/-- The values that calls bind, in their order. -/
def bindingsOf : List Call → List (String × Json.Value)
  | [] => []
  | call :: rest => call.bindings ++ bindingsOf rest
end

/-- The last value under each name that calls bind. -/
def paramsOf (calls : List Call) : Params := Dict.ofList (bindingsOf calls)

mutual
/-- The names and values of the bindings in a call, also of those on a nested builder. -/
def Call.bound : Call → List (String × Json.Value)
  | .bind name value => [(name, value)]
  | .subquery _ nested => boundIn nested
  | _ => []
/-- The names and values of the bindings in calls, at any depth. -/
def boundIn : List Call → List (String × Json.Value)
  | [] => []
  | call :: rest => call.bound ++ boundIn rest
end

theorem bindingsOf_snoc (calls : List Call) (call : Call) :
    bindingsOf (calls ++ [call]) = bindingsOf calls ++ call.bindings := by
  induction calls with
  | nil => simp [bindingsOf]
  | cons c rest ih => rw [List.cons_append, bindingsOf, bindingsOf, ih, List.append_assoc]

theorem boundIn_snoc (calls : List Call) (call : Call) : boundIn (calls ++ [call]) = boundIn calls ++ call.bound := by
  induction calls with
  | nil => simp [boundIn]
  | cons c rest ih => rw [List.cons_append, boundIn, boundIn, ih, List.append_assoc]

theorem paramsOf_snoc (calls : List Call) (call : Call) :
    paramsOf (calls ++ [call]) = call.bindings.foldl (fun d e => d.insert e.1 e.2) (paramsOf calls) := by
  rw [paramsOf, bindingsOf_snoc, Dict.ofList, List.foldl_append]
  rfl

end EntityGraph.Cypher
