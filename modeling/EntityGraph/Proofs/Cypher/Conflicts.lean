import EntityGraph.Proofs.Cypher.Drafts
import Mathlib.Data.List.Chain

/-!
# Conflicting bindings

The steps of a builder bind parameters one after the other. A value conflicts if it differs from the one before it under
the same name. A builder without other misuses is misused exactly if some of its bindings conflict, no matter which
clauses come in between, and then it says so. Otherwise it holds the last value under each name.
-/
namespace EntityGraph.Cypher

/-- The values that are bound to a name, in their order. -/
def valuesOf (name : String) (bindings : List (String × Json.Value)) : List Json.Value :=
  (bindings.filter (fun e => e.1 = name)).map Prod.snd

/-- Whether each value that is bound to a name equals the one before it. -/
def Agreeing (bindings : List (String × Json.Value)) : Prop :=
  ∀ name, (valuesOf name bindings).IsChain (fun old value => old.same value = true)

theorem valuesOf_append (name : String) (bindings others : List (String × Json.Value)) :
    valuesOf name (bindings ++ others) = valuesOf name bindings ++ valuesOf name others := by
  simp [valuesOf]

theorem valuesOf_singleton (name other : String) (value : Json.Value) :
    valuesOf name [(other, value)] = if other = name then [value] else [] := by
  by_cases h : other = name <;> simp [valuesOf, h]

variable {bindings others : List (String × Json.Value)} {name : String} {value : Json.Value}

theorem agreeing_snoc_iff : Agreeing (bindings ++ [(name, value)]) ↔
    Agreeing bindings ∧ ∀ old, (valuesOf name bindings).getLast? = some old → old.same value = true := by
  unfold Agreeing
  simp only [valuesOf_append, valuesOf_singleton, List.isChain_append, forall_and]
  refine and_congr_right fun _ => ?_
  constructor
  · intro h old hold
    exact h.2 name old hold value (by simp)
  · intro h
    constructor
    · intro other
      split <;> simp
    · intro other old hold new hnew
      split at hnew
      · rename_i hname
        subst hname
        cases hnew
        exact h old hold
      · cases hnew

theorem Agreeing.of_append (h : Agreeing (bindings ++ others)) : Agreeing bindings := fun name =>
  (valuesOf_append name bindings others ▸ h name).left_of_append

/-- Whether one binding may come after another: its value equals the other one if it has the same name. -/
def MayFollow (e e' : String × Json.Value) : Prop := e.1 = e'.1 → e.2.same e'.2 = true

theorem mayFollow_of_ne {e e' : String × Json.Value} (h : e.1 ≠ e'.1) : MayFollow e e' := fun heq => absurd heq h

/-- Entries of a dictionary are bound under different names. -/
theorem pairwise_mayFollow_toList (d : Dict Json.Value) : d.toList.Pairwise MayFollow := by
  refine d.ascending.imp fun {e e'} hlt => mayFollow_of_ne fun heq => ?_
  exact String.lt_irrefl e'.1 (heq ▸ hlt)

/-- Bindings agree if all values under one name equal each other. -/
theorem agreeing_of_pairwise (h : bindings.Pairwise MayFollow) : Agreeing bindings := by
  intro name
  refine List.Pairwise.isChain (List.pairwise_map.2 (List.pairwise_filter.2 (h.imp ?_)))
  intro e e' hsame he he'
  exact hsame ((of_decide_eq_true he).trans (of_decide_eq_true he').symm)

namespace Builder

/-- Whether a builder is what bindings make of it: it holds the last value under each name, or it reports a conflict. -/
structure Tracks (b : Builder) (bindings : List (String × Json.Value)) : Prop where
  held : Agreeing bindings → b.misuse = none ∧ ∀ name, b.params.get? name = (valuesOf name bindings).getLast?
  conflict : ¬Agreeing bindings → ∃ name, b.misuse = some (.conflictingParameter name)

variable {b nested : Builder}

theorem tracks_forEntity (entity : String) (primary : Option String) : (forEntity entity primary).Tracks [] where
  held _ := ⟨rfl, fun _ => rfl⟩
  conflict h := absurd (fun _ => .nil) h

theorem bind_of_fresh (h : b.params.get? name = none) (value : Json.Value) :
    b.bind name value = { b with params := b.params.insert name value } := by
  unfold bind
  rw [h]

@[simp] theorem set_misuse (b : Builder) (items : List Assignment) : (b.set items).misuse = b.misuse := by
  unfold Builder.set
  split
  · rfl
  · exact push_misuse b _

theorem misuse_bind_of_misused {cause : ArgumentError} (h : b.misuse = some cause) (name : String)
    (value : Json.Value) : (b.bind name value).misuse = some cause := by
  unfold bind
  split
  · split
    · exact h
    · rw [fail, h, Option.some_or]
  · exact h

theorem Tracks.bind (h : b.Tracks bindings) (name : String) (value : Json.Value) :
    (b.bind name value).Tracks (bindings ++ [(name, value)]) := by
  constructor
  · intro hagreeing
    obtain ⟨hbefore, hsame⟩ := agreeing_snoc_iff.1 hagreeing
    obtain ⟨hmisuse, hparams⟩ := h.held hbefore
    have hbound : b.bind name value = { b with params := b.params.insert name value } := by
      unfold Builder.bind
      cases hold : b.params.get? name with
      | none => rfl
      | some old => exact if_pos (hsame old ((hparams name).symm.trans hold))
    rw [hbound]
    refine ⟨hmisuse, fun other => ?_⟩
    rw [Dict.get?_insert, valuesOf_append, valuesOf_singleton, hparams]
    by_cases hname : other = name
    · simp [hname]
    · simp [hname, Ne.symm hname]
  · intro hconflict
    by_cases hbefore : Agreeing bindings
    · obtain ⟨hmisuse, hparams⟩ := h.held hbefore
      rw [agreeing_snoc_iff, and_iff_right hbefore] at hconflict
      obtain ⟨old, hconflict⟩ := not_forall.1 hconflict
      obtain ⟨hold, hdiffers⟩ := Classical.not_imp.1 hconflict
      refine ⟨name, ?_⟩
      unfold Builder.bind
      rw [hparams, hold]
      simp [hdiffers, fail, hmisuse]
    · obtain ⟨other, hmisuse⟩ := h.conflict hbefore
      exact ⟨other, misuse_bind_of_misused hmisuse name value⟩

theorem Tracks.push (h : b.Tracks bindings) (k : Clause) : (b.push k).Tracks bindings := by
  constructor
  · rw [push_misuse, push_params]
    exact h.held
  · rw [push_misuse]
    exact h.conflict

theorem Tracks.set (h : b.Tracks bindings) (items : List Assignment) : (b.set items).Tracks bindings := by
  unfold Builder.set
  split
  · exact h
  · exact h.push _

theorem Tracks.bindAll (h : b.Tracks bindings) (params : Params) :
    (b.bindAll params).Tracks (bindings ++ params.toList) := by
  unfold Builder.bindAll
  induction params.toList generalizing b bindings with
  | nil => rwa [List.append_nil]
  | cons e rest ih =>
    rw [List.append_cons]
    exact ih (h.bind e.1 e.2)

/-- A subquery without misuses brings in its parameters. -/
theorem Tracks.subquery {s : Statement} (h : b.Tracks bindings) (hmisuse : nested.misuse = none)
    (hnested : nested.Holds s) (imports : List String) :
    (b.subquery imports nested).Tracks (bindings ++ s.params.toList) := by
  have hparams : nested.params = s.params := congrArg Statement.params (hnested hmisuse)
  unfold Builder.subquery
  simp only [hmisuse]
  split
  · rename_i hmisused
    have hconflict : ¬Agreeing bindings := by
      intro hagreeing
      rw [(h.held hagreeing).1] at hmisused
      cases hmisused
    exact ⟨fun hagreeing => absurd hagreeing.of_append hconflict, fun _ => h.conflict hconflict⟩
  · rw [hparams]
    exact (h.bindAll s.params).push _

/-- A builder that has a clause and was not misused otherwise is finished if its bindings agree, and reports a conflict
if they do not. -/
theorem Tracks.build (h : b.Tracks bindings) (k : Clause) :
    (Agreeing bindings → ∃ s, (b.push k).build = .ok s) ∧
      (¬Agreeing bindings → ∃ name, (b.push k).build = refuse (.conflictingParameter name)) := by
  unfold Builder.build
  rw [push_misuse]
  constructor
  · intro hagreeing
    rw [push_eq, (h.held hagreeing).1]
    exact ⟨_, by simp; rfl⟩
  · intro hconflict
    obtain ⟨name, hmisuse⟩ := h.conflict hconflict
    rw [hmisuse]
    exact ⟨name, rfl⟩

end Builder
end EntityGraph.Cypher
