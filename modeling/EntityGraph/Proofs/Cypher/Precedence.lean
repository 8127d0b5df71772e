import EntityGraph.Proofs.Cypher.Formulas
import EntityGraph.Proofs.Cypher.Misuses
import EntityGraph.Proofs.Text.Joined

/-!
# Predicates read back

The text of a predicate has parentheses around its disjunctions and negated parts only, and the rules of precedence
supply the others: its text is read as one formula, which is true, false or unknown as the predicate is, whatever its
comparisons are. Filters join predicates to the one that a clause has, and the clause then asks for all of them.
-/
namespace EntityGraph.Cypher

open EntityGraph.Graph (allOf anyOf)

/-! ## Predicates as combinations of atoms -/

namespace Predicate

/-- Whether a predicate is a comparison or an `EXISTS`. -/
def isAtom : Predicate → Bool
  | .all _ => false
  | .any _ => false
  | .not _ => false
  | _ => true

mutual
/-- Whether every conjunction and disjunction in a predicate has parts. -/
def Proper : Predicate → Prop
  | .all parts => parts ≠ [] ∧ AllProper parts
  | .any parts => parts ≠ [] ∧ AllProper parts
  | .not p => p.Proper
  | _ => True
def AllProper : List Predicate → Prop
  | [] => True
  | p :: rest => p.Proper ∧ AllProper rest
end

mutual
/-- The truth of a predicate over three values, for an assignment to its atoms. -/
def meaning (v : Predicate → Option Bool) : Predicate → Option Bool
  | .all parts => allOf (meanings v parts)
  | .any parts => anyOf (meanings v parts)
  | .not p => (p.meaning v).map Bool.not
  | p => v p
def meanings (v : Predicate → Option Bool) : List Predicate → List (Option Bool)
  | [] => []
  | p :: rest => p.meaning v :: meanings v rest
end

mutual
/-- The tokens of the text of a predicate. -/
def tokens : Predicate → List (Token Predicate)
  | .all parts => [.and].intercalate (tokenLists parts)
  | .any parts => .opening :: [.or].intercalate (tokenLists parts) ++ [.closing]
  | .not p => .not :: .opening :: p.tokens ++ [.closing]
  | p => [.atom p]
def tokenLists : List Predicate → List (List (Token Predicate))
  | [] => []
  | p :: rest => p.tokens :: tokenLists rest
end

theorem allProper_iff {ps : List Predicate} : AllProper ps ↔ ∀ p ∈ ps, p.Proper := by
  induction ps with
  | nil => simp [AllProper]
  | cons p rest ih => rw [AllProper, ih, List.forall_mem_cons]

theorem meanings_eq_map (v : Predicate → Option Bool) (ps : List Predicate) : meanings v ps = ps.map (meaning v) := by
  induction ps with
  | nil => rfl
  | cons p rest ih => rw [meanings, ih, List.map_cons]

theorem tokenLists_eq_map (ps : List Predicate) : tokenLists ps = ps.map tokens := by
  induction ps with
  | nil => rfl
  | cons p rest ih => rw [tokenLists, ih, List.map_cons]

theorem predicateTexts_eq_map (ps : List Predicate) : predicateTexts ps = ps.map text := by
  induction ps with
  | nil => rfl
  | cons p rest ih => rw [predicateTexts, ih, List.map_cons]

theorem predicateTruths_eq_map (x : Graph.Context) (env : Graph.Env) (ps : List Predicate) :
    predicateTruths x env ps = ps.map (truth x env) := by
  induction ps with
  | nil => rfl
  | cons p rest ih => rw [predicateTruths, ih, List.map_cons]

mutual
/-- Induction on the connectives of a predicate. -/
theorem connective_induction {motive : Predicate → Prop} (atom : ∀ p, p.isAtom = true → motive p)
    (all : ∀ parts, (∀ p ∈ parts, motive p) → motive (.all parts))
    (any : ∀ parts, (∀ p ∈ parts, motive p) → motive (.any parts)) (not : ∀ p, motive p → motive (.not p)) :
    (p : Predicate) → motive p
  | .all parts => all parts (connective_induction_parts atom all any not parts)
  | .any parts => any parts (connective_induction_parts atom all any not parts)
  | .not p => not p (connective_induction atom all any not p)
  | .eq .. => atom _ rfl
  | .gt .. => atom _ rfl
  | .isIn .. => atom _ rfl
  | .isNull _ => atom _ rfl
  | .isNotNull _ => atom _ rfl
  | .hasLabel .. => atom _ rfl
  | .inLabels .. => atom _ rfl
  | .exists _ => atom _ rfl
theorem connective_induction_parts {motive : Predicate → Prop} (atom : ∀ p, p.isAtom = true → motive p)
    (all : ∀ parts, (∀ p ∈ parts, motive p) → motive (.all parts))
    (any : ∀ parts, (∀ p ∈ parts, motive p) → motive (.any parts)) (not : ∀ p, motive p → motive (.not p)) :
    (ps : List Predicate) → ∀ p ∈ ps, motive p
  | [] => by simp
  | p :: rest => List.forall_mem_cons.2
    ⟨connective_induction atom all any not p, connective_induction_parts atom all any not rest⟩
end

theorem tokens_of_isAtom {p : Predicate} (h : p.isAtom = true) : p.tokens = [.atom p] := by
  cases p <;> first | rfl | cases h

theorem meaning_of_isAtom {p : Predicate} (h : p.isAtom = true) (v : Predicate → Option Bool) : p.meaning v = v p := by
  cases p <;> first | rfl | cases h

/-- In a row of a graph, a predicate is as true as its comparisons make it. -/
theorem truth_eq_meaning (x : Graph.Context) (env : Graph.Env) (p : Predicate) :
    p.truth x env = p.meaning (truth x env) := by
  induction p using connective_induction with
  | atom p hp => rw [meaning_of_isAtom hp]
  | all parts ih => rw [truth, meaning, predicateTruths_eq_map, meanings_eq_map, List.map_congr_left ih]
  | any parts ih => rw [truth, meaning, predicateTruths_eq_map, meanings_eq_map, List.map_congr_left ih]
  | not p ih =>
    rw [truth, meaning, ← ih]

end Predicate

/-! ## The text read back -/

/-- The characters of a sign. -/
def Sign.spelled : Sign Predicate → List Char
  | .char c => [c]
  | .atom p => p.text.toList

/-- Parts whose readings can be joined by a token are read together, where truth goes from part to part. -/
theorem Reads.of_parts {b : Binding} {t : Token Predicate} {op : List (Option Bool) → Option Bool}
    (hsingleton : ∀ x, op [x] = x) (hcons : ∀ x xs, op (x :: xs) = op [x, op xs])
    (hjoin : ∀ {ts us f g}, Reads b ts f → Reads b us g →
      ∃ k, Reads b (ts ++ t :: us) k ∧ ∀ v, k.truth v = op [f.truth v, g.truth v])
    {ps : List Predicate} (hne : ps ≠ []) (h : ∀ p ∈ ps, ∃ f, Reads b p.tokens f ∧ ∀ v, f.truth v = p.meaning v) :
    ∃ f, Reads b ([t].intercalate (ps.map Predicate.tokens)) f ∧
      ∀ v, f.truth v = op (ps.map (Predicate.meaning v)) := by
  induction ps with
  | nil => exact absurd rfl hne
  | cons p rest ih =>
    obtain ⟨⟨f, hf, hmeaning⟩, hrest⟩ := List.forall_mem_cons.1 h
    cases rest with
    | nil => exact ⟨f, by simpa using hf, fun v => by simp [hsingleton, hmeaning]⟩
    | cons q rest =>
      obtain ⟨g, hg, htruth⟩ := ih (List.cons_ne_nil q rest) hrest
      obtain ⟨k, hk, hboth⟩ := hjoin hf hg
      refine ⟨k, ?_, fun v => ?_⟩
      · rw [List.map_cons, List.map_cons, List.intercalate_cons_cons, List.append_assoc]
        exact hk
      · rw [hboth, hmeaning, htruth, ← hcons, List.map_cons (l := q :: rest)]

namespace Predicate

/-- The text of a predicate, where each atom is one sign. -/
def signs (p : Predicate) : List (Sign Predicate) := p.tokens.flatMap Token.signs

/-- Whether the text of a predicate, read back, means what the predicate means. -/
structure ReadsBack (p : Predicate) : Prop where
  /-- The signs are the text, with each comparison and each `EXISTS` taken as a whole. -/
  spelled : p.signs.flatMap Sign.spelled = p.text.toList
  atoms : ∀ a, .atom a ∈ p.signs → a.isAtom = true
  /-- The text is read as one formula and no other, which is true, false or unknown as the predicate is. -/
  read : ∃ f, (∀ g, ReadsAs p.signs g ↔ g = f) ∧ ∀ v, f.truth v = p.meaning v

theorem spelled_signs (p : Predicate) : p.signs.flatMap Sign.spelled = p.text.toList := by
  have hparts {ps : List Predicate} (h : ∀ p ∈ ps, p.signs.flatMap Sign.spelled = p.text.toList)
      (sep : Token Predicate) : (([sep].intercalate (ps.map tokens)).flatMap Token.signs).flatMap Sign.spelled =
        (sep.signs.flatMap Sign.spelled).intercalate (ps.map (String.toList ∘ text)) := by
    rw [Text.flatMap_intercalate, Text.flatMap_intercalate, List.flatMap_singleton, List.map_map, List.map_map]
    exact congrArg _ (List.map_congr_left h)
  induction p using connective_induction with
  | atom p hp => simp [signs, tokens_of_isAtom hp, Token.signs, Sign.spelled]
  | all parts ih =>
    have htext : (Predicate.all parts).text = " AND ".intercalate (parts.map text) := by
      rw [← predicateTexts_eq_map]
      rfl
    rw [signs, tokens, tokenLists_eq_map, hparts ih, htext, String.toList_intercalate, List.map_map]
    rfl
  | any parts ih =>
    have htext : (Predicate.any parts).text = "(" ++ " OR ".intercalate (parts.map text) ++ ")" := by
      rw [← predicateTexts_eq_map]
      rfl
    rw [signs, tokens, tokenLists_eq_map, List.cons_append, List.flatMap_cons, List.flatMap_append, List.flatMap_append,
      List.flatMap_append, hparts ih, htext, String.toList_append, String.toList_append, String.toList_intercalate,
      List.map_map, List.append_assoc]
    rfl
  | not p ih =>
    have htext : (Predicate.not p).text = "NOT (" ++ p.text ++ ")" := rfl
    rw [signs] at ih
    simp [signs, tokens, ih, htext, Token.signs, Sign.spelled]

theorem isAtom_of_mem_tokens {p a : Predicate} (h : .atom a ∈ p.tokens) : a.isAtom = true := by
  have hparts {ps : List Predicate} (hps : ∀ p ∈ ps, .atom a ∈ p.tokens → a.isAtom = true) (sep : Token Predicate)
      (hsep : sep ≠ .atom a) (h : .atom a ∈ [sep].intercalate (ps.map tokens)) : a.isAtom = true := by
    rcases Text.mem_of_mem_intercalate h with h | ⟨ts, hts, h⟩
    · exact absurd (List.mem_singleton.1 h).symm hsep
    · obtain ⟨p, hp, rfl⟩ := List.mem_map.1 hts
      exact hps p hp h
  induction p using connective_induction with
  | atom p hp =>
    rw [tokens_of_isAtom hp, List.mem_singleton, Token.atom.injEq] at h
    rwa [h]
  | all parts ih =>
    rw [tokens, tokenLists_eq_map] at h
    exact hparts ih .and (by simp) h
  | any parts ih =>
    rw [tokens, tokenLists_eq_map] at h
    exact hparts ih .or (by simp) (by simpa using h)
  | not p ih => exact ih (by simpa [tokens] using h)

theorem isAtom_of_mem_signs {p a : Predicate} (h : .atom a ∈ p.signs) : a.isAtom = true := by
  obtain ⟨t, ht, hsign⟩ := List.mem_flatMap.1 h
  cases t with
  | atom b =>
    rw [Token.signs, List.mem_singleton, Sign.atom.injEq] at hsign
    rw [hsign]
    exact isAtom_of_mem_tokens ht
  | _ => simp [Token.signs] at hsign

/-- The text of a predicate can stand between `AND`s as it is. -/
theorem exists_reads {p : Predicate} (h : p.Proper) :
    ∃ f, Reads .conjunction p.tokens f ∧ ∀ v, f.truth v = p.meaning v := by
  induction p using connective_induction with
  | atom p hp =>
    rw [tokens_of_isAtom hp]
    exact ⟨.atom p, .ofNegation (.ofOperand (.atom p)), fun v => (meaning_of_isAtom hp v).symm⟩
  | all parts ih =>
    obtain ⟨hne, hparts⟩ := h
    rw [tokens, tokenLists_eq_map]
    simp only [meaning, meanings_eq_map]
    exact Reads.of_parts allOf_singleton allOf_cons Reads.conjoin hne fun p hp => ih p hp (allProper_iff.1 hparts p hp)
  | any parts ih =>
    obtain ⟨hne, hparts⟩ := h
    have hreads : ∀ p ∈ parts, ∃ f, Reads .disjunction p.tokens f ∧ ∀ v, f.truth v = p.meaning v := by
      intro p hp
      obtain ⟨f, hf, htruth⟩ := ih p hp (allProper_iff.1 hparts p hp)
      exact ⟨f, hf.ofConjunction, htruth⟩
    obtain ⟨f, hf, htruth⟩ := Reads.of_parts anyOf_singleton anyOf_cons Reads.disjoin hne hreads
    rw [tokens, tokenLists_eq_map]
    simp only [meaning, meanings_eq_map]
    exact ⟨f, .ofNegation (.ofOperand (.group hf)), htruth⟩
  | not p ih =>
    obtain ⟨f, hf, htruth⟩ := ih h
    refine ⟨f.not, .ofNegation (.not (.ofOperand (.group hf.ofConjunction))), fun v => ?_⟩
    rw [Formula.truth, htruth, meaning]

theorem readsBack {p : Predicate} (h : p.Proper) : p.ReadsBack where
  spelled := p.spelled_signs
  atoms _ := isAtom_of_mem_signs
  read := by
    obtain ⟨f, hf, htruth⟩ := exists_reads h
    exact ⟨f, readsAs_iff (tokens?_signs p.tokens) hf.ofConjunction, htruth⟩

/-! ## Predicates that are joined -/

theorem meaning_and (p q : Predicate) (v : Predicate → Option Bool) :
    (p.and q).meaning v = allOf [p.meaning v, q.meaning v] := by
  cases p with
  | all parts =>
    rw [Predicate.and, meaning, meaning, meanings_eq_map, meanings_eq_map, List.map_append, allOf_append,
      List.map_singleton, allOf_singleton]
  | _ => rfl

theorem proper_and {p q : Predicate} (hp : p.Proper) (hq : q.Proper) : (p.and q).Proper := by
  cases p with
  | all parts =>
    have hparts : ∀ r ∈ parts ++ [q], r.Proper := by
      intro r hr
      rcases List.mem_append.1 hr with hr | hr
      · exact allProper_iff.1 hp.2 r hr
      · rwa [List.mem_singleton.1 hr]
    exact ⟨List.append_ne_nil_of_right_ne_nil parts (List.cons_ne_nil q []), allProper_iff.2 hparts⟩
  | _ => exact ⟨List.cons_ne_nil _ _, hp, hq, trivial⟩

end Predicate

/-- The predicate of a clause. -/
def Clause.condition : Clause → Option Predicate
  | .pattern _ _ predicate => predicate
  | .projection _ _ predicate _ _ => predicate
  | _ => none

/-- Whether a predicate, if there is one, asks for all of some predicates. -/
structure Conjoins (condition : Option Predicate) (ps : List Predicate) : Prop where
  present : condition = none ↔ ps = []
  meaning : ∀ q, condition = some q → ∀ v, q.meaning v = allOf (ps.map (Predicate.meaning v))
  /-- No empty part comes in by joining. -/
  proper : (∀ p ∈ ps, p.Proper) → ∀ q, condition = some q → q.Proper

theorem conjoins_toList (condition : Option Predicate) : Conjoins condition condition.toList where
  present := by cases condition <;> simp
  meaning q hq v := by rw [hq, Option.toList_some, List.map_singleton, allOf_singleton]
  proper h q hq := h q (by rw [hq, Option.toList_some]; exact List.mem_singleton_self q)

theorem Conjoins.snoc {condition : Option Predicate} {ps : List Predicate} (h : Conjoins condition ps) (p : Predicate) :
    Conjoins (some (joined condition p)) (ps ++ [p]) := by
  cases condition with
  | none =>
    rw [h.present.1 rfl]
    exact conjoins_toList (some p)
  | some q =>
    refine ⟨by simp, ?_, ?_⟩
    · intro _ hq v
      rw [← Option.some_inj.1 hq, joined, q.meaning_and, h.meaning q rfl, List.map_append, allOf_append,
        List.map_singleton, allOf_singleton]
    · intro hall _ hq
      obtain ⟨hps, hp⟩ := List.forall_mem_append.1 hall
      rw [← Option.some_inj.1 hq]
      exact Predicate.proper_and (h.proper hps q rfl) (hp p (List.mem_singleton_self p))

theorem Clause.condition_guarded {k : Clause} (h : k.guardable = true) (p : Predicate) :
    (k.guarded p).condition = some (joined k.condition p) := by
  cases k <;> first | rfl | cases h

/-- Joined one by one, predicates come together with the one of the clause. -/
theorem Clause.conjoins_guardedBy {k : Clause} (h : k.guardable = true) (ps : List Predicate) :
    Conjoins (k.guardedBy ps).condition (k.condition.toList ++ ps) := by
  induction ps using List.reverseRecOn with
  | nil => simpa using conjoins_toList k.condition
  | append_singleton ps p ih =>
    rw [k.guardedBy_append, Clause.guardedBy_cons, Clause.guardedBy_nil,
      condition_guarded ((k.guardable_guardedBy ps).trans h), ← List.append_assoc]
    exact ih.snoc p

namespace Builder

variable {b : Builder} {ks : List Clause} {k : Clause} {call : Call} {calls : List Call}

theorem misuse_run_of_misused {cause : ArgumentError} (h : b.misuse = some cause) (calls : List Call) :
    (b.run calls).misuse = some cause := by
  induction calls generalizing b with
  | nil => exact h
  | cons call rest ih => exact ih (misuse_call_of_misused h call)

theorem clauses_bind (b : Builder) (name : String) (value : Json.Value) : (b.bind name value).clauses = b.clauses := by
  unfold Builder.bind
  split
  · split <;> rfl
  · rfl

/-- A call that appends nothing leaves the last clause with the predicate that it may bring. -/
theorem clauses_call (hlast : b.clauses = ks ++ [k]) (hmisuse : b.misuse = none) (hk : k.guardable = true)
    (hcall : call.appends = false) : (b.call call).clauses = ks ++ [k.guardedBy call.predicate?.toList] := by
  cases call with
  | bind name value => exact (clauses_bind b name value).trans hlast
  | filter p => rw [call, filter_of_guardable hmisuse hlast hk]; rfl
  | set items => rw [call, set, if_pos (by simpa [Call.appends] using hcall), hlast]; rfl
  | _ => cases hcall

/-- As long as nothing is appended, the filters among the calls go to one clause. -/
theorem clauses_run (hlast : b.clauses = ks ++ [k]) (hk : k.guardable = true)
    (hcalls : ∀ call ∈ calls, call.appends = false) (hrun : (b.run calls).misuse = none) :
    (b.run calls).clauses = ks ++ [k.guardedBy (predicatesOf calls)] := by
  induction calls generalizing b k with
  | nil => exact hlast
  | cons call rest ih =>
    obtain ⟨hcall, hrest⟩ := List.forall_mem_cons.1 hcalls
    have hmisuse : b.misuse = none := by
      by_contra hmisused
      obtain ⟨cause, hcause⟩ := Option.ne_none_iff_exists'.1 hmisused
      rw [misuse_run_of_misused hcause] at hrun
      cases hrun
    rw [predicatesOf_cons, hcall, if_neg Bool.false_ne_true, k.guardedBy_append]
    exact ih (clauses_call hlast hmisuse hk hcall) ((k.guardable_guardedBy _).trans hk) hrest hrun

/-- Filters on a clause that can have a predicate are no misuse. -/
theorem misuse_run_filters (hlast : b.clauses = ks ++ [k]) (hmisuse : b.misuse = none) (hk : k.guardable = true)
    (ps : List Predicate) : (b.run (ps.map .filter)).misuse = none := by
  induction ps generalizing b k with
  | nil => exact hmisuse
  | cons p rest ih =>
    have hcall := filter_of_guardable hmisuse hlast hk p
    have hclauses : (b.filter p).clauses = ks ++ [k.guarded p] := by rw [hcall]
    have hclean : (b.filter p).misuse = none := by rw [hcall, hmisuse]
    exact ih hclauses hclean ((k.guardable_guarded p).trans hk)

end Builder

/-- The text of a predicate without empty parts has its meaning for every assignment of three values to its
comparisons. A clause that has filters joined to it, whatever is bound in between, asks for its own predicate and all
of theirs. -/
theorem predicate_text_keeps_meaning :
    (∀ p : Predicate, p.Proper → p.ReadsBack) ∧
      ∀ (b : Builder) (ks : List Clause) (k : Clause), b.misuse = none → b.clauses = ks ++ [k] → k.guardable = true →
        (∀ ps : List Predicate, (b.run (ps.map .filter)).misuse = none) ∧
        ∀ calls : List Call, (∀ call ∈ calls, call.appends = false) → (b.run calls).misuse = none →
          (b.run calls).clauses = ks ++ [k.guardedBy (predicatesOf calls)] ∧
            Conjoins (k.guardedBy (predicatesOf calls)).condition (k.condition.toList ++ predicatesOf calls) := by
  refine ⟨fun p hp => Predicate.readsBack hp, fun b ks k hmisuse hlast hk => ⟨?_, fun calls hcalls hrun => ⟨?_, ?_⟩⟩⟩
  · exact Builder.misuse_run_filters hlast hmisuse hk
  · exact Builder.clauses_run hlast hk hcalls hrun
  · exact Clause.conjoins_guardedBy hk (predicatesOf calls)

/-- Users of a name who are staff if they are retired. -/
def screened : Predicate :=
  .all [.eq (.prop "user" "name") (.param "name"),
    .not (.any [.all [.isNotNull (.prop "user" "retired"), .not (.hasLabel "user" "Staff")]])]

/-- A match of users that takes a filter before and one after a name is bound. -/
def screening : List Call := [.filter (.hasLabel "user" "Guest"), .bind "name" (.str "Ada"), .filter screened]

theorem predicate_text_keeps_meaning_screened :
    screened.text = "user.name = $name AND NOT ((user.retired IS NOT NULL AND NOT (user:Staff)))" ∧
    screened.ReadsBack ∧
    ∃ k, ((Builder.empty.matching (.node (.labeled "user" "User")) false).run screening).clauses = [k] ∧
      Conjoins k.condition [.hasLabel "user" "Guest", screened] := by
  have hproper : screened.Proper := by simp [screened, Predicate.Proper, Predicate.AllProper]
  have happends : ∀ call ∈ screening, call.appends = false := by simp [screening, Call.appends]
  obtain ⟨hclauses, hconjoins⟩ := (predicate_text_keeps_meaning.2
    (Builder.empty.matching (.node (.labeled "user" "User")) false) [] _ rfl rfl rfl).2 screening happends rfl
  exact ⟨rfl, predicate_text_keeps_meaning.1 screened hproper, _, hclauses, hconjoins⟩

end EntityGraph.Cypher
