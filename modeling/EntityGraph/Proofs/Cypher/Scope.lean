import EntityGraph.Proofs.Cypher.Anatomy
import EntityGraph.Proofs.Graph.Matching

/-!
# The scope of variables

Which variables each clause uses, and which are in scope after it. Patterns, `UNWIND` and `YIELD` add variables, a
`WITH` leaves those that it names, and a subquery starts with its imports and leaves nothing behind. The tests and the
order of a `WITH` see what it names; the order of a `RETURN` also sees what was there before.
-/
namespace EntityGraph.Cypher

mutual
/-- The variables that an expression uses. -/
def Expr.free : Expr → List String
  | .var name => [name]
  | .prop var _ => [var]
  | .param _ => []
  | .entry _ key => key.free
  | .null => []
  | .int _ => []
  | .quoted _ => []
  | .call _ _ args => exprsFree args
  | .comprehension binder source item => source.free ++ item.free.filter (fun v => v ≠ binder)
  | .map entries => entriesFree entries
  | .choice test yes no => test.free ++ yes.free ++ no.free
  | .keys map => map.free
  | .truth test => test.free
def exprsFree : List Expr → List String
  | [] => []
  | e :: rest => e.free ++ exprsFree rest
def entriesFree : List (String × Expr) → List String
  | [] => []
  | (_, e) :: rest => e.free ++ entriesFree rest
/-- The variables that a predicate uses, among them the node that the path of an `EXISTS` starts at. -/
def Predicate.free : Predicate → List String
  | .eq left right => left.free ++ right.free
  | .gt left right => left.free ++ right.free
  | .isIn item list => item.free ++ list.free
  | .isNull e => e.free
  | .isNotNull e => e.free
  | .hasLabel var _ => [var]
  | .inLabels label var => label.free ++ [var]
  | .all parts => predicatesFree parts
  | .any parts => predicatesFree parts
  | .not p => p.free
  | .exists ⟨start, hops⟩ => start.binder.toList ++ start.free ++ hopsFree hops
def predicatesFree : List Predicate → List String
  | [] => []
  | p :: rest => p.free ++ predicatesFree rest
/-- The variables that a node uses: those in its properties, and its own if it says nothing but that. -/
def Node.free : Node → List String
  | ⟨binder, label, props⟩ => (if label.isNone && props.isEmpty then binder.toList else []) ++ entriesFree props
def hopsFree : List (Edge × Node) → List String
  | [] => []
  | (_, n) :: rest => n.free ++ hopsFree rest
end

/-- The variables that a path uses. -/
def Pattern.free (p : Pattern) : List String := p.start.free ++ hopsFree p.hops

def Column.free : Column → List String
  | .var name _ => [name]
  | .expr e _ => e.free

def Assignment.free : Assignment → List String
  | .assign var _ value => var :: value.free
  | .overlay var map => var :: map.free

/-- The variables that an optional predicate uses. -/
def whereFree (predicate : Option Predicate) : List String := (predicate.map Predicate.free).getD []

/-- The variables that an ordering uses. -/
def orderFree (order : List SortKey) : List String := order.flatMap (fun k => k.expr.free)

/-- The variables in scope after a clause. -/
def Clause.scope (scope : List String) : Clause → List String
  | .pattern p _ _ => scope ++ p.binders
  | .procedure _ _ yields => scope ++ yields
  | .subquery _ _ => scope
  | .projection columns _ _ _ _ => columns.map Column.name
  | .unwind _ binder => scope ++ [binder]
  | .create p => scope ++ p.binders
  | .merge p => scope ++ p.binders
  | .set _ => scope
  | .delete _ _ => scope
  | .returning columns _ _ => columns.map Column.name

/-- The variables in scope after clauses. -/
def scopeAfter (scope : List String) (ks : List Clause) : List String := ks.foldl Clause.scope scope

mutual
/-- Whether every variable that a clause uses is in scope where it is used. -/
def Clause.Scoped (scope : List String) : Clause → Prop
  | .pattern p _ predicate => p.free ⊆ scope ∧ whereFree predicate ⊆ scope ++ p.binders
  | .procedure _ args _ => exprsFree args ⊆ scope
  | .subquery imports body => imports ⊆ scope ∧ Scoped imports body
  | .projection columns _ predicate order _ =>
    columns.flatMap Column.free ⊆ scope ∧ whereFree predicate ⊆ columns.map Column.name ∧
      orderFree order ⊆ columns.map Column.name
  | .unwind list _ => list.free ⊆ scope
  | .create p => p.free ⊆ scope
  | .merge p => p.free ⊆ scope
  | .set items => items.flatMap Assignment.free ⊆ scope
  | .delete vars _ => vars ⊆ scope
  | .returning columns _ order =>
    columns.flatMap Column.free ⊆ scope ∧ orderFree order ⊆ scope ++ columns.map Column.name
/-- Whether every variable that clauses use is in scope where it is used. -/
def Scoped (scope : List String) : List Clause → Prop
  | [] => True
  | k :: rest => k.Scoped scope ∧ Scoped (k.scope scope) rest
end

attribute [simp] Expr.free exprsFree entriesFree Predicate.free predicatesFree Clause.Scoped

@[simp] theorem whereFree_none : whereFree none = [] := rfl

@[simp] theorem whereFree_some (p : Predicate) : whereFree (some p) = p.free := rfl

@[simp] theorem orderFree_nil : orderFree [] = [] := rfl

@[simp] theorem orderFree_cons (k : SortKey) (order : List SortKey) :
    orderFree (k :: order) = k.expr.free ++ orderFree order := List.flatMap_cons

theorem entriesFree_append (es es' : List (String × Expr)) :
    entriesFree (es ++ es') = entriesFree es ++ entriesFree es' := by
  induction es with
  | nil => rfl
  | cons e rest ih => rw [List.cons_append, entriesFree, entriesFree, ih, List.append_assoc]

theorem hopsFree_append (hops hops' : List (Edge × Node)) : hopsFree (hops ++ hops') = hopsFree hops ++ hopsFree hops' := by
  induction hops with
  | nil => rfl
  | cons h rest ih => rw [List.cons_append, hopsFree, hopsFree, ih, List.append_assoc]

/-! ## Patterns and columns -/

@[simp] theorem Node.binder_bound (binder : String) : (Node.bound binder).binder = some binder := rfl

@[simp] theorem Node.binder_labeled (binder label : String) : (Node.labeled binder label).binder = some binder := rfl

@[simp] theorem Node.binder_withProp (n : Node) (key : String) (value : Expr) :
    (n.withProp key value).binder = n.binder := rfl

@[simp] theorem Node.free_anonymous (label : String) : (Node.anonymous label).free = [] := rfl

@[simp] theorem Node.free_bound (binder : String) : (Node.bound binder).free = [binder] := rfl

@[simp] theorem Node.free_labeled (binder label : String) : (Node.labeled binder label).free = [] := rfl

@[simp] theorem Node.free_withProp (n : Node) (key : String) (value : Expr) :
    (n.withProp key value).free = entriesFree n.props ++ value.free := by
  rw [withProp, free, entriesFree_append]
  simp

@[simp] theorem Node.props_labeled (binder label : String) : (Node.labeled binder label).props = [] := rfl

@[simp] theorem Pattern.free_node (n : Node) : (Pattern.node n).free = n.free := List.append_nil _

@[simp] theorem Pattern.free_hop (p : Pattern) (binder : Option String) (type : String) (arrow : Arrow) (n : Node) :
    (p.hop binder type arrow n).free = p.free ++ n.free := by
  rw [free, hop, hopsFree_append, ← List.append_assoc]
  exact congrArg (p.free ++ ·) (List.append_nil _)

@[simp] theorem Pattern.binders_node (n : Node) : (Pattern.node n).binders = n.binder.toList := List.append_nil _

@[simp] theorem Pattern.binders_hop (p : Pattern) (binder : Option String) (type : String) (arrow : Arrow) (n : Node) :
    (p.hop binder type arrow n).binders = p.binders ++ (binder.toList ++ n.binder.toList) := by
  simp [binders, hop]

@[simp] theorem Pattern.start_node (n : Node) : (Pattern.node n).start = n := rfl

@[simp] theorem Pattern.start_hop (p : Pattern) (binder : Option String) (type : String) (arrow : Arrow) (n : Node) :
    (p.hop binder type arrow n).start = p.start := rfl

/-- A path that is asked for starts at a node that is there already. -/
@[simp] theorem Predicate.free_exists (p : Pattern) : (Predicate.exists p).free = p.start.binder.toList ++ p.free := by
  obtain ⟨start, hops⟩ := p
  rw [free, List.append_assoc]
  rfl

@[simp] theorem Expr.free_apply (function : String) (args : List Expr) :
    (Expr.apply function args).free = exprsFree args := by rw [apply, free]

@[simp] theorem Expr.free_applyDistinct (function : String) (arg : Expr) :
    (Expr.applyDistinct function arg).free = arg.free := by
  rw [applyDistinct, free, exprsFree, exprsFree, List.append_nil]

@[simp] theorem Column.free_var (name : String) (given : Option String) : (Column.var name given).free = [name] := rfl

@[simp] theorem Column.free_expr (e : Expr) (given : String) : (Column.expr e given).free = e.free := rfl

@[simp] theorem Column.free_ofVar (name : String) : (Column.ofVar name).free = [name] := rfl

@[simp] theorem Column.name_var (name : String) (given : Option String) : (Column.var name given).name = given.getD name :=
  rfl

@[simp] theorem Column.name_expr (e : Expr) (given : String) : (Column.expr e given).name = given := rfl

@[simp] theorem Column.name_ofVar (name : String) : (Column.ofVar name).name = name := rfl

@[simp] theorem Assignment.free_assign (var key : String) (value : Expr) :
    (Assignment.assign var key value).free = var :: value.free := rfl

@[simp] theorem Assignment.free_overlay (var : String) (map : Expr) :
    (Assignment.overlay var map).free = var :: map.free := rfl

/-! ## Clauses one behind the other -/

@[simp] theorem scopeAfter_nil (scope : List String) : scopeAfter scope [] = scope := rfl

@[simp] theorem scopeAfter_cons (scope : List String) (k : Clause) (ks : List Clause) :
    scopeAfter scope (k :: ks) = scopeAfter (k.scope scope) ks := rfl

@[simp] theorem scopeAfter_append (scope : List String) (ks ks' : List Clause) :
    scopeAfter scope (ks ++ ks') = scopeAfter (scopeAfter scope ks) ks' := List.foldl_append

@[simp] theorem scoped_nil (scope : List String) : Scoped scope [] := by simp [Scoped]

@[simp] theorem scoped_cons {scope : List String} {k : Clause} {ks : List Clause} :
    Scoped scope (k :: ks) ↔ k.Scoped scope ∧ Scoped (k.scope scope) ks := by rw [Scoped]

@[simp] theorem scoped_append {scope : List String} {ks ks' : List Clause} :
    Scoped scope (ks ++ ks') ↔ Scoped scope ks ∧ Scoped (scopeAfter scope ks) ks' := by
  induction ks generalizing scope with
  | nil => simp
  | cons k rest ih => rw [List.cons_append, scoped_cons, scoped_cons, scopeAfter_cons, ih, and_assoc]

/-! ## Tests joined to a clause -/

theorem predicatesFree_append (ps qs : List Predicate) :
    predicatesFree (ps ++ qs) = predicatesFree ps ++ predicatesFree qs := by
  induction ps with
  | nil => rfl
  | cons p rest ih => rw [List.cons_append, predicatesFree, predicatesFree, ih, List.append_assoc]

theorem Predicate.free_and (p q : Predicate) : (p.and q).free = p.free ++ q.free := by
  cases p <;> simp [Predicate.and, Predicate.free, predicatesFree, predicatesFree_append]

theorem whereFree_joined (predicate : Option Predicate) (p : Predicate) :
    whereFree (some (joined predicate p)) = whereFree predicate ++ p.free := by
  cases predicate with
  | none => rfl
  | some q => exact q.free_and p

@[simp] theorem Clause.scope_guarded (scope : List String) (k : Clause) (p : Predicate) :
    (k.guarded p).scope scope = k.scope scope := by cases k <;> rfl

theorem Clause.scoped_guarded {scope : List String} {k : Clause} (h : k.Scoped scope) {p : Predicate}
    (hp : p.free ⊆ k.scope scope) : (k.guarded p).Scoped scope := by
  cases k with
  | pattern path optional predicate =>
    show path.free ⊆ scope ∧ whereFree (some (joined predicate p)) ⊆ scope ++ path.binders
    rw [whereFree_joined]
    exact ⟨h.1, List.append_subset.2 ⟨h.2, hp⟩⟩
  | projection columns distinct predicate order page =>
    show _ ∧ whereFree (some (joined predicate p)) ⊆ columns.map Column.name ∧ _
    rw [whereFree_joined]
    exact ⟨h.1, List.append_subset.2 ⟨h.2.1, hp⟩, h.2.2⟩
  | _ => exact h

@[simp] theorem Clause.scope_guardedBy (scope : List String) (k : Clause) (ps : List Predicate) :
    (k.guardedBy ps).scope scope = k.scope scope := by
  induction ps generalizing k with
  | nil => rfl
  | cons p rest ih => rw [guardedBy_cons, ih, scope_guarded]

theorem Clause.scoped_guardedBy {scope : List String} {k : Clause} (h : k.Scoped scope) {ps : List Predicate}
    (hps : ∀ p ∈ ps, p.free ⊆ k.scope scope) : (k.guardedBy ps).Scoped scope := by
  induction ps generalizing k with
  | nil => exact h
  | cons p rest ih =>
    have hfirst := scoped_guarded h (hps p List.mem_cons_self)
    refine ih hfirst fun q hq => ?_
    rw [scope_guarded]
    exact hps q (List.mem_cons_of_mem _ hq)

/-! ## Well-formed statements -/

def Clause.isResult : Clause → Bool
  | .returning .. => true
  | _ => false

/-- Whether a clause is a `WITH` that both tests and orders its rows. -/
def Clause.testsAndOrders : Clause → Bool
  | .projection _ _ predicate order _ => predicate.isSome && !order.isEmpty
  | _ => false

mutual
/-- The clauses inside the subqueries of a clause, at any depth. -/
def Clause.inside : Clause → List Clause
  | .subquery _ body => body ++ allInside body
  | _ => []
/-- The clauses inside the subqueries of clauses, at any depth. -/
def allInside : List Clause → List Clause
  | [] => []
  | k :: rest => k.inside ++ allInside rest
end

/-- Clauses that make up a statement: every variable is in scope where it is used, the only result comes last, there is
at most one page and none inside a subquery, and no `WITH` both tests and orders. -/
structure WellFormed (ks : List Clause) : Prop where
  inScope : Scoped [] ks
  result : ks.countP Clause.isResult = 1 ∧ ∃ last, ks.getLast? = some last ∧ last.isResult = true
  page : ks.countP Clause.isPageMarker ≤ 1
  pageInside : ∀ k ∈ allInside ks, k.isPageMarker = false
  ordered : ∀ k ∈ ks ++ allInside ks, k.testsAndOrders = false

theorem allInside_append (ks ks' : List Clause) : allInside (ks ++ ks') = allInside ks ++ allInside ks' := by
  induction ks with
  | nil => rfl
  | cons k rest ih => rw [List.cons_append, allInside, allInside, ih, List.append_assoc]

mutual
theorem Clause.isInner_of_mem_inside : (k : Clause) → k.isInner = true → ∀ j ∈ k.inside, j.isInner = true
  | .subquery imports body, h => by
    have hbody : areInner body = true := h
    intro j hj
    rcases List.mem_append.1 hj with hj | hj
    · exact areInner_iff.1 hbody j hj
    · exact isInner_of_mem_allInside body hbody j hj
  | .pattern .., _ => by simp [Clause.inside]
  | .procedure .., _ => by simp [Clause.inside]
  | .projection .., _ => by simp [Clause.inside]
  | .unwind .., _ => by simp [Clause.inside]
  | .create _, _ => by simp [Clause.inside]
  | .merge _, _ => by simp [Clause.inside]
  | .set _, _ => by simp [Clause.inside]
  | .delete .., _ => by simp [Clause.inside]
  | .returning .., _ => by simp [Clause.inside]
/-- What stands inside inner clauses is inner. -/
theorem isInner_of_mem_allInside : (ks : List Clause) → areInner ks = true → ∀ j ∈ allInside ks, j.isInner = true
  | [], _ => by simp [allInside]
  | k :: rest, h => by
    obtain ⟨hk, hrest⟩ := areInner_cons.1 h
    intro j hj
    rcases List.mem_append.1 hj with hj | hj
    · exact Clause.isInner_of_mem_inside k hk j hj
    · exact isInner_of_mem_allInside rest hrest j hj
end

theorem Clause.not_result_of_isInner {k : Clause} (h : k.isInner = true) : k.isResult = false := by
  cases k with
  | returning columns distinct order => cases h
  | _ => rfl

theorem Clause.not_testsAndOrders_of_isInner {k : Clause} (h : k.isInner = true) : k.testsAndOrders = false := by
  cases k with
  | projection columns distinct predicate order page =>
    rw [isInner, Bool.and_eq_true] at h
    simp [testsAndOrders, h.1]
  | _ => rfl

theorem countP_eq_zero_of_areInner {ks : List Clause} (h : areInner ks = true) {test : Clause → Bool}
    (htest : ∀ k : Clause, k.isInner = true → test k = false) : ks.countP test = 0 := by
  rw [List.countP_eq_zero]
  intro k hk
  rw [htest k (areInner_iff.1 h k hk)]
  exact Bool.false_ne_true

theorem allInside_returning (ks : List Clause) (columns : List Column) (order : List SortKey) :
    allInside (ks ++ [.returning columns false order]) = allInside ks := by
  rw [allInside_append]
  exact List.append_nil _

/-- A statement with the anatomy of one is well-formed if its variables are in scope. -/
theorem Anatomy.wellFormed {ks : List Clause} (h : Anatomy ks) (hscope : Scoped [] ks) : WellFormed ks := by
  have hresults {ks : List Clause} (h : areInner ks = true) : ks.countP Clause.isResult = 0 :=
    countP_eq_zero_of_areInner h fun _ => Clause.not_result_of_isInner
  have hmarkers {ks : List Clause} (h : areInner ks = true) : ks.countP Clause.isPageMarker = 0 :=
    countP_eq_zero_of_areInner h fun _ => Clause.not_marker_of_isInner
  have hinside {ks : List Clause} (h : areInner ks = true) :
      (∀ k ∈ allInside ks, k.isPageMarker = false) ∧ ∀ k ∈ ks ++ allInside ks, k.testsAndOrders = false := by
    have hinner := isInner_of_mem_allInside ks h
    refine ⟨fun k hk => Clause.not_marker_of_isInner (hinner k hk), fun k hk => ?_⟩
    rcases List.mem_append.1 hk with hk | hk
    · exact Clause.not_testsAndOrders_of_isInner (areInner_iff.1 h k hk)
    · exact Clause.not_testsAndOrders_of_isInner (hinner k hk)
  cases h with
  | @plain ks h columns order =>
    obtain ⟨hpage, hordered⟩ := hinside h
    have hall := allInside_returning ks columns order
    refine ⟨hscope, ⟨?_, _, List.getLast?_concat, rfl⟩, ?_, hall ▸ hpage, fun k hk => ?_⟩
    · rw [List.countP_append, hresults h]
      rfl
    · rw [List.countP_append, hmarkers h]
      exact Nat.zero_le 1
    · rw [hall, List.append_assoc, List.mem_append, List.mem_append] at hk
      rcases hk with hk | hk | hk
      · exact hordered k (List.mem_append_left _ hk)
      · rw [List.mem_singleton.1 hk]
        rfl
      · exact hordered k (List.mem_append_right _ hk)
  | @paged ks ks' h h' carried distinct keys columns order =>
    obtain ⟨hpage, hordered⟩ := hinside h
    obtain ⟨hpage', hordered'⟩ := hinside h'
    have hall : allInside (ks ++ .projection carried distinct none keys true ::
        (ks' ++ [.returning columns false order])) = allInside ks ++ allInside ks' := by
      rw [allInside_append, allInside, allInside_returning]
      rfl
    refine ⟨hscope, ⟨?_, .returning columns false order, ?_, rfl⟩, ?_, ?_, fun k hk => ?_⟩
    · rw [List.countP_append, List.countP_cons, List.countP_append, hresults h, hresults h']
      rfl
    · rw [← List.cons_append, ← List.append_assoc, List.getLast?_concat]
    · rw [List.countP_append, List.countP_cons, List.countP_append, hmarkers h, hmarkers h']
      exact Nat.le_refl 1
    · rw [hall]
      exact List.forall_mem_append.2 ⟨hpage, hpage'⟩
    · rw [hall] at hk
      simp only [List.mem_append, List.mem_cons, List.not_mem_nil, or_false] at hk
      rcases hk with (hk | rfl | hk | rfl) | hk | hk
      · exact hordered k (List.mem_append_left _ hk)
      · rfl
      · exact hordered' k (List.mem_append_left _ hk)
      · rfl
      · exact hordered k (List.mem_append_right _ hk)
      · exact hordered' k (List.mem_append_right _ hk)

end EntityGraph.Cypher
