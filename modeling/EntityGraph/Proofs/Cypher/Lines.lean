import EntityGraph.Proofs.Cypher.Names
import EntityGraph.Proofs.Text.Lines
import Mathlib.Tactic.Common

/-!
# Texts that stay in their line

If no name of an expression, a predicate or a pattern breaks the line, neither does its text: what stands between names
has no line breaks.
-/
namespace EntityGraph.Cypher

open Text (Unbroken)

/-- Whether none of some names breaks a line. -/
abbrev UnbrokenNames (ns : List Name) : Prop := ∀ n ∈ ns, Unbroken n.text

theorem unbroken_ite {p : Prop} [Decidable p] {s t : String} (hs : Unbroken s) (ht : Unbroken t) :
    Unbroken (if p then s else t) := by
  split <;> assumption

/-- Items that stay in their line are listed in one line. -/
theorem unbroken_listed {texts : List String} (h : ∀ t ∈ texts, Unbroken t) : Unbroken (", ".intercalate texts) :=
  Unbroken.intercalate (by decide) h

theorem unbroken_repr (n : Nat) : Unbroken (Nat.repr n) := by
  have hdigit : ∀ ch ∈ (Nat.repr n).toList, ch.isDigit = true := by
    intro ch hch
    rw [Nat.repr, String.toList_ofList] at hch
    exact Nat.isDigit_of_mem_toDigits (by decide) (by decide) hch
  refine ⟨fun hmem => ?_, fun hlast => ?_⟩
  · exact absurd (hdigit _ hmem) (by decide)
  · exact absurd (hdigit _ (List.mem_of_getLast? hlast)) (by decide)

theorem unbroken_int (n : Int) : Unbroken (Expr.int n).text :=
  unbroken_ite (.append (by decide) (unbroken_repr _)) (unbroken_repr _)

theorem Edge.unbroken_text (e : Edge) (h : UnbrokenNames e.names) : Unbroken e.text := by
  obtain ⟨binder, type, arrow⟩ := e
  obtain ⟨hbinder, htype⟩ := List.forall_mem_append.1 h
  have hname : Unbroken (binder.getD "") := by
    cases binder with
    | none => exact (by decide : Unbroken "")
    | some b => exact hbinder _ (List.mem_singleton_self _)
  have hbody : Unbroken ("[" ++ binder.getD "" ++ ":" ++ type ++ "]") :=
    ((Unbroken.append (by decide) hname).joined (by decide) (htype _ (List.mem_singleton_self _))).append (by decide)
  cases arrow <;> exact .joined (by decide) hbody (by decide)

theorem unbroken_nodeHead {binder label : Option String}
    (h : UnbrokenNames ((binder.map Name.var).toList ++ (label.map Name.label).toList)) :
    Unbroken (binder.getD "" ++ optionalText ":" label) := by
  obtain ⟨hbinder, hlabel⟩ := List.forall_mem_append.1 h
  refine .append ?_ ?_
  · cases binder with
    | none => exact (by decide : Unbroken "")
    | some b => exact hbinder _ (List.mem_singleton_self _)
  · cases label with
    | none => exact (by decide : Unbroken "")
    | some l => exact .append (by decide) (hlabel _ (List.mem_singleton_self _))

mutual
theorem Expr.unbroken_text : (e : Expr) → UnbrokenNames e.names → Unbroken e.text
  | .var _, h => h _ (List.mem_singleton_self _)
  | .prop var key, h => by
    obtain ⟨hvar, hkey⟩ := List.forall_mem_cons.1 h
    exact hvar.joined (by decide) (hkey _ (List.mem_singleton_self _))
  | .param name, h => .append (by decide) (h _ (List.mem_singleton_self _))
  | .entry param key, h => by
    obtain ⟨hparam, hkey⟩ := List.forall_mem_cons.1 h
    exact ((Unbroken.append (by decide) hparam).joined (by decide) (key.unbroken_text hkey)).append (by decide)
  | .null, _ => (by decide : Unbroken "NULL")
  | .int n, _ => unbroken_int n
  | .quoted name, h => .joined (by decide) (h _ (List.mem_singleton_self _)) (by decide)
  | .call function distinct args, h => by
    obtain ⟨hfunction, hargs⟩ := List.forall_mem_cons.1 h
    have hlist := unbroken_listed (unbroken_exprTexts args hargs)
    exact (hfunction.joined (by decide) (unbroken_ite (by decide) (by decide))).joined hlist (by decide)
  | .comprehension binder source item, h => by
    obtain ⟨hbinder, h⟩ := List.forall_mem_cons.1 h
    obtain ⟨hsource, hitem⟩ := List.forall_mem_append.1 h
    have hfrom : Unbroken ("[" ++ binder ++ " IN " ++ source.text) :=
      (Unbroken.append (by decide) hbinder).joined (by decide) (source.unbroken_text hsource)
    exact (hfrom.joined (by decide) (item.unbroken_text hitem)).append (by decide)
  | .map entries, h => .joined (by decide) (unbroken_listed (unbroken_entryTexts entries h)) (by decide)
  | .choice test yes no, h => by
    obtain ⟨h, hno⟩ := List.forall_mem_append.1 h
    obtain ⟨htest, hyes⟩ := List.forall_mem_append.1 h
    have hthen : Unbroken ("CASE WHEN " ++ test.text ++ " THEN " ++ yes.text) :=
      (Unbroken.append (by decide) (test.unbroken_text htest)).joined (by decide) (yes.unbroken_text hyes)
    exact (hthen.joined (by decide) (no.unbroken_text hno)).append (by decide)
  | .keys map, h => .joined (by decide) (map.unbroken_text h) (by decide)
  | .truth test, h => test.unbroken_text h
theorem unbroken_exprTexts : (es : List Expr) → UnbrokenNames (exprNames es) → ∀ t ∈ exprTexts es, Unbroken t
  | [], _ => by simp [exprTexts]
  | e :: rest, h => by
    obtain ⟨he, hrest⟩ := List.forall_mem_append.1 h
    exact List.forall_mem_cons.2 ⟨e.unbroken_text he, unbroken_exprTexts rest hrest⟩
theorem unbroken_entryTexts : (es : List (String × Expr)) → UnbrokenNames (entryNames es) →
    ∀ t ∈ entryTexts es, Unbroken t
  | [], _ => by simp [entryTexts]
  | (k, e) :: rest, h => by
    obtain ⟨hk, h⟩ := List.forall_mem_cons.1 h
    obtain ⟨he, hrest⟩ := List.forall_mem_append.1 h
    have hentry : Unbroken (k ++ ": " ++ e.text) := hk.joined (by decide) (e.unbroken_text he)
    exact List.forall_mem_cons.2 ⟨hentry, unbroken_entryTexts rest hrest⟩
theorem Predicate.unbroken_text : (p : Predicate) → UnbrokenNames p.names → Unbroken p.text
  | .eq left right, h => by
    obtain ⟨hleft, hright⟩ := List.forall_mem_append.1 h
    exact (left.unbroken_text hleft).joined (by decide) (right.unbroken_text hright)
  | .gt left right, h => by
    obtain ⟨hleft, hright⟩ := List.forall_mem_append.1 h
    exact (left.unbroken_text hleft).joined (by decide) (right.unbroken_text hright)
  | .isIn item list, h => by
    obtain ⟨hitem, hlist⟩ := List.forall_mem_append.1 h
    exact (item.unbroken_text hitem).joined (by decide) (list.unbroken_text hlist)
  | .isNull e, h => (e.unbroken_text h).append (by decide)
  | .isNotNull e, h => (e.unbroken_text h).append (by decide)
  | .hasLabel var label, h => by
    obtain ⟨hvar, hlabel⟩ := List.forall_mem_cons.1 h
    exact hvar.joined (by decide) (hlabel _ (List.mem_singleton_self _))
  | .inLabels label var, h => by
    obtain ⟨hlabel, hvar⟩ := List.forall_mem_append.1 h
    exact ((label.unbroken_text hlabel).joined (by decide) (hvar _ (List.mem_singleton_self _))).append (by decide)
  | .all parts, h => .intercalate (by decide) (unbroken_predicateTexts parts h)
  | .any parts, h => .joined (by decide) (.intercalate (by decide) (unbroken_predicateTexts parts h)) (by decide)
  | .not p, h => .joined (by decide) (p.unbroken_text h) (by decide)
  | .exists pattern, h => .joined (by decide) (pattern.unbroken_text h) (by decide)
theorem unbroken_predicateTexts : (ps : List Predicate) → UnbrokenNames (predicateNames ps) →
    ∀ t ∈ predicateTexts ps, Unbroken t
  | [], _ => by simp [predicateTexts]
  | p :: rest, h => by
    obtain ⟨hp, hrest⟩ := List.forall_mem_append.1 h
    exact List.forall_mem_cons.2 ⟨p.unbroken_text hp, unbroken_predicateTexts rest hrest⟩
theorem Node.unbroken_text : (n : Node) → UnbrokenNames n.names → Unbroken n.text
  | ⟨binder, label, props⟩, h => by
    obtain ⟨hhead, hprops⟩ := List.forall_mem_append.1 h
    have hentries := unbroken_listed (unbroken_entryTexts props hprops)
    have hgap : Unbroken (if binder.isSome || label.isSome then " " else "") := unbroken_ite (by decide) (by decide)
    exact (Unbroken.joined (by decide) (unbroken_nodeHead hhead)
      (unbroken_ite (by decide) ((hgap.append (by decide)).joined hentries (by decide)))).append (by decide)
theorem Pattern.unbroken_text : (p : Pattern) → UnbrokenNames p.names → Unbroken p.text
  | ⟨start, hops⟩, h => by
    obtain ⟨hstart, hhops⟩ := List.forall_mem_append.1 h
    exact (start.unbroken_text hstart).append (unbroken_hopsText hops hhops)
theorem unbroken_hopsText : (hops : List (Edge × Node)) → UnbrokenNames (hopNames hops) → Unbroken (hopsText hops)
  | [], _ => (by decide : Unbroken "")
  | (e, n) :: rest, h => by
    obtain ⟨h, hrest⟩ := List.forall_mem_append.1 h
    obtain ⟨he, hn⟩ := List.forall_mem_append.1 h
    exact ((e.unbroken_text he).append (n.unbroken_text hn)).append (unbroken_hopsText rest hrest)
end

theorem Column.unbroken_text (col : Column) (h : UnbrokenNames col.names) : Unbroken col.text := by
  cases col with
  | var name given =>
    obtain ⟨hname, hgiven⟩ := List.forall_mem_cons.1 h
    cases given with
    | none => exact hname
    | some g => exact hname.joined (by decide) (hgiven _ (List.mem_singleton_self _))
  | expr e given =>
    obtain ⟨he, hgiven⟩ := List.forall_mem_append.1 h
    exact (e.unbroken_text he).joined (by decide) (hgiven _ (List.mem_singleton_self _))

theorem SortKey.unbroken_text (k : SortKey) (h : UnbrokenNames k.expr.names) : Unbroken k.text :=
  (k.expr.unbroken_text h).append (unbroken_ite (by decide) (by decide))

theorem Assignment.unbroken_text (a : Assignment) (h : UnbrokenNames a.names) : Unbroken a.text := by
  cases a with
  | assign var key value =>
    obtain ⟨hvar, h⟩ := List.forall_mem_cons.1 h
    obtain ⟨hkey, hvalue⟩ := List.forall_mem_cons.1 h
    exact (hvar.joined (by decide) hkey).joined (by decide) (value.unbroken_text hvalue)
  | overlay var map =>
    obtain ⟨hvar, hmap⟩ := List.forall_mem_cons.1 h
    exact hvar.joined (by decide) (map.unbroken_text hmap)

/-- Items that are listed stay in one line as each of them does. -/
theorem unbroken_items {α : Type} {text : α → String} {names : α → List Name}
    (htext : ∀ a, UnbrokenNames (names a) → Unbroken (text a)) {items : List α}
    (h : UnbrokenNames (items.flatMap names)) : Unbroken (", ".intercalate (items.map text)) := by
  refine unbroken_listed fun t ht => ?_
  obtain ⟨a, ha, rfl⟩ := List.mem_map.1 ht
  exact htext a fun n hn => h n (List.mem_flatMap.2 ⟨a, ha, hn⟩)

theorem unbroken_vars {vars : List String} (h : UnbrokenNames (vars.map Name.var)) :
    Unbroken (", ".intercalate vars) :=
  unbroken_listed fun _ hvar => h _ (List.mem_map_of_mem hvar)

theorem unbroken_columnsText (distinct : Bool) {columns : List Column}
    (h : UnbrokenNames (columns.flatMap Column.names)) : Unbroken (columnsText distinct columns) :=
  .append (unbroken_ite (by decide) (by decide)) (unbroken_items Column.unbroken_text h)

end EntityGraph.Cypher
