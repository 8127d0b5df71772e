import EntityGraph.Proofs.Listing.Candidates

/-!
# The parameters of a list

A list binds the tenant, the values of its filters, the pattern of its term and the ids of its linked nodes under
names that do not meet, and a window adds two further names. So whatever the window, a parameter that the clauses of
a list refer to has the value that the list was asked with.
-/
namespace EntityGraph.Cypher

open Json (Value)
open Paging (Window)

/-- A window changes the parameters under its own two names only. -/
theorem Statement.get?_windowParams {name : String} (hskip : name ≠ skipParam) (hlimit : name ≠ limitParam)
    (params : Params) (w : Window) : (windowParams params w).get? name = params.get? name := by
  cases w with
  | all => rfl
  | first limit => rw [windowParams, Dict.get?_insert, if_neg hlimit]
  | offset skip limit => rw [windowParams, Dict.get?_insert, if_neg hlimit, Dict.get?_insert, if_neg hskip]

theorem Statement.get?_render {name : String} (hskip : name ≠ skipParam) (hlimit : name ≠ limitParam)
    (s : Statement) (w : Window) : (s.render w).params.get? name = s.params.get? name := by
  show (if s.isPaginated then windowParams s.params w else s.params).get? name = _
  split
  · exact get?_windowParams hskip hlimit s.params w
  · rfl

end EntityGraph.Cypher

namespace EntityGraph.Compile.Compiler

open Cypher EntityGraph.Graph
open Json (Value)
open Schema (Relationship)

variable (c : Compiler)

theorem get?_withFilters {filters : List (String × Value)} (hnodup : (filters.map Prod.fst).Nodup)
    {f : String × Value} (hf : f ∈ filters) (hvalue : f.2.isNull = false) (params : Params) :
    (withFilters filters params).get? (filterParam f.1) = some f.2 := by
  have hkept (filters : List (String × Value)) (params : Params) (field : String)
      (hnot : field ∉ filters.map Prod.fst) :
      (withFilters filters params).get? (filterParam field) = params.get? (filterParam field) := by
    unfold withFilters
    induction filters generalizing params with
    | nil => rfl
    | cons g rest ih =>
      rw [List.map_cons, List.mem_cons, not_or] at hnot
      rw [List.foldl_cons, ih _ hnot.2]
      split
      · rfl
      · rw [Dict.get?_insert, if_neg fun heq => hnot.1 (filterParam_inj.1 heq)]
  induction filters generalizing params with
  | nil => cases hf
  | cons g rest ih =>
    rw [List.map_cons, List.nodup_cons] at hnodup
    have hcons : withFilters (g :: rest) params =
        withFilters rest (if g.2.isNull then params else params.insert (filterParam g.1) g.2) := rfl
    rw [hcons]
    rcases List.mem_cons.1 hf with rfl | hf
    · rw [hkept rest _ f.1 hnodup.1, hvalue, if_neg Bool.false_ne_true, Dict.get?_insert, if_pos rfl]
    · exact ih hnodup.2 hf _

theorem keys_nodup {α : Type} (d : Dict α) : (d.toList.map Prod.fst).Nodup := by
  rw [List.Nodup, List.pairwise_map]
  refine d.ascending.imp fun {a b} hlt heq => ?_
  rw [heq] at hlt
  exact String.lt_irrefl _ hlt

theorem get?_listParams {name : String} (hids : name ≠ "relatedIds") (scope : Option String) (criteria : Criteria)
    (related : Option (Relationship × List String)) :
    (c.listParams scope criteria related).get? name =
      (withFilters criteria.filters.toList (withScope scope (c.withTerm criteria ∅))).get? name := by
  unfold listParams
  cases related with
  | none => rfl
  | some link =>
    simp only
    rw [Dict.get?_insert, if_neg hids]

/-- Parameters that agree with those of a list but for the window's hold what the list was asked with. -/
theorem supplied_of_params {x : Context} {scope : Option String} {criteria : Criteria}
    {related : Option (Relationship × List String)}
    (h : ∀ name, name ≠ skipParam → name ≠ limitParam →
      x.params.get? name = (c.listParams scope criteria related).get? name) :
    c.Supplied x scope criteria related where
  company := by
    rintro company rfl
    rw [Context.param, h companyParam (by decide) (by decide), get?_listParams_company, Option.map_some,
      Option.getD_some, Val.ofJson_str]
  filter := by
    intro f hf hvalue
    rw [Context.param, h _ (filterParam_ne (by decide)) (filterParam_ne (by decide)),
      c.get?_listParams (filterParam_ne (by decide)), get?_withFilters (keys_nodup _) hf hvalue, Option.map_some,
      Option.getD_some]
  term := by
    intro index pattern hhit
    have hterm : (c.withTerm criteria ∅).get? "term" = some (.str pattern) := by
      rw [withTerm, hhit]
      exact (Dict.get?_insert _ _ _ _).trans (if_pos rfl)
    rw [Context.param, h "term" (by decide) (by decide), c.get?_listParams (by decide),
      get?_withFilters_of_ne (by decide), get?_withScope_of_ne (by decide), hterm, Option.map_some,
      Option.getD_some, Val.ofJson_str]
  ids := by
    rintro r ids rfl
    have hids : (c.listParams scope criteria (some (r, ids))).get? "relatedIds" = some (.ofStrings ids) := by
      unfold listParams
      exact (Dict.get?_insert _ _ _ _).trans (if_pos rfl)
    rw [Context.param, h "relatedIds" (by decide) (by decide), hids, Option.map_some, Option.getD_some,
      Val.ofJson_ofStrings]

end EntityGraph.Compile.Compiler
