import EntityGraph.Paging.Links
import EntityGraph.Proofs.Dict
import EntityGraph.Proofs.Paging.Backward
import EntityGraph.Proofs.Url.Divisions

/-!
# Links that lead to cursors

A caller who follows a link of a page asks for the cursor that the link stands for, with everything else as in the
request that the page answers: the link keeps the other pairs of the query in their order, and the same parts around
the query.
-/
namespace EntityGraph.Paging

/-- The pairs in the query of a text. -/
def pairsIn (text : String) : List (String × String) := Url.Form.decode ((Url.queryIn text).getD "")

/-- Whether a pair of a query tells no cursor. -/
def staysInLinks (p : String × String) : Bool := p.1 ≠ "cursor" && p.1 ≠ "take"

/-- Whether a link leads from a request to a cursor. -/
structure LeadsTo (request : Url) (link : String) (target : Cursor) : Prop where
  /-- The link is the request with another query. -/
  unchanged : ∃ query, link = Url.text { request with query := some query }
  front : Url.frontIn link = Url.frontIn request.text
  fragment : Url.fragmentIn link = Url.fragmentIn request.text
  /-- The pairs that tell no cursor stay as they are, and one pair each tells the offset and the size of the page. -/
  pairs : ∃ offset, target.offset = some offset ∧
    pairsIn link = (pairsIn request.text).filter staysInLinks ++
      [("cursor", offset), ("take", Nat.repr target.take)]
  /-- The pairs ask for the cursor, whatever size pages have that do not tell one. -/
  asks : ∀ default, Cursor.ofQuery (Dict.ofList (pairsIn link)) default = .ok target

namespace Cursor

variable {query : Dict String} {default : Nat} {c : Cursor}

/-! ## Cursors that are asked for -/

theorem parameter?_of_repr {key : String} {n : Nat} (h : query.get? key = some (Nat.repr n)) :
    parameter? query key = some (Nat.repr n) := by
  rw [parameter?, h, Option.map_some, Text.trim_repr, Option.filter_some, if_pos (decide_eq_true Nat.repr_ne_empty)]

theorem takeOf_of_repr {n : Nat} (h : query.get? "take" = some (Nat.repr n)) (hpos : 0 < n) (hfits : n < Nat.pow 2 64)
    (default : Nat) : takeOf query default = .ok n := by
  rw [takeOf, parameter?_of_repr h]
  simp only [Text.nat64?_repr hfits, Result.ok_bind, if_neg (Nat.ne_of_gt hpos)]

theorem offsetOf_of_repr {n : Nat} (h : query.get? "cursor" = some (Nat.repr n)) (hfits : n < Nat.pow 2 64) :
    offsetOf query = .ok (some (Nat.repr n)) := by
  rw [offsetOf, parameter?_of_repr h]
  simp only [readOffset_repr hfits, Except.map]

/-- Whether a query asks for all rows. -/
def asksForAll (query : Dict String) : Bool :=
  let fetchAll := (query.get? "fetchAll").map Text.trim
  fetchAll = some "true" || fetchAll = some "1"

theorem ofQuery_eq_ok_iff : ofQuery query default = .ok c ↔ ∃ take, takeOf query default = .ok take ∧
    ∃ offset, offsetOf query = .ok offset ∧ c = ⟨offset, take, asksForAll query⟩ := by
  unfold ofQuery
  simp only [Result.bind_eq_ok_iff, Except.ok.injEq, eq_comm (b := c)]
  rfl

theorem pos_of_takeOf {take : Nat} (h : takeOf query default = .ok take) : 0 < take := by
  have hcheck {n : Nat} (h : (if n = 0 then refuse .zeroTake >>= fun (_ : Nat) => .ok n else .ok n) = .ok take) :
      0 < take := by
    obtain ⟨hn, htake⟩ := Result.unless_refused_eq_ok_iff.1 h
    cases htake
    exact Nat.pos_of_ne_zero hn
  unfold takeOf at h
  split at h
  · exact hcheck h
  · split at h
    · exact hcheck h
    · cases h

theorem position_of_offsetOf {offset : Option String} (h : offsetOf query = .ok offset) (take : Nat) (fetchAll : Bool) :
    ∃ row, position ⟨offset, take, fetchAll⟩ = .ok row := by
  unfold offsetOf at h
  split at h
  · cases h
    exact ⟨0, rfl⟩
  · obtain ⟨row, hrow, hoffset⟩ := Result.map_eq_ok_iff.1 h
    rw [← hoffset]
    exact ⟨row, hrow⟩

/-- A cursor that a query asks for is at a row, with pages of some size. -/
theorem position_of_ofQuery (h : ofQuery query default = .ok c) :
    (∃ row, c.position = .ok row) ∧ 0 < c.take ∧ c.fetchAll = asksForAll query := by
  obtain ⟨take, htake, offset, hoffset, rfl⟩ := ofQuery_eq_ok_iff.1 h
  exact ⟨position_of_offsetOf hoffset _ _, pos_of_takeOf htake, rfl⟩

/-! ## Pairs of a link -/

theorem lookup_filter {α : Type} {p : String × α → Bool} {key : String} (h : ∀ value, p (key, value) = true)
    (entries : List (String × α)) : (entries.filter p).lookup key = entries.lookup key := by
  induction entries with
  | nil => rfl
  | cons e rest ih =>
    obtain ⟨name, value⟩ := e
    rw [List.filter_cons]
    by_cases hname : key = name
    · subst hname
      rw [if_pos (h value), List.lookup_cons_self, List.lookup_cons_self]
    · rw [Entries.lookup_cons_eq, if_neg hname]
      split
      · rw [Entries.lookup_cons_eq, if_neg hname, ih]
      · exact ih

/-- The pairs that stay and those of a page ask for the page, if the request asks for pages at all. -/
theorem ofQuery_link {pairs : List (String × String)} {row take : Nat} (hrow : row < Nat.pow 2 64) (hpos : 0 < take)
    (htake : take < Nat.pow 2 64) (hpaged : asksForAll (Dict.ofList pairs) = false) (default : Nat) :
    ofQuery (Dict.ofList (pairs.filter staysInLinks ++ (startingAt row take).parameters)) default =
      .ok (startingAt row take) := by
  have hget (key : String) : (Dict.ofList (pairs.filter staysInLinks ++ (startingAt row take).parameters)).get? key =
      (("take", Nat.repr take) :: ("cursor", Nat.repr row) :: pairs.reverse.filter staysInLinks).lookup key := by
    rw [Dict.get?_ofList_eq_lookup_reverse, List.reverse_append, ← List.filter_reverse]
    rfl
  have hall : asksForAll (Dict.ofList (pairs.filter staysInLinks ++ (startingAt row take).parameters)) = false := by
    have hfetch := hget "fetchAll"
    rw [Entries.lookup_cons_eq, if_neg (by decide), Entries.lookup_cons_eq, if_neg (by decide),
      lookup_filter (fun _ => rfl), ← Dict.get?_ofList_eq_lookup_reverse] at hfetch
    rw [asksForAll, hfetch]
    exact hpaged
  refine ofQuery_eq_ok_iff.2 ⟨take, takeOf_of_repr (hget "take") hpos htake default, some (Nat.repr row), ?_, ?_⟩
  · exact offsetOf_of_repr (hget "cursor") hrow
  · rw [hall]
    rfl

variable {request : Url} {row take : Nat}

theorem pairsIn_text (h : request.IsDivided) : pairsIn request.text = Url.Form.decode (request.query.getD "") := by
  rw [pairsIn, h.queryIn_text]

/-- The link with a page leads to the page. -/
theorem leadsTo_inUrl (h : request.IsDivided) (hrow : row < Nat.pow 2 64) (hpos : 0 < take)
    (htake : take < Nat.pow 2 64) (hpaged : asksForAll (Dict.ofList (pairsIn request.text)) = false) :
    LeadsTo request ((startingAt row take).inUrl request).text (startingAt row take) := by
  have hlink : ((startingAt row take).inUrl request).IsDivided :=
    h.withQuery fun hmem => Url.Form.encode_marks hmem rfl
  have hpairs : pairsIn ((startingAt row take).inUrl request).text =
      (pairsIn request.text).filter staysInLinks ++ (startingAt row take).parameters := by
    rw [pairsIn_text hlink, pairsIn_text h]
    exact Url.Form.decode_encode _
  exact
    { unchanged := ⟨_, rfl⟩
      front := by rw [hlink.frontIn_text, h.frontIn_text]; rfl
      fragment := by rw [hlink.fragmentIn_text, h.fragmentIn_text]; rfl
      pairs := ⟨Nat.repr row, rfl, hpairs⟩
      asks := fun default => by rw [hpairs]; exact ofQuery_link hrow hpos htake hpaged default }

theorem At.leadsTo_next (hc : c.At row take) (h : request.IsDivided) (hpos : 0 < take)
    (hfits : row + take < Nat.pow 2 64) (hpaged : asksForAll (Dict.ofList (pairsIn request.text)) = false)
    {returned : Nat} {total : Option Nat} {next : Cursor} (hnext : c.next? returned total = some next) :
    LeadsTo request (next.inUrl request).text next := by
  rw [hc.next?_inv hnext]
  exact leadsTo_inUrl h hfits hpos (by omega) hpaged

theorem At.leadsTo_prev (hc : c.At row take) (h : request.IsDivided) (hpos : 0 < take)
    (hfits : row + take < Nat.pow 2 64) (hpaged : asksForAll (Dict.ofList (pairsIn request.text)) = false)
    {prev : Cursor} (hprev : c.prev? = some prev) : LeadsTo request (prev.inUrl request).text prev := by
  rw [hc.prev?_eq] at hprev
  split at hprev
  · cases hprev
  · rw [← Option.some_inj.1 hprev]
    exact leadsTo_inUrl h (by omega) hpos (by omega) hpaged

end Cursor

/-- Links that are made of cursors lead to them if each does. -/
theorem rel_map_inUrl {request : Url} {target? : Option Cursor}
    (h : ∀ target, target? = some target → LeadsTo request (target.inUrl request).text target) :
    Option.Rel (LeadsTo request) (target?.map fun target => (target.inUrl request).text) target? := by
  cases target? with
  | none => exact .none
  | some target => exact .some (h target rfl)

/-- Whatever URL a page is asked for with, the links of the page are that URL as it is, a link to the next page exactly
if there is one, and a link to the previous page exactly if there is one. Each leads to the cursor that it is for. -/
theorem links_lead_to_cursors {given : String} {request : Url} {default : Nat} {c : Cursor}
    (hrequest : Url.parse given = .ok request)
    (hcursor : Cursor.ofQuery (Dict.ofList (pairsIn request.text)) default = .ok c)
    (hfits : ∀ row, c.position = .ok row → row + c.take < Nat.pow 2 64) (returned : Nat) (total : Option Nat) :
    (c.links request returned total).toSelf = some request.text ∧
      Option.Rel (LeadsTo request) (c.links request returned total).next (c.next? returned total) ∧
      Option.Rel (LeadsTo request) (c.links request returned total).prev c.prev? := by
  have hdivided := Url.isDivided_of_parse hrequest
  obtain ⟨⟨row, hrow⟩, hpos, hall⟩ := Cursor.position_of_ofQuery hcursor
  have hlimit := hfits row hrow
  cases hpaged : c.fetchAll with
  | true =>
    have hnext : c.next? returned total = none := by rw [Cursor.next?, hpaged, Bool.true_or, if_pos rfl]
    have hprev : c.prev? = none := by rw [Cursor.prev?, hpaged, if_pos rfl]
    rw [Cursor.links, hnext, hprev]
    exact ⟨rfl, .none, .none⟩
  | false =>
    have hat : c.At row c.take := ⟨hrow, rfl, hpaged⟩
    have hasks := hall.symm.trans hpaged
    refine ⟨rfl, rel_map_inUrl fun next hnext => ?_, rel_map_inUrl fun prev hprev => ?_⟩
    · exact hat.leadsTo_next hdivided hpos hlimit hasks hnext
    · exact hat.leadsTo_prev hdivided hpos hlimit hasks hprev

/-- The pairs of a request for tags of two kinds, the last of whose cursors counts. -/
def tagPairs : List (String × String) :=
  [("cursor", "0"), ("kind", "a&b"), ("kind", "c"), ("cursor", "26"), ("take", "13")]

def tagRequest : Url :=
  ⟨"app", "", "", some "api", none, .segments ["tags"], some (Url.Form.encode tagPairs), some "top"⟩

/-- A full page of tags has a next page and a previous one. -/
theorem links_lead_to_cursors_tags :
    Url.parse "app://api/tags?cursor=0&kind=a%26b&kind=c&cursor=26&take=13#top" = .ok tagRequest ∧
    Cursor.ofQuery (Dict.ofList (pairsIn tagRequest.text)) 26 = .ok ⟨some "26", 13, false⟩ ∧
    Option.Rel (LeadsTo tagRequest) ((⟨some "26", 13, false⟩ : Cursor).links tagRequest 13 (some 40)).next
      (some ⟨some "39", 13, false⟩) ∧
    Option.Rel (LeadsTo tagRequest) ((⟨some "26", 13, false⟩ : Cursor).links tagRequest 13 (some 40)).prev
      (some ⟨some "13", 13, false⟩) := by
  have hparse : Url.parse "app://api/tags?cursor=0&kind=a%26b&kind=c&cursor=26&take=13#top" = .ok tagRequest := by
    decide +kernel
  have hpairs : pairsIn tagRequest.text = tagPairs :=
    (Cursor.pairsIn_text (Url.isDivided_of_parse hparse)).trans (Url.Form.decode_encode tagPairs)
  have hcursor : Cursor.ofQuery (Dict.ofList (pairsIn tagRequest.text)) 26 = .ok ⟨some "26", 13, false⟩ := by
    rw [hpairs]
    rfl
  have hfits : ∀ row, (⟨some "26", 13, false⟩ : Cursor).position = .ok row → row + 13 < Nat.pow 2 64 := by
    rintro row ⟨⟩
    decide
  exact ⟨hparse, hcursor, (links_lead_to_cursors hparse hcursor hfits 13 (some 40)).2⟩

end EntityGraph.Paging
