import PageTree.Proofs.Url.Solid
import PageTree.Standard

/-!
# The standard library of addresses

The library that the definitions on addresses and queries make obeys the laws of such libraries
(`lawfulParts`, `lawfulTexts`).  It keeps the parts of an address if that stays, and takes any
parameters that are not too long (`keepsParts_of_stays`, `takes_of_stays`).
-/

namespace PageTree

namespace Url

/-- Parameters are written with characters that are kept in a query. -/
lemma keeps_toText (q : QueryParams) : ∀ c ∈ q.toText.toList, keeps querySafe c = true := by
  intro c hc
  rcases QueryParams.mem_toText hc with hsafe | rfl | rfl | rfl | rfl
  · rw [keeps, hsafe, Bool.true_or]
  all_goals decide

/-- The parameters in the text of an address are those in its query. -/
lemma paramsOf_toText {u : Url} (hu : u.Normal) :
    paramsOf u.toText = QueryParams.ofText (u.query.getD "") := by
  rw [paramsOf, hu.ofText_toText, hu.escape_query]

variable [HostNames] {s : String} {u u' w w' v v' : Url} {q q' : QueryParams}
  {query query' : String}

/-! ## Parameters -/

/-- An address with parameters has them as its query. -/
lemma query_withQuery (h : u.withQuery q.toText = .ok w) : w.query = some q.toText := by
  have hquery := (made_of_withQuery h).query
  rw [parts, Option.map_some, escape_eq_self _ (by decide) (keeps_toText q),
    String.ofList_toList] at hquery
  exact hquery

/-- Parameters are read back from the text of an address that was given them. -/
lemma paramsOf_of_withQuery (hu : Normal u) (hq : q.Listed) (h : u.withQuery q.toText = .ok w) :
    paramsOf w.toText = q := by
  rw [paramsOf_toText (hu.withQuery h), query_withQuery h, Option.getD_some,
    QueryParams.ofText_toText hq]

/-! ## The other parts -/

/-- Parts that differ in the query alone make addresses that do. -/
lemma Made.eq_of_parts {raw raw' : Raw} (h : Made raw u) (h' : Made raw' u')
    (hscheme : raw'.scheme = raw.scheme) (hauthority : raw'.authority = raw.authority)
    (hpath : raw'.path = raw.path) (hfragment : raw'.fragment = raw.fragment) :
    u' = { u with query := u'.query } := by
  have hscheme' : u'.scheme = u.scheme := by rw [h'.scheme, h.scheme, hscheme]
  have huserinfo : u'.userinfo = u.userinfo := by rw [h'.userinfo, h.userinfo, hauthority]
  have hhost : u'.host = u.host := by
    have hname := h'.host
    rw [hauthority] at hname
    exact Except.ok.inj (hname.symm.trans h.host)
  have hport : u'.port = u.port := by
    have hnumber := h'.port
    rw [hauthority, hscheme] at hnumber
    exact Except.ok.inj (hnumber.symm.trans h.port)
  have hpath' : u'.path = u.path := by
    have hthere : u'.hasAuthority = u.hasAuthority := by
      unfold hasAuthority
      rw [huserinfo, hhost, hport]
    rw [h'.path, h.path, hscheme, hpath, hthere]
  have hfragment' : u'.fragment = u.fragment := by rw [h'.fragment, h.fragment, hfragment]
  cases u'
  dsimp only at *
  subst hscheme' huserinfo hhost hport hpath' hfragment'
  rfl

/-- With different queries, an address has the same other parts. -/
lemma eq_of_withQuery (hw : u.withQuery query = .ok w) (hw' : u.withQuery query' = .ok w') :
    w' = { w with query := w'.query } :=
  (made_of_withQuery hw).eq_of_parts (made_of_withQuery hw') rfl rfl rfl rfl

/-- What is written of an address with different queries is read with the same other parts. -/
theorem sameParts_of_withQuery (hu : Normal u) (hw : u.withQuery query = .ok w)
    (hw' : u.withQuery query' = .ok w') (hv : parse w.toText = .ok v)
    (hv' : parse w'.toText = .ok v') : SameParts v v' := by
  have hmade := (normal_of_parse hv).1
  have hmade' := (normal_of_parse hv').1
  rw [(hu.withQuery hw).ofText_toText] at hmade
  rw [(hu.withQuery hw').ofText_toText, eq_of_withQuery hw hw'] at hmade'
  rw [hmade.eq_of_parts hmade' rfl rfl rfl rfl]
  exact ⟨rfl, rfl, rfl, rfl⟩

/-- An address whose query is changed is read as it was written if it is read with the scheme and
the path that it had before. -/
lemma eq_of_return (hu : Normal u) (hw : u.withQuery query = .ok w) (hv : parse w.toText = .ok v)
    (hscheme : v.scheme = u.scheme) (hpath : v.path = u.path) :
    v = w ∧ w.Stays ∧ w.settled = w := by
  have hplaced := placed_of_return hu hw hv hscheme hpath
  have hagain := again_of_withQuery hu hw
  have hstays := hagain.stays hu hplaced
  have hback := parse_toText (hu.withQuery hw) hstays hagain.settled_eq (length_of_parse hv)
  exact ⟨Except.ok.inj (hv.symm.trans hback), hstays, hagain.settled_eq⟩

/-- An address that was given a query takes it. -/
lemma longPart?_of_withQuery (h : u.withQuery query = .ok w) : u.longPart? query = none := by
  unfold withQuery at h
  split at h
  · cases h
  · assumption

/-- Such an address is changed again like the first time. -/
theorem withQuery_of_return (hu : Normal u) (hw : u.withQuery query = .ok w)
    (hv : parse w.toText = .ok v) (hscheme : v.scheme = u.scheme) (hpath : v.path = u.path)
    (q : QueryParams) : v.withQuery q.toText = u.withQuery q.toText := by
  obtain ⟨rfl, hstays, hsettled⟩ := eq_of_return hu hw hv hscheme hpath
  have hnormal := hu.withQuery hw
  have hparts :
      ofRaw (v.parts (some q.toText.toList)) = ofRaw (u.parts (some q.toText.toList)) := by
    have hagain := made_parts hnormal hstays (some q.toText.toList)
    rw [hsettled, Option.map_some, escape_eq_self querySafe (by decide) (keeps_toText q),
      String.ofList_toList] at hagain
    have hmade := made_of_withQuery hw
    have hfirst : Made (u.parts (some q.toText.toList)) { v with query := some q.toText } :=
      ⟨hmade.scheme, hmade.userinfo, hmade.host, hmade.port, hmade.fits, hmade.path, by
        rw [parts, Option.map_some, escape_eq_self querySafe (by decide) (keeps_toText q),
          String.ofList_toList], hmade.fragment⟩
    rw [(ofRaw_eq_ok_iff _ _).mpr hagain, (ofRaw_eq_ok_iff _ _).mpr hfirst]
  have hlong : v.longPart? q.toText = u.longPart? q.toText := by
    rw [longPart?_eq (longPart?_of_withQuery hw),
      longPart?_eq (longPart?_of_length (length_of_parse hv))]
  unfold withQuery
  rw [hlong]
  split
  · rfl
  · exact hparts

end Url

namespace Standard

open Url

variable [HostNames] {s : String} {u w v : Url} {q : QueryParams}

/-- The library reads what the definition on texts does. -/
lemma read_eq_ok_iff : UrlLibrary.read s = .ok u ↔ Url.parse s = .ok u :=
  mapError_eq_ok_iff _ _ _

/-- And so it is with changes of a query. -/
lemma withQuery_eq_ok_iff {query : String} :
    UrlLibrary.withQuery u query = .ok w ↔ u.withQuery query = .ok w :=
  mapError_eq_ok_iff _ _ _

/-- The standard library obeys the laws of parameters and of the other parts. -/
scoped instance lawfulParts : UrlLibrary.LawfulParts where
  params_of_read hu := by
    rw [read_eq_ok_iff] at hu
    change QueryParams.ofText _ = _
    rw [paramsOf, (Url.normal_of_parse hu).1.query]
  setParam_eq _ _ _ := rfl
  paramsOf_write hu hq hw :=
    paramsOf_of_withQuery (Url.normal_of_parse (read_eq_ok_iff.mp hu)).2 hq
      (withQuery_eq_ok_iff.mp hw)
  sameParts hu h h' :=
    sameParts_of_withQuery (Url.normal_of_parse (read_eq_ok_iff.mp hu)).2
      (withQuery_eq_ok_iff.mp h.changed) (withQuery_eq_ok_iff.mp h'.changed)
      (read_eq_ok_iff.mp h.read) (read_eq_ok_iff.mp h'.read)
  withQuery_again hu h hscheme hpath _ q' :=
    congrArg (Except.mapError _) (withQuery_of_return
      (Url.normal_of_parse (read_eq_ok_iff.mp hu)).2 (withQuery_eq_ok_iff.mp h.changed)
      (read_eq_ok_iff.mp h.read) hscheme hpath q')

/-- The standard library obeys the laws of texts. -/
scoped instance lawfulTexts : UrlLibrary.LawfulTexts where
  isBlank_write hu hs hw := isBlank_toText (read_eq_ok_iff.mp hu) hs (withQuery_eq_ok_iff.mp hw)
  colon_write hu hw := head?_ne_colon (read_eq_ok_iff.mp hu) (withQuery_eq_ok_iff.mp hw)
  comma_write hu hw := comma_of_withQuery (read_eq_ok_iff.mp hu) (withQuery_eq_ok_iff.mp hw)

/-! ## What the standard library keeps -/

section Keeps

variable (hu : Url.parse s = .ok u)

include hu

/-- An address whose path is taken for nothing else is read as it was written. -/
lemma eq_of_placed (hplaced : u.Placed) (h : UrlLibrary.Returns u q w v) :
    v = w ∧ Again u v := by
  have hnormal := (Url.normal_of_parse hu).2
  have hw := withQuery_eq_ok_iff.mp h.changed
  have hv := read_eq_ok_iff.mp h.read
  have hagain := again_of_withQuery hnormal hw
  have hback := parse_toText (hnormal.withQuery hw) (hagain.stays hnormal hplaced)
    hagain.settled_eq (length_of_parse hv)
  cases Except.ok.inj (hv.symm.trans hback)
  exact ⟨rfl, hagain⟩

/-- The library keeps the place of an address exactly if its path is taken for nothing else. -/
theorem keepsPlace_iff_placed (h : UrlLibrary.Returns u q w v) :
    UrlLibrary.KeepsPlace u ↔ u.Placed := by
  constructor
  · intro hplace
    exact placed_of_return (Url.normal_of_parse hu).2 (withQuery_eq_ok_iff.mp h.changed)
      (read_eq_ok_iff.mp h.read) (hplace.scheme h) (hplace.path h)
  · intro hplaced
    exact ⟨fun h => (eq_of_placed hu hplaced h).2.scheme,
      fun h => (eq_of_placed hu hplaced h).2.path,
      fun h => (eq_of_placed hu hplaced h).2.fragment⟩

/-- It keeps the parts of an address that stays. -/
lemma keepsParts_of_stays (hstays : u.Stays) : UrlLibrary.KeepsParts u where
  scheme h := (eq_of_placed hu hstays.toPlaced h).2.scheme
  path h := (eq_of_placed hu hstays.toPlaced h).2.path
  fragment h := (eq_of_placed hu hstays.toPlaced h).2.fragment
  host h := (eq_of_placed hu hstays.toPlaced h).2.host_eq hstays.host

/-- It keeps the parts of no other address. -/
theorem keepsParts_iff_stays (h : UrlLibrary.Returns u q w v) :
    UrlLibrary.KeepsParts u ↔ u.Stays := by
  refine ⟨fun hparts => ?_, keepsParts_of_stays hu⟩
  exact stays_of_return (Url.normal_of_parse hu).2 (withQuery_eq_ok_iff.mp h.changed)
    (read_eq_ok_iff.mp h.read) (hparts.scheme h) (hparts.path h) (hparts.host h)

end Keeps

end Standard

end PageTree
