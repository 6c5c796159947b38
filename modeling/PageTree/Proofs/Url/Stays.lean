import PageTree.Proofs.Url.Text

/-!
# Addresses that stay

An address that is accepted is not always read back from its text.  If no authority is left in front
of its path, then the path may begin as an authority or as a scheme does, and is taken for one; the
path of an address that is `Placed` does not.  Moreover, escapes in a host are written with letters
in upper case, which are put into lower case the next time.  An address that is placed and whose
host is left alone `Stays`: it is made of its own parts (`made_parts`), up to a port that its scheme
implies, and it is read back from its text (`parse_toText`).  This is what becomes of every address
that is placed, once it is made of its own parts (`Again.stays`).

Nothing less will do: an address that has the same scheme and path after its query was changed and
its text was read is placed (`placed_of_return`), and if it has the same host as well, then it stays
(`stays_of_return`).
-/

namespace PageTree.Url

open Text

/-- An address without a port that its scheme implies. -/
def settled (u : Url) : Url :=
  { u with port := if impliedPort u.scheme = u.port then none else u.port }

/-- Without an authority in front of it, the path does not begin as an authority would, nor, without
a scheme, as a scheme would. -/
structure Placed (u : Url) : Prop where
  path : u.settled.hasAuthority = false → splitAuthority u.path.toList = ([], u.path.toList)
  start : u.settled.hasAuthority = false → u.scheme = "" →
    splitScheme u.path.toList = ([], u.path.toList)

/-- An address is left as it is when it is brought into normal form again: its path is taken for
nothing else, and its host is left alone. -/
structure Stays [HostNames] (u : Url) : Prop extends Placed u where
  host : normalHost (hostText u.host) = .ok u.host

/-- What is made of the parts of an address: its host is brought into normal form again, a port that
its scheme implies is dropped, and its query may be another one. -/
structure Again [HostNames] (u w : Url) : Prop where
  scheme : w.scheme = u.scheme
  userinfo : w.userinfo = u.userinfo
  host : normalHost (hostText u.host) = .ok w.host
  port : w.port = u.settled.port
  path : w.path = u.path
  fragment : w.fragment = u.fragment

/-! ## Parts that are read again -/

/-- A port that is dropped leaves no authority where there was none. -/
lemma hasAuthority_of_settled {u : Url} (h : u.settled.hasAuthority = true) :
    u.hasAuthority = true := by
  unfold settled hasAuthority at *
  dsimp only at h
  split at h
  · rw [Option.isSome_none, Bool.or_false] at h
    rw [h, Bool.true_or]
  · exact h

/-- A port that is dropped is not dropped again. -/
lemma settled_settled (u : Url) : u.settled.settled = u.settled := by
  unfold settled
  dsimp only
  split
  · rw [ite_self]
  · rfl

/-- A port that is read again is dropped if the scheme implies it. -/
lemma normalPort_portText {u : Url} (hu : Normal u) :
    normalPort u.scheme (portText u.port) = .ok u.settled.port := by
  unfold settled
  dsimp only
  cases hport : u.port with
  | none => exact congrArg Except.ok (ite_self none).symm
  | some p =>
    have hread := hu.port p hport
    have hne : ¬ (toString p).toList.isEmpty = true := by
      rw [List.isEmpty_iff]
      exact toString_ne_nil p
    unfold normalPort portText
    rw [if_neg hne, String.ofList_toList, hread]

/-- A scheme is in lower case. -/
lemma Normal.lower_scheme {u : Url} (hu : Normal u) :
    u.scheme.toList.map Char.toLower = u.scheme.toList := by
  refine (List.map_congr_left fun c hc => ?_).trans (List.map_id _)
  exact (hu.scheme c hc).2

/-- A path is left alone when it is escaped and, where that is to be done, its dot segments are
resolved. -/
lemma Normal.path_again {u : Url} (hu : Normal u) {resolves : Bool}
    (h : resolves = true → u.scheme ≠ "" ∨ u.hasAuthority = true) :
    String.ofList (escape pathSafe
      (if resolves then resolveDots u.path.toList else u.path.toList)) = u.path := by
  have hresolve : (if resolves then resolveDots u.path.toList else u.path.toList) =
      u.path.toList := by
    split
    · rename_i hresolves
      exact (hu.plain (h hresolves)).resolveDots_eq
    · rfl
  rw [hresolve, escape_eq_self _ (by decide) hu.path, String.ofList_toList]

/-- There is a scheme exactly if it is not empty. -/
lemma scheme_ne_iff (u : Url) : (!u.scheme.toList.isEmpty) = true ↔ u.scheme ≠ "" := by
  rw [Bool.not_eq_true', List.isEmpty_eq_false_iff, Ne, String.toList_eq_nil_iff]

/-- Nothing is split off a path exactly if it does not begin with two slashes. -/
lemma splitAuthority_eq_self_iff {path : List Char} :
    splitAuthority path = ([], path) ↔ ['/', '/'].isPrefixOf path = false := by
  constructor
  · intro h
    refine Bool.eq_false_iff.mpr fun hslashes => ?_
    obtain ⟨rest, rfl⟩ := List.isPrefixOf_iff_prefix.mp hslashes
    have hlength := congrArg (fun split => split.2.length) h
    have hshorter : (rest.dropWhile fun c => c != '/' && c != '?' && c != '#').length ≤
        rest.length := (List.dropWhile_sublist _).length_le
    change (rest.dropWhile fun c => c != '/' && c != '?' && c != '#').length = rest.length + 2
      at hlength
    omega
  · intro h
    unfold splitAuthority
    split
    · cases h
    · rfl

/-- Where no scheme is split off, the text is left as it is, unless there is a colon in front. -/
lemma splitScheme_eq_self_iff {cs : List Char} :
    splitScheme cs = ([], cs) ↔ (splitScheme cs).1 = [] ∧ cs.head? ≠ some ':' := by
  constructor
  · intro h
    refine ⟨congrArg Prod.fst h, fun hfirst => ?_⟩
    cases cs with
    | nil => cases hfirst
    | cons c rest =>
      cases Option.some.inj hfirst
      have hrest : rest = ':' :: rest := congrArg Prod.snd h
      exact absurd hrest (List.cons_ne_self _ _).symm
  · rintro ⟨hnone, hcolon⟩
    cases cs with
    | nil => rfl
    | cons c cs =>
      unfold splitScheme at hnone ⊢
      dsimp only at hnone ⊢
      split at hnone
      · rename_i rest hrest
        dsimp only at hnone
        rw [hnone] at hrest
        exact absurd (congrArg List.head? hrest) hcolon
      · rfl

/-- What is left of a path behind two slashes is a shorter path: nothing, or what begins with the
next slash. -/
lemma exists_append_splitAuthority {path : List Char} (h : ['/', '/'].isPrefixOf path = true)
    (hpath : ∀ c ∈ path, keeps pathSafe c = true) :
    ∃ start, start ≠ [] ∧ path = start ++ (splitAuthority path).2 ∧
      ((splitAuthority path).2 = [] ∨ (splitAuthority path).2.head? = some '/') := by
  obtain ⟨rest, rfl⟩ := List.isPrefixOf_iff_prefix.mp h
  have hinner : ∀ c ∈ rest, (c != '/' && c != '?' && c != '#') = false → c = '/' := by
    intro c hc hend
    by_contra hslash
    have hkeep := hpath c (List.mem_append_right _ hc)
    simp only [Bool.and_eq_false_iff, bne_eq_false_iff_eq, hslash, false_or] at hend
    rcases hend with rfl | rfl
    · exact absurd hkeep (by decide)
    · exact absurd hkeep (by decide)
  have hsplit : (splitAuthority (['/', '/'] ++ rest)).2 =
      rest.dropWhile fun c => c != '/' && c != '?' && c != '#' := rfl
  rw [hsplit]
  refine ⟨['/', '/'] ++ rest.takeWhile fun c => c != '/' && c != '?' && c != '#',
    List.cons_ne_nil _ _, ?_, ?_⟩
  · rw [List.append_assoc, List.takeWhile_append_dropWhile]
  · cases hend : rest.dropWhile fun c => c != '/' && c != '?' && c != '#' with
    | nil => exact .inl rfl
    | cons c others =>
      right
      have hmem : c ∈ rest := by
        have hsuffix := List.dropWhile_suffix (l := rest)
          fun c => c != '/' && c != '?' && c != '#'
        rw [hend] at hsuffix
        exact hsuffix.subset List.mem_cons_self
      have hstop := List.head?_dropWhile_not (fun c => c != '/' && c != '?' && c != '#') rest
      rw [hend] at hstop
      exact congrArg some (hinner c hmem (by simpa using hstop))

/-- The end of a path without dot segments, from a slash on, has none either. -/
lemma Plain.of_append {start path : List Char} (h : Plain (start ++ path))
    (hpath : path = [] ∨ path.head? = some '/') : Plain path := by
  rcases hpath with rfl | hslash
  · intro s hs
    rw [List.mem_singleton.mp hs]
    decide
  · cases path with
    | nil => cases hslash
    | cons c path =>
      cases Option.some.inj hslash
      intro s hs
      rcases List.mem_cons.mp hs with rfl | hs
      · decide
      · refine h s ?_
        rw [splitWhere_append (p := (· == '/')) rfl]
        exact List.mem_append_right _ hs

/-- A path without dot segments does not begin with two slashes if it is what is left of it when an
authority is split off. -/
lemma not_slashes_of_splitAuthority {path : List Char} (hplain : Plain path)
    (hpath : ∀ c ∈ path, keeps pathSafe c = true)
    (h : path = escape pathSafe (resolveDots (splitAuthority path).2)) :
    ['/', '/'].isPrefixOf path = false := by
  refine Bool.eq_false_iff.mpr fun hslashes => ?_
  obtain ⟨start, hne, happend, hend⟩ := exists_append_splitAuthority hslashes hpath
  have hrest : Plain (splitAuthority path).2 := by
    rw [happend] at hplain
    exact hplain.of_append hend
  have hkeep : ∀ c ∈ (splitAuthority path).2, keeps pathSafe c = true := by
    intro c hc
    refine hpath c ?_
    rw [happend]
    exact List.mem_append_right _ hc
  rw [hrest.resolveDots_eq, escape_eq_self _ (by decide) hkeep] at h
  rw [← h] at happend
  exact hne (List.append_left_eq_self.mp happend.symm)

variable [HostNames]

/-! ## Reading the text of an address -/

/-- An address that stays is made of its own parts, without a port that its scheme implies. -/
theorem made_parts {u : Url} (hu : Normal u) (hstays : u.Stays) (query : Option (List Char)) :
    Made (u.parts query)
      { u.settled with query := query.map fun q => String.ofList (escape querySafe q) } where
  scheme := by
    dsimp only [parts]
    rw [hu.lower_scheme, String.ofList_toList]
    rfl
  userinfo := by
    dsimp only [parts]
    rw [hu.splitUserHostPort_authority, escape_eq_self _ (by decide) hu.userinfo,
      String.ofList_toList]
    rfl
  host := by
    dsimp only [parts]
    rw [hu.splitUserHostPort_authority]
    exact hstays.host
  port := by
    dsimp only [parts]
    rw [hu.splitUserHostPort_authority, String.ofList_toList]
    exact normalPort_portText hu
  fits := by
    refine (checkPath_eq_ok_iff _ _ _).mpr ⟨?_, ?_⟩
    · intro hauthority
      exact hu.slash (hasAuthority_of_settled hauthority)
    · intro hscheme hauthority
      have hnone : u.scheme = "" := by
        rw [Bool.not_eq_false', List.isEmpty_iff] at hscheme
        exact String.toList_eq_nil_iff.mp hscheme
      exact ⟨splitAuthority_eq_self_iff.mp (hstays.path hauthority),
        (splitScheme_eq_self_iff.mp (hstays.start hauthority hnone)).2⟩
  path := by
    refine (hu.path_again fun hresolves => ?_).symm
    exact (Bool.or_eq_true_iff.mp hresolves).imp (scheme_ne_iff u).mp hasAuthority_of_settled
  query := rfl
  fragment := hu.escape_fragment.symm

/-- The text of an address that stays is taken apart into its parts. -/
lemma ofText_toText_of_stays {u : Url} (hu : Normal u) (hstays : u.Stays)
    (hsettled : u.settled = u) :
    Raw.ofText u.toText.toList = u.parts (u.query.map String.toList) := by
  have hpath := hstays.path
  have hstart := hstays.start
  rw [hsettled] at hpath hstart
  have hnone : u.hasAuthority = false → authorityPart u.authority.toList = [] ∧
      u.authority.toList = [] := by
    intro h
    have hempty := (authority_eq_nil_iff u).mpr h
    exact ⟨by rw [authorityPart, if_pos hempty], hempty⟩
  have hscheme : splitScheme u.front =
      (u.scheme.toList, authorityPart u.authority.toList ++ u.path.toList) := by
    by_cases h : u.scheme ≠ "" ∨ u.hasAuthority = true
    · exact hu.splitScheme_front h
    · rw [not_or, not_not, Bool.not_eq_true] at h
      rw [front, h.1, (hnone h.2).1]
      exact hstart h.2 h.1
  have hauthority : splitAuthority (authorityPart u.authority.toList ++ u.path.toList) =
      (u.authority.toList, u.path.toList) := by
    by_cases h : u.hasAuthority = true
    · exact hu.splitAuthority_front h
    · rw [Bool.not_eq_true] at h
      rw [(hnone h).1, (hnone h).2]
      exact hpath h
  rw [hu.ofText_toText, hscheme]
  dsimp only
  rw [hauthority]
  rfl

/-- An address that stays is read back from its text, unless that is too long. -/
theorem parse_toText {u : Url} (hu : Normal u) (hstays : u.Stays) (hsettled : u.settled = u)
    (hlength : u.toText.toList.length ≤ maxLength) : parse u.toText = .ok u := by
  have hmade := made_parts hu hstays (u.query.map String.toList)
  rw [hu.escape_query, hsettled] at hmade
  have hvisible : ∀ except c, keeps (visibleExcept except) c = true → isControl c = false :=
    fun _ _ hc => isControl_of_visible (visible_of_keeps (fun _ => visible_of_visibleExcept) hc)
  have hcontrol : ∀ c ∈ u.toText.toList, isControl c = false := by
    intro c hc
    rw [toList_toText] at hc
    rcases List.mem_append.mp hc with hc | hc
    · rcases List.mem_append.mp hc with hc | hc
      · exact (hu.mem_front hc).2.2
      · cases hquery : u.query with
        | none =>
          rw [hquery] at hc
          cases hc
        | some q =>
          rw [hquery] at hc
          rcases List.mem_cons.mp hc with rfl | hc
          · decide
          · exact hvisible _ c (hu.query q hquery c hc)
    · cases hfragment : u.fragment with
      | none =>
        rw [hfragment] at hc
        cases hc
      | some f =>
        rw [hfragment] at hc
        rcases List.mem_cons.mp hc with rfl | hc
        · decide
        · exact hvisible _ c (hu.fragment f hfragment c hc)
  unfold parse
  dsimp only
  rw [if_neg (Nat.not_lt.mpr hlength), findPosition?_eq_none_iff.mpr hcontrol,
    ofText_toText_of_stays hu hstays hsettled]
  exact (ofRaw_eq_ok_iff _ _).mpr hmade

/-- With another query an address is in normal form again. -/
lemma Normal.withQuery {u w : Url} {query : String} (hu : Normal u)
    (h : u.withQuery query = .ok w) : Normal w :=
  (made_of_withQuery h).normal (hu.split_parts _)

/-- With another query that needs no escapes, an address that stays is the same in all other parts,
unless one of them is too long. -/
lemma withQuery_eq_ok_iff {u : Url} {query : String} (hu : Normal u) (hstays : u.Stays)
    (hquery : ∀ c ∈ query.toList, keeps querySafe c = true) (w : Url) :
    u.withQuery query = .ok w ↔
      u.longPart? query = none ∧ w = { u.settled with query := some query } := by
  have hmade := made_parts hu hstays (some query.toList)
  have hkeep := escape_eq_self querySafe (by decide) hquery
  rw [Option.map_some, hkeep, String.ofList_toList] at hmade
  have hparts := (ofRaw_eq_ok_iff _ _).mpr hmade
  unfold withQuery
  split
  · rename_i part hlong
    refine iff_of_false nofun fun h => ?_
    rw [hlong] at h
    exact Option.some_ne_none part h.1
  · rename_i hshort
    constructor
    · intro h
      exact ⟨hshort, Except.ok.inj (h.symm.trans hparts)⟩
    · rintro ⟨-, rfl⟩
      exact hparts

/-! ## Addresses that are made again -/

section Again

variable {u w : Url} {query : Option (List Char)}

/-- An authority is there again, unless it was nothing but a port that is dropped. -/
lemma hasAuthority_again (hu : Normal u) (hhost : normalHost (hostText u.host) = .ok w.host)
    (huserinfo : w.userinfo = u.userinfo) (hport : w.port = u.settled.port) :
    w.hasAuthority = u.settled.hasAuthority := by
  have hempty : decide (w.host ≠ "") = decide (u.host ≠ "") :=
    decide_eq_decide.mpr (not_congr (host_eq_empty_iff hu.form hhost))
  rw [hasAuthority, huserinfo, hempty, hport]
  rfl

/-- The parts of an address make the address again. -/
theorem Made.again (h : Made (u.parts query) w) (hu : Normal u) : Again u w := by
  have hsplit : splitUserHostPort (u.parts query).authority = _ := hu.splitUserHostPort_authority
  have hscheme : w.scheme = u.scheme := by
    have hmade := h.scheme
    dsimp only [parts] at hmade
    rwa [hu.lower_scheme, String.ofList_toList] at hmade
  have hhost : normalHost (hostText u.host) = .ok w.host := by
    have hmade := h.host
    rwa [hsplit] at hmade
  have huserinfo : w.userinfo = u.userinfo := by
    have hmade := h.userinfo
    rwa [hsplit, escape_eq_self _ (by decide) hu.userinfo, String.ofList_toList] at hmade
  have hport : w.port = u.settled.port := by
    have hmade := h.port
    rw [hsplit] at hmade
    dsimp only [parts] at hmade
    rw [String.ofList_toList, normalPort_portText hu] at hmade
    exact (Except.ok.inj hmade).symm
  have hkeeps : w.hasAuthority = true → u.hasAuthority = true := by
    rw [hasAuthority_again hu hhost huserinfo hport]
    exact hasAuthority_of_settled
  have hpath : w.path = u.path := by
    refine h.path.trans (hu.path_again fun hresolves => ?_)
    exact (Bool.or_eq_true_iff.mp hresolves).imp (scheme_ne_iff u).mp hkeeps
  exact ⟨hscheme, huserinfo, hhost, hport, hpath, h.fragment.trans hu.escape_fragment⟩

namespace Again

/-- A host that is left alone is kept. -/
lemma host_eq (h : Again u w) (hhost : normalHost (hostText u.host) = .ok u.host) :
    w.host = u.host :=
  Except.ok.inj (h.host.symm.trans hhost)

/-- An authority is there again, unless it was nothing but a port that is dropped. -/
lemma hasAuthority_eq (h : Again u w) (hu : Normal u) :
    w.hasAuthority = u.settled.hasAuthority :=
  hasAuthority_again hu h.host h.userinfo h.port

/-- No port is left that is to be dropped. -/
lemma settled_eq (h : Again u w) : w.settled = w := by
  have hport : (if impliedPort w.scheme = w.port then none else w.port) = w.port := by
    rw [h.scheme, h.port]
    exact congrArg Url.port (settled_settled u)
  rw [settled, hport]

/-- A path is taken for nothing else from then on, and a host is left alone. -/
theorem stays (h : Again u w) (hu : Normal u) (hplaced : u.Placed) : w.Stays := by
  refine ⟨⟨?_, ?_⟩, (normalHost_hostText hu.form h.host).1⟩
  · rw [h.settled_eq, h.hasAuthority_eq hu, h.path]
    exact hplaced.path
  · rw [h.settled_eq, h.hasAuthority_eq hu, h.path, h.scheme]
    exact hplaced.start

end Again

/-- With another query, an address is made again. -/
lemma again_of_withQuery {query : String} (hu : Normal u) (h : u.withQuery query = .ok w) :
    Again u w :=
  (made_of_withQuery h).again hu

end Again

/-! ## Nothing less will do -/

section Return

variable {u w v : Url} {query : String}

/-- An address has the same scheme and path after its query was changed and its text was read only
if its path is taken for nothing else. -/
theorem placed_of_return (hu : Normal u) (hw : u.withQuery query = .ok w)
    (hv : parse w.toText = .ok v) (hscheme : v.scheme = u.scheme) (hpath : v.path = u.path) :
    u.Placed := by
  have hmade := made_of_withQuery hw
  have hagain := hmade.again hu
  have hnormal := hmade.normal (hu.split_parts _)
  have hread := (normal_of_parse hv).1
  rw [hnormal.ofText_toText] at hread
  have hlone : u.settled.hasAuthority = false →
      ['/', '/'].isPrefixOf u.path.toList = false ∧
        (u.scheme = "" → splitScheme u.path.toList = ([], u.path.toList)) := by
    intro hnone
    rw [← hagain.hasAuthority_eq hu] at hnone
    have hempty := (authority_eq_nil_iff w).mpr hnone
    by_cases hlocal : u.scheme = ""
    · have hfits := ((checkPath_eq_ok_iff _ _ _).mp hmade.fits).2 (by rw [parts, hlocal]; rfl) hnone
      refine ⟨hfits.1, fun _ => splitScheme_eq_self_iff.mpr ⟨?_, hfits.2⟩⟩
      have hfront : w.front = u.path.toList := by
        rw [front, hagain.scheme, hlocal, hempty, hagain.path]
        rfl
      have hnothing := hread.scheme
      dsimp only at hnothing
      rw [hscheme, hlocal, hfront] at hnothing
      exact List.map_eq_nil_iff.mp (String.ofList_eq_empty_iff.mp hnothing.symm)
    · -- behind a scheme, an authority that is split off makes the path shorter
      refine ⟨not_slashes_of_splitAuthority (hu.plain (.inl hlocal)) hu.path ?_,
        fun h => absurd h hlocal⟩
      have hwith : w.scheme ≠ "" := hagain.scheme ▸ hlocal
      have hresolve : (!w.scheme.toList.isEmpty) = true := (scheme_ne_iff w).mpr hwith
      have hrest := hread.path
      rw [hnormal.splitScheme_front (.inl hwith)] at hrest
      dsimp only at hrest
      rw [hempty, hagain.path, authorityPart, if_pos rfl, List.nil_append, hresolve, Bool.true_or,
        if_pos rfl, hpath] at hrest
      have hpaths := congrArg String.toList hrest
      rwa [String.toList_ofList] at hpaths
  exact ⟨fun hnone => splitAuthority_eq_self_iff.mpr (hlone hnone).1,
    fun hnone => (hlone hnone).2⟩

/-- An address has the same host as well only if it stays. -/
theorem stays_of_return (hu : Normal u) (hw : u.withQuery query = .ok w)
    (hv : parse w.toText = .ok v) (hscheme : v.scheme = u.scheme) (hpath : v.path = u.path)
    (hhost : v.host = u.host) : u.Stays := by
  have hplaced := placed_of_return hu hw hv hscheme hpath
  have hagain := again_of_withQuery hu hw
  have hback := parse_toText (hu.withQuery hw) (hagain.stays hu hplaced) hagain.settled_eq
    (length_of_parse hv)
  rw [hback] at hv
  cases hv
  refine ⟨hplaced, ?_⟩
  have hname := hagain.host
  rwa [hhost] at hname

end Return

end PageTree.Url
