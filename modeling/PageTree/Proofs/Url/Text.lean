import PageTree.Proofs.Url.Normal

/-!
# The text of an address

The characters of an address are those of its parts with separators between them
(`toList_toText`).  As no part holds a separator of the parts behind it, the query and the fragment
are read back from the text (`Normal.ofText_toText`), whatever becomes of the parts in front of
them.  Behind user information, and in front of a port, a host is found again
(`Normal.splitUserHostPort_authority`).
-/

namespace PageTree.Url

open Text

/-! ## Parts with their separators -/

/-- A scheme in front of an address. -/
def schemePart (scheme : List Char) : List Char :=
  if scheme = [] then [] else scheme ++ [':']

/-- An authority in front of a path. -/
def authorityPart (authority : List Char) : List Char :=
  if authority = [] then [] else '/' :: '/' :: authority

/-- A part behind its separator, if there is one. -/
def part (sep : Char) : Option (List Char) → List Char
  | some cs => sep :: cs
  | none => []

/-- What stands in front of the query of an address. -/
def front (u : Url) : List Char :=
  schemePart u.scheme.toList ++ authorityPart u.authority.toList ++ u.path.toList

/-- The characters of a text that stands for another one unless that is empty. -/
lemma toList_unless_empty (s t : String) :
    (if s = "" then "" else t).toList = if s.toList = [] then [] else t.toList := by
  by_cases h : s = ""
  · rw [if_pos h, h]
    rfl
  · rw [if_neg h, if_neg fun hnil => h (String.toList_eq_nil_iff.mp hnil)]

/-- The characters of an authority. -/
lemma toList_authority (u : Url) :
    u.authority.toList =
      userPart u.userinfo.toList ++ hostText u.host ++ portPart (portText u.port) := by
  have huser : (if u.userinfo = "" then "" else u.userinfo ++ "@").toList =
      userPart u.userinfo.toList := by
    rw [userPart, toList_unless_empty, String.toList_append]
    rfl
  have hhost : (if u.host.toList.contains ':' then "[" ++ u.host ++ "]" else u.host).toList =
      hostText u.host := by
    rw [hostText]
    split
    · rw [String.toList_append, String.toList_append]
      rfl
    · rfl
  unfold authority
  rw [String.toList_append, String.toList_append, huser, hhost]
  congr 1
  cases u.port with
  | none => rfl
  | some p =>
    have hne : (toString p).toList ≠ [] := toString_ne_nil p
    rw [portText, portPart, if_neg hne]
    exact String.toList_append

/-- The characters of an address. -/
lemma toList_toText (u : Url) :
    u.toText.toList = u.front ++ part '?' (u.query.map String.toList) ++
      part '#' (u.fragment.map String.toList) := by
  have hscheme : (if u.scheme = "" then "" else u.scheme ++ ":").toList =
      schemePart u.scheme.toList := by
    rw [schemePart, toList_unless_empty, String.toList_append]
    rfl
  have hauthority : (if u.authority = "" then "" else "//" ++ u.authority).toList =
      authorityPart u.authority.toList := by
    rw [authorityPart, toList_unless_empty, String.toList_append]
    rfl
  unfold toText front
  rw [String.toList_append, String.toList_append, String.toList_append, String.toList_append,
    hscheme, hauthority]
  congr 1
  · congr 1
    cases u.query with
    | none => rfl
    | some q => exact String.toList_append
  · cases u.fragment with
    | none => rfl
    | some f => exact String.toList_append

/-- A text with a part behind a separator is cut there. -/
lemma cut_part {sep : Char} {cs : List Char} (h : sep ∉ cs) (b : Option (List Char)) :
    beforeCut sep (cs ++ part sep b) = cs ∧ afterCut sep (cs ++ part sep b) = b := by
  unfold beforeCut afterCut
  cases b with
  | none =>
    rw [part, List.append_nil, cut?_eq_none h]
    exact ⟨rfl, rfl⟩
  | some b =>
    rw [part, cut?_append h]
    exact ⟨rfl, rfl⟩

/-- A text is split at its question mark and its number sign. -/
lemma ofText_append {cs : List Char} {query fragment : Option (List Char)} (hquery : '?' ∉ cs)
    (hfragment : '#' ∉ cs ++ part '?' query) :
    Raw.ofText (cs ++ part '?' query ++ part '#' fragment) =
      { scheme := (splitScheme cs).1
        authority := (splitAuthority (splitScheme cs).2).1
        path := (splitAuthority (splitScheme cs).2).2
        query := query
        fragment := fragment } := by
  obtain ⟨hbody, hend⟩ := cut_part hfragment fragment
  obtain ⟨hfront, hrest⟩ := cut_part hquery query
  rw [ofText_eq, hbody, hend, hfront, hrest]

/-! ## Reading the text of an address -/

/-- Nothing but visible characters stands in what is kept of a part. -/
lemma inner_hostText {u : Url} (hu : Normal u) : ∀ c ∈ hostText u.host, Inner c ∧ c ≠ '@' := by
  intro c hc
  unfold hostText at hc
  split at hc
  · rcases List.mem_append.mp hc with hc | hc
    · rcases List.mem_cons.mp hc with rfl | hc
      · exact ⟨by unfold Inner; decide, by decide⟩
      · exact hu.host c hc
    · rw [List.mem_singleton.mp hc]
      exact ⟨by unfold Inner; decide, by decide⟩
  · exact hu.host c hc

/-- The characters of a port are decimals and signs. -/
lemma mem_portText {port : Option Int} {c : Char} (h : c ∈ portText port) :
    c = '-' ∨ c.isDigit = true := by
  cases port with
  | none => cases h
  | some p => exact mem_toString h

/-- Decimals and signs separate nothing. -/
lemma inner_of_digit {c : Char} (h : c = '-' ∨ c.isDigit = true) : Inner c := by
  rcases h with rfl | h
  · unfold Inner
    decide
  · have hsafe : isUnreserved c = true := by
      rw [isUnreserved, Char.isAlphanum, h, Bool.or_true]
      rfl
    have hkeep : keeps userinfoSafe c = true := by rw [keeps, hsafe, Bool.true_or]
    exact inner_of_keeps_userinfoSafe hkeep

/-- No separators stand in the authority of an address. -/
lemma Normal.inner_authority {u : Url} (hu : Normal u) : ∀ c ∈ u.authority.toList, Inner c := by
  intro c hc
  rw [toList_authority] at hc
  rcases List.mem_append.mp hc with hc | hc
  · rcases List.mem_append.mp hc with hc | hc
    · unfold userPart at hc
      split at hc
      · cases hc
      · rcases List.mem_append.mp hc with hc | hc
        · exact inner_of_keeps_userinfoSafe (hu.userinfo c hc)
        · rw [List.mem_singleton.mp hc]
          unfold Inner
          decide
    · exact (inner_hostText hu c hc).1
  · unfold portPart at hc
    split at hc
    · cases hc
    · rcases List.mem_cons.mp hc with rfl | hc
      · unfold Inner
        decide
      · exact inner_of_digit (mem_portText hc)

/-- The parts of an address are told apart by the separators between them. -/
lemma Normal.split_parts {u : Url} (hu : Normal u) (query : Option (List Char)) :
    (u.parts query).Split where
  scheme c hc := (hu.scheme c hc).1
  first := hu.first
  authority := hu.inner_authority

/-- There is an authority exactly if it is not empty. -/
lemma authority_eq_nil_iff (u : Url) : u.authority.toList = [] ↔ u.hasAuthority = false := by
  have huser : userPart u.userinfo.toList = [] ↔ u.userinfo = "" := by
    rw [userPart, ← String.toList_eq_nil_iff]
    split
    · rename_i h
      exact iff_of_true rfl h
    · rename_i h
      exact iff_of_false (List.append_ne_nil_of_right_ne_nil _ (List.cons_ne_nil _ _)) h
  have hhost : hostText u.host = [] ↔ u.host = "" := by
    rw [hostText, ← String.toList_eq_nil_iff]
    split
    · rename_i h
      refine iff_of_false (List.cons_ne_nil _ _) ?_
      intro hnil
      rw [hnil] at h
      cases h
    · exact Iff.rfl
  have hport : portPart (portText u.port) = [] ↔ u.port.isSome = false := by
    cases u.port with
    | none => exact iff_of_true rfl rfl
    | some p =>
      rw [portText, portPart, if_neg (toString_ne_nil p)]
      exact iff_of_false (List.cons_ne_nil _ _) Bool.noConfusion
  rw [toList_authority, List.append_eq_nil_iff, List.append_eq_nil_iff, huser, hhost, hport]
  simp [hasAuthority]

/-- The authority of an address is taken apart into its user information, its host and its port. -/
lemma Normal.splitUserHostPort_authority {u : Url} (hu : Normal u) :
    splitUserHostPort u.authority.toList =
      (u.userinfo.toList, hostText u.host, portText u.port) := by
  have hshape : (∃ inner, hostText u.host = '[' :: inner ++ [']']) ∨
      ':' ∉ hostText u.host ∧ '[' ∉ hostText u.host := by
    rcases hu.form with hsix | hkeep
    · exact .inl ⟨_, hostText_of_isIPv6 hsix⟩
    · rw [hostText_of_keeps hkeep]
      refine .inr ⟨fun hmem => ?_, fun hmem => ?_⟩
      · exact absurd (hkeep ':' hmem) (by decide)
      · exact absurd (hkeep '[' hmem) (by decide)
  rw [toList_authority]
  exact splitUserHostPort_append hshape (fun hmem => (inner_hostText hu '@' hmem).2 rfl)
    fun _ => mem_portText

/-- A scheme in front of its colon is split off. -/
lemma splitScheme_append {scheme : List Char} (hne : scheme ≠ [])
    (hscheme : ∀ c ∈ scheme, isSchemeChar c = true) (hfirst : ∀ c ∈ scheme.head?, c.isAlpha = true)
    (rest : List Char) : splitScheme (scheme ++ ':' :: rest) = (scheme, rest) := by
  cases scheme with
  | nil => exact absurd rfl hne
  | cons c scheme =>
    have halpha : c.isAlpha = true := hfirst c rfl
    have hcolon : (':' :: rest).takeWhile isSchemeChar = [] := rfl
    have htake : (c :: scheme ++ ':' :: rest).takeWhile isSchemeChar = c :: scheme := by
      rw [List.takeWhile_append_of_pos hscheme, hcolon, List.append_nil]
    have hdrop : (c :: scheme ++ ':' :: rest).drop (c :: scheme).length = ':' :: rest :=
      List.drop_left
    unfold splitScheme
    dsimp only [List.cons_append] at htake hdrop ⊢
    rw [if_pos halpha, htake, hdrop]
    rfl

/-- An authority between two slashes and a path is split off. -/
lemma splitAuthority_append {authority path : List Char} (h : ∀ c ∈ authority, Inner c)
    (hpath : path = [] ∨ path.head? = some '/') :
    splitAuthority ('/' :: '/' :: authority ++ path) = (authority, path) := by
  have hinner : ∀ c ∈ authority, (c != '/' && c != '?' && c != '#') = true := by
    intro c hc
    obtain ⟨hslash, hquery, hfragment, -⟩ := h c hc
    simp [hslash, hquery, hfragment]
  have hend : path.takeWhile (fun c => c != '/' && c != '?' && c != '#') = [] ∧
      path.dropWhile (fun c => c != '/' && c != '?' && c != '#') = path := by
    rcases hpath with rfl | hfirst
    · exact ⟨rfl, rfl⟩
    · cases path with
      | nil => exact ⟨rfl, rfl⟩
      | cons c path =>
        cases Option.some.inj hfirst
        exact ⟨rfl, rfl⟩
  rw [List.cons_append, List.cons_append, splitAuthority]
  rw [List.takeWhile_append_of_pos hinner, List.dropWhile_append_of_pos hinner, hend.1, hend.2,
    List.append_nil]

/-- The authority in front of a path is split off again. -/
lemma Normal.splitAuthority_front {u : Url} (hu : Normal u) (h : u.hasAuthority = true) :
    splitAuthority (authorityPart u.authority.toList ++ u.path.toList) =
      (u.authority.toList, u.path.toList) := by
  have hne : u.authority.toList ≠ [] := by
    rw [Ne, authority_eq_nil_iff, h]
    exact Bool.noConfusion
  rw [authorityPart, if_neg hne]
  exact splitAuthority_append hu.inner_authority (hu.slash h)

/-- The scheme in front of an address is split off again, if there is one or if an authority
follows. -/
lemma Normal.splitScheme_front {u : Url} (hu : Normal u)
    (h : u.scheme ≠ "" ∨ u.hasAuthority = true) :
    splitScheme u.front =
      (u.scheme.toList, authorityPart u.authority.toList ++ u.path.toList) := by
  unfold front schemePart
  by_cases hscheme : u.scheme.toList = []
  · have hauthority : u.hasAuthority = true :=
      h.resolve_left fun hne => hne (String.toList_eq_nil_iff.mp hscheme)
    have hne : u.authority.toList ≠ [] := by
      rw [Ne, authority_eq_nil_iff, hauthority]
      exact Bool.noConfusion
    rw [if_pos hscheme, hscheme, List.nil_append, authorityPart, if_neg hne]
    rfl
  · have happend : u.scheme.toList ++ [':'] ++ authorityPart u.authority.toList ++
        u.path.toList = u.scheme.toList ++ ':' ::
          (authorityPart u.authority.toList ++ u.path.toList) := by
      simp
    rw [if_neg hscheme, happend]
    exact splitScheme_append hscheme (fun c hc => (hu.scheme c hc).1) hu.first _

/-- No separators of the query and the fragment stand in front of them. -/
lemma Normal.mem_front {u : Url} (hu : Normal u) {c : Char} (hc : c ∈ u.front) :
    c ≠ '?' ∧ c ≠ '#' ∧ isControl c = false := by
  have hpath : ∀ d, keeps pathSafe d = true → d ≠ '?' ∧ d ≠ '#' ∧ isControl d = false := by
    intro d hd
    have hvisible := visible_of_keeps (fun _ => visible_of_visibleExcept) hd
    refine ⟨?_, ?_, isControl_of_visible hvisible⟩
    · rintro rfl
      exact absurd hd (by decide)
    · rintro rfl
      exact absurd hd (by decide)
  have hscheme : ∀ d, isSchemeChar d = true → keeps pathSafe d = true := by
    intro d hd
    simp only [isSchemeChar, Bool.or_eq_true, beq_iff_eq] at hd
    rcases hd with ((hd | rfl) | rfl) | rfl
    · rw [keeps, isUnreserved, hd]
      rfl
    all_goals decide
  unfold front at hc
  rcases List.mem_append.mp hc with hc | hc
  · rcases List.mem_append.mp hc with hc | hc
    · unfold schemePart at hc
      split at hc
      · cases hc
      · rcases List.mem_append.mp hc with hc | hc
        · exact hpath c (hscheme c (hu.scheme c hc).1)
        · rw [List.mem_singleton.mp hc]
          decide
    · unfold authorityPart at hc
      split at hc
      · cases hc
      · rcases List.mem_cons.mp hc with rfl | hc
        · decide
        · rcases List.mem_cons.mp hc with rfl | hc
          · decide
          · obtain ⟨-, hquery, hfragment, hcontrol⟩ := hu.inner_authority c hc
            exact ⟨hquery, hfragment, hcontrol⟩
  · exact hpath c (hu.path c hc)

/-- There is no number sign in front of the fragment of an address. -/
lemma Normal.not_mem_body {u : Url} (hu : Normal u) :
    '#' ∉ u.front ++ part '?' (u.query.map String.toList) := by
  rw [List.mem_append, not_or]
  refine ⟨fun hmem => (hu.mem_front hmem).2.1 rfl, ?_⟩
  cases hquery : u.query with
  | none => exact List.not_mem_nil
  | some q =>
    intro hmem
    rcases List.mem_cons.mp hmem with hmark | hmem
    · exact absurd hmark (by decide)
    · exact absurd (hu.query q hquery '#' hmem) (by decide)

/-- The query and the fragment of an address are read back from its text. -/
lemma Normal.ofText_toText {u : Url} (hu : Normal u) :
    Raw.ofText u.toText.toList =
      { scheme := (splitScheme u.front).1
        authority := (splitAuthority (splitScheme u.front).2).1
        path := (splitAuthority (splitScheme u.front).2).2
        query := u.query.map String.toList
        fragment := u.fragment.map String.toList } := by
  rw [toList_toText]
  exact ofText_append (fun hmem => (hu.mem_front hmem).1 rfl) hu.not_mem_body

/-- A part that may be missing is left alone when it is escaped again. -/
lemma map_escape_eq_self (safe : Char → Bool) (hpercent : safe '%' = true) {part : Option String}
    (h : ∀ s, part = some s → ∀ c ∈ s.toList, keeps safe c = true) :
    (part.map String.toList).map (fun cs => String.ofList (escape safe cs)) = part := by
  cases part with
  | none => rfl
  | some s =>
    have hkeep := escape_eq_self safe hpercent (h s rfl)
    rw [Option.map_some, Option.map_some, hkeep, String.ofList_toList]

/-- The query of an address is left alone when it is escaped again. -/
lemma Normal.escape_query {u : Url} (hu : Normal u) :
    (u.query.map String.toList).map (fun q => String.ofList (escape querySafe q)) = u.query :=
  map_escape_eq_self querySafe (by decide) hu.query

/-- The fragment of an address is left alone when it is escaped again. -/
lemma Normal.escape_fragment {u : Url} (hu : Normal u) :
    (u.fragment.map String.toList).map (fun f => String.ofList (escape fragmentSafe f)) =
      u.fragment :=
  map_escape_eq_self fragmentSafe (by decide) hu.fragment

/-! ## Lengths -/

/-- A part behind its separator is longer than without. -/
lemma length_le_part (sep : Char) (s : Option String) :
    (s.getD "").toList.length ≤ (part sep (s.map String.toList)).length := by
  cases s with
  | none => exact Nat.le_refl 0
  | some s => exact Nat.le_succ _

/-- An address takes a query if no part of it is too long. -/
lemma longPart?_eq_none_iff (u : Url) (query : String) :
    u.longPart? query = none ↔ u.scheme.toList.length ≤ maxLength ∧
      u.authority.toList.length ≤ maxLength ∧ u.path.toList.length ≤ maxLength ∧
      query.toList.length ≤ maxLength ∧ (u.fragment.getD "").toList.length ≤ maxLength := by
  simp [longPart?]

/-- If an address takes a query, then it takes any other one that is not too long. -/
lemma longPart?_eq {u : Url} {query : String} (h : u.longPart? query = none) (query' : String) :
    u.longPart? query' = if query'.toList.length ≤ maxLength then none else some "query" := by
  obtain ⟨hscheme, hauthority, hpath, -, hfragment⟩ := (longPart?_eq_none_iff u query).mp h
  split
  · rename_i hquery
    exact (longPart?_eq_none_iff u query').mpr ⟨hscheme, hauthority, hpath, hquery, hfragment⟩
  · rename_i hquery
    have hshort : ∀ s : String, s.toList.length ≤ maxLength →
        decide (maxLength < s.toList.length) = false := fun s hs => decide_eq_false (by omega)
    have hlong : decide (maxLength < query'.toList.length) = true := decide_eq_true (by omega)
    simp only [longPart?, List.find?_cons, hshort _ hscheme, hshort _ hauthority, hshort _ hpath,
      hlong, Option.map_some]

/-- An address takes the empty query if its text is not too long. -/
lemma longPart?_of_length {u : Url} (hlength : u.toText.toList.length ≤ maxLength) :
    u.longPart? "" = none := by
  have hscheme : u.scheme.toList.length ≤ (schemePart u.scheme.toList).length := by
    unfold schemePart
    split
    · rename_i hnil
      rw [hnil]
    · rw [List.length_append]
      omega
  have hauthority : u.authority.toList.length ≤ (authorityPart u.authority.toList).length := by
    unfold authorityPart
    split
    · rename_i hnil
      rw [hnil]
    · rw [List.length_cons, List.length_cons]
      omega
  have hfragment := length_le_part '#' u.fragment
  rw [toList_toText, front] at hlength
  simp only [List.length_append] at hlength
  exact (longPart?_eq_none_iff u "").mpr
    ⟨by omega, by omega, by omega, Nat.zero_le _, by omega⟩

end PageTree.Url
