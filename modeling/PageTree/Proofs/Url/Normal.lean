import PageTree.Proofs.Outcome
import PageTree.Proofs.Url.Parts

/-!
# Addresses in normal form

`Made` says which address the given parts make (`ofRaw_eq_ok_iff`), and `Normal` what is then known
of the parts of the address (`Made.normal`): none of them holds a character that separates it from
the next one, and the host is an IPv6 address or holds nothing but characters that are kept.  Every
address that is accepted is in this form (`normal_of_parse`).
-/

namespace PageTree.Url

open Text

/-- Whether there is an authority. -/
def hasAuthority (u : Url) : Bool :=
  u.userinfo ≠ "" || u.host ≠ "" || u.port.isSome

/-! ## What parts make -/

/-- The address that parts make. -/
structure Made [HostNames] (raw : Raw) (u : Url) : Prop where
  scheme : u.scheme = String.ofList (raw.scheme.map Char.toLower)
  userinfo : u.userinfo = String.ofList (escape userinfoSafe (splitUserHostPort raw.authority).1)
  host : normalHost (splitUserHostPort raw.authority).2.1 = .ok u.host
  port : normalPort (String.ofList raw.scheme) (splitUserHostPort raw.authority).2.2 = .ok u.port
  fits : checkPath raw.path (!raw.scheme.isEmpty) u.hasAuthority = .ok ()
  path : u.path = String.ofList (escape pathSafe
    (if !raw.scheme.isEmpty || u.hasAuthority then resolveDots raw.path else raw.path))
  query : u.query = raw.query.map fun q => String.ofList (escape querySafe q)
  fragment : u.fragment = raw.fragment.map fun f => String.ofList (escape fragmentSafe f)

/-- Parts are accepted exactly if they make an address. -/
lemma ofRaw_eq_ok_iff [HostNames] (raw : Raw) (u : Url) : ofRaw raw = .ok u ↔ Made raw u := by
  constructor
  · intro h
    unfold ofRaw at h
    rcases hsplit : splitUserHostPort raw.authority with ⟨userinfo, host, port⟩
    rw [hsplit] at h
    obtain ⟨name, hname, h⟩ := (bind_eq_ok_iff _ _ _).mp h
    obtain ⟨number, hnumber, h⟩ := (bind_eq_ok_iff _ _ _).mp h
    obtain ⟨_, hfits, h⟩ := (bind_eq_ok_iff _ _ _).mp h
    cases h
    exact ⟨rfl, by rw [hsplit], by rw [hsplit]; exact hname, by rw [hsplit]; exact hnumber, hfits,
      rfl, rfl, rfl⟩
  · rintro ⟨hscheme, huserinfo, hhost, hport, hfits, hpath, hquery, hfragment⟩
    unfold ofRaw
    rcases hsplit : splitUserHostPort raw.authority with ⟨userinfo, host, port⟩
    rw [hsplit] at huserinfo hhost hport
    refine (bind_eq_ok_iff _ _ _).mpr ⟨u.host, hhost, ?_⟩
    refine (bind_eq_ok_iff _ _ _).mpr ⟨u.port, hport, ?_⟩
    obtain ⟨scheme, user, name, number, path, query, fragment⟩ := u
    dsimp only [hasAuthority] at *
    subst hscheme huserinfo hquery hfragment
    refine (bind_eq_ok_iff _ _ _).mpr ⟨(), hfits, ?_⟩
    rw [hpath]
    rfl

/-- A path that fits begins with a slash behind an authority; without scheme and authority it begins
neither with two slashes nor with a colon. -/
lemma checkPath_eq_ok_iff (path : List Char) (hasScheme hasAuthority : Bool) :
    checkPath path hasScheme hasAuthority = .ok () ↔
      (hasAuthority = true → path = [] ∨ path.head? = some '/') ∧
        (hasScheme = false → hasAuthority = false →
          ['/', '/'].isPrefixOf path = false ∧ path.head? ≠ some ':') := by
  unfold checkPath
  cases path with
  | nil => simp
  | cons c path =>
    cases hasScheme with
    | true => cases hasAuthority <;> simp
    | false =>
      cases hasAuthority with
      | true => simp
      | false =>
        cases hslashes : ['/', '/'].isPrefixOf (c :: path) with
        | true => simp
        | false => simp

/-! ## What is known of an address -/

/-- A character that may stand in an authority: it is visible, and separates nothing. -/
def Inner (c : Char) : Prop :=
  c ≠ '/' ∧ c ≠ '?' ∧ c ≠ '#' ∧ isControl c = false

/-- Parts that are told apart by the separators between them. -/
structure Raw.Split (raw : Raw) : Prop where
  scheme : ∀ c ∈ raw.scheme, isSchemeChar c = true
  first : ∀ c ∈ raw.scheme.head?, c.isAlpha = true
  authority : ∀ c ∈ raw.authority, Inner c

/-- The parts of an address, with any query. -/
def parts (u : Url) (query : Option (List Char)) : Raw where
  scheme := u.scheme.toList
  authority := u.authority.toList
  path := u.path.toList
  query := query
  fragment := u.fragment.map String.toList

/-- What is known of the parts of an address. -/
structure Normal (u : Url) : Prop where
  scheme : ∀ c ∈ u.scheme.toList, isSchemeChar c = true ∧ c.toLower = c
  first : ∀ c ∈ u.scheme.toList.head?, c.isAlpha = true
  userinfo : ∀ c ∈ u.userinfo.toList, keeps userinfoSafe c = true
  form : HostForm u.host.toList
  host : ∀ c ∈ u.host.toList, Inner c ∧ c ≠ '@'
  port : ∀ p, u.port = some p → Numeral.readInt (toString p) = .ok p
  path : ∀ c ∈ u.path.toList, keeps pathSafe c = true
  plain : u.scheme ≠ "" ∨ u.hasAuthority = true → Plain u.path.toList
  slash : u.hasAuthority = true → u.path.toList = [] ∨ u.path.toList.head? = some '/'
  query : ∀ q, u.query = some q → ∀ c ∈ q.toList, keeps querySafe c = true
  fragment : ∀ f, u.fragment = some f → ∀ c ∈ f.toList, keeps fragmentSafe c = true

/-- Characters that are kept in a host separate nothing. -/
lemma inner_of_keeps_hostSafe {c : Char} (h : keeps hostSafe c = true) : Inner c ∧ c ≠ '@' := by
  have hne : ∀ d, keeps hostSafe d = false → c ≠ d := by
    rintro d hd rfl
    rw [h] at hd
    cases hd
  exact ⟨⟨hne '/' (by decide), hne '?' (by decide), hne '#' (by decide),
    isControl_of_visible (visible_of_keeps_hostSafe h)⟩, hne '@' (by decide)⟩

/-- Characters that are kept in user information separate nothing. -/
lemma inner_of_keeps_userinfoSafe {c : Char} (h : keeps userinfoSafe c = true) : Inner c := by
  have hvisible := visible_of_keeps (fun _ => visible_of_visibleExcept) h
  have hne : ∀ d, keeps userinfoSafe d = false → c ≠ d := by
    rintro d hd rfl
    rw [h] at hd
    cases hd
  exact ⟨hne '/' (by decide), hne '?' (by decide), hne '#' (by decide),
    isControl_of_visible hvisible⟩

/-- A field that was escaped holds characters that are kept. -/
lemma keeps_of_eq_escape {safe : Char → Bool} (hsafe : safe '%' = true) {s : String}
    {cs : List Char} (hs : s = String.ofList (escape safe cs)) :
    ∀ c ∈ s.toList, keeps safe c = true := by
  rw [hs, String.toList_ofList]
  exact fun c hc => keeps_of_mem_escape hsafe hc

/-- So does a field that may be missing. -/
lemma keeps_of_eq_map_escape {safe : Char → Bool} (hsafe : safe '%' = true)
    {field : Option String} {raw : Option (List Char)}
    (hfield : field = raw.map fun cs => String.ofList (escape safe cs)) {s : String}
    (hs : field = some s) : ∀ c ∈ s.toList, keeps safe c = true := by
  rw [hfield] at hs
  obtain ⟨cs, -, hs⟩ := Option.map_eq_some_iff.mp hs
  exact keeps_of_eq_escape hsafe hs.symm

/-- A port that is not implied was read from a text, and is read again when it is written. -/
lemma readInt_of_normalPort {scheme : String} {cs : List Char} {p : Int}
    (h : normalPort scheme cs = .ok (some p)) : Numeral.readInt (toString p) = .ok p := by
  unfold normalPort at h
  split at h
  · cases h
  · split at h
    · cases h
    · rename_i n hn
      have hport := Except.ok.inj h
      split at hport
      · cases hport
      · cases hport
        exact Numeral.readInt_toString hn

/-- What becomes of a path that fits an authority fits it as well. -/
lemma slash_escape_resolveDots {path : List Char} (h : path = [] ∨ path.head? = some '/') :
    escape pathSafe (resolveDots path) = [] ∨
      (escape pathSafe (resolveDots path)).head? = some '/' := by
  have hresolved : resolveDots path = [] ∨ (resolveDots path).head? = some '/' := by
    rcases h with rfl | hfirst
    · exact .inl rfl
    · exact head?_resolveDots hfirst
  rcases hresolved with hnone | hfirst
  · rw [hnone]
    exact .inl rfl
  · exact .inr (head?_escape hfirst)

/-- Dots are resolved behind a scheme or an authority. -/
lemma Made.plain [HostNames] {raw : Raw} {u : Url} (h : Made raw u)
    (hfront : u.scheme ≠ "" ∨ u.hasAuthority = true) : Plain u.path.toList := by
  have hresolved : (!raw.scheme.isEmpty || u.hasAuthority) = true := by
    rcases hfront with hscheme | hauthority
    · cases hempty : raw.scheme with
      | nil =>
        rw [h.scheme, hempty] at hscheme
        exact absurd rfl hscheme
      | cons c cs => rfl
    · rw [hauthority, Bool.or_true]
  rw [h.path, String.toList_ofList, if_pos hresolved]
  exact (plain_resolveDots _).escape

/-- The parts of an address are in normal form. -/
theorem Made.normal [HostNames] {raw : Raw} {u : Url} (h : Made raw u) (hraw : raw.Split) :
    Normal u where
  scheme := by
    rw [h.scheme, String.toList_ofList, List.forall_mem_map]
    intro c hc
    exact ⟨isSchemeChar_toLower (hraw.scheme c hc), Char.toLower_toLower_eq_toLower c⟩
  first := by
    rw [h.scheme, String.toList_ofList, List.head?_map]
    intro c hc
    obtain ⟨d, hd, rfl⟩ := Option.map_eq_some_iff.mp hc
    rw [Char.isAlpha_toLower_eq_isAlpha]
    exact hraw.first d hd
  userinfo := keeps_of_eq_escape (by decide) h.userinfo
  form := (normalHost_spec h.host).1
  host := by
    intro c hc
    rcases (normalHost_spec h.host).2 c hc with hmem | hkeep
    · obtain ⟨hauthority, hat⟩ := mem_splitUserHostPort hmem
      exact ⟨hraw.authority c hauthority, hat⟩
    · exact inner_of_keeps_hostSafe hkeep
  port p hp := readInt_of_normalPort (hp ▸ h.port)
  path := keeps_of_eq_escape (by decide) h.path
  plain := h.plain
  slash := by
    intro hauthority
    rw [h.path, String.toList_ofList, hauthority, Bool.or_true, if_pos rfl]
    exact slash_escape_resolveDots (((checkPath_eq_ok_iff _ _ _).mp h.fits).1 hauthority)
  query _ hq := keeps_of_eq_map_escape (by decide) h.query hq
  fragment _ hf := keeps_of_eq_map_escape (by decide) h.fragment hf

/-! ## The parts of a text -/

/-- A scheme that is split off holds characters of a scheme, and what follows it is in the text. -/
lemma splitScheme_spec (cs : List Char) :
    (∀ c ∈ (splitScheme cs).1, isSchemeChar c = true) ∧
      (∀ c ∈ (splitScheme cs).1.head?, c.isAlpha = true) ∧
      ∀ c ∈ (splitScheme cs).2, c ∈ cs := by
  cases cs with
  | nil => exact ⟨nofun, nofun, nofun⟩
  | cons c cs =>
    unfold splitScheme
    dsimp only
    split
    · rename_i rest hrest
      have hmem : ∀ d ∈ rest, d ∈ c :: cs := by
        have hsubset : ':' :: rest ⊆ c :: cs := by
          rw [← hrest]
          exact List.drop_subset _ _
        intro d hd
        exact hsubset (List.mem_cons_of_mem _ hd)
      refine ⟨?_, ?_, hmem⟩
      · split
        · intro d hd
          exact List.all_eq_true.mp List.all_takeWhile d hd
        · nofun
      · split
        · rename_i halpha
          intro d hd
          rw [List.takeWhile_cons] at hd
          split at hd
          · cases hd
            exact halpha
          · cases hd
        · nofun
    · exact ⟨nofun, nofun, fun _ hd => hd⟩

/-- An authority that is split off is part of the text, and no separators stand in it. -/
lemma mem_splitAuthority {cs : List Char} {c : Char} (h : c ∈ (splitAuthority cs).1) :
    c ∈ cs ∧ c ≠ '/' ∧ c ≠ '?' ∧ c ≠ '#' := by
  unfold splitAuthority at h
  split at h
  · have hmem := (List.takeWhile_sublist _).mem h
    have hfree := List.all_eq_true.mp List.all_takeWhile c h
    simp only [Bool.and_eq_true, bne_iff_ne, ne_eq] at hfree
    exact ⟨List.mem_cons_of_mem _ (List.mem_cons_of_mem _ hmem), hfree.1.1, hfree.1.2, hfree.2⟩
  · cases h

/-- The text in front of a separator: all of it if it does not occur. -/
def beforeCut (sep : Char) (cs : List Char) : List Char :=
  ((cut? sep cs).map Prod.fst).getD cs

/-- The text behind a separator, if it occurs. -/
def afterCut (sep : Char) (cs : List Char) : Option (List Char) :=
  (cut? sep cs).map Prod.snd

/-- What is in front of a separator is in the text. -/
lemma mem_beforeCut {sep : Char} {cs : List Char} {c : Char} (h : c ∈ beforeCut sep cs) :
    c ∈ cs := by
  unfold beforeCut at h
  cases hcut : cut? sep cs with
  | none =>
    rw [hcut] at h
    exact h
  | some ab =>
    rw [hcut] at h
    rw [(eq_of_cut? hcut).1]
    exact List.mem_append_left _ h

/-- A text is split from its end: the fragment, the query, the scheme and the authority. -/
lemma ofText_eq (cs : List Char) :
    Raw.ofText cs =
      { scheme := (splitScheme (beforeCut '?' (beforeCut '#' cs))).1
        authority := (splitAuthority (splitScheme (beforeCut '?' (beforeCut '#' cs))).2).1
        path := (splitAuthority (splitScheme (beforeCut '?' (beforeCut '#' cs))).2).2
        query := afterCut '?' (beforeCut '#' cs)
        fragment := afterCut '#' cs } := by
  unfold Raw.ofText beforeCut afterCut
  cases cut? '#' cs with
  | none =>
    dsimp only [Option.map_none, Option.getD_none]
    cases cut? '?' cs <;> rfl
  | some ab =>
    dsimp only [Option.map_some, Option.getD_some]
    cases cut? '?' ab.1 <;> rfl

/-- The parts of a text without control characters are told apart by separators. -/
lemma split_ofText {cs : List Char} (h : ∀ c ∈ cs, isControl c = false) :
    (Raw.ofText cs).Split := by
  obtain ⟨hscheme, hfirst, hrest⟩ := splitScheme_spec (beforeCut '?' (beforeCut '#' cs))
  rw [ofText_eq]
  refine ⟨hscheme, hfirst, ?_⟩
  intro c hc
  obtain ⟨hmem, hslash, hquery, hfragment⟩ := mem_splitAuthority hc
  exact ⟨hslash, hquery, hfragment, h c (mem_beforeCut (mem_beforeCut (hrest c hmem)))⟩

/-- No character is found exactly if none satisfies the condition. -/
lemma findPosition?_eq_none_iff {p : Char → Bool} {cs : List Char} {i : Nat} :
    findPosition? p cs i = none ↔ ∀ c ∈ cs, p c = false := by
  induction cs generalizing i with
  | nil => exact iff_of_true rfl nofun
  | cons c cs ih =>
    rw [findPosition?, List.forall_mem_cons]
    cases hc : p c with
    | true => exact iff_of_false nofun nofun
    | false => exact ⟨fun h => ⟨rfl, ih.mp h⟩, fun h => ih.mpr h.2⟩

/-- The parts of an address that is accepted are in normal form. -/
theorem normal_of_parse [HostNames] {s : String} {u : Url} (h : parse s = .ok u) :
    Made (Raw.ofText s.toList) u ∧ Normal u := by
  unfold parse at h
  dsimp only at h
  split at h
  · cases h
  · split at h
    · cases h
    · rename_i hposition
      have hcontrol := findPosition?_eq_none_iff.mp hposition
      have hmade := (ofRaw_eq_ok_iff _ _).mp h
      exact ⟨hmade, hmade.normal (split_ofText hcontrol)⟩

/-- An address that is accepted is not too long. -/
lemma length_of_parse [HostNames] {s : String} {u : Url} (h : parse s = .ok u) :
    s.toList.length ≤ maxLength := by
  refine Nat.le_of_not_lt fun hlong => ?_
  have hfault : parse s = .error .tooLong := if_pos hlong
  rw [hfault] at h
  cases h

/-- With another query, an address is made of its own parts. -/
lemma made_of_withQuery [HostNames] {u w : Url} {query : String} (h : u.withQuery query = .ok w) :
    Made (u.parts (some query.toList)) w := by
  unfold withQuery at h
  split at h
  · cases h
  · exact (ofRaw_eq_ok_iff _ _).mp h

end PageTree.Url
