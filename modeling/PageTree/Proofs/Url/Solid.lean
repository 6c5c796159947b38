import PageTree.Proofs.Url.Lawful
import PageTree.Proofs.Url.Stays

/-!
# Addresses in a list

An address can stand in a list of words with commas between them if it is one word that does not
begin with a comma, and a colon in front of a comma will not do either, as it is lost when the
address is written again (`Solid`).  Here it is shown that an address stays so when its query is
changed by the definitions on addresses.

There are no blanks in the text of an address if there are none in its host (`Normal.mem_toText`),
and the host is made of what is in the text that was read.  The text of an address begins with a
comma only if its path does, behind neither a scheme nor an authority (`Normal.head?_toText`), and
the path does so only if the text that was read does, up to a colon in front (`comma_of_parse`).
-/

namespace PageTree.Url

open Text

/-! ## Blanks -/

/-- Visible characters are not blank. -/
lemma isBlank_of_visible {c : Char} (h : 32 < c.toNat ∧ c.toNat < 127) : isBlank c = false := by
  simp only [isBlank, Bool.or_eq_false_iff, Bool.and_eq_false_iff, decide_eq_false_iff_not,
    beq_eq_false_iff_ne]
  omega

/-- The characters of a scheme are visible. -/
lemma visible_of_isSchemeChar {c : Char} (h : isSchemeChar c = true) :
    32 < c.toNat ∧ c.toNat < 127 := by
  simp only [isSchemeChar, Bool.or_eq_true, beq_iff_eq] at h
  rcases h with ((h | rfl) | rfl) | rfl
  · have hbounds := isUnreserved_bounds (c := c) (by rw [isUnreserved, h]; rfl)
    omega
  all_goals decide

/-- Decimals and signs are visible. -/
lemma visible_of_mem_portPart {port : Option Int} {c : Char} (h : c ∈ portPart (portText port)) :
    32 < c.toNat ∧ c.toNat < 127 := by
  unfold portPart at h
  split at h
  · cases h
  · rcases List.mem_cons.mp h with rfl | h
    · decide
    · rcases mem_portText h with rfl | hdigit
      · decide
      · have hbounds := isUnreserved_bounds (c := c) (by
          rw [isUnreserved, Char.isAlphanum, hdigit, Bool.or_true]
          rfl)
        omega

section Normal

variable {u : Url} {c : Char}

/-- What is not visible in an authority stands in the host. -/
lemma Normal.mem_authority (hu : Normal u) (hc : c ∈ u.authority.toList) :
    c ∈ u.host.toList ∨ 32 < c.toNat ∧ c.toNat < 127 := by
  rw [toList_authority] at hc
  rcases List.mem_append.mp hc with hc | hc
  · rcases List.mem_append.mp hc with hc | hc
    · right
      unfold userPart at hc
      split at hc
      · cases hc
      · rcases List.mem_append.mp hc with hc | hc
        · exact visible_of_keeps (fun _ => visible_of_visibleExcept) (hu.userinfo c hc)
        · rw [List.mem_singleton.mp hc]
          decide
    · unfold hostText at hc
      split at hc
      · rw [List.cons_append, List.mem_cons, List.mem_append, List.mem_singleton] at hc
        rcases hc with rfl | hc | rfl
        · exact .inr (by decide)
        · exact .inl hc
        · exact .inr (by decide)
      · exact .inl hc
  · exact .inr (visible_of_mem_portPart hc)

/-- What is not visible in a part behind its separator is not kept. -/
lemma visible_of_mem_part {sep : Char} (hsep : 32 < sep.toNat ∧ sep.toNat < 127)
    {except : List Char} {text : Option String}
    (h : ∀ s, text = some s → ∀ c ∈ s.toList, keeps (visibleExcept except) c = true)
    (hc : c ∈ part sep (text.map String.toList)) : 32 < c.toNat ∧ c.toNat < 127 := by
  cases text with
  | none => cases hc
  | some s =>
    rcases List.mem_cons.mp hc with rfl | hc
    · exact hsep
    · exact visible_of_keeps (fun _ => visible_of_visibleExcept) (h s rfl c hc)

/-- What is not visible in an address stands in its host. -/
theorem Normal.mem_toText (hu : Normal u) (hc : c ∈ u.toText.toList) :
    c ∈ u.host.toList ∨ 32 < c.toNat ∧ c.toNat < 127 := by
  rw [toList_toText, front, List.mem_append, List.mem_append, List.mem_append,
    List.mem_append] at hc
  rcases hc with (((hc | hc) | hc) | hc) | hc
  · right
    unfold schemePart at hc
    split at hc
    · cases hc
    · rcases List.mem_append.mp hc with hc | hc
      · exact visible_of_isSchemeChar (hu.scheme c hc).1
      · rw [List.mem_singleton.mp hc]
        decide
  · unfold authorityPart at hc
    split at hc
    · cases hc
    · rw [List.mem_cons, List.mem_cons] at hc
      rcases hc with rfl | rfl | hc
      · exact .inr (by decide)
      · exact .inr (by decide)
      · exact hu.mem_authority hc
  · exact .inr (visible_of_keeps (fun _ => visible_of_visibleExcept) (hu.path c hc))
  · exact .inr (visible_of_mem_part (by decide) hu.query hc)
  · exact .inr (visible_of_mem_part (by decide) hu.fragment hc)

end Normal

/-- The authority of a text is part of it. -/
lemma mem_of_mem_authority {cs : List Char} {c : Char} (h : c ∈ (Raw.ofText cs).authority) :
    c ∈ cs := by
  rw [ofText_eq] at h
  exact mem_beforeCut (mem_beforeCut ((splitScheme_spec _).2.2 c (mem_splitAuthority h).1))

section Names

variable [HostNames] {u w : Url}

/-- There are no blanks in a host that is made of an authority without any. -/
lemma Made.isBlank_host {raw : Raw} (h : Made raw u)
    (hraw : ∀ c ∈ raw.authority, isBlank c = false) : ∀ c ∈ u.host.toList, isBlank c = false := by
  intro c hc
  rcases (normalHost_spec h.host).2 c hc with hmem | hkeep
  · exact hraw c (mem_splitUserHostPort hmem).1
  · exact isBlank_of_visible (visible_of_keeps_hostSafe hkeep)

/-- There are no blanks in an address that is made of one whose host has none. -/
theorem isBlank_of_withQuery {query : String} (hu : Normal u)
    (hhost : ∀ c ∈ u.host.toList, isBlank c = false) (hw : u.withQuery query = .ok w) :
    ∀ c ∈ w.toText.toList, isBlank c = false := by
  have hauthority : ∀ c ∈ u.authority.toList, isBlank c = false := fun c hc =>
    (hu.mem_authority hc).elim (hhost c) isBlank_of_visible
  have hagain := (made_of_withQuery hw).isBlank_host hauthority
  intro c hc
  exact ((hu.withQuery hw).mem_toText hc).elim (hagain c) isBlank_of_visible

end Names

/-! ## Beginnings -/

/-- A text that is escaped begins with a percent sign, or as it did before. -/
lemma head?_escape_eq {cs : List Char} {c : Char} (h : (escape pathSafe cs).head? = some c) :
    c = '%' ∨ cs.head? = some c := by
  rw [escape_eq (by decide)] at h
  cases cs with
  | nil => cases h
  | cons d cs =>
    rw [percentEncode, List.flatMap_cons, percentChar] at h
    split at h
    · exact .inr h
    · left
      have hfirst : ∀ b bs, encodeChar d = b :: bs → c = '%' := by
        intro b bs hbs
        rw [hbs] at h
        exact (Option.some.inj h).symm
      rcases encodeChar_cases d with ⟨-, hd⟩ | ⟨-, -, hd⟩ | ⟨-, -, hd⟩ | ⟨-, hd⟩ <;>
        exact hfirst _ _ hd

/-- What is in front of a separator is at the start of the text. -/
lemma prefix_beforeCut (sep : Char) (cs : List Char) : beforeCut sep cs <+: cs := by
  unfold beforeCut
  cases hcut : cut? sep cs with
  | none => exact List.prefix_refl cs
  | some ab => exact ⟨sep :: ab.2, (eq_of_cut? hcut).1.symm⟩

/-- Where no scheme is split off, nothing but a colon is. -/
lemma splitScheme_of_nil {cs : List Char} (h : (splitScheme cs).1 = []) :
    cs = (splitScheme cs).2 ∨ cs = ':' :: (splitScheme cs).2 := by
  by_cases hcolon : cs.head? = some ':'
  · cases cs with
    | nil => cases hcolon
    | cons c cs =>
      cases Option.some.inj hcolon
      exact .inr rfl
  · rw [splitScheme_eq_self_iff.mpr ⟨h, hcolon⟩]
    exact .inl rfl

/-- What an authority is split off from begins with a separator, or as it did before. -/
lemma head?_splitAuthority {cs : List Char} {c : Char}
    (h : (splitAuthority cs).2.head? = some c) :
    c = '/' ∨ c = '?' ∨ c = '#' ∨ cs.head? = some c := by
  unfold splitAuthority at h
  split at h
  · rename_i rest
    have hstop := List.head?_dropWhile_not (fun c => c != '/' && c != '?' && c != '#') rest
    rw [h] at hstop
    simp only [Bool.and_eq_false_iff, bne_eq_false_iff_eq] at hstop
    rcases hstop with (hslash | hmark) | hsign
    · exact .inl hslash
    · exact .inr (.inl hmark)
    · exact .inr (.inr (.inl hsign))
  · exact .inr (.inr (.inr h))

/-- The path of a text without a scheme begins with a separator, or as the text does, up to a colon
in front. -/
lemma head?_path_ofText {cs : List Char} (hscheme : (Raw.ofText cs).scheme = []) {c : Char}
    (h : (Raw.ofText cs).path.head? = some c) :
    c = '/' ∨ c = '?' ∨ c = '#' ∨ cs.head? = some c ∨ [':', c] <+: cs := by
  rw [ofText_eq] at hscheme h
  have hbody : beforeCut '?' (beforeCut '#' cs) <+: cs :=
    (prefix_beforeCut _ _).trans (prefix_beforeCut _ _)
  rcases head?_splitAuthority h with hslash | hmark | hsign | hfirst
  · exact .inl hslash
  · exact .inr (.inl hmark)
  · exact .inr (.inr (.inl hsign))
  · right; right; right
    obtain ⟨path, hpath⟩ := List.head?_eq_some_iff.mp hfirst
    rcases splitScheme_of_nil hscheme with hall | hcolon
    · left
      rw [hall, hpath] at hbody
      obtain ⟨rest, rfl⟩ := hbody
      rfl
    · right
      rw [hcolon, hpath] at hbody
      exact List.IsPrefix.trans ⟨path, rfl⟩ hbody

/-- An address with a scheme begins with a letter, and one with an authority with a slash; any other
one begins as its path does, or with a separator. -/
lemma Normal.head?_toText {u : Url} (hu : Normal u) {c : Char}
    (h : u.toText.toList.head? = some c) :
    c.isAlpha = true ∨ c = '/' ∨ c = '?' ∨ c = '#' ∨
      u.scheme = "" ∧ u.hasAuthority = false ∧ u.path.toList.head? = some c := by
  rw [toList_toText, front] at h
  by_cases hscheme : u.scheme.toList = []
  · rw [schemePart, if_pos hscheme, List.nil_append] at h
    cases hauthority : u.hasAuthority with
    | true =>
      have hne : u.authority.toList ≠ [] := by
        rw [Ne, authority_eq_nil_iff, hauthority]
        exact Bool.noConfusion
      rw [authorityPart, if_neg hne] at h
      exact .inr (.inl (Option.some.inj h).symm)
    | false =>
      rw [authorityPart, if_pos ((authority_eq_nil_iff u).mpr hauthority), List.nil_append] at h
      right; right
      cases hpath : u.path.toList with
      | cons d path =>
        rw [hpath] at h
        exact .inr (.inr ⟨String.toList_eq_nil_iff.mp hscheme, rfl, h⟩)
      | nil =>
        rw [hpath, List.nil_append] at h
        cases hquery : u.query with
        | some q =>
          rw [hquery] at h
          exact .inl (Option.some.inj h).symm
        | none =>
          rw [hquery] at h
          cases hfragment : u.fragment with
          | some f =>
            rw [hfragment] at h
            exact .inr (.inl (Option.some.inj h).symm)
          | none =>
            rw [hfragment] at h
            cases h
  · left
    rw [schemePart, if_neg hscheme] at h
    obtain ⟨d, scheme, hd⟩ := List.exists_cons_of_ne_nil hscheme
    rw [hd] at h
    cases Option.some.inj h
    exact hu.first c (by rw [hd]; rfl)

section Names

variable [HostNames] {u w : Url} {s : String}

/-- The path of an address without a scheme begins as the path that it is made of does, or with a
percent sign or a slash. -/
lemma Made.head?_path {raw : Raw} (h : Made raw u) (hu : Normal u) (hscheme : u.scheme = "")
    {c : Char} (hc : u.path.toList.head? = some c) :
    c = '/' ∨ c = '%' ∨ raw.path.head? = some c := by
  have hnone : raw.scheme = [] := by
    rw [h.scheme, String.ofList_eq_empty_iff, List.map_eq_nil_iff] at hscheme
    exact hscheme
  cases hauthority : u.hasAuthority with
  | true =>
    rcases hu.slash hauthority with hnil | hslash
    · rw [hnil] at hc
      cases hc
    · rw [hslash] at hc
      exact .inl (Option.some.inj hc).symm
  | false =>
    rw [h.path, String.toList_ofList, hnone, hauthority] at hc
    exact .inr (head?_escape_eq hc)

/-- The path of an address without a scheme begins with a comma only if its text does, up to a colon
in front. -/
lemma comma_of_parse {s : String} (hu : parse s = .ok u) (hscheme : u.scheme = "")
    (hcomma : u.path.toList.head? = some ',') :
    s.toList.head? = some ',' ∨ [':', ','] <+: s.toList := by
  obtain ⟨hmade, hnormal⟩ := normal_of_parse hu
  have hnone : (Raw.ofText s.toList).scheme = [] := by
    rw [hmade.scheme, String.ofList_eq_empty_iff, List.map_eq_nil_iff] at hscheme
    exact hscheme
  rcases hmade.head?_path hnormal hscheme hcomma with h | h | hpath
  · exact absurd h (by decide)
  · exact absurd h (by decide)
  · rcases head?_path_ofText hnone hpath with h | h | h | hfirst | hcolon
    · exact absurd h (by decide)
    · exact absurd h (by decide)
    · exact absurd h (by decide)
    · exact .inl hfirst
    · exact .inr hcolon

/-- The text of an address whose query is changed begins with a comma or a colon only if its path
does and there is neither a scheme nor an authority. -/
lemma head?_path_of_withQuery {query : String} (hu : parse s = .ok u)
    (hw : u.withQuery query = .ok w) {c : Char} (hc : c ∈ [',', ':'])
    (h : w.toText.toList.head? = some c) :
    u.scheme = "" ∧ w.hasAuthority = false ∧ u.path.toList.head? = some c := by
  have hnormal := (normal_of_parse hu).2
  have hagain := again_of_withQuery hnormal hw
  have hmarks : ∀ c ∈ [',', ':'], c.isAlpha = false ∧ c ≠ '/' ∧ c ≠ '?' ∧ c ≠ '#' := by
    simp
  obtain ⟨halpha, hslash, hmark, hsign⟩ := hmarks c hc
  rcases (hnormal.withQuery hw).head?_toText h with h | h | h | h | ⟨hscheme, hauthority, hpath⟩
  · rw [halpha] at h
    cases h
  · exact absurd h hslash
  · exact absurd h hmark
  · exact absurd h hsign
  · rw [hagain.path] at hpath
    exact ⟨hagain.scheme ▸ hscheme, hauthority, hpath⟩

/-- It does not begin with a colon: without scheme and authority, one in front of the path is
refused. -/
theorem head?_ne_colon {query : String} (hu : parse s = .ok u) (hw : u.withQuery query = .ok w) :
    w.toText.toList.head? ≠ some ':' := by
  intro h
  obtain ⟨hscheme, hauthority, hpath⟩ := head?_path_of_withQuery hu hw (by decide) h
  have hfits := ((checkPath_eq_ok_iff _ _ _).mp (made_of_withQuery hw).fits).2
    (by rw [parts, hscheme]; rfl) hauthority
  exact hfits.2 hpath

/-- It begins with a comma only if the text that was read does, up to a colon in front. -/
theorem comma_of_withQuery {query : String} (hu : parse s = .ok u) (hw : u.withQuery query = .ok w)
    (h : w.toText.toList.head? = some ',') :
    s.toList.head? = some ',' ∨ [':', ','] <+: s.toList := by
  obtain ⟨hscheme, -, hpath⟩ := head?_path_of_withQuery hu hw (by decide) h
  exact comma_of_parse hu hscheme hpath

/-- There are no blanks in the text of an address whose query is changed if there are none in the
text that was read. -/
theorem isBlank_toText {query : String} (hu : parse s = .ok u)
    (hs : ∀ c ∈ s.toList, isBlank c = false) (hw : u.withQuery query = .ok w) :
    ∀ c ∈ w.toText.toList, isBlank c = false := by
  obtain ⟨hmade, hnormal⟩ := normal_of_parse hu
  have hhost := hmade.isBlank_host fun c hc => hs c (mem_of_mem_authority hc)
  exact isBlank_of_withQuery hnormal hhost hw

end Names

end PageTree.Url
