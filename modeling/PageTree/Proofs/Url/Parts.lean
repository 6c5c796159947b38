import Mathlib
import PageTree.Proofs.Text.Numeral
import PageTree.Proofs.Text.Percent
import PageTree.Url.Basic

/-!
# The parts of an address

What it means that the parts of an address are in normal form, one part after the other.  The
percent sign may stand in every part, so that an escaped part holds characters that are kept, and no
others (`keeps_of_mem_escape`), and is left alone when it is escaped again (`escape_eq_self`).  A
path without dot segments stays one when it is escaped (`Plain.escape`), and an authority is taken
apart into the user information, the host and the port that it is made of
(`splitUserHostPort_append`).

Hosts are the exception.  What is written as an escape has letters in upper case, which are put into
lower case when the host is brought into normal form again, so that a host need not stay as it is.
From then on it does (`normalHost_hostText`).
-/

namespace PageTree.Url

open Text

/-! ## Escapes -/

/-- Whether a character is written as it is in a part with some safe characters. -/
def keeps (safe : Char → Bool) (c : Char) : Bool :=
  isUnreserved c || safe c

section Escape

variable {safe : Char → Bool} {cs : List Char}

/-- Where percent signs are safe, a part is escaped character by character. -/
lemma escape_eq (h : safe '%' = true) (cs : List Char) :
    escape safe cs = percentEncode (keeps safe) cs := by
  have hsign : percentChar (keeps safe) '%' = ['%'] := if_pos (by rw [keeps, h, Bool.or_true])
  induction cs with
  | nil => rfl
  | cons c cs ih =>
    rw [escape, percentEncode, List.flatMap_cons, ih]
    split
    · rename_i hc
      rw [hc, hsign, percentChar, if_pos h]
      split <;> rfl
    · rfl

/-- The characters of an escaped part are kept. -/
lemma keeps_of_mem_escape (h : safe '%' = true) {c : Char} (hc : c ∈ escape safe cs) :
    keeps safe c = true := by
  rw [escape_eq h] at hc
  obtain ⟨d, -, hc⟩ := List.mem_flatMap.mp hc
  rcases mem_percentChar hc with hkeep | hsafe | rfl
  · exact hkeep
  · rw [keeps, hsafe, Bool.true_or]
  · rw [keeps, h, Bool.or_true]

/-- A part of characters that are kept is left alone. -/
lemma escape_eq_self (safe : Char → Bool) (h : safe '%' = true)
    (hcs : ∀ c ∈ cs, keeps safe c = true) :
    escape safe cs = cs := by
  rw [escape_eq h, percentEncode_eq_self hcs]

end Escape

/-- Characters that are kept in a part where all safe characters are visible are visible. -/
lemma visible_of_keeps {safe : Char → Bool} (hsafe : ∀ c, safe c = true → 32 < c.toNat ∧
    c.toNat < 127) {c : Char} (hc : keeps safe c = true) : 32 < c.toNat ∧ c.toNat < 127 := by
  rcases Bool.or_eq_true_iff.mp hc with h | h
  · have hbounds := isUnreserved_bounds h
    omega
  · exact hsafe c h

/-- Visible characters are visible. -/
lemma visible_of_visibleExcept {except : List Char} {c : Char}
    (h : visibleExcept except c = true) : 32 < c.toNat ∧ c.toNat < 127 := by
  simp only [visibleExcept, Bool.and_eq_true, decide_eq_true_eq] at h
  exact h.1

/-- Visible characters are no control characters. -/
lemma isControl_of_visible {c : Char} (h : 32 < c.toNat ∧ c.toNat < 127) : isControl c = false := by
  rw [isControl, Bool.or_eq_false_iff, decide_eq_false_iff_not, beq_eq_false_iff_ne]
  omega

/-! ## Schemes -/

/-- The characters of a scheme in lower case are characters of a scheme. -/
lemma isSchemeChar_toLower {c : Char} (h : isSchemeChar c = true) :
    isSchemeChar c.toLower = true := by
  by_cases hupper : c.isUpper = true
  · have halpha : c.toLower.isAlpha = true := by
      rw [Char.isAlpha_toLower_eq_isAlpha, Char.isAlpha, hupper, Bool.true_or]
    rw [isSchemeChar, Char.isAlphanum, halpha]
    rfl
  · rwa [Char.toLower_eq_of_not_isUpper hupper]

/-! ## Paths -/

/-- No segment of a path is a dot or two. -/
def Plain (path : List Char) : Prop :=
  ∀ s ∈ splitWhere (· == '/') path, s ≠ ['.'] ∧ s ≠ ['.', '.']

/-- A path without dot segments is left alone. -/
lemma Plain.resolveDots_eq {path : List Char} (h : Plain path) : resolveDots path = path := by
  unfold resolveDots
  dsimp only
  refine if_neg ?_
  rw [List.any_eq_true]
  rintro ⟨s, hs, hdots⟩
  obtain ⟨hone, htwo⟩ := h s hs
  simp [hone, htwo] at hdots

/-- A path is escaped segment by segment. -/
lemma splitWhere_percentEncode {safe : Char → Bool} (hslash : safe '/' = true) (cs : List Char) :
    splitWhere (· == '/') (percentEncode safe cs) =
      (splitWhere (· == '/') cs).map (percentEncode safe) := by
  induction cs with
  | nil => rfl
  | cons c cs ih =>
    rw [percentEncode, List.flatMap_cons, splitWhere]
    split
    · rename_i hc
      rw [eq_of_beq hc, percentChar, if_pos hslash, List.singleton_append, splitWhere]
      exact congrArg ([] :: ·) ih
    · rename_i hc
      obtain ⟨w, ws, hws⟩ := exists_splitWhere (p := (· == '/')) cs
      have hfree : ∀ d ∈ percentChar safe c, (d == '/') = false := by
        intro d hd
        unfold percentChar at hd
        split at hd
        · rw [List.mem_singleton.mp hd]
          exact Bool.eq_false_iff.mpr hc
        · obtain ⟨b, hb, hd⟩ := List.mem_flatMap.mp hd
          rcases mem_percentOctet (encodeChar_lt c b hb) hd with hsafe | rfl
          · exact beq_false_of_ne (ne_of_isUnreserved hsafe (by decide))
          · rfl
      rw [hws] at ih ⊢
      exact splitWhere_prepend hfree ih

/-- A path without dot segments has none when it is escaped. -/
lemma Plain.escape {path : List Char} (h : Plain path) : Plain (escape pathSafe path) := by
  intro s hs
  rw [escape_eq (by decide), splitWhere_percentEncode (by decide)] at hs
  obtain ⟨t, ht, rfl⟩ := List.mem_map.mp hs
  obtain ⟨hone, htwo⟩ := h t ht
  constructor
  · intro heq
    have hself : percentEncode (keeps pathSafe) t = t :=
      percentEncode_eq_self_of_not_mem (by rw [heq]; decide)
    exact hone (hself.symm.trans heq)
  · intro heq
    have hself : percentEncode (keeps pathSafe) t = t :=
      percentEncode_eq_self_of_not_mem (by rw [heq]; decide)
    exact htwo (hself.symm.trans heq)

/-- Segments are told apart by the slashes between them. -/
lemma splitWhere_joinSegments {segments : List (List Char)} (hne : segments ≠ [])
    (h : ∀ s ∈ segments, ∀ c ∈ s, (c == '/') = false) :
    splitWhere (· == '/') (joinSegments segments) = segments := by
  induction segments with
  | nil => exact absurd rfl hne
  | cons s rest ih =>
    rw [List.forall_mem_cons] at h
    cases rest with
    | nil => exact splitWhere_of_forall h.1
    | cons t others =>
      rw [joinSegments, splitWhere_append (p := (· == '/')) rfl, splitWhere_of_forall h.1,
        ih (List.cons_ne_nil _ _) h.2]
      · rfl
      · exact List.cons_ne_nil _ _

/-- A segment that is kept is one that was there, or the new one if it is no dot segment. -/
lemma mem_pushSegment {out : List (List Char)} {segment s : List Char}
    (h : s ∈ pushSegment out segment) :
    s ∈ out ∨ s = segment ∧ s ≠ ['.'] ∧ s ≠ ['.', '.'] := by
  unfold pushSegment at h
  split at h
  · exact .inl h
  · rename_i hone
    split at h
    · split at h
      · exact .inl h
      · exact .inl (List.mem_of_mem_drop h)
    · rename_i htwo
      rcases List.mem_cons.mp h with rfl | h
      · exact .inr ⟨rfl, hone, htwo⟩
      · exact .inl h

/-- The segments that are kept are segments of the path, and no dot segments. -/
lemma mem_foldl_pushSegment {segments out : List (List Char)} {s : List Char}
    (h : s ∈ segments.foldl pushSegment out) :
    s ∈ out ∨ s ∈ segments ∧ s ≠ ['.'] ∧ s ≠ ['.', '.'] := by
  induction segments generalizing out with
  | nil => exact .inl h
  | cons segment segments ih =>
    rcases ih h with hout | ⟨hmem, hdots⟩
    · rcases mem_pushSegment hout with hout | ⟨rfl, hdots⟩
      · exact .inl hout
      · exact .inr ⟨List.mem_cons_self, hdots⟩
    · exact .inr ⟨List.mem_cons_of_mem _ hmem, hdots⟩

/-- A path has no dot segments after they are resolved. -/
lemma plain_resolveDots (path : List Char) : Plain (resolveDots path) := by
  unfold resolveDots
  dsimp only
  split
  · intro s hs
    generalize hkept : ((splitWhere (· == '/') path).foldl pushSegment []).reverse = kept at hs
    have hmem : ∀ t ∈ kept, t ∈ splitWhere (· == '/') path ∧ t ≠ ['.'] ∧ t ≠ ['.', '.'] := by
      intro t ht
      rw [← hkept, List.mem_reverse] at ht
      rcases mem_foldl_pushSegment ht with hnil | hall
      · cases hnil
      · exact hall
    cases kept with
    | nil =>
      rw [List.mem_singleton.mp hs]
      decide
    | cons t others =>
      rw [splitWhere_joinSegments (List.cons_ne_nil _ _)
        fun t ht => forall_of_mem_splitWhere (hmem t ht).1] at hs
      exact (hmem s hs).2
  · rename_i hnone
    intro s hs
    rw [List.any_eq_true, not_exists] at hnone
    have hdots := hnone s
    simp only [hs, true_and, Bool.or_eq_true, decide_eq_true_eq, not_or] at hdots
    exact hdots

/-- The empty segment in front of a slash is never taken away. -/
lemma getLast?_foldl_pushSegment {segments out : List (List Char)} (h : out.getLast? = some []) :
    (segments.foldl pushSegment out).getLast? = some [] := by
  induction segments generalizing out with
  | nil => exact h
  | cons segment segments ih =>
    refine ih ?_
    unfold pushSegment
    split
    · exact h
    · split
      · split
        · exact h
        · rename_i hlong
          rw [Bool.or_eq_true, not_or, decide_eq_true_eq, decide_eq_true_eq] at hlong
          match out with
          | [] => cases h
          | [s] => exact absurd (congrArg (fun s => [s]) (Option.some.inj h)) hlong.2
          | _ :: s :: rest => rwa [List.getLast?_cons_cons] at h
      · match out with
        | [] => cases h
        | s :: rest => rwa [List.getLast?_cons_cons]

/-- A path that begins with a slash does so after dots are resolved, unless nothing is left. -/
lemma head?_resolveDots {path : List Char} (h : path.head? = some '/') :
    resolveDots path = [] ∨ (resolveDots path).head? = some '/' := by
  unfold resolveDots
  dsimp only
  split
  · cases path with
    | nil => cases h
    | cons c path =>
      cases Option.some.inj h
      have hsplit : splitWhere (· == '/') ('/' :: path) = [] :: splitWhere (· == '/') path := rfl
      have hlast : ((splitWhere (· == '/') path).foldl pushSegment [[]]).getLast? = some [] :=
        getLast?_foldl_pushSegment rfl
      rw [hsplit, List.foldl_cons]
      change joinSegments ((splitWhere (· == '/') path).foldl pushSegment [[]]).reverse = [] ∨
        (joinSegments ((splitWhere (· == '/') path).foldl pushSegment [[]]).reverse).head? = _
      rw [← List.head?_reverse] at hlast
      match hkept : ((splitWhere (· == '/') path).foldl pushSegment [[]]).reverse with
      | [] => exact .inl rfl
      | [s] =>
        rw [hkept] at hlast
        exact .inl (Option.some.inj hlast)
      | s :: t :: rest =>
        rw [hkept] at hlast
        cases Option.some.inj hlast
        exact .inr rfl
  · exact .inr h

/-- A text that is escaped begins with a slash if it did so before. -/
lemma head?_escape {cs : List Char} (h : cs.head? = some '/') :
    (escape pathSafe cs).head? = some '/' := by
  cases cs with
  | nil => cases h
  | cons c cs =>
    cases Option.some.inj h
    rfl

/-! ## Hosts -/

/-- What a host in normal form is: an IPv6 address, or else a text of characters that are kept. -/
def HostForm (cs : List Char) : Prop :=
  isIPv6 cs = true ∨ ∀ c ∈ cs, keeps hostSafe c = true

/-- A host as it stands in an authority: in brackets if there is a colon in it. -/
def hostText (host : String) : List Char :=
  if host.toList.contains ':' then '[' :: host.toList ++ [']'] else host.toList

/-- A gap is made of colons. -/
lemma colon_mem_of_cutGap? {cs : List Char} {ab : List Char × List Char}
    (h : cutGap? cs = some ab) : ':' ∈ cs := by
  induction cs generalizing ab with
  | nil => cases h
  | cons c cs ih =>
    by_cases hc : c = ':'
    · rw [hc]
      exact List.mem_cons_self
    · rw [cutGap?] at h
      · obtain ⟨rest, hrest, -⟩ := Option.map_eq_some_iff.mp h
        exact List.mem_cons_of_mem _ (ih hrest)
      · exact fun _ heq _ => hc heq

/-- Without colons there are no more than two groups. -/
lemma groupCount?_le {cs : List Char} (h : ':' ∉ cs) {atEnd : Bool} {n : Nat}
    (hn : groupCount? atEnd cs = some n) : n ≤ 2 := by
  have hsplit : splitWhere (· == ':') cs = [cs] := by
    refine splitWhere_of_forall fun c hc => beq_false_of_ne ?_
    rintro rfl
    exact h hc
  unfold groupCount? at hn
  dsimp only at hn
  rw [hsplit] at hn
  split at hn
  · cases hn
    exact Nat.zero_le 2
  · split at hn
    · cases hn
      exact Nat.le_succ 1
    · split at hn
      · cases hn
        exact Nat.le_refl 2
      · cases hn

/-- Eight groups, or groups with a gap, have a colon between them. -/
lemma colon_mem_of_isGrouped {cs : List Char} (h : isGrouped cs = true) : ':' ∈ cs := by
  by_contra hcolon
  unfold isGrouped at h
  cases hgap : cutGap? cs with
  | some ab => exact hcolon (colon_mem_of_cutGap? hgap)
  | none =>
    rw [hgap] at h
    have hcount := groupCount?_le hcolon (eq_of_beq h)
    exact absurd hcount (by decide)

/-- There is a colon in an IPv6 address. -/
lemma colon_mem_of_isIPv6 {cs : List Char} (h : isIPv6 cs = true) : ':' ∈ cs := by
  unfold isIPv6 at h
  cases hcut : cut? '%' cs with
  | none =>
    rw [hcut] at h
    exact colon_mem_of_isGrouped h
  | some ab =>
    rw [hcut] at h
    dsimp only at h
    rw [Bool.and_eq_true, Bool.and_eq_true] at h
    rw [(eq_of_cut? hcut).1]
    exact List.mem_append_left _ (colon_mem_of_isGrouped h.1.1)

/-- The characters of an IPv4 address are kept. -/
lemma keeps_of_isIPv4 {cs : List Char} (h : isIPv4 cs = true) :
    ∀ c ∈ cs, keeps hostSafe c = true := by
  intro c hc
  simp only [isIPv4, Bool.and_eq_true, List.all_eq_true] at h
  rcases exists_mem_splitWhere (p := (· == '.')) hc with hdot | ⟨w, hw, hcw⟩
  · rw [eq_of_beq hdot]
    decide
  · have hoctet := h.2 w hw
    simp only [isOctet, Bool.and_eq_true, List.all_eq_true] at hoctet
    have hdigit : c.isDigit = true := hoctet.1.1.1.2 c hcw
    rw [keeps, isUnreserved, Char.isAlphanum, hdigit, Bool.or_true]
    rfl

/-- Characters that are kept in a host are visible. -/
lemma visible_of_keeps_hostSafe {c : Char} (h : keeps hostSafe c = true) :
    32 < c.toNat ∧ c.toNat < 127 := by
  refine visible_of_keeps (fun d hd => ?_) h
  have hall : ['!', '$', '&', '\'', '(', ')', '*', '+', ',', ';', '=', '"', Char.ofNat 0x60, '\x7b',
      '\x7d', '%', '|', '\\'].all (fun d => decide (32 < d.toNat ∧ d.toNat < 127)) = true := by
    decide
  exact of_decide_eq_true (List.all_eq_true.mp hall d (List.contains_iff_mem.mp hd))

/-- Characters that are kept in a host are so in lower case. -/
lemma keeps_toLower {c : Char} (h : keeps hostSafe c = true) :
    keeps hostSafe c.toLower = true := by
  by_cases hupper : c.isUpper = true
  · have halpha : c.toLower.isAlpha = true := by
      rw [Char.isAlpha_toLower_eq_isAlpha, Char.isAlpha, hupper, Bool.true_or]
    rw [keeps, isUnreserved, Char.isAlphanum, halpha]
    rfl
  · rwa [Char.toLower_eq_of_not_isUpper hupper]

/-- The decimals are the same in lower case. -/
lemma isDigit_toLower (c : Char) : c.toLower.isDigit = c.isDigit := by
  by_cases hupper : c.isUpper = true
  · have hlower : c.toLower.isLower = true := by
      rw [Char.isLower_toLower_eq_isAlpha, Char.isAlpha, hupper, Bool.true_or]
    have hbefore : c.isDigit = false := by grind [Char.isUpper, Char.isDigit]
    have hafter : c.toLower.isDigit = false := by grind [Char.isLower, Char.isDigit]
    rw [hbefore, hafter]
  · rw [Char.toLower_eq_of_not_isUpper hupper]

/-- A host looks like an IPv4 address exactly if it does so in lower case. -/
lemma looksLikeIPv4_toLower (cs : List Char) :
    looksLikeIPv4 (cs.map Char.toLower) = looksLikeIPv4 cs := by
  have hboth : ∀ (cs : List Char) (n : Nat),
      startsGroup n (cs.map Char.toLower) = startsGroup n cs ∧
        inGroup n (cs.map Char.toLower) = inGroup n cs := by
    intro cs
    induction cs with
    | nil => exact fun n => ⟨rfl, rfl⟩
    | cons c cs ih =>
      intro n
      constructor
      · rw [List.map_cons, startsGroup, startsGroup, isDigit_toLower, (ih n).2]
      · cases n with
        | zero => rw [List.map_cons, inGroup, inGroup, isDigit_toLower, (ih 0).2]
        | succ n =>
          rw [List.map_cons, inGroup, inGroup, isDigit_toLower, (ih (n + 1)).2, (ih n).1]
  exact (hboth cs 3).1

/-- There are no colons in a host of characters that are kept. -/
lemma hostText_of_keeps {host : String} (h : ∀ c ∈ host.toList, keeps hostSafe c = true) :
    hostText host = host.toList := by
  refine if_neg fun hcolon => ?_
  exact absurd (h ':' (List.contains_iff_mem.mp hcolon)) (by decide)

/-- An IPv6 address stands in brackets. -/
lemma hostText_of_isIPv6 {host : String} (h : isIPv6 host.toList = true) :
    hostText host = '[' :: host.toList ++ [']'] :=
  if_pos (List.contains_iff_mem.mpr (colon_mem_of_isIPv6 h))

section Names

variable [HostNames]

/-- A host of characters that are kept is put into lower case, unless it looks like an IPv4
address. -/
lemma normalHost_of_keeps {cs : List Char} (h : ∀ c ∈ cs, keeps hostSafe c = true) :
    normalHost cs =
      if looksLikeIPv4 cs then
        if isIPv4 cs then .ok (String.ofList cs) else .error (.badIPv4 (String.ofList cs))
      else .ok (String.ofList (cs.map Char.toLower)) := by
  have hascii : cs.all (fun c => decide (c.toNat < 128)) = true := by
    refine List.all_eq_true.mpr fun c hc => decide_eq_true ?_
    have hvisible := visible_of_keeps_hostSafe (h c hc)
    omega
  have hbracket : ¬ (decide (cs.head? = some '[') && decide (cs.getLast? = some ']')) = true := by
    rw [Bool.and_eq_true, decide_eq_true_eq]
    rintro ⟨hfirst, -⟩
    exact absurd (h '[' (List.mem_of_head? hfirst)) (by decide)
  have hlower : escape hostSafe (cs.map Char.toLower) = cs.map Char.toLower := by
    refine escape_eq_self _ (by decide) (List.forall_mem_map.mpr fun c hc => ?_)
    exact keeps_toLower (h c hc)
  cases cs with
  | nil => rfl
  | cons c cs =>
    have hne : ¬ (c :: cs).isEmpty = true := Bool.false_ne_true
    unfold normalHost
    rw [if_neg hne, if_neg hbracket, if_pos hascii, hlower]

/-- An IPv6 address in brackets comes out as it is. -/
lemma normalHost_of_isIPv6 {cs : List Char} (h : isIPv6 cs = true) :
    normalHost ('[' :: cs ++ [']']) = .ok (String.ofList cs) := by
  have hnonempty : ('[' :: cs ++ [']']).isEmpty = false := rfl
  have hfour : looksLikeIPv4 ('[' :: cs ++ [']']) = false := rfl
  have hfirst : ('[' :: cs ++ [']']).head? = some '[' := rfl
  have hlast : ('[' :: cs ++ [']']).getLast? = some ']' := List.getLast?_concat
  have hinner : (('[' :: cs ++ [']']).drop 1).dropLast = cs := List.dropLast_concat
  unfold normalHost
  dsimp only
  rw [hnonempty, hfour, hfirst, hlast, hinner, h]
  rfl

/-- The characters of a host in normal form were there before or are kept, and the host has the form
of one. -/
lemma normalHost_spec {cs : List Char} {s : String} (h : normalHost cs = .ok s) :
    HostForm s.toList ∧ ∀ c ∈ s.toList, c ∈ cs ∨ keeps hostSafe c = true := by
  have hkept : ∀ ds : List Char, (∀ c ∈ ds, keeps hostSafe c = true) →
      HostForm (String.ofList ds).toList ∧
        ∀ c ∈ (String.ofList ds).toList, c ∈ cs ∨ keeps hostSafe c = true := by
    intro ds hds
    rw [String.toList_ofList]
    exact ⟨.inr hds, fun c hc => .inr (hds c hc)⟩
  unfold normalHost at h
  dsimp only at h
  split at h
  · cases h
    exact hkept [] nofun
  · split at h
    · split at h
      · rename_i hfour
        cases h
        exact hkept cs (keeps_of_isIPv4 hfour)
      · cases h
    · split at h
      · split at h
        · rename_i hsix
          cases h
          rw [String.toList_ofList]
          exact ⟨.inl hsix, fun c hc =>
            .inl (List.mem_of_mem_drop ((List.dropLast_sublist _).mem hc))⟩
        · cases h
      · split at h
        · cases h
          exact hkept _ fun c hc => keeps_of_mem_escape (by decide) hc
        · split at h
          · rename_i name hname
            cases h
            refine hkept name fun c hc => ?_
            rw [keeps, HostNames.isUnreserved_of_ascii? hname c hc, Bool.true_or]
          · cases h

/-- A host in normal form is left alone when it is brought into normal form again, or it is put into
lower case and left alone from then on. -/
lemma normalHost_hostText {host name : String} (hform : HostForm host.toList)
    (h : normalHost (hostText host) = .ok name) :
    normalHost (hostText name) = .ok name ∧
      (name = host ∨ name = String.ofList (host.toList.map Char.toLower)) := by
  rcases hform with hsix | hkeep
  · have hsame : name = host := by
      rw [hostText_of_isIPv6 hsix, normalHost_of_isIPv6 hsix, String.ofList_toList] at h
      exact (Except.ok.inj h).symm
    rw [hsame] at h ⊢
    exact ⟨h, .inl rfl⟩
  · have hnormal := h
    rw [hostText_of_keeps hkeep, normalHost_of_keeps hkeep, String.ofList_toList] at hnormal
    split at hnormal
    · split at hnormal
      · rw [← Except.ok.inj hnormal] at h ⊢
        exact ⟨h, .inl rfl⟩
      · cases hnormal
    · rename_i hlooks
      cases hnormal
      have hlower : ∀ c ∈ (String.ofList (host.toList.map Char.toLower)).toList,
          keeps hostSafe c = true := by
        rw [String.toList_ofList]
        exact List.forall_mem_map.mpr fun c hc => keeps_toLower (hkeep c hc)
      have hagain : (host.toList.map Char.toLower).map Char.toLower =
          host.toList.map Char.toLower := by
        rw [List.map_map]
        exact List.map_congr_left fun c _ => Char.toLower_toLower_eq_toLower c
      refine ⟨?_, .inr rfl⟩
      rw [hostText_of_keeps hlower, normalHost_of_keeps hlower, String.toList_ofList,
        looksLikeIPv4_toLower, if_neg hlooks, hagain]

/-- A host comes to nothing exactly if it is empty. -/
lemma host_eq_empty_iff {host name : String} (hform : HostForm host.toList)
    (h : normalHost (hostText host) = .ok name) : name = "" ↔ host = "" := by
  rcases (normalHost_hostText hform h).2 with hsame | hsame
  · rw [hsame]
  · rw [hsame, String.ofList_eq_empty_iff, List.map_eq_nil_iff, String.toList_eq_nil_iff]

end Names

/-! ## Authorities -/

/-- A port as it stands in an authority. -/
def portText (port : Option Int) : List Char :=
  match port with
  | some p => (toString p).toList
  | none => []

/-- The decimals of a number and its sign are no separators. -/
lemma mem_toString {p : Int} {c : Char} (h : c ∈ (toString p).toList) :
    c = '-' ∨ c.isDigit = true := by
  have hdecimals : ∀ n, c ∈ (Nat.repr n).toList → c.isDigit = true := by
    intro n hc
    rw [Nat.repr, String.toList_ofList] at hc
    exact Nat.isDigit_of_mem_toDigits (by decide) (by decide) hc
  cases p with
  | ofNat n => exact .inr (hdecimals n h)
  | negSucc n =>
    have hsign : (toString (Int.negSucc n)).toList = '-' :: (Nat.repr (n + 1)).toList := by
      have happend : toString (Int.negSucc n) = "-" ++ Nat.repr (n + 1) := rfl
      rw [happend, String.toList_append]
      rfl
    rw [hsign] at h
    rcases List.mem_cons.mp h with rfl | hc
    · exact .inl rfl
    · exact .inr (hdecimals _ hc)

/-- A number is not written as nothing. -/
lemma toString_ne_nil (p : Int) : (toString p).toList ≠ [] := by
  have hdecimals : ∀ n, (Nat.repr n).toList ≠ [] := by
    intro n
    rw [Nat.repr, String.toList_ofList]
    exact List.ne_nil_of_length_pos Nat.length_toDigits_pos
  cases p with
  | ofNat n => exact hdecimals n
  | negSucc n =>
    have happend : toString (Int.negSucc n) = "-" ++ Nat.repr (n + 1) := rfl
    rw [happend, String.toList_append]
    exact List.cons_ne_nil _ _

/-- User information in front of a host. -/
def userPart (user : List Char) : List Char :=
  if user = [] then [] else user ++ ['@']

/-- A port behind a host. -/
def portPart (port : List Char) : List Char :=
  if port = [] then [] else ':' :: port

/-- Takes a host and a port apart, as they stand behind the user information. -/
def splitHostPort (rest : List Char) : List Char × List Char :=
  let bracketed := if rest.head? = some '[' then cut? ']' rest.reverse else none
  let (host, tail) := match bracketed with
    | some (after, before) => (before.reverse ++ [']'], after.reverse)
    | none => (rest.takeWhile (· != ':'), rest.dropWhile (· != ':'))
  (host, if tail.head? = some ':' then tail.drop 1 else tail)

/-- User information ends at the last at sign. -/
lemma splitUserHostPort_eq (cs : List Char) :
    splitUserHostPort cs = match cut? '@' cs.reverse with
      | some (after, before) => (before.reverse, splitHostPort after.reverse)
      | none => ([], splitHostPort cs) := by
  unfold splitUserHostPort
  cases cut? '@' cs.reverse <;> rfl

/-- A character of a host stands in what the host is taken from. -/
lemma mem_splitHostPort {rest : List Char} {c : Char} (h : c ∈ (splitHostPort rest).1) :
    c ∈ rest := by
  unfold splitHostPort at h
  dsimp only at h
  split at h
  · rename_i after before hcut
    split at hcut
    · have hrest : rest = before.reverse ++ ']' :: after.reverse := by
        have hreverse := congrArg List.reverse (eq_of_cut? hcut).1
        simpa using hreverse
      rw [hrest]
      rcases List.mem_append.mp h with h | h
      · exact List.mem_append_left _ h
      · rw [List.mem_singleton.mp h]
        exact List.mem_append_right _ List.mem_cons_self
    · cases hcut
  · exact (List.takeWhile_sublist _).mem h

/-- A character of a host stands in the authority, and is no at sign. -/
lemma mem_splitUserHostPort {cs : List Char} {c : Char} (h : c ∈ (splitUserHostPort cs).2.1) :
    c ∈ cs ∧ c ≠ '@' := by
  rw [splitUserHostPort_eq] at h
  split at h
  · rename_i after before hcut
    obtain ⟨heq, hat⟩ := eq_of_cut? hcut
    have hmem : c ∈ after := List.mem_reverse.mp (mem_splitHostPort h)
    constructor
    · rw [← List.mem_reverse, heq]
      exact List.mem_append_left _ hmem
    · rintro rfl
      exact hat hmem
  · rename_i hcut
    have hmem := mem_splitHostPort h
    refine ⟨hmem, ?_⟩
    rintro rfl
    exact not_mem_of_cut? hcut (List.mem_reverse.mpr hmem)

/-- What is neither a decimal nor a sign nor a colon does not stand behind a host. -/
lemma not_mem_portPart {port : List Char} (hport : ∀ c ∈ port, c = '-' ∨ c.isDigit = true)
    {d : Char} (hcolon : d ≠ ':') (hsign : d ≠ '-') (hdigit : d.isDigit = false) :
    d ∉ portPart port := by
  intro hmem
  unfold portPart at hmem
  split at hmem
  · cases hmem
  · rcases List.mem_cons.mp hmem with rfl | hmem
    · exact hcolon rfl
    · rcases hport d hmem with rfl | h
      · exact hsign rfl
      · rw [hdigit] at h
        cases h

/-- A host and a port are taken apart, if the host is in brackets or holds neither colons nor
brackets, and if the port holds no separators. -/
lemma splitHostPort_append {host port : List Char}
    (hhost : (∃ inner, host = '[' :: inner ++ [']']) ∨ ':' ∉ host ∧ '[' ∉ host)
    (hport : ∀ c ∈ port, c = '-' ∨ c.isDigit = true) :
    splitHostPort (host ++ portPart port) = (host, port) := by
  have htail : (if (portPart port).head? = some ':' then (portPart port).drop 1
      else portPart port) = port := by
    unfold portPart
    split
    · rename_i hnone
      rw [hnone]
      rfl
    · rfl
  unfold splitHostPort
  dsimp only
  rcases hhost with ⟨inner, rfl⟩ | ⟨hcolon, hbracket⟩
  · have hclose : ']' ∉ (portPart port).reverse := by
      rw [List.mem_reverse]
      exact not_mem_portPart hport (by decide) (by decide) (by decide)
    have hreverse : ('[' :: inner ++ [']'] ++ portPart port).reverse =
        (portPart port).reverse ++ ']' :: ('[' :: inner).reverse := by
      simp
    have hfirst : ('[' :: inner ++ [']'] ++ portPart port).head? = some '[' := rfl
    rw [if_pos hfirst, hreverse, cut?_append hclose]
    simp only [List.reverse_reverse]
    rw [htail]
  · have hfirst : (host ++ portPart port).head? ≠ some '[' := by
      intro h
      rcases List.mem_append.mp (List.mem_of_head? h) with hmem | hmem
      · exact hbracket hmem
      · exact not_mem_portPart hport (by decide) (by decide) (by decide) hmem
    have hbefore : ∀ c ∈ host, (c != ':') = true := by
      intro c hc
      refine bne_iff_ne.mpr ?_
      rintro rfl
      exact hcolon hc
    have hafter : (portPart port).takeWhile (· != ':') = [] ∧
        (portPart port).dropWhile (· != ':') = portPart port := by
      unfold portPart
      split <;> exact ⟨rfl, rfl⟩
    rw [if_neg hfirst]
    dsimp only
    rw [List.takeWhile_append_of_pos hbefore, List.dropWhile_append_of_pos hbefore, hafter.1,
      hafter.2, List.append_nil, htail]

/-- An authority is taken apart into what it is made of. -/
lemma splitUserHostPort_append {user host port : List Char}
    (hhost : (∃ inner, host = '[' :: inner ++ [']']) ∨ ':' ∉ host ∧ '[' ∉ host)
    (hat : '@' ∉ host) (hport : ∀ c ∈ port, c = '-' ∨ c.isDigit = true) :
    splitUserHostPort (userPart user ++ host ++ portPart port) = (user, host, port) := by
  have hsplit := splitHostPort_append hhost hport
  have hrest : '@' ∉ (host ++ portPart port).reverse := by
    rw [List.mem_reverse, List.mem_append, not_or]
    exact ⟨hat, not_mem_portPart hport (by decide) (by decide) (by decide)⟩
  rw [splitUserHostPort_eq]
  by_cases huser : user = []
  · rw [userPart, if_pos huser, List.nil_append, cut?_eq_none hrest]
    dsimp only
    rw [hsplit, huser]
  · have hreverse : (user ++ ['@'] ++ host ++ portPart port).reverse =
        (host ++ portPart port).reverse ++ '@' :: user.reverse := by
      simp
    rw [userPart, if_neg huser, hreverse, cut?_append hrest]
    dsimp only
    rw [List.reverse_reverse, List.reverse_reverse, hsplit]

end PageTree.Url
