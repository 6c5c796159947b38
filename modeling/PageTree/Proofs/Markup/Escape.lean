import PageTree.Markup.Token
import PageTree.Proofs.Outcome
import PageTree.Proofs.Text.Blank

/-!
# Escaped texts

In an escaped text the characters that have a meaning in markup occur as references only (`Inert`),
and the references stand for them (`unescape_escape`).  So where a text is put into markup escaped,
it is read as nothing but text (`scanPass_escaped`), and where it is put between quotation marks, as
the value of one attribute (`bracketStep_href`).
-/

namespace PageTree.Markup

open Text

/-- Whether a character has a meaning in markup. -/
def isMeant (c : Char) : Bool :=
  ['&', '<', '>', '"', '\''].contains c

/-- Whether a character can end a text in markup, or a value between double quotation marks. -/
def isActive (c : Char) : Bool :=
  ['&', '<', '>', '"'].contains c

/-- A text in which the active characters only occur as references, or in them. -/
inductive Inert : List Char → Prop
  | nil : Inert []
  | plain {c : Char} {cs : List Char} (hc : isActive c = false) (h : Inert cs) : Inert (c :: cs)
  | reference {c : Char} {cs : List Char} (hc : isMeant c = true) (h : Inert cs) :
      Inert (escapeChar c ++ cs)

/-- The characters with a meaning. -/
lemma isMeant_iff (c : Char) :
    isMeant c = true ↔ c = '&' ∨ c = '<' ∨ c = '>' ∨ c = '"' ∨ c = '\'' := by
  simp [isMeant]

/-- The active characters. -/
lemma isActive_iff (c : Char) : isActive c = true ↔ c = '&' ∨ c = '<' ∨ c = '>' ∨ c = '"' := by
  simp [isActive]

/-- A character without a meaning is not active. -/
lemma isActive_of_not_isMeant {c : Char} (h : isMeant c = false) : isActive c = false := by
  have hne := mt (isMeant_iff c).mpr (Bool.eq_false_iff.mp h)
  refine Bool.eq_false_iff.mpr (mt (isActive_iff c).mp fun hc => hne ?_)
  rcases hc with hc | hc | hc | hc
  · exact .inl hc
  · exact .inr (.inl hc)
  · exact .inr (.inr (.inl hc))
  · exact .inr (.inr (.inr (.inl hc)))

/-- An ampersand is active. -/
lemma ne_ampersand {c : Char} (h : isActive c = false) : c ≠ '&' := by
  rintro rfl
  cases h

/-- Any other character is written as it is. -/
lemma escapeChar_of_plain {c : Char} (h : isMeant c = false) : escapeChar c = [c] := by
  have hne : ¬ (c = '&' ∨ c = '<' ∨ c = '>' ∨ c = '"' ∨ c = '\'') := by
    rw [← isMeant_iff, h]
    exact Bool.false_ne_true
  simp only [not_or] at hne
  obtain ⟨hamp, hlt, hgt, hquot, hapos⟩ := hne
  rw [escapeChar, if_neg hamp, if_neg hlt, if_neg hgt, if_neg hquot, if_neg hapos]

/-- An escaped text is inert. -/
lemma inert_escape (s : String) : Inert (escape s).toList := by
  rw [escape, String.toList_ofList]
  induction s.toList with
  | nil => exact .nil
  | cons c cs ih =>
    rw [List.flatMap_cons]
    cases hc : isMeant c with
    | false =>
      rw [escapeChar_of_plain hc]
      exact .plain (isActive_of_not_isMeant hc) ih
    | true => exact .reference hc ih

/-- No angle brackets and no double quotation marks stand in an inert text. -/
lemma Inert.ne_of_mem {cs : List Char} (h : Inert cs) :
    ∀ c ∈ cs, c ≠ '<' ∧ c ≠ '>' ∧ c ≠ '"' := by
  induction h with
  | nil => nofun
  | plain hc _ ih =>
    rw [List.forall_mem_cons]
    refine ⟨?_, ih⟩
    have hne := mt (isActive_iff _).mpr (Bool.eq_false_iff.mp hc)
    simp only [not_or] at hne
    exact hne.2
  | reference hc _ ih =>
    rw [List.forall_mem_append]
    refine ⟨?_, ih⟩
    rcases (isMeant_iff _).mp hc with rfl | rfl | rfl | rfl | rfl <;> simp [escapeChar]

/-- The reference for a character stands for it. -/
lemma unescapeAfter_escapeChar (c : Char) (rest : List Char) :
    unescapeAfter 0 (escapeChar c ++ rest) = c :: unescapeAfter 0 rest := by
  cases hc : isMeant c with
  | true => rcases (isMeant_iff c).mp hc with rfl | rfl | rfl | rfl | rfl <;> rfl
  | false =>
    rw [escapeChar_of_plain hc, List.singleton_append, unescapeAfter,
      if_neg (ne_ampersand (isActive_of_not_isMeant hc))]

/-- A character that starts no reference stands for itself. -/
lemma unescapeAfter_cons {c : Char} (h : c ≠ '&') (rest : List Char) :
    unescapeAfter 0 (c :: rest) = c :: unescapeAfter 0 rest := by
  rw [unescapeAfter, if_neg h]

/-- An escaped text stands for the text. -/
theorem unescape_escape (s : String) : unescape (escape s) = s := by
  have hchars : ∀ cs : List Char, unescapeAfter 0 (cs.flatMap escapeChar) = cs := by
    intro cs
    induction cs with
    | nil => rfl
    | cons c cs ih => rw [List.flatMap_cons, unescapeAfter_escapeChar, ih]
  rw [unescape, escape, String.toList_ofList, hchars, String.ofList_toList]

/-- A text for markup says another text: it is inert, and stands for the other one. -/
structure Says (written text : String) : Prop where
  inert : Inert written.toList
  meaning : unescape written = text

/-- What is escaped says what it was. -/
lemma says_escape (s : String) : Says (escape s) s :=
  ⟨inert_escape s, unescape_escape s⟩

/-- The reference for a character is longer than the character. -/
lemma one_lt_length_escapeChar {c : Char} (hc : isMeant c = true) : 1 < (escapeChar c).length := by
  rcases (isMeant_iff c).mp hc with rfl | rfl | rfl | rfl | rfl <;> decide

/-- An inert text is at least as long as what it stands for. -/
lemma Inert.length_unescapeAfter_le {cs : List Char} (h : Inert cs) :
    (unescapeAfter 0 cs).length ≤ cs.length := by
  induction h with
  | nil => exact Nat.le_refl 0
  | plain hc _ ih =>
    rw [unescapeAfter_cons (ne_ampersand hc), List.length_cons, List.length_cons]
    omega
  | reference hc _ ih =>
    have hlonger := one_lt_length_escapeChar hc
    rw [unescapeAfter_escapeChar, List.length_cons, List.length_append]
    omega

/-- An inert text that stands for itself has no references. -/
lemma Inert.not_isActive {cs : List Char} (h : Inert cs) (hself : unescapeAfter 0 cs = cs) :
    ∀ c ∈ cs, isActive c = false := by
  induction h with
  | nil => nofun
  | plain hc _ ih =>
    rw [unescapeAfter_cons (ne_ampersand hc)] at hself
    exact List.forall_mem_cons.mpr ⟨hc, ih (List.cons.inj hself).2⟩
  | @reference c cs hc hinert _ =>
    -- the reference would stand for more than one character
    have hlength := congrArg List.length hself
    have hlonger := one_lt_length_escapeChar hc
    have hle := hinert.length_unescapeAfter_le
    rw [unescapeAfter_escapeChar, List.length_cons, List.length_append] at hlength
    omega

/-- A text without active characters is inert and stands for itself. -/
lemma inert_of_not_isActive {cs : List Char} (h : ∀ c ∈ cs, isActive c = false) :
    Inert cs ∧ unescapeAfter 0 cs = cs := by
  induction cs with
  | nil => exact ⟨.nil, rfl⟩
  | cons c cs ih =>
    rw [List.forall_mem_cons] at h
    obtain ⟨hinert, hself⟩ := ih h.2
    exact ⟨.plain h.1 hinert, by rw [unescapeAfter_cons (ne_ampersand h.1), hself]⟩

/-- A text says itself exactly if it has no active characters. -/
theorem says_self_iff (s : String) : Says s s ↔ ∀ c ∈ s.toList, isActive c = false := by
  constructor
  · intro h
    refine h.inert.not_isActive ?_
    have hmeaning := congrArg String.toList h.meaning
    rwa [unescape, String.toList_ofList] at hmeaning
  · intro h
    obtain ⟨hinert, hself⟩ := inert_of_not_isActive h
    exact ⟨hinert, by rw [unescape, hself, String.ofList_toList]⟩

/-! ## Escaped text is read as text -/

/-- The number of an apostrophe is read. -/
lemma looseNumber?_apostrophe (rest : List Char) :
    looseNumber? ('x' :: '2' :: '7' :: ';' :: rest) = some (39, rest) := by
  unfold looseNumber?
  simp [hexNumber, hexValue?, ofDigits]

/-- A reference that escaping writes is read as the character that it stands for. -/
lemma referenceStep_escapeChar {c : Char} (hc : isMeant c = true) (rest : List Char) :
    ∃ more, escapeChar c = '&' :: more ∧
      referenceStep false ('&' :: (more ++ rest)) = .go [.text [c]] none rest := by
  rcases (isMeant_iff c).mp hc with rfl | rfl | rfl | rfl | rfl
  · exact ⟨_, rfl, rfl⟩
  · exact ⟨_, rfl, rfl⟩
  · exact ⟨_, rfl, rfl⟩
  · exact ⟨_, rfl, rfl⟩
  · refine ⟨_, rfl, ?_⟩
    change numberStep ('&' :: '#' :: 'x' :: '2' :: '7' :: ';' :: rest) = _
    rw [numberStep, List.drop_succ_cons, List.drop_succ_cons, List.drop_zero,
      looseNumber?_apostrophe]
    rfl

/-- A step goes over characters without a meaning up to what `bracketStep` or `referenceStep`
reads. -/
lemma step_plain {plain : List Char} (h : ∀ c ∈ plain, isMeant c = false) {d : Char}
    (hd : d = '<' ∨ d = '&') (rest : List Char) :
    step false none (plain ++ d :: rest) =
      match if d = '<' then bracketStep false (d :: rest) else referenceStep false (d :: rest) with
      | .go ts raw rest => .go (textTokens plain ++ ts) raw rest
      | .halt ts rest => .halt (textTokens plain ++ ts) rest
      | .reject e => .reject e := by
  have hplain : ∀ c ∈ plain, (c != '<' && c != '&') = true := by
    intro c hc
    have hne := mt (isMeant_iff c).mpr (Bool.eq_false_iff.mp (h c hc))
    simp only [not_or] at hne
    simp [hne.1, hne.2.1]
  have hstop : (d :: rest).takeWhile (fun c => c != '<' && c != '&') = [] := by
    rcases hd with rfl | rfl <;> rfl
  unfold step
  dsimp only
  rw [List.takeWhile_append_of_pos hplain, hstop, List.append_nil, List.drop_left]
  rcases hd with rfl | rfl <;> rfl

/-- Text that may be missing is at most one piece of text. -/
lemma exists_pieces (cs : List Char) :
    ∃ pieces : List (List Char), textTokens cs = pieces.map Token.text ∧ pieces.flatten = cs := by
  unfold textTokens
  cases cs with
  | nil => exact ⟨[], rfl, rfl⟩
  | cons c cs => exact ⟨[c :: cs], rfl, List.append_nil _⟩

/-- A pass takes a step and goes on behind it. -/
lemma scanPass_of_step {fuel : Nat} {raw raw' : Option (List Char)} {cs rest : List Char}
    {ts us : List Token} {z : Option (List Char) × List Char} (hne : cs ≠ [])
    (hstep : step false raw cs = .go ts raw' rest)
    (hrest : scanPass false fuel raw' rest = .ok (us, z)) :
    scanPass false (fuel + 1) raw cs = .ok (ts ++ us, z) := by
  cases cs with
  | nil => exact absurd rfl hne
  | cons c cs =>
    rw [scanPass, hstep]
    dsimp only
    rw [hrest]

/-- A closing tag at the end of a text ends a pass. -/
lemma closingStep_a : bracketStep false ['<', '/', 'a', '>'] = .go [.closing "a"] none [] := by
  rfl

/-- An escaped text in front of a closing tag is read as the text, in pieces. -/
theorem scanPass_escaped (cs : List Char) (fuel : Nat) (hfuel : cs.length + 1 < fuel) :
    ∃ pieces : List (List Char), pieces.flatten = cs ∧
      scanPass false fuel none (cs.flatMap escapeChar ++ ['<', '/', 'a', '>']) =
        .ok (pieces.map Token.text ++ [.closing "a"], none, []) := by
  -- a run of characters without a meaning is read at once, together with what ends it
  suffices hrun : ∀ plain : List Char, (∀ c ∈ plain, isMeant c = false) →
      ∃ pieces : List (List Char), pieces.flatten = plain ++ cs ∧
        scanPass false fuel none (plain ++ (cs.flatMap escapeChar ++ ['<', '/', 'a', '>'])) =
          .ok (pieces.map Token.text ++ [.closing "a"], none, []) from hrun [] nofun
  induction cs generalizing fuel with
  | nil =>
    intro plain hplain
    obtain ⟨pieces, hpieces, hflatten⟩ := exists_pieces plain
    obtain ⟨fuel, rfl⟩ := Nat.exists_eq_add_one_of_ne_zero (Nat.ne_zero_of_lt hfuel)
    have hstep : step false none (plain ++ ['<', '/', 'a', '>']) =
        .go (textTokens plain ++ [.closing "a"]) none [] := by
      rw [step_plain hplain (.inl rfl), if_pos rfl, closingStep_a]
    have hrest : scanPass false fuel none [] = .ok ([], none, []) := by
      cases fuel <;> rfl
    have hscan := scanPass_of_step (by simp) hstep hrest
    rw [List.append_nil, hpieces] at hscan
    exact ⟨pieces, by rw [hflatten, List.append_nil], hscan⟩
  | cons c cs ih =>
    intro plain hplain
    rw [List.length_cons] at hfuel
    rw [List.flatMap_cons, List.append_assoc]
    cases hc : isMeant c with
    | false =>
      obtain ⟨pieces, hflatten, hscan⟩ := ih fuel (by omega) (plain ++ [c]) (by
        rw [List.forall_mem_append, List.forall_mem_singleton]
        exact ⟨hplain, hc⟩)
      rw [List.append_assoc] at hflatten hscan
      rw [escapeChar_of_plain hc]
      exact ⟨pieces, hflatten, hscan⟩
    | true =>
      obtain ⟨fuel, rfl⟩ := Nat.exists_eq_add_one_of_ne_zero (Nat.ne_zero_of_lt hfuel)
      obtain ⟨before, hbefore, hfirst⟩ := exists_pieces plain
      obtain ⟨pieces, hflatten, hscan⟩ := ih fuel (by omega) [] nofun
      obtain ⟨more, hmore, hreference⟩ :=
        referenceStep_escapeChar hc (cs.flatMap escapeChar ++ ['<', '/', 'a', '>'])
      have hstep : step false none
          (plain ++ (escapeChar c ++ (cs.flatMap escapeChar ++ ['<', '/', 'a', '>']))) =
          .go (textTokens plain ++ [.text [c]]) none
            (cs.flatMap escapeChar ++ ['<', '/', 'a', '>']) := by
        rw [hmore, List.cons_append, step_plain hplain (.inr rfl), if_neg (by decide), hreference]
      refine ⟨before ++ [c] :: pieces, ?_, ?_⟩
      · rw [List.flatten_append, hfirst, List.flatten_cons, hflatten]
        rfl
      · rw [scanPass_of_step (by simp) hstep hscan, hbefore, List.map_append, List.map_cons]
        simp

/-! ## Links -/

/-- The attribute of a link up to its value. -/
def hrefMark : List Char :=
  [' ', 'h', 'r', 'e', 'f', '=', '"']

section Href

variable {value : List Char} (h : '"' ∉ value) (rest : List Char)

include h

/-- A value between quotation marks is read up to the second one. -/
lemma valueAfter?_quoted :
    valueAfter? ('=' :: '"' :: (value ++ '"' :: rest)) = some (value, true, rest) := by
  have hmarks : ('=' :: '"' :: (value ++ '"' :: rest)).dropWhile isBlank =
      '=' :: '"' :: (value ++ '"' :: rest) := rfl
  have hcount : (('=' :: '"' :: (value ++ '"' :: rest)).takeWhile (· == '=')).length = 1 := rfl
  have hvalue : ('"' :: (value ++ '"' :: rest)).dropWhile isBlank =
      '"' :: (value ++ '"' :: rest) := rfl
  unfold valueAfter?
  dsimp only
  rw [hmarks, hcount, if_neg Nat.one_ne_zero, List.drop_succ_cons, List.drop_zero, hvalue]
  dsimp only
  rw [if_pos (by decide), cut?_append h]

/-- A single attribute in front of the end of a tag. -/
lemma readAttributes_href (fuel : Nat) :
    readAttributes (fuel + 2) false (hrefMark ++ (value ++ '"' :: '>' :: rest)) =
      ([("href", unescape (String.ofList value))], '>' :: rest) := by
  have hgap : skipGap (hrefMark ++ (value ++ '"' :: '>' :: rest)) =
      'h' :: (['r', 'e', 'f', '=', '"'] ++ (value ++ '"' :: '>' :: rest)) := rfl
  have hname : (['r', 'e', 'f', '=', '"'] ++ (value ++ '"' :: '>' :: rest)).takeWhile
      isAttributeChar = ['r', 'e', 'f'] := rfl
  have hafter : (['r', 'e', 'f', '=', '"'] ++ (value ++ '"' :: '>' :: rest)).dropWhile
      isAttributeChar = '=' :: '"' :: (value ++ '"' :: '>' :: rest) := rfl
  have hkey : lower (String.ofList ['h', 'r', 'e', 'f']) = "href" := by decide
  have hend : readAttributes (fuel + 1) true ('>' :: rest) = ([], '>' :: rest) := rfl
  rw [readAttributes]
  dsimp only
  rw [hgap]
  dsimp only
  rw [hname, hafter, valueAfter?_quoted h]
  dsimp only
  rw [hend, hkey, if_pos (by simp [hrefMark, isBlank])]

/-- The tag that opens a link. -/
lemma bracketStep_href :
    bracketStep false ('<' :: 'a' :: (hrefMark ++ (value ++ '"' :: '>' :: rest))) =
      .go [.opening "a" [("href", unescape (String.ofList value))] false] none rest := by
  have hname : ('a' :: (hrefMark ++ (value ++ '"' :: '>' :: rest))).takeWhile isTagNameChar =
      ['a'] := rfl
  have hafter : ('a' :: (hrefMark ++ (value ++ '"' :: '>' :: rest))).dropWhile isTagNameChar =
      hrefMark ++ (value ++ '"' :: '>' :: rest) := rfl
  have helement : lower (String.ofList ['a']) = "a" := by decide
  have hready : (decide (['a'].getLast? = some '\'') || decide (['a'].getLast? = some '"')) =
      false := rfl
  change openingStep false ('<' :: 'a' :: (hrefMark ++ (value ++ '"' :: '>' :: rest))) = _
  unfold openingStep
  rw [List.drop_succ_cons, List.drop_zero]
  dsimp only [List.length_cons]
  rw [hname, hafter, hready, readAttributes_href h, helement]
  rfl

end Href

/-- No text gets shorter when it is escaped. -/
lemma length_le_flatMap_escapeChar (cs : List Char) :
    cs.length ≤ (cs.flatMap escapeChar).length := by
  induction cs with
  | nil => exact Nat.le_refl 0
  | cons c cs ih =>
    have hc : 1 ≤ (escapeChar c).length := by
      cases hc : isMeant c with
      | false =>
        rw [escapeChar_of_plain hc]
        exact Nat.le_refl 1
      | true => exact Nat.le_of_lt (one_lt_length_escapeChar hc)
    rw [List.flatMap_cons, List.length_append, List.length_cons]
    omega

/-- The characters of a link with an escaped address and an escaped text. -/
lemma toList_link (address text : String) :
    ("<a href=\"" ++ escape address ++ "\">" ++ escape text ++ "</a>").toList =
      '<' :: 'a' :: (hrefMark ++ ((escape address).toList ++ '"' :: '>' ::
        (text.toList.flatMap escapeChar ++ ['<', '/', 'a', '>']))) := by
  have hopen : "<a href=\"".toList = '<' :: 'a' :: hrefMark := rfl
  have hmid : "\">".toList = ['"', '>'] := rfl
  have hclose : "</a>".toList = ['<', '/', 'a', '>'] := rfl
  have htext : (escape text).toList = text.toList.flatMap escapeChar := String.toList_ofList
  simp only [String.toList_append, hopen, hmid, hclose, htext, List.append_assoc,
    List.cons_append, List.nil_append]

/-- A link with an escaped address and an escaped text is read as one link with the address and the
text: the tag that opens it, the text in pieces, and the tag that closes it. -/
theorem tokens_link (address text : String) :
    ∃ pieces : List (List Char), pieces.flatten = text.toList ∧
      tokens ("<a href=\"" ++ escape address ++ "\">" ++ escape text ++ "</a>") =
        .ok (.opening "a" [("href", address)] false :: (pieces.map Token.text ++
          [.closing "a"])) := by
  have hquote : '"' ∉ (escape address).toList :=
    fun hmem => ((inert_escape address).ne_of_mem _ hmem).2.2 rfl
  have hopening := bracketStep_href hquote (text.toList.flatMap escapeChar ++ ['<', '/', 'a', '>'])
  rw [String.ofList_toList, unescape_escape] at hopening
  unfold tokens
  dsimp only
  rw [toList_link]
  generalize hcs : hrefMark ++ ((escape address).toList ++ '"' :: '>' ::
    (text.toList.flatMap escapeChar ++ ['<', '/', 'a', '>'])) = cs at hopening
  have hlength : text.toList.length + 1 < ('<' :: 'a' :: cs).length := by
    have htext := length_le_flatMap_escapeChar text.toList
    rw [← hcs]
    simp only [List.length_append, List.length_cons]
    omega
  obtain ⟨pieces, hpieces, hscan⟩ := scanPass_escaped text.toList _ hlength
  have hstep : step false none ('<' :: 'a' :: cs) =
      .go [.opening "a" [("href", address)] false] none
        (text.toList.flatMap escapeChar ++ ['<', '/', 'a', '>']) := by
    have hplain := step_plain (List.forall_mem_nil fun c => isMeant c = false) (.inl rfl)
      ('a' :: cs)
    rw [if_pos rfl, hopening] at hplain
    exact hplain
  have hpass := scanPass_of_step (List.cons_ne_nil _ _) hstep hscan
  refine ⟨pieces, hpieces, ?_⟩
  rw [hpass]
  refine congrArg Except.ok ?_
  rw [List.append_nil]
  exact List.append_nil _

/-- Markup that is one link with an address and a text, as it is written and as it is read. -/
structure IsLink (markup address text : String) : Prop where
  written : ∃ href shown, markup = "<a href=\"" ++ href ++ "\">" ++ shown ++ "</a>" ∧
    Says href address ∧ Says shown text
  read : ∃ pieces : List (List Char), pieces.flatten = text.toList ∧
    tokens markup = .ok (.opening "a" [("href", address)] false :: (pieces.map Token.text ++
      [.closing "a"]))

/-- An escaped address and an escaped text make a link. -/
theorem isLink_escape (address text : String) :
    IsLink ("<a href=\"" ++ escape address ++ "\">" ++ escape text ++ "</a>") address text where
  written := ⟨_, _, rfl, says_escape address, says_escape text⟩
  read := tokens_link address text

end PageTree.Markup
