import Mathlib.Tactic.Lemma
import PageTree.Text.Percent

/-!
# Reading back what is escaped

A text is written in an address as escapes of its octets, and read back from them.  Reading octets
undoes writing them (`decodeLossy_encodeUtf8`), whatever the characters are, and resolving escapes
gives the octets back; so `percentDecode` undoes `percentEncode` as long as the percent sign is not
among the characters that are kept (`percentDecode_percentEncode`).
-/

namespace PageTree.Text

/-! ## Octets -/

/-- The numbers of characters leave out the surrogates and end at a fixed bound. -/
lemma char_bounds (c : Char) : c.toNat < 0xd800 ∨ 0xdfff < c.toNat ∧ c.toNat < 0x110000 :=
  c.valid

/-- A tail octet in its range adds six bits. -/
lemma readTails_succ {k lo hi acc b : Nat} {bs : List Nat} (hlo : lo ≤ b) (hhi : b ≤ hi) :
    readTails (k + 1) lo hi acc (b :: bs) = readTails k 0x80 0xbf (acc * 64 + (b - 0x80)) bs := by
  simp [readTails, hlo, hhi]

/-- Without tails to come, a character is done. -/
lemma readTails_zero (lo hi acc : Nat) (bs : List Nat) :
    readTails 0 lo hi acc bs = (some (Char.ofNat acc), bs) := rfl

/-- What the lead octet of a character of two octets announces. -/
lemma leadOctet?_two {n : Nat} (h : 0x80 ≤ n) (h' : n < 0x800) :
    leadOctet? (0xc0 + n / 64) = some (1, 0x80, 0xbf, n / 64) := by
  have hlo : 0xc2 ≤ 0xc0 + n / 64 := by omega
  have hhi : 0xc0 + n / 64 ≤ 0xdf := by omega
  simp [leadOctet?, hlo, hhi]

/-- What the lead octet of a character of three octets announces: the first tail is in range. -/
lemma leadOctet?_three {n : Nat} (h : 0x800 ≤ n) (h' : n < 0x10000)
    (hs : n < 0xd800 ∨ 0xdfff < n) :
    ∃ lo hi, leadOctet? (0xe0 + n / 4096) = some (2, lo, hi, n / 4096) ∧
      lo ≤ 0x80 + n / 64 % 64 ∧ 0x80 + n / 64 % 64 ≤ hi := by
  have hlead : 0xe0 + n / 4096 ≤ 0xef := by omega
  have hno : ¬ 0xe0 + n / 4096 ≤ 0xdf := by omega
  by_cases he0 : n / 4096 = 0
  · exact ⟨0xa0, 0xbf, by simp [leadOctet?, he0], by omega, by omega⟩
  · by_cases hed : n / 4096 = 13
    · exact ⟨0x80, 0x9f, by simp [leadOctet?, hed], by omega, by omega⟩
    · refine ⟨0x80, 0xbf, ?_, by omega, by omega⟩
      have hfirst : 0xe1 ≤ 0xe0 + n / 4096 := by omega
      have hsurrogate : 0xe0 + n / 4096 ≠ 0xed := by omega
      simp [leadOctet?, hno, he0, hsurrogate, hfirst, hlead]

/-- What the lead octet of a character of four octets announces: the first tail is in range. -/
lemma leadOctet?_four {n : Nat} (h : 0x10000 ≤ n) (h' : n < 0x110000) :
    ∃ lo hi, leadOctet? (0xf0 + n / 262144) = some (3, lo, hi, n / 262144) ∧
      lo ≤ 0x80 + n / 4096 % 64 ∧ 0x80 + n / 4096 % 64 ≤ hi := by
  have hno : ¬ 0xf0 + n / 262144 ≤ 0xdf := by omega
  have hthree : ¬ 0xf0 + n / 262144 ≤ 0xef := by omega
  have he0 : 0xf0 + n / 262144 ≠ 0xe0 := by omega
  have hed : 0xf0 + n / 262144 ≠ 0xed := by omega
  by_cases hf0 : n / 262144 = 0
  · exact ⟨0x90, 0xbf, by simp [leadOctet?, hf0], by omega, by omega⟩
  · by_cases hf4 : n / 262144 = 4
    · exact ⟨0x80, 0x8f, by simp [leadOctet?, hf4], by omega, by omega⟩
    · refine ⟨0x80, 0xbf, ?_, by omega, by omega⟩
      have hfirst : 0xf1 ≤ 0xf0 + n / 262144 := by omega
      have hlead : 0xf0 + n / 262144 ≤ 0xf3 := by omega
      have hnf4 : 0xf0 + n / 262144 ≠ 0xf4 := by omega
      simp [leadOctet?, hno, hthree, he0, hed, hf0, hnf4, hfirst, hlead]

/-- A character is written as one to four octets, according to its number. -/
lemma encodeChar_cases (c : Char) :
    (c.toNat < 0x80 ∧ encodeChar c = [c.toNat]) ∨
    (0x80 ≤ c.toNat ∧ c.toNat < 0x800 ∧
      encodeChar c = [0xc0 + c.toNat / 64, 0x80 + c.toNat % 64]) ∨
    (0x800 ≤ c.toNat ∧ c.toNat < 0x10000 ∧
      encodeChar c = [0xe0 + c.toNat / 4096, 0x80 + c.toNat / 64 % 64, 0x80 + c.toNat % 64]) ∨
    (0x10000 ≤ c.toNat ∧
      encodeChar c = [0xf0 + c.toNat / 262144, 0x80 + c.toNat / 4096 % 64,
        0x80 + c.toNat / 64 % 64, 0x80 + c.toNat % 64]) := by
  unfold encodeChar
  dsimp only
  by_cases h1 : c.toNat < 0x80
  · exact .inl ⟨h1, if_pos h1⟩
  · by_cases h2 : c.toNat < 0x800
    · exact .inr (.inl ⟨by omega, h2, by rw [if_neg h1, if_pos h2]⟩)
    · by_cases h3 : c.toNat < 0x10000
      · exact .inr (.inr (.inl ⟨by omega, h3, by rw [if_neg h1, if_neg h2, if_pos h3]⟩))
      · exact .inr (.inr (.inr ⟨by omega, by rw [if_neg h1, if_neg h2, if_neg h3]⟩))

/-- The octets of a character are read as the character, whatever follows. -/
lemma decodeParts_encodeChar (c : Char) (bs : List Nat) :
    decodeParts (encodeChar c ++ bs) = some c :: decodeParts bs := by
  have hbounds := char_bounds c
  have hread : ∀ n, n = c.toNat → some (Char.ofNat n) = some c := by
    rintro n rfl
    rw [Char.ofNat_toNat]
  rcases encodeChar_cases c with ⟨h, hc⟩ | ⟨h, h', hc⟩ | ⟨h, h', hc⟩ | ⟨h, hc⟩
  · rw [hc, List.singleton_append, decodeParts, decodeStep, if_pos h, hread _ rfl]
  · have hnot : ¬ 0xc0 + c.toNat / 64 < 0x80 := by omega
    rw [hc, List.cons_append, List.singleton_append, decodeParts, decodeStep, if_neg hnot,
      leadOctet?_two h h']
    dsimp only
    rw [readTails_succ (by omega) (by omega), readTails_zero, hread _ (by omega)]
  · have hnot : ¬ 0xe0 + c.toNat / 4096 < 0x80 := by omega
    obtain ⟨lo, hi, hlead, hlo, hhi⟩ := leadOctet?_three (n := c.toNat) h h' (by omega)
    rw [hc, List.cons_append, List.cons_append, List.singleton_append, decodeParts, decodeStep,
      if_neg hnot, hlead]
    dsimp only
    rw [readTails_succ hlo hhi, readTails_succ (by omega) (by omega), readTails_zero,
      hread _ (by omega)]
  · have hnot : ¬ 0xf0 + c.toNat / 262144 < 0x80 := by omega
    obtain ⟨lo, hi, hlead, hlo, hhi⟩ := leadOctet?_four (n := c.toNat) h (by omega)
    rw [hc, List.cons_append, List.cons_append, List.cons_append, List.singleton_append,
      decodeParts, decodeStep, if_neg hnot, hlead]
    dsimp only
    rw [readTails_succ hlo hhi, readTails_succ (by omega) (by omega),
      readTails_succ (by omega) (by omega), readTails_zero, hread _ (by omega)]

/-- The octets of a text are read as the text. -/
theorem decodeLossy_encodeUtf8 (cs : List Char) : decodeLossy (encodeUtf8 cs) = cs := by
  unfold decodeLossy encodeUtf8
  induction cs with
  | nil => rw [List.flatMap_nil, decodeParts, List.map_nil]
  | cons c cs ih =>
    rw [List.flatMap_cons, decodeParts_encodeChar, List.map_cons, ih, Option.getD_some]

/-- A character is written as octets. -/
lemma encodeChar_lt (c : Char) : ∀ b ∈ encodeChar c, b < 256 := by
  have hbounds := char_bounds c
  intro b hb
  rcases encodeChar_cases c with ⟨h, hc⟩ | ⟨h, h', hc⟩ | ⟨h, h', hc⟩ | ⟨h, hc⟩ <;>
    · rw [hc] at hb
      simp only [List.mem_cons, List.not_mem_nil, or_false] at hb
      omega

/-! ## Escapes -/

/-- The value of a hexadecimal digit is the number it was written for. -/
lemma hexValue?_hexDigitUpper {n : Nat} (h : n < 16) : hexValue? (hexDigitUpper n) = some n := by
  have hall : ∀ i : Fin 16, hexValue? (hexDigitUpper i) = some i.val := by decide
  exact hall ⟨n, h⟩

/-- Hexadecimal digits need no escape. -/
lemma isUnreserved_hexDigitUpper {n : Nat} (h : n < 16) :
    isUnreserved (hexDigitUpper n) = true := by
  have hall : ∀ i : Fin 16, isUnreserved (hexDigitUpper i) = true := by decide
  exact hall ⟨n, h⟩

/-- A character that starts no escape stands for its octets. -/
lemma percentOctets_cons {c : Char} (h : c ≠ '%') (cs : List Char) :
    percentOctets (c :: cs) = encodeChar c ++ percentOctets cs := by
  match cs with
  | [] => rw [percentOctets, percentOctets, List.append_nil]
  | [d] => rw [percentOctets, percentOctets]
  | a :: b :: cs =>
    rw [percentOctets]
    exact fun hc => absurd hc h

/-- An escape stands for its octet. -/
lemma percentOctets_percentOctet {b : Nat} (h : b < 256) (cs : List Char) :
    percentOctets (percentOctet b ++ cs) = b :: percentOctets cs := by
  have hhigh : hexValue? (hexDigitUpper (b / 16)) = some (b / 16) :=
    hexValue?_hexDigitUpper (by omega)
  have hlow : hexValue? (hexDigitUpper (b % 16)) = some (b % 16) :=
    hexValue?_hexDigitUpper (by omega)
  have hvalue : b / 16 * 16 + b % 16 = b := by omega
  rw [percentOctet, List.cons_append, List.cons_append, List.singleton_append, percentOctets, hhigh,
    hlow]
  dsimp only
  rw [hvalue]

/-- Escapes stand for their octets. -/
lemma percentOctets_flatMap {bs : List Nat} (h : ∀ b ∈ bs, b < 256) (cs : List Char) :
    percentOctets (bs.flatMap percentOctet ++ cs) = bs ++ percentOctets cs := by
  induction bs with
  | nil => rfl
  | cons b bs ih =>
    rw [List.forall_mem_cons] at h
    rw [List.flatMap_cons, List.append_assoc, percentOctets_percentOctet h.1, ih h.2,
      List.cons_append]

/-- A character of an address stands for its octets, kept or escaped. -/
lemma percentOctets_percentChar {safe : Char → Bool} (hsafe : safe '%' = false) (c : Char)
    (cs : List Char) :
    percentOctets (percentChar safe c ++ cs) = encodeChar c ++ percentOctets cs := by
  unfold percentChar
  split
  · rename_i hc
    have hne : c ≠ '%' := by
      rintro rfl
      rw [hsafe] at hc
      cases hc
    rw [List.singleton_append, percentOctets_cons hne]
  · exact percentOctets_flatMap (encodeChar_lt c) cs

/-- An escaped text stands for the octets of the text. -/
lemma percentOctets_percentEncode {safe : Char → Bool} (hsafe : safe '%' = false)
    (cs : List Char) : percentOctets (percentEncode safe cs) = encodeUtf8 cs := by
  unfold percentEncode encodeUtf8
  induction cs with
  | nil => rfl
  | cons c cs ih =>
    rw [List.flatMap_cons, List.flatMap_cons, percentOctets_percentChar hsafe, ih]

/-- An escaped text is read as the text, if percent signs are escaped. -/
theorem percentDecode_percentEncode {safe : Char → Bool} (hsafe : safe '%' = false)
    (cs : List Char) : percentDecode (percentEncode safe cs) = cs := by
  rw [percentDecode, percentOctets_percentEncode hsafe, decodeLossy_encodeUtf8]

/-! ## The characters of escapes -/

/-- Characters that need no escape are visible, and none of those that separate the parts of an
address. -/
lemma isUnreserved_bounds {c : Char} (h : isUnreserved c = true) :
    45 ≤ c.toNat ∧ c.toNat ≤ 126 ∧ c.toNat ≠ 61 ∧ c.toNat ≠ 63 := by
  have hval : c.toNat = c.val.toNat := rfl
  have halpha : c.isAlpha = (decide (65 ≤ c.val ∧ c.val ≤ 90) ||
      decide (97 ≤ c.val) && decide (c.val ≤ 122)) := rfl
  simp only [isUnreserved, Char.isAlphanum, halpha, Char.isDigit, Bool.or_eq_true,
    Bool.and_eq_true, decide_eq_true_eq, beq_iff_eq, UInt32.le_iff_toNat_le, ge_iff_le] at h
  rcases h with (((h | rfl) | rfl) | rfl) | rfl
  · simp at h
    omega
  all_goals decide

/-- A character that needs no escape is none that does. -/
lemma ne_of_isUnreserved {c d : Char} (h : isUnreserved c = true) (hd : isUnreserved d = false) :
    c ≠ d := by
  rintro rfl
  rw [h] at hd
  cases hd

/-- The characters of an escape. -/
lemma mem_percentOctet {b : Nat} (h : b < 256) {c : Char} (hc : c ∈ percentOctet b) :
    isUnreserved c = true ∨ c = '%' := by
  simp only [percentOctet, List.mem_cons, List.not_mem_nil, or_false] at hc
  rcases hc with rfl | rfl | rfl
  · exact .inr rfl
  · exact .inl (isUnreserved_hexDigitUpper (by omega))
  · exact .inl (isUnreserved_hexDigitUpper (by omega))

/-- A character of an address is one that is safe, or one of an escape. -/
lemma mem_percentChar {safe : Char → Bool} {c d : Char} (h : d ∈ percentChar safe c) :
    safe d = true ∨ isUnreserved d = true ∨ d = '%' := by
  unfold percentChar at h
  split at h
  · rename_i hc
    rw [List.mem_singleton.mp h]
    exact .inl hc
  · obtain ⟨b, hb, hd⟩ := List.mem_flatMap.mp h
    exact .inr (mem_percentOctet (encodeChar_lt c b hb) hd)

/-- A character that is not safe is written with percent signs. -/
lemma mem_percentChar_of_unsafe {safe : Char → Bool} {c : Char} (h : safe c = false) :
    '%' ∈ percentChar safe c := by
  rw [percentChar, if_neg (Bool.eq_false_iff.mp h), List.mem_flatMap]
  rcases encodeChar_cases c with ⟨-, hc⟩ | ⟨-, -, hc⟩ | ⟨-, -, hc⟩ | ⟨-, hc⟩ <;>
    exact ⟨_, hc ▸ List.mem_cons_self, List.mem_cons_self⟩

/-- A text of safe characters is written as it is. -/
lemma percentEncode_eq_self {safe : Char → Bool} {cs : List Char} (h : ∀ c ∈ cs, safe c = true) :
    percentEncode safe cs = cs := by
  induction cs with
  | nil => rfl
  | cons c cs ih =>
    rw [List.forall_mem_cons] at h
    rw [percentEncode, List.flatMap_cons, percentChar, if_pos h.1]
    exact congrArg (c :: ·) (ih h.2)

/-- A text that is written without percent signs is written as it is. -/
lemma percentEncode_eq_self_of_not_mem {safe : Char → Bool} {cs : List Char}
    (h : '%' ∉ percentEncode safe cs) : percentEncode safe cs = cs := by
  refine percentEncode_eq_self fun c hc => ?_
  cases hsafe : safe c with
  | true => rfl
  | false =>
    have hsign := mem_percentChar_of_unsafe hsafe
    exact absurd (List.mem_flatMap.mpr ⟨c, hc, hsign⟩) h

end PageTree.Text
