import Mathlib.Data.Nat.Digits.Defs
import PageTree.Number.Numeral
import PageTree.Proofs.Text.Blank

/-!
# Reading back a whole number

A whole number that was read from a text is read again when it is written in decimals
(`readInt_toString`): the digits of the text bound the number, so that it has no more decimals than
a numeral may have.
-/

namespace PageTree

namespace Text

/-- The value of a digit is at most nine. -/
lemma digitValue?_le {c : Char} {d : Nat} (h : digitValue? c = some d) : d ≤ 9 := by
  unfold digitValue? at h
  dsimp only at h
  split at h
  · split at h
    · rename_i hrange
      have hd := Option.some.inj h
      simp only [Bool.and_eq_true, decide_eq_true_eq] at hrange
      omega
    · cases h
  · obtain ⟨z, hz, rfl⟩ := Option.map_eq_some_iff.mp h
    have hrange := List.find?_some hz
    simp only [Bool.and_eq_true, decide_eq_true_eq] at hrange
    omega

/-- A decimal digit has the value that it was written for. -/
lemma digitValue?_digitChar {d : Nat} (h : d < 10) : digitValue? d.digitChar = some d := by
  have hall : ∀ i : Fin 10, digitValue? i.val.digitChar = some i.val := by decide
  exact hall ⟨d, h⟩

/-- Digits one after the other and a last one denote ten times the first and the last. -/
lemma ofDigits_concat (base : Nat) (ds : List Nat) (d : Nat) :
    ofDigits base (ds ++ [d]) = ofDigits base ds * base + d := by
  rw [ofDigits, List.foldl_append]
  rfl

/-- Decimal digits denote a number below the power of ten for their count. -/
lemma ofDigits_lt {ds : List Nat} (h : ∀ d ∈ ds, d ≤ 9) : ofDigits 10 ds < 10 ^ ds.length := by
  induction ds using List.reverseRecOn with
  | nil => exact Nat.one_pos
  | append_singleton ds d ih =>
    obtain ⟨hds, hd⟩ := List.forall_mem_append.mp h
    have hlast : d ≤ 9 := hd d List.mem_cons_self
    have hfirst := ih hds
    rw [ofDigits_concat, List.length_append, List.length_singleton, Nat.pow_succ]
    omega

/-- The decimals of a number are digits, and they denote the number. -/
lemma ofDigits_toDigits (n : Nat) :
    (∀ c ∈ Nat.toDigits 10 n, (digitValue? c).isSome = true) ∧
      ofDigits 10 ((Nat.toDigits 10 n).filterMap digitValue?) = n := by
  induction n using Nat.strong_induction_on with
  | h n ih =>
    by_cases hn : n < 10
    · have hdigit := digitValue?_digitChar hn
      rw [Nat.toDigits_of_lt_base hn, List.forall_mem_singleton, List.filterMap_cons, hdigit]
      exact ⟨rfl, Nat.zero_add n⟩
    · obtain ⟨hdigits, hvalue⟩ := ih (n / 10) (by omega)
      have hdigit := digitValue?_digitChar (Nat.mod_lt n (show 0 < 10 by decide))
      rw [Nat.toDigits_of_base_le (by decide) (Nat.le_of_not_lt hn), List.forall_mem_append,
        List.filterMap_append, List.forall_mem_singleton, hdigit, List.filterMap_cons, hdigit]
      refine ⟨⟨hdigits, rfl⟩, ?_⟩
      change ofDigits 10 ((Nat.toDigits 10 (n / 10)).filterMap digitValue? ++ [n % 10]) = n
      rw [ofDigits_concat, hvalue]
      omega

end Text

namespace Numeral

/-- The digits that are read are digits, and there are as many of them as are read. -/
lemma le_nine_of_digitsToEnd? {cs : List Char} {ds : List Nat} (h : digitsToEnd? cs = some ds) :
    ∀ d ∈ ds, d ≤ 9 := by
  induction cs using digitsToEnd?.induct generalizing ds with
  | case1 => cases h
  | case2 c =>
    obtain ⟨d, hd, rfl⟩ := Option.map_eq_some_iff.mp h
    exact List.forall_mem_singleton.mpr (Text.digitValue?_le hd)
  | case3 c cs ih =>
    obtain ⟨d, hd, h⟩ := Option.bind_eq_some_iff.mp h
    obtain ⟨es, hes, h⟩ := Option.bind_eq_some_iff.mp h
    cases h
    exact List.forall_mem_cons.mpr ⟨Text.digitValue?_le hd, ih hes⟩
  | case4 c cs hne hscore ih =>
    rw [digitsToEnd?] at h
    · obtain ⟨d, hd, h⟩ := Option.bind_eq_some_iff.mp h
      obtain ⟨es, hes, h⟩ := Option.bind_eq_some_iff.mp h
      cases h
      exact List.forall_mem_cons.mpr ⟨Text.digitValue?_le hd, ih hes⟩
    · exact hne
    · exact hscore

/-- Digits in front of a last one are read before it. -/
lemma digitsToEnd?_concat {cs : List Char} {ds : List Nat} {c : Char} {d : Nat}
    (h : digitsToEnd? cs = some ds) (hc : Text.digitValue? c = some d) (hscore : c ≠ '_') :
    digitsToEnd? (cs ++ [c]) = some (ds ++ [d]) := by
  have hlast : digitsToEnd? [c] = some [d] := by rw [digitsToEnd?, hc, Option.map_some]
  induction cs using digitsToEnd?.induct generalizing ds with
  | case1 => cases h
  | case2 b =>
    obtain ⟨e, he, rfl⟩ := Option.map_eq_some_iff.mp h
    rw [List.singleton_append, digitsToEnd?, he, hlast]
    · rfl
    · nofun
    · intro rest hrest
      exact hscore (List.cons.inj hrest).1
  | case3 b cs ih =>
    obtain ⟨e, he, h⟩ := Option.bind_eq_some_iff.mp h
    obtain ⟨es, hes, h⟩ := Option.bind_eq_some_iff.mp h
    cases h
    rw [List.cons_append, List.cons_append, digitsToEnd?, he, ih hes]
    rfl
  | case4 b cs hne hnext ih =>
    rw [digitsToEnd?] at h
    · obtain ⟨e, he, h⟩ := Option.bind_eq_some_iff.mp h
      obtain ⟨es, hes, h⟩ := Option.bind_eq_some_iff.mp h
      cases h
      rw [List.cons_append, digitsToEnd?, he, ih hes]
      · rfl
      · intro hnil
        exact hne (List.append_eq_nil_iff.mp hnil).1
      · intro rest hrest
        cases cs with
        | nil => exact hne rfl
        | cons a cs => exact hnext cs (by rw [(List.cons.inj hrest).1])
    · exact hne
    · exact hnext

/-- Decimals are read as the number that they are written for. -/
lemma digitsToEnd?_toDigits (n : Nat) :
    ∃ ds, digitsToEnd? (Nat.toDigits 10 n) = some ds ∧
      ds.length = (Nat.toDigits 10 n).length ∧ Text.ofDigits 10 ds = n := by
  induction n using Nat.strong_induction_on with
  | h n ih =>
    by_cases hn : n < 10
    · refine ⟨[n], ?_, ?_, ?_⟩
      · rw [Nat.toDigits_of_lt_base hn, digitsToEnd?, Text.digitValue?_digitChar hn,
          Option.map_some]
      · rw [Nat.toDigits_of_lt_base hn, List.length_singleton, List.length_singleton]
      · exact Nat.zero_add n
    · obtain ⟨ds, hread, hlength, hvalue⟩ := ih (n / 10) (by omega)
      have hdigit : n % 10 < 10 := Nat.mod_lt n (by decide)
      have hscore : ∀ i : Fin 10, i.val.digitChar ≠ '_' := by decide
      refine ⟨ds ++ [n % 10], ?_, ?_, ?_⟩
      · rw [Nat.toDigits_of_base_le (by decide) (Nat.le_of_not_lt hn)]
        exact digitsToEnd?_concat hread (Text.digitValue?_digitChar hdigit) (hscore ⟨_, hdigit⟩)
      · rw [Nat.toDigits_of_base_le (by decide) (Nat.le_of_not_lt hn), List.length_append,
          List.length_append, hlength]
        rfl
      · rw [Text.ofDigits_concat, hvalue]
        omega

/-- A number that is read from a text has no more decimals than a numeral may have. -/
lemma natAbs_lt_of_readInt {s : String} {i : Int} (h : readInt s = .ok i) :
    i.natAbs < 10 ^ maxDigits := by
  unfold readInt at h
  dsimp only at h
  split at h
  · cases h
  · rename_i ds hds
    split at h
    · cases h
    · rename_i hcount
      have hvalue : i.natAbs = Text.ofDigits 10 ds := by
        cases h
        split <;> omega
      have hlt := Text.ofDigits_lt (le_nine_of_digitsToEnd? hds)
      have hpower : 10 ^ ds.length ≤ 10 ^ maxDigits :=
        Nat.pow_le_pow_right (by decide) (Nat.le_of_not_lt hcount)
      omega

/-- Decimals are neither space nor sign. -/
lemma isSpace_of_mem_toDigits {n : Nat} {c : Char} (h : c ∈ Nat.toDigits 10 n) :
    isSpace c = false ∧ c ≠ '-' ∧ c ≠ '+' := by
  have hdigit := Nat.isDigit_of_mem_toDigits (by decide) (by decide) h
  have hrange : 48 ≤ c.toNat ∧ c.toNat ≤ 57 := by
    simp only [Char.isDigit, Bool.and_eq_true, decide_eq_true_eq, ge_iff_le,
      UInt32.le_iff_toNat_le] at hdigit
    exact hdigit
  refine ⟨?_, ?_, ?_⟩
  · have hblank : Text.isBlank c = false := by
      simp only [Text.isBlank]
      simp
      omega
    rw [isSpace, hblank, Bool.false_and]
  · rintro rfl
    exact absurd hrange (by decide)
  · rintro rfl
    exact absurd hrange (by decide)

/-- Decimals stand in a text without space around them. -/
lemma strip_toDigits {s : String} (n : Nat) (h : s.toList = Nat.toDigits 10 n) :
    strip s = Nat.toDigits 10 n := by
  rw [strip, h]
  exact Text.trimWhere_of_forall fun c hc => (isSpace_of_mem_toDigits hc).1

/-- So do decimals with a sign. -/
lemma strip_minus_toDigits {s : String} (n : Nat) (h : s.toList = '-' :: Nat.toDigits 10 n) :
    strip s = '-' :: Nat.toDigits 10 n := by
  rw [strip, h]
  refine Text.trimWhere_of_forall (List.forall_mem_cons.mpr ⟨by decide, fun c hc => ?_⟩)
  exact (isSpace_of_mem_toDigits hc).1

/-- No sign is taken from decimals. -/
lemma takeSign_toDigits (n : Nat) :
    takeSign (Nat.toDigits 10 n) = (false, Nat.toDigits 10 n) := by
  unfold takeSign
  split
  · rename_i heq
    exact absurd rfl (isSpace_of_mem_toDigits (heq ▸ List.mem_cons_self)).2.1
  · rename_i heq
    exact absurd rfl (isSpace_of_mem_toDigits (heq ▸ List.mem_cons_self)).2.2
  · rfl

/-- The digits of a number that is small enough are those of a numeral. -/
lemma exists_digits {n : Nat} (h : n < 10 ^ maxDigits) :
    ∃ ds, digitsToEnd? (Nat.toDigits 10 n) = some ds ∧ ¬ maxDigits < ds.length ∧
      Text.ofDigits 10 ds = n := by
  obtain ⟨ds, hds, hlength, hvalue⟩ := digitsToEnd?_toDigits n
  have hcount := Nat.toDigits_length 10 n maxDigits (by decide) h
  exact ⟨ds, hds, by omega, hvalue⟩

/-- A number that was read from a text is read again when it is written. -/
theorem readInt_toString {s : String} {i : Int} (h : readInt s = .ok i) :
    readInt (toString i) = .ok i := by
  have hbound := natAbs_lt_of_readInt h
  cases i with
  | ofNat n =>
    obtain ⟨ds, hds, hcount, hvalue⟩ := exists_digits (n := n) hbound
    have htext : (toString (Int.ofNat n)).toList = Nat.toDigits 10 n := String.toList_ofList
    rw [readInt, strip_toDigits n htext, takeSign_toDigits]
    dsimp only
    rw [hds]
    dsimp only
    rw [if_neg hcount, hvalue]
    rfl
  | negSucc n =>
    obtain ⟨ds, hds, hcount, hvalue⟩ := exists_digits (n := n + 1) hbound
    have htext : (toString (Int.negSucc n)).toList = '-' :: Nat.toDigits 10 (n + 1) := by
      have happend : toString (Int.negSucc n) = "-" ++ Nat.repr (n + 1) := rfl
      rw [happend, String.toList_append]
      exact congrArg ('-' :: ·) String.toList_ofList
    rw [readInt, strip_minus_toDigits (n + 1) htext, takeSign]
    dsimp only
    rw [hds]
    dsimp only
    rw [if_neg hcount, hvalue]
    rfl

end Numeral

end PageTree
