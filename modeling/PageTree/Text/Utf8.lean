/-!
# UTF-8

Characters as octets and back.  A lead octet fixes how many tail octets follow and the range of the
first of them; `decodeStep` reads one character or the longest start of one that is wrong.
`decode?` refuses a wrong sequence and `decodeLossy` writes the replacement character for each.
-/

namespace PageTree.Text

/-- The octets of one character. -/
def encodeChar (c : Char) : List Nat :=
  let n := c.toNat
  if n < 0x80 then [n]
  else if n < 0x800 then [0xc0 + n / 64, 0x80 + n % 64]
  else if n < 0x10000 then [0xe0 + n / 4096, 0x80 + n / 64 % 64, 0x80 + n % 64]
  else [0xf0 + n / 262144, 0x80 + n / 4096 % 64, 0x80 + n / 64 % 64, 0x80 + n % 64]

/-- The octets of a text. -/
def encodeUtf8 (cs : List Char) : List Nat :=
  cs.flatMap encodeChar

/-- What a lead octet announces: the number of tails, the range of the first tail and the bits the
lead contributes. -/
def leadOctet? (b : Nat) : Option (Nat × Nat × Nat × Nat) :=
  if 0xc2 ≤ b && b ≤ 0xdf then some (1, 0x80, 0xbf, b - 0xc0)
  else if b == 0xe0 then some (2, 0xa0, 0xbf, 0)
  else if b == 0xed then some (2, 0x80, 0x9f, 13)
  else if 0xe1 ≤ b && b ≤ 0xef then some (2, 0x80, 0xbf, b - 0xe0)
  else if b == 0xf0 then some (3, 0x90, 0xbf, 0)
  else if b == 0xf4 then some (3, 0x80, 0x8f, 4)
  else if 0xf1 ≤ b && b ≤ 0xf3 then some (3, 0x80, 0xbf, b - 0xf0)
  else none

/-- Reads the tails of a character: the character, if all stand there, and what follows the octets
that could be used. -/
def readTails : Nat → Nat → Nat → Nat → List Nat → Option Char × List Nat
  | 0, _, _, acc, bs => (some (Char.ofNat acc), bs)
  | _ + 1, _, _, _, [] => (none, [])
  | k + 1, lo, hi, acc, b :: bs =>
    if lo ≤ b && b ≤ hi then readTails k 0x80 0xbf (acc * 64 + (b - 0x80)) bs
    else (none, b :: bs)

/-- Reads one character: nothing in its place if the octets are wrong. -/
def decodeStep (b : Nat) (bs : List Nat) : Option Char × List Nat :=
  if b < 0x80 then (some (Char.ofNat b), bs)
  else
    match leadOctet? b with
    | none => (none, bs)
    | some (k, lo, hi, acc) => readTails k lo hi acc bs

theorem length_readTails_le (k lo hi acc : Nat) (bs : List Nat) :
    (readTails k lo hi acc bs).2.length ≤ bs.length := by
  induction k generalizing lo hi acc bs with
  | zero => simp [readTails]
  | succ k ih =>
    cases bs with
    | nil => simp [readTails]
    | cons b bs =>
      simp only [readTails]
      split
      · exact Nat.le_succ_of_le (ih _ _ _ _)
      · exact Nat.le_refl _

theorem length_decodeStep_le (b : Nat) (bs : List Nat) :
    (decodeStep b bs).2.length ≤ bs.length := by
  unfold decodeStep
  split
  · exact Nat.le_refl _
  · split
    · exact Nat.le_refl _
    · exact length_readTails_le _ _ _ _ _

/-- The characters of an octet sequence, with nothing in the place of each wrong part. -/
def decodeParts : List Nat → List (Option Char)
  | [] => []
  | b :: bs => (decodeStep b bs).1 :: decodeParts (decodeStep b bs).2
termination_by bs => bs.length
decreasing_by
  have := length_decodeStep_le b bs
  simp only [List.length_cons]
  omega

/-- The text of an octet sequence, if it is well formed. -/
def decode? (bs : List Nat) : Option (List Char) :=
  (decodeParts bs).mapM id

/-- The text of an octet sequence, with the replacement character for each wrong part. -/
def decodeLossy (bs : List Nat) : List Char :=
  (decodeParts bs).map (·.getD (Char.ofNat 0xfffd))

end PageTree.Text
