import PageTree.Text.DigitTable

/-!
# Digits

`digitValue?` reads a decimal digit of any script, and `isDigit` is the wider property that also
holds of digits which stand outside numerals, such as superscripts.
-/

namespace PageTree.Text

/-- Whether a number lies in one of the ranges, both ends included. -/
def inRanges (ranges : List (Nat × Nat)) (n : Nat) : Bool :=
  ranges.any fun (lo, hi) => lo ≤ n && n ≤ hi

/-- The value of a decimal digit of any script. -/
def digitValue? (c : Char) : Option Nat :=
  let n := c.toNat
  if n < 128 then
    if 48 ≤ n && n ≤ 57 then some (n - 48) else none
  else
    (zeroDigits.find? fun z => z ≤ n && n ≤ z + 9).map fun z => n - z

/-- Whether a character has the digit property. -/
def isDigit (c : Char) : Bool :=
  (digitValue? c).isSome || inRanges otherDigitRanges c.toNat

/-- The digit of a number below 16 in lower-case hexadecimal. -/
def hexDigit (n : Nat) : Char :=
  if n < 10 then Char.ofNat (48 + n) else Char.ofNat (87 + n)

/-- The digit of a number below 16 in upper-case hexadecimal. -/
def hexDigitUpper (n : Nat) : Char :=
  if n < 10 then Char.ofNat (48 + n) else Char.ofNat (55 + n)

/-- The value of a hexadecimal digit in either case. -/
def hexValue? (c : Char) : Option Nat :=
  let n := c.toNat
  if 48 ≤ n && n ≤ 57 then some (n - 48)
  else if 97 ≤ n && n ≤ 102 then some (n - 87)
  else if 65 ≤ n && n ≤ 70 then some (n - 55)
  else none

/-- The last `width` hexadecimal digits of a number, in lower case. -/
def hexText : Nat → Nat → List Char
  | 0, _ => []
  | width + 1, n => hexText width (n / 16) ++ [hexDigit (n % 16)]

/-- The digits of a number in the given base, most significant first, cut off after `fuel`
digits. -/
def digitsFrom (base : Nat) : Nat → Nat → List Nat → List Nat
  | 0, _, acc => acc
  | fuel + 1, n, acc =>
    if n < base then n :: acc else digitsFrom base fuel (n / base) (n % base :: acc)

/-- The number that a list of digits denotes, most significant first. -/
def ofDigits (base : Nat) (ds : List Nat) : Nat :=
  ds.foldl (fun n d => n * base + d) 0

end PageTree.Text
