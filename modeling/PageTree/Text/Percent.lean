import PageTree.Text.Digit
import PageTree.Text.Utf8

/-!
# Percent encoding

Octets that may not stand in a part of an address are written as a percent sign and two hexadecimal
digits.  `percentEncode` writes a text so, keeping the characters of a safe set, and
`percentDecode` reads it back; escapes whose digits are wrong stand for themselves.
-/

namespace PageTree.Text

/-- An octet as an escape. -/
def percentOctet (b : Nat) : List Char :=
  ['%', hexDigitUpper (b / 16), hexDigitUpper (b % 16)]

/-- The letters, digits and marks that never need an escape. -/
def isUnreserved (c : Char) : Bool :=
  c.isAlphanum || c == '-' || c == '.' || c == '_' || c == '~'

/-- A character of an address: itself if it is safe, else the escapes of its octets. -/
def percentChar (safe : Char → Bool) (c : Char) : List Char :=
  if safe c then [c] else (encodeChar c).flatMap percentOctet

/-- A text with escapes for the characters that are not safe. -/
def percentEncode (safe : Char → Bool) (cs : List Char) : List Char :=
  cs.flatMap (percentChar safe)

/-- The octets of a text after its escapes are resolved. -/
def percentOctets : List Char → List Nat
  | [] => []
  | [c] => encodeChar c
  | [c, d] => encodeChar c ++ encodeChar d
  | '%' :: a :: b :: cs =>
    match hexValue? a, hexValue? b with
    | some x, some y => (x * 16 + y) :: percentOctets cs
    | _, _ => encodeChar '%' ++ percentOctets (a :: b :: cs)
  | c :: a :: b :: cs => encodeChar c ++ percentOctets (a :: b :: cs)

/-- The text that an escaped text stands for, with the replacement character for octets that are no
text. -/
def percentDecode (cs : List Char) : List Char :=
  decodeLossy (percentOctets cs)

end PageTree.Text
