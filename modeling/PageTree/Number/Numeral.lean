import PageTree.Text.Blank
import PageTree.Text.Digit

/-!
# Numerals

How texts are read as numbers: `readInt` for whole numbers and `readFloat?` for decimals.  White
space around a numeral is ignored, digits of every script count, and single underscores may
separate digits.
-/

namespace PageTree.Numeral

/-- Why a text is no whole number that can be read. -/
inductive IntFault where
  | malformed
  | tooLong (digits : Nat)
  deriving DecidableEq, Repr

/-- The most digits that a numeral of a whole number may have. -/
def maxDigits : Nat := 4300

/-- The white space that may stand around a numeral: the separators of fields and records are none
of it. -/
def isSpace (c : Char) : Bool :=
  Text.isBlank c && !(28 ≤ c.toNat && c.toNat < 32)

/-- A text without the white space around the numeral in it. -/
def strip (s : String) : List Char :=
  Text.trimWhere isSpace s.toList

/-- A sign in front of a numeral, if there is one. -/
def takeSign : List Char → Bool × List Char
  | '-' :: cs => (true, cs)
  | '+' :: cs => (false, cs)
  | cs => (false, cs)

/-- Reads digits up to the end of a text, with single underscores between them. -/
def digitsToEnd? : List Char → Option (List Nat)
  | [] => none
  | [c] => (Text.digitValue? c).map fun d => [d]
  | c :: '_' :: cs => do
    let d ← Text.digitValue? c
    let ds ← digitsToEnd? cs
    some (d :: ds)
  | c :: cs => do
    let d ← Text.digitValue? c
    let ds ← digitsToEnd? cs
    some (d :: ds)

/-- The whole number that a text denotes. -/
def readInt (s : String) : Except IntFault Int :=
  let (negative, cs) := takeSign (strip s)
  match digitsToEnd? cs with
  | none => .error .malformed
  | some ds =>
    if maxDigits < ds.length then .error (.tooLong ds.length)
    else
      let n : Int := Text.ofDigits 10 ds
      .ok (if negative then -n else n)

/-- The value of `digits * 10 ^ exponent` as the nearest float.  An exponent far outside the range
of floats gives an infinity or zero at once. -/
def decimalFloat (digits : Nat) (exponent : Int) : Float :=
  if digits = 0 then 0.0
  else
    let top := exponent + (Nat.toDigits 10 digits).length
    if 400 < top then 1.0 / 0.0
    else if top < -400 then 0.0
    else if 0 ≤ exponent then Float.ofScientific digits false exponent.natAbs
    else Float.ofScientific digits true exponent.natAbs

/-- A text without its underscores, provided each of them stands between two digits. -/
def dropUnderscores? : Bool → List Char → Option (List Char)
  | _, [] => some []
  | afterDigit, '_' :: cs =>
    match cs with
    | [] => none
    | c :: _ =>
      if afterDigit && (Text.digitValue? c).isSome then dropUnderscores? false cs else none
  | _, c :: cs => (dropUnderscores? (Text.digitValue? c).isSome cs).map (c :: ·)

/-- The digits at the start of a text and what follows them. -/
def leadingDigits : List Char → List Nat × List Char
  | [] => ([], [])
  | c :: cs =>
    match Text.digitValue? c with
    | some d => let (ds, rest) := leadingDigits cs; (d :: ds, rest)
    | none => ([], c :: cs)

/-- The digits after a decimal point, if one stands there. -/
def fractionDigits : List Char → List Nat × List Char
  | '.' :: cs => leadingDigits cs
  | cs => ([], cs)

/-- The exponent at the end of a decimal numeral. -/
def readExponent? : List Char → Option Int
  | [] => some 0
  | c :: cs =>
    if c = 'e' || c = 'E' then
      let (negative, rest) := takeSign cs
      match leadingDigits rest with
      | ([], _) => none
      | (ds, []) => some (if negative then -(Text.ofDigits 10 ds : Int) else Text.ofDigits 10 ds)
      | _ => none
    else none

/-- The names of the values that are no finite number. -/
def namedFloat? (cs : List Char) : Option Float :=
  let name := String.ofList (cs.map Char.toLower)
  if name = "inf" || name = "infinity" then some (1.0 / 0.0)
  else if name = "nan" then some (0.0 / 0.0)
  else none

/-- The value of a decimal numeral without sign. -/
def readMagnitude? (cs : List Char) : Option Float := do
  let cs ← dropUnderscores? false cs
  let (whole, rest) := leadingDigits cs
  let (fraction, rest) := fractionDigits rest
  if whole.isEmpty && fraction.isEmpty then none
  else
    let e ← readExponent? rest
    some (decimalFloat (Text.ofDigits 10 (whole ++ fraction)) (e - fraction.length))

/-- The float that a text denotes. -/
def readFloat? (s : String) : Option Float :=
  let (negative, cs) := takeSign (strip s)
  ((namedFloat? cs).orElse fun _ => readMagnitude? cs).map fun x => if negative then -x else x

end PageTree.Numeral
