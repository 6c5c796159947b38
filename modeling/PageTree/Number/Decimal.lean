import PageTree.Number.Binary
import PageTree.Text.Digit

/-!
# Decimal text of floating-point numbers

Three ways to write a float.  `shortest` uses the fewest digits that read back to the same float,
`general` six significant digits without trailing zeros, and `fixed` a given number of places.  All
work on the exact value: a positive value is a quotient `num / den` of whole numbers, and a decimal
grid is the set of multiples of a power of ten.
-/

namespace PageTree.Decimal

/-- A positive quotient of whole numbers. -/
structure Ratio where
  num : Nat
  den : Nat

namespace Ratio

/-- The quotient `m * 2 ^ e`. -/
def ofBinary (m : Nat) (e : Int) : Ratio :=
  if 0 ≤ e then ⟨m * Nat.pow 2 e.natAbs, 1⟩ else ⟨m, Nat.pow 2 e.natAbs⟩

/-- The quotient divided by a power of ten. -/
def scale (r : Ratio) (k : Int) : Ratio :=
  if 0 ≤ k then ⟨r.num, r.den * Nat.pow 10 k.natAbs⟩ else ⟨r.num * Nat.pow 10 k.natAbs, r.den⟩

/-- The largest power of ten that is not above the quotient, by its exponent. -/
def exponent (r : Ratio) : Int :=
  let e : Int := (Nat.toDigits 10 r.num).length - (Nat.toDigits 10 r.den).length
  let s := r.scale e
  if s.den ≤ s.num then e else e - 1

/-- The nearest whole number; a half goes to the even neighbour. -/
def round (r : Ratio) : Nat :=
  let q := r.num / r.den
  let twice := 2 * (r.num % r.den)
  if twice < r.den then q
  else if r.den < twice then q + 1
  else if q % 2 = 0 then q else q + 1

/-- Order of quotients, by cross multiplication. -/
def le (r s : Ratio) : Bool :=
  r.num * s.den ≤ s.num * r.den

/-- Strict order of quotients. -/
def lt (r s : Ratio) : Bool :=
  r.num * s.den < s.num * r.den

end Ratio

/-- A decimal: its digits as one whole number, and the exponent of its leading digit. -/
structure Digits where
  value : Nat
  exponent : Int

/-- The digits of a decimal without trailing zeros. -/
def stripZeros : Nat → Nat → Nat
  | 0, n => n
  | fuel + 1, n => if n ≠ 0 && n % 10 == 0 then stripZeros fuel (n / 10) else n

/-- The reals that round to a float are those between its two midpoints with the neighbouring
floats; the ends belong to it exactly when its mantissa is even. -/
structure Interval where
  lower : Ratio
  upper : Ratio
  closed : Bool

/-- The interval of reals that round to the float `m * 2 ^ e`. -/
def Interval.ofBinary (m : Nat) (e : Int) : Interval where
  lower := Ratio.ofBinary (if m = Nat.pow 2 52 && e ≠ -1074 then 4 * m - 1 else 4 * m - 2) (e - 2)
  upper := Ratio.ofBinary (4 * m + 2) (e - 2)
  closed := m % 2 = 0

/-- Whether an interval holds a quotient. -/
def Interval.holds (i : Interval) (r : Ratio) : Bool :=
  if i.closed then i.lower.le r && r.le i.upper else i.lower.lt r && r.lt i.upper

/-- The multiple `n` of the grid `10 ^ k`. -/
def gridPoint (n : Nat) (k : Int) : Ratio :=
  Ratio.scale ⟨n, 1⟩ (-k)

/-- The point of the grid `10 ^ k` nearest to a quotient, if it lies in the interval. -/
def nearestOnGrid? (i : Interval) (r : Ratio) (k : Int) : Option Nat :=
  let s := r.scale k
  let below := s.num / s.den
  let inBelow := i.holds (gridPoint below k)
  let inAbove := i.holds (gridPoint (below + 1) k)
  if inBelow && inAbove then some s.round
  else if inBelow then some below
  else if inAbove then some (below + 1)
  else none

/-- Tries grids of more and more digits until one has a point in the interval. -/
def searchGrids (i : Interval) (r : Ratio) (top : Int) : Nat → Nat → Nat × Int
  | 0, digits => ((r.scale (top + 1 - digits)).round, top + 1 - digits)
  | fuel + 1, digits =>
    match nearestOnGrid? i r (top + 1 - digits) with
    | some n => (n, top + 1 - digits)
    | none => searchGrids i r top fuel (digits + 1)

/-- The decimal with the fewest digits that rounds to the positive float `m * 2 ^ e`. -/
def shortestDigits (m : Nat) (e : Int) : Digits :=
  let r := Ratio.ofBinary m e
  let (n, k) := searchGrids (Interval.ofBinary m e) r r.exponent 17 1
  { value := stripZeros 20 n, exponent := k + ((Nat.toDigits 10 n).length - 1 : Nat) }

/-- Digits with the point after the first `point` of them; zeros are added on either side where
digits are missing. -/
def positional (ds : List Char) (point : Int) : List Char :=
  if point ≤ 0 then '0' :: '.' :: List.replicate point.natAbs '0' ++ ds
  else if ds.length ≤ point.natAbs then ds ++ List.replicate (point.natAbs - ds.length) '0'
  else ds.take point.natAbs ++ '.' :: ds.drop point.natAbs

/-- An exponent mark with its sign and at least two digits. -/
def exponentMark (e : Int) : List Char :=
  let ds := Nat.toDigits 10 e.natAbs
  'e' :: (if e < 0 then '-' else '+') :: (if ds.length < 2 then '0' :: ds else ds)

/-- Digits in scientific form. -/
def scientific (ds : List Char) (e : Int) : List Char :=
  match ds with
  | [] => []
  | [d] => d :: exponentMark e
  | d :: rest => d :: '.' :: rest ++ exponentMark e

/-- Puts a minus sign in front of the text of a negative number. -/
def withSign (negative : Bool) (cs : List Char) : String :=
  String.ofList (if negative then '-' :: cs else cs)

/-- Marks a positional text without a point as a float. -/
def markFloat (cs : List Char) : List Char :=
  if cs.contains '.' then cs else cs ++ ['.', '0']

/-- The text of a float that is used wherever the value itself is shown: the fewest digits that
read back, positional between `0.0001` and `10 ^ 16` and scientific outside. -/
def shortest (x : Float) : String :=
  match Binary.ofFloat x with
  | .nan => "nan"
  | .infinite negative => withSign negative ['i', 'n', 'f']
  | .finite negative 0 _ => withSign negative ['0', '.', '0']
  | .finite negative m e =>
    let d := shortestDigits m e
    let ds := Nat.toDigits 10 d.value
    withSign negative <|
      if -4 ≤ d.exponent && d.exponent < 16 then markFloat (positional ds (d.exponent + 1))
      else scientific ds d.exponent

/-- The decimal nearest to a quotient among those with the given number of digits. -/
def roundedDigits (r : Ratio) (digits : Nat) : Digits :=
  let top := r.exponent
  let n := (r.scale (top + 1 - digits)).round
  if n = Nat.pow 10 digits then ⟨1, top + 1⟩ else ⟨stripZeros digits n, top⟩

/-- The text of a float with six significant digits and no trailing zeros. -/
def general (x : Float) : String :=
  match Binary.ofFloat x with
  | .nan => "nan"
  | .infinite negative => withSign negative ['i', 'n', 'f']
  | .finite negative 0 _ => withSign negative ['0']
  | .finite negative m e =>
    let d := roundedDigits (Ratio.ofBinary m e) 6
    let ds := Nat.toDigits 10 d.value
    withSign negative <|
      if -4 ≤ d.exponent && d.exponent < 6 then positional ds (d.exponent + 1)
      else scientific ds d.exponent

/-- The text of a float with exactly `places` digits after the point. -/
def fixed (places : Nat) (x : Float) : String :=
  match Binary.ofFloat x with
  | .nan => "nan"
  | .infinite negative => withSign negative ['i', 'n', 'f']
  | .finite negative m e =>
    let n := ((Ratio.ofBinary m e).scale (-(places : Int))).round
    let ds := Nat.toDigits 10 n
    let padded := List.replicate (places + 1 - ds.length) '0' ++ ds
    withSign negative (padded.take (padded.length - places) ++
      (if places = 0 then [] else '.' :: padded.drop (padded.length - places)))

end PageTree.Decimal
