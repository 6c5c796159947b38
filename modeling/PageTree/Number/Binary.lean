/-!
# The exact value of a floating-point number

A finite 64-bit float is a whole number times a power of two.  `Binary.ofFloat` takes it apart, so
that comparison, truncation and printing can be done in exact arithmetic on whole numbers.
-/

namespace PageTree

/-- The exact value of a float: a signed whole number times a power of two, an infinity, or no
number at all. -/
inductive Binary where
  | finite (negative : Bool) (mantissa : Nat) (exponent : Int)
  | infinite (negative : Bool)
  | nan
  deriving DecidableEq, Repr

namespace Binary

/-- Takes a float apart. -/
def ofFloat (x : Float) : Binary :=
  let bits : Nat := x.toBits.toNat
  let negative := bits / Nat.pow 2 63 == 1
  let field : Nat := bits / Nat.pow 2 52 % 2048
  let low : Nat := bits % Nat.pow 2 52
  if field = 2047 then (if low = 0 then .infinite negative else .nan)
  else if field = 0 then .finite negative low (-1074)
  else .finite negative (Nat.pow 2 52 + low) ((field : Int) - 1075)

/-- A whole number with the sign that a flag gives. -/
def signed (negative : Bool) (n : Nat) : Int :=
  if negative then -(n : Int) else n

/-- The order of two exact values that are numbers: the sign of their difference is the sign of
the difference of the two whole numbers over the smaller power of two. -/
def compareFinite (s : Bool) (m : Nat) (e : Int) (s' : Bool) (m' : Nat) (e' : Int) : Ordering :=
  let low := min e e'
  compare (signed s (m * Nat.pow 2 (e - low).toNat)) (signed s' (m' * Nat.pow 2 (e' - low).toNat))

/-- The order of two values, unless one of them is no number. -/
def order? : Binary → Binary → Option Ordering
  | .nan, _ => none
  | _, .nan => none
  | .infinite s, .infinite s' => some (if s = s' then .eq else if s then .lt else .gt)
  | .infinite s, .finite .. => some (if s then .lt else .gt)
  | .finite .., .infinite s => some (if s then .gt else .lt)
  | .finite s m e, .finite s' m' e' => some (compareFinite s m e s' m' e')

/-- A whole number as an exact value. -/
def ofInt (i : Int) : Binary :=
  .finite (i < 0) i.natAbs 0

/-- Whether a value is a whole number. -/
def isIntegral : Binary → Bool
  | .finite _ m e => if 0 ≤ e then true else m % Nat.pow 2 e.natAbs == 0
  | _ => false

/-- The whole part of a finite value, rounded toward zero. -/
def truncate? : Binary → Option Int
  | .finite s m e =>
    some (signed s (if 0 ≤ e then m * Nat.pow 2 e.natAbs else m / Nat.pow 2 e.natAbs))
  | _ => none

/-- Whether a value is zero, of either sign. -/
def isZero : Binary → Bool
  | .finite _ m _ => m == 0
  | _ => false

end Binary

/-- Numeric equality of two floats: no float that is not a number equals anything, and the two
zeros are equal. -/
def floatEq (x y : Float) : Bool :=
  (Binary.ofFloat x).order? (Binary.ofFloat y) == some .eq

/-- Numeric equality of a float and a whole number, decided exactly. -/
def floatEqInt (x : Float) (i : Int) : Bool :=
  (Binary.ofFloat x).order? (Binary.ofInt i) == some .eq

/-- Whether two floats are the same datum: numerically equal, or the same pattern of bits. -/
def floatSame (x y : Float) : Bool :=
  floatEq x y || x.toBits == y.toBits

end PageTree
