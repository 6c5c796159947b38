import Mathlib.Algebra.Order.Field.Power
import Mathlib.Tactic.Ring
import PageTree.Value.Equality

/-!
# What numbers count

Two keys or two values of the numeric kinds are the same when they count the same.  A `Quantity` is
what is counted: an exact rational number, one of the two infinities, or no number at all, which is
told apart by its pattern of bits.

The main statements are `floatSame_iff` and `floatEqInt_iff`: the comparisons of floats with floats
and with whole numbers, which are made on mantissas and exponents, decide equality of quantities.
For keys, `Key.same_iff_canonical` does the same for all kinds at once, so that `Key.same` is an
equivalence.
-/

namespace PageTree

/-- What a number counts. -/
inductive Quantity where
  | exact (q : ℚ)
  | infinite (negative : Bool)
  /-- No number, told apart by its bits. -/
  | undefined (bits : UInt64)
  deriving DecidableEq

namespace Binary

/-- The rational number that a finite value stands for. -/
def rational (s : Bool) (m : Nat) (e : Int) : ℚ :=
  (signed s m : ℚ) * 2 ^ e

/-- A sign goes over a product of naturals. -/
lemma signed_mul (s : Bool) (m k : Nat) : signed s (m * k) = signed s m * k := by
  cases s <;> simp [signed]

/-- Scaling by a common power of two turns a finite value into a whole number. -/
lemma rational_eq_scaled (s : Bool) (m : Nat) {e low : Int} (h : low ≤ e) :
    rational s m e = (signed s (m * Nat.pow 2 (e - low).toNat) : ℚ) * 2 ^ low := by
  have hpow : (2 : ℚ) ^ e = 2 ^ (e - low).toNat * 2 ^ low := by
    rw [← zpow_natCast, Int.toNat_of_nonneg (sub_nonneg.mpr h), ← zpow_add₀ (by norm_num)]
    congr 1
    ring
  have hcast : ((Nat.pow 2 (e - low).toNat : ℕ) : ℚ) = 2 ^ (e - low).toNat :=
    Nat.cast_pow 2 _
  rw [rational, hpow, signed_mul, Int.cast_mul, Int.cast_natCast, hcast, mul_assoc]

/-- Finite values compare as equal exactly when they stand for the same rational number. -/
lemma compareFinite_eq_iff (s : Bool) (m : Nat) (e : Int) (s' : Bool) (m' : Nat) (e' : Int) :
    compareFinite s m e s' m' e' = .eq ↔ rational s m e = rational s' m' e' := by
  have hpos : (2 : ℚ) ^ min e e' ≠ 0 := zpow_ne_zero _ (by norm_num)
  rw [rational_eq_scaled s m (min_le_left e e'), rational_eq_scaled s' m' (min_le_right e e'),
    mul_left_inj' hpos, Int.cast_inj]
  exact compare_eq_iff_eq

/-- A whole number stands for itself. -/
lemma rational_ofInt (i : Int) : rational (decide (i < 0)) i.natAbs 0 = i := by
  rw [rational, zpow_zero, mul_one, signed]
  congr 1
  by_cases h : i < 0
  · simp only [h, decide_true, if_true]
    omega
  · simp only [h, decide_false, Bool.false_eq_true, if_false]
    omega

/-- What an exact value counts; one that is no number is told apart by the given bits. -/
def quantity (bits : UInt64) : Binary → Quantity
  | .finite s m e => .exact (rational s m e)
  | .infinite s => .infinite s
  | .nan => .undefined bits

/-- Two exact values compare as equal exactly when they are numbers and count the same. -/
lemma order?_eq_iff (a b : Binary) (p q : UInt64) :
    a.order? b = some .eq ↔ a ≠ .nan ∧ a.quantity p = b.quantity q := by
  cases a with
  | finite s m e =>
    cases b with
    | finite s' m' e' => simp [order?, quantity, compareFinite_eq_iff]
    | infinite s' => cases s' <;> simp [order?, quantity]
    | nan => simp [order?, quantity]
  | infinite s =>
    cases b with
    | finite s' m' e' => cases s <;> simp [order?, quantity]
    | infinite s' => cases s <;> cases s' <;> simp [order?, quantity]
    | nan => simp [order?, quantity]
  | nan => simp [order?]

/-- A whole number counts itself. -/
lemma quantity_ofInt (i : Int) (p : UInt64) : (ofInt i).quantity p = .exact i := by
  rw [ofInt, quantity, rational_ofInt]

end Binary

/-- What a float counts. -/
def quantityOf (x : Float) : Quantity :=
  (Binary.ofFloat x).quantity x.toBits

/-- Two uses of a float are the same exactly when they count the same. -/
theorem floatSame_iff (x y : Float) : floatSame x y = true ↔ quantityOf x = quantityOf y := by
  rw [floatSame, floatEq, Bool.or_eq_true, beq_iff_eq, beq_iff_eq,
    Binary.order?_eq_iff _ _ x.toBits y.toBits]
  constructor
  · rintro (⟨-, h⟩ | h)
    · exact h
    · unfold quantityOf Binary.ofFloat
      rw [h]
  · intro h
    by_cases hx : Binary.ofFloat x = .nan
    · -- what counts as no number on the left does so on the right, with the same bits
      refine Or.inr ?_
      rw [quantityOf, quantityOf, hx] at h
      cases hy : Binary.ofFloat y <;> simp_all [Binary.quantity]
    · exact Or.inl ⟨hx, h⟩

/-- A float equals a whole number exactly when it counts that number. -/
theorem floatEqInt_iff (x : Float) (i : Int) :
    floatEqInt x i = true ↔ quantityOf x = .exact i := by
  rw [floatEqInt, beq_iff_eq, Binary.order?_eq_iff _ _ x.toBits 0, Binary.quantity_ofInt]
  constructor
  · exact fun h => h.2
  · intro h
    refine ⟨fun hx => ?_, h⟩
    rw [quantityOf, hx] at h
    cases h

/-! ## Keys -/

/-- A key up to sameness: numbers are given by what they count. -/
inductive CanonicalKey where
  | null
  | number (q : Quantity)
  | str (s : String)
  | bytes (bs : List UInt8)
  | moment (mark : Option Bool × Int)
  | tuple (ks : List CanonicalKey)
  | callable (handle : String)

mutual

/-- The form that all keys of one entry share. -/
def Key.canonical : Key → CanonicalKey
  | .null => .null
  | .bool b => .number (.exact (if b then 1 else 0))
  | .int i => .number (.exact i)
  | .float x => .number (quantityOf x)
  | .str s => .str s
  | .bytes bs => .bytes bs
  | .moment m => .moment m.mark
  | .tuple ks => .tuple (Key.canonicals ks)
  | .callable handle => .callable handle

/-- The canonical forms of the components of a key. -/
def Key.canonicals : List Key → List CanonicalKey
  | [] => []
  | k :: ks => k.canonical :: Key.canonicals ks

end

/-- Whole numbers that count the same are equal. -/
lemma exact_int_eq_iff (i j : Int) : Quantity.exact i = Quantity.exact j ↔ i = j := by
  rw [Quantity.exact.injEq, Int.cast_inj]

/-- The whole number that a truth value counts as. -/
lemma exact_truth (b : Bool) :
    Quantity.exact (if b then 1 else 0) = Quantity.exact ((if b then 1 else 0 : Int) : ℚ) := by
  cases b <;> simp

mutual

/-- Two keys name the same entry exactly when their canonical forms are equal. -/
theorem Key.same_iff_canonical (k l : Key) : k.same l = true ↔ k.canonical = l.canonical := by
  cases k <;> cases l <;>
    simp only [Key.same, Moment.same, Key.canonical, reduceCtorEq, Bool.false_eq_true, beq_iff_eq,
      CanonicalKey.number.injEq, CanonicalKey.str.injEq, CanonicalKey.bytes.injEq,
      CanonicalKey.moment.injEq,
      CanonicalKey.tuple.injEq, CanonicalKey.callable.injEq, exact_truth, exact_int_eq_iff,
      floatEqInt_iff, floatSame_iff]
  case bool.bool b c => cases b <;> cases c <;> simp
  case bool.float => exact eq_comm
  case int.float => exact eq_comm
  case tuple.tuple ks ls => exact Key.sameAll_iff_canonicals ks ls

/-- Lists of keys are the same one by one exactly when their canonical forms are equal. -/
theorem Key.sameAll_iff_canonicals (ks ls : List Key) :
    Key.sameAll ks ls = true ↔ Key.canonicals ks = Key.canonicals ls := by
  cases ks with
  | nil => cases ls <;> simp [Key.sameAll, Key.canonicals]
  | cons k ks =>
    cases ls with
    | nil => simp [Key.sameAll, Key.canonicals]
    | cons l ls =>
      rw [Key.sameAll, Key.canonicals, Key.canonicals, Bool.and_eq_true, List.cons.injEq,
        Key.same_iff_canonical k l, Key.sameAll_iff_canonicals ks ls]

end

/-- A key names its own entry. -/
@[simp] theorem Key.same_refl (k : Key) : k.same k = true :=
  (Key.same_iff_canonical k k).mpr rfl

/-- Keys that name the same entry name it from both sides. -/
theorem Key.same_comm (k l : Key) : k.same l = l.same k := by
  rw [Bool.eq_iff_iff, Key.same_iff_canonical, Key.same_iff_canonical]
  exact eq_comm

/-- Keys that name the same entry are the same as the same keys. -/
theorem Key.same_congr {k l : Key} (h : k.same l = true) (m : Key) : k.same m = l.same m := by
  have hc := (Key.same_iff_canonical k l).mp h
  rw [Bool.eq_iff_iff, Key.same_iff_canonical, Key.same_iff_canonical, hc]

end PageTree
