import Mathlib.Algebra.Order.Floor.Ring
import Mathlib.Data.Int.Log
import Mathlib.Data.Nat.Notation
import Mathlib.Data.Rat.Floor
import Mathlib.Tactic.Common

/-!
# Binary floating point numbers of 32 bits

IEEE 754 single precision as bit patterns: comparison (`lt`, `le`), the total order of
bit patterns (`totalKey`), and rounding of rational numbers to nearest, ties to even
(`ofRat`).

The magnitudes `0, 1, …` of the non-negative patterns come in the order of their values, so
comparisons are comparisons of signed magnitudes (`key`). Both zeros have the key `0`, and only
the total order tells them apart.
-/

/-- A single precision bit pattern. -/
structure F32 where
  bits : BitVec 32
  deriving DecidableEq, Repr

namespace F32

/-- The sign bit. -/
def sign (x : F32) : Bool := x.bits.msb

/-- The exponent and the significand, without the sign. -/
def magnitude (x : F32) : ℕ := x.bits.toNat % 2 ^ 31

/-- The magnitude of the infinities. -/
def infMagnitude : ℕ := 0x7f800000

/-- Not a number: the exponent is all ones, and the significand is not zero. -/
def isNaN (x : F32) : Bool := infMagnitude < x.magnitude

/-- Neither an infinity nor a NaN. -/
def isFinite (x : F32) : Bool := x.magnitude < infMagnitude

theorem isNaN_of_isFinite {x : F32} (h : x.isFinite) : x.isNaN = false := by
  rw [isFinite, decide_eq_true_eq] at h
  rw [isNaN, decide_eq_false_iff_not]
  exact h.le.not_gt

/-- A quiet NaN. -/
def nan : F32 := ⟨0x7fc00000⟩

@[simp] theorem isNaN_nan : nan.isNaN = true := by decide

/-- The pattern of the given sign and magnitude. -/
def mk' (sign : Bool) (magnitude : ℕ) : F32 :=
  ⟨BitVec.ofNat 32 (magnitude % 2 ^ 31 + if sign then 2 ^ 31 else 0)⟩

/-- The signed magnitude. -/
def key (x : F32) : ℤ := if x.sign then -x.magnitude else x.magnitude

/-- The order of values; a NaN is not comparable. -/
def lt (x y : F32) : Bool := !x.isNaN && !y.isNaN && decide (x.key < y.key)

/-- The reflexive order of values; a NaN is not comparable. -/
def le (x y : F32) : Bool := !x.isNaN && !y.isNaN && decide (x.key ≤ y.key)

/-- Equality of values; a NaN is equal to nothing, and the zeros are equal. -/
def eq (x y : F32) : Bool := !x.isNaN && !y.isNaN && decide (x.key = y.key)

/-- The least value above another. -/
def IsNext (x y : F32) : Prop := x.lt y ∧ ∀ z, x.lt z → y.le z

/-- The largest finite value. -/
def largest : F32 := ⟨0x7f7fffff⟩

/-- The position in the total order of bit patterns, in which the negative zero comes before the
positive one. -/
def totalKey (x : F32) : ℤ := if x.sign then -x.magnitude - 1 else x.magnitude

/-- The total order of bit patterns. -/
def totalCmp (x y : F32) : Ordering := compare x.totalKey y.totalKey

/-- The total order tells all bit patterns apart. -/
theorem totalKey_injective : Function.Injective totalKey := by
  intro x y h
  have hx := x.bits.isLt
  have hy := y.bits.isLt
  simp only [totalKey, sign, magnitude, BitVec.msb_eq_decide, decide_eq_true_eq] at h
  refine congrArg mk (BitVec.eq_of_toNat_eq ?_)
  split_ifs at h <;> omega

/-- Where neither is a NaN, `le` is the negation of the reverse `lt`. -/
theorem le_iff {x y : F32} : x.le y ↔ x.isNaN = false ∧ y.isNaN = false ∧ y.lt x = false := by
  simp only [le, lt]
  cases x.isNaN <;> cases y.isNaN <;> simp

theorem le_trans {x y z : F32} (hxy : x.le y) (hyz : y.le z) : x.le z := by
  simp only [le, Bool.and_eq_true, decide_eq_true_eq] at hxy hyz ⊢
  exact ⟨⟨hxy.1.1, hyz.1.2⟩, hxy.2.trans hyz.2⟩

/-- Values that are comparable and not smaller are equal. -/
theorem eq_iff_of_le {x y : F32} (h : x.le y) : x.eq y = !x.lt y := by
  simp only [le, Bool.and_eq_true, Bool.not_eq_true', decide_eq_true_eq] at h
  rw [eq, lt, h.1.1, h.1.2]
  by_cases hkey : x.key = y.key
  · simp [hkey]
  · simp [hkey, lt_of_le_of_ne h.2 hkey]

/-- Adding one to the bits of a finite value adds one to its magnitude. -/
theorem sign_magnitude_add_one {x : F32} (h : x.isFinite) :
    (F32.mk (x.bits + 1)).sign = x.sign ∧ (F32.mk (x.bits + 1)).magnitude = x.magnitude + 1 := by
  have hlt := x.bits.isLt
  rw [isFinite, decide_eq_true_eq, magnitude, infMagnitude] at h
  have htoNat : (x.bits + 1).toNat = x.bits.toNat + 1 := by
    rw [BitVec.toNat_add]
    exact Nat.mod_eq_of_lt (by simp; omega)
  simp only [sign, magnitude, BitVec.msb_eq_decide, htoNat, decide_eq_decide]
  omega

/-- The value of the next signed magnitude is the next value. -/
theorem isNext_of_key {x y : F32} (hx : x.isNaN = false) (hy : y.isNaN = false)
    (h : y.key = x.key + 1) : x.IsNext y := by
  refine ⟨by simp [lt, hx, hy, h], fun z hz => ?_⟩
  simp only [lt, Bool.and_eq_true, Bool.not_eq_true', decide_eq_true_eq] at hz
  simp only [le, hy, hz.1.2, h, Bool.not_false, Bool.and_self, Bool.true_and, decide_eq_true_eq]
  exact hz.2

/-- Round a rational to the nearest integer, ties to even. -/
def roundTiesEven (q : ℚ) : ℤ :=
  let n := ⌊q⌋
  if q - n < 1 / 2 then n
  else if 1 / 2 < q - n then n + 1
  else if n % 2 = 0 then n else n + 1

/-- The magnitude nearest to a non-negative rational. The significand is counted in units of
the last place, and a carry out of it runs into the exponent. -/
def roundMagnitude (q : ℚ) : ℕ :=
  if q = 0 then 0
  else
    let exponent := max (Int.log 2 q) (-126)
    let units := roundTiesEven (q / 2 ^ (exponent - 23))
    min ((exponent + 126) * 2 ^ 23 + units).toNat infMagnitude

/-- Conversion of a real value, to nearest and ties to even. -/
def ofRat (q : ℚ) : F32 := mk' (q < 0) (roundMagnitude |q|)

theorem magnitude_mk' (sign : Bool) {m : ℕ} (h : m < 2 ^ 31) : (mk' sign m).magnitude = m := by
  simp only [magnitude, mk', BitVec.toNat_ofNat, Nat.mod_eq_of_lt h]
  cases sign <;> simp <;> omega

theorem roundMagnitude_le (q : ℚ) : roundMagnitude q ≤ infMagnitude := by
  rw [roundMagnitude]
  split_ifs
  · exact Nat.zero_le _
  · exact min_le_right ..

/-- Conversions give no NaN. -/
@[simp] theorem isNaN_ofRat (q : ℚ) : (ofRat q).isNaN = false := by
  have hle := roundMagnitude_le |q|
  rw [isNaN, ofRat, magnitude_mk' _ (lt_of_le_of_lt hle (by decide)), decide_eq_false_iff_not]
  exact hle.not_gt

end F32
