import WatershedDelineation.General.Binary32

/-!
# Binary floating point numbers of 64 bits

IEEE 754 double precision on words of 64 bits: the order of values (`le`), the total order of words
(`totalKey`) and addition (`add`), whose exact sum is rounded to nearest, ties to even.
-/

namespace Binary64

variable (x y : BitVec 64)

/-- The exponent and the significand, without the sign. -/
def magnitude : ℕ := x.toNat % 2 ^ 63

/-- The magnitude of the infinities. -/
def infMagnitude : ℕ := 0x7ff0000000000000

/-- Not a number: the exponent is all ones, and the significand is not zero. -/
def isNaN : Bool := infMagnitude < magnitude x

/-- An infinity. -/
def isInf : Bool := magnitude x = infMagnitude

/-- Neither an infinity nor a NaN. -/
def isFinite : Bool := magnitude x < infMagnitude

/-- A quiet NaN. -/
def nan : BitVec 64 := 0x7ff8000000000000

/-- The word of the given sign and magnitude. -/
def mk' (sign : Bool) (magnitude : ℕ) : BitVec 64 :=
  BitVec.ofNat 64 (magnitude % 2 ^ 63 + if sign then 2 ^ 63 else 0)

/-- The signed magnitude. -/
def key : ℤ := if x.msb then -magnitude x else magnitude x

/-- The position in the total order of words, in which the negative zero comes before the positive
one. -/
def totalKey : ℤ := if x.msb then -magnitude x - 1 else magnitude x

/-- The order of values; a NaN is not comparable. -/
def lt : Bool := !isNaN x && !isNaN y && decide (key x < key y)

/-- The reflexive order of values; a NaN is not comparable. -/
def le : Bool := !isNaN x && !isNaN y && decide (key x ≤ key y)

/-- The total order tells all words apart. -/
theorem totalKey_injective : Function.Injective totalKey := by
  intro x y h
  simp only [totalKey, magnitude, BitVec.msb_eq_decide, decide_eq_true_eq] at h
  refine BitVec.eq_of_toNat_eq ?_
  have hx := x.isLt
  have hy := y.isLt
  split_ifs at h <;> omega

/-- The value of a finite word. -/
def toRat : ℚ :=
  let exponent : ℕ := magnitude x / 2 ^ 52
  let significand : ℕ := magnitude x % 2 ^ 52
  let value : ℚ :=
    if exponent = 0 then significand * 2 ^ (-1074 : ℤ)
    else (2 ^ 52 + significand) * 2 ^ ((exponent : ℤ) - 1075)
  if x.msb then -value else value

/-- The magnitude nearest to a non-negative rational. The significand is counted in units of the
last place, and a carry out of it runs into the exponent. -/
def roundMagnitude (q : ℚ) : ℕ :=
  if q = 0 then 0
  else
    let exponent := max (Int.log 2 q) (-1022)
    let units := F32.roundTiesEven (q / 2 ^ (exponent - 52))
    min ((exponent + 1022) * 2 ^ 52 + units).toNat infMagnitude

/-- Conversion of a real value, to nearest and ties to even. -/
def ofRat (q : ℚ) : BitVec 64 := mk' (q < 0) (roundMagnitude |q|)

/-- Addition. The sum of a number and its negation is the positive zero. -/
def add : BitVec 64 :=
  if isNaN x || isNaN y then nan
  else if isInf x then if isInf y && x.msb != y.msb then nan else x
  else if isInf y then y
  else if toRat x + toRat y = 0 then mk' (x.msb && y.msb) 0
  else ofRat (toRat x + toRat y)

end Binary64
