import WatershedDelineation.General.BinaryCasts

/-!
# Arithmetic of doubles

The operations on words of 64 bits besides addition: subtraction, multiplication, division,
clamping, rounding to integers, and the saturating conversion to words of 32 bits. Results are
rounded to nearest, ties to even.

Rounding keeps bounds that are doubles themselves (`between_mk'`), so what an expression of these
operations is at most can be read off the exact expression.
-/

namespace Binary64

open BinaryFormat F32

variable (x y : BitVec 64)

def neg : BitVec 64 := x ^^^ 0x8000000000000000

def sub : BitVec 64 := add x (neg y)

def mul : BitVec 64 :=
  if isNaN x || isNaN y then nan
  else if isInf x || isInf y then
    if magnitude x = 0 || magnitude y = 0 then nan else mk' (x.msb != y.msb) infMagnitude
  else mk' (x.msb != y.msb) (roundMagnitude |toRat x * toRat y|)

def div : BitVec 64 :=
  if isNaN x || isNaN y then nan
  else if isInf x then if isInf y then nan else mk' (x.msb != y.msb) infMagnitude
  else if isInf y then mk' (x.msb != y.msb) 0
  else if magnitude y = 0 then
    if magnitude x = 0 then nan else mk' (x.msb != y.msb) infMagnitude
  else mk' (x.msb != y.msb) (roundMagnitude |toRat x / toRat y|)

/-- The value between two bounds that is nearest to a word. -/
def clamp (lo hi : BitVec 64) : BitVec 64 :=
  let raised := if lt x lo then lo else x
  if lt hi raised then hi else raised

/-- The smaller number; a NaN does not count. -/
def minNum : BitVec 64 := if isNaN x then y else if isNaN y then x else if lt y x then y else x

/-- The larger number; a NaN does not count. -/
def maxNum : BitVec 64 := if isNaN x then y else if isNaN y then x else if lt x y then y else x

/-- The nearest integer, halves away from zero. -/
def roundHalfAway (q : ℚ) : ℤ := if 0 ≤ q then ⌊q + 1 / 2⌋ else -⌊-q + 1 / 2⌋

/-- Round to an integer, halves away from zero. -/
def round : BitVec 64 :=
  if isFinite x then mk' x.msb (roundMagnitude |(roundHalfAway (toRat x) : ℚ)|) else x

/-- The saturating conversion to words of 32 bits, towards zero. -/
def toU32 : ℕ :=
  if isNaN x then 0
  else if isInf x then if x.msb then 0 else 2 ^ 32 - 1
  else min ⌊toRat x⌋.toNat (2 ^ 32 - 1)

variable {x y}

/-! ### Bounds -/

/-- Rounding does not exceed a bound that is a value. -/
theorem roundMagnitude_le_of_le {q : ℚ} {m : ℕ} (hq : 0 ≤ q) (h : q ≤ value 52 (-1022) m) :
    roundMagnitude q ≤ m := by
  rcases hq.eq_or_lt with rfl | hq
  · rw [roundMagnitude, if_pos rfl]
    exact Nat.zero_le m
  rw [roundMagnitude_eq_binary64 hq]
  refine le_trans (min_le_left _ _) ?_
  have hfloor : value 52 (-1022) (floorMagnitude 52 (-1022) q) ≤ q := value_floorMagnitude_le hq
  have hle := (strictMono_value 52 (-1022)).le_iff_le.mp (hfloor.trans h)
  rcases hle.lt_or_eq with hlt | heq
  · have hcases : nearestMagnitude 52 (-1022) q = floorMagnitude 52 (-1022) q ∨
      nearestMagnitude 52 (-1022) q = floorMagnitude 52 (-1022) q + 1 := nearestMagnitude_cases hq
    omega
  · -- the number is the bound
    have hexact := le_antisymm hfloor (h.trans_eq (congrArg _ heq.symm))
    rw [nearestMagnitude_of_exact hq hexact, heq]

/-- A finite word whose number is between zero and a bound. -/
structure UpTo (bound : ℚ) (x : BitVec 64) : Prop where
  finite : isFinite x
  nonneg : 0 ≤ toRat x
  le : toRat x ≤ bound

/-- A rounded number keeps a bound that is a double. -/
theorem upTo_mk' {sign : Bool} {q : ℚ} {bound : BitVec 64} (hfinite : isFinite bound)
    (hsign : sign = true → q = 0) (hq : 0 ≤ q) (hle : q ≤ toRat bound) :
    UpTo (toRat bound) (mk' sign (roundMagnitude q)) := by
  have hbound : |toRat bound| = toRat bound := abs_of_nonneg (hq.trans hle)
  rw [abs_toRat] at hbound
  have hround := roundMagnitude_le_of_le hq (hle.trans_eq hbound.symm)
  have hlt : magnitude bound < infMagnitude := of_decide_eq_true hfinite
  have hsmall : roundMagnitude q < 2 ^ 63 :=
    lt_of_le_of_lt (hround.trans hlt.le) (by decide)
  have hvalue := (strictMono_value 52 (-1022)).monotone hround
  refine ⟨decide_eq_true ?_, ?_, ?_⟩
  · rw [magnitude_mk' sign hsmall]
    exact lt_of_le_of_lt hround hlt
  all_goals
    rw [toRat_eq, magnitude_mk' sign hsmall, msb_mk' sign hsmall]
    split_ifs with hs
  · rw [hsign hs, roundMagnitude, if_pos rfl, value_zero, neg_zero]
  · exact value_nonneg _
  · rw [hsign hs, roundMagnitude, if_pos rfl, value_zero, neg_zero]
    exact hq.trans hle
  · exact hvalue.trans_eq hbound

theorem magnitude_neg (x : BitVec 64) : magnitude (neg x) = magnitude x := by
  rw [magnitude, neg, BitVec.toNat_xor, Nat.xor_mod_two_pow]
  exact Nat.xor_zero _

theorem toRat_neg (x : BitVec 64) : toRat (neg x) = -toRat x := by
  have hmsb : (neg x).msb = !x.msb := by
    rw [neg, BitVec.msb_xor, show (0x8000000000000000 : BitVec 64).msb = true by decide,
      Bool.xor_true]
  rw [toRat_eq, toRat_eq, hmsb, magnitude_neg]
  cases x.msb <;> simp

section Bounds

variable {lo hi bound : BitVec 64}

theorem isInf_of_isFinite (h : isFinite x) : isInf x = false := by
  rw [isFinite, decide_eq_true_eq] at h
  rw [isInf, decide_eq_false_iff_not]
  exact h.ne

theorem isFinite_neg (h : isFinite x) : isFinite (neg x) := by
  rw [isFinite, decide_eq_true_eq] at h ⊢
  rwa [magnitude_neg]

theorem isFinite_of_key_le (hlo : isFinite lo) (hhi : isFinite hi) (hlow : key lo ≤ key x)
    (hhigh : key x ≤ key hi) : isFinite x := by
  rw [isFinite, decide_eq_true_eq] at hlo hhi ⊢
  simp only [key] at hlow hhigh
  split_ifs at hlow hhigh <;> omega

/-- What is not a NaN is clamped to a finite word between the bounds. -/
theorem clamp_spec (hx : isNaN x = false) (hlo : isFinite lo) (hhi : isFinite hi)
    (hle : toRat lo ≤ toRat hi) :
    isFinite (clamp x lo hi) ∧ toRat lo ≤ toRat (clamp x lo hi) ∧
      toRat (clamp x lo hi) ≤ toRat hi := by
  have hlt : ∀ {a b : BitVec 64}, isNaN a = false → isNaN b = false →
      (lt a b ↔ toRat a < toRat b) := by
    intro a b ha hb
    simp only [lt, ha, hb, Bool.not_false, Bool.true_and, decide_eq_true_eq]
    exact toRat_lt_toRat_iff.symm
  have hloNaN := isNaN_of_isFinite hlo
  have hhiNaN := isNaN_of_isFinite hhi
  have hraised : ∀ raised : BitVec 64, isNaN raised = false → toRat lo ≤ toRat raised →
      isFinite (if lt hi raised then hi else raised) ∧
        toRat lo ≤ toRat (if lt hi raised then hi else raised) ∧
        toRat (if lt hi raised then hi else raised) ≤ toRat hi := by
    intro raised hraised hlow
    split_ifs with h
    · exact ⟨hhi, hle, le_rfl⟩
    · have hhigh : toRat raised ≤ toRat hi :=
        not_lt.mp fun hgt => h ((hlt hhiNaN hraised).mpr hgt)
      refine ⟨isFinite_of_key_le hlo hhi ?_ ?_, hlow, hhigh⟩
      · exact not_lt.mp fun hgt => hlow.not_gt (toRat_lt_toRat_iff.mpr hgt)
      · exact not_lt.mp fun hgt => hhigh.not_gt (toRat_lt_toRat_iff.mpr hgt)
  refine hraised (if lt x lo then lo else x) ?_ ?_
  · split_ifs
    · exact hloNaN
    · exact hx
  · split_ifs with h
    · exact le_rfl
    · exact not_lt.mp fun hgt => h ((hlt hx hloNaN).mpr hgt)

/-- A number that is not negative but has a sign is the negative zero. -/
theorem toRat_eq_zero_of_msb (hmsb : x.msb = true) (h : 0 ≤ toRat x) : toRat x = 0 := by
  rw [toRat_eq, if_pos hmsb] at h ⊢
  have := @value_nonneg 52 (-1022) (magnitude x)
  linarith

/-- A value is rounded to itself. -/
theorem roundMagnitude_value {m : ℕ} (hm : 0 < m) (hlt : m ≤ infMagnitude) :
    roundMagnitude (value 52 (-1022) m) = m := by
  have hmono := strictMono_value 52 (-1022)
  have hpos : 0 < value 52 (-1022) m := by
    simpa using hmono hm
  have hle := hmono.le_iff_le.mp (value_floorMagnitude_le (p := 52) hpos)
  have hge := hmono.lt_iff_lt.mp (lt_value_floorMagnitude_succ (p := 52) hpos)
  have hfloor : floorMagnitude 52 (-1022) (value 52 (-1022) m) = m := by omega
  rw [roundMagnitude_eq_binary64 hpos, nearestMagnitude_of_exact hpos (by rw [hfloor]), hfloor,
    min_eq_left hlt]

theorem mk'_msb_magnitude (x : BitVec 64) : mk' x.msb (magnitude x) = x := by
  have hlt : magnitude x < 2 ^ 63 := Nat.mod_lt _ (by decide)
  refine BitVec.eq_of_toNat_eq ?_
  rw [mk', BitVec.toNat_ofNat, Nat.mod_eq_of_lt hlt, magnitude, BitVec.msb_eq_decide]
  have := x.isLt
  by_cases h : 2 ^ 63 ≤ x.toNat
  · rw [decide_eq_true (by simpa using h), if_pos rfl]
    omega
  · rw [decide_eq_false (by simpa using h), if_neg Bool.false_ne_true]
    omega

/-- The number of a word, by its units. -/
theorem toRat_of_units {k u : ℕ} (h : magnitude x = k * 2 ^ 52 + u) (hu : u ≤ 2 ^ 53)
    (hk : k = 0 ∨ 2 ^ 52 ≤ u) :
    toRat x = (if x.msb then -1 else 1) * (u * 2 ^ ((k : ℤ) - 1074)) := by
  have hexp : (k : ℤ) + -1022 - (52 : ℕ) = k - 1074 := by
    push_cast
    ring
  rw [toRat_eq, h, value_units hu hk, hexp]
  split_ifs
  · rw [neg_one_mul]
  · rw [one_mul]

/-- A positive difference that is a double is computed exactly. -/
theorem sub_eq_of_toRat {width : BitVec 64} (hx : isFinite x) (hy : isFinite y)
    (hwidth : isFinite width) (hpos : 0 < toRat width) (h : toRat x - toRat y = toRat width) :
    sub x y = width := by
  have hmsb : width.msb = false := by
    by_contra hmsb
    have := toRat_eq_zero_of_msb (by simpa using hmsb) hpos.le
    linarith
  have hvalue : value 52 (-1022) (magnitude width) = toRat width := by
    rw [toRat_eq, hmsb, if_neg Bool.false_ne_true]
  have hmagnitude : 0 < magnitude width := by
    refine Nat.pos_of_ne_zero fun hzero => ?_
    rw [← hvalue, hzero, value_zero] at hpos
    exact lt_irrefl _ hpos
  rw [sub, add, isNaN_of_isFinite hx, isNaN_of_isFinite (isFinite_neg hy), Bool.or_self,
    if_neg Bool.false_ne_true, isInf_of_isFinite hx, if_neg Bool.false_ne_true,
    isInf_of_isFinite (isFinite_neg hy), if_neg Bool.false_ne_true, toRat_neg, ← sub_eq_add_neg,
    h, if_neg hpos.ne', ofRat, decide_eq_false hpos.not_gt, abs_of_pos hpos, ← hvalue,
    roundMagnitude_value hmagnitude (of_decide_eq_true hwidth).le, ← hmsb, mk'_msb_magnitude]

/-- The sign of a product or a quotient of numbers that are not negative matters for zeros only. -/
private theorem eq_zero_of_msb_ne (hx : 0 ≤ toRat x) (hy : 0 ≤ toRat y)
    (h : (x.msb != y.msb) = true) : toRat x = 0 ∨ toRat y = 0 := by
  cases hxmsb : x.msb with
  | true => exact .inl (toRat_eq_zero_of_msb hxmsb hx)
  | false =>
    rw [hxmsb] at h
    exact .inr (toRat_eq_zero_of_msb (by simpa using h) hy)

/-- A difference of numbers, the larger minus the smaller. -/
theorem upTo_sub (hx : isFinite x) (hy : isFinite y) (hbound : isFinite bound)
    (hle : toRat y ≤ toRat x) (hdiff : toRat x - toRat y ≤ toRat bound) :
    UpTo (toRat bound) (sub x y) := by
  rw [sub, add, isNaN_of_isFinite hx, isNaN_of_isFinite (isFinite_neg hy), Bool.or_self,
    if_neg Bool.false_ne_true, isInf_of_isFinite hx, if_neg Bool.false_ne_true,
    isInf_of_isFinite (isFinite_neg hy), if_neg Bool.false_ne_true, toRat_neg, ← sub_eq_add_neg]
  have hnonneg : 0 ≤ toRat x - toRat y := sub_nonneg.mpr hle
  split_ifs with hzero
  · have hround : roundMagnitude 0 = 0 := if_pos rfl
    rw [← hround]
    exact upTo_mk' hbound (fun _ => rfl) le_rfl (hnonneg.trans hdiff)
  · rw [ofRat, decide_eq_false hnonneg.not_gt, abs_of_nonneg hnonneg]
    exact upTo_mk' hbound (by simp) hnonneg hdiff

theorem upTo_mul {a b : ℚ} (hx : UpTo a x) (hy : UpTo b y) (hbound : isFinite bound)
    (h : a * b ≤ toRat bound) : UpTo (toRat bound) (mul x y) := by
  rw [mul, isNaN_of_isFinite hx.finite, isNaN_of_isFinite hy.finite, Bool.or_self,
    if_neg Bool.false_ne_true, isInf_of_isFinite hx.finite, isInf_of_isFinite hy.finite,
    Bool.or_self, if_neg Bool.false_ne_true, abs_of_nonneg (mul_nonneg hx.nonneg hy.nonneg)]
  refine upTo_mk' hbound (fun hsign => ?_) (mul_nonneg hx.nonneg hy.nonneg) ?_
  · exact mul_eq_zero.mpr (eq_zero_of_msb_ne hx.nonneg hy.nonneg hsign)
  · exact (mul_le_mul hx.le hy.le hy.nonneg (hx.nonneg.trans hx.le)).trans h

theorem upTo_div {a : ℚ} (hx : UpTo a x) (hy : isFinite y) (hpos : 0 < toRat y)
    (hbound : isFinite bound) (h : a / toRat y ≤ toRat bound) :
    UpTo (toRat bound) (div x y) := by
  have hne : magnitude y ≠ 0 := by
    intro hzero
    rw [toRat_eq, hzero, value_zero] at hpos
    simp at hpos
  have hnonneg := div_nonneg hx.nonneg hpos.le
  rw [div, isNaN_of_isFinite hx.finite, isNaN_of_isFinite hy, Bool.or_self,
    if_neg Bool.false_ne_true, isInf_of_isFinite hx.finite, if_neg Bool.false_ne_true,
    isInf_of_isFinite hy, if_neg Bool.false_ne_true, if_neg hne, abs_of_nonneg hnonneg]
  refine upTo_mk' hbound (fun hsign => ?_) hnonneg ?_
  · exact div_eq_zero_iff.mpr (eq_zero_of_msb_ne hx.nonneg hpos.le hsign)
  · exact (div_le_div_of_nonneg_right hx.le hpos.le).trans h

/-- Rounding to integers does not exceed a bound that is an integer. -/
theorem upTo_round {n : ℤ} (hx : UpTo n x) (hbound : isFinite bound) (h : toRat bound = n) :
    UpTo (toRat bound) (round x) := by
  have hround : roundHalfAway (toRat x) = ⌊toRat x + 1 / 2⌋ := if_pos hx.nonneg
  have hnonneg : (0 : ℚ) ≤ roundHalfAway (toRat x) := by
    rw [hround]
    exact_mod_cast Int.floor_nonneg.mpr (by linarith [hx.nonneg])
  have hle : (roundHalfAway (toRat x) : ℚ) ≤ toRat bound := by
    have hlt : ⌊toRat x + 1 / 2⌋ < n + 1 := by
      refine Int.floor_lt.mpr ?_
      push_cast
      linarith [hx.le]
    rw [h, hround]
    exact_mod_cast Int.lt_add_one_iff.mp hlt
  rw [round, if_pos hx.finite, abs_of_nonneg hnonneg]
  refine upTo_mk' hbound (fun hmsb => ?_) hnonneg hle
  rw [hround, toRat_eq_zero_of_msb hmsb hx.nonneg]
  norm_num

theorem toU32_le {n : ℕ} (hx : UpTo n x) : toU32 x ≤ n := by
  rw [toU32, isNaN_of_isFinite hx.finite, if_neg Bool.false_ne_true, isInf_of_isFinite hx.finite,
    if_neg Bool.false_ne_true]
  refine (min_le_left _ _).trans ?_
  have hle : ⌊toRat x⌋ ≤ (n : ℤ) := Int.floor_le_iff.mpr (by push_cast; linarith [hx.le])
  omega

end Bounds

/-! ### Sixteen bits -/

/-- The word of the number one. -/
def one : BitVec 64 := 0x3ff0000000000000

/-- The word of the largest number of 16 bits. -/
def u16Max : BitVec 64 := 0x40efffe000000000

theorem toRat_one : toRat one = 1 := by
  rw [toRat_of_units (k := 1022) (u := 2 ^ 52) (by decide) (by decide) (.inr (Nat.le_refl _)),
    show one.msb = false by decide, if_neg Bool.false_ne_true]
  norm_num

theorem toRat_u16Max : toRat u16Max = 65535 := by
  rw [toRat_of_units (k := 1037) (u := 65535 * 2 ^ 37) (by decide) (by decide) (.inr (by decide)),
    show u16Max.msb = false by decide, if_neg Bool.false_ne_true]
  norm_num

theorem toRat_zero : toRat 0 = 0 := by
  rw [toRat_eq, show magnitude 0 = 0 by decide, value_zero]
  simp

/-- A number between zero and one is quantized to 16 bits. -/
theorem toU32_round_mul_u16Max_le (h : UpTo (toRat one) x) :
    toU32 (round (mul x u16Max)) ≤ 65535 := by
  have hmax : UpTo 65535 u16Max := ⟨by decide, by rw [toRat_u16Max]; norm_num, toRat_u16Max.le⟩
  have hmul : UpTo (toRat u16Max) (mul x u16Max) :=
    upTo_mul h hmax (by decide) (by rw [toRat_one, toRat_u16Max, one_mul])
  rw [toRat_u16Max] at hmul
  have hround := upTo_round (n := 65535) (by exact_mod_cast hmul)
    (show isFinite u16Max by decide) toRat_u16Max
  rw [toRat_u16Max] at hround
  exact toU32_le (n := 65535) (by exact_mod_cast hround)

/-- Whatever is clamped to the numbers between zero and one is quantized to 16 bits. -/
theorem toU32_round_mul_clamp_le (x : BitVec 64) :
    toU32 (round (mul (clamp x 0 one) u16Max)) ≤ 65535 := by
  cases hnan : isNaN x with
  | false =>
    have hle : toRat 0 ≤ toRat one := by
      rw [toRat_zero, toRat_one]
      norm_num
    obtain ⟨hfinite, hlow, hhigh⟩ := clamp_spec hnan (by decide) (by decide) hle
    exact toU32_round_mul_u16Max_le ⟨hfinite, toRat_zero ▸ hlow, hhigh⟩
  | true =>
    have hclamp : clamp x 0 one = x := by
      simp [clamp, lt, hnan]
    rw [hclamp, mul, hnan, Bool.true_or, if_pos rfl]
    decide

end Binary64
