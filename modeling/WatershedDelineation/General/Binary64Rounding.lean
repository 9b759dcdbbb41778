import WatershedDelineation.General.Binary64Arith

/-!
# Rounding to doubles

The number that an exact result is rounded to, as a rational (`rounded`). Results that are too large
become the first number that is too large, so that rounding is monotone on all numbers and commutes
with negation, and the sign of what overflows is kept.

A number is rounded by less than a unit in its last place (`abs_value_nearestMagnitude_sub_lt`).
Multiples of the steps of a grid, up to `2 ^ 32` of them, are therefore rounded by less than one
step, no matter how small or large a step is (`rounded_lt_of_le_mul`, `lt_rounded_of_mul_le`).
-/

namespace F32

open BinaryFormat

variable {p : ℕ} {emin : ℤ} {q : ℚ}

/-- The nearest value differs by less than a unit in the last place. -/
theorem abs_value_nearestMagnitude_sub_lt (hq : 0 < q) :
    |value p emin (nearestMagnitude p emin q) - q| < 2 ^ (exponentOf emin q - p) := by
  have hfloor : value p emin (floorMagnitude p emin q) ≤ q := value_floorMagnitude_le hq
  have hsucc : q < value p emin (floorMagnitude p emin q + 1) := lt_value_floorMagnitude_succ hq
  have hulp : value p emin (floorMagnitude p emin q + 1)
      = value p emin (floorMagnitude p emin q) + 2 ^ (exponentOf emin q - p) := by
    rw [value_floorMagnitude_succ hq, value_floorMagnitude hq]
    ring
  rw [abs_lt]
  rcases hfloor.eq_or_lt with hexact | hlt
  · rw [nearestMagnitude_of_exact hq hexact, hexact, sub_self]
    exact ⟨neg_lt_zero.mpr (by positivity), by positivity⟩
  · rcases @nearestMagnitude_cases p emin q hq with hnearest | hnearest
    · rw [hnearest]
      exact ⟨by linarith, by linarith⟩
    · rw [hnearest]
      exact ⟨by linarith, by linarith⟩

end F32

namespace Binary64

open BinaryFormat F32

variable {x y : BitVec 64} {q : ℚ}

/-- The double nearest to a number, as a number; what overflows becomes `2 ^ 1024` or its
negation. -/
def rounded (q : ℚ) : ℚ := toRat (ofRat q)

@[simp] theorem roundMagnitude_zero : roundMagnitude 0 = 0 := if_pos rfl

/-- Rounding ends at the magnitude of an infinity. -/
theorem roundMagnitude_le (q : ℚ) (hq : 0 ≤ q) : roundMagnitude q ≤ infMagnitude := by
  rcases hq.eq_or_lt with rfl | hpos
  · rw [roundMagnitude_zero]
    exact Nat.zero_le _
  · rw [roundMagnitude_eq_binary64 hpos]
    exact min_le_right _ _

private theorem roundMagnitude_lt (q : ℚ) : roundMagnitude |q| < 2 ^ 63 :=
  (roundMagnitude_le |q| (abs_nonneg q)).trans_lt (by decide)

/-- The magnitude of a rounded number does not depend on its sign. -/
theorem magnitude_ofRat (q : ℚ) : magnitude (ofRat q) = roundMagnitude |q| := by
  rw [ofRat, magnitude_mk' _ (roundMagnitude_lt q)]

/-- Rounding never leads to a NaN. -/
theorem isNaN_ofRat (q : ℚ) : isNaN (ofRat q) = false := by
  rw [isNaN, magnitude_ofRat, decide_eq_false_iff_not]
  exact (roundMagnitude_le |q| (abs_nonneg q)).not_gt

/-- The rounded number, by the sign and the magnitude. -/
theorem rounded_eq (q : ℚ) : rounded q = if q < 0 then -value 52 (-1022) (roundMagnitude |q|)
    else value 52 (-1022) (roundMagnitude |q|) := by
  rw [rounded, toRat_eq, magnitude_ofRat, ofRat, msb_mk' _ (roundMagnitude_lt q)]
  simp only [decide_eq_true_eq]

@[simp] theorem rounded_zero : rounded 0 = 0 := by
  simp [rounded_eq, value_zero]

/-- A number that is not negative is rounded as a magnitude. -/
theorem rounded_of_nonneg (hq : 0 ≤ q) : rounded q = value 52 (-1022) (roundMagnitude q) := by
  rw [rounded_eq, if_neg hq.not_gt, abs_of_nonneg hq]

/-- Rounding commutes with negation. -/
theorem rounded_neg (q : ℚ) : rounded (-q) = -rounded q := by
  rcases lt_trichotomy q 0 with hneg | rfl | hpos
  · rw [rounded_eq, rounded_eq q, abs_neg, if_neg (by linarith), if_pos hneg, neg_neg]
  · simp
  · rw [rounded_eq, rounded_eq q, abs_neg, if_pos (by linarith), if_neg hpos.not_gt]

/-- Rounding keeps the sign. -/
theorem rounded_nonneg (hq : 0 ≤ q) : 0 ≤ rounded q := by
  rw [rounded_of_nonneg hq]
  exact value_nonneg _

/-- Rounding of magnitudes is monotone, also where they overflow. -/
theorem roundMagnitude_mono {q q' : ℚ} (hq : 0 ≤ q) (hle : q ≤ q') :
    roundMagnitude q ≤ roundMagnitude q' := by
  rcases hq.eq_or_lt with rfl | hpos
  · rw [roundMagnitude_zero]
    exact Nat.zero_le _
  · rw [roundMagnitude_eq_binary64 hpos, roundMagnitude_eq_binary64 (hpos.trans_le hle)]
    exact min_le_min_right _ (nearestMagnitude_mono hpos hle)

/-- **Rounding is monotone.** -/
theorem rounded_mono : Monotone rounded := by
  have hnonneg {a b : ℚ} (ha : 0 ≤ a) (hab : a ≤ b) : rounded a ≤ rounded b := by
    rw [rounded_of_nonneg ha, rounded_of_nonneg (ha.trans hab)]
    exact (strictMono_value 52 (-1022)).monotone (roundMagnitude_mono ha hab)
  intro a b hab
  rcases le_or_gt 0 a with ha | ha
  · exact hnonneg ha hab
  rcases le_or_gt b 0 with hb | hb
  · -- both are negated
    have hle := hnonneg (neg_nonneg.mpr hb) (neg_le_neg hab)
    rw [rounded_neg, rounded_neg] at hle
    exact neg_le_neg_iff.mp hle
  · have hle := rounded_nonneg (neg_nonneg.mpr ha.le)
    rw [rounded_neg] at hle
    exact (neg_nonneg.mp hle).trans (rounded_nonneg hb.le)

/-- **The difference of two doubles** is the exact one, rounded. -/
theorem sub_spec (hx : isFinite x) (hy : isFinite y) :
    isNaN (sub x y) = false ∧ toRat (sub x y) = rounded (toRat x - toRat y) := by
  have hsub : sub x y = if toRat x - toRat y = 0 then mk' (x.msb && (neg y).msb) 0
      else ofRat (toRat x - toRat y) := by
    rw [sub, add, isNaN_of_isFinite hx, isNaN_of_isFinite (isFinite_neg hy), Bool.or_self,
      if_neg Bool.false_ne_true, isInf_of_isFinite hx, if_neg Bool.false_ne_true,
      isInf_of_isFinite (isFinite_neg hy), if_neg Bool.false_ne_true, toRat_neg, ← sub_eq_add_neg]
  rw [hsub]
  split_ifs with hzero
  · have hmagnitude (sign : Bool) : magnitude (mk' sign 0) = 0 := magnitude_mk' sign (by decide)
    rw [hzero, rounded_zero, toRat_eq, hmagnitude, value_zero, neg_zero, ite_self]
    refine ⟨?_, rfl⟩
    rw [isNaN, hmagnitude]
    rfl
  · exact ⟨isNaN_ofRat _, rfl⟩

/-- A word is finite exactly when its number is below the first one that is too large. -/
theorem isFinite_iff_abs_toRat_lt : isFinite x ↔ |toRat x| < 2 ^ 1024 := by
  refine ⟨abs_toRat_lt, fun h => ?_⟩
  rw [isFinite, decide_eq_true_eq]
  rw [abs_toRat, ← value_infMagnitude_binary64] at h
  exact (strictMono_value 52 (-1022)).lt_iff_lt.mp h

/-- The smallest positive double. -/
theorem le_abs_toRat (hx : toRat x ≠ 0) : 2 ^ (-1074 : ℤ) ≤ |toRat x| := by
  have hmagnitude : 1 ≤ magnitude x := by
    refine Nat.one_le_iff_ne_zero.mpr fun hzero => hx ?_
    rw [← abs_eq_zero, abs_toRat, hzero, value_zero]
  have hone : value 52 (-1022) 1 = 2 ^ (-1074 : ℤ) := by
    have h := @value_units 52 (-1022) 0 1 (by decide) (.inl rfl)
    norm_num at h ⊢
    exact h
  rw [abs_toRat, ← hone]
  exact (strictMono_value 52 (-1022)).monotone hmagnitude

/-! ### Comparison with numbers -/

/-- The word is at most a number; a NaN is not comparable. -/
def leRat (x : BitVec 64) (q : ℚ) : Bool :=
  !isNaN x && if isInf x then x.msb else decide (toRat x ≤ q)

/-- The number is at most a word; a NaN is not comparable. -/
def ratLe (q : ℚ) (x : BitVec 64) : Bool :=
  !isNaN x && if isInf x then !x.msb else decide (q ≤ toRat x)

section Compare

variable {a b : ℚ}

/-- A word is at most the lesser of two numbers if it is at most both. -/
theorem leRat_inf : leRat x (a ⊓ b) ↔ leRat x a ∧ leRat x b := by
  cases hinf : isInf x <;> cases hnan : isNaN x <;> simp [leRat, hinf, hnan]

/-- The greater of two numbers is at most a word if both are. -/
theorem ratLe_sup : ratLe (a ⊔ b) x ↔ ratLe a x ∧ ratLe b x := by
  cases hinf : isInf x <;> cases hnan : isNaN x <;> simp [ratLe, hinf, hnan]

theorem leRat_mono (hab : a ≤ b) (h : leRat x a) : leRat x b := by
  rw [← inf_eq_left.mpr hab, leRat_inf] at h
  exact h.2

theorem ratLe_anti (hab : a ≤ b) (h : ratLe b x) : ratLe a x := by
  rw [← sup_eq_right.mpr hab, ratLe_sup] at h
  exact h.1

/-- An interval between words and one between numbers have a number in common, if none of them ends
before the other begins. -/
theorem exists_between (hxy : lt y x = false) (hab : a ≤ b) (hx : leRat x b) (hy : ratLe a y) :
    ∃ c, (a ≤ c ∧ c ≤ b) ∧ leRat x c ∧ ratLe c y := by
  simp only [leRat, ratLe, Bool.and_eq_true, Bool.not_eq_true'] at hx hy
  cases hinf : isInf x with
  | true =>
    rw [hinf, if_pos rfl] at hx
    refine ⟨a, ⟨le_rfl, hab⟩, ?_, ?_⟩
    · simp [leRat, hinf, hx]
    · simp only [ratLe, Bool.and_eq_true, Bool.not_eq_true']
      exact hy
  | false =>
    simp only [hinf, Bool.false_eq_true, if_false, decide_eq_true_eq] at hx
    refine ⟨a ⊔ toRat x, ⟨le_sup_left, sup_le hab hx.2⟩, ?_, ?_⟩
    · simp [leRat, hinf, hx.1]
    · refine ratLe_sup.mpr ⟨by simpa [ratLe] using hy, ?_⟩
      simp only [ratLe, hy.1, Bool.not_false, Bool.true_and]
      cases hinf' : isInf y with
      | true =>
        rw [hinf', if_pos rfl] at hy
        rw [if_pos rfl]
        simpa using hy.2
      | false =>
        rw [if_neg Bool.false_ne_true, decide_eq_true_eq]
        have hkey : ¬key y < key x := by
          simpa [lt, hx.1, hy.1] using hxy
        rw [← toRat_lt_toRat_iff, not_lt] at hkey
        exact hkey

end Compare

/-! ### Grids -/

section Grid

variable {step : ℚ} {n : ℕ}

/-- A unit in the last place of a multiple of a step is not more than the step. -/
private theorem ulp_le (hstep : 2 ^ (-1074 : ℤ) ≤ step) (hn : n ≤ 2 ^ 32) (hpos : 0 < n * step) :
    (2 : ℚ) ^ (exponentOf (-1022) (n * step) - (52 : ℕ)) ≤ step := by
  rcases le_total (Int.log 2 (n * step)) (-1022) with hsmall | hlarge
  · rw [exponentOf, max_eq_right hsmall]
    exact hstep
  · have hlog : (2 : ℚ) ^ Int.log 2 (n * step) ≤ n * step := by
      exact_mod_cast Int.zpow_log_le_self Nat.one_lt_two hpos
    have hsize : (n : ℚ) ≤ 2 ^ 52 := (by exact_mod_cast hn : (n : ℚ) ≤ 2 ^ 32).trans (by norm_num)
    have hstep' : 0 ≤ step := le_trans (by positivity) hstep
    rw [exponentOf, max_eq_left hlarge, zpow_sub₀ two_ne_zero, zpow_natCast, div_le_iff₀
      (by positivity), mul_comm step]
    exact hlog.trans (mul_le_mul_of_nonneg_right hsize hstep')

/-- A number up to a multiple of a step stays below the next one. -/
theorem rounded_lt_of_le_mul (hstep : 2 ^ (-1074 : ℤ) ≤ step) (hn : n ≤ 2 ^ 32)
    (h : q ≤ n * step) : rounded q < (n + 1) * step := by
  have hstep' : 0 < step := lt_of_lt_of_le (by positivity) hstep
  rcases n.eq_zero_or_pos with rfl | hpos
  · rw [Nat.cast_zero, zero_mul] at h
    have hle := rounded_mono h
    rw [rounded_zero] at hle
    simpa using hle.trans_lt hstep'
  have hq : (0 : ℚ) < n * step := mul_pos (by exact_mod_cast hpos) hstep'
  have hnear := abs_lt.mp (@abs_value_nearestMagnitude_sub_lt 52 (-1022) _ hq)
  calc rounded q ≤ rounded (n * step) := rounded_mono h
    _ ≤ value 52 (-1022) (nearestMagnitude 52 (-1022) (n * step)) := by
        rw [rounded_of_nonneg hq.le, roundMagnitude_eq_binary64 hq]
        exact (strictMono_value 52 (-1022)).monotone (min_le_left _ _)
    _ < n * step + step := by linarith [hnear.2, ulp_le hstep hn hq]
    _ = (n + 1) * step := by ring

/-- A number from a multiple of a step on stays above the one before, if it does not overflow. -/
theorem lt_rounded_of_mul_le (hstep : 2 ^ (-1074 : ℤ) ≤ step) (hn : n ≤ 2 ^ 32)
    (h : n * step ≤ q) (hfinite : rounded q < 2 ^ 1024) : (n - 1) * step < rounded q := by
  have hstep' : 0 < step := lt_of_lt_of_le (by positivity) hstep
  rcases n.eq_zero_or_pos with rfl | hpos
  · rw [Nat.cast_zero, zero_mul] at h
    have := rounded_nonneg h
    push_cast
    linarith
  have hq : (0 : ℚ) < n * step := mul_pos (by exact_mod_cast hpos) hstep'
  have hnear := abs_lt.mp (@abs_value_nearestMagnitude_sub_lt 52 (-1022) _ hq)
  have hmono : rounded (n * step) ≤ rounded q := rounded_mono h
  -- the multiple does not overflow either
  have hrounded : rounded (n * step)
      = value 52 (-1022) (nearestMagnitude 52 (-1022) (n * step)) := by
    rw [rounded_of_nonneg hq.le, roundMagnitude_eq_binary64 hq] at hmono ⊢
    rcases min_choice (nearestMagnitude 52 (-1022) (n * step)) infMagnitude with hmin | hmin
    · rw [hmin]
    · rw [hmin, value_infMagnitude_binary64] at hmono
      exact absurd hfinite hmono.not_gt
  calc (n - 1) * step = n * step - step := by ring
    _ < value 52 (-1022) (nearestMagnitude 52 (-1022) (n * step)) := by
        linarith [hnear.1, ulp_le hstep hn hq]
    _ ≤ rounded q := hrounded ▸ hmono

end Grid

end Binary64
