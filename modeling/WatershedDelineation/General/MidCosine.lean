import Mathlib.Analysis.SpecialFunctions.Trigonometric.Sinc

/-!
# Lengths scaled at the middle

A displacement from the parallel `φ` goes `x` to the east and `2 * t` to the north. Its width is
scaled by the cosine of the middle parallel `φ + t`, and a radian to the north has length `k`.

On the equator, displacements of length `r` go no further than `r` to the east, as long as `r` is at
most `2 * k` (`abs_le_of_equator`). On all other parallels, and for longer displacements, a small
step towards a pole saves more than it costs, and some go further than the cosine of `φ` itself
allows (`exists_saving`).
-/

namespace MidCosine

open Real Filter Topology

/-- The squared length of a displacement. -/
noncomputable def sqLength (k φ x t : ℝ) : ℝ := (x * cos (φ + t)) ^ 2 + (k * (t + t)) ^ 2

variable {k φ r c δ x t w : ℝ}

theorem continuous_sqLength (k φ t : ℝ) : Continuous fun x => sqLength k φ x t := by
  unfold sqLength
  fun_prop

theorem sqLength_abs (k φ x t : ℝ) : sqLength k φ |x| t = sqLength k φ x t := by
  rw [sqLength, sqLength, mul_pow |x|, sq_abs, mul_pow x]

theorem sin_eq_mul_sinc (t : ℝ) : sin t = t * sinc t := by
  rcases eq_or_ne t 0 with rfl | ht
  · simp
  · rw [sinc_of_ne_zero ht, mul_div_cancel₀ _ ht]

/-- What a step to the north saves in the squared length. -/
theorem saving_eq (k φ r t : ℝ) :
    (r * cos φ) ^ 2 - sqLength k φ r t
      = t * (r ^ 2 * sin (2 * φ + t) * sinc t - 4 * k ^ 2 * t) := by
  have hcos : cos φ ^ 2 - cos (φ + t) ^ 2 = sin (2 * φ + t) * sin t := by
    have hsum : 2 * φ + t = φ + (φ + t) := by ring
    have hdiff : sin t = sin (φ + t - φ) := by rw [add_sub_cancel_left]
    rw [hsum, hdiff, sin_add φ (φ + t), sin_sub]
    linear_combination -cos φ ^ 2 * sin_sq_add_cos_sq (φ + t)
      + cos (φ + t) ^ 2 * sin_sq_add_cos_sq φ
  calc (r * cos φ) ^ 2 - sqLength k φ r t
      = r ^ 2 * (cos φ ^ 2 - cos (φ + t) ^ 2) - (2 * k * t) ^ 2 := by rw [sqLength]; ring
    _ = r ^ 2 * (sin (2 * φ + t) * (t * sinc t)) - (2 * k * t) ^ 2 := by
        rw [hcos, sin_eq_mul_sinc t]
    _ = t * (r ^ 2 * sin (2 * φ + t) * sinc t - 4 * k ^ 2 * t) := by ring

/-! ### The equator -/

/-- On the equator a step to the north saves at most what it costs. -/
theorem abs_le_of_equator (hr : 0 ≤ r) (hrk : r ≤ 2 * k) (ht : cos t ≠ 0)
    (h : sqLength k 0 x t ≤ r ^ 2) : |x| ≤ r := by
  have hsaving := saving_eq k 0 r t
  rw [cos_zero, mul_one, mul_zero, zero_add, sin_eq_mul_sinc] at hsaving
  have hsinc : sinc t ^ 2 ≤ 1 := (sq_le_one_iff_abs_le_one _).mpr (abs_sinc_le_one t)
  have hcost : r ^ 2 * sinc t ^ 2 ≤ (2 * k) ^ 2 := by
    calc r ^ 2 * sinc t ^ 2 ≤ r ^ 2 * 1 := by gcongr
      _ = r ^ 2 := mul_one _
      _ ≤ (2 * k) ^ 2 := by gcongr
  have hr' : r ^ 2 ≤ sqLength k 0 r t := by
    have hsq : 0 ≤ t ^ 2 * ((2 * k) ^ 2 - r ^ 2 * sinc t ^ 2) :=
      mul_nonneg (sq_nonneg t) (sub_nonneg.mpr hcost)
    linarith
  -- the lengths of `x` and of `r` differ in the first summand only
  have hxr : (x * cos t) ^ 2 ≤ (r * cos t) ^ 2 := by
    have hle := h.trans hr'
    rw [sqLength, sqLength, zero_add] at hle
    linarith
  rw [mul_pow, mul_pow] at hxr
  have hpos : 0 < cos t ^ 2 := by positivity
  exact abs_le_of_sq_le_sq (le_of_mul_le_mul_right hxr hpos) hr

/-! ### Other parallels -/

/-- Some small step saves more than it costs. -/
theorem exists_saving (hδ : 0 < δ) (hr : 0 < r) (hφ : |φ| < π / 2) (h : φ ≠ 0 ∨ 2 * k < r)
    (hk : 0 < k) : ∃ t, |t| < δ ∧ sqLength k φ r t < (r * cos φ) ^ 2 := by
  -- it is enough to find a direction in which the saving is positive close to zero
  suffices hdir : ∃ a : ℝ, ∀ᶠ s in 𝓝[>] (0 : ℝ),
      0 < s * a * (r ^ 2 * sin (2 * φ + s * a) * sinc (s * a) - 4 * k ^ 2 * (s * a)) by
    obtain ⟨a, ha⟩ := hdir
    have hcont : Continuous fun s : ℝ => |s * a| := by fun_prop
    have hsmall : ∀ᶠ s in 𝓝[>] (0 : ℝ), |s * a| < δ :=
      ((hcont.tendsto 0).eventually_lt_const (by simpa using hδ)).filter_mono nhdsWithin_le_nhds
    obtain ⟨s, hs, hlt⟩ := (ha.and hsmall).exists
    rw [← saving_eq, sub_pos] at hs
    exact ⟨s * a, hlt, hs⟩
  rcases eq_or_ne φ 0 with rfl | hne
  · -- on the equator the saving is of the second order
    have hlt : 2 * k < r := h.resolve_left fun h => h rfl
    have hcont : Continuous fun s : ℝ => r ^ 2 * sinc s ^ 2 - (2 * k) ^ 2 := by
      fun_prop
    have hpos : 0 < r ^ 2 * sinc 0 ^ 2 - (2 * k) ^ 2 := by
      rw [sinc_zero, one_pow, mul_one, sub_pos]
      gcongr
    refine ⟨1, ?_⟩
    filter_upwards [((hcont.tendsto 0).eventually_const_lt hpos).filter_mono nhdsWithin_le_nhds,
      self_mem_nhdsWithin] with s hs hs0
    rw [mul_one, mul_zero, zero_add, sin_eq_mul_sinc s]
    calc 0 < s ^ 2 * (r ^ 2 * sinc s ^ 2 - (2 * k) ^ 2) := mul_pos (pow_pos hs0 2) hs
      _ = s * (r ^ 2 * (s * sinc s) * sinc s - 4 * k ^ 2 * s) := by ring
  · -- elsewhere it is of the first order, towards the nearer pole
    set a := r ^ 2 * sin (2 * φ) with ha
    have ha0 : a ≠ 0 := by
      have hsin : sin (2 * φ) ≠ 0 := by
        obtain ⟨hlo, hhi⟩ := abs_lt.mp hφ
        rcases hne.lt_or_gt with hneg | hpos
        · exact (sin_neg_of_neg_of_neg_pi_lt (by linarith) (by linarith)).ne
        · exact (sin_pos_of_pos_of_lt_pi (by linarith) (by linarith)).ne'
      exact mul_ne_zero (by positivity) hsin
    have hcont : Continuous fun s : ℝ =>
        a * (r ^ 2 * sin (2 * φ + s * a) * sinc (s * a) - 4 * k ^ 2 * (s * a)) := by
      fun_prop
    have hpos : 0 < a * (r ^ 2 * sin (2 * φ + 0 * a) * sinc (0 * a) - 4 * k ^ 2 * (0 * a)) := by
      rw [zero_mul, add_zero, sinc_zero, mul_one, mul_zero, sub_zero, ← ha]
      exact mul_self_pos.mpr ha0
    refine ⟨a, ?_⟩
    filter_upwards [((hcont.tendsto 0).eventually_const_lt hpos).filter_mono nhdsWithin_le_nhds,
      self_mem_nhdsWithin] with s hs hs0
    rw [mul_assoc]
    exact mul_pos hs0 hs

/-- A displacement that is shorter than `r` can be made wider. -/
theorem exists_wider (hw : x < w) (h : sqLength k φ x t < r ^ 2) :
    ∃ y, x < y ∧ y < w ∧ sqLength k φ y t < r ^ 2 := by
  have hlt := ((continuous_sqLength k φ t).tendsto x).eventually_lt_const h
  obtain ⟨y, ⟨hy, hyw⟩, hxy⟩ := ((hlt.filter_mono nhdsWithin_le_nhds).and
    ((eventually_lt_nhds hw).filter_mono nhdsWithin_le_nhds)).and
      (self_mem_nhdsWithin (s := Set.Ioi x)) |>.exists
  exact ⟨y, hxy, hyw, hy⟩

end MidCosine
