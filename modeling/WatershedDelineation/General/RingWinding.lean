import Mathlib.Analysis.Convex.Segment
import Mathlib.Analysis.SpecialFunctions.Complex.Arg

/-!
# What a ring encloses

A ring is a closed list of points of the plane. A point sees every edge of it at an angle, and the
ring encloses the points on it and those around which these angles do not add up to zero.

A ring that has a point on the left of all its edges encloses it (`encloses_of_left`). A ring that
is on one side of a line through a point does not (`not_encloses_of_side`).
-/

namespace RingWinding

def cross (u v : ℝ × ℝ) : ℝ := u.1 * v.2 - u.2 * v.1

def dot (u v : ℝ × ℝ) : ℝ := u.1 * v.1 + u.2 * v.2

noncomputable section

/-- The angle at which a point sees an edge. -/
def angle (p a b : ℝ × ℝ) : ℝ :=
  Complex.arg (⟨b.1 - p.1, b.2 - p.2⟩ / ⟨a.1 - p.1, a.2 - p.2⟩)

/-- The sum of the angles at which a point sees the edges of a path. -/
def turn (p : ℝ × ℝ) : List (ℝ × ℝ) → ℝ
  | [] => 0
  | [_] => 0
  | a :: b :: path => angle p a b + turn p (b :: path)

end

/-- A closed ring encloses the points on it and those that it turns around. -/
def Encloses (ring : List (ℝ × ℝ)) (p : ℝ × ℝ) : Prop :=
  ring.head? = ring.getLast? ∧
    ((∃ edge ∈ ring.zip ring.tail, p ∈ segment ℝ edge.1 edge.2) ∨ turn p ring ≠ 0)

variable {p a b u : ℝ × ℝ} {ring : List (ℝ × ℝ)}

/-- An edge is seen at a positive angle from its left. -/
theorem angle_pos (h : 0 < cross (a - p) (b - p)) : 0 < angle p a b := by
  have hcross : 0 < (b.2 - p.2) * (a.1 - p.1) - (b.1 - p.1) * (a.2 - p.2) := by
    have hdef : cross (a - p) (b - p) = (a.1 - p.1) * (b.2 - p.2) - (a.2 - p.2) * (b.1 - p.1) := rfl
    rw [hdef] at h
    linarith
  have hne : (⟨a.1 - p.1, a.2 - p.2⟩ : ℂ) ≠ 0 := by
    intro hzero
    obtain ⟨hre, him⟩ := Complex.ext_iff.mp hzero
    dsimp only [Complex.zero_re, Complex.zero_im] at hre him
    rw [hre, him, mul_zero, mul_zero, sub_zero] at hcross
    exact lt_irrefl _ hcross
  have him : 0 < (⟨b.1 - p.1, b.2 - p.2⟩ / ⟨a.1 - p.1, a.2 - p.2⟩ : ℂ).im := by
    rw [Complex.div_im, ← sub_div]
    exact div_pos hcross (Complex.normSq_pos.mpr hne)
  refine lt_of_le_of_ne (Complex.arg_nonneg_iff.mpr him.le) fun hzero => ?_
  exact him.ne' (Complex.arg_eq_zero_iff.mp hzero.symm).2

theorem turn_pos (hlength : 2 ≤ ring.length)
    (h : ring.IsChain fun a b => 0 < cross (a - p) (b - p)) : 0 < turn p ring := by
  induction ring using turn.induct with
  | case1 => cases hlength
  | case2 a => exact absurd hlength (Nat.lt_irrefl 1)
  | case3 a b path ih =>
    rw [List.isChain_cons_cons] at h
    rw [turn]
    cases path with
    | nil => exact add_pos_of_pos_of_nonneg (angle_pos h.1) le_rfl
    | cons c path => exact add_pos (angle_pos h.1) (ih (by simp) h.2)

/-- **A ring encloses what is on the left of all its edges.** -/
theorem encloses_of_left (hclosed : ring.head? = ring.getLast?) (hlength : 2 ≤ ring.length)
    (h : ring.IsChain fun a b => 0 < cross (a - p) (b - p)) : Encloses ring p :=
  ⟨hclosed, .inr (turn_pos hlength h).ne'⟩

private theorem arg_div_of_re_pos {z w : ℂ} (hz : 0 < z.re) (hw : 0 < w.re) :
    Complex.arg (w / z) = Complex.arg w - Complex.arg z := by
  have hz0 : z ≠ 0 := fun hzero => by simp [hzero] at hz
  have hw0 : w ≠ 0 := fun hzero => by simp [hzero] at hw
  have hzarg := abs_lt.mp (Complex.abs_arg_lt_pi_div_two_iff.mpr (.inl hz))
  have hwarg := abs_lt.mp (Complex.abs_arg_lt_pi_div_two_iff.mpr (.inl hw))
  have hpi := Real.pi_pos
  have hinv : Complex.arg z⁻¹ = -Complex.arg z := by
    rw [Complex.arg_inv, if_neg]
    intro heq
    linarith
  rw [div_eq_mul_inv, Complex.arg_mul hw0 (inv_ne_zero hz0), hinv, sub_eq_add_neg]
  rw [hinv]
  exact ⟨by linarith, by linarith⟩

/-- The angle between a direction and a point seen from another. -/
private noncomputable def bearing (u p a : ℝ × ℝ) : ℝ :=
  Complex.arg ⟨dot u (a - p), cross u (a - p)⟩

private theorem angle_eq_sub (ha : 0 < dot u (a - p)) (hb : 0 < dot u (b - p)) :
    angle p a b = bearing u p b - bearing u p a := by
  have hmul (c : ℝ × ℝ) : (⟨u.1, -u.2⟩ * ⟨c.1 - p.1, c.2 - p.2⟩ : ℂ)
      = ⟨dot u (c - p), cross u (c - p)⟩ := by
    apply Complex.ext <;> simp [dot, cross]
    ring
  have hu : (⟨u.1, -u.2⟩ : ℂ) ≠ 0 := by
    intro hzero
    have hre := congrArg Complex.re (hmul a)
    rw [hzero, zero_mul, Complex.zero_re] at hre
    exact ha.ne hre
  rw [angle, ← mul_div_mul_left _ _ hu, hmul, hmul]
  exact arg_div_of_re_pos ha hb

private theorem turn_eq_sub (h : ∀ a ∈ ring, 0 < dot u (a - p)) {first last : ℝ × ℝ}
    (hfirst : ring.head? = some first) (hlast : ring.getLast? = some last) :
    turn p ring = bearing u p last - bearing u p first := by
  induction ring using turn.induct generalizing first with
  | case1 => cases hfirst
  | case2 a =>
    obtain rfl := Option.some.inj hfirst
    have heq : a = last := Option.some.inj hlast
    rw [heq, sub_self]
    rfl
  | case3 a b path ih =>
    obtain rfl := Option.some.inj hfirst
    rw [List.getLast?_cons_cons] at hlast
    rw [List.forall_mem_cons] at h
    rw [turn, angle_eq_sub h.1 (h.2 b List.mem_cons_self), ih h.2 rfl hlast]
    ring

/-- **A ring encloses nothing beyond a line** that all of it is on one side of. -/
theorem not_encloses_of_side (h : ∀ a ∈ ring, 0 < dot u (a - p)) : ¬Encloses ring p := by
  rintro ⟨hclosed, ⟨edge, hedge, hp⟩ | hturn⟩
  · obtain ⟨hfst, hsnd⟩ := List.of_mem_zip hedge
    obtain ⟨s, t, hs, ht, hst, heq⟩ := hp
    -- the edge is on the side too
    have hside : dot u (p - p) = s * dot u (edge.1 - p) + t * dot u (edge.2 - p) := by
      nth_rewrite 1 [← heq]
      have hp : p = s • p + t • p := by rw [← add_smul, hst, one_smul]
      nth_rewrite 1 [hp]
      simp only [dot, Prod.fst_sub, Prod.snd_sub, Prod.fst_add, Prod.snd_add, Prod.smul_fst,
        Prod.smul_snd, smul_eq_mul]
      ring
    have hzero : dot u (p - p) = 0 := by simp [dot]
    have hfirst := h _ hfst
    have hsecond := h _ (List.mem_of_mem_tail hsnd)
    rw [hzero] at hside
    rcases hs.eq_or_lt with rfl | hspos
    · rw [zero_add] at hst
      rw [hst, zero_mul, zero_add, one_mul] at hside
      exact hsecond.ne hside
    · exact (add_pos_of_pos_of_nonneg (mul_pos hspos hfirst)
        (mul_nonneg ht hsecond.le)).ne hside
  · cases hring : ring with
    | nil => exact hturn (hring ▸ rfl)
    | cons a path =>
      have hfirst : ring.head? = some a := by rw [hring, List.head?_cons]
      rw [turn_eq_sub h hfirst (hclosed ▸ hfirst), sub_self] at hturn
      exact hturn rfl

end RingWinding
