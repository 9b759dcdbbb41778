import Mathlib.Algebra.BigOperators.Group.List.Lemmas
import Mathlib.Algebra.BigOperators.Ring.Finset
import Mathlib.Algebra.BigOperators.Ring.List
import Mathlib.Tactic.Linarith
import Mathlib.Tactic.Ring
import WatershedDelineation.General.ClosedWalk

/-!
# Winding numbers of lattice rings

Rings of unit steps on the integer lattice, points written (row, column) with rows growing
downwards. The cell `(i, j)` is the unit square with corners `(i, j)` and `(i + 1, j + 1)`;
`side p d` is the directed edge along side `d` of the cell `p` that has `p` on its right.

`wind ring p` counts the signed crossings of a ring to the left of the cell `p`. Crossing one
edge changes it by the number of times the ring uses the edge (`wind_sub_nbr`), it vanishes
outside the ring, and summed over all cells it is the signed area (`two_mul_sum_wind`).
-/

namespace LatticeRing

open ClosedWalk

/-- Lattice points and cells, as (row, column). -/
abbrev Point := ℤ × ℤ

/-- The sides of a cell. -/
inductive Side
  | top
  | right
  | bottom
  | left
  deriving DecidableEq

/-- The side after `d` when walking around a cell clockwise. -/
def Side.next : Side → Side
  | top => right
  | right => bottom
  | bottom => left
  | left => top

/-- The side facing `d`. -/
def Side.opposite : Side → Side
  | top => bottom
  | right => left
  | bottom => top
  | left => right

/-- The cell across a side. -/
def nbr (p : Point) : Side → Point
  | .top => (p.1 - 1, p.2)
  | .right => (p.1, p.2 + 1)
  | .bottom => (p.1 + 1, p.2)
  | .left => (p.1, p.2 - 1)

/-- The directed edge along a side of the cell `p`, with `p` on its right. -/
def side (p : Point) : Side → Point × Point
  | .top => (p, (p.1, p.2 + 1))
  | .right => ((p.1, p.2 + 1), (p.1 + 1, p.2 + 1))
  | .bottom => ((p.1 + 1, p.2 + 1), (p.1 + 1, p.2))
  | .left => ((p.1 + 1, p.2), p)

@[simp] theorem nbr_nbr_opposite (p : Point) (d : Side) : nbr (nbr p d) d.opposite = p := by
  cases d <;> simp [nbr, Side.opposite]

theorem side_injective {p p' : Point} {d d' : Side} (h : side p d = side p' d') :
    p = p' ∧ d = d' := by
  obtain ⟨i, j⟩ := p
  obtain ⟨i', j'⟩ := p'
  cases d <;> cases d' <;> simp only [side, Prod.mk.injEq] at h ⊢ <;>
    first | exact ⟨⟨by omega, by omega⟩, trivial⟩ | (exfalso; omega)

/-! ### Winding numbers -/

/-- The signed crossing of an edge seen from a cell: `1` for an upward edge of the cell's row
to its left, `-1` for a downward one. -/
def cross (e : Point × Point) (q : Point) : ℤ :=
  if e.1.2 ≤ q.2 then (if q.1 < e.1.1 then 1 else 0) - (if q.1 < e.2.1 then 1 else 0) else 0

/-- The winding number of a ring around a cell. -/
def wind (ring : List Point) (q : Point) : ℤ := ((steps ring).map fun e => cross e q).sum

/-- A list of unit lattice steps. -/
def Unit (ring : List Point) : Prop := ∀ e ∈ steps ring, ∃ p d, e = side p d

theorem sum_map_sub {α : Type*} (f g : α → ℤ) (l : List α) :
    (l.map fun a => f a - g a).sum = (l.map f).sum - (l.map g).sum := by
  induction l with
  | nil => rfl
  | cons a l ih =>
    rw [List.map_cons, List.sum_cons, ih, List.map_cons, List.sum_cons, List.map_cons,
      List.sum_cons]
    ring

theorem sum_ite_eq_count {α : Type*} [BEq α] [LawfulBEq α] [DecidableEq α] (l : List α) (x : α) :
    (l.map fun e => if e = x then (1 : ℤ) else 0).sum = l.count x := by
  induction l with
  | nil => rfl
  | cons a l ih =>
    rw [List.map_cons, List.sum_cons, ih, List.count_cons]
    by_cases h : a = x <;> simp [h, add_comm]

/-- Both crossings of the two directed edges on one grid line, as counted by a difference of
winding numbers across it. -/
private theorem cross_sub_left (e : Point × Point) (h : ∃ p d, e = side p d) (q : Point) :
    cross e q - cross e (nbr q .left)
      = (if e = side q .left then 1 else 0) - (if e = side (nbr q .left) .right then 1 else 0) := by
  obtain ⟨⟨i, j⟩, d, rfl⟩ := h
  obtain ⟨i', j'⟩ := q
  cases d <;> simp only [cross, side, nbr, Prod.mk.injEq] <;> grind

private theorem cross_sub_top (e : Point × Point) (h : ∃ p d, e = side p d) (q : Point) :
    cross e q - cross e (nbr q .top)
      = ((if e.2.1 = q.1 ∧ e.2.2 ≤ q.2 then 1 else 0)
          - (if e.1.1 = q.1 ∧ e.1.2 ≤ q.2 then 1 else 0))
        + ((if e = side q .top then 1 else 0)
          - (if e = side (nbr q .top) .bottom then 1 else 0)) := by
  obtain ⟨⟨i, j⟩, d, rfl⟩ := h
  obtain ⟨i', j'⟩ := q
  cases d <;> simp only [cross, side, nbr, Prod.mk.injEq] <;> grind

section Ring

variable {ring : List Point}

private theorem wind_sub (q q' : Point) :
    wind ring q - wind ring q' = ((steps ring).map fun e => cross e q - cross e q').sum :=
  (sum_map_sub ..).symm

private theorem wind_sub_left (hunit : Unit ring) (q : Point) :
    wind ring q - wind ring (nbr q .left)
      = (steps ring).count (side q .left) - (steps ring).count (side (nbr q .left) .right) := by
  rw [wind_sub, ← sum_ite_eq_count, ← sum_ite_eq_count, ← sum_map_sub]
  exact congrArg List.sum (List.map_congr_left fun e he => cross_sub_left e (hunit e he) q)

private theorem wind_sub_top (hclosed : Closed ring) (hunit : Unit ring) (q : Point) :
    wind ring q - wind ring (nbr q .top)
      = (steps ring).count (side q .top) - (steps ring).count (side (nbr q .top) .bottom) := by
  rw [wind_sub, ← sum_ite_eq_count, ← sum_ite_eq_count, ← sum_map_sub,
    congrArg List.sum (List.map_congr_left fun e he => cross_sub_top e (hunit e he) q),
    List.sum_map_add,
    hclosed.sum_eq_zero fun v : Point => if v.1 = q.1 ∧ v.2 ≤ q.2 then (1 : ℤ) else 0, zero_add]

/-- **The jump across an edge.** From a cell to the cell across one of its sides the winding
number drops by the number of times the ring walks along that side with the cell on its
right, less the number of times it walks the other way. -/
theorem wind_sub_nbr (hclosed : Closed ring) (hunit : Unit ring) (p : Point) (d : Side) :
    wind ring p - wind ring (nbr p d)
      = (steps ring).count (side p d) - (steps ring).count (side (nbr p d) d.opposite) := by
  cases d with
  | left => exact wind_sub_left hunit p
  | top => exact wind_sub_top hclosed hunit p
  | right =>
    have h := wind_sub_left hunit (nbr p .right)
    have hback : nbr (nbr p .right) .left = p := nbr_nbr_opposite p .right
    rw [hback] at h
    simp only [Side.opposite]
    linarith
  | bottom =>
    have h := wind_sub_top hclosed hunit (nbr p .bottom)
    have hback : nbr (nbr p .bottom) .top = p := nbr_nbr_opposite p .bottom
    rw [hback] at h
    simp only [Side.opposite]
    linarith

/-- A ring that winds around a cell has a point that is neither below nor right of it. -/
theorem exists_mem_of_wind_ne_zero (hunit : Unit ring) {q : Point} (h : wind ring q ≠ 0) :
    ∃ u ∈ ring, u.1 ≤ q.1 ∧ u.2 ≤ q.2 := by
  by_contra hall
  push Not at hall
  refine h (List.sum_eq_zero fun x hx => ?_)
  obtain ⟨e, he, rfl⟩ := List.mem_map.mp hx
  have h₁ := hall e.1 (mem_of_mem_steps he).1
  have h₂ := hall e.2 (mem_of_mem_steps he).2
  obtain ⟨⟨i, j⟩, d, rfl⟩ := hunit e he
  cases d <;> simp only [cross, side] at h₁ h₂ ⊢ <;> grind

/-- A ring that winds around a cell reaches below it and to its right. -/
theorem exists_lt_of_wind_ne_zero (hclosed : Closed ring) {q : Point} (h : wind ring q ≠ 0) :
    (∃ u ∈ ring, q.1 < u.1) ∧ ∃ u ∈ ring, q.2 < u.2 := by
  refine ⟨by_contra fun hall => h ?_, by_contra fun hall => h ?_⟩
  · push Not at hall
    refine List.sum_eq_zero fun x hx => ?_
    obtain ⟨e, he, rfl⟩ := List.mem_map.mp hx
    have h₁ := hall e.1 (mem_of_mem_steps he).1
    have h₂ := hall e.2 (mem_of_mem_steps he).2
    rw [cross, if_neg h₁.not_gt, if_neg h₂.not_gt, sub_self, ite_self]
  · -- all edges count, and their signed crossings cancel around the ring
    push Not at hall
    have hcross : ∀ e ∈ steps ring, cross e q
        = (if q.1 < e.1.1 then (1 : ℤ) else 0) - if q.1 < e.2.1 then 1 else 0 :=
      fun e he => if_pos (hall e.1 (mem_of_mem_steps he).1)
    have hzero := hclosed.sum_eq_zero fun v : Point => if q.1 < v.1 then (1 : ℤ) else 0
    rw [wind, congrArg List.sum (List.map_congr_left hcross), sum_map_sub]
    rw [sum_map_sub] at hzero
    linarith

/-! ### Area -/

/-- Twice the signed area of a ring: the shoelace sum, with columns as abscissae. -/
def doubleArea (ring : List Point) : ℤ :=
  ((steps ring).map fun e => e.1.2 * e.2.1 - e.2.2 * e.1.1).sum

private theorem sum_range_ite_lt (n : ℕ) {a : ℤ} (h₀ : 0 ≤ a) (hn : a ≤ n) :
    ∑ i ∈ Finset.range n, (if (i : ℤ) < a then (1 : ℤ) else 0) = a := by
  induction n with
  | zero => simp; omega
  | succ n ih =>
    rw [Finset.sum_range_succ]
    rcases hn.lt_or_eq with hlt | heq
    · rw [ih (by push_cast at hlt; omega), if_neg (by push_cast at hlt; omega), add_zero]
    · have hsum : ∑ i ∈ Finset.range n, (if (i : ℤ) < a then (1 : ℤ) else 0)
          = ∑ i ∈ Finset.range n, 1 := by
        refine Finset.sum_congr rfl fun i hi => if_pos ?_
        have := Finset.mem_range.mp hi
        omega
      rw [hsum, if_pos (by push_cast at heq; omega)]
      simp [heq]

private theorem sum_range_ite_le (n : ℕ) {a : ℤ} (h₀ : 0 ≤ a) (hn : a ≤ n) :
    ∑ i ∈ Finset.range n, (if a ≤ (i : ℤ) then (1 : ℤ) else 0) = n - a := by
  have hflip : ∀ i : ℕ, (if a ≤ (i : ℤ) then (1 : ℤ) else 0) = 1 - if (i : ℤ) < a then 1 else 0 :=
    fun i => by grind
  simp only [hflip]
  rw [Finset.sum_sub_distrib, sum_range_ite_lt n h₀ hn]
  simp

private theorem sum_cross (rows cols : ℕ) {e : Point × Point}
    (h₁ : 0 ≤ e.1.1 ∧ e.1.1 ≤ rows) (h₂ : 0 ≤ e.2.1 ∧ e.2.1 ≤ rows)
    (h₃ : 0 ≤ e.1.2 ∧ e.1.2 ≤ cols) :
    ∑ i ∈ Finset.range rows, ∑ j ∈ Finset.range cols, cross e ((i : ℤ), (j : ℤ))
      = (cols - e.1.2) * (e.1.1 - e.2.1) := by
  have hterm : ∀ i j : ℕ, cross e ((i : ℤ), (j : ℤ))
      = (if e.1.2 ≤ (j : ℤ) then 1 else 0)
        * ((if (i : ℤ) < e.1.1 then 1 else 0) - (if (i : ℤ) < e.2.1 then 1 else 0)) := by
    intro i j
    simp only [cross]
    split_ifs <;> simp
  simp only [hterm, ← Finset.sum_mul]
  rw [← Finset.mul_sum, sum_range_ite_le cols h₃.1 h₃.2, Finset.sum_sub_distrib,
    sum_range_ite_lt rows h₁.1 h₁.2, sum_range_ite_lt rows h₂.1 h₂.2]

/-- **Area is the sum of winding numbers** over any box that holds the ring. -/
theorem two_mul_sum_wind (hclosed : Closed ring) (hunit : Unit ring) (rows cols : ℕ)
    (hbox : ∀ v ∈ ring, 0 ≤ v.1 ∧ v.1 ≤ rows ∧ 0 ≤ v.2 ∧ v.2 ≤ cols) :
    2 * ∑ i ∈ Finset.range rows, ∑ j ∈ Finset.range cols, wind ring ((i : ℤ), (j : ℤ))
      = doubleArea ring := by
  have hsum : ∑ i ∈ Finset.range rows, ∑ j ∈ Finset.range cols, wind ring ((i : ℤ), (j : ℤ))
      = ((steps ring).map fun e => ((cols : ℤ) - e.1.2) * (e.1.1 - e.2.1)).sum := by
    simp only [wind]
    have hswap : ∀ l : List (Point × Point),
        ∑ i ∈ Finset.range rows, ∑ j ∈ Finset.range cols,
          (l.map fun e => cross e ((i : ℤ), (j : ℤ))).sum
        = (l.map fun e =>
            ∑ i ∈ Finset.range rows, ∑ j ∈ Finset.range cols, cross e ((i : ℤ), (j : ℤ))).sum := by
      intro l
      induction l with
      | nil => simp
      | cons e l ih => simp [Finset.sum_add_distrib, ih]
    rw [hswap]
    refine congrArg List.sum (List.map_congr_left fun e he => ?_)
    have hv := hbox e.1 (mem_of_mem_steps he).1
    have hv' := hbox e.2 (mem_of_mem_steps he).2
    exact sum_cross rows cols ⟨hv.1, hv.2.1⟩ ⟨hv'.1, hv'.2.1⟩ hv.2.2
  -- per edge the two sides differ by a difference along the edge
  have hterm : ∀ e ∈ steps ring, e.1.2 * e.2.1 - e.2.2 * e.1.1
      = 2 * ((cols - e.1.2) * (e.1.1 - e.2.1))
        + ((2 * cols * e.2.1 - e.2.2 * e.2.1) - (2 * cols * e.1.1 - e.1.2 * e.1.1)) := by
    intro e he
    obtain ⟨⟨i, j⟩, d, rfl⟩ := hunit e he
    cases d <;> simp only [side] <;> ring
  rw [hsum, doubleArea, congrArg List.sum (List.map_congr_left hterm), List.sum_map_add,
    hclosed.sum_eq_zero fun v : Point => 2 * (cols : ℤ) * v.1 - v.2 * v.1, add_zero,
    List.sum_map_mul_left]

end Ring

end LatticeRing
