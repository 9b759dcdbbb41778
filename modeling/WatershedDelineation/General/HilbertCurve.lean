import Mathlib.Algebra.Order.Ring.Nat
import Mathlib.Tactic.Common
import Mathlib.Tactic.Ring

/-!
# The Hilbert curve

The curve of order `n` visits the cells of a square of side `2 ^ n`. A square of the next order is
four squares, of which the curve runs through the lower left one mirrored, through the two upper
ones as it is, and through the lower right one mirrored at the other diagonal.

`index` is the position of a cell on the curve and `cell` the cell at a position; they are inverse
to each other (`index_cell`, `cell_index`), and the curve goes from a cell to a neighbour
(`shareEdge_cell_succ`). What makes the induction work is that the curve starts in the lower left
corner and ends in the lower right one (`cell_zero`, `cell_last`).
-/

namespace HilbertCurve

/-- The position of a cell on the curve of order `n`. -/
def index : ℕ → ℕ → ℕ → ℕ
  | 0, _, _ => 0
  | n + 1, x, y =>
    if x < 2 ^ n ∧ y < 2 ^ n then index n y x
    else if x < 2 ^ n then 4 ^ n + index n x (y - 2 ^ n)
    else if 2 ^ n ≤ y then 2 * 4 ^ n + index n (x - 2 ^ n) (y - 2 ^ n)
    else 3 * 4 ^ n + index n (2 ^ n - 1 - y) (2 ^ n - 1 - (x - 2 ^ n))

/-- A cell of a square of side `half`, in the given quadrant of a square twice as large. -/
def place (half : ℕ) (quadrant : ℕ) (p : ℕ × ℕ) : ℕ × ℕ :=
  match quadrant with
  | 0 => (p.2, p.1)
  | 1 => (p.1, p.2 + half)
  | 2 => (p.1 + half, p.2 + half)
  | _ => (half + (half - 1 - p.2), half - 1 - p.1)

/-- The cell at a position of the curve of order `n`. -/
def cell : ℕ → ℕ → ℕ × ℕ
  | 0, _ => (0, 0)
  | n + 1, d => place (2 ^ n) (d / 4 ^ n) (cell n (d % 4 ^ n))

/-- The cells of a square. -/
def InSquare (side : ℕ) (p : ℕ × ℕ) : Prop := p.1 < side ∧ p.2 < side

/-- Two cells have an edge in common. -/
def ShareEdge (p q : ℕ × ℕ) : Prop :=
  (p.1 = q.1 ∧ (p.2 + 1 = q.2 ∨ q.2 + 1 = p.2)) ∨ (p.2 = q.2 ∧ (p.1 + 1 = q.1 ∨ q.1 + 1 = p.1))

instance (p q : ℕ × ℕ) : Decidable (ShareEdge p q) := inferInstanceAs (Decidable (_ ∨ _))

variable {n d half quadrant x y : ℕ} {p q : ℕ × ℕ}

/-! ### Quadrants -/

@[simp] theorem place_zero : place half 0 p = (p.2, p.1) := rfl

@[simp] theorem place_one : place half 1 p = (p.1, p.2 + half) := rfl

@[simp] theorem place_two : place half 2 p = (p.1 + half, p.2 + half) := rfl

@[simp] theorem place_three : place half 3 p = (half + (half - 1 - p.2), half - 1 - p.1) := rfl

theorem inSquare_place (h : InSquare half p) : InSquare (2 * half) (place half quadrant p) := by
  simp only [InSquare] at h ⊢
  rcases quadrant with _ | _ | _ | quadrant <;> simp only [place] <;> omega

/-- Neighbours stay neighbours. -/
theorem shareEdge_place (hp : InSquare half p) (hq : InSquare half q) (h : ShareEdge p q) :
    ShareEdge (place half quadrant p) (place half quadrant q) := by
  simp only [InSquare, ShareEdge] at hp hq h ⊢
  rcases quadrant with _ | _ | _ | quadrant <;> simp only [place] <;> omega

/-- The last cell of a quadrant and the first one of the next have an edge in common. -/
theorem shareEdge_place_succ (hhalf : 0 < half) (h : quadrant < 3) :
    ShareEdge (place half quadrant (half - 1, 0)) (place half (quadrant + 1) (0, 0)) := by
  obtain rfl | rfl | rfl : quadrant = 0 ∨ quadrant = 1 ∨ quadrant = 2 := by omega
  · change ShareEdge (0, half - 1) (0, 0 + half)
    exact .inl ⟨rfl, .inl (by dsimp only; omega)⟩
  · change ShareEdge (half - 1, 0 + half) (0 + half, 0 + half)
    exact .inr ⟨rfl, .inl (by dsimp only; omega)⟩
  · change ShareEdge (half - 1 + half, 0 + half) (half + (half - 1 - 0), half - 1 - 0)
    exact .inl ⟨by dsimp only; omega, .inr (by dsimp only; omega)⟩

/-- Every cell of a square is in one of its quadrants. -/
theorem exists_place (h : InSquare (2 * half) q) :
    ∃ quadrant < 4, ∃ p, InSquare half p ∧ place half quadrant p = q := by
  obtain ⟨x, y⟩ := q
  simp only [InSquare] at h
  by_cases hx : x < half
  · by_cases hy : y < half
    · exact ⟨0, by decide, (y, x), ⟨hy, hx⟩, rfl⟩
    · refine ⟨1, by decide, (x, y - half), ⟨hx, by dsimp only; omega⟩, ?_⟩
      rw [place_one, Nat.sub_add_cancel (Nat.le_of_not_lt hy)]
  · by_cases hy : y < half
    · refine ⟨3, by decide, (half - 1 - y, half - 1 - (x - half)),
        ⟨by dsimp only; omega, by dsimp only; omega⟩, ?_⟩
      rw [place_three]
      exact Prod.ext (by dsimp only; omega) (by dsimp only; omega)
    · refine ⟨2, by decide, (x - half, y - half), ⟨by dsimp only; omega, by dsimp only; omega⟩, ?_⟩
      rw [place_two, Nat.sub_add_cancel (Nat.le_of_not_lt hx),
        Nat.sub_add_cancel (Nat.le_of_not_lt hy)]

/-! ### Cells and positions -/

private theorem two_mul_two_pow (n : ℕ) : 2 ^ (n + 1) = 2 * 2 ^ n := Nat.pow_succ'

theorem cell_succ (h : d < 4 ^ n) :
    cell (n + 1) (quadrant * 4 ^ n + d) = place (2 ^ n) quadrant (cell n d) := by
  have hpos : 0 < 4 ^ n := Nat.pow_pos (by decide)
  have hdiv : (quadrant * 4 ^ n + d) / 4 ^ n = quadrant := by
    rw [Nat.mul_comm, Nat.mul_add_div hpos, Nat.div_eq_of_lt h, Nat.add_zero]
  rw [cell, hdiv, Nat.mul_add_mod_of_lt h]

theorem index_place (hp : InSquare (2 ^ n) p) (hquadrant : quadrant < 4) :
    index (n + 1) (place (2 ^ n) quadrant p).1 (place (2 ^ n) quadrant p).2
      = quadrant * 4 ^ n + index n p.1 p.2 := by
  obtain ⟨x, y⟩ := p
  obtain ⟨hx, hy⟩ := hp
  dsimp only at hx hy
  obtain rfl | rfl | rfl | rfl :
    quadrant = 0 ∨ quadrant = 1 ∨ quadrant = 2 ∨ quadrant = 3 := by omega
  · rw [place_zero, index, if_pos ⟨hy, hx⟩, Nat.zero_mul, Nat.zero_add]
  · rw [place_one, index, if_neg (by omega), if_pos hx, Nat.one_mul, Nat.add_sub_cancel]
  · rw [place_two, index, if_neg (by omega), if_neg (by omega), if_pos (by omega),
      Nat.add_sub_cancel, Nat.add_sub_cancel]
  · -- the mirror image of the mirror image
    have hx' : 2 ^ n - 1 - (2 ^ n - 1 - x) = x := by omega
    have hy' : 2 ^ n - 1 - (2 ^ n + (2 ^ n - 1 - y) - 2 ^ n) = y := by omega
    rw [place_three, index, if_neg (by omega), if_neg (by omega), if_neg (by omega), hx', hy']

/-- Positions of a square divide into the positions of its quadrants. -/
theorem exists_position (h : d < 4 ^ (n + 1)) :
    ∃ quadrant < 4, ∃ e < 4 ^ n, quadrant * 4 ^ n + e = d := by
  have hpos : 0 < 4 ^ n := Nat.pow_pos (by decide)
  rw [Nat.pow_succ] at h
  exact ⟨d / 4 ^ n, Nat.div_lt_of_lt_mul h, d % 4 ^ n, Nat.mod_lt d hpos, Nat.div_add_mod' d _⟩

theorem inSquare_cell (h : d < 4 ^ n) : InSquare (2 ^ n) (cell n d) := by
  induction n generalizing d with
  | zero => exact ⟨Nat.one_pos, Nat.one_pos⟩
  | succ n ih =>
    obtain ⟨quadrant, -, e, he, rfl⟩ := exists_position h
    rw [cell_succ he, two_mul_two_pow]
    exact inSquare_place (ih he)

/-- **The position of the cell at a position.** -/
theorem index_cell (h : d < 4 ^ n) : index n (cell n d).1 (cell n d).2 = d := by
  induction n generalizing d with
  | zero => exact (Nat.lt_one_iff.mp h).symm
  | succ n ih =>
    obtain ⟨quadrant, hquadrant, e, he, rfl⟩ := exists_position h
    rw [cell_succ he, index_place (inSquare_cell he) hquadrant, ih he]

theorem index_lt_and_cell_index (hp : InSquare (2 ^ n) p) :
    index n p.1 p.2 < 4 ^ n ∧ cell n (index n p.1 p.2) = p := by
  induction n generalizing p with
  | zero =>
    refine ⟨Nat.one_pos, Prod.ext ?_ ?_⟩
    · exact (Nat.lt_one_iff.mp hp.1).symm
    · exact (Nat.lt_one_iff.mp hp.2).symm
  | succ n ih =>
    rw [two_mul_two_pow] at hp
    obtain ⟨quadrant, hquadrant, q, hq, rfl⟩ := exists_place hp
    obtain ⟨hlt, hcell⟩ := ih hq
    rw [index_place hq hquadrant, cell_succ hlt, hcell]
    refine ⟨?_, rfl⟩
    calc quadrant * 4 ^ n + index n q.1 q.2 < quadrant * 4 ^ n + 4 ^ n := Nat.add_lt_add_left hlt _
      _ = (quadrant + 1) * 4 ^ n := (Nat.succ_mul quadrant (4 ^ n)).symm
      _ ≤ 4 * 4 ^ n := Nat.mul_le_mul_right _ hquadrant
      _ = 4 ^ (n + 1) := Nat.pow_succ'.symm

theorem index_lt (hp : InSquare (2 ^ n) p) : index n p.1 p.2 < 4 ^ n :=
  (index_lt_and_cell_index hp).1

/-- **The cell at the position of a cell.** -/
theorem cell_index (hp : InSquare (2 ^ n) p) : cell n (index n p.1 p.2) = p :=
  (index_lt_and_cell_index hp).2

/-! ### The way of the curve -/

/-- The curve starts in the lower left corner. -/
theorem cell_zero (n : ℕ) : cell n 0 = (0, 0) := by
  induction n with
  | zero => rfl
  | succ n ih =>
    have hcell : cell (n + 1) 0 = place (2 ^ n) 0 (cell n 0) := by
      simpa using @cell_succ n 0 0 (Nat.pow_pos (by decide))
    rw [hcell, ih, place_zero]

/-- The curve ends in the lower right corner. -/
theorem cell_last (n : ℕ) : cell n (4 ^ n - 1) = (2 ^ n - 1, 0) := by
  induction n with
  | zero => rfl
  | succ n ih =>
    have hpos : 0 < 4 ^ n := Nat.pow_pos (by decide)
    have hhalf : 0 < 2 ^ n := Nat.two_pow_pos n
    have hlast : 4 ^ (n + 1) - 1 = 3 * 4 ^ n + (4 ^ n - 1) := by
      rw [Nat.pow_succ']
      omega
    rw [hlast, cell_succ (Nat.sub_lt hpos Nat.one_pos), ih, place_three, two_mul_two_pow]
    exact Prod.ext (by dsimp only; omega) (by dsimp only; omega)

/-- **The curve goes to a neighbour.** -/
theorem shareEdge_cell_succ (h : d + 1 < 4 ^ n) : ShareEdge (cell n d) (cell n (d + 1)) := by
  induction n generalizing d with
  | zero => exact absurd h (by omega)
  | succ n ih =>
    have hpos : 0 < 4 ^ n := Nat.pow_pos (by decide)
    obtain ⟨quadrant, hquadrant, e, he, rfl⟩ := exists_position (Nat.lt_of_succ_lt h)
    rcases Nat.lt_or_ge (e + 1) (4 ^ n) with hlt | hge
    · -- both cells are in one quadrant
      rw [Nat.add_assoc, cell_succ he, cell_succ hlt]
      exact shareEdge_place (inSquare_cell he) (inSquare_cell hlt) (ih hlt)
    · -- the curve leaves the quadrant
      obtain rfl : e = 4 ^ n - 1 := by omega
      have hnext : quadrant * 4 ^ n + (4 ^ n - 1) + 1 = (quadrant + 1) * 4 ^ n + 0 := by
        rw [Nat.succ_mul]
        omega
      have hlast : quadrant < 3 := by
        rw [hnext, Nat.pow_succ', Nat.add_zero] at h
        have := Nat.lt_of_mul_lt_mul_right h
        omega
      rw [hnext, cell_succ he, cell_succ hpos, cell_last, cell_zero]
      exact shareEdge_place_succ (Nat.two_pow_pos n) hlast

end HilbertCurve
