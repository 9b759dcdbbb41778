import Mathlib.Algebra.BigOperators.Intervals
import WatershedDelineation.Raster.PolygonizeSpec

/-!
# The areas of the rings of a mask

Ring assembly uses every boundary edge of a mask in exactly one ring, and the signed areas of the
rings, the holes being negative, add up to the number of cells (`sum_shoelaceArea`): the area of
a ring is the sum of its winding numbers, and around a cell all rings together wind once.
-/

namespace WatershedDelineation

open ClosedWalk LatticeRing

/-! ### Counting in tables -/

section Count

variable {T : Type*} {p : T → Bool} {d : T}

/-- The number of values with a property, value by value. -/
theorem countP_eq_sum_range (l : List T) :
    l.countP p = ∑ j ∈ Finset.range l.length, if p (l.getD j d) then 1 else 0 := by
  induction l with
  | nil => rfl
  | cons a l ih =>
    rw [List.countP_cons, ih, List.length_cons, Finset.sum_range_succ']
    simp

/-- The number of values with a property, row by row. -/
theorem countP_eq_sum_rows {rows cols : ℕ} (l : List T) (hl : l.length = rows * cols) :
    l.countP p = ∑ i ∈ Finset.range rows, ∑ j ∈ Finset.range cols,
      if p (l.getD (i * cols + j) d) then 1 else 0 := by
  rw [countP_eq_sum_range (d := d), hl]
  clear hl
  induction rows with
  | zero => simp
  | succ rows ih => rw [Nat.succ_mul, Finset.sum_range_add, ih, Finset.sum_range_succ]

end Count

/-- An element of distinct elements is in exactly one of the lists. -/
theorem countP_mem_eq_one {α : Type*} [DecidableEq α] {ls : List (List α)} {a : α}
    (hnodup : ls.flatten.Nodup) (ha : a ∈ ls.flatten) : ls.countP (a ∈ ·) = 1 := by
  induction ls with
  | nil => exact absurd ha List.not_mem_nil
  | cons l ls ih =>
    rw [List.flatten_cons, List.nodup_append] at hnodup
    rw [List.flatten_cons, List.mem_append] at ha
    rw [List.countP_cons]
    by_cases hl : a ∈ l
    · have hzero : ls.countP (a ∈ ·) = 0 := by
        rw [List.countP_eq_zero]
        intro l' hl' hmem
        exact hnodup.2.2 a hl a (List.mem_flatten.mpr ⟨l', hl', by simpa using hmem⟩) rfl
      simp [hzero, hl]
    · rw [ih hnodup.2.1 (ha.resolve_left hl)]
      simp [hl]

/-- The number of included cells, cell by cell. -/
theorem CatchmentMask.cellCount_eq (mask : CatchmentMask) : (mask.cellCount : ℤ)
    = ∑ i ∈ Finset.range mask.rows, ∑ j ∈ Finset.range mask.cols,
      if mask.Cell ((i : ℤ), (j : ℤ)) then 1 else 0 := by
  rw [cellCount, countP_eq_sum_rows (d := false) mask.data mask.length_data]
  push_cast
  refine Finset.sum_congr rfl fun i hi => Finset.sum_congr rfl fun j hj => ?_
  have hiff : mask.Cell ((i : ℤ), (j : ℤ)) ↔ mask.contains ⟨i, j⟩ = true := by
    rw [CatchmentMask.cell_iff]
    exact and_iff_right ⟨Finset.mem_range.mp hi, Finset.mem_range.mp hj⟩
  rw [if_congr hiff rfl rfl]
  rfl

section Areas

variable {mask : CatchmentMask} {rings : List (List Corner)}

namespace BoundaryRings

/-- Every boundary edge is a step of exactly one ring. -/
theorem countP_steps (h : BoundaryRings mask rings) {e : Corner × Corner}
    (he : e ∈ extractEdges mask) : rings.countP (fun ring => e ∈ steps ring) = 1 := by
  have hnodup : (rings.map steps).flatten.Nodup := h.perm.nodup_iff.mpr nodup_extractEdges
  have hcount := countP_mem_eq_one hnodup (h.perm.mem_iff.mpr he)
  rw [List.countP_map] at hcount
  exact (List.countP_congr fun ring _ => by simp).trans hcount

/-- A ring has a step. -/
theorem two_le_length (h : BoundaryRings mask rings) {ring : List Corner} (hring : ring ∈ rings) :
    2 ≤ ring.length := by
  obtain ⟨origin, d, rest, rem, rfl, -⟩ := h.assembled ring hring
  simp

theorem doubleArea_eq (h : BoundaryRings mask rings) {ring : List Corner} (hring : ring ∈ rings) :
    doubleArea (ringPoints ring) = 2 * ∑ i ∈ Finset.range mask.rows,
      ∑ j ∈ Finset.range mask.cols, wind (ringPoints ring) ((i : ℤ), (j : ℤ)) := by
  have hmem : ringPoints ring ∈ rings.map ringPoints := List.mem_map_of_mem hring
  refine (two_mul_sum_wind (h.family.closed _ hmem) (h.family.unit hmem) _ _ fun v hv => ?_).symm
  have hnn := h.family.nonneg_of_mem hmem hv
  have hle := h.le_of_mem hring v hv
  exact ⟨hnn.1, hle.1, hnn.2, hle.2⟩

/-- **The areas add up** to the number of cells. -/
theorem sum_doubleArea (h : BoundaryRings mask rings) :
    (rings.map fun ring => doubleArea (ringPoints ring)).sum = 2 * mask.cellCount := by
  have hswap : ∀ l : List (List Corner),
      (l.map fun ring => 2 * ∑ i ∈ Finset.range mask.rows, ∑ j ∈ Finset.range mask.cols,
          wind (ringPoints ring) ((i : ℤ), (j : ℤ))).sum
        = 2 * ∑ i ∈ Finset.range mask.rows, ∑ j ∈ Finset.range mask.cols,
          (l.map fun ring => wind (ringPoints ring) ((i : ℤ), (j : ℤ))).sum := by
    intro l
    induction l with
    | nil => simp
    | cons ring l ih => simp [ih, Finset.sum_add_distrib, mul_add]
  rw [List.map_congr_left fun ring hring => h.doubleArea_eq hring, hswap,
    CatchmentMask.cellCount_eq]
  congr 1
  refine Finset.sum_congr rfl fun i _ => Finset.sum_congr rfl fun j _ => ?_
  rw [← h.family.sum_wind, List.map_map]
  rfl

theorem sum_shoelaceArea (h : BoundaryRings mask rings) :
    (rings.map shoelaceArea).sum = mask.cellCount := by
  have hcast : ∀ l : List (List Corner), (∀ ring ∈ l, ring ∈ rings) →
      (l.map shoelaceArea).sum
        = (((l.map fun ring => doubleArea (ringPoints ring)).sum : ℤ) : ℚ) / 2 := by
    intro l hl
    induction l with
    | nil => simp
    | cons ring l ih =>
      rw [List.map_cons, List.sum_cons, List.map_cons, List.sum_cons,
        ih fun ring' hring' => hl ring' (List.mem_cons_of_mem _ hring'),
        shoelaceArea_eq (h.closed (hl ring List.mem_cons_self))]
      push_cast
      ring
  rw [hcast rings fun _ hring => hring, h.sum_doubleArea]
  push_cast
  rw [mul_div_cancel_left₀ _ two_ne_zero]

end BoundaryRings

/-- **Ring assembly of a mask** never misses a successor and ends; every boundary edge is a step of
exactly one ring and every step a boundary edge, every ring is closed, and the signed areas add up
to the number of cells. -/
theorem assembleRings_extractEdges (mask : CatchmentMask) :
    ∃ rings, assembleRings (extractEdges mask) = .ok rings ∧
      (rings.flatMap steps).Perm (extractEdges mask) ∧
      (∀ e ∈ extractEdges mask, rings.countP (fun ring => e ∈ steps ring) = 1) ∧
      (∀ ring ∈ rings, 2 ≤ ring.length ∧ Closed ring) ∧
      (rings.map shoelaceArea).sum = mask.cellCount := by
  obtain ⟨rings, hrings, h⟩ := exists_boundaryRings mask
  exact ⟨rings, hrings, h.perm, fun e he => h.countP_steps he,
    fun ring hring => ⟨h.two_le_length hring, h.closed hring⟩, h.sum_shoelaceArea⟩

end Areas

end WatershedDelineation
