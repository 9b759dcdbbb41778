import Mathlib.Algebra.BigOperators.Group.List.Lemmas
import Mathlib.Tactic.Linarith
import WatershedDelineation.General.EvenOdd
import WatershedDelineation.General.FuelLoop
import WatershedDelineation.Raster.Grid

/-!
# The scan-line rasterizer

`rasterizeMultiPolygon` is the even-odd scan-line fill of `algo/rasterize.rs`. Its law is
`rasterizeMultiPolygon_spec`: on a grid with columns it returns one boolean per cell, true
exactly when an odd number of ring edges cross the cell's centre line at or left of its centre
(`crossings`). A ring counts the same in either direction (`crossings_reverse`).
-/

namespace WatershedDelineation

open ClosedWalk EvenOdd

/-- All ring vertices in pixel space, as (row, column), with a sentinel after every ring. The
sentinel is the pair of NaNs of the source, here `none`. -/
def collectAllVertices (multiPolygon : MultiPolygon) (geo : GeoTransform) :
    List (Option (ℚ × ℚ)) :=
  multiPolygon.flatMap fun polygon => polygon.rings.flatMap fun ring =>
    (ring.map geo.coordToPixelF64).map some ++ [none]

/-- Where an edge crosses the scan line, if it does; an edge that touches a sentinel does
not. The lower end of an edge is excluded and its upper end included. -/
def intersection (scanY : ℚ) : Option (ℚ × ℚ) × Option (ℚ × ℚ) → Option ℚ
  | (some (y0, x0), some (y1, x1)) =>
    let bounds := if y0 ≤ y1 then (y0, y1) else (y1, y0)
    if scanY ≤ bounds.1 ∨ scanY > bounds.2 then none
    else
      let t := (scanY - y0) / (y1 - y0)
      some (x0 + t * (x1 - x0))
  | _ => none

/-- The first column whose centre is not left of `x`, clamped to the row. -/
def columnBound (x : ℚ) (cols : ℕ) : ℕ := min (max ⌈x - 1 / 2⌉ 0).toNat cols

/-- Set the cells from `colStart` up to `colEnd`. -/
def setCells (colStart colEnd : ℕ) (rowCells : List Bool) : List Bool :=
  rowCells.mapIdx fun c cell => if colStart ≤ c ∧ c < colEnd then true else cell

/-- Fill a single scan-line row using the even-odd rule across all rings. -/
def fillRowMulti (r cols : ℕ) (vertices : List (Option (ℚ × ℚ))) (rowCells : List Bool) :
    List Bool :=
  let scanY : ℚ := r + 1 / 2
  let intersections := ((steps vertices).filterMap (intersection scanY)).insertionSort (· ≤ ·)
  (pairs intersections).foldl
    (fun cells pair => setCells (columnBound pair.1 cols) (columnBound pair.2 cols) cells) rowCells

/-- Rasterize a multipolygon into a row-major boolean grid. Cutting the grid into rows of zero
columns panics. -/
def rasterizeMultiPolygon (multiPolygon : MultiPolygon) (geo : GeoTransform) (dims : GridDims) :
    Except (Fault Empty) (List Bool) :=
  let vertices := collectAllVertices multiPolygon geo
  if vertices.length < 2 then .ok (List.replicate (dims.rows * dims.cols) false)
  else if dims.cols = 0 then .error .panic
  else .ok ((List.range dims.rows).flatMap fun r =>
    fillRowMulti r dims.cols vertices (List.replicate dims.cols false))

/-- Rasterize a single polygon. -/
def rasterizePolygon (polygon : Polygon) (geo : GeoTransform) (dims : GridDims) :
    Except (Fault Empty) (List Bool) :=
  rasterizeMultiPolygon [polygon] geo dims

/-! ### Filling a row -/

section Row

variable {cols c : ℕ} {x : ℚ}

theorem columnBound_le_iff (hc : c < cols) : columnBound x cols ≤ c ↔ x ≤ c + 1 / 2 := by
  have hceil : ⌈x - 1 / 2⌉ ≤ (c : ℤ) ↔ x ≤ c + 1 / 2 := by
    rw [Int.ceil_le, Int.cast_natCast, sub_le_iff_le_add]
  rw [← hceil, columnBound]
  omega

theorem length_setCells (s e : ℕ) (cells : List Bool) :
    (setCells s e cells).length = cells.length :=
  List.length_mapIdx

theorem getD_setCells {s e : ℕ} {cells : List Bool} (hc : c < cells.length) :
    (setCells s e cells).getD c false = true ↔ (s ≤ c ∧ c < e) ∨ cells.getD c false = true := by
  rw [List.getD_eq_getElem _ _ (by rwa [length_setCells]), List.getD_eq_getElem _ _ hc]
  simp only [setCells, List.getElem_mapIdx]
  split_ifs with h <;> simp [h]

/-- A cell is set by a list of pairs when one of them covers it. -/
theorem foldl_setCells (ps : List (ℚ × ℚ)) {cells : List Bool} (hlen : cells.length = cols)
    (hc : c < cols) :
    let cells' := ps.foldl
      (fun cells pair => setCells (columnBound pair.1 cols) (columnBound pair.2 cols) cells) cells
    cells'.length = cols ∧
      (cells'.getD c false = true ↔
        (∃ pair ∈ ps, pair.1 ≤ (c : ℚ) + 1 / 2 ∧ (c : ℚ) + 1 / 2 < pair.2) ∨
          cells.getD c false = true) := by
  induction ps generalizing cells with
  | nil => exact ⟨hlen, by simp⟩
  | cons pair ps ih =>
    have hlen' := (length_setCells (columnBound pair.1 cols) (columnBound pair.2 cols) cells).trans
      hlen
    obtain ⟨hl, hiff⟩ := ih hlen'
    refine ⟨hl, ?_⟩
    rw [List.foldl_cons, hiff, getD_setCells (hlen ▸ hc), columnBound_le_iff hc, ← not_le,
      columnBound_le_iff hc, not_le]
    simp only [List.mem_cons, exists_eq_or_imp]
    exact or_left_comm.trans or_assoc.symm

end Row

/-! ### Crossings of rings -/

/-- The number of edges of a ring that cross the line `scanY` at or left of `p`. -/
def crossings (scanY p : ℚ) (ring : List (ℚ × ℚ)) : ℕ :=
  (steps ring).countP fun e => (intersection scanY (some e.1, some e.2)).any (· ≤ p)

/-- An edge crosses exactly when its ends lie on different sides, the line itself counting as
the upper side. -/
theorem isSome_intersection (scanY : ℚ) (a b : ℚ × ℚ) :
    (intersection scanY (some a, some b)).isSome
      = (decide (a.1 < scanY) != decide (b.1 < scanY)) := by
  obtain ⟨y0, x0⟩ := a
  obtain ⟨y1, x1⟩ := b
  simp only [intersection]
  by_cases hle : y0 ≤ y1 <;> by_cases h0 : y0 < scanY <;> by_cases h1 : y1 < scanY <;>
    simp [hle, h0, h1] <;> grind

theorem intersection_swap (scanY : ℚ) (a b : ℚ × ℚ) :
    intersection scanY (some b, some a) = intersection scanY (some a, some b) := by
  obtain ⟨y0, x0⟩ := a
  obtain ⟨y1, x1⟩ := b
  have hsome := isSome_intersection scanY (y0, x0) (y1, x1)
  by_cases hcross : decide (y0 < scanY) = decide (y1 < scanY)
  · have hnone : (intersection scanY (some (y0, x0), some (y1, x1))).isSome = false := by
      rw [hsome, hcross, bne_self_eq_false]
    have hnone' : (intersection scanY (some (y1, x1), some (y0, x0))).isSome = false := by
      rw [isSome_intersection, hcross, bne_self_eq_false]
    rw [Option.isSome_eq_false_iff, Option.isNone_iff_eq_none] at hnone hnone'
    rw [hnone, hnone']
  · -- the ends differ in height, and the point found does not depend on the direction
    have hne : y1 - y0 ≠ 0 := fun h => hcross (by rw [sub_eq_zero.mp h])
    have hne' : y0 - y1 ≠ 0 := fun h => hcross (by rw [sub_eq_zero.mp h])
    have hx : x1 + (scanY - y1) / (y0 - y1) * (x0 - x1)
        = x0 + (scanY - y0) / (y1 - y0) * (x1 - x0) := by
      field_simp
      ring
    have hbounds : (if y1 ≤ y0 then (y1, y0) else (y0, y1))
        = if y0 ≤ y1 then (y0, y1) else (y1, y0) := by
      have : y0 ≠ y1 := fun h => hne (by rw [h, sub_self])
      split_ifs with h1 h2 h2
      · exact absurd (le_antisymm h2 h1) this
      · rfl
      · rfl
      · exact absurd (le_of_not_ge h1) h2
    simp only [intersection, hx, hbounds]

/-- A ring counts the same in either direction. -/
theorem crossings_reverse (scanY p : ℚ) (ring : List (ℚ × ℚ)) :
    crossings scanY p ring.reverse = crossings scanY p ring := by
  rw [crossings, crossings, steps_reverse, List.countP_reverse, List.countP_map]
  refine List.countP_congr fun e _ => ?_
  simp only [Function.comp_apply, Prod.fst_swap, Prod.snd_swap, intersection_swap]

section Vertices

variable (scanY : ℚ)

private theorem filterMap_none_cons (l : List (Option (ℚ × ℚ))) :
    (steps (none :: l)).filterMap (intersection scanY)
      = (steps l).filterMap (intersection scanY) := by
  cases l with
  | nil => rfl
  | cons a l =>
    rw [steps_cons_cons, List.filterMap_cons]
    rfl

private theorem filterMap_concat_none (l : List (ℚ × ℚ)) :
    (steps (l.map some ++ [none])).filterMap (intersection scanY)
      = (steps l).filterMap fun e => intersection scanY (some e.1, some e.2) := by
  induction l with
  | nil => rfl
  | cons a l ih =>
    cases l with
    | nil => simp [intersection]
    | cons b l =>
      simp only [List.map_cons, List.cons_append, steps_cons_cons, List.filterMap_cons] at ih ⊢
      rw [ih]

/-- The sentinels keep the rings apart: the crossings of the whole vertex list are those of
the rings one after the other. -/
theorem filterMap_rings (rings : List (List (ℚ × ℚ))) :
    (steps (rings.flatMap fun ring => ring.map some ++ [none])).filterMap (intersection scanY)
      = rings.flatMap fun ring =>
          (steps ring).filterMap fun e => intersection scanY (some e.1, some e.2) := by
  induction rings with
  | nil => rfl
  | cons ring rings ih =>
    rw [List.flatMap_cons, List.append_assoc, List.singleton_append, steps_append_cons,
      List.filterMap_append, filterMap_none_cons, ih, filterMap_concat_none, List.flatMap_cons]

variable {scanY}

theorem countP_filterMap_intersection (p : ℚ) (rings : List (List (ℚ × ℚ))) :
    (rings.flatMap fun ring =>
        (steps ring).filterMap fun e => intersection scanY (some e.1, some e.2)).countP (· ≤ p)
      = (rings.map (crossings scanY p)).sum := by
  rw [List.countP_flatMap]
  refine congrArg List.sum (List.map_congr_left fun ring _ => ?_)
  rw [Function.comp_apply, List.countP_filterMap]
  refine List.countP_congr fun e _ => ?_
  cases intersection scanY (some e.1, some e.2) <;> rfl

/-- Closed rings cross a line an even number of times. -/
theorem even_length_intersections {rings : List (List (ℚ × ℚ))} (h : ∀ ring ∈ rings, Closed ring) :
    Even (rings.flatMap fun ring =>
      (steps ring).filterMap fun e => intersection scanY (some e.1, some e.2)).length := by
  induction rings with
  | nil => simp
  | cons ring rings ih =>
    rw [List.flatMap_cons, List.length_append]
    refine Even.add ?_ (ih fun r hr => h r (List.mem_cons_of_mem _ hr))
    rw [List.length_filterMap_eq_countP]
    simp only [isSome_intersection]
    exact (h ring (by simp)).even_countP fun v => decide (v.1 < scanY)

end Vertices

/-! ### The even-odd law -/

/-- All rings of a multipolygon, in pixel space. -/
def pixelRings (multiPolygon : MultiPolygon) (geo : GeoTransform) : List (List (ℚ × ℚ)) :=
  (multiPolygon.flatMap Polygon.rings).map (List.map geo.coordToPixelF64)

theorem closed_of_mem_pixelRings {multiPolygon : MultiPolygon} {geo : GeoTransform}
    {ring : List (ℚ × ℚ)} (h : ring ∈ pixelRings multiPolygon geo) : Closed ring := by
  obtain ⟨coords, hcoords, rfl⟩ := List.mem_map.mp h
  obtain ⟨polygon, -, hring⟩ := List.mem_flatMap.mp hcoords
  exact (Polygon.closed_of_mem_rings hring).map _

theorem collectAllVertices_eq (multiPolygon : MultiPolygon) (geo : GeoTransform) :
    collectAllVertices multiPolygon geo
      = (pixelRings multiPolygon geo).flatMap fun ring => ring.map some ++ [none] := by
  rw [collectAllVertices, pixelRings, List.flatMap_map, List.flatMap_assoc]

/-- **One row.** A cell of a row is filled exactly when an odd number of ring edges cross its
centre line at or left of its centre. -/
theorem getD_fillRowMulti {rings : List (List (ℚ × ℚ))} (hclosed : ∀ ring ∈ rings, Closed ring)
    (r : ℕ) {cols c : ℕ} (hc : c < cols) :
    (fillRowMulti r cols (rings.flatMap fun ring => ring.map some ++ [none])
        (List.replicate cols false)).getD c false = true ↔
      Odd ((rings.map (crossings (r + 1 / 2) (c + 1 / 2))).sum) := by
  obtain ⟨-, hfill⟩ := foldl_setCells
    (pairs (((steps (rings.flatMap fun ring => ring.map some ++ [none])).filterMap
      (intersection ((r : ℚ) + 1 / 2))).insertionSort (· ≤ ·)))
    (List.length_replicate (a := false)) hc
  simp only [fillRowMulti]
  rw [hfill, exists_pair_iff (List.pairwise_insertionSort _ _),
    (List.perm_insertionSort _ _).countP_eq, filterMap_rings, countP_filterMap_intersection]
  · simp
  · rw [List.length_insertionSort, filterMap_rings]
    exact even_length_intersections hclosed

theorem length_fillRowMulti (r cols : ℕ) (vertices : List (Option (ℚ × ℚ))) :
    (fillRowMulti r cols vertices (List.replicate cols false)).length = cols := by
  simp only [fillRowMulti]
  generalize pairs _ = ps
  have hlen : (List.replicate cols false).length = cols := List.length_replicate
  generalize List.replicate cols false = cells at hlen
  induction ps generalizing cells with
  | nil => exact hlen
  | cons pair ps ih => exact ih _ ((length_setCells _ _ _).trans hlen)

/-- **The even-odd law.** On a grid with columns the rasterizer returns one boolean per cell,
true exactly when an odd number of ring edges cross the cell's centre line at or left of its
centre. -/
theorem rasterizeMultiPolygon_spec (multiPolygon : MultiPolygon) (geo : GeoTransform)
    {dims : GridDims} (hcols : 0 < dims.cols) :
    ∃ data, rasterizeMultiPolygon multiPolygon geo dims = .ok data ∧
      data.length = dims.rows * dims.cols ∧
      ∀ cell, dims.Holds cell → (data.getD (dims.index cell) false = true ↔
        Odd (((pixelRings multiPolygon geo).map
          (crossings (cell.row + 1 / 2) (cell.col + 1 / 2))).sum)) := by
  simp only [rasterizeMultiPolygon]
  split_ifs with hshort hzero
  · refine ⟨_, rfl, List.length_replicate, fun cell _ => ?_⟩
    -- fewer than two vertices make no edge
    have hnil : steps (collectAllVertices multiPolygon geo) = [] := by
      match hv : collectAllVertices multiPolygon geo, hshort with
      | [], _ => rfl
      | [_], _ => rfl
      | _ :: _ :: _, h => exact absurd h (by simp)
    rw [← countP_filterMap_intersection, ← filterMap_rings, ← collectAllVertices_eq, hnil]
    simp
  · omega
  · refine ⟨_, rfl, ?_, fun cell hcell => ?_⟩
    · simp [List.length_flatMap, length_fillRowMulti]
    · rw [GridDims.index, RowMajor.getD_flatMap_range (fun r _ => length_fillRowMulti r _ _)
        hcell.1 hcell.2, collectAllVertices_eq]
      exact getD_fillRowMulti (fun _ => closed_of_mem_pixelRings) _ hcell.2

end WatershedDelineation
