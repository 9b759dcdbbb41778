import Mathlib.Algebra.Ring.Int.Parity
import Mathlib.Data.Int.ModEq
import WatershedDelineation.Raster.PolygonizeSpec
import WatershedDelineation.Raster.Rasterize

/-!
# Rasterizing undoes polygonizing

The rings of the result of `polygonize` are the boundary rings of the mask, some of them
reversed. A lattice ring crosses the centre line of a cell, left of the cell's centre, as often
as it winds around the cell, up to an even number (`odd_crossings_iff`); all boundary rings
together wind once around every included cell and not at all around the others. So the
even-odd law gives the mask back (`exists_polygonize_rasterize`).
-/

namespace WatershedDelineation

open ClosedWalk LatticeRing

/-! ### Crossings of lattice rings -/

/-- A lattice point in pixel space. -/
def pixelOfPoint (v : Point) : ℚ × ℚ := (v.1, v.2)

/-- A pixel corner goes to native coordinates and back. -/
theorem map_coordToPixelF64_toGeoCoords {geo : GeoTransform} (hgeo : geo.Invertible)
    (ring : List Corner) :
    (toGeoCoords ring geo).map geo.coordToPixelF64 = (ringPoints ring).map pixelOfPoint := by
  rw [toGeoCoords_eq, ringPoints, List.map_map, List.map_map]
  refine List.map_congr_left fun v _ => ?_
  rw [Function.comp_apply, GeoTransform.coordToPixelF64_cornerCoord hgeo]
  simp [pixelOfPoint, Corner.point]

private theorem cast_lt_half_iff (n i : ℤ) : (n : ℚ) < i + 1 / 2 ↔ ¬i < n := by
  rw [not_lt, ← Int.lt_add_one_iff]
  constructor
  · intro h
    have : (n : ℚ) < ((i + 1 : ℤ) : ℚ) := by push_cast; linarith
    exact_mod_cast this
  · intro h
    have : (n : ℚ) ≤ i := by exact_mod_cast Int.lt_add_one_iff.mp h
    linarith

private theorem cast_le_half_iff (n j : ℤ) : (n : ℚ) ≤ j + 1 / 2 ↔ n ≤ j := by
  rw [← not_lt (a := j), ← cast_lt_half_iff]
  refine ⟨fun h => lt_of_le_of_ne h fun heq => ?_, le_of_lt⟩
  have : (2 * n : ℤ) = 2 * j + 1 := by
    have h2 : 2 * (n : ℚ) = 2 * j + 1 := by linarith
    exact_mod_cast h2
  omega

private theorem intersection_vertical (scanY y0 y1 x : ℚ) :
    intersection scanY (some (y0, x), some (y1, x))
      = if decide (y0 < scanY) != decide (y1 < scanY) then some x else none := by
  have hsome := isSome_intersection scanY (y0, x) (y1, x)
  have hval : ∀ z, intersection scanY (some (y0, x), some (y1, x)) = some z → z = x := by
    intro z hz
    simp only [intersection, sub_self, mul_zero, add_zero] at hz
    generalize (if y0 ≤ y1 then (y0, y1) else (y1, y0)) = bounds at hz
    split_ifs at hz
    exact (Option.some.inj hz).symm
  cases hcase : intersection scanY (some (y0, x), some (y1, x)) with
  | none =>
    rw [hcase] at hsome
    rw [← hsome]
    rfl
  | some z =>
    rw [hcase] at hsome
    rw [← hsome, hval z hcase]
    rfl

/-- The scan line through the centre of a cell meets an edge at or left of the centre exactly
when the edge crosses as seen from the cell. -/
theorem any_intersection_iff {e : Point × Point} (he : ∃ p d, e = side p d) (i j : ℤ) :
    (intersection (i + 1 / 2) (some (pixelOfPoint e.1), some (pixelOfPoint e.2))).any
      (· ≤ (j : ℚ) + 1 / 2) = decide (cross e (i, j) ≠ 0) := by
  have hvertical : ∀ a b n : ℤ, (intersection ((i : ℚ) + 1 / 2)
        (some (pixelOfPoint (a, n)), some (pixelOfPoint (b, n)))).any (· ≤ (j : ℚ) + 1 / 2)
      = decide (cross ((a, n), (b, n)) (i, j) ≠ 0) := by
    intro a b n
    have hcol : decide ((n : ℚ) ≤ j + 1 / 2) = decide (n ≤ j) :=
      decide_eq_decide.mpr (cast_le_half_iff n j)
    simp only [pixelOfPoint, intersection_vertical, cast_lt_half_iff, cross]
    by_cases ha : i < a <;> by_cases hb : i < b <;>
      simp only [ha, hb, not_true, not_false_iff, decide_true, decide_false, bne_self_eq_false,
        Bool.false_eq_true, Bool.bne_true, Bool.bne_false, Bool.not_false, if_true, if_false,
        Option.any_none, Option.any_some, hcol] <;> simp
  have hhorizontal : ∀ a m n : ℤ, (intersection ((i : ℚ) + 1 / 2)
        (some (pixelOfPoint (a, m)), some (pixelOfPoint (a, n)))).any (· ≤ (j : ℚ) + 1 / 2)
      = decide (cross ((a, m), (a, n)) (i, j) ≠ 0) := by
    intro a m n
    have hsome : (intersection ((i : ℚ) + 1 / 2)
        (some (pixelOfPoint (a, m)), some (pixelOfPoint (a, n)))).isSome = false :=
      (isSome_intersection _ _ _).trans (bne_self_eq_false _)
    rw [Option.isSome_eq_false_iff, Option.isNone_iff_eq_none] at hsome
    rw [hsome]
    simp [cross]
  obtain ⟨⟨a, b⟩, d, rfl⟩ := he
  cases d with
  | top => exact hhorizontal _ _ _
  | right => exact hvertical _ _ _
  | bottom => exact hhorizontal _ _ _
  | left => exact hvertical _ _ _

/-- **Crossings and winding.** Left of the centre of a cell, a lattice ring crosses the centre
line an odd number of times exactly when it winds an odd number of times around the cell. -/
theorem crossings_modEq_wind {ring : List Point} (hunit : Unit ring) (i j : ℤ) :
    (crossings (i + 1 / 2) (j + 1 / 2) (ring.map pixelOfPoint) : ℤ)
      ≡ wind ring (i, j) [ZMOD 2] := by
  rw [crossings, steps_map, List.countP_map, wind]
  have hstep : ∀ e ∈ steps ring, ∃ p d, e = side p d := hunit
  generalize steps ring = edges at hstep
  induction edges with
  | nil => rfl
  | cons e edges ih =>
    have he := any_intersection_iff (hstep e (by simp)) i j
    have hcross : (if cross e (i, j) ≠ 0 then (1 : ℤ) else 0) ≡ cross e (i, j) [ZMOD 2] := by
      simp only [cross, Int.ModEq]
      grind
    rw [List.countP_cons, List.map_cons, List.sum_cons, add_comm (cross e (i, j))]
    push_cast
    refine (ih fun e' he' => hstep e' (.tail _ he')).add ?_
    simp only [Function.comp_apply, Prod.map_fst, Prod.map_snd, he, decide_eq_true_eq]
    exact hcross

/-! ### Crossings of the result -/

section Result

variable {f : List NativeCoord → ℕ}

/-- A count that does not depend on the direction of rings, over the rings of one finished
polygon. -/
theorem sum_rings_finishPolygon (hf : ∀ ring, f ring.reverse = f ring) {polygon : Polygon}
    {holes : List (List NativeCoord)} (hholes : ∀ hole ∈ holes, Closed hole) :
    ((finishPolygon polygon holes).rings.map f).sum
      = f polygon.exterior + (holes.map f).sum := by
  have hext : f (LineString.close (orientExterior polygon.exterior)) = f polygon.exterior := by
    rw [orientExterior]
    split_ifs
    · rw [LineString.close_eq polygon.closed_exterior.reverse, hf]
    · rw [LineString.close_eq polygon.closed_exterior]
  have hhole : ∀ hole ∈ holes, f (LineString.close (orientHole hole)) = f hole := by
    intro hole hmem
    rw [orientHole]
    split_ifs
    · rw [LineString.close_eq (hholes hole hmem).reverse, hf]
    · rw [LineString.close_eq (hholes hole hmem)]
  simp only [finishPolygon, Polygon.new, Polygon.rings, List.map_cons, List.sum_cons, List.map_map]
  rw [hext]
  exact congrArg (f polygon.exterior + ·) (congrArg List.sum (List.map_congr_left hhole))

/-- The same count over all rings of the result. -/
theorem sum_rings_zipWith (hf : ∀ ring, f ring.reverse = f ring) (polygons : List Polygon)
    {holes : List (List (List NativeCoord))} (hlen : holes.length = polygons.length)
    (hholes : ∀ hole ∈ holes.flatten, Closed hole) :
    (((List.zipWith finishPolygon polygons holes).flatMap Polygon.rings).map f).sum
      = (polygons.map fun polygon => f polygon.exterior).sum + (holes.flatten.map f).sum := by
  induction polygons generalizing holes with
  | nil =>
    obtain rfl := List.length_eq_zero_iff.mp hlen
    rfl
  | cons polygon polygons ih =>
    match holes, hlen with
    | own :: holes, hlen =>
      have hown : ∀ hole ∈ own, Closed hole := fun hole hmem => hholes hole (by simp [hmem])
      have hrest : ∀ hole ∈ holes.flatten, Closed hole := fun hole hmem =>
        hholes hole (by
          rw [List.flatten_cons]
          exact List.mem_append_right _ hmem)
      rw [List.zipWith_cons_cons, List.flatMap_cons, List.map_append, List.sum_append,
        sum_rings_finishPolygon hf hown, ih (by simpa using hlen) hrest, List.flatten_cons,
        List.map_append, List.sum_append, List.map_cons, List.sum_cons]
      ring

end Result

section Mask

variable {contains : Polygon → NativeCoord → Bool} {mask : CatchmentMask} {geo : GeoTransform}

/-- All boundary rings together cross left of the centre of a cell an odd number of times
exactly when the cell is included. -/
theorem BoundaryRings.odd_crossings_iff {rings : List (List Corner)} (h : BoundaryRings mask rings)
    (cell : GridCoord) :
    Odd ((rings.map fun ring => crossings (cell.row + 1 / 2) (cell.col + 1 / 2)
      ((ringPoints ring).map pixelOfPoint)).sum) ↔ mask.Includes cell := by
  have hsum : (((rings.map fun ring => crossings (cell.row + 1 / 2) (cell.col + 1 / 2)
      ((ringPoints ring).map pixelOfPoint)).sum : ℕ) : ℤ)
      ≡ ((rings.map ringPoints).map fun A => wind A ((cell.row : ℤ), (cell.col : ℤ))).sum
        [ZMOD 2] := by
    have hunit : ∀ ring ∈ rings, Unit (ringPoints ring) := fun ring hring =>
      h.family.unit (List.mem_map_of_mem hring)
    clear h
    induction rings with
    | nil => rfl
    | cons ring rings ih =>
      have hring := crossings_modEq_wind (hunit ring (by simp)) cell.row cell.col
      rw [List.map_cons, List.sum_cons, List.map_cons, List.map_cons, List.sum_cons]
      push_cast at hring ⊢
      exact hring.add (by simpa using ih fun r hr => hunit r (.tail _ hr))
  rw [h.family.sum_wind] at hsum
  rw [← Int.odd_coe_nat, Int.odd_iff, hsum, ← CatchmentMask.cell_iff]
  split_ifs with hcell <;> simp [hcell]

/-- **Rasterizing undoes polygonizing.** -/
theorem exists_polygonize_rasterize (hcontains : ContainsIsStrict contains)
    (hgeo : geo.Invertible) (hmask : ∃ cell, mask.Includes cell) :
    ∃ multiPolygon, polygonize contains mask geo = .ok (some multiPolygon) ∧
      rasterizeMultiPolygon multiPolygon geo mask.dims = .ok mask.data := by
  obtain ⟨rings, holes, -, h, ha, hresult⟩ := exists_polygonize hcontains hgeo hmask
  refine ⟨_, hresult, ?_⟩
  obtain ⟨⟨row, col⟩, ⟨-, hcol⟩, -⟩ := hmask
  obtain ⟨data, hdata, hlength, hiff⟩ := rasterizeMultiPolygon_spec
    (finishedPolygons rings geo holes) geo (Nat.zero_lt_of_lt hcol)
  rw [hdata]
  have hcell : ∀ cell, mask.dims.Holds cell →
      (data.getD (mask.dims.index cell) false = true ↔ mask.Includes cell) := by
    intro cell hcell
    -- the direction of a ring does not matter, so all rings count as the boundary rings do
    let f : List NativeCoord → ℕ := fun ring =>
      crossings (cell.row + 1 / 2) (cell.col + 1 / 2) (ring.map geo.coordToPixelF64)
    have hf : ∀ ring, f ring.reverse = f ring := fun ring => by
      simp only [f, List.map_reverse, crossings_reverse]
    have hclosed : ∀ hole ∈ holes.flatten, Closed hole := by
      intro hole hhole
      obtain ⟨ring, hring, rfl⟩ := List.mem_map.mp (ha.perm.mem_iff.mp hhole)
      exact closed_toGeoCoords (h.closed (h.mem_holeRings.mp hring).1) geo
    have hexterior : (exteriorPolys rings geo).map (fun polygon => f polygon.exterior)
        = (exteriorRings rings).map fun ring => f (toGeoCoords ring geo) := by
      rw [exteriorPolys, List.map_map]
      refine List.map_congr_left fun ring hring => ?_
      have hring := closed_toGeoCoords (h.closed (h.mem_exteriorRings.mp hring).1) geo
      simp only [Function.comp_apply, Polygon.new, LineString.close_eq hring]
    have hsum : ((pixelRings (finishedPolygons rings geo holes) geo).map
          (crossings (cell.row + 1 / 2) (cell.col + 1 / 2))).sum
        = (rings.map fun ring => f (toGeoCoords ring geo)).sum := by
      rw [pixelRings, List.map_map, finishedPolygons]
      change (List.map f _).sum = _
      rw [sum_rings_zipWith hf _ (ha.length_eq.trans (by rw [exteriorPolys, List.length_map]))
        hclosed, hexterior, (ha.perm.map f).sum_eq, List.map_map, ← List.sum_append]
      change (List.map _ _ ++ List.map (fun ring => f (toGeoCoords ring geo)) _).sum = _
      rw [← List.map_append]
      exact ((BoundaryRings.perm_exteriors_holes rings).map _).sum_eq
    rw [hiff cell hcell, hsum, ← h.odd_crossings_iff cell]
    simp only [f, map_coordToPixelF64_toGeoCoords hgeo]
  refine congrArg Except.ok (ext_getD (d := false) hlength mask.length_data fun cell hholds => ?_)
  rw [Bool.eq_iff_iff, hcell cell hholds]
  exact and_iff_right hholds

/-- **Rasterizing undoes polygonizing** on every mask with a cell, and a mask without cells has
no polygons. -/
theorem rasterize_polygonize (hcontains : ContainsIsStrict contains) (mask : CatchmentMask)
    (hwidth : 0 < geo.pixelWidth) (hheight : geo.pixelHeight < 0) :
    (polygonize contains mask geo = .ok none ↔ ∀ cell, ¬mask.Includes cell) ∧
      ((∃ cell, mask.Includes cell) →
        ∃ multiPolygon, polygonize contains mask geo = .ok (some multiPolygon) ∧
          rasterizeMultiPolygon multiPolygon geo mask.dims = .ok mask.data) := by
  have hgeo : geo.Invertible := ⟨hwidth.ne', hheight.ne⟩
  refine ⟨⟨fun hnone cell hcell => ?_, polygonize_eq_none⟩,
    exists_polygonize_rasterize hcontains hgeo⟩
  obtain ⟨multiPolygon, hsome, -⟩ := exists_polygonize_rasterize hcontains hgeo ⟨cell, hcell⟩
  rw [hnone] at hsome
  simp at hsome

/-- Two cells that touch in a corner. -/
theorem rasterize_polygonize_pinch :
    ∃ multiPolygon,
      polygonize strictContains ⟨[true, false, false, true], 2, 2, rfl⟩ GeoTransform.northUp
          = .ok (some multiPolygon) ∧
        rasterizeMultiPolygon multiPolygon GeoTransform.northUp ⟨2, 2⟩
          = .ok [true, false, false, true] :=
  (rasterize_polygonize strictContains_isStrict ⟨[true, false, false, true], 2, 2, rfl⟩
    (by decide) (by decide)).2 ⟨⟨0, 0⟩, by decide⟩

end Mask

end WatershedDelineation
