import WatershedDelineation.Raster.PolygonizeSpec

/-!
# The orientation of the polygons

A ring in native coordinates has the area of the pixel ring times the signed area of a pixel
(`geoSignedAreaLs_toGeoCoords`). With a north-up transform the factor is negative, so
`polygonize` reverses every ring, and exteriors come out counter-clockwise and holes clockwise.
Reversing a ring changes neither what it winds around (`windingNumber_reverse`) nor that it is
closed.
-/

namespace WatershedDelineation

open ClosedWalk LatticeRing

section Reverse

variable (ring : List NativeCoord)

/-- Reversing a ring reverses its winding numbers. -/
theorem windingNumber_reverse (p : NativeCoord) :
    windingNumber ring.reverse p = -windingNumber ring p := by
  refine sum_steps_reverse (fun e => ?_) ring
  have hleft : isLeft e.2 e.1 p = -isLeft e.1 e.2 p := by
    simp only [isLeft]
    ring
  simp only [rayCrossing, Prod.fst_swap, Prod.snd_swap, hleft, Left.neg_pos_iff,
    Left.neg_neg_iff]
  grind

/-- Reversing a ring reverses its area. -/
theorem geoSignedAreaLs_reverse : geoSignedAreaLs ring.reverse = -geoSignedAreaLs ring := by
  have hsum : ((steps ring.reverse).map fun e => e.1.x * e.2.y - e.2.x * e.1.y).sum
      = -((steps ring).map fun e => e.1.x * e.2.y - e.2.x * e.1.y).sum :=
    sum_steps_reverse (fun _ => (neg_sub _ _).symm) ring
  simp only [geoSignedAreaLs, List.length_reverse, hsum, neg_div]
  split_ifs <;> simp

end Reverse

/-! ### Orienting rings -/

section Orient

variable {ring : List NativeCoord} {p : NativeCoord}

theorem closed_orientExterior (h : Closed ring) : Closed (orientExterior ring) := by
  rw [orientExterior]
  split_ifs
  · exact h.reverse
  · exact h

theorem closed_orientHole (h : Closed ring) : Closed (orientHole ring) := by
  rw [orientHole]
  split_ifs
  · exact h.reverse
  · exact h

theorem windingNumber_orientExterior_ne_zero :
    windingNumber (orientExterior ring) p ≠ 0 ↔ windingNumber ring p ≠ 0 := by
  rw [orientExterior]
  split_ifs
  · rw [windingNumber_reverse, neg_ne_zero]
  · rfl

theorem windingNumber_orientHole_ne_zero :
    windingNumber (orientHole ring) p ≠ 0 ↔ windingNumber ring p ≠ 0 := by
  rw [orientHole]
  split_ifs
  · rw [windingNumber_reverse, neg_ne_zero]
  · rfl

/-- An exterior with an area is oriented counter-clockwise. -/
theorem geoSignedAreaLs_orientExterior (h : geoSignedAreaLs ring ≠ 0) :
    0 < geoSignedAreaLs (orientExterior ring) := by
  rw [orientExterior]
  split_ifs with hneg
  · rw [geoSignedAreaLs_reverse]
    exact neg_pos.mpr hneg
  · exact lt_of_le_of_ne (not_lt.mp hneg) h.symm

/-- A hole with an area is oriented clockwise. -/
theorem geoSignedAreaLs_orientHole (h : geoSignedAreaLs ring ≠ 0) :
    geoSignedAreaLs (orientHole ring) < 0 := by
  rw [orientHole]
  split_ifs with hpos
  · rw [geoSignedAreaLs_reverse]
    exact neg_neg_iff_pos.mpr hpos
  · exact lt_of_le_of_ne (not_lt.mp hpos) h

end Orient

/-! ### Areas of boundary rings -/

/-- **Areas in native coordinates**: the origin does not matter, and every pixel counts with its
signed area. -/
theorem geoSignedAreaLs_toGeoCoords {ring : List Corner} (hclosed : Closed ring)
    (geo : GeoTransform) :
    geoSignedAreaLs (toGeoCoords ring geo)
      = geo.pixelWidth * geo.pixelHeight * shoelaceArea ring := by
  have hrow := hclosed.sum_eq_zero fun v : Corner => geo.originX * geo.pixelHeight * v.row
  have hcol := hclosed.sum_eq_zero fun v : Corner => -(geo.originY * geo.pixelWidth * v.col)
  have hsum : ((steps (toGeoCoords ring geo)).map fun e => e.1.x * e.2.y - e.2.x * e.1.y).sum
      = geo.pixelWidth * geo.pixelHeight
        * ((steps ring).map fun e => (e.1.col : ℚ) * e.2.row - e.2.col * e.1.row).sum := by
    have hterm : ∀ e : Corner × Corner,
        ((fun e : NativeCoord × NativeCoord => e.1.x * e.2.y - e.2.x * e.1.y) ∘
          Prod.map (fun v : Corner => geo.cornerCoord v.row v.col)
            fun v : Corner => geo.cornerCoord v.row v.col) e
        = (geo.originX * geo.pixelHeight * e.2.row - geo.originX * geo.pixelHeight * e.1.row)
          + (-(geo.originY * geo.pixelWidth * e.2.col) - -(geo.originY * geo.pixelWidth * e.1.col))
          + geo.pixelWidth * geo.pixelHeight * ((e.1.col : ℚ) * e.2.row - e.2.col * e.1.row) := by
      intro e
      simp only [Function.comp_apply, Prod.map_fst, Prod.map_snd, GeoTransform.cornerCoord]
      ring
    rw [toGeoCoords_eq, steps_map, List.map_map, List.map_congr_left fun e _ => hterm e,
      List.sum_map_add, List.sum_map_add, hrow, hcol, List.sum_map_mul_left, add_zero, zero_add]
  rw [geoSignedAreaLs, shoelaceArea, hsum, toGeoCoords, List.length_map]
  split_ifs
  · rw [mul_zero]
  · exact mul_div_assoc ..

/-- No boundary ring is degenerate. -/
theorem BoundaryRings.shoelaceArea_ne_zero {mask : CatchmentMask} {rings : List (List Corner)}
    (h : BoundaryRings mask rings) {ring : List Corner} (hring : ring ∈ rings) :
    shoelaceArea ring ≠ 0 := by
  have hmem : ringPoints ring ∈ rings.map ringPoints := List.mem_map_of_mem hring
  rw [shoelaceArea_eq (h.closed hring), div_ne_zero_iff, Int.cast_ne_zero]
  refine ⟨?_, two_ne_zero⟩
  rcases h.family.level_self hmem with hzero | hone
  · exact (h.family.doubleArea_neg hmem (h.le_of_mem hring) hzero).ne
  · exact (h.family.doubleArea_pos hmem (h.le_of_mem hring) hone).ne'

end WatershedDelineation
