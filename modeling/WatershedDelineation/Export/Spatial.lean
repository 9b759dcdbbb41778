import WatershedDelineation.Export.HilbertIndex
import WatershedDelineation.Export.Identity
import WatershedDelineation.Export.OutwardBbox
import WatershedDelineation.General.Binary64Arith

/-!
# Bounds, centroids and sort keys of rows

The rest of `export/spatial.rs`: the bounds and the centroid of a geometry, which fail for empty and
degenerate ones, the Hilbert index of a centroid, and the keys that rows are sorted by. Areas,
rectangles and centroids are those of the geometry crate.

A coordinate is quantized to 16 bits whatever it is (`quantizeAxis_le`), so that every centroid has
an index (`exists_fromCentroid`).
-/

namespace WatershedDelineation

/-- The centroid of a geometry. -/
structure BasinCentroid where
  lon : F64
  lat : F64
  deriving DecidableEq, Repr

/-- What the geometry crate computes of a geometry: its area, its bounding rectangle and its
centroid. Polygons are of any type. -/
structure GeoCrate (P : Type) where
  unsignedArea : List P → F64
  boundingRect : List P → Option BasinBbox
  centroid : List P → Option BasinCentroid

section Geometry

variable {P : Type} (geo : GeoCrate P)

/-- The bounds of a geometry, which must have an area and a box that is neither empty nor unbounded.
-/
def basinBbox (geometry : List P) : Except (Fault ExportError) BasinBbox := do
  Checked.rejectIf (geometry = [] ∨ Binary64.le (geo.unsignedArea geometry).bits 0)
    (.bboxFailure "geometry is empty or degenerate")
  let bbox ← Checked.orErr (geo.boundingRect geometry)
    (.bboxFailure "geometry has no bounding rectangle")
  Checked.rejectIf (¬(bbox.Finite ∧ Binary64.lt bbox.minx.bits bbox.maxx.bits ∧
      Binary64.lt bbox.miny.bits bbox.maxy.bits))
    (.bboxFailure "geometry bounds are non-finite or degenerate")
  .ok bbox

/-- The centroid of a geometry. -/
def basinCentroid (geometry : List P) : Except (Fault ExportError) BasinCentroid := do
  Checked.rejectIf (geometry = [] ∨ Binary64.le (geo.unsignedArea geometry).bits 0)
    (.centroidFailure "geometry is empty or degenerate")
  let centroid ← Checked.orErr (geo.centroid geometry)
    (.centroidFailure "geometry has no centroid")
  Checked.rejectIf (¬(Binary64.isFinite centroid.lon.bits ∧ Binary64.isFinite centroid.lat.bits))
    (.centroidFailure "geometry centroid is non-finite")
  .ok centroid

end Geometry

/-! ### Hilbert indices -/

/-- The least longitude, -180. -/
def minLon : F64 := ⟨0xc066800000000000⟩

/-- The least latitude, -90. -/
def minLat : F64 := ⟨0xc056800000000000⟩

/-- The largest longitude, 180. -/
def maxLon : F64 := ⟨0x4066800000000000⟩

/-- The largest latitude, 90. -/
def maxLat : F64 := ⟨0x4056800000000000⟩

/-- The largest coordinate of a cell, as a double. -/
def hilbertAxisMax : F64 := ⟨0x40efffe000000000⟩

/-- A coordinate as the number of a cell: it is clamped to its range, an infinity or a NaN to the
end of its sign, and scaled to 16 bits. -/
def quantizeAxis (value min max : F64) : ℕ :=
  let clamped :=
    if Binary64.isFinite value.bits then Binary64.clamp value.bits min.bits max.bits
    else if value.bits.msb then min.bits
    else max.bits
  let normalized := Binary64.div (Binary64.sub clamped min.bits) (Binary64.sub max.bits min.bits)
  Binary64.toU32 (Binary64.round (Binary64.mul normalized hilbertAxisMax.bits))

/-- The position of a centroid on the Hilbert curve. -/
structure HilbertIndex where
  value : ℕ
  deriving DecidableEq, Repr

/-- The Hilbert index of a centroid; `none` if the arithmetic overflows. -/
def HilbertIndex.fromCentroid (centroid : BasinCentroid) : Option HilbertIndex :=
  (xyToHilbertIndex (quantizeAxis centroid.lon minLon maxLon)
    (quantizeAxis centroid.lat minLat maxLat)).map HilbertIndex.mk

section Quantize

open Binary64

private theorem toRat_maxLon : toRat maxLon.bits = 180 := by
  rw [toRat_of_units (k := 1029) (u := 180 * 2 ^ 45) (by decide) (by decide) (.inr (by decide)),
    show maxLon.bits.msb = false by decide, if_neg Bool.false_ne_true]
  norm_num

private theorem toRat_minLon : toRat minLon.bits = -180 := by
  rw [toRat_of_units (k := 1029) (u := 180 * 2 ^ 45) (by decide) (by decide) (.inr (by decide)),
    show minLon.bits.msb = true by decide, if_pos rfl]
  norm_num

private theorem toRat_maxLat : toRat maxLat.bits = 90 := by
  rw [toRat_of_units (k := 1028) (u := 90 * 2 ^ 46) (by decide) (by decide) (.inr (by decide)),
    show maxLat.bits.msb = false by decide, if_neg Bool.false_ne_true]
  norm_num

private theorem toRat_minLat : toRat minLat.bits = -90 := by
  rw [toRat_of_units (k := 1028) (u := 90 * 2 ^ 46) (by decide) (by decide) (.inr (by decide)),
    show minLat.bits.msb = true by decide, if_pos rfl]
  norm_num

/-- The width of the longitudes. -/
private def lonWidth : F64 := ⟨0x4076800000000000⟩

private theorem toRat_lonWidth : toRat lonWidth.bits = 360 := by
  rw [toRat_of_units (k := 1030) (u := 360 * 2 ^ 44) (by decide) (by decide) (.inr (by decide)),
    show lonWidth.bits.msb = false by decide, if_neg Bool.false_ne_true]
  norm_num

/-- A coordinate is quantized to 16 bits, if the width of its range is a double. -/
theorem quantizeAxis_le_of_width {value min max width : F64} (hmin : isFinite min.bits)
    (hmax : isFinite max.bits) (hfinite : isFinite width.bits) (hpos : 0 < toRat width.bits)
    (heq : toRat max.bits - toRat min.bits = toRat width.bits) :
    quantizeAxis value min max ≤ 65535 := by
  have hle : toRat min.bits ≤ toRat max.bits := by linarith
  have hwidth := sub_eq_of_toRat hmax hmin hfinite hpos heq
  -- whatever the coordinate is, what is quantized lies in the range
  have hclamped : ∀ clamped : BitVec 64, isFinite clamped → toRat min.bits ≤ toRat clamped →
      toRat clamped ≤ toRat max.bits →
      toU32 (round (mul (div (sub clamped min.bits) (sub max.bits min.bits))
        hilbertAxisMax.bits)) ≤ 65535 := by
    intro clamped hclamped hlow hhigh
    have hsub := upTo_sub hclamped hmin hfinite hlow (by linarith)
    have hdiv : UpTo (toRat one) (div (sub clamped min.bits) width.bits) :=
      upTo_div hsub hfinite hpos (by decide) (by rw [div_self hpos.ne', toRat_one])
    rw [hwidth]
    exact toU32_round_mul_u16Max_le hdiv
  rw [quantizeAxis]
  split_ifs with hvalue
  · obtain ⟨hc, hlow, hhigh⟩ := clamp_spec (isNaN_of_isFinite hvalue) hmin hmax hle
    exact hclamped _ hc hlow hhigh
  · exact hclamped _ hmin le_rfl hle
  · exact hclamped _ hmax hle le_rfl

/-- Longitudes are quantized to 16 bits: their range has a width of 360. -/
theorem quantizeAxis_lon_le (value : F64) : quantizeAxis value minLon maxLon ≤ 65535 :=
  quantizeAxis_le_of_width (by decide) (by decide) (show isFinite lonWidth.bits by decide)
    (by rw [toRat_lonWidth]; norm_num) (by
      rw [toRat_maxLon, toRat_minLon, toRat_lonWidth]
      norm_num)

/-- Latitudes are, too: their range has a width of 180, which is the largest longitude. -/
theorem quantizeAxis_lat_le (value : F64) : quantizeAxis value minLat maxLat ≤ 65535 :=
  quantizeAxis_le_of_width (by decide) (by decide) (show isFinite maxLon.bits by decide)
    (by rw [toRat_maxLon]; norm_num) (by
      rw [toRat_maxLat, toRat_minLat, toRat_maxLon]
      norm_num)

/-- **Every centroid has an index.** -/
theorem exists_fromCentroid (centroid : BasinCentroid) :
    ∃ index, HilbertIndex.fromCentroid centroid = some index := by
  have hx := quantizeAxis_lon_le centroid.lon
  have hy := quantizeAxis_lat_le centroid.lat
  have hcell : HilbertCurve.InSquare (2 ^ 16) (quantizeAxis centroid.lon minLon maxLon,
      quantizeAxis centroid.lat minLat maxLat) :=
    ⟨Nat.lt_of_le_of_lt hx (by decide), Nat.lt_of_le_of_lt hy (by decide)⟩
  have hindex := hilbertLoop_zero_eq (Nat.le_refl 16) hcell
  rw [HilbertIndex.fromCentroid, xyToHilbertIndex, hilbertBits, hindex]
  exact ⟨_, rfl⟩

end Quantize

/-! ### Sort keys -/

open Std

/-- The sort key of a basin row; keys are compared field by field. -/
structure BasinSpatialSortKey where
  hilbertIndex : HilbertIndex
  basinId : BasinId
  delineation : DelineationLabel
  deriving DecidableEq

/-- The sort key of a row of a unit bundle. -/
structure UnitBundleSpatialSortKey where
  hilbertIndex : HilbertIndex
  unitId : UnitId
  delineation : DelineationLabel
  deriving DecidableEq

instance : Ord BasinSpatialSortKey := ⟨compareLex (compareOn (·.hilbertIndex.value))
  (compareLex (compareOn (·.basinId.value)) (compareOn (·.delineation.value)))⟩

instance : Ord UnitBundleSpatialSortKey := ⟨compareLex (compareOn (·.hilbertIndex.value))
  (compareLex (compareOn (·.unitId.raw)) (compareOn (·.delineation.value)))⟩

instance : TransOrd BasinSpatialSortKey := inferInstanceAs (TransCmp (compareLex _ _))

instance : TransOrd UnitBundleSpatialSortKey := inferInstanceAs (TransCmp (compareLex _ _))

/-- Rows that compare equal have the same identity. -/
theorem BasinSpatialSortKey.eq_of_compare {a b : BasinSpatialSortKey} (h : compare a b = .eq) :
    a.basinId = b.basinId ∧ a.delineation = b.delineation := by
  obtain ⟨-, h⟩ := compareLex_eq_eq.mp h
  obtain ⟨hid, hlabel⟩ := compareLex_eq_eq.mp h
  exact ⟨BasinId.ext (LawfulEqOrd.eq_of_compare hid),
    DelineationLabel.ext (LawfulEqOrd.eq_of_compare hlabel)⟩

/-- The same for rows of a unit bundle. -/
theorem UnitBundleSpatialSortKey.eq_of_compare {a b : UnitBundleSpatialSortKey}
    (h : compare a b = .eq) : a.unitId.raw = b.unitId.raw ∧ a.delineation = b.delineation := by
  obtain ⟨-, h⟩ := compareLex_eq_eq.mp h
  obtain ⟨hid, hlabel⟩ := compareLex_eq_eq.mp h
  exact ⟨LawfulEqOrd.eq_of_compare hid,
    DelineationLabel.ext (LawfulEqOrd.eq_of_compare hlabel)⟩

section Keys

variable {P : Type} (geo : GeoCrate P) (delineation : DelineationLabel) (geometry : List P)

/-- The Hilbert index of a geometry: that of its centroid. -/
def hilbertIndexOf : Except (Fault ExportError) HilbertIndex := do
  let centroid ← basinCentroid geo geometry
  Checked.orPanic (HilbertIndex.fromCentroid centroid)

/-- The sort key of a basin row, which fails where the geometry has no centroid. -/
def BasinSpatialSortKey.fromGeometry (basinId : BasinId) :
    Except (Fault ExportError) BasinSpatialSortKey := do
  let hilbertIndex ← hilbertIndexOf geo geometry
  .ok ⟨hilbertIndex, basinId, delineation⟩

/-- The sort key of a row of a unit bundle. -/
def UnitBundleSpatialSortKey.fromGeometry (unitId : UnitId) :
    Except (Fault ExportError) UnitBundleSpatialSortKey := do
  let hilbertIndex ← hilbertIndexOf geo geometry
  .ok ⟨hilbertIndex, unitId, delineation⟩

/-- The bounds of a geometry never panic: empty, degenerate and unbounded ones are errors. -/
theorem returns_basinBbox : Fault.Returns (basinBbox geo geometry) :=
  Checked.returns_rejectIf.bind fun _ _ => Checked.returns_orErr.bind fun _ _ =>
    Checked.returns_rejectIf.bind fun _ _ => Fault.returns_ok _

/-- No centroid makes the arithmetic of the index overflow. -/
theorem exists_hilbertIndexOf {centroid : BasinCentroid}
    (hcentroid : basinCentroid geo geometry = .ok centroid) :
    ∃ index, hilbertIndexOf geo geometry = .ok index := by
  obtain ⟨index, hindex⟩ := exists_fromCentroid centroid
  refine ⟨index, ?_⟩
  rw [hilbertIndexOf, hcentroid, Checks.ok_bind, hindex, Checked.orPanic_some]

/-- The same for its centroid. -/
theorem returns_basinCentroid : Fault.Returns (basinCentroid geo geometry) :=
  Checked.returns_rejectIf.bind fun _ _ => Checked.returns_orErr.bind fun _ _ =>
    Checked.returns_rejectIf.bind fun _ _ => Fault.returns_ok _

/-- **Sort keys never panic**: a geometry has a centroid, and an index then, or it has an error. -/
theorem returns_hilbertIndexOf : Fault.Returns (hilbertIndexOf geo geometry) := by
  cases hcentroid : basinCentroid geo geometry with
  | ok centroid =>
    obtain ⟨index, hindex⟩ := exists_hilbertIndexOf geo geometry hcentroid
    rw [hindex]
    exact Fault.returns_ok index
  | error e =>
    obtain ⟨e', rfl⟩ := returns_basinCentroid geo geometry e hcentroid
    rw [hilbertIndexOf, hcentroid]
    exact Fault.returns_err e'

end Keys

end WatershedDelineation
