import WatershedDelineation.Assembly.WatershedAssembly
import WatershedDelineation.Raster.Grid

/-!
# The final assembly

`assemble_from_geometries` of `assembly.rs`, with which both ways of assembling a watershed end. It
dissolves the polygons of all units, cleans or repairs the topology, fills holes, winds the rings,
and computes the area.

It is handed geometries that have been looked up already, so that none of its errors speaks of a
missing, repeated or empty record (`isFinal_of_assembleFromGeometries`), and a watershed that it
returns is not empty (`ne_nil_of_assembleFromGeometries`).
-/

namespace WatershedDelineation

/-- An area in square kilometres, in double precision. -/
structure Algo.AreaKm2 where
  value : F64
  deriving DecidableEq, Repr

/-- The distance of topology cleaning, in degrees. -/
structure CleanEpsilon where
  value : F64
  deriving DecidableEq, Repr

/-- Mode for interior hole removal. -/
inductive HoleFillMode
  | removeAll
  | belowThreshold (thresholdPixels : ℕ) (pixelArea : F64)
  deriving DecidableEq, Repr

/-- Options of the final assembly; without a repair, the topology is cleaned. -/
structure AssemblyOptions where
  holeFillMode : HoleFillMode
  cleanEpsilon : CleanEpsilon
  geometryRepair :
    Option (MultiPolygon → CleanEpsilon → Except GeometryRepairError MultiPolygon)

/-- The geometry that the final assembly rests on: the unions of polygons in spatial order, the
cleaning, and what is computed of rings and polygons. -/
structure AssemblyGeometry where
  dissolveSpatialReduceStrategy : List Polygon → MultiPolygon
  cleanTopology : MultiPolygon → CleanEpsilon → MultiPolygon
  unsignedArea : Polygon → F64
  makeCcwWinding : List NativeCoord → List NativeCoord
  makeCwWinding : List NativeCoord → List NativeCoord
  geodesicAreaUnsigned : MultiPolygon → F64

namespace AssemblyGeometry

variable (geo : AssemblyGeometry)

/-- The unions of at least one polygon. -/
def dissolve (polygons : List Polygon) : Except DissolveError MultiPolygon :=
  if polygons.isEmpty then .error .emptyInput else .ok (geo.dissolveSpatialReduceStrategy polygons)

/-- Whether a hole stays: below a threshold of pixels, holes of at least that area do. -/
def keepsHole (mode : HoleFillMode) (ring : List NativeCoord) : Bool :=
  match mode with
  | .removeAll => false
  | .belowThreshold thresholdPixels pixelArea =>
    Binary64.le (Binary64.mul (Binary64.ofRat thresholdPixels) pixelArea.bits)
      (geo.unsignedArea (.new ring [])).bits

/-- Remove interior holes according to a mode. -/
def fillHoles (geometry : MultiPolygon) (mode : HoleFillMode) : MultiPolygon :=
  geometry.map fun polygon =>
    .new polygon.exterior (polygon.interiors.filter (geo.keepsHole mode))

/-- Normalize a polygon to counter-clockwise exterior and clockwise holes. -/
def normalizePolygonWinding (polygon : Polygon) : Polygon :=
  .new (geo.makeCcwWinding polygon.exterior) (polygon.interiors.map geo.makeCwWinding)

/-- The geodesic area; `0x3eb0c6f7a0b5ed8d` is `1e-6`. -/
def geodesicAreaMulti (geometry : MultiPolygon) : Except WatershedAreaError Algo.AreaKm2 :=
  if geometry.isEmpty then .error .emptyGeometry
  else
    let areaM2 := geo.geodesicAreaUnsigned geometry
    if Binary64.isFinite areaM2.bits then .ok ⟨⟨Binary64.mul areaM2.bits 0x3eb0c6f7a0b5ed8d⟩⟩
    else .error (.nonFiniteArea areaM2)

/-- Clean the topology, or have it repaired. -/
def cleanOrRepair (options : AssemblyOptions) (dissolved : MultiPolygon) :
    Except GeometryRepairError MultiPolygon :=
  match options.geometryRepair with
  | some repair => repair dissolved options.cleanEpsilon
  | none => .ok (geo.cleanTopology dissolved options.cleanEpsilon)

/-- The final assembly of geometries. -/
def assembleFromGeometries (options : AssemblyOptions) (geometries : List MultiPolygon) :
    Except AssemblyError (MultiPolygon × Algo.AreaKm2) := do
  let dissolved ← (geo.dissolve geometries.flatten).mapError .dissolve
  let cleaned ← (geo.cleanOrRepair options dissolved).mapError .topologyRepair
  let geometry := (geo.fillHoles cleaned options.holeFillMode).map geo.normalizePolygonWinding
  if geometry.isEmpty then .error .emptyAssembledGeometry
  else do
    let area ← (geo.geodesicAreaMulti geometry).mapError .area
    .ok (geometry, area)

end AssemblyGeometry

/-- The errors of geometries that have been looked up and are not empty: a repair fails, nothing is
left, or the area is not a finite number. -/
def AssemblyError.IsFinal : AssemblyError → Prop
  | .topologyRepair _ | .emptyAssembledGeometry | .area (.nonFiniteArea _) => True
  | _ => False

namespace AssemblyGeometry

variable {geo : AssemblyGeometry} {options : AssemblyOptions} {geometries : List MultiPolygon}
  {geometry : MultiPolygon} {area : Algo.AreaKm2}

/-- Only an empty list cannot be dissolved. -/
theorem dissolve_of_ne_nil {polygons : List Polygon} (h : polygons ≠ []) :
    geo.dissolve polygons = .ok (geo.dissolveSpatialReduceStrategy polygons) :=
  if_neg (by simpa using h)

/-- Where there are polygons, the area is missing only if it is not a finite number. -/
theorem geodesicAreaMulti_error (h : geometry ≠ []) {e : WatershedAreaError}
    (herror : geo.geodesicAreaMulti geometry = .error e) : ∃ areaM2, e = .nonFiniteArea areaM2 := by
  rw [geodesicAreaMulti, if_neg (by simpa using h)] at herror
  dsimp only at herror
  split_ifs at herror
  exact ⟨_, (Except.error.inj herror).symm⟩

/-- **Errors of the final assembly** are its own, where it is handed polygons: it does not refuse
them, and it does not compute the area of an empty geometry. -/
theorem isFinal_of_assembleFromGeometries (hne : geometries.flatten ≠ []) {e : AssemblyError}
    (h : geo.assembleFromGeometries options geometries = .error e) : e.IsFinal := by
  rw [assembleFromGeometries, dissolve_of_ne_nil hne] at h
  change ((geo.cleanOrRepair options _).mapError _ >>= _) = _ at h
  rw [Checks.bind_eq_error_iff, Checks.mapError_eq_error_iff] at h
  obtain ⟨source, -, rfl⟩ | ⟨cleaned, -, h⟩ := h
  · trivial
  dsimp only at h
  split_ifs at h with hempty
  · obtain rfl := Except.error.inj h
    trivial
  rw [Checks.bind_eq_error_iff, Checks.mapError_eq_error_iff] at h
  obtain ⟨source, hsource, rfl⟩ | ⟨area, -, h⟩ := h
  · obtain ⟨areaM2, rfl⟩ := geodesicAreaMulti_error (by simpa using hempty) hsource
    trivial
  · cases h

/-- A watershed is not empty. -/
theorem ne_nil_of_assembleFromGeometries
    (h : geo.assembleFromGeometries options geometries = .ok (geometry, area)) :
    geometry ≠ [] := by
  simp only [assembleFromGeometries, Checks.bind_eq_ok_iff] at h
  obtain ⟨dissolved, -, cleaned, -, h⟩ := h
  split_ifs at h with hempty
  simp only [Checks.bind_eq_ok_iff, Except.ok.injEq, Prod.mk.injEq] at h
  obtain ⟨_, -, rfl, -⟩ := h
  simpa using hempty

end AssemblyGeometry

end WatershedDelineation
