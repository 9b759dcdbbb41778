import WatershedDelineation.Raster.Orientation
import WatershedDelineation.Raster.Plane

/-!
# Polygonizing in the plane

`polygonizeCells` does what `polygonize` does, for a list of plane cells in reading order instead
of a mask of a window. `polygonize` depends on the window only through this list
(`polygonize_shift`): rings are assembled in the order of their points, which a shift keeps, and
everything after that happens in native coordinates.
-/

namespace WatershedDelineation

open ClosedWalk LatticeRing

/-! ### Native rings -/

section Native

variable (contains : Polygon → NativeCoord → Bool)

/-- `assignHole` for a hole in native coordinates. -/
def assignNativeHole (exteriorPolys : List Polygon)
    (polygonHoles : List (List (List NativeCoord))) (holeCoords : List NativeCoord) :
    Except (Fault Empty) (List (List (List NativeCoord))) :=
  match holeCoords with
  | [] => .error .panic
  | testPoint :: _ =>
    match exteriorPolys.findIdx? (contains · testPoint) with
    | none => .ok polygonHoles
    | some idx => .ok (polygonHoles.modify idx fun holes => holes ++ [holeCoords])

/-- `polygonize` from its rings in native coordinates, for pixels of the signed area `pixel`. -/
def polygonizeNativeRings (pixel : ℚ) (rings : List (List NativeCoord)) :
    Except (Fault Empty) (Option MultiPolygon) :=
  let exteriors := rings.filter fun ring => 0 ≤ geoSignedAreaLs ring / pixel
  let holes := rings.filter fun ring => ¬0 ≤ geoSignedAreaLs ring / pixel
  if exteriors = [] then .ok none
  else do
    let exteriorPolys := exteriors.map fun ext => Polygon.new ext []
    let polygonHoles ← holes.foldlM (assignNativeHole contains exteriorPolys)
      (List.replicate exteriorPolys.length [])
    .ok (some (List.zipWith finishPolygon exteriorPolys polygonHoles))

variable {contains}

theorem polygonize_eq_nativeRings {mask : CatchmentMask} {geo : GeoTransform}
    (hgeo : geo.Invertible) {rings : List (List Corner)}
    (hrings : assembleRings (extractEdges mask) = .ok rings) (h : BoundaryRings mask rings) :
    polygonize contains mask geo = polygonizeNativeRings contains
      (geo.pixelWidth * geo.pixelHeight) (rings.map (toGeoCoords · geo)) := by
  have harea : ∀ ring ∈ rings, geoSignedAreaLs (toGeoCoords ring geo)
      / (geo.pixelWidth * geo.pixelHeight) = shoelaceArea ring := fun ring hring => by
    rw [geoSignedAreaLs_toGeoCoords (h.closed hring),
      mul_div_cancel_left₀ _ (mul_ne_zero hgeo.1 hgeo.2)]
  have hexteriors : ((rings.map (toGeoCoords · geo)).filter fun ring =>
      0 ≤ geoSignedAreaLs ring / (geo.pixelWidth * geo.pixelHeight))
      = (exteriorRings rings).map (toGeoCoords · geo) := by
    rw [List.filter_map, exteriorRings]
    refine congrArg _ (List.filter_congr fun ring hring => ?_)
    rw [Function.comp_apply, harea ring hring]
  have hholes : ((rings.map (toGeoCoords · geo)).filter fun ring =>
      ¬0 ≤ geoSignedAreaLs ring / (geo.pixelWidth * geo.pixelHeight))
      = (holeRings rings).map (toGeoCoords · geo) := by
    rw [List.filter_map, holeRings]
    refine congrArg _ (List.filter_congr fun ring hring => ?_)
    rw [Function.comp_apply, harea ring hring]
  simp only [polygonizeNativeRings, hexteriors, hholes, polygonize, hrings]
  split_ifs with hnil hext hext
  · rfl
  · -- a mask without edges has no rings
    rw [hnil] at hrings
    obtain rfl := Except.ok.inj (show (.ok [] : Except (Fault Empty) _) = .ok rings from hrings)
    exact absurd rfl hext
  · rw [List.map_eq_nil_iff] at hext
    exact if_pos hext
  · rw [List.map_eq_nil_iff] at hext
    refine (if_neg hext).trans ?_
    rw [List.map_map, List.foldlM_map]
    rfl

end Native

/-! ### Plane cells -/

/-- The boundary edges of a list of plane cells, cell by cell. -/
def planeEdges (cells : List Point) : List ((ℤ ×ₗ ℤ) × (ℤ ×ₗ ℤ)) :=
  cells.flatMap fun p => (sideOrder.filter fun d => nbr p d ∉ cells).map fun d =>
    (toLex (side p d).1, toLex (side p d).2)

/-- Polygonize a list of plane cells. -/
def polygonizeCells (contains : Polygon → NativeCoord → Bool) (geo : GeoTransform)
    (cells : List Point) : Except (Fault Empty) (Option MultiPolygon) := do
  let rings ← assembleRings (planeEdges cells)
  polygonizeNativeRings contains (geo.pixelWidth * geo.pixelHeight)
    (rings.map (List.map fun v => geo.ofPoint (ofLex v)))

/-- A corner of the window at `o`, as a point of the plane in reading order. -/
def Corner.place (o : Point) (v : Corner) : ℤ ×ₗ ℤ := toLex (v.row + o.1, v.col + o.2)

/-- The plane cells that a mask of the window at `o` includes, in reading order. -/
def CatchmentMask.planeCells (mask : CatchmentMask) (o : Point) : List Point :=
  mask.cells.map fun rc => (rc.1 + o.1, rc.2 + o.2)

section Plane

variable {mask : CatchmentMask} {o : Point} {geo : GeoTransform}

theorem Corner.place_lt {v w : Corner} (h : v < w) : Corner.place o v < Corner.place o w := by
  rw [Corner.lt_iff] at h
  simp only [Corner.place, Prod.Lex.toLex_lt_toLex]
  omega

theorem CatchmentMask.mem_planeCells {p : Point} :
    p ∈ mask.planeCells o ↔ ∃ cell, mask.Includes cell ∧ cell.at o = p := by
  simp only [planeCells, List.mem_map, Prod.exists, CatchmentMask.mem_cells]
  constructor
  · rintro ⟨r, c, hcell, rfl⟩
    exact ⟨⟨r, c⟩, hcell, rfl⟩
  · rintro ⟨⟨r, c⟩, hcell, rfl⟩
    exact ⟨r, c, hcell, rfl⟩

theorem CatchmentMask.pairwise_planeCells : (mask.planeCells o).Pairwise LexLT := by
  refine List.pairwise_map.mpr (mask.pairwise_cells.imp fun {a b} h => ?_)
  simp only [LexLT]
  omega

/-- A neighbor of a plane cell is in the mask exactly when the window's neighbor is. -/
private theorem nbr_mem_planeCells (r c : ℕ) (d : Side) :
    nbr ((r : ℤ) + o.1, (c : ℤ) + o.2) d ∈ mask.planeCells o
      ↔ mask.Cell (nbr ((r : ℤ), (c : ℤ)) d) := by
  have hnbr : nbr ((r : ℤ) + o.1, (c : ℤ) + o.2) d
      = ((nbr ((r : ℤ), (c : ℤ)) d).1 + o.1, (nbr ((r : ℤ), (c : ℤ)) d).2 + o.2) := by
    cases d <;> simp only [nbr, Prod.mk.injEq, and_true, true_and] <;> omega
  rw [hnbr, CatchmentMask.mem_planeCells]
  generalize nbr ((r : ℤ), (c : ℤ)) d = q
  constructor
  · rintro ⟨cell, hcell, heq⟩
    obtain ⟨h₁, h₂⟩ := Prod.mk.inj heq
    obtain rfl : q = ((cell.row : ℤ), (cell.col : ℤ)) := by
      ext <;> simp only <;> omega
    exact CatchmentMask.cell_iff.mpr hcell
  · rintro ⟨h₁, h₂, hcell⟩
    refine ⟨_, hcell, ?_⟩
    simp only [GridCoord.at, Int.toNat_of_nonneg h₁, Int.toNat_of_nonneg h₂]

/-- The edges of a mask are those of its plane cells. -/
theorem planeEdges_planeCells : planeEdges (mask.planeCells o)
    = (extractEdges mask).map (Prod.map (Corner.place o) (Corner.place o)) := by
  rw [extractEdges_eq, planeEdges, List.map_flatMap]
  conv_lhs => rw [CatchmentMask.planeCells, List.flatMap_map]
  refine List.flatMap_congr fun rc _ => ?_
  obtain ⟨r, c⟩ := rc
  rw [List.map_map]
  have hfilter : (sideOrder.filter fun d => nbr ((r : ℤ) + o.1, (c : ℤ) + o.2) d
      ∉ mask.planeCells o)
      = sideOrder.filter fun d => ¬mask.Cell (nbr ((r : ℤ), (c : ℤ)) d) :=
    List.filter_congr fun d _ => by simp only [nbr_mem_planeCells]
  change ((sideOrder.filter fun d => nbr ((r : ℤ) + o.1, (c : ℤ) + o.2) d
    ∉ mask.planeCells o).map _) = _
  rw [hfilter]
  refine List.map_congr_left fun d _ => ?_
  cases d <;> simp only [side, Function.comp_apply, cornerSide, Prod.map_apply, Corner.place,
    Prod.mk.injEq, EmbeddingLike.apply_eq_iff_eq, and_true, true_and] <;> push_cast <;> omega

/-- **Polygonizing does not depend on the window**, only on the plane cells of the mask. -/
theorem polygonize_shift (contains : Polygon → NativeCoord → Bool) (hgeo : geo.Invertible) :
    polygonize contains mask (geo.shift o) = polygonizeCells contains geo (mask.planeCells o) := by
  obtain ⟨rings, hrings, h⟩ := exists_boundaryRings mask
  have hcoords : rings.map (toGeoCoords · (geo.shift o))
      = (rings.map (List.map (Corner.place o))).map (List.map fun v => geo.ofPoint (ofLex v)) := by
    rw [List.map_map]
    refine List.map_congr_left fun ring _ => ?_
    rw [Function.comp_apply, List.map_map, toGeoCoords_eq]
    refine List.map_congr_left fun v _ => ?_
    rw [GeoTransform.cornerCoord_shift, Function.comp_apply, Corner.place, ofLex_toLex,
      GeoTransform.ofPoint]
    push_cast
    rfl
  rw [polygonize_eq_nativeRings (GeoTransform.invertible_shift.mpr hgeo) hrings h, polygonizeCells,
    planeEdges_planeCells, assembleRings_map fun _ _ => Corner.place_lt, hrings, hcoords]
  rfl

end Plane

end WatershedDelineation
