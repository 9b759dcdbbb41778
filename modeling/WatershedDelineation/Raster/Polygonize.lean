import Mathlib.Data.Prod.Lex
import Mathlib.Order.Lattice
import WatershedDelineation.Raster.Grid
import WatershedDelineation.Raster.RingAssembly

/-!
# Polygonizing a mask

`polygonize` of `algo/polygonize.rs`: the directed boundary edges of the mask, chained into
rings, the rings sorted by the sign of their area into exteriors and holes, each hole given to
the first exterior that contains its first vertex, and all rings wound for native coordinates.

The containment test is the geometry library's; it is the parameter `contains`, a test of a
point against a polygon.
-/

namespace WatershedDelineation

open ClosedWalk

/-- A pixel corner: the corner above and left of the cell of the same row and column. -/
structure Corner where
  row : ℕ
  col : ℕ
  deriving Repr

/-- Corners are ordered by row, then column. -/
instance : LinearOrder Corner :=
  LinearOrder.lift' (fun v => toLex (v.row, v.col)) fun v w h => by
    cases v
    cases w
    simpa using h

theorem Corner.lt_iff {v w : Corner} : v < w ↔ v.row < w.row ∨ v.row = w.row ∧ v.col < w.col :=
  Prod.Lex.toLex_lt_toLex

theorem Corner.le_iff {v w : Corner} : v ≤ w ↔ v.row < w.row ∨ v.row = w.row ∧ v.col ≤ w.col :=
  Prod.Lex.toLex_le_toLex

/-- The boundary edges of one cell of the mask. -/
def cellEdges (mask : CatchmentMask) (r c : ℕ) : List (Corner × Corner) :=
  if !mask.contains ⟨r, c⟩ then []
  else
    (if r = 0 ∨ !mask.contains ⟨r - 1, c⟩ then [(⟨r, c⟩, ⟨r, c + 1⟩)] else []) ++
    (if r + 1 = mask.rows ∨ !mask.contains ⟨r + 1, c⟩
      then [(⟨r + 1, c + 1⟩, ⟨r + 1, c⟩)] else []) ++
    (if c = 0 ∨ !mask.contains ⟨r, c - 1⟩ then [(⟨r + 1, c⟩, ⟨r, c⟩)] else []) ++
    (if c + 1 = mask.cols ∨ !mask.contains ⟨r, c + 1⟩
      then [(⟨r, c + 1⟩, ⟨r + 1, c + 1⟩)] else [])

/-- Extract directed boundary edges from a mask, oriented with the `true` region on the right. -/
def extractEdges (mask : CatchmentMask) : List (Corner × Corner) :=
  (List.range mask.rows).flatMap fun r => (List.range mask.cols).flatMap fun c => cellEdges mask r c

/-- The signed area of a ring in pixel coordinates, by the shoelace formula. -/
def shoelaceArea (ring : List Corner) : ℚ :=
  if ring.length < 3 then 0
  else ((steps ring).map fun e => (e.1.col : ℚ) * e.2.row - e.2.col * e.1.row).sum / 2

/-- The signed area of a ring in native coordinates. -/
def geoSignedAreaLs (ring : List NativeCoord) : ℚ :=
  if ring.length < 3 then 0
  else ((steps ring).map fun e => e.1.x * e.2.y - e.2.x * e.1.y).sum / 2

/-- Pixel corners to native coordinates. -/
def toGeoCoords (ring : List Corner) (geo : GeoTransform) : List NativeCoord :=
  ring.map fun v => ⟨geo.originX + v.col * geo.pixelWidth, geo.originY + v.row * geo.pixelHeight⟩

section Polygonize

variable (contains : Polygon → NativeCoord → Bool)

/-- Give one hole to the first exterior polygon that contains its first vertex; a hole that
none contains is dropped. -/
def assignHole (exteriorPolys : List Polygon) (geo : GeoTransform)
    (polygonHoles : List (List (List NativeCoord))) (hole : List Corner) :
    Except (Fault Empty) (List (List (List NativeCoord))) :=
  let holeCoords := toGeoCoords hole geo
  match holeCoords with
  | [] => .error .panic
  | testPoint :: _ =>
    match exteriorPolys.findIdx? (contains · testPoint) with
    | none => .ok polygonHoles
    | some idx => .ok (polygonHoles.modify idx fun holes => holes ++ [holeCoords])

/-- Wind an exterior counter-clockwise in native coordinates. -/
def orientExterior (exterior : List NativeCoord) : List NativeCoord :=
  if geoSignedAreaLs exterior < 0 then exterior.reverse else exterior

/-- Wind a hole clockwise in native coordinates. -/
def orientHole (hole : List NativeCoord) : List NativeCoord :=
  if geoSignedAreaLs hole > 0 then hole.reverse else hole

/-- A final polygon from an exterior polygon and its holes. -/
def finishPolygon (exteriorPoly : Polygon) (holes : List (List NativeCoord)) : Polygon :=
  Polygon.new (orientExterior exteriorPoly.exterior) (holes.map orientHole)

/-- Convert a mask to a multipolygon in native coordinates; nothing when the mask has no
`true` cell. -/
def polygonize (mask : CatchmentMask) (geo : GeoTransform) :
    Except (Fault Empty) (Option MultiPolygon) :=
  let edges := extractEdges mask
  if edges = [] then .ok none
  else do
    let rings ← assembleRings edges
    let exteriors := rings.filter fun ring => 0 ≤ shoelaceArea ring
    let holes := rings.filter fun ring => ¬0 ≤ shoelaceArea ring
    if exteriors = [] then .ok none
    else do
      let exteriorPolys := exteriors.map fun ext => Polygon.new (toGeoCoords ext geo) []
      let polygonHoles ← holes.foldlM (assignHole contains exteriorPolys geo)
        (List.replicate exteriorPolys.length [])
      .ok (some (List.zipWith finishPolygon exteriorPolys polygonHoles))

end Polygonize

end WatershedDelineation
