import WatershedDelineation.Raster.Grid

/-!
# Encoding WKB

The encoder of `algo/wkb.rs` gives a multipolygon to the writer of the geometry crate as a list of
events, which determine it (`processGeom_injective`).
-/

namespace WatershedDelineation

/-- The events of a geometry. -/
inductive GeomEvent
  | multipolygonBegin (size idx : ℕ)
  | polygonBegin (tagged : Bool) (size idx : ℕ)
  | linestringBegin (tagged : Bool) (size idx : ℕ)
  | xy (x y : ℚ) (idx : ℕ)
  | linestringEnd (tagged : Bool) (idx : ℕ)
  | polygonEnd (tagged : Bool) (idx : ℕ)
  | multipolygonEnd (idx : ℕ)
  deriving DecidableEq, Repr

/-- The events of a ring; the writer takes two dimensions. -/
def processLineStringRef (line : List NativeCoord) (tagged : Bool) (idx : ℕ) : List GeomEvent :=
  .linestringBegin tagged line.length idx ::
    (line.zipIdx.map fun (coord, coordIdx) => .xy coord.x coord.y coordIdx) ++
    [.linestringEnd tagged idx]

/-- The events of a polygon. -/
def processPolygonRef (polygon : Polygon) (tagged : Bool) (idx : ℕ) : List GeomEvent :=
  .polygonBegin tagged (polygon.interiors.length + 1) idx ::
    processLineStringRef polygon.exterior false 0 ++
    (polygon.interiors.zipIdx.flatMap fun (ring, ringIdx) =>
      processLineStringRef ring false (ringIdx + 1)) ++
    [.polygonEnd tagged idx]

/-- The events of a multipolygon. -/
def processGeom (mp : MultiPolygon) : List GeomEvent :=
  .multipolygonBegin mp.length 0 ::
    (mp.zipIdx.flatMap fun (polygon, idx) => processPolygonRef polygon false idx) ++
    [.multipolygonEnd 0]

/-- Errors of encoding. -/
inductive WkbEncodeError
  | encodeFailed (reason : String)
  deriving DecidableEq, Repr

/-- Encode a multipolygon. -/
def encodeWkbMultiPolygon (writer : List GeomEvent → Except String (List UInt8))
    (mp : MultiPolygon) : Except WkbEncodeError (List UInt8) :=
  (writer (processGeom mp)).mapError .encodeFailed

/-! ### The events determine the multipolygon -/

/-- What has been read of some events: the coordinates of a ring, the rings of a polygon, and the
polygons. -/
structure GeomReader where
  coords : List NativeCoord
  rings : List (List NativeCoord)
  polygons : List (List (List NativeCoord))

namespace GeomReader

def next (reader : GeomReader) : GeomEvent → GeomReader
  | .xy x y _ => { reader with coords := reader.coords ++ [⟨x, y⟩] }
  | .linestringEnd _ _ => { reader with coords := [], rings := reader.rings ++ [reader.coords] }
  | .polygonEnd _ _ => { reader with rings := [], polygons := reader.polygons ++ [reader.rings] }
  | _ => reader

theorem foldl_next_xy (line coords : List NativeCoord) (rings : List (List NativeCoord))
    (polygons : List (List (List NativeCoord))) (start : ℕ) :
    ((line.zipIdx start).map fun (coord, coordIdx) =>
        GeomEvent.xy coord.x coord.y coordIdx).foldl next ⟨coords, rings, polygons⟩
      = ⟨coords ++ line, rings, polygons⟩ := by
  induction line generalizing coords start with
  | nil => simp
  | cons coord line ih =>
    rw [List.zipIdx_cons, List.map_cons, List.foldl_cons, next, ih, List.append_assoc]
    rfl

theorem foldl_next_line (line : List NativeCoord) (rings : List (List NativeCoord))
    (polygons : List (List (List NativeCoord))) (tagged : Bool) (idx : ℕ) :
    (processLineStringRef line tagged idx).foldl next ⟨[], rings, polygons⟩
      = ⟨[], rings ++ [line], polygons⟩ := by
  rw [processLineStringRef, List.cons_append, List.foldl_cons, List.foldl_append]
  change List.foldl next (List.foldl next ⟨[], rings, polygons⟩ _) _ = _
  rw [foldl_next_xy]
  rfl

theorem foldl_next_lines (lines rings : List (List NativeCoord))
    (polygons : List (List (List NativeCoord))) (start : ℕ) :
    ((lines.zipIdx start).flatMap fun (ring, ringIdx) =>
        processLineStringRef ring false (ringIdx + 1)).foldl next ⟨[], rings, polygons⟩
      = ⟨[], rings ++ lines, polygons⟩ := by
  induction lines generalizing rings start with
  | nil => simp
  | cons line lines ih =>
    rw [List.zipIdx_cons, List.flatMap_cons, List.foldl_append, foldl_next_line, ih,
      List.append_assoc]
    rfl

theorem foldl_next_polygon (polygon : Polygon) (polygons : List (List (List NativeCoord)))
    (tagged : Bool) (idx : ℕ) :
    (processPolygonRef polygon tagged idx).foldl next ⟨[], [], polygons⟩
      = ⟨[], [], polygons ++ [polygon.rings]⟩ := by
  rw [processPolygonRef, List.cons_append, List.cons_append, List.foldl_cons, List.foldl_append,
    List.foldl_append]
  change List.foldl next (List.foldl next (List.foldl next ⟨[], [], polygons⟩ _) _) _ = _
  rw [foldl_next_line, foldl_next_lines]
  rfl

theorem foldl_next_polygons (mp : MultiPolygon) (polygons : List (List (List NativeCoord)))
    (start : ℕ) :
    ((mp.zipIdx start).flatMap fun (polygon, idx) =>
        processPolygonRef polygon false idx).foldl next ⟨[], [], polygons⟩
      = ⟨[], [], polygons ++ mp.map Polygon.rings⟩ := by
  induction mp generalizing polygons start with
  | nil => simp
  | cons polygon mp ih =>
    rw [List.zipIdx_cons, List.flatMap_cons, List.foldl_append, foldl_next_polygon, ih,
      List.append_assoc]
    rfl

/-- The polygons can be read back from the events. -/
theorem foldl_next_processGeom (mp : MultiPolygon) :
    (processGeom mp).foldl next ⟨[], [], []⟩ = ⟨[], [], mp.map Polygon.rings⟩ := by
  rw [processGeom, List.cons_append, List.foldl_cons, List.foldl_append]
  change List.foldl next (List.foldl next ⟨[], [], []⟩ _) _ = _
  rw [foldl_next_polygons]
  rfl

end GeomReader

theorem Polygon.rings_injective : Function.Injective Polygon.rings := fun a b h => by
  obtain ⟨hexterior, hinteriors⟩ := List.cons.inj h
  cases a
  cases b
  obtain rfl := hexterior
  obtain rfl := hinteriors
  rfl

theorem processGeom_injective : Function.Injective processGeom := fun mp mp' h => by
  have hread := GeomReader.foldl_next_processGeom mp
  rw [h, GeomReader.foldl_next_processGeom] at hread
  exact (List.map_injective_iff.mpr Polygon.rings_injective (GeomReader.mk.inj hread).2.2).symm

end WatershedDelineation
