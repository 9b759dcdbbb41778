import WatershedDelineation.Reader.BoundingBox
import WatershedDelineation.Session.CatchmentIndex

/-!
# The rows of a catchments file

A catchments file as stored (`CatchmentTable`), and what its readers make of a row: a
catchment unit (`extractUnit`), an id (`extractId`), an id and a level (`extractIdLevel`), or a
decoded geometry (`extractDecodedGeometry`). Every null and every value that a constructor rejects
is an error that names the row.

Columns have the types of the schema. The arithmetic of the outlet that a row without outlet
columns gets is left open.
-/

namespace WatershedDelineation

/-! ### Files -/

/-- The columns that a catchments file may lack. -/
structure CatchmentColumns where
  level : Bool
  parentId : Bool
  outletLon : Bool
  outletLat : Bool
  sourceId : Bool
  levelLabel : Bool
  deriving DecidableEq, Repr

/-- The columns that queries by id read. -/
def CatchmentColumns.fullProjection (columns : CatchmentColumns) : CatchmentColumns :=
  { columns with sourceId := false, levelLabel := false }

/-- A row of a catchments file; a value that is missing is null. -/
structure CatchmentRecord where
  id : Option Int
  level : Option Int
  parentId : Option Int
  areaKm2 : Option F32
  upAreaKm2 : Option F32
  outletLon : Option F64
  outletLat : Option F64
  bbox : BboxLeaves
  geometry : Option (List UInt8)
  sourceId : Option String
  levelLabel : Option String
  deriving DecidableEq, Repr

/-- A row group: the rows in the batches in which they are read, and the statistics of the boxes. -/
structure CatchmentRowGroup where
  batches : List (List CatchmentRecord)
  bboxStats : BboxStats
  deriving DecidableEq, Repr

/-- A catchments file. -/
structure CatchmentTable where
  columns : CatchmentColumns
  rowGroups : List CatchmentRowGroup
  deriving DecidableEq, Repr

namespace CatchmentTable

variable (table : CatchmentTable)

/-- The rows of the row groups, in batches. -/
def groups : List (List (List CatchmentRecord)) := table.rowGroups.map CatchmentRowGroup.batches

/-- All rows, in file order. -/
def rows : List CatchmentRecord := table.groups.flatMap List.flatten

end CatchmentTable

/-! ### Rows -/

/-- The value of a column that must not be null. -/
def nonNull {α : Type} (column : String) (value : Option α) : Except String α :=
  Checks.okOr value s!"null value in non-nullable column \"{column}\""

/-- A value of a constructor, or its error with a label. -/
def labelled {α : Type} (label : String) (value : Except String α) : Except String α :=
  value.mapError fun e => s!"{label}: {e}"

/-- A value of a constructor where there is one. -/
def labelledOption {α β : Type} (label : String) (new : α → Except String β) :
    Option α → Except String (Option β)
  | none => .ok none
  | some raw => (labelled label (new raw)).map some

/-- A catchment unit. -/
structure CatchmentUnit where
  id : UnitId
  level : Level
  parentId : Option UnitId
  area : AreaKm2
  upstreamArea : Option AreaKm2
  outlet : OutletCoord
  bbox : BoundingBox
  geometry : WkbGeometry
  sourceId : Option String
  levelLabel : Option String
  deriving DecidableEq, Repr

section Extract

variable (hfx : Hfx) (midpoint : F32 → F32 → F64) (columns : CatchmentColumns)

/-- An outlet coordinate, from its column or from the bounds of the box; what a null bound holds is
not specified, and the row is rejected then. -/
def outletValue (column : String) (present : Bool) (value : Option F64) (min max : Option F32) :
    Except String F64 :=
  if present then nonNull column value else .ok (midpoint (min.getD ⟨0⟩) (max.getD ⟨0⟩))

/-- The level of a row. -/
def extractLevel (row : CatchmentRecord) : Except String Level :=
  if columns.level then do labelled "level" (hfx.level (← nonNull "level" row.level))
  else labelled "level default" (hfx.level 0)

/-- The catchment unit of a row. -/
def extractUnit (row : CatchmentRecord) : Except String CatchmentUnit := do
  let unitId ← labelled "id" (hfx.unitId (← nonNull "id" row.id))
  let level ← extractLevel hfx columns row
  let parentId ← labelledOption "parent_id" hfx.unitId
    (if columns.parentId then row.parentId else none)
  let area ← labelled "area_km2" (hfx.areaKm2 (← nonNull "area_km2" row.areaKm2))
  let upstreamArea ← labelledOption "up_area_km2" hfx.areaKm2 row.upAreaKm2
  let outletLon ← outletValue midpoint "outlet_lon" columns.outletLon row.outletLon
    row.bbox.xmin row.bbox.xmax
  let outletLat ← outletValue midpoint "outlet_lat" columns.outletLat row.outletLat
    row.bbox.ymin row.bbox.ymax
  let outlet ← labelled "outlet" (hfx.outletCoord outletLon outletLat)
  let minx ← nonNull "bbox.xmin" row.bbox.xmin
  let miny ← nonNull "bbox.ymin" row.bbox.ymin
  let maxx ← nonNull "bbox.xmax" row.bbox.xmax
  let maxy ← nonNull "bbox.ymax" row.bbox.ymax
  let bbox ← labelled "bbox" (hfx.boundingBox minx miny maxx maxy)
  let geometry ← labelled "geometry" (hfx.wkbGeometry (← nonNull "geometry" row.geometry))
  pure ⟨unitId, level, parentId, area, upstreamArea, outlet, bbox, geometry,
    if columns.sourceId then row.sourceId else none,
    if columns.levelLabel then row.levelLabel else none⟩

/-- The id of a row, for the id index. -/
def extractId (row : CatchmentRecord) : Except String UnitId := do
  (hfx.unitId (← Checks.okOr row.id "null id")).mapError fun e => s!"invalid unit id: {e}"

/-- The id and the level of a row. -/
def extractIdLevel (row : CatchmentRecord) : Except String CatchmentIdLevelRow := do
  let rawId ← nonNull "id" row.id
  let rawLevel ← nonNull "level" row.level
  let id ← labelled "id" (hfx.unitId rawId)
  let level ← labelled "level" (hfx.level rawLevel)
  pure ⟨id, level⟩

/-- A row of which everything is kept; an error names the row. -/
def keepRow {α : Type} (extract : CatchmentRecord → Except String α) (row : ℕ)
    (record : CatchmentRecord) : Except SessionError (Option α) :=
  ((extract record).map some).mapError fun e => .invalidRow "catchments.parquet" row e

/-- The catchment units of a batch. -/
def extractUnitsFromBatch :
    ℕ → List CatchmentRecord → Except SessionError (List CatchmentUnit) :=
  RowGroups.readRows (keepRow (extractUnit hfx midpoint columns))

/-- What the id index is built of. -/
def CatchmentTable.file (table : CatchmentTable) : CatchmentFile where
  totalRows := table.rows.length
  idGroups := RowGroups.readEach (RowGroups.readRows (keepRow (extractId hfx))) table.groups
    (List.range table.groups.length)
  idLevelGroups :=
    if table.groups = [] then .ok []
    else if ¬table.columns.level then
      .error (.parquetSchema "catchments.parquet" "missing column \"level\"")
    else RowGroups.readEach (RowGroups.readRows (keepRow (extractIdLevel hfx))) table.groups
      (List.range table.groups.length)

end Extract

/-! ### Geometries -/

/-- A geometry, of polygons of type `P`; other geometries are only named. -/
inductive Geometry (P : Type)
  | polygon (polygon : P)
  | multiPolygon (polygons : List P)
  | other (typeName : String)

/-- Errors of decoding a geometry. -/
inductive WkbDecodeError
  | decodeFailed (reason : String)
  | unexpectedType (expected actual : String)
  deriving DecidableEq, Repr

/-- Errors of queries for geometries. -/
inductive CatchmentGeometryQueryError
  | read (source : SessionError)
  | decode (unitId : UnitId) (source : WkbDecodeError)
  deriving DecidableEq, Repr

/-- A catchment geometry: polygons. -/
structure DecodedCatchmentGeometryRow (P : Type) where
  id : UnitId
  geometry : List P

section Geometry

variable {P : Type} (hfx : Hfx) (toGeo : List UInt8 → Except String (Geometry P))

/-- Decode polygons. -/
def decodeWkbMultiPolygonBytes (wkb : List UInt8) : Except WkbDecodeError (List P) :=
  match toGeo wkb with
  | .error e => .error (.decodeFailed e)
  | .ok (.polygon polygon) => .ok [polygon]
  | .ok (.multiPolygon polygons) => .ok polygons
  | .ok (.other typeName) => .error (.unexpectedType "Polygon or MultiPolygon" typeName)

/-- The decoded geometry of a row with a requested id. -/
def extractDecodedGeometry (requestedIds : Finset UnitId) (row : ℕ) (record : CatchmentRecord) :
    Except CatchmentGeometryQueryError (Option (DecodedCatchmentGeometryRow P)) := do
  let invalidRow := fun e => .read (.invalidRow "catchments.parquet" row e)
  let rawId ← (nonNull "id" record.id).mapError invalidRow
  let unitId ← (labelled "id" (hfx.unitId rawId)).mapError invalidRow
  if unitId ∉ requestedIds then pure none
  else do
    let wkb ← (nonNull "geometry" record.geometry).mapError invalidRow
    let geometry ← (decodeWkbMultiPolygonBytes toGeo wkb).mapError (.decode unitId)
    pure (some ⟨unitId, geometry⟩)

end Geometry

end WatershedDelineation
