import Mathlib.Algebra.Order.Floor.Ring
import Mathlib.Data.Rat.Floor
import Mathlib.Tactic.FieldSimp
import Mathlib.Tactic.Ring
import WatershedDelineation.General.ClosedWalk
import WatershedDelineation.General.FuelLoop
import WatershedDelineation.General.RowMajor

/-!
# Grids, tiles and polygons

The data of the raster algorithms: grid and native coordinates, the affine `GeoTransform`,
row-major tiles and masks, and polygons. Native coordinates are exact rationals.

Tiles, masks and polygons carry what their constructors establish: a `RasterTile` is not
empty and holds one value per cell, a `CatchmentMask` holds one boolean per cell, and the
rings of a `Polygon` are closed, since the polygon constructor closes them.
-/

namespace WatershedDelineation

open ClosedWalk

/-- Raster-native coordinates. -/
structure NativeCoord where
  x : ℚ
  y : ℚ
  deriving DecidableEq, Repr

/-- A pixel position. -/
structure GridCoord where
  row : ℕ
  col : ℕ
  deriving DecidableEq, Repr

/-- Grid dimensions. -/
structure GridDims where
  rows : ℕ
  cols : ℕ
  deriving DecidableEq, Repr

namespace GridDims

/-- The number of cells. -/
def cellCount (dims : GridDims) : ℕ := dims.rows * dims.cols

/-- The cells of the grid. -/
def Holds (dims : GridDims) (cell : GridCoord) : Prop :=
  cell.row < dims.rows ∧ cell.col < dims.cols

instance (dims : GridDims) (cell : GridCoord) : Decidable (dims.Holds cell) :=
  inferInstanceAs (Decidable (_ ∧ _))

/-- The row-major position of a cell. -/
def index (dims : GridDims) (cell : GridCoord) : ℕ := cell.row * dims.cols + cell.col

variable {dims : GridDims} {a b : GridCoord}

theorem index_lt (h : dims.Holds a) : dims.index a < dims.rows * dims.cols :=
  RowMajor.index_lt h.1 h.2

/-- Distinct cells of a grid have distinct positions. -/
theorem index_inj (ha : a.col < dims.cols) (hb : b.col < dims.cols)
    (h : dims.index a = dims.index b) : a = b := by
  obtain ⟨hrow, hcol⟩ := RowMajor.index_inj ha hb h
  cases a
  cases b
  exact congrArg₂ GridCoord.mk hrow hcol

end GridDims

/-- GDAL-style affine transform without rotation: the origin of the top-left corner and the
pixel sizes. The pixel height is negative for north-up rasters. -/
structure GeoTransform where
  originX : ℚ
  originY : ℚ
  pixelWidth : ℚ
  pixelHeight : ℚ
  deriving DecidableEq, Repr

namespace GeoTransform

/-- One pixel's area in native square units. -/
def pixelArea (geo : GeoTransform) : ℚ := |geo.pixelWidth * geo.pixelHeight|

/-- The centre of a cell. -/
def pixelToCoord (geo : GeoTransform) (cell : GridCoord) : NativeCoord where
  x := geo.originX + (cell.col + 1 / 2) * geo.pixelWidth
  y := geo.originY + (cell.row + 1 / 2) * geo.pixelHeight

/-- Fractional (row, column) position of a coordinate. -/
def coordToPixelF64 (geo : GeoTransform) (coord : NativeCoord) : ℚ × ℚ :=
  ((coord.y - geo.originY) / geo.pixelHeight, (coord.x - geo.originX) / geo.pixelWidth)

/-- The native coordinates of the grid corner between rows and columns: a pixel corner, with
no half-pixel offset. -/
def cornerCoord (geo : GeoTransform) (row col : ℚ) : NativeCoord where
  x := geo.originX + col * geo.pixelWidth
  y := geo.originY + row * geo.pixelHeight

/-- Whether native and pixel coordinates determine each other. -/
def Invertible (geo : GeoTransform) : Prop := geo.pixelWidth ≠ 0 ∧ geo.pixelHeight ≠ 0

instance (geo : GeoTransform) : Decidable geo.Invertible := inferInstanceAs (Decidable (_ ∧ _))

/-- Unit pixels, north up. -/
def northUp : GeoTransform := ⟨0, 0, 1, -1⟩

variable {geo : GeoTransform}

theorem coordToPixelF64_cornerCoord (h : geo.Invertible) (row col : ℚ) :
    geo.coordToPixelF64 (geo.cornerCoord row col) = (row, col) := by
  obtain ⟨hw, hh⟩ := h
  simp [coordToPixelF64, cornerCoord, hw, hh]

theorem pixelToCoord_eq (cell : GridCoord) :
    geo.pixelToCoord cell = geo.cornerCoord (cell.row + 1 / 2) (cell.col + 1 / 2) := rfl

end GeoTransform

/-! ### Tiles and masks -/

/-- Errors from raster tile construction. -/
inductive RasterTileError
  /-- The data length does not match rows × cols. -/
  | dimensionMismatch (expected rows cols actual : ℕ)
  /-- The tile has zero rows or zero columns. -/
  | emptyTile (rows cols : ℕ)
  deriving DecidableEq, Repr

/-- Row-major raster tile with a sentinel nodata value. -/
structure RasterTile (T : Type) where
  data : List T
  rows : ℕ
  cols : ℕ
  nodata : T
  geo : GeoTransform
  rows_pos : 0 < rows
  cols_pos : 0 < cols
  length_data : data.length = rows * cols

namespace RasterTile

variable {T : Type}

/-- A tile from an existing row-major buffer. -/
def fromVec (data : List T) (dims : GridDims) (nodata : T) (geo : GeoTransform) :
    Except RasterTileError (RasterTile T) :=
  if h : dims.rows = 0 ∨ dims.cols = 0 then .error (.emptyTile dims.rows dims.cols)
  else if hlen : data.length = dims.rows * dims.cols then
    .ok ⟨data, dims.rows, dims.cols, nodata, geo, by omega, by omega, hlen⟩
  else .error (.dimensionMismatch (dims.rows * dims.cols) dims.rows dims.cols data.length)

/-- The tile dimensions. -/
def dims (tile : RasterTile T) : GridDims := ⟨tile.rows, tile.cols⟩

/-- The value at a cell of the tile. -/
def get (tile : RasterTile T) (cell : GridCoord) : T :=
  tile.data.getD (cell.row * tile.cols + cell.col) tile.nodata

/-- The value at a signed position; `none` outside the tile. -/
def getChecked (tile : RasterTile T) (row col : ℤ) : Option T :=
  if row < 0 ∨ col < 0 ∨ row.toNat ≥ tile.rows ∨ col.toNat ≥ tile.cols then none
  else some (tile.get ⟨row.toNat, col.toNat⟩)

theorem getChecked_of_holds {tile : RasterTile T} {cell : GridCoord} (h : tile.dims.Holds cell) :
    tile.getChecked cell.row cell.col = some (tile.get cell) := by
  have hr : cell.row < tile.rows := h.1
  have hc : cell.col < tile.cols := h.2
  rw [getChecked, if_neg (by omega)]
  rfl

theorem getChecked_eq_some {tile : RasterTile T} {row col : ℤ} {value : T}
    (h : tile.getChecked row col = some value) :
    ∃ cell : GridCoord, tile.dims.Holds cell ∧ (cell.row : ℤ) = row ∧ (cell.col : ℤ) = col ∧
      tile.get cell = value := by
  rw [getChecked] at h
  split_ifs at h with hout
  refine ⟨⟨row.toNat, col.toNat⟩, ⟨?_, ?_⟩, ?_, ?_, Option.some.inj h⟩ <;>
    simp only [dims] <;> omega

end RasterTile

/-- Boolean mask over a grid. -/
structure CatchmentMask where
  data : List Bool
  rows : ℕ
  cols : ℕ
  length_data : data.length = rows * cols

namespace CatchmentMask

/-- The grid dimensions. -/
def dims (mask : CatchmentMask) : GridDims := ⟨mask.rows, mask.cols⟩

/-- A mask from raw data; the length is asserted. -/
def new {ε : Type} (data : List Bool) (dims : GridDims) : Except (Fault ε) CatchmentMask :=
  if h : data.length = dims.rows * dims.cols then .ok ⟨data, dims.rows, dims.cols, h⟩
  else .error .panic

/-- A mask from traced upstream data; the length is asserted. -/
def fromTraced {ε : Type} (data : List Bool) (dims : GridDims) : Except (Fault ε) CatchmentMask :=
  if h : data.length = dims.rows * dims.cols then .ok ⟨data, dims.rows, dims.cols, h⟩
  else .error .panic

/-- Whether a cell of the grid is included in the mask. -/
def contains (mask : CatchmentMask) (cell : GridCoord) : Bool :=
  mask.data.getD (cell.row * mask.cols + cell.col) false

/-- The number of included cells. -/
def cellCount (mask : CatchmentMask) : ℕ := mask.data.countP id

/-- The included cells, as a set. -/
def Includes (mask : CatchmentMask) (cell : GridCoord) : Prop :=
  mask.dims.Holds cell ∧ mask.contains cell = true

instance (mask : CatchmentMask) (cell : GridCoord) : Decidable (mask.Includes cell) :=
  inferInstanceAs (Decidable (_ ∧ _))

theorem new_eq_ok_iff {ε : Type} {data : List Bool} {dims : GridDims} {mask : CatchmentMask} :
    (new data dims : Except (Fault ε) CatchmentMask) = .ok mask ↔
      mask.data = data ∧ mask.dims = dims := by
  constructor
  · intro h
    rw [new] at h
    split_ifs at h
    obtain rfl := Except.ok.inj h
    exact ⟨rfl, rfl⟩
  · rintro ⟨rfl, rfl⟩
    exact dif_pos mask.length_data

/-- Some flag of a mask is set exactly when it includes a cell. -/
theorem any_data_iff (mask : CatchmentMask) :
    mask.data.any id = true ↔ ∃ cell, mask.Includes cell := by
  rw [List.any_eq_true]
  constructor
  · rintro ⟨_, hmem, hx⟩
    obtain ⟨i, hi, rfl⟩ := List.mem_iff_getElem.mp hmem
    obtain ⟨r, c, hr, hc, rfl⟩ := RowMajor.exists_index (mask.length_data ▸ hi)
    refine ⟨⟨r, c⟩, ⟨hr, hc⟩, ?_⟩
    rw [contains, List.getD_eq_getElem _ _ hi]
    exact hx
  · rintro ⟨cell, hcell, hmem⟩
    have hidx : cell.row * mask.cols + cell.col < mask.data.length := by
      rw [mask.length_data]
      exact GridDims.index_lt hcell
    rw [contains, List.getD_eq_getElem _ _ hidx] at hmem
    exact ⟨_, List.getElem_mem hidx, hmem⟩

end CatchmentMask

/-- A row-major list is determined by its values at the cells of the grid. -/
theorem ext_getD {T : Type} {d : T} {dims : GridDims} {l l' : List T}
    (hl : l.length = dims.rows * dims.cols) (hl' : l'.length = dims.rows * dims.cols)
    (h : ∀ cell, dims.Holds cell → l.getD (dims.index cell) d = l'.getD (dims.index cell) d) :
    l = l' :=
  RowMajor.ext_getD hl hl' fun r c hr hc => h ⟨r, c⟩ ⟨hr, hc⟩

/-- Masks of one grid that include the same cells are equal. -/
theorem CatchmentMask.ext_includes {mask mask' : CatchmentMask} (hdims : mask.dims = mask'.dims)
    (h : ∀ cell, mask.Includes cell ↔ mask'.Includes cell) : mask = mask' := by
  have hdata : mask.data = mask'.data := by
    have hlen : mask'.data.length = mask.dims.rows * mask.dims.cols := by
      rw [hdims]
      exact mask'.length_data
    refine ext_getD (d := false) mask.length_data hlen fun cell hcell => ?_
    have hiff := h cell
    simp only [CatchmentMask.Includes, ← hdims, hcell, true_and] at hiff
    rw [Bool.eq_iff_iff]
    refine hiff.trans ?_
    rw [hdims]
    rfl
  obtain ⟨hrows, hcols⟩ := GridDims.mk.inj hdims
  cases mask
  cases mask'
  simp_all

/-! ### Polygons -/

/-- The point list of a ring, closed by repeating its first point where necessary. -/
def LineString.close (coords : List NativeCoord) : List NativeCoord :=
  if Closed coords then coords else coords ++ coords.take 1

theorem LineString.closed_close (coords : List NativeCoord) :
    Closed (LineString.close coords) := by
  rw [LineString.close]
  split_ifs with h
  · exact h
  · cases coords with
    | nil => exact absurd rfl h
    | cons a l =>
      rw [Closed, List.take_succ_cons, List.take_zero, List.getLast?_concat]
      rfl

theorem LineString.close_eq {coords : List NativeCoord} (h : Closed coords) :
    LineString.close coords = coords :=
  if_pos h

/-- A polygon: an exterior ring and interior rings, all closed. -/
structure Polygon where
  exterior : List NativeCoord
  interiors : List (List NativeCoord)
  closed_exterior : Closed exterior
  closed_interiors : ∀ ring ∈ interiors, Closed ring

/-- The polygon constructor: every ring is closed first. -/
def Polygon.new (exterior : List NativeCoord) (interiors : List (List NativeCoord)) : Polygon where
  exterior := LineString.close exterior
  interiors := interiors.map LineString.close
  closed_exterior := LineString.closed_close exterior
  closed_interiors ring hring := by
    obtain ⟨coords, -, rfl⟩ := List.mem_map.mp hring
    exact LineString.closed_close coords

/-- All rings of a polygon, the exterior first. -/
def Polygon.rings (polygon : Polygon) : List (List NativeCoord) :=
  polygon.exterior :: polygon.interiors

theorem Polygon.closed_of_mem_rings {polygon : Polygon} {ring : List NativeCoord}
    (h : ring ∈ polygon.rings) : Closed ring := by
  rcases List.mem_cons.mp h with rfl | h
  · exact polygon.closed_exterior
  · exact polygon.closed_interiors ring h

/-- A multipolygon: its component polygons. -/
abbrev MultiPolygon := List Polygon

end WatershedDelineation
