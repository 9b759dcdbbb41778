import WatershedDelineation.General.Binary32
import WatershedDelineation.Raster.FlowDir
import WatershedDelineation.Raster.Grid

/-!
# Flow-direction and accumulation tiles

The typed tiles of `algo/flow_direction_tile.rs` and `algo/accumulation_tile.rs`, and how a
mask is applied to them. Masking leaves the cells of the mask as they are
(`get_of_mask`) and makes the others undefined (`get_of_not_mask`).
-/

namespace WatershedDelineation

/-- Whether a tile has been masked. -/
inductive TileState
  | raw
  | masked

namespace RasterTile

variable {T : Type}

/-- Replace the values of the cells outside the mask. -/
def maskWith (tile : RasterTile T) (mask : CatchmentMask) (value : T) (h : mask.dims = tile.dims) :
    RasterTile T :=
  { tile with
    data := List.zipWith (fun cell keep => if keep then cell else value) tile.data mask.data
    length_data := by
      obtain ⟨hrows, hcols⟩ := GridDims.mk.inj h
      rw [List.length_zipWith, tile.length_data, mask.length_data, hrows, hcols, min_self] }

theorem get_maskWith {tile : RasterTile T} {mask : CatchmentMask} {value : T}
    (h : mask.dims = tile.dims) {cell : GridCoord} (hcell : tile.dims.Holds cell) :
    (tile.maskWith mask value h).get cell
      = if mask.contains cell then tile.get cell else value := by
  have hidx : cell.row * tile.cols + cell.col < tile.data.length := by
    rw [tile.length_data]
    exact GridDims.index_lt hcell
  obtain ⟨hrows, hcols⟩ := GridDims.mk.inj h
  have hidx' : cell.row * tile.cols + cell.col < mask.data.length := by
    rw [mask.length_data, hrows, hcols, ← tile.length_data]
    exact hidx
  have hidx'' : cell.row * tile.cols + cell.col < (List.zipWith
      (fun cell keep => if keep then cell else value) tile.data mask.data).length := by
    rw [List.length_zipWith]
    exact lt_min hidx hidx'
  simp only [get, maskWith, CatchmentMask.contains, hcols]
  rw [List.getD_eq_getElem _ _ hidx, List.getD_eq_getElem _ _ hidx',
    List.getD_eq_getElem _ _ hidx'', List.getElem_zipWith]

end RasterTile

/-- Errors from checked flow-direction tile construction. -/
inductive FlowDirectionTileError
  /-- The tile's nodata byte decodes as a legal direction. -/
  | directionalNodata (nodata : UInt8) (encoding : FlowDirEncoding)
  deriving DecidableEq, Repr

/-- Decoded seed-cell semantics. -/
inductive DecodedFlowCell
  | direction (dir : FlowDir)
  | terminal
  deriving DecidableEq, Repr

/-- A tile of D8 flow-direction bytes, whose nodata byte is no direction. -/
structure FlowDirectionTile (s : TileState) where
  inner : RasterTile UInt8
  encoding : FlowDirEncoding
  nodata_ne : ∀ dir, FlowDir.fromEncoded inner.nodata encoding ≠ .ok (some dir)

/-- Decode a raw byte; the nodata sentinel, zero, exits and unknown bytes have no direction. -/
def decode (raw : UInt8) (encoding : FlowDirEncoding) : Option FlowDir :=
  if raw = 255 then none
  else
    match FlowDir.fromEncoded raw encoding with
    | .ok dir => dir
    | .error _ => none

namespace FlowDirectionTile

variable {s : TileState}

/-- Wrap a raw tile whose nodata byte is no direction. -/
def fromRaw (tile : RasterTile UInt8) (encoding : FlowDirEncoding) :
    Except FlowDirectionTileError (FlowDirectionTile .raw) :=
  match h : FlowDir.fromEncoded tile.nodata encoding with
  | .ok (some _) => .error (.directionalNodata tile.nodata encoding)
  | .ok none => .ok ⟨tile, encoding, fun dir hdir => by simp [h] at hdir⟩
  | .error _ => .ok ⟨tile, encoding, fun dir hdir => by simp [h] at hdir⟩

/-- The tile dimensions. -/
def dims (tile : FlowDirectionTile s) : GridDims := tile.inner.dims

/-- The geo-transform. -/
def geo (tile : FlowDirectionTile s) : GeoTransform := tile.inner.geo

/-- The direction at a cell. -/
def get (tile : FlowDirectionTile s) (cell : GridCoord) : Option FlowDir :=
  decode (tile.inner.get cell) tile.encoding

/-- The direction at a signed position; `none` outside the tile. -/
def getChecked (tile : FlowDirectionTile s) (row col : ℤ) : Option FlowDir :=
  (tile.inner.getChecked row col).bind fun raw => decode raw tile.encoding

/-- Seed-cell semantics: GRASS terminals are valid cells, undefined data is not. -/
def decodedCell (tile : FlowDirectionTile s) (cell : GridCoord) : Option DecodedFlowCell :=
  let raw := tile.inner.get cell
  if raw = tile.inner.nodata then none
  else
    match FlowDir.fromEncoded raw tile.encoding with
    | .ok (some direction) => some (.direction direction)
    | .ok none => if tile.encoding = .grass then some .terminal else none
    | .error _ => none

/-- Mask out cells by setting them to the nodata sentinel. -/
def applyMask (tile : FlowDirectionTile .raw) (mask : CatchmentMask) :
    Except RasterTileError (FlowDirectionTile .masked) :=
  if h : mask.dims = tile.inner.dims then
    .ok ⟨tile.inner.maskWith mask 255 h, tile.encoding, tile.nodata_ne⟩
  else
    .error (.dimensionMismatch (tile.dims.rows * tile.dims.cols) tile.dims.rows tile.dims.cols
      (mask.rows * mask.cols))

theorem getChecked_of_holds {tile : FlowDirectionTile s} {cell : GridCoord}
    (h : tile.dims.Holds cell) : tile.getChecked cell.row cell.col = tile.get cell := by
  rw [getChecked, RasterTile.getChecked_of_holds h]
  rfl

theorem getChecked_eq_some {tile : FlowDirectionTile s} {row col : ℤ} {dir : FlowDir}
    (h : tile.getChecked row col = some dir) :
    ∃ cell : GridCoord, tile.dims.Holds cell ∧ (cell.row : ℤ) = row ∧ (cell.col : ℤ) = col ∧
      tile.get cell = some dir := by
  obtain ⟨raw, hraw, hdir⟩ := Option.bind_eq_some_iff.mp h
  obtain ⟨cell, hcell, hrow, hcol, hget⟩ := RasterTile.getChecked_eq_some hraw
  exact ⟨cell, hcell, hrow, hcol, by rw [get, hget, hdir]⟩

/-- **Masking directions**: inside the mask nothing changes, outside there is no direction. -/
theorem applyMask_eq_ok {tile : FlowDirectionTile .raw} {mask : CatchmentMask}
    (h : mask.dims = tile.dims) : ∃ masked, tile.applyMask mask = .ok masked ∧
      masked.dims = tile.dims ∧ ∀ cell, tile.dims.Holds cell →
        masked.get cell = if mask.contains cell then tile.get cell else none := by
  refine ⟨_, dif_pos h, rfl, fun cell hcell => ?_⟩
  rw [get, RasterTile.get_maskWith h hcell, get]
  split_ifs
  · rfl
  · rfl

end FlowDirectionTile

/-- A tile of accumulation values; NaN is the nodata value. -/
structure AccumulationTile (s : TileState) where
  inner : RasterTile F32

namespace AccumulationTile

variable {s : TileState}

/-- The tile dimensions. -/
def dims (tile : AccumulationTile s) : GridDims := tile.inner.dims

/-- The geo-transform. -/
def geo (tile : AccumulationTile s) : GeoTransform := tile.inner.geo

/-- The raw value at a cell. -/
def getRaw (tile : AccumulationTile s) (cell : GridCoord) : F32 := tile.inner.get cell

/-- The value at a cell, unless it is NaN. -/
def get (tile : AccumulationTile s) (cell : GridCoord) : Option F32 :=
  let value := tile.inner.get cell
  if value.isNaN then none else some value

/-- Mask out cells by setting them to NaN. -/
def applyMask (tile : AccumulationTile .raw) (mask : CatchmentMask) :
    Except RasterTileError (AccumulationTile .masked) :=
  if h : mask.dims = tile.inner.dims then .ok ⟨tile.inner.maskWith mask F32.nan h⟩
  else
    .error (.dimensionMismatch (tile.dims.rows * tile.dims.cols) tile.dims.rows tile.dims.cols
      (mask.rows * mask.cols))

theorem get_eq_some_iff {tile : AccumulationTile s} {cell : GridCoord} {value : F32} :
    tile.get cell = some value ↔ tile.getRaw cell = value ∧ value.isNaN = false := by
  simp only [get, getRaw]
  split_ifs with h
  · simp only [false_iff]
    rintro ⟨rfl, hnan⟩
    simp [h] at hnan
  · simp only [Option.some.injEq]
    exact ⟨fun heq => ⟨heq, heq ▸ by simpa using h⟩, fun heq => heq.1⟩

/-- **Masking accumulations**: inside the mask nothing changes, outside there is NaN. -/
theorem applyMask_eq_ok {tile : AccumulationTile .raw} {mask : CatchmentMask}
    (h : mask.dims = tile.dims) : ∃ masked, tile.applyMask mask = .ok masked ∧
      masked.dims = tile.dims ∧ masked.geo = tile.geo ∧ ∀ cell, tile.dims.Holds cell →
        masked.getRaw cell = if mask.contains cell then tile.getRaw cell else F32.nan :=
  ⟨_, dif_pos h, rfl, rfl, fun _ hcell => RasterTile.get_maskWith h hcell⟩

end AccumulationTile

end WatershedDelineation
