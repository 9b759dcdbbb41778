import WatershedDelineation.Cog.ChunkSpec

/-!
# Decoding a window

`decode_window` of `cog.rs`: the planned tiles are decoded one after the other, and the rows of
each are copied into the window. Words of 32 bits that do not fit and slices out of range panic.
-/

namespace WatershedDelineation

open Tiling

/-! ### Copying tiles -/

/-- One slice copy: `len` samples from `srcStart` of the tile to `dstStart` of the window. -/
structure RowCopy where
  srcStart : ℕ
  dstStart : ℕ
  len : ℕ
  deriving DecidableEq, Repr

/-- What of a tile is copied. -/
structure TileCopySpan where
  srcWidth : ℕ
  srcHeight : ℕ
  dstCol : ℕ
  dstRow : ℕ
  copyWidth : ℕ
  copyHeight : ℕ
  deriving DecidableEq, Repr

/-- The part of a tile that lies in the window. -/
def tileCopySpan (metadata : CogMetadata) (window : RasterPixelWindow) (tileCol tileRow : ℕ) :
    Except (Fault CacheError) TileCopySpan := do
  let tileX ← Checked.orPanic (Checked.mul 32 tileCol metadata.tileWidth)
  let tileY ← Checked.orPanic (Checked.mul 32 tileRow metadata.tileHeight)
  let srcWidth := min metadata.tileWidth (← Checked.orPanic (Checked.sub metadata.width tileX))
  let srcHeight := min metadata.tileHeight (← Checked.orPanic (Checked.sub metadata.height tileY))
  let dstCol := max window.colOff tileX
  let dstRow := max window.rowOff tileY
  let copyEndCol := min (← Checked.orPanic (Checked.add 32 window.colOff window.width))
    (← Checked.orPanic (Checked.add 32 tileX srcWidth))
  let copyEndRow := min (← Checked.orPanic (Checked.add 32 window.rowOff window.height))
    (← Checked.orPanic (Checked.add 32 tileY srcHeight))
  .ok ⟨srcWidth, srcHeight, dstCol, dstRow, ← Checked.orPanic (Checked.sub copyEndCol dstCol),
    ← Checked.orPanic (Checked.sub copyEndRow dstRow)⟩

/-- The slices of one row. -/
def rowCopy (metadata : CogMetadata) (window : RasterPixelWindow) (tileCol tileRow : ℕ)
    (span : TileCopySpan) (row : ℕ) : Except (Fault CacheError) RowCopy := do
  let dstRow ← Checked.orPanic (Checked.add 32 span.dstRow row)
  let tileY ← Checked.orPanic (Checked.mul 32 tileRow metadata.tileHeight)
  let srcRow ← Checked.orPanic (Checked.sub dstRow tileY)
  let srcRowStart ← Checked.orPanic (Checked.mul 32 srcRow span.srcWidth)
  let tileX ← Checked.orPanic (Checked.mul 32 tileCol metadata.tileWidth)
  let srcCol ← Checked.orPanic (Checked.sub span.dstCol tileX)
  let srcStart ← Checked.orPanic (Checked.add 32 srcRowStart srcCol)
  let outRow ← Checked.orPanic (Checked.sub dstRow window.rowOff)
  let outRowStart ← Checked.orPanic (Checked.mul 32 outRow window.width)
  let outCol ← Checked.orPanic (Checked.sub span.dstCol window.colOff)
  let dstStart ← Checked.orPanic (Checked.add 32 outRowStart outCol)
  .ok ⟨srcStart, dstStart, span.copyWidth⟩

/-- The slices of all rows of a tile. -/
def rowCopies (metadata : CogMetadata) (window : RasterPixelWindow) (tileIndex : ℕ) :
    Except (Fault CacheError) (List RowCopy) := do
  let (tileCol, tileRow) ← tileColRow metadata tileIndex
  let span ← tileCopySpan metadata window tileCol tileRow
  (List.range span.copyHeight).mapM (rowCopy metadata window tileCol tileRow span)

section Copy

variable {T : Type}

/-- Copy a slice; both slices must be in range. -/
def copyFromSlice (tileData out : List T) (copy : RowCopy) : Except (Fault CacheError) (List T) :=
  if copy.dstStart + copy.len ≤ out.length ∧ copy.srcStart + copy.len ≤ tileData.length then
    .ok (out.take copy.dstStart ++ (tileData.drop copy.srcStart).take copy.len
      ++ out.drop (copy.dstStart + copy.len))
  else .error .panic

/-- Copy the rows of a tile into the window. The source has one function for bytes and one for
single precision numbers, and they differ in nothing else. -/
def copyTile (tileData out : List T) (metadata : CogMetadata) (window : RasterPixelWindow)
    (tileIndex : ℕ) : Except (Fault CacheError) (List T) := do
  let (tileCol, tileRow) ← tileColRow metadata tileIndex
  let span ← tileCopySpan metadata window tileCol tileRow
  (List.range span.copyHeight).foldlM (fun out row => do
    copyFromSlice tileData out (← rowCopy metadata window tileCol tileRow span row)) out

end Copy

/-! ### Windows -/

/-- Most bytes of a window. -/
def maxWindowAllocationBytes : ℕ := 1073741824

/-- The number of samples of a window. -/
def windowAllocationLen (path : String) (width height sampleWidth : ℕ) :
    Except (Fault CacheError) ℕ := do
  let elements ← Checked.orErr (Checked.mul 64 width height)
    (remoteLayoutError path "TIFF window element count overflow")
  let bytes ← Checked.orErr (Checked.mul 64 elements sampleWidth)
    (remoteLayoutError path "TIFF window allocation bytes overflow")
  if bytes > maxWindowAllocationBytes then
    .error (.err (remoteLayoutError path
      s!"TIFF window allocation bytes {bytes} exceeds window ceiling {maxWindowAllocationBytes}"))
  else .ok elements

/-- The nodata value of a raster of bytes. -/
def directionNodataByte (sampleType : CogSampleType) (declared remotePath : String) :
    Except (Fault CacheError) UInt8 :=
  match sampleType with
  | .u8 => Checked.orErr ((parseInt 0 255 declared).map fun value => UInt8.ofNat value.toNat)
      (remoteLayoutError remotePath
        s!"declared U8 nodata {declared.quote} is not representable as u8")
  | .i8 => Checked.orErr ((parseInt (-128) 127 declared).map fun value =>
        UInt8.ofNat (value % 256).toNat)
      (remoteLayoutError remotePath
        s!"declared I8 nodata {declared.quote} is not representable as i8")
  | sampleType => .error (.err (remoteLayoutError remotePath
      s!"sample type {sampleType.debug} does not use byte nodata"))

/-- A planned tile whose bytes have been located; of it decoding reads the index. -/
structure ResolvedTile where
  index : ℕ
  deriving DecidableEq, Repr

/-- The tiles that are decoded. -/
structure ResolvedTilePlan where
  tiles : List ResolvedTile
  deriving DecidableEq, Repr

/-- The samples of a window. -/
inductive WindowData
  | u8 (data : List UInt8)
  | f32 (data : List F32)
  deriving DecidableEq, Repr

section Decode

variable (inflate : List UInt8 → ℕ → Except String (List UInt8))
  (parseF32 : String → Option F32)

variable (compressed : List (List UInt8)) (metadata : CogMetadata) (window : RasterPixelWindow)
  (plan : ResolvedTilePlan) (remotePath : String)

/-- `decodeWindow` for rasters of bytes. -/
def decodeU8Window : Except (Fault CacheError) (List UInt8) := do
  let nodata ← directionNodataByte metadata.sampleType metadata.nodata remotePath
  let length ← windowAllocationLen remotePath window.width window.height 1
  (plan.tiles.zip compressed).foldlM (fun out (tile, bytes) => do
    match ← decodeOwnedChunk inflate bytes metadata tile.index remotePath with
    | .u8 data => copyTile data out metadata window tile.index
    | _ => .error (.err (remoteLayoutError remotePath "decoded tile type mismatch")))
    (List.replicate length nodata)

/-- `decodeWindow` for rasters of single precision numbers or integers. -/
def decodeF32Window : Except (Fault CacheError) (List F32) := do
  let length ← windowAllocationLen remotePath window.width window.height 4
  let nodata := parseF32 metadata.nodata
  (plan.tiles.zip compressed).foldlM (fun out (tile, bytes) => do
    match ← decodeOwnedChunk inflate bytes metadata tile.index remotePath with
    | .f32 data => copyTile data out metadata window tile.index
    | _ => .error (.err (remoteLayoutError remotePath "decoded tile type mismatch")))
    (List.replicate length (nodata.getD F32.nan))

/-- Decode the planned tiles into a window. -/
def decodeWindow : Except (Fault CacheError) WindowData :=
  match metadata.sampleType with
  | .u8 | .i8 => do
    .ok (.u8 (← decodeU8Window inflate compressed metadata window plan remotePath))
  | .f32 | .i32 => do
    .ok (.f32 (← decodeF32Window inflate parseF32 compressed metadata window plan remotePath))

end Decode

end WatershedDelineation
