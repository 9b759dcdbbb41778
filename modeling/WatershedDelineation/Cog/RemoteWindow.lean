import WatershedDelineation.Cog.RemoteTiff

/-!
# Preparing a window of a remote raster

`prepare_window` of `cog.rs` and the first half of `fetch_window_to_path`: the layout is checked,
a window is chosen, its tiles are planned and their places fetched from the two tile arrays, and
then the compressed tiles themselves are fetched.

How a box of coordinates becomes a window is floating point arithmetic. It is a parameter here,
which gives any window inside the raster (`RasterWindowRequest`).
-/

namespace WatershedDelineation

open Checked (orErr orPanic rejectIf)

/-! ### Metadata -/

/-- Most bytes of a compressed tile. -/
def maxCompressedChunkBytes : ℕ := 16777216

/-- Most bytes of all compressed tiles of a window. -/
def maxCoveredChunkBytes : ℕ := 1073741824

/-- The metadata of a remote raster, as its header says. The model scale and tie point stand for
the origin and the pixel size, which are computed from them. -/
structure RemoteMetadata where
  width : ℕ
  height : ℕ
  tileWidth : ℕ
  tileHeight : ℕ
  scale : List ℕ
  tiepoint : List ℕ
  nodata : String
  sampleType : CogSampleType
  compression : ℕ
  predictor : ℕ
  tileOffsets : IndexDescriptor
  tileByteCounts : IndexDescriptor
  width_lt : width < 2 ^ 32
  height_lt : height < 2 ^ 32
  tileWidth_lt : tileWidth < 2 ^ 32
  tileHeight_lt : tileHeight < 2 ^ 32

/-- A word of 32 bits. -/
def fitU32 (path reason : String) (n : ℕ) : Except (Fault CacheError) { n : ℕ // n < 2 ^ 32 } :=
  if h : n < 2 ^ 32 then .ok ⟨n, h⟩ else .error (.err (remoteLayoutError path reason))

/-- The metadata of a layout. -/
def metadataFromLayout (layout : RemoteLayout) (remotePath : String) :
    Except (Fault CacheError) RemoteMetadata := do
  let width ← fitU32 remotePath "TIFF width does not fit u32" layout.width
  let height ← fitU32 remotePath "TIFF height does not fit u32" layout.height
  let tileWidth ← fitU32 remotePath "TIFF tile width does not fit u32" layout.tileWidth
  let tileHeight ← fitU32 remotePath "TIFF tile height does not fit u32" layout.tileHeight
  .ok {
    width := width.1, height := height.1, tileWidth := tileWidth.1, tileHeight := tileHeight.1
    scale := layout.scale, tiepoint := layout.tiepoint, nodata := layout.nodata
    sampleType := layout.sampleType, compression := layout.compression
    predictor := layout.predictor, tileOffsets := layout.tileOffsets
    tileByteCounts := layout.tileByteCounts, width_lt := width.2, height_lt := height.2
    tileWidth_lt := tileWidth.2, tileHeight_lt := tileHeight.2 }

/-- The number of tiles in a row of tiles; tiles without width panic. -/
def RemoteMetadata.tilesAcross (metadata : RemoteMetadata) : Except (Fault CacheError) ℕ :=
  orPanic (Checked.divCeil metadata.width metadata.tileWidth)

/-- The number of rows of tiles; tiles without height panic. -/
def RemoteMetadata.tilesDown (metadata : RemoteMetadata) : Except (Fault CacheError) ℕ :=
  orPanic (Checked.divCeil metadata.height metadata.tileHeight)

/-- The metadata as planning reads it. Planning divides by the sizes of the tiles. -/
def RemoteMetadata.forPlanning (metadata : RemoteMetadata) :
    Except (Fault CacheError) CogMetadata :=
  if h : 0 < metadata.tileWidth ∧ 0 < metadata.tileHeight then
    .ok { metadata with tileWidth_pos := h.1, tileHeight_pos := h.2 }
  else .error .panic

/-- The name of a kind in messages. -/
def RasterKind.debug : RasterKind → String
  | .flowDir => "FlowDir"
  | .flowAcc => "FlowAcc"

/-- The sample types of a kind. -/
def RasterKind.validSample : RasterKind → CogSampleType → Bool
  | .flowDir, .u8 | .flowDir, .i8 => true
  | .flowAcc, .f32 | .flowAcc, .i32 => true
  | _, _ => false

/-- The predictors of a sample type. -/
def CogSampleType.supports : CogSampleType → ℕ → Bool
  | .u8, predictor | .i8, predictor | .i32, predictor => predictor = 1 ∨ predictor = 2
  | .f32, predictor => predictor = 1 ∨ predictor = 3

/-- What the message about a predictor says of a sample type. -/
def CogSampleType.supported : CogSampleType → String
  | .u8 => "U8 supports TIFF predictors 1 or 2"
  | .i8 => "I8 supports TIFF predictors 1 or 2"
  | .i32 => "I32 supports TIFF predictors 1 or 2"
  | .f32 => "F32 supports TIFF predictors 1 or 3"

/-- Check that a raster is one that the reader can decode. -/
def validateMeritLayout (metadata : RemoteMetadata) (kind : RasterKind) (remotePath : String) :
    Except (Fault CacheError) Unit := do
  rejectIf (metadata.tileWidth ≠ 512 ∨ metadata.tileHeight ≠ 512) (remoteLayoutError remotePath
    s!"expected 512x512 tiled COG, got {metadata.tileWidth}x{metadata.tileHeight}")
  let expectedTiles ← orErr (Checked.mul 64 (← metadata.tilesAcross) (← metadata.tilesDown))
    (remoteLayoutError remotePath "TIFF tile count overflow")
  rejectIf (metadata.tileOffsets.count ≠ expectedTiles ∨
      metadata.tileByteCounts.count ≠ expectedTiles)
    (remoteLayoutError remotePath "tile offset/count arrays do not match raster dimensions")
  rejectIf (¬kind.validSample metadata.sampleType) (remoteLayoutError remotePath
    s!"{kind.debug} has unsupported samples {metadata.sampleType.debug}")
  rejectIf (¬(metadata.compression = 8 ∨ metadata.compression = 32946))
    (remoteLayoutError remotePath s!"expected DEFLATE compression, got {metadata.compression}")
  rejectIf (¬metadata.sampleType.supports metadata.predictor) (remoteLayoutError remotePath
    s!"{metadata.sampleType.supported}, got {metadata.predictor}")

/-! ### Resolving a plan -/

/-- The range of an entry of a tile array, if it has to be fetched. -/
def descriptorEntryRange (path : String) (descriptor : IndexDescriptor) (index objectSize : ℕ) :
    Except (Fault CacheError) (Option RemoteRange) := do
  rejectIf (descriptor.count ≤ index) (remoteLayoutError path
    s!"TIFF tile-index entry {index} exceeds descriptor count")
  match descriptor.storage with
  | .inlineScalar _ => do
    rejectIf (descriptor.count ≠ 1 ∨ index ≠ 0)
      (remoteLayoutError path "TIFF inline tile-index descriptor is not scalar")
    .ok none
  | .outOfLine base => do
    let offset ← orErr ((Checked.mul 64 index descriptor.elementWidth).bind (Checked.add 64 base))
      (remoteLayoutError path "TIFF tile-index entry offset overflow")
    let range ← checkedRemoteRange path offset descriptor.elementWidth objectSize
    .ok (some range)

/-- The value of an entry of a tile array. -/
def decodeDescriptorValue (path : String) (descriptor : IndexDescriptor) (index : ℕ)
    (bytes : Option (List UInt8)) (tag : ℕ) : Except (Fault CacheError) ℕ :=
  match descriptor.storage with
  | .inlineScalar value => .ok value
  | .outOfLine _ => do
    let bytes ← orErr bytes (remoteLayoutError path
      s!"TIFF tile-index tag {tag} entry {index} response is missing")
    rejectIf (bytes.length ≠ descriptor.elementWidth) (remoteLayoutError path
      (s!"TIFF tile-index tag {tag} entry {index} returned {bytes.length} bytes, " ++
        s!"expected {descriptor.elementWidth}"))
    match descriptor.fieldType with
    | 4 => remoteU32 path bytes
    | 16 => remoteU64 path bytes
    | fieldType => .error (.err (remoteLayoutError path
        s!"unsupported TIFF tile-index field type {fieldType}"))

/-- A planned tile and its range in the file. -/
structure LocatedTile where
  index : ℕ
  range : RemoteRange
  deriving DecidableEq, Repr

/-- The planned tiles and their ranges. -/
structure LocatedTilePlan where
  objectSize : ℕ
  tiles : List LocatedTile
  compressedBytes : ℕ
  deriving DecidableEq, Repr

/-- The ranges of the entries of one tile. -/
def indexEntryRanges (path : String) (tileOffsets tileByteCounts : IndexDescriptor)
    (objectSize index : ℕ) : Except (Fault CacheError) (List RemoteRange) := do
  let offsetRange ← descriptorEntryRange path tileOffsets index objectSize
  let countRange ← descriptorEntryRange path tileByteCounts index objectSize
  .ok (offsetRange.toList ++ countRange.toList)

/-- The next response, if the array has to be fetched. -/
def nextResponse (descriptor : IndexDescriptor) (responses : List (List UInt8))
    (responseIndex : ℕ) : Except (Fault CacheError) (Option (List UInt8) × ℕ) :=
  match descriptor.storage with
  | .inlineScalar _ => .ok (none, responseIndex)
  | .outOfLine _ => do
    let next ← orPanic (Checked.add 64 responseIndex 1)
    .ok (responses[responseIndex]?, next)

/-- The tiles resolved so far, and the number of responses used for them. -/
structure Resolving where
  responseIndex : ℕ
  tiles : List LocatedTile
  compressedBytes : ℕ

/-- Resolve one tile. -/
def resolveTile (path : String) (tileOffsets tileByteCounts : IndexDescriptor)
    (responses : List (List UInt8)) (state : Resolving) (index : ℕ) :
    Except (Fault CacheError) Resolving := do
  let (offsetBytes, responseIndex) ← nextResponse tileOffsets responses state.responseIndex
  let (countBytes, responseIndex) ← nextResponse tileByteCounts responses responseIndex
  let offset ← decodeDescriptorValue path tileOffsets index offsetBytes 324
  let byteCount ← decodeDescriptorValue path tileByteCounts index countBytes 325
  let stop ← orErr (Checked.add 64 offset byteCount)
    (remoteLayoutError path "TIFF compressed chunk end overflow")
  let compressedBytes ← orErr (Checked.add 64 state.compressedBytes byteCount)
    (remoteLayoutError path "TIFF covered compressed bytes overflow")
  .ok ⟨responseIndex, state.tiles ++ [⟨index, offset, stop⟩], compressedBytes⟩

/-- The ranges of all entries of a plan. -/
def indexRanges (path : String) (tileOffsets tileByteCounts : IndexDescriptor) (objectSize : ℕ)
    (indices : List ℕ) : Except (Fault CacheError) (List RemoteRange) := do
  let ranges ← indices.mapM (indexEntryRanges path tileOffsets tileByteCounts objectSize)
  .ok ranges.flatten

/-- Resolve all tiles of a plan. -/
def resolveTiles (path : String) (tileOffsets tileByteCounts : IndexDescriptor)
    (responses : List (List UInt8)) (indices : List ℕ) : Except (Fault CacheError) Resolving :=
  indices.foldlM (resolveTile path tileOffsets tileByteCounts responses) ⟨0, [], 0⟩

/-- The number of bytes of the responses. -/
def indexResponseBytes (path : String) (responses : List (List UInt8)) :
    Except (Fault CacheError) ℕ :=
  responses.foldlM (fun total response => orErr (Checked.add 64 total response.length)
    (remoteLayoutError path "TIFF index response bytes overflow")) 0

/-- Fetch the entries of a plan; no request is made for none. -/
def fetchIndex (store : RemoteStore) (path : String) (ranges : List RemoteRange) :
    RemoteRead (List (List UInt8)) :=
  if ranges = [] then pure [] else store.fetchAll path .tileIndex ranges

/-- Find the tiles of a plan in the file; also the number of bytes read for this. -/
def resolveTilePlan (store : RemoteStore) (path : String) (metadata : RemoteMetadata)
    (geometry : TilePlan) (objectSize : ℕ) : RemoteRead (LocatedTilePlan × ℕ) := do
  let ranges ←
    indexRanges path metadata.tileOffsets metadata.tileByteCounts objectSize geometry.indices
  let responses ← fetchIndex store path ranges
  rejectIf (responses.length ≠ ranges.length) (remoteLayoutError path
    s!"TIFF tile-index response count {responses.length}, expected {ranges.length}")
  Logged.record (.reserve .tiles geometry.indices.length)
  let resolved ←
    resolveTiles path metadata.tileOffsets metadata.tileByteCounts responses geometry.indices
  let indexBytes ← indexResponseBytes path responses
  pure (⟨objectSize, resolved.tiles, resolved.compressedBytes⟩, indexBytes)

/-! ### Windows -/

/-- A request for a window: the kind of the raster, and the choice of a window inside of it. -/
structure RasterWindowRequest where
  kind : RasterKind
  fromBbox : RemoteMetadata → Except String RasterPixelWindow
  inside : ∀ metadata window planned, fromBbox metadata = .ok window →
    metadata.forPlanning = .ok planned → window.Inside planned

/-- A window whose tiles have been found. -/
structure PreparedCogWindow where
  metadata : RemoteMetadata
  window : RasterPixelWindow
  plan : LocatedTilePlan
  headerBytes : ℕ

/-- The window of a request. -/
def requestedWindow (request : RasterWindowRequest) (remotePath : String)
    (metadata : RemoteMetadata) : Except (Fault CacheError) RasterPixelWindow :=
  (request.fromBbox metadata).mapError fun reason => .err (.unsupportedCog remotePath reason)

/-- Read the header of a remote raster and find the tiles of a window. -/
def prepareWindow (store : RemoteStore) (remotePath : String) (request : RasterWindowRequest) :
    RemoteRead PreparedCogWindow := do
  let objectSize ← orErr (store.head remotePath) (CacheError.objectStore remotePath)
  let layout ← readRemoteLayout store remotePath objectSize.toNat
  let metadata ← metadataFromLayout layout remotePath
  validateMeritLayout metadata request.kind remotePath
  let window ← requestedWindow request remotePath metadata
  let planned ← metadata.forPlanning
  let geometry ← TilePlan.forWindow planned window remotePath
  -- the list of a plan is allocated for the number of its tiles
  Logged.record (.reserve .plannedTiles geometry.indices.length)
  let (plan, indexBytes) ← resolveTilePlan store remotePath metadata geometry objectSize.toNat
  let headerBytes ← orErr (Checked.add 64 layout.bytesRead indexBytes)
    (remoteLayoutError remotePath "TIFF header bytes overflow")
  pure ⟨metadata, window, plan, headerBytes⟩

/-! ### Fetching the tiles -/

/-- The ranges accepted so far, and the number of their bytes. -/
structure Accepted where
  aggregate : ℕ
  ranges : List RemoteRange

/-- Accept the range of a tile. -/
def validateCompressedRange (path : String) (objectSize : ℕ) (state : Accepted)
    (tile : LocatedTile) : Except (Fault CacheError) Accepted := do
  rejectIf (tile.range.stop ≤ tile.range.start) (remoteLayoutError path
    s!"TIFF compressed chunk {tile.index} has an invalid range")
  let bytes ← orErr (Checked.sub tile.range.stop tile.range.start)
    (remoteLayoutError path "TIFF compressed chunk range length overflow")
  rejectIf (maxCompressedChunkBytes < bytes) (remoteLayoutError path
    (s!"TIFF compressed chunk {tile.index} bytes {bytes} exceeds window ceiling " ++
      s!"{maxCompressedChunkBytes}"))
  let aggregate ← orErr (Checked.add 64 state.aggregate bytes)
    (remoteLayoutError path "TIFF covered compressed bytes overflow")
  rejectIf (maxCoveredChunkBytes < aggregate) (remoteLayoutError path
    (s!"TIFF covered compressed bytes {aggregate} exceeds window ceiling " ++
      s!"{maxCoveredChunkBytes}"))
  rejectIf (objectSize < tile.range.stop) (remoteLayoutError path
    s!"TIFF range {tile.range.start}..{tile.range.stop} exceeds object size {objectSize}")
  .ok ⟨aggregate, state.ranges ++ [tile.range]⟩

/-- Accept the ranges of all tiles. -/
def acceptRanges (path : String) (plan : LocatedTilePlan) : Except (Fault CacheError) Accepted :=
  plan.tiles.foldlM (validateCompressedRange path plan.objectSize) ⟨0, []⟩

/-- The ranges of the tiles, checked. -/
def validateCompressedRanges (path : String) (plan : LocatedTilePlan) :
    RemoteRead (List RemoteRange) := do
  Logged.record (.reserve .chunkRanges plan.tiles.length)
  let accepted ← acceptRanges path plan
  pure accepted.ranges

/-- Check the length of a compressed tile. -/
def checkCompressedChunk (remotePath : String) (chunk : LocatedTile × List UInt8) :
    Except (Fault CacheError) Unit := do
  let expected ← orPanic (Checked.sub chunk.1.range.stop chunk.1.range.start)
  rejectIf (chunk.2.length ≠ expected) (remoteLayoutError remotePath
    (s!"TIFF compressed chunk {chunk.1.index} returned {chunk.2.length} bytes, " ++
      s!"expected {expected}"))

/-- Check the lengths of all compressed tiles. -/
def checkCompressedChunks (remotePath : String) (plan : LocatedTilePlan)
    (compressed : List (List UInt8)) : Except (Fault CacheError) Unit :=
  (plan.tiles.zip compressed).forM (checkCompressedChunk remotePath)

/-- Fetch the compressed tiles of a window. -/
def fetchCompressed (store : RemoteStore) (remotePath : String) (prepared : PreparedCogWindow) :
    RemoteRead (List (List UInt8)) := do
  let ranges ← validateCompressedRanges remotePath prepared.plan
  let compressed ← store.fetchAll remotePath .chunks ranges
  rejectIf (compressed.length ≠ prepared.plan.tiles.length) (remoteLayoutError remotePath
    (s!"TIFF compressed response count {compressed.length}, " ++
      s!"expected {prepared.plan.tiles.length}"))
  checkCompressedChunks remotePath prepared.plan compressed
  pure compressed

/-- Prepare a window and fetch its tiles. -/
def fetchWindow (store : RemoteStore) (remotePath : String) (request : RasterWindowRequest) :
    RemoteRead (PreparedCogWindow × List (List UInt8)) := do
  let prepared ← prepareWindow store remotePath request
  let compressed ← fetchCompressed store remotePath prepared
  pure (prepared, compressed)

end WatershedDelineation
