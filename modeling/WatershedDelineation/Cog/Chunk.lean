import WatershedDelineation.Cog.TilePlan
import WatershedDelineation.General.Binary32
import WatershedDelineation.General.Chunks

/-!
# Decoding a tile

`decode_owned_chunk` of `cog.rs`: a tile is inflated, its predictor undone row by row, and the
rows are cut to the part that lies in the raster. The tiles of a file all have the full tile
size; those on the right and lower edge are padded.

The decompressor is the parameter `inflate`: from the compressed bytes and a limit, the bytes it
yields up to the limit, or a message. Machine words of size `usize` have 64 bits, so
the conversions between them and the other unsigned types succeed and are left out.
-/

namespace WatershedDelineation

open Chunks

/-! ### Integers in a string -/

/-- A non-empty string of decimal digits. -/
def parseDigits : List Char → Option ℕ
  | [] => none
  | digits =>
    digits.foldlM (fun n c => if c.isDigit then some (10 * n + (c.toNat - 48)) else none) 0

/-- An integer from `lo` to `hi` with an optional sign; a minus sign only where `lo` is
negative. -/
def parseInt (lo hi : ℤ) (s : String) : Option ℤ := do
  let value ← match s.toList with
    | '+' :: digits => (parseDigits digits).map Int.ofNat
    | '-' :: digits => if lo < 0 then (parseDigits digits).map fun n => -(n : ℤ) else none
    | digits => (parseDigits digits).map Int.ofNat
  if lo ≤ value ∧ value ≤ hi then some value else none

/-! ### Words of four bytes -/

/-- Four bytes. -/
abbrev Bytes4 := UInt8 × UInt8 × UInt8 × UInt8

/-- The word of four bytes, the lowest first. -/
def fromLeBytes : Bytes4 → BitVec 32
  | (a, b, c, d) => BitVec.ofNat 32
      (a.toNat + b.toNat * 2 ^ 8 + c.toNat * 2 ^ 16 + d.toNat * 2 ^ 24)

/-- The word of four bytes, the highest first. -/
def fromBeBytes : Bytes4 → BitVec 32
  | (a, b, c, d) => fromLeBytes (d, c, b, a)

/-- The bytes of a word, the lowest first. -/
def toLeBytes (v : BitVec 32) : List UInt8 :=
  [UInt8.ofNat v.toNat, UInt8.ofNat (v.toNat / 2 ^ 8), UInt8.ofNat (v.toNat / 2 ^ 16),
    UInt8.ofNat (v.toNat / 2 ^ 24)]

/-- The groups of four bytes; a shorter rest is left out. -/
def asChunks4 : List UInt8 → List Bytes4
  | a :: b :: c :: d :: l => (a, b, c, d) :: asChunks4 l
  | _ => []

/-! ### Predictors -/

/-- Undo byte differencing: every byte from the second on is added to the one before it. -/
def undoBytes : List UInt8 → List UInt8
  | [] => []
  | first :: rest => rest.scanl (· + ·) first

/-- Undo differencing of words. -/
def undoWords (row : List UInt8) : List UInt8 :=
  ((((asChunks4 row).map fromLeBytes).scanl (· + ·) 0).tail.flatMap toLeBytes)
    ++ row.drop (row.length / 4 * 4)

/-- The name of a sample type in messages. -/
def CogSampleType.debug : CogSampleType → String
  | .u8 => "U8"
  | .i8 => "I8"
  | .f32 => "F32"
  | .i32 => "I32"

/-- Undo the predictor of an inflated tile. -/
def undoPredictor (metadata : CogMetadata) (inflated : List UInt8) (remotePath : String) :
    Except (Fault CacheError) (List UInt8) :=
  match metadata.sampleType, metadata.predictor with
  | _, 1 => .ok inflated
  | .u8, 2 | .i8, 2 => .ok (mapChunksExact metadata.tileWidth undoBytes inflated)
  | .i32, 2 => do
    let rowBytes ← Checked.orErr (Checked.mul 64 metadata.tileWidth 4)
      (remoteLayoutError remotePath "TIFF predictor row overflow")
    .ok (mapChunksExact rowBytes undoWords inflated)
  | .f32, 3 => do
    let rowBytes ← Checked.orErr (Checked.mul 64 metadata.tileWidth 4)
      (remoteLayoutError remotePath "TIFF predictor row overflow")
    .ok (mapChunksExact rowBytes undoBytes inflated)
  | sampleType, predictor => .error (.err (remoteLayoutError remotePath
      s!"unsupported TIFF predictor {predictor} for {sampleType.debug}"))

/-! ### Decoding -/

/-- Most bytes of a decoded tile. -/
def maxDecodedChunkBytes : ℕ := 8388608

/-- The samples of a decoded tile. -/
inductive OwnedTileData
  | u8 (data : List UInt8)
  | f32 (data : List F32)
  deriving DecidableEq, Repr

/-- The column and row of tiles that a tile lies in. -/
def tileColRow (metadata : CogMetadata) (tileIndex : ℕ) : Except (Fault CacheError) (ℕ × ℕ) :=
  if metadata.tilesAcross = 0 then .error .panic
  else .ok (tileIndex % metadata.tilesAcross, tileIndex / metadata.tilesAcross)

/-- The sample of a column, put together from the four byte planes of a row. -/
def planeSample (row : List UInt8) (planeWidth column : ℕ) : Option F32 := do
  let a ← row[column]?
  let b ← row[planeWidth + column]?
  let c ← row[2 * planeWidth + column]?
  let d ← row[3 * planeWidth + column]?
  some ⟨fromBeBytes (a, b, c, d)⟩

/-- An accumulation count, the nodata value excepted. -/
def normalizeI32 (nodata : Option ℤ) (value : BitVec 32) : F32 :=
  if some value.toInt = nodata then F32.nan else F32.ofRat value.toInt

/-- The live samples of a row of bytes. -/
def clipByteRow (liveWidth : ℕ) (row : List UInt8) : Except (Fault CacheError) (List UInt8) :=
  if liveWidth ≤ row.length then .ok (row.take liveWidth) else .error .panic

/-- The live samples of a row of single precision numbers. -/
def clipF32Row (predictor rowBytes liveWidth : ℕ) (row : List UInt8) :
    Except (Fault CacheError) (List F32) :=
  match predictor with
  | 3 => (List.range liveWidth).mapM fun column =>
      Checked.orPanic (planeSample row (rowBytes / 4) column)
  | _ => .ok (((asChunks4 row).take liveWidth).map fun bytes => ⟨fromLeBytes bytes⟩)

/-- The live samples of a row of integers. -/
def clipI32Row (nodata : Option ℤ) (liveWidth : ℕ) (row : List UInt8) : List F32 :=
  ((asChunks4 row).take liveWidth).map fun bytes => normalizeI32 nodata (fromLeBytes bytes)

/-- Inflate a tile and undo its predictor: the bytes of the padded tile. -/
def inflateChunk (inflate : List UInt8 → ℕ → Except String (List UInt8)) (compressed : List UInt8)
    (metadata : CogMetadata) (tileIndex : ℕ) (remotePath : String) :
    Except (Fault CacheError) (List UInt8) := do
  let expected ← Checked.orErr ((Checked.mul 64 metadata.tileWidth metadata.tileHeight).bind
      (Checked.mul 64 · metadata.sampleType.width))
    (remoteLayoutError remotePath "TIFF decoded chunk size overflow")
  if expected > maxDecodedChunkBytes then
    .error (.err (remoteLayoutError remotePath
      s!"TIFF decoded chunk bytes {expected} exceeds window ceiling {maxDecodedChunkBytes}"))
  else
    let readLimit ← Checked.orErr (Checked.add 64 expected 1)
      (remoteLayoutError remotePath "TIFF decoded read limit overflow")
    let inflated ← (inflate compressed readLimit).mapError fun source =>
      .err (remoteLayoutError remotePath
        s!"TIFF tile {tileIndex} DEFLATE decode failed: {source}")
    if inflated.length ≠ expected then
      .error (.err (remoteLayoutError remotePath
        s!"TIFF tile {tileIndex} decoded {inflated.length} bytes, expected {expected}"))
    else undoPredictor metadata inflated remotePath

/-- Decode a tile: the samples of its live part. -/
def decodeOwnedChunk (inflate : List UInt8 → ℕ → Except String (List UInt8))
    (compressed : List UInt8) (metadata : CogMetadata) (tileIndex : ℕ) (remotePath : String) :
    Except (Fault CacheError) OwnedTileData := do
  let inflated ← inflateChunk inflate compressed metadata tileIndex remotePath
  let (tileCol, tileRow) ← tileColRow metadata tileIndex
  let tileX ← Checked.orErr (Checked.mul 32 tileCol metadata.tileWidth)
    (remoteLayoutError remotePath "TIFF tile x overflow")
  let tileY ← Checked.orErr (Checked.mul 32 tileRow metadata.tileHeight)
    (remoteLayoutError remotePath "TIFF tile y overflow")
  let liveWidth := min metadata.tileWidth (← Checked.orPanic (Checked.sub metadata.width tileX))
  let liveHeight := min metadata.tileHeight (← Checked.orPanic (Checked.sub metadata.height tileY))
  let _ ← Checked.orErr (Checked.mul 64 liveWidth liveHeight)
    (remoteLayoutError remotePath "TIFF live tile size overflow")
  match metadata.sampleType with
  | .u8 | .i8 =>
    let rows ← ((chunksExact metadata.tileWidth inflated).take liveHeight).mapM
      (clipByteRow liveWidth)
    .ok (.u8 rows.flatten)
  | .f32 =>
    let rowBytes ← Checked.orErr (Checked.mul 64 metadata.tileWidth 4)
      (remoteLayoutError remotePath "TIFF F32 row size overflow")
    let rows ← ((chunksExact rowBytes inflated).take liveHeight).mapM
      (clipF32Row metadata.predictor rowBytes liveWidth)
    .ok (.f32 rows.flatten)
  | .i32 =>
    let rowBytes ← Checked.orErr (Checked.mul 64 metadata.tileWidth 4)
      (remoteLayoutError remotePath "TIFF I32 row size overflow")
    let nodata := parseInt (-2 ^ 31) (2 ^ 31 - 1) metadata.nodata
    let rows := ((chunksExact rowBytes inflated).take liveHeight).map (clipI32Row nodata liveWidth)
    .ok (.f32 rows.flatten)

end WatershedDelineation
