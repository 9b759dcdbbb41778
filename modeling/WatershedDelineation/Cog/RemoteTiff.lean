import Mathlib.Data.List.DropRight
import WatershedDelineation.Cog.Chunk
import WatershedDelineation.General.LittleEndian
import WatershedDelineation.General.Logged

/-!
# Reading the header of a remote TIFF

`read_remote_layout` and what it calls in `cog.rs`: the 16 bytes of the header, the entries of the
first image file directory, the tags that the reader needs, and the descriptors of the two arrays
that say where the tiles are. All numbers come from the file, so every sum and product of them is
checked.

The object store is a parameter; it may answer a request with any bytes, and with too many or too
few. Requests and allocations are logged. Double precision numbers are represented by their bits.
Machine words of size `usize` have 64 bits, so the conversions between them and the words of 64
bits succeed and are left out.
-/

namespace WatershedDelineation

open Checked (orErr orPanic rejectIf)
open Chunks

/-! ### Ceilings -/

/-- Most entries of a directory. -/
def maxRemoteIfdEntries : ℕ := 4096

/-- Most bytes of the entries of a directory. -/
def maxRemoteIfdEntryBytes : ℕ := 65536

/-- Most bytes of a value of the metadata. -/
def maxRemoteMetadataValueBytes : ℕ := 65536

/-- Most bytes of a text. -/
def maxRemoteAsciiBytes : ℕ := 256

/-! ### The object store -/

/-- A half-open range of bytes of a remote file. -/
structure RemoteRange where
  start : ℕ
  stop : ℕ
  deriving DecidableEq, Repr

/-- The number of bytes of a range. -/
def RemoteRange.length (range : RemoteRange) : ℕ := range.stop - range.start

/-- The bytes of a range. -/
def RemoteRange.slice (range : RemoteRange) (content : List UInt8) : List UInt8 :=
  (content.drop range.start).take range.length

/-- What bytes are requested for. -/
inductive Purpose
  | header
  | ifdCount
  | ifdEntries
  | ascii
  | metadataValues
  | tileIndex
  | chunks
  deriving DecidableEq, Repr

/-- The lists that are allocated with a capacity. -/
inductive Reserved
  | ifdEntries
  | plannedTiles
  | tiles
  | chunkRanges
  deriving DecidableEq, Repr

/-- What the reader asks for: bytes of the remote file, and room for a list. -/
inductive RemoteAct
  | request (purpose : Purpose) (ranges : List RemoteRange)
  | reserve (reserved : Reserved) (capacity : ℕ)
  deriving DecidableEq, Repr

/-- A computation of the reader. -/
abbrev RemoteRead := Logged RemoteAct (Fault CacheError)

/-- An object store: the size of a file, the bytes of a range, and the bytes of several ranges, or
no value where a request fails. -/
structure RemoteStore where
  head : String → Option UInt64
  getRange : String → RemoteRange → Option (List UInt8)
  getRanges : String → List RemoteRange → Option (List (List UInt8))

/-- Request a range. -/
def RemoteStore.fetch (store : RemoteStore) (path : String) (purpose : Purpose)
    (range : RemoteRange) : RemoteRead (List UInt8) := do
  Logged.record (.request purpose [range])
  orErr (store.getRange path range) (CacheError.objectStore path)

/-- Request several ranges. -/
def RemoteStore.fetchAll (store : RemoteStore) (path : String) (purpose : Purpose)
    (ranges : List RemoteRange) : RemoteRead (List (List UInt8)) := do
  Logged.record (.request purpose ranges)
  orErr (store.getRanges path ranges) (CacheError.objectStore path)

/-! ### Ranges and words -/

/-- A range inside the file. -/
def checkedRemoteRange (path : String) (start length objectSize : ℕ) :
    Except (Fault CacheError) RemoteRange := do
  let stop ← orErr (Checked.add 64 start length) (remoteLayoutError path "TIFF range end overflow")
  rejectIf (objectSize < stop) (remoteLayoutError path
    s!"TIFF range {start}..{stop} exceeds object size {objectSize}")
  .ok ⟨start, stop⟩

/-- A length below a ceiling. -/
def checkedRemoteLength (path : String) (length ceiling : ℕ) (quantity : String) :
    Except (Fault CacheError) ℕ := do
  rejectIf (ceiling < length) (remoteLayoutError path
    s!"TIFF {quantity} {length} exceeds parser ceiling {ceiling}")
  .ok length

/-- The number of bytes that have been read. -/
def checkedRemoteBytesRead (path : String) (lengths : List ℕ) : Except (Fault CacheError) ℕ :=
  lengths.foldlM (fun total length =>
    orErr (Checked.add 64 total length) (remoteLayoutError path "TIFF bytes-read total overflow")) 0

/-- A word of `width` bytes, the lowest first. -/
def remoteWord (width : ℕ) (path : String) (bytes : List UInt8) : Except (Fault CacheError) ℕ := do
  rejectIf (bytes.length ≠ width) (remoteLayoutError path s!"missing TIFF u{8 * width}")
  .ok (LittleEndian.toNat bytes)

def remoteU16 : String → List UInt8 → Except (Fault CacheError) ℕ := remoteWord 2

def remoteU32 : String → List UInt8 → Except (Fault CacheError) ℕ := remoteWord 4

def remoteU64 : String → List UInt8 → Except (Fault CacheError) ℕ := remoteWord 8

/-- The bytes from `start` up to `stop`; a slice out of range panics. -/
def remoteSlice (bytes : List UInt8) (start stop : ℕ) : Except (Fault CacheError) (List UInt8) :=
  orPanic (Checked.slice bytes start stop)

/-- The response at an index; an index out of range panics. -/
def remoteIndex (responses : List (List UInt8)) (i : ℕ) : Except (Fault CacheError) (List UInt8) :=
  orPanic responses[i]?

/-- Double precision numbers. -/
def remoteDoubles (n : ℕ) (path : String) (bytes : List UInt8) :
    Except (Fault CacheError) (List ℕ) := do
  let expected ← orErr (Checked.mul 64 n 8) (remoteLayoutError path "TIFF double size overflow")
  rejectIf (bytes.length ≠ expected) (remoteLayoutError path "incomplete TIFF double field")
  .ok ((chunksExact 8 bytes).map LittleEndian.toNat)

/-! ### Entries -/

/-- The two layouts of TIFF files. -/
inductive TiffFormat
  | classic
  | bigTiff
  deriving DecidableEq, Repr

/-- Values of at most this many bytes are stored in the entry itself. -/
def TiffFormat.inlineWidth : TiffFormat → ℕ
  | .classic => 4
  | .bigTiff => 8

/-- The width of the number of entries. -/
def TiffFormat.countWidth : TiffFormat → ℕ
  | .classic => 2
  | .bigTiff => 8

/-- The width of an entry. -/
def TiffFormat.entryWidth : TiffFormat → ℕ
  | .classic => 12
  | .bigTiff => 20

/-- An entry of a directory. Its value is the field of the entry as a number, whether that holds a
value or the place of one. -/
structure IfdEntry where
  tag : ℕ
  fieldType : ℕ
  count : ℕ
  value : ℕ
  deriving DecidableEq, Repr

/-- The width of a value. -/
def remoteFieldWidth (path : String) (fieldType : ℕ) : Except (Fault CacheError) ℕ :=
  match fieldType with
  | 1 | 2 => .ok 1
  | 3 => .ok 2
  | 4 => .ok 4
  | 5 | 12 | 16 => .ok 8
  | fieldType => .error (.err (remoteLayoutError path s!"unsupported TIFF field type {fieldType}"))

/-- The count and the value of an entry. -/
def remoteIfdValue (path : String) (format : TiffFormat) (bytes : List UInt8) :
    Except (Fault CacheError) (ℕ × ℕ) :=
  match format with
  | .classic => do
    let count ← remoteU32 path (← remoteSlice bytes 4 8)
    let value ← remoteU32 path (← remoteSlice bytes 8 12)
    .ok (count, value)
  | .bigTiff => do
    let count ← remoteU64 path (← remoteSlice bytes 4 12)
    let value ← remoteU64 path (← remoteSlice bytes 12 20)
    .ok (count, value)

/-- Read an entry. -/
def remoteIfdEntry (path : String) (format : TiffFormat) (bytes : List UInt8) :
    Except (Fault CacheError) IfdEntry := do
  let tag ← remoteU16 path (← remoteSlice bytes 0 2)
  let fieldType ← remoteU16 path (← remoteSlice bytes 2 4)
  let (count, value) ← remoteIfdValue path format bytes
  let _ ← remoteFieldWidth path fieldType
  .ok ⟨tag, fieldType, count, value⟩

/-- The first entry with a tag. -/
def remoteEntry (path : String) (entries : List IfdEntry) (tag : ℕ) :
    Except (Fault CacheError) IfdEntry :=
  orErr (entries.find? (·.tag = tag)) (remoteLayoutError path s!"missing TIFF tag {tag}")

/-- The value of a tag with one value, which the entry itself holds. -/
def remoteInlineScalar (path : String) (entries : List IfdEntry) (tag : ℕ) :
    Except (Fault CacheError) ℕ := do
  let entry ← remoteEntry path entries tag
  rejectIf (¬(entry.fieldType = 3 ∨ entry.fieldType = 4) ∨ entry.count ≠ 1)
    (remoteLayoutError path s!"TIFF tag {tag} must be one SHORT or LONG value")
  let maxValue := if entry.fieldType = 3 then 65535 else 4294967295
  rejectIf (maxValue < entry.value)
    (remoteLayoutError path s!"TIFF tag {tag} has non-zero scalar padding")
  .ok entry.value

/-- The range of the values of a tag with double precision numbers. -/
def remoteValueRange (path : String) (entry : IfdEntry) (expectedCount objectSize : ℕ) :
    Except (Fault CacheError) RemoteRange := do
  rejectIf (entry.fieldType ≠ 12) (remoteLayoutError path
    s!"TIFF tag {entry.tag} must use DOUBLE field type 12, got {entry.fieldType}")
  let byteCount ← orErr (Checked.mul 64 entry.count (← remoteFieldWidth path entry.fieldType))
    (remoteLayoutError path "TIFF field size overflow")
  let _ ← checkedRemoteLength path byteCount maxRemoteMetadataValueBytes "metadata value bytes"
  rejectIf (entry.count ≠ expectedCount) (remoteLayoutError path
    s!"TIFF tag {entry.tag} must contain exactly {expectedCount} DOUBLE values, got {entry.count}")
  checkedRemoteRange path entry.value byteCount objectSize

/-! ### Texts -/

/-- The bytes of a text, and how many of them have been fetched. -/
def remoteAsciiBytes (store : RemoteStore) (path : String) (objectSize : ℕ) (format : TiffFormat)
    (entry : IfdEntry) (tag : ℕ) : RemoteRead (List UInt8 × ℕ) :=
  if entry.count ≤ format.inlineWidth then do
    let raw ← remoteSlice (LittleEndian.ofNat 8 entry.value) 0 entry.count
    pure (raw, 0)
  else do
    let range ← checkedRemoteRange path entry.value entry.count objectSize
    let bytes ← store.fetch path .ascii range
    rejectIf (bytes.length ≠ entry.count) (remoteLayoutError path
      s!"TIFF tag {tag} ASCII value returned {bytes.length} bytes, expected {entry.count}")
    pure (bytes, bytes.length)

/-- A text without the zeros at its end. -/
def asciiText (path : String) (tag : ℕ) (raw : List UInt8) : Except (Fault CacheError) String := do
  let text ← orErr (String.fromUTF8? ⟨raw.toArray⟩)
    (remoteLayoutError path s!"TIFF tag {tag} is not valid ASCII")
  .ok (String.ofList (text.toList.rdropWhile (· == '\x00')))

/-- The text of a tag, if there is one, and how many bytes of it have been fetched. -/
def remoteAscii (store : RemoteStore) (path : String) (objectSize : ℕ) (format : TiffFormat)
    (entries : List IfdEntry) (tag : ℕ) : RemoteRead (Option String × ℕ) :=
  match entries.find? (·.tag = tag) with
  | none => pure (none, 0)
  | some entry => do
    rejectIf (entry.fieldType ≠ 2 ∨ entry.count = 0)
      (remoteLayoutError path s!"TIFF tag {tag} must contain ASCII")
    rejectIf (maxRemoteAsciiBytes < entry.count)
      (CacheError.remoteTiffAsciiTooLong path tag entry.count maxRemoteAsciiBytes)
    let (raw, fetchedBytes) ← remoteAsciiBytes store path objectSize format entry tag
    let text ← asciiText path tag raw
    pure (some text, fetchedBytes)

/-! ### Tile arrays -/

/-- Where the values of a tile array are: the one value, or the place of the first. -/
inductive IndexStorage
  | inlineScalar (value : ℕ)
  | outOfLine (offset : ℕ)
  deriving DecidableEq, Repr

/-- What is known of a tile array before any of it is fetched. -/
structure IndexDescriptor where
  fieldType : ℕ
  elementWidth : ℕ
  count : ℕ
  storage : IndexStorage
  deriving DecidableEq, Repr

/-- The range of an array outside of its entry. -/
def IndexDescriptor.byteExtent (descriptor : IndexDescriptor) :
    Except String (Option RemoteRange) :=
  match descriptor.storage with
  | .inlineScalar _ => .ok none
  | .outOfLine offset => do
    let byteCount ← Checks.okOr (Checked.mul 64 descriptor.count descriptor.elementWidth)
      "TIFF field size overflow"
    let stop ← Checks.okOr (Checked.add 64 offset byteCount) "TIFF field end overflow"
    .ok (some ⟨offset, stop⟩)

/-- Reject a range that does not end inside the file. -/
def rejectBeyond (path : String) (objectSize : ℕ) :
    Option RemoteRange → Except (Fault CacheError) Unit
  | none => .ok ()
  | some range => rejectIf (objectSize < range.stop) (remoteLayoutError path
      s!"TIFF range {range.start}..{range.stop} exceeds object size {objectSize}")

/-- The descriptor of a tile array. -/
def remoteDescriptor (path : String) (format : TiffFormat) (entry : IfdEntry) (objectSize : ℕ) :
    Except (Fault CacheError) IndexDescriptor := do
  rejectIf (entry.count = 0 ∨ ¬(entry.fieldType = 4 ∨ entry.fieldType = 16))
    (remoteLayoutError path (s!"TIFF tile-index tag {entry.tag} has unsupported type " ++
      s!"{entry.fieldType} or count {entry.count}"))
  let elementWidth ← remoteFieldWidth path entry.fieldType
  let byteCount ← orErr (Checked.mul 64 entry.count elementWidth)
    (remoteLayoutError path "TIFF tile-index size overflow")
  let storage := if byteCount ≤ format.inlineWidth then IndexStorage.inlineScalar entry.value
    else .outOfLine entry.value
  let descriptor : IndexDescriptor := ⟨entry.fieldType, elementWidth, entry.count, storage⟩
  let extent ← descriptor.byteExtent.mapError fun reason => .err (remoteLayoutError path reason)
  rejectBeyond path objectSize extent
  .ok descriptor

/-- The descriptors of the two tile arrays. -/
def remoteTileIndex (path : String) (format : TiffFormat) (entries : List IfdEntry)
    (objectSize : ℕ) : Except (Fault CacheError) (IndexDescriptor × IndexDescriptor) := do
  let tileOffsets ← remoteDescriptor path format (← remoteEntry path entries 324) objectSize
  let tileByteCounts ← remoteDescriptor path format (← remoteEntry path entries 325) objectSize
  rejectIf (tileOffsets.count ≠ tileByteCounts.count) (remoteLayoutError path
    (s!"TIFF tile-index descriptor count mismatch: TileOffsets has {tileOffsets.count} entries, " ++
      s!"TileByteCounts has {tileByteCounts.count}"))
  .ok (tileOffsets, tileByteCounts)

/-! ### The layout -/

/-- The layout of a file with a given magic number. -/
def tiffFormat (path : String) (magic : ℕ) : Except (Fault CacheError) TiffFormat :=
  match magic with
  | 42 => .ok .classic
  | 43 => .ok .bigTiff
  | magic => .error (.err (remoteLayoutError path s!"unsupported TIFF magic {magic}"))

/-- The fixed words of a header, which only the large layout has. -/
def checkOffsetHeader (path : String) (header : List UInt8) :
    TiffFormat → Except (Fault CacheError) Unit
  | .classic => .ok ()
  | .bigTiff => do
    let offsetWidth ← remoteU16 path (← remoteSlice header 4 6)
    rejectIf (offsetWidth ≠ 8) (remoteLayoutError path "invalid BigTIFF offset header")
    let padding ← remoteU16 path (← remoteSlice header 6 8)
    rejectIf (padding ≠ 0) (remoteLayoutError path "invalid BigTIFF offset header")

/-- The place of the first directory. -/
def ifdOffset (path : String) (header : List UInt8) : TiffFormat → Except (Fault CacheError) ℕ
  | .classic => do remoteU32 path (← remoteSlice header 4 8)
  | .bigTiff => do remoteU64 path (← remoteSlice header 8 16)

/-- What the header of a file says. -/
structure RemoteHeader where
  format : TiffFormat
  ifdOffset : ℕ
  bytesRead : ℕ

/-- Read the header. -/
def readHeader (store : RemoteStore) (path : String) (objectSize : ℕ) :
    RemoteRead RemoteHeader := do
  let headerRange ← checkedRemoteRange path 0 16 objectSize
  let header ← store.fetch path .header headerRange
  rejectIf (header.length ≠ 16) (remoteLayoutError path "incomplete 16-byte TIFF header")
  let byteOrder ← remoteSlice header 0 2
  rejectIf (byteOrder ≠ [0x49, 0x49])
    (remoteLayoutError path "only little-endian TIFF byte order is supported")
  let format ← tiffFormat path (← remoteU16 path (← remoteSlice header 2 4))
  checkOffsetHeader path header format
  pure ⟨format, ← ifdOffset path header format, header.length⟩

/-- The number of entries. -/
def ifdEntryCount (path : String) (countBytes : List UInt8) :
    TiffFormat → Except (Fault CacheError) ℕ
  | .classic => remoteU16 path countBytes
  | .bigTiff => remoteU64 path countBytes

/-- The entries in the bytes of a directory. -/
def ifdEntries (path : String) (format : TiffFormat) (entryBytes : List UInt8) :
    Except (Fault CacheError) (List IfdEntry) :=
  (chunksExact format.entryWidth entryBytes).mapM (remoteIfdEntry path format)

/-- The entries of a directory, and how many bytes have been read for them. -/
structure RemoteIfd where
  entries : List IfdEntry
  countBytesRead : ℕ
  entryBytesRead : ℕ

/-- Read a directory. -/
def readIfd (store : RemoteStore) (path : String) (objectSize : ℕ) (format : TiffFormat)
    (ifdOffset : ℕ) : RemoteRead RemoteIfd := do
  let countRange ← checkedRemoteRange path ifdOffset format.countWidth objectSize
  let countBytes ← store.fetch path .ifdCount countRange
  rejectIf (countBytes.length ≠ format.countWidth)
    (remoteLayoutError path "incomplete TIFF IFD count")
  let entryCount ← ifdEntryCount path countBytes format
  rejectIf (entryCount = 0) (remoteLayoutError path "TIFF IFD contains no entries")
  let entryCapacity ← checkedRemoteLength path entryCount maxRemoteIfdEntries "IFD entry count"
  let entriesLen ← orErr (Checked.mul 64 entryCount format.entryWidth)
    (remoteLayoutError path "TIFF IFD entries size overflow")
  let entriesLenUsize ←
    checkedRemoteLength path entriesLen maxRemoteIfdEntryBytes "IFD entry bytes"
  let entriesRange ← checkedRemoteRange path countRange.stop entriesLen objectSize
  let entryBytes ← store.fetch path .ifdEntries entriesRange
  rejectIf (entryBytes.length ≠ entriesLenUsize)
    (remoteLayoutError path "incomplete TIFF IFD entries")
  Logged.record (.reserve .ifdEntries entryCapacity)
  let entries ← ifdEntries path format entryBytes
  pure ⟨entries, countBytes.length, entryBytes.length⟩

/-- The sample type of a file. -/
def remoteSampleType (path : String) (bitsPerSample sampleFormat : ℕ) :
    Except (Fault CacheError) CogSampleType :=
  match bitsPerSample, sampleFormat with
  | 8, 1 => .ok .u8
  | 8, 2 => .ok .i8
  | 32, 3 => .ok .f32
  | 32, 2 => .ok .i32
  | bitsPerSample, sampleFormat => .error (.err (remoteLayoutError path
      s!"unsupported sample layout: bits={bitsPerSample} sample_format={sampleFormat}"))

/-- What the entries of a directory say. -/
structure LayoutTags where
  width : ℕ
  height : ℕ
  scaleRange : RemoteRange
  tiepointRange : RemoteRange
  tileOffsets : IndexDescriptor
  tileByteCounts : IndexDescriptor
  tileWidth : ℕ
  tileHeight : ℕ
  sampleType : CogSampleType
  compression : ℕ
  predictor : ℕ

/-- Read the tags that need no further bytes. -/
def layoutTags (path : String) (objectSize : ℕ) (format : TiffFormat) (entries : List IfdEntry) :
    Except (Fault CacheError) LayoutTags := do
  let width ← remoteInlineScalar path entries 256
  let height ← remoteInlineScalar path entries 257
  rejectIf (width = 0 ∨ height = 0) (remoteLayoutError path "TIFF dimensions must be non-zero")
  let scaleRange ← remoteValueRange path (← remoteEntry path entries 33550) 3 objectSize
  let tiepointRange ← remoteValueRange path (← remoteEntry path entries 33922) 6 objectSize
  let (tileOffsets, tileByteCounts) ← remoteTileIndex path format entries objectSize
  let tileWidth ← remoteInlineScalar path entries 322
  let tileHeight ← remoteInlineScalar path entries 323
  let bitsPerSample ← remoteInlineScalar path entries 258
  let compression ← remoteInlineScalar path entries 259
  let photometric ← remoteInlineScalar path entries 262
  let samplesPerPixel ← remoteInlineScalar path entries 277
  let planar ← remoteInlineScalar path entries 284
  let predictor ← remoteInlineScalar path entries 317
  let sampleFormat ← remoteInlineScalar path entries 339
  rejectIf (photometric ≠ 1 ∨ samplesPerPixel ≠ 1 ∨ planar ≠ 1)
    (remoteLayoutError path "unsupported TIFF grayscale/sample/planar layout")
  let sampleType ← remoteSampleType path bitsPerSample sampleFormat
  .ok ⟨width, height, scaleRange, tiepointRange, tileOffsets, tileByteCounts, tileWidth, tileHeight,
    sampleType, compression, predictor⟩

/-- The nodata value of a file that declares none. -/
def defaultNodata : CogSampleType → String
  | .u8 => "255"
  | .i8 | .f32 | .i32 => "-1"

/-- The layout of a remote file. -/
structure RemoteLayout where
  width : ℕ
  height : ℕ
  tileWidth : ℕ
  tileHeight : ℕ
  scale : List ℕ
  tiepoint : List ℕ
  nodata : String
  sampleType : CogSampleType
  compression : ℕ
  predictor : ℕ
  tileOffsets : IndexDescriptor
  tileByteCounts : IndexDescriptor
  bytesRead : ℕ

/-- Read the layout of a remote file. -/
def readRemoteLayout (store : RemoteStore) (path : String) (objectSize : ℕ) :
    RemoteRead RemoteLayout := do
  let header ← readHeader store path objectSize
  let ifd ← readIfd store path objectSize header.format header.ifdOffset
  let tags ← layoutTags path objectSize header.format ifd.entries
  let (nodata, asciiBytesRead) ←
    remoteAscii store path objectSize header.format ifd.entries 42113
  let values ← store.fetchAll path .metadataValues [tags.scaleRange, tags.tiepointRange]
  rejectIf (values.length ≠ 2)
    (remoteLayoutError path "TIFF transform range response is incomplete")
  let scaleBytes ← remoteIndex values 0
  let tiepointBytes ← remoteIndex values 1
  let bytesRead ← checkedRemoteBytesRead path [header.bytesRead, ifd.countBytesRead,
    ifd.entryBytesRead, scaleBytes.length, tiepointBytes.length, asciiBytesRead]
  let scale ← remoteDoubles 3 path scaleBytes
  let tiepoint ← remoteDoubles 6 path tiepointBytes
  let compression ← orErr (Checked.fit 16 tags.compression)
    (remoteLayoutError path "TIFF compression does not fit u16")
  let predictor ← orErr (Checked.fit 16 tags.predictor)
    (remoteLayoutError path "TIFF predictor does not fit u16")
  pure {
    width := tags.width, height := tags.height, tileWidth := tags.tileWidth
    tileHeight := tags.tileHeight, scale := scale, tiepoint := tiepoint
    nodata := nodata.getD (defaultNodata tags.sampleType), sampleType := tags.sampleType
    compression := compression, predictor := predictor, tileOffsets := tags.tileOffsets
    tileByteCounts := tags.tileByteCounts, bytesRead := bytesRead }

end WatershedDelineation
