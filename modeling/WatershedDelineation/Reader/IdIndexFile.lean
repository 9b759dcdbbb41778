import WatershedDelineation.General.Crc
import WatershedDelineation.General.LittleEndian
import WatershedDelineation.General.Utf8
import WatershedDelineation.Reader.BoundingBox
import WatershedDelineation.Session.ArtifactCache

/-!
# The file of an id index

`reader/id_index.rs`: the ids of a file and their row groups, kept as an Arrow stream, the length of
a footer, a magic word and the footer in JSON. The file is taken apart from its end
(`splitBodyAndFooter`); a footer has no byte below a blank, so none of its bytes is the last byte of
a length (`splitBodyAndFooter_frame`).

The Arrow and JSON libraries are parameters. What the files hold is a function of their paths, and
every operation on them may fail.
-/

namespace WatershedDelineation

namespace IndexFile

/-- The ids of the rows of a file, and the row groups of the ids. -/
structure IdIndex where
  ids : List UnitId
  idRowGroups : Option (UnitId → Option ℕ)

/-- What a file says about itself. -/
structure Footer where
  fileEtag : Option String
  fileSize : UInt64
  builtByPourpointVersion : String
  validatedAt : UInt64
  bodyCrc32 : UInt32
  deriving DecidableEq, Repr

/-- The version of this crate. -/
def pourpointVersion : String := "0.1.0"

def magic : List UInt8 := [0x49, 0x49, 0x44, 0x58]

def markerLen : ℕ := 12

/-! ### The checksum -/

/-- Shift one bit out of the checksum. -/
def crc32Bit (crc : UInt32) : UInt32 := (crc >>> 1) ^^^ (0xedb88320 &&& (0 - (crc &&& 1)))

/-- Take a byte into the checksum. -/
def crc32Byte (crc : UInt32) (byte : UInt8) : UInt32 := crc32Bit^[8] (crc ^^^ byte.toUInt32)

def crc32 (bytes : List UInt8) : UInt32 := ~~~(bytes.foldl crc32Byte 0xffffffff)

/-! ### The libraries -/

/-- An Arrow type. -/
inductive DataType
  | int64
  | int32
  | other
  deriving DecidableEq, Repr

/-- A field of an Arrow schema. -/
structure Field where
  name : String
  dataType : DataType
  nullable : Bool
  deriving DecidableEq, Repr

/-- An Arrow array; a null is `none`. -/
inductive ArrowArray
  | int64 (values : List (Option Int))
  | int32 (values : List (Option Int))
  | other
  deriving DecidableEq, Repr

/-- A record batch: named columns of one length. -/
structure RecordBatch where
  columns : List (String × ArrowArray)
  numRows : ℕ
  deriving DecidableEq, Repr

/-- A column by its name. -/
def RecordBatch.columnByName (batch : RecordBatch) (name : String) : Option ArrowArray :=
  (batch.columns.find? (·.1 = name)).map Prod.snd

/-- The Arrow and the JSON library: batches, streams of batches and their reader, footers as
texts. -/
structure Libraries where
  recordBatch : List Field → List ArrowArray → Except String RecordBatch
  openWriter : List Field → Except String (List UInt8)
  writeBatch : List UInt8 → RecordBatch → Except String (List UInt8)
  finishWriter : List UInt8 → Except String (List UInt8)
  streamReader : List UInt8 → Except String (List Field × List (Except String RecordBatch))
  toVec : Footer → Except String String
  fromSlice : List UInt8 → Except String Footer

variable (libs : Libraries) (hfx : Hfx)

/-! ### The body -/

/-- The schema of an index. -/
def schema : List Field := [⟨"id", .int64, false⟩, ⟨"row_group", .int32, true⟩]

/-- The row group of an id, if it has one. -/
def IdIndex.rowGroup (index : IdIndex) (id : UnitId) : Option ℕ := index.idRowGroups.bind (· id)

/-- The row group of an id as a 32 bit number. -/
def rowGroupValue (index : IdIndex) (id : UnitId) : Except SessionError (Option Int) :=
  match index.rowGroup id with
  | none => .ok none
  | some rowGroup =>
    if rowGroup < 2 ^ 31 then .ok (some rowGroup)
    else .error (.integrityViolation "id index row group does not fit in Int32")

/-- The columns of an index. -/
def IdIndex.columns (index : IdIndex) (rowGroups : List (Option Int)) : List ArrowArray :=
  [.int64 (index.ids.map fun id => some id.raw), .int32 rowGroups]

/-- The Arrow stream of a batch. -/
def arrowStream (columns : List ArrowArray) (path : CachePath) :
    Except SessionError (List UInt8) := do
  let batch ← (libs.recordBatch schema columns).mapError fun _ =>
    SessionError.cacheIo "build arrow batch" path.display
  let opened ← (libs.openWriter schema).mapError fun _ =>
    SessionError.cacheIo "open arrow writer" path.display
  let written ← (libs.writeBatch opened batch).mapError fun _ =>
    SessionError.cacheIo "write arrow batch" path.display
  (libs.finishWriter written).mapError fun _ =>
    SessionError.cacheIo "finish arrow stream" path.display

/-- An index as an Arrow stream. -/
def encodeBody (index : IdIndex) (path : CachePath) : Except SessionError (List UInt8) := do
  let rowGroups ← index.ids.mapM (rowGroupValue index)
  arrowStream libs (index.columns rowGroups) path

/-- The id and the row group in a row of two columns. -/
def decodeRow (idCol rowGroupCol : List (Option Int)) (row : ℕ) : Option (UnitId × Option ℕ) := do
  let id ← (hfx.unitId (← idCol.getD row none)).toOption
  match rowGroupCol.getD row none with
  | none => some (id, none)
  | some raw => if raw < 0 then none else some (id, some raw.toNat)

/-- The ids and row groups of a batch. -/
def decodeBatch (batch : Except String RecordBatch) : Option (List (UnitId × Option ℕ)) :=
  match batch with
  | .error _ => none
  | .ok batch =>
    match batch.columnByName "id", batch.columnByName "row_group" with
    | some (.int64 idCol), some (.int32 rowGroupCol) =>
      (List.range batch.numRows).mapM (decodeRow hfx idCol rowGroupCol)
    | _, _ => none

/-- One row group recorded; an id must not have one already. -/
def insertGroup (groups : UnitId → Option ℕ) (row : UnitId × ℕ) : Option (UnitId → Option ℕ) :=
  if (groups row.1).isSome then none else some (Function.update groups row.1 (some row.2))

/-- The row groups of rows, which all have one or have none. -/
def rowGroupsOfRows (rows : List (UnitId × Option ℕ)) : Option (Option (UnitId → Option ℕ)) :=
  let count := rows.countP fun row => row.2.isSome
  if count = 0 then some none
  else if count = rows.length then
    (((rows.map Prod.fst).zip (rows.filterMap Prod.snd)).foldlM insertGroup fun _ => none).map some
  else none

/-- Read an index back from an Arrow stream. -/
def decodeBody (body : List UInt8) : Option IdIndex :=
  match libs.streamReader body with
  | .error _ => none
  | .ok (fields, batches) =>
    match fields.find? (·.name = "id"), fields.find? (·.name = "row_group") with
    | some idField, some rowGroupField =>
      if idField.dataType ≠ .int64 ∨ rowGroupField.dataType ≠ .int32 then none
      else do
        let rows := (← batches.mapM (decodeBatch hfx)).flatten
        let idRowGroups ← rowGroupsOfRows rows
        some ⟨rows.map Prod.fst, idRowGroups⟩
    | _, _ => none

/-! ### The frame -/

/-- A body and a footer in one file. -/
def frame (body footerJson : List UInt8) : List UInt8 :=
  body ++ LittleEndian.ofNat 8 footerJson.length ++ magic ++ footerJson

/-- Search the marker from its last place to its first, before the given number of places. A length
that takes the end out of the address space ends the search. -/
def searchMarker (bytes : List UInt8) : ℕ → Option (List UInt8 × List UInt8)
  | 0 => none
  | lengthStart + 1 =>
    let magicStart := lengthStart + 8
    if (bytes.drop magicStart).take magic.length ≠ magic then searchMarker bytes lengthStart
    else
      let footerStart := magicStart + magic.length
      let footerLen := LittleEndian.toNat ((bytes.drop lengthStart).take 8)
      let footerEnd := footerStart + footerLen
      if 2 ^ 64 ≤ footerEnd then none
      else if footerEnd = bytes.length then
        some (bytes.take lengthStart, (bytes.drop footerStart).take footerLen)
      else searchMarker bytes lengthStart

/-- Take a file apart. -/
def splitBodyAndFooter (bytes : List UInt8) : Option (List UInt8 × List UInt8) :=
  if bytes.length < markerLen then none else searchMarker bytes (bytes.length - markerLen + 1)

/-! ### Writing and loading -/

/-- The files, by their paths. -/
abbrev Files := CachePath → Option (List UInt8)

/-- The footer of a body. -/
def footerOf (body : List UInt8) (fileSize : UInt64) (fileEtag : Option String)
    (validatedAt : UInt64) : Footer :=
  ⟨fileEtag, fileSize, pourpointVersion, validatedAt, crc32 body⟩

/-- Create the directory that a path is in; the root is in none. -/
def createParent (path : CachePath) : Faulty Files SessionError Unit :=
  if path = [] then pure ()
  else Faulty.attempt (.cacheIo "create_dir_all" (CachePath.display path.dropLast))

/-- Write an index. -/
def writeToPath (index : IdIndex) (path : CachePath) (fileSize : UInt64) (fileEtag : Option String)
    (validatedAt : UInt64) : Faulty Files SessionError Unit := do
  createParent path
  let body ← Faulty.ofExcept (encodeBody libs index path)
  let footerJson ← Faulty.ofExcept
    ((libs.toVec (footerOf body fileSize fileEtag validatedAt)).mapError fun _ =>
      SessionError.cacheJson "serialize id index footer" path.display)
  Faulty.attempt (.cacheIo "write" path.display)
  Faulty.update fun files =>
    Function.update files path (some (frame body (Utf8.bytes footerJson)))

/-- The index in a file of a given size and ETag. -/
def loadBytes (bytes : List UInt8) (expectedSize : UInt64) (expectedEtag : Option String) :
    Option IdIndex :=
  match splitBodyAndFooter bytes with
  | none => none
  | some (body, footerJson) =>
    match libs.fromSlice footerJson with
    | .error _ => none
    | .ok footer =>
      if footer.fileSize ≠ expectedSize ∨ footer.fileEtag ≠ expectedEtag then none
      else if footer.builtByPourpointVersion ≠ pourpointVersion then none
      else if crc32 body ≠ footer.bodyCrc32 then none
      else decodeBody libs hfx body

/-- Load an index. A file that is not there holds none. -/
def loadFromPath (path : CachePath) (expectedSize : UInt64) (expectedEtag : Option String) :
    Faulty Files SessionError (Option IdIndex) := do
  let files ← Faulty.store
  Faulty.attempt (.cacheIo "read" path.display)
  pure ((files path).bind fun bytes => loadBytes libs hfx bytes expectedSize expectedEtag)

end IndexFile

end WatershedDelineation
