import WatershedDelineation.Cog.Stitching

/-!
# Predictors

The predictors that a writer of TIFF files applies to the rows of a tile: horizontal differencing of
bytes and of words (`differenceBytes`, `differenceWords`), and the floating-point predictor, which
splits a row into the planes of its bytes, the highest first, and differences them
(`differenceFloats`). Decoding a tile undoes them bit for bit (`decodeOwnedChunk_predicted`), if the
tile has at most the size that is decoded.

Sums undo differences in any type where `a + (b - a) = b` (`Differences.scanl_differences`), such as
the words of a machine with their wrapping operations.
-/

namespace Differences

variable {α : Type*} [Sub α]

/-- The differences of the elements to the ones before them, the first to `previous`. -/
def differences (previous : α) (l : List α) : List α := List.zipWith (· - ·) l (previous :: l)

theorem differences_cons (previous a : α) (l : List α) :
    differences previous (a :: l) = (a - previous) :: differences a l := rfl

@[simp] theorem length_differences (previous : α) (l : List α) :
    (differences previous l).length = l.length := by
  rw [differences, List.length_zipWith, List.length_cons]
  exact Nat.min_eq_left (Nat.le_succ _)

/-- **Sums undo differences.** -/
theorem scanl_differences [Add α] (hcancel : ∀ a b : α, a + (b - a) = b) (previous : α)
    (l : List α) :
    (differences previous l).scanl (· + ·) previous = previous :: l := by
  induction l generalizing previous with
  | nil => rfl
  | cons a l ih => rw [differences_cons, List.scanl_cons, hcancel, ih]

end Differences

namespace WatershedDelineation

open Chunks Differences

/-! ### Differencing -/

/-- Horizontal differencing of bytes. -/
def differenceBytes (row : List UInt8) : List UInt8 := differences 0 row

/-- Horizontal differencing of words, which are stored with their lowest byte first. -/
def differenceWords (row : List (BitVec 32)) : List UInt8 :=
  (differences 0 row).flatMap toLeBytes

/-- The plane of one byte of each sample of a row. -/
def bytePlane (byte : ℕ) (row : List F32) : List UInt8 :=
  row.map fun sample => UInt8.ofNat (sample.bits.toNat / 2 ^ (8 * byte))

/-- The planes of the bytes of a row, the highest first. -/
def bytePlanes (row : List F32) : List UInt8 :=
  bytePlane 3 row ++ bytePlane 2 row ++ bytePlane 1 row ++ bytePlane 0 row

/-- The floating-point predictor. -/
def differenceFloats (row : List F32) : List UInt8 := differenceBytes (bytePlanes row)

/-! ### One row -/

theorem length_toLeBytes_flatMap (words : List (BitVec 32)) :
    (words.flatMap toLeBytes).length = words.length * 4 :=
  length_flatMap_rows fun _ _ => rfl

theorem length_differenceBytes (row : List UInt8) : (differenceBytes row).length = row.length :=
  length_differences 0 row

theorem length_differenceWords (row : List (BitVec 32)) :
    (differenceWords row).length = row.length * 4 := by
  rw [differenceWords, length_toLeBytes_flatMap, length_differences]

theorem length_bytePlanes (row : List F32) : (bytePlanes row).length = row.length * 4 := by
  simp only [bytePlanes, bytePlane, List.length_append, List.length_map]
  omega

theorem length_differenceFloats (row : List F32) :
    (differenceFloats row).length = row.length * 4 := by
  rw [differenceFloats, length_differenceBytes, length_bytePlanes]

theorem undoBytes_differenceBytes (row : List UInt8) : undoBytes (differenceBytes row) = row := by
  have hcancel : ∀ a b : UInt8, a + (b - a) = b := fun a b => by
    rw [UInt8.add_comm, UInt8.sub_add_cancel]
  cases row with
  | nil => rfl
  | cons first rest =>
    rw [differenceBytes, differences_cons, UInt8.sub_zero, undoBytes, scanl_differences hcancel]

theorem fromLeBytes_toLeBytes (word : BitVec 32) :
    fromLeBytes (UInt8.ofNat word.toNat, UInt8.ofNat (word.toNat / 2 ^ 8),
      UInt8.ofNat (word.toNat / 2 ^ 16), UInt8.ofNat (word.toNat / 2 ^ 24)) = word := by
  have hlt := word.isLt
  apply BitVec.eq_of_toNat_eq
  simp only [fromLeBytes, UInt8.toNat_ofNat', BitVec.toNat_ofNat]
  omega

theorem asChunks4_toLeBytes (words : List (BitVec 32)) :
    (asChunks4 (words.flatMap toLeBytes)).map fromLeBytes = words := by
  induction words with
  | nil => rfl
  | cons word words ih =>
    rw [List.flatMap_cons, toLeBytes]
    change fromLeBytes _ :: (asChunks4 (words.flatMap toLeBytes)).map fromLeBytes = _
    rw [ih, fromLeBytes_toLeBytes]

theorem undoWords_differenceWords (row : List (BitVec 32)) :
    undoWords (differenceWords row) = row.flatMap toLeBytes := by
  have hcancel : ∀ a b : BitVec 32, a + (b - a) = b := fun a b => by
    rw [BitVec.add_comm, BitVec.sub_add_cancel]
  rw [undoWords, length_differenceWords, Nat.mul_div_cancel _ (by decide),
    ← length_differenceWords, List.drop_length,
    List.append_nil, differenceWords, asChunks4_toLeBytes, scanl_differences hcancel]
  rfl

/-- A sample is found again in the four planes. -/
theorem planeSample_bytePlanes (row : List F32) {column : ℕ} (h : column < row.length) :
    planeSample (bytePlanes row) row.length column = some row[column] := by
  have hplane : ∀ byte, (bytePlane byte row).length = row.length := fun byte => List.length_map _
  have hget : ∀ byte, (bytePlane byte row)[column]?
      = some (UInt8.ofNat (row[column].bits.toNat / 2 ^ (8 * byte))) := fun byte => by
    rw [bytePlane, List.getElem?_map, List.getElem?_eq_getElem h]
    rfl
  -- a later plane is found after the ones before it
  have hskip : ∀ (byte i : ℕ) (rest : List UInt8),
      (bytePlane byte row ++ rest)[row.length + i]? = rest[i]? := fun byte i rest => by
    rw [List.getElem?_append_right (by rw [hplane]; exact Nat.le_add_right _ _), hplane,
      Nat.add_sub_cancel_left]
  have hfirst : ∀ (byte : ℕ) (rest : List UInt8),
      (bytePlane byte row ++ rest)[column]? = (bytePlane byte row)[column]? := fun byte rest =>
    List.getElem?_append_left (by rwa [hplane])
  have h₂ : 2 * row.length + column = row.length + (row.length + column) := by omega
  have h₃ : 3 * row.length + column = row.length + (row.length + (row.length + column)) := by omega
  rw [planeSample, bytePlanes, List.append_assoc, List.append_assoc, h₂, h₃]
  simp only [hskip, hfirst, hget, Option.bind_eq_bind, Option.bind_some]
  change some (F32.mk (fromLeBytes (UInt8.ofNat (row[column].bits.toNat / 2 ^ 0), _, _, _))) = _
  rw [pow_zero, Nat.div_one, fromLeBytes_toLeBytes]

/-! ### A tile -/

/-- The rows of a padded tile. -/
structure PaddedRows {T : Type} (metadata : CogMetadata) (rows : List (List T)) : Prop where
  length_rows : rows.length = metadata.tileHeight
  length_row : ∀ row ∈ rows, row.length = metadata.tileWidth

section Tile

variable {metadata : CogMetadata}

/-- A row of words of 32 bits has bytes. -/
theorem CogMetadata.rowBytes_pos (metadata : CogMetadata) : 0 < metadata.tileWidth * 4 :=
  Nat.mul_pos metadata.tileWidth_pos (by decide)

/-- A padded tile of rows that take some bytes a sample has as many bytes as are expected. -/
theorem PaddedRows.length_flatMap {T : Type} {rows : List (List T)}
    (h : PaddedRows metadata rows) {predict : List T → List UInt8}
    (hpredict : ∀ row, (predict row).length = row.length * metadata.sampleType.width) :
    (rows.flatMap predict).length = metadata.chunkBytes := by
  have hrows : ∀ row ∈ rows,
      (predict row).length = metadata.tileWidth * metadata.sampleType.width := fun row hrow => by
    rw [hpredict, h.length_row row hrow]
  rw [length_flatMap_rows hrows, h.length_rows, CogMetadata.chunkBytes, Nat.mul_left_comm,
    Nat.mul_assoc]

theorem undone_differenceBytes {rows : List (List UInt8)} (h : PaddedRows metadata rows)
    (htype : metadata.sampleType = .u8 ∨ metadata.sampleType = .i8)
    (hpredictor : metadata.predictor = 2) :
    undone metadata (rows.flatMap differenceBytes) = rows.flatten := by
  have hlength : ∀ row ∈ rows, (differenceBytes row).length = metadata.tileWidth := fun row hrow =>
    (length_differenceBytes row).trans (h.length_row row hrow)
  have hundone : undone metadata (rows.flatMap differenceBytes)
      = mapChunksExact metadata.tileWidth undoBytes (rows.flatMap differenceBytes) := by
    rcases htype with htype | htype <;> simp only [undone, htype, hpredictor]
  rw [hundone, mapChunksExact_flatMap metadata.tileWidth_pos hlength]
  simp only [undoBytes_differenceBytes, List.flatMap_id']

theorem paddedU8_differenceBytes {rows : List (List UInt8)} (h : PaddedRows metadata rows)
    (htype : metadata.sampleType = .u8 ∨ metadata.sampleType = .i8)
    (hpredictor : metadata.predictor = 2) :
    paddedU8 metadata (rows.flatMap differenceBytes) = rows.flatten := by
  have hchunks := @chunksExact_flatMap _ _ _ rows id metadata.tileWidth_pos h.length_row
  rw [List.flatMap_id, List.map_id] at hchunks
  rw [paddedU8, undone_differenceBytes h htype hpredictor, hchunks]

theorem undone_differenceWords {rows : List (List (BitVec 32))} (h : PaddedRows metadata rows)
    (htype : metadata.sampleType = .i32) (hpredictor : metadata.predictor = 2) :
    undone metadata (rows.flatMap differenceWords)
      = rows.flatMap fun row => row.flatMap toLeBytes := by
  have hlength : ∀ row ∈ rows, (differenceWords row).length = metadata.tileWidth * 4 :=
    fun row hrow => by rw [length_differenceWords, h.length_row row hrow]
  have hundone : undone metadata (rows.flatMap differenceWords)
      = mapChunksExact (metadata.tileWidth * 4) undoWords (rows.flatMap differenceWords) := by
    simp only [undone, htype, hpredictor]
  rw [hundone, mapChunksExact_flatMap metadata.rowBytes_pos hlength]
  simp only [undoWords_differenceWords]

theorem paddedF32_differenceWords {rows : List (List (BitVec 32))} (h : PaddedRows metadata rows)
    (htype : metadata.sampleType = .i32) (hpredictor : metadata.predictor = 2) :
    paddedF32 metadata (rows.flatMap differenceWords) = rows.flatten.map
      (normalizeI32 (parseInt (-2 ^ 31) (2 ^ 31 - 1) metadata.nodata)) := by
  have hlength : ∀ row ∈ rows, (row.flatMap toLeBytes).length = metadata.tileWidth * 4 :=
    fun row hrow => by rw [length_toLeBytes_flatMap, h.length_row row hrow]
  have hsamples : ∀ row : List (BitVec 32), rowSamples metadata (row.flatMap toLeBytes)
      = row.map (normalizeI32 (parseInt (-2 ^ 31) (2 ^ 31 - 1) metadata.nodata)) := fun row => by
    rw [rowSamples, htype]
    conv_rhs => rw [← asChunks4_toLeBytes row, List.map_map]
    rfl
  rw [paddedF32, undone_differenceWords h htype hpredictor,
    chunksExact_flatMap metadata.rowBytes_pos hlength, List.flatMap_map]
  simp only [hsamples]
  rw [List.flatMap_def, List.map_flatten]

theorem undone_differenceFloats {rows : List (List F32)} (h : PaddedRows metadata rows)
    (htype : metadata.sampleType = .f32) (hpredictor : metadata.predictor = 3) :
    undone metadata (rows.flatMap differenceFloats) = rows.flatMap bytePlanes := by
  have hlength : ∀ row ∈ rows, (differenceFloats row).length = metadata.tileWidth * 4 :=
    fun row hrow => by rw [length_differenceFloats, h.length_row row hrow]
  have hundone : undone metadata (rows.flatMap differenceFloats)
      = mapChunksExact (metadata.tileWidth * 4) undoBytes (rows.flatMap differenceFloats) := by
    simp only [undone, htype, hpredictor]
  rw [hundone, mapChunksExact_flatMap metadata.rowBytes_pos hlength]
  simp only [differenceFloats, undoBytes_differenceBytes]

theorem paddedF32_differenceFloats {rows : List (List F32)} (h : PaddedRows metadata rows)
    (htype : metadata.sampleType = .f32) (hpredictor : metadata.predictor = 3) :
    paddedF32 metadata (rows.flatMap differenceFloats) = rows.flatten := by
  have hlength : ∀ row ∈ rows, (bytePlanes row).length = metadata.tileWidth * 4 :=
    fun row hrow => by rw [length_bytePlanes, h.length_row row hrow]
  have hsamples : ∀ row ∈ rows, rowSamples metadata (bytePlanes row) = row := fun row hrow => by
    have hrowSamples : rowSamples metadata (bytePlanes row)
        = f32RowSamples 3 row.length (bytePlanes row) := by
      rw [rowSamples, htype, hpredictor, h.length_row row hrow]
    rw [hrowSamples, f32RowSamples]
    refine List.ext_getElem (by simp) fun column _ hcolumn => ?_
    rw [List.getElem_map, List.getElem_range, planeSample_bytePlanes row hcolumn]
    rfl
  rw [paddedF32, undone_differenceFloats h htype hpredictor,
    chunksExact_flatMap metadata.rowBytes_pos hlength, List.flatMap_map, List.flatMap_def,
    List.map_congr_left hsamples, List.map_id']

variable {inflate : List UInt8 → ℕ → Except String (List UInt8)} {compressed : List UInt8}
  {tileRow tileCol tileIndex : ℕ} {remotePath : String}

/-- Padded rows that have been predicted and compressed can be decoded. -/
theorem PaddedRows.decodable {T : Type} {rows : List (List T)} (h : PaddedRows metadata rows)
    {predict : List T → List UInt8}
    (hpredict : ∀ row, (predict row).length = row.length * metadata.sampleType.width)
    (hinside : TileInside metadata tileRow tileCol) (hsupported : SupportedPredictor metadata)
    (hceiling : metadata.chunkBytes ≤ maxDecodedChunkBytes)
    (hinflate : inflate compressed (metadata.chunkBytes + 1) = .ok (rows.flatMap predict)) :
    DecodableChunk inflate compressed metadata tileRow tileCol (rows.flatMap predict) :=
  ⟨hinside, hsupported, hceiling, hinflate, h.length_flatMap hpredict⟩

/-- **Predictors are undone.** A tile that begins in the raster, whose padded rows have been
predicted and compressed, and that is not too large, is decoded to the samples of its live part. The
words of a tile of integers are those of the padded rows before they are converted. -/
theorem decodeOwnedChunk_predicted (hinside : TileInside metadata tileRow tileCol)
    (hindex : tileRow * metadata.tilesAcross + tileCol = tileIndex)
    (hceiling : metadata.chunkBytes ≤ maxDecodedChunkBytes) :
    (∀ rows : List (List UInt8), PaddedRows metadata rows →
      (metadata.sampleType = .u8 ∨ metadata.sampleType = .i8) → metadata.predictor = 2 →
      inflate compressed (metadata.chunkBytes + 1) = .ok (rows.flatMap differenceBytes) →
      ∃ live, decodeOwnedChunk inflate compressed metadata tileIndex remotePath = .ok (.u8 live) ∧
        LivePart metadata tileRow tileCol rows.flatten live) ∧
    (∀ rows : List (List (BitVec 32)), PaddedRows metadata rows →
      metadata.sampleType = .i32 → metadata.predictor = 2 →
      inflate compressed (metadata.chunkBytes + 1) = .ok (rows.flatMap differenceWords) →
      inflateChunk inflate compressed metadata tileIndex remotePath
          = .ok (rows.flatMap fun row => row.flatMap toLeBytes) ∧
        ∃ live, decodeOwnedChunk inflate compressed metadata tileIndex remotePath
          = .ok (.f32 live) ∧
        LivePart metadata tileRow tileCol (rows.flatten.map
          (normalizeI32 (parseInt (-2 ^ 31) (2 ^ 31 - 1) metadata.nodata))) live) ∧
    ∀ rows : List (List F32), PaddedRows metadata rows →
      metadata.sampleType = .f32 → metadata.predictor = 3 →
      inflate compressed (metadata.chunkBytes + 1) = .ok (rows.flatMap differenceFloats) →
      ∃ live, decodeOwnedChunk inflate compressed metadata tileIndex remotePath = .ok (.f32 live) ∧
        LivePart metadata tileRow tileCol rows.flatten live := by
  refine ⟨fun rows hrows htype hpredictor hinflate => ?_,
    fun rows hrows htype hpredictor hinflate => ?_, fun rows hrows htype hpredictor hinflate => ?_⟩
  · have hwidth : metadata.sampleType.width = 1 := by
      rcases htype with htype | htype <;> rw [htype] <;> rfl
    have hsupported : SupportedPredictor metadata := by
      rcases htype with htype | htype <;> simp [SupportedPredictor, htype, hpredictor]
    have hchunk := hrows.decodable
      (fun row => by rw [length_differenceBytes, hwidth, Nat.mul_one]) hinside hsupported hceiling
      hinflate
    rw [← paddedU8_differenceBytes hrows htype hpredictor]
    exact decodeOwnedChunk_u8 htype hchunk hindex
  · have hsupported : SupportedPredictor metadata := by
      simp [SupportedPredictor, htype, hpredictor]
    have hchunk := hrows.decodable (fun row => by rw [length_differenceWords, htype]; rfl) hinside
      hsupported hceiling hinflate
    rw [← paddedF32_differenceWords hrows htype hpredictor,
      ← undone_differenceWords hrows htype hpredictor]
    exact ⟨hchunk.inflateChunk_eq_ok, decodeOwnedChunk_f32 (.inr htype) hchunk hindex⟩
  · have hsupported : SupportedPredictor metadata := by
      simp [SupportedPredictor, htype, hpredictor]
    have hchunk := hrows.decodable (fun row => by rw [length_differenceFloats, htype]; rfl) hinside
      hsupported hceiling hinflate
    rw [← paddedF32_differenceFloats hrows htype hpredictor]
    exact decodeOwnedChunk_f32 (.inl htype) hchunk hindex

/-- The upper right tile of a raster of three by three bytes; half of it lies outside. -/
theorem decodeOwnedChunk_predicted_edge : ∃ live,
    decodeOwnedChunk inflateStored [0x78, 1, 1, 4, 0, 251, 255, 3, 0, 6, 0, 0, 28, 0, 10] paddedCog
      1 "cog.tif" = .ok (.u8 live) ∧ LivePart paddedCog 0 1 [3, 3, 6, 6] live := by
  have hinside : TileInside paddedCog 0 1 := ⟨by decide, by decide⟩
  have hpredicted := @decodeOwnedChunk_predicted paddedCog inflateStored
    [0x78, 1, 1, 4, 0, 251, 255, 3, 0, 6, 0, 0, 28, 0, 10] 0 1 1 "cog.tif" hinside rfl (by decide)
  have hrows : PaddedRows paddedCog [[(3 : UInt8), 3], [6, 6]] := ⟨rfl, by decide⟩
  exact hpredicted.1 _ hrows (.inl rfl) rfl rfl

/-- A raster of 4096 by 4096 bytes in one tile. -/
def largeCog : CogMetadata :=
  ⟨4096, 4096, 4096, 4096, "255", .u8, 2, by decide, by decide, by decide, by decide, by decide,
    by decide⟩

/-- The rows of its tile. -/
def largeRows : List (List UInt8) := List.replicate 4096 (List.replicate 4096 0)

/-- A tile of 16 MiB is not decoded, whatever it is compressed to: a chunk may have 8 MiB. -/
theorem decodeOwnedChunk_declines_large : TileInside largeCog 0 0 ∧
    PaddedRows largeCog largeRows ∧ ∀ inflate compressed,
      Fault.Rejects (decodeOwnedChunk inflate compressed largeCog 0 "cog.tif") := by
  refine ⟨⟨by decide, by decide⟩, ⟨List.length_replicate, fun row hrow => ?_⟩,
    fun inflate compressed => (rejects_inflateChunk (by decide)).bind _⟩
  rw [List.eq_of_mem_replicate hrow]
  exact List.length_replicate

end Tile

end WatershedDelineation
