import WatershedDelineation.Cog.Chunk
import WatershedDelineation.General.RowMajor

/-!
# The live part of a tile

A padded tile is a row-major list of `tileWidth` by `tileHeight` samples (`paddedU8`,
`paddedF32`). Decoding a tile keeps of it the samples that lie in the raster
(`decodeOwnedChunk_u8`, `decodeOwnedChunk_f32`), and no arithmetic or index on the way
fails.
-/

namespace WatershedDelineation

open Chunks Tiling

/-! ### Padded tiles -/

/-- The samples of one row of single precision numbers. -/
def f32RowSamples (predictor tileWidth : ℕ) (row : List UInt8) : List F32 :=
  match predictor with
  | 3 => (List.range tileWidth).map fun column =>
      (planeSample row tileWidth column).getD F32.nan
  | _ => (asChunks4 row).map fun bytes => ⟨fromLeBytes bytes⟩

/-- The samples of one row of a padded tile of single precision numbers or integers. -/
def rowSamples (metadata : CogMetadata) (row : List UInt8) : List F32 :=
  match metadata.sampleType with
  | .i32 => (asChunks4 row).map fun bytes =>
      normalizeI32 (parseInt (-2 ^ 31) (2 ^ 31 - 1) metadata.nodata) (fromLeBytes bytes)
  | _ => f32RowSamples metadata.predictor metadata.tileWidth row

/-- The predictors that a sample type has. -/
def SupportedPredictor (metadata : CogMetadata) : Prop :=
  metadata.predictor = 1 ∨
    match metadata.sampleType with
    | .f32 => metadata.predictor = 3
    | .u8 | .i8 | .i32 => metadata.predictor = 2

/-- The bytes of a padded tile, from the inflated ones. -/
def undone (metadata : CogMetadata) (inflated : List UInt8) : List UInt8 :=
  match metadata.sampleType, metadata.predictor with
  | .u8, 2 | .i8, 2 => mapChunksExact metadata.tileWidth undoBytes inflated
  | .i32, 2 => mapChunksExact (metadata.tileWidth * 4) undoWords inflated
  | .f32, 3 => mapChunksExact (metadata.tileWidth * 4) undoBytes inflated
  | _, _ => inflated

/-- The samples of a padded tile of bytes. -/
def paddedU8 (metadata : CogMetadata) (inflated : List UInt8) : List UInt8 :=
  (chunksExact metadata.tileWidth (undone metadata inflated)).flatten

/-- The samples of a padded tile of single precision numbers or integers. -/
def paddedF32 (metadata : CogMetadata) (inflated : List UInt8) : List F32 :=
  (chunksExact (metadata.tileWidth * 4) (undone metadata inflated)).flatMap (rowSamples metadata)

/-- The number of bytes of a padded tile. -/
def CogMetadata.chunkBytes (metadata : CogMetadata) : ℕ :=
  metadata.tileWidth * metadata.tileHeight * metadata.sampleType.width

/-- The samples of a padded tile that lie in the raster, row by row. -/
structure LivePart {T : Type} (metadata : CogMetadata) (tileRow tileCol : ℕ)
    (padded live : List T) : Prop where
  length_eq : live.length = liveLength metadata.tileHeight metadata.height tileRow
    * liveLength metadata.tileWidth metadata.width tileCol
  getD_eq : ∀ d y x, y < liveLength metadata.tileHeight metadata.height tileRow →
    x < liveLength metadata.tileWidth metadata.width tileCol →
    live.getD (y * liveLength metadata.tileWidth metadata.width tileCol + x) d
      = padded.getD (y * metadata.tileWidth + x) d

section Rows

variable {T : Type} {metadata : CogMetadata} {tileRow tileCol n : ℕ} {bytes : List UInt8}
  {samples : List UInt8 → List T} {clip : List UInt8 → Except (Fault CacheError) (List T)}

/-- Cutting the rows of a padded tile to their live part. -/
theorem exists_mapM_clip (hn : 0 < n) (hbytes : bytes.length = metadata.tileHeight * n)
    (hsamples : ∀ row : List UInt8, row.length = n → (samples row).length = metadata.tileWidth)
    (hclip : ∀ row : List UInt8, row.length = n → clip row
      = .ok ((samples row).take (liveLength metadata.tileWidth metadata.width tileCol))) :
    ∃ rows, ((chunksExact n bytes).take
        (liveLength metadata.tileHeight metadata.height tileRow)).mapM clip = .ok rows ∧
      LivePart metadata tileRow tileCol ((chunksExact n bytes).flatMap samples) rows.flatten := by
  have hrows : bytes.length / n = metadata.tileHeight := by
    rw [hbytes, Nat.mul_div_cancel _ hn]
  have hheight : liveLength metadata.tileHeight metadata.height tileRow ≤ metadata.tileHeight :=
    Nat.min_le_left ..
  have hwidth : liveLength metadata.tileWidth metadata.width tileCol ≤ metadata.tileWidth :=
    Nat.min_le_left ..
  let chunk (i : ℕ) : List UInt8 := (bytes.drop (i * n)).take n
  have hchunk : ∀ i < metadata.tileHeight, (chunk i).length = n := fun i hi =>
    length_of_mem_chunksExact (l := bytes)
      (List.mem_map.mpr ⟨i, List.mem_range.mpr (hrows ▸ hi), rfl⟩)
  have htake : (chunksExact n bytes).take (liveLength metadata.tileHeight metadata.height tileRow)
      = (List.range (liveLength metadata.tileHeight metadata.height tileRow)).map chunk := by
    rw [chunksExact, hrows, ← List.map_take, List.take_range, Nat.min_eq_left hheight]
  refine ⟨_, Checks.mapM_eq_ok fun row hrow =>
    hclip row (length_of_mem_chunksExact (List.mem_of_mem_take hrow)), ?_⟩
  let liveRow (i : ℕ) : List T :=
    (samples (chunk i)).take (liveLength metadata.tileWidth metadata.width tileCol)
  have hlength : ∀ i < liveLength metadata.tileHeight metadata.height tileRow,
      (liveRow i).length = liveLength metadata.tileWidth metadata.width tileCol := fun i hi => by
    rw [List.length_take, hsamples _ (hchunk i (Nat.lt_of_lt_of_le hi hheight)),
      Nat.min_eq_left hwidth]
  -- both lists are made of rows of one length, so that cells are found by row and column
  rw [htake, List.map_map, ← List.flatMap_def]
  change LivePart metadata tileRow tileCol _ (List.flatMap liveRow _)
  refine ⟨?_, fun d y x hy hx => ?_⟩
  · rw [List.length_flatMap, List.map_congr_left fun i hi => hlength i (List.mem_range.mp hi),
      List.map_const', List.sum_replicate_nat, List.length_range]
  · rw [RowMajor.getD_flatMap_range hlength hy hx, chunksExact, hrows, List.flatMap_map,
      RowMajor.getD_flatMap_range (fun i hi => hsamples _ (hchunk i hi))
        (Nat.lt_of_lt_of_le hy hheight) (Nat.lt_of_lt_of_le hx hwidth),
      List.getD_eq_getElem?_getD, List.getElem?_take_of_lt hx, ← List.getD_eq_getElem?_getD]

end Rows

/-! ### Rows -/

theorem length_undoBytes (row : List UInt8) : (undoBytes row).length = row.length := by
  cases row with
  | nil => rfl
  | cons first rest => rw [undoBytes, List.length_scanl, List.length_cons]

theorem length_asChunks4 (row : List UInt8) : (asChunks4 row).length = row.length / 4 := by
  fun_induction asChunks4 row with
  | case1 a b c d l ih =>
    simp only [List.length_cons, ih]
    omega
  | case2 row h =>
    match row, h with
    | [], _ => rfl
    | [_], _ => simp
    | [_, _], _ => simp
    | [_, _, _], _ => simp
    | a :: b :: c :: d :: l, h => exact absurd rfl (h a b c d l)

theorem length_undoWords (row : List UInt8) : (undoWords row).length = row.length := by
  have hwords : ∀ words : List (BitVec 32), (words.flatMap toLeBytes).length = words.length * 4 :=
    fun words => by
      rw [List.length_flatMap, List.map_congr_left fun word _ => show (toLeBytes word).length = 4
        from rfl, List.map_const', List.sum_replicate_nat]
  rw [undoWords, List.length_append, hwords, List.length_tail, List.length_scanl, List.length_map,
    length_asChunks4, List.length_drop]
  omega

section Row

variable {metadata : CogMetadata} {row : List UInt8} {predictor tileWidth liveWidth : ℕ}

private theorem length_asChunks4_row (hrow : row.length = tileWidth * 4) :
    (asChunks4 row).length = tileWidth := by
  rw [length_asChunks4, hrow, Nat.mul_div_cancel _ (by decide)]

theorem length_rowSamples (hrow : row.length = metadata.tileWidth * 4) :
    (rowSamples metadata row).length = metadata.tileWidth := by
  have hchunks := length_asChunks4_row hrow
  rw [rowSamples]
  split
  · rw [List.length_map, hchunks]
  · unfold f32RowSamples
    split
    · rw [List.length_map, List.length_range]
    · rw [List.length_map, hchunks]

theorem exists_planeSample (hrow : row.length = tileWidth * 4) {column : ℕ}
    (hcolumn : column < tileWidth) : ∃ sample, planeSample row tileWidth column = some sample := by
  rw [planeSample, List.getElem?_eq_getElem (by omega), List.getElem?_eq_getElem (by omega),
    List.getElem?_eq_getElem (by omega), List.getElem?_eq_getElem (by omega)]
  exact ⟨_, rfl⟩

/-- The live samples of a row are its first ones. -/
theorem clipF32Row_eq_ok (hrow : row.length = tileWidth * 4) (hlive : liveWidth ≤ tileWidth) :
    clipF32Row predictor (tileWidth * 4) liveWidth row
      = .ok ((f32RowSamples predictor tileWidth row).take liveWidth) := by
  rcases eq_or_ne predictor 3 with rfl | hpredictor
  · rw [clipF32Row, f32RowSamples]
    simp only [← List.map_take, List.take_range, Nat.min_eq_left hlive,
      Nat.mul_div_cancel _ (show 0 < 4 by decide)]
    refine Checks.mapM_eq_ok fun column hcolumn => ?_
    obtain ⟨sample, hsample⟩ := exists_planeSample hrow
      (Nat.lt_of_lt_of_le (List.mem_range.mp hcolumn) hlive)
    rw [hsample]
    rfl
  · have hclip : clipF32Row predictor (tileWidth * 4) liveWidth row
        = .ok (((asChunks4 row).take liveWidth).map fun bytes => ⟨fromLeBytes bytes⟩) := by
      unfold clipF32Row
      split
      · exact absurd rfl hpredictor
      · rfl
    have hsamples : f32RowSamples predictor tileWidth row
        = (asChunks4 row).map fun bytes => ⟨fromLeBytes bytes⟩ := by
      unfold f32RowSamples
      split
      · exact absurd rfl hpredictor
      · rfl
    rw [hclip, hsamples, List.map_take]

end Row

/-! ### Inflating -/

section Decode

variable {inflate : List UInt8 → ℕ → Except String (List UInt8)} {compressed inflated : List UInt8}
  {metadata : CogMetadata} {tileRow tileCol tileIndex : ℕ} {remotePath : String}

theorem length_undone (inflated : List UInt8) :
    (undone metadata inflated).length = inflated.length := by
  rw [undone]
  split
  · exact length_mapChunksExact fun chunk h => (length_undoBytes chunk).trans h
  · exact length_mapChunksExact fun chunk h => (length_undoBytes chunk).trans h
  · exact length_mapChunksExact fun chunk h => (length_undoWords chunk).trans h
  · exact length_mapChunksExact fun chunk h => (length_undoBytes chunk).trans h
  · rfl

/-- A supported predictor is undone. -/
theorem undoPredictor_eq_ok (h : SupportedPredictor metadata) :
    undoPredictor metadata inflated remotePath = .ok (undone metadata inflated) := by
  have hwidth := metadata.tileWidth_lt
  unfold SupportedPredictor at h
  unfold undoPredictor undone
  rw [Checked.mul_of_lt (by omega)]
  cases htype : metadata.sampleType with
  | u8 => rcases h with h | h <;> simp_all
  | i8 => rcases h with h | h <;> simp_all
  | f32 =>
    rcases h with h | h <;> simp_all
    rfl
  | i32 =>
    rcases h with h | h <;> simp_all
    rfl

private theorem tile_lt : metadata.tileWidth * metadata.tileHeight < 2 ^ 64 :=
  Nat.lt_of_lt_of_eq (Nat.mul_lt_mul'' metadata.tileWidth_lt metadata.tileHeight_lt) (by decide)

/-- Below the ceiling only the predictor is left to undo. -/
theorem inflateChunk_eq (hceiling : metadata.chunkBytes ≤ maxDecodedChunkBytes)
    (hinflate : inflate compressed (metadata.chunkBytes + 1) = .ok inflated)
    (hlength : inflated.length = metadata.chunkBytes) :
    inflateChunk inflate compressed metadata tileIndex remotePath
      = undoPredictor metadata inflated remotePath := by
  have hsmall : metadata.chunkBytes + 1 < 2 ^ 64 :=
    Nat.lt_of_le_of_lt (Nat.succ_le_succ hceiling) (by decide)
  rw [CogMetadata.chunkBytes] at *
  rw [inflateChunk, Checked.mul_of_lt tile_lt, Option.bind_some,
    Checked.mul_of_lt (Nat.lt_of_succ_lt hsmall), Checked.orErr_some, Checks.ok_bind,
    if_neg (Nat.not_lt.mpr hceiling), Checked.add_of_lt hsmall, Checked.orErr_some, Checks.ok_bind,
    hinflate]
  change (if _ then _ else _) = _
  rw [if_neg (not_not.mpr hlength)]

/-- A chunk above the ceiling is declined. -/
theorem rejects_inflateChunk (h : ¬metadata.chunkBytes ≤ maxDecodedChunkBytes) :
    Fault.Rejects (inflateChunk inflate compressed metadata tileIndex remotePath) := by
  rw [CogMetadata.chunkBytes] at h
  rw [inflateChunk, Checked.mul_of_lt tile_lt, Option.bind_some, Checked.mul]
  split_ifs with hsize
  · rw [Checked.orErr_some, Checks.ok_bind, if_pos (Nat.not_le.mp h)]
    exact Fault.rejects_err _
  · exact (Fault.rejects_err _).bind _

/-- An unsupported predictor is declined. -/
theorem rejects_undoPredictor (h : ¬SupportedPredictor metadata) :
    Fault.Rejects (undoPredictor metadata inflated remotePath) := by
  unfold SupportedPredictor at h
  unfold undoPredictor
  split
  all_goals simp_all
  exact Fault.rejects_err _

/-! ### Decoding -/

theorem tileColRow_eq_ok (h : tileCol < metadata.tilesAcross) :
    tileColRow metadata (tileRow * metadata.tilesAcross + tileCol) = .ok (tileCol, tileRow) := by
  obtain ⟨hcol, hrow⟩ := @tileIndex_div_mod metadata tileRow tileCol h
  rw [tileColRow, if_neg (Nat.ne_of_gt (Nat.zero_lt_of_lt h)), hcol, hrow]

/-- A tile that begins in the raster. -/
structure TileInside (metadata : CogMetadata) (tileRow tileCol : ℕ) : Prop where
  row : tileRow * metadata.tileHeight < metadata.height
  col : tileCol * metadata.tileWidth < metadata.width

/-- The steps of decoding up to the samples: no arithmetic fails. -/
private theorem decodeOwnedChunk_eq (h : TileInside metadata tileRow tileCol)
    (hindex : tileRow * metadata.tilesAcross + tileCol = tileIndex) {bytes : List UInt8}
    (hbytes : inflateChunk inflate compressed metadata tileIndex remotePath = .ok bytes) :
    decodeOwnedChunk inflate compressed metadata tileIndex remotePath
      = match metadata.sampleType with
        | .u8 | .i8 => do
          let rows ← ((chunksExact metadata.tileWidth bytes).take
            (liveLength metadata.tileHeight metadata.height tileRow)).mapM
              (clipByteRow (liveLength metadata.tileWidth metadata.width tileCol))
          .ok (.u8 rows.flatten)
        | .f32 => do
          let rows ← ((chunksExact (metadata.tileWidth * 4) bytes).take
            (liveLength metadata.tileHeight metadata.height tileRow)).mapM
              (clipF32Row metadata.predictor (metadata.tileWidth * 4)
                (liveLength metadata.tileWidth metadata.width tileCol))
          .ok (.f32 rows.flatten)
        | .i32 => .ok (.f32 (((chunksExact (metadata.tileWidth * 4) bytes).take
            (liveLength metadata.tileHeight metadata.height tileRow)).map
              (clipI32Row (parseInt (-2 ^ 31) (2 ^ 31 - 1) metadata.nodata)
                (liveLength metadata.tileWidth metadata.width tileCol))).flatten) := by
  obtain ⟨hrow, hcol⟩ := h
  have hwidth := metadata.width_lt
  have hheight := metadata.height_lt
  have hlive : liveLength metadata.tileWidth metadata.width tileCol
      * liveLength metadata.tileHeight metadata.height tileRow < 2 ^ 64 :=
    Nat.lt_of_lt_of_eq (Nat.mul_lt_mul''
      (Nat.lt_of_le_of_lt (Nat.min_le_left ..) metadata.tileWidth_lt)
      (Nat.lt_of_le_of_lt (Nat.min_le_left ..) metadata.tileHeight_lt)) (by decide)
  have hwords := metadata.tileWidth_lt
  subst hindex
  -- the tile begins in the raster, so all sums and products are below those of its dimensions
  simp only [decodeOwnedChunk, hbytes, tileColRow_eq_ok (CogMetadata.lt_tilesAcross hcol),
    Checked.mul_of_lt (hcol.trans hwidth), Checked.mul_of_lt (hrow.trans hheight),
    Checked.orErr_some, Checked.sub_of_le hcol.le, Checked.sub_of_le hrow.le, Checked.orPanic_some,
    Checked.mul_of_lt (show metadata.tileWidth * 4 < 2 ^ 64 by omega), Checks.ok_bind]
  change (Checked.orErr (Checked.mul 64 (liveLength metadata.tileWidth metadata.width tileCol)
    (liveLength metadata.tileHeight metadata.height tileRow)) _ >>= _) = _
  rw [Checked.mul_of_lt hlive]
  rfl

/-- What decoding a tile needs: the tile begins in the raster, its predictor is supported, and the
decompressor yields as many bytes as a padded tile has. -/
structure DecodableChunk (inflate : List UInt8 → ℕ → Except String (List UInt8))
    (compressed : List UInt8) (metadata : CogMetadata) (tileRow tileCol : ℕ)
    (inflated : List UInt8) : Prop where
  inside : TileInside metadata tileRow tileCol
  predictor : SupportedPredictor metadata
  ceiling : metadata.chunkBytes ≤ maxDecodedChunkBytes
  inflate_eq : inflate compressed (metadata.chunkBytes + 1) = .ok inflated
  length_eq : inflated.length = metadata.chunkBytes

/-- **Inflating a tile** gives the bytes of the padded tile. -/
theorem DecodableChunk.inflateChunk_eq_ok
    (h : DecodableChunk inflate compressed metadata tileRow tileCol inflated) :
    inflateChunk inflate compressed metadata tileIndex remotePath
      = .ok (undone metadata inflated) :=
  (inflateChunk_eq h.ceiling h.inflate_eq h.length_eq).trans (undoPredictor_eq_ok h.predictor)

/-- **Decoding a tile of bytes.** -/
theorem decodeOwnedChunk_u8 (htype : metadata.sampleType = .u8 ∨ metadata.sampleType = .i8)
    (h : DecodableChunk inflate compressed metadata tileRow tileCol inflated)
    (hindex : tileRow * metadata.tilesAcross + tileCol = tileIndex) :
    ∃ live, decodeOwnedChunk inflate compressed metadata tileIndex remotePath = .ok (.u8 live) ∧
      LivePart metadata tileRow tileCol (paddedU8 metadata inflated) live := by
  have hbytes : (undone metadata inflated).length = metadata.tileHeight * metadata.tileWidth := by
    rw [length_undone, h.length_eq, CogMetadata.chunkBytes, Nat.mul_comm metadata.tileHeight]
    rcases htype with htype | htype <;> rw [htype, CogSampleType.width, Nat.mul_one]
  obtain ⟨rows, hrows, hlive⟩ := @exists_mapM_clip UInt8 metadata tileRow tileCol
    metadata.tileWidth (undone metadata inflated) id
    (clipByteRow (liveLength metadata.tileWidth metadata.width tileCol)) metadata.tileWidth_pos
    hbytes (fun _ hrow => hrow) fun row hrow => by
      rw [clipByteRow, if_pos (hrow ▸ Nat.min_le_left ..), id]
  refine ⟨rows.flatten, ?_, ?_⟩
  · rw [decodeOwnedChunk_eq h.inside hindex h.inflateChunk_eq_ok]
    rcases htype with htype | htype <;> rw [htype, hrows] <;> rfl
  · rwa [List.flatMap_id] at hlive

/-- **Decoding a tile of single precision numbers or integers.** -/
theorem decodeOwnedChunk_f32 (htype : metadata.sampleType = .f32 ∨ metadata.sampleType = .i32)
    (h : DecodableChunk inflate compressed metadata tileRow tileCol inflated)
    (hindex : tileRow * metadata.tilesAcross + tileCol = tileIndex) :
    ∃ live, decodeOwnedChunk inflate compressed metadata tileIndex remotePath = .ok (.f32 live) ∧
      LivePart metadata tileRow tileCol (paddedF32 metadata inflated) live := by
  have hbytes : (undone metadata inflated).length
      = metadata.tileHeight * (metadata.tileWidth * 4) := by
    rw [length_undone, h.length_eq, CogMetadata.chunkBytes, Nat.mul_comm metadata.tileWidth,
      Nat.mul_assoc]
    rcases htype with htype | htype <;> rw [htype, CogSampleType.width]
  have hpos : 0 < metadata.tileWidth * 4 := Nat.mul_pos metadata.tileWidth_pos (by decide)
  have hlive : liveLength metadata.tileWidth metadata.width tileCol ≤ metadata.tileWidth :=
    Nat.min_le_left ..
  have hdecode := @decodeOwnedChunk_eq inflate compressed metadata tileRow tileCol tileIndex
    remotePath h.inside hindex _ h.inflateChunk_eq_ok
  rcases htype with htype | htype
  · obtain ⟨rows, hrows, hpart⟩ := @exists_mapM_clip F32 metadata tileRow tileCol
      (metadata.tileWidth * 4) (undone metadata inflated) (rowSamples metadata)
      (clipF32Row metadata.predictor (metadata.tileWidth * 4)
        (liveLength metadata.tileWidth metadata.width tileCol)) hpos hbytes
      (fun _ => length_rowSamples) fun row hrow => by
        rw [clipF32Row_eq_ok hrow hlive, rowSamples, htype]
    refine ⟨rows.flatten, ?_, hpart⟩
    rw [hdecode, htype, hrows]
    rfl
  · obtain ⟨rows, hrows, hpart⟩ := @exists_mapM_clip F32 metadata tileRow tileCol
      (metadata.tileWidth * 4) (undone metadata inflated) (rowSamples metadata)
      (fun row => .ok (clipI32Row (parseInt (-2 ^ 31) (2 ^ 31 - 1) metadata.nodata)
        (liveLength metadata.tileWidth metadata.width tileCol) row)) hpos hbytes
      (fun _ => length_rowSamples) fun row hrow => by
        rw [clipI32Row, rowSamples, htype, List.map_take]
    -- rows of integers are cut without a check
    obtain rfl := Except.ok.inj (hrows.symm.trans (Checks.mapM_eq_ok fun _ _ => rfl))
    refine ⟨_, ?_, hpart⟩
    rw [hdecode, htype]

end Decode

end WatershedDelineation
