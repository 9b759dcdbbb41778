import WatershedDelineation.Cog.WindowSpec

/-!
# Window stitching

Decoding a planned window gives the crop of the raster, and an error where the code declines the
file (`decodeWindow_eq_crop`).
-/

namespace WatershedDelineation

open Tiling Painting

/-- The samples of a window of the raster whose tiles inflate to the bytes `inflated`. -/
def cropData (metadata : CogMetadata) (window : RasterPixelWindow)
    (inflated : ℕ → List UInt8) : WindowData :=
  match metadata.sampleType with
  | .u8 | .i8 => .u8 (crop metadata window (fun i => paddedU8 metadata (inflated i)) 0)
  | .f32 | .i32 => .f32 (crop metadata window (fun i => paddedF32 metadata (inflated i)) F32.nan)

/-- The nodata value of a raster of bytes is a byte. -/
def NodataReadable (metadata : CogMetadata) : Prop :=
  match metadata.sampleType with
  | .u8 => (parseInt 0 255 metadata.nodata).isSome
  | .i8 => (parseInt (-128) 127 metadata.nodata).isSome
  | .f32 | .i32 => True

/-- The files and windows that the code does not decline. -/
structure Supported (metadata : CogMetadata) (window : RasterPixelWindow) : Prop where
  predictor : SupportedPredictor metadata
  nodata : NodataReadable metadata
  chunk_le : metadata.chunkBytes ≤ maxDecodedChunkBytes
  window_le : window.width * window.height * metadata.sampleType.width ≤ maxWindowAllocationBytes

/-- A window inside the raster, its planned tiles, and a decompressor that yields the bytes of
each of them. -/
structure PlannedWindow (inflate : List UInt8 → ℕ → Except String (List UInt8))
    (compressed : List (List UInt8)) (metadata : CogMetadata) (window : RasterPixelWindow)
    (tiles : ResolvedTilePlan) (remotePath : String) (inflated : ℕ → List UInt8) : Prop where
  inside : window.Inside metadata
  planned : ∃ plan, TilePlan.forWindow metadata window remotePath = .ok plan ∧
    tiles.tiles.map ResolvedTile.index = plan.indices
  inflates : List.Forall₂ (fun tile bytes =>
    inflate bytes (metadata.chunkBytes + 1) = .ok (inflated tile.index) ∧
      (inflated tile.index).length = metadata.chunkBytes) tiles.tiles compressed

section Decode

variable {inflate : List UInt8 → ℕ → Except String (List UInt8)} {parseF32 : String → Option F32}
  {compressed : List (List UInt8)} {metadata : CogMetadata} {window : RasterPixelWindow}
  {tiles : ResolvedTilePlan} {remotePath : String} {inflated : ℕ → List UInt8}

namespace PlannedWindow

/-- Every tile of the plan meets the window, and the decompressor yields its bytes. -/
theorem of_mem_zip (h : PlannedWindow inflate compressed metadata window tiles remotePath inflated)
    {tile : ResolvedTile} {bytes : List UInt8} (hmem : (tile, bytes) ∈ tiles.tiles.zip compressed) :
    (∃ tileRow tileCol, MeetsWindow metadata window tileRow tileCol ∧
        tileRow * metadata.tilesAcross + tileCol = tile.index) ∧
      inflate bytes (metadata.chunkBytes + 1) = .ok (inflated tile.index) ∧
        (inflated tile.index).length = metadata.chunkBytes := by
  obtain ⟨plan, hplan, hresolved⟩ := h.planned
  refine ⟨(TilePlan.mem_indices h.inside hplan).mp ?_, ?_⟩
  · rw [← hresolved]
    exact List.mem_map_of_mem (List.of_mem_zip hmem).1
  · exact List.forall₂_zip h.inflates hmem

/-- A loop that decodes every tile and copies it makes the crop. -/
theorem foldlM_eq_ok
    (h : PlannedWindow inflate compressed metadata window tiles remotePath inflated)
    {T : Type} {tile : ℕ → List T} {d : T} {out : List T}
    {step : List T → ResolvedTile × List UInt8 → Except (Fault CacheError) (List T)}
    (hwindow : window.height * window.width < 2 ^ 32)
    (hchunk : metadata.tileHeight * metadata.tileWidth < 2 ^ 32)
    (hstep : ∀ p ∈ tiles.tiles.zip compressed, ∀ tileRow tileCol,
      MeetsWindow metadata window tileRow tileCol →
      tileRow * metadata.tilesAcross + tileCol = p.1.index →
      ∃ live, (∀ out, step out p = copyTile live out metadata window p.1.index) ∧
        LivePart metadata tileRow tileCol (tile p.1.index) live)
    (hout : out.length = window.height * window.width) :
    (tiles.tiles.zip compressed).foldlM step out = .ok (crop metadata window tile d) := by
  obtain ⟨plan, hplan, hresolved⟩ := h.planned
  obtain ⟨out', hout', hpaints⟩ := @exists_foldlM_paints T (ResolvedTile × List UInt8)
    (Fault CacheError) (windowPixel metadata window tile d) out (tiles.tiles.zip compressed) step
    (fun p => tileCells metadata window p.1.index) fun p hp out' hlen => by
      obtain ⟨⟨tileRow, tileCol, hmeets, hindex⟩, -⟩ := h.of_mem_zip hp
      obtain ⟨live, hcopy, hlive⟩ := hstep p hp tileRow tileCol hmeets hindex
      rw [hcopy]
      exact exists_copyTile_paints h.inside hmeets hindex hwindow hchunk hlive (hlen.trans hout)
  rw [hout', hpaints.eq_map fun k hk => ?_, hout, map_windowPixel]
  -- the tile of every cell is planned, and every planned tile has its bytes
  have hmem := tileOf_mem_indices h.inside hplan (hout ▸ hk)
  rw [← hresolved] at hmem
  obtain ⟨resolved, hresolvedMem, heq⟩ := List.mem_map.mp hmem
  have hlen := h.inflates.length_eq
  obtain ⟨i, hi, rfl⟩ := List.mem_iff_getElem.mp hresolvedMem
  refine ⟨(tiles.tiles[i], compressed[i]), ?_, hout ▸ hk, heq.symm⟩
  rw [List.mem_iff_getElem]
  exact ⟨i, by simp [hi, ← hlen], by simp⟩

theorem decodableChunk (h : PlannedWindow inflate compressed metadata window tiles remotePath
      inflated) (hsupported : Supported metadata window) {tile : ResolvedTile} {bytes : List UInt8}
    (hmem : (tile, bytes) ∈ tiles.tiles.zip compressed) {tileRow tileCol : ℕ}
    (hmeets : MeetsWindow metadata window tileRow tileCol) :
    DecodableChunk inflate bytes metadata tileRow tileCol (inflated tile.index) := by
  obtain ⟨-, hinflate, hlength⟩ := h.of_mem_zip hmem
  exact ⟨hmeets.inside h.inside, hsupported.predictor, hsupported.chunk_le, hinflate, hlength⟩

end PlannedWindow

theorem windowAllocationLen_eq_ok {sampleWidth : ℕ}
    (hpos : 0 < sampleWidth)
    (h : window.width * window.height * sampleWidth ≤ maxWindowAllocationBytes) :
    windowAllocationLen remotePath window.width window.height sampleWidth
      = .ok (window.width * window.height) := by
  have hbytes : window.width * window.height * sampleWidth < 2 ^ 64 :=
    Nat.lt_of_le_of_lt h (by decide)
  have helements := Nat.lt_of_le_of_lt (Nat.le_mul_of_pos_right _ hpos) hbytes
  rw [windowAllocationLen, Checked.mul_of_lt helements, Checked.orErr_some, Checks.ok_bind,
    Checked.mul_of_lt hbytes, Checked.orErr_some, Checks.ok_bind, if_neg (Nat.not_lt.mpr h)]

theorem directionNodataByte_eq_ok
    (htype : metadata.sampleType = .u8 ∨ metadata.sampleType = .i8) (h : NodataReadable metadata) :
    ∃ nodata, directionNodataByte metadata.sampleType metadata.nodata remotePath = .ok nodata := by
  rcases htype with htype | htype
  · rw [NodataReadable, htype] at h
    obtain ⟨value, hvalue⟩ := Option.isSome_iff_exists.mp h
    rw [htype, directionNodataByte, hvalue]
    exact ⟨_, rfl⟩
  · rw [NodataReadable, htype] at h
    obtain ⟨value, hvalue⟩ := Option.isSome_iff_exists.mp h
    rw [htype, directionNodataByte, hvalue]
    exact ⟨_, rfl⟩

private theorem chunk_lt (h : metadata.chunkBytes ≤ maxDecodedChunkBytes) :
    metadata.tileHeight * metadata.tileWidth < 2 ^ 32 := by
  have hwidth : 0 < metadata.sampleType.width := by
    cases metadata.sampleType <;> decide
  rw [Nat.mul_comm]
  exact Nat.lt_of_le_of_lt (Nat.le_trans (Nat.le_mul_of_pos_right _ hwidth) h) (by decide)

private theorem window_lt {sampleWidth : ℕ} (hpos : 0 < sampleWidth)
    (h : window.width * window.height * sampleWidth ≤ maxWindowAllocationBytes) :
    window.height * window.width < 2 ^ 32 := by
  rw [Nat.mul_comm]
  exact Nat.lt_of_le_of_lt (Nat.le_trans (Nat.le_mul_of_pos_right _ hpos) h) (by decide)

theorem decodeU8Window_eq_ok
    (h : PlannedWindow inflate compressed metadata window tiles remotePath inflated)
    (hsupported : Supported metadata window)
    (htype : metadata.sampleType = .u8 ∨ metadata.sampleType = .i8) :
    decodeU8Window inflate compressed metadata window tiles remotePath
      = .ok (crop metadata window (fun i => paddedU8 metadata (inflated i)) 0) := by
  obtain ⟨nodata, hnodata⟩ :=
    @directionNodataByte_eq_ok metadata remotePath htype hsupported.nodata
  have hwidth : metadata.sampleType.width = 1 := by
    rcases htype with htype | htype <;> rw [htype, CogSampleType.width]
  have hwindow := hwidth ▸ hsupported.window_le
  rw [decodeU8Window, hnodata, Checks.ok_bind, windowAllocationLen_eq_ok Nat.one_pos hwindow,
    Checks.ok_bind]
  refine h.foldlM_eq_ok (window_lt Nat.one_pos hwindow) (chunk_lt hsupported.chunk_le)
    (fun p hp tileRow tileCol hmeets hindex => ?_) ?_
  · obtain ⟨live, hdecode, hlive⟩ := @decodeOwnedChunk_u8 inflate p.2 (inflated p.1.index) metadata
      tileRow tileCol p.1.index remotePath htype (h.decodableChunk hsupported hp hmeets) hindex
    refine ⟨live, fun out => ?_, hlive⟩
    simp only [hdecode, Checks.ok_bind]
  · rw [List.length_replicate, Nat.mul_comm]

theorem decodeF32Window_eq_ok
    (h : PlannedWindow inflate compressed metadata window tiles remotePath inflated)
    (hsupported : Supported metadata window)
    (htype : metadata.sampleType = .f32 ∨ metadata.sampleType = .i32) :
    decodeF32Window inflate parseF32 compressed metadata window tiles remotePath
      = .ok (crop metadata window (fun i => paddedF32 metadata (inflated i)) F32.nan) := by
  have hwidth : metadata.sampleType.width = 4 := by
    rcases htype with htype | htype <;> rw [htype, CogSampleType.width]
  have hwindow := hwidth ▸ hsupported.window_le
  rw [decodeF32Window, windowAllocationLen_eq_ok (Nat.succ_pos 3) hwindow, Checks.ok_bind]
  refine h.foldlM_eq_ok (window_lt (Nat.succ_pos 3) hwindow) (chunk_lt hsupported.chunk_le)
    (fun p hp tileRow tileCol hmeets hindex => ?_) ?_
  · obtain ⟨live, hdecode, hlive⟩ := @decodeOwnedChunk_f32 inflate p.2 (inflated p.1.index) metadata
      tileRow tileCol p.1.index remotePath htype (h.decodableChunk hsupported hp hmeets) hindex
    refine ⟨live, fun out => ?_, hlive⟩
    simp only [hdecode, Checks.ok_bind]
  · rw [List.length_replicate, Nat.mul_comm]

/-- A supported window is decoded into the crop. -/
theorem decodeWindow_eq_ok
    (h : PlannedWindow inflate compressed metadata window tiles remotePath inflated)
    (hsupported : Supported metadata window) :
    decodeWindow inflate parseF32 compressed metadata window tiles remotePath
      = .ok (cropData metadata window inflated) := by
  unfold decodeWindow cropData
  cases htype : metadata.sampleType with
  | u8 => simp only [decodeU8Window_eq_ok h hsupported (.inl htype), Checks.ok_bind]
  | i8 => simp only [decodeU8Window_eq_ok h hsupported (.inr htype), Checks.ok_bind]
  | f32 => simp only [decodeF32Window_eq_ok h hsupported (.inl htype), Checks.ok_bind]
  | i32 => simp only [decodeF32Window_eq_ok h hsupported (.inr htype), Checks.ok_bind]

/-! ### What the code declines -/

/-- A tile with an unsupported predictor or above the ceiling is declined. -/
theorem PlannedWindow.rejects_decodeOwnedChunk
    (h : PlannedWindow inflate compressed metadata window tiles remotePath inflated)
    (hchunk : ¬(SupportedPredictor metadata ∧ metadata.chunkBytes ≤ maxDecodedChunkBytes))
    {tile : ResolvedTile} {bytes : List UInt8} (hmem : (tile, bytes) ∈ tiles.tiles.zip compressed) :
    Fault.Rejects (decodeOwnedChunk inflate bytes metadata tile.index remotePath) := by
  obtain ⟨-, hinflate, hlength⟩ := h.of_mem_zip hmem
  refine Fault.Rejects.bind ?_ _
  by_cases hceiling : metadata.chunkBytes ≤ maxDecodedChunkBytes
  · rw [inflateChunk_eq hceiling hinflate hlength]
    exact rejects_undoPredictor fun hpredictor => hchunk ⟨hpredictor, hceiling⟩
  · exact rejects_inflateChunk hceiling

/-- A window that is not empty has a tile. -/
theorem PlannedWindow.exists_zip_eq_cons
    (h : PlannedWindow inflate compressed metadata window tiles remotePath inflated) :
    ∃ tile bytes rest, tiles.tiles.zip compressed = (tile, bytes) :: rest := by
  obtain ⟨plan, hplan, hresolved⟩ := h.planned
  have hmem := tileOf_mem_indices h.inside hplan
    (Nat.mul_pos h.inside.height_pos h.inside.width_pos)
  rw [← hresolved] at hmem
  obtain ⟨tile, htile, -⟩ := List.mem_map.mp hmem
  have hinflates := h.inflates
  cases htiles : tiles.tiles with
  | nil => rw [htiles] at htile; exact absurd htile List.not_mem_nil
  | cons tile rest =>
    rw [htiles] at hinflates
    obtain ⟨bytes, compressed', -, -, rfl⟩ := List.forall₂_cons_left_iff.mp hinflates
    exact ⟨tile, bytes, _, rfl⟩

theorem rejects_windowAllocationLen {sampleWidth : ℕ}
    (h : ¬window.width * window.height * sampleWidth ≤ maxWindowAllocationBytes) :
    Fault.Rejects (windowAllocationLen remotePath window.width window.height sampleWidth) := by
  rw [windowAllocationLen, Checked.mul]
  split_ifs with helements
  · rw [Checked.orErr_some, Checks.ok_bind, Checked.mul]
    split_ifs with hbytes
    · rw [Checked.orErr_some, Checks.ok_bind, if_pos (Nat.not_le.mp h)]
      exact Fault.rejects_err _
    · exact (Fault.rejects_err _).bind _
  · exact (Fault.rejects_err _).bind _

theorem rejects_directionNodataByte
    (htype : metadata.sampleType = .u8 ∨ metadata.sampleType = .i8) (h : ¬NodataReadable metadata) :
    Fault.Rejects (directionNodataByte metadata.sampleType metadata.nodata remotePath) := by
  rcases htype with htype | htype
  · rw [NodataReadable, htype, Option.not_isSome_iff_eq_none] at h
    rw [htype, directionNodataByte, h]
    exact Fault.rejects_err _
  · rw [NodataReadable, htype, Option.not_isSome_iff_eq_none] at h
    rw [htype, directionNodataByte, h]
    exact Fault.rejects_err _

/-- A loop that decodes the tiles declines the first one. -/
theorem PlannedWindow.rejects_foldlM
    (h : PlannedWindow inflate compressed metadata window tiles remotePath inflated)
    (hchunk : ¬(SupportedPredictor metadata ∧ metadata.chunkBytes ≤ maxDecodedChunkBytes))
    {T : Type} {out : List T}
    {step : List T → ResolvedTile × List UInt8 → Except (Fault CacheError) (List T)}
    (hstep : ∀ out tile bytes, ∃ copy, step out (tile, bytes)
      = decodeOwnedChunk inflate bytes metadata tile.index remotePath >>= copy) :
    Fault.Rejects ((tiles.tiles.zip compressed).foldlM step out) := by
  obtain ⟨tile, bytes, rest, heq⟩ := h.exists_zip_eq_cons
  have hmem : (tile, bytes) ∈ tiles.tiles.zip compressed := heq ▸ List.mem_cons_self
  obtain ⟨copy, hcopy⟩ := hstep out tile bytes
  rw [heq, List.foldlM_cons, hcopy]
  exact ((h.rejects_decodeOwnedChunk hchunk hmem).bind _).bind _

theorem rejects_decodeU8Window
    (h : PlannedWindow inflate compressed metadata window tiles remotePath inflated)
    (hsupported : ¬Supported metadata window)
    (htype : metadata.sampleType = .u8 ∨ metadata.sampleType = .i8) :
    Fault.Rejects (decodeU8Window inflate compressed metadata window tiles remotePath) := by
  by_cases hnodata : NodataReadable metadata
  · obtain ⟨nodata, hbyte⟩ := @directionNodataByte_eq_ok metadata remotePath htype hnodata
    have hwidth : metadata.sampleType.width = 1 := by
      rcases htype with htype | htype <;> rw [htype, CogSampleType.width]
    rw [decodeU8Window, hbyte, Checks.ok_bind]
    by_cases hwindow : window.width * window.height * 1 ≤ maxWindowAllocationBytes
    · rw [windowAllocationLen_eq_ok Nat.one_pos hwindow, Checks.ok_bind]
      exact h.rejects_foldlM (fun hchunk =>
        hsupported ⟨hchunk.1, hnodata, hchunk.2, hwidth.symm ▸ hwindow⟩) fun _ _ _ => ⟨_, rfl⟩
    · exact (rejects_windowAllocationLen hwindow).bind _
  · exact (rejects_directionNodataByte htype hnodata).bind _

theorem rejects_decodeF32Window
    (h : PlannedWindow inflate compressed metadata window tiles remotePath inflated)
    (hsupported : ¬Supported metadata window)
    (htype : metadata.sampleType = .f32 ∨ metadata.sampleType = .i32) :
    Fault.Rejects
      (decodeF32Window inflate parseF32 compressed metadata window tiles remotePath) := by
  have hnodata : NodataReadable metadata := by
    rcases htype with htype | htype <;> rw [NodataReadable, htype] <;> trivial
  have hwidth : metadata.sampleType.width = 4 := by
    rcases htype with htype | htype <;> rw [htype, CogSampleType.width]
  rw [decodeF32Window]
  by_cases hwindow : window.width * window.height * 4 ≤ maxWindowAllocationBytes
  · rw [windowAllocationLen_eq_ok (Nat.succ_pos 3) hwindow, Checks.ok_bind]
    exact h.rejects_foldlM (fun hchunk =>
      hsupported ⟨hchunk.1, hnodata, hchunk.2, hwidth.symm ▸ hwindow⟩) fun _ _ _ => ⟨_, rfl⟩
  · exact (rejects_windowAllocationLen hwindow).bind _

/-- Any other window is declined with an error. -/
theorem rejects_decodeWindow
    (h : PlannedWindow inflate compressed metadata window tiles remotePath inflated)
    (hsupported : ¬Supported metadata window) :
    Fault.Rejects
      (decodeWindow inflate parseF32 compressed metadata window tiles remotePath) := by
  unfold decodeWindow
  cases htype : metadata.sampleType with
  | u8 => exact (rejects_decodeU8Window h hsupported (.inl htype)).bind _
  | i8 => exact (rejects_decodeU8Window h hsupported (.inr htype)).bind _
  | f32 => exact (rejects_decodeF32Window h hsupported (.inl htype)).bind _
  | i32 => exact (rejects_decodeF32Window h hsupported (.inr htype)).bind _

/-- **Window stitching equals cropping.** Planning a window inside the raster does not panic, and
the planned window of a supported file is decoded into the crop of the raster, without a fault and
with every cell written once; what is not supported is declined with an error. -/
theorem decodeWindow_eq_crop (hin : window.Inside metadata) :
    Fault.Returns (TilePlan.forWindow metadata window remotePath) ∧
    ∀ compressed tiles inflated,
      PlannedWindow inflate compressed metadata window tiles remotePath inflated →
      (Supported metadata window →
        decodeWindow inflate parseF32 compressed metadata window tiles remotePath
            = .ok (cropData metadata window inflated) ∧
          ∃ written, writtenCells metadata window tiles = .ok written ∧
            written.Perm (List.range (window.height * window.width))) ∧
      (¬Supported metadata window → Fault.Rejects
        (decodeWindow inflate parseF32 compressed metadata window tiles remotePath)) := by
  refine ⟨TilePlan.returns_forWindow hin, fun compressed tiles inflated h => ?_⟩
  refine ⟨fun hsupported => ⟨decodeWindow_eq_ok h hsupported, ?_⟩, rejects_decodeWindow h⟩
  obtain ⟨plan, hplan, hresolved⟩ := h.planned
  have hwidth : 0 < metadata.sampleType.width := by
    cases metadata.sampleType <;> decide
  exact ⟨_, writtenCells_eq_ok hin hplan hresolved
    (window_lt hwidth hsupported.window_le) (chunk_lt hsupported.chunk_le),
    perm_tileWrites hin hplan⟩

end Decode

/-! ### A window across padded tiles -/

/-- Decompress a stream of one stored block. -/
def inflateStored : List UInt8 → ℕ → Except String (List UInt8)
  | 0x78 :: 0x01 :: 0x01 :: lo :: hi :: _ :: _ :: data, limit =>
    .ok ((data.take (lo.toNat + 256 * hi.toNat)).take limit)
  | _, _ => .error "corrupt deflate stream"

/-- A raster of three by three bytes in tiles of two by two. -/
def paddedCog : CogMetadata :=
  ⟨3, 3, 2, 2, "255", .u8, 2, by decide, by decide, by decide, by decide, by decide, by decide⟩

/-- The lower right quarter of it. -/
def paddedCogWindow : RasterPixelWindow := ⟨1, 1, 2, 2⟩

/-- Its tiles. -/
def paddedCogTiles : List (List UInt8) :=
  [[0x78, 1, 1, 4, 0, 251, 255, 1, 1, 3, 1, 0, 18, 0, 7],
    [0x78, 1, 1, 4, 0, 251, 255, 3, 0, 6, 0, 0, 28, 0, 10],
    [0x78, 1, 1, 4, 0, 251, 255, 7, 1, 0, 0, 0, 35, 0, 9],
    [0x78, 1, 1, 4, 0, 251, 255, 9, 0, 0, 0, 0, 40, 0, 10]]

theorem decodeWindow_padded :
    decodeWindow inflateStored (fun _ => none) paddedCogTiles paddedCog paddedCogWindow
      ⟨[⟨0⟩, ⟨1⟩, ⟨2⟩, ⟨3⟩]⟩ "cog.tif" = .ok (.u8 [4, 6, 8, 9]) := by
  have hplanned : PlannedWindow inflateStored paddedCogTiles paddedCog paddedCogWindow
      ⟨[⟨0⟩, ⟨1⟩, ⟨2⟩, ⟨3⟩]⟩ "cog.tif"
      (fun i => [[1, 1, 3, 1], [3, 0, 6, 0], [7, 1, 0, 0], [9, 0, 0, 0]].getD i []) :=
    ⟨⟨by decide, by decide, by decide, by decide⟩, ⟨⟨[0, 1, 2, 3]⟩, rfl, rfl⟩,
      .cons ⟨rfl, rfl⟩ (.cons ⟨rfl, rfl⟩ (.cons ⟨rfl, rfl⟩ (.cons ⟨rfl, rfl⟩ .nil)))⟩
  have hsupported : Supported paddedCog paddedCogWindow :=
    ⟨.inr rfl, rfl, by decide, by decide⟩
  exact (((decodeWindow_eq_crop hplanned.inside).2 _ _ _ hplanned).1 hsupported).1

end WatershedDelineation
