import Mathlib.Data.List.Nodup
import WatershedDelineation.General.Checked
import WatershedDelineation.General.Checks
import WatershedDelineation.General.Tiling

/-!
# Windows and planned tiles

The metadata of a tiled GeoTIFF, pixel windows, and the tiles that a window needs: `TilePlan` of
`cog.rs`. Pixels have the coordinates of the whole raster. The plan of a window inside the raster
consists of the tiles that meet it, row by row (`TilePlan.forWindow_eq_ok`).
-/

namespace WatershedDelineation

/-- Errors of the raster cache. -/
inductive CacheError
  /-- A local filesystem operation failed. -/
  | io (op path : String)
  /-- An object-store read failed. -/
  | objectStore (path : String)
  /-- A temporary file could not be persisted into place. -/
  | persist
  /-- The remote raster cannot be treated as a supported windowed COG. -/
  | unsupportedCog (path reason : String)
  /-- An ASCII tag declares more bytes than the reader takes. -/
  | remoteTiffAsciiTooLong (path : String) (tag length limit : ℕ)
  deriving DecidableEq, Repr

/-- An error about the layout of a remote file. -/
def remoteLayoutError (path reason : String) : CacheError := .unsupportedCog path reason

/-- Most tiles that a window may need. -/
def maxPlannedTileCount : ℕ := 65536

/-- Which raster of a pair is meant. -/
inductive RasterKind
  | flowDir
  | flowAcc
  deriving DecidableEq, Repr

/-- Sample types of supported rasters. -/
inductive CogSampleType
  | u8
  | i8
  | f32
  | i32
  deriving DecidableEq, Repr

/-- The number of bytes of a sample. -/
def CogSampleType.width : CogSampleType → ℕ
  | .u8 | .i8 => 1
  | .f32 | .i32 => 4

/-- Metadata needed to plan and materialize a window; sizes are words of 32 bits. -/
structure CogMetadata where
  width : ℕ
  height : ℕ
  tileWidth : ℕ
  tileHeight : ℕ
  nodata : String
  sampleType : CogSampleType
  predictor : ℕ
  width_lt : width < 2 ^ 32
  height_lt : height < 2 ^ 32
  tileWidth_lt : tileWidth < 2 ^ 32
  tileHeight_lt : tileHeight < 2 ^ 32
  tileWidth_pos : 0 < tileWidth
  tileHeight_pos : 0 < tileHeight

/-- The number of tiles in a row of tiles. -/
def CogMetadata.tilesAcross (metadata : CogMetadata) : ℕ :=
  (metadata.width + metadata.tileWidth - 1) / metadata.tileWidth

/-- Pixel-space raster window, half-open in both dimensions. -/
structure RasterPixelWindow where
  colOff : ℕ
  rowOff : ℕ
  width : ℕ
  height : ℕ
  deriving DecidableEq, Repr

/-- The tiles of a window, in the order in which they are fetched and decoded. -/
structure TilePlan where
  indices : List ℕ
  deriving DecidableEq, Repr

/-- The numbers from `first` to `last`, both included. -/
def inclusiveRange (first last : ℕ) : List ℕ := List.range' first (last + 1 - first)

/-- Plan the tiles of a window. -/
def TilePlan.forWindow (metadata : CogMetadata) (window : RasterPixelWindow) (remotePath : String) :
    Except (Fault CacheError) TilePlan := do
  let firstTileCol := window.colOff / metadata.tileWidth
  let lastCol ← Checked.orErr ((Checked.add 32 window.colOff window.width).bind (Checked.sub · 1))
    (remoteLayoutError remotePath "TIFF window column overflow")
  let lastTileCol := lastCol / metadata.tileWidth
  let firstTileRow := window.rowOff / metadata.tileHeight
  let lastRow ← Checked.orErr ((Checked.add 32 window.rowOff window.height).bind (Checked.sub · 1))
    (remoteLayoutError remotePath "TIFF window row overflow")
  let lastTileRow := lastRow / metadata.tileHeight
  let tilesAcross := metadata.tilesAcross
  let tileCols ← Checked.orPanic ((Checked.sub lastTileCol firstTileCol).bind (Checked.add 32 · 1))
  let tileRows ← Checked.orPanic ((Checked.sub lastTileRow firstTileRow).bind (Checked.add 32 · 1))
  let count ← Checked.orErr (Checked.mul 64 tileCols tileRows)
    (remoteLayoutError remotePath "TIFF planned tile count overflow")
  if count > maxPlannedTileCount then
    .error (.err (remoteLayoutError remotePath
      s!"TIFF planned tile count {count} exceeds window ceiling {maxPlannedTileCount}"))
  else
    let rows ← (inclusiveRange firstTileRow lastTileRow).mapM fun tileRow =>
      (inclusiveRange firstTileCol lastTileCol).mapM fun tileCol =>
        Checked.orErr ((Checked.mul 32 tileRow tilesAcross).bind (Checked.add 32 · tileCol))
          (remoteLayoutError remotePath "TIFF tile index overflow")
    .ok ⟨rows.flatten⟩

/-! ### What is planned -/

/-- The window is not empty and lies in the raster. -/
structure RasterPixelWindow.Inside (window : RasterPixelWindow) (metadata : CogMetadata) :
    Prop where
  width_pos : 0 < window.width
  height_pos : 0 < window.height
  col_le : window.colOff + window.width ≤ metadata.width
  row_le : window.rowOff + window.height ≤ metadata.height

/-- The tile of a pixel. -/
def CogMetadata.tileOf (metadata : CogMetadata) (row col : ℕ) : ℕ :=
  row / metadata.tileHeight * metadata.tilesAcross + col / metadata.tileWidth

/-- The position of a tile that meets the window. -/
structure MeetsWindow (metadata : CogMetadata) (window : RasterPixelWindow)
    (tileRow tileCol : ℕ) : Prop where
  row : Tiling.Meets metadata.tileHeight window.rowOff window.height tileRow
  col : Tiling.Meets metadata.tileWidth window.colOff window.width tileCol

section Plan

variable {metadata : CogMetadata} {window : RasterPixelWindow} {remotePath : String}
  {plan : TilePlan} {tileRow tileCol tileRow' tileCol' : ℕ}

theorem mem_inclusiveRange {first last n : ℕ} :
    n ∈ inclusiveRange first last ↔ first ≤ n ∧ n ≤ last := by
  rw [inclusiveRange, List.mem_range'_1]
  omega

/-- A tile that begins in the raster is one of its columns of tiles. -/
theorem CogMetadata.lt_tilesAcross (h : tileCol * metadata.tileWidth < metadata.width) :
    tileCol < metadata.tilesAcross := by
  rw [CogMetadata.tilesAcross, ← Nat.succ_le_iff, Nat.le_div_iff_mul_le metadata.tileWidth_pos,
    Nat.succ_mul]
  omega

theorem MeetsWindow.lt_tilesAcross (h : MeetsWindow metadata window tileRow tileCol)
    (hin : window.Inside metadata) : tileCol < metadata.tilesAcross :=
  CogMetadata.lt_tilesAcross
    (h.col.span_bounds metadata.tileWidth_pos hin.width_pos hin.col_le).1

/-- The index of a tile determines its position. -/
theorem tileIndex_div_mod (h : tileCol < metadata.tilesAcross) :
    (tileRow * metadata.tilesAcross + tileCol) % metadata.tilesAcross = tileCol ∧
      (tileRow * metadata.tilesAcross + tileCol) / metadata.tilesAcross = tileRow := by
  rw [Nat.mul_comm, Nat.mul_add_mod, Nat.mod_eq_of_lt h, Nat.mul_add_div (Nat.zero_lt_of_lt h),
    Nat.div_eq_of_lt h, Nat.add_zero]
  exact ⟨rfl, rfl⟩

theorem tileIndex_inj (h : tileCol < metadata.tilesAcross) (h' : tileCol' < metadata.tilesAcross)
    (heq : tileRow * metadata.tilesAcross + tileCol = tileRow' * metadata.tilesAcross + tileCol') :
    tileRow = tileRow' ∧ tileCol = tileCol' := by
  obtain ⟨hcol, hrow⟩ := @tileIndex_div_mod metadata tileRow tileCol h
  rw [heq] at hcol hrow
  obtain ⟨hcol', hrow'⟩ := @tileIndex_div_mod metadata tileRow' tileCol' h'
  exact ⟨hrow.symm.trans hrow', hcol.symm.trans hcol'⟩

/-- What a plan says of its window: the number of tiles is below the ceiling, and their indices have
been computed row by row. -/
theorem TilePlan.forWindow_cases (hin : window.Inside metadata)
    (h : TilePlan.forWindow metadata window remotePath = .ok plan) :
    ((window.colOff + window.width - 1) / metadata.tileWidth
        - window.colOff / metadata.tileWidth + 1)
      * ((window.rowOff + window.height - 1) / metadata.tileHeight
        - window.rowOff / metadata.tileHeight + 1) ≤ maxPlannedTileCount ∧
    ∃ rows, ((inclusiveRange (window.rowOff / metadata.tileHeight)
        ((window.rowOff + window.height - 1) / metadata.tileHeight)).mapM fun tileRow =>
      (inclusiveRange (window.colOff / metadata.tileWidth)
        ((window.colOff + window.width - 1) / metadata.tileWidth)).mapM fun tileCol =>
        Checked.orErr
          ((Checked.mul 32 tileRow metadata.tilesAcross).bind (Checked.add 32 · tileCol))
          (remoteLayoutError remotePath "TIFF tile index overflow")) = .ok rows ∧
      plan = ⟨rows.flatten⟩ := by
  obtain ⟨hw, hh, hcol, hrow⟩ := hin
  have hwidth := metadata.width_lt
  have hheight := metadata.height_lt
  simp only [TilePlan.forWindow] at h
  rw [Checked.add_of_lt (by omega), Checked.add_of_lt (by omega)] at h
  simp only [Option.bind_some, Checked.sub_of_le (show 1 ≤ window.colOff + window.width by omega),
    Checked.sub_of_le (show 1 ≤ window.rowOff + window.height by omega), Checked.orErr_some] at h
  simp only [Checks.bind_eq_ok_iff, Except.ok.injEq, exists_eq_left', Checks.ite_error_eq_ok_iff]
    at h
  obtain ⟨tileCols, hcols, tileRows, hrows, count, hcount, hle, rows, hindices, rfl⟩ := h
  obtain ⟨cols, hcols, hcols'⟩ := Option.bind_eq_some_iff.mp (Checked.orPanic_eq_ok_iff.mp hcols)
  obtain ⟨rows', hrows, hrows'⟩ := Option.bind_eq_some_iff.mp (Checked.orPanic_eq_ok_iff.mp hrows)
  obtain ⟨-, rfl⟩ := Checked.sub_eq_some_iff.mp hcols
  obtain ⟨-, rfl⟩ := Checked.sub_eq_some_iff.mp hrows
  obtain ⟨-, rfl⟩ := Checked.add_eq_some_iff.mp hcols'
  obtain ⟨-, rfl⟩ := Checked.add_eq_some_iff.mp hrows'
  obtain ⟨-, rfl⟩ := Checked.mul_eq_some_iff.mp (Checked.orErr_eq_ok_iff.mp hcount)
  exact ⟨Nat.le_of_not_lt hle, rows, hindices, rfl⟩

/-- **The plan** of a window inside the raster: the tiles that meet it, row by row. -/
theorem TilePlan.forWindow_eq_ok (hin : window.Inside metadata)
    (h : TilePlan.forWindow metadata window remotePath = .ok plan) :
    plan.indices = (inclusiveRange (window.rowOff / metadata.tileHeight)
        ((window.rowOff + window.height - 1) / metadata.tileHeight)).flatMap fun tileRow =>
      (inclusiveRange (window.colOff / metadata.tileWidth)
        ((window.colOff + window.width - 1) / metadata.tileWidth)).map fun tileCol =>
        tileRow * metadata.tilesAcross + tileCol := by
  obtain ⟨-, rows, hrows, rfl⟩ := TilePlan.forWindow_cases hin h
  rw [List.flatMap]
  refine congrArg List.flatten (Checks.eq_map_of_mapM hrows fun tileRow indices hindices => ?_)
  refine Checks.eq_map_of_mapM hindices fun tileCol index hindex => ?_
  obtain ⟨product, hproduct, hsum⟩ := Option.bind_eq_some_iff.mp (Checked.orErr_eq_ok_iff.mp hindex)
  obtain ⟨-, rfl⟩ := Checked.mul_eq_some_iff.mp hproduct
  exact (Checked.add_eq_some_iff.mp hsum).2.symm

/-- No arithmetic on the way to the plan of a window inside the raster panics. -/
theorem TilePlan.returns_forWindow (hin : window.Inside metadata) :
    Fault.Returns (TilePlan.forWindow metadata window remotePath) := by
  obtain ⟨hw, hh, hcol, hrow⟩ := hin
  have hwidth := metadata.width_lt
  have hheight := metadata.height_lt
  have hcols : window.colOff / metadata.tileWidth
      ≤ (window.colOff + window.width - 1) / metadata.tileWidth :=
    Nat.div_le_div_right (by omega)
  have hrows : window.rowOff / metadata.tileHeight
      ≤ (window.rowOff + window.height - 1) / metadata.tileHeight :=
    Nat.div_le_div_right (by omega)
  have htileCols : (window.colOff + window.width - 1) / metadata.tileWidth
      - window.colOff / metadata.tileWidth + 1 < 2 ^ 32 :=
    Nat.lt_of_le_of_lt (Nat.succ_le_succ (Nat.le_trans (Nat.sub_le ..) (Nat.div_le_self ..)))
      (by omega)
  have htileRows : (window.rowOff + window.height - 1) / metadata.tileHeight
      - window.rowOff / metadata.tileHeight + 1 < 2 ^ 32 :=
    Nat.lt_of_le_of_lt (Nat.succ_le_succ (Nat.le_trans (Nat.sub_le ..) (Nat.div_le_self ..)))
      (by omega)
  -- up to the number of tiles nothing fails; that number may be too large
  rw [TilePlan.forWindow, Checked.add_of_lt (by omega), Option.bind_some,
    Checked.sub_of_le (by omega), Checked.orErr_some, Checks.ok_bind,
    Checked.add_of_lt (by omega), Option.bind_some, Checked.sub_of_le (by omega),
    Checked.orErr_some, Checks.ok_bind, Checked.sub_of_le hcols, Option.bind_some,
    Checked.add_of_lt htileCols, Checked.orPanic_some, Checks.ok_bind, Checked.sub_of_le hrows,
    Option.bind_some, Checked.add_of_lt htileRows, Checked.orPanic_some, Checks.ok_bind]
  refine Checked.returns_orErr.bind fun count _ => ?_
  split_ifs
  · exact Fault.returns_err _
  · refine Fault.Returns.bind (Fault.Returns.mapM fun tileRow _ => ?_) fun _ _ =>
      Fault.returns_ok _
    exact Fault.Returns.mapM fun tileCol _ => Checked.returns_orErr

/-- A plan has few tiles. -/
theorem TilePlan.length_indices_le (hin : window.Inside metadata)
    (h : TilePlan.forWindow metadata window remotePath = .ok plan) :
    plan.indices.length ≤ maxPlannedTileCount := by
  have hcols : window.colOff / metadata.tileWidth
      ≤ (window.colOff + window.width - 1) / metadata.tileWidth :=
    Nat.div_le_div_right (Nat.le_sub_one_of_lt (Nat.lt_add_of_pos_right hin.width_pos))
  have hrows : window.rowOff / metadata.tileHeight
      ≤ (window.rowOff + window.height - 1) / metadata.tileHeight :=
    Nat.div_le_div_right (Nat.le_sub_one_of_lt (Nat.lt_add_of_pos_right hin.height_pos))
  rw [TilePlan.forWindow_eq_ok hin h, List.length_flatMap]
  simp only [List.length_map, inclusiveRange, List.length_range', List.map_const',
    List.sum_replicate_nat]
  rw [Nat.sub_add_comm hcols, Nat.sub_add_comm hrows, Nat.mul_comm]
  exact (TilePlan.forWindow_cases hin h).1

theorem TilePlan.mem_indices (hin : window.Inside metadata)
    (h : TilePlan.forWindow metadata window remotePath = .ok plan) {i : ℕ} :
    i ∈ plan.indices ↔ ∃ tileRow tileCol, MeetsWindow metadata window tileRow tileCol ∧
      tileRow * metadata.tilesAcross + tileCol = i := by
  rw [TilePlan.forWindow_eq_ok hin h]
  simp only [List.mem_flatMap, List.mem_map, mem_inclusiveRange]
  constructor
  · rintro ⟨tileRow, hrow, tileCol, hcol, rfl⟩
    exact ⟨tileRow, tileCol, ⟨⟨hrow.1, hrow.2⟩, hcol.1, hcol.2⟩, rfl⟩
  · rintro ⟨tileRow, tileCol, hmeets, rfl⟩
    exact ⟨tileRow, ⟨hmeets.row.1, hmeets.row.2⟩, tileCol, ⟨hmeets.col.1, hmeets.col.2⟩, rfl⟩

/-- No tile is planned twice. -/
theorem TilePlan.nodup_indices (hin : window.Inside metadata)
    (h : TilePlan.forWindow metadata window remotePath = .ok plan) : plan.indices.Nodup := by
  have hacross : ∀ {tileRow tileCol}, tileRow ∈ inclusiveRange
      (window.rowOff / metadata.tileHeight)
      ((window.rowOff + window.height - 1) / metadata.tileHeight) →
      tileCol ∈ inclusiveRange (window.colOff / metadata.tileWidth)
        ((window.colOff + window.width - 1) / metadata.tileWidth) →
      tileCol < metadata.tilesAcross := by
    intro tileRow tileCol hrow hcol
    rw [mem_inclusiveRange] at hrow hcol
    exact MeetsWindow.lt_tilesAcross ⟨⟨hrow.1, hrow.2⟩, hcol.1, hcol.2⟩ hin
  rw [TilePlan.forWindow_eq_ok hin h]
  refine List.nodup_flatMap.mpr ⟨fun tileRow hrow => ?_, ?_⟩
  · refine List.Nodup.map_on (fun a ha b hb heq => ?_) List.nodup_range'
    exact (tileIndex_inj (hacross hrow ha) (hacross hrow hb) heq).2
  · refine List.Pairwise.imp_of_mem ?_ List.nodup_range'
    intro a b ha hb hne i hi hi'
    obtain ⟨c, hc, rfl⟩ := List.mem_map.mp hi
    obtain ⟨c', hc', heq⟩ := List.mem_map.mp hi'
    exact hne (tileIndex_inj (hacross hb hc') (hacross ha hc) heq).1.symm

end Plan

end WatershedDelineation
