import WatershedDelineation.Cog.Window
import WatershedDelineation.General.Painting

/-!
# A decoded window is a crop of the raster

Every planned tile paints its own cells of one picture, the crop of the raster
(`exists_copyTile_paints`), and the cells of the planned tiles are all cells of the window, each
once (`perm_writtenCells`).
-/

namespace WatershedDelineation

open Tiling Painting

/-! ### The raster and its crop -/

section Crop

variable {T : Type}

/-- A pixel of the raster, from the padded samples of the tiles. -/
def rasterPixel (metadata : CogMetadata) (tile : ℕ → List T) (d : T) (row col : ℕ) : T :=
  (tile (metadata.tileOf row col)).getD
    (row % metadata.tileHeight * metadata.tileWidth + col % metadata.tileWidth) d

theorem rasterPixel_eq {metadata : CogMetadata} {tile : ℕ → List T} {d : T}
    {row col tileRow tileCol : ℕ} (hrow : row / metadata.tileHeight = tileRow)
    (hcol : col / metadata.tileWidth = tileCol) : rasterPixel metadata tile d row col
      = (tile (tileRow * metadata.tilesAcross + tileCol)).getD
        ((row - tileRow * metadata.tileHeight) * metadata.tileWidth
          + (col - tileCol * metadata.tileWidth)) d := by
  rw [rasterPixel, CogMetadata.tileOf, hrow, hcol, Nat.mod_eq_sub_div_mul, Nat.mod_eq_sub_div_mul,
    hrow, hcol]

/-- A window of the raster, row by row. -/
def crop (metadata : CogMetadata) (window : RasterPixelWindow) (tile : ℕ → List T) (d : T) :
    List T :=
  (List.range window.height).flatMap fun r => (List.range window.width).map fun c =>
    rasterPixel metadata tile d (window.rowOff + r) (window.colOff + c)

/-- The pixel at an index of the window. -/
def windowPixel (metadata : CogMetadata) (window : RasterPixelWindow) (tile : ℕ → List T) (d : T)
    (k : ℕ) : T :=
  rasterPixel metadata tile d (window.rowOff + k / window.width) (window.colOff + k % window.width)

theorem map_windowPixel (metadata : CogMetadata) (window : RasterPixelWindow) (tile : ℕ → List T)
    (d : T) : (List.range (window.height * window.width)).map (windowPixel metadata window tile d)
      = crop metadata window tile d := by
  refine @RowMajor.ext_getD window.height window.width T d _ _ ?_ ?_ fun r c hr hc => ?_
  · simp
  · simp [crop, List.length_flatMap]
  · rw [crop, RowMajor.getD_flatMap_range (by simp) hr hc]
    simp [List.getD_eq_getElem?_getD, RowMajor.index_lt hr hc, hc, windowPixel,
      RowMajor.index_div hc, RowMajor.index_mod hc]

end Crop

/-! ### One tile -/

/-- What of a tile is copied. -/
def copySpan (metadata : CogMetadata) (window : RasterPixelWindow) (tileRow tileCol : ℕ) :
    TileCopySpan where
  srcWidth := liveLength metadata.tileWidth metadata.width tileCol
  srcHeight := liveLength metadata.tileHeight metadata.height tileRow
  dstCol := spanStart metadata.tileWidth window.colOff tileCol
  dstRow := spanStart metadata.tileHeight window.rowOff tileRow
  copyWidth := spanEnd metadata.tileWidth metadata.width window.colOff window.width tileCol
    - spanStart metadata.tileWidth window.colOff tileCol
  copyHeight := spanEnd metadata.tileHeight metadata.height window.rowOff window.height tileRow
    - spanStart metadata.tileHeight window.rowOff tileRow

/-- The slices of the row of the raster at `row`. -/
def copyAt (metadata : CogMetadata) (window : RasterPixelWindow) (tileRow tileCol row : ℕ) :
    RowCopy :=
  let span := copySpan metadata window tileRow tileCol
  ⟨(row - tileRow * metadata.tileHeight) * span.srcWidth
      + (span.dstCol - tileCol * metadata.tileWidth),
    (row - window.rowOff) * window.width + (span.dstCol - window.colOff), span.copyWidth⟩

section Tile

variable {metadata : CogMetadata} {window : RasterPixelWindow} {tileRow tileCol tileIndex row : ℕ}

theorem MeetsWindow.rows (h : MeetsWindow metadata window tileRow tileCol)
    (hin : window.Inside metadata) : SpanInside metadata.tileHeight metadata.height window.rowOff
      window.height tileRow :=
  h.row.spanInside metadata.tileHeight_pos hin.height_pos hin.row_le

theorem MeetsWindow.cols (h : MeetsWindow metadata window tileRow tileCol)
    (hin : window.Inside metadata) : SpanInside metadata.tileWidth metadata.width window.colOff
      window.width tileCol :=
  h.col.spanInside metadata.tileWidth_pos hin.width_pos hin.col_le

theorem MeetsWindow.inside (h : MeetsWindow metadata window tileRow tileCol)
    (hin : window.Inside metadata) : TileInside metadata tileRow tileCol :=
  ⟨(h.row.span_bounds metadata.tileHeight_pos hin.height_pos hin.row_le).1,
    (h.col.span_bounds metadata.tileWidth_pos hin.width_pos hin.col_le).1⟩

/-- The span is computed without overflow. -/
theorem tileCopySpan_eq_ok (hin : window.Inside metadata)
    (h : MeetsWindow metadata window tileRow tileCol) :
    tileCopySpan metadata window tileCol tileRow
      = .ok (copySpan metadata window tileRow tileCol) := by
  obtain ⟨-, -, hrow, -, -, hlive⟩ := h.rows hin
  obtain ⟨-, -, hcol, -, -, hlive'⟩ := h.cols hin
  obtain ⟨hy, hx⟩ := h.inside hin
  have hwidth := metadata.width_lt
  have hheight := metadata.height_lt
  have hright := hin.col_le
  have hbottom := hin.row_le
  simp only [spanStart, spanEnd, liveLength] at hrow hcol hlive hlive'
  simp only [tileCopySpan, copySpan, spanStart, spanEnd, liveLength, Checked.orPanic_some,
    Checks.ok_bind, Checked.mul_of_lt (Nat.lt_trans hx hwidth),
    Checked.mul_of_lt (Nat.lt_trans hy hheight), Checked.sub_of_le (Nat.le_of_lt hx),
    Checked.sub_of_le (Nat.le_of_lt hy), Checked.add_of_lt (Nat.lt_of_le_of_lt hright hwidth),
    Checked.add_of_lt (Nat.lt_of_le_of_lt hbottom hheight),
    Checked.add_of_lt (Nat.lt_of_le_of_lt hlive' hwidth),
    Checked.add_of_lt (Nat.lt_of_le_of_lt hlive hheight), Checked.sub_of_le (Nat.le_of_lt hrow),
    Checked.sub_of_le (Nat.le_of_lt hcol)]

/-- The slices of a row are computed without overflow. -/
theorem rowCopy_eq_ok (hin : window.Inside metadata)
    (h : MeetsWindow metadata window tileRow tileCol)
    (hwindow : window.height * window.width < 2 ^ 32)
    (hchunk : metadata.tileHeight * metadata.tileWidth < 2 ^ 32)
    (hrow : row < (copySpan metadata window tileRow tileCol).copyHeight) :
    rowCopy metadata window tileCol tileRow (copySpan metadata window tileRow tileCol) row
      = .ok (copyAt metadata window tileRow tileCol
        ((copySpan metadata window tileRow tileCol).dstRow + row)) := by
  obtain ⟨hoff, hmul, -, hend, hlive, hle⟩ := h.rows hin
  obtain ⟨hoff', hmul', hlt', hend', hlive', hle'⟩ := h.cols hin
  obtain ⟨hy, hx⟩ := h.inside hin
  have hwidth := metadata.width_lt
  have hheight := metadata.height_lt
  simp only [copySpan] at hrow
  have hfull : liveLength metadata.tileHeight metadata.height tileRow
      * liveLength metadata.tileWidth metadata.width tileCol < 2 ^ 32 :=
    Nat.lt_of_le_of_lt (Nat.mul_le_mul (Nat.min_le_left ..) (Nat.min_le_left ..)) hchunk
  -- the slices start at a cell of the tile, and at a cell of the window
  have hsrc : (spanStart metadata.tileHeight window.rowOff tileRow + row
        - tileRow * metadata.tileHeight) * liveLength metadata.tileWidth metadata.width tileCol
      + (spanStart metadata.tileWidth window.colOff tileCol - tileCol * metadata.tileWidth)
      < 2 ^ 32 :=
    Nat.lt_trans (RowMajor.index_lt (by omega) (by omega)) hfull
  have hdst : (spanStart metadata.tileHeight window.rowOff tileRow + row - window.rowOff)
        * window.width + (spanStart metadata.tileWidth window.colOff tileCol - window.colOff)
      < 2 ^ 32 :=
    Nat.lt_trans (RowMajor.index_lt (by omega) (by omega)) hwindow
  simp only [rowCopy, copyAt, copySpan, Checked.orPanic_some, Checks.ok_bind,
    Checked.add_of_lt (show spanStart metadata.tileHeight window.rowOff tileRow + row < 2 ^ 32 by
      omega),
    Checked.mul_of_lt (Nat.lt_trans hy hheight), Checked.mul_of_lt (Nat.lt_trans hx hwidth),
    Checked.sub_of_le (Nat.le_trans hmul (Nat.le_add_right _ row)), Checked.sub_of_le hmul',
    Checked.sub_of_le (Nat.le_trans hoff (Nat.le_add_right _ row)), Checked.sub_of_le hoff',
    Checked.mul_of_lt (Nat.lt_of_le_of_lt (Nat.le_add_right ..) hsrc), Checked.add_of_lt hsrc,
    Checked.mul_of_lt (Nat.lt_of_le_of_lt (Nat.le_add_right ..) hdst), Checked.add_of_lt hdst]

/-- The rows of the raster that a tile and the window share. -/
def InRows (metadata : CogMetadata) (window : RasterPixelWindow) (tileRow row : ℕ) : Prop :=
  spanStart metadata.tileHeight window.rowOff tileRow ≤ row ∧
    row < spanEnd metadata.tileHeight metadata.height window.rowOff window.height tileRow

/-- The cells of the window that one slice copy writes. -/
def RowCopy.cells (copy : RowCopy) : Set ℕ := {k | copy.dstStart ≤ k ∧ k < copy.dstStart + copy.len}

/-- The cells of the window that lie in a tile. -/
def tileCells (metadata : CogMetadata) (window : RasterPixelWindow) (tileIndex : ℕ) : Set ℕ :=
  {k | k < window.height * window.width ∧
    metadata.tileOf (window.rowOff + k / window.width) (window.colOff + k % window.width)
      = tileIndex}

/-- The cells of one row. -/
theorem mem_cells_copyAt (hin : window.Inside metadata)
    (h : MeetsWindow metadata window tileRow tileCol)
    (hrow : InRows metadata window tileRow row) {k : ℕ} :
    k ∈ (copyAt metadata window tileRow tileCol row).cells ↔
      window.rowOff + k / window.width = row ∧
        (window.colOff ≤ window.colOff + k % window.width ∧
          window.colOff + k % window.width < window.colOff + window.width) ∧
        (window.colOff + k % window.width) / metadata.tileWidth = tileCol := by
  obtain ⟨hoff, -, hlt, hend, -, -⟩ := h.cols hin
  obtain ⟨hoff', -, -, -, -, -⟩ := h.rows hin
  have hpos := hin.width_pos
  rw [← mem_span_iff metadata.tileWidth_pos hin.col_le]
  simp only [RowCopy.cells, copyAt, copySpan, Set.mem_ofPred_eq]
  generalize spanStart metadata.tileWidth window.colOff tileCol = first at *
  generalize spanEnd metadata.tileWidth metadata.width window.colOff window.width tileCol = last
    at *
  have hrowOff := Nat.le_trans hoff' hrow.1
  constructor
  · rintro ⟨hle, hlt'⟩
    obtain ⟨c, rfl, hc⟩ : ∃ c, k = (row - window.rowOff) * window.width + c ∧ c < window.width :=
      ⟨k - (row - window.rowOff) * window.width, by omega, by omega⟩
    rw [RowMajor.index_div hc, RowMajor.index_mod hc]
    omega
  · rintro ⟨rfl, hle, hlt'⟩
    have hk := Nat.div_add_mod' k window.width
    rw [Nat.add_sub_cancel_left]
    omega

/-- The cells of all rows of a tile. -/
theorem exists_mem_cells_iff (hin : window.Inside metadata)
    (h : MeetsWindow metadata window tileRow tileCol)
    (hindex : tileRow * metadata.tilesAcross + tileCol = tileIndex) {k : ℕ} :
    (∃ row, InRows metadata window tileRow row ∧
        k ∈ (copyAt metadata window tileRow tileCol row).cells) ↔
      k ∈ tileCells metadata window tileIndex := by
  have hacross := h.lt_tilesAcross hin
  have hpos := hin.width_pos
  have hcol : window.colOff + k % window.width < metadata.width :=
    Nat.lt_of_lt_of_le (Nat.add_lt_add_left (Nat.mod_lt k hpos) _) hin.col_le
  have hacross' := @CogMetadata.lt_tilesAcross metadata _
    (Nat.lt_of_le_of_lt (Nat.div_mul_le_self (window.colOff + k % window.width) _) hcol)
  have hheight : k < window.height * window.width ↔ k / window.width < window.height :=
    (Nat.div_lt_iff_lt_mul hpos).symm
  have hmod := Nat.mod_lt k hpos
  rw [tileCells, Set.mem_ofPred_eq, CogMetadata.tileOf, ← hindex, hheight]
  constructor
  · rintro ⟨row, hrow, hk⟩
    obtain ⟨rfl, -, htile⟩ := (mem_cells_copyAt hin h hrow).mp hk
    obtain ⟨hwin, htile'⟩ := (mem_span_iff metadata.tileHeight_pos hin.row_le).mp hrow
    rw [htile, htile']
    exact ⟨by omega, rfl⟩
  · rintro ⟨hlt, htile⟩
    -- a tile index names one row and one column of tiles
    obtain ⟨htile', htile⟩ := tileIndex_inj hacross' hacross htile
    have hrow : InRows metadata window tileRow (window.rowOff + k / window.width) :=
      (mem_span_iff metadata.tileHeight_pos hin.row_le).mpr
        ⟨⟨Nat.le_add_right .., Nat.add_lt_add_left hlt _⟩, htile'⟩
    exact ⟨_, hrow, (mem_cells_copyAt hin h hrow).mpr ⟨rfl, by omega, htile⟩⟩

/-- A slice copy paints its cells where the slice agrees with the picture. -/
theorem exists_copyFromSlice {T : Type} {tileData out : List T} {copy : RowCopy} {d : T}
    {picture : ℕ → T} (hdst : copy.dstStart + copy.len ≤ out.length)
    (hsrc : copy.srcStart + copy.len ≤ tileData.length)
    (hpicture : ∀ i < copy.len,
      tileData.getD (copy.srcStart + i) d = picture (copy.dstStart + i)) :
    ∃ out', copyFromSlice tileData out copy = .ok out' ∧ Paints picture copy.cells out out' := by
  refine ⟨_, if_pos ⟨hdst, hsrc⟩, ?_⟩
  have hlength : ((tileData.drop copy.srcStart).take copy.len).length = copy.len := by
    rw [List.length_take, List.length_drop]
    omega
  have hslice := @paints_slice T picture out ((tileData.drop copy.srcStart).take copy.len)
    copy.dstStart (hlength.symm ▸ hdst) fun i hi => by
      rw [hlength] at hi
      rw [List.getElem?_take_of_lt hi, List.getElem?_drop, ← hpicture i hi,
        List.getD_eq_getElem _ _ (by omega), List.getElem?_eq_getElem]
  rwa [hlength] at hslice

/-- **One row** of a tile is a slice of the crop. -/
theorem exists_copyAt_paints {T : Type} {tile : ℕ → List T} {d : T} {live out : List T}
    (hin : window.Inside metadata) (h : MeetsWindow metadata window tileRow tileCol)
    (hindex : tileRow * metadata.tilesAcross + tileCol = tileIndex)
    (hlive : LivePart metadata tileRow tileCol (tile tileIndex) live)
    (hout : out.length = window.height * window.width) (hrow : InRows metadata window tileRow row) :
    ∃ out', copyFromSlice live out (copyAt metadata window tileRow tileCol row) = .ok out' ∧
      Paints (windowPixel metadata window tile d)
        (copyAt metadata window tileRow tileCol row).cells out out' := by
  obtain ⟨hoff, hmul, hlt, hend, hend', -⟩ := h.cols hin
  obtain ⟨hoff', hmul', -, hrowEnd, hrowEnd', -⟩ := h.rows hin
  obtain ⟨hlow, hhigh⟩ := hrow
  have hdiv := ((mem_span_iff metadata.tileHeight_pos hin.row_le).mp ⟨hlow, hhigh⟩).2
  have hcolumns := fun col => @mem_span_iff metadata.tileWidth metadata.width window.colOff
    window.width tileCol col metadata.tileWidth_pos hin.col_le
  refine exists_copyFromSlice (d := d) ?_ ?_ fun i hi => ?_
  all_goals
    simp only [copyAt, copySpan] at *
    generalize spanStart metadata.tileWidth window.colOff tileCol = first at *
    generalize spanEnd metadata.tileWidth metadata.width window.colOff window.width tileCol = last
      at *
  · rw [hout, Nat.add_assoc]
    exact RowMajor.add_le (by omega) (by omega)
  · rw [hlive.length_eq, Nat.add_assoc]
    exact RowMajor.add_le (by omega) (by omega)
  · -- the column of the raster is `first + i`
    have hcol := ((hcolumns (first + i)).mp ⟨Nat.le_add_right .., by omega⟩).2
    rw [windowPixel, Nat.add_assoc, Nat.add_assoc, RowMajor.index_div (by omega),
      RowMajor.index_mod (by omega), hlive.getD_eq d _ _ (by omega) (by omega),
      show window.rowOff + (row - window.rowOff) = row by omega,
      show window.colOff + (first - window.colOff + i) = first + i by omega,
      rasterPixel_eq hdiv hcol, hindex,
      show first + i - tileCol * metadata.tileWidth = first - tileCol * metadata.tileWidth + i by
        omega]

/-- The slices of a tile. -/
theorem rowCopies_eq_ok (hin : window.Inside metadata)
    (h : MeetsWindow metadata window tileRow tileCol)
    (hindex : tileRow * metadata.tilesAcross + tileCol = tileIndex)
    (hwindow : window.height * window.width < 2 ^ 32)
    (hchunk : metadata.tileHeight * metadata.tileWidth < 2 ^ 32) :
    rowCopies metadata window tileIndex
      = .ok ((List.range (copySpan metadata window tileRow tileCol).copyHeight).map fun row =>
        copyAt metadata window tileRow tileCol
          ((copySpan metadata window tileRow tileCol).dstRow + row)) := by
  rw [rowCopies, ← hindex, tileColRow_eq_ok (h.lt_tilesAcross hin), Checks.ok_bind]
  simp only [tileCopySpan_eq_ok hin h, Checks.ok_bind]
  exact Checks.mapM_eq_ok fun row hrow =>
    rowCopy_eq_ok hin h hwindow hchunk (List.mem_range.mp hrow)

theorem inRows_iff (hin : window.Inside metadata)
    (h : MeetsWindow metadata window tileRow tileCol) :
    InRows metadata window tileRow row ↔
      ∃ r ∈ List.range (copySpan metadata window tileRow tileCol).copyHeight,
        (copySpan metadata window tileRow tileCol).dstRow + r = row := by
  have hlt := (h.rows hin).start_lt
  simp only [InRows, copySpan, List.mem_range]
  constructor
  · rintro ⟨hle, hlt'⟩
    exact ⟨row - spanStart metadata.tileHeight window.rowOff tileRow, by omega, by omega⟩
  · rintro ⟨r, hr, rfl⟩
    omega

/-- **One tile** paints its cells. -/
theorem exists_copyTile_paints {T : Type} {tile : ℕ → List T} {d : T} {live out : List T}
    (hin : window.Inside metadata) (h : MeetsWindow metadata window tileRow tileCol)
    (hindex : tileRow * metadata.tilesAcross + tileCol = tileIndex)
    (hwindow : window.height * window.width < 2 ^ 32)
    (hchunk : metadata.tileHeight * metadata.tileWidth < 2 ^ 32)
    (hlive : LivePart metadata tileRow tileCol (tile tileIndex) live)
    (hout : out.length = window.height * window.width) :
    ∃ out', copyTile live out metadata window tileIndex = .ok out' ∧
      Paints (windowPixel metadata window tile d) (tileCells metadata window tileIndex) out
        out' := by
  obtain ⟨out', hout', hpaints⟩ := @exists_foldlM_paints T ℕ (Fault CacheError)
    (windowPixel metadata window tile d) out
    (List.range (copySpan metadata window tileRow tileCol).copyHeight)
    (fun out row => do
      copyFromSlice live out (← rowCopy metadata window tileCol tileRow
        (copySpan metadata window tileRow tileCol) row))
    (fun row => (copyAt metadata window tileRow tileCol
      ((copySpan metadata window tileRow tileCol).dstRow + row)).cells)
    fun row hrow out' hlen => by
      simp only [rowCopy_eq_ok hin h hwindow hchunk (List.mem_range.mp hrow), Checks.ok_bind]
      exact exists_copyAt_paints hin h hindex hlive (hlen.trans hout)
        ((inRows_iff hin h).mpr ⟨row, hrow, rfl⟩)
  refine ⟨out', ?_, hpaints.congr ?_⟩
  · rw [copyTile, ← hindex, tileColRow_eq_ok (h.lt_tilesAcross hin), Checks.ok_bind]
    simp only [tileCopySpan_eq_ok hin h, Checks.ok_bind]
    exact hout'
  · ext k
    rw [← exists_mem_cells_iff hin h hindex, Set.mem_ofPred_eq]
    constructor
    · rintro ⟨r, hr, hk⟩
      exact ⟨_, (inRows_iff hin h).mpr ⟨r, hr, rfl⟩, hk⟩
    · rintro ⟨row, hrow, hk⟩
      obtain ⟨r, hr, rfl⟩ := (inRows_iff hin h).mp hrow
      exact ⟨r, hr, hk⟩

end Tile

/-! ### Every cell is written once -/

/-- The cells that decoding a window writes, in the order of the writes. -/
def writtenCells (metadata : CogMetadata) (window : RasterPixelWindow) (plan : ResolvedTilePlan) :
    Except (Fault CacheError) (List ℕ) := do
  let copies ← plan.tiles.mapM fun tile => rowCopies metadata window tile.index
  .ok (copies.flatten.flatMap fun copy => List.range' copy.dstStart copy.len)

section Window

variable {metadata : CogMetadata} {window : RasterPixelWindow} {remotePath : String}
  {plan : TilePlan} {tiles : ResolvedTilePlan}

/-- The tile of a cell of the window is planned. -/
theorem tileOf_mem_indices (hin : window.Inside metadata)
    (hplan : TilePlan.forWindow metadata window remotePath = .ok plan) {k : ℕ}
    (hk : k < window.height * window.width) :
    metadata.tileOf (window.rowOff + k / window.width) (window.colOff + k % window.width)
      ∈ plan.indices := by
  have hmod := Nat.mod_lt k hin.width_pos
  have hdiv : k / window.width < window.height := (Nat.div_lt_iff_lt_mul hin.width_pos).mpr hk
  refine (TilePlan.mem_indices hin hplan).mpr ⟨_, _, ⟨meets_div ⟨Nat.le_add_right .., ?_⟩,
    meets_div ⟨Nat.le_add_right .., ?_⟩⟩, rfl⟩
  · exact Nat.add_lt_add_left hdiv _
  · exact Nat.add_lt_add_left hmod _

/-- The cells that copying a tile writes, in the order of the writes. -/
def tileWrites (metadata : CogMetadata) (window : RasterPixelWindow) (tileIndex : ℕ) : List ℕ :=
  let tileRow := tileIndex / metadata.tilesAcross
  let tileCol := tileIndex % metadata.tilesAcross
  let span := copySpan metadata window tileRow tileCol
  (List.range span.copyHeight).flatMap fun row =>
    let copy := copyAt metadata window tileRow tileCol (span.dstRow + row)
    List.range' copy.dstStart copy.len

section Writes

variable {tileRow tileCol tileIndex : ℕ}

theorem tileWrites_eq (hin : window.Inside metadata)
    (h : MeetsWindow metadata window tileRow tileCol)
    (hindex : tileRow * metadata.tilesAcross + tileCol = tileIndex) :
    tileWrites metadata window tileIndex
      = ((List.range (copySpan metadata window tileRow tileCol).copyHeight).map fun row =>
        copyAt metadata window tileRow tileCol
          ((copySpan metadata window tileRow tileCol).dstRow + row)).flatMap fun copy =>
        List.range' copy.dstStart copy.len := by
  obtain ⟨hcol, hrow⟩ := @tileIndex_div_mod metadata tileRow tileCol (h.lt_tilesAcross hin)
  rw [hindex] at hcol hrow
  rw [tileWrites, hcol, hrow, List.flatMap_map]

theorem mem_tileWrites (hin : window.Inside metadata)
    (h : MeetsWindow metadata window tileRow tileCol)
    (hindex : tileRow * metadata.tilesAcross + tileCol = tileIndex) {k : ℕ} :
    k ∈ tileWrites metadata window tileIndex ↔ k ∈ tileCells metadata window tileIndex := by
  rw [tileWrites_eq hin h hindex, ← exists_mem_cells_iff hin h hindex]
  simp only [List.mem_flatMap, List.mem_map, List.mem_range'_1]
  constructor
  · rintro ⟨_, ⟨r, hr, rfl⟩, hk⟩
    exact ⟨_, (inRows_iff hin h).mpr ⟨r, hr, rfl⟩, hk⟩
  · rintro ⟨row, hrow, hk⟩
    obtain ⟨r, hr, rfl⟩ := (inRows_iff hin h).mp hrow
    exact ⟨_, ⟨r, hr, rfl⟩, hk⟩

/-- A tile writes no cell twice: the rows of its slices differ. -/
theorem nodup_tileWrites (hin : window.Inside metadata)
    (h : MeetsWindow metadata window tileRow tileCol)
    (hindex : tileRow * metadata.tilesAcross + tileCol = tileIndex) :
    (tileWrites metadata window tileIndex).Nodup := by
  rw [tileWrites_eq hin h hindex, List.flatMap_map]
  refine List.nodup_flatMap.mpr ⟨fun _ _ => List.nodup_range', ?_⟩
  refine List.Pairwise.imp_of_mem ?_ List.nodup_range
  intro r r' hr hr' hne k hk hk'
  have hrow := ((mem_cells_copyAt hin h ((inRows_iff hin h).mpr ⟨r, hr, rfl⟩)).mp
    (List.mem_range'_1.mp hk)).1
  have hrow' := ((mem_cells_copyAt hin h ((inRows_iff hin h).mpr ⟨r', hr', rfl⟩)).mp
    (List.mem_range'_1.mp hk')).1
  omega

end Writes

theorem writtenCells_eq_ok (hin : window.Inside metadata)
    (hplan : TilePlan.forWindow metadata window remotePath = .ok plan)
    (hresolved : tiles.tiles.map ResolvedTile.index = plan.indices)
    (hwindow : window.height * window.width < 2 ^ 32)
    (hchunk : metadata.tileHeight * metadata.tileWidth < 2 ^ 32) :
    writtenCells metadata window tiles
      = .ok (plan.indices.flatMap (tileWrites metadata window)) := by
  let copies (i : ℕ) : List RowCopy :=
    let span := copySpan metadata window (i / metadata.tilesAcross) (i % metadata.tilesAcross)
    (List.range span.copyHeight).map fun row => copyAt metadata window (i / metadata.tilesAcross)
      (i % metadata.tilesAcross) (span.dstRow + row)
  have hcopies : ∀ tile ∈ tiles.tiles,
      rowCopies metadata window tile.index = .ok (copies tile.index) := by
    intro tile htile
    have hmem : tile.index ∈ plan.indices := hresolved ▸ List.mem_map_of_mem htile
    obtain ⟨tileRow, tileCol, h, hindex⟩ := (TilePlan.mem_indices hin hplan).mp hmem
    obtain ⟨hcol, hrow⟩ := @tileIndex_div_mod metadata tileRow tileCol (h.lt_tilesAcross hin)
    rw [hindex] at hcol hrow
    rw [rowCopies_eq_ok hin h hindex hwindow hchunk]
    simp only [copies, hcol, hrow]
  rw [writtenCells, Checks.mapM_eq_ok hcopies, Checks.ok_bind, ← hresolved, List.flatMap_map,
    ← List.flatMap_def, List.flatMap_assoc]
  refine congrArg Except.ok (List.flatMap_congr fun tile _ => ?_)
  rw [tileWrites, List.flatMap_map]

/-- **Every cell is written exactly once.** -/
theorem perm_tileWrites (hin : window.Inside metadata)
    (hplan : TilePlan.forWindow metadata window remotePath = .ok plan) :
    (plan.indices.flatMap (tileWrites metadata window)).Perm
      (List.range (window.height * window.width)) := by
  have hmem : ∀ {i k}, i ∈ plan.indices →
      (k ∈ tileWrites metadata window i ↔ k ∈ tileCells metadata window i) := by
    intro i k hi
    obtain ⟨tileRow, tileCol, h, hindex⟩ := (TilePlan.mem_indices hin hplan).mp hi
    exact mem_tileWrites hin h hindex
  have hnodup : (plan.indices.flatMap (tileWrites metadata window)).Nodup := by
    refine List.nodup_flatMap.mpr ⟨fun i hi => ?_, ?_⟩
    · obtain ⟨tileRow, tileCol, h, hindex⟩ := (TilePlan.mem_indices hin hplan).mp hi
      exact nodup_tileWrites hin h hindex
    · refine List.Pairwise.imp_of_mem ?_ (TilePlan.nodup_indices hin hplan)
      intro i i' hi hi' hne k hk hk'
      exact hne (((hmem hi).mp hk).2.symm.trans ((hmem hi').mp hk').2)
  refine (List.perm_ext_iff_of_nodup hnodup List.nodup_range).mpr fun k => ?_
  rw [List.mem_flatMap, List.mem_range]
  constructor
  · rintro ⟨i, hi, hk⟩
    exact ((hmem hi).mp hk).1
  · intro hk
    have hi := tileOf_mem_indices hin hplan hk
    exact ⟨_, hi, (hmem hi).mpr ⟨hk, rfl⟩⟩

end Window

end WatershedDelineation
