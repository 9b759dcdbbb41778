import Mathlib.Data.Prod.Lex
import WatershedDelineation.General.Checks
import WatershedDelineation.General.MinBy
import WatershedDelineation.Raster.Tiles

/-!
# Seeds

`algo/snap.rs`: the unique cell that contains a point (`quantizeGridCell`), the threshold in the
units of the raster, and the ranked choice among the cells that reach it (`snapPourPoint`).
Thresholds and accumulations are single precision numbers; distances are exact.
-/

namespace WatershedDelineation

/-- Units of flow accumulation. -/
inductive FlowAccumulationUnits
  | cells
  | km2
  deriving DecidableEq, Repr

/-- Minimum upstream pixel count. -/
structure SnapThreshold where
  pixels : UInt32
  deriving DecidableEq, Repr

/-- The pixel count as a single precision number. -/
def SnapThreshold.asF32 (threshold : SnapThreshold) : F32 := F32.ofRat threshold.pixels.toNat

/-- Errors from pour-point snapping. -/
inductive SnapError
  /-- No cell of the masked tile reaches the effective threshold. -/
  | noCellAboveThreshold (threshold : F32) (units : FlowAccumulationUnits) (epsg : UInt32)
      (outletX outletY : ℚ)
  /-- The outlet falls outside the raster tile extent. -/
  | outletOutOfBounds (epsg : UInt32) (outletX outletY : ℚ) (rows cols : ℕ)
  deriving DecidableEq, Repr

/-- Raster seed cell and its native center and accumulation evidence. -/
structure SnappedPoint where
  cell : GridCoord
  coord : NativeCoord
  accumulation : F32
  deriving DecidableEq, Repr

/-- A threshold-qualified raster seed candidate. -/
structure RasterSeedCandidate where
  cell : GridCoord
  distanceSquared : ℚ
  accumulation : F32
  deriving DecidableEq, Repr

/-- Errors from mapping one coordinate to its containing raster cell. -/
inductive GridMappingError
  /-- The coordinate is outside the half-open raster extent. -/
  | outsideRasterWindow (epsg : UInt32) (outletX outletY : ℚ) (rows cols : ℕ)
  deriving DecidableEq, Repr

/-- The order of candidates: nearest center, then higher accumulation in the total order, then
row-major order. -/
def rankCompare (a b : RasterSeedCandidate) : Ordering :=
  (compare a.distanceSquared b.distanceSquared).then
    ((compare b.accumulation.totalKey a.accumulation.totalKey).then
      ((compare a.cell.row b.cell.row).then (compare a.cell.col b.cell.col)))

/-- The built-in ranker. -/
def rank (candidates : List RasterSeedCandidate) : Option RasterSeedCandidate :=
  MinBy.minBy rankCompare candidates

/-- Map a native coordinate to its unique containing cell using half-open bounds. -/
def quantizeGridCell (outlet : NativeCoord) (geo : GeoTransform) (dims : GridDims)
    (epsg : UInt32) : Except GridMappingError GridCoord :=
  let (fracRow, fracCol) := geo.coordToPixelF64 outlet
  if fracRow < 0 ∨ fracCol < 0 ∨ fracRow ≥ dims.rows ∨ fracCol ≥ dims.cols then
    .error (.outsideRasterWindow epsg outlet.x outlet.y dims.rows dims.cols)
  else .ok ⟨⌊fracRow⌋.toNat, ⌊fracCol⌋.toNat⟩

/-- The requested cell count in the declared accumulation units. -/
def effectiveThreshold (threshold : SnapThreshold) (units : FlowAccumulationUnits)
    (geo : GeoTransform) : F32 :=
  match units with
  | .cells => threshold.asF32
  | .km2 => F32.ofRat (threshold.pixels.toNat * geo.pixelArea / 1000000)

/-- The cells that reach the threshold, in row-major order. -/
def rasterSeedCandidates (outlet : NativeCoord) (accumulation : AccumulationTile .masked)
    (effectiveThreshold : F32) : List RasterSeedCandidate :=
  let (fracRow, fracCol) := accumulation.geo.coordToPixelF64 outlet
  (List.range accumulation.dims.rows).flatMap fun row =>
    (List.range accumulation.dims.cols).filterMap fun col =>
      let value := accumulation.getRaw ⟨row, col⟩
      if value.isNaN || value.lt effectiveThreshold then none
      else
        let dr := (row : ℚ) + 1 / 2 - fracRow
        let dc := (col : ℚ) + 1 / 2 - fracCol
        some ⟨⟨row, col⟩, dr * dr + dc * dc, value⟩

/-- Snap a unit-only outlet to the ranked high-accumulation cell. -/
def snapPourPoint (outlet : NativeCoord) (accumulation : AccumulationTile .masked)
    (threshold : SnapThreshold) (units : FlowAccumulationUnits) (epsg : UInt32) :
    Except SnapError SnappedPoint := do
  let dims := accumulation.dims
  let _ ← (quantizeGridCell outlet accumulation.geo dims epsg).mapError fun _ =>
    SnapError.outletOutOfBounds epsg outlet.x outlet.y dims.rows dims.cols
  let thresholdF32 := effectiveThreshold threshold units accumulation.geo
  let candidates := rasterSeedCandidates outlet accumulation thresholdF32
  let candidate ← Checks.okOr (rank candidates)
    (.noCellAboveThreshold thresholdF32 units epsg outlet.x outlet.y)
  .ok ⟨candidate.cell, accumulation.geo.pixelToCoord candidate.cell, candidate.accumulation⟩

/-! ### The containing cell -/

/-- The cell contains the point, with its upper left edges and without its lower right ones. -/
def GeoTransform.CellHolds (geo : GeoTransform) (cell : GridCoord) (p : NativeCoord) : Prop :=
  ((cell.row : ℚ) ≤ (geo.coordToPixelF64 p).1 ∧ (geo.coordToPixelF64 p).1 < cell.row + 1) ∧
    (cell.col : ℚ) ≤ (geo.coordToPixelF64 p).2 ∧ (geo.coordToPixelF64 p).2 < cell.col + 1

instance (geo : GeoTransform) (cell : GridCoord) (p : NativeCoord) :
    Decidable (geo.CellHolds cell p) :=
  inferInstanceAs (Decidable ((_ ∧ _) ∧ _ ∧ _))

section Spec

variable {geo : GeoTransform} {dims : GridDims} {p : NativeCoord} {cell cell' : GridCoord}

theorem eq_floor_iff {n : ℕ} {q : ℚ} : (n : ℚ) ≤ q ∧ q < n + 1 ↔ 0 ≤ q ∧ ⌊q⌋.toNat = n := by
  constructor
  · rintro ⟨hle, hlt⟩
    have hfloor : ⌊q⌋ = n := Int.floor_eq_iff.mpr ⟨by exact_mod_cast hle, by exact_mod_cast hlt⟩
    exact ⟨(Nat.cast_nonneg n).trans hle, by rw [hfloor, Int.toNat_natCast]⟩
  · rintro ⟨hq, rfl⟩
    have hcast : ((⌊q⌋.toNat : ℕ) : ℚ) = ((⌊q⌋ : ℤ) : ℚ) := by
      exact_mod_cast Int.toNat_of_nonneg (Int.floor_nonneg.mpr hq)
    rw [hcast]
    exact ⟨Int.floor_le q, Int.lt_floor_add_one q⟩

/-- At most one cell contains a point. -/
theorem GeoTransform.CellHolds.eq (h : geo.CellHolds cell p) (h' : geo.CellHolds cell' p) :
    cell = cell' := by
  have hrow := (eq_floor_iff.mp h.1).2.symm.trans (eq_floor_iff.mp h'.1).2
  have hcol := (eq_floor_iff.mp h.2).2.symm.trans (eq_floor_iff.mp h'.2).2
  cases cell
  cases cell'
  simp_all

/-- **Quantization** finds the cell of the grid that contains the point, if there is one. -/
theorem quantizeGridCell_eq_ok_iff {epsg : UInt32} :
    quantizeGridCell p geo dims epsg = .ok cell ↔ dims.Holds cell ∧ geo.CellHolds cell p := by
  have hbound : ∀ {n m : ℕ} {q : ℚ}, (n : ℚ) ≤ q ∧ q < n + 1 → (n < m ↔ ¬q ≥ m) := by
    intro n m q h
    rw [not_le]
    constructor
    · intro hlt
      exact h.2.trans_le (by exact_mod_cast hlt)
    · intro hlt
      exact_mod_cast h.1.trans_lt hlt
  simp only [quantizeGridCell]
  constructor
  · intro h
    split_ifs at h with hout
    obtain rfl := Except.ok.inj h
    push Not at hout
    have hrow := eq_floor_iff.mpr ⟨hout.1, rfl⟩
    have hcol := eq_floor_iff.mpr ⟨hout.2.1, rfl⟩
    exact ⟨⟨(hbound hrow).mpr (not_le.mpr hout.2.2.1), (hbound hcol).mpr (not_le.mpr hout.2.2.2)⟩,
      hrow, hcol⟩
  · rintro ⟨⟨hr, hc⟩, hrow, hcol⟩
    have hrow' := eq_floor_iff.mp hrow
    have hcol' := eq_floor_iff.mp hcol
    rw [if_neg]
    · rw [hrow'.2, hcol'.2]
    · push Not
      exact ⟨hrow'.1, hcol'.1, not_le.mp ((hbound hrow).mp hr), not_le.mp ((hbound hcol).mp hc)⟩

/-! ### The ranked cell -/

/-- The squared distance from the center of a cell to a point, in pixels. -/
def GeoTransform.distanceSquared (geo : GeoTransform) (p : NativeCoord) (cell : GridCoord) : ℚ :=
  let (fracRow, fracCol) := geo.coordToPixelF64 p
  let dr := (cell.row : ℚ) + 1 / 2 - fracRow
  let dc := (cell.col : ℚ) + 1 / 2 - fracCol
  dr * dr + dc * dc

/-- The accumulation of a cell is defined and reaches the threshold. -/
def Qualified (accumulation threshold : F32) : Prop :=
  accumulation.isNaN = false ∧ threshold.le accumulation

theorem not_qualified_nan (threshold : F32) : ¬Qualified F32.nan threshold := by
  simp [Qualified]

/-- The rank of a cell: its distance, its accumulation (the higher the better), and its
position. -/
def rankKey (distanceSquared : ℚ) (accumulation : F32) (cell : GridCoord) : ℚ ×ₗ ℤ ×ₗ ℕ ×ₗ ℕ :=
  toLex (distanceSquared, toLex (-accumulation.totalKey, toLex (cell.row, cell.col)))

/-- Cells with the same rank are the same. -/
theorem rankKey_inj {d d' : ℚ} {v v' : F32} (h : rankKey d v cell = rankKey d' v' cell') :
    cell = cell' := by
  simp only [rankKey, EmbeddingLike.apply_eq_iff_eq, Prod.mk.injEq] at h
  cases cell
  cases cell'
  simp_all

theorem rankCompare_eq_gt_iff (a b : RasterSeedCandidate) : rankCompare a b = .gt ↔
    rankKey b.distanceSquared b.accumulation b.cell
      < rankKey a.distanceSquared a.accumulation a.cell := by
  simp only [rankCompare, rankKey, Ordering.then_eq_gt, compare_gt_iff_gt, compare_eq_iff_eq,
    Prod.Lex.toLex_lt_toLex, neg_lt_neg_iff, neg_inj]
  tauto

/-- **The ranked seed**: among the eligible cells that reach the threshold, the one of least
rank. -/
def RankedSeed (geo : GeoTransform) (p : NativeCoord) (accumulation : GridCoord → F32)
    (threshold : F32) (eligible : GridCoord → Prop) (cell : GridCoord) : Prop :=
  eligible cell ∧ Qualified (accumulation cell) threshold ∧
    ∀ other, eligible other → Qualified (accumulation other) threshold →
      rankKey (geo.distanceSquared p cell) (accumulation cell) cell
        ≤ rankKey (geo.distanceSquared p other) (accumulation other) other

/-- There is at most one ranked seed. -/
theorem RankedSeed.eq {accumulation : GridCoord → F32} {threshold : F32}
    {eligible : GridCoord → Prop} (h : RankedSeed geo p accumulation threshold eligible cell)
    (h' : RankedSeed geo p accumulation threshold eligible cell') : cell = cell' :=
  rankKey_inj (le_antisymm (h.2.2 cell' h'.1 h'.2.1) (h'.2.2 cell h.1 h.2.1))

/-- Only cells that are eligible and reach the threshold matter for the ranked seed. -/
theorem RankedSeed.of_congr {accumulation accumulation' : GridCoord → F32} {threshold : F32}
    {eligible eligible' : GridCoord → Prop}
    (hseed : RankedSeed geo p accumulation threshold eligible cell)
    (h : ∀ cell, eligible cell ∧ Qualified (accumulation cell) threshold ↔
      eligible' cell ∧ Qualified (accumulation' cell) threshold)
    (heq : ∀ cell, eligible cell → Qualified (accumulation cell) threshold →
      accumulation cell = accumulation' cell) :
    RankedSeed geo p accumulation' threshold eligible' cell := by
  obtain ⟨hcell, hq, hle⟩ := hseed
  obtain ⟨hcell', hq'⟩ := (h cell).mp ⟨hcell, hq⟩
  refine ⟨hcell', hq', fun other hother hqo => ?_⟩
  obtain ⟨hel, hqe⟩ := (h other).mpr ⟨hother, hqo⟩
  rw [← heq cell hcell hq, ← heq other hel hqe]
  exact hle other hel hqe

theorem rankedSeed_congr {accumulation accumulation' : GridCoord → F32} {threshold : F32}
    {eligible eligible' : GridCoord → Prop}
    (h : ∀ cell, eligible cell ∧ Qualified (accumulation cell) threshold ↔
      eligible' cell ∧ Qualified (accumulation' cell) threshold)
    (heq : ∀ cell, eligible cell → Qualified (accumulation cell) threshold →
      accumulation cell = accumulation' cell) :
    RankedSeed geo p accumulation threshold eligible cell ↔
      RankedSeed geo p accumulation' threshold eligible' cell := by
  refine ⟨fun hseed => hseed.of_congr h heq,
    fun hseed => hseed.of_congr (fun cell => (h cell).symm) fun other hother hqo => ?_⟩
  obtain ⟨hel, hqe⟩ := (h other).mpr ⟨hother, hqo⟩
  exact (heq other hel hqe).symm

theorem isNaN_effectiveThreshold (threshold : SnapThreshold) (units : FlowAccumulationUnits)
    (geo : GeoTransform) : (effectiveThreshold threshold units geo).isNaN = false := by
  cases units <;> exact F32.isNaN_ofRat _

variable {accumulation : AccumulationTile .masked} {threshold : F32}

/-- **The candidates** are the cells of the tile that reach the threshold. -/
theorem mem_rasterSeedCandidates (hthreshold : threshold.isNaN = false)
    {candidate : RasterSeedCandidate} :
    candidate ∈ rasterSeedCandidates p accumulation threshold ↔
      accumulation.dims.Holds candidate.cell ∧
        Qualified (accumulation.getRaw candidate.cell) threshold ∧
        candidate = ⟨candidate.cell, accumulation.geo.distanceSquared p candidate.cell,
          accumulation.getRaw candidate.cell⟩ := by
  have hqualified : ∀ value : F32, ¬(value.isNaN || value.lt threshold) = true ↔
      Qualified value threshold := by
    intro value
    rw [Qualified, F32.le_iff]
    cases value.isNaN <;> simp [hthreshold]
  simp only [rasterSeedCandidates, List.mem_flatMap, List.mem_filterMap, List.mem_range]
  constructor
  · rintro ⟨row, hrow, col, hcol, h⟩
    split_ifs at h with hskip
    obtain rfl := Option.some.inj h
    exact ⟨⟨hrow, hcol⟩, (hqualified _).mp hskip, rfl⟩
  · rintro ⟨⟨hrow, hcol⟩, hq, heq⟩
    refine ⟨candidate.cell.row, hrow, candidate.cell.col, hcol, ?_⟩
    rw [if_neg ((hqualified _).mpr hq)]
    exact congrArg some heq.symm

/-- The first of the ranked candidates is a ranked seed. -/
theorem rankedSeed_of_rank (hthreshold : threshold.isNaN = false)
    {candidate : RasterSeedCandidate}
    (hrank : rank (rasterSeedCandidates p accumulation threshold) = some candidate) :
    RankedSeed accumulation.geo p accumulation.getRaw threshold accumulation.dims.Holds
      candidate.cell ∧ candidate.accumulation = accumulation.getRaw candidate.cell := by
  obtain ⟨hmem, hle⟩ := MinBy.minBy_spec rankCompare_eq_gt_iff hrank
  obtain ⟨hholds, hq, heq⟩ := (mem_rasterSeedCandidates hthreshold).mp hmem
  refine ⟨⟨hholds, hq, fun other hother hqo => ?_⟩, by rw [heq]⟩
  have hother := hle ⟨other, accumulation.geo.distanceSquared p other, accumulation.getRaw other⟩
    ((mem_rasterSeedCandidates hthreshold).mpr ⟨hother, hqo, rfl⟩)
  rw [heq] at hother
  exact hother

/-- **Snapping** succeeds exactly when the tile contains the outlet and has a ranked seed, and
returns that seed. -/
theorem snapPourPoint_eq_ok_iff {snapThreshold : SnapThreshold} {units : FlowAccumulationUnits}
    {epsg : UInt32} {seed : SnappedPoint} :
    snapPourPoint p accumulation snapThreshold units epsg = .ok seed ↔
      (∃ cell, accumulation.dims.Holds cell ∧ accumulation.geo.CellHolds cell p) ∧
        RankedSeed accumulation.geo p accumulation.getRaw
          (effectiveThreshold snapThreshold units accumulation.geo) accumulation.dims.Holds
          seed.cell ∧
        seed = ⟨seed.cell, accumulation.geo.pixelToCoord seed.cell,
          accumulation.getRaw seed.cell⟩ := by
  have hnan := isNaN_effectiveThreshold snapThreshold units accumulation.geo
  simp only [snapPourPoint, Checks.bind_eq_ok_iff, Checks.okOr_eq_ok_iff, Except.ok.injEq]
  constructor
  · rintro ⟨cell, hcell, candidate, hrank, rfl⟩
    have hquant := Checks.mapError_eq_ok_iff.mp hcell
    obtain ⟨hseed, hvalue⟩ := rankedSeed_of_rank hnan hrank
    exact ⟨⟨cell, quantizeGridCell_eq_ok_iff.mp hquant⟩, hseed, by rw [hvalue]⟩
  · rintro ⟨⟨cell, hcell⟩, hseed, heq⟩
    have hquant : quantizeGridCell p accumulation.geo accumulation.dims epsg = .ok cell :=
      quantizeGridCell_eq_ok_iff.mpr hcell
    cases hrank : rank (rasterSeedCandidates p accumulation
        (effectiveThreshold snapThreshold units accumulation.geo)) with
    | none =>
      -- the ranked seed is a candidate
      have hmem : (⟨seed.cell, accumulation.geo.distanceSquared p seed.cell,
          accumulation.getRaw seed.cell⟩ : RasterSeedCandidate) ∈ rasterSeedCandidates p
            accumulation (effectiveThreshold snapThreshold units accumulation.geo) :=
        (mem_rasterSeedCandidates hnan).mpr ⟨hseed.1, hseed.2.1, rfl⟩
      rw [MinBy.minBy_eq_none_iff.mp hrank] at hmem
      exact absurd hmem List.not_mem_nil
    | some candidate =>
      obtain ⟨hseed', hvalue⟩ := rankedSeed_of_rank hnan hrank
      refine ⟨cell, by rw [hquant]; rfl, candidate, rfl, ?_⟩
      rw [heq, hvalue, hseed'.eq hseed]

end Spec

end WatershedDelineation
