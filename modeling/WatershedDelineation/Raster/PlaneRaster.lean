import WatershedDelineation.Raster.PlanePolygonize

/-!
# Refinement in the plane

The abstract model of a refinement, on an unbounded raster: the terminal cells of the plane, the
seed among them, the cells that lead to the seed inside the terminal, and their polygons
(`PlaneRefined`). It knows no window, no row or column bounds and no mask.

Refining in a window of the raster that covers the terminal and holds the outlet computes exactly
this (`PlaneWindow.exists_refineTerminal_iff`).
-/

namespace WatershedDelineation

open Relation LatticeRing

/-- An unbounded raster pair. -/
structure PlaneRaster where
  geo : GeoTransform
  /-- The direction that a trace follows. -/
  direction : Point → Option FlowDir
  /-- The seed-cell semantics of the direction raster. -/
  decodedCell : Point → Option DecodedFlowCell
  accumulation : Point → F32

/-- The plane cell contains the point. -/
def GeoTransform.PointHolds (geo : GeoTransform) (p : Point) (x : NativeCoord) : Prop :=
  ((p.1 : ℚ) ≤ (geo.coordToPixelF64 x).1 ∧ (geo.coordToPixelF64 x).1 < p.1 + 1) ∧
    (p.2 : ℚ) ≤ (geo.coordToPixelF64 x).2 ∧ (geo.coordToPixelF64 x).2 < p.2 + 1

/-- The rank of a plane cell: its squared distance to the point, its accumulation, and its
position in reading order. -/
def PlaneRaster.rankKey (raster : PlaneRaster) (x : NativeCoord) (p : Point) :
    ℚ ×ₗ ℤ ×ₗ ℤ ×ₗ ℤ :=
  let (fracRow, fracCol) := raster.geo.coordToPixelF64 x
  let dr := (p.1 : ℚ) + 1 / 2 - fracRow
  let dc := (p.2 : ℚ) + 1 / 2 - fracCol
  toLex (dr * dr + dc * dc, toLex (-(raster.accumulation p).totalKey, toLex p))

/-- The seed among the terminal cells. -/
def PlaneRaster.SeedCell (raster : PlaneRaster) (outlet : RasterOutlet) (thresholdValue : F32)
    (terminalPolygon : MultiPolygon) (seed : Point) : Prop :=
  TerminalCell raster.geo terminalPolygon seed ∧
    Qualified (raster.accumulation seed) thresholdValue ∧
      match outlet with
      | .vectorPoint x => raster.geo.PointHolds seed x ∧ raster.decodedCell seed ≠ none
      | .unitOnly x => ∀ other, TerminalCell raster.geo terminalPolygon other →
          Qualified (raster.accumulation other) thresholdValue →
            raster.rankKey x seed ≤ raster.rankKey x other

/-- Following directions inside the terminal. -/
def PlaneRaster.DrainsInside (raster : PlaneRaster) (terminalPolygon : MultiPolygon)
    (p q : Point) : Prop :=
  TerminalCell raster.geo terminalPolygon p ∧ TerminalCell raster.geo terminalPolygon q ∧
    ∃ dir, raster.direction p = some dir ∧ q = (p.1 + dir.dy, p.2 + dir.dx)

/-- What a caller sees of a refinement. -/
structure RefinementOutcome where
  polygon : MultiPolygon
  coord : NativeCoord
  seedKind : RasterSeedKind

/-- The outcome of a result. -/
def RefinementResult.outcome (result : RefinementResult) : RefinementOutcome :=
  ⟨result.polygon, result.snappedPoint.coord, result.seedKind⟩

/-- **Refinement in the plane.** -/
def PlaneRefined (contains : Polygon → NativeCoord → Bool) (raster : PlaneRaster)
    (outlet : RasterOutlet) (thresholdValue : F32) (terminalPolygon : MultiPolygon)
    (outcome : RefinementOutcome) : Prop :=
  ∃ seed cells, raster.SeedCell outlet thresholdValue terminalPolygon seed ∧
    cells.Pairwise LexLT ∧
    (∀ p, p ∈ cells ↔ TerminalCell raster.geo terminalPolygon p ∧
      ReflTransGen (raster.DrainsInside terminalPolygon) p seed) ∧
    polygonizeCells contains raster.geo cells = .ok (some outcome.polygon) ∧
    outcome.coord = raster.geo.center seed ∧ outcome.seedKind = outlet.seedKind

/-- The tiles of the window at `o`. -/
structure PlaneWindow (raster : PlaneRaster) (o : Point) (flowDir : FlowDirectionTile .raw)
    (accumulation : AccumulationTile .raw) : Prop where
  aligned : Aligned flowDir accumulation
  geo_eq : flowDir.geo = raster.geo.shift o
  get_eq : ∀ cell, flowDir.dims.Holds cell → flowDir.get cell = raster.direction (cell.at o)
  decodedCell_eq : ∀ cell, flowDir.dims.Holds cell →
    flowDir.decodedCell cell = raster.decodedCell (cell.at o)
  getRaw_eq : ∀ cell, flowDir.dims.Holds cell →
    accumulation.getRaw cell = raster.accumulation (cell.at o)

namespace PlaneWindow

variable {raster : PlaneRaster} {o : Point} {flowDir : FlowDirectionTile .raw}
  {accumulation : AccumulationTile .raw} {outlet : RasterOutlet} {thresholdValue : F32}
  {terminalPolygon : MultiPolygon} {mask : CatchmentMask} {cell cell' seed : GridCoord}
  {x : NativeCoord}

/-! ### The seed -/

theorem cellHolds_iff (h : PlaneWindow raster o flowDir accumulation)
    (hgeo : raster.geo.Invertible) :
    flowDir.geo.CellHolds cell x ↔ raster.geo.PointHolds (cell.at o) x := by
  rw [GeoTransform.CellHolds, GeoTransform.PointHolds, h.geo_eq,
    GeoTransform.coordToPixelF64_shift hgeo]
  have hiff : ∀ {n : ℕ} {k : ℤ} {q : ℚ}, ((n : ℚ) ≤ q - k ∧ q - k < n + 1) ↔
      (((n + k : ℤ) : ℚ) ≤ q ∧ q < ((n + k : ℤ) : ℚ) + 1) := by
    intro n k q
    push_cast
    constructor
    · rintro ⟨h₁, h₂⟩
      exact ⟨by linarith, by linarith⟩
    · rintro ⟨h₁, h₂⟩
      exact ⟨by linarith, by linarith⟩
  exact and_congr hiff hiff

/-- Ranks compare in a window as they do in the plane. -/
theorem rankKey_le_iff (h : PlaneWindow raster o flowDir accumulation)
    (hgeo : raster.geo.Invertible) (hcell : flowDir.dims.Holds cell)
    (hcell' : flowDir.dims.Holds cell') :
    rankKey (flowDir.geo.distanceSquared x cell) (accumulation.getRaw cell) cell
        ≤ rankKey (flowDir.geo.distanceSquared x cell') (accumulation.getRaw cell') cell' ↔
      raster.rankKey x (cell.at o) ≤ raster.rankKey x (cell'.at o) := by
  have hdistance : ∀ cell : GridCoord, flowDir.geo.distanceSquared x cell
      = (((cell.row + o.1 : ℤ) : ℚ) + 1 / 2 - (raster.geo.coordToPixelF64 x).1)
          * (((cell.row + o.1 : ℤ) : ℚ) + 1 / 2 - (raster.geo.coordToPixelF64 x).1)
        + (((cell.col + o.2 : ℤ) : ℚ) + 1 / 2 - (raster.geo.coordToPixelF64 x).2)
          * (((cell.col + o.2 : ℤ) : ℚ) + 1 / 2 - (raster.geo.coordToPixelF64 x).2) := by
    intro cell
    rw [GeoTransform.distanceSquared, h.geo_eq, GeoTransform.coordToPixelF64_shift hgeo]
    simp only [relativeTo]
    push_cast
    ring
  simp only [rankKey, PlaneRaster.rankKey, hdistance, h.getRaw_eq cell hcell,
    h.getRaw_eq cell' hcell', GridCoord.at, Prod.Lex.toLex_le_toLex, add_left_inj,
    add_le_add_iff_right, add_lt_add_iff_right, Nat.cast_lt, Nat.cast_le, Nat.cast_inj]

/-- The cells of a window's terminal mask are the terminal cells of the plane. -/
structure Covered (raster : PlaneRaster) (o : Point) (terminalPolygon : MultiPolygon)
    (mask : CatchmentMask) : Prop where
  includes_iff : ∀ cell, mask.Includes cell ↔
    mask.dims.Holds cell ∧ TerminalCell raster.geo terminalPolygon (cell.at o)
  exists_cell : ∀ p, TerminalCell raster.geo terminalPolygon p →
    ∃ cell, mask.Includes cell ∧ cell.at o = p

theorem covered (h : PlaneWindow raster o flowDir accumulation) (hgeo : raster.geo.Invertible)
    (hcovers : CoversTerminal flowDir.geo flowDir.dims terminalPolygon)
    (hmask : TerminalMask flowDir terminalPolygon mask) :
    Covered raster o terminalPolygon mask := by
  have hiff : ∀ cell, mask.Includes cell ↔
      flowDir.dims.Holds cell ∧ TerminalCell raster.geo terminalPolygon (cell.at o) :=
    fun cell => hmask.includes_iff hgeo h.geo_eq
  refine ⟨fun cell => by rw [hmask.dims_eq, hiff], fun p hp => ?_⟩
  rw [h.geo_eq] at hcovers
  obtain ⟨cell, hcell, rfl⟩ := hcovers.exists_cell hgeo hp
  exact ⟨cell, (hiff cell).mpr ⟨hcell, hp⟩, rfl⟩

theorem Covered.terminalCell (h : Covered raster o terminalPolygon mask)
    (hcell : mask.Includes cell) : TerminalCell raster.geo terminalPolygon (cell.at o) :=
  ((h.includes_iff cell).mp hcell).2

theorem Covered.includes (h : Covered raster o terminalPolygon mask)
    (hp : TerminalCell raster.geo terminalPolygon (cell.at o)) : mask.Includes cell := by
  obtain ⟨cell', hcell', heq⟩ := h.exists_cell _ hp
  obtain rfl := GridCoord.at_injective o heq
  exact hcell'

/-- **The seed** is the same in the window and in the plane. -/
theorem seedCell_iff (h : PlaneWindow raster o flowDir accumulation)
    (hgeo : raster.geo.Invertible) (hmask : Covered raster o terminalPolygon mask)
    (hdims : mask.dims = flowDir.dims)
    (houtlet : ∃ cell, flowDir.dims.Holds cell ∧ flowDir.geo.CellHolds cell outlet.point) :
    SeedCell outlet flowDir accumulation thresholdValue mask seed ↔
      raster.SeedCell outlet thresholdValue terminalPolygon (seed.at o) := by
  have hholds : ∀ {cell}, mask.Includes cell → flowDir.dims.Holds cell := fun hcell => by
    rw [← hdims]
    exact hcell.1
  have hvalue : ∀ {cell}, mask.Includes cell →
      accumulation.getRaw cell = raster.accumulation (cell.at o) := fun hcell =>
    h.getRaw_eq _ (hholds hcell)
  cases outlet with
  | vectorPoint x =>
    simp only [SeedCell, PlaneRaster.SeedCell, h.cellHolds_iff hgeo]
    constructor
    · rintro ⟨hcell, hpoint, hdecoded, hq⟩
      rw [h.decodedCell_eq _ (hholds hcell)] at hdecoded
      exact ⟨hmask.terminalCell hcell, hvalue hcell ▸ hq, hpoint, hdecoded⟩
    · rintro ⟨hp, hq, hpoint, hdecoded⟩
      have hcell := hmask.includes hp
      rw [← h.decodedCell_eq _ (hholds hcell)] at hdecoded
      exact ⟨hcell, hpoint, hdecoded, (hvalue hcell).symm ▸ hq⟩
  | unitOnly x =>
    simp only [SeedCell, PlaneRaster.SeedCell, RankedSeed]
    constructor
    · rintro ⟨-, hcell, hq, hle⟩
      -- every cell of the plane that competes is a cell of the window
      refine ⟨hmask.terminalCell hcell, hvalue hcell ▸ hq, fun other hother hqo => ?_⟩
      obtain ⟨other, hother', rfl⟩ := hmask.exists_cell other hother
      rw [← hvalue hother'] at hqo
      exact (h.rankKey_le_iff hgeo (hholds hcell) (hholds hother')).mp (hle other hother' hqo)
    · rintro ⟨hp, hq, hle⟩
      have hcell := hmask.includes hp
      refine ⟨houtlet, hcell, (hvalue hcell).symm ▸ hq, fun other hother hqo => ?_⟩
      rw [hvalue hother] at hqo
      exact (h.rankKey_le_iff hgeo (hholds hcell) (hholds hother)).mpr
        (hle _ (hmask.terminalCell hother) hqo)

/-! ### The trace -/

theorem drainsInside_iff (h : PlaneWindow raster o flowDir accumulation)
    (hmask : Covered raster o terminalPolygon mask) (hdims : mask.dims = flowDir.dims) :
    DrainsInside mask flowDir cell cell' ↔
      raster.DrainsInside terminalPolygon (cell.at o) (cell'.at o) := by
  have hstep : ∀ {dir : FlowDir}, ((cell'.row : ℤ) = cell.row + dir.dy ∧
      (cell'.col : ℤ) = cell.col + dir.dx) ↔
      cell'.at o = ((cell.at o).1 + dir.dy, (cell.at o).2 + dir.dx) := by
    intro dir
    simp only [GridCoord.at, Prod.mk.injEq]
    omega
  simp only [DrainsInside, PlaneRaster.DrainsInside, FlowDirectionTile.drainsTo_iff, hstep]
  constructor
  · rintro ⟨hcell, hcell', hholds, -, hdir⟩
    rw [h.get_eq _ hholds] at hdir
    exact ⟨hmask.terminalCell hcell, hmask.terminalCell hcell', hdir⟩
  · rintro ⟨hp, hq, hdir⟩
    have hcell := hmask.includes hp
    have hcell' := hmask.includes hq
    have hholds : flowDir.dims.Holds cell := hdims ▸ hcell.1
    rw [← h.get_eq _ hholds] at hdir
    exact ⟨hcell, hcell', hholds, hdims ▸ hcell'.1, hdir⟩

/-- **Paths** inside the terminal are the same in the window and in the plane. -/
theorem reflTransGen_iff (h : PlaneWindow raster o flowDir accumulation)
    (hmask : Covered raster o terminalPolygon mask) (hdims : mask.dims = flowDir.dims) :
    ReflTransGen (DrainsInside mask flowDir) cell seed ↔
      ReflTransGen (raster.DrainsInside terminalPolygon) (cell.at o) (seed.at o) := by
  constructor
  · exact fun hpath => ReflTransGen.lift (GridCoord.at · o)
      (fun a b hab => (h.drainsInside_iff hmask hdims).mp hab) _ _ hpath
  · intro hpath
    generalize hp : cell.at o = p at hpath
    induction hpath using ReflTransGen.head_induction_on generalizing cell with
    | refl =>
      obtain rfl := GridCoord.at_injective o hp
      exact .refl
    | head hpq _ ih =>
      -- the next cell lies in the terminal, so the window has it
      obtain ⟨next, -, rfl⟩ := hmask.exists_cell _ hpq.2.1
      subst hp
      exact (ih rfl).head ((h.drainsInside_iff hmask hdims).mpr hpq)

/-- The traced cells of the plane. -/
theorem mem_planeCells_iff {traced : CatchmentMask}
    (h : PlaneWindow raster o flowDir accumulation)
    (hmask : Covered raster o terminalPolygon mask) (hdims : mask.dims = flowDir.dims)
    (htraced : TraceMask flowDir mask seed traced) (p : Point) :
    p ∈ traced.planeCells o ↔ TerminalCell raster.geo terminalPolygon p ∧
      ReflTransGen (raster.DrainsInside terminalPolygon) p (seed.at o) := by
  rw [CatchmentMask.mem_planeCells]
  constructor
  · rintro ⟨cell, hcell, rfl⟩
    obtain ⟨hin, hpath⟩ := (htraced.includes_iff cell).mp hcell
    exact ⟨hmask.terminalCell hin, (h.reflTransGen_iff hmask hdims).mp hpath⟩
  · rintro ⟨hp, hpath⟩
    obtain ⟨cell, hin, rfl⟩ := hmask.exists_cell p hp
    exact ⟨cell, (htraced.includes_iff cell).mpr
      ⟨hin, (h.reflTransGen_iff hmask hdims).mpr hpath⟩, rfl⟩

/-! ### The whole refinement -/

theorem exists_terminalMask (flowDir : FlowDirectionTile .raw)
    (hne : ∃ cell, flowDir.dims.Holds cell ∧
      TerminalCell flowDir.geo terminalPolygon (cell.row, cell.col)) :
    ∃ mask, TerminalMask flowDir terminalPolygon mask := by
  obtain ⟨data, hdata, hlen, hiff⟩ := rasterizeMultiPolygon_spec terminalPolygon flowDir.geo
    (show 0 < flowDir.dims.cols from flowDir.inner.cols_pos)
  obtain ⟨cell, hcell, hterminal⟩ := hne
  refine ⟨⟨data, flowDir.dims.rows, flowDir.dims.cols, hlen⟩, hdata, rfl, cell, hcell, ?_⟩
  exact (hiff cell hcell).mpr (by simpa [TerminalCell] using hterminal)

theorem exists_traceMask (hdims : mask.dims = flowDir.dims) (hseed : mask.Includes seed) :
    ∃ traced, TraceMask flowDir mask seed traced := by
  obtain ⟨maskedFlowDir, -, hdims', hget⟩ := FlowDirectionTile.applyMask_eq_ok hdims
  have hholds : maskedFlowDir.dims.Holds seed := by
    rw [hdims', ← hdims]
    exact hseed.1
  obtain ⟨traced, htraced, -⟩ := traceUpstream_spec hholds
  exact ⟨traced, (traceUpstream_eq_ok_iff hdims hdims' hget hseed).mp htraced⟩

/-- **A window refines the plane**: in a window that covers the terminal and holds the outlet,
refinement succeeds with exactly the outcomes of the plane. -/
theorem exists_refineTerminal_iff {contains : Polygon → NativeCoord → Bool}
    {threshold : SnapThreshold} {units : FlowAccumulationUnits} {epsg : UInt32}
    {outcome : RefinementOutcome} (h : PlaneWindow raster o flowDir accumulation)
    (hgeo : raster.geo.Invertible)
    (hcovers : CoversTerminal flowDir.geo flowDir.dims terminalPolygon)
    (houtlet : ∃ cell, flowDir.dims.Holds cell ∧ flowDir.geo.CellHolds cell outlet.point) :
    (∃ result, refineTerminal outlet flowDir accumulation threshold units epsg contains
        terminalPolygon = .ok result ∧ result.outcome = outcome) ↔
      d8PairIsCompatible s!"EPSG:{epsg}" units.declaration ∧ PlaneRefined contains raster outlet
        (effectiveThreshold threshold units raster.geo) terminalPolygon outcome := by
  have hthreshold : effectiveThreshold threshold units flowDir.geo
      = effectiveThreshold threshold units raster.geo := by
    rw [h.geo_eq]
    rfl
  simp only [refineTerminal_eq_ok_iff, hthreshold]
  constructor
  · rintro ⟨result, ⟨hcompat, -, mask, traced, seed, href⟩, rfl⟩
    have hmask := h.covered hgeo hcovers href.terminal
    have hdims := href.terminal.dims_eq
    have hpolygon := href.polygonized
    rw [h.geo_eq, polygonize_shift contains hgeo] at hpolygon
    refine ⟨hcompat, seed.at o, traced.planeCells o,
      (h.seedCell_iff hgeo hmask hdims houtlet).mp href.seedCell,
      CatchmentMask.pairwise_planeCells, h.mem_planeCells_iff hmask hdims href.trace, hpolygon,
      ?_, href.seedKind_eq⟩
    simp only [RefinementResult.outcome, href.snappedPoint_eq, seedPoint, h.geo_eq,
      GeoTransform.pixelToCoord_shift]
  · rintro ⟨hcompat, p, cells, hseed, hsorted, hcells, hpolygon, hcoord, hkind⟩
    rw [h.geo_eq] at hcovers
    obtain ⟨seed, hholds, rfl⟩ := hcovers.exists_cell hgeo hseed.1
    have hterminal : TerminalCell flowDir.geo terminalPolygon (seed.row, seed.col) := by
      rw [h.geo_eq, terminalCell_shift hgeo]
      exact hseed.1
    obtain ⟨mask, hterm⟩ := exists_terminalMask flowDir ⟨seed, hholds, hterminal⟩
    rw [← h.geo_eq] at hcovers
    have hmask := h.covered hgeo hcovers hterm
    have hdims := hterm.dims_eq
    have hseed' := (h.seedCell_iff hgeo hmask hdims houtlet).mpr hseed
    obtain ⟨traced, htraced⟩ := exists_traceMask hdims hseed'.includes
    -- both lists are in reading order and have the same cells
    have hlist : traced.planeCells o = cells := by
      have hirrefl : Std.Irrefl LexLT := ⟨fun p hp => by simp [LexLT] at hp⟩
      have hasymm : Std.Antisymm LexLT := ⟨fun p q hpq hqp => by
        simp only [LexLT] at hpq hqp
        omega⟩
      exact CatchmentMask.pairwise_planeCells.eq_of_mem_iff hsorted fun p =>
        (h.mem_planeCells_iff hmask hdims htraced p).trans (hcells p).symm
    refine ⟨⟨seedPoint flowDir accumulation seed, outlet.seedKind, outcome.polygon⟩,
      ⟨hcompat, h.aligned, mask, traced, seed, hterm, hseed', htraced, ?_, rfl, rfl⟩, ?_⟩
    · rw [h.geo_eq, polygonize_shift contains hgeo, hlist]
      exact hpolygon
    · obtain ⟨polygon, coord, kind⟩ := outcome
      simp only at hcoord hkind
      subst hcoord hkind
      simp only [RefinementResult.outcome, seedPoint, h.geo_eq, GeoTransform.pixelToCoord_shift]

end PlaneWindow

end WatershedDelineation
