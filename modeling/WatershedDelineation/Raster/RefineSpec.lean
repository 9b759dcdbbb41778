import WatershedDelineation.Raster.Refine
import WatershedDelineation.Raster.RoundTrip

/-!
# What refinement computes

`refineTerminal` step by step (`refineTerminal_eq_ok_iff`): when it succeeds, with which mask,
seed and trace. From this the end-to-end law `refineTerminal_exact`.
-/

namespace WatershedDelineation

open Relation

/-! ### The terminal mask -/

section Steps

variable {outlet : RasterOutlet} {flowDir : FlowDirectionTile .raw}
  {accumulation : AccumulationTile .raw} {threshold : SnapThreshold}
  {units : FlowAccumulationUnits} {epsg : UInt32} {terminalPolygon : MultiPolygon}
  {mask : CatchmentMask}

/-- The tiles have the same grid. -/
def Aligned (flowDir : FlowDirectionTile .raw) (accumulation : AccumulationTile .raw) : Prop :=
  flowDir.dims = accumulation.dims ∧ flowDir.geo = accumulation.geo

/-- The mask of the cells of a tile that a multipolygon covers, and there are some. -/
structure TerminalMask (flowDir : FlowDirectionTile .raw) (terminalPolygon : MultiPolygon)
    (mask : CatchmentMask) : Prop where
  rasterized : rasterizeMultiPolygon terminalPolygon flowDir.geo flowDir.dims = .ok mask.data
  dims_eq : mask.dims = flowDir.dims
  nonempty : ∃ cell, mask.Includes cell

theorem terminalMask_eq_ok_iff :
    terminalMask flowDir accumulation units epsg terminalPolygon = .ok mask ↔
      d8PairIsCompatible s!"EPSG:{epsg}" units.declaration ∧ Aligned flowDir accumulation ∧
        TerminalMask flowDir terminalPolygon mask := by
  simp only [terminalMask, reject, Checks.ite_error_eq_ok_iff, Checks.bind_eq_ok_iff,
    Fault.noErr_eq_ok_iff, Bool.not_eq_true, ne_eq, not_not, Bool.not_eq_false', Aligned]
  constructor
  · rintro ⟨hcompat, hdims, hgeo, data, hdata, hany, hnew⟩
    obtain ⟨rfl, hmask⟩ := CatchmentMask.new_eq_ok_iff.mp hnew
    exact ⟨by simpa using hcompat, ⟨hdims, hgeo⟩, hdata, hmask,
      mask.any_data_iff.mp (by simpa using hany)⟩
  · rintro ⟨hcompat, ⟨hdims, hgeo⟩, hdata, hmask, hne⟩
    exact ⟨by simpa using hcompat, hdims, hgeo, mask.data, hdata,
      by simpa using mask.any_data_iff.mpr hne, CatchmentMask.new_eq_ok_iff.mpr ⟨rfl, hmask⟩⟩

/-! ### The seed -/

/-- The seed that the authority determines: for a vector point the usable cell that contains it,
for a unit the ranked cell of the mask. -/
def SeedCell (outlet : RasterOutlet) (flowDir : FlowDirectionTile .raw)
    (accumulation : AccumulationTile .raw) (thresholdValue : F32) (mask : CatchmentMask)
    (cell : GridCoord) : Prop :=
  match outlet with
  | .vectorPoint p => mask.Includes cell ∧ flowDir.geo.CellHolds cell p ∧
      flowDir.decodedCell cell ≠ none ∧ Qualified (accumulation.getRaw cell) thresholdValue
  | .unitOnly p => (∃ holder, flowDir.dims.Holds holder ∧ flowDir.geo.CellHolds holder p) ∧
      RankedSeed flowDir.geo p accumulation.getRaw thresholdValue mask.Includes cell

/-- The seed rule of an authority. -/
def RasterOutlet.seedKind : RasterOutlet → RasterSeedKind
  | .vectorPoint _ => .vectorQuantized
  | .unitOnly _ => .rasterRanked

/-- The evidence that is returned for a seed cell. -/
def seedPoint (flowDir : FlowDirectionTile .raw) (accumulation : AccumulationTile .raw)
    (cell : GridCoord) : SnappedPoint :=
  ⟨cell, flowDir.geo.pixelToCoord cell, accumulation.getRaw cell⟩

theorem vectorSeed_vectorPoint_eq_ok_iff {p : NativeCoord} {seed : Option SnappedPoint}
    (hmask : mask.dims = flowDir.dims) :
    vectorSeed (.vectorPoint p) flowDir accumulation threshold units epsg mask = .ok seed ↔
      ∃ cell, SeedCell (.vectorPoint p) flowDir accumulation
        (effectiveThreshold threshold units flowDir.geo) mask cell ∧
        seed = some (seedPoint flowDir accumulation cell) := by
  have hnan := isNaN_effectiveThreshold threshold units flowDir.geo
  simp only [vectorSeed, reject, SeedCell, CatchmentMask.Includes, hmask]
  constructor
  · intro h
    split at h
    · simp at h
    · rename_i mapped hmapped
      obtain ⟨hholds, hcell⟩ := quantizeGridCell_eq_ok_iff.mp hmapped
      simp only [Checks.ite_error_eq_ok_iff] at h
      obtain ⟨hin, hdir, h⟩ := h
      split at h
      · simp at h
      · rename_i measured hmeasured
        obtain ⟨hraw, hdefined⟩ := AccumulationTile.get_eq_some_iff.mp hmeasured
        simp only [Checks.ite_error_eq_ok_iff] at h
        refine ⟨mapped, ⟨⟨hholds, by simpa using hin⟩, hcell, hdir, ?_⟩, ?_⟩
        · rw [hraw]
          exact ⟨hdefined, F32.le_iff.mpr ⟨hnan, hdefined, by simpa using h.1⟩⟩
        · rw [seedPoint, hraw]
          exact (Except.ok.inj h.2).symm
  · rintro ⟨cell, ⟨⟨hholds, hin⟩, hcell, hdir, hdefined, hle⟩, rfl⟩
    have hget : accumulation.get cell = some (accumulation.getRaw cell) :=
      AccumulationTile.get_eq_some_iff.mpr ⟨rfl, hdefined⟩
    have hlt := (F32.le_iff.mp hle).2.2
    simp only [quantizeGridCell_eq_ok_iff.mpr ⟨hholds, hcell⟩, hin, hdir, hget, hlt, Bool.not_true,
      Bool.false_eq_true, if_false]
    rfl

/-- The cells that are ranked on the masked tile are those of the mask. -/
theorem rankedSeed_masked_iff {geo : GeoTransform} {p : NativeCoord} {thresholdValue : F32}
    {maskedAcc : AccumulationTile .masked} {cell : GridCoord} (hmask : mask.dims = flowDir.dims)
    (hraw : ∀ cell, flowDir.dims.Holds cell → maskedAcc.getRaw cell
      = if mask.contains cell then accumulation.getRaw cell else F32.nan) :
    RankedSeed geo p maskedAcc.getRaw thresholdValue flowDir.dims.Holds cell ↔
      RankedSeed geo p accumulation.getRaw thresholdValue mask.Includes cell := by
  -- outside the mask the masked tile is NaN, and NaN does not reach a threshold
  refine rankedSeed_congr (fun cell => ?_) fun cell hcell hq => ?_
  · rw [CatchmentMask.Includes, hmask, and_assoc]
    refine and_congr_right fun hcell => ?_
    rw [hraw cell hcell]
    cases mask.contains cell with
    | true => simp
    | false =>
      simp only [Bool.false_eq_true, if_false, false_and, iff_false]
      exact not_qualified_nan _
  · rw [hraw cell hcell] at hq ⊢
    cases hin : mask.contains cell with
    | true => rfl
    | false =>
      rw [hin] at hq
      exact absurd hq (not_qualified_nan _)

/-- The ranker on the masked tile chooses the ranked cell of the mask. -/
theorem chooseSeed_unitOnly_eq_ok_iff {p : NativeCoord} {maskedAcc : AccumulationTile .masked}
    {seed : SnappedPoint × RasterSeedKind} (haligned : Aligned flowDir accumulation)
    (hmask : mask.dims = flowDir.dims) (hdims : maskedAcc.dims = accumulation.dims)
    (hgeo : maskedAcc.geo = accumulation.geo)
    (hraw : ∀ cell, accumulation.dims.Holds cell → maskedAcc.getRaw cell
      = if mask.contains cell then accumulation.getRaw cell else F32.nan) :
    chooseSeed (.unitOnly p) threshold units epsg none maskedAcc = .ok seed ↔
      ∃ cell, SeedCell (.unitOnly p) flowDir accumulation
        (effectiveThreshold threshold units flowDir.geo) mask cell ∧
        seed = (seedPoint flowDir accumulation cell, .rasterRanked) := by
  rw [← haligned.1] at hdims hraw
  rw [← haligned.2] at hgeo
  have hsnap : ∀ seed, snapPourPoint p maskedAcc threshold units epsg = .ok seed ↔
      ∃ cell, SeedCell (.unitOnly p) flowDir accumulation
        (effectiveThreshold threshold units flowDir.geo) mask cell ∧
        seed = seedPoint flowDir accumulation cell := by
    intro seed
    rw [snapPourPoint_eq_ok_iff, hdims, hgeo, rankedSeed_masked_iff hmask hraw]
    constructor
    · rintro ⟨hholder, hseed, heq⟩
      refine ⟨seed.cell, ⟨hholder, hseed⟩, heq.trans ?_⟩
      rw [seedPoint, hraw _ (hmask ▸ hseed.1.1), if_pos hseed.1.2]
    · rintro ⟨cell, ⟨hholder, hseed⟩, rfl⟩
      refine ⟨hholder, hseed, ?_⟩
      rw [hraw _ (hmask ▸ hseed.1.1), seedPoint, if_pos hseed.1.2]
  simp only [chooseSeed, Checks.bind_eq_ok_iff, Checks.mapError_eq_ok_iff, hsnap,
    Except.ok.injEq]
  constructor
  · rintro ⟨_, ⟨cell, hcell, rfl⟩, rfl⟩
    exact ⟨cell, hcell, rfl⟩
  · rintro ⟨cell, hcell, rfl⟩
    exact ⟨_, ⟨cell, hcell, rfl⟩, rfl⟩

/-- **The seed** is the one that the authority determines. -/
theorem exists_vectorSeed_chooseSeed_iff {maskedAcc : AccumulationTile .masked}
    {snapped : SnappedPoint} {seedKind : RasterSeedKind} (haligned : Aligned flowDir accumulation)
    (hmask : mask.dims = flowDir.dims) (hdims : maskedAcc.dims = accumulation.dims)
    (hgeo : maskedAcc.geo = accumulation.geo)
    (hraw : ∀ cell, accumulation.dims.Holds cell → maskedAcc.getRaw cell
      = if mask.contains cell then accumulation.getRaw cell else F32.nan) :
    (∃ seed?, vectorSeed outlet flowDir accumulation threshold units epsg mask = .ok seed? ∧
        chooseSeed outlet threshold units epsg seed? maskedAcc = .ok (snapped, seedKind)) ↔
      ∃ cell, SeedCell outlet flowDir accumulation
        (effectiveThreshold threshold units flowDir.geo) mask cell ∧
        snapped = seedPoint flowDir accumulation cell ∧ seedKind = outlet.seedKind := by
  cases outlet with
  | vectorPoint p =>
    simp only [vectorSeed_vectorPoint_eq_ok_iff hmask]
    constructor
    · rintro ⟨_, ⟨cell, hcell, rfl⟩, hchoose⟩
      obtain ⟨rfl, rfl⟩ := Prod.mk.inj (Except.ok.inj hchoose)
      exact ⟨cell, hcell, rfl, rfl⟩
    · rintro ⟨cell, hcell, rfl, rfl⟩
      exact ⟨_, ⟨cell, hcell, rfl⟩, rfl⟩
  | unitOnly p =>
    have hiff := fun seed => @chooseSeed_unitOnly_eq_ok_iff flowDir accumulation threshold units
      epsg mask p maskedAcc seed haligned hmask hdims hgeo hraw
    constructor
    · rintro ⟨_, hvector, hchoose⟩
      obtain rfl := Except.ok.inj hvector
      obtain ⟨cell, hcell, heq⟩ := (hiff _).mp hchoose
      exact ⟨cell, hcell, (Prod.mk.inj heq).1, (Prod.mk.inj heq).2⟩
    · rintro ⟨cell, hcell, rfl, rfl⟩
      exact ⟨none, rfl, (hiff _).mpr ⟨cell, hcell, rfl⟩⟩

/-! ### The trace -/

/-- Following directions inside a mask. -/
def DrainsInside (mask : CatchmentMask) (flowDir : FlowDirectionTile .raw) (a b : GridCoord) :
    Prop :=
  mask.Includes a ∧ mask.Includes b ∧ flowDir.DrainsTo a b

/-- On the masked tile paths to a cell of the mask stay inside the mask. -/
theorem reflTransGen_masked {maskedFlowDir : FlowDirectionTile .masked} {cell seed : GridCoord}
    (hmask : mask.dims = flowDir.dims) (hdims : maskedFlowDir.dims = flowDir.dims)
    (hget : ∀ cell, flowDir.dims.Holds cell →
      maskedFlowDir.get cell = if mask.contains cell then flowDir.get cell else none)
    (hseed : mask.Includes seed) :
    ReflTransGen maskedFlowDir.DrainsTo cell seed ↔
      mask.Includes cell ∧ ReflTransGen (DrainsInside mask flowDir) cell seed := by
  have hdrains : ∀ a b, maskedFlowDir.DrainsTo a b ↔ mask.Includes a ∧ flowDir.DrainsTo a b := by
    intro a b
    simp only [FlowDirectionTile.drainsTo_iff, hdims, CatchmentMask.Includes, hmask, and_assoc]
    refine and_congr_right fun ha => ?_
    rw [hget a ha]
    cases mask.contains a <;> simp [ha]
  constructor
  · intro h
    induction h using ReflTransGen.head_induction_on with
    | refl => exact ⟨hseed, .refl⟩
    | head hab _ ih =>
      obtain ⟨ha, hab⟩ := (hdrains _ _).mp hab
      exact ⟨ha, ih.2.head ⟨ha, ih.1, hab⟩⟩
  · rintro ⟨-, h⟩
    exact ReflTransGen.mono (fun a b hab => (hdrains a b).mpr ⟨hab.1, hab.2.2⟩) _ _ h

/-- The trace from a seed inside a mask. -/
structure TraceMask (flowDir : FlowDirectionTile .raw) (mask : CatchmentMask) (seed : GridCoord)
    (traced : CatchmentMask) : Prop where
  dims_eq : traced.dims = flowDir.dims
  includes_iff : ∀ cell, traced.Includes cell ↔
    mask.Includes cell ∧ ReflTransGen (DrainsInside mask flowDir) cell seed

theorem traceUpstream_eq_ok_iff {maskedFlowDir : FlowDirectionTile .masked} {seed : GridCoord}
    {traced : CatchmentMask} (hmask : mask.dims = flowDir.dims)
    (hdims : maskedFlowDir.dims = flowDir.dims)
    (hget : ∀ cell, flowDir.dims.Holds cell →
      maskedFlowDir.get cell = if mask.contains cell then flowDir.get cell else none)
    (hseed : mask.Includes seed) :
    traceUpstream seed maskedFlowDir = .ok traced ↔ TraceMask flowDir mask seed traced := by
  have hholds : maskedFlowDir.dims.Holds seed := by
    rw [hdims, ← hmask]
    exact hseed.1
  obtain ⟨traced', htraced', hdims', hiff⟩ := traceUpstream_spec hholds
  simp only [reflTransGen_masked hmask hdims hget hseed] at hiff
  rw [htraced', Except.ok.injEq]
  constructor
  · rintro rfl
    exact ⟨hdims'.trans hdims, hiff⟩
  · intro h
    exact CatchmentMask.ext_includes ((hdims'.trans hdims).trans h.dims_eq.symm) fun cell =>
      (hiff cell).trans (h.includes_iff cell).symm

/-! ### The whole refinement -/

/-- What a successful refinement went through. -/
structure Refined (contains : Polygon → NativeCoord → Bool) (outlet : RasterOutlet)
    (flowDir : FlowDirectionTile .raw) (accumulation : AccumulationTile .raw)
    (thresholdValue : F32) (terminalPolygon : MultiPolygon) (result : RefinementResult)
    (mask traced : CatchmentMask) (seed : GridCoord) : Prop where
  terminal : TerminalMask flowDir terminalPolygon mask
  seedCell : SeedCell outlet flowDir accumulation thresholdValue mask seed
  trace : TraceMask flowDir mask seed traced
  polygonized : polygonize contains traced flowDir.geo = .ok (some result.polygon)
  snappedPoint_eq : result.snappedPoint = seedPoint flowDir accumulation seed
  seedKind_eq : result.seedKind = outlet.seedKind

theorem SeedCell.includes {thresholdValue : F32} {seed : GridCoord}
    (h : SeedCell outlet flowDir accumulation thresholdValue mask seed) : mask.Includes seed := by
  cases outlet with
  | vectorPoint p => exact h.1
  | unitOnly p => exact h.2.1

/-- **Refinement, step by step.** -/
theorem refineTerminal_eq_ok_iff {contains : Polygon → NativeCoord → Bool}
    {result : RefinementResult} :
    refineTerminal outlet flowDir accumulation threshold units epsg contains terminalPolygon
        = .ok result ↔
      d8PairIsCompatible s!"EPSG:{epsg}" units.declaration ∧ Aligned flowDir accumulation ∧
        ∃ mask traced seed, Refined contains outlet flowDir accumulation
          (effectiveThreshold threshold units flowDir.geo) terminalPolygon result mask traced
          seed := by
  simp only [refineTerminal, Checks.bind_eq_ok_iff, terminalMask_eq_ok_iff,
    Checks.mapError_eq_ok_iff, Fault.noErr_eq_ok_iff]
  constructor
  · rintro ⟨mask, ⟨hcompat, haligned, hterminal⟩, seed?, hseed?, maskedFlowDir, hflow, maskedAcc,
      hacc, ⟨snapped, seedKind⟩, hchoose, traced, htrace, polygon?, hpolygon, hresult⟩
    have hmask := hterminal.dims_eq
    -- the masked tiles of the run are those that masking gives
    obtain ⟨_, hflow', hdims, hget⟩ := FlowDirectionTile.applyMask_eq_ok hmask
    obtain rfl := Except.ok.inj (hflow'.symm.trans hflow)
    obtain ⟨_, hacc', hdims', hgeo', hraw⟩ :=
      AccumulationTile.applyMask_eq_ok (hmask.trans haligned.1)
    obtain rfl := Except.ok.inj (hacc'.symm.trans hacc)
    obtain ⟨seed, hseed, rfl, rfl⟩ :=
      (exists_vectorSeed_chooseSeed_iff haligned hmask hdims' hgeo' hraw).mp
        ⟨seed?, hseed?, hchoose⟩
    have htraceMask := (traceUpstream_eq_ok_iff hmask hdims hget hseed.includes).mp htrace
    cases polygon? with
    | none => simp [reject] at hresult
    | some polygon =>
      obtain rfl := Except.ok.inj hresult
      exact ⟨hcompat, haligned, mask, traced, seed, hterminal, hseed, htraceMask, hpolygon, rfl,
        rfl⟩
  · rintro ⟨hcompat, haligned, mask, traced, seed, h⟩
    have hmask := h.terminal.dims_eq
    obtain ⟨maskedFlowDir, hflow, hdims, hget⟩ := FlowDirectionTile.applyMask_eq_ok hmask
    obtain ⟨maskedAcc, hacc, hdims', hgeo', hraw⟩ :=
      AccumulationTile.applyMask_eq_ok (hmask.trans haligned.1)
    obtain ⟨seed?, hseed?, hchoose⟩ :=
      (exists_vectorSeed_chooseSeed_iff haligned hmask hdims' hgeo' hraw).mpr
        ⟨seed, h.seedCell, rfl, rfl⟩
    refine ⟨mask, ⟨hcompat, haligned, h.terminal⟩, seed?, hseed?, maskedFlowDir, hflow, maskedAcc,
      hacc, _, hchoose, traced,
      (traceUpstream_eq_ok_iff hmask hdims hget h.seedCell.includes).mpr h.trace, _,
      h.polygonized, ?_⟩
    obtain ⟨snappedPoint, seedKind, polygon⟩ := result
    exact congrArg Except.ok (by rw [← h.snappedPoint_eq, ← h.seedKind_eq])

/-- What the authority demands of the seed: the one cell that contains a vector point, or the
ranked cell among all cells of the mask that reach the threshold. -/
def SeedRespects (outlet : RasterOutlet) (geo : GeoTransform) (accumulation : GridCoord → F32)
    (thresholdValue : F32) (mask : CatchmentMask) (seed : GridCoord) : Prop :=
  match outlet with
  | .vectorPoint p => geo.CellHolds seed p ∧ ∀ cell, geo.CellHolds cell p → cell = seed
  | .unitOnly p => RankedSeed geo p accumulation thresholdValue mask.Includes seed

/-- The end-to-end law of a refinement: `mask` is the rasterized terminal, and the polygon
rasterizes to `traced`, the cells of `mask` whose directions lead to the seed inside `mask`. The
seed is a cell of the mask that reaches the threshold, and the one the authority demands. -/
structure ExactRefinement (outlet : RasterOutlet) (flowDir : FlowDirectionTile .raw)
    (accumulation : AccumulationTile .raw) (thresholdValue : F32) (terminalPolygon : MultiPolygon)
    (result : RefinementResult) (mask traced : CatchmentMask) : Prop where
  rasterize_terminal :
    rasterizeMultiPolygon terminalPolygon flowDir.geo flowDir.dims = .ok mask.data
  mask_dims : mask.dims = flowDir.dims
  rasterize_polygon :
    rasterizeMultiPolygon result.polygon flowDir.geo flowDir.dims = .ok traced.data
  traced_dims : traced.dims = flowDir.dims
  traced_iff : ∀ cell, traced.Includes cell ↔ mask.Includes cell ∧
    ReflTransGen (DrainsInside mask flowDir) cell result.snappedPoint.cell
  seed_mem : mask.Includes result.snappedPoint.cell
  seed_qualified : Qualified (accumulation.getRaw result.snappedPoint.cell) thresholdValue
  seed_respects : SeedRespects outlet flowDir.geo accumulation.getRaw thresholdValue mask
    result.snappedPoint.cell
  snappedPoint_eq : result.snappedPoint
    = seedPoint flowDir accumulation result.snappedPoint.cell
  seedKind_eq : result.seedKind = outlet.seedKind

/-- **Refinement is exact** whenever it succeeds. -/
theorem refineTerminal_exact {contains : Polygon → NativeCoord → Bool}
    (hcontains : ContainsIsStrict contains) (hgeo : flowDir.geo.Invertible)
    {result : RefinementResult}
    (h : refineTerminal outlet flowDir accumulation threshold units epsg contains terminalPolygon
      = .ok result) :
    ∃ mask traced, ExactRefinement outlet flowDir accumulation
      (effectiveThreshold threshold units flowDir.geo) terminalPolygon result mask traced := by
  obtain ⟨-, -, mask, traced, seed, href⟩ := refineTerminal_eq_ok_iff.mp h
  have hseed : result.snappedPoint.cell = seed := by rw [href.snappedPoint_eq, seedPoint]
  obtain rfl := hseed
  have hin := href.seedCell.includes
  obtain ⟨multiPolygon, hpolygon, hraster⟩ := exists_polygonize_rasterize hcontains hgeo
    ⟨_, (href.trace.includes_iff _).mpr ⟨hin, .refl⟩⟩
  obtain rfl := Option.some.inj (Except.ok.inj (hpolygon.symm.trans href.polygonized))
  rw [href.trace.dims_eq] at hraster
  refine ⟨mask, traced, href.terminal.rasterized, href.terminal.dims_eq, hraster,
    href.trace.dims_eq, href.trace.includes_iff, hin, ?_, ?_, href.snappedPoint_eq,
    href.seedKind_eq⟩
  · have hcell := href.seedCell
    cases outlet with
    | vectorPoint p => exact hcell.2.2.2
    | unitOnly p => exact hcell.2.2.1
  · have hcell := href.seedCell
    cases outlet with
    | vectorPoint p => exact ⟨hcell.2.1, fun cell hholds => hholds.eq hcell.2.1⟩
    | unitOnly p => exact hcell.2

end Steps

/-! ### A refinement -/

/-- A two by two tile whose cells all drain to the lower left one. -/
def smallFlowDir : FlowDirectionTile .raw where
  inner := ⟨[4, 8, 0, 16], 2, 2, 255, .northUp, Nat.two_pos, Nat.two_pos, rfl⟩
  encoding := .esri
  nodata_ne _ h := nomatch h

/-- The accumulations of `smallFlowDir`: one cell each, and four in the lower left one. -/
def smallAccumulation : AccumulationTile .raw where
  inner := ⟨[⟨0x3f800000⟩, ⟨0x3f800000⟩, ⟨0x40800000⟩, ⟨0x3f800000⟩], 2, 2, F32.nan, .northUp,
    Nat.two_pos, Nat.two_pos, rfl⟩

/-- A terminal polygon over the left column. -/
def smallTerminal : MultiPolygon := [Polygon.new [⟨0, 0⟩, ⟨1, 0⟩, ⟨1, -2⟩, ⟨0, -2⟩] []]

theorem refineTerminal_small : ∃ result mask traced,
    refineTerminal (.unitOnly ⟨1 / 2, -1 / 2⟩) smallFlowDir smallAccumulation ⟨2⟩ .cells 8857
      strictContains smallTerminal = .ok result ∧
    ExactRefinement (.unitOnly ⟨1 / 2, -1 / 2⟩) smallFlowDir smallAccumulation
      (effectiveThreshold ⟨2⟩ .cells .northUp) smallTerminal result mask traced := by
  have hok : (refineTerminal (.unitOnly ⟨1 / 2, -1 / 2⟩) smallFlowDir smallAccumulation ⟨2⟩ .cells
      8857 strictContains smallTerminal).isOk = true := by decide +kernel
  obtain ⟨result, h⟩ := Checks.exists_of_isOk hok
  obtain ⟨mask, traced, hexact⟩ := refineTerminal_exact strictContains_isStrict
    (show smallFlowDir.geo.Invertible by decide) h
  exact ⟨result, mask, traced, h, hexact⟩

end WatershedDelineation
