import WatershedDelineation.Raster.PlaneRaster

/-!
# Refinement does not depend on the window

Two coherent windows are windows of one unbounded raster (`CoherentWindows.exists_plane`). Both
refine it, and refinement always returns (`returns_refineTerminal`), so where both cover the
terminal polygon and hold the outlet they give the same outcome or both give an error
(`refineTerminal_window_independent`).
-/

namespace WatershedDelineation

open Relation LatticeRing

/-! ### Refinement returns -/

section Returns

variable {contains : Polygon → NativeCoord → Bool} {outlet : RasterOutlet}
  {flowDir : FlowDirectionTile .raw} {accumulation : AccumulationTile .raw}
  {threshold : SnapThreshold} {units : FlowAccumulationUnits} {epsg : UInt32}
  {terminalPolygon : MultiPolygon} {mask : CatchmentMask}

private theorem exists_foldlM_assignNativeHole (exteriorPolys : List Polygon)
    {holes : List (List NativeCoord)} (hholes : ∀ hole ∈ holes, hole ≠ [])
    (acc : List (List (List NativeCoord))) :
    ∃ result, holes.foldlM (assignNativeHole contains exteriorPolys) acc = .ok result := by
  induction holes generalizing acc with
  | nil => exact ⟨acc, rfl⟩
  | cons hole holes ih =>
    obtain ⟨p, rest, rfl⟩ := List.exists_cons_of_ne_nil (hholes hole (by simp))
    have hassign : ∃ acc', assignNativeHole contains exteriorPolys acc (p :: rest) = .ok acc' := by
      simp only [assignNativeHole]
      split
      · exact ⟨_, rfl⟩
      · exact ⟨_, rfl⟩
    obtain ⟨acc', hacc'⟩ := hassign
    obtain ⟨result, hresult⟩ := ih (fun hole' hmem => hholes hole' (.tail _ hmem)) acc'
    refine ⟨result, ?_⟩
    rw [List.foldlM_cons, hacc']
    exact hresult

/-- Polygonizing returns, whatever the containment test answers. -/
theorem exists_polygonize_eq_ok {geo : GeoTransform} (hgeo : geo.Invertible)
    (mask : CatchmentMask) : ∃ polygon?, polygonize contains mask geo = .ok polygon? := by
  obtain ⟨rings, hrings, h⟩ := exists_boundaryRings mask
  have hne : ∀ hole ∈ rings.map (toGeoCoords · geo), hole ≠ [] := by
    intro hole hhole
    obtain ⟨ring, hring, rfl⟩ := List.mem_map.mp hhole
    obtain ⟨v, d, rest, -, rfl, -⟩ := h.assembled ring hring
    exact List.cons_ne_nil _ _
  rw [polygonize_eq_nativeRings hgeo hrings h]
  simp only [polygonizeNativeRings]
  split_ifs
  · exact ⟨_, rfl⟩
  · obtain ⟨result, hresult⟩ := @exists_foldlM_assignNativeHole contains _ _
      (fun hole hhole => hne hole (List.mem_of_mem_filter hhole)) _
    exact ⟨_, by rw [hresult]; rfl⟩

theorem returns_terminalMask :
    Fault.Returns (terminalMask flowDir accumulation units epsg terminalPolygon) := by
  obtain ⟨data, hdata, hlen, -⟩ := rasterizeMultiPolygon_spec terminalPolygon flowDir.geo
    (show 0 < flowDir.dims.cols from flowDir.inner.cols_pos)
  simp only [terminalMask, hdata, Fault.noErr_ok]
  split_ifs
  · exact Fault.returns_err _
  · exact Fault.returns_err _
  · exact Fault.returns_err _
  · refine (Fault.returns_ok data).bind fun _ h => ?_
    obtain rfl := Except.ok.inj h
    split_ifs
    · exact Fault.returns_err _
    · rw [CatchmentMask.new, dif_pos hlen]
      exact Fault.returns_ok _

theorem returns_vectorSeed :
    Fault.Returns (vectorSeed outlet flowDir accumulation threshold units epsg mask) := by
  cases outlet with
  | unitOnly p => exact Fault.returns_ok _
  | vectorPoint p =>
    simp only [vectorSeed]
    split
    · exact Fault.returns_err _
    · split_ifs
      · exact Fault.returns_err _
      · exact Fault.returns_err _
      · split
        · exact Fault.returns_err _
        · split_ifs
          · exact Fault.returns_err _
          · exact Fault.returns_ok _

/-- The seed that was prepared fits the authority. -/
theorem returns_chooseSeed {maskedAcc : AccumulationTile .masked} {seed : Option SnappedPoint}
    (hmask : mask.dims = flowDir.dims)
    (h : vectorSeed outlet flowDir accumulation threshold units epsg mask = .ok seed) :
    Fault.Returns (chooseSeed outlet threshold units epsg seed maskedAcc) := by
  cases outlet with
  | vectorPoint p =>
    obtain ⟨cell, -, rfl⟩ := (vectorSeed_vectorPoint_eq_ok_iff hmask).mp h
    exact Fault.returns_ok _
  | unitOnly p =>
    obtain rfl := Except.ok.inj h
    exact (Fault.returns_mapError _ _).bind fun _ _ => Fault.returns_ok _

/-- **Refinement returns** a result or an error. -/
theorem returns_refineTerminal (hgeo : flowDir.geo.Invertible) :
    Fault.Returns (refineTerminal outlet flowDir accumulation threshold units epsg contains
      terminalPolygon) := by
  refine returns_terminalMask.bind fun mask hmask => returns_vectorSeed.bind fun seed? hseed? => ?_
  obtain ⟨-, haligned, hterminal⟩ := terminalMask_eq_ok_iff.mp hmask
  have hdims := hterminal.dims_eq
  refine (Fault.returns_mapError _ _).bind fun flow hflow =>
    (Fault.returns_mapError _ _).bind fun acc hacc => ?_
  obtain ⟨maskedFlowDir, hflow', hflowDims, hget⟩ := FlowDirectionTile.applyMask_eq_ok hdims
  obtain ⟨maskedAcc, hacc', haccDims, haccGeo, hraw⟩ :=
    AccumulationTile.applyMask_eq_ok (hdims.trans haligned.1)
  rw [hflow'] at hflow
  rw [hacc'] at hacc
  obtain rfl := Except.ok.inj hflow
  obtain rfl := Except.ok.inj hacc
  refine (returns_chooseSeed hdims hseed?).bind fun ⟨snapped, kind⟩ hchosen => ?_
  obtain ⟨seed, hseed, rfl, -⟩ := (exists_vectorSeed_chooseSeed_iff haligned hdims haccDims haccGeo
    hraw).mp ⟨seed?, hseed?, hchosen⟩
  have hholds : maskedFlowDir.dims.Holds seed := by
    rw [hflowDims, ← hdims]
    exact hseed.includes.1
  obtain ⟨traced, htraced, -⟩ := traceUpstream_spec hholds
  obtain ⟨polygon?, hpolygon⟩ := @exists_polygonize_eq_ok contains flowDir.geo hgeo traced
  simp only [seedPoint, htraced]
  refine (Fault.returns_ok traced).bind fun _ h => ?_
  obtain rfl := Except.ok.inj h
  rw [hpolygon]
  refine (Fault.returns_ok polygon?).bind fun _ h => ?_
  obtain rfl := Except.ok.inj h
  cases polygon? with
  | none => exact Fault.returns_err _
  | some polygon => exact Fault.returns_ok _

end Returns

/-! ### Two windows -/

/-- Windows of one coherent raster pair: the second one's first cell is the cell `(dr, dc)` of the
first, and both have the same values where they overlap. -/
structure CoherentWindows (flowDir₁ : FlowDirectionTile .raw)
    (accumulation₁ : AccumulationTile .raw) (flowDir₂ : FlowDirectionTile .raw)
    (accumulation₂ : AccumulationTile .raw) : Prop where
  aligned₁ : Aligned flowDir₁ accumulation₁
  aligned₂ : Aligned flowDir₂ accumulation₂
  encoding_eq : flowDir₁.encoding = flowDir₂.encoding
  nodata_eq : flowDir₁.inner.nodata = flowDir₂.inner.nodata
  same_grid : ∃ dr dc : ℤ, flowDir₂.geo = flowDir₁.geo.shift (dr, dc) ∧
    ∀ a b : GridCoord, flowDir₁.dims.Holds a → flowDir₂.dims.Holds b →
      (a.row : ℤ) = b.row + dr → (a.col : ℤ) = b.col + dc →
        flowDir₁.inner.get a = flowDir₂.inner.get b ∧
          accumulation₁.getRaw a = accumulation₂.getRaw b

/-- Both refinements give the same outcome, or both give an error. -/
def SameRefinement : Except (Fault RefinementError) RefinementResult →
    Except (Fault RefinementError) RefinementResult → Prop
  | .ok a, .ok b => a.polygon = b.polygon ∧ a.snappedPoint.coord = b.snappedPoint.coord ∧
      a.seedKind = b.seedKind
  | .error (.err _), .error (.err _) => True
  | _, _ => False

section Windows

variable {flowDir₁ flowDir₂ : FlowDirectionTile .raw}
  {accumulation₁ accumulation₂ : AccumulationTile .raw}

/-- The plane cell as a cell of the window at `o`, if it is one. -/
private def inWindow (dims : GridDims) (o p : Point) : Option GridCoord :=
  if 0 ≤ p.1 - o.1 ∧ 0 ≤ p.2 - o.2 ∧ dims.Holds ⟨(p.1 - o.1).toNat, (p.2 - o.2).toNat⟩ then
    some ⟨(p.1 - o.1).toNat, (p.2 - o.2).toNat⟩
  else none

private theorem inWindow_eq_some_iff {dims : GridDims} {o p : Point} {cell : GridCoord} :
    inWindow dims o p = some cell ↔ dims.Holds cell ∧ cell.at o = p := by
  rw [inWindow, Option.ite_none_right_eq_some, Option.some.injEq]
  constructor
  · rintro ⟨⟨hrow, hcol, hcell⟩, rfl⟩
    refine ⟨hcell, ?_⟩
    simp only [GridCoord.at, Int.toNat_of_nonneg hrow, Int.toNat_of_nonneg hcol]
    simp
  · rintro ⟨hcell, rfl⟩
    simpa [GridCoord.at] using hcell

/-- The values of two windows, put together in the plane. -/
private def glue {T : Type} (dims₁ dims₂ : GridDims) (o : Point) (f₁ f₂ : GridCoord → T) (d : T)
    (p : Point) : T :=
  match inWindow dims₁ (0, 0) p, inWindow dims₂ o p with
  | some cell, _ => f₁ cell
  | none, some cell => f₂ cell
  | none, none => d

section Glue

variable {T : Type} {dims₁ dims₂ : GridDims} {o : Point} {f₁ f₂ : GridCoord → T} {d : T}

private theorem glue_left {cell : GridCoord} (hcell : dims₁.Holds cell) :
    glue dims₁ dims₂ o f₁ f₂ d (cell.at (0, 0)) = f₁ cell := by
  rw [glue, inWindow_eq_some_iff.mpr ⟨hcell, rfl⟩]

private theorem glue_right {cell : GridCoord}
    (hoverlap : ∀ a b, dims₁.Holds a → dims₂.Holds b → a.at (0, 0) = b.at o → f₁ a = f₂ b)
    (hcell : dims₂.Holds cell) : glue dims₁ dims₂ o f₁ f₂ d (cell.at o) = f₂ cell := by
  rw [glue, inWindow_eq_some_iff.mpr ⟨hcell, rfl⟩]
  cases h : inWindow dims₁ (0, 0) (cell.at o) with
  | none => rfl
  | some a =>
    obtain ⟨ha, heq⟩ := inWindow_eq_some_iff.mp h
    exact hoverlap a cell ha hcell heq

end Glue

/-- **Coherent windows are windows of one plane raster.** -/
theorem CoherentWindows.exists_plane
    (h : CoherentWindows flowDir₁ accumulation₁ flowDir₂ accumulation₂) :
    ∃ raster o, raster.geo = flowDir₁.geo ∧ PlaneWindow raster (0, 0) flowDir₁ accumulation₁ ∧
      PlaneWindow raster o flowDir₂ accumulation₂ := by
  obtain ⟨dr, dc, hgeo, hoverlap⟩ := h.same_grid
  have hvalues : ∀ a b : GridCoord, flowDir₁.dims.Holds a → flowDir₂.dims.Holds b →
      a.at (0, 0) = b.at (dr, dc) → flowDir₁.inner.get a = flowDir₂.inner.get b ∧
        accumulation₁.getRaw a = accumulation₂.getRaw b := by
    intro a b ha hb heq
    obtain ⟨hrow, hcol⟩ := Prod.mk.inj heq
    exact hoverlap a b ha hb (by omega) (by omega)
  refine ⟨⟨flowDir₁.geo, glue flowDir₁.dims flowDir₂.dims (dr, dc) flowDir₁.get flowDir₂.get none,
    glue flowDir₁.dims flowDir₂.dims (dr, dc) flowDir₁.decodedCell flowDir₂.decodedCell none,
    glue flowDir₁.dims flowDir₂.dims (dr, dc) accumulation₁.getRaw accumulation₂.getRaw F32.nan⟩,
    (dr, dc), rfl, ⟨h.aligned₁, ?_, fun cell hcell => ?_, fun cell hcell => ?_,
      fun cell hcell => ?_⟩, h.aligned₂, hgeo, fun cell hcell => ?_, fun cell hcell => ?_,
      fun cell hcell => ?_⟩
  · simp [GeoTransform.shift]
  · exact (glue_left hcell).symm
  · exact (glue_left hcell).symm
  · exact (glue_left hcell).symm
  · refine (glue_right (fun a b ha hb heq => ?_) hcell).symm
    rw [FlowDirectionTile.get, FlowDirectionTile.get, (hvalues a b ha hb heq).1, h.encoding_eq]
  · refine (glue_right (fun a b ha hb heq => ?_) hcell).symm
    simp only [FlowDirectionTile.decodedCell, (hvalues a b ha hb heq).1, h.encoding_eq,
      h.nodata_eq]
  · exact (glue_right (fun a b ha hb heq => (hvalues a b ha hb heq).2) hcell).symm

variable {contains : Polygon → NativeCoord → Bool} {outlet : RasterOutlet}
  {threshold : SnapThreshold} {units : FlowAccumulationUnits} {epsg : UInt32}
  {terminalPolygon : MultiPolygon}

/-- **Refinement does not depend on the window.** -/
theorem refineTerminal_window_independent
    (hcoherent : CoherentWindows flowDir₁ accumulation₁ flowDir₂ accumulation₂)
    (hgeo : flowDir₁.geo.Invertible)
    (hcovers₁ : CoversTerminal flowDir₁.geo flowDir₁.dims terminalPolygon)
    (hcovers₂ : CoversTerminal flowDir₂.geo flowDir₂.dims terminalPolygon)
    (houtlet₁ : ∃ cell, flowDir₁.dims.Holds cell ∧ flowDir₁.geo.CellHolds cell outlet.point)
    (houtlet₂ : ∃ cell, flowDir₂.dims.Holds cell ∧ flowDir₂.geo.CellHolds cell outlet.point) :
    SameRefinement
      (refineTerminal outlet flowDir₁ accumulation₁ threshold units epsg contains terminalPolygon)
      (refineTerminal outlet flowDir₂ accumulation₂ threshold units epsg contains
        terminalPolygon) := by
  obtain ⟨raster, o, hraster, hwindow₁, hwindow₂⟩ := hcoherent.exists_plane
  have hgeo₂ : flowDir₂.geo.Invertible := by
    rw [hwindow₂.geo_eq, GeoTransform.invertible_shift, hraster]
    exact hgeo
  rw [← hraster] at hgeo
  -- both windows are of one raster, and each computes what the raster determines
  have hiff : ∀ outcome,
      (∃ result, refineTerminal outlet flowDir₁ accumulation₁ threshold units epsg contains
        terminalPolygon = .ok result ∧ result.outcome = outcome) ↔
      ∃ result, refineTerminal outlet flowDir₂ accumulation₂ threshold units epsg contains
        terminalPolygon = .ok result ∧ result.outcome = outcome := fun outcome =>
    (hwindow₁.exists_refineTerminal_iff hgeo hcovers₁ houtlet₁).trans
      (hwindow₂.exists_refineTerminal_iff hgeo hcovers₂ houtlet₂).symm
  have hreturns₁ := @returns_refineTerminal contains outlet flowDir₁ accumulation₁ threshold units
    epsg terminalPolygon (hraster ▸ hgeo)
  have hreturns₂ := @returns_refineTerminal contains outlet flowDir₂ accumulation₂ threshold units
    epsg terminalPolygon hgeo₂
  generalize refineTerminal outlet flowDir₁ accumulation₁ threshold units epsg contains
    terminalPolygon = run₁ at hiff hreturns₁ ⊢
  generalize refineTerminal outlet flowDir₂ accumulation₂ threshold units epsg contains
    terminalPolygon = run₂ at hiff hreturns₂ ⊢
  match run₁, run₂ with
  | .ok a, .ok b =>
    obtain ⟨b', hb', houtcome⟩ := (hiff _).mp ⟨a, rfl, rfl⟩
    obtain rfl := Except.ok.inj hb'
    obtain ⟨hpolygon, hcoord, hkind⟩ := RefinementOutcome.mk.inj houtcome
    exact ⟨hpolygon.symm, hcoord.symm, hkind.symm⟩
  | .ok a, .error f =>
    obtain ⟨b, hb, -⟩ := (hiff _).mp ⟨a, rfl, rfl⟩
    simp at hb
  | .error f, .ok b =>
    obtain ⟨a, ha, -⟩ := (hiff _).mpr ⟨b, rfl, rfl⟩
    simp at ha
  | .error f, .error f' =>
    obtain ⟨e, rfl⟩ := hreturns₁ f rfl
    obtain ⟨e', rfl⟩ := hreturns₂ f' rfl
    trivial

/-- The tile of `smallFlowDir` with a margin above and to its left. -/
def wideFlowDir : FlowDirectionTile .raw where
  inner := ⟨[255, 255, 255, 255, 4, 8, 255, 0, 16], 3, 3, 255, ⟨-1, 1, 1, -1⟩, by decide,
    by decide, rfl⟩
  encoding := .esri
  nodata_ne _ h := nomatch h

/-- The accumulations of `wideFlowDir`. -/
def wideAccumulation : AccumulationTile .raw where
  inner := ⟨[F32.nan, F32.nan, F32.nan, F32.nan, ⟨0x3f800000⟩, ⟨0x3f800000⟩, F32.nan,
    ⟨0x40800000⟩, ⟨0x3f800000⟩], 3, 3, F32.nan, ⟨-1, 1, 1, -1⟩, by decide, by decide, rfl⟩

theorem coherentWindows_small_wide :
    CoherentWindows smallFlowDir smallAccumulation wideFlowDir wideAccumulation where
  aligned₁ := ⟨rfl, rfl⟩
  aligned₂ := ⟨rfl, rfl⟩
  encoding_eq := rfl
  nodata_eq := rfl
  same_grid := by
    refine ⟨-1, -1, by decide +kernel, fun a b ha hb hrow hcol => ?_⟩
    obtain ⟨r, c⟩ := a
    obtain ⟨hr, hc⟩ : r < 2 ∧ c < 2 := ha
    obtain rfl : b = ⟨r + 1, c + 1⟩ := by
      cases b
      simp only [GridCoord.mk.injEq] at *
      omega
    obtain rfl | rfl : r = 0 ∨ r = 1 := by omega
    all_goals
      obtain rfl | rfl : c = 0 ∨ c = 1 := by omega
      · exact ⟨rfl, rfl⟩
      · exact ⟨rfl, rfl⟩

theorem refineTerminal_small_wide : SameRefinement
    (refineTerminal (.unitOnly ⟨1 / 2, -1 / 2⟩) smallFlowDir smallAccumulation ⟨2⟩ .cells 8857
      strictContains smallTerminal)
    (refineTerminal (.unitOnly ⟨1 / 2, -1 / 2⟩) wideFlowDir wideAccumulation ⟨2⟩ .cells 8857
      strictContains smallTerminal) :=
  refineTerminal_window_independent coherentWindows_small_wide (by decide)
    (by decide +kernel) (by decide +kernel)
    ⟨⟨0, 0⟩, by decide, by decide +kernel⟩ ⟨⟨1, 1⟩, by decide, by decide +kernel⟩

end Windows

end WatershedDelineation
