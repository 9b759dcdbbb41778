import WatershedDelineation.Engine.D8Selection
import WatershedDelineation.Raster.WindowIndependence

/-!
# Refining a terminal from declared rasters

`D8RasterRefinementStrategy` of `refinement.rs`: select a raster pair, read a window of each raster,
refine the projected terminal in the windows, and project the result back.

Where several pairs cover a terminal, the first one is taken. That is sound where they are windows
of one raster, since what is refined is then determined by that raster
(`refineTerminal_applied_iff`) and not by the order of the declarations
(`d8RasterRefinementStrategy_perm`). The projection, the reading of windows and the containment
test are parameters.
-/

namespace WatershedDelineation

/-! ### Reading windows -/

/-- Errors of reading a raster window. -/
inductive RasterSourceError
  | fileNotFound (path : String)
  | openFailed (path reason : String)
  | readFailed (path reason : String)
  | emptyWindow (path : String)
  | tileConstruction (reason : String)
  | invalidFlowDirectionNodata (nodata : UInt8) (encoding : FlowDirEncoding)
  deriving DecidableEq, Repr

/-- Loads the tiles of raster windows. -/
structure RasterSource where
  loadFlowDirection :
    String → Rect → FlowDirEncoding → Except RasterSourceError (FlowDirectionTile .raw)
  loadAccumulation : String → Rect → Except RasterSourceError (AccumulationTile .raw)

/-- Errors of refinement with the loader and the projection around it. -/
inductive SourceRefinementError
  | refinement (source : RefinementError)
  | degenerateTerminalPolygon
  | rasterLoad (source : RasterSourceError)
  | inverseProjection (epsg : ℕ) (source : ProjectionError)
  deriving DecidableEq, Repr

/-- Load raster tiles and refine a terminal polygon. -/
def refineTerminalFromSource (contains : Polygon → NativeCoord → Bool) (source : RasterSource)
    (flowDirUri flowAccUri : String) (terminalPolygon : MultiPolygon) (outlet : RasterOutlet)
    (threshold : SnapThreshold) (units : FlowAccumulationUnits) (epsg : UInt32)
    (encoding : FlowDirEncoding) : Except (Fault SourceRefinementError) RefinementResult := do
  let bbox ← Checked.orErr (boundingRect terminalPolygon) .degenerateTerminalPolygon
  let flowDir ← (source.loadFlowDirection flowDirUri bbox encoding).mapError fun e =>
    .err (.rasterLoad e)
  let accumulation ← (source.loadAccumulation flowAccUri bbox).mapError fun e =>
    .err (.rasterLoad e)
  (refineTerminal outlet flowDir accumulation threshold units epsg contains
    terminalPolygon).mapError (Fault.map .refinement)

/-! ### The decision -/

/-- Outlet authority narrowed to the coordinate that refinement needs. -/
inductive OutletAuthority
  /-- A vector feature chose this point. -/
  | vectorPoint (coord : NativeCoord)
  /-- Containment chose only a unit. -/
  | unitOnly (coord : NativeCoord)
  deriving DecidableEq, Repr

/-- What is refined. -/
structure TerminalRefinementInput where
  terminalUnit : UnitId
  terminalGeometry : MultiPolygon
  outletAuthority : OutletAuthority
  snapThreshold : SnapThreshold

/-- A refined terminal polygon, which is not empty. -/
structure ContainedTerminalPolygon where
  polygon : MultiPolygon
  nonempty : polygon ≠ []

inductive RefinementStrategyName
  | builtInD8
  | bestEffortD8IfPresent
  deriving DecidableEq, Repr

/-- Reasons an applied refinement ran. -/
inductive AppliedRefinementReason
  | vectorOutletQuantized (declarationIndex : ℕ)
  | rasterOutletRanked (declarationIndex : ℕ)
  deriving DecidableEq, Repr

structure AppliedRefinementProvenance where
  strategy : RefinementStrategyName
  why : AppliedRefinementReason
  deriving DecidableEq, Repr

/-- Where a skipped refinement failed. -/
inductive BestEffortSkipSource
  | d8Selection
  | rasterLocalization
  | rasterLoad
  | refinementAlgorithm
  | containedTerminalGeometry
  | rasterSource
  deriving DecidableEq, Repr

/-- Reasons best-effort refinement skipped. -/
inductive BestEffortSkipReason
  | noD8AuxDeclared
  | coarseUnitOnlyNoD8AuxDeclared
  | unreadableD8AuxDeclared (schema : String)
  | noRasterSourceProvided
  | vectorOutletGuardFailed (failure : VectorOutletGuardFailure)
  | availability (source : BestEffortSkipSource) (diagnostic : String)
  | misDeclaration (source : BestEffortSkipSource) (diagnostic : String)
  | dataGeometryIntegrity (source : BestEffortSkipSource) (diagnostic : String)
  deriving DecidableEq, Repr

structure BestEffortRefinementProvenance where
  strategy : RefinementStrategyName
  why : BestEffortSkipReason
  deriving DecidableEq, Repr

/-- What a strategy decides. -/
inductive TerminalRefinementDecision
  | applied (refinedOutlet : NativeCoord) (geometry : ContainedTerminalPolygon)
    (provenance : AppliedRefinementProvenance)
  | bestEffortSkipped (provenance : BestEffortRefinementProvenance)

/-- Errors of a refinement strategy. -/
inductive TerminalRefinementError
  | emptyContainedTerminalGeometry
  | rasterSource (unitId : Int) (strategy : RefinementStrategyName)
  | d8Selection (unitId : Int) (source : D8SessionError)
  | rasterLocalize (unitId : Int) (kind : RasterKind) (source : D8SessionError)
  | algorithm (unitId : Int) (source : SourceRefinementError)
  deriving DecidableEq, Repr

/-- Wrap a carved polygon. -/
def ContainedTerminalPolygon.newUncheckedFromD8Carve (polygon : MultiPolygon) :
    Except TerminalRefinementError ContainedTerminalPolygon :=
  if h : polygon = [] then .error .emptyContainedTerminalGeometry else .ok ⟨polygon, h⟩

/-! ### The strategy -/

def D8RasterHandle.selectedUri (handle : D8RasterHandle) : RasterKind → String
  | .flowDir => handle.flowDirUri
  | .flowAcc => handle.flowAccUri

def D8RasterHandle.selectedRemotePath (handle : D8RasterHandle) : RasterKind → Option String
  | .flowDir => handle.remoteFlowDirPath
  | .flowAcc => handle.remoteFlowAccPath

/-- What the strategy works with: the session, the cache of raster windows that it fetches with,
and the source of raster tiles. -/
structure D8RefinementPantry where
  session : D8Session
  getOrFetchWindow : String → RasterKind → Rect → Except CacheError String
  rasterSource : Option RasterSource

/-- A local path for a window of a selected raster. -/
def D8RefinementPantry.localizeD8RasterWindow (pantry : D8RefinementPantry)
    (handle : D8RasterHandle) (kind : RasterKind) (bbox : Rect) : Except D8SessionError String :=
  match pantry.session.remoteRoot with
  | some _ => do
    let remotePath ← Checks.okOr (handle.selectedRemotePath kind)
      (.integrityViolation "selected D8 handle has no remote object-store path")
    (pantry.getOrFetchWindow remotePath kind bbox).mapError .cache
  | none => .ok (handle.selectedUri kind)

section Strategy

variable (equalEarth : EqualEarth) (contains : Polygon → NativeCoord → Bool)

/-- Project a ring back. -/
def inverseRing (crs : Crs) (ring : List NativeCoord) : Except ProjectionError (List NativeCoord) :=
  ring.mapM (equalEarth.inverseFrom crs)

/-- Project a refined terminal back. -/
def inverseTerminal (terminal : MultiPolygon) (crs : Crs) : Except ProjectionError MultiPolygon :=
  terminal.mapM fun polygon => do
    let exterior ← inverseRing equalEarth crs polygon.exterior
    let interiors ← polygon.interiors.mapM (inverseRing equalEarth crs)
    .ok (.new exterior interiors)

/-- The outlet in the coordinates of the rasters. -/
def OutletAuthority.nativeOutlet (crs : Crs) : OutletAuthority → RasterOutlet
  | .vectorPoint vectorCoord => .vectorPoint (equalEarth.forwardTo crs vectorCoord)
  | .unitOnly inputCoord => .unitOnly (equalEarth.forwardTo crs inputCoord)

/-- The applied reason of a seed rule. -/
def RasterSeedKind.appliedReason (declarationIndex : ℕ) : RasterSeedKind → AppliedRefinementReason
  | .vectorQuantized => .vectorOutletQuantized declarationIndex
  | .rasterRanked => .rasterOutletRanked declarationIndex

variable (input : TerminalRefinementInput) (pantry : D8RefinementPantry)

/-- Read the windows of the selected rasters and refine the projected terminal in them. -/
def refineSelected (rasterSource : RasterSource) (handle : D8RasterHandle)
    (nativeTerminal : MultiPolygon) (nativeBbox : Rect) :
    Except (Fault TerminalRefinementError) RefinementResult := do
  let unitId := input.terminalUnit.raw
  let flowDirUri ← (pantry.localizeD8RasterWindow handle .flowDir nativeBbox).mapError fun source =>
    .err (.rasterLocalize unitId .flowDir source)
  let flowAccUri ← (pantry.localizeD8RasterWindow handle .flowAcc nativeBbox).mapError fun source =>
    .err (.rasterLocalize unitId .flowAcc source)
  (refineTerminalFromSource contains rasterSource flowDirUri flowAccUri nativeTerminal
    (input.outletAuthority.nativeOutlet equalEarth handle.projectionCrs) input.snapThreshold
    handle.metadata.flowAccUnits (.ofNat handle.epsg) handle.metadata.flowDirEncoding).mapError
      (Fault.map (.algorithm unitId))

/-- Project a refined terminal back, with its provenance. -/
def appliedDecision (handle : D8RasterHandle) (result : RefinementResult) :
    Except (Fault TerminalRefinementError) TerminalRefinementDecision := do
  let unitId := input.terminalUnit.raw
  let refinedOutlet ← (equalEarth.inverseFrom handle.projectionCrs
    result.snappedPoint.coord).mapError fun source =>
      .err (.algorithm unitId (.inverseProjection handle.epsg source))
  let geographicPolygon ← (inverseTerminal equalEarth result.polygon
    handle.projectionCrs).mapError fun source =>
      .err (.algorithm unitId (.inverseProjection handle.epsg source))
  let geometry ← (ContainedTerminalPolygon.newUncheckedFromD8Carve geographicPolygon).mapError
    fun _ => .err (.algorithm unitId (.refinement .emptyPolygonization))
  .ok (.applied refinedOutlet geometry
    ⟨.builtInD8, result.seedKind.appliedReason handle.declarationIndex⟩)

/-- Refine a terminal from the first declared raster pair that covers it. -/
def d8RasterRefinementStrategy :
    Except (Fault TerminalRefinementError) TerminalRefinementDecision := do
  let unitId := input.terminalUnit.raw
  let _ ← Checked.orErr (boundingRect input.terminalGeometry)
    (.algorithm unitId .degenerateTerminalPolygon)
  let (handle, nativeTerminal) ← (pantry.session.selectD8RasterForTerminal equalEarth
    input.terminalGeometry).mapError fun source => .err (.d8Selection unitId source)
  let nativeBbox ← Checked.orErr (boundingRect nativeTerminal)
    (.algorithm unitId .degenerateTerminalPolygon)
  match pantry.rasterSource with
  | none => .ok (.bestEffortSkipped ⟨.bestEffortD8IfPresent, .noRasterSourceProvided⟩)
  | some rasterSource => do
    let result ← refineSelected equalEarth contains input pantry rasterSource handle nativeTerminal
      nativeBbox
    appliedDecision equalEarth input handle result

end Strategy

/-! ### Windows of one raster -/

/-- What is read for a handle are windows of a raster. They cover the terminal and hold the outlet,
both in the coordinates of the raster. -/
def D8RefinementPantry.OpensWindow (pantry : D8RefinementPantry) (rasterSource : RasterSource)
    (raster : PlaneRaster) (terminal : MultiPolygon) (outlet : RasterOutlet)
    (handle : D8RasterHandle) : Prop :=
  ∀ box, boundingRect terminal = some box → ∃ flowDirUri flowAccUri flowDir accumulation o,
    pantry.localizeD8RasterWindow handle .flowDir box = .ok flowDirUri ∧
    pantry.localizeD8RasterWindow handle .flowAcc box = .ok flowAccUri ∧
    rasterSource.loadFlowDirection flowDirUri box handle.metadata.flowDirEncoding = .ok flowDir ∧
    rasterSource.loadAccumulation flowAccUri box = .ok accumulation ∧
    PlaneWindow raster o flowDir accumulation ∧
    CoversTerminal flowDir.geo flowDir.dims terminal ∧
    ∃ cell, flowDir.dims.Holds cell ∧ flowDir.geo.CellHolds cell outlet.point

/-- The covering declarations are windows of one raster. -/
structure CoherentFabric (equalEarth : EqualEarth) (input : TerminalRefinementInput)
    (pantry : D8RefinementPantry) (rasterSource : RasterSource) (raster : PlaneRaster) (crs : Crs)
    (epsg : ℕ) (units : FlowAccumulationUnits) : Prop where
  invertible : raster.geo.Invertible
  declared : ∀ decl ∈ pantry.session.d8Rasters,
    pantry.session.Covers equalEarth input.terminalGeometry decl →
      d8Crs decl.metadata.crs = .ok (crs, epsg) ∧ decl.metadata.flowAccUnits = units
  opens : ∀ decl ∈ pantry.session.d8Rasters,
    pantry.session.Covers equalEarth input.terminalGeometry decl → ∀ index,
      pantry.OpensWindow rasterSource raster (projectTerminal equalEarth input.terminalGeometry crs)
        (input.outletAuthority.nativeOutlet equalEarth crs)
        (pantry.session.d8Handle index decl crs epsg)

/-- A refinement in the plane, projected back. -/
def FabricRefined (equalEarth : EqualEarth) (contains : Polygon → NativeCoord → Bool)
    (input : TerminalRefinementInput) (raster : PlaneRaster) (crs : Crs) (epsg : ℕ)
    (units : FlowAccumulationUnits) (refinedOutlet : NativeCoord) (geometry : MultiPolygon) :
    Prop :=
  d8PairIsCompatible s!"EPSG:{UInt32.ofNat epsg}" units.declaration ∧ ∃ outcome,
    PlaneRefined contains raster (input.outletAuthority.nativeOutlet equalEarth crs)
      (effectiveThreshold input.snapThreshold units raster.geo)
      (projectTerminal equalEarth input.terminalGeometry crs) outcome ∧
    equalEarth.inverseFrom crs outcome.coord = .ok refinedOutlet ∧
    inverseTerminal equalEarth outcome.polygon crs = .ok geometry

section Coherent

variable {equalEarth : EqualEarth} {contains : Polygon → NativeCoord → Bool}
  {input : TerminalRefinementInput} {pantry : D8RefinementPantry} {rasterSource : RasterSource}
  {raster : PlaneRaster} {crs : Crs} {epsg index : ℕ} {units : FlowAccumulationUnits}
  {decl : D8RasterDeclaration} {handle : D8RasterHandle} {result : RefinementResult}
  {refinedOutlet : NativeCoord} {geometry : ContainedTerminalPolygon}
  {provenance : AppliedRefinementProvenance}

@[simp] theorem D8Session.projectionCrs_d8Handle {session : D8Session} :
    (session.d8Handle index decl crs epsg).projectionCrs = crs := by
  rw [d8Handle]
  split <;> rfl

@[simp] theorem D8Session.epsg_d8Handle {session : D8Session} :
    (session.d8Handle index decl crs epsg).epsg = epsg := by
  rw [d8Handle]
  split <;> rfl

@[simp] theorem D8Session.metadata_d8Handle {session : D8Session} :
    (session.d8Handle index decl crs epsg).metadata = decl.metadata := by
  rw [d8Handle]
  split <;> rfl

@[simp] theorem D8Session.declarationIndex_d8Handle {session : D8Session} :
    (session.d8Handle index decl crs epsg).declarationIndex = index := by
  rw [d8Handle]
  split <;> rfl

/-- Refinement from the windows of a handle returns, and computes what the raster determines. -/
theorem refineSelected_spec {terminal : MultiPolygon} {box : Rect}
    (hinvertible : raster.geo.Invertible) (hbox : boundingRect terminal = some box)
    (hopens : pantry.OpensWindow rasterSource raster terminal
      (input.outletAuthority.nativeOutlet equalEarth handle.projectionCrs) handle) :
    Fault.Returns (refineSelected equalEarth contains input pantry rasterSource handle terminal
      box) ∧
    ∀ outcome, (∃ result, refineSelected equalEarth contains input pantry rasterSource handle
        terminal box = .ok result ∧ result.outcome = outcome) ↔
      d8PairIsCompatible s!"EPSG:{UInt32.ofNat handle.epsg}"
          handle.metadata.flowAccUnits.declaration ∧
        PlaneRefined contains raster
          (input.outletAuthority.nativeOutlet equalEarth handle.projectionCrs)
          (effectiveThreshold input.snapThreshold handle.metadata.flowAccUnits raster.geo) terminal
          outcome := by
  obtain ⟨flowDirUri, flowAccUri, flowDir, accumulation, o, hdirUri, haccUri, hdir, hacc, hwindow,
    hcovers, houtlet⟩ := hopens box hbox
  have hgeo : flowDir.geo.Invertible := by
    rw [hwindow.geo_eq, GeoTransform.invertible_shift]
    exact hinvertible
  have hrun : refineSelected equalEarth contains input pantry rasterSource handle terminal box
      = ((refineTerminal (input.outletAuthority.nativeOutlet equalEarth handle.projectionCrs)
          flowDir accumulation input.snapThreshold handle.metadata.flowAccUnits
          (.ofNat handle.epsg) contains terminal).mapError (Fault.map .refinement)).mapError
            (Fault.map (.algorithm input.terminalUnit.raw)) := by
    rw [refineSelected, hdirUri, haccUri]
    change (refineTerminalFromSource _ _ _ _ _ _ _ _ _ _).mapError _ = _
    rw [refineTerminalFromSource, hbox, Checked.orErr_some, Checks.ok_bind, hdir, hacc]
    rfl
  constructor
  · rw [hrun]
    intro f hf
    obtain ⟨f', hf', rfl⟩ := Checks.mapError_eq_error_iff.mp hf
    obtain ⟨f'', hf'', rfl⟩ := Checks.mapError_eq_error_iff.mp hf'
    obtain ⟨e, rfl⟩ := returns_refineTerminal hgeo f'' hf''
    exact ⟨_, rfl⟩
  · intro outcome
    rw [← hwindow.exists_refineTerminal_iff hinvertible hcovers houtlet]
    simp only [hrun, Checks.mapError_eq_ok_iff]

theorem returns_appliedDecision : Fault.Returns (appliedDecision equalEarth input handle result) :=
  (Fault.returns_mapError _ _).bind fun _ _ => (Fault.returns_mapError _ _).bind fun _ _ =>
    (Fault.returns_mapError _ fun _ => _).bind fun _ _ => Fault.returns_ok _

theorem appliedDecision_eq_ok_iff {decision : TerminalRefinementDecision} :
    appliedDecision equalEarth input handle result = .ok decision ↔
      ∃ refinedOutlet geometry, decision = .applied refinedOutlet geometry
          ⟨.builtInD8, result.seedKind.appliedReason handle.declarationIndex⟩ ∧
        equalEarth.inverseFrom handle.projectionCrs result.snappedPoint.coord = .ok refinedOutlet ∧
        inverseTerminal equalEarth result.polygon handle.projectionCrs = .ok geometry.polygon := by
  simp only [appliedDecision, Checks.bind_eq_ok_iff, Checks.mapError_eq_ok_iff, Except.ok.injEq]
  constructor
  · rintro ⟨refinedOutlet, houtlet, polygon, hpolygon, geometry, hgeometry, rfl⟩
    refine ⟨refinedOutlet, geometry, rfl, houtlet, ?_⟩
    rw [ContainedTerminalPolygon.newUncheckedFromD8Carve] at hgeometry
    split_ifs at hgeometry
    obtain rfl := Except.ok.inj hgeometry
    exact hpolygon
  · rintro ⟨refinedOutlet, geometry, rfl, houtlet, hpolygon⟩
    refine ⟨refinedOutlet, houtlet, geometry.polygon, hpolygon, geometry, ?_, rfl⟩
    rw [ContainedTerminalPolygon.newUncheckedFromD8Carve, dif_neg geometry.nonempty]

/-- The strategy with a source of raster tiles. -/
theorem d8RasterRefinementStrategy_eq (hvertices : exteriorVertices input.terminalGeometry ≠ [])
    (hsource : pantry.rasterSource = some rasterSource) :
    d8RasterRefinementStrategy equalEarth contains input pantry =
      ((pantry.session.selectD8RasterForTerminal equalEarth input.terminalGeometry).mapError
        fun source => Fault.err (.d8Selection input.terminalUnit.raw source)) >>= fun selected =>
          Checked.orErr (boundingRect selected.2)
            (.algorithm input.terminalUnit.raw .degenerateTerminalPolygon) >>= fun box =>
              refineSelected equalEarth contains input pantry rasterSource selected.1 selected.2 box
                >>= appliedDecision equalEarth input selected.1 := by
  have hbounds : boundingRect input.terminalGeometry ≠ none :=
    mt boundingRect_eq_none_iff.mp hvertices
  obtain ⟨box, hbox⟩ := Option.ne_none_iff_exists'.mp hbounds
  rw [d8RasterRefinementStrategy, hbox, hsource]
  rfl

/-- Declarations of a coherent fabric select the same coordinates. -/
theorem CoherentFabric.selectD8RasterForTerminal_eq_ok_iff
    (hfabric : CoherentFabric equalEarth input pantry rasterSource raster crs epsg units)
    (hvertices : exteriorVertices input.terminalGeometry ≠ [])
    {selected : D8RasterHandle × MultiPolygon} :
    pantry.session.selectD8RasterForTerminal equalEarth input.terminalGeometry = .ok selected ↔
      (∀ decl ∈ pantry.session.d8Rasters,
        pantry.session.Readable equalEarth input.terminalGeometry decl) ∧
      ∃ before decl after, pantry.session.d8Rasters = before ++ decl :: after ∧
        (∀ d ∈ before, ¬pantry.session.Covers equalEarth input.terminalGeometry d) ∧
        pantry.session.Covers equalEarth input.terminalGeometry decl ∧
        selected = (pantry.session.d8Handle before.length decl crs epsg,
          projectTerminal equalEarth input.terminalGeometry crs) := by
  rw [D8Session.selectD8RasterForTerminal_eq_ok_iff hvertices]
  refine and_congr_right fun _ => exists_congr fun before => exists_congr fun decl =>
    exists_congr fun after => and_congr_right fun hsplit => and_congr_right fun _ =>
      and_congr_right fun hcovers => ?_
  have hcrs := (hfabric.declared decl (by simp [hsplit]) hcovers).1
  constructor
  · rintro ⟨crs', epsg', hcrs', rfl⟩
    obtain ⟨rfl, rfl⟩ := Prod.mk.inj (Except.ok.inj (hcrs.symm.trans hcrs'))
    rfl
  · rintro rfl
    exact ⟨crs, epsg, hcrs, rfl⟩

/-- **What the strategy decides.** On a coherent fabric, a terminal is refined as the raster of the
fabric determines, if all declarations can be read and one of them covers the terminal. -/
theorem refineTerminal_applied_iff
    (hfabric : CoherentFabric equalEarth input pantry rasterSource raster crs epsg units)
    (hvertices : exteriorVertices input.terminalGeometry ≠ [])
    (hsource : pantry.rasterSource = some rasterSource) {decision : TerminalRefinementDecision} :
    d8RasterRefinementStrategy equalEarth contains input pantry = .ok decision ↔
      (∀ decl ∈ pantry.session.d8Rasters,
        pantry.session.Readable equalEarth input.terminalGeometry decl) ∧
      ∃ before decl after, pantry.session.d8Rasters = before ++ decl :: after ∧
        (∀ d ∈ before, ¬pantry.session.Covers equalEarth input.terminalGeometry d) ∧
        pantry.session.Covers equalEarth input.terminalGeometry decl ∧
        ∃ refinedOutlet geometry, decision = .applied refinedOutlet geometry
            ⟨.builtInD8, (input.outletAuthority.nativeOutlet equalEarth crs).seedKind.appliedReason
              before.length⟩ ∧
          FabricRefined equalEarth contains input raster crs epsg units refinedOutlet
            geometry.polygon := by
  have hbox : ∃ box, boundingRect (projectTerminal equalEarth input.terminalGeometry crs)
      = some box :=
    (D8Session.exists_boundingRect hvertices crs).imp fun _ => And.left
  obtain ⟨box, hbox⟩ := hbox
  rw [d8RasterRefinementStrategy_eq hvertices hsource]
  simp only [Checks.bind_eq_ok_iff, Checks.mapError_eq_ok_iff,
    hfabric.selectD8RasterForTerminal_eq_ok_iff hvertices, Checked.orErr_eq_ok_iff,
    appliedDecision_eq_ok_iff]
  constructor
  · rintro ⟨_, ⟨hreadable, before, decl, after, hsplit, hbefore, hcovers, rfl⟩, box', hbox',
      result, hresult, refinedOutlet, geometry, rfl, houtlet, hpolygon⟩
    have hmem : decl ∈ pantry.session.d8Rasters := by simp [hsplit]
    obtain rfl := Option.some.inj (hbox.symm.trans hbox')
    have hspec := (@refineSelected_spec equalEarth contains input pantry rasterSource raster
      (pantry.session.d8Handle before.length decl crs epsg) _ box hfabric.invertible hbox
      (by simpa using hfabric.opens decl hmem hcovers before.length)).2 result.outcome
    obtain ⟨hcompat, hrefined⟩ := hspec.mp ⟨result, hresult, rfl⟩
    simp only [D8Session.projectionCrs_d8Handle, D8Session.epsg_d8Handle,
      D8Session.metadata_d8Handle, D8Session.declarationIndex_d8Handle,
      (hfabric.declared decl hmem hcovers).2] at hcompat hrefined houtlet hpolygon ⊢
    have hkind :
        result.seedKind = (input.outletAuthority.nativeOutlet equalEarth crs).seedKind := by
      obtain ⟨-, -, -, -, -, -, -, hkind⟩ := hrefined
      exact hkind
    rw [hkind]
    exact ⟨hreadable, before, decl, after, hsplit, hbefore, hcovers, refinedOutlet, geometry, rfl,
      hcompat, result.outcome, hrefined, houtlet, hpolygon⟩
  · rintro ⟨hreadable, before, decl, after, hsplit, hbefore, hcovers, refinedOutlet, geometry, rfl,
      hcompat, outcome, hrefined, houtlet, hpolygon⟩
    have hmem : decl ∈ pantry.session.d8Rasters := by simp [hsplit]
    have hspec := (@refineSelected_spec equalEarth contains input pantry rasterSource raster
      (pantry.session.d8Handle before.length decl crs epsg) _ box hfabric.invertible hbox
      (by simpa using hfabric.opens decl hmem hcovers before.length)).2 outcome
    simp only [D8Session.projectionCrs_d8Handle, D8Session.epsg_d8Handle,
      D8Session.metadata_d8Handle, (hfabric.declared decl hmem hcovers).2] at hspec
    obtain ⟨result, hresult, rfl⟩ := hspec.mpr ⟨hcompat, hrefined⟩
    have hkind :
        result.seedKind = (input.outletAuthority.nativeOutlet equalEarth crs).seedKind := by
      obtain ⟨-, -, -, -, -, -, -, hkind⟩ := hrefined
      exact hkind
    refine ⟨_, ⟨hreadable, before, decl, after, hsplit, hbefore, hcovers, rfl⟩, box, hbox, result,
      hresult, refinedOutlet, geometry, ?_, ?_, ?_⟩
    · rw [D8Session.declarationIndex_d8Handle, hkind]
    · rw [D8Session.projectionCrs_d8Handle]
      exact houtlet
    · rw [D8Session.projectionCrs_d8Handle]
      exact hpolygon

/-- The strategy returns. -/
theorem CoherentFabric.returns
    (hfabric : CoherentFabric equalEarth input pantry rasterSource raster crs epsg units)
    (hsource : pantry.rasterSource = some rasterSource) :
    Fault.Returns (d8RasterRefinementStrategy equalEarth contains input pantry) := by
  by_cases hvertices : exteriorVertices input.terminalGeometry = []
  · rw [d8RasterRefinementStrategy, boundingRect_eq_none_iff.mpr hvertices]
    exact Fault.returns_err _
  rw [d8RasterRefinementStrategy_eq hvertices hsource]
  refine (Fault.returns_mapError _ _).bind fun selected hselected =>
    Checked.returns_orErr.bind fun box hbox => ?_
  rw [Checked.orErr_eq_ok_iff] at hbox
  rw [Checks.mapError_eq_ok_iff, hfabric.selectD8RasterForTerminal_eq_ok_iff hvertices] at hselected
  obtain ⟨-, before, decl, after, hsplit, -, hcovers, rfl⟩ := hselected
  have hspec := @refineSelected_spec equalEarth contains input pantry rasterSource raster
    (pantry.session.d8Handle before.length decl crs epsg) _ box hfabric.invertible hbox
    (by simpa using hfabric.opens decl (by simp [hsplit]) hcovers before.length)
  exact hspec.1.bind fun result _ => returns_appliedDecision

/-- A source whose flow directions have invertible transforms. -/
def RasterSource.Invertible (rasterSource : RasterSource) : Prop :=
  ∀ uri box encoding tile, rasterSource.loadFlowDirection uri box encoding = .ok tile →
    tile.geo.Invertible

/-- **The strategy returns** a decision or an error, whatever the rasters show. -/
theorem returns_d8RasterRefinementStrategy
    (hinvertible : ∀ source ∈ pantry.rasterSource, source.Invertible) :
    Fault.Returns (d8RasterRefinementStrategy equalEarth contains input pantry) := by
  refine Checked.returns_orErr.bind fun _ _ => (Fault.returns_mapError _ fun _ => _).bind
    fun ⟨handle, nativeTerminal⟩ _ => Checked.returns_orErr.bind fun nativeBbox _ => ?_
  split
  · exact Fault.returns_ok _
  next rasterSource hsource =>
  refine Fault.Returns.bind ?_ fun _ _ => returns_appliedDecision
  refine (Fault.returns_mapError _ fun _ => _).bind fun flowDirUri _ =>
    (Fault.returns_mapError _ fun _ => _).bind fun flowAccUri _ => Fault.Returns.mapError ?_ _
  refine Checked.returns_orErr.bind fun box _ => (Fault.returns_mapError _ _).bind
    fun flowDir hflowDir => (Fault.returns_mapError _ _).bind fun accumulation _ => ?_
  rw [Checks.mapError_eq_ok_iff] at hflowDir
  exact (returns_refineTerminal (hinvertible _ hsource _ _ _ _ hflowDir)).mapError _

/-! ### Other orders of the declarations -/

/-- The seed rule of a reason. -/
def AppliedRefinementReason.seedKind : AppliedRefinementReason → RasterSeedKind
  | .vectorOutletQuantized _ => .vectorQuantized
  | .rasterOutletRanked _ => .rasterRanked

@[simp] theorem seedKind_appliedReason (kind : RasterSeedKind) (index : ℕ) :
    (kind.appliedReason index).seedKind = kind := by
  cases kind <;> rfl

/-- Both runs apply the same refinement by the same rule, or both give an error. -/
def SameDecision : Except (Fault TerminalRefinementError) TerminalRefinementDecision →
    Except (Fault TerminalRefinementError) TerminalRefinementDecision → Prop
  | .ok (.applied outlet geometry provenance), .ok (.applied outlet' geometry' provenance') =>
    outlet = outlet' ∧ geometry.polygon = geometry'.polygon ∧
      provenance.strategy = provenance'.strategy ∧
      provenance.why.seedKind = provenance'.why.seedKind
  | .error (.err _), .error (.err _) => True
  | _, _ => False

/-- The pantry with other declarations. -/
def D8RefinementPantry.withDeclarations (pantry : D8RefinementPantry)
    (decls : List D8RasterDeclaration) : D8RefinementPantry :=
  { pantry with session := { pantry.session with d8Rasters := decls } }

variable {decls : List D8RasterDeclaration}

theorem CoherentFabric.perm
    (hfabric : CoherentFabric equalEarth input pantry rasterSource raster crs epsg units)
    (hperm : pantry.session.d8Rasters.Perm decls) :
    CoherentFabric equalEarth input (pantry.withDeclarations decls) rasterSource raster crs epsg
      units where
  invertible := hfabric.invertible
  declared decl hdecl hcovers := hfabric.declared decl (hperm.mem_iff.mpr hdecl) hcovers
  opens decl hdecl hcovers := hfabric.opens decl (hperm.mem_iff.mpr hdecl) hcovers

/-- What is applied in one order is applied in any other one. -/
theorem exists_applied_of_perm
    (hfabric : CoherentFabric equalEarth input pantry rasterSource raster crs epsg units)
    (hsource : pantry.rasterSource = some rasterSource)
    (hperm : pantry.session.d8Rasters.Perm decls) {decision : TerminalRefinementDecision}
    (h : d8RasterRefinementStrategy equalEarth contains input pantry = .ok decision) :
    ∃ refinedOutlet geometry i j,
      decision = .applied refinedOutlet geometry
        ⟨.builtInD8, (input.outletAuthority.nativeOutlet equalEarth crs).seedKind.appliedReason i⟩ ∧
      d8RasterRefinementStrategy equalEarth contains input (pantry.withDeclarations decls)
        = .ok (.applied refinedOutlet geometry ⟨.builtInD8,
          (input.outletAuthority.nativeOutlet equalEarth crs).seedKind.appliedReason j⟩) := by
  have hvertices : exteriorVertices input.terminalGeometry ≠ [] := by
    intro hvertices
    rw [d8RasterRefinementStrategy, boundingRect_eq_none_iff.mpr hvertices] at h
    cases h
  obtain ⟨hreadable, before, decl, after, hsplit, -, hcovers, refinedOutlet, geometry, rfl,
    hrefined⟩ := (refineTerminal_applied_iff hfabric hvertices hsource).mp h
  have hmem : decl ∈ decls := hperm.mem_iff.mp (by simp [hsplit])
  have hsome : ¬∀ d ∈ decls, ¬pantry.session.Covers equalEarth input.terminalGeometry d :=
    fun hnone => hnone decl hmem hcovers
  obtain ⟨before', decl', after', hsplit', hbefore', hcovers'⟩ := Checks.exists_first_not hsome
  refine ⟨refinedOutlet, geometry, before.length, before'.length, rfl, ?_⟩
  exact (refineTerminal_applied_iff (hfabric.perm hperm) hvertices hsource).mpr
    ⟨fun d hd => hreadable d (hperm.mem_iff.mpr hd), before', decl', after', hsplit', hbefore',
      not_not.mp hcovers', refinedOutlet, geometry, rfl, hrefined⟩

/-- **The order of the declarations does not matter.** On a coherent fabric the strategy applies the
same refinement whichever of the covering declarations comes first, or gives an error in every
order. -/
theorem d8RasterRefinementStrategy_perm
    (hfabric : CoherentFabric equalEarth input pantry rasterSource raster crs epsg units)
    (hsource : pantry.rasterSource = some rasterSource)
    (hperm : pantry.session.d8Rasters.Perm decls) :
    SameDecision (d8RasterRefinementStrategy equalEarth contains input pantry)
      (d8RasterRefinementStrategy equalEarth contains input
        (pantry.withDeclarations decls)) := by
  have hsame := @exists_applied_of_perm equalEarth contains input pantry rasterSource raster crs
    epsg units decls hfabric hsource hperm
  have hback : ∀ decision, d8RasterRefinementStrategy equalEarth contains input
      (pantry.withDeclarations decls) = .ok decision →
        ∃ decision',
          d8RasterRefinementStrategy equalEarth contains input pantry = .ok decision' := by
    intro decision h
    obtain ⟨refinedOutlet, geometry, i, j, -, hrun⟩ :=
      exists_applied_of_perm (hfabric.perm hperm) hsource hperm.symm h
    exact ⟨_, hrun⟩
  have hreturns := @CoherentFabric.returns _ contains _ _ _ _ _ _ _ hfabric hsource
  have hreturns' := @CoherentFabric.returns _ contains _ _ _ _ _ _ _ (hfabric.perm hperm) hsource
  generalize d8RasterRefinementStrategy equalEarth contains input pantry = run
    at hsame hback hreturns ⊢
  generalize d8RasterRefinementStrategy equalEarth contains input
    (pantry.withDeclarations decls) = run' at hsame hback hreturns' ⊢
  cases run with
  | ok decision =>
    obtain ⟨refinedOutlet, geometry, i, j, rfl, rfl⟩ := hsame rfl
    exact ⟨rfl, rfl, rfl, by simp⟩
  | error f =>
    cases run' with
    | ok decision =>
      obtain ⟨decision', hrun⟩ := hback decision rfl
      cases hrun
    | error f' =>
      obtain ⟨e, rfl⟩ := hreturns f rfl
      obtain ⟨e', rfl⟩ := hreturns' f' rfl
      trivial

end Coherent

/-- Two raster pairs of one raster, one with a margin. -/
def nestedTiles : D8RefinementPantry where
  session :=
    { root := "/data"
      remoteRoot := none
      d8Rasters := [⟨⟨"small/dir.tif", "small/acc.tif"⟩, ⟨"EPSG:4326", .esri, .cells⟩⟩,
        ⟨⟨"wide/dir.tif", "wide/acc.tif"⟩, ⟨"EPSG:4326", .esri, .cells⟩⟩]
      header path := .ok (if path.toList.contains 'w' then
          ⟨3, 3, [0x3ff0000000000000, 0x3ff0000000000000, 0],
            [0, 0, 0, 0xbff0000000000000, 0x3ff0000000000000, 0]⟩
        else ⟨2, 2, [0x3ff0000000000000, 0x3ff0000000000000, 0], [0, 0, 0, 0, 0, 0]⟩) }
  getOrFetchWindow path _ _ := .ok path
  rasterSource := some
    { loadFlowDirection uri _ _ :=
        .ok (if uri.toList.contains 'w' then wideFlowDir else smallFlowDir)
      loadAccumulation uri _ :=
        .ok (if uri.toList.contains 'w' then wideAccumulation else smallAccumulation) }

/-- A terminal that both raster pairs cover. -/
def nestedInput : TerminalRefinementInput := ⟨⟨1⟩, smallTerminal, .unitOnly ⟨1 / 2, -1 / 2⟩, ⟨2⟩⟩

theorem coherentFabric_nestedTiles : ∃ rasterSource raster,
    nestedTiles.rasterSource = some rasterSource ∧
      CoherentFabric ⟨id, .ok⟩ nestedInput nestedTiles rasterSource raster .epsg4326 4326
        .cells := by
  obtain ⟨raster, o, hgeo, hsmall, hwide⟩ := coherentWindows_small_wide.exists_plane
  have hterminal := @projectTerminal_epsg4326 ⟨id, .ok⟩ smallTerminal
  refine ⟨_, raster, rfl, ?_, fun decl hdecl _ => ?_, fun decl hdecl _ index => ?_⟩
  · rw [hgeo]
    decide
  · simp only [nestedTiles, List.mem_cons, List.not_mem_nil, or_false] at hdecl
    rcases hdecl with rfl | rfl
    · exact ⟨by decide +kernel, rfl⟩
    · exact ⟨by decide +kernel, rfl⟩
  · intro box _
    rw [nestedInput, hterminal]
    simp only [nestedTiles, List.mem_cons, List.not_mem_nil, or_false] at hdecl
    rcases hdecl with rfl | rfl
    · exact ⟨"/data/small/dir.tif", "/data/small/acc.tif", smallFlowDir, smallAccumulation, (0, 0),
        by rfl, by rfl, by rfl, by rfl, hsmall, by decide +kernel, ⟨0, 0⟩, by decide,
        by decide +kernel⟩
    · exact ⟨"/data/wide/dir.tif", "/data/wide/acc.tif", wideFlowDir, wideAccumulation, o,
        by rfl, by rfl, by rfl, by rfl, hwide, by decide +kernel, ⟨1, 1⟩, by decide,
        by decide +kernel⟩

theorem d8RasterRefinementStrategy_nestedTiles :
    (d8RasterRefinementStrategy ⟨id, .ok⟩ strictContains nestedInput nestedTiles).isOk ∧
      SameDecision
        (d8RasterRefinementStrategy ⟨id, .ok⟩ strictContains nestedInput nestedTiles)
        (d8RasterRefinementStrategy ⟨id, .ok⟩ strictContains nestedInput
          (nestedTiles.withDeclarations nestedTiles.session.d8Rasters.reverse)) := by
  obtain ⟨rasterSource, raster, hsource, hfabric⟩ := coherentFabric_nestedTiles
  refine ⟨?_, @d8RasterRefinementStrategy_perm ⟨id, .ok⟩ strictContains nestedInput nestedTiles
    rasterSource raster .epsg4326 4326 .cells _ hfabric hsource (List.reverse_perm _).symm⟩
  decide +kernel

end WatershedDelineation
