import WatershedDelineation.Raster.Polygonize
import WatershedDelineation.Raster.Rasterize
import WatershedDelineation.Raster.Snap
import WatershedDelineation.Raster.Trace

/-!
# Refining the terminal unit

`refineTerminal` of `algo/refine.rs`: rasterize the terminal polygon, mask both tiles with it,
take the seed from a vector point or from the ranker, trace upstream on the masked directions,
and polygonize the trace.

Errors of the loader around it are left out.
-/

namespace WatershedDelineation

/-- Authority supplied to raster refinement. -/
inductive RasterOutlet
  /-- A vector snap feature already chose the hydrological point. -/
  | vectorPoint (p : NativeCoord)
  /-- Containment chose only a terminal unit. -/
  | unitOnly (p : NativeCoord)
  deriving DecidableEq, Repr

/-- The point that came with the authority. -/
def RasterOutlet.point : RasterOutlet → NativeCoord
  | .vectorPoint p => p
  | .unitOnly p => p

/-- The raster seed rule used for an applied carve. -/
inductive RasterSeedKind
  | vectorQuantized
  | rasterRanked
  deriving DecidableEq, Repr

/-- Failed conjunct in the vector-cell usability guard. -/
inductive VectorOutletGuardFailureKind
  | gridMapping
  | outsideTerminalMask
  | undefinedFlowDirection
  | undefinedAccumulation
  | belowThreshold
  deriving DecidableEq, Repr

/-- Complete evidence for a rejected authoritative vector cell. -/
structure VectorOutletGuardFailure where
  kind : VectorOutletGuardFailureKind
  requestedThreshold : SnapThreshold
  effectiveThreshold : F32
  units : FlowAccumulationUnits
  mappedCell : Option GridCoord
  measuredAccumulation : Option F32
  deriving DecidableEq, Repr

/-- Errors from terminal unit raster refinement. -/
inductive RefinementError
  | dimensionMismatch (fdRows fdCols accRows accCols : ℕ)
  | geoTransformMismatch (rows cols : ℕ)
  | emptyRasterMask (rows cols : ℕ)
  | maskFailed (source : RasterTileError)
  | snapFailed (source : SnapError)
  | vectorOutletUnusable (failure : VectorOutletGuardFailure)
  | emptyPolygonization
  | geographicKm2Unsupported (epsg : UInt32) (units : FlowAccumulationUnits)
  deriving DecidableEq, Repr

/-- Result of a successful terminal unit refinement. -/
structure RefinementResult where
  snappedPoint : SnappedPoint
  seedKind : RasterSeedKind
  polygon : MultiPolygon

/-! ### Supported pairs of declarations -/

/-- Coordinate reference systems of the projection boundary. -/
inductive Crs
  | epsg4326
  | epsg8857
  deriving DecidableEq, Repr

/-- The coordinate reference system of an implemented exact declaration. -/
def claimedD8Crs (declaration : String) : Option Crs :=
  if declaration = "EPSG:4326" then some .epsg4326
  else if declaration = "EPSG:8857" then some .epsg8857
  else none

/-- The flow-accumulation units of an implemented exact declaration. -/
def claimedD8FlowAccumulationUnits (declaration : String) : Option FlowAccumulationUnits :=
  if declaration = "cells" then some .cells
  else if declaration = "km2" then some .km2
  else none

/-- Whether two exact declarations form a supported pair. -/
def d8PairIsCompatible (crsDeclaration unitsDeclaration : String) : Bool :=
  match claimedD8Crs crsDeclaration, claimedD8FlowAccumulationUnits unitsDeclaration with
  | some .epsg4326, some .cells => true
  | some .epsg8857, some .cells => true
  | some .epsg8857, some .km2 => true
  | _, _ => false

/-- The declaration of the units. -/
def FlowAccumulationUnits.declaration : FlowAccumulationUnits → String
  | .cells => "cells"
  | .km2 => "km2"

/-! ### Refinement -/

/-- Return an error. -/
def reject {α : Type} (error : RefinementError) : Except (Fault RefinementError) α :=
  .error (.err error)

section Refine

variable (outlet : RasterOutlet) (flowDir : FlowDirectionTile .raw)
  (accumulation : AccumulationTile .raw) (threshold : SnapThreshold)
  (units : FlowAccumulationUnits) (epsg : UInt32)

/-- Steps 1 and 3: the tiles are aligned, and the terminal polygon covers some cell. -/
def terminalMask (terminalPolygon : MultiPolygon) :
    Except (Fault RefinementError) CatchmentMask := do
  if !d8PairIsCompatible s!"EPSG:{epsg}" units.declaration then
    reject (.geographicKm2Unsupported epsg units)
  else if flowDir.dims ≠ accumulation.dims then
    reject (.dimensionMismatch flowDir.dims.rows flowDir.dims.cols accumulation.dims.rows
      accumulation.dims.cols)
  else if flowDir.geo ≠ accumulation.geo then
    reject (.geoTransformMismatch flowDir.dims.rows flowDir.dims.cols)
  else
    let maskData ← Fault.noErr (rasterizeMultiPolygon terminalPolygon flowDir.geo flowDir.dims)
    if !maskData.any id then reject (.emptyRasterMask flowDir.dims.rows flowDir.dims.cols)
    else CatchmentMask.new maskData flowDir.dims

/-- Step 4: a vector point is quantized once and guarded before either tile is masked. -/
def vectorSeed (catchmentMask : CatchmentMask) :
    Except (Fault RefinementError) (Option SnappedPoint) :=
  let thresholdValue := effectiveThreshold threshold units flowDir.geo
  match outlet with
  | .unitOnly _ => .ok none
  | .vectorPoint vectorPoint =>
    match quantizeGridCell vectorPoint flowDir.geo flowDir.dims epsg with
    | .error _ => reject (.vectorOutletUnusable
        ⟨.gridMapping, threshold, thresholdValue, units, none, none⟩)
    | .ok mapped =>
      let unusable (kind : VectorOutletGuardFailureKind) (measured : Option F32) :=
        RefinementError.vectorOutletUnusable
          ⟨kind, threshold, thresholdValue, units, some mapped, measured⟩
      if !catchmentMask.contains mapped then
        reject (unusable .outsideTerminalMask (accumulation.get mapped))
      else if flowDir.decodedCell mapped = none then
        reject (unusable .undefinedFlowDirection (accumulation.get mapped))
      else
        match accumulation.get mapped with
        | none => reject (unusable .undefinedAccumulation none)
        | some measured =>
          if measured.lt thresholdValue then reject (unusable .belowThreshold (some measured))
          else .ok (some ⟨mapped, flowDir.geo.pixelToCoord mapped, measured⟩)

/-- Step 6: containment authority uses the ranker, vector authority never does. -/
def chooseSeed (vectorSeed : Option SnappedPoint) (maskedAcc : AccumulationTile .masked) :
    Except (Fault RefinementError) (SnappedPoint × RasterSeedKind) :=
  match outlet, vectorSeed with
  | .vectorPoint _, some seed => .ok (seed, .vectorQuantized)
  | .unitOnly requestPoint, none => do
    let seed ← (snapPourPoint requestPoint maskedAcc threshold units epsg).mapError fun source =>
      .err (.snapFailed source)
    .ok (seed, .rasterRanked)
  | _, _ => .error .panic

/-- Refine a terminal polygon into a precise watershed polygon. -/
def refineTerminal (contains : Polygon → NativeCoord → Bool) (terminalPolygon : MultiPolygon) :
    Except (Fault RefinementError) RefinementResult := do
  let catchmentMask ← terminalMask flowDir accumulation units epsg terminalPolygon
  let vectorSeed ← vectorSeed outlet flowDir accumulation threshold units epsg catchmentMask
  let maskedFlowDir ← (flowDir.applyMask catchmentMask).mapError fun source =>
    .err (.maskFailed source)
  let maskedAcc ← (accumulation.applyMask catchmentMask).mapError fun source =>
    .err (.maskFailed source)
  let (snapped, seedKind) ← chooseSeed outlet threshold units epsg vectorSeed maskedAcc
  let traceMask ← Fault.noErr (traceUpstream snapped.cell maskedFlowDir)
  let polygon ← Fault.noErr (polygonize contains traceMask flowDir.geo)
  match polygon with
  | none => reject .emptyPolygonization
  | some polygon => .ok ⟨snapped, seedKind, polygon⟩

end Refine

end WatershedDelineation
