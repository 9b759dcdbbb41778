import WatershedDelineation.Engine.Delineate
import WatershedDelineation.Session.ManifestFile

/-!
# Engines of manifests

What the declarations of a manifest mean for a delineation. The rasters that are declared are those
that refinement selects from. Declarations with an unknown schema are not used, except that the
first one of the raster family is the reason of a skipped refinement.

Without declared rasters, trying refinement is the same as none, with a reason
(`delineate_withoutRasters`). Unknown declarations change no delineation but for such a reason
(`delineate_withoutUnreadable`).
-/

namespace WatershedDelineation

namespace Engine

variable {G O : Type} {engine : Engine G O} {outlet : GeoCoord} {options : DelineationOptions O}
  {mode : RefinementMode}

/-- The engine of a dataset with the declarations of a manifest. -/
def ofManifest (engine : Engine G O) (file : ManifestFile) : Engine G O :=
  let session := { engine.refiner.pantry.session with d8Rasters := file.aux.d8Rasters }
  { engine with
    manifest := file.manifest.toManifest
    refiner := { engine.refiner with
      pantry := { engine.refiner.pantry with session := session }
      unreadableSchemas := file.aux.unreadable.map UnreadableAuxDecl.schema } }

/-- The reason to skip refinement without declared rasters. -/
def missingRastersReason (unreadableSchemas : List String) (method : ResolutionMethod) :
    BestEffortSkipReason :=
  match unreadableSchemas.find? isUnreadableD8AuxiliarySchema with
  | some schema => .unreadableD8AuxDeclared schema
  | none =>
    match method with
    | .snap _ => .noD8AuxDeclared
    | .pointInPolygon _ => .coarseUnitOnlyNoD8AuxDeclared

theorem withoutD8Aux_eq {resolved : OutletResolution} : engine.refiner.withoutD8Aux resolved
    = .ofSkip (missingRastersReason engine.refiner.unreadableSchemas resolved.method) := by
  unfold Refiner.withoutD8Aux missingRastersReason
  cases engine.refiner.unreadableSchemas.find? isUnreadableD8AuxiliarySchema with
  | some schema => rfl
  | none => cases resolved <;> rfl

/-- Trying refinement without declared rasters is a skip. -/
theorem delineate_bestEffort_of_hasD8Aux (h : engine.refiner.hasD8Aux = false) :
    engine.delineate outlet (options.withRefinementMode .bestEffort)
      = (engine.delineate outlet (options.withRefinementMode .disabled)).map (fun result =>
          result.withRefinement (.bestEffortSkipped ⟨.bestEffortD8IfPresent,
            missingRastersReason engine.refiner.unreadableSchemas result.resolutionMethod⟩)) := by
  simp only [delineate_withRefinementMode]
  cases engine.collect outlet options.resolverConfig with
  | error e => rfl
  | ok collected =>
    simp only [Checks.ok_bind, Refiner.refineTerminal, h, Bool.false_eq_true, if_false]
    rw [dissolveWatershed_of_isSkipped Refiner.isSkipped_withoutD8Aux, withoutD8Aux_eq]
    cases engine.dissolveWatershed options collected .disabled <;> rfl

/-- Required refinement fails without declared rasters. -/
theorem delineate_requireD8_of_hasD8Aux (h : engine.refiner.hasD8Aux = false) :
    engine.delineate outlet (options.withRefinementMode .requireD8)
      = engine.collect outlet options.resolverConfig >>= fun collected =>
          .error (.err (.d8Selection collected.resolved.unitId.raw .missingRequiredD8Aux)) := by
  rw [delineate_withRefinementMode]
  refine bind_congr fun collected => ?_
  simp only [Refiner.refineTerminal, h, Bool.false_eq_true, if_false]
  rfl

/-- **Without declared rasters**, trying refinement gives what a delineation without refinement
gives, with the reason; required refinement fails as soon as the records have been collected. -/
theorem delineate_withoutRasters (engine : Engine G O) (outlet : GeoCoord)
    (options : DelineationOptions O) (h : engine.refiner.hasD8Aux = false) :
    engine.delineate outlet (options.withRefinementMode .bestEffort)
      = (engine.delineate outlet (options.withRefinementMode .disabled)).map (fun result =>
          result.withRefinement (.bestEffortSkipped ⟨.bestEffortD8IfPresent,
            missingRastersReason engine.refiner.unreadableSchemas result.resolutionMethod⟩)) ∧
    engine.delineate outlet (options.withRefinementMode .requireD8)
      = engine.collect outlet options.resolverConfig >>= fun collected =>
          .error (.err (.d8Selection collected.resolved.unitId.raw .missingRequiredD8Aux)) :=
  ⟨delineate_bestEffort_of_hasD8Aux h, delineate_requireD8_of_hasD8Aux h⟩

end Engine

/-! ### A sample -/

/-- An engine of a manifest that declares only rasters of an older format. -/
def olderRastersEngine : Engine Unit AssemblyOptions :=
  (sampleEngine apartTable apartBuilt).ofManifest
    { manifest :=
        { formatVersion := "0.3.0"
          fabricName := "sample"
          adapterVersion := "1"
          unitCount := 2
          crs := "EPSG:4326"
          topology := .tree
          bbox := touchingQuery
          createdAt := "2026-01-01T00:00:00Z"
          hasUpArea := false
          fabricVersion := none
          region := none
          auxiliary := [] }
      aux := ⟨[], [], [], [⟨"hfx.aux.d8_raster.v1", [("flow_dir", "dir.tif")], .null⟩]⟩ }

theorem delineate_withoutRasters_older : ∃ result,
    olderRastersEngine.delineate sampleOutlet (sampleOptions.withRefinementMode .disabled)
      = .ok result ∧
    olderRastersEngine.delineate sampleOutlet (sampleOptions.withRefinementMode .bestEffort)
      = .ok (result.withRefinement (.bestEffortSkipped
          ⟨.bestEffortD8IfPresent, .unreadableD8AuxDeclared "hfx.aux.d8_raster.v1"⟩)) ∧
    olderRastersEngine.delineate sampleOutlet (sampleOptions.withRefinementMode .requireD8)
      = .error (.err (.d8Selection result.terminalUnitId.raw .missingRequiredD8Aux)) := by
  obtain ⟨result, hresult⟩ : ∃ result, olderRastersEngine.delineate sampleOutlet
      (sampleOptions.withRefinementMode .disabled) = .ok result := by
    refine Checks.exists_of_isOk ?_
    have hselected := @selectedRowGroupsForIds_sampleEngine apartTable apartBuilt indexed_apartBuilt
    simp only [Engine.delineate, Engine.collect, producePreMergeUnits, CatchmentReader.queryByIds,
      CatchmentReader.queryGeometriesByIds, olderRastersEngine, Engine.ofManifest, hselected]
    decide +kernel
  obtain ⟨hbest, hrequire⟩ :=
    Engine.delineate_withoutRasters olderRastersEngine sampleOutlet sampleOptions rfl
  obtain ⟨collected, refinement, dissolved, hcollected, -, -, rfl⟩ :=
    Engine.delineate_eq_ok_iff.mp hresult
  refine ⟨_, hresult, ?_, ?_⟩
  · rw [hbest, hresult]
    rfl
  · rw [hrequire]
    exact congrArg (· >>= _) hcollected

end WatershedDelineation
