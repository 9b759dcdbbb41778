import WatershedDelineation.Assembly.FinalAssembly
import WatershedDelineation.Engine.RefinementMode
import WatershedDelineation.Reader.CatchmentQueries
import WatershedDelineation.Reader.SnapQueries
import WatershedDelineation.Resolver.CandidateOrder
import WatershedDelineation.Session.GraphCatchments

/-!
# Delineating a watershed

`delineate` of `engine.rs`, from an outlet to a watershed: the finest level is selected, the outlet
is resolved in it, the upstream units are collected and read, the terminal is refined, and the
geometries are dissolved.

Trying refinement never loses a watershed that there is without it (`delineate_modes`).
-/

namespace WatershedDelineation

/-! ### Sessions and options -/

/-- A declared snap file with its opened table. -/
structure DeclaredSnap where
  decl : SnapDecl
  store : SnapTable

/-- The options of a call: how an outlet is resolved, how it is snapped to the rasters, whether the
terminal is refined, and the options of the final assembly, of type `O`. -/
structure DelineationOptions (O : Type) where
  resolverConfig : ResolverConfig
  snapThreshold : SnapThreshold
  refinementMode : RefinementMode
  assembly : O

/-- The options with another refinement mode. -/
def DelineationOptions.withRefinementMode {O : Type} (options : DelineationOptions O)
    (mode : RefinementMode) : DelineationOptions O :=
  { options with refinementMode := mode }

/-- An engine over an opened session: the session's data, the parsers and the geometry code, and the
final assembly, under options of type `O`. -/
structure Engine (G O : Type) where
  manifest : Manifest
  graph : DrainageGraph
  catchments : CatchmentReader
  snapStores : List DeclaredSnap
  hfx : Hfx
  midpoint : F32 → F32 → F64
  toGeo : List UInt8 → Except String (Geometry Polygon)
  decodeSnapWkb : WkbGeometry → Except String SnapGeometry
  resolver : ResolverContext G MultiPolygon
  refiner : Refiner
  assembleFromGeometries :
    O → List MultiPolygon → Except AssemblyError (MultiPolygon × Algo.AreaKm2)
  assemblyText : AssemblyError → String

/-! ### Results -/

/-- How an outlet has been resolved. -/
inductive ResolutionMethod
  | snap (provenance : VectorResolutionProvenance)
  | pointInPolygon (provenance : ContainmentResolutionProvenance)
  deriving DecidableEq, Repr

namespace OutletResolution

/-- The outlet that was asked for. -/
def inputCoord : OutletResolution → GeoCoord
  | vectorPoint _ inputCoord _ _ => inputCoord
  | unitContainment _ inputCoord _ => inputCoord

/-- The public resolved outlet. -/
def resolvedCoord : OutletResolution → GeoCoord
  | vectorPoint _ _ vectorCoord _ => vectorCoord
  | unitContainment _ inputCoord _ => inputCoord

/-- How the outlet has been resolved, for the result. -/
def method : OutletResolution → ResolutionMethod
  | vectorPoint _ _ _ provenance => .snap provenance
  | unitContainment _ _ provenance => .pointInPolygon provenance

end OutletResolution

/-- What happened in refinement. -/
inductive Engine.RefinementOutcome
  | applied (refinedOutlet : NativeCoord) (provenance : AppliedRefinementProvenance)
  | bestEffortSkipped (provenance : BestEffortRefinementProvenance)
  | disabled
  deriving DecidableEq, Repr

/-- A refinement has changed the terminal. -/
def Engine.RefinementOutcome.IsApplied : Engine.RefinementOutcome → Prop
  | applied _ _ => True
  | _ => False

/-- The outcome of refining the terminal, without its geometry. -/
def refinementOutcomeFromTerminal : StagedTerminalRefinement → Engine.RefinementOutcome
  | .applied refinedOutlet _ provenance => .applied refinedOutlet provenance
  | .bestEffortSkipped provenance => .bestEffortSkipped provenance
  | .disabled => .disabled

/-- The result of a delineation. -/
structure Delineation extends DelineationResult where
  inputOutlet : GeoCoord
  resolvedOutlet : GeoCoord
  resolutionMethod : ResolutionMethod
  refinement : Engine.RefinementOutcome
  geometry : MultiPolygon
  areaKm2 : Algo.AreaKm2

/-- The result with another refinement outcome. -/
def Delineation.withRefinement (result : Delineation) (refinement : Engine.RefinementOutcome) :
    Delineation :=
  { result with refinement := refinement }

/-! ### Stages -/

namespace Engine

variable {G O : Type} (engine : Engine G O)

/-- The finest level of the dataset, that with the largest number. -/
def maxLevel : Option Level := (engine.graph.rows.map (·.level.raw)).max?.map Level.mk

/-- Select the finest level; an empty dataset has none. -/
def selectLevel : Except (Fault DelineateError) Level :=
  Checked.orErr engine.maxLevel
    (.sessionLevelIndexEmpty engine.manifest.fabricName engine.manifest.unitCount)

/-- Declarations are ordered by their names, and then by their paths. -/
def snapOrder (a b : DeclaredSnap) : Ordering :=
  (compare a.decl.name b.decl.name).then (compare a.decl.snap b.decl.snap)

/-- The first snap declaration for a level, in the order of names and paths. -/
def snapForLevel (level : Level) : Option DeclaredSnap :=
  MinBy.minBy snapOrder (engine.snapStores.filter fun declaredSnap =>
    level.raw ∈ declaredSnap.decl.referencesLevels)

/-- The resolver knows the levels of the graph. -/
def resolverContext : ResolverContext G MultiPolygon :=
  { engine.resolver with levelOf := levelOf engine.graph }

/-- Resolve an outlet on a level, among the targets of its snap file if there is one, and else in
the catchments that contain it. Every error is that of the outlet. -/
def resolveOutletAtLevel (outlet : GeoCoord) (selectedLevel : Level) (config : ResolverConfig) :
    Except (Fault DelineateError) OutletResolution :=
  (match engine.snapForLevel selectedLevel with
    | some declaredSnap => resolveViaSnapStore engine.resolverContext outlet (some selectedLevel)
        (declaredSnap.store.queryByBbox engine.hfx engine.decodeSnapWkb) config
    | none => resolveViaPip engine.resolverContext outlet (some selectedLevel)
        (engine.catchments.queryByBbox engine.hfx engine.midpoint)).mapError fun source =>
          .err (.resolution outlet source)

/-- What the stages before refinement find: the resolved outlet, and the upstream units with their
records. -/
structure Collected where
  resolved : OutletResolution
  upstream : UpstreamUnits
  units : List (PreMergeDrainageUnit Polygon)

/-- The stages before refinement: select a level, resolve the outlet, traverse the graph and read
the units upstream. -/
def collect (outlet : GeoCoord) (config : ResolverConfig) :
    Except (Fault DelineateError) Collected := do
  let selectedLevel ← engine.selectLevel
  let resolved ← engine.resolveOutletAtLevel outlet selectedLevel config
  let upstream ← (traverseUpstreamAtLevel engine.graph (levelOf engine.graph) selectedLevel
    resolved.unitId).mapError (Fault.map .stage)
  let units ← (producePreMergeUnits (engine.catchments.queryByIds engine.hfx engine.midpoint)
    (engine.catchments.queryGeometriesByIds engine.hfx engine.toGeo) selectedLevel
    upstream).mapError (Fault.map .stage)
  .ok ⟨resolved, upstream, units⟩

/-- The final dissolve, with the refined geometry of the terminal if there is one. -/
def dissolveWatershed (options : DelineationOptions O) (collected : Collected)
    (refinement : StagedTerminalRefinement) :
    Except (Fault DelineateError) (MultiPolygon × Algo.AreaKm2) :=
  (WatershedDelineation.dissolveWatershed engine.assemblyText
    (engine.assembleFromGeometries options.assembly) collected.resolved.unitId collected.units
    refinement.toTerminalRefinement).mapError (Fault.map .stage)

/-- The result of the stages. -/
def composeResult (collected : Collected) (refinement : StagedTerminalRefinement)
    (dissolved : MultiPolygon × Algo.AreaKm2) : Delineation where
  toDelineationResult := WatershedDelineation.composeResult collected.resolved.unitId
    collected.upstream collected.units
  inputOutlet := collected.resolved.inputCoord
  resolvedOutlet := collected.resolved.resolvedCoord
  resolutionMethod := collected.resolved.method
  refinement := refinementOutcomeFromTerminal refinement
  geometry := dissolved.1
  areaKm2 := dissolved.2

/-- Delineate the watershed upstream of an outlet: the stages above, the refinement of the terminal,
and the final dissolve. -/
def delineate (outlet : GeoCoord) (options : DelineationOptions O) :
    Except (Fault DelineateError) Delineation := do
  let collected ← engine.collect outlet options.resolverConfig
  let refinement ← engine.refiner.refineTerminal options.refinementMode options.snapThreshold
    collected.resolved collected.resolved.unitId collected.units
  let dissolved ← engine.dissolveWatershed options collected refinement
  .ok (composeResult collected refinement dissolved)

/-! ### Refinement modes -/

section Modes

variable {engine : Engine G O} {outlet : GeoCoord} {options : DelineationOptions O}
  {mode : RefinementMode} {result : Delineation} {collected : Collected}
  {refinement : StagedTerminalRefinement}

/-- The outcome tells whether the refinement is applied. -/
@[simp] theorem isApplied_outcome_iff :
    (refinementOutcomeFromTerminal refinement).IsApplied ↔ refinement.IsApplied := by
  cases refinement <;> exact Iff.rfl

/-- The mode only matters for refinement: the other stages do not read it. -/
theorem delineate_withRefinementMode :
    engine.delineate outlet (options.withRefinementMode mode)
      = engine.collect outlet options.resolverConfig >>= fun collected =>
          engine.refiner.refineTerminal mode options.snapThreshold collected.resolved
            collected.resolved.unitId collected.units >>= fun refinement =>
              engine.dissolveWatershed options collected refinement >>= fun dissolved =>
                .ok (composeResult collected refinement dissolved) := rfl

/-- **A delineation succeeds** when its stages do, one after the other, and the result is composed
of what they give. -/
theorem delineate_eq_ok_iff :
    engine.delineate outlet (options.withRefinementMode mode) = .ok result ↔
      ∃ collected refinement dissolved,
        engine.collect outlet options.resolverConfig = .ok collected ∧
        engine.refiner.refineTerminal mode options.snapThreshold collected.resolved
          collected.resolved.unitId collected.units = .ok refinement ∧
        engine.dissolveWatershed options collected refinement = .ok dissolved ∧
        composeResult collected refinement dissolved = result := by
  simp only [delineate_withRefinementMode, Checks.bind_eq_ok_iff, Except.ok.injEq]
  constructor
  · rintro ⟨collected, hcollected, refinement, hrefinement, dissolved, hdissolved, rfl⟩
    exact ⟨collected, refinement, dissolved, hcollected, hrefinement, hdissolved, rfl⟩
  · rintro ⟨collected, refinement, dissolved, hcollected, hrefinement, hdissolved, rfl⟩
    exact ⟨collected, hcollected, refinement, hrefinement, dissolved, hdissolved, rfl⟩

/-- A refinement that is not applied is dissolved like none: the terminal keeps the geometry of its
row. -/
theorem dissolveWatershed_of_isSkipped (h : refinement.IsSkipped) :
    engine.dissolveWatershed options collected refinement
      = engine.dissolveWatershed options collected .disabled := by
  rw [dissolveWatershed, dissolveWatershed, WatershedDelineation.dissolveWatershed,
    WatershedDelineation.dissolveWatershed, h.refinedTerminalGeometry_eq]
  rfl

/-- What the stages before refinement do: the outlet is resolved on the finest level, and the units
upstream of its unit, all of them on this level, are read. -/
theorem exists_of_collect {config : ResolverConfig}
    (h : engine.collect outlet config = .ok collected) : ∃ level metadata rows,
      engine.maxLevel = some level ∧
      engine.resolveOutletAtLevel outlet level config = .ok collected.resolved ∧
      collectUpstream collected.resolved.unitId engine.graph = .ok collected.upstream ∧
      (∀ id ∈ collected.upstream.unitIds, levelOf engine.graph id = some level) ∧
      engine.catchments.queryByIds engine.hfx engine.midpoint collected.upstream.unitIds
        = .ok metadata ∧
      engine.catchments.queryGeometriesByIds engine.hfx engine.toGeo collected.upstream.unitIds
        = .ok rows ∧
      preMergeUnits level collected.upstream.unitIds.length
        (collectMap (metadata.map fun unit => (unit.id, unit)))
        (collectMap (rows.map fun row => (row.id, row.geometry))) collected.upstream.unitIds
          = .ok collected.units := by
  simp only [collect, selectLevel, Checks.bind_eq_ok_iff, Checks.mapError_eq_ok_iff,
    Checked.orErr_eq_ok_iff, traverseUpstreamAtLevel_eq_ok_iff, producePreMergeUnits,
    Except.ok.injEq] at h
  obtain ⟨level, hlevel, resolved, hresolved, upstream, ⟨hupstream, hlevels⟩, units,
    ⟨metadata, hmetadata, rows, hrows, hunits⟩, rfl⟩ := h
  exact ⟨level, metadata, rows, hlevel, hresolved, hupstream, hlevels, hmetadata, hrows, hunits⟩

/-- The records are those of the units upstream, in their order. -/
theorem map_id_collect {config : ResolverConfig}
    (h : engine.collect outlet config = .ok collected) :
    collected.units.map PreMergeDrainageUnit.id = collected.upstream.unitIds := by
  obtain ⟨level, metadata, rows, -, -, -, -, -, -, hunits⟩ := exists_of_collect h
  exact map_id_preMergeUnits hunits

/-- The records begin with that of the terminal. -/
theorem exists_terminalUnit {config : ResolverConfig}
    (h : engine.collect outlet config = .ok collected) :
    ∃ unit ∈ collected.units.head?, unit.id = collected.resolved.unitId := by
  obtain ⟨level, metadata, rows, -, -, hupstream, -⟩ := exists_of_collect h
  have hhead := congrArg List.head? (map_id_collect h)
  have hterminal : collected.upstream.units.head? = some collected.resolved.unitId := by
    simpa using (collectUpstream_post hupstream).1.head
  rw [List.head?_map, UpstreamUnits.unitIds_eq, hterminal, Option.map_eq_some_iff] at hhead
  exact hhead

/-- **Refinement modes.** Required refinement gives a watershed exactly when refinement that is
tried is applied, and the same one. Where it is skipped, the watershed is the one without refinement
and required refinement fails. Where there is a watershed without refinement, trying refinement
gives that one, or it is applied and the result is that of required refinement. -/
theorem delineate_modes (engine : Engine G O) (outlet : GeoCoord)
    (options : DelineationOptions O) :
    let run mode := engine.delineate outlet (options.withRefinementMode mode)
    (∀ result, run .requireD8 = .ok result ↔
      run .bestEffort = .ok result ∧ result.refinement.IsApplied) ∧
    (∀ result, run .bestEffort = .ok result → ¬result.refinement.IsApplied →
      run .disabled = .ok (result.withRefinement .disabled) ∧
        ∃ e, run .requireD8 = .error (.err e)) ∧
    ∀ result, run .disabled = .ok result →
      (∃ result', run .bestEffort = .ok result' ∧ ¬result'.refinement.IsApplied ∧
        result = result'.withRefinement .disabled) ∨
      run .bestEffort = run .requireD8 := by
  dsimp only
  refine ⟨fun result => ?_, fun result h hnot => ?_, fun result h => ?_⟩
  · simp only [delineate_eq_ok_iff]
    constructor
    · rintro ⟨collected, refinement, dissolved, hcollected, hrefinement, hdissolved, rfl⟩
      obtain ⟨hbest, happlied⟩ := Refiner.refineTerminal_requireD8_iff.mp hrefinement
      exact ⟨⟨collected, refinement, dissolved, hcollected, hbest, hdissolved, rfl⟩,
        isApplied_outcome_iff.mpr happlied⟩
    · rintro ⟨⟨collected, refinement, dissolved, hcollected, hbest, hdissolved, rfl⟩, happlied⟩
      exact ⟨collected, refinement, dissolved, hcollected, Refiner.refineTerminal_requireD8_iff.mpr
        ⟨hbest, isApplied_outcome_iff.mp happlied⟩, hdissolved, rfl⟩
  · obtain ⟨collected, refinement, dissolved, hcollected, hbest, hdissolved, rfl⟩ :=
      delineate_eq_ok_iff.mp h
    have hskipped : refinement.IsSkipped := (Refiner.isApplied_or_isSkipped hbest).resolve_left
      fun happlied => hnot (isApplied_outcome_iff.mpr happlied)
    constructor
    · refine delineate_eq_ok_iff.mpr ⟨collected, .disabled, dissolved, hcollected, rfl, ?_, rfl⟩
      rw [← hdissolved]
      exact (dissolveWatershed_of_isSkipped hskipped).symm
    · obtain ⟨e, he⟩ := Refiner.exists_requireD8_error hbest hskipped
      refine ⟨e, ?_⟩
      rw [delineate_withRefinementMode, hcollected, Checks.ok_bind, he]
      rfl
  · obtain ⟨collected, refinement, dissolved, hcollected, hdisabled, hdissolved, rfl⟩ :=
      delineate_eq_ok_iff.mp h
    obtain rfl := Except.ok.inj hdisabled
    -- what refinement gives when it is tried: nothing, a refinement, or a skip
    cases hbest : engine.refiner.refineTerminal .bestEffort options.snapThreshold collected.resolved
      collected.resolved.unitId collected.units with
    | error e =>
      right
      have hrequire := Refiner.refineTerminal_requireD8_of_error (exists_terminalUnit hcollected)
        hbest
      rw [delineate_withRefinementMode, delineate_withRefinementMode, hcollected, Checks.ok_bind,
        Checks.ok_bind, hbest, hrequire]
    | ok refinement =>
    rcases Refiner.isApplied_or_isSkipped hbest with happlied | hskipped
    · right
      have hrequire := Refiner.refineTerminal_requireD8_iff.mpr ⟨hbest, happlied⟩
      rw [delineate_withRefinementMode, delineate_withRefinementMode, hcollected, Checks.ok_bind,
        Checks.ok_bind, hbest, hrequire]
    · left
      refine ⟨composeResult collected refinement dissolved, ?_, ?_, rfl⟩
      · refine delineate_eq_ok_iff.mpr
          ⟨collected, refinement, dissolved, hcollected, hbest, ?_, rfl⟩
        rw [← hdissolved]
        exact dissolveWatershed_of_isSkipped hskipped
      · exact fun happlied => hskipped.not_isApplied (isApplied_outcome_iff.mp happlied)

end Modes

end Engine

/-! ### A sample -/

/-- Geometry that keeps all polygons as they are. -/
def sampleGeometry : AssemblyGeometry where
  dissolveSpatialReduceStrategy := id
  cleanTopology geometry _ := geometry
  unsignedArea _ := ⟨0⟩
  makeCcwWinding := id
  makeCwWinding := id
  geodesicAreaUnsigned _ := ⟨Binary64.one⟩

/-- The units of a session, and the rasters under them. -/
def sampleEngine (table : CatchmentTable) (built : IdIndexBuildResult) :
    Engine Unit AssemblyOptions where
  manifest := ⟨"0.4.0", "sample", "1", 2⟩
  graph := ⟨[⟨⟨1⟩, ⟨0⟩, [⟨2⟩]⟩, ⟨⟨2⟩, ⟨0⟩, []⟩], List.pairwise_pair.mpr (by decide)⟩
  catchments := table.openObject permissiveHfx built
  snapStores := []
  hfx := permissiveHfx
  midpoint min _ := ⟨min.bits.zeroExtend 64⟩
  toGeo _ := .ok (.multiPolygon smallTerminal)
  decodeSnapWkb _ := .error "no geometry"
  resolver :=
    { searchBbox := sampleContext.searchBbox
      decodeWkb := sampleContext.decodeWkb
      snapNearestPoint := sampleContext.snapNearestPoint
      decodeWkbMultiPolygon _ := .ok smallTerminal
      contains polygons p := polygons.any (strictContains · p.toNative)
      intersects polygons p := polygons.any (strictContains · p.toNative)
      levelOf := sampleContext.levelOf }
  refiner :=
    { pantry := nestedTiles
      unreadableSchemas := []
      strategy := d8RasterRefinementStrategy ⟨id, .ok⟩ strictContains
      text := ⟨fun _ => "session", fun _ => "refinement", fun _ => "raster source",
        fun _ => "strategy"⟩ }
  assembleFromGeometries := sampleGeometry.assembleFromGeometries
  assemblyText _ := "assembly"

/-- An outlet in the upper left cell of the rasters. -/
def sampleOutlet : GeoCoord := ⟨⟨0x3fe0000000000000⟩, ⟨0xbfe0000000000000⟩⟩

/-- Options for the sample: refinement is tried, holes are removed and nothing is repaired. -/
def sampleOptions : DelineationOptions AssemblyOptions where
  resolverConfig := ⟨⟨⟨0x408f400000000000⟩, by decide, by decide⟩, ⟨0⟩, .distanceFirst⟩
  snapThreshold := ⟨2⟩
  refinementMode := .bestEffort
  assembly := ⟨.removeAll, ⟨⟨0x3ee4f8b588e368f1⟩⟩, none⟩

/-- The strategy of the sample returns, since its rasters can be read. -/
theorem returns_sampleEngine (table : CatchmentTable) (built : IdIndexBuildResult)
    (input : TerminalRefinementInput) :
    Fault.Returns ((sampleEngine table built).refiner.strategy input
      (sampleEngine table built).refiner.pantry) := by
  refine returns_d8RasterRefinementStrategy fun source hsource => ?_
  obtain rfl := Option.some.inj hsource
  intro uri box encoding tile htile
  obtain rfl := Except.ok.inj htile
  split_ifs <;> decide

/-- The row groups of the sample are selected in order. -/
theorem selectedRowGroupsForIds_sampleEngine {table : CatchmentTable} {built : IdIndexBuildResult}
    (h : (table.file permissiveHfx).Indexed built) (ids : List UnitId) :
    (sampleEngine table built).catchments.selectedRowGroupsForIds ids
      = (List.range table.groups.length).filter (idCandidate built ids) :=
  selectedRowGroupsForIds_eq (indexes_of_indexed h)

/-- The rasters under the outlet refine the terminal, so that trying and requiring refinement give
one result. -/
theorem delineate_modes_sample : ∃ result,
    (sampleEngine apartTable apartBuilt).delineate sampleOutlet
      (sampleOptions.withRefinementMode .requireD8) = .ok result ∧
    (sampleEngine apartTable apartBuilt).delineate sampleOutlet
      (sampleOptions.withRefinementMode .bestEffort) = .ok result ∧
    result.refinement.IsApplied := by
  obtain ⟨result, hresult⟩ : ∃ result, (sampleEngine apartTable apartBuilt).delineate sampleOutlet
      (sampleOptions.withRefinementMode .requireD8) = .ok result := by
    refine Checks.exists_of_isOk ?_
    simp only [Engine.delineate, Engine.collect, producePreMergeUnits, CatchmentReader.queryByIds,
      CatchmentReader.queryGeometriesByIds, selectedRowGroupsForIds_sampleEngine indexed_apartBuilt]
    decide +kernel
  have hmodes := Engine.delineate_modes (sampleEngine apartTable apartBuilt) sampleOutlet
    sampleOptions
  exact ⟨result, hresult, (hmodes.1 result).mp hresult⟩

end WatershedDelineation
