import WatershedDelineation.Engine.Delineate

/-!
# Delineations on a validated session

What the checks at open time buy a delineation (`delineate_validated`). It stays on the finest
level, and returns the units upstream of the terminal, each once and with its row; it never fails
because the graph, the catchments and their index do not fit together. What is left are errors of
the resolution of the outlet, of rows that cannot be read, of the final assembly, and of refinement
where refinement is required.
-/

namespace WatershedDelineation

/-- **The unit that an outlet is resolved to** among snap targets is on the selected level. -/
theorem levelOf_of_resolveSnapCandidates {G P : Type} {ctx : ResolverContext G P}
    {outlet : GeoCoord} {level : Level} {config : ResolverConfig} {candidates : List SnapTarget}
    {resolved : OutletResolution}
    (h : resolveSnapCandidates ctx outlet (some level) config candidates = .ok resolved) :
    ctx.levelOf resolved.unitId = some level := by
  simp only [resolveSnapCandidates] at h
  split_ifs at h
  split at h
  · cases h
  next winner hwinner =>
  obtain rfl := Except.ok.inj h
  have hmem := ConfiguredVectorCandidateRanker.band_subset
    (ConfiguredVectorCandidateRanker.selected_spec hwinner).1
  obtain ⟨score, hscore, hcandidate⟩ := List.mem_filterMap.mp hmem
  obtain ⟨target, -, rfl⟩ := List.mem_map.mp hscore
  have htarget := target_of_scoreTarget hcandidate
  -- a target of another level is skipped
  by_contra hne
  rw [scoreTarget, if_pos] at hcandidate
  · cases hcandidate
  · rw [Option.any_some, decide_eq_true_eq, ← htarget]
    exact hne

/-- Among catchments, it is that of one on the selected level. -/
theorem exists_unit_of_resolvePipCandidates {G P : Type} {ctx : ResolverContext G P}
    {outlet : GeoCoord} {level : Level} {candidates : List CatchmentUnit}
    {resolved : OutletResolution}
    (h : resolvePipCandidates ctx outlet (some level) candidates = .ok resolved) :
    ∃ unit ∈ candidates, unit.level = level ∧ resolved.unitId = unit.id := by
  simp only [resolvePipCandidates] at h
  rw [Checks.ite_error_eq_ok_iff] at h
  obtain ⟨-, h⟩ := h
  split at h
  · split_ifs at h
  next winner tieBreak hwinner =>
  obtain rfl := Except.ok.inj h
  obtain ⟨decoded, hdecoded, rfl⟩ :=
    List.mem_map.mp ((pipHits_sublist _).subset (mem_of_pipCascade hwinner))
  obtain ⟨hdecoded, hlevel⟩ := List.mem_filter.mp hdecoded
  obtain ⟨unit, hunit, hdecode⟩ := List.mem_filterMap.mp hdecoded
  obtain ⟨mp, -, rfl⟩ := Option.map_eq_some_iff.mp hdecode
  exact ⟨unit, hunit, by simpa using hlevel, rfl⟩

/-- The errors of refinement. -/
def DelineateError.IsRefinement : DelineateError → Prop
  | .rasterLocalize _ _ | .d8Selection _ _ | .requiredD8RasterSourceMissing _ | .refinement _ _ =>
    True
  | _ => False

/-- What terminal refinement fails with is an error of refinement. -/
theorem DelineateError.isRefinement_ofTerminalRefinementError (error : TerminalRefinementError) :
    (DelineateError.ofTerminalRefinementError error).IsRefinement := by
  cases error <;> trivial

/-- Refinement fails where it is required only. -/
theorem Refiner.refineTerminal_error {refiner : Refiner} {mode : RefinementMode}
    {snapThreshold : SnapThreshold} {resolved : OutletResolution} {terminal : UnitId}
    {units : List (PreMergeDrainageUnit Polygon)} {e : Fault DelineateError}
    (hterminal : ∃ unit ∈ units.head?, unit.id = terminal)
    (hstrategy : ∀ input, Fault.Returns (refiner.strategy input refiner.pantry))
    (h : refiner.refineTerminal mode snapThreshold resolved terminal units = .error e) :
    mode = .requireD8 ∧ ∃ error : DelineateError, e = .err error ∧ error.IsRefinement := by
  cases mode with
  | disabled => cases h
  | bestEffort =>
    obtain ⟨refinement, hrefinement⟩ := exists_refineTerminal hterminal hstrategy
    rw [hrefinement] at h
    cases h
  | requireD8 =>
    refine ⟨rfl, ?_⟩
    obtain ⟨unit, hunit, hid⟩ := hterminal
    have hfind : units.head?.filter (·.id = terminal) = some unit := by
      rw [Option.mem_def.mp hunit, Option.filter_some, if_pos (decide_eq_true hid)]
    rw [refineTerminal] at h
    split_ifs at h
    · rw [attempt, hfind, Checked.orErr_some, Checks.ok_bind] at h
      dsimp only at h
      split at h
      · next decision _ =>
        cases decision with
        | applied refinedOutlet geometry provenance => cases h
        | bestEffortSkipped provenance => exact ⟨_, (Except.error.inj h).symm, trivial⟩
      · exact ⟨_, (Except.error.inj h).symm,
          DelineateError.isRefinement_ofTerminalRefinementError _⟩
      · next hpanic =>
        obtain ⟨error, herror⟩ := hstrategy _ _ hpanic
        cases herror
      · next hdiverge =>
        obtain ⟨error, herror⟩ := hstrategy _ _ hdiverge
        cases herror
    · exact ⟨_, (Except.error.inj h).symm, trivial⟩

namespace Engine

variable {G O : Type}

/-- An engine of a session whose graph has been validated against its catchments file. -/
structure Opened (engine : Engine G O) (table : CatchmentTable) (built : IdIndexBuildResult) :
    Prop where
  catchments_eq : engine.catchments = table.openObject engine.hfx built
  indexed : (table.file engine.hfx).Indexed built
  validated : ∃ groups levelsIndexed levels,
    (table.file engine.hfx).idLevelGroups = .ok groups ∧
      validateGraphCatchments engine.manifest engine.graph
        (.ofTable groups.flatten built.idRowGroups levelsIndexed) = .ok levels

/-- What a delineation reads: the units `ids` upstream of the unit `terminal` that its outlet is
resolved to on the finest level. -/
def Reads (engine : Engine G O) (outlet : GeoCoord) (config : ResolverConfig) (terminal : UnitId)
    (ids : List UnitId) : Prop :=
  ∃ level resolved upstream, engine.maxLevel = some level ∧
    engine.resolveOutletAtLevel outlet level config = .ok resolved ∧ resolved.unitId = terminal ∧
    collectUpstream terminal engine.graph = .ok upstream ∧ upstream.unitIds = ids

/-- A result that fits its session. It has the units upstream of the terminal that the outlet is
resolved to, each once, all on the finest level, with the fields of their rows in the file and with
links to units of the result that list them upstream; its geometry is not empty. -/
structure WellFormed (engine : Engine G O) (table : CatchmentTable) (outlet : GeoCoord)
    (options : DelineationOptions O) (result : Delineation) : Prop where
  reads : engine.Reads outlet options.resolverConfig result.terminalUnitId result.upstreamUnitIds
  mem_iff : ∀ id, id ∈ result.upstreamUnitIds ↔ engine.graph.Reaches result.terminalUnitId id
  nodup : result.upstreamUnitIds.Nodup
  map_id : result.upstreamUnits.map DelineationUnitMetadata.id = result.upstreamUnitIds
  level : ∃ level, engine.maxLevel = some level ∧ ∀ unit ∈ result.upstreamUnits,
    unit.level = level ∧ levelOf engine.graph unit.id = some level
  record : ∀ unit ∈ result.upstreamUnits, ∃ record ∈ table.rows, ∃ row,
    extractUnit engine.hfx engine.midpoint table.columns.fullProjection record = .ok row ∧
      unit = .ofUnit row unit.downstreamId
  downstream : ∀ unit ∈ result.upstreamUnits,
    if unit.id = result.terminalUnitId then unit.downstreamId = none
    else ∃ id ∈ result.upstreamUnitIds, unit.downstreamId = some id ∧
      engine.graph.Upstream id unit.id
  geometry_ne_nil : result.geometry ≠ []

/-- Why a delineation of an outlet on a validated session fails: for a reason in the dataset or in
the outlet, each told from the rows of the file and the units that this delineation reads. -/
inductive DataError (engine : Engine G O) (table : CatchmentTable) (outlet : GeoCoord)
    (options : DelineationOptions O) : DelineateError → Prop
  | noUnits (h : engine.manifest.unitCount = 0) :
    DataError engine table outlet options
      (.sessionLevelIndexEmpty engine.manifest.fabricName 0)
  /-- The outlet is not resolved on the finest level. -/
  | resolution {level : Level} {source : OutletResolutionError}
    (hlevel : engine.maxLevel = some level)
    (h : engine.resolveOutletAtLevel outlet level options.resolverConfig
      = .error (.err (.resolution outlet source))) :
    DataError engine table outlet options (.resolution outlet source)
  /-- No unit can be made of a row. -/
  | units {terminal : UnitId} {ids : List UnitId} {row : ℕ} {record : CatchmentRecord}
    {source : SessionError} (hreads : engine.Reads outlet options.resolverConfig terminal ids)
    (hrecord : record ∈ table.rows)
    (h : keepRow (extractUnit engine.hfx engine.midpoint table.columns.fullProjection) row record
      = .error source) :
    DataError engine table outlet options (.stage (.preMergeCatchmentFetch ids.length source))
  /-- A row has no id, or is one of the units and has no geometry. -/
  | geometries {terminal : UnitId} {ids : List UnitId} {row : ℕ} {record : CatchmentRecord}
    {source : SessionError} (hreads : engine.Reads outlet options.resolverConfig terminal ids)
    (hrecord : record ∈ table.rows)
    (h : extractDecodedGeometry engine.hfx engine.toGeo ids.toFinset row record
      = .error (.read source)) :
    DataError engine table outlet options (.stage (.preMergeCatchmentFetch ids.length source))
  /-- The geometry of one of the units cannot be decoded. -/
  | decode {terminal unitId : UnitId} {ids : List UnitId} {record : CatchmentRecord}
    {wkb : List UInt8} {source : WkbDecodeError}
    (hreads : engine.Reads outlet options.resolverConfig terminal ids) (hid : unitId ∈ ids)
    (hrecord : record ∈ table.rows) (hrow : extractId engine.hfx record = .ok unitId)
    (hwkb : record.geometry = some wkb)
    (h : decodeWkbMultiPolygonBytes engine.toGeo wkb = .error source) :
    DataError engine table outlet options (.stage (.preMergeCatchmentDecode unitId.raw source))
  /-- The geometry of one of the units has no polygon. -/
  | emptyGeometry {terminal : UnitId} {ids : List UnitId} {record : CatchmentRecord}
    {row : DecodedCatchmentGeometryRow Polygon}
    (hreads : engine.Reads outlet options.resolverConfig terminal ids) (hid : row.id ∈ ids)
    (hrecord : record ∈ table.rows) (hrow : DecodedFrom engine.hfx engine.toGeo record row)
    (h : row.geometry = []) :
    DataError engine table outlet options (.stage (.assembly terminal.raw
      (engine.assemblyText (.emptyCatchmentGeometry row.id)) (.emptyCatchmentGeometry row.id)))
  /-- The geometries of the units give no area. -/
  | assembly {terminal : UnitId} {ids : List UnitId} {source : AssemblyError}
    (hreads : engine.Reads outlet options.resolverConfig terminal ids) (h : source.IsFinal) :
    DataError engine table outlet options
      (.stage (.assembly terminal.raw (engine.assemblyText source) source))
  | refinement {error : DelineateError} (hmode : options.refinementMode = .requireD8)
    (h : error.IsRefinement) : DataError engine table outlet options error

section Opened

variable {engine : Engine G O} {table : CatchmentTable} {built : IdIndexBuildResult} {level : Level}
  {outlet : GeoCoord} {options : DelineationOptions O} {collected : Collected}

/-- The ids and levels of the file agree with the graph, since the session has been validated. -/
theorem Opened.exists_agree (h : engine.Opened table built) : ∃ groups,
    (table.file engine.hfx).idLevelGroups = .ok groups ∧
      GraphCatchmentsAgree engine.manifest engine.graph groups.flatten := by
  obtain ⟨groups, levelsIndexed, levels, hgroups, hlevels⟩ := h.validated
  exact ⟨groups, hgroups, .of_validate hlevels⟩

/-- Units of a level drain into units of the same level only. -/
theorem Opened.levelClosed (h : engine.Opened table built) : engine.graph.LevelClosed := by
  obtain ⟨groups, -, hagree⟩ := h.exists_agree
  exact hagree.upstream

/-- The units of the file are in the graph, on the same level. -/
theorem Opened.levelOf_unit (h : engine.Opened table built) {columns : CatchmentColumns}
    (hcolumns : columns.level = table.columns.level) {record : CatchmentRecord}
    (hrecord : record ∈ table.rows) {unit : CatchmentUnit}
    (hunit : extractUnit engine.hfx engine.midpoint columns record = .ok unit) :
    levelOf engine.graph unit.id = some unit.level := by
  obtain ⟨groups, hgroups, hagree⟩ := h.exists_agree
  have hrow := idLevel_of_unit hgroups hcolumns hrecord hunit
  have hid := (hagree.ids unit.id).mp (List.mem_map_of_mem hrow)
  obtain ⟨row, hget⟩ := Option.isSome_iff_exists.mp (DrainageGraph.get_isSome_iff.mpr hid)
  obtain ⟨hmem, hrowId⟩ := DrainageGraph.get_eq_some_iff.mp hget
  have hlevel : unit.level = row.level := hagree.level _ hrow row hmem hrowId.symm
  rw [levelOf, hget, Option.map_some, hlevel]

/-- The units of the graph have rows in the file. -/
theorem Opened.mem_unitIds (h : engine.Opened table built) {id : UnitId}
    (hid : id ∈ engine.graph.ids) : id ∈ table.unitIds engine.hfx := by
  obtain ⟨groups, hgroups, hagree⟩ := h.exists_agree
  obtain ⟨row, hrow, rfl⟩ := List.mem_map.mp ((hagree.ids id).mpr hid)
  exact mem_unitIds_of_idLevel hgroups hrow

/-! ### The stages -/

/-- There is a finest level unless the dataset is empty. -/
theorem Opened.selectLevel_error (h : engine.Opened table built) {e : Fault DelineateError}
    (herror : engine.selectLevel = .error e) :
    e = .err (.sessionLevelIndexEmpty engine.manifest.fabricName 0) ∧
      engine.manifest.unitCount = 0 := by
  obtain ⟨groups, -, hagree⟩ := h.exists_agree
  cases hmax : engine.maxLevel with
  | some level => simp [selectLevel, hmax] at herror
  | none =>
    rw [maxLevel, Option.map_eq_none_iff, List.max?_eq_none_iff, List.map_eq_nil_iff] at hmax
    have hnil : groups.flatten = [] := by
      refine List.eq_nil_iff_forall_not_mem.mpr fun row hrow => ?_
      have hid := (hagree.ids row.id).mp (List.mem_map_of_mem hrow)
      rw [DrainageGraph.ids, hmax] at hid
      cases hid
    have hcount : engine.manifest.unitCount = 0 := by rw [← hagree.count, hnil, List.length_nil]
    rw [selectLevel, maxLevel, hmax, hcount] at herror
    exact ⟨(Except.error.inj herror).symm, hcount⟩

/-- **Resolution stays on the selected level**, on both paths. -/
theorem Opened.levelOf_resolved (h : engine.Opened table built) {outlet : GeoCoord}
    {config : ResolverConfig} {resolved : OutletResolution}
    (hresolved : engine.resolveOutletAtLevel outlet level config = .ok resolved) :
    levelOf engine.graph resolved.unitId = some level := by
  rw [resolveOutletAtLevel, Checks.mapError_eq_ok_iff] at hresolved
  split at hresolved
  · simp only [resolveViaSnapStore, Checks.bind_eq_ok_iff] at hresolved
    obtain ⟨bbox, -, candidates, -, hcandidates⟩ := hresolved
    exact levelOf_of_resolveSnapCandidates hcandidates
  · simp only [resolveViaPip, Checks.bind_eq_ok_iff, Checks.mapError_eq_ok_iff] at hresolved
    obtain ⟨bbox, -, candidates, hquery, hcandidates⟩ := hresolved
    obtain ⟨unit, hunit, rfl, hid⟩ := exists_unit_of_resolvePipCandidates hcandidates
    rw [h.catchments_eq] at hquery
    obtain ⟨record, hrecord, hextract⟩ := exists_record_of_queryByBbox hquery hunit
    rw [hid]
    exact h.levelOf_unit rfl hrecord hextract

/-- Traversal cannot fail. -/
theorem Opened.exists_traverse (h : engine.Opened table built) {terminal : UnitId}
    (hlevel : levelOf engine.graph terminal = some level) :
    ∃ upstream, traverseUpstreamAtLevel engine.graph (levelOf engine.graph) level terminal
      = .ok upstream := by
  obtain ⟨row, hrow, -⟩ := Option.map_eq_some_iff.mp hlevel
  have hmem : terminal ∈ engine.graph.ids := by
    rw [← DrainageGraph.get_isSome_iff, hrow, Option.isSome_some]
  obtain ⟨upstream, hupstream⟩ := h.levelClosed.exists_collectUpstream hmem
  refine ⟨upstream, traverseUpstreamAtLevel_eq_ok_iff.mpr ⟨hupstream, fun id hid => ?_⟩⟩
  rw [h.levelClosed.levelOf_eq ((mem_unitIds_iff hupstream).mp hid), hlevel]

/-- The records of the units can be made unless there is a row that cannot be read. -/
theorem Opened.producePreMergeUnits_error (h : engine.Opened table built) {terminal : UnitId}
    {upstream : UpstreamUnits}
    (hreads : engine.Reads outlet options.resolverConfig terminal upstream.unitIds)
    (hupstream : traverseUpstreamAtLevel engine.graph (levelOf engine.graph) level terminal
      = .ok upstream) {e : Fault EngineError}
    (herror : producePreMergeUnits (engine.catchments.queryByIds engine.hfx engine.midpoint)
      (engine.catchments.queryGeometriesByIds engine.hfx engine.toGeo) level upstream = .error e) :
    ∃ error : EngineError, e = .err error ∧
      engine.DataError table outlet options (.stage error) := by
  rw [producePreMergeUnits, h.catchments_eq, Checks.bind_eq_error_iff,
    Checks.mapError_eq_error_iff] at herror
  obtain ⟨source, hsource, rfl⟩ | ⟨units, hunits, herror⟩ := herror
  · obtain ⟨row, record, hrecord, hrow⟩ := exists_of_queryByIds_eq_error hsource
    exact ⟨_, rfl, .units hreads hrecord hrow⟩
  rw [Checks.bind_eq_error_iff, Checks.mapError_eq_error_iff] at herror
  obtain ⟨source, hsource, rfl⟩ | ⟨rows, hrows, herror⟩ := herror
  · obtain ⟨row, record, hrecord, hrow⟩ := exists_of_queryGeometriesByIds_eq_error hsource
    cases source with
    | read source => exact ⟨_, rfl, .geometries hreads hrecord hrow⟩
    | decode unitId source =>
      obtain ⟨hid, hrowId, wkb, hwkb, hdecode⟩ := extractDecodedGeometry_eq_decode hrow
      exact ⟨_, rfl, .decode hreads (List.mem_toFinset.mp hid) hrecord hrowId hwkb hdecode⟩
  -- every collected unit has a row with its level, and a geometry
  rw [Checks.mapError_eq_ok_iff] at hunits hrows
  obtain ⟨hcollect, hlevels⟩ := traverseUpstreamAtLevel_eq_ok_iff.mp hupstream
  have hids : ∀ id ∈ upstream.unitIds, id ∈ (table.unitIds engine.hfx).filter (· ∈ upstream.unitIds)
      := by
    intro id hid
    refine List.mem_filter.mpr ⟨h.mem_unitIds ?_, decide_eq_true hid⟩
    exact (collectUpstream_post hcollect).2.2 id hid
  have hunitLevels : ∀ unit ∈ units, unit.level = level := by
    intro unit hunit
    obtain ⟨hid, record, hrecord, hextract⟩ := (mem_queryByIds_iff h.indexed hunits).mp hunit
    have hcolumns : table.columns.fullProjection.level = table.columns.level := rfl
    have hunitLevel := h.levelOf_unit hcolumns hrecord hextract
    rw [hlevels unit.id hid] at hunitLevel
    exact (Option.some.inj hunitLevel).symm
  have hmetadata := exists_collectMap_units
    (fun id hid => by rw [map_id_queryByIds h.indexed hunits]; exact hids id hid) hunitLevels
  have hgeometries : ∀ id ∈ upstream.unitIds,
      (collectMap (rows.map fun row => (row.id, row.geometry)) id).isSome := by
    intro id hid
    refine isSome_collectMap ?_
    rw [List.map_map]
    change id ∈ rows.map DecodedCatchmentGeometryRow.id
    rw [map_id_queryGeometriesByIds h.indexed hrows]
    exact hids id hid
  obtain ⟨units', hunits'⟩ := @exists_preMergeUnits Polygon level upstream.unitIds.length _ _ _
    (by simpa using (collectUpstream_post hcollect).1.nodup) hmetadata hgeometries
  rw [hunits'] at herror
  cases herror

/-- The stages before refinement read the units upstream of the terminal. -/
theorem reads_of_collect (h : engine.collect outlet options.resolverConfig = .ok collected) :
    engine.Reads outlet options.resolverConfig collected.resolved.unitId
      collected.upstream.unitIds := by
  obtain ⟨level, metadata, rows, hlevel, hresolved, hupstream, -⟩ := exists_of_collect h
  exact ⟨level, collected.resolved, collected.upstream, hlevel, hresolved, rfl, hupstream, rfl⟩

/-- The records have the fields of rows of the file. -/
theorem Opened.record_of_collect (h : engine.Opened table built)
    (hcollect : engine.collect outlet options.resolverConfig = .ok collected) :
    ∀ unit ∈ collected.units, ∃ record ∈ table.rows, ∃ row,
      extractUnit engine.hfx engine.midpoint table.columns.fullProjection record = .ok row ∧
        ∀ downstreamId, DelineationUnitMetadata.fromPreMerge unit downstreamId
          = .ofUnit row downstreamId := by
  obtain ⟨level, metadata, rows, -, -, -, -, hmetadata, -, hunits⟩ := exists_of_collect hcollect
  rw [h.catchments_eq] at hmetadata
  intro unit hunit
  obtain ⟨row, hrow, -, heq⟩ := metadata_of_preMergeUnits hunits unit hunit
  obtain ⟨row', hmem, hpair⟩ := List.mem_map.mp (mem_of_collectMap hrow)
  obtain ⟨hid, rfl⟩ := Prod.mk.inj hpair
  obtain ⟨-, record, hrecord, hextract⟩ := (mem_queryByIds_iff h.indexed hmetadata).mp hmem
  refine ⟨record, hrecord, row', hextract, fun downstreamId => ?_⟩
  rw [heq, DelineationUnitMetadata.fromPreMerge, DelineationUnitMetadata.ofUnit, hid]

/-- The geometries of the records are decoded from rows of the file. -/
theorem Opened.geometry_of_collect (h : engine.Opened table built)
    (hcollect : engine.collect outlet options.resolverConfig = .ok collected) :
    ∀ unit ∈ collected.units, ∃ record ∈ table.rows,
      DecodedFrom engine.hfx engine.toGeo record ⟨unit.id, unit.geometry⟩ := by
  obtain ⟨level, metadata, rows, -, -, -, -, -, hrows, hunits⟩ := exists_of_collect hcollect
  rw [h.catchments_eq] at hrows
  intro unit hunit
  have hgeometry := geometry_of_preMergeUnits hunits unit hunit
  obtain ⟨row, hmem, hpair⟩ := List.mem_map.mp (mem_of_collectMap hgeometry)
  obtain ⟨hid, hrowGeometry⟩ := Prod.mk.inj hpair
  obtain ⟨-, record, hrecord, hdecoded⟩ :=
    (mem_queryGeometriesByIds_iff h.indexed hrows).mp hmem
  rw [← hid, ← hrowGeometry]
  exact ⟨record, hrecord, hdecoded⟩

/-- The stages before refinement fail for reasons in the data only. -/
theorem Opened.collect_error (h : engine.Opened table built) {e : Fault DelineateError}
    (herror : engine.collect outlet options.resolverConfig = .error e) :
    ∃ error, e = .err error ∧ engine.DataError table outlet options error := by
  rw [collect, Checks.bind_eq_error_iff] at herror
  obtain herror | ⟨level, hlevel, herror⟩ := herror
  · obtain ⟨rfl, hcount⟩ := h.selectLevel_error herror
    exact ⟨_, rfl, .noUnits hcount⟩
  rw [selectLevel, Checked.orErr_eq_ok_iff] at hlevel
  rw [Checks.bind_eq_error_iff] at herror
  obtain herror | ⟨resolved, hresolved, herror⟩ := herror
  · have hresolution := herror
    rw [resolveOutletAtLevel, Checks.mapError_eq_error_iff] at hresolution
    obtain ⟨source, -, rfl⟩ := hresolution
    exact ⟨_, rfl, .resolution hlevel herror⟩
  rw [Checks.bind_eq_error_iff, Checks.mapError_eq_error_iff] at herror
  obtain ⟨e', herror, -⟩ | ⟨upstream, hupstream, herror⟩ := herror
  · obtain ⟨upstream, hupstream⟩ := h.exists_traverse (h.levelOf_resolved hresolved)
    cases hupstream.symm.trans herror
  rw [Checks.mapError_eq_ok_iff] at hupstream
  rw [Checks.bind_eq_error_iff, Checks.mapError_eq_error_iff] at herror
  obtain ⟨e', herror, rfl⟩ | ⟨units, -, herror⟩ := herror
  · have hreads : engine.Reads outlet options.resolverConfig resolved.unitId upstream.unitIds :=
      ⟨level, resolved, upstream, hlevel, hresolved, rfl,
        (traverseUpstreamAtLevel_eq_ok_iff.mp hupstream).1, rfl⟩
    obtain ⟨error, rfl, hdata⟩ := h.producePreMergeUnits_error hreads hupstream herror
    exact ⟨_, rfl, hdata⟩
  · cases herror

end Opened

section Validated

variable {G : Type} {engine : Engine G AssemblyOptions} {table : CatchmentTable}
  {built : IdIndexBuildResult} {geo : AssemblyGeometry} {outlet : GeoCoord}
  {options : DelineationOptions AssemblyOptions} {collected : Collected}
  {refinement : StagedTerminalRefinement}

/-- Dissolving the units fails for a unit without polygons, or in the final assembly. -/
theorem Opened.dissolveWatershed_error (h : engine.Opened table built)
    (hassembly : engine.assembleFromGeometries = geo.assembleFromGeometries)
    (hcollect : engine.collect outlet options.resolverConfig = .ok collected)
    {e : Fault DelineateError}
    (herror : engine.dissolveWatershed options collected refinement = .error e) :
    ∃ error, e = .err error ∧ engine.DataError table outlet options error := by
  obtain ⟨level, metadata, rows, -, -, hupstream, -⟩ := exists_of_collect hcollect
  have hids := map_id_collect hcollect
  have hnodup : (collected.units.map PreMergeDrainageUnit.id).Nodup := by
    rw [hids]
    simpa using (collectUpstream_post hupstream).1.nodup
  have hterminal : collected.resolved.unitId ∈ collected.units.map PreMergeDrainageUnit.id := by
    rw [hids]
    exact (mem_unitIds_iff hupstream).mpr .refl
  rw [dissolveWatershed, Checks.mapError_eq_error_iff] at herror
  obtain ⟨e', he', rfl⟩ := herror
  obtain ⟨error, rfl, ⟨unit, hunit, hempty, rfl⟩ | ⟨geometries, hne, hfinal⟩⟩ :=
    WatershedDelineation.dissolveWatershed_error hnodup hterminal
      refinement.refinedTerminalGeometry_ne_nil he'
  · obtain ⟨record, hrecord, hdecoded⟩ := h.geometry_of_collect hcollect unit hunit
    have hid : unit.id ∈ collected.upstream.unitIds := hids ▸ List.mem_map_of_mem hunit
    exact ⟨_, rfl, .emptyGeometry (reads_of_collect hcollect) hid hrecord hdecoded hempty⟩
  · rw [hassembly] at hfinal
    exact ⟨_, rfl, .assembly (reads_of_collect hcollect)
      (AssemblyGeometry.isFinal_of_assembleFromGeometries hne hfinal)⟩

/-- The result of the stages fits the session. -/
theorem Opened.wellFormed_composeResult (h : engine.Opened table built)
    (hassembly : engine.assembleFromGeometries = geo.assembleFromGeometries)
    (hcollect : engine.collect outlet options.resolverConfig = .ok collected)
    {dissolved : MultiPolygon × Algo.AreaKm2}
    (hdissolved : engine.dissolveWatershed options collected refinement = .ok dissolved) :
    engine.WellFormed table outlet options (composeResult collected refinement dissolved) := by
  obtain ⟨level, metadata, rows, hlevel, -, hupstream, hlevels, -, -, hunits⟩ :=
    exists_of_collect hcollect
  have hids := map_id_collect hcollect
  have hmem : ∀ unit ∈ collected.units, unit.id ∈ collected.upstream.unitIds := fun unit hunit =>
    hids ▸ List.mem_map_of_mem hunit
  obtain ⟨hnone, hsome⟩ := downstreamOf_spec hupstream
  have hnodup : collected.upstream.unitIds.Nodup := by
    simpa using (collectUpstream_post hupstream).1.nodup
  refine ⟨reads_of_collect hcollect, fun id => mem_unitIds_iff hupstream, hnodup, ?_,
    ⟨level, hlevel, ?_⟩, ?_, ?_, ?_⟩
  · change List.map _ (List.map _ _) = _
    rw [List.map_map]
    exact hids
  · change ∀ unit ∈ List.map _ collected.units, _
    rw [List.forall_mem_map]
    intro unit hunit
    obtain ⟨row, -, hrowLevel, heq⟩ := metadata_of_preMergeUnits hunits unit hunit
    refine ⟨?_, hlevels unit.id (hmem unit hunit)⟩
    rw [heq]
    exact hrowLevel
  · change ∀ unit ∈ List.map _ collected.units, _
    rw [List.forall_mem_map]
    intro unit hunit
    obtain ⟨record, hrecord, row, hextract, heq⟩ := h.record_of_collect hcollect unit hunit
    exact ⟨record, hrecord, row, hextract, heq _⟩
  · change ∀ unit ∈ List.map _ collected.units, _
    rw [List.forall_mem_map]
    intro unit hunit
    split_ifs with hterminal
    · exact hnone unit.id (.inl hterminal)
    · obtain ⟨id, hid, hlink, hup, -⟩ := hsome unit.id (hmem unit hunit) hterminal
      exact ⟨id, hid, hlink, hup⟩
  · rw [dissolveWatershed, Checks.mapError_eq_ok_iff, WatershedDelineation.dissolveWatershed,
      Checks.mapError_eq_ok_iff, Checks.bind_eq_ok_iff, hassembly] at hdissolved
    obtain ⟨geometries, -, hfinal⟩ := hdissolved
    exact AssemblyGeometry.ne_nil_of_assembleFromGeometries hfinal

/-- **Delineation on a validated session.** A result has the units upstream of the terminal that the
outlet is resolved to, each once and with the fields of its own row, all on the finest level of the
dataset, and a geometry that is not empty. An error has its reason in the data: the dataset is
empty, the outlet cannot be resolved, a row cannot be read or decoded or has no polygons, the final
assembly fails on the geometries it is handed, or refinement fails where it is required. -/
theorem delineate_validated (hopened : engine.Opened table built)
    (hassembly : engine.assembleFromGeometries = geo.assembleFromGeometries)
    (hstrategy : ∀ input, Fault.Returns (engine.refiner.strategy input engine.refiner.pantry))
    (outlet : GeoCoord) (options : DelineationOptions AssemblyOptions) :
    (∀ result, engine.delineate outlet options = .ok result →
      engine.WellFormed table outlet options result) ∧
    ∀ e, engine.delineate outlet options = .error e →
      ∃ error, e = .err error ∧ engine.DataError table outlet options error := by
  constructor
  · intro result h
    simp only [delineate, Checks.bind_eq_ok_iff, Except.ok.injEq] at h
    obtain ⟨collected, hcollect, refinement, -, dissolved, hdissolved, rfl⟩ := h
    exact hopened.wellFormed_composeResult hassembly hcollect hdissolved
  · intro e h
    rw [delineate, Checks.bind_eq_error_iff] at h
    obtain h | ⟨collected, hcollect, h⟩ := h
    · exact hopened.collect_error h
    rw [Checks.bind_eq_error_iff] at h
    obtain h | ⟨refinement, -, h⟩ := h
    · obtain ⟨hmode, error, rfl, herror⟩ :=
        Refiner.refineTerminal_error (exists_terminalUnit hcollect) hstrategy h
      exact ⟨error, rfl, .refinement hmode herror⟩
    rw [Checks.bind_eq_error_iff] at h
    obtain h | ⟨dissolved, -, h⟩ := h
    · exact hopened.dissolveWatershed_error hassembly hcollect h
    · cases h

end Validated

end Engine

/-! ### A sample -/

/-- The units of `apartTable`, with levels. -/
def levelledTable : CatchmentTable where
  columns := { apartTable.columns with level := true }
  rowGroups := apartTable.rowGroups.map fun rowGroup =>
    { rowGroup with batches := rowGroup.batches.map (·.map ({ · with level := some 0 })) }

/-- What is indexed of `levelledTable`. -/
def levelledBuilt : IdIndexBuildResult :=
  (readAllIdsWithRowGroups (levelledTable.file permissiveHfx)).toOption.getD
    ⟨[], fun _ => none, none⟩

theorem opened_sampleEngine :
    (sampleEngine levelledTable levelledBuilt).Opened levelledTable levelledBuilt where
  catchments_eq := rfl
  indexed := by
    obtain ⟨built, hbuilt⟩ : ∃ built, readAllIdsWithRowGroups (levelledTable.file permissiveHfx)
        = .ok built := Checks.exists_of_isOk (by decide +kernel)
    refine .ids (hbuilt.trans ?_)
    rw [levelledBuilt, hbuilt]
    rfl
  validated := ⟨[[⟨⟨1⟩, ⟨0⟩⟩], [⟨⟨2⟩, ⟨0⟩⟩]], false, _, rfl,
    GraphCatchmentsAgree.validate ⟨rfl, by decide, fun _ => Iff.rfl, by decide, by decide⟩⟩

/-- The run at `sampleOutlet` succeeds. -/
theorem delineate_validated_sample : ∃ result,
    (sampleEngine levelledTable levelledBuilt).delineate sampleOutlet sampleOptions = .ok result ∧
      (sampleEngine levelledTable levelledBuilt).WellFormed levelledTable sampleOutlet sampleOptions
        result := by
  obtain ⟨result, hresult⟩ : ∃ result,
      (sampleEngine levelledTable levelledBuilt).delineate sampleOutlet sampleOptions
        = .ok result := by
    refine Checks.exists_of_isOk ?_
    have hselected := @selectedRowGroupsForIds_sampleEngine levelledTable levelledBuilt
      opened_sampleEngine.indexed
    simp only [Engine.delineate, Engine.collect, producePreMergeUnits, CatchmentReader.queryByIds,
      CatchmentReader.queryGeometriesByIds, hselected]
    decide +kernel
  exact ⟨result, hresult, (Engine.delineate_validated opened_sampleEngine rfl
    (returns_sampleEngine levelledTable levelledBuilt) sampleOutlet sampleOptions).1 result
      hresult⟩

end WatershedDelineation
