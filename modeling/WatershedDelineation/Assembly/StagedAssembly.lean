import WatershedDelineation.Drainage.Delineation

/-!
# Assembling a watershed in stages

`dissolve_watershed` of `engine.rs` dissolves the units that `produce_pre_merge_units` has read. It
collects their geometries, puts the refined geometry of the terminal in its place and checks that
none is empty, separately from `assembly.rs`.

Both ways hand the same geometries to the final assembly, or both fail
(`dissolveStaged_eq_assembleWatershed`).
-/

namespace WatershedDelineation

open Std

/-- What refining the terminal has given. -/
inductive TerminalRefinement (P : Type)
  | disabled
  | bestEffortSkipped
  | applied (geometry : List P)

/-- The refined geometry, if there is one. -/
def TerminalRefinement.refinedTerminalGeometry {P : Type} : TerminalRefinement P → Option (List P)
  | .applied geometry => some geometry
  | .disabled | .bestEffortSkipped => none

section Dissolve

variable {P R : Type} (toText : AssemblyError → String)
  (assembleFromGeometries : List (List P) → Except AssemblyError R) (terminal : UnitId)

/-- The geometries of the units, with the terminal replaced. -/
def geometriesById (units : List (PreMergeDrainageUnit P))
    (refinedTerminalGeometry : Option (List P)) : TreeMap UnitId (List P) :=
  let geometries : TreeMap UnitId (List P) := units.foldl (fun geometries unit =>
    if unit.id = terminal ∧ refinedTerminalGeometry.isSome then geometries
    else geometries.insert unit.id unit.geometry) ∅
  match refinedTerminalGeometry with
  | some geometry => geometries.insert terminal geometry
  | none => geometries

/-- Dissolve the units into a watershed; every error of the assembly names the terminal. -/
def dissolveWatershed (units : List (PreMergeDrainageUnit P)) (refinement : TerminalRefinement P) :
    Except (Fault EngineError) R :=
  (do
    let geometries ← (geometriesById terminal units refinement.refinedTerminalGeometry).toList.mapM
      (nonEmptyGeometry terminal refinement.refinedTerminalGeometry)
    assembleFromGeometries geometries).mapError fun error =>
      .err (.assembly terminal.raw (toText error) error)

/-- Read the units, and dissolve them. -/
def dissolveStaged (queryByIds : List UnitId → Except SessionError (List CatchmentUnit))
    (queryGeometriesByIds :
      List UnitId → Except CatchmentGeometryQueryError (List (DecodedCatchmentGeometryRow P)))
    (selectedLevel : Level) (upstream : UpstreamUnits) (refinement : TerminalRefinement P) :
    Except (Fault EngineError) R := do
  let units ← producePreMergeUnits queryByIds queryGeometriesByIds selectedLevel upstream
  dissolveWatershed toText assembleFromGeometries terminal units refinement

end Dissolve

section Spec

variable {P : Type} {terminal : UnitId} {units : List (PreMergeDrainageUnit P)}
  {refined : Option (List P)} {geometryOf : UnitId → Option (List P)} {upstream : UpstreamUnits}
  {queryByIds : List UnitId → Except SessionError (List CatchmentUnit)}
  {queryGeometriesByIds :
    List UnitId → Except CatchmentGeometryQueryError (List (DecodedCatchmentGeometryRow P))}
  {selectedLevel : Level}

/-- The loop inserts the units that it does not skip. -/
theorem foldl_insert_eq_insertAll {skip : PreMergeDrainageUnit P → Prop} [DecidablePred skip] :
    units.foldl (fun geometries unit =>
        if skip unit then geometries else geometries.insert unit.id unit.geometry)
        (∅ : TreeMap UnitId (List P))
      = OrderedMap.insertAll ∅
          ((units.filter (¬skip ·)).map fun unit => (unit.id, unit.geometry)) := by
  rw [OrderedMap.insertAll, List.foldl_map, List.foldl_filter]
  congr 1
  funext geometries unit
  simp only [decide_eq_true_eq, ite_not]

theorem getElem?_geometriesById (hnodup : (units.map PreMergeDrainageUnit.id).Nodup)
    (hgeometry : ∀ unit ∈ units, geometryOf unit.id = some unit.geometry)
    (hterminal : terminal ∈ units.map PreMergeDrainageUnit.id) (id : UnitId)
    (geometry : List P) :
    (geometriesById terminal units refined)[id]? = some geometry ↔
      id ∈ units.map PreMergeDrainageUnit.id ∧
        finalGeometry geometryOf terminal refined id = some geometry := by
  have hentry : ∀ id geometry, (∃ unit ∈ units, unit.id = id ∧ unit.geometry = geometry) ↔
      id ∈ units.map PreMergeDrainageUnit.id ∧ geometryOf id = some geometry := by
    intro id geometry
    constructor
    · rintro ⟨unit, hunit, rfl, rfl⟩
      exact ⟨List.mem_map_of_mem hunit, hgeometry unit hunit⟩
    · rintro ⟨hid, hsome⟩
      obtain ⟨unit, hunit, rfl⟩ := List.mem_map.mp hid
      rw [hgeometry unit hunit] at hsome
      exact ⟨unit, hunit, rfl, Option.some.inj hsome⟩
  have hkept : ∀ (skip : PreMergeDrainageUnit P → Prop) [DecidablePred skip],
      (((units.filter (¬skip ·)).map fun unit => (unit.id, unit.geometry)).map Prod.fst).Nodup := by
    intro skip _
    rw [List.map_map]
    exact hnodup.sublist (List.filter_sublist.map _)
  cases refined with
  | none =>
    rw [geometriesById, foldl_insert_eq_insertAll, finalGeometry_none, ← hentry,
      OrderedMap.getElem?_insertAll (hkept _)]
    simp
  | some geometry' =>
    rw [geometriesById, foldl_insert_eq_insertAll]
    rcases eq_or_ne id terminal with rfl | hne
    · obtain ⟨unit, hunit, rfl⟩ := List.mem_map.mp hterminal
      rw [TreeMap.getElem?_insert_self, finalGeometry_terminal, hgeometry unit hunit,
        Option.map_some, and_iff_right hterminal]
    · rw [OrderedMap.getElem?_insert_of_ne hne, finalGeometry_of_ne hne, ← hentry,
        OrderedMap.getElem?_insertAll (hkept _)]
      simp only [Option.isSome_some, and_true, List.mem_map, List.mem_filter, decide_eq_true_eq,
        Prod.mk.injEq, and_assoc]
      refine exists_congr fun unit => and_congr_right fun _ => ?_
      exact and_iff_right_of_imp fun h => h.1 ▸ hne

/-- An empty geometry is that of a unit, where the refined terminal is not empty. -/
theorem nonEmptyGeometry_error (hrefined : refined ≠ some []) {id : UnitId} {geometry : List P}
    {error : AssemblyError} (hfinal : finalGeometry geometryOf terminal refined id = some geometry)
    (h : nonEmptyGeometry terminal refined (id, geometry) = .error error) :
    geometryOf id = some [] ∧ error = .emptyCatchmentGeometry id := by
  by_cases hterminal : id = terminal ∧ refined.isSome
  · obtain ⟨rfl, hsome⟩ := hterminal
    obtain ⟨geometry', rfl⟩ := Option.isSome_iff_exists.mp hsome
    rw [finalGeometry_terminal, Option.map_eq_some_iff] at hfinal
    obtain ⟨_, -, rfl⟩ := hfinal
    rw [nonEmptyGeometry, if_pos ⟨rfl, rfl⟩, if_neg] at h
    · cases h
    · simpa using hrefined
  · rw [nonEmptyGeometry, if_neg hterminal] at h
    split_ifs at h with hempty
    obtain rfl := Except.error.inj h
    have hunrefined : finalGeometry geometryOf terminal refined id = geometryOf id := by
      rcases not_and_or.mp hterminal with hne | hnone
      · exact finalGeometry_of_ne hne
      · rw [Option.not_isSome_iff_eq_none.mp hnone, finalGeometry_none]
    obtain rfl : geometry = [] := List.isEmpty_iff.mp hempty
    exact ⟨hunrefined ▸ hfinal, rfl⟩

/-- Geometries that are not empty have polygons, if there are any. -/
theorem flatten_ne_nil_of_mapM {entries : List (UnitId × List P)} {geometries : List (List P)}
    (hne : entries ≠ []) (h : entries.mapM (nonEmptyGeometry terminal refined) = .ok geometries) :
    geometries.flatten ≠ [] := by
  obtain ⟨entry, entries, rfl⟩ := List.exists_cons_of_ne_nil hne
  rw [Checks.mapM_eq_ok_iff, List.forall₂_cons_left_iff] at h
  obtain ⟨geometry, geometries, hentry, -, rfl⟩ := h
  have hgeometry : geometry ≠ [] := by
    rw [nonEmptyGeometry] at hentry
    split_ifs at hentry with _ hempty hempty
    all_goals
      obtain rfl := Except.ok.inj hentry
      exact fun hnil => hempty (List.isEmpty_iff.mpr hnil)
  rw [List.flatten_cons]
  exact List.append_ne_nil_of_left_ne_nil hgeometry _

/-- **Errors of dissolving units.** A unit is empty, or it is an error of the final assembly, which
is handed the polygons of all units. -/
theorem dissolveWatershed_error {R : Type} {toText : AssemblyError → String}
    {assembleFromGeometries : List (List P) → Except AssemblyError R}
    {refinement : TerminalRefinement P} (hnodup : (units.map PreMergeDrainageUnit.id).Nodup)
    (hterminal : terminal ∈ units.map PreMergeDrainageUnit.id)
    (hrefined : refinement.refinedTerminalGeometry ≠ some []) {e : Fault EngineError}
    (h : dissolveWatershed toText assembleFromGeometries terminal units refinement = .error e) :
    ∃ error, e = .err (.assembly terminal.raw (toText error) error) ∧
      ((∃ unit ∈ units, unit.geometry = [] ∧ error = .emptyCatchmentGeometry unit.id) ∨
        ∃ geometries, geometries.flatten ≠ [] ∧
          assembleFromGeometries geometries = .error error) := by
  obtain ⟨geometryOf, hgeometry⟩ : ∃ geometryOf : UnitId → Option (List P),
      ∀ unit ∈ units, geometryOf unit.id = some unit.geometry := by
    refine ⟨collectMap (units.map fun unit => (unit.id, unit.geometry)), fun unit hunit => ?_⟩
    refine (collectMap_eq_some_iff ?_).mpr (List.mem_map_of_mem hunit)
    rwa [List.map_map]
  have hget := @getElem?_geometriesById P terminal units refinement.refinedTerminalGeometry
    geometryOf hnodup hgeometry hterminal
  rw [dissolveWatershed, Checks.mapError_eq_error_iff] at h
  obtain ⟨error, herror, rfl⟩ := h
  refine ⟨error, rfl, ?_⟩
  rw [Checks.bind_eq_error_iff] at herror
  obtain herror | ⟨geometries, hgeometries, herror⟩ := herror
  · left
    obtain ⟨⟨id, geometry⟩, hentry, hempty⟩ := Checks.exists_of_mapM_eq_error herror
    rw [TreeMap.mem_toList_iff_getElem?_eq_some, hget] at hentry
    obtain ⟨hid, hfinal⟩ := hentry
    obtain ⟨hnil, rfl⟩ := nonEmptyGeometry_error hrefined hfinal hempty
    obtain ⟨unit, hunit, rfl⟩ := List.mem_map.mp hid
    rw [hgeometry unit hunit] at hnil
    exact ⟨unit, hunit, Option.some.inj hnil, rfl⟩
  · refine .inr ⟨geometries, flatten_ne_nil_of_mapM ?_ hgeometries, herror⟩
    -- the terminal has an entry
    obtain ⟨unit, hunit, hid⟩ := List.mem_map.mp hterminal
    have hsome : (finalGeometry geometryOf terminal refinement.refinedTerminalGeometry
        terminal).isSome := by
      rw [isSome_finalGeometry, ← hid, hgeometry unit hunit]
      rfl
    obtain ⟨geometry, hfinal⟩ := Option.isSome_iff_exists.mp hsome
    exact List.ne_nil_of_mem
      (TreeMap.mem_toList_iff_getElem?_eq_some.mpr ((hget _ _).mpr ⟨hterminal, hfinal⟩))

/-- Units are dissolved as the entries of any map of them. -/
theorem dissolveWatershed_eq {R : Type} (toText : AssemblyError → String)
    (assembleFromGeometries : List (List P) → Except AssemblyError R)
    (refinement : TerminalRefinement P) (hnodup : (units.map PreMergeDrainageUnit.id).Nodup)
    (hgeometry : ∀ unit ∈ units, geometryOf unit.id = some unit.geometry)
    (hterminal : terminal ∈ units.map PreMergeDrainageUnit.id) {unitMap : TreeMap UnitId (List P)}
    (hget : ∀ id geometry, unitMap[id]? = some geometry ↔
      id ∈ units.map PreMergeDrainageUnit.id ∧
        finalGeometry geometryOf terminal refinement.refinedTerminalGeometry id = some geometry) :
    dissolveWatershed toText assembleFromGeometries terminal units refinement
      = (unitMap.toList.mapM (nonEmptyGeometry terminal refinement.refinedTerminalGeometry) >>=
          assembleFromGeometries).mapError fun error =>
            .err (.assembly terminal.raw (toText error) error) := by
  have hsame : (geometriesById terminal units refinement.refinedTerminalGeometry).toList
      = unitMap.toList := by
    refine OrderedMap.toList_congr fun id geometry => ?_
    rw [getElem?_geometriesById hnodup hgeometry hterminal, hget]
  rw [dissolveWatershed, hsame]

/-- The map of a query that has been answered has what is there. -/
theorem collectMap_rows {ids : List UnitId} {rows : List (DecodedCatchmentGeometryRow P)}
    (hnodup : (rows.map DecodedCatchmentGeometryRow.id).Nodup)
    (hrows : ∀ row, row ∈ rows ↔ row.id ∈ ids ∧ geometryOf row.id = some row.geometry) :
    ∀ id ∈ ids, collectMap (rows.map fun row => (row.id, row.geometry)) id = geometryOf id := by
  have hkeys : ((rows.map fun row => (row.id, row.geometry)).map Prod.fst).Nodup := by
    rwa [List.map_map]
  intro id hid
  refine Option.ext fun geometry => ?_
  rw [collectMap_eq_some_iff hkeys, List.mem_map]
  constructor
  · rintro ⟨row, hrow, heq⟩
    obtain ⟨rfl, rfl⟩ := Prod.mk.inj heq
    exact ((hrows row).mp hrow).2
  · intro h
    exact ⟨⟨id, geometry⟩, (hrows ⟨id, geometry⟩).mpr ⟨hid, h⟩, rfl⟩

theorem preMergeUnits_spec {unitCount : ℕ} {metadataById : UnitId → Option CatchmentUnit}
    {geometryById : UnitId → Option (List P)} {ids : List UnitId}
    (hlookup : ∀ id ∈ ids, geometryById id = geometryOf id)
    (h : preMergeUnits selectedLevel unitCount metadataById geometryById ids = .ok units) :
    units.map PreMergeDrainageUnit.id = ids ∧
      ∀ unit ∈ units, geometryOf unit.id = some unit.geometry := by
  have hmap := map_id_preMergeUnits h
  refine ⟨hmap, fun unit hunit => ?_⟩
  rw [← hlookup unit.id (hmap ▸ List.mem_map_of_mem hunit)]
  exact geometry_of_preMergeUnits h unit hunit

/-- The units are read when, and only when, all of them have rows. -/
theorem producePreMergeUnits_cases (hnodup : upstream.unitIds.Nodup)
    {metadata : List CatchmentUnit} (hmetadata : queryByIds upstream.unitIds = .ok metadata)
    (hids : ∀ id ∈ upstream.unitIds, (geometryOf id).isSome → id ∈ metadata.map CatchmentUnit.id)
    (hlevels : ∀ unit ∈ metadata, unit.level = selectedLevel)
    (hanswers : AnswersQuery queryGeometriesByIds geometryOf upstream.unitIds) :
    if upstream.unitIds.filter (fun id => geometryOf id = none) ≠ [] then
      ∃ e, producePreMergeUnits queryByIds queryGeometriesByIds selectedLevel upstream = .error e
    else ∃ units,
      producePreMergeUnits queryByIds queryGeometriesByIds selectedLevel upstream = .ok units ∧
        units.map PreMergeDrainageUnit.id = upstream.unitIds ∧
        ∀ unit ∈ units, geometryOf unit.id = some unit.geometry := by
  obtain ⟨rows, hrows, hrowsNodup, hmem⟩ := hanswers
  have hlookup := collectMap_rows hrowsNodup hmem
  have hrun : producePreMergeUnits queryByIds queryGeometriesByIds selectedLevel upstream
      = preMergeUnits selectedLevel upstream.unitIds.length
        (collectMap (metadata.map fun unit => (unit.id, unit)))
        (collectMap (rows.map fun row => (row.id, row.geometry))) upstream.unitIds := by
    rw [producePreMergeUnits, hmetadata, hrows]
    rfl
  rw [hrun]
  split_ifs with hmissing
  · obtain ⟨id, hid⟩ := List.exists_mem_of_ne_nil _ hmissing
    obtain ⟨hid, hnone⟩ := List.mem_filter.mp hid
    cases hresult : preMergeUnits selectedLevel upstream.unitIds.length
        (collectMap (metadata.map fun unit => (unit.id, unit)))
        (collectMap (rows.map fun row => (row.id, row.geometry))) upstream.unitIds with
    | error e => exact ⟨e, rfl⟩
    | ok units =>
      obtain ⟨hmap, hgeometry⟩ := preMergeUnits_spec hlookup hresult
      rw [← hmap] at hid
      obtain ⟨unit, hunit, rfl⟩ := List.mem_map.mp hid
      rw [hgeometry unit hunit] at hnone
      cases of_decide_eq_true hnone
  · have hsome := isSome_of_filter_eq_nil (not_ne_iff.mp hmissing)
    have hmetadataById :=
      exists_collectMap_units (fun id hid => hids id hid (hsome id hid)) hlevels
    obtain ⟨units, hunits⟩ := @exists_preMergeUnits P selectedLevel upstream.unitIds.length _ _ _
      hnodup hmetadataById fun id hid => (hlookup id hid).symm ▸ hsome id hid
    exact ⟨units, hunits, preMergeUnits_spec hlookup hunits⟩

end Spec

section Table

variable {P : Type} {hfx : Hfx} {midpoint : F32 → F32 → F64}
  {toGeo : List UInt8 → Except String (Geometry P)} {table : CatchmentTable}
  {built : IdIndexBuildResult} {graph : DrainageGraph} {terminal : UnitId} {u : UpstreamUnits}
  {selectedLevel : Level}

/-- The metadata of the units, from a catchments file with one level. -/
theorem exists_metadata (hindexed : (table.file hfx).Indexed built)
    (hlevel : ∀ record ∈ table.rows, ∃ unit,
      extractUnit hfx midpoint table.columns.fullProjection record = .ok unit ∧
        unit.level = selectedLevel) {ids : List UnitId}
    (hgeometry : ∀ record ∈ table.rows, ValidGeometry hfx toGeo ids.toFinset record) :
    ∃ metadata, (table.openObject hfx built).queryByIds hfx midpoint ids = .ok metadata ∧
      (∀ id ∈ ids, (table.geometryOf hfx toGeo id).isSome →
        id ∈ metadata.map CatchmentUnit.id) ∧
      ∀ unit ∈ metadata, unit.level = selectedLevel := by
  obtain ⟨metadata, hmetadata⟩ := @exists_queryByIds hfx midpoint table built ids hindexed
    fun record hrecord => (hlevel record hrecord).imp fun _ => And.left
  refine ⟨metadata, hmetadata, fun id hid hsome => ?_, fun unit hunit => ?_⟩
  · rw [isSome_geometryOf_iff hindexed hgeometry hid] at hsome
    rw [map_id_queryByIds hindexed hmetadata]
    exact List.mem_filter.mpr ⟨hsome, decide_eq_true hid⟩
  · obtain ⟨-, record, hrecord, hextract⟩ := (mem_queryByIds_iff hindexed hmetadata).mp hunit
    obtain ⟨unit', hunit', heq⟩ := hlevel record hrecord
    obtain rfl := Except.ok.inj (hextract.symm.trans hunit')
    exact heq

/-- A query for geometries that decode is answered. -/
theorem answersQuery_of_subset (hindexed : (table.file hfx).Indexed built) {ids : List UnitId}
    (hgeometry : ∀ record ∈ table.rows, ValidGeometry hfx toGeo ids.toFinset record)
    {ids' : List UnitId} (hsubset : ids' ⊆ ids) :
    AnswersQuery ((table.openObject hfx built).queryGeometriesByIds hfx toGeo)
      (table.geometryOf hfx toGeo) ids' := by
  refine answersQuery_openObject hindexed fun record hrecord => (hgeometry record hrecord).mono ?_
  intro id hid
  exact List.mem_toFinset.mpr (hsubset (List.mem_toFinset.mp hid))

/-- **Both ways dissolve the same geometries.** They hand the same list to the final assembly, the
geometries of the units in the order of their ids with the refined terminal in its place, or both
fail before it. -/
theorem dissolveStaged_eq_assembleWatershed (hindexed : (table.file hfx).Indexed built)
    (hlevel : ∀ record ∈ table.rows, ∃ unit,
      extractUnit hfx midpoint table.columns.fullProjection record = .ok unit ∧
        unit.level = selectedLevel)
    (hu : collectUpstream terminal graph = .ok u)
    (hgeometry : ∀ record ∈ table.rows, ValidGeometry hfx toGeo u.unitIds.toFinset record)
    (toText : AssemblyError → String) (refinement : TerminalRefinement P) :
    let reader := table.openObject hfx built
    let refined := refinement.refinedTerminalGeometry
    (∃ ids geometries, ids.Perm u.unitIds ∧ ids.Pairwise (fun id id' => id.raw < id'.raw) ∧
      List.Forall₂ (fun id geometry =>
        finalGeometry (table.geometryOf hfx toGeo) terminal refined id = some geometry)
        ids geometries ∧
      ∀ (R : Type) (assembleFromGeometries : List (List P) → Except AssemblyError R),
        assembleWatershed (reader.queryGeometriesByIds hfx toGeo) reader.containsId terminal u
            refined assembleFromGeometries
          = assembleFromGeometries geometries ∧
        dissolveStaged toText assembleFromGeometries terminal (reader.queryByIds hfx midpoint)
            (reader.queryGeometriesByIds hfx toGeo) selectedLevel u refinement
          = (assembleFromGeometries geometries).mapError fun error =>
              .err (.assembly terminal.raw (toText error) error)) ∨
    ∃ error error', ∀ (R : Type)
        (assembleFromGeometries : List (List P) → Except AssemblyError R),
      assembleWatershed (reader.queryGeometriesByIds hfx toGeo) reader.containsId terminal u
          refined assembleFromGeometries = .error error ∧
      dissolveStaged toText assembleFromGeometries terminal (reader.queryByIds hfx midpoint)
          (reader.queryGeometriesByIds hfx toGeo) selectedLevel u refinement = .error error' := by
  intro reader refined
  have hpost := (collectUpstream_post hu).1
  have hnodup : u.unitIds.Nodup := by simpa using hpost.nodup
  have hterminal : terminal ∈ u.unitIds := (mem_unitIds_iff hu).mpr .refl
  have hcontains : reader.containsId terminal ↔ (table.geometryOf hfx toGeo terminal).isSome := by
    rw [containsId_iff hindexed, isSome_geometryOf_iff hindexed hgeometry hterminal]
  obtain ⟨metadata, hmetadata, hids, hlevels⟩ := exists_metadata hindexed hlevel hgeometry
  have hstaged := producePreMergeUnits_cases hnodup hmetadata hids hlevels
    (answersQuery_of_subset hindexed hgeometry (List.Subset.refl _))
  obtain ⟨unitMap, hget, honeShot⟩ := @watershedGeometries_spec P _ terminal u refined _ _
    (answersQuery_of_subset hindexed hgeometry (assemblyQueryIds_subset terminal u refined))
    hterminal hcontains
  split_ifs at hstaged honeShot with hmissing
  · obtain ⟨error', herror'⟩ := hstaged
    refine .inr ⟨.missingCatchments (u.unitIds.filter
      fun id => table.geometryOf hfx toGeo id = none), error',
      fun R assembleFromGeometries => ⟨?_, ?_⟩⟩
    · rw [assembleWatershed, honeShot]
      rfl
    · rw [dissolveStaged, herror']
      rfl
  · obtain ⟨units, hunits, hmap, hunitGeometry⟩ := hstaged
    have hdissolve : ∀ (R : Type) (assembleFromGeometries : List (List P) → Except AssemblyError R),
        dissolveStaged toText assembleFromGeometries terminal (reader.queryByIds hfx midpoint)
            (reader.queryGeometriesByIds hfx toGeo) selectedLevel u refinement
          = (unitMap.toList.mapM (nonEmptyGeometry terminal refined) >>=
              assembleFromGeometries).mapError fun error =>
                .err (.assembly terminal.raw (toText error) error) := by
      intro R assembleFromGeometries
      rw [← hmap] at hnodup hterminal hget
      rw [dissolveStaged, hunits, Checks.ok_bind, dissolveWatershed_eq toText assembleFromGeometries
        refinement hnodup hunitGeometry hterminal hget]
    cases hresult : unitMap.toList.mapM (nonEmptyGeometry terminal refined) with
    | error error =>
      refine .inr ⟨error, .err (.assembly terminal.raw (toText error) error),
        fun R assembleFromGeometries => ⟨?_, ?_⟩⟩
      · rw [assembleWatershed, honeShot, hresult]
        rfl
      · rw [hdissolve, hresult]
        rfl
    | ok geometries =>
      have hall := isSome_of_filter_eq_nil (not_ne_iff.mp hmissing)
      obtain ⟨ids, hperm, hpairwise, hgeometries⟩ :=
        exists_ids_of_mapM_toList hget hnodup hall hresult
      refine .inl ⟨ids, geometries, hperm, hpairwise, hgeometries,
        fun R assembleFromGeometries => ⟨?_, ?_⟩⟩
      · rw [assembleWatershed, honeShot, hresult]
        rfl
      · rw [hdissolve, hresult]
        rfl

end Table

/-- Two units that are apart, the second upstream of the first. -/
def apartGraph : DrainageGraph := ⟨[⟨⟨1⟩, ⟨0⟩, [⟨2⟩]⟩, ⟨⟨2⟩, ⟨0⟩, []⟩], by decide⟩

/-- The index that is built of their file. -/
def apartBuilt : IdIndexBuildResult :=
  (readAllIdsWithRowGroups (apartTable.file permissiveHfx)).toOption.getD ⟨[], fun _ => none, none⟩

theorem indexed_apartBuilt : (apartTable.file permissiveHfx).Indexed apartBuilt := by
  obtain ⟨built, hbuilt⟩ : ∃ built, readAllIdsWithRowGroups (apartTable.file permissiveHfx)
      = .ok built := Checks.exists_of_isOk (by decide +kernel)
  refine .ids (hbuilt.trans ?_)
  rw [apartBuilt, hbuilt]
  rfl

theorem dissolveStaged_eq_assembleWatershed_apart :
    let reader := apartTable.openObject permissiveHfx apartBuilt
    let toGeo := fun _ => Except.ok (Geometry.polygon 7)
    ∃ u, collectUpstream ⟨1⟩ apartGraph = .ok u ∧
      assembleWatershed (reader.queryGeometriesByIds permissiveHfx toGeo) reader.containsId ⟨1⟩ u
        (some [8, 9]) Except.ok = .ok [[8, 9], [7]] ∧
      dissolveStaged (fun _ => "") Except.ok ⟨1⟩
        (reader.queryByIds permissiveHfx fun min _ => ⟨min.bits.zeroExtend 64⟩)
        (reader.queryGeometriesByIds permissiveHfx toGeo) ⟨0⟩ u (.applied [8, 9])
          = .ok [[8, 9], [7]] := by
  intro reader toGeo
  have hu : collectUpstream ⟨1⟩ apartGraph = .ok _ := rfl
  have hunit : apartTable.rows.all fun record =>
      ((extractUnit permissiveHfx (fun min _ => ⟨min.bits.zeroExtend 64⟩)
        apartTable.columns.fullProjection record).toOption.any (·.level = ⟨0⟩)) := by
    decide +kernel
  have hgeometry : apartTable.rows.all fun record =>
      (extractDecodedGeometry permissiveHfx toGeo [⟨1⟩, ⟨2⟩].toFinset 0 record).isOk := by
    decide +kernel
  have honeShot : (assembleWatershed (reader.queryGeometriesByIds permissiveHfx toGeo)
      reader.containsId ⟨1⟩ ⟨[⟨1⟩, ⟨2⟩], ∅, fun _ => none⟩ (some [8, 9]) Except.ok).toOption
        = some [[8, 9], [7]] := by
    decide +kernel
  rw [Checks.toOption_eq_some_iff] at honeShot
  refine ⟨_, hu, honeShot, ?_⟩
  have hlevel : ∀ record ∈ apartTable.rows, ∃ unit, extractUnit permissiveHfx
      (fun min _ => ⟨min.bits.zeroExtend 64⟩) apartTable.columns.fullProjection record = .ok unit ∧
        unit.level = ⟨0⟩ := by
    intro record hrecord
    obtain ⟨unit, hsome, hlevel⟩ :=
      (Option.any_eq_true _ _).mp (List.all_eq_true.mp hunit record hrecord)
    exact ⟨unit, Checks.toOption_eq_some_iff.mp hsome, of_decide_eq_true hlevel⟩
  rcases @dissolveStaged_eq_assembleWatershed ℕ permissiveHfx
      (fun min _ => ⟨min.bits.zeroExtend 64⟩) toGeo apartTable apartBuilt apartGraph ⟨1⟩ _ ⟨0⟩
      indexed_apartBuilt hlevel hu
      (fun record hrecord => Checks.exists_of_isOk (List.all_eq_true.mp hgeometry record hrecord))
      (fun _ => "") (.applied [8, 9]) with
    ⟨-, geometries, -, -, -, hsame⟩ | ⟨error, error', herror⟩
  · obtain ⟨hone, hstaged⟩ := hsame _ Except.ok
    obtain rfl := Except.ok.inj (hone.symm.trans honeShot)
    exact hstaged
  · cases (herror _ Except.ok).1.symm.trans honeShot

end WatershedDelineation
