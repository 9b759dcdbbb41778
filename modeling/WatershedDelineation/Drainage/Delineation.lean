import WatershedDelineation.Assembly.WatershedAssembly
import WatershedDelineation.Drainage.DrainageTree
import WatershedDelineation.General.Checked

/-!
# The units of a delineation

The stages of `engine.rs` that make the list of units of a delineation: the traversal at one level
(`traverseUpstreamAtLevel`), the rows of the units (`producePreMergeUnits`), and the result
(`composeResult`). The stages between them, which refine the terminal and dissolve the geometries,
do not change the list.

The units of a result are the collected ones, in their order and with their discovery links
(`units_of_delineate`).
-/

namespace WatershedDelineation

open LinkTree

/-- Errors of the engine. -/
inductive EngineError
  | traversal (unitId : Int) (source : TraversalError)
  | sameLevelInvariant (unitId : Int) (selectedLevel : Level) (actualLevel : Option Level)
  | preMergeCatchmentFetch (unitCount : ℕ) (source : SessionError)
  | preMergeCatchmentDecode (unitId : Int) (source : WkbDecodeError)
  | assembly (unitId : Int) (message : String) (source : AssemblyError)
  deriving DecidableEq, Repr

/-- A drainage unit before its terminal is carved; geometries are lists of polygons of type `P`. -/
structure PreMergeDrainageUnit (P : Type) where
  id : UnitId
  level : Level
  area : AreaKm2
  upArea : Option AreaKm2
  outlet : OutletCoord
  geometry : List P

/-- The unit metadata that a result keeps. -/
structure DelineationUnitMetadata where
  id : UnitId
  level : Level
  area : AreaKm2
  upArea : Option AreaKm2
  outlet : OutletCoord
  downstreamId : Option UnitId
  deriving DecidableEq, Repr

def DelineationUnitMetadata.fromPreMerge {P : Type} (unit : PreMergeDrainageUnit P)
    (downstreamId : Option UnitId) : DelineationUnitMetadata :=
  ⟨unit.id, unit.level, unit.area, unit.upArea, unit.outlet, downstreamId⟩

/-- What a result keeps of a catchment unit, with its link downstream. -/
def DelineationUnitMetadata.ofUnit (unit : CatchmentUnit) (downstreamId : Option UnitId) :
    DelineationUnitMetadata :=
  ⟨unit.id, unit.level, unit.area, unit.upstreamArea, unit.outlet, downstreamId⟩

/-- The parts of a result that speak of its units. -/
structure DelineationResult where
  terminalUnitId : UnitId
  upstreamUnitIds : List UnitId
  upstreamUnits : List DelineationUnitMetadata
  deriving DecidableEq, Repr

/-- A map with the entries of a list; of two entries with one key it keeps the last. -/
def collectMap {α β : Type} [DecidableEq α] (entries : List (α × β)) : α → Option β :=
  entries.foldl (fun map entry => Function.update map entry.1 (some entry.2)) fun _ => none

section Collect

variable {α β : Type} [DecidableEq α] {entries : List (α × β)} {a : α} {b : β}

private theorem collectMap_concat (entries : List (α × β)) (entry : α × β) :
    collectMap (entries ++ [entry]) = Function.update (collectMap entries) entry.1 entry.2 := by
  rw [collectMap, List.foldl_append]
  rfl

theorem mem_of_collectMap (h : collectMap entries a = some b) : (a, b) ∈ entries := by
  induction entries using List.reverseRecOn with
  | nil => cases h
  | append_singleton entries entry ih =>
    rw [collectMap_concat] at h
    rcases eq_or_ne a entry.1 with rfl | hne
    · rw [Function.update_self] at h
      obtain rfl := Option.some.inj h
      exact List.mem_append_right _ (List.mem_singleton_self _)
    · rw [Function.update_of_ne hne] at h
      exact List.mem_append_left _ (ih h)

theorem isSome_collectMap (h : a ∈ entries.map Prod.fst) : (collectMap entries a).isSome := by
  induction entries using List.reverseRecOn with
  | nil => exact absurd h List.not_mem_nil
  | append_singleton entries entry ih =>
    rw [collectMap_concat]
    rcases eq_or_ne a entry.1 with rfl | hne
    · rw [Function.update_self]
      rfl
    · rw [Function.update_of_ne hne]
      refine ih ?_
      rw [List.map_append, List.mem_append] at h
      exact h.resolve_right (by simpa using hne)

theorem collectMap_eq_some_iff (hnodup : (entries.map Prod.fst).Nodup) :
    collectMap entries a = some b ↔ (a, b) ∈ entries := by
  refine ⟨mem_of_collectMap, fun hmem => ?_⟩
  have hkey : a ∈ entries.map Prod.fst := List.mem_map_of_mem hmem
  obtain ⟨b', hb'⟩ := Option.isSome_iff_exists.mp (isSome_collectMap hkey)
  have hmem' := mem_of_collectMap hb'
  have heq : (a, b') = (a, b) := List.inj_on_of_nodup_map hnodup hmem' hmem rfl
  rw [hb', (Prod.mk.inj heq).2]

end Collect

section Stages

variable {P : Type} (graph : DrainageGraph) (levelOf : UnitId → Option Level)
  (queryByIds : List UnitId → Except SessionError (List CatchmentUnit))
  (queryGeometriesByIds :
    List UnitId → Except CatchmentGeometryQueryError (List (DecodedCatchmentGeometryRow P)))
  (selectedLevel : Level) (terminal : UnitId)

/-- Traverse the upstream graph, and check that it stays in the selected level. -/
def traverseUpstreamAtLevel : Except (Fault EngineError) UpstreamUnits := do
  let upstream ← (collectUpstream terminal graph).mapError (Fault.map (.traversal terminal.raw))
  upstream.unitIds.forM fun unitId =>
    Checked.rejectIf (levelOf unitId ≠ some selectedLevel)
      (.sameLevelInvariant unitId.raw selectedLevel (levelOf unitId))
  pure upstream

/-- The record of one unit, which is taken out of the map of geometries. -/
def preMergeUnit (unitCount : ℕ) (metadataById : UnitId → Option CatchmentUnit)
    (geometryById : UnitId → Option (List P)) (id : UnitId) :
    Except (Fault EngineError) (PreMergeDrainageUnit P × (UnitId → Option (List P))) := do
  let metadata ← Checked.orErr (metadataById id) (.preMergeCatchmentFetch unitCount
    (.integrityViolation s!"pre-merge unit {id.raw} not in catchment store metadata"))
  Checked.rejectIf (metadata.level ≠ selectedLevel)
    (.sameLevelInvariant id.raw selectedLevel (some metadata.level))
  let geometry ← Checked.orErr (geometryById id) (.preMergeCatchmentFetch unitCount
    (.integrityViolation s!"pre-merge unit {id.raw} not in catchment store geometry rows"))
  pure (⟨id, metadata.level, metadata.area, metadata.upstreamArea, metadata.outlet, geometry⟩,
    Function.update geometryById id none)

/-- The records of units, one after the other. -/
def preMergeUnits (unitCount : ℕ) (metadataById : UnitId → Option CatchmentUnit) :
    (UnitId → Option (List P)) → List UnitId →
      Except (Fault EngineError) (List (PreMergeDrainageUnit P))
  | _, [] => .ok []
  | geometryById, id :: ids => do
    let (unit, geometryById) ← preMergeUnit selectedLevel unitCount metadataById geometryById id
    let units ← preMergeUnits unitCount metadataById geometryById ids
    pure (unit :: units)

/-- Read the rows of the collected units. -/
def producePreMergeUnits (upstream : UpstreamUnits) :
    Except (Fault EngineError) (List (PreMergeDrainageUnit P)) := do
  let ids := upstream.unitIds
  let metadata ← (queryByIds ids).mapError fun source =>
    .err (.preMergeCatchmentFetch ids.length source)
  let rows ← (queryGeometriesByIds ids).mapError fun
    | .read source => .err (.preMergeCatchmentFetch ids.length source)
    | .decode unitId source => .err (.preMergeCatchmentDecode unitId.raw source)
  preMergeUnits selectedLevel ids.length (collectMap (metadata.map fun unit => (unit.id, unit)))
    (collectMap (rows.map fun row => (row.id, row.geometry))) ids

/-- Compose the result. -/
def composeResult (upstream : UpstreamUnits) (units : List (PreMergeDrainageUnit P)) :
    DelineationResult where
  terminalUnitId := terminal
  upstreamUnitIds := upstream.unitIds
  upstreamUnits := units.map fun unit =>
    .fromPreMerge unit (upstream.downstreamOf unit.id)

/-- The units of a delineation at the level and the unit that an outlet has been resolved to. -/
def delineate : Except (Fault EngineError) DelineationResult := do
  let upstream ← traverseUpstreamAtLevel graph levelOf selectedLevel terminal
  let units ← producePreMergeUnits queryByIds queryGeometriesByIds selectedLevel upstream
  pure (composeResult terminal upstream units)

end Stages

/-! ### What the stages return -/

section Spec

variable {P : Type} {graph : DrainageGraph} {levelOf : UnitId → Option Level}
  {queryByIds : List UnitId → Except SessionError (List CatchmentUnit)}
  {queryGeometriesByIds :
    List UnitId → Except CatchmentGeometryQueryError (List (DecodedCatchmentGeometryRow P))}
  {selectedLevel : Level} {terminal : UnitId}

theorem traverseUpstreamAtLevel_eq_ok_iff {u : UpstreamUnits} :
    traverseUpstreamAtLevel graph levelOf selectedLevel terminal = .ok u ↔
      collectUpstream terminal graph = .ok u ∧
        ∀ id ∈ u.unitIds, levelOf id = some selectedLevel := by
  simp only [traverseUpstreamAtLevel, Checks.bind_eq_ok_iff, Checks.mapError_eq_ok_iff,
    Checks.forM_eq_ok_iff, Checked.rejectIf_eq_ok_iff, ne_eq, not_not]
  constructor
  · rintro ⟨u', hu, -, hlevels, h⟩
    obtain rfl := Except.ok.inj h
    exact ⟨hu, hlevels⟩
  · rintro ⟨hu, hlevels⟩
    exact ⟨u, hu, (), hlevels, rfl⟩

theorem map_id_preMergeUnits {unitCount : ℕ} {metadataById : UnitId → Option CatchmentUnit}
    {geometryById : UnitId → Option (List P)} {ids : List UnitId}
    {units : List (PreMergeDrainageUnit P)}
    (h : preMergeUnits selectedLevel unitCount metadataById geometryById ids = .ok units) :
    units.map PreMergeDrainageUnit.id = ids := by
  induction ids generalizing geometryById units with
  | nil =>
    obtain rfl := Except.ok.inj h
    rfl
  | cons id ids ih =>
    simp only [preMergeUnits, preMergeUnit, Checks.bind_eq_ok_iff] at h
    obtain ⟨_, ⟨metadata, -, -, -, geometry, -, hunit⟩, units', hunits, h⟩ := h
    obtain rfl := Except.ok.inj hunit
    obtain rfl := Except.ok.inj h
    rw [List.map_cons, ih hunits]

/-- The records of units have the geometries that have been read. -/
theorem geometry_of_preMergeUnits {unitCount : ℕ} {metadataById : UnitId → Option CatchmentUnit}
    {geometryById : UnitId → Option (List P)} {ids : List UnitId}
    {units : List (PreMergeDrainageUnit P)}
    (h : preMergeUnits selectedLevel unitCount metadataById geometryById ids = .ok units) :
    ∀ unit ∈ units, geometryById unit.id = some unit.geometry := by
  induction ids generalizing geometryById units with
  | nil =>
    obtain rfl := Except.ok.inj h
    exact fun unit hunit => absurd hunit List.not_mem_nil
  | cons id ids ih =>
    simp only [preMergeUnits, preMergeUnit, Checks.bind_eq_ok_iff, Checked.orErr_eq_ok_iff] at h
    obtain ⟨_, ⟨metadata, -, -, -, geometry, hgeometry, hunit⟩, units', hunits, h⟩ := h
    obtain rfl := Except.ok.inj hunit
    obtain rfl := Except.ok.inj h
    intro unit hunit
    rcases List.mem_cons.mp hunit with rfl | hunit
    · exact hgeometry
    · have hrest := ih hunits unit hunit
      dsimp only at hrest
      rcases eq_or_ne unit.id id with heq | hne
      · rw [heq, Function.update_self] at hrest
        cases hrest
      · rwa [Function.update_of_ne hne] at hrest

/-- The records of units have the fields of the metadata that has been read, at the selected
level. -/
theorem metadata_of_preMergeUnits {unitCount : ℕ} {metadataById : UnitId → Option CatchmentUnit}
    {geometryById : UnitId → Option (List P)} {ids : List UnitId}
    {units : List (PreMergeDrainageUnit P)}
    (h : preMergeUnits selectedLevel unitCount metadataById geometryById ids = .ok units) :
    ∀ unit ∈ units, ∃ metadata, metadataById unit.id = some metadata ∧
      metadata.level = selectedLevel ∧ unit = ⟨unit.id, metadata.level, metadata.area,
        metadata.upstreamArea, metadata.outlet, unit.geometry⟩ := by
  induction ids generalizing geometryById units with
  | nil =>
    obtain rfl := Except.ok.inj h
    exact fun unit hunit => absurd hunit List.not_mem_nil
  | cons id ids ih =>
    simp only [preMergeUnits, preMergeUnit, Checks.bind_eq_ok_iff, Checked.orErr_eq_ok_iff,
      Checked.rejectIf_eq_ok_iff, ne_eq, not_not] at h
    obtain ⟨_, ⟨metadata, hmetadata, -, hlevel, geometry, -, hunit⟩, units', hunits, h⟩ := h
    obtain rfl := Except.ok.inj hunit
    obtain rfl := Except.ok.inj h
    exact List.forall_mem_cons.mpr ⟨⟨metadata, hmetadata, hlevel, rfl⟩, ih hunits⟩

/-- The records of units that have all been read. -/
theorem exists_preMergeUnits {unitCount : ℕ} {metadataById : UnitId → Option CatchmentUnit}
    {geometryById : UnitId → Option (List P)} {ids : List UnitId} (hnodup : ids.Nodup)
    (hmetadata : ∀ id ∈ ids, ∃ unit, metadataById id = some unit ∧ unit.level = selectedLevel)
    (hgeometry : ∀ id ∈ ids, (geometryById id).isSome) :
    ∃ units, preMergeUnits selectedLevel unitCount metadataById geometryById ids = .ok units := by
  induction ids generalizing geometryById with
  | nil => exact ⟨[], rfl⟩
  | cons id ids ih =>
    obtain ⟨hid, hnodup⟩ := List.nodup_cons.mp hnodup
    obtain ⟨unit, hunit, hlevel⟩ := hmetadata id List.mem_cons_self
    obtain ⟨geometry, hgeom⟩ := Option.isSome_iff_exists.mp (hgeometry id List.mem_cons_self)
    -- the geometry of `id` is gone then, but the ids are distinct
    have hrest : ∀ id' ∈ ids, (Function.update geometryById id none id').isSome := by
      intro id' hid'
      have hne : id' ≠ id := fun heq => hid (heq ▸ hid')
      rw [Function.update_of_ne hne]
      exact hgeometry id' (List.mem_cons_of_mem _ hid')
    obtain ⟨units, hunits⟩ := ih hnodup
      (fun id' hid' => hmetadata id' (List.mem_cons_of_mem _ hid')) hrest
    obtain ⟨record, hpre⟩ : ∃ record,
        preMergeUnit selectedLevel unitCount metadataById geometryById id
          = .ok (record, Function.update geometryById id none) := by
      refine ⟨⟨id, unit.level, unit.area, unit.upstreamArea, unit.outlet, geometry⟩, ?_⟩
      rw [preMergeUnit, hunit, hgeom, Checked.orErr_some, Checks.ok_bind, Checked.rejectIf,
        if_neg (not_not.mpr hlevel)]
      rfl
    refine ⟨record :: units, ?_⟩
    rw [preMergeUnits, hpre, Checks.ok_bind]
    change (preMergeUnits _ _ _ _ _ >>= _) = _
    rw [hunits]
    rfl

/-- Units that have rows are found with the level of the rows. -/
theorem exists_collectMap_units {metadata : List CatchmentUnit} {ids : List UnitId}
    (hids : ∀ id ∈ ids, id ∈ metadata.map CatchmentUnit.id)
    (hlevels : ∀ unit ∈ metadata, unit.level = selectedLevel) :
    ∀ id ∈ ids, ∃ unit, collectMap (metadata.map fun unit => (unit.id, unit)) id = some unit ∧
      unit.level = selectedLevel := by
  intro id hid
  have hsome : (collectMap (metadata.map fun unit => (unit.id, unit)) id).isSome :=
    isSome_collectMap (by simpa using hids id hid)
  obtain ⟨unit, hunit⟩ := Option.isSome_iff_exists.mp hsome
  obtain ⟨unit', hmem, heq⟩ := List.mem_map.mp (mem_of_collectMap hunit)
  obtain ⟨-, rfl⟩ := Prod.mk.inj heq
  exact ⟨_, hunit, hlevels _ hmem⟩

/-- **A delineation succeeds** when the traversal stays in the level, and every unit found has a row
of that level and a geometry. -/
theorem exists_delineate {u : UpstreamUnits} {metadata : List CatchmentUnit}
    {rows : List (DecodedCatchmentGeometryRow P)} (hu : collectUpstream terminal graph = .ok u)
    (hlevel : ∀ id ∈ u.unitIds, levelOf id = some selectedLevel)
    (hmetadata : queryByIds u.unitIds = .ok metadata)
    (hrows : queryGeometriesByIds u.unitIds = .ok rows)
    (hids : ∀ id ∈ u.unitIds, id ∈ metadata.map CatchmentUnit.id)
    (hlevels : ∀ unit ∈ metadata, unit.level = selectedLevel)
    (hgeometry : ∀ id ∈ u.unitIds, id ∈ rows.map DecodedCatchmentGeometryRow.id) :
    ∃ result, delineate graph levelOf queryByIds queryGeometriesByIds selectedLevel terminal
      = .ok result := by
  have hnodup : u.unitIds.Nodup := by simpa using (collectUpstream_post hu).1.nodup
  have htraverse := traverseUpstreamAtLevel_eq_ok_iff.mpr ⟨hu, hlevel⟩
  have hmap := exists_collectMap_units hids hlevels
  have hgeometries : ∀ id ∈ u.unitIds,
      (collectMap (rows.map fun row => (row.id, row.geometry)) id).isSome := fun id hid =>
    isSome_collectMap (by simpa using hgeometry id hid)
  obtain ⟨units, hunits⟩ :=
    @exists_preMergeUnits P selectedLevel u.unitIds.length _ _ _ hnodup hmap hgeometries
  refine ⟨composeResult terminal u units, ?_⟩
  rw [delineate, htraverse, Checks.ok_bind, producePreMergeUnits, hmetadata, hrows]
  change (preMergeUnits _ _ _ _ _ >>= _) = _
  rw [hunits]
  rfl

/-- **The units of a result** are the collected ones, in their order and with their links. -/
theorem units_of_delineate {result : DelineationResult}
    (h : delineate graph levelOf queryByIds queryGeometriesByIds selectedLevel terminal
      = .ok result) :
    ∃ u, collectUpstream terminal graph = .ok u ∧ result.terminalUnitId = terminal ∧
      result.upstreamUnits.map (fun unit => (unit.id, unit.downstreamId))
        = u.unitIds.map fun id => (id, u.downstreamOf id) := by
  simp only [delineate, Checks.bind_eq_ok_iff, traverseUpstreamAtLevel_eq_ok_iff,
    producePreMergeUnits] at h
  obtain ⟨u, ⟨hu, -⟩, units, ⟨metadata, -, rows, -, hunits⟩, h⟩ := h
  obtain rfl := Except.ok.inj h
  refine ⟨u, hu, rfl, ?_⟩
  rw [← map_id_preMergeUnits hunits, composeResult, List.map_map, List.map_map]
  rfl

end Spec

end WatershedDelineation
