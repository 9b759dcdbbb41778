import WatershedDelineation.Assembly.Dissolve
import WatershedDelineation.Drainage.Upstream
import WatershedDelineation.General.OrderedMap
import WatershedDelineation.Reader.CatchmentQueries

/-!
# Assembling a watershed

`assembly.rs` reads the geometries of the collected units, puts the refined geometry of the terminal
in its place, and hands the geometries in the order of their units to the final assembly, which is a
parameter here.

What is handed over are the geometries of the units of the catchments file, each once, with the
terminal replaced; it fails when a unit has no row or a geometry is empty
(`watershedGeometries_spec`).
-/

namespace WatershedDelineation

open Std

/-- Units are ordered by their numbers. -/
instance : Ord UnitId := ⟨compareOn UnitId.raw⟩

instance : TransOrd UnitId := inferInstanceAs (TransCmp (compareOn UnitId.raw))

instance : LawfulEqOrd UnitId where
  eq_of_compare {id id'} h := by
    have hraw : id.raw = id'.raw := LawfulEqOrd.eq_of_compare h
    exact congrArg UnitId.mk hraw

/-- Errors of repairing a geometry. -/
inductive GeometryRepairError
  | backendError (reason : String)
  | unexpectedGeometryType (geometryType : String)
  | stillInvalid
  deriving DecidableEq, Repr

/-- Errors of computing an area. -/
inductive WatershedAreaError
  | emptyGeometry
  | nonFiniteArea (rawM2 : F64)
  deriving DecidableEq, Repr

/-- Errors of the assembly. -/
inductive AssemblyError
  | catchmentQuery (source : SessionError)
  | missingCatchments (missingIds : List UnitId)
  | duplicateCatchment (unitId : UnitId)
  | geometryDecode (unitId : UnitId) (source : WkbDecodeError)
  | emptyCatchmentGeometry (unitId : UnitId)
  | emptyRefinedTerminalGeometry (unitId : UnitId)
  | dissolve (source : DissolveError)
  | topologyRepair (source : GeometryRepairError)
  | emptyAssembledGeometry
  | area (source : WatershedAreaError)
  deriving DecidableEq, Repr

section Assemble

variable {P : Type}
  (queryGeometriesByIds :
    List UnitId → Except CatchmentGeometryQueryError (List (DecodedCatchmentGeometryRow P)))
  (containsId : UnitId → Bool) (terminal : UnitId) (upstream : UpstreamUnits)
  (refinedTerminalGeometry : Option (List P))

def mapGeometryQueryError : CatchmentGeometryQueryError → AssemblyError
  | .read source => .catchmentQuery source
  | .decode unitId source => .geometryDecode unitId source

/-- The geometries by their units. -/
def indexCatchmentsById (fetched : List (DecodedCatchmentGeometryRow P)) :
    Except AssemblyError (TreeMap UnitId (List P)) :=
  OrderedMap.insertNew .duplicateCatchment ∅ (fetched.map fun unit => (unit.id, unit.geometry))

/-- The units to read; a refined terminal is not read. -/
def assemblyQueryIds : List UnitId :=
  match refinedTerminalGeometry with
  | some _ => upstream.unitIds.filter (· ≠ terminal)
  | none => upstream.unitIds

/-- Add the refined geometry of a terminal that has a row. -/
def overrideTerminal (unitMap : TreeMap UnitId (List P)) :
    Except AssemblyError (TreeMap UnitId (List P)) :=
  match refinedTerminalGeometry with
  | none => .ok unitMap
  | some geometry =>
    if containsId terminal then
      if terminal ∈ unitMap then .error (.duplicateCatchment terminal)
      else .ok (unitMap.insert terminal geometry)
    else .ok unitMap

/-- The geometry of an entry, which must not be empty. -/
def nonEmptyGeometry (entry : UnitId × List P) : Except AssemblyError (List P) :=
  if entry.1 = terminal ∧ refinedTerminalGeometry.isSome then
    if entry.2.isEmpty then .error (.emptyRefinedTerminalGeometry terminal) else .ok entry.2
  else if entry.2.isEmpty then .error (.emptyCatchmentGeometry entry.1)
  else .ok entry.2

/-- The geometries of a watershed, in the order of their units. -/
def watershedGeometries : Except AssemblyError (List (List P)) := do
  let fetched ← (queryGeometriesByIds
    (assemblyQueryIds terminal upstream refinedTerminalGeometry)).mapError mapGeometryQueryError
  let unitMap ← indexCatchmentsById fetched
  let unitMap ← overrideTerminal containsId terminal refinedTerminalGeometry unitMap
  let missingIds := upstream.unitIds.filter (· ∉ unitMap)
  if missingIds ≠ [] then .error (.missingCatchments missingIds)
  else unitMap.toList.mapM (nonEmptyGeometry terminal refinedTerminalGeometry)

/-- Assemble a watershed; the final assembly is a parameter. -/
def assembleWatershed {R : Type} (assembleFromGeometries : List (List P) → Except AssemblyError R) :
    Except AssemblyError R := do
  let geometries ← watershedGeometries queryGeometriesByIds containsId terminal upstream
    refinedTerminalGeometry
  assembleFromGeometries geometries

end Assemble

/-! ### What is handed over -/

/-- A query for the geometries of units finds what is there, each once. -/
def AnswersQuery {P : Type}
    (queryGeometriesByIds :
      List UnitId → Except CatchmentGeometryQueryError (List (DecodedCatchmentGeometryRow P)))
    (geometryOf : UnitId → Option (List P)) (ids : List UnitId) : Prop :=
  ∃ rows, queryGeometriesByIds ids = .ok rows ∧
    (rows.map DecodedCatchmentGeometryRow.id).Nodup ∧
    ∀ row, row ∈ rows ↔ row.id ∈ ids ∧ geometryOf row.id = some row.geometry

/-- The geometry of a unit, of which the terminal may have been refined. -/
def finalGeometry {P : Type} (geometryOf : UnitId → Option (List P)) (terminal : UnitId)
    (refinedTerminalGeometry : Option (List P)) (id : UnitId) : Option (List P) :=
  (geometryOf id).map fun geometry =>
    if id = terminal then refinedTerminalGeometry.getD geometry else geometry

section Spec

variable {P : Type} {geometryOf : UnitId → Option (List P)} {terminal : UnitId}
  {upstream : UpstreamUnits} {refined : Option (List P)} {ids : List UnitId}
  {queryGeometriesByIds :
    List UnitId → Except CatchmentGeometryQueryError (List (DecodedCatchmentGeometryRow P))}
  {containsId : UnitId → Bool}

theorem assemblyQueryIds_subset (terminal : UnitId) (upstream : UpstreamUnits)
    (refined : Option (List P)) :
    assemblyQueryIds terminal upstream refined ⊆ upstream.unitIds := by
  cases refined with
  | none => exact List.Subset.refl _
  | some geometry => exact List.filter_sublist.subset

theorem finalGeometry_of_ne {id : UnitId} (h : id ≠ terminal) :
    finalGeometry geometryOf terminal refined id = geometryOf id := by
  rw [finalGeometry]
  simp only [if_neg h, Option.map_id']

theorem finalGeometry_none (id : UnitId) :
    finalGeometry geometryOf terminal none id = geometryOf id := by
  rw [finalGeometry]
  simp only [Option.getD_none, ite_self, Option.map_id']

theorem finalGeometry_terminal {geometry : List P} :
    finalGeometry geometryOf terminal (some geometry) terminal
      = (geometryOf terminal).map fun _ => geometry := by
  rw [finalGeometry]
  simp only [if_true, Option.getD_some]

theorem isSome_finalGeometry (id : UnitId) :
    (finalGeometry geometryOf terminal refined id).isSome = (geometryOf id).isSome :=
  Option.isSome_map

theorem isSome_of_filter_eq_nil (h : ids.filter (fun id => geometryOf id = none) = []) :
    ∀ id ∈ ids, (geometryOf id).isSome := by
  intro id hid
  rw [List.filter_eq_nil_iff] at h
  exact Option.isSome_iff_ne_none.mpr (by simpa using h id hid)

/-- The map of a query that has been answered. -/
theorem exists_indexCatchmentsById {rows : List (DecodedCatchmentGeometryRow P)}
    (hnodup : (rows.map DecodedCatchmentGeometryRow.id).Nodup)
    (hrows : ∀ row, row ∈ rows ↔ row.id ∈ ids ∧ geometryOf row.id = some row.geometry) :
    ∃ unitMap, indexCatchmentsById rows = .ok unitMap ∧
      ∀ id geometry, unitMap[id]? = some geometry ↔ id ∈ ids ∧ geometryOf id = some geometry := by
  have hkeys : ((rows.map fun unit => (unit.id, unit.geometry)).map Prod.fst).Nodup := by
    rwa [List.map_map]
  refine ⟨_, OrderedMap.insertNew_eq_ok hkeys fun _ _ => TreeMap.not_mem_emptyc, ?_⟩
  intro id geometry
  rw [OrderedMap.getElem?_insertAll hkeys, List.mem_map]
  constructor
  · rintro ⟨row, hrow, heq⟩
    obtain ⟨rfl, rfl⟩ := Prod.mk.inj heq
    exact (hrows row).mp hrow
  · intro h
    exact ⟨⟨id, geometry⟩, (hrows ⟨id, geometry⟩).mpr h, rfl⟩

theorem overrideTerminal_some {geometry : List P} {unitMap : TreeMap UnitId (List P)}
    (h : terminal ∉ unitMap) :
    overrideTerminal containsId terminal (some geometry) unitMap
      = .ok (if containsId terminal then unitMap.insert terminal geometry else unitMap) := by
  rw [overrideTerminal]
  split_ifs <;> rfl

/-- **The units of a watershed.** The map has the units that have rows, with the terminal
replaced. -/
theorem exists_unitMap
    (hanswers : AnswersQuery queryGeometriesByIds geometryOf
      (assemblyQueryIds terminal upstream refined))
    (hterminal : terminal ∈ upstream.unitIds)
    (hcontains : containsId terminal ↔ (geometryOf terminal).isSome) :
    ∃ fetched unitMap unitMap',
      queryGeometriesByIds (assemblyQueryIds terminal upstream refined) = .ok fetched ∧
      indexCatchmentsById fetched = .ok unitMap ∧
      overrideTerminal containsId terminal refined unitMap = .ok unitMap' ∧
      ∀ id geometry, unitMap'[id]? = some geometry ↔
        id ∈ upstream.unitIds ∧ finalGeometry geometryOf terminal refined id = some geometry := by
  obtain ⟨fetched, hfetched, hnodup, hrows⟩ := hanswers
  obtain ⟨unitMap, hunitMap, hget⟩ := exists_indexCatchmentsById hnodup hrows
  cases refined with
  | none =>
    refine ⟨fetched, unitMap, unitMap, hfetched, hunitMap, rfl, fun id geometry => ?_⟩
    rw [hget, finalGeometry_none]
    rfl
  | some geometry =>
    have hids : ∀ id, id ∈ assemblyQueryIds terminal upstream (some geometry) ↔
        id ∈ upstream.unitIds ∧ id ≠ terminal := by
      intro id
      simp [assemblyQueryIds]
    -- the terminal has not been read
    have hvacant : terminal ∉ unitMap := by
      intro hmem
      have hsome := TreeMap.getElem?_eq_some_getElem hmem
      exact ((hids terminal).mp ((hget _ _).mp hsome).1).2 rfl
    refine ⟨fetched, unitMap, _, hfetched, hunitMap, overrideTerminal_some hvacant, ?_⟩
    intro id geometry'
    rcases eq_or_ne id terminal with rfl | hne
    · rw [finalGeometry_terminal]
      split_ifs with hrow
      · obtain ⟨stored, hstored⟩ := Option.isSome_iff_exists.mp (hcontains.mp hrow)
        rw [TreeMap.getElem?_insert_self, hstored, Option.map_some]
        exact ⟨fun h => ⟨hterminal, h⟩, fun h => h.2⟩
      · have hnone : geometryOf id = none := by
          rwa [← Option.not_isSome_iff_eq_none, ← hcontains]
        rw [TreeMap.getElem?_eq_none hvacant, hnone]
        simp
    · rw [finalGeometry_of_ne hne]
      split_ifs
      · rw [OrderedMap.getElem?_insert_of_ne hne, hget, hids, and_assoc]
        simp [hne]
      · rw [hget, hids, and_assoc]
        simp [hne]

/-- **What the assembly hands over.** Units without rows are an error; else the geometries are those
of any map of the units, read in order. -/
theorem watershedGeometries_spec
    (hanswers : AnswersQuery queryGeometriesByIds geometryOf
      (assemblyQueryIds terminal upstream refined))
    (hterminal : terminal ∈ upstream.unitIds)
    (hcontains : containsId terminal ↔ (geometryOf terminal).isSome) :
    ∃ unitMap : TreeMap UnitId (List P),
      (∀ id geometry, unitMap[id]? = some geometry ↔
        id ∈ upstream.unitIds ∧ finalGeometry geometryOf terminal refined id = some geometry) ∧
      watershedGeometries queryGeometriesByIds containsId terminal upstream refined
        = if upstream.unitIds.filter (fun id => geometryOf id = none) ≠ [] then
            .error (.missingCatchments (upstream.unitIds.filter fun id => geometryOf id = none))
          else unitMap.toList.mapM (nonEmptyGeometry terminal refined) := by
  obtain ⟨fetched, unitMap, unitMap', hfetched, hunitMap, hunitMap', hget⟩ :=
    exists_unitMap hanswers hterminal hcontains
  refine ⟨unitMap', hget, ?_⟩
  have hmissing : upstream.unitIds.filter (fun id => id ∉ unitMap')
      = upstream.unitIds.filter fun id => geometryOf id = none := by
    refine List.filter_congr fun id hid => ?_
    have hmem : id ∈ unitMap' ↔ (geometryOf id).isSome := by
      rw [← TreeMap.isSome_getElem?_iff_mem, Option.isSome_iff_exists]
      simp only [hget, hid, true_and, ← Option.isSome_iff_exists, isSome_finalGeometry]
    rw [decide_eq_decide, hmem, Option.not_isSome_iff_eq_none]
  rw [watershedGeometries, hfetched]
  change (indexCatchmentsById fetched >>= _) = _
  rw [hunitMap, Checks.ok_bind, hunitMap', Checks.ok_bind, hmissing]

/-- The entries of a map of units, none of which is empty. -/
theorem exists_ids_of_mapM_toList {unitMap : TreeMap UnitId (List P)} {geometries : List (List P)}
    (hget : ∀ id geometry, unitMap[id]? = some geometry ↔
      id ∈ ids ∧ finalGeometry geometryOf terminal refined id = some geometry)
    (hnodup : ids.Nodup) (hall : ∀ id ∈ ids, (geometryOf id).isSome)
    (h : unitMap.toList.mapM (nonEmptyGeometry terminal refined) = .ok geometries) :
    ∃ sorted : List UnitId, sorted.Perm ids ∧
      sorted.Pairwise (fun id id' => id.raw < id'.raw) ∧
      List.Forall₂ (fun id geometry =>
        finalGeometry geometryOf terminal refined id = some geometry) sorted geometries := by
  have hsecond : geometries = unitMap.toList.map Prod.snd := by
    refine Checks.eq_map_of_mapM h fun entry geometry hentry => ?_
    rw [nonEmptyGeometry] at hentry
    split_ifs at hentry <;> exact (Except.ok.inj hentry).symm
  have hlt : (unitMap.toList.map Prod.fst).Pairwise fun id id' => id.raw < id'.raw := by
    rw [List.pairwise_map]
    refine TreeMap.ordered_keys_toList.imp fun {entry entry'} hlt => ?_
    exact compare_lt_iff_lt.mp hlt
  refine ⟨unitMap.toList.map Prod.fst, ?_, hlt, ?_⟩
  · refine (List.perm_ext_iff_of_nodup (hlt.imp fun {id id'} hlt heq => ?_) hnodup).mpr fun id => ?_
    · exact absurd (congrArg UnitId.raw heq) hlt.ne
    · simp only [List.mem_map, Prod.exists, exists_and_right, exists_eq_right,
        TreeMap.mem_toList_iff_getElem?_eq_some, hget, exists_and_left,
        ← Option.isSome_iff_exists, isSome_finalGeometry]
      exact and_iff_left_of_imp (hall id)
  · rw [hsecond, List.forall₂_map_left_iff, List.forall₂_map_right_iff, List.forall₂_same]
    intro entry hentry
    exact ((hget entry.1 entry.2).mp (TreeMap.mem_toList_iff_getElem?_eq_some.mp hentry)).2

end Spec

/-- A catchments file answers queries for its valid rows. -/
theorem answersQuery_openObject {P : Type} {hfx : Hfx}
    {toGeo : List UInt8 → Except String (Geometry P)} {table : CatchmentTable}
    {built : IdIndexBuildResult} (hindexed : (table.file hfx).Indexed built) {ids : List UnitId}
    (hvalid : ∀ record ∈ table.rows, ValidGeometry hfx toGeo ids.toFinset record) :
    AnswersQuery ((table.openObject hfx built).queryGeometriesByIds hfx toGeo)
      (table.geometryOf hfx toGeo) ids := by
  obtain ⟨rows, hrows⟩ := exists_queryGeometriesByIds hindexed hvalid
  refine ⟨rows, hrows, ?_, fun row => ?_⟩
  · rw [map_id_queryGeometriesByIds hindexed hrows]
    exact (nodup_unitIds hindexed).filter _
  · rw [mem_queryGeometriesByIds_iff hindexed hrows, geometryOf_eq_some_iff hindexed]

end WatershedDelineation
