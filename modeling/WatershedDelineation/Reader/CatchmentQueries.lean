import WatershedDelineation.Reader.CatchmentTable

/-!
# Queries of catchments

`CatchmentStore` of `catchment_store.rs` as a reader of a catchments file: queries by box, by ids,
and for the geometries of ids. Each selects row groups and filters their rows.

A query by box finds what a full scan finds (`queryByBbox_eq_scan`): a group is left out when its
box does not intersect, and then none of its rows does. Both queries by ids find the requested ids
of the file, each once, whether the index that names the row groups was built or loaded
(`queryByIds_exact`).
-/

namespace WatershedDelineation

/-- An opened catchments file: the boxes of the row groups, and the row groups of ids. -/
structure CatchmentReader where
  table : CatchmentTable
  rowGroups : RowGroupIndex
  idRowGroups : UnitId → Option ℕ

/-- The boxes of the row groups. -/
def CatchmentTable.bboxes (hfx : Hfx) (table : CatchmentTable) : List (Option BoundingBox) :=
  table.rowGroups.map fun rowGroup => extractRowGroupBbox hfx rowGroup.bboxStats

/-- Open a catchments file with an id index. -/
def CatchmentTable.openObject (hfx : Hfx) (table : CatchmentTable) (idIndex : IdIndexBuildResult) :
    CatchmentReader :=
  ⟨table, .build (table.bboxes hfx), idIndex.idRowGroups⟩

namespace CatchmentReader

variable {P : Type} (hfx : Hfx) (midpoint : F32 → F32 → F64)
  (toGeo : List UInt8 → Except String (Geometry P)) (reader : CatchmentReader)

/-- The units of a batch that satisfy a predicate. -/
def filterUnits (columns : CatchmentColumns) (p : CatchmentUnit → Bool) (start : ℕ)
    (batch : List CatchmentRecord) : Except SessionError (List CatchmentUnit) :=
  (extractUnitsFromBatch hfx midpoint columns start batch).map (·.filter p)

/-- The units whose boxes intersect a box. -/
def queryByBbox (query : BoundingBox) : Except SessionError (List CatchmentUnit) :=
  let candidates := reader.rowGroups.candidates (hfx.intersects · query)
  let matching := candidates.mergeSort.destutter (· ≠ ·)
  if matching = [] then .ok []
  else RowGroups.readGroups (filterUnits hfx midpoint reader.table.columns
    fun unit => hfx.intersects unit.bbox query) reader.table.groups matching

/-- The row groups of ids. -/
def selectedRowGroupsForIds (ids : List UnitId) : List ℕ :=
  (ids.filterMap reader.idRowGroups).mergeSort.destutter (· ≠ ·)

/-- The units of ids. -/
def queryByIds (ids : List UnitId) : Except SessionError (List CatchmentUnit) :=
  let selected := reader.selectedRowGroupsForIds ids
  if ids.toFinset = ∅ ∨ selected = [] then .ok []
  else RowGroups.readGroups (filterUnits hfx midpoint reader.table.columns.fullProjection
    fun unit => unit.id ∈ ids.toFinset) reader.table.groups selected

/-- The geometries of ids. -/
def queryGeometriesByIds (ids : List UnitId) :
    Except CatchmentGeometryQueryError (List (DecodedCatchmentGeometryRow P)) :=
  let selected := reader.selectedRowGroupsForIds ids
  if ids.toFinset = ∅ ∨ selected = [] then .ok []
  else RowGroups.readGroups (RowGroups.readRows (extractDecodedGeometry hfx toGeo ids.toFinset))
    reader.table.groups selected

/-- Whether there is a row of a unit. -/
def containsId (id : UnitId) : Bool := (reader.idRowGroups id).isSome

end CatchmentReader

/-! ### Rows -/

section Rows

variable {hfx : Hfx} {midpoint : F32 → F32 → F64} {columns : CatchmentColumns}

theorem keepRow_eq_ok_iff {α : Type} {extract : CatchmentRecord → Except String α} {row : ℕ}
    {record : CatchmentRecord} {o : Option α} : keepRow extract row record = .ok o ↔
      (∃ a, extract record = .ok a) ∧ o = (extract record).toOption := by
  rw [keepRow, Checks.mapError_eq_ok_iff, Checks.map_eq_ok_iff]
  cases extract record <;> simp [Except.toOption, eq_comm]

theorem labelled_eq_ok_iff {α : Type} {label : String} {value : Except String α} {a : α} :
    labelled label value = .ok a ↔ value = .ok a :=
  Checks.mapError_eq_ok_iff

theorem nonNull_eq_ok_iff {α : Type} {column : String} {value : Option α} {a : α} :
    nonNull column value = .ok a ↔ value = some a :=
  Checks.okOr_eq_ok_iff

theorem extractId_eq_ok_iff {record : CatchmentRecord} {id : UnitId} :
    extractId hfx record = .ok id ↔ ∃ raw, record.id = some raw ∧ hfx.unitId raw = .ok id := by
  simp only [extractId, Checks.bind_eq_ok_iff, Checks.okOr_eq_ok_iff, Checks.mapError_eq_ok_iff]

/-- A unit has the id and the stored box of its row. -/
theorem extractUnit_spec {record : CatchmentRecord} {unit : CatchmentUnit}
    (h : extractUnit hfx midpoint columns record = .ok unit) :
    extractId hfx record = .ok unit.id ∧ record.bbox.bbox hfx = some unit.bbox := by
  simp only [extractUnit, Checks.bind_eq_ok_iff, labelled_eq_ok_iff, nonNull_eq_ok_iff] at h
  obtain ⟨rawId, hrawId, id, hid, level, -, parentId, -, rawArea, -, area, -, upstreamArea, -,
    lon, -, lat, -, outlet, -, minx, hminx, miny, hminy, maxx, hmaxx, maxy, hmaxy, bbox, hbbox,
    wkb, -, geometry, -, h⟩ := h
  obtain rfl := Except.ok.inj h
  refine ⟨extractId_eq_ok_iff.mpr ⟨rawId, hrawId, hid⟩, ?_⟩
  rw [BboxLeaves.bbox, hminx, hminy, hmaxx, hmaxy]
  exact Checks.toOption_eq_some_iff.mpr hbbox

/-- An id and a level are read from rows with ids. -/
theorem extractIdLevel_id {record : CatchmentRecord} {row : CatchmentIdLevelRow}
    (h : extractIdLevel hfx record = .ok row) : extractId hfx record = .ok row.id := by
  simp only [extractIdLevel, Checks.bind_eq_ok_iff, labelled_eq_ok_iff, nonNull_eq_ok_iff] at h
  obtain ⟨rawId, hrawId, rawLevel, -, id, hid, level, -, h⟩ := h
  obtain rfl := Except.ok.inj h
  exact extractId_eq_ok_iff.mpr ⟨rawId, hrawId, hid⟩

/-- A row of which a unit can be made. -/
def ValidUnit (hfx : Hfx) (midpoint : F32 → F32 → F64) (columns : CatchmentColumns)
    (record : CatchmentRecord) : Prop :=
  ∃ unit, extractUnit hfx midpoint columns record = .ok unit

theorem readsRows_filterUnits {p : CatchmentUnit → Bool} :
    RowGroups.ReadsRows (CatchmentReader.filterUnits hfx midpoint columns p)
      (ValidUnit hfx midpoint columns)
      fun record => (extractUnit hfx midpoint columns record).toOption.filter p := by
  intro start batch units
  rw [CatchmentReader.filterUnits, Checks.map_eq_ok_iff]
  have hread := RowGroups.readsRows_readRows
    fun (i : ℕ) record o => @keepRow_eq_ok_iff _ (extractUnit hfx midpoint columns) i record o
  simp only [extractUnitsFromBatch, hread start batch]
  constructor
  · rintro ⟨_, ⟨hvalid, rfl⟩, rfl⟩
    exact ⟨hvalid, List.filter_filterMap ..⟩
  · rintro ⟨hvalid, rfl⟩
    exact ⟨_, ⟨hvalid, rfl⟩, List.filter_filterMap ..⟩

end Rows

/-! ### Queries by box -/

namespace CatchmentTable

variable (hfx : Hfx) (table : CatchmentTable)

/-- The statistics of the row groups bound the boxes of their rows. -/
def statsBound : Bool :=
  table.rowGroups.all fun rowGroup =>
    rowGroup.bboxStats.bounds (rowGroup.batches.flatten.map CatchmentRecord.bbox)

end CatchmentTable

section Bbox

variable {hfx : Hfx} {midpoint : F32 → F32 → F64} {table : CatchmentTable}
  {built : IdIndexBuildResult}

/-- The box of a row group holds the stored boxes of its rows. -/
theorem CatchmentTable.within_of_statsBound (h : table.statsBound) {i : ℕ}
    {group bbox : BoundingBox} (hgroup : (table.bboxes hfx)[i]? = some (some group))
    {record : CatchmentRecord} (hrecord : record ∈ RowGroups.groupRows table.groups i)
    (hbbox : record.bbox.bbox hfx = some bbox) : bbox.Within group := by
  obtain ⟨rowGroup, hrowGroup, hgroup, hrows⟩ := RowGroups.exists_of_mem_groupRows hgroup hrecord
  exact BboxStats.within_of_bounds (List.all_eq_true.mp h rowGroup hrowGroup) hgroup
    (List.mem_map_of_mem hrows) hbbox

private theorem length_groups_eq : table.groups.length = (table.bboxes hfx).length := by
  rw [CatchmentTable.groups, CatchmentTable.bboxes, List.length_map, List.length_map]

/-- A row group that a query by box reads. -/
def CatchmentTable.bboxCandidate (hfx : Hfx) (table : CatchmentTable) (query : BoundingBox)
    (i : ℕ) : Bool :=
  (table.bboxes hfx)[i]?.any (Option.all (hfx.intersects · query))

theorem queryByBbox_eq_readGroups (query : BoundingBox) :
    (table.openObject hfx built).queryByBbox hfx midpoint query
      = RowGroups.readGroups (CatchmentReader.filterUnits hfx midpoint table.columns
          fun unit => hfx.intersects unit.bbox query) table.groups
          ((List.range table.groups.length).filter (table.bboxCandidate hfx query)) := by
  rw [CatchmentReader.queryByBbox, CatchmentTable.openObject, length_groups_eq,
    RowGroups.destutter_mergeSort_eq_filter_range fun i => RowGroupIndex.mem_candidates_build]
  split_ifs with hmatching
  · change _ = RowGroups.readGroups _ _ ((List.range _).filter fun i =>
      (table.bboxes hfx)[i]?.any (Option.all (hfx.intersects · query)))
    rw [hmatching]
    rfl
  · rfl

/-- A query by box finds units of rows. -/
theorem exists_record_of_queryByBbox {query : BoundingBox} {units : List CatchmentUnit}
    (hunits : (table.openObject hfx built).queryByBbox hfx midpoint query = .ok units)
    {unit : CatchmentUnit} (hunit : unit ∈ units) :
    ∃ record ∈ table.rows, extractUnit hfx midpoint table.columns record = .ok unit := by
  rw [queryByBbox_eq_readGroups, RowGroups.readGroups_eq_ok_iff readsRows_filterUnits] at hunits
  obtain ⟨-, rfl⟩ := hunits
  obtain ⟨record, hrecord, hvalue⟩ := List.mem_filterMap.mp hunit
  exact ⟨record, RowGroups.scanned_sublist.subset hrecord,
    Checks.toOption_eq_some_iff.mp (Option.filter_eq_some_iff.mp hvalue).1⟩

/-- **A query by box is a full scan.** What it returns are the units of the rows whose stored boxes
intersect, in file order; it fails only when the file has invalid rows. -/
theorem queryByBbox_eq_scan (hmono : hfx.IntersectsMono) (hstats : table.statsBound)
    (query : BoundingBox) :
    (∀ units, (table.openObject hfx built).queryByBbox hfx midpoint query = .ok units →
      List.Forall₂ (fun record unit => extractUnit hfx midpoint table.columns record = .ok unit)
        (table.rows.filter fun record => (record.bbox.bbox hfx).any (hfx.intersects · query))
        units) ∧
    ((∀ record ∈ table.rows, ValidUnit hfx midpoint table.columns record) →
      ∃ units, (table.openObject hfx built).queryByBbox hfx midpoint query = .ok units) := by
  rw [queryByBbox_eq_readGroups]
  simp only [RowGroups.readGroups_eq_ok_iff readsRows_filterUnits]
  constructor
  · rintro _ ⟨hvalid, rfl⟩
    -- rows of groups that are left out do not intersect
    have hscanned :
        table.rows.filter (fun record => (record.bbox.bbox hfx).any (hfx.intersects · query))
        = (RowGroups.scanned table.groups (table.bboxCandidate hfx query)).filter
          fun record => (record.bbox.bbox hfx).any (hfx.intersects · query) := by
      refine (RowGroups.filter_scanned_eq_iff.mpr fun i hi hleft record hrecord => ?_).symm
      refine Bool.eq_false_iff.mpr fun hany => ?_
      obtain ⟨bbox, hbbox, hintersects⟩ := (Option.any_eq_true _ _).mp hany
      rw [length_groups_eq] at hi
      obtain ⟨group, hgroup, hnot⟩ := RowGroupIndex.exists_bbox_of_not_candidate hi hleft
      have hwithin := table.within_of_statsBound hstats hgroup hrecord hbbox
      exact Bool.false_ne_true (hnot.symm.trans (hmono bbox group query hwithin hintersects))
    rw [hscanned]
    refine RowGroups.forall₂_filter_filterMap (fun record hrecord hany => ?_)
      fun record hrecord hany => ?_
    · obtain ⟨unit, hunit⟩ := hvalid record hrecord
      rw [(extractUnit_spec hunit).2] at hany
      exact ⟨unit, by rw [hunit]; exact if_pos hany, hunit⟩
    · obtain ⟨unit, hunit⟩ := hvalid record hrecord
      rw [(extractUnit_spec hunit).2] at hany
      rw [hunit]
      exact if_neg (Bool.eq_false_iff.mp hany)
  · intro hvalid
    exact ⟨_, fun record hrecord => hvalid record (RowGroups.scanned_sublist.subset hrecord), rfl⟩

end Bbox

/-- A row with an id, and with a box between two numbers on both axes. -/
def squareRecord (id : Int) (min max : F32) : CatchmentRecord :=
  ⟨id, none, none, some ⟨0⟩, none, none, none, ⟨min, min, max, max⟩, some [], none, none⟩

/-- Two row groups of one row, in boxes that are apart. -/
def apartTable : CatchmentTable :=
  let stats := fun bits : BitVec 32 => some (ColumnStats.mk (some ⟨bits⟩) (some ⟨bits⟩))
  ⟨⟨false, false, false, false, false, false⟩,
    [⟨[[squareRecord 1 ⟨0⟩ ⟨0x3f800000⟩]],
      ⟨stats 0, stats 0, stats 0x3f800000, stats 0x3f800000⟩⟩,
    ⟨[[squareRecord 2 ⟨0x40000000⟩ ⟨0x40400000⟩]],
      ⟨stats 0x40000000, stats 0x40000000, stats 0x40400000, stats 0x40400000⟩⟩]⟩

/-- A query that touches the first row. -/
def touchingQuery : BoundingBox :=
  ⟨⟨0x3f800000⟩, ⟨0x3f800000⟩, ⟨0x3fc00000⟩, ⟨0x3fc00000⟩, by decide, by decide, by decide⟩

theorem queryByBbox_apart : ∃ units,
    (apartTable.openObject permissiveHfx ⟨[], fun _ => none, none⟩).queryByBbox permissiveHfx
      (fun min _ => ⟨min.bits.zeroExtend 64⟩) touchingQuery = .ok units ∧
    List.Forall₂ (fun record unit => extractUnit permissiveHfx
        (fun min _ => ⟨min.bits.zeroExtend 64⟩) apartTable.columns record = .ok unit)
      [squareRecord 1 ⟨0⟩ ⟨0x3f800000⟩] units := by
  obtain ⟨hscan, hok⟩ := @queryByBbox_eq_scan permissiveHfx
    (fun min _ => ⟨min.bits.zeroExtend 64⟩) apartTable ⟨[], fun _ => none, none⟩
    (Hfx.intersectsMono_of_meets rfl) (by decide) touchingQuery
  have hvalid : apartTable.rows.all fun record => (extractUnit permissiveHfx
      (fun min _ => ⟨min.bits.zeroExtend 64⟩) apartTable.columns record).isOk := by
    decide +kernel
  obtain ⟨units, hunits⟩ := hok fun record hrecord =>
    Checks.exists_of_isOk (List.all_eq_true.mp hvalid record hrecord)
  exact ⟨units, hunits, hscan units hunits⟩

/-! ### Queries by id -/

/-- The id of a row, if it has a valid one. -/
def CatchmentRecord.unitId (hfx : Hfx) (record : CatchmentRecord) : Option UnitId :=
  (extractId hfx record).toOption

namespace CatchmentTable

variable (hfx : Hfx) (table : CatchmentTable)

/-- The ids of the row groups. -/
def idGroups : List (List UnitId) :=
  (List.range table.groups.length).map
    fun i => (RowGroups.groupRows table.groups i).filterMap (·.unitId hfx)

/-- The ids of all rows, in file order. -/
def unitIds : List UnitId := table.rows.filterMap (·.unitId hfx)

theorem flatten_idGroups : (table.idGroups hfx).flatten = table.unitIds hfx := by
  rw [unitIds, rows, ← RowGroups.flatMap_groupRows, List.filterMap_flatMap]
  rfl

end CatchmentTable

section Ids

variable {P : Type} {hfx : Hfx} {midpoint : F32 → F32 → F64}
  {toGeo : List UInt8 → Except String (Geometry P)} {table : CatchmentTable}
  {built : IdIndexBuildResult} {ids : List UnitId}

private theorem readEach_keepRow {α : Type} {extract : CatchmentRecord → Except String α}
    {found : List (List α)}
    (h : RowGroups.readEach (RowGroups.readRows (keepRow extract)) table.groups
      (List.range table.groups.length) = .ok found) :
    (∀ record ∈ table.rows, ∃ a, extract record = .ok a) ∧
      found = (List.range table.groups.length).map
        fun i => (RowGroups.groupRows table.groups i).filterMap fun record =>
          (extract record).toOption := by
  have hall : (List.range table.groups.length).filter (fun _ => true)
      = List.range table.groups.length := List.filter_eq_self.mpr fun _ _ => rfl
  rw [← hall, RowGroups.readEach_eq_ok_iff (RowGroups.readsRows_readRows
    fun (i : ℕ) record o => @keepRow_eq_ok_iff _ extract i record o), hall,
    RowGroups.scanned, hall, RowGroups.flatMap_groupRows] at h
  exact h

/-- An index of a file says where the ids of its rows are. -/
theorem indexes_of_indexed (h : (table.file hfx).Indexed built) :
    built.Indexes (table.idGroups hfx) := by
  refine h.indexes (fun found hfound => (readEach_keepRow hfound).2) fun found hfound => ?_
  unfold CatchmentTable.file at hfound
  dsimp only at hfound
  split_ifs at hfound with hnil
  · obtain rfl := Except.ok.inj hfound
    rw [CatchmentTable.idGroups, hnil]
    rfl
  · obtain ⟨hvalid, rfl⟩ := readEach_keepRow hfound
    rw [List.map_map]
    refine List.map_congr_left fun i hi => ?_
    rw [Function.comp_apply, List.map_filterMap]
    refine List.filterMap_congr fun record hrecord => ?_
    have hmem : record ∈ table.rows := by
      rw [CatchmentTable.rows, ← RowGroups.flatMap_groupRows]
      exact List.mem_flatMap.mpr ⟨i, hi, hrecord⟩
    obtain ⟨row, hrow⟩ := hvalid record hmem
    rw [hrow, CatchmentRecord.unitId, extractIdLevel_id hrow]
    rfl

/-- A unit of a file with levels has the id and the level that are read for its row. -/
theorem extractUnit_idLevel {columns : CatchmentColumns} {record : CatchmentRecord}
    {unit : CatchmentUnit} {row : CatchmentIdLevelRow} (hcolumn : columns.level = true)
    (hunit : extractUnit hfx midpoint columns record = .ok unit)
    (hrow : extractIdLevel hfx record = .ok row) : row = ⟨unit.id, unit.level⟩ := by
  simp only [extractUnit, extractLevel, hcolumn, if_true, Checks.bind_eq_ok_iff,
    labelled_eq_ok_iff, nonNull_eq_ok_iff] at hunit
  simp only [extractIdLevel, Checks.bind_eq_ok_iff, labelled_eq_ok_iff, nonNull_eq_ok_iff] at hrow
  obtain ⟨rawId, hrawId, id, hid, level, ⟨rawLevel, hrawLevel, hlevel⟩, _, -, _, -, _, -, _, -, _,
    -, _, -, _, -, _, -, _, -, _, -, _, -, _, -, _, -, _, -, hunit⟩ := hunit
  obtain ⟨rawId', hrawId', rawLevel', hrawLevel', id', hid', level', hlevel', hrow⟩ := hrow
  obtain rfl := Option.some.inj (hrawId.symm.trans hrawId')
  obtain rfl := Option.some.inj (hrawLevel.symm.trans hrawLevel')
  obtain rfl := Except.ok.inj (hid.symm.trans hid')
  obtain rfl := Except.ok.inj (hlevel.symm.trans hlevel')
  obtain rfl := Except.ok.inj hunit
  exact (Except.ok.inj hrow).symm

section IdLevels

variable {groups : List (List CatchmentIdLevelRow)}
  (hgroups : (table.file hfx).idLevelGroups = .ok groups)
include hgroups

/-- Where levels have been read, every row has one. -/
theorem exists_idLevel {record : CatchmentRecord} (hrecord : record ∈ table.rows) :
    table.columns.level = true ∧ ∃ row, extractIdLevel hfx record = .ok row := by
  unfold CatchmentTable.file at hgroups
  dsimp only at hgroups
  split_ifs at hgroups with hnil hcolumn
  · rw [CatchmentTable.rows, hnil] at hrecord
    cases hrecord
  · exact ⟨by simpa using hcolumn, (readEach_keepRow hgroups).1 record hrecord⟩

theorem mem_idLevels_iff {row : CatchmentIdLevelRow} :
    row ∈ groups.flatten ↔ ∃ record ∈ table.rows, extractIdLevel hfx record = .ok row := by
  unfold CatchmentTable.file at hgroups
  dsimp only at hgroups
  split_ifs at hgroups with hnil
  · obtain rfl := Except.ok.inj hgroups
    rw [CatchmentTable.rows, hnil]
    simp
  · obtain ⟨-, rfl⟩ := readEach_keepRow hgroups
    rw [CatchmentTable.rows, ← RowGroups.flatMap_groupRows, ← List.flatMap_def,
      ← List.filterMap_flatMap, List.mem_filterMap]
    simp only [Checks.toOption_eq_some_iff]

/-- The unit of a row has a level in the file. -/
theorem idLevel_of_unit {columns : CatchmentColumns}
    (hcolumns : columns.level = table.columns.level) {record : CatchmentRecord}
    {unit : CatchmentUnit} (hrecord : record ∈ table.rows)
    (hunit : extractUnit hfx midpoint columns record = .ok unit) :
    ⟨unit.id, unit.level⟩ ∈ groups.flatten := by
  obtain ⟨hcolumn, row, hrow⟩ := exists_idLevel hgroups hrecord
  rw [← extractUnit_idLevel (hcolumns.trans hcolumn) hunit hrow]
  exact (mem_idLevels_iff hgroups).mpr ⟨record, hrecord, hrow⟩

/-- The units whose levels have been read are those of the file. -/
theorem mem_unitIds_of_idLevel {row : CatchmentIdLevelRow} (hrow : row ∈ groups.flatten) :
    row.id ∈ table.unitIds hfx := by
  obtain ⟨record, hrecord, hrow⟩ := (mem_idLevels_iff hgroups).mp hrow
  refine List.mem_filterMap.mpr ⟨record, hrecord, ?_⟩
  rw [CatchmentRecord.unitId, extractIdLevel_id hrow]
  rfl

end IdLevels

/-- A row group that has one of the ids. -/
def idCandidate (built : IdIndexBuildResult) (ids : List UnitId) (i : ℕ) : Bool :=
  i ∈ ids.filterMap built.idRowGroups

theorem selectedRowGroupsForIds_eq (h : built.Indexes (table.idGroups hfx)) :
    (table.openObject hfx built).selectedRowGroupsForIds ids
      = (List.range table.groups.length).filter (idCandidate built ids) := by
  refine RowGroups.destutter_mergeSort_eq_filter_range fun i => ?_
  rw [idCandidate, decide_eq_true_eq, and_iff_right_of_imp]
  · rfl
  · intro hi
    obtain ⟨id, -, hid⟩ := List.mem_filterMap.mp hi
    obtain ⟨group, hgroup, -⟩ := (h.rowGroup_iff id i).mp hid
    have hlt := (List.getElem?_eq_some_iff.mp hgroup).1
    rwa [CatchmentTable.idGroups, List.length_map, List.length_range] at hlt

/-- The rows of a row group that is left out have other ids. -/
theorem not_mem_of_not_candidate (h : built.Indexes (table.idGroups hfx)) {i : ℕ}
    (hi : i < table.groups.length) (hleft : idCandidate built ids i = false)
    {record : CatchmentRecord} (hrecord : record ∈ RowGroups.groupRows table.groups i) {id : UnitId}
    (hid : record.unitId hfx = some id) : id ∉ ids := by
  intro hmem
  rw [idCandidate, decide_eq_false_iff_not] at hleft
  refine hleft (List.mem_filterMap.mpr ⟨id, hmem, (h.rowGroup_iff id i).mpr ⟨_, ?_,
    List.mem_filterMap.mpr ⟨record, hrecord, hid⟩⟩⟩)
  rw [CatchmentTable.idGroups, List.getElem?_map, List.getElem?_range hi]
  rfl

/-- Without ids, or without row groups that have them, there is nothing to read. -/
private theorem ite_readGroups_eq {β ε : Type}
    {readBatch : ℕ → List CatchmentRecord → Except ε (List β)} :
    (if ids.toFinset = ∅ ∨ (List.range table.groups.length).filter (idCandidate built ids) = [] then
        .ok []
      else RowGroups.readGroups readBatch table.groups
        ((List.range table.groups.length).filter (idCandidate built ids)))
      = RowGroups.readGroups readBatch table.groups
          ((List.range table.groups.length).filter (idCandidate built ids)) := by
  split_ifs with hempty
  · have hnil : (List.range table.groups.length).filter (idCandidate built ids) = [] := by
      refine hempty.elim (fun hids => ?_) id
      rw [List.toFinset_eq_empty_iff] at hids
      subst hids
      exact List.filter_eq_nil_iff.mpr fun i _ => by simp [idCandidate]
    rw [hnil]
    rfl
  · rfl

theorem queryByIds_eq_readGroups (h : built.Indexes (table.idGroups hfx)) :
    (table.openObject hfx built).queryByIds hfx midpoint ids
      = RowGroups.readGroups (CatchmentReader.filterUnits hfx midpoint table.columns.fullProjection
          fun unit => unit.id ∈ ids.toFinset) table.groups
          ((List.range table.groups.length).filter (idCandidate built ids)) := by
  rw [CatchmentReader.queryByIds, selectedRowGroupsForIds_eq h]
  exact ite_readGroups_eq

theorem queryGeometriesByIds_eq_readGroups (h : built.Indexes (table.idGroups hfx)) :
    (table.openObject hfx built).queryGeometriesByIds hfx toGeo ids
      = RowGroups.readGroups (RowGroups.readRows (extractDecodedGeometry hfx toGeo ids.toFinset))
          table.groups ((List.range table.groups.length).filter (idCandidate built ids)) := by
  rw [CatchmentReader.queryGeometriesByIds, selectedRowGroupsForIds_eq h]
  exact ite_readGroups_eq

/-- A query by ids finds what a scan of all rows finds, if that has requested ids only. -/
private theorem filterMap_scanned_eq (h : built.Indexes (table.idGroups hfx)) {β : Type}
    {value : CatchmentRecord → Option β} {idOf : β → UnitId}
    (hvalue : ∀ record b, value record = some b →
      record.unitId hfx = some (idOf b) ∧ idOf b ∈ ids) :
    (RowGroups.scanned table.groups (idCandidate built ids)).filterMap value
      = table.rows.filterMap value := by
  refine RowGroups.filterMap_scanned_eq_iff.mpr fun i hi hleft record hrecord => ?_
  by_contra hne
  obtain ⟨b, hb⟩ := Option.ne_none_iff_exists'.mp hne
  obtain ⟨hid, hmem⟩ := hvalue record b hb
  exact not_mem_of_not_candidate h hi hleft hrecord hid hmem

/-- The ids of what a query by ids finds. -/
private theorem map_id_scanned (h : built.Indexes (table.idGroups hfx)) {β : Type}
    {valid : CatchmentRecord → Prop} {value : CatchmentRecord → Option β} {idOf : β → UnitId}
    (hvalue : ∀ record, valid record →
      (value record).map idOf = (record.unitId hfx).filter (· ∈ ids))
    (hvalid : ∀ record ∈ RowGroups.scanned table.groups (idCandidate built ids), valid record) :
    ((RowGroups.scanned table.groups (idCandidate built ids)).filterMap value).map idOf
      = (table.unitIds hfx).filter (· ∈ ids) := by
  calc
    _ = (RowGroups.scanned table.groups (idCandidate built ids)).filterMap
        fun record => (record.unitId hfx).filter (· ∈ ids) := by
      rw [List.map_filterMap]
      exact List.filterMap_congr fun record hrecord => hvalue record (hvalid record hrecord)
    _ = table.rows.filterMap fun record => (record.unitId hfx).filter (· ∈ ids) := by
      refine RowGroups.filterMap_scanned_eq_iff.mpr fun i hi hleft record hrecord => ?_
      cases hid : record.unitId hfx with
      | none => rfl
      | some id =>
        rw [Option.filter_some, if_neg]
        simpa using not_mem_of_not_candidate h hi hleft hrecord hid
    _ = _ := by rw [CatchmentTable.unitIds, List.filter_filterMap]

theorem extractDecodedGeometry_eq_ok_iff {requestedIds : Finset UnitId} {row : ℕ}
    {record : CatchmentRecord} {o : Option (DecodedCatchmentGeometryRow P)} :
    extractDecodedGeometry hfx toGeo requestedIds row record = .ok o ↔
      ∃ id, extractId hfx record = .ok id ∧
        if id ∉ requestedIds then o = none
        else ∃ wkb, record.geometry = some wkb ∧ ∃ polygons,
          decodeWkbMultiPolygonBytes toGeo wkb = .ok polygons ∧ o = some ⟨id, polygons⟩ := by
  simp only [extractDecodedGeometry, Checks.bind_eq_ok_iff, Checks.mapError_eq_ok_iff,
    nonNull_eq_ok_iff, labelled_eq_ok_iff, extractId_eq_ok_iff]
  constructor
  · rintro ⟨raw, hraw, id, hid, h⟩
    refine ⟨id, ⟨raw, hraw, hid⟩, ?_⟩
    split at h
    · next hnot =>
      rw [if_pos hnot]
      exact (Except.ok.inj h).symm
    · next hmem =>
      rw [if_neg hmem]
      simp only [Checks.bind_eq_ok_iff, Checks.mapError_eq_ok_iff, nonNull_eq_ok_iff] at h
      obtain ⟨wkb, hwkb, polygons, hpolygons, h⟩ := h
      exact ⟨wkb, hwkb, polygons, hpolygons, (Except.ok.inj h).symm⟩
  · rintro ⟨id, ⟨raw, hraw, hid⟩, h⟩
    refine ⟨raw, hraw, id, hid, ?_⟩
    split at h
    · next hnot =>
      rw [if_pos hnot, h]
      rfl
    · next hmem =>
      rw [if_neg hmem]
      obtain ⟨wkb, hwkb, polygons, hpolygons, rfl⟩ := h
      simp only [Checks.bind_eq_ok_iff, Checks.mapError_eq_ok_iff, nonNull_eq_ok_iff]
      exact ⟨wkb, hwkb, polygons, hpolygons, rfl⟩

/-- A row of which the geometry can be decoded, if it is requested. -/
def ValidGeometry (hfx : Hfx) (toGeo : List UInt8 → Except String (Geometry P))
    (requestedIds : Finset UnitId) (record : CatchmentRecord) : Prop :=
  ∃ o, extractDecodedGeometry hfx toGeo requestedIds 0 record = .ok o

/-- The decoded geometry of a valid row. -/
private def geometryValue (hfx : Hfx) (toGeo : List UInt8 → Except String (Geometry P))
    (requestedIds : Finset UnitId) (record : CatchmentRecord) :
    Option (DecodedCatchmentGeometryRow P) :=
  (extractDecodedGeometry hfx toGeo requestedIds 0 record).toOption.join

private theorem readsRows_geometries {requestedIds : Finset UnitId} :
    RowGroups.ReadsRows
      (RowGroups.readRows (extractDecodedGeometry hfx toGeo requestedIds))
      (ValidGeometry hfx toGeo requestedIds) (geometryValue hfx toGeo requestedIds) := by
  refine RowGroups.readsRows_readRows fun i record o => ?_
  rw [extractDecodedGeometry_eq_ok_iff, ← @extractDecodedGeometry_eq_ok_iff _ _ _ _ 0]
  constructor
  · intro h
    exact ⟨⟨o, h⟩, by rw [geometryValue, h]; rfl⟩
  · rintro ⟨⟨o', h⟩, rfl⟩
    rw [geometryValue, h]
    rfl

/-- The id of a unit is that of its row. -/
private theorem map_id_unit {columns : CatchmentColumns} {record : CatchmentRecord}
    (h : ValidUnit hfx midpoint columns record) :
    ((extractUnit hfx midpoint columns record).toOption.filter
        fun unit => unit.id ∈ ids.toFinset).map CatchmentUnit.id
      = (record.unitId hfx).filter (· ∈ ids) := by
  obtain ⟨unit, hunit⟩ := h
  rw [hunit, CatchmentRecord.unitId, (extractUnit_spec hunit).1]
  change ((some unit).filter _).map _ = (some unit.id).filter _
  simp only [Option.filter_some, List.mem_toFinset]
  split_ifs <;> rfl

/-- The id of a geometry is that of its row. -/
private theorem map_id_geometryValue {record : CatchmentRecord}
    (h : ValidGeometry hfx toGeo ids.toFinset record) :
    (geometryValue hfx toGeo ids.toFinset record).map DecodedCatchmentGeometryRow.id
      = (record.unitId hfx).filter (· ∈ ids) := by
  obtain ⟨o, ho⟩ := h
  obtain ⟨id, hid, hcases⟩ := extractDecodedGeometry_eq_ok_iff.mp ho
  rw [geometryValue, ho, CatchmentRecord.unitId, hid]
  change o.map _ = (some id).filter _
  rw [Option.filter_some]
  split at hcases
  · next hnot =>
    rw [List.mem_toFinset] at hnot
    rw [hcases, if_neg (by simpa using hnot), Option.map_none]
  · next hmem =>
    rw [not_not, List.mem_toFinset] at hmem
    obtain ⟨wkb, -, polygons, -, rfl⟩ := hcases
    rw [if_pos (by simpa using hmem), Option.map_some]

theorem nodup_unitIds (hindexed : (table.file hfx).Indexed built) : (table.unitIds hfx).Nodup := by
  rw [← table.flatten_idGroups]
  exact (indexes_of_indexed hindexed).nodup

section Found

variable (hindexed : (table.file hfx).Indexed built)
include hindexed

theorem map_id_queryByIds {units : List CatchmentUnit}
    (hunits : (table.openObject hfx built).queryByIds hfx midpoint ids = .ok units) :
    units.map CatchmentUnit.id = (table.unitIds hfx).filter (· ∈ ids) := by
  have h := indexes_of_indexed hindexed
  rw [queryByIds_eq_readGroups h, RowGroups.readGroups_eq_ok_iff readsRows_filterUnits] at hunits
  obtain ⟨hvalid, rfl⟩ := hunits
  exact map_id_scanned h (fun _ => map_id_unit) hvalid

theorem map_id_queryGeometriesByIds {rows : List (DecodedCatchmentGeometryRow P)}
    (hrows : (table.openObject hfx built).queryGeometriesByIds hfx toGeo ids = .ok rows) :
    rows.map DecodedCatchmentGeometryRow.id = (table.unitIds hfx).filter (· ∈ ids) := by
  have h := indexes_of_indexed hindexed
  rw [queryGeometriesByIds_eq_readGroups h, RowGroups.readGroups_eq_ok_iff readsRows_geometries]
    at hrows
  obtain ⟨hvalid, rfl⟩ := hrows
  exact map_id_scanned h (fun _ => map_id_geometryValue) hvalid

/-- A query fails on invalid rows only. -/
theorem exists_queryByIds
    (hvalid : ∀ record ∈ table.rows, ValidUnit hfx midpoint table.columns.fullProjection record) :
    ∃ units, (table.openObject hfx built).queryByIds hfx midpoint ids = .ok units := by
  simp only [queryByIds_eq_readGroups (indexes_of_indexed hindexed),
    RowGroups.readGroups_eq_ok_iff readsRows_filterUnits]
  exact ⟨_, fun record hrecord => hvalid record (RowGroups.scanned_sublist.subset hrecord), rfl⟩

theorem exists_queryGeometriesByIds
    (hvalid : ∀ record ∈ table.rows, ValidGeometry hfx toGeo ids.toFinset record) :
    ∃ rows, (table.openObject hfx built).queryGeometriesByIds hfx toGeo ids = .ok rows := by
  simp only [queryGeometriesByIds_eq_readGroups (indexes_of_indexed hindexed),
    RowGroups.readGroups_eq_ok_iff readsRows_geometries]
  exact ⟨_, fun record hrecord => hvalid record (RowGroups.scanned_sublist.subset hrecord), rfl⟩

end Found

/-- The error of a query by ids is that of a row of the file, of which no unit can be made. -/
theorem exists_of_queryByIds_eq_error {e : SessionError}
    (h : (table.openObject hfx built).queryByIds hfx midpoint ids = .error e) :
    ∃ row, ∃ record ∈ table.rows,
      keepRow (extractUnit hfx midpoint table.columns.fullProjection) row record = .error e := by
  rw [CatchmentReader.queryByIds] at h
  split_ifs at h
  obtain ⟨first, batch, hbatch, h⟩ := RowGroups.exists_of_readGroups_eq_error h
  rw [CatchmentReader.filterUnits, Checks.map_eq_error_iff] at h
  obtain ⟨row, record, hrecord, h⟩ := RowGroups.exists_of_readRows_eq_error h
  exact ⟨row, record, hbatch hrecord, h⟩

/-- A geometry that cannot be decoded is that of a requested row. -/
theorem extractDecodedGeometry_eq_decode {row : ℕ} {record : CatchmentRecord} {unitId : UnitId}
    {requestedIds : Finset UnitId} {source : WkbDecodeError}
    (h : extractDecodedGeometry hfx toGeo requestedIds row record
      = .error (.decode unitId source)) :
    unitId ∈ requestedIds ∧ extractId hfx record = .ok unitId ∧
      ∃ wkb, record.geometry = some wkb ∧ decodeWkbMultiPolygonBytes toGeo wkb = .error source := by
  simp only [extractDecodedGeometry, Checks.bind_eq_error_iff, Checks.mapError_eq_error_iff,
    Checks.mapError_eq_ok_iff, reduceCtorEq, and_false, exists_false, false_or] at h
  obtain ⟨raw, hraw, id, hid, h⟩ := h
  by_cases hrequested : id ∉ requestedIds
  · rw [if_pos hrequested] at h
    cases h
  simp only [if_neg hrequested, Checks.bind_eq_error_iff, Checks.mapError_eq_error_iff,
    Checks.mapError_eq_ok_iff, reduceCtorEq, and_false, exists_false, false_or] at h
  obtain ⟨wkb, hwkb, ⟨e, he, hdecode⟩ | ⟨geometry, -, h⟩⟩ := h
  · obtain ⟨rfl, rfl⟩ := CatchmentGeometryQueryError.decode.inj hdecode
    refine ⟨not_not.mp hrequested, extractId_eq_ok_iff.mpr ⟨raw, nonNull_eq_ok_iff.mp hraw, ?_⟩,
      wkb, nonNull_eq_ok_iff.mp hwkb, he⟩
    exact labelled_eq_ok_iff.mp hid
  · cases h

/-- The error of a query for geometries is that of a row of the file. -/
theorem exists_of_queryGeometriesByIds_eq_error {e : CatchmentGeometryQueryError}
    (h : (table.openObject hfx built).queryGeometriesByIds hfx toGeo ids = .error e) :
    ∃ row, ∃ record ∈ table.rows,
      extractDecodedGeometry hfx toGeo ids.toFinset row record = .error e := by
  rw [CatchmentReader.queryGeometriesByIds] at h
  split_ifs at h
  obtain ⟨first, batch, hbatch, h⟩ := RowGroups.exists_of_readGroups_eq_error h
  obtain ⟨row, record, hrecord, h⟩ := RowGroups.exists_of_readRows_eq_error h
  exact ⟨row, record, hbatch hrecord, h⟩

/-- **Queries by ids are exact.** Both find the requested ids of the file, each once, in file
order; they fail only when the file has invalid rows; and which index they use does not matter. -/
theorem queryByIds_exact (hindexed : (table.file hfx).Indexed built) (ids : List UnitId) :
    let reader := table.openObject hfx built
    let found := (table.unitIds hfx).filter (· ∈ ids)
    found.Nodup ∧
    (∀ units, reader.queryByIds hfx midpoint ids = .ok units →
      units.map CatchmentUnit.id = found) ∧
    (∀ rows, reader.queryGeometriesByIds hfx toGeo ids = .ok rows →
      rows.map DecodedCatchmentGeometryRow.id = found) ∧
    ((∀ record ∈ table.rows, ValidUnit hfx midpoint table.columns.fullProjection record) →
      ∃ units, reader.queryByIds hfx midpoint ids = .ok units) ∧
    ((∀ record ∈ table.rows, ValidGeometry hfx toGeo ids.toFinset record) →
      ∃ rows, reader.queryGeometriesByIds hfx toGeo ids = .ok rows) ∧
    ∀ built', (table.file hfx).Indexed built' →
      (table.openObject hfx built').queryByIds hfx midpoint ids
        = reader.queryByIds hfx midpoint ids ∧
      (table.openObject hfx built').queryGeometriesByIds hfx toGeo ids
        = reader.queryGeometriesByIds hfx toGeo ids := by
  refine ⟨(nodup_unitIds hindexed).filter _, fun _ => map_id_queryByIds hindexed,
    fun _ => map_id_queryGeometriesByIds hindexed, exists_queryByIds hindexed,
    exists_queryGeometriesByIds hindexed, ?_⟩
  intro built' hindexed'
  have hopen : table.openObject hfx built' = table.openObject hfx built := by
    rw [CatchmentTable.openObject, CatchmentTable.openObject,
      (indexes_of_indexed hindexed).idRowGroups_eq (indexes_of_indexed hindexed')]
  rw [hopen]
  exact ⟨rfl, rfl⟩

/-- The units that a query by ids finds. -/
theorem mem_queryByIds_iff (hindexed : (table.file hfx).Indexed built) {units : List CatchmentUnit}
    (hunits : (table.openObject hfx built).queryByIds hfx midpoint ids = .ok units)
    {unit : CatchmentUnit} :
    unit ∈ units ↔ unit.id ∈ ids ∧ ∃ record ∈ table.rows,
      extractUnit hfx midpoint table.columns.fullProjection record = .ok unit := by
  have h := indexes_of_indexed hindexed
  rw [queryByIds_eq_readGroups h, RowGroups.readGroups_eq_ok_iff readsRows_filterUnits] at hunits
  obtain ⟨-, rfl⟩ := hunits
  have hvalue : ∀ record unit,
      (extractUnit hfx midpoint table.columns.fullProjection record).toOption.filter
          (fun unit => unit.id ∈ ids.toFinset) = some unit ↔
        unit.id ∈ ids ∧
          extractUnit hfx midpoint table.columns.fullProjection record = .ok unit := by
    intro record unit
    rw [Option.filter_eq_some_iff, Checks.toOption_eq_some_iff, decide_eq_true_eq,
      List.mem_toFinset, and_comm]
  have hscan := @filterMap_scanned_eq _ _ _ _ h _ _ CatchmentUnit.id fun record unit hunit => by
    obtain ⟨hmem, hunit⟩ := (hvalue record unit).mp hunit
    refine ⟨?_, hmem⟩
    rw [CatchmentRecord.unitId, (extractUnit_spec hunit).1]
    rfl
  rw [hscan, List.mem_filterMap]
  simp only [hvalue]
  exact ⟨fun ⟨record, hrecord, hmem, hunit⟩ => ⟨hmem, record, hrecord, hunit⟩,
    fun ⟨hmem, record, hrecord, hunit⟩ => ⟨record, hrecord, hmem, hunit⟩⟩

/-- The row that a decoded geometry comes from. -/
def DecodedFrom (hfx : Hfx) (toGeo : List UInt8 → Except String (Geometry P))
    (record : CatchmentRecord) (row : DecodedCatchmentGeometryRow P) : Prop :=
  extractId hfx record = .ok row.id ∧ ∃ wkb, record.geometry = some wkb ∧
    decodeWkbMultiPolygonBytes toGeo wkb = .ok row.geometry

/-- The geometries that a query by ids finds. -/
theorem mem_queryGeometriesByIds_iff (hindexed : (table.file hfx).Indexed built)
    {rows : List (DecodedCatchmentGeometryRow P)}
    (hrows : (table.openObject hfx built).queryGeometriesByIds hfx toGeo ids = .ok rows)
    {row : DecodedCatchmentGeometryRow P} :
    row ∈ rows ↔ row.id ∈ ids ∧ ∃ record ∈ table.rows, DecodedFrom hfx toGeo record row := by
  have h := indexes_of_indexed hindexed
  rw [queryGeometriesByIds_eq_readGroups h, RowGroups.readGroups_eq_ok_iff readsRows_geometries]
    at hrows
  obtain ⟨-, rfl⟩ := hrows
  have hvalue : ∀ record row, geometryValue hfx toGeo ids.toFinset record = some row ↔
      row.id ∈ ids ∧ DecodedFrom hfx toGeo record row := by
    intro record row
    rw [geometryValue, Option.join_eq_some_iff, Checks.toOption_eq_some_iff,
      extractDecodedGeometry_eq_ok_iff]
    constructor
    · rintro ⟨id, hid, hcases⟩
      split at hcases
      · cases hcases
      · next hmem =>
        obtain ⟨wkb, hwkb, polygons, hpolygons, hrow⟩ := hcases
        obtain rfl := Option.some.inj hrow
        rw [not_not, List.mem_toFinset] at hmem
        exact ⟨hmem, hid, wkb, hwkb, hpolygons⟩
    · rintro ⟨hmem, hid, wkb, hwkb, hpolygons⟩
      refine ⟨row.id, hid, ?_⟩
      rw [if_neg (not_not.mpr (List.mem_toFinset.mpr hmem))]
      exact ⟨wkb, hwkb, row.geometry, hpolygons, rfl⟩
  have hscan := @filterMap_scanned_eq _ _ _ _ h _ _ DecodedCatchmentGeometryRow.id
    fun record row hrow => by
      obtain ⟨hmem, hid, -⟩ := (hvalue record row).mp hrow
      refine ⟨?_, hmem⟩
      rw [CatchmentRecord.unitId, hid]
      rfl
  rw [hscan, List.mem_filterMap]
  simp only [hvalue]
  exact ⟨fun ⟨record, hrecord, hmem, hrow⟩ => ⟨hmem, record, hrecord, hrow⟩,
    fun ⟨hmem, record, hrecord, hrow⟩ => ⟨record, hrecord, hmem, hrow⟩⟩

/-- The decoded geometry of a unit. -/
def CatchmentTable.geometryOf (hfx : Hfx) (toGeo : List UInt8 → Except String (Geometry P))
    (table : CatchmentTable) (id : UnitId) : Option (List P) :=
  (table.rows.find? fun record => record.unitId hfx = some id).bind fun record =>
    record.geometry.bind fun wkb => (decodeWkbMultiPolygonBytes toGeo wkb).toOption

private theorem find?_of_nodup_filterMap {α β : Type} [DecidableEq β] {l : List α}
    {f : α → Option β} {a : α} {b : β} (h : (l.filterMap f).Nodup) (ha : a ∈ l)
    (hb : f a = some b) :
    l.find? (fun a => f a = some b) = some a := by
  induction l with
  | nil => exact absurd ha List.not_mem_nil
  | cons a' l ih =>
    rcases List.mem_cons.mp ha with rfl | ha
    · exact List.find?_cons_of_pos (decide_eq_true hb)
    · by_cases hb' : f a' = some b
      · rw [List.filterMap_cons_some hb'] at h
        exact absurd (List.mem_filterMap.mpr ⟨a, ha, hb⟩) (List.nodup_cons.mp h).1
      · rw [List.find?_cons_of_neg (by simpa using hb')]
        refine ih ?_ ha
        exact h.sublist ((List.sublist_cons_self a' l).filterMap f)

theorem geometryOf_eq_some_iff (hindexed : (table.file hfx).Indexed built) {id : UnitId}
    {geometry : List P} : table.geometryOf hfx toGeo id = some geometry ↔
      ∃ record ∈ table.rows, DecodedFrom hfx toGeo record ⟨id, geometry⟩ := by
  simp only [CatchmentTable.geometryOf, Option.bind_eq_some_iff, Checks.toOption_eq_some_iff]
  constructor
  · rintro ⟨record, hrecord, wkb, hwkb, hgeometry⟩
    have hid := List.find?_some hrecord
    rw [decide_eq_true_eq, CatchmentRecord.unitId, Checks.toOption_eq_some_iff] at hid
    exact ⟨record, List.mem_of_find?_eq_some hrecord, hid, wkb, hwkb, hgeometry⟩
  · rintro ⟨record, hrecord, hid, wkb, hwkb, hgeometry⟩
    refine ⟨record, find?_of_nodup_filterMap (nodup_unitIds hindexed) hrecord ?_, wkb, hwkb,
      hgeometry⟩
    exact Checks.toOption_eq_some_iff.mpr hid

/-- A requested unit has a geometry when it has a row. -/
theorem isSome_geometryOf_iff (hindexed : (table.file hfx).Indexed built)
    (hvalid : ∀ record ∈ table.rows, ValidGeometry hfx toGeo ids.toFinset record) {id : UnitId}
    (hid : id ∈ ids) : (table.geometryOf hfx toGeo id).isSome ↔ id ∈ table.unitIds hfx := by
  rw [Option.isSome_iff_exists, CatchmentTable.unitIds, List.mem_filterMap]
  simp only [geometryOf_eq_some_iff hindexed, CatchmentRecord.unitId, Checks.toOption_eq_some_iff]
  constructor
  · rintro ⟨geometry, record, hrecord, hrow, -⟩
    exact ⟨record, hrecord, hrow⟩
  · rintro ⟨record, hrecord, hrow⟩
    obtain ⟨o, ho⟩ := hvalid record hrecord
    obtain ⟨id', hid', hcases⟩ := extractDecodedGeometry_eq_ok_iff.mp ho
    obtain rfl := Except.ok.inj (hid'.symm.trans hrow)
    rw [if_neg (not_not.mpr (List.mem_toFinset.mpr hid))] at hcases
    obtain ⟨wkb, hwkb, polygons, hpolygons, -⟩ := hcases
    exact ⟨polygons, record, hrecord, hrow, wkb, hwkb, hpolygons⟩

theorem containsId_iff (hindexed : (table.file hfx).Indexed built) {id : UnitId} :
    (table.openObject hfx built).containsId id ↔ id ∈ table.unitIds hfx := by
  have h := indexes_of_indexed hindexed
  rw [CatchmentReader.containsId, Option.isSome_iff_exists, ← table.flatten_idGroups,
    List.mem_flatten]
  constructor
  · rintro ⟨i, hi⟩
    obtain ⟨group, hgroup, hid⟩ := (h.rowGroup_iff id i).mp hi
    exact ⟨group, List.mem_of_getElem? hgroup, hid⟩
  · rintro ⟨group, hgroup, hid⟩
    obtain ⟨i, hi⟩ := List.mem_iff_getElem?.mp hgroup
    exact ⟨i, (h.rowGroup_iff id i).mpr ⟨group, hi, hid⟩⟩

/-- Requesting less keeps rows valid. -/
theorem ValidGeometry.mono {requestedIds requestedIds' : Finset UnitId} {record : CatchmentRecord}
    (h : ValidGeometry hfx toGeo requestedIds record) (hsubset : requestedIds' ⊆ requestedIds) :
    ValidGeometry hfx toGeo requestedIds' record := by
  obtain ⟨o, ho⟩ := h
  obtain ⟨id, hid, hcases⟩ := extractDecodedGeometry_eq_ok_iff.mp ho
  by_cases hmem : id ∈ requestedIds'
  · rw [if_neg (not_not.mpr (hsubset hmem))] at hcases
    refine ⟨o, extractDecodedGeometry_eq_ok_iff.mpr ⟨id, hid, ?_⟩⟩
    rwa [if_neg (not_not.mpr hmem)]
  · refine ⟨none, extractDecodedGeometry_eq_ok_iff.mpr ⟨id, hid, ?_⟩⟩
    rw [if_pos hmem]

end Ids

theorem queryByIds_apart : ∃ built, (apartTable.file permissiveHfx).Indexed built ∧
    (∃ units, (apartTable.openObject permissiveHfx built).queryByIds permissiveHfx
        (fun min _ => ⟨min.bits.zeroExtend 64⟩) [⟨2⟩, ⟨7⟩, ⟨2⟩] = .ok units ∧
      units.map CatchmentUnit.id = [⟨2⟩]) ∧
    ∃ rows, (apartTable.openObject permissiveHfx built).queryGeometriesByIds permissiveHfx
        (fun _ => .ok (Geometry.polygon ())) [⟨2⟩, ⟨7⟩, ⟨2⟩] = .ok rows ∧
      rows.map DecodedCatchmentGeometryRow.id = [⟨2⟩] := by
  obtain ⟨built, hbuilt⟩ : ∃ built, readAllIdsWithRowGroups (apartTable.file permissiveHfx)
      = .ok built := Checks.exists_of_isOk (by decide +kernel)
  obtain ⟨-, hunits, hgeometries, hvalidUnits, hvalidGeometries, -⟩ :=
    @queryByIds_exact _ _ (fun min _ => ⟨min.bits.zeroExtend 64⟩) (fun _ => .ok (.polygon ())) _ _
      (.ids hbuilt) [⟨2⟩, ⟨7⟩, ⟨2⟩]
  have hunit : apartTable.rows.all fun record => (extractUnit permissiveHfx
      (fun min _ => ⟨min.bits.zeroExtend 64⟩) apartTable.columns.fullProjection record).isOk := by
    decide +kernel
  have hgeometry : apartTable.rows.all fun record => (extractDecodedGeometry permissiveHfx
      (fun _ => .ok (Geometry.polygon ())) [⟨2⟩, ⟨7⟩, ⟨2⟩].toFinset 0 record).isOk := by
    decide +kernel
  obtain ⟨units, hok⟩ := hvalidUnits fun record hrecord =>
    Checks.exists_of_isOk (List.all_eq_true.mp hunit record hrecord)
  obtain ⟨rows, hrows⟩ := hvalidGeometries fun record hrecord =>
    Checks.exists_of_isOk (List.all_eq_true.mp hgeometry record hrecord)
  exact ⟨built, .ids hbuilt, ⟨units, hok, hunits units hok⟩, rows, hrows, hgeometries rows hrows⟩

end WatershedDelineation
