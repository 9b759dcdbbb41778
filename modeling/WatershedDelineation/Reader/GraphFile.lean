import WatershedDelineation.General.RowGroupScan
import WatershedDelineation.Reader.BoundingBox
import WatershedDelineation.Session.Dataset

/-!
# The graph file

`graph.rs` reads `graph.parquet` in two ways. `readGraphFromBuilder` reads all rows;
`levelsFromRowGroupStatistics` reads the levels that the statistics of the row groups show, and no
row.

A file is loaded exactly when its schema is right, all its rows are valid and the graph accepts them
(`readGraphFromBuilder_exact`), whichever batches the rows come in. The levels that the statistics
show are levels of the graph, and where all row groups have statistics, the largest one is that of
the graph (`maxLevelFromRowGroupStatistics_eq`).

The columns of statistics are found by their place among the fields of the schema, as the source
does. This is the place of the column only where no field before it has several columns.
-/

namespace WatershedDelineation

/-! ### Files -/

/-- A type of a column, as far as the reader tells types apart; other types have a number of stored
columns. -/
inductive ArrowType
  | int16
  | int64
  | list (item : ArrowType)
  | largeList (item : ArrowType)
  | other (name : String) (columns : ℕ)
  deriving DecidableEq, Repr

/-- The number of columns that a type is stored in. -/
def ArrowType.storedColumns : ArrowType → ℕ
  | .int16 => 1
  | .int64 => 1
  | .list item => item.storedColumns
  | .largeList item => item.storedColumns
  | .other _ columns => columns

/-- A field of a schema. -/
structure GraphField where
  name : String
  dataType : ArrowType
  deriving DecidableEq, Repr

/-- A row of a graph file; a value that is missing is null. Whether an item of a list is null is not
read. -/
structure GraphRecord where
  id : Option Int
  level : Option Int16
  upstreamIds : Option (List Int)
  deriving DecidableEq, Repr

/-- The statistics of a stored column. -/
inductive GraphStatistics
  | int32 (min max : Option Int)
  | other
  deriving DecidableEq, Repr

/-- A row group: its rows, and the statistics of its stored columns. -/
structure GraphRowGroup where
  rows : List GraphRecord
  statistics : List (Option GraphStatistics)
  deriving DecidableEq, Repr

/-- A graph file, and the batches in which its rows are read. -/
structure GraphTable where
  schema : List GraphField
  rowGroups : List GraphRowGroup
  batches : List (List GraphRecord)
  flatten_batches : batches.flatten = rowGroups.flatMap GraphRowGroup.rows

/-- Errors of the graph constructor. -/
inductive GraphError
  | duplicateUnitId (id : UnitId) (first second : ℕ)
  | other (reason : String)
  deriving DecidableEq, Repr

/-- Errors of reading a graph file. -/
inductive GraphFileError
  | graphSchema (reason : String)
  | graphMissingBboxColumn (column : String)
  | graphDomain (source : GraphError)
  | session (e : SessionError)
  deriving DecidableEq, Repr

/-- What the reader needs of other libraries: the names of types, and the constructor of graphs. -/
structure GraphLibrary where
  debug : ArrowType → String
  drainageGraph : List AdjacencyRow → Except GraphError DrainageGraph

/-- The constructor keeps the rows. -/
def GraphLibrary.KeepsRows (library : GraphLibrary) : Prop :=
  ∀ rows graph, library.drainageGraph rows = .ok graph → graph.rows = rows

/-! ### Reading all rows -/

section Read

variable (hfx : Hfx) (library : GraphLibrary)

def bboxColumns : List String := ["bbox_minx", "bbox_miny", "bbox_maxx", "bbox_maxy"]

/-- A field of a schema by its name. -/
def fieldWithName (schema : List GraphField) (name : String) : Option GraphField :=
  schema.find? (·.name = name)

def requireGraphColumn (schema : List GraphField) (name : String) (expected : ArrowType) :
    Except GraphFileError Unit :=
  match fieldWithName schema name with
  | some field =>
    if field.dataType = expected then .ok ()
    else .error (.graphSchema (s!"column \"{name}\" has type {library.debug field.dataType}, " ++
      s!"expected {library.debug expected}"))
  | none => .error (.graphSchema
      s!"missing required column \"{name}\" (expected {library.debug expected})")

/-- A list of 64-bit integers. -/
def isListInt64 : ArrowType → Bool
  | .list item => item = .int64
  | .largeList item => item = .int64
  | _ => false

/-- The check of the column of lists. -/
def requireUpstreamColumn (schema : List GraphField) : Except GraphFileError Unit :=
  match fieldWithName schema "upstream_ids" with
  | some field =>
    if isListInt64 field.dataType then .ok ()
    else .error (.graphSchema
      (s!"column \"upstream_ids\" has type {library.debug field.dataType}, " ++
        "expected List(Int64) or LargeList(Int64)"))
  | none =>
    .error (.graphSchema "missing required column \"upstream_ids\" (expected List(Int64))")

def validateGraphSchema (schema : List GraphField) : Except GraphFileError Unit := do
  requireGraphColumn library schema "id" .int64
  requireGraphColumn library schema "level" .int16
  requireUpstreamColumn library schema
  bboxColumns.forM fun column =>
    if fieldWithName schema column = none then .error (.graphMissingBboxColumn column) else .ok ()

def invalidGraphRow (row : ℕ) (detail : String) : GraphFileError :=
  .session (.invalidRow "graph.parquet" row detail)

/-- The upstream units of a row. -/
def convertUpstreamValues (values : List Int) (row : ℕ) : Except GraphFileError (List UnitId) :=
  values.mapM fun raw => (hfx.unitId raw).mapError fun e =>
    invalidGraphRow row s!"invalid upstream unit id {raw}: {e}"

/-- A row of the graph. -/
def extractGraphRow (row : ℕ) (record : GraphRecord) : Except GraphFileError AdjacencyRow := do
  let rawId ← Checks.okOr record.id
    (invalidGraphRow row "null value in non-nullable column \"id\"")
  let rawLevel ← Checks.okOr record.level
    (invalidGraphRow row "null value in non-nullable column \"level\"")
  let id ← (hfx.unitId rawId).mapError fun e =>
    invalidGraphRow row s!"invalid unit id {rawId}: {e}"
  let level ← (hfx.level rawLevel.toInt).mapError fun e =>
    invalidGraphRow row s!"invalid level {rawLevel.toInt}: {e}"
  let values ← Checks.okOr record.upstreamIds
    (invalidGraphRow row "null value in non-nullable column \"upstream_ids\"")
  let upstreamIds ← convertUpstreamValues hfx values row
  .ok ⟨id, level, upstreamIds⟩

/-- The same, for a scan of rows. -/
def readGraphRow (row : ℕ) (record : GraphRecord) : Except GraphFileError (Option AdjacencyRow) :=
  (extractGraphRow hfx row record).map some

/-- The error of a graph that is not accepted. -/
def graphError : GraphError → GraphFileError
  | .duplicateUnitId id first second => .session (.graphReferentialIntegrity
      s!"duplicate graph unit {id.raw} at rows {first} and {second}")
  | source => .graphDomain source

/-- Load a graph; reading may fail after some batches. -/
def readGraphFromBuilder (failure : Option (ℕ × GraphFileError)) (table : GraphTable) :
    Except GraphFileError DrainageGraph := do
  validateGraphSchema library table.schema
  let rows ← RowGroups.readGroup (RowGroups.readRows (readGraphRow hfx)) (fun _ => failure)
    [table.batches] 0 0
  (library.drainageGraph rows).mapError graphError

end Read

/-! ### Reading statistics -/

section Statistics

variable (hfx : Hfx) (library : GraphLibrary)

def levelFromStat (raw : Int) : Except GraphFileError Level := do
  if raw < -2 ^ 15 ∨ 2 ^ 15 ≤ raw then
    .error (.session (.parquetSchema "graph.parquet"
      s!"row-group level statistic {raw} does not fit Int16"))
  else (hfx.level raw).mapError fun e => .session (.parquetSchema "graph.parquet"
    s!"invalid row-group level statistic {raw}: {e}")

/-- The level that a bound shows, if there is one. -/
def levelFromBound (bound : Option Int) : Except GraphFileError (Option Level) :=
  match bound with
  | none => .ok none
  | some raw => (levelFromStat hfx raw).map some

/-- The smallest and the largest level of a row group. -/
def int16Stats : Option GraphStatistics → Except GraphFileError (List Level)
  | some (.int32 min max) => do
    let smallest ← levelFromBound hfx min
    let largest ← levelFromBound hfx max
    .ok (smallest.toList ++ largest.toList)
  | _ => .ok []

/-- The place of a field. -/
def levelColumn (schema : List GraphField) : ℕ := schema.findIdx (·.name = "level")

/-- The levels that the statistics show, each once, in order. -/
def levelsFromRowGroupStatistics (table : GraphTable) : Except GraphFileError (List Level) := do
  validateGraphSchema library table.schema
  let found ← table.rowGroups.mapM fun rowGroup =>
    int16Stats hfx (rowGroup.statistics[levelColumn table.schema]?.join)
  .ok (found.flatten.dedup.mergeSort fun a b => a.raw ≤ b.raw)

/-- The largest level of a list. -/
def maxLevelOf (levels : List Level) : Option Level := (levels.map Level.raw).max?.map Level.mk

/-- The largest level that the statistics show. -/
def maxLevelFromRowGroupStatistics (table : GraphTable) : Except GraphFileError (Option Level) :=
  (levelsFromRowGroupStatistics hfx library table).map maxLevelOf

end Statistics

/-! ### Loading is exact -/

section Exact

variable {hfx : Hfx} {library : GraphLibrary} {table : GraphTable} {record : GraphRecord}
  {row : AdjacencyRow} {graph : DrainageGraph} {failure : Option (ℕ × GraphFileError)}
  {e : GraphFileError}

/-- All rows of a file. -/
def GraphTable.rows (table : GraphTable) : List GraphRecord :=
  table.rowGroups.flatMap GraphRowGroup.rows

/-- A schema with the columns of a graph. -/
structure GraphSchema (schema : List GraphField) : Prop where
  id : ∃ field, fieldWithName schema "id" = some field ∧ field.dataType = .int64
  level : ∃ field, fieldWithName schema "level" = some field ∧ field.dataType = .int16
  upstreamIds : ∃ field, fieldWithName schema "upstream_ids" = some field ∧
    isListInt64 field.dataType
  bbox : ∀ column ∈ bboxColumns, fieldWithName schema column ≠ none

theorem requireGraphColumn_eq_ok_iff {schema : List GraphField} {name : String}
    {expected : ArrowType} : requireGraphColumn library schema name expected = .ok () ↔
      ∃ field, fieldWithName schema name = some field ∧ field.dataType = expected := by
  rw [requireGraphColumn]
  cases fieldWithName schema name with
  | none => simp
  | some field => simp

theorem requireUpstreamColumn_eq_ok_iff {schema : List GraphField} :
    requireUpstreamColumn library schema = .ok () ↔ ∃ field,
      fieldWithName schema "upstream_ids" = some field ∧ isListInt64 field.dataType := by
  rw [requireUpstreamColumn]
  cases fieldWithName schema "upstream_ids" with
  | none => simp
  | some field => simp

theorem validateGraphSchema_eq_ok_iff {schema : List GraphField} :
    validateGraphSchema library schema = .ok () ↔ GraphSchema schema := by
  simp only [validateGraphSchema, Checks.bind_eq_ok_iff, requireGraphColumn_eq_ok_iff,
    requireUpstreamColumn_eq_ok_iff, Checks.forM_eq_ok_iff, Checks.ite_error_eq_ok_iff, and_true,
    Unique.exists_iff, PUnit.default_eq_unit]
  constructor
  · rintro ⟨hid, hlevel, hlist, hbbox⟩
    exact ⟨hid, hlevel, hlist, hbbox⟩
  · rintro ⟨hid, hlevel, hlist, hbbox⟩
    exact ⟨hid, hlevel, hlist, hbbox⟩

/-- What a row says. -/
structure GraphRecord.Describes (hfx : Hfx) (record : GraphRecord) (row : AdjacencyRow) : Prop where
  id : ∃ raw, record.id = some raw ∧ hfx.unitId raw = .ok row.id
  level : ∃ raw, record.level = some raw ∧ hfx.level raw.toInt = .ok row.level
  upstreamIds : ∃ values, record.upstreamIds = some values ∧
    List.Forall₂ (fun raw id => hfx.unitId raw = .ok id) values row.upstreamIds

theorem extractGraphRow_eq_ok_iff {i : ℕ} :
    extractGraphRow hfx i record = .ok row ↔ record.Describes hfx row := by
  simp only [extractGraphRow, convertUpstreamValues, Checks.bind_eq_ok_iff, Checks.okOr_eq_ok_iff,
    Checks.mapError_eq_ok_iff, Checks.mapM_eq_ok_iff, Except.ok.injEq]
  constructor
  · rintro ⟨rawId, hrawId, rawLevel, hrawLevel, id, hid, level, hlevel, values, hvalues,
      upstreamIds, hupstream, rfl⟩
    exact ⟨⟨rawId, hrawId, hid⟩, ⟨rawLevel, hrawLevel, hlevel⟩, values, hvalues, hupstream⟩
  · rintro ⟨⟨rawId, hrawId, hid⟩, ⟨rawLevel, hrawLevel, hlevel⟩, values, hvalues, hupstream⟩
    exact ⟨rawId, hrawId, rawLevel, hrawLevel, _, hid, _, hlevel, values, hvalues, _, hupstream,
      rfl⟩

theorem readGraphRow_eq_ok_iff (i : ℕ) (record : GraphRecord) (found : Option AdjacencyRow) :
    readGraphRow hfx i record = .ok found ↔ (∃ row, record.Describes hfx row) ∧
      found = (extractGraphRow hfx 0 record).toOption := by
  rw [readGraphRow, Checks.map_eq_ok_iff]
  simp only [extractGraphRow_eq_ok_iff]
  constructor
  · rintro ⟨row, hrow, rfl⟩
    exact ⟨⟨row, hrow⟩, (Checks.toOption_eq_some_iff.mpr (extractGraphRow_eq_ok_iff.mpr hrow)).symm⟩
  · rintro ⟨⟨row, hrow⟩, rfl⟩
    exact ⟨row, hrow, (Checks.toOption_eq_some_iff.mpr (extractGraphRow_eq_ok_iff.mpr hrow)).symm⟩

/-- The rows that valid records describe. -/
theorem forall₂_describes_iff {records : List GraphRecord} {rows : List AdjacencyRow} :
    List.Forall₂ (GraphRecord.Describes hfx) records rows ↔
      (∀ record ∈ records, ∃ row, record.Describes hfx row) ∧
        rows = records.filterMap fun record => (extractGraphRow hfx 0 record).toOption := by
  have htoOption : ∀ record row, (extractGraphRow hfx 0 record).toOption = some row ↔
      record.Describes hfx row := fun record row => by
    rw [Checks.toOption_eq_some_iff, extractGraphRow_eq_ok_iff]
  induction records generalizing rows with
  | nil => simp
  | cons record records ih =>
    rw [List.forall₂_cons_left_iff, List.forall_mem_cons]
    simp only [ih]
    constructor
    · rintro ⟨row, rows, hrow, ⟨hrows, rfl⟩, rfl⟩
      refine ⟨⟨⟨row, hrow⟩, hrows⟩, ?_⟩
      rw [List.filterMap_cons, (htoOption ..).mpr hrow]
    · rintro ⟨⟨⟨row, hrow⟩, hrows⟩, rfl⟩
      refine ⟨row, _, hrow, ⟨hrows, rfl⟩, ?_⟩
      rw [List.filterMap_cons, (htoOption ..).mpr hrow]

theorem GraphTable.groupRows_batches (table : GraphTable) :
    RowGroups.groupRows [table.batches] 0 = table.rows :=
  table.flatten_batches

/-- A file can be read when no read fails and all its rows are valid. -/
theorem readGroup_batches_eq_ok_iff {rows : List AdjacencyRow} :
    RowGroups.readGroup (RowGroups.readRows (readGraphRow hfx)) (fun _ => failure)
        [table.batches] 0 0 = .ok rows ↔
      failure = none ∧ List.Forall₂ (GraphRecord.Describes hfx) table.rows rows := by
  rw [RowGroups.readGroup_eq_ok_iff readGraphRow_eq_ok_iff, RowGroups.GroupReadable,
    table.groupRows_batches, forall₂_describes_iff]
  constructor
  · rintro ⟨⟨hvalid, hnone⟩, hrows⟩
    exact ⟨hnone, hvalid, hrows⟩
  · rintro ⟨hnone, hvalid, hrows⟩
    exact ⟨⟨hvalid, hnone⟩, hrows⟩

theorem readGraphFromBuilder_eq_ok_iff :
    readGraphFromBuilder hfx library failure table = .ok graph ↔
      GraphSchema table.schema ∧ failure = none ∧ ∃ rows,
        List.Forall₂ (GraphRecord.Describes hfx) table.rows rows ∧
          library.drainageGraph rows = .ok graph := by
  simp only [readGraphFromBuilder, Checks.bind_eq_ok_iff, validateGraphSchema_eq_ok_iff,
    readGroup_batches_eq_ok_iff, Checks.mapError_eq_ok_iff, Unique.exists_iff,
    PUnit.default_eq_unit]
  refine and_congr_right fun _ => ?_
  constructor
  · rintro ⟨rows, ⟨hnone, hrows⟩, hgraph⟩
    exact ⟨hnone, rows, hrows, hgraph⟩
  · rintro ⟨hnone, rows, hrows, hgraph⟩
    exact ⟨rows, ⟨hnone, hrows⟩, hgraph⟩

theorem readGraphFromBuilder_eq_error_iff :
    readGraphFromBuilder hfx library failure table = .error e ↔
      validateGraphSchema library table.schema = .error e ∨ GraphSchema table.schema ∧
        (RowGroups.GroupError (readGraphRow hfx) (fun record => ∃ row, record.Describes hfx row)
            (fun _ => failure) [table.batches] 0 e ∨
          failure = none ∧ ∃ rows source,
            List.Forall₂ (GraphRecord.Describes hfx) table.rows rows ∧
              library.drainageGraph rows = .error source ∧ e = graphError source) := by
  have herror : RowGroups.readGroup (RowGroups.readRows (readGraphRow hfx)) (fun _ => failure)
        [table.batches] 0 0 = .error e ↔ RowGroups.GroupError (readGraphRow hfx)
          (fun record => ∃ row, record.Describes hfx row) (fun _ => failure) [table.batches] 0 e :=
    RowGroups.readGroup_eq_error_iff readGraphRow_eq_ok_iff
  simp only [readGraphFromBuilder, Checks.bind_eq_error_iff, validateGraphSchema_eq_ok_iff,
    readGroup_batches_eq_ok_iff, Checks.mapError_eq_error_iff, Unique.exists_iff,
    PUnit.default_eq_unit, herror]
  refine or_congr_right (and_congr_right fun _ => or_congr_right ?_)
  constructor
  · rintro ⟨rows, ⟨hnone, hrows⟩, source, hsource, rfl⟩
    exact ⟨hnone, rows, source, hrows, hsource, rfl⟩
  · rintro ⟨hnone, rows, source, hrows, hsource, rfl⟩
    exact ⟨rows, ⟨hnone, hrows⟩, source, hsource, rfl⟩

end Exact

/-- **Loading a graph file is exact.** It succeeds exactly on the right columns, when no read fails,
all rows are valid and the graph accepts them in their order; the error is that of the schema, then
that of the first bad row or of the failed read, then that of the graph. -/
theorem readGraphFromBuilder_exact (hfx : Hfx) (library : GraphLibrary)
    (failure : Option (ℕ × GraphFileError)) (table : GraphTable) :
    (∀ graph, readGraphFromBuilder hfx library failure table = .ok graph ↔
      GraphSchema table.schema ∧ failure = none ∧ ∃ rows,
        List.Forall₂ (GraphRecord.Describes hfx) table.rows rows ∧
          library.drainageGraph rows = .ok graph) ∧
    ∀ e, readGraphFromBuilder hfx library failure table = .error e ↔
      validateGraphSchema library table.schema = .error e ∨ GraphSchema table.schema ∧
        (RowGroups.GroupError (readGraphRow hfx) (fun record => ∃ row, record.Describes hfx row)
            (fun _ => failure) [table.batches] 0 e ∨
          failure = none ∧ ∃ rows source,
            List.Forall₂ (GraphRecord.Describes hfx) table.rows rows ∧
              library.drainageGraph rows = .error source ∧ e = graphError source) :=
  ⟨fun _ => readGraphFromBuilder_eq_ok_iff, fun _ => readGraphFromBuilder_eq_error_iff⟩

/-! ### Statistics show levels of the graph -/

section Shown

variable {hfx : Hfx} {library : GraphLibrary} {table : GraphTable} {graph : DrainageGraph}

/-- The stored column of the level. -/
def levelLeaf : List GraphField → ℕ
  | [] => 0
  | field :: fields =>
    if field.name = "level" then 0 else field.dataType.storedColumns + levelLeaf fields

/-- The fields before the level are stored in one column each. -/
def PlainBeforeLevel (schema : List GraphField) : Prop :=
  ∀ field ∈ schema.takeWhile (·.name ≠ "level"), field.dataType.storedColumns = 1

theorem levelLeaf_eq_levelColumn {schema : List GraphField} (h : PlainBeforeLevel schema) :
    levelLeaf schema = levelColumn schema := by
  induction schema with
  | nil => rfl
  | cons field fields ih =>
    rw [levelLeaf, levelColumn, List.findIdx_cons]
    by_cases hlevel : field.name = "level"
    · simp [hlevel]
    · rw [PlainBeforeLevel, List.takeWhile_cons_of_pos (by simpa using hlevel),
        List.forall_mem_cons] at h
      rw [if_neg hlevel, h.1, ih h.2]
      simp [hlevel, levelColumn, add_comm]

/-- The statistics of a row group for a column. -/
def GraphRowGroup.statisticsOf (rowGroup : GraphRowGroup) (column : ℕ) : Option GraphStatistics :=
  rowGroup.statistics[column]?.join

/-- The levels of the rows of a row group. -/
def GraphRowGroup.levels (rowGroup : GraphRowGroup) : Set ℤ :=
  {raw | ∃ record ∈ rowGroup.rows, ∃ level ∈ record.level, raw = level.toInt}

/-- Statistics of the levels that hold of the rows. -/
def GraphTable.ExactStatistics (table : GraphTable) : Prop :=
  ∀ rowGroup ∈ table.rowGroups, ∀ min max,
    rowGroup.statisticsOf (levelLeaf table.schema) = some (.int32 min max) →
      (∀ raw ∈ min, IsLeast rowGroup.levels raw) ∧ ∀ raw ∈ max, IsGreatest rowGroup.levels raw

/-- All row groups with rows have a largest level in their statistics. -/
def GraphTable.HasLargest (table : GraphTable) : Prop :=
  ∀ rowGroup ∈ table.rowGroups, rowGroup.rows ≠ [] →
    ∃ min max, rowGroup.statisticsOf (levelLeaf table.schema) = some (.int32 min (some max))

/-- The bounds in statistics. -/
def GraphStatistics.bounds : Option GraphStatistics → List ℤ
  | some (.int32 min max) => min.toList ++ max.toList
  | _ => []

theorem levelFromStat_eq {raw : ℤ} {record : Int16} {level : Level} (hraw : raw = record.toInt)
    (hlevel : hfx.level raw = .ok level) : levelFromStat hfx raw = .ok level := by
  have hlower := Int16.le_toInt record
  have hupper := Int16.toInt_lt record
  rw [levelFromStat, if_neg (by omega), hlevel]
  rfl

/-- Statistics are read when all bounds are levels. -/
theorem int16Stats_eq {statistics : Option GraphStatistics}
    (h : ∀ raw ∈ GraphStatistics.bounds statistics, levelFromStat hfx raw = .ok ⟨raw⟩) :
    int16Stats hfx statistics = .ok ((GraphStatistics.bounds statistics).map Level.mk) := by
  have hbound : ∀ bound : Option ℤ, (∀ raw ∈ bound, levelFromStat hfx raw = .ok ⟨raw⟩) →
      levelFromBound hfx bound = .ok (bound.map Level.mk) := by
    intro bound hbound
    cases bound with
    | none => rfl
    | some raw => rw [levelFromBound, hbound raw rfl]; rfl
  match statistics with
  | none => rfl
  | some .other => rfl
  | some (.int32 min max) =>
    simp only [GraphStatistics.bounds, List.mem_append, Option.mem_toList] at h
    rw [int16Stats, hbound min fun raw hraw => h raw (.inl hraw),
      hbound max fun raw hraw => h raw (.inr hraw)]
    cases min <;> cases max <;> rfl

/-- A bound is the level of a row. -/
theorem exists_record_of_mem_bounds (hexact : table.ExactStatistics) {rowGroup : GraphRowGroup}
    (hrowGroup : rowGroup ∈ table.rowGroups) {raw : ℤ}
    (hraw : raw ∈ GraphStatistics.bounds (rowGroup.statisticsOf (levelLeaf table.schema))) :
    ∃ record ∈ table.rows, ∃ level ∈ record.level, raw = level.toInt := by
  have hlevels : raw ∈ rowGroup.levels := by
    match hstatistics : rowGroup.statisticsOf (levelLeaf table.schema) with
    | none => simp [hstatistics, GraphStatistics.bounds] at hraw
    | some .other => simp [hstatistics, GraphStatistics.bounds] at hraw
    | some (.int32 min max) =>
      obtain ⟨hmin, hmax⟩ := hexact rowGroup hrowGroup min max hstatistics
      simp only [hstatistics, GraphStatistics.bounds, List.mem_append, Option.mem_toList] at hraw
      exact hraw.elim (fun h => (hmin raw h).1) fun h => (hmax raw h).1
  obtain ⟨record, hrecord, hlevel⟩ := hlevels
  exact ⟨record, List.mem_flatMap.mpr ⟨rowGroup, hrowGroup, hrecord⟩, hlevel⟩

/-- The largest level is found in each part of a list that has levels as large as all others. -/
theorem maxLevelOf_eq_of_subset {levels levels' : List Level} (hsubset : levels ⊆ levels')
    (hlarge : ∀ a ∈ levels', ∃ b ∈ levels, a.raw ≤ b.raw) :
    maxLevelOf levels = maxLevelOf levels' := by
  refine congrArg (Option.map Level.mk) ?_
  cases hmax : (levels'.map Level.raw).max? with
  | none =>
    obtain rfl := List.map_eq_nil_iff.mp (List.max?_eq_none_iff.mp hmax)
    rw [List.subset_nil.mp hsubset]
    rfl
  | some raw =>
    obtain ⟨hraw, hle⟩ := List.max?_eq_some_iff.mp hmax
    obtain ⟨a, ha, rfl⟩ := List.mem_map.mp hraw
    obtain ⟨b, hb, hab⟩ := hlarge a ha
    have hba := hle b.raw (List.mem_map_of_mem (hsubset hb))
    refine List.max?_eq_some_iff.mpr ⟨?_, fun raw hraw => hle raw (List.map_subset _ hsubset hraw)⟩
    exact List.mem_map.mpr ⟨b, hb, le_antisymm hba hab⟩

/-- The bounds in the statistics of all row groups. -/
def GraphTable.bounds (table : GraphTable) : List ℤ :=
  table.rowGroups.flatMap fun rowGroup =>
    GraphStatistics.bounds (rowGroup.statisticsOf (levelLeaf table.schema))

theorem levelsFromRowGroupStatistics_eq (hschema : GraphSchema table.schema)
    (hplain : PlainBeforeLevel table.schema)
    (h : ∀ raw ∈ table.bounds, levelFromStat hfx raw = .ok ⟨raw⟩) :
    levelsFromRowGroupStatistics hfx library table
      = .ok ((table.bounds.map Level.mk).dedup.mergeSort fun a b => a.raw ≤ b.raw) := by
  have hfound : (table.rowGroups.mapM fun rowGroup =>
        int16Stats hfx (rowGroup.statisticsOf (levelColumn table.schema)))
      = .ok (table.rowGroups.map fun rowGroup => (GraphStatistics.bounds
          (rowGroup.statisticsOf (levelLeaf table.schema))).map Level.mk) := by
    refine Checks.mapM_eq_ok fun rowGroup hrowGroup => ?_
    rw [← levelLeaf_eq_levelColumn hplain]
    exact int16Stats_eq fun raw hraw => h raw (List.mem_flatMap.mpr ⟨rowGroup, hrowGroup, hraw⟩)
  rw [levelsFromRowGroupStatistics, validateGraphSchema_eq_ok_iff.mpr hschema, Checks.ok_bind]
  simp only [GraphRowGroup.statisticsOf] at hfound
  rw [hfound, Checks.ok_bind, GraphTable.bounds, List.map_flatMap, List.flatMap_def]
  rfl

/-- Levels in order, each once. -/
theorem pairwise_mergeSort_dedup (levels : List Level) :
    (levels.dedup.mergeSort fun a b => a.raw ≤ b.raw).Pairwise (·.raw < ·.raw) := by
  have hsorted := @List.pairwise_mergeSort _ (fun a b : Level => a.raw ≤ b.raw)
    (fun a b c hab hbc => by simp only [decide_eq_true_eq] at *; omega)
    (fun a b => by simp only [Bool.or_eq_true, decide_eq_true_eq]; omega) levels.dedup
  have hnodup := (List.mergeSort_perm levels.dedup fun a b => a.raw ≤ b.raw).nodup_iff.mpr
    levels.nodup_dedup
  refine (hsorted.and hnodup).imp ?_
  rintro a b ⟨hle, hne⟩
  exact lt_of_le_of_ne (by simpa using hle) fun h => hne (congrArg Level.mk h)

/-- The levels of valid rows. -/
theorem exists_row_of_level {records : List GraphRecord} {rows : List AdjacencyRow}
    (hlevel : ∀ raw level, hfx.level raw = .ok level → level.raw = raw)
    (h : List.Forall₂ (GraphRecord.Describes hfx) records rows) {record : GraphRecord}
    (hrecord : record ∈ records) {raw : Int16} (hraw : record.level = some raw) :
    hfx.level raw.toInt = .ok ⟨raw.toInt⟩ ∧ ∃ row ∈ rows, row.level = ⟨raw.toInt⟩ := by
  obtain ⟨row, hrow, hdescribes⟩ := Checks.exists_of_mem_forall₂ h.flip hrecord
  obtain ⟨raw', hraw', hok⟩ := hdescribes.level
  obtain rfl := Option.some.inj (hraw.symm.trans hraw')
  have hrowLevel : row.level = ⟨raw.toInt⟩ := congrArg Level.mk (hlevel _ _ hok)
  exact ⟨hrowLevel ▸ hok, row, hrow, hrowLevel⟩

/-- **The levels that the statistics show are levels of the graph**, each once and in order, and
reading them does not fail. Where all row groups with rows show their largest level, the largest
level shown is that of the graph. -/
theorem maxLevelFromRowGroupStatistics_eq (hfx : Hfx) (library : GraphLibrary) (table : GraphTable)
    (graph : DrainageGraph) (hlevel : ∀ raw level, hfx.level raw = .ok level → level.raw = raw)
    (hkeeps : library.KeepsRows) (hplain : PlainBeforeLevel table.schema)
    (hexact : table.ExactStatistics)
    (hgraph : readGraphFromBuilder hfx library none table = .ok graph) :
    (∃ levels, levelsFromRowGroupStatistics hfx library table = .ok levels ∧
      levels.Pairwise (·.raw < ·.raw) ∧ ∀ level ∈ levels, ∃ row ∈ graph.rows, row.level = level) ∧
    (table.HasLargest → maxLevelFromRowGroupStatistics hfx library table
      = .ok (maxLevelOf (graph.rows.map AdjacencyRow.level))) := by
  obtain ⟨hschema, -, rows, hrows, hrowsGraph⟩ := readGraphFromBuilder_eq_ok_iff.mp hgraph
  obtain rfl := hkeeps rows graph hrowsGraph
  have hbounds : ∀ raw ∈ table.bounds, ∃ record ∈ table.rows, ∃ level ∈ record.level,
      raw = level.toInt := fun raw hraw => by
    obtain ⟨rowGroup, hrowGroup, hraw⟩ := List.mem_flatMap.mp hraw
    exact exists_record_of_mem_bounds hexact hrowGroup hraw
  have hlevels := @levelsFromRowGroupStatistics_eq hfx library table hschema hplain
    fun raw hraw => by
      obtain ⟨record, hrecord, level, hrecordLevel, rfl⟩ := hbounds raw hraw
      exact levelFromStat_eq rfl (exists_row_of_level hlevel hrows hrecord hrecordLevel).1
  have hshown : ∀ level ∈ table.bounds.map Level.mk, ∃ row ∈ graph.rows, row.level = level := by
    rw [List.forall_mem_map]
    intro raw hraw
    obtain ⟨record, hrecord, level, hrecordLevel, rfl⟩ := hbounds raw hraw
    exact (exists_row_of_level hlevel hrows hrecord hrecordLevel).2
  have hmem : ∀ level, level ∈ ((table.bounds.map Level.mk).dedup.mergeSort
      fun a b => a.raw ≤ b.raw) ↔ level ∈ table.bounds.map Level.mk := fun level => by
    rw [List.mem_mergeSort, List.mem_dedup]
  refine ⟨⟨_, hlevels, pairwise_mergeSort_dedup _, fun level h => hshown level ((hmem level).mp h)⟩,
    fun hlargest => ?_⟩
  rw [maxLevelFromRowGroupStatistics, hlevels]
  refine congrArg Except.ok (maxLevelOf_eq_of_subset ?_ ?_)
  · exact fun level h => List.mem_map.mpr (hshown level ((hmem level).mp h))
  · rw [List.forall_mem_map]
    intro row hrow
    -- the row's level is one of its row group
    obtain ⟨record, hrecord, hdescribes⟩ := Checks.exists_of_mem_forall₂ hrows hrow
    obtain ⟨raw, hraw, hok⟩ := hdescribes.level
    obtain ⟨rowGroup, hrowGroup, hrecord⟩ := List.mem_flatMap.mp hrecord
    obtain ⟨min, max, hstatistics⟩ := hlargest rowGroup hrowGroup (List.ne_nil_of_mem hrecord)
    have hgreatest := (hexact rowGroup hrowGroup min _ hstatistics).2 max rfl
    refine ⟨⟨max⟩, (hmem _).mpr (List.mem_map.mpr ⟨max, List.mem_flatMap.mpr
      ⟨rowGroup, hrowGroup, ?_⟩, rfl⟩), ?_⟩
    · simp [hstatistics, GraphStatistics.bounds]
    · rw [hlevel _ _ hok]
      exact hgreatest.2 ⟨record, hrecord, raw, hraw, rfl⟩

end Shown

/-- A library whose graphs have distinct ids. -/
def nodupLibrary : GraphLibrary where
  debug _ := "DataType"
  drainageGraph rows :=
    if h : (rows.map AdjacencyRow.id).Nodup then .ok ⟨rows, h⟩ else .error (.other "duplicate id")

/-- A file of three units in two row groups, with levels up to 3. -/
def threeUnitTable : GraphTable where
  schema := [⟨"id", .int64⟩, ⟨"level", .int16⟩, ⟨"upstream_ids", .list .int64⟩,
    ⟨"bbox_minx", .other "Float32" 1⟩, ⟨"bbox_miny", .other "Float32" 1⟩,
    ⟨"bbox_maxx", .other "Float32" 1⟩, ⟨"bbox_maxy", .other "Float32" 1⟩]
  rowGroups := [
    ⟨[⟨some 1, some 0, some [2]⟩, ⟨some 2, some 3, some []⟩],
      [some .other, some (.int32 (some 0) (some 3))]⟩,
    ⟨[⟨some 3, some 1, some []⟩], [some .other, some (.int32 (some 1) (some 1))]⟩]
  batches := [[⟨some 1, some 0, some [2]⟩],
    [⟨some 2, some 3, some []⟩, ⟨some 3, some 1, some []⟩]]
  flatten_batches := rfl

def threeUnitGraph : DrainageGraph where
  rows := [⟨⟨1⟩, ⟨0⟩, [⟨2⟩]⟩, ⟨⟨2⟩, ⟨3⟩, []⟩, ⟨⟨3⟩, ⟨1⟩, []⟩]
  nodup_ids := by simp

theorem maxLevelFromRowGroupStatistics_eq_threeUnits :
    readGraphFromBuilder permissiveHfx nodupLibrary none threeUnitTable = .ok threeUnitGraph ∧
      maxLevelFromRowGroupStatistics permissiveHfx nodupLibrary threeUnitTable
        = .ok (some ⟨3⟩) := by
  have hgraph : readGraphFromBuilder permissiveHfx nodupLibrary none threeUnitTable
      = .ok threeUnitGraph := by
    rfl
  have hkeeps : nodupLibrary.KeepsRows := by
    intro rows graph h
    simp only [nodupLibrary] at h
    split at h
    · obtain rfl := Except.ok.inj h
      rfl
    · cases h
  have hexact : threeUnitTable.ExactStatistics := by
    intro rowGroup hrowGroup min max hstatistics
    simp only [threeUnitTable, List.mem_cons, List.not_mem_nil, or_false] at hrowGroup
    obtain rfl | rfl := hrowGroup
    · obtain ⟨rfl, rfl⟩ : some 0 = min ∧ some 3 = max := by
        simpa [GraphRowGroup.statisticsOf, threeUnitTable, levelLeaf,
          ArrowType.storedColumns] using hstatistics
      simp [GraphRowGroup.levels, IsLeast, IsGreatest, lowerBounds, upperBounds]
    · obtain ⟨rfl, rfl⟩ : some 1 = min ∧ some 1 = max := by
        simpa [GraphRowGroup.statisticsOf, threeUnitTable, levelLeaf,
          ArrowType.storedColumns] using hstatistics
      simp [GraphRowGroup.levels, IsLeast, IsGreatest, lowerBounds, upperBounds]
  have hlargest : threeUnitTable.HasLargest := by
    intro rowGroup hrowGroup _
    simp only [threeUnitTable, List.mem_cons, List.not_mem_nil, or_false] at hrowGroup
    obtain rfl | rfl := hrowGroup
    · exact ⟨some 0, 3, rfl⟩
    · exact ⟨some 1, 1, rfl⟩
  have hplain : PlainBeforeLevel threeUnitTable.schema := by
    simp [PlainBeforeLevel, threeUnitTable, ArrowType.storedColumns]
  refine ⟨hgraph, ?_⟩
  rw [(maxLevelFromRowGroupStatistics_eq permissiveHfx nodupLibrary threeUnitTable threeUnitGraph
    (fun raw level h => by obtain rfl := Except.ok.inj h; rfl) hkeeps hplain hexact
    hgraph).2 hlargest]
  decide

end WatershedDelineation
