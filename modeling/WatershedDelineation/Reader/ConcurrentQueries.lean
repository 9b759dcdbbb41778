import WatershedDelineation.Reader.ConcurrentScans
import WatershedDelineation.Reader.SnapQueries

/-!
# Queries that read row groups several at a time

Queries for geometries and for snap targets read the row groups that they select through a buffer,
and so does the scan of ids and levels that validation needs. A read may fail at any batch.

In every interleaving, a query does what the same query does that reads one row group after the
other (`queries_concurrent`).
-/

namespace WatershedDelineation

open OrderedBuffer RowGroups

def geometryQueryRowGroupConcurrency : ℕ := 16

def snapBboxRowGroupConcurrency : ℕ := 8

/-! ### The queries -/

/-- A failed read, as a query for geometries returns it. -/
def readFailure (failure : ℕ → Option (ℕ × SessionError)) (rowGroup : ℕ) :
    Option (ℕ × CatchmentGeometryQueryError) :=
  (failure rowGroup).map fun (count, e) => (count, .read e)

section Queries

variable {P : Type} (hfx : Hfx) (toGeo : List UInt8 → Except String (Geometry P))
  (failure : ℕ → Option (ℕ × SessionError))

/-- The geometries of ids. -/
def CatchmentReader.queryGeometriesByIdsAsync
    (buffered : ℕ →
      List (Except CatchmentGeometryQueryError (List (DecodedCatchmentGeometryRow P))) →
      List (Except CatchmentGeometryQueryError (List (DecodedCatchmentGeometryRow P))))
    (reader : CatchmentReader) (ids : List UnitId) :
    Except CatchmentGeometryQueryError (List (DecodedCatchmentGeometryRow P)) :=
  let selected := reader.selectedRowGroupsForIds ids
  if ids.toFinset = ∅ ∨ selected = [] then .ok []
  else extendAll (buffered geometryQueryRowGroupConcurrency
    (groupTasks (readGroup (readRows (extractDecodedGeometry hfx toGeo ids.toFinset))
      (readFailure failure) reader.table.groups) reader.table.groups selected))

/-- The ids and the levels of all rows. -/
def CatchmentTable.readIdLevelsAsync
    (buffered : ℕ → List (Except SessionError (List CatchmentIdLevelRow)) →
      List (Except SessionError (List CatchmentIdLevelRow)))
    (table : CatchmentTable) : Except SessionError (List CatchmentIdLevelRow) :=
  if table.groups = [] then .ok []
  else if ¬table.columns.level then
    .error (.parquetSchema "catchments.parquet" "missing column \"level\"")
  else extendAll (buffered leanValidationRowGroupConcurrency
    (groupTasks (readGroup (readRows (keepRow (extractIdLevel hfx))) failure table.groups)
      table.groups (List.range table.groups.length)))

/-- The snap targets whose boxes intersect a box. -/
def SnapTable.queryByBboxAsync (decodeWkb : WkbGeometry → Except String SnapGeometry)
    (buffered : ℕ → List (Except SessionError (List SnapTarget)) →
      List (Except SessionError (List SnapTarget)))
    (table : SnapTable) (query : BoundingBox) : Except SessionError (List SnapTarget) :=
  let candidates :=
    ((RowGroupIndex.build (table.bboxes hfx)).candidates (hfx.intersects · query)).mergeSort
  if candidates = [] then .ok []
  else extendAll (buffered snapBboxRowGroupConcurrency
    (groupTasks (readGroup (readRows fun row record =>
      extractSnapTarget hfx decodeWkb table.columns row record (hfx.intersects · query))
      failure table.groups) table.groups candidates))

end Queries

/-! ### What they do -/

section Exact

variable {P : Type} {hfx : Hfx} {toGeo : List UInt8 → Except String (Geometry P)}
  {decodeWkb : WkbGeometry → Except String SnapGeometry} {failure : ℕ → Option (ℕ × SessionError)}
  {table : CatchmentTable} {snapTable : SnapTable} {built : IdIndexBuildResult}
  {ids : List UnitId} {query : BoundingBox}

/-- The row number makes no difference to what is read of a row. -/
theorem readGeometry_eq_ok_iff {requestedIds : Finset UnitId} (row : ℕ) (record : CatchmentRecord)
    (o : Option (DecodedCatchmentGeometryRow P)) :
    extractDecodedGeometry hfx toGeo requestedIds row record = .ok o ↔
      ValidGeometry hfx toGeo requestedIds record ∧
        o = (extractDecodedGeometry hfx toGeo requestedIds 0 record).toOption.join := by
  rw [extractDecodedGeometry_eq_ok_iff, ← @extractDecodedGeometry_eq_ok_iff _ _ _ _ 0]
  constructor
  · intro h
    exact ⟨⟨o, h⟩, by rw [h]; rfl⟩
  · rintro ⟨⟨o', h⟩, rfl⟩
    rw [h]
    rfl

theorem readSnapTarget_eq_ok_iff {columns : SnapColumns} {p : BoundingBox → Bool} (row : ℕ)
    (record : SnapRecord) (o : Option SnapTarget) :
    extractSnapTarget hfx decodeWkb columns row record p = .ok o ↔
      (∃ o, extractSnapTarget hfx decodeWkb columns 0 record p = .ok o) ∧
        o = (extractSnapTarget hfx decodeWkb columns 0 record p).toOption.join := by
  constructor
  · intro h
    rw [extractSnapTarget_congr h 0]
    exact ⟨⟨o, rfl⟩, rfl⟩
  · rintro ⟨⟨o', h⟩, rfl⟩
    rw [h]
    exact extractSnapTarget_congr h row

/-- A query for geometries is a scan of the row groups with the ids. -/
theorem queryGeometriesByIdsAsync_scansAs (h : built.Indexes (table.idGroups hfx))
    {buffered : ℕ →
      List (Except CatchmentGeometryQueryError (List (DecodedCatchmentGeometryRow P))) →
      List (Except CatchmentGeometryQueryError (List (DecodedCatchmentGeometryRow P)))}
    (hbuffered : Buffers buffered) :
    ScansAs ((table.openObject hfx built).queryGeometriesByIdsAsync hfx toGeo failure buffered ids)
      ((table.openObject hfx built).queryGeometriesByIds hfx toGeo ids)
      (extractDecodedGeometry hfx toGeo ids.toFinset) (ValidGeometry hfx toGeo ids.toFinset)
      (readFailure failure) table.groups (idCandidate built ids) := by
  have hscan : (table.openObject hfx built).queryGeometriesByIdsAsync hfx toGeo failure buffered ids
      = extendAll (groupTasks (readGroup (readRows (extractDecodedGeometry hfx toGeo ids.toFinset))
          (readFailure failure) table.groups) table.groups
          ((List.range table.groups.length).filter (idCandidate built ids))) := by
    rw [CatchmentReader.queryGeometriesByIdsAsync, selectedRowGroupsForIds_eq h,
      hbuffered.eq (by decide)]
    split_ifs with hempty
    · have hnil : (List.range table.groups.length).filter (idCandidate built ids) = [] := by
        refine hempty.elim (fun hids => ?_) id
        obtain rfl := (List.toFinset_eq_empty_iff ids).mp hids
        exact List.filter_eq_nil_iff.mpr fun i _ => by simp [idCandidate]
      rw [hnil]
      rfl
    · rfl
  rw [hscan, queryGeometriesByIds_eq_readGroups h]
  exact scansAs_readGroups readGeometry_eq_ok_iff _

/-- A query for snap targets is a scan of the row groups that may have some. -/
theorem queryByBboxAsync_scansAs
    {buffered : ℕ → List (Except SessionError (List SnapTarget)) →
      List (Except SessionError (List SnapTarget))} (hbuffered : Buffers buffered) :
    ScansAs (snapTable.queryByBboxAsync hfx failure decodeWkb buffered query)
      (snapTable.queryByBbox hfx decodeWkb query)
      (fun row record => extractSnapTarget hfx decodeWkb snapTable.columns row record
        (hfx.intersects · query))
      (fun record => ∃ o, extractSnapTarget hfx decodeWkb snapTable.columns 0 record
        (hfx.intersects · query) = .ok o)
      failure snapTable.groups (snapTable.bboxCandidate hfx query) := by
  have hcandidates : ((RowGroupIndex.build (snapTable.bboxes hfx)).candidates
      (hfx.intersects · query)).mergeSort
        = (List.range snapTable.groups.length).filter (snapTable.bboxCandidate hfx query) := by
    rw [snap_length_groups_eq]
    exact mergeSort_eq_filter_range RowGroupIndex.nodup_candidates_build
      fun i => RowGroupIndex.mem_candidates_build
  rw [snapQueryByBbox_eq_readGroups, SnapTable.queryByBboxAsync, hcandidates,
    hbuffered.eq (by decide)]
  have hscan := @scansAs_readGroups _ _ _ _ _ _ failure snapTable.groups
    (@readSnapTarget_eq_ok_iff hfx decodeWkb snapTable.columns (hfx.intersects · query))
    (snapTable.bboxCandidate hfx query)
  split_ifs with hnil
  · rw [hnil] at hscan ⊢
    exact hscan
  · exact hscan

/-- A scan of ids and levels is a scan of all row groups. -/
theorem readIdLevelsAsync_scansAs (hlevel : table.groups = [] ∨ table.columns.level)
    {buffered : ℕ → List (Except SessionError (List CatchmentIdLevelRow)) →
      List (Except SessionError (List CatchmentIdLevelRow))} (hbuffered : Buffers buffered) :
    ScansAs (table.readIdLevelsAsync hfx failure buffered) (table.file hfx).idLevels
      (keepRow (extractIdLevel hfx)) (fun record => ∃ row, extractIdLevel hfx record = .ok row)
      failure table.groups fun _ => true := by
  have hscan := @scansAs_readGroups _ _ _ _ _ _ failure table.groups
    (fun (i : ℕ) record o => @keepRow_eq_ok_iff _ (extractIdLevel hfx) i record o) fun _ => true
  rw [List.filter_eq_self.mpr fun _ _ => rfl] at hscan
  rw [CatchmentFile.idLevels, idLevelGroups_eq hlevel, CatchmentTable.readIdLevelsAsync,
    hbuffered.eq (by decide)]
  split_ifs with hnil hcolumn
  · rw [hnil] at hscan ⊢
    exact hscan
  · exact hscan
  · exact absurd hlevel (not_or.mpr ⟨hnil, hcolumn⟩)

/-- **Queries, several row groups at a time.** In every interleaving, and whichever reads fail, the
query for geometries, the scan of ids and levels and the query for snap targets do what they do one
row group after the other. -/
theorem queries_concurrent (hindexed : (table.file hfx).Indexed built)
    {bufferedGeometries : ℕ →
      List (Except CatchmentGeometryQueryError (List (DecodedCatchmentGeometryRow P))) →
      List (Except CatchmentGeometryQueryError (List (DecodedCatchmentGeometryRow P)))}
    {bufferedLevels : ℕ → List (Except SessionError (List CatchmentIdLevelRow)) →
      List (Except SessionError (List CatchmentIdLevelRow))}
    {bufferedTargets : ℕ → List (Except SessionError (List SnapTarget)) →
      List (Except SessionError (List SnapTarget))}
    (hgeometries : Buffers bufferedGeometries) (hlevels : Buffers bufferedLevels)
    (htargets : Buffers bufferedTargets) :
    ScansAs ((table.openObject hfx built).queryGeometriesByIdsAsync hfx toGeo failure
        bufferedGeometries ids)
      ((table.openObject hfx built).queryGeometriesByIds hfx toGeo ids)
      (extractDecodedGeometry hfx toGeo ids.toFinset) (ValidGeometry hfx toGeo ids.toFinset)
      (readFailure failure) table.groups (idCandidate built ids) ∧
    (if table.groups = [] ∨ table.columns.level then
      ScansAs (table.readIdLevelsAsync hfx failure bufferedLevels) (table.file hfx).idLevels
        (keepRow (extractIdLevel hfx)) (fun record => ∃ row, extractIdLevel hfx record = .ok row)
        failure table.groups fun _ => true
    else table.readIdLevelsAsync hfx failure bufferedLevels
      = .error (.parquetSchema "catchments.parquet" "missing column \"level\"")) ∧
    ScansAs (snapTable.queryByBboxAsync hfx failure decodeWkb bufferedTargets query)
      (snapTable.queryByBbox hfx decodeWkb query)
      (fun row record => extractSnapTarget hfx decodeWkb snapTable.columns row record
        (hfx.intersects · query))
      (fun record => ∃ o, extractSnapTarget hfx decodeWkb snapTable.columns 0 record
        (hfx.intersects · query) = .ok o)
      failure snapTable.groups (snapTable.bboxCandidate hfx query) := by
  refine ⟨queryGeometriesByIdsAsync_scansAs (indexes_of_indexed hindexed) hgeometries, ?_,
    queryByBboxAsync_scansAs htargets⟩
  split_ifs with hlevel
  · exact readIdLevelsAsync_scansAs hlevel hlevels
  · obtain ⟨hnil, hcolumn⟩ := not_or.mp hlevel
    rw [CatchmentTable.readIdLevelsAsync, if_neg hnil, if_pos hcolumn]

end Exact

/-- The second row group cannot be read: a query for its unit fails, a query for another does not
read it. -/
theorem queries_concurrent_apart : ∃ built,
    (apartTable.openObject permissiveHfx built).queryGeometriesByIdsAsync permissiveHfx
        (fun _ => .ok (Geometry.polygon ()))
        (fun i => if i = 1 then some (0, .artifactParse "catchments.parquet") else none)
        (fun _ tasks => tasks) [⟨2⟩] = .error (.read (.artifactParse "catchments.parquet")) ∧
    ∃ rows, (apartTable.openObject permissiveHfx built).queryGeometriesByIdsAsync permissiveHfx
        (fun _ => .ok (Geometry.polygon ()))
        (fun i => if i = 1 then some (0, .artifactParse "catchments.parquet") else none)
        (fun _ tasks => tasks) [⟨1⟩] = .ok rows := by
  have hread : (readAllIdsWithRowGroups (apartTable.file permissiveHfx)).toOption.map (fun built =>
      (idCandidate built [⟨2⟩] 0, idCandidate built [⟨2⟩] 1, idCandidate built [⟨1⟩] 1,
        ((apartTable.openObject permissiveHfx built).queryGeometriesByIds permissiveHfx
          (fun _ => .ok (Geometry.polygon ())) [⟨1⟩]).isOk)) = some (false, true, false, true) := by
    decide +kernel
  obtain ⟨built, hbuilt, hcandidates⟩ := Option.map_eq_some_iff.mp hread
  rw [Checks.toOption_eq_some_iff] at hbuilt
  obtain ⟨hfirst, hsecond, hother, hok⟩ := by simpa only [Prod.mk.injEq] using hcandidates
  have hscan := fun ids => (@queries_concurrent Unit permissiveHfx
    (fun _ => .ok (Geometry.polygon ())) (fun _ => .error "")
    (fun i => if i = 1 then some (0, .artifactParse "catchments.parquet") else none) apartTable
    nullBboxTable built ids touchingQuery (.ids hbuilt) _ _ _ buffers_tasks buffers_tasks
    buffers_tasks).1
  refine ⟨built, ((hscan [⟨2⟩]).error_iff _).mpr ⟨1, by decide, hsecond, fun j hj hkeep => ?_, ?_⟩,
    ?_⟩
  · obtain rfl := Nat.lt_one_iff.mp hj
    exact absurd (hkeep.symm.trans hfirst) (by decide)
  · exact .inr ⟨fun row hrow => absurd hrow List.not_mem_nil, 0, rfl⟩
  · obtain ⟨rows, hrows⟩ := Checks.exists_of_isOk hok
    refine ⟨rows, ((hscan [⟨1⟩]).ok_iff rows).mpr ⟨fun i hi hkeep => ?_, hrows⟩⟩
    rw [readFailure, if_neg]
    · rfl
    · rintro rfl
      exact absurd (hkeep.symm.trans hother) (by decide)

end WatershedDelineation
