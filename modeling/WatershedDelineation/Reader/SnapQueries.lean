import WatershedDelineation.Reader.SnapBbox

/-!
# Queries of snap targets

`SnapStore::query_by_bbox` of `snap_store.rs`, over a snap file as stored. The box of a row is the
stored one, or that of the geometry where a stored value is null. Row groups are left out by the
statistics of the stored values, which say nothing about the rows with nulls.

So a query finds what a full scan finds exactly when no such row of a group that is left out has a
geometry that intersects (`snapQueryByBbox_eq_scan_iff`).
-/

namespace WatershedDelineation

/-! ### Files -/

/-- The columns that a snap file may lack. -/
structure SnapColumns where
  stemRole : Bool
  bbox : Bool
  deriving DecidableEq, Repr

/-- A row of a snap file; a value that is missing is null, and so may be the whole box. -/
structure SnapRecord where
  id : Option Int
  unitId : Option Int
  weight : Option F32
  stemRole : Option String
  bbox : Option BboxLeaves
  geometry : Option (List UInt8)
  deriving DecidableEq, Repr

/-- A row group: the rows in the batches in which they are read, and the statistics of the boxes. -/
structure SnapRowGroup where
  batches : List (List SnapRecord)
  bboxStats : BboxStats
  deriving DecidableEq, Repr

/-- A snap file. -/
structure SnapTable where
  columns : SnapColumns
  rowGroups : List SnapRowGroup
  deriving DecidableEq, Repr

namespace SnapTable

variable (table : SnapTable)

/-- The rows of the row groups, in batches. -/
def groups : List (List (List SnapRecord)) := table.rowGroups.map SnapRowGroup.batches

/-- All rows, in file order. -/
def rows : List SnapRecord := table.groups.flatMap List.flatten

/-- The boxes of the row groups; there are none without a box column. -/
def bboxes (hfx : Hfx) : List (Option BoundingBox) :=
  table.rowGroups.map fun rowGroup =>
    if table.columns.bbox then extractRowGroupBbox hfx rowGroup.bboxStats else none

end SnapTable

/-! ### Rows -/

/-- A decoded geometry: the bounds as floats, which an empty line does not have; geometries of other
types are only named. -/
inductive SnapGeometry
  | point (minx miny maxx maxy : F32)
  | lineString (bounds : Option (F32 × F32 × F32 × F32))
  | other (typeName : String)
  deriving DecidableEq, Repr

/-- A snap target. -/
structure SnapTarget where
  id : SnapId
  unitId : UnitId
  weight : Weight
  stemRole : Option StemRole
  bbox : Option BoundingBox
  geometry : WkbGeometry
  deriving DecidableEq, Repr

section Extract

variable (hfx : Hfx) (decodeWkb : WkbGeometry → Except String SnapGeometry) (columns : SnapColumns)
  (row : ℕ) (record : SnapRecord)

/-- A row that is invalid for a reason. -/
def invalidSnapRow (detail : String) : SessionError := .invalidRow "snap.parquet" row detail

/-- The value of a column that must not be null. -/
def nonNullSnap {α : Type} (column : String) (value : Option α) : Except SessionError α :=
  Checks.okOr value (invalidSnapRow row s!"null value in non-nullable column \"{column}\"")

/-- A value of a constructor, or its error with a label. -/
def labelledSnap {α : Type} (label : String) (value : Except String α) : Except SessionError α :=
  value.mapError fun e => invalidSnapRow row s!"{label} error: {e}"

/-- Decode a geometry, which must be a point or a line. -/
def validateSnapGeometry (geometry : WkbGeometry) : Except SessionError SnapGeometry :=
  match decodeWkb geometry with
  | .error e => .error (.snapGeometryInvalid row e)
  | .ok (.other typeName) =>
    .error (.snapGeometryInvalid row s!"expected Point or LineString, got {typeName}")
  | .ok decoded => .ok decoded

/-- The box of a geometry. -/
def bboxFromSnapGeometry (geometry : SnapGeometry) : Except SessionError BoundingBox :=
  match geometry with
  | .point minx miny maxx maxy => snapBbox hfx minx miny maxx maxy row
  | .lineString (some (minx, miny, maxx, maxy)) => snapBbox hfx minx miny maxx maxy row
  | _ => .error (.snapGeometryInvalid row "geometry has no finite bounding rectangle")

/-- The four values of a stored box, if none is null. -/
def SnapRecord.completeBbox : Option (F32 × F32 × F32 × F32) := do
  let leaves ← if columns.bbox then record.bbox else none
  some (← leaves.xmin, ← leaves.ymin, ← leaves.xmax, ← leaves.ymax)

/-- The box of a row: the stored one if it is complete, or that of the geometry. -/
def snapRowBbox (decoded : SnapGeometry) : Except SessionError BoundingBox :=
  match record.completeBbox columns with
  | some (minx, miny, maxx, maxy) => snapBbox hfx minx miny maxx maxy row
  | none => bboxFromSnapGeometry hfx row decoded

/-- The role of a stem, if there is one. -/
def snapStemRole : Except SessionError (Option StemRole) :=
  match if columns.stemRole then record.stemRole else none with
  | none => .ok none
  | some value => (Checks.okOr (hfx.stemRole value) (.invalidStemRole row value)).map some

/-- The snap target of a row, if its box satisfies a predicate; the rest of the row is looked at
only then. -/
def extractSnapTarget (intersects : BoundingBox → Bool) :
    Except SessionError (Option SnapTarget) := do
  let rawId ← nonNullSnap row "id" record.id
  let rawUnitId ← nonNullSnap row "unit_id" record.unitId
  let rawWeight ← nonNullSnap row "weight" record.weight
  let wkb ← nonNullSnap row "geometry" record.geometry
  let geometry ← labelledSnap row "geometry" (hfx.wkbGeometry wkb)
  let decoded ← validateSnapGeometry decodeWkb row geometry
  let rowBbox ← snapRowBbox hfx columns row record decoded
  if !intersects rowBbox then pure none
  else do
    let id ← labelledSnap row "id" (hfx.snapId rawId)
    let unitId ← labelledSnap row "unit_id" (hfx.unitId rawUnitId)
    let weight ← labelledSnap row "weight" (hfx.weight rawWeight)
    let stemRole ← snapStemRole hfx columns row record
    pure (some ⟨id, unitId, weight, stemRole, some rowBbox, geometry⟩)

end Extract

/-! ### Queries -/

/-- The snap targets whose boxes intersect a box. -/
def SnapTable.queryByBbox (hfx : Hfx) (decodeWkb : WkbGeometry → Except String SnapGeometry)
    (table : SnapTable) (query : BoundingBox) : Except SessionError (List SnapTarget) :=
  let candidates :=
    ((RowGroupIndex.build (table.bboxes hfx)).candidates (hfx.intersects · query)).mergeSort
  if candidates = [] then .ok []
  else RowGroups.readGroups (RowGroups.readRows fun row record =>
    extractSnapTarget hfx decodeWkb table.columns row record (hfx.intersects · query))
    table.groups candidates

/-! ### Effective boxes -/

section Effective

variable {hfx : Hfx} {decodeWkb : WkbGeometry → Except String SnapGeometry} {columns : SnapColumns}
  {record : SnapRecord}

/-- The bounds of the geometry of a row, if it has a point or a line. -/
def SnapRecord.geometryBounds (hfx : Hfx) (decodeWkb : WkbGeometry → Except String SnapGeometry)
    (record : SnapRecord) : Option (F32 × F32 × F32 × F32) := do
  let wkb ← record.geometry
  let geometry ← (hfx.wkbGeometry wkb).toOption
  match ← (decodeWkb geometry).toOption with
  | .point minx miny maxx maxy => some (minx, miny, maxx, maxy)
  | .lineString bounds => bounds
  | .other _ => none

/-- The bounds of a row: the stored ones if they are complete, or those of the geometry. -/
def SnapRecord.bounds (hfx : Hfx) (decodeWkb : WkbGeometry → Except String SnapGeometry)
    (columns : SnapColumns) (record : SnapRecord) : Option (F32 × F32 × F32 × F32) :=
  (record.completeBbox columns).orElse fun _ => record.geometryBounds hfx decodeWkb

/-- The effective box of a row: the stored one if it is complete, or that of the geometry. A row has
none if the crate refuses the values, as it does when an axis is degenerate. -/
def SnapRecord.effectiveBbox (hfx : Hfx) (decodeWkb : WkbGeometry → Except String SnapGeometry)
    (columns : SnapColumns) (record : SnapRecord) : Option BoundingBox := do
  let (minx, miny, maxx, maxy) ← record.bounds hfx decodeWkb columns
  (hfx.boundingBox minx miny maxx maxy).toOption

/-- The snap target of a row. -/
def IsSnapTarget (hfx : Hfx) (decodeWkb : WkbGeometry → Except String SnapGeometry)
    (columns : SnapColumns) (record : SnapRecord) (target : SnapTarget) : Prop :=
  extractSnapTarget hfx decodeWkb columns 0 record (fun _ => true) = .ok (some target)

/-- A valid row has a snap target, and a box that is not degenerate. -/
def ValidSnap (hfx : Hfx) (decodeWkb : WkbGeometry → Except String SnapGeometry)
    (columns : SnapColumns) (record : SnapRecord) : Prop :=
  (∃ target, IsSnapTarget hfx decodeWkb columns record target) ∧
    (record.effectiveBbox hfx decodeWkb columns).isSome

theorem validateSnapGeometry_eq_ok_iff {row : ℕ} {geometry : WkbGeometry} {decoded : SnapGeometry} :
    validateSnapGeometry decodeWkb row geometry = .ok decoded ↔
      decodeWkb geometry = .ok decoded ∧ ∀ typeName, decoded ≠ .other typeName := by
  unfold validateSnapGeometry
  split
  · next e he => simp [he]
  · next typeName he =>
    simp only [he, Except.ok.injEq, reduceCtorEq, false_iff, not_and, not_forall, not_not]
    rintro rfl
    exact ⟨typeName, rfl⟩
  · next decoded' hother he =>
    rw [he]
    constructor
    · intro h
      obtain rfl := Except.ok.inj h
      exact ⟨rfl, fun typeName hname => hother typeName hname⟩
    · exact fun h => congrArg Except.ok (Except.ok.inj h.1)

/-- The box of a geometry is made of its bounds. -/
theorem bboxFromSnapGeometry_eq {wkb : List UInt8} {geometry : WkbGeometry} {decoded : SnapGeometry}
    (hwkb : record.geometry = some wkb) (hgeometry : hfx.wkbGeometry wkb = .ok geometry)
    (hdecoded : decodeWkb geometry = .ok decoded) {minx miny maxx maxy : F32}
    (hbounds : record.geometryBounds hfx decodeWkb = some (minx, miny, maxx, maxy)) (row : ℕ) :
    bboxFromSnapGeometry hfx row decoded = snapBbox hfx minx miny maxx maxy row := by
  simp only [SnapRecord.geometryBounds, hwkb, hgeometry, hdecoded, Except.toOption,
    Option.bind_eq_bind, Option.bind_some] at hbounds
  cases decoded with
  | point =>
    obtain ⟨rfl, rfl, rfl, rfl⟩ := by simpa using hbounds
    rfl
  | lineString bounds =>
    subst hbounds
    rfl
  | other => exact absurd hbounds (by simp)

/-- The box of a row is made of its bounds. -/
theorem snapRowBbox_eq {minx miny maxx maxy : F32} {wkb : List UInt8} {geometry : WkbGeometry}
    {decoded : SnapGeometry}
    (hbounds : record.bounds hfx decodeWkb columns = some (minx, miny, maxx, maxy))
    (hwkb : record.geometry = some wkb) (hgeometry : hfx.wkbGeometry wkb = .ok geometry)
    (hdecoded : decodeWkb geometry = .ok decoded) (row : ℕ) :
    snapRowBbox hfx columns row record decoded = snapBbox hfx minx miny maxx maxy row := by
  rw [SnapRecord.bounds] at hbounds
  rw [snapRowBbox]
  cases hcomplete : record.completeBbox columns with
  | some bounds =>
    rw [hcomplete] at hbounds
    obtain rfl := Option.some.inj hbounds
    rfl
  | none =>
    rw [hcomplete] at hbounds
    exact bboxFromSnapGeometry_eq hwkb hgeometry hdecoded hbounds row

/-- The box of a row that is not degenerate. -/
theorem snapRowBbox_of_effectiveBbox {bbox : BoundingBox} {wkb : List UInt8}
    {geometry : WkbGeometry} {decoded : SnapGeometry}
    (hbbox : record.effectiveBbox hfx decodeWkb columns = some bbox)
    (hwkb : record.geometry = some wkb) (hgeometry : hfx.wkbGeometry wkb = .ok geometry)
    (hdecoded : decodeWkb geometry = .ok decoded) (row : ℕ) :
    snapRowBbox hfx columns row record decoded = .ok bbox := by
  obtain ⟨⟨minx, miny, maxx, maxy⟩, hbounds, hbox⟩ := Option.bind_eq_some_iff.mp hbbox
  rw [snapRowBbox_eq hbounds hwkb hgeometry hdecoded]
  exact snapBbox_of_boundingBox (Checks.toOption_eq_some_iff.mp hbox) row

theorem snapRowBbox_congr {decoded : SnapGeometry} {row : ℕ} {bbox : BoundingBox}
    (h : snapRowBbox hfx columns row record decoded = .ok bbox) (row' : ℕ) :
    snapRowBbox hfx columns row' record decoded = .ok bbox := by
  unfold snapRowBbox bboxFromSnapGeometry at h ⊢
  split at h
  · exact snapBbox_congr h row'
  · split at h
    · exact snapBbox_congr h row'
    · exact snapBbox_congr h row'
    · exact absurd h (by simp)

theorem snapStemRole_congr {row : ℕ} {stemRole : Option StemRole}
    (h : snapStemRole hfx columns row record = .ok stemRole) (row' : ℕ) :
    snapStemRole hfx columns row' record = .ok stemRole := by
  unfold snapStemRole at h ⊢
  split at h
  · exact congrArg Except.ok (Except.ok.inj h)
  · rw [Checks.map_eq_ok_iff] at h ⊢
    simpa only [Checks.okOr_eq_ok_iff] using h

/-- Only errors depend on the row. -/
theorem extractSnapTarget_congr {row : ℕ} {p : BoundingBox → Bool} {o : Option SnapTarget}
    (h : extractSnapTarget hfx decodeWkb columns row record p = .ok o) (row' : ℕ) :
    extractSnapTarget hfx decodeWkb columns row' record p = .ok o := by
  simp only [extractSnapTarget, Checks.bind_eq_ok_iff, nonNullSnap, labelledSnap,
    Checks.okOr_eq_ok_iff, Checks.mapError_eq_ok_iff, validateSnapGeometry_eq_ok_iff] at h ⊢
  obtain ⟨rawId, hrawId, rawUnitId, hrawUnitId, rawWeight, hrawWeight, wkb, hwkb, geometry,
    hgeometry, decoded, hdecoded, rowBbox, hrowBbox, h⟩ := h
  refine ⟨rawId, hrawId, rawUnitId, hrawUnitId, rawWeight, hrawWeight, wkb, hwkb, geometry,
    hgeometry, decoded, hdecoded, rowBbox, snapRowBbox_congr hrowBbox row', ?_⟩
  split at h
  · next hp =>
    rw [if_pos hp]
    exact congrArg Except.ok (Except.ok.inj h)
  · next hp =>
    rw [if_neg hp]
    simp only [Checks.bind_eq_ok_iff, Checks.mapError_eq_ok_iff] at h ⊢
    obtain ⟨id, hid, unitId, hunitId, weight, hweight, stemRole, hstemRole, h⟩ := h
    exact ⟨id, hid, unitId, hunitId, weight, hweight, stemRole,
      snapStemRole_congr hstemRole row', h⟩

/-- A valid row is read as its snap target if its box satisfies the predicate. -/
theorem extractSnapTarget_of_isSnapTarget {target : SnapTarget} {bbox : BoundingBox}
    (h : IsSnapTarget hfx decodeWkb columns record target)
    (hbbox : record.effectiveBbox hfx decodeWkb columns = some bbox) (p : BoundingBox → Bool) :
    extractSnapTarget hfx decodeWkb columns 0 record p
      = .ok (if p bbox then some target else none) := by
  simp only [IsSnapTarget, extractSnapTarget, Checks.bind_eq_ok_iff, nonNullSnap, labelledSnap,
    Checks.okOr_eq_ok_iff, Checks.mapError_eq_ok_iff, validateSnapGeometry_eq_ok_iff] at h ⊢
  obtain ⟨rawId, hrawId, rawUnitId, hrawUnitId, rawWeight, hrawWeight, wkb, hwkb, geometry,
    hgeometry, decoded, hdecoded, rowBbox, hrowBbox, h⟩ := h
  obtain rfl : bbox = rowBbox := Except.ok.inj
    ((snapRowBbox_of_effectiveBbox hbbox hwkb hgeometry hdecoded.1 0).symm.trans hrowBbox)
  refine ⟨rawId, hrawId, rawUnitId, hrawUnitId, rawWeight, hrawWeight, wkb, hwkb, geometry,
    hgeometry, decoded, hdecoded, bbox, hrowBbox, ?_⟩
  cases hp : p bbox with
  | false => rfl
  | true => exact h

end Effective

/-! ### Full scans -/

/-- The statistics of the row groups bound the boxes that their rows store. -/
def SnapTable.statsBound (table : SnapTable) : Bool :=
  table.rowGroups.all fun rowGroup =>
    rowGroup.bboxStats.bounds (rowGroup.batches.flatten.filterMap SnapRecord.bbox)

section Scan

variable {hfx : Hfx} {decodeWkb : WkbGeometry → Except String SnapGeometry} {table : SnapTable}
  {query : BoundingBox}

theorem snap_length_groups_eq : table.groups.length = (table.bboxes hfx).length := by
  rw [SnapTable.groups, SnapTable.bboxes, List.length_map, List.length_map]

/-- A row group that a query reads. -/
def SnapTable.bboxCandidate (hfx : Hfx) (table : SnapTable) (query : BoundingBox) (i : ℕ) : Bool :=
  (table.bboxes hfx)[i]?.any (Option.all (hfx.intersects · query))

theorem snapQueryByBbox_eq_readGroups :
    table.queryByBbox hfx decodeWkb query
      = RowGroups.readGroups (RowGroups.readRows fun row record =>
          extractSnapTarget hfx decodeWkb table.columns row record (hfx.intersects · query))
          table.groups
          ((List.range table.groups.length).filter (table.bboxCandidate hfx query)) := by
  rw [SnapTable.queryByBbox, snap_length_groups_eq, RowGroups.mergeSort_eq_filter_range
    RowGroupIndex.nodup_candidates_build fun i => RowGroupIndex.mem_candidates_build]
  split_ifs with hcandidates
  · change _ = RowGroups.readGroups _ _ ((List.range _).filter fun i =>
      (table.bboxes hfx)[i]?.any (Option.all (hfx.intersects · query)))
    rw [hcandidates]
    rfl
  · rfl

/-- The box of a row group holds the complete boxes of its rows. -/
theorem SnapTable.within_of_statsBound (h : table.statsBound) {i : ℕ} {group bbox : BoundingBox}
    (hgroup : (table.bboxes hfx)[i]? = some (some group)) {record : SnapRecord}
    (hrecord : record ∈ RowGroups.groupRows table.groups i)
    (hcomplete : (record.completeBbox table.columns).isSome)
    (hbbox : record.effectiveBbox hfx decodeWkb table.columns = some bbox) : bbox.Within group := by
  obtain ⟨rowGroup, hrowGroup, hgroup, hrows⟩ := RowGroups.exists_of_mem_groupRows hgroup hrecord
  obtain ⟨hcolumn, hgroup⟩ := Option.ite_none_right_eq_some.mp hgroup
  obtain ⟨bounds, hbounds⟩ := Option.isSome_iff_exists.mp hcomplete
  rw [SnapRecord.effectiveBbox, SnapRecord.bounds, hbounds] at hbbox
  simp only [SnapRecord.completeBbox, hcolumn, if_true, Option.bind_eq_bind,
    Option.bind_eq_some_iff] at hbounds
  obtain ⟨leaves, hleaves, xmin, hxmin, ymin, hymin, xmax, hxmax, ymax, hymax, hsome⟩ := hbounds
  obtain rfl := Option.some.inj hsome
  refine BboxStats.within_of_bounds (List.all_eq_true.mp h rowGroup hrowGroup) hgroup
    (List.mem_filterMap.mpr ⟨record, hrows, hleaves⟩) ?_
  rw [BboxLeaves.bbox, hxmin, hymin, hxmax, hymax]
  exact hbbox

/-- In a row group that is left out, complete boxes do not intersect. -/
private theorem not_intersects_of_complete (hmono : hfx.IntersectsMono) (hstats : table.statsBound)
    {i : ℕ} {group : BoundingBox} (hgroup : (table.bboxes hfx)[i]? = some (some group))
    (hnot : hfx.intersects group query = false) {record : SnapRecord}
    (hrecord : record ∈ RowGroups.groupRows table.groups i)
    (hcomplete : (record.completeBbox table.columns).isSome) :
    (record.effectiveBbox hfx decodeWkb table.columns).any (hfx.intersects · query) = false := by
  cases hbbox : record.effectiveBbox hfx decodeWkb table.columns with
  | none => rfl
  | some bbox =>
    have hwithin := table.within_of_statsBound hstats hgroup hrecord hcomplete hbbox
    exact Bool.eq_false_iff.mpr fun hintersects =>
      Bool.false_ne_true (hnot.symm.trans (hmono bbox group query hwithin hintersects))

theorem readsRows_extractSnapTarget {columns : SnapColumns} {p : BoundingBox → Bool} :
    RowGroups.ReadsRows
      (RowGroups.readRows fun row record => extractSnapTarget hfx decodeWkb columns row record p)
      (fun record => ∃ o, extractSnapTarget hfx decodeWkb columns 0 record p = .ok o)
      fun record => (extractSnapTarget hfx decodeWkb columns 0 record p).toOption.join := by
  refine RowGroups.readsRows_readRows fun i record o => ⟨fun h => ?_, ?_⟩
  · rw [extractSnapTarget_congr h 0]
    exact ⟨⟨o, rfl⟩, rfl⟩
  · rintro ⟨⟨o, h⟩, rfl⟩
    rw [h]
    exact extractSnapTarget_congr h i

/-- A row whose values are accepted, apart from its box: the ids, the weight, the role and a
geometry that is a point or a line. -/
structure SnapRecord.WellFormed (hfx : Hfx) (decodeWkb : WkbGeometry → Except String SnapGeometry)
    (columns : SnapColumns) (record : SnapRecord) : Prop where
  id : ∃ raw id, record.id = some raw ∧ hfx.snapId raw = .ok id
  unitId : ∃ raw id, record.unitId = some raw ∧ hfx.unitId raw = .ok id
  weight : ∃ raw weight, record.weight = some raw ∧ hfx.weight raw = .ok weight
  stemRole : ∃ stemRole, snapStemRole hfx columns 0 record = .ok stemRole
  geometry : ∃ wkb geometry decoded, record.geometry = some wkb ∧
    hfx.wkbGeometry wkb = .ok geometry ∧ decodeWkb geometry = .ok decoded ∧
    ∀ typeName, decoded ≠ .other typeName

/-- The bounds of a row that are a box or are widened to one: finite values in order on each axis,
below the largest float, and a degenerate axis begins at a value with a clear sign bit. -/
def SnapRecord.Widens (hfx : Hfx) (decodeWkb : WkbGeometry → Except String SnapGeometry)
    (columns : SnapColumns) (record : SnapRecord) : Prop :=
  ∃ minx miny maxx maxy, record.bounds hfx decodeWkb columns = some (minx, miny, maxx, maxy) ∧
    (minx.isFinite ∧ miny.isFinite ∧ maxx.isFinite ∧ maxy.isFinite) ∧
    (minx.le maxx ∧ maxx.lt F32.largest ∧ (minx.lt maxx ∨ minx.sign = false)) ∧
    miny.le maxy ∧ maxy.lt F32.largest ∧ (miny.lt maxy ∨ miny.sign = false)

/-- A row whose bounds are widened is read, whatever the query is. -/
theorem exists_extractSnapTarget {columns : SnapColumns} {record : SnapRecord}
    (haccepts : hfx.AcceptsBoxes) (hrow : record.WellFormed hfx decodeWkb columns)
    (hwidens : record.Widens hfx decodeWkb columns) (p : BoundingBox → Bool) :
    ∃ o, extractSnapTarget hfx decodeWkb columns 0 record p = .ok o := by
  obtain ⟨rawId, id, hrawId, hid⟩ := hrow.id
  obtain ⟨rawUnitId, unitId, hrawUnitId, hunitId⟩ := hrow.unitId
  obtain ⟨rawWeight, weight, hrawWeight, hweight⟩ := hrow.weight
  obtain ⟨stemRole, hstemRole⟩ := hrow.stemRole
  obtain ⟨wkb, geometry, decoded, hwkb, hgeometry, hdecoded⟩ := hrow.geometry
  obtain ⟨minx, miny, maxx, maxy, hbounds, hfinite, ⟨hx, hmaxx, haxisx⟩, hy, hmaxy, haxisy⟩ :=
    hwidens
  obtain ⟨bbox, hbbox, -⟩ :=
    @exists_snapBbox hfx minx miny maxx maxy 0 haccepts hfinite hx hy hmaxx hmaxy haxisx haxisy
  rw [← snapRowBbox_eq hbounds hwkb hgeometry hdecoded.1] at hbbox
  refine ⟨if p bbox then some ⟨id, unitId, weight, stemRole, some bbox, geometry⟩ else none, ?_⟩
  simp only [extractSnapTarget, Checks.bind_eq_ok_iff, nonNullSnap, labelledSnap,
    Checks.okOr_eq_ok_iff, Checks.mapError_eq_ok_iff, validateSnapGeometry_eq_ok_iff]
  refine ⟨rawId, hrawId, rawUnitId, hrawUnitId, rawWeight, hrawWeight, wkb, hwkb, geometry,
    hgeometry, decoded, hdecoded, bbox, hbbox, ?_⟩
  cases p bbox with
  | false => rfl
  | true =>
    rw [hid, hunitId, hweight, hstemRole]
    rfl

/-- **A query does not fail** because of points or of lines along an axis: where the values of all
rows are accepted and their boxes are widened, every query succeeds. -/
theorem exists_snapQueryByBbox (haccepts : hfx.AcceptsBoxes)
    (hrows : ∀ record ∈ table.rows, record.WellFormed hfx decodeWkb table.columns ∧
      record.Widens hfx decodeWkb table.columns) (query : BoundingBox) :
    ∃ targets, table.queryByBbox hfx decodeWkb query = .ok targets := by
  simp only [snapQueryByBbox_eq_readGroups,
    RowGroups.readGroups_eq_ok_iff readsRows_extractSnapTarget]
  refine ⟨_, fun record hrecord => ?_, rfl⟩
  obtain ⟨hrow, hwidens⟩ := hrows record (RowGroups.scanned_sublist.subset hrecord)
  exact exists_extractSnapTarget haccepts hrow hwidens _

private theorem ValidSnap.exists_extract {columns : SnapColumns} {record : SnapRecord}
    (h : ValidSnap hfx decodeWkb columns record) (p : BoundingBox → Bool) :
    ∃ target bbox, IsSnapTarget hfx decodeWkb columns record target ∧
      record.effectiveBbox hfx decodeWkb columns = some bbox ∧
      extractSnapTarget hfx decodeWkb columns 0 record p
        = .ok (if p bbox then some target else none) := by
  obtain ⟨⟨target, htarget⟩, hbbox⟩ := h
  obtain ⟨bbox, hbbox⟩ := Option.isSome_iff_exists.mp hbbox
  exact ⟨target, bbox, htarget, hbbox, extractSnapTarget_of_isSnapTarget htarget hbbox p⟩

/-- Reading valid rows finds the snap targets of those whose boxes satisfy a predicate. -/
private theorem forall₂_isSnapTarget {columns : SnapColumns} {records : List SnapRecord}
    (hvalid : ∀ record ∈ records, ValidSnap hfx decodeWkb columns record)
    {p : BoundingBox → Bool} :
    List.Forall₂ (IsSnapTarget hfx decodeWkb columns)
      (records.filter fun record => (record.effectiveBbox hfx decodeWkb columns).any p)
      (records.filterMap fun record =>
        (extractSnapTarget hfx decodeWkb columns 0 record p).toOption.join) := by
  refine RowGroups.forall₂_filter_filterMap (fun record hrecord hany => ?_)
    fun record hrecord hany => ?_
  · obtain ⟨target, bbox, htarget, hbbox, hextract⟩ := (hvalid record hrecord).exists_extract p
    rw [hbbox, Option.any_some] at hany
    exact ⟨target, by rw [hextract, hany]; rfl, htarget⟩
  · obtain ⟨target, bbox, htarget, hbbox, hextract⟩ := (hvalid record hrecord).exists_extract p
    rw [hbbox, Option.any_some] at hany
    rw [hextract, hany]
    rfl

/-- **A query is a full scan** of valid rows exactly when no row with a null in its stored box, in a
row group that is left out, has a geometry that intersects. -/
theorem snapQueryByBbox_eq_scan_iff (hmono : hfx.IntersectsMono) (hstats : table.statsBound)
    (hvalid : ∀ record ∈ table.rows, ValidSnap hfx decodeWkb table.columns record) :
    (∃ targets, table.queryByBbox hfx decodeWkb query = .ok targets ∧
      List.Forall₂ (IsSnapTarget hfx decodeWkb table.columns)
        (table.rows.filter fun record =>
          (record.effectiveBbox hfx decodeWkb table.columns).any (hfx.intersects · query))
        targets) ↔
    ∀ i group, (table.bboxes hfx)[i]? = some (some group) → hfx.intersects group query = false →
      ∀ record ∈ RowGroups.groupRows table.groups i, record.completeBbox table.columns = none →
        (record.effectiveBbox hfx decodeWkb table.columns).any (hfx.intersects · query)
          = false := by
  have hsublist := @RowGroups.scanned_sublist _ table.groups (table.bboxCandidate hfx query)
  have hscanned := fun record hrecord => hvalid record (hsublist.subset hrecord)
  have hforall := @forall₂_isSnapTarget _ _ _ _ hscanned (hfx.intersects · query)
  simp only [snapQueryByBbox_eq_readGroups,
    RowGroups.readGroups_eq_ok_iff readsRows_extractSnapTarget]
  constructor
  · rintro ⟨_, ⟨-, rfl⟩, hscan⟩ i group hgroup hnot record hrecord -
    -- a scan that finds as many rows has left out none
    have hfilter := (hsublist.filter _).eq_of_length (hforall.length_eq.trans hscan.length_eq.symm)
    refine RowGroups.filter_scanned_eq_iff.mp hfilter i ?_ ?_ record hrecord
    · rw [snap_length_groups_eq]
      exact (List.getElem?_eq_some_iff.mp hgroup).1
    · rw [SnapTable.bboxCandidate, hgroup, Option.any_some, Option.all_some, hnot]
  · intro hcondition
    refine ⟨_, ⟨fun record hrecord => ?_, rfl⟩, ?_⟩
    · obtain ⟨_, _, -, -, hextract⟩ :=
        (hscanned record hrecord).exists_extract (hfx.intersects · query)
      exact ⟨_, hextract⟩
    · rw [SnapTable.rows, ← RowGroups.filter_scanned_eq_iff.mpr]
      · exact hforall
      · intro i hi hleft record hrecord
        rw [snap_length_groups_eq] at hi
        obtain ⟨group, hgroup, hnot⟩ := RowGroupIndex.exists_bbox_of_not_candidate hi hleft
        cases hcomplete : record.completeBbox table.columns with
        | none => exact hcondition i group hgroup hnot record hrecord hcomplete
        | some bounds =>
          exact not_intersects_of_complete hmono hstats hgroup hnot hrecord (by rw [hcomplete]; rfl)

end Scan

/-! ### Rows without boxes -/

/-- A decoder of lines between two numbers on both axes. -/
def diagonalDecoder (_ : WkbGeometry) : Except String SnapGeometry :=
  .ok (.lineString (some (⟨0x40000000⟩, ⟨0x40000000⟩, ⟨0x40400000⟩, ⟨0x40400000⟩)))

/-- A row group of two rows, of which the second has no box, and a geometry elsewhere. -/
def nullBboxTable : SnapTable :=
  let stats := fun bits : BitVec 32 => some (ColumnStats.mk (some ⟨bits⟩) (some ⟨bits⟩))
  let leaves : BboxLeaves :=
    ⟨some ⟨0⟩, some ⟨0⟩, some ⟨0x3f800000⟩, some ⟨0x3f800000⟩⟩
  ⟨⟨false, true⟩,
    [⟨[[⟨some 1, some 1, some ⟨0⟩, none, some leaves, some []⟩,
        ⟨some 2, some 1, some ⟨0⟩, none, none, some []⟩]],
      ⟨stats 0, stats 0, stats 0x3f800000, stats 0x3f800000⟩⟩]⟩

theorem validSnap_nullBbox : ∀ record ∈ nullBboxTable.rows,
    ValidSnap permissiveHfx diagonalDecoder nullBboxTable.columns record := by
  intro record hrecord
  have hall : nullBboxTable.rows.all fun record =>
      (extractSnapTarget permissiveHfx diagonalDecoder nullBboxTable.columns 0 record
        fun _ => true).toOption.join.isSome &&
      (record.effectiveBbox permissiveHfx diagonalDecoder nullBboxTable.columns).isSome := by
    decide +kernel
  obtain ⟨htarget, hbbox⟩ := Bool.and_eq_true_iff.mp (List.all_eq_true.mp hall record hrecord)
  obtain ⟨target, htarget⟩ := Option.isSome_iff_exists.mp htarget
  exact ⟨⟨target, Checks.toOption_eq_some_iff.mp (Option.join_eq_some_iff.mp htarget)⟩, hbbox⟩

/-- A box that meets the stored one. -/
def storedQuery : BoundingBox :=
  ⟨⟨0⟩, ⟨0⟩, ⟨0x3f000000⟩, ⟨0x3f000000⟩, by decide, by decide, by decide⟩

/-- A box that meets the geometry. -/
def geometryQuery : BoundingBox :=
  ⟨⟨0x40000000⟩, ⟨0x40000000⟩, ⟨0x40400000⟩, ⟨0x40400000⟩, by decide, by decide, by decide⟩

theorem snapQueryByBbox_stored : ∃ targets,
    nullBboxTable.queryByBbox permissiveHfx diagonalDecoder storedQuery = .ok targets ∧
      List.Forall₂ (IsSnapTarget permissiveHfx diagonalDecoder nullBboxTable.columns)
        (nullBboxTable.rows.filter fun record =>
          (record.effectiveBbox permissiveHfx diagonalDecoder nullBboxTable.columns).any
            (permissiveHfx.intersects · storedQuery)) targets := by
  refine (snapQueryByBbox_eq_scan_iff (Hfx.intersectsMono_of_meets rfl) (by decide)
    validSnap_nullBbox).mpr fun i group hgroup hnot => ?_
  cases i with
  | zero =>
    obtain rfl := Option.some.inj (Option.some.inj hgroup)
    exact absurd hnot (by decide)
  | succ => exact absurd hgroup (by simp [nullBboxTable, SnapTable.bboxes])

/-- **The defect.** A row without a stored box is not found by a query that its geometry
intersects. -/
theorem not_snapQueryByBbox_nullBbox : nullBboxTable.statsBound ∧
    (∀ record ∈ nullBboxTable.rows,
      ValidSnap permissiveHfx diagonalDecoder nullBboxTable.columns record) ∧
    ¬∃ targets,
      nullBboxTable.queryByBbox permissiveHfx diagonalDecoder geometryQuery = .ok targets ∧
      List.Forall₂ (IsSnapTarget permissiveHfx diagonalDecoder nullBboxTable.columns)
        (nullBboxTable.rows.filter fun record =>
          (record.effectiveBbox permissiveHfx diagonalDecoder nullBboxTable.columns).any
            (permissiveHfx.intersects · geometryQuery)) targets := by
  refine ⟨by decide, validSnap_nullBbox, ?_⟩
  rintro ⟨targets, htargets, hscan⟩
  have hempty : nullBboxTable.queryByBbox permissiveHfx diagonalDecoder geometryQuery = .ok [] := by
    decide +kernel
  obtain rfl := Except.ok.inj (hempty.symm.trans htargets)
  have hlength := hscan.length_eq
  exact absurd hlength (by decide +kernel)

end WatershedDelineation
