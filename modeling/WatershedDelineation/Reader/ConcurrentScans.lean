import WatershedDelineation.General.RowGroupScan
import WatershedDelineation.Reader.CatchmentQueries
import WatershedDelineation.Session.StoredIndex

/-!
# Scans of a catchments file

Opening a catchments file reads its row groups several at a time, and builds the id index from what
has been read, in the order of the row groups. A read may fail at any batch.

In every interleaving an index is the one that `readIdsLevelsWithRowGroups` builds, and an error is
that of the first row group that cannot be read or repeats an id (`scans_exact`).
-/

namespace WatershedDelineation

open OrderedBuffer RowGroups

def leanValidationRowGroupConcurrency : ℕ := 64

def catchmentIdOnlyRowGroupConcurrency : ℕ := 16

/-! ### The scans -/

section Scan

variable {α : Type}

/-- Record one unit of a row group. -/
def recordUnit (idOf : α → UnitId)
    (insert : (UnitId → Option Level) → α → UnitId → Option Level) (rowGroup : ℕ)
    (built : IdIndexBuildResult) (row : α) : Except SessionError IdIndexBuildResult := do
  let idRowGroups ← insertRowGroup built.idRowGroups (idOf row, rowGroup)
  .ok ⟨built.ids ++ [idOf row], idRowGroups, built.validationLevelsFromOpen.map (insert · row)⟩

/-- Record the units of all row groups, in the order of the results. -/
def recordAll (record : ℕ → IdIndexBuildResult → α → Except SessionError IdIndexBuildResult)
    (empty : IdIndexBuildResult) (results : List (Except SessionError (ℕ × List α))) :
    Except SessionError IdIndexBuildResult :=
  results.foldlM (fun built result => do
    let (rowGroup, rows) ← result
    rows.foldlM (record rowGroup) built) empty

/-- Read a row group, which is returned with its number. -/
def readNumberedGroup (extract : CatchmentRecord → Except String α)
    (failure : ℕ → Option (ℕ × SessionError)) (table : CatchmentTable) (rowGroup start : ℕ) :
    Except SessionError (ℕ × List α) := do
  let rows ← readGroup (readRows (keepRow extract)) failure table.groups rowGroup start
  .ok (rowGroup, rows)

/-- Read the ids of all rows. -/
def CatchmentTable.scanAllIds (hfx : Hfx)
    (buffered : ℕ → List (Except SessionError (ℕ × List UnitId)) →
      List (Except SessionError (ℕ × List UnitId)))
    (failure : ℕ → Option (ℕ × SessionError)) (table : CatchmentTable) :
    Except SessionError IdIndexBuildResult :=
  if table.groups = [] then .ok ⟨[], fun _ => none, none⟩
  else recordAll (recordUnit id fun levels _ => levels) ⟨[], fun _ => none, none⟩
    (buffered catchmentIdOnlyRowGroupConcurrency
      (groupTasks (readNumberedGroup (extractId hfx) failure table) table.groups
        (List.range table.groups.length)))

/-- Read the ids and the levels of all rows. -/
def CatchmentTable.scanIdsLevels (hfx : Hfx)
    (buffered : ℕ → List (Except SessionError (ℕ × List CatchmentIdLevelRow)) →
      List (Except SessionError (ℕ × List CatchmentIdLevelRow)))
    (failure : ℕ → Option (ℕ × SessionError)) (table : CatchmentTable) :
    Except SessionError IdIndexBuildResult :=
  if table.groups = [] then .ok ⟨[], fun _ => none, some fun _ => none⟩
  else if ¬table.columns.level then
    .error (.parquetSchema "catchments.parquet" "missing column \"level\"")
  else recordAll (recordUnit CatchmentIdLevelRow.id insertLevel)
    ⟨[], fun _ => none, some fun _ => none⟩
    (buffered leanValidationRowGroupConcurrency
      (groupTasks (readNumberedGroup (extractIdLevel hfx) failure table) table.groups
        (List.range table.groups.length)))

end Scan

/-! ### Recording -/

section Record

variable {α : Type} {idOf : α → UnitId}
  {insert : (UnitId → Option Level) → α → UnitId → Option Level} {rowGroup : ℕ}
  {built built' : IdIndexBuildResult} {rows : List α} {row : α} {e : SessionError}

theorem recordUnit_eq_error_iff : recordUnit idOf insert rowGroup built row = .error e ↔
    ∃ earlier, built.idRowGroups (idOf row) = some earlier ∧ e = .integrityViolation
      s!"duplicate catchment id {(idOf row).raw} found in row groups {earlier} and {rowGroup}" := by
  rw [recordUnit, Checks.bind_eq_error_iff, insertRowGroup]
  cases built.idRowGroups (idOf row) with
  | none => simp
  | some previous => simp [eq_comm]

/-- What a row group adds to an index. -/
def IdIndexBuildResult.recorded (idOf : α → UnitId)
    (insert : (UnitId → Option Level) → α → UnitId → Option Level) (rowGroup : ℕ)
    (built : IdIndexBuildResult) (rows : List α) : IdIndexBuildResult :=
  ⟨built.ids ++ rows.map idOf,
    fun id => if id ∈ rows.map idOf then some rowGroup else built.idRowGroups id,
    built.validationLevelsFromOpen.map fun levels => rows.foldl insert levels⟩

theorem recorded_nil : built.recorded idOf insert rowGroup [] = built := by
  simp [IdIndexBuildResult.recorded]

theorem recorded_cons : built.recorded idOf insert rowGroup (row :: rows)
    = (built.recorded idOf insert rowGroup [row]).recorded idOf insert rowGroup rows := by
  simp only [IdIndexBuildResult.recorded, List.map_cons, List.map_nil, List.append_assoc,
    List.singleton_append, List.mem_cons, List.not_mem_nil, or_false, Option.map_map,
    IdIndexBuildResult.mk.injEq, true_and]
  refine ⟨funext fun id => ?_, rfl⟩
  by_cases hrow : id = idOf row <;> by_cases hrows : id ∈ rows.map idOf <;> simp [hrow, hrows]

theorem recordUnit_eq_ok_iff : recordUnit idOf insert rowGroup built row = .ok built' ↔
    built.idRowGroups (idOf row) = none ∧ built' = built.recorded idOf insert rowGroup [row] := by
  have hupdate : built.recorded idOf insert rowGroup [row] = ⟨built.ids ++ [idOf row],
      Function.update built.idRowGroups (idOf row) (some rowGroup),
      built.validationLevelsFromOpen.map (insert · row)⟩ := by
    refine congrArg (IdIndexBuildResult.mk _ · _) (funext fun id => ?_)
    simp [Function.update_apply]
  rw [hupdate, recordUnit, Checks.bind_eq_ok_iff, insertRowGroup]
  cases built.idRowGroups (idOf row) with
  | none => simp [eq_comm]
  | some previous => simp

theorem foldlM_recordUnit_eq_ok_iff :
    rows.foldlM (recordUnit idOf insert rowGroup) built = .ok built' ↔
      ((rows.map idOf).Nodup ∧ ∀ row ∈ rows, built.idRowGroups (idOf row) = none) ∧
        built' = built.recorded idOf insert rowGroup rows := by
  induction rows generalizing built with
  | nil =>
    rw [recorded_nil]
    refine ⟨fun h => ⟨⟨List.nodup_nil, fun _ h => by cases h⟩, (Except.ok.inj h).symm⟩, ?_⟩
    rintro ⟨-, rfl⟩
    rfl
  | cons row rows ih =>
    have hnew : ∀ id, (built.recorded idOf insert rowGroup [row]).idRowGroups id = none ↔
        id ≠ idOf row ∧ built.idRowGroups id = none := fun id => by
      by_cases hid : id = idOf row <;> simp [IdIndexBuildResult.recorded, hid]
    rw [List.foldlM_cons, Checks.bind_eq_ok_iff, List.map_cons, List.nodup_cons,
      List.forall_mem_cons, recorded_cons]
    simp only [recordUnit_eq_ok_iff, ih, List.mem_map, not_exists, not_and]
    constructor
    · rintro ⟨_, ⟨hrow, rfl⟩, ⟨hnodup, hrows⟩, rfl⟩
      exact ⟨⟨⟨fun r hr => ((hnew _).mp (hrows r hr)).1, hnodup⟩, hrow,
        fun r hr => ((hnew _).mp (hrows r hr)).2⟩, rfl⟩
    · rintro ⟨⟨⟨hne, hnodup⟩, hrow, hrows⟩, rfl⟩
      exact ⟨_, ⟨hrow, rfl⟩, ⟨hnodup, fun r hr => (hnew _).mpr ⟨hne r hr, hrows r hr⟩⟩, rfl⟩

end Record

/-! ### Row groups -/

/-- The last of the first groups that has an id. -/
def lastGroupOf (ids : ℕ → List UnitId) : ℕ → UnitId → Option ℕ
  | 0, _ => none
  | n + 1, id => if id ∈ ids n then some n else lastGroupOf ids n id

section Groups

variable {ids : ℕ → List UnitId} {n i : ℕ} {id : UnitId}

theorem of_lastGroupOf (h : lastGroupOf ids n id = some i) : i < n ∧ id ∈ ids i := by
  induction n with
  | zero => cases h
  | succ n ih =>
    rw [lastGroupOf] at h
    split_ifs at h with hn
    · obtain rfl := Option.some.inj h
      exact ⟨Nat.lt_succ_self _, hn⟩
    · exact ⟨Nat.lt_succ_of_lt (ih h).1, (ih h).2⟩

theorem lastGroupOf_eq_none_iff : lastGroupOf ids n id = none ↔ ∀ i < n, id ∉ ids i := by
  induction n with
  | zero => exact ⟨fun _ i hi => absurd hi i.not_lt_zero, fun _ => rfl⟩
  | succ n ih =>
    rw [lastGroupOf, Nat.forall_lt_succ_right, ← ih]
    split_ifs with hn <;> simp [hn]

/-- Where ids do not repeat, an id is in one group. -/
theorem lastGroupOf_eq_some_iff (h : ((List.range n).flatMap ids).Nodup) :
    lastGroupOf ids n id = some i ↔ i < n ∧ id ∈ ids i := by
  refine ⟨of_lastGroupOf, fun ⟨hi, hid⟩ => ?_⟩
  cases hlast : lastGroupOf ids n id with
  | none => exact absurd hid (lastGroupOf_eq_none_iff.mp hlast i hi)
  | some j =>
    obtain ⟨hj, hjd⟩ := of_lastGroupOf hlast
    by_contra hne
    have hdisjoint := (List.nodup_flatMap.mp h).2
    have hpair := List.pairwise_iff_getElem.mp hdisjoint
    rcases Nat.lt_or_gt_of_ne (fun hij : i = j => hne (by rw [hij])) with hlt | hlt
    · have := hpair i j (by simpa using hi) (by simpa using hj) hlt
      rw [List.getElem_range, List.getElem_range] at this
      exact this hid hjd
    · have := hpair j i (by simpa using hj) (by simpa using hi) hlt
      rw [List.getElem_range, List.getElem_range] at this
      exact this hjd hid

end Groups

section Table

variable {α : Type}

/-- The units of a row group. -/
def CatchmentTable.unitsOf (extract : CatchmentRecord → Except String α) (table : CatchmentTable)
    (rowGroup : ℕ) : List α :=
  (groupRows table.groups rowGroup).filterMap fun record => (extract record).toOption

/-- The units of the row groups before one. -/
def CatchmentTable.unitsBefore (extract : CatchmentRecord → Except String α)
    (table : CatchmentTable) (rowGroup : ℕ) : List α :=
  (List.range rowGroup).flatMap (table.unitsOf extract)

/-- A row group repeats an id: the first one in it that a row before has, and where that row is. -/
def CatchmentTable.Repeats (extract : CatchmentRecord → Except String α) (idOf : α → UnitId)
    (table : CatchmentTable) (rowGroup : ℕ) (e : SessionError) : Prop :=
  ∃ before row after previous, table.unitsOf extract rowGroup = before ++ row :: after ∧
    ((table.unitsBefore extract rowGroup ++ before).map idOf).Nodup ∧
    (previous < rowGroup ∧ idOf row ∈ (table.unitsOf extract previous).map idOf ∨
      previous = rowGroup ∧ idOf row ∈ before.map idOf) ∧
    e = .integrityViolation
      s!"duplicate catchment id {(idOf row).raw} found in row groups {previous} and {rowGroup}"

/-- A row group that can be read. -/
def CatchmentTable.Readable (extract : CatchmentRecord → Except String α)
    (failure : ℕ → Option (ℕ × SessionError)) (table : CatchmentTable) (rowGroup : ℕ) : Prop :=
  GroupReadable (fun record => ∃ a, extract record = .ok a) failure table.groups rowGroup

/-- The first row group that cannot be read, or else repeats an id. -/
def CatchmentTable.FirstIndexError (extract : CatchmentRecord → Except String α)
    (idOf : α → UnitId) (failure : ℕ → Option (ℕ × SessionError)) (table : CatchmentTable)
    (e : SessionError) : Prop :=
  ∃ i < table.groups.length, (∀ j < i, table.Readable extract failure j) ∧
    ((table.unitsBefore extract i).map idOf).Nodup ∧
    (GroupError (keepRow extract) (fun record => ∃ a, extract record = .ok a) failure table.groups
        i e ∨
      table.Readable extract failure i ∧ table.Repeats extract idOf i e)

variable {extract : CatchmentRecord → Except String α} {idOf : α → UnitId}
  {insert : (UnitId → Option Level) → α → UnitId → Option Level}
  {failure : ℕ → Option (ℕ × SessionError)} {table : CatchmentTable}
  {levels : Option (UnitId → Option Level)} {built : IdIndexBuildResult} {n i : ℕ}
  {e : SessionError}

/-- All row groups can be read when no read fails and all rows have units. -/
theorem forall_readable_iff :
    (∀ i < table.groups.length, table.Readable extract failure i) ↔
      (∀ i < table.groups.length, failure i = none) ∧
        ∀ record ∈ table.rows, ∃ a, extract record = .ok a :=
  forall_groupReadable_iff

theorem unitsBefore_succ : table.unitsBefore extract (n + 1)
    = table.unitsBefore extract n ++ table.unitsOf extract n := by
  rw [CatchmentTable.unitsBefore, List.range_succ, List.flatMap_append, List.flatMap_singleton]
  rfl

/-- The index of the first row groups. -/
def CatchmentTable.indexBefore (extract : CatchmentRecord → Except String α) (idOf : α → UnitId)
    (insert : (UnitId → Option Level) → α → UnitId → Option Level)
    (levels : Option (UnitId → Option Level)) (table : CatchmentTable) (rowGroup : ℕ) :
    IdIndexBuildResult :=
  ⟨(table.unitsBefore extract rowGroup).map idOf,
    lastGroupOf (fun i => (table.unitsOf extract i).map idOf) rowGroup,
    levels.map fun levels => (table.unitsBefore extract rowGroup).foldl insert levels⟩

theorem indexBefore_succ : table.indexBefore extract idOf insert levels (n + 1)
    = (table.indexBefore extract idOf insert levels n).recorded idOf insert n
        (table.unitsOf extract n) := by
  rw [CatchmentTable.indexBefore, CatchmentTable.indexBefore, IdIndexBuildResult.recorded,
    unitsBefore_succ, List.map_append, Option.map_map]
  refine congrArg (IdIndexBuildResult.mk _ _) (congrArg (Option.map · levels) (funext fun _ => ?_))
  rw [List.foldl_append]
  rfl

/-- More units repeat no id. -/
theorem nodup_unitsBefore_append {rows : List α} :
    ((table.unitsBefore extract n ++ rows).map idOf).Nodup ↔
      ((table.unitsBefore extract n).map idOf).Nodup ∧ (rows.map idOf).Nodup ∧ ∀ row ∈ rows,
        (table.indexBefore extract idOf insert levels n).idRowGroups (idOf row) = none := by
  rw [List.map_append, List.nodup_append']
  refine and_congr_right fun _ => and_congr_right fun _ => ?_
  simp only [CatchmentTable.indexBefore, lastGroupOf_eq_none_iff, List.disjoint_right,
    List.forall_mem_map]
  refine forall₂_congr fun row _ => ?_
  simp only [CatchmentTable.unitsBefore, List.map_flatMap, List.mem_flatMap, List.mem_range,
    not_exists, not_and]

theorem readNumberedGroup_eq_ok_iff {found : ℕ × List α} {start : ℕ} :
    readNumberedGroup extract failure table i start = .ok found ↔
      table.Readable extract failure i ∧ found = (i, table.unitsOf extract i) := by
  simp only [readNumberedGroup, Checks.bind_eq_ok_iff, Except.ok.injEq,
    readGroup_eq_ok_iff fun (i : ℕ) record o => @keepRow_eq_ok_iff _ extract i record o]
  constructor
  · rintro ⟨_, ⟨hreadable, rfl⟩, rfl⟩
    exact ⟨hreadable, rfl⟩
  · rintro ⟨hreadable, rfl⟩
    exact ⟨_, ⟨hreadable, rfl⟩, rfl⟩

theorem readNumberedGroup_eq_error_iff :
    readNumberedGroup extract failure table i (rowsBefore table.groups i) = .error e ↔
      GroupError (keepRow extract) (fun record => ∃ a, extract record = .ok a) failure table.groups
        i e := by
  rw [readNumberedGroup, Checks.bind_eq_error_iff,
    readGroup_eq_error_iff fun (i : ℕ) record o => @keepRow_eq_ok_iff _ extract i record o]
  exact or_iff_left fun ⟨_, _, h⟩ => by cases h

/-- A row group is recorded when it can be read and repeats no id. -/
theorem recordGroup_eq_ok_iff : (do
      let (rowGroup, rows) ← readNumberedGroup extract failure table i (rowsBefore table.groups i)
      rows.foldlM (recordUnit idOf insert rowGroup)
        (table.indexBefore extract idOf insert levels i)) = .ok built ↔
    (table.Readable extract failure i ∧ ((table.unitsOf extract i).map idOf).Nodup ∧
        ∀ row ∈ table.unitsOf extract i,
          (table.indexBefore extract idOf insert levels i).idRowGroups (idOf row) = none) ∧
      built = table.indexBefore extract idOf insert levels (i + 1) := by
  simp only [Checks.bind_eq_ok_iff, readNumberedGroup_eq_ok_iff, indexBefore_succ]
  constructor
  · rintro ⟨_, ⟨hreadable, rfl⟩, h⟩
    obtain ⟨hrows, rfl⟩ := foldlM_recordUnit_eq_ok_iff.mp h
    exact ⟨⟨hreadable, hrows⟩, rfl⟩
  · rintro ⟨⟨hreadable, hrows⟩, rfl⟩
    exact ⟨_, ⟨hreadable, rfl⟩, foldlM_recordUnit_eq_ok_iff.mpr ⟨hrows, rfl⟩⟩

/-- The first row groups are recorded. -/
theorem foldlM_recordGroup_eq_ok_iff : (List.range n).foldlM (fun built i => do
      let (rowGroup, rows) ← readNumberedGroup extract failure table i (rowsBefore table.groups i)
      rows.foldlM (recordUnit idOf insert rowGroup) built) ⟨[], fun _ => none, levels⟩
        = .ok built ↔
    ((∀ i < n, table.Readable extract failure i) ∧
        ((table.unitsBefore extract n).map idOf).Nodup) ∧
      built = table.indexBefore extract idOf insert levels n := by
  have hstart : table.indexBefore extract idOf insert levels 0 = ⟨[], fun _ => none, levels⟩ := by
    cases levels <;> rfl
  rw [← hstart, Checks.foldlM_range_eq_ok_iff fun i built => recordGroup_eq_ok_iff]
  refine and_congr_left' ?_
  induction n with
  | zero => simp [CatchmentTable.unitsBefore]
  | succ n ih =>
    rw [Nat.forall_lt_succ_right, Nat.forall_lt_succ_right, ih, unitsBefore_succ,
      @nodup_unitsBefore_append _ extract idOf insert table levels]
    tauto

/-- A row group that can be read is not recorded if it repeats an id. -/
theorem foldlM_recordUnit_eq_error_iff
    (hnodup : ((table.unitsBefore extract i).map idOf).Nodup) :
    (table.unitsOf extract i).foldlM (recordUnit idOf insert i)
        (table.indexBefore extract idOf insert levels i) = .error e ↔
      table.Repeats extract idOf i e := by
  have hlast : ∀ id previous, (table.indexBefore extract idOf insert levels i).idRowGroups id
      = some previous ↔ previous < i ∧ id ∈ (table.unitsOf extract previous).map idOf := by
    intro id previous
    rw [CatchmentTable.unitsBefore, List.map_flatMap] at hnodup
    exact lastGroupOf_eq_some_iff hnodup
  rw [Checks.foldlM_eq_error_iff]
  constructor
  · rintro ⟨before, row, after, _, hsplit, hbefore, herror⟩
    obtain ⟨hnew, rfl⟩ := foldlM_recordUnit_eq_ok_iff.mp hbefore
    obtain ⟨previous, hprevious, rfl⟩ := recordUnit_eq_error_iff.mp herror
    refine ⟨before, row, after, previous, hsplit, nodup_unitsBefore_append.mpr ⟨hnodup, hnew⟩, ?_,
      rfl⟩
    rw [IdIndexBuildResult.recorded] at hprevious
    dsimp only at hprevious
    split_ifs at hprevious with hmem
    · exact .inr ⟨(Option.some.inj hprevious).symm, hmem⟩
    · exact .inl ((hlast ..).mp hprevious)
  · rintro ⟨before, row, after, previous, hsplit, hdistinct, hprevious, rfl⟩
    have hnew := ((@nodup_unitsBefore_append _ extract idOf insert table levels ..).mp hdistinct).2
    refine ⟨before, row, after, _, hsplit, foldlM_recordUnit_eq_ok_iff.mpr ⟨hnew, rfl⟩,
      recordUnit_eq_error_iff.mpr ⟨previous, ?_, rfl⟩⟩
    rw [IdIndexBuildResult.recorded]
    dsimp only
    obtain hprevious | ⟨rfl, hmem⟩ := hprevious
    · have hfound := (hlast ..).mpr hprevious
      rw [if_neg, hfound]
      intro hmem
      obtain ⟨r, hr, hid⟩ := List.mem_map.mp hmem
      rw [← hid, hnew.2 r hr] at hfound
      cases hfound
    · rw [if_pos hmem]

/-- The errors of recording all row groups. -/
theorem recordAll_eq_error_iff :
    recordAll (recordUnit idOf insert) ⟨[], fun _ => none, levels⟩
        (groupTasks (readNumberedGroup extract failure table) table.groups
          (List.range table.groups.length)) = .error e ↔
      table.FirstIndexError extract idOf failure e := by
  rw [recordAll, groupTasks_range, List.foldlM_map, Checks.foldlM_range_eq_error_iff]
  refine exists_congr fun i => and_congr_right fun _ => ?_
  simp only [foldlM_recordGroup_eq_ok_iff]
  constructor
  · rintro ⟨_, ⟨⟨hreadable, hnodup⟩, rfl⟩, h⟩
    refine ⟨hreadable, hnodup, ?_⟩
    rw [Checks.bind_eq_error_iff, readNumberedGroup_eq_error_iff] at h
    refine h.imp_right ?_
    rintro ⟨_, hread, h⟩
    obtain ⟨hreadable, rfl⟩ := readNumberedGroup_eq_ok_iff.mp hread
    exact ⟨hreadable, (foldlM_recordUnit_eq_error_iff hnodup).mp h⟩
  · rintro ⟨hreadable, hnodup, h⟩
    refine ⟨_, ⟨⟨hreadable, hnodup⟩, rfl⟩, ?_⟩
    rw [Checks.bind_eq_error_iff, readNumberedGroup_eq_error_iff]
    refine h.imp_right fun ⟨hreadable, h⟩ => ?_
    exact ⟨_, readNumberedGroup_eq_ok_iff.mpr ⟨hreadable, rfl⟩,
      (foldlM_recordUnit_eq_error_iff hnodup).mpr h⟩

/-- The index of all row groups. -/
theorem recordAll_eq_ok_iff :
    recordAll (recordUnit idOf insert) ⟨[], fun _ => none, levels⟩
        (groupTasks (readNumberedGroup extract failure table) table.groups
          (List.range table.groups.length)) = .ok built ↔
      ((∀ i < table.groups.length, table.Readable extract failure i) ∧
          ((table.unitsBefore extract table.groups.length).map idOf).Nodup) ∧
        built = table.indexBefore extract idOf insert levels table.groups.length := by
  rw [recordAll, groupTasks_range, List.foldlM_map]
  exact foldlM_recordGroup_eq_ok_iff

/-! ### The index of a file -/

/-- Groups of ids are indexed when no id repeats. -/
theorem indexRowGroups_withRowGroups_eq_ok_iff {ids : ℕ → List UnitId} {f : UnitId → Option ℕ} :
    indexRowGroups (withRowGroups ((List.range n).map ids)) = .ok f ↔
      ((List.range n).flatMap ids).Nodup ∧ f = lastGroupOf ids n := by
  have hspec : ∀ {f}, indexRowGroups (withRowGroups ((List.range n).map ids)) = .ok f →
      ((List.range n).flatMap ids).Nodup ∧ f = lastGroupOf ids n := by
    intro f h
    obtain ⟨hnodup, hf⟩ := indexRowGroups_spec h
    rw [map_fst_withRowGroups, ← List.flatMap_def] at hnodup
    refine ⟨hnodup, funext fun id => Option.ext fun rowGroup => ?_⟩
    rw [hf, mem_withRowGroups, lastGroupOf_eq_some_iff hnodup, List.getElem?_map]
    by_cases hlt : rowGroup < n
    · simp [hlt]
    · simp [hlt]
  refine ⟨hspec, fun ⟨hnodup, hf⟩ => ?_⟩
  rw [List.flatMap_def, ← map_fst_withRowGroups] at hnodup
  obtain ⟨f', hf'⟩ := exists_indexRowGroups hnodup
  rw [hf', hf, (hspec hf').2]

/-- The sequential scan of a file, and its index. -/
theorem readEach_indexRowGroups_iff {found : List (List α)} {f : UnitId → Option ℕ} :
    (readEach (readRows (keepRow extract)) table.groups (List.range table.groups.length)
        = .ok found ∧
      indexRowGroups (withRowGroups (found.map (·.map idOf))) = .ok f) ↔
    ((∀ record ∈ table.rows, ∃ a, extract record = .ok a) ∧
        ((table.unitsBefore extract table.groups.length).map idOf).Nodup) ∧
      found = (List.range table.groups.length).map (table.unitsOf extract) ∧
      f = lastGroupOf (fun i => (table.unitsOf extract i).map idOf) table.groups.length := by
  have hread := @readEach_eq_ok_iff _ _ _ _ _ _ table.groups (fun _ => true)
    (readsRows_readRows fun (i : ℕ) record o => @keepRow_eq_ok_iff _ extract i record o) found
  have hall : (List.range table.groups.length).filter (fun _ => true)
      = List.range table.groups.length := List.filter_eq_self.mpr fun _ _ => rfl
  rw [scanned, hall, flatMap_groupRows] at hread
  rw [hread, CatchmentTable.unitsBefore, List.map_flatMap]
  have hindex : indexRowGroups (withRowGroups (((List.range table.groups.length).map
        (table.unitsOf extract)).map (·.map idOf))) = .ok f ↔
      ((List.range table.groups.length).flatMap fun i => (table.unitsOf extract i).map idOf).Nodup ∧
        f = lastGroupOf (fun i => (table.unitsOf extract i).map idOf) table.groups.length := by
    rw [List.map_map]
    exact indexRowGroups_withRowGroups_eq_ok_iff
  constructor
  · rintro ⟨⟨hvalid, rfl⟩, h⟩
    obtain ⟨hnodup, rfl⟩ := hindex.mp h
    exact ⟨⟨hvalid, hnodup⟩, rfl, rfl⟩
  · rintro ⟨⟨hvalid, hnodup⟩, rfl, rfl⟩
    exact ⟨⟨hvalid, rfl⟩, hindex.mpr ⟨hnodup, rfl⟩⟩

end Table

section Exact

variable {hfx : Hfx} {failure : ℕ → Option (ℕ × SessionError)} {table : CatchmentTable}
  {built : IdIndexBuildResult} {e : SessionError}
  {bufferedIds : ℕ → List (Except SessionError (ℕ × List UnitId)) →
    List (Except SessionError (ℕ × List UnitId))}
  {bufferedLevels : ℕ → List (Except SessionError (ℕ × List CatchmentIdLevelRow)) →
    List (Except SessionError (ℕ × List CatchmentIdLevelRow))}

theorem scanAllIds_eq_recordAll (hbuffered : Buffers bufferedIds) :
    table.scanAllIds hfx bufferedIds failure
      = recordAll (recordUnit id fun levels _ => levels) ⟨[], fun _ => none, none⟩
          (groupTasks (readNumberedGroup (extractId hfx) failure table) table.groups
            (List.range table.groups.length)) := by
  rw [CatchmentTable.scanAllIds, hbuffered.eq (by decide)]
  split_ifs with hnil
  · rw [hnil]
    rfl
  · rfl

/-- In every interleaving, the ids are read as in the file model. -/
theorem scanAllIds_eq_ok_iff (hbuffered : Buffers bufferedIds) :
    table.scanAllIds hfx bufferedIds failure = .ok built ↔
      (∀ i < table.groups.length, failure i = none) ∧
        readAllIdsWithRowGroups (table.file hfx) = .ok built := by
  have hfile : readAllIdsWithRowGroups (table.file hfx) = .ok built ↔ ∃ found f,
      (readEach (readRows (keepRow (extractId hfx))) table.groups
          (List.range table.groups.length) = .ok found ∧
        indexRowGroups (withRowGroups (found.map (·.map id))) = .ok f) ∧
      built = ⟨found.flatten, f, none⟩ := by
    simp only [readAllIdsWithRowGroups, Checks.bind_eq_ok_iff, Except.ok.injEq, List.map_id_fun',
      List.map_id, and_assoc, exists_and_left, eq_comm (a := built)]
    rfl
  rw [scanAllIds_eq_recordAll hbuffered, recordAll_eq_ok_iff, forall_readable_iff, hfile]
  simp only [readEach_indexRowGroups_iff]
  constructor
  · rintro ⟨⟨⟨hnone, hvalid⟩, hnodup⟩, rfl⟩
    refine ⟨hnone, _, _, ⟨⟨hvalid, hnodup⟩, rfl, rfl⟩, ?_⟩
    rw [CatchmentTable.indexBefore, List.map_id, CatchmentTable.unitsBefore, List.flatMap_def]
    rfl
  · rintro ⟨hnone, _, _, ⟨⟨hvalid, hnodup⟩, rfl, rfl⟩, rfl⟩
    refine ⟨⟨⟨hnone, hvalid⟩, hnodup⟩, ?_⟩
    rw [CatchmentTable.indexBefore, List.map_id, CatchmentTable.unitsBefore, List.flatMap_def]
    rfl

/-- A file with levels, or without row groups, is scanned. -/
theorem scanIdsLevels_eq_recordAll (hbuffered : Buffers bufferedLevels)
    (hlevel : table.groups = [] ∨ table.columns.level) :
    table.scanIdsLevels hfx bufferedLevels failure
      = recordAll (recordUnit CatchmentIdLevelRow.id insertLevel)
          ⟨[], fun _ => none, some fun _ => none⟩
          (groupTasks (readNumberedGroup (extractIdLevel hfx) failure table) table.groups
            (List.range table.groups.length)) := by
  rw [CatchmentTable.scanIdsLevels, hbuffered.eq (by decide)]
  split_ifs with hnil hcolumn
  · rw [hnil]
    rfl
  · rfl
  · exact absurd hlevel (not_or.mpr ⟨hnil, hcolumn⟩)

theorem scanIdsLevels_of_missing (hnil : table.groups ≠ []) (hcolumn : ¬table.columns.level) :
    table.scanIdsLevels hfx bufferedLevels failure
      = .error (.parquetSchema "catchments.parquet" "missing column \"level\"") := by
  rw [CatchmentTable.scanIdsLevels, if_neg hnil, if_pos hcolumn]

theorem idLevelGroups_eq (hlevel : table.groups = [] ∨ table.columns.level) :
    (table.file hfx).idLevelGroups = readEach (readRows (keepRow (extractIdLevel hfx)))
      table.groups (List.range table.groups.length) := by
  rw [CatchmentTable.file]
  dsimp only
  split_ifs with hnil hcolumn
  · rw [hnil]
    rfl
  · rfl
  · exact absurd hlevel (not_or.mpr ⟨hnil, hcolumn⟩)

/-- In every interleaving, the ids and levels are read as in the file model. -/
theorem scanIdsLevels_eq_ok_iff (hbuffered : Buffers bufferedLevels)
    (hlevel : table.groups = [] ∨ table.columns.level) :
    table.scanIdsLevels hfx bufferedLevels failure = .ok built ↔
      (∀ i < table.groups.length, failure i = none) ∧
        readIdsLevelsWithRowGroups (table.file hfx) = .ok built := by
  have hfile : readIdsLevelsWithRowGroups (table.file hfx) = .ok built ↔ ∃ found f,
      (readEach (readRows (keepRow (extractIdLevel hfx))) table.groups
          (List.range table.groups.length) = .ok found ∧
        indexRowGroups (withRowGroups (found.map (·.map CatchmentIdLevelRow.id))) = .ok f) ∧
      built = ⟨found.flatten.map CatchmentIdLevelRow.id, f, some (levelMap found.flatten)⟩ := by
    simp only [withRowGroups_map, readIdsLevelsWithRowGroups, idLevelGroups_eq hlevel,
      Checks.bind_eq_ok_iff, Except.ok.injEq, and_assoc, exists_and_left, eq_comm (a := built)]
  rw [scanIdsLevels_eq_recordAll hbuffered hlevel, recordAll_eq_ok_iff, forall_readable_iff,
    hfile]
  simp only [readEach_indexRowGroups_iff]
  constructor
  · rintro ⟨⟨⟨hnone, hvalid⟩, hnodup⟩, rfl⟩
    refine ⟨hnone, _, _, ⟨⟨hvalid, hnodup⟩, rfl, rfl⟩, ?_⟩
    rw [CatchmentTable.indexBefore, CatchmentTable.unitsBefore, List.flatMap_def]
    rfl
  · rintro ⟨hnone, _, _, ⟨⟨hvalid, hnodup⟩, rfl, rfl⟩, rfl⟩
    refine ⟨⟨⟨hnone, hvalid⟩, hnodup⟩, ?_⟩
    rw [CatchmentTable.indexBefore, CatchmentTable.unitsBefore, List.flatMap_def]
    rfl

/-- **Scans of a file.** In every interleaving, a scan succeeds exactly when no read fails and the
file model has an index, and gives that index. An error is that of the first row group that cannot
be read or repeats an id; a file without levels has the error of its schema. -/
theorem scans_exact (hids : Buffers bufferedIds) (hlevels : Buffers bufferedLevels) :
    (∀ built, table.scanAllIds hfx bufferedIds failure = .ok built ↔
      (∀ i < table.groups.length, failure i = none) ∧
        readAllIdsWithRowGroups (table.file hfx) = .ok built) ∧
    (∀ e, table.scanAllIds hfx bufferedIds failure = .error e ↔
      table.FirstIndexError (extractId hfx) id failure e) ∧
    if table.groups = [] ∨ table.columns.level then
      (∀ built, table.scanIdsLevels hfx bufferedLevels failure = .ok built ↔
        (∀ i < table.groups.length, failure i = none) ∧
          readIdsLevelsWithRowGroups (table.file hfx) = .ok built) ∧
      ∀ e, table.scanIdsLevels hfx bufferedLevels failure = .error e ↔
        table.FirstIndexError (extractIdLevel hfx) CatchmentIdLevelRow.id failure e
    else table.scanIdsLevels hfx bufferedLevels failure
      = .error (.parquetSchema "catchments.parquet" "missing column \"level\"") := by
  refine ⟨fun _ => scanAllIds_eq_ok_iff hids, fun e => ?_, ?_⟩
  · rw [scanAllIds_eq_recordAll hids, recordAll_eq_error_iff]
  · split_ifs with hlevel
    · refine ⟨fun _ => scanIdsLevels_eq_ok_iff hlevels hlevel, fun e => ?_⟩
      rw [scanIdsLevels_eq_recordAll hlevels hlevel, recordAll_eq_error_iff]
    · exact scanIdsLevels_of_missing (not_or.mp hlevel).1 (not_or.mp hlevel).2

end Exact

/-- Two row groups with the same id. -/
def repeatedIdTable : CatchmentTable :=
  let record : CatchmentRecord :=
    ⟨some 7, some 0, none, none, none, none, none, ⟨none, none, none, none⟩, none, none, none⟩
  let stats : BboxStats := ⟨none, none, none, none⟩
  ⟨⟨true, false, false, false, false, false⟩, [⟨[[record]], stats⟩, ⟨[[record]], stats⟩]⟩

/-- The second row group repeats the id of the first one. -/
theorem scans_exact_repeatedId : repeatedIdTable.FirstIndexError (extractIdLevel permissiveHfx)
    CatchmentIdLevelRow.id (fun _ => none)
    (.integrityViolation "duplicate catchment id 7 found in row groups 0 and 1") := by
  have h := (@scans_exact permissiveHfx (fun _ => none) repeatedIdTable _ _ buffers_tasks
    buffers_tasks).2.2
  rw [if_pos (.inr rfl)] at h
  exact (h.2 _).mp rfl

end WatershedDelineation
