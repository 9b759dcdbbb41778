import Mathlib.Algebra.GroupWithZero.Nat
import WatershedDelineation.General.OrderedBuffer
import WatershedDelineation.General.RowGroups

/-!
# Scans of row groups, several at a time

The row groups of a table are read through a buffer, and what has been read is worked through in
the order of the groups. The read of a group may fail, after the batches that it could read.

In every interleaving that gives what reading the groups one after the other gives
(`OrderedBuffer.Buffers.eq`). An error is that of the first group that cannot be read: of its first
bad row, numbered as in the table, or of the failed read (`extendAll_groupTasks_eq_error_iff`).
-/

namespace RowGroups

variable {ρ β ε : Type}

/-- Read a group; the read may fail after a number of batches, with an error. -/
def readGroup (readBatch : ℕ → List ρ → Except ε (List β)) (failure : ℕ → Option (ℕ × ε))
    (groups : List (List (List ρ))) (rowGroup start : ℕ) : Except ε (List β) :=
  let batches := groups.getD rowGroup []
  match failure rowGroup with
  | none => readBatches readBatch start batches
  | some (count, e) => do
    let _ ← readBatches readBatch start (batches.take count)
    .error e

/-- The tasks of a scan: one for each selected group, with the number of its first row. -/
def groupTasks {τ : Type} (task : ℕ → ℕ → τ) (groups : List (List (List ρ)))
    (selected : List ℕ) : List τ :=
  let starts := absoluteRowStarts (groups.map fun batches => batches.flatten.length) selected
  (selected.zip starts).map fun (rowGroup, start) => task rowGroup start

/-- Put the results of reads together. -/
def extendAll (results : List (Except ε (List β))) : Except ε (List β) :=
  results.foldlM (fun found result => do
    let more ← result
    .ok (found ++ more)) []

/-! ### Row numbers -/

/-- The rows of a table before a group. -/
def rowsBefore (groups : List (List (List ρ))) (rowGroup : ℕ) : ℕ :=
  ((groups.take rowGroup).flatMap List.flatten).length

private theorem zip_startsFrom {selected : List ℕ} (rowGroup cumulative : ℕ) (numRows : List ℕ) :
    ((List.range' rowGroup numRows.length).filter (· ∈ selected)).zip
        (startsFrom selected rowGroup cumulative numRows)
      = ((List.range' rowGroup numRows.length).filter (· ∈ selected)).map fun i =>
          (i, cumulative + (numRows.take (i - rowGroup)).sum) := by
  induction numRows generalizing rowGroup cumulative with
  | nil => rfl
  | cons rows rest ih =>
    rw [startsFrom, List.length_cons, List.range'_succ]
    -- the groups that follow have these rows before them, too
    have hrest : ∀ i ∈ (List.range' (rowGroup + 1) rest.length).filter (· ∈ selected),
        (i, cumulative + rows + (rest.take (i - (rowGroup + 1))).sum)
          = (i, cumulative + ((rows :: rest).take (i - rowGroup)).sum) := by
      intro i hi
      obtain ⟨hle, -⟩ := List.mem_range'_1.mp (List.mem_of_mem_filter hi)
      obtain ⟨k, rfl⟩ := Nat.exists_eq_add_of_le hle
      rw [show rowGroup + 1 + k - (rowGroup + 1) = k by omega,
        show rowGroup + 1 + k - rowGroup = k + 1 by omega, List.take_succ_cons, List.sum_cons]
      exact Prod.ext rfl (Nat.add_assoc ..)
    by_cases hselected : rowGroup ∈ selected
    · rw [if_pos hselected, List.filter_cons_of_pos (by simpa using hselected), List.zip_cons_cons,
        List.map_cons, ih, List.map_congr_left hrest, Nat.sub_self]
      rfl
    · rw [if_neg hselected, List.filter_cons_of_neg (by simpa using hselected), ih,
        List.map_congr_left hrest]

/-- Every selected group starts after the rows of all groups before it. -/
theorem zip_absoluteRowStarts {keep : ℕ → Bool} (groups : List (List (List ρ))) :
    ((List.range groups.length).filter keep).zip (absoluteRowStarts
        (groups.map fun batches => batches.flatten.length) ((List.range groups.length).filter keep))
      = ((List.range groups.length).filter keep).map fun i => (i, rowsBefore groups i) := by
  have h := @zip_startsFrom ((List.range groups.length).filter keep) 0 0
    (groups.map fun batches => batches.flatten.length)
  have hself : (List.range groups.length).filter (· ∈ (List.range groups.length).filter keep)
      = (List.range groups.length).filter keep :=
    List.filter_congr fun i hi => by simp [List.mem_range.mp hi]
  rw [List.length_map, ← List.range_eq_range', hself] at h
  rw [absoluteRowStarts, h]
  refine List.map_congr_left fun i _ => ?_
  rw [rowsBefore, List.length_flatMap, List.map_take, Nat.sub_zero, Nat.zero_add]

section Tasks

variable {τ : Type} {task : ℕ → ℕ → τ} {groups : List (List (List ρ))}

theorem groupTasks_eq (keep : ℕ → Bool) :
    groupTasks task groups ((List.range groups.length).filter keep)
      = ((List.range groups.length).filter keep).map fun i => task i (rowsBefore groups i) := by
  rw [groupTasks, zip_absoluteRowStarts, List.map_map]
  rfl

theorem groupTasks_range : groupTasks task groups (List.range groups.length)
    = (List.range groups.length).map fun i => task i (rowsBefore groups i) := by
  have h := @groupTasks_eq _ _ task groups fun _ => true
  rwa [List.filter_eq_self.mpr fun _ _ => rfl] at h

end Tasks

/-! ### Results -/

section Results

variable {readRow : ℕ → ρ → Except ε (Option β)} {valid : ρ → Prop} {value : ρ → Option β}
  {failure : ℕ → Option (ℕ × ε)} {groups : List (List (List ρ))} {start rowGroup : ℕ}
  {rows : List ρ} {e : ε} {found : List β}

theorem readRows_append {rows' : List ρ} : readRows readRow start (rows ++ rows') = (do
    let found ← readRows readRow start rows
    let more ← readRows readRow (start + rows.length) rows'
    .ok (found ++ more)) := by
  induction rows generalizing start with
  | nil =>
    rw [List.nil_append, readRows, Checks.ok_bind]
    cases readRows readRow start rows' <;> rfl
  | cons row rows ih =>
    rw [List.cons_append, readRows, readRows, ih, List.length_cons,
      show start + (rows.length + 1) = start + 1 + rows.length by omega]
    cases readRow start row with
    | error e => rfl
    | ok o =>
      cases readRows readRow (start + 1) rows with
      | error e => rfl
      | ok found =>
        rw [Checks.ok_bind, Checks.ok_bind, Checks.ok_bind, Checks.ok_bind, Checks.ok_bind]
        cases readRows readRow (start + 1 + rows.length) rows' with
        | error e => rfl
        | ok more => exact congrArg Except.ok (List.append_assoc ..).symm

/-- The batches of a group do not matter. -/
theorem readBatches_readRows {batches : List (List ρ)} :
    readBatches (readRows readRow) start batches = readRows readRow start batches.flatten := by
  induction batches generalizing start with
  | nil => rfl
  | cons batch batches ih => rw [readBatches, List.flatten_cons, readRows_append, ih]

/-- The first bad row of a list, with its number. -/
def BadRow (readRow : ℕ → ρ → Except ε (Option β)) (valid : ρ → Prop) (start : ℕ) (rows : List ρ)
    (e : ε) : Prop :=
  ∃ before row after, rows = before ++ row :: after ∧ (∀ r ∈ before, valid r) ∧
    readRow (start + before.length) row = .error e

/-- The first bad row is the first row, or the first bad one of the others. -/
theorem badRow_cons_iff {row : ρ} : BadRow readRow valid start (row :: rows) e ↔
    readRow start row = .error e ∨ valid row ∧ BadRow readRow valid (start + 1) rows e := by
  have hnumber : ∀ before : List ρ, start + (before.length + 1) = start + 1 + before.length :=
    fun before => by omega
  constructor
  · rintro ⟨before, bad, after, hsplit, hbefore, hbad⟩
    cases before with
    | nil =>
      obtain ⟨rfl, rfl⟩ := List.cons.inj hsplit
      exact .inl hbad
    | cons r before =>
      obtain ⟨rfl, rfl⟩ := List.cons.inj hsplit
      obtain ⟨hr, hbefore⟩ := List.forall_mem_cons.mp hbefore
      rw [List.length_cons, hnumber] at hbad
      exact .inr ⟨hr, before, bad, after, rfl, hbefore, hbad⟩
  · rintro (h | ⟨hrow, before, bad, after, rfl, hbefore, hbad⟩)
    · exact ⟨[], row, rows, rfl, fun r hr => absurd hr List.not_mem_nil, h⟩
    · refine ⟨row :: before, bad, after, rfl, List.forall_mem_cons.mpr ⟨hrow, hbefore⟩, ?_⟩
      rwa [List.length_cons, hnumber]

/-- The rows of a group that can be read. -/
def rowsRead (failure : ℕ → Option (ℕ × ε)) (groups : List (List (List ρ))) (rowGroup : ℕ) :
    List ρ :=
  match failure rowGroup with
  | none => groupRows groups rowGroup
  | some (count, _) => ((groups.getD rowGroup []).take count).flatten

/-- The error of a group: that of its first bad row, or of the failed read. -/
def GroupError (readRow : ℕ → ρ → Except ε (Option β)) (valid : ρ → Prop)
    (failure : ℕ → Option (ℕ × ε)) (groups : List (List (List ρ))) (rowGroup : ℕ) (e : ε) : Prop :=
  BadRow readRow valid (rowsBefore groups rowGroup) (rowsRead failure groups rowGroup) e ∨
    (∀ row ∈ rowsRead failure groups rowGroup, valid row) ∧
      ∃ count, failure rowGroup = some (count, e)

/-- A group that can be read. -/
def GroupReadable (valid : ρ → Prop) (failure : ℕ → Option (ℕ × ε)) (groups : List (List (List ρ)))
    (rowGroup : ℕ) : Prop :=
  (∀ row ∈ groupRows groups rowGroup, valid row) ∧ failure rowGroup = none

/-- All groups can be read when no read fails and all rows are valid. -/
theorem forall_groupReadable_iff :
    (∀ i < groups.length, GroupReadable valid failure groups i) ↔
      (∀ i < groups.length, failure i = none) ∧ ∀ row ∈ groups.flatMap List.flatten, valid row := by
  rw [← flatMap_groupRows, List.forall_mem_flatMap]
  simp only [List.mem_range]
  exact ⟨fun h => ⟨fun i hi => (h i hi).2, fun i hi => (h i hi).1⟩,
    fun ⟨hnone, hvalid⟩ i hi => ⟨hvalid i hi, hnone i hi⟩⟩

private theorem extendAll_groupTasks_eq_foldlM {readBatch : ℕ → List ρ → Except ε (List β)}
    (keep : ℕ → Bool) : extendAll (groupTasks (readGroup readBatch failure groups) groups
        ((List.range groups.length).filter keep))
      = (List.range groups.length).foldlM (fun found i => if keep i then do
          let more ← readGroup readBatch failure groups i (rowsBefore groups i)
          .ok (found ++ more)
        else .ok found) [] := by
  rw [groupTasks_eq, extendAll, List.foldlM_map, List.foldlM_filter]
  rfl

variable (hread : ∀ i row o, readRow i row = .ok o ↔ valid row ∧ o = value row)
include hread

theorem readRows_eq_error_iff :
    readRows readRow start rows = .error e ↔ BadRow readRow valid start rows e := by
  induction rows generalizing start with
  | nil =>
    refine iff_of_false (fun h => by cases h) ?_
    rintro ⟨before, row, after, hnil, -⟩
    simp at hnil
  | cons row rows ih =>
    rw [readRows, Checks.bind_eq_error_iff, badRow_cons_iff]
    refine or_congr_right ⟨?_, ?_⟩
    · rintro ⟨o, ho, h⟩
      obtain ⟨hrow, -⟩ := (hread ..).mp ho
      rw [Checks.bind_eq_error_iff, ih] at h
      obtain hbad | ⟨_, -, h⟩ := h
      · exact ⟨hrow, hbad⟩
      · cases h
    · rintro ⟨hrow, hbad⟩
      refine ⟨value row, (hread ..).mpr ⟨hrow, rfl⟩, ?_⟩
      rw [Checks.bind_eq_error_iff, ih]
      exact .inl hbad

theorem readGroup_eq_ok_iff :
    readGroup (readRows readRow) failure groups rowGroup start = .ok found ↔
      GroupReadable valid failure groups rowGroup ∧
        found = (groupRows groups rowGroup).filterMap value := by
  rw [readGroup, GroupReadable]
  cases failure rowGroup with
  | none =>
    rw [and_iff_left rfl]
    exact readBatches_readRows ▸ readsRows_readRows hread ..
  | some failed =>
    refine iff_of_false (fun h => ?_) fun h => by cases h.1.2
    obtain ⟨_, -, h⟩ := Checks.bind_eq_ok_iff.mp h
    cases h

theorem readGroup_eq_error_iff :
    readGroup (readRows readRow) failure groups rowGroup (rowsBefore groups rowGroup) = .error e ↔
      GroupError readRow valid failure groups rowGroup e := by
  rw [readGroup, GroupError, rowsRead]
  cases failure rowGroup with
  | none =>
    dsimp only
    rw [readBatches_readRows, readRows_eq_error_iff hread]
    exact (or_iff_left fun ⟨_, _, h⟩ => by cases h).symm
  | some failed =>
    dsimp only
    rw [readBatches_readRows, Checks.bind_eq_error_iff, readRows_eq_error_iff hread]
    refine or_congr_right ⟨?_, ?_⟩
    · rintro ⟨found, hfound, h⟩
      exact ⟨((readsRows_readRows hread ..).mp hfound).1, failed.1,
        congrArg some (Prod.ext rfl (Except.error.inj h))⟩
    · rintro ⟨hvalid, count, h⟩
      obtain rfl := Option.some.inj h
      exact ⟨_, (readsRows_readRows hread ..).mpr ⟨hvalid, rfl⟩, rfl⟩

/-- What the first groups give, of those that are selected. -/
private theorem foldlM_readGroup_eq_ok_iff {keep : ℕ → Bool} {n : ℕ} :
    (List.range n).foldlM (fun found i => if keep i then do
          let more ← readGroup (readRows readRow) failure groups i (rowsBefore groups i)
          .ok (found ++ more)
        else .ok found) [] = .ok found ↔
      (∀ i < n, keep i → GroupReadable valid failure groups i) ∧
        found = ((List.range n).filter keep).flatMap
          fun i => (groupRows groups i).filterMap value := by
  refine Checks.foldlM_range_eq_ok_iff (g := fun n => ((List.range n).filter keep).flatMap
    fun i => (groupRows groups i).filterMap value) fun i found => ?_
  rw [List.range_succ, List.filter_append]
  cases hkeep : keep i with
  | false =>
    rw [List.filter_cons_of_neg (by simp [hkeep]), List.filter_nil, List.append_nil]
    simp [eq_comm]
  | true =>
    simp only [if_true, Checks.bind_eq_ok_iff, readGroup_eq_ok_iff hread, Except.ok.injEq,
      List.filter_cons_of_pos hkeep, List.filter_nil, List.flatMap_append, List.flatMap_singleton,
      forall_const]
    constructor
    · rintro ⟨_, ⟨hreadable, rfl⟩, rfl⟩
      exact ⟨hreadable, rfl⟩
    · rintro ⟨hreadable, rfl⟩
      exact ⟨_, ⟨hreadable, rfl⟩, rfl⟩

/-- **A scan succeeds** when all selected groups can be read, and finds what is in their rows. -/
theorem extendAll_groupTasks_eq_ok_iff {keep : ℕ → Bool} :
    extendAll (groupTasks (readGroup (readRows readRow) failure groups) groups
        ((List.range groups.length).filter keep)) = .ok found ↔
      (∀ i < groups.length, keep i → GroupReadable valid failure groups i) ∧
        found = (scanned groups keep).filterMap value := by
  rw [extendAll_groupTasks_eq_foldlM, foldlM_readGroup_eq_ok_iff hread, scanned,
    List.filterMap_flatMap]

/-- **The error of a scan** is that of the first selected group that cannot be read. -/
theorem extendAll_groupTasks_eq_error_iff {keep : ℕ → Bool} :
    extendAll (groupTasks (readGroup (readRows readRow) failure groups) groups
        ((List.range groups.length).filter keep)) = .error e ↔
      ∃ i < groups.length, keep i ∧ (∀ j < i, keep j → GroupReadable valid failure groups j) ∧
        GroupError readRow valid failure groups i e := by
  rw [extendAll_groupTasks_eq_foldlM, Checks.foldlM_range_eq_error_iff]
  refine exists_congr fun i => and_congr_right fun _ => ?_
  simp only [foldlM_readGroup_eq_ok_iff hread]
  cases keep i with
  | false => simp
  | true =>
    simp only [if_true, true_and, Checks.bind_eq_error_iff, readGroup_eq_error_iff hread]
    constructor
    · rintro ⟨_, ⟨hreadable, rfl⟩, h | ⟨_, -, h⟩⟩
      · exact ⟨hreadable, h⟩
      · cases h
    · rintro ⟨hreadable, h⟩
      exact ⟨_, ⟨hreadable, rfl⟩, .inl h⟩

/-- A scan of selected groups that does what reading them one after the other does: it succeeds
when that does and no read fails, and its error is that of the first group that cannot be read. -/
structure ScansAs (scan sequential : Except ε (List β)) (readRow : ℕ → ρ → Except ε (Option β))
    (valid : ρ → Prop) (failure : ℕ → Option (ℕ × ε)) (groups : List (List (List ρ)))
    (keep : ℕ → Bool) : Prop where
  ok_iff : ∀ found, scan = .ok found ↔
    (∀ i < groups.length, keep i → failure i = none) ∧ sequential = .ok found
  error_iff : ∀ e, scan = .error e ↔
    ∃ i < groups.length, keep i ∧ (∀ j < i, keep j → GroupReadable valid failure groups j) ∧
      GroupError readRow valid failure groups i e

/-- **A scan does what reading one after the other does.** -/
theorem scansAs_readGroups (keep : ℕ → Bool) :
    ScansAs (extendAll (groupTasks (readGroup (readRows readRow) failure groups) groups
        ((List.range groups.length).filter keep)))
      (readGroups (readRows readRow) groups ((List.range groups.length).filter keep))
      readRow valid failure groups keep := by
  refine ⟨fun found => ?_, fun e => extendAll_groupTasks_eq_error_iff hread⟩
  rw [extendAll_groupTasks_eq_ok_iff hread, readGroups_eq_ok_iff (readsRows_readRows hread),
    ← and_assoc]
  refine and_congr_left fun _ => ?_
  have hscanned : (∀ row ∈ scanned groups keep, valid row) ↔
      ∀ i < groups.length, keep i → ∀ row ∈ groupRows groups i, valid row := by
    rw [scanned, List.forall_mem_flatMap]
    simp only [List.mem_filter, List.mem_range, and_imp]
  rw [hscanned]
  constructor
  · intro h
    exact ⟨fun i hi hkeep => (h i hi hkeep).2, fun i hi hkeep => (h i hi hkeep).1⟩
  · rintro ⟨hnone, hvalid⟩ i hi hkeep
    exact ⟨hvalid i hi hkeep, hnone i hi hkeep⟩

end Results

end RowGroups
