import Mathlib.Data.List.Destutter
import Mathlib.Data.List.Flatten
import Mathlib.Data.List.Sort
import WatershedDelineation.General.Checks

/-!
# Tables in row groups

A table is stored in groups of rows, and a group is read in batches. A query selects groups by
number, reads them with the absolute number of each row (`readGroups`), and keeps at most one
result a row.

What a query finds depends on the selected groups only (`readGroups_eq_ok_iff`), and it is what a
scan of all groups finds exactly when the rows of the other groups have no results
(`filterMap_scanned_eq_iff`).
-/

namespace RowGroups

variable {ρ β ε : Type}

/-- Read rows, numbered from `start` on. -/
def readRows (readRow : ℕ → ρ → Except ε (Option β)) : ℕ → List ρ → Except ε (List β)
  | _, [] => .ok []
  | start, row :: rows => do
    let found ← readRow start row
    let more ← readRows readRow (start + 1) rows
    .ok (found.toList ++ more)

/-- Read the batches of a group, whose rows are numbered from `start` on. -/
def readBatches (readBatch : ℕ → List ρ → Except ε (List β)) :
    ℕ → List (List ρ) → Except ε (List β)
  | _, [] => .ok []
  | start, batch :: batches => do
    let found ← readBatch start batch
    let more ← readBatches readBatch (start + batch.length) batches
    .ok (found ++ more)

/-- The number of the first row of each selected group, from the group `rowGroup` on. -/
def startsFrom (selected : List ℕ) : ℕ → ℕ → List ℕ → List ℕ
  | _, _, [] => []
  | rowGroup, cumulative, numRows :: rest =>
    let starts := startsFrom selected (rowGroup + 1) (cumulative + numRows) rest
    if rowGroup ∈ selected then cumulative :: starts else starts

/-- The number of the first row of each selected group. -/
def absoluteRowStarts (numRows selected : List ℕ) : List ℕ := startsFrom selected 0 0 numRows

/-- The rows of a group, which has none if the table does not have the group. -/
def groupRows (groups : List (List (List ρ))) (rowGroup : ℕ) : List ρ :=
  (groups.getD rowGroup []).flatten

/-- The row of a group is in a batch of its entry in the table. -/
theorem exists_of_mem_groupRows {γ δ : Type} {entries : List γ} {batches : γ → List (List ρ)}
    {stats : γ → Option δ} {rowGroup : ℕ} {d : δ} {row : ρ}
    (hstats : (entries.map stats)[rowGroup]? = some (some d))
    (hrow : row ∈ groupRows (entries.map batches) rowGroup) :
    ∃ entry ∈ entries, stats entry = some d ∧ row ∈ (batches entry).flatten := by
  rw [List.getElem?_map, Option.map_eq_some_iff] at hstats
  obtain ⟨entry, hentry, hstats⟩ := hstats
  rw [groupRows, List.getD_eq_getElem?_getD, List.getElem?_map, hentry] at hrow
  exact ⟨entry, List.mem_of_getElem? hentry, hstats, hrow⟩

/-- The rows of the groups that a predicate keeps. -/
def scanned (groups : List (List (List ρ))) (keep : ℕ → Bool) : List ρ :=
  ((List.range groups.length).filter keep).flatMap (groupRows groups)

/-- Read the selected groups, one after the other. -/
def readEach (readBatch : ℕ → List ρ → Except ε (List β)) (groups : List (List (List ρ)))
    (selected : List ℕ) : Except ε (List (List β)) :=
  let starts := absoluteRowStarts (groups.map fun batches => batches.flatten.length) selected
  (selected.zip starts).mapM fun (rowGroup, start) =>
    readBatches readBatch start (groups.getD rowGroup [])

/-- Read the selected groups into one list. -/
def readGroups (readBatch : ℕ → List ρ → Except ε (List β)) (groups : List (List (List ρ)))
    (selected : List ℕ) : Except ε (List β) :=
  (readEach readBatch groups selected).map List.flatten

/-! ### Selections -/

section Selection

variable {n : ℕ} {keep : ℕ → Bool} {l : List ℕ}

/-- Two increasing lists of the same numbers are equal. -/
private theorem eq_filter_range (hl : l.Pairwise (· < ·)) (hmem : ∀ i, i ∈ l ↔ i < n ∧ keep i) :
    l = (List.range n).filter keep := by
  have hrange : ((List.range n).filter keep).Pairwise (· < ·) := List.pairwise_lt_range.filter _
  refine ((List.perm_ext_iff_of_nodup hl.nodup hrange.nodup).mpr fun i => ?_).eq_of_pairwise' hl
    hrange
  rw [hmem, List.mem_filter, List.mem_range]

/-- Sorting numbers without repetitions. -/
theorem mergeSort_eq_filter_range (hl : l.Nodup) (hmem : ∀ i, i ∈ l ↔ i < n ∧ keep i) :
    l.mergeSort = (List.range n).filter keep := by
  refine eq_filter_range ?_ fun i => by rw [List.mem_mergeSort, hmem]
  have hsorted : l.mergeSort.Pairwise (· ≤ ·) := List.pairwise_mergeSort' _ l
  have hnodup : l.mergeSort.Nodup := (List.mergeSort_perm l _).nodup_iff.mpr hl
  exact (hsorted.and hnodup).imp fun ⟨hle, hne⟩ => Nat.lt_of_le_of_ne hle hne

/-- Sorting numbers and removing repetitions. -/
theorem destutter_mergeSort_eq_filter_range (hmem : ∀ i, i ∈ l ↔ i < n ∧ keep i) :
    l.mergeSort.destutter (· ≠ ·) = (List.range n).filter keep := by
  have hsorted : l.mergeSort.Pairwise (· ≤ ·) := List.pairwise_mergeSort' _ l
  rw [hsorted.destutter_eq_dedup]
  refine eq_filter_range ?_ fun i => by rw [List.mem_dedup, List.mem_mergeSort, hmem]
  exact ((hsorted.sublist (List.dedup_sublist _)).and (List.nodup_dedup _)).imp
    fun ⟨hle, hne⟩ => Nat.lt_of_le_of_ne hle hne

private theorem length_startsFrom {selected : List ℕ} (rowGroup cumulative : ℕ)
    (numRows : List ℕ) : (startsFrom selected rowGroup cumulative numRows).length
      = ((List.range' rowGroup numRows.length).filter (· ∈ selected)).length := by
  induction numRows generalizing rowGroup cumulative with
  | nil => rfl
  | cons rows rest ih =>
    rw [startsFrom, List.length_cons, List.range'_succ]
    by_cases hselected : rowGroup ∈ selected
    · rw [if_pos hselected, List.filter_cons_of_pos (by simpa using hselected), List.length_cons,
        List.length_cons, ih]
    · rw [if_neg hselected, List.filter_cons_of_neg (by simpa using hselected), ih]

/-- Every selected group has a first row number. -/
theorem length_absoluteRowStarts (keep : ℕ → Bool) (numRows : List ℕ) :
    (absoluteRowStarts numRows ((List.range numRows.length).filter keep)).length
      = ((List.range numRows.length).filter keep).length := by
  rw [absoluteRowStarts, length_startsFrom, ← List.range_eq_range']
  congr 1
  refine List.filter_congr fun i hi => ?_
  simp [List.mem_range.mp hi]

end Selection

/-! ### What a query finds -/

section Query

variable {readBatch : ℕ → List ρ → Except ε (List β)} {valid : ρ → Prop} {value : ρ → Option β}
  {groups : List (List (List ρ))} {keep : ℕ → Bool} {found : List β}

/-- Reading a batch succeeds on valid rows, and finds their values. -/
def ReadsRows (readBatch : ℕ → List ρ → Except ε (List β)) (valid : ρ → Prop)
    (value : ρ → Option β) : Prop :=
  ∀ start batch found, readBatch start batch = .ok found ↔
    (∀ row ∈ batch, valid row) ∧ found = batch.filterMap value

/-- Rows are read when all are valid. -/
theorem readsRows_readRows {readRow : ℕ → ρ → Except ε (Option β)}
    (hread : ∀ i row o, readRow i row = .ok o ↔ valid row ∧ o = value row) :
    ReadsRows (readRows readRow) valid value := by
  intro start rows found
  induction rows generalizing start found with
  | nil => simp [readRows, eq_comm]
  | cons row rows ih =>
    simp only [readRows, Checks.bind_eq_ok_iff, hread, ih, List.forall_mem_cons]
    constructor
    · rintro ⟨_, ⟨hrow, rfl⟩, _, ⟨hrows, rfl⟩, h⟩
      obtain rfl := Except.ok.inj h
      refine ⟨⟨hrow, hrows⟩, ?_⟩
      rw [List.filterMap_cons]
      cases value row <;> rfl
    · rintro ⟨⟨hrow, hrows⟩, rfl⟩
      refine ⟨_, ⟨hrow, rfl⟩, _, ⟨hrows, rfl⟩, ?_⟩
      rw [List.filterMap_cons]
      cases value row <;> rfl

private theorem readBatches_eq_ok_iff
    (hread : ReadsRows readBatch valid value) {start : ℕ} {batches : List (List ρ)} :
    readBatches readBatch start batches = .ok found ↔
      (∀ row ∈ batches.flatten, valid row) ∧ found = batches.flatten.filterMap value := by
  induction batches generalizing start found with
  | nil => simp [readBatches, eq_comm]
  | cons batch batches ih =>
    simp only [readBatches, Checks.bind_eq_ok_iff, hread start batch, ih, List.flatten_cons,
      List.forall_mem_append, List.filterMap_append]
    constructor
    · rintro ⟨_, ⟨hbatch, rfl⟩, _, ⟨hbatches, rfl⟩, h⟩
      exact ⟨⟨hbatch, hbatches⟩, (Except.ok.inj h).symm⟩
    · rintro ⟨⟨hbatch, hbatches⟩, rfl⟩
      exact ⟨_, ⟨hbatch, rfl⟩, _, ⟨hbatches, rfl⟩, rfl⟩

/-- What reading groups one after the other gives. -/
theorem readEach_eq_ok_iff (hread : ReadsRows readBatch valid value) {lists : List (List β)} :
    readEach readBatch groups ((List.range groups.length).filter keep) = .ok lists ↔
      (∀ row ∈ scanned groups keep, valid row) ∧
        lists = ((List.range groups.length).filter keep).map
          fun i => (groupRows groups i).filterMap value := by
  have hlength := length_absoluteRowStarts keep (groups.map fun batches => batches.flatten.length)
  rw [List.length_map] at hlength
  have hfst := List.map_fst_zip hlength.ge
  rw [readEach, Checks.mapM_eq_ok_iff_map (p := fun i => ∀ row ∈ groupRows groups i.1, valid row)
    (g := fun i => (groupRows groups i.1).filterMap value) fun i l => readBatches_eq_ok_iff hread]
  -- the pairs of groups and starts are the selected groups
  refine and_congr ?_ ?_
  · refine Iff.trans (b := ∀ i ∈ (List.range groups.length).filter keep,
      ∀ row ∈ groupRows groups i, valid row) ?_ ?_
    · conv_rhs => rw [← hfst]
      rw [List.forall_mem_map]
    · rw [scanned, List.forall_mem_flatMap]
  · conv_rhs => rw [← hfst, List.map_map]
    rfl

/-- **What a query finds** are the results of the rows of the selected groups, which must be
valid. -/
theorem readGroups_eq_ok_iff (hread : ReadsRows readBatch valid value) :
    readGroups readBatch groups ((List.range groups.length).filter keep) = .ok found ↔
      (∀ row ∈ scanned groups keep, valid row) ∧
        found = (scanned groups keep).filterMap value := by
  rw [readGroups, Checks.map_eq_ok_iff, scanned, List.filterMap_flatMap]
  constructor
  · rintro ⟨lists, hlists, rfl⟩
    obtain ⟨hvalid, rfl⟩ := (readEach_eq_ok_iff hread).mp hlists
    exact ⟨hvalid, rfl⟩
  · rintro ⟨hvalid, rfl⟩
    exact ⟨_, (readEach_eq_ok_iff hread).mpr ⟨hvalid, rfl⟩, rfl⟩

end Query

/-- The results of rows, next to the rows that have one. -/
theorem forall₂_filter_filterMap {R : ρ → β → Prop} {p : ρ → Bool} {value : ρ → Option β}
    {rows : List ρ} (hsome : ∀ row ∈ rows, p row → ∃ b, value row = some b ∧ R row b)
    (hnone : ∀ row ∈ rows, p row = false → value row = none) :
    List.Forall₂ R (rows.filter p) (rows.filterMap value) := by
  induction rows with
  | nil => exact .nil
  | cons row rows ih =>
    obtain ⟨hrow, hrows⟩ := List.forall_mem_cons.mp hsome
    obtain ⟨hrow', hrows'⟩ := List.forall_mem_cons.mp hnone
    by_cases hp : p row
    · obtain ⟨b, hb, hR⟩ := hrow hp
      rw [List.filter_cons_of_pos hp, List.filterMap_cons_some hb]
      exact .cons hR (ih hrows hrows')
    · rw [List.filter_cons_of_neg hp,
        List.filterMap_cons_none (hrow' (Bool.not_eq_true _ ▸ hp))]
      exact ih hrows hrows'

/-! ### Full scans -/

section Scan

variable {groups : List (List (List ρ))} {keep : ℕ → Bool}

/-- Leaving out parts of a scan leaves out nothing exactly when these parts are empty. -/
private theorem flatMap_filter_eq_iff {α : Type} {l : List α} {keep : α → Bool} {f : α → List β} :
    (l.filter keep).flatMap f = l.flatMap f ↔ ∀ a ∈ l, keep a = false → f a = [] := by
  induction l with
  | nil => simp
  | cons a l ih =>
    rw [List.forall_mem_cons, ← ih, List.flatMap_cons]
    by_cases ha : keep a
    · rw [List.filter_cons_of_pos ha, List.flatMap_cons, List.append_cancel_left_eq]
      simp [ha]
    · rw [List.filter_cons_of_neg ha]
      -- the rest of the scan is no shorter than what the selection leaves of it
      have hle : ((l.filter keep).flatMap f).length ≤ (l.flatMap f).length :=
        (List.filter_sublist.flatMap f).length_le
      constructor
      · intro h
        have hlength := congrArg List.length h
        rw [List.length_append] at hlength
        have hnil : f a = [] := List.eq_nil_of_length_eq_zero (by omega)
        rw [hnil, List.nil_append] at h
        exact ⟨fun _ => hnil, h⟩
      · rintro ⟨hnil, h⟩
        rw [hnil (by simpa using ha), List.nil_append, h]

/-- The error of reading rows is that of one of the rows, under its number. -/
theorem exists_of_readRows_eq_error {readRow : ℕ → ρ → Except ε (Option β)} {start : ℕ}
    {rows : List ρ} {e : ε} (h : readRows readRow start rows = .error e) :
    ∃ i, ∃ row ∈ rows, readRow i row = .error e := by
  induction rows generalizing start with
  | nil => cases h
  | cons row rows ih =>
    rw [readRows, Checks.bind_eq_error_iff] at h
    obtain h | ⟨found, -, h⟩ := h
    · exact ⟨start, row, List.mem_cons_self, h⟩
    rw [Checks.bind_eq_error_iff] at h
    obtain h | ⟨more, -, h⟩ := h
    · obtain ⟨i, row', hrow', h⟩ := ih h
      exact ⟨i, row', List.mem_cons_of_mem _ hrow', h⟩
    · cases h

private theorem exists_of_readBatches_eq_error {start : ℕ} {batches : List (List ρ)} {e : ε}
    (h : readBatches readBatch start batches = .error e) :
    ∃ first, ∃ batch ∈ batches, readBatch first batch = .error e := by
  induction batches generalizing start with
  | nil => cases h
  | cons batch batches ih =>
    rw [readBatches, Checks.bind_eq_error_iff] at h
    obtain h | ⟨found, -, h⟩ := h
    · exact ⟨start, batch, List.mem_cons_self, h⟩
    rw [Checks.bind_eq_error_iff] at h
    obtain h | ⟨more, -, h⟩ := h
    · obtain ⟨first, batch', hbatch', h⟩ := ih h
      exact ⟨first, batch', List.mem_cons_of_mem _ hbatch', h⟩
    · cases h

/-- The error of a query is that of a batch of the table. -/
theorem exists_of_readGroups_eq_error {selected : List ℕ} {e : ε}
    (h : readGroups readBatch groups selected = .error e) :
    ∃ first batch, batch ⊆ groups.flatMap List.flatten ∧ readBatch first batch = .error e := by
  rw [readGroups, Checks.map_eq_error_iff] at h
  obtain ⟨⟨rowGroup, start⟩, -, h⟩ := Checks.exists_of_mapM_eq_error h
  obtain ⟨first, batch, hbatch, h⟩ := exists_of_readBatches_eq_error h
  refine ⟨first, batch, fun row hrow => ?_, h⟩
  rw [List.getD_eq_getElem?_getD] at hbatch
  cases hgroup : groups[rowGroup]? with
  | none =>
    rw [hgroup] at hbatch
    cases hbatch
  | some batches =>
    rw [hgroup, Option.getD_some] at hbatch
    exact List.mem_flatMap.mpr ⟨batches, List.mem_of_getElem? hgroup,
      List.mem_flatten.mpr ⟨batch, hbatch, hrow⟩⟩

/-- The rows of all groups are the rows of the table. -/
theorem flatMap_groupRows :
    (List.range groups.length).flatMap (groupRows groups) = groups.flatMap List.flatten := by
  have hgroups : (List.range groups.length).map (groups.getD · []) = groups := by
    refine List.ext_getElem (by simp) fun i hi _ => ?_
    rw [List.getElem_map, List.getElem_range, List.getD_eq_getElem?_getD,
      List.getElem?_eq_getElem (by simpa using hi), Option.getD_some]
  conv_rhs => rw [← hgroups, List.flatMap_map]
  rfl

theorem mem_of_mem_groupRows {i : ℕ} {row : ρ} (hi : i < groups.length)
    (h : row ∈ groupRows groups i) : row ∈ groups.flatMap List.flatten := by
  rw [← flatMap_groupRows]
  exact List.mem_flatMap.mpr ⟨i, List.mem_range.mpr hi, h⟩

theorem scanned_sublist : (scanned groups keep).Sublist (groups.flatMap List.flatten) := by
  rw [← flatMap_groupRows]
  exact List.filter_sublist.flatMap _

/-- **A query is a full scan** exactly when the rows of the groups left out have no results. -/
theorem filterMap_scanned_eq_iff {value : ρ → Option β} :
    (scanned groups keep).filterMap value = (groups.flatMap List.flatten).filterMap value ↔
      ∀ i < groups.length, keep i = false → ∀ row ∈ groupRows groups i, value row = none := by
  rw [← flatMap_groupRows, scanned, List.filterMap_flatMap, List.filterMap_flatMap,
    flatMap_filter_eq_iff]
  simp only [List.mem_range, List.filterMap_eq_nil_iff]

/-- The same for a predicate. -/
theorem filter_scanned_eq_iff {p : ρ → Bool} :
    (scanned groups keep).filter p = (groups.flatMap List.flatten).filter p ↔
      ∀ i < groups.length, keep i = false → ∀ row ∈ groupRows groups i, p row = false := by
  rw [← List.filterMap_eq_filter, filterMap_scanned_eq_iff]
  simp only [Option.guard_eq_none_iff]

end Scan

end RowGroups
