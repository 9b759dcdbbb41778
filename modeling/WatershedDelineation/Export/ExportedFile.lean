import Mathlib.Data.List.SplitLengths
import WatershedDelineation.Export.OutwardBbox
import WatershedDelineation.Export.RowGroupPlan
import WatershedDelineation.General.Binary64Arith
import WatershedDelineation.General.Comparison
import WatershedDelineation.General.ConflictChecks

/-!
# Writing rows to a file

What the two writers of `export` do with their rows: sort them by their keys, compute the bounds of
the file, and write them in the slices of the row-group plan. A file is its bounds and its row
groups; what Parquet does with them is left out.

Writing succeeds for all rows there are (`exists_writeRows`). If no two rows have equal keys, the
file holds every row once, in strictly increasing order (`IsExportOf`), and it does not depend on
the order of the rows (`writeRows_perm`).

A writer makes an entry of each item of a batch, checks entries for conflicts, and writes their rows
(`Writes`). What it makes of a batch is the same for all orders of the items (`Writes.of_perm`).
-/

namespace WatershedDelineation

variable {R : Type}

/-- The bounds of a file and its row groups. -/
structure ExportedFile (R : Type) where
  datasetBbox : BasinBbox
  rowGroups : List (List R)

/-- The bounds of several boxes. -/
def datasetBbox (boxes : List BasinBbox) : BasinBbox :=
  boxes.foldl (fun acc bbox =>
    { minx := ⟨Binary64.minNum acc.minx.bits bbox.minx.bits⟩
      miny := ⟨Binary64.minNum acc.miny.bits bbox.miny.bits⟩
      maxx := ⟨Binary64.maxNum acc.maxx.bits bbox.maxx.bits⟩
      maxy := ⟨Binary64.maxNum acc.maxy.bits bbox.maxy.bits⟩ })
    ⟨⟨0x7ff0000000000000⟩, ⟨0x7ff0000000000000⟩, ⟨0xfff0000000000000⟩, ⟨0xfff0000000000000⟩⟩

/-- The slices of the given sizes, from `start` on. -/
def sliceRows (rows : List R) : ℕ → List ℕ → Except (Fault ExportError) (List (List R))
  | _, [] => .ok []
  | start, size :: sizes => do
    let stop := start + size
    let slice ← Checked.orPanic (Checked.slice rows start stop)
    let slices ← sliceRows rows stop sizes
    .ok (slice :: slices)

/-- Sort the rows and write them in row groups. -/
def writeRows (cmp : R → R → Ordering) (trueBbox : R → BasinBbox) (rows : List R) :
    Except (Fault ExportError) (ExportedFile R) := do
  let rows := Comparison.sortBy cmp rows
  let bbox := datasetBbox (rows.map trueBbox)
  let plan ← planRowGroups rows.length
  let slices ← sliceRows rows 0 plan.sizes
  .ok ⟨bbox, slices⟩

/-- A file holds every row once, in strictly increasing order, and has the bounds of its rows. -/
structure IsExportOf (cmp : R → R → Ordering) (trueBbox : R → BasinBbox) (rows : List R)
    (file : ExportedFile R) : Prop where
  perm : file.rowGroups.flatten.Perm rows
  increasing : file.rowGroups.flatten.Pairwise fun a b => cmp a b = .lt
  bbox : file.datasetBbox = datasetBbox (file.rowGroups.flatten.map trueBbox)

section Write

variable {cmp : R → R → Ordering} {trueBbox : R → BasinBbox} {rows rows' : List R}

theorem sliceRows_eq {start : ℕ} {sizes : List ℕ} (h : start + sizes.sum ≤ rows.length) :
    sliceRows rows start sizes = .ok (sizes.splitLengths (rows.drop start)) := by
  induction sizes generalizing start with
  | nil => rfl
  | cons size sizes ih =>
    rw [List.sum_cons] at h
    rw [sliceRows, Checked.slice_of_le (Nat.le_add_right _ _) (by omega), Checked.orPanic_some,
      Checks.ok_bind, ih (by omega), Checks.ok_bind, List.splitLengths_cons, List.drop_drop,
      Nat.add_sub_cancel_left]

/-- **All rows are written**, in the order of their keys. -/
theorem exists_writeRows (hrows : rows ≠ []) : ∃ file, writeRows cmp trueBbox rows = .ok file ∧
    file.rowGroups.flatten = Comparison.sortBy cmp rows ∧
    file.datasetBbox = datasetBbox ((Comparison.sortBy cmp rows).map trueBbox) := by
  have hlength := (Comparison.sortBy_perm cmp rows).length_eq
  have hpos : 1 ≤ (Comparison.sortBy cmp rows).length := by
    rw [hlength]
    exact List.length_pos_iff.mpr hrows
  obtain ⟨plan, hplan, hlimits⟩ := exists_planRowGroups hpos
  have hslices : sliceRows (Comparison.sortBy cmp rows) 0 plan.sizes
      = .ok (plan.sizes.splitLengths (Comparison.sortBy cmp rows)) :=
    sliceRows_eq (by rw [hlimits.sum_sizes, Nat.zero_add])
  refine ⟨⟨datasetBbox ((Comparison.sortBy cmp rows).map trueBbox),
    plan.sizes.splitLengths (Comparison.sortBy cmp rows)⟩, ?_, ?_, rfl⟩
  · rw [writeRows, hplan, Checks.ok_bind, hslices, Checks.ok_bind]
  · exact List.flatten_splitLengths _ _ hlimits.sum_sizes.ge

/-- Without rows there is no file, and with rows there is one. -/
theorem returns_writeRows : Fault.Returns (writeRows cmp trueBbox rows) := by
  by_cases hrows : rows = []
  · rw [hrows, writeRows, Comparison.sortBy, List.mergeSort_nil]
    exact Fault.returns_err _
  · obtain ⟨file, hfile, -, -⟩ := @exists_writeRows R cmp trueBbox rows hrows
    rw [hfile]
    exact Fault.returns_ok file

/-- With distinct keys the file is an export of the rows. -/
theorem isExportOf_of_sorted [Std.TransCmp cmp] {file : ExportedFile R}
    (hkeys : rows.Pairwise fun a b => cmp a b ≠ .eq)
    (hflatten : file.rowGroups.flatten = Comparison.sortBy cmp rows)
    (hbbox : file.datasetBbox = datasetBbox ((Comparison.sortBy cmp rows).map trueBbox)) :
    IsExportOf cmp trueBbox rows file := by
  have hperm := Comparison.sortBy_perm cmp rows
  refine ⟨hflatten ▸ hperm, ?_, by rw [hbbox, hflatten]⟩
  have hsymm : ∀ {a b : R}, cmp a b ≠ .eq → cmp b a ≠ .eq := fun {a b} hab hba =>
    hab (Std.OrientedCmp.eq_symm hba)
  have hne := (hperm.pairwise_iff hsymm).mpr hkeys
  rw [hflatten]
  refine (hne.and (Comparison.pairwise_sortBy rows)).imp fun {a b} hab => ?_
  cases h : cmp a b with
  | lt => rfl
  | eq => exact absurd h hab.1
  | gt => simp [h] at hab

/-- With distinct keys the file does not depend on the order of the rows. -/
theorem writeRows_perm [Std.TransCmp cmp] (hperm : rows.Perm rows')
    (hkeys : rows.Pairwise fun a b => cmp a b ≠ .eq) :
    writeRows cmp trueBbox rows = writeRows cmp trueBbox rows' := by
  have hsort : Comparison.sortBy cmp rows = Comparison.sortBy cmp rows' := by
    refine Comparison.sortBy_eq_of_perm_of_inj hperm fun a ha b hb hab => ?_
    by_contra hne
    have hsymm : Std.Symm fun a b : R => cmp a b ≠ .eq :=
      ⟨fun a b hab hba => hab (Std.OrientedCmp.eq_symm hba)⟩
    exact hkeys.forall ha hb hne hab
  rw [writeRows, writeRows, hsort]

end Write

/-! ### Batches -/

section Batch

variable {α β : Type} (make : α → Except (Fault ExportError) β) (Compatible : β → β → Prop)
  (row : β → R) (cmp : R → R → Ordering) (trueBbox : R → BasinBbox)

/-- What a writer makes of a batch of items: unless the batch is rejected as a whole, it makes their
entries, of which no two may conflict, and writes the rows of these. -/
structure Writes (accepted : Prop) (items : List α)
    (written : Except (Fault ExportError) (ExportedFile R)) : Prop where
  returns : Fault.Returns written
  ne_nil : accepted → items ≠ []
  eq_ok_iff : ∀ file, written = .ok file ↔ accepted ∧ ∃ entries,
    List.Forall₂ (fun item entry => make item = .ok entry) items entries ∧
      entries.Pairwise Compatible ∧ writeRows cmp trueBbox (entries.map row) = .ok file

/-- Entries that do not conflict have different keys, and conflicts are mutual. -/
structure KeysDiffer : Prop where
  symm : ∀ a b, Compatible a b → Compatible b a
  keys_ne : ∀ item item' entry entry', make item = .ok entry → make item' = .ok entry' →
    Compatible entry entry' → cmp (row entry) (row entry') ≠ .eq

variable {make Compatible row cmp trueBbox} {accepted accepted' : Prop} {items items' : List α}
  {written written' : Except (Fault ExportError) (ExportedFile R)}

/-- The rows of a batch that is written have different keys. -/
theorem KeysDiffer.pairwise_row (h : KeysDiffer make Compatible row cmp) {entries : List β}
    (hentries : List.Forall₂ (fun item entry => make item = .ok entry) items entries)
    (hpair : entries.Pairwise Compatible) :
    (entries.map row).Pairwise fun a b => cmp a b ≠ .eq := by
  have hmade : ∀ entry ∈ entries, ∃ item, make item = .ok entry := by
    intro entry hentry
    obtain ⟨i, hi, rfl⟩ := List.mem_iff_getElem.mp hentry
    exact ⟨_, hentries.get (hentries.length_eq ▸ hi) hi⟩
  refine List.pairwise_map.mpr (hpair.imp_of_mem fun {a b} ha hb hab => ?_)
  obtain ⟨item, hitem⟩ := hmade a ha
  obtain ⟨item', hitem'⟩ := hmade b hb
  exact h.keys_ne item item' a b hitem hitem' hab

/-- A batch whose entries do not conflict is written. -/
theorem Writes.exists_file (h : Writes make Compatible row cmp trueBbox accepted items written)
    (haccepted : accepted) {entries : List β}
    (hentries : List.Forall₂ (fun item entry => make item = .ok entry) items entries)
    (hpair : entries.Pairwise Compatible) : ∃ file, written = .ok file := by
  have hrows : entries.map row ≠ [] := fun hnil => h.ne_nil haccepted <| by
    rw [List.map_eq_nil_iff.mp hnil] at hentries
    exact List.forall₂_nil_right_iff.mp hentries
  obtain ⟨file, hfile, -, -⟩ := @exists_writeRows R cmp trueBbox _ hrows
  exact ⟨file, (h.eq_ok_iff file).mpr ⟨haccepted, entries, hentries, hpair, hfile⟩⟩

/-- A batch that is written is written in any order, to one file. -/
theorem Writes.eq_ok_of_perm [Std.TransCmp cmp] (hkeys : KeysDiffer make Compatible row cmp)
    (h : Writes make Compatible row cmp trueBbox accepted items written)
    (h' : Writes make Compatible row cmp trueBbox accepted' items' written')
    (hperm : items.Perm items') (haccepted : accepted → accepted') {file : ExportedFile R}
    (hfile : written = .ok file) : written' = .ok file ∧ ∃ rows,
      List.Forall₂ (fun item r => (make item).map row = .ok r) items rows ∧
        IsExportOf cmp trueBbox rows file := by
  obtain ⟨hacc, entries, hentries, hpair, hwrite⟩ := (h.eq_ok_iff file).mp hfile
  obtain ⟨entries', hentries', hpair', hperm'⟩ :=
    ConflictChecks.exists_perm_of_perm hkeys.symm hperm hentries hpair
  have hne := hkeys.pairwise_row hentries hpair
  constructor
  · refine (h'.eq_ok_iff file).mpr ⟨haccepted hacc, entries', hentries', hpair', ?_⟩
    rw [← hwrite]
    exact (writeRows_perm (hperm'.symm.map row) hne).symm
  · refine ⟨entries.map row, ?_, ?_⟩
    · refine List.forall₂_map_right_iff.mpr (hentries.imp fun {item entry} hmade => ?_)
      rw [hmade]
      rfl
    · have hrows : entries.map row ≠ [] := fun hnil => h.ne_nil hacc <| by
        rw [List.map_eq_nil_iff.mp hnil] at hentries
        exact List.forall₂_nil_right_iff.mp hentries
      obtain ⟨file', hfile', hflatten, hbbox⟩ := @exists_writeRows R cmp trueBbox _ hrows
      obtain rfl := Except.ok.inj (hfile'.symm.trans hwrite)
      exact isExportOf_of_sorted hne hflatten hbbox

/-- **The order of a batch does not matter**: it is written to one file, which holds the row of each
item once, or rejected. -/
theorem Writes.of_perm [Std.TransCmp cmp] (hkeys : KeysDiffer make Compatible row cmp)
    (h : Writes make Compatible row cmp trueBbox accepted items written)
    (h' : Writes make Compatible row cmp trueBbox accepted' items' written')
    (hperm : items.Perm items') (haccepted : accepted ↔ accepted') :
    (∃ file rows, written = .ok file ∧ written' = .ok file ∧
      List.Forall₂ (fun item r => (make item).map row = .ok r) items rows ∧
        IsExportOf cmp trueBbox rows file) ∨
      (Fault.Rejects written ∧ Fault.Rejects written') := by
  cases hw : written with
  | ok file =>
    obtain ⟨hw', rows, hrows, hexport⟩ := h.eq_ok_of_perm hkeys h' hperm haccepted.mp hw
    exact .inl ⟨file, rows, rfl, hw', hrows, hexport⟩
  | error e =>
    refine .inr ⟨?_, ?_⟩
    · obtain ⟨e', rfl⟩ := h.returns e hw
      exact Fault.rejects_err e'
    · cases hw' : written' with
      | ok file =>
        have hfile := (h'.eq_ok_of_perm hkeys h hperm.symm haccepted.mpr hw').1
        rw [hw] at hfile
        cases hfile
      | error e' =>
        obtain ⟨e'', rfl⟩ := h'.returns e' hw'
        exact Fault.rejects_err e''

end Batch

end WatershedDelineation
