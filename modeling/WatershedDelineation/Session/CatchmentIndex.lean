import WatershedDelineation.Session.ArtifactCache
import WatershedDelineation.Session.GraphCatchments

/-!
# The id index of a catchments file

Opening a catchment store needs the ids of all its rows and the row group of each. They are read
from the file once (`readIdsLevelsWithRowGroups`), and kept in the directory of the cache entry
together with the ETag and the size of the file (`readOrBuildIdIndex`).

A catchments file is modelled by what can be read from it: the row count in its footer, the ids
of its row groups, and their ids and levels.
-/

namespace WatershedDelineation

/-- A catchments file with a readable footer. -/
structure CatchmentFile where
  totalRows : ℕ
  idGroups : Except SessionError (List (List UnitId))
  idLevelGroups : Except SessionError (List (List CatchmentIdLevelRow))

namespace CatchmentFile

/-- The ids and levels of all rows. -/
def idLevels (file : CatchmentFile) : Except SessionError (List CatchmentIdLevelRow) :=
  file.idLevelGroups.map List.flatten

end CatchmentFile

/-- The elements of groups, each with the number of its group. -/
def withRowGroups {α : Type} (groups : List (List α)) : List (α × ℕ) :=
  groups.zipIdx.flatMap fun (group, rowGroup) => group.map fun a => (a, rowGroup)

/-- One id recorded with its row group. -/
def insertRowGroup (idRowGroups : UnitId → Option ℕ) (row : UnitId × ℕ) :
    Except SessionError (UnitId → Option ℕ) :=
  match idRowGroups row.1 with
  | some previous => .error (.integrityViolation
      s!"duplicate catchment id {row.1.raw} found in row groups {previous} and {row.2}")
  | none => .ok (Function.update idRowGroups row.1 (some row.2))

/-- The row groups of ids, which must not repeat. -/
def indexRowGroups (ids : List (UnitId × ℕ)) : Except SessionError (UnitId → Option ℕ) :=
  ids.foldlM insertRowGroup fun _ => none

/-- What opening leaves: the ids, their row groups, and the level map when levels were read. -/
structure IdIndexBuildResult where
  ids : List UnitId
  idRowGroups : UnitId → Option ℕ
  validationLevelsFromOpen : Option (UnitId → Option Level)

/-- Build the index from the ids and levels of a file. -/
def readIdsLevelsWithRowGroups (file : CatchmentFile) : Except SessionError IdIndexBuildResult := do
  let groups ← file.idLevelGroups
  let idRowGroups ← indexRowGroups
    ((withRowGroups groups).map fun (row, rowGroup) => (row.id, rowGroup))
  .ok ⟨groups.flatten.map CatchmentIdLevelRow.id, idRowGroups, some (levelMap groups.flatten)⟩

/-- Build the index from the ids of a file. -/
def readAllIdsWithRowGroups (file : CatchmentFile) : Except SessionError IdIndexBuildResult := do
  let groups ← file.idGroups
  let idRowGroups ← indexRowGroups (withRowGroups groups)
  .ok ⟨groups.flatten, idRowGroups, none⟩

/-! ### The index file -/

/-- The index that is written for a build; row groups are words of 32 bits. -/
def IdIndex.ofBuild (built : IdIndexBuildResult) (fileSize : ℕ) (fileEtag : String) :
    Except SessionError IdIndex :=
  let rows := built.ids.filterMap fun id =>
    (built.idRowGroups id).map fun rowGroup => (id, rowGroup)
  if ∀ row ∈ rows, row.2 < 2 ^ 31 then .ok ⟨rows, fileSize, fileEtag⟩
  else .error (.integrityViolation "id index row group does not fit in Int32")

/-- Load an index, if it belongs to a file of this size and ETag. An index without rows has no row
groups, and is built again. -/
def IdIndex.load (index : IdIndex) (fileSize : ℕ) (fileEtag : String) : Option IdIndexBuildResult :=
  if index.fileSize = fileSize ∧ index.fileEtag = fileEtag ∧ index.rows ≠ [] then
    (indexRowGroups index.rows).toOption.map fun idRowGroups =>
      ⟨index.rows.map Prod.fst, idRowGroups, none⟩
  else none

/-- Write an index into a directory. -/
def writeIdIndex (dir : CachePath) (built : IdIndexBuildResult) (fileSize : ℕ) (fileEtag : String) :
    CacheM Unit := do
  Faulty.attempt (.cacheIo "create_dir_all" dir.display)
  let index ← Faulty.ofExcept (IdIndex.ofBuild built fileSize fileEtag)
  Faulty.attempt (.cacheIo "write" (dir ++ ["catchments.idindex.arrow"]).display)
  Faulty.update fun files => files.writeIdIndex dir.resolve index

/-- Load the index of a file from a directory, or build it and keep it there. A file without ETag
has no index kept. -/
def readOrBuildIdIndex (file : CatchmentFile) (fileSize : ℕ) (fileEtag : Option String)
    (dir : CachePath) : CacheM IdIndexBuildResult :=
  match fileEtag with
  | none => do
    Faulty.attempt (.artifactParse "catchments.parquet")
    Faulty.ofExcept (readAllIdsWithRowGroups file)
  | some etag => do
    let files ← Faulty.store
    let readable ← Faulty.succeeds
    match if readable then (files.idIndex dir.resolve).bind (·.load fileSize etag) else none with
    | some index => pure index
    | none => do
      Faulty.attempt (.artifactParse "catchments.parquet")
      let built ← Faulty.ofExcept (readIdsLevelsWithRowGroups file)
      let _ ← Faulty.observe (writeIdIndex dir built fileSize etag)
      pure built

/-! ### What an index says -/

/-- An index of a file: built of its ids, built of its ids and levels, or loaded from what was
written for an index. -/
inductive CatchmentFile.Indexed (file : CatchmentFile) : IdIndexBuildResult → Prop
  | ids {built : IdIndexBuildResult} : readAllIdsWithRowGroups file = .ok built →
      file.Indexed built
  | idsLevels {built : IdIndexBuildResult} : readIdsLevelsWithRowGroups file = .ok built →
      file.Indexed built
  | loaded {written built : IdIndexBuildResult} {index : IdIndex} {fileSize : ℕ}
      {fileEtag : String} : file.Indexed written →
      IdIndex.ofBuild written fileSize fileEtag = .ok index →
      index.load fileSize fileEtag = some built → file.Indexed built

private theorem foldlM_insertRowGroup {rows : List (UnitId × ℕ)} {known f : UnitId → Option ℕ}
    (h : rows.foldlM insertRowGroup known = .ok f) :
    (rows.map Prod.fst).Nodup ∧ (∀ row ∈ rows, known row.1 = none) ∧
      ∀ id rowGroup, f id = some rowGroup ↔ known id = some rowGroup ∨ (id, rowGroup) ∈ rows := by
  induction rows generalizing known with
  | nil =>
    obtain rfl := Except.ok.inj h
    simp
  | cons row rows ih =>
    rw [List.foldlM_cons, Checks.bind_eq_ok_iff] at h
    obtain ⟨next, hnext, h⟩ := h
    obtain ⟨hnodup, hnew, hf⟩ := ih h
    have hnone : known row.1 = none := by
      unfold insertRowGroup at hnext
      split at hnext
      · exact absurd hnext (by simp)
      · assumption
    obtain rfl : Function.update known row.1 (some row.2) = next := by
      rw [insertRowGroup, hnone] at hnext
      exact Except.ok.inj hnext
    -- the rows that follow have other ids
    have hne : ∀ r ∈ rows, r.1 ≠ row.1 := fun r hr heq => by
      have := hnew r hr
      rw [heq, Function.update_self] at this
      exact absurd this (by simp)
    refine ⟨?_, ?_, fun id rowGroup => ?_⟩
    · rw [List.map_cons, List.nodup_cons]
      refine ⟨fun hmem => ?_, hnodup⟩
      obtain ⟨r, hr, heq⟩ := List.mem_map.mp hmem
      exact hne r hr heq
    · rw [List.forall_mem_cons]
      refine ⟨hnone, fun r hr => ?_⟩
      have := hnew r hr
      rwa [Function.update_of_ne (hne r hr)] at this
    · rw [hf, Function.update_apply, List.mem_cons]
      by_cases hid : id = row.1
      · subst hid
        rw [if_pos rfl, hnone]
        constructor
        · rintro (h | h)
          · exact .inr (.inl (Prod.ext rfl (Option.some.inj h).symm))
          · exact absurd rfl (hne (row.1, rowGroup) h)
        · rintro (h | h | h)
          · exact absurd h (by simp)
          · exact .inl (congrArg (fun r : UnitId × ℕ => some r.2) h.symm)
          · exact absurd rfl (hne (row.1, rowGroup) h)
      · rw [if_neg hid]
        refine or_congr_right ⟨.inr, ?_⟩
        rintro (rfl | h)
        · exact absurd rfl hid
        · exact h

/-- The row groups of an index are those of the rows, whose ids do not repeat. -/
theorem indexRowGroups_spec {rows : List (UnitId × ℕ)} {f : UnitId → Option ℕ}
    (h : indexRowGroups rows = .ok f) : (rows.map Prod.fst).Nodup ∧
      ∀ id rowGroup, f id = some rowGroup ↔ (id, rowGroup) ∈ rows := by
  obtain ⟨hnodup, -, hf⟩ := foldlM_insertRowGroup h
  exact ⟨hnodup, fun id rowGroup => by simpa using hf id rowGroup⟩

theorem mem_withRowGroups {α : Type} {groups : List (List α)} {a : α} {rowGroup : ℕ} :
    (a, rowGroup) ∈ withRowGroups groups ↔ ∃ group, groups[rowGroup]? = some group ∧ a ∈ group := by
  simp only [withRowGroups, List.mem_flatMap, Prod.exists, List.mem_zipIdx_iff_getElem?,
    List.mem_map, Prod.mk.injEq]
  constructor
  · rintro ⟨group, i, hgroup, b, hb, rfl, rfl⟩
    exact ⟨group, hgroup, hb⟩
  · rintro ⟨group, hgroup, ha⟩
    exact ⟨group, rowGroup, hgroup, a, ha, rfl, rfl⟩

theorem map_fst_withRowGroups {α : Type} (groups : List (List α)) :
    (withRowGroups groups).map Prod.fst = groups.flatten := by
  rw [withRowGroups, List.map_flatMap]
  conv_rhs => rw [← List.zipIdx_map_fst 0 groups, ← List.flatMap_def]
  refine congrArg (List.flatMap · groups.zipIdx) (funext fun (group, rowGroup) => ?_)
  rw [List.map_map]
  exact List.map_id group

theorem withRowGroups_map {α β : Type} (f : α → β) (groups : List (List α)) :
    withRowGroups (groups.map (·.map f))
      = (withRowGroups groups).map fun (a, rowGroup) => (f a, rowGroup) := by
  rw [withRowGroups, withRowGroups, List.zipIdx_map, List.flatMap_map, List.map_flatMap]
  refine congrArg (List.flatMap · groups.zipIdx) (funext fun (group, rowGroup) => ?_)
  rw [List.map_map]
  exact List.map_map

/-- What an index says about groups of ids. -/
structure IdIndexBuildResult.Indexes (built : IdIndexBuildResult) (groups : List (List UnitId)) :
    Prop where
  ids_eq : built.ids = groups.flatten
  nodup : groups.flatten.Nodup
  rowGroup_iff : ∀ id rowGroup, built.idRowGroups id = some rowGroup ↔
    ∃ group, groups[rowGroup]? = some group ∧ id ∈ group

/-- The row groups of ids are determined. -/
theorem IdIndexBuildResult.Indexes.idRowGroups_eq {built built' : IdIndexBuildResult}
    {groups : List (List UnitId)} (h : built.Indexes groups) (h' : built'.Indexes groups) :
    built'.idRowGroups = built.idRowGroups :=
  funext fun id => Option.ext fun rowGroup =>
    (h'.rowGroup_iff id rowGroup).trans (h.rowGroup_iff id rowGroup).symm

theorem IdIndex.of_ofBuild {built : IdIndexBuildResult} {index : IdIndex} {fileSize : ℕ}
    {fileEtag : String} (h : IdIndex.ofBuild built fileSize fileEtag = .ok index) :
    index = ⟨built.ids.filterMap fun id => (built.idRowGroups id).map fun rowGroup =>
        (id, rowGroup), fileSize, fileEtag⟩ ∧
      ∀ row ∈ index.rows, row.2 < 2 ^ 31 := by
  unfold IdIndex.ofBuild at h
  dsimp only at h
  split_ifs at h with hlt
  obtain rfl := Except.ok.inj h
  exact ⟨rfl, hlt⟩

/-- Every id has a row group, so the rows that are written have all ids. -/
theorem IdIndexBuildResult.Indexes.map_fst_rows {built : IdIndexBuildResult}
    {groups : List (List UnitId)} (h : built.Indexes groups) :
    (built.ids.filterMap fun id => (built.idRowGroups id).map fun rowGroup =>
      (id, rowGroup)).map Prod.fst = groups.flatten := by
  rw [List.map_filterMap, ← h.ids_eq]
  conv_rhs => rw [← List.filterMap_some (l := built.ids)]
  refine List.filterMap_congr fun id hid => ?_
  rw [h.ids_eq, List.mem_flatten] at hid
  obtain ⟨group, hgroup, hid⟩ := hid
  obtain ⟨rowGroup, hrowGroup⟩ := List.mem_iff_getElem?.mp hgroup
  rw [(h.rowGroup_iff id rowGroup).mpr ⟨group, hrowGroup, hid⟩]
  rfl

/-- Loading an index gives back what was written. -/
theorem IdIndexBuildResult.Indexes.load {built loaded : IdIndexBuildResult}
    {groups : List (List UnitId)} (h : built.Indexes groups) {index : IdIndex} {fileSize : ℕ}
    {fileEtag : String} (hindex : IdIndex.ofBuild built fileSize fileEtag = .ok index)
    (hload : index.load fileSize fileEtag = some loaded) : loaded.Indexes groups := by
  obtain ⟨rfl, -⟩ := IdIndex.of_ofBuild hindex
  obtain ⟨-, hload⟩ := Option.ite_none_right_eq_some.mp hload
  obtain ⟨f, hf, rfl⟩ := Option.map_eq_some_iff.mp hload
  obtain ⟨-, hf⟩ := indexRowGroups_spec (Checks.toOption_eq_some_iff.mp hf)
  refine ⟨h.map_fst_rows, h.nodup, fun id rowGroup => ?_⟩
  have hmem : ∀ {id rowGroup}, built.idRowGroups id = some rowGroup → id ∈ built.ids := by
    intro id rowGroup hrowGroup
    obtain ⟨group, hgroup, hid⟩ := (h.rowGroup_iff id rowGroup).mp hrowGroup
    rw [h.ids_eq]
    exact List.mem_flatten.mpr ⟨group, List.mem_of_getElem? hgroup, hid⟩
  rw [hf, ← h.rowGroup_iff, List.mem_filterMap]
  constructor
  · rintro ⟨id', -, hrow⟩
    obtain ⟨rowGroup', hrowGroup, hrow⟩ := Option.map_eq_some_iff.mp hrow
    obtain ⟨rfl, rfl⟩ := Prod.mk.inj hrow
    exact hrowGroup
  · intro hrowGroup
    exact ⟨id, hmem hrowGroup, by rw [hrowGroup, Option.map_some]⟩

/-- **What an index says** about a file whose ids, and ids and levels, are those of the groups. -/
theorem CatchmentFile.Indexed.indexes {file : CatchmentFile} {built : IdIndexBuildResult}
    (h : file.Indexed built) {groups : List (List UnitId)}
    (hids : ∀ found, file.idGroups = .ok found → found = groups)
    (hlevels : ∀ found, file.idLevelGroups = .ok found →
      found.map (·.map CatchmentIdLevelRow.id) = groups) : built.Indexes groups := by
  induction h with
  | ids h =>
    obtain ⟨found, hfound, h⟩ := Checks.bind_eq_ok_iff.mp h
    obtain ⟨f, hf, h⟩ := Checks.bind_eq_ok_iff.mp h
    obtain rfl := Except.ok.inj h
    obtain rfl := hids found hfound
    obtain ⟨hnodup, hf⟩ := indexRowGroups_spec hf
    rw [map_fst_withRowGroups] at hnodup
    exact ⟨rfl, hnodup, fun id rowGroup => (hf id rowGroup).trans mem_withRowGroups⟩
  | idsLevels h =>
    obtain ⟨found, hfound, h⟩ := Checks.bind_eq_ok_iff.mp h
    obtain ⟨f, hf, h⟩ := Checks.bind_eq_ok_iff.mp h
    obtain rfl := Except.ok.inj h
    obtain rfl := hlevels found hfound
    rw [← withRowGroups_map] at hf
    obtain ⟨hnodup, hf⟩ := indexRowGroups_spec hf
    rw [map_fst_withRowGroups] at hnodup
    exact ⟨List.map_flatten, hnodup, fun id rowGroup => (hf id rowGroup).trans mem_withRowGroups⟩
  | loaded _ hindex hload ih => exact ih.load hindex hload

end WatershedDelineation
