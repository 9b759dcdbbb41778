import WatershedDelineation.Reader.CatchmentQueries
import WatershedDelineation.Session.Reopen

/-!
# Opening a local dataset

`open_path` of `session.rs`: a dataset in a directory. Its artifacts are read from files, nothing is
cached, and referential validation is never skipped.

A dataset opens from a directory exactly when its mirror in an object store opens cold and the
directory has all files that the manifest declares; the sessions are the same
(`openPath_iff_openRemote`).
-/

namespace WatershedDelineation

open Faulty

/-! ### Directories -/

/-- A dataset root: whether it is a directory, which paths below it exist, and what can be read from
them. -/
structure LocalDataset where
  isDir : Bool
  present : String → Bool
  read : String → Option (List UInt8)
  present_of_read : ∀ {path bytes}, read path = some bytes → present path

section Open

variable (readers : DatasetReaders) (dataset : LocalDataset)

end Open

/-! ### Declared paths -/

/-- The declared paths. -/
def AuxDeclarations.paths (aux : AuxDeclarations) : List String :=
  (aux.d8Rasters.flatMap fun decl => [decl.flowDir, decl.flowAcc]) ++
    aux.snaps.map SnapDecl.snap ++ aux.generic.flatMap fun decl => decl.artifacts.map Prod.snd

section Paths

variable {dataset : LocalDataset} {aux : AuxDeclarations} {schema artifact path : String}

end Paths

/-! ### What a dataset opens as -/

/-- A declared snap store that opens cold. -/
def SnapOpens (readers : DatasetReaders) (read : String → Option (List UInt8)) (decl : SnapDecl)
    (declared : DeclaredSnapStore) : Prop :=
  ∃ bytes file refs, read decl.snap = some bytes ∧ readers.openSnap bytes = .ok file ∧
    file.membershipRefs = .ok refs ∧ declared = ⟨decl, ⟨file, .loaded refs⟩⟩

/-- What a dataset with this content opens as, where the ids of its catchments are read as
`index`. -/
structure Opens (readers : DatasetReaders) (read : String → Option (List UInt8))
    (index : CatchmentFile → Except SessionError IdIndexBuildResult) (session : DatasetSession) :
    Prop where
  manifest : ∃ bytes, read "manifest.json" = some bytes ∧
    readers.readManifestFromBytes bytes = .ok ⟨session.manifest, session.auxDeclarations⟩
  paths : ∀ path ∈ session.auxDeclarations.paths, ¬pathEscapesRoot path
  graph : ∃ bytes, read "graph.parquet" = some bytes ∧
    readers.loadGraphFromBytes bytes = .ok session.graph
  catchments : ∃ bytes file built, read "catchments.parquet" = some bytes ∧
    readers.openCatchments bytes = .ok file ∧ index file = .ok built ∧
    session.catchments = file.storeOf built
  snapStores : List.Forall₂ (SnapOpens readers read) session.auxDeclarations.snaps
    session.snapStores
  valid : validateReferences session = .ok ()

/-- Everything that a manifest declares is there. -/
structure LocalDataset.Complete (dataset : LocalDataset) (aux : AuxDeclarations) : Prop where
  isDir : dataset.isDir
  noLegacyGraph : ¬dataset.present "graph.arrow"
  paths : ∀ path ∈ aux.paths, dataset.present path

section Local

variable {readers : DatasetReaders} {dataset : LocalDataset} {session : DatasetSession}

end Local

/-! ### Opening cold -/

/-- What can be read of a source. -/
def Remote.read (remote : Remote) (source : Source) (artifact : String) : Option (List UInt8) :=
  (remote.object source artifact).map RemoteObject.bytes

/-- The ids of a catchments file, when none are cached: with their levels, if the file has an
ETag. -/
def coldIndex (etag : Option String) (file : CatchmentFile) :
    Except SessionError IdIndexBuildResult :=
  match etag with
  | none => readAllIdsWithRowGroups file
  | some _ => readIdsLevelsWithRowGroups file

section Cold

variable {readers : DatasetReaders} {cache : RemoteArtifactCache} {remote : Remote}
  {source : Source} {files : CacheFiles}

end Cold

/-! ### Directories and stores -/

section Mirror

variable {hfx : Hfx} {readers : DatasetReaders} {cache : RemoteArtifactCache} {remote : Remote}
  {source : Source} {dataset : LocalDataset}

/-- Where ids and levels can be read, so can ids. -/
theorem idGroups_of_idLevelGroups {table : CatchmentTable}
    {groups : List (List CatchmentIdLevelRow)} (h : (table.file hfx).idLevelGroups = .ok groups) :
    (table.file hfx).idGroups = .ok (groups.map (·.map CatchmentIdLevelRow.id)) := by
  have hids := fun (start : ℕ) record o => @keepRow_eq_ok_iff _ (extractId hfx) start record o
  have hlevels := fun (start : ℕ) record o =>
    @keepRow_eq_ok_iff _ (extractIdLevel hfx) start record o
  have hall : (List.range table.groups.length).filter (fun _ => true)
      = List.range table.groups.length := List.filter_eq_self.mpr fun _ _ => rfl
  unfold CatchmentTable.file at h ⊢
  dsimp only at h ⊢
  split_ifs at h with hnil hcolumn
  · obtain rfl := Except.ok.inj h
    rw [hnil]
    rfl
  · rw [← hall, RowGroups.readEach_eq_ok_iff (RowGroups.readsRows_readRows hlevels)] at h
    obtain ⟨hvalid, hgroups⟩ := h
    rw [← hall, RowGroups.readEach_eq_ok_iff (RowGroups.readsRows_readRows hids)]
    refine ⟨fun record hrecord => ?_, ?_⟩
    · obtain ⟨row, hrow⟩ := hvalid record hrecord
      exact ⟨row.id, extractIdLevel_id hrow⟩
    · rw [hgroups, List.map_map]
      refine List.map_congr_left fun i hi => ?_
      rw [Function.comp_apply, List.map_filterMap]
      refine List.filterMap_congr fun record hrecord => ?_
      obtain ⟨row, hrow⟩ := hvalid record (List.mem_flatMap.mpr ⟨i, hi, hrecord⟩)
      rw [hrow, extractIdLevel_id hrow]
      rfl

/-- The readers open catchments files as tables. -/
def DatasetReaders.ReadTables (hfx : Hfx) (readers : DatasetReaders) : Prop :=
  ∀ bytes file, readers.openCatchments bytes = .ok file →
    ∃ table : CatchmentTable, file = table.file hfx

section ColdIndex

variable {file : CatchmentFile} {built : IdIndexBuildResult}
  (hids : ∀ groups, file.idLevelGroups = .ok groups →
    file.idGroups = .ok (groups.map (·.map CatchmentIdLevelRow.id)))
include hids

/-- What is read of ids and levels has the ids alone. -/
theorem readAllIds_of_readIdsLevels (hbuilt : readIdsLevelsWithRowGroups file = .ok built) :
    readAllIdsWithRowGroups file = .ok ⟨built.ids, built.idRowGroups, none⟩ := by
  obtain ⟨groups, hgroups, h⟩ := Checks.bind_eq_ok_iff.mp hbuilt
  obtain ⟨f, hf, h⟩ := Checks.bind_eq_ok_iff.mp h
  obtain rfl := Except.ok.inj h
  rw [← withRowGroups_map] at hf
  rw [readAllIdsWithRowGroups, hids groups hgroups, Checks.ok_bind, hf, Checks.ok_bind,
    List.map_flatten]

/-- The levels can be read with the ids, where they can be read at all. -/
theorem readIdsLevels_of_readAllIds {rows : List CatchmentIdLevelRow}
    (hbuilt : readAllIdsWithRowGroups file = .ok built) (hrows : file.idLevels = .ok rows) :
    readIdsLevelsWithRowGroups file = .ok ⟨built.ids, built.idRowGroups, some (levelMap rows)⟩ := by
  obtain ⟨groups, hgroups, rfl⟩ := Checks.map_eq_ok_iff.mp hrows
  obtain ⟨ids, hidGroups, h⟩ := Checks.bind_eq_ok_iff.mp hbuilt
  obtain rfl := Except.ok.inj ((hids groups hgroups).symm.trans hidGroups)
  obtain ⟨f, hf, h⟩ := Checks.bind_eq_ok_iff.mp h
  obtain rfl := Except.ok.inj h
  rw [withRowGroups_map] at hf
  rw [readIdsLevelsWithRowGroups, hgroups, Checks.ok_bind, hf, Checks.ok_bind, List.map_flatten]

/-- Reading the levels with the ids makes no difference to a file whose levels can be read. -/
theorem coldIndex_congr {etag etag' : Option String} {levels : UnitId → Option Level}
    (hlevels : (file.storeOf built).catchmentLevels = .ok levels)
    (hbuilt : coldIndex etag file = .ok built) :
    ∃ built', coldIndex etag' file = .ok built' ∧
      SameStore (file.storeOf built) (file.storeOf built') := by
  cases etag with
  | none =>
    cases etag' with
    | none => exact ⟨built, hbuilt, rfl, rfl, rfl, rfl, rfl⟩
    | some tag =>
      have hnone : built.validationLevelsFromOpen = none := by
        obtain ⟨groups, -, h⟩ := Checks.bind_eq_ok_iff.mp hbuilt
        obtain ⟨f, -, h⟩ := Checks.bind_eq_ok_iff.mp h
        obtain rfl := Except.ok.inj h
        rfl
      rw [CatchmentFile.storeOf, hnone] at hlevels
      obtain ⟨rows, hrows, rfl⟩ := Checks.map_eq_ok_iff.mp hlevels
      refine ⟨_, readIdsLevels_of_readAllIds hids hbuilt hrows, rfl, rfl, rfl, rfl, ?_⟩
      rw [CatchmentFile.storeOf, CatchmentFile.storeOf, hnone]
      exact hlevels.symm
  | some tag =>
    cases etag' with
    | some tag' => exact ⟨built, hbuilt, rfl, rfl, rfl, rfl, rfl⟩
    | none =>
      obtain ⟨-, found, hfound, hfile⟩ := exists_indexes_of_readIdsLevels hbuilt
      refine ⟨_, readAllIds_of_readIdsLevels hids hbuilt, rfl, rfl, rfl, rfl, ?_⟩
      rw [CatchmentFile.storeOf, CatchmentFile.storeOf, hfound]
      exact hfile

end ColdIndex

/-- What a dataset opens as does not depend on how the ids of its catchments are read. -/
theorem Opens.congr {read : String → Option (List UInt8)} {etag etag' : Option String}
    {session : DatasetSession} (htables : readers.ReadTables hfx)
    (h : Opens readers read (coldIndex etag) session) :
    ∃ session', Opens readers read (coldIndex etag') session' ∧ SameSession session session' := by
  obtain ⟨hmanifest, hpaths, hgraph, ⟨bytes, file, built, hread, hfile, hbuilt, hstore⟩, hsnaps,
    hvalid⟩ := h
  obtain ⟨table, rfl⟩ := htables bytes file hfile
  obtain ⟨levels, hlevels⟩ : ∃ levels, session.catchments.catchmentLevels = .ok levels := by
    obtain ⟨_, hgraphValid, -⟩ := Checks.bind_eq_ok_iff.mp hvalid
    rw [validateGraphCatchments, Checks.ite_error_eq_ok_iff, Checks.bind_eq_ok_iff] at hgraphValid
    obtain ⟨-, levels, hlevels, -⟩ := hgraphValid
    exact ⟨levels, hlevels⟩
  rw [hstore] at hlevels
  obtain ⟨built', hbuilt', hsame⟩ := @coldIndex_congr _ _ (fun _ => idGroups_of_idLevelGroups) etag
    etag' _ hlevels hbuilt
  rw [← hstore] at hsame
  have hsession : SameSession session
      { session with catchments := (table.file hfx).storeOf built' } :=
    ⟨rfl, rfl, rfl, hsame, rfl⟩
  exact ⟨{ session with catchments := (table.file hfx).storeOf built' },
    ⟨hmanifest, hpaths, hgraph, ⟨bytes, _, built', hread, hfile, hbuilt', rfl⟩, hsnaps,
      (validateReferences_congr hsession rfl).trans hvalid⟩, hsession⟩

end Mirror

end WatershedDelineation
