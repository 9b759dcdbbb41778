import WatershedDelineation.Session.StoredIndex
import WatershedDelineation.Session.ValidationTokens

/-!
# Opening a dataset again

An open that succeeds leaves a cache directory that the next open of the same objects finds
everything in: without faults, that open returns the same session, skips referential validation if
all artifacts have ETags, and leaves the directory as it is (`openRemoteWithStats_again`). So does
every later one.
-/

namespace WatershedDelineation

open Faulty

variable {readers : DatasetReaders} {cache : RemoteArtifactCache} {remote : Remote}
  {source : Source} {files files' : CacheFiles} {faults' : List Bool}

/-! ### Requests -/

section Requests

variable {artifact label : String}

/-- The object of an artifact, or the error of a request for it. -/
def Remote.found (remote : Remote) (source : Source) (artifact label : String) :
    Except SessionError RemoteObject :=
  Checks.okOr (remote.object source artifact) (remoteReadError source artifact label)

/-- A request without faults returns the object and writes nothing. -/
theorem reads_getObject :
    Reads (getObject remote source artifact label) (remote.found source artifact label) := by
  intro files
  rw [getObject, (reads_attempt _).run_bind, Remote.found]
  cases remote.object source artifact with
  | none => rfl
  | some object => rfl

theorem reads_remoteObjectMeta : Reads (remoteObjectMeta remote source artifact label)
    (remote.found source artifact label >>= fun object =>
      .ok ⟨object.etag, object.bytes.length⟩) :=
  reads_getObject.bind fun _ => reads_pure _

/-- Metadata that cannot be read counts as missing, so that reading it does not fail. -/
theorem exists_reads_remoteArtifactMeta :
    ∃ found, Reads (remoteArtifactMeta remote source artifact) (.ok found) := by
  have hobserve := (@reads_remoteObjectMeta remote source artifact artifact).observe
  cases hfound : remote.found source artifact artifact >>= fun object =>
      (.ok ⟨object.etag, object.bytes.length⟩ : Except SessionError ObjectMeta) with
  | error e =>
    rw [hfound] at hobserve
    exact ⟨none, fun s => (hobserve.run_bind s).trans rfl⟩
  | ok head =>
    rw [hfound] at hobserve
    exact ⟨ArtifactMeta.fromParts artifact head, fun s => (hobserve.run_bind s).trans rfl⟩

theorem exists_reads_readRemoteArtifact :
    ∃ bytes, Reads (readRemoteArtifact remote source artifact) bytes :=
  ⟨_, reads_remoteObjectMeta.bind fun _ => reads_getObject.bind fun _ => reads_pure _⟩

/-- What opening a snap store reads. -/
def openedSnapStore (readers : DatasetReaders) (remote : Remote) (source : Source)
    (mode : SnapOpenMode) (decl : SnapDecl) : Except SessionError DeclaredSnapStore := do
  let object ← remote.found source decl.snap "snap.parquet"
  let file ← readers.openSnap object.bytes
  let store ← SnapStore.openObject file mode
  .ok ⟨decl, store⟩

/-- Opening a snap store writes nothing. -/
theorem reads_openSnapStore (mode : SnapOpenMode) (decl : SnapDecl) :
    Reads (openSnapStore readers remote source mode decl)
      (openedSnapStore readers remote source mode decl) :=
  reads_getObject.bind fun _ => (reads_ofExcept _).bind fun _ s =>
    ((reads_attempt _).run_bind s).trans ((reads_ofExcept _).bind (fun _ => reads_pure _) s)

end Requests

/-! ### The manifest and the graph -/

/-- What the cache has for a source. -/
def RemoteArtifactCache.cachedEntry (readers : ArtifactReaders) (cache : RemoteArtifactCache)
    (files : CacheFiles) (source : Source) : Option CachedRemoteArtifacts :=
  (cache.indexedDir files source).bind (RemoteArtifactCache.entryAt readers files)

/-- Reading the entry of a source writes nothing and does not fail. -/
theorem run_readEntryForSource {readers : ArtifactReaders} :
    run (cache.readEntryForSource readers source) files []
      = (.ok (cache.cachedEntry readers files source), files, []) := by
  rw [RemoteArtifactCache.readEntryForSource, run_store_bind]
  split_ifs with hnone
  · rw [Option.isNone_iff_eq_none] at hnone
    rw [RemoteArtifactCache.cachedEntry, RemoteArtifactCache.indexedDir, hnone]
    rfl
  · rw [(reads_attempt _).run_bind, RemoteArtifactCache.cachedEntry]
    cases cache.indexedDir files source with
    | none => rfl
    | some dir => rfl

/-- Two cache directories with the same manifests, graphs and sources. -/
structure SameEntries (files files' : CacheFiles) : Prop where
  manifest : files'.manifest = files.manifest
  graph : files'.graph = files.graph
  sources : files'.sources = files.sources

/-- Only the manifests, the graphs and the sources matter to what is found. -/
theorem SameEntries.cachedEntry_eq {readers : ArtifactReaders} (h : SameEntries files files') :
    cache.cachedEntry readers files' source = cache.cachedEntry readers files source := by
  simp only [RemoteArtifactCache.cachedEntry, RemoteArtifactCache.indexedDir, h.sources]
  exact congrArg _ (funext fun dir => by
    rw [RemoteArtifactCache.entryAt, RemoteArtifactCache.entryAt, h.manifest, h.graph])

/-- Writing what is there changes nothing. -/
theorem update_of_eq {α β : Type} [DecidableEq α] {f : α → Option β} {a : α} {b : β}
    (h : f a = some b) : Function.update f a (some b) = f := by
  rw [← h, Function.update_eq_self]

section Write

variable {manifest : Manifest} {manifestBytes graphBytes : List UInt8}

/-- The files after a manifest and a graph have been written. -/
def CacheFiles.withEntry (files : CacheFiles) (cache : RemoteArtifactCache) (source : Source)
    (manifest : Manifest) (manifestBytes graphBytes : List UInt8) : CacheFiles :=
  let dir := (cache.artifactCacheDir manifest.fabricName manifest.adapterVersion).resolve
  ((files.writeManifest dir manifestBytes).writeGraph dir graphBytes).writeSource
    (RemoteArtifactCache.sourceIndexHash source)
    ⟨source.url, source.remoteRoot, manifest.fabricName, manifest.adapterVersion⟩

section Files

variable (files : CacheFiles) (cache : RemoteArtifactCache) (source : Source)
  (manifest : Manifest) (manifestBytes graphBytes : List UInt8)

theorem manifest_withEntry :
    (files.withEntry cache source manifest manifestBytes graphBytes).manifest
      (cache.artifactCacheDir manifest.fabricName manifest.adapterVersion).resolve
      = some manifestBytes := Function.update_self ..

theorem graph_withEntry : (files.withEntry cache source manifest manifestBytes graphBytes).graph
    (cache.artifactCacheDir manifest.fabricName manifest.adapterVersion).resolve
      = some graphBytes := Function.update_self ..

theorem sources_withEntry :
    (files.withEntry cache source manifest manifestBytes graphBytes).sources
      (RemoteArtifactCache.sourceIndexHash source) = some ⟨source.url, source.remoteRoot,
        manifest.fabricName, manifest.adapterVersion⟩ := Function.update_self ..

end Files

theorem run_writeManifestGraph :
    run (cache.writeManifestGraph source manifest manifestBytes graphBytes) files []
      = (.ok (), files.withEntry cache source manifest manifestBytes graphBytes, []) := rfl

/-- Writing an entry that is there changes nothing. -/
theorem withEntry_of_sameEntries
    (h : SameEntries (files.withEntry cache source manifest manifestBytes graphBytes) files') :
    files'.withEntry cache source manifest manifestBytes graphBytes = files' := by
  refine CacheFiles.ext (update_of_eq ?_) (update_of_eq ?_) rfl rfl (update_of_eq ?_)
  · rw [h.manifest]
    exact manifest_withEntry ..
  · exact (congrFun h.graph _).trans (graph_withEntry ..)
  · exact (congrFun h.sources _).trans (sources_withEntry ..)

/-- An entry that has been written is found as it was written, or not at all. -/
theorem cachedEntry_of_sameEntries {readers : ArtifactReaders} {parsed : ParsedManifest}
    {graph : DrainageGraph} {cached : CachedRemoteArtifacts}
    (hparsed : readers.readManifestFromBytes manifestBytes = .ok parsed)
    (hgraph : readers.loadGraphFromBytes graphBytes = .ok graph)
    (h : SameEntries (files.withEntry cache source parsed.manifest manifestBytes graphBytes) files')
    (hcached : cache.cachedEntry readers files' source = some cached) :
    cached = ⟨parsed.manifest, parsed.aux, graph⟩ := by
  rw [h.cachedEntry_eq] at hcached
  obtain ⟨dir, hdir, hentry⟩ := Option.bind_eq_some_iff.mp hcached
  obtain ⟨index, hindex, hdir⟩ := Option.bind_eq_some_iff.mp hdir
  obtain rfl := Option.some.inj ((sources_withEntry ..).symm.trans hindex)
  obtain ⟨-, hdir⟩ := Option.ite_none_right_eq_some.mp hdir
  obtain rfl := Option.some.inj hdir
  simp only [RemoteArtifactCache.entryAt, Option.bind_eq_bind, Option.bind_eq_some_iff] at hentry
  obtain ⟨_, hmanifest, _, hgraphBytes, parsed', hparsed', hentry⟩ := hentry
  obtain rfl := Option.some.inj ((manifest_withEntry ..).symm.trans hmanifest)
  obtain rfl := Option.some.inj ((graph_withEntry ..).symm.trans hgraphBytes)
  rw [Checks.toOption_eq_some_iff, hparsed] at hparsed'
  obtain rfl := Except.ok.inj hparsed'
  obtain ⟨-, hentry⟩ := Option.ite_none_right_eq_some.mp hentry
  obtain ⟨graph', hgraph', hentry⟩ := Option.bind_eq_some_iff.mp hentry
  rw [Checks.toOption_eq_some_iff, hgraph] at hgraph'
  obtain rfl := Except.ok.inj hgraph'
  exact (Option.some.inj hentry).symm

end Write

/-- What has been loaded is loaded again. -/
theorem loadManifestGraph_again {loaded : CachedRemoteArtifacts}
    (h : run (loadManifestGraph readers cache remote source) files []
      = (.ok loaded, files', faults')) :
    faults' = [] ∧ files'.validated = files.validated ∧ files'.idIndex = files.idIndex ∧
      ∀ files'', SameEntries files' files'' →
        run (loadManifestGraph readers cache remote source) files'' []
          = (.ok loaded, files'', []) := by
  have hagain : ∀ files'' cached,
      cache.cachedEntry readers.toArtifactReaders files'' source = some cached →
      run (loadManifestGraph readers cache remote source) files'' []
        = (.ok cached, files'', []) := by
    intro files'' cached hentry
    rw [loadManifestGraph, run_bind_of_ok run_readEntryForSource, hentry]
    rfl
  cases hentry : cache.cachedEntry readers.toArtifactReaders files source with
  | some cached =>
    rw [hagain files cached hentry] at h
    obtain ⟨hloaded, hfiles⟩ := Prod.mk.inj h
    obtain rfl := Except.ok.inj hloaded
    obtain ⟨rfl, rfl⟩ := Prod.mk.inj hfiles
    exact ⟨rfl, rfl, rfl, fun files'' hsame =>
      hagain files'' cached (hsame.cachedEntry_eq.trans hentry)⟩
  | none =>
    rw [loadManifestGraph, run_bind_of_ok run_readEntryForSource, hentry] at h
    obtain ⟨_, hreadManifest⟩ := @exists_reads_readRemoteArtifact remote source "manifest.json"
    obtain ⟨_, hreadGraph⟩ := @exists_reads_readRemoteArtifact remote source "graph.parquet"
    obtain ⟨manifestBytes, rfl, h⟩ := hreadManifest.exists_of_run_bind h
    obtain ⟨parsed, hparsed, h⟩ := (reads_ofExcept _).exists_of_run_bind h
    obtain ⟨_, hpaths, h⟩ := (reads_ofExcept _).exists_of_run_bind h
    obtain ⟨graphBytes, rfl, h⟩ := hreadGraph.exists_of_run_bind h
    obtain ⟨graph, hgraph, h⟩ := (reads_ofExcept _).exists_of_run_bind h
    rw [run_bind_of_ok run_writeManifestGraph] at h
    obtain ⟨hloaded, hfiles⟩ := Prod.mk.inj h
    obtain rfl := Except.ok.inj hloaded
    obtain ⟨rfl, rfl⟩ := Prod.mk.inj hfiles
    refine ⟨rfl, rfl, rfl, fun files'' hsame => ?_⟩
    cases hentry' : cache.cachedEntry readers.toArtifactReaders files'' source with
    | some cached =>
      rw [hagain files'' cached hentry', cachedEntry_of_sameEntries hparsed hgraph hsame hentry']
    | none =>
      -- the entry cannot be found by its names, and is written again
      rw [loadManifestGraph, run_bind_of_ok run_readEntryForSource, hentry']
      refine (hreadManifest.run_bind files'').trans ?_
      rw [hparsed, (reads_ofExcept _).run_bind, hpaths, (reads_ofExcept _).run_bind,
        hreadGraph.run_bind, hgraph, (reads_ofExcept _).run_bind,
        run_bind_of_ok run_writeManifestGraph, withEntry_of_sameEntries hsame]
      rfl

/-! ### The id index -/

section IdIndex

variable {file : CatchmentFile} {fileSize : ℕ} {fileEtag : Option String} {dir : CachePath}
  {index built : IdIndexBuildResult}

/-- A catchment store over a file with an index. -/
def CatchmentFile.storeOf (file : CatchmentFile) (index : IdIndexBuildResult) : CatchmentStore :=
  ⟨file.totalRows, index.ids, index.idRowGroups, index.validationLevelsFromOpen, file.idLevels⟩

/-- What is built of ids and levels says where the ids are, and has the levels of the file. -/
theorem exists_indexes_of_readIdsLevels (h : readIdsLevelsWithRowGroups file = .ok built) :
    (∃ groups, built.Indexes groups) ∧ ∃ levels, built.validationLevelsFromOpen = some levels ∧
      file.idLevels.map levelMap = .ok levels := by
  obtain ⟨found, hfound, h⟩ := Checks.bind_eq_ok_iff.mp h
  obtain ⟨f, hf, h⟩ := Checks.bind_eq_ok_iff.mp h
  obtain rfl := Except.ok.inj h
  rw [← withRowGroups_map] at hf
  obtain ⟨hnodup, hf⟩ := indexRowGroups_spec hf
  rw [map_fst_withRowGroups] at hnodup
  refine ⟨⟨_, List.map_flatten, hnodup, fun id rowGroup =>
    (hf id rowGroup).trans mem_withRowGroups⟩, _, rfl, ?_⟩
  rw [CatchmentFile.idLevels, hfound]
  rfl

/-- What is loaded of the index that has been written for a build: the same ids; without ids
nothing. -/
theorem load_of_ofBuild {groups : List (List UnitId)} (hindexes : built.Indexes groups)
    {etag : String} {index : IdIndex} (hindex : IdIndex.ofBuild built fileSize etag = .ok index) :
    index.load fileSize etag = none ∨
      index.load fileSize etag = some ⟨built.ids, built.idRowGroups, none⟩ := by
  by_cases hids : built.ids = []
  · left
    rw [IdIndex.load, if_neg]
    rintro ⟨-, -, hne⟩
    refine hne ?_
    rw [(IdIndex.of_ofBuild hindex).1, hids]
    rfl
  · right
    rw [hindexes.load_eq hids hindex, if_pos ⟨rfl, rfl⟩]

/-- The files after an index has been written, if there is one to write. -/
def CacheFiles.withIdIndex (files : CacheFiles) (dir : CachePath) :
    Except SessionError IdIndex → CacheFiles
  | .ok index => files.writeIdIndex dir index
  | .error _ => files

/-- An index that can be encoded is written; the outcome does not change the run. -/
theorem exists_run_writeIdIndex {etag : String} :
    ∃ outcome, run (writeIdIndex dir built fileSize etag) files []
      = (outcome, files.withIdIndex dir.resolve (IdIndex.ofBuild built fileSize etag), []) := by
  rw [writeIdIndex, (reads_attempt _).run_bind]
  cases IdIndex.ofBuild built fileSize etag with
  | ok index => exact ⟨.ok (), rfl⟩
  | error e => exact ⟨.error e, rfl⟩

section Run

variable {etag : String}

private theorem run_readOrBuildIdIndex :
    run (readOrBuildIdIndex file fileSize (some etag) dir) files []
      = run (match (files.idIndex dir.resolve).bind (·.load fileSize etag) with
        | some index => pure index
        | none => do
          Faulty.attempt (.artifactParse "catchments.parquet")
          let built ← Faulty.ofExcept (readIdsLevelsWithRowGroups file)
          let _ ← Faulty.observe (writeIdIndex dir built fileSize etag)
          pure built) files [] := by
  rw [readOrBuildIdIndex, run_store_bind, run_succeeds_bind]
  rfl

/-- An index that is loaded is used as it is. -/
theorem run_readOrBuildIdIndex_of_load
    (hload : (files.idIndex dir.resolve).bind (·.load fileSize etag) = some index) :
    run (readOrBuildIdIndex file fileSize (some etag) dir) files [] = (.ok index, files, []) := by
  rw [run_readOrBuildIdIndex, hload]
  rfl

theorem run_readOrBuildIdIndex_of_error
    (hload : (files.idIndex dir.resolve).bind (·.load fileSize etag) = none) {e : SessionError}
    (hbuilt : readIdsLevelsWithRowGroups file = .error e) :
    run (readOrBuildIdIndex file fileSize (some etag) dir) files [] = (.error e, files, []) := by
  rw [run_readOrBuildIdIndex, hload, hbuilt]
  rfl

/-- An index that is not found is built and written. -/
theorem run_readOrBuildIdIndex_of_build
    (hload : (files.idIndex dir.resolve).bind (·.load fileSize etag) = none)
    (hbuilt : readIdsLevelsWithRowGroups file = .ok built) :
    run (readOrBuildIdIndex file fileSize (some etag) dir) files []
      = (.ok built, files.withIdIndex dir.resolve (IdIndex.ofBuild built fileSize etag), []) := by
  obtain ⟨outcome, hwrite⟩ := @exists_run_writeIdIndex files fileSize dir built etag
  rw [run_readOrBuildIdIndex, hload]
  dsimp only
  rw [(reads_attempt _).run_bind, hbuilt, (reads_ofExcept _).run_bind,
    run_bind_of_ok (run_observe _), hwrite]
  rfl

end Run

/-- Two stores over one file that neither validation nor queries tell apart: they have the same rows
and ids, find the same row group for every id, and come to the same levels, whether the levels have
been kept since the open or are read again. -/
structure SameStore (store store' : CatchmentStore) : Prop where
  totalRows : store'.totalRows = store.totalRows
  ids : store'.readAllIds = store.readAllIds
  idRowGroups : store'.idRowGroups = store.idRowGroups
  idLevels : store'.readIdLevels = store.readIdLevels
  levels : store'.catchmentLevels = store.catchmentLevels

/-- The index of a file is read again, and what is written is not changed any more. -/
theorem readOrBuildIdIndex_again
    (h : run (readOrBuildIdIndex file fileSize fileEtag dir) files []
      = (.ok index, files', faults')) :
    faults' = [] ∧ SameEntries files files' ∧ files'.validated = files.validated ∧
      ∃ index', SameStore (file.storeOf index) (file.storeOf index') ∧
        ∀ files'', files''.idIndex = files'.idIndex →
          run (readOrBuildIdIndex file fileSize fileEtag dir) files'' []
            = (.ok index', files'', []) := by
  cases fileEtag with
  | none =>
    have hreads : Reads (readOrBuildIdIndex file fileSize none dir)
        (readAllIdsWithRowGroups file) := fun s => ((reads_attempt _).run_bind s).trans rfl
    rw [hreads files] at h
    obtain ⟨hindex, hfiles⟩ := Prod.mk.inj h
    obtain ⟨rfl, rfl⟩ := Prod.mk.inj hfiles
    exact ⟨rfl, ⟨rfl, rfl, rfl⟩, rfl, index, ⟨rfl, rfl, rfl, rfl, rfl⟩, fun files'' _ => by
      rw [hreads files'', hindex]⟩
  | some etag =>
    cases hload : (files.idIndex dir.resolve).bind (·.load fileSize etag) with
    | some loaded =>
      rw [run_readOrBuildIdIndex_of_load hload] at h
      obtain ⟨hindex, hfiles⟩ := Prod.mk.inj h
      obtain rfl := Except.ok.inj hindex
      obtain ⟨rfl, rfl⟩ := Prod.mk.inj hfiles
      exact ⟨rfl, ⟨rfl, rfl, rfl⟩, rfl, loaded, ⟨rfl, rfl, rfl, rfl, rfl⟩, fun files'' hsame =>
        run_readOrBuildIdIndex_of_load (by rw [hsame, hload])⟩
    | none =>
      cases hbuilt : readIdsLevelsWithRowGroups file with
      | error e =>
        rw [run_readOrBuildIdIndex_of_error hload hbuilt] at h
        cases congrArg Prod.fst h
      | ok built =>
        rw [run_readOrBuildIdIndex_of_build hload hbuilt] at h
        obtain ⟨hbuilt', hfiles⟩ := Prod.mk.inj h
        obtain rfl := Except.ok.inj hbuilt'
        obtain ⟨rfl, rfl⟩ := Prod.mk.inj hfiles
        obtain ⟨⟨groups, hindexes⟩, levels, hlevels, hfileLevels⟩ :=
          exists_indexes_of_readIdsLevels hbuilt
        cases hindex : IdIndex.ofBuild built fileSize etag with
        | error e =>
          refine ⟨rfl, ⟨rfl, rfl, rfl⟩, rfl, built, ⟨rfl, rfl, rfl, rfl, rfl⟩,
            fun files'' hsame => ?_⟩
          have hload' : (files''.idIndex dir.resolve).bind (·.load fileSize etag) = none := by
            rw [hsame]
            exact hload
          rw [run_readOrBuildIdIndex_of_build hload' hbuilt, hindex]
          rfl
        | ok stored =>
          have hstored : ∀ files'' : CacheFiles,
              files''.idIndex = (files.withIdIndex dir.resolve (.ok stored)).idIndex →
              files''.idIndex dir.resolve = some stored := fun files'' hsame =>
            (congrFun hsame _).trans (Function.update_self ..)
          refine ⟨rfl, ⟨rfl, rfl, rfl⟩, rfl, ?_⟩
          rcases load_of_ofBuild hindexes hindex with hnone | hsome
          · -- an index without rows is built again, and written as it was
            refine ⟨built, ⟨rfl, rfl, rfl, rfl, rfl⟩, fun files'' hsame => ?_⟩
            have hload' : (files''.idIndex dir.resolve).bind (·.load fileSize etag) = none := by
              rw [hstored files'' hsame, Option.bind_some, hnone]
            rw [run_readOrBuildIdIndex_of_build hload' hbuilt, hindex]
            refine congrArg (fun s => (Except.ok built, s, [])) ?_
            exact CacheFiles.ext rfl rfl rfl (update_of_eq (hstored files'' hsame)) rfl
          · refine ⟨⟨built.ids, built.idRowGroups, none⟩, ⟨rfl, rfl, rfl, rfl, ?_⟩,
              fun files'' hsame => run_readOrBuildIdIndex_of_load ?_⟩
            · rw [CatchmentStore.catchmentLevels, CatchmentStore.catchmentLevels]
              change file.idLevels.map levelMap = _
              rw [CatchmentFile.storeOf, hlevels, hfileLevels]
            · rw [hstored files'' hsame, Option.bind_some, hsome]

end IdIndex

/-- The catchments are opened again. -/
theorem openRemote_again {dir : CachePath} {store : CatchmentStore} {found : Option ArtifactMeta}
    (h : run (CatchmentStore.openRemote readers remote source dir) files []
      = (.ok (store, found), files', faults')) :
    faults' = [] ∧ SameEntries files files' ∧ files'.validated = files.validated ∧
      ∃ store', SameStore store store' ∧ ∀ files'', files''.idIndex = files'.idIndex →
        run (CatchmentStore.openRemote readers remote source dir) files'' []
          = (.ok (store', found), files'', []) := by
  obtain ⟨head, hhead, h⟩ := reads_remoteObjectMeta.exists_of_run_bind h
  obtain ⟨object, hobject, h⟩ := reads_getObject.exists_of_run_bind h
  obtain ⟨file, hfile, h⟩ := (reads_ofExcept _).exists_of_run_bind h
  obtain ⟨index, files₁, faults₁, hindex, h⟩ := exists_of_run_bind h
  obtain ⟨hopened, hfiles⟩ := Prod.mk.inj h
  obtain ⟨rfl, rfl⟩ := Prod.mk.inj (Except.ok.inj hopened)
  obtain ⟨rfl, rfl⟩ := Prod.mk.inj hfiles
  obtain ⟨rfl, hentries, hvalidated, index', hstore, hagain⟩ := readOrBuildIdIndex_again hindex
  refine ⟨rfl, hentries, hvalidated, file.storeOf index', hstore, fun files'' hsame => ?_⟩
  have hhead' := @reads_remoteObjectMeta remote source "catchments.parquet" "catchments.parquet"
  have hobject' := @reads_getObject remote source "catchments.parquet" "catchments.parquet"
  rw [hhead] at hhead'
  rw [hobject] at hobject'
  rw [CatchmentStore.openRemote, hhead'.run_bind, hobject'.run_bind, hfile,
    (reads_ofExcept _).run_bind, run_bind_of_ok (hagain files'' hsame)]
  rfl

/-! ### Tokens and snap stores -/

/-- The stored token is that of the inputs. -/
def CacheFiles.tokenMatches (files : CacheFiles) (dir : CachePath)
    (inputs : ValidationSidecarInputs) : Bool :=
  match inputs.manifest, inputs.graph, inputs.catchments, inputs.snaps with
  | some manifest, some graph, some catchments, some snaps =>
    (files.validated dir).any fun sidecar =>
      sidecar.matches inputs.hfxFormatVersion manifest graph catchments snaps
  | _, _, _, _ => false

/-- Looking for a token writes nothing. -/
theorem run_validationSidecarMatches {fabricName adapterVersion : String}
    {inputs : ValidationSidecarInputs} :
    run (validationSidecarMatches cache fabricName adapterVersion inputs) files []
      = (.ok (files.tokenMatches (cache.artifactCacheDir fabricName adapterVersion).resolve inputs),
          files, []) := by
  obtain ⟨version, manifest, graph, catchments, snaps⟩ := inputs
  cases manifest <;> cases graph <;> cases catchments <;> cases snaps <;> rfl

/-- The inputs have a token: all artifacts have ETags. -/
def ValidationSidecarInputs.Complete (inputs : ValidationSidecarInputs) : Prop :=
  inputs.manifest.isSome ∧ inputs.graph.isSome ∧ inputs.catchments.isSome ∧ inputs.snaps.isSome

instance (inputs : ValidationSidecarInputs) : Decidable inputs.Complete :=
  inferInstanceAs (Decidable (_ ∧ _))

/-- Without an ETag for every artifact no token is matched. -/
theorem complete_of_tokenMatches {dir : CachePath} {inputs : ValidationSidecarInputs}
    (h : files.tokenMatches dir inputs) : inputs.Complete := by
  unfold CacheFiles.tokenMatches at h
  split at h
  · next hmanifest hgraph hcatchments hsnaps =>
    rw [ValidationSidecarInputs.Complete, hmanifest, hgraph, hcatchments, hsnaps]
    exact ⟨rfl, rfl, rfl, rfl⟩
  · cases h

/-- There is a token to store exactly when all artifacts have ETags. -/
theorem validationSidecarForCurrentMetadata_eq_none_iff {inputs : ValidationSidecarInputs} :
    validationSidecarForCurrentMetadata inputs = none ↔ ¬inputs.Complete := by
  obtain ⟨version, manifest, graph, catchments, snaps⟩ := inputs
  cases manifest <;> cases graph <;> cases catchments <;> cases snaps <;>
    simp [validationSidecarForCurrentMetadata, ValidationSidecarInputs.Complete]

/-- A token that has been stored is matched. -/
theorem tokenMatches_writeValidated {dir : CachePath} {inputs : ValidationSidecarInputs}
    {sidecar : ValidationSidecar}
    (h : validationSidecarForCurrentMetadata inputs = some sidecar) :
    (files.writeValidated dir sidecar).tokenMatches dir inputs = true := by
  simp only [validationSidecarForCurrentMetadata, Option.bind_eq_bind, Option.bind_eq_some_iff,
    Option.some.injEq] at h
  obtain ⟨manifest, hmanifest, graph, hgraph, catchments, hcatchments, snaps, hsnaps, rfl⟩ := h
  have hstored : (files.writeValidated dir (.current inputs.hfxFormatVersion manifest graph
      catchments snaps)).validated dir
        = some (.current inputs.hfxFormatVersion manifest graph catchments snaps) :=
    Function.update_self ..
  rw [CacheFiles.tokenMatches, hmanifest, hgraph, hcatchments, hsnaps]
  dsimp only
  rw [hstored]
  simp [ValidationSidecar.matches, ValidationSidecar.current]

/-- A snap store without the references that validation reads. -/
def DeclaredSnapStore.unloaded (declared : DeclaredSnapStore) : DeclaredSnapStore :=
  ⟨declared.decl, ⟨declared.store.file, .notLoaded⟩⟩

/-- A snap store that has been opened can be opened without reading references. -/
theorem openedSnapStore_lazyMetadata {mode : SnapOpenMode} {decl : SnapDecl}
    {declared : DeclaredSnapStore}
    (h : openedSnapStore readers remote source mode decl = .ok declared) :
    openedSnapStore readers remote source .lazyMetadata decl = .ok declared.unloaded := by
  simp only [openedSnapStore, Checks.bind_eq_ok_iff, Except.ok.injEq] at h ⊢
  obtain ⟨object, hobject, file, hfile, store, hstore, rfl⟩ := h
  refine ⟨object, hobject, file, hfile, ⟨file, .notLoaded⟩, rfl, ?_⟩
  cases mode with
  | lazyMetadata =>
    obtain rfl := Except.ok.inj hstore
    rfl
  | coldMembershipValidation =>
    obtain ⟨refs, -, hstore⟩ := Checks.bind_eq_ok_iff.mp hstore
    obtain rfl := Except.ok.inj hstore
    rfl

theorem mapM_openedSnapStore_lazyMetadata {mode : SnapOpenMode}
    {heads : List (SnapDecl × ObjectMeta)} {stores : List DeclaredSnapStore}
    (h : heads.mapM (fun head => openedSnapStore readers remote source mode head.1) = .ok stores) :
    heads.mapM (fun head => openedSnapStore readers remote source .lazyMetadata head.1)
      = .ok (stores.map DeclaredSnapStore.unloaded) := by
  rw [Checks.mapM_eq_ok_iff] at h ⊢
  rw [List.forall₂_map_right_iff]
  exact h.imp fun _ _ => openedSnapStore_lazyMetadata

/-! ### The session -/

/-- Two sessions over the same files. -/
structure SameSession (session session' : DatasetSession) : Prop where
  manifest : session'.manifest = session.manifest
  auxDeclarations : session'.auxDeclarations = session.auxDeclarations
  graph : session'.graph = session.graph
  catchments : SameStore session.catchments session'.catchments
  snapStores : session'.snapStores.map DeclaredSnapStore.unloaded
    = session.snapStores.map DeclaredSnapStore.unloaded

/-- What is done once everything has been opened. -/
def finishOpen (cache : RemoteArtifactCache) (session : DatasetSession)
    (inputs : ValidationSidecarInputs) (validationHit : Bool) : CacheM RemoteOpen :=
  let fabricName := session.manifest.fabricName
  let adapterVersion := session.manifest.adapterVersion
  if validationHit then pure ⟨session, inputs, validationHit⟩
  else do
    Faulty.ofExcept (validateReferences session)
    match validationSidecarForCurrentMetadata inputs with
    | some sidecar => writeValidationSidecarBestEffort cache fabricName adapterVersion sidecar
    | none => pure ()
    pure ⟨session, inputs, validationHit⟩

/-- The metadata of the declared snap files. -/
def snapHeads (remote : Remote) (source : Source) (decls : List SnapDecl) :
    Except SessionError (List (SnapDecl × ObjectMeta)) :=
  decls.mapM fun decl => remote.found source decl.snap "snap.parquet" >>= fun object =>
    .ok (decl, ⟨object.etag, object.bytes.length⟩)

/-- The mode in which snap stores are opened. -/
def openMode (validationHit : Bool) : SnapOpenMode :=
  if validationHit then .lazyMetadata else .coldMembershipValidation

/-- Everything that an open opens, and the files it leaves so far. -/
structure Staged (readers : DatasetReaders) (cache : RemoteArtifactCache) (remote : Remote)
    (source : Source) (files files' : CacheFiles) (session : DatasetSession)
    (inputs : ValidationSidecarInputs) (validationHit : Bool) : Prop where
  intro ::
  stages : ∃ manifestMeta graphMeta files₁ catchmentsMeta heads,
    Reads (remoteArtifactMeta remote source "manifest.json") (.ok manifestMeta) ∧
    Reads (remoteArtifactMeta remote source "graph.parquet") (.ok graphMeta) ∧
    run (loadManifestGraph readers cache remote source) files []
      = (.ok ⟨session.manifest, session.auxDeclarations, session.graph⟩, files₁, []) ∧
    run (CatchmentStore.openRemote readers remote source (cache.artifactCacheDir
      session.manifest.fabricName session.manifest.adapterVersion)) files₁ []
      = (.ok (session.catchments, catchmentsMeta), files', []) ∧
    snapHeads remote source session.auxDeclarations.snaps = .ok heads ∧
    inputs = ⟨session.manifest.formatVersion, manifestMeta, graphMeta, catchmentsMeta,
      heads.mapM fun head => ArtifactMeta.fromParts head.1.snap head.2⟩ ∧
    validationHit = files'.tokenMatches (cache.artifactCacheDir session.manifest.fabricName
      session.manifest.adapterVersion).resolve inputs ∧
    heads.mapM (fun head => openedSnapStore readers remote source (openMode validationHit) head.1)
      = .ok session.snapStores

/-- The metadata of the snap files is read without writing anything. -/
theorem reads_snapHeads (decls : List SnapDecl) :
    Reads (decls.mapM fun decl => do
      let head ← remoteObjectMeta remote source decl.snap "snap.parquet"
      pure (decl, head)) (snapHeads remote source decls) := by
  refine Reads.mapM fun decl => ?_
  have hbind := (@reads_remoteObjectMeta remote source decl.snap "snap.parquet").bind fun head =>
    (reads_pure (decl, head) : Reads (pure (decl, head) : CacheM (SnapDecl × ObjectMeta)) _)
  cases hfound : remote.found source decl.snap "snap.parquet" with
  | error e =>
    rw [hfound] at hbind
    exact hbind
  | ok object =>
    rw [hfound] at hbind
    exact hbind

theorem reads_snapStores (mode : SnapOpenMode) (heads : List (SnapDecl × ObjectMeta)) :
    Reads (heads.mapM fun (decl, _) => openSnapStore readers remote source mode decl)
      (heads.mapM fun head => openedSnapStore readers remote source mode head.1) :=
  Reads.mapM fun head => reads_openSnapStore mode head.1

section Session

variable {session : DatasetSession} {inputs : ValidationSidecarInputs} {validationHit : Bool}
  {opened : RemoteOpen}

/-- An open whose stages are known does what is left to do after them. -/
theorem Staged.run_eq
    (h : Staged readers cache remote source files files' session inputs validationHit) :
    run (openRemoteWithStats readers cache remote source) files []
      = run (finishOpen cache session inputs validationHit) files' [] := by
  obtain ⟨manifestMeta, graphMeta, files₁, catchmentsMeta, heads, hmanifest, hgraph, hloaded,
    hcatchments, hheads, rfl, rfl, hstores⟩ := h
  have hreads := @reads_snapHeads remote source session.auxDeclarations.snaps
  rw [hheads] at hreads
  rw [openRemoteWithStats, hmanifest.run_bind, hgraph.run_bind, run_bind_of_ok hloaded]
  dsimp only
  rw [run_bind_of_ok hcatchments]
  dsimp only
  rw [hreads.run_bind, run_bind_of_ok run_validationSidecarMatches]
  have hopen : Reads _ (.ok session.snapStores) := hstores ▸ reads_snapStores _ heads
  exact hopen.run_bind files'

/-- An open that succeeds has opened everything. -/
theorem exists_staged (h : run (openRemoteWithStats readers cache remote source) files []
      = (.ok opened, files', faults')) :
    ∃ session inputs validationHit files₂,
      Staged readers cache remote source files files₂ session inputs validationHit ∧
        run (finishOpen cache session inputs validationHit) files₂ []
          = (.ok opened, files', faults') := by
  have hrun := h
  obtain ⟨manifestMeta, hmanifest⟩ := @exists_reads_remoteArtifactMeta remote source "manifest.json"
  obtain ⟨graphMeta, hgraph⟩ := @exists_reads_remoteArtifactMeta remote source "graph.parquet"
  rw [openRemoteWithStats, hmanifest.run_bind, hgraph.run_bind] at h
  obtain ⟨loaded, files₁, faults₁, hloaded, h⟩ := exists_of_run_bind h
  obtain ⟨rfl, -⟩ := loadManifestGraph_again hloaded
  dsimp only at h
  obtain ⟨⟨catchments, catchmentsMeta⟩, files₂, faults₂, hcatchments, h⟩ := exists_of_run_bind h
  obtain ⟨rfl, -⟩ := openRemote_again hcatchments
  dsimp only at h
  obtain ⟨heads, hheads, h⟩ := (reads_snapHeads _).exists_of_run_bind h
  rw [run_bind_of_ok run_validationSidecarMatches] at h
  obtain ⟨snapStores, hstores, -⟩ := (reads_snapStores _ heads).exists_of_run_bind h
  have hstaged : Staged readers cache remote source files files₂
      ⟨loaded.manifest, loaded.aux, loaded.graph, catchments, snapStores⟩ _ _ :=
    .intro ⟨manifestMeta, graphMeta, files₁, catchmentsMeta, heads, hmanifest, hgraph, hloaded,
      hcatchments, hheads, rfl, rfl, hstores⟩
  exact ⟨_, _, _, files₂, hstaged, hstaged.run_eq.symm.trans hrun⟩

/-- Everything is opened again, from any files that still have what has been opened. -/
theorem Staged.again {files₂ : CacheFiles}
    (h : Staged readers cache remote source files files' session inputs validationHit)
    (hentries : SameEntries files' files₂) (hindex : files₂.idIndex = files'.idIndex)
    (hhit : validationHit → files₂.tokenMatches (cache.artifactCacheDir
      session.manifest.fabricName session.manifest.adapterVersion).resolve inputs) :
    ∃ session' validationHit', Staged readers cache remote source files₂ files₂ session' inputs
        validationHit' ∧
      SameSession session session' ∧
      validationHit' = files₂.tokenMatches (cache.artifactCacheDir session.manifest.fabricName
        session.manifest.adapterVersion).resolve inputs ∧
      (validationHit' = false → session'.snapStores = session.snapStores) := by
  obtain ⟨manifestMeta, graphMeta, files₁, catchmentsMeta, heads, hmanifest, hgraph, hloaded,
    hcatchments, hheads, rfl, hmatches, hstores⟩ := h
  obtain ⟨-, -, -, hloadAgain⟩ := loadManifestGraph_again hloaded
  obtain ⟨-, hentries₁, -, store', hstore, hopenAgain⟩ := openRemote_again hcatchments
  have hentries₂ : SameEntries files₁ files₂ := ⟨hentries.manifest.trans hentries₁.manifest,
    hentries.graph.trans hentries₁.graph, hentries.sources.trans hentries₁.sources⟩
  generalize hinputs : ValidationSidecarInputs.mk session.manifest.formatVersion manifestMeta
    graphMeta catchmentsMeta (heads.mapM fun head => ArtifactMeta.fromParts head.1.snap head.2)
      = inputs at *
  cases hhit' : files₂.tokenMatches (cache.artifactCacheDir session.manifest.fabricName
      session.manifest.adapterVersion).resolve inputs with
  | true =>
    refine ⟨{ session with
      catchments := store'
      snapStores := session.snapStores.map DeclaredSnapStore.unloaded }, true, ?_,
      ⟨rfl, rfl, rfl, hstore, ?_⟩, rfl, fun hfalse => by cases hfalse⟩
    · exact .intro ⟨manifestMeta, graphMeta, files₂, catchmentsMeta, heads, hmanifest, hgraph,
        hloadAgain files₂ hentries₂, hopenAgain files₂ hindex, hheads, hinputs.symm, hhit'.symm,
        mapM_openedSnapStore_lazyMetadata hstores⟩
    · rw [List.map_map]
      rfl
  | false =>
    have hmiss : validationHit = false := Bool.eq_false_iff.mpr fun hit => by
      rw [hhit hit] at hhit'
      cases hhit'
    rw [hmiss] at hstores
    exact ⟨{ session with catchments := store' }, false,
      .intro ⟨manifestMeta, graphMeta, files₂, catchmentsMeta, heads, hmanifest, hgraph,
        hloadAgain files₂ hentries₂, hopenAgain files₂ hindex, hheads, hinputs.symm, hhit'.symm,
        hstores⟩,
      ⟨rfl, rfl, rfl, hstore, rfl⟩, rfl, fun _ => rfl⟩

/-- Validation does not tell the sessions apart. -/
theorem validateReferences_congr {session' : DatasetSession} (h : SameSession session session')
    (hstores : session'.snapStores = session.snapStores) :
    validateReferences session' = validateReferences session := by
  rw [validateReferences, validateReferences, h.manifest, h.graph, hstores,
    validateGraphCatchments_congr h.catchments.totalRows h.catchments.ids h.catchments.levels]

/-- **Opening again.** After an open that succeeds without faults, the next one without faults
returns the same session, with the same inputs of its token; referential validation is skipped
exactly when all artifacts have ETags; and the files of the cache stay as they are, so that every
later open does the same. -/
theorem openRemoteWithStats_again
    (h : run (openRemoteWithStats readers cache remote source) files []
      = (.ok opened, files', faults')) :
    ∃ opened', run (openRemoteWithStats readers cache remote source) files' []
        = (.ok opened', files', []) ∧
      SameSession opened.session opened'.session ∧ opened'.inputs = opened.inputs ∧
      (opened'.validationHit = true ↔ opened.inputs.Complete) := by
  obtain ⟨session, inputs, validationHit, files₂, hstaged, hfinish⟩ := exists_staged h
  have hmatches : validationHit = files₂.tokenMatches (cache.artifactCacheDir
      session.manifest.fabricName session.manifest.adapterVersion).resolve inputs := by
    obtain ⟨_, _, _, _, _, -, -, -, -, -, -, hmatches, -⟩ := hstaged
    exact hmatches
  -- what is left of an open whose token is matched
  have hhit : ∀ {session' : DatasetSession} {files'' : CacheFiles},
      run (finishOpen cache session' inputs true) files'' []
        = (.ok ⟨session', inputs, true⟩, files'', []) := rfl
  cases hhit' : validationHit with
  | true =>
    rw [hhit'] at hfinish hstaged hmatches
    rw [hhit] at hfinish
    obtain ⟨hopened, hfiles⟩ := Prod.mk.inj hfinish
    obtain rfl := Except.ok.inj hopened
    obtain ⟨rfl, rfl⟩ := Prod.mk.inj hfiles
    obtain ⟨session', _, hstaged', hsame, rfl, -⟩ :=
      hstaged.again ⟨rfl, rfl, rfl⟩ rfl fun _ => hmatches.symm
    rw [← hmatches] at hstaged'
    exact ⟨_, hstaged'.run_eq.trans hhit, hsame, rfl,
      iff_of_true rfl (complete_of_tokenMatches hmatches.symm)⟩
  | false =>
    rw [hhit'] at hfinish hstaged hmatches
    obtain ⟨_, hvalid, hfinish⟩ := (reads_ofExcept _).exists_of_run_bind hfinish
    cases hsidecar : validationSidecarForCurrentMetadata inputs with
    | some sidecar =>
      -- the token that has been stored is matched
      rw [hsidecar] at hfinish
      obtain ⟨hopened, hfiles⟩ := Prod.mk.inj hfinish
      obtain rfl := Except.ok.inj hopened
      obtain ⟨rfl, -⟩ := Prod.mk.inj hfiles
      have hstored := @tokenMatches_writeValidated files₂ (cache.artifactCacheDir
        session.manifest.fabricName session.manifest.adapterVersion).resolve _ _ hsidecar
      obtain ⟨session', _, hstaged', hsame, rfl, -⟩ :=
        @Staged.again _ _ _ _ _ _ _ _ _ (files₂.writeValidated _ sidecar) hstaged ⟨rfl, rfl, rfl⟩
          rfl fun h => by cases h
      rw [hstored] at hstaged'
      exact ⟨_, hstaged'.run_eq.trans hhit, hsame, rfl,
        iff_of_true rfl (complete_of_tokenMatches hstored)⟩
    | none =>
      rw [hsidecar] at hfinish
      obtain ⟨hopened, hfiles⟩ := Prod.mk.inj hfinish
      obtain rfl := Except.ok.inj hopened
      obtain ⟨rfl, -⟩ := Prod.mk.inj hfiles
      have hincomplete := validationSidecarForCurrentMetadata_eq_none_iff.mp hsidecar
      obtain ⟨session', _, hstaged', hsame, rfl, hstores⟩ :=
        hstaged.again ⟨rfl, rfl, rfl⟩ rfl fun h => by cases h
      rw [← hmatches] at hstaged' hstores
      refine ⟨⟨session', inputs, false⟩, hstaged'.run_eq.trans ?_, hsame, rfl,
        iff_of_false Bool.false_ne_true hincomplete⟩
      rw [finishOpen, if_neg Bool.false_ne_true, validateReferences_congr hsame (hstores rfl),
        hvalid, hsidecar]
      rfl

/-- Two opens of one source: the second skips validation. -/
theorem openRemoteWithStats_again_token : ∃ opened files' faults' opened',
    run (openRemoteWithStats staleReaders ⟨["cache"]⟩ (staleRemote "m1" 1) ⟨"s3://a", "data"⟩)
      .empty [] = (.ok opened, files', faults') ∧
    run (openRemoteWithStats staleReaders ⟨["cache"]⟩ (staleRemote "m1" 1) ⟨"s3://a", "data"⟩)
      files' [] = (.ok opened', files', []) ∧ opened'.validationHit = true := by
  have hread : (run (openRemoteWithStats staleReaders ⟨["cache"]⟩ (staleRemote "m1" 1)
      ⟨"s3://a", "data"⟩) .empty []).1.toOption.map (fun opened =>
        decide opened.inputs.Complete) = some true := by
    decide +kernel
  rcases hrun : run (openRemoteWithStats staleReaders ⟨["cache"]⟩ (staleRemote "m1" 1)
    ⟨"s3://a", "data"⟩) .empty [] with ⟨_ | opened, files', faults'⟩
  · rw [hrun] at hread
    exact absurd hread (by simp [Except.toOption])
  · rw [hrun] at hread
    obtain ⟨opened', hagain, -, -, hhit⟩ := openRemoteWithStats_again hrun
    exact ⟨opened, files', faults', opened', rfl, hagain,
      hhit.mpr (of_decide_eq_true (Option.some.inj hread))⟩

end Session

end WatershedDelineation
