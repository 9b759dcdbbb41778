import WatershedDelineation.Session.ArtifactCacheRuns
import WatershedDelineation.Session.RemoteOpen

/-!
# Skipping referential validation

Runs of opens of remote datasets that share a cache directory, with objects rewritten in between.
An open that finds the validation token of the current artifacts skips referential validation.
That is sound (`SkipSound`) as long as the manifest and the graph that an open takes from the
cache, and the ids it takes from an index file, are those of the artifacts at that time
(`FreshCache`, `skipSound_of_freshRun`). The cache does not see to that: the token is made of the
metadata of the artifacts, but the manifest and the graph are those that were cached under the
same names at any time before (`not_skipSound_stale`).
-/

namespace WatershedDelineation

variable {readers : DatasetReaders} {cache : RemoteArtifactCache}
  {content : ArtifactMeta → List UInt8} {remote : Remote} {source : Source} {files : CacheFiles}

/-- Path, ETag and size fix the content of an object, by either of the paths that tokens have for
it. -/
def Identified (content : ArtifactMeta → List UInt8) (remote : Remote) : Prop :=
  ∀ source artifact object etag, remote.object source artifact = some object →
    object.etag = some etag → content ⟨artifact, etag, object.bytes.length⟩ = object.bytes ∧
      content ⟨remoteArtifactPath source.remoteRoot artifact, etag, object.bytes.length⟩
        = object.bytes

/-- The references of a snap file are valid: validation of a cold store of it succeeds. -/
def ColdValid (file : SnapFile) (decl : SnapDecl) (levels : UnitId → Option Level) : Prop :=
  ∃ store, SnapStore.openObject file .coldMembershipValidation = .ok store ∧
    validateSnapRefs store decl levels = .ok ()

/-- **Sound skipping.** An open that has skipped validation has the manifest and the graph that the
matched metadata identify, and validation would have succeeded. -/
def SkipSound (readers : DatasetReaders) (content : ArtifactMeta → List UInt8)
    (opened : RemoteOpen) : Prop :=
  opened.validationHit →
    (∃ manifest graph, opened.inputs.manifest = some manifest ∧ opened.inputs.graph = some graph ∧
      readers.readManifestFromBytes (content manifest)
        = .ok ⟨opened.session.manifest, opened.session.auxDeclarations⟩ ∧
      readers.loadGraphFromBytes (content graph) = .ok opened.session.graph) ∧
    ∃ levels, validateGraphCatchments opened.session.manifest opened.session.graph
        opened.session.catchments = .ok levels ∧
      ∀ declared ∈ opened.session.snapStores, ColdValid declared.store.file declared.decl levels

/-- What an open of a source takes from the cache is what the artifacts of the source hold: the
manifest and the graph, and the ids in the index file. Only artifacts with ETags matter. -/
structure FreshCache (readers : DatasetReaders) (cache : RemoteArtifactCache) (remote : Remote)
    (files : CacheFiles) (source : Source) : Prop where
  entry : ∀ dir cached manifest graph, cache.indexedDir files source = some dir →
    RemoteArtifactCache.entryAt readers.toArtifactReaders files dir = some cached →
    remote.object source "manifest.json" = some manifest → manifest.etag.isSome →
    remote.object source "graph.parquet" = some graph → graph.etag.isSome →
    readers.readManifestFromBytes manifest.bytes = .ok ⟨cached.manifest, cached.aux⟩ ∧
      readers.loadGraphFromBytes graph.bytes = .ok cached.graph
  idIndex : ∀ manifest parsed catchments etag index,
    remote.object source "manifest.json" = some manifest → manifest.etag.isSome →
    readers.readManifestFromBytes manifest.bytes = .ok parsed →
    remote.object source "catchments.parquet" = some catchments → catchments.etag = some etag →
    (files.idIndex (cache.artifactCacheDir parsed.manifest.fabricName
      parsed.manifest.adapterVersion).resolve).bind (·.load catchments.bytes.length etag)
        = some index →
    ∃ file groups, readers.openCatchments catchments.bytes = .ok file ∧
      file.idLevelGroups = .ok groups ∧ index.ids = groups.flatten.map CatchmentIdLevelRow.id

/-! ### Tokens -/

/-- The store of a catchments file whose row groups have these ids and levels. -/
def CatchmentFile.store (file : CatchmentFile) (groups : List (List CatchmentIdLevelRow)) :
    CatchmentStore :=
  ⟨file.totalRows, groups.flatten.map CatchmentIdLevelRow.id,
    fun id => groups.findIdx? (·.any (·.id = id)), none, .ok groups.flatten⟩

/-- The artifacts of a token are valid, with these contents. -/
structure ValidatedContent (readers : DatasetReaders) (content : ArtifactMeta → List UInt8)
    (sidecar : ValidationSidecar) (parsed : ParsedManifest) (graph : DrainageGraph)
    (file : CatchmentFile) (groups : List (List CatchmentIdLevelRow))
    (levels : UnitId → Option Level) : Prop where
  manifest_eq : readers.readManifestFromBytes (content sidecar.manifest) = .ok parsed
  graph_eq : readers.loadGraphFromBytes (content sidecar.graph) = .ok graph
  catchments_eq : readers.openCatchments (content sidecar.catchments) = .ok file
  groups_eq : file.idLevelGroups = .ok groups
  references : validateGraphCatchments parsed.manifest graph (file.store groups) = .ok levels
  snaps : ∀ decl ∈ parsed.aux.snaps, ∀ snap ∈ sidecar.snaps, snap.path = decl.snap →
    ∃ snapFile, readers.openSnap (content snap) = .ok snapFile ∧ ColdValid snapFile decl levels

/-- A token of valid artifacts. -/
def Certified (readers : DatasetReaders) (content : ArtifactMeta → List UInt8)
    (sidecar : ValidationSidecar) : Prop :=
  ∃ parsed graph file groups levels,
    ValidatedContent readers content sidecar parsed graph file groups levels

/-- **The invariant** of the cache: every stored token is one of valid artifacts. -/
def AllCertified (readers : DatasetReaders) (content : ArtifactMeta → List UInt8)
    (files : CacheFiles) : Prop :=
  ∀ dir sidecar, files.validated dir = some sidecar → Certified readers content sidecar

/-- Validation reads of a store the row count, the ids and the levels. -/
theorem validateGraphCatchments_congr {manifest : Manifest} {graph : DrainageGraph}
    {store store' : CatchmentStore} (hrows : store.totalRows = store'.totalRows)
    (hids : store.readAllIds = store'.readAllIds)
    (hlevels : store.catchmentLevels = store'.catchmentLevels) :
    validateGraphCatchments manifest graph store
      = validateGraphCatchments manifest graph store' := by
  rw [validateGraphCatchments, validateGraphCatchments, hrows, hids, hlevels]

/-! ### Requests -/

section Requests

variable {P E : CacheFiles → Prop} {artifact label : String}

open Faulty

theorem triple_getObject (hE : ∀ s, P s → E s) :
    Triple P (getObject remote source artifact label)
      (fun object s => remote.object source artifact = some object ∧ P s) E := by
  refine triple_attempt_bind hE ?_
  split
  · exact triple_throw hE
  · next object hobject => exact triple_pure fun s hs => ⟨hobject, hs⟩

theorem triple_remoteObjectMeta (hE : ∀ s, P s → E s) :
    Triple P (remoteObjectMeta remote source artifact label) (fun head s =>
      (∃ object, remote.object source artifact = some object ∧
        head = ⟨object.etag, object.bytes.length⟩) ∧ P s) E :=
  (triple_getObject hE).bind fun object => triple_pure fun _ ⟨hobject, hs⟩ =>
    ⟨⟨object, hobject, rfl⟩, hs⟩

/-- The metadata of an artifact with an ETag, under a path. -/
def MetaOf (remote : Remote) (source : Source) (artifact path : String) (found : ArtifactMeta) :
    Prop :=
  ∃ object etag, remote.object source artifact = some object ∧ object.etag = some etag ∧
    found = ⟨path, etag, object.bytes.length⟩

theorem metaOf_of_fromParts {path : String} {object : RemoteObject} {found : ArtifactMeta}
    (hobject : remote.object source artifact = some object)
    (h : ArtifactMeta.fromParts path ⟨object.etag, object.bytes.length⟩ = some found) :
    MetaOf remote source artifact path found := by
  obtain ⟨etag, hetag, rfl⟩ := Option.map_eq_some_iff.mp h
  exact ⟨object, etag, hobject, hetag, rfl⟩

theorem triple_remoteArtifactMeta :
    Triple P (remoteArtifactMeta remote source artifact) (fun found s =>
      (∀ found' ∈ found, MetaOf remote source artifact artifact found') ∧ P s) E := by
  let Q (outcome : Except SessionError ObjectMeta) (s : CacheFiles) : Prop :=
    (∀ head, outcome = .ok head → ∃ object, remote.object source artifact = some object ∧
      head = ⟨object.etag, object.bytes.length⟩) ∧ P s
  have hhead : Triple P (observe (remoteObjectMeta remote source artifact artifact)) Q E := by
    refine Triple.observe (Q := Q) (E := P) ?_ fun e _ hs => ⟨fun _ h => by simp at h, hs⟩
    refine (triple_remoteObjectMeta fun _ hs => hs).weaken (fun _ hs => hs) ?_ fun _ hs => hs
    rintro head s ⟨hobject, hs⟩
    exact ⟨fun _ h => Except.ok.inj h ▸ hobject, hs⟩
  refine hhead.bind fun outcome => ?_
  cases outcome with
  | error e => exact triple_pure fun s hs => ⟨fun _ h => absurd h (by simp), hs.2⟩
  | ok head =>
    refine triple_pure fun s hs => ⟨fun found hfound => ?_, hs.2⟩
    obtain ⟨object, hobject, rfl⟩ := hs.1 head rfl
    exact metaOf_of_fromParts hobject hfound

theorem triple_readRemoteArtifact (hE : ∀ s, P s → E s) :
    Triple P (readRemoteArtifact remote source artifact) (fun bytes s =>
      (∃ object, remote.object source artifact = some object ∧ bytes = object.bytes) ∧ P s) E := by
  refine (triple_remoteObjectMeta hE).bind fun _ => triple_of_imp fun _ => ?_
  exact (triple_getObject hE).bind fun object => triple_pure fun s ⟨hobject, hs⟩ =>
    ⟨⟨object, hobject, rfl⟩, hs⟩

end Requests

/-! ### The stages of an open -/

section Stages

open Faulty

variable {P E : CacheFiles → Prop} {dir : CachePath}

/-- What an entry read for a source is: nothing, or the entry that the index of the source names. -/
theorem triple_readEntryForSource (hE : ∀ s, P s → E s) :
    Triple P (cache.readEntryForSource readers.toArtifactReaders source) (fun found s =>
      (∀ cached ∈ found, ∃ dir, cache.indexedDir s source = some dir ∧
        RemoteArtifactCache.entryAt readers.toArtifactReaders s dir = some cached) ∧ P s) E := by
  refine triple_store.bind fun s' => ?_
  split_ifs
  · exact triple_pure fun s hs => ⟨fun _ h => absurd h (by simp), hs.2⟩
  · refine triple_attempt_bind (fun s hs => hE s hs.2) ?_
    split
    · exact triple_pure fun s hs => ⟨fun _ h => absurd h (by simp), hs.2⟩
    · next dir hdir =>
      refine triple_store.bind fun s'' => triple_succeeds.bind fun readable => ?_
      split_ifs
      · refine triple_pure fun s hs => ⟨fun cached hcached => ⟨dir, ?_, ?_⟩, hs.2.2⟩
        · rw [hs.2.1]; exact hdir
        · rw [hs.1]; exact hcached
      · exact triple_pure fun s hs => ⟨fun _ h => absurd h (by simp), hs.2.2⟩

/-- Writing a manifest and a graph leaves the other files alone. -/
theorem triple_writeManifestGraph {manifest : Manifest} {manifestBytes graphBytes : List UInt8}
    (hmanifest : ∀ s dir bytes, P s → P (s.writeManifest dir bytes))
    (hgraph : ∀ s dir bytes, P s → P (s.writeGraph dir bytes))
    (hsource : ∀ s hash index, P s → P (s.writeSource hash index)) :
    Triple P (cache.writeManifestGraph source manifest manifestBytes graphBytes) (fun _ => P)
      P := by
  refine triple_attempt_bind (fun _ hs => hs) <| triple_attempt_bind (fun _ hs => hs) ?_
  refine Triple.bind (Q := fun _ => P) (triple_update fun s hs => hmanifest s _ _ hs) fun _ => ?_
  refine triple_attempt_bind (fun _ hs => hs) ?_
  refine Triple.bind (Q := fun _ => P) (triple_update fun s hs => hgraph s _ _ hs) fun _ => ?_
  refine triple_attempt_bind (fun _ hs => hs) <| triple_attempt_bind (fun _ hs => hs) ?_
  exact triple_update fun s hs => hsource s _ _ hs

/-- The manifest and the graph of an open are those of the artifacts, if these have ETags. -/
def LoadedFrom (readers : DatasetReaders) (remote : Remote) (source : Source)
    (loaded : CachedRemoteArtifacts) : Prop :=
  ∀ manifest graph, remote.object source "manifest.json" = some manifest → manifest.etag.isSome →
    remote.object source "graph.parquet" = some graph → graph.etag.isSome →
    readers.readManifestFromBytes manifest.bytes = .ok ⟨loaded.manifest, loaded.aux⟩ ∧
      readers.loadGraphFromBytes graph.bytes = .ok loaded.graph

/-- Loading the manifest and the graph: what is loaded is fresh, the tokens are as they were, and so
are the index files. -/
theorem triple_loadManifestGraph (hfresh : FreshCache readers cache remote files source) :
    Triple (fun s => s = files) (loadManifestGraph readers cache remote source)
      (fun loaded s => LoadedFrom readers remote source loaded ∧
        s.validated = files.validated ∧ s.idIndex = files.idIndex)
      (fun s => s.validated = files.validated) := by
  refine Triple.bind (triple_readEntryForSource fun s hs => by rw [hs]) fun found => ?_
  cases found with
  | some cached =>
    refine triple_pure fun s ⟨hfound, hs⟩ => ⟨?_, by rw [hs], by rw [hs]⟩
    obtain ⟨dir, hdir, hentry⟩ := hfound cached rfl
    rw [hs] at hdir hentry
    exact fun manifest graph => hfresh.entry dir cached manifest graph hdir hentry
  | none =>
    let J (s : CacheFiles) : Prop := s.validated = files.validated ∧ s.idIndex = files.idIndex
    suffices hload : Triple J _ (fun loaded s => LoadedFrom readers remote source loaded ∧ J s)
        fun s => s.validated = files.validated from
      hload.weaken (fun s hs => by rw [hs.2]; exact ⟨rfl, rfl⟩) (fun _ _ hs => hs) fun _ hs => hs
    refine (triple_readRemoteArtifact fun s hs => hs.1).bind fun manifestBytes =>
      triple_of_imp fun ⟨manifest, hmanifest, hmanifestBytes⟩ => ?_
    refine (triple_ofExcept fun s hs => hs.1).bind fun parsed => triple_of_imp fun hparsed => ?_
    refine (triple_ofExcept fun s hs => hs.1).bind fun _ => triple_of_imp fun _ => ?_
    refine (triple_readRemoteArtifact fun s hs => hs.1).bind fun graphBytes =>
      triple_of_imp fun ⟨graphObject, hgraphObject, hgraphBytes⟩ => ?_
    refine (triple_ofExcept fun s hs => hs.1).bind fun graph => triple_of_imp fun hgraph => ?_
    have hwrite : Triple J
        (cache.writeManifestGraph source parsed.manifest manifestBytes graphBytes)
        (fun _ => J) J :=
      triple_writeManifestGraph (fun _ _ _ hs => hs) (fun _ _ _ hs => hs) fun _ _ _ hs => hs
    refine (hwrite.weaken (fun _ hs => hs) (fun _ _ hs => hs) fun s hs => hs.1).bind fun _ => ?_
    -- what was read is what the source has
    refine triple_pure fun s hs => ⟨fun manifest' graph' hm _ hg _ => ?_, hs⟩
    obtain rfl := Option.some.inj (hmanifest.symm.trans hm)
    obtain rfl := Option.some.inj (hgraphObject.symm.trans hg)
    exact ⟨hmanifestBytes ▸ hparsed, hgraphBytes ▸ hgraph⟩

theorem IdIndex.validationLevelsFromOpen_of_load {index : IdIndex} {fileSize : ℕ}
    {fileEtag : String} {built : IdIndexBuildResult}
    (h : index.load fileSize fileEtag = some built) : built.validationLevelsFromOpen = none := by
  obtain ⟨-, h⟩ := Option.ite_none_right_eq_some.mp h
  obtain ⟨_, -, rfl⟩ := Option.map_eq_some_iff.mp h
  rfl

/-- The index of a file with an ETag comes from the index file or from the file itself. -/
theorem triple_readOrBuildIdIndex {file : CatchmentFile} {fileSize : ℕ} {fileEtag : Option String} :
    Triple (fun s => s.validated = files.validated ∧ s.idIndex = files.idIndex)
      (readOrBuildIdIndex file fileSize fileEtag dir) (fun built s =>
        (∀ etag ∈ fileEtag, (files.idIndex dir.resolve).bind (·.load fileSize etag) = some built ∨
          readIdsLevelsWithRowGroups file = .ok built) ∧ s.validated = files.validated)
      fun s => s.validated = files.validated := by
  cases fileEtag with
  | none =>
    refine triple_attempt_bind (fun s hs => hs.1) ?_
    refine (triple_ofExcept fun s hs => hs.1).weaken (fun _ hs => hs) (fun built s hs => ?_)
      fun _ hs => hs
    exact ⟨fun _ h => absurd h (by simp), hs.2.1⟩
  | some etag =>
    refine triple_store.bind fun s' => triple_succeeds.bind fun readable => ?_
    split
    · next built hbuilt =>
      refine triple_pure fun s ⟨hs', hs⟩ => ⟨fun etag' h => .inl ?_, hs.1⟩
      obtain rfl := Option.some.inj h
      split_ifs at hbuilt
      · rwa [← hs.2, hs']
    · refine triple_attempt_bind (fun s hs => hs.2.1) ?_
      refine (triple_ofExcept fun s hs => hs.2.1).bind fun built => triple_of_imp fun hbuilt => ?_
      have hwrite : Triple (fun s : CacheFiles => s.validated = files.validated)
          (writeIdIndex dir built fileSize etag) (fun _ s => s.validated = files.validated)
          fun s => s.validated = files.validated := by
        refine triple_attempt_bind (fun _ hs => hs) ?_
        refine (triple_ofExcept fun _ hs => hs).bind fun index => triple_of_imp fun _ => ?_
        refine triple_attempt_bind (fun _ hs => hs) ?_
        exact triple_update fun _ hs => hs
      -- an index file that cannot be written is passed over
      refine Triple.bind (Q := fun _ s => s.validated = files.validated) ?_ fun _ =>
        triple_pure fun s hs => ⟨fun etag' _ => .inr hbuilt, hs⟩
      exact (Triple.observe hwrite fun _ _ hs => hs).weaken (fun _ hs => hs.2.1) (fun _ _ hs => hs)
        fun _ hs => hs

/-- An index file with the size and the ETag of the catchments of a source holds their ids. -/
def IndexFresh (readers : DatasetReaders) (remote : Remote) (files : CacheFiles) (source : Source)
    (dir : CachePath) : Prop :=
  ∀ catchments etag built, remote.object source "catchments.parquet" = some catchments →
    catchments.etag = some etag →
    (files.idIndex dir.resolve).bind (·.load catchments.bytes.length etag) = some built →
    ∃ file groups, readers.openCatchments catchments.bytes = .ok file ∧
      file.idLevelGroups = .ok groups ∧ built.ids = groups.flatten.map CatchmentIdLevelRow.id

/-- The catchments of an open are those of the artifact: with a fresh index, and if the artifact has
an ETag, validation sees of them what the artifact holds. -/
def CatchmentsFrom (readers : DatasetReaders) (remote : Remote) (source : Source) (fresh : Prop)
    (opened : CatchmentStore × Option ArtifactMeta) : Prop :=
  ∃ object file, remote.object source "catchments.parquet" = some object ∧
    readers.openCatchments object.bytes = .ok file ∧
    opened.2 = ArtifactMeta.fromParts (remoteArtifactPath source.remoteRoot "catchments.parquet")
      ⟨object.etag, object.bytes.length⟩ ∧
    (fresh → object.etag.isSome → ∃ groups, file.idLevelGroups = .ok groups ∧
      ∀ manifest graph, validateGraphCatchments manifest graph opened.1
        = validateGraphCatchments manifest graph (file.store groups))

theorem triple_openCatchments :
    Triple (fun s => s.validated = files.validated ∧ s.idIndex = files.idIndex)
      (CatchmentStore.openRemote readers remote source dir) (fun opened s =>
        CatchmentsFrom readers remote source (IndexFresh readers remote files source dir) opened ∧
          s.validated = files.validated) fun s => s.validated = files.validated := by
  refine (triple_remoteObjectMeta fun s hs => hs.1).bind fun head => triple_of_imp ?_
  rintro ⟨object, hobject, rfl⟩
  refine (triple_getObject fun s hs => hs.1).bind fun object' => triple_of_imp fun hobject' => ?_
  obtain rfl := Option.some.inj (hobject.symm.trans hobject')
  refine (triple_ofExcept fun s hs => hs.1).bind fun file => triple_of_imp fun hfile => ?_
  refine triple_readOrBuildIdIndex.bind fun built => triple_pure fun s ⟨hbuilt, hs⟩ => ?_
  refine ⟨⟨object, file, hobject, hfile, rfl, fun hfresh hetag => ?_⟩, hs⟩
  obtain ⟨etag, hetag⟩ := Option.isSome_iff_exists.mp hetag
  rcases hbuilt etag hetag with hloaded | hread
  · obtain ⟨file', groups, hfile', hgroups, hids⟩ := hfresh object etag built hobject hetag hloaded
    obtain rfl := Except.ok.inj (hfile.symm.trans hfile')
    obtain ⟨index, -, hload⟩ := Option.bind_eq_some_iff.mp hloaded
    refine ⟨groups, hgroups, fun manifest graph =>
      validateGraphCatchments_congr rfl hids ?_⟩
    rw [CatchmentStore.catchmentLevels, IdIndex.validationLevelsFromOpen_of_load hload]
    simp only [CatchmentFile.idLevels, hgroups, CatchmentFile.store, CatchmentStore.catchmentLevels]
    rfl
  · simp only [readIdsLevelsWithRowGroups, Checks.bind_eq_ok_iff, Except.ok.injEq] at hread
    obtain ⟨groups, hgroups, _, -, rfl⟩ := hread
    exact ⟨groups, hgroups, fun manifest graph => validateGraphCatchments_congr rfl rfl rfl⟩

/-- The metadata of the declared snap artifacts. -/
def HeadsOf (remote : Remote) (source : Source) : List SnapDecl → List (SnapDecl × ObjectMeta) →
    Prop :=
  List.Forall₂ fun decl head => head.1 = decl ∧ ∃ object,
    remote.object source decl.snap = some object ∧ head.2 = ⟨object.etag, object.bytes.length⟩

/-- What identifies the snap artifacts: the metadata of each of them. -/
theorem metaOf_of_heads {decls : List SnapDecl} {heads : List (SnapDecl × ObjectMeta)}
    (h : HeadsOf remote source decls heads) {snaps : List ArtifactMeta}
    (hsnaps : (heads.mapM fun head => ArtifactMeta.fromParts head.1.snap head.2) = some snaps) :
    (∀ snap ∈ snaps, MetaOf remote source snap.path snap.path snap) ∧
      ∀ decl ∈ decls, ∃ snap ∈ snaps, snap.path = decl.snap := by
  induction h generalizing snaps with
  | nil =>
    obtain rfl := Option.some.inj hsnaps
    exact ⟨fun _ h => absurd h List.not_mem_nil, fun _ h => absurd h List.not_mem_nil⟩
  | cons hhead _ ih =>
    obtain ⟨rfl, object, hobject, hhead⟩ := hhead
    rw [List.mapM_cons] at hsnaps
    obtain ⟨snap, hsnap, hsnaps⟩ := Option.bind_eq_some_iff.mp hsnaps
    obtain ⟨rest, hrest, hsnaps⟩ := Option.bind_eq_some_iff.mp hsnaps
    obtain rfl := Option.some.inj hsnaps
    rw [hhead] at hsnap
    obtain ⟨object', etag, hobject', hetag, rfl⟩ := metaOf_of_fromParts hobject hsnap
    obtain ⟨hmeta, hdecl⟩ := ih hrest
    refine ⟨List.forall_mem_cons.mpr ⟨⟨object', etag, hobject', hetag, rfl⟩, hmeta⟩,
      List.forall_mem_cons.mpr ⟨⟨_, List.mem_cons_self, rfl⟩, fun decl hmem => ?_⟩⟩
    obtain ⟨snap, hsnap, hpath⟩ := hdecl decl hmem
    exact ⟨snap, List.mem_cons_of_mem _ hsnap, hpath⟩

theorem triple_snapHeads {decls : List SnapDecl} :
    Triple P (decls.mapM fun decl => do
        let head ← remoteObjectMeta remote source decl.snap "snap.parquet"
        pure (decl, head))
      (fun heads s => HeadsOf remote source decls heads ∧ P s) P :=
  triple_mapM fun _ _ => (triple_remoteObjectMeta fun _ hs => hs).bind fun _ =>
    triple_pure fun _ hs => ⟨⟨rfl, hs.1⟩, hs.2⟩

/-- A declared store over the file of its artifact, opened in a mode. -/
def StoreOf (readers : DatasetReaders) (remote : Remote) (source : Source) (mode : SnapOpenMode)
    (decl : SnapDecl) (declared : DeclaredSnapStore) : Prop :=
  declared.decl = decl ∧ ∃ object, remote.object source decl.snap = some object ∧
    readers.openSnap object.bytes = .ok declared.store.file ∧
    SnapStore.openObject declared.store.file mode = .ok declared.store

theorem SnapStore.file_of_openObject {file : SnapFile} {mode : SnapOpenMode} {store : SnapStore}
    (h : SnapStore.openObject file mode = .ok store) : store.file = file := by
  cases mode with
  | lazyMetadata => obtain rfl := Except.ok.inj h; rfl
  | coldMembershipValidation =>
    obtain ⟨refs, -, h⟩ := Checks.bind_eq_ok_iff.mp h
    obtain rfl := Except.ok.inj h
    rfl

theorem triple_openSnapStore {mode : SnapOpenMode} {decl : SnapDecl} :
    Triple P (openSnapStore readers remote source mode decl)
      (fun declared s => StoreOf readers remote source mode decl declared ∧ P s) P := by
  refine (triple_getObject fun _ hs => hs).bind fun object => triple_of_imp fun hobject => ?_
  refine (triple_ofExcept fun _ hs => hs).bind fun file => triple_of_imp fun hfile => ?_
  refine triple_attempt_bind (fun _ hs => hs) ?_
  refine (triple_ofExcept fun _ hs => hs).bind fun store => triple_of_imp fun hstore => ?_
  refine triple_pure fun s hs => ⟨⟨rfl, object, hobject, ?_, ?_⟩, hs⟩
  · rw [hfile, SnapStore.file_of_openObject hstore]
  · rw [SnapStore.file_of_openObject hstore, hstore]

theorem triple_snapStores {mode : SnapOpenMode} {heads : List (SnapDecl × ObjectMeta)} :
    Triple P (heads.mapM fun head => openSnapStore readers remote source mode head.1)
      (fun stores s => List.Forall₂ (fun head declared =>
        StoreOf readers remote source mode head.1 declared) heads stores ∧ P s) P :=
  triple_mapM fun _ _ => triple_openSnapStore

/-- The stores of an open are those of the declarations. -/
theorem storeOf_of_heads {mode : SnapOpenMode} {decls : List SnapDecl}
    {heads : List (SnapDecl × ObjectMeta)} {stores : List DeclaredSnapStore}
    (hheads : HeadsOf remote source decls heads) (hstores : List.Forall₂ (fun head declared =>
      StoreOf readers remote source mode head.1 declared) heads stores) :
    List.Forall₂ (StoreOf readers remote source mode) decls stores := by
  induction hheads generalizing stores with
  | nil => cases hstores; exact .nil
  | cons hhead _ ih =>
    obtain ⟨rfl, -⟩ := hhead
    cases hstores with
    | cons hstore hrest => exact .cons hstore (ih hrest)

end Stages

/-! ### What a token says about an open -/

/-- An open has the artifacts of its source, and the inputs of its token are their metadata. -/
structure OpenFacts (readers : DatasetReaders) (remote : Remote) (source : Source) (fresh : Prop)
    (mode : SnapOpenMode) (session : DatasetSession) (inputs : ValidationSidecarInputs) : Prop where
  loaded : LoadedFrom readers remote source
    ⟨session.manifest, session.auxDeclarations, session.graph⟩
  catchments : CatchmentsFrom readers remote source fresh (session.catchments, inputs.catchments)
  stores : List.Forall₂ (StoreOf readers remote source mode) session.auxDeclarations.snaps
    session.snapStores
  manifestMeta : ∀ found ∈ inputs.manifest,
    MetaOf remote source "manifest.json" "manifest.json" found
  graphMeta : ∀ found ∈ inputs.graph, MetaOf remote source "graph.parquet" "graph.parquet" found
  snapMeta : ∀ snaps ∈ inputs.snaps,
    (∀ snap ∈ snaps, MetaOf remote source snap.path snap.path snap) ∧
    ∀ decl ∈ session.auxDeclarations.snaps, ∃ snap ∈ snaps, snap.path = decl.snap

namespace OpenFacts

variable {fresh : Prop} {mode : SnapOpenMode} {session : DatasetSession}
  {inputs : ValidationSidecarInputs} {manifest graph catchments : ArtifactMeta}

theorem contents (h : OpenFacts readers remote source fresh mode session inputs)
    (hid : Identified content remote) (hmanifest : inputs.manifest = some manifest)
    (hgraph : inputs.graph = some graph) :
    readers.readManifestFromBytes (content manifest)
        = .ok ⟨session.manifest, session.auxDeclarations⟩ ∧
      readers.loadGraphFromBytes (content graph) = .ok session.graph := by
  obtain ⟨manifest', etag, hmanifest', hetag, rfl⟩ := h.manifestMeta manifest hmanifest
  obtain ⟨graph', etag', hgraph', hetag', rfl⟩ := h.graphMeta graph hgraph
  rw [(hid source _ manifest' etag hmanifest' hetag).1,
    (hid source _ graph' etag' hgraph' hetag').1]
  exact h.loaded manifest' graph' hmanifest' (by rw [hetag, Option.isSome_some]) hgraph'
    (by rw [hetag', Option.isSome_some])

/-- The index file of an open with metadata is fresh. -/
theorem indexFresh (h : OpenFacts readers remote source fresh mode session inputs)
    (hfresh : FreshCache readers cache remote files source)
    (hmanifest : inputs.manifest = some manifest) (hgraph : inputs.graph = some graph) :
    IndexFresh readers remote files source
      (cache.artifactCacheDir session.manifest.fabricName session.manifest.adapterVersion) := by
  obtain ⟨manifest', etag, hmanifest', hetag, rfl⟩ := h.manifestMeta manifest hmanifest
  obtain ⟨graph', etag', hgraph', hetag', rfl⟩ := h.graphMeta graph hgraph
  have hsome : manifest'.etag.isSome := by rw [hetag, Option.isSome_some]
  have hsome' : graph'.etag.isSome := by rw [hetag', Option.isSome_some]
  have hparsed : readers.readManifestFromBytes manifest'.bytes
      = .ok ⟨session.manifest, session.auxDeclarations⟩ :=
    (h.loaded manifest' graph' hmanifest' hsome hgraph' hsome').1
  intro object etag built hobject hetag hbuilt
  exact hfresh.idIndex manifest' _ object etag built hmanifest' hsome hparsed hobject hetag hbuilt

theorem exists_catchmentFile (h : OpenFacts readers remote source fresh mode session inputs)
    (hid : Identified content remote) (hfresh : fresh)
    (hcatchments : inputs.catchments = some catchments) :
    ∃ file groups, readers.openCatchments (content catchments) = .ok file ∧
      file.idLevelGroups = .ok groups ∧
      ∀ manifest graph, validateGraphCatchments manifest graph session.catchments
        = validateGraphCatchments manifest graph (file.store groups) := by
  obtain ⟨object, file, hobject, hfile, hmeta, hstore⟩ := h.catchments
  rw [hcatchments] at hmeta
  obtain ⟨etag, hetag, rfl⟩ := Option.map_eq_some_iff.mp hmeta.symm
  change object.etag = some etag at hetag
  obtain ⟨groups, hgroups, hsame⟩ := hstore hfresh (by rw [hetag, Option.isSome_some])
  rw [(hid source _ object etag hobject hetag).2]
  exact ⟨file, groups, hfile, hgroups, hsame⟩

/-- The file of a declared snap store is the content that the metadata of its artifact identify. -/
theorem openSnap_content {snaps : List ArtifactMeta}
    (h : OpenFacts readers remote source fresh mode session inputs)
    (hid : Identified content remote) (hsnaps : inputs.snaps = some snaps) {snap : ArtifactMeta}
    (hsnap : snap ∈ snaps) {decl : SnapDecl} (hpath : snap.path = decl.snap)
    {declared : DeclaredSnapStore} (hstore : StoreOf readers remote source mode decl declared) :
    readers.openSnap (content snap) = .ok declared.store.file := by
  obtain ⟨object, etag, hobject, hetag, hmeta⟩ := (h.snapMeta snaps hsnaps).1 snap hsnap
  obtain ⟨-, object', hobject', hfile, -⟩ := hstore
  rw [hpath] at hobject
  obtain rfl := Option.some.inj (hobject.symm.trans hobject')
  rw [hmeta, hpath, (hid source _ object etag hobject hetag).1]
  exact hfile

/-- **A matching token**: validation would have succeeded. -/
theorem skipSound {sidecar : ValidationSidecar} {snaps : List ArtifactMeta}
    (h : OpenFacts readers remote source fresh mode session inputs)
    (hid : Identified content remote) (hfresh : fresh)
    (hmanifest : inputs.manifest = some manifest) (hgraph : inputs.graph = some graph)
    (hcatchments : inputs.catchments = some catchments) (hsnaps : inputs.snaps = some snaps)
    (hcertified : Certified readers content sidecar)
    (hmatches : sidecar.matches inputs.hfxFormatVersion manifest graph catchments snaps) :
    SkipSound readers content ⟨session, inputs, true⟩ := by
  intro _
  obtain ⟨hparsed, hloaded⟩ := h.contents hid hmanifest hgraph
  refine ⟨⟨manifest, graph, hmanifest, hgraph, hparsed, hloaded⟩, ?_⟩
  obtain ⟨file, groups, hfile, hgroups, hsame⟩ := h.exists_catchmentFile hid hfresh hcatchments
  obtain ⟨parsed, graph', file', groups', levels, hvalid⟩ := hcertified
  simp only [ValidationSidecar.matches, decide_eq_true_eq] at hmatches
  obtain ⟨-, -, -, hmanifest', hgraph', hcatchments', hsnaps'⟩ := hmatches
  -- what the token was made for is what the open has
  obtain rfl := Except.ok.inj (hparsed.symm.trans (hmanifest' ▸ hvalid.manifest_eq))
  obtain rfl := Except.ok.inj (hloaded.symm.trans (hgraph' ▸ hvalid.graph_eq))
  obtain rfl := Except.ok.inj (hfile.symm.trans (hcatchments' ▸ hvalid.catchments_eq))
  obtain rfl := Except.ok.inj (hgroups.symm.trans hvalid.groups_eq)
  refine ⟨levels, (hsame _ _).trans hvalid.references, fun declared hdeclared => ?_⟩
  obtain ⟨decl, hdecl, hstore⟩ := Checks.exists_of_mem_forall₂ h.stores hdeclared
  obtain ⟨snap, hsnap, hpath⟩ := (h.snapMeta snaps hsnaps).2 decl hdecl
  have hmem : snap ∈ sidecar.snaps := by
    rw [hsnaps', sortByPath, List.mem_mergeSort]
    exact hsnap
  obtain ⟨snapFile, hsnapFile, hcold⟩ := hvalid.snaps decl hdecl snap hmem hpath
  have hsame := h.openSnap_content hid hsnaps hsnap hpath hstore
  obtain rfl := Except.ok.inj (hsame.symm.trans hsnapFile)
  exact hstore.1 ▸ hcold

/-- **A new token**: validation has succeeded. -/
theorem certified {snaps : List ArtifactMeta}
    (h : OpenFacts readers remote source fresh .coldMembershipValidation session inputs)
    (hid : Identified content remote) (hfresh : fresh)
    (hmanifest : inputs.manifest = some manifest) (hgraph : inputs.graph = some graph)
    (hcatchments : inputs.catchments = some catchments) (hsnaps : inputs.snaps = some snaps)
    (hvalid : validateReferences session = .ok ()) :
    Certified readers content
      (.current inputs.hfxFormatVersion manifest graph catchments snaps) := by
  obtain ⟨hparsed, hloaded⟩ := h.contents hid hmanifest hgraph
  obtain ⟨file, groups, hfile, hgroups, hsame⟩ := h.exists_catchmentFile hid hfresh hcatchments
  obtain ⟨levels, hlevels, hstores⟩ := Checks.bind_eq_ok_iff.mp hvalid
  rw [Checks.forM_eq_ok_iff] at hstores
  refine ⟨_, _, file, groups, levels, hparsed, hloaded, hfile, hgroups,
    (hsame _ _).symm.trans hlevels, fun decl hdecl snap hsnap hpath => ?_⟩
  rw [ValidationSidecar.current, sortByPath, List.mem_mergeSort] at hsnap
  obtain ⟨declared, hdeclared, hstore⟩ := Checks.exists_of_mem_forall₂ h.stores.flip hdecl
  refine ⟨declared.store.file, h.openSnap_content hid hsnaps hsnap hpath hstore, declared.store,
    ?_, ?_⟩
  · obtain ⟨-, -, -, -, hopen⟩ := hstore
    exact hopen
  · exact hstore.1 ▸ hstores declared hdeclared

end OpenFacts

/-! ### An open -/

section Open

open Faulty

variable {P E : CacheFiles → Prop} {fabricName adapterVersion : String}
  {inputs : ValidationSidecarInputs}

/-- A hit is a stored token of the inputs, none of which is missing. -/
theorem triple_validationSidecarMatches :
    Triple P (validationSidecarMatches cache fabricName adapterVersion inputs) (fun hit s =>
      (hit = true → ∃ manifest graph catchments snaps dir sidecar,
        inputs.manifest = some manifest ∧ inputs.graph = some graph ∧
        inputs.catchments = some catchments ∧ inputs.snaps = some snaps ∧
        s.validated dir = some sidecar ∧
        sidecar.matches inputs.hfxFormatVersion manifest graph catchments snaps) ∧ P s) E := by
  unfold validationSidecarMatches
  split
  · next manifest graph catchments snaps hmanifest hgraph hcatchments hsnaps =>
    refine Triple.bind (Q := fun sidecar s => (∀ found ∈ sidecar, s.validated
      (cache.artifactCacheDir fabricName adapterVersion).resolve = some found) ∧ P s) ?_
      fun sidecar => triple_pure fun s ⟨hstored, hs⟩ => ⟨fun hhit => ?_, hs⟩
    · refine triple_store.bind fun s' => triple_succeeds.bind fun readable => ?_
      split_ifs
      · exact triple_pure fun s hs => ⟨fun found hfound => hs.1 ▸ hfound, hs.2⟩
      · exact triple_pure fun s hs => ⟨fun found hfound => absurd hfound (by simp), hs.2⟩
    · obtain ⟨found, hfound, hmatches⟩ := (Option.any_eq_true _ _).mp hhit
      exact ⟨manifest, graph, catchments, snaps, _, found, hmanifest, hgraph, hcatchments, hsnaps,
        hstored found hfound, hmatches⟩
  · exact triple_pure fun s hs => ⟨fun h => absurd h (by simp), hs⟩

/-- Storing a token of valid artifacts keeps the invariant. -/
theorem triple_writeValidationSidecarBestEffort {sidecar : ValidationSidecar}
    (hcertified : Certified readers content sidecar) :
    Triple (AllCertified readers content)
      (writeValidationSidecarBestEffort cache fabricName adapterVersion sidecar)
      (fun _ => AllCertified readers content) (AllCertified readers content) := by
  have hwrite : Triple (AllCertified readers content)
      (writeValidationSidecar cache fabricName adapterVersion sidecar)
      (fun _ => AllCertified readers content) (AllCertified readers content) := by
    refine triple_attempt_bind (fun _ hs => hs) <| triple_attempt_bind (fun _ hs => hs) ?_
    refine triple_update fun s hs dir stored hstored => ?_
    change Function.update s.validated _ _ dir = _ at hstored
    rw [Function.update_apply] at hstored
    split_ifs at hstored
    · obtain rfl := Option.some.inj hstored
      exact hcertified
    · exact hs dir stored hstored
  exact (Triple.observe (Q := fun _ => AllCertified readers content) hwrite fun _ _ hs => hs).bind
    fun _ => triple_pure fun _ hs => hs

/-- **One open.** With a fresh cache in which all tokens are of valid artifacts, skipping is sound,
and all tokens are still of valid artifacts. -/
theorem triple_openRemoteWithStats (hid : Identified content remote)
    (hfresh : FreshCache readers cache remote files source)
    (hcertified : AllCertified readers content files) :
    Triple (fun s => s = files) (openRemoteWithStats readers cache remote source)
      (fun opened s => SkipSound readers content opened ∧ AllCertified readers content s)
      (AllCertified readers content) := by
  have hkept : ∀ s : CacheFiles, s.validated = files.validated → AllCertified readers content s :=
    fun s hs dir sidecar hstored => hcertified dir sidecar (hs ▸ hstored)
  refine Triple.weaken (E := AllCertified readers content) ?_ (fun _ hs => hs) (fun _ _ hs => hs)
    fun _ hs => hs
  refine triple_remoteArtifactMeta.bind fun manifestMeta => triple_of_imp fun hmanifestMeta => ?_
  refine triple_remoteArtifactMeta.bind fun graphMeta => triple_of_imp fun hgraphMeta => ?_
  refine ((triple_loadManifestGraph hfresh).weaken (fun _ hs => hs) (fun _ _ hs => hs) hkept).bind
    fun loaded => triple_of_imp fun hloaded => ?_
  refine (triple_openCatchments.weaken (fun _ hs => hs) (fun _ _ hs => hs) hkept).bind ?_
  rintro ⟨catchments, catchmentsMeta⟩
  refine triple_of_imp fun hcatchments => ?_
  refine (triple_snapHeads.weaken (fun _ hs => hs) (fun _ _ hs => hs) hkept).bind fun snapHeads =>
    triple_of_imp fun hheads => ?_
  refine triple_validationSidecarMatches.bind fun hit => ?_
  refine (triple_snapStores.weaken (fun _ hs => hs) (fun _ _ hs => hs)
    fun s hs => hkept s hs.2).bind fun snapStores => triple_of_imp fun hstores => ?_
  -- what holds of the parts of the open
  have hfacts := fun mode hstores => @OpenFacts.mk readers remote source _ mode
    ⟨loaded.manifest, loaded.aux, loaded.graph, catchments, snapStores⟩
    ⟨loaded.manifest.formatVersion, manifestMeta, graphMeta, catchmentsMeta, _⟩
    hloaded hcatchments (storeOf_of_heads hheads hstores) hmanifestMeta hgraphMeta
    fun snaps hsnaps => metaOf_of_heads hheads hsnaps
  cases hit with
  | true =>
    refine triple_pure fun s ⟨hhit, hs⟩ => ⟨?_, hkept s hs⟩
    obtain ⟨manifest, graph, catchments', snaps, dir, sidecar, hmanifest, hgraph, hcatchments',
      hsnaps, hstored, hmatches⟩ := hhit rfl
    have h := hfacts .lazyMetadata hstores
    exact h.skipSound hid (h.indexFresh hfresh hmanifest hgraph) hmanifest hgraph hcatchments'
      hsnaps (hcertified dir sidecar (hs ▸ hstored)) hmatches
  | false =>
    have h := hfacts .coldMembershipValidation hstores
    refine (triple_ofExcept fun s hs => hkept s hs.2).bind fun _ => triple_of_imp fun hvalid => ?_
    have hdone : ∀ opened : RemoteOpen, opened.validationHit = false →
        Triple (AllCertified readers content) (pure opened : CacheM RemoteOpen) (fun opened s =>
          SkipSound readers content opened ∧ AllCertified readers content s)
          (AllCertified readers content) := fun opened hmiss =>
      triple_pure fun s hs => ⟨fun hhit => absurd hhit (by rw [hmiss]; decide), hs⟩
    split
    · next sidecar hsidecar =>
      simp only [validationSidecarForCurrentMetadata, Option.bind_eq_bind, Option.bind_eq_some_iff,
        Option.some.injEq] at hsidecar
      obtain ⟨manifest, hmanifest, graph, hgraph, catchments', hcatchments', snaps, hsnaps, rfl⟩ :=
        hsidecar
      have hnew := h.certified hid (h.indexFresh hfresh hmanifest hgraph) hmanifest hgraph
        hcatchments' hsnaps hvalid
      refine Triple.bind ((triple_writeValidationSidecarBestEffort hnew).weaken
        (fun s hs => hkept s hs.2) (fun _ _ hs => hs) fun _ hs => hs) fun _ => ?_
      exact hdone _ rfl
    · exact (hdone _ rfl).weaken (fun s hs => hkept s hs.2) (fun _ _ hs => hs) fun _ hs => hs

end Open

/-! ### Runs -/

/-- The stores and the cache directory; path, ETag and size fix the content of every object. -/
structure World (content : ArtifactMeta → List UInt8) where
  remote : Remote
  identified : Identified content remote
  files : CacheFiles

namespace World

/-- Rewrite objects. -/
def rewrite (world : World content) (remote : Remote) (h : Identified content remote) :
    World content :=
  ⟨remote, h, world.files⟩

/-- Open a dataset; the requests and file operations that fail are those of the plan. -/
def runOpen (readers : DatasetReaders) (cache : RemoteArtifactCache) (world : World content)
    (source : Source) (faults : List Bool) :
    Except SessionError RemoteOpen × CacheFiles × List Bool :=
  Faulty.run (openRemoteWithStats readers cache world.remote source) world.files faults

/-- What an open leaves. -/
def opened (readers : DatasetReaders) (cache : RemoteArtifactCache) (world : World content)
    (source : Source) (faults : List Bool) : World content :=
  ⟨world.remote, world.identified, (world.runOpen readers cache source faults).2.1⟩

end World

/-- Runs of opens, each with a fresh cache, from an empty cache directory; objects are rewritten in
between. -/
inductive FreshRun (readers : DatasetReaders) (cache : RemoteArtifactCache) : World content → Prop
  | start (remote : Remote) (h : Identified content remote) :
      FreshRun readers cache ⟨remote, h, .empty⟩
  | rewrite {world : World content} (remote : Remote) (h : Identified content remote) :
      FreshRun readers cache world → FreshRun readers cache (world.rewrite remote h)
  | opened {world : World content} (source : Source) (faults : List Bool) :
      FreshRun readers cache world →
      FreshCache readers cache world.remote world.files source →
      FreshRun readers cache (world.opened readers cache source faults)

theorem FreshRun.allCertified {world : World content} (h : FreshRun readers cache world) :
    AllCertified readers content world.files := by
  induction h with
  | start => exact fun dir sidecar hstored => absurd hstored (by simp [CacheFiles.empty])
  | rewrite _ _ _ ih => exact ih
  | @opened world source faults _ hfresh ih =>
    exact (triple_openRemoteWithStats world.identified hfresh ih).state faults rfl
      (fun _ _ hs => hs.2) fun _ hs => hs

/-- **Fresh runs skip soundly.** -/
theorem skipSound_of_freshRun {world : World content} (h : FreshRun readers cache world)
    (hfresh : FreshCache readers cache world.remote world.files source) {faults faults' : List Bool}
    {opened : RemoteOpen}
    (hrun : world.runOpen readers cache source faults = (.ok opened, files, faults')) :
    SkipSound readers content opened :=
  ((triple_openRemoteWithStats world.identified hfresh h.allCertified).of_run rfl hrun).1

/-! ### A stale entry -/

/-- Readers of the artifacts of one unit, in files of one byte; the second manifest declares a
raster. -/
def staleReaders : DatasetReaders where
  readManifestFromBytes
    | [1] => .ok ⟨⟨"0.3.0", "merit", "v1", 1⟩, ⟨[], [], []⟩⟩
    | [2] => .ok ⟨⟨"0.3.0", "merit", "v1", 1⟩, ⟨[⟨"dir.tif", "acc.tif"⟩], [], []⟩⟩
    | _ => .error (.artifactParse "manifest.json")
  loadGraphFromBytes
    | [3] => .ok ⟨[⟨⟨1⟩, ⟨0⟩, []⟩], List.nodup_singleton _⟩
    | _ => .error (.artifactParse "graph.parquet")
  openCatchments
    | [4] => .ok ⟨1, .ok [[⟨1⟩]], .ok [[⟨⟨1⟩, ⟨0⟩⟩]]⟩
    | _ => .error (.artifactParse "catchments.parquet")
  openSnap _ := .error (.artifactParse "snap.parquet")

/-- The artifacts of a source, with the manifest of this byte; ETags are unique. -/
def staleRemote (etag : String) (manifest : UInt8) : Remote := fun url path =>
  match url, path with
  | "s3://a", "data/manifest.json" => some ⟨some etag, [manifest]⟩
  | "s3://a", "data/graph.parquet" => some ⟨some "g", [3]⟩
  | "s3://a", "data/catchments.parquet" => some ⟨some "c", [4]⟩
  | _, _ => none

/-- The content of the artifacts. -/
def staleContent (found : ArtifactMeta) : List UInt8 :=
  match found.etag with
  | "m1" => [1]
  | "m2" => [2]
  | "g" => [3]
  | _ => [4]

theorem identified_stale {etag : String} {manifest : UInt8}
    (h : staleContent ⟨"", etag, 1⟩ = [manifest]) :
    Identified staleContent (staleRemote etag manifest) := by
  intro source artifact object etag' hobject hetag
  unfold Remote.object staleRemote at hobject
  split at hobject
  · obtain rfl := Option.some.inj hobject
    obtain rfl := Option.some.inj hetag
    exact ⟨h, h⟩
  · obtain rfl := Option.some.inj hobject
    obtain rfl := Option.some.inj hetag
    exact ⟨rfl, rfl⟩
  · obtain rfl := Option.some.inj hobject
    obtain rfl := Option.some.inj hetag
    exact ⟨rfl, rfl⟩
  · exact absurd hobject (by simp)

/-- The first manifest is cached, and the artifacts have a token. -/
def tokenWorld : World staleContent :=
  (World.mk (staleRemote "m1" 1) (identified_stale rfl) .empty).opened staleReaders ⟨["cache"]⟩
    ⟨"s3://a", "data"⟩ []

theorem freshCache_empty : FreshCache readers cache remote .empty source where
  entry := fun dir _ _ _ hdir => by
    simp [RemoteArtifactCache.indexedDir, CacheFiles.empty] at hdir
  idIndex := fun _ _ _ _ _ _ _ _ _ _ hindex => by simp [CacheFiles.empty] at hindex

/-- What the cache holds of these artifacts is fresh. -/
theorem freshCache_of_files {files : CacheFiles} {dir : CachePath}
    (hdir : RemoteArtifactCache.indexedDir ⟨["cache"]⟩ files ⟨"s3://a", "data"⟩ = some dir)
    (hmanifest : files.manifest dir.resolve = some [1])
    (hgraph : files.graph dir.resolve = some [3])
    (hindex : ((files.idIndex ["cache", "merit", "v1"]).bind (·.load 1 "c")).map (·.ids)
      = some [⟨1⟩]) :
    FreshCache staleReaders ⟨["cache"]⟩ (staleRemote "m1" 1) files ⟨"s3://a", "data"⟩ where
  entry := by
    intro dir' cached manifest graph hdir' hcached hmanifest' _ hgraph' _
    obtain rfl := Option.some.inj (hdir.symm.trans hdir')
    obtain rfl := Option.some.inj (hmanifest'.symm.trans rfl)
    obtain rfl := Option.some.inj (hgraph'.symm.trans rfl)
    rw [RemoteArtifactCache.entryAt, hmanifest, hgraph] at hcached
    obtain ⟨-, hcached⟩ := Option.ite_none_right_eq_some.mp hcached
    obtain rfl := Option.some.inj hcached
    exact ⟨rfl, rfl⟩
  idIndex := by
    intro manifest parsed catchments etag index hmanifest' _ hparsed hcatchments hetag hindex'
    obtain rfl := Option.some.inj (hmanifest'.symm.trans rfl)
    obtain rfl := Except.ok.inj (hparsed.symm.trans rfl)
    obtain rfl := Option.some.inj (hcatchments.symm.trans rfl)
    obtain rfl := Option.some.inj (hetag.symm.trans rfl)
    refine ⟨_, _, rfl, rfl, ?_⟩
    change (files.idIndex ["cache", "merit", "v1"]).bind (·.load 1 "c") = _ at hindex'
    rw [hindex'] at hindex
    exact Option.some.inj hindex

theorem freshCache_token : FreshCache staleReaders ⟨["cache"]⟩ tokenWorld.remote tokenWorld.files
    ⟨"s3://a", "data"⟩ :=
  @freshCache_of_files tokenWorld.files ["cache", "merit", "v1"] (by decide +kernel)
    (by decide +kernel) (by decide +kernel) (by decide +kernel)

/-- The next open of unchanged artifacts skips soundly. -/
theorem skipSound_token : ∃ opened files faults,
    tokenWorld.runOpen staleReaders ⟨["cache"]⟩ ⟨"s3://a", "data"⟩ []
      = (.ok opened, files, faults) ∧
    opened.validationHit ∧ SkipSound staleReaders staleContent opened := by
  have hread : (tokenWorld.runOpen staleReaders ⟨["cache"]⟩ ⟨"s3://a", "data"⟩ []).1.toOption.map
      (·.validationHit) = some true := by
    decide +kernel
  rcases hrun : tokenWorld.runOpen staleReaders ⟨["cache"]⟩ ⟨"s3://a", "data"⟩ []
    with ⟨_ | opened, files, faults⟩
  · rw [hrun] at hread
    exact absurd hread (by simp [Except.toOption])
  · rw [hrun] at hread
    exact ⟨opened, files, faults, rfl, Option.some.inj hread,
      skipSound_of_freshRun (.opened _ _ (.start _ _) freshCache_empty) freshCache_token hrun⟩

/-- The manifest is rewritten. -/
def staleWorld : World staleContent :=
  tokenWorld.rewrite (staleRemote "m2" 2) (identified_stale rfl)

/-- **The defect.** After the manifest has been rewritten, one open validates the cached manifest
and stores a token for the new one, and the next open skips validation with the old manifest. -/
theorem not_skipSound_stale : ∃ opened files faults,
    ((staleWorld.opened staleReaders ⟨["cache"]⟩ ⟨"s3://a", "data"⟩ []).runOpen staleReaders
      ⟨["cache"]⟩ ⟨"s3://a", "data"⟩ []) = (.ok opened, files, faults) ∧
    opened.validationHit ∧ ¬SkipSound staleReaders staleContent opened := by
  have hread : ((staleWorld.opened staleReaders ⟨["cache"]⟩ ⟨"s3://a", "data"⟩ []).runOpen
      staleReaders ⟨["cache"]⟩ ⟨"s3://a", "data"⟩ []).1.toOption.map (fun opened =>
        (opened.validationHit, opened.inputs.manifest, opened.session.auxDeclarations.d8Rasters))
      = some (true, some ⟨"manifest.json", "m2", 1⟩, []) := by
    decide +kernel
  rcases hrun : (staleWorld.opened staleReaders ⟨["cache"]⟩ ⟨"s3://a", "data"⟩ []).runOpen
    staleReaders ⟨["cache"]⟩ ⟨"s3://a", "data"⟩ [] with ⟨_ | opened, files, faults⟩
  · rw [hrun] at hread
    exact absurd hread (by simp [Except.toOption])
  · rw [hrun] at hread
    obtain ⟨hhit, hmanifest, hrasters⟩ : opened.validationHit = true ∧
        opened.inputs.manifest = some ⟨"manifest.json", "m2", 1⟩ ∧
        opened.session.auxDeclarations.d8Rasters = [] := by
      simpa [Except.toOption] using hread
    refine ⟨opened, files, faults, rfl, hhit, fun hsound => ?_⟩
    obtain ⟨⟨manifest, -, hfound, -, hparsed, -⟩, -⟩ := hsound hhit
    obtain rfl := Option.some.inj (hmanifest.symm.trans hfound)
    -- the metadata are those of the second manifest, which declares a raster
    have hdeclared := congrArg (·.aux.d8Rasters) (Except.ok.inj hparsed)
    exact absurd (hdeclared.trans hrasters) (by decide)

end WatershedDelineation
