import WatershedDelineation.Session.CatchmentIndex
import WatershedDelineation.Session.SnapRefs

/-!
# Opening a remote dataset

`open_remote_with_stats` of `session.rs`, over an object store and the cache directory. Requests to
the store and operations on files may fail at every step. The readers of the artifacts are
parameters; caches in memory are left out.
-/

namespace WatershedDelineation

/-! ### Objects -/

/-- An object of a store: its ETag, if the store gives one, and its content. -/
structure RemoteObject where
  etag : Option String
  bytes : List UInt8
  deriving DecidableEq, Repr

/-- The objects of all stores, by URL and path. -/
abbrev Remote := String → String → Option RemoteObject

/-- What a store tells about an object. -/
structure ObjectMeta where
  etag : Option String
  size : ℕ
  deriving DecidableEq, Repr

/-- Metadata without an ETag identifies nothing. -/
def ArtifactMeta.fromParts (path : String) (head : ObjectMeta) : Option ArtifactMeta :=
  head.etag.map fun etag => ⟨path, etag, head.size⟩

/-- The path of an artifact below the root of a source. -/
def remoteArtifactPath (root artifact : String) : String :=
  if root = "" then artifact
  else String.ofList (root.toList.reverse.dropWhile (· = '/')).reverse ++ "/" ++ artifact

/-- An artifact of a source. -/
def Remote.object (remote : Remote) (source : Source) (artifact : String) : Option RemoteObject :=
  remote source.url (remoteArtifactPath source.remoteRoot artifact)

/-- Readers of the artifacts of a dataset. -/
structure DatasetReaders extends ArtifactReaders where
  openCatchments : List UInt8 → Except SessionError CatchmentFile
  openSnap : List UInt8 → Except SessionError SnapFile

section Requests

variable (remote : Remote) (source : Source)

/-- The error of a failed request for an artifact. -/
def remoteReadError (artifact label : String) : SessionError :=
  .remoteArtifactRead label (remoteArtifactPath source.remoteRoot artifact)

/-- The object of an artifact; a missing one is an error. -/
def getObject (artifact label : String) : CacheM RemoteObject := do
  Faulty.attempt (remoteReadError source artifact label)
  match remote.object source artifact with
  | none => throw (remoteReadError source artifact label)
  | some object => pure object

/-- The metadata of an artifact. -/
def remoteObjectMeta (artifact label : String) : CacheM ObjectMeta := do
  let object ← getObject remote source artifact label
  pure ⟨object.etag, object.bytes.length⟩

/-- What identifies an artifact, where the store tells it. -/
def remoteArtifactMeta (artifact : String) : CacheM (Option ArtifactMeta) := do
  match ← Faulty.observe (remoteObjectMeta remote source artifact artifact) with
  | .ok head => pure (ArtifactMeta.fromParts artifact head)
  | .error _ => pure none

/-- The content of an artifact. -/
def readRemoteArtifact (artifact : String) : CacheM (List UInt8) := do
  let _ ← remoteObjectMeta remote source artifact artifact
  let object ← getObject remote source artifact artifact
  pure object.bytes

end Requests

/-! ### Declared paths -/

/-- A path that leaves the root of a dataset. -/
def pathEscapesRoot (rawPath : String) : Bool :=
  rawPath.toList.head? = some '/' ∨ ".." ∈ pathComponents rawPath

/-- Check a declared path. -/
def validateRemoteAuxArtifact (schema artifact rawPath : String) : Except SessionError Unit :=
  if pathEscapesRoot rawPath then .error (.auxiliaryPathEscape schema artifact rawPath) else .ok ()

/-- Check all declared paths. -/
def validateRemoteAuxPaths (aux : AuxDeclarations) : Except SessionError Unit := do
  aux.d8Rasters.forM fun decl => do
    validateRemoteAuxArtifact "hfx.aux.d8_raster.v2" "flow_dir" decl.flowDir
    validateRemoteAuxArtifact "hfx.aux.d8_raster.v2" "flow_acc" decl.flowAcc
  aux.snaps.forM fun decl => validateRemoteAuxArtifact "hfx.aux.snap.v2" "snap" decl.snap
  aux.generic.forM fun decl =>
    decl.artifacts.forM fun (artifact, path) => validateRemoteAuxArtifact decl.schema artifact path

/-! ### Validation tokens -/

/-- The version of the token format. -/
def currentTokenFormatVersion : ℕ := 2

/-- The version of the open-time referential validation. -/
def currentValidationLogicVersion : String := "r2-snap-membership-v2"

/-- Artifacts sorted by path. -/
def sortByPath (snaps : List ArtifactMeta) : List ArtifactMeta :=
  snaps.mergeSort fun left right => left.path ≤ right.path

/-- What a token is made of; a part without ETag is missing. -/
structure ValidationSidecarInputs where
  hfxFormatVersion : String
  manifest : Option ArtifactMeta
  graph : Option ArtifactMeta
  catchments : Option ArtifactMeta
  snaps : Option (List ArtifactMeta)
  deriving DecidableEq, Repr

/-- The token of a format version and artifacts. -/
def ValidationSidecar.current (hfxFormatVersion : String) (manifest graph catchments : ArtifactMeta)
    (snaps : List ArtifactMeta) : ValidationSidecar :=
  ⟨currentTokenFormatVersion, currentValidationLogicVersion, hfxFormatVersion, manifest, graph,
    catchments, sortByPath snaps⟩

/-- A token is that of a format version and artifacts. -/
def ValidationSidecar.matches (sidecar : ValidationSidecar) (hfxFormatVersion : String)
    (manifest graph catchments : ArtifactMeta) (snaps : List ArtifactMeta) : Bool :=
  sidecar.tokenFormatVersion = currentTokenFormatVersion ∧
    sidecar.validationLogicVersion = currentValidationLogicVersion ∧
    sidecar.hfxFormatVersion = hfxFormatVersion ∧ sidecar.manifest = manifest ∧
    sidecar.graph = graph ∧ sidecar.catchments = catchments ∧ sidecar.snaps = sortByPath snaps

/-- The token of the inputs, if none is missing. -/
def validationSidecarForCurrentMetadata (inputs : ValidationSidecarInputs) :
    Option ValidationSidecar := do
  some (ValidationSidecar.current inputs.hfxFormatVersion (← inputs.manifest) (← inputs.graph)
    (← inputs.catchments) (← inputs.snaps))

section Token

variable (cache : RemoteArtifactCache) (fabricName adapterVersion : String)

/-- The stored token; one that cannot be read is none. -/
def readValidationSidecar : CacheM (Option ValidationSidecar) := do
  let files ← Faulty.store
  if ← Faulty.succeeds then
    pure (files.validated (cache.artifactCacheDir fabricName adapterVersion).resolve)
  else pure none

/-- Store a token. -/
def writeValidationSidecar (sidecar : ValidationSidecar) : CacheM Unit := do
  let dir := cache.artifactCacheDir fabricName adapterVersion
  Faulty.attempt (.cacheIo "create_dir_all" dir.display)
  Faulty.attempt (.cacheIo "write" (dir ++ ["validated.json"]).display)
  Faulty.update fun files => files.writeValidated dir.resolve sidecar

/-- Store a token, or go on without. -/
def writeValidationSidecarBestEffort (sidecar : ValidationSidecar) : CacheM Unit := do
  let _ ← Faulty.observe (writeValidationSidecar cache fabricName adapterVersion sidecar)
  pure ()

/-- The stored token is that of the inputs. -/
def validationSidecarMatches (inputs : ValidationSidecarInputs) : CacheM Bool :=
  match inputs.manifest, inputs.graph, inputs.catchments, inputs.snaps with
  | some manifest, some graph, some catchments, some snaps => do
    let sidecar ← readValidationSidecar cache fabricName adapterVersion
    pure (sidecar.any fun sidecar =>
      sidecar.matches inputs.hfxFormatVersion manifest graph catchments snaps)
  | _, _, _, _ => pure false

end Token

/-! ### Opening -/

/-- A snap store with its declaration. -/
structure DeclaredSnapStore where
  decl : SnapDecl
  store : SnapStore

/-- An opened dataset. -/
structure DatasetSession where
  manifest : Manifest
  auxDeclarations : AuxDeclarations
  graph : DrainageGraph
  catchments : CatchmentStore
  snapStores : List DeclaredSnapStore

/-- An opened dataset, the inputs of its token, and whether the stored token matched them, so that
referential validation was skipped. -/
structure RemoteOpen where
  session : DatasetSession
  inputs : ValidationSidecarInputs
  validationHit : Bool

section Open

variable (readers : DatasetReaders) (cache : RemoteArtifactCache) (remote : Remote)
  (source : Source)

/-- The manifest and the graph, from the cache or from the store. -/
def loadManifestGraph : CacheM CachedRemoteArtifacts := do
  match ← cache.readEntryForSource readers.toArtifactReaders source with
  | some cached => pure cached
  | none => do
    let manifestBytes ← readRemoteArtifact remote source "manifest.json"
    let parsed ← Faulty.ofExcept (readers.readManifestFromBytes manifestBytes)
    Faulty.ofExcept (validateRemoteAuxPaths parsed.aux)
    let graphBytes ← readRemoteArtifact remote source "graph.parquet"
    let graph ← Faulty.ofExcept (readers.loadGraphFromBytes graphBytes)
    cache.writeManifestGraph source parsed.manifest manifestBytes graphBytes
    pure ⟨parsed.manifest, parsed.aux, graph⟩

/-- Open the catchments; returns what identifies them as well. -/
def CatchmentStore.openRemote (dir : CachePath) :
    CacheM (CatchmentStore × Option ArtifactMeta) := do
  let head ← remoteObjectMeta remote source "catchments.parquet" "catchments.parquet"
  let object ← getObject remote source "catchments.parquet" "catchments.parquet"
  let file ← Faulty.ofExcept (readers.openCatchments object.bytes)
  let index ← readOrBuildIdIndex file head.size head.etag dir
  pure (⟨file.totalRows, index.ids, index.idRowGroups, index.validationLevelsFromOpen,
    file.idLevels⟩,
    ArtifactMeta.fromParts (remoteArtifactPath source.remoteRoot "catchments.parquet") head)

/-- Open a declared snap store. -/
def openSnapStore (mode : SnapOpenMode) (decl : SnapDecl) : CacheM DeclaredSnapStore := do
  let object ← getObject remote source decl.snap "snap.parquet"
  let file ← Faulty.ofExcept (readers.openSnap object.bytes)
  Faulty.attempt (.artifactParse "snap.parquet")
  let store ← Faulty.ofExcept (SnapStore.openObject file mode)
  pure ⟨decl, store⟩

/-- Referential validation of an opened dataset. -/
def validateReferences (session : DatasetSession) : Except SessionError Unit := do
  let catchmentLevels ← validateGraphCatchments session.manifest session.graph session.catchments
  session.snapStores.forM fun declared =>
    validateSnapRefs declared.store declared.decl catchmentLevels

/-- Open a remote dataset. -/
def openRemoteWithStats : CacheM RemoteOpen := do
  let manifestMeta ← remoteArtifactMeta remote source "manifest.json"
  let graphMeta ← remoteArtifactMeta remote source "graph.parquet"
  let loaded ← loadManifestGraph readers cache remote source
  let fabricName := loaded.manifest.fabricName
  let adapterVersion := loaded.manifest.adapterVersion
  let (catchments, catchmentsMeta) ← CatchmentStore.openRemote readers remote source
    (cache.artifactCacheDir fabricName adapterVersion)
  let snapHeads ← loaded.aux.snaps.mapM fun decl => do
    let head ← remoteObjectMeta remote source decl.snap "snap.parquet"
    pure (decl, head)
  let snapMeta := snapHeads.mapM fun (decl, head) => ArtifactMeta.fromParts decl.snap head
  let inputs : ValidationSidecarInputs :=
    ⟨loaded.manifest.formatVersion, manifestMeta, graphMeta, catchmentsMeta, snapMeta⟩
  let validationHit ← validationSidecarMatches cache fabricName adapterVersion inputs
  let mode := if validationHit then .lazyMetadata else .coldMembershipValidation
  let snapStores ← snapHeads.mapM fun (decl, _) => openSnapStore readers remote source mode decl
  let session : DatasetSession :=
    ⟨loaded.manifest, loaded.aux, loaded.graph, catchments, snapStores⟩
  if validationHit then pure ⟨session, inputs, validationHit⟩
  else
    Faulty.ofExcept (validateReferences session)
    match validationSidecarForCurrentMetadata inputs with
    | some sidecar => writeValidationSidecarBestEffort cache fabricName adapterVersion sidecar
    | none => pure ()
    pure ⟨session, inputs, validationHit⟩

end Open

end WatershedDelineation
