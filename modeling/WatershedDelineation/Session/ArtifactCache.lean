import Mathlib.Logic.Function.Basic
import WatershedDelineation.Drainage.Graph
import WatershedDelineation.General.Faulty
import WatershedDelineation.Session.Dataset

/-!
# The remote artifact cache

`cache.rs`: an entry is a directory named by fabric and adapter version that holds the bytes of a
manifest and of a graph; which entry belongs to a source is written in an index file elsewhere.

A file of the cache is modelled by the value that was written into it: JSON reads back as it was
written. Every reading, writing or creating of a file or directory may fail, and then leaves the
files as they are. The readers of manifests and graphs are parameters.
-/

namespace WatershedDelineation

/-! ### Paths -/

/-- The components of an absolute path. -/
abbrev CachePath := List String

/-- The components of a name: empty ones and `.` are skipped. -/
def pathComponents (name : String) : List String :=
  ((name.toList.splitOn '/').map String.ofList).filter fun c => c ≠ "" ∧ c ≠ "."

namespace CachePath

/-- Append a name to a path; an absolute name replaces it. -/
def join (path : CachePath) (name : String) : CachePath :=
  if name.toList.head? = some '/' then pathComponents name else path ++ pathComponents name

/-- The last component, unless it is `..`. -/
def fileName (path : CachePath) : Option String := path.getLast?.filter (· ≠ "..")

/-- The directory that a path leads to. -/
def resolve (path : CachePath) : CachePath :=
  path.foldl (fun dir c => if c = ".." then dir.dropLast else dir ++ [c]) []

/-- The text of a path. -/
def display (path : CachePath) : String := "/" ++ "/".intercalate path

end CachePath

/-- A 64 bit FNV-1a hash. -/
def fnv1a64 (bytes : List UInt8) : UInt64 :=
  bytes.foldl (fun hash byte => (hash ^^^ byte.toUInt64) * 0x100000001b3) 0xcbf29ce484222325

/-! ### Files -/

/-- A remote source: its URL and the root in its object store. -/
structure Source where
  url : String
  remoteRoot : String
  deriving DecidableEq, Repr

/-- What the index file of a source holds. -/
structure SourceIndexEntry where
  source : String
  remoteRoot : String
  fabricName : String
  adapterVersion : String
  deriving DecidableEq, Repr

/-- What identifies the content of an artifact. -/
structure ArtifactMeta where
  path : String
  etag : String
  size : ℕ
  deriving DecidableEq, Repr

/-- A validation token; the time of writing, which nothing reads, is left out. -/
structure ValidationSidecar where
  tokenFormatVersion : ℕ
  validationLogicVersion : String
  hfxFormatVersion : String
  manifest : ArtifactMeta
  graph : ArtifactMeta
  catchments : ArtifactMeta
  snaps : List ArtifactMeta
  deriving DecidableEq, Repr

/-- An id index: the unit ids of a catchments file with their row groups, and the size and the ETag
of that file. -/
structure IdIndex where
  rows : List (UnitId × ℕ)
  fileSize : ℕ
  fileEtag : String
  deriving DecidableEq, Repr

/-- The files of the cache, by name. The first four are in the directory of an entry:
`manifest.json`, `graph.parquet`, `validated.json` and `catchments.idindex.arrow`. The index files
of sources are in `.sources`, named by a hash. -/
@[ext] structure CacheFiles where
  manifest : CachePath → Option (List UInt8)
  graph : CachePath → Option (List UInt8)
  validated : CachePath → Option ValidationSidecar
  idIndex : CachePath → Option IdIndex
  sources : UInt64 → Option SourceIndexEntry

namespace CacheFiles

/-- A cache directory without files. -/
def empty : CacheFiles :=
  ⟨fun _ => none, fun _ => none, fun _ => none, fun _ => none, fun _ => none⟩

variable (files : CacheFiles) (dir : CachePath)

def writeManifest (bytes : List UInt8) : CacheFiles :=
  { files with manifest := Function.update files.manifest dir (some bytes) }

def writeGraph (bytes : List UInt8) : CacheFiles :=
  { files with graph := Function.update files.graph dir (some bytes) }

def writeValidated (sidecar : ValidationSidecar) : CacheFiles :=
  { files with validated := Function.update files.validated dir (some sidecar) }

def writeIdIndex (index : IdIndex) : CacheFiles :=
  { files with idIndex := Function.update files.idIndex dir (some index) }

def writeSource (hash : UInt64) (index : SourceIndexEntry) : CacheFiles :=
  { files with sources := Function.update files.sources hash (some index) }

end CacheFiles

/-- Computations on the cache directory. -/
abbrev CacheM := Faulty CacheFiles SessionError

/-! ### The cache -/

/-- Readers of manifest and graph bytes. -/
structure ArtifactReaders where
  readManifestFromBytes : List UInt8 → Except SessionError ParsedManifest
  loadGraphFromBytes : List UInt8 → Except SessionError DrainageGraph

/-- Cached remote artifacts that have already been parsed successfully. -/
structure CachedRemoteArtifacts where
  manifest : Manifest
  aux : AuxDeclarations
  graph : DrainageGraph

/-- A cache and its root directory. -/
structure RemoteArtifactCache where
  root : CachePath

/-- The names of an entry directory are those of the manifest. -/
def cacheKeyMatches (path : CachePath) (manifest : Manifest) : Bool :=
  CachePath.fileName path.dropLast = some manifest.fabricName ∧
    CachePath.fileName path = some manifest.adapterVersion

namespace RemoteArtifactCache

variable (readers : ArtifactReaders) (cache : RemoteArtifactCache)

/-- The directory of an entry. -/
def artifactCacheDir (fabricName adapterVersion : String) : CachePath :=
  (cache.root.join fabricName).join adapterVersion

/-- The hash that names the index file of a source. -/
def sourceIndexHash (source : Source) : UInt64 :=
  fnv1a64 s!"{source.url}\n{source.remoteRoot}".toUTF8.toList

/-- The path of the index file of a source. -/
def sourceIndexPath (source : Source) : CachePath :=
  let digits := Nat.toDigits 16 (sourceIndexHash source).toNat
  cache.root ++ [".sources",
    String.ofList (List.replicate (16 - digits.length) '0' ++ digits) ++ ".json"]

/-- The entry in a directory: both files are there and can be parsed, and the manifest belongs to
the directory. -/
def entryAt (files : CacheFiles) (path : CachePath) : Option CachedRemoteArtifacts := do
  let manifestBytes ← files.manifest path.resolve
  let graphBytes ← files.graph path.resolve
  let parsed ← (readers.readManifestFromBytes manifestBytes).toOption
  if cacheKeyMatches path parsed.manifest then
    let graph ← (readers.loadGraphFromBytes graphBytes).toOption
    some ⟨parsed.manifest, parsed.aux, graph⟩
  else none

/-- Read the entry in a directory; a file that cannot be read is no entry. -/
def readEntry (path : CachePath) : CacheM (Option CachedRemoteArtifacts) := do
  let files ← Faulty.store
  if ← Faulty.succeeds then pure (entryAt readers files path) else pure none

/-- The entry directory that the index file of a source names. -/
def indexedDir (files : CacheFiles) (source : Source) : Option CachePath := do
  let index ← files.sources (sourceIndexHash source)
  if index.source = source.url ∧ index.remoteRoot = source.remoteRoot then
    some (cache.artifactCacheDir index.fabricName index.adapterVersion)
  else none

/-- Return the parsed cache entry mapped to this exact remote source. -/
def readEntryForSource (source : Source) : CacheM (Option CachedRemoteArtifacts) := do
  let files ← Faulty.store
  if (files.sources (sourceIndexHash source)).isNone then pure none
  else
    Faulty.attempt (.cacheIo "read" (cache.sourceIndexPath source).display)
    match cache.indexedDir files source with
    | none => pure none
    | some dir => readEntry readers dir

/-- Map a source to the entry of a manifest. -/
def writeSourceIndex (source : Source) (manifest : Manifest) : CacheM Unit := do
  Faulty.attempt (.cacheIo "create_dir_all" (cache.root ++ [".sources"]).display)
  Faulty.attempt (.cacheIo "write" (cache.sourceIndexPath source).display)
  Faulty.update fun files => files.writeSource (sourceIndexHash source)
    ⟨source.url, source.remoteRoot, manifest.fabricName, manifest.adapterVersion⟩

/-- Write parsed manifest and graph bytes and map them to this remote source. -/
def writeManifestGraph (source : Source) (manifest : Manifest)
    (manifestBytes graphBytes : List UInt8) : CacheM Unit := do
  let cacheDir := cache.artifactCacheDir manifest.fabricName manifest.adapterVersion
  Faulty.attempt (.cacheIo "create_dir_all" cacheDir.display)
  Faulty.attempt (.cacheIo "write" (cacheDir ++ ["manifest.json"]).display)
  Faulty.update fun files => files.writeManifest cacheDir.resolve manifestBytes
  Faulty.attempt (.cacheIo "write" (cacheDir ++ ["graph.parquet"]).display)
  Faulty.update fun files => files.writeGraph cacheDir.resolve graphBytes
  cache.writeSourceIndex source manifest

end RemoteArtifactCache

end WatershedDelineation
