import WatershedDelineation.Session.ArtifactCache

/-!
# What the artifact cache returns

Runs of writes into the cache, each of which may fail after any of its file writes. A source is
returned the artifacts of one completed write of its own (`CacheSound`), unless a write disturbs
the entry of a source: entries are named by fabric and adapter version and shared by all sources
with these names, and the files of an entry are replaced one after the other. Undisturbed runs are
sound (`cacheSound_of_undisturbed`); two sources with the same names are not
(`not_cacheSound_shared`).
-/

namespace WatershedDelineation

variable {readers : ArtifactReaders} {cache : RemoteArtifactCache}

/-- What a write is called with: a source, and bytes with what they have been parsed to. -/
structure ManifestGraphWrite (readers : ArtifactReaders) where
  source : Source
  parsed : ParsedManifest
  graph : DrainageGraph
  manifestBytes : List UInt8
  graphBytes : List UInt8
  readManifest_eq : readers.readManifestFromBytes manifestBytes = .ok parsed
  loadGraph_eq : readers.loadGraphFromBytes graphBytes = .ok graph

namespace ManifestGraphWrite

/-- The manifest and the graph of a write. -/
def artifacts (write : ManifestGraphWrite readers) : CachedRemoteArtifacts :=
  ⟨write.parsed.manifest, write.parsed.aux, write.graph⟩

/-- The entry directory of a write. -/
def dir (cache : RemoteArtifactCache) (write : ManifestGraphWrite readers) : CachePath :=
  cache.artifactCacheDir write.parsed.manifest.fabricName write.parsed.manifest.adapterVersion

/-- Run a write. -/
def run (cache : RemoteArtifactCache) (write : ManifestGraphWrite readers) (files : CacheFiles)
    (faults : List Bool) : Except SessionError Unit × CacheFiles × List Bool :=
  Faulty.run (cache.writeManifestGraph write.source write.parsed.manifest write.manifestBytes
    write.graphBytes) files faults

end ManifestGraphWrite

/-- The files of a cache, and the writes that have completed. -/
structure CacheHistory (readers : ArtifactReaders) where
  files : CacheFiles
  completed : List (ManifestGraphWrite readers)

namespace CacheHistory

/-- Before the first write. -/
def empty : CacheHistory readers := ⟨.empty, []⟩

/-- One more write; the operations that fail are those of the plan. -/
def call (cache : RemoteArtifactCache) (h : CacheHistory readers)
    (write : ManifestGraphWrite readers) (faults : List Bool) : CacheHistory readers :=
  match write.run cache h.files faults with
  | (.ok _, files, _) => ⟨files, write :: h.completed⟩
  | (.error _, files, _) => ⟨files, h.completed⟩

end CacheHistory

/-- **Soundness.** Whatever is returned for a source is the manifest and the graph of one completed
write of that source. -/
def CacheSound (cache : RemoteArtifactCache) (h : CacheHistory readers) : Prop :=
  ∀ source faults artifacts files faults',
    Faulty.run (cache.readEntryForSource readers source) h.files faults
      = (.ok (some artifacts), files, faults') →
    ∃ write ∈ h.completed, write.source = source ∧ artifacts = write.artifacts

/-- A write disturbs no entry: if it gets as far as replacing files in an entry directory that the
index of a source names, by the names of the write itself, then it completes and the index is that
of its own source, or the files it replaces hold the same bytes already. -/
def Undisturbed (cache : RemoteArtifactCache) (files : CacheFiles)
    (write : ManifestGraphWrite readers) (faults : List Bool) : Prop :=
  true ∈ faults.take 2 ∨
  ∀ source dir, cache.indexedDir files source = some dir → dir.resolve = (write.dir cache).resolve →
    cacheKeyMatches dir write.parsed.manifest →
    source = write.source ∧ true ∉ faults.take 5 ∨
    files.manifest dir.resolve = some write.manifestBytes ∧
      (true ∈ faults.take 3 ∨ files.graph dir.resolve = some write.graphBytes)

/-- Runs of writes none of which disturbs an entry. -/
inductive UndisturbedRun (cache : RemoteArtifactCache) : CacheHistory readers → Prop
  | empty : UndisturbedRun cache .empty
  | call {h : CacheHistory readers} (write : ManifestGraphWrite readers) (faults : List Bool) :
      UndisturbedRun cache h → Undisturbed cache h.files write faults →
      UndisturbedRun cache (h.call cache write faults)

/-! ### Writing -/

section Write

variable {write : ManifestGraphWrite readers} {files : CacheFiles} {faults : List Bool}

private theorem mem_take_succ {n : ℕ} :
    true ∈ faults.take (n + 1) ↔ faults.head? = some true ∨ true ∈ faults.tail.take n := by
  cases faults with
  | nil => simp
  | cons fault faults =>
    rw [List.take_succ_cons, List.mem_cons, List.head?_cons, List.tail_cons, Option.some.injEq,
      eq_comm]

/-- **What a write can do**: it fails before the first file, or after one or two files, or it
replaces the files of its entry and the index of its source. -/
theorem ManifestGraphWrite.run_cases (write : ManifestGraphWrite readers) (files : CacheFiles)
    (faults : List Bool) :
    (∃ e faults', true ∈ faults.take 2 ∧
      write.run cache files faults = (.error e, files, faults')) ∨
    (∃ e faults', true ∉ faults.take 2 ∧ true ∈ faults.take 3 ∧ write.run cache files faults
      = (.error e, files.writeManifest (write.dir cache).resolve write.manifestBytes, faults')) ∨
    (∃ e faults', true ∉ faults.take 3 ∧ true ∈ faults.take 5 ∧ write.run cache files faults
      = (.error e, (files.writeManifest (write.dir cache).resolve write.manifestBytes).writeGraph
          (write.dir cache).resolve write.graphBytes, faults')) ∨
    (∃ faults', true ∉ faults.take 5 ∧ write.run cache files faults
      = (.ok (), ((files.writeManifest (write.dir cache).resolve write.manifestBytes).writeGraph
          (write.dir cache).resolve write.graphBytes).writeSource
          (RemoteArtifactCache.sourceIndexHash write.source)
          ⟨write.source.url, write.source.remoteRoot, write.parsed.manifest.fabricName,
            write.parsed.manifest.adapterVersion⟩, faults')) := by
  simp only [ManifestGraphWrite.run, RemoteArtifactCache.writeManifestGraph,
    RemoteArtifactCache.writeSourceIndex, Faulty.run_attempt_bind, Faulty.run_update_bind,
    Faulty.run_update, mem_take_succ, List.take_zero, List.not_mem_nil, or_false]
  split_ifs with h0 h1 h2 h3 h4
  · exact .inl ⟨_, _, .inl h0, rfl⟩
  · exact .inl ⟨_, _, .inr h1, rfl⟩
  · exact .inr (.inl ⟨_, _, by simp only [h0, h1, or_self, not_false_eq_true],
      .inr (.inr h2), rfl⟩)
  · exact .inr (.inr (.inl ⟨_, _, by simp only [h0, h1, h2, or_self, not_false_eq_true],
      .inr (.inr (.inr (.inl h3))), rfl⟩))
  · exact .inr (.inr (.inl ⟨_, _, by simp only [h0, h1, h2, or_self, not_false_eq_true],
      .inr (.inr (.inr (.inr h4))), rfl⟩))
  · exact .inr (.inr (.inr ⟨_, by simp only [h0, h1, h2, h3, h4, or_self, not_false_eq_true], rfl⟩))

end Write

/-! ### Reading -/

section Read

variable {files files' : CacheFiles} {dir : CachePath} {source : Source}
  {artifacts : CachedRemoteArtifacts} {write : ManifestGraphWrite readers}

/-- What is returned for a source is the entry that its index names. -/
theorem indexedDir_of_run {faults faults' : List Bool}
    (h : Faulty.run (cache.readEntryForSource readers source) files faults
      = (.ok (some artifacts), files', faults')) :
    ∃ dir, cache.indexedDir files source = some dir ∧
      RemoteArtifactCache.entryAt readers files dir = some artifacts := by
  rw [RemoteArtifactCache.readEntryForSource, Faulty.run_store_bind] at h
  split_ifs at h
  · exact absurd h (by simp)
  · rw [Faulty.run_attempt_bind] at h
    split_ifs at h
    · exact absurd h (by simp)
    · split at h
      · exact absurd h (by simp)
      · next dir hdir =>
        refine ⟨dir, hdir, ?_⟩
        rw [RemoteArtifactCache.readEntry, Faulty.run_store_bind, Faulty.run_succeeds_bind] at h
        split_ifs at h
        · simpa using congrArg Prod.fst h
        · exact absurd h (by simp)

/-- Two caches with the same files in a directory have the same entry there. -/
theorem entryAt_congr (hmanifest : files.manifest dir.resolve = files'.manifest dir.resolve)
    (hgraph : files.graph dir.resolve = files'.graph dir.resolve) :
    RemoteArtifactCache.entryAt readers files dir
      = RemoteArtifactCache.entryAt readers files' dir := by
  rw [RemoteArtifactCache.entryAt, RemoteArtifactCache.entryAt, hmanifest, hgraph]

/-- The entry of a directory whose manifest a write has replaced: the names in the path are those
of the write. -/
theorem cacheKeyMatches_of_entryAt
    (hmanifest : files.manifest dir.resolve = some write.manifestBytes)
    (h : RemoteArtifactCache.entryAt readers files dir = some artifacts) :
    cacheKeyMatches dir write.parsed.manifest := by
  simp only [RemoteArtifactCache.entryAt, hmanifest, Option.bind_eq_bind, Option.bind_some,
    write.readManifest_eq, Except.toOption, Option.bind_eq_some_iff] at h
  obtain ⟨_, -, h⟩ := h
  by_contra hkey
  rw [if_neg hkey] at h
  exact absurd h (by simp)

/-- The entry of a directory that a write has filled. -/
theorem entryAt_eq_artifacts (hmanifest : files.manifest dir.resolve = some write.manifestBytes)
    (hgraph : files.graph dir.resolve = some write.graphBytes)
    (h : RemoteArtifactCache.entryAt readers files dir = some artifacts) :
    artifacts = write.artifacts := by
  have hkey := cacheKeyMatches_of_entryAt hmanifest h
  simp only [RemoteArtifactCache.entryAt, hmanifest, hgraph, Option.bind_eq_bind, Option.bind_some,
    write.readManifest_eq, write.loadGraph_eq, Except.toOption, if_pos hkey, Option.some.injEq] at h
  exact h.symm

/-- An entry is as it was, unless a write has replaced a file of it by other bytes. -/
theorem entryAt_of_replaced {d : CachePath}
    (hmanifest : files'.manifest = Function.update files.manifest d (some write.manifestBytes))
    (hgraph : ∀ d' ≠ d, files'.graph d' = files.graph d')
    (hsame : dir.resolve = d → cacheKeyMatches dir write.parsed.manifest →
      files.manifest d = some write.manifestBytes ∧ files'.graph d = files.graph d)
    (h : RemoteArtifactCache.entryAt readers files' dir = some artifacts) :
    RemoteArtifactCache.entryAt readers files dir = some artifacts := by
  by_cases hd : dir.resolve = d
  · have hnew : files'.manifest dir.resolve = some write.manifestBytes := by
      rw [hmanifest, hd, Function.update_self]
    obtain ⟨hold, hgraph⟩ := hsame hd (cacheKeyMatches_of_entryAt hnew h)
    rwa [entryAt_congr (hnew.trans (hd ▸ hold).symm) (hd ▸ hgraph)] at h
  · rwa [entryAt_congr (by rw [hmanifest, Function.update_of_ne hd]) (hgraph _ hd)] at h

end Read

/-! ### Runs -/

/-- Every entry that the index of a source names holds the artifacts of a completed write of that
source. -/
def EntriesOwned (cache : RemoteArtifactCache) (h : CacheHistory readers) : Prop :=
  ∀ source dir artifacts, cache.indexedDir h.files source = some dir →
    RemoteArtifactCache.entryAt readers h.files dir = some artifacts →
    ∃ write ∈ h.completed, write.source = source ∧ artifacts = write.artifacts

section Runs

variable {h : CacheHistory readers} {write : ManifestGraphWrite readers} {faults : List Bool}

theorem EntriesOwned.cacheSound (hown : EntriesOwned cache h) : CacheSound cache h := by
  intro source faults artifacts files faults' hrun
  obtain ⟨dir, hdir, hentry⟩ := indexedDir_of_run hrun
  exact hown source dir artifacts hdir hentry

theorem entriesOwned_empty : EntriesOwned cache (CacheHistory.empty : CacheHistory readers) := by
  intro source dir artifacts hdir
  simp [RemoteArtifactCache.indexedDir, CacheHistory.empty, CacheFiles.empty] at hdir

private theorem mem_take_of_le {m n : ℕ} (hle : m ≤ n) (hmem : true ∈ faults.take m) :
    true ∈ faults.take n :=
  (List.take_prefix_take_left hle).subset hmem

/-- An entry that is named as before, after a write that has replaced the manifest or both files. -/
private theorem EntriesOwned.of_replaced (hown : EntriesOwned cache h)
    (hund : Undisturbed cache h.files write faults) (hreplaced : true ∉ faults.take 2)
    {files' : CacheFiles} (hmanifest : files'.manifest = Function.update h.files.manifest
      (write.dir cache).resolve (some write.manifestBytes))
    (hgraph : files'.graph = h.files.graph ∨ true ∉ faults.take 3 ∧
      files'.graph
        = Function.update h.files.graph (write.dir cache).resolve (some write.graphBytes))
    {source : Source} {dir : CachePath} {artifacts : CachedRemoteArtifacts}
    (hother : source = write.source → true ∈ faults.take 5)
    (hdir : cache.indexedDir h.files source = some dir)
    (hentry : RemoteArtifactCache.entryAt readers files' dir = some artifacts) :
    ∃ write ∈ h.completed, write.source = source ∧ artifacts = write.artifacts := by
  refine hown source dir artifacts hdir (entryAt_of_replaced hmanifest (fun d hd => ?_) ?_ hentry)
  · rcases hgraph with hgraph | ⟨-, hgraph⟩
    · rw [hgraph]
    · rw [hgraph, Function.update_of_ne hd]
  · intro hd hkey
    rcases hund with hnone | hund
    · exact absurd hnone hreplaced
    · rcases hund source dir hdir hd hkey with ⟨hsource, hcomplete⟩ | ⟨holdManifest, holdGraph⟩
      · exact absurd (hother hsource) hcomplete
      · refine ⟨hd ▸ holdManifest, ?_⟩
        rcases hgraph with hgraph | ⟨h3, hgraph⟩
        · rw [hgraph]
        · rw [hgraph, Function.update_self, ← hd, holdGraph.resolve_left h3]

/-- **The step.** A write that disturbs no entry leaves every entry with its owner. -/
theorem EntriesOwned.call (hown : EntriesOwned cache h)
    (hund : Undisturbed cache h.files write faults) :
    EntriesOwned cache (h.call cache write faults) := by
  rcases write.run_cases h.files faults with ⟨e, faults', -, hrun⟩ | ⟨e, faults', h2, h3, hrun⟩ |
    ⟨e, faults', h3, h5, hrun⟩ | ⟨faults', h5, hrun⟩
  · rw [CacheHistory.call, hrun]
    exact hown
  · rw [CacheHistory.call, hrun]
    intro source dir artifacts hdir hentry
    exact hown.of_replaced hund h2 (by rfl) (.inl (by rfl)) (fun _ => mem_take_of_le (by decide) h3)
      hdir hentry
  · rw [CacheHistory.call, hrun]
    intro source dir artifacts hdir hentry
    exact hown.of_replaced hund (fun hmem => h3 (mem_take_of_le (by decide) hmem)) (by rfl)
      (.inr ⟨h3, by rfl⟩) (fun _ => h5) hdir hentry
  · have h3 : true ∉ faults.take 3 := fun hmem => h5 (mem_take_of_le (by decide) hmem)
    rw [CacheHistory.call, hrun]
    intro source dir artifacts hdir hentry
    by_cases hhash : RemoteArtifactCache.sourceIndexHash source
        = RemoteArtifactCache.sourceIndexHash write.source
    · -- the index is the one just written, so it names this source only if it is its own
      simp only [RemoteArtifactCache.indexedDir, CacheFiles.writeSource, hhash,
        Function.update_self, Option.bind_eq_bind, Option.bind_some, Option.ite_none_right_eq_some,
        Option.some.injEq] at hdir
      obtain ⟨⟨hurl, hroot⟩, rfl⟩ := hdir
      refine ⟨write, List.mem_cons_self, ?_, entryAt_eq_artifacts ?_ ?_ hentry⟩
      · cases source
        exact congrArg₂ Source.mk hurl hroot
      · exact Function.update_self ..
      · exact Function.update_self ..
    · have hsame : cache.indexedDir h.files source = some dir := by
        simpa only [RemoteArtifactCache.indexedDir, CacheFiles.writeSource, CacheFiles.writeGraph,
          CacheFiles.writeManifest, Function.update_of_ne hhash] using hdir
      obtain ⟨write', hmem, howner⟩ := hown.of_replaced hund
        (fun hmem => h3 (mem_take_of_le (by decide) hmem)) (by rfl) (.inr ⟨h3, by rfl⟩)
        (fun hsource => absurd (hsource ▸ rfl) hhash) hsame hentry
      exact ⟨write', List.mem_cons_of_mem _ hmem, howner⟩

/-- **Undisturbed runs are sound.** -/
theorem cacheSound_of_undisturbed (hrun : UndisturbedRun cache h) : CacheSound cache h := by
  refine EntriesOwned.cacheSound ?_
  induction hrun with
  | empty => exact entriesOwned_empty
  | call write faults _ hund ih => exact ih.call hund

end Runs

/-! ### Two sources with the same names -/

/-- Readers of two manifests with the same names and of two graphs, all files of one byte. -/
def sharedReaders : ArtifactReaders where
  readManifestFromBytes
    | [1] => .ok ⟨⟨"0.3.0", "merit", "v1", 1⟩, ⟨[], [], []⟩⟩
    | [2] => .ok ⟨⟨"0.3.0", "merit", "v1", 2⟩, ⟨[], [], []⟩⟩
    | _ => .error (.artifactParse "manifest.json")
  loadGraphFromBytes
    | [1] => .ok ⟨[⟨⟨1⟩, ⟨0⟩, []⟩], by decide⟩
    | [2] => .ok ⟨[⟨⟨1⟩, ⟨0⟩, []⟩, ⟨⟨2⟩, ⟨0⟩, [⟨1⟩]⟩], by decide⟩
    | _ => .error (.artifactParse "graph.parquet")

/-- A write of the first manifest and graph. -/
def sharedFirst (url : String) : ManifestGraphWrite sharedReaders :=
  ⟨⟨url, "data"⟩, _, _, [1], [1], rfl, rfl⟩

/-- A write of the second manifest and graph. -/
def sharedSecond (url : String) : ManifestGraphWrite sharedReaders :=
  ⟨⟨url, "data"⟩, _, _, [2], [2], rfl, rfl⟩

theorem cacheSound_rewrite : CacheSound ⟨["cache"]⟩
    ((CacheHistory.empty.call ⟨["cache"]⟩ (sharedFirst "s3://a") []).call ⟨["cache"]⟩
      (sharedSecond "s3://a") []) := by
  refine cacheSound_of_undisturbed (.call _ _ (.call _ _ .empty (.inr ?_)) (.inr ?_))
  · intro source dir hdir
    simp [RemoteArtifactCache.indexedDir, CacheHistory.empty, CacheFiles.empty] at hdir
  · intro source dir hdir _ _
    refine .inl ⟨?_, List.not_mem_nil⟩
    obtain ⟨index, hindex, hsource⟩ := Option.bind_eq_some_iff.mp hdir
    obtain ⟨⟨hurl, hroot⟩, -⟩ := Option.ite_none_right_eq_some.mp hsource
    change Function.update (fun _ => none) _ _ _ = _ at hindex
    rw [Function.update_apply, Option.ite_none_right_eq_some] at hindex
    obtain ⟨-, heq⟩ := hindex
    obtain rfl := Option.some.inj heq
    cases source
    exact congrArg₂ Source.mk hurl.symm hroot.symm

/-- **The defect.** A second source with the same names that fails after its first file leaves the
first source with a manifest of the second and a graph of its own. -/
theorem not_cacheSound_shared : ¬CacheSound ⟨["cache"]⟩
    ((CacheHistory.empty.call ⟨["cache"]⟩ (sharedFirst "s3://a") []).call ⟨["cache"]⟩
      (sharedSecond "s3://b") [false, false, true]) := by
  intro hsound
  have hread : ((Faulty.run (RemoteArtifactCache.readEntryForSource sharedReaders ⟨["cache"]⟩
      ⟨"s3://a", "data"⟩) ((CacheHistory.empty.call ⟨["cache"]⟩ (sharedFirst "s3://a") []).call
        ⟨["cache"]⟩ (sharedSecond "s3://b") [false, false, true]).files []).1.toOption.join.map
      fun artifacts => artifacts.manifest.unitCount) = some 2 := by
    decide +kernel
  rcases hrun : Faulty.run (RemoteArtifactCache.readEntryForSource sharedReaders ⟨["cache"]⟩
      ⟨"s3://a", "data"⟩) ((CacheHistory.empty.call ⟨["cache"]⟩ (sharedFirst "s3://a") []).call
        ⟨["cache"]⟩ (sharedSecond "s3://b") [false, false, true]).files []
    with ⟨_ | _ | artifacts, files, faults⟩
  · rw [hrun] at hread
    exact absurd hread (by simp [Except.toOption])
  · rw [hrun] at hread
    exact absurd hread (by simp [Except.toOption])
  · obtain ⟨write, hmem, -, rfl⟩ := hsound _ _ _ _ _ hrun
    obtain rfl := List.mem_singleton.mp hmem
    rw [hrun] at hread
    change some 1 = some 2 at hread
    exact absurd (Option.some.inj hread) (by decide)

end WatershedDelineation
