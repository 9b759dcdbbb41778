import WatershedDelineation.General.Checks
import WatershedDelineation.General.Interleaving
import WatershedDelineation.General.Scatter

/-!
# The Parquet chunk cache

`parquet_cache.rs`: the bytes of column chunks are kept in memory under the identity of the artifact
and the byte range, in a cache that all readers share. `getBytes` and `getByteRanges` are programs
of atomic operations on that cache, between which other readers run and entries are evicted.

The cache is transparent (`cachedReads_transparent`): in every interleaving a call returns the bytes
that it was asked for, or an error with which the inner reader has answered the call.
-/

namespace WatershedDelineation

open Interleaving

/-- A string of bytes. -/
abbrev Bytes := List UInt8

/-- Identifies which remote artifact a cached chunk belongs to. -/
structure ArtifactIdent where
  fabricName : String
  adapterVersion : String
  hfxFormatVersion : String
  artifact : String
  fileSize : UInt64
  etag : Option String
  lastModified : ℤ
  deriving DecidableEq, Repr

/-- A half-open range of bytes of a file. -/
structure ByteRange where
  start : UInt64
  stop : UInt64
  deriving DecidableEq, Repr

/-- The bytes of a range. -/
def ByteRange.slice (range : ByteRange) (content : Bytes) : Bytes :=
  (content.drop range.start.toNat).take (range.stop.toNat - range.start.toNat)

/-- Cache key for one column-chunk byte range. -/
structure ChunkKey where
  ident : ArtifactIdent
  chunkOffset : UInt64
  chunkLength : UInt64
  deriving DecidableEq, Repr

/-- Errors of Parquet readers: those that are raised with a text, and those of the object store. -/
inductive ParquetError
  | general (message : String)
  | external (message : String)
  deriving DecidableEq, Repr

/-! ### The cache -/

/-- The cached chunks, with counts of hits and misses. Which chunks are evicted, and when, is up to
the environment. -/
structure ParquetRowGroupCache where
  inner : ChunkKey → Option Bytes
  hits : UInt64
  misses : UInt64

namespace ParquetRowGroupCache

/-- A new cache is empty. -/
def new : ParquetRowGroupCache := ⟨fun _ => none, 0, 0⟩

/-- The cached bytes for a key; a hit is counted. -/
def get (key : ChunkKey) (cache : ParquetRowGroupCache) : Option Bytes × ParquetRowGroupCache :=
  match cache.inner key with
  | some bytes => (some bytes, { cache with hits := cache.hits + 1 })
  | none => (none, cache)

/-- Insert bytes under a key. -/
def insert (key : ChunkKey) (bytes : Bytes) (cache : ParquetRowGroupCache) :
    Unit × ParquetRowGroupCache :=
  ((), { cache with inner := Function.update cache.inner key (some bytes) })

/-- Count misses. -/
def addMisses (count : ℕ) (cache : ParquetRowGroupCache) : Unit × ParquetRowGroupCache :=
  ((), { cache with misses := cache.misses + UInt64.ofNat count })

/-- Drop the chunk of a key. -/
def evict (key : ChunkKey) (cache : ParquetRowGroupCache) : ParquetRowGroupCache :=
  { cache with inner := Function.update cache.inner key none }

end ParquetRowGroupCache

/-! ### The readers -/

/-- The answers of the reader of an artifact that does not use the cache. -/
structure InnerReader where
  getBytes : ByteRange → Except ParquetError Bytes
  getByteRanges : List ByteRange → Except ParquetError (List Bytes)

/-- What a call does, one operation on the cache or one answer of the inner reader at a time. -/
abbrev CacheProgram := Program ParquetRowGroupCache InnerReader

/-- A reader of an artifact, with or without the row-group cache. -/
structure CachingReader where
  rowGroupCache : Bool
  ident : ArtifactIdent

/-- The ranges that a look-up has found, at their positions, and those that are missing. -/
structure RangeLookup where
  ordered : List (Option Bytes)
  missingIndexes : List ℕ
  missingKeys : List ChunkKey
  missingRanges : List ByteRange

namespace CachingReader

/-- The key of a range. The length of a range that ends before it starts wraps around. -/
def chunkKey (reader : CachingReader) (range : ByteRange) : ChunkKey :=
  ⟨reader.ident, range.start, range.stop - range.start⟩

/-- Read the bytes of one range. -/
def getBytes (reader : CachingReader) (range : ByteRange) :
    CacheProgram (Except ParquetError Bytes) :=
  if reader.rowGroupCache then do
    let key := reader.chunkKey range
    match ← Program.atomically (ParquetRowGroupCache.get key) with
    | some bytes => pure (.ok bytes)
    | none =>
      Program.atomically (ParquetRowGroupCache.addMisses 1)
      match ← Program.ask fun inner => inner.getBytes range with
      | .error e => pure (.error e)
      | .ok bytes =>
        Program.atomically (ParquetRowGroupCache.insert key bytes)
        pure (.ok bytes)
  else Program.ask fun inner => inner.getBytes range

/-- Look up one of the requested ranges. -/
def lookUpRange (reader : CachingReader) (found : RangeLookup) (item : ByteRange × ℕ) :
    CacheProgram RangeLookup := do
  let key := reader.chunkKey item.1
  match ← Program.atomically (ParquetRowGroupCache.get key) with
  | some bytes => pure { found with ordered := found.ordered.set item.2 (some bytes) }
  | none => pure ⟨found.ordered, found.missingIndexes ++ [item.2], found.missingKeys ++ [key],
      found.missingRanges ++ [item.1]⟩

/-- Store one of the fetched ranges, in the cache and at its position. -/
def storeRange (ordered : List (Option Bytes)) (item : (ℕ × ChunkKey) × Bytes) :
    CacheProgram (List (Option Bytes)) := do
  Program.atomically (ParquetRowGroupCache.insert item.1.2 item.2)
  pure (ordered.set item.1.1 (some item.2))

/-- Read the bytes of several ranges; those that are missing are fetched together. -/
def getByteRanges (reader : CachingReader) (ranges : List ByteRange) :
    CacheProgram (Except ParquetError (List Bytes)) :=
  if reader.rowGroupCache then do
    let found ← ranges.zipIdx.foldlM reader.lookUpRange
      ⟨List.replicate ranges.length none, [], [], []⟩
    let missingCount := found.missingRanges.length
    Program.atomically (ParquetRowGroupCache.addMisses missingCount)
    if missingCount = 0 then
      pure (Checks.okOr (found.ordered.mapM id)
        (.general "cache hit assembly omitted a requested byte range"))
    else
      match ← Program.ask fun inner => inner.getByteRanges found.missingRanges with
      | .error e => pure (.error e)
      | .ok fetched =>
        if fetched.length ≠ missingCount then
          pure (.error (.general (s!"inner reader returned {fetched.length} byte ranges for " ++
            s!"{missingCount} requested ranges")))
        else
          let ordered ← ((found.missingIndexes.zip found.missingKeys).zip fetched).foldlM
            storeRange found.ordered
          pure (ordered.mapM fun bytes => Checks.okOr bytes
            (.general "inner reader returned fewer byte ranges than requested"))
  else Program.ask fun inner => inner.getByteRanges ranges

end CachingReader

/-- What a reader is asked for. -/
inductive ReadRequest
  | bytes (range : ByteRange)
  | byteRanges (ranges : List ByteRange)

/-- What it returns. -/
inductive ReadResponse
  | bytes (bytes : Bytes)
  | byteRanges (bytes : List Bytes)
  deriving DecidableEq, Repr

/-- A call of a reader. -/
structure ReadCall where
  reader : CachingReader
  request : ReadRequest

/-- The program of a call. -/
def ReadCall.program (call : ReadCall) :
    CacheProgram (Except ParquetError ReadResponse) :=
  match call.request with
  | .bytes range => do return (← call.reader.getBytes range).map .bytes
  | .byteRanges ranges => do return (← call.reader.getByteRanges ranges).map .byteRanges

/-! ### What one call promises -/

/-- Every cached chunk holds the bytes of its artifact. -/
def ParquetRowGroupCache.Sound (content : ArtifactIdent → Bytes) (cache : ParquetRowGroupCache) :
    Prop :=
  ∀ (reader : CachingReader) (range : ByteRange) (bytes : Bytes),
    cache.inner (reader.chunkKey range) = some bytes → bytes = range.slice (content reader.ident)

/-- The inner reader answers with the bytes of the artifact, if not with an error. -/
structure InnerReader.Correct (artifact : Bytes) (inner : InnerReader) : Prop where
  getBytes : ∀ range bytes, inner.getBytes range = .ok bytes → bytes = range.slice artifact
  getByteRanges : ∀ ranges bytes, inner.getByteRanges ranges = .ok bytes →
    bytes = ranges.map (·.slice artifact)

/-- The next action of a call asks the inner reader, and the answer is an error. A call asks for the
requested range, or for those of the requested ranges that it has not found in the cache, in their
order; it asks for no ranges only if none were requested. -/
def ReadRequest.FailsWith {α : Type} (program : CacheProgram α) (inner : InnerReader)
    (e : ParquetError) : ReadRequest → Prop
  | .bytes range => program.Asks (·.getBytes range) ∧ inner.getBytes range = .error e
  | .byteRanges ranges => ∃ asked, asked.Sublist ranges ∧ (asked = [] → ranges = []) ∧
      program.Asks (·.getByteRanges asked) ∧ inner.getByteRanges asked = .error e

/-- A part of a call fails as a part of the call. -/
theorem ReadRequest.FailsWith.bind {α β : Type} {program : CacheProgram α} {inner : InnerReader}
    {e : ParquetError} {request : ReadRequest} (h : request.FailsWith program inner e)
    (f : α → CacheProgram β) : request.FailsWith (program >>= f) inner e := by
  cases request with
  | bytes range => exact ⟨h.1.bind f, h.2⟩
  | byteRanges ranges =>
    obtain ⟨asked, hsub, hnil, hasks, hanswer⟩ := h
    exact ⟨asked, hsub, hnil, hasks.bind f, hanswer⟩

/-- What is assumed of the answers to a program that serves a request: they are right if they are
not errors, and an error of the request is one with `E`. -/
structure ReadRequest.Serves {α : Type} (artifact : Bytes) (E : ParquetError → Prop)
    (request : ReadRequest) (good : CacheProgram α → InnerReader → Prop) : Prop where
  correct : ∀ program inner, good program inner → inner.Correct artifact
  fails : ∀ program inner e, good program inner → request.FailsWith program inner e → E e

/-- The answers to a part of a program are answers to the program. -/
theorem ReadRequest.Serves.part {α β : Type} {artifact : Bytes} {E : ParquetError → Prop}
    {request : ReadRequest} {good : CacheProgram β → InnerReader → Prop}
    (h : request.Serves artifact E good) (f : α → CacheProgram β) :
    request.Serves artifact E fun program inner => good (program >>= f) inner where
  correct _ := h.correct _
  fails _ inner e hgood hfails := h.fails _ inner e hgood (hfails.bind f)

/-- What a call has to return. -/
def ReadRequest.response (artifact : Bytes) : ReadRequest → ReadResponse
  | .bytes range => .bytes (range.slice artifact)
  | .byteRanges ranges => .byteRanges (ranges.map (·.slice artifact))

/-- Different ranges have different keys, also where lengths wrap around. -/
theorem CachingReader.chunkKey_inj {reader reader' : CachingReader} {range range' : ByteRange}
    (h : reader.chunkKey range = reader'.chunkKey range') :
    reader.ident = reader'.ident ∧ range = range' := by
  obtain ⟨hident, hstart, hlength⟩ := ChunkKey.mk.inj h
  refine ⟨hident, ?_⟩
  have hstop : range.stop = range'.stop := by
    rw [hstart] at hlength
    have := congrArg (· + range'.start) hlength
    simpa only [UInt64.sub_add_cancel] using this
  cases range
  cases range'
  exact congrArg₂ ByteRange.mk hstart hstop

section Promise

variable {content : ArtifactIdent → Bytes} {reader : CachingReader}
  {E : ParquetError → Prop} {range : ByteRange} {ranges : List ByteRange} {bytes : Bytes}

/-- The result is as expected, or an error with `E`. -/
def ResultIs {α : Type} (E : ParquetError → Prop) (expected : α) : Except ParquetError α → Prop
  | .ok a => a = expected
  | .error e => E e

theorem ensures_get {good : CacheProgram (Option Bytes) → InnerReader → Prop} :
    (Program.atomically (ParquetRowGroupCache.get (reader.chunkKey range))).Ensures good
      (ParquetRowGroupCache.Sound content)
      fun found => ∀ bytes, found = some bytes → bytes = range.slice (content reader.ident) := by
  refine Program.ensures_atomically fun cache hsound => ?_
  rw [ParquetRowGroupCache.get]
  cases hkey : cache.inner (reader.chunkKey range) with
  | none => exact ⟨hsound, by simp⟩
  | some bytes => exact ⟨hsound, fun _ h => Option.some.inj h ▸ hsound reader range bytes hkey⟩

theorem ensures_addMisses {good : CacheProgram Unit → InnerReader → Prop} (count : ℕ) :
    (Program.atomically (ParquetRowGroupCache.addMisses count)).Ensures good
      (ParquetRowGroupCache.Sound content) fun _ => True :=
  Program.ensures_atomically fun _ hsound => ⟨hsound, trivial⟩

theorem ensures_insert {good : CacheProgram Unit → InnerReader → Prop}
    (h : bytes = range.slice (content reader.ident)) :
    (Program.atomically (ParquetRowGroupCache.insert (reader.chunkKey range) bytes)).Ensures good
      (ParquetRowGroupCache.Sound content) fun _ => True := by
  refine Program.ensures_atomically fun cache hsound => ⟨fun reader' range' bytes' hbytes' => ?_,
    trivial⟩
  rcases eq_or_ne (reader'.chunkKey range') (reader.chunkKey range) with heq | hne
  · obtain ⟨hident, rfl⟩ := CachingReader.chunkKey_inj heq
    simp only [ParquetRowGroupCache.insert, heq, Function.update_self, Option.some.injEq] at hbytes'
    rw [← hbytes', h, hident]
  · simp only [ParquetRowGroupCache.insert, Function.update_of_ne hne] at hbytes'
    exact hsound reader' range' bytes' hbytes'

/-- Asking for one range. -/
theorem ask_getBytes_ensures {good : CacheProgram (Except ParquetError Bytes) → InnerReader → Prop}
    (h : (ReadRequest.bytes range).Serves (content reader.ident) E good) :
    (Program.ask fun inner : InnerReader => inner.getBytes range).Ensures good
      (ParquetRowGroupCache.Sound content) (ResultIs E (range.slice (content reader.ident))) := by
  refine Program.ensures_ask fun inner hinner => ?_
  cases hanswer : inner.getBytes range with
  | ok bytes => exact (h.correct _ inner hinner).getBytes range bytes hanswer
  | error e => exact h.fails _ inner e hinner ⟨Program.asks_ask _, hanswer⟩

/-- **One range.** -/
theorem getBytes_ensures {good : CacheProgram (Except ParquetError Bytes) → InnerReader → Prop}
    (h : (ReadRequest.bytes range).Serves (content reader.ident) E good) :
    (reader.getBytes range).Ensures good (ParquetRowGroupCache.Sound content)
      (ResultIs E (range.slice (content reader.ident))) := by
  rw [CachingReader.getBytes]
  split_ifs
  · refine ensures_get.bind fun found hfound => ?_
    cases found with
    | some bytes => exact hfound bytes rfl
    | none =>
      refine (ensures_addMisses 1).bind fun _ _ => ?_
      refine (ask_getBytes_ensures (h.part _)).bind fun answer hanswer => ?_
      cases answer with
      | error e => exact hanswer
      | ok bytes => exact (ensures_insert hanswer).bind fun _ _ => hanswer
  · exact ask_getBytes_ensures h

end Promise

/-! ### Several ranges -/

open Scatter

/-- What has been found when the ranges `visited` have been looked up: their bytes in the right
slots, and the missing ones in the lists of misses. -/
structure LookedUp (reader : CachingReader) (artifact : Bytes) (ranges : List ByteRange)
    (visited : List (ByteRange × ℕ)) (found : RangeLookup) : Prop where
  scattered : Scattered (ranges.map (·.slice artifact)) found.ordered
  misses : ∃ misses : List (ByteRange × ℕ), found.missingIndexes = misses.map (·.2) ∧
    found.missingKeys = misses.map (reader.chunkKey ·.1) ∧
    found.missingRanges = misses.map (·.1) ∧ misses.Sublist visited ∧
    ∀ item ∈ visited, item ∈ misses ∨ Filled found.ordered item.2

/-- What has been stored when the misses `visited` have been. -/
structure Stored (expected : List Bytes) (before : List (Option Bytes))
    (visited : List ((ℕ × ChunkKey) × Bytes)) (ordered : List (Option Bytes)) : Prop where
  scattered : Scattered expected ordered
  kept : ∀ i, Filled before i → Filled ordered i
  stored : ∀ item ∈ visited, Filled ordered item.1.1

section Ranges

variable {content : ArtifactIdent → Bytes} {reader : CachingReader} {E : ParquetError → Prop}
  {ranges : List ByteRange}

private theorem getElem?_expected {item : ByteRange × ℕ} {artifact : Bytes}
    (h : item ∈ ranges.zipIdx) :
    (ranges.map (·.slice artifact))[item.2]? = some (item.1.slice artifact) := by
  rw [List.getElem?_map, List.mem_zipIdx_iff_getElem?.mp h, Option.map_some]

/-- **Looking up** all ranges. -/
theorem lookUpRange_ensures {good : CacheProgram RangeLookup → InnerReader → Prop}
    (reader : CachingReader) (ranges : List ByteRange) :
    (ranges.zipIdx.foldlM reader.lookUpRange
      ⟨List.replicate ranges.length none, [], [], []⟩).Ensures good
      (ParquetRowGroupCache.Sound content)
      (LookedUp reader (content reader.ident) ranges ranges.zipIdx) := by
  refine Program.ensures_foldlM ⟨scattered_replicate (List.length_map _),
    ⟨[], rfl, rfl, rfl, .slnil, by simp⟩⟩ ?_
  rintro visited item rest found heq ⟨hscattered, misses, hindexes, hkeys, hranges, hsub, hvisited⟩
  have hitem : item ∈ ranges.zipIdx := heq ▸ by simp
  refine ensures_get.bind fun answer hanswer => ?_
  cases answer with
  | some bytes =>
    -- a hit is what the artifact has there, since the cache is sound
    obtain rfl := hanswer bytes rfl
    have hset := hscattered.set (getElem?_expected hitem)
    refine Program.ensures_pure
      ⟨hset, misses, hindexes, hkeys, hranges, hsub.trans (List.sublist_append_left ..),
        fun other hother => ?_⟩
    rcases List.mem_append.mp hother with hother | hother
    · exact (hvisited other hother).imp_right Filled.set
    · rw [List.mem_singleton.mp hother]
      have hlt : item.2 < found.ordered.length := by
        rw [hscattered.length_eq]
        exact (List.getElem?_eq_some_iff.mp (getElem?_expected hitem)).1
      exact .inr (filled_set_self hlt)
  | none =>
    -- a miss is the last one, and leaves its slot empty
    refine Program.ensures_pure
      ⟨hscattered, misses ++ [item], ?_, ?_, ?_, hsub.append (.refl [item]), ?_⟩
    · rw [List.map_append, ← hindexes, List.map_singleton]
    · rw [List.map_append, ← hkeys, List.map_singleton]
    · rw [List.map_append, ← hranges, List.map_singleton]
    · intro other hother
      rcases List.mem_append.mp hother with hother | hother
      · exact (hvisited other hother).imp_left (List.mem_append_left _)
      · exact .inl (List.mem_append_right _ hother)

/-- **Storing** what has been fetched. -/
theorem storeRange_ensures {good : CacheProgram (List (Option Bytes)) → InnerReader → Prop}
    {misses : List (ByteRange × ℕ)} {ordered : List (Option Bytes)}
    (hscattered : Scattered (ranges.map (·.slice (content reader.ident))) ordered)
    (hmem : ∀ miss ∈ misses, miss ∈ ranges.zipIdx) :
    ((misses.map fun miss => ((miss.2, reader.chunkKey miss.1),
      miss.1.slice (content reader.ident))).foldlM CachingReader.storeRange ordered).Ensures good
      (ParquetRowGroupCache.Sound content)
      (Stored (ranges.map (·.slice (content reader.ident))) ordered
        (misses.map fun miss => ((miss.2, reader.chunkKey miss.1),
          miss.1.slice (content reader.ident)))) := by
  refine Program.ensures_foldlM ⟨hscattered, fun _ h => h, by simp⟩ ?_
  rintro visited item rest slots heq ⟨hslots, hkept, hstored⟩
  have hitem : item ∈ visited ++ [item] ++ rest := by simp
  rw [heq] at hitem
  obtain ⟨miss, hmiss, rfl⟩ := List.mem_map.mp hitem
  have hexpected : (ranges.map (·.slice (content reader.ident)))[miss.2]?
      = some (miss.1.slice (content reader.ident)) := getElem?_expected (hmem miss hmiss)
  refine (ensures_insert rfl).bind fun _ _ => Program.ensures_pure ⟨hslots.set hexpected,
    fun i hi => (hkept i hi).set, fun other hother => ?_⟩
  rcases List.mem_append.mp hother with hother | hother
  · exact (hstored other hother).set
  · rw [List.mem_singleton.mp hother]
    exact filled_set_self (hslots.length_eq ▸ (List.getElem?_eq_some_iff.mp hexpected).1)

/-- Asking for several ranges. -/
theorem ask_getByteRanges_ensures
    {good : CacheProgram (Except ParquetError (List Bytes)) → InnerReader → Prop}
    {asked : List ByteRange} (hasked : asked.Sublist ranges) (hnil : asked = [] → ranges = [])
    (h : (ReadRequest.byteRanges ranges).Serves (content reader.ident) E good) :
    (Program.ask fun inner : InnerReader => inner.getByteRanges asked).Ensures good
      (ParquetRowGroupCache.Sound content)
      (ResultIs E (asked.map (·.slice (content reader.ident)))) := by
  refine Program.ensures_ask fun inner hinner => ?_
  cases hanswer : inner.getByteRanges asked with
  | ok bytes => exact (h.correct _ inner hinner).getByteRanges asked bytes hanswer
  | error e =>
    exact h.fails _ inner e hinner ⟨asked, hasked, hnil, Program.asks_ask _, hanswer⟩

/-- **Several ranges.** -/
theorem getByteRanges_ensures
    {good : CacheProgram (Except ParquetError (List Bytes)) → InnerReader → Prop}
    (h : (ReadRequest.byteRanges ranges).Serves (content reader.ident) E good) :
    (reader.getByteRanges ranges).Ensures good (ParquetRowGroupCache.Sound content)
      (ResultIs E (ranges.map (·.slice (content reader.ident)))) := by
  rw [CachingReader.getByteRanges]
  split_ifs
  · refine (lookUpRange_ensures reader ranges).bind fun found hfound => ?_
    obtain ⟨hscattered, misses, hindexes, hkeys, hranges, hsub, hvisited⟩ := hfound
    have hasked : found.missingRanges.Sublist ranges := by
      have hfirst := hsub.map Prod.fst
      rwa [← hranges, List.zipIdx_map_fst] at hfirst
    -- every slot is filled that belongs to no miss
    have hfilled (i : ℕ) (hi : i < found.ordered.length) :
        Filled found.ordered i ∨ ∃ miss ∈ misses, miss.2 = i := by
      have hlt : i < ranges.length := by
        rwa [hscattered.length_eq, List.length_map] at hi
      rcases hvisited (ranges[i], i) (List.mem_zipIdx_iff_getElem?.mpr
        (List.getElem?_eq_getElem hlt)) with hmiss | hfilled
      · exact .inr ⟨_, hmiss, rfl⟩
      · exact .inl hfilled
    refine (ensures_addMisses _).bind fun _ _ => ?_
    split_ifs with hzero
    · have hnone : misses = [] := by
        rw [hranges, List.length_map] at hzero
        exact List.eq_nil_of_length_eq_zero hzero
      have hall : found.ordered = (ranges.map (·.slice (content reader.ident))).map some := by
        refine hscattered.eq_map_some fun i hi => (hfilled i hi).resolve_right ?_
        rintro ⟨miss, hmiss, -⟩
        rw [hnone] at hmiss
        exact List.not_mem_nil hmiss
      have hcollect : found.ordered.mapM id
          = some (ranges.map (·.slice (content reader.ident))) := by
        rw [hall, List.mapM_map]
        exact List.mapM_pure.trans (congrArg some (List.map_id _))
      refine Program.ensures_pure ?_
      rw [hcollect]
      exact rfl
    · -- something is missing, and it is asked for
      have hnil : found.missingRanges = [] → ranges = [] := fun h => absurd (h ▸ rfl) hzero
      refine (ask_getByteRanges_ensures hasked hnil (h.part _)).bind fun answer hanswer => ?_
      cases answer with
      | error e => exact hanswer
      | ok fetched =>
        obtain rfl : fetched = _ := hanswer
        rw [hranges, hindexes, hkeys, List.map_map, List.zip_map']
        dsimp only
        rw [List.zip_map', List.length_map, List.length_map, if_neg (not_not_intro rfl)]
        have hmem (miss : ByteRange × ℕ) (hmiss : miss ∈ misses) : miss ∈ ranges.zipIdx :=
          hsub.subset hmiss
        refine (storeRange_ensures hscattered hmem).bind fun ordered hordered => ?_
        have hall : ordered = (ranges.map (·.slice (content reader.ident))).map some := by
          refine hordered.scattered.eq_map_some fun i hi => ?_
          rw [hordered.scattered.length_eq, ← hscattered.length_eq] at hi
          rcases hfilled i hi with hfilled | ⟨miss, hmiss, rfl⟩
          · exact hordered.kept i hfilled
          · exact hordered.stored _ (List.mem_map_of_mem hmiss)
        refine Program.ensures_pure ?_
        rw [hall, Checks.mapM_okOr_map_some]
        exact rfl
  · exact ask_getByteRanges_ensures (.refl ranges) id h

end Ranges

/-! ### All calls -/

/-- The calls as tasks that share a cache, from which the environment evicts chunks. -/
def cachedReads : System ParquetRowGroupCache (CacheProgram (Except ParquetError ReadResponse))
    InnerReader ChunkKey :=
  Program.system ParquetRowGroupCache.evict

/-- An empty cache, and all calls before their first step. -/
def ReadCall.start {ι : Type} (calls : ι → ReadCall) :
    Config ι ParquetRowGroupCache (CacheProgram (Except ParquetError ReadResponse)) :=
  ⟨.new, fun i => (calls i).program⟩

/-- The inner reader of an artifact when nothing fails. -/
def InnerReader.ofArtifact (artifact : Bytes) : InnerReader where
  getBytes range := .ok (range.slice artifact)
  getByteRanges ranges := .ok (ranges.map (·.slice artifact))

theorem InnerReader.correct_ofArtifact (artifact : Bytes) :
    (InnerReader.ofArtifact artifact).Correct artifact :=
  ⟨fun _ _ h => (Except.ok.inj h).symm, fun _ _ h => (Except.ok.inj h).symm⟩

theorem ParquetRowGroupCache.Sound.evict {content : ArtifactIdent → Bytes} {key : ChunkKey}
    {cache : ParquetRowGroupCache} (h : cache.Sound content) : (cache.evict key).Sound content := by
  intro reader range bytes hbytes
  rcases eq_or_ne (reader.chunkKey range) key with rfl | hne
  · simp [ParquetRowGroupCache.evict] at hbytes
  · simp only [ParquetRowGroupCache.evict, Function.update_of_ne hne] at hbytes
    exact h reader range bytes hbytes

theorem ReadCall.program_ensures {content : ArtifactIdent → Bytes}
    {good : CacheProgram (Except ParquetError ReadResponse) → InnerReader → Prop}
    {E : ParquetError → Prop} (call : ReadCall)
    (h : call.request.Serves (content call.reader.ident) E good) :
    call.program.Ensures good (ParquetRowGroupCache.Sound content)
      (ResultIs E (call.request.response (content call.reader.ident))) := by
  obtain ⟨reader, request⟩ := call
  rw [ReadCall.program]
  cases request with
  | bytes range =>
    refine (getBytes_ensures (h.part _)).bind fun result hresult => ?_
    cases result with
    | ok bytes => exact congrArg ReadResponse.bytes hresult
    | error e => exact hresult
  | byteRanges ranges =>
    refine (getByteRanges_ensures (h.part _)).bind fun result hresult => ?_
    cases result with
    | ok bytes => exact congrArg ReadResponse.byteRanges hresult
    | error e => exact hresult

/-- **The cache is transparent.** However the operations of any number of calls are interleaved with
each other and with evictions, a call that returns has read exactly the bytes of the ranges it was
asked for, in their order, or it returns an error that the inner reader has answered it with: at one
of its own steps it has asked for requested ranges, and this was the answer. So a call that is
answered whenever it asks returns the bytes. A call that is scheduled again and again returns. -/
theorem cachedReads_transparent {ι : Type} [DecidableEq ι] (content : ArtifactIdent → Bytes)
    (calls : ι → ReadCall) (schedule : ℕ → Event ι InnerReader ChunkKey)
    (hcorrect : ∀ n i inner, schedule n = .task i inner →
      inner.Correct (content (calls i).reader.ident)) (i : ι) :
    (∀ n result, (run cachedReads (ReadCall.start calls) schedule n).task i = .ret result →
      result = .ok ((calls i).request.response (content (calls i).reader.ident)) ∨
      ∃ m < n, ∃ inner e, schedule m = .task i inner ∧
        (calls i).request.FailsWith ((run cachedReads (ReadCall.start calls) schedule m).task i)
          inner e ∧ result = .error e) ∧
    ((∀ m inner e, schedule m = .task i inner →
      ¬(calls i).request.FailsWith ((run cachedReads (ReadCall.start calls) schedule m).task i)
        inner e) →
      ∀ n result, (run cachedReads (ReadCall.start calls) schedule n).task i = .ret result →
        result = .ok ((calls i).request.response (content (calls i).reader.ident))) ∧
    (Fair schedule i →
      ∃ n result, (run cachedReads (ReadCall.start calls) schedule n).task i = .ret result) := by
  have hresult (n : ℕ) (result : Except ParquetError ReadResponse)
      (hret : (run cachedReads (ReadCall.start calls) schedule n).task i = .ret result) :
      result = .ok ((calls i).request.response (content (calls i).reader.ident)) ∨
        ∃ m < n, ∃ inner e, schedule m = .task i inner ∧
          (calls i).request.FailsWith ((run cachedReads (ReadCall.start calls) schedule m).task i)
            inner e ∧ result = .error e := by
    have hempty : ParquetRowGroupCache.new.Sound content := fun _ _ _ h => by
      simp [ParquetRowGroupCache.new] at h
    -- an answer is good if it was given to the call at one of its steps
    have hcall (i : ι) : (calls i).program.Ensures
        (fun p inner => ∃ m < n, schedule m = .task i inner ∧
          (run cachedReads (ReadCall.start calls) schedule m).task i = p)
        (ParquetRowGroupCache.Sound content)
        (ResultIs (fun e => ∃ m < n, ∃ inner, schedule m = .task i inner ∧
          (calls i).request.FailsWith ((run cachedReads (ReadCall.start calls) schedule m).task i)
            inner e)
          ((calls i).request.response (content (calls i).reader.ident))) := by
      refine (calls i).program_ensures ⟨?_, ?_⟩
      · rintro p inner ⟨m, -, hm, -⟩
        exact hcorrect m i inner hm
      · rintro p inner e ⟨m, hmn, hm, rfl⟩ he
        exact ⟨m, hmn, inner, hm, he⟩
    have hpromise := Program.run_ensures (c := ReadCall.start calls) hempty hcall
      (fun _ _ h => h.evict) (fun m hm _ _ h => ⟨m, hm, h, rfl⟩) hret
    cases result with
    | ok response => exact .inl (congrArg Except.ok hpromise)
    | error e =>
      obtain ⟨m, hmn, inner, hm, he⟩ := hpromise
      exact .inr ⟨m, hmn, inner, e, hm, he, rfl⟩
  refine ⟨hresult, fun hanswered n result hret => ?_, Program.run_returns⟩
  refine (hresult n result hret).resolve_right ?_
  rintro ⟨m, -, inner, e, hevent, hfails, -⟩
  exact hanswered m inner e hevent hfails

/-- An artifact of four bytes. -/
def sampleIdent : ArtifactIdent := ⟨"fabric", "v1", "0.3.0", "catchments.parquet", 4, none, 0⟩

/-- Two calls for overlapping ranges, one of them twice in a call. -/
def sampleReads : Bool → ReadCall
  | true => ⟨⟨true, sampleIdent⟩, .byteRanges [⟨2, 4⟩, ⟨0, 2⟩, ⟨2, 4⟩]⟩
  | false => ⟨⟨true, sampleIdent⟩, .bytes ⟨0, 2⟩⟩

/-- The two calls in turn, with an eviction after every step. -/
def sampleSchedule (n : ℕ) : Event Bool InnerReader ChunkKey :=
  if n % 2 = 0 then .task (n % 4 = 0) (.ofArtifact [5, 6, 7, 8]) else .env ⟨sampleIdent, 2, 2⟩

/-- The first call of the two returns its bytes, whatever is evicted. -/
theorem cachedReads_transparent_sample :
    (∀ n result,
      (run cachedReads (ReadCall.start sampleReads) sampleSchedule n).task true = .ret result →
      result = .ok (.byteRanges [[7, 8], [5, 6], [7, 8]])) ∧
    ∃ n result,
      (run cachedReads (ReadCall.start sampleReads) sampleSchedule n).task true = .ret result := by
  have hinner (n : ℕ) (i : Bool) (inner : InnerReader) (h : sampleSchedule n = .task i inner) :
      inner = .ofArtifact [5, 6, 7, 8] := by
    rw [sampleSchedule] at h
    split_ifs at h
    exact (Event.task.inj h).2.symm
  have hfair : Fair sampleSchedule true := fun n =>
    ⟨4 * n, by omega, .ofArtifact [5, 6, 7, 8], by
      rw [sampleSchedule, if_pos (by omega), decide_eq_true (by omega)]⟩
  obtain ⟨-, hbytes, hreturns⟩ := cachedReads_transparent (fun _ => [5, 6, 7, 8]) sampleReads
    sampleSchedule (fun n i inner h => hinner n i inner h ▸ InnerReader.correct_ofArtifact _) true
  refine ⟨hbytes fun n inner e h hfails => ?_, hreturns hfair⟩
  obtain rfl := hinner n true inner h
  obtain ⟨asked, -, -, -, hanswer⟩ := hfails
  cases hanswer

end WatershedDelineation
