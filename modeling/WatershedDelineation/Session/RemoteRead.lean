import WatershedDelineation.Cog.RemoteTiff
import WatershedDelineation.General.ConsecutiveRanges
import WatershedDelineation.General.OrderedBuffer
import WatershedDelineation.Session.RemoteOpen

/-!
# Reading a remote artifact

`read_remote_artifact` of `session.rs`: a small artifact is read with one request, and a large one
in ranges, several of which are requested at a time. Arithmetic is that of words of 64 bits, also
for `usize`.

The object store and the buffer of requests (`buffered` of streams) are parameters. The ranges
follow each other from the first byte of the artifact to the last (`exists_remoteArtifactRanges`),
so a read returns the artifact, or an error if a request has failed. This is what opening a
dataset makes of a read (`readRemoteArtifact_refines`).
-/

namespace WatershedDelineation

open Checked (orErr orPanic)
open ConsecutiveRanges OrderedBuffer

def rangeGetChunkTargetBytes : ℕ := 4 * 1024 * 1024

def defaultRangeGetConcurrency : ℕ := 8

def minRangeGetConcurrency : ℕ := 1

def maxRangeGetConcurrency : ℕ := 16

/-- How many ranges are requested at a time, from the value of the environment variable. -/
def pourpointGetRangesConcurrency (value : Option String) : ℕ :=
  let configured := value.bind fun value => (parseInt 0 (2 ^ 64 - 1) value).map Int.toNat
  min (max (configured.getD defaultRangeGetConcurrency) minRangeGetConcurrency)
    maxRangeGetConcurrency

/-- The range with the given index, for ranges of one size. -/
def remoteArtifactRange (size rangeSize index : ℕ) : Except (Fault Empty) RemoteRange := do
  let start ← orPanic (Checked.mul 64 index rangeSize)
  let next ← orPanic (Checked.add 64 index 1)
  let stop ← orPanic (Checked.mul 64 next rangeSize)
  .ok ⟨start, min stop size⟩

/-- The ranges in which an artifact is read. -/
def remoteArtifactRanges (size concurrency : ℕ) : Except (Fault Empty) (List RemoteRange) := do
  let chunkCount ← orPanic (Checked.divCeil size rangeGetChunkTargetBytes)
  let rangeCount := max (min chunkCount concurrency) 1
  let rangeSize ← orPanic (Checked.divCeil size rangeCount)
  (List.range rangeCount).mapM (remoteArtifactRange size rangeSize)

/-- What the store answers to the requests for an object; those that fail have no answer. -/
structure ObjectAnswers where
  head : Option ObjectMeta
  get : Option (List UInt8)
  getRange : RemoteRange → Option (List UInt8)

/-- Put the answers together; if a request has failed, that is an error. -/
def extendFromChunks (failed : SessionError) (bytes : List UInt8)
    (chunks : List (Option (List UInt8))) : Except (Fault SessionError) (List UInt8) :=
  chunks.foldlM (fun bytes chunk => do
    let chunk ← orErr chunk failed
    .ok (bytes ++ chunk)) bytes

/-- Read an artifact. -/
def ObjectAnswers.readRemoteArtifact (answers : ObjectAnswers)
    (buffered : ℕ → List (Option (List UInt8)) → List (Option (List UInt8)))
    (configured : Option String) (artifact path : String) :
    Except (Fault SessionError) (List UInt8) := do
  let failed := SessionError.remoteArtifactRead artifact path
  let head ← orErr answers.head failed
  if rangeGetChunkTargetBytes < head.size then
    let concurrency := pourpointGetRangesConcurrency configured
    let ranges ← Fault.noErr (remoteArtifactRanges head.size concurrency)
    let chunks := buffered concurrency (ranges.map answers.getRange)
    let capacity ← orErr (Checked.fit 64 head.size)
      (.integrityViolation s!"remote artifact {artifact} at {path} is too large to buffer")
    -- a buffer for more bytes than this cannot be made
    let _ ← orPanic (Checked.fit 63 capacity)
    extendFromChunks failed [] chunks
  else orErr answers.get failed

/-! ### Ranges -/

section Ranges

variable {size concurrency : ℕ}

theorem pourpointGetRangesConcurrency_bounds (value : Option String) :
    minRangeGetConcurrency ≤ pourpointGetRangesConcurrency value ∧
      pourpointGetRangesConcurrency value ≤ maxRangeGetConcurrency := by
  constructor
  · exact Nat.le_min.mpr ⟨Nat.le_max_right .., by decide⟩
  · exact Nat.min_le_right ..

example : [none, some "0", some "32", some "fast"].map pourpointGetRangesConcurrency
    = [8, 1, 16, 8] := by decide +kernel

/-- How many ranges there are. -/
def rangeCountOf (size concurrency : ℕ) : ℕ :=
  max (min (ceilPart size rangeGetChunkTargetBytes) concurrency) 1

theorem rangeCountOf_pos : 0 < rangeCountOf size concurrency := Nat.le_max_right ..

/-- All ranges but the last are counted by chunks that do not reach the end. -/
theorem rangeCountOf_mul_lt (hsize : 0 < size) :
    (rangeCountOf size concurrency - 1) * rangeGetChunkTargetBytes < size := by
  have hle := ceilPart_mul_le size rangeGetChunkTargetBytes
  rw [rangeCountOf, rangeGetChunkTargetBytes] at *
  omega

theorem rangeCountOf_le (hpos : 1 ≤ concurrency) : rangeCountOf size concurrency ≤ concurrency := by
  rw [rangeCountOf]
  omega

theorem remoteArtifactRange_eq {rangeSize index : ℕ} (hstop : (index + 1) * rangeSize < 2 ^ 64)
    (hnext : index + 1 < 2 ^ 64) :
    remoteArtifactRange size rangeSize index
      = .ok ⟨index * rangeSize, min ((index + 1) * rangeSize) size⟩ := by
  have hstart : index * rangeSize < 2 ^ 64 :=
    Nat.lt_of_le_of_lt (Nat.mul_le_mul_right _ (Nat.le_succ index)) hstop
  rw [remoteArtifactRange, Checked.mul_of_lt hstart, Checked.orPanic_some, Checks.ok_bind,
    Checked.add_of_lt hnext, Checked.orPanic_some, Checks.ok_bind, Checked.mul_of_lt hstop,
    Checked.orPanic_some, Checks.ok_bind]

/-- The arithmetic of the ranges does not overflow. -/
theorem remoteArtifactRanges_eq (hfits : size + rangeCountOf size concurrency < 2 ^ 64) :
    remoteArtifactRanges size concurrency
      = .ok ((List.range (rangeCountOf size concurrency)).map fun index =>
          ⟨index * ceilPart size (rangeCountOf size concurrency),
            min ((index + 1) * ceilPart size (rangeCountOf size concurrency)) size⟩) := by
  rw [remoteArtifactRanges, Checked.divCeil_of_pos (by decide), Checked.orPanic_some,
    Checks.ok_bind]
  change (orPanic (Checked.divCeil size (rangeCountOf size concurrency)) >>= fun rangeSize =>
    (List.range (rangeCountOf size concurrency)).mapM (remoteArtifactRange size rangeSize)) = _
  rw [Checked.divCeil_of_pos rangeCountOf_pos, Checked.orPanic_some, Checks.ok_bind]
  refine Checks.mapM_eq_ok fun index hindex => ?_
  have hlt : index + 1 ≤ rangeCountOf size concurrency := List.mem_range.mp hindex
  have hle : (index + 1) * ceilPart size (rangeCountOf size concurrency)
      ≤ size + rangeCountOf size concurrency - 1 := by
    calc (index + 1) * ceilPart size (rangeCountOf size concurrency)
        ≤ rangeCountOf size concurrency * ceilPart size (rangeCountOf size concurrency) :=
          Nat.mul_le_mul_right _ hlt
      _ = ceilPart size (rangeCountOf size concurrency) * rangeCountOf size concurrency :=
          Nat.mul_comm ..
      _ ≤ size + rangeCountOf size concurrency - 1 := ceilPart_mul_le ..
  exact remoteArtifactRange_eq (Nat.lt_of_le_of_lt hle (by omega)) (by omega)

/-- **The ranges of an artifact** follow each other from its first byte to its last. -/
theorem exists_remoteArtifactRanges (hsize : 0 < size) (hfits : size < 2 ^ 63)
    (hpos : 1 ≤ concurrency) (hle : concurrency ≤ rangeGetChunkTargetBytes) :
    ∃ ranges, remoteArtifactRanges size concurrency = .ok ranges ∧
      Consecutive RemoteRange.start RemoteRange.stop 0 ranges size ∧
      ranges.length ≤ concurrency := by
  have hcount := @rangeCountOf_le size concurrency hpos
  have hfew : (rangeCountOf size concurrency - 1) * (rangeCountOf size concurrency - 1) < size :=
    Nat.lt_of_le_of_lt (Nat.mul_le_mul_left _ (by omega))
      (@rangeCountOf_mul_lt size concurrency hsize)
  refine ⟨_, remoteArtifactRanges_eq ?_, ?_, ?_⟩
  · rw [rangeGetChunkTargetBytes] at hle
    omega
  · exact consecutive_ceilParts rangeCountOf_pos hfew (fun _ _ => rfl) fun _ _ => rfl
  · rwa [List.length_map, List.length_range]

example : remoteArtifactRanges (10 * 1024 * 1024) 2
    = .ok [⟨0, 5242880⟩, ⟨5242880, 10485760⟩] := by decide

end Ranges

/-! ### Requests -/

/-- The answers are those of the stored object, if there is one; any request may fail. -/
structure ObjectAnswers.Describe (answers : ObjectAnswers) (stored : Option RemoteObject) :
    Prop where
  head : ∀ head, answers.head = some head → ∃ object, stored = some object ∧
    head = ⟨object.etag, object.bytes.length⟩
  get : ∀ bytes, answers.get = some bytes → ∃ object, stored = some object ∧ bytes = object.bytes
  getRange : ∀ object (range : RemoteRange) bytes, stored = some object →
    range.start < range.stop → range.stop ≤ object.bytes.length →
    answers.getRange range = some bytes → bytes = range.slice object.bytes

/-- An object is stored, and the store answers every request for it; a range is not empty and lies
in the object. -/
structure ObjectAnswers.Serves (answers : ObjectAnswers) (object : RemoteObject) : Prop where
  head : answers.head = some ⟨object.etag, object.bytes.length⟩
  get : answers.get = some object.bytes
  getRange : ∀ range : RemoteRange, range.start < range.stop →
    range.stop ≤ object.bytes.length → answers.getRange range = some (range.slice object.bytes)

section Read

variable {answers : ObjectAnswers} {object : RemoteObject} {configured : Option String}
  {artifact path : String} {failed : SessionError} {ranges : List RemoteRange}
  {buffered : ℕ → List (Option (List UInt8)) → List (Option (List UInt8))}

/-- Right answers are put together to what the ranges have, unless one is missing. -/
theorem extendFromChunks_map
    (h : ∀ range ∈ ranges, ∀ bytes, answers.getRange range = some bytes →
      bytes = range.slice object.bytes) (bytes : List UInt8) :
    extendFromChunks failed bytes (ranges.map answers.getRange)
      = if ∀ range ∈ ranges, (answers.getRange range).isSome then
          .ok (bytes ++ ranges.flatMap (·.slice object.bytes))
        else .error (.err failed) := by
  induction ranges generalizing bytes with
  | nil =>
    rw [if_pos fun range hrange => absurd hrange List.not_mem_nil, List.flatMap_nil,
      List.append_nil]
    rfl
  | cons range ranges ih =>
    obtain ⟨hrange, hranges⟩ := List.forall_mem_cons.mp h
    rw [extendFromChunks, List.map_cons, List.foldlM_cons]
    cases hchunk : answers.getRange range with
    | none =>
      rw [if_neg fun hall => by simpa [hchunk] using hall range List.mem_cons_self]
      rfl
    | some chunk =>
      rw [Checked.orErr_some, Checks.ok_bind, Checks.ok_bind, ← extendFromChunks, ih hranges,
        hrange chunk hchunk, List.flatMap_cons, List.append_assoc]
      simp only [List.forall_mem_cons, hchunk, Option.isSome_some, true_and]

/-- **A large artifact** is read in ranges that follow each other. -/
theorem readRemoteArtifact_of_lt (hbuffered : Buffers buffered) {head : ObjectMeta}
    (hhead : answers.head = some head) (hlarge : rangeGetChunkTargetBytes < head.size)
    (hfits : head.size < 2 ^ 63) :
    ∃ ranges, Consecutive RemoteRange.start RemoteRange.stop 0 ranges head.size ∧
      answers.readRemoteArtifact buffered configured artifact path
        = extendFromChunks (.remoteArtifactRead artifact path) []
            (ranges.map answers.getRange) := by
  obtain ⟨hmin, hmax⟩ := pourpointGetRangesConcurrency_bounds configured
  obtain ⟨ranges, hranges, hconsecutive, -⟩ := exists_remoteArtifactRanges
    (Nat.zero_lt_of_lt hlarge) hfits hmin (Nat.le_trans hmax (by decide))
  refine ⟨ranges, hconsecutive, ?_⟩
  have hcapacity : Checked.fit 64 head.size = some head.size :=
    if_pos (Nat.lt_trans hfits (by decide))
  have hbuffer : Checked.fit 63 head.size = some head.size := if_pos hfits
  rw [ObjectAnswers.readRemoteArtifact, hhead, Checked.orErr_some, Checks.ok_bind, if_pos hlarge]
  dsimp only
  rw [hranges, Fault.noErr_ok, Checks.ok_bind, hbuffered.eq hmin, hcapacity, Checked.orErr_some,
    Checks.ok_bind, hbuffer, Checked.orPanic_some, Checks.ok_bind]

theorem readRemoteArtifact_of_le {head : ObjectMeta} (hhead : answers.head = some head)
    (hsmall : head.size ≤ rangeGetChunkTargetBytes) :
    answers.readRemoteArtifact buffered configured artifact path
      = orErr answers.get (.remoteArtifactRead artifact path) := by
  rw [ObjectAnswers.readRemoteArtifact, hhead, Checked.orErr_some, Checks.ok_bind,
    if_neg (Nat.not_lt.mpr hsmall)]

/-- The ranges of an object have all its bytes. -/
theorem flatMap_slice_ranges
    (h : Consecutive RemoteRange.start RemoteRange.stop 0 ranges object.bytes.length) :
    ranges.flatMap (·.slice object.bytes) = object.bytes := by
  have hslice := h.flatMap_slice object.bytes
  rwa [List.drop_zero, Nat.sub_zero, List.take_length] at hslice

/-- **An artifact is read** where the store answers. -/
theorem readRemoteArtifact_of_serves (hbuffered : Buffers buffered)
    (hserves : answers.Serves object) (hfits : object.bytes.length < 2 ^ 63) :
    answers.readRemoteArtifact buffered configured artifact path = .ok object.bytes := by
  rcases Nat.lt_or_ge rangeGetChunkTargetBytes object.bytes.length with hlarge | hsmall
  · obtain ⟨ranges, hranges, hread⟩ := @readRemoteArtifact_of_lt answers configured artifact path _
      hbuffered _ hserves.head hlarge hfits
    have hanswer : ∀ range ∈ ranges, answers.getRange range = some (range.slice object.bytes) :=
      fun range hrange => hserves.getRange range (hranges.lt_of_mem hrange).1
        (hranges.lt_of_mem hrange).2
    rw [hread, extendFromChunks_map fun range hrange bytes hbytes =>
      Option.some.inj (hbytes.symm.trans (hanswer range hrange)), if_pos fun range hrange => ?_,
      flatMap_slice_ranges hranges, List.nil_append]
    rw [hanswer range hrange]
    rfl
  · rw [readRemoteArtifact_of_le hserves.head hsmall, hserves.get, Checked.orErr_some]

/-- Where requests may fail, a read is an error or returns what is stored. -/
theorem readRemoteArtifact_cases (hbuffered : Buffers buffered) {stored : Option RemoteObject}
    (hdescribe : answers.Describe stored)
    (hfits : ∀ object, stored = some object → object.bytes.length < 2 ^ 63) :
    (∃ object, stored = some object ∧
      answers.readRemoteArtifact buffered configured artifact path = .ok object.bytes) ∨
    answers.readRemoteArtifact buffered configured artifact path
      = .error (.err (.remoteArtifactRead artifact path)) := by
  cases hhead : answers.head with
  | none =>
    right
    rw [ObjectAnswers.readRemoteArtifact, hhead]
    rfl
  | some head =>
    obtain ⟨object, hstored, rfl⟩ := hdescribe.head head hhead
    rcases Nat.lt_or_ge rangeGetChunkTargetBytes object.bytes.length with hlarge | hsmall
    · obtain ⟨ranges, hranges, hread⟩ := @readRemoteArtifact_of_lt answers configured artifact path
        _ hbuffered _ hhead hlarge (hfits object hstored)
      rw [hread, extendFromChunks_map fun range hrange bytes hbytes =>
        hdescribe.getRange object range bytes hstored (hranges.lt_of_mem hrange).1
          (hranges.lt_of_mem hrange).2 hbytes, flatMap_slice_ranges hranges, List.nil_append]
      split_ifs
      · exact .inl ⟨object, hstored, rfl⟩
      · exact .inr rfl
    · rw [readRemoteArtifact_of_le hhead hsmall]
      cases hget : answers.get with
      | none => exact .inr rfl
      | some bytes =>
        obtain ⟨object', hstored', rfl⟩ := hdescribe.get bytes hget
        exact .inl ⟨object', hstored', rfl⟩

/-- Without a failing request, what is stored is read. -/
theorem run_readRemoteArtifact {remote : Remote} {source : Source} {files : CacheFiles}
    (hobject : remote.object source artifact = some object) :
    Faulty.run (readRemoteArtifact remote source artifact) files []
      = (.ok object.bytes, files, []) := by
  have hget : Faulty.run (getObject remote source artifact artifact) files []
      = (.ok object, files, []) := by
    rw [getObject, Faulty.run_attempt_bind, hobject]
    rfl
  have hmeta : Faulty.run (remoteObjectMeta remote source artifact artifact) files []
      = (.ok ⟨object.etag, object.bytes.length⟩, files, []) := by
    rw [remoteObjectMeta, Faulty.run_bind_of_ok hget]
    rfl
  rw [readRemoteArtifact, Faulty.run_bind_of_ok hmeta, Faulty.run_bind_of_ok hget]
  rfl

/-- **Opening a dataset** reads artifacts in this way: it returns what is stored, or fails as one of
its requests does. -/
theorem readRemoteArtifact_refines (hbuffered : Buffers buffered) {remote : Remote}
    {source : Source} (hdescribe : answers.Describe (remote.object source artifact))
    (hfits : ∀ object, remote.object source artifact = some object →
      object.bytes.length < 2 ^ 63) (files : CacheFiles) :
    ∃ faults, answers.readRemoteArtifact buffered configured artifact
        (remoteArtifactPath source.remoteRoot artifact)
      = (Faulty.run (readRemoteArtifact remote source artifact) files faults).1.mapError .err := by
  rcases @readRemoteArtifact_cases answers configured artifact _ _ hbuffered _ hdescribe hfits with
    ⟨object, hobject, hread⟩ | hread
  · refine ⟨[], hread.trans ?_⟩
    rw [run_readRemoteArtifact hobject]
    rfl
  · exact ⟨[true], hread.trans rfl⟩

end Read

/-! ### Ranges cover an artifact -/

/-- **Ranges cover an artifact**: they are not empty, each starts where the one before it stops, and
there are no more than are requested at a time; so what is read is the artifact. -/
theorem remoteArtifactRanges_cover :
    (∀ size concurrency, rangeGetChunkTargetBytes < size → size < 2 ^ 63 →
      minRangeGetConcurrency ≤ concurrency → concurrency ≤ maxRangeGetConcurrency →
      ∃ ranges, remoteArtifactRanges size concurrency = .ok ranges ∧
        Consecutive RemoteRange.start RemoteRange.stop 0 ranges size ∧
        ranges.length ≤ concurrency) ∧
    ∀ (answers : ObjectAnswers) (object : RemoteObject)
      (buffered : ℕ → List (Option (List UInt8)) → List (Option (List UInt8))),
      answers.Serves object → Buffers buffered →
      rangeGetChunkTargetBytes < object.bytes.length → object.bytes.length < 2 ^ 63 →
      ∀ configured artifact path,
        answers.readRemoteArtifact buffered configured artifact path = .ok object.bytes := by
  constructor
  · intro size concurrency hlarge hfits hmin hmax
    exact exists_remoteArtifactRanges (Nat.zero_lt_of_lt hlarge) hfits hmin
      (Nat.le_trans hmax (by decide))
  · intro answers object buffered hserves hbuffered _ hfits configured artifact path
    exact readRemoteArtifact_of_serves hbuffered hserves hfits

/-- A store that answers every request for one object; a range that is empty or starts beyond the
end is an error, and of one that stops beyond the end the bytes up to the end are returned. -/
def ObjectAnswers.ofObject (object : RemoteObject) : ObjectAnswers where
  head := some ⟨object.etag, object.bytes.length⟩
  get := some object.bytes
  getRange range :=
    if range.start < range.stop ∧ range.start < object.bytes.length then
      some (range.slice object.bytes)
    else none

theorem ObjectAnswers.serves_ofObject (object : RemoteObject) : (ofObject object).Serves object :=
  ⟨rfl, rfl, fun _ hlt hle => if_pos ⟨hlt, Nat.lt_of_lt_of_le hlt hle⟩⟩

/-- Ten mebibytes. -/
def tenMebibytes : RemoteObject := ⟨none, List.replicate (10 * 1024 * 1024) 0⟩

theorem length_tenMebibytes : tenMebibytes.bytes.length = 10 * 1024 * 1024 :=
  List.length_replicate ..

theorem remoteArtifactRanges_cover_tenMebibytes :
    (∃ ranges, remoteArtifactRanges (10 * 1024 * 1024) 2 = .ok ranges ∧
      Consecutive RemoteRange.start RemoteRange.stop 0 ranges (10 * 1024 * 1024) ∧
      ranges.length ≤ 2) ∧
    (ObjectAnswers.ofObject tenMebibytes).readRemoteArtifact (fun _ futures => futures) (some "2")
      "graph.parquet" "dataset/root/graph.parquet" = .ok tenMebibytes.bytes := by
  constructor
  · exact remoteArtifactRanges_cover.1 _ 2 (by decide) (by decide) (by decide) (by decide)
  · have hlarge : rangeGetChunkTargetBytes < tenMebibytes.bytes.length := by
      rw [length_tenMebibytes]
      decide
    have hfits : tenMebibytes.bytes.length < 2 ^ 63 := by
      rw [length_tenMebibytes]
      decide
    exact remoteArtifactRanges_cover.2 _ _ _ (ObjectAnswers.serves_ofObject _) buffers_tasks hlarge
      hfits _ _ _

end WatershedDelineation
