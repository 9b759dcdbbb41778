import Mathlib.Algebra.Order.BigOperators.Group.List
import WatershedDelineation.Cog.RemoteWindow

/-!
# Untrusted headers

Whatever bytes an object store returns, reading the header of a file, planning a window and fetching
its tiles does not panic, requests only bytes inside the file, and allocates no more than the
ceilings of the reader (`fetchWindow_safe`). The file decides about every number involved, so each
function is shown to be safe for all arguments that its callers may pass.
-/

namespace WatershedDelineation

open Checked Chunks Fault Logged

/-! ### What is safe -/

/-- Most bytes of one range. -/
def Purpose.rangeCeiling : Purpose → ℕ
  | .header => 16
  | .ifdCount => 8
  | .ifdEntries => maxRemoteIfdEntryBytes
  | .ascii => maxRemoteAsciiBytes
  | .metadataValues => maxRemoteMetadataValueBytes
  | .tileIndex => 8
  | .chunks => maxCompressedChunkBytes

/-- Most bytes of all ranges of a request. -/
def Purpose.requestCeiling : Purpose → ℕ
  | .metadataValues => 2 * maxRemoteMetadataValueBytes
  | .tileIndex => 2 * maxPlannedTileCount * 8
  | .chunks => maxCoveredChunkBytes
  | purpose => purpose.rangeCeiling

/-- Most elements that a list is allocated for. -/
def Reserved.ceiling : Reserved → ℕ
  | .ifdEntries => maxRemoteIfdEntries
  | .plannedTiles | .tiles | .chunkRanges => maxPlannedTileCount

/-- The range lies in the file and is not too long. -/
structure RemoteRange.Within (range : RemoteRange) (objectSize ceiling : ℕ) : Prop where
  start_le : range.start ≤ range.stop
  stop_le : range.stop ≤ objectSize
  length_le : range.length ≤ ceiling

/-- The ranges of a request lie in the file, and no ceiling is exceeded. -/
def RemoteAct.Within (objectSize : ℕ) : RemoteAct → Prop
  | .request purpose ranges =>
    (∀ range ∈ ranges, range.Within objectSize purpose.rangeCeiling) ∧
      (ranges.map RemoteRange.length).sum ≤ purpose.requestCeiling
  | .reserve reserved capacity => capacity ≤ reserved.ceiling

/-! ### Words and ranges -/

section Words

variable {path : String} {start length objectSize ceiling width n a b : ℕ} {quantity : String}
  {bytes : List UInt8}

/-- A checked range begins where it should and does not end behind the file. -/
theorem ensures_checkedRemoteRange :
    Ensures (checkedRemoteRange path start length objectSize) fun range =>
      range = ⟨start, start + length⟩ ∧ start + length ≤ objectSize := by
  refine ensures_orErr.bind fun stop hstop => ensures_rejectIf.bind fun _ hle => ?_
  obtain ⟨-, rfl⟩ := Checked.add_eq_some_iff.mp hstop
  exact ensures_ok ⟨rfl, Nat.le_of_not_lt hle⟩

/-- A checked range lies in the file. -/
theorem ensures_checkedRemoteRange_within (h : length ≤ ceiling) :
    Ensures (checkedRemoteRange path start length objectSize) fun range =>
      range.Within objectSize ceiling := by
  refine ensures_checkedRemoteRange.weaken fun range hrange => ?_
  obtain ⟨rfl, hle⟩ := hrange
  exact ⟨Nat.le_add_right .., hle, by rwa [RemoteRange.length, Nat.add_sub_cancel_left]⟩

/-- A checked length is not more than its ceiling. -/
theorem ensures_checkedRemoteLength :
    Ensures (checkedRemoteLength path length ceiling quantity) fun n =>
      n = length ∧ length ≤ ceiling :=
  ensures_rejectIf.bind fun _ hle => ensures_ok ⟨rfl, Nat.le_of_not_lt hle⟩

theorem ensures_checkedRemoteBytesRead {lengths : List ℕ} :
    Ensures (checkedRemoteBytesRead path lengths) fun _ => True :=
  Ensures.foldlM (fun _ _ => True) (fun _ _ _ _ => ensures_orErr.weaken fun _ _ => trivial) trivial

theorem ensures_remoteWord : Ensures (remoteWord width path bytes) fun _ => True :=
  ensures_rejectIf.bind fun _ _ => ensures_ok trivial

/-- A slice in range does not panic. -/
theorem ensures_remoteSlice (hab : a ≤ b) (hb : b ≤ bytes.length) :
    Ensures (remoteSlice bytes a b) fun s => s.length = b - a :=
  (ensures_orPanic (slice_of_le hab hb)).weaken fun _ hs =>
    length_of_slice ((slice_of_le hab hb).trans (congrArg some hs))

/-- Reading a word from a slice in range. -/
theorem ensures_remoteWord_slice (hab : a ≤ b) (hb : b ≤ bytes.length) :
    Ensures (remoteSlice bytes a b >>= remoteWord width path) fun _ => True :=
  (ensures_remoteSlice hab hb).bind fun _ _ => ensures_remoteWord

theorem ensures_remoteIndex {responses : List (List UInt8)} (h : n < responses.length) :
    Ensures (remoteIndex responses n) fun _ => True :=
  (ensures_orPanic (List.getElem?_eq_getElem h)).weaken fun _ _ => trivial

theorem ensures_remoteDoubles : Ensures (remoteDoubles n path bytes) fun _ => True :=
  ensures_orErr.bind fun _ _ => ensures_rejectIf.bind fun _ _ => ensures_ok trivial

end Words

/-! ### Entries and tags -/

section Entries

variable {path : String} {format : TiffFormat} {bytes header : List UInt8} {entry : IfdEntry}
  {entries : List IfdEntry} {tag expectedCount objectSize fieldType : ℕ}

/-- No value is wider than eight bytes. -/
theorem ensures_remoteFieldWidth : Ensures (remoteFieldWidth path fieldType) (· ≤ 8) := by
  unfold remoteFieldWidth
  split
  all_goals first | exact ensures_err | exact ensures_ok (by decide)

/-- The count and the value lie in the entry, in both formats. -/
theorem ensures_remoteIfdValue (h : bytes.length = format.entryWidth) :
    Ensures (remoteIfdValue path format bytes) fun _ => True := by
  cases format with
  | classic =>
    replace h : bytes.length = 12 := h
    refine (ensures_remoteSlice (by decide) (by omega)).bind fun _ _ =>
      ensures_remoteWord.bind fun count _ => ?_
    exact (ensures_remoteSlice (by decide) (by omega)).bind fun _ _ =>
      ensures_remoteWord.bind fun value _ => ensures_ok trivial
  | bigTiff =>
    replace h : bytes.length = 20 := h
    refine (ensures_remoteSlice (by decide) (by omega)).bind fun _ _ =>
      ensures_remoteWord.bind fun count _ => ?_
    exact (ensures_remoteSlice (by decide) (by omega)).bind fun _ _ =>
      ensures_remoteWord.bind fun value _ => ensures_ok trivial

/-- The slices of an entry are in range. -/
theorem ensures_remoteIfdEntry (h : bytes.length = format.entryWidth) :
    Ensures (remoteIfdEntry path format bytes) fun _ => True := by
  have hwidth : 4 ≤ format.entryWidth := by cases format <;> decide
  refine (ensures_remoteSlice (by decide) (by omega)).bind fun _ _ =>
    ensures_remoteWord.bind fun tag _ => ?_
  refine (ensures_remoteSlice (by decide) (by omega)).bind fun _ _ =>
    ensures_remoteWord.bind fun fieldType _ => ?_
  refine (ensures_remoteIfdValue h).bind fun _ _ => ?_
  exact ensures_remoteFieldWidth.bind fun _ _ => ensures_ok trivial

theorem ensures_ifdEntries : Ensures (ifdEntries path format bytes) fun _ => True :=
  ⟨Returns.mapM fun _ hchunk =>
    (ensures_remoteIfdEntry (length_of_mem_chunksExact hchunk)).returns, fun _ _ => trivial⟩

theorem ensures_remoteEntry : Ensures (remoteEntry path entries tag) fun _ => True :=
  ensures_orErr.weaken fun _ _ => trivial

theorem ensures_remoteInlineScalar :
    Ensures (remoteInlineScalar path entries tag) fun _ => True :=
  ensures_remoteEntry.bind fun _ _ => ensures_rejectIf.bind fun _ _ =>
    ensures_rejectIf.bind fun _ _ => ensures_ok trivial

/-- The values of a tag are requested only inside the file. -/
theorem ensures_remoteValueRange :
    Ensures (remoteValueRange path entry expectedCount objectSize) fun range =>
      range.Within objectSize maxRemoteMetadataValueBytes := by
  refine ensures_rejectIf.bind fun _ _ => ensures_remoteFieldWidth.bind fun width _ => ?_
  refine ensures_orErr.bind fun byteCount _ => ensures_checkedRemoteLength.bind fun _ hle => ?_
  exact ensures_rejectIf.bind fun _ _ => ensures_checkedRemoteRange_within hle.2

theorem ensures_asciiText : Ensures (asciiText path tag bytes) fun _ => True :=
  ensures_orErr.bind fun _ _ => ensures_ok trivial

theorem ensures_rejectBeyond {extent : Option RemoteRange} :
    Ensures (rejectBeyond path objectSize extent) fun _ => True := by
  cases extent with
  | none => exact ensures_ok trivial
  | some range => exact ensures_rejectIf.weaken fun _ _ => trivial

/-- The elements of an index are words of at most eight bytes. -/
theorem ensures_remoteDescriptor :
    Ensures (remoteDescriptor path format entry objectSize) fun descriptor =>
      descriptor.elementWidth ≤ 8 := by
  refine ensures_rejectIf.bind fun _ _ => ensures_remoteFieldWidth.bind fun width hwidth => ?_
  refine ensures_orErr.bind fun byteCount _ => (returns_mapError _ _).ensures.bind fun _ _ => ?_
  exact ensures_rejectBeyond.bind fun _ _ => ensures_ok hwidth

theorem ensures_remoteTileIndex :
    Ensures (remoteTileIndex path format entries objectSize) fun descriptors =>
      descriptors.1.elementWidth ≤ 8 ∧ descriptors.2.elementWidth ≤ 8 := by
  refine ensures_remoteEntry.bind fun _ _ => ensures_remoteDescriptor.bind fun _ hoffsets => ?_
  refine ensures_remoteEntry.bind fun _ _ => ensures_remoteDescriptor.bind fun _ hcounts => ?_
  exact ensures_rejectIf.bind fun _ _ => ensures_ok ⟨hoffsets, hcounts⟩

theorem ensures_tiffFormat {magic : ℕ} : Ensures (tiffFormat path magic) fun _ => True := by
  unfold tiffFormat
  split
  all_goals first | exact ensures_err | exact ensures_ok trivial

/-- The fields of a BigTIFF header lie in its sixteen bytes. -/
theorem ensures_checkOffsetHeader (h : header.length = 16) :
    Ensures (checkOffsetHeader path header format) fun _ => True := by
  cases format with
  | classic => exact ensures_ok trivial
  | bigTiff =>
    refine (ensures_remoteSlice (by decide) (by omega)).bind fun _ _ =>
      ensures_remoteWord.bind fun offsetWidth _ => ensures_rejectIf.bind fun _ _ => ?_
    exact (ensures_remoteSlice (by decide) (by omega)).bind fun _ _ =>
      ensures_remoteWord.bind fun padding _ => ensures_rejectIf.weaken fun _ _ => trivial

theorem ensures_ifdOffset (h : header.length = 16) :
    Ensures (ifdOffset path header format) fun _ => True := by
  cases format with
  | classic => exact ensures_remoteWord_slice (by decide) (by omega)
  | bigTiff => exact ensures_remoteWord_slice (by decide) (by omega)

theorem ensures_ifdEntryCount : Ensures (ifdEntryCount path bytes format) fun _ => True := by
  cases format with
  | classic => exact ensures_remoteWord
  | bigTiff => exact ensures_remoteWord

theorem ensures_remoteSampleType {bitsPerSample sampleFormat : ℕ} :
    Ensures (remoteSampleType path bitsPerSample sampleFormat) fun _ => True := by
  unfold remoteSampleType
  split
  all_goals first | exact ensures_err | exact ensures_ok trivial

/-- What the rest of the reader needs of the tags. -/
structure LayoutTags.Bounded (tags : LayoutTags) (objectSize : ℕ) : Prop where
  scaleRange : tags.scaleRange.Within objectSize maxRemoteMetadataValueBytes
  tiepointRange : tags.tiepointRange.Within objectSize maxRemoteMetadataValueBytes
  offsets_le : tags.tileOffsets.elementWidth ≤ 8
  byteCounts_le : tags.tileByteCounts.elementWidth ≤ 8

/-- Whatever the tags say, their ranges and widths are bounded once they are accepted. -/
theorem ensures_layoutTags :
    Ensures (layoutTags path objectSize format entries) (·.Bounded objectSize) := by
  refine ensures_remoteInlineScalar.bind fun width _ =>
    ensures_remoteInlineScalar.bind fun height _ => ensures_rejectIf.bind fun _ _ => ?_
  refine ensures_remoteEntry.bind fun _ _ => ensures_remoteValueRange.bind fun _ hscale => ?_
  refine ensures_remoteEntry.bind fun _ _ => ensures_remoteValueRange.bind fun _ htiepoint => ?_
  refine ensures_remoteTileIndex.bind fun _ hwidths => ?_
  refine ensures_remoteInlineScalar.bind fun tileWidth _ =>
    ensures_remoteInlineScalar.bind fun tileHeight _ =>
    ensures_remoteInlineScalar.bind fun bitsPerSample _ =>
    ensures_remoteInlineScalar.bind fun compression _ =>
    ensures_remoteInlineScalar.bind fun photometric _ =>
    ensures_remoteInlineScalar.bind fun samplesPerPixel _ =>
    ensures_remoteInlineScalar.bind fun planar _ =>
    ensures_remoteInlineScalar.bind fun predictor _ =>
    ensures_remoteInlineScalar.bind fun sampleFormat _ => ?_
  refine ensures_rejectIf.bind fun _ _ => ensures_remoteSampleType.bind fun _ _ => ?_
  exact ensures_ok ⟨hscale, htiepoint, hwidths.1, hwidths.2⟩

end Entries

/-! ### Reading the layout -/

section Layout

variable {store : RemoteStore} {path : String} {objectSize tag : ℕ} {format : TiffFormat}
  {entry : IfdEntry} {entries : List IfdEntry} {purpose : Purpose} {range : RemoteRange}
  {ranges : List RemoteRange}

/-- Ranges that may be requested are fetched safely. -/
theorem safe_fetchAll (h : (RemoteAct.request purpose ranges).Within objectSize) :
    Safe (RemoteAct.Within objectSize) (store.fetchAll path purpose ranges) fun _ => True :=
  (safe_record h).bind fun _ _ => safe_liftM (ensures_orErr.weaken fun _ _ => trivial)

/-- A single range is requested within the ceiling of its purpose. -/
theorem safe_fetch (h : range.Within objectSize purpose.rangeCeiling) :
    Safe (RemoteAct.Within objectSize) (store.fetch path purpose range) fun _ => True := by
  have hceiling : purpose.rangeCeiling ≤ purpose.requestCeiling := by
    cases purpose <;> decide
  have hwithin : (RemoteAct.request purpose [range]).Within objectSize := by
    refine ⟨fun r hr => List.mem_singleton.mp hr ▸ h, ?_⟩
    rw [List.map_singleton, List.sum_singleton]
    exact h.length_le.trans hceiling
  exact (safe_record hwithin).bind fun _ _ =>
    safe_liftM (ensures_orErr.weaken fun _ _ => trivial)

/-- The length of the header is checked before it is sliced. -/
theorem safe_readHeader :
    Safe (RemoteAct.Within objectSize) (readHeader store path objectSize) fun _ => True := by
  refine (safe_liftM (ensures_checkedRemoteRange_within (Nat.le_refl 16))).bind fun _ hrange => ?_
  refine (safe_fetch hrange).bind fun header _ => ?_
  refine (safe_liftM ensures_rejectIf).bind fun _ hlength => ?_
  have hlength : header.length = 16 := not_not.mp hlength
  refine (safe_liftM (ensures_remoteSlice (by decide) (by omega))).bind fun _ _ =>
    (safe_liftM ensures_rejectIf).bind fun _ _ => ?_
  refine (safe_liftM (ensures_remoteSlice (by decide) (by omega))).bind fun _ _ =>
    (safe_liftM ensures_remoteWord).bind fun magic _ => ?_
  refine (safe_liftM ensures_tiffFormat).bind fun format _ => ?_
  refine (safe_liftM (ensures_checkOffsetHeader hlength)).bind fun _ _ => ?_
  exact (safe_liftM (ensures_ifdOffset hlength)).bind fun _ _ => safe_pure trivial

/-- The number of entries is checked before any entry is allocated. -/
theorem safe_readIfd {ifdOffset : ℕ} :
    Safe (RemoteAct.Within objectSize) (readIfd store path objectSize format ifdOffset)
      fun _ => True := by
  have hwidth : format.countWidth ≤ Purpose.ifdCount.rangeCeiling := by cases format <;> decide
  refine (safe_liftM (ensures_checkedRemoteRange_within hwidth)).bind fun countRange hrange => ?_
  refine (safe_fetch hrange).bind fun countBytes _ => ?_
  refine (safe_liftM ensures_rejectIf).bind fun _ _ =>
    (safe_liftM ensures_ifdEntryCount).bind fun entryCount _ =>
    (safe_liftM ensures_rejectIf).bind fun _ _ => ?_
  refine (safe_liftM ensures_checkedRemoteLength).bind fun entryCapacity hcapacity => ?_
  refine (safe_liftM ensures_orErr).bind fun entriesLen _ =>
    (safe_liftM ensures_checkedRemoteLength).bind fun _ hlen => ?_
  refine (safe_liftM (ensures_checkedRemoteRange_within hlen.2)).bind fun _ hentries => ?_
  refine (safe_fetch hentries).bind fun entryBytes _ => ?_
  refine (safe_liftM ensures_rejectIf).bind fun _ _ => ?_
  have hreserve : (RemoteAct.reserve .ifdEntries entryCapacity).Within objectSize :=
    hcapacity.1.trans_le hcapacity.2
  refine (safe_record hreserve).bind fun _ _ => ?_
  exact (safe_liftM ensures_ifdEntries).bind fun _ _ => safe_pure trivial

theorem safe_remoteAsciiBytes (h : entry.count ≤ maxRemoteAsciiBytes) :
    Safe (RemoteAct.Within objectSize) (remoteAsciiBytes store path objectSize format entry tag)
      fun _ => True := by
  rw [remoteAsciiBytes]
  split_ifs with hinline
  · have hwidth : format.inlineWidth ≤ 8 := by cases format <;> decide
    refine (safe_liftM (ensures_remoteSlice (Nat.zero_le _) ?_)).bind fun _ _ => safe_pure trivial
    rw [LittleEndian.length_ofNat]
    exact hinline.trans hwidth
  · refine (safe_liftM (ensures_checkedRemoteRange_within h)).bind fun range hrange => ?_
    refine (safe_fetch hrange).bind fun bytes _ => ?_
    exact (safe_liftM ensures_rejectIf).bind fun _ _ => safe_pure trivial

/-- The length of a text is checked before it is requested. -/
theorem safe_remoteAscii :
    Safe (RemoteAct.Within objectSize) (remoteAscii store path objectSize format entries tag)
      fun _ => True := by
  unfold remoteAscii
  split
  · exact safe_pure trivial
  · refine (safe_liftM ensures_rejectIf).bind fun _ _ =>
      (safe_liftM ensures_rejectIf).bind fun _ hle => ?_
    refine (safe_remoteAsciiBytes (Nat.le_of_not_lt hle)).bind fun _ _ => ?_
    exact (safe_liftM ensures_asciiText).bind fun _ _ => safe_pure trivial

/-- **Reading the layout** of a file is safe. -/
theorem safe_readRemoteLayout :
    Safe (RemoteAct.Within objectSize) (readRemoteLayout store path objectSize) fun layout =>
      layout.tileOffsets.elementWidth ≤ 8 ∧ layout.tileByteCounts.elementWidth ≤ 8 := by
  refine safe_readHeader.bind fun header _ => safe_readIfd.bind fun ifd _ => ?_
  refine (safe_liftM ensures_layoutTags).bind fun tags htags => ?_
  refine safe_remoteAscii.bind fun _ _ => ?_
  have hvalues : RemoteAct.Within objectSize
      (.request .metadataValues [tags.scaleRange, tags.tiepointRange]) := by
    refine ⟨?_, ?_⟩
    · rintro range (- | ⟨_, - | ⟨_, ⟨⟩⟩⟩)
      · exact htags.scaleRange
      · exact htags.tiepointRange
    · have hscale := htags.scaleRange.length_le
      have htiepoint := htags.tiepointRange.length_le
      simp only [List.map_cons, List.map_nil, List.sum_cons, List.sum_nil, Purpose.requestCeiling]
      omega
  refine (safe_fetchAll hvalues).bind fun values _ => ?_
  -- the two lookups by number are behind a check of the length
  refine (safe_liftM ensures_rejectIf).bind fun _ hlength => ?_
  have hlength : values.length = 2 := not_not.mp hlength
  refine (safe_liftM (ensures_remoteIndex (by omega))).bind fun scaleBytes _ =>
    (safe_liftM (ensures_remoteIndex (by omega))).bind fun tiepointBytes _ => ?_
  refine (safe_liftM ensures_checkedRemoteBytesRead).bind fun bytesRead _ =>
    (safe_liftM ensures_remoteDoubles).bind fun scale _ =>
    (safe_liftM ensures_remoteDoubles).bind fun tiepoint _ => ?_
  refine (safe_liftM ensures_orErr).bind fun compression _ =>
    (safe_liftM ensures_orErr).bind fun predictor _ => ?_
  exact safe_pure ⟨htags.offsets_le, htags.byteCounts_le⟩

end Layout

/-! ### Preparing a window -/

section Window

variable {store : RemoteStore} {path : String} {objectSize index : ℕ} {metadata : RemoteMetadata}
  {layout : RemoteLayout} {kind : RasterKind}
  {descriptor tileOffsets tileByteCounts : IndexDescriptor} {indices : List ℕ}
  {responses : List (List UInt8)}

theorem ensures_fitU32 {reason : String} {n : ℕ} :
    Ensures (fitU32 path reason n) fun _ => True := by
  rw [fitU32]
  split_ifs
  · exact ensures_ok trivial
  · exact ensures_err

theorem ensures_metadataFromLayout :
    Ensures (metadataFromLayout layout path) fun metadata =>
      metadata.tileOffsets = layout.tileOffsets ∧ metadata.tileByteCounts = layout.tileByteCounts :=
  ensures_fitU32.bind fun _ _ => ensures_fitU32.bind fun _ _ => ensures_fitU32.bind fun _ _ =>
    ensures_fitU32.bind fun _ _ => ensures_ok ⟨rfl, rfl⟩

/-- The sizes of the tiles are checked before they divide anything. -/
theorem ensures_validateMeritLayout :
    Ensures (validateMeritLayout metadata kind path) fun _ =>
      metadata.tileWidth = 512 ∧ metadata.tileHeight = 512 := by
  refine ensures_rejectIf.bind fun _ hsize => ?_
  obtain ⟨hwidth, hheight⟩ := not_or.mp hsize
  have hwidth : metadata.tileWidth = 512 := not_not.mp hwidth
  have hheight : metadata.tileHeight = 512 := not_not.mp hheight
  refine (ensures_orPanic (divCeil_of_pos (by omega))).bind fun across _ =>
    (ensures_orPanic (divCeil_of_pos (by omega))).bind fun down _ => ?_
  refine ensures_orErr.bind fun expectedTiles _ => ensures_rejectIf.bind fun _ _ =>
    ensures_rejectIf.bind fun _ _ => ensures_rejectIf.bind fun _ _ => ?_
  exact ensures_rejectIf.weaken fun _ _ => ⟨hwidth, hheight⟩

theorem ensures_forPlanning (h : 0 < metadata.tileWidth ∧ 0 < metadata.tileHeight) :
    Ensures metadata.forPlanning fun planned => metadata.forPlanning = .ok planned := by
  refine Returns.ensures ?_
  rw [RemoteMetadata.forPlanning, dif_pos h]
  exact returns_ok _

/-- An entry of an index that is not inline is requested only inside the file. -/
theorem ensures_descriptorEntryRange (h : descriptor.elementWidth ≤ 8) :
    Ensures (descriptorEntryRange path descriptor index objectSize) fun range =>
      ∀ r ∈ range.toList, r.Within objectSize Purpose.tileIndex.rangeCeiling := by
  refine ensures_rejectIf.bind fun _ _ => ?_
  split
  · exact ensures_rejectIf.bind fun _ _ => ensures_ok fun _ hr => absurd hr List.not_mem_nil
  · refine ensures_orErr.bind fun offset _ => ?_
    refine (ensures_checkedRemoteRange_within h).bind fun range hrange => ensures_ok fun r hr => ?_
    exact List.mem_singleton.mp hr ▸ hrange

theorem ensures_indexEntryRanges (hoffsets : tileOffsets.elementWidth ≤ 8)
    (hcounts : tileByteCounts.elementWidth ≤ 8) :
    Ensures (indexEntryRanges path tileOffsets tileByteCounts objectSize index) fun ranges =>
      (∀ r ∈ ranges, r.Within objectSize Purpose.tileIndex.rangeCeiling) ∧ ranges.length ≤ 2 := by
  refine (ensures_descriptorEntryRange hoffsets).bind fun offsetRange hoffset =>
    (ensures_descriptorEntryRange hcounts).bind fun countRange hcount => ensures_ok ⟨?_, ?_⟩
  · exact fun r hr => (List.mem_append.mp hr).elim (hoffset r) (hcount r)
  · have hone : ∀ range : Option RemoteRange, range.toList.length ≤ 1 := fun range => by
      cases range <;> simp
    rw [List.length_append]
    exact Nat.add_le_add (hone offsetRange) (hone countRange)

/-- The request for the entries of a plan. -/
theorem ensures_indexRanges (hoffsets : tileOffsets.elementWidth ≤ 8)
    (hcounts : tileByteCounts.elementWidth ≤ 8) (hle : indices.length ≤ maxPlannedTileCount) :
    Ensures (indexRanges path tileOffsets tileByteCounts objectSize indices) fun ranges =>
      (RemoteAct.request .tileIndex ranges).Within objectSize := by
  refine (Ensures.mapM fun index _ => ensures_indexEntryRanges hoffsets hcounts).bind
    fun ranges hranges => ensures_ok ?_
  obtain ⟨hranges, hlength⟩ := hranges
  have hall : ∀ r ∈ ranges.flatten, r.Within objectSize Purpose.tileIndex.rangeCeiling := by
    intro r hr
    obtain ⟨entry, hentry, hr⟩ := List.mem_flatten.mp hr
    exact (hranges entry hentry).1 r hr
  have hcount : ranges.flatten.length ≤ indices.length * 2 := by
    have hsum := List.sum_le_card_nsmul (ranges.map List.length) 2 fun n hn => by
      obtain ⟨entry, hentry, rfl⟩ := List.mem_map.mp hn
      exact (hranges entry hentry).2
    rwa [← List.length_flatten, List.length_map, hlength] at hsum
  refine ⟨hall, ?_⟩
  calc (ranges.flatten.map RemoteRange.length).sum
      ≤ (ranges.flatten.map RemoteRange.length).length * 8 :=
        List.sum_le_card_nsmul _ 8 fun n hn => by
          obtain ⟨r, hr, rfl⟩ := List.mem_map.mp hn
          exact (hall r hr).length_le
    _ = ranges.flatten.length * 8 := by rw [List.length_map]
    _ ≤ 2 * maxPlannedTileCount * 8 := by omega

theorem ensures_decodeDescriptorValue {bytes : Option (List UInt8)} {tag : ℕ} :
    Ensures (decodeDescriptorValue path descriptor index bytes tag) fun _ => True := by
  rw [decodeDescriptorValue]
  split
  · exact ensures_ok trivial
  · refine ensures_orErr.bind fun bytes _ => ensures_rejectIf.bind fun _ _ => ?_
    split
    all_goals first | exact ensures_err | exact ensures_remoteWord

/-- At most one response is used up. -/
theorem ensures_nextResponse {responseIndex : ℕ} (h : responseIndex + 1 < 2 ^ 64) :
    Ensures (nextResponse descriptor responses responseIndex) (·.2 ≤ responseIndex + 1) := by
  rw [nextResponse]
  split
  · exact ensures_ok (Nat.le_succ _)
  · exact (ensures_orPanic (Checked.add_of_lt h)).bind fun next hnext =>
      ensures_ok (Nat.le_of_eq hnext.symm)

/-- What is left of a plan with room for all responses. -/
structure Resolving.Fits (planned : ℕ) (rest : List ℕ) (state : Resolving) : Prop where
  responseIndex_le : state.responseIndex + 2 * rest.length ≤ 2 * planned
  length_tiles : state.tiles.length + rest.length = planned

/-- A tile uses up two responses at most. -/
theorem ensures_resolveTile {planned : ℕ} {rest : List ℕ} {state : Resolving}
    (hplanned : planned ≤ maxPlannedTileCount) (h : state.Fits planned (index :: rest)) :
    Ensures (resolveTile path tileOffsets tileByteCounts responses state index)
      (Resolving.Fits planned rest) := by
  obtain ⟨hindex, hlength⟩ := h
  rw [List.length_cons] at hindex hlength
  rw [maxPlannedTileCount] at hplanned
  refine (ensures_nextResponse (by omega)).bind fun offsetBytes hoffset => ?_
  refine (ensures_nextResponse (by omega)).bind fun countBytes hcount => ?_
  refine ensures_decodeDescriptorValue.bind fun offset _ =>
    ensures_decodeDescriptorValue.bind fun byteCount _ => ?_
  refine ensures_orErr.bind fun stop _ => ensures_orErr.bind fun compressedBytes _ =>
    ensures_ok ⟨?_, ?_⟩
  · change countBytes.2 + 2 * rest.length ≤ 2 * planned
    omega
  · rw [List.length_append, List.length_singleton]
    omega

/-- Every planned tile is resolved. -/
theorem ensures_resolveTiles (hle : indices.length ≤ maxPlannedTileCount) :
    Ensures (resolveTiles path tileOffsets tileByteCounts responses indices)
      (·.tiles.length = indices.length) := by
  refine (Ensures.foldlM (Resolving.Fits indices.length)
    (fun _ _ _ hstate => ensures_resolveTile hle hstate) ⟨?_, ?_⟩).weaken fun state hstate =>
      hstate.length_tiles
  · exact Nat.le_of_eq (Nat.zero_add _)
  · exact Nat.zero_add _

theorem ensures_indexResponseBytes : Ensures (indexResponseBytes path responses) fun _ => True :=
  Ensures.foldlM (fun _ _ => True) (fun _ _ _ _ => ensures_orErr.weaken fun _ _ => trivial) trivial

theorem safe_fetchIndex {ranges : List RemoteRange}
    (h : (RemoteAct.request .tileIndex ranges).Within objectSize) :
    Safe (RemoteAct.Within objectSize) (fetchIndex store path ranges) fun _ => True := by
  rw [fetchIndex]
  split_ifs
  · exact safe_pure trivial
  · exact safe_fetchAll h

/-- **Resolving a plan** is safe. -/
theorem safe_resolveTilePlan {geometry : TilePlan}
    (hoffsets : metadata.tileOffsets.elementWidth ≤ 8)
    (hcounts : metadata.tileByteCounts.elementWidth ≤ 8)
    (hle : geometry.indices.length ≤ maxPlannedTileCount) :
    Safe (RemoteAct.Within objectSize) (resolveTilePlan store path metadata geometry objectSize)
      fun resolved => resolved.1.objectSize = objectSize ∧
        resolved.1.tiles.length ≤ maxPlannedTileCount := by
  refine (safe_liftM (ensures_indexRanges hoffsets hcounts hle)).bind fun ranges hranges => ?_
  refine (safe_fetchIndex hranges).bind fun responses _ =>
    (safe_liftM ensures_rejectIf).bind fun _ _ => ?_
  have hreserve : (RemoteAct.reserve .tiles geometry.indices.length).Within objectSize := hle
  refine (safe_record hreserve).bind fun _ _ => ?_
  refine (safe_liftM (ensures_resolveTiles hle)).bind fun resolved hresolved => ?_
  refine (safe_liftM ensures_indexResponseBytes).bind fun indexBytes _ => safe_pure ⟨rfl, ?_⟩
  exact hresolved.trans_le hle

/-- **Preparing a window** is safe. -/
theorem safe_prepareWindow {request : RasterWindowRequest} {size : UInt64}
    (hsize : store.head path = some size) :
    Safe (RemoteAct.Within size.toNat) (prepareWindow store path request) fun prepared =>
      prepared.plan.objectSize = size.toNat ∧
        prepared.plan.tiles.length ≤ maxPlannedTileCount := by
  refine (safe_liftM ensures_orErr).bind fun objectSize hhead => ?_
  obtain rfl : size = objectSize := Option.some.inj (hsize.symm.trans hhead)
  refine safe_readRemoteLayout.bind fun layout hwidths => ?_
  refine (safe_liftM ensures_metadataFromLayout).bind fun metadata hindex => ?_
  rw [← hindex.1, ← hindex.2] at hwidths
  refine (safe_liftM ensures_validateMeritLayout).bind fun _ htile => ?_
  refine (safe_liftM (returns_mapError _ _).ensures).bind fun window hwindow => ?_
  refine (safe_liftM (ensures_forPlanning ⟨by omega, by omega⟩)).bind fun planned hplanned => ?_
  have hin : window.Inside planned :=
    request.inside metadata window planned (Checks.mapError_eq_ok_iff.mp hwindow) hplanned
  refine (safe_liftM (TilePlan.returns_forWindow hin).ensures).bind fun geometry hgeometry => ?_
  have hle := TilePlan.length_indices_le hin hgeometry
  have hreserve : (RemoteAct.reserve .plannedTiles geometry.indices.length).Within size.toNat := hle
  refine (safe_record hreserve).bind fun _ _ => ?_
  refine (safe_resolveTilePlan hwidths.1 hwidths.2 hle).bind fun resolved hresolved => ?_
  exact (safe_liftM ensures_orErr).bind fun headerBytes _ => safe_pure hresolved

end Window

/-! ### Fetching the tiles -/

section Fetch

variable {store : RemoteStore} {path : String} {plan : LocatedTilePlan} {tile : LocatedTile}
  {prepared : PreparedCogWindow} {request : RasterWindowRequest} {size : UInt64}

/-- The ranges accepted so far may be requested, and the tiles not in `rest` are among them. -/
structure Accepted.Covers (plan : LocatedTilePlan) (rest : List LocatedTile) (state : Accepted) :
    Prop where
  within : ∀ range ∈ state.ranges, range.Within plan.objectSize maxCompressedChunkBytes
  aggregate_eq : (state.ranges.map RemoteRange.length).sum = state.aggregate
  aggregate_le : state.aggregate ≤ maxCoveredChunkBytes
  covered : ∀ tile ∈ plan.tiles, tile ∈ rest ∨ tile.range ∈ state.ranges

/-- A range is accepted only if the sum of the lengths stays below the ceiling. -/
theorem ensures_validateCompressedRange {rest : List LocatedTile} {state : Accepted}
    (h : state.Covers plan (tile :: rest)) :
    Ensures (validateCompressedRange path plan.objectSize state tile)
      (Accepted.Covers plan rest) := by
  refine ensures_rejectIf.bind fun _ hlt => ensures_orErr.bind fun bytes hbytes => ?_
  obtain ⟨-, rfl⟩ := Checked.sub_eq_some_iff.mp hbytes
  refine ensures_rejectIf.bind fun _ hchunk => ensures_orErr.bind fun aggregate haggregate => ?_
  obtain ⟨-, rfl⟩ := Checked.add_eq_some_iff.mp haggregate
  refine ensures_rejectIf.bind fun _ hcovered => ensures_rejectIf.bind fun _ hstop =>
    ensures_ok ⟨?_, ?_, Nat.le_of_not_lt hcovered, ?_⟩
  · intro range hrange
    rcases List.mem_append.mp hrange with hrange | hrange
    · exact h.within range hrange
    · rw [List.mem_singleton.mp hrange]
      exact ⟨Nat.le_of_not_le hlt, Nat.le_of_not_lt hstop, Nat.le_of_not_lt hchunk⟩
  · rw [List.map_append, List.sum_append, h.aggregate_eq, List.map_singleton, List.sum_singleton]
    rfl
  · intro other hother
    rcases h.covered other hother with hrest | hranges
    · rcases List.mem_cons.mp hrest with rfl | hrest
      · exact .inr (List.mem_append_right _ (List.mem_singleton_self _))
      · exact .inl hrest
    · exact .inr (List.mem_append_left _ hranges)

theorem ensures_acceptRanges :
    Ensures (acceptRanges path plan) (Accepted.Covers plan []) :=
  Ensures.foldlM (Accepted.Covers plan) (fun _ _ _ h => ensures_validateCompressedRange h)
    ⟨fun _ h => absurd h List.not_mem_nil, rfl, Nat.zero_le _, fun _ h => .inl h⟩

/-- **Accepted ranges** may be requested, and are those of all tiles. -/
theorem safe_validateCompressedRanges (hle : plan.tiles.length ≤ maxPlannedTileCount) :
    Safe (RemoteAct.Within plan.objectSize) (validateCompressedRanges path plan) fun ranges =>
      (RemoteAct.request .chunks ranges).Within plan.objectSize ∧
        ∀ tile ∈ plan.tiles, tile.range ∈ ranges := by
  have hreserve : (RemoteAct.reserve .chunkRanges plan.tiles.length).Within plan.objectSize := hle
  refine (safe_record hreserve).bind fun _ _ => ?_
  refine (safe_liftM ensures_acceptRanges).bind fun accepted h => safe_pure ⟨⟨h.within, ?_⟩, ?_⟩
  · exact h.aggregate_eq.trans_le h.aggregate_le
  · exact fun tile htile => (h.covered tile htile).resolve_left List.not_mem_nil

/-- The length of a tile is computed from a range that does not end before it begins. -/
theorem ensures_checkCompressedChunks {compressed : List (List UInt8)}
    (h : ∀ tile ∈ plan.tiles, tile.range.start ≤ tile.range.stop) :
    Ensures (checkCompressedChunks path plan compressed) fun _ => True := by
  refine Ensures.forM fun chunk hchunk => ?_
  have hle := h chunk.1 (List.of_mem_zip hchunk).1
  exact (ensures_orPanic (Checked.sub_of_le hle)).bind fun _ _ =>
    ensures_rejectIf.weaken fun _ _ => trivial

/-- Only ranges that have been accepted are requested. -/
theorem safe_fetchCompressed (hle : prepared.plan.tiles.length ≤ maxPlannedTileCount) :
    Safe (RemoteAct.Within prepared.plan.objectSize) (fetchCompressed store path prepared)
      fun _ => True := by
  refine (safe_validateCompressedRanges hle).bind fun ranges hranges => ?_
  refine (safe_fetchAll hranges.1).bind fun compressed _ => ?_
  refine (safe_liftM ensures_rejectIf).bind fun _ _ => ?_
  refine (safe_liftM (ensures_checkCompressedChunks fun tile htile => ?_)).bind fun _ _ =>
    safe_pure trivial
  exact (hranges.1.1 tile.range (hranges.2 tile htile)).start_le

/-- **Untrusted headers are harmless.** Whatever the object store returns for a file and whatever it
says is its size, the reader requests only ranges inside the file and below its ceilings, allocates
below its ceilings, and either succeeds or returns an error: no arithmetic, slice or division
panics. -/
theorem fetchWindow_safe (hsize : store.head path = some size) :
    (∀ act ∈ (fetchWindow store path request).log, act.Within size.toNat) ∧
      Returns (fetchWindow store path request).outcome := by
  have hsafe : Safe (RemoteAct.Within size.toNat) (fetchWindow store path request)
      fun _ => True := by
    refine (safe_prepareWindow hsize).bind fun prepared hprepared => ?_
    refine (hprepared.1 ▸ safe_fetchCompressed hprepared.2).bind fun compressed _ => ?_
    exact safe_pure trivial
  exact ⟨hsafe.log, hsafe.outcome.returns⟩

/-- A request for the upper left pixel. -/
def cornerRequest (kind : RasterKind) : RasterWindowRequest where
  kind := kind
  fromBbox metadata :=
    if 0 < metadata.width ∧ 0 < metadata.height then .ok ⟨0, 0, 1, 1⟩
    else .error "requested bbox does not intersect raster extent"
  inside := by
    intro metadata window planned hwindow hplanned
    rw [RemoteMetadata.forPlanning] at hplanned
    split_ifs at hwindow hplanned with hsize htile
    obtain rfl := Except.ok.inj hwindow
    obtain rfl := Except.ok.inj hplanned
    exact ⟨Nat.one_pos, Nat.one_pos, hsize.1, hsize.2⟩

/-- A store with a large file whose directory is said to begin at its last byte. -/
def hostileStore : RemoteStore where
  head _ := some 18446744073709551615
  getRange _ range := some <|
    if range.start = 0 then [0x49, 0x49, 43, 0, 8, 0, 0, 0] ++ LittleEndian.ofNat 8 (2 ^ 64 - 2)
    else List.replicate range.length 255
  getRanges _ ranges := some (ranges.map fun range => List.replicate range.length 255)

theorem fetchWindow_safe_hostile :
    (∀ act ∈ (fetchWindow hostileStore "flow_dir.tif" (cornerRequest .flowDir)).log,
      act.Within (18446744073709551615 : UInt64).toNat) ∧
      Returns (fetchWindow hostileStore "flow_dir.tif" (cornerRequest .flowDir)).outcome :=
  fetchWindow_safe rfl

end Fetch

end WatershedDelineation
