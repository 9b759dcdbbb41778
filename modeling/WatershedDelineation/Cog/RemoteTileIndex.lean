import WatershedDelineation.Cog.RemoteWindow
import WatershedDelineation.General.RowMajor

/-!
# The tile index of a TIFF file

What a TIFF file says about its tiles, and that the reader finds it. A tile array is a list of LONG
or LONG8 values. It is stored in the value field of its directory entry when it fits there, and
elsewhere in the file otherwise (`TileArray.Stored`), in either layout of TIFF files.

The reader finds the descriptors of the two arrays (`exists_remoteTileIndex`) and the value of each
entry (`TileArray.Describes.decodeDescriptorValue_eq_ok`). It takes an array in the value field to
be one value, so it rejects two LONG values in the entry of a BigTIFF file
(`TileArray.InlinePair`).
-/

namespace WatershedDelineation

open Checked (orErr orPanic rejectIf)
open LittleEndian (ofNat numbers length_ofNat length_numbers slice_numbers toNat_ofNat
  toNat_append_replicate_zero)

/-! ### Tile arrays -/

/-- The types of the values of a tile array. -/
inductive ElementType
  | long
  | long8
  deriving DecidableEq, Repr

/-- The number of a type in a directory entry. -/
def ElementType.fieldType : ElementType → ℕ
  | .long => 4
  | .long8 => 16

/-- The width of a value. -/
def ElementType.width : ElementType → ℕ
  | .long => 4
  | .long8 => 8

/-- A tile array: the offsets of all tiles, or the numbers of their bytes. -/
structure TileArray where
  elementType : ElementType
  values : List ℕ
  nonempty : 0 < values.length
  fits : ∀ v ∈ values, v < 256 ^ elementType.width

/-- The value of a tile. -/
def TileArray.value (array : TileArray) (index : ℕ) : ℕ := array.values.getD index 0

/-- The bytes of an array. -/
def TileArray.bytes (array : TileArray) : List UInt8 :=
  numbers array.elementType.width array.values

/-- **Where an array is stored**: the value field of its entry holds the array, padded with zeros,
or the place of the array in the file. -/
inductive TileArray.Stored (array : TileArray) (format : TiffFormat) (content : List UInt8) :
    List UInt8 → Prop
  | inline (hle : array.bytes.length ≤ format.inlineWidth) :
    Stored array format content
      (array.bytes ++ List.replicate (format.inlineWidth - array.bytes.length) 0)
  | outOfLine (offset : ℕ) (hlt : format.inlineWidth < array.bytes.length)
    (hoffset : offset < 256 ^ format.inlineWidth)
    (hle : offset + array.bytes.length ≤ content.length)
    (hcontent : (content.drop offset).take array.bytes.length = array.bytes) :
    Stored array format content (ofNat format.inlineWidth offset)

/-- The bytes of the directory entry of an array. -/
def TileArray.entryBytes (array : TileArray) (format : TiffFormat) (tag : ℕ)
    (field : List UInt8) : List UInt8 :=
  ofNat 2 tag ++ (ofNat 2 array.elementType.fieldType ++
    (ofNat format.inlineWidth array.values.length ++ field))

/-- The directory `ifd` says by its entry for `tag` where in the file the array is stored. -/
structure TileArray.StoredIn (array : TileArray) (format : TiffFormat) (content : List UInt8)
    (ifd : List (List UInt8)) (tag : ℕ) : Prop where
  count_lt : array.values.length < 256 ^ format.inlineWidth
  stored : ∃ field, array.Stored format content field ∧
    ifd.find? (fun bytes => LittleEndian.toNat (bytes.take 2) = tag)
      = some (array.entryBytes format tag field)

/-- Two LONG values that fill the value field of a BigTIFF entry. -/
structure TileArray.InlinePair (array : TileArray) (format : TiffFormat) : Prop where
  format_eq : format = .bigTiff
  elementType_eq : array.elementType = .long
  length_eq : array.values.length = 2

section Array

variable {array : TileArray} {format : TiffFormat} {content field : List UInt8}

theorem ElementType.width_pos (elementType : ElementType) : 0 < elementType.width := by
  cases elementType <;> decide

theorem ElementType.width_le (elementType : ElementType) : elementType.width ≤ 8 := by
  cases elementType <;> decide

/-- The reader knows the width of the types. -/
theorem remoteFieldWidth_fieldType {path : String} (elementType : ElementType) :
    remoteFieldWidth path elementType.fieldType = .ok elementType.width := by
  cases elementType <;> rfl

theorem TileArray.length_bytes :
    array.bytes.length = array.values.length * array.elementType.width := length_numbers

/-- Arrays in the value field have one value, except for pairs. -/
theorem TileArray.inline_iff :
    array.bytes.length ≤ format.inlineWidth ↔
      array.InlinePair format ∨
        (array.values.length = 1 ∧ array.elementType.width ≤ format.inlineWidth) := by
  have hpos := array.nonempty
  rw [TileArray.length_bytes]
  constructor
  · intro hle
    cases format <;> rcases htype : array.elementType with - | -
    all_goals simp only [TiffFormat.inlineWidth, ElementType.width, htype] at hle ⊢
    · exact .inr ⟨by omega, by omega⟩
    · omega
    · rcases Nat.lt_or_ge array.values.length 2 with hlt | hge
      · exact .inr ⟨by omega, by omega⟩
      · exact .inl ⟨rfl, htype, by omega⟩
    · exact .inr ⟨by omega, by omega⟩
  · rintro (⟨rfl, htype, hlength⟩ | ⟨hlength, hwidth⟩)
    · rw [hlength, htype]
      decide
    · rwa [hlength, Nat.one_mul]

theorem TileArray.Stored.length_field (h : array.Stored format content field) :
    field.length = format.inlineWidth := by
  cases h with
  | inline hle =>
    rw [List.length_append, List.length_replicate]
    omega
  | outOfLine offset => exact length_ofNat

end Array

/-! ### Reading an entry -/

section Entry

variable {path : String} {format : TiffFormat} {width tag objectSize : ℕ}
  {before bytes after content field : List UInt8} {array : TileArray}

theorem remoteWord_eq_ok (h : bytes.length = width) :
    remoteWord width path bytes = .ok (LittleEndian.toNat bytes) := by
  rw [remoteWord, rejectIf, if_neg (not_not.mpr h)]
  rfl

/-- A slice between two others. -/
theorem remoteSlice_append {a b : ℕ} (hbefore : before.length = a)
    (hbytes : a + bytes.length = b) :
    remoteSlice (before ++ (bytes ++ after)) a b = .ok bytes := by
  have hle : b ≤ (before ++ (bytes ++ after)).length := by
    rw [List.length_append, List.length_append]
    omega
  rw [remoteSlice, Checked.slice_of_le (by omega) hle, List.drop_left' hbefore,
    List.take_left' (by omega)]
  rfl

/-- Both layouts have the count and the value next to each other, at the width of the layout. -/
theorem remoteIfdValue_eq :
    remoteIfdValue path format bytes = (do
      let count ← remoteWord format.inlineWidth path
        (← remoteSlice bytes 4 (4 + format.inlineWidth))
      let value ← remoteWord format.inlineWidth path
        (← remoteSlice bytes (4 + format.inlineWidth) (4 + format.inlineWidth + format.inlineWidth))
      .ok (count, value)) := by
  cases format <;> rfl

/-- The two numbers at the end of an entry. -/
theorem remoteIfdValue_append {count value : List UInt8} (hbefore : before.length = 4)
    (hcount : count.length = format.inlineWidth) (hvalue : value.length = format.inlineWidth) :
    remoteIfdValue path format (before ++ (count ++ value))
      = .ok (LittleEndian.toNat count, LittleEndian.toNat value) := by
  have hend : remoteSlice (before ++ (count ++ value)) (4 + format.inlineWidth)
      (4 + format.inlineWidth + format.inlineWidth) = .ok value := by
    have h := @remoteSlice_append (before ++ count) value [] (4 + format.inlineWidth)
      (4 + format.inlineWidth + format.inlineWidth)
      (by rw [List.length_append, hbefore, hcount]) (by rw [hvalue])
    rwa [List.append_nil, List.append_assoc] at h
  rw [remoteIfdValue_eq, remoteSlice_append hbefore (by rw [hcount]), Checks.ok_bind,
    remoteWord_eq_ok hcount, Checks.ok_bind, hend, Checks.ok_bind, remoteWord_eq_ok hvalue]
  rfl

/-- **An entry** of a tile array is read as it was written. -/
theorem remoteIfdEntry_entryBytes (htag : tag < 256 ^ 2)
    (hcount : array.values.length < 256 ^ format.inlineWidth)
    (hfield : field.length = format.inlineWidth) :
    remoteIfdEntry path format (array.entryBytes format tag field)
      = .ok ⟨tag, array.elementType.fieldType, array.values.length, LittleEndian.toNat field⟩ := by
  have htype : array.elementType.fieldType < 256 ^ 2 := by
    cases array.elementType <;> decide
  have htagSlice : remoteSlice (array.entryBytes format tag field) 0 2 = .ok (ofNat 2 tag) :=
    @remoteSlice_append [] (ofNat 2 tag) _ 0 2 rfl (by rw [length_ofNat])
  have htypeSlice : remoteSlice (array.entryBytes format tag field) 2 4
      = .ok (ofNat 2 array.elementType.fieldType) :=
    remoteSlice_append length_ofNat (by rw [length_ofNat])
  have hvalue : remoteIfdValue path format (array.entryBytes format tag field)
      = .ok (array.values.length, LittleEndian.toNat field) := by
    have h := @remoteIfdValue_append path format
      (ofNat 2 tag ++ ofNat 2 array.elementType.fieldType)
      (ofNat format.inlineWidth array.values.length) field
      (by rw [List.length_append, length_ofNat, length_ofNat]) length_ofNat hfield
    rwa [toNat_ofNat hcount, List.append_assoc] at h
  rw [remoteIfdEntry, htagSlice, Checks.ok_bind, remoteU16, remoteWord_eq_ok length_ofNat,
    Checks.ok_bind, htypeSlice, Checks.ok_bind, remoteWord_eq_ok length_ofNat, Checks.ok_bind,
    hvalue, Checks.ok_bind, toNat_ofNat htag, toNat_ofNat htype, remoteFieldWidth_fieldType]
  rfl

/-- The tag of an entry. -/
theorem tag_of_remoteIfdEntry {entry : IfdEntry}
    (h : remoteIfdEntry path format bytes = .ok entry) :
    entry.tag = LittleEndian.toNat (bytes.take 2) := by
  simp only [remoteIfdEntry, remoteSlice, remoteU16, remoteWord, Checks.bind_eq_ok_iff,
    Checked.orPanic_eq_ok_iff, Checked.slice, Option.ite_none_right_eq_some] at h
  obtain ⟨_, ⟨-, hslice⟩, tag, ⟨_, -, htag⟩, _, -, _, -, _, -, _, -, hentry⟩ := h
  rw [← Except.ok.inj hentry, ← Except.ok.inj htag, ← Option.some.inj hslice]
  rfl

end Entry

/-! ### Descriptors -/

/-- What the storage of a descriptor says of its array. -/
inductive TileArray.Held (array : TileArray) (format : TiffFormat) (content : List UInt8) :
    IndexStorage → Prop
  | pair (value : ℕ) (hpair : array.InlinePair format) :
    Held array format content (.inlineScalar value)
  | scalar (value : ℕ) (hvalues : array.values = [value]) :
    Held array format content (.inlineScalar value)
  | outOfLine (offset : ℕ) (hlt : format.inlineWidth < array.bytes.length)
    (hle : offset + array.bytes.length ≤ content.length)
    (hcontent : (content.drop offset).take array.bytes.length = array.bytes) :
    Held array format content (.outOfLine offset)

/-- The descriptor of an array. -/
structure TileArray.Describes (array : TileArray) (format : TiffFormat) (content : List UInt8)
    (descriptor : IndexDescriptor) : Prop where
  fieldType_eq : descriptor.fieldType = array.elementType.fieldType
  elementWidth_eq : descriptor.elementWidth = array.elementType.width
  count_eq : descriptor.count = array.values.length
  held : array.Held format content descriptor.storage

section Descriptor

variable {path : String} {format : TiffFormat} {tag : ℕ} {content field : List UInt8}
  {array : TileArray} {ifd : List (List UInt8)} {entries : List IfdEntry}

/-- Storage that is read from the value field. -/
theorem TileArray.Stored.held (h : array.Stored format content field) :
    array.Held format content
      (if array.values.length * array.elementType.width ≤ format.inlineWidth then
        .inlineScalar (LittleEndian.toNat field)
      else .outOfLine (LittleEndian.toNat field)) := by
  rw [← TileArray.length_bytes]
  cases h with
  | inline hle =>
    rw [if_pos hle]
    rcases TileArray.inline_iff.mp hle with hpair | ⟨hlength, -⟩
    · exact .pair _ hpair
    · obtain ⟨v, hv⟩ := List.length_eq_one_iff.mp hlength
      refine .scalar _ ?_
      rw [toNat_append_replicate_zero, TileArray.bytes, hv, numbers, List.flatMap_singleton,
        toNat_ofNat (array.fits v (hv ▸ List.mem_singleton_self v))]
  | outOfLine offset hlt hoffset hle hcontent =>
    rw [if_neg (Nat.not_le_of_lt hlt), toNat_ofNat hoffset]
    exact .outOfLine offset hlt hle hcontent

theorem TileArray.Stored.length_bytes_lt (h : array.Stored format content field)
    (hsize : content.length < 2 ^ 64) : array.bytes.length < 2 ^ 64 := by
  cases h with
  | inline hle => exact Nat.lt_of_le_of_lt hle (by cases format <;> decide)
  | outOfLine offset _ _ hle => omega

/-- The end of a described array lies in the file. -/
theorem TileArray.Held.byteExtent {storage : IndexStorage} (h : array.Held format content storage)
    (hsize : content.length < 2 ^ 64) :
    ∃ extent, IndexDescriptor.byteExtent ⟨array.elementType.fieldType, array.elementType.width,
        array.values.length, storage⟩ = .ok extent ∧
      rejectBeyond path content.length extent = .ok () := by
  cases h with
  | pair value => exact ⟨none, rfl, rfl⟩
  | scalar value => exact ⟨none, rfl, rfl⟩
  | outOfLine offset _ hle =>
    rw [TileArray.length_bytes] at hle
    refine ⟨some ⟨offset, offset + array.values.length * array.elementType.width⟩, ?_, ?_⟩
    · simp only [IndexDescriptor.byteExtent]
      rw [Checked.mul_of_lt (by omega), Checks.okOr, Checks.ok_bind, Checked.add_of_lt (by omega)]
      rfl
    · exact Checked.rejectIf_eq_ok_iff.mpr (Nat.not_lt_of_le hle)

/-- **The descriptor** of an array that is stored in a file. -/
theorem TileArray.Stored.descriptor (h : array.Stored format content field)
    (hsize : content.length < 2 ^ 64) :
    ∃ descriptor, remoteDescriptor path format
        ⟨tag, array.elementType.fieldType, array.values.length, LittleEndian.toNat field⟩
        content.length = .ok descriptor ∧ array.Describes format content descriptor := by
  have hpos := array.nonempty
  have hlt := h.length_bytes_lt hsize
  rw [TileArray.length_bytes] at hlt
  have htype : array.elementType.fieldType = 4 ∨ array.elementType.fieldType = 16 := by
    cases array.elementType <;> decide
  have haccepted : ¬(array.values.length = 0 ∨
      ¬(array.elementType.fieldType = 4 ∨ array.elementType.fieldType = 16)) :=
    not_or.mpr ⟨Nat.ne_of_gt hpos, not_not.mpr htype⟩
  obtain ⟨extent, hextent, hbeyond⟩ := @TileArray.Held.byteExtent path format content array _ h.held
    hsize
  refine ⟨⟨array.elementType.fieldType, array.elementType.width, array.values.length, _⟩, ?_, rfl,
    rfl, rfl, h.held⟩
  simp only [remoteDescriptor]
  rw [rejectIf, if_neg haccepted, Checks.ok_bind, remoteFieldWidth_fieldType, Checks.ok_bind,
    Checked.mul_of_lt hlt, Checked.orErr_some, Checks.ok_bind, hextent, Except.mapError,
    Checks.ok_bind, hbeyond]
  rfl

/-- The entry of an array is found in its directory. -/
theorem TileArray.StoredIn.entry (h : array.StoredIn format content ifd tag) (htag : tag < 256 ^ 2)
    (hentries : ifd.mapM (remoteIfdEntry path format) = .ok entries) :
    ∃ field, array.Stored format content field ∧ remoteEntry path entries tag
      = .ok ⟨tag, array.elementType.fieldType, array.values.length, LittleEndian.toNat field⟩ := by
  obtain ⟨field, hstored, hfind⟩ := h.stored
  obtain ⟨entry, hentry, hfound⟩ := @Checks.find?_of_mapM _ _ _ ifd _ _ _
    (fun entry => decide (entry.tag = tag)) _ hentries (fun bytes entry hok => by
      rw [tag_of_remoteIfdEntry hok]) hfind
  refine ⟨field, hstored, ?_⟩
  rw [remoteIfdEntry_entryBytes htag h.count_lt hstored.length_field] at hentry
  rw [remoteEntry, hfound, Except.ok.inj hentry]
  rfl

/-- **The descriptors** of the two arrays of a directory. -/
theorem exists_remoteTileIndex {offsets byteCounts : TileArray} (hsize : content.length < 2 ^ 64)
    (hentries : ifd.mapM (remoteIfdEntry path format) = .ok entries)
    (hoffsets : offsets.StoredIn format content ifd 324)
    (hbyteCounts : byteCounts.StoredIn format content ifd 325)
    (hlength : offsets.values.length = byteCounts.values.length) :
    ∃ tileOffsets tileByteCounts, remoteTileIndex path format entries content.length
        = .ok (tileOffsets, tileByteCounts) ∧ offsets.Describes format content tileOffsets ∧
      byteCounts.Describes format content tileByteCounts := by
  obtain ⟨field, hstored, hentry⟩ := hoffsets.entry (by decide) hentries
  obtain ⟨field', hstored', hentry'⟩ := hbyteCounts.entry (by decide) hentries
  obtain ⟨tileOffsets, hdescriptor, hdescribes⟩ := hstored.descriptor hsize
  obtain ⟨tileByteCounts, hdescriptor', hdescribes'⟩ := hstored'.descriptor hsize
  refine ⟨tileOffsets, tileByteCounts, ?_, hdescribes, hdescribes'⟩
  have hcount : tileOffsets.count = tileByteCounts.count := by
    rw [hdescribes.count_eq, hdescribes'.count_eq, hlength]
  rw [remoteTileIndex, hentry, Checks.ok_bind, hdescriptor, Checks.ok_bind, hentry', Checks.ok_bind,
    hdescriptor', Checks.ok_bind, rejectIf, if_neg (not_not.mpr hcount)]
  rfl

end Descriptor

/-! ### Entries of the arrays -/

/-- The range of an entry that has to be fetched. -/
def IndexDescriptor.entryRange (descriptor : IndexDescriptor) (index : ℕ) : Option RemoteRange :=
  match descriptor.storage with
  | .inlineScalar _ => none
  | .outOfLine base => some ⟨base + index * descriptor.elementWidth,
      base + index * descriptor.elementWidth + descriptor.elementWidth⟩

namespace TileArray.Describes

variable {path : String} {format : TiffFormat} {tag index : ℕ} {content : List UInt8}
  {array : TileArray} {descriptor : IndexDescriptor}

/-- **A pair is rejected.** -/
theorem rejects_pair (h : array.Describes format content descriptor)
    (hpair : array.InlinePair format) (hindex : index < array.values.length) {objectSize : ℕ} :
    descriptorEntryRange path descriptor index objectSize = .error (.err
      (remoteLayoutError path "TIFF inline tile-index descriptor is not scalar")) := by
  have hcount : descriptor.count ≠ 1 ∨ index ≠ 0 :=
    .inl (by rw [h.count_eq, hpair.length_eq]; decide)
  have hle : array.bytes.length ≤ format.inlineWidth := TileArray.inline_iff.mpr (.inl hpair)
  rw [descriptorEntryRange, rejectIf, if_neg (by rw [h.count_eq]; omega), Checks.ok_bind]
  rcases hstorage : descriptor.storage with value | base
  · change (rejectIf (descriptor.count ≠ 1 ∨ index ≠ 0) _ >>= fun _ => _) = _
    rw [rejectIf, if_pos hcount]
    rfl
  · -- an array outside of its entry is too large for a pair
    have hheld := h.held
    rw [hstorage] at hheld
    cases hheld with
    | outOfLine _ hlt => exact absurd hle (Nat.not_le_of_lt hlt)

theorem entry_end_le (hindex : index < array.values.length) :
    index * array.elementType.width + array.elementType.width ≤ array.bytes.length :=
  TileArray.length_bytes ▸ RowMajor.add_le hindex (Nat.le_refl _)

/-- Apart from pairs, an array has one value or is stored outside of its entry. -/
theorem storage_cases (h : array.Describes format content descriptor)
    (hpair : ¬array.InlinePair format) :
    (∃ value, descriptor.storage = .inlineScalar value ∧ array.values = [value]) ∨
      ∃ base, descriptor.storage = .outOfLine base ∧ base + array.bytes.length ≤ content.length ∧
        (content.drop base).take array.bytes.length = array.bytes := by
  have hheld := h.held
  rcases hstorage : descriptor.storage with value | base
  all_goals rw [hstorage] at hheld
  · cases hheld with
    | pair _ h => exact absurd h hpair
    | scalar _ hvalues => exact .inl ⟨value, rfl, hvalues⟩
  · cases hheld with
    | outOfLine _ _ hle hcontent => exact .inr ⟨base, rfl, hle, hcontent⟩

theorem entryRange_of_outOfLine (h : array.Describes format content descriptor) {base : ℕ}
    (hstorage : descriptor.storage = .outOfLine base) :
    descriptor.entryRange index = some ⟨base + index * array.elementType.width,
      base + index * array.elementType.width + array.elementType.width⟩ := by
  rw [IndexDescriptor.entryRange, hstorage, h.elementWidth_eq]

theorem entryRange_inside (h : array.Describes format content descriptor)
    (hpair : ¬array.InlinePair format) (hindex : index < array.values.length) :
    ∀ range ∈ (descriptor.entryRange index).toList,
      range.start < range.stop ∧ range.stop ≤ content.length := by
  have hpos := array.elementType.width_pos
  have hend := @entry_end_le index array hindex
  intro range hrange
  obtain ⟨value, hstorage, -⟩ | ⟨base, hstorage, hle, -⟩ := h.storage_cases hpair
  · rw [IndexDescriptor.entryRange, hstorage] at hrange
    exact absurd hrange List.not_mem_nil
  · rw [h.entryRange_of_outOfLine hstorage] at hrange
    obtain rfl := List.mem_singleton.mp hrange
    simp only
    omega

/-- The range of an entry is computed without overflow. -/
theorem descriptorEntryRange_eq_ok (h : array.Describes format content descriptor)
    (hsize : content.length < 2 ^ 64) (hpair : ¬array.InlinePair format)
    (hindex : index < array.values.length) :
    descriptorEntryRange path descriptor index content.length
      = .ok (descriptor.entryRange index) := by
  have hend := @entry_end_le index array hindex
  rw [descriptorEntryRange, rejectIf, if_neg (by rw [h.count_eq]; omega), Checks.ok_bind]
  obtain ⟨value, hstorage, hvalues⟩ | ⟨base, hstorage, hle, -⟩ := h.storage_cases hpair
  · have hlength : array.values.length = 1 := by rw [hvalues]; rfl
    have hscalar : ¬(descriptor.count ≠ 1 ∨ index ≠ 0) := by
      rw [h.count_eq]
      omega
    rw [IndexDescriptor.entryRange, hstorage]
    change (rejectIf (descriptor.count ≠ 1 ∨ index ≠ 0) _ >>= fun _ => _) = _
    rw [rejectIf, if_neg hscalar]
    rfl
  · rw [h.entryRange_of_outOfLine hstorage, hstorage, h.elementWidth_eq]
    simp only
    rw [Checked.mul_of_lt (by omega), Option.bind_some, Checked.add_of_lt (by omega),
      Checked.orErr_some, Checks.ok_bind, checkedRemoteRange, Checked.add_of_lt (by omega),
      Checked.orErr_some, Checks.ok_bind, rejectIf, if_neg (by omega)]
    rfl

/-- The bytes of an entry are those of its value. -/
theorem slice_entry {base : ℕ} (hindex : index < array.values.length)
    (hcontent : (content.drop base).take array.bytes.length = array.bytes) :
    RemoteRange.slice ⟨base + index * array.elementType.width,
        base + index * array.elementType.width + array.elementType.width⟩ content
      = ofNat array.elementType.width array.values[index] := by
  have hend := @entry_end_le index array hindex
  rw [← slice_numbers hindex, ← TileArray.bytes, ← hcontent, RemoteRange.slice, RemoteRange.length,
    Nat.add_sub_cancel_left, ← List.drop_drop, List.drop_take, List.take_take,
    Nat.min_eq_left (by omega)]

/-- A word of the type of an array. -/
theorem remoteWord_ofNat {v : ℕ} (hv : v < 256 ^ array.elementType.width) :
    (match array.elementType.fieldType with
      | 4 => remoteU32 path (ofNat array.elementType.width v)
      | 16 => remoteU64 path (ofNat array.elementType.width v)
      | fieldType => .error (.err (remoteLayoutError path
          s!"unsupported TIFF tile-index field type {fieldType}"))) = .ok v := by
  have hword := @remoteWord_eq_ok path array.elementType.width (ofNat array.elementType.width v)
    length_ofNat
  rw [toNat_ofNat hv] at hword
  rcases htype : array.elementType with - | -
  all_goals rw [htype] at hword; exact hword

/-- **The value of an entry** is read from its bytes. -/
theorem decodeDescriptorValue_eq_ok (h : array.Describes format content descriptor)
    (hpair : ¬array.InlinePair format) (hindex : index < array.values.length) :
    decodeDescriptorValue path descriptor index
        ((descriptor.entryRange index).map (·.slice content)) tag = .ok (array.value index) := by
  have hvalue : array.value index = array.values[index] := List.getD_eq_getElem _ _ hindex
  obtain ⟨value, hstorage, hvalues⟩ | ⟨base, hstorage, hle, hcontent⟩ := h.storage_cases hpair
  · have hzero : index = 0 := by
      rw [hvalues, List.length_singleton] at hindex
      omega
    rw [decodeDescriptorValue, hstorage, TileArray.value, hvalues, hzero]
    rfl
  · rw [h.entryRange_of_outOfLine hstorage, Option.map_some, slice_entry hindex hcontent,
      decodeDescriptorValue, hstorage, hvalue]
    simp only [Checked.orErr_some, Checks.ok_bind]
    rw [rejectIf, if_neg (by rw [h.elementWidth_eq, length_ofNat, ne_eq, not_not]), Checks.ok_bind,
      h.fieldType_eq]
    exact remoteWord_ofNat (array.fits _ (List.getElem_mem hindex))

end TileArray.Describes

end WatershedDelineation
