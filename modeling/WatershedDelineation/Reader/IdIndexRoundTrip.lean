import Mathlib.Data.List.GetD
import WatershedDelineation.General.Checked
import WatershedDelineation.Reader.IdIndexFrame

/-!
# Saving and loading an id index

The body of an index is read back as it was written (`decodeBody_encodeBody`), so a file is loaded
as it was saved (`loadFromPath_writeToPath`), and not at all when a byte of its body has changed
(`loadFromPath_changed`).
-/

namespace WatershedDelineation

namespace IndexFile

/-! ### The body -/

section Body

variable {libs : Libraries} {hfx : Hfx} {index : IdIndex} {path : CachePath}

/-- The libraries read back what they write: the columns of an index, and footers, whose texts have
no control characters. -/
structure Libraries.RoundTrip (libs : Libraries) : Prop where
  arrow : ∀ (ids : List Int) (rowGroups : List (Option Int)) (path : CachePath) (body : List UInt8),
    (∀ id ∈ ids, SignedWord.Fits 63 id) → (∀ g ∈ rowGroups, ∀ v ∈ g, SignedWord.Fits 31 v) →
    rowGroups.length = ids.length →
    arrowStream libs [.int64 (ids.map some), .int32 rowGroups] path = .ok body →
    libs.streamReader body = .ok (schema,
      [.ok ⟨[("id", .int64 (ids.map some)), ("row_group", .int32 rowGroups)], ids.length⟩])
  printable : ∀ footer text, libs.toVec footer = .ok text → Utf8.Printable text
  json : ∀ footer text, libs.toVec footer = .ok text →
    libs.fromSlice (Utf8.bytes text) = .ok footer

/-- An index with distinct valid ids, whose row groups are absent or defined exactly on the ids and
fit into 32 bits. -/
structure IdIndex.Storable (hfx : Hfx) (index : IdIndex) : Prop where
  nonempty : index.ids ≠ []
  nodup : index.ids.Nodup
  valid : ∀ id ∈ index.ids, hfx.unitId id.raw = .ok id ∧ SignedWord.Fits 63 id.raw
  groups : ∀ groups, index.idRowGroups = some groups → ∀ id,
    if id ∈ index.ids then ∃ rowGroup < 2 ^ 31, groups id = some rowGroup else groups id = none

theorem IdIndex.Storable.rowGroup_lt (h : index.Storable hfx) {id : UnitId} {rowGroup : ℕ}
    (hid : id ∈ index.ids) (hgroup : index.rowGroup id = some rowGroup) : rowGroup < 2 ^ 31 := by
  obtain ⟨groups, hgroups, hget⟩ := Option.bind_eq_some_iff.mp hgroup
  have hdefined := h.groups groups hgroups id
  rw [if_pos hid] at hdefined
  obtain ⟨rowGroup', hlt, hget'⟩ := hdefined
  rw [hget] at hget'
  rwa [Option.some.inj hget']

theorem mapM_rowGroupValue (h : index.Storable hfx) :
    index.ids.mapM (rowGroupValue index)
      = .ok (index.ids.map fun id => (index.rowGroup id).map Int.ofNat) := by
  refine Checks.mapM_eq_ok fun id hid => ?_
  unfold rowGroupValue
  cases hgroup : index.rowGroup id with
  | none => rfl
  | some rowGroup => exact if_pos (h.rowGroup_lt hid hgroup)

theorem foldlM_insertGroup {ids : List UnitId} (hnodup : ids.Nodup)
    {known : UnitId → Option ℕ} (hknown : ∀ id ∈ ids, known id = none) (value : UnitId → ℕ) :
    (ids.map fun id => (id, value id)).foldlM insertGroup known
      = some fun id => if id ∈ ids then some (value id) else known id := by
  induction ids generalizing known with
  | nil => simp
  | cons id ids ih =>
    obtain ⟨hid, hnodup⟩ := List.nodup_cons.mp hnodup
    have hnew : insertGroup known (id, value id)
        = some (Function.update known id (some (value id))) := by
      rw [insertGroup, hknown id List.mem_cons_self]
      rfl
    rw [List.map_cons, List.foldlM_cons, hnew]
    refine (ih hnodup fun id' hid' => ?_).trans ?_
    · rw [Function.update_of_ne (ne_of_mem_of_not_mem hid' hid)]
      exact hknown id' (List.mem_cons_of_mem _ hid')
    · congr 1
      funext id'
      by_cases heq : id' = id
      · subst heq
        simp [hid]
      · simp [heq]

/-- The row groups of the rows of an index are those of the index. -/
theorem rowGroupsOfRows_rows (h : index.Storable hfx) :
    rowGroupsOfRows (index.ids.map fun id => (id, index.rowGroup id)) = some index.idRowGroups := by
  have hlen : index.ids.length ≠ 0 := fun h0 => h.nonempty (List.length_eq_zero_iff.mp h0)
  rw [rowGroupsOfRows, List.countP_map]
  cases hgroups : index.idRowGroups with
  | none =>
    have hnone : index.ids.countP ((fun row => row.2.isSome) ∘ fun id => (id, index.rowGroup id))
        = 0 :=
      List.countP_eq_zero.mpr fun id _ => by simp [IdIndex.rowGroup, hgroups]
    rw [if_pos hnone]
  | some groups =>
    have hsome : ∀ id ∈ index.ids, index.rowGroup id = some ((groups id).getD 0) := by
      intro id hid
      have hdefined := h.groups groups hgroups id
      rw [if_pos hid] at hdefined
      obtain ⟨rowGroup, -, hget⟩ := hdefined
      rw [IdIndex.rowGroup, hgroups, Option.bind_some, hget, Option.getD_some]
    have hall : index.ids.countP ((fun row => row.2.isSome) ∘ fun id => (id, index.rowGroup id))
        = index.ids.length :=
      List.countP_eq_length.mpr fun id hid => by simp [hsome id hid]
    have hids : (index.ids.map fun id => (id, index.rowGroup id)).map Prod.fst = index.ids := by
      rw [List.map_map]
      exact List.map_id _
    have hvalues : (index.ids.map fun id => (id, index.rowGroup id)).filterMap Prod.snd
        = index.ids.map fun id => (groups id).getD 0 := by
      rw [List.filterMap_map, ← List.filterMap_eq_map]
      exact List.filterMap_congr hsome
    rw [if_neg (by rw [hall]; exact hlen), if_pos (by rw [hall, List.length_map]), hids, hvalues,
      ← List.map_prod_left_eq_zip, foldlM_insertGroup h.nodup fun _ _ => rfl, Option.map_some]
    congr 2
    funext id
    have hdefined := h.groups groups hgroups id
    split_ifs at hdefined ⊢ with hid
    · obtain ⟨rowGroup, -, hget⟩ := hdefined
      rw [hget, Option.getD_some]
    · exact hdefined.symm

theorem decodeRow_columns (h : index.Storable hfx) {row : ℕ} (hrow : row < index.ids.length) :
    decodeRow hfx (index.ids.map fun id => some id.raw)
        (index.ids.map fun id => (index.rowGroup id).map Int.ofNat) row
      = some (index.ids[row], index.rowGroup index.ids[row]) := by
  have hid : (index.ids.map fun id => some id.raw).getD row none = some index.ids[row].raw := by
    rw [List.getD_eq_getElem _ _ (by rwa [List.length_map]), List.getElem_map]
  have hgroup : (index.ids.map fun id => (index.rowGroup id).map Int.ofNat).getD row none
      = (index.rowGroup index.ids[row]).map Int.ofNat := by
    rw [List.getD_eq_getElem _ _ (by rwa [List.length_map]), List.getElem_map]
  have hvalid := (h.valid _ (List.getElem_mem hrow)).1
  simp only [decodeRow, hid, hgroup, Option.bind_eq_bind, Option.bind_some, hvalid,
    Except.toOption]
  cases index.rowGroup index.ids[row] with
  | none => rfl
  | some rowGroup => rfl

/-- The batch of an index. -/
def IdIndex.batch (index : IdIndex) : RecordBatch where
  columns :=
    [("id", .int64 (index.ids.map fun id => some id.raw)),
      ("row_group", .int32 (index.ids.map fun id => (index.rowGroup id).map Int.ofNat))]
  numRows := index.ids.length

theorem decodeBatch_batch (h : index.Storable hfx) :
    decodeBatch hfx (.ok index.batch)
      = some (index.ids.map fun id => (id, index.rowGroup id)) := by
  have hrange : index.ids = (List.range index.ids.length).map (index.ids.getD · ⟨0⟩) := by
    refine List.ext_getElem (by simp) fun row hrow _ => ?_
    rw [List.getElem_map, List.getElem_range, List.getD_eq_getElem _ _ hrow]
  have hrows : (List.range index.ids.length).mapM
      (decodeRow hfx (index.ids.map fun id => some id.raw)
        (index.ids.map fun id => (index.rowGroup id).map Int.ofNat))
      = some ((List.range index.ids.length).map fun row =>
          (index.ids.getD row ⟨0⟩, index.rowGroup (index.ids.getD row ⟨0⟩))) := by
    refine Checks.mapM_eq_some fun row hrow => ?_
    have hlt := List.mem_range.mp hrow
    rw [decodeRow_columns h hlt, List.getD_eq_getElem _ _ hlt]
  conv_rhs => rw [hrange]
  rw [List.map_map]
  exact hrows

/-- **The body of an index** is read back as the index. -/
theorem decodeBody_encodeBody (hlibs : libs.RoundTrip) (h : index.Storable hfx) {body : List UInt8}
    (hbody : encodeBody libs index path = .ok body) : decodeBody libs hfx body = some index := by
  obtain ⟨rowGroups, hgroups, hstream⟩ := Checks.bind_eq_ok_iff.mp hbody
  obtain rfl := Except.ok.inj ((mapM_rowGroupValue h).symm.trans hgroups)
  have hread := hlibs.arrow (index.ids.map UnitId.raw)
    (index.ids.map fun id => (index.rowGroup id).map Int.ofNat) path body ?_ ?_ (by simp)
    (by rwa [List.map_map])
  · rw [List.map_map, List.length_map] at hread
    have hread : libs.streamReader body = .ok (schema, [.ok index.batch]) := hread
    have hbatches : [Except.ok index.batch].mapM (decodeBatch hfx)
        = some [index.ids.map fun id => (id, index.rowGroup id)] := by
      rw [List.mapM_cons, decodeBatch_batch h]
      rfl
    have hids : (index.ids.map fun id => (id, index.rowGroup id)).map Prod.fst = index.ids := by
      rw [List.map_map]
      exact List.map_id _
    rw [decodeBody, hread]
    change ([Except.ok index.batch].mapM (decodeBatch hfx)).bind _ = some index
    rw [hbatches, Option.bind_some, List.flatten_singleton]
    simp only [rowGroupsOfRows_rows h, hids, Option.bind_eq_bind, Option.bind_some]
  · intro id hid
    obtain ⟨unitId, hunitId, rfl⟩ := List.mem_map.mp hid
    exact (h.valid unitId hunitId).2
  · intro value hvalue raw hraw
    obtain ⟨id, hid, rfl⟩ := List.mem_map.mp hvalue
    obtain ⟨rowGroup, hgroup, rfl⟩ := Option.map_eq_some_iff.mp hraw
    have hlt := h.rowGroup_lt hid hgroup
    constructor
    · exact (by decide : (-2 ^ 31 : ℤ) ≤ 0).trans (Int.natCast_nonneg rowGroup)
    · exact Int.ofNat_lt.mpr hlt

end Body

/-! ### Writing and loading -/

section Files

variable {libs : Libraries} {hfx : Hfx} {index : IdIndex} {path : CachePath}
  {fileSize : UInt64} {fileEtag : Option String} {validatedAt : UInt64} {files files' : Files}
  {faults faults' : List Bool}

private theorem triple_createParent :
    Faulty.Triple (· = files) (createParent path) (fun _ => (· = files)) fun _ => True := by
  unfold createParent
  split_ifs
  · exact Faulty.triple_pure fun _ hs => hs
  · exact Faulty.triple_attempt fun _ _ => trivial

/-- What a successful write leaves. -/
theorem triple_writeToPath (files : Files) :
    Faulty.Triple (· = files) (writeToPath libs index path fileSize fileEtag validatedAt)
      (fun _ files' => ∃ body footer, encodeBody libs index path = .ok body ∧
        libs.toVec (footerOf body fileSize fileEtag validatedAt) = .ok footer ∧
        files' = Function.update files path (some (frame body (Utf8.bytes footer))))
      fun _ => True := by
  unfold writeToPath
  refine triple_createParent.bind fun _ => ?_
  refine (Faulty.triple_ofExcept fun _ _ => trivial).bind fun body =>
    Faulty.triple_of_imp fun hbody => ?_
  refine (Faulty.triple_ofExcept fun _ _ => trivial).bind fun footer =>
    Faulty.triple_of_imp fun hfooter => ?_
  refine Faulty.triple_attempt_bind (fun _ _ => trivial) (Faulty.triple_update ?_)
  rintro _ rfl
  exact ⟨body, footer, hbody, Checks.mapError_eq_ok_iff.mp hfooter, rfl⟩

/-- Writing succeeds when the libraries and all operations do. -/
theorem run_writeToPath_nil {body : List UInt8} {footer : String}
    (hbody : encodeBody libs index path = .ok body)
    (hfooter : libs.toVec (footerOf body fileSize fileEtag validatedAt) = .ok footer) :
    Faulty.run (writeToPath libs index path fileSize fileEtag validatedAt) files []
      = (.ok (), Function.update files path (some (frame body (Utf8.bytes footer))), []) := by
  have hcreate : Faulty.run (createParent path) files [] = (.ok (), files, []) := by
    unfold createParent
    split_ifs
    · rfl
    · rw [Faulty.run_attempt]
      rfl
  unfold writeToPath
  rw [Faulty.run_bind_of_ok hcreate, hbody, Faulty.run_bind_of_ok (Faulty.run_ofExcept _),
    Checks.mapError_eq_ok_iff.mpr hfooter, Faulty.run_bind_of_ok (Faulty.run_ofExcept _),
    Faulty.run_attempt_bind]
  rfl

theorem run_loadFromPath (hread : faults.head? ≠ some true) :
    (Faulty.run (loadFromPath libs hfx path fileSize fileEtag) files faults).1
      = .ok ((files path).bind fun bytes => loadBytes libs hfx bytes fileSize fileEtag) := by
  rw [loadFromPath, Faulty.run_store_bind, Faulty.run_attempt_bind, if_neg hread]
  rfl

variable (hfx) in
/-- What is loaded from a file that was written. -/
theorem loadBytes_frame (hlibs : libs.RoundTrip) {body : List UInt8} {footer : String}
    (hfooter : libs.toVec (footerOf body fileSize fileEtag validatedAt) = .ok footer)
    (hsize : (frame body (Utf8.bytes footer)).length < 2 ^ 61) (body' : List UInt8)
    (hlen : body'.length = body.length) (size : UInt64) (etag : Option String) :
    splitBodyAndFooter (frame body' (Utf8.bytes footer)) = some (body', Utf8.bytes footer) ∧
    loadBytes libs hfx (frame body' (Utf8.bytes footer)) size etag
      = if size = fileSize ∧ etag = fileEtag ∧ crc32 body' = crc32 body
        then decodeBody libs hfx body' else none := by
  have hsize' : (frame body' (Utf8.bytes footer)).length < 2 ^ 61 := by
    rw [length_frame, hlen, ← length_frame]
    exact hsize
  have hsplit := splitBodyAndFooter_frame body' (hlibs.printable _ _ hfooter) hsize'
  refine ⟨hsplit, ?_⟩
  rw [loadBytes, hsplit]
  simp only [hlibs.json _ _ hfooter, footerOf, ne_eq, not_true_eq_false, if_false]
  by_cases hsource : size = fileSize ∧ etag = fileEtag
  · obtain ⟨rfl, rfl⟩ := hsource
    by_cases hcrc : crc32 body' = crc32 body <;> simp [hcrc]
  · have hother : ¬fileSize = size ∨ ¬fileEtag = etag := by
      rw [not_and_or, eq_comm, eq_comm (a := etag)] at hsource
      exact hsource
    rw [if_pos hother, if_neg fun h => hsource ⟨h.1, h.2.1⟩]

end Files

/-! ### A sample -/

/-- One id, in the first row group. -/
def sampleIndex : IdIndex := ⟨[⟨5⟩], some (Function.update (fun _ => none) ⟨5⟩ (some 0))⟩

def samplePath : CachePath := ["cache", "catchments.idindex.arrow"]

/-- The batch of the sample. -/
def sampleBatch : RecordBatch :=
  ⟨[("id", .int64 [some 5]), ("row_group", .int32 [some 0])], 1⟩

/-- A stream of the batch, up to the mark of its end. -/
def sampleOpenBody : List UInt8 := [0xff, 0xff, 0xff, 0xff, 5, 0, 0, 0, 0, 0, 0, 0]

/-- The stream of the batch. -/
def sampleBody : List UInt8 := sampleOpenBody ++ [0xff, 0xff, 0xff, 0xff, 0, 0, 0, 0]

/-- A footer with the magic word in its ETag. -/
def sampleFooter : Footer := ⟨some "etag-IIDX", 12345, pourpointVersion, 0, 528155263⟩

def sampleText : String :=
  "\x7b\"file_etag\":\"etag-IIDX\",\"file_size\":12345," ++
    "\"built_by_pourpoint_version\":\"0.1.0\",\"validated_at\":0,\"body_crc32\":528155263\x7d"

/-- Libraries that write and read the sample. -/
def sampleLibraries : Libraries where
  recordBatch fields columns :=
    .ok ⟨(fields.map Field.name).zip columns, (columns.head?.map fun column => match column with
      | .int64 values | .int32 values => values.length
      | .other => 0).getD 0⟩
  openWriter _ := .ok []
  writeBatch _ batch := if batch = sampleBatch then .ok sampleOpenBody else .error "batch"
  finishWriter written := .ok (written ++ [0xff, 0xff, 0xff, 0xff, 0, 0, 0, 0])
  streamReader body :=
    if body = sampleBody then .ok (schema, [.ok sampleBatch]) else .error "stream"
  toVec footer := if footer = sampleFooter then .ok sampleText else .error "footer"
  fromSlice bytes :=
    if bytes = Utf8.bytes sampleText then .ok sampleFooter else .error "text"

theorem roundTrip_sampleLibraries : sampleLibraries.RoundTrip where
  arrow ids rowGroups path body _ _ _ hstream := by
    obtain ⟨batch, hbatch, hstream⟩ := Checks.bind_eq_ok_iff.mp hstream
    obtain ⟨opened, hopened, hstream⟩ := Checks.bind_eq_ok_iff.mp hstream
    obtain ⟨written, hwritten, hstream⟩ := Checks.bind_eq_ok_iff.mp hstream
    have hbatch := Except.ok.inj (Checks.mapError_eq_ok_iff.mp hbatch)
    have hwritten := Checks.mapError_eq_ok_iff.mp hwritten
    have hbody := Except.ok.inj (Checks.mapError_eq_ok_iff.mp hstream)
    simp only [sampleLibraries] at hwritten
    split_ifs at hwritten with hsample
    obtain rfl := Except.ok.inj hwritten
    have hrows : (⟨[("id", .int64 (ids.map some)), ("row_group", .int32 rowGroups)],
        (ids.map some).length⟩ : RecordBatch) = sampleBatch := hbatch.trans hsample
    rw [List.length_map] at hrows
    rw [hrows, ← hbody]
    rfl
  printable footer text h := by
    simp only [sampleLibraries] at h
    split_ifs at h
    obtain rfl := Except.ok.inj h
    decide +kernel
  json footer text h := by
    simp only [sampleLibraries] at h
    split_ifs at h with hfooter
    obtain rfl := Except.ok.inj h
    simp only [sampleLibraries, hfooter, if_true]

theorem storable_sampleIndex : sampleIndex.Storable permissiveHfx where
  nonempty := by decide
  nodup := by decide
  valid id hid := by
    obtain rfl := List.mem_singleton.mp hid
    exact ⟨rfl, by decide⟩
  groups groups hgroups id := by
    obtain rfl := Option.some.inj hgroups
    split_ifs with hid
    · obtain rfl := List.mem_singleton.mp hid
      exact ⟨0, by decide, rfl⟩
    · exact Function.update_of_ne (fun h => hid (List.mem_singleton.mpr h)) _ _

/-- The file of the sample. -/
def sampleFile : List UInt8 := frame sampleBody (Utf8.bytes sampleText)

theorem encodeBody_sample : encodeBody sampleLibraries sampleIndex samplePath = .ok sampleBody := by
  decide +kernel

theorem run_writeToPath_sample :
    Faulty.run (writeToPath sampleLibraries sampleIndex samplePath 12345 (some "etag-IIDX") 0)
        (fun _ => none) []
      = (.ok (), Function.update (fun _ => none) samplePath (some sampleFile), []) := by
  refine run_writeToPath_nil encodeBody_sample ?_
  decide +kernel

/-! ### Round trip and detection -/

section RoundTrip

variable {libs : Libraries} {hfx : Hfx} {index : IdIndex} {path : CachePath}
  {fileSize : UInt64} {fileEtag : Option String} {validatedAt : UInt64} {files files' : Files}
  {faults faults' : List Bool}

/-- **The file of an id index**: what was saved with a size and an ETag is loaded with them and with
no others, and saving fails only where a library or an operation does. The libraries read back what
they write, and the file is smaller than 2^61 bytes. -/
theorem loadFromPath_writeToPath (hlibs : libs.RoundTrip) (hindex : index.Storable hfx) :
    (∀ body footer, encodeBody libs index path = .ok body →
      libs.toVec (footerOf body fileSize fileEtag validatedAt) = .ok footer →
      (Faulty.run (writeToPath libs index path fileSize fileEtag validatedAt) files []).1
        = .ok ()) ∧
    (∀ faults files' faults',
      Faulty.run (writeToPath libs index path fileSize fileEtag validatedAt) files faults
        = (.ok (), files', faults') →
      (∀ bytes, files' path = some bytes → bytes.length < 2 ^ 61) →
      ∀ size etag faults, faults.head? ≠ some true →
        (Faulty.run (loadFromPath libs hfx path size etag) files' faults).1
          = .ok (if size = fileSize ∧ etag = fileEtag then some index else none)) ∧
    ∀ body footer, Utf8.Printable footer →
      (frame body (Utf8.bytes footer)).length < 2 ^ 61 →
      splitBodyAndFooter (frame body (Utf8.bytes footer)) = some (body, Utf8.bytes footer) := by
  refine ⟨fun body footer hbody hfooter => ?_, fun faults files' faults' hrun hsize size etag faults
    hread => ?_, fun body footer hfooter hsize => splitBodyAndFooter_frame body hfooter hsize⟩
  · rw [run_writeToPath_nil hbody hfooter]
  · obtain ⟨body, footer, hbody, hfooter, rfl⟩ := (triple_writeToPath files).of_run rfl hrun
    rw [Function.update_self] at hsize
    have hload := (loadBytes_frame hfx hlibs hfooter (hsize _ rfl) body rfl size etag).2
    rw [run_loadFromPath hread, Function.update_self, Option.bind_some, hload,
      decodeBody_encodeBody hlibs hindex hbody]
    simp

theorem loadFromPath_writeToPath_sample :
    (Faulty.run (loadFromPath sampleLibraries permissiveHfx samplePath 12345 (some "etag-IIDX"))
      (Function.update (fun _ => none) samplePath (some sampleFile)) []).1
        = .ok (some sampleIndex) := by
  have hsize : ∀ bytes, Function.update (fun _ => none) samplePath (some sampleFile) samplePath
      = some bytes → bytes.length < 2 ^ 61 := by
    intro bytes hbytes
    rw [Function.update_self] at hbytes
    obtain rfl := Option.some.inj hbytes
    decide +kernel
  have hload := (loadFromPath_writeToPath roundTrip_sampleLibraries storable_sampleIndex).2.1
    [] _ [] run_writeToPath_sample hsize 12345 (some "etag-IIDX") [] (by decide)
  rwa [if_pos ⟨rfl, rfl⟩] at hload

/-- **A changed byte of the body** of a saved file is found: the file is taken apart at the same
place, the checksums differ, and nothing is loaded. -/
theorem loadFromPath_changed (hlibs : libs.RoundTrip)
    (hrun : Faulty.run (writeToPath libs index path fileSize fileEtag validatedAt) files faults
      = (.ok (), files', faults')) {bytes : List UInt8} (hbytes : files' path = some bytes)
    (hsize : bytes.length < 2 ^ 61) :
    ∃ body footerJson, splitBodyAndFooter bytes = some (body, footerJson) ∧
      ∀ i (hi : i < body.length) byte, byte ≠ body[i] →
        splitBodyAndFooter (bytes.set i byte) = some (body.set i byte, footerJson) ∧
        crc32 (body.set i byte) ≠ crc32 body ∧
        ∀ size etag faults, faults.head? ≠ some true →
          (Faulty.run (loadFromPath libs hfx path size etag)
            (Function.update files' path (some (bytes.set i byte))) faults).1 = .ok none := by
  obtain ⟨body, footer, hbody, hfooter, rfl⟩ := (triple_writeToPath files).of_run rfl hrun
  rw [Function.update_self] at hbytes
  obtain rfl := Option.some.inj hbytes
  have hloads := fun body' hlen => loadBytes_frame hfx hlibs hfooter hsize body' hlen
  refine ⟨body, Utf8.bytes footer, (hloads body rfl fileSize fileEtag).1, fun i hi byte hbyte => ?_⟩
  have hset : (frame body (Utf8.bytes footer)).set i byte
      = frame (body.set i byte) (Utf8.bytes footer) := by
    rw [frame, frame, List.append_assoc, List.append_assoc, List.append_assoc, List.append_assoc,
      List.set_append_left _ _ hi]
  have hcrc := crc32_set_ne hi hbyte
  have hloads := hloads (body.set i byte) List.length_set
  rw [hset]
  refine ⟨(hloads fileSize fileEtag).1, hcrc, fun size etag faults hread => ?_⟩
  rw [run_loadFromPath hread, Function.update_self, Option.bind_some, (hloads size etag).2,
    if_neg fun h => hcrc h.2.2]

theorem loadFromPath_changed_sample :
    ∃ body footerJson, splitBodyAndFooter sampleFile = some (body, footerJson) ∧
      ∀ i (hi : i < body.length) byte, byte ≠ body[i] →
        splitBodyAndFooter (sampleFile.set i byte) = some (body.set i byte, footerJson) ∧
        crc32 (body.set i byte) ≠ crc32 body ∧
        ∀ size etag faults, faults.head? ≠ some true →
          (Faulty.run (loadFromPath sampleLibraries permissiveHfx samplePath size etag)
            (Function.update (Function.update (fun _ => none) samplePath (some sampleFile))
              samplePath (some (sampleFile.set i byte))) faults).1 = .ok none :=
  loadFromPath_changed roundTrip_sampleLibraries run_writeToPath_sample (Function.update_self ..)
    (by decide +kernel)

end RoundTrip

end IndexFile

end WatershedDelineation
