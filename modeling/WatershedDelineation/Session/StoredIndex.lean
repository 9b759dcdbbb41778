import WatershedDelineation.Reader.IdIndexRoundTrip
import WatershedDelineation.Session.CatchmentIndex

/-!
# Indexes of the cache and their files

The cache keeps an id index as rows with the size and the ETag of the file (`IdIndex.load`). What is
stored is the file of `IndexFile`. Loading that file has the same result
(`loadBytes_built_eq_load`).
-/

namespace WatershedDelineation

open IndexFile (Libraries encodeBody footerOf frame loadBytes)

/-- The index that is saved for a build. -/
def IdIndexBuildResult.toFile (built : IdIndexBuildResult) : IndexFile.IdIndex :=
  ⟨built.ids, some built.idRowGroups⟩

/-- What opening makes of an index; one without row groups is built again. -/
def IndexFile.IdIndex.toBuilt (index : IndexFile.IdIndex) : Option IdIndexBuildResult :=
  index.idRowGroups.map fun idRowGroups => ⟨index.ids, idRowGroups, none⟩

variable {built : IdIndexBuildResult} {groups : List (List UnitId)} {index : IdIndex}
  {libs : Libraries} {hfx : Hfx} {path : CachePath}

/-- Rows with distinct ids have row groups. -/
theorem exists_indexRowGroups {rows : List (UnitId × ℕ)} (hnodup : (rows.map Prod.fst).Nodup) :
    ∃ f, indexRowGroups rows = .ok f := by
  suffices hfold : ∀ known : UnitId → Option ℕ, (∀ row ∈ rows, known row.1 = none) →
      ∃ f, rows.foldlM insertRowGroup known = .ok f from hfold _ fun _ _ => rfl
  induction rows with
  | nil => exact fun known _ => ⟨known, rfl⟩
  | cons row rows ih =>
    intro known hknown
    rw [List.map_cons, List.nodup_cons] at hnodup
    have hinsert : insertRowGroup known row
        = .ok (Function.update known row.1 (some row.2)) := by
      rw [insertRowGroup, hknown row List.mem_cons_self]
    rw [List.foldlM_cons, hinsert, Checks.ok_bind]
    refine ih hnodup.2 _ fun r hr => ?_
    rw [Function.update_of_ne]
    · exact hknown r (List.mem_cons_of_mem _ hr)
    · exact ne_of_mem_of_not_mem (List.mem_map_of_mem hr) hnodup.1

/-- What is written for a build has row groups within 32 bits. -/
theorem IdIndexBuildResult.Indexes.storable (h : built.Indexes groups) (hne : built.ids ≠ [])
    (hvalid : ∀ id ∈ built.ids, hfx.unitId id.raw = .ok id ∧ SignedWord.Fits 63 id.raw)
    {fileSize : ℕ} {fileEtag : String}
    (hindex : IdIndex.ofBuild built fileSize fileEtag = .ok index) :
    built.toFile.Storable hfx where
  nonempty := hne
  nodup := by
    change built.ids.Nodup
    rw [h.ids_eq]
    exact h.nodup
  valid := hvalid
  groups idRowGroups hgroups id := by
    obtain rfl := Option.some.inj hgroups
    obtain ⟨rfl, hlt⟩ := IdIndex.of_ofBuild hindex
    split_ifs with hid
    · have hid' : id ∈ groups.flatten := h.ids_eq ▸ hid
      obtain ⟨group, hgroup, hmem⟩ := List.mem_flatten.mp hid'
      obtain ⟨rowGroup, hrowGroup⟩ := List.mem_iff_getElem?.mp hgroup
      have hget := (h.rowGroup_iff id rowGroup).mpr ⟨group, hrowGroup, hmem⟩
      refine ⟨rowGroup, hlt (id, rowGroup) (List.mem_filterMap.mpr ⟨id, hid, ?_⟩), hget⟩
      rw [hget, Option.map_some]
    · refine Option.eq_none_iff_forall_ne_some.mpr fun rowGroup hget => hid ?_
      obtain ⟨group, hgroup, hmem⟩ := (h.rowGroup_iff id rowGroup).mp hget
      change id ∈ built.ids
      rw [h.ids_eq]
      exact List.mem_flatten.mpr ⟨group, List.mem_of_getElem? hgroup, hmem⟩

/-- The index of a build is loaded with the size and the ETag it was written with. -/
theorem IdIndexBuildResult.Indexes.load_eq (h : built.Indexes groups) (hne : built.ids ≠ [])
    {fileSize size : ℕ} {fileEtag etag : String}
    (hindex : IdIndex.ofBuild built fileSize fileEtag = .ok index) :
    index.load size etag = if size = fileSize ∧ etag = fileEtag then
      some ⟨built.ids, built.idRowGroups, none⟩ else none := by
  have hindex' := IdIndex.of_ofBuild hindex
  have hsize : index.fileSize = fileSize := by rw [hindex'.1]
  have hetag : index.fileEtag = fileEtag := by rw [hindex'.1]
  have hids : index.rows.map Prod.fst = groups.flatten := by
    rw [hindex'.1]
    exact h.map_fst_rows
  by_cases hsame : size = fileSize ∧ etag = fileEtag
  · obtain ⟨rfl, rfl⟩ := hsame
    have hne' : index.rows ≠ [] := by
      rintro hnil
      rw [hnil, List.map_nil, ← h.ids_eq] at hids
      exact hne hids.symm
    obtain ⟨f, hf⟩ := exists_indexRowGroups (hids ▸ h.nodup)
    have hload : index.load size etag = some ⟨index.rows.map Prod.fst, f, none⟩ := by
      rw [IdIndex.load, if_pos ⟨hsize, hetag, hne'⟩, hf]
      rfl
    -- the row groups that are loaded say the same of the groups as those that were written
    have hgroups := h.idRowGroups_eq (h.load hindex hload)
    rw [hload, if_pos ⟨rfl, rfl⟩, hids, ← h.ids_eq, ← hgroups]
  · rw [if_neg hsame, IdIndex.load, if_neg]
    rintro ⟨hsize', hetag', -⟩
    exact hsame ⟨hsize'.symm.trans hsize, hetag'.symm.trans hetag⟩

/-- **The file of an index** is loaded as the cache loads the index. -/
theorem loadBytes_built_eq_load (hlibs : libs.RoundTrip) (h : built.Indexes groups)
    (hne : built.ids ≠ [])
    (hvalid : ∀ id ∈ built.ids, hfx.unitId id.raw = .ok id ∧ SignedWord.Fits 63 id.raw)
    {fileSize size validatedAt : UInt64} {fileEtag etag : String}
    (hindex : IdIndex.ofBuild built fileSize.toNat fileEtag = .ok index) {body : List UInt8}
    {footer : String} (hbody : encodeBody libs built.toFile path = .ok body)
    (hfooter : libs.toVec (footerOf body fileSize (some fileEtag) validatedAt) = .ok footer)
    (hsize : (frame body (Utf8.bytes footer)).length < 2 ^ 61) :
    (loadBytes libs hfx (frame body (Utf8.bytes footer)) size (some etag)).bind
        IndexFile.IdIndex.toBuilt
      = index.load size.toNat etag := by
  rw [(IndexFile.loadBytes_frame hfx hlibs hfooter hsize body rfl size (some etag)).2,
    IndexFile.decodeBody_encodeBody hlibs (h.storable hne hvalid hindex) hbody,
    h.load_eq hne hindex]
  simp only [Option.some.injEq, and_true, UInt64.toNat_inj]
  split_ifs <;> rfl

end WatershedDelineation
