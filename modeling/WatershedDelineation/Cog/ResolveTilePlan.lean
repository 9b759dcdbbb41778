import WatershedDelineation.Cog.RemoteSafety
import WatershedDelineation.Cog.RemoteTileIndex

/-!
# Resolving a plan

What `resolve_tile_plan` of `cog.rs` makes of the tile arrays of a file: every planned tile gets the
range from its offset on with as many bytes as its byte count says (`resolveTilePlan_exact`). The
plans are those over the grid of the file, such as planning makes (`TilePlan.over_count`).
-/

namespace WatershedDelineation

open Checked (orErr rejectIf)
open LittleEndian (ofNat numbers)

/-! ### Plans -/

/-- The object store returns the bytes of the file. Nothing is said of empty ranges, nor of those
that do not lie in the file. -/
structure RemoteStore.Serves (store : RemoteStore) (path : String) (content : List UInt8) :
    Prop where
  getRanges : ∀ ranges : List RemoteRange,
    (∀ range ∈ ranges, range.start < range.stop ∧ range.stop ≤ content.length) →
      store.getRanges path ranges = some (ranges.map (·.slice content))

/-- The plan consists of tiles of a grid, and of not too many. -/
structure TilePlan.Over (plan : TilePlan) (tiles : ℕ) : Prop where
  index_lt : ∀ index ∈ plan.indices, index < tiles
  length_le : plan.indices.length ≤ maxPlannedTileCount

section Over

variable {metadata : RemoteMetadata} {planned : CogMetadata} {window : RasterPixelWindow}
  {kind : RasterKind} {path : String} {plan : TilePlan}

/-- Both arrays have a value for every tile of a raster that has been accepted. -/
theorem count_of_validateMeritLayout (h : validateMeritLayout metadata kind path = .ok ()) :
    ∃ across down, metadata.tilesAcross = .ok across ∧ metadata.tilesDown = .ok down ∧
      metadata.tileOffsets.count = across * down ∧
      metadata.tileByteCounts.count = across * down := by
  simp only [validateMeritLayout, Checks.bind_eq_ok_iff, Checked.rejectIf_eq_ok_iff, not_or,
    not_not, Checked.orErr_eq_ok_iff, Checked.mul_eq_some_iff] at h
  obtain ⟨-, -, across, hacross, down, hdown, _, ⟨-, rfl⟩, -, hcount, -⟩ := h
  exact ⟨across, down, hacross, hdown, hcount⟩

/-- **Planned tiles** have entries in both arrays. -/
theorem TilePlan.over_count (hvalid : validateMeritLayout metadata kind path = .ok ())
    (hplanned : metadata.forPlanning = .ok planned) (hin : window.Inside planned)
    (hplan : TilePlan.forWindow planned window path = .ok plan) :
    plan.Over metadata.tileOffsets.count := by
  refine ⟨fun index hindex => ?_, TilePlan.length_indices_le hin hplan⟩
  obtain ⟨tileRow, tileCol, hmeets, rfl⟩ := (TilePlan.mem_indices hin hplan).mp hindex
  obtain ⟨across, down, hacross, hdown, hcount, -⟩ := count_of_validateMeritLayout hvalid
  have hcol := hmeets.lt_tilesAcross hin
  have hrow := (hmeets.row.span_bounds planned.tileHeight_pos hin.height_pos hin.row_le).1
  rw [RemoteMetadata.forPlanning] at hplanned
  split_ifs at hplanned with hpos
  obtain rfl := Except.ok.inj hplanned
  rw [RemoteMetadata.tilesAcross, Checked.divCeil_of_pos hpos.1] at hacross
  rw [RemoteMetadata.tilesDown, Checked.divCeil_of_pos hpos.2] at hdown
  obtain rfl := Except.ok.inj hacross
  obtain rfl := Except.ok.inj hdown
  have hrow' : tileRow < (metadata.height + metadata.tileHeight - 1) / metadata.tileHeight := by
    rw [← Nat.succ_le_iff, Nat.le_div_iff_mul_le hpos.2, Nat.succ_mul]
    simp only at hrow
    omega
  rw [hcount]
  exact (RowMajor.index_lt hrow' hcol).trans_eq (Nat.mul_comm ..)

end Over

/-- The ranges of the entries of a tile. -/
def entryRanges (tileOffsets tileByteCounts : IndexDescriptor) (index : ℕ) : List RemoteRange :=
  (tileOffsets.entryRange index).toList ++ (tileByteCounts.entryRange index).toList

/-- A tile and its bytes, as the two arrays say. -/
def located (offsets byteCounts : TileArray) (index : ℕ) : LocatedTile :=
  ⟨index, offsets.value index, offsets.value index + byteCounts.value index⟩

/-- The sums that the reader computes fit into words: the end of every tile, and the number of the
bytes of all tiles on top of `total`. -/
structure SumsFit (offsets byteCounts : TileArray) (total : ℕ) (indices : List ℕ) : Prop where
  stop_lt : ∀ index ∈ indices, offsets.value index + byteCounts.value index < 2 ^ 64
  total_lt : total + (indices.map byteCounts.value).sum < 2 ^ 64

/-- What is wrong with a plan whose sums do not fit. -/
def overflowReasons : List String :=
  ["TIFF compressed chunk end overflow", "TIFF covered compressed bytes overflow"]

/-- The descriptors belong to two arrays of the same file, neither of which is a pair. -/
structure Indexed (offsets byteCounts : TileArray) (format : TiffFormat) (content : List UInt8)
    (tileOffsets tileByteCounts : IndexDescriptor) : Prop where
  describes_offsets : offsets.Describes format content tileOffsets
  describes_byteCounts : byteCounts.Describes format content tileByteCounts
  length_eq : offsets.values.length = byteCounts.values.length
  offsets_ne : ¬offsets.InlinePair format
  byteCounts_ne : ¬byteCounts.InlinePair format
  size_lt : content.length < 2 ^ 64

section Plan

variable {path : String} {format : TiffFormat} {content : List UInt8}
  {offsets byteCounts : TileArray} {descriptor tileOffsets tileByteCounts : IndexDescriptor}
  {index total : ℕ} {indices : List ℕ}
  {before after responses : List (List UInt8)} {state : Resolving}

theorem sumsFit_cons_iff :
    SumsFit offsets byteCounts total (index :: indices) ↔
      offsets.value index + byteCounts.value index < 2 ^ 64 ∧
        total + byteCounts.value index < 2 ^ 64 ∧
        SumsFit offsets byteCounts (total + byteCounts.value index) indices := by
  constructor
  · rintro ⟨hstop, htotal⟩
    rw [List.forall_mem_cons] at hstop
    rw [List.map_cons, List.sum_cons, ← Nat.add_assoc] at htotal
    exact ⟨hstop.1, Nat.lt_of_le_of_lt (Nat.le_add_right ..) htotal, hstop.2, htotal⟩
  · rintro ⟨hindex, -, hstop, htotal⟩
    refine ⟨List.forall_mem_cons.mpr ⟨hindex, hstop⟩, ?_⟩
    rwa [List.map_cons, List.sum_cons, ← Nat.add_assoc]

theorem length_entryRange_le : (descriptor.entryRange index).toList.length ≤ 1 := by
  cases descriptor.entryRange index <;> simp

/-- The next response is that of the next entry. -/
theorem nextResponse_append (hlt : before.length + 1 < 2 ^ 64) :
    nextResponse descriptor (before ++ ((descriptor.entryRange index).toList.map (·.slice content)
        ++ after)) before.length
      = .ok ((descriptor.entryRange index).map (·.slice content),
          before.length + (descriptor.entryRange index).toList.length) := by
  rw [nextResponse, IndexDescriptor.entryRange]
  rcases descriptor.storage with value | base
  · rfl
  · simp only [Checked.add_of_lt hlt, Checked.orPanic_some, Checks.ok_bind, Option.toList_some,
      List.map_cons, List.map_nil, List.cons_append, List.nil_append, List.length_singleton,
      Option.map_some]
    rw [List.getElem?_append_right (Nat.le_refl _), Nat.sub_self, List.getElem?_cons_zero]

/-- One tile: its entries are the next responses, and what they say is added up. -/
theorem resolveTile_append
    (h : Indexed offsets byteCounts format content tileOffsets tileByteCounts)
    (hindex : index < offsets.values.length) (hstate : state.responseIndex = before.length)
    (hlt : before.length + 2 < 2 ^ 64)
    (hresponses : responses = before ++
      ((entryRanges tileOffsets tileByteCounts index).map (·.slice content) ++ after)) :
    resolveTile path tileOffsets tileByteCounts responses state index = (do
      let stop ← orErr (Checked.add 64 (offsets.value index) (byteCounts.value index))
        (remoteLayoutError path "TIFF compressed chunk end overflow")
      let compressedBytes ← orErr (Checked.add 64 state.compressedBytes (byteCounts.value index))
        (remoteLayoutError path "TIFF covered compressed bytes overflow")
      .ok ⟨before.length + (entryRanges tileOffsets tileByteCounts index).length,
        state.tiles ++ [⟨index, offsets.value index, stop⟩], compressedBytes⟩) := by
  have hone := @length_entryRange_le tileOffsets index
  have hfirst : nextResponse tileOffsets responses state.responseIndex
      = .ok ((tileOffsets.entryRange index).map (·.slice content),
          before.length + (tileOffsets.entryRange index).toList.length) := by
    rw [hstate, hresponses, entryRanges, List.map_append, List.append_assoc]
    exact nextResponse_append (by omega)
  -- the entry of the length comes after that of the offset, if there is one of that
  have hsecond : nextResponse tileByteCounts responses
        (before.length + (tileOffsets.entryRange index).toList.length)
      = .ok ((tileByteCounts.entryRange index).map (·.slice content),
          before.length + (entryRanges tileOffsets tileByteCounts index).length) := by
    have hnext := @nextResponse_append content tileByteCounts index
      (before ++ (tileOffsets.entryRange index).toList.map (·.slice content)) after
      (by rw [List.length_append, List.length_map]; omega)
    rw [List.length_append, List.length_map, List.append_assoc] at hnext
    rw [hresponses, entryRanges, List.map_append, List.length_append, List.append_assoc,
      ← Nat.add_assoc]
    exact hnext
  rw [resolveTile, hfirst, Checks.ok_bind]
  simp only
  rw [hsecond, Checks.ok_bind]
  simp only
  rw [h.describes_offsets.decodeDescriptorValue_eq_ok h.offsets_ne hindex, Checks.ok_bind,
    h.describes_byteCounts.decodeDescriptorValue_eq_ok h.byteCounts_ne (h.length_eq ▸ hindex),
    Checks.ok_bind]

/-- **All tiles**: they are located where the arrays say if the sums fit, and rejected otherwise.
The induction is on the rest of the plan, whose responses follow those used so far. -/
theorem foldlM_resolveTile
    (h : Indexed offsets byteCounts format content tileOffsets tileByteCounts)
    (hin : ∀ index ∈ indices, index < offsets.values.length)
    (hstate : state.responseIndex = before.length) (hbytes : state.compressedBytes < 2 ^ 64)
    (hlt : before.length + 2 * indices.length < 2 ^ 64)
    (hresponses : responses = before ++
      (indices.flatMap (entryRanges tileOffsets tileByteCounts)).map (·.slice content)) :
    (SumsFit offsets byteCounts state.compressedBytes indices →
      indices.foldlM (resolveTile path tileOffsets tileByteCounts responses) state
        = .ok ⟨responses.length, state.tiles ++ indices.map (located offsets byteCounts),
            state.compressedBytes + (indices.map byteCounts.value).sum⟩) ∧
    (¬SumsFit offsets byteCounts state.compressedBytes indices → ∃ reason ∈ overflowReasons,
      indices.foldlM (resolveTile path tileOffsets tileByteCounts responses) state
        = .error (.err (remoteLayoutError path reason))) := by
  induction indices generalizing before state with
  | nil =>
    rw [List.flatMap_nil, List.map_nil, List.append_nil] at hresponses
    rw [hresponses, List.map_nil, List.append_nil, ← hstate]
    exact ⟨fun _ => rfl, fun hfit => absurd ⟨fun _ h => absurd h List.not_mem_nil, hbytes⟩ hfit⟩
  | cons index rest ih =>
    obtain ⟨hindex, hrest⟩ := List.forall_mem_cons.mp hin
    rw [List.length_cons] at hlt
    rw [List.flatMap_cons, List.map_append] at hresponses
    rw [List.foldlM_cons, resolveTile_append h hindex hstate (by omega) hresponses,
      sumsFit_cons_iff]
    by_cases hstop : offsets.value index + byteCounts.value index < 2 ^ 64
    · by_cases htotal : state.compressedBytes + byteCounts.value index < 2 ^ 64
      · have hlength : (entryRanges tileOffsets tileByteCounts index).length ≤ 2 := by
          rw [entryRanges, List.length_append]
          exact Nat.add_le_add length_entryRange_le length_entryRange_le
        rw [Checked.add_of_lt hstop, Checked.orErr_some, Checks.ok_bind, Checked.add_of_lt htotal,
          Checked.orErr_some, Checks.ok_bind, Checks.ok_bind]
        -- the rest of the plan, after the responses of this tile
        obtain ⟨hfits, hoverflows⟩ := @ih
          (before ++ (entryRanges tileOffsets tileByteCounts index).map (·.slice content))
          ⟨before.length + (entryRanges tileOffsets tileByteCounts index).length,
            state.tiles ++ [located offsets byteCounts index],
            state.compressedBytes + byteCounts.value index⟩ hrest
          (by rw [List.length_append, List.length_map]) htotal
          (by rw [List.length_append, List.length_map]; omega)
          (by rw [hresponses, List.append_assoc])
        refine ⟨fun hfit => (hfits hfit.2.2).trans ?_, fun hfit => hoverflows fun hfit' =>
          hfit ⟨hstop, htotal, hfit'⟩⟩
        rw [List.append_assoc, List.singleton_append, ← List.map_cons, Nat.add_assoc,
          ← List.sum_cons, ← List.map_cons]
      · refine ⟨fun hfit => absurd hfit.2.1 htotal, fun _ => ⟨_, List.mem_cons_of_mem _
          (List.mem_singleton_self _), ?_⟩⟩
        rw [Checked.add_of_lt hstop, Checked.orErr_some, Checks.ok_bind, Checked.add, if_neg htotal]
        rfl
    · refine ⟨fun hfit => absurd hfit.1 hstop, fun _ => ⟨_, List.mem_cons_self, ?_⟩⟩
      rw [Checked.add, if_neg hstop]
      rfl

theorem indexRanges_eq_ok (h : Indexed offsets byteCounts format content tileOffsets tileByteCounts)
    (hin : ∀ index ∈ indices, index < offsets.values.length) :
    indexRanges path tileOffsets tileByteCounts content.length indices
      = .ok (indices.flatMap (entryRanges tileOffsets tileByteCounts)) := by
  have hentries : indices.mapM (indexEntryRanges path tileOffsets tileByteCounts content.length)
      = .ok (indices.map (entryRanges tileOffsets tileByteCounts)) := by
    refine Checks.mapM_eq_ok fun index hindex => ?_
    have hindex := hin index hindex
    rw [indexEntryRanges,
      h.describes_offsets.descriptorEntryRange_eq_ok h.size_lt h.offsets_ne hindex, Checks.ok_bind,
      h.describes_byteCounts.descriptorEntryRange_eq_ok h.size_lt h.byteCounts_ne
        (h.length_eq ▸ hindex), Checks.ok_bind]
    rfl
  rw [indexRanges, hentries]
  rfl

/-- The object store returns the entries of a plan. -/
theorem outcome_fetchIndex {store : RemoteStore} (hserves : store.Serves path content)
    (h : Indexed offsets byteCounts format content tileOffsets tileByteCounts)
    (hin : ∀ index ∈ indices, index < offsets.values.length) :
    (fetchIndex store path (indices.flatMap (entryRanges tileOffsets tileByteCounts))).outcome
      = .ok ((indices.flatMap (entryRanges tileOffsets tileByteCounts)).map (·.slice content)) := by
  have hinside : ∀ range ∈ indices.flatMap (entryRanges tileOffsets tileByteCounts),
      range.start < range.stop ∧ range.stop ≤ content.length := by
    intro range hrange
    obtain ⟨index, hindex, hrange⟩ := List.mem_flatMap.mp hrange
    rcases List.mem_append.mp hrange with hrange | hrange
    · exact h.describes_offsets.entryRange_inside h.offsets_ne (hin index hindex) range hrange
    · exact h.describes_byteCounts.entryRange_inside h.byteCounts_ne
        (h.length_eq ▸ hin index hindex) range hrange
  rw [fetchIndex]
  split_ifs with hempty
  · rw [hempty]
    rfl
  · rw [RemoteStore.fetchAll, Logged.outcome_bind, Logged.outcome_record, Checks.ok_bind,
      Logged.outcome_liftM, hserves.getRanges _ hinside]
    rfl

theorem indexResponseBytes_from (hlt : total + (responses.map List.length).sum < 2 ^ 64) :
    responses.foldlM (fun total response => orErr (Checked.add 64 total response.length)
        (remoteLayoutError path "TIFF index response bytes overflow")) total
      = .ok (total + (responses.map List.length).sum) := by
  induction responses generalizing total with
  | nil => rfl
  | cons response responses ih =>
    rw [List.map_cons, List.sum_cons, ← Nat.add_assoc] at hlt ⊢
    rw [List.foldlM_cons, Checked.add_of_lt (by omega), Checked.orErr_some, Checks.ok_bind, ih hlt]

/-- The responses of a plan are short, since the request for them is. -/
theorem sum_responses_lt (h : Indexed offsets byteCounts format content tileOffsets tileByteCounts)
    (hin : ∀ index ∈ indices, index < offsets.values.length)
    (hle : indices.length ≤ maxPlannedTileCount) :
    (((indices.flatMap (entryRanges tileOffsets tileByteCounts)).map (·.slice content)).map
      List.length).sum < 2 ^ 64 := by
  have hoffsets : tileOffsets.elementWidth ≤ 8 :=
    h.describes_offsets.elementWidth_eq.trans_le (ElementType.width_le _)
  have hbyteCounts : tileByteCounts.elementWidth ≤ 8 :=
    h.describes_byteCounts.elementWidth_eq.trans_le (ElementType.width_le _)
  obtain ⟨-, hrequest⟩ := (ensures_indexRanges hoffsets hbyteCounts hle).result _
    (@indexRanges_eq_ok "" _ _ _ _ _ _ _ h hin)
  rw [List.map_map]
  calc _ ≤ ((indices.flatMap (entryRanges tileOffsets tileByteCounts)).map
        RemoteRange.length).sum := List.sum_le_sum fun range _ => List.length_take_le _ _
    _ ≤ Purpose.tileIndex.requestCeiling := hrequest
    _ < 2 ^ 64 := by decide

/-- **A plan is resolved exactly** if the sums fit, and is rejected otherwise. -/
theorem outcome_resolveTilePlan {store : RemoteStore} {metadata : RemoteMetadata} {plan : TilePlan}
    (hserves : store.Serves path content)
    (h : Indexed offsets byteCounts format content metadata.tileOffsets metadata.tileByteCounts)
    (hplan : plan.Over offsets.values.length) :
    (SumsFit offsets byteCounts 0 plan.indices → ∃ indexBytes,
      (resolveTilePlan store path metadata plan content.length).outcome
        = .ok (⟨content.length, plan.indices.map (located offsets byteCounts),
            (plan.indices.map byteCounts.value).sum⟩, indexBytes)) ∧
    (¬SumsFit offsets byteCounts 0 plan.indices → ∃ reason ∈ overflowReasons,
      (resolveTilePlan store path metadata plan content.length).outcome
        = .error (.err (remoteLayoutError path reason))) := by
  obtain ⟨hin, hle⟩ := hplan
  have hlt : ([] : List (List UInt8)).length + 2 * plan.indices.length < 2 ^ 64 := by
    rw [maxPlannedTileCount] at hle
    rw [List.length_nil]
    omega
  have hbytes := @indexResponseBytes_from path 0 _
    (by rw [Nat.zero_add]; exact sum_responses_lt h hin hle)
  obtain ⟨hfits, hoverflows⟩ := @foldlM_resolveTile path format content offsets byteCounts _ _
    plan.indices [] _ ⟨0, [], 0⟩ h hin rfl (by decide) hlt rfl
  simp only [List.nil_append, Nat.zero_add] at hfits hoverflows
  simp only [resolveTilePlan, Logged.outcome_bind, Logged.outcome_liftM, Logged.outcome_record,
    indexRanges_eq_ok h hin, Checks.ok_bind, outcome_fetchIndex hserves h hin, List.length_map,
    rejectIf, ne_eq, not_true, if_false, resolveTiles]
  -- the responses have been read, what remains is to locate the tiles
  refine ⟨fun hfit => ?_, fun hfit => ?_⟩
  · rw [hfits hfit, Checks.ok_bind, indexResponseBytes, hbytes, Checks.ok_bind]
    exact ⟨_, rfl⟩
  · obtain ⟨reason, hmem, hreason⟩ := hoverflows hfit
    refine ⟨reason, hmem, ?_⟩
    rw [hreason]
    rfl

/-- **A plan over a pair** is rejected. -/
theorem outcome_resolveTilePlan_of_pair {store : RemoteStore} {metadata : RemoteMetadata}
    {plan : TilePlan} (hoffsets : offsets.Describes format content metadata.tileOffsets)
    (hbyteCounts : byteCounts.Describes format content metadata.tileByteCounts)
    (hlength : offsets.values.length = byteCounts.values.length) (hsize : content.length < 2 ^ 64)
    (hpair : offsets.InlinePair format ∨ byteCounts.InlinePair format)
    (hplan : plan.Over offsets.values.length) (hne : plan.indices ≠ []) :
    (resolveTilePlan store path metadata plan content.length).outcome
      = .error (.err
          (remoteLayoutError path "TIFF inline tile-index descriptor is not scalar")) := by
  obtain ⟨index, rest, hindices⟩ := List.exists_cons_of_ne_nil hne
  have hindex : index < offsets.values.length :=
    hplan.index_lt index (hindices ▸ List.mem_cons_self)
  have hentry : indexEntryRanges path metadata.tileOffsets metadata.tileByteCounts content.length
      index = .error (.err
        (remoteLayoutError path "TIFF inline tile-index descriptor is not scalar")) := by
    by_cases hpair' : offsets.InlinePair format
    · rw [indexEntryRanges, hoffsets.rejects_pair hpair' hindex]
      rfl
    · rw [indexEntryRanges, hoffsets.descriptorEntryRange_eq_ok hsize hpair' hindex, Checks.ok_bind,
        hbyteCounts.rejects_pair (hpair.resolve_left hpair') (hlength ▸ hindex)]
      rfl
  rw [resolveTilePlan, Logged.outcome_bind, Logged.outcome_liftM, indexRanges, hindices,
    List.mapM_cons, hentry]
  rfl

end Plan

/-! ### The tile index of a directory -/

/-- **The tile index is resolved exactly.** In every directory of either layout whose entries say
where two tile arrays of one length are stored, the reader finds the arrays, and each planned tile
gets the range from its offset on with as many bytes as its byte count says; only if a sum of these
does not fit into 64 bits, the plan is rejected. The exception are two LONG values in the entry of a
BigTIFF file, over which every plan with a tile is rejected. -/
theorem resolveTilePlan_exact {store : RemoteStore} {path : String} {content : List UInt8}
    {format : TiffFormat} {ifd : List (List UInt8)} {entries : List IfdEntry}
    {offsets byteCounts : TileArray} (hserves : store.Serves path content)
    (hsize : content.length < 2 ^ 64)
    (hentries : ifd.mapM (remoteIfdEntry path format) = .ok entries)
    (hoffsets : offsets.StoredIn format content ifd 324)
    (hbyteCounts : byteCounts.StoredIn format content ifd 325)
    (hlength : offsets.values.length = byteCounts.values.length) :
    ∃ tileOffsets tileByteCounts, remoteTileIndex path format entries content.length
        = .ok (tileOffsets, tileByteCounts) ∧
      ∀ (metadata : RemoteMetadata) (plan : TilePlan), metadata.tileOffsets = tileOffsets →
        metadata.tileByteCounts = tileByteCounts → plan.Over offsets.values.length →
        (¬(offsets.InlinePair format ∨ byteCounts.InlinePair format) →
          (SumsFit offsets byteCounts 0 plan.indices → ∃ indexBytes,
            (resolveTilePlan store path metadata plan content.length).outcome
              = .ok (⟨content.length, plan.indices.map (located offsets byteCounts),
                  (plan.indices.map byteCounts.value).sum⟩, indexBytes)) ∧
          (¬SumsFit offsets byteCounts 0 plan.indices → ∃ reason ∈ overflowReasons,
            (resolveTilePlan store path metadata plan content.length).outcome
              = .error (.err (remoteLayoutError path reason)))) ∧
        (offsets.InlinePair format ∨ byteCounts.InlinePair format → plan.indices ≠ [] →
          (resolveTilePlan store path metadata plan content.length).outcome
            = .error (.err
                (remoteLayoutError path "TIFF inline tile-index descriptor is not scalar"))) := by
  obtain ⟨tileOffsets, tileByteCounts, hindex, hdescribes, hdescribes'⟩ :=
    exists_remoteTileIndex hsize hentries hoffsets hbyteCounts hlength
  refine ⟨tileOffsets, tileByteCounts, hindex, ?_⟩
  intro metadata plan htileOffsets htileByteCounts hplan
  subst htileOffsets htileByteCounts
  refine ⟨fun hpair => ?_, fun hpair hne => ?_⟩
  · obtain ⟨hpair, hpair'⟩ := not_or.mp hpair
    exact outcome_resolveTilePlan hserves
      ⟨hdescribes, hdescribes', hlength, hpair, hpair', hsize⟩ hplan
  · exact outcome_resolveTilePlan_of_pair hdescribes hdescribes' hlength hsize hpair hplan hne

/-! ### Samples -/

/-- The store that has one file, whatever the path. -/
def RemoteStore.ofContent (content : List UInt8) : RemoteStore where
  head _ := some (UInt64.ofNat content.length)
  getRange _ range :=
    if range.start < range.stop ∧ range.stop ≤ content.length then some (range.slice content)
    else none
  getRanges _ ranges :=
    if ∀ range ∈ ranges, range.start < range.stop ∧ range.stop ≤ content.length then
      some (ranges.map (·.slice content))
    else none

theorem RemoteStore.serves_ofContent (content : List UInt8) (path : String) :
    (RemoteStore.ofContent content).Serves path content :=
  ⟨fun _ hranges => if_pos hranges⟩

/-- The metadata of two tiles next to each other. -/
def twoTiles (tileOffsets tileByteCounts : IndexDescriptor) : RemoteMetadata where
  width := 1024
  height := 512
  tileWidth := 512
  tileHeight := 512
  scale := [0, 0, 0]
  tiepoint := [0, 0, 0, 0, 0, 0]
  nodata := "255"
  sampleType := .u8
  compression := 8
  predictor := 1
  tileOffsets := tileOffsets
  tileByteCounts := tileByteCounts
  width_lt := by decide
  height_lt := by decide
  tileWidth_lt := by decide
  tileHeight_lt := by decide

/-- An array of two LONG values. -/
def twoLongs (v w : Fin (2 ^ 32)) : TileArray where
  elementType := .long
  values := [v, w]
  nonempty := Nat.two_pos
  fits := by
    rintro _ (- | ⟨_, - | ⟨_, ⟨⟩⟩⟩)
    · exact v.isLt
    · exact w.isLt

/-- A file of 32 bytes: two tiles of 4 and 8 bytes at 4 and 8, and the two arrays at 16 and 24. -/
def twoTilesContent : List UInt8 :=
  List.replicate 16 0 ++ (numbers 4 [4, 8] ++ numbers 4 [4, 8])

/-- The tile arrays of a classic TIFF file, which are outside of their entries. -/
def twoTilesIfd : List (List UInt8) :=
  [(twoLongs 4 8).entryBytes .classic 324 (ofNat 4 16),
    (twoLongs 4 8).entryBytes .classic 325 (ofNat 4 24)]

theorem resolveTilePlan_exact_twoTiles :
    ∃ indexBytes, (resolveTilePlan (.ofContent twoTilesContent) "flow_dir.tif"
        (twoTiles ⟨4, 4, 2, .outOfLine 16⟩ ⟨4, 4, 2, .outOfLine 24⟩) ⟨[1, 0]⟩ 32).outcome
      = .ok (⟨32, [⟨1, 8, 16⟩, ⟨0, 4, 8⟩], 12⟩, indexBytes) := by
  have hoffsets : (twoLongs 4 8).StoredIn .classic twoTilesContent twoTilesIfd 324 :=
    ⟨by decide, _, .outOfLine 16 (by decide) (by decide) (by decide) (by decide), by decide⟩
  have hbyteCounts : (twoLongs 4 8).StoredIn .classic twoTilesContent twoTilesIfd 325 :=
    ⟨by decide, _, .outOfLine 24 (by decide) (by decide) (by decide) (by decide), by decide⟩
  obtain ⟨tileOffsets, tileByteCounts, hindex, hresolves⟩ :=
    resolveTilePlan_exact (RemoteStore.serves_ofContent twoTilesContent "flow_dir.tif") (by decide)
      (show twoTilesIfd.mapM (remoteIfdEntry "flow_dir.tif" .classic)
        = .ok [⟨324, 4, 2, 16⟩, ⟨325, 4, 2, 24⟩] from rfl) hoffsets hbyteCounts rfl
  have hdescriptors : (⟨4, 4, 2, .outOfLine 16⟩, ⟨4, 4, 2, .outOfLine 24⟩)
      = (tileOffsets, tileByteCounts) := Except.ok.inj hindex
  obtain ⟨rfl, rfl⟩ := Prod.mk.inj hdescriptors
  refine ((hresolves (twoTiles _ _) ⟨[1, 0]⟩ rfl rfl ⟨by decide, by decide⟩).1 ?_).1
    ⟨by decide, by decide⟩
  rintro (h | h)
  all_goals exact absurd h.format_eq (by decide)

/-- The same arrays in the entries of a BigTIFF file. -/
def pairIfd : List (List UInt8) :=
  [(twoLongs 4 8).entryBytes .bigTiff 324 (numbers 4 [4, 8]),
    (twoLongs 4 8).entryBytes .bigTiff 325 (numbers 4 [4, 8])]

/-- Two LONG values in an entry are well formed, and are not resolved. -/
theorem resolveTilePlan_inlinePair :
    (twoLongs 4 8).StoredIn .bigTiff twoTilesContent pairIfd 324 ∧
      (twoLongs 4 8).StoredIn .bigTiff twoTilesContent pairIfd 325 ∧
      (RemoteStore.ofContent twoTilesContent).Serves "flow_dir.tif" twoTilesContent ∧
      pairIfd.mapM (remoteIfdEntry "flow_dir.tif" .bigTiff)
        = .ok [⟨324, 4, 2, 4 + 2 ^ 32 * 8⟩, ⟨325, 4, 2, 4 + 2 ^ 32 * 8⟩] ∧
      remoteTileIndex "flow_dir.tif" .bigTiff
          [⟨324, 4, 2, 4 + 2 ^ 32 * 8⟩, ⟨325, 4, 2, 4 + 2 ^ 32 * 8⟩] 32
        = .ok (⟨4, 4, 2, .inlineScalar (4 + 2 ^ 32 * 8)⟩,
            ⟨4, 4, 2, .inlineScalar (4 + 2 ^ 32 * 8)⟩) ∧
      (resolveTilePlan (.ofContent twoTilesContent) "flow_dir.tif"
          (twoTiles ⟨4, 4, 2, .inlineScalar (4 + 2 ^ 32 * 8)⟩
            ⟨4, 4, 2, .inlineScalar (4 + 2 ^ 32 * 8)⟩) ⟨[0]⟩ 32).outcome
        = .error (.err (remoteLayoutError "flow_dir.tif"
            "TIFF inline tile-index descriptor is not scalar")) := by
  refine ⟨⟨by decide, _, .inline (by decide), by decide⟩,
    ⟨by decide, _, .inline (by decide), by decide⟩, RemoteStore.serves_ofContent _ _, rfl, rfl, rfl⟩

end WatershedDelineation
