import WatershedDelineation.Export.ExportedFile
import WatershedDelineation.Export.Spatial
import WatershedDelineation.General.ConflictChecks
import WatershedDelineation.Resolver.Ranking

/-!
# The writer of basin rows

`BasinGeoParquetWriter` of `export/writer.rs`. The rows of a batch are made one after the other
(`materializeRows`): basin ids that are derived from terminal units must not collide between
origins, for which a map keeps the last origin of each id, and rows must not repeat the identity of
a row. Then the rows are written (`write`).

A batch has rows exactly when each input has one and no two of them conflict
(`materializeRows_eq_ok_iff`), in whatever order they come.
-/

namespace WatershedDelineation

open ConflictChecks

/-! ### Inputs -/

/-- What became of the refinement of a terminal. -/
inductive RefinementKind
  | applied
  | bestEffortSkipped
  | disabled
  deriving DecidableEq, Repr

def refinementStatus : RefinementKind → String
  | .applied => "applied"
  | .bestEffortSkipped => "best_effort_skipped"
  | .disabled => "disabled"

/-- The parts of a delineation result that are exported; the resolution method is its debug text. -/
structure ExportedResult (P : Type) where
  terminalUnitId : UnitId
  resolvedOutlet : GeoCoord
  areaKm2 : F64
  resolutionMethod : String
  refinement : RefinementKind
  upstreamUnitIds : List UnitId
  geometry : List P

/-- One input row. -/
inductive BasinExportInput (P : Type)
  | explicit (basinId : BasinId) (result : ExportedResult P) (identity : FabricIdentity)
      (method : ExportMethod) (origin : ExportOrigin)
  | defaultBasinId (result : ExportedResult P) (identity : FabricIdentity) (method : ExportMethod)
      (origin : ExportOrigin)

/-- An input with its identity. -/
structure ResolvedInput (P : Type) where
  basinId : BasinId
  delineation : DelineationLabel
  result : ExportedResult P
  identity : FabricIdentity
  origin : ExportOrigin
  isDefaulted : Bool

/-- A row of the file. -/
structure MaterializedRow where
  sortKey : BasinSpatialSortKey
  basinId : BasinId
  delineation : DelineationLabel
  geometry : List UInt8
  outletLon : F64
  outletLat : F64
  areaKm2 : F64
  trueBbox : BasinBbox
  bbox : OutwardF32Bbox
  resolutionMethod : String
  refinementStatus : String
  upstreamUnitIds : List Int
  adapterVersion : String

/-- The variables of the loop over the inputs. -/
structure Materialization where
  defaultOriginsById : String → Option String
  seenRows : List (String × String)
  rows : List MaterializedRow

section Writer

variable {P : Type} (geo : GeoCrate P) (encodeWkb : List P → Except WkbEncodeError (List UInt8))
  (labelOverride : Option DelineationLabel)

/-- The identity of an input. -/
def resolveInputIdentity : BasinExportInput P → Except (Fault ExportError) (ResolvedInput P)
  | .explicit basinId result identity method origin => do
    let delineation ← (DelineationLabel.forRow labelOverride identity method).mapError Fault.err
    .ok ⟨basinId, delineation, result, identity, origin, false⟩
  | .defaultBasinId result identity method origin => do
    let basinId ← (BasinId.fromTerminalUnitId result.terminalUnitId).mapError Fault.err
    let delineation ← (DelineationLabel.forRow labelOverride identity method).mapError Fault.err
    .ok ⟨basinId, delineation, result, identity, origin, true⟩

/-- Enter the origin of a derived id, which must be the one that is there, if there is one. -/
def recordDefaultOrigin (origins : String → Option String) (resolved : ResolvedInput P) :
    Except (Fault ExportError) (String → Option String) :=
  if resolved.isDefaulted then
    match (origins resolved.basinId.value).filter (· ≠ resolved.origin.description) with
    | some firstOrigin => .error (.err (.defaultBasinIdCollision resolved.basinId.value firstOrigin
        resolved.origin.description))
    | none => .ok (Function.update origins resolved.basinId.value resolved.origin.description)
  else .ok origins

/-- What a row is identified by. -/
def ResolvedInput.rowKey (resolved : ResolvedInput P) : String × String :=
  (resolved.basinId.value, resolved.delineation.value)

/-- The row of an input with an identity. -/
def materializedRow (resolved : ResolvedInput P) : Except (Fault ExportError) MaterializedRow := do
  let trueBbox ← basinBbox geo resolved.result.geometry
  let sortKey ← BasinSpatialSortKey.fromGeometry geo resolved.delineation
    resolved.result.geometry resolved.basinId
  let geometry ← (encodeWkb resolved.result.geometry).mapError fun source =>
    .err (.geometryEncodingFailure resolved.basinId.value source)
  .ok
    { sortKey
      basinId := resolved.basinId
      delineation := resolved.delineation
      geometry
      outletLon := resolved.result.resolvedOutlet.lon
      outletLat := resolved.result.resolvedOutlet.lat
      areaKm2 := resolved.result.areaKm2
      trueBbox
      bbox := outwardF32Bbox trueBbox
      resolutionMethod := resolved.result.resolutionMethod
      refinementStatus := refinementStatus resolved.result.refinement
      upstreamUnitIds := resolved.result.upstreamUnitIds.map UnitId.raw
      adapterVersion := resolved.identity.adapterVersion }

/-- One round of the loop over the inputs. -/
def materializeInput (state : Materialization) (input : BasinExportInput P) :
    Except (Fault ExportError) Materialization := do
  let resolved ← resolveInputIdentity labelOverride input
  let defaultOriginsById ← recordDefaultOrigin state.defaultOriginsById resolved
  Checked.rejectIf (resolved.rowKey ∈ state.seenRows)
    (.duplicateRow resolved.rowKey.1 resolved.rowKey.2)
  let row ← materializedRow geo encodeWkb resolved
  .ok ⟨defaultOriginsById, resolved.rowKey :: state.seenRows, state.rows ++ [row]⟩

/-- The rows of a batch. -/
def materializeRows (inputs : List (BasinExportInput P)) :
    Except (Fault ExportError) (List MaterializedRow) := do
  let state ← inputs.foldlM (materializeInput geo encodeWkb labelOverride) ⟨fun _ => none, [], []⟩
  .ok state.rows

/-- Rows are compared by their keys. -/
def MaterializedRow.cmp : MaterializedRow → MaterializedRow → Ordering :=
  compareOn MaterializedRow.sortKey

/-- Write a batch. -/
def write (inputs : List (BasinExportInput P)) :
    Except (Fault ExportError) (ExportedFile MaterializedRow) := do
  Checked.rejectIf (inputs = []) .emptyInput
  let rows ← materializeRows geo encodeWkb labelOverride inputs
  writeRows MaterializedRow.cmp MaterializedRow.trueBbox rows

/-! ### Entries and conflicts -/

/-- The row of an input, with its identity. -/
def entryOf (input : BasinExportInput P) :
    Except (Fault ExportError) (ResolvedInput P × MaterializedRow) := do
  let resolved ← resolveInputIdentity labelOverride input
  let row ← materializedRow geo encodeWkb resolved
  .ok (resolved, row)

/-- The row of an input alone. -/
def rowOf (input : BasinExportInput P) : Except (Fault ExportError) MaterializedRow :=
  (entryOf geo encodeWkb labelOverride input).map Prod.snd

/-- Two inputs may be in one batch: they are different rows, and if both derive one basin id, they
do for one origin. -/
structure ResolvedInput.Compatible (a b : ResolvedInput P) : Prop where
  origin : a.isDefaulted → b.isDefaulted → a.basinId.value = b.basinId.value →
    a.origin.description = b.origin.description
  rowKey_ne : a.rowKey ≠ b.rowKey

theorem ResolvedInput.Compatible.symm {a b : ResolvedInput P} (h : a.Compatible b) :
    b.Compatible a :=
  ⟨fun hb ha hid => (h.origin ha hb hid.symm).symm, h.rowKey_ne.symm⟩

/-- The origins after an input. -/
def pushedOrigins (origins : String → Option String) (resolved : ResolvedInput P) :
    String → Option String :=
  if resolved.isDefaulted then
    Function.update origins resolved.basinId.value resolved.origin.description
  else origins

/-- The state after an input. -/
def Materialization.push (state : Materialization) (entry : ResolvedInput P × MaterializedRow) :
    Materialization :=
  ⟨pushedOrigins state.defaultOriginsById entry.1, entry.1.rowKey :: state.seenRows,
    state.rows ++ [entry.2]⟩

/-- What the state knows of the inputs so far. -/
structure Materialization.Holds (entries : List (ResolvedInput P × MaterializedRow))
    (state : Materialization) : Prop where
  rows : state.rows = entries.map Prod.snd
  seenRows : ∀ key, key ∈ state.seenRows ↔ ∃ entry ∈ entries, entry.1.rowKey = key
  origins : ∀ id origin, state.defaultOriginsById id = some origin ↔
    ∃ entry ∈ entries, entry.1.isDefaulted ∧ entry.1.basinId.value = id ∧
      entry.1.origin.description = origin

section Lemmas

variable {geo encodeWkb labelOverride} {state : Materialization} {resolved : ResolvedInput P}
  {entries : List (ResolvedInput P × MaterializedRow)}

theorem recordDefaultOrigin_eq_ok_iff {origins origins' : String → Option String} :
    recordDefaultOrigin origins resolved = .ok origins' ↔
      (resolved.isDefaulted → ∀ origin, origins resolved.basinId.value = some origin →
        origin = resolved.origin.description) ∧ pushedOrigins origins resolved = origins' := by
  rw [recordDefaultOrigin, pushedOrigins]
  by_cases hdefaulted : resolved.isDefaulted = true
  · rw [if_pos hdefaulted, if_pos hdefaulted]
    cases horigin : origins resolved.basinId.value with
    | none => simp
    | some first =>
      by_cases hfirst : first = resolved.origin.description
      · simp [Option.filter, hfirst]
      · simp [Option.filter, hfirst, hdefaulted]
  · rw [if_neg hdefaulted, if_neg hdefaulted, Except.ok.injEq]
    exact ⟨fun h => ⟨fun h' => absurd h' hdefaulted, h⟩, fun h => h.2⟩

/-- What a round checks of the state is that the input conflicts with no earlier one. -/
theorem Materialization.Holds.compatible_iff (h : state.Holds entries) :
    ((resolved.isDefaulted → ∀ origin,
        state.defaultOriginsById resolved.basinId.value = some origin →
          origin = resolved.origin.description) ∧ resolved.rowKey ∉ state.seenRows) ↔
      ∀ entry ∈ entries, entry.1.Compatible resolved := by
  constructor
  · rintro ⟨horigin, hkey⟩ entry hentry
    refine ⟨fun hdefaulted hdefaulted' hid => ?_, fun heq => ?_⟩
    · exact horigin hdefaulted' _ ((h.origins _ _).mpr ⟨entry, hentry, hdefaulted, hid, rfl⟩)
    · exact hkey ((h.seenRows _).mpr ⟨entry, hentry, heq⟩)
  · intro hall
    refine ⟨fun hdefaulted origin horigin => ?_, fun hkey => ?_⟩
    · obtain ⟨entry, hentry, hdefaulted', hid, rfl⟩ := (h.origins _ _).mp horigin
      exact (hall entry hentry).origin hdefaulted' hdefaulted hid
    · obtain ⟨entry, hentry, heq⟩ := (h.seenRows _).mp hkey
      exact (hall entry hentry).rowKey_ne heq

theorem Materialization.Holds.push (h : state.Holds entries)
    {entry : ResolvedInput P × MaterializedRow}
    (hall : ∀ earlier ∈ entries, earlier.1.Compatible entry.1) :
    (state.push entry).Holds (entries ++ [entry]) where
  rows := by
    rw [Materialization.push, h.rows, List.map_append, List.map_singleton]
  seenRows key := by
    rw [Materialization.push, List.mem_cons, h.seenRows]
    simp [or_comm, eq_comm]
  origins id origin := by
    have hold := h.origins id origin
    simp only [Materialization.push, pushedOrigins, List.mem_append, List.mem_singleton,
      or_and_right, exists_or, exists_eq_left]
    split_ifs with hdefaulted
    · by_cases hid : id = entry.1.basinId.value
      · subst hid
        rw [Function.update_self, Option.some.injEq]
        constructor
        · intro horigin
          exact .inr ⟨hdefaulted, rfl, horigin⟩
        · rintro (⟨earlier, hearlier, hdefaulted', hid, rfl⟩ | ⟨-, -, horigin⟩)
          · exact ((hall earlier hearlier).origin hdefaulted' hdefaulted hid).symm
          · exact horigin
      · rw [Function.update_of_ne hid, hold]
        exact ⟨.inl, fun h => h.resolve_right fun ⟨_, heq, _⟩ => hid heq.symm⟩
    · rw [hold]
      exact ⟨.inl, fun h => h.resolve_right fun ⟨h', _⟩ => hdefaulted h'⟩

theorem entryOf_eq_ok_iff {input : BasinExportInput P} {entry : ResolvedInput P × MaterializedRow} :
    entryOf geo encodeWkb labelOverride input = .ok entry ↔
      resolveInputIdentity labelOverride input = .ok entry.1 ∧
        materializedRow geo encodeWkb entry.1 = .ok entry.2 := by
  rw [entryOf, Checks.bind_eq_ok_iff]
  constructor
  · rintro ⟨resolved, hresolved, hrest⟩
    obtain ⟨row, hrow, hentry⟩ := Checks.bind_eq_ok_iff.mp hrest
    obtain rfl := Except.ok.inj hentry
    exact ⟨hresolved, hrow⟩
  · rintro ⟨hresolved, hrow⟩
    exact ⟨entry.1, hresolved, Checks.bind_eq_ok_iff.mpr ⟨entry.2, hrow, rfl⟩⟩

/-- The loop over the inputs checks for conflicts. -/
theorem collects_materializeInput : Collects (entryOf geo encodeWkb labelOverride)
    (fun a b => a.1.Compatible b.1) Materialization.push Materialization.Holds
    (materializeInput geo encodeWkb labelOverride) where
  step_eq_ok_iff := by
    intro entries state input state' hholds
    simp only [materializeInput, Checks.bind_eq_ok_iff, recordDefaultOrigin_eq_ok_iff,
      Checked.rejectIf_eq_ok_iff, entryOf_eq_ok_iff]
    constructor
    · rintro ⟨resolved, hresolved, origins, ⟨horigin, rfl⟩, _, hkey, row, hrow, hstate⟩
      exact ⟨(resolved, row), ⟨hresolved, hrow⟩, hholds.compatible_iff.mp ⟨horigin, hkey⟩,
        Except.ok.inj hstate⟩
    · rintro ⟨entry, ⟨hresolved, hrow⟩, hall, rfl⟩
      obtain ⟨horigin, hkey⟩ := hholds.compatible_iff.mpr hall
      exact ⟨entry.1, hresolved, _, ⟨horigin, rfl⟩, (), hkey, entry.2, hrow, rfl⟩
  holds_push := fun hholds hall => hholds.push hall

theorem collectedOrigins :
    (⟨fun _ => none, [], []⟩ : Materialization).Holds ([] : List (ResolvedInput P × _)) :=
  ⟨rfl, by simp, by simp⟩

/-- **The rows of a batch** are there exactly when every input has one and no two conflict. -/
theorem materializeRows_eq_ok_iff {inputs : List (BasinExportInput P)}
    {rows : List MaterializedRow} :
    materializeRows geo encodeWkb labelOverride inputs = .ok rows ↔ ∃ entries,
      List.Forall₂ (fun input entry => entryOf geo encodeWkb labelOverride input = .ok entry)
        inputs entries ∧ entries.Pairwise (fun a b => a.1.Compatible b.1) ∧
        entries.map Prod.snd = rows := by
  have hcollects := @collects_materializeInput P geo encodeWkb labelOverride
  rw [materializeRows, Checks.bind_eq_ok_iff]
  constructor
  · rintro ⟨state, hfold, hrows⟩
    obtain ⟨entries, hentries, hpair, -, rfl⟩ :=
      (hcollects.foldlM_eq_ok_iff collectedOrigins).mp hfold
    have hholds := hcollects.holds_foldl collectedOrigins hpair (by simp)
    exact ⟨entries, hentries, hpair, hholds.rows.symm.trans (Except.ok.inj hrows)⟩
  · rintro ⟨entries, hentries, hpair, rfl⟩
    have hholds := hcollects.holds_foldl collectedOrigins hpair (by simp)
    refine ⟨_, (hcollects.foldlM_eq_ok_iff collectedOrigins).mpr
      ⟨entries, hentries, hpair, by simp, rfl⟩, ?_⟩
    exact congrArg Except.ok hholds.rows

/-! ### Keys and errors -/

/-- A geometry that has bounds and a centroid and can be encoded has a row. -/
theorem exists_materializedRow {bbox : BasinBbox} {centroid : BasinCentroid} {bytes : List UInt8}
    (hbbox : basinBbox geo resolved.result.geometry = .ok bbox)
    (hcentroid : basinCentroid geo resolved.result.geometry = .ok centroid)
    (hwkb : encodeWkb resolved.result.geometry = .ok bytes) :
    ∃ row, materializedRow geo encodeWkb resolved = .ok row := by
  obtain ⟨index, hindex⟩ := exists_hilbertIndexOf geo _ hcentroid
  rw [materializedRow, hbbox, Checks.ok_bind, BasinSpatialSortKey.fromGeometry, hindex, hwkb]
  exact ⟨_, rfl⟩

theorem materializedRow_sortKey {row : MaterializedRow}
    (h : materializedRow geo encodeWkb resolved = .ok row) :
    row.sortKey.basinId = resolved.basinId ∧ row.sortKey.delineation = resolved.delineation := by
  obtain ⟨trueBbox, -, h⟩ := Checks.bind_eq_ok_iff.mp h
  obtain ⟨sortKey, hkey, h⟩ := Checks.bind_eq_ok_iff.mp h
  obtain ⟨geometry, -, h⟩ := Checks.bind_eq_ok_iff.mp h
  obtain ⟨index, -, hindex⟩ := Checks.bind_eq_ok_iff.mp hkey
  obtain rfl := Except.ok.inj h
  obtain rfl := Except.ok.inj hindex
  exact ⟨rfl, rfl⟩

/-- Rows that do not conflict have different keys. -/
theorem keysDiffer_entryOf : KeysDiffer (entryOf geo encodeWkb labelOverride)
    (fun a b => a.1.Compatible b.1) Prod.snd MaterializedRow.cmp where
  symm := fun _ _ => ResolvedInput.Compatible.symm
  keys_ne := by
    intro item item' entry entry' hentry hentry' hcompat hcmp
    obtain ⟨hid, hlabel⟩ := materializedRow_sortKey (entryOf_eq_ok_iff.mp hentry).2
    obtain ⟨hid', hlabel'⟩ := materializedRow_sortKey (entryOf_eq_ok_iff.mp hentry').2
    obtain ⟨heqId, heqLabel⟩ := BasinSpatialSortKey.eq_of_compare hcmp
    rw [hid, hid'] at heqId
    rw [hlabel, hlabel'] at heqLabel
    exact hcompat.rowKey_ne (by rw [ResolvedInput.rowKey, ResolvedInput.rowKey, heqId, heqLabel])

theorem returns_resolveInputIdentity (input : BasinExportInput P) :
    Fault.Returns (resolveInputIdentity labelOverride input) := by
  cases input with
  | explicit basinId result identity method origin =>
    exact (Fault.returns_mapError _ id).bind fun _ _ => Fault.returns_ok _
  | defaultBasinId result identity method origin =>
    exact (Fault.returns_mapError _ id).bind fun _ _ =>
      (Fault.returns_mapError _ id).bind fun _ _ => Fault.returns_ok _

theorem returns_recordDefaultOrigin (origins : String → Option String) :
    Fault.Returns (recordDefaultOrigin origins resolved) := by
  rw [recordDefaultOrigin]
  split_ifs
  · split
    · exact Fault.returns_err _
    · exact Fault.returns_ok _
  · exact Fault.returns_ok _

theorem returns_materializedRow : Fault.Returns (materializedRow geo encodeWkb resolved) := by
  refine (returns_basinBbox geo _).bind fun trueBbox _ => ?_
  refine Fault.Returns.bind ?_ fun sortKey _ => ?_
  · exact (returns_hilbertIndexOf geo _).bind fun _ _ => Fault.returns_ok _
  · exact (Fault.returns_mapError _ _).bind fun _ _ => Fault.returns_ok _

theorem returns_materializeRows (inputs : List (BasinExportInput P)) :
    Fault.Returns (materializeRows geo encodeWkb labelOverride inputs) := by
  refine Fault.Returns.bind (Fault.Ensures.foldlM (fun _ _ => True) ?_ trivial).returns
    fun _ _ => Fault.returns_ok _
  intro input inputs state _
  refine ⟨?_, fun _ _ => trivial⟩
  refine (returns_resolveInputIdentity input).bind fun resolved _ => ?_
  refine (returns_recordDefaultOrigin _).bind fun origins _ => ?_
  refine Checked.returns_rejectIf.bind fun _ _ => ?_
  exact returns_materializedRow.bind fun _ _ => Fault.returns_ok _

end Lemmas

instance : Std.TransCmp MaterializedRow.cmp := inferInstanceAs (Std.TransCmp (compareOn _))

/-- What the writer makes of a batch. -/
theorem writes_write (inputs : List (BasinExportInput P)) :
    Writes (entryOf geo encodeWkb labelOverride) (fun a b => a.1.Compatible b.1) Prod.snd
      MaterializedRow.cmp MaterializedRow.trueBbox (inputs ≠ []) inputs
      (write geo encodeWkb labelOverride inputs) where
  returns := by
    refine Checked.returns_rejectIf.bind fun _ _ => ?_
    exact (returns_materializeRows inputs).bind fun rows _ => returns_writeRows
  ne_nil := id
  eq_ok_iff := by
    intro file
    simp only [write, Checks.bind_eq_ok_iff, Checked.rejectIf_eq_ok_iff, materializeRows_eq_ok_iff]
    constructor
    · rintro ⟨_, hne, _, ⟨entries, hentries, hpair, rfl⟩, hfile⟩
      exact ⟨hne, entries, hentries, hpair, hfile⟩
    · rintro ⟨hne, entries, hentries, hpair, hfile⟩
      exact ⟨(), hne, _, ⟨entries, hentries, hpair, rfl⟩, hfile⟩

end Writer

end WatershedDelineation
