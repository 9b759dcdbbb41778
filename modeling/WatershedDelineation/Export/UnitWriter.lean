import WatershedDelineation.Drainage.Delineation
import WatershedDelineation.Export.Writer
import WatershedDelineation.General.BinaryCasts

/-!
# The writer of unit bundles

`UnitBundleGeoParquetWriter` of `export/unit_writer.rs`: a bundle is the drainage units of one
delineation, and each unit becomes a row. The rows of a batch are made bundle by bundle
(`materializeUnitRows`), and no two may have one unit and one label. That the loop runs over bundles
does not matter (`foldlM_materializeBundle`): it is a loop over the units of all bundles, once no
bundle is empty.

A batch of either writer gives one file in any order, or is rejected in any order
(`write_perm`).
-/

namespace WatershedDelineation

open ConflictChecks

/-! ### Inputs -/

/-- The units of a delineation, with what their rows say of it. -/
structure UnitBundleExportInput (P : Type) where
  terminal : UnitId
  units : List (PreMergeDrainageUnit P)
  identity : FabricIdentity
  method : ExportMethod
  refinement : RefinementKind

/-- A row of the file. -/
structure MaterializedUnitRow where
  sortKey : UnitBundleSpatialSortKey
  unitId : Int
  level : Int
  areaKm2 : F64
  upAreaKm2 : Option F64
  outletLon : F64
  outletLat : F64
  geometry : List UInt8
  trueBbox : BasinBbox
  bbox : OutwardF32Bbox
  terminalUnitId : Int
  delineation : DelineationLabel
  refinementStatus : String

/-- The variables of the loops. -/
structure UnitMaterialization where
  seenRows : List (Int × String)
  rows : List MaterializedUnitRow

section UnitWriter

variable {P : Type} (geo : GeoCrate P) (encodeWkb : List P → Except WkbEncodeError (List UInt8))
  (labelOverride : Option DelineationLabel)

/-- An area as a double. -/
def AreaKm2.toF64 (area : AreaKm2) : F64 := ⟨F32.toBinary64 area.value⟩

/-- The row of a unit of a bundle. -/
def materializedUnitRow (input : UnitBundleExportInput P) (delineation : DelineationLabel)
    (unit : PreMergeDrainageUnit P) : Except (Fault ExportError) MaterializedUnitRow := do
  let trueBbox ← basinBbox geo unit.geometry
  let sortKey ← UnitBundleSpatialSortKey.fromGeometry geo delineation unit.geometry unit.id
  let geometry ← (encodeWkb unit.geometry).mapError fun source =>
    .err (.unitGeometryEncodingFailure unit.id.raw source)
  .ok
    { sortKey
      unitId := unit.id.raw
      level := unit.level.raw
      areaKm2 := unit.area.toF64
      upAreaKm2 := unit.upArea.map AreaKm2.toF64
      outletLon := unit.outlet.lon
      outletLat := unit.outlet.lat
      geometry
      trueBbox
      bbox := outwardF32Bbox trueBbox
      terminalUnitId := input.terminal.raw
      delineation
      refinementStatus := refinementStatus input.refinement }

/-- One round of the loop over the units of a bundle. -/
def materializeUnit (input : UnitBundleExportInput P) (delineation : DelineationLabel)
    (state : UnitMaterialization) (unit : PreMergeDrainageUnit P) :
    Except (Fault ExportError) UnitMaterialization := do
  let rowKey := (unit.id.raw, delineation.value)
  Checked.rejectIf (rowKey ∈ state.seenRows) (.duplicateUnitBundleRow rowKey.1 rowKey.2)
  let row ← materializedUnitRow geo encodeWkb input delineation unit
  .ok ⟨rowKey :: state.seenRows, state.rows ++ [row]⟩

/-- One round of the loop over the bundles. -/
def materializeBundle (state : UnitMaterialization) (input : UnitBundleExportInput P) :
    Except (Fault ExportError) UnitMaterialization := do
  Checked.rejectIf (input.units.isEmpty) .emptyUnitBundle
  let delineation ←
    (DelineationLabel.forRow labelOverride input.identity input.method).mapError Fault.err
  input.units.foldlM (materializeUnit geo encodeWkb input delineation) state

/-- The rows of a batch. -/
def materializeUnitRows (inputs : List (UnitBundleExportInput P)) :
    Except (Fault ExportError) (List MaterializedUnitRow) := do
  let state ← inputs.foldlM (materializeBundle geo encodeWkb labelOverride) ⟨[], []⟩
  .ok state.rows

/-- Rows are compared by their keys. -/
def MaterializedUnitRow.cmp : MaterializedUnitRow → MaterializedUnitRow → Ordering :=
  compareOn MaterializedUnitRow.sortKey

/-- Write a batch. -/
def writeUnitBundles (inputs : List (UnitBundleExportInput P)) :
    Except (Fault ExportError) (ExportedFile MaterializedUnitRow) := do
  let rows ← materializeUnitRows geo encodeWkb labelOverride inputs
  Checked.rejectIf (rows.isEmpty) .emptyUnitBundle
  writeRows MaterializedUnitRow.cmp MaterializedUnitRow.trueBbox rows

/-! ### The units of all bundles -/

/-- The units of a batch, each with its bundle. -/
def bundleUnits (inputs : List (UnitBundleExportInput P)) :
    List (UnitBundleExportInput P × PreMergeDrainageUnit P) :=
  inputs.flatMap fun input => input.units.map fun unit => (input, unit)

/-- The row of a unit. -/
def unitRowOf (item : UnitBundleExportInput P × PreMergeDrainageUnit P) :
    Except (Fault ExportError) MaterializedUnitRow := do
  let delineation ←
    (DelineationLabel.forRow labelOverride item.1.identity item.1.method).mapError Fault.err
  materializedUnitRow geo encodeWkb item.1 delineation item.2

/-- A round of the loop over the units of all bundles. -/
def materializeBundleUnit (state : UnitMaterialization)
    (item : UnitBundleExportInput P × PreMergeDrainageUnit P) :
    Except (Fault ExportError) UnitMaterialization := do
  let delineation ←
    (DelineationLabel.forRow labelOverride item.1.identity item.1.method).mapError Fault.err
  materializeUnit geo encodeWkb item.1 delineation state item.2

/-- What a row is identified by. -/
def MaterializedUnitRow.rowKey (row : MaterializedUnitRow) : Int × String :=
  (row.unitId, row.delineation.value)

/-- The state after a unit. -/
def UnitMaterialization.push (state : UnitMaterialization) (row : MaterializedUnitRow) :
    UnitMaterialization :=
  ⟨row.rowKey :: state.seenRows, state.rows ++ [row]⟩

/-- What the state knows of the units so far. -/
structure UnitMaterialization.Holds (made : List MaterializedUnitRow)
    (state : UnitMaterialization) : Prop where
  rows : state.rows = made
  seenRows : ∀ key, key ∈ state.seenRows ↔ ∃ row ∈ made, row.rowKey = key

section Lemmas

variable {geo encodeWkb labelOverride} {input : UnitBundleExportInput P}
  {inputs inputs' : List (UnitBundleExportInput P)} {delineation : DelineationLabel}
  {state state' : UnitMaterialization} {unit : PreMergeDrainageUnit P}
  {row : MaterializedUnitRow}

/-- The loop over the units of a bundle that is not empty. -/
theorem materializeBundle_eq_ok_iff : materializeBundle geo encodeWkb labelOverride state input
    = .ok state' ↔ input.units ≠ [] ∧ (input.units.map fun unit => (input, unit)).foldlM
      (materializeBundleUnit geo encodeWkb labelOverride) state = .ok state' := by
  rw [materializeBundle, Checks.bind_eq_ok_iff]
  simp only [Checked.rejectIf_eq_ok_iff, List.isEmpty_iff, exists_const, List.foldlM_map]
  refine and_congr_right fun hne => ?_
  cases hlabel : DelineationLabel.forRow labelOverride input.identity input.method with
  | ok delineation =>
    have hstep : materializeUnit geo encodeWkb input delineation = fun state unit =>
        materializeBundleUnit geo encodeWkb labelOverride state (input, unit) := by
      funext state unit
      rw [materializeBundleUnit, hlabel]
      rfl
    rw [← hstep]
    rfl
  | error e =>
    -- the label is wanted for the first unit
    obtain ⟨unit, units, hunits⟩ := List.exists_cons_of_ne_nil hne
    rw [hunits, List.foldlM_cons, materializeBundleUnit, hlabel]
    constructor
    · intro h
      cases h
    · intro h
      cases h

/-- The loop over the bundles is a loop over the units of all bundles. -/
theorem foldlM_materializeBundle : inputs.foldlM (materializeBundle geo encodeWkb labelOverride)
    state = .ok state' ↔ (∀ input ∈ inputs, input.units ≠ []) ∧ (bundleUnits inputs).foldlM
      (materializeBundleUnit geo encodeWkb labelOverride) state = .ok state' := by
  induction inputs generalizing state with
  | nil => simp [bundleUnits]
  | cons input inputs ih =>
    rw [List.foldlM_cons, Checks.bind_eq_ok_iff, bundleUnits, List.flatMap_cons,
      List.foldlM_append, Checks.bind_eq_ok_iff, List.forall_mem_cons]
    constructor
    · rintro ⟨state₁, hbundle, hrest⟩
      obtain ⟨hne, hunits⟩ := materializeBundle_eq_ok_iff.mp hbundle
      obtain ⟨hall, hrest⟩ := ih.mp hrest
      exact ⟨⟨hne, hall⟩, state₁, hunits, hrest⟩
    · rintro ⟨⟨hne, hall⟩, state₁, hunits, hrest⟩
      exact ⟨state₁, materializeBundle_eq_ok_iff.mpr ⟨hne, hunits⟩, ih.mpr ⟨hall, hrest⟩⟩

theorem materializedUnitRow_rowKey
    (h : materializedUnitRow geo encodeWkb input delineation unit = .ok row) :
    row.rowKey = (unit.id.raw, delineation.value) ∧ row.sortKey.unitId.raw = row.unitId ∧
      row.sortKey.delineation = row.delineation := by
  obtain ⟨trueBbox, -, h⟩ := Checks.bind_eq_ok_iff.mp h
  obtain ⟨sortKey, hkey, h⟩ := Checks.bind_eq_ok_iff.mp h
  obtain ⟨geometry, -, h⟩ := Checks.bind_eq_ok_iff.mp h
  obtain ⟨index, -, hindex⟩ := Checks.bind_eq_ok_iff.mp hkey
  obtain rfl := Except.ok.inj h
  obtain rfl := Except.ok.inj hindex
  exact ⟨rfl, rfl, rfl⟩

theorem UnitMaterialization.Holds.push {rows : List MaterializedUnitRow} (h : state.Holds rows) :
    (state.push row).Holds (rows ++ [row]) where
  rows := by rw [UnitMaterialization.push, h.rows]
  seenRows key := by
    rw [UnitMaterialization.push, List.mem_cons, h.seenRows]
    simp [or_comm, eq_comm]

/-- The loop over the units checks for conflicts. -/
theorem collects_materializeBundleUnit : Collects (unitRowOf geo encodeWkb labelOverride)
    (fun a b => a.rowKey ≠ b.rowKey) UnitMaterialization.push UnitMaterialization.Holds
    (materializeBundleUnit geo encodeWkb labelOverride) where
  step_eq_ok_iff := by
    intro rows state item state' hholds
    have hseen (key : Int × String) : key ∉ state.seenRows ↔ ∀ row ∈ rows, row.rowKey ≠ key := by
      simp [hholds.seenRows]
    simp only [materializeBundleUnit, materializeUnit, unitRowOf, Checks.bind_eq_ok_iff,
      Checked.rejectIf_eq_ok_iff, hseen]
    constructor
    · rintro ⟨delineation, hlabel, _, hkey, row, hrow, hstate⟩
      rw [← (materializedUnitRow_rowKey hrow).1] at hkey hstate
      exact ⟨row, ⟨delineation, hlabel, hrow⟩, hkey, Except.ok.inj hstate⟩
    · rintro ⟨row, ⟨delineation, hlabel, hrow⟩, hkey, rfl⟩
      rw [(materializedUnitRow_rowKey hrow).1] at hkey
      refine ⟨delineation, hlabel, (), hkey, row, hrow, ?_⟩
      rw [UnitMaterialization.push, (materializedUnitRow_rowKey hrow).1]
  holds_push := fun hholds _ => hholds.push

theorem collectedUnits : (⟨[], []⟩ : UnitMaterialization).Holds [] := ⟨rfl, by simp⟩

/-- **The rows of a batch** are there exactly when no bundle is empty, every unit has a row and no
two conflict. -/
theorem materializeUnitRows_eq_ok_iff {rows : List MaterializedUnitRow} :
    materializeUnitRows geo encodeWkb labelOverride inputs = .ok rows ↔
      (∀ input ∈ inputs, input.units ≠ []) ∧
      List.Forall₂ (fun item row => unitRowOf geo encodeWkb labelOverride item = .ok row)
        (bundleUnits inputs) rows ∧ rows.Pairwise fun a b => a.rowKey ≠ b.rowKey := by
  have hcollects := @collects_materializeBundleUnit P geo encodeWkb labelOverride
  rw [materializeUnitRows, Checks.bind_eq_ok_iff]
  simp only [foldlM_materializeBundle, hcollects.foldlM_eq_ok_iff collectedUnits]
  constructor
  · rintro ⟨state, ⟨hne, entries, hentries, hpair, -, rfl⟩, hrows⟩
    have hholds := hcollects.holds_foldl collectedUnits hpair (by simp)
    obtain rfl := hholds.rows.symm.trans (Except.ok.inj hrows)
    exact ⟨hne, hentries, hpair⟩
  · rintro ⟨hne, hentries, hpair⟩
    have hholds := hcollects.holds_foldl collectedUnits hpair (by simp)
    exact ⟨_, ⟨hne, rows, hentries, hpair, by simp, rfl⟩, congrArg Except.ok hholds.rows⟩

/-! ### Keys and errors -/

/-- A geometry that has bounds and a centroid and can be encoded has a row. -/
theorem exists_materializedUnitRow {bbox : BasinBbox} {centroid : BasinCentroid}
    {bytes : List UInt8} (hbbox : basinBbox geo unit.geometry = .ok bbox)
    (hcentroid : basinCentroid geo unit.geometry = .ok centroid)
    (hwkb : encodeWkb unit.geometry = .ok bytes) :
    ∃ row, materializedUnitRow geo encodeWkb input delineation unit = .ok row := by
  obtain ⟨index, hindex⟩ := exists_hilbertIndexOf geo _ hcentroid
  rw [materializedUnitRow, hbbox, Checks.ok_bind, UnitBundleSpatialSortKey.fromGeometry, hindex,
    hwkb]
  exact ⟨_, rfl⟩

/-- Rows that do not conflict have different keys. -/
theorem keysDiffer_unitRowOf : KeysDiffer (unitRowOf geo encodeWkb labelOverride)
    (fun a b => a.rowKey ≠ b.rowKey) id MaterializedUnitRow.cmp where
  symm := fun _ _ => Ne.symm
  keys_ne := by
    intro item item' row row' hrow hrow' hne hcmp
    obtain ⟨delineation, -, hmade⟩ := Checks.bind_eq_ok_iff.mp hrow
    obtain ⟨delineation', -, hmade'⟩ := Checks.bind_eq_ok_iff.mp hrow'
    obtain ⟨-, hid, hlabel⟩ := materializedUnitRow_rowKey hmade
    obtain ⟨-, hid', hlabel'⟩ := materializedUnitRow_rowKey hmade'
    obtain ⟨heqId, heqLabel⟩ := UnitBundleSpatialSortKey.eq_of_compare hcmp
    have hunit : row.unitId = row'.unitId := hid.symm.trans (heqId.trans hid')
    have hdelineation : row.delineation = row'.delineation :=
      hlabel.symm.trans (heqLabel.trans hlabel')
    exact hne (by rw [MaterializedUnitRow.rowKey, MaterializedUnitRow.rowKey, hunit, hdelineation])

theorem returns_materializeUnit :
    Fault.Returns (materializeUnit geo encodeWkb input delineation state unit) := by
  refine Checked.returns_rejectIf.bind fun _ _ => ?_
  refine Fault.Returns.bind ?_ fun _ _ => Fault.returns_ok _
  refine (returns_basinBbox geo _).bind fun trueBbox _ => ?_
  refine Fault.Returns.bind ?_ fun sortKey _ => ?_
  · exact (returns_hilbertIndexOf geo _).bind fun _ _ => Fault.returns_ok _
  · exact (Fault.returns_mapError _ _).bind fun _ _ => Fault.returns_ok _

theorem returns_materializeUnitRows :
    Fault.Returns (materializeUnitRows geo encodeWkb labelOverride inputs) := by
  refine Fault.Returns.bind (Fault.Ensures.foldlM (fun _ _ => True) ?_ trivial).returns
    fun _ _ => Fault.returns_ok _
  intro input inputs state _
  refine ⟨?_, fun _ _ => trivial⟩
  refine Checked.returns_rejectIf.bind fun _ _ => ?_
  refine (Fault.returns_mapError _ id).bind fun delineation _ => ?_
  refine (Fault.Ensures.foldlM (fun _ _ => True) ?_ trivial).returns
  intro unit units state _
  exact ⟨returns_materializeUnit, fun _ _ => trivial⟩

end Lemmas

instance : Std.TransCmp MaterializedUnitRow.cmp := inferInstanceAs (Std.TransCmp (compareOn _))

/-- What the writer makes of a batch. -/
theorem writes_writeUnitBundles (inputs : List (UnitBundleExportInput P)) :
    Writes (unitRowOf geo encodeWkb labelOverride) (fun a b => a.rowKey ≠ b.rowKey) id
      MaterializedUnitRow.cmp MaterializedUnitRow.trueBbox
      ((∀ input ∈ inputs, input.units ≠ []) ∧ bundleUnits inputs ≠ []) (bundleUnits inputs)
      (writeUnitBundles geo encodeWkb labelOverride inputs) where
  returns := by
    refine returns_materializeUnitRows.bind fun rows _ => ?_
    exact Checked.returns_rejectIf.bind fun _ _ => returns_writeRows
  ne_nil := And.right
  eq_ok_iff := by
    intro file
    simp only [writeUnitBundles, Checks.bind_eq_ok_iff, Checked.rejectIf_eq_ok_iff,
      materializeUnitRows_eq_ok_iff, List.isEmpty_iff, List.map_id]
    have hnil {rows : List MaterializedUnitRow} (h : List.Forall₂ (fun item row =>
        unitRowOf geo encodeWkb labelOverride item = .ok row) (bundleUnits inputs) rows) :
        rows = [] ↔ bundleUnits inputs = [] := by
      rw [← List.length_eq_zero_iff, ← h.length_eq, List.length_eq_zero_iff]
    constructor
    · rintro ⟨rows, ⟨hne, hrows, hpair⟩, _, hrowsNe, hfile⟩
      exact ⟨⟨hne, fun h => hrowsNe ((hnil hrows).mpr h)⟩, rows, hrows, hpair, hfile⟩
    · rintro ⟨⟨hne, hunits⟩, rows, hrows, hpair, hfile⟩
      exact ⟨rows, ⟨hne, hrows, hpair⟩, (), fun h => hunits ((hnil hrows).mp h), hfile⟩

/-- **The order of a batch does not matter.** Either it is written to one file, in which the row of
each input occurs once and the keys increase, or it is rejected. -/
theorem write_perm {inputs inputs' : List (BasinExportInput P)} (hinputs : inputs.Perm inputs')
    {bundles bundles' : List (UnitBundleExportInput P)} (hbundles : bundles.Perm bundles') :
    ((∃ file rows, write geo encodeWkb labelOverride inputs = .ok file ∧
        write geo encodeWkb labelOverride inputs' = .ok file ∧
        List.Forall₂ (fun input row => rowOf geo encodeWkb labelOverride input = .ok row)
          inputs rows ∧
        IsExportOf MaterializedRow.cmp MaterializedRow.trueBbox rows file) ∨
      (Fault.Rejects (write geo encodeWkb labelOverride inputs) ∧
        Fault.Rejects (write geo encodeWkb labelOverride inputs'))) ∧
    ((∃ file rows, writeUnitBundles geo encodeWkb labelOverride bundles = .ok file ∧
        writeUnitBundles geo encodeWkb labelOverride bundles' = .ok file ∧
        List.Forall₂ (fun item row => unitRowOf geo encodeWkb labelOverride item = .ok row)
          (bundleUnits bundles) rows ∧
        IsExportOf MaterializedUnitRow.cmp MaterializedUnitRow.trueBbox rows file) ∨
      (Fault.Rejects (writeUnitBundles geo encodeWkb labelOverride bundles) ∧
        Fault.Rejects (writeUnitBundles geo encodeWkb labelOverride bundles'))) := by
  constructor
  · refine (writes_write geo encodeWkb labelOverride inputs).of_perm keysDiffer_entryOf
      (writes_write geo encodeWkb labelOverride inputs') hinputs ?_
    rw [ne_eq, ne_eq, ← List.length_eq_zero_iff, hinputs.length_eq, List.length_eq_zero_iff]
  · have hunits : (bundleUnits bundles).Perm (bundleUnits bundles') := hbundles.flatMap_right _
    have hmap (item : UnitBundleExportInput P × PreMergeDrainageUnit P) :
        (unitRowOf geo encodeWkb labelOverride item).map id
          = unitRowOf geo encodeWkb labelOverride item := by
      cases unitRowOf geo encodeWkb labelOverride item <;> rfl
    have hresult := (writes_writeUnitBundles geo encodeWkb labelOverride bundles).of_perm
      keysDiffer_unitRowOf (writes_writeUnitBundles geo encodeWkb labelOverride bundles') hunits ?_
    · simpa only [hmap] using hresult
    · refine and_congr ?_ ?_
      · simp only [hbundles.mem_iff]
      · rw [ne_eq, ne_eq, ← List.length_eq_zero_iff, hunits.length_eq, List.length_eq_zero_iff]

end UnitWriter

/-! ### Two rows -/

/-- The unit square. -/
def unitSquare : Polygon := .new [⟨0, 0⟩, ⟨1, 0⟩, ⟨1, 1⟩, ⟨0, 1⟩] []

/-- The geometry crate on the unit square. -/
def squareGeo : GeoCrate Polygon where
  unsignedArea _ := ⟨0x3ff0000000000000⟩
  boundingRect _ := some ⟨⟨0⟩, ⟨0⟩, ⟨0x3ff0000000000000⟩, ⟨0x3ff0000000000000⟩⟩
  centroid _ := some ⟨⟨0x3fe0000000000000⟩, ⟨0x3fe0000000000000⟩⟩

/-- A writer of geometries. -/
def squareWkb (geometry : List Polygon) : Except WkbEncodeError (List UInt8) :=
  encodeWkbMultiPolygon (fun events => .ok [events.length.toUInt8]) geometry

theorem squareLabel_ne_empty : "run" ≠ "" := by decide

/-- The label of all rows. -/
def squareLabel : DelineationLabel := ⟨"run", squareLabel_ne_empty⟩

def squareIdentity : FabricIdentity := ⟨"grit", none, "1.0"⟩

/-- The unit square as a result. -/
def squareResult : ExportedResult Polygon :=
  ⟨⟨7⟩, ⟨⟨0⟩, ⟨0⟩⟩, ⟨0x3ff0000000000000⟩, "Snap", .disabled, [⟨7⟩], [unitSquare]⟩

/-- The unit square under a basin id. -/
def squareInput (basinId : BasinId) : BasinExportInput Polygon :=
  .explicit basinId squareResult squareIdentity ⟨"snap"⟩ ⟨"row"⟩

/-- The unit square as a unit. -/
def squareUnit (unitId : Int) : PreMergeDrainageUnit Polygon :=
  ⟨⟨unitId⟩, ⟨1⟩, ⟨⟨0x3f800000⟩⟩, none, ⟨⟨0⟩, ⟨0⟩⟩, [unitSquare]⟩

/-- The unit square as the only unit of a bundle. -/
def squareBundle (unitId : Int) : UnitBundleExportInput Polygon :=
  ⟨⟨unitId⟩, [squareUnit unitId], squareIdentity, ⟨"snap"⟩, .disabled⟩

theorem squareBasinA_valid : invalidBasinIdReason "a" = none := by decide

theorem squareBasinB_valid : invalidBasinIdReason "b" = none := by decide

/-- Two basin ids. -/
def squareBasinA : BasinId := ⟨"a", squareBasinA_valid⟩

def squareBasinB : BasinId := ⟨"b", squareBasinB_valid⟩

theorem basinBbox_unitSquare : basinBbox squareGeo [unitSquare]
    = .ok ⟨⟨0⟩, ⟨0⟩, ⟨0x3ff0000000000000⟩, ⟨0x3ff0000000000000⟩⟩ := rfl

theorem basinCentroid_unitSquare : basinCentroid squareGeo [unitSquare]
    = .ok ⟨⟨0x3fe0000000000000⟩, ⟨0x3fe0000000000000⟩⟩ := rfl

theorem exists_squareRow (basinId : BasinId) : ∃ row,
    entryOf squareGeo squareWkb (some squareLabel) (squareInput basinId)
      = .ok (⟨basinId, squareLabel, squareResult, squareIdentity, ⟨"row"⟩, false⟩, row) := by
  obtain ⟨row, hrow⟩ := @exists_materializedRow Polygon squareGeo squareWkb
    ⟨basinId, squareLabel, squareResult, squareIdentity, ⟨"row"⟩, false⟩ _ _ _
    basinBbox_unitSquare basinCentroid_unitSquare rfl
  exact ⟨row, entryOf_eq_ok_iff.mpr ⟨rfl, hrow⟩⟩

theorem exists_squareUnitRow (unitId : Int) : ∃ row,
    unitRowOf squareGeo squareWkb (some squareLabel) (squareBundle unitId, squareUnit unitId)
      = .ok row ∧ row.rowKey = (unitId, "run") := by
  obtain ⟨row, hrow⟩ := @exists_materializedUnitRow Polygon squareGeo squareWkb
    (squareBundle unitId) squareLabel (squareUnit unitId) _ _ _
    basinBbox_unitSquare basinCentroid_unitSquare rfl
  exact ⟨row, hrow, (materializedUnitRow_rowKey hrow).1⟩

/-- Two inputs, and two bundles, in both orders. -/
theorem write_perm_two :
    (∃ file rows, write squareGeo squareWkb (some squareLabel)
        [squareInput squareBasinA, squareInput squareBasinB] = .ok file ∧
      write squareGeo squareWkb (some squareLabel)
        [squareInput squareBasinB, squareInput squareBasinA] = .ok file ∧
      List.Forall₂ (fun input row =>
        rowOf squareGeo squareWkb (some squareLabel) input = .ok row)
        [squareInput squareBasinA, squareInput squareBasinB] rows ∧
      IsExportOf MaterializedRow.cmp MaterializedRow.trueBbox rows file) ∧
    (∃ file rows, writeUnitBundles squareGeo squareWkb (some squareLabel)
        [squareBundle 1, squareBundle 2] = .ok file ∧
      writeUnitBundles squareGeo squareWkb (some squareLabel)
        [squareBundle 2, squareBundle 1] = .ok file ∧
      List.Forall₂ (fun item row =>
        unitRowOf squareGeo squareWkb (some squareLabel) item = .ok row)
        [(squareBundle 1, squareUnit 1), (squareBundle 2, squareUnit 2)] rows ∧
      IsExportOf MaterializedUnitRow.cmp MaterializedUnitRow.trueBbox rows file) := by
  obtain ⟨hbasins, hbundles⟩ := write_perm squareGeo squareWkb (some squareLabel)
    (List.Perm.swap (squareInput squareBasinB) (squareInput squareBasinA) [])
    (List.Perm.swap (squareBundle 2) (squareBundle 1) [])
  refine ⟨hbasins.resolve_right ?_, hbundles.resolve_right ?_⟩
  · rintro ⟨⟨e, he⟩, -⟩
    obtain ⟨rowA, hrowA⟩ := exists_squareRow squareBasinA
    obtain ⟨rowB, hrowB⟩ := exists_squareRow squareBasinB
    obtain ⟨file, hfile⟩ := (writes_write squareGeo squareWkb (some squareLabel) _).exists_file
      (List.cons_ne_nil _ _) (.cons hrowA (.cons hrowB .nil)) (List.pairwise_pair.mpr
        ⟨fun hdefaulted => absurd hdefaulted Bool.false_ne_true,
          by simp [ResolvedInput.rowKey, squareBasinA, squareBasinB]⟩)
    rw [hfile] at he
    cases he
  · rintro ⟨⟨e, he⟩, -⟩
    obtain ⟨rowA, hrowA, hkeyA⟩ := exists_squareUnitRow 1
    obtain ⟨rowB, hrowB, hkeyB⟩ := exists_squareUnitRow 2
    obtain ⟨file, hfile⟩ := (writes_writeUnitBundles squareGeo squareWkb (some squareLabel)
      [squareBundle 1, squareBundle 2]).exists_file
      ⟨by simp [squareBundle], List.cons_ne_nil _ _⟩ (.cons hrowA (.cons hrowB .nil))
      (List.pairwise_pair.mpr (by simp [hkeyA, hkeyB]))
    rw [hfile] at he
    cases he

end WatershedDelineation
