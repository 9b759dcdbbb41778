import WatershedDelineation.General.Checks
import WatershedDelineation.Session.GraphCatchments

/-!
# Referential validation of snap files

Snap stores and `validate_snap_refs`: every unit that a snap file refers to has a catchment row on
a level that the declaration of the file allows. The references are read when a store is opened
cold, and a lazily opened store has none to validate.
-/

namespace WatershedDelineation

/-- A snap target's reference to a unit. -/
structure SnapUnitRef where
  snapId : Int
  unitId : UnitId
  deriving DecidableEq, Repr

/-- A snap file with a readable footer: the references that can be read from its rows. -/
structure SnapFile where
  membershipRefs : Except SessionError (List SnapUnitRef)

/-- How a snap store is opened. -/
inductive SnapOpenMode
  | lazyMetadata
  | coldMembershipValidation
  deriving DecidableEq, Repr

/-- The references that a snap store holds. -/
inductive SnapRefsState
  | notLoaded
  | loaded (refs : List SnapUnitRef)
  deriving DecidableEq, Repr

/-- An opened snap store, as the validation sees it. -/
structure SnapStore where
  file : SnapFile
  snapRefs : SnapRefsState

namespace SnapStore

/-- Open a snap store over a file. -/
def openObject (file : SnapFile) (mode : SnapOpenMode) : Except SessionError SnapStore :=
  match mode with
  | .lazyMetadata => .ok ⟨file, .notLoaded⟩
  | .coldMembershipValidation => do .ok ⟨file, .loaded (← file.membershipRefs)⟩

/-- The references of a snap store. -/
def readAllSnapRefs (store : SnapStore) : Except SessionError (List SnapUnitRef) :=
  match store.snapRefs with
  | .loaded refs => .ok refs
  | .notLoaded => .error (.snapRefsNotLoaded "snap.parquet" "LazyMetadata")

end SnapStore

/-- The check on one reference. -/
def checkSnapRef (decl : SnapDecl) (catchmentLevels : UnitId → Option Level)
    (snapRef : SnapUnitRef) : Except SessionError Unit := do
  let level ← Checks.okOr (catchmentLevels snapRef.unitId)
    (.snapReferentialIntegrity snapRef.snapId snapRef.unitId.raw
      "snap target references a unit with no catchment row")
  if level.raw ∉ decl.referencesLevels then
    .error (.snapReferentialIntegrity snapRef.snapId snapRef.unitId.raw
      (s!"unit level {level.raw} is not declared in references_levels " ++
        s!"{decl.referencesLevels}"))
  else .ok ()

/-- Validate the references of a snap store. -/
def validateSnapRefs (snapStore : SnapStore) (decl : SnapDecl)
    (catchmentLevels : UnitId → Option Level) : Except SessionError Unit := do
  let snapRefs ← snapStore.readAllSnapRefs
  snapRefs.forM (checkSnapRef decl catchmentLevels)

theorem checkSnapRef_eq_ok_iff {decl : SnapDecl} {levels : UnitId → Option Level}
    {snapRef : SnapUnitRef} : checkSnapRef decl levels snapRef = .ok () ↔
      ∃ level, levels snapRef.unitId = some level ∧ level.raw ∈ decl.referencesLevels := by
  simp only [checkSnapRef, Checks.bind_eq_ok_iff, Checks.okOr_eq_ok_iff,
    Checks.ite_error_eq_ok_iff, not_not, and_true]

/-- Validation of a store opened cold succeeds exactly when the references can be read and each is
to a unit on a declared level. -/
theorem validateSnapRefs_cold_iff {file : SnapFile} {decl : SnapDecl}
    {levels : UnitId → Option Level} :
    (∃ store, SnapStore.openObject file .coldMembershipValidation = .ok store ∧
      validateSnapRefs store decl levels = .ok ()) ↔
    ∃ refs, file.membershipRefs = .ok refs ∧ ∀ snapRef ∈ refs,
      ∃ level, levels snapRef.unitId = some level ∧ level.raw ∈ decl.referencesLevels := by
  simp only [SnapStore.openObject, Checks.bind_eq_ok_iff, Except.ok.injEq]
  constructor
  · rintro ⟨_, ⟨refs, hrefs, rfl⟩, hvalid⟩
    simp only [validateSnapRefs, SnapStore.readAllSnapRefs, Checks.ok_bind, Checks.forM_eq_ok_iff,
      checkSnapRef_eq_ok_iff] at hvalid
    exact ⟨refs, hrefs, hvalid⟩
  · rintro ⟨refs, hrefs, hvalid⟩
    refine ⟨_, ⟨refs, hrefs, rfl⟩, ?_⟩
    simpa only [validateSnapRefs, SnapStore.readAllSnapRefs, Checks.ok_bind,
      Checks.forM_eq_ok_iff, checkSnapRef_eq_ok_iff] using hvalid

end WatershedDelineation
