import WatershedDelineation.Assembly.StagedAssembly
import WatershedDelineation.Engine.D8Strategy
import WatershedDelineation.Resolver.OutletResolution

/-!
# The refinement policy

`refine_terminal` of `engine.rs`, and the classification of its failures in `refinement.rs`. A
caller asks for refinement to be required, to be tried, or to be left out; a strategy decides on a
refinement or fails, and the policy makes a result or an error of that.

Required refinement gives a result exactly when refinement that is tried is applied
(`refineTerminal_requireD8_iff`), and refinement that is tried returns (`exists_refineTerminal`).
-/

namespace WatershedDelineation

/-! ### Skipped refinements -/

/-- Operator-facing category of a skipped refinement. -/
inductive BestEffortSkipCategory
  | availability
  | misDeclaration
  | dataGeometryIntegrity
  deriving DecidableEq, Repr

/-- The category of a skip. -/
def BestEffortSkipReason.category : BestEffortSkipReason → BestEffortSkipCategory
  | .noD8AuxDeclared | .coarseUnitOnlyNoD8AuxDeclared | .noRasterSourceProvided
  | .availability _ _ => .availability
  | .unreadableD8AuxDeclared _ | .misDeclaration _ _ => .misDeclaration
  | .vectorOutletGuardFailed _ | .dataGeometryIntegrity _ _ => .dataGeometryIntegrity

/-- The texts of errors. -/
structure Diagnostics where
  session : D8SessionError → String
  refinement : SourceRefinementError → String
  rasterSource : RasterSourceError → String
  strategy : TerminalRefinementError → String

section Skip

variable (text : Diagnostics)

/-- The skip of a session error. -/
def bestEffortSessionSkip (error : D8SessionError) (source : BestEffortSkipSource) :
    BestEffortSkipReason :=
  match error with
  | .missingRequiredD8Aux | .noCoveringD8Tile _ | .terminalSpansD8Tiles _ _
  | .cogExtentHeaderRead _ _ _ _ | .cache _ => .availability source (text.session error)
  | .d8CrsIdentifierOutOfRange _ | .unsupportedD8Crs _ _ =>
    .misDeclaration source (text.session error)
  | .integrityViolation _ => .dataGeometryIntegrity source (text.session error)

/-- The skip of an algorithm error. -/
def bestEffortRefinementSkip (error : SourceRefinementError) : BestEffortSkipReason :=
  match error with
  | .refinement (.vectorOutletUnusable failure) => .vectorOutletGuardFailed failure
  | .refinement (.dimensionMismatch _ _ _ _) | .refinement (.geoTransformMismatch _ _)
  | .refinement (.geographicKm2Unsupported _ _) =>
    .misDeclaration .refinementAlgorithm (text.refinement error)
  | .degenerateTerminalPolygon | .refinement (.emptyRasterMask _ _) | .refinement (.maskFailed _)
  | .refinement (.snapFailed _) | .refinement .emptyPolygonization | .inverseProjection _ _ =>
    .dataGeometryIntegrity .refinementAlgorithm (text.refinement error)
  | .rasterLoad source =>
    match source with
    | .fileNotFound _ | .openFailed _ _ | .readFailed _ _ | .emptyWindow _ =>
      .availability .rasterLoad (text.rasterSource source)
    | .invalidFlowDirectionNodata _ _ => .misDeclaration .rasterLoad (text.rasterSource source)
    | .tileConstruction _ => .dataGeometryIntegrity .rasterLoad (text.rasterSource source)

/-- The skip of a strategy's error. -/
def bestEffortSkipReason (error : TerminalRefinementError) : BestEffortSkipReason :=
  match error with
  | .emptyContainedTerminalGeometry =>
    .dataGeometryIntegrity .containedTerminalGeometry (text.strategy error)
  | .rasterSource _ _ => .availability .rasterSource (text.strategy error)
  | .d8Selection _ source => bestEffortSessionSkip text source .d8Selection
  | .rasterLocalize _ _ source => bestEffortSessionSkip text source .rasterLocalization
  | .algorithm _ source => bestEffortRefinementSkip text source

end Skip

/-! ### Results and errors -/

/-- Whether refinement is attempted. -/
inductive RefinementMode
  | bestEffort
  | requireD8
  | disabled
  deriving DecidableEq, Repr

/-- What refining a terminal has given, with its provenance. -/
inductive StagedTerminalRefinement
  | disabled
  | bestEffortSkipped (provenance : BestEffortRefinementProvenance)
  | applied (refinedOutlet : NativeCoord) (geometry : ContainedTerminalPolygon)
    (provenance : AppliedRefinementProvenance)

namespace StagedTerminalRefinement

/-- A visible skip. -/
def ofSkip (why : BestEffortSkipReason) : StagedTerminalRefinement :=
  .bestEffortSkipped ⟨.bestEffortD8IfPresent, why⟩

/-- The part that dissolving needs. -/
def toTerminalRefinement : StagedTerminalRefinement → TerminalRefinement Polygon
  | .disabled => .disabled
  | .bestEffortSkipped _ => .bestEffortSkipped
  | .applied _ geometry _ => .applied geometry.polygon

def IsApplied : StagedTerminalRefinement → Prop
  | .applied _ _ _ => True
  | _ => False

def IsSkipped : StagedTerminalRefinement → Prop
  | .bestEffortSkipped _ => True
  | _ => False

theorem IsSkipped.not_isApplied {refinement : StagedTerminalRefinement}
    (h : refinement.IsSkipped) : ¬refinement.IsApplied := by
  cases refinement with
  | bestEffortSkipped provenance => exact id
  | disabled => exact h.elim
  | applied refinedOutlet geometry provenance => exact h.elim

/-- Only an applied refinement changes what is dissolved. -/
theorem IsSkipped.refinedTerminalGeometry_eq {refinement : StagedTerminalRefinement}
    (h : refinement.IsSkipped) :
    refinement.toTerminalRefinement.refinedTerminalGeometry = none := by
  cases refinement with
  | bestEffortSkipped provenance => rfl
  | disabled => rfl
  | applied refinedOutlet geometry provenance => exact h.elim

/-- A refined geometry is not empty. -/
theorem refinedTerminalGeometry_ne_nil (refinement : StagedTerminalRefinement) :
    refinement.toTerminalRefinement.refinedTerminalGeometry ≠ some [] := by
  cases refinement with
  | disabled => exact nofun
  | bestEffortSkipped provenance => exact nofun
  | applied refinedOutlet geometry provenance =>
    exact fun h => geometry.nonempty (Option.some.inj h)

end StagedTerminalRefinement

/-- Errors of a delineation. -/
inductive DelineateError
  | resolution (outlet : GeoCoord) (source : OutletResolutionError)
  | sessionLevelIndexEmpty (fabric : String) (unitCount : ℕ)
  /-- An error of a stage that reads or dissolves units. -/
  | stage (source : EngineError)
  | rasterLocalize (unitId : Int) (source : D8SessionError)
  | d8Selection (unitId : Int) (source : D8SessionError)
  | requiredD8RasterSourceMissing (unitId : Int)
  | refinement (unitId : Int) (source : SourceRefinementError)
  deriving DecidableEq, Repr

/-- A strategy's error as an error of a delineation. -/
def DelineateError.ofTerminalRefinementError : TerminalRefinementError → DelineateError
  | .emptyContainedTerminalGeometry => .refinement 0 (.refinement .emptyPolygonization)
  | .rasterSource unitId _ => .requiredD8RasterSourceMissing unitId
  | .d8Selection unitId source => .d8Selection unitId source
  | .rasterLocalize unitId _ source => .rasterLocalize unitId source
  | .algorithm unitId source => .refinement unitId source

/-- What the policy makes of a decision. -/
def terminalRefinementFromDecision (decision : TerminalRefinementDecision) (mode : RefinementMode)
    (terminal : UnitId) : Except (Fault DelineateError) StagedTerminalRefinement :=
  match decision with
  | .applied refinedOutlet geometry provenance => .ok (.applied refinedOutlet geometry provenance)
  | .bestEffortSkipped provenance =>
    match mode with
    | .bestEffort => .ok (.bestEffortSkipped provenance)
    | .requireD8 => .error (.err (.requiredD8RasterSourceMissing terminal.raw))
    | .disabled => .ok .disabled

/-! ### Refining a terminal -/

/-- The unreadable declarations of the raster family. -/
def isUnreadableD8AuxiliarySchema (schema : String) : Bool :=
  "hfx.aux.d8_raster.".toList.isPrefixOf schema.toList

/-- The coordinate in exact numbers. -/
def GeoCoord.toNative (coord : GeoCoord) : NativeCoord :=
  ⟨Binary64.toRat coord.lon.bits, Binary64.toRat coord.lat.bits⟩

/-- The unit of a resolution. -/
def OutletResolution.unitId : OutletResolution → UnitId
  | .vectorPoint unitId _ _ _ => unitId
  | .unitContainment unitId _ _ => unitId

/-- The authority that refinement needs of a resolution. -/
def OutletAuthority.ofResolution : OutletResolution → OutletAuthority
  | .vectorPoint _ _ vectorCoord _ => .vectorPoint vectorCoord.toNative
  | .unitContainment _ inputCoord _ => .unitOnly inputCoord.toNative

/-- What refining uses of the engine: the rasters, the schemas of the unreadable declarations, and
the strategy. -/
structure Refiner where
  pantry : D8RefinementPantry
  unreadableSchemas : List String
  strategy : TerminalRefinementInput → D8RefinementPantry →
    Except (Fault TerminalRefinementError) TerminalRefinementDecision
  text : Diagnostics

namespace Refiner

variable (refiner : Refiner) (mode : RefinementMode) (snapThreshold : SnapThreshold)
  (resolved : OutletResolution) (terminal : UnitId) (units : List (PreMergeDrainageUnit Polygon))

def hasD8Aux : Bool := !refiner.pantry.session.d8Rasters.isEmpty

/-- The result without declared rasters, when refinement is tried. -/
def withoutD8Aux : StagedTerminalRefinement :=
  match refiner.unreadableSchemas.find? isUnreadableD8AuxiliarySchema with
  | some schema => .ofSkip (.unreadableD8AuxDeclared schema)
  | none =>
    match resolved with
    | .vectorPoint _ _ _ _ => .ofSkip .noD8AuxDeclared
    | .unitContainment _ _ _ => .ofSkip .coarseUnitOnlyNoD8AuxDeclared

/-- Ask the strategy about the record of the terminal. -/
def attempt : Except (Fault DelineateError) StagedTerminalRefinement := do
  let terminalUnit ← Checked.orErr (units.head?.filter (·.id = terminal))
    (.stage (.preMergeCatchmentFetch units.length
      (.integrityViolation s!"terminal unit {terminal.raw} not in pre-merge units")))
  match refiner.strategy ⟨terminal, terminalUnit.geometry, .ofResolution resolved, snapThreshold⟩
    refiner.pantry with
  | .ok decision => terminalRefinementFromDecision decision mode terminal
  | .error (.err error) =>
    match mode with
    | .bestEffort => .ok (.ofSkip (bestEffortSkipReason refiner.text error))
    | .requireD8 => .error (.err (.ofTerminalRefinementError error))
    | .disabled => .ok .disabled
  | .error .panic => .error .panic
  | .error .diverge => .error .diverge

/-- Refine the terminal under a policy. -/
def refineTerminal : Except (Fault DelineateError) StagedTerminalRefinement :=
  match mode with
  | .disabled => .ok .disabled
  | .bestEffort =>
    if refiner.hasD8Aux then refiner.attempt .bestEffort snapThreshold resolved terminal units
    else .ok (refiner.withoutD8Aux resolved)
  | .requireD8 =>
    if refiner.hasD8Aux then refiner.attempt .requireD8 snapThreshold resolved terminal units
    else .error (.err (.d8Selection terminal.raw .missingRequiredD8Aux))

/-! ### What the policy gives -/

section Policy

variable {refiner : Refiner} {mode : RefinementMode} {snapThreshold : SnapThreshold}
  {resolved : OutletResolution} {terminal : UnitId} {units : List (PreMergeDrainageUnit Polygon)}
  {refinement : StagedTerminalRefinement}

@[simp] theorem refineTerminal_disabled :
    refiner.refineTerminal .disabled snapThreshold resolved terminal units = .ok .disabled := rfl

/-- Required refinement is refinement that is applied. -/
theorem attempt_requireD8_iff :
    refiner.attempt .requireD8 snapThreshold resolved terminal units = .ok refinement ↔
      refiner.attempt .bestEffort snapThreshold resolved terminal units = .ok refinement ∧
        refinement.IsApplied := by
  simp only [attempt, Checks.bind_eq_ok_iff, ← exists_and_right, and_assoc]
  refine exists_congr fun unit => and_congr_right fun _ => ?_
  split
  · next decision _ =>
    cases decision with
    | applied refinedOutlet geometry provenance =>
      simp only [terminalRefinementFromDecision, Except.ok.injEq, iff_self_and]
      rintro rfl
      trivial
    | bestEffortSkipped provenance =>
      simp only [terminalRefinementFromDecision, reduceCtorEq, Except.ok.injEq, false_iff, not_and]
      rintro rfl
      exact id
  · simp only [reduceCtorEq, Except.ok.injEq, false_iff, not_and]
    rintro rfl
    exact id
  · simp
  · simp

theorem isApplied_or_isSkipped_of_attempt
    (h : refiner.attempt .bestEffort snapThreshold resolved terminal units = .ok refinement) :
    refinement.IsApplied ∨ refinement.IsSkipped := by
  obtain ⟨unit, -, h⟩ := Checks.bind_eq_ok_iff.mp h
  split at h
  · next decision _ =>
    cases decision with
    | applied refinedOutlet geometry provenance =>
      obtain rfl := Except.ok.inj h
      exact .inl trivial
    | bestEffortSkipped provenance =>
      obtain rfl := Except.ok.inj h
      exact .inr trivial
  · obtain rfl := Except.ok.inj h
    exact .inr trivial
  · cases h
  · cases h

theorem isSkipped_withoutD8Aux : (refiner.withoutD8Aux resolved).IsSkipped := by
  unfold withoutD8Aux
  split
  · trivial
  · split <;> trivial

/-- **Required refinement** gives a result exactly when refinement that is tried is applied, and
then both give the same. -/
theorem refineTerminal_requireD8_iff :
    refiner.refineTerminal .requireD8 snapThreshold resolved terminal units = .ok refinement ↔
      refiner.refineTerminal .bestEffort snapThreshold resolved terminal units = .ok refinement ∧
        refinement.IsApplied := by
  simp only [refineTerminal]
  split_ifs
  · exact attempt_requireD8_iff
  · refine iff_of_false (by simp) ?_
    rintro ⟨h, happlied⟩
    obtain rfl := Except.ok.inj h
    exact isSkipped_withoutD8Aux.not_isApplied happlied

theorem isApplied_or_isSkipped
    (h : refiner.refineTerminal .bestEffort snapThreshold resolved terminal units
      = .ok refinement) : refinement.IsApplied ∨ refinement.IsSkipped := by
  rw [refineTerminal] at h
  split_ifs at h
  · exact isApplied_or_isSkipped_of_attempt h
  · obtain rfl := Except.ok.inj h
    exact .inr isSkipped_withoutD8Aux

theorem exists_attempt_requireD8_error
    (h : refiner.attempt .bestEffort snapThreshold resolved terminal units = .ok refinement)
    (hskipped : refinement.IsSkipped) :
    ∃ e, refiner.attempt .requireD8 snapThreshold resolved terminal units = .error (.err e) := by
  obtain ⟨unit, hunit, h⟩ := Checks.bind_eq_ok_iff.mp h
  rw [attempt, hunit, Checks.ok_bind]
  dsimp only
  split at h
  · next decision _ =>
    cases decision with
    | applied refinedOutlet geometry provenance =>
      obtain rfl := Except.ok.inj h
      exact hskipped.elim
    | bestEffortSkipped provenance => exact ⟨_, rfl⟩
  · exact ⟨_, rfl⟩
  · cases h
  · cases h

/-- Where trying skips, requiring fails. -/
theorem exists_requireD8_error
    (h : refiner.refineTerminal .bestEffort snapThreshold resolved terminal units = .ok refinement)
    (hskipped : refinement.IsSkipped) :
    ∃ e, refiner.refineTerminal .requireD8 snapThreshold resolved terminal units
      = .error (.err e) := by
  rw [refineTerminal] at h
  rw [refineTerminal]
  split_ifs at h ⊢
  · exact exists_attempt_requireD8_error h hskipped
  · exact ⟨_, rfl⟩

/-- **Refinement that is tried returns** where the terminal has a record and the strategy returns:
whatever the strategy's error is, it becomes a skip. -/
theorem exists_refineTerminal (hterminal : ∃ unit ∈ units.head?, unit.id = terminal)
    (hstrategy : ∀ input, Fault.Returns (refiner.strategy input refiner.pantry)) :
    ∃ refinement, refiner.refineTerminal .bestEffort snapThreshold resolved terminal units
      = .ok refinement := by
  obtain ⟨unit, hunit, hid⟩ := hterminal
  have hfind : units.head?.filter (·.id = terminal) = some unit := by
    rw [Option.mem_def.mp hunit, Option.filter_some, if_pos (decide_eq_true hid)]
  rw [refineTerminal]
  split_ifs
  · rw [attempt, hfind, Checked.orErr_some, Checks.ok_bind]
    dsimp only
    have hreturns := hstrategy ⟨terminal, unit.geometry, .ofResolution resolved, snapThreshold⟩
    split
    · next decision _ =>
      cases decision with
      | applied refinedOutlet geometry provenance => exact ⟨_, rfl⟩
      | bestEffortSkipped provenance => exact ⟨_, rfl⟩
    · exact ⟨_, rfl⟩
    · next h =>
      obtain ⟨e, he⟩ := hreturns _ h
      cases he
    · next h =>
      obtain ⟨e, he⟩ := hreturns _ h
      cases he
  · exact ⟨_, rfl⟩

/-- Where the terminal has a record, refinement that is tried stops only with a strategy that does
not return, and then required refinement stops in the same way: an error of the strategy becomes a
skip. -/
theorem refineTerminal_requireD8_of_error (hterminal : ∃ unit ∈ units.head?, unit.id = terminal)
    {e : Fault DelineateError}
    (h : refiner.refineTerminal .bestEffort snapThreshold resolved terminal units = .error e) :
    refiner.refineTerminal .requireD8 snapThreshold resolved terminal units = .error e := by
  obtain ⟨unit, hunit, hid⟩ := hterminal
  have hfind : units.head?.filter (·.id = terminal) = some unit := by
    rw [Option.mem_def.mp hunit, Option.filter_some, if_pos (decide_eq_true hid)]
  simp only [refineTerminal] at h ⊢
  split_ifs at h ⊢
  simp only [attempt, hfind, Checked.orErr_some, Checks.ok_bind] at h ⊢
  split at h
  · next decision _ => cases decision <;> cases h
  · cases h
  · exact h
  · exact h

end Policy

end Refiner

end WatershedDelineation
