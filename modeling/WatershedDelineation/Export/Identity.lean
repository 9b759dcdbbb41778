import WatershedDelineation.Drainage.Graph
import WatershedDelineation.General.Checks
import WatershedDelineation.Raster.WkbEncode

/-!
# Identities of exported rows

The errors of an export, and the values of `export/identity.rs` that name its rows: basin ids,
which must be safe in paths, delineation labels, which default to the fabric, its version and the
method, and the origins of diagnostics.
-/

namespace WatershedDelineation

/-- Errors raised while rows of an export are prepared. -/
inductive ExportError
  | invalidBasinId (value reason : String)
  | missingFabricVersion (fabricName : String)
  | negativeDefaultBasinId (terminalUnitId : Int)
  | defaultBasinIdCollision (basinId firstOrigin secondOrigin : String)
  | bboxFailure (reason : String)
  | centroidFailure (reason : String)
  | rowGroupPlanningFailure (rowCount : ℕ) (reason : String)
  | emptyInput
  | emptyUnitBundle
  | duplicateRow (basinId delineation : String)
  | duplicateUnitBundleRow (unitId : Int) (delineation : String)
  | geometryEncodingFailure (basinId : String) (source : WkbEncodeError)
  | unitGeometryEncodingFailure (unitId : Int) (source : WkbEncodeError)
  deriving DecidableEq, Repr

/-! ### Basin ids -/

def maxBasinIdBytes : ℕ := 128

/-- An ASCII digit from 1 to 9, and nothing else. -/
def isSingleAsciiDigit1To9 : List Char → Bool
  | [c] => '1' ≤ c && c ≤ '9'
  | _ => false

/-- The ASCII letters of a text in upper case. -/
def toAsciiUppercase (value : List Char) : List Char :=
  value.map fun c => if 'a' ≤ c ∧ c ≤ 'z' then Char.ofNat (c.toNat - 32) else c

/-- The names that Windows reserves. -/
def isWindowsDeviceName (value : List Char) : Bool :=
  let upper := toAsciiUppercase value
  ["CON".toList, "PRN".toList, "AUX".toList, "NUL".toList].contains upper ||
    ("COM".toList.isPrefixOf upper && isSingleAsciiDigit1To9 (upper.drop 3)) ||
    ("LPT".toList.isPrefixOf upper && isSingleAsciiDigit1To9 (upper.drop 3))

/-- The characters of a basin id. -/
def isBasinIdChar (c : Char) : Bool :=
  ('A' ≤ c && c ≤ 'Z') || ('a' ≤ c && c ≤ 'z') || ('0' ≤ c && c ≤ '9') || c = '.' || c = '_' ||
    c = '-'

/-- Why a text is no basin id, if it is none. -/
def invalidBasinIdReason (value : String) : Option String :=
  if value.toList = [] then some "basin_id must not be empty"
  else if maxBasinIdBytes < value.utf8ByteSize then some "basin_id must be at most 128 bytes"
  else if value = "." ∨ value = ".." then some "basin_id must not be . or .."
  else if value.toList.getLast? = some '.' then some "basin_id must not end with a dot"
  else if value.toList.getLast? = some ' ' then some "basin_id must not end with a space"
  else if isWindowsDeviceName value.toList then
    some "basin_id must not be a Windows device name"
  else if ¬value.toList.all isBasinIdChar then some "basin_id must match ^[A-Za-z0-9._-]+$"
  else none

/-- A basin identity that is safe in paths. -/
@[ext] structure BasinId where
  value : String
  valid : invalidBasinIdReason value = none
  deriving DecidableEq

namespace BasinId

/-- Parse a basin id. -/
def parse (value : String) : Except ExportError BasinId :=
  match h : invalidBasinIdReason value with
  | some reason => .error (.invalidBasinId value reason)
  | none => .ok ⟨value, h⟩

/-- The default basin id of a terminal unit. -/
def fromTerminalUnitId (unitId : UnitId) : Except ExportError BasinId :=
  if unitId.raw < 0 then .error (.negativeDefaultBasinId unitId.raw)
  else parse (toString unitId.raw)

end BasinId

/-! ### Labels -/

/-- A delineation label. -/
@[ext] structure DelineationLabel where
  value : String
  nonempty : value ≠ ""
  deriving DecidableEq

/-- Where a delineation comes from. -/
structure FabricIdentity where
  fabricName : String
  fabricVersion : Option String
  adapterVersion : String
  deriving DecidableEq, Repr

/-- A method as a part of labels. -/
structure ExportMethod where
  value : String
  deriving DecidableEq, Repr

/-- What diagnostics name as the source of a row. -/
structure ExportOrigin where
  description : String
  deriving DecidableEq, Repr

namespace DelineationLabel

/-- Parse a label of the caller. -/
def parse (value : String) : Except ExportError DelineationLabel :=
  if h : value = "" then .error (.invalidBasinId value "delineation label must not be empty")
  else .ok ⟨value, h⟩

/-- The parts of a default label. -/
def defaultLabel (fabricName version method : String) : String :=
  fabricName ++ "/" ++ version ++ "/" ++ method

theorem defaultLabel_ne_empty (fabricName version method : String) :
    defaultLabel fabricName version method ≠ "" := by
  intro h
  have hlist := congrArg String.toList h
  simp [defaultLabel] at hlist

/-- The default label. -/
def fromFabricIdentity (identity : FabricIdentity) (method : ExportMethod) :
    Except ExportError DelineationLabel := do
  let version ← Checks.okOr identity.fabricVersion (.missingFabricVersion identity.fabricName)
  .ok ⟨defaultLabel identity.fabricName version method.value, defaultLabel_ne_empty _ _ _⟩

/-- The label of a row: the one of the options, or the default one. -/
def forRow (labelOverride : Option DelineationLabel) (identity : FabricIdentity)
    (method : ExportMethod) : Except ExportError DelineationLabel :=
  match labelOverride with
  | some label => .ok label
  | none => fromFabricIdentity identity method

end DelineationLabel

end WatershedDelineation
