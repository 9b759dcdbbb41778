import Mathlib.Data.Int.Notation
import Mathlib.Tactic.Common

/-!
# D8 flow directions

The eight directions of `algo/flow_dir.rs`, their offsets, and their three byte encodings.
-/

namespace WatershedDelineation

/-- D8 flow-direction encodings. -/
inductive FlowDirEncoding
  | esri
  | taudem
  | grass
  deriving DecidableEq, Repr

/-- The byte value is no valid encoding for the given convention. -/
inductive InvalidFlowDir
  | invalidEncoding (value : UInt8)
  deriving DecidableEq, Repr

/-- D8 flow directions. -/
inductive FlowDir
  | east
  | southeast
  | south
  | southwest
  | west
  | northwest
  | north
  | northeast
  deriving DecidableEq, Repr

namespace FlowDir

/-- All eight directions in ESRI encoding order. -/
def all : List FlowDir :=
  [east, southeast, south, southwest, west, northwest, north, northeast]

theorem mem_all (dir : FlowDir) : dir ∈ all := by
  cases dir <;> decide

/-- Decode an ESRI byte. -/
def fromEsri (value : UInt8) : Except InvalidFlowDir (Option FlowDir) :=
  match value.toNat with
  | 0 => .ok none
  | 1 => .ok (some east)
  | 2 => .ok (some southeast)
  | 4 => .ok (some south)
  | 8 => .ok (some southwest)
  | 16 => .ok (some west)
  | 32 => .ok (some northwest)
  | 64 => .ok (some north)
  | 128 => .ok (some northeast)
  | _ => .error (.invalidEncoding value)

/-- Decode a TauDEM byte. -/
def fromTaudem (value : UInt8) : Except InvalidFlowDir (Option FlowDir) :=
  match value.toNat with
  | 0 => .ok none
  | 1 => .ok (some east)
  | 2 => .ok (some northeast)
  | 3 => .ok (some north)
  | 4 => .ok (some northwest)
  | 5 => .ok (some west)
  | 6 => .ok (some southwest)
  | 7 => .ok (some south)
  | 8 => .ok (some southeast)
  | _ => .error (.invalidEncoding value)

/-- Decode a GRASS byte. As signed bytes, the values from `-8` to `-1` (bytes 248 to 255) are
coverage exits. -/
def fromGrass (value : UInt8) : Except InvalidFlowDir (Option FlowDir) :=
  match value.toNat with
  | 0 | 248 | 249 | 250 | 251 | 252 | 253 | 254 | 255 => .ok none
  | 1 => .ok (some northeast)
  | 2 => .ok (some north)
  | 3 => .ok (some northwest)
  | 4 => .ok (some west)
  | 5 => .ok (some southwest)
  | 6 => .ok (some south)
  | 7 => .ok (some southeast)
  | 8 => .ok (some east)
  | _ => .error (.invalidEncoding value)

/-- Decode a byte in the given encoding. -/
def fromEncoded (value : UInt8) : FlowDirEncoding → Except InvalidFlowDir (Option FlowDir)
  | .esri => fromEsri value
  | .taudem => fromTaudem value
  | .grass => fromGrass value

/-- The column offset of one step. -/
def dx : FlowDir → ℤ
  | east | northeast | southeast => 1
  | west | northwest | southwest => -1
  | north | south => 0

/-- The row offset of one step; rows grow southwards. -/
def dy : FlowDir → ℤ
  | north | northwest | northeast => -1
  | south | southwest | southeast => 1
  | east | west => 0

/-- The direction exactly opposite. -/
def opposite : FlowDir → FlowDir
  | east => west
  | southeast => northwest
  | south => north
  | southwest => northeast
  | west => east
  | northwest => southeast
  | north => south
  | northeast => southwest

@[simp] theorem opposite_opposite (dir : FlowDir) : dir.opposite.opposite = dir := by
  cases dir <;> rfl

@[simp] theorem dx_opposite (dir : FlowDir) : dir.opposite.dx = -dir.dx := by
  cases dir <;> rfl

@[simp] theorem dy_opposite (dir : FlowDir) : dir.opposite.dy = -dir.dy := by
  cases dir <;> rfl

end FlowDir

end WatershedDelineation
