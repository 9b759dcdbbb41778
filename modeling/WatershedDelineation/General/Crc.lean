import Mathlib.Data.List.Basic
import Mathlib.Data.Nat.Notation
import Mathlib.Logic.Function.Iterate

/-!
# Cyclic redundancy checks

A check register takes up bytes at its low end and is shifted out there bit by bit; whenever a one
is shifted out, the generator is added. When the generator has its highest bit, nothing is lost by a
shift (`bitStep_injective`), so messages that differ in a single byte have different checks
(`foldl_byteStep_ne`).
-/

namespace Crc

variable {w : ℕ} {poly : BitVec w}

/-- Shift out one bit. -/
def bitStep (poly crc : BitVec w) : BitVec w :=
  if crc.getLsbD 0 then (crc >>> 1) ^^^ poly else crc >>> 1

/-- Take up a byte. -/
def byteStep (poly crc : BitVec w) (byte : BitVec 8) : BitVec w :=
  (bitStep poly)^[8] (crc ^^^ byte.setWidth w)

/-- The highest bit after a shift tells which bit was shifted out. -/
private theorem msb_bitStep (h : poly.msb = true) (crc : BitVec w) :
    (bitStep poly crc).msb = crc.getLsbD 0 := by
  have hw : 0 < w := by
    rcases Nat.eq_zero_or_pos w with rfl | hw
    · simp [BitVec.msb_eq_getLsbD_last] at h
    · exact hw
  have hshift : (crc >>> 1).msb = false := by
    rw [BitVec.msb_eq_getLsbD_last, BitVec.getLsbD_ushiftRight]
    exact BitVec.getLsbD_of_ge crc _ (by omega)
  unfold bitStep
  split_ifs with hbit
  · rw [BitVec.msb_xor, hshift, h, hbit, Bool.false_xor]
  · rw [hshift, eq_false_of_ne_true hbit]

theorem bitStep_injective (h : poly.msb = true) : Function.Injective (bitStep poly) := by
  intro a b hab
  have hlow : a.getLsbD 0 = b.getLsbD 0 := by
    rw [← msb_bitStep h, ← msb_bitStep h, hab]
  have hshift : a >>> 1 = b >>> 1 := by
    unfold bitStep at hab
    rw [hlow] at hab
    split_ifs at hab
    · exact (BitVec.xor_left_inj _).mp hab
    · exact hab
  refine BitVec.eq_of_getLsbD_eq fun i _ => ?_
  rcases i with - | i
  · exact hlow
  · have hbit := congrArg (BitVec.getLsbD · i) hshift
    simpa only [BitVec.getLsbD_ushiftRight, Nat.add_comm 1] using hbit

theorem byteStep_injective (h : poly.msb = true) (byte : BitVec 8) :
    Function.Injective fun crc => byteStep poly crc byte := by
  intro a b hab
  exact (BitVec.xor_left_inj _).mp (((bitStep_injective h).iterate 8) hab)

theorem byteStep_injective_byte (h : poly.msb = true) (hw : 8 ≤ w) (crc : BitVec w) :
    Function.Injective (byteStep poly crc) := by
  intro a b hab
  have hwide := (BitVec.xor_right_inj _).mp (((bitStep_injective h).iterate 8) hab)
  refine BitVec.eq_of_toNat_eq ?_
  calc a.toNat = (a.setWidth w).toNat := (BitVec.toNat_setWidth_of_le hw).symm
    _ = (b.setWidth w).toNat := congrArg BitVec.toNat hwide
    _ = b.toNat := BitVec.toNat_setWidth_of_le hw

/-- **A changed byte** changes the check. -/
theorem foldl_byteStep_ne (h : poly.msb = true) (hw : 8 ≤ w) (crc : BitVec w)
    (before after : List (BitVec 8)) {a b : BitVec 8} (hab : a ≠ b) :
    (before ++ a :: after).foldl (byteStep poly) crc
      ≠ (before ++ b :: after).foldl (byteStep poly) crc := by
  rw [List.foldl_append, List.foldl_append, List.foldl_cons, List.foldl_cons]
  generalize before.foldl (byteStep poly) crc = crc
  have hstep : byteStep poly crc a ≠ byteStep poly crc b :=
    (byteStep_injective_byte h hw crc).ne hab
  generalize byteStep poly crc a = x at hstep
  generalize byteStep poly crc b = y at hstep
  induction after generalizing x y with
  | nil => exact hstep
  | cons byte after ih => exact ih _ _ ((byteStep_injective h byte).ne hstep)

end Crc
