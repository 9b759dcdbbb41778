import Mathlib.Data.Nat.Digits.Defs

/-!
# Little-endian numbers

Numbers as strings of bytes, the lowest byte first. `LittleEndian.toNat` reads any string of
bytes, `LittleEndian.ofNat` writes the lowest bytes of a number. A list of numbers of one width is
written one after the other, and each is found again at its place (`slice_numbers`).
-/

namespace LittleEndian

variable {width n i : ℕ} {bytes bytes' : List UInt8}

/-- The number of a string of bytes. -/
def toNat (bytes : List UInt8) : ℕ := Nat.ofDigits 256 (bytes.map UInt8.toNat)

/-- The lowest `width` bytes of a number. -/
def ofNat : ℕ → ℕ → List UInt8
  | 0, _ => []
  | width + 1, n => UInt8.ofNat n :: ofNat width (n / 256)

/-- Numbers of one width, one after the other. -/
def numbers (width : ℕ) (values : List ℕ) : List UInt8 := values.flatMap (ofNat width)

/-- Zero bytes at the end do not change the number. -/
theorem toNat_append_replicate_zero (k : ℕ) :
    toNat (bytes ++ List.replicate k 0) = toNat bytes := by
  rw [toNat, List.map_append, List.map_replicate]
  exact Nat.ofDigits_append_replicate_zero _

/-- The last byte is the highest. -/
theorem toNat_concat (b : UInt8) :
    toNat (bytes ++ [b]) = toNat bytes + 256 ^ bytes.length * b.toNat := by
  rw [toNat, List.map_append, Nat.ofDigits_append, List.length_map, List.map_singleton,
    Nat.ofDigits_singleton, toNat]

theorem toNat_lt (bytes : List UInt8) : toNat bytes < 256 ^ bytes.length := by
  have hdigits : ∀ d ∈ bytes.map UInt8.toNat, d < 256 := by
    intro d hd
    obtain ⟨b, -, rfl⟩ := List.mem_map.mp hd
    exact b.toNat_lt
  rw [← List.length_map UInt8.toNat]
  exact Nat.ofDigits_lt_base_pow_length (by decide) hdigits

@[simp] theorem length_ofNat : (ofNat width n).length = width := by
  induction width generalizing n with
  | zero => rfl
  | succ width ih => rw [ofNat, List.length_cons, ih]

/-- **Round trip.** A number that fits is read back as it was written. -/
theorem toNat_ofNat (h : n < 256 ^ width) : toNat (ofNat width n) = n := by
  induction width generalizing n with
  | zero => exact (Nat.lt_one_iff.mp h).symm
  | succ width ih =>
    have hrest : n / 256 < 256 ^ width := Nat.div_lt_of_lt_mul (by rwa [← Nat.pow_succ'])
    rw [ofNat, toNat, List.map_cons, Nat.ofDigits_cons, ← toNat, ih hrest, UInt8.toNat_ofNat']
    exact Nat.mod_add_div n 256

theorem length_numbers {values : List ℕ} :
    (numbers width values).length = values.length * width := by
  rw [numbers, List.length_flatMap, List.map_congr_left fun _ _ => length_ofNat, List.map_const',
    List.sum_replicate_nat]

/-- **A number of a list** is found at its place. -/
theorem slice_numbers {values : List ℕ} (hi : i < values.length) :
    ((numbers width values).drop (i * width)).take width = ofNat width values[i] := by
  induction values generalizing i with
  | nil => exact absurd hi (Nat.not_lt_zero i)
  | cons v values ih =>
    rw [numbers, List.flatMap_cons, ← numbers]
    rcases i with - | i
    · rw [Nat.zero_mul, List.drop_zero, List.getElem_cons_zero]
      exact List.take_left' length_ofNat
    · have hplace : (i + 1) * width = (ofNat width v).length + i * width := by
        rw [length_ofNat, Nat.succ_mul, Nat.add_comm]
      rw [hplace, ← List.drop_drop, List.drop_left, List.getElem_cons_succ]
      exact ih (Nat.lt_of_succ_lt_succ hi)

end LittleEndian
