import Mathlib.Algebra.BigOperators.Group.List.Basic
import Mathlib.Algebra.GroupWithZero.Nat
import Mathlib.Tactic.Common

/-!
# Balanced parts

A number is split into `k` parts as evenly as possible: the quotient each, and one more for as many
of the first parts as the remainder says.

The parts add up to the number (`sum_parts`), and each lies between the quotients rounded down and
up (`div_le_of_mem_parts`, `le_of_mem_parts`).
-/

namespace BalancedParts

variable {n k size lo hi : ℕ}

/-- The part with the given index. -/
def part (n k index : ℕ) : ℕ := n / k + if index < n % k then 1 else 0

/-- The parts of `n`, as even as possible. -/
def parts (n k : ℕ) : List ℕ := (List.range k).map (part n k)

/-- The first parts take their quotients, and what they get of the remainder. -/
theorem sum_first_parts (n k count : ℕ) :
    ((List.range count).map (part n k)).sum = count * (n / k) + min count (n % k) := by
  induction count with
  | zero => simp
  | succ count ih =>
    rw [List.range_succ, List.map_append, List.sum_append, ih, Nat.succ_mul, List.map_singleton,
      List.sum_singleton, part]
    split_ifs with h <;> omega

/-- **The parts add up.** -/
theorem sum_parts (hk : 0 < k) : (parts n k).sum = n := by
  have hmod : n % k < k := Nat.mod_lt n hk
  calc (parts n k).sum = k * (n / k) + min k (n % k) := sum_first_parts n k k
    _ = k * (n / k) + n % k := by rw [Nat.min_eq_right (Nat.le_of_lt hmod)]
    _ = n := Nat.div_add_mod n k

theorem div_le_of_mem_parts (h : size ∈ parts n k) : n / k ≤ size := by
  obtain ⟨index, -, rfl⟩ := List.mem_map.mp h
  exact Nat.le_add_right ..

theorem le_div_add_one_of_mem_parts (h : size ∈ parts n k) : size ≤ n / k + 1 := by
  obtain ⟨index, -, rfl⟩ := List.mem_map.mp h
  rw [part]
  split_ifs <;> omega

/-- No part exceeds a bound that `k` times exceeds the number. -/
theorem le_of_mem_parts (hk : n ≤ k * hi) (h : size ∈ parts n k) : size ≤ hi := by
  obtain ⟨index, hindex, rfl⟩ := List.mem_map.mp h
  have hpos : 0 < k := Nat.lt_of_le_of_lt (Nat.zero_le index) (List.mem_range.mp hindex)
  have hdiv := Nat.div_add_mod n k
  rw [part]
  split_ifs with hrem
  · -- a part of the remainder is one above the quotient, which is then below the bound
    have hlt : k * (n / k) < k * hi := by omega
    exact Nat.lt_of_mul_lt_mul_left hlt
  · exact Nat.le_of_mul_le_mul_left (by omega : k * (n / k) ≤ k * hi) hpos

/-- No part is below a bound that fits into the number `k` times. -/
theorem le_of_mem_parts_of_mul_le (hk : lo * k ≤ n) (h : size ∈ parts n k) : lo ≤ size := by
  refine Nat.le_trans ?_ (div_le_of_mem_parts h)
  obtain ⟨index, hindex, -⟩ := List.mem_map.mp h
  exact (Nat.le_div_iff_mul_le (Nat.lt_of_le_of_lt (Nat.zero_le index)
    (List.mem_range.mp hindex))).mpr hk

end BalancedParts
