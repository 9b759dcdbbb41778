import Mathlib.Data.Nat.Notation
import Mathlib.Tactic.Common

/-!
# Ranges that follow each other

`Consecutive start stop lo ranges hi` says that the first range starts at `lo`, every other one
where the one before it stops, and the last one stops at `hi`; no range is empty. What a list has
in such ranges is what it has from `lo` to `hi` (`flatMap_slice`).

A length is cut into `k` pieces by giving each its `k`-th part, rounded up. The pieces before the
last one may then take everything; they leave something to it if there are few of them
(`mul_ceilPart_lt`).
-/

namespace ConsecutiveRanges

variable {ρ α : Type*} {start stop : ρ → ℕ} {lo hi : ℕ} {ranges : List ρ}

/-- The ranges are not empty, and each starts where the one before it stops. -/
def Consecutive (start stop : ρ → ℕ) : ℕ → List ρ → ℕ → Prop
  | lo, [], hi => lo = hi
  | lo, range :: ranges, hi =>
    start range = lo ∧ start range < stop range ∧ Consecutive start stop (stop range) ranges hi

theorem Consecutive.le (h : Consecutive start stop lo ranges hi) : lo ≤ hi := by
  induction ranges generalizing lo with
  | nil => exact Nat.le_of_eq h
  | cons range ranges ih =>
    obtain ⟨rfl, hlt, hrest⟩ := h
    exact Nat.le_trans (Nat.le_of_lt hlt) (ih hrest)

theorem Consecutive.lt_of_mem (h : Consecutive start stop lo ranges hi) {range : ρ}
    (hmem : range ∈ ranges) : start range < stop range ∧ stop range ≤ hi := by
  induction ranges generalizing lo with
  | nil => exact absurd hmem List.not_mem_nil
  | cons range' ranges ih =>
    obtain ⟨-, hlt, hrest⟩ := h
    rcases List.mem_cons.mp hmem with rfl | hmem
    · exact ⟨hlt, hrest.le⟩
    · exact ih hrest hmem

/-- **The pieces of a list** at the ranges make up the part from the first to the last. -/
theorem Consecutive.flatMap_slice (h : Consecutive start stop lo ranges hi) (l : List α) :
    (ranges.flatMap fun range => (l.drop (start range)).take (stop range - start range))
      = (l.drop lo).take (hi - lo) := by
  induction ranges generalizing lo with
  | nil =>
    obtain rfl : lo = hi := h
    rw [Nat.sub_self, List.take_zero, List.flatMap_nil]
  | cons range ranges ih =>
    obtain ⟨rfl, hlt, hrest⟩ := h
    have hle := hrest.le
    have hsplit : hi - start range = stop range - start range + (hi - stop range) := by omega
    rw [List.flatMap_cons, ih hrest, hsplit, List.take_add, List.drop_drop,
      Nat.add_sub_of_le (Nat.le_of_lt hlt)]

/-- Ranges between the values of an increasing sequence. -/
theorem consecutive_map_range {k : ℕ} {f : ℕ → ρ} {pos : ℕ → ℕ}
    (hstart : ∀ i < k, start (f i) = pos i) (hstop : ∀ i < k, stop (f i) = pos (i + 1))
    (hlt : ∀ i < k, pos i < pos (i + 1)) :
    Consecutive start stop (pos 0) ((List.range k).map f) (pos k) := by
  induction k generalizing f pos with
  | zero => exact rfl
  | succ k ih =>
    have hrest := @ih (fun i => f (i + 1)) (fun i => pos (i + 1))
      (fun i hi => hstart (i + 1) (by omega)) (fun i hi => hstop (i + 1) (by omega))
      fun i hi => hlt (i + 1) (by omega)
    rw [List.range_succ_eq_map, List.map_cons, List.map_map]
    have hpos := Nat.succ_pos k
    refine ⟨hstart 0 hpos, ?_, ?_⟩
    · rw [hstart 0 hpos, hstop 0 hpos]
      exact hlt 0 hpos
    · rw [hstop 0 hpos]
      exact hrest

/-! ### Pieces of the part rounded up -/

section Ceil

variable {size k i : ℕ}

/-- The `k`-th part, rounded up. -/
def ceilPart (size k : ℕ) : ℕ := (size + k - 1) / k

theorem ceilPart_mul_le (size k : ℕ) : ceilPart size k * k ≤ size + k - 1 :=
  Nat.div_mul_le_self ..

theorem le_mul_ceilPart (size : ℕ) (hk : 0 < k) : size ≤ k * ceilPart size k := by
  have hlt := @Nat.lt_div_mul_add (size + k - 1) k hk
  rw [ceilPart, Nat.mul_comm]
  omega

/-- **The last of few pieces is not empty.** -/
theorem mul_ceilPart_lt (hfew : (k - 1) * (k - 1) < size) (hi : i < k) :
    i * ceilPart size k < size := by
  have hk : 0 < k := Nat.zero_lt_of_lt hi
  have hle := ceilPart_mul_le size k
  have hmul : i * ceilPart size k ≤ (k - 1) * ceilPart size k :=
    Nat.mul_le_mul_right _ (Nat.le_sub_one_of_lt hi)
  by_contra! hge
  -- then a piece is no longer than the number of the others
  have hsplit : ceilPart size k * k = (k - 1) * ceilPart size k + ceilPart size k := by
    rw [← Nat.succ_mul, Nat.succ_eq_add_one, Nat.sub_add_cancel hk, Nat.mul_comm]
  have hpart : ceilPart size k ≤ k - 1 := by omega
  have hsquare : (k - 1) * ceilPart size k ≤ (k - 1) * (k - 1) := Nat.mul_le_mul_left _ hpart
  omega

/-- The pieces follow each other, and none is empty. -/
theorem consecutive_ceilParts (hk : 0 < k) (hfew : (k - 1) * (k - 1) < size) {f : ℕ → ρ}
    (hstart : ∀ i < k, start (f i) = i * ceilPart size k)
    (hstop : ∀ i < k, stop (f i) = min ((i + 1) * ceilPart size k) size) :
    Consecutive start stop 0 ((List.range k).map f) size := by
  have hlt : ∀ i < k, i * ceilPart size k < size := fun i hi => mul_ceilPart_lt hfew hi
  have hpart : 0 < ceilPart size k := by
    rcases Nat.eq_zero_or_pos (ceilPart size k) with hzero | hpos
    · have hle := le_mul_ceilPart size hk
      rw [hzero, Nat.mul_zero] at hle
      omega
    · exact hpos
  have hmin : ∀ i < k, min (i * ceilPart size k) size = i * ceilPart size k := fun i hi =>
    Nat.min_eq_left (Nat.le_of_lt (hlt i hi))
  have hranges := @consecutive_map_range ρ start stop k f (fun i => min (i * ceilPart size k) size)
    (fun i hi => (hstart i hi).trans (hmin i hi).symm) hstop fun i hi => by
      have hsize := hlt i hi
      rw [hmin i hi, Nat.succ_mul]
      omega
  rwa [Nat.zero_mul, Nat.zero_min, Nat.min_eq_right (le_mul_ceilPart size hk)] at hranges

end Ceil

end ConsecutiveRanges
