import Mathlib.Data.List.GetD
import Mathlib.Data.Nat.Notation
import Mathlib.Tactic.Common

/-!
# Row-major lists

A table of `rows` rows and `cols` columns as one list: the value at row `r` and column `c` has the
index `r * cols + c`.
-/

namespace RowMajor

variable {rows cols r c r' c' i : ℕ}

theorem index_lt (hr : r < rows) (hc : c < cols) : r * cols + c < rows * cols :=
  calc r * cols + c < r * cols + cols := Nat.add_lt_add_left hc _
    _ = (r + 1) * cols := (Nat.succ_mul ..).symm
    _ ≤ rows * cols := Nat.mul_le_mul_right _ hr

/-- The first cells of a row. -/
theorem add_le (hr : r < rows) (hc : c ≤ cols) : r * cols + c ≤ rows * cols :=
  calc r * cols + c ≤ r * cols + cols := Nat.add_le_add_left hc _
    _ = (r + 1) * cols := (Nat.succ_mul ..).symm
    _ ≤ rows * cols := Nat.mul_le_mul_right _ hr

theorem index_div (hc : c < cols) : (r * cols + c) / cols = r := by
  rw [Nat.mul_comm, Nat.mul_add_div (Nat.zero_lt_of_lt hc), Nat.div_eq_of_lt hc, Nat.add_zero]

theorem index_mod (hc : c < cols) : (r * cols + c) % cols = c := by
  rw [Nat.mul_comm, Nat.mul_add_mod, Nat.mod_eq_of_lt hc]

/-- Distinct places have distinct indices. -/
theorem index_inj (hc : c < cols) (hc' : c' < cols) (h : r * cols + c = r' * cols + c') :
    r = r' ∧ c = c' :=
  ⟨by rw [← index_div (r := r) hc, h, index_div hc'],
    by rw [← index_mod (r := r) hc, h, index_mod hc']⟩

theorem exists_index (h : i < rows * cols) : ∃ r c, r < rows ∧ c < cols ∧ r * cols + c = i := by
  have hcols : 0 < cols := Nat.pos_of_ne_zero fun h0 => by simp [h0] at h
  exact ⟨i / cols, i % cols, Nat.div_lt_of_lt_mul (by rwa [Nat.mul_comm]), Nat.mod_lt _ hcols,
    Nat.div_add_mod' ..⟩

section Lists

variable {T : Type*} {d : T}

/-- The value at row `r` and column `c` of a list put together row by row. -/
theorem getD_flatMap_range {row : ℕ → List T} (hrow : ∀ r < rows, (row r).length = cols)
    (hr : r < rows) (hc : c < cols) :
    ((List.range rows).flatMap row).getD (r * cols + c) d = (row r).getD c d := by
  induction rows with
  | zero => exact absurd hr (Nat.not_lt_zero _)
  | succ rows ih =>
    have hlen : ((List.range rows).flatMap row).length = rows * cols := by
      rw [List.length_flatMap, List.map_congr_left fun r hr =>
        hrow r (Nat.lt_succ_of_lt (List.mem_range.mp hr)), List.map_const', List.sum_replicate_nat,
        List.length_range]
    rw [List.range_succ, List.flatMap_append, List.flatMap_singleton]
    rcases Nat.lt_succ_iff_lt_or_eq.mp hr with hlt | rfl
    · rw [List.getD_append _ _ _ _ (hlen ▸ index_lt hlt hc),
        ih (fun r hr => hrow r (Nat.lt_succ_of_lt hr)) hlt]
    · rw [List.getD_append_right _ _ _ _ (by omega), hlen, Nat.add_sub_cancel_left]

/-- A row-major list is determined by its values. -/
theorem ext_getD {l l' : List T} (hl : l.length = rows * cols) (hl' : l'.length = rows * cols)
    (h : ∀ r c, r < rows → c < cols → l.getD (r * cols + c) d = l'.getD (r * cols + c) d) :
    l = l' := by
  refine List.ext_getElem (hl.trans hl'.symm) fun i hi hi' => ?_
  obtain ⟨r, c, hr, hc, rfl⟩ := exists_index (hl ▸ hi)
  rw [← List.getD_eq_getElem _ d, h r c hr hc, List.getD_eq_getElem]

end Lists

end RowMajor
