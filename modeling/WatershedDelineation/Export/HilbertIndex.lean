import WatershedDelineation.General.Checked
import WatershedDelineation.General.HilbertCurve

/-!
# The Hilbert index

The bit loop of `xy_to_hilbert_index` in `export/spatial.rs`, on words of 32 bits; a run without a
value has overflowed. From `n` bits on it computes positions on the Hilbert curve of order `n`
(`hilbertLoop_eq`), so it numbers the cells of the square along neighbours
(`hilbertLoop_curve`).
-/

namespace WatershedDelineation

open HilbertCurve

def hilbertBits : ℕ := 16

/-- The loop, with the given number of bits left. -/
def hilbertLoop : ℕ → ℕ → ℕ → ℕ → Option ℕ
  | 0, _, _, index => some index
  | bits + 1, x, y, index => do
    let half ← Checked.fit 32 (2 ^ bits)
    let quadrantArea ← Checked.mul 32 half half
    if x < half ∧ y < half then
      hilbertLoop bits y x index
    else if x < half then
      let index ← Checked.add 32 index quadrantArea
      hilbertLoop bits x (← Checked.sub y half) index
    else if half ≤ y then
      let index ← Checked.add 32 index (← Checked.mul 32 2 quadrantArea)
      hilbertLoop bits (← Checked.sub x half) (← Checked.sub y half) index
    else
      let index ← Checked.add 32 index (← Checked.mul 32 3 quadrantArea)
      let nextX ← Checked.sub (← Checked.sub half 1) y
      let nextY ← Checked.sub (← Checked.sub half 1) (← Checked.sub x half)
      hilbertLoop bits nextX nextY index

/-- The Hilbert index of a cell. -/
def xyToHilbertIndex (x y : ℕ) : Option ℕ := hilbertLoop hilbertBits x y 0

section Loop

variable {n bits x y start : ℕ}

private theorem fit_two_pow (h : bits + 1 ≤ 16) : Checked.fit 32 (2 ^ bits) = some (2 ^ bits) :=
  if_pos (Nat.pow_lt_pow_right (by decide) (by omega))

private theorem two_pow_mul_self (bits : ℕ) : 2 ^ bits * 2 ^ bits = 4 ^ bits :=
  (Nat.mul_pow 2 2 bits).symm

/-- **The loop computes positions**, and what it adds up fits as long as the last position does. -/
theorem hilbertLoop_eq (hn : n ≤ 16) (hx : x < 2 ^ n) (hy : y < 2 ^ n)
    (hstart : start + 4 ^ n ≤ 2 ^ 32) : hilbertLoop n x y start = some (start + index n x y) := by
  induction n generalizing x y start with
  | zero => rfl
  | succ n ih =>
    have hfour : 4 ^ (n + 1) = 4 * 4 ^ n := Nat.pow_succ'
    have htwo : 2 ^ (n + 1) = 2 * 2 ^ n := Nat.pow_succ'
    have hpos : 0 < 4 ^ n := Nat.pow_pos (by decide)
    rw [hfour] at hstart
    rw [htwo] at hx hy
    -- every number of the round is at most the number of cells
    have hmul : Checked.mul 32 (2 ^ n) (2 ^ n) = some (4 ^ n) := by
      rw [Checked.mul_of_lt (by rw [two_pow_mul_self]; omega), two_pow_mul_self]
    rw [hilbertLoop, fit_two_pow hn, Option.bind_eq_bind, Option.bind_some, hmul,
      Option.bind_some, index]
    split_ifs with hlow hleft hright
    · rw [ih (by omega) hlow.2 hlow.1 (by omega)]
    · rw [Checked.add_of_lt (by omega), Option.bind_some, Checked.sub_of_le (by omega),
        Option.bind_some, ih (by omega) hleft (by omega) (by omega), Nat.add_assoc]
    · rw [Checked.mul_of_lt (by omega), Option.bind_some, Checked.add_of_lt (by omega),
        Option.bind_some, Checked.sub_of_le (by omega), Option.bind_some,
        Checked.sub_of_le (by omega), Option.bind_some,
        ih (by omega) (by omega) (by omega) (by omega), Nat.add_assoc]
    · rw [Checked.mul_of_lt (by omega), Option.bind_some, Checked.add_of_lt (by omega),
        Option.bind_some, Checked.sub_of_le (a := 2 ^ n) (b := 1) (by omega), Option.bind_some,
        Checked.sub_of_le (by omega), Option.bind_some, Option.bind_some,
        Checked.sub_of_le (by omega), Option.bind_some, Checked.sub_of_le (by omega),
        Option.bind_some, ih (by omega) (by omega) (by omega) (by omega), Nat.add_assoc]

/-- Started at an order up to 16, the loop does not overflow. -/
theorem hilbertLoop_zero_eq (hn : n ≤ 16) {p : ℕ × ℕ} (hp : InSquare (2 ^ n) p) :
    hilbertLoop n p.1 p.2 0 = some (index n p.1 p.2) := by
  have hpow : 4 ^ n ≤ 4 ^ 16 := Nat.pow_le_pow_right (by decide) hn
  rw [hilbertLoop_eq hn hp.1 hp.2 (by omega), Nat.zero_add]

/-- **The Hilbert index** numbers the cells of the square along neighbours. -/
theorem hilbertLoop_curve (hn : n ≤ 16) :
    (∀ p, InSquare (2 ^ n) p → ∃ d < 4 ^ n, hilbertLoop n p.1 p.2 0 = some d) ∧
      (∀ d < 4 ^ n, ∃! p, InSquare (2 ^ n) p ∧ hilbertLoop n p.1 p.2 0 = some d) ∧
      ∀ d p q, InSquare (2 ^ n) p → InSquare (2 ^ n) q → hilbertLoop n p.1 p.2 0 = some d →
        hilbertLoop n q.1 q.2 0 = some (d + 1) → ShareEdge p q := by
  refine ⟨fun p hp => ?_, fun d hd => ?_, fun d p q hp hq hpd hqd => ?_⟩
  · exact ⟨index n p.1 p.2, index_lt hp, hilbertLoop_zero_eq hn hp⟩
  · refine ⟨cell n d, ⟨inSquare_cell hd, ?_⟩, fun p hp => ?_⟩
    · rw [hilbertLoop_zero_eq hn (inSquare_cell hd), index_cell hd]
    · have hindex := hp.2
      rw [hilbertLoop_zero_eq hn hp.1] at hindex
      rw [← Option.some.inj hindex, cell_index hp.1]
  · rw [hilbertLoop_zero_eq hn hp] at hpd
    rw [hilbertLoop_zero_eq hn hq] at hqd
    have hpd := Option.some.inj hpd
    have hqd := Option.some.inj hqd
    have hlt : d + 1 < 4 ^ n := by
      rw [← hqd]
      exact index_lt hq
    have hshare := shareEdge_cell_succ hlt
    rwa [← hqd, cell_index hq, ← hpd, cell_index hp] at hshare

/-- The curve of the full square. -/
theorem hilbertLoop_curve_sixteen :
    (∀ p, InSquare (2 ^ 16) p → ∃ d < 4 ^ 16, hilbertLoop 16 p.1 p.2 0 = some d) ∧
      (∀ d < 4 ^ 16, ∃! p, InSquare (2 ^ 16) p ∧ hilbertLoop 16 p.1 p.2 0 = some d) ∧
      ∀ d p q, InSquare (2 ^ 16) p → InSquare (2 ^ 16) q → hilbertLoop 16 p.1 p.2 0 = some d →
        hilbertLoop 16 q.1 q.2 0 = some (d + 1) → ShareEdge p q :=
  hilbertLoop_curve (Nat.le_refl 16)

end Loop

end WatershedDelineation
