import Mathlib.Algebra.Group.Nat.Even
import Mathlib.Algebra.Ring.Parity
import Mathlib.Data.List.Sort
import Mathlib.Order.Defs.LinearOrder
import Mathlib.Tactic.Common

/-!
# The even-odd rule on a line

A scan line is filled between the first and second crossing, the third and fourth, and so on.
For sorted crossings, an even number of them, a point lies in a filled interval exactly when
an odd number of crossings is at or before it (`exists_pair_iff`).
-/

namespace EvenOdd

variable {α : Type*}

/-- The list cut into pairs; a last element without a partner is left out. -/
def pairs : List α → List (α × α)
  | a :: b :: l => (a, b) :: pairs l
  | _ => []

theorem mem_of_mem_pairs {l : List α} {e : α × α} (h : e ∈ pairs l) : e.1 ∈ l ∧ e.2 ∈ l := by
  fun_induction pairs l with
  | case1 a b l ih =>
    rcases List.mem_cons.mp h with rfl | h
    · simp
    · exact ⟨by simp [(ih h).1], by simp [(ih h).2]⟩
  | case2 l => simp at h

/-- **The even-odd rule.** -/
theorem exists_pair_iff [LinearOrder α] {l : List α} (hsorted : l.Pairwise (· ≤ ·))
    (heven : Even l.length) (p : α) :
    (∃ e ∈ pairs l, e.1 ≤ p ∧ p < e.2) ↔ Odd (l.countP (· ≤ p)) := by
  fun_induction pairs l with
  | case1 a b l ih =>
    obtain ⟨ha, hbl⟩ := List.pairwise_cons.mp hsorted
    obtain ⟨hb, hl⟩ := List.pairwise_cons.mp hbl
    have hab : a ≤ b := ha b (by simp)
    have hlen : Even l.length := by
      rw [List.length_cons, List.length_cons, add_assoc] at heven
      exact (Nat.even_add.mp heven).mpr even_two
    rcases le_or_gt b p with hbp | hbp
    · -- the whole first pair is at or before `p`
      have hap : a ≤ p := hab.trans hbp
      rw [List.countP_cons_of_pos (by simpa), List.countP_cons_of_pos (by simpa), add_assoc,
        Nat.odd_add, iff_true_right (by decide : Even (1 + 1)), ← ih hl hlen]
      simp [hbp.not_gt]
    · -- everything after the first pair is beyond `p`
      have hnone : ∀ x ∈ l, ¬x ≤ p := fun x hx => not_le_of_gt (hbp.trans_le (hb x hx))
      have hzero : l.countP (· ≤ p) = 0 := List.countP_eq_zero.mpr (by simpa using hnone)
      have hrest : ¬∃ e ∈ pairs l, e.1 ≤ p ∧ p < e.2 := fun ⟨e, he, hle, _⟩ =>
        hnone e.1 (mem_of_mem_pairs he).1 hle
      rw [List.countP_cons, List.countP_cons_of_neg (by simpa using hbp), hzero]
      simp only [List.mem_cons, exists_eq_or_imp, hrest, or_false, hbp, and_true]
      by_cases hap : a ≤ p <;> simp [hap]
  | case2 l hl =>
    match l, hl, heven with
    | [], _, _ => simp
    | [a], _, heven => simp at heven
    | a :: b :: l, hl, _ => exact absurd rfl (hl a b l)

end EvenOdd
