import Mathlib.Data.List.GetD
import Mathlib.Data.List.Rotate
import WatershedDelineation.General.Comparison

/-!
# The least rotation of a list

Among the rotations of a list one is lexicographically least (`IsLeast`), and it is the same for
all of them (`IsLeast.unique`). Comparing a list with itself from two starts is comparing two of its
rotations (`firstDifference_rotate`), so the least start is found by such comparisons
(`isLeast_rotate_bestBy`).
-/

namespace LeastRotation

open Comparison Std

variable {α : Type*} {cmp : α → α → Ordering} {l l' r r' : List α}

/-- `r` is a lexicographically least rotation of `l`. -/
def IsLeast (cmp : α → α → Ordering) (l r : List α) : Prop :=
  r.IsRotated l ∧ ∀ r', r'.IsRotated l → (List.compareLex cmp r r').isLE

/-- **The least rotation** is the same for all rotations of a list. -/
theorem IsLeast.unique [TransCmp cmp] [LawfulEqCmp cmp] (h : IsLeast cmp l r)
    (h' : IsLeast cmp l' r') (hl : l.IsRotated l') : r = r' := by
  have hle := h.2 r' (h'.1.trans hl.symm)
  have hge := h'.2 r (h.1.trans hl)
  exact LawfulEqCmp.eq_of_compare (OrientedCmp.isLE_antisymm hle hge)

theorem firstDifference_rotate (cmp : α → α → Ordering) (d : α) (l : List α) (i j : ℕ) :
    firstDifference ((List.range l.length).map fun k =>
        cmp (l.getD ((i + k) % l.length) d) (l.getD ((j + k) % l.length) d)) .eq
      = List.compareLex cmp (l.rotate i) (l.rotate j) := by
  rw [← firstDifference_zip, List.length_rotate, List.length_rotate,
    Nat.compare_eq_eq.mpr rfl]
  congr 1
  refine List.ext_getElem (by simp) fun k hk _ => ?_
  have hk : k < l.length := by simpa using hk
  have hmod : ∀ i, (i + k) % l.length < l.length := fun i => Nat.mod_lt _ (by omega)
  simp only [List.getElem_map, List.getElem_range, List.getElem_zip, List.getElem_rotate,
    List.getD_eq_getElem _ d (hmod _), Nat.add_comm k]

theorem isLeast_rotate_bestBy [TransCmp cmp] (hl : l ≠ []) :
    IsLeast cmp l
      (l.rotate (bestBy (List.compareLex cmp) l.rotate 0 (List.range' 1 (l.length - 1)))) := by
  have hpos : 0 < l.length := List.length_pos_iff.mpr hl
  have hrange : 0 :: List.range' 1 (l.length - 1) = List.range l.length := by
    obtain ⟨n, hn⟩ := Nat.exists_eq_succ_of_ne_zero hpos.ne'
    rw [hn, List.range_eq_range', Nat.succ_sub_one, List.range'_succ]
  obtain ⟨-, hle⟩ := @bestBy_spec _ (List.compareLex cmp) _ l.rotate _ 0
    (List.range' 1 (l.length - 1))
  refine ⟨List.IsRotated.symm ⟨_, rfl⟩, fun r' hr' => ?_⟩
  obtain ⟨k, rfl⟩ := hr'.symm
  rw [← List.rotate_mod l k]
  refine hle _ ?_
  rw [hrange, List.mem_range]
  exact Nat.mod_lt _ hpos

end LeastRotation
