import Mathlib.Order.Lattice
import Mathlib.Tactic.Common

/-!
# Minima under a comparison function

`minBy` of an iterator: the first of the smallest elements of a list. When the comparison is
that of a key in a linear order, the result has the least key (`minBy_spec`).
-/

namespace MinBy

variable {α κ : Type*}

/-- The smaller of two elements; the first one where neither is greater. -/
def minOf (cmp : α → α → Ordering) (a b : α) : α := if cmp a b = .gt then b else a

/-- The first smallest element of a list. -/
def minBy (cmp : α → α → Ordering) : List α → Option α
  | [] => none
  | a :: l => some (l.foldl (minOf cmp) a)

theorem minBy_eq_none_iff {cmp : α → α → Ordering} {l : List α} : minBy cmp l = none ↔ l = [] := by
  cases l <;> simp [minBy]

/-- Minima of images are images of minima. -/
theorem minBy_map {β : Type*} {cmp : α → α → Ordering} (f : β → α) (l : List β) :
    minBy cmp (l.map f) = (minBy (fun a b => cmp (f a) (f b)) l).map f := by
  cases l with
  | nil => rfl
  | cons a l =>
    rw [List.map_cons, minBy, minBy, Option.map_some, List.foldl_map]
    refine congrArg some (List.foldl_hom f fun a b => ?_)
    exact (apply_ite f _ _ _).symm

variable [LinearOrder κ] {cmp : α → α → Ordering} {key : α → κ}

private theorem foldl_spec (hcmp : ∀ a b, cmp a b = .gt ↔ key b < key a) (a : α) (l : List α) :
    l.foldl (minOf cmp) a ∈ a :: l ∧ ∀ b ∈ a :: l, key (l.foldl (minOf cmp) a) ≤ key b := by
  induction l generalizing a with
  | nil => simp
  | cons b l ih =>
    obtain ⟨hmem, hle⟩ := ih (minOf cmp a b)
    have hmin : (minOf cmp a b = a ∨ minOf cmp a b = b) ∧
        key (minOf cmp a b) ≤ key a ∧ key (minOf cmp a b) ≤ key b := by
      simp only [minOf, hcmp]
      split_ifs with hlt
      · exact ⟨.inr rfl, hlt.le, le_rfl⟩
      · exact ⟨.inl rfl, le_rfl, not_lt.mp hlt⟩
    have hfirst := hle _ List.mem_cons_self
    rw [List.foldl_cons]
    refine ⟨?_, fun c hc => ?_⟩
    · rcases List.mem_cons.mp hmem with heq | hmem
      · rw [heq]
        rcases hmin.1 with hab | hab <;> simp [hab]
      · exact List.mem_cons_of_mem _ (List.mem_cons_of_mem _ hmem)
    · rcases List.mem_cons.mp hc with rfl | hc
      · exact hfirst.trans hmin.2.1
      · rcases List.mem_cons.mp hc with rfl | hc
        · exact hfirst.trans hmin.2.2
        · exact hle c (List.mem_cons_of_mem _ hc)

/-- **The minimum** is in the list, and has the least key. -/
theorem minBy_spec (hcmp : ∀ a b, cmp a b = .gt ↔ key b < key a) {a : α} {l : List α}
    (h : minBy cmp l = some a) : a ∈ l ∧ ∀ b ∈ l, key a ≤ key b := by
  match l, h with
  | _ :: _, h =>
    obtain rfl := Option.some.inj h
    exact foldl_spec hcmp _ _

/-- The minimum does not depend on the order of elements with distinct keys. -/
theorem minBy_eq_of_perm (hcmp : ∀ a b, cmp a b = .gt ↔ key b < key a) {l l' : List α}
    (hkey : ∀ a ∈ l, ∀ b ∈ l, key a = key b → a = b) (h : l.Perm l') :
    minBy cmp l = minBy cmp l' := by
  cases hmin : minBy cmp l with
  | none =>
    rw [minBy_eq_none_iff.mp hmin, List.nil_perm] at h
    rw [h]
    rfl
  | some a =>
    cases hmin' : minBy cmp l' with
    | none =>
      rw [minBy_eq_none_iff.mp hmin', List.perm_nil] at h
      rw [h] at hmin
      exact absurd hmin (by simp [minBy])
    | some b =>
      obtain ⟨ha, hle⟩ := minBy_spec hcmp hmin
      obtain ⟨hb, hle'⟩ := minBy_spec hcmp hmin'
      have hab := le_antisymm (hle b (h.mem_iff.mpr hb)) (hle' a (h.mem_iff.mp ha))
      rw [hkey a ha b (h.mem_iff.mpr hb) hab]

end MinBy
