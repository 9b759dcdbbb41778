import Mathlib.Algebra.BigOperators.Group.List.Basic
import Mathlib.Algebra.Group.Int.Even
import Mathlib.Data.List.Rotate
import Mathlib.Tactic.Common

/-!
# Closed walks

A walk is a list of points, and `steps` is the list of its consecutive pairs. For a closed
walk, one that ends where it starts, every sum of differences along the steps vanishes
(`Closed.sum_eq_zero`), and every two-colouring of the points changes an even number of times
(`Closed.even_countP`). Polygon rings are closed walks, and both facts are used for them:
the first for winding numbers and areas, the second for scan-line crossings.
-/

namespace ClosedWalk

variable {α β : Type*}

/-- The steps of a walk: its consecutive pairs. -/
def steps (l : List α) : List (α × α) := l.zip l.tail

@[simp] theorem steps_nil : steps ([] : List α) = [] := rfl

@[simp] theorem steps_singleton (a : α) : steps [a] = [] := rfl

@[simp] theorem steps_cons_cons (a b : α) (l : List α) :
    steps (a :: b :: l) = (a, b) :: steps (b :: l) := rfl

theorem steps_map (f : α → β) (l : List α) :
    steps (l.map f) = (steps l).map (Prod.map f f) := by
  rw [steps, steps, ← List.map_tail, List.zip_map]

/-- A walk cut at one of its points. -/
theorem steps_append_cons (l : List α) (a : α) (l' : List α) :
    steps (l ++ a :: l') = steps (l ++ [a]) ++ steps (a :: l') := by
  induction l with
  | nil => rfl
  | cons x l ih =>
    cases l with
    | nil => rfl
    | cons y l => simpa using ih

/-- A walk extended by one point. -/
theorem steps_concat (l : List α) (a b : α) :
    steps (l ++ [a, b]) = steps (l ++ [a]) ++ [(a, b)] :=
  steps_append_cons l a [b]

/-- The pairs of a cycle from another start. -/
theorem zip_rotate_one (l : List α) (k : ℕ) :
    (l.rotate k).zip ((l.rotate k).rotate 1) = (l.zip (l.rotate 1)).rotate k := by
  rw [List.rotate_rotate, Nat.add_comm k 1, ← List.rotate_rotate]
  exact (List.zipWith_rotate_distrib Prod.mk l (l.rotate 1) k (by simp)).symm

theorem steps_reverse (l : List α) : steps l.reverse = ((steps l).map Prod.swap).reverse := by
  induction l with
  | nil => rfl
  | cons a l ih =>
    cases l with
    | nil => rfl
    | cons b l =>
      rw [List.reverse_cons, List.reverse_cons, List.append_assoc, List.singleton_append,
        steps_concat, ← List.reverse_cons, ih, steps_cons_cons, List.map_cons, List.reverse_cons]
      rfl

/-- What changes sign with the direction of a step changes sign with the direction of a walk. -/
theorem sum_steps_reverse {G : Type*} [AddCommGroup G] {φ : α × α → G}
    (hφ : ∀ e, φ e.swap = -φ e) (l : List α) :
    ((steps l.reverse).map φ).sum = -((steps l).map φ).sum := by
  rw [steps_reverse, List.map_reverse, List.sum_reverse, List.map_map]
  generalize steps l = es
  induction es with
  | nil => simp
  | cons e es ih =>
    rw [List.map_cons, List.sum_cons, ih, List.map_cons, List.sum_cons, Function.comp_apply, hφ]
    exact (neg_add _ _).symm

theorem mem_of_mem_steps {l : List α} {e : α × α} (h : e ∈ steps l) : e.1 ∈ l ∧ e.2 ∈ l := by
  obtain ⟨h₁, h₂⟩ := List.of_mem_zip h
  exact ⟨h₁, List.mem_of_mem_tail h₂⟩

/-- A walk leaves every point as often as it enters it, up to its two ends. -/
theorem countP_fst_steps [DecidableEq α] (v a : α) (l : List α) :
    (steps (a :: l)).countP (·.1 = v)
        + (if (a :: l).getLast (List.cons_ne_nil a l) = v then 1 else 0)
      = (steps (a :: l)).countP (·.2 = v) + (if a = v then 1 else 0) := by
  induction l generalizing a with
  | nil => rfl
  | cons b l ih =>
    rw [steps_cons_cons, List.countP_cons, List.countP_cons, List.getLast_cons_cons, add_right_comm,
      ih b]
    simp only [decide_eq_true_eq]

/-- Every point of a walk but the last starts a step. -/
theorem exists_step_of_mem {a : α} {l : List α} {b : α} (h : b ∈ a :: l) :
    (∃ c, (b, c) ∈ steps (a :: l)) ∨ b = (a :: l).getLast (List.cons_ne_nil a l) := by
  induction l generalizing a with
  | nil => exact .inr (List.mem_singleton.mp h)
  | cons a' l ih =>
    rcases List.mem_cons.mp h with rfl | h
    · exact .inl ⟨a', by simp⟩
    · rw [List.getLast_cons_cons]
      exact (ih h).imp_left fun ⟨c, hc⟩ => ⟨c, List.mem_cons_of_mem _ hc⟩

/-! ### Closed walks -/

/-- A walk that ends where it starts. -/
def Closed (l : List α) : Prop := l.head? = l.getLast?

instance [DecidableEq α] (l : List α) : Decidable (Closed l) :=
  inferInstanceAs (Decidable (_ = _))

theorem Closed.map {l : List α} (h : Closed l) (f : α → β) : Closed (l.map f) := by
  rw [Closed, List.head?_map, List.getLast?_map, h]

theorem Closed.reverse {l : List α} (h : Closed l) : Closed l.reverse := by
  rw [Closed, List.head?_reverse, List.getLast?_reverse, h]

theorem closed_cons_iff {a : α} {l : List α} :
    Closed (a :: l) ↔ (a :: l).getLast (List.cons_ne_nil a l) = a := by
  rw [Closed, List.head?_cons, List.getLast?_eq_getLast_of_ne_nil (List.cons_ne_nil a l)]
  exact ⟨fun h => (Option.some.inj h).symm, fun h => congrArg some h.symm⟩

/-- Differences along a walk telescope. -/
theorem sum_steps_cons {G : Type*} [AddCommGroup G] (φ : α → G) (a : α) (l : List α) :
    ((steps (a :: l)).map fun e => φ e.2 - φ e.1).sum
      = φ ((a :: l).getLast (List.cons_ne_nil a l)) - φ a := by
  induction l generalizing a with
  | nil => simp
  | cons b l ih =>
    rw [steps_cons_cons, List.map_cons, List.sum_cons, ih, List.getLast_cons_cons]
    exact sub_add_sub_cancel' ..

/-- Around a closed walk all differences cancel. -/
theorem Closed.sum_eq_zero {G : Type*} [AddCommGroup G] {l : List α} (h : Closed l) (φ : α → G) :
    ((steps l).map fun e => φ e.2 - φ e.1).sum = 0 := by
  cases l with
  | nil => rfl
  | cons a l => rw [sum_steps_cons, closed_cons_iff.mp h, sub_self]

/-- A walk changes colour an even number of times exactly when it ends in the colour it
started in. -/
theorem even_countP_steps_cons (p : α → Bool) (a : α) (l : List α) :
    Even ((steps (a :: l)).countP fun e => p e.1 != p e.2)
      ↔ p a = p ((a :: l).getLast (List.cons_ne_nil a l)) := by
  induction l generalizing a with
  | nil => simp
  | cons b l ih =>
    rw [steps_cons_cons, List.countP_cons, List.getLast_cons_cons]
    have hb := ih b
    cases hab : p a <;> cases hbb : p b <;> simp_all [Nat.even_add_one]

/-- Around a closed walk the colour changes an even number of times. -/
theorem Closed.even_countP {l : List α} (h : Closed l) (p : α → Bool) :
    Even ((steps l).countP fun e => p e.1 != p e.2) := by
  cases l with
  | nil => simp
  | cons a l => rw [even_countP_steps_cons, closed_cons_iff.mp h]

end ClosedWalk
