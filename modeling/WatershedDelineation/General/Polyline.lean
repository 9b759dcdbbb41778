import Mathlib.Data.List.Basic
import Mathlib.Topology.MetricSpace.Pseudo.Defs

/-!
# Polylines

The length of a path through a list of points. Cutting a path at one of its points splits its
length (`length_take_add_length_drop`), and one that starts with an edge is at least as long as the
edge (`dist_le_length`).
-/

namespace Polyline

variable {α : Type*} [PseudoMetricSpace α]

/-- The length of a path. -/
noncomputable def length : List α → ℝ
  | [] => 0
  | [_] => 0
  | a :: b :: path => dist a b + length (b :: path)

@[simp] theorem length_nil : length ([] : List α) = 0 := rfl

@[simp] theorem length_singleton (a : α) : length [a] = 0 := rfl

@[simp] theorem length_cons_cons (a b : α) (path : List α) :
    length (a :: b :: path) = dist a b + length (b :: path) := rfl

theorem length_nonneg (path : List α) : 0 ≤ length path := by
  induction path using length.induct with
  | case1 => exact le_rfl
  | case2 a => exact le_rfl
  | case3 a b path ih => exact add_nonneg dist_nonneg ih

theorem dist_le_length (a b : α) (path : List α) : dist a b ≤ length (a :: b :: path) :=
  le_add_of_nonneg_right (length_nonneg _)

/-- A path through a point is a path to it and one from it. -/
theorem length_append_cons (path : List α) (a : α) (path' : List α) :
    length (path ++ a :: path') = length (path ++ [a]) + length (a :: path') := by
  induction path with
  | nil => simp
  | cons b path ih =>
    cases path with
    | nil => simp
    | cons c path =>
      change dist b c + length (c :: path ++ a :: path') = dist b c + length (c :: path ++ [a]) + _
      rw [ih, add_assoc]

/-- One more point. -/
theorem length_concat_concat (path : List α) (a b : α) :
    length (path ++ [a] ++ [b]) = length (path ++ [a]) + dist a b := by
  rw [List.append_assoc, List.singleton_append, length_append_cons]
  simp

theorem length_reverse (path : List α) : length path.reverse = length path := by
  induction path using length.induct with
  | case1 => rfl
  | case2 a => rfl
  | case3 a b path ih =>
    rw [List.reverse_cons, List.reverse_cons, length_concat_concat, ← List.reverse_cons, ih,
      length_cons_cons, dist_comm, add_comm]

/-- **Cutting a path at a point.** -/
theorem length_take_add_length_drop (path : List α) {i : ℕ} (hi : i < path.length) :
    length (path.take (i + 1)) + length (path.drop i) = length path := by
  have hsplit : path.take i ++ path[i] :: path.drop (i + 1) = path := by
    rw [← List.drop_eq_getElem_cons hi, List.take_append_drop]
  rw [List.take_succ_eq_append_getElem hi, List.drop_eq_getElem_cons hi, ← length_append_cons,
    hsplit]

end Polyline
