import Mathlib.Algebra.Group.Nat.Defs
import Mathlib.Algebra.Order.Group.Int
import WatershedDelineation.General.FuelLoop

/-!
# Checked arithmetic

Unsigned machine arithmetic on natural numbers: an operation on words of `w` bits has no value
when its result does not fit. `Checked.orPanic` is a plain operator, which panics then,
`Checked.orErr` one whose caller returns an error instead.

A value of a signed word of `w + 1` bits lies in `SignedWord.Fits w`. Checked operations on these
have no value when their result does not fit (`SignedWord.fit`), and a conversion from a wider range
takes the nearest value that fits (`SignedWord.saturate`).
-/

namespace Checked

variable {α ε : Type}

/-- Addition of words of `w` bits. -/
def add (w a b : ℕ) : Option ℕ := if a + b < 2 ^ w then some (a + b) else none

/-- Subtraction of words. -/
def sub (a b : ℕ) : Option ℕ := if b ≤ a then some (a - b) else none

/-- Multiplication of words of `w` bits. -/
def mul (w a b : ℕ) : Option ℕ := if a * b < 2 ^ w then some (a * b) else none

/-- Division of words that rounds up. -/
def divCeil (a b : ℕ) : Option ℕ := if b = 0 then none else some ((a + b - 1) / b)

/-- Division of words that rounds down. -/
def div (a b : ℕ) : Option ℕ := if b = 0 then none else some (a / b)

/-- The remainder of a division of words. -/
def mod (a b : ℕ) : Option ℕ := if b = 0 then none else some (a % b)

/-- Conversion to a word of `w` bits. -/
def fit (w a : ℕ) : Option ℕ := if a < 2 ^ w then some a else none

/-- A slice of a list. -/
def slice (l : List α) (start stop : ℕ) : Option (List α) :=
  if start ≤ stop ∧ stop ≤ l.length then some ((l.drop start).take (stop - start)) else none

/-- The value, or a panic. -/
def orPanic : Option α → Except (Fault ε) α
  | none => .error .panic
  | some a => .ok a

/-- The value, or an error. -/
def orErr (x : Option α) (e : ε) : Except (Fault ε) α :=
  match x with
  | none => .error (.err e)
  | some a => .ok a

/-- An early return with an error. -/
def rejectIf (p : Prop) [Decidable p] (e : ε) : Except (Fault ε) Unit :=
  if p then .error (.err e) else .ok ()

section Lemmas

variable {w a b c : ℕ} {x : Option α} {e : ε}

theorem add_of_lt (h : a + b < 2 ^ w) : add w a b = some (a + b) := if_pos h

theorem sub_of_le (h : b ≤ a) : sub a b = some (a - b) := if_pos h

theorem mul_of_lt (h : a * b < 2 ^ w) : mul w a b = some (a * b) := if_pos h

theorem add_eq_some_iff : add w a b = some c ↔ a + b < 2 ^ w ∧ a + b = c := by
  rw [add, Option.ite_none_right_eq_some, Option.some.injEq]

theorem sub_eq_some_iff : sub a b = some c ↔ b ≤ a ∧ a - b = c := by
  rw [sub, Option.ite_none_right_eq_some, Option.some.injEq]

theorem mul_eq_some_iff : mul w a b = some c ↔ a * b < 2 ^ w ∧ a * b = c := by
  rw [mul, Option.ite_none_right_eq_some, Option.some.injEq]

theorem divCeil_of_pos (h : 0 < b) : divCeil a b = some ((a + b - 1) / b) :=
  if_neg (Nat.ne_of_gt h)

theorem div_of_pos (h : 0 < b) : div a b = some (a / b) := if_neg (Nat.ne_of_gt h)

theorem mod_of_pos (h : 0 < b) : mod a b = some (a % b) := if_neg (Nat.ne_of_gt h)

theorem slice_of_le {l : List α} (hab : a ≤ b) (hb : b ≤ l.length) :
    slice l a b = some ((l.drop a).take (b - a)) := if_pos ⟨hab, hb⟩

theorem length_of_slice {l s : List α} (h : slice l a b = some s) : s.length = b - a := by
  rw [slice, Option.ite_none_right_eq_some, Option.some.injEq] at h
  obtain ⟨⟨hab, hb⟩, rfl⟩ := h
  rw [List.length_take, List.length_drop]
  omega

@[simp] theorem orPanic_some (a : α) : (orPanic (some a) : Except (Fault ε) α) = .ok a := rfl

@[simp] theorem orErr_some (a : α) (e : ε) : orErr (some a) e = .ok a := rfl

theorem orErr_eq_ok_iff {a : α} : orErr x e = .ok a ↔ x = some a := by
  cases x <;> simp [orErr]

theorem orPanic_eq_ok_iff {a : α} :
    (orPanic x : Except (Fault ε) α) = .ok a ↔ x = some a := by
  cases x <;> simp [orPanic]

theorem rejectIf_eq_ok_iff {p : Prop} [Decidable p] {u : Unit} :
    rejectIf p e = .ok u ↔ ¬p := by
  rw [rejectIf]
  split_ifs with h <;> simp [h]

theorem returns_rejectIf {p : Prop} [Decidable p] : Fault.Returns (rejectIf p e) := by
  rw [rejectIf]
  split_ifs
  · exact Fault.returns_err e
  · exact Fault.returns_ok ()

theorem returns_orErr : Fault.Returns (orErr x e) := by
  cases x with
  | none => exact Fault.returns_err e
  | some a => exact Fault.returns_ok a

theorem ensures_orErr : Fault.Ensures (orErr x e) fun a => x = some a :=
  ⟨returns_orErr, fun _ => orErr_eq_ok_iff.mp⟩

theorem ensures_orPanic {a : α} (h : x = some a) :
    Fault.Ensures (orPanic x : Except (Fault ε) α) fun b => a = b := by
  subst h
  exact Fault.ensures_ok rfl

theorem ensures_rejectIf {p : Prop} [Decidable p] : Fault.Ensures (rejectIf p e) fun _ => ¬p :=
  ⟨returns_rejectIf, fun _ => rejectIf_eq_ok_iff.mp⟩

end Lemmas

end Checked

namespace SignedWord

/-- The values of a signed word of `w + 1` bits. -/
def Fits (w : ℕ) (z : ℤ) : Prop := -2 ^ w ≤ z ∧ z < 2 ^ w

instance (w : ℕ) (z : ℤ) : Decidable (Fits w z) := inferInstanceAs (Decidable (_ ∧ _))

/-- The result of a checked operation. -/
def fit (w : ℕ) (z : ℤ) : Option ℤ := if Fits w z then some z else none

/-- The nearest value that fits. -/
def saturate (w : ℕ) (z : ℤ) : ℤ := max (-2 ^ w) (min z (2 ^ w - 1))

variable {w : ℕ} {z : ℤ}

theorem saturate_of_fits (h : Fits w z) : saturate w z = z := by
  rw [saturate, min_eq_left (Int.le_sub_one_of_lt h.2), max_eq_right h.1]

end SignedWord
