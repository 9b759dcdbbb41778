import Mathlib.Algebra.Order.Field.Power
import Mathlib.Algebra.Order.Floor.Ring
import Mathlib.Data.Int.Log
import Mathlib.Data.Rat.Floor
import Mathlib.Order.Monotone.Basic
import Mathlib.Tactic.Linarith
import Mathlib.Tactic.Positivity

/-!
# Binary floating point formats

A binary format has significands of `p` bits after the leading one, and exponents from `emin` on.
Its magnitudes are the natural numbers whose low `p` bits are the significand and whose other bits
are the exponent, and `value` is the number a magnitude stands for.

Values are strictly increasing in the magnitudes (`strictMono_value`). A positive number lies
between the values of two neighbouring magnitudes, the lower of which is `floorMagnitude`
(`value_floorMagnitude_le`, `lt_value_floorMagnitude_succ`). The units in which it is counted are
those of its own exponent, so that multiples of them are values themselves
(`value_floorMagnitude_eq`).
-/

namespace BinaryFormat

variable (p : ℕ) (emin : ℤ)

/-- The number that a magnitude stands for. -/
def value (m : ℕ) : ℚ :=
  if m / 2 ^ p = 0 then (m % 2 ^ p : ℕ) * 2 ^ (emin - p)
  else (2 ^ p + (m % 2 ^ p : ℕ)) * 2 ^ (((m / 2 ^ p : ℕ) : ℤ) - 1 + emin - p)

/-- The exponent of a positive number. -/
def exponentOf (q : ℚ) : ℤ := max (Int.log 2 q) emin

/-- A number in units of its last place. -/
def unitsOf (q : ℚ) : ℚ := q / 2 ^ (exponentOf emin q - p)

/-- The magnitude of the largest value that is not above a positive number. -/
def floorMagnitude (q : ℚ) : ℕ :=
  ((exponentOf emin q - emin) * 2 ^ p + ⌊unitsOf p emin q⌋).toNat

variable {p : ℕ} {emin : ℤ}

/-! ### Values -/

/-- The value of a number of units at an exponent. -/
theorem value_units {k u : ℕ} (hu : u ≤ 2 ^ (p + 1)) (hk : k = 0 ∨ 2 ^ p ≤ u) :
    value p emin (k * 2 ^ p + u) = u * 2 ^ (k + emin - p) := by
  have hpos : 0 < 2 ^ p := Nat.two_pow_pos p
  rw [Nat.pow_succ'] at hu
  rcases Nat.lt_or_ge u (2 ^ p) with hlt | hge
  · -- a subnormal number
    obtain rfl : k = 0 := hk.resolve_right (by omega)
    rw [value, Nat.zero_mul, Nat.zero_add, Nat.div_eq_of_lt hlt, Nat.mod_eq_of_lt hlt, if_pos rfl,
      Nat.cast_zero, zero_add]
  rcases Nat.lt_or_ge u (2 * 2 ^ p) with hlt | hge'
  · obtain ⟨s, rfl⟩ := Nat.exists_eq_add_of_le hge
    have hs : s < 2 ^ p := by omega
    have hm : k * 2 ^ p + (2 ^ p + s) = (k + 1) * 2 ^ p + s := by rw [Nat.succ_mul, Nat.add_assoc]
    rw [hm, value, Nat.mul_add_mod_of_lt hs, Nat.mul_comm (k + 1), Nat.mul_add_div hpos,
      Nat.div_eq_of_lt hs, Nat.add_zero, if_neg (Nat.succ_ne_zero k)]
    push_cast
    rw [add_sub_cancel_right]
  · -- the carry into the next exponent
    obtain rfl : u = 2 * 2 ^ p := by omega
    have hm : k * 2 ^ p + 2 * 2 ^ p = (k + 2) * 2 ^ p := (Nat.add_mul k 2 _).symm
    rw [hm, value, Nat.mul_mod_left, Nat.mul_div_cancel _ hpos, if_neg (Nat.succ_ne_zero _)]
    have hexp : ((k + 2 : ℕ) : ℤ) - 1 + emin - p = 1 + (k + emin - p) := by push_cast; ring
    rw [hexp, zpow_add₀ two_ne_zero, zpow_one]
    push_cast
    ring

/-- Every magnitude is a number of units at an exponent. -/
theorem exists_units (p m : ℕ) :
    ∃ k u : ℕ, m = k * 2 ^ p + u ∧ u < 2 ^ (p + 1) ∧ (k = 0 ∨ 2 ^ p ≤ u) := by
  have hpos : 0 < 2 ^ p := Nat.two_pow_pos p
  have hmod := Nat.mod_lt m hpos
  have hdiv := Nat.div_add_mod' m (2 ^ p)
  rw [Nat.pow_succ']
  rcases hq : m / 2 ^ p with _ | k
  · exact ⟨0, m, by omega, by rw [hq] at hdiv; omega, .inl rfl⟩
  · rw [hq, Nat.succ_mul] at hdiv
    exact ⟨k, 2 ^ p + m % 2 ^ p, by omega, by omega, .inr (Nat.le_add_right _ _)⟩

/-- **Larger magnitudes have larger values.** -/
theorem strictMono_value (p : ℕ) (emin : ℤ) : StrictMono (value p emin) := by
  refine strictMono_nat_of_lt_succ fun m => ?_
  obtain ⟨k, u, rfl, hu, hk⟩ := exists_units p m
  rw [Nat.add_assoc, value_units hu.le hk, value_units hu (hk.imp_right Nat.le_succ_of_le)]
  refine mul_lt_mul_of_pos_right ?_ (by positivity)
  exact_mod_cast Nat.lt_succ_self u

@[simp] theorem value_zero : value p emin 0 = 0 := by
  simp [value]

theorem value_nonneg (m : ℕ) : 0 ≤ value p emin m := by
  rw [← value_zero (p := p)]
  exact (strictMono_value p emin).monotone (Nat.zero_le m)

/-! ### Signed values -/

/-- A function of magnitudes, on signed magnitudes. -/
def signed (f : ℕ → ℚ) (k : ℤ) : ℚ := if k < 0 then -f k.natAbs else f k.natAbs

/-- What is increasing on magnitudes from zero on is increasing on signed ones. -/
theorem signed_lt_signed {f : ℕ → ℚ} {bound : ℕ} (hzero : f 0 = 0)
    (hf : ∀ a b, a < b → b ≤ bound → f a < f b) {a b : ℤ} (hab : a < b) (ha : a.natAbs ≤ bound)
    (hb : b.natAbs ≤ bound) : signed f a < signed f b := by
  have hpos : ∀ m, 0 < m → m ≤ bound → 0 < f m := fun m hm hle => hzero ▸ hf 0 m hm hle
  have hnonneg : ∀ m, m ≤ bound → 0 ≤ f m := fun m hle => by
    rcases Nat.eq_zero_or_pos m with rfl | hm
    · exact hzero.ge
    · exact (hpos m hm hle).le
  rw [signed, signed]
  split_ifs with hneg hneg' hneg'
  · exact neg_lt_neg (hf _ _ (by omega) ha)
  · have := hpos a.natAbs (by omega) ha
    have := hnonneg b.natAbs hb
    linarith
  · omega
  · exact hf _ _ (by omega) hb

/-! ### Positive numbers -/

section Floor

variable {q : ℚ}

theorem emin_le_exponentOf : emin ≤ exponentOf emin q := le_max_right _ _

theorem unitsOf_nonneg (hq : 0 < q) : 0 ≤ unitsOf p emin q := by
  rw [unitsOf]
  positivity

theorem unitsOf_mul : unitsOf p emin q * 2 ^ (exponentOf emin q - p) = q :=
  div_mul_cancel₀ q (by positivity)

/-- A number has fewer units than fit in the significand and its leading one. -/
theorem unitsOf_lt : unitsOf p emin q < 2 ^ (p + 1) := by
  have hlog : q < 2 ^ (Int.log 2 q + 1) := by
    exact_mod_cast Int.lt_zpow_succ_log_self (b := 2) Nat.one_lt_two q
  have hle : (2 : ℚ) ^ (Int.log 2 q + 1) ≤ 2 ^ (exponentOf emin q + 1) :=
    zpow_le_zpow_right₀ one_le_two (by rw [exponentOf]; omega)
  have hexp : (2 : ℚ) ^ (exponentOf emin q + 1) = 2 ^ (p + 1) * 2 ^ (exponentOf emin q - p) := by
    rw [← zpow_natCast, ← zpow_add₀ two_ne_zero]
    congr 1
    push_cast
    ring
  rw [unitsOf, div_lt_iff₀ (by positivity), ← hexp]
  exact lt_of_lt_of_le hlog hle

/-- A number that is not subnormal has its leading one. -/
theorem le_unitsOf (hq : 0 < q) (h : emin < exponentOf emin q) : 2 ^ p ≤ unitsOf p emin q := by
  have hlog : exponentOf emin q = Int.log 2 q := by
    rw [exponentOf] at h ⊢
    omega
  have hle : (2 : ℚ) ^ (Int.log 2 q) ≤ q := by
    exact_mod_cast Int.zpow_log_le_self (b := 2) Nat.one_lt_two hq
  have hexp : (2 : ℚ) ^ (p : ℤ) * 2 ^ (Int.log 2 q - p) = 2 ^ Int.log 2 q := by
    rw [← zpow_add₀ two_ne_zero]
    congr 1
    ring
  rw [unitsOf, hlog, le_div_iff₀ (by positivity), ← zpow_natCast, hexp]
  exact hle

/-- The floor of a number, in natural numbers. -/
theorem exists_floorMagnitude (hq : 0 < q) : ∃ k u : ℕ, (k : ℤ) = exponentOf emin q - emin ∧
    (u : ℤ) = ⌊unitsOf p emin q⌋ ∧ floorMagnitude p emin q = k * 2 ^ p + u ∧ u < 2 ^ (p + 1) ∧
    (k = 0 ∨ 2 ^ p ≤ u) := by
  obtain ⟨k, hk⟩ := Int.eq_ofNat_of_zero_le (sub_nonneg.mpr (emin_le_exponentOf (q := q)))
  obtain ⟨u, hu⟩ := Int.eq_ofNat_of_zero_le (Int.floor_nonneg.mpr (unitsOf_nonneg (p := p) hq))
  refine ⟨k, u, hk.symm, hu.symm, ?_, ?_, ?_⟩
  · rw [floorMagnitude, hk, hu]
    exact_mod_cast Int.toNat_natCast _
  · have hlt : ⌊unitsOf p emin q⌋ < 2 ^ (p + 1) :=
      Int.floor_lt.mpr (by exact_mod_cast unitsOf_lt)
    rw [hu] at hlt
    exact_mod_cast hlt
  · rcases Nat.eq_zero_or_pos k with hzero | hpos
    · exact .inl hzero
    · refine .inr ?_
      have hle : 2 ^ p ≤ ⌊unitsOf p emin q⌋ :=
        Int.le_floor.mpr (by exact_mod_cast le_unitsOf hq (by omega))
      rw [hu] at hle
      exact_mod_cast hle

private theorem zpow_exponentOf {k : ℕ} (hk : (k : ℤ) = exponentOf emin q - emin) :
    (2 : ℚ) ^ ((k : ℤ) + emin - p) = 2 ^ (exponentOf emin q - p) := by
  rw [hk, sub_add_cancel]

/-- The value of the floor is the number of whole units. -/
theorem value_floorMagnitude (hq : 0 < q) : value p emin (floorMagnitude p emin q)
    = ⌊unitsOf p emin q⌋ * 2 ^ (exponentOf emin q - p) := by
  obtain ⟨k, u, hk, hu, heq, hlt, hor⟩ := exists_floorMagnitude (p := p) hq
  rw [heq, value_units hlt.le hor, zpow_exponentOf hk, ← hu, Int.cast_natCast]

theorem value_floorMagnitude_succ (hq : 0 < q) : value p emin (floorMagnitude p emin q + 1)
    = (⌊unitsOf p emin q⌋ + 1) * 2 ^ (exponentOf emin q - p) := by
  obtain ⟨k, u, hk, hu, heq, hlt, hor⟩ := exists_floorMagnitude (p := p) hq
  rw [heq, Nat.add_assoc, value_units hlt (hor.imp_right Nat.le_succ_of_le), zpow_exponentOf hk,
    ← hu, Int.cast_natCast, Nat.cast_succ]

theorem value_floorMagnitude_le (hq : 0 < q) : value p emin (floorMagnitude p emin q) ≤ q := by
  calc value p emin (floorMagnitude p emin q)
      = ⌊unitsOf p emin q⌋ * 2 ^ (exponentOf emin q - p) := value_floorMagnitude hq
    _ ≤ unitsOf p emin q * 2 ^ (exponentOf emin q - p) :=
        mul_le_mul_of_nonneg_right (Int.floor_le _) (by positivity)
    _ = q := unitsOf_mul

theorem lt_value_floorMagnitude_succ (hq : 0 < q) :
    q < value p emin (floorMagnitude p emin q + 1) := by
  calc q = unitsOf p emin q * 2 ^ (exponentOf emin q - p) := unitsOf_mul.symm
    _ < (⌊unitsOf p emin q⌋ + 1) * 2 ^ (exponentOf emin q - p) :=
        mul_lt_mul_of_pos_right (Int.lt_floor_add_one _) (by positivity)
    _ = value p emin (floorMagnitude p emin q + 1) := (value_floorMagnitude_succ hq).symm

/-- The floor of a value is exact, and there are no units besides the whole ones. -/
theorem unitsOf_eq_floor (hq : 0 < q) (h : value p emin (floorMagnitude p emin q) = q) :
    unitsOf p emin q = ⌊unitsOf p emin q⌋ := by
  rw [value_floorMagnitude hq] at h
  have hpos : (2 : ℚ) ^ (exponentOf emin q - p) ≠ 0 := by positivity
  exact (mul_right_cancel₀ hpos (h.trans unitsOf_mul.symm)).symm

/-- Rounding the units up or down gives the floor or the next magnitude. -/
theorem toNat_eq (hq : 0 < q) {units : ℤ}
    (hunits : units = ⌊unitsOf p emin q⌋ ∨ units = ⌊unitsOf p emin q⌋ + 1) :
    ((exponentOf emin q - emin) * 2 ^ p + units).toNat
      = floorMagnitude p emin q + if units = ⌊unitsOf p emin q⌋ then 0 else 1 := by
  obtain ⟨k, u, hk, hu, heq, -, -⟩ := exists_floorMagnitude (p := p) hq
  rw [heq, ← hk, ← hu]
  rw [← hu] at hunits
  have hcast : ((k : ℤ) * 2 ^ p + units).toNat = k * 2 ^ p + units.toNat := by
    rcases hunits with rfl | rfl
    · exact_mod_cast Int.toNat_natCast _
    · exact_mod_cast Int.toNat_natCast _
  rw [hcast, Nat.add_assoc]
  split_ifs with h <;> omega

/-- A multiple of a power of two that is not below its units is a value. -/
theorem value_floorMagnitude_eq {a : ℕ} {b : ℤ} (hq : 0 < (a * 2 ^ b : ℚ))
    (hb : exponentOf emin (a * 2 ^ b) - p ≤ b) :
    value p emin (floorMagnitude p emin (a * 2 ^ b)) = a * 2 ^ b := by
  obtain ⟨k, hk⟩ := Int.eq_ofNat_of_zero_le (sub_nonneg.mpr hb)
  have hunits : unitsOf p emin (a * 2 ^ b) = ((a * 2 ^ k : ℕ) : ℤ) := by
    rw [unitsOf, div_eq_iff (by positivity)]
    push_cast
    rw [mul_assoc, ← zpow_natCast, ← zpow_add₀ two_ne_zero, ← hk, sub_add_cancel]
  rw [value_floorMagnitude hq, hunits, Int.floor_intCast, ← hunits, unitsOf_mul]

end Floor

end BinaryFormat
