import WatershedDelineation.General.Binary64
import WatershedDelineation.General.BinaryFormat

/-!
# Conversions between the binary formats

The conversion of words of 64 bits to single precision, to nearest and ties to even (`ofBinary64`),
and the exact conversion back (`toBinary64`).

A finite double lies between two neighbouring singles, it is converted to one of them, and to the
one it is equal to if there is one (`exists_bracket`). Infinities take part as the first numbers
that are too large for the format of doubles, which makes every comparison with a finite double
right (`wideValue`).
-/

namespace F32

open BinaryFormat

/-- The conversion of a double; what is too large becomes an infinity. -/
def ofBinary64 (x : BitVec 64) : F32 :=
  if Binary64.isNaN x then nan
  else if Binary64.isInf x then mk' x.msb infMagnitude
  else mk' x.msb (roundMagnitude |Binary64.toRat x|)

/-- The magnitude of a double for a magnitude of a single that is not a NaN. -/
def wideMagnitude (m : ℕ) : ℕ :=
  if m = infMagnitude then Binary64.infMagnitude
  else Binary64.roundMagnitude (value 23 (-126) m)

/-- The conversion to a double. -/
def toBinary64 (x : F32) : BitVec 64 :=
  if x.isNaN then Binary64.nan else Binary64.mk' x.sign (wideMagnitude x.magnitude)

/-! ### Rounding -/

theorem roundTiesEven_cases (q : ℚ) : roundTiesEven q = ⌊q⌋ ∨ roundTiesEven q = ⌊q⌋ + 1 := by
  simp only [roundTiesEven]
  split_ifs <;> simp

theorem roundTiesEven_of_eq_floor {q : ℚ} (h : q = ⌊q⌋) : roundTiesEven q = ⌊q⌋ := by
  have hlt : q - ⌊q⌋ < 1 / 2 := by
    rw [← h, sub_self]
    exact one_half_pos
  simp only [roundTiesEven, if_pos hlt]

/-- The magnitude nearest to a positive number, without a bound. -/
def nearestMagnitude (p : ℕ) (emin : ℤ) (q : ℚ) : ℕ :=
  ((exponentOf emin q - emin) * 2 ^ p + roundTiesEven (unitsOf p emin q)).toNat

section Nearest

variable {p : ℕ} {emin : ℤ} {q : ℚ}

/-- Rounding gives the floor or the next magnitude. -/
theorem nearestMagnitude_cases (hq : 0 < q) :
    nearestMagnitude p emin q = floorMagnitude p emin q ∨
      nearestMagnitude p emin q = floorMagnitude p emin q + 1 := by
  rw [nearestMagnitude, toNat_eq hq (roundTiesEven_cases _)]
  split_ifs
  · exact .inl rfl
  · exact .inr rfl

/-- Rounding leaves values as they are. -/
theorem nearestMagnitude_of_exact (hq : 0 < q) (h : value p emin (floorMagnitude p emin q) = q) :
    nearestMagnitude p emin q = floorMagnitude p emin q := by
  have hround := roundTiesEven_of_eq_floor (unitsOf_eq_floor hq h)
  rw [nearestMagnitude, toNat_eq hq (.inl hround), if_pos hround, Nat.add_zero]

theorem roundMagnitude_eq (hq : 0 < q) :
    roundMagnitude q = min (nearestMagnitude 23 (-126) q) infMagnitude := by
  have htoNat : ((max (Int.log 2 q) (-126) + 126) * 2 ^ 23
      + roundTiesEven (q / 2 ^ (max (Int.log 2 q) (-126) - 23))).toNat
        = nearestMagnitude 23 (-126) q := by
    rw [nearestMagnitude, sub_neg_eq_add]
    rfl
  rw [roundMagnitude, if_neg hq.ne', ← htoNat]

theorem roundMagnitude_eq_binary64 (hq : 0 < q) :
    Binary64.roundMagnitude q = min (nearestMagnitude 52 (-1022) q) Binary64.infMagnitude := by
  have htoNat : ((max (Int.log 2 q) (-1022) + 1022) * 2 ^ 52
      + roundTiesEven (q / 2 ^ (max (Int.log 2 q) (-1022) - 52))).toNat
        = nearestMagnitude 52 (-1022) q := by
    rw [nearestMagnitude, sub_neg_eq_add]
    rfl
  rw [Binary64.roundMagnitude, if_neg hq.ne', ← htoNat]

end Nearest

/-! ### The values of singles -/

theorem value_infMagnitude : value 23 (-126) infMagnitude = 2 ^ 128 := by
  rw [value, infMagnitude]
  norm_num

theorem value_infMagnitude_binary64 : value 52 (-1022) Binary64.infMagnitude = 2 ^ 1024 := by
  have heq : Binary64.infMagnitude = 2046 * 2 ^ 52 + 2 ^ 52 := by decide
  rw [heq, value_units (by decide) (.inr (Nat.le_refl _)), Nat.cast_pow, Nat.cast_ofNat,
    ← zpow_natCast, ← zpow_natCast, ← zpow_add₀ two_ne_zero]
  rfl

theorem value_lt_of_lt_infMagnitude {m : ℕ} (h : m < infMagnitude) :
    value 23 (-126) m < 2 ^ 128 :=
  value_infMagnitude ▸ strictMono_value 23 (-126) h

private theorem pow_le_pow_binary64 : (2 : ℚ) ^ 128 ≤ 2 ^ 1024 :=
  pow_le_pow_right₀ one_le_two (by decide)

/-- Every single is a double. -/
theorem value_floorMagnitude_single {m : ℕ} (hm : 0 < m) :
    value 52 (-1022) (floorMagnitude 52 (-1022) (value 23 (-126) m)) = value 23 (-126) m := by
  have hpos : 0 < value 23 (-126) m := by
    simpa using strictMono_value 23 (-126) hm
  obtain ⟨k, u, rfl, hu, hk⟩ := exists_units 23 m
  rw [value_units hu.le hk] at hpos ⊢
  refine value_floorMagnitude_eq hpos ?_
  have hlt : (u * 2 ^ ((k : ℤ) + -126 - (23 : ℕ)) : ℚ) < 2 ^ ((k : ℤ) - 125) := by
    have hexp : (2 : ℚ) ^ ((k : ℤ) - 125) = 2 ^ 24 * 2 ^ ((k : ℤ) + -126 - (23 : ℕ)) := by
      rw [← zpow_natCast, ← zpow_add₀ two_ne_zero]
      congr 1
      push_cast
      ring
    rw [hexp]
    exact mul_lt_mul_of_pos_right (by exact_mod_cast hu) (by positivity)
  have hlog := (Int.lt_zpow_iff_log_lt Nat.one_lt_two hpos).mp
    (by simpa only [Nat.cast_ofNat] using hlt)
  rw [exponentOf]
  omega

/-- The value of a single as a double; the infinities are the first numbers that are too large. -/
def wideValue (m : ℕ) : ℚ := value 52 (-1022) (wideMagnitude m)

theorem wideValue_infMagnitude : wideValue infMagnitude = 2 ^ 1024 := by
  rw [wideValue, wideMagnitude, if_pos rfl, value_infMagnitude_binary64]

theorem wideMagnitude_le (m : ℕ) : wideMagnitude m ≤ Binary64.infMagnitude := by
  rw [wideMagnitude]
  split_ifs
  · exact Nat.le_refl _
  · rw [Binary64.roundMagnitude]
    split_ifs
    · exact Nat.zero_le _
    · exact min_le_right _ _

/-- The conversion is exact. -/
theorem wideValue_of_lt {m : ℕ} (h : m < infMagnitude) : wideValue m = value 23 (-126) m := by
  rw [wideValue, wideMagnitude, if_neg h.ne]
  rcases Nat.eq_zero_or_pos m with rfl | hm
  · rw [value_zero, Binary64.roundMagnitude, if_pos rfl, value_zero]
  · have hpos : 0 < value 23 (-126) m := by
      simpa using strictMono_value 23 (-126) hm
    have hexact := value_floorMagnitude_single hm
    have hle : floorMagnitude 52 (-1022) (value 23 (-126) m) ≤ Binary64.infMagnitude := by
      refine ((strictMono_value 52 (-1022)).lt_iff_lt.mp ?_).le
      rw [hexact, value_infMagnitude_binary64]
      exact lt_of_lt_of_le (value_lt_of_lt_infMagnitude h) pow_le_pow_binary64
    rw [roundMagnitude_eq_binary64 hpos, nearestMagnitude_of_exact hpos hexact, min_eq_left hle,
      hexact]

theorem wideValue_zero : wideValue 0 = 0 := by
  rw [wideValue_of_lt (by decide), value_zero]

theorem wideValue_lt {a b : ℕ} (hab : a < b) (hb : b ≤ infMagnitude) :
    wideValue a < wideValue b := by
  rw [wideValue_of_lt (lt_of_lt_of_le hab hb)]
  rcases hb.lt_or_eq with hlt | rfl
  · rw [wideValue_of_lt hlt]
    exact strictMono_value 23 (-126) hab
  · rw [wideValue_infMagnitude]
    exact lt_of_lt_of_le (value_lt_of_lt_infMagnitude hab) pow_le_pow_binary64

/-- A magnitude of a double lies between two neighbouring ones of singles, and is rounded to one of
them. -/
theorem exists_bracket_magnitude {q : ℚ} (hq : 0 ≤ q) (hlt : q < 2 ^ 1024) :
    ∃ f < infMagnitude, wideValue f ≤ q ∧ q < wideValue (f + 1) ∧
      (roundMagnitude q = f ∨ roundMagnitude q = f + 1) ∧
      (wideValue f = q → roundMagnitude q = f) := by
  rcases hq.eq_or_lt with rfl | hq
  · refine ⟨0, by decide, wideValue_zero.le, ?_, .inl (if_pos rfl), fun _ => if_pos rfl⟩
    exact wideValue_zero ▸ wideValue_lt Nat.one_pos (by decide)
  have hle : value 23 (-126) (floorMagnitude 23 (-126) q) ≤ q := value_floorMagnitude_le hq
  have hgt : q < value 23 (-126) (floorMagnitude 23 (-126) q + 1) :=
    lt_value_floorMagnitude_succ hq
  have hcases : nearestMagnitude 23 (-126) q = floorMagnitude 23 (-126) q ∨
    nearestMagnitude 23 (-126) q = floorMagnitude 23 (-126) q + 1 := nearestMagnitude_cases hq
  have hexact : value 23 (-126) (floorMagnitude 23 (-126) q) = q →
    nearestMagnitude 23 (-126) q = floorMagnitude 23 (-126) q := nearestMagnitude_of_exact hq
  have hround := roundMagnitude_eq hq
  generalize floorMagnitude 23 (-126) q = f at *
  generalize nearestMagnitude 23 (-126) q = m at *
  rcases Nat.lt_or_ge (f + 1) infMagnitude with hf | hf
  · refine ⟨f, Nat.lt_of_succ_lt hf, ?_, ?_, ?_, ?_⟩
    · rwa [wideValue_of_lt (Nat.lt_of_succ_lt hf)]
    · rwa [wideValue_of_lt hf]
    · rw [hround]
      omega
    · intro heq
      rw [wideValue_of_lt (Nat.lt_of_succ_lt hf)] at heq
      rw [hround, hexact heq]
      omega
  · -- beyond the largest finite single
    have hpos : 0 < infMagnitude := by decide
    have hlast : infMagnitude - 1 < infMagnitude := Nat.sub_lt hpos Nat.one_pos
    refine ⟨infMagnitude - 1, hlast, ?_, ?_, ?_, ?_⟩
    · rw [wideValue_of_lt hlast]
      exact ((strictMono_value 23 (-126)).monotone (by omega)).trans hle
    · rwa [Nat.sub_add_cancel hpos, wideValue_infMagnitude]
    · rw [hround]
      omega
    · intro heq
      rw [wideValue_of_lt hlast] at heq
      have hfle : f ≤ infMagnitude - 1 := (strictMono_value 23 (-126)).le_iff_le.mp (heq ▸ hle)
      obtain rfl : f = infMagnitude - 1 := by omega
      rw [hround, hexact heq]
      omega

/-! ### Signs -/

theorem sign_mk' (sign : Bool) {m : ℕ} (h : m < 2 ^ 31) : (mk' sign m).sign = sign := by
  simp only [F32.sign, mk', BitVec.msb_eq_decide, BitVec.toNat_ofNat, Nat.mod_eq_of_lt h]
  cases sign <;> simp <;> omega

theorem key_mk' (sign : Bool) {m : ℕ} (h : m < 2 ^ 31) :
    (mk' sign m).key = if sign then -(m : ℤ) else m := by
  rw [key, sign_mk' sign h, magnitude_mk' sign h]

theorem natAbs_key (x : F32) : x.key.natAbs = x.magnitude := by
  rw [key]
  split_ifs
  · rw [Int.natAbs_neg, Int.natAbs_natCast]
  · exact Int.natAbs_natCast _

theorem magnitude_le_of_isNaN_eq_false {x : F32} (h : x.isNaN = false) :
    x.magnitude ≤ infMagnitude := by
  rw [isNaN, decide_eq_false_iff_not] at h
  exact Nat.le_of_not_lt h

end F32

namespace Binary64

open BinaryFormat

variable {x y : BitVec 64}

theorem magnitude_mk' (sign : Bool) {m : ℕ} (h : m < 2 ^ 63) : magnitude (mk' sign m) = m := by
  simp only [magnitude, mk', BitVec.toNat_ofNat, Nat.mod_eq_of_lt h]
  cases sign <;> simp <;> omega

theorem msb_mk' (sign : Bool) {m : ℕ} (h : m < 2 ^ 63) : (mk' sign m).msb = sign := by
  simp only [mk', BitVec.msb_eq_decide, BitVec.toNat_ofNat, Nat.mod_eq_of_lt h]
  cases sign <;> simp <;> omega

theorem toRat_eq (x : BitVec 64) : toRat x
    = if x.msb then -value 52 (-1022) (magnitude x) else value 52 (-1022) (magnitude x) := by
  have hvalue : value 52 (-1022) (magnitude x)
      = if magnitude x / 2 ^ 52 = 0 then ((magnitude x % 2 ^ 52 : ℕ) : ℚ) * 2 ^ (-1074 : ℤ)
        else (2 ^ 52 + ((magnitude x % 2 ^ 52 : ℕ) : ℚ))
          * 2 ^ (((magnitude x / 2 ^ 52 : ℕ) : ℤ) - 1075) := by
    have hexp : ∀ k : ℤ, k - 1 + -1022 - (52 : ℕ) = k - 1075 := fun k => by
      push_cast
      ring
    rw [value, hexp]
    rfl
  rw [hvalue]
  rfl

theorem natAbs_key (x : BitVec 64) : (key x).natAbs = magnitude x := by
  rw [key]
  split_ifs
  · rw [Int.natAbs_neg, Int.natAbs_natCast]
  · exact Int.natAbs_natCast _

/-- The number of a word is the value of its signed magnitude. -/
theorem toRat_eq_signed (x : BitVec 64) : toRat x = signed (value 52 (-1022)) (key x) := by
  have hkey := natAbs_key x
  rw [toRat_eq, signed, hkey]
  rw [key] at hkey ⊢
  rcases Nat.eq_zero_or_pos (magnitude x) with hzero | hpos
  · rw [hzero, value_zero]
    simp
  · split_ifs with hmsb hneg hneg
    · rfl
    · exact absurd hneg (by omega)
    · exact absurd hneg (by omega)
    · rfl

theorem toRat_lt_toRat_iff : toRat x < toRat y ↔ key x < key y := by
  have hmono : StrictMono (signed (value 52 (-1022))) := fun a b hab =>
    signed_lt_signed value_zero (fun m n hmn _ => strictMono_value 52 (-1022) hmn) hab
      (Nat.le_max_left a.natAbs b.natAbs) (Nat.le_max_right _ _)
  rw [toRat_eq_signed, toRat_eq_signed, hmono.lt_iff_lt]

/-- The order of words is the order of their numbers. -/
theorem le_iff_toRat_le (hx : isNaN x = false) (hy : isNaN y = false) :
    le x y ↔ toRat x ≤ toRat y := by
  simp only [le, hx, hy, Bool.not_false, Bool.true_and, decide_eq_true_eq]
  rw [← not_lt, ← not_lt, toRat_lt_toRat_iff]

theorem isNaN_of_isFinite (h : isFinite x) : isNaN x = false := by
  rw [isFinite, decide_eq_true_eq] at h
  rw [isNaN, decide_eq_false_iff_not]
  exact h.le.not_gt

theorem abs_toRat (x : BitVec 64) : |toRat x| = value 52 (-1022) (magnitude x) := by
  rw [toRat_eq]
  split_ifs
  · rw [abs_neg, abs_of_nonneg (value_nonneg _)]
  · exact abs_of_nonneg (value_nonneg _)

theorem abs_toRat_lt (h : isFinite x) : |toRat x| < 2 ^ 1024 := by
  rw [isFinite, decide_eq_true_eq] at h
  rw [abs_toRat, ← F32.value_infMagnitude_binary64]
  exact strictMono_value 52 (-1022) h

end Binary64

namespace F32

open BinaryFormat

variable {x y : F32} {v : BitVec 64}

/-- The number of a single that is not a NaN, an infinity being the first one that is too large. -/
def wide (x : F32) : ℚ := signed wideValue x.key

private theorem wideMagnitude_lt (m : ℕ) : wideMagnitude m < 2 ^ 63 :=
  lt_of_le_of_lt (wideMagnitude_le m) (by decide)

theorem isNaN_toBinary64 (hx : x.isNaN = false) : Binary64.isNaN (toBinary64 x) = false := by
  rw [toBinary64, if_neg (by simp [hx]), Binary64.isNaN, decide_eq_false_iff_not,
    Binary64.magnitude_mk' _ (wideMagnitude_lt _)]
  exact (wideMagnitude_le _).not_gt

/-- **The conversion to a double is exact.** -/
theorem toRat_toBinary64 (hx : x.isNaN = false) : Binary64.toRat (toBinary64 x) = x.wide := by
  rw [toBinary64, if_neg (by simp [hx]), Binary64.toRat_eq, Binary64.magnitude_mk' _
    (wideMagnitude_lt _), Binary64.msb_mk' _ (wideMagnitude_lt _), wide, signed, natAbs_key, key]
  change (if x.sign then -wideValue x.magnitude else wideValue x.magnitude) = _
  rcases Nat.eq_zero_or_pos x.magnitude with hzero | hpos
  · rw [hzero, wideValue_zero]
    simp
  · split_ifs with hsign hneg hneg
    · rfl
    · exact absurd hneg (by omega)
    · exact absurd hneg (by omega)
    · rfl

theorem signed_wideValue_lt {a b : ℤ} (hab : a < b) (ha : a.natAbs ≤ infMagnitude)
    (hb : b.natAbs ≤ infMagnitude) : signed wideValue a < signed wideValue b :=
  signed_lt_signed wideValue_zero (fun _ _ => wideValue_lt) hab ha hb

theorem signed_wideValue_le_iff {a b : ℤ} (ha : a.natAbs ≤ infMagnitude)
    (hb : b.natAbs ≤ infMagnitude) : signed wideValue a ≤ signed wideValue b ↔ a ≤ b := by
  constructor
  · intro h
    by_contra hlt
    exact absurd h (signed_wideValue_lt (not_le.mp hlt) hb ha).not_ge
  · intro h
    rcases h.lt_or_eq with hlt | rfl
    · exact (signed_wideValue_lt hlt ha hb).le
    · exact le_rfl

theorem signed_wideValue_neg (m : ℕ) : signed wideValue (-m) = -wideValue m := by
  rw [signed, Int.natAbs_neg, Int.natAbs_natCast]
  rcases Nat.eq_zero_or_pos m with rfl | hpos
  · simp [wideValue_zero]
  · rw [if_pos (by omega)]

theorem signed_wideValue_natCast (m : ℕ) : signed wideValue m = wideValue m := by
  rw [signed, if_neg (by omega), Int.natAbs_natCast]

theorem key_ofBinary64 (hv : Binary64.isFinite v) : (ofBinary64 v).isNaN = false ∧
    (ofBinary64 v).key = if v.msb then -(roundMagnitude |Binary64.toRat v| : ℤ)
      else roundMagnitude |Binary64.toRat v| := by
  have hfinite := hv
  rw [Binary64.isFinite, decide_eq_true_eq] at hfinite
  have hlt : roundMagnitude |Binary64.toRat v| < 2 ^ 31 :=
    lt_of_le_of_lt (roundMagnitude_le _) (by decide)
  rw [ofBinary64, if_neg (by simp [Binary64.isNaN_of_isFinite hv]),
    if_neg (by simpa [Binary64.isInf] using hfinite.ne)]
  refine ⟨?_, key_mk' _ hlt⟩
  rw [isNaN, magnitude_mk' _ hlt, decide_eq_false_iff_not]
  exact (roundMagnitude_le _).not_gt

/-- **Rounding to a neighbour.** A finite double lies between two neighbouring singles, is rounded
to one of them, and is not changed if it is one of them. -/
theorem exists_bracket (hv : Binary64.isFinite v) : ∃ k : ℤ,
    -(infMagnitude : ℤ) ≤ k ∧ k < infMagnitude ∧
      signed wideValue k ≤ Binary64.toRat v ∧ Binary64.toRat v ≤ signed wideValue (k + 1) ∧
      ((ofBinary64 v).key = k ∨ (ofBinary64 v).key = k + 1) ∧
      (signed wideValue k = Binary64.toRat v → (ofBinary64 v).key = k) ∧
      (signed wideValue (k + 1) = Binary64.toRat v → (ofBinary64 v).key = k + 1) := by
  obtain ⟨f, hf, hle, hlt, hcases, hexact⟩ :=
    exists_bracket_magnitude (abs_nonneg (Binary64.toRat v)) (Binary64.abs_toRat_lt hv)
  have hkey := (key_ofBinary64 hv).2
  have habs := Binary64.abs_toRat v
  have hrat := Binary64.toRat_eq v
  rw [← habs] at hrat
  generalize roundMagnitude |Binary64.toRat v| = m at *
  generalize |Binary64.toRat v| = q at *
  cases hmsb : v.msb with
  | false =>
    rw [hmsb, if_neg Bool.false_ne_true] at hrat hkey
    have hnext : (f : ℤ) + 1 = (f + 1 : ℕ) := (Nat.cast_succ f).symm
    rw [hrat, hkey]
    refine ⟨f, by omega, by omega, ?_, ?_, ?_, ?_, ?_⟩
    · rwa [signed_wideValue_natCast]
    · rw [hnext, signed_wideValue_natCast]
      exact hlt.le
    · omega
    · intro h
      rw [signed_wideValue_natCast] at h
      rw [hexact h]
    · intro h
      rw [hnext, signed_wideValue_natCast] at h
      exact absurd h hlt.ne'
  | true =>
    rw [hmsb, if_pos rfl] at hrat hkey
    have hnext : -((f + 1 : ℕ) : ℤ) + 1 = -(f : ℤ) := by omega
    rw [hrat, hkey]
    refine ⟨-((f + 1 : ℕ) : ℤ), by omega, by omega, ?_, ?_, ?_, ?_, ?_⟩
    · rw [signed_wideValue_neg]
      exact neg_le_neg hlt.le
    · rw [hnext, signed_wideValue_neg]
      exact neg_le_neg hle
    · omega
    · intro h
      rw [signed_wideValue_neg] at h
      exact absurd (neg_injective h) hlt.ne'
    · intro h
      rw [hnext, signed_wideValue_neg] at h
      rw [hnext, hexact (neg_injective h)]

/-! ### Rounding is monotone -/

theorem roundTiesEven_mono {q q' : ℚ} (hle : q ≤ q') : roundTiesEven q ≤ roundTiesEven q' := by
  have hfloor := Int.floor_mono hle
  rcases hfloor.lt_or_eq with hlt | heq
  · have hq := roundTiesEven_cases q
    have hq' := roundTiesEven_cases q'
    omega
  · simp only [roundTiesEven, ← heq]
    split_ifs
    all_goals first | omega | (exfalso; linarith)

theorem nearestMagnitude_mono {p : ℕ} {emin : ℤ} {q q' : ℚ} (hq : 0 < q) (hle : q ≤ q') :
    nearestMagnitude p emin q ≤ nearestMagnitude p emin q' := by
  have hq' := hq.trans_le hle
  have hexp : exponentOf emin q ≤ exponentOf emin q' :=
    max_le_max_right _ (Int.log_mono_right hq hle)
  rw [nearestMagnitude, nearestMagnitude]
  refine Int.toNat_le_toNat ?_
  rcases hexp.lt_or_eq with hlt | heq
  · -- the larger number has its leading one, at a larger exponent
    have hunits : roundTiesEven (unitsOf p emin q) ≤ 2 ^ (p + 1) := by
      have hfloor : ⌊unitsOf p emin q⌋ < 2 ^ (p + 1) :=
        Int.floor_lt.mpr (by exact_mod_cast unitsOf_lt)
      have hcases := roundTiesEven_cases (unitsOf p emin q)
      omega
    have hunits' : 2 ^ p ≤ roundTiesEven (unitsOf p emin q') := by
      have hemin : emin ≤ exponentOf emin q := emin_le_exponentOf
      have hfloor : 2 ^ p ≤ ⌊unitsOf p emin q'⌋ :=
        Int.le_floor.mpr (by exact_mod_cast le_unitsOf hq' (by omega))
      have hcases := roundTiesEven_cases (unitsOf p emin q')
      omega
    have hstep : (exponentOf emin q - emin + 1) * 2 ^ p ≤ (exponentOf emin q' - emin) * 2 ^ p :=
      mul_le_mul_of_nonneg_right (by omega) (by positivity)
    have hpow : (2 : ℤ) ^ (p + 1) = 2 * 2 ^ p := pow_succ' 2 p
    linarith
  · have hunits : unitsOf p emin q ≤ unitsOf p emin q' := by
      rw [unitsOf, unitsOf, heq]
      exact div_le_div_of_nonneg_right hle (by positivity)
    have hround := roundTiesEven_mono hunits
    rw [heq]
    omega

theorem roundMagnitude_mono {q q' : ℚ} (hq : 0 ≤ q) (hle : q ≤ q') :
    roundMagnitude q ≤ roundMagnitude q' := by
  rcases hq.lt_or_eq with hpos | rfl
  · rw [roundMagnitude_eq hpos, roundMagnitude_eq (hpos.trans_le hle)]
    exact min_le_min_right _ (nearestMagnitude_mono hpos hle)
  · rw [roundMagnitude, if_pos rfl]
    exact Nat.zero_le _

/-- The magnitude that a magnitude of a double is rounded to. -/
def narrowMagnitude (m : ℕ) : ℕ :=
  if m = Binary64.infMagnitude then infMagnitude else roundMagnitude (value 52 (-1022) m)

theorem narrowMagnitude_mono {m m' : ℕ} (hle : m ≤ m') (hm' : m' ≤ Binary64.infMagnitude) :
    narrowMagnitude m ≤ narrowMagnitude m' := by
  rw [narrowMagnitude, narrowMagnitude]
  split_ifs with h h'
  · exact Nat.le_refl _
  · omega
  · exact roundMagnitude_le _
  · exact roundMagnitude_mono (value_nonneg m) ((strictMono_value 52 (-1022)).monotone hle)

theorem key_ofBinary64_eq (hv : Binary64.isNaN v = false) : (ofBinary64 v).isNaN = false ∧
    (ofBinary64 v).key = if v.msb then -(narrowMagnitude (Binary64.magnitude v) : ℤ)
      else narrowMagnitude (Binary64.magnitude v) := by
  rw [Binary64.isNaN, decide_eq_false_iff_not] at hv
  rcases (Nat.not_lt.mp hv).lt_or_eq with hlt | heq
  · have hnarrow : narrowMagnitude (Binary64.magnitude v) = roundMagnitude |Binary64.toRat v| := by
      rw [narrowMagnitude, if_neg hlt.ne, Binary64.abs_toRat]
    rw [hnarrow]
    exact key_ofBinary64 (decide_eq_true hlt)
  · have hinf : ofBinary64 v = mk' v.msb infMagnitude := by
      rw [ofBinary64, if_neg (by simpa [Binary64.isNaN] using hv),
        if_pos (by simpa [Binary64.isInf] using heq)]
    rw [hinf, narrowMagnitude, if_pos heq]
    refine ⟨?_, key_mk' _ (by decide)⟩
    rw [isNaN, magnitude_mk' _ (by decide), decide_eq_false_iff_not]
    exact Nat.lt_irrefl _

/-- **Narrowing** a double to a single is monotone. -/
theorem ofBinary64_le_ofBinary64 {v w : BitVec 64} (h : Binary64.le v w) :
    (ofBinary64 v).le (ofBinary64 w) := by
  simp only [Binary64.le, Bool.and_eq_true, Bool.not_eq_true', decide_eq_true_eq] at h
  obtain ⟨⟨hv, hw⟩, hkey⟩ := h
  obtain ⟨hv', hkeyV⟩ := key_ofBinary64_eq hv
  obtain ⟨hw', hkeyW⟩ := key_ofBinary64_eq hw
  have hmv : Binary64.magnitude v ≤ Binary64.infMagnitude := by
    simpa [Binary64.isNaN] using hv
  have hmw : Binary64.magnitude w ≤ Binary64.infMagnitude := by
    simpa [Binary64.isNaN] using hw
  have hzero : narrowMagnitude 0 = 0 := by
    rw [narrowMagnitude, if_neg (by decide), value_zero, roundMagnitude, if_pos rfl]
  simp only [F32.le, hv', hw', hkeyV, hkeyW, Bool.not_false, Bool.and_self, Bool.true_and,
    decide_eq_true_eq]
  simp only [Binary64.key] at hkey
  split_ifs at hkey ⊢
  · have hle := narrowMagnitude_mono (show Binary64.magnitude w ≤ _ by omega) hmv
    omega
  · omega
  · -- both are zeros
    rw [show Binary64.magnitude v = 0 by omega, show Binary64.magnitude w = 0 by omega, hzero]
    rfl
  · have hle := narrowMagnitude_mono (show Binary64.magnitude v ≤ _ by omega) hmw
    omega

end F32
