import WatershedDelineation.General.BinaryCasts
import WatershedDelineation.Reader.BoundingBox

/-!
# Narrowing boxes outward

The boxes of `export/spatial.rs`: the bounds of a row in double precision (`BasinBbox`), and the
single precision box that row groups are pruned with (`outwardF32Bbox`). Each bound is rounded to
nearest and then, if that has moved it inward, by one bit pattern outward.

A step of one bit pattern goes to the neighbour (`isNext_nextF32Up`, `isNext_nextF32Down`), so
rounding outward gives the nearest single on the outer side (`le_roundF32TowardNegativeInfinity`,
`roundF32TowardPositiveInfinity_le`).
-/

namespace WatershedDelineation

/-- The bounds of a geometry in double precision. -/
structure BasinBbox where
  minx : F64
  miny : F64
  maxx : F64
  maxy : F64
  deriving DecidableEq, Repr

/-- The bounds of a geometry, rounded outward to single precision. -/
structure OutwardF32Bbox where
  minx : F32
  miny : F32
  maxx : F32
  maxy : F32
  deriving DecidableEq, Repr

/-- The next float below. -/
def nextF32Down (value : F32) : F32 :=
  if value.isNaN || value.eq ⟨0xff800000⟩ then value
  else if value.eq ⟨0⟩ then ⟨0x80000001⟩
  else if !value.sign then ⟨value.bits - 1⟩
  else ⟨value.bits + 1⟩

/-- The next float above. -/
def nextF32Up (value : F32) : F32 :=
  if value.isNaN || value.eq ⟨0x7f800000⟩ then value
  else if value.eq ⟨0⟩ then ⟨1⟩
  else if !value.sign then ⟨value.bits + 1⟩
  else ⟨value.bits - 1⟩

def roundF32TowardNegativeInfinity (value : F64) : F32 :=
  let rounded := F32.ofBinary64 value.bits
  if Binary64.le rounded.toBinary64 value.bits then rounded else nextF32Down rounded

def roundF32TowardPositiveInfinity (value : F64) : F32 :=
  let rounded := F32.ofBinary64 value.bits
  if Binary64.le value.bits rounded.toBinary64 then rounded else nextF32Up rounded

/-- Round bounds outward to single precision. -/
def outwardF32Bbox (bbox : BasinBbox) : OutwardF32Bbox where
  minx := roundF32TowardNegativeInfinity bbox.minx
  miny := roundF32TowardNegativeInfinity bbox.miny
  maxx := roundF32TowardPositiveInfinity bbox.maxx
  maxy := roundF32TowardPositiveInfinity bbox.maxy

/-! ### Neighbours -/

section Next

variable {x y : F32}

private theorem eq_iff_key (hx : x.isNaN = false) (hy : y.isNaN = false) :
    x.eq y = true ↔ x.key = y.key := by
  simp [F32.eq, hx, hy]

private theorem eq_zero_iff (hx : x.isNaN = false) : x.eq ⟨0⟩ = true ↔ x.key = 0 :=
  eq_iff_key hx (by decide)

private theorem key_natAbs_le (hx : x.isNaN = false) : x.key.natAbs ≤ F32.infMagnitude := by
  rw [F32.natAbs_key]
  exact F32.magnitude_le_of_isNaN_eq_false hx

/-- Subtracting one from the bits of a value that is not zero subtracts one from its magnitude. -/
private theorem sign_magnitude_sub_one (h : 0 < x.magnitude) :
    (F32.mk (x.bits - 1)).sign = x.sign ∧ (F32.mk (x.bits - 1)).magnitude = x.magnitude - 1 := by
  have hlt := x.bits.isLt
  rw [F32.magnitude] at h
  have htoNat : (x.bits - 1).toNat = x.bits.toNat - 1 := by
    rw [BitVec.toNat_sub_of_le]
    · rfl
    · rw [BitVec.le_def]
      simp
      omega
  simp only [F32.sign, F32.magnitude, BitVec.msb_eq_decide, htoNat, decide_eq_decide]
  omega

private theorem isNaN_of_natAbs_key (h : x.key.natAbs ≤ F32.infMagnitude) : x.isNaN = false := by
  rw [F32.natAbs_key] at h
  rw [F32.isNaN, decide_eq_false_iff_not]
  exact h.not_gt

/-- Subtracting one from the bits moves a value that is not zero towards zero. -/
private theorem key_sub_one (h : x.key ≠ 0) :
    (F32.mk (x.bits - 1)).key = if x.sign then x.key + 1 else x.key - 1 := by
  have hpos : 0 < x.magnitude := by
    rw [← F32.natAbs_key]
    exact Int.natAbs_pos.mpr h
  obtain ⟨hsign, hmagnitude⟩ := sign_magnitude_sub_one hpos
  rw [F32.key, hsign, hmagnitude, F32.key]
  split_ifs <;> omega

/-- Adding one to the bits moves a finite value away from zero. -/
private theorem key_add_one (h : x.key.natAbs < F32.infMagnitude) :
    (F32.mk (x.bits + 1)).key = if x.sign then x.key - 1 else x.key + 1 := by
  rw [F32.natAbs_key] at h
  obtain ⟨hsign, hmagnitude⟩ := F32.sign_magnitude_add_one (decide_eq_true h)
  rw [F32.key, hsign, hmagnitude, F32.key]
  split_ifs <;> omega

/-- A step down lowers the key by one. -/
theorem key_nextF32Down (hx : x.isNaN = false) (hinf : -(F32.infMagnitude : ℤ) < x.key) :
    (nextF32Down x).isNaN = false ∧ (nextF32Down x).key = x.key - 1 := by
  have hbounds := key_natAbs_le hx
  have hne : x.eq ⟨0xff800000⟩ = false := by
    rw [← Bool.not_eq_true, eq_iff_key hx (by decide)]
    exact hinf.ne'
  suffices hkey : (nextF32Down x).key = x.key - 1 from
    ⟨isNaN_of_natAbs_key (by rw [hkey]; omega), hkey⟩
  rw [nextF32Down, hx, hne, Bool.or_false, if_neg Bool.false_ne_true]
  by_cases hzero : x.key = 0
  · rw [if_pos ((eq_zero_iff hx).mpr hzero), hzero]
    decide
  rw [if_neg fun h => hzero ((eq_zero_iff hx).mp h)]
  cases hsign : x.sign with
  | false =>
    rw [if_pos (by decide), key_sub_one hzero, hsign]
    rfl
  | true =>
    have hneg : x.key ≤ 0 := by
      rw [F32.key, if_pos hsign]
      omega
    rw [if_neg (by decide), key_add_one (by omega), hsign]
    rfl

/-- A step up raises the key by one. -/
theorem key_nextF32Up (hx : x.isNaN = false) (hinf : x.key < F32.infMagnitude) :
    (nextF32Up x).isNaN = false ∧ (nextF32Up x).key = x.key + 1 := by
  have hbounds := key_natAbs_le hx
  have hne : x.eq ⟨0x7f800000⟩ = false := by
    rw [← Bool.not_eq_true, eq_iff_key hx (by decide)]
    exact hinf.ne
  suffices hkey : (nextF32Up x).key = x.key + 1 from
    ⟨isNaN_of_natAbs_key (by rw [hkey]; omega), hkey⟩
  rw [nextF32Up, hx, hne, Bool.or_false, if_neg Bool.false_ne_true]
  by_cases hzero : x.key = 0
  · rw [if_pos ((eq_zero_iff hx).mpr hzero), hzero]
    decide
  rw [if_neg fun h => hzero ((eq_zero_iff hx).mp h)]
  cases hsign : x.sign with
  | false =>
    have hpos : 0 ≤ x.key := by
      rw [F32.key, if_neg (by simp [hsign])]
      omega
    rw [if_pos (by decide), key_add_one (by omega), hsign]
    rfl
  | true =>
    rw [if_neg (by decide), key_sub_one hzero, hsign]
    rfl

private theorem natAbs_key_lt_of_isFinite (hx : x.isFinite) :
    x.key.natAbs < F32.infMagnitude := by
  rw [F32.natAbs_key]
  exact of_decide_eq_true hx

/-- **A step up goes to the adjacent float.** -/
theorem isNext_nextF32Up (hx : x.isFinite) : x.IsNext (nextF32Up x) := by
  have hlt := natAbs_key_lt_of_isFinite hx
  obtain ⟨hnan, hkey⟩ := key_nextF32Up (F32.isNaN_of_isFinite hx) (by omega)
  exact F32.isNext_of_key (F32.isNaN_of_isFinite hx) hnan hkey

/-- The greatest value below another. -/
def IsPrevious (x y : F32) : Prop := y.lt x ∧ ∀ z : F32, z.lt x → z.le y

/-- **A step down goes to the adjacent float.** -/
theorem isPrevious_nextF32Down (hx : x.isFinite) : IsPrevious x (nextF32Down x) := by
  have hlt := natAbs_key_lt_of_isFinite hx
  have hxnan := F32.isNaN_of_isFinite hx
  obtain ⟨hnan, hkey⟩ := key_nextF32Down hxnan (by omega)
  refine ⟨by simp [F32.lt, hxnan, hnan, hkey], fun z hz => ?_⟩
  simp only [F32.lt, Bool.and_eq_true, Bool.not_eq_true', decide_eq_true_eq] at hz
  simp only [F32.le, hnan, hz.1.1, Bool.not_false, Bool.and_self, Bool.true_and,
    decide_eq_true_eq]
  omega

end Next

/-! ### Rounding outward -/

section Round

open BinaryFormat

variable {value : F64} {z : F32}

private theorem toBinary64_of_isNaN (hz : z.isNaN = true) : Binary64.isNaN z.toBinary64 = true := by
  rw [F32.toBinary64, if_pos hz]
  decide

/-- A single is at most a finite double when its wide value is. -/
theorem toBinary64_le_iff (hv : Binary64.isFinite value.bits) (hz : z.isNaN = false) :
    Binary64.le z.toBinary64 value.bits ↔ z.wide ≤ Binary64.toRat value.bits := by
  rw [Binary64.le_iff_toRat_le (F32.isNaN_toBinary64 hz) (Binary64.isNaN_of_isFinite hv),
    F32.toRat_toBinary64 hz]

theorem le_toBinary64_iff (hv : Binary64.isFinite value.bits) (hz : z.isNaN = false) :
    Binary64.le value.bits z.toBinary64 ↔ Binary64.toRat value.bits ≤ z.wide := by
  rw [Binary64.le_iff_toRat_le (Binary64.isNaN_of_isFinite hv) (F32.isNaN_toBinary64 hz),
    F32.toRat_toBinary64 hz]

private theorem wide_le_wide_iff {x y : F32} (hx : x.isNaN = false) (hy : y.isNaN = false) :
    x.wide ≤ y.wide ↔ x.key ≤ y.key :=
  F32.signed_wideValue_le_iff (key_natAbs_le hx) (key_natAbs_le hy)

/-- Rounding down goes to the largest key that is not above. -/
theorem roundF32TowardNegativeInfinity_spec (hv : Binary64.isFinite value.bits) :
    (roundF32TowardNegativeInfinity value).isNaN = false ∧
      (roundF32TowardNegativeInfinity value).wide ≤ Binary64.toRat value.bits ∧
      ∀ z : F32, z.isNaN = false → z.wide ≤ Binary64.toRat value.bits →
        z.key ≤ (roundF32TowardNegativeInfinity value).key := by
  obtain ⟨k, hlow, hhigh, hle, hge, hcases, hexact, hexact'⟩ := F32.exists_bracket hv
  have hnan := (F32.key_ofBinary64 hv).1
  have hiff := toBinary64_le_iff hv hnan
  -- a key above the lower neighbour is the upper one or above it
  have hupper : ∀ z : F32, z.isNaN = false → k + 1 ≤ z.key →
      signed F32.wideValue (k + 1) ≤ z.wide := fun z hz hkey =>
    (F32.signed_wideValue_le_iff (by omega) (key_natAbs_le hz)).mpr hkey
  rw [roundF32TowardNegativeInfinity]
  generalize F32.ofBinary64 value.bits = r at *
  have hbounds := key_natAbs_le hnan
  split_ifs with hround
  · have hrle := hiff.mp hround
    refine ⟨hnan, hrle, fun z hz hzle => ?_⟩
    by_contra hlt
    rcases hcases with hk | hk
    · -- nothing above the lower neighbour is below the value, or it would be the upper one
      have heq := le_antisymm hge ((hupper z hz (by omega)).trans hzle)
      have hkey := hexact' heq.symm
      omega
    · -- the upper neighbour is exact, so that what is above it is above the value
      have heq : z.wide ≤ r.wide := by
        have hr : r.wide = signed F32.wideValue (k + 1) := by rw [F32.wide, hk]
        rw [hr]
        exact hzle.trans hge
      exact hlt ((wide_le_wide_iff hz hnan).mp heq)
  · have hrgt : Binary64.toRat value.bits < r.wide := not_le.mp fun h => hround (hiff.mpr h)
    have hk : r.key = k + 1 := by
      refine hcases.resolve_left fun hk => absurd hle (not_le.mpr ?_)
      rwa [← hk]
    obtain ⟨hnan', hkey'⟩ := key_nextF32Down hnan (by omega)
    have hkey : (nextF32Down r).key = k := by omega
    refine ⟨hnan', by rwa [F32.wide, hkey], fun z hz hzle => ?_⟩
    by_contra hlt
    have hwide : r.wide ≤ z.wide := (wide_le_wide_iff hnan hz).mpr (by omega)
    exact absurd (hwide.trans hzle) (not_le.mpr hrgt)

/-- Rounding up goes to the smallest key that is not below. -/
theorem roundF32TowardPositiveInfinity_spec (hv : Binary64.isFinite value.bits) :
    (roundF32TowardPositiveInfinity value).isNaN = false ∧
      Binary64.toRat value.bits ≤ (roundF32TowardPositiveInfinity value).wide ∧
      ∀ z : F32, z.isNaN = false → Binary64.toRat value.bits ≤ z.wide →
        (roundF32TowardPositiveInfinity value).key ≤ z.key := by
  obtain ⟨k, hlow, hhigh, hle, hge, hcases, hexact, hexact'⟩ := F32.exists_bracket hv
  have hnan := (F32.key_ofBinary64 hv).1
  have hiff := le_toBinary64_iff hv hnan
  have hlower : ∀ z : F32, z.isNaN = false → z.key ≤ k →
      z.wide ≤ signed F32.wideValue k := fun z hz hkey =>
    (F32.signed_wideValue_le_iff (key_natAbs_le hz) (by omega)).mpr hkey
  rw [roundF32TowardPositiveInfinity]
  generalize F32.ofBinary64 value.bits = r at *
  have hbounds := key_natAbs_le hnan
  split_ifs with hround
  · have hrle := hiff.mp hround
    refine ⟨hnan, hrle, fun z hz hzle => ?_⟩
    by_contra hlt
    rcases hcases with hk | hk
    · have heq : r.wide ≤ z.wide := by
        have hr : r.wide = signed F32.wideValue k := by rw [F32.wide, hk]
        rw [hr]
        exact hle.trans hzle
      exact hlt ((wide_le_wide_iff hnan hz).mp heq)
    · have heq := le_antisymm hle (hzle.trans (hlower z hz (by omega)))
      have hkey := hexact heq
      omega
  · have hrgt : r.wide < Binary64.toRat value.bits := not_le.mp fun h => hround (hiff.mpr h)
    have hk : r.key = k := by
      refine hcases.resolve_right fun hk => absurd hge (not_le.mpr ?_)
      rwa [← hk]
    obtain ⟨hnan', hkey'⟩ := key_nextF32Up hnan (by omega)
    have hkey : (nextF32Up r).key = k + 1 := by omega
    refine ⟨hnan', by rwa [F32.wide, hkey], fun z hz hzle => ?_⟩
    by_contra hlt
    have hwide : z.wide ≤ r.wide := (wide_le_wide_iff hz hnan).mpr (by omega)
    exact absurd (hzle.trans hwide) (not_le.mpr hrgt)

private theorem le_eq_true_iff {x y : F32} (hx : x.isNaN = false) (hy : y.isNaN = false) :
    x.le y ↔ x.key ≤ y.key := by
  simp [F32.le, hx, hy]

/-- **Rounding down** gives the largest single that is not above. -/
theorem le_roundF32TowardNegativeInfinity (hv : Binary64.isFinite value.bits) (z : F32) :
    Binary64.le z.toBinary64 value.bits ↔ z.le (roundF32TowardNegativeInfinity value) := by
  obtain ⟨hnan, hle, hgreatest⟩ := roundF32TowardNegativeInfinity_spec hv
  cases hz : z.isNaN with
  | true => simp [Binary64.le, toBinary64_of_isNaN hz, F32.le, hz]
  | false =>
    rw [toBinary64_le_iff hv hz, le_eq_true_iff hz hnan]
    exact ⟨hgreatest z hz, fun h => ((wide_le_wide_iff hz hnan).mpr h).trans hle⟩

/-- **Rounding up** gives the smallest single that is not below. -/
theorem roundF32TowardPositiveInfinity_le (hv : Binary64.isFinite value.bits) (z : F32) :
    Binary64.le value.bits z.toBinary64 ↔ (roundF32TowardPositiveInfinity value).le z := by
  obtain ⟨hnan, hle, hleast⟩ := roundF32TowardPositiveInfinity_spec hv
  cases hz : z.isNaN with
  | true => simp [Binary64.le, toBinary64_of_isNaN hz, F32.le, hz]
  | false =>
    rw [le_toBinary64_iff hv hz, le_eq_true_iff hnan hz]
    exact ⟨hleast z hz, fun h => hle.trans ((wide_le_wide_iff hnan hz).mpr h)⟩

end Round

/-! ### Boxes -/

/-- The bounds are finite. -/
def BasinBbox.Finite (bbox : BasinBbox) : Prop :=
  Binary64.isFinite bbox.minx.bits ∧ Binary64.isFinite bbox.miny.bits ∧
    Binary64.isFinite bbox.maxx.bits ∧ Binary64.isFinite bbox.maxy.bits

instance (bbox : BasinBbox) : Decidable bbox.Finite := inferInstanceAs (Decidable (_ ∧ _))

/-- A single precision box contains a double precision one. -/
def OutwardF32Bbox.Contains (outer : OutwardF32Bbox) (bbox : BasinBbox) : Prop :=
  Binary64.le outer.minx.toBinary64 bbox.minx.bits ∧
    Binary64.le outer.miny.toBinary64 bbox.miny.bits ∧
    Binary64.le bbox.maxx.bits outer.maxx.toBinary64 ∧
    Binary64.le bbox.maxy.bits outer.maxy.toBinary64

/-- A box lies in another, bound by bound. -/
def OutwardF32Bbox.Within (inner outer : OutwardF32Bbox) : Prop :=
  outer.minx.le inner.minx ∧ outer.miny.le inner.miny ∧ inner.maxx.le outer.maxx ∧
    inner.maxy.le outer.maxy

theorem contains_iff_within {bbox : BasinBbox} (h : bbox.Finite) (outer : OutwardF32Bbox) :
    outer.Contains bbox ↔ (outwardF32Bbox bbox).Within outer := by
  obtain ⟨hminx, hminy, hmaxx, hmaxy⟩ := h
  rw [OutwardF32Bbox.Contains, le_roundF32TowardNegativeInfinity hminx,
    le_roundF32TowardNegativeInfinity hminy, roundF32TowardPositiveInfinity_le hmaxx,
    roundF32TowardPositiveInfinity_le hmaxy]
  rfl

private theorem le_self {x : F32} (hx : x.isNaN = false) : x.le x := by
  simp [F32.le, hx]

/-- **Narrowing outward** contains the box, is within every single precision box that does, and
goes through adjacent floats. -/
theorem outwardF32Bbox_least {bbox : BasinBbox} (h : bbox.Finite) :
    (outwardF32Bbox bbox).Contains bbox ∧
      (∀ outer : OutwardF32Bbox, outer.Contains bbox → (outwardF32Bbox bbox).Within outer) ∧
      ∀ x : F32, x.isFinite → x.IsNext (nextF32Up x) ∧ IsPrevious x (nextF32Down x) := by
  refine ⟨(contains_iff_within h _).mpr ?_, fun outer => (contains_iff_within h outer).mp,
    fun x hx => ⟨isNext_nextF32Up hx, isPrevious_nextF32Down hx⟩⟩
  obtain ⟨hminx, hminy, hmaxx, hmaxy⟩ := h
  exact ⟨le_self (roundF32TowardNegativeInfinity_spec hminx).1,
    le_self (roundF32TowardNegativeInfinity_spec hminy).1,
    le_self (roundF32TowardPositiveInfinity_spec hmaxx).1,
    le_self (roundF32TowardPositiveInfinity_spec hmaxy).1⟩

/-- The box from 0.1 to 1.1 and from -0.1 to a third, whose bounds are no singles. -/
def tenthsBbox : BasinBbox :=
  ⟨⟨0x3fb999999999999a⟩, ⟨0xbfb999999999999a⟩, ⟨0x3ff199999999999a⟩, ⟨0x3fd5555555555555⟩⟩

theorem outwardF32Bbox_least_tenths :
    outwardF32Bbox tenthsBbox = ⟨⟨0x3dcccccc⟩, ⟨0xbdcccccd⟩, ⟨0x3f8ccccd⟩, ⟨0x3eaaaaab⟩⟩ ∧
      (outwardF32Bbox tenthsBbox).Contains tenthsBbox :=
  ⟨by decide +kernel, (outwardF32Bbox_least (by decide)).1⟩

end WatershedDelineation
