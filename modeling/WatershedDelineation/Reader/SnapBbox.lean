import WatershedDelineation.Reader.BoundingBox
import WatershedDelineation.Session.Dataset

/-!
# Boxes of snap targets

Points and axis-aligned lines have degenerate boxes, which are no `BoundingBox`. `snapBbox`
pads them: on a degenerate axis the maximum becomes the float after the minimum, by adding one to
the bits of the minimum.

That is the next float for values with a clear sign bit only. For negative values and for the
negative zero the pattern that follows is the next float below, and the padded box is rejected. So
boxes are widened exactly when the minimum of each degenerate axis has a clear sign bit
(`snapBbox_widened_iff`).
-/

namespace WatershedDelineation

/-- The float with the next bit pattern. -/
def nextUpF32 (v : F32) : F32 := ⟨v.bits + 1⟩

/-- The maximum of an axis, padded if the axis is degenerate. -/
def paddedMax (min max : F32) : F32 := if max.eq min then nextUpF32 min else max

/-- The box of a snap target row, padded on degenerate axes. -/
def snapBbox (hfx : Hfx) (minx miny maxx maxy : F32) (row : ℕ) : Except SessionError BoundingBox :=
  match hfx.boundingBox minx miny maxx maxy with
  | .ok bbox => .ok bbox
  | .error _ => (hfx.boundingBox minx miny (paddedMax minx maxx) (paddedMax miny maxy)).mapError
      fun e => .invalidRow "snap.parquet" row
        s!"invalid snap bbox even after epsilon padding: {e}"

/-! ### Axes -/

/-- An axis is widened: it contains the values, is unchanged unless it was degenerate, and then
grows to the next float. -/
structure AxisWidened (min max min' max' : F32) : Prop where
  min_le : min'.le min
  le_max : max.le max'
  unchanged : min.lt max → min' = min ∧ max' = max
  grown : min.eq max → min' = min ∧ min.IsNext max'

section Axis

variable {min max : F32}

private theorem eq_comm' (x y : F32) : x.eq y = y.eq x := by
  rw [F32.eq, F32.eq, Bool.and_comm (!x.isNaN), decide_eq_decide.mpr eq_comm]

theorem paddedMax_of_lt (hle : min.le max) (hlt : min.lt max) : paddedMax min max = max := by
  rw [paddedMax, eq_comm', F32.eq_iff_of_le hle, hlt]
  rfl

theorem paddedMax_of_not_lt (hle : min.le max) (hlt : min.lt max = false) :
    paddedMax min max = nextUpF32 min := by
  rw [paddedMax, eq_comm', F32.eq_iff_of_le hle, hlt]
  rfl

/-- The next bit pattern of a value with a clear sign bit is the next value. -/
theorem nextUpF32_of_sign (hmin : min.isFinite) (hlargest : min.lt F32.largest)
    (hsign : min.sign = false) : (nextUpF32 min).isFinite ∧ min.IsNext (nextUpF32 min) := by
  obtain ⟨hsign', hmagnitude⟩ := F32.sign_magnitude_add_one hmin
  have hfinite : (nextUpF32 min).isFinite := by
    simp only [F32.lt, Bool.and_eq_true, decide_eq_true_eq, F32.key, hsign] at hlargest
    have hlt : (min.magnitude : ℤ) < 0x7f7fffff := hlargest.2
    rw [F32.isFinite, nextUpF32, hmagnitude, F32.infMagnitude, decide_eq_true_eq]
    omega
  refine ⟨hfinite,
    F32.isNext_of_key (F32.isNaN_of_isFinite hmin) (F32.isNaN_of_isFinite hfinite) ?_⟩
  simp only [F32.key, nextUpF32, hsign', hsign, hmagnitude, Bool.false_eq_true, if_false]
  push_cast
  rfl

/-- The next bit pattern of a value with a set sign bit is not above it. -/
theorem not_lt_nextUpF32 (hmin : min.isFinite) (hsign : min.sign = true) :
    min.lt (nextUpF32 min) = false := by
  obtain ⟨hsign', hmagnitude⟩ := F32.sign_magnitude_add_one hmin
  have hkey : ¬min.key < (nextUpF32 min).key := by
    simp only [F32.key, nextUpF32, hsign', hsign, hmagnitude, if_true]
    omega
  rw [F32.lt, decide_eq_false hkey, Bool.and_false]

private theorem lt_largest_of_le (hle : min.le max) (hlargest : max.lt F32.largest) :
    min.lt F32.largest := by
  simp only [F32.le, F32.lt, Bool.and_eq_true, decide_eq_true_eq] at hle hlargest ⊢
  exact ⟨⟨hle.1.1, hlargest.1.2⟩, lt_of_le_of_lt hle.2 hlargest.2⟩

/-- A padded axis is strictly increasing unless it was degenerate with a set sign bit. -/
theorem lt_paddedMax_iff (hmin : min.isFinite) (hmax : max.isFinite) (hle : min.le max)
    (hlargest : max.lt F32.largest) :
    ((paddedMax min max).isFinite ∧ min.lt (paddedMax min max)) ↔
      (min.lt max ∨ min.sign = false) := by
  cases hlt : min.lt max with
  | true =>
    rw [paddedMax_of_lt hle hlt]
    simp [hmax, hlt]
  | false =>
    rw [paddedMax_of_not_lt hle hlt]
    cases hsign : min.sign with
    | true => simp [not_lt_nextUpF32 hmin hsign]
    | false =>
      obtain ⟨hfinite, hnext, -⟩ := nextUpF32_of_sign hmin (lt_largest_of_le hle hlargest) hsign
      simp [hfinite, hnext]

theorem axisWidened_paddedMax (hmin : min.isFinite) (hmax : max.isFinite) (hle : min.le max)
    (hlargest : max.lt F32.largest) (h : min.lt max ∨ min.sign = false) :
    AxisWidened min max min (paddedMax min max) := by
  have hself : min.le min := by simp [F32.le, F32.isNaN_of_isFinite hmin]
  have heq := F32.eq_iff_of_le hle
  cases hlt : min.lt max with
  | true =>
    rw [paddedMax_of_lt hle hlt]
    rw [hlt] at heq
    exact ⟨hself, by simp [F32.le, F32.isNaN_of_isFinite hmax], fun _ => ⟨rfl, rfl⟩,
      fun h => absurd h (by simp [heq])⟩
  | false =>
    rw [paddedMax_of_not_lt hle hlt]
    rw [hlt] at h heq
    obtain ⟨hfinite, hnext⟩ := nextUpF32_of_sign hmin (lt_largest_of_le hle hlargest)
      (h.resolve_left Bool.false_ne_true)
    refine ⟨hself, ?_, fun h => absurd h (by simp [hlt]), fun _ => ⟨rfl, hnext⟩⟩
    have hnot : ¬min.key < max.key := by
      simpa [F32.lt, F32.isNaN_of_isFinite hmin, F32.isNaN_of_isFinite hmax] using hlt
    have hkey : min.key < (nextUpF32 min).key := by
      simpa [F32.lt, F32.isNaN_of_isFinite hmin, F32.isNaN_of_isFinite hfinite] using hnext.1
    simp only [F32.le, F32.isNaN_of_isFinite hmax, F32.isNaN_of_isFinite hfinite, Bool.not_false,
      Bool.and_self, Bool.true_and, decide_eq_true_eq]
    omega

end Axis

/-! ### Boxes -/

theorem snapBbox_eq_ok_iff {hfx : Hfx} {minx miny maxx maxy : F32} (hx : minx.le maxx)
    (hy : miny.le maxy) {row : ℕ} {bbox : BoundingBox} :
    snapBbox hfx minx miny maxx maxy row = .ok bbox ↔
      hfx.boundingBox minx miny (paddedMax minx maxx) (paddedMax miny maxy) = .ok bbox := by
  unfold snapBbox
  split
  · next found hfound =>
    obtain ⟨rfl, rfl, rfl, rfl⟩ := hfx.boundingBox_holds hfound
    rw [paddedMax_of_lt hx found.lt_x, paddedMax_of_lt hy found.lt_y, hfound, Except.ok.injEq,
      Except.ok.injEq]
  · rw [Checks.mapError_eq_ok_iff]

/-- Only errors depend on the row. -/
theorem snapBbox_congr {hfx : Hfx} {minx miny maxx maxy : F32} {row : ℕ} {bbox : BoundingBox}
    (h : snapBbox hfx minx miny maxx maxy row = .ok bbox) (row' : ℕ) :
    snapBbox hfx minx miny maxx maxy row' = .ok bbox := by
  unfold snapBbox at h ⊢
  split at h
  · exact h
  · rw [Checks.mapError_eq_ok_iff] at h ⊢
    exact h

/-- A box is taken as it is. -/
theorem snapBbox_of_boundingBox {hfx : Hfx} {minx miny maxx maxy : F32} {bbox : BoundingBox}
    (h : hfx.boundingBox minx miny maxx maxy = .ok bbox) (row : ℕ) :
    snapBbox hfx minx miny maxx maxy row = .ok bbox := by
  rw [snapBbox, h]

/-- A padded axis that is increasing ends above its values. -/
theorem le_paddedMax {min max : F32} (hmin : min.isFinite) (hpadded : (paddedMax min max).isFinite)
    (hlt : min.lt (paddedMax min max)) : max.isFinite ∧ max.le (paddedMax min max) := by
  rw [paddedMax] at hpadded hlt ⊢
  split_ifs at hpadded hlt ⊢ with heq
  · simp only [F32.eq, Bool.and_eq_true, Bool.not_eq_true', decide_eq_true_eq] at heq
    obtain ⟨⟨hmaxNaN, hminNaN⟩, hkey⟩ := heq
    have hmagnitude : max.magnitude = min.magnitude := by
      simp only [F32.key] at hkey
      split_ifs at hkey <;> omega
    refine ⟨by rwa [F32.isFinite, hmagnitude], ?_⟩
    simp only [F32.lt, Bool.and_eq_true, decide_eq_true_eq] at hlt
    simp only [F32.le, hmaxNaN, hlt.1.2, hkey, Bool.not_false, Bool.and_self, Bool.true_and,
      decide_eq_true_eq]
    exact hlt.2.le
  · refine ⟨hpadded, ?_⟩
    simp [F32.le, F32.isNaN_of_isFinite hpadded]

/-- The box of a row begins where its bounds begin, and ends where they end or above. -/
theorem le_of_snapBbox {hfx : Hfx} {minx miny maxx maxy : F32} {row : ℕ} {bbox : BoundingBox}
    (h : snapBbox hfx minx miny maxx maxy row = .ok bbox) :
    bbox.minx = minx ∧ bbox.miny = miny ∧ (maxx.isFinite ∧ maxx.le bbox.maxx) ∧
      maxy.isFinite ∧ maxy.le bbox.maxy := by
  unfold snapBbox at h
  split at h
  · next found hfound =>
    obtain rfl := Except.ok.inj h
    obtain ⟨rfl, rfl, rfl, rfl⟩ := hfx.boundingBox_holds hfound
    obtain ⟨-, -, hmaxx, hmaxy⟩ := found.finite
    exact ⟨rfl, rfl, ⟨hmaxx, by simp [F32.le, F32.isNaN_of_isFinite hmaxx]⟩, hmaxy,
      by simp [F32.le, F32.isNaN_of_isFinite hmaxy]⟩
  · obtain ⟨hminx, hminy, hmaxx, hmaxy⟩ :=
      hfx.boundingBox_holds (Checks.mapError_eq_ok_iff.mp h)
    obtain ⟨hfminx, hfminy, hfmaxx, hfmaxy⟩ := bbox.finite
    have hltx := bbox.lt_x
    have hlty := bbox.lt_y
    rw [hminx] at hfminx hltx
    rw [hminy] at hfminy hlty
    rw [hmaxx] at hfmaxx hltx ⊢
    rw [hmaxy] at hfmaxy hlty ⊢
    exact ⟨hminx, hminy, le_paddedMax hfminx hfmaxx hltx, le_paddedMax hfminy hfmaxy hlty⟩

/-- A box whose degenerate axes begin at values with a clear sign bit is widened. -/
theorem exists_snapBbox {hfx : Hfx} {minx miny maxx maxy : F32} {row : ℕ}
    (haccepts : hfx.AcceptsBoxes)
    (hfinite : minx.isFinite ∧ miny.isFinite ∧ maxx.isFinite ∧ maxy.isFinite)
    (hx : minx.le maxx) (hy : miny.le maxy) (hmaxx : maxx.lt F32.largest)
    (hmaxy : maxy.lt F32.largest) (haxisx : minx.lt maxx ∨ minx.sign = false)
    (haxisy : miny.lt maxy ∨ miny.sign = false) :
    ∃ bbox, snapBbox hfx minx miny maxx maxy row = .ok bbox ∧
      AxisWidened minx maxx bbox.minx bbox.maxx ∧ AxisWidened miny maxy bbox.miny bbox.maxy := by
  obtain ⟨hfminx, hfminy, hfmaxx, hfmaxy⟩ := hfinite
  obtain ⟨hfx, hltx⟩ := (lt_paddedMax_iff hfminx hfmaxx hx hmaxx).mpr haxisx
  obtain ⟨hfy, hlty⟩ := (lt_paddedMax_iff hfminy hfmaxy hy hmaxy).mpr haxisy
  have hpadded := haccepts ⟨minx, miny, _, _, ⟨hfminx, hfminy, hfx, hfy⟩, hltx, hlty⟩
  refine ⟨_, (snapBbox_eq_ok_iff hx hy).mpr hpadded, ?_, ?_⟩
  · exact axisWidened_paddedMax hfminx hfmaxx hx hmaxx haxisx
  · exact axisWidened_paddedMax hfminy hfmaxy hy hmaxy haxisy

/-- **Degenerate boxes** are widened exactly when the minimum of each degenerate axis has a clear
sign bit. -/
theorem snapBbox_widened_iff {hfx : Hfx} {minx miny maxx maxy : F32} {row : ℕ}
    (haccepts : hfx.AcceptsBoxes)
    (hfinite : minx.isFinite ∧ miny.isFinite ∧ maxx.isFinite ∧ maxy.isFinite)
    (hx : minx.le maxx) (hy : miny.le maxy) (hmaxx : maxx.lt F32.largest)
    (hmaxy : maxy.lt F32.largest) :
    (∃ bbox, snapBbox hfx minx miny maxx maxy row = .ok bbox ∧
      AxisWidened minx maxx bbox.minx bbox.maxx ∧ AxisWidened miny maxy bbox.miny bbox.maxy) ↔
    (minx.lt maxx ∨ minx.sign = false) ∧ (miny.lt maxy ∨ miny.sign = false) := by
  constructor
  · rintro ⟨bbox, hbbox, -⟩
    obtain ⟨hfminx, hfminy, hfmaxx, hfmaxy⟩ := hfinite
    obtain ⟨rfl, rfl, hpaddedx, hpaddedy⟩ :=
      hfx.boundingBox_holds ((snapBbox_eq_ok_iff hx hy).mp hbbox)
    rw [← lt_paddedMax_iff hfminx hfmaxx hx hmaxx, ← lt_paddedMax_iff hfminy hfmaxy hy hmaxy,
      ← hpaddedx, ← hpaddedy]
    exact ⟨⟨bbox.finite.2.2.1, bbox.lt_x⟩, bbox.finite.2.2.2, bbox.lt_y⟩
  · rintro ⟨haxisx, haxisy⟩
    exact exists_snapBbox haccepts hfinite hx hy hmaxx hmaxy haxisx haxisy

/-- A point with positive coordinates is widened. -/
theorem snapBbox_widened_point : ∃ bbox,
    snapBbox permissiveHfx ⟨0x3f800000⟩ ⟨0x40000000⟩ ⟨0x3f800000⟩ ⟨0x40000000⟩ 0 = .ok bbox ∧
      AxisWidened ⟨0x3f800000⟩ ⟨0x3f800000⟩ bbox.minx bbox.maxx ∧
      AxisWidened ⟨0x40000000⟩ ⟨0x40000000⟩ bbox.miny bbox.maxy :=
  (snapBbox_widened_iff acceptsBoxes_permissiveHfx (by decide) (by decide) (by decide) (by decide)
    (by decide)).mpr (by decide)

/-- **The defect.** A point with a negative coordinate is rejected. -/
theorem not_snapBbox_widened_negative : snapBbox permissiveHfx ⟨0xbf800000⟩ ⟨0x3f800000⟩
    ⟨0xbf800000⟩ ⟨0x3f800000⟩ 0 = .error (.invalidRow "snap.parquet" 0
      "invalid snap bbox even after epsilon padding: invalid bounding box") := by
  decide +kernel

end WatershedDelineation
