import WatershedDelineation.Cog.TilePlan
import WatershedDelineation.General.Binary64Rounding

/-!
# The window of a bounding box

`RasterPixelWindow::from_bbox` of `cog.rs`. The differences of the ends of the box to the origin are
doubles, rounded and possibly infinite; the division by the size of a pixel is exact. A quotient is
rounded to an integer and converted to an `i64`, to the nearest one where it is out of range; a
border of one pixel is then added, and that overflows at the ends of the range.

Where no border overflows, the window holds every pixel that meets the box (`fromBbox_covers`): a
difference is rounded by less than a pixel as long as it leads to a pixel of the raster, so the
border makes up for it. No border overflows exactly when the differences are finite and not too many
pixels (`AxisFits`).
-/

namespace WatershedDelineation

/-- The metadata of a raster, with the position and the size of its pixels as in the header. -/
structure GeoCogMetadata extends CogMetadata where
  originX : BitVec 64
  originY : BitVec 64
  pixelWidth : BitVec 64
  pixelHeight : BitVec 64

/-- A box of finite coordinates. -/
structure CoordRect where
  minX : BitVec 64
  minY : BitVec 64
  maxX : BitVec 64
  maxY : BitVec 64
  finite_minX : Binary64.isFinite minX
  finite_minY : Binary64.isFinite minY
  finite_maxX : Binary64.isFinite maxX
  finite_maxY : Binary64.isFinite maxY
  le_x : Binary64.le minX maxX
  le_y : Binary64.le minY maxY

/-- The quotient of a difference and the size of a pixel, rounded to an integer and converted to an
`i64`. The quotient of an infinity and a finite size is out of range; that of a finite number and an
infinite size is zero, and a NaN is converted to zero. -/
def pixelIndex (round : ℚ → ℤ) (difference size : BitVec 64) : ℤ :=
  if Binary64.isNaN difference || Binary64.isNaN size || Binary64.isInf size then 0
  else if Binary64.isInf difference then
    if difference.msb = size.msb then 2 ^ 63 - 1 else -2 ^ 63
  else SignedWord.saturate 63 (round (Binary64.toRat difference / Binary64.toRat size))

/-- An index with a border. -/
def withBorder (index border : ℤ) : Except (Fault String) ℤ :=
  Checked.orPanic (SignedWord.fit 63 (index + border))

/-- The nearest number from 0 to `size`. -/
def clampTo (size : ℕ) (z : ℤ) : ℕ := (max 0 (min z size)).toNat

/-- The window of the pixels of a bounding box. -/
def RasterPixelWindow.fromBbox (metadata : GeoCogMetadata) (bbox : CoordRect) :
    Except (Fault String) RasterPixelWindow := do
  Checked.rejectIf (Binary64.le metadata.pixelWidth 0 ∨ Binary64.le 0 metadata.pixelHeight)
    "only north-up rasters with positive x and negative y pixels are supported"
  let minCol ← withBorder (pixelIndex Int.floor (Binary64.sub bbox.minX metadata.originX)
    metadata.pixelWidth) (-1)
  let maxCol ← withBorder (pixelIndex Int.ceil (Binary64.sub bbox.maxX metadata.originX)
    metadata.pixelWidth) 1
  let minRow ← withBorder (pixelIndex Int.floor (Binary64.sub bbox.maxY metadata.originY)
    metadata.pixelHeight) (-1)
  let maxRow ← withBorder (pixelIndex Int.ceil (Binary64.sub bbox.minY metadata.originY)
    metadata.pixelHeight) 1
  let colOff := clampTo metadata.width minCol
  let rowOff := clampTo metadata.height minRow
  let colEnd := clampTo metadata.width maxCol
  let rowEnd := clampTo metadata.height maxRow
  let width := colEnd - colOff
  let height := rowEnd - rowOff
  Checked.rejectIf (width = 0 ∨ height = 0) "requested bbox does not intersect raster extent"
  pure ⟨colOff, rowOff, width, height⟩

/-! ### The pixels of a box -/

/-- A coordinate lies in the pixel with an index on an axis: pixels lie one after the other from the
origin on, in the direction of their size. A pixel of infinite size is the only one, and has no
end. -/
def InPixel (origin size : BitVec 64) (i : ℕ) (x : ℚ) : Prop :=
  let first := Binary64.toRat origin + i * Binary64.toRat size
  let last := Binary64.toRat origin + (i + 1) * Binary64.toRat size
  if Binary64.isInf size then i = 0 ∧ 0 ≤ (x - Binary64.toRat origin) * Binary64.toRat size
  else min first last ≤ x ∧ x ≤ max first last

/-- The area of a pixel and the box have a point in common. -/
def PixelMeets (metadata : GeoCogMetadata) (bbox : CoordRect) (row col : ℕ) : Prop :=
  ∃ x y : ℚ, (Binary64.toRat bbox.minX ≤ x ∧ x ≤ Binary64.toRat bbox.maxX) ∧
    (Binary64.toRat bbox.minY ≤ y ∧ y ≤ Binary64.toRat bbox.maxY) ∧
    InPixel metadata.originX metadata.pixelWidth col x ∧
    InPixel metadata.originY metadata.pixelHeight row y

/-- The differences of the ends of a box to the origin are finite, the low end lies at most
`2 ^ 63 - 1` pixels before the origin, and the high end at most `2 ^ 63 - 2` behind it. Any ends
will do if pixels are infinite. -/
def AxisFits (low high size : BitVec 64) : Prop :=
  Binary64.isInf size ∨ (Binary64.isFinite low ∧ Binary64.isFinite high) ∧
    -(2 ^ 63 - 1) ≤ Binary64.toRat low / Binary64.toRat size ∧
    Binary64.toRat high / Binary64.toRat size ≤ 2 ^ 63 - 2

instance (low high size : BitVec 64) : Decidable (AxisFits low high size) :=
  inferInstanceAs (Decidable (_ ∨ (_ ∧ _) ∧ _ ∧ _))

/-- On both axes the box is near enough for a border. -/
def BordersFit (metadata : GeoCogMetadata) (bbox : CoordRect) : Prop :=
  AxisFits (Binary64.sub bbox.minX metadata.originX) (Binary64.sub bbox.maxX metadata.originX)
    metadata.pixelWidth ∧
  AxisFits (Binary64.sub bbox.maxY metadata.originY) (Binary64.sub bbox.minY metadata.originY)
    metadata.pixelHeight

instance (metadata : GeoCogMetadata) (bbox : CoordRect) : Decidable (BordersFit metadata bbox) :=
  inferInstanceAs (Decidable (_ ∧ _))

/-! ### One axis -/

section Axis

open Binary64

variable {round : ℚ → ℤ} {low high size difference : BitVec 64} {lowEnd highEnd : ℚ}
  {index border z : ℤ}

/-- A border can be added when the sum is an `i64`. -/
theorem withBorder_eq_ok_iff :
    withBorder index border = .ok z ↔ SignedWord.Fits 63 (index + border) ∧ index + border = z := by
  rw [withBorder, Checked.orPanic_eq_ok_iff, SignedWord.fit, Option.ite_none_right_eq_some,
    Option.some.injEq]

/-- Pixels of infinite size have the index 0 only. -/
theorem pixelIndex_of_isInf (h : isInf size) : pixelIndex round difference size = 0 := by
  rw [pixelIndex, h, Bool.or_true, if_pos rfl]

/-- The index, by the quotient. -/
theorem pixelIndex_eq (hdifference : isNaN difference = false) (hnan : isNaN size = false)
    (hinf : isInf size = false) (hne : toRat size ≠ 0) : pixelIndex round difference size =
      if isFinite difference then SignedWord.saturate 63 (round (toRat difference / toRat size))
      else if 0 < toRat difference / toRat size then 2 ^ 63 - 1 else -2 ^ 63 := by
  have hsign {x : BitVec 64} (hx : toRat x ≠ 0) : x.msb = true ↔ toRat x < 0 := by
    have hnonneg : 0 ≤ BinaryFormat.value 52 (-1022) (magnitude x) :=
      BinaryFormat.value_nonneg _
    rw [toRat_eq] at hx ⊢
    split_ifs at hx ⊢ with h
    · exact iff_of_true h (lt_of_le_of_ne (neg_nonpos.mpr hnonneg) hx)
    · exact iff_of_false h hnonneg.not_gt
  rw [pixelIndex, hdifference, hnan, hinf, Bool.or_self, Bool.or_self, if_neg Bool.false_ne_true]
  by_cases hfinite : isFinite difference
  · rw [if_pos hfinite, isInf_of_isFinite hfinite, if_neg Bool.false_ne_true]
  · have hisInf : isInf difference := by
      simp only [isNaN, isFinite, isInf, decide_eq_true_eq, decide_eq_false_iff_not] at *
      omega
    have hdifference : toRat difference ≠ 0 := by
      intro hzero
      rw [isFinite_iff_abs_toRat_lt, hzero, abs_zero] at hfinite
      exact hfinite (by positivity)
    rw [if_neg hfinite, if_pos hisInf]
    refine if_congr ?_ rfl rfl
    rw [Bool.eq_iff_iff, hsign hdifference, hsign hne, div_pos_iff]
    constructor
    · intro h
      rcases lt_or_gt_of_ne hne with hneg | hpos
      · exact .inr ⟨h.mpr hneg, hneg⟩
      · exact .inl ⟨lt_of_le_of_ne (not_lt.mp fun hlt => (h.mp hlt).not_gt hpos)
          hdifference.symm, hpos⟩
    · rintro (⟨hd, hs⟩ | ⟨hd, hs⟩)
      · exact iff_of_false hd.not_gt hs.not_gt
      · exact iff_of_true hd hs

/-- The words of an axis stand for ends, counted from the origin on in the direction of the
pixels. -/
structure AxisEnds (low high size : BitVec 64) (lowEnd highEnd : ℚ) : Prop where
  low_number : isNaN low = false
  high_number : isNaN high = false
  size_number : isNaN size = false
  size_ne : toRat size ≠ 0
  low_div : toRat low / toRat size = rounded lowEnd / |toRat size|
  high_div : toRat high / toRat size = rounded highEnd / |toRat size|
  le : lowEnd ≤ highEnd

namespace AxisEnds

variable (h : AxisEnds low high size lowEnd highEnd)

include h

theorem size_pos : 0 < |toRat size| := abs_pos.mpr h.size_ne

/-- The low difference is finite when it is not rounded to an infinity. -/
theorem isFinite_low : isFinite low ↔ |rounded lowEnd| < 2 ^ 1024 := by
  have habs := congrArg abs h.low_div
  rw [abs_div, abs_div, abs_abs, div_left_inj' h.size_pos.ne'] at habs
  rw [isFinite_iff_abs_toRat_lt, habs]

/-- The high difference is finite when it is not rounded to an infinity. -/
theorem isFinite_high : isFinite high ↔ |rounded highEnd| < 2 ^ 1024 := by
  have habs := congrArg abs h.high_div
  rw [abs_div, abs_div, abs_abs, div_left_inj' h.size_pos.ne'] at habs
  rw [isFinite_iff_abs_toRat_lt, habs]

/-- Both borders can be added exactly when the axis fits. -/
theorem axisFits_iff : SignedWord.Fits 63 (pixelIndex Int.floor low size + -1) ∧
    SignedWord.Fits 63 (pixelIndex Int.ceil high size + 1) ↔ AxisFits low high size := by
  cases hinf : isInf size with
  | true =>
    rw [pixelIndex_of_isInf hinf, pixelIndex_of_isInf hinf, AxisFits, hinf]
    exact iff_of_true (by decide) (.inl rfl)
  | false =>
    have hpos := h.size_pos
    rw [pixelIndex_eq h.low_number h.size_number hinf h.size_ne,
      pixelIndex_eq h.high_number h.size_number hinf h.size_ne, AxisFits, hinf,
      or_iff_right Bool.false_ne_true]
    by_cases hfinite : isFinite low ∧ isFinite high
    · rw [if_pos hfinite.1, if_pos hfinite.2, and_iff_right hfinite]
      have hfloor : (-(2 ^ 63 - 1) : ℚ) ≤ toRat low / toRat size
          ↔ -(2 ^ 63 - 1) ≤ ⌊toRat low / toRat size⌋ := by
        rw [Int.le_floor]
        norm_num
      have hceil : toRat high / toRat size ≤ 2 ^ 63 - 2
          ↔ ⌈toRat high / toRat size⌉ ≤ 2 ^ 63 - 2 := by
        rw [Int.ceil_le]
        norm_num
      rw [hfloor, hceil, SignedWord.Fits, SignedWord.Fits, SignedWord.saturate,
        SignedWord.saturate]
      omega
    · refine iff_of_false (fun hfits => hfinite ?_) fun hfits => hfinite hfits.1
      obtain ⟨hfitsLow, hfitsHigh⟩ := hfits
      simp only [h.low_div, div_pos_iff_of_pos_right hpos] at hfitsLow
      simp only [h.high_div, div_pos_iff_of_pos_right hpos] at hfitsHigh
      -- an infinite high end behind the origin leaves no room for a border
      have hhigh (hpositive : 0 < rounded highEnd) : isFinite high := by
        by_contra hinfinite
        rw [if_neg hinfinite, if_pos hpositive] at hfitsHigh
        exact absurd hfitsHigh (by decide)
      have hle : rounded lowEnd ≤ rounded highEnd := rounded_mono h.le
      have hlow : isFinite low := by
        by_contra hinfinite
        rw [if_neg hinfinite] at hfitsLow
        split_ifs at hfitsLow with hpositive
        · -- then the high end is infinite too
          have hfinite := h.isFinite_high.mp (hhigh (hpositive.trans_le hle))
          rw [h.isFinite_low, abs_of_pos hpositive] at hinfinite
          exact hinfinite (hle.trans_lt ((le_abs_self _).trans_lt hfinite))
        · exact absurd hfitsLow (by decide)
      refine ⟨hlow, ?_⟩
      by_contra hinfinite
      have hnonpos : rounded highEnd ≤ 0 := not_lt.mp fun hlt => hinfinite (hhigh hlt)
      have hfinite := abs_lt.mp (h.isFinite_low.mp hlow)
      rw [h.isFinite_high, abs_of_nonpos hnonpos] at hinfinite
      exact hinfinite (neg_lt.mp (hfinite.1.trans_le hle))

/-- **One axis.** A pixel that meets the box lies between the clamped ends. -/
theorem mem_axis (hfits : AxisFits low high size) {n i : ℕ} (hn : n ≤ 2 ^ 32) (hi : i < n) {x : ℚ}
    (hx : lowEnd ≤ x ∧ x ≤ highEnd)
    (hpixel : isInf size → i = 0)
    (hpixel' : isInf size = false → i * |toRat size| ≤ x ∧ x ≤ (i + 1) * |toRat size|) :
    clampTo n (pixelIndex Int.floor low size + -1) ≤ i ∧
      i < clampTo n (pixelIndex Int.ceil high size + 1) := by
  cases hinf : isInf size with
  | true =>
    rw [pixelIndex_of_isInf hinf, pixelIndex_of_isInf hinf, hpixel hinf]
    simp only [clampTo]
    omega
  | false =>
    obtain ⟨hfirst, hlast⟩ := hpixel' hinf
    obtain ⟨⟨hlow, hhigh⟩, -, hbound⟩ := hfits.resolve_left (by rw [hinf]; exact Bool.false_ne_true)
    have hpos := h.size_pos
    have hstep := le_abs_toRat h.size_ne
    -- rounding moves the ends by less than a pixel
    have hlowEnd : rounded lowEnd < (i + 1 + 1) * |toRat size| := by
      exact_mod_cast rounded_lt_of_le_mul (n := i + 1) hstep (by omega)
        (by push_cast; exact hx.1.trans hlast)
    have hhighEnd : (i - 1) * |toRat size| < rounded highEnd :=
      lt_rounded_of_mul_le hstep (by omega) (hfirst.trans hx.2)
        ((le_abs_self _).trans_lt (h.isFinite_high.mp hhigh))
    have hfloor : ⌊toRat low / toRat size⌋ < i + 2 := by
      rw [h.low_div, Int.floor_lt, div_lt_iff₀ hpos]
      push_cast
      linarith
    have hceil : (i : ℤ) - 1 < ⌈toRat high / toRat size⌉ := by
      rw [h.high_div, Int.lt_ceil, lt_div_iff₀ hpos]
      push_cast
      exact hhighEnd
    have hceil' : ⌈toRat high / toRat size⌉ ≤ 2 ^ 63 - 2 :=
      Int.ceil_le.mpr (by exact_mod_cast hbound)
    rw [pixelIndex_eq h.low_number h.size_number hinf h.size_ne, if_pos hlow,
      pixelIndex_eq h.high_number h.size_number hinf h.size_ne, if_pos hhigh]
    simp only [clampTo, SignedWord.saturate]
    omega

end AxisEnds

end Axis

/-! ### The window -/

section Window

open Binary64

variable {metadata : GeoCogMetadata} {bbox : CoordRect} {origin size : BitVec 64} {i : ℕ} {x : ℚ}

/-- A pixel of the raster lies in a window. -/
def RasterPixelWindow.Holds (window : RasterPixelWindow) (row col : ℕ) : Prop :=
  (window.rowOff ≤ row ∧ row < window.rowOff + window.height) ∧
    window.colOff ≤ col ∧ col < window.colOff + window.width

/-- A raster whose pixels lie to the right of its origin and below it. -/
structure NorthUp (metadata : GeoCogMetadata) : Prop where
  pixelWidth : Binary64.lt 0 metadata.pixelWidth
  pixelHeight : Binary64.lt metadata.pixelHeight 0
  finite_originX : Binary64.isFinite metadata.originX
  finite_originY : Binary64.isFinite metadata.originY

/-- Words that are not NaN are compared as numbers. -/
theorem lt_iff (a b : BitVec 64) :
    lt a b ↔ (isNaN a = false ∧ isNaN b = false) ∧ toRat a < toRat b := by
  rw [toRat_lt_toRat_iff]
  simp [lt]

namespace NorthUp

variable (h : NorthUp metadata)

include h

theorem pixelWidth_pos : isNaN metadata.pixelWidth = false ∧ 0 < toRat metadata.pixelWidth := by
  have hlt := (lt_iff _ _).mp h.pixelWidth
  rw [toRat_zero] at hlt
  exact ⟨hlt.1.2, hlt.2⟩

theorem pixelHeight_neg : isNaN metadata.pixelHeight = false ∧ toRat metadata.pixelHeight < 0 := by
  have hlt := (lt_iff _ _).mp h.pixelHeight
  rw [toRat_zero] at hlt
  exact ⟨hlt.1.1, hlt.2⟩

/-- A raster that is north up passes the check of the pixel sizes. -/
theorem not_rejected :
    ¬(Binary64.le metadata.pixelWidth 0 ∨ Binary64.le 0 metadata.pixelHeight) := by
  have hzero : isNaN 0 = false := by decide
  rw [le_iff_toRat_le h.pixelWidth_pos.1 hzero, le_iff_toRat_le hzero h.pixelHeight_neg.1,
    toRat_zero, not_or, not_le, not_le]
  exact ⟨h.pixelWidth_pos.2, h.pixelHeight_neg.2⟩

/-- The columns of a box. -/
theorem columns (bbox : CoordRect) : AxisEnds (sub bbox.minX metadata.originX)
    (sub bbox.maxX metadata.originX) metadata.pixelWidth
    (toRat bbox.minX - toRat metadata.originX) (toRat bbox.maxX - toRat metadata.originX) := by
  obtain ⟨hnan, hpos⟩ := h.pixelWidth_pos
  obtain ⟨hlow, hlowRat⟩ := sub_spec bbox.finite_minX h.finite_originX
  obtain ⟨hhigh, hhighRat⟩ := sub_spec bbox.finite_maxX h.finite_originX
  have hle := (le_iff_toRat_le (isNaN_of_isFinite bbox.finite_minX)
    (isNaN_of_isFinite bbox.finite_maxX)).mp bbox.le_x
  refine ⟨hlow, hhigh, hnan, hpos.ne', ?_, ?_, sub_le_sub_right hle _⟩
  · rw [hlowRat, abs_of_pos hpos]
  · rw [hhighRat, abs_of_pos hpos]

/-- The rows of a box, which begin at its upper end. -/
theorem rows (bbox : CoordRect) : AxisEnds (sub bbox.maxY metadata.originY)
    (sub bbox.minY metadata.originY) metadata.pixelHeight
    (toRat metadata.originY - toRat bbox.maxY) (toRat metadata.originY - toRat bbox.minY) := by
  obtain ⟨hnan, hneg⟩ := h.pixelHeight_neg
  obtain ⟨hlow, hlowRat⟩ := sub_spec bbox.finite_maxY h.finite_originY
  obtain ⟨hhigh, hhighRat⟩ := sub_spec bbox.finite_minY h.finite_originY
  have hle := (le_iff_toRat_le (isNaN_of_isFinite bbox.finite_minY)
    (isNaN_of_isFinite bbox.finite_maxY)).mp bbox.le_y
  refine ⟨hlow, hhigh, hnan, hneg.ne, ?_, ?_, sub_le_sub_left hle _⟩
  · rw [hlowRat, abs_of_neg hneg, ← neg_sub, rounded_neg, neg_div, div_neg]
  · rw [hhighRat, abs_of_neg hneg, ← neg_sub, rounded_neg, neg_div, div_neg]

end NorthUp

theorem InPixel.eq_zero (h : InPixel origin size i x) (hinf : isInf size) : i = 0 := by
  rw [InPixel, if_pos hinf] at h
  exact h.1

/-- Pixels of positive size lie behind the origin, one after the other. -/
theorem InPixel.of_pos (h : InPixel origin size i x) (hsize : 0 < toRat size)
    (hinf : isInf size = false) : i * |toRat size| ≤ x - toRat origin ∧
      x - toRat origin ≤ (i + 1) * |toRat size| := by
  simp only [InPixel, hinf, Bool.false_eq_true, if_false] at h
  rw [min_eq_left (by linarith), max_eq_right (by linarith)] at h
  rw [abs_of_pos hsize]
  constructor <;> linarith

/-- Pixels of negative size lie before the origin, one after the other. -/
theorem InPixel.of_neg (h : InPixel origin size i x) (hsize : toRat size < 0)
    (hinf : isInf size = false) : i * |toRat size| ≤ toRat origin - x ∧
      toRat origin - x ≤ (i + 1) * |toRat size| := by
  simp only [InPixel, hinf, Bool.false_eq_true, if_false] at h
  rw [min_eq_right (by linarith), max_eq_left (by linarith)] at h
  rw [abs_of_neg hsize]
  constructor <;> linarith

theorem clampTo_le (size : ℕ) (z : ℤ) : clampTo size z ≤ size := by
  rw [clampTo]
  omega

/-- What goes on after a border has been added, when nothing panics. -/
theorem fits_of_ne_panic {α : Type} {index border : ℤ} {f : ℤ → Except (Fault String) α}
    (h : (withBorder index border >>= f) ≠ .error .panic) :
    SignedWord.Fits 63 (index + border) ∧ f (index + border) ≠ .error .panic := by
  rw [withBorder, SignedWord.fit] at h
  split_ifs at h with hfits
  · exact ⟨hfits, h⟩
  · exact absurd rfl h

theorem withBorder_of_fits {index border : ℤ} (h : SignedWord.Fits 63 (index + border)) :
    withBorder index border = .ok (index + border) :=
  withBorder_eq_ok_iff.mpr ⟨h, rfl⟩

/-- A window can be computed only if the borders fit. -/
theorem bordersFit_of_ne_panic (hnorth : NorthUp metadata)
    (h : RasterPixelWindow.fromBbox metadata bbox ≠ .error .panic) : BordersFit metadata bbox := by
  rw [RasterPixelWindow.fromBbox, Checked.rejectIf, if_neg hnorth.not_rejected,
    Checks.ok_bind] at h
  obtain ⟨hminCol, h⟩ := fits_of_ne_panic h
  obtain ⟨hmaxCol, h⟩ := fits_of_ne_panic h
  obtain ⟨hminRow, h⟩ := fits_of_ne_panic h
  obtain ⟨hmaxRow, -⟩ := fits_of_ne_panic h
  exact ⟨(hnorth.columns bbox).axisFits_iff.mp ⟨hminCol, hmaxCol⟩,
    (hnorth.rows bbox).axisFits_iff.mp ⟨hminRow, hmaxRow⟩⟩

/-- When the borders fit, the window has ends in the raster, between which are the pixels that meet
the box. -/
theorem BordersFit.exists_ends (h : BordersFit metadata bbox) (hnorth : NorthUp metadata) :
    ∃ colOff colEnd rowOff rowEnd, (colEnd ≤ metadata.width ∧ rowEnd ≤ metadata.height) ∧
      RasterPixelWindow.fromBbox metadata bbox =
        (if colEnd - colOff = 0 ∨ rowEnd - rowOff = 0 then
          .error (.err "requested bbox does not intersect raster extent")
        else .ok ⟨colOff, rowOff, colEnd - colOff, rowEnd - rowOff⟩) ∧
      ∀ row < metadata.height, ∀ col < metadata.width, PixelMeets metadata bbox row col →
        (colOff ≤ col ∧ col < colEnd) ∧ rowOff ≤ row ∧ row < rowEnd := by
  obtain ⟨hcolumns, hrows⟩ := h
  obtain ⟨hminCol, hmaxCol⟩ := (hnorth.columns bbox).axisFits_iff.mpr hcolumns
  obtain ⟨hminRow, hmaxRow⟩ := (hnorth.rows bbox).axisFits_iff.mpr hrows
  refine ⟨clampTo metadata.width (pixelIndex Int.floor (sub bbox.minX metadata.originX)
      metadata.pixelWidth + -1),
    clampTo metadata.width (pixelIndex Int.ceil (sub bbox.maxX metadata.originX)
      metadata.pixelWidth + 1),
    clampTo metadata.height (pixelIndex Int.floor (sub bbox.maxY metadata.originY)
      metadata.pixelHeight + -1),
    clampTo metadata.height (pixelIndex Int.ceil (sub bbox.minY metadata.originY)
      metadata.pixelHeight + 1),
    ⟨clampTo_le _ _, clampTo_le _ _⟩, ?_, fun row hrow col hcol hmeets => ⟨?_, ?_⟩⟩
  · rw [RasterPixelWindow.fromBbox, Checked.rejectIf, if_neg hnorth.not_rejected, Checks.ok_bind,
      withBorder_of_fits hminCol, Checks.ok_bind, withBorder_of_fits hmaxCol, Checks.ok_bind,
      withBorder_of_fits hminRow, Checks.ok_bind, withBorder_of_fits hmaxRow, Checks.ok_bind]
    dsimp only
    rw [Checked.rejectIf]
    split_ifs <;> rfl
  · obtain ⟨x, -, hx, -, hpixel, -⟩ := hmeets
    exact (hnorth.columns bbox).mem_axis hcolumns metadata.width_lt.le hcol
      ⟨sub_le_sub_right hx.1 _, sub_le_sub_right hx.2 _⟩ hpixel.eq_zero
      (hpixel.of_pos hnorth.pixelWidth_pos.2)
  · obtain ⟨-, y, -, hy, -, hpixel⟩ := hmeets
    exact (hnorth.rows bbox).mem_axis hrows metadata.height_lt.le hrow
      ⟨sub_le_sub_left hy.2 _, sub_le_sub_left hy.1 _⟩ hpixel.eq_zero
      (hpixel.of_neg hnorth.pixelHeight_neg.2)

/-- **The window of a box.** The window is not empty, lies in the raster and holds every pixel that
meets the box, an error is returned only when no pixel meets it, and no computation overflows:
exactly when the box is near enough for the borders. -/
theorem fromBbox_covers (hnorth : NorthUp metadata) :
    (RasterPixelWindow.fromBbox metadata bbox ≠ .error .panic ∧
      (∀ window, RasterPixelWindow.fromBbox metadata bbox = .ok window →
        (0 < window.width ∧ 0 < window.height) ∧
        (window.colOff + window.width ≤ metadata.width ∧
          window.rowOff + window.height ≤ metadata.height) ∧
        ∀ row < metadata.height, ∀ col < metadata.width, PixelMeets metadata bbox row col →
          window.Holds row col) ∧
      ∀ e, RasterPixelWindow.fromBbox metadata bbox = .error (.err e) →
        ∀ row < metadata.height, ∀ col < metadata.width, ¬PixelMeets metadata bbox row col) ↔
    BordersFit metadata bbox := by
  constructor
  · rintro ⟨hpanic, -⟩
    exact bordersFit_of_ne_panic hnorth hpanic
  · intro hfits
    obtain ⟨colOff, colEnd, rowOff, rowEnd, ⟨hcolEnd, hrowEnd⟩, hfromBbox, hmeets⟩ :=
      hfits.exists_ends hnorth
    rw [hfromBbox]
    by_cases hempty : colEnd - colOff = 0 ∨ rowEnd - rowOff = 0
    · rw [if_pos hempty]
      refine ⟨by rintro ⟨⟩, by rintro _ ⟨⟩, fun e _ row hrow col hcol h => ?_⟩
      have := hmeets row hrow col hcol h
      omega
    · rw [if_neg hempty]
      refine ⟨by rintro ⟨⟩, fun window h => ?_, by rintro _ ⟨⟩⟩
      obtain rfl := Except.ok.inj h
      dsimp only [RasterPixelWindow.Holds]
      refine ⟨by omega, by omega, fun row hrow col hcol h => ?_⟩
      have := hmeets row hrow col hcol h
      omega

theorem two_lt_word : 2 < 2 ^ 32 := by decide

/-- A raster of two by two unit pixels, north up. -/
def unitCog : GeoCogMetadata where
  toCogMetadata :=
    ⟨2, 2, 2, 2, "255", .u8, 1, two_lt_word, two_lt_word, two_lt_word, two_lt_word, Nat.two_pos,
      Nat.two_pos⟩
  originX := 0
  originY := 0
  pixelWidth := 0x3ff0000000000000
  pixelHeight := 0xbff0000000000000

theorem northUp_unitCog : NorthUp unitCog := by constructor <;> decide

/-- A box in the lower left pixel, from 1/4 to 1/2 and from -3/2 to -5/4. -/
def innerBox : CoordRect :=
  ⟨0x3fd0000000000000, 0xbff8000000000000, 0x3fe0000000000000, 0xbff4000000000000, by decide,
    by decide, by decide, by decide, by decide, by decide⟩

theorem fromBbox_covers_unit : BordersFit unitCog innerBox ∧
    ∀ window, RasterPixelWindow.fromBbox unitCog innerBox = .ok window → window.Holds 1 0 := by
  have hfits : BordersFit unitCog innerBox := by decide +kernel
  have hcovers := (fromBbox_covers northUp_unitCog).mpr hfits
  refine ⟨hfits, fun window h => (hcovers.2.1 window h).2.2 1 (by decide) 0 (by decide) ?_⟩
  refine ⟨1 / 4, -5 / 4, by decide +kernel, by decide +kernel, ?_, ?_⟩
  · rw [InPixel, if_neg (by decide)]
    decide +kernel
  · rw [InPixel, if_neg (by decide)]
    decide +kernel

/-- A box from `-2 ^ 63` to 1 and from -1 to 0. -/
def farBox : CoordRect :=
  ⟨0xc3e0000000000000, 0xbff0000000000000, 0x3ff0000000000000, 0, by decide, by decide, by decide,
    by decide, by decide, by decide⟩

/-- A box that meets a pixel and begins `2 ^ 63` pixels to the left of the raster. -/
theorem fromBbox_panics : PixelMeets unitCog farBox 0 0 ∧
    RasterPixelWindow.fromBbox unitCog farBox = .error .panic := by
  refine ⟨⟨0, 0, by decide +kernel, by decide +kernel, ?_, ?_⟩, by decide +kernel⟩
  · rw [InPixel, if_neg (by decide)]
    decide +kernel
  · rw [InPixel, if_neg (by decide)]
    decide +kernel

end Window

end WatershedDelineation
