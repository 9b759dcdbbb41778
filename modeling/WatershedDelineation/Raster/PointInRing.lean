import Mathlib.Data.Sign.Defs
import Mathlib.Tactic.LinearCombination
import Mathlib.Tactic.Positivity
import WatershedDelineation.Raster.BoundaryRings

/-!
# Points strictly inside a ring

The containment test of the geometry library is used on polygons without interiors only, and
is assumed to be true exactly for strictly interior points (`ContainsIsStrict`): points around
which the exterior ring winds (`windingNumber`, the signed crossings of the ray in positive x
direction) and which lie on none of its segments.

For the rings of a mask this is decided by the lattice winding number of a neighbouring cell:
`windingNumber_toGeoCoords` for any non-degenerate transform and `strictlyInside_iff` for the
first vertices of holes.
-/

namespace WatershedDelineation

open ClosedWalk LatticeRing

/-- Positive when `p` lies to the left of the directed line from `a` to `b`, zero on it. -/
def isLeft (a b p : NativeCoord) : ℚ := (b.x - a.x) * (p.y - a.y) - (p.x - a.x) * (b.y - a.y)

/-- The signed crossing of a segment with the ray from `p` in positive x direction; a segment
contains its lower end and not its upper one. -/
def rayCrossing (p : NativeCoord) (e : NativeCoord × NativeCoord) : ℤ :=
  if e.1.y ≤ p.y ∧ p.y < e.2.y ∧ 0 < isLeft e.1 e.2 p then 1
  else if e.2.y ≤ p.y ∧ p.y < e.1.y ∧ isLeft e.1 e.2 p < 0 then -1
  else 0

/-- How often a ring winds around a point. -/
def windingNumber (ring : List NativeCoord) (p : NativeCoord) : ℤ :=
  ((steps ring).map (rayCrossing p)).sum

/-- Whether `p` lies on the closed segment `e`. -/
def OnSegment (p : NativeCoord) (e : NativeCoord × NativeCoord) : Prop :=
  isLeft e.1 e.2 p = 0 ∧ min e.1.x e.2.x ≤ p.x ∧ p.x ≤ max e.1.x e.2.x ∧
    min e.1.y e.2.y ≤ p.y ∧ p.y ≤ max e.1.y e.2.y

instance (p : NativeCoord) (e : NativeCoord × NativeCoord) : Decidable (OnSegment p e) :=
  inferInstanceAs (Decidable (_ ∧ _))

/-- A point strictly inside a ring: the ring winds around it, and it is not on the ring. -/
def StrictlyInside (ring : List NativeCoord) (p : NativeCoord) : Prop :=
  windingNumber ring p ≠ 0 ∧ ∀ e ∈ steps ring, ¬OnSegment p e

instance (ring : List NativeCoord) (p : NativeCoord) : Decidable (StrictlyInside ring p) :=
  inferInstanceAs (Decidable (_ ∧ _))

/-- What is assumed of the geometry library: for polygons without interiors, `contains` is true
exactly for strictly interior points. -/
def ContainsIsStrict (contains : Polygon → NativeCoord → Bool) : Prop :=
  ∀ polygon, polygon.interiors = [] → ∀ p, contains polygon p = true ↔
    StrictlyInside polygon.exterior p

/-- A strict containment test for polygons without interiors. -/
def strictContains (polygon : Polygon) (p : NativeCoord) : Bool :=
  decide (StrictlyInside polygon.exterior p)

theorem strictContains_isStrict : ContainsIsStrict strictContains := fun _ _ _ =>
  decide_eq_true_iff

theorem toGeoCoords_eq (ring : List Corner) (geo : GeoTransform) :
    toGeoCoords ring geo = ring.map fun v => geo.cornerCoord v.row v.col := rfl

/-! ### Winding numbers of lattice rings -/

section Lattice

variable {geo : GeoTransform} {pr pc : ℚ} {i j : ℤ}

/-- The lattice cell `(i, j)` stands for the point at row `pr` and column `pc`: both see the
same rows below and the same columns on their left, with the ends of segments counted as the
direction of the axes demands. -/
structure Represents (geo : GeoTransform) (pr pc : ℚ) (i j : ℤ) : Prop where
  row : ∀ n : ℤ, i < n ↔ if geo.pixelHeight < 0 then pr ≤ n else pr < n
  col : ∀ n : ℤ, n ≤ j ↔ if 0 < geo.pixelWidth then (n : ℚ) ≤ pc else (n : ℚ) < pc

/-- A lattice point in native coordinates. -/
def GeoTransform.ofPoint (geo : GeoTransform) (v : Point) : NativeCoord :=
  geo.cornerCoord v.1 v.2

private theorem y_le_iff (hh : geo.pixelHeight ≠ 0) (h : Represents geo pr pc i j) (v : Point) :
    (geo.ofPoint v).y ≤ (geo.cornerCoord pr pc).y ↔
      if geo.pixelHeight < 0 then i < v.1 else ¬i < v.1 := by
  simp only [GeoTransform.ofPoint, GeoTransform.cornerCoord, add_le_add_iff_left]
  have hrow := h.row v.1
  split_ifs at hrow ⊢ with hneg
  · rw [hrow, mul_le_mul_right_of_neg hneg]
  · rw [hrow, mul_le_mul_iff_left₀ (lt_of_le_of_ne (not_lt.mp hneg) hh.symm), not_lt]

private theorem lt_y_iff (hh : geo.pixelHeight ≠ 0) (h : Represents geo pr pc i j) (v : Point) :
    (geo.cornerCoord pr pc).y < (geo.ofPoint v).y ↔
      ¬if geo.pixelHeight < 0 then i < v.1 else ¬i < v.1 := by
  rw [← not_le, y_le_iff hh h]

/-- The columns that the ray reaches. -/
private theorem ray_iff (hw : geo.pixelWidth ≠ 0) (h : Represents geo pr pc i j) (n : ℤ) :
    0 < geo.pixelWidth * ((n : ℚ) - pc) ↔ if 0 < geo.pixelWidth then ¬n ≤ j else n ≤ j := by
  have hcol := h.col n
  split_ifs at hcol ⊢ with hpos
  · rw [hcol, mul_pos_iff_of_pos_left hpos, sub_pos, not_le]
  · have hneg : geo.pixelWidth < 0 := lt_of_le_of_ne (not_lt.mp hpos) hw
    rw [hcol]
    constructor <;> intro hlt <;> nlinarith

/-- A segment between the two rows of a vertical lattice edge has the ray's origin on the side
that its direction and the direction of the rows say. -/
private theorem isLeft_vertical (a b n : ℤ) :
    isLeft (geo.ofPoint (a, n)) (geo.ofPoint (b, n)) (geo.cornerCoord pr pc)
      = geo.pixelHeight * (b - a) * (geo.pixelWidth * (n - pc)) := by
  simp only [isLeft, GeoTransform.ofPoint, GeoTransform.cornerCoord]
  ring

private theorem rayCrossing_ofPoint (hgeo : geo.Invertible) (h : Represents geo pr pc i j)
    {e : Point × Point} (he : ∃ p d, e = side p d) :
    rayCrossing (geo.cornerCoord pr pc) (geo.ofPoint e.1, geo.ofPoint e.2)
      = if (if 0 < geo.pixelWidth then ¬e.1.2 ≤ j else e.1.2 ≤ j) then
          (if geo.pixelHeight < 0 then 1 else -1)
            * ((if i < e.1.1 then 1 else 0) - (if i < e.2.1 then 1 else 0))
        else 0 := by
  obtain ⟨hw, hh⟩ := hgeo
  obtain ⟨⟨a, b⟩, d, rfl⟩ := he
  have hvertical : ∀ n a' b' : ℤ, (b' = a' + 1 ∨ a' = b' + 1) →
      rayCrossing (geo.cornerCoord pr pc) (geo.ofPoint (a', n), geo.ofPoint (b', n))
        = if (if 0 < geo.pixelWidth then ¬n ≤ j else n ≤ j) then
            (if geo.pixelHeight < 0 then 1 else -1)
              * ((if i < a' then 1 else 0) - (if i < b' then 1 else 0))
          else 0 := by
    intro n a' b' hab
    simp only [rayCrossing, y_le_iff hh h, lt_y_iff hh h, isLeft_vertical, ← ray_iff hw h]
    generalize geo.pixelWidth * ((n : ℚ) - pc) = x
    have hup : ((a' + 1 : ℤ) : ℚ) - a' = 1 := by push_cast; ring
    have hdown : (b' : ℚ) - ((b' + 1 : ℤ) : ℚ) = -1 := by push_cast; ring
    rcases hh.lt_or_gt with hneg | hpos
    · have hsign : geo.pixelHeight * x < 0 ↔ 0 < x := by
        constructor <;> intro hx <;> nlinarith
      rcases hab with rfl | rfl
      · simp only [hup, hneg, if_true, mul_one, hsign]
        grind
      · simp only [hdown, hneg, if_true, mul_neg, mul_one, neg_mul, Left.neg_pos_iff, hsign]
        grind
    · have hsign : 0 < geo.pixelHeight * x ↔ 0 < x := mul_pos_iff_of_pos_left hpos
      rcases hab with rfl | rfl
      · simp only [hup, hpos.not_gt, if_false, mul_one, hsign]
        grind
      · simp only [hdown, hpos.not_gt, if_false, mul_neg, mul_one, neg_mul, Left.neg_neg_iff, hsign]
        grind
  cases d with
  | right => exact hvertical _ _ _ (.inl rfl)
  | left => exact hvertical _ _ _ (.inr rfl)
  -- a side along a row does not cross a ray along a row
  | top =>
    simp only [rayCrossing, side, y_le_iff hh h, lt_y_iff hh h]
    grind
  | bottom =>
    simp only [rayCrossing, side, y_le_iff hh h, lt_y_iff hh h]
    grind

/-- **Winding numbers of lattice rings.** Up to the handedness of the transform, a ring in
native coordinates winds around a point as the lattice ring winds around the cell that
represents it. -/
theorem windingNumber_ofPoint (hgeo : geo.Invertible) (h : Represents geo pr pc i j)
    {ring : List Point} (hclosed : Closed ring) (hunit : Unit ring) :
    windingNumber (ring.map geo.ofPoint) (geo.cornerCoord pr pc)
      = (if 0 < geo.pixelWidth ∧ geo.pixelHeight < 0 ∨ geo.pixelWidth < 0 ∧ 0 < geo.pixelHeight
          then -1 else 1) * wind ring (i, j) := by
  obtain ⟨hw, hh⟩ := hgeo
  -- all crossings of the row cancel, so the ray in either direction counts the same
  have hall := hclosed.sum_eq_zero fun v : Point => if i < v.1 then (1 : ℤ) else 0
  have hcross : ∀ e ∈ steps ring, rayCrossing (geo.cornerCoord pr pc)
        (geo.ofPoint e.1, geo.ofPoint e.2)
      = (if 0 < geo.pixelWidth then (if geo.pixelHeight < 0 then -1 else 1) else 0)
          * ((if i < e.2.1 then 1 else 0) - (if i < e.1.1 then 1 else 0))
        + (if 0 < geo.pixelWidth ∧ geo.pixelHeight < 0 ∨ geo.pixelWidth < 0 ∧ 0 < geo.pixelHeight
            then -1 else 1) * cross e (i, j) := by
    intro e he
    rw [rayCrossing_ofPoint ⟨hw, hh⟩ h (hunit e he), cross]
    rcases hw.lt_or_gt with hw' | hw' <;> rcases hh.lt_or_gt with hh' | hh' <;>
      simp only [hw', hh', hw'.not_gt, hh'.not_gt, if_true, if_false, false_and, or_false, or_true,
        or_self, and_self, and_false] <;>
      split_ifs <;> simp_all
  have hsum := congrArg List.sum (List.map_congr_left hcross)
  rw [List.sum_map_add, List.sum_map_mul_left, List.sum_map_mul_left, hall, mul_zero,
    zero_add] at hsum
  rw [windingNumber, steps_map, List.map_map]
  exact hsum

/-- The centre of a cell is not on a grid line. -/
private theorem add_half_ne (i n : ℤ) : (i : ℚ) + 1 / 2 ≠ n := by
  intro h
  have htwo : (2 * i + 1 : ℤ) = 2 * n := by
    have : 2 * (i : ℚ) + 1 = 2 * n := by linarith
    exact_mod_cast this
  omega

private theorem lt_iff_add_half_le {i n : ℤ} : i < n ↔ (i : ℚ) + 1 / 2 ≤ n := by
  constructor
  · intro h
    have : (i : ℚ) + 1 ≤ n := by exact_mod_cast h
    linarith
  · intro h
    have : (i : ℚ) < n := by linarith
    exact_mod_cast this

private theorem le_iff_lt_add_half {j n : ℤ} : n ≤ j ↔ (n : ℚ) < j + 1 / 2 := by
  rw [← not_lt, lt_iff_add_half_le, not_le]

/-- A cell stands for its centre. -/
theorem represents_center (geo : GeoTransform) (i j : ℤ) :
    Represents geo (i + 1 / 2) (j + 1 / 2) i j where
  row n := by
    split_ifs
    · exact lt_iff_add_half_le
    · exact lt_iff_add_half_le.trans (add_half_ne i n).le_iff_lt
  col n := by
    split_ifs
    · exact le_iff_lt_add_half.trans (add_half_ne j n).symm.le_iff_lt.symm
    · exact le_iff_lt_add_half

/-- A lattice point is stood for by one of the four cells around it. -/
theorem represents_point (geo : GeoTransform) (v : Point) :
    Represents geo v.1 v.2 (if geo.pixelHeight < 0 then v.1 - 1 else v.1)
      (if 0 < geo.pixelWidth then v.2 else v.2 - 1) where
  row n := by
    split_ifs
    · rw [Int.cast_le]
      omega
    · rw [Int.cast_lt]
  col n := by
    split_ifs
    · rw [Int.cast_le]
    · rw [Int.cast_lt]
      omega

private theorem mem_of_between {o k : ℚ} (hk : k ≠ 0) {a n : ℤ}
    (hmin : min (o + a * k) (o + (a + 1 : ℤ) * k) ≤ o + n * k)
    (hmax : o + n * k ≤ max (o + a * k) (o + (a + 1 : ℤ) * k)) : n = a ∨ n = a + 1 := by
  have hbounds : (a : ℚ) ≤ n ∧ (n : ℚ) ≤ (a + 1 : ℤ) := by
    push_cast at hmin hmax ⊢
    rcases hk.lt_or_gt with hneg | hpos
    · rw [min_eq_right (by nlinarith)] at hmin
      rw [max_eq_left (by nlinarith)] at hmax
      exact ⟨by nlinarith, by nlinarith⟩
    · rw [min_eq_left (by nlinarith)] at hmin
      rw [max_eq_right (by nlinarith)] at hmax
      exact ⟨by nlinarith, by nlinarith⟩
  rw [Int.cast_le, Int.cast_le] at hbounds
  omega

/-- The only lattice points on a unit edge are its ends. -/
theorem eq_of_onSegment (hgeo : geo.Invertible) {e : Point × Point} (he : ∃ p d, e = side p d)
    {v : Point} (h : OnSegment (geo.ofPoint v) (geo.ofPoint e.1, geo.ofPoint e.2)) :
    v = e.1 ∨ v = e.2 := by
  obtain ⟨⟨a, b⟩, d, rfl⟩ := he
  obtain ⟨-, hx₁, hx₂, hy₁, hy₂⟩ := h
  obtain ⟨i, j⟩ := v
  have heq : ∀ {o k : ℚ} {m n : ℤ}, k ≠ 0 → o + (m : ℚ) * k ≤ o + n * k →
      o + (n : ℚ) * k ≤ o + m * k → n = m := fun hk h₁ h₂ => by
    have h := mul_right_cancel₀ hk (add_left_cancel (le_antisymm h₁ h₂))
    exact_mod_cast h.symm
  cases d <;> simp only [side, GeoTransform.ofPoint, GeoTransform.cornerCoord, min_self, max_self]
    at hx₁ hx₂ hy₁ hy₂ <;> simp only [side, Prod.mk.injEq]
  · have := mem_of_between hgeo.1 hx₁ hx₂
    have := heq hgeo.2 hy₁ hy₂
    omega
  · have := mem_of_between hgeo.2 hy₁ hy₂
    have := heq hgeo.1 hx₁ hx₂
    omega
  · rw [min_comm] at hx₁
    rw [max_comm] at hx₂
    have := mem_of_between hgeo.1 hx₁ hx₂
    have := heq hgeo.2 hy₁ hy₂
    omega
  · rw [min_comm] at hy₁
    rw [max_comm] at hy₂
    have := mem_of_between hgeo.2 hy₁ hy₂
    have := heq hgeo.1 hx₁ hx₂
    omega

end Lattice

/-! ### The rings of a mask -/

theorem toGeoCoords_eq_map_ofPoint (ring : List Corner) (geo : GeoTransform) :
    toGeoCoords ring geo = (ringPoints ring).map geo.ofPoint := by
  rw [ringPoints, List.map_map]
  rfl

namespace BoundaryRings

variable {mask : CatchmentMask} {rings : List (List Corner)} {A B : List Corner}
  {geo : GeoTransform}

/-- The winding number of a ring in native coordinates around the centre of a cell. -/
theorem windingNumber_center (h : BoundaryRings mask rings) (hA : A ∈ rings)
    (hgeo : geo.Invertible) (cell : GridCoord) :
    windingNumber (toGeoCoords A geo) (geo.pixelToCoord cell) ≠ 0 ↔
      wind (ringPoints A) ((cell.row : ℤ), (cell.col : ℤ)) ≠ 0 := by
  have hmem : ringPoints A ∈ rings.map ringPoints := List.mem_map_of_mem hA
  have hwind := windingNumber_ofPoint hgeo (represents_center geo cell.row cell.col)
    (h.family.closed _ hmem) (h.family.unit hmem)
  rw [GeoTransform.pixelToCoord_eq, toGeoCoords_eq_map_ofPoint]
  push_cast at hwind
  rw [hwind]
  split_ifs <;> simp

/-- The first step of a hole goes down on the right of its first cell. -/
private theorem first_step_of_hole (h : BoundaryRings mask rings) (hB : B ∈ rings)
    (hhole : level (ringPoints B) (ringPoints B) = 0) {v : Corner} (hv : B.head? = some v) :
    firstCell (ringPoints B) = ((v.row : ℤ), (v.col : ℤ) - 1) ∧
      side ((v.row : ℤ), (v.col : ℤ) - 1) .right ∈ steps (ringPoints B) := by
  obtain ⟨w, -, hw, ⟨hone, -⟩ | ⟨-, hcell, hmem⟩⟩ :=
    h.family.level_self_cases (List.mem_map_of_mem hB)
  · rw [hhole] at hone
    exact absurd hone (by decide)
  · rw [ringPoints, List.head?_map, hv] at hw
    obtain rfl : v.point = w := Option.some.inj hw
    exact ⟨hcell, hmem⟩

/-- Another ring does not pass through the first vertex of a hole, so it winds equally around the
four cells there. -/
private theorem wind_around_hole_start (h : BoundaryRings mask rings) (hA : A ∈ rings)
    (hB : B ∈ rings) (hne : A ≠ B) (hhole : level (ringPoints B) (ringPoints B) = 0)
    {v : Corner} (hv : B.head? = some v) :
    wind (ringPoints A) ((v.row : ℤ) - 1, (v.col : ℤ) - 1) = level (ringPoints A) (ringPoints B) ∧
      wind (ringPoints A) ((v.row : ℤ) - 1, (v.col : ℤ))
        = level (ringPoints A) (ringPoints B) ∧
      wind (ringPoints A) ((v.row : ℤ), (v.col : ℤ) - 1)
        = level (ringPoints A) (ringPoints B) ∧
      wind (ringPoints A) ((v.row : ℤ), (v.col : ℤ)) = level (ringPoints A) (ringPoints B) := by
  have hmemA : ringPoints A ∈ rings.map ringPoints := List.mem_map_of_mem hA
  have hmemB : ringPoints B ∈ rings.map ringPoints := List.mem_map_of_mem hB
  have hne' : ringPoints A ≠ ringPoints B := fun heq => hne (ringPoints_injective heq)
  obtain ⟨hNW, hNE, hSW, hSE⟩ := h.cells_at_hole_start hB hhole hv
  obtain ⟨hcell, hstep⟩ := h.first_step_of_hole hB hhole hv
  have hwSW : wind (ringPoints A) ((v.row : ℤ), (v.col : ℤ) - 1)
      = level (ringPoints A) (ringPoints B) := by
    rw [level, hcell]
  have hwSE : wind (ringPoints A) ((v.row : ℤ), (v.col : ℤ))
      = level (ringPoints A) (ringPoints B) := by
    rw [← h.family.wind_nbr_eq_level hmemA hmemB hne' hstep]
    simp [nbr]
  have hwNW : wind (ringPoints A) ((v.row : ℤ) - 1, (v.col : ℤ) - 1)
      = level (ringPoints A) (ringPoints B) := by
    have hnbr : nbr ((v.row : ℤ) - 1, (v.col : ℤ) - 1) .bottom
        = ((v.row : ℤ), (v.col : ℤ) - 1) := by
      simp [nbr]
    rw [← hwSW, h.family.wind_eq_nbr hmemA (d := .bottom) (iff_of_true hNW (hnbr ▸ hSW)), hnbr]
  have hwNE : wind (ringPoints A) ((v.row : ℤ) - 1, (v.col : ℤ))
      = level (ringPoints A) (ringPoints B) := by
    have hnbr : nbr ((v.row : ℤ) - 1, (v.col : ℤ) - 1) .right = ((v.row : ℤ) - 1, (v.col : ℤ)) := by
      simp [nbr]
    rw [← hwNW, h.family.wind_eq_nbr hmemA (d := .right) (iff_of_true hNW (hnbr ▸ hNE)), hnbr]
  exact ⟨hwNW, hwNE, hwSW, hwSE⟩

private theorem not_onSegment_hole_start (h : BoundaryRings mask rings) (hA : A ∈ rings)
    (hB : B ∈ rings) (hne : A ≠ B) (hgeo : geo.Invertible)
    (hhole : level (ringPoints B) (ringPoints B) = 0) {v : Corner} (hv : B.head? = some v) :
    ∀ e ∈ steps (toGeoCoords A geo), ¬OnSegment (geo.cornerCoord v.row v.col) e := by
  intro e he hon
  rw [toGeoCoords_eq_map_ofPoint, steps_map] at he
  obtain ⟨e', he', rfl⟩ := List.mem_map.mp he
  have hunit := h.family.unit (List.mem_map_of_mem hA) e' he'
  have hoff := h.not_mem_of_hole_start hB hhole hv hA hne
  obtain ⟨hstart, hend⟩ := mem_of_mem_steps he'
  rcases eq_of_onSegment (v := v.point) hgeo hunit hon with heq | heq
  · exact hoff (heq ▸ hstart)
  · exact hoff (heq ▸ hend)

/-- **The containment test on a hole.** Another ring contains the first vertex of a hole
strictly exactly when it lies around the hole. -/
theorem strictlyInside_iff (h : BoundaryRings mask rings) (hA : A ∈ rings) (hB : B ∈ rings)
    (hne : A ≠ B) (hgeo : geo.Invertible) (hhole : level (ringPoints B) (ringPoints B) = 0)
    {v : Corner} (hv : B.head? = some v) :
    StrictlyInside (toGeoCoords A geo) (geo.cornerCoord v.row v.col) ↔
      level (ringPoints A) (ringPoints B) ≠ 0 := by
  have hmemA : ringPoints A ∈ rings.map ringPoints := List.mem_map_of_mem hA
  obtain ⟨hwNW, hwNE, hwSW, hwSE⟩ := h.wind_around_hole_start hA hB hne hhole hv
  have hoff := h.not_onSegment_hole_start hA hB hne hgeo hhole hv
  have hwind := windingNumber_ofPoint hgeo (represents_point geo v.point)
    (h.family.closed _ hmemA) (h.family.unit hmemA)
  have hiff : windingNumber (toGeoCoords A geo) (geo.cornerCoord v.row v.col) ≠ 0 ↔
      level (ringPoints A) (ringPoints B) ≠ 0 := by
    rw [toGeoCoords_eq_map_ofPoint]
    simp only [Corner.point, Int.cast_natCast] at hwind
    rw [hwind]
    split_ifs <;> simp [hwSW, hwSE, hwNW, hwNE]
  exact ⟨fun hin => hiff.mp hin.1, fun hlevel => ⟨hiff.mpr hlevel, hoff⟩⟩

end BoundaryRings

end WatershedDelineation
