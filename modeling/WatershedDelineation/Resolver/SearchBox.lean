import Mathlib.Analysis.Real.Pi.Bounds
import WatershedDelineation.General.MidCosine

/-!
# The search box

`resolver.rs`: snap targets are looked up by a box around the outlet (`searchBbox`), and then by
their distance (`localMetreDistance`). Both are stated over the reals, without rounding.

The box scales longitudes by the cosine of the latitude of the outlet, and the distance by that of
the mean latitude, which is smaller for points nearer to a pole. So the box holds all points within
the radius only if it spans all longitudes, or around outlets on the equator for radii that no step
towards a pole makes up for (`searchBbox_complete_iff`).
-/

namespace WatershedDelineation

open Real

/-! ### Boxes and distances -/

/-- A position in degrees, exactly. -/
@[ext]
structure RealCoord where
  lon : ℝ
  lat : ℝ

/-- A box in degrees, exactly, with strictly increasing axes. -/
structure RealBox where
  minx : ℝ
  miny : ℝ
  maxx : ℝ
  maxy : ℝ
  lt_x : minx < maxx
  lt_y : miny < maxy

/-- The box of four values, if it is one. -/
noncomputable def RealBox.new (minx miny maxx maxy : ℝ) : Option RealBox :=
  if h : minx < maxx ∧ miny < maxy then some ⟨minx, miny, maxx, maxy, h.1, h.2⟩ else none

/-- A box holds a position; its boundary belongs to it. -/
def RealBox.Holds (bbox : RealBox) (p : RealCoord) : Prop :=
  (bbox.minx ≤ p.lon ∧ p.lon ≤ bbox.maxx) ∧ bbox.miny ≤ p.lat ∧ p.lat ≤ bbox.maxy

/-- The radians of an angle in degrees. -/
noncomputable def toRadians (degrees : ℝ) : ℝ := degrees * (π / 180)

/-- The cosine by which the box scales longitudes. -/
noncomputable def cosLat (center : RealCoord) : ℝ := max |cos (toRadians center.lat)| 1e-10

/-- Half the width of the box, in degrees. -/
noncomputable def dlon (center : RealCoord) (radius : ℝ) : ℝ :=
  radius / (111320 * cosLat center)

/-- Convert a search radius in metres to a box in degrees around a point. -/
noncomputable def searchBbox (center : RealCoord) (radius : ℝ) : Option RealBox :=
  let dlat := radius / 110540
  RealBox.new (max (center.lon - dlon center radius) (-180)) (max (center.lat - dlat) (-90))
    (min (center.lon + dlon center radius) 180) (min (center.lat + dlat) 90)

/-- Local tangent-plane distance in metres between two points. -/
noncomputable def localMetreDistance (a b : RealCoord) : ℝ :=
  let latAvg := toRadians ((a.lat + b.lat) / 2)
  let dx := (b.lon - a.lon) * 111320 * cos latAvg
  let dy := (b.lat - a.lat) * 110540
  √(dx * dx + dy * dy)

/-- A position on the globe. -/
def RealCoord.OnGlobe (p : RealCoord) : Prop := |p.lon| ≤ 180 ∧ |p.lat| ≤ 90

/-- The search box is built, and holds all positions within the radius. -/
def SearchComplete (outlet : RealCoord) (radius : ℝ) : Prop :=
  ∃ bbox, searchBbox outlet radius = some bbox ∧
    ∀ p : RealCoord, p.OnGlobe → localMetreDistance outlet p ≤ radius → bbox.Holds p

variable {outlet p : RealCoord} {radius : ℝ}

theorem cosLat_pos (center : RealCoord) : 0 < cosLat center :=
  lt_max_of_lt_right (by norm_num)

theorem dlon_pos (center : RealCoord) (hr : 0 < radius) : 0 < dlon center radius :=
  div_pos hr (mul_pos (by norm_num) (cosLat_pos center))

/-- The box is built, and its parts are those of the clamped box. -/
theorem exists_searchBbox (hlon : |outlet.lon| < 180) (hlat : |outlet.lat| < 90)
    (hr : 0 < radius) : ∃ bbox, searchBbox outlet radius = some bbox ∧
      ∀ p : RealCoord, p.OnGlobe → (bbox.Holds p ↔
        |p.lon - outlet.lon| ≤ dlon outlet radius ∧ |p.lat - outlet.lat| ≤ radius / 110540) := by
  obtain ⟨hlo, hhi⟩ := abs_lt.mp hlon
  obtain ⟨hlo', hhi'⟩ := abs_lt.mp hlat
  have hdlon := dlon_pos outlet hr
  have hdlat : 0 < radius / 110540 := by positivity
  have hx : max (outlet.lon - dlon outlet radius) (-180)
      < min (outlet.lon + dlon outlet radius) 180 := by
    rw [max_lt_iff, lt_min_iff, lt_min_iff]
    constructor <;> constructor <;> linarith
  have hy : max (outlet.lat - radius / 110540) (-90)
      < min (outlet.lat + radius / 110540) 90 := by
    rw [max_lt_iff, lt_min_iff, lt_min_iff]
    constructor <;> constructor <;> linarith
  refine ⟨⟨_, _, _, _, hx, hy⟩, dif_pos ⟨hx, hy⟩, fun p hp => ?_⟩
  obtain ⟨hplon, hplat⟩ := hp
  rw [abs_le] at hplon hplat
  rw [RealBox.Holds, max_le_iff, max_le_iff, le_min_iff, le_min_iff, abs_le, abs_le]
  constructor
  · rintro ⟨⟨⟨h₁, -⟩, h₂, -⟩, ⟨h₃, -⟩, h₄, -⟩
    constructor <;> constructor <;> linarith
  · rintro ⟨⟨h₁, h₂⟩, h₃, h₄⟩
    refine ⟨⟨⟨?_, hplon.1⟩, ?_, hplon.2⟩, ⟨?_, hplat.1⟩, ?_, hplat.2⟩ <;> linarith

/-! ### Distances as lengths scaled at the middle -/

/-- The length of a radian to the north, in metres. -/
noncomputable def metresPerRadian : ℝ := 110540 * (180 / π)

theorem metresPerRadian_pos : 0 < metresPerRadian := by
  unfold metresPerRadian
  positivity

theorem localMetreDistance_le_iff (hr : 0 ≤ radius) :
    localMetreDistance outlet p ≤ radius ↔
      MidCosine.sqLength metresPerRadian (toRadians outlet.lat)
        (111320 * (p.lon - outlet.lon)) (toRadians ((p.lat - outlet.lat) / 2)) ≤ radius ^ 2 := by
  have hmid : toRadians ((outlet.lat + p.lat) / 2)
      = toRadians outlet.lat + toRadians ((p.lat - outlet.lat) / 2) := by
    unfold toRadians
    ring
  have hnorth : metresPerRadian * (toRadians ((p.lat - outlet.lat) / 2)
      + toRadians ((p.lat - outlet.lat) / 2)) = (p.lat - outlet.lat) * 110540 := by
    unfold metresPerRadian toRadians
    field_simp
    ring
  rw [localMetreDistance, sqrt_le_left hr, MidCosine.sqLength, hnorth, hmid]
  constructor <;> intro h <;> linarith

/-- Positions within the radius differ from the outlet in latitude by at most half the height of the
box. -/
theorem abs_lat_sub_le (hr : 0 ≤ radius) (h : localMetreDistance outlet p ≤ radius) :
    |p.lat - outlet.lat| ≤ radius / 110540 := by
  rw [localMetreDistance, sqrt_le_left hr] at h
  have hsq : ((p.lat - outlet.lat) * 110540) ^ 2 ≤ radius ^ 2 := by
    linarith [mul_self_nonneg ((p.lon - outlet.lon) * 111320 *
      cos (toRadians ((outlet.lat + p.lat) / 2)))]
  have habs := abs_le_of_sq_le_sq hsq hr
  rw [abs_mul, abs_of_pos (show (0 : ℝ) < 110540 by norm_num)] at habs
  rwa [le_div_iff₀ (by norm_num)]

/-! ### Completeness -/

theorem cos_toRadians_pos {degrees : ℝ} (h : |degrees| < 90) : 0 < cos (toRadians degrees) := by
  obtain ⟨hlo, hhi⟩ := abs_lt.mp h
  have hpi := pi_pos
  apply cos_pos_of_mem_Ioo
  constructor <;> unfold toRadians <;> nlinarith

/-- On the equator the box is as wide as the radius. -/
theorem abs_lon_sub_le_of_equator (hlat : outlet.lat = 0) (hp : p.OnGlobe) (hr : 0 ≤ radius)
    (hrk : radius ≤ 2 * metresPerRadian) (h : localMetreDistance outlet p ≤ radius) :
    |p.lon - outlet.lon| ≤ dlon outlet radius := by
  have hzero : toRadians outlet.lat = 0 := by rw [hlat, toRadians, zero_mul]
  rw [localMetreDistance_le_iff hr, hzero] at h
  have hcos : cos (toRadians ((p.lat - outlet.lat) / 2)) ≠ 0 := by
    refine (cos_toRadians_pos ?_).ne'
    have hlat' := abs_le.mp hp.2
    rw [hlat, abs_lt]
    constructor <;> linarith
  have habs := MidCosine.abs_le_of_equator hr hrk hcos h
  rw [abs_mul, abs_of_pos (show (0 : ℝ) < 111320 by norm_num)] at habs
  have hcosLat : cosLat outlet = 1 := by
    rw [cosLat, hzero, cos_zero, abs_one]
    norm_num
  rw [dlon, hcosLat, mul_one, le_div_iff₀ (by norm_num)]
  linarith

/-- Off the equator, and for large radii, some small step to the north or to the south saves more
than it costs. -/
theorem exists_saving (hlat : |outlet.lat| < 90) (hr : 0 < radius)
    (h : outlet.lat ≠ 0 ∨ 2 * metresPerRadian < radius) :
    ∃ t, |t| < toRadians ((90 - |outlet.lat|) / 2) ∧
      MidCosine.sqLength metresPerRadian (toRadians outlet.lat) (radius / cosLat outlet) t
        < radius ^ 2 := by
  have hpi := pi_pos
  have hcos := cos_toRadians_pos hlat
  have hδ : 0 < toRadians ((90 - |outlet.lat|) / 2) :=
    mul_pos (by linarith) (by positivity)
  rcases lt_or_ge (cos (toRadians outlet.lat)) 1e-10 with hsmall | hlarge
  · -- close to the pole the cosine is bounded from below, and the box is too narrow by itself
    refine ⟨0, by rwa [abs_zero], ?_⟩
    have hcosLat : cosLat outlet = 1e-10 := by
      rw [cosLat, abs_of_pos hcos, max_eq_right hsmall.le]
    have hlt : radius / 1e-10 * cos (toRadians outlet.lat) < radius := by
      rw [div_mul_eq_mul_div, div_lt_iff₀ (by norm_num)]
      exact mul_lt_mul_of_pos_left hsmall hr
    rw [MidCosine.sqLength, hcosLat, add_zero, add_zero, mul_zero, zero_pow two_ne_zero, add_zero]
    gcongr
  · have hcosLat : cosLat outlet = cos (toRadians outlet.lat) := by
      rw [cosLat, abs_of_pos hcos, max_eq_left hlarge]
    have hφ : |toRadians outlet.lat| < π / 2 := by
      rw [toRadians, abs_mul, abs_of_pos (show 0 < π / 180 by positivity)]
      nlinarith
    have hside : toRadians outlet.lat ≠ 0 ∨
        2 * metresPerRadian < radius / cos (toRadians outlet.lat) := by
      refine h.imp (fun hne => mul_ne_zero hne (by positivity)) fun hlt => hlt.trans_le ?_
      exact le_div_self hr.le hcos (cos_le_one _)
    obtain ⟨t, ht, hsaves⟩ :=
      MidCosine.exists_saving hδ (div_pos hr hcos) hφ hside metresPerRadian_pos
    rw [div_mul_cancel₀ radius hcos.ne'] at hsaves
    exact ⟨t, ht, by rwa [hcosLat]⟩

/-- The degrees of an angle in radians. -/
noncomputable def toDegrees (radians : ℝ) : ℝ := radians * (180 / π)

theorem toRadians_toDegrees (radians : ℝ) : toRadians (toDegrees radians) = radians := by
  unfold toRadians toDegrees
  field_simp

/-- Away from the nearer edge of the globe there is room for a difference in longitude. -/
theorem exists_lon (hlon : |outlet.lon| < 180) {d : ℝ} (hd : 0 < d)
    (hroom : d < 180 + |outlet.lon|) : ∃ lon, |lon - outlet.lon| = d ∧ |lon| ≤ 180 := by
  obtain ⟨hlo, hhi⟩ := abs_lt.mp hlon
  rcases le_total 0 outlet.lon with hpos | hneg
  · rw [abs_of_nonneg hpos] at hroom
    refine ⟨outlet.lon - d, ?_, abs_le.mpr ⟨by linarith, by linarith⟩⟩
    rw [sub_sub_cancel_left, abs_neg, abs_of_pos hd]
  · rw [abs_of_nonpos hneg] at hroom
    refine ⟨outlet.lon + d, ?_, abs_le.mpr ⟨by linarith, by linarith⟩⟩
    rw [add_sub_cancel_left, abs_of_pos hd]

/-- A small step does not pass a pole. -/
theorem abs_lat_add_le {t : ℝ} (ht : |t| < toRadians ((90 - |outlet.lat|) / 2)) :
    |outlet.lat + 2 * toDegrees t| ≤ 90 := by
  have hscale : 0 < 180 / π := by positivity
  have hdegrees : |toDegrees t| < (90 - |outlet.lat|) / 2 := by
    rw [toDegrees, abs_mul, abs_of_pos hscale, ← lt_div_iff₀ hscale]
    calc |t| < toRadians ((90 - |outlet.lat|) / 2) := ht
      _ = (90 - |outlet.lat|) / 2 / (180 / π) := by rw [toRadians]; field_simp
  have hstep : |2 * toDegrees t| < 90 - |outlet.lat| := by
    rw [abs_mul, abs_two]
    linarith
  linarith [abs_add_le outlet.lat (2 * toDegrees t)]

/-- Unless the box spans all longitudes, such a step leads to a position within the radius that lies
outside the box. -/
theorem exists_missed (hlon : |outlet.lon| < 180) (hlat : |outlet.lat| < 90) (hr : 0 < radius)
    (hspan : dlon outlet radius < 180 + |outlet.lon|)
    (h : outlet.lat ≠ 0 ∨ 2 * metresPerRadian < radius) :
    ∃ p : RealCoord, p.OnGlobe ∧ localMetreDistance outlet p ≤ radius ∧
      dlon outlet radius < |p.lon - outlet.lon| := by
  obtain ⟨t, ht, hsaves⟩ := exists_saving hlat hr h
  have hwide : radius / cosLat outlet < 111320 * (180 + |outlet.lon|) := by
    rwa [dlon, ← div_div, div_right_comm, div_lt_iff₀' (by norm_num)] at hspan
  obtain ⟨y, hy, hyw, hlt⟩ := MidCosine.exists_wider hwide hsaves
  have hx : dlon outlet radius < y / 111320 := by
    rw [dlon, ← div_div, div_right_comm]
    gcongr
  have hxw : y / 111320 < 180 + |outlet.lon| := by
    rwa [div_lt_iff₀' (by norm_num)]
  have hx0 : 0 < y / 111320 := (dlon_pos outlet hr).trans hx
  obtain ⟨lon, habs, hon⟩ := exists_lon hlon hx0 hxw
  refine ⟨⟨lon, outlet.lat + 2 * toDegrees t⟩, ⟨hon, abs_lat_add_le ht⟩, ?_, by rwa [habs]⟩
  rw [localMetreDistance_le_iff hr.le, add_sub_cancel_left, mul_div_cancel_left₀ _ two_ne_zero,
    toRadians_toDegrees, ← MidCosine.sqLength_abs, abs_mul, habs,
    abs_of_pos (show (0 : ℝ) < 111320 by norm_num), mul_div_cancel₀ _ (by norm_num)]
  exact hlt.le

/-- The search box is complete around outlets on the equator, for radii that no step towards a pole
makes up for, and where it spans all longitudes. -/
theorem searchBbox_complete_iff (hlon : |outlet.lon| < 180) (hlat : |outlet.lat| < 90)
    (hr : 0 < radius) : SearchComplete outlet radius ↔
      (outlet.lat = 0 ∧ radius ≤ 110540 * (360 / π)) ∨
        (180 + |outlet.lon|) * (111320 * max (cos (toRadians outlet.lat)) 1e-10) ≤ radius := by
  obtain ⟨bbox, hbbox, hholds⟩ := exists_searchBbox hlon hlat hr
  have hspan : (180 + |outlet.lon|) * (111320 * max (cos (toRadians outlet.lat)) 1e-10) ≤ radius ↔
      180 + |outlet.lon| ≤ dlon outlet radius := by
    rw [dlon, le_div_iff₀ (mul_pos (by norm_num) (cosLat_pos outlet)), cosLat,
      abs_of_pos (cos_toRadians_pos hlat)]
  have hlimit : 110540 * (360 / π) = 2 * metresPerRadian := by
    unfold metresPerRadian
    ring
  rw [hspan, hlimit]
  constructor
  · rintro ⟨bbox', hbbox', hcomplete⟩
    obtain rfl : bbox = bbox' := Option.some.inj (hbbox.symm.trans hbbox')
    by_contra hnot
    rw [not_or, not_and_or, not_le, not_le] at hnot
    obtain ⟨p, hp, hdist, hmissed⟩ := exists_missed hlon hlat hr hnot.2 hnot.1
    exact absurd ((hholds p hp).mp (hcomplete p hp hdist)).1 (not_le.mpr hmissed)
  · intro h
    refine ⟨bbox, hbbox, fun p hp hdist => (hholds p hp).mpr ⟨?_, abs_lat_sub_le hr.le hdist⟩⟩
    rcases h with ⟨hequator, hrk⟩ | hall
    · exact abs_lon_sub_le_of_equator hequator hp hr.le hrk hdist
    · linarith [abs_sub p.lon outlet.lon, hp.1]

/-- The box of a kilometre around an outlet on the equator is complete. -/
theorem searchBbox_complete_iff_equator : SearchComplete ⟨10, 0⟩ 1000 := by
  refine (searchBbox_complete_iff ?_ ?_ ?_).mpr (.inl ⟨rfl, ?_⟩)
  · norm_num [abs_lt]
  · norm_num
  · norm_num
  · rw [← mul_div_assoc, le_div_iff₀ pi_pos]
    linarith [pi_lt_four]

theorem cos_toRadians (degrees : ℝ) : cos (toRadians degrees) = sin (toRadians (90 - degrees)) := by
  rw [← sin_pi_div_two_sub]
  congr 1
  unfold toRadians
  ring

/-- The box of 100 km around an outlet at 80° north misses a position less than 100 km away, which
is four kilometres nearer to the pole. -/
theorem searchBbox_misses : ∃ bbox, searchBbox ⟨10, 80⟩ 100000 = some bbox ∧
    ¬bbox.Holds ⟨15.175, 80.04⟩ ∧ localMetreDistance ⟨10, 80⟩ ⟨15.175, 80.04⟩ ≤ 100000 := by
  have hpi := pi_gt_d4
  have hpi' := pi_lt_d4
  -- the box scales by the cosine of the outlet, the distance by that of the mean latitude
  have houtlet : 0.1736 ≤ cos (toRadians 80) := by
    have hangle : toRadians (90 - 80) = π / 18 := by
      unfold toRadians
      ring
    have hmono : sin 0.1745 ≤ sin (π / 18) := by
      apply sin_le_sin_of_le_of_le_pi_div_two <;> linarith
    have hbound := abs_le.mp (sin_bound (x := 0.1745) (by norm_num [abs_le]))
    rw [cos_toRadians, hangle]
    norm_num [abs_of_pos] at hbound
    linarith
  have hmean : cos (toRadians ((80 + 80.04) / 2)) ≤ 0.1734 := by
    have hangle : toRadians (90 - (80 + 80.04) / 2) = π * 9.98 / 180 := by
      unfold toRadians
      ring
    have hmono : sin (π * 9.98 / 180) ≤ sin 0.1742 := by
      apply sin_le_sin_of_le_of_le_pi_div_two <;> linarith
    have hbound := abs_le.mp (sin_bound (x := 0.1742) (by norm_num [abs_le]))
    rw [cos_toRadians, hangle]
    norm_num [abs_of_pos] at hbound
    linarith
  have hmean0 : 0 < cos (toRadians ((80 + 80.04) / 2)) :=
    cos_toRadians_pos (by norm_num [abs_lt])
  obtain ⟨bbox, hbbox, hholds⟩ := @exists_searchBbox ⟨10, 80⟩ 100000
    (by norm_num [abs_lt]) (by norm_num [abs_lt]) (by norm_num)
  refine ⟨bbox, hbbox, fun hin => ?_, ?_⟩
  · have hle := ((hholds ⟨15.175, 80.04⟩ (by norm_num [RealCoord.OnGlobe, abs_le])).mp hin).1
    have hcosLat : 0.1736 ≤ cosLat ⟨10, 80⟩ :=
      houtlet.trans ((le_abs_self _).trans (le_max_left _ _))
    rw [dlon, le_div_iff₀ (mul_pos (by norm_num) (cosLat_pos _))] at hle
    norm_num [abs_of_pos] at hle
    linarith
  · rw [localMetreDistance, sqrt_le_left (by norm_num)]
    have hdx : (15.175 - 10) * 111320 * cos (toRadians ((80 + 80.04) / 2)) ≤ 99900 := by
      linarith
    have hdx0 : 0 ≤ (15.175 - 10) * 111320 * cos (toRadians ((80 + 80.04) / 2)) :=
      mul_nonneg (by norm_num) hmean0.le
    calc _ ≤ 99900 * 99900 + (80.04 - 80) * 110540 * ((80.04 - 80) * 110540) :=
          add_le_add_left (mul_self_le_mul_self hdx0 hdx) _
      _ ≤ (100000 : ℝ) ^ 2 := by norm_num

end WatershedDelineation
