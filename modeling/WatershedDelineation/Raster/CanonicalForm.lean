import Mathlib.Algebra.Order.BigOperators.Group.List
import WatershedDelineation.Raster.CanonicalWkb
import WatershedDelineation.Reader.CatchmentTable

/-!
# Canonical WKB is a canonical form

The canonical form of a ring depends on its vertices only up to rotation, and up to reversal where
its area is not zero (`normalizeRing_congr`, `normalizeRing_reverse`). With the total orders of
rings and polygons, that of a multipolygon is the same for all its variants (`Variant`).

A ring in canonical form (`CanonicalRing.Normal`) that is written as coordinates is rounded,
oriented and rotated to itself (`normalizeRing_intoLineString`), so decoding a canonical encoding
and canonicalizing again gives the same bytes (`canonicalWkb_canonical`).
-/

namespace WatershedDelineation

open ClosedWalk Comparison LeastRotation Std

/-! ### Areas -/

/-- The terms of the area of a ring. -/
private def areaTerm (step : RoundedCoord × RoundedCoord) : ℤ :=
  step.1.x * step.2.y - step.2.x * step.1.y

private theorem signedAreaTwice_eq (vertices : List RoundedCoord) : signedAreaTwice vertices =
    if vertices.length < 3 then 0 else ((vertices.zip (vertices.rotate 1)).map areaTerm).sum := rfl

/-- The area does not depend on the start. -/
theorem signedAreaTwice_isRotated {l l' : List RoundedCoord} (h : l.IsRotated l') :
    signedAreaTwice l = signedAreaTwice l' := by
  obtain ⟨k, rfl⟩ := h
  rw [signedAreaTwice_eq, signedAreaTwice_eq, List.length_rotate, zip_rotate_one,
    ((List.rotate_perm _ k).map areaTerm).sum_eq]

/-- The area changes its sign with the direction. -/
theorem signedAreaTwice_reverse (l : List RoundedCoord) :
    signedAreaTwice l.reverse = -signedAreaTwice l := by
  rw [signedAreaTwice_eq, signedAreaTwice_eq, List.length_reverse]
  split_ifs with hlen
  · rfl
  · -- a step of the reversed ring is a step of the ring, from its end to its start
    have hrotate : l.reverse.rotate 1 = (l.rotate (l.length - 1)).reverse := by
      rw [List.rotate_reverse, Nat.mod_eq_of_lt (by omega)]
    have hreverse : l.reverse.zip (l.reverse.rotate 1)
        = (l.zip (l.rotate (l.length - 1))).reverse := by
      rw [hrotate]
      exact (List.reverse_zipWith (by simp)).symm
    have hshift : (l.zip (l.rotate (l.length - 1))).rotate 1 = (l.rotate 1).zip l := by
      have h := List.zipWith_rotate_distrib Prod.mk l (l.rotate (l.length - 1)) 1 (by simp)
      rw [List.rotate_rotate, Nat.sub_add_cancel (by omega), List.rotate_length] at h
      exact h
    have hswap : (l.rotate 1).zip l = (l.zip (l.rotate 1)).map Prod.swap :=
      (List.zip_swap l _).symm
    have hterm : areaTerm ∘ Prod.swap = fun step => -areaTerm step := by
      funext step
      simp only [areaTerm, Function.comp_apply, Prod.fst_swap, Prod.snd_swap]
      ring
    calc ((l.reverse.zip (l.reverse.rotate 1)).map areaTerm).sum
        = ((l.zip (l.rotate (l.length - 1))).map areaTerm).sum := by
          rw [hreverse, ((List.reverse_perm _).map areaTerm).sum_eq]
      _ = (((l.rotate 1).zip l).map areaTerm).sum := by
          rw [← hshift, ((List.rotate_perm _ 1).map areaTerm).sum_eq]
      _ = -((l.zip (l.rotate 1)).map areaTerm).sum := by
          rw [hswap, List.map_map, hterm, List.sum_neg, List.map_map]
          rfl

private theorem abs_sum_le {l : List ℤ} {b : ℤ} (h : ∀ z ∈ l, |z| ≤ b) :
    |l.sum| ≤ b * l.length := by
  induction l with
  | nil => simp
  | cons z l ih =>
    obtain ⟨hz, hl⟩ := List.forall_mem_cons.mp h
    calc |(z :: l).sum| ≤ |z| + |l.sum| := by
          rw [List.sum_cons]
          exact abs_add_le _ _
      _ ≤ b + b * l.length := add_le_add hz (ih hl)
      _ = b * (z :: l).length := by
          rw [List.length_cons]
          push_cast
          ring

/-- With coordinates in the geographic range no partial sum of an area overflows its type. -/
theorem fits_signedAreaTwice {vertices : List RoundedCoord}
    (hrange : ∀ c ∈ vertices, |c.x| ≤ 180000000 ∧ |c.y| ≤ 180000000)
    (hlength : vertices.length < 2 ^ 64) (k : ℕ) :
    SignedWord.Fits 127 (((vertices.zip (vertices.rotate 1)).take k).map fun (left, right) =>
      left.x * right.y - right.x * left.y).sum := by
  have hterm : ∀ z ∈ ((vertices.zip (vertices.rotate 1)).take k).map areaTerm,
      |z| ≤ 64800000000000000 := by
    intro z hz
    obtain ⟨⟨left, right⟩, hstep, rfl⟩ := List.mem_map.mp hz
    obtain ⟨hleft, hright⟩ := List.of_mem_zip (List.mem_of_mem_take hstep)
    obtain ⟨hlx, hly⟩ := hrange left hleft
    obtain ⟨hrx, hry⟩ := hrange right (List.mem_rotate.mp hright)
    calc |left.x * right.y - right.x * left.y|
        ≤ |left.x| * |right.y| + |right.x| * |left.y| := by
          rw [← abs_mul, ← abs_mul]
          exact abs_sub _ _
      _ ≤ 180000000 * 180000000 + 180000000 * 180000000 := by gcongr
      _ = 64800000000000000 := by norm_num
  have hsum := abs_le.mp (abs_sum_le hterm)
  have hlen : ((((vertices.zip (vertices.rotate 1)).take k).map areaTerm).length : ℤ) < 2 ^ 64 := by
    rw [List.length_map, List.length_take, List.length_zip, List.length_rotate]
    omega
  change SignedWord.Fits 127 (((vertices.zip (vertices.rotate 1)).take k).map areaTerm).sum
  constructor <;> omega

/-! ### Rotating -/

theorem compareCyclicSequence_eq (vertices : List RoundedCoord) (i j : ℕ) :
    compareCyclicSequence vertices i j
      = List.compareLex compare (vertices.rotate i) (vertices.rotate j) :=
  firstDifference_rotate compare default vertices i j

/-- A ring is rotated to its least rotation. -/
theorem isLeast_rotateToTotalOrderStart (vertices : List RoundedCoord) :
    IsLeast compare vertices (rotateToTotalOrderStart vertices) := by
  rw [rotateToTotalOrderStart]
  split_ifs with hlen
  · refine ⟨.refl _, fun r' hr' => ?_⟩
    obtain ⟨k, rfl⟩ := hr'.symm
    have hself : vertices.rotate k = vertices := by
      match vertices, hlen with
      | [], _ => exact List.rotate_nil k
      | [a], _ => exact List.rotate_singleton a k
    rw [hself]
    exact ReflCmp.isLE_rfl
  · have hne : vertices ≠ [] := by
      rintro rfl
      exact hlen (Nat.zero_le 1)
    have hstart : (List.range' 1 (vertices.length - 1)).foldl (fun best candidate =>
        if compareCyclicSequence vertices candidate best = .lt then candidate else best) 0
        = bestBy (List.compareLex compare) vertices.rotate 0
          (List.range' 1 (vertices.length - 1)) := by
      simp only [compareCyclicSequence_eq]
      rfl
    have hle : bestBy (List.compareLex compare) vertices.rotate 0
        (List.range' 1 (vertices.length - 1)) ≤ vertices.length := by
      obtain ⟨hmem, -⟩ := @bestBy_spec _ (List.compareLex compare) _ vertices.rotate _ 0
        (List.range' 1 (vertices.length - 1))
      rcases List.mem_cons.mp hmem with heq | hmem
      · rw [heq]
        exact Nat.zero_le _
      · rw [List.mem_range'_1] at hmem
        omega
    dsimp only
    rw [hstart, ← List.rotate_eq_drop_append_take hle]
    exact isLeast_rotate_bestBy hne

/-! ### Normalizing a ring -/

/-- The open part of a closed ring, rounded. -/
def roundedRing (ring : List NativeCoord) : List RoundedCoord :=
  (ring.map RoundedCoord.fromCoord).dropLast

/-- Vertices in the direction of an orientation. -/
def RingOrientation.orient (orientation : RingOrientation) (vertices : List RoundedCoord) :
    List RoundedCoord :=
  if orientation.Reverses (signedAreaTwice vertices) then vertices.reverse else vertices

variable {orientation : RingOrientation} {ring ring' : List NativeCoord}
  {l l' : List RoundedCoord}

theorem normalizeRing_eq (h : Closed ring) (orientation : RingOrientation) :
    normalizeRing ring orientation
      = .ofOpen (rotateToTotalOrderStart (orientation.orient (roundedRing ring))) := by
  have hclosed : (ring.map RoundedCoord.fromCoord).head?
      = (ring.map RoundedCoord.fromCoord).getLast? := h.map _
  rw [normalizeRing, if_pos hclosed]
  rfl

namespace RingOrientation

theorem reverses_neg {areaTwice : ℤ} (h : areaTwice ≠ 0) :
    orientation.Reverses (-areaTwice) ↔ ¬orientation.Reverses areaTwice := by
  cases orientation <;> simp only [Reverses] <;> omega

theorem not_reverses_orient (orientation : RingOrientation) (vertices : List RoundedCoord) :
    ¬orientation.Reverses (signedAreaTwice (orientation.orient vertices)) := by
  rw [orient]
  split_ifs with h
  · have hne : signedAreaTwice vertices ≠ 0 := by
      intro hzero
      rw [hzero] at h
      cases orientation <;> exact lt_irrefl 0 h
    rw [signedAreaTwice_reverse, reverses_neg hne]
    exact not_not.mpr h
  · exact h

theorem orient_isRotated (h : l.IsRotated l') :
    (orientation.orient l).IsRotated (orientation.orient l') := by
  rw [orient, orient, signedAreaTwice_isRotated h]
  split_ifs
  · exact h.reverse
  · exact h

/-- A ring with an area and its reverse are oriented in the same direction. -/
theorem orient_reverse (h : signedAreaTwice l ≠ 0) :
    orientation.orient l.reverse = orientation.orient l := by
  rw [orient, orient, signedAreaTwice_reverse]
  by_cases hrev : orientation.Reverses (signedAreaTwice l)
  · rw [if_neg (mt (reverses_neg h).mp (not_not.mpr hrev)), if_pos hrev]
  · rw [if_pos ((reverses_neg h).mpr hrev), if_neg hrev, List.reverse_reverse]

end RingOrientation

/-- The canonical form of a ring does not depend on its start. -/
theorem normalizeRing_congr (h : Closed ring) (h' : Closed ring')
    (hrotated : (roundedRing ring).IsRotated (roundedRing ring')) :
    normalizeRing ring orientation = normalizeRing ring' orientation := by
  rw [normalizeRing_eq h, normalizeRing_eq h']
  congr 1
  exact (isLeast_rotateToTotalOrderStart _).unique (isLeast_rotateToTotalOrderStart _)
    (RingOrientation.orient_isRotated hrotated)

theorem roundedRing_reverse_isRotated (h : Closed ring) :
    (roundedRing ring.reverse).IsRotated (roundedRing ring).reverse := by
  have hclosed := h.map RoundedCoord.fromCoord
  rw [roundedRing, roundedRing, List.map_reverse]
  generalize ring.map RoundedCoord.fromCoord = vertices at hclosed
  match vertices with
  | [] => exact .refl _
  | [a] => exact .refl _
  | a :: b :: l =>
    obtain ⟨m, c, hm⟩ : ∃ m c, b :: l = m ++ [c] :=
      ⟨_, _, (List.dropLast_append_getLast (List.cons_ne_nil b l)).symm⟩
    rw [hm, ← List.cons_append] at hclosed ⊢
    have hc : (a :: m ++ [c]).getLast? = some c := List.getLast?_concat
    obtain rfl := Option.some.inj (hclosed.trans hc)
    have hreverse : (a :: m ++ [a]).reverse = a :: m.reverse ++ [a] := by simp
    rw [hreverse, List.dropLast_concat, List.dropLast_concat, List.reverse_cons]
    exact ⟨1, by simp⟩

/-- The canonical form of a ring with an area does not depend on its direction. -/
theorem normalizeRing_reverse (h : Closed ring) (harea : signedAreaTwice (roundedRing ring) ≠ 0) :
    normalizeRing ring.reverse orientation = normalizeRing ring orientation := by
  rw [normalizeRing_eq h, normalizeRing_eq h.reverse]
  congr 1
  refine (isLeast_rotateToTotalOrderStart _).unique (isLeast_rotateToTotalOrderStart _) ?_
  rw [← RingOrientation.orient_reverse harea]
  exact RingOrientation.orient_isRotated (roundedRing_reverse_isRotated h)

/-! ### Rounding -/

theorem roundHalfAway_eq {q : ℚ} {z : ℤ} (h : |q - z| < 1 / 2) : roundHalfAway q = z := by
  rw [abs_lt] at h
  rw [roundHalfAway]
  split_ifs with hq
  · rw [Int.floor_eq_iff]
    constructor <;> linarith
  · rw [Int.ceil_eq_iff]
    constructor <;> linarith

theorem abs_roundHalfAway_le {q : ℚ} {n : ℤ} (h : |q| ≤ n) : |roundHalfAway q| ≤ n := by
  rw [abs_le] at h
  rw [roundHalfAway, abs_le]
  split_ifs with hq
  · have hpos : 0 ≤ ⌊q + 1 / 2⌋ := Int.floor_nonneg.mpr (by linarith)
    have hle : ⌊q + 1 / 2⌋ < n + 1 := Int.floor_lt.mpr (by push_cast; linarith)
    have hn : (0 : ℚ) ≤ n := hq.trans h.2
    have hn : 0 ≤ n := by exact_mod_cast hn
    omega
  · have hneg : ⌈q - 1 / 2⌉ ≤ 0 := Int.ceil_le.mpr (by push_cast; linarith)
    have hge : -n - 1 < ⌈q - 1 / 2⌉ := Int.lt_ceil.mpr (by push_cast; linarith)
    have hn : (0 : ℚ) ≤ n := by linarith
    have hn : 0 ≤ n := by exact_mod_cast hn
    omega

/-- Positions in the geographic range are within 64 bits. -/
theorem saturate_of_abs_le {z : ℤ} (h : |z| ≤ 180000000) : SignedWord.saturate 63 z = z := by
  rw [abs_le] at h
  refine SignedWord.saturate_of_fits ?_
  rw [SignedWord.Fits]
  omega

/-- A rounded position that is written as coordinates is rounded to itself. -/
theorem fromCoord_intoCoord {toF64 : ℚ → ℚ}
    (hto : ∀ q : ℚ, |q| ≤ 180 → |toF64 q - q| < 1 / 2000000) {c : RoundedCoord}
    (hx : |c.x| ≤ 180000000) (hy : |c.y| ≤ 180000000) :
    RoundedCoord.fromCoord (c.intoCoord toF64) = c := by
  have hround : ∀ z : ℤ, |z| ≤ 180000000 → roundCoordinate (toF64 (z / 1000000)) = z := by
    intro z hz
    have hq : |(z : ℚ) / 1000000| ≤ 180 := by
      rw [abs_div, div_le_iff₀ (by norm_num)]
      have : |(z : ℚ)| ≤ 180000000 := by exact_mod_cast hz
      norm_num
      linarith
    have hrounded : roundHalfAway (toF64 (z / 1000000) * 1000000) = z := by
      refine roundHalfAway_eq ?_
      have h := hto _ hq
      rw [abs_lt] at h ⊢
      constructor <;> linarith
    rw [roundCoordinate, hrounded]
    split_ifs with hzero
    · exact hzero.symm
    · exact saturate_of_abs_le hz
  cases c
  exact congrArg₂ RoundedCoord.mk (hround _ hx) (hround _ hy)

/-- A position in the geographic range. -/
def InGeographicRange (c : NativeCoord) : Prop := |c.x| ≤ 180 ∧ |c.y| ≤ 90

instance (c : NativeCoord) : Decidable (InGeographicRange c) := inferInstanceAs (Decidable (_ ∧ _))

theorem abs_fromCoord_le {c : NativeCoord} (h : InGeographicRange c) :
    |(RoundedCoord.fromCoord c).x| ≤ 180000000 ∧ |(RoundedCoord.fromCoord c).y| ≤ 180000000 := by
  have hround : ∀ v : ℚ, |v| ≤ 180 → |roundCoordinate v| ≤ 180000000 := by
    intro v hv
    have habs : |roundHalfAway (v * 1000000)| ≤ 180000000 := by
      refine abs_roundHalfAway_le ?_
      rw [abs_mul]
      norm_num
      linarith
    rw [roundCoordinate]
    split_ifs with hzero
    · norm_num
    · rwa [saturate_of_abs_le habs]
  exact ⟨hround _ h.1, hround _ (h.2.trans (by norm_num))⟩

/-! ### Rings in canonical form -/

/-- A ring in canonical form, with coordinates in the geographic range. -/
structure CanonicalRing.Normal (orientation : RingOrientation) (ring : CanonicalRing) : Prop where
  range : ∀ c ∈ ring.vertices, |c.x| ≤ 180000000 ∧ |c.y| ≤ 180000000
  oriented : ¬orientation.Reverses ring.signedAreaTwice
  least : IsLeast compare ring.openVertices ring.openVertices

theorem normal_normalizeRing (h : Closed ring) (hrange : ∀ c ∈ ring, InGeographicRange c) :
    (normalizeRing ring orientation).Normal orientation := by
  have hleast := isLeast_rotateToTotalOrderStart (orientation.orient (roundedRing ring))
  rw [normalizeRing_eq h]
  refine ⟨fun c hc => ?_, ?_, ?_⟩
  · -- the vertices are those of the ring, in another order
    have hmem : c ∈ rotateToTotalOrderStart (orientation.orient (roundedRing ring)) := by
      rcases List.mem_append.mp hc with hc | hc
      · exact hc
      · exact List.mem_of_mem_take hc
    rw [hleast.1.mem_iff, RingOrientation.orient] at hmem
    have hmem : c ∈ roundedRing ring := by
      split_ifs at hmem
      · exact List.mem_reverse.mp hmem
      · exact hmem
    obtain ⟨coord, hcoord, rfl⟩ := List.mem_map.mp (List.mem_of_mem_dropLast hmem)
    exact abs_fromCoord_le (hrange coord hcoord)
  · rw [CanonicalRing.signedAreaTwice, CanonicalRing.openVertices_ofOpen,
      signedAreaTwice_isRotated hleast.1]
    exact RingOrientation.not_reverses_orient _ _
  · rw [CanonicalRing.openVertices_ofOpen]
    exact ⟨.refl _, fun r' hr' => hleast.2 r' (hr'.trans hleast.1)⟩

section Written

variable {toF64 : ℚ → ℚ} (hto : ∀ q : ℚ, |q| ≤ 180 → |toF64 q - q| < 1 / 2000000)
include hto

/-- **A ring in canonical form** that is written as coordinates is its own canonical form. -/
theorem normalizeRing_intoLineString {ring : CanonicalRing} (h : ring.Normal orientation) :
    normalizeRing (LineString.close (ring.intoLineString toF64)) orientation = ring := by
  have hvertices : (ring.intoLineString toF64).map RoundedCoord.fromCoord = ring.vertices := by
    rw [CanonicalRing.intoLineString, List.map_map]
    refine (List.map_congr_left fun c hc => ?_).trans (List.map_id _)
    exact fromCoord_intoCoord hto (h.range c hc).1 (h.range c hc).2
  have hrounded : roundedRing (ring.intoLineString toF64) = ring.openVertices := by
    rw [roundedRing, hvertices]
    rfl
  have hclosed : Closed (ring.intoLineString toF64) := ring.closed.map _
  have horient : orientation.orient ring.openVertices = ring.openVertices := if_neg h.oriented
  rw [LineString.close_eq hclosed, normalizeRing_eq hclosed, hrounded, horient,
    (isLeast_rotateToTotalOrderStart _).unique h.least (.refl _),
    CanonicalRing.ofOpen_openVertices]

/-- A polygon in canonical form. -/
structure CanonicalPolygon.Normal (polygon : CanonicalPolygon) : Prop where
  exterior : polygon.exterior.Normal .exterior
  holes : ∀ hole ∈ polygon.holes, hole.Normal .hole
  sorted : sortBy compareRing polygon.holes = polygon.holes

omit hto in
theorem normal_normalizePolygon {polygon : Polygon}
    (hrange : ∀ ring ∈ polygon.rings, ∀ c ∈ ring, InGeographicRange c) :
    (normalizePolygon polygon).Normal where
  exterior := normal_normalizeRing polygon.closed_exterior (hrange _ List.mem_cons_self)
  holes hole hhole := by
    obtain ⟨ring, hring, rfl⟩ := List.mem_map.mp (mem_sortBy.mp hhole)
    exact normal_normalizeRing (polygon.closed_interiors ring hring)
      (hrange ring (List.mem_cons_of_mem _ hring))
  sorted := sortBy_sortBy _

theorem normalizePolygon_intoPolygon {polygon : CanonicalPolygon} (h : polygon.Normal) :
    normalizePolygon (polygon.intoPolygon toF64) = polygon := by
  have hholes : ((polygon.intoPolygon toF64).interiors.map (normalizeRing · .hole))
      = polygon.holes := by
    rw [CanonicalPolygon.intoPolygon, Polygon.new, List.map_map, List.map_map]
    refine (List.map_congr_left fun hole hhole => ?_).trans (List.map_id _)
    exact normalizeRing_intoLineString hto (h.holes hole hhole)
  rw [normalizePolygon, hholes, h.sorted]
  exact congrArg (CanonicalPolygon.mk · polygon.holes) (normalizeRing_intoLineString hto h.exterior)

/-- **The polygons in canonical form** that are written as coordinates are their own canonical
form. -/
theorem canonicalPolygons_intoPolygon {mp : MultiPolygon}
    (hrange : ∀ polygon ∈ mp, ∀ ring ∈ polygon.rings, ∀ c ∈ ring, InGeographicRange c) :
    canonicalPolygons ((canonicalPolygons mp).map (·.intoPolygon toF64))
      = canonicalPolygons mp := by
  have hpolygons : ((canonicalPolygons mp).map (·.intoPolygon toF64)).map normalizePolygon
      = canonicalPolygons mp := by
    rw [List.map_map]
    refine (List.map_congr_left fun canonical hcanonical => ?_).trans (List.map_id _)
    obtain ⟨polygon, hmem, rfl⟩ := List.mem_map.mp (mem_sortBy.mp hcanonical)
    exact normalizePolygon_intoPolygon hto (normal_normalizePolygon (hrange polygon hmem))
  rw [canonicalPolygons, hpolygons]
  exact sortBy_sortBy _

end Written

/-! ### Variants -/

/-- Another start of a closed ring, or its other direction if it has an area. -/
inductive RingVariant : List NativeCoord → List NativeCoord → Prop
  | rotate (vertices : List NativeCoord) (k : ℕ) :
    RingVariant (vertices ++ vertices.take 1) (vertices.rotate k ++ (vertices.rotate k).take 1)
  | reverse (ring : List NativeCoord) (h : signedAreaTwice (roundedRing ring) ≠ 0) :
    RingVariant ring ring.reverse

/-- Another way to write a multipolygon: the polygons or the holes of one of them in another order,
or a variant of one ring. -/
inductive Variant : MultiPolygon → MultiPolygon → Prop
  | polygons {mp mp' : MultiPolygon} (h : mp.Perm mp') : Variant mp mp'
  | holes (before after : MultiPolygon) {polygon polygon' : Polygon}
    (hexterior : polygon.exterior = polygon'.exterior)
    (h : polygon.interiors.Perm polygon'.interiors) :
    Variant (before ++ polygon :: after) (before ++ polygon' :: after)
  | exterior (before after : MultiPolygon) {polygon polygon' : Polygon}
    (h : RingVariant polygon.exterior polygon'.exterior)
    (hinteriors : polygon.interiors = polygon'.interiors) :
    Variant (before ++ polygon :: after) (before ++ polygon' :: after)
  | interior (before after : MultiPolygon) {polygon polygon' : Polygon}
    (holes holes' : List (List NativeCoord)) {ring ring' : List NativeCoord}
    (hexterior : polygon.exterior = polygon'.exterior)
    (hinteriors : polygon.interiors = holes ++ ring :: holes')
    (hinteriors' : polygon'.interiors = holes ++ ring' :: holes') (h : RingVariant ring ring') :
    Variant (before ++ polygon :: after) (before ++ polygon' :: after)

/-- Variants of a ring have one canonical form. -/
theorem RingVariant.normalizeRing_eq (h : RingVariant ring ring') (hclosed : Closed ring)
    (hclosed' : Closed ring') :
    normalizeRing ring orientation = normalizeRing ring' orientation := by
  cases h with
  | rotate vertices k =>
    have hrounded : ∀ vertices : List NativeCoord,
        roundedRing (vertices ++ vertices.take 1) = vertices.map RoundedCoord.fromCoord := by
      intro vertices
      cases vertices with
      | nil => rfl
      | cons a l =>
        rw [roundedRing, List.map_append]
        exact List.dropLast_concat
    refine normalizeRing_congr hclosed hclosed' ?_
    rw [hrounded, hrounded, List.map_rotate]
    exact ⟨k, rfl⟩
  | reverse ring h => exact (normalizeRing_reverse hclosed h).symm

/-- **Variants of a multipolygon** have one canonical form. -/
theorem Variant.canonicalPolygons_eq {mp mp' : MultiPolygon} (h : Variant mp mp') :
    canonicalPolygons mp = canonicalPolygons mp' := by
  have hreplace : ∀ (before after : MultiPolygon) {polygon polygon' : Polygon},
      normalizePolygon polygon = normalizePolygon polygon' →
      canonicalPolygons (before ++ polygon :: after)
        = canonicalPolygons (before ++ polygon' :: after) := by
    intro before after polygon polygon' heq
    rw [canonicalPolygons, canonicalPolygons, List.map_append, List.map_append, List.map_cons,
      List.map_cons, heq]
  cases h with
  | polygons h => exact sortBy_eq_of_perm (h.map normalizePolygon)
  | holes before after hexterior h =>
    refine hreplace before after ?_
    rw [normalizePolygon, normalizePolygon, hexterior, sortBy_eq_of_perm (h.map _)]
  | @exterior before after polygon polygon' h hinteriors =>
    refine hreplace before after ?_
    rw [normalizePolygon, normalizePolygon, hinteriors,
      h.normalizeRing_eq polygon.closed_exterior polygon'.closed_exterior]
  | @interior before after polygon polygon' holes holes' ring ring' hexterior hinteriors
      hinteriors' h =>
    refine hreplace before after ?_
    have hclosed : Closed ring := polygon.closed_interiors ring (by rw [hinteriors]; simp)
    have hclosed' : Closed ring' := polygon'.closed_interiors ring' (by rw [hinteriors']; simp)
    rw [normalizePolygon, normalizePolygon, hexterior, hinteriors, hinteriors', List.map_append,
      List.map_append, List.map_cons, List.map_cons, h.normalizeRing_eq hclosed hclosed']

/-! ### The canonical form -/

section Wkb

variable {toF64 : ℚ → ℚ} {writer : List GeomEvent → Except String (List UInt8)}
  {toGeo : List UInt8 → Except String (Geometry Polygon)}

/-- The coordinates that are encoded are doubles. -/
theorem exists_toF64_of_mem {mp : MultiPolygon} :
    ∀ polygon ∈ (canonicalPolygons mp).map (·.intoPolygon toF64), ∀ ring ∈ polygon.rings,
      ∀ c ∈ ring, ∃ q r, c = ⟨toF64 q, toF64 r⟩ := by
  have hline : ∀ ring : CanonicalRing, ∀ c ∈ LineString.close (ring.intoLineString toF64),
      ∃ q r, c = ⟨toF64 q, toF64 r⟩ := by
    intro ring c hc
    have hclosed : Closed (ring.intoLineString toF64) := ring.closed.map _
    rw [LineString.close_eq hclosed] at hc
    obtain ⟨coord, -, rfl⟩ := List.mem_map.mp hc
    exact ⟨_, _, rfl⟩
  intro polygon hpolygon ring hring
  obtain ⟨canonical, -, rfl⟩ := List.mem_map.mp hpolygon
  rcases List.mem_cons.mp hring with rfl | hring
  · exact hline _
  · obtain ⟨coords, hcoords, rfl⟩ := List.mem_map.mp hring
    obtain ⟨hole, -, rfl⟩ := List.mem_map.mp hcoords
    exact hline hole

/-- **Canonical WKB is a canonical form**: it is the same for all variants of a multipolygon, and
decoding it and canonicalizing again gives the same bytes. A quotient in the geographic range is
rounded to a double by less than half of the last decimal place, and the geometry crate reads back
the polygons with doubles as coordinates that it has written. -/
theorem canonicalWkb_canonical
    (hto : ∀ q : ℚ, |q| ≤ 180 → |toF64 q - q| < 1 / 2000000)
    (hwkb : ∀ mp bytes, (∀ polygon ∈ mp, ∀ ring ∈ polygon.rings, ∀ c ∈ ring,
      ∃ q r, c = ⟨toF64 q, toF64 r⟩) →
      writer (processGeom mp) = .ok bytes → toGeo bytes = .ok (.multiPolygon mp)) :
    (∀ mp mp', Variant mp mp' →
      canonicalWkbMultiPolygon toF64 writer mp = canonicalWkbMultiPolygon toF64 writer mp') ∧
    ∀ mp bytes,
      (∀ polygon ∈ mp, ∀ ring ∈ polygon.rings, ∀ c ∈ ring, InGeographicRange c) →
      canonicalWkbMultiPolygon toF64 writer mp = .ok bytes →
      ∃ mp', decodeWkbMultiPolygonBytes toGeo bytes = .ok mp' ∧
        canonicalWkbMultiPolygon toF64 writer mp' = .ok bytes := by
  refine ⟨fun mp mp' h => ?_, fun mp bytes hrange hbytes => ?_⟩
  · rw [canonicalWkbMultiPolygon, canonicalWkbMultiPolygon, h.canonicalPolygons_eq]
  · have hwritten := Checks.mapError_eq_ok_iff.mp hbytes
    refine ⟨(canonicalPolygons mp).map (·.intoPolygon toF64), ?_, ?_⟩
    · rw [decodeWkbMultiPolygonBytes, hwkb _ bytes exists_toF64_of_mem hwritten]
    · rw [canonicalWkbMultiPolygon, canonicalPolygons_intoPolygon hto hrange]
      exact hbytes

/-- A triangle, from its least vertex. -/
def sampleTriangle : Polygon := .new [⟨0, 0⟩, ⟨1, 0⟩, ⟨0, 1⟩] []

/-- The encoding of the triangle. -/
def sampleTriangleWkb : List UInt8 :=
  [1, 6, 0, 0, 0, 1, 0, 0, 0, 1, 3, 0, 0, 0, 1, 0, 0, 0, 4, 0, 0, 0,
    0, 0, 0, 0, 0, 0, 0, 0, 0, 0, 0, 0, 0, 0, 0, 0,
    0, 0, 0, 0, 0, 0, 0xF0, 0x3F, 0, 0, 0, 0, 0, 0, 0, 0,
    0, 0, 0, 0, 0, 0, 0, 0, 0, 0, 0, 0, 0, 0, 0xF0, 0x3F,
    0, 0, 0, 0, 0, 0, 0, 0, 0, 0, 0, 0, 0, 0, 0, 0]

theorem canonicalWkb_canonical_triangle :
    let writer := fun events =>
      if events = processGeom [sampleTriangle] then .ok sampleTriangleWkb else .error "events"
    let toGeo := fun bytes =>
      if bytes = sampleTriangleWkb then .ok (.multiPolygon [sampleTriangle]) else .error "bytes"
    canonicalWkbMultiPolygon id writer [.new [⟨1, 0⟩, ⟨0, 1⟩, ⟨0, 0⟩] []] = .ok sampleTriangleWkb ∧
      ∃ mp', decodeWkbMultiPolygonBytes toGeo sampleTriangleWkb = .ok mp' ∧
        canonicalWkbMultiPolygon id writer mp' = .ok sampleTriangleWkb := by
  intro writer toGeo
  have hcanonical := @canonicalWkb_canonical id writer toGeo (fun q _ => by simp)
    (fun mp bytes _ h => by
      simp only [writer] at h
      split_ifs at h with heq
      obtain rfl := processGeom_injective heq
      obtain rfl := Except.ok.inj h
      exact if_pos rfl)
  have hpolygon : (normalizePolygon sampleTriangle).intoPolygon id = sampleTriangle := by
    refine Polygon.rings_injective (congrArg₂ List.cons ?_ ?_)
    · decide +kernel
    · simp [normalizePolygon, sampleTriangle, Polygon.new, sortBy, CanonicalPolygon.intoPolygon]
  have htriangle : canonicalWkbMultiPolygon id writer [sampleTriangle] = .ok sampleTriangleWkb := by
    rw [canonicalWkbMultiPolygon, canonicalPolygons, sortBy, List.map_singleton,
      List.mergeSort_singleton, List.map_singleton, hpolygon, encodeWkbMultiPolygon]
    simp only [writer, if_true]
    rfl
  have hvariant : Variant [sampleTriangle] [.new [⟨1, 0⟩, ⟨0, 1⟩, ⟨0, 0⟩] []] :=
    .exterior [] [] (.rotate [⟨0, 0⟩, ⟨1, 0⟩, ⟨0, 1⟩] 1) rfl
  refine ⟨(hcanonical.1 _ _ hvariant).symm.trans htriangle, ?_⟩
  refine hcanonical.2 [sampleTriangle] _ ?_ htriangle
  decide +kernel

end Wkb

end WatershedDelineation
