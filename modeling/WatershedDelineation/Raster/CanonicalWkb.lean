import WatershedDelineation.General.Checked
import WatershedDelineation.General.LeastRotation
import WatershedDelineation.Raster.WkbEncode

/-!
# Canonical WKB

`canonicalWkbMultiPolygon` of `algo/canonical_wkb.rs`: coordinates are rounded to integers, rings
are closed, oriented and rotated to their least start, and the holes of a polygon and the polygons
are sorted. The comparisons that sort them are total orders.

Coordinates are exact rationals, and `toF64` is the rounding of a quotient to a double.
-/

namespace WatershedDelineation

open ClosedWalk Comparison Std

/-! ### Coordinates -/

/-- Rounding to an integer; halves go away from zero, as in the standard library. -/
def roundHalfAway (q : ℚ) : ℤ := if 0 ≤ q then ⌊q + 1 / 2⌋ else ⌈q - 1 / 2⌉

/-- A coordinate in units of the last decimal place. What is too large for 64 bits is saturated, as
the cast of the source does. -/
def roundCoordinate (value : ℚ) : ℤ :=
  let rounded := roundHalfAway (value * 1000000)
  if rounded = 0 then 0 else SignedWord.saturate 63 rounded

/-- A rounded position. -/
structure RoundedCoord where
  x : ℤ
  y : ℤ
  deriving DecidableEq, Repr, Inhabited

namespace RoundedCoord

/-- Positions are compared by `x` first. -/
instance : Ord RoundedCoord := ⟨compareLex (compareOn x) (compareOn y)⟩

instance : TransOrd RoundedCoord := inferInstanceAs (TransCmp (compareLex _ _))

instance : LawfulEqOrd RoundedCoord where
  eq_of_compare {a b} h := by
    obtain ⟨hx, hy⟩ := compareLex_eq_eq.mp h
    cases a
    cases b
    obtain rfl := LawfulEqOrd.eq_of_compare hx
    obtain rfl := LawfulEqOrd.eq_of_compare hy
    rfl

/-- A position, rounded to six decimal places. -/
def fromCoord (coord : NativeCoord) : RoundedCoord :=
  ⟨roundCoordinate coord.x, roundCoordinate coord.y⟩

/-- The position of a rounded one: each number is divided again, and the quotient is rounded. -/
def intoCoord (toF64 : ℚ → ℚ) (coord : RoundedCoord) : NativeCoord :=
  ⟨toF64 (coord.x / 1000000), toF64 (coord.y / 1000000)⟩

end RoundedCoord

/-- Twice the signed area of the ring through the vertices. -/
def signedAreaTwice (vertices : List RoundedCoord) : ℤ :=
  if vertices.length < 3 then 0
  else ((vertices.zip (vertices.rotate 1)).map fun (left, right) =>
    left.x * right.y - right.x * left.y).sum

/-! ### Rings -/

/-- The box of a ring. -/
structure RingBbox where
  minX : ℤ
  minY : ℤ
  maxX : ℤ
  maxY : ℤ
  deriving DecidableEq, Repr

namespace RingBbox

/-- Boxes are compared field by field. -/
instance : Ord RingBbox :=
  ⟨compareLex (compareOn minX) (compareLex (compareOn minY)
    (compareLex (compareOn maxX) (compareOn maxY)))⟩

instance : TransOrd RingBbox := inferInstanceAs (TransCmp (compareLex _ _))

/-- The box of no position, which any position replaces. -/
def empty : RingBbox := ⟨2 ^ 63 - 1, 2 ^ 63 - 1, -2 ^ 63, -2 ^ 63⟩

/-- A box with one more position. -/
def includeCoord (bbox : RingBbox) (coord : RoundedCoord) : RingBbox :=
  ⟨min bbox.minX coord.x, min bbox.minY coord.y, max bbox.maxX coord.x, max bbox.maxY coord.y⟩

end RingBbox

/-- A ring that is closed, by a vertex of its own: it is empty, or its last vertex repeats the
first. -/
structure CanonicalRing where
  vertices : List RoundedCoord
  closed : Closed vertices
  length_ne_one : vertices.length ≠ 1

namespace CanonicalRing

/-- A ring that is closed with its first vertex. -/
def ofOpen (vertices : List RoundedCoord) : CanonicalRing where
  vertices := vertices ++ vertices.take 1
  closed := by
    cases vertices with
    | nil => rfl
    | cons a l =>
      rw [Closed, List.take_succ_cons, List.take_zero, List.getLast?_concat]
      rfl
  length_ne_one := by cases vertices <;> simp

/-- The vertices of a ring without the last one, which closes it. -/
def openVertices (ring : CanonicalRing) : List RoundedCoord := ring.vertices.dropLast

/-- The box of the vertices of a ring. -/
def bbox (ring : CanonicalRing) : RingBbox :=
  ring.openVertices.foldl RingBbox.includeCoord RingBbox.empty

/-- Twice the signed area of a ring. -/
def signedAreaTwice (ring : CanonicalRing) : ℤ :=
  WatershedDelineation.signedAreaTwice ring.openVertices

/-- The positions of a ring. -/
def intoLineString (toF64 : ℚ → ℚ) (ring : CanonicalRing) : List NativeCoord :=
  ring.vertices.map (RoundedCoord.intoCoord toF64)

end CanonicalRing

/-- Compare two starts in a ring: the sequences that begin there, once around. -/
def compareCyclicSequence (vertices : List RoundedCoord) (leftStart rightStart : ℕ) : Ordering :=
  firstDifference ((List.range vertices.length).map fun offset =>
    compare (vertices.getD ((leftStart + offset) % vertices.length) default)
      (vertices.getD ((rightStart + offset) % vertices.length) default)) .eq

/-- Rotate a ring to its least start; of equal ones it is the first. -/
def rotateToTotalOrderStart (vertices : List RoundedCoord) : List RoundedCoord :=
  if vertices.length ≤ 1 then vertices
  else
    let start := (List.range' 1 (vertices.length - 1)).foldl (fun best candidate =>
      if compareCyclicSequence vertices candidate best = .lt then candidate else best) 0
    vertices.drop start ++ vertices.take start

/-- What a ring is, which decides how it has to turn. -/
inductive RingOrientation
  | exterior
  | hole
  deriving DecidableEq, Repr

/-- Whether a ring with this area has to be reversed. -/
def RingOrientation.Reverses : RingOrientation → ℤ → Prop
  | .exterior, areaTwice => areaTwice < 0
  | .hole, areaTwice => areaTwice > 0

instance (areaTwice : ℤ) : ∀ orientation : RingOrientation,
    Decidable (orientation.Reverses areaTwice)
  | .exterior => inferInstanceAs (Decidable (_ < _))
  | .hole => inferInstanceAs (Decidable (_ > _))

/-- Round, orient and rotate a ring, without its closing vertex; it is closed again at the end. -/
def normalizeRing (ring : List NativeCoord) (orientation : RingOrientation) : CanonicalRing :=
  let vertices := ring.map RoundedCoord.fromCoord
  let vertices := if vertices.head? = vertices.getLast? then vertices.dropLast else vertices
  let areaTwice := signedAreaTwice vertices
  let vertices := if orientation.Reverses areaTwice then vertices.reverse else vertices
  .ofOpen (rotateToTotalOrderStart vertices)

/-- Compare two rings by their boxes, their areas and their vertices. -/
def compareRing (left right : CanonicalRing) : Ordering :=
  ((compare left.bbox right.bbox).then
    (compare left.signedAreaTwice right.signedAreaTwice)).then
    (compare left.openVertices right.openVertices)

/-! ### Polygons -/

/-- A polygon of canonical rings. -/
structure CanonicalPolygon where
  exterior : CanonicalRing
  holes : List CanonicalRing

namespace CanonicalPolygon

/-- Twice the area of a polygon without its holes. -/
def areaTwice (polygon : CanonicalPolygon) : ℤ :=
  |polygon.exterior.signedAreaTwice| - (polygon.holes.map fun hole => |hole.signedAreaTwice|).sum

/-- The polygon of canonical rings. -/
def intoPolygon (toF64 : ℚ → ℚ) (polygon : CanonicalPolygon) : Polygon :=
  .new (polygon.exterior.intoLineString toF64) (polygon.holes.map (·.intoLineString toF64))

end CanonicalPolygon

/-- Normalize the rings of a polygon and sort its holes. -/
def normalizePolygon (polygon : Polygon) : CanonicalPolygon where
  exterior := normalizeRing polygon.exterior .exterior
  holes := sortBy compareRing (polygon.interiors.map (normalizeRing · .hole))

/-- Compare two sequences of holes: the first difference decides, and then the number of holes. -/
def compareHoleSequences (left right : List CanonicalRing) : Ordering :=
  firstDifference ((left.zip right).map fun (leftRing, rightRing) => compareRing leftRing rightRing)
    (compare left.length right.length)

/-- Compare two polygons by the box of the exterior, the area, the number of holes, the vertices of
the exterior and the holes. -/
def comparePolygon (left right : CanonicalPolygon) : Ordering :=
  ((((compare left.exterior.bbox right.exterior.bbox).then
    (compare left.areaTwice right.areaTwice)).then
    (compare left.holes.length right.holes.length)).then
    (compare left.exterior.openVertices right.exterior.openVertices)).then
    (compareHoleSequences left.holes right.holes)

/-- The canonical polygons of a multipolygon, sorted. -/
def canonicalPolygons (mp : MultiPolygon) : List CanonicalPolygon :=
  sortBy comparePolygon (mp.map normalizePolygon)

/-- Normalize a multipolygon and encode it. -/
def canonicalWkbMultiPolygon (toF64 : ℚ → ℚ) (writer : List GeomEvent → Except String (List UInt8))
    (mp : MultiPolygon) : Except WkbEncodeError (List UInt8) :=
  encodeWkbMultiPolygon writer ((canonicalPolygons mp).map (·.intoPolygon toF64))

/-! ### The comparisons are total orders -/

namespace CanonicalRing

/-- A canonical ring is its open part, closed. -/
theorem ofOpen_openVertices (ring : CanonicalRing) : ofOpen ring.openVertices = ring := by
  obtain ⟨vertices, hclosed, hne⟩ := ring
  match vertices with
  | [] => rfl
  | [a] => exact absurd rfl hne
  | a :: b :: l =>
    have hlast : (a :: b :: l).getLast? = some a := hclosed.symm
    rw [ofOpen, mk.injEq]
    exact List.dropLast_append_getLast? a hlast

/-- A ring is determined by its open part, so that a comparison of the open parts tells all rings
apart. -/
theorem openVertices_injective : Function.Injective openVertices := fun a b h => by
  rw [← ofOpen_openVertices a, h, ofOpen_openVertices b]

@[simp] theorem openVertices_ofOpen (vertices : List RoundedCoord) :
    (ofOpen vertices).openVertices = vertices := by
  cases vertices with
  | nil => rfl
  | cons a l => exact List.dropLast_concat

end CanonicalRing

instance : TransCmp compareRing :=
  inferInstanceAs (TransCmp (compareLex (compareLex (compareOn CanonicalRing.bbox)
    (compareOn CanonicalRing.signedAreaTwice)) (compareOn CanonicalRing.openVertices)))

instance : LawfulEqCmp compareRing where
  compare_self := ReflCmp.compare_self
  eq_of_compare {a b} h := by
    rw [compareRing, Ordering.then_eq_eq] at h
    exact CanonicalRing.openVertices_injective (LawfulEqOrd.eq_of_compare h.2)

/-- Holes are compared lexicographically: the loop stops at the first difference, and the lengths
decide where there is none. -/
theorem compareHoleSequences_eq (left right : List CanonicalRing) :
    compareHoleSequences left right = List.compareLex compareRing left right :=
  firstDifference_zip compareRing left right

/-- The comparison of polygons up to their holes. -/
def compareExterior : CanonicalPolygon → CanonicalPolygon → Ordering :=
  compareLex (compareLex (compareLex (compareOn fun polygon => polygon.exterior.bbox)
    (compareOn CanonicalPolygon.areaTwice)) (compareOn fun polygon => polygon.holes.length))
    (compareOn fun polygon => polygon.exterior.openVertices)

instance : TransCmp compareExterior := inferInstanceAs (TransCmp (compareLex _ _))

/-- Polygons are compared by their exteriors first, and then by their holes. -/
theorem comparePolygon_eq (left right : CanonicalPolygon) : comparePolygon left right =
    (compareExterior left right).then (List.compareLex compareRing left.holes right.holes) := by
  rw [← compareHoleSequences_eq]
  rfl

/-- Polygons are compared by their exteriors, then by their holes. -/
private theorem comparePolygon_eq_compareLex : comparePolygon = compareLex compareExterior
    fun left right => List.compareLex compareRing left.holes right.holes := by
  funext left right
  exact comparePolygon_eq left right

instance : TransCmp fun left right : CanonicalPolygon =>
    List.compareLex compareRing left.holes right.holes where
  eq_swap := OrientedCmp.eq_swap
  isLE_trans := TransCmp.isLE_trans

instance : TransCmp comparePolygon := by
  rw [comparePolygon_eq_compareLex]
  infer_instance

instance : LawfulEqCmp comparePolygon where
  compare_self := ReflCmp.compare_self
  eq_of_compare {a b} h := by
    rw [comparePolygon_eq, Ordering.then_eq_eq] at h
    have hexterior := CanonicalRing.openVertices_injective
      (LawfulEqOrd.eq_of_compare (compareLex_eq_eq.mp h.1).2)
    have hholes := LawfulEqCmp.eq_of_compare h.2
    cases a
    cases b
    obtain rfl := hexterior
    obtain rfl := hholes
    rfl

end WatershedDelineation
