import Mathlib.Tactic.IntervalCases
import WatershedDelineation.Assembly.FloatGeometry
import WatershedDelineation.General.Comparison

/-!
# Dissolving polygons

`algo/dissolve.rs` unites a list of polygons. They are sorted by a key, the position of the centre
of their bounds on the Morton curve and then some coordinates, and united in the shape of a balanced
tree (`UnionTree`), so that the input order should not matter.

It does matter for different polygons with equal keys, which stay in the order they come in. The key
tells exactly the features of polygons apart that it is made of (`spatialKey_eq_iff`), and the order
is the same for all input orders exactly when no two different polygons of the list share them
(`sameForAllOrders_iff`).
-/

namespace WatershedDelineation

open Std

/-- What the geometry crate computes of a polygon. -/
structure PolygonCrate where
  boundingRect : FloatPolygon → Option FloatRect
  unsignedArea : FloatPolygon → F64

/-- Errors of dissolving. -/
inductive DissolveError
  | emptyInput
  deriving DecidableEq, Repr

/-! ### Keys -/

/-- A double whose words are in the order of the numbers. -/
structure OrderedFloat where
  key : BitVec 64
  deriving DecidableEq, Repr

/-- The sign bit of a positive double is set, and the bits of a negative one are flipped, so that
the words of negative numbers come first and in the reverse order of their magnitudes. -/
def OrderedFloat.new (value : F64) : OrderedFloat :=
  if value.bits &&& ((1 : BitVec 64) <<< 63) = 0 then ⟨value.bits ||| ((1 : BitVec 64) <<< 63)⟩
  else ⟨~~~value.bits⟩

/-- A coordinate as a number of 16 bits: the degrees from -180 to 180 are scaled to it, and what
lies outside is clamped. Both axes use the range of the longitudes. -/
def quantizeForMorton (value : F64) : ℕ :=
  let normalized :=
    if Binary64.isFinite value.bits then
      Binary64.clamp (Binary64.div (Binary64.add value.bits 0x4066800000000000) 0x4076800000000000)
        0 Binary64.one
    else 0
  Binary64.toU32 (Binary64.round (Binary64.mul normalized Binary64.u16Max))

/-- Move the lower 16 bits to the even positions. -/
def interleaveBits (value : BitVec 32) : BitVec 64 :=
  let value := value &&& 0x0000ffff
  let spread := value.setWidth 64
  let spread := (spread ||| spread <<< 16) &&& 0x0000ffff0000ffff
  let spread := (spread ||| spread <<< 8) &&& 0x00ff00ff00ff00ff
  let spread := (spread ||| spread <<< 4) &&& 0x0f0f0f0f0f0f0f0f
  let spread := (spread ||| spread <<< 2) &&& 0x3333333333333333
  (spread ||| spread <<< 1) &&& 0x5555555555555555

/-- The position of a cell on the Morton curve. -/
def mortonOfCell (cell : ℕ × ℕ) : BitVec 64 :=
  interleaveBits (.ofNat 32 cell.1) ||| interleaveBits (.ofNat 32 cell.2) <<< 1

/-- The cell of a coordinate. -/
def mortonCell (x y : F64) : ℕ × ℕ := (quantizeForMorton x, quantizeForMorton y)

/-- The position of a point on the Morton curve. -/
def mortonKey (x y : F64) : BitVec 64 := mortonOfCell (mortonCell x y)

/-- The key that polygons are sorted by. -/
structure SpatialKey where
  morton : BitVec 64
  minX : OrderedFloat
  minY : OrderedFloat
  unsignedArea : OrderedFloat
  firstX : OrderedFloat
  firstY : OrderedFloat
  deriving DecidableEq, Repr

/-- Words are compared as numbers. -/
instance : Ord OrderedFloat := ⟨compareOn fun value => value.key.toNat⟩

/-- Keys are compared field by field. -/
instance : Ord SpatialKey := ⟨compareLex (compareOn fun key => key.morton.toNat)
  (compareLex (compareOn SpatialKey.minX) (compareLex (compareOn SpatialKey.minY)
    (compareLex (compareOn SpatialKey.unsignedArea) (compareLex (compareOn SpatialKey.firstX)
      (compareOn SpatialKey.firstY)))))⟩

/-- The key of a polygon without bounds. -/
def SpatialKey.empty : SpatialKey := ⟨0, .new ⟨0⟩, .new ⟨0⟩, .new ⟨0⟩, .new ⟨0⟩, .new ⟨0⟩⟩

/-- The middle between two coordinates. -/
def centerOf (min max : F64) : F64 :=
  ⟨Binary64.mul (Binary64.add min.bits max.bits) 0x3fe0000000000000⟩

/-- The first vertex of a polygon, or the origin. -/
def firstVertex (polygon : FloatPolygon) : FloatCoord := polygon.exterior.head?.getD ⟨⟨0⟩, ⟨0⟩⟩

section Dissolve

variable (crate : PolygonCrate)

/-- The key of a polygon. Only its bounds, its area and its first vertex enter it. -/
def spatialKey (polygon : FloatPolygon) : SpatialKey :=
  match crate.boundingRect polygon with
  | none => .empty
  | some bounds =>
    { morton := mortonKey (centerOf bounds.min.x bounds.max.x) (centerOf bounds.min.y bounds.max.y)
      minX := .new bounds.min.x
      minY := .new bounds.min.y
      unsignedArea := .new (crate.unsignedArea polygon)
      firstX := .new (firstVertex polygon).x
      firstY := .new (firstVertex polygon).y }

/-! ### Unions -/

section Reduce

variable {M : Type} (empty : M) (union : M → M → M) (single : FloatPolygon → M)

/-- Unite a list by halves; a single part is united with the empty one. -/
def deterministicReduce : List M → M
  | [] => empty
  | [polygon] => union empty polygon
  | polygon :: polygon' :: polygons =>
    let all := polygon :: polygon' :: polygons
    union (deterministicReduce (all.take (all.length / 2)))
      (deterministicReduce (all.drop (all.length / 2)))
termination_by polygons => polygons.length
decreasing_by
  · rw [List.length_take]
    simp only [List.length_cons]
    omega
  · rw [List.length_drop]
    simp only [List.length_cons]
    omega

/-- Unite polygons in the order in which they come. -/
def dissolveReduceStrategy (polygons : List FloatPolygon) : M :=
  deterministicReduce empty union (polygons.map single)

/-- The polygons in the order in which they are united. -/
def spatialOrder (polygons : List FloatPolygon) : List FloatPolygon :=
  Comparison.sortBy (compareOn (spatialKey crate)) polygons

/-- Unite polygons in the order of their keys. -/
def dissolveSpatialReduceStrategy (polygons : List FloatPolygon) : M :=
  dissolveReduceStrategy empty union single (spatialOrder crate polygons)

/-- Dissolve a list of polygons, which must not be empty. -/
def dissolve (polygons : List FloatPolygon) : Except DissolveError M :=
  if polygons.isEmpty then .error .emptyInput
  else .ok (dissolveSpatialReduceStrategy crate empty union single polygons)

end Reduce

/-- How a result is put together. -/
inductive UnionTree
  | empty
  | single (polygon : FloatPolygon)
  | union (left right : UnionTree)
  deriving DecidableEq, Repr

/-- The tree of the unions of a list. -/
def unionTree (polygons : List FloatPolygon) : UnionTree :=
  dissolveSpatialReduceStrategy crate .empty .union .single polygons

end Dissolve

/-- The value of a tree. -/
def UnionTree.eval {M : Type} (empty : M) (union : M → M → M) (single : FloatPolygon → M) :
    UnionTree → M
  | .empty => empty
  | .single polygon => single polygon
  | .union left right => union (left.eval empty union single) (right.eval empty union single)

/-- Uniting commutes with what keeps the empty one and unions. -/
theorem deterministicReduce_map {M N : Type} {empty : M} {union : M → M → M} {empty' : N}
    {union' : N → N → N} {f : M → N} (hempty : f empty = empty')
    (hunion : ∀ a b, f (union a b) = union' (f a) (f b)) (polygons : List M) :
    deterministicReduce empty' union' (polygons.map f)
      = f (deterministicReduce empty union polygons) := by
  induction polygons using deterministicReduce.induct with
  | case1 => rw [List.map_nil, deterministicReduce, deterministicReduce, hempty]
  | case2 polygon =>
    rw [List.map_singleton, deterministicReduce, deterministicReduce, hunion, hempty]
  | case3 polygon polygon' polygons all ihLeft ihRight =>
    rw [List.map_cons, List.map_cons, deterministicReduce, deterministicReduce, hunion, ← ihLeft,
      ← ihRight, List.map_take, List.map_drop]
    simp only [all, List.map_cons, List.length_cons, List.length_map]

/-- The polygons of a tree, from left to right. -/
def UnionTree.polygons : UnionTree → List FloatPolygon
  | .empty => []
  | .single polygon => [polygon]
  | .union left right => left.polygons ++ right.polygons

/-- Appending single elements in the shape of a balanced tree gives the list of them. -/
theorem deterministicReduce_append {α : Type} (l : List (List α)) :
    deterministicReduce [] (· ++ ·) l = l.flatten := by
  induction l using deterministicReduce.induct with
  | case1 => rw [deterministicReduce, List.flatten_nil]
  | case2 l => rw [deterministicReduce, List.flatten_singleton, List.nil_append]
  | case3 l l' ls all ihLeft ihRight =>
    rw [deterministicReduce, ihLeft, ihRight, ← List.flatten_append, List.take_append_drop]

/-- **The tree determines the result**, whatever a union is. -/
theorem dissolveSpatialReduceStrategy_eq_eval {M : Type} (crate : PolygonCrate) (empty : M)
    (union : M → M → M) (single : FloatPolygon → M) (polygons : List FloatPolygon) :
    dissolveSpatialReduceStrategy crate empty union single polygons
      = (unionTree crate polygons).eval empty union single := by
  rw [unionTree, dissolveSpatialReduceStrategy, dissolveSpatialReduceStrategy,
    dissolveReduceStrategy, dissolveReduceStrategy,
    ← deterministicReduce_map (f := UnionTree.eval empty union single) rfl (fun _ _ => rfl),
    List.map_map]
  rfl

/-- The tree of the unions has the polygons in the order in which they are sorted: it cannot be the
same for two input orders unless that order is. -/
theorem polygons_unionTree (crate : PolygonCrate) (polygons : List FloatPolygon) :
    (unionTree crate polygons).polygons = spatialOrder crate polygons := by
  have hmap := @deterministicReduce_map UnionTree (List FloatPolygon) .empty .union [] (· ++ ·)
    UnionTree.polygons rfl (fun _ _ => rfl) ((spatialOrder crate polygons).map .single)
  rw [unionTree, dissolveSpatialReduceStrategy, dissolveReduceStrategy, ← hmap,
    deterministicReduce_append, List.map_map, ← List.flatMap_def]
  exact List.flatMap_singleton' _

/-! ### What keys tell apart -/

/-- The bits of a number of 16 bits, at the even positions. -/
theorem getLsbD_interleaveBits (value : BitVec 32) {i : ℕ} (hi : i < 16) :
    (interleaveBits value).getLsbD (2 * i) = value.getLsbD i ∧
      (interleaveBits value).getLsbD (2 * i + 1) = false := by
  interval_cases i <;> simp [interleaveBits]

/-- The even bits are those of the first number, the odd ones those of the second. -/
theorem getLsbD_mortonOfCell (cell : ℕ × ℕ) {i : ℕ} (hi : i < 16) :
    (mortonOfCell cell).getLsbD (2 * i) = cell.1.testBit i ∧
      (mortonOfCell cell).getLsbD (2 * i + 1) = cell.2.testBit i := by
  have hx := getLsbD_interleaveBits (.ofNat 32 cell.1) hi
  have hy := getLsbD_interleaveBits (.ofNat 32 cell.2) hi
  have hword (n : ℕ) : (BitVec.ofNat 32 n).getLsbD i = n.testBit i := by
    rw [BitVec.getLsbD_ofNat, decide_eq_true (by omega : i < 32), Bool.true_and]
  constructor
  · rw [mortonOfCell, BitVec.getLsbD_or, hx.1, hword, BitVec.getLsbD_shiftLeft]
    rcases Nat.eq_zero_or_pos i with rfl | hpos
    · simp
    · have hodd := (getLsbD_interleaveBits (.ofNat 32 cell.2) (by omega : i - 1 < 16)).2
      rw [show 2 * i - 1 = 2 * (i - 1) + 1 by omega, hodd, Bool.and_false, Bool.or_false]
  · rw [mortonOfCell, BitVec.getLsbD_or, hx.2, Bool.false_or, BitVec.getLsbD_shiftLeft,
      Nat.add_sub_cancel, hy.1, hword, decide_eq_true (by omega : 2 * i + 1 < 64),
      decide_eq_false (by omega : ¬2 * i + 1 < 1), Bool.not_false, Bool.and_true, Bool.true_and]

/-- Different cells have different positions. -/
theorem eq_of_mortonOfCell_eq {cell cell' : ℕ × ℕ} (hx : cell.1 < 2 ^ 16) (hy : cell.2 < 2 ^ 16)
    (hx' : cell'.1 < 2 ^ 16) (hy' : cell'.2 < 2 ^ 16) (h : mortonOfCell cell = mortonOfCell cell') :
    cell = cell' := by
  have hbits {a b : ℕ} (ha : a < 2 ^ 16) (hb : b < 2 ^ 16)
      (hab : ∀ i < 16, a.testBit i = b.testBit i) : a = b := by
    refine Nat.eq_of_testBit_eq fun i => ?_
    rcases Nat.lt_or_ge i 16 with hi | hi
    · exact hab i hi
    · rw [Nat.testBit_lt_two_pow (ha.trans_le (Nat.pow_le_pow_right (by decide) hi)),
        Nat.testBit_lt_two_pow (hb.trans_le (Nat.pow_le_pow_right (by decide) hi))]
  refine Prod.ext (hbits hx hx' fun i hi => ?_) (hbits hy hy' fun i hi => ?_)
  · rw [← (getLsbD_mortonOfCell cell hi).1, h, (getLsbD_mortonOfCell cell' hi).1]
  · rw [← (getLsbD_mortonOfCell cell hi).2, h, (getLsbD_mortonOfCell cell' hi).2]

/-- Any coordinate is quantized to 16 bits. -/
theorem quantizeForMorton_lt (value : F64) : quantizeForMorton value < 2 ^ 16 := by
  refine Nat.lt_succ_of_le ?_
  rw [quantizeForMorton]
  split_ifs
  · exact Binary64.toU32_round_mul_clamp_le _
  · refine Binary64.toU32_round_mul_u16Max_le ⟨by decide, Binary64.toRat_zero.ge, ?_⟩
    rw [Binary64.toRat_zero, Binary64.toRat_one]
    norm_num

/-- **The words of doubles**, as keys, are in the total order. -/
theorem OrderedFloat.toNat_key_new (value : F64) :
    ((OrderedFloat.new value).key.toNat : ℤ) = Binary64.totalKey value.bits + 2 ^ 63 := by
  have hlt := value.bits.isLt
  have hsign : (1 : BitVec 64) <<< 63 = BitVec.twoPow 64 63 := by decide
  rw [OrderedFloat.new, Binary64.totalKey, Binary64.magnitude, hsign, BitVec.and_twoPow,
    show value.bits.getLsbD 63 = value.bits.msb from (BitVec.msb_eq_getLsbD_last _).symm]
  cases hmsb : value.bits.msb with
  | false =>
    rw [BitVec.msb_eq_decide, decide_eq_false_iff_not] at hmsb
    have hor : value.bits.toNat ||| 2 ^ 63 = 2 ^ 63 + value.bits.toNat := by
      have hlow : value.bits.toNat < 2 ^ 63 := by omega
      have hadd := Nat.two_pow_add_eq_or_of_lt hlow 1
      rw [Nat.mul_one] at hadd
      rw [Nat.or_comm, hadd]
    rw [if_neg Bool.false_ne_true, if_pos (by rfl), if_neg Bool.false_ne_true]
    simp only [BitVec.toNat_or, BitVec.toNat_twoPow]
    rw [Nat.mod_eq_of_lt (by decide : 2 ^ 63 < 2 ^ 64), hor]
    omega
  | true =>
    rw [BitVec.msb_eq_decide, decide_eq_true_eq] at hmsb
    rw [if_pos rfl, if_neg (by decide), if_pos rfl]
    simp only [BitVec.toNat_not]
    omega

/-- No two doubles have one word. -/
theorem OrderedFloat.new_injective : Function.Injective OrderedFloat.new := by
  intro a b hab
  have ha := OrderedFloat.toNat_key_new a
  rw [hab, OrderedFloat.toNat_key_new b] at ha
  have htotal : Binary64.totalKey b.bits = Binary64.totalKey a.bits := by omega
  calc a = ⟨a.bits⟩ := rfl
    _ = ⟨b.bits⟩ := congrArg F64.mk (Binary64.totalKey_injective htotal.symm)

/-- **The order of doubles** is kept. -/
theorem OrderedFloat.compare_new_of_lt {a b : F64} (h : Binary64.lt a.bits b.bits) :
    compare (OrderedFloat.new a) (OrderedFloat.new b) = .lt := by
  have hkey : Binary64.key a.bits < Binary64.key b.bits := by
    rw [Binary64.lt, Bool.and_eq_true, decide_eq_true_eq] at h
    exact h.2
  have htotal : Binary64.totalKey a.bits < Binary64.totalKey b.bits := by
    simp only [Binary64.key] at hkey
    simp only [Binary64.totalKey]
    split_ifs at hkey ⊢ <;> omega
  have ha := OrderedFloat.toNat_key_new a
  have hb := OrderedFloat.toNat_key_new b
  have hlt : (OrderedFloat.new a).key.toNat < (OrderedFloat.new b).key.toNat := by omega
  exact Nat.compare_eq_lt.mpr hlt

instance : TransOrd OrderedFloat := inferInstanceAs (TransCmp (compareOn _))

instance : LawfulEqOrd OrderedFloat where
  eq_of_compare {a b} h := by
    have hkey : a.key = b.key := BitVec.eq_of_toNat_eq (Nat.compare_eq_eq.mp h)
    calc a = ⟨a.key⟩ := rfl
      _ = ⟨b.key⟩ := congrArg OrderedFloat.mk hkey

instance : TransOrd SpatialKey := inferInstanceAs (TransCmp (compareLex _ _))

/-- Keys are equal under their order when they are equal field by field. -/
instance : LawfulEqOrd SpatialKey where
  eq_of_compare {a b} h := by
    obtain ⟨hmorton, h⟩ := compareLex_eq_eq.mp h
    obtain ⟨hminX, h⟩ := compareLex_eq_eq.mp h
    obtain ⟨hminY, h⟩ := compareLex_eq_eq.mp h
    obtain ⟨harea, h⟩ := compareLex_eq_eq.mp h
    obtain ⟨hfirstX, hfirstY⟩ := compareLex_eq_eq.mp h
    have hword : a.morton = b.morton := BitVec.eq_of_toNat_eq (Nat.compare_eq_eq.mp hmorton)
    calc a = ⟨a.morton, a.minX, a.minY, a.unsignedArea, a.firstX, a.firstY⟩ := rfl
      _ = ⟨b.morton, b.minX, b.minY, b.unsignedArea, b.firstX, b.firstY⟩ := by
        rw [hword, LawfulEqOrd.eq_of_compare hminX, LawfulEqOrd.eq_of_compare hminY,
          LawfulEqOrd.eq_of_compare harea, LawfulEqOrd.eq_of_compare hfirstX,
          LawfulEqOrd.eq_of_compare hfirstY]

/-! ### The features of polygons -/

/-- Where a polygon lies and how large it is, as far as keys know: the cell of the centre of its
bounds, their lower corner, its area and its first vertex. -/
structure SpatialFeatures where
  centerCell : ℕ × ℕ
  minCorner : FloatCoord
  unsignedArea : F64
  firstVertex : FloatCoord
  deriving DecidableEq, Repr

section Features

variable (crate : PolygonCrate)

/-- The features of a polygon; without bounds they are those of the origin. -/
def spatialFeatures (polygon : FloatPolygon) : SpatialFeatures :=
  match crate.boundingRect polygon with
  | none => ⟨(0, 0), ⟨⟨0⟩, ⟨0⟩⟩, ⟨0⟩, ⟨⟨0⟩, ⟨0⟩⟩⟩
  | some bounds =>
    ⟨mortonCell (centerOf bounds.min.x bounds.max.x) (centerOf bounds.min.y bounds.max.y),
      bounds.min, crate.unsignedArea polygon, firstVertex polygon⟩

/-- The key of a polygon with the given features. -/
def SpatialFeatures.key (features : SpatialFeatures) : SpatialKey :=
  ⟨mortonOfCell features.centerCell, .new features.minCorner.x, .new features.minCorner.y,
    .new features.unsignedArea, .new features.firstVertex.x, .new features.firstVertex.y⟩

variable {crate}

/-- The key of a polygon is made of its features and of nothing else. -/
theorem key_spatialFeatures (polygon : FloatPolygon) :
    (spatialFeatures crate polygon).key = spatialKey crate polygon := by
  have hzero : mortonOfCell (0, 0) = 0 := by decide
  rw [spatialFeatures, spatialKey]
  cases crate.boundingRect polygon with
  | none =>
    simp only [SpatialFeatures.key, hzero]
    rfl
  | some bounds => rfl

/-- Cells are numbered with 16 bits, so that their positions on the curve tell them apart. -/
theorem centerCell_spatialFeatures_lt (polygon : FloatPolygon) :
    (spatialFeatures crate polygon).centerCell.1 < 2 ^ 16 ∧
      (spatialFeatures crate polygon).centerCell.2 < 2 ^ 16 := by
  rw [spatialFeatures]
  cases crate.boundingRect polygon with
  | none => exact ⟨Nat.two_pow_pos 16, Nat.two_pow_pos 16⟩
  | some bounds => exact ⟨quantizeForMorton_lt _, quantizeForMorton_lt _⟩

/-- **Keys are equal** exactly when all features are. -/
theorem spatialKey_eq_iff {p q : FloatPolygon} :
    spatialKey crate p = spatialKey crate q ↔
      spatialFeatures crate p = spatialFeatures crate q := by
  rw [← key_spatialFeatures, ← key_spatialFeatures]
  constructor
  · intro h
    simp only [SpatialFeatures.key, SpatialKey.mk.injEq] at h
    obtain ⟨hmorton, hminX, hminY, harea, hfirstX, hfirstY⟩ := h
    have hcell := eq_of_mortonOfCell_eq (centerCell_spatialFeatures_lt p).1
      (centerCell_spatialFeatures_lt p).2 (centerCell_spatialFeatures_lt q).1
      (centerCell_spatialFeatures_lt q).2 hmorton
    have hcoord {a b : FloatCoord} (hx : OrderedFloat.new a.x = .new b.x)
        (hy : OrderedFloat.new a.y = .new b.y) : a = b := by
      calc a = ⟨a.x, a.y⟩ := rfl
        _ = ⟨b.x, b.y⟩ := by rw [OrderedFloat.new_injective hx, OrderedFloat.new_injective hy]
    have hall (features : SpatialFeatures) : features = ⟨features.centerCell, features.minCorner,
        features.unsignedArea, features.firstVertex⟩ := rfl
    rw [hall (spatialFeatures crate p), hall (spatialFeatures crate q), hcell, hcoord hminX hminY,
      OrderedFloat.new_injective harea, hcoord hfirstX hfirstY]
  · intro h
    rw [h]

/-! ### The order of unions -/

/-- What is promised for a list of polygons: all input orders give one order and one tree of unions,
the key tells the polygons apart, and the numbers in it are in order. -/
structure SameForAllOrders (crate : PolygonCrate) (polygons : List FloatPolygon) : Prop where
  order : ∀ polygons', polygons.Perm polygons' →
    spatialOrder crate polygons' = spatialOrder crate polygons
  tree : ∀ polygons', polygons.Perm polygons' → unionTree crate polygons' = unionTree crate polygons
  separates : ∀ p ∈ polygons, ∀ q ∈ polygons, spatialKey crate p = spatialKey crate q → p = q
  ordered : ∀ a b : F64, Binary64.isFinite a.bits → Binary64.isFinite b.bits →
    Binary64.lt a.bits b.bits → compare (OrderedFloat.new a) (OrderedFloat.new b) = .lt

/-- The polygons are united in one order, whatever the input order is, exactly when no two different
ones have the same features: those with equal keys stay in the order in which they come. -/
theorem forall_perm_spatialOrder_iff {polygons : List FloatPolygon} :
    (∀ polygons', polygons.Perm polygons' →
      spatialOrder crate polygons' = spatialOrder crate polygons) ↔
    ∀ p ∈ polygons, ∀ q ∈ polygons, spatialFeatures crate p = spatialFeatures crate q → p = q := by
  simp only [← spatialKey_eq_iff]
  refine Comparison.forall_perm_sortBy_iff.trans (forall₄_congr fun p _ q _ => ?_)
  have hkey : compareOn (spatialKey crate) p q = .eq ↔ spatialKey crate p = spatialKey crate q :=
    compare_eq_iff_eq
  rw [hkey]

/-- The same for the tree of the unions. -/
theorem forall_perm_unionTree_iff {polygons : List FloatPolygon} :
    (∀ polygons', polygons.Perm polygons' →
      unionTree crate polygons' = unionTree crate polygons) ↔
    ∀ p ∈ polygons, ∀ q ∈ polygons, spatialFeatures crate p = spatialFeatures crate q → p = q := by
  rw [← forall_perm_spatialOrder_iff]
  refine forall₂_congr fun polygons' _ => ⟨fun h => ?_, fun h => ?_⟩
  · rw [← polygons_unionTree, ← polygons_unionTree, h]
  · rw [unionTree, unionTree, dissolveSpatialReduceStrategy, dissolveSpatialReduceStrategy, h]

/-- **The input order does not matter** exactly when no two different polygons have the same
features. Each of the order of the polygons and the tree of their unions decides this alone; the
numbers in the keys are in order always. -/
theorem sameForAllOrders_iff {polygons : List FloatPolygon} :
    SameForAllOrders crate polygons ↔ ∀ p ∈ polygons, ∀ q ∈ polygons,
      spatialFeatures crate p = spatialFeatures crate q → p = q := by
  constructor
  · intro h
    exact forall_perm_spatialOrder_iff.mp h.order
  · intro h
    refine ⟨forall_perm_spatialOrder_iff.mpr h, forall_perm_unionTree_iff.mpr h,
      fun p hp q hq hkey => ?_, fun a b _ _ => OrderedFloat.compare_new_of_lt⟩
    exact h p hp q hq (spatialKey_eq_iff.mp hkey)

end Features

/-! ### Two triangles -/

/-- A triangle over the side from 0 to 2, with its tip at height 2. -/
def triangleWithTip (x : F64) : FloatPolygon :=
  ⟨[⟨⟨0⟩, ⟨0⟩⟩, ⟨⟨0x4000000000000000⟩, ⟨0⟩⟩, ⟨x, ⟨0x4000000000000000⟩⟩, ⟨⟨0⟩, ⟨0⟩⟩], []⟩

/-- The triangle with its tip at 1. -/
def tipAtOne : FloatPolygon := triangleWithTip ⟨0x3ff0000000000000⟩

/-- The triangle with its tip at 0.5. -/
def tipAtHalf : FloatPolygon := triangleWithTip ⟨0x3fe0000000000000⟩

/-- The geometry crate on the two triangles: their bounds are those of their side and their tip, and
their areas are 2. -/
def triangleCrate : PolygonCrate where
  boundingRect _ := some ⟨⟨⟨0⟩, ⟨0⟩⟩, ⟨⟨0x4000000000000000⟩, ⟨0x4000000000000000⟩⟩⟩
  unsignedArea _ := ⟨0x4000000000000000⟩

/-- Two such triangles have one key, and stay in the order in which they come. -/
theorem spatialOrder_triangles (x y : F64) :
    spatialOrder triangleCrate [triangleWithTip x, triangleWithTip y]
      = [triangleWithTip x, triangleWithTip y] := by
  refine Comparison.sortBy_eq_self (List.pairwise_pair.mpr ?_)
  have hkey : spatialKey triangleCrate (triangleWithTip x)
      = spatialKey triangleCrate (triangleWithTip y) := rfl
  rw [compareOn, hkey]
  exact ReflCmp.isLE_rfl

/-- They are united in that order. -/
theorem unionTree_triangles (x y : F64) :
    unionTree triangleCrate [triangleWithTip x, triangleWithTip y]
      = .union (.union .empty (.single (triangleWithTip x)))
        (.union .empty (.single (triangleWithTip y))) := by
  rw [unionTree, dissolveSpatialReduceStrategy, spatialOrder_triangles, dissolveReduceStrategy]
  simp [deterministicReduce]

/-- The two triangles are different, but they have one key, and they are united in the order in
which they come. -/
theorem not_sameForAllOrders_triangles : ¬SameForAllOrders triangleCrate [tipAtOne, tipAtHalf] ∧
    [tipAtOne, tipAtHalf].Perm [tipAtHalf, tipAtOne] ∧
    (∀ polygon ∈ [tipAtOne, tipAtHalf], ∀ coord ∈ polygon.exterior,
      Binary64.isFinite coord.x.bits ∧ Binary64.isFinite coord.y.bits) ∧
    tipAtOne ≠ tipAtHalf ∧
    spatialKey triangleCrate tipAtOne = spatialKey triangleCrate tipAtHalf ∧
    spatialOrder triangleCrate [tipAtOne, tipAtHalf]
      ≠ spatialOrder triangleCrate [tipAtHalf, tipAtOne] ∧
    unionTree triangleCrate [tipAtOne, tipAtHalf]
      ≠ unionTree triangleCrate [tipAtHalf, tipAtOne] := by
  have hne : tipAtOne ≠ tipAtHalf := by decide
  refine ⟨fun h => ?_, List.Perm.swap _ _ _, by decide, hne, rfl, ?_, ?_⟩
  · exact hne (h.separates tipAtOne (by simp) tipAtHalf (by simp) rfl)
  · rw [tipAtOne, tipAtHalf, spatialOrder_triangles, spatialOrder_triangles]
    decide
  · rw [tipAtOne, tipAtHalf, unionTree_triangles, unionTree_triangles]
    decide

end WatershedDelineation
