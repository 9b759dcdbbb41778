import WatershedDelineation.General.Binary64Arith
import WatershedDelineation.Resolver.Ranking

/-!
# Coordinates of doubles

Coordinates, rectangles and polygons of the geometry crate, with words of 64 bits as coordinates.
-/

namespace WatershedDelineation

/-- A coordinate of two doubles. -/
structure FloatCoord where
  x : F64
  y : F64
  deriving DecidableEq, Repr

/-- The corners of a rectangle. -/
structure FloatRect where
  min : FloatCoord
  max : FloatCoord
  deriving DecidableEq, Repr

/-- A polygon of doubles. -/
structure FloatPolygon where
  exterior : List FloatCoord
  interiors : List (List FloatCoord)
  deriving DecidableEq, Repr

/-! ### Rectangles -/

theorem F64.le_trans {a b c : F64} (hab : a.le b) (hbc : b.le c) : a.le c := by
  simp only [F64.le, Binary64.le, Bool.and_eq_true, decide_eq_true_eq] at hab hbc ⊢
  exact ⟨⟨hab.1.1, hbc.1.2⟩, Int.le_trans hab.2 hbc.2⟩

theorem F64.le_left {a b : F64} (h : a.le b) : a.le a := by
  simp only [F64.le, Binary64.le, Bool.and_eq_true, decide_eq_true_eq] at h ⊢
  exact ⟨⟨h.1.1, h.1.1⟩, Int.le_refl _⟩

theorem F64.le_right {a b : F64} (h : a.le b) : b.le b := by
  simp only [F64.le, Binary64.le, Bool.and_eq_true, decide_eq_true_eq] at h ⊢
  exact ⟨⟨h.1.2, h.1.2⟩, Int.le_refl _⟩

/-- The smaller of two doubles. -/
def F64.min (a b : F64) : F64 := ⟨Binary64.minNum a.bits b.bits⟩

/-- The larger of two doubles. -/
def F64.max (a b : F64) : F64 := ⟨Binary64.maxNum a.bits b.bits⟩

theorem F64.min_le {a b : F64} (ha : a.le a) (hb : b.le b) :
    (F64.min a b).le a ∧ (F64.min a b).le b := by
  simp only [F64.le, Binary64.le, Bool.and_eq_true, Bool.not_eq_true'] at ha hb
  simp only [F64.le, F64.min, Binary64.minNum, Binary64.lt, Binary64.le, ha.1.1, hb.1.1]
  split_ifs with h
  all_goals simp_all
  all_goals omega

theorem F64.le_max {a b : F64} (ha : a.le a) (hb : b.le b) :
    a.le (F64.max a b) ∧ b.le (F64.max a b) := by
  simp only [F64.le, Binary64.le, Bool.and_eq_true, Bool.not_eq_true'] at ha hb
  simp only [F64.le, F64.max, Binary64.maxNum, Binary64.lt, Binary64.le, ha.1.1, hb.1.1]
  split_ifs with h
  all_goals simp_all
  all_goals omega

namespace FloatRect

/-- The corners are in order; no coordinate is a NaN. -/
structure Ordered (rect : FloatRect) : Prop where
  x : rect.min.x.le rect.max.x
  y : rect.min.y.le rect.max.y

/-- A rectangle holds a coordinate. -/
structure Holds (rect : FloatRect) (coord : FloatCoord) : Prop where
  minx : rect.min.x.le coord.x
  miny : rect.min.y.le coord.y
  maxx : coord.x.le rect.max.x
  maxy : coord.y.le rect.max.y

/-- Two rectangles have a point in common; boundaries count. -/
def meets (rect other : FloatRect) : Bool :=
  rect.min.x.le other.max.x && other.min.x.le rect.max.x && rect.min.y.le other.max.y &&
    other.min.y.le rect.max.y

theorem Holds.ordered {rect : FloatRect} {coord : FloatCoord} (h : rect.Holds coord) :
    rect.Ordered :=
  ⟨F64.le_trans h.minx h.maxx, F64.le_trans h.miny h.maxy⟩

theorem Ordered.holds {rect : FloatRect} (h : rect.Ordered) :
    rect.Holds rect.min ∧ rect.Holds rect.max :=
  ⟨⟨F64.le_left h.x, F64.le_left h.y, h.x, h.y⟩, ⟨h.x, h.y, F64.le_right h.x, F64.le_right h.y⟩⟩

/-- The rectangle of two corners of a crate holds them, unless a coordinate is a NaN. -/
def Spans (rectNew : FloatCoord → FloatCoord → FloatRect) : Prop :=
  ∀ c d, c.x.le c.x → c.y.le c.y → d.x.le d.x → d.y.le d.y →
    (rectNew c d).Holds c ∧ (rectNew c d).Holds d

end FloatRect

end WatershedDelineation
