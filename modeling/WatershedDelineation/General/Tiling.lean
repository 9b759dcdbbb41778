import Mathlib.Data.Nat.Notation
import Mathlib.Tactic.Common

/-!
# Tiling a line

The positions `0, 1, …` are cut into tiles of one length; the position `p` lies in tile
`p / tile`. The part of tile `i` that lies in a window is the `Span` from `spanStart` to
`spanEnd`; it is not empty for the tiles from that of the window's first position to that of its
last one (`spanStart_lt_spanEnd`).
-/

namespace Tiling

variable {tile size off len i p : ℕ}

theorem div_eq_iff (hpos : 0 < tile) : p / tile = i ↔ i * tile ≤ p ∧ p < i * tile + tile := by
  rw [Nat.div_eq_iff hpos]
  omega

/-- The length of tile `i` that lies below `size`. -/
def liveLength (tile size i : ℕ) : ℕ := min tile (size - i * tile)

/-- The first position of tile `i` in the window at `off`. -/
def spanStart (tile off i : ℕ) : ℕ := max off (i * tile)

/-- The position after the last one of tile `i` in the window of length `len` at `off`. -/
def spanEnd (tile size off len i : ℕ) : ℕ := min (off + len) (i * tile + liveLength tile size i)

/-- A tile that meets the window. -/
structure Meets (tile off len i : ℕ) : Prop where
  first_le : off / tile ≤ i
  le_last : i ≤ (off + len - 1) / tile

/-- The tiles that meet a window are the tiles of its positions. -/
theorem meets_div (h : off ≤ p ∧ p < off + len) : Meets tile off len (p / tile) :=
  ⟨Nat.div_le_div_right h.1, Nat.div_le_div_right (by omega)⟩

theorem Meets.mul_lt (h : Meets tile off len i) (hpos : 0 < tile) (hlen : 0 < len) :
    i * tile < off + len := by
  have := (Nat.le_div_iff_mul_le hpos).mp h.le_last
  omega

theorem Meets.lt_mul (h : Meets tile off len i) (hpos : 0 < tile) : off < i * tile + tile := by
  have := (Nat.div_lt_iff_lt_mul hpos).mp (Nat.lt_succ_of_le h.first_le)
  rwa [Nat.succ_mul] at this

/-- **The span** of a tile holds the positions of the window that lie in the tile. -/
theorem mem_span_iff (hpos : 0 < tile) (hsize : off + len ≤ size) :
    (spanStart tile off i ≤ p ∧ p < spanEnd tile size off len i) ↔
      (off ≤ p ∧ p < off + len) ∧ p / tile = i := by
  rw [div_eq_iff hpos, spanStart, spanEnd, liveLength]
  omega

theorem Meets.span_bounds (h : Meets tile off len i) (hpos : 0 < tile) (hlen : 0 < len)
    (hsize : off + len ≤ size) :
    i * tile < size ∧ spanStart tile off i < spanEnd tile size off len i := by
  have hmul := h.mul_lt hpos hlen
  have hlt := h.lt_mul hpos
  rw [spanStart, spanEnd, liveLength]
  omega

/-- The span lies in the window and in the live part of the tile. -/
structure SpanInside (tile size off len i : ℕ) : Prop where
  off_le : off ≤ spanStart tile off i
  mul_le : i * tile ≤ spanStart tile off i
  start_lt : spanStart tile off i < spanEnd tile size off len i
  le_off : spanEnd tile size off len i ≤ off + len
  le_live : spanEnd tile size off len i ≤ i * tile + liveLength tile size i
  live_le : i * tile + liveLength tile size i ≤ size

theorem Meets.spanInside (h : Meets tile off len i) (hpos : 0 < tile) (hlen : 0 < len)
    (hsize : off + len ≤ size) : SpanInside tile size off len i := by
  obtain ⟨hmul, hstart⟩ := h.span_bounds hpos hlen hsize
  refine ⟨Nat.le_max_left .., Nat.le_max_right .., hstart, Nat.min_le_left .., Nat.min_le_right ..,
    ?_⟩
  rw [liveLength]
  omega

end Tiling
