import WatershedDelineation.Raster.BoundaryRings
import WatershedDelineation.Raster.PointInRing
import WatershedDelineation.Raster.RefineSpec

/-!
# The plane of cells

A window is a rectangle of an unbounded plane of cells. Its geo-transform is that of the plane,
shifted by the position `o` of its first cell (`GeoTransform.shift`), and its cell at row `r` and
column `c` is the plane cell `(r + o.1, c + o.2)` (`GridCoord.at`).

Which plane cells a polygon covers does not mention a window (`TerminalCell`), and a window that
covers the polygon rasterizes it to exactly these (`CoversTerminal.exists_cell`,
`TerminalMask.includes_iff`).
-/

namespace WatershedDelineation

open ClosedWalk LatticeRing

/-! ### Shifted windows -/

/-- The geo-transform of the window whose first cell is at `o`. -/
def GeoTransform.shift (geo : GeoTransform) (o : Point) : GeoTransform where
  originX := geo.originX + o.2 * geo.pixelWidth
  originY := geo.originY + o.1 * geo.pixelHeight
  pixelWidth := geo.pixelWidth
  pixelHeight := geo.pixelHeight

/-- The plane cell of a cell of the window at `o`. -/
def GridCoord.at (cell : GridCoord) (o : Point) : Point := (cell.row + o.1, cell.col + o.2)

/-- A pixel space position in the window at `o`. -/
def relativeTo (o : Point) (v : ℚ × ℚ) : ℚ × ℚ := (v.1 - o.1, v.2 - o.2)

/-- The center of a plane cell. -/
def GeoTransform.center (geo : GeoTransform) (p : Point) : NativeCoord :=
  geo.cornerCoord (p.1 + 1 / 2) (p.2 + 1 / 2)

section Shift

variable {geo : GeoTransform} {o : Point}

theorem GridCoord.at_injective (o : Point) : Function.Injective (GridCoord.at · o) := by
  intro a b h
  cases a
  cases b
  simpa [GridCoord.at] using h

theorem GeoTransform.invertible_shift : (geo.shift o).Invertible ↔ geo.Invertible := Iff.rfl

theorem GeoTransform.cornerCoord_shift (row col : ℚ) :
    (geo.shift o).cornerCoord row col = geo.cornerCoord (row + o.1) (col + o.2) := by
  simp only [cornerCoord, shift, NativeCoord.mk.injEq]
  exact ⟨by ring, by ring⟩

theorem GeoTransform.pixelToCoord_shift (cell : GridCoord) :
    (geo.shift o).pixelToCoord cell = geo.center (cell.at o) := by
  rw [pixelToCoord_eq, cornerCoord_shift, center, GridCoord.at]
  push_cast
  exact congrArg₂ geo.cornerCoord (by ring) (by ring)

theorem GeoTransform.coordToPixelF64_shift (h : geo.Invertible) (p : NativeCoord) :
    (geo.shift o).coordToPixelF64 p = relativeTo o (geo.coordToPixelF64 p) := by
  obtain ⟨hw, hh⟩ := h
  simp only [coordToPixelF64, shift, relativeTo, Prod.mk.injEq]
  exact ⟨by field_simp; ring, by field_simp; ring⟩

/-! ### Crossings -/

theorem intersection_relativeTo (scanY : ℚ) (a b : ℚ × ℚ) :
    intersection (scanY - o.1) (some (relativeTo o a), some (relativeTo o b))
      = (intersection scanY (some a, some b)).map (· - (o.2 : ℚ)) := by
  obtain ⟨y0, x0⟩ := a
  obtain ⟨y1, x1⟩ := b
  simp only [intersection, relativeTo, sub_le_sub_iff_right, sub_sub_sub_cancel_right, gt_iff_lt]
  split_ifs with hle hskip hskip' hskip'
  · rfl
  · exact absurd (by simpa using hskip) hskip'
  · exact absurd (by simpa using hskip') hskip
  · simp only [Option.map_some, Option.some.injEq]
    ring
  all_goals simp_all
  ring

/-- Crossings do not depend on the window. -/
theorem crossings_relativeTo (scanY p : ℚ) (ring : List (ℚ × ℚ)) :
    crossings (scanY - o.1) (p - o.2) (ring.map (relativeTo o)) = crossings scanY p ring := by
  rw [crossings, crossings, steps_map, List.countP_map]
  refine List.countP_congr fun e _ => ?_
  simp only [Function.comp_apply, Prod.map_fst, Prod.map_snd, intersection_relativeTo,
    Option.any_map, sub_le_sub_iff_right]

theorem pixelRings_shift (h : geo.Invertible) (terminalPolygon : MultiPolygon) :
    pixelRings terminalPolygon (geo.shift o)
      = (pixelRings terminalPolygon geo).map (List.map (relativeTo o)) := by
  rw [pixelRings, pixelRings, List.map_map]
  refine List.map_congr_left fun ring _ => ?_
  rw [Function.comp_apply, List.map_map]
  exact List.map_congr_left fun p _ => GeoTransform.coordToPixelF64_shift h p

end Shift

/-- A crossing lies between the ends of its edge. -/
private theorem intersection_mem_box {scanY x rows cols : ℚ} {a b : ℚ × ℚ}
    (h : intersection scanY (some a, some b) = some x)
    (ha : (0 ≤ a.1 ∧ a.1 ≤ rows) ∧ 0 ≤ a.2 ∧ a.2 ≤ cols)
    (hb : (0 ≤ b.1 ∧ b.1 ≤ rows) ∧ 0 ≤ b.2 ∧ b.2 ≤ cols) :
    (0 < scanY ∧ scanY ≤ rows) ∧ 0 ≤ x ∧ x ≤ cols := by
  obtain ⟨y0, x0⟩ := a
  obtain ⟨y1, x1⟩ := b
  have hsides : (y0 < scanY ∧ scanY ≤ y1) ∨ (y1 < scanY ∧ scanY ≤ y0) := by
    have hsome := isSome_intersection scanY (y0, x0) (y1, x1)
    rw [h, Option.isSome_some, eq_comm, bne_iff_ne, ne_eq, decide_eq_decide] at hsome
    rcases lt_or_ge y0 scanY with h0 | h0 <;> rcases lt_or_ge y1 scanY with h1 | h1
    · exact absurd (iff_of_true h0 h1) hsome
    · exact .inl ⟨h0, h1⟩
    · exact .inr ⟨h1, h0⟩
    · exact absurd (iff_of_false h0.not_gt h1.not_gt) hsome
  have hx : x = x0 + (scanY - y0) / (y1 - y0) * (x1 - x0) := by
    simp only [intersection] at h
    generalize (if y0 ≤ y1 then (y0, y1) else (y1, y0)) = bounds at h
    split_ifs at h
    exact (Option.some.inj h).symm
  -- the share of the edge up to the crossing
  have hshare : 0 ≤ (scanY - y0) / (y1 - y0) ∧ (scanY - y0) / (y1 - y0) ≤ 1 := by
    rcases hsides with ⟨h0, h1⟩ | ⟨h1, h0⟩
    · have hpos : 0 < y1 - y0 := by linarith
      exact ⟨div_nonneg (by linarith) hpos.le, (div_le_one hpos).mpr (by linarith)⟩
    · have hneg : y1 - y0 < 0 := by linarith
      exact ⟨div_nonneg_of_nonpos (by linarith) hneg.le,
        (div_le_one_of_neg hneg).mpr (by linarith)⟩
  generalize (scanY - y0) / (y1 - y0) = t at hx hshare
  obtain ⟨ht, ht'⟩ := hshare
  simp only at ha hb
  subst hx
  refine ⟨?_, ?_, ?_⟩
  · rcases hsides with ⟨h0, h1⟩ | ⟨h1, h0⟩ <;> constructor <;> linarith
  · nlinarith
  · nlinarith

/-- **Even-odd filling stays in the box** of the rings. -/
theorem mem_box_of_odd {rings : List (List (ℚ × ℚ))} {scanY p rows cols : ℚ}
    (hclosed : ∀ ring ∈ rings, Closed ring)
    (hbox : ∀ ring ∈ rings, ∀ v ∈ ring, (0 ≤ v.1 ∧ v.1 ≤ rows) ∧ 0 ≤ v.2 ∧ v.2 ≤ cols)
    (hodd : Odd ((rings.map (crossings scanY p)).sum)) :
    (0 < scanY ∧ scanY ≤ rows) ∧ 0 ≤ p ∧ p < cols := by
  rw [← countP_filterMap_intersection] at hodd
  have heven : Even (rings.flatMap fun ring => (steps ring).filterMap fun e =>
      intersection scanY (some e.1, some e.2)).length := even_length_intersections hclosed
  generalize hxs : (rings.flatMap fun ring => (steps ring).filterMap fun e =>
    intersection scanY (some e.1, some e.2)) = xs at hodd heven
  have hmem : ∀ x ∈ xs, (0 < scanY ∧ scanY ≤ rows) ∧ 0 ≤ x ∧ x ≤ cols := by
    intro x hx
    rw [← hxs] at hx
    obtain ⟨ring, hring, hx⟩ := List.mem_flatMap.mp hx
    obtain ⟨e, he, hx⟩ := List.mem_filterMap.mp hx
    have hends := mem_of_mem_steps he
    exact intersection_mem_box hx (hbox ring hring _ hends.1) (hbox ring hring _ hends.2)
  obtain ⟨x, hx, hle⟩ := List.countP_pos_iff.mp hodd.pos
  have hxp : x ≤ p := by simpa using hle
  refine ⟨(hmem x hx).1, (hmem x hx).2.1.trans hxp, ?_⟩
  by_contra hnot
  -- every crossing is at or left of `p`, an even number of them
  have hall : xs.countP (· ≤ p) = xs.length := List.countP_eq_length.mpr fun x hx => by
    simpa using (hmem x hx).2.2.trans (not_lt.mp hnot)
  rw [hall] at hodd
  exact Nat.not_even_iff_odd.mpr hodd heven

/-! ### The cells of the terminal polygon -/

/-- The plane cells that a polygon covers by the even-odd rule. -/
def TerminalCell (geo : GeoTransform) (terminalPolygon : MultiPolygon) (p : Point) : Prop :=
  Odd (((pixelRings terminalPolygon geo).map (crossings (p.1 + 1 / 2) (p.2 + 1 / 2))).sum)

/-- The rectangle of a window contains every vertex of a polygon, and so its bounding box. -/
def CoversTerminal (geo : GeoTransform) (dims : GridDims) (terminalPolygon : MultiPolygon) : Prop :=
  ∀ ring ∈ pixelRings terminalPolygon geo, ∀ v ∈ ring,
    (0 ≤ v.1 ∧ v.1 ≤ dims.rows) ∧ 0 ≤ v.2 ∧ v.2 ≤ dims.cols

instance (geo : GeoTransform) (dims : GridDims) (terminalPolygon : MultiPolygon) :
    Decidable (CoversTerminal geo dims terminalPolygon) :=
  inferInstanceAs (Decidable (∀ ring ∈ pixelRings terminalPolygon geo, ∀ v ∈ ring,
    (0 ≤ v.1 ∧ v.1 ≤ dims.rows) ∧ 0 ≤ v.2 ∧ v.2 ≤ dims.cols))

section Terminal

variable {geo : GeoTransform} {o p : Point} {dims : GridDims} {terminalPolygon : MultiPolygon}

theorem terminalCell_shift (hgeo : geo.Invertible) :
    TerminalCell (geo.shift o) terminalPolygon p
      ↔ TerminalCell geo terminalPolygon (p.1 + o.1, p.2 + o.2) := by
  have hrow : (p.1 : ℚ) + 1 / 2 = ((p.1 + o.1 : ℤ) : ℚ) + 1 / 2 - o.1 := by push_cast; ring
  have hcol : (p.2 : ℚ) + 1 / 2 = ((p.2 + o.2 : ℤ) : ℚ) + 1 / 2 - o.2 := by push_cast; ring
  rw [TerminalCell, TerminalCell, pixelRings_shift hgeo, List.map_map, hrow, hcol]
  simp only [Function.comp_def, crossings_relativeTo]

/-- A window that covers a polygon has all its cells. -/
theorem CoversTerminal.exists_cell (hgeo : geo.Invertible)
    (hcovers : CoversTerminal (geo.shift o) dims terminalPolygon)
    (h : TerminalCell geo terminalPolygon p) : ∃ cell, dims.Holds cell ∧ cell.at o = p := by
  have hshift : TerminalCell (geo.shift o) terminalPolygon (p.1 - o.1, p.2 - o.2) := by
    rw [terminalCell_shift hgeo]
    simpa using h
  obtain ⟨⟨hrow, hrow'⟩, hcol, hcol'⟩ := mem_box_of_odd (fun _ => closed_of_mem_pixelRings)
    hcovers hshift
  have hlo : ∀ {n : ℤ}, (0 : ℚ) ≤ n + 1 / 2 → 0 ≤ n := by
    intro n h
    have : (-1 : ℚ) < n := by linarith
    have : (-1 : ℤ) < n := by exact_mod_cast this
    omega
  have hhi : ∀ {n : ℤ} {m : ℕ}, (n : ℚ) + 1 / 2 ≤ m → n < m := by
    intro n m h
    have : (n : ℚ) < m := by linarith
    exact_mod_cast this
  have h₁ := hlo hrow.le
  have h₂ := hhi hrow'
  have h₃ := hlo hcol
  have h₄ := hhi hcol'.le
  refine ⟨⟨(p.1 - o.1).toNat, (p.2 - o.2).toNat⟩, ⟨by simp only; omega, by simp only; omega⟩, ?_⟩
  ext <;> simp only [GridCoord.at] <;> omega

/-- **The terminal mask** of a window: its cells that lie in the polygon. -/
theorem TerminalMask.includes_iff {flowDir : FlowDirectionTile .raw} {mask : CatchmentMask}
    {cell : GridCoord} (hgeo : geo.Invertible) (hflow : flowDir.geo = geo.shift o)
    (h : TerminalMask flowDir terminalPolygon mask) :
    mask.Includes cell ↔
      flowDir.dims.Holds cell ∧ TerminalCell geo terminalPolygon (cell.at o) := by
  obtain ⟨data, hdata, -, hiff⟩ := rasterizeMultiPolygon_spec terminalPolygon flowDir.geo
    (show 0 < flowDir.dims.cols from flowDir.inner.cols_pos)
  obtain rfl := Except.ok.inj (hdata.symm.trans h.rasterized)
  rw [CatchmentMask.Includes, h.dims_eq]
  refine and_congr_right fun hcell => ?_
  have hcols : mask.cols = flowDir.dims.cols := congrArg GridDims.cols h.dims_eq
  have hshift := @terminalCell_shift geo o ((cell.row : ℤ), (cell.col : ℤ)) terminalPolygon hgeo
  rw [← hflow] at hshift
  refine Iff.trans ?_ hshift
  rw [CatchmentMask.contains, hcols, TerminalCell, Int.cast_natCast, Int.cast_natCast]
  exact hiff cell hcell

end Terminal

end WatershedDelineation
