import Mathlib.Data.Int.Cast.Basic
import WatershedDelineation.General.RingNesting
import WatershedDelineation.Raster.Polygonize

/-!
# The boundary rings of a mask

The rings that `assembleRings` makes of the edges of a mask are a `BoundaryFamily` of the
mask's cells (`BoundaryRings.family`), so the general theory of nesting applies to them.

Two facts depend on the order in which edges are extracted and taken. Edges are extracted cell
by cell in reading order (`pairwise_extractEdges`), and end points are taken from the top of
their stacks; therefore the hole through a pinch vertex never starts there, and around the
first vertex of a hole the three other cells are in the mask
(`BoundaryRings.cells_at_hole_start`).
-/

namespace WatershedDelineation

open ClosedWalk LatticeRing

/-- A corner as a lattice point. -/
def Corner.point (v : Corner) : Point := (v.row, v.col)

theorem Corner.point_injective : Function.Injective Corner.point := fun v w h => by
  cases v
  cases w
  simpa [Corner.point] using h

/-- An edge between corners as a lattice edge. -/
def Corner.edge (e : Corner × Corner) : Point × Point := (e.1.point, e.2.point)

theorem Corner.edge_injective : Function.Injective Corner.edge := fun e e' h => by
  obtain ⟨h₁, h₂⟩ := Prod.mk.inj h
  exact Prod.ext (Corner.point_injective h₁) (Corner.point_injective h₂)

/-- The cells of a mask as lattice cells. -/
def CatchmentMask.Cell (mask : CatchmentMask) (p : Point) : Prop :=
  0 ≤ p.1 ∧ 0 ≤ p.2 ∧ mask.Includes ⟨p.1.toNat, p.2.toNat⟩

instance (mask : CatchmentMask) : DecidablePred mask.Cell := fun _ =>
  inferInstanceAs (Decidable (_ ∧ _ ∧ _))

/-- The edge along a side of the cell at row `r` and column `c`. -/
def cornerSide (r c : ℕ) : Side → Corner × Corner
  | .top => (⟨r, c⟩, ⟨r, c + 1⟩)
  | .right => (⟨r, c + 1⟩, ⟨r + 1, c + 1⟩)
  | .bottom => (⟨r + 1, c + 1⟩, ⟨r + 1, c⟩)
  | .left => (⟨r + 1, c⟩, ⟨r, c⟩)

theorem edge_cornerSide (r c : ℕ) (d : Side) :
    Corner.edge (cornerSide r c d) = side ((r : ℤ), (c : ℤ)) d := by
  cases d <;> simp [Corner.edge, Corner.point, cornerSide, side]

/-- The sides of a cell in the order in which their edges are extracted. -/
def sideOrder : List Side := [.top, .bottom, .left, .right]

/-- The included cells of a mask in reading order. -/
def CatchmentMask.cells (mask : CatchmentMask) : List (ℕ × ℕ) :=
  (List.range mask.rows).flatMap fun r =>
    ((List.range mask.cols).filter fun c => mask.contains ⟨r, c⟩).map fun c => (r, c)

section Mask

variable {mask : CatchmentMask}

theorem CatchmentMask.cell_iff {r c : ℕ} : mask.Cell ((r : ℤ), (c : ℤ)) ↔ mask.Includes ⟨r, c⟩ := by
  simp [CatchmentMask.Cell]

theorem CatchmentMask.mem_cells {r c : ℕ} : (r, c) ∈ mask.cells ↔ mask.Includes ⟨r, c⟩ := by
  simp only [CatchmentMask.cells, List.mem_flatMap, List.mem_range, List.mem_map, List.mem_filter,
    Prod.mk.injEq, CatchmentMask.Includes, GridDims.Holds, CatchmentMask.dims]
  constructor
  · rintro ⟨_, hr, _, ⟨hc, hmem⟩, rfl, rfl⟩
    exact ⟨⟨hr, hc⟩, hmem⟩
  · rintro ⟨⟨hr, hc⟩, hmem⟩
    exact ⟨r, hr, c, ⟨hc, hmem⟩, rfl, rfl⟩

/-- The included cells come in strict reading order. -/
theorem CatchmentMask.pairwise_cells :
    mask.cells.Pairwise fun a b => a.1 < b.1 ∨ a.1 = b.1 ∧ a.2 < b.2 := by
  refine List.pairwise_flatMap.mpr ⟨fun r _ => ?_, ?_⟩
  · refine List.pairwise_map.mpr ((List.pairwise_lt_range.filter _).imp fun hlt => ?_)
    exact .inr ⟨rfl, hlt⟩
  · refine List.pairwise_lt_range.imp fun hlt x hx y hy => ?_
    obtain ⟨c, -, rfl⟩ := List.mem_map.mp hx
    obtain ⟨c', -, rfl⟩ := List.mem_map.mp hy
    exact .inl hlt

/-- The edges of one cell, side by side. -/
theorem cellEdges_eq {r c : ℕ} (hr : r < mask.rows) (hc : c < mask.cols) :
    cellEdges mask r c = if mask.contains ⟨r, c⟩ then
      (sideOrder.filter fun d => ¬mask.Cell (nbr ((r : ℤ), (c : ℤ)) d)).map (cornerSide r c)
    else [] := by
  have htop : mask.Cell ((r : ℤ) - 1, (c : ℤ)) ↔ ¬(r = 0 ∨ !mask.contains ⟨r - 1, c⟩) := by
    cases r with
    | zero => simp [CatchmentMask.Cell]
    | succ r =>
      rw [show ((r + 1 : ℕ) : ℤ) - 1 = r by push_cast; ring, CatchmentMask.cell_iff]
      simp [CatchmentMask.Includes, GridDims.Holds, CatchmentMask.dims, hc, Nat.lt_of_succ_lt hr]
  have hbottom : mask.Cell ((r : ℤ) + 1, (c : ℤ)) ↔
      ¬(r + 1 = mask.rows ∨ !mask.contains ⟨r + 1, c⟩) := by
    rw [show (r : ℤ) + 1 = (r + 1 : ℕ) by push_cast; rfl, CatchmentMask.cell_iff]
    have : r + 1 < mask.rows ↔ ¬r + 1 = mask.rows := by omega
    simp [CatchmentMask.Includes, GridDims.Holds, CatchmentMask.dims, hc, this]
  have hleft : mask.Cell ((r : ℤ), (c : ℤ) - 1) ↔ ¬(c = 0 ∨ !mask.contains ⟨r, c - 1⟩) := by
    cases c with
    | zero => simp [CatchmentMask.Cell]
    | succ c =>
      rw [show ((c + 1 : ℕ) : ℤ) - 1 = c by push_cast; ring, CatchmentMask.cell_iff]
      simp [CatchmentMask.Includes, GridDims.Holds, CatchmentMask.dims, hr, Nat.lt_of_succ_lt hc]
  have hright : mask.Cell ((r : ℤ), (c : ℤ) + 1) ↔
      ¬(c + 1 = mask.cols ∨ !mask.contains ⟨r, c + 1⟩) := by
    rw [show (c : ℤ) + 1 = (c + 1 : ℕ) by push_cast; rfl, CatchmentMask.cell_iff]
    have : c + 1 < mask.cols ↔ ¬c + 1 = mask.cols := by omega
    simp [CatchmentMask.Includes, GridDims.Holds, CatchmentMask.dims, hr, this]
  rw [cellEdges]
  cases mask.contains ⟨r, c⟩ with
  | false => rfl
  | true =>
    simp only [sideOrder, List.filter_cons, List.filter_nil, nbr, htop, hbottom, hleft, hright,
      not_not, Bool.not_true, if_true, Bool.false_eq_true, if_false, decide_eq_true_eq]
    split_ifs <;> rfl

/-- The edges of a mask, cell by cell and side by side. -/
theorem extractEdges_eq : extractEdges mask = mask.cells.flatMap fun p =>
    (sideOrder.filter fun d => ¬mask.Cell (nbr ((p.1 : ℤ), (p.2 : ℤ)) d)).map
      (cornerSide p.1 p.2) := by
  rw [extractEdges, CatchmentMask.cells, List.flatMap_assoc]
  refine List.flatMap_congr fun r hr => ?_
  rw [List.flatMap_map]
  have hcols : ∀ l : List ℕ, (∀ c ∈ l, c < mask.cols) → l.flatMap (fun c => cellEdges mask r c)
      = (l.filter fun c => mask.contains ⟨r, c⟩).flatMap fun c : ℕ =>
        (sideOrder.filter fun d => ¬mask.Cell (nbr ((r : ℤ), (c : ℤ)) d)).map (cornerSide r c) := by
    intro l hl
    induction l with
    | nil => rfl
    | cons c l ih =>
      rw [List.flatMap_cons, cellEdges_eq (List.mem_range.mp hr) (hl c (by simp)),
        ih fun c hc => hl c (.tail _ hc), List.filter_cons]
      cases mask.contains ⟨r, c⟩ <;> simp
  exact hcols _ fun c hc => List.mem_range.mp hc

/-- The edges of a mask are exactly its boundary edges. -/
theorem mem_extractEdges {e : Point × Point} : e ∈ (extractEdges mask).map Corner.edge ↔
    ∃ p d, e = side p d ∧ mask.Cell p ∧ ¬mask.Cell (nbr p d) := by
  rw [extractEdges_eq]
  simp only [List.mem_map, List.mem_flatMap, List.mem_filter, decide_eq_true_eq, sideOrder]
  constructor
  · rintro ⟨_, ⟨⟨r, c⟩, hcell, d, ⟨-, hnbr⟩, rfl⟩, rfl⟩
    refine ⟨((r : ℤ), (c : ℤ)), d, edge_cornerSide r c d, ?_, hnbr⟩
    exact CatchmentMask.cell_iff.mpr (CatchmentMask.mem_cells.mp hcell)
  · rintro ⟨⟨i, j⟩, d, rfl, hcell, hnbr⟩
    obtain ⟨r, rfl⟩ := Int.eq_ofNat_of_zero_le hcell.1
    obtain ⟨c, rfl⟩ := Int.eq_ofNat_of_zero_le hcell.2.1
    refine ⟨cornerSide r c d, ⟨(r, c), ?_, d, ⟨by cases d <;> simp, hnbr⟩, rfl⟩,
      edge_cornerSide r c d⟩
    exact CatchmentMask.mem_cells.mpr (CatchmentMask.cell_iff.mp hcell)

/-- Edges come in the reading order of the cells on their right. -/
theorem pairwise_extractEdges : (extractEdges mask).Pairwise fun e e' =>
    ∀ p d p' d', Corner.edge e = side p d → Corner.edge e' = side p' d' → LexLE p p' := by
  rw [extractEdges_eq]
  have hcell : ∀ {r c : ℕ} {e : Corner × Corner} {p : Point} {d : Side} {ds : List Side},
      e ∈ ds.map (cornerSide r c) → Corner.edge e = side p d → p = ((r : ℤ), (c : ℤ)) := by
    intro r c e p d ds he hp
    obtain ⟨d', -, rfl⟩ := List.mem_map.mp he
    rw [edge_cornerSide] at hp
    exact (side_injective hp).1.symm
  refine List.pairwise_flatMap.mpr ⟨fun a _ => ?_, ?_⟩
  · refine List.pairwise_of_forall_mem_list fun e he e' he' p d p' d' hp hp' => ?_
    rw [hcell he hp, hcell he' hp']
    exact .inr ⟨rfl, le_rfl⟩
  · refine CatchmentMask.pairwise_cells.imp fun {a b} hab e he e' he' p d p' d' hp hp' => ?_
    rw [hcell he hp, hcell he' hp']
    simp only [LexLE]
    omega

theorem nodup_extractEdges : (extractEdges mask).Nodup := by
  rw [extractEdges_eq]
  have hinj : ∀ {r c r' c' : ℕ} {d d' : Side}, cornerSide r c d = cornerSide r' c' d' →
      r = r' ∧ c = c' ∧ d = d' := by
    intro r c r' c' d d' h
    have hside := congrArg Corner.edge h
    rw [edge_cornerSide, edge_cornerSide] at hside
    obtain ⟨hp, rfl⟩ := side_injective hside
    simpa using hp
  refine List.nodup_flatMap.mpr ⟨fun p _ => ?_, ?_⟩
  · refine List.Nodup.map (fun d d' h => (hinj h).2.2) (List.Nodup.filter _ ?_)
    decide
  · refine CatchmentMask.pairwise_cells.imp fun {a b} hab e he he' => ?_
    obtain ⟨d, -, rfl⟩ := List.mem_map.mp he
    obtain ⟨d', -, heq⟩ := List.mem_map.mp he'
    obtain ⟨h₁, h₂, -⟩ := hinj heq
    omega

theorem balanced_extractEdges : Balanced (extractEdges mask) := by
  intro v
  have hcount := countP_fst_eq_countP_snd (nodup_extractEdges.map Corner.edge_injective)
    (fun _ => @mem_extractEdges mask _) v.point
  rw [List.countP_map, List.countP_map] at hcount
  simpa [Function.comp_def, Corner.edge, Corner.point_injective.eq_iff] using hcount

/-- A mask has edges exactly when it has cells. -/
theorem extractEdges_eq_nil_iff : extractEdges mask = [] ↔ ∀ cell, ¬mask.Includes cell := by
  rw [extractEdges_eq, List.flatMap_eq_nil_iff]
  constructor
  · intro h
    -- the first cell in reading order has nothing above it
    have hnil : mask.cells = [] := by
      cases hcells : mask.cells with
      | nil => rfl
      | cons a l =>
        have hsorted := hcells ▸ mask.pairwise_cells
        have hedges := h a (hcells ▸ by simp)
        have htop : mask.Cell (nbr ((a.1 : ℤ), (a.2 : ℤ)) .top) := by
          by_contra hnot
          simp [sideOrder, hnot] at hedges
        obtain ⟨hrow, hcol, hinc⟩ := htop
        have hmem := CatchmentMask.mem_cells.mpr hinc
        rw [hcells] at hmem
        simp only [nbr] at hrow hcol hmem
        rcases List.mem_cons.mp hmem with heq | hmem
        · have := congrArg Prod.fst heq
          simp only at this
          omega
        · have := (List.pairwise_cons.mp hsorted).1 _ hmem
          simp only at this
          omega
    intro cell hcell
    have hmem : (cell.row, cell.col) ∈ mask.cells := CatchmentMask.mem_cells.mpr hcell
    rw [hnil] at hmem
    exact absurd hmem List.not_mem_nil
  · intro h p hp
    exact absurd (CatchmentMask.mem_cells.mp hp) (h _)

end Mask

/-! ### The rings -/

/-- A ring as a list of lattice points. -/
def ringPoints (ring : List Corner) : List Point := ring.map Corner.point

theorem ringPoints_injective : Function.Injective ringPoints :=
  List.map_injective_iff.mpr Corner.point_injective

theorem steps_ringPoints (ring : List Corner) :
    steps (ringPoints ring) = (steps ring).map Corner.edge :=
  steps_map Corner.point ring

/-- What ring assembly gives for a mask. -/
structure BoundaryRings (mask : CatchmentMask) (rings : List (List Corner)) : Prop where
  perm : (rings.flatMap steps).Perm (extractEdges mask)
  assembled : ∀ ring ∈ rings, ∃ origin d rest rem, ring = origin :: d :: rest ∧
    AssembledRing (extractEdges mask) origin d rest rem
  sorted : rings.Pairwise fun ring ring' => ∀ a ∈ ring.head?, ∀ b ∈ ring'.head?, a ≤ b

/-- **Ring assembly on a mask** never misses a successor, and ends. -/
theorem exists_boundaryRings (mask : CatchmentMask) :
    ∃ rings, assembleRings (extractEdges mask) = .ok rings ∧ BoundaryRings mask rings := by
  obtain ⟨rings, hrings, hperm, hassembled, hsorted⟩ := assembleRings_spec balanced_extractEdges
  exact ⟨rings, hrings, hperm, hassembled, hsorted⟩

namespace BoundaryRings

variable {mask : CatchmentMask} {rings : List (List Corner)} {ring : List Corner}

theorem closed (h : BoundaryRings mask rings) (hring : ring ∈ rings) : Closed ring := by
  obtain ⟨origin, d, rest, rem, rfl, hassembled⟩ := h.assembled ring hring
  exact hassembled.closed

theorem flatMap_steps_ringPoints (rings : List (List Corner)) :
    (rings.map ringPoints).flatMap steps = (rings.flatMap steps).map Corner.edge := by
  rw [List.flatMap_map, List.map_flatMap]
  exact List.flatMap_congr fun ring _ => steps_ringPoints ring

/-- Every corner of an assembled ring is at or after its origin. -/
private theorem origin_le {edges : List (Corner × Corner)} {origin d : Corner} {rest : List Corner}
    {rem : List (Corner × Corner)} (h : AssembledRing edges origin d rest rem) {u : Corner}
    (hu : u ∈ origin :: d :: rest) : origin ≤ u := by
  rcases exists_step_of_mem hu with ⟨w, hw⟩ | hlast
  · exact h.origin_le _ (h.steps_subset hw)
  · rw [closed_cons_iff.mp h.closed] at hlast
    exact hlast.ge

/-- **The rings of a mask are a boundary family** of its cells. -/
theorem family (h : BoundaryRings mask rings) :
    BoundaryFamily mask.Cell (rings.map ringPoints) where
  closed points hpoints := by
    obtain ⟨ring, hring, rfl⟩ := List.mem_map.mp hpoints
    exact (h.closed hring).map _
  nodup := by
    rw [flatMap_steps_ringPoints]
    exact (h.perm.nodup_iff.mpr nodup_extractEdges).map Corner.edge_injective
  mem_iff e := by
    rw [flatMap_steps_ringPoints, (h.perm.map Corner.edge).mem_iff, mem_extractEdges]
  nonneg p hp := ⟨hp.1, hp.2.1⟩
  start points hpoints := by
    obtain ⟨ring, hring, rfl⟩ := List.mem_map.mp hpoints
    obtain ⟨origin, d, rest, rem, rfl, hassembled⟩ := h.assembled ring hring
    refine ⟨origin.point, d.point, rest.map Corner.point, rfl, fun w hw => ?_⟩
    obtain ⟨u, hu, rfl⟩ := List.mem_map.mp hw
    have hle := Corner.le_iff.mp (origin_le hassembled hu)
    simp only [LexLE, Corner.point]
    omega

/-- The first step of a hole, as an extracted edge. -/
private theorem hole_first_step (h : BoundaryRings mask rings) {origin d : Corner}
    {rest : List Corner} (hring : origin :: d :: rest ∈ rings)
    (hhole : level (ringPoints (origin :: d :: rest)) (ringPoints (origin :: d :: rest)) = 0) :
    Corner.edge (origin, d) = side ((origin.row : ℤ), (origin.col : ℤ) - 1) .right := by
  have hmem : ringPoints (origin :: d :: rest) ∈ rings.map ringPoints := List.mem_map_of_mem hring
  obtain ⟨v, hle, hv, ⟨hone, -⟩ | ⟨-, hcell, -⟩⟩ := h.family.level_self_cases hmem
  · rw [hhole] at hone
    exact absurd hone (by decide)
  · obtain rfl : origin.point = v := Option.some.inj hv
    obtain ⟨p, s, hside, -⟩ := h.family.exists_side hmem
      (show (origin.point, d.point) ∈ steps (ringPoints (origin :: d :: rest)) by
        simp [ringPoints])
    have hd := hle d.point (by simp [ringPoints])
    obtain ⟨i, j⟩ := p
    simp only [ringPoints, List.map_cons, firstCell] at hcell
    cases s <;> simp only [side, Prod.mk.injEq] at hside <;> obtain ⟨ho, hd'⟩ := hside <;>
      simp only [ho, hd', LexLE] at hcell hd ⊢
    · have hcol := congrArg Prod.snd hcell
      simp only [if_true] at hcol
      omega
    · simp only [Corner.edge, ho, hd', side]
      simp only [Corner.point, Prod.mk.injEq] at ho
      simp [ho.1, ho.2]
    · omega
    · omega

/-! The edges that remain when a ring is started whose first step goes down. -/

section GoesDown

variable {origin d : Corner} {rest : List Corner} {rem : List (Corner × Corner)}
  {e : Corner × Corner}

private theorem exists_side_of_mem_rem
    (h : AssembledRing (extractEdges mask) origin d rest rem) (he : e ∈ rem) :
    ∃ p s, Corner.edge e = side p s ∧ mask.Cell p ∧ ¬mask.Cell (nbr p s) :=
  mem_extractEdges.mp (List.mem_map_of_mem (h.subperm.subset he))

/-- The cells on both sides of the first step. -/
private theorem cells_of_down (h : AssembledRing (extractEdges mask) origin d rest rem)
    (hdown : Corner.edge (origin, d) = side ((origin.row : ℤ), (origin.col : ℤ) - 1) .right) :
    mask.Cell ((origin.row : ℤ), (origin.col : ℤ) - 1) ∧
      ¬mask.Cell ((origin.row : ℤ), (origin.col : ℤ)) := by
  have hfirst : (origin, d) ∈ rem := h.steps_subset (by simp)
  obtain ⟨p, s, heq, hp, hq⟩ := exists_side_of_mem_rem h hfirst
  obtain ⟨rfl, rfl⟩ := side_injective (heq.symm.trans hdown)
  exact ⟨hp, by simpa [nbr] using hq⟩

/-- The only remaining edge into the origin comes from the right, below the upper right cell. -/
private theorem eq_of_mem_rem_into (h : AssembledRing (extractEdges mask) origin d rest rem)
    (hdown : Corner.edge (origin, d) = side ((origin.row : ℤ), (origin.col : ℤ) - 1) .right)
    (he : e ∈ rem) (hend : e.2 = origin) :
    e.1 = ⟨origin.row, origin.col + 1⟩ ∧ mask.Cell ((origin.row : ℤ) - 1, (origin.col : ℤ)) := by
  obtain ⟨⟨i, j⟩, s, heq, hp, -⟩ := exists_side_of_mem_rem h he
  have hle := Corner.le_iff.mp (h.origin_le e he)
  obtain ⟨⟨r, c⟩, w⟩ := e
  obtain rfl : w = origin := hend
  simp only [Corner.edge, Corner.point] at heq
  cases s <;> simp only [side, Prod.mk.injEq] at heq hle
  · omega
  · omega
  · obtain ⟨⟨h₁, h₂⟩, h₃, h₄⟩ := heq
    refine ⟨?_, by rwa [h₃, h₄, add_sub_cancel_right]⟩
    simp only [Corner.mk.injEq]
    omega
  · obtain ⟨-, rfl, rfl⟩ := heq
    exact absurd hp (cells_of_down h hdown).2

private theorem countP_into_le_one (h : AssembledRing (extractEdges mask) origin d rest rem)
    (hdown : Corner.edge (origin, d) = side ((origin.row : ℤ), (origin.col : ℤ) - 1) .right) :
    rem.countP (·.2 = origin) ≤ 1 := by
  have hnodup : rem.Nodup := by
    obtain ⟨l, hl, hsub⟩ := h.subperm
    exact hl.nodup_iff.mp (nodup_extractEdges.sublist hsub)
  rw [List.countP_eq_length_filter]
  change _ ≤ [((⟨origin.row, origin.col + 1⟩ : Corner), origin)].length
  refine (List.subperm_of_subset (hnodup.filter _) fun e he => ?_).length_le
  obtain ⟨he, hend⟩ := List.mem_filter.mp he
  have hend : e.2 = origin := by simpa using hend
  exact List.mem_singleton.mpr (Prod.ext (eq_of_mem_rem_into h hdown he hend).1 hend)

/-- The edges from a corner come in the reading order of the cells on their right. -/
private theorem pairwise_outs_extractEdges (origin : Corner) :
    (outs (extractEdges mask) origin).Pairwise fun u w =>
      ∀ p s p' s', Corner.edge (origin, u) = side p s → Corner.edge (origin, w) = side p' s' →
        LexLE p p' := by
  refine List.pairwise_map.mpr (List.Pairwise.imp_of_mem ?_ (pairwise_extractEdges.filter _))
  intro e e' he he' hR
  have h₁ : e.1 = origin := by simpa using (List.mem_filter.mp he).2
  have h₂ : e'.1 = origin := by simpa using (List.mem_filter.mp he').2
  rw [← h₁]
  nth_rewrite 2 [h₁]
  rw [← h₂]
  exact hR

/-- At a pinch the edge going up was extracted before the one going down, so it remains. -/
private theorem exists_mem_rem_of_pinch (h : AssembledRing (extractEdges mask) origin d rest rem)
    (hdown : Corner.edge (origin, d) = side ((origin.row : ℤ), (origin.col : ℤ) - 1) .right)
    (hNE : mask.Cell ((origin.row : ℤ) - 1, (origin.col : ℤ)))
    (hNW : ¬mask.Cell ((origin.row : ℤ) - 1, (origin.col : ℤ) - 1)) :
    ∃ u, u ≠ d ∧ (origin, u) ∈ rem := by
  have hrow : 0 ≤ (origin.row : ℤ) - 1 := hNE.1
  obtain ⟨r, hr⟩ : ∃ r, origin.row = r + 1 := ⟨origin.row - 1, by omega⟩
  have hup : Corner.edge (origin, ⟨r, origin.col⟩)
      = side ((origin.row : ℤ) - 1, (origin.col : ℤ)) .left := by
    simp [Corner.edge, Corner.point, side, hr]
  have hne : (⟨r, origin.col⟩ : Corner) ≠ d := by
    rintro rfl
    exact absurd (side_injective (hup.symm.trans hdown)).2 (by decide)
  have hmem : (⟨r, origin.col⟩ : Corner) ∈ outs (extractEdges mask) origin := by
    have hedge := mem_extractEdges.mpr ⟨_, _, hup, hNE, by simpa [nbr] using hNW⟩
    obtain ⟨e, he, heq⟩ := List.mem_map.mp hedge
    rw [Corner.edge_injective heq] at he
    exact List.mem_map.mpr ⟨_, List.mem_filter.mpr ⟨he, by simp⟩, rfl⟩
  have hpair := @pairwise_outs_extractEdges mask origin
  obtain ⟨before, after, houts, hbefore⟩ := h.earlier
  rw [houts] at hmem hpair
  refine ⟨_, hne, hbefore _ ((List.mem_append.mp hmem).resolve_right fun hlater => ?_)⟩
  -- the cell on the right of the edge going up comes first
  have hlater := (List.mem_cons.mp hlater).resolve_left hne
  have hle := (List.pairwise_cons.mp (List.pairwise_append.mp hpair).2.1).1 _ hlater
    _ _ _ _ hdown hup
  simp only [LexLE] at hle
  omega

end GoesDown

/-- **The first vertex of a hole**: of the four cells around it all but the one below and right
of it are in the mask. Were the upper left one missing, four boundary edges would meet there;
the edge going up would still be on the stack, and with it an edge coming from an earlier
vertex. -/
theorem cells_at_hole_start (h : BoundaryRings mask rings) (hring : ring ∈ rings)
    (hhole : level (ringPoints ring) (ringPoints ring) = 0) {v : Corner}
    (hv : ring.head? = some v) :
    mask.Cell ((v.row : ℤ) - 1, (v.col : ℤ) - 1) ∧ mask.Cell ((v.row : ℤ) - 1, (v.col : ℤ)) ∧
      mask.Cell ((v.row : ℤ), (v.col : ℤ) - 1) ∧ ¬mask.Cell ((v.row : ℤ), (v.col : ℤ)) := by
  obtain ⟨origin, d, rest, rem, rfl, hassembled⟩ := h.assembled ring hring
  obtain rfl : origin = v := Option.some.inj hv
  have hdown := h.hole_first_step hring hhole
  have hfirst : (origin, d) ∈ rem := hassembled.steps_subset (by simp)
  have hbalanced := hassembled.balanced origin
  obtain ⟨hSW, hSE⟩ := cells_of_down hassembled hdown
  obtain ⟨e, he, hend⟩ : ∃ e ∈ rem, e.2 = origin := by
    have hpos : 0 < rem.countP (·.2 = origin) := by
      rw [← hbalanced]
      exact List.countP_pos_iff.mpr ⟨_, hfirst, by simp⟩
    obtain ⟨e, he, hend⟩ := List.countP_pos_iff.mp hpos
    exact ⟨e, he, by simpa using hend⟩
  obtain ⟨-, hNE⟩ := eq_of_mem_rem_into hassembled hdown he hend
  refine ⟨by_contra fun hNW => ?_, hNE, hSW, hSE⟩
  -- two edges would leave the origin, and only one comes in
  obtain ⟨u, hne, hu⟩ := exists_mem_rem_of_pinch hassembled hdown hNE hNW
  have htwo : 2 ≤ rem.countP (·.1 = origin) := by
    rw [List.countP_eq_length_filter]
    have hpair : [(origin, d), (origin, u)].Nodup := by simpa using hne.symm
    refine (List.subperm_of_subset hpair fun e he => ?_).length_le
    rcases List.mem_cons.mp he with rfl | he
    · exact List.mem_filter.mpr ⟨hfirst, by simp⟩
    · rw [List.mem_singleton.mp he]
      exact List.mem_filter.mpr ⟨hu, by simp⟩
  have hone := countP_into_le_one hassembled hdown
  omega

/-- No other ring passes through the first vertex of a hole. -/
theorem not_mem_of_hole_start (h : BoundaryRings mask rings) (hring : ring ∈ rings)
    (hhole : level (ringPoints ring) (ringPoints ring) = 0) {v : Corner}
    (hv : ring.head? = some v) {A : List Corner} (hA : A ∈ rings) (hne : A ≠ ring) :
    v.point ∉ ringPoints A := by
  intro hmem
  obtain ⟨hNW, hNE, hSW, hSE⟩ := h.cells_at_hole_start hring hhole hv
  obtain ⟨w, hw⟩ := h.family.exists_step (List.mem_map_of_mem hA) hmem
  obtain ⟨⟨i, j⟩, s, heq, hp, hq⟩ := h.family.exists_side (List.mem_map_of_mem hA) hw
  simp only [Corner.point] at heq
  cases s <;> simp only [side, nbr, Prod.mk.injEq] at heq hq
  · obtain ⟨⟨rfl, rfl⟩, -⟩ := heq
    exact hSE hp
  · -- the edge going down is the first step of the hole
    obtain ⟨origin, d, rest, rem, rfl, -⟩ := h.assembled ring hring
    obtain rfl : origin = v := Option.some.inj hv
    have hdown := h.hole_first_step hring hhole
    have hstep : (origin.point, w) ∈ steps (ringPoints (origin :: d :: rest)) := by
      have hw' : (origin.point, w) = Corner.edge (origin, d) := by
        rw [hdown, heq.2]
        refine Prod.ext (Prod.ext ?_ ?_) (Prod.ext ?_ ?_) <;>
          simp only [side, Corner.point] <;> omega
      rw [hw', steps_ringPoints]
      exact List.mem_map_of_mem (by simp)
    exact h.family.not_mem_steps (List.mem_map_of_mem hA) (List.mem_map_of_mem hring)
      (fun heq => hne (ringPoints_injective heq)) hw hstep
  · refine hq ?_
    rwa [show i + 1 = (v.row : ℤ) by omega, show j = (v.col : ℤ) - 1 by omega]
  · refine hq ?_
    rwa [show i = (v.row : ℤ) - 1 by omega, show j - 1 = (v.col : ℤ) - 1 by omega]

end BoundaryRings

end WatershedDelineation
