import WatershedDelineation.General.Worklist
import WatershedDelineation.Raster.Tiles

/-!
# Tracing upstream

`traceUpstream` of `algo/trace.rs`: a depth-first search from the pour point against the D8
directions, over a vector of visited flags. It marks exactly the cells from which the directions
lead to the pour point (`traceUpstream_spec`), by the rules of `Worklist`.
-/

namespace WatershedDelineation

open Relation

section Trace

variable {s : TileState}

/-- The cell that a cell's direction points to, if it lies in the tile. -/
def FlowDirectionTile.downstream (tile : FlowDirectionTile s) (cell : GridCoord) :
    Option GridCoord :=
  (tile.get cell).bind fun dir =>
    let row := (cell.row : ℤ) + dir.dy
    let col := (cell.col : ℤ) + dir.dx
    if 0 ≤ row ∧ 0 ≤ col ∧ tile.dims.Holds ⟨row.toNat, col.toNat⟩ then
      some ⟨row.toNat, col.toNat⟩
    else none

/-- Following the direction of one cell of the tile. -/
def FlowDirectionTile.DrainsTo (tile : FlowDirectionTile s) (a b : GridCoord) : Prop :=
  tile.dims.Holds a ∧ tile.downstream a = some b

instance (tile : FlowDirectionTile s) (a b : GridCoord) : Decidable (tile.DrainsTo a b) :=
  inferInstanceAs (Decidable (_ ∧ _))

/-- Follow the directions for a number of steps, as long as they stay in the tile. -/
def FlowDirectionTile.follow (tile : FlowDirectionTile s) : ℕ → GridCoord → Option GridCoord
  | 0, cell => some cell
  | n + 1, cell => (tile.downstream cell).bind (tile.follow n)

/-- The state of a trace; the top of the stack comes first. -/
structure TraceState where
  visited : List Bool
  stack : List GridCoord

/-- Look at one neighbor of the cell `(r, c)`; if it flows into that cell and has not been
visited, mark and push it. -/
def visitNeighbor (flowDir : FlowDirectionTile s) (r c : ℕ) (state : TraceState) (dir : FlowDir) :
    TraceState :=
  let nr := (r : ℤ) + dir.dy
  let nc := (c : ℤ) + dir.dx
  match flowDir.getChecked nr nc with
  | none => state
  | some neighborDir =>
    if neighborDir = dir.opposite then
      -- in range, as the tile has a value there
      let idx := nr.toNat * flowDir.dims.cols + nc.toNat
      if state.visited.getD idx false then state
      else ⟨state.visited.set idx true, ⟨nr.toNat, nc.toNat⟩ :: state.stack⟩
    else state

/-- One round of the trace: pop a cell and look at its neighbors. -/
def traceStep (flowDir : FlowDirectionTile s) (state : TraceState) :
    TraceState ⊕ Except (Fault Empty) CatchmentMask :=
  match state.stack with
  | [] => .inr (CatchmentMask.fromTraced state.visited flowDir.dims)
  | ⟨r, c⟩ :: stack => .inl (FlowDir.all.foldl (visitNeighbor flowDir r c) ⟨state.visited, stack⟩)

/-- Trace all cells upstream of a pour point. -/
def traceUpstream (pourPoint : GridCoord) (flowDir : FlowDirectionTile s) :
    Except (Fault Empty) CatchmentMask :=
  let dims := flowDir.dims
  let visited := List.replicate (dims.rows * dims.cols) false
  let idx := pourPoint.row * dims.cols + pourPoint.col
  if idx < visited.length then
    FuelLoop.exec (traceStep flowDir) (dims.rows * dims.cols + 1)
      ⟨visited.set idx true, [pourPoint]⟩
  else .error .panic

end Trace

/-! ### Draining and neighbors -/

section Spec

variable {s : TileState} {tile : FlowDirectionTile s} {a b c pourPoint : GridCoord}

theorem FlowDirectionTile.drainsTo_iff : tile.DrainsTo a b ↔
    tile.dims.Holds a ∧ tile.dims.Holds b ∧ ∃ dir, tile.get a = some dir ∧
      (b.row : ℤ) = a.row + dir.dy ∧ (b.col : ℤ) = a.col + dir.dx := by
  refine and_congr_right fun _ => ?_
  simp only [downstream, Option.bind_eq_some_iff]
  constructor
  · rintro ⟨dir, hdir, h⟩
    split_ifs at h with hin
    obtain rfl := Option.some.inj h
    exact ⟨hin.2.2, dir, hdir, Int.toNat_of_nonneg hin.1, Int.toNat_of_nonneg hin.2.1⟩
  · rintro ⟨hb, dir, hdir, hrow, hcol⟩
    refine ⟨dir, hdir, ?_⟩
    rw [← hrow, ← hcol, if_pos ⟨Int.natCast_nonneg _, Int.natCast_nonneg _, hb⟩]
    rfl

/-- The visited cells of the tile. -/
def Seen (tile : FlowDirectionTile s) (visited : List Bool) (cell : GridCoord) : Prop :=
  tile.dims.Holds cell ∧ visited.getD (tile.dims.index cell) false = true

/-- Marking a cell. -/
theorem seen_set {visited : List Bool} (hlen : visited.length = tile.dims.rows * tile.dims.cols)
    (ha : tile.dims.Holds a) :
    Seen tile (visited.set (tile.dims.index a) true) b ↔ Seen tile visited b ∨ b = a := by
  have hidx : tile.dims.index a < visited.length := hlen ▸ GridDims.index_lt ha
  simp only [Seen, List.getD_eq_getElem?_getD, List.getElem?_set]
  constructor
  · rintro ⟨hb, hset⟩
    split_ifs at hset with heq
    · exact .inr (GridDims.index_inj hb.2 ha.2 heq.symm)
    · exact .inl ⟨hb, hset⟩
  · rintro (⟨hb, hset⟩ | rfl)
    · refine ⟨hb, ?_⟩
      split_ifs
      · rfl
      · exact hset
    · exact ⟨ha, by simp [hidx]⟩

/-- The cell `a` lies in direction `dir` from the cell `c` and flows back into it. -/
def FlowsBack (tile : FlowDirectionTile s) (c : GridCoord) (dir : FlowDir) (a : GridCoord) : Prop :=
  tile.dims.Holds a ∧ (a.row : ℤ) = c.row + dir.dy ∧ (a.col : ℤ) = c.col + dir.dx ∧
    tile.get a = some dir.opposite

theorem FlowsBack.eq {dir : FlowDir} (ha : FlowsBack tile c dir a) (hb : FlowsBack tile c dir b) :
    a = b := by
  obtain ⟨-, hrow, hcol, -⟩ := ha
  obtain ⟨-, hrow', hcol', -⟩ := hb
  cases a
  cases b
  simp only [GridCoord.mk.injEq] at *
  omega

/-- A cell drains to `c` exactly when it flows back into `c` from one of the eight directions. -/
theorem drainsTo_iff_flowsBack (hc : tile.dims.Holds c) :
    tile.DrainsTo a c ↔ ∃ dir, FlowsBack tile c dir a := by
  rw [FlowDirectionTile.drainsTo_iff]
  constructor
  · rintro ⟨ha, -, dir, hdir, hrow, hcol⟩
    refine ⟨dir.opposite, ha, ?_, ?_, by rw [FlowDir.opposite_opposite, hdir]⟩
    · rw [FlowDir.dy_opposite]
      omega
    · rw [FlowDir.dx_opposite]
      omega
  · rintro ⟨dir, ha, hrow, hcol, hdir⟩
    refine ⟨ha, hc, dir.opposite, hdir, ?_, ?_⟩
    · rw [FlowDir.dy_opposite]
      omega
    · rw [FlowDir.dx_opposite]
      omega

theorem visitNeighbor_of_flowsBack {dir : FlowDir} (ha : FlowsBack tile c dir a)
    (state : TraceState) : visitNeighbor tile c.row c.col state dir
      = if state.visited.getD (tile.dims.index a) false then state
        else ⟨state.visited.set (tile.dims.index a) true, a :: state.stack⟩ := by
  obtain ⟨ha, hrow, hcol, hdir⟩ := ha
  simp only [visitNeighbor]
  rw [← hrow, ← hcol, FlowDirectionTile.getChecked_of_holds ha, hdir]
  simp only [Int.toNat_natCast, if_true]
  rfl

theorem visitNeighbor_of_not_flowsBack {dir : FlowDir} (h : ∀ a, ¬FlowsBack tile c dir a)
    (state : TraceState) : visitNeighbor tile c.row c.col state dir = state := by
  simp only [visitNeighbor]
  cases hchecked : tile.getChecked ((c.row : ℤ) + dir.dy) ((c.col : ℤ) + dir.dx) with
  | none => rfl
  | some neighborDir =>
    obtain ⟨a, ha, hrow, hcol, hdir⟩ := FlowDirectionTile.getChecked_eq_some hchecked
    exact if_neg fun heq : neighborDir = dir.opposite => h a ⟨ha, hrow, hcol, heq ▸ hdir⟩

/-- What looking at the neighbors of the cell `c` in the directions `dirs` does. -/
structure Visits (tile : FlowDirectionTile s) (c : GridCoord) (dirs : List FlowDir)
    (state state' : TraceState) (fresh : List GridCoord) : Prop where
  stack : state'.stack = fresh ++ state.stack
  length : state'.visited.length = state.visited.length
  unvisited : state'.visited.countP (!·) + fresh.length = state.visited.countP (!·)
  seen : ∀ a, Seen tile state'.visited a ↔ Seen tile state.visited a ∨ a ∈ fresh
  drains : ∀ a ∈ fresh, tile.DrainsTo a c
  all : ∀ dir ∈ dirs, ∀ a, FlowsBack tile c dir a → Seen tile state'.visited a

/-- **One neighbor.** -/
theorem visits_visitNeighbor (hc : tile.dims.Holds c) (state : TraceState) (dir : FlowDir)
    (hlen : state.visited.length = tile.dims.rows * tile.dims.cols) :
    ∃ fresh, Visits tile c [dir] state (visitNeighbor tile c.row c.col state dir) fresh := by
  have hskip (hall : ∀ a, FlowsBack tile c dir a → Seen tile state.visited a) :
      Visits tile c [dir] state state [] := by
    refine ⟨rfl, rfl, rfl, fun a => by simp, by simp, fun dir' hdir' => ?_⟩
    rw [List.mem_singleton.mp hdir']
    exact hall
  by_cases hback : ∃ a, FlowsBack tile c dir a
  · obtain ⟨a, ha⟩ := hback
    have hlt : tile.dims.index a < state.visited.length := hlen ▸ GridDims.index_lt ha.1
    rw [visitNeighbor_of_flowsBack ha]
    split_ifs with hvisited
    · exact ⟨[], hskip fun b hb => hb.eq ha ▸ ⟨ha.1, hvisited⟩⟩
    · refine ⟨[a], rfl, List.length_set .., ?_, fun b => ?_, fun b hb => ?_,
        fun dir' hdir' b hb => ?_⟩
      · -- marking a cell takes one off the count of unvisited cells
        have hfalse : state.visited[tile.dims.index a] = false := by
          rw [List.getD_eq_getElem _ _ hlt] at hvisited
          simpa using hvisited
        have hpos : 0 < state.visited.countP (!·) :=
          List.countP_pos_iff.mpr ⟨_, List.getElem_mem hlt, by simp [hfalse]⟩
        rw [List.countP_set hlt, hfalse]
        simp only [Bool.not_false, Bool.not_true, if_true, Bool.false_eq_true, if_false,
          List.length_singleton]
        omega
      · rw [seen_set hlen ha.1, List.mem_singleton]
      · rw [List.mem_singleton.mp hb]
        exact (drainsTo_iff_flowsBack hc).mpr ⟨dir, ha⟩
      · rw [List.mem_singleton.mp hdir'] at hb
        exact (seen_set hlen ha.1).mpr (.inr (hb.eq ha))
  · push Not at hback
    rw [visitNeighbor_of_not_flowsBack hback]
    exact ⟨[], hskip fun a ha => absurd ha (hback a)⟩

/-- **All neighbors**, one after the other. -/
theorem visits_foldl (hc : tile.dims.Holds c) (dirs : List FlowDir) (state : TraceState)
    (hlen : state.visited.length = tile.dims.rows * tile.dims.cols) :
    ∃ fresh,
      Visits tile c dirs state (dirs.foldl (visitNeighbor tile c.row c.col) state) fresh := by
  induction dirs generalizing state with
  | nil => exact ⟨[], rfl, rfl, rfl, fun a => by simp, by simp, by simp⟩
  | cons dir dirs ih =>
    obtain ⟨fresh, h⟩ := visits_visitNeighbor hc state dir hlen
    obtain ⟨fresh', h'⟩ := ih _ (h.length.trans hlen)
    refine ⟨fresh' ++ fresh, ?_, h'.length.trans h.length, ?_, fun a => ?_, fun a ha => ?_,
      fun dir' hdir' a ha => ?_⟩
    · rw [List.foldl_cons, h'.stack, h.stack, List.append_assoc]
    · have hcount := h.unvisited
      have hcount' := h'.unvisited
      rw [List.foldl_cons, List.length_append]
      omega
    · rw [List.foldl_cons, h'.seen, h.seen, List.mem_append]
      tauto
    · exact (List.mem_append.mp ha).elim (h'.drains a) (h.drains a)
    · rw [List.foldl_cons]
      rcases List.mem_cons.mp hdir' with rfl | hdir'
      · exact (h'.seen a).mpr (.inl (h.all dir' List.mem_cons_self a ha))
      · exact h'.all dir' hdir' a ha

/-! ### The loop -/

/-- The invariant of the trace loop. -/
structure TraceInv (tile : FlowDirectionTile s) (pourPoint : GridCoord) (state : TraceState) :
    Prop where
  length : state.visited.length = tile.dims.rows * tile.dims.cols
  work : Worklist.Inv (fun c a => tile.DrainsTo a c) pourPoint (Seen tile state.visited)
    state.stack

/-- **One round.** A round that continues keeps the invariant and takes one cell off the count
of waiting and unvisited cells. -/
theorem TraceInv.step {state state' : TraceState} (h : TraceInv tile pourPoint state)
    (hstep : traceStep tile state = .inl state') :
    TraceInv tile pourPoint state' ∧
      state'.stack.length + state'.visited.countP (!·)
        < state.stack.length + state.visited.countP (!·) := by
  obtain ⟨visited, stack⟩ := state
  cases stack with
  | nil => simp [traceStep] at hstep
  | cons c stack =>
    have hc : tile.dims.Holds c := (h.work.mem_seen c List.mem_cons_self).1
    obtain ⟨fresh, hv⟩ := visits_foldl hc FlowDir.all ⟨visited, stack⟩ h.length
    obtain rfl := Sum.inl.inj hstep
    refine ⟨⟨hv.length.trans h.length, ?_⟩, ?_⟩
    · refine h.work.expand hv.seen (fun a => ?_) hv.drains fun a ha => ?_
      · rw [hv.stack, List.mem_append, or_comm]
      · obtain ⟨dir, hback⟩ := (drainsTo_iff_flowsBack hc).mp ha
        exact hv.all dir dir.mem_all a hback
    · have hcount := hv.unvisited
      rw [hv.stack, List.length_append, List.length_cons]
      simp only at hcount ⊢
      omega

/-- What the loop returns. -/
def TracePost (tile : FlowDirectionTile s) (pourPoint : GridCoord)
    (result : Except (Fault Empty) CatchmentMask) : Prop :=
  ∃ mask, result = .ok mask ∧ mask.dims = tile.dims ∧
    ∀ cell, mask.Includes cell ↔ ReflTransGen tile.DrainsTo cell pourPoint

theorem TraceInv.post {state : TraceState} {result : Except (Fault Empty) CatchmentMask}
    (h : TraceInv tile pourPoint state) (hstep : traceStep tile state = .inr result) :
    TracePost tile pourPoint result := by
  obtain ⟨visited, stack⟩ := state
  cases stack with
  | cons c stack => simp [traceStep] at hstep
  | nil =>
    obtain rfl := Sum.inr.inj hstep
    refine ⟨_, dif_pos h.length, rfl, fun cell => ?_⟩
    rw [← reflTransGen_swap]
    exact h.work.seen_iff

/-- **The trace** ends, and marks exactly the cells that drain to the pour point. -/
theorem traceUpstream_spec (hpour : tile.dims.Holds pourPoint) :
    TracePost tile pourPoint (traceUpstream pourPoint tile) := by
  have hidx : tile.dims.index pourPoint < tile.dims.rows * tile.dims.cols :=
    GridDims.index_lt hpour
  have hlen : (List.replicate (tile.dims.rows * tile.dims.cols) false).length
      = tile.dims.rows * tile.dims.cols := List.length_replicate
  have hstart : TraceInv tile pourPoint
      ⟨(List.replicate (tile.dims.rows * tile.dims.cols) false).set (tile.dims.index pourPoint)
        true, [pourPoint]⟩ := by
    refine ⟨by rw [List.length_set, hlen], .init fun a => ?_⟩
    rw [seen_set hlen hpour, or_iff_right]
    exact fun hseen => by simp [Seen] at hseen
  simp only [traceUpstream]
  rw [if_pos (by rwa [hlen])]
  refine FuelLoop.exec_spec (TraceInv tile pourPoint)
    (fun state => state.stack.length + state.visited.countP (!·)) (TracePost tile pourPoint)
    (fun _ _ h => h.step) (fun _ _ h => h.post) hstart ?_
  -- one cell waits, and all the others are unvisited
  have hcount : ((List.replicate (tile.dims.rows * tile.dims.cols) false).set
      (tile.dims.index pourPoint) true).countP (!·) + 1 = tile.dims.rows * tile.dims.cols := by
    have hall : (List.replicate (tile.dims.rows * tile.dims.cols) false).countP (!·)
        = tile.dims.rows * tile.dims.cols := by simp [List.countP_replicate]
    rw [List.countP_set (by rwa [hlen]), hall, List.getElem_replicate]
    simp only [Bool.not_false, Bool.not_true, if_true, Bool.false_eq_true, if_false]
    omega
  change 1 + List.countP (!·) (List.set _ (tile.dims.index pourPoint) true) < _
  omega

/-! ### Following the directions -/

/-- Draining to the pour point, in the number of steps that it takes. -/
theorem drainsTo_reflTransGen_iff (hpour : tile.dims.Holds pourPoint) :
    ReflTransGen tile.DrainsTo a pourPoint ↔
      tile.dims.Holds a ∧ ∃ n, tile.follow n a = some pourPoint := by
  constructor
  · intro h
    induction h using ReflTransGen.head_induction_on with
    | refl => exact ⟨hpour, 0, rfl⟩
    | head hstep _ ih =>
      obtain ⟨-, n, hn⟩ := ih
      refine ⟨hstep.1, n + 1, ?_⟩
      rw [FlowDirectionTile.follow, hstep.2, Option.bind_some, hn]
  · rintro ⟨ha, n, hn⟩
    induction n generalizing a with
    | zero =>
      obtain rfl := Option.some.inj hn
      exact .refl
    | succ n ih =>
      obtain ⟨b, hb, hn⟩ := Option.bind_eq_some_iff.mp hn
      have hstep : tile.DrainsTo a b := ⟨ha, hb⟩
      -- the next cell lies in the tile, as a direction that leaves it leads nowhere
      have hin : tile.dims.Holds b := (FlowDirectionTile.drainsTo_iff.mp hstep).2.1
      exact .head hstep (ih hin hn)

/-- **The trace is exact.** On every tile and from every pour point inside it, the trace ends
without a panic, and the mask it returns marks a cell of the tile if and only if following the
directions from there reaches the pour point, in zero steps at the pour point itself. -/
theorem traceUpstream_exact (tile : FlowDirectionTile s) (pourPoint : GridCoord)
    (hpour : tile.dims.Holds pourPoint) :
    ∃ mask, traceUpstream pourPoint tile = .ok mask ∧ mask.dims = tile.dims ∧
      ∀ cell, tile.dims.Holds cell →
        (mask.contains cell = true ↔ ∃ n, tile.follow n cell = some pourPoint) := by
  obtain ⟨mask, hmask, hdims, hspec⟩ := traceUpstream_spec hpour
  refine ⟨mask, hmask, hdims, fun cell hcell => ?_⟩
  have hincludes : mask.Includes cell ↔ mask.contains cell = true :=
    and_iff_right (hdims ▸ hcell)
  rw [← hincludes, hspec, drainsTo_reflTransGen_iff hpour, and_iff_right hcell]

/-- A row of four GRASS cells: two that point at each other, one that flows into them, and one
without data. -/
def cycleTile : FlowDirectionTile .raw where
  inner := ⟨[8, 8, 4, 255], 1, 4, 255, .northUp, by decide, by decide, by decide⟩
  encoding := .grass
  nodata_ne dir := by cases dir <;> decide

theorem traceUpstream_exact_cycle : cycleTile.dims.Holds ⟨0, 1⟩ ∧
    ∃ mask, traceUpstream ⟨0, 1⟩ cycleTile = .ok mask ∧ mask.dims = cycleTile.dims ∧
      ∀ cell, cycleTile.dims.Holds cell →
        (mask.contains cell = true ↔ ∃ n, cycleTile.follow n cell = some ⟨0, 1⟩) :=
  ⟨by decide, traceUpstream_exact cycleTile ⟨0, 1⟩ (by decide)⟩

end Spec

end WatershedDelineation
