import Mathlib.Topology.Instances.Rat
import WatershedDelineation.General.EdgeCrossing
import WatershedDelineation.Raster.Rasterize

/-!
# The rasterizer's mask and the even-odd interior

The crossings that the rasterizer counts are those of the even-odd interior of the rings
(`crossings_eq`), so a cell of the mask is set when its centre is inside
(`evenOddMask_of_rasterize`). Whatever does not change the interior of the rings does not change the
mask.

The rasterizer has these properties exactly when the grid has a column, or there are fewer than two
vertices to rasterize (`rasterizeMultiPolygon_evenOdd`).
-/

namespace WatershedDelineation

open ClosedWalk EdgeCrossing

/-- The edges that the rasterizer finds to cross a row are those that do. -/
theorem any_intersection_iff_crosses {e : (ℚ × ℚ) × (ℚ × ℚ)} {y x : ℚ} :
    (intersection y (some e.1, some e.2)).any (· ≤ x) = true ↔ Crosses (y, x) e := by
  obtain ⟨⟨y0, x0⟩, y1, x1⟩ := e
  have hbounds : (if y0 ≤ y1 then (y0, y1) else (y1, y0)) = (min y0 y1, max y0 y1) := by
    split_ifs with h
    · rw [min_eq_left h, max_eq_right h]
    · rw [min_eq_right (le_of_not_ge h), max_eq_left (le_of_not_ge h)]
  simp only [intersection, hbounds]
  split_ifs with h
  · refine iff_of_false (by simp) ?_
    rintro ⟨hlo, hhi, -⟩
    rcases h with h | h
    · exact absurd hlo (not_lt.mpr h)
    · exact absurd hhi (not_le.mpr h)
  · rw [not_or, not_le, not_lt] at h
    rw [Option.any_some, decide_eq_true_iff, Crosses, and_iff_right h.1, and_iff_right h.2]
    rfl

theorem crossings_eq (y x : ℚ) (ring : List (ℚ × ℚ)) :
    crossings y x ring = (steps ring).countP (Crosses (y, x) ·) :=
  List.countP_congr fun e _ => by rw [any_intersection_iff_crosses, decide_eq_true_iff]

/-- The centre of a cell, in pixel space. -/
def GridCoord.centre (cell : GridCoord) : ℚ × ℚ := (cell.row + 1 / 2, cell.col + 1 / 2)

/-- One boolean per cell of the grid, true exactly when the centre of the cell is inside of the
rings. -/
def EvenOddMask (rings : List (List (ℚ × ℚ))) (dims : GridDims) (data : List Bool) : Prop :=
  data.length = dims.rows * dims.cols ∧
    ∀ cell, dims.Holds cell → (data.getD (dims.index cell) false = true ↔ Inside rings cell.centre)

section Mask

variable {rings rings' : List (List (ℚ × ℚ))} {dims : GridDims} {data data' : List Bool}

/-- Rings with the same interior have the same mask. -/
theorem EvenOddMask.eq (h : EvenOddMask rings dims data) (h' : EvenOddMask rings' dims data')
    (hinside : ∀ p, Inside rings p ↔ Inside rings' p) : data = data' := by
  refine ext_getD (d := false) h.1 h'.1 fun cell hcell => Bool.eq_iff_iff.mpr ?_
  rw [h.2 cell hcell, h'.2 cell hcell, hinside]

/-- The mask of rings together is the exclusive or of their masks. -/
theorem EvenOddMask.append (h : EvenOddMask rings dims data) (h' : EvenOddMask rings' dims data') :
    EvenOddMask (rings ++ rings') dims (List.zipWith xor data data') := by
  obtain ⟨hlen, hcells⟩ := h
  obtain ⟨hlen', hcells'⟩ := h'
  refine ⟨by rw [List.length_zipWith, hlen, hlen', min_self], fun cell hcell => ?_⟩
  have hidx := GridDims.index_lt hcell
  have hdata := hcells cell hcell
  have hdata' := hcells' cell hcell
  rw [List.getD_eq_getElem _ _ (by omega)] at hdata hdata'
  rw [List.getD_eq_getElem _ _ (by rw [List.length_zipWith]; omega), List.getElem_zipWith,
    inside_append, ← hdata, ← hdata', ← Bool.eq_iff_iff, bne_iff_ne]

end Mask

/-! ### The rasterizer -/

section Rasterizer

variable {mp mp' : MultiPolygon} {geo : GeoTransform} {dims : GridDims} {data : List Bool}

/-- The rasterizer returns a mask when the grid has a column or there are fewer than two
vertices. -/
theorem exists_rasterizeMultiPolygon_iff :
    (∃ data, rasterizeMultiPolygon mp geo dims = .ok data) ↔
      0 < dims.cols ∨ (collectAllVertices mp geo).length < 2 := by
  simp only [rasterizeMultiPolygon]
  split_ifs with hshort hzero
  · exact iff_of_true ⟨_, rfl⟩ (.inr hshort)
  · exact iff_of_false (by simp) (by omega)
  · exact iff_of_true ⟨_, rfl⟩ (.inl (Nat.pos_of_ne_zero hzero))

/-- What the rasterizer returns is the mask of the rings in pixel space. -/
theorem evenOddMask_of_rasterize (h : rasterizeMultiPolygon mp geo dims = .ok data) :
    EvenOddMask (pixelRings mp geo) dims data := by
  rcases Nat.eq_zero_or_pos dims.cols with hzero | hcols
  · -- a grid without columns has no cells
    refine ⟨?_, fun cell hcell => absurd hcell.2 (by omega)⟩
    simp only [rasterizeMultiPolygon] at h
    split_ifs at h
    obtain rfl := Except.ok.inj h
    exact List.length_replicate
  · obtain ⟨data', hok, hlen, hcells⟩ := rasterizeMultiPolygon_spec mp geo hcols
    obtain rfl := Except.ok.inj (h.symm.trans hok)
    refine ⟨hlen, fun cell hcell => ?_⟩
    rw [hcells cell hcell, Inside, countP_edges, funext (crossings_eq _ _)]
    rfl

theorem length_collectAllVertices (mp : MultiPolygon) (geo : GeoTransform) :
    (collectAllVertices mp geo).length
      = ((mp.flatMap Polygon.rings).map fun ring => ring.length + 1).sum := by
  rw [collectAllVertices_eq, pixelRings, List.flatMap_map, List.length_flatMap]
  simp

/-- Multipolygons with the same rings have the same mask. -/
theorem rasterizeMultiPolygon_eq_of_sameRings
    (h : SameRings (mp.flatMap Polygon.rings) (mp'.flatMap Polygon.rings))
    (hok : rasterizeMultiPolygon mp geo dims = .ok data) :
    rasterizeMultiPolygon mp' geo dims = .ok data := by
  have hlen : (collectAllVertices mp geo).length = (collectAllVertices mp' geo).length := by
    rw [length_collectAllVertices, length_collectAllVertices]
    exact h.sum_map_eq fun ring ring' hring => congrArg (· + 1) hring.length_eq
  obtain ⟨data', hok'⟩ : ∃ data', rasterizeMultiPolygon mp' geo dims = .ok data' := by
    rw [exists_rasterizeMultiPolygon_iff, ← hlen]
    exact exists_rasterizeMultiPolygon_iff.mp ⟨data, hok⟩
  rw [hok', (evenOddMask_of_rasterize hok).eq (evenOddMask_of_rasterize hok') fun _ =>
    (h.map geo.coordToPixelF64).inside_iff]

/-- The mask of a concatenation is the exclusive or of the masks. -/
theorem rasterizeMultiPolygon_append (hok : rasterizeMultiPolygon (mp ++ mp') geo dims = .ok data) :
    ∃ data₁ data₂, rasterizeMultiPolygon mp geo dims = .ok data₁ ∧
      rasterizeMultiPolygon mp' geo dims = .ok data₂ ∧ data = List.zipWith xor data₁ data₂ := by
  have hparts : (collectAllVertices (mp ++ mp') geo).length
      = (collectAllVertices mp geo).length + (collectAllVertices mp' geo).length := by
    rw [collectAllVertices, List.flatMap_append, List.length_append]
    rfl
  have hreturns := exists_rasterizeMultiPolygon_iff.mp ⟨data, hok⟩
  obtain ⟨data₁, hok₁⟩ := exists_rasterizeMultiPolygon_iff.mpr
    (hreturns.imp_right fun h => show (collectAllVertices mp geo).length < 2 by omega)
  obtain ⟨data₂, hok₂⟩ := exists_rasterizeMultiPolygon_iff.mpr
    (hreturns.imp_right fun h => show (collectAllVertices mp' geo).length < 2 by omega)
  refine ⟨data₁, data₂, hok₁, hok₂, ?_⟩
  have happend := (evenOddMask_of_rasterize hok₁).append (evenOddMask_of_rasterize hok₂)
  refine (evenOddMask_of_rasterize hok).eq happend fun p => ?_
  rw [pixelRings, List.flatMap_append, List.map_append]
  rfl

end Rasterizer

/-- **The even-odd law.** The rasterizer returns the mask of the even-odd interior of the rings, the
same for each way to write them, the exclusive or for a concatenation and on exactly one side of a
common edge, if and only if the grid has a column or there are fewer than two vertices. -/
theorem rasterizeMultiPolygon_evenOdd (mp : MultiPolygon) (geo : GeoTransform) (dims : GridDims) :
    (∃ data, rasterizeMultiPolygon mp geo dims = .ok data ∧
      EvenOddMask (pixelRings mp geo) dims data ∧
      (∀ mp', SameRings (mp.flatMap Polygon.rings) (mp'.flatMap Polygon.rings) →
        rasterizeMultiPolygon mp' geo dims = .ok data) ∧
      (∀ mp₁ mp₂, mp = mp₁ ++ mp₂ →
        ∃ data₁ data₂, rasterizeMultiPolygon mp₁ geo dims = .ok data₁ ∧
          rasterizeMultiPolygon mp₂ geo dims = .ok data₂ ∧
          data = List.zipWith xor data₁ data₂) ∧
      ∀ mp' data', rasterizeMultiPolygon mp' geo dims = .ok data' →
        ∀ cell e, dims.Holds cell →
          Opposite (pixelRings mp geo) (pixelRings mp' geo) e cell.centre →
          data'.getD (dims.index cell) false = !data.getD (dims.index cell) false) ↔
    0 < dims.cols ∨ (collectAllVertices mp geo).length < 2 := by
  rw [← exists_rasterizeMultiPolygon_iff]
  refine ⟨fun ⟨data, hok, _⟩ => ⟨data, hok⟩, fun ⟨data, hok⟩ => ⟨data, hok, ?_, ?_, ?_, ?_⟩⟩
  · exact evenOddMask_of_rasterize hok
  · exact fun mp' h => rasterizeMultiPolygon_eq_of_sameRings h hok
  · rintro mp₁ mp₂ rfl
    exact rasterizeMultiPolygon_append hok
  · intro mp' data' hok' cell e hcell hopposite
    obtain ⟨-, hcells⟩ := evenOddMask_of_rasterize hok
    obtain ⟨-, hcells'⟩ := evenOddMask_of_rasterize hok'
    have hsides := hopposite.inside_iff
    rw [← hcells cell hcell, ← hcells' cell hcell] at hsides
    rw [Bool.eq_not, ne_eq, Bool.eq_iff_iff]
    tauto

/-- A triangle cannot be rasterized on a grid without columns. -/
theorem rasterizeMultiPolygon_panics :
    rasterizeMultiPolygon [.new [⟨0, 0⟩, ⟨1, 0⟩, ⟨0, 1⟩] []] ⟨0, 0, 1, -1⟩ ⟨1, 0⟩
      = .error .panic := by
  decide +kernel

end WatershedDelineation
