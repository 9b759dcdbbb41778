import Mathlib.Data.List.Flatten
import WatershedDelineation.Raster.PointInRing

/-!
# What polygonize returns

With the containment test strict, `polygonize` is total (`polygonize_eq_none` on masks without
cells, `exists_polygonize` on the others): its polygons are the exterior rings in the order of
their first vertices, and the holes of the `i`-th polygon are those for which the `i`-th
exterior is the first one around them (`ownerIndex`). Every hole has an owner
(`BoundaryRings.exists_exterior_around`), so none is dropped.
-/

namespace WatershedDelineation

open ClosedWalk LatticeRing

/-- The ring `A` lies around the ring `B`: it winds around the cells along `B`. -/
def LiesAround (A B : List Corner) : Prop := level (ringPoints A) (ringPoints B) ≠ 0

instance (A B : List Corner) : Decidable (LiesAround A B) := inferInstanceAs (Decidable (¬_ = _))

/-- The rings of non-negative area. -/
def exteriorRings (rings : List (List Corner)) : List (List Corner) :=
  rings.filter fun ring => 0 ≤ shoelaceArea ring

/-- The rings of negative area. -/
def holeRings (rings : List (List Corner)) : List (List Corner) :=
  rings.filter fun ring => ¬0 ≤ shoelaceArea ring

/-- The position of the first exterior around a hole. -/
def ownerIndex (rings : List (List Corner)) (hole : List Corner) : Option ℕ :=
  (exteriorRings rings).findIdx? fun A => LiesAround A hole

/-! ### Areas -/

/-- The shoelace area is half the lattice area; for the shortest rings both are zero. -/
theorem shoelaceArea_eq {ring : List Corner} (hclosed : Closed ring) :
    shoelaceArea ring = (doubleArea (ringPoints ring) : ℚ) / 2 := by
  have hsum : ((steps ring).map fun e => (e.1.col : ℚ) * e.2.row - e.2.col * e.1.row).sum
      = (doubleArea (ringPoints ring) : ℚ) := by
    rw [doubleArea, steps_ringPoints, List.map_map]
    have hcast : ∀ l : List (Corner × Corner),
        (l.map fun e => (e.1.col : ℚ) * e.2.row - e.2.col * e.1.row).sum
        = (((l.map ((fun e : Point × Point => e.1.2 * e.2.1 - e.2.2 * e.1.1)
            ∘ Corner.edge)).sum : ℤ) : ℚ) := by
      intro l
      induction l with
      | nil => rfl
      | cons e l ih => simp [ih, Corner.edge, Corner.point]
    exact hcast _
  rw [shoelaceArea]
  split_ifs with hlen
  · rcases ring with - | ⟨a, - | ⟨b, - | ⟨c, l⟩⟩⟩
    · simp [doubleArea, ringPoints]
    · simp [doubleArea, ringPoints]
    · obtain rfl : b = a := by simpa using closed_cons_iff.mp hclosed
      simp [doubleArea, ringPoints]
    · simp only [List.length_cons] at hlen
      omega
  · rw [hsum]

namespace BoundaryRings

variable {mask : CatchmentMask} {rings : List (List Corner)} {A B ring : List Corner}

/-- The rings stay in the grid. -/
theorem le_of_mem (h : BoundaryRings mask rings) (hring : ring ∈ rings) :
    ∀ v ∈ ringPoints ring, v.1 ≤ mask.rows ∧ v.2 ≤ mask.cols := by
  intro v hv
  have hmem : ringPoints ring ∈ rings.map ringPoints := List.mem_map_of_mem hring
  obtain ⟨w, hw⟩ := h.family.exists_step hmem hv
  obtain ⟨⟨i, j⟩, d, heq, ⟨hi, hj, hholds, -⟩, -⟩ := h.family.exists_side hmem hw
  have hrow : i.toNat < mask.rows := hholds.1
  have hcol : j.toNat < mask.cols := hholds.2
  simp only at hi hj
  obtain ⟨rfl, -⟩ := Prod.mk.inj heq
  cases d <;> simp only <;> omega

/-- **Area classifies rings.** -/
theorem shoelaceArea_nonneg_iff (h : BoundaryRings mask rings) (hring : ring ∈ rings) :
    0 ≤ shoelaceArea ring ↔ level (ringPoints ring) (ringPoints ring) = 1 := by
  rw [shoelaceArea_eq (h.closed hring),
    ← h.family.doubleArea_nonneg_iff (List.mem_map_of_mem hring) (h.le_of_mem hring),
    le_div_iff₀ two_pos, zero_mul]
  exact Int.cast_nonneg_iff

theorem mem_exteriorRings (h : BoundaryRings mask rings) :
    ring ∈ exteriorRings rings ↔
      ring ∈ rings ∧ level (ringPoints ring) (ringPoints ring) = 1 := by
  rw [exteriorRings, List.mem_filter, decide_eq_true_eq]
  exact and_congr_right fun hring => h.shoelaceArea_nonneg_iff hring

theorem mem_holeRings (h : BoundaryRings mask rings) :
    ring ∈ holeRings rings ↔ ring ∈ rings ∧ level (ringPoints ring) (ringPoints ring) = 0 := by
  rw [holeRings, List.mem_filter, decide_eq_true_eq]
  refine and_congr_right fun hring => ?_
  have hself := h.family.level_self (List.mem_map_of_mem (f := ringPoints) hring)
  rw [h.shoelaceArea_nonneg_iff hring]
  omega

/-- Exteriors and holes are all rings. -/
theorem perm_exteriors_holes (rings : List (List Corner)) :
    (exteriorRings rings ++ holeRings rings).Perm rings := by
  have hholes : holeRings rings = rings.filter fun ring => !decide (0 ≤ shoelaceArea ring) :=
    List.filter_congr fun ring _ => decide_not
  rw [hholes]
  exact List.filter_append_perm (fun ring => decide (0 ≤ shoelaceArea ring)) rings

theorem ne_of_exterior_hole (h : BoundaryRings mask rings) (hA : A ∈ exteriorRings rings)
    (hB : B ∈ holeRings rings) : A ≠ B := by
  rintro rfl
  rw [h.mem_exteriorRings] at hA
  rw [h.mem_holeRings] at hB
  omega

/-- An exterior winds by one around everything inside it. -/
theorem wind_exterior (h : BoundaryRings mask rings) (hA : A ∈ exteriorRings rings) (q : Point) :
    wind (ringPoints A) q = if wind (ringPoints A) q ≠ 0 then 1 else 0 := by
  obtain ⟨hA, hone⟩ := h.mem_exteriorRings.mp hA
  have hcases := h.family.wind_cases (List.mem_map_of_mem (f := ringPoints) hA) q
  split_ifs <;> omega

/-- A hole winds by minus one around everything inside it. -/
theorem wind_hole (h : BoundaryRings mask rings) (hA : A ∈ holeRings rings) (q : Point) :
    wind (ringPoints A) q = if wind (ringPoints A) q ≠ 0 then -1 else 0 := by
  obtain ⟨hA, hzero⟩ := h.mem_holeRings.mp hA
  have hcases := h.family.wind_cases (List.mem_map_of_mem (f := ringPoints) hA) q
  split_ifs <;> omega

private theorem sum_map_ite {α : Type*} (k : ℤ) (p : α → Prop) [DecidablePred p] (l : List α) :
    (l.map fun a => if p a then k else 0).sum = k * l.countP p := by
  induction l with
  | nil => simp
  | cons a l ih =>
    rw [List.map_cons, List.sum_cons, ih, List.countP_cons]
    by_cases ha : p a
    · simp [ha]
      ring
    · simp [ha]

/-- **Counting the rings around a cell**: one exterior more than there are holes around the
included cells, and as many exteriors as holes around the others. -/
theorem countP_wind (h : BoundaryRings mask rings) (q : Point) :
    (exteriorRings rings).countP (fun A => wind (ringPoints A) q ≠ 0)
      = (holeRings rings).countP (fun A => wind (ringPoints A) q ≠ 0)
        + if mask.Cell q then 1 else 0 := by
  have hsum : (rings.map fun A => wind (ringPoints A) q).sum = if mask.Cell q then 1 else 0 := by
    rw [← h.family.sum_wind, List.map_map]
    rfl
  rw [← ((perm_exteriors_holes rings).map _).sum_eq, List.map_append, List.sum_append,
    List.map_congr_left fun A hA => h.wind_exterior hA q,
    List.map_congr_left (l := holeRings rings) fun A hA => h.wind_hole hA q, sum_map_ite,
    sum_map_ite] at hsum
  split_ifs at hsum ⊢ <;> omega

/-- Along every ring there is one exterior more than there are holes, counting the ring
itself. -/
theorem countP_around (h : BoundaryRings mask rings) (hB : B ∈ rings) :
    (exteriorRings rings).countP (LiesAround · B)
      = (holeRings rings).countP (LiesAround · B) + 1 := by
  have hcount := h.countP_wind (firstCell (ringPoints B))
  rwa [if_pos (h.family.mem_firstCell (List.mem_map_of_mem hB))] at hcount

/-- **No hole is dropped**: every ring lies inside an exterior or is one. -/
theorem exists_exterior_around (h : BoundaryRings mask rings) (hB : B ∈ rings) :
    ∃ A ∈ exteriorRings rings, LiesAround A B := by
  have hcount := h.countP_around hB
  have hpos : 0 < (exteriorRings rings).countP (LiesAround · B) := by omega
  obtain ⟨A, hA, haround⟩ := List.countP_pos_iff.mp hpos
  exact ⟨A, hA, by simpa using haround⟩

theorem exists_ownerIndex (h : BoundaryRings mask rings) (hB : B ∈ rings) :
    ∃ i, ownerIndex rings B = some i ∧ i < (exteriorRings rings).length := by
  obtain ⟨A, hA, haround⟩ := h.exists_exterior_around hB
  cases hidx : ownerIndex rings B with
  | none => simpa [haround] using List.findIdx?_eq_none_iff.mp hidx A hA
  | some i => exact ⟨i, rfl, (List.findIdx?_eq_some_iff_getElem.mp hidx).1⟩

end BoundaryRings

/-! ### Assigning the holes -/

section Assign

variable {contains : Polygon → NativeCoord → Bool} {geo : GeoTransform} {mask : CatchmentMask}
  {rings : List (List Corner)}

/-- The exterior polygons before they get their holes. -/
def exteriorPolys (rings : List (List Corner)) (geo : GeoTransform) : List Polygon :=
  (exteriorRings rings).map fun ext => Polygon.new (toGeoCoords ext geo) []

theorem closed_toGeoCoords {ring : List Corner} (h : Closed ring) (geo : GeoTransform) :
    Closed (toGeoCoords ring geo) :=
  h.map _

private theorem findIdx?_congr {α : Type*} {p q : α → Bool} {l : List α} (h : ∀ a ∈ l, p a = q a) :
    l.findIdx? p = l.findIdx? q := by
  induction l with
  | nil => rfl
  | cons a l ih =>
    rw [List.findIdx?_cons, List.findIdx?_cons, h a (by simp), ih fun b hb => h b (.tail _ hb)]

/-- The first exterior polygon that contains the first vertex of a hole is the first exterior
ring around the hole. -/
theorem findIdx?_exteriorPolys (hcontains : ContainsIsStrict contains) (hgeo : geo.Invertible)
    (h : BoundaryRings mask rings) {hole : List Corner} (hhole : hole ∈ holeRings rings)
    {v : Corner} (hv : hole.head? = some v) :
    (exteriorPolys rings geo).findIdx? (contains · (geo.cornerCoord v.row v.col))
      = ownerIndex rings hole := by
  rw [exteriorPolys, List.findIdx?_map, ownerIndex]
  refine findIdx?_congr fun A hA => ?_
  obtain ⟨hmem, hzero⟩ := h.mem_holeRings.mp hhole
  have hmemA := (h.mem_exteriorRings.mp hA).1
  have hiff := h.strictlyInside_iff hmemA hmem (h.ne_of_exterior_hole hA hhole) hgeo hzero hv
  rw [Function.comp_apply, Bool.eq_iff_iff, hcontains _ rfl, decide_eq_true_eq, LiesAround, ← hiff]
  simp only [Polygon.new]
  rw [LineString.close_eq (closed_toGeoCoords (h.closed hmemA) geo)]

private theorem flatten_modify {α : Type*} (x : α) (ls : List (List α)) {i : ℕ}
    (hi : i < ls.length) :
    (ls.modify i fun l => l ++ [x]).flatten.Perm (ls.flatten ++ [x]) := by
  induction ls generalizing i with
  | nil => exact absurd hi (Nat.not_lt_zero _)
  | cons l ls ih =>
    cases i with
    | zero =>
      simp only [List.modify_zero_cons, List.flatten_cons, List.append_assoc]
      exact List.Perm.append_left _ List.perm_append_comm
    | succ i =>
      simp only [List.modify_succ_cons, List.flatten_cons, List.append_assoc]
      exact List.Perm.append_left _ (ih (by simpa using hi))

/-- **The holes of each polygon.** No hole is lost, and each goes to its owner. -/
theorem foldlM_assignHole (hcontains : ContainsIsStrict contains) (hgeo : geo.Invertible)
    (h : BoundaryRings mask rings) {holes : List (List Corner)}
    (hholes : ∀ hole ∈ holes, hole ∈ holeRings rings) (acc : List (List (List NativeCoord)))
    (hacc : acc.length = (exteriorRings rings).length) :
    ∃ result, holes.foldlM (assignHole contains (exteriorPolys rings geo) geo) acc = .ok result ∧
      result.length = acc.length ∧
      result.flatten.Perm (acc.flatten ++ holes.map (toGeoCoords · geo)) ∧
      ∀ i, result.getD i [] = acc.getD i [] ++
        ((holes.filter fun hole => ownerIndex rings hole = some i).map (toGeoCoords · geo)) := by
  induction holes generalizing acc with
  | nil => exact ⟨acc, rfl, rfl, by simp, by simp⟩
  | cons hole holes ih =>
    have hhole := hholes hole (by simp)
    obtain ⟨i, hidx, hi⟩ := h.exists_ownerIndex (h.mem_holeRings.mp hhole).1
    obtain ⟨v, d, rest, rem, rfl, -⟩ := h.assembled hole (h.mem_holeRings.mp hhole).1
    have hassign : assignHole contains (exteriorPolys rings geo) geo acc (v :: d :: rest)
        = .ok (acc.modify i fun ls => ls ++ [toGeoCoords (v :: d :: rest) geo]) := by
      have hfind := findIdx?_exteriorPolys hcontains hgeo h hhole rfl
      rw [hidx] at hfind
      simp only [GeoTransform.cornerCoord] at hfind
      simp only [assignHole, toGeoCoords, List.map_cons, hfind]
    obtain ⟨result, hresult, hlen, hperm, hget⟩ := ih
      (fun hole' hmem => hholes hole' (.tail _ hmem))
      (acc.modify i fun ls => ls ++ [toGeoCoords (v :: d :: rest) geo])
      (by rwa [List.length_modify])
    refine ⟨result, ?_, hlen.trans (List.length_modify ..), ?_, fun k => ?_⟩
    · rw [List.foldlM_cons, hassign]
      exact hresult
    · refine hperm.trans (((flatten_modify _ _ (hacc ▸ hi)).append_right _).trans ?_)
      rw [List.append_assoc]
      rfl
    · rw [hget k, List.filter_cons, hidx]
      by_cases hk : i = k
      · subst hk
        simp [List.getD_eq_getElem?_getD, hacc, hi]
      · simp [List.getD_eq_getElem?_getD, hk]

/-- On a mask without cells nothing is returned. -/
theorem polygonize_eq_none (hmask : ∀ cell, ¬mask.Includes cell) :
    polygonize contains mask geo = .ok none := by
  simp only [polygonize]
  rw [if_pos (extractEdges_eq_nil_iff.mpr hmask)]

/-- The holes of the polygons: none is lost, and each goes to its owner. -/
structure HolesAssigned (rings : List (List Corner)) (geo : GeoTransform)
    (holes : List (List (List NativeCoord))) : Prop where
  length_eq : holes.length = (exteriorRings rings).length
  perm : holes.flatten.Perm ((holeRings rings).map (toGeoCoords · geo))
  owned : ∀ i, holes.getD i [] =
    ((holeRings rings).filter fun hole => ownerIndex rings hole = some i).map (toGeoCoords · geo)

/-- The polygons of the result, one for every exterior. -/
def finishedPolygons (rings : List (List Corner)) (geo : GeoTransform)
    (holes : List (List (List NativeCoord))) : MultiPolygon :=
  List.zipWith finishPolygon (exteriorPolys rings geo) holes

/-- **What polygonize returns** on a mask with cells. -/
theorem exists_polygonize (hcontains : ContainsIsStrict contains) (hgeo : geo.Invertible)
    (hmask : ∃ cell, mask.Includes cell) :
    ∃ rings holes, assembleRings (extractEdges mask) = .ok rings ∧ BoundaryRings mask rings ∧
      HolesAssigned rings geo holes ∧
      polygonize contains mask geo = .ok (some (finishedPolygons rings geo holes)) := by
  obtain ⟨rings, hrings, h⟩ := exists_boundaryRings mask
  have hedges : extractEdges mask ≠ [] := fun hnil =>
    let ⟨cell, hcell⟩ := hmask
    extractEdges_eq_nil_iff.mp hnil cell hcell
  -- some ring bounds a cell, and around every ring there is an exterior
  have hext : exteriorRings rings ≠ [] := by
    obtain ⟨ring, hring⟩ : ∃ ring, ring ∈ rings := by
      by_contra hnot
      push Not at hnot
      have hnil : rings = [] := List.eq_nil_iff_forall_not_mem.mpr hnot
      exact hedges (by simpa [hnil] using h.perm.symm)
    obtain ⟨A, hA, -⟩ := h.exists_exterior_around hring
    exact List.ne_nil_of_mem hA
  obtain ⟨holes, hfold, hlen, hperm, hget⟩ := foldlM_assignHole hcontains hgeo h
    (fun hole (hhole : hole ∈ holeRings rings) => hhole)
    (List.replicate (exteriorPolys rings geo).length [])
    (by rw [List.length_replicate, exteriorPolys, List.length_map])
  refine ⟨rings, holes, hrings, h, ⟨?_, ?_, fun i => ?_⟩, ?_⟩
  · rw [hlen, List.length_replicate, exteriorPolys, List.length_map]
  · simpa using hperm
  · rw [hget i]
    simp only [List.getD_eq_getElem?_getD, List.getElem?_replicate]
    split_ifs <;> rfl
  · simp only [polygonize]
    rw [if_neg hedges, hrings]
    change (if exteriorRings rings = [] then _ else _) = _
    rw [if_neg hext]
    change ((holeRings rings).foldlM (assignHole contains (exteriorPolys rings geo) geo)
      (List.replicate (exteriorPolys rings geo).length []) >>= _) = _
    rw [hfold]
    rfl

end Assign

end WatershedDelineation
