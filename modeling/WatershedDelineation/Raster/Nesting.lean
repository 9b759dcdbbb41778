import WatershedDelineation.Raster.Orientation

/-!
# Nesting of the polygons

What a multipolygon of a mask has to satisfy (`NestingCorrect`): every included cell lies in
exactly one polygon and no other cell in any, rings are oriented, and every hole belongs to the
polygon whose exterior encloses it most closely.

`polygonize` gives a hole to the first exterior around it. Exteriors come in the order of their
first vertices, so this is the outermost one, and the result is correct exactly when no hole
lies inside two exteriors (`polygonize_nesting_iff`).
-/

namespace WatershedDelineation

open ClosedWalk LatticeRing

/-- The centre of the cell lies inside the ring. -/
def RingHolds (geo : GeoTransform) (ring : List NativeCoord) (cell : GridCoord) : Prop :=
  windingNumber ring (geo.pixelToCoord cell) ≠ 0

instance (geo : GeoTransform) (ring : List NativeCoord) (cell : GridCoord) :
    Decidable (RingHolds geo ring cell) :=
  inferInstanceAs (Decidable (¬_ = _))

/-- The cell lies in the polygon: inside its exterior and outside all of its interiors. -/
def Polygon.Covers (polygon : Polygon) (geo : GeoTransform) (cell : GridCoord) : Prop :=
  RingHolds geo polygon.exterior cell ∧ ∀ hole ∈ polygon.interiors, ¬RingHolds geo hole cell

instance (polygon : Polygon) (geo : GeoTransform) (cell : GridCoord) :
    Decidable (polygon.Covers geo cell) :=
  inferInstanceAs (Decidable (_ ∧ _))

/-- All cells inside the inner ring are inside the outer one. -/
def Encloses (geo : GeoTransform) (outer inner : List NativeCoord) : Prop :=
  ∀ cell, RingHolds geo inner cell → RingHolds geo outer cell

/-- What polygons of a mask have to satisfy. -/
structure NestingCorrect (mask : CatchmentMask) (geo : GeoTransform)
    (multiPolygon : MultiPolygon) : Prop where
  covered : ∀ cell, mask.Includes cell → multiPolygon.countP (·.Covers geo cell) = 1
  uncovered : ∀ cell, ¬mask.Includes cell → ∀ polygon ∈ multiPolygon, ¬polygon.Covers geo cell
  exterior_ccw : ∀ polygon ∈ multiPolygon, 0 < geoSignedAreaLs polygon.exterior
  interior_cw : ∀ polygon ∈ multiPolygon, ∀ hole ∈ polygon.interiors, geoSignedAreaLs hole < 0
  closest : ∀ polygon ∈ multiPolygon, ∀ hole ∈ polygon.interiors,
    Encloses geo polygon.exterior hole ∧
      ∀ other ∈ multiPolygon, Encloses geo other.exterior hole →
        Encloses geo other.exterior polygon.exterior

/-- No hole of the mask lies inside two exteriors. -/
def SingleOwners (mask : CatchmentMask) : Prop :=
  ∀ rings, assembleRings (extractEdges mask) = .ok rings →
    ∀ hole ∈ holeRings rings, (exteriorRings rings).countP (LiesAround · hole) ≤ 1

instance (mask : CatchmentMask) : Decidable (SingleOwners mask) :=
  match hrings : assembleRings (extractEdges mask) with
  | .ok rings =>
    decidable_of_iff
      (∀ hole ∈ holeRings rings, (exteriorRings rings).countP (LiesAround · hole) ≤ 1)
      ⟨fun h _ heq => Except.ok.inj (hrings.symm.trans heq) ▸ h, fun h => h rings hrings⟩
  | .error _ => isTrue fun _ heq => nomatch hrings.symm.trans heq

/-! ### Rings and the cells inside them -/

/-- The cell lies inside the boundary ring. -/
def Inside (ring : List Corner) (cell : GridCoord) : Prop :=
  wind (ringPoints ring) ((cell.row : ℤ), (cell.col : ℤ)) ≠ 0

instance (ring : List Corner) (cell : GridCoord) : Decidable (Inside ring cell) :=
  inferInstanceAs (Decidable (¬_ = _))

namespace BoundaryRings

variable {mask : CatchmentMask} {rings : List (List Corner)} {A B : List Corner}
  {cell : GridCoord} {geo : GeoTransform}

theorem ringHolds_iff (h : BoundaryRings mask rings) (hA : A ∈ rings) (hgeo : geo.Invertible) :
    RingHolds geo (toGeoCoords A geo) cell ↔ Inside A cell :=
  h.windingNumber_center hA hgeo cell

/-- A ring that lies around another one holds all cells inside it. -/
theorem inside_of_liesAround (h : BoundaryRings mask rings) (hA : A ∈ rings) (hB : B ∈ rings)
    (hne : A ≠ B) (haround : LiesAround A B) (hcell : Inside B cell) : Inside A cell := by
  rw [Inside, h.family.wind_eq_of_level_ne_zero (List.mem_map_of_mem hA) (List.mem_map_of_mem hB)
    (fun heq => hne (ringPoints_injective heq)) haround hcell]
  exact haround

/-- Cells that a ring winds around are cells of the grid. -/
private theorem exists_inside (h : BoundaryRings mask rings) (hA : A ∈ rings) {q : Point}
    (hq : wind (ringPoints A) q ≠ 0) :
    ∃ cell : GridCoord, q = ((cell.row : ℤ), (cell.col : ℤ)) ∧ Inside A cell := by
  obtain ⟨i, -, j, -, rfl⟩ :=
    h.family.exists_cell_of_wind_ne_zero (List.mem_map_of_mem hA) (h.le_of_mem hA) hq
  exact ⟨⟨i, j⟩, rfl, hq⟩

/-- An exterior that holds all cells inside another one lies around it. -/
theorem liesAround_of_inside (h : BoundaryRings mask rings) (hB : B ∈ exteriorRings rings)
    (hsub : ∀ cell, Inside B cell → Inside A cell) : LiesAround A B := by
  obtain ⟨hB, hone⟩ := h.mem_exteriorRings.mp hB
  have hfirst : wind (ringPoints B) (firstCell (ringPoints B)) ≠ 0 := by
    have : wind (ringPoints B) (firstCell (ringPoints B)) = 1 := hone
    omega
  obtain ⟨cell, hq, hcell⟩ := h.exists_inside hB hfirst
  have hA := hsub cell hcell
  rwa [Inside, ← hq] at hA

/-- A ring that holds all cells inside a hole lies around the hole. -/
theorem liesAround_hole_of_inside (h : BoundaryRings mask rings) (hA : A ∈ rings)
    (hB : B ∈ holeRings rings) (hne : A ≠ B) (hsub : ∀ cell, Inside B cell → Inside A cell) :
    LiesAround A B := by
  obtain ⟨hB, hzero⟩ := h.mem_holeRings.mp hB
  have hmemA : ringPoints A ∈ rings.map ringPoints := List.mem_map_of_mem hA
  have hmemB : ringPoints B ∈ rings.map ringPoints := List.mem_map_of_mem hB
  have hne' : ringPoints A ≠ ringPoints B := fun heq => hne (ringPoints_injective heq)
  obtain ⟨v, d, rest, heq, -⟩ := h.family.start _ hmemB
  have hstep : (v, d) ∈ steps (ringPoints B) := by simp [heq]
  obtain ⟨p, s, hside, -, hq⟩ := h.family.exists_side hmemB hstep
  rw [hside] at hstep
  -- the cell across the first edge lies inside the hole
  have hinside : wind (ringPoints B) (nbr p s) ≠ 0 := by
    have hlevel : wind (ringPoints B) p = 0 :=
      (h.family.wind_eq_level hmemB hmemB hstep).trans hzero
    rw [h.family.wind_nbr_of_boundary hmemB hq, hlevel, if_pos hstep]
    decide
  obtain ⟨cell, hcell, hin⟩ := h.exists_inside hB hinside
  have hA := hsub cell hin
  rwa [Inside, ← hcell, h.family.wind_nbr_eq_level hmemA hmemB hne' hstep] at hA

theorem nodup (h : BoundaryRings mask rings) : rings.Nodup := by
  have hnodup : (rings.map ringPoints).Nodup := by
    refine ((List.nodup_flatMap.mp h.family.nodup).2).imp_of_mem fun {A B} hA _ hdis heq => ?_
    obtain ⟨v, d, rest, hcons, -⟩ := h.family.start A hA
    have hstep : (v, d) ∈ steps A := by simp [hcons]
    exact hdis hstep (heq ▸ hstep)
  exact hnodup.of_map _

/-- Where no hole lies inside two exteriors, no cell lies inside two holes. -/
theorem countP_holes_le_one (h : BoundaryRings mask rings)
    (hsingle : ∀ hole ∈ holeRings rings, (exteriorRings rings).countP (LiesAround · hole) ≤ 1)
    (cell : GridCoord) : (holeRings rings).countP (Inside · cell) ≤ 1 := by
  rw [List.countP_eq_length_filter]
  have hnodup : ((holeRings rings).filter (Inside · cell)).Nodup :=
    (h.nodup.filter _).filter _
  match hl : (holeRings rings).filter (Inside · cell), hnodup with
  | [], _ => exact Nat.zero_le _
  | [_], _ => exact le_rfl
  | A :: B :: rest, hnodup =>
    exfalso
    have hmem : ∀ C ∈ A :: B :: rest, C ∈ holeRings rings ∧ Inside C cell := fun C hC => by
      simpa [← hl] using hC
    obtain ⟨hA, hinA⟩ := hmem A (by simp)
    obtain ⟨hB, hinB⟩ := hmem B (by simp)
    have hne : A ≠ B := fun heq => (List.nodup_cons.mp hnodup).1 (heq ▸ by simp)
    -- one of the two holes lies around the other, which then lies inside two exteriors
    have hnest : ∀ A ∈ holeRings rings, ∀ B ∈ holeRings rings, ¬LiesAround A B := by
      intro A hA B hB haround
      have hcount := h.countP_around (h.mem_holeRings.mp hB).1
      have hpos : 0 < (holeRings rings).countP (LiesAround · B) :=
        List.countP_pos_iff.mpr ⟨A, hA, by simpa using haround⟩
      have := hsingle B hB
      omega
    rcases h.family.level_ne_zero_or (List.mem_map_of_mem (h.mem_holeRings.mp hA).1)
      (List.mem_map_of_mem (h.mem_holeRings.mp hB).1) (fun heq => hne (ringPoints_injective heq))
      hinA hinB with haround | haround
    · exact hnest A hA B hB haround
    · exact hnest B hB A hA haround

/-- The owner of a hole lies around it, and no exterior before it does. -/
theorem ownerIndex_eq_some {i : ℕ} (howner : ownerIndex rings B = some i) :
    ∃ A, (exteriorRings rings)[i]? = some A ∧ LiesAround A B ∧
      ∀ j < i, ∀ A', (exteriorRings rings)[j]? = some A' → ¬LiesAround A' B := by
  obtain ⟨hi, haround, hfirst⟩ := List.findIdx?_eq_some_iff_getElem.mp howner
  refine ⟨_, List.getElem?_eq_getElem hi, by simpa using haround, fun j hj A' hA' => ?_⟩
  obtain ⟨hj', rfl⟩ := List.getElem?_eq_some_iff.mp hA'
  simpa using hfirst j hj

theorem liesAround_of_owner {i : ℕ} (hA : (exteriorRings rings)[i]? = some A)
    (howner : ownerIndex rings B = some i) : LiesAround A B := by
  obtain ⟨A', hA', haround, -⟩ := ownerIndex_eq_some howner
  obtain rfl : A = A' := Option.some.inj (hA.symm.trans hA')
  exact haround

/-- Of two exteriors the one that lies around the other comes first. -/
theorem not_liesAround_of_lt (h : BoundaryRings mask rings) {i j : ℕ} (hij : i < j)
    (hA : (exteriorRings rings)[i]? = some A) (hB : (exteriorRings rings)[j]? = some B) :
    ¬LiesAround B A := by
  intro haround
  obtain ⟨hi, rfl⟩ := List.getElem?_eq_some_iff.mp hA
  obtain ⟨hj, rfl⟩ := List.getElem?_eq_some_iff.mp hB
  have hmemA := (h.mem_exteriorRings.mp (List.getElem_mem hi)).1
  have hmemB := (h.mem_exteriorRings.mp (List.getElem_mem hj)).1
  have hne : (exteriorRings rings)[j] ≠ (exteriorRings rings)[i] := fun heq =>
    hij.ne' ((h.nodup.filter _).getElem_inj_iff.mp heq)
  obtain ⟨a, _, _, _, ha, -⟩ := h.assembled _ hmemA
  obtain ⟨b, _, _, _, hb, -⟩ := h.assembled _ hmemB
  have hsorted : (exteriorRings rings).Pairwise fun ring ring' =>
      ∀ a ∈ ring.head?, ∀ b ∈ ring'.head?, a ≤ b := h.sorted.filter _
  have hle := List.pairwise_iff_getElem.mp hsorted i j hi hj hij a (by simp [ha]) b (by simp [hb])
  have hlt := h.family.lexLT_of_level_ne_zero (List.mem_map_of_mem hmemB)
    (List.mem_map_of_mem hmemA) (fun heq => hne (ringPoints_injective heq)) haround
    (a := b.point) (b := a.point) (by simp [ringPoints, hb]) (by simp [ringPoints, ha])
  rw [Corner.le_iff] at hle
  simp only [LexLT, Corner.point] at hlt
  omega

end BoundaryRings

/-! ### Counting the polygons over a cell -/

section Count

variable {geo : GeoTransform} {cell : GridCoord}

theorem covers_finishPolygon {polygon : Polygon} {own : List (List NativeCoord)}
    (hown : ∀ hole ∈ own, Closed hole) :
    (finishPolygon polygon own).Covers geo cell ↔
      RingHolds geo polygon.exterior cell ∧ own.countP (RingHolds geo · cell) = 0 := by
  rw [Polygon.Covers, List.countP_eq_zero]
  simp only [finishPolygon, Polygon.new, List.map_map, List.forall_mem_map,
    LineString.close_eq (closed_orientExterior polygon.closed_exterior), Function.comp_apply,
    decide_eq_true_eq]
  refine and_congr windingNumber_orientExterior_ne_zero (forall₂_congr fun hole hhole => ?_)
  rw [LineString.close_eq (closed_orientHole (hown hole hhole))]
  exact not_congr windingNumber_orientHole_ne_zero

/-- **Counting the polygons over a cell.** With at most one hole over the cell, inside its
polygon's exterior, every hole takes one exterior off the count. -/
theorem countP_covers (polygons : List Polygon) {holes : List (List (List NativeCoord))}
    (hlen : holes.length = polygons.length) (hclosed : ∀ hole ∈ holes.flatten, Closed hole)
    (hone : holes.flatten.countP (RingHolds geo · cell) ≤ 1)
    (hin : ∀ pair ∈ polygons.zip holes, ∀ hole ∈ pair.2, RingHolds geo hole cell →
      RingHolds geo pair.1.exterior cell) :
    (List.zipWith finishPolygon polygons holes).countP (·.Covers geo cell)
        + holes.flatten.countP (RingHolds geo · cell)
      = polygons.countP fun polygon => RingHolds geo polygon.exterior cell := by
  induction polygons generalizing holes with
  | nil =>
    obtain rfl := List.length_eq_zero_iff.mp hlen
    rfl
  | cons polygon polygons ih =>
    match holes, hlen with
    | own :: holes, hlen =>
      rw [List.flatten_cons, List.countP_append] at hone
      have hcovers : (finishPolygon polygon own).Covers geo cell ↔
          RingHolds geo polygon.exterior cell ∧ own.countP (RingHolds geo · cell) = 0 :=
        covers_finishPolygon fun hole hmem =>
          hclosed hole (List.mem_flatten_of_mem List.mem_cons_self hmem)
      have hrest := ih (by simpa using hlen)
        (fun hole hmem => hclosed hole (by
          rw [List.flatten_cons]
          exact List.mem_append_right _ hmem))
        (by omega) fun pair hpair => hin pair (List.mem_cons_of_mem _ hpair)
      -- a hole over the cell is inside the exterior, so that the polygon counts for one of them
      have hpos : 0 < own.countP (RingHolds geo · cell) → RingHolds geo polygon.exterior cell := by
        intro hpos
        obtain ⟨hole, hmem, hhole⟩ := List.countP_pos_iff.mp hpos
        exact hin (polygon, own) List.mem_cons_self hole hmem (by simpa using hhole)
      rw [List.zipWith_cons_cons, List.countP_cons, List.countP_cons, List.flatten_cons,
        List.countP_append]
      simp only [hcovers, decide_eq_true_eq]
      by_cases hheld : RingHolds geo polygon.exterior cell
      · by_cases hzero : own.countP (RingHolds geo · cell) = 0
        · simp only [hheld, hzero, and_self, if_true]
          omega
        · simp only [hheld, hzero, and_false, if_true, if_false]
          omega
      · have hzero : own.countP (RingHolds geo · cell) = 0 :=
          Nat.eq_zero_of_not_pos fun hpos' => hheld (hpos hpos')
        simp only [hheld, hzero, false_and, if_false]
        omega

end Count

/-! ### The result -/

section Result

variable {contains : Polygon → NativeCoord → Bool} {mask : CatchmentMask} {geo : GeoTransform}
  {rings : List (List Corner)} {holes : List (List (List NativeCoord))}

namespace HolesAssigned

theorem mem_own {i : ℕ} {own : List (List NativeCoord)} (ha : HolesAssigned rings geo holes)
    (hown : holes[i]? = some own) (hole : List NativeCoord) :
    hole ∈ own ↔ ∃ B ∈ holeRings rings, ownerIndex rings B = some i ∧ toGeoCoords B geo = hole := by
  have howned := ha.owned i
  rw [List.getD_eq_getElem?_getD, hown, Option.getD_some] at howned
  simp [howned, and_assoc]

theorem closed_of_mem (h : BoundaryRings mask rings) (ha : HolesAssigned rings geo holes)
    {hole : List NativeCoord} (hhole : hole ∈ holes.flatten) : Closed hole := by
  obtain ⟨B, hB, rfl⟩ := List.mem_map.mp (ha.perm.mem_iff.mp hhole)
  exact closed_toGeoCoords (h.closed (h.mem_holeRings.mp hB).1) geo

/-- An exterior polygon and its holes come from an exterior ring and the hole rings it owns. -/
theorem exists_of_mem_zip (ha : HolesAssigned rings geo holes)
    {pair : Polygon × List (List NativeCoord)}
    (hpair : pair ∈ (exteriorPolys rings geo).zip holes) :
    ∃ i A, (exteriorRings rings)[i]? = some A ∧ pair.1 = Polygon.new (toGeoCoords A geo) [] ∧
      ∀ hole, hole ∈ pair.2 ↔ ∃ B ∈ holeRings rings, ownerIndex rings B = some i ∧
        toGeoCoords B geo = hole := by
  obtain ⟨i, hi⟩ := List.mem_iff_getElem?.mp hpair
  obtain ⟨hpoly, hown⟩ := List.getElem?_zip_eq_some.mp hi
  rw [exteriorPolys, List.getElem?_map, Option.map_eq_some_iff] at hpoly
  obtain ⟨A, hA, heq⟩ := hpoly
  exact ⟨i, A, hA, heq.symm, ha.mem_own hown⟩

/-- **The polygon of an exterior**: the exterior ring and the holes it owns, oriented. -/
theorem exists_polygon (h : BoundaryRings mask rings) (ha : HolesAssigned rings geo holes) {i : ℕ}
    {A : List Corner} (hA : (exteriorRings rings)[i]? = some A) :
    ∃ polygon, (finishedPolygons rings geo holes)[i]? = some polygon ∧
      polygon.exterior = orientExterior (toGeoCoords A geo) ∧
      ∀ hole, hole ∈ polygon.interiors ↔ ∃ B ∈ holeRings rings, ownerIndex rings B = some i ∧
        orientHole (toGeoCoords B geo) = hole := by
  have hi : i < holes.length := by
    rw [ha.length_eq]
    exact (List.getElem?_eq_some_iff.mp hA).1
  have hown := ha.mem_own (List.getElem?_eq_getElem hi)
  have hpoly : (exteriorPolys rings geo)[i]? = some (Polygon.new (toGeoCoords A geo) []) := by
    rw [exteriorPolys, List.getElem?_map, hA]
    rfl
  have hclosed := closed_toGeoCoords
    (h.closed (h.mem_exteriorRings.mp (List.mem_of_getElem? hA)).1) geo
  refine ⟨finishPolygon (Polygon.new (toGeoCoords A geo) []) holes[i], ?_, ?_, fun hole => ?_⟩
  · rw [finishedPolygons, List.getElem?_zipWith, hpoly, List.getElem?_eq_getElem hi]
  · simp only [finishPolygon, Polygon.new, LineString.close_eq hclosed,
      LineString.close_eq (closed_orientExterior hclosed)]
  · have hclose : ∀ B ∈ holeRings rings, LineString.close (orientHole (toGeoCoords B geo))
        = orientHole (toGeoCoords B geo) := fun B hB => LineString.close_eq
      (closed_orientHole (closed_toGeoCoords (h.closed (h.mem_holeRings.mp hB).1) geo))
    simp only [finishPolygon, Polygon.new, List.map_map, List.mem_map, Function.comp_apply, hown]
    constructor
    · rintro ⟨_, ⟨B, hB, howner, rfl⟩, rfl⟩
      exact ⟨B, hB, howner, (hclose B hB).symm⟩
    · rintro ⟨B, hB, howner, rfl⟩
      exact ⟨_, ⟨B, hB, howner, rfl⟩, hclose B hB⟩

/-- Every polygon of the result belongs to an exterior. -/
theorem exists_of_mem (h : BoundaryRings mask rings) (ha : HolesAssigned rings geo holes)
    {polygon : Polygon} (hmem : polygon ∈ finishedPolygons rings geo holes) :
    ∃ i A, (exteriorRings rings)[i]? = some A ∧
      polygon.exterior = orientExterior (toGeoCoords A geo) ∧
      ∀ hole, hole ∈ polygon.interiors ↔ ∃ B ∈ holeRings rings, ownerIndex rings B = some i ∧
        orientHole (toGeoCoords B geo) = hole := by
  obtain ⟨i, hi⟩ := List.mem_iff_getElem?.mp hmem
  have hlt : i < (exteriorRings rings).length := by
    have hlt := (List.getElem?_eq_some_iff.mp hi).1
    rw [finishedPolygons, List.length_zipWith, exteriorPolys, List.length_map] at hlt
    exact lt_of_lt_of_le hlt (min_le_left ..)
  obtain ⟨polygon', hi', hspec⟩ := ha.exists_polygon h (List.getElem?_eq_getElem hlt)
  obtain rfl : polygon = polygon' := Option.some.inj (hi.symm.trans hi')
  exact ⟨i, _, List.getElem?_eq_getElem hlt, hspec⟩

end HolesAssigned

/-- The polygons over a cell, counted: one over an included cell, none over the others. -/
theorem countP_finishedPolygons (hgeo : geo.Invertible) (h : BoundaryRings mask rings)
    (ha : HolesAssigned rings geo holes)
    (hsingle : ∀ hole ∈ holeRings rings, (exteriorRings rings).countP (LiesAround · hole) ≤ 1)
    (cell : GridCoord) :
    (finishedPolygons rings geo holes).countP (·.Covers geo cell)
      = if mask.Includes cell then 1 else 0 := by
  have hholes : holes.flatten.countP (RingHolds geo · cell)
      = (holeRings rings).countP (Inside · cell) := by
    rw [ha.perm.countP_eq, List.countP_map]
    refine List.countP_congr fun B hB => ?_
    rw [Function.comp_apply, decide_eq_true_eq, decide_eq_true_eq,
      h.ringHolds_iff (h.mem_holeRings.mp hB).1 hgeo]
  have hexteriors : (exteriorPolys rings geo).countP
        (fun polygon => RingHolds geo polygon.exterior cell)
      = (exteriorRings rings).countP (Inside · cell) := by
    rw [exteriorPolys, List.countP_map]
    refine List.countP_congr fun A hA => ?_
    have hmem := (h.mem_exteriorRings.mp hA).1
    rw [Function.comp_apply, decide_eq_true_eq, decide_eq_true_eq]
    simp only [Polygon.new, LineString.close_eq (closed_toGeoCoords (h.closed hmem) geo)]
    exact h.ringHolds_iff hmem hgeo
  have hin : ∀ pair ∈ (exteriorPolys rings geo).zip holes, ∀ hole ∈ pair.2,
      RingHolds geo hole cell → RingHolds geo pair.1.exterior cell := by
    intro pair hpair hole hhole hheld
    obtain ⟨i, A, hA, heq, hown⟩ := ha.exists_of_mem_zip hpair
    obtain ⟨B, hB, howner, rfl⟩ := (hown hole).mp hhole
    have haround := BoundaryRings.liesAround_of_owner hA howner
    have hAmem := List.mem_of_getElem? hA
    have hmemA := (h.mem_exteriorRings.mp hAmem).1
    have hmemB := (h.mem_holeRings.mp hB).1
    rw [heq]
    simp only [Polygon.new, LineString.close_eq (closed_toGeoCoords (h.closed hmemA) geo)]
    rw [h.ringHolds_iff hmemA hgeo]
    exact h.inside_of_liesAround hmemA hmemB (h.ne_of_exterior_hole hAmem hB) haround
      ((h.ringHolds_iff hmemB hgeo).mp hheld)
  have hcount := countP_covers (exteriorPolys rings geo)
    (ha.length_eq.trans (by rw [exteriorPolys, List.length_map]))
    (fun _ hhole => ha.closed_of_mem h hhole)
    (hholes ▸ h.countP_holes_le_one hsingle cell) hin
  -- as many exteriors as holes go around a cell, and one more around a cell of the mask
  have hwind := h.countP_wind ((cell.row : ℤ), (cell.col : ℤ))
  rw [hholes, hexteriors] at hcount
  rw [if_congr CatchmentMask.cell_iff rfl rfl] at hwind
  change (exteriorRings rings).countP (Inside · cell)
    = (holeRings rings).countP (Inside · cell) + if mask.Includes cell then 1 else 0 at hwind
  rw [finishedPolygons]
  omega

private theorem eq_of_countP_le_one {α : Type*} {p : α → Bool} {l : List α} (h : l.countP p ≤ 1)
    {a b : α} (ha : a ∈ l) (hb : b ∈ l) (hpa : p a) (hpb : p b) : a = b := by
  rw [List.countP_eq_length_filter] at h
  have ha' : a ∈ l.filter p := List.mem_filter.mpr ⟨ha, hpa⟩
  have hb' : b ∈ l.filter p := List.mem_filter.mpr ⟨hb, hpb⟩
  match hl : l.filter p, h with
  | [], _ => exact absurd (hl ▸ ha') List.not_mem_nil
  | [c], _ =>
    rw [hl, List.mem_singleton] at ha' hb'
    rw [ha', hb']
  | _ :: _ :: _, h => exact absurd h (by simp)

/-- Rings oriented for native coordinates enclose each other as the boundary rings do. -/
theorem encloses_iff (hgeo : geo.Invertible) (h : BoundaryRings mask rings) {A B : List Corner}
    (hA : A ∈ rings) (hB : B ∈ rings) {outer inner : List NativeCoord}
    (houter : outer = orientExterior (toGeoCoords A geo))
    (hinner : inner = orientExterior (toGeoCoords B geo) ∨ inner = orientHole (toGeoCoords B geo)) :
    Encloses geo outer inner ↔ ∀ cell, Inside B cell → Inside A cell := by
  refine forall_congr' fun cell => ?_
  have hout : RingHolds geo outer cell ↔ Inside A cell := by
    rw [houter, ← h.ringHolds_iff hA hgeo]
    exact windingNumber_orientExterior_ne_zero
  have hin : RingHolds geo inner cell ↔ Inside B cell := by
    rw [← h.ringHolds_iff hB hgeo]
    rcases hinner with rfl | rfl
    · exact windingNumber_orientExterior_ne_zero
    · exact windingNumber_orientHole_ne_zero
  rw [hout, hin]

/-- Where no hole lies inside two exteriors, the result is correct. -/
theorem nestingCorrect_finishedPolygons (hgeo : geo.Invertible) (h : BoundaryRings mask rings)
    (ha : HolesAssigned rings geo holes)
    (hsingle : ∀ hole ∈ holeRings rings, (exteriorRings rings).countP (LiesAround · hole) ≤ 1) :
    NestingCorrect mask geo (finishedPolygons rings geo holes) := by
  have hcount := countP_finishedPolygons hgeo h ha hsingle
  have harea : ∀ ring ∈ rings, geoSignedAreaLs (toGeoCoords ring geo) ≠ 0 := by
    intro ring hring
    rw [geoSignedAreaLs_toGeoCoords (h.closed hring)]
    exact mul_ne_zero (mul_ne_zero hgeo.1 hgeo.2) (h.shoelaceArea_ne_zero hring)
  refine ⟨fun cell hcell => ?_, fun cell hcell polygon hmem hcovers => ?_,
    fun polygon hmem => ?_, fun polygon hmem hole hhole => ?_, fun polygon hmem hole hhole => ?_⟩
  · rw [hcount, if_pos hcell]
  · have hzero := hcount cell
    rw [if_neg hcell] at hzero
    exact List.countP_eq_zero.mp hzero polygon hmem (by simpa using hcovers)
  · obtain ⟨i, A, hA, hext, -⟩ := ha.exists_of_mem h hmem
    rw [hext]
    exact geoSignedAreaLs_orientExterior
      (harea A (h.mem_exteriorRings.mp (List.mem_of_getElem? hA)).1)
  · obtain ⟨i, A, -, -, hown⟩ := ha.exists_of_mem h hmem
    obtain ⟨B, hB, -, rfl⟩ := (hown hole).mp hhole
    exact geoSignedAreaLs_orientHole (harea B (h.mem_holeRings.mp hB).1)
  · obtain ⟨i, A, hA, hext, hown⟩ := ha.exists_of_mem h hmem
    obtain ⟨B, hB, howner, rfl⟩ := (hown hole).mp hhole
    have haround := BoundaryRings.liesAround_of_owner hA howner
    have hAmem := List.mem_of_getElem? hA
    have hmemA := (h.mem_exteriorRings.mp hAmem).1
    have hmemB := (h.mem_holeRings.mp hB).1
    refine ⟨?_, fun other hother henc => ?_⟩
    · rw [encloses_iff hgeo h hmemA hmemB hext (.inr rfl)]
      exact fun cell => h.inside_of_liesAround hmemA hmemB (h.ne_of_exterior_hole hAmem hB) haround
    · obtain ⟨j, C, hC, hext', -⟩ := ha.exists_of_mem h hother
      have hCmem := List.mem_of_getElem? hC
      have hmemC := (h.mem_exteriorRings.mp hCmem).1
      rw [encloses_iff hgeo h hmemC hmemB hext' (.inr rfl)] at henc
      have haround' := h.liesAround_hole_of_inside hmemC hB (h.ne_of_exterior_hole hCmem hB) henc
      -- only one exterior lies around the hole
      obtain rfl : A = C := eq_of_countP_le_one (hsingle B hB) hAmem hCmem
        (by simpa using haround) (by simpa using haround')
      rw [hext, hext']
      exact fun _ => id

/-- The first exterior around a hole is the outermost one, so a correct result has no hole
inside two exteriors. -/
theorem countP_around_le_one (hgeo : geo.Invertible) (h : BoundaryRings mask rings)
    (ha : HolesAssigned rings geo holes)
    (hcorrect : NestingCorrect mask geo (finishedPolygons rings geo holes)) :
    ∀ hole ∈ holeRings rings, (exteriorRings rings).countP (LiesAround · hole) ≤ 1 := by
  intro B hB
  have hmemB := (h.mem_holeRings.mp hB).1
  obtain ⟨i, howner, -⟩ := h.exists_ownerIndex hmemB
  obtain ⟨A, hA, haround, hfirst⟩ := BoundaryRings.ownerIndex_eq_some howner
  obtain ⟨polygon, hpoly, hext, hown⟩ := ha.exists_polygon h hA
  have hAmem := List.mem_of_getElem? hA
  have hmemA := (h.mem_exteriorRings.mp hAmem).1
  have honly : ∀ C ∈ exteriorRings rings, LiesAround C B → C = A := by
    intro C hCmem haround'
    obtain ⟨j, hC⟩ := List.mem_iff_getElem?.mp hCmem
    have hmemC := (h.mem_exteriorRings.mp hCmem).1
    obtain ⟨other, hother, hext', -⟩ := ha.exists_polygon h hC
    have hclosest := (hcorrect.closest polygon (List.mem_of_getElem? hpoly) _
      ((hown _).mpr ⟨B, hB, howner, rfl⟩)).2 other (List.mem_of_getElem? hother)
    rw [encloses_iff hgeo h hmemC hmemB hext' (.inr rfl),
      encloses_iff hgeo h hmemC hmemA hext' (.inl hext)] at hclosest
    have hCA := h.liesAround_of_inside hAmem (hclosest fun cell =>
      h.inside_of_liesAround hmemC hmemB (h.ne_of_exterior_hole hCmem hB) haround')
    rcases lt_trichotomy i j with hlt | rfl | hlt
    · exact absurd hCA (h.not_liesAround_of_lt hlt hA hC)
    · exact Option.some.inj (hC.symm.trans hA)
    · exact absurd haround' (hfirst j hlt C hC)
  calc (exteriorRings rings).countP (LiesAround · B)
      ≤ (exteriorRings rings).countP (· == A) := List.countP_mono_left fun C hC hB => by
        simpa using honly C hC (by simpa using hB)
    _ ≤ 1 := List.nodup_iff_count_le_one.mp (h.nodup.filter _) A

end Result

/-- **When the nesting is correct**: `polygonize` always returns, and its result is correct
exactly when no hole of the mask lies inside two exteriors. -/
theorem polygonize_nesting_iff {contains : Polygon → NativeCoord → Bool}
    (hcontains : ContainsIsStrict contains) (mask : CatchmentMask) {geo : GeoTransform}
    (hwidth : 0 < geo.pixelWidth) (hheight : geo.pixelHeight < 0) :
    ∃ result, polygonize contains mask geo = .ok result ∧
      (NestingCorrect mask geo (result.getD []) ↔ SingleOwners mask) := by
  have hgeo : geo.Invertible := ⟨hwidth.ne', hheight.ne⟩
  by_cases hmask : ∃ cell, mask.Includes cell
  · obtain ⟨rings, holes, hrings, h, ha, hresult⟩ := exists_polygonize hcontains hgeo hmask
    refine ⟨_, hresult, fun hcorrect rings' hrings' => ?_, fun hsingle => ?_⟩
    · obtain rfl := Except.ok.inj (hrings.symm.trans hrings')
      exact countP_around_le_one hgeo h ha hcorrect
    · exact nestingCorrect_finishedPolygons hgeo h ha (hsingle rings hrings)
  · push Not at hmask
    refine ⟨none, polygonize_eq_none hmask, fun _ rings hrings hole hhole => ?_, fun _ => ?_⟩
    · obtain ⟨rings', hrings', h⟩ := exists_boundaryRings mask
      obtain rfl := Except.ok.inj (hrings.symm.trans hrings')
      have hcell := h.family.mem_firstCell (List.mem_map_of_mem (h.mem_holeRings.mp hhole).1)
      exact absurd hcell.2.2 (hmask _)
    · exact ⟨fun cell hcell => absurd hcell (hmask cell), fun _ _ _ hmem => (nomatch hmem),
        fun _ hmem => (nomatch hmem), fun _ hmem => (nomatch hmem), fun _ hmem => (nomatch hmem)⟩

/-- A ring of cells around a hole. -/
def donut : CatchmentMask where
  data := [true, true, true, true, false, true, true, true, true]
  rows := 3
  cols := 3
  length_data := rfl

theorem polygonize_nesting_donut : ∃ result,
    polygonize strictContains donut GeoTransform.northUp = .ok result ∧
      NestingCorrect donut GeoTransform.northUp (result.getD []) :=
  let ⟨result, hresult, hiff⟩ := polygonize_nesting_iff strictContains_isStrict donut
    (show 0 < GeoTransform.northUp.pixelWidth by decide) (by decide)
  ⟨result, hresult, hiff.mpr (by decide +kernel)⟩

/-- A donut inside the hole of a larger one. -/
def nestedDonuts : CatchmentMask where
  data :=
    [true, true, true, true, true, true, true,
     true, false, false, false, false, false, true,
     true, false, true, true, true, false, true,
     true, false, true, false, true, false, true,
     true, false, true, true, true, false, true,
     true, false, false, false, false, false, true,
     true, true, true, true, true, true, true]
  rows := 7
  cols := 7
  length_data := rfl

/-- The inner hole goes to the outer exterior, so the polygon of the inner donut covers a cell
that is not in the mask. -/
theorem polygonize_nestedDonuts : ¬∃ result,
    polygonize strictContains nestedDonuts GeoTransform.northUp = .ok result ∧
      NestingCorrect nestedDonuts GeoTransform.northUp (result.getD []) := by
  have hcover : (match polygonize strictContains nestedDonuts GeoTransform.northUp with
      | .ok result => (result.getD []).any fun polygon => polygon.Covers GeoTransform.northUp ⟨3, 3⟩
      | .error _ => true) = true := by decide +kernel
  have hcell : ¬nestedDonuts.Includes ⟨3, 3⟩ := by decide
  rintro ⟨result, hresult, hcorrect⟩
  rw [hresult] at hcover
  obtain ⟨polygon, hmem, hcovers⟩ := List.any_eq_true.mp hcover
  exact hcorrect.uncovered ⟨3, 3⟩ hcell polygon hmem (by simpa using hcovers)

end WatershedDelineation
