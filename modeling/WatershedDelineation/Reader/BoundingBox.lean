import WatershedDelineation.Drainage.Graph
import WatershedDelineation.General.Binary32
import WatershedDelineation.General.RowGroups

/-!
# Bounding boxes and row group statistics

The types of the `hfx` crate that the readers build rows of, and the boxes of row groups. The
statistics of a row group give a box that holds the boxes of its rows
(`BboxStats.within_of_bounds`), as long as they bound the values of the columns. Stores keep the
boxes of the groups that have one, and the numbers of the others (`RowGroupIndex`).
-/

namespace WatershedDelineation

/-! ### Bounding boxes -/

/-- A finite box with strictly increasing axes. -/
structure BoundingBox where
  minx : F32
  miny : F32
  maxx : F32
  maxy : F32
  finite : minx.isFinite ∧ miny.isFinite ∧ maxx.isFinite ∧ maxy.isFinite
  lt_x : minx.lt maxx
  lt_y : miny.lt maxy
  deriving DecidableEq, Repr

/-- A box is made of four values. -/
def BoundingBox.Holds (bbox : BoundingBox) (minx miny maxx maxy : F32) : Prop :=
  bbox.minx = minx ∧ bbox.miny = miny ∧ bbox.maxx = maxx ∧ bbox.maxy = maxy

/-- A box lies in a box; the boundaries may touch. -/
def BoundingBox.Within (inner outer : BoundingBox) : Prop :=
  outer.minx.le inner.minx ∧ outer.miny.le inner.miny ∧ inner.maxx.le outer.maxx ∧
    inner.maxy.le outer.maxy

/-! ### The crate -/

/-- A double precision bit pattern. -/
structure F64 where
  bits : BitVec 64
  deriving DecidableEq, Repr

/-- An area in square kilometres. -/
structure AreaKm2 where
  value : F32
  deriving DecidableEq, Repr

/-- The coordinates of an outlet. -/
structure OutletCoord where
  lon : F64
  lat : F64
  deriving DecidableEq, Repr

/-- The identifier of a snap target. -/
structure SnapId where
  raw : Int
  deriving DecidableEq, Repr

/-- The weight of a snap target. -/
structure Weight where
  value : F32
  deriving DecidableEq, Repr

/-- The role of a stem. -/
structure StemRole where
  name : String
  deriving DecidableEq, Repr

/-- Well-known binary. -/
structure WkbGeometry where
  bytes : List UInt8
  deriving DecidableEq, Repr

/-- The validating constructors of the `hfx` crate, with the texts of their errors, and its test
whether two boxes intersect.

`BoundingBox::new` may refuse any values, for instance those that are no longitude or latitude. What
it accepts is a box, so it is finite with strictly increasing axes, and `boundingBox_holds` says
that the box is made of the values. -/
structure Hfx where
  unitId : Int → Except String UnitId
  level : Int → Except String Level
  areaKm2 : F32 → Except String AreaKm2
  outletCoord : F64 → F64 → Except String OutletCoord
  wkbGeometry : List UInt8 → Except String WkbGeometry
  snapId : Int → Except String SnapId
  weight : F32 → Except String Weight
  stemRole : String → Option StemRole
  boundingBox : F32 → F32 → F32 → F32 → Except String BoundingBox
  boundingBox_holds : ∀ {minx miny maxx maxy bbox}, boundingBox minx miny maxx maxy = .ok bbox →
    bbox.Holds minx miny maxx maxy
  intersects : BoundingBox → BoundingBox → Bool

namespace Hfx

variable (hfx : Hfx)

/-- The constructor refuses nothing that can be a box. -/
def AcceptsBoxes : Prop :=
  ∀ bbox : BoundingBox, hfx.boundingBox bbox.minx bbox.miny bbox.maxx bbox.maxy = .ok bbox

/-- What intersects a part of a box intersects the box. -/
def IntersectsMono : Prop :=
  ∀ inner outer query, inner.Within outer → hfx.intersects inner query → hfx.intersects outer query

end Hfx

/-- Two boxes have a point in common; boundaries count. -/
def BoundingBox.meets (bbox other : BoundingBox) : Bool :=
  bbox.minx.le other.maxx && other.minx.le bbox.maxx && bbox.miny.le other.maxy &&
    other.miny.le bbox.maxy

/-- Having a point in common is monotone. -/
theorem Hfx.intersectsMono_of_meets {hfx : Hfx} (h : hfx.intersects = BoundingBox.meets) :
    hfx.IntersectsMono := by
  rintro inner outer query ⟨hminx, hminy, hmaxx, hmaxy⟩ hmeets
  simp only [h, BoundingBox.meets, Bool.and_eq_true] at hmeets ⊢
  obtain ⟨⟨⟨hleft, hright⟩, hbottom⟩, htop⟩ := hmeets
  exact ⟨⟨⟨F32.le_trans hminx hleft, F32.le_trans hright hmaxx⟩, F32.le_trans hminy hbottom⟩,
    F32.le_trans htop hmaxy⟩

/-- The box of four values, if it is one. -/
def BoundingBox.ofValues (minx miny maxx maxy : F32) : Except String BoundingBox :=
  if h : (minx.isFinite ∧ miny.isFinite ∧ maxx.isFinite ∧ maxy.isFinite) ∧
      minx.lt maxx ∧ miny.lt maxy then
    .ok ⟨minx, miny, maxx, maxy, h.1, h.2.1, h.2.2⟩
  else .error "invalid bounding box"

theorem BoundingBox.holds_of_ofValues {minx miny maxx maxy : F32} {bbox : BoundingBox}
    (h : ofValues minx miny maxx maxy = .ok bbox) : bbox.Holds minx miny maxx maxy := by
  rw [ofValues] at h
  split_ifs at h
  obtain rfl := Except.ok.inj h
  exact ⟨rfl, rfl, rfl, rfl⟩

/-- A crate that accepts all values, of boxes those that can be one. -/
def permissiveHfx : Hfx where
  unitId raw := .ok ⟨raw⟩
  level raw := .ok ⟨raw⟩
  areaKm2 value := .ok ⟨value⟩
  outletCoord lon lat := .ok ⟨lon, lat⟩
  wkbGeometry bytes := .ok ⟨bytes⟩
  snapId raw := .ok ⟨raw⟩
  weight value := .ok ⟨value⟩
  stemRole name := some ⟨name⟩
  boundingBox := BoundingBox.ofValues
  boundingBox_holds := BoundingBox.holds_of_ofValues
  intersects := BoundingBox.meets

theorem acceptsBoxes_permissiveHfx : permissiveHfx.AcceptsBoxes := fun bbox =>
  dif_pos ⟨bbox.finite, bbox.lt_x, bbox.lt_y⟩

/-! ### Statistics of row groups -/

/-- The statistics of a column of floats in a row group. -/
structure ColumnStats where
  min : Option F32
  max : Option F32
  deriving DecidableEq, Repr

/-- The statistics of the four columns of boxes in a row group; a column may have none. -/
structure BboxStats where
  minx : Option ColumnStats
  miny : Option ColumnStats
  maxx : Option ColumnStats
  maxy : Option ColumnStats
  deriving DecidableEq, Repr

/-- The box of a row group, unless a bound is missing or the crate refuses the bounds. -/
def extractRowGroupBbox (hfx : Hfx) (stats : BboxStats) : Option BoundingBox := do
  let minx ← (← stats.minx).min
  let miny ← (← stats.miny).min
  let maxx ← (← stats.maxx).max
  let maxy ← (← stats.maxy).max
  (hfx.boundingBox minx miny maxx maxy).toOption

/-- The statistics bound the values of the column. True minima and maxima do; a NaN is not
counted. -/
def ColumnStats.bounds (stats : ColumnStats) (values : List F32) : Bool :=
  values.all fun value => value.isNaN || (stats.min.all (·.le value) && stats.max.all (value.le ·))

/-- The four values that a row stores of its box; any may be null. -/
structure BboxLeaves where
  xmin : Option F32
  ymin : Option F32
  xmax : Option F32
  ymax : Option F32
  deriving DecidableEq, Repr

/-- The box of stored values, if none is null and the crate accepts them. -/
def BboxLeaves.bbox (hfx : Hfx) (leaves : BboxLeaves) : Option BoundingBox := do
  (hfx.boundingBox (← leaves.xmin) (← leaves.ymin) (← leaves.xmax) (← leaves.ymax)).toOption

/-- The statistics bound the values that rows store. -/
def BboxStats.bounds (stats : BboxStats) (rows : List BboxLeaves) : Bool :=
  stats.minx.all (·.bounds (rows.filterMap BboxLeaves.xmin)) &&
    stats.miny.all (·.bounds (rows.filterMap BboxLeaves.ymin)) &&
    stats.maxx.all (·.bounds (rows.filterMap BboxLeaves.xmax)) &&
    stats.maxy.all (·.bounds (rows.filterMap BboxLeaves.ymax))

private theorem le_of_column_bounds {stats : ColumnStats} {rows : List BboxLeaves}
    {leaf : BboxLeaves → Option F32} (h : stats.bounds (rows.filterMap leaf)) {leaves : BboxLeaves}
    (hleaves : leaves ∈ rows) {value : F32} (hvalue : leaf leaves = some value)
    (hfinite : value.isFinite) :
    (∀ m, stats.min = some m → m.le value) ∧ ∀ m, stats.max = some m → value.le m := by
  have hle := List.all_eq_true.mp h value (List.mem_filterMap.mpr ⟨leaves, hleaves, hvalue⟩)
  rw [F32.isNaN_of_isFinite hfinite, Bool.false_or, Bool.and_eq_true] at hle
  exact ⟨fun m hm => by simpa [hm] using hle.1, fun m hm => by simpa [hm] using hle.2⟩

/-- The box of a row group holds the values that its rows store. -/
theorem BboxStats.le_of_bounds {hfx : Hfx} {stats : BboxStats} {rows : List BboxLeaves}
    (h : stats.bounds rows) {group : BoundingBox}
    (hgroup : extractRowGroupBbox hfx stats = some group)
    {xmin ymin xmax ymax : F32} (hleaves : ⟨some xmin, some ymin, some xmax, some ymax⟩ ∈ rows)
    (hfinite : xmin.isFinite ∧ ymin.isFinite ∧ xmax.isFinite ∧ ymax.isFinite) :
    group.minx.le xmin ∧ group.miny.le ymin ∧ xmax.le group.maxx ∧ ymax.le group.maxy := by
  simp only [extractRowGroupBbox, Option.bind_eq_bind, Option.bind_eq_some_iff] at hgroup
  obtain ⟨sminx, hsminx, minx', hminx', sminy, hsminy, miny', hminy', smaxx, hsmaxx, maxx', hmaxx',
    smaxy, hsmaxy, maxy', hmaxy', hnew⟩ := hgroup
  obtain ⟨rfl, rfl, rfl, rfl⟩ := hfx.boundingBox_holds (Checks.toOption_eq_some_iff.mp hnew)
  simp only [BboxStats.bounds, hsminx, hsminy, hsmaxx, hsmaxy, Option.all_some,
    Bool.and_eq_true] at h
  obtain ⟨⟨⟨hminx, hminy⟩, hmaxx⟩, hmaxy⟩ := h
  obtain ⟨hfminx, hfminy, hfmaxx, hfmaxy⟩ := hfinite
  exact ⟨(le_of_column_bounds hminx hleaves rfl hfminx).1 _ hminx',
    (le_of_column_bounds hminy hleaves rfl hfminy).1 _ hminy',
    (le_of_column_bounds hmaxx hleaves rfl hfmaxx).2 _ hmaxx',
    (le_of_column_bounds hmaxy hleaves rfl hfmaxy).2 _ hmaxy'⟩

/-- **The box of a row group** holds the boxes of its rows. -/
theorem BboxStats.within_of_bounds {hfx : Hfx} {stats : BboxStats} {rows : List BboxLeaves}
    (h : stats.bounds rows) {group bbox : BoundingBox}
    (hgroup : extractRowGroupBbox hfx stats = some group) {leaves : BboxLeaves}
    (hleaves : leaves ∈ rows) (hbbox : leaves.bbox hfx = some bbox) : bbox.Within group := by
  simp only [BboxLeaves.bbox, Option.bind_eq_bind, Option.bind_eq_some_iff] at hbbox
  obtain ⟨xmin, hxmin, ymin, hymin, xmax, hxmax, ymax, hymax, hnew⟩ := hbbox
  obtain ⟨rfl, rfl, rfl, rfl⟩ := hfx.boundingBox_holds (Checks.toOption_eq_some_iff.mp hnew)
  rw [show leaves = ⟨leaves.xmin, leaves.ymin, leaves.xmax, leaves.ymax⟩ from rfl, hxmin, hymin,
    hxmax, hymax] at hleaves
  exact BboxStats.le_of_bounds h hgroup hleaves bbox.finite

/-! ### The index of row groups -/

/-- A row group with its box. -/
structure RowGroupBbox where
  index : ℕ
  bbox : BoundingBox
  deriving DecidableEq, Repr

/-- The row groups with boxes, and the numbers of those without. -/
structure RowGroupIndex where
  rowGroups : List RowGroupBbox
  groupsWithoutStats : List ℕ
  deriving DecidableEq, Repr

namespace RowGroupIndex

/-- The index of the boxes of row groups. -/
def build (bboxes : List (Option BoundingBox)) : RowGroupIndex where
  rowGroups := bboxes.zipIdx.filterMap fun (bbox, i) => bbox.map fun bbox => ⟨i, bbox⟩
  groupsWithoutStats := bboxes.zipIdx.filterMap fun (bbox, i) =>
    if bbox.isNone then some i else none

/-- The row groups that may have rows in a box: those whose boxes intersect it, then those without
boxes. -/
def candidates (index : RowGroupIndex) (intersects : BoundingBox → Bool) : List ℕ :=
  (index.rowGroups.filter fun rowGroup => intersects rowGroup.bbox).map RowGroupBbox.index ++
    index.groupsWithoutStats

variable {bboxes : List (Option BoundingBox)} {intersects : BoundingBox → Bool} {i : ℕ}

/-- A row group is a candidate unless its box does not intersect. -/
theorem mem_candidates_build : i ∈ (build bboxes).candidates intersects ↔
    i < bboxes.length ∧ bboxes[i]?.any (Option.all intersects) := by
  have hany : bboxes[i]?.any (Option.all intersects) ↔
      ∃ bbox, bboxes[i]? = some bbox ∧ bbox.all intersects := by
    rw [Option.any_eq_true]
  rw [hany, and_iff_right_of_imp fun ⟨_, h, _⟩ => (List.getElem?_eq_some_iff.mp h).1]
  simp only [candidates, build, List.mem_append, List.mem_map, List.mem_filter, List.mem_filterMap,
    Prod.exists, List.mem_zipIdx_iff_getElem?]
  constructor
  · rintro (⟨rowGroup, ⟨⟨bbox, j, hj, hrowGroup⟩, hintersects⟩, rfl⟩ | ⟨bbox, j, hj, hnone⟩)
    · obtain ⟨bbox', rfl, rfl⟩ := Option.map_eq_some_iff.mp hrowGroup
      exact ⟨_, hj, hintersects⟩
    · obtain ⟨hisNone, hji⟩ := Option.ite_none_right_eq_some.mp hnone
      obtain rfl := Option.some.inj hji
      obtain rfl := Option.isNone_iff_eq_none.mp hisNone
      exact ⟨_, hj, rfl⟩
  · rintro ⟨bbox, hi, hall⟩
    cases bbox with
    | none => exact .inr ⟨none, i, hi, rfl⟩
    | some bbox => exact .inl ⟨⟨i, bbox⟩, ⟨⟨some bbox, i, hi, rfl⟩, hall⟩, rfl⟩

/-- A row group that is not a candidate has a box, which does not intersect. -/
theorem exists_bbox_of_not_candidate (hi : i < bboxes.length)
    (h : bboxes[i]?.any (Option.all intersects) = false) :
    ∃ bbox, bboxes[i]? = some (some bbox) ∧ intersects bbox = false := by
  rw [List.getElem?_eq_getElem hi] at h ⊢
  cases hbbox : bboxes[i] with
  | none => simp [hbbox] at h
  | some bbox => exact ⟨bbox, rfl, by simpa [hbbox] using h⟩

private theorem filterMap_sublist_map {α β γ : Type} {l : List α} {f : α → Option β} {g : β → γ}
    {h : α → γ} (hf : ∀ a b, f a = some b → g b = h a) :
    ((l.filterMap f).map g).Sublist (l.map h) := by
  induction l with
  | nil => exact .slnil
  | cons a l ih =>
    cases ha : f a with
    | none =>
      rw [List.filterMap_cons_none ha]
      exact ih.cons _
    | some b =>
      rw [List.filterMap_cons_some ha, List.map_cons, List.map_cons, hf a b ha]
      exact ih.cons_cons _

/-- No row group is a candidate twice. -/
theorem nodup_candidates_build : ((build bboxes).candidates intersects).Nodup := by
  have hrange : (bboxes.zipIdx.map Prod.snd).Nodup := by
    rw [List.zipIdx_map_snd, ← List.range_eq_range']
    exact List.nodup_range
  refine List.nodup_append'.mpr ⟨?_, ?_, ?_⟩
  · refine (hrange.sublist (filterMap_sublist_map (g := RowGroupBbox.index) ?_)).sublist
      (List.filter_sublist.map _)
    rintro ⟨bbox, i⟩ rowGroup h
    obtain ⟨_, _, rfl⟩ := Option.map_eq_some_iff.mp h
    rfl
  · rw [← List.map_id (build bboxes).groupsWithoutStats]
    refine hrange.sublist (filterMap_sublist_map ?_)
    rintro ⟨bbox, i⟩ j h
    exact (Option.some.inj (Option.ite_none_right_eq_some.mp h).2).symm
  · -- a group has a box or has none
    intro i hbox hnone
    obtain ⟨rowGroup, hrowGroup, rfl⟩ := List.mem_map.mp hbox
    obtain ⟨⟨bbox, j⟩, hj, hsome⟩ := List.mem_filterMap.mp (List.mem_of_mem_filter hrowGroup)
    obtain ⟨bbox', rfl, rfl⟩ := Option.map_eq_some_iff.mp hsome
    obtain ⟨⟨bbox, k⟩, hk, hisome⟩ := List.mem_filterMap.mp hnone
    obtain ⟨hisNone, hkj⟩ := Option.ite_none_right_eq_some.mp hisome
    obtain rfl := Option.some.inj hkj
    obtain rfl := Option.isNone_iff_eq_none.mp hisNone
    rw [List.mem_zipIdx_iff_getElem?] at hj hk
    exact absurd (hj.symm.trans hk) (by simp)

end RowGroupIndex

end WatershedDelineation
