import WatershedDelineation.Assembly.FloatGeometry
import WatershedDelineation.Drainage.Delineation

/-!
# The reaches of a watershed

`upstream_reaches` of `engine.rs` asks the snap file for the targets in the rectangle of the units
of a watershed (`watershedBbox`), and keeps those of the units. The rectangle is narrowed to single
precision, as stored boxes are.

If every reach touches its unit, the query finds all reaches of the units, each once
(`upstreamReaches_exact`): narrowing is monotone, so what touches before touches after. This also
holds for boxes that are padded because they are degenerate. A rectangle that the crate refuses when
it is narrowed, for instance because it is degenerate then, is reported.
-/

namespace WatershedDelineation

/-! ### Lengths -/

/-- A decoded geometry; one that is no line is only named. -/
inductive ReachGeometry
  | lineString (line : List FloatCoord)
  | multiLineString (lines : List (List FloatCoord))
  | other (variantName : String)
  deriving DecidableEq, Repr

inductive ChannelLengthError
  | notLinear (geometryType : String)
  | nonFiniteLength (rawM : F64)
  deriving DecidableEq, Repr

/-- A length in kilometres. -/
structure ChannelLengthKm where
  km : F64
  deriving DecidableEq, Repr

/-- What the crates compute of lines: decoded geometries and geodesic lengths in metres. -/
structure LineCrate where
  decodeWkb : WkbGeometry → Except WkbDecodeError ReachGeometry
  lineLength : List FloatCoord → F64
  linesLength : List (List FloatCoord) → F64

/-- Kilometres in a metre. -/
def mToKm : F64 := ⟨0x3f50624dd2f1a9fc⟩

/-- The length of a line; other geometries have none. -/
def geodesicChannelLength (lines : LineCrate) (geometry : ReachGeometry) :
    Except ChannelLengthError ChannelLengthKm := do
  let lengthM ← match geometry with
    | .lineString line => .ok (lines.lineLength line)
    | .multiLineString parts => .ok (lines.linesLength parts)
    | .other variantName => .error (.notLinear variantName)
  if ¬Binary64.isFinite lengthM.bits then .error (.nonFiniteLength lengthM)
  else .ok ⟨⟨Binary64.mul lengthM.bits mToKm.bits⟩⟩

/-! ### Reaches -/

/-- The units of a delineation, with the terminal first. -/
structure PreMergeDrainageUnits (P : Type) where
  terminal : UnitId
  selectedLevel : Level
  units : List (PreMergeDrainageUnit P)

structure DrainageReach where
  snapId : SnapId
  unitId : UnitId
  stemRole : Option StemRole
  weight : Weight
  length : ChannelLengthKm
  geometry : ReachGeometry
  geometryWkb : List UInt8
  deriving DecidableEq, Repr

structure UpstreamReaches where
  terminal : UnitId
  selectedLevel : Level
  reaches : List DrainageReach
  deriving DecidableEq, Repr

/-- The errors of the engine for reaches. -/
inductive ReachError
  | noSnapAuxForLevel (level : Int)
  | reachQuery (unitId : Int) (source : SessionError)
  | reachDecode (snapId : Int) (source : WkbDecodeError)
  | reachLength (snapId : Int) (source : ChannelLengthError)
  deriving DecidableEq, Repr

/-- What the crates compute of the polygons of units, and how numbers are narrowed and displayed.
The program narrows with `F32.ofBinary64`. -/
structure UnitCrate (P : Type) where
  boundingRect : List P → Option FloatRect
  rectNew : FloatCoord → FloatCoord → FloatRect
  narrow : F64 → F32
  display : F32 → String

section Engine

variable {P : Type} (crate : UnitCrate P) (hfx : Hfx)

/-- The rectangle of the units so far, with another unit. -/
def extendBounds (bounds : Option FloatRect) (unit : PreMergeDrainageUnit P) : Option FloatRect :=
  match crate.boundingRect unit.geometry with
  | none => bounds
  | some rect => some <| match bounds with
    | none => rect
    | some acc => crate.rectNew
        ⟨F64.min acc.min.x rect.min.x, F64.min acc.min.y rect.min.y⟩
        ⟨F64.max acc.max.x rect.max.x, F64.max acc.max.y rect.max.y⟩

/-- The rectangle of all units. -/
def unionBounds (units : PreMergeDrainageUnits P) : Option FloatRect :=
  units.units.foldl (extendBounds crate) none

/-- The box that is queried; there is none without geometries. -/
def watershedBbox (units : PreMergeDrainageUnits P) : Except ReachError (Option BoundingBox) :=
  match unionBounds crate units with
  | none => .ok none
  | some rect =>
    let minx := crate.narrow rect.min.x
    let miny := crate.narrow rect.min.y
    let maxx := crate.narrow rect.max.x
    let maxy := crate.narrow rect.max.y
    ((hfx.boundingBox minx miny maxx maxy).map some).mapError fun source =>
      .reachQuery units.terminal.raw (.integrityViolation
        (s!"watershed bbox ({crate.display minx}, {crate.display miny}, {crate.display maxx}, "
          ++ s!"{crate.display maxy}) is not a valid query rectangle: {source}"))

/-- The reach of a snap target. -/
def reachOf (lines : LineCrate) (target : SnapTarget) : Except ReachError DrainageReach := do
  let geometry ← (lines.decodeWkb target.geometry).mapError (.reachDecode target.id.raw)
  let length ← (geodesicChannelLength lines geometry).mapError (.reachLength target.id.raw)
  .ok ⟨target.id, target.unitId, target.stemRole, target.weight, length, geometry,
    target.geometry.bytes⟩

/-- The reaches of a watershed. -/
def upstreamReaches (lines : LineCrate) (decodeWkb : WkbGeometry → Except String SnapGeometry)
    (snapForLevel : Level → Option SnapTable) (units : PreMergeDrainageUnits P) :
    Except ReachError UpstreamReaches := do
  let store ← Checks.okOr (snapForLevel units.selectedLevel)
    (.noSnapAuxForLevel units.selectedLevel.raw)
  match ← watershedBbox crate hfx units with
  | none => .ok ⟨units.terminal, units.selectedLevel, []⟩
  | some queryBbox =>
    let memberIds := units.units.map PreMergeDrainageUnit.id
    let targets ← (store.queryByBbox hfx decodeWkb queryBbox).mapError
      (.reachQuery units.terminal.raw)
    let reaches ← (targets.filter (·.unitId ∈ memberIds)).mapM (reachOf lines)
    .ok ⟨units.terminal, units.selectedLevel, reaches⟩

end Engine

/-! ### Boxes of rows -/

section Rows

variable {hfx : Hfx} {decodeWkb : WkbGeometry → Except String SnapGeometry} {columns : SnapColumns}
  {record : SnapRecord} {target : SnapTarget} {keep : UnitId → Bool}

/-- A row of a unit that is kept. -/
def SnapRecord.ofUnits (hfx : Hfx) (keep : UnitId → Bool) (record : SnapRecord) : Bool :=
  record.unitId.any fun rawUnitId => (hfx.unitId rawUnitId).toOption.any keep

/-- Bounds, which may be degenerate, have a point in common with a box. -/
structure BoundingBox.MeetsBounds (query : BoundingBox) (minx miny maxx maxy : F32) : Prop where
  minx_le : minx.le query.maxx
  miny_le : miny.le query.maxy
  le_maxx : query.minx.le maxx
  le_maxy : query.miny.le maxy

/-- A row that has a target has a box, which begins where the bounds begin and ends where they end
or above, and it is read as the target exactly if the predicate holds of the box. -/
theorem IsSnapTarget.exists_bbox (h : IsSnapTarget hfx decodeWkb columns record target)
    {minx miny maxx maxy : F32}
    (hbounds : record.bounds hfx decodeWkb columns = some (minx, miny, maxx, maxy)) :
    ∃ bbox row, snapBbox hfx minx miny maxx maxy row = .ok bbox ∧
      ∀ p, extractSnapTarget hfx decodeWkb columns 0 record p
        = .ok (if p bbox then some target else none) := by
  simp only [IsSnapTarget, extractSnapTarget, Checks.bind_eq_ok_iff, nonNullSnap, labelledSnap,
    Checks.okOr_eq_ok_iff, Checks.mapError_eq_ok_iff, validateSnapGeometry_eq_ok_iff] at h ⊢
  obtain ⟨rawId, hrawId, rawUnitId, hrawUnitId, rawWeight, hrawWeight, wkb, hwkb, geometry,
    hgeometry, decoded, hdecoded, rowBbox, hrowBbox, hrest⟩ := h
  refine ⟨rowBbox, 0, ?_, fun p => ⟨rawId, hrawId, rawUnitId, hrawUnitId, rawWeight, hrawWeight,
    wkb, hwkb, geometry, hgeometry, decoded, hdecoded, rowBbox, hrowBbox, ?_⟩⟩
  · rw [← snapRowBbox_eq hbounds hwkb hgeometry hdecoded.1]
    exact hrowBbox
  · cases hp : p rowBbox with
    | false => rfl
    | true => exact hrest

/-- A row that has a target is of the unit of the target. -/
theorem IsSnapTarget.ofUnits (h : IsSnapTarget hfx decodeWkb columns record target) :
    record.ofUnits hfx keep = keep target.unitId := by
  simp only [IsSnapTarget, extractSnapTarget, Checks.bind_eq_ok_iff, nonNullSnap, labelledSnap,
    Checks.okOr_eq_ok_iff, Checks.mapError_eq_ok_iff] at h
  obtain ⟨rawId, -, rawUnitId, hrawUnitId, rawWeight, -, wkb, -, geometry, -, decoded, -, rowBbox,
    -, hrest⟩ := h
  rw [Bool.not_true, if_neg Bool.false_ne_true] at hrest
  obtain ⟨id, -, hrest⟩ := Checks.bind_eq_ok_iff.mp hrest
  obtain ⟨unitId, hunitId, hrest⟩ := Checks.bind_eq_ok_iff.mp hrest
  obtain ⟨weight, -, hrest⟩ := Checks.bind_eq_ok_iff.mp hrest
  obtain ⟨stemRole, -, hrest⟩ := Checks.bind_eq_ok_iff.mp hrest
  obtain rfl := Option.some.inj (Except.ok.inj hrest)
  rw [SnapRecord.ofUnits, hrawUnitId, Option.any_some, Checks.mapError_eq_ok_iff.mp hunitId]
  rfl

end Rows

/-! ### Queries for units -/

section Query

variable {hfx : Hfx} {decodeWkb : WkbGeometry → Except String SnapGeometry} {table : SnapTable}
  {query : BoundingBox} {keep : UnitId → Bool}

/-- The rows of units that touch a box are in row groups that a query reads. -/
theorem bboxCandidate_of_meets (hmeets : ∀ a b : BoundingBox, a.meets b → hfx.intersects a b)
    (hstats : table.statsBound) {i : ℕ} (hi : i < table.groups.length) {record : SnapRecord}
    (hrecord : record ∈ RowGroups.groupRows table.groups i) {minx miny maxx maxy : F32}
    (hstored : table.columns.bbox → record.completeBbox table.columns
      = some (minx, miny, maxx, maxy))
    (hfinite : minx.isFinite ∧ miny.isFinite ∧ maxx.isFinite ∧ maxy.isFinite)
    (htouch : query.MeetsBounds minx miny maxx maxy) : table.bboxCandidate hfx query i := by
  by_contra hnot
  rw [snap_length_groups_eq] at hi
  obtain ⟨group, hgroup, hnotIntersects⟩ :=
    RowGroupIndex.exists_bbox_of_not_candidate hi (Bool.eq_false_iff.mpr hnot)
  obtain ⟨rowGroup, hrowGroup, hgroup, hrows⟩ := RowGroups.exists_of_mem_groupRows hgroup hrecord
  obtain ⟨hcolumn, hgroup⟩ := Option.ite_none_right_eq_some.mp hgroup
  have hcomplete := hstored hcolumn
  simp only [SnapRecord.completeBbox, hcolumn, if_true, Option.bind_eq_bind,
    Option.bind_eq_some_iff] at hcomplete
  obtain ⟨leaves, hleaves, xmin, hxmin, ymin, hymin, xmax, hxmax, ymax, hymax, hsome⟩ := hcomplete
  obtain ⟨rfl, rfl, rfl, rfl⟩ := by simpa using Option.some.inj hsome
  have hmem : (⟨some xmin, some ymin, some xmax, some ymax⟩ : BboxLeaves)
      ∈ rowGroup.batches.flatten.filterMap SnapRecord.bbox := by
    refine List.mem_filterMap.mpr ⟨record, hrows, ?_⟩
    rw [hleaves, ← hxmin, ← hymin, ← hxmax, ← hymax]
  obtain ⟨hminx, hminy, hmaxx, hmaxy⟩ :=
    BboxStats.le_of_bounds (List.all_eq_true.mp hstats rowGroup hrowGroup) hgroup hmem hfinite
  have hintersects := hmeets group query (by
    simp only [BoundingBox.meets, Bool.and_eq_true]
    exact ⟨⟨⟨F32.le_trans hminx htouch.minx_le, F32.le_trans htouch.le_maxx hmaxx⟩,
      F32.le_trans hminy htouch.miny_le⟩, F32.le_trans htouch.le_maxy hmaxy⟩)
  rw [hintersects] at hnotIntersects
  cases hnotIntersects

/-- What a file promises: the statistics bound what is stored, every row has a target, and if boxes
are stored, all are complete. -/
structure SnapTable.Sound (hfx : Hfx) (decodeWkb : WkbGeometry → Except String SnapGeometry)
    (table : SnapTable) : Prop where
  statsBound : table.statsBound
  exists_target : ∀ record ∈ table.rows, ∃ target,
    IsSnapTarget hfx decodeWkb table.columns record target
  complete : table.columns.bbox → ∀ record ∈ table.rows,
    (record.completeBbox table.columns).isSome

/-- The box of a row that touches a query meets it, and so does the box of its row group. -/
private theorem meets_of_touch (hmeets : ∀ a b : BoundingBox, a.meets b → hfx.intersects a b)
    (hsound : table.Sound hfx decodeWkb) {record : SnapRecord} (hmem : record ∈ table.rows)
    {minx miny maxx maxy : F32}
    (hbounds : record.bounds hfx decodeWkb table.columns = some (minx, miny, maxx, maxy))
    (htouch : query.MeetsBounds minx miny maxx maxy) {target : SnapTarget}
    (htarget : IsSnapTarget hfx decodeWkb table.columns record target) :
    extractSnapTarget hfx decodeWkb table.columns 0 record (hfx.intersects · query)
        = .ok (some target) ∧
      ∀ i < table.groups.length, record ∈ RowGroups.groupRows table.groups i →
        table.bboxCandidate hfx query i := by
  obtain ⟨bbox, row, hbbox, hextract⟩ := htarget.exists_bbox hbounds
  obtain ⟨rfl, rfl, ⟨hfmaxx, hmaxx⟩, hfmaxy, hmaxy⟩ := le_of_snapBbox hbbox
  have hintersects := hmeets bbox query (by
    simp only [BoundingBox.meets, Bool.and_eq_true]
    exact ⟨⟨⟨htouch.minx_le, F32.le_trans htouch.le_maxx hmaxx⟩, htouch.miny_le⟩,
      F32.le_trans htouch.le_maxy hmaxy⟩)
  refine ⟨by rw [hextract, hintersects, if_pos rfl], fun i hi hrecord => ?_⟩
  obtain ⟨hfminx, hfminy, -, -⟩ := bbox.finite
  refine bboxCandidate_of_meets hmeets hsound.statsBound hi hrecord (fun hcolumn => ?_)
    ⟨hfminx, hfminy, hfmaxx, hfmaxy⟩ htouch
  obtain ⟨stored, hstored⟩ := Option.isSome_iff_exists.mp (hsound.complete hcolumn record hmem)
  rw [SnapRecord.bounds, hstored] at hbounds
  rw [hstored, ← hbounds]
  rfl

/-- **A query finds the rows of units** whose bounds touch the box, each once and in the order of
the file. -/
theorem exists_queryByBbox (hmeets : ∀ a b : BoundingBox, a.meets b → hfx.intersects a b)
    (hsound : table.Sound hfx decodeWkb)
    (hbounds : ∀ record ∈ table.rows, (record.bounds hfx decodeWkb table.columns).isSome)
    (htouch : ∀ record ∈ table.rows, record.ofUnits hfx keep → ∀ minx miny maxx maxy,
      record.bounds hfx decodeWkb table.columns = some (minx, miny, maxx, maxy) →
        query.MeetsBounds minx miny maxx maxy) :
    ∃ targets, table.queryByBbox hfx decodeWkb query = .ok targets ∧
      List.Forall₂ (IsSnapTarget hfx decodeWkb table.columns)
        (table.rows.filter (SnapRecord.ofUnits hfx keep))
        (targets.filter fun target => keep target.unitId) := by
  have hsublist := @RowGroups.scanned_sublist _ table.groups (table.bboxCandidate hfx query)
  have hread (record : SnapRecord) (hrecord : record ∈ table.rows) : ∃ target o,
      IsSnapTarget hfx decodeWkb table.columns record target ∧
      extractSnapTarget hfx decodeWkb table.columns 0 record (hfx.intersects · query) = .ok o ∧
      (o = none ∨ o = some target) := by
    obtain ⟨target, htarget⟩ := hsound.exists_target record hrecord
    obtain ⟨⟨minx, miny, maxx, maxy⟩, hrecordBounds⟩ :=
      Option.isSome_iff_exists.mp (hbounds record hrecord)
    obtain ⟨bbox, -, -, hextract⟩ := htarget.exists_bbox hrecordBounds
    refine ⟨target, _, htarget, hextract _, ?_⟩
    split_ifs
    · exact .inr rfl
    · exact .inl rfl
  have htouched (record : SnapRecord) (hrecord : record ∈ table.rows)
      (hkeep : record.ofUnits hfx keep) : ∃ target,
      IsSnapTarget hfx decodeWkb table.columns record target ∧
      extractSnapTarget hfx decodeWkb table.columns 0 record (hfx.intersects · query)
        = .ok (some target) ∧
      ∀ i < table.groups.length, record ∈ RowGroups.groupRows table.groups i →
        table.bboxCandidate hfx query i := by
    obtain ⟨target, htarget⟩ := hsound.exists_target record hrecord
    obtain ⟨⟨minx, miny, maxx, maxy⟩, hrecordBounds⟩ :=
      Option.isSome_iff_exists.mp (hbounds record hrecord)
    exact ⟨target, htarget, meets_of_touch hmeets hsound hrecord hrecordBounds
      (htouch record hrecord hkeep minx miny maxx maxy hrecordBounds) htarget⟩
  rw [snapQueryByBbox_eq_readGroups]
  simp only [RowGroups.readGroups_eq_ok_iff readsRows_extractSnapTarget]
  refine ⟨_, ⟨fun record hrecord => ?_, rfl⟩, ?_⟩
  · obtain ⟨_, o, -, ho, -⟩ := hread record (hsublist.subset hrecord)
    exact ⟨o, ho⟩
  · rw [List.filter_filterMap, SnapTable.rows, ← RowGroups.filter_scanned_eq_iff.mpr]
    · refine RowGroups.forall₂_filter_filterMap (fun record hrecord hkeep => ?_)
        fun record hrecord hkeep => ?_
      · obtain ⟨target, htarget, hextract, -⟩ := htouched record (hsublist.subset hrecord) hkeep
        rw [htarget.ofUnits] at hkeep
        exact ⟨target, by simp [hextract, Except.toOption, hkeep], htarget⟩
      · obtain ⟨target, o, htarget, hextract, ho⟩ := hread record (hsublist.subset hrecord)
        rw [htarget.ofUnits] at hkeep
        rcases ho with rfl | rfl <;> simp [hextract, Except.toOption, hkeep]
    · intro i hi hleft record hrecord
      by_contra hkeep
      have hmem : record ∈ table.rows := RowGroups.mem_of_mem_groupRows hi hrecord
      obtain ⟨-, -, -, hcandidate⟩ := htouched record hmem (by simpa using hkeep)
      rw [hcandidate i hi hrecord] at hleft
      cases hleft

end Query

/-! ### The rectangle of the units -/

section Bounds

variable {P : Type} {crate : UnitCrate P}

/-- A rectangle so far holds the rectangles so far, and there is none if there are none. -/
structure BoundsOf (bounds : Option FloatRect) (rects : List FloatRect) : Prop where
  none_iff : bounds = none ↔ rects = []
  ordered : ∀ acc, bounds = some acc → acc.Ordered
  holds : ∀ acc, bounds = some acc → ∀ rect ∈ rects, acc.Holds rect.min ∧ acc.Holds rect.max

/-- The rectangle of two rectangles holds what either holds. -/
private theorem holds_rectNew (hspans : FloatRect.Spans crate.rectNew) {acc rect : FloatRect}
    (hacc : acc.Ordered) (hrect : rect.Ordered) {coord : FloatCoord}
    (h : acc.Holds coord ∨ rect.Holds coord) :
    (crate.rectNew ⟨F64.min acc.min.x rect.min.x, F64.min acc.min.y rect.min.y⟩
      ⟨F64.max acc.max.x rect.max.x, F64.max acc.max.y rect.max.y⟩).Holds coord := by
  obtain ⟨hminx, hminx'⟩ := F64.min_le (F64.le_left hacc.x) (F64.le_left hrect.x)
  obtain ⟨hminy, hminy'⟩ := F64.min_le (F64.le_left hacc.y) (F64.le_left hrect.y)
  obtain ⟨hmaxx, hmaxx'⟩ := F64.le_max (F64.le_right hacc.x) (F64.le_right hrect.x)
  obtain ⟨hmaxy, hmaxy'⟩ := F64.le_max (F64.le_right hacc.y) (F64.le_right hrect.y)
  obtain ⟨hlow, hhigh⟩ := hspans
    ⟨F64.min acc.min.x rect.min.x, F64.min acc.min.y rect.min.y⟩
    ⟨F64.max acc.max.x rect.max.x, F64.max acc.max.y rect.max.y⟩
    (F64.le_left hminx) (F64.le_left hminy) (F64.le_right hmaxx) (F64.le_right hmaxy)
  rcases h with h | h
  · exact ⟨F64.le_trans hlow.minx (F64.le_trans hminx h.minx),
      F64.le_trans hlow.miny (F64.le_trans hminy h.miny),
      F64.le_trans (F64.le_trans h.maxx hmaxx) hhigh.maxx,
      F64.le_trans (F64.le_trans h.maxy hmaxy) hhigh.maxy⟩
  · exact ⟨F64.le_trans hlow.minx (F64.le_trans hminx' h.minx),
      F64.le_trans hlow.miny (F64.le_trans hminy' h.miny),
      F64.le_trans (F64.le_trans h.maxx hmaxx') hhigh.maxx,
      F64.le_trans (F64.le_trans h.maxy hmaxy') hhigh.maxy⟩

theorem BoundsOf.extend (hspans : FloatRect.Spans crate.rectNew) {bounds : Option FloatRect}
    {rects : List FloatRect} (h : BoundsOf bounds rects) {unit : PreMergeDrainageUnit P}
    {rect : FloatRect} (hunit : crate.boundingRect unit.geometry = some rect)
    (hrect : rect.Ordered) : BoundsOf (extendBounds crate bounds unit) (rects ++ [rect]) := by
  cases bounds with
  | none =>
    rw [h.none_iff.mp rfl, extendBounds, hunit]
    refine ⟨by simp, fun acc hacc => Option.some.inj hacc ▸ hrect, fun acc hacc other hother => ?_⟩
    obtain rfl := Option.some.inj hacc
    rw [List.mem_singleton.mp hother]
    exact hrect.holds
  | some acc =>
    have hacc := h.ordered acc rfl
    rw [extendBounds, hunit]
    refine ⟨by simp, fun new hnew => ?_, fun new hnew other hother => ?_⟩
    · obtain rfl := Option.some.inj hnew
      exact (holds_rectNew hspans hacc hrect (.inl hacc.holds.1)).ordered
    · obtain rfl := Option.some.inj hnew
      rcases List.mem_append.mp hother with hother | hother
      · obtain ⟨hmin, hmax⟩ := h.holds acc rfl other hother
        exact ⟨holds_rectNew hspans hacc hrect (.inl hmin),
          holds_rectNew hspans hacc hrect (.inl hmax)⟩
      · rw [List.mem_singleton.mp hother]
        exact ⟨holds_rectNew hspans hacc hrect (.inr hrect.holds.1),
          holds_rectNew hspans hacc hrect (.inr hrect.holds.2)⟩

/-- **The rectangle of the units** holds the rectangle of each. -/
theorem boundsOf_foldl (hspans : FloatRect.Spans crate.rectNew)
    {units : List (PreMergeDrainageUnit P)}
    (hordered : ∀ unit ∈ units, ∀ rect, crate.boundingRect unit.geometry = some rect →
      rect.Ordered) {bounds : Option FloatRect} {rects : List FloatRect}
    (h : BoundsOf bounds rects) :
    BoundsOf (units.foldl (extendBounds crate) bounds)
      (rects ++ units.filterMap fun unit => crate.boundingRect unit.geometry) := by
  induction units generalizing bounds rects with
  | nil => simpa using h
  | cons unit units ih =>
    obtain ⟨hunit, hunits⟩ := List.forall_mem_cons.mp hordered
    rw [List.foldl_cons]
    cases hrect : crate.boundingRect unit.geometry with
    | none =>
      simp only [extendBounds, hrect, List.filterMap_cons]
      exact ih hunits h
    | some rect =>
      simp only [List.filterMap_cons, hrect]
      rw [List.append_cons]
      exact ih hunits (h.extend hspans hrect (hunit rect hrect))

theorem boundsOf_unionBounds {units : PreMergeDrainageUnits P}
    (hspans : FloatRect.Spans crate.rectNew)
    (hordered : ∀ unit ∈ units.units, ∀ rect, crate.boundingRect unit.geometry = some rect →
      rect.Ordered) :
    BoundsOf (unionBounds crate units)
      (units.units.filterMap fun unit => crate.boundingRect unit.geometry) := by
  have hempty : BoundsOf none [] := ⟨by simp, by simp, by simp⟩
  exact boundsOf_foldl hspans hordered hempty

end Bounds

/-! ### All reaches -/

section Exact

variable {P : Type} {crate : UnitCrate P} {hfx : Hfx} {lines : LineCrate}
  {decodeWkb : WkbGeometry → Except String SnapGeometry} {snapForLevel : Level → Option SnapTable}
  {units : PreMergeDrainageUnits P} {table : SnapTable}

/-- A rectangle that is narrowed, if the crate accepts it as a box then. -/
def narrowedBox (crate : UnitCrate P) (hfx : Hfx) (rect : FloatRect) : Option BoundingBox :=
  (hfx.boundingBox (crate.narrow rect.min.x) (crate.narrow rect.min.y) (crate.narrow rect.max.x)
    (crate.narrow rect.max.y)).toOption

/-- A row of the units of a delineation. -/
def SnapRecord.inWatershed (hfx : Hfx) (units : PreMergeDrainageUnits P) (record : SnapRecord) :
    Bool :=
  record.ofUnits hfx fun unitId => unitId ∈ units.units.map PreMergeDrainageUnit.id

/-- The reach of a row. -/
def IsReach (hfx : Hfx) (lines : LineCrate) (decodeWkb : WkbGeometry → Except String SnapGeometry)
    (columns : SnapColumns) (record : SnapRecord) (reach : DrainageReach) : Prop :=
  ∃ target, IsSnapTarget hfx decodeWkb columns record target ∧ reachOf lines target = .ok reach

theorem exists_unit_of_inWatershed {record : SnapRecord} (h : record.inWatershed hfx units) :
    ∃ unit ∈ units.units, record.ofUnits hfx (· = unit.id) := by
  rw [SnapRecord.inWatershed, SnapRecord.ofUnits, Option.any_eq_true] at h
  obtain ⟨rawUnitId, hraw, h⟩ := h
  obtain ⟨unitId, hunitId, h⟩ := (Option.any_eq_true _ _).mp h
  obtain ⟨unit, hunit, heq⟩ := List.mem_map.mp (of_decide_eq_true h)
  refine ⟨unit, hunit, ?_⟩
  rw [SnapRecord.ofUnits, hraw, Option.any_some, hunitId, Option.any_some, heq]
  exact decide_eq_true rfl

/-- Targets whose rows have reaches are measured. -/
theorem exists_reaches {columns : SnapColumns} {records : List SnapRecord}
    {targets : List SnapTarget}
    (htargets : List.Forall₂ (IsSnapTarget hfx decodeWkb columns) records targets)
    (hlines : ∀ record ∈ records, ∃ reach, IsReach hfx lines decodeWkb columns record reach) :
    ∃ reaches, targets.mapM (reachOf lines) = .ok reaches ∧
      List.Forall₂ (IsReach hfx lines decodeWkb columns) records reaches := by
  simp only [Checks.mapM_eq_ok_iff]
  induction htargets with
  | nil => exact ⟨[], .nil, .nil⟩
  | @cons record target records targets htarget _ ih =>
    obtain ⟨⟨reach, target', htarget', hreach⟩, hrest⟩ := List.forall_mem_cons.mp hlines
    obtain ⟨reaches, hreaches, hfound⟩ := ih hrest
    obtain rfl := Option.some.inj (Except.ok.inj (htarget'.symm.trans htarget))
    exact ⟨reach :: reaches, .cons hreach hreaches, .cons ⟨_, htarget', hreach⟩ hfound⟩

theorem watershedBbox_of_some {rect : FloatRect} {query : BoundingBox}
    (hunion : unionBounds crate units = some rect)
    (hquery : narrowedBox crate hfx rect = some query) :
    watershedBbox crate hfx units = .ok (some query) := by
  rw [narrowedBox, Checks.toOption_eq_some_iff] at hquery
  simp only [watershedBbox, hunion, hquery]
  rfl

theorem watershedBbox_of_none {rect : FloatRect} (hunion : unionBounds crate units = some rect)
    (hnone : narrowedBox crate hfx rect = none) :
    ∃ source, watershedBbox crate hfx units = .error (.reachQuery units.terminal.raw source) := by
  rw [narrowedBox] at hnone
  cases hbox : hfx.boundingBox (crate.narrow rect.min.x) (crate.narrow rect.min.y)
      (crate.narrow rect.max.x) (crate.narrow rect.max.y) with
  | ok bbox =>
    rw [hbox] at hnone
    cases hnone
  | error e =>
    simp only [watershedBbox, hunion, hbox]
    exact ⟨_, rfl⟩

/-- What is narrowed touches what it touched before. -/
theorem meetsBounds_of_meets (hnarrow : ∀ a b : F64, a.le b → (crate.narrow a).le (crate.narrow b))
    {rect inner other : FloatRect} (hmin : rect.Holds inner.min) (hmax : rect.Holds inner.max)
    (hmeets : other.meets inner) {query : BoundingBox}
    (hquery : narrowedBox crate hfx rect = some query) :
    query.MeetsBounds (crate.narrow other.min.x) (crate.narrow other.min.y)
      (crate.narrow other.max.x) (crate.narrow other.max.y) := by
  obtain ⟨hminx, hminy, hmaxx, hmaxy⟩ :=
    hfx.boundingBox_holds (Checks.toOption_eq_some_iff.mp hquery)
  simp only [FloatRect.meets, Bool.and_eq_true] at hmeets
  obtain ⟨⟨⟨hleft, hright⟩, hbelow⟩, habove⟩ := hmeets
  refine ⟨?_, ?_, ?_, ?_⟩
  · rw [hmaxx]
    exact hnarrow _ _ (F64.le_trans hleft hmax.maxx)
  · rw [hmaxy]
    exact hnarrow _ _ (F64.le_trans hbelow hmax.maxy)
  · rw [hminx]
    exact hnarrow _ _ (F64.le_trans hmin.minx hright)
  · rw [hminy]
    exact hnarrow _ _ (F64.le_trans hmin.miny habove)

/-- The crates hold what they are given: a rectangle its corners, boxes that touch intersect, and
narrowing is monotone. -/
structure UnitCrate.Lawful (crate : UnitCrate P) (hfx : Hfx) : Prop where
  spans : FloatRect.Spans crate.rectNew
  narrow_le : ∀ a b : F64, a.le b → (crate.narrow a).le (crate.narrow b)
  intersects : ∀ a b : BoundingBox, a.meets b → hfx.intersects a b

/-- The snap file of a dataset and the units of a watershed: the bounds in the file are the true
ones, narrowed, every reach touches the unit that it is of, and the reaches of the watershed are
lines that can be measured. -/
structure TouchingReaches (crate : UnitCrate P) (hfx : Hfx) (lines : LineCrate)
    (decodeWkb : WkbGeometry → Except String SnapGeometry) (units : PreMergeDrainageUnits P)
    (table : SnapTable) (trueBbox : SnapRecord → FloatRect) : Prop where
  sound : table.Sound hfx decodeWkb
  ordered : ∀ unit ∈ units.units, ∀ rect, crate.boundingRect unit.geometry = some rect →
    rect.Ordered
  narrowed : ∀ record ∈ table.rows, record.bounds hfx decodeWkb table.columns
    = some (crate.narrow (trueBbox record).min.x, crate.narrow (trueBbox record).min.y,
      crate.narrow (trueBbox record).max.x, crate.narrow (trueBbox record).max.y)
  touches : ∀ record ∈ table.rows, ∀ unit ∈ units.units, record.ofUnits hfx (· = unit.id) →
    ∃ rect, crate.boundingRect unit.geometry = some rect ∧ (trueBbox record).meets rect
  lines : ∀ record ∈ table.rows, record.inWatershed hfx units →
    ∃ reach, IsReach hfx lines decodeWkb table.columns record reach

section Touching

variable {trueBbox : SnapRecord → FloatRect}

/-- A reach touches the rectangle of a unit. -/
theorem TouchingReaches.exists_rect
    (h : TouchingReaches crate hfx lines decodeWkb units table trueBbox) {record : SnapRecord}
    (hrecord : record ∈ table.rows) (hmember : record.inWatershed hfx units) :
    ∃ rect, rect ∈ units.units.filterMap (fun unit => crate.boundingRect unit.geometry) ∧
      (trueBbox record).meets rect := by
  obtain ⟨unit, hunit, hof⟩ := exists_unit_of_inWatershed hmember
  obtain ⟨rect, hrect, hmeets⟩ := h.touches record hrecord unit hunit hof
  exact ⟨rect, List.mem_filterMap.mpr ⟨unit, hunit, hrect⟩, hmeets⟩

/-- Without a rectangle there is no reach. -/
theorem TouchingReaches.filter_eq_nil
    (h : TouchingReaches crate hfx lines decodeWkb units table trueBbox) (hcrate : crate.Lawful hfx)
    (hunion : unionBounds crate units = none) :
    table.rows.filter (SnapRecord.inWatershed hfx units) = [] := by
  have hnone := (boundsOf_unionBounds hcrate.spans h.ordered).none_iff.mp hunion
  rw [List.filter_eq_nil_iff]
  intro record hrecord hmember
  obtain ⟨rect, hrect, -⟩ := h.exists_rect hrecord hmember
  rw [hnone] at hrect
  cases hrect

/-- The bounds that are stored for a reach touch the narrowed rectangle of the units. -/
theorem TouchingReaches.meetsBounds
    (h : TouchingReaches crate hfx lines decodeWkb units table trueBbox) (hcrate : crate.Lawful hfx)
    {rect : FloatRect} (hunion : unionBounds crate units = some rect) {query : BoundingBox}
    (hquery : narrowedBox crate hfx rect = some query) {record : SnapRecord}
    (hrecord : record ∈ table.rows) (hmember : record.inWatershed hfx units)
    {minx miny maxx maxy : F32}
    (hbounds : record.bounds hfx decodeWkb table.columns = some (minx, miny, maxx, maxy)) :
    query.MeetsBounds minx miny maxx maxy := by
  obtain ⟨inner, hinner, hmeets⟩ := h.exists_rect hrecord hmember
  obtain ⟨hmin, hmax⟩ :=
    (boundsOf_unionBounds hcrate.spans h.ordered).holds rect hunion inner hinner
  obtain ⟨rfl, rfl, rfl, rfl⟩ := by simpa using (h.narrowed record hrecord).symm.trans hbounds
  exact meetsBounds_of_meets hcrate.narrow_le hmin hmax hmeets hquery

/-- **A query with the narrowed rectangle** finds the reaches of the units. -/
theorem TouchingReaches.exists_reaches_of_query
    (h : TouchingReaches crate hfx lines decodeWkb units table trueBbox) (hcrate : crate.Lawful hfx)
    {rect : FloatRect} (hunion : unionBounds crate units = some rect) {query : BoundingBox}
    (hquery : narrowedBox crate hfx rect = some query) :
    ∃ targets reaches, table.queryByBbox hfx decodeWkb query = .ok targets ∧
      (targets.filter (·.unitId ∈ units.units.map PreMergeDrainageUnit.id)).mapM (reachOf lines)
        = .ok reaches ∧
      List.Forall₂ (IsReach hfx lines decodeWkb table.columns)
        (table.rows.filter (SnapRecord.inWatershed hfx units)) reaches := by
  have hsome : ∀ record ∈ table.rows,
      (record.bounds hfx decodeWkb table.columns).isSome := by
    intro record hrecord
    rw [h.narrowed record hrecord]
    rfl
  obtain ⟨targets, htargets, hforall⟩ := exists_queryByBbox hcrate.intersects h.sound hsome
    fun record hrecord hmember _ _ _ _ hbounds =>
      h.meetsBounds hcrate hunion hquery hrecord hmember hbounds
  obtain ⟨reaches, hreaches, hfound⟩ := exists_reaches hforall fun record hrecord =>
    h.lines record (List.mem_of_mem_filter hrecord) (List.mem_filter.mp hrecord).2
  exact ⟨targets, reaches, htargets, hreaches, hfound⟩

end Touching

/-- **The reaches of a watershed** are those of its units, each once, if the crate accepts the
narrowed rectangle of the units. A watershed whose narrowed rectangle is refused, as a degenerate
one always is, is reported. -/
theorem upstreamReaches_exact {trueBbox : SnapRecord → FloatRect} (hcrate : crate.Lawful hfx)
    (hstore : snapForLevel units.selectedLevel = some table)
    (hdata : TouchingReaches crate hfx lines decodeWkb units table trueBbox) :
    ((∀ rect, unionBounds crate units = some rect → (narrowedBox crate hfx rect).isSome) →
      ∃ reaches, upstreamReaches crate hfx lines decodeWkb snapForLevel units
          = .ok ⟨units.terminal, units.selectedLevel, reaches⟩ ∧
        List.Forall₂ (IsReach hfx lines decodeWkb table.columns)
          (table.rows.filter (SnapRecord.inWatershed hfx units)) reaches) ∧
    (∀ rect, unionBounds crate units = some rect → narrowedBox crate hfx rect = none →
      ∃ source, upstreamReaches crate hfx lines decodeWkb snapForLevel units
        = .error (.reachQuery units.terminal.raw source)) := by
  cases hunion : unionBounds crate units with
  | none =>
    refine ⟨fun _ => ⟨[], ?_, ?_⟩, fun rect h => by simp at h⟩
    · rw [upstreamReaches, hstore, Checks.okOr, Checks.ok_bind, watershedBbox, hunion,
        Checks.ok_bind]
    · rw [hdata.filter_eq_nil hcrate hunion]
      exact .nil
  | some rect =>
    refine ⟨fun hbox => ?_, fun rect' hrect' hnone => ?_⟩
    · obtain ⟨query, hquery⟩ := Option.isSome_iff_exists.mp (hbox rect rfl)
      obtain ⟨targets, reaches, htargets, hreaches, hfound⟩ :=
        hdata.exists_reaches_of_query hcrate hunion hquery
      refine ⟨reaches, ?_, hfound⟩
      rw [upstreamReaches, hstore, Checks.okOr, Checks.ok_bind, watershedBbox_of_some hunion hquery,
        Checks.ok_bind]
      simp only [htargets]
      change ((targets.filter _).mapM (reachOf lines) >>= fun reaches =>
        .ok (UpstreamReaches.mk units.terminal units.selectedLevel reaches)) = _
      rw [hreaches, Checks.ok_bind]
    · obtain rfl := Option.some.inj hrect'
      obtain ⟨source, hsource⟩ := @watershedBbox_of_none P crate hfx units rect hunion hnone
      refine ⟨source, ?_⟩
      rw [upstreamReaches, hstore, Checks.okOr, Checks.ok_bind, hsource]
      rfl

end Exact

/-! ### Two watersheds -/

/-- Geometries of one rectangle, which are narrowed as the program narrows. -/
def rectCrate : UnitCrate FloatRect where
  boundingRect := List.head?
  rectNew c d := ⟨⟨F64.min c.x d.x, F64.min c.y d.y⟩, ⟨F64.max c.x d.x, F64.max c.y d.y⟩⟩
  narrow x := F32.ofBinary64 x.bits
  display _ := "f32"

theorem lawful_rectCrate : rectCrate.Lawful permissiveHfx where
  spans := by
    intro c d hcx hcy hdx hdy
    obtain ⟨hminx, hminx'⟩ := F64.min_le hcx hdx
    obtain ⟨hminy, hminy'⟩ := F64.min_le hcy hdy
    obtain ⟨hmaxx, hmaxx'⟩ := F64.le_max hcx hdx
    obtain ⟨hmaxy, hmaxy'⟩ := F64.le_max hcy hdy
    exact ⟨⟨hminx, hminy, hmaxx, hmaxy⟩, ⟨hminx', hminy', hmaxx', hmaxy'⟩⟩
  narrow_le := by
    intro a b hab
    exact F32.ofBinary64_le_ofBinary64 hab
  intersects := by
    intro a b hab
    exact hab

/-- Lines of a kilometre. -/
def kilometreLines : LineCrate where
  decodeWkb _ := .ok (.lineString [])
  lineLength _ := ⟨0x408f400000000000⟩
  linesLength _ := ⟨0x408f400000000000⟩

/-- A decoder of lines, whose bounds the files below store. -/
def storedDecoder (_ : WkbGeometry) : Except String SnapGeometry := .ok (.lineString none)

/-- A row of a unit with stored bounds. -/
def reachRecord (unitId : Int) (minx miny maxx maxy : BitVec 32) : SnapRecord :=
  ⟨some unitId, some unitId, some ⟨0x3f800000⟩, none,
    some ⟨some ⟨minx⟩, some ⟨miny⟩, some ⟨maxx⟩, some ⟨maxy⟩⟩, some []⟩

/-- A row group with the least and the greatest values that are stored in each column. -/
def reachTable (records : List SnapRecord) (minx miny maxx maxy : BitVec 32 × BitVec 32) :
    SnapTable :=
  let stats := fun column : BitVec 32 × BitVec 32 =>
    some (ColumnStats.mk (some ⟨column.1⟩) (some ⟨column.2⟩))
  ⟨⟨false, true⟩, [⟨[records], ⟨stats minx, stats miny, stats maxx, stats maxy⟩⟩]⟩

/-- A watershed of one unit. -/
def rectWatershed (rect : FloatRect) : PreMergeDrainageUnits FloatRect :=
  ⟨⟨1⟩, ⟨1⟩, [⟨⟨1⟩, ⟨1⟩, ⟨⟨0x3f800000⟩⟩, none, ⟨⟨0⟩, ⟨0⟩⟩, [rect]⟩]⟩

/-- What is left to check for a watershed of one rectangle. -/
theorem touchingReaches_rectWatershed {rect : FloatRect} {table : SnapTable}
    {trueBbox : SnapRecord → FloatRect} (hstats : table.statsBound)
    (htargets : ∀ record ∈ table.rows, (extractSnapTarget permissiveHfx storedDecoder table.columns
      0 record fun _ => true).toOption.join.isSome)
    (hcomplete : ∀ record ∈ table.rows, (record.completeBbox table.columns).isSome)
    (hrect : rect.Ordered)
    (hnarrowed : ∀ record ∈ table.rows, record.bounds permissiveHfx storedDecoder table.columns
      = some (rectCrate.narrow (trueBbox record).min.x, rectCrate.narrow (trueBbox record).min.y,
        rectCrate.narrow (trueBbox record).max.x, rectCrate.narrow (trueBbox record).max.y))
    (htouches : ∀ record ∈ table.rows, record.unitId = some 1 → (trueBbox record).meets rect) :
    TouchingReaches rectCrate permissiveHfx kilometreLines storedDecoder (rectWatershed rect) table
      trueBbox := by
  have htarget : ∀ record ∈ table.rows, ∃ target,
      IsSnapTarget permissiveHfx storedDecoder table.columns record target := by
    intro record hrecord
    obtain ⟨target, htarget⟩ := Option.isSome_iff_exists.mp (htargets record hrecord)
    exact ⟨target, Checks.toOption_eq_some_iff.mp (Option.join_eq_some_iff.mp htarget)⟩
  refine ⟨⟨hstats, htarget, fun _ => hcomplete⟩, ?_, hnarrowed, ?_, ?_⟩
  · intro unit hunit found hfound
    rw [List.mem_singleton.mp hunit] at hfound
    exact Option.some.inj hfound ▸ hrect
  · intro record hrecord unit hunit hof
    rw [List.mem_singleton.mp hunit] at hof ⊢
    obtain ⟨rawUnitId, hraw, hof⟩ := (Option.any_eq_true _ _).mp hof
    have hid : (⟨rawUnitId⟩ : UnitId) = ⟨1⟩ := of_decide_eq_true hof
    refine ⟨rect, rfl, htouches record hrecord ?_⟩
    rw [hraw, (UnitId.mk.inj hid)]
  · intro record hrecord _
    obtain ⟨target, htarget⟩ := htarget record hrecord
    exact ⟨_, target, htarget, rfl⟩

/-- A rectangle from 0 to 2. -/
def wideRect : FloatRect :=
  ⟨⟨⟨0⟩, ⟨0⟩⟩, ⟨⟨0x4000000000000000⟩, ⟨0x4000000000000000⟩⟩⟩

/-- A reach from (1, 1) to (1, 2) of the unit, and one of another unit. -/
def wideTable : SnapTable :=
  reachTable [reachRecord 1 0x3f800000 0x3f800000 0x3f800000 0x40000000,
    reachRecord 2 0x3f800000 0x3f800000 0x40000000 0x40000000]
    (0x3f800000, 0x3f800000) (0x3f800000, 0x3f800000) (0x3f800000, 0x40000000)
    (0x40000000, 0x40000000)

/-- The bounds of the reaches before they are narrowed. -/
def wideBbox (record : SnapRecord) : FloatRect :=
  ⟨⟨⟨0x3ff0000000000000⟩, ⟨0x3ff0000000000000⟩⟩,
    ⟨if record.unitId = some 1 then ⟨0x3ff0000000000000⟩ else ⟨0x4000000000000000⟩,
      ⟨0x4000000000000000⟩⟩⟩

theorem touchingReaches_wide : TouchingReaches rectCrate permissiveHfx kilometreLines storedDecoder
    (rectWatershed wideRect) wideTable wideBbox :=
  touchingReaches_rectWatershed (by decide) (by decide +kernel) (by decide)
    ⟨by decide, by decide⟩ (by decide +kernel) (by decide)

/-- The reach of the unit is found, and the other one is not. -/
theorem upstreamReaches_exact_wide : ∃ reaches,
    upstreamReaches rectCrate permissiveHfx kilometreLines storedDecoder (fun _ => some wideTable)
      (rectWatershed wideRect) = .ok ⟨⟨1⟩, ⟨1⟩, reaches⟩ ∧
    List.Forall₂ (IsReach permissiveHfx kilometreLines storedDecoder wideTable.columns)
      [reachRecord 1 0x3f800000 0x3f800000 0x3f800000 0x40000000] reaches := by
  refine (upstreamReaches_exact lawful_rectCrate rfl touchingReaches_wide).1 fun rect hrect => ?_
  obtain rfl := Option.some.inj hrect
  decide +kernel

/-- A rectangle from 1 to the next double. -/
def tinyRect : FloatRect :=
  ⟨⟨⟨0x3ff0000000000000⟩, ⟨0x3ff0000000000000⟩⟩, ⟨⟨0x3ff0000000000001⟩, ⟨0x3ff0000000000001⟩⟩⟩

/-- A reach in the rectangle. -/
def tinyTable : SnapTable :=
  reachTable [reachRecord 1 0x3f800000 0x3f800000 0x3f800000 0x3f800000]
    (0x3f800000, 0x3f800000) (0x3f800000, 0x3f800000) (0x3f800000, 0x3f800000)
    (0x3f800000, 0x3f800000)

/-- A watershed that is degenerate when its rectangle is narrowed has a reach, but an error is
returned. -/
theorem not_upstreamReaches_tiny :
    TouchingReaches rectCrate permissiveHfx kilometreLines storedDecoder (rectWatershed tinyRect)
      tinyTable (fun _ => tinyRect) ∧
    tinyTable.rows.filter (SnapRecord.inWatershed permissiveHfx (rectWatershed tinyRect))
      = tinyTable.rows ∧
    ¬∃ reaches, upstreamReaches rectCrate permissiveHfx kilometreLines storedDecoder
      (fun _ => some tinyTable) (rectWatershed tinyRect) = .ok reaches := by
  refine ⟨touchingReaches_rectWatershed (by decide) (by decide +kernel) (by decide)
    ⟨by decide, by decide⟩ (by decide +kernel) (by decide), by decide, ?_⟩
  rintro ⟨reaches, hreaches⟩
  have hnone : narrowedBox rectCrate permissiveHfx tinyRect = none := by decide +kernel
  obtain ⟨source, hsource⟩ := @watershedBbox_of_none _ rectCrate permissiveHfx
    (rectWatershed tinyRect) tinyRect rfl hnone
  rw [upstreamReaches, Checks.okOr, Checks.ok_bind, hsource] at hreaches
  cases hreaches

end WatershedDelineation
