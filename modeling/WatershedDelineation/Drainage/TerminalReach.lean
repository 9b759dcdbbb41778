import Mathlib.Algebra.Order.Field.Rat
import Mathlib.Analysis.CStarAlgebra.Classes
import Mathlib.Analysis.Normed.Affine.Convex
import Mathlib.Topology.MetricSpace.HausdorffDistance
import WatershedDelineation.General.Polyline

/-!
# The terminal reach

`truncate_terminal_reach` of `main.rs` cuts the reach of the terminal unit at the outlet: it keeps
the vertices before the segment that is nearest to the outlet, on the side of the other reaches, and
adds the outlet. A reach of several lines is cut line by line, so each line is joined to the outlet,
also one that is far from it.

A line gets longer by no more than the distance of the outlet (`connection_le`), but the lines of a
reach do so each on its own (`length_truncateTerminalReach_le`). So a reach is trimmed as it should
be if it has one line, or if all its lines pass through the outlet (`truncateTerminalReach_trims`);
with a second line away from the outlet it can get longer (`not_trimsTo_apartReach`).
-/

namespace WatershedDelineation

/-- The geometry of a reach; of geometries without lines only the name is kept. -/
inductive LineGeometry (K : Type)
  | lineString (coords : List (K × K))
  | multiLineString (lines : List (List (K × K)))
  | other (typeName : String)
  deriving DecidableEq, Repr

/-- The lines of a reach. -/
def LineGeometry.parts {K : Type} : LineGeometry K → List (List (K × K))
  | .lineString coords => [coords]
  | .multiLineString lines => lines
  | .other _ => []

section Truncate

variable {K : Type} [Field K] [LinearOrder K]

/-- The point of a segment that is nearest to a point, and where it is on the segment. -/
def projectPointToSegment (p a b : K × K) : (K × K) × K :=
  let dx := b.1 - a.1
  let dy := b.2 - a.2
  let lenSq := dx * dx + dy * dy
  if lenSq = 0 then (a, 0)
  else
    let t := min (max (((p.1 - a.1) * dx + (p.2 - a.2) * dy) / lenSq) 0) 1
    ((a.1 + t * dx, a.2 + t * dy), t)

def distSq (a b : K × K) : K :=
  let dx := a.1 - b.1
  let dy := a.2 - b.2
  dx * dx + dy * dy

/-- The squared distance of a point to a segment. -/
def segmentDistSq (resPt : K × K) (segment : (K × K) × (K × K)) : K :=
  distSq resPt (projectPointToSegment resPt segment.1 segment.2).1

/-- The first of the segments of a line that are nearest to a point. -/
def bestSegment (resPt : K × K) (coords : List (K × K)) : ℕ :=
  ((coords.zip coords.tail).zipIdx.foldl (fun (best : ℕ × WithTop K) segment =>
    if segmentDistSq resPt segment.1 < best.2 then (segment.2, ↑(segmentDistSq resPt segment.1))
    else best) (0, ⊤)).1

/-- The first and the last points of the lines of reaches. -/
def reachEnds (others : List (LineGeometry K)) : List (K × K) :=
  others.flatMap fun other => other.parts.flatMap fun line =>
    [line.head?, line.getLast?].filterMap id

/-- The least squared distance of a point to the ends of reaches. -/
def minEndDistSq (others : List (LineGeometry K)) (p : K × K) : WithTop K :=
  (reachEnds others).foldl (fun least q => min least ↑(distSq p q)) ⊤

/-- Whether a line begins on the side of the other reaches. -/
def startIsUpstream (resPt : K × K) (others : List (LineGeometry K)) (coords : List (K × K)) :
    Bool :=
  let first := coords.head?.getD (0, 0)
  let last := coords.getLast?.getD (0, 0)
  if others.isEmpty then distSq last resPt ≤ distSq first resPt ∨ 0 < bestSegment resPt coords
  else minEndDistSq others first ≤ minEndDistSq others last

/-- The vertices of a line that are kept, in the order downstream. -/
def keptCoords (resPt : K × K) (others : List (LineGeometry K)) (coords : List (K × K)) :
    List (K × K) :=
  if startIsUpstream resPt others coords then coords.take (bestSegment resPt coords + 1)
  else (coords.drop (bestSegment resPt coords + 1)).reverse

def truncateLine (resPt : K × K) (others : List (LineGeometry K)) (coords : List (K × K)) :
    List (K × K) :=
  if coords.length < 2 then coords else keptCoords resPt others coords ++ [resPt]

/-- Cut a reach at a point. -/
def truncateTerminalReach (geom : LineGeometry K) (resPt : K × K)
    (others : List (LineGeometry K)) : LineGeometry K :=
  match geom with
  | .lineString coords => .lineString (truncateLine resPt others coords)
  | .multiLineString lines =>
    match (lines.map (truncateLine resPt others)).filter (· ≠ []) with
    | [line] => .lineString line
    | lines => .multiLineString lines
  | .other typeName => .other typeName

end Truncate

/-! ### The nearest segment -/

section Nearest

variable {K : Type} [Field K] [LinearOrder K] {resPt : K × K}

private theorem foldl_nearest {segments : List (((K × K) × (K × K)) × ℕ)}
    (best : ℕ × WithTop K) :
    let result := segments.foldl (fun (best : ℕ × WithTop K) segment =>
      if segmentDistSq resPt segment.1 < best.2 then (segment.2, ↑(segmentDistSq resPt segment.1))
      else best) best
    result.2 ≤ best.2 ∧ (∀ segment ∈ segments, result.2 ≤ segmentDistSq resPt segment.1) ∧
      (result = best ∨
        ∃ segment ∈ segments, result = (segment.2, ↑(segmentDistSq resPt segment.1))) := by
  induction segments generalizing best with
  | nil => exact ⟨le_rfl, fun _ h => absurd h List.not_mem_nil, .inl rfl⟩
  | cons segment segments ih =>
    dsimp only [List.foldl_cons]
    split_ifs with hlt
    · obtain ⟨hle, hall, hcases⟩ := ih (segment.2, ↑(segmentDistSq resPt segment.1))
      refine ⟨hle.trans hlt.le, List.forall_mem_cons.mpr ⟨hle, hall⟩, .inr ?_⟩
      rcases hcases with heq | ⟨segment', hmem, heq⟩
      · exact ⟨segment, List.mem_cons_self, heq⟩
      · exact ⟨segment', List.mem_cons_of_mem _ hmem, heq⟩
    · obtain ⟨hle, hall, hcases⟩ := ih best
      refine ⟨hle, List.forall_mem_cons.mpr ⟨hle.trans (not_lt.mp hlt), hall⟩, ?_⟩
      refine hcases.imp_right ?_
      rintro ⟨segment', hmem, heq⟩
      exact ⟨segment', List.mem_cons_of_mem _ hmem, heq⟩

/-- The nearest segment is one of the segments, and none is nearer. -/
theorem bestSegment_spec {coords : List (K × K)} (h : 2 ≤ coords.length) :
    ∃ segment, (coords.zip coords.tail)[bestSegment resPt coords]? = some segment ∧
      ∀ segment' ∈ coords.zip coords.tail,
        segmentDistSq resPt segment ≤ segmentDistSq resPt segment' := by
  have hne : (coords.zip coords.tail).zipIdx ≠ [] := by
    rw [← List.length_pos_iff, List.length_zipIdx, List.length_zip, List.length_tail]
    omega
  obtain ⟨first, hfirst⟩ := List.exists_mem_of_ne_nil _ hne
  obtain ⟨-, hall, hcases⟩ :=
    @foldl_nearest K _ _ resPt (coords.zip coords.tail).zipIdx (0, ⊤)
  rcases hcases with heq | ⟨segment, hmem, heq⟩
  · -- the first segment is nearer than infinity
    have htop := hall first hfirst
    rw [heq, top_le_iff] at htop
    cases htop
  · refine ⟨segment.1, ?_, fun segment' hsegment' => ?_⟩
    · rw [bestSegment, heq]
      exact List.mk_mem_zipIdx_iff_getElem?.mp hmem
    · obtain ⟨i, hi⟩ := List.mem_iff_getElem?.mp hsegment'
      have hle := hall (segment', i) (List.mk_mem_zipIdx_iff_getElem?.mpr hi)
      rw [heq, WithTop.coe_le_coe] at hle
      exact hle

end Nearest

/-! ### Distances in the plane -/

/-- A point of the plane. -/
def plane (p : ℝ × ℝ) : ℂ := ⟨p.1, p.2⟩

theorem dist_plane (a b : ℝ × ℝ) : dist (plane a) (plane b) = √(distSq a b) := by
  rw [Complex.dist_eq_re_im, distSq, sq, sq]
  rfl

theorem dist_plane_le_iff {a b c d : ℝ × ℝ} :
    dist (plane a) (plane b) ≤ dist (plane c) (plane d) ↔ distSq a b ≤ distSq c d := by
  have hnonneg : 0 ≤ distSq c d := add_nonneg (mul_self_nonneg _) (mul_self_nonneg _)
  rw [dist_plane, dist_plane, Real.sqrt_le_sqrt_iff hnonneg]

/-- The point at a fraction of a segment. -/
def along (a b : ℝ × ℝ) (t : ℝ) : ℝ × ℝ := (a.1 + t * (b.1 - a.1), a.2 + t * (b.2 - a.2))

theorem mem_segment_plane_iff {a b : ℝ × ℝ} {z : ℂ} :
    z ∈ segment ℝ (plane a) (plane b) ↔ ∃ t ∈ Set.Icc (0 : ℝ) 1, plane (along a b t) = z := by
  rw [segment_eq_image', Set.mem_image]
  refine exists_congr fun t => and_congr_right fun _ => ?_
  have halong : plane a + t • (plane b - plane a) = plane (along a b t) := by
    apply Complex.ext <;> simp [plane, along]
  rw [halong]

/-- Distances along a segment, from where the nearest point of its line is. -/
theorem distSq_along (p a b : ℝ × ℝ) {q : ℝ}
    (hq : q * distSq b a = (p.1 - a.1) * (b.1 - a.1) + (p.2 - a.2) * (b.2 - a.2)) (t : ℝ) :
    distSq p (along a b t) = distSq p (along a b q) + distSq b a * (t - q) ^ 2 := by
  have hcross : distSq p (along a b t) - distSq p (along a b q) - distSq b a * (t - q) ^ 2
      = 2 * (q - t) * ((p.1 - a.1) * (b.1 - a.1) + (p.2 - a.2) * (b.2 - a.2) - q * distSq b a) := by
    rw [distSq, distSq, distSq, along, along]
    ring
  rw [hq, sub_self, mul_zero] at hcross
  linarith only [hcross]

/-- No number between zero and one is nearer to `q` than the clamped `q`. -/
theorem sq_clamp_sub_le {q t : ℝ} (ht : t ∈ Set.Icc (0 : ℝ) 1) :
    (min (max q 0) 1 - q) ^ 2 ≤ (t - q) ^ 2 := by
  obtain ⟨hpos, hle⟩ := ht
  rw [sq_le_sq]
  rcases le_total q 0 with hq | hq
  · rw [max_eq_right hq, min_eq_left zero_le_one, abs_of_nonneg (by linarith),
      abs_of_nonneg (by linarith)]
    linarith
  · rw [max_eq_left hq]
    rcases le_total q 1 with hq' | hq'
    · rw [min_eq_left hq', sub_self, abs_zero]
      exact abs_nonneg _
    · rw [min_eq_right hq', abs_of_nonpos (by linarith), abs_of_nonpos (by linarith)]
      linarith

/-- A projection is on its segment, and no point of the segment is nearer. -/
theorem projectPointToSegment_spec (p a b : ℝ × ℝ) :
    plane (projectPointToSegment p a b).1 ∈ segment ℝ (plane a) (plane b) ∧
      ∀ z ∈ segment ℝ (plane a) (plane b),
        dist (plane p) (plane (projectPointToSegment p a b).1) ≤ dist (plane p) z := by
  have hlen : (b.1 - a.1) * (b.1 - a.1) + (b.2 - a.2) * (b.2 - a.2) = distSq b a := rfl
  rw [projectPointToSegment]
  dsimp only
  rw [hlen]
  split_ifs with hzero
  · refine ⟨left_mem_segment ℝ _ _, fun z hz => ?_⟩
    -- the ends of the segment are the same
    have hab : plane b = plane a := by
      rw [← dist_eq_zero, dist_plane, hzero, Real.sqrt_zero]
    rw [hab, segment_same, Set.mem_singleton_iff] at hz
    rw [hz]
  · set q := ((p.1 - a.1) * (b.1 - a.1) + (p.2 - a.2) * (b.2 - a.2)) / distSq b a with hq
    have hdot : q * distSq b a = (p.1 - a.1) * (b.1 - a.1) + (p.2 - a.2) * (b.2 - a.2) :=
      div_mul_cancel₀ _ hzero
    change plane (along a b (min (max q 0) 1)) ∈ _ ∧
      ∀ z ∈ _, dist (plane p) (plane (along a b (min (max q 0) 1))) ≤ _
    refine ⟨mem_segment_plane_iff.mpr ⟨_, ⟨?_, min_le_right _ _⟩, rfl⟩, fun z hz => ?_⟩
    · exact le_min (le_max_right _ _) zero_le_one
    · obtain ⟨t, ht, rfl⟩ := mem_segment_plane_iff.mp hz
      rw [dist_plane_le_iff, distSq_along p a b hdot, distSq_along p a b hdot t]
      have hnonneg : 0 ≤ distSq b a := add_nonneg (mul_self_nonneg _) (mul_self_nonneg _)
      exact add_le_add_right (mul_le_mul_of_nonneg_left (sq_clamp_sub_le ht) hnonneg) _

/-! ### What cutting does -/

noncomputable section

/-- The length of a line. -/
def lineLength (coords : List (ℝ × ℝ)) : ℝ := Polyline.length (coords.map plane)

/-- The points of a line. -/
def linePoints (coords : List (ℝ × ℝ)) : Set ℂ :=
  {z | ∃ edge ∈ coords.zip coords.tail, z ∈ segment ℝ (plane edge.1) (plane edge.2)}

namespace LineGeometry

variable (geom : LineGeometry ℝ)

def length : ℝ := (geom.parts.map lineLength).sum

/-- The distance of a point to a reach. -/
def distanceTo (p : ℝ × ℝ) : ℝ :=
  Metric.infDist (plane p) {z | ∃ part ∈ geom.parts, z ∈ linePoints part}

/-- A reach is trimmed to an outlet: it has got longer by no more than the distance of the outlet,
and all its lines end there. -/
def TrimsTo (trimmed : LineGeometry ℝ) (outlet : ℝ × ℝ) : Prop :=
  trimmed.length ≤ geom.length + geom.distanceTo outlet ∧
    ∀ part ∈ trimmed.parts, part.getLast? = some outlet

end LineGeometry

/-- The last vertex of a line that is kept: the end, on the side of the other reaches, of the
segment that is nearest to the outlet. -/
def cutVertex (outlet : ℝ × ℝ) (others : List (LineGeometry ℝ)) (coords : List (ℝ × ℝ)) : ℝ × ℝ :=
  if startIsUpstream outlet others coords then coords[bestSegment outlet coords]?.getD outlet
  else coords[bestSegment outlet coords + 1]?.getD outlet

/-- The stretch of a line from that vertex on. -/
def cutOff (outlet : ℝ × ℝ) (others : List (LineGeometry ℝ)) (coords : List (ℝ × ℝ)) :
    List (ℝ × ℝ) :=
  if startIsUpstream outlet others coords then coords.drop (bestSegment outlet coords)
  else (coords.take (bestSegment outlet coords + 2)).reverse

/-- The straight way from that vertex to the outlet. -/
def connection (outlet : ℝ × ℝ) (others : List (LineGeometry ℝ)) (coords : List (ℝ × ℝ)) : ℝ :=
  dist (plane (cutVertex outlet others coords)) (plane outlet)

variable {outlet : ℝ × ℝ} {others : List (LineGeometry ℝ)} {coords : List (ℝ × ℝ)}

theorem lineLength_reverse (coords : List (ℝ × ℝ)) :
    lineLength coords.reverse = lineLength coords := by
  rw [lineLength, List.map_reverse, Polyline.length_reverse, lineLength]

theorem lineLength_take_add_lineLength_drop {i : ℕ} (hi : i < coords.length) :
    lineLength (coords.take (i + 1)) + lineLength (coords.drop i) = lineLength coords := by
  rw [lineLength, lineLength, List.map_take, List.map_drop]
  exact Polyline.length_take_add_length_drop _ (by rwa [List.length_map])

/-- Where a line is cut. -/
theorem exists_cut (outlet : ℝ × ℝ) (others : List (LineGeometry ℝ)) (h : 2 ≤ coords.length) :
    ∃ kept v w rest, keptCoords outlet others coords = kept ++ [v] ∧
      cutVertex outlet others coords = v ∧ cutOff outlet others coords = v :: w :: rest ∧
      lineLength (kept ++ [v]) + lineLength (v :: w :: rest) = lineLength coords ∧
      ∃ segment ∈ coords.zip coords.tail, (segment = (v, w) ∨ segment = (w, v)) ∧
        ∀ segment' ∈ coords.zip coords.tail,
          segmentDistSq outlet segment ≤ segmentDistSq outlet segment' := by
  obtain ⟨segment, hsegment, hnearest⟩ := @bestSegment_spec ℝ _ _ outlet coords h
  set i := bestSegment outlet coords with hi
  obtain ⟨ha, hb⟩ := List.getElem?_zip_eq_some.mp hsegment
  rw [List.getElem?_tail] at hb
  have hmem := List.mem_of_getElem? hsegment
  obtain ⟨hilt, hai⟩ := List.getElem?_eq_some_iff.mp ha
  obtain ⟨hilt', hbi⟩ := List.getElem?_eq_some_iff.mp hb
  have htake : coords.take (i + 1) = coords.take i ++ [segment.1] := by
    rw [List.take_succ_eq_append_getElem hilt, hai]
  have htake' : coords.take (i + 2) = coords.take (i + 1) ++ [segment.2] := by
    rw [List.take_succ_eq_append_getElem hilt', hbi]
  have hdrop' : coords.drop (i + 1) = segment.2 :: coords.drop (i + 2) := by
    rw [List.drop_eq_getElem_cons hilt', hbi]
  have hdrop : coords.drop i = segment.1 :: segment.2 :: coords.drop (i + 2) := by
    rw [List.drop_eq_getElem_cons hilt, hai, hdrop']
  rw [keptCoords, cutVertex, cutOff, ← hi]
  split_ifs
  · refine ⟨coords.take i, segment.1, segment.2, coords.drop (i + 2), htake, ?_, hdrop, ?_, segment,
      hmem, .inl rfl, hnearest⟩
    · rw [ha, Option.getD_some]
    · rw [← htake, ← hdrop, lineLength_take_add_lineLength_drop hilt]
  · have hkept : (coords.drop (i + 1)).reverse
        = (coords.drop (i + 2)).reverse ++ [segment.2] := by rw [hdrop', List.reverse_cons]
    have hcut : (coords.take (i + 2)).reverse
        = segment.2 :: segment.1 :: (coords.take i).reverse := by
      rw [htake', htake, List.reverse_concat, List.reverse_concat]
    refine ⟨_, segment.2, segment.1, _, hkept, ?_, hcut, ?_, segment, hmem, .inr rfl, hnearest⟩
    · rw [hb, Option.getD_some]
    · rw [← hkept, ← hcut, lineLength_reverse, lineLength_reverse, add_comm,
        lineLength_take_add_lineLength_drop hilt']

/-- A line that is cut has the connection for what is cut off. -/
theorem lineLength_truncateLine (h : 2 ≤ coords.length) :
    lineLength (truncateLine outlet others coords) + lineLength (cutOff outlet others coords)
      = lineLength coords + connection outlet others coords := by
  obtain ⟨kept, v, w, rest, hkept, hvertex, hcut, hlength, -⟩ := exists_cut outlet others h
  have htruncate : lineLength (truncateLine outlet others coords)
      = lineLength (kept ++ [v]) + dist (plane v) (plane outlet) := by
    rw [truncateLine, if_neg (not_lt.mpr h), hkept, lineLength, lineLength, List.map_append,
      List.map_append]
    exact Polyline.length_concat_concat _ _ _
  rw [htruncate, connection, hvertex, hcut, ← hlength]
  ring

/-- **A connection is no longer** than what is cut off and the distance of the outlet to the
line. -/
theorem connection_le (h : 2 ≤ coords.length) :
    connection outlet others coords
      ≤ lineLength (cutOff outlet others coords)
        + Metric.infDist (plane outlet) (linePoints coords) := by
  obtain ⟨kept, v, w, rest, -, hvertex, hcut, -, segment, hsegment, hends, hnearest⟩ :=
    exists_cut outlet others h
  obtain ⟨hproj, -⟩ := projectPointToSegment_spec outlet segment.1 segment.2
  have hne : (linePoints coords).Nonempty := ⟨_, segment, hsegment, hproj⟩
  set proj := plane (projectPointToSegment outlet segment.1 segment.2).1 with hprojdef
  -- the way to the nearest point of the line is not longer than its segment
  have hvw : dist (plane v) proj ≤ dist (plane v) (plane w) := by
    rcases hends with rfl | rfl
    · rw [← dist_add_dist_of_mem_segment hproj]
      exact le_add_of_nonneg_right dist_nonneg
    · rw [dist_comm (plane v), dist_comm (plane v), ← dist_add_dist_of_mem_segment hproj]
      exact le_add_of_nonneg_left dist_nonneg
  have hstretch : dist (plane v) (plane w) ≤ lineLength (v :: w :: rest) :=
    Polyline.dist_le_length _ _ _
  rw [← sub_le_iff_le_add', Metric.le_infDist hne]
  rintro z ⟨segment', hsegment', hz⟩
  calc connection outlet others coords - lineLength (cutOff outlet others coords)
      = dist (plane v) (plane outlet) - lineLength (v :: w :: rest) := by
        rw [connection, hvertex, hcut]
    _ ≤ dist (plane v) proj + dist proj (plane outlet) - dist (plane v) (plane w) :=
        sub_le_sub (dist_triangle _ _ _) hstretch
    _ ≤ dist (plane outlet) proj := by
        rw [dist_comm proj]
        linarith only [hvw]
    _ ≤ dist (plane outlet) (plane (projectPointToSegment outlet segment'.1 segment'.2).1) :=
        dist_plane_le_iff.mpr (hnearest segment' hsegment')
    _ ≤ dist (plane outlet) z := (projectPointToSegment_spec _ _ _).2 z hz

section Reach

variable {reach : LineGeometry ℝ}

/-- Every part of a reach is cut on its own. -/
theorem parts_truncateTerminalReach (hparts : ∀ part ∈ reach.parts, 2 ≤ part.length) :
    (truncateTerminalReach reach outlet others).parts
      = reach.parts.map (truncateLine outlet others) := by
  cases reach with
  | lineString coords => rfl
  | other typeName => rfl
  | multiLineString lines =>
    have hfilter : (lines.map (truncateLine outlet others)).filter (· ≠ [])
        = lines.map (truncateLine outlet others) := by
      rw [List.filter_eq_self]
      intro line hline
      obtain ⟨part, hpart, rfl⟩ := List.mem_map.mp hline
      rw [truncateLine, if_neg (not_lt.mpr (hparts part hpart))]
      exact decide_eq_true (List.concat_ne_nil _ _)
    rw [truncateTerminalReach, hfilter]
    change _ = lines.map (truncateLine outlet others)
    cases lines.map (truncateLine outlet others) with
    | nil => rfl
    | cons line lines => cases lines <;> rfl

theorem length_truncateTerminalReach (hparts : ∀ part ∈ reach.parts, 2 ≤ part.length) :
    (truncateTerminalReach reach outlet others).length
        + (reach.parts.map fun part => lineLength (cutOff outlet others part)).sum
      = reach.length + (reach.parts.map (connection outlet others)).sum := by
  rw [LineGeometry.length, parts_truncateTerminalReach hparts, List.map_map, LineGeometry.length,
    ← List.sum_map_add, ← List.sum_map_add]
  refine congrArg List.sum (List.map_congr_left fun part hpart => ?_)
  exact lineLength_truncateLine (hparts part hpart)

/-- A reach gets longer by no more than the distances of the outlet to its lines. -/
theorem length_truncateTerminalReach_le (hparts : ∀ part ∈ reach.parts, 2 ≤ part.length) :
    (truncateTerminalReach reach outlet others).length ≤ reach.length
      + (reach.parts.map fun part => Metric.infDist (plane outlet) (linePoints part)).sum := by
  have hsum : (reach.parts.map (connection outlet others)).sum
      ≤ (reach.parts.map fun part => lineLength (cutOff outlet others part)).sum
        + (reach.parts.map fun part => Metric.infDist (plane outlet) (linePoints part)).sum := by
    rw [← List.sum_map_add]
    exact List.sum_le_sum fun part hpart => connection_le (hparts part hpart)
  have hlength := @length_truncateTerminalReach outlet others reach hparts
  linarith only [hsum, hlength]

/-- The distances of a point to the lines of a reach are together no more than its distance to the
reach, if there is one line, or if all lines pass through the point. -/
theorem sum_infDist_le
    (h : reach.parts.length ≤ 1 ∨ ∀ part ∈ reach.parts, plane outlet ∈ linePoints part) :
    (reach.parts.map fun part => Metric.infDist (plane outlet) (linePoints part)).sum
      ≤ reach.distanceTo outlet := by
  rw [LineGeometry.distanceTo]
  rcases h with hone | hthrough
  · cases hreach : reach.parts with
    | nil => exact Metric.infDist_nonneg
    | cons part parts =>
      rw [hreach, List.length_cons, Nat.succ_le_succ_iff, Nat.le_zero] at hone
      obtain rfl := List.eq_nil_of_length_eq_zero hone
      simp only [List.map_cons, List.map_nil, List.sum_singleton, List.mem_singleton,
        exists_eq_left, Set.ofPred_mem_eq, le_refl]
  · have hzero : (reach.parts.map fun part => Metric.infDist (plane outlet) (linePoints part)).sum
        = 0 := by
      refine List.sum_eq_zero fun distance hdistance => ?_
      obtain ⟨part, hpart, rfl⟩ := List.mem_map.mp hdistance
      exact Metric.infDist_zero_of_mem (hthrough part hpart)
    rw [hzero]
    exact Metric.infDist_nonneg

theorem getLast?_of_mem_parts (hparts : ∀ part ∈ reach.parts, 2 ≤ part.length) :
    ∀ part ∈ (truncateTerminalReach reach outlet others).parts, part.getLast? = some outlet := by
  rw [parts_truncateTerminalReach hparts]
  intro line hline
  obtain ⟨part, hpart, rfl⟩ := List.mem_map.mp hline
  rw [truncateLine, if_neg (not_lt.mpr (hparts part hpart))]
  exact List.getLast?_concat

/-- **When a reach is trimmed.** It gets no longer than it may, and all its lines end at the outlet,
when it has one line, or when all its lines pass through the outlet. -/
theorem truncateTerminalReach_trims (hparts : ∀ part ∈ reach.parts, 2 ≤ part.length)
    (hthrough : reach.parts.length ≤ 1 ∨ ∀ part ∈ reach.parts, plane outlet ∈ linePoints part)
    (others : List (LineGeometry ℝ)) :
    reach.TrimsTo (truncateTerminalReach reach outlet others) outlet := by
  have hsum : (reach.parts.map fun part => Metric.infDist (plane outlet) (linePoints part)).sum
      ≤ reach.distanceTo outlet := sum_infDist_le hthrough
  have hlength : (truncateTerminalReach reach outlet others).length ≤ reach.length
      + (reach.parts.map fun part => Metric.infDist (plane outlet) (linePoints part)).sum :=
    length_truncateTerminalReach_le hparts
  exact ⟨by linarith only [hsum, hlength], getLast?_of_mem_parts hparts⟩

end Reach

end

/-- Two lines that cross at the outlet. -/
theorem truncateTerminalReach_trims_crossing :
    (LineGeometry.multiLineString [[(0, 0), (2, 0)], [(1, 1), (1, -1)]]).TrimsTo
      (truncateTerminalReach (.multiLineString [[(0, 0), (2, 0)], [(1, 1), (1, -1)]]) (1, 0) [])
      (1, 0) := by
  have hmiddle {a b : ℝ × ℝ} (h : along a b (1 / 2) = (1, 0)) : plane (1, 0) ∈ linePoints [a, b] :=
    ⟨(a, b), List.mem_cons_self, mem_segment_plane_iff.mpr
      ⟨1 / 2, ⟨by norm_num, by norm_num⟩, congrArg plane h⟩⟩
  refine truncateTerminalReach_trims (fun part hpart => ?_) (.inr fun part hpart => ?_) []
  · rcases List.mem_pair.mp hpart with rfl | rfl <;> exact le_rfl
  · rcases List.mem_pair.mp hpart with rfl | rfl
    · exact hmiddle (by norm_num [along])
    · exact hmiddle (by norm_num [along])

/-- A reach of two lines that are apart. -/
def apartReach : LineGeometry ℝ := .multiLineString [[(0, 0), (1, 0)], [(10, 0), (11, 0)]]

/-- A reach that gets longer: its second line is joined to the end of the first one. -/
theorem not_trimsTo_apartReach : (∀ part ∈ apartReach.parts, 2 ≤ part.length) ∧
    ¬apartReach.TrimsTo (truncateTerminalReach apartReach (1, 0) []) (1, 0) := by
  have hparts : ∀ part ∈ apartReach.parts, 2 ≤ part.length := by
    simp [apartReach, LineGeometry.parts]
  have hbest (a b : ℝ × ℝ) : bestSegment (1, 0) [a, b] = 0 := by
    simp [bestSegment]
  have hfirst : truncateLine (1, 0) [] [(0, 0), (1, 0)] = [((0 : ℝ), (0 : ℝ)), (1, 0)] := by
    simp [truncateLine, keptCoords, startIsUpstream, hbest, distSq]
  have hsecond : truncateLine (1, 0) [] [(10, 0), (11, 0)] = [((11 : ℝ), (0 : ℝ)), (1, 0)] := by
    norm_num [truncateLine, keptCoords, startIsUpstream, hbest, distSq]
  have hlength (a b : ℝ) : lineLength [(a, 0), (b, 0)] = |a - b| := by
    simp [lineLength, dist_plane, distSq, Real.sqrt_mul_self_eq_abs]
  -- the outlet is on the reach
  have hdistance : apartReach.distanceTo (1, 0) ≤ 0 := by
    refine (Metric.infDist_le_dist_of_mem ?_).trans (dist_self (plane (1, 0))).le
    exact ⟨[(0, 0), (1, 0)], List.mem_cons_self, ((0, 0), (1, 0)), List.mem_cons_self,
      right_mem_segment ℝ _ _⟩
  refine ⟨hparts, fun h => ?_⟩
  have hle := h.1
  rw [LineGeometry.length, LineGeometry.length, parts_truncateTerminalReach hparts] at hle
  simp only [apartReach, LineGeometry.parts, List.map_cons, List.map_nil, hfirst, hsecond, hlength,
    List.sum_cons, List.sum_nil] at hle hdistance
  norm_num at hle
  linarith

end WatershedDelineation
