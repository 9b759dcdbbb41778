import Mathlib.Data.List.Chain
import Mathlib.Data.Nat.Periodic
import Mathlib.Tactic.IntervalCases
import Mathlib.Tactic.LinearCombination
import Mathlib.Tactic.Positivity
import WatershedDelineation.General.RingWinding

/-!
# Offsetting rings

`algo/clean_topology.rs` expands polygons and shrinks them back, to close gaps. A ring is offset
along the right-hand normals of its edges (`offsetRing`), here in exact arithmetic.

A convex ring that winds counter-clockwise has its normals outward, and its offset encloses all of
it (`grows_of_counterClockwise`). One that winds clockwise has them inward, and a small offset loses
a vertex (`exists_not_grows_of_clockwise`).
-/

namespace WatershedDelineation

open RingWinding

noncomputable section

/-- Below this the join of two edges is a bevel. -/
def mitreDenomThreshold : ℝ := 0.08

/-- Vertices that are nearer to each other are one vertex. -/
def dedupThreshold : ℝ := 1e-7

def minRingVertices : ℕ := 3

/-- The right-hand unit normal of an edge. -/
def edgeNormal (a b : ℝ × ℝ) : Option (ℝ × ℝ) :=
  let dx := b.1 - a.1
  let dy := b.2 - a.2
  let len := √(dx * dx + dy * dy)
  if len < 1e-15 then none else some (dy / len, -dx / len)

/-- The offset of a vertex between two edges with normals. -/
def joinOffset (distance : ℝ) (curr n1 n2 : ℝ × ℝ) : List (ℝ × ℝ) :=
  let cosAngle := n1.1 * n2.1 + n1.2 * n2.2
  let denom := 1 + cosAngle
  if denom < mitreDenomThreshold then
    [(curr.1 + distance * n1.1, curr.2 + distance * n1.2),
      (curr.1 + distance * n2.1, curr.2 + distance * n2.2)]
  else
    let mx := (n1.1 + n2.1) / denom
    let my := (n1.2 + n2.2) / denom
    [(curr.1 + distance * mx, curr.2 + distance * my)]

/-- The offset of a vertex; one at an edge without a normal is left out. -/
def offsetVertex (distance : ℝ) (prev curr next : ℝ × ℝ) : List (ℝ × ℝ) :=
  match edgeNormal prev curr, edgeNormal curr next with
  | some n1, some n2 => joinOffset distance curr n1 n2
  | _, _ => []

/-- Leave out the points that are near to the last one that is kept. -/
def dedupFrom (last : ℝ × ℝ) : List (ℝ × ℝ) → List (ℝ × ℝ)
  | [] => []
  | c :: coords =>
    let dx := c.1 - last.1
    let dy := c.2 - last.2
    if dedupThreshold * dedupThreshold < dx * dx + dy * dy then c :: dedupFrom c coords
    else dedupFrom last coords

def dedupRing : List (ℝ × ℝ) → List (ℝ × ℝ)
  | [] => []
  | c :: coords => c :: dedupFrom c coords

/-- Offset a ring. -/
def offsetRing (coords : List (ℝ × ℝ)) (distance : ℝ) : List (ℝ × ℝ) :=
  if coords.length < 4 then []
  else
    let n := coords.length - 1
    let result := (List.range n).flatMap fun i =>
      offsetVertex distance (coords.getD ((i + n - 1) % n) (0, 0)) (coords.getD i (0, 0))
        (coords.getD ((i + 1) % n) (0, 0))
    let deduped := dedupRing result
    if minRingVertices ≤ deduped.length then deduped ++ deduped.head?.toList else deduped

end

/-! ### Joins -/

section Join

variable {distance : ℝ} {curr v n1 n2 : ℝ × ℝ}

/-- Normals whose turn is proper are not opposite. -/
theorem denom_pos (h1 : dot n1 n1 = 1) (h2 : dot n2 n2 = 1) (hcross : cross n1 n2 ≠ 0) :
    0 < 1 + dot n1 n2 := by
  have hsum : dot n1 n2 ^ 2 + cross n1 n2 ^ 2 = 1 := by
    have hlagrange : dot n1 n2 ^ 2 + cross n1 n2 ^ 2 = dot n1 n1 * dot n2 n2 := by
      simp only [dot, cross]
      ring
    rw [hlagrange, h1, h2, one_mul]
  have hlt : dot n1 n2 ^ 2 < 1 := by
    have hpos := pow_pos (abs_pos.mpr hcross) 2
    rw [sq_abs] at hpos
    linarith
  have habs := abs_lt.mp ((sq_lt_one_iff_abs_lt_one _).mp hlt)
  linarith [habs.1]

/-- The point at a mitre, seen from the edge before it and from the edge after it: it is off the
line of the edge by one, and beyond the vertex by the same length of both. -/
theorem mitre_eq (h1 : dot n1 n1 = 1) (h2 : dot n2 n2 = 1) (hdenom : 0 < 1 + dot n1 n2) :
    let τ := cross n1 n2 / (1 + dot n1 n2)
    ((n1.1 + n2.1) / (1 + dot n1 n2) = n1.1 - τ * n1.2 ∧
      (n1.2 + n2.2) / (1 + dot n1 n2) = n1.2 + τ * n1.1) ∧
    (n1.1 + n2.1) / (1 + dot n1 n2) = n2.1 + τ * n2.2 ∧
      (n1.2 + n2.2) / (1 + dot n1 n2) = n2.2 - τ * n2.1 := by
  intro τ
  have hτ : τ * (1 + dot n1 n2) = cross n1 n2 := div_mul_cancel₀ _ hdenom.ne'
  clear_value τ
  simp only [div_eq_iff hdenom.ne']
  simp only [dot, cross] at h1 h2 hτ ⊢
  refine ⟨⟨?_, ?_⟩, ?_, ?_⟩
  · linear_combination n1.2 * hτ - n2.1 * h1
  · linear_combination -n1.1 * hτ - n2.2 * h1
  · linear_combination -n2.2 * hτ - n1.1 * h2
  · linear_combination n2.1 * hτ - n1.2 * h2

/-- Where the offset of a vertex begins and ends: off the lines of its edges by the distance, and
not before the vertex. -/
structure JoinEnds (distance : ℝ) (curr n1 n2 : ℝ × ℝ) (points : List (ℝ × ℝ)) : Prop where
  first : ∃ τ, 0 ≤ τ ∧ points.head?
    = some (curr.1 + distance * (n1.1 - τ * n1.2), curr.2 + distance * (n1.2 + τ * n1.1))
  last : ∃ τ, 0 ≤ τ ∧ points.getLast?
    = some (curr.1 + distance * (n2.1 + τ * n2.2), curr.2 + distance * (n2.2 - τ * n2.1))

theorem joinEnds_joinOffset (h1 : dot n1 n1 = 1) (h2 : dot n2 n2 = 1)
    (hcross : 0 < cross n1 n2) :
    JoinEnds distance curr n1 n2 (joinOffset distance curr n1 n2) := by
  have hdenom := denom_pos h1 h2 hcross.ne'
  rw [joinOffset]
  dsimp only
  split_ifs
  · refine ⟨⟨0, le_rfl, ?_⟩, 0, le_rfl, ?_⟩
    · simp
    · simp
  · obtain ⟨⟨hfirst, hfirst'⟩, hlast, hlast'⟩ := mitre_eq h1 h2 hdenom
    have hτ : 0 ≤ cross n1 n2 / (1 + dot n1 n2) := div_nonneg hcross.le hdenom.le
    rw [dot] at *
    refine ⟨⟨_, hτ, ?_⟩, _, hτ, ?_⟩
    · rw [List.head?_cons, ← hfirst, ← hfirst']
    · rw [List.getLast?_singleton, ← hlast, ← hlast']

/-- An edge along a normal, and an offset of it that goes beyond both of its ends. -/
theorem cross_offset_edge {n a b x y : ℝ × ℝ} {len τ τ' : ℝ} (hn : dot n n = 1)
    (hb : b = (a.1 - len * n.2, a.2 + len * n.1))
    (hx : x = (a.1 + distance * (n.1 + τ * n.2), a.2 + distance * (n.2 - τ * n.1)))
    (hy : y = (b.1 + distance * (n.1 - τ' * n.2), b.2 + distance * (n.2 + τ' * n.1))) :
    cross (x - v) (y - v) = (len + distance * (τ + τ')) * (dot (a - v) n + distance) ∧
      dot (y - x) (y - x) = (len + distance * (τ + τ')) ^ 2 := by
  subst hb hx hy
  simp only [dot, cross, Prod.fst_sub, Prod.snd_sub] at hn ⊢
  constructor
  · linear_combination (len + distance * (τ + τ')) * distance * hn
  · linear_combination (len + distance * (τ + τ')) ^ 2 * hn

/-- The edge that a bevel adds. -/
theorem cross_offset_bevel (h1 : dot n1 n1 = 1) (h2 : dot n2 n2 = 1) {x y : ℝ × ℝ}
    (hx : x = (curr.1 + distance * n1.1, curr.2 + distance * n1.2))
    (hy : y = (curr.1 + distance * n2.1, curr.2 + distance * n2.2)) :
    cross (x - v) (y - v) * (1 + dot n1 n2)
        = distance * cross n1 n2 *
          (dot (curr - v) n1 + dot (curr - v) n2 + distance * (1 + dot n1 n2)) ∧
      dot (y - x) (y - x) = distance ^ 2 * (2 - 2 * dot n1 n2) := by
  subst hx hy
  simp only [dot, cross, Prod.fst_sub, Prod.snd_sub] at h1 h2 ⊢
  constructor
  · linear_combination -distance * ((curr.1 - v.1) * n2.2 - (curr.2 - v.2) * n2.1) * h1
      + distance * ((curr.1 - v.1) * n1.2 - (curr.2 - v.2) * n1.1) * h2
  · linear_combination distance ^ 2 * h1 + distance ^ 2 * h2

end Join

/-! ### Convex rings -/

inductive Winding
  | counterClockwise
  | clockwise
  deriving DecidableEq, Repr

def Winding.sign : Winding → ℝ
  | .counterClockwise => 1
  | .clockwise => -1

/-- The vertices of a closed ring, round and round. -/
def corner (coords : List (ℝ × ℝ)) (i : ℕ) : ℝ × ℝ := coords.getD (i % (coords.length - 1)) (0, 0)

noncomputable def edgeLength (a b : ℝ × ℝ) : ℝ := √(dot (b - a) (b - a))

/-- A closed ring that has all its vertices strictly on one side of the edges that they are not
on. -/
structure StrictlyConvex (winding : Winding) (coords : List (ℝ × ℝ)) : Prop where
  length : 4 ≤ coords.length
  closed : coords.head? = coords.getLast?
  side : ∀ i < coords.length - 1, ∀ j < coords.length - 1, j ≠ i →
    j ≠ (i + 1) % (coords.length - 1) →
      0 < winding.sign *
        cross (corner coords (i + 1) - corner coords i) (corner coords j - corner coords i)

/-- All edges of a ring are longer than the resolution. -/
def LongEdges (coords : List (ℝ × ℝ)) : Prop :=
  ∀ i < coords.length - 1, 1e-6 < edgeLength (corner coords i) (corner coords (i + 1))

/-- A ring grows when its offset encloses all its vertices. -/
def Grows (coords : List (ℝ × ℝ)) (distance : ℝ) : Prop :=
  ∀ v ∈ coords, Encloses (offsetRing coords distance) v

/-- The normal of a long edge. -/
theorem exists_edgeNormal {a b : ℝ × ℝ} (h : 1e-6 < edgeLength a b) :
    ∃ n, edgeNormal a b = some n ∧ dot n n = 1 ∧
      b = (a.1 - edgeLength a b * n.2, a.2 + edgeLength a b * n.1) := by
  have hpos : 0 < edgeLength a b := lt_trans (by norm_num) h
  have hsq : edgeLength a b ^ 2 = dot (b - a) (b - a) := Real.sq_sqrt (Real.sqrt_pos.mp hpos).le
  refine ⟨((b.2 - a.2) / edgeLength a b, -(b.1 - a.1) / edgeLength a b), ?_, ?_, ?_⟩
  · rw [edgeNormal]
    refine if_neg (not_lt.mpr (le_trans ?_ h.le))
    norm_num
  · rw [dot, Prod.fst_sub, Prod.snd_sub] at hsq
    rw [dot, div_mul_div_comm, div_mul_div_comm, ← add_div, div_eq_one_iff_eq (by positivity)]
    linear_combination -hsq
  · refine Prod.ext ?_ ?_
    · dsimp only
      rw [mul_div_cancel₀ _ hpos.ne']
      ring
    · dsimp only
      rw [mul_div_cancel₀ _ hpos.ne']
      ring

/-- The vertices of a convex ring, with the normals and the lengths of the edges that begin at
them. -/
structure Corners (winding : Winding) (n : ℕ) (V N : ℕ → ℝ × ℝ) (len : ℕ → ℝ) : Prop where
  three : 3 ≤ n
  period : ∀ i, V (i + n) = V i
  unit : ∀ i, dot (N i) (N i) = 1
  long : ∀ i, 1e-6 < len i
  next : ∀ i, V (i + 1) = ((V i).1 - len i * (N i).2, (V i).2 + len i * (N i).1)
  normal : ∀ i, edgeNormal (V i) (V (i + 1)) = some (N i)
  side : ∀ i j, j % n ≠ i % n → j % n ≠ (i + 1) % n →
    0 < winding.sign * dot (V i - V j) (N i)

section Corners

variable {winding : Winding} {coords : List (ℝ × ℝ)}

theorem corner_mod (coords : List (ℝ × ℝ)) (i : ℕ) :
    corner coords (i % (coords.length - 1)) = corner coords i := by
  rw [corner, corner, Nat.mod_mod]

theorem corner_mod_add_one (coords : List (ℝ × ℝ)) (i : ℕ) :
    corner coords (i % (coords.length - 1) + 1) = corner coords (i + 1) := by
  rw [corner, corner, Nat.mod_add_mod]

theorem exists_corner_of_mem (h : StrictlyConvex winding coords) {v : ℝ × ℝ} (hv : v ∈ coords) :
    ∃ i, corner coords i = v := by
  obtain ⟨i, hi⟩ := List.mem_iff_getElem?.mp hv
  have hlength := h.length
  have hlt := (List.getElem?_eq_some_iff.mp hi).1
  rcases Nat.lt_or_ge i (coords.length - 1) with hlt' | hge
  · refine ⟨i, ?_⟩
    rw [corner, Nat.mod_eq_of_lt hlt', List.getD_eq_getElem?_getD, hi, Option.getD_some]
  · -- the last vertex is the first one
    have hclosed := h.closed
    obtain rfl : i = coords.length - 1 := by omega
    rw [List.getLast?_eq_getElem?, hi, List.head?_eq_getElem?] at hclosed
    refine ⟨0, ?_⟩
    rw [corner, Nat.zero_mod, List.getD_eq_getElem?_getD, hclosed, Option.getD_some]

theorem exists_corners (h : StrictlyConvex winding coords) (hlong : LongEdges coords) :
    ∃ N len, Corners winding (coords.length - 1) (corner coords) N len := by
  have hlength := h.length
  have hmod : ∀ i, i % (coords.length - 1) < coords.length - 1 := fun i =>
    Nat.mod_lt _ (by omega)
  have hedge : ∀ i, 1e-6 < edgeLength (corner coords i) (corner coords (i + 1)) := by
    intro i
    have := hlong _ (hmod i)
    rwa [corner_mod, corner_mod_add_one] at this
  choose N hnormal hunit hnext using fun i => exists_edgeNormal (hedge i)
  refine ⟨N, fun i => edgeLength (corner coords i) (corner coords (i + 1)), ?_⟩
  constructor
  · omega
  · intro i
    rw [corner, corner, Nat.add_mod_right]
  · exact hunit
  · exact hedge
  · exact hnext
  · exact hnormal
  · intro i j hi hj
    have hside := h.side _ (hmod i) _ (hmod j) hi (by rwa [Nat.mod_add_mod])
    rw [corner_mod, corner_mod_add_one, corner_mod] at hside
    have hcross :
        cross (corner coords (i + 1) - corner coords i) (corner coords j - corner coords i)
        = edgeLength (corner coords i) (corner coords (i + 1))
          * dot (corner coords i - corner coords j) (N i) := by
      have hi := hnext i
      obtain ⟨hfst, hsnd⟩ := Prod.ext_iff.mp hi
      dsimp only at hfst hsnd
      simp only [cross, dot, Prod.fst_sub, Prod.snd_sub]
      linear_combination ((corner coords j).2 - (corner coords i).2) * hfst
        - ((corner coords j).1 - (corner coords i).1) * hsnd
    rw [hcross, mul_left_comm] at hside
    exact pos_of_mul_pos_right hside (le_trans (by norm_num) (hedge i).le)

end Corners

namespace Corners

variable {winding : Winding} {n : ℕ} {V N : ℕ → ℝ × ℝ} {len : ℕ → ℝ} {distance : ℝ}

/-- The offset of a vertex. -/
noncomputable def joinAt (n : ℕ) (V : ℕ → ℝ × ℝ) (distance : ℝ) (i : ℕ) : List (ℝ × ℝ) :=
  offsetVertex distance (V (i + n - 1)) (V i) (V (i + 1))

/-- The offsets of the vertices of a ring. -/
noncomputable def offsets (n : ℕ) (V : ℕ → ℝ × ℝ) (distance : ℝ) : List (ℝ × ℝ) :=
  (List.range n).flatMap (joinAt n V distance)

section Sides

variable (h : Corners winding n V N len)
include h

theorem mod_ne (i : ℕ) :
    (i + 2) % n ≠ i % n ∧ (i + 2) % n ≠ (i + 1) % n ∧ (i + 1) % n ≠ i % n := by
  have hthree := h.three
  have hne (j k : ℕ) (hk : 0 < k) (hkn : k < n) : (j + k) % n ≠ j % n := by
    intro heq
    have hdvd : n ∣ j + k - j := (Nat.modEq_iff_dvd' (Nat.le_add_right j k)).mp heq.symm
    rw [Nat.add_sub_cancel_left] at hdvd
    exact absurd (Nat.le_of_dvd hk hdvd) (not_le.mpr hkn)
  exact ⟨hne i 2 (by omega) (by omega), hne (i + 1) 1 (by omega) (by omega),
    hne i 1 (by omega) (by omega)⟩

theorem len_pos (i : ℕ) : 0 < len i := lt_trans (by norm_num) (h.long i)

theorem vertex_mod (i : ℕ) : V (i % n) = V i := Function.Periodic.map_mod_nat h.period i

theorem dot_next (i : ℕ) : dot (V i - V (i + 1)) (N i) = 0 := by
  rw [h.next]
  simp only [dot, Prod.fst_sub, Prod.snd_sub]
  ring

/-- No vertex is beyond an edge. -/
theorem side_nonneg (i j : ℕ) : 0 ≤ winding.sign * dot (V i - V j) (N i) := by
  by_cases hi : j % n = i % n
  · rw [← h.vertex_mod j, hi, h.vertex_mod, sub_self]
    simp [dot]
  · by_cases hi' : j % n = (i + 1) % n
    · rw [← h.vertex_mod j, hi', h.vertex_mod, h.dot_next, mul_zero]
    · exact (h.side i j hi hi').le

/-- The normals turn with the ring. -/
theorem cross_normal (i : ℕ) : 0 < winding.sign * cross (N i) (N (i + 1)) := by
  obtain ⟨hi, hi', -⟩ := h.mod_ne i
  have hside := h.side i (i + 2) hi hi'
  have hdot : dot (V i - V (i + 2)) (N i) = len (i + 1) * cross (N i) (N (i + 1)) := by
    have hzero := h.dot_next i
    rw [h.next (i + 1)]
    simp only [dot, cross, Prod.fst_sub, Prod.snd_sub] at hzero ⊢
    linear_combination hzero
  rw [hdot, mul_left_comm] at hside
  exact pos_of_mul_pos_right hside (h.len_pos _).le

theorem normal_period (i : ℕ) : N (i + n) = N i := by
  have hperiod : V (i + n + 1) = V (i + 1) := by rw [Nat.add_right_comm, h.period]
  have hnormal := h.normal (i + n)
  rw [h.period, hperiod, h.normal i] at hnormal
  exact (Option.some.inj hnormal).symm

theorem offsetVertex_eq (i : ℕ) : offsetVertex distance (V i) (V (i + 1)) (V (i + 2))
    = joinOffset distance (V (i + 1)) (N i) (N (i + 1)) := by
  rw [offsetVertex, h.normal, h.normal (i + 1)]

end Sides

/-- The offset of a vertex, with the edge before it counted from the same beginning. -/
theorem joinAt_eq (h : Corners winding n V N len) (i : ℕ) :
    V (i + n - 1 + 1) = V i ∧ joinAt n V distance i
      = joinOffset distance (V (i + n - 1 + 1)) (N (i + n - 1)) (N (i + n - 1 + 1)) := by
  have hthree := h.three
  have hi : V (i + n - 1 + 1) = V i := by
    rw [← h.period i]
    congr 1
    omega
  have hi' : V (i + n - 1 + 2) = V (i + 1) := by
    rw [← h.period (i + 1)]
    congr 1
    omega
  rw [← h.offsetVertex_eq, hi, hi']
  exact ⟨rfl, rfl⟩

theorem joinAt_period (h : Corners winding n V N len) (i : ℕ) :
    joinAt n V distance (i + n) = joinAt n V distance i := by
  have hthree := h.three
  have hbefore : V (i + n + n - 1) = V (i + n - 1) := by
    rw [← h.period (i + n - 1)]
    congr 1
    omega
  rw [joinAt, joinAt, hbefore, h.period, Nat.add_right_comm, h.period]

theorem head?_offsets (h : Corners winding n V N len) {first : ℝ × ℝ}
    (hfirst : (joinAt n V distance 0).head? = some first) :
    (offsets n V distance).head? = some first := by
  have hthree := h.three
  obtain ⟨m, rfl⟩ : ∃ m, n = m + 1 := ⟨n - 1, by omega⟩
  rw [offsets, List.range_succ_eq_map, List.flatMap_cons, List.head?_append, hfirst]
  rfl

/-- A clockwise ring is on one side of the line through a vertex across its normals. -/
theorem dot_normals_pos (h : Corners .clockwise n V N len) {i k : ℕ} (hk : k % n ≠ (i + 1) % n) :
    0 < dot (N i + N (i + 1)) (V k - V (i + 1)) := by
  have hsum : dot (N i + N (i + 1)) (V k - V (i + 1))
      = -1 * dot (V i - V k) (N i) + -1 * dot (V (i + 1) - V k) (N (i + 1)) := by
    have hzero := h.dot_next i
    simp only [dot, Prod.fst_sub, Prod.snd_sub, Prod.fst_add, Prod.snd_add] at hzero ⊢
    linear_combination hzero
  rw [hsum]
  by_cases hk' : k % n = (i + 2) % n
  · refine add_pos_of_pos_of_nonneg (h.side i k ?_ hk) (h.side_nonneg (i + 1) k)
    rw [hk']
    exact (h.mod_ne i).1
  · exact add_pos_of_nonneg_of_pos (h.side_nonneg i k) (h.side (i + 1) k hk hk')

/-! ### Outward offsets -/

/-- An edge of an offset ring: it is not removed, and it has all vertices of the ring on its
left. -/
structure OffsetEdge (V : ℕ → ℝ × ℝ) (x y : ℝ × ℝ) : Prop where
  kept : dedupThreshold * dedupThreshold < dot (y - x) (y - x)
  left : ∀ j, 0 < cross (x - V j) (y - V j)

section Outward

variable (h : Corners .counterClockwise n V N len) (hdistance : 1e-6 ≤ distance)
include h hdistance

/-- The join at a vertex. -/
theorem isChain_joinOffset (i : ℕ) :
    (joinOffset distance (V (i + 1)) (N i) (N (i + 1))).IsChain (OffsetEdge V) := by
  have hpos : 0 < distance := lt_of_lt_of_le (by norm_num) hdistance
  have hcross : 0 < cross (N i) (N (i + 1)) := by simpa [Winding.sign] using h.cross_normal i
  have hdenom := denom_pos (h.unit i) (h.unit (i + 1)) hcross.ne'
  rw [joinOffset]
  dsimp only
  split_ifs with hbevel
  · rw [List.isChain_pair]
    have hjoin := fun v => @cross_offset_bevel distance (V (i + 1)) v _ _ (h.unit i)
      (h.unit (i + 1)) _ _ rfl rfl
    constructor
    · rw [(hjoin 0).2]
      change 1 + dot (N i) (N (i + 1)) < mitreDenomThreshold at hbevel
      have hsq : (1e-6 : ℝ) ^ 2 ≤ distance ^ 2 := pow_le_pow_left₀ (by norm_num) hdistance 2
      rw [mitreDenomThreshold] at hbevel
      rw [dedupThreshold]
      nlinarith
    · intro j
      have hbefore : 0 ≤ dot (V (i + 1) - V j) (N i) := by
        have hside := h.side_nonneg i j
        have hzero := h.dot_next i
        simp only [Winding.sign, one_mul, dot, Prod.fst_sub, Prod.snd_sub] at hside hzero ⊢
        linarith
      have hafter : 0 ≤ dot (V (i + 1) - V j) (N (i + 1)) := by
        simpa [Winding.sign] using h.side_nonneg (i + 1) j
      refine pos_of_mul_pos_left ?_ hdenom.le
      rw [(hjoin (V j)).1]
      positivity
  · exact List.IsChain.singleton _

/-- The edge between the joins of two vertices. -/
theorem offsetEdge_joins (i : ℕ) :
    ∀ x ∈ (joinOffset distance (V (i + 1)) (N i) (N (i + 1))).getLast?,
      ∀ y ∈ (joinOffset distance (V (i + 2)) (N (i + 1)) (N (i + 2))).head?,
        OffsetEdge V x y := by
  have hpos : 0 < distance := lt_of_lt_of_le (by norm_num) hdistance
  have hcross : ∀ i, 0 < cross (N i) (N (i + 1)) := fun i => by
    simpa [Winding.sign] using h.cross_normal i
  obtain ⟨-, τ, hτ, hlast⟩ :=
    @joinEnds_joinOffset distance (V (i + 1)) _ _ (h.unit i) (h.unit (i + 1)) (hcross i)
  obtain ⟨⟨τ', hτ', hfirst⟩, -⟩ :=
    @joinEnds_joinOffset distance (V (i + 2)) _ _ (h.unit (i + 1)) (h.unit (i + 2)) (hcross (i + 1))
  intro x hx y hy
  rw [hlast, Option.mem_some] at hx
  rw [hfirst, Option.mem_some] at hy
  have hedge := fun v => @cross_offset_edge distance v _ _ _ x y _ τ τ' (h.unit (i + 1))
    (h.next (i + 1)) hx.symm hy.symm
  have hlen : len (i + 1) ≤ len (i + 1) + distance * (τ + τ') :=
    le_add_of_nonneg_right (by positivity)
  have hlong := h.long (i + 1)
  constructor
  · rw [(hedge 0).2, dedupThreshold, ← sq]
    refine pow_lt_pow_left₀ (lt_of_lt_of_le (lt_trans ?_ hlong) hlen) (by norm_num) two_ne_zero
    norm_num
  · intro j
    have hside : 0 ≤ dot (V (i + 1) - V j) (N (i + 1)) := by
      simpa [Winding.sign] using h.side_nonneg (i + 1) j
    have hlenpos := h.len_pos (i + 1)
    rw [(hedge (V j)).1]
    positivity

omit hdistance in
theorem exists_head?_joinAt (i : ℕ) : ∃ x, (joinAt n V distance i).head? = some x := by
  have hcross : ∀ i, 0 < cross (N i) (N (i + 1)) := fun i => by
    simpa [Winding.sign] using h.cross_normal i
  obtain ⟨⟨τ, -, hfirst⟩, -⟩ := @joinEnds_joinOffset distance (V (i + n - 1 + 1)) _ _
    (h.unit (i + n - 1)) (h.unit (i + n - 1 + 1)) (hcross _)
  exact ⟨_, (h.joinAt_eq i).2.symm ▸ hfirst⟩

omit hdistance in
theorem nil_notMem_joins (m : ℕ) : [] ∉ (List.range m).map (joinAt n V distance) := by
  intro hmem
  obtain ⟨i, -, hi⟩ := List.mem_map.mp hmem
  obtain ⟨x, hx⟩ := @exists_head?_joinAt _ _ _ _ distance h i
  rw [hi] at hx
  cases hx

omit hdistance in
theorem three_le_length_offsets : 3 ≤ (offsets n V distance).length := by
  have hlength : ∀ k ∈ ((List.range n).map (joinAt n V distance)).map List.length, 1 ≤ k := by
    intro k hk
    obtain ⟨l, hl, rfl⟩ := List.mem_map.mp hk
    exact List.length_pos_of_ne_nil fun hnil => h.nil_notMem_joins n (hnil ▸ hl)
  have hsum := List.card_nsmul_le_sum _ _ hlength
  rw [List.length_map, List.length_map, List.length_range, smul_eq_mul, mul_one,
    ← List.length_flatten, ← List.flatMap_def] at hsum
  exact h.three.trans hsum

/-- The joins of any number of vertices, round and round. -/
theorem isChain_joins (m : ℕ) :
    ((List.range m).map (joinAt n V distance)).flatten.IsChain (OffsetEdge V) := by
  have hthree := h.three
  rw [List.isChain_flatten (h.nil_notMem_joins m)]
  constructor
  · intro l hl
    obtain ⟨i, -, rfl⟩ := List.mem_map.mp hl
    rw [(h.joinAt_eq i).2]
    exact h.isChain_joinOffset hdistance _
  · rw [List.isChain_map, List.isChain_range]
    intro i _
    have hi : i + 1 + n - 1 = i + n - 1 + 1 := by omega
    rw [(h.joinAt_eq i).2, (h.joinAt_eq _).2, Nat.succ_eq_add_one, hi]
    exact h.offsetEdge_joins hdistance _

/-- The offset of a convex ring, closed. -/
theorem isChain_offsets :
    (offsets n V distance ++ (offsets n V distance).head?.toList).IsChain (OffsetEdge V) := by
  obtain ⟨first, hfirst⟩ := @exists_head?_joinAt _ _ _ _ distance h 0
  obtain ⟨rest, hrest⟩ := List.head?_eq_some_iff.mp hfirst
  -- one vertex more, so that the last join is followed by the first one
  have hchain := h.isChain_joins hdistance (n + 1)
  have hlast : joinAt n V distance n = joinAt n V distance 0 := by
    rw [← h.joinAt_period 0, zero_add]
  rw [List.range_succ, List.map_append, List.flatten_append, List.map_singleton,
    List.flatten_singleton, hlast, hrest, ← List.flatMap_def, ← offsets] at hchain
  rw [h.head?_offsets hfirst]
  have hprefix : (offsets n V distance ++ [first] ++ rest).IsChain (OffsetEdge V) := by
    rwa [List.append_assoc]
  exact hprefix.left_of_append

end Outward

end Corners

/-! ### Inward offsets -/

section Inward

variable {distance : ℝ} {curr n1 n2 point u : ℝ × ℝ}

/-- How far the points of a join are moved. -/
theorem exists_of_mem_joinOffset (h : point ∈ joinOffset distance curr n1 n2) :
    ∃ m : ℝ × ℝ, point = (curr.1 + distance * m.1, curr.2 + distance * m.2) ∧
      (m = n1 ∨ m = n2 ∨ mitreDenomThreshold ≤ 1 + dot n1 n2 ∧
        m = ((n1.1 + n2.1) / (1 + dot n1 n2), (n1.2 + n2.2) / (1 + dot n1 n2))) := by
  rw [joinOffset] at h
  dsimp only at h
  split_ifs at h with hbevel
  · rcases List.mem_cons.mp h with rfl | h
    · exact ⟨n1, rfl, .inl rfl⟩
    · exact ⟨n2, List.mem_singleton.mp h, .inr (.inl rfl)⟩
  · exact ⟨_, List.mem_singleton.mp h, .inr (.inr ⟨not_lt.mp hbevel, rfl⟩)⟩

theorem abs_le_one_of_unit (h : dot n1 n1 = 1) : |n1.1| ≤ 1 ∧ |n1.2| ≤ 1 := by
  rw [dot] at h
  rw [abs_le_one_iff_mul_self_le_one, abs_le_one_iff_mul_self_le_one]
  exact ⟨by linarith [mul_self_nonneg n1.2], by linarith [mul_self_nonneg n1.1]⟩

/-- A mitre is no longer than a bound. -/
theorem abs_le_of_mem_joinOffset (h1 : dot n1 n1 = 1) (h2 : dot n2 n2 = 1)
    (h : point ∈ joinOffset distance curr n1 n2) :
    ∃ m : ℝ × ℝ, point = (curr.1 + distance * m.1, curr.2 + distance * m.2) ∧
      |m.1| ≤ 25 ∧ |m.2| ≤ 25 := by
  obtain ⟨hn1, hn1'⟩ := abs_le_one_of_unit h1
  obtain ⟨hn2, hn2'⟩ := abs_le_one_of_unit h2
  obtain ⟨m, hpoint, rfl | rfl | ⟨hdenom, rfl⟩⟩ := exists_of_mem_joinOffset h
  · exact ⟨m, hpoint, by linarith, by linarith⟩
  · exact ⟨m, hpoint, by linarith, by linarith⟩
  · refine ⟨_, hpoint, ?_⟩
    have hbound {a b : ℝ} (ha : |a| ≤ 1) (hb : |b| ≤ 1) :
        |(a + b) / (1 + dot n1 n2)| ≤ 25 := by
      rw [mitreDenomThreshold] at hdenom
      have hpos : 0 < 1 + dot n1 n2 := lt_of_lt_of_le (by norm_num) hdenom
      rw [abs_div, abs_of_pos hpos, div_le_iff₀ hpos]
      linarith [abs_add_le a b]
    exact ⟨hbound hn1 hn2, hbound hn1' hn2'⟩

/-- All points of a join are on the side of its normals. -/
theorem dot_pos_of_mem_joinOffset (h1 : dot n1 n1 = 1) (h2 : dot n2 n2 = 1)
    (hcross : cross n1 n2 ≠ 0) (hdistance : 0 < distance)
    (h : point ∈ joinOffset distance curr n1 n2) : 0 < dot (n1 + n2) (point - curr) := by
  have hdenom := denom_pos h1 h2 hcross
  obtain ⟨m, rfl, hm⟩ := exists_of_mem_joinOffset h
  have hdot : dot (n1 + n2) ((curr.1 + distance * m.1, curr.2 + distance * m.2) - curr)
      = distance * dot (n1 + n2) m := by
    simp only [dot, Prod.fst_sub, Prod.snd_sub]
    ring
  rw [hdot]
  refine mul_pos hdistance ?_
  rcases hm with rfl | rfl | ⟨-, rfl⟩
  · have heq : dot (m + n2) m = 1 + dot m n2 := by
      simp only [dot, Prod.fst_add, Prod.snd_add] at h1 ⊢
      linear_combination h1
    rwa [heq]
  · have heq : dot (n1 + m) m = 1 + dot n1 m := by
      simp only [dot, Prod.fst_add, Prod.snd_add] at h2 ⊢
      linear_combination h2
    rwa [heq]
  · have heq : dot (n1 + n2) ((n1.1 + n2.1) / (1 + dot n1 n2), (n1.2 + n2.2) / (1 + dot n1 n2))
        = 2 * (1 + dot n1 n2) / (1 + dot n1 n2) := by
      rw [dot, mul_div_assoc', mul_div_assoc', ← add_div]
      congr 1
      simp only [dot, Prod.fst_add, Prod.snd_add] at h1 h2 ⊢
      linear_combination h1 + h2
    rw [heq]
    positivity

theorem neg_le_dot {m : ℝ × ℝ} (h1 : dot n1 n1 = 1) (h2 : dot n2 n2 = 1) (hm : |m.1| ≤ 25)
    (hm' : |m.2| ≤ 25) : -100 ≤ dot (n1 + n2) m := by
  obtain ⟨hn1, hn1'⟩ := abs_le_one_of_unit h1
  obtain ⟨hn2, hn2'⟩ := abs_le_one_of_unit h2
  have hmul {a b c : ℝ} (ha : |a| ≤ 1) (hb : |b| ≤ 1) (hc : |c| ≤ 25) : |(a + b) * c| ≤ 50 := by
    calc |(a + b) * c| = |a + b| * |c| := abs_mul _ _
      _ ≤ 2 * 25 := mul_le_mul ((abs_add_le a b).trans (by linarith)) hc (abs_nonneg _) zero_le_two
      _ = 50 := by norm_num
  have hfirst := (abs_le.mp (hmul hn1 hn2 hm)).1
  have hsecond := (abs_le.mp (hmul hn1' hn2' hm')).1
  rw [dot, Prod.fst_add, Prod.snd_add]
  linarith

end Inward

/-- Finitely many positive numbers have a positive lower bound. -/
private theorem exists_pos_le {f : ℕ → ℝ} {p : ℕ → Prop} (hf : ∀ i, p i → 0 < f i) (m : ℕ) :
    ∃ ε > 0, ∀ i < m, p i → ε ≤ f i := by
  induction m with
  | zero => exact ⟨1, one_pos, fun i hi => absurd hi (Nat.not_lt_zero i)⟩
  | succ m ih =>
    obtain ⟨ε, hε, hall⟩ := ih
    by_cases hm : p m
    · refine ⟨min ε (f m), lt_min hε (hf m hm), fun i hi hp => ?_⟩
      rcases Nat.lt_succ_iff_lt_or_eq.mp hi with hlt | rfl
      · exact (min_le_left _ _).trans (hall i hlt hp)
      · exact min_le_right _ _
    · refine ⟨ε, hε, fun i hi hp => ?_⟩
      rcases Nat.lt_succ_iff_lt_or_eq.mp hi with hlt | rfl
      · exact hall i hlt hp
      · exact absurd hp hm

namespace Corners

variable {n : ℕ} {V N : ℕ → ℝ × ℝ} {len : ℕ → ℝ} {distance : ℝ} {point : ℝ × ℝ}

section Beyond

variable (h : Corners .clockwise n V N len) (hpos : 0 < distance)
include h hpos

/-- The join at the second vertex is on the inner side of it. -/
theorem dot_pos_of_mem_joinAt_one (hpoint : point ∈ joinAt n V distance 1) :
    0 < dot (N 0 + N 1) (point - V 1) := by
  have hthree := h.three
  obtain ⟨hvertex, hjoin⟩ := @joinAt_eq _ _ _ _ _ distance h 1
  have hnormal : N (1 + n - 1) = N 0 := by
    rw [← h.normal_period 0]
    congr 1
    omega
  have hnormal' : N (1 + n - 1 + 1) = N 1 := by
    rw [← h.normal_period 1]
    congr 1
    omega
  have hcross : cross (N 0) (N 1) ≠ 0 := by
    intro hzero
    have hturn := h.cross_normal 0
    rw [hzero, mul_zero] at hturn
    exact lt_irrefl _ hturn
  rw [hjoin, hvertex, hnormal, hnormal'] at hpoint
  exact dot_pos_of_mem_joinOffset (h.unit 0) (h.unit 1) hcross hpos hpoint

/-- The join at another vertex is on that side when the vertex is far enough from the line. -/
theorem dot_pos_of_mem_joinAt {i : ℕ}
    (hfar : distance * 100 < dot (N 0 + N 1) (V i - V 1))
    (hpoint : point ∈ joinAt n V distance i) : 0 < dot (N 0 + N 1) (point - V 1) := by
  obtain ⟨hvertex, hjoin⟩ := @joinAt_eq _ _ _ _ _ distance h i
  rw [hjoin, hvertex] at hpoint
  obtain ⟨m, rfl, hm, hm'⟩ := abs_le_of_mem_joinOffset (h.unit _) (h.unit _) hpoint
  have hmove := neg_le_dot (h.unit 0) (h.unit 1) hm hm'
  have hback : distance * -100 ≤ distance * dot (N 0 + N 1) m :=
    mul_le_mul_of_nonneg_left hmove hpos.le
  have hsum : dot (N 0 + N 1) (((V i).1 + distance * m.1, (V i).2 + distance * m.2) - V 1)
      = dot (N 0 + N 1) (V i - V 1) + distance * dot (N 0 + N 1) m := by
    simp only [dot, Prod.fst_sub, Prod.snd_sub]
    ring
  rw [hsum]
  linarith

end Beyond

/-- Small offsets of a clockwise ring are all on the inner side of its second vertex. -/
theorem exists_joins_beyond (h : Corners .clockwise n V N len) :
    ∃ δ > 0, ∀ distance, 0 < distance → distance < δ → ∀ i < n,
      ∀ point ∈ joinAt n V distance i, 0 < dot (N 0 + N 1) (point - V 1) := by
  have hthree := h.three
  -- how far the other vertices are over the line through the second vertex
  obtain ⟨ε, hε, hall⟩ := @exists_pos_le (fun k => dot (N 0 + N 1) (V k - V 1))
    (fun k => k % n ≠ 1 % n) (fun k hk => h.dot_normals_pos hk) n
  refine ⟨ε / 100, by positivity, fun distance hpos hlt i hi point hpoint => ?_⟩
  by_cases hone : i % n = 1 % n
  · rw [Nat.mod_eq_of_lt hi, Nat.mod_eq_of_lt (by omega)] at hone
    subst hone
    exact h.dot_pos_of_mem_joinAt_one hpos hpoint
  · rw [lt_div_iff₀ (by norm_num)] at hlt
    exact h.dot_pos_of_mem_joinAt hpos (hlt.trans_le (hall i hi hone)) hpoint

end Corners

/-! ### Rings that grow -/

section Grow

variable {winding : Winding} {coords : List (ℝ × ℝ)} {distance : ℝ}

theorem dedupFrom_eq_self {last : ℝ × ℝ}
    (h : (last :: coords).IsChain fun x y => dedupThreshold * dedupThreshold
      < dot (y - x) (y - x)) : dedupFrom last coords = coords := by
  induction coords generalizing last with
  | nil => rfl
  | cons c coords ih =>
    rw [List.isChain_cons_cons] at h
    have hkept : dedupThreshold * dedupThreshold
        < (c.1 - last.1) * (c.1 - last.1) + (c.2 - last.2) * (c.2 - last.2) := h.1
    rw [dedupFrom, if_pos hkept, ih h.2]

theorem dedupRing_eq_self (h : coords.IsChain fun x y => dedupThreshold * dedupThreshold
    < dot (y - x) (y - x)) : dedupRing coords = coords := by
  cases coords with
  | nil => rfl
  | cons c coords => rw [dedupRing, dedupFrom_eq_self h]

/-- The offset of a ring in terms of its vertices. -/
theorem offsetRing_eq (hlength : 4 ≤ coords.length) : offsetRing coords distance =
    let deduped := dedupRing (Corners.offsets (coords.length - 1) (corner coords) distance)
    if minRingVertices ≤ deduped.length then deduped ++ deduped.head?.toList else deduped := by
  have hoffsets : ((List.range (coords.length - 1)).flatMap fun i =>
      offsetVertex distance
        (coords.getD ((i + (coords.length - 1) - 1) % (coords.length - 1)) (0, 0))
        (coords.getD i (0, 0)) (coords.getD ((i + 1) % (coords.length - 1)) (0, 0)))
      = Corners.offsets (coords.length - 1) (corner coords) distance := by
    rw [Corners.offsets, List.flatMap_def, List.flatMap_def]
    refine congrArg List.flatten (List.map_congr_left fun i hi => ?_)
    have hmod : i % (coords.length - 1) = i := Nat.mod_eq_of_lt (List.mem_range.mp hi)
    rw [Corners.joinAt, corner, corner, corner, hmod]
  rw [offsetRing, if_neg (not_lt.mpr hlength)]
  dsimp only
  rw [hoffsets]

/-- **Counter-clockwise rings grow.** -/
theorem grows_of_counterClockwise (h : StrictlyConvex .counterClockwise coords)
    (hlong : LongEdges coords) (hdistance : 1e-6 ≤ distance) : Grows coords distance := by
  obtain ⟨N, len, hcorners⟩ := exists_corners h hlong
  have hchain := hcorners.isChain_offsets hdistance
  have hthree : minRingVertices ≤ _ := @Corners.three_le_length_offsets _ _ _ _ distance hcorners
  intro v hv
  obtain ⟨j, rfl⟩ := exists_corner_of_mem h hv
  rw [offsetRing_eq h.length]
  dsimp only
  rw [dedupRing_eq_self (hchain.left_of_append.imp fun _ _ hedge => hedge.kept), if_pos hthree]
  refine encloses_of_left ?_ ?_ (hchain.imp fun _ _ hedge => hedge.left j)
  · cases Corners.offsets (coords.length - 1) (corner coords) distance with
    | nil => rfl
    | cons first rest =>
      rw [List.head?_cons, Option.toList_some, List.getLast?_concat]
      rfl
  · rw [List.length_append]
    exact Nat.le_add_right_of_le ((Nat.le_succ 2).trans hthree)

theorem mem_of_mem_dedupFrom {last x : ℝ × ℝ} (h : x ∈ dedupFrom last coords) : x ∈ coords := by
  induction coords generalizing last with
  | nil => exact h
  | cons c coords ih =>
    rw [dedupFrom] at h
    split_ifs at h
    · rcases List.mem_cons.mp h with rfl | h
      · exact List.mem_cons_self
      · exact List.mem_cons_of_mem _ (ih h)
    · exact List.mem_cons_of_mem _ (ih h)

theorem mem_of_mem_dedupRing {x : ℝ × ℝ} (h : x ∈ dedupRing coords) : x ∈ coords := by
  cases coords with
  | nil => exact h
  | cons c coords =>
    rcases List.mem_cons.mp h with rfl | h
    · exact List.mem_cons_self
    · exact List.mem_cons_of_mem _ (mem_of_mem_dedupFrom h)

/-- The points of an offset ring are offsets of the vertices. -/
theorem exists_of_mem_offsetRing {point : ℝ × ℝ} (h : point ∈ offsetRing coords distance) :
    ∃ i < coords.length - 1,
      point ∈ Corners.joinAt (coords.length - 1) (corner coords) distance i := by
  rcases Nat.lt_or_ge coords.length 4 with hlt | hlength
  · rw [offsetRing, if_pos hlt] at h
    cases h
  · rw [offsetRing_eq hlength] at h
    dsimp only at h
    have hmem :
        point ∈ dedupRing (Corners.offsets (coords.length - 1) (corner coords) distance) := by
      split_ifs at h
      · rcases List.mem_append.mp h with h | h
        · exact h
        · exact List.mem_of_mem_head? (Option.mem_toList.mp h)
      · exact h
    obtain ⟨i, hi, hpoint⟩ := List.mem_flatMap.mp (mem_of_mem_dedupRing hmem)
    exact ⟨i, List.mem_range.mp hi, hpoint⟩

/-- **Clockwise rings do not grow** under offsets that are small for them. -/
theorem exists_not_grows_of_clockwise (h : StrictlyConvex .clockwise coords)
    (hlong : LongEdges coords) :
    ∃ δ > 0, ∀ distance, 0 < distance → distance < δ → ¬Grows coords distance := by
  obtain ⟨N, len, hcorners⟩ := exists_corners h hlong
  have hmem : corner coords 1 ∈ coords := by
    have hlength := h.length
    have hlt : 1 % (coords.length - 1) < coords.length :=
      lt_of_lt_of_le (Nat.mod_lt _ (by omega)) (Nat.sub_le _ _)
    rw [corner, List.getD_eq_getElem?_getD, List.getElem?_eq_getElem hlt, Option.getD_some]
    exact List.getElem_mem hlt
  obtain ⟨δ, hδ, hside⟩ := hcorners.exists_joins_beyond
  refine ⟨δ, hδ, fun distance hpos hlt hgrows => ?_⟩
  refine @not_encloses_of_side _ (N 0 + N 1) _ (fun point hpoint => ?_) (hgrows _ hmem)
  obtain ⟨i, hi, hpoint⟩ := exists_of_mem_offsetRing hpoint
  exact hside distance hpos hlt i hi point hpoint

end Grow

/-- **When offsets grow rings.** Those of counter-clockwise rings do, and those of clockwise rings
do not when they are small for the ring. -/
theorem grows_offsetRing {winding : Winding} {coords : List (ℝ × ℝ)}
    (h : StrictlyConvex winding coords) (hlong : LongEdges coords) :
    (winding = .counterClockwise → ∀ distance, 1e-6 ≤ distance → Grows coords distance) ∧
      (winding = .clockwise →
        ∃ δ > 0, ∀ distance, 0 < distance → distance < δ → ¬Grows coords distance) := by
  constructor
  · rintro rfl distance hdistance
    exact grows_of_counterClockwise h hlong hdistance
  · rintro rfl
    exact exists_not_grows_of_clockwise h hlong

/-- The unit square, from its lower left corner on. -/
def squareRing : Winding → List (ℝ × ℝ)
  | .counterClockwise => [(0, 0), (1, 0), (1, 1), (0, 1), (0, 0)]
  | .clockwise => [(0, 0), (0, 1), (1, 1), (1, 0), (0, 0)]

theorem strictlyConvex_squareRing (winding : Winding) :
    StrictlyConvex winding (squareRing winding) := by
  constructor
  · cases winding <;> exact Nat.le_succ 4
  · cases winding <;> rfl
  · cases winding <;> intro i hi j hj hij hij'
    · change i < 4 at hi
      change j < 4 at hj
      interval_cases i <;> interval_cases j <;>
        simp [squareRing, corner, cross, Winding.sign] at hij hij' ⊢
    · change i < 4 at hi
      change j < 4 at hj
      interval_cases i <;> interval_cases j <;>
        simp [squareRing, corner, cross, Winding.sign] at hij hij' ⊢

theorem longEdges_squareRing (winding : Winding) : LongEdges (squareRing winding) := by
  cases winding <;> intro i hi
  · change i < 4 at hi
    interval_cases i <;> norm_num [squareRing, corner, edgeLength, dot]
  · change i < 4 at hi
    interval_cases i <;> norm_num [squareRing, corner, edgeLength, dot]

theorem grows_offsetRing_square : Grows (squareRing .counterClockwise) 0.1 :=
  (grows_offsetRing (strictlyConvex_squareRing _) (longEdges_squareRing _)).1 rfl 0.1 (by norm_num)

/-- A clockwise ring that shrinks. -/
theorem not_grows_clockwise_square : StrictlyConvex .clockwise (squareRing .clockwise) ∧
    LongEdges (squareRing .clockwise) ∧ ¬Grows (squareRing .clockwise) 0.1 := by
  refine ⟨strictlyConvex_squareRing _, longEdges_squareRing _, fun hgrows => ?_⟩
  have hmem : ((0 : ℝ), (0 : ℝ)) ∈ squareRing .clockwise := List.mem_cons_self
  refine @not_encloses_of_side _ (1, 1) _ (fun point hpoint => ?_) (hgrows _ hmem)
  obtain ⟨i, hi, hpoint⟩ := exists_of_mem_offsetRing hpoint
  change i < 4 at hi
  interval_cases i <;>
    norm_num [squareRing, corner, Corners.joinAt, offsetVertex, edgeNormal, joinOffset,
      mitreDenomThreshold] at hpoint <;>
    norm_num [hpoint, dot]

end WatershedDelineation
