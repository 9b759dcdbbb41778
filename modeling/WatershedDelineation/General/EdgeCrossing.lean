import Mathlib.Algebra.Ring.Parity
import Mathlib.Topology.Algebra.Order.Field
import Mathlib.Topology.Order.DenselyOrdered
import WatershedDelineation.General.ClosedWalk

/-!
# The even-odd interior of rings

Points are pairs of a row and a column. An edge without its lower end and with its upper end crosses
the row of a point at or left of it (`Crosses`), and a point is inside of rings when it has an odd
number of such edges (`Inside`).

The interior does not depend on where the rings start, on their directions or on their order
(`SameRings.inside_iff`), and of two lists of rings together it is the symmetric difference
(`inside_append`). A point is inside exactly when the points just beside it are
(`eventually_inside_iff`), also when it lies on an edge, so a point on common edges is inside of
exactly one of two lists of rings on opposite sides of them (`Opposite.inside_iff`).
-/

namespace EdgeCrossing

open ClosedWalk Filter Topology

/-! ### Rings written differently -/

section Rings

variable {α β : Type*}

/-- The edges of all rings. -/
def edges (rings : List (List α)) : List (α × α) := rings.flatMap steps

/-- Two ways to write a ring: from another starting point, or in the other direction. -/
inductive SameRing : List α → List α → Prop
  | restart (l : List α) (k : ℕ) : SameRing (l ++ l.take 1) (l.rotate k ++ (l.rotate k).take 1)
  | reverse (ring : List α) : SameRing ring ring.reverse

/-- Two ways to write rings: in another order, and each in another way. -/
def SameRings (rings rings' : List (List α)) : Prop :=
  ∃ ordered, rings.Perm ordered ∧ List.Forall₂ (Relation.ReflTransGen SameRing) ordered rings'

theorem SameRing.map (f : α → β) {ring ring' : List α} (h : SameRing ring ring') :
    SameRing (ring.map f) (ring'.map f) := by
  cases h with
  | restart l k =>
    rw [List.map_append, List.map_append, List.map_take, List.map_take, List.map_rotate]
    exact .restart _ k
  | reverse ring =>
    rw [List.map_reverse]
    exact .reverse _

theorem SameRing.length_eq {ring ring' : List α} (h : SameRing ring ring') :
    ring.length = ring'.length := by
  cases h <;> simp

theorem SameRings.map (f : α → β) {rings rings' : List (List α)} (h : SameRings rings rings') :
    SameRings (rings.map (List.map f)) (rings'.map (List.map f)) := by
  obtain ⟨ordered, hperm, hrings⟩ := h
  refine ⟨ordered.map (List.map f), hperm.map _, ?_⟩
  rw [List.forall₂_map_left_iff, List.forall₂_map_right_iff]
  exact hrings.imp fun _ _ h => h.lift (List.map f) fun _ _ h => h.map f

/-- A quantity of rings that is the same for each way to write a ring has the same sum. -/
theorem SameRings.sum_map_eq {f : List α → ℕ} (hf : ∀ ring ring', SameRing ring ring' →
    f ring = f ring') {rings rings' : List (List α)} (h : SameRings rings rings') :
    (rings.map f).sum = (rings'.map f).sum := by
  obtain ⟨ordered, hperm, hrings⟩ := h
  have hone : ∀ {ring ring'}, Relation.ReflTransGen SameRing ring ring' → f ring = f ring' := by
    intro ring ring' h
    induction h with
    | refl => rfl
    | tail _ h ih => exact ih.trans (hf _ _ h)
  rw [(hperm.map f).sum_eq]
  clear hperm
  induction hrings with
  | nil => rfl
  | cons h _ ih => rw [List.map_cons, List.map_cons, List.sum_cons, List.sum_cons, hone h, ih]

theorem countP_edges (P : α × α → Bool) (rings : List (List α)) :
    (edges rings).countP P = (rings.map fun ring => (steps ring).countP P).sum :=
  List.countP_flatMap

/-- The steps of a list closed by its first point. -/
theorem steps_append_take_one (l : List α) : steps (l ++ l.take 1) = l.zip (l.rotate 1) := by
  cases l with
  | nil => rfl
  | cons a l =>
    have hzip : (a :: l ++ [a]).zip (l ++ [a] ++ []) = (a :: l).zip (l ++ [a]) ++ [a].zip [] :=
      List.zip_append (by simp)
    simpa [steps] using hzip

theorem steps_restart_perm (l : List α) (k : ℕ) :
    (steps (l.rotate k ++ (l.rotate k).take 1)).Perm (steps (l ++ l.take 1)) := by
  rw [steps_append_take_one, steps_append_take_one, zip_rotate_one]
  exact List.rotate_perm _ k

end Rings

/-! ### The interior -/

section Interior

variable {𝕜 : Type*} [Field 𝕜] [LinearOrder 𝕜]

/-- Where the line through the ends of an edge meets a row. -/
def columnAt (e : (𝕜 × 𝕜) × (𝕜 × 𝕜)) (y : 𝕜) : 𝕜 :=
  e.1.2 + (y - e.1.1) / (e.2.1 - e.1.1) * (e.2.2 - e.1.2)

/-- An edge, without its lower end and with its upper end, crosses the row of a point at or left of
it. -/
def Crosses (p : 𝕜 × 𝕜) (e : (𝕜 × 𝕜) × (𝕜 × 𝕜)) : Prop :=
  min e.1.1 e.2.1 < p.1 ∧ p.1 ≤ max e.1.1 e.2.1 ∧ columnAt e p.1 ≤ p.2

instance (p : 𝕜 × 𝕜) : DecidablePred (Crosses p) := fun _ => inferInstanceAs (Decidable (_ ∧ _))

/-- A point is inside when an odd number of edges of the rings crosses its row at or left of it. -/
def Inside (rings : List (List (𝕜 × 𝕜))) (p : 𝕜 × 𝕜) : Prop :=
  Odd ((edges rings).countP (Crosses p ·))

instance (rings : List (List (𝕜 × 𝕜))) : DecidablePred (Inside rings) := fun _ =>
  inferInstanceAs (Decidable (Odd _))

variable {p : 𝕜 × 𝕜}

theorem crosses_swap {e : (𝕜 × 𝕜) × (𝕜 × 𝕜)} : Crosses p e.swap ↔ Crosses p e := by
  obtain ⟨⟨y0, x0⟩, y1, x1⟩ := e
  have hbounds : min y1 y0 = min y0 y1 ∧ max y1 y0 = max y0 y1 := ⟨min_comm .., max_comm ..⟩
  simp only [Crosses, Prod.fst_swap, Prod.snd_swap, hbounds]
  refine and_congr_right fun hlo => and_congr_right fun hhi => ?_
  -- an edge that crosses a row is not horizontal
  have hne : y1 - y0 ≠ 0 := by
    intro h
    rw [sub_eq_zero.mp h] at hlo hhi
    exact absurd (hlo.trans_le hhi) (by simp)
  have hne' : y0 - y1 ≠ 0 := by rwa [← neg_sub, neg_ne_zero]
  have hcolumn : columnAt ((y1, x1), (y0, x0)) p.1 = columnAt ((y0, x0), (y1, x1)) p.1 := by
    simp only [columnAt]
    field_simp
    ring
  exact iff_of_eq (congrArg (· ≤ p.2) hcolumn)

/-- Each way to write a ring has the same number of crossings. -/
theorem SameRing.countP_eq {ring ring' : List (𝕜 × 𝕜)} (h : SameRing ring ring') :
    (steps ring).countP (Crosses p ·) = (steps ring').countP (Crosses p ·) := by
  cases h with
  | restart l k => exact (steps_restart_perm l k).symm.countP_eq _
  | reverse ring =>
    rw [steps_reverse, List.countP_reverse, List.countP_map]
    refine List.countP_congr fun e _ => ?_
    simp [crosses_swap]

/-- The interior does not depend on the order of the rings, their directions or where they start. -/
theorem SameRings.inside_iff {rings rings' : List (List (𝕜 × 𝕜))} (h : SameRings rings rings') :
    Inside rings p ↔ Inside rings' p := by
  rw [Inside, Inside, countP_edges, countP_edges, h.sum_map_eq fun _ _ h => h.countP_eq]

/-- The interior of rings together is the symmetric difference. -/
theorem inside_append {rings rings' : List (List (𝕜 × 𝕜))} :
    Inside (rings ++ rings') p ↔ ¬(Inside rings p ↔ Inside rings' p) := by
  rw [Inside, Inside, Inside, edges, List.flatMap_append, List.countP_append, Nat.odd_add,
    ← Nat.not_odd_iff_even, edges, edges]
  tauto

end Interior

/-! ### Beside a point -/

section Beside

variable {𝕜 : Type*} [Field 𝕜] [LinearOrder 𝕜] [IsStrictOrderedRing 𝕜] [TopologicalSpace 𝕜]
  [OrderTopology 𝕜]

/-- In rows close to a row, an edge is close to where it meets the row. -/
private theorem eventually_columnAt_near (e : (𝕜 × 𝕜) × (𝕜 × 𝕜)) (y : 𝕜) {gap : 𝕜}
    (hgap : 0 < gap) :
    ∀ᶠ η in 𝓝[>] (0 : 𝕜), |columnAt e (y - η) - columnAt e y| < gap := by
  let slope := (e.2.2 - e.1.2) / (e.2.1 - e.1.1)
  have hpos : 0 < |slope| + 1 := by positivity
  filter_upwards [Ioo_mem_nhdsGT (div_pos hgap hpos)] with η ⟨hη, hlt⟩
  have hdiff : columnAt e (y - η) - columnAt e y = -(η * slope) := by
    simp only [columnAt, slope]
    ring
  have hlt : η * (|slope| + 1) < gap := (lt_div_iff₀ hpos).mp hlt
  rw [hdiff, abs_neg, abs_mul, abs_of_pos hη]
  linarith

/-- An edge crosses the row of a point at or left of it, exactly when it does so for the points with
a slightly greater column and an even more slightly smaller row. -/
theorem eventually_crosses_iff (e : (𝕜 × 𝕜) × (𝕜 × 𝕜)) (y x : 𝕜) :
    ∀ᶠ δ in 𝓝[>] (0 : 𝕜), ∀ᶠ η in 𝓝[>] (0 : 𝕜),
      (Crosses (y - η, x + δ) e ↔ Crosses (y, x) e) := by
  by_cases hlo : min e.1.1 e.2.1 < y
  · by_cases hhi : y ≤ max e.1.1 e.2.1
    · -- the rows just below meet the edge too, close to where this one does
      by_cases hx : columnAt e y ≤ x
      · filter_upwards [self_mem_nhdsWithin] with δ hδ
        filter_upwards [Ioo_mem_nhdsGT (sub_pos.mpr hlo), eventually_columnAt_near e y hδ]
          with η ⟨hη, hrow⟩ hnear
        have hle := (abs_lt.mp hnear).2
        exact iff_of_true ⟨by linarith, by linarith, by linarith⟩ ⟨hlo, hhi, hx⟩
      · have hx := not_le.mp hx
        filter_upwards [Ioo_mem_nhdsGT (sub_pos.mpr hx)] with δ ⟨_, hδ⟩
        have hgap : 0 < columnAt e y - x - δ := by linarith
        filter_upwards [eventually_columnAt_near e y hgap] with η hnear
        have hge := (abs_lt.mp hnear).1
        exact iff_of_false (fun h => absurd h.2.2 (by linarith)) fun h =>
          absurd h.2.2 (not_le.mpr hx)
    · have hhi := not_le.mp hhi
      filter_upwards with δ
      filter_upwards [Ioo_mem_nhdsGT (sub_pos.mpr hhi)] with η ⟨_, hη⟩
      exact iff_of_false (fun h => absurd h.2.1 (by linarith)) fun h =>
        absurd h.2.1 (not_le.mpr hhi)
  · filter_upwards with δ
    filter_upwards [self_mem_nhdsWithin] with η hη
    have hη : 0 < η := hη
    have hlo' := not_lt.mp hlo
    exact iff_of_false (fun h => absurd h.1 (by linarith)) fun h => hlo h.1

/-- A point is inside exactly when the points just beside it are. -/
theorem eventually_inside_iff (rings : List (List (𝕜 × 𝕜))) (y x : 𝕜) :
    ∀ᶠ δ in 𝓝[>] (0 : 𝕜), ∀ᶠ η in 𝓝[>] (0 : 𝕜),
      (Inside rings (y - η, x + δ) ↔ Inside rings (y, x)) := by
  have hedges : ∀ edges : List ((𝕜 × 𝕜) × (𝕜 × 𝕜)),
      ∀ᶠ δ in 𝓝[>] (0 : 𝕜), ∀ᶠ η in 𝓝[>] (0 : 𝕜),
        edges.countP (Crosses (y - η, x + δ) ·) = edges.countP (Crosses (y, x) ·) := by
    intro edges
    induction edges with
    | nil => simp
    | cons e edges ih =>
      filter_upwards [ih, eventually_crosses_iff e y x] with δ hedges hedge
      filter_upwards [hedges, hedge] with η hedges hedge
      rw [List.countP_cons, List.countP_cons, hedges, decide_eq_decide.mpr hedge]
  filter_upwards [hedges (edges rings)] with δ h
  filter_upwards [h] with η h
  rw [Inside, Inside, h]

/-- A point on an edge. -/
def OnEdge (e : (𝕜 × 𝕜) × (𝕜 × 𝕜)) (p : 𝕜 × 𝕜) : Prop :=
  ∃ t, 0 ≤ t ∧ t ≤ 1 ∧ p = (e.1.1 + t * (e.2.1 - e.1.1), e.1.2 + t * (e.2.2 - e.1.2))

omit [IsStrictOrderedRing 𝕜] in
private theorem eventually_ne_nhdsGT (c : 𝕜) : ∀ᶠ η in 𝓝[>] (0 : 𝕜), η ≠ c := by
  rcases lt_or_ge 0 c with hc | hc
  · filter_upwards [Ioo_mem_nhdsGT hc] with η hη using hη.2.ne
  · filter_upwards [self_mem_nhdsWithin] with η hη using (hc.trans_lt hη).ne'

/-- The points just beside a point are on no edge. -/
theorem eventually_not_onEdge (es : List ((𝕜 × 𝕜) × (𝕜 × 𝕜))) (y x : 𝕜) :
    ∀ᶠ δ in 𝓝[>] (0 : 𝕜), ∀ᶠ η in 𝓝[>] (0 : 𝕜), ∀ e ∈ es, ¬OnEdge e (y - η, x + δ) := by
  induction es with
  | nil => simp
  | cons e es ih =>
    simp only [List.forall_mem_cons]
    obtain ⟨⟨y0, x0⟩, y1, x1⟩ := e
    by_cases hvertical : x1 - x0 = 0
    · filter_upwards [ih, eventually_ne_nhdsGT (x0 - x)] with δ hes hδ
      filter_upwards [hes] with η hes
      refine ⟨fun ⟨t, _, _, ht⟩ => hδ ?_, hes⟩
      have hx : x + δ = x0 + t * (x1 - x0) := (Prod.ext_iff.mp ht).2
      rw [hvertical] at hx
      linarith
    · filter_upwards [ih] with δ hes
      -- the column of the point on the edge determines its row
      let row := y0 + (x + δ - x0) / (x1 - x0) * (y1 - y0)
      filter_upwards [hes, eventually_ne_nhdsGT (y - row)] with η hes hη
      refine ⟨fun ⟨t, _, _, ht⟩ => hη ?_, hes⟩
      obtain ⟨hy, hx⟩ := Prod.ext_iff.mp ht
      have hx : x + δ = x0 + t * (x1 - x0) := hx
      have hy : y - η = y0 + t * (y1 - y0) := hy
      have ht : t = (x + δ - x0) / (x1 - x0) := by
        rw [eq_div_iff hvertical]
        linarith
      rw [ht] at hy
      linarith

/-- Two lists of rings share an edge through a point, and close to the point they lie on opposite
sides of their edges: a point on none of them is inside of exactly one. -/
structure Opposite (rings rings' : List (List (𝕜 × 𝕜))) (e : (𝕜 × 𝕜) × (𝕜 × 𝕜)) (p : 𝕜 × 𝕜) :
    Prop where
  mem : e ∈ edges rings
  mem' : e ∈ edges rings' ∨ e.swap ∈ edges rings'
  onEdge : OnEdge e p
  sides : ∃ ε > 0, ∀ q : 𝕜 × 𝕜, |q.1 - p.1| < ε → |q.2 - p.2| < ε →
    (∀ e ∈ edges rings ++ edges rings', ¬OnEdge e q) → (Inside rings q ↔ ¬Inside rings' q)

/-- A point on an edge of two lists of rings on opposite sides is inside of exactly one of them. -/
theorem Opposite.inside_iff {rings rings' : List (List (𝕜 × 𝕜))} {e : (𝕜 × 𝕜) × (𝕜 × 𝕜)}
    {p : 𝕜 × 𝕜} (h : Opposite rings rings' e p) : Inside rings p ↔ ¬Inside rings' p := by
  obtain ⟨y, x⟩ := p
  obtain ⟨ε, hε, hsides⟩ := h.sides
  have hbeside : ∀ᶠ δ in 𝓝[>] (0 : 𝕜), ∀ᶠ η in 𝓝[>] (0 : 𝕜),
      (Inside rings (y, x) ↔ ¬Inside rings' (y, x)) := by
    filter_upwards [eventually_inside_iff rings y x, eventually_inside_iff rings' y x,
      eventually_not_onEdge (edges rings ++ edges rings') y x, Ioo_mem_nhdsGT hε]
      with δ hin hin' hoff ⟨hδ, hδε⟩
    filter_upwards [hin, hin', hoff, Ioo_mem_nhdsGT hε] with η hin hin' hoff ⟨hη, hηε⟩
    rw [← hin, ← hin']
    refine hsides _ ?_ ?_ hoff
    · rwa [sub_sub_cancel_left, abs_neg, abs_of_pos hη]
    · rwa [add_sub_cancel_left, abs_of_pos hδ]
  obtain ⟨_, hδ⟩ := hbeside.exists
  obtain ⟨_, hη⟩ := hδ.exists
  exact hη

end Beside

end EdgeCrossing
