import Mathlib.Algebra.Order.BigOperators.Group.Finset
import WatershedDelineation.General.LatticeRing

/-!
# How the boundary rings of a cell set nest

A `BoundaryFamily M rings` is a family of closed lattice rings that walks every boundary edge
of the cell set `M` exactly once, each with `M` on its right, every ring starting at its first
point in reading order. How a ring turns where four boundary edges meet is left open.

Along one ring the winding number of any ring is constant on the cells to the right
(`wind_eq_level`); `level A B` is that of `A` along `B`. It follows that a ring winds by `0`
or `1` around every cell (an exterior, `level A A = 1`) or by `0` or `-1` (a hole), that two
rings are nested or disjoint (`wind_eq_level_of_wind_ne_zero`, `level_eq_zero_of_ne_zero`),
that the enclosing ring starts earlier (`lexLT_of_level_ne_zero`), and that the winding numbers
of all rings add up to `M` (`sum_wind`). The sign of the area tells exteriors from holes
(`doubleArea_nonneg_iff`).
-/

namespace LatticeRing

open ClosedWalk

/-- Reading order of points: by row, then by column. -/
def LexLE (u v : Point) : Prop := u.1 < v.1 ∨ u.1 = v.1 ∧ u.2 ≤ v.2

/-- Strict reading order. -/
def LexLT (u v : Point) : Prop := u.1 < v.1 ∨ u.1 = v.1 ∧ u.2 < v.2

/-- The cell to the right of the first step of a ring that starts at its first point in
reading order: such a step goes right or down. -/
def firstCell : List Point → Point
  | v :: d :: _ => if d.1 = v.1 then v else (v.1, v.2 - 1)
  | _ => (0, 0)

/-- Closed rings that walk every boundary edge of `M` once, with `M` on the right. -/
structure BoundaryFamily (M : Point → Prop) (rings : List (List Point)) : Prop where
  closed : ∀ ring ∈ rings, Closed ring
  nodup : (rings.flatMap steps).Nodup
  mem_iff : ∀ e, e ∈ rings.flatMap steps ↔ ∃ p d, e = side p d ∧ M p ∧ ¬M (nbr p d)
  nonneg : ∀ p, M p → 0 ≤ p.1 ∧ 0 ≤ p.2
  start : ∀ ring ∈ rings, ∃ v d rest, ring = v :: d :: rest ∧ ∀ u ∈ ring, LexLE v u

/-- The winding number of `A` around the cells to the right of `B`. -/
def level (A B : List Point) : ℤ := wind A (firstCell B)

/-- The edges of a duplicate-free list with one end at `v` are counted among the candidates. -/
private theorem countP_eq_candidates {edges : List (Point × Point)}
    (π : Point × Point → Point) (v : Point) (cand : List (Point × Point))
    (hnodup : edges.Nodup) (hcand : cand.Nodup) (hv : ∀ e ∈ cand, π e = v)
    (hall : ∀ e ∈ edges, π e = v → e ∈ cand) :
    edges.countP (π · = v) = cand.countP (· ∈ edges) := by
  have hperm : (edges.filter (π · = v)).Perm (cand.filter (· ∈ edges)) := by
    refine (List.perm_ext_iff_of_nodup (hnodup.filter _) (hcand.filter _)).mpr fun e => ?_
    simp only [List.mem_filter, decide_eq_true_eq]
    exact ⟨fun ⟨he, heq⟩ => ⟨hall e he heq, he⟩, fun ⟨hmem, he⟩ => ⟨he, hv e hmem⟩⟩
  rw [List.countP_eq_length_filter, hperm.length_eq, ← List.countP_eq_length_filter]

/-- **Boundary edges are balanced**: every point is left as often as it is entered, since the
four cells around it change as often from inside to outside as back. -/
theorem countP_fst_eq_countP_snd {M : Point → Prop} {edges : List (Point × Point)}
    (hnodup : edges.Nodup)
    (hmem : ∀ e, e ∈ edges ↔ ∃ p d, e = side p d ∧ M p ∧ ¬M (nbr p d)) (v : Point) :
    edges.countP (·.1 = v) = edges.countP (·.2 = v) := by
  classical
  obtain ⟨i, j⟩ := v
  have hside : ∀ p d, side p d ∈ edges ↔ M p ∧ ¬M (nbr p d) := fun p d => by
    rw [hmem]
    constructor
    · rintro ⟨p', d', heq, hM⟩
      obtain ⟨rfl, rfl⟩ := side_injective heq
      exact hM
    · exact fun hM => ⟨p, d, rfl, hM⟩
  have hout := countP_eq_candidates Prod.fst (i, j) [side (i, j) .top, side (i, j - 1) .right,
    side (i - 1, j - 1) .bottom, side (i - 1, j) .left] hnodup
    (by simp [side]; omega) (by simp [side]) fun e he hv => by
      obtain ⟨⟨a, b⟩, d, rfl, -⟩ := (hmem e).mp he
      cases d <;> simp only [side, Prod.mk.injEq] at hv <;> obtain ⟨rfl, rfl⟩ := hv <;> simp [side]
  have hinn := countP_eq_candidates Prod.snd (i, j) [side (i, j - 1) .top,
    side (i - 1, j - 1) .right, side (i - 1, j) .bottom, side (i, j) .left] hnodup
    (by simp [side]; omega) (by simp [side]) fun e he hv => by
      obtain ⟨⟨a, b⟩, d, rfl, -⟩ := (hmem e).mp he
      cases d <;> simp only [side, Prod.mk.injEq] at hv <;> obtain ⟨rfl, rfl⟩ := hv <;> simp [side]
  rw [hout, hinn]
  simp only [List.countP_cons, List.countP_nil, hside, nbr, decide_eq_true_eq, sub_add_cancel]
  by_cases h₁ : M (i, j) <;> by_cases h₂ : M (i, j - 1) <;> by_cases h₃ : M (i - 1, j - 1) <;>
    by_cases h₄ : M (i - 1, j) <;> simp [h₁, h₂, h₃, h₄]

namespace BoundaryFamily

variable {M : Point → Prop} {rings : List (List Point)} {A B : List Point} {p : Point} {d : Side}

/-! ### Edges of the family -/

theorem exists_side (h : BoundaryFamily M rings) (hA : A ∈ rings) {e : Point × Point}
    (he : e ∈ steps A) : ∃ p d, e = side p d ∧ M p ∧ ¬M (nbr p d) :=
  (h.mem_iff e).mp (List.mem_flatMap.mpr ⟨A, hA, he⟩)

theorem unit (h : BoundaryFamily M rings) (hA : A ∈ rings) : Unit A := fun _ he =>
  let ⟨p, d, heq, _⟩ := h.exists_side hA he
  ⟨p, d, heq⟩

theorem of_side_mem (h : BoundaryFamily M rings) (hA : A ∈ rings) (he : side p d ∈ steps A) :
    M p ∧ ¬M (nbr p d) := by
  obtain ⟨p', d', heq, hM⟩ := h.exists_side hA he
  obtain ⟨rfl, rfl⟩ := side_injective heq
  exact hM

theorem nodup_steps (h : BoundaryFamily M rings) (hA : A ∈ rings) : (steps A).Nodup :=
  (List.nodup_flatMap.mp h.nodup).1 A hA

/-- Different rings share no edge. -/
theorem not_mem_steps (h : BoundaryFamily M rings) (hA : A ∈ rings) (hB : B ∈ rings)
    (hne : A ≠ B) {e : Point × Point} (he : e ∈ steps A) : e ∉ steps B := by
  have : Std.Symm (Function.onFun List.Disjoint (@steps Point)) := ⟨fun _ _ hd => hd.symm⟩
  exact (List.nodup_flatMap.mp h.nodup).2.forall hA hB hne he

theorem count_eq_zero (h : BoundaryFamily M rings) (hA : A ∈ rings)
    (hM : ¬(M p ∧ ¬M (nbr p d))) : (steps A).count (side p d) = 0 :=
  List.count_eq_zero.mpr fun he => hM (h.of_side_mem hA he)

theorem wind_sub_nbr (h : BoundaryFamily M rings) (hA : A ∈ rings) (p : Point) (d : Side) :
    wind A p - wind A (nbr p d)
      = (steps A).count (side p d) - (steps A).count (side (nbr p d) d.opposite) :=
  LatticeRing.wind_sub_nbr (h.closed A hA) (h.unit hA) p d

/-- Nothing changes where two cells of `M`, or two other cells, meet. -/
theorem wind_eq_nbr (h : BoundaryFamily M rings) (hA : A ∈ rings) (hM : M p ↔ M (nbr p d)) :
    wind A p = wind A (nbr p d) := by
  have hsub := h.wind_sub_nbr hA p d
  rw [h.count_eq_zero hA (by tauto),
    h.count_eq_zero hA (by rw [nbr_nbr_opposite]; tauto)] at hsub
  exact sub_eq_zero.mp (by simpa using hsub)

/-- The change across a boundary edge is one for the ring that walks it and zero for the
others. -/
theorem wind_nbr_of_boundary (h : BoundaryFamily M rings) (hA : A ∈ rings)
    (hq : ¬M (nbr p d)) :
    wind A (nbr p d) = wind A p - (if side p d ∈ steps A then 1 else 0) := by
  have hsub := h.wind_sub_nbr hA p d
  rw [(h.nodup_steps hA).count, h.count_eq_zero hA (fun hM => hq hM.1)] at hsub
  split_ifs at hsub ⊢ <;> push_cast at hsub <;> linarith

/-! ### Winding along a ring -/

/-- Two boundary edges that follow each other turn right, go straight or turn left. -/
private theorem side_cases {p p' : Point} {d d' : Side} (hq : ¬M (nbr p d))
    (hjoin : (side p d).2 = (side p' d').1) (hp' : M p') :
    p' = p ∨ p' = nbr p d.next ∨ nbr p' d' = nbr p d := by
  obtain ⟨i, j⟩ := p
  obtain ⟨i', j'⟩ := p'
  cases d <;> cases d' <;> simp only [side, nbr, Side.next, Prod.mk.injEq] at hjoin hq ⊢
  all_goals obtain ⟨h₁, h₂⟩ := hjoin
  -- the four reversals would put the cell on the left of the first edge into `M`
  case top.bottom => exact absurd hp' (by convert hq using 2; ext <;> simp <;> omega)
  case right.left => exact absurd hp' (by convert hq using 2; ext <;> simp <;> omega)
  case bottom.top => exact absurd hp' (by convert hq using 2; ext <;> simp <;> omega)
  case left.right => exact absurd hp' (by convert hq using 2; ext <;> simp <;> omega)
  all_goals omega

/-- **One turn.** Where two steps of one ring meet, the winding numbers of every ring around
the cells on their right agree. -/
theorem wind_eq_of_join (h : BoundaryFamily M rings) (hA : A ∈ rings) {p p' : Point} {d d' : Side}
    (hp : M p) (hq : ¬M (nbr p d)) (hp' : M p') (hq' : ¬M (nbr p' d'))
    (hjoin : (side p d).2 = (side p' d').1)
    (hsame : side p d ∈ steps A ↔ side p' d' ∈ steps A) : wind A p = wind A p' := by
  rcases side_cases hq hjoin hp' with rfl | rfl | hleft
  · rfl
  · exact h.wind_eq_nbr hA (iff_of_true hp hp')
  · -- a left turn goes around one cell outside `M`
    have h₁ := h.wind_nbr_of_boundary hA hq
    have h₂ := h.wind_nbr_of_boundary hA hq'
    rw [hleft, h₁] at h₂
    simp only [hsame] at h₂
    exact sub_left_inj.mp h₂

private theorem wind_const_walk (h : BoundaryFamily M rings) (hA : A ∈ rings) {l : List Point}
    (hl : ∀ e ∈ steps l, ∃ p d, e = side p d ∧ M p ∧ ¬M (nbr p d))
    (hsame : ∀ e ∈ steps l, ∀ e' ∈ steps l, e ∈ steps A ↔ e' ∈ steps A) :
    ∃ k, ∀ p d, side p d ∈ steps l → wind A p = k := by
  induction l with
  | nil => exact ⟨0, by simp⟩
  | cons a l ih =>
    match l with
    | [] => exact ⟨0, by simp⟩
    | b :: l =>
      obtain ⟨k, hk⟩ := ih (fun e he => hl e (.tail _ he))
        (fun e he e' he' => hsame e (.tail _ he) e' (.tail _ he'))
      obtain ⟨p₀, d₀, heq₀, hp₀, hq₀⟩ := hl (a, b) (by simp)
      refine ⟨wind A p₀, fun p d hmem => ?_⟩
      rcases List.mem_cons.mp hmem with heq | hmem
      · rw [(side_injective (heq.trans heq₀)).1]
      · rw [hk p d hmem]
        -- the step after the first one has the value `k`
        match l with
        | [] => exact absurd hmem List.not_mem_nil
        | c :: l =>
          obtain ⟨p₁, d₁, heq₁, hp₁, hq₁⟩ := hl (b, c) (by simp)
          have hjoin : (side p₀ d₀).2 = (side p₁ d₁).1 := by rw [← heq₀, ← heq₁]
          rw [h.wind_eq_of_join hA hp₀ hq₀ hp₁ hq₁ hjoin, hk p₁ d₁ (heq₁ ▸ by simp)]
          exact hsame _ (heq₀ ▸ by simp) _ (heq₁ ▸ by simp)

/-- The first step of a ring goes right, below a cell outside `M`, or down, left of one. -/
theorem firstCell_cases (h : BoundaryFamily M rings) (hB : B ∈ rings) :
    ∃ v, (∀ u ∈ B, LexLE v u) ∧ B.head? = some v ∧
      ((firstCell B = v ∧ side v .top ∈ steps B) ∨
        (firstCell B = (v.1, v.2 - 1) ∧ side (v.1, v.2 - 1) .right ∈ steps B)) := by
  obtain ⟨v, w, rest, rfl, hle⟩ := h.start B hB
  refine ⟨v, hle, rfl, ?_⟩
  have hw := hle w (by simp)
  obtain ⟨p, d, heq, -⟩ := h.exists_side hB (show (v, w) ∈ steps (v :: w :: rest) by simp)
  obtain ⟨i, j⟩ := p
  cases d <;> simp only [side, Prod.mk.injEq] at heq <;> obtain ⟨rfl, rfl⟩ := heq
  · exact .inl ⟨by simp [firstCell], by simp [side]⟩
  · exact .inr ⟨by simp [firstCell], by simp [side]⟩
  · simp only [LexLE] at hw
    omega
  · simp only [LexLE] at hw
    omega

/-- **Winding is constant along a ring.** -/
theorem wind_eq_level (h : BoundaryFamily M rings) (hA : A ∈ rings) (hB : B ∈ rings)
    (he : side p d ∈ steps B) : wind A p = level A B := by
  have hsame : ∀ e ∈ steps B, ∀ e' ∈ steps B, e ∈ steps A ↔ e' ∈ steps A := by
    intro e he e' he'
    by_cases hAB : B = A
    · exact iff_of_true (hAB ▸ he) (hAB ▸ he')
    · exact iff_of_false (h.not_mem_steps hB hA hAB he) (h.not_mem_steps hB hA hAB he')
  obtain ⟨k, hk⟩ := h.wind_const_walk hA (fun e he => h.exists_side hB he) hsame
  rw [hk p d he, level]
  obtain ⟨v, -, -, ⟨hcell, hmem⟩ | ⟨hcell, hmem⟩⟩ := h.firstCell_cases hB
  · rw [hcell, hk _ _ hmem]
  · rw [hcell, hk _ _ hmem]

/-- The cell on the left of another ring's edge has the same value. -/
theorem wind_nbr_eq_level (h : BoundaryFamily M rings) (hA : A ∈ rings) (hB : B ∈ rings)
    (hne : A ≠ B) (he : side p d ∈ steps B) : wind A (nbr p d) = level A B := by
  obtain ⟨hp, hq⟩ := h.of_side_mem hB he
  rw [h.wind_nbr_of_boundary hA hq, if_neg (h.not_mem_steps hB hA hne.symm he), sub_zero,
    h.wind_eq_level hA hB he]

/-- Every point of a ring starts one of its steps. -/
theorem exists_step (h : BoundaryFamily M rings) (hA : A ∈ rings) {u : Point} (hu : u ∈ A) :
    ∃ w, (u, w) ∈ steps A := by
  obtain ⟨v, d, rest, rfl, -⟩ := h.start A hA
  rcases exists_step_of_mem hu with hstep | hlast
  · exact hstep
  · rw [closed_cons_iff.mp (h.closed _ hA)] at hlast
    exact ⟨d, by simp [hlast]⟩

theorem nonneg_of_mem (h : BoundaryFamily M rings) (hA : A ∈ rings) {u : Point} (hu : u ∈ A) :
    0 ≤ u.1 ∧ 0 ≤ u.2 := by
  obtain ⟨w, hw⟩ := h.exists_step hA hu
  obtain ⟨p, d, heq, hp, -⟩ := h.exists_side hA hw
  have hnn := h.nonneg p hp
  obtain ⟨rfl, -⟩ := Prod.mk.inj heq
  cases d <;> simp only <;> omega

theorem wind_eq_zero_of_neg (h : BoundaryFamily M rings) (hA : A ∈ rings) {q : Point}
    (hq : q.2 < 0) : wind A q = 0 := by
  by_contra hne
  obtain ⟨u, hu, -, hcol⟩ := exists_mem_of_wind_ne_zero (h.unit hA) hne
  have := h.nonneg_of_mem hA hu
  omega

/-- A property of cells that holds left of the grid and passes from each cell to the next one
of its row holds everywhere. -/
theorem row_induction (P : Point → Prop) (hleft : ∀ q : Point, q.2 < 0 → P q)
    (hstep : ∀ q, P (nbr q .left) → P q) (q : Point) : P q := by
  obtain ⟨i, j⟩ := q
  rcases lt_or_ge j 0 with hneg | hpos
  · exact hleft (i, j) hneg
  · induction j, hpos using Int.leInduction with
    | base => exact hstep (i, 0) (hleft _ (by simp [nbr]))
    | succ j hj ih => exact hstep (i, j + 1) (by simpa [nbr] using ih)

/-! ### One ring -/

/-- The first step of an exterior goes right, that of a hole goes down. -/
theorem level_self_cases (h : BoundaryFamily M rings) (hA : A ∈ rings) :
    ∃ v, (∀ u ∈ A, LexLE v u) ∧ A.head? = some v ∧
      ((level A A = 1 ∧ firstCell A = v ∧ side v .top ∈ steps A) ∨
        (level A A = 0 ∧ firstCell A = (v.1, v.2 - 1) ∧ side (v.1, v.2 - 1) .right ∈ steps A)) := by
  obtain ⟨v, hle, hv, hfirst⟩ := h.firstCell_cases hA
  refine ⟨v, hle, hv, hfirst.imp (fun ⟨hcell, hmem⟩ => ⟨?_, hcell, hmem⟩)
    fun ⟨hcell, hmem⟩ => ⟨?_, hcell, hmem⟩⟩
  · -- the cell above the first edge is above the whole ring
    have habove : wind A (nbr v .top) = 0 := by
      by_contra hne
      obtain ⟨u, hu, hrow, -⟩ := exists_mem_of_wind_ne_zero (h.unit hA) hne
      have := hle u hu
      simp only [nbr, LexLE] at hrow this
      omega
    obtain ⟨hp, hq⟩ := h.of_side_mem hA hmem
    rw [h.wind_nbr_of_boundary hA hq, if_pos hmem] at habove
    rw [level, hcell]
    linarith
  · rw [level, hcell]
    by_contra hne
    obtain ⟨u, hu, hrow, hcol⟩ := exists_mem_of_wind_ne_zero (h.unit hA) hne
    have := hle u hu
    simp only [LexLE] at hrow hcol this
    omega

theorem level_self (h : BoundaryFamily M rings) (hA : A ∈ rings) :
    level A A = 0 ∨ level A A = 1 := by
  obtain ⟨v, -, -, ⟨hone, -⟩ | ⟨hzero, -⟩⟩ := h.level_self_cases hA
  · exact .inr hone
  · exact .inl hzero

/-- The three ways a winding number passes from a cell to the next one of its row. -/
private theorem row_cases (M : Point → Prop) (q : Point) :
    (M q ↔ M (nbr q .left)) ∨ (M q ∧ ¬M (nbr q .left)) ∨
      (M (nbr q .left) ∧ ¬M (nbr (nbr q .left) .right)) := by
  have hback : nbr (nbr q .left) .right = q := nbr_nbr_opposite q .left
  rw [hback]
  tauto

/-- A ring winds around a cell by its own level or by one less. -/
theorem wind_cases (h : BoundaryFamily M rings) (hA : A ∈ rings) (q : Point) :
    wind A q = level A A ∨ wind A q = level A A - 1 := by
  have hlevel := h.level_self hA
  refine row_induction (fun q => wind A q = level A A ∨ wind A q = level A A - 1)
    (fun q hq => ?_) (fun q ih => ?_) q
  · rw [h.wind_eq_zero_of_neg hA hq]
    omega
  · rcases row_cases M q with hM | ⟨hp, hq⟩ | ⟨hp, hq⟩
    · rwa [h.wind_eq_nbr hA hM]
    · have hsub := h.wind_nbr_of_boundary hA hq
      split_ifs at hsub with hmem
      · exact .inl (h.wind_eq_level hA hA hmem)
      · rwa [hsub, sub_zero] at ih
    · have hsub := h.wind_nbr_of_boundary hA hq
      rw [show nbr (nbr q .left) .right = q from nbr_nbr_opposite q .left] at hsub
      split_ifs at hsub with hmem
      · exact .inr (by rw [hsub, h.wind_eq_level hA hA hmem])
      · rwa [hsub, sub_zero]

/-! ### Two rings -/

/-- **Disjoint or inside.** If `A` does not lie inside `B`, then around everything inside `B`
the ring `A` winds as it does along `B`. -/
theorem wind_eq_level_of_wind_ne_zero (h : BoundaryFamily M rings) (hA : A ∈ rings)
    (hB : B ∈ rings) (hne : A ≠ B) (hBA : level B A = 0) {q : Point} (hq : wind B q ≠ 0) :
    wind A q = level A B := by
  revert hq
  refine row_induction (fun q => wind B q ≠ 0 → wind A q = level A B)
    (fun q hneg hq => absurd (h.wind_eq_zero_of_neg hB hneg) hq) (fun q ih hq => ?_) q
  rcases row_cases M q with hM | ⟨hp, hnot⟩ | ⟨hp, hnot⟩
  · rw [h.wind_eq_nbr hA hM]
    exact ih (by rwa [← h.wind_eq_nbr hB hM])
  · have hsubA := h.wind_nbr_of_boundary hA hnot
    have hsubB := h.wind_nbr_of_boundary hB hnot
    by_cases hmemB : side q .left ∈ steps B
    · exact h.wind_eq_level hA hB hmemB
    · rw [if_neg hmemB, sub_zero] at hsubB
      by_cases hmemA : side q .left ∈ steps A
      · exact absurd ((h.wind_eq_level hB hA hmemA).trans hBA) hq
      · rw [if_neg hmemA, sub_zero] at hsubA
        rw [← hsubA]
        exact ih (by rwa [hsubB])
  · have hsubA := h.wind_nbr_of_boundary hA hnot
    have hsubB := h.wind_nbr_of_boundary hB hnot
    rw [show nbr (nbr q .left) .right = q from nbr_nbr_opposite q .left] at hsubA hsubB
    by_cases hmemB : side (nbr q .left) .right ∈ steps B
    · rw [hsubA, if_neg (h.not_mem_steps hB hA hne.symm hmemB), sub_zero]
      exact h.wind_eq_level hA hB hmemB
    · rw [if_neg hmemB, sub_zero] at hsubB
      by_cases hmemA : side (nbr q .left) .right ∈ steps A
      · exact absurd (hsubB.trans ((h.wind_eq_level hB hA hmemA).trans hBA)) hq
      · rw [hsubA, if_neg hmemA, sub_zero]
        exact ih (by rwa [← hsubB])

/-- **The enclosing ring starts earlier** in reading order. -/
theorem lexLT_of_level_ne_zero (h : BoundaryFamily M rings) (hA : A ∈ rings) (hB : B ∈ rings)
    (hne : A ≠ B) (hlevel : level A B ≠ 0) {a b : Point} (ha : A.head? = some a)
    (hb : B.head? = some b) : LexLT a b := by
  obtain ⟨a', hle, ha', -⟩ := h.firstCell_cases hA
  obtain rfl : a' = a := Option.some.inj (ha'.symm.trans ha)
  obtain ⟨v, -, hv, ⟨hcell, hmem⟩ | ⟨hcell, hmem⟩⟩ := h.firstCell_cases hB
  all_goals obtain rfl : v = b := Option.some.inj (hv.symm.trans hb)
  · rw [← h.wind_nbr_eq_level hA hB hne hmem] at hlevel
    obtain ⟨u, hu, hrow, hcol⟩ := exists_mem_of_wind_ne_zero (h.unit hA) hlevel
    have hau := hle u hu
    simp only [nbr, LexLE, LexLT] at hrow hcol hau ⊢
    omega
  · rw [← h.wind_eq_level hA hB hmem] at hlevel
    obtain ⟨u, hu, hrow, hcol⟩ := exists_mem_of_wind_ne_zero (h.unit hA) hlevel
    have hau := hle u hu
    simp only [LexLE, LexLT] at hrow hcol hau ⊢
    omega

/-- Two different rings are not inside each other. -/
theorem level_eq_zero_of_ne_zero (h : BoundaryFamily M rings) (hA : A ∈ rings) (hB : B ∈ rings)
    (hne : A ≠ B) (hAB : level A B ≠ 0) : level B A = 0 := by
  by_contra hBA
  obtain ⟨a, -, ha, -⟩ := h.firstCell_cases hA
  obtain ⟨b, -, hb, -⟩ := h.firstCell_cases hB
  have h₁ := h.lexLT_of_level_ne_zero hA hB hne hAB ha hb
  have h₂ := h.lexLT_of_level_ne_zero hB hA hne.symm hBA hb ha
  simp only [LexLT] at h₁ h₂
  omega

/-- What lies inside `B` lies inside every ring around `B`. -/
theorem wind_eq_of_level_ne_zero (h : BoundaryFamily M rings) (hA : A ∈ rings) (hB : B ∈ rings)
    (hne : A ≠ B) (hAB : level A B ≠ 0) {q : Point} (hq : wind B q ≠ 0) :
    wind A q = level A B :=
  h.wind_eq_level_of_wind_ne_zero hA hB hne (h.level_eq_zero_of_ne_zero hA hB hne hAB) hq

/-- Two rings around one cell are nested. -/
theorem level_ne_zero_or (h : BoundaryFamily M rings) (hA : A ∈ rings) (hB : B ∈ rings)
    (hne : A ≠ B) {q : Point} (hqA : wind A q ≠ 0) (hqB : wind B q ≠ 0) :
    level A B ≠ 0 ∨ level B A ≠ 0 := by
  by_contra hnot
  push Not at hnot
  exact hqA ((h.wind_eq_level_of_wind_ne_zero hA hB hne hnot.2 hqB).trans hnot.1)

/-! ### All rings -/

/-- The family uses a side of a cell exactly when it is a boundary edge. -/
private theorem count_flatMap [DecidablePred M] (h : BoundaryFamily M rings) (p : Point)
    (d : Side) : (rings.flatMap steps).count (side p d) = if M p ∧ ¬M (nbr p d) then 1 else 0 := by
  have hiff : side p d ∈ rings.flatMap steps ↔ M p ∧ ¬M (nbr p d) := by
    rw [h.mem_iff]
    constructor
    · rintro ⟨p', d', heq, hM⟩
      obtain ⟨rfl, rfl⟩ := side_injective heq
      exact hM
    · exact fun hM => ⟨p, d, rfl, hM⟩
  rw [h.nodup.count]
  simp only [hiff]

/-- **The winding numbers add up to the cell set.** -/
theorem sum_wind [DecidablePred M] (h : BoundaryFamily M rings) (q : Point) :
    (rings.map fun A => wind A q).sum = if M q then 1 else 0 := by
  refine row_induction (fun q => (rings.map fun A => wind A q).sum = if M q then 1 else 0)
    (fun q hq => ?_) (fun q ih => ?_) q
  · have hM : ¬M q := fun hM => by have := (h.nonneg q hM).2; omega
    rw [if_neg hM]
    refine List.sum_eq_zero fun x hx => ?_
    obtain ⟨A, hA, rfl⟩ := List.mem_map.mp hx
    exact h.wind_eq_zero_of_neg hA hq
  · have hsub : (rings.map fun A => wind A q).sum - (rings.map fun A => wind A (nbr q .left)).sum
        = (rings.flatMap steps).count (side q .left)
          - (rings.flatMap steps).count (side (nbr q .left) .right) := by
      rw [← sum_map_sub, List.count_flatMap, List.count_flatMap]
      push_cast
      rw [List.map_map, List.map_map, ← sum_map_sub]
      exact congrArg List.sum (List.map_congr_left fun A hA => h.wind_sub_nbr hA q .left)
    have hback : nbr (nbr q .left) .right = q := nbr_nbr_opposite q .left
    rw [h.count_flatMap, h.count_flatMap, hback, ih] at hsub
    split_ifs at hsub ⊢ <;> push_cast at hsub <;> first | linarith | tauto

/-- The first cell along a ring is in the region. -/
theorem mem_firstCell (h : BoundaryFamily M rings) (hB : B ∈ rings) : M (firstCell B) := by
  obtain ⟨v, -, -, ⟨hcell, hmem⟩ | ⟨hcell, hmem⟩⟩ := h.firstCell_cases hB <;>
    exact hcell ▸ (h.of_side_mem hB hmem).1

/-! ### The sign of the area -/

/-- Cells that a ring winds around lie in every box that holds the ring. -/
theorem exists_cell_of_wind_ne_zero (h : BoundaryFamily M rings) (hA : A ∈ rings) {rows cols : ℕ}
    (hbox : ∀ v ∈ A, v.1 ≤ rows ∧ v.2 ≤ cols) {q : Point} (hne : wind A q ≠ 0) :
    ∃ i ∈ Finset.range rows, ∃ j ∈ Finset.range cols, q = ((i : ℤ), (j : ℤ)) := by
  obtain ⟨u, hu, hu₁, hu₂⟩ := exists_mem_of_wind_ne_zero (h.unit hA) hne
  obtain ⟨⟨w, hw, hw₁⟩, w', hw', hw₂⟩ := exists_lt_of_wind_ne_zero (h.closed A hA) hne
  have hnn := h.nonneg_of_mem hA hu
  have hbw := hbox w hw
  have hbw' := hbox w' hw'
  obtain ⟨i, j⟩ := q
  lift i to ℕ using by simp only at hu₁; omega
  lift j to ℕ using by simp only at hu₂; omega
  simp only at hw₁ hw₂
  exact ⟨i, Finset.mem_range.mpr (by omega), j, Finset.mem_range.mpr (by omega), rfl⟩

private theorem two_mul_sum (h : BoundaryFamily M rings) (hA : A ∈ rings) {rows cols : ℕ}
    (hbox : ∀ v ∈ A, v.1 ≤ rows ∧ v.2 ≤ cols) :
    2 * ∑ i ∈ Finset.range rows, ∑ j ∈ Finset.range cols, wind A ((i : ℤ), (j : ℤ))
      = doubleArea A :=
  two_mul_sum_wind (h.closed A hA) (h.unit hA) rows cols fun v hv =>
    ⟨(h.nonneg_of_mem hA hv).1, (hbox v hv).1, (h.nonneg_of_mem hA hv).2, (hbox v hv).2⟩

/-- Exteriors have positive area. -/
theorem doubleArea_pos (h : BoundaryFamily M rings) (hA : A ∈ rings) {rows cols : ℕ}
    (hbox : ∀ v ∈ A, v.1 ≤ rows ∧ v.2 ≤ cols) (hone : level A A = 1) : 0 < doubleArea A := by
  have hnn : ∀ q, 0 ≤ wind A q := fun q => by
    rcases h.wind_cases hA q with hq | hq <;> omega
  have hne : wind A (firstCell A) ≠ 0 := by
    have : wind A (firstCell A) = 1 := hone
    omega
  obtain ⟨i, hi, j, hj, hq⟩ := h.exists_cell_of_wind_ne_zero hA hbox hne
  rw [hq] at hne
  have hlt : 0 < ∑ i ∈ Finset.range rows, ∑ j ∈ Finset.range cols, wind A ((i : ℤ), (j : ℤ)) := by
    refine Finset.sum_pos' (fun i _ => Finset.sum_nonneg fun j _ => hnn _) ⟨i, hi, ?_⟩
    exact Finset.sum_pos' (fun j _ => hnn _) ⟨j, hj, lt_of_le_of_ne (hnn _) hne.symm⟩
  have := h.two_mul_sum hA hbox
  linarith

/-- Holes have negative area. -/
theorem doubleArea_neg (h : BoundaryFamily M rings) (hA : A ∈ rings) {rows cols : ℕ}
    (hbox : ∀ v ∈ A, v.1 ≤ rows ∧ v.2 ≤ cols) (hzero : level A A = 0) : doubleArea A < 0 := by
  have hle : ∀ q, wind A q ≤ 0 := fun q => by
    rcases h.wind_cases hA q with hq | hq <;> omega
  -- on the left of its first edge the ring winds by `-1`
  obtain ⟨p, d, hmem⟩ : ∃ p d, side p d ∈ steps A := by
    obtain ⟨v, -, -, ⟨-, hmem⟩ | ⟨-, hmem⟩⟩ := h.firstCell_cases hA <;> exact ⟨_, _, hmem⟩
  have hne : wind A (nbr p d) ≠ 0 := by
    rw [h.wind_nbr_of_boundary hA (h.of_side_mem hA hmem).2, if_pos hmem,
      h.wind_eq_level hA hA hmem, hzero]
    decide
  obtain ⟨i, hi, j, hj, hq⟩ := h.exists_cell_of_wind_ne_zero hA hbox hne
  rw [hq] at hne
  have hlt : ∑ i ∈ Finset.range rows, ∑ j ∈ Finset.range cols, wind A ((i : ℤ), (j : ℤ)) < 0 := by
    refine Finset.sum_neg' (fun i _ => Finset.sum_nonpos fun j _ => hle _) ⟨i, hi, ?_⟩
    exact Finset.sum_neg' (fun j _ => hle _) ⟨j, hj, lt_of_le_of_ne (hle _) hne⟩
  have := h.two_mul_sum hA hbox
  linarith

/-- **The sign of the area tells exteriors from holes.** -/
theorem doubleArea_nonneg_iff (h : BoundaryFamily M rings) (hA : A ∈ rings) {rows cols : ℕ}
    (hbox : ∀ v ∈ A, v.1 ≤ rows ∧ v.2 ≤ cols) : 0 ≤ doubleArea A ↔ level A A = 1 := by
  refine ⟨fun hnn => (h.level_self hA).resolve_left fun hzero => ?_,
    fun hone => (h.doubleArea_pos hA hbox hone).le⟩
  exact (h.doubleArea_neg hA hbox hzero).not_ge hnn

end BoundaryFamily

end LatticeRing
