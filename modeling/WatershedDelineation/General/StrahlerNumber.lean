import WatershedDelineation.General.PostOrder

/-!
# Strahler numbers

The Strahler number of a point of a tree, from those of its children: 1 without children, the
highest one when only one child has it, one more when several have it (`Strahler.ofChildren`,
`Strahler.HasNumber`). Every point of a tree of links has exactly one (`existsUnique_hasNumber`).
-/

namespace Strahler

open LinkTree PostOrder

/-- The highest of some numbers. -/
def top (l : List ℕ) : ℕ := l.foldr max 0

/-- How often the highest number occurs. -/
def topCount (l : List ℕ) : ℕ := l.count (top l)

/-- The number of a point whose children have the numbers `l`. -/
def ofChildren (l : List ℕ) : ℕ :=
  if l = [] then 1 else if topCount l > 1 then top l + 1 else top l

/-- The Strahler number of a point of a tree. -/
inductive HasNumber {α : Type*} (children : α → List α) : α → ℕ → Prop
  | intro (a : α) (number : α → ℕ) (h : ∀ k ∈ children a, HasNumber children k (number k)) :
    HasNumber children a (ofChildren ((children a).map number))

/-! ### One more number -/

section Top

variable {l : List ℕ} {n : ℕ}

theorem top_concat (l : List ℕ) (n : ℕ) : top (l ++ [n]) = max (top l) n := by
  induction l with
  | nil => exact max_comm n 0
  | cons m l ih =>
    change max m (top (l ++ [n])) = max (max m (top l)) n
    rw [ih, max_assoc]

theorem le_top (h : n ∈ l) : n ≤ top l := by
  induction l with
  | nil => exact absurd h List.not_mem_nil
  | cons m l ih =>
    change n ≤ max m (top l)
    rcases List.mem_cons.mp h with rfl | h
    · exact le_max_left _ _
    · exact (ih h).trans (le_max_right _ _)

theorem topCount_concat_of_gt (h : n > top l) : topCount (l ++ [n]) = 1 := by
  have hnot : n ∉ l := fun hmem => absurd (le_top hmem) (Nat.not_le_of_gt h)
  rw [topCount, top_concat, max_eq_right h.le, List.count_append, List.count_eq_zero.mpr hnot]
  simp

theorem topCount_concat_top (l : List ℕ) : topCount (l ++ [top l]) = topCount l + 1 := by
  rw [topCount, top_concat, max_self, List.count_append, List.count_singleton_self, topCount]

theorem topCount_concat_of_lt (h : n < top l) : topCount (l ++ [n]) = topCount l := by
  rw [topCount, top_concat, max_eq_left h.le, List.count_append, topCount,
    List.count_singleton, if_neg (by simpa using h.ne)]
  rfl

theorem topCount_replicate (k n : ℕ) : topCount (List.replicate k n) = k := by
  induction k with
  | zero => rfl
  | succ k ih =>
    rcases Nat.eq_zero_or_pos k with rfl | hk
    · simp [topCount, top]
    · have htop : top (List.replicate k n) = n := by
        by_contra hne
        have hnot : top (List.replicate k n) ∉ List.replicate k n := fun hmem =>
          hne (List.eq_of_mem_replicate hmem)
        rw [topCount, List.count_eq_zero.mpr hnot] at ih
        omega
      have hlast : List.replicate (k + 1) n = List.replicate k n ++ [top (List.replicate k n)] := by
        rw [htop, List.replicate_succ']
      rw [hlast, topCount_concat_top, ih]

end Top

/-! ### The number of a point -/

section Number

variable {α : Type*} {children : α → List α} {parent : α → Option α} {root a : α}
  {members : List α} {m n : ℕ}

theorem HasNumber.unique (hm : HasNumber children a m) (hn : HasNumber children a n) : m = n := by
  induction hm generalizing n with
  | intro a number _ ih =>
    obtain ⟨_, number', h'⟩ := hn
    rw [List.map_congr_left fun k hk => ih k hk (h' k hk)]

/-- Every point of a tree has exactly one number. -/
theorem existsUnique_hasNumber (hspans : Spans parent root members)
    (hchildren : Children children parent members) (ha : a ∈ members) :
    ∃! n, HasNumber children a n := by
  refine existsUnique_of_exists_of_unique ?_ fun _ _ => HasNumber.unique
  refine hspans.induction_leaves (P := fun a => ∃ n, HasNumber children a n) (fun p _ ih => ?_) ha
  choose number hnumber using fun k : {k // k ∈ children p} =>
    ih k.1 ((hchildren.mem_iff p k.1).mp k.2).2
  classical
  refine ⟨_, .intro p (fun k => if hk : k ∈ children p then number ⟨k, hk⟩ else 0) fun k hk => ?_⟩
  rw [dif_pos hk]
  exact hnumber ⟨k, hk⟩

end Number

end Strahler
