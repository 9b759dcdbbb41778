import WatershedDelineation.Export.Identity
import WatershedDelineation.General.BalancedParts
import WatershedDelineation.General.Checked

/-!
# Row groups of an export

`planRowGroups` of `export/row_groups.rs`: files of at least 4096 rows are divided into groups of
4096 to 8192 rows that are as even as possible, and smaller files are one group. Arithmetic is that
of words of 64 bits.

Every count of rows but zero has a plan, and the check that ends the function never fails
(`exists_planRowGroups`).
-/

namespace WatershedDelineation

def minBalancedRowGroupSize : ℕ := 4096

def targetRowGroupSize : ℕ := 8192

/-- The numbers of rows of the groups of a file. -/
structure RowGroupPlan where
  sizes : List ℕ
  deriving DecidableEq, Repr

/-- The sizes of the groups of a file that is not small. -/
def balancedSizes (rowCount : ℕ) : Except (Fault ExportError) (List ℕ) := do
  let groupCount ← Checked.orPanic (Checked.divCeil rowCount targetRowGroupSize)
  let base ← Checked.orPanic (Checked.div rowCount groupCount)
  let remainder ← Checked.orPanic (Checked.mod rowCount groupCount)
  (List.range groupCount).mapM fun index =>
    Checked.orPanic (Checked.add 64 base (if index < remainder then 1 else 0))

/-- The sizes of the groups of a file. -/
def plannedSizes (rowCount : ℕ) : Except (Fault ExportError) (List ℕ) :=
  if rowCount < minBalancedRowGroupSize then .ok [rowCount] else balancedSizes rowCount

/-- Plan the groups of a file. -/
def planRowGroups (rowCount : ℕ) : Except (Fault ExportError) RowGroupPlan := do
  Checked.rejectIf (rowCount = 0)
    (.rowGroupPlanningFailure rowCount "empty exports are not row-group plannable")
  let sizes ← plannedSizes rowCount
  if rowCount < minBalancedRowGroupSize ∨
      ∀ size ∈ sizes, minBalancedRowGroupSize ≤ size ∧ size ≤ targetRowGroupSize then
    .ok ⟨sizes⟩
  else .error (.err (.rowGroupPlanningFailure rowCount
    "balanced row groups fall outside the legal size range"))

/-- The limits of the format for a file of `rowCount` rows. -/
structure RowGroupPlan.WithinLimits (plan : RowGroupPlan) (rowCount : ℕ) : Prop where
  sum_sizes : plan.sizes.sum = rowCount
  balanced : ∀ a ∈ plan.sizes, ∀ b ∈ plan.sizes, a ≤ b + 1
  single : rowCount < minBalancedRowGroupSize → plan.sizes = [rowCount]
  legal : minBalancedRowGroupSize ≤ rowCount →
    ∀ size ∈ plan.sizes, minBalancedRowGroupSize ≤ size ∧ size ≤ targetRowGroupSize

section Plan

variable {rowCount groupCount size : ℕ}

/-- The number of groups of a file that is not small. -/
private def groupCountOf (rowCount : ℕ) : ℕ :=
  (rowCount + targetRowGroupSize - 1) / targetRowGroupSize

private theorem divCeil_targetRowGroupSize :
    Checked.divCeil rowCount targetRowGroupSize = some (groupCountOf rowCount) :=
  Checked.divCeil_of_pos (by decide)

private theorem le_groupCountOf_mul : rowCount ≤ groupCountOf rowCount * targetRowGroupSize := by
  rw [groupCountOf, targetRowGroupSize]
  omega

/-- One group is large enough because the file is, and of more groups all but one are full. -/
private theorem mul_groupCountOf_le (h : minBalancedRowGroupSize ≤ rowCount) :
    minBalancedRowGroupSize * groupCountOf rowCount ≤ rowCount := by
  simp only [groupCountOf, minBalancedRowGroupSize, targetRowGroupSize] at h ⊢
  omega

private theorem groupCountOf_pos (h : minBalancedRowGroupSize ≤ rowCount) :
    0 < groupCountOf rowCount := by
  simp only [groupCountOf, minBalancedRowGroupSize, targetRowGroupSize] at h ⊢
  omega

private theorem mapM_orPanic_add {base : ℕ} {extra : ℕ → ℕ} {indices : List ℕ}
    (h : ∀ index ∈ indices, base + extra index < 2 ^ 64) :
    (indices.mapM fun index => Checked.orPanic (Checked.add 64 base (extra index)) :
        Except (Fault ExportError) (List ℕ))
      = .ok (indices.map fun index => base + extra index) := by
  rw [Checks.mapM_eq_ok_iff, List.forall₂_map_right_iff, List.forall₂_same]
  intro index hindex
  rw [Checked.add_of_lt (h index hindex), Checked.orPanic_some]

/-- No operation of the division into groups overflows. -/
theorem balancedSizes_eq (h : minBalancedRowGroupSize ≤ rowCount) :
    balancedSizes rowCount = .ok (BalancedParts.parts rowCount (groupCountOf rowCount)) := by
  have hpos := groupCountOf_pos h
  rw [balancedSizes, divCeil_targetRowGroupSize, Checked.orPanic_some, Checks.ok_bind,
    Checked.div_of_pos hpos, Checked.orPanic_some, Checks.ok_bind, Checked.mod_of_pos hpos,
    Checked.orPanic_some, Checks.ok_bind]
  refine mapM_orPanic_add fun index hindex => ?_
  have hpart : BalancedParts.part rowCount (groupCountOf rowCount) index ≤ targetRowGroupSize :=
    BalancedParts.le_of_mem_parts le_groupCountOf_mul (List.mem_map_of_mem hindex)
  exact Nat.lt_of_le_of_lt hpart (by decide)

/-- Every group of a file that is not small has a legal size. -/
theorem legal_of_mem_parts (h : minBalancedRowGroupSize ≤ rowCount)
    (hsize : size ∈ BalancedParts.parts rowCount (groupCountOf rowCount)) :
    minBalancedRowGroupSize ≤ size ∧ size ≤ targetRowGroupSize :=
  ⟨BalancedParts.le_of_mem_parts_of_mul_le (mul_groupCountOf_le h) hsize,
    BalancedParts.le_of_mem_parts le_groupCountOf_mul hsize⟩

private theorem planRowGroups_of_sizes {sizes : List ℕ} (hpos : 0 < rowCount)
    (hsizes : plannedSizes rowCount = .ok sizes)
    (hlegal : rowCount < minBalancedRowGroupSize ∨
      ∀ size ∈ sizes, minBalancedRowGroupSize ≤ size ∧ size ≤ targetRowGroupSize) :
    planRowGroups rowCount = .ok ⟨sizes⟩ := by
  rw [planRowGroups, Checked.rejectIf, if_neg (Nat.ne_of_gt hpos), Checks.ok_bind, hsizes,
    Checks.ok_bind, if_pos hlegal]

/-- The plan of a small file. -/
theorem planRowGroups_of_lt (hpos : 0 < rowCount) (h : rowCount < minBalancedRowGroupSize) :
    planRowGroups rowCount = .ok ⟨[rowCount]⟩ :=
  planRowGroups_of_sizes hpos (if_pos h) (.inl h)

/-- The plan of a file that is not small. -/
theorem planRowGroups_of_le (h : minBalancedRowGroupSize ≤ rowCount) :
    planRowGroups rowCount = .ok ⟨BalancedParts.parts rowCount (groupCountOf rowCount)⟩ := by
  refine planRowGroups_of_sizes (Nat.lt_of_lt_of_le (by decide) h) ?_ (.inr fun size hsize => ?_)
  · rw [plannedSizes, if_neg (Nat.not_lt.mpr h), balancedSizes_eq h]
  · exact legal_of_mem_parts h hsize

/-- Every file has a plan within the limits of the format. -/
theorem exists_planRowGroups (hpos : 1 ≤ rowCount) :
    ∃ plan, planRowGroups rowCount = .ok plan ∧ plan.WithinLimits rowCount := by
  rcases Nat.lt_or_ge rowCount minBalancedRowGroupSize with h | h
  · refine ⟨_, planRowGroups_of_lt hpos h, List.sum_singleton, ?_, fun _ => rfl, ?_⟩
    · intro a ha b hb
      rw [List.mem_singleton.mp ha, List.mem_singleton.mp hb]
      exact Nat.le_succ rowCount
    · intro hle
      exact absurd h (Nat.not_lt.mpr hle)
  · refine ⟨_, planRowGroups_of_le h, BalancedParts.sum_parts (groupCountOf_pos h), ?_, ?_, ?_⟩
    · intro a ha b hb
      exact Nat.le_trans (BalancedParts.le_div_add_one_of_mem_parts ha)
        (Nat.succ_le_succ (BalancedParts.div_le_of_mem_parts hb))
    · intro hsmall
      exact absurd hsmall (Nat.not_lt.mpr h)
    · intro _ size hsize
      exact legal_of_mem_parts h hsize

/-- **Every file has a plan**, whose sizes add up, differ by at most one and, unless there is a
single group because the file is small, are legal. -/
theorem planRowGroups_of_pos (hpos : 1 ≤ rowCount) :
    ∃ plan, planRowGroups rowCount = .ok plan ∧ plan.sizes.sum = rowCount ∧
      (∀ a ∈ plan.sizes, ∀ b ∈ plan.sizes, a ≤ b + 1) ∧
      (rowCount < 4096 → plan.sizes = [rowCount]) ∧
      (4096 ≤ rowCount → ∀ size ∈ plan.sizes, 4096 ≤ size ∧ size ≤ 8192) := by
  obtain ⟨plan, hplan, hlimits⟩ := exists_planRowGroups hpos
  exact ⟨plan, hplan, hlimits.sum_sizes, hlimits.balanced, hlimits.single, hlimits.legal⟩

/-- The plan of a file just beyond one full group. -/
theorem planRowGroups_of_pos_two_groups :
    ∃ plan, planRowGroups 8193 = .ok plan ∧ plan.sizes.sum = 8193 ∧
      (∀ a ∈ plan.sizes, ∀ b ∈ plan.sizes, a ≤ b + 1) ∧
      (8193 < 4096 → plan.sizes = [8193]) ∧
      (4096 ≤ 8193 → ∀ size ∈ plan.sizes, 4096 ≤ size ∧ size ≤ 8192) :=
  planRowGroups_of_pos (by decide)

end Plan

end WatershedDelineation
