import Mathlib.Data.List.Sort
import Mathlib.Tactic.Common

/-!
# Comparison functions

Sorting with a comparison function. When the function is a total order that only equal elements
are equal under, lists with the same elements are sorted to the same list (`sortBy_eq_of_perm`), and
sorting twice is sorting once (`sortBy_sortBy`). Elements that are equal under the function stay in
their order, so it is necessary that there are none (`forall_perm_sortBy_iff`).

Comparing two sequences until they first differ, and then their lengths, is the lexicographic
comparison (`firstDifference_zip`).
-/

namespace Comparison

open Std

variable {α : Type*} {cmp : α → α → Ordering}

/-- Sort with a comparison function; the sort is stable. -/
def sortBy (cmp : α → α → Ordering) (l : List α) : List α := l.mergeSort fun a b => (cmp a b).isLE

theorem sortBy_perm (cmp : α → α → Ordering) (l : List α) : (sortBy cmp l).Perm l :=
  List.mergeSort_perm l _

theorem mem_sortBy {l : List α} {a : α} : a ∈ sortBy cmp l ↔ a ∈ l := (sortBy_perm cmp l).mem_iff

theorem pairwise_sortBy [TransCmp cmp] (l : List α) :
    (sortBy cmp l).Pairwise fun a b => (cmp a b).isLE := by
  refine List.pairwise_mergeSort (fun a b c => TransCmp.isLE_trans) (fun a b => ?_) l
  rw [Bool.or_eq_true, @OrientedCmp.eq_swap _ cmp _ b a]
  cases cmp a b <;> simp

/-- Sorting forgets the order of elements none of which are equal under the function. -/
theorem sortBy_eq_of_perm_of_inj [TransCmp cmp] {l l' : List α} (h : l.Perm l')
    (heq : ∀ a ∈ l, ∀ b ∈ l, cmp a b = .eq → a = b) : sortBy cmp l = sortBy cmp l' := by
  have hperm := (sortBy_perm cmp l).trans (h.trans (sortBy_perm cmp l').symm)
  refine hperm.eq_of_pairwise (fun a b ha hb hab hba => ?_) (pairwise_sortBy l) (pairwise_sortBy l')
  have hb : b ∈ l := h.mem_iff.mpr (mem_sortBy.mp hb)
  exact heq a (mem_sortBy.mp ha) b hb (OrientedCmp.isLE_antisymm hab hba)

/-- **Sorting forgets the order.** -/
theorem sortBy_eq_of_perm [TransCmp cmp] [LawfulEqCmp cmp] {l l' : List α} (h : l.Perm l') :
    sortBy cmp l = sortBy cmp l' :=
  sortBy_eq_of_perm_of_inj h fun _ _ _ _ => LawfulEqCmp.eq_of_compare

theorem sortBy_sortBy [TransCmp cmp] [LawfulEqCmp cmp] (l : List α) :
    sortBy cmp (sortBy cmp l) = sortBy cmp l :=
  sortBy_eq_of_perm (sortBy_perm cmp l)

/-- What is sorted stays as it is. -/
theorem sortBy_eq_self {l : List α} (h : l.Pairwise fun a b => (cmp a b).isLE) :
    sortBy cmp l = l :=
  List.mergeSort_of_pairwise h

/-- Sorting keeps the order of elements that are equal under the function. -/
theorem filter_sortBy [TransCmp cmp] (l : List α) (a : α) :
    (sortBy cmp l).filter (fun b => cmp a b == .eq) = l.filter fun b => cmp a b == .eq := by
  have htotal (b c : α) : (cmp b c).isLE || (cmp c b).isLE := by
    rw [Bool.or_eq_true, @OrientedCmp.eq_swap _ cmp _ c b]
    cases cmp b c <;> simp
  have hpair : (l.filter fun b => cmp a b == .eq).Pairwise fun b c => (cmp b c).isLE := by
    refine List.pairwise_of_forall_mem_list fun b hb c hc => ?_
    have hab : cmp a b = .eq := beq_iff_eq.mp (List.mem_filter.mp hb).2
    have hac : cmp a c = .eq := beq_iff_eq.mp (List.mem_filter.mp hc).2
    rw [TransCmp.eq_trans (OrientedCmp.eq_symm hab) hac]
    rfl
  have hsub := List.sublist_mergeSort (fun a b c => TransCmp.isLE_trans) htotal hpair
    (List.filter_sublist (p := fun b => cmp a b == .eq) (l := l))
  have hfilter := hsub.filter fun b => cmp a b == .eq
  rw [List.filter_filter] at hfilter
  simp only [Bool.and_self] at hfilter
  refine (hfilter.eq_of_length ?_).symm
  exact ((sortBy_perm cmp l).filter _).length_eq.symm

/-- Sorting forgets the order of a list exactly when elements of it are told apart. -/
theorem forall_perm_sortBy_iff [TransCmp cmp] {l : List α} :
    (∀ l', l.Perm l' → sortBy cmp l' = sortBy cmp l) ↔
      ∀ a ∈ l, ∀ b ∈ l, cmp a b = .eq → a = b := by
  constructor
  · intro h a ha b hb hab
    by_contra hne
    classical
    -- in front of the others, the two may come in either order
    have hbmem : b ∈ l.erase a := (List.mem_erase_of_ne (Ne.symm hne)).mpr hb
    have hfirst : l.Perm (a :: b :: (l.erase a).erase b) :=
      (List.perm_cons_erase ha).trans ((List.perm_cons_erase hbmem).cons a)
    have hsecond : l.Perm (b :: a :: (l.erase a).erase b) :=
      hfirst.trans (List.Perm.swap b a _)
    have hsort := (h _ hfirst).trans (h _ hsecond).symm
    have hfilter := congrArg (List.filter fun c => cmp a c == .eq) hsort
    have haa : cmp a a = .eq := ReflCmp.compare_self
    simp only [filter_sortBy, List.filter_cons, haa, hab, beq_self_eq_true, if_true] at hfilter
    exact hne (List.cons.inj hfilter).1
  · intro h l' hperm
    exact (sortBy_eq_of_perm_of_inj hperm h).symm

/-! ### The first difference -/

/-- The first of some comparisons that is not equality, or another one. -/
def firstDifference (comparisons : List Ordering) (otherwise : Ordering) : Ordering :=
  (comparisons.find? (· ≠ .eq)).getD otherwise

theorem firstDifference_cons (o : Ordering) (comparisons : List Ordering) (otherwise : Ordering) :
    firstDifference (o :: comparisons) otherwise
      = o.then (firstDifference comparisons otherwise) := by
  cases o <;> rfl

theorem firstDifference_zip (cmp : α → α → Ordering) (l l' : List α) :
    firstDifference ((l.zip l').map fun (a, b) => cmp a b) (compare l.length l'.length)
      = List.compareLex cmp l l' := by
  induction l generalizing l' with
  | nil =>
    cases l' with
    | nil => rfl
    | cons b l' => exact (Nat.compare_eq_lt.mpr (Nat.succ_pos _) : compare 0 (l'.length + 1) = .lt)
  | cons a l ih =>
    cases l' with
    | nil => exact (Nat.compare_eq_gt.mpr (Nat.succ_pos _) : compare (l.length + 1) 0 = .gt)
    | cons b l' =>
      rw [List.zip_cons_cons, List.map_cons, firstDifference_cons, List.compareLex_cons_cons,
        ← ih l', List.length_cons, List.length_cons]
      congr 2
      simp only [Nat.compare_eq_ite_lt, Nat.add_lt_add_iff_right]

/-! ### The least of a list -/

section Best

variable {ι : Type*} {value : ι → α}

/-- The first element with the least value, `best` if it is one. -/
def bestBy (cmp : α → α → Ordering) (value : ι → α) (best : ι) (candidates : List ι) : ι :=
  candidates.foldl (fun best candidate =>
    if cmp (value candidate) (value best) = .lt then candidate else best) best

theorem bestBy_cons (best candidate : ι) (candidates : List ι) :
    bestBy cmp value best (candidate :: candidates) = bestBy cmp value
      (if cmp (value candidate) (value best) = .lt then candidate else best) candidates := rfl

theorem bestBy_spec [TransCmp cmp] (best : ι) (candidates : List ι) :
    bestBy cmp value best candidates ∈ best :: candidates ∧
      ∀ i ∈ best :: candidates,
        (cmp (value (bestBy cmp value best candidates)) (value i)).isLE := by
  induction candidates generalizing best with
  | nil =>
    refine ⟨List.mem_cons_self, fun i hi => ?_⟩
    rw [List.mem_singleton.mp hi]
    exact ReflCmp.isLE_rfl
  | cons candidate candidates ih =>
    rw [bestBy_cons]
    split_ifs with hlt
    · obtain ⟨hmem, hle⟩ := ih candidate
      refine ⟨List.mem_cons_of_mem _ hmem, fun i hi => ?_⟩
      rcases List.mem_cons.mp hi with rfl | hi
      · refine TransCmp.isLE_trans (hle candidate List.mem_cons_self) ?_
        rw [hlt]
        rfl
      · exact hle i hi
    · obtain ⟨hmem, hle⟩ := ih best
      have hbest : (cmp (value best) (value candidate)).isLE := by
        rw [← OrientedCmp.gt_iff_lt] at hlt
        rwa [← Ordering.ne_gt_iff_isLE]
      refine ⟨?_, fun i hi => ?_⟩
      · rcases List.mem_cons.mp hmem with heq | hmem
        · rw [heq]
          exact List.mem_cons_self
        · exact List.mem_cons_of_mem _ (List.mem_cons_of_mem _ hmem)
      · rcases List.mem_cons.mp hi with rfl | hi
        · exact hle _ List.mem_cons_self
        · rcases List.mem_cons.mp hi with rfl | hi
          · exact TransCmp.isLE_trans (hle best List.mem_cons_self) hbest
          · exact hle i (List.mem_cons_of_mem _ hi)

end Best

end Comparison
