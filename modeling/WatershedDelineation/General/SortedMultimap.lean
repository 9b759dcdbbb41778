import Mathlib.Data.List.Perm.Basic
import Mathlib.Order.Lattice
import Mathlib.Order.Monotone.Basic
import Mathlib.Tactic.Common

/-!
# Ordered maps to stacks

An ordered map whose values are stacks, kept as a list of key-stack pairs in strictly
increasing key order with no empty stack (`WF`). `push` adds on top of a key's stack, `pop`
takes from the top and drops the key with its last value.

`get` is the stack of a key and `entries` all key-value pairs; every operation is described by
what it does to these two (`get_push`, `entries_push`, `WF.pop`). Both operations commute with
strictly monotone renamings of the keys (`push_map`, `pop_map`).
-/

namespace SortedMultimap

variable {K V : Type*}

/-- All key-value pairs. -/
def entries (m : List (K × List V)) : List (K × V) :=
  m.flatMap fun e => e.2.map fun v => (e.1, v)

@[simp] theorem entries_nil : entries ([] : List (K × List V)) = [] := rfl

@[simp] theorem entries_cons {k : K} {vs : List V} {m : List (K × List V)} :
    entries ((k, vs) :: m) = vs.map (fun v => (k, v)) ++ entries m := by
  rw [entries, List.flatMap_cons, entries]

theorem fst_mem_of_mem_entries {m : List (K × List V)} {e : K × V}
    (h : e ∈ entries m) : e.1 ∈ m.map Prod.fst := by
  obtain ⟨e', he', hmem⟩ := List.mem_flatMap.mp h
  obtain ⟨v, -, rfl⟩ := List.mem_map.mp hmem
  exact List.mem_map_of_mem he'

variable [LinearOrder K]

/-- The stack of a key, top last; empty when the key is absent. -/
def get (k : K) : List (K × List V) → List V
  | [] => []
  | (k', vs) :: m => if k = k' then vs else get k m

/-- Put a value on top of a key's stack. -/
def push (k : K) (v : V) : List (K × List V) → List (K × List V)
  | [] => [(k, [v])]
  | (k', vs) :: m =>
    if k < k' then (k, [v]) :: (k', vs) :: m
    else if k = k' then (k', vs ++ [v]) :: m
    else (k', vs) :: push k v m

/-- Take the top value of a key's stack, and remove the key when no value is left. -/
def pop (k : K) : List (K × List V) → Option (V × List (K × List V))
  | [] => none
  | (k', vs) :: m =>
    if k = k' then
      match vs.getLast? with
      | none => none
      | some v => some (v, if vs.dropLast = [] then m else (k', vs.dropLast) :: m)
    else (pop k m).map fun p => (p.1, (k', vs) :: p.2)

/-- Keys strictly increase, and no stack is empty. -/
structure WF (m : List (K × List V)) : Prop where
  sorted : (m.map Prod.fst).Pairwise (· < ·)
  ne_nil : ∀ e ∈ m, e.2 ≠ []

variable {k k' : K} {v : V} {vs : List V} {m : List (K × List V)}

theorem WF.nil : WF ([] : List (K × List V)) := ⟨List.Pairwise.nil, by simp⟩

theorem WF.tail (h : WF ((k, vs) :: m)) : WF m :=
  ⟨(List.pairwise_cons.mp h.sorted).2, fun e he => h.ne_nil e (.tail _ he)⟩

theorem WF.lt (h : WF ((k, vs) :: m)) : ∀ k' ∈ m.map Prod.fst, k < k' :=
  (List.pairwise_cons.mp h.sorted).1

theorem get_eq_nil (h : k ∉ m.map Prod.fst) : get k m = [] := by
  induction m with
  | nil => rfl
  | cons e m ih =>
    rw [List.map_cons] at h
    rw [get, if_neg (List.ne_of_not_mem_cons h), ih (List.not_mem_of_not_mem_cons h)]

/-- The first key is the least one. -/
theorem WF.head_le (h : WF ((k, vs) :: m)) {e : K × V} (he : e ∈ entries ((k, vs) :: m)) :
    k ≤ e.1 := by
  rcases List.mem_cons.mp (fst_mem_of_mem_entries he) with heq | hmem
  · exact heq.ge
  · exact (h.lt e.1 hmem).le

theorem mem_entries_iff (h : WF m) : (k, v) ∈ entries m ↔ v ∈ get k m := by
  induction m with
  | nil => simp [get]
  | cons e m ih =>
    obtain ⟨k', vs⟩ := e
    rw [entries_cons, List.mem_append, ih h.tail, get]
    split_ifs with hk
    · subst hk
      have hnil : get k m = [] := get_eq_nil fun hmem => (h.lt k hmem).ne rfl
      simp [hnil]
    · simp [Ne.symm hk]

/-! ### Pushing -/

theorem mem_fst_push {x : K} :
    x ∈ (push k v m).map Prod.fst ↔ x = k ∨ x ∈ m.map Prod.fst := by
  induction m with
  | nil => simp [push]
  | cons e m ih =>
    rw [push]
    split_ifs with hlt heq
    · simp
    · simp [heq]
    · rw [List.map_cons, List.mem_cons, ih, List.map_cons, List.mem_cons]
      tauto

theorem WF.push (h : WF m) : WF (push k v m) := by
  induction m with
  | nil => exact ⟨by simp [SortedMultimap.push], by simp [SortedMultimap.push]⟩
  | cons e m ih =>
    obtain ⟨k', vs⟩ := e
    rw [SortedMultimap.push]
    split_ifs with hlt heq
    · refine ⟨List.pairwise_cons.mpr ⟨fun x hx => ?_, h.sorted⟩, fun e he => ?_⟩
      · rcases List.mem_cons.mp hx with rfl | hx
        · exact hlt
        · exact hlt.trans (h.lt x hx)
      · rcases List.mem_cons.mp he with rfl | he
        · simp
        · exact h.ne_nil e he
    · refine ⟨h.sorted, fun e he => ?_⟩
      rcases List.mem_cons.mp he with rfl | he
      · simp
      · exact h.tail.ne_nil e he
    · refine ⟨List.pairwise_cons.mpr ⟨fun x hx => ?_, (ih h.tail).sorted⟩, fun e he => ?_⟩
      · rcases mem_fst_push.mp hx with rfl | hx
        · exact lt_of_le_of_ne (not_lt.mp hlt) (Ne.symm heq)
        · exact h.lt x hx
      · rcases List.mem_cons.mp he with rfl | he
        · exact h.ne_nil _ (by simp)
        · exact (ih h.tail).ne_nil e he

theorem get_push (h : WF m) :
    get k' (push k v m) = if k' = k then get k m ++ [v] else get k' m := by
  induction m with
  | nil => simp [push, get]
  | cons e m ih =>
    obtain ⟨k₀, vs⟩ := e
    rcases lt_trichotomy k k₀ with hlt | rfl | hgt
    · have hnil : get k ((k₀, vs) :: m) = [] := get_eq_nil fun hmem => by
        rcases List.mem_cons.mp hmem with rfl | hmem
        · exact hlt.ne rfl
        · exact (hlt.trans (h.lt k hmem)).ne rfl
      rw [push, if_pos hlt, hnil, get]
      rfl
    · rw [push, if_neg (lt_irrefl k), if_pos rfl, get, get, get, if_pos rfl]
      split_ifs <;> rfl
    · rw [push, if_neg hgt.not_gt, if_neg hgt.ne', get, get, get, if_neg hgt.ne', ih h.tail]
      by_cases hk : k' = k
      · rw [if_pos hk, if_pos hk, if_neg (hk ▸ hgt.ne')]
      · rw [if_neg hk, if_neg hk]

theorem entries_push : (entries (push k v m)).Perm ((k, v) :: entries m) := by
  induction m with
  | nil => simp [push]
  | cons e m ih =>
    obtain ⟨k₀, vs⟩ := e
    rw [push]
    split_ifs with hlt heq
    · simp
    · subst heq
      rw [entries_cons, entries_cons, List.map_append, List.append_assoc]
      exact List.perm_middle
    · rw [entries_cons, entries_cons]
      exact (List.Perm.append_left _ ih).trans List.perm_middle

/-! ### Popping -/

theorem WF.pop_eq_none_iff (h : WF m) : pop k m = none ↔ get k m = [] := by
  induction m with
  | nil => simp [SortedMultimap.pop, get]
  | cons e m ih =>
    obtain ⟨k₀, vs⟩ := e
    rw [SortedMultimap.pop, get]
    by_cases hk : k = k₀
    · have hne : vs ≠ [] := h.ne_nil (k₀, vs) (by simp)
      simp [hk, hne, List.getLast?_eq_getLast_of_ne_nil]
    · rw [if_neg hk, if_neg hk, Option.map_eq_none_iff, ih h.tail]

/-- What taking a value does: it is the top of the key's stack, the rest of that stack and
all other stacks stay. -/
theorem WF.pop {m' : List (K × List V)} (h : WF m) (hpop : pop k m = some (v, m')) :
    WF m' ∧ get k m = get k m' ++ [v] ∧ (∀ x, x ≠ k → get x m' = get x m) ∧
      (entries m).Perm ((k, v) :: entries m') ∧ (m'.map Prod.fst).Sublist (m.map Prod.fst) := by
  induction m generalizing m' with
  | nil => simp [SortedMultimap.pop] at hpop
  | cons e m ih =>
    obtain ⟨k₀, vs⟩ := e
    rw [SortedMultimap.pop] at hpop
    by_cases hk : k = k₀
    · subst hk
      have hnil : get k m = [] := get_eq_nil fun hmem => (h.lt k hmem).ne rfl
      obtain ⟨us, u, rfl⟩ :=
        (List.eq_nil_or_concat' vs).resolve_left (h.ne_nil (k, vs) (by simp))
      rw [if_pos rfl, List.getLast?_concat, List.dropLast_concat] at hpop
      obtain ⟨rfl, rfl⟩ := Prod.mk.inj (Option.some.inj hpop)
      have hperm : (entries ((k, us ++ [u]) :: m)).Perm
          ((k, u) :: (us.map (k, ·) ++ entries m)) := by
        rw [entries_cons, List.map_append, List.append_assoc]
        exact List.perm_middle
      -- a stack that becomes empty is removed with its key
      split_ifs with hus
      · subst hus
        refine ⟨h.tail, by simp [get, hnil], fun x hx => ?_, hperm, by simp⟩
        rw [get, if_neg hx]
      · refine ⟨⟨h.sorted, fun e he => ?_⟩, by simp [get], fun x hx => ?_, ?_, by simp⟩
        · rcases List.mem_cons.mp he with rfl | he
          · exact hus
          · exact h.tail.ne_nil e he
        · rw [get, if_neg hx, get, if_neg hx]
        · rw [entries_cons]
          exact hperm
    · rw [if_neg hk] at hpop
      obtain ⟨⟨u, m₁⟩, hpop', heq⟩ := Option.map_eq_some_iff.mp hpop
      obtain ⟨rfl, rfl⟩ := Prod.mk.inj heq
      obtain ⟨hwf, hget, hother, hperm, hsub⟩ := ih h.tail hpop'
      refine ⟨⟨List.pairwise_cons.mpr ⟨fun x hx => h.lt x (hsub.subset hx), hwf.sorted⟩, ?_⟩, ?_,
        fun x hx => ?_, ?_, hsub.cons_cons _⟩
      · intro e he
        rcases List.mem_cons.mp he with rfl | he
        · exact h.ne_nil _ (by simp)
        · exact hwf.ne_nil e he
      · rw [get, if_neg hk, get, if_neg hk, hget]
      · rw [get, get, hother x hx]
      · rw [entries_cons, entries_cons]
        exact (List.Perm.append_left _ hperm).trans List.perm_middle

/-! ### Renaming -/

section Rename

variable {K' V' : Type*} [LinearOrder K'] {f : K → K'} (g : V → V')

/-- Rename keys and values. -/
def rename (f : K → K') (g : V → V') (m : List (K × List V)) : List (K' × List V') :=
  m.map (Prod.map f (List.map g))

omit [LinearOrder K] [LinearOrder K'] in
theorem rename_cons (f : K → K') (k : K) (vs : List V) (m : List (K × List V)) :
    rename f g ((k, vs) :: m) = (f k, vs.map g) :: rename f g m := rfl

theorem push_rename (hf : StrictMono f) (k : K) (v : V) (m : List (K × List V)) :
    push (f k) (g v) (rename f g m) = rename f g (push k v m) := by
  induction m with
  | nil => rfl
  | cons e m ih =>
    obtain ⟨k', vs⟩ := e
    rw [rename_cons, push, push]
    simp only [hf.lt_iff_lt, hf.injective.eq_iff]
    split_ifs
    · rfl
    · rw [rename_cons, List.map_append]
      rfl
    · rw [rename_cons, ih]

theorem pop_rename (hf : StrictMono f) (k : K) (m : List (K × List V)) :
    pop (f k) (rename f g m) = (pop k m).map (Prod.map g (rename f g)) := by
  induction m with
  | nil => rfl
  | cons e m ih =>
    obtain ⟨k', vs⟩ := e
    rw [rename_cons, pop, pop, List.getLast?_map, ← List.map_dropLast]
    by_cases hk : k = k'
    · rw [if_pos hk, if_pos (congrArg f hk)]
      cases vs.getLast? with
      | none => rfl
      | some v =>
        simp only [Option.map_some, List.map_eq_nil_iff]
        split_ifs <;> rfl
    · rw [if_neg hk, if_neg (hf.injective.ne hk), ih]
      cases pop k m <;> rfl

end Rename

end SortedMultimap
