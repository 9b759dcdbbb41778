import Mathlib.Data.List.Basic
import Mathlib.Data.Nat.Basic
import Mathlib.Tactic.Common

/-!
# Lists filled position by position

A list of results is often put together out of order: one starts from a list of empty slots and
writes each result into the slot of its position. `Scattered` says that what has been written so far
is right; when every slot is filled, the slots are the expected list (`eq_map_some`).
-/

namespace Scatter

variable {α : Type*}

/-- The slot at a position has been written. -/
def Filled (slots : List (Option α)) (i : ℕ) : Prop := ∃ a, slots[i]? = some (some a)

/-- Every slot that has been written holds the element of the expected list at its position. -/
structure Scattered (expected : List α) (slots : List (Option α)) : Prop where
  length_eq : slots.length = expected.length
  agrees : ∀ (i : ℕ) (a : α), slots[i]? = some (some a) → expected[i]? = some a

variable {expected : List α} {slots : List (Option α)} {i j : ℕ} {a : α}

theorem scattered_replicate (h : expected.length = i) :
    Scattered expected (List.replicate i none) := by
  refine ⟨by rw [List.length_replicate, h], fun j a ha => ?_⟩
  rw [List.getElem?_replicate] at ha
  split_ifs at ha
  exact absurd (Option.some.inj ha) (by simp)

theorem filled_set_self (h : i < slots.length) : Filled (slots.set i (some a)) i :=
  ⟨a, by rw [List.getElem?_set_self h]⟩

/-- A slot that has been written stays written. -/
theorem Filled.set (h : Filled slots j) : Filled (slots.set i (some a)) j := by
  obtain ⟨b, hb⟩ := h
  rcases eq_or_ne i j with rfl | hne
  · exact filled_set_self (List.getElem?_eq_some_iff.mp hb).1
  · exact ⟨b, by rw [List.getElem?_set_ne hne, hb]⟩

namespace Scattered

/-- Writing an element at its position. -/
theorem set (h : Scattered expected slots) (ha : expected[i]? = some a) :
    Scattered expected (slots.set i (some a)) := by
  refine ⟨by rw [List.length_set, h.length_eq], fun j b hb => ?_⟩
  rcases eq_or_ne i j with rfl | hne
  · have hi : i < slots.length := h.length_eq ▸ (List.getElem?_eq_some_iff.mp ha).1
    rw [List.getElem?_set_self hi] at hb
    rw [ha, Option.some.inj (Option.some.inj hb)]
  · rw [List.getElem?_set_ne hne] at hb
    exact h.agrees j b hb

/-- **When every slot is filled**, the slots are the expected list. -/
theorem eq_map_some (h : Scattered expected slots) (hfilled : ∀ i < slots.length, Filled slots i) :
    slots = expected.map some := by
  refine List.ext_getElem? fun i => ?_
  rcases lt_or_ge i slots.length with hi | hi
  · obtain ⟨a, ha⟩ := hfilled i hi
    rw [ha, List.getElem?_map, h.agrees i a ha, Option.map_some]
  · rw [List.getElem?_eq_none hi, List.getElem?_eq_none]
    rw [List.length_map, ← h.length_eq]
    exact hi

end Scattered

end Scatter
