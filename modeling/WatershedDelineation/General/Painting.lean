import Mathlib.Data.Set.Basic
import Mathlib.Data.Nat.Notation
import Mathlib.Tactic.Common

/-!
# Filling a list piece by piece

A picture gives every index a value. `Paints picture cells out out'` says that `out'` has the
values of the picture at the indices in `cells` and those of `out` elsewhere. Such steps compose
(`Paints.trans`), also in loops that may fail (`exists_foldlM_paints`), and a list all of whose
indices have been painted is the picture (`Paints.eq_map`).
-/

namespace Painting

variable {α β ε : Type} {picture : ℕ → α} {cells cells' : Set ℕ} {out out' out'' : List α}

/-- `out'` is `out` with the picture painted on the cells. -/
structure Paints (picture : ℕ → α) (cells : Set ℕ) (out out' : List α) : Prop where
  length_eq : out'.length = out.length
  painted : ∀ k ∈ cells, k < out.length → out'[k]? = some (picture k)
  kept : ∀ k ∉ cells, out'[k]? = out[k]?

theorem Paints.refl (picture : ℕ → α) (out : List α) : Paints picture ∅ out out :=
  ⟨rfl, fun _ h => absurd h (Set.notMem_empty _), fun _ _ => rfl⟩

theorem Paints.trans (h : Paints picture cells out out') (h' : Paints picture cells' out' out'') :
    Paints picture (cells ∪ cells') out out'' := by
  refine ⟨h'.length_eq.trans h.length_eq, fun k hk hlt => ?_, fun k hk => ?_⟩
  · by_cases hk' : k ∈ cells'
    · exact h'.painted k hk' (h.length_eq ▸ hlt)
    · rw [h'.kept k hk']
      exact h.painted k (hk.resolve_right hk') hlt
  · rw [Set.mem_union, not_or] at hk
    rw [h'.kept k hk.2, h.kept k hk.1]

theorem Paints.congr (h : Paints picture cells out out') (heq : cells = cells') :
    Paints picture cells' out out' := heq ▸ h

/-- **A loop that paints**: every round paints its own cells of one picture. -/
theorem exists_foldlM_paints {l : List β} {f : List α → β → Except ε (List α)} {piece : β → Set ℕ}
    (hstep : ∀ b ∈ l, ∀ out' : List α, out'.length = out.length →
      ∃ out'', f out' b = .ok out'' ∧ Paints picture (piece b) out' out'') :
    ∃ out', l.foldlM f out = .ok out' ∧ Paints picture {k | ∃ b ∈ l, k ∈ piece b} out out' := by
  induction l generalizing out with
  | nil => exact ⟨out, rfl, (Paints.refl picture out).congr (by simp)⟩
  | cons b l ih =>
    obtain ⟨out₁, hout₁, hpaints₁⟩ := hstep b (by simp) out rfl
    obtain ⟨out₂, hout₂, hpaints₂⟩ := ih fun b' hb' out' hlen =>
      hstep b' (.tail _ hb') out' (hlen.trans hpaints₁.length_eq)
    refine ⟨out₂, ?_, (hpaints₁.trans hpaints₂).congr ?_⟩
    · rw [List.foldlM_cons, hout₁]
      exact hout₂
    · ext k
      simp

/-- **The finished picture.** -/
theorem Paints.eq_map (h : Paints picture cells out out') (hall : ∀ k < out.length, k ∈ cells) :
    out' = (List.range out.length).map picture := by
  refine List.ext_getElem? fun k => ?_
  rcases Nat.lt_or_ge k out.length with hk | hk
  · rw [h.painted k (hall k hk) hk, List.getElem?_map, List.getElem?_range hk, Option.map_some]
  · rw [List.getElem?_eq_none (h.length_eq ▸ hk), List.getElem?_eq_none (by simpa using hk)]

/-- Replacing a slice by a slice of the picture. -/
theorem paints_slice {slice : List α} {start : ℕ} (hle : start + slice.length ≤ out.length)
    (hslice : ∀ i < slice.length, slice[i]? = some (picture (start + i))) :
    Paints picture {k | start ≤ k ∧ k < start + slice.length} out
      (out.take start ++ slice ++ out.drop (start + slice.length)) := by
  refine ⟨by simp; omega, fun k hk _ => ?_, fun k hk => ?_⟩
  · obtain ⟨hle', hlt⟩ := hk
    rw [List.append_assoc, List.getElem?_append_right (by simp; omega),
      List.getElem?_append_left (by simp; omega)]
    have hlen : (out.take start).length = start := by simp; omega
    rw [hlen, hslice _ (by omega), Nat.add_sub_cancel' hle']
  · rw [Set.mem_ofPred_eq, not_and_or, not_le, not_lt] at hk
    rcases hk with hk | hk
    · rw [List.append_assoc, List.getElem?_append_left (by simp; omega),
        List.getElem?_take_of_lt hk]
    · rw [List.getElem?_append_right (by simp; omega), List.getElem?_drop]
      congr 1
      simp
      omega

end Painting
