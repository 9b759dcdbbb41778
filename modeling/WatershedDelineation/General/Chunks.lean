import Mathlib.Data.List.GetD
import Mathlib.Data.Nat.Notation
import Mathlib.Tactic.Common

/-!
# Chunks of a list

`chunksExact n l` are the consecutive pieces of length `n`; a last shorter piece is left out.
`mapChunksExact` changes each of them in place and keeps that rest.
-/

namespace Chunks

variable {α : Type*} {n : ℕ} {l : List α}

/-- The consecutive pieces of length `n`. -/
def chunksExact (n : ℕ) (l : List α) : List (List α) :=
  (List.range (l.length / n)).map fun i => (l.drop (i * n)).take n

/-- Change every piece of length `n` in place. -/
def mapChunksExact (n : ℕ) (f : List α → List α) (l : List α) : List α :=
  (chunksExact n l).flatMap f ++ l.drop (l.length / n * n)

theorem length_of_mem_chunksExact {chunk : List α} (h : chunk ∈ chunksExact n l) :
    chunk.length = n := by
  obtain ⟨i, hi, rfl⟩ := List.mem_map.mp h
  have hle : (i + 1) * n ≤ l.length := Nat.le_trans
    (Nat.mul_le_mul_right n (List.mem_range.mp hi)) (Nat.div_mul_le_self _ _)
  rw [List.length_take, List.length_drop]
  rw [Nat.succ_mul] at hle
  omega

theorem length_chunksExact : (chunksExact n l).length = l.length / n := by
  rw [chunksExact, List.length_map, List.length_range]

/-- A change that keeps the lengths of the pieces keeps the length of the list. -/
theorem length_mapChunksExact {f : List α → List α}
    (hf : ∀ chunk, chunk.length = n → (f chunk).length = n) :
    (mapChunksExact n f l).length = l.length := by
  have hsum : ((chunksExact n l).map fun chunk => (f chunk).length).sum = l.length / n * n := by
    rw [List.map_congr_left fun chunk hchunk => hf chunk (length_of_mem_chunksExact hchunk),
      List.map_const', List.sum_replicate_nat, length_chunksExact]
  rw [mapChunksExact, List.length_append, List.length_flatMap, hsum, List.length_drop]
  have := Nat.div_mul_le_self l.length n
  omega

section Rows

variable {β : Type*} {rows : List β} {f : β → List α}

theorem length_flatMap_rows (hf : ∀ row ∈ rows, (f row).length = n) :
    (rows.flatMap f).length = rows.length * n := by
  rw [List.length_flatMap, List.map_congr_left hf, List.map_const', List.sum_replicate_nat]

/-- The pieces of a list made of rows of length `n` are the rows. -/
theorem chunksExact_flatMap (hn : 0 < n) (hf : ∀ row ∈ rows, (f row).length = n) :
    chunksExact n (rows.flatMap f) = rows.map f := by
  rw [chunksExact, length_flatMap_rows hf, Nat.mul_div_cancel _ hn]
  induction rows with
  | nil => rfl
  | cons row rows ih =>
    obtain ⟨hrow, hrows⟩ := List.forall_mem_cons.mp hf
    rw [List.length_cons, List.range_succ_eq_map, List.map_cons, List.map_cons, List.map_map,
      List.flatMap_cons, ← ih hrows, Nat.zero_mul, List.drop_zero, List.take_left' hrow]
    congr 1
    refine List.map_congr_left fun i _ => ?_
    rw [Function.comp_apply, Nat.succ_mul, Nat.add_comm, ← List.drop_drop,
      List.drop_left' hrow]

theorem mapChunksExact_flatMap (hn : 0 < n) (hf : ∀ row ∈ rows, (f row).length = n)
    (g : List α → List α) :
    mapChunksExact n g (rows.flatMap f) = rows.flatMap fun row => g (f row) := by
  rw [mapChunksExact, chunksExact_flatMap hn hf, length_flatMap_rows hf, Nat.mul_div_cancel _ hn,
    ← length_flatMap_rows hf, List.drop_length, List.append_nil, List.flatMap_map]

end Rows

end Chunks
