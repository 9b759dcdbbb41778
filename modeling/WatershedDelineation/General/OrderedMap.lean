import Mathlib.Data.List.Nodup
import Mathlib.Tactic.Common

/-!
# Ordered maps

Maps that are built by inserting a list of entries, and then read in the order of their keys. When
the keys of the list are distinct, the map has exactly its entries (`getElem?_insertAll`), and a
loop that refuses keys that are there already builds the same map (`insertNew_eq_ok`).

What a map is read as depends only on its entries (`toList_congr`).
-/

namespace OrderedMap

open Std

variable {K V ε : Type} [Ord K]

/-- Insert entries one after the other. -/
def insertAll (map : TreeMap K V) (entries : List (K × V)) : TreeMap K V :=
  entries.foldl (fun map entry => map.insert entry.1 entry.2) map

/-- Insert entries the keys of which have to be new. -/
def insertNew (duplicate : K → ε) (map : TreeMap K V) (entries : List (K × V)) :
    Except ε (TreeMap K V) :=
  entries.foldlM (fun map entry =>
    if entry.1 ∈ map then .error (duplicate entry.1) else .ok (map.insert entry.1 entry.2)) map

variable [TransOrd K] [LawfulEqOrd K] {map : TreeMap K V} {entries : List (K × V)} {k : K} {v : V}

theorem getElem?_insert_of_ne {k' : K} (h : k' ≠ k) : (map.insert k v)[k']? = map[k']? := by
  rw [TreeMap.getElem?_insert, if_neg]
  intro heq
  exact h (LawfulEqOrd.eq_of_compare heq).symm

/-- The entries of a map that entries with distinct new keys are inserted into. -/
theorem getElem?_insertAll_iff (hnodup : (entries.map Prod.fst).Nodup)
    (hnew : ∀ entry ∈ entries, entry.1 ∉ map) :
    (insertAll map entries)[k]? = some v ↔ map[k]? = some v ∨ (k, v) ∈ entries := by
  induction entries generalizing map with
  | nil => simp [insertAll]
  | cons entry entries ih =>
    rw [List.map_cons, List.nodup_cons] at hnodup
    have hne : ∀ entry' ∈ entries, entry'.1 ≠ entry.1 := by
      intro entry' hentry' heq
      exact hnodup.1 (heq ▸ List.mem_map_of_mem hentry')
    have hrest : ∀ entry' ∈ entries, entry'.1 ∉ map.insert entry.1 entry.2 := by
      intro entry' hentry' hmem
      rw [TreeMap.mem_insert] at hmem
      rcases hmem with heq | hmem
      · exact hne entry' hentry' (LawfulEqOrd.eq_of_compare heq).symm
      · exact hnew entry' (List.mem_cons_of_mem _ hentry') hmem
    change (insertAll (map.insert entry.1 entry.2) entries)[k]? = some v ↔ _
    rw [ih hnodup.2 hrest, List.mem_cons]
    rcases eq_or_ne k entry.1 with rfl | hk
    · have hnone : map[entry.1]? = none :=
        TreeMap.getElem?_eq_none (hnew entry List.mem_cons_self)
      rw [TreeMap.getElem?_insert_self, hnone]
      simp [Prod.ext_iff, eq_comm]
    · rw [getElem?_insert_of_ne hk]
      simp [Prod.ext_iff, hk]

/-- **A map has the entries of its list**, when their keys are distinct. -/
theorem getElem?_insertAll (hnodup : (entries.map Prod.fst).Nodup) :
    (insertAll (∅ : TreeMap K V) entries)[k]? = some v ↔ (k, v) ∈ entries := by
  rw [getElem?_insertAll_iff hnodup fun _ _ => TreeMap.not_mem_emptyc]
  simp

/-- Distinct keys are never refused. -/
theorem insertNew_eq_ok {duplicate : K → ε} (hnodup : (entries.map Prod.fst).Nodup)
    (hnew : ∀ entry ∈ entries, entry.1 ∉ map) :
    insertNew duplicate map entries = .ok (insertAll map entries) := by
  induction entries generalizing map with
  | nil => rfl
  | cons entry entries ih =>
    rw [List.map_cons, List.nodup_cons] at hnodup
    rw [insertNew, List.foldlM_cons, if_neg (hnew entry List.mem_cons_self)]
    refine ih hnodup.2 fun entry' hentry' hmem => ?_
    rw [TreeMap.mem_insert] at hmem
    rcases hmem with heq | hmem
    · refine hnodup.1 ?_
      rw [LawfulEqOrd.eq_of_compare heq]
      exact List.mem_map_of_mem hentry'
    · exact hnew entry' (List.mem_cons_of_mem _ hentry') hmem

/-- Maps with the same entries are read as the same list. -/
theorem toList_congr {map' : TreeMap K V}
    (h : ∀ (k : K) (v : V), map[k]? = some v ↔ map'[k]? = some v) :
    map.toList = map'.toList := by
  refine (TreeMap.Equiv.of_forall_constGet?_eq fun k => ?_).toList_eq
  exact Option.ext (h k)

end OrderedMap
