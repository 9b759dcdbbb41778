import Mathlib.Data.List.Nodup
import Mathlib.Data.List.Perm.Subperm
import Mathlib.Tactic.Common
import WatershedDelineation.General.LinkTree

/-!
# Visiting a tree in post-order with a stack

A stack of points, each with a mark. A point without a mark on top of the stack is marked, and its
children are pushed above it (`Inv.enter`); a point with a mark is visited and popped
(`Inv.leave`), and then all its children have been visited before. When the stack is empty every
point of the tree has been visited (`Inv.done_of_mem`). Every round makes progress, and there are
two for each point (`progress_enter`, `progress_leave`, `Inv.progress_le`).
-/

namespace PostOrder

open LinkTree

variable {α : Type*}

/-- The lists of children of a tree of links. -/
structure Children (children : α → List α) (parent : α → Option α) (members : List α) : Prop where
  nodup : ∀ a, (children a).Nodup
  mem_iff : ∀ a k, k ∈ children a ↔ k ∈ members ∧ parent k = some a

/-- The state of a visit: `done` holds of the visited points, the top of `stack` is its head. -/
structure Inv (children : α → List α) (root : α) (done : α → Prop) (stack : List (α × Bool)) :
    Prop where
  nodup : (stack.map Prod.fst).Nodup
  not_done : ∀ e ∈ stack, ¬done e.1
  root_seen : done root ∨ root ∈ stack.map Prod.fst
  seen : ∀ a, done a ∨ a ∈ stack.map Prod.fst →
    a = root ∨ ∃ p, a ∈ children p ∧ (done p ∨ (p, true) ∈ stack)
  closed : ∀ a, done a → ∀ k ∈ children a, done k
  pending : ∀ above a below, stack = above ++ (a, true) :: below →
    ∀ k ∈ children a, done k ∨ k ∈ above.map Prod.fst

variable {children : α → List α} {parent : α → Option α} {root a : α} {members : List α}
  {done : α → Prop} {stack rest : List (α × Bool)}

namespace Inv

/-- A visit starts with the root. -/
theorem start (children : α → List α) (root : α) :
    Inv children root (fun _ => False) [(root, false)] where
  nodup := List.nodup_singleton _
  not_done _ _ := id
  root_seen := .inr (by simp)
  seen a ha := by
    rcases ha with ha | ha
    · exact ha.elim
    · exact .inl (by simpa using ha)
  closed _ ha := ha.elim
  pending above a below h := by
    have hmem : (a, true) ∈ [(root, false)] := h ▸ List.mem_append_right _ List.mem_cons_self
    simp at hmem

/-- The children of an unmarked point have not been seen. -/
theorem not_seen (h : Inv children root done ((a, false) :: rest))
    (hspans : Spans parent root members) (hchildren : Children children parent members) {k : α}
    (hk : k ∈ children a) : ¬done k ∧ k ∉ ((a, false) :: rest).map Prod.fst := by
  rw [← not_or]
  intro hseen
  have hlink := ((hchildren.mem_iff a k).mp hk).2
  rcases h.seen k hseen with rfl | ⟨p, hp, hmarked⟩
  · rw [hspans.root_none] at hlink
    exact Option.some_ne_none _ hlink.symm
  · -- the point that was entered before is `a`, the only parent of `k`
    obtain rfl := Option.some.inj (((hchildren.mem_iff p k).mp hp).2.symm.trans hlink)
    rcases hmarked with hdone | hmem
    · exact h.not_done _ List.mem_cons_self hdone
    · rcases List.mem_cons.mp hmem with heq | hmem
      · simp at heq
      · exact (List.nodup_cons.mp h.nodup).1 (List.mem_map.mpr ⟨_, hmem, rfl⟩)

/-- A marked point of a stack with unmarked points on top is the first below them, or one of the
rest. -/
private theorem eq_or_exists_of_marked {kids : List α} {above below : List (α × Bool)} {b : α}
    (h : kids.map (·, false) ++ (a, true) :: rest = above ++ (b, true) :: below) :
    (b = a ∧ above = kids.map (·, false)) ∨
      ∃ more, above = kids.map (·, false) ++ (a, true) :: more ∧
        rest = more ++ (b, true) :: below := by
  rcases List.append_eq_append_iff.mp h with ⟨more, rfl, hrest⟩ | ⟨more, hsplit, hrest⟩
  · cases more with
    | nil =>
      obtain ⟨heq, -⟩ := List.cons.inj hrest
      exact .inl ⟨(Prod.mk.inj heq).1.symm, List.append_nil _⟩
    | cons e more =>
      obtain ⟨rfl, hbelow⟩ := List.cons.inj hrest
      exact .inr ⟨more, rfl, hbelow⟩
  · cases more with
    | nil =>
      obtain ⟨heq, -⟩ := List.cons.inj hrest
      rw [List.append_nil] at hsplit
      exact .inl ⟨(Prod.mk.inj heq).1, hsplit.symm⟩
    | cons e more =>
      obtain ⟨rfl, -⟩ := List.cons.inj hrest
      have hmem : (b, true) ∈ kids.map (·, false) :=
        hsplit ▸ List.mem_append_right _ List.mem_cons_self
      simp at hmem

/-- **Entering a point.** Its children are pushed in any order. -/
theorem enter (h : Inv children root done ((a, false) :: rest))
    (hspans : Spans parent root members) (hchildren : Children children parent members)
    {kids : List α} (hkids : kids.Perm (children a)) :
    Inv children root done (kids.map (·, false) ++ (a, true) :: rest) := by
  have hfst : (kids.map (·, false) ++ (a, true) :: rest).map Prod.fst
      = kids ++ ((a, false) :: rest).map Prod.fst := by
    simp [Function.comp_def]
  have hnew : ∀ k ∈ kids, ¬done k ∧ k ∉ ((a, false) :: rest).map Prod.fst := fun k hk =>
    h.not_seen hspans hchildren (hkids.subset hk)
  refine ⟨?_, ?_, ?_, ?_, h.closed, ?_⟩
  · rw [hfst, List.nodup_append]
    refine ⟨hkids.nodup_iff.mpr (hchildren.nodup a), h.nodup, ?_⟩
    rintro k hk _ hmem rfl
    exact (hnew k hk).2 hmem
  · intro e he
    rcases List.mem_append.mp he with he | he
    · obtain ⟨k, hk, rfl⟩ := List.mem_map.mp he
      exact (hnew k hk).1
    · rcases List.mem_cons.mp he with rfl | he
      · exact h.not_done (a, false) List.mem_cons_self
      · exact h.not_done e (List.mem_cons_of_mem _ he)
  · rw [hfst]
    exact h.root_seen.imp_right fun hmem => List.mem_append_right _ hmem
  · intro b hb
    rw [hfst, List.mem_append] at hb
    have hold : ∀ p, (p, true) ∈ (a, false) :: rest → (p, true) ∈ (a, true) :: rest := by
      intro p hp
      rcases List.mem_cons.mp hp with heq | hp
      · simp at heq
      · exact List.mem_cons_of_mem _ hp
    rcases hb with hdone | hkid | hmem
    · exact (h.seen b (.inl hdone)).imp_right fun ⟨p, hp, hmarked⟩ =>
        ⟨p, hp, hmarked.imp_right fun hmem => List.mem_append_right _ (hold p hmem)⟩
    · exact .inr ⟨a, hkids.subset hkid, .inr (List.mem_append_right _ List.mem_cons_self)⟩
    · exact (h.seen b (.inr hmem)).imp_right fun ⟨p, hp, hmarked⟩ =>
        ⟨p, hp, hmarked.imp_right fun hmem => List.mem_append_right _ (hold p hmem)⟩
  · intro above b below heq k hk
    rcases eq_or_exists_of_marked heq with ⟨rfl, rfl⟩ | ⟨more, rfl, rfl⟩
    · refine .inr ?_
      simpa [Function.comp_def] using hkids.symm.subset hk
    · refine (h.pending ((a, false) :: more) b below rfl k hk).imp_right fun hmem => ?_
      rw [List.map_append]
      exact List.mem_append_right _ hmem

/-- When a marked point is on top, its children have been visited. -/
theorem children_done (h : Inv children root done ((a, true) :: rest)) :
    ∀ k ∈ children a, done k := by
  intro k hk
  exact (h.pending [] a rest rfl k hk).resolve_right (by simp)

/-- **Leaving a point.** -/
theorem leave (h : Inv children root done ((a, true) :: rest)) {done' : α → Prop}
    (hdone : ∀ b, done' b ↔ b = a ∨ done b) : Inv children root done' rest := by
  obtain ⟨hnot, hnodup⟩ := List.nodup_cons.mp h.nodup
  have hseen : ∀ b, done' b ∨ b ∈ rest.map Prod.fst →
      done b ∨ b ∈ ((a, true) :: rest).map Prod.fst := by
    rintro b (hb | hb)
    · rcases (hdone b).mp hb with rfl | hb
      · exact .inr (by simp)
      · exact .inl hb
    · exact .inr (List.mem_cons_of_mem _ hb)
  refine ⟨hnodup, ?_, ?_, ?_, ?_, ?_⟩
  · intro e he hd
    rcases (hdone e.1).mp hd with heq | hd
    · exact hnot (List.mem_map.mpr ⟨e, he, heq⟩)
    · exact h.not_done e (List.mem_cons_of_mem _ he) hd
  · rcases h.root_seen with hd | hmem
    · exact .inl ((hdone root).mpr (.inr hd))
    · rcases List.mem_cons.mp hmem with rfl | hmem
      · exact .inl ((hdone _).mpr (.inl rfl))
      · exact .inr hmem
  · intro b hb
    refine (h.seen b (hseen b hb)).imp_right fun ⟨p, hp, hmarked⟩ => ⟨p, hp, ?_⟩
    rcases hmarked with hd | hmem
    · exact .inl ((hdone p).mpr (.inr hd))
    · rcases List.mem_cons.mp hmem with heq | hmem
      · exact .inl ((hdone p).mpr (.inl (Prod.mk.inj heq).1))
      · exact .inr hmem
  · intro b hb k hk
    rcases (hdone b).mp hb with rfl | hb
    · exact (hdone k).mpr (.inr (h.children_done k hk))
    · exact (hdone k).mpr (.inr (h.closed b hb k hk))
  · intro above b below heq k hk
    rcases h.pending ((a, true) :: above) b below (by rw [heq]; rfl) k hk with hd | hmem
    · exact .inl ((hdone k).mpr (.inr hd))
    · rcases List.mem_cons.mp hmem with rfl | hmem
      · exact .inl ((hdone _).mpr (.inl rfl))
      · exact .inr hmem

/-- **With an empty stack every point of the tree has been visited.** -/
theorem done_of_mem (h : Inv children root done []) (hspans : Spans parent root members)
    (hchildren : Children children parent members) (ha : a ∈ members) : done a := by
  refine hspans.induction ?_ ?_ ha
  · exact h.root_seen.resolve_right (by simp)
  · intro b p hlink hp
    exact h.closed p hp b ((hchildren.mem_iff p b).mpr ⟨(hspans.mem_of_link hlink).1, hlink⟩)

/-- All points that have been seen are in the tree. -/
theorem mem_of_seen (h : Inv children root done stack) (hspans : Spans parent root members)
    (hchildren : Children children parent members) {b : α}
    (hb : done b ∨ b ∈ stack.map Prod.fst) : b ∈ members := by
  rcases h.seen b hb with rfl | ⟨p, hp, -⟩
  · exact hspans.root_mem
  · exact ((hchildren.mem_iff p b).mp hp).1

end Inv

/-! ### Progress -/

/-- The number of rounds that have been made: one to enter a point and one to leave it. -/
def progress (members : List α) (done : α → Bool) (stack : List (α × Bool)) : ℕ :=
  2 * members.countP done + stack.countP Prod.snd

variable {visited visited' : α → Bool}

theorem progress_enter (members : List α) (visited : α → Bool) (kids : List α) (a : α)
    (rest : List (α × Bool)) :
    progress members visited (kids.map (·, false) ++ (a, true) :: rest)
      = progress members visited ((a, false) :: rest) + 1 := by
  have hkids : (kids.map (·, false)).countP Prod.snd = 0 := by simp [List.countP_eq_zero]
  rw [progress, progress, List.countP_append, hkids, List.countP_cons_of_pos rfl,
    List.countP_cons_of_neg (by simp)]
  omega

private theorem countP_or_eq {l : List α} (hnodup : l.Nodup) (ha : a ∈ l) (hnot : visited a = false)
    (hvisited : ∀ b, visited' b ↔ b = a ∨ visited b) :
    l.countP visited' = l.countP visited + 1 := by
  induction l with
  | nil => exact absurd ha List.not_mem_nil
  | cons b l ih =>
    obtain ⟨hb, hnodup⟩ := List.nodup_cons.mp hnodup
    rcases List.mem_cons.mp ha with rfl | ha
    · have hrest : l.countP visited' = l.countP visited := by
        refine List.countP_congr fun c hc => ?_
        rw [hvisited]
        exact or_iff_right fun heq => hb (heq ▸ hc)
      rw [List.countP_cons_of_pos ((hvisited _).mpr (.inl rfl)),
        List.countP_cons_of_neg (by simpa using hnot), hrest]
    · have hne : b ≠ a := fun heq => hb (heq ▸ ha)
      have hiff : visited' b = visited b := by
        rw [Bool.eq_iff_iff, hvisited]
        exact or_iff_right hne
      rw [List.countP_cons, List.countP_cons, ih hnodup ha, hiff]
      omega

theorem progress_leave (hnodup : members.Nodup) (ha : a ∈ members) (hnot : visited a = false)
    (hvisited : ∀ b, visited' b ↔ b = a ∨ visited b) :
    progress members visited' rest = progress members visited ((a, true) :: rest) + 1 := by
  rw [progress, progress, countP_or_eq hnodup ha hnot hvisited, List.countP_cons_of_pos rfl]
  omega

/-- A visit makes at most two rounds for each point. -/
theorem Inv.progress_le (h : Inv children root (fun a => visited a) stack)
    (hspans : Spans parent root members) (hchildren : Children children parent members) :
    progress members visited stack ≤ 2 * members.length := by
  have hsubset : (stack.filter Prod.snd).map Prod.fst ⊆ members.filter fun a => !visited a := by
    intro a ha
    obtain ⟨e, he, rfl⟩ := List.mem_map.mp ha
    have he := List.mem_of_mem_filter he
    refine List.mem_filter.mpr ⟨?_, by simpa using h.not_done e he⟩
    exact h.mem_of_seen hspans hchildren (.inr (List.mem_map_of_mem he))
  have hnodup : ((stack.filter Prod.snd).map Prod.fst).Nodup :=
    h.nodup.sublist (List.filter_sublist.map _)
  have hle := (hnodup.subperm hsubset).length_le
  rw [List.length_map, ← List.countP_eq_length_filter, ← List.countP_eq_length_filter] at hle
  have hlength := List.length_eq_countP_add_countP visited (l := members)
  simp only [Bool.not_eq_true, Bool.decide_eq_false] at hlength
  rw [progress]
  omega

end PostOrder
