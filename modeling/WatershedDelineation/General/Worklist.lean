import Mathlib.Logic.Relation
import Mathlib.Tactic.Common

/-!
# Worklist search over an arbitrary relation

The invariant of a search that marks points as seen and keeps the points to expand on a
worklist, in whatever order. A client hands `Inv.expand` the points that the expansion of one
entry newly marks; when the worklist has run dry, exactly the reachable points are marked
(`Inv.seen_iff`).
-/

namespace Worklist

open Relation

variable {α : Type*} {r : α → α → Prop} {s a : α}

/-- The state of a search from `s`: every marked point is reachable, and waits on the worklist
or has all its successors marked. -/
structure Inv (r : α → α → Prop) (s : α) (seen : α → Prop) (work : List α) : Prop where
  start : seen s
  reach : ∀ a, seen a → ReflTransGen r s a
  mem_seen : ∀ a ∈ work, seen a
  closed : ∀ a, seen a → a ∈ work ∨ ∀ b, r a b → seen b

namespace Inv

variable {seen seen' : α → Prop} {work work' fresh : List α} {c : α}

/-- A search starts with `s` alone marked and on the worklist. -/
theorem init (hseen : ∀ a, seen a ↔ a = s) : Inv r s seen [s] where
  start := (hseen s).mpr rfl
  reach a ha := (hseen a).mp ha ▸ .refl
  mem_seen a ha := (hseen a).mpr (List.mem_singleton.mp ha)
  closed a ha := .inl (List.mem_singleton.mpr ((hseen a).mp ha))

/-- **The step rule.** Expanding the entry `c`: the points of `fresh` are successors of `c`,
they are marked and put on the worklist, and all successors of `c` are then marked. -/
theorem expand (h : Inv r s seen (c :: work)) (hseen : ∀ a, seen' a ↔ seen a ∨ a ∈ fresh)
    (hwork : ∀ a, a ∈ work' ↔ a ∈ work ∨ a ∈ fresh) (hsucc : ∀ a ∈ fresh, r c a)
    (hall : ∀ a, r c a → seen' a) : Inv r s seen' work' where
  start := (hseen s).mpr (.inl h.start)
  reach a ha := by
    rcases (hseen a).mp ha with ha | ha
    · exact h.reach a ha
    · exact (h.reach c (h.mem_seen c List.mem_cons_self)).tail (hsucc a ha)
  mem_seen a ha := (hseen a).mpr (((hwork a).mp ha).imp_left fun ha =>
    h.mem_seen a (List.mem_cons_of_mem _ ha))
  closed a ha := by
    rcases (hseen a).mp ha with ha | ha
    · rcases h.closed a ha with hmem | hclosed
      · rcases List.mem_cons.mp hmem with rfl | hmem
        · exact .inr hall
        · exact .inl ((hwork a).mpr (.inl hmem))
      · exact .inr fun b hab => (hseen b).mpr (.inl (hclosed b hab))
    · exact .inl ((hwork a).mpr (.inr ha))

/-- With an empty worklist exactly the reachable points are marked. -/
theorem seen_iff (h : Inv r s seen []) : seen a ↔ ReflTransGen r s a := by
  refine ⟨h.reach a, fun ha => ?_⟩
  induction ha with
  | refl => exact h.start
  | tail _ hab ih => exact (h.closed _ ih).resolve_left List.not_mem_nil _ hab

end Inv

end Worklist
