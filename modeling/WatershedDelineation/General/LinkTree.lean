import Mathlib.Data.Fintype.Card
import Mathlib.Data.Nat.Notation
import Mathlib.Data.Set.Finite.Basic
import Mathlib.Logic.Relation
import Mathlib.Tactic.Common

/-!
# Trees of links

A tree given by links: every point but the root is linked to its parent (`Spans`).
-/

namespace LinkTree

open Relation

variable {α : Type*}

/-- Follow links for `n` steps. -/
def follow (parent : α → Option α) : ℕ → α → Option α
  | 0, a => some a
  | n + 1, a => (parent a).bind (follow parent n)

/-- Links that span the points `members`: the root has no link, every other member has one, to a
member, and from every member the links lead to the root. They have no cycle. -/
structure Spans (parent : α → Option α) (root : α) (members : List α) : Prop where
  root_mem : root ∈ members
  root_none : parent root = none
  outside_none : ∀ a, a ∉ members → parent a = none
  linked : ∀ a ∈ members, a ≠ root → ∃ p ∈ members, parent a = some p
  leads : ∀ a ∈ members, ∃ n, follow parent n a = some root
  acyclic : ∀ a, ¬TransGen (fun a p => parent a = some p) a a

variable {parent : α → Option α} {root a p : α} {members : List α}

theorem Spans.mem_of_link (h : Spans parent root members) (hp : parent a = some p) :
    a ∈ members ∧ p ∈ members := by
  have hmem : a ∈ members := by
    by_contra hnot
    rw [h.outside_none a hnot] at hp
    exact Option.some_ne_none _ hp.symm
  have hne : a ≠ root := by
    rintro rfl
    rw [h.root_none] at hp
    exact Option.some_ne_none _ hp.symm
  obtain ⟨q, hq, hlink⟩ := h.linked a hmem hne
  obtain rfl := Option.some.inj (hlink.symm.trans hp)
  exact ⟨hmem, hq⟩

/-- **Induction from the root**: what holds of the root, and of every point linked to one of which
it holds, holds of all members. -/
theorem Spans.induction (h : Spans parent root members) {P : α → Prop} (hroot : P root)
    (hlink : ∀ a p, parent a = some p → P p → P a) (ha : a ∈ members) : P a := by
  obtain ⟨n, hn⟩ := h.leads a ha
  clear ha
  induction n generalizing a with
  | zero =>
    obtain rfl := Option.some.inj hn
    exact hroot
  | succ n ih =>
    obtain ⟨p, hp, hn⟩ := Option.bind_eq_some_iff.mp hn
    exact hlink a p hp (ih hn)

/-- **Induction from the leaves**: what holds of a point when it holds of all points linked to it,
holds of all members. -/
theorem Spans.induction_leaves (h : Spans parent root members) {P : α → Prop}
    (hlinked : ∀ p ∈ members, (∀ a, parent a = some p → P a) → P p) (ha : a ∈ members) : P a := by
  -- the members are finitely many and have no cycle
  let below (a p : {a // a ∈ members}) : Prop := TransGen (fun a p => parent a = some p) a.1 p.1
  have : Finite {a // a ∈ members} := List.finite_toSet members
  have : IsTrans _ below := ⟨fun _ _ _ => TransGen.trans⟩
  have : Std.Irrefl below := ⟨fun a => h.acyclic a.1⟩
  have hwf : WellFounded below := Finite.wellFounded_of_trans_of_irrefl below
  have hall : ∀ a : {a // a ∈ members}, P a.1 := fun a => by
    induction a using hwf.induction with
    | _ p ih =>
      refine hlinked p.1 p.2 fun a ha => ?_
      exact ih ⟨a, (h.mem_of_link ha).1⟩ (TransGen.single ha)
  exact hall ⟨a, ha⟩

end LinkTree
