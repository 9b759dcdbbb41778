import Mathlib.Logic.Relation
import Mathlib.Order.ConditionallyCompleteLattice.Basic
import Mathlib.Order.Lattice.Nat
import Mathlib.Data.List.Nodup
import Mathlib.Tactic.Common
import WatershedDelineation.General.LinkTree

/-!
# Breadth-first search over an arbitrary relation

The invariant of a queue-driven search, stated for any relation `r` on any type and any
start point, with the distance `stepDist` it computes. Nothing here fixes how successors
are enumerated: a client hands `Inv.expand` the list `fresh` of successors of the queue's
head that were not seen before, and gets the invariant for the next round.

* `StepsIn r s n a` — `a` is `n` steps from `s`; `stepDist r s a` is the least such `n`.
* `Inv r s done queue parent` — the state of a search: `done` is expanded, `queue` waits,
  `parent` records the discovery links.
* `Inv.expand` is the step rule; `Inv.mem_done_iff` reads off the reachable set when the
  queue has run dry.

The distance order rests on one fact, `Inv.mem_done_of_lt`: everything closer than the head
of the queue has been expanded.
-/

namespace BreadthFirst

open Relation LinkTree

variable {α : Type*}

/-- `a` is reached from `s` in exactly `n` steps of `r`. -/
inductive StepsIn (r : α → α → Prop) (s : α) : ℕ → α → Prop
  | zero : StepsIn r s 0 s
  | succ {n : ℕ} {a b : α} (h : StepsIn r s n a) (hab : r a b) : StepsIn r s (n + 1) b

variable {r : α → α → Prop} {s a b : α}

theorem exists_stepsIn (h : ReflTransGen r s a) : ∃ n, StepsIn r s n a := by
  induction h with
  | refl => exact ⟨0, .zero⟩
  | tail _ hab ih =>
    obtain ⟨n, hn⟩ := ih
    exact ⟨n + 1, hn.succ hab⟩

/-- The least number of steps from `s` to `a` (zero when there is no path). -/
noncomputable def stepDist (r : α → α → Prop) (s a : α) : ℕ := sInf {n | StepsIn r s n a}

theorem stepDist_le {n : ℕ} (h : StepsIn r s n a) : stepDist r s a ≤ n := Nat.sInf_le h

theorem stepsIn_stepDist (h : ReflTransGen r s a) : StepsIn r s (stepDist r s a) a :=
  Nat.sInf_mem (exists_stepsIn h)

@[simp]
theorem stepDist_self : stepDist r s s = 0 := Nat.le_zero.mp (stepDist_le .zero)

theorem stepDist_le_succ (h : ReflTransGen r s a) (hab : r a b) :
    stepDist r s b ≤ stepDist r s a + 1 :=
  stepDist_le ((stepsIn_stepDist h).succ hab)

/-- The state of a search from `s`: `done` holds the expanded points, `queue` the seen but
unexpanded ones, `parent` the point each was first seen from. -/
structure Inv (r : α → α → Prop) (s : α) (done queue : List α) (parent : α → Option α) :
    Prop where
  nodup : (done ++ queue).Nodup
  head : (done ++ queue).head? = some s
  reach : ∀ a ∈ done ++ queue, ReflTransGen r s a
  closed : ∀ a ∈ done, ∀ b, r a b → b ∈ done ++ queue
  sorted : (done ++ queue).Pairwise fun a b => stepDist r s a ≤ stepDist r s b
  band : ∀ a ∈ queue, ∀ b ∈ queue, stepDist r s b ≤ stepDist r s a + 1
  parent_none : ∀ a, a = s ∨ a ∉ done ++ queue → parent a = none
  parent_some : ∀ a ∈ done ++ queue, a ≠ s →
    ∃ p ∈ done, parent a = some p ∧ r p a ∧ stepDist r s a = stepDist r s p + 1

namespace Inv

variable {done queue rest fresh : List α} {c : α} {parent parent' : α → Option α}

/-- A search starts with `s` queued and nothing expanded. -/
theorem start (r : α → α → Prop) (s : α) : Inv r s [] [s] fun _ => none where
  nodup := by simp
  head := by simp
  reach a ha := by simp only [List.nil_append, List.mem_singleton] at ha; exact ha ▸ .refl
  closed a ha := absurd ha List.not_mem_nil
  sorted := by simp
  band a ha b hb := by
    rw [List.mem_singleton] at ha hb
    subst ha hb
    exact Nat.le_succ _
  parent_none _ _ := rfl
  parent_some a ha hne := absurd (by simpa using ha) hne

theorem start_mem (h : Inv r s done queue parent) : s ∈ done ++ queue :=
  List.mem_of_head? h.head

theorem stepDist_head_le (h : Inv r s done (c :: rest) parent) (ha : a ∈ c :: rest) :
    stepDist r s c ≤ stepDist r s a := by
  rcases List.mem_cons.mp ha with rfl | ha
  · exact le_rfl
  · exact List.rel_of_pairwise_cons (List.pairwise_append.mp h.sorted).2.1 ha

/-- **Everything closer than the head of the queue has been expanded.** -/
theorem mem_done_of_lt (h : Inv r s done (c :: rest) parent) {n : ℕ} (ha : StepsIn r s n a)
    (hlt : n < stepDist r s c) : a ∈ done := by
  induction ha with
  | zero =>
    rcases List.mem_append.mp h.start_mem with hs | hs
    · exact hs
    · exact absurd (h.stepDist_head_le hs) (by rw [stepDist_self]; omega)
  | succ hz hzb ih =>
    rcases List.mem_append.mp (h.closed _ (ih (by omega)) _ hzb) with hb | hb
    · exact hb
    · have hle := stepDist_le (hz.succ hzb)
      exact absurd (h.stepDist_head_le hb) (by omega)

/-- A point first seen while expanding `c` is one step farther than `c`. -/
theorem stepDist_fresh (h : Inv r s done (c :: rest) parent) (hcx : r c a)
    (ha : a ∉ done ++ c :: rest) : stepDist r s a = stepDist r s c + 1 := by
  have hc : ReflTransGen r s c := h.reach c (by simp)
  refine le_antisymm (stepDist_le_succ hc hcx) ?_
  by_contra hcon
  generalize hn : stepDist r s a = n at hcon
  have hsteps : StepsIn r s n a := hn ▸ stepsIn_stepDist (hc.tail hcx)
  -- the last step of a shortest path would start at an expanded point
  cases hsteps with
  | zero => exact ha h.start_mem
  | succ hz hza => exact ha (h.closed _ (h.mem_done_of_lt hz (by omega)) _ hza)

/-- **The step rule.** Expanding the head `c` of the queue: `fresh` lists, without repeats,
the successors of `c` not seen before, and `parent'` links exactly those to `c`. -/
theorem expand (h : Inv r s done (c :: rest) parent) (hnodup : fresh.Nodup)
    (hnew : ∀ a ∈ fresh, a ∉ done ++ c :: rest) (hsucc : ∀ a ∈ fresh, r c a)
    (hall : ∀ a, r c a → a ∈ done ++ c :: rest ∨ a ∈ fresh)
    (hlink : ∀ a ∈ fresh, parent' a = some c)
    (hkeep : ∀ a, a ∉ fresh → parent' a = parent a) :
    Inv r s (done ++ [c]) (rest ++ fresh) parent' := by
  have happ : done ++ [c] ++ (rest ++ fresh) = done ++ c :: rest ++ fresh := by simp
  have hc : ReflTransGen r s c := h.reach c (by simp)
  have hdist : ∀ a ∈ fresh, stepDist r s a = stepDist r s c + 1 := fun a ha =>
    h.stepDist_fresh (hsucc a ha) (hnew a ha)
  have hs : s ∉ fresh := fun hs => hnew s hs h.start_mem
  have hband : ∀ a ∈ c :: rest, stepDist r s a ≤ stepDist r s c + 1 := fun a ha =>
    h.band c (by simp) a ha
  -- the seen points grow by `fresh`, and the points of `fresh` are all at one distance
  refine ⟨?_, ?_, ?_, ?_, ?_, ?_, ?_, ?_⟩
  · rw [happ, List.nodup_append]
    refine ⟨h.nodup, hnodup, ?_⟩
    rintro a ha b hb rfl
    exact hnew a hb ha
  · rw [happ, List.head?_append, h.head, Option.some_or]
  · intro a ha
    rcases List.mem_append.mp (happ ▸ ha) with ha | ha
    · exact h.reach a ha
    · exact hc.tail (hsucc a ha)
  · intro a ha b hab
    rw [happ, List.mem_append]
    rcases List.mem_append.mp ha with ha | ha
    · exact .inl (h.closed a ha b hab)
    · rw [List.mem_singleton] at ha
      exact hall b (ha ▸ hab)
  · rw [happ, List.pairwise_append]
    refine ⟨h.sorted, ?_, ?_⟩
    · refine List.pairwise_of_forall_mem_list fun a ha b hb => ?_
      rw [hdist a ha, hdist b hb]
    · intro a ha b hb
      rw [hdist b hb]
      rcases List.mem_append.mp ha with ha | ha
      · have := (List.pairwise_append.mp h.sorted).2.2 a ha c (by simp)
        omega
      · exact hband a ha
  · -- the queue spans at most two distances, those of `c` and of `fresh`
    intro a ha b hb
    rcases List.mem_append.mp ha with ha | ha <;> rcases List.mem_append.mp hb with hb | hb
    · exact h.band a (.tail _ ha) b (.tail _ hb)
    · have := h.stepDist_head_le (.tail _ ha)
      rw [hdist b hb]
      omega
    · have := hband b (.tail _ hb)
      rw [hdist a ha]
      omega
    · rw [hdist a ha, hdist b hb]
      omega
  · intro a ha
    rw [happ, List.mem_append] at ha
    have hfr : a ∉ fresh := by
      rcases ha with rfl | ha
      · exact hs
      · exact fun hmem => ha (.inr hmem)
    rw [hkeep a hfr]
    exact h.parent_none a (ha.imp_right fun ha hmem => ha (.inl hmem))
  · intro a ha hne
    rcases List.mem_append.mp (happ ▸ ha) with hold | hfr
    · have hfr : a ∉ fresh := fun hmem => hnew a hmem hold
      obtain ⟨p, hp, hpar, hpa, hd⟩ := h.parent_some a hold hne
      exact ⟨p, List.mem_append_left _ hp, (hkeep a hfr).trans hpar, hpa, hd⟩
    · exact ⟨c, by simp, hlink a hfr, hsucc a hfr, hdist a hfr⟩

/-- With an empty queue the expanded points are exactly the reachable ones. -/
theorem mem_done_iff (h : Inv r s done [] parent) : a ∈ done ↔ ReflTransGen r s a := by
  refine ⟨fun ha => h.reach a (by simpa using ha), fun ha => ?_⟩
  induction ha with
  | refl => simpa using h.start_mem
  | tail _ hab ih => simpa using h.closed _ ih _ hab

end Inv

/-! ### Discovery links -/

namespace Inv

variable {done : List α} {parent : α → Option α} {p : α}

/-- A link leads one step closer to the start. -/
theorem stepDist_link (h : Inv r s done [] parent) (hp : parent a = some p) :
    a ∈ done ∧ p ∈ done ∧ r p a ∧ stepDist r s a = stepDist r s p + 1 := by
  have hmem : a ∈ done := by
    by_contra hnot
    rw [h.parent_none a (.inr (by simpa using hnot))] at hp
    exact Option.some_ne_none _ hp.symm
  have hne : a ≠ s := by
    rintro rfl
    rw [h.parent_none a (.inl rfl)] at hp
    exact Option.some_ne_none _ hp.symm
  obtain ⟨q, hq, hpar, hqa, hdist⟩ := h.parent_some a (by simpa using hmem) hne
  obtain rfl := Option.some.inj (hpar.symm.trans hp)
  exact ⟨hmem, hq, hqa, hdist⟩

/-- **Links are shortest paths.** They lead to the start in as many steps as its distance, and in
no other number of steps. -/
theorem follow_eq_some_iff (h : Inv r s done [] parent) (ha : a ∈ done) {n : ℕ} :
    follow parent n a = some s ↔ n = stepDist r s a := by
  induction n generalizing a with
  | zero =>
    rw [follow, Option.some.injEq]
    constructor
    · rintro rfl
      exact stepDist_self.symm
    · intro hzero
      by_contra hne
      obtain ⟨p, -, -, -, hdist⟩ := h.parent_some a (by simpa using ha) hne
      omega
  | succ n ih =>
    rw [follow]
    by_cases hs : a = s
    · subst hs
      rw [h.parent_none a (.inl rfl), stepDist_self]
      simp
    · obtain ⟨p, hp, hpar, -, hdist⟩ := h.parent_some a (by simpa using ha) hs
      rw [hpar, Option.bind_some, ih hp, hdist]
      omega

theorem stepDist_lt_of_transGen (h : Inv r s done [] parent)
    (hlinks : TransGen (fun a p => parent a = some p) a p) : stepDist r s p < stepDist r s a := by
  induction hlinks with
  | single hp =>
    have hdist := (h.stepDist_link hp).2.2.2
    omega
  | tail _ hp ih =>
    have hdist := (h.stepDist_link hp).2.2.2
    omega

/-- The links of a finished search span what it has found. -/
theorem spans (h : Inv r s done [] parent) : Spans parent s done where
  root_mem := by simpa using h.start_mem
  root_none := h.parent_none s (.inl rfl)
  outside_none a ha := h.parent_none a (.inr (by simpa using ha))
  linked a ha hne := by
    obtain ⟨p, hp, hpar, -⟩ := h.parent_some a (by simpa using ha) hne
    exact ⟨p, hp, hpar⟩
  leads a ha := ⟨_, (h.follow_eq_some_iff ha).mpr rfl⟩
  acyclic a ha := Nat.lt_irrefl _ (h.stepDist_lt_of_transGen ha)

end Inv

end BreadthFirst
