import Mathlib.Data.Nat.Notation
import Mathlib.Logic.Relation
import Mathlib.Tactic.Common

/-!
# An ordered buffer of tasks

A list of tasks is worked off through a buffer: at most `n` of them are under way at a time, they
end in any order, and their results are given out in the order of the list. A task is the result
that it will have.

Every move keeps the list of the results that are given out, under way and waiting
(`Step.all_eq`), so in every interleaving a run gives the results in the order of the tasks
(`Run.eq`). No run is stuck before the end and none goes on for ever (`exists_end`).
-/

namespace OrderedBuffer

variable {β : Type*} {n : ℕ}

/-- The tasks that wait, those that are under way and whether they have ended, and the results that
have been given out. -/
structure State (β : Type*) where
  waiting : List β
  running : List (β × Bool)
  given : List β

/-- The moves of a buffer for `n` tasks. -/
inductive Step (n : ℕ) : State β → State β → Prop
  | begin {b : β} {waiting : List β} {running : List (β × Bool)} {given : List β} :
      running.length < n →
      Step n ⟨b :: waiting, running, given⟩ ⟨waiting, running ++ [(b, false)], given⟩
  | finish {b : β} {waiting : List β} {before after : List (β × Bool)} {given : List β} :
      Step n ⟨waiting, before ++ (b, false) :: after, given⟩
        ⟨waiting, before ++ (b, true) :: after, given⟩
  | give {b : β} {waiting : List β} {running : List (β × Bool)} {given : List β} :
      Step n ⟨waiting, (b, true) :: running, given⟩ ⟨waiting, running, given ++ [b]⟩

/-- A run works off all tasks and gives out the results. -/
def Run (n : ℕ) (tasks results : List β) : Prop :=
  Relation.ReflTransGen (Step n) ⟨tasks, [], []⟩ ⟨[], [], results⟩

/-- A function gives what some run gives, wherever there is room for a task. -/
def Buffers (buffered : ℕ → List β → List β) : Prop :=
  ∀ n tasks, 0 < n → Run n tasks (buffered n tasks)

namespace State

/-- All results, in the order of the tasks. -/
def all (s : State β) : List β := s.given ++ s.running.map Prod.fst ++ s.waiting

/-- The moves that are left. -/
def left (s : State β) : ℕ :=
  3 * s.waiting.length + 2 * s.running.countP (fun task => !task.2) +
    s.running.countP fun task => task.2

end State

/-! ### Order -/

theorem Step.all_eq {s s' : State β} (h : Step n s s') : s'.all = s.all := by
  cases h <;> simp [State.all]

theorem all_eq_of_steps {s s' : State β} (h : Relation.ReflTransGen (Step n) s s') :
    s'.all = s.all := by
  induction h with
  | refl => rfl
  | tail _ hstep ih => rw [hstep.all_eq, ih]

/-- **Results come in the order of the tasks**, in every interleaving. -/
theorem Run.eq {tasks results : List β} (h : Run n tasks results) : results = tasks := by
  simpa [State.all] using all_eq_of_steps h

theorem Buffers.eq {buffered : ℕ → List β → List β} (h : Buffers buffered) (hn : 0 < n)
    (tasks : List β) : buffered n tasks = tasks :=
  (h n tasks hn).eq

/-! ### Progress -/

theorem Step.left_eq {s s' : State β} (h : Step n s s') : s.left = s'.left + 1 := by
  cases h <;> simp [State.left] <;> omega

/-- Where there is room for a task, there is a move until all is given out. -/
theorem exists_step (hn : 0 < n) {s : State β} (h : ¬(s.waiting = [] ∧ s.running = [])) :
    ∃ s', Step n s s' := by
  obtain ⟨waiting, running, given⟩ := s
  match running with
  | (b, true) :: running => exact ⟨_, .give⟩
  | (b, false) :: running => exact ⟨_, @Step.finish _ _ b waiting [] running given⟩
  | [] =>
    match waiting with
    | b :: waiting => exact ⟨_, .begin hn⟩
    | [] => exact absurd ⟨rfl, rfl⟩ h

/-- **Every run can go on to its end**, which it reaches in as many moves as are left. -/
theorem exists_end (hn : 0 < n) (s : State β) :
    ∃ results, Relation.ReflTransGen (Step n) s ⟨[], [], results⟩ := by
  by_cases hend : s.waiting = [] ∧ s.running = []
  · obtain ⟨waiting, running, given⟩ := s
    obtain ⟨rfl, rfl⟩ := hend
    exact ⟨given, .refl⟩
  · obtain ⟨s', hstep⟩ := exists_step hn hend
    have hleft := hstep.left_eq
    obtain ⟨results, hrest⟩ := exists_end hn s'
    exact ⟨results, .head hstep hrest⟩
termination_by s.left

/-- The results in the order of the tasks are what a buffer gives. -/
theorem buffers_tasks : Buffers fun _ (tasks : List β) => tasks := by
  intro n tasks hn
  obtain ⟨results, hrun⟩ := exists_end hn ⟨tasks, [], []⟩
  obtain rfl : results = tasks := Run.eq hrun
  exact hrun

end OrderedBuffer
