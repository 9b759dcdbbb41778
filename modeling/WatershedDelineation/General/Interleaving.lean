import Mathlib.Data.Nat.Find
import Mathlib.Logic.Function.Basic
import Mathlib.Tactic.Common

/-!
# Interleaved tasks

Concurrent tasks over a shared state. A *schedule* says for every moment which task takes its next
step, with what the outside answers it there, or which event of the environment happens; a
statement about all interleavings is a statement about all schedules.

`run_invariant` is the rule for facts about the tasks together, and `run_history` that for facts
about one task that speak of what has happened before. Tasks that only touch the shared state in
atomic actions between which nothing of it is remembered can be verified one at a time:
`Program` is the type of such tasks, `Program.Ensures` says what one of them promises under an
invariant of the shared state, and `run_ensures` and `run_returns` say that all of them keep their
promises in every interleaving.
-/

namespace Interleaving

/-- The shared state, and where every task is. -/
structure Config (ι σ τ : Type) where
  shared : σ
  task : ι → τ

/-- What happens at one moment: a step of a task, or an event of the environment. -/
inductive Event (ι ρ ε : Type)
  | task (i : ι) (answer : ρ)
  | env (e : ε)

/-- The steps of the tasks and the events of the environment. A task that has to wait stays as
it is. -/
structure System (σ τ ρ ε : Type) where
  step : ρ → σ → τ → σ × τ
  env : ε → σ → σ

section Run

variable {ι σ τ ρ ε : Type} [DecidableEq ι] (sys : System σ τ ρ ε)

/-- One moment. -/
def fire (c : Config ι σ τ) : Event ι ρ ε → Config ι σ τ
  | .task i answer =>
    let next := sys.step answer c.shared (c.task i)
    ⟨next.1, Function.update c.task i next.2⟩
  | .env e => ⟨sys.env e c.shared, c.task⟩

/-- The configurations that a schedule leads through. -/
def run (c : Config ι σ τ) (schedule : ℕ → Event ι ρ ε) : ℕ → Config ι σ τ
  | 0 => c
  | n + 1 => fire sys (run c schedule n) (schedule n)

/-- A task is scheduled again and again. -/
def Fair (schedule : ℕ → Event ι ρ ε) (i : ι) : Prop :=
  ∀ n, ∃ m, n ≤ m ∧ ∃ answer, schedule m = .task i answer

variable {sys} {c : Config ι σ τ} {schedule : ℕ → Event ι ρ ε} {i j : ι} {answer : ρ}

@[simp] theorem fire_shared : (fire sys c (.task i answer)).shared
    = (sys.step answer c.shared (c.task i)).1 := rfl

@[simp] theorem fire_self : (fire sys c (.task i answer)).task i
    = (sys.step answer c.shared (c.task i)).2 := Function.update_self _ _ _

theorem fire_of_ne (h : j ≠ i) : (fire sys c (.task i answer)).task j = c.task j :=
  Function.update_of_ne h _ _

/-- **The rule for invariants.** -/
theorem run_invariant {P : Config ι σ τ → Prop} (hstart : P c)
    (hfire : ∀ n, P (run sys c schedule n) → P (fire sys (run sys c schedule n) (schedule n)))
    (n : ℕ) : P (run sys c schedule n) := by
  induction n with
  | zero => exact hstart
  | succ n ih => exact hfire n ih

/-- The rule for an invariant of the shared state with assertions about the single tasks. Only the
steps that have been made matter. -/
theorem run_local {I : σ → Prop} {A : ι → τ → Prop} (hshared : I c.shared)
    (htask : ∀ i, A i (c.task i)) (henv : ∀ e s, I s → I (sys.env e s)) {n : ℕ}
    (hstep : ∀ m < n, ∀ i answer, schedule m = .task i answer →
      I (run sys c schedule m).shared → A i ((run sys c schedule m).task i) →
      I (sys.step answer (run sys c schedule m).shared ((run sys c schedule m).task i)).1 ∧
        A i (sys.step answer (run sys c schedule m).shared ((run sys c schedule m).task i)).2) :
    I (run sys c schedule n).shared ∧ ∀ i, A i ((run sys c schedule n).task i) := by
  induction n with
  | zero => exact ⟨hshared, htask⟩
  | succ n ih =>
    obtain ⟨hI, hA⟩ := ih fun m hm => hstep m (Nat.lt_succ_of_lt hm)
    rw [run]
    cases hevent : schedule n with
    | env e => exact ⟨henv e _ hI, hA⟩
    | task i answer =>
      obtain ⟨hI', hA'⟩ := hstep n n.lt_succ_self i answer hevent hI (hA i)
      refine ⟨hI', fun j => ?_⟩
      rcases eq_or_ne j i with rfl | hne
      · rwa [fire_self]
      · rw [fire_of_ne hne]
        exact hA j

/-- The rule for assertions about a task that speak of what has happened before. They may only
become weaker with time, and a step of the task has to establish them anew. -/
theorem run_history {A : ι → ℕ → τ → Prop} (hstart : ∀ i, A i 0 (c.task i))
    (hlater : ∀ i n t, A i n t → A i (n + 1) t)
    (hstep : ∀ n i answer, schedule n = .task i answer → A i n ((run sys c schedule n).task i) →
      A i (n + 1) (sys.step answer (run sys c schedule n).shared
        ((run sys c schedule n).task i)).2) (n : ℕ) (i : ι) :
    A i n ((run sys c schedule n).task i) := by
  induction n generalizing i with
  | zero => exact hstart i
  | succ n ih =>
    rw [run]
    cases hevent : schedule n with
    | env e => exact hlater i n _ (ih i)
    | task j answer =>
      rcases eq_or_ne i j with rfl | hne
      · rw [fire_self]
        exact hstep n i answer hevent (ih i)
      · rw [fire_of_ne hne]
        exact hlater i n _ (ih i)

end Run

/-! ### Programs -/

/-- A task that is a sequence of atomic actions. An action sees the answer of the outside and the
shared state, and what comes after it may depend on both. -/
inductive Program (σ ρ α : Type)
  | ret (a : α)
  | act (effect : ρ → σ → σ) (next : ρ → σ → Program σ ρ α)

namespace Program

variable {σ ρ ε α β : Type}

/-- Go on with the result. -/
def bind : Program σ ρ α → (α → Program σ ρ β) → Program σ ρ β
  | .ret a, f => f a
  | .act effect next, f => .act effect fun answer s => (next answer s).bind f

instance : Monad (Program σ ρ) where
  pure := .ret
  bind := bind

/-- An atomic action on the shared state. -/
def atomically (f : σ → α × σ) : Program σ ρ α :=
  .act (fun _ s => (f s).2) fun _ s => .ret (f s).1

/-- Wait for an answer of the outside. -/
def ask (f : ρ → α) : Program σ ρ α := .act (fun _ s => s) fun answer _ => .ret (f answer)

/-- The next action of a program is a question for the outside. -/
def Asks (p : Program σ ρ α) (question : ρ → β) : Prop := ∃ next, p = ask question >>= next

/-- What a program asks, it asks as a part of a longer program. -/
theorem Asks.bind {γ : Type} {p : Program σ ρ α} {question : ρ → β} (h : p.Asks question)
    (f : α → Program σ ρ γ) : (p >>= f).Asks question := by
  obtain ⟨next, rfl⟩ := h
  exact ⟨fun b => next b >>= f, rfl⟩

/-- A question on its own. -/
theorem asks_ask (question : ρ → β) : (ask question : Program σ ρ β).Asks question :=
  ⟨.ret, rfl⟩

/-- The next action; a task that has returned has none. -/
def step (answer : ρ) (s : σ) : Program σ ρ α → σ × Program σ ρ α
  | .ret a => (s, .ret a)
  | .act effect next => (effect answer s, next answer s)

/-- Programs as the tasks of a system. -/
def system (env : ε → σ → σ) : System σ (Program σ ρ α) ρ ε := ⟨step, env⟩

/-- As long as the answers are good and the other tasks keep the invariant, the program keeps it
too, and its result is as it should be. Which answers are good depends on what is left to do. -/
def Ensures (good : Program σ ρ α → ρ → Prop) (I : σ → Prop) :
    Program σ ρ α → (α → Prop) → Prop
  | .ret a, Q => Q a
  | .act effect next, Q => ∀ answer s, good (.act effect next) answer → I s →
      I (effect answer s) ∧ Ensures good I (next answer s) Q

section Rules

variable {good : Program σ ρ α → ρ → Prop} {I : σ → Prop} {Q : α → Prop}

theorem ensures_pure {a : α} (h : Q a) : Ensures good I (pure a : Program σ ρ α) Q := h

theorem ensures_atomically {f : σ → α × σ} (h : ∀ s, I s → I (f s).2 ∧ Q (f s).1) :
    Ensures good I (atomically f : Program σ ρ α) Q := fun _ s _ hs => h s hs

theorem ensures_ask {f : ρ → α} (h : ∀ answer, good (ask f) answer → Q (f answer)) :
    Ensures good I (ask f : Program σ ρ α) Q := fun answer _ hgood hs => ⟨hs, h answer hgood⟩

/-- **The rule for sequences.** -/
theorem Ensures.bind {good : Program σ ρ β → ρ → Prop} {p : Program σ ρ α}
    {f : α → Program σ ρ β} {R : β → Prop}
    (hp : p.Ensures (fun p answer => good (p >>= f) answer) I Q)
    (hf : ∀ a, Q a → (f a).Ensures good I R) : (p >>= f).Ensures good I R := by
  induction p with
  | ret a => exact hf a hp
  | act effect next ih =>
    exact fun answer s hgood hs => ⟨(hp answer s hgood hs).1, ih _ _ (hp answer s hgood hs).2⟩

/-- **The rule for loops**: what holds of the accumulator after the elements that have been
visited. -/
theorem ensures_foldlM {good : Program σ ρ β → ρ → Prop} {f : β → α → Program σ ρ β}
    {P : List α → β → Prop} {l : List α} {b : β} (hstart : P [] b)
    (hstep : ∀ visited a rest b, visited ++ [a] ++ rest = l → P visited b →
      (f b a).Ensures (fun p answer => good (p >>= fun b => rest.foldlM f b) answer) I
        (P (visited ++ [a]))) :
    (l.foldlM f b).Ensures good I (P l) := by
  have hrest (visited rest : List α) (b : β) (heq : visited ++ rest = l) (hb : P visited b) :
      (rest.foldlM f b).Ensures good I (P l) := by
    induction rest generalizing visited b with
    | nil =>
      rw [List.append_nil] at heq
      exact heq ▸ hb
    | cons a rest ih =>
      have heq' : visited ++ [a] ++ rest = l := by rw [List.append_assoc]; exact heq
      rw [List.foldlM_cons]
      exact (hstep visited a rest b heq' hb).bind fun b' hb' => ih _ b' heq' hb'
  exact hrest [] l b rfl hstart

/-- A step keeps what a program promises. -/
theorem Ensures.step {p : Program σ ρ α} (h : p.Ensures good I Q) {answer : ρ} {s : σ}
    (hgood : good p answer) (hs : I s) :
    I (p.step answer s).1 ∧ (p.step answer s).2.Ensures good I Q := by
  cases p with
  | ret a => exact ⟨hs, h⟩
  | act effect next => exact h answer s hgood hs

end Rules

/-! ### Programs in an interleaving -/

section Run

variable {ι : Type} [DecidableEq ι] {env : ε → σ → σ} {c : Config ι σ (Program σ ρ α)}
  {schedule : ℕ → Event ι ρ ε} {i : ι}

/-- **Modularity.** If every task keeps its promise on its own, all of them do in every
interleaving, as long as the answers to the steps that have been made are good. -/
theorem run_ensures {good : ι → Program σ ρ α → ρ → Prop} {I : σ → Prop} {Q : ι → α → Prop}
    (hshared : I c.shared) (htask : ∀ i, (c.task i).Ensures (good i) I (Q i))
    (henv : ∀ e s, I s → I (env e s)) {n : ℕ}
    (hgood : ∀ m < n, ∀ i answer, schedule m = .task i answer →
      good i ((run (system env) c schedule m).task i) answer) {a : α}
    (hret : (run (system env) c schedule n).task i = .ret a) : Q i a := by
  have hlocal : I (run (system env) c schedule n).shared ∧
      ∀ i, ((run (system env) c schedule n).task i).Ensures (good i) I (Q i) :=
    run_local (A := fun i (p : Program σ ρ α) => p.Ensures (good i) I (Q i)) hshared htask henv
      fun m hm i answer hevent hs ht => ht.step (hgood m hm i answer hevent) hs
  have hpromise := hlocal.2 i
  rw [hret] at hpromise
  exact hpromise

/-- A task that is not scheduled stays where it is. -/
private theorem task_eq_of_not_scheduled {n m : ℕ} (hnm : n ≤ m)
    (h : ∀ k, n ≤ k → k < m → ∀ answer, schedule k ≠ .task i answer) :
    (run (system env) c schedule m).task i = (run (system env) c schedule n).task i := by
  induction m, hnm using Nat.le_induction with
  | base => rfl
  | succ m hnm ih =>
    rw [← ih fun k hk hkm => h k hk (by omega)]
    rw [run]
    cases hevent : schedule m with
    | env e => rfl
    | task j answer =>
      have hne : i ≠ j := fun heq => h m hnm (by omega) answer (heq ▸ hevent)
      exact fire_of_ne hne

/-- **Progress.** A task that is scheduled again and again returns. -/
theorem run_returns (hfair : Fair schedule i) :
    ∃ n a, (run (system env) c schedule n).task i = .ret a := by
  have hmain (p : Program σ ρ α) (n : ℕ) (hp : (run (system env) c schedule n).task i = p) :
      ∃ n a, (run (system env) c schedule n).task i = .ret a := by
    induction p generalizing n with
    | ret a => exact ⟨n, a, hp⟩
    | act effect next ih =>
      classical
      -- the first moment at which the task is scheduled next
      have hnext : ∃ m, n ≤ m ∧ ∃ answer, schedule m = .task i answer := hfair n
      obtain ⟨hnm, answer, hevent⟩ := Nat.find_spec hnext
      have hstay : (run (system env) c schedule (Nat.find hnext)).task i
          = .act effect next := by
        rw [← hp]
        refine task_eq_of_not_scheduled hnm fun k hk hkm answer' hk' => ?_
        exact Nat.find_min hnext hkm ⟨hk, answer', hk'⟩
      refine ih answer (run (system env) c schedule (Nat.find hnext)).shared
        (Nat.find hnext + 1) ?_
      rw [run, hevent, fire_self, hstay]
      rfl
  exact hmain _ 0 rfl

end Run

end Program

end Interleaving
