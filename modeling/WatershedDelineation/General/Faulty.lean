import Mathlib.Data.List.Forall2
import Mathlib.Data.Nat.Notation
import Mathlib.Tactic.Common

/-!
# Computations whose operations may fail

`Faulty σ ε` is for embedding code that reads and writes a store `σ` (a file system, a database)
through operations of which any may fail. Beside the store a run carries a *fault plan*, a list
with one entry for every operation still to come, `true` where it fails; past the end of the plan
every operation succeeds. A statement about all runs quantifies over all plans.

A `Triple` says what a run leaves behind, whether it ends with a result or with an error. There is
one rule for each way of building a computation, so that a proof follows the program text.
-/

/-- Computations on a store `σ` with errors `ε`, whose operations fail as the plan says. -/
abbrev Faulty (σ ε : Type) : Type → Type := ExceptT ε (StateM (σ × List Bool))

namespace Faulty

variable {σ ε α β : Type}

/-- Run a computation from a store and a fault plan. -/
def run (x : Faulty σ ε α) (s : σ) (faults : List Bool) : Except ε α × σ × List Bool :=
  Id.run ((ExceptT.run x).run (s, faults))

/-- Perform an operation, and tell whether it succeeded. -/
def succeeds : Faulty σ ε Bool :=
  ExceptT.mk fun p => (.ok (p.2.head? != some true), p.1, p.2.tail)

/-- The store. -/
def store : Faulty σ ε σ := ExceptT.mk fun p => (.ok p.1, p)

/-- Change the store. -/
def update (f : σ → σ) : Faulty σ ε Unit := ExceptT.mk fun p => (.ok (), f p.1, p.2)

/-- The outcome of a function that does not touch the store. -/
def ofExcept (x : Except ε α) : Faulty σ ε α := ExceptT.mk fun p => (x, p)

/-- Run a computation and go on with its outcome, also when that is an error. -/
def observe (x : Faulty σ ε α) : Faulty σ ε (Except ε α) := ExceptT.lift (ExceptT.run x)

/-- Perform an operation, and return the error when it fails. -/
def attempt (e : ε) : Faulty σ ε Unit := do
  if ← succeeds then pure () else throw e

/-! ### Runs -/

section Run

variable {s : σ} {faults : List Bool} {e : ε}

@[simp] theorem run_pure (a : α) : run (pure a : Faulty σ ε α) s faults = (.ok a, s, faults) := rfl

@[simp] theorem run_throw : run (throw e : Faulty σ ε α) s faults = (.error e, s, faults) := rfl

@[simp] theorem run_succeeds :
    run (succeeds : Faulty σ ε Bool) s faults = (.ok (faults.head? != some true), s, faults.tail) :=
  rfl

@[simp] theorem run_store : run (store : Faulty σ ε σ) s faults = (.ok s, s, faults) := rfl

@[simp] theorem run_update (f : σ → σ) :
    run (update f : Faulty σ ε Unit) s faults = (.ok (), f s, faults) := rfl

@[simp] theorem run_ofExcept (x : Except ε α) :
    run (ofExcept x : Faulty σ ε α) s faults = (x, s, faults) := rfl

theorem run_bind (x : Faulty σ ε α) (f : α → Faulty σ ε β) :
    run (x >>= f) s faults = match run x s faults with
      | (.ok a, s', faults') => run (f a) s' faults'
      | (.error e, s', faults') => (.error e, s', faults') := by
  unfold run
  rw [ExceptT.run_bind, StateT.run_bind]
  change Id.run (match Id.run ((ExceptT.run x).run (s, faults)) with
    | (a, p) => StateT.run (match a with
      | .ok a => ExceptT.run (f a)
      | .error e => pure (.error e)) p) = _
  rcases Id.run ((ExceptT.run x).run (s, faults)) with ⟨_ | _, _, _⟩ <;> rfl

theorem run_bind_of_ok {x : Faulty σ ε α} {a : α} {s' : σ} {faults' : List Bool}
    (h : run x s faults = (.ok a, s', faults')) (f : α → Faulty σ ε β) :
    run (x >>= f) s faults = run (f a) s' faults' := by
  rw [run_bind, h]

theorem run_bind_of_error {x : Faulty σ ε α} {s' : σ} {faults' : List Bool}
    (h : run x s faults = (.error e, s', faults')) (f : α → Faulty σ ε β) :
    run (x >>= f) s faults = (.error e, s', faults') := by
  rw [run_bind, h]

theorem run_observe (x : Faulty σ ε α) :
    run (observe x) s faults = (.ok (run x s faults).1, (run x s faults).2) := rfl

theorem run_attempt : run (attempt e : Faulty σ ε Unit) s faults
    = (if faults.head? = some true then .error e else .ok (), s, faults.tail) := by
  rw [attempt, run_bind_of_ok run_succeeds]
  split_ifs with h <;> simp_all

/-- An operation that fails ends the run, and the store stays as it is. -/
theorem run_attempt_bind (f : Unit → Faulty σ ε β) :
    run (attempt e >>= f) s faults = if faults.head? = some true then (.error e, s, faults.tail)
      else run (f ()) s faults.tail := by
  split_ifs with h
  · exact run_bind_of_error (by rw [run_attempt, if_pos h]) f
  · exact run_bind_of_ok (by rw [run_attempt, if_neg h]) f

theorem run_update_bind (g : σ → σ) (f : Unit → Faulty σ ε β) :
    run (update g >>= f) s faults = run (f ()) (g s) faults :=
  run_bind_of_ok (run_update g) f

theorem run_store_bind (f : σ → Faulty σ ε β) :
    run (store >>= f) s faults = run (f s) s faults :=
  run_bind_of_ok run_store f

theorem run_succeeds_bind (f : Bool → Faulty σ ε β) : run (succeeds >>= f) s faults
    = run (f (faults.head? != some true)) s faults.tail :=
  run_bind_of_ok run_succeeds f

end Run

/-! ### Triples -/

/-- From a store with `P`, a run that ends with a result has `Q`, and one that ends with an error
leaves a store with `E`. -/
def Triple (P : σ → Prop) (x : Faulty σ ε α) (Q : α → σ → Prop) (E : σ → Prop) : Prop :=
  ∀ s faults, P s → match run x s faults with
    | (.ok a, s', _) => Q a s'
    | (.error _, s', _) => E s'

section Triple

variable {P P' : σ → Prop} {Q Q' : α → σ → Prop} {E E' : σ → Prop} {x : Faulty σ ε α}

theorem Triple.of_run (h : Triple P x Q E) {s s' : σ} {faults faults' : List Bool} {a : α}
    (hs : P s) (hrun : run x s faults = (.ok a, s', faults')) : Q a s' := by
  have := h s faults hs
  rwa [hrun] at this

theorem Triple.state (h : Triple P x Q E) {s : σ} (faults : List Bool) (hs : P s) {I : σ → Prop}
    (hQ : ∀ a s, Q a s → I s) (hE : ∀ s, E s → I s) : I (run x s faults).2.1 := by
  have := h s faults hs
  split at this
  · next heq => rw [heq]; exact hQ _ _ this
  · next heq => rw [heq]; exact hE _ this

theorem Triple.weaken (h : Triple P x Q E) (hP : ∀ s, P' s → P s) (hQ : ∀ a s, Q a s → Q' a s)
    (hE : ∀ s, E s → E' s) : Triple P' x Q' E' := by
  intro s faults hs
  have := h s faults (hP s hs)
  split at this
  · exact hQ _ _ this
  · exact hE _ this

theorem triple_pure {a : α} (h : ∀ s, P s → Q a s) : Triple P (pure a : Faulty σ ε α) Q E :=
  fun s _ hs => h s hs

theorem triple_throw {e : ε} (h : ∀ s, P s → E s) : Triple P (throw e : Faulty σ ε α) Q E :=
  fun s _ hs => h s hs

theorem triple_succeeds : Triple P (succeeds : Faulty σ ε Bool) (fun _ => P) E := fun _ _ hs => hs

theorem triple_store : Triple P (store : Faulty σ ε σ) (fun s s' => s' = s ∧ P s') E :=
  fun _ _ hs => ⟨rfl, hs⟩

theorem triple_update {f : σ → σ} {Q : Unit → σ → Prop} (h : ∀ s, P s → Q () (f s)) :
    Triple P (update f : Faulty σ ε Unit) Q E := fun s _ hs => h s hs

theorem triple_ofExcept {x : Except ε α} (hE : ∀ s, P s → E s) :
    Triple P (ofExcept x) (fun a s => x = .ok a ∧ P s) E := by
  intro s faults hs
  cases x with
  | ok a => exact ⟨rfl, hs⟩
  | error e => exact hE s hs

theorem triple_attempt {e : ε} (hE : ∀ s, P s → E s) : Triple P (attempt e) (fun _ => P) E := by
  intro s faults hs
  rw [run_attempt]
  split_ifs
  · exact hE s hs
  · exact hs

theorem Triple.observe {Q : Except ε α → σ → Prop} {E' : σ → Prop}
    (h : Triple P x (fun a => Q (.ok a)) E) (hE : ∀ e s, E s → Q (.error e) s) :
    Triple P (observe x) Q E' := by
  intro s faults hs
  have hrun := h s faults hs
  rw [run_observe]
  rcases hx : run x s faults with ⟨_ | _, _, _⟩
  · rw [hx] at hrun; exact hE _ _ hrun
  · rw [hx] at hrun; exact hrun

/-- **The rule for sequences.** -/
theorem Triple.bind {f : α → Faulty σ ε β} {R : β → σ → Prop} (hx : Triple P x Q E)
    (hf : ∀ a, Triple (Q a) (f a) R E) : Triple P (x >>= f) R E := by
  intro s faults hs
  have hrun := hx s faults hs
  rw [run_bind]
  rcases hx' : run x s faults with ⟨_ | _, _, _⟩
  · rw [hx'] at hrun; exact hrun
  · rw [hx'] at hrun; exact hf _ _ _ hrun

/-- An operation, and what is done when it succeeds. -/
theorem triple_attempt_bind {e : ε} {f : Unit → Faulty σ ε α} (hE : ∀ s, P s → E s)
    (hf : Triple P (f ()) Q E) : Triple P (attempt e >>= f) Q E :=
  (triple_attempt hE).bind fun _ => hf

/-- A fact that the store does not bear on. -/
theorem triple_of_imp {φ : Prop} (h : φ → Triple P x Q E) : Triple (fun s => φ ∧ P s) x Q E :=
  fun s faults hs => h hs.1 s faults hs.2

/-- **The rule for loops** that collect results: what every round keeps, and what it says about its
own result. -/
theorem triple_mapM {l : List α} {f : α → Faulty σ ε β} {R : α → β → Prop}
    (h : ∀ a ∈ l, Triple P (f a) (fun b s => R a b ∧ P s) E) :
    Triple P (l.mapM f) (fun bs s => List.Forall₂ R l bs ∧ P s) E := by
  induction l with
  | nil => exact triple_pure fun s hs => ⟨.nil, hs⟩
  | cons a l ih =>
    rw [List.mapM_cons]
    refine (h a List.mem_cons_self).bind fun b => triple_of_imp fun hb => ?_
    refine (ih fun a ha => h a (List.mem_cons_of_mem _ ha)).bind fun bs =>
      triple_of_imp fun hbs => ?_
    exact triple_pure fun s hs => ⟨.cons hb hbs, hs⟩

end Triple

/-! ### Runs without faults -/

/-- Without faults, a computation has this outcome and leaves the store as it is. -/
def Reads (x : Faulty σ ε α) (v : Except ε α) : Prop := ∀ s, run x s [] = (v, s, [])

section Reads

variable {x : Faulty σ ε α} {v : Except ε α}

theorem reads_pure (a : α) : Reads (pure a : Faulty σ ε α) (.ok a) := fun _ => rfl

theorem reads_ofExcept (v : Except ε α) : Reads (ofExcept v : Faulty σ ε α) v := fun _ => rfl

theorem reads_attempt (e : ε) : Reads (attempt e : Faulty σ ε Unit) (.ok ()) := fun _ => rfl

theorem Reads.bind {f : α → Faulty σ ε β} {w : α → Except ε β} (hx : Reads x v)
    (hf : ∀ a, Reads (f a) (w a)) : Reads (x >>= f) (v >>= w) := by
  intro s
  cases v with
  | error e => exact run_bind_of_error (hx s) f
  | ok a => exact (run_bind_of_ok (hx s) f).trans (hf a s)

theorem Reads.observe (hx : Reads x v) : Reads (observe x) (.ok v) := fun s => by
  rw [run_observe, hx s]

theorem Reads.mapM {l : List α} {f : α → Faulty σ ε β} {w : α → Except ε β}
    (hf : ∀ a, Reads (f a) (w a)) : Reads (l.mapM f) (l.mapM w) := by
  induction l with
  | nil => exact reads_pure []
  | cons a l ih =>
    rw [List.mapM_cons, List.mapM_cons]
    exact (hf a).bind fun b => ih.bind fun bs => reads_pure (b :: bs)

/-- What follows a computation that only reads. -/
theorem Reads.run_bind {f : α → Faulty σ ε β} {a : α} (hx : Reads x (.ok a)) (s : σ) :
    run (x >>= f) s [] = run (f a) s [] := run_bind_of_ok (hx s) f

/-- A run with a result goes through what is read. -/
theorem Reads.exists_of_run_bind {f : α → Faulty σ ε β} (hx : Reads x v) {s s' : σ} {b : β}
    {faults' : List Bool} (h : run (x >>= f) s [] = (.ok b, s', faults')) :
    ∃ a, v = .ok a ∧ run (f a) s [] = (.ok b, s', faults') := by
  cases v with
  | error e =>
    rw [run_bind_of_error (hx s)] at h
    cases congrArg Prod.fst h
  | ok a => exact ⟨a, rfl, (run_bind_of_ok (hx s) f).symm.trans h⟩

end Reads

/-- A run with a result goes through a result of its first part. -/
theorem exists_of_run_bind {x : Faulty σ ε α} {f : α → Faulty σ ε β} {s s' : σ} {b : β}
    {faults faults' : List Bool} (h : run (x >>= f) s faults = (.ok b, s', faults')) :
    ∃ a s'' faults'', run x s faults = (.ok a, s'', faults'') ∧
      run (f a) s'' faults'' = (.ok b, s', faults') := by
  rw [run_bind] at h
  rcases hx : run x s faults with ⟨_ | a, s'', faults''⟩
  · rw [hx] at h
    cases congrArg Prod.fst h
  · rw [hx] at h
    exact ⟨a, s'', faults'', rfl, h⟩

end Faulty
