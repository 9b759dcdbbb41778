import Mathlib.Data.Nat.Notation
import Mathlib.Tactic.Common

/-!
# Fallible computations and fuelled loops

Two general devices for embedding imperative code.

* `Fault ε` is the ways a run can end without a value: the function returned an error of
  type `ε`, it panicked (an `unwrap`, an index, a checked arithmetic operation), or a loop
  used up its fuel. A computation is an `Except (Fault ε) α`.
* `FuelLoop.run step n s` iterates a `while` body: `step` either continues with a new state
  or stops with a result. The one proof rule, `FuelLoop.run_spec`, asks for an invariant
  the body keeps and a measure it decreases, and returns termination and the
  postcondition together, so no later proof inducts on fuel again. `FuelLoop.exec` is the same
  for a body that may itself fail.
-/

/-- The ways a run ends without a value. -/
inductive Fault (ε : Type*)
  /-- The function returned `Err e`. -/
  | err (e : ε)
  /-- The function panicked. -/
  | panic
  /-- A loop did not end within its fuel. -/
  | diverge
  deriving DecidableEq, Repr

/-- A fault of a function that returns no errors, inside a function that does. -/
def Fault.lift {ε : Type*} : Fault Empty → Fault ε
  | .panic => .panic
  | .diverge => .diverge

/-- Run a function that returns no errors inside a function that does. -/
def Fault.noErr {ε α : Type*} (x : Except (Fault Empty) α) : Except (Fault ε) α :=
  x.mapError Fault.lift

@[simp] theorem Fault.noErr_ok {ε α : Type*} (a : α) :
    (Fault.noErr (.ok a) : Except (Fault ε) α) = .ok a := rfl

theorem Fault.noErr_eq_ok_iff {ε α : Type*} {x : Except (Fault Empty) α} {a : α} :
    (Fault.noErr x : Except (Fault ε) α) = .ok a ↔ x = .ok a := by
  cases x <;> simp [Fault.noErr, Except.mapError]

namespace Fault

variable {δ ε α β : Type}

/-- A fault of a function whose errors are wrapped. -/
def map (f : δ → ε) : Fault δ → Fault ε
  | .err e => .err (f e)
  | .panic => .panic
  | .diverge => .diverge

/-- The run returns: it neither panics nor diverges. -/
def Returns (x : Except (Fault ε) α) : Prop := ∀ f, x = .error f → ∃ e, f = .err e

theorem returns_ok (a : α) : Returns (.ok a : Except (Fault ε) α) := fun _ h => by simp at h

theorem returns_err (e : ε) : Returns (.error (.err e) : Except (Fault ε) α) := fun _ h =>
  ⟨e, by simpa using h.symm⟩

/-- A function that only returns errors, inside a function with errors of its own. -/
theorem returns_mapError (x : Except δ α) (f : δ → ε) :
    Returns (x.mapError fun source => err (f source)) := by
  cases x with
  | error e => exact returns_err _
  | ok a => exact returns_ok a

theorem Returns.bind {x : Except (Fault ε) α} {f : α → Except (Fault ε) β} (hx : Returns x)
    (hf : ∀ a, x = .ok a → Returns (f a)) : Returns (x >>= f) := by
  cases x with
  | error e =>
    obtain ⟨e', rfl⟩ := hx e rfl
    exact returns_err e'
  | ok a => exact hf a rfl

theorem Returns.mapError {x : Except (Fault δ) α} (hx : Returns x) (f : δ → ε) :
    Returns (x.mapError (Fault.map f)) := by
  cases x with
  | error e =>
    obtain ⟨e', rfl⟩ := hx e rfl
    exact returns_err (f e')
  | ok a => exact returns_ok a

theorem Returns.mapM {l : List α} {f : α → Except (Fault ε) β} (h : ∀ a ∈ l, Returns (f a)) :
    Returns (l.mapM f) := by
  induction l with
  | nil => exact returns_ok []
  | cons a l ih =>
    rw [List.mapM_cons]
    refine (h a List.mem_cons_self).bind fun b _ => ?_
    exact (ih fun a ha => h a (List.mem_cons_of_mem _ ha)).bind fun bs _ => returns_ok _

/-- The run returns, and its result has `Q`. -/
structure Ensures (x : Except (Fault ε) α) (Q : α → Prop) : Prop where
  returns : Returns x
  result : ∀ a, x = .ok a → Q a

section Ensures

variable {x : Except (Fault ε) α} {Q Q' : α → Prop}

theorem ensures_ok {a : α} (h : Q a) : Ensures (.ok a : Except (Fault ε) α) Q :=
  ⟨returns_ok a, fun _ ha => Except.ok.inj ha ▸ h⟩

theorem ensures_err {e : ε} : Ensures (.error (.err e) : Except (Fault ε) α) Q :=
  ⟨returns_err e, fun _ h => by cases h⟩

theorem Returns.ensures (h : Returns x) : Ensures x fun a => x = .ok a := ⟨h, fun _ ha => ha⟩

theorem Ensures.weaken (h : Ensures x Q) (hQ : ∀ a, Q a → Q' a) : Ensures x Q' :=
  ⟨h.returns, fun a ha => hQ a (h.result a ha)⟩

/-- The rule for sequences. -/
theorem Ensures.bind {f : α → Except (Fault ε) β} {R : β → Prop} (hx : Ensures x Q)
    (hf : ∀ a, Q a → Ensures (f a) R) : Ensures (x >>= f) R := by
  refine ⟨hx.returns.bind fun a ha => (hf a (hx.result a ha)).returns, fun b hb => ?_⟩
  rcases x with e | a
  · cases hb
  · exact (hf a (hx.result a rfl)).result b hb

/-- The rule for loops that collect results. -/
theorem Ensures.mapM {l : List β} {f : β → Except (Fault ε) α} (h : ∀ b ∈ l, Ensures (f b) Q) :
    Ensures (l.mapM f) fun as => (∀ a ∈ as, Q a) ∧ as.length = l.length := by
  induction l with
  | nil => exact ensures_ok ⟨fun _ ha => absurd ha List.not_mem_nil, rfl⟩
  | cons b l ih =>
    rw [List.mapM_cons]
    refine (h b List.mem_cons_self).bind fun a ha => ?_
    refine (ih fun b hb => h b (List.mem_cons_of_mem _ hb)).bind fun as has => ensures_ok ?_
    exact ⟨List.forall_mem_cons.mpr ⟨ha, has.1⟩, congrArg Nat.succ has.2⟩

/-- The rule for loops with a state. The invariant speaks of the rest of the list too. -/
theorem Ensures.foldlM {l : List β} {f : α → β → Except (Fault ε) α} {s : α}
    (Inv : List β → α → Prop) (hstep : ∀ b l s, Inv (b :: l) s → Ensures (f s b) (Inv l))
    (hs : Inv l s) : Ensures (l.foldlM f s) (Inv []) := by
  induction l generalizing s with
  | nil => exact ensures_ok hs
  | cons b l ih =>
    rw [List.foldlM_cons]
    exact (hstep b l s hs).bind fun s' hs' => ih hs'

/-- The rule for loops without results. -/
theorem Ensures.forM {l : List β} {f : β → Except (Fault ε) PUnit}
    (h : ∀ b ∈ l, Ensures (f b) fun _ => True) : Ensures (l.forM f) fun _ => True := by
  induction l with
  | nil => exact ensures_ok trivial
  | cons b l ih =>
    change Ensures (f b >>= fun _ => l.forM f) _
    exact (h b List.mem_cons_self).bind fun _ _ =>
      ih fun b hb => h b (List.mem_cons_of_mem _ hb)

end Ensures

/-- The run returns an error. -/
def Rejects (x : Except (Fault ε) α) : Prop := ∃ e, x = .error (.err e)

theorem rejects_err (e : ε) : Rejects (.error (.err e) : Except (Fault ε) α) := ⟨e, rfl⟩

theorem Rejects.bind {x : Except (Fault ε) α} (h : Rejects x) (f : α → Except (Fault ε) β) :
    Rejects (x >>= f) := by
  obtain ⟨e, rfl⟩ := h
  exact rejects_err e

end Fault

namespace FuelLoop

variable {σ ρ : Type*}

/-- Iterate the loop body `step` at most `n` times; `none` when the fuel runs out. -/
def run (step : σ → σ ⊕ ρ) : ℕ → σ → Option ρ
  | 0, _ => none
  | n + 1, s =>
    match step s with
    | .inl s' => run step n s'
    | .inr r => some r

variable {step : σ → σ ⊕ ρ}

theorem run_succ_inl {n : ℕ} {s s' : σ} (h : step s = .inl s') :
    run step (n + 1) s = run step n s' := by
  rw [run, h]

theorem run_succ_inr {n : ℕ} {s : σ} {r : ρ} (h : step s = .inr r) :
    run step (n + 1) s = some r := by
  rw [run, h]

/-- **The loop rule.** A body that keeps `Inv` and decreases `μ`, and whose results satisfy
`Post`, ends within any fuel above the initial measure, with a result satisfying `Post`. -/
theorem run_spec (Inv : σ → Prop) (μ : σ → ℕ) {Post : ρ → Prop}
    (hstep : ∀ s s', Inv s → step s = .inl s' → Inv s' ∧ μ s' < μ s)
    (hstop : ∀ s r, Inv s → step s = .inr r → Post r) :
    ∀ (n : ℕ) (s : σ), Inv s → μ s < n → ∃ r, run step n s = some r ∧ Post r := by
  intro n
  induction n with
  | zero => intro s _ hlt; exact absurd hlt (Nat.not_lt_zero _)
  | succ n ih =>
    intro s hs hlt
    rcases hstep' : step s with s' | r
    · obtain ⟨hs', hμ⟩ := hstep s s' hs hstep'
      rw [run_succ_inl hstep']
      exact ih s' hs' (by omega)
    · exact ⟨r, run_succ_inr hstep', hstop s r hs hstep'⟩

/-- A change of state representation `f` that commutes with the bodies, up to a change of
result representation `g`, commutes with the runs. -/
theorem run_map {σ' ρ' : Type*} {step' : σ' → σ' ⊕ ρ'} (f : σ → σ') (g : ρ → ρ')
    (h : ∀ s, step' (f s) = (step s).map f g) :
    ∀ (n : ℕ) (s : σ), run step' n (f s) = (run step n s).map g := by
  intro n
  induction n with
  | zero => intro s; rfl
  | succ n ih =>
    intro s
    rcases hs : step s with s' | r
    · have hs' : step' (f s) = .inl (f s') := by rw [h, hs]; rfl
      rw [run_succ_inl hs', run_succ_inl hs, ih]
    · have hs' : step' (f s) = .inr (g r) := by rw [h, hs]; rfl
      rw [run_succ_inr hs', run_succ_inr hs, Option.map_some]

/-- Iterate a loop body that may itself fail; running out of fuel is a fault. -/
def exec {ε α : Type*} (step : σ → σ ⊕ Except (Fault ε) α) (n : ℕ) (s : σ) :
    Except (Fault ε) α :=
  (run step n s).getD (.error .diverge)

/-- The loop rule for bodies that may fail. -/
theorem exec_spec {ε α : Type*} {step : σ → σ ⊕ Except (Fault ε) α} (Inv : σ → Prop) (μ : σ → ℕ)
    (Post : Except (Fault ε) α → Prop)
    (hstep : ∀ s s', Inv s → step s = .inl s' → Inv s' ∧ μ s' < μ s)
    (hstop : ∀ s r, Inv s → step s = .inr r → Post r) {n : ℕ} {s : σ} (hs : Inv s) (hn : μ s < n) :
    Post (exec step n s) := by
  obtain ⟨r, hr, hpost⟩ := run_spec Inv μ hstep hstop n s hs hn
  rw [exec, hr]
  exact hpost

/-- `run_map` for bodies that may fail. -/
theorem exec_map {ε α σ' α' : Type*} {step : σ → σ ⊕ Except (Fault ε) α}
    {step' : σ' → σ' ⊕ Except (Fault ε) α'} (f : σ → σ') (g : α → α')
    (h : ∀ s, step' (f s) = (step s).map f (Except.map g)) (n : ℕ) (s : σ) :
    exec step' n (f s) = (exec step n s).map g := by
  rw [exec, exec, run_map f (Except.map g) h]
  cases run step n s <;> rfl

end FuelLoop
