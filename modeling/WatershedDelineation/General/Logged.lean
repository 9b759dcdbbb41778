import WatershedDelineation.General.FuelLoop

/-!
# Computations that leave a log

`Logged ω ε α` is a computation with outcome `Except ε α` that leaves a log of events `ω`: what it
asked of its environment, what it allocated. The log is kept also when the computation ends with an
error. Computations without a log lift into it, and `outcome` forgets the log again.

`Safe ok x Q` says that all events of `x` are as `ok` demands, that `x` does not panic, and that
its result has `Q`. There is one rule for each way of building a computation, so that a proof
follows the program text.
-/

/-- A computation that leaves a log. -/
structure Logged (ω ε α : Type) where
  log : List ω
  outcome : Except ε α

namespace Logged

variable {ω ε α β : Type}

/-- Go on with the result of a computation. -/
def andThen (x : Logged ω ε α) (f : α → Logged ω ε β) : Logged ω ε β :=
  match x.outcome with
  | .error e => ⟨x.log, .error e⟩
  | .ok a => ⟨x.log ++ (f a).log, (f a).outcome⟩

instance : Monad (Logged ω ε) where
  pure a := ⟨[], .ok a⟩
  bind := andThen

/-- A computation without a log. -/
def ofExcept (x : Except ε α) : Logged ω ε α := ⟨[], x⟩

instance : MonadLift (Except ε) (Logged ω ε) := ⟨ofExcept⟩

/-- Leave an event in the log. -/
def record (event : ω) : Logged ω ε Unit := ⟨[event], .ok ()⟩

/-! ### Outcomes -/

section Outcome

variable {x : Logged ω ε α} {f : α → Logged ω ε β}

@[simp] theorem outcome_liftM (y : Except ε α) :
    (liftM y : Logged ω ε α).outcome = y := rfl

@[simp] theorem outcome_record (event : ω) :
    (record event : Logged ω ε Unit).outcome = .ok () := rfl

/-- Forgetting the log commutes with sequencing. -/
@[simp] theorem outcome_bind :
    (x >>= f).outcome = x.outcome >>= fun a => (f a).outcome := by
  change (x.andThen f).outcome = _
  rw [andThen]
  rcases x.outcome with e | a <;> rfl

theorem log_bind_of_ok {a : α} (h : x.outcome = .ok a) :
    (x >>= f).log = x.log ++ (f a).log := by
  change (x.andThen f).log = _
  rw [andThen, h]

theorem log_bind_of_error {e : ε} (h : x.outcome = .error e) : (x >>= f).log = x.log := by
  change (x.andThen f).log = _
  rw [andThen, h]

end Outcome

/-! ### Safety -/

/-- Every event is as `ok` demands, the computation does not panic, and its result has `Q`. -/
structure Safe (ok : ω → Prop) (x : Logged ω (Fault ε) α) (Q : α → Prop) : Prop where
  log : ∀ event ∈ x.log, ok event
  outcome : Fault.Ensures x.outcome Q

section Safe

variable {ok : ω → Prop} {Q Q' : α → Prop} {R : β → Prop} {x : Logged ω (Fault ε) α}

theorem safe_pure {a : α} (h : Q a) : Safe ok (pure a : Logged ω (Fault ε) α) Q where
  log _ hevent := absurd hevent List.not_mem_nil
  outcome := Fault.ensures_ok h

/-- A computation without a log is as safe as it is by itself. -/
theorem safe_liftM {y : Except (Fault ε) α} (h : Fault.Ensures y Q) :
    Safe ok (liftM y : Logged ω (Fault ε) α) Q where
  log _ hevent := absurd hevent List.not_mem_nil
  outcome := h

theorem safe_record {event : ω} (h : ok event) :
    Safe ok (record event : Logged ω (Fault ε) Unit) fun _ => True where
  log _ hevent := List.mem_singleton.mp hevent ▸ h
  outcome := Fault.ensures_ok trivial

/-- **The rule for sequences.** -/
theorem Safe.bind {f : α → Logged ω (Fault ε) β} (hx : Safe ok x Q)
    (hf : ∀ a, Q a → Safe ok (f a) R) : Safe ok (x >>= f) R where
  log := by
    rcases hout : x.outcome with e | a
    · rw [log_bind_of_error hout]
      exact hx.log
    · rw [log_bind_of_ok hout]
      exact fun event hevent => (List.mem_append.mp hevent).elim (hx.log event)
        ((hf a (hx.outcome.result a hout)).log event)
  outcome := by
    rw [outcome_bind]
    exact hx.outcome.bind fun a ha => (hf a ha).outcome

end Safe

end Logged
