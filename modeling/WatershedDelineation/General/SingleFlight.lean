import Mathlib.Data.Nat.Notation
import Mathlib.Logic.Function.Basic
import Mathlib.Tactic.Common

/-!
# Single flight

Tasks that want the value of a key computed once. The task that finds no entry for its key in a
shared map inserts one, with a fresh notifier, and becomes the *owner* of the key; a task that finds
an entry takes a reference to its notifier, then begins to wait on it, and looks again when it is
woken. An owner removes its entry and after that notifies all who wait: a notifier counts its
notifications, and a waiting task is woken when the count is no longer the one it began with.

In every interleaving a key has at most one owner, and a map entry has exactly one
(`Exclusive.move`). A task that waits is still owed a notification (`Owed.move`), unless an owner
has notified while another task held the notifier and had not begun to wait: such a task waits for
a notification that has already been made.
-/

namespace SingleFlight

variable {κ ι : Type}

/-- What the tasks share: the map of entries, the counts of notifications, and the next fresh
notifier. -/
structure Flights (κ : Type) where
  inFlight : κ → Option ℕ
  notified : ℕ → ℕ
  next : ℕ

/-- Where a task is. -/
inductive Role (κ : Type)
  | idle
  | cloned (notifier : ℕ)
  | waiting (notifier seen : ℕ)
  | owner (key : κ) (notifier : ℕ)
  | leaving (notifier : ℕ)

namespace Role

/-- The entry that a task owns. -/
def owned : Role κ → Option (κ × ℕ)
  | .owner key notifier => some (key, notifier)
  | _ => none

/-- The notifier with which a task has still to notify. -/
def owes : Role κ → Option ℕ
  | .owner _ notifier | .leaving notifier => some notifier
  | _ => none

end Role

/-- The moves of one task. -/
inductive Move [DecidableEq κ] : Flights κ → Role κ → Flights κ → Role κ → Prop
  | stay {s : Flights κ} {r : Role κ} : Move s r s r
  | clone {s : Flights κ} {key : κ} {n : ℕ} : s.inFlight key = some n →
      Move s .idle s (.cloned n)
  | register {s : Flights κ} {n : ℕ} : Move s (.cloned n) s (.waiting n (s.notified n))
  | wake {s : Flights κ} {n seen : ℕ} : s.notified n ≠ seen → Move s (.waiting n seen) s .idle
  | enter {s : Flights κ} {key : κ} : s.inFlight key = none →
      Move s .idle { s with
        inFlight := Function.update s.inFlight key (some s.next), next := s.next + 1 }
        (.owner key s.next)
  | leave {s : Flights κ} {key : κ} {n : ℕ} :
      Move s (.owner key n) { s with inFlight := Function.update s.inFlight key none } (.leaving n)
  | notify {s : Flights κ} {n : ℕ} :
      Move s (.leaving n) { s with notified := Function.update s.notified n (s.notified n + 1) }
        .idle

/-! ### One owner for a key -/

/-- An entry has one owner, and an owner has its entry. -/
structure Exclusive (s : Flights κ) (pool : ι → Role κ) : Prop where
  entry : ∀ i key n, (pool i).owned = some (key, n) → s.inFlight key = some n
  unique : ∀ i j key n m, (pool i).owned = some (key, n) → (pool j).owned = some (key, m) → i = j
  owner : ∀ key n, s.inFlight key = some n → ∃ i, (pool i).owned = some (key, n)

/-- Waiting tasks, and those that are about to wait, are owed a notification. -/
structure Owed (s : Flights κ) (pool : ι → Role κ) : Prop where
  entry : ∀ key n, s.inFlight key = some n → ∃ j, (pool j).owned = some (key, n)
  cloned : ∀ i n, pool i = .cloned n → ∃ j, (pool j).owes = some n
  waiting : ∀ i n seen, pool i = .waiting n seen →
    seen ≤ s.notified n ∧ (seen = s.notified n → ∃ j, (pool j).owes = some n)

theorem Role.owes_of_owned {r : Role κ} {key : κ} {n : ℕ} (h : r.owned = some (key, n)) :
    r.owes = some n := by
  cases r with
  | owner key' n' =>
    obtain ⟨rfl, rfl⟩ := Prod.mk.inj (Option.some.inj h)
    rfl
  | _ => simp [Role.owned] at h

theorem exclusive_start {s : Flights κ} {pool : ι → Role κ} (hs : ∀ key, s.inFlight key = none)
    (hpool : ∀ i, pool i = .idle) : Exclusive s pool := by
  refine ⟨fun i key n h => ?_, fun i j key n m h => ?_, fun key n h => ?_⟩
  · simp [hpool, Role.owned] at h
  · simp [hpool, Role.owned] at h
  · simp [hs] at h

theorem owed_start {s : Flights κ} {pool : ι → Role κ} (hs : ∀ key, s.inFlight key = none)
    (hpool : ∀ i, pool i = .idle) : Owed s pool := by
  refine ⟨fun key n h => ?_, fun i n h => ?_, fun i n seen h => ?_⟩
  · simp [hs] at h
  · simp [hpool] at h
  · simp [hpool] at h

section Move

variable [DecidableEq ι] {s s' : Flights κ} {pool : ι → Role κ} {i j : ι} {r' : Role κ}

/-- Who owns what after a move of one task. -/
private theorem owned_update {entry : κ × ℕ} :
    (Function.update pool i r' j).owned = some entry ↔
      j = i ∧ r'.owned = some entry ∨ j ≠ i ∧ (pool j).owned = some entry := by
  rcases eq_or_ne j i with rfl | hne
  · simp only [Function.update_self, true_and, ne_eq, not_true_eq_false, false_and, or_false]
  · simp only [Function.update_of_ne hne, hne, false_and, ne_eq, not_false_eq_true, true_and,
      false_or]

/-- A move that keeps the map and what the task owns. -/
private theorem Exclusive.of_owned_eq (h : Exclusive s pool) (hs : s'.inFlight = s.inFlight)
    (hr : r'.owned = (pool i).owned) : Exclusive s' (Function.update pool i r') := by
  have howned (j : ι) : (Function.update pool i r' j).owned = (pool j).owned := by
    rcases eq_or_ne j i with rfl | hne
    · rw [Function.update_self, hr]
    · rw [Function.update_of_ne hne]
  refine ⟨fun j key n => ?_, fun j k key n m => ?_, fun key n => ?_⟩
  · rw [howned, hs]
    exact h.entry j key n
  · rw [howned, howned]
    exact h.unique j k key n m
  · simp only [howned, hs]
    exact h.owner key n

variable [DecidableEq κ]

/-- A task that enters becomes the only owner of its key. -/
private theorem Exclusive.enter (h : Exclusive s pool) {key : κ} (hnone : s.inFlight key = none)
    (hi : (pool i).owned = none) : Exclusive
      { s with inFlight := Function.update s.inFlight key (some s.next), next := s.next + 1 }
      (Function.update pool i (.owner key s.next)) := by
  -- the other owners have other keys, as there was no entry for this one
  have hne (j : ι) (key' : κ) (m : ℕ) (hj : (pool j).owned = some (key', m)) : key' ≠ key := by
    rintro rfl
    rw [h.entry j key' m hj] at hnone
    exact Option.some_ne_none _ hnone
  refine ⟨fun j key' m hj => ?_, fun j k key' m m' hj hk => ?_, fun key' m hentry => ?_⟩
  · rcases owned_update.mp hj with ⟨-, hj⟩ | ⟨-, hj⟩
    · obtain ⟨rfl, rfl⟩ := Prod.mk.inj (Option.some.inj hj)
      exact Function.update_self _ _ _
    · exact (Function.update_of_ne (hne j key' m hj) _ _).trans (h.entry j key' m hj)
  · rcases owned_update.mp hj with ⟨hji, hown⟩ | ⟨-, hown⟩
    · obtain ⟨rfl, rfl⟩ := Prod.mk.inj (Option.some.inj hown)
      rcases owned_update.mp hk with ⟨hki, -⟩ | ⟨-, hk⟩
      · rw [hji, hki]
      · exact absurd rfl (hne k _ m' hk)
    · rcases owned_update.mp hk with ⟨-, hown'⟩ | ⟨-, hown'⟩
      · obtain ⟨rfl, rfl⟩ := Prod.mk.inj (Option.some.inj hown')
        exact absurd rfl (hne j _ m hown)
      · exact h.unique j k key' m m' hown hown'
  · dsimp only at hentry
    rcases eq_or_ne key' key with rfl | hkey
    · rw [Function.update_self] at hentry
      obtain rfl := Option.some.inj hentry
      exact ⟨i, owned_update.mpr (.inl ⟨rfl, rfl⟩)⟩
    · rw [Function.update_of_ne hkey] at hentry
      obtain ⟨j, hj⟩ := h.owner key' m hentry
      refine ⟨j, owned_update.mpr (.inr ⟨?_, hj⟩)⟩
      rintro rfl
      simp [hi] at hj

/-- An owner that leaves takes its entry with it. -/
private theorem Exclusive.leave (h : Exclusive s pool) {key : κ} {n : ℕ}
    (hi : (pool i).owned = some (key, n)) (hr : r'.owned = none) : Exclusive
      { s with inFlight := Function.update s.inFlight key none } (Function.update pool i r') := by
  have hold {j : ι} {key' : κ} {m : ℕ}
      (hj : (Function.update pool i r' j).owned = some (key', m)) :
      j ≠ i ∧ (pool j).owned = some (key', m) := by
    rcases owned_update.mp hj with ⟨-, hj⟩ | hj
    · simp [hr] at hj
    · exact hj
  refine ⟨fun j key' m hj => ?_, fun j k key' m m' hj hk => ?_, fun key' m hentry => ?_⟩
  · obtain ⟨hne, hj⟩ := hold hj
    have hkey : key' ≠ key := by
      rintro rfl
      exact hne (h.unique j i key' m n hj hi)
    exact (Function.update_of_ne hkey _ _).trans (h.entry j key' m hj)
  · exact h.unique j k key' m m' (hold hj).2 (hold hk).2
  · dsimp only at hentry
    rcases eq_or_ne key' key with rfl | hkey
    · simp [Function.update_self] at hentry
    · rw [Function.update_of_ne hkey] at hentry
      obtain ⟨j, hj⟩ := h.owner key' m hentry
      refine ⟨j, owned_update.mpr (.inr ⟨?_, hj⟩)⟩
      rintro rfl
      rw [hi] at hj
      exact hkey (congrArg Prod.fst (Option.some.inj hj)).symm

/-- **A key has at most one owner**, after every move. -/
theorem Exclusive.move (h : Exclusive s pool) (hmove : Move s (pool i) s' r') :
    Exclusive s' (Function.update pool i r') := by
  generalize hr : pool i = r at hmove
  have howned : r.owned = (pool i).owned := (congrArg Role.owned hr).symm
  cases hmove with
  | stay | clone _ | register | wake _ | notify => exact h.of_owned_eq rfl howned
  | enter hnone => exact h.enter hnone howned.symm
  | leave => exact h.leave howned.symm rfl

/-! ### Notifications -/

omit [DecidableEq κ] in
/-- What some task has after the move of one task, if that task keeps it. -/
private theorem exists_update {β : Type} {f : Role κ → Option β} {b : β}
    (h : ∃ j, f (pool j) = some b) (hr : f (pool i) = some b → f r' = some b) :
    ∃ j, f (Function.update pool i r' j) = some b := by
  obtain ⟨j, hj⟩ := h
  refine ⟨j, ?_⟩
  rcases eq_or_ne j i with rfl | hne
  · rw [Function.update_self]
    exact hr hj
  · rwa [Function.update_of_ne hne]

omit [DecidableEq κ] in
/-- A move that notifies nobody, and by which the task goes on owing what it owes. -/
private theorem Owed.of_owes (h : Owed s pool) (hnotified : s'.notified = s.notified)
    (hentry : ∀ key n, s'.inFlight key = some n →
      ∃ j, (Function.update pool i r' j).owned = some (key, n))
    (howes : ∀ n, (pool i).owes = some n → r'.owes = some n)
    (hcloned : ∀ n, r' = .cloned n → ∃ j, (pool j).owes = some n)
    (hwaiting : ∀ n seen, r' = .waiting n seen →
      seen = s.notified n ∧ ∃ j, (pool j).owes = some n) :
    Owed s' (Function.update pool i r') := by
  refine ⟨hentry, fun j n hj => ?_, fun j n seen hj => ?_⟩
  · refine exists_update ?_ (howes n)
    rcases eq_or_ne j i with rfl | hne
    · exact hcloned n (by rwa [Function.update_self] at hj)
    · exact h.cloned j n (by rwa [Function.update_of_ne hne] at hj)
  · rw [hnotified]
    rcases eq_or_ne j i with rfl | hne
    · obtain ⟨rfl, howed⟩ := hwaiting n seen (by rwa [Function.update_self] at hj)
      exact ⟨Nat.le_refl _, fun _ => exists_update howed (howes n)⟩
    · obtain ⟨hle, howed⟩ := h.waiting j n seen (by rwa [Function.update_of_ne hne] at hj)
      exact ⟨hle, fun heq => exists_update (howed heq) (howes n)⟩

/-- The task notifies while another one has taken the notifier and has not begun to wait. -/
def Loses (pool : ι → Role κ) (i : ι) (r' : Role κ) : Prop :=
  ∃ n, pool i = .leaving n ∧ r'.owes = none ∧ ∃ j, pool j = .cloned n

omit [DecidableEq κ] in
/-- A notification that no task misses. -/
private theorem Owed.notify (h : Owed s pool) {n : ℕ} (hi : pool i = .leaving n)
    (hloses : ¬Loses pool i .idle) :
    Owed { s with notified := Function.update s.notified n (s.notified n + 1) }
      (Function.update pool i .idle) := by
  have howes {m : ℕ} (hne : m ≠ n) (hj : ∃ j, (pool j).owes = some m) :
      ∃ j, (Function.update pool i .idle j).owes = some m :=
    exists_update hj fun hi' => by
      rw [hi] at hi'
      exact absurd (Option.some.inj hi').symm hne
  have hold {j : ι} {r : Role κ} (hr : r ≠ .idle) (hj : Function.update pool i .idle j = r) :
      pool j = r := by
    rcases eq_or_ne j i with rfl | hne
    · rw [Function.update_self] at hj
      exact absurd hj.symm hr
    · rwa [Function.update_of_ne hne] at hj
  refine ⟨fun key m hentry => exists_update (h.entry key m hentry) fun hi' => ?_,
    fun j m hj => ?_, fun j m seen hj => ?_⟩
  · rw [hi] at hi'
    exact absurd hi' (by simp [Role.owned])
  · have hj := hold (by simp) hj
    refine howes (fun heq => hloses ⟨n, hi, rfl, j, heq ▸ hj⟩) (h.cloned j m hj)
  · obtain ⟨hle, howed⟩ := h.waiting j m seen (hold (by simp) hj)
    dsimp only
    rcases eq_or_ne m n with rfl | hne
    · -- the tasks that wait on this notifier are woken
      rw [Function.update_self]
      exact ⟨by omega, fun heq => by omega⟩
    · rw [Function.update_of_ne hne]
      exact ⟨hle, fun heq => howes hne (howed heq)⟩

/-- **Waiting tasks are owed a notification**, after every move by which none is lost. -/
theorem Owed.move (h : Owed s pool) (hmove : Move s (pool i) s' r') (hloses : ¬Loses pool i r') :
    Owed s' (Function.update pool i r') := by
  generalize hr : pool i = r at hmove
  have hkeep {key : κ} {n : ℕ} (hentry : s.inFlight key = some n)
      (hi : r.owned = some (key, n) → r'.owned = some (key, n)) :
      ∃ j, (Function.update pool i r' j).owned = some (key, n) :=
    exists_update (h.entry key n hentry) (by rwa [hr])
  cases hmove with
  | stay =>
    rw [← hr, Function.update_eq_self]
    exact h
  | @clone key n hentry =>
    refine h.of_owes rfl (fun key m hm => hkeep hm (by simp [Role.owned])) ?_ ?_ (by simp)
    · simp [hr, Role.owes]
    · intro m hm
      obtain rfl := Role.cloned.inj hm
      -- the task whose entry it is has yet to notify
      obtain ⟨j, hj⟩ := h.entry key n hentry
      exact ⟨j, Role.owes_of_owned hj⟩
  | @register n =>
    refine h.of_owes rfl (fun key m hm => hkeep hm (by simp [Role.owned])) ?_ (by simp) ?_
    · simp [hr, Role.owes]
    · intro m seen hm
      obtain ⟨rfl, rfl⟩ := Role.waiting.inj hm
      exact ⟨rfl, h.cloned i n hr⟩
  | wake _ =>
    refine h.of_owes rfl (fun key m hm => hkeep hm (by simp [Role.owned])) ?_ (by simp) (by simp)
    simp [hr, Role.owes]
  | @enter key hnone =>
    refine h.of_owes rfl (fun key' m hm => ?_) ?_ (by simp) (by simp)
    · dsimp only at hm
      rcases eq_or_ne key' key with rfl | hkey
      · rw [Function.update_self] at hm
        obtain rfl := Option.some.inj hm
        exact ⟨i, by rw [Function.update_self]; rfl⟩
      · rw [Function.update_of_ne hkey] at hm
        exact hkeep hm (by simp [Role.owned])
    · simp [hr, Role.owes]
  | @leave key n =>
    refine h.of_owes rfl (fun key' m hm => ?_) ?_ (by simp) (by simp)
    · dsimp only at hm
      rcases eq_or_ne key' key with rfl | hkey
      · simp [Function.update_self] at hm
      · rw [Function.update_of_ne hkey] at hm
        refine hkeep hm fun hown => ?_
        exact absurd (congrArg Prod.fst (Option.some.inj hown)).symm hkey
    · intro m hm
      rw [hr] at hm
      exact hm
  | notify => exact h.notify hr hloses

end Move

end SingleFlight
