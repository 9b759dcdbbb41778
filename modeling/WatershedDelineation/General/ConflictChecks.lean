import Mathlib.Data.List.Perm.Basic
import WatershedDelineation.General.Checks

/-!
# Loops that check for conflicts

A loop reads items one after the other, makes an entry of each, and stops with an error when the
entry of an item cannot be made or conflicts with an earlier one. What it keeps of the entries so
far (sets, maps, lists) is its state.

Such a loop succeeds exactly when all entries can be made and no two of them conflict
(`Collects.foldlM_eq_ok_iff`), so whether it does is the same for all orders of the items
(`exists_perm_of_perm`).
-/

namespace ConflictChecks

variable {σ α β ε : Type}

/-- A step makes the entry of an item with `make` and adds it to the state with `push`, and fails
exactly when it cannot make the entry or the entry conflicts with one in the state. -/
structure Collects (make : α → Except ε β) (Compatible : β → β → Prop) (push : σ → β → σ)
    (Holds : List β → σ → Prop) (step : σ → α → Except ε σ) : Prop where
  step_eq_ok_iff : ∀ {entries s a s'}, Holds entries s → (step s a = .ok s' ↔
    ∃ b, make a = .ok b ∧ (∀ c ∈ entries, Compatible c b) ∧ push s b = s')
  holds_push : ∀ {entries s b}, Holds entries s → (∀ c ∈ entries, Compatible c b) →
    Holds (entries ++ [b]) (push s b)

variable {make : α → Except ε β} {Compatible : β → β → Prop} {push : σ → β → σ}
  {Holds : List β → σ → Prop} {step : σ → α → Except ε σ}

/-- **The loop** succeeds exactly when all entries can be made and none conflict. -/
theorem Collects.foldlM_eq_ok_iff (h : Collects make Compatible push Holds step)
    {entries : List β} {s s' : σ} (hs : Holds entries s) {items : List α} :
    items.foldlM step s = .ok s' ↔ ∃ bs, List.Forall₂ (fun a b => make a = .ok b) items bs ∧
      bs.Pairwise Compatible ∧ (∀ c ∈ entries, ∀ b ∈ bs, Compatible c b) ∧
      bs.foldl push s = s' := by
  induction items generalizing entries s with
  | nil =>
    rw [List.foldlM_nil]
    constructor
    · intro hok
      exact ⟨[], .nil, .nil, by simp, Except.ok.inj hok⟩
    · rintro ⟨bs, hbs, -, -, hfold⟩
      obtain rfl := List.forall₂_nil_left_iff.mp hbs
      rw [← hfold]
      rfl
  | cons a items ih =>
    rw [List.foldlM_cons, Checks.bind_eq_ok_iff]
    constructor
    · rintro ⟨s₁, hstep, hfold⟩
      obtain ⟨b, hb, hcompat, rfl⟩ := (h.step_eq_ok_iff hs).mp hstep
      obtain ⟨bs, hbs, hpair, hall, hfold⟩ := (ih (h.holds_push hs hcompat)).mp hfold
      refine ⟨b :: bs, .cons hb hbs, List.pairwise_cons.mpr ⟨?_, hpair⟩, ?_, hfold⟩
      · intro c hc
        exact hall b (List.mem_append_right _ (List.mem_singleton_self b)) c hc
      · intro c hc
        exact List.forall_mem_cons.mpr ⟨hcompat c hc, hall c (List.mem_append_left _ hc)⟩
    · rintro ⟨bs, hbs, hpair, hall, hfold⟩
      obtain ⟨b, bs, hb, htail, rfl⟩ := List.forall₂_cons_left_iff.mp hbs
      have hcompat : ∀ c ∈ entries, Compatible c b := fun c hc => hall c hc b List.mem_cons_self
      refine ⟨push s b, (h.step_eq_ok_iff hs).mpr ⟨b, hb, hcompat, rfl⟩, ?_⟩
      refine (ih (h.holds_push hs hcompat)).mpr ⟨bs, htail, hpair.of_cons, ?_, hfold⟩
      intro c hc b' hb'
      rcases List.mem_append.mp hc with hc | hc
      · exact hall c hc b' (List.mem_cons_of_mem _ hb')
      · rw [List.mem_singleton.mp hc]
        exact (List.pairwise_cons.mp hpair).1 b' hb'

/-- The state after a loop holds the entries of all items. -/
theorem Collects.holds_foldl (h : Collects make Compatible push Holds step) {entries bs : List β}
    {s : σ} (hs : Holds entries s) (hpair : bs.Pairwise Compatible)
    (hall : ∀ c ∈ entries, ∀ b ∈ bs, Compatible c b) : Holds (entries ++ bs) (bs.foldl push s) := by
  induction bs generalizing entries s with
  | nil => rwa [List.append_nil]
  | cons b bs ih =>
    have hcompat : ∀ c ∈ entries, Compatible c b := fun c hc => hall c hc b List.mem_cons_self
    have hholds := ih (h.holds_push hs hcompat) hpair.of_cons fun c hc b' hb' => by
      rcases List.mem_append.mp hc with hc | hc
      · exact hall c hc b' (List.mem_cons_of_mem _ hb')
      · rw [List.mem_singleton.mp hc]
        exact (List.pairwise_cons.mp hpair).1 b' hb'
    rwa [List.append_assoc] at hholds

/-- The entries of the items in another order. -/
theorem exists_perm_of_perm (hsymm : ∀ a b, Compatible a b → Compatible b a) {items items' : List α}
    (hperm : items.Perm items') {bs : List β}
    (hbs : List.Forall₂ (fun a b => make a = .ok b) items bs) (hpair : bs.Pairwise Compatible) :
    ∃ bs', List.Forall₂ (fun a b => make a = .ok b) items' bs' ∧ bs'.Pairwise Compatible ∧
      bs'.Perm bs := by
  obtain ⟨bs', hbs', hperm'⟩ := List.perm_comp_forall₂ hperm.symm hbs
  exact ⟨bs', hbs', (hperm'.pairwise_iff fun {a b} => hsymm a b).mpr hpair, hperm'⟩

end ConflictChecks
