import Mathlib.Data.List.Forall2
import Mathlib.Tactic.Common

/-!
# Sequences of checks

Validation code is a sequence of early returns. These lemmas read the success of such a
sequence off as a conjunction: `bind_eq_ok_iff` for two steps, `forM_eq_ok_iff` for a loop,
`ite_error_eq_ok_iff` and `okOr_eq_ok_iff` for one guard.
-/

namespace Checks

universe u v

variable {ε : Type u} {α β : Type v}

theorem ok_bind {a : α} {f : α → Except ε β} : (Except.ok a >>= f) = f a := rfl

theorem bind_eq_ok_iff {x : Except ε α} {f : α → Except ε β} {b : β} :
    (x >>= f) = .ok b ↔ ∃ a, x = .ok a ∧ f a = .ok b := by
  cases x with
  | error e => exact ⟨fun h => (by cases h), fun ⟨_, h, _⟩ => (by cases h)⟩
  | ok a => exact ⟨fun h => ⟨a, rfl, h⟩, fun ⟨_, h, hf⟩ => Except.ok.inj h ▸ hf⟩

theorem bind_eq_error_iff {x : Except ε α} {f : α → Except ε β} {e : ε} :
    (x >>= f) = .error e ↔ x = .error e ∨ ∃ a, x = .ok a ∧ f a = .error e := by
  cases x with
  | error e' =>
    refine ⟨fun h => .inl (congrArg Except.error (Except.error.inj h)), ?_⟩
    rintro (h | ⟨_, h, _⟩)
    · exact congrArg Except.error (Except.error.inj h)
    · cases h
  | ok a =>
    refine ⟨fun h => .inr ⟨a, rfl, h⟩, ?_⟩
    rintro (h | ⟨_, h, hf⟩)
    · cases h
    · exact Except.ok.inj h ▸ hf

theorem map_eq_ok_iff {x : Except ε α} {f : α → β} {b : β} :
    x.map f = .ok b ↔ ∃ a, x = .ok a ∧ f a = b := by
  cases x <;> simp [Except.map]

theorem map_eq_error_iff {x : Except ε α} {f : α → β} {e : ε} :
    x.map f = .error e ↔ x = .error e := by
  cases x <;> simp [Except.map]

theorem mapError_eq_ok_iff {ε' : Type u} {x : Except ε α} {f : ε → ε'} {a : α} :
    x.mapError f = .ok a ↔ x = .ok a := by
  cases x <;> simp [Except.mapError]

theorem mapError_eq_error_iff {ε' : Type u} {x : Except ε α} {f : ε → ε'} {e : ε'} :
    x.mapError f = .error e ↔ ∃ e', x = .error e' ∧ f e' = e := by
  cases x <;> simp [Except.mapError]

theorem toOption_eq_some_iff {x : Except ε α} {a : α} : x.toOption = some a ↔ x = .ok a := by
  cases x <;> simp [Except.toOption]

theorem forM_eq_ok_iff {α : Type*} {ε : Type} {l : List α} {f : α → Except ε Unit}
    {b : Unit} : l.forM f = .ok b ↔ ∀ a ∈ l, f a = .ok () := by
  induction l with
  | nil => exact ⟨fun _ a ha => absurd ha List.not_mem_nil, fun _ => rfl⟩
  | cons a l ih =>
    change (f a >>= fun _ => l.forM f) = .ok b ↔ _
    rw [bind_eq_ok_iff]
    simp only [ih, List.mem_cons, forall_eq_or_imp]
    exact ⟨fun ⟨_, h, hl⟩ => ⟨h, hl⟩, fun ⟨h, hl⟩ => ⟨(), h, hl⟩⟩

/-- A loop that collects results. -/
theorem mapM_eq_ok_iff {α β ε : Type} {l : List α} {f : α → Except ε β} {l' : List β} :
    l.mapM f = .ok l' ↔ List.Forall₂ (fun a b => f a = .ok b) l l' := by
  induction l generalizing l' with
  | nil =>
    rw [List.mapM_nil, List.forall₂_nil_left_iff]
    exact ⟨fun h => (Except.ok.inj h).symm, fun h => h ▸ rfl⟩
  | cons a l ih =>
    rw [List.mapM_cons, bind_eq_ok_iff, List.forall₂_cons_left_iff]
    refine exists_congr fun b => ?_
    rw [bind_eq_ok_iff]
    constructor
    · rintro ⟨hb, bs, hbs, h⟩
      exact ⟨bs, hb, ih.mp hbs, (Except.ok.inj h).symm⟩
    · rintro ⟨bs, hb, hbs, rfl⟩
      exact ⟨hb, bs, ih.mpr hbs, rfl⟩

/-- The error of a loop is that of one of its steps. -/
theorem exists_of_mapM_eq_error {α β ε : Type} {l : List α} {f : α → Except ε β} {e : ε}
    (h : l.mapM f = .error e) : ∃ a ∈ l, f a = .error e := by
  induction l with
  | nil => cases h
  | cons a l ih =>
    rw [List.mapM_cons, bind_eq_error_iff] at h
    obtain h | ⟨b, -, h⟩ := h
    · exact ⟨a, List.mem_cons_self, h⟩
    rw [bind_eq_error_iff] at h
    obtain h | ⟨bs, -, h⟩ := h
    · obtain ⟨a', ha', h⟩ := ih h
      exact ⟨a', List.mem_cons_of_mem _ ha', h⟩
    · cases h

/-- A loop whose body gives `g a` whenever it gives anything. -/
theorem eq_map_of_mapM {α β ε : Type} {l : List α} {f : α → Except ε β} {l' : List β} {g : α → β}
    (h : l.mapM f = .ok l') (hg : ∀ a b, f a = .ok b → b = g a) : l' = l.map g := by
  rw [mapM_eq_ok_iff] at h
  induction h with
  | nil => rfl
  | cons hab _ ih => rw [List.map_cons, hg _ _ hab, ih]

/-- A loop whose body succeeds on valid elements. -/
theorem mapM_eq_ok_iff_map {α β ε : Type} {l : List α} {f : α → Except ε β} {l' : List β}
    {p : α → Prop} {g : α → β} (hf : ∀ a b, f a = .ok b ↔ p a ∧ b = g a) :
    l.mapM f = .ok l' ↔ (∀ a ∈ l, p a) ∧ l' = l.map g := by
  rw [mapM_eq_ok_iff]
  constructor
  · intro h
    induction h with
    | nil => exact ⟨fun a ha => absurd ha List.not_mem_nil, rfl⟩
    | cons hab _ ih =>
      obtain ⟨hvalid, rfl⟩ := (hf _ _).mp hab
      exact ⟨List.forall_mem_cons.mpr ⟨hvalid, ih.1⟩, by rw [ih.2, List.map_cons]⟩
  · rintro ⟨hvalid, rfl⟩
    rw [List.forall₂_map_right_iff, List.forall₂_same]
    exact fun a ha => (hf _ _).mpr ⟨hvalid a ha, rfl⟩

theorem mapM_eq_ok {α β ε : Type} {l : List α} {f : α → Except ε β} {g : α → β}
    (h : ∀ a ∈ l, f a = .ok (g a)) : l.mapM f = .ok (l.map g) := by
  rw [mapM_eq_ok_iff, List.forall₂_map_right_iff, List.forall₂_same]
  exact h

/-- A loop of steps without an error to tell. -/
theorem mapM_eq_some {α β : Type} {l : List α} {f : α → Option β} {g : α → β}
    (h : ∀ a ∈ l, f a = some (g a)) : l.mapM f = some (l.map g) := by
  induction l with
  | nil => rfl
  | cons a l ih =>
    obtain ⟨ha, hl⟩ := List.forall_mem_cons.mp h
    rw [List.mapM_cons, ha, ih hl]
    rfl

/-- The error of a loop is that of the first step that fails. -/
theorem foldlM_eq_error_iff {α β ε : Type} {l : List α} {f : β → α → Except ε β} {b : β} {e : ε} :
    l.foldlM f b = .error e ↔ ∃ before a after b', l = before ++ a :: after ∧
      before.foldlM f b = .ok b' ∧ f b' a = .error e := by
  induction l generalizing b with
  | nil =>
    refine iff_of_false (fun h => by cases h) ?_
    rintro ⟨before, a, after, b', hnil, -⟩
    simp at hnil
  | cons a l ih =>
    rw [List.foldlM_cons, bind_eq_error_iff]
    constructor
    · rintro (h | ⟨b₁, hb₁, h⟩)
      · exact ⟨[], a, l, b, rfl, rfl, h⟩
      · obtain ⟨before, a', after, b', rfl, hbefore, herror⟩ := ih.mp h
        refine ⟨a :: before, a', after, b', rfl, ?_, herror⟩
        rw [List.foldlM_cons, hb₁]
        exact hbefore
    · rintro ⟨before, a', after, b', hsplit, hbefore, herror⟩
      cases before with
      | nil =>
        obtain ⟨rfl, rfl⟩ := List.cons.inj hsplit
        obtain rfl := Except.ok.inj hbefore
        exact .inl herror
      | cons a₀ before =>
        obtain ⟨rfl, rfl⟩ := List.cons.inj hsplit
        rw [List.foldlM_cons, bind_eq_ok_iff] at hbefore
        obtain ⟨b₁, hb₁, hbefore⟩ := hbefore
        exact .inr ⟨b₁, hb₁, ih.mpr ⟨before, a', after, b', rfl, hbefore, herror⟩⟩

/-- The same for a loop over numbers. -/
theorem foldlM_range_eq_error_iff {β ε : Type} {n : ℕ} {f : β → ℕ → Except ε β} {b : β} {e : ε} :
    (List.range n).foldlM f b = .error e ↔
      ∃ i < n, ∃ b', (List.range i).foldlM f b = .ok b' ∧ f b' i = .error e := by
  induction n with
  | zero => exact iff_of_false (fun h => by cases h) fun ⟨_, h, _⟩ => absurd h (Nat.not_lt_zero _)
  | succ n ih =>
    rw [List.range_succ, List.foldlM_append, bind_eq_error_iff, ih]
    simp only [List.foldlM_cons, List.foldlM_nil, bind_pure]
    constructor
    · rintro (⟨i, hi, h⟩ | h)
      · exact ⟨i, Nat.lt_succ_of_lt hi, h⟩
      · exact ⟨n, n.lt_succ_self, h⟩
    · rintro ⟨i, hi, h⟩
      obtain hi | rfl := Nat.lt_succ_iff_lt_or_eq.mp hi
      · exact .inl ⟨i, hi, h⟩
      · exact .inr h

/-- A loop over numbers whose state after `i` steps is `g i`. -/
theorem foldlM_range_eq_ok_iff {β ε : Type} {n : ℕ} {f : β → ℕ → Except ε β} {b : β} {p : ℕ → Prop}
    {g : ℕ → β} (hf : ∀ i b, f (g i) i = .ok b ↔ p i ∧ b = g (i + 1)) :
    (List.range n).foldlM f (g 0) = .ok b ↔ (∀ i < n, p i) ∧ b = g n := by
  induction n generalizing b with
  | zero =>
    refine ⟨fun h => ⟨fun i hi => absurd hi i.not_lt_zero, (Except.ok.inj h).symm⟩, ?_⟩
    rintro ⟨-, rfl⟩
    rfl
  | succ n ih =>
    rw [List.range_succ, List.foldlM_append, bind_eq_ok_iff]
    simp only [ih, List.foldlM_cons, List.foldlM_nil, bind_pure, Nat.forall_lt_succ_right]
    constructor
    · rintro ⟨_, ⟨hp, rfl⟩, h⟩
      obtain ⟨hn, rfl⟩ := (hf n b).mp h
      exact ⟨⟨hp, hn⟩, rfl⟩
    · rintro ⟨⟨hp, hn⟩, rfl⟩
      exact ⟨g n, ⟨hp, rfl⟩, (hf n _).mpr ⟨hn, rfl⟩⟩

/-- Where not all elements have a property, there is a first one without it. -/
theorem exists_first_not {α : Type*} {p : α → Prop} {l : List α} (h : ¬∀ a ∈ l, p a) :
    ∃ before a after, l = before ++ a :: after ∧ (∀ b ∈ before, p b) ∧ ¬p a := by
  induction l with
  | nil => exact absurd (fun a ha => absurd ha List.not_mem_nil) h
  | cons a l ih =>
    by_cases ha : p a
    · obtain ⟨before, b, after, rfl, hbefore, hb⟩ := ih fun hl =>
        h (List.forall_mem_cons.mpr ⟨ha, hl⟩)
      exact ⟨a :: before, b, after, rfl, List.forall_mem_cons.mpr ⟨ha, hbefore⟩, hb⟩
    · exact ⟨[], a, l, rfl, fun b hb => absurd hb List.not_mem_nil, ha⟩

/-- The results of a loop come from its elements. -/
theorem exists_of_mem_forall₂ {α β : Type*} {R : α → β → Prop} {l : List α} {l' : List β} {b : β}
    (h : List.Forall₂ R l l') (hb : b ∈ l') : ∃ a ∈ l, R a b := by
  induction h with
  | nil => cases hb
  | @cons a b' l l' hab _ ih =>
    obtain rfl | hb := List.mem_cons.mp hb
    · exact ⟨a, List.mem_cons_self, hab⟩
    · obtain ⟨a', ha', hR⟩ := ih hb
      exact ⟨a', .tail _ ha', hR⟩

/-- Each element of a list has a result where all elements have one. -/
theorem exists_forall₂_iff {α β : Type*} {R : α → β → Prop} {l : List α} :
    (∃ l', List.Forall₂ R l l') ↔ ∀ a ∈ l, ∃ b, R a b := by
  constructor
  · rintro ⟨l', h⟩ a ha
    obtain ⟨b, -, hab⟩ := exists_of_mem_forall₂ h.flip ha
    exact ⟨b, hab⟩
  · intro h
    induction l with
    | nil => exact ⟨[], .nil⟩
    | cons a l ih =>
      obtain ⟨⟨b, hab⟩, h⟩ := List.forall_mem_cons.mp h
      obtain ⟨l', hl'⟩ := ih h
      exact ⟨b :: l', .cons hab hl'⟩

theorem exists_of_isOk {x : Except ε α} (h : x.isOk = true) : ∃ a, x = .ok a := by
  cases x with
  | error e => simp [Except.isOk, Except.toBool] at h
  | ok a => exact ⟨a, rfl⟩

/-- A guard that returns an error when `p` holds. -/
theorem ite_error_eq_ok_iff {p : Prop} [Decidable p] {e : ε} {x : Except ε α} {a : α} :
    (if p then .error e else x) = .ok a ↔ ¬p ∧ x = .ok a := by
  split_ifs with h <;> simp [h]

/-- The value of a look-up, or the error `e` when there is none. -/
def okOr (o : Option α) (e : ε) : Except ε α :=
  match o with
  | none => .error e
  | some a => .ok a

theorem okOr_eq_ok_iff {o : Option α} {e : ε} {a : α} : okOr o e = .ok a ↔ o = some a := by
  cases o <;> simp [okOr]

theorem okOr_eq_error_iff {o : Option α} {e e' : ε} :
    okOr o e = .error e' ↔ o = none ∧ e = e' := by
  cases o <;> simp [okOr]

/-- The first element of a list of results is the result of the first element. -/
theorem find?_of_mapM {α β ε : Type} {l : List α} {f : α → Except ε β} {l' : List β} {p : α → Bool}
    {q : β → Bool} {a : α} (h : l.mapM f = .ok l') (hpq : ∀ a b, f a = .ok b → p a = q b)
    (ha : l.find? p = some a) : ∃ b, f a = .ok b ∧ l'.find? q = some b := by
  rw [mapM_eq_ok_iff] at h
  induction h with
  | nil => cases ha
  | @cons a' b' _ _ hab _ ih =>
    rw [List.find?_cons] at ha ⊢
    rw [← hpq a' b' hab]
    cases hp : p a' with
    | true =>
      rw [hp] at ha
      exact ⟨b', Option.some.inj ha ▸ hab, rfl⟩
    | false =>
      rw [hp] at ha
      exact ih ha

/-- Collecting a list of values that are all there. -/
theorem mapM_okOr_map_some {α ε : Type} (l : List α) (e : ε) :
    (l.map some).mapM (fun o => okOr o e) = .ok l := by
  rw [List.mapM_map]
  exact (mapM_eq_ok fun _ _ => rfl).trans (congrArg Except.ok (List.map_id l))

end Checks
