import WatershedDelineation.Resolver.Ranking

/-!
# The cascade of catchments that hold the outlet

Catchments with distinct ids are sorted strictly, so their order does not matter
(`pipCascade_perm`), and the cascade selects the one that comes before all others
(`pipCascade_spec`).

The tie-break is recomputed after sorting, with the equality of values for the upstream areas. It is
the first criterion that separates the two first catchments exactly when these areas are not zeros
of different signs and not one NaN (`tieBreak_eq_iff`).
-/

namespace WatershedDelineation

open Comparison

variable {hits hits' : List CatchmentUnit} {a b a' b' : CatchmentUnit}

/-- The first criterion that separates two catchments. -/
def firstSeparating (a b : CatchmentUnit) : PipTieBreak :=
  if upstreamOrder a.upstreamArea b.upstreamArea ≠ .eq then .highestUpstreamArea
  else if F32.totalCmp a.area.value b.area.value ≠ .eq then .highestLocalArea
  else .lowestUnitId

/-- Upstream areas that are equal as values but not in their order, or the other way round: zeros of
different signs, or one NaN. -/
def Misread : Option AreaKm2 → Option AreaKm2 → Prop
  | some x, some y =>
    (x.value.magnitude = 0 ∧ y.value.magnitude = 0 ∧ x.value.sign ≠ y.value.sign) ∨
      (x = y ∧ x.value.isNaN)
  | _, _ => False

instance (x y : Option AreaKm2) : Decidable (Misread x y) := by
  unfold Misread
  split <;> infer_instance

/-- Where the upstream areas are not misread, their equality is that of their order. -/
theorem upstreamEq_eq_iff (x y : Option AreaKm2) :
    (upstreamEq x y = true ↔ upstreamOrder x y = .eq) ↔ ¬Misread x y := by
  match x, y with
  | none, none => simp [upstreamEq, upstreamOrder, Misread]
  | none, some _ => simp [upstreamEq, upstreamOrder, Misread]
  | some _, none => simp [upstreamEq, upstreamOrder, Misread]
  | some ⟨x⟩, some ⟨y⟩ =>
    have horder : upstreamOrder (some ⟨x⟩) (some ⟨y⟩) = .eq ↔ y = x :=
      compare_eq_iff_eq.trans F32.totalKey_injective.eq_iff
    rw [horder, upstreamEq, Misread, AreaKm2.mk.injEq]
    rcases eq_or_ne y x with rfl | hne
    · simp [F32.eq]
    · -- of different patterns, only zeros of different signs are equal
      have hzeros : x.eq y = true ↔ x.magnitude = 0 ∧ y.magnitude = 0 ∧ x.sign ≠ y.sign := by
        constructor
        · intro heq
          simp only [F32.eq, Bool.and_eq_true, decide_eq_true_eq] at heq
          have hkey := heq.2
          have htotal : x.totalKey ≠ y.totalKey := F32.totalKey_injective.ne hne.symm
          rw [F32.key, F32.key] at hkey
          rw [F32.totalKey, F32.totalKey] at htotal
          cases hx : x.sign <;> cases hy : y.sign <;> simp [hx, hy] at hkey htotal ⊢ <;> omega
        · rintro ⟨hx, hy, -⟩
          have hzero : ∀ z : F32, z.magnitude = 0 → z.isNaN = false ∧ z.key = 0 := by
            intro z hz
            rw [F32.isNaN, F32.key, hz]
            exact ⟨rfl, by simp⟩
          simp [F32.eq, hzero x hx, hzero y hy]
      simp [hzeros, hne, hne.symm]

theorem tieBreak_eq_iff (a b : CatchmentUnit) :
    tieBreak a b = firstSeparating a b ↔ ¬Misread a.upstreamArea b.upstreamArea := by
  rw [← upstreamEq_eq_iff, tieBreak, firstSeparating]
  cases upstreamEq a.upstreamArea b.upstreamArea <;>
    by_cases horder : upstreamOrder a.upstreamArea b.upstreamArea = .eq <;>
    by_cases harea : F32.totalCmp a.area.value b.area.value = .eq <;> simp [horder, harea]

/-- The two first catchments in the order of the cascade. -/
structure TopTwo (hits : List CatchmentUnit) (a b : CatchmentUnit) : Prop where
  mem_fst : a ∈ hits
  mem_snd : b ∈ hits
  lt : pipOrder a b = .lt
  rest : ∀ c ∈ hits, c = a ∨ c = b ∨ pipOrder b c = .lt

theorem pipOrder_eq_lt_iff : pipOrder a b = .lt ↔ pipKey a < pipKey b := by
  rw [pipOrder_eq, compare_lt_iff_lt]

/-- The first of the two comes before all others. -/
theorem TopTwo.first (h : TopTwo hits a b) {c : CatchmentUnit} (hc : c ∈ hits) :
    c = a ∨ pipKey a < pipKey c := by
  have hlt := pipOrder_eq_lt_iff.mp h.lt
  rcases h.rest c hc with rfl | rfl | hbc
  · exact .inl rfl
  · exact .inr hlt
  · exact .inr (hlt.trans (pipOrder_eq_lt_iff.mp hbc))

/-- There are not two pairs of first catchments. -/
theorem TopTwo.unique (h : TopTwo hits a b) (h' : TopTwo hits a' b') : a = a' ∧ b = b' := by
  have ha : a = a' := by
    rcases h.first h'.mem_fst with ha | hlt
    · exact ha.symm
    rcases h'.first h.mem_fst with ha | hlt'
    · exact ha
    · exact absurd hlt hlt'.asymm
  subst ha
  refine ⟨rfl, ?_⟩
  -- neither second is the first, so each comes before the other unless they are the same
  have hsecond : ∀ {x y : CatchmentUnit}, TopTwo hits a x → TopTwo hits a y →
      x = y ∨ pipKey y < pipKey x := by
    intro x y hx hy
    rcases hy.rest x hx.mem_snd with rfl | hxy | hlt
    · exact absurd (pipOrder_eq_lt_iff.mp hx.lt) (lt_irrefl _)
    · exact .inl hxy
    · exact .inr (pipOrder_eq_lt_iff.mp hlt)
  rcases hsecond h h' with hb | hlt
  · exact hb
  rcases hsecond h' h with hb | hlt'
  · exact hb.symm
  · exact absurd hlt hlt'.asymm

theorem pipCascade_eq (hits : List CatchmentUnit) :
    pipCascade hits = match sortBy pipOrder hits with
      | [] => none
      | [winner] => some (winner, none)
      | a :: b :: _ => some (a, some (tieBreak a b)) := by
  match hits with
  | [] => simp [pipCascade, sortBy]
  | [winner] => simp [pipCascade, sortBy]
  | a :: b :: rest =>
    have hlen : (sortBy pipOrder (a :: b :: rest)).length = rest.length + 2 :=
      (sortBy_perm _ _).length_eq
    simp only [pipCascade]
    match hsorted : sortBy pipOrder (a :: b :: rest) with
    | [] => simp [hsorted] at hlen
    | [_] => simp [hsorted] at hlen
    | _ :: _ :: _ => rfl

/-- The cascade selects one of the catchments. -/
theorem mem_of_pipCascade {winner : CatchmentUnit} {label : Option PipTieBreak}
    (h : pipCascade hits = some (winner, label)) : winner ∈ hits := by
  rw [pipCascade_eq] at h
  rw [← @mem_sortBy _ pipOrder]
  match hsorted : sortBy pipOrder hits with
  | [] => simp [hsorted] at h
  | [first] =>
    rw [hsorted] at h
    obtain ⟨rfl, -⟩ := Prod.mk.inj (Option.some.inj h)
    exact List.mem_cons_self
  | first :: second :: rest =>
    rw [hsorted] at h
    obtain ⟨rfl, -⟩ := Prod.mk.inj (Option.some.inj h)
    exact List.mem_cons_self

/-- **The cascade** does not depend on the order of catchments with distinct ids. -/
theorem pipCascade_perm (hnodup : (hits.map CatchmentUnit.id).Nodup) (h : hits.Perm hits') :
    pipCascade hits = pipCascade hits' := by
  have hsort : sortBy pipOrder hits = sortBy pipOrder hits' := by
    refine sortBy_eq_of_perm_of_inj h fun a ha b hb hab => ?_
    rw [pipOrder_eq, compare_eq_iff_eq] at hab
    exact List.inj_on_of_nodup_map hnodup ha hb (id_eq_of_pipKey hab)
  rw [pipCascade_eq, pipCascade_eq, hsort]

/-- Catchments with distinct ids are sorted strictly. -/
theorem pairwise_sortBy_pipOrder (hnodup : (hits.map CatchmentUnit.id).Nodup) :
    (sortBy pipOrder hits).Pairwise fun a b => pipOrder a b = .lt := by
  have hids : ((sortBy pipOrder hits).map CatchmentUnit.id).Nodup :=
    ((sortBy_perm pipOrder hits).map _).nodup_iff.mpr hnodup
  refine ((pairwise_sortBy hits).and (List.pairwise_map.mp hids)).imp fun {a b} h => ?_
  have hne : pipOrder a b ≠ .eq := by
    rw [pipOrder_eq, ne_eq, compare_eq_iff_eq]
    exact fun heq => h.2 (id_eq_of_pipKey heq)
  cases horder : pipOrder a b with
  | lt => rfl
  | eq => exact absurd horder hne
  | gt => simp [horder] at h

/-- The catchment that the cascade selects comes before all others. The label is that of the two
first catchments, and there is none for a single one. -/
theorem pipCascade_spec (hnodup : (hits.map CatchmentUnit.id).Nodup) (hne : hits ≠ []) :
    ∃ winner, winner ∈ hits ∧ (∀ c ∈ hits, c = winner ∨ pipOrder winner c = .lt) ∧
      ((hits = [winner] ∧ pipCascade hits = some (winner, none)) ∨
        ∃ b, TopTwo hits winner b ∧ pipCascade hits = some (winner, some (tieBreak winner b))) := by
  have hpairwise := pairwise_sortBy_pipOrder hnodup
  have hperm := sortBy_perm pipOrder hits
  have hcascade := pipCascade_eq hits
  match hsorted : sortBy pipOrder hits with
  | [] =>
    rw [hsorted] at hperm
    exact absurd (List.nil_perm.mp hperm) hne
  | [winner] =>
    rw [hsorted] at hperm hcascade
    have hsingle : hits = [winner] := List.perm_singleton.mp hperm.symm
    exact ⟨winner, by simp [hsingle], by simp [hsingle], .inl ⟨hsingle, hcascade⟩⟩
  | winner :: b :: rest =>
    rw [hsorted] at hperm hcascade hpairwise
    obtain ⟨hfirst, hpairwise⟩ := List.pairwise_cons.mp hpairwise
    obtain ⟨hsecond, -⟩ := List.pairwise_cons.mp hpairwise
    have hmem : ∀ c, c ∈ hits ↔ c = winner ∨ c = b ∨ c ∈ rest := by
      intro c
      rw [← hperm.mem_iff, List.mem_cons, List.mem_cons]
    refine ⟨winner, (hmem _).mpr (.inl rfl), fun c hc => ?_, .inr ⟨b, ⟨?_, ?_, ?_, ?_⟩, hcascade⟩⟩
    · exact ((hmem c).mp hc).imp_right fun h => hfirst c (List.mem_cons.mpr h)
    · exact (hmem _).mpr (.inl rfl)
    · exact (hmem _).mpr (.inr (.inl rfl))
    · exact hfirst b List.mem_cons_self
    · exact fun c hc => ((hmem c).mp hc).imp_right fun h => h.imp_right (hsecond c)

theorem TopTwo.not_single (h : TopTwo [a'] a b) : False := by
  obtain rfl := List.mem_singleton.mp h.mem_fst
  obtain rfl := List.mem_singleton.mp h.mem_snd
  exact lt_irrefl _ (pipOrder_eq_lt_iff.mp h.lt)

/-- **The label** is the first criterion that separates the two first catchments, exactly when their
upstream areas are not misread. -/
theorem pipCascade_label_iff (hnodup : (hits.map CatchmentUnit.id).Nodup) (hne : hits ≠ []) :
    (∃ winner label, winner ∈ hits ∧ (∀ c ∈ hits, c = winner ∨ pipOrder winner c = .lt) ∧
      (∀ hits', hits.Perm hits' → pipCascade hits' = some (winner, label)) ∧
      (hits = [winner] → label = none) ∧
      ∀ b, TopTwo hits winner b → label = some (firstSeparating winner b)) ↔
    ∀ a b, TopTwo hits a b → ¬Misread a.upstreamArea b.upstreamArea := by
  obtain ⟨winner, hmem, hfirst, hcases⟩ := pipCascade_spec hnodup hne
  constructor
  · rintro ⟨winner', label, -, -, hperm, -, hlabel⟩ a b htop
    rcases hcases with ⟨rfl, -⟩ | ⟨b', htop', hcascade⟩
    · exact htop.not_single.elim
    obtain ⟨rfl, rfl⟩ := htop.unique htop'
    obtain ⟨rfl, rfl⟩ := Prod.mk.inj (Option.some.inj ((hperm hits (.refl _)).symm.trans hcascade))
    exact (tieBreak_eq_iff _ _).mp (Option.some.inj (hlabel b htop'))
  · intro hread
    rcases hcases with ⟨rfl, hcascade⟩ | ⟨b', htop', hcascade⟩
    · refine ⟨winner, none, hmem, hfirst, fun hits' h => ?_, fun _ => rfl, fun b htop => ?_⟩
      · rw [← pipCascade_perm hnodup h, hcascade]
      · exact htop.not_single.elim
    · refine ⟨winner, some (tieBreak winner b'), hmem, hfirst, fun hits' h => ?_, ?_, ?_⟩
      · rw [← pipCascade_perm hnodup h, hcascade]
      · rintro rfl
        exact htop'.not_single.elim
      · intro b htop
        obtain ⟨-, rfl⟩ := htop.unique htop'
        rw [(tieBreak_eq_iff _ _).mpr (hread _ _ htop')]

end WatershedDelineation
