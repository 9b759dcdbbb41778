import Mathlib.Data.Prod.Lex
import WatershedDelineation.General.Binary64
import WatershedDelineation.General.Comparison
import WatershedDelineation.General.MinBy
import WatershedDelineation.Reader.CatchmentTable
import WatershedDelineation.Reader.SnapQueries

/-!
# Ranking of candidates

The orders of `resolver.rs`: snap targets by weight, stem role, distance and id, and catchments that
hold the outlet by upstream area, area and id. Both compare a key of integers lexicographically
(`vectorDominanceOrder_eq`, `pipOrder_eq`), in which the id comes last.

So candidates with distinct ids have distinct keys, and the best one does not depend on their order
(`selected_perm`).
-/

namespace WatershedDelineation

open MinBy Comparison

/-- The position in the total order of bit patterns. -/
def F64.totalKey (x : F64) : ℤ := Binary64.totalKey x.bits

/-- The total order of bit patterns. -/
def F64.totalCmp (x y : F64) : Ordering := compare x.totalKey y.totalKey

/-- The order of values; a NaN is not comparable. -/
def F64.le (x y : F64) : Bool := Binary64.le x.bits y.bits

def F64.add (x y : F64) : F64 := ⟨Binary64.add x.bits y.bits⟩

/-- A position, in degrees. -/
structure GeoCoord where
  lon : F64
  lat : F64
  deriving DecidableEq, Repr

/-! ### Snap targets -/

/-- Snap-target ranking strategy for outlet resolution. -/
inductive SnapStrategy
  /-- Prefer the nearest candidate, and weight and mainstem only within a tolerance. -/
  | distanceFirst
  /-- Prefer the highest weight. -/
  | weightFirst
  deriving DecidableEq, Repr

/-- Scored snap candidate after distance computation. -/
structure ScoredCandidate where
  target : SnapTarget
  distanceM : F64
  nearestCoord : GeoCoord
  deriving DecidableEq, Repr

/-- The role of the mainstem. -/
def StemRole.mainstem : StemRole := ⟨"mainstem"⟩

def mainstemRank (role : Option StemRole) : ℕ := if role = some StemRole.mainstem then 1 else 0

/-- The order of candidates: higher weight, mainstem, distance where it is included, and lower
id. -/
def vectorDominanceOrder (includeDistance : Bool) (a b : ScoredCandidate) : Ordering :=
  (F32.totalCmp b.target.weight.value a.target.weight.value).then
    ((compare (mainstemRank b.target.stemRole) (mainstemRank a.target.stemRole)).then
      ((if includeDistance then F64.totalCmp a.distanceM b.distanceM else .eq).then
        (compare a.target.id.raw b.target.id.raw)))

/-- A strategy, and the tolerance of distances under the one that puts them first. -/
structure ConfiguredVectorCandidateRanker where
  strategy : SnapStrategy
  distanceToleranceM : F64
  deriving DecidableEq, Repr

namespace ConfiguredVectorCandidateRanker

variable (ranker : ConfiguredVectorCandidateRanker)

/-- The first candidate in the dominance order, and its index. -/
def dominant (includeDistance : Bool) (candidates : List (ScoredCandidate × ℕ)) : Option ℕ :=
  (minBy (fun a b => vectorDominanceOrder includeDistance a.1 b.1) candidates).map Prod.snd

/-- The index of the best candidate. -/
def rank (candidates : List ScoredCandidate) : Option ℕ :=
  match ranker.strategy with
  | .distanceFirst => do
    let minimum ← minBy F64.totalCmp (candidates.map ScoredCandidate.distanceM)
    let limit := F64.add minimum ranker.distanceToleranceM
    dominant false (candidates.zipIdx.filter fun candidate => candidate.1.distanceM.le limit)
  | .weightFirst => dominant true candidates.zipIdx

/-- The best candidate. -/
def selected (candidates : List ScoredCandidate) : Option ScoredCandidate :=
  (ranker.rank candidates).bind (candidates[·]?)

end ConfiguredVectorCandidateRanker

/-! ### Catchments that hold the outlet -/

/-- The reason a tie was broken when multiple catchments contain the outlet. -/
inductive PipTieBreak
  /-- The catchment with the highest total upstream drainage area was chosen. -/
  | highestUpstreamArea
  /-- The catchment with the highest local area was chosen. -/
  | highestLocalArea
  /-- All area metrics were equal; the lowest unit id was chosen. -/
  | lowestUnitId
  deriving DecidableEq, Repr

/-- The order of upstream areas: higher first, and the missing ones last. -/
def upstreamOrder : Option AreaKm2 → Option AreaKm2 → Ordering
  | some x, some y => F32.totalCmp y.value x.value
  | some _, none => .lt
  | none, some _ => .gt
  | none, none => .eq

/-- The cascade of criteria. -/
def pipOrder (a b : CatchmentUnit) : Ordering :=
  (upstreamOrder a.upstreamArea b.upstreamArea).then
    ((F32.totalCmp b.area.value a.area.value).then (compare a.id.raw b.id.raw))

/-- Whether upstream areas are equal, as values. -/
def upstreamEq : Option AreaKm2 → Option AreaKm2 → Bool
  | some x, some y => x.value.eq y.value
  | none, none => true
  | _, _ => false

/-- Which rule broke the tie between the two first catchments. -/
def tieBreak (a b : CatchmentUnit) : PipTieBreak :=
  if !upstreamEq a.upstreamArea b.upstreamArea then .highestUpstreamArea
  else if F32.totalCmp a.area.value b.area.value ≠ .eq then .highestLocalArea
  else .lowestUnitId

/-- The best of the catchments that hold the outlet, and what broke the tie. -/
def pipCascade (hits : List CatchmentUnit) : Option (CatchmentUnit × Option PipTieBreak) :=
  match hits with
  | [] => none
  | [winner] => some (winner, none)
  | _ => match sortBy pipOrder hits with
    | a :: b :: _ => some (a, some (tieBreak a b))
    | _ => none

/-! ### Orders and keys -/

section Keys

private theorem compare_neg (x y : ℤ) : compare (-x) (-y) = compare y x := by
  simp only [compare, compareOfLessAndEq, neg_lt_neg_iff, neg_inj, eq_comm]

private theorem compare_toLex {α β : Type} [Ord α] [Ord β] (a a' : α) (b b' : β) :
    compare (toLex (a, b)) (toLex (a', b')) = (compare a a').then (compare b b') := by
  rw [Prod.Lex.compare_def]
  rfl

/-- What the dominance order compares. -/
def vectorKey (includeDistance : Bool) (c : ScoredCandidate) : ℤ ×ₗ ℤ ×ₗ ℤ ×ₗ ℤ :=
  toLex (-c.target.weight.value.totalKey, toLex (-(mainstemRank c.target.stemRole : ℤ),
    toLex (if includeDistance then c.distanceM.totalKey else 0, c.target.id.raw)))

theorem vectorDominanceOrder_eq (includeDistance : Bool) (a b : ScoredCandidate) :
    vectorDominanceOrder includeDistance a b
      = compare (vectorKey includeDistance a) (vectorKey includeDistance b) := by
  have hrank : ∀ m n : ℕ, compare (n : ℤ) m = compare n m := by
    intro m n
    simp only [compare, compareOfLessAndEq, Nat.cast_lt, Nat.cast_inj]
  rw [vectorKey, vectorKey, compare_toLex, compare_toLex, compare_toLex, compare_neg, compare_neg,
    hrank]
  cases includeDistance
  · rfl
  · rfl

theorem vectorDominanceOrder_eq_gt_iff (includeDistance : Bool) (a b : ScoredCandidate) :
    vectorDominanceOrder includeDistance a b = .gt ↔
      vectorKey includeDistance b < vectorKey includeDistance a := by
  rw [vectorDominanceOrder_eq, compare_gt_iff_gt]

theorem id_eq_of_vectorKey {includeDistance : Bool} {a b : ScoredCandidate}
    (h : vectorKey includeDistance a = vectorKey includeDistance b) :
    a.target.id = b.target.id := by
  simp only [vectorKey, EmbeddingLike.apply_eq_iff_eq, Prod.mk.injEq] at h
  cases ha : a.target.id
  cases hb : b.target.id
  simp_all

/-- What the cascade compares. -/
def pipKey (unit : CatchmentUnit) : ℤ ×ₗ ℤ ×ₗ ℤ ×ₗ ℤ :=
  toLex (if unit.upstreamArea.isSome then 0 else 1,
    toLex (-(unit.upstreamArea.elim 0 fun area => area.value.totalKey),
      toLex (-unit.area.value.totalKey, unit.id.raw)))

theorem pipOrder_eq (a b : CatchmentUnit) : pipOrder a b = compare (pipKey a) (pipKey b) := by
  rw [pipKey, pipKey, compare_toLex, compare_toLex, compare_toLex, compare_neg, compare_neg,
    ← Ordering.then_assoc, pipOrder]
  congr 1
  cases a.upstreamArea <;> cases b.upstreamArea <;> rfl

theorem id_eq_of_pipKey {a b : CatchmentUnit} (h : pipKey a = pipKey b) : a.id = b.id := by
  simp only [pipKey, EmbeddingLike.apply_eq_iff_eq, Prod.mk.injEq] at h
  cases ha : a.id
  cases hb : b.id
  simp_all

instance : Std.TransCmp pipOrder := by
  have heq : pipOrder = compareOn pipKey := funext₂ pipOrder_eq
  rw [heq]
  infer_instance

theorem F64.totalCmp_eq_gt_iff (x y : F64) : F64.totalCmp x y = .gt ↔ y.totalKey < x.totalKey := by
  rw [F64.totalCmp, compare_gt_iff_gt]

theorem F64.totalKey_injective : Function.Injective F64.totalKey := by
  intro x y h
  cases x
  cases y
  exact congrArg F64.mk (Binary64.totalKey_injective h)

end Keys

/-! ### The best candidate -/

namespace ConfiguredVectorCandidateRanker

variable {ranker : ConfiguredVectorCandidateRanker} {candidates candidates' : List ScoredCandidate}
  {winner : ScoredCandidate}

/-- The candidate at the dominant index is the dominant candidate. -/
theorem dominant_bind (includeDistance : Bool) (p : ScoredCandidate → Bool)
    (candidates : List ScoredCandidate) :
    (dominant includeDistance (candidates.zipIdx.filter fun candidate => p candidate.1)).bind
        (candidates[·]?)
      = minBy (vectorDominanceOrder includeDistance) (candidates.filter p) := by
  have hfilter : candidates.filter p
      = (candidates.zipIdx.filter fun candidate => p candidate.1).map Prod.fst := by
    conv_lhs => rw [← List.zipIdx_map_fst 0 candidates]
    exact List.filter_map
  rw [hfilter, minBy_map, dominant]
  cases hmin : minBy (fun a b => vectorDominanceOrder includeDistance a.1 b.1)
      (candidates.zipIdx.filter fun candidate => p candidate.1) with
  | none => rfl
  | some best =>
    obtain ⟨c, i⟩ := best
    have hcmp : ∀ a b : ScoredCandidate × ℕ, vectorDominanceOrder includeDistance a.1 b.1 = .gt ↔
        vectorKey includeDistance b.1 < vectorKey includeDistance a.1 :=
      fun a b => vectorDominanceOrder_eq_gt_iff includeDistance a.1 b.1
    have hmem : (c, i) ∈ candidates.zipIdx := List.mem_of_mem_filter (minBy_spec hcmp hmin).1
    exact List.mem_zipIdx_iff_getElem?.mp hmem

/-- The candidates among which the best one is chosen: under the strategy that puts distances first,
those within the tolerance of the least distance. -/
def band (ranker : ConfiguredVectorCandidateRanker) (candidates : List ScoredCandidate) :
    List ScoredCandidate :=
  match ranker.strategy with
  | .distanceFirst =>
    match minBy F64.totalCmp (candidates.map ScoredCandidate.distanceM) with
    | none => []
    | some minimum => candidates.filter fun candidate =>
        candidate.distanceM.le (minimum.add ranker.distanceToleranceM)
  | .weightFirst => candidates

theorem selected_eq (ranker : ConfiguredVectorCandidateRanker) (candidates : List ScoredCandidate) :
    ranker.selected candidates
      = minBy (vectorDominanceOrder (ranker.strategy = .weightFirst)) (ranker.band candidates) := by
  rw [selected, rank, band]
  cases ranker.strategy with
  | distanceFirst =>
    cases minBy F64.totalCmp (candidates.map ScoredCandidate.distanceM) with
    | none => rfl
    | some minimum =>
      exact dominant_bind false
        (fun candidate => candidate.distanceM.le (minimum.add ranker.distanceToleranceM)) candidates
  | weightFirst =>
    have hall := dominant_bind true (fun _ => true) candidates
    rwa [List.filter_true, List.filter_true] at hall

/-- A band does not depend on the order. -/
theorem band_perm (h : candidates.Perm candidates') :
    (ranker.band candidates).Perm (ranker.band candidates') := by
  have hminimum : minBy F64.totalCmp (candidates.map ScoredCandidate.distanceM)
      = minBy F64.totalCmp (candidates'.map ScoredCandidate.distanceM) :=
    minBy_eq_of_perm F64.totalCmp_eq_gt_iff (fun _ _ _ _ => @F64.totalKey_injective _ _)
      (h.map _)
  rw [band, band, hminimum]
  cases ranker.strategy with
  | distanceFirst =>
    cases minBy F64.totalCmp (candidates'.map ScoredCandidate.distanceM) with
    | none => rfl
    | some minimum => exact h.filter _
  | weightFirst => exact h

theorem band_subset {c : ScoredCandidate} (h : c ∈ ranker.band candidates) : c ∈ candidates := by
  rw [band] at h
  cases hs : ranker.strategy with
  | distanceFirst =>
    rw [hs] at h
    cases hmin : minBy F64.totalCmp (candidates.map ScoredCandidate.distanceM) with
    | none => simp [hmin] at h
    | some minimum =>
      simp only [hmin] at h
      exact List.mem_of_mem_filter h
  | weightFirst => rwa [hs] at h

/-- **The best candidate** does not depend on the order of candidates with distinct ids. -/
theorem selected_perm (hnodup : (candidates.map (·.target.id)).Nodup)
    (h : candidates.Perm candidates') :
    ranker.selected candidates = ranker.selected candidates' := by
  rw [selected_eq, selected_eq]
  refine minBy_eq_of_perm (vectorDominanceOrder_eq_gt_iff _) (fun a ha b hb hab => ?_) (band_perm h)
  exact List.inj_on_of_nodup_map hnodup (band_subset ha) (band_subset hb) (id_eq_of_vectorKey hab)

/-- The best candidate is one of the band, and none of the band beats it. -/
theorem selected_spec (h : ranker.selected candidates = some winner) :
    winner ∈ ranker.band candidates ∧ ∀ c ∈ ranker.band candidates,
      vectorDominanceOrder (ranker.strategy = .weightFirst) winner c ≠ .gt := by
  rw [selected_eq] at h
  obtain ⟨hmem, hle⟩ := minBy_spec (vectorDominanceOrder_eq_gt_iff _) h
  refine ⟨hmem, fun c hc hgt => ?_⟩
  exact absurd ((vectorDominanceOrder_eq_gt_iff _ _ _).mp hgt) (not_lt.mpr (hle c hc))

/-- Under the strategy that puts distances first, the best candidate is within the tolerance of the
least distance, and no candidate within it beats the best one on the other criteria. -/
theorem selected_distanceFirst {tolerance : F64}
    (h : selected ⟨.distanceFirst, tolerance⟩ candidates = some winner) :
    ∃ minimum, minimum ∈ candidates.map ScoredCandidate.distanceM ∧
      (∀ c ∈ candidates, F64.totalCmp minimum c.distanceM ≠ .gt) ∧
      winner ∈ candidates ∧ winner.distanceM.le (minimum.add tolerance) ∧
      ∀ c ∈ candidates, c.distanceM.le (minimum.add tolerance) →
        vectorDominanceOrder false winner c ≠ .gt := by
  obtain ⟨hmem, hbest⟩ := selected_spec h
  rw [band] at hmem hbest
  cases hmin : minBy F64.totalCmp (candidates.map ScoredCandidate.distanceM) with
  | none => simp [hmin] at hmem
  | some minimum =>
    simp only [hmin] at hmem hbest
    obtain ⟨hminimum, hleast⟩ := minBy_spec F64.totalCmp_eq_gt_iff hmin
    obtain ⟨hwinner, hwithin⟩ := List.mem_filter.mp hmem
    refine ⟨minimum, hminimum, fun c hc hgt => ?_, hwinner, hwithin, fun c hc hle => ?_⟩
    · exact absurd ((F64.totalCmp_eq_gt_iff _ _).mp hgt)
        (not_lt.mpr (hleast _ (List.mem_map_of_mem hc)))
    · exact hbest c (List.mem_filter.mpr ⟨hc, hle⟩)

end ConfiguredVectorCandidateRanker

end WatershedDelineation
