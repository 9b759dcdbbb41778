import WatershedDelineation.Resolver.OutletResolution

/-!
# The order of candidates

Outlet resolution does not depend on the order of candidates with distinct ids
(`resolveSnapCandidates_perm`, `resolvePipCandidates_perm`), and so not on the stores they are found
in (`resolveViaSnapStore_perm`, `resolveViaPip_perm`). The tie-break that is reported is the
first criterion that separates the winner from the runner-up, exactly when the upstream areas of
these two are not misread (`outletResolution_orderFree`).
-/

namespace WatershedDelineation

private theorem perm_nil_iff {α : Type} {l l' : List α} (h : l.Perm l') : l = [] ↔ l' = [] :=
  ⟨fun hl => List.nil_perm.mp (hl ▸ h), fun hl => List.perm_nil.mp (hl ▸ h)⟩

private theorem map_filterMap_sublist {α β γ : Type} {f : α → Option β} {g : β → γ} {h : α → γ}
    (hf : ∀ a b, f a = some b → g b = h a) (l : List α) :
    ((l.filterMap f).map g).Sublist (l.map h) := by
  induction l with
  | nil => exact .slnil
  | cons a l ih =>
    cases hfa : f a with
    | none =>
      rw [List.filterMap_cons_none hfa, List.map_cons]
      exact ih.cons _
    | some b =>
      rw [List.filterMap_cons_some hfa, List.map_cons, List.map_cons, hf a b hfa]
      exact ih.cons_cons _

section Order

variable {G P : Type} {ctx : ResolverContext G P} {outlet : GeoCoord} {selectedLevel : Option Level}

theorem target_of_scoreTarget {radius : F64} {target : SnapTarget} {candidate : ScoredCandidate}
    (h : (scoreTarget ctx outlet selectedLevel radius target).candidate = some candidate) :
    candidate.target = target := by
  unfold scoreTarget at h
  split at h
  · cases h
  split at h
  · cases h
  split at h
  · cases h
  split at h
  · cases h
  · obtain rfl := Option.some.inj h
    rfl

/-- **Snap resolution** does not depend on the order of targets with distinct ids. -/
theorem resolveSnapCandidates_perm (config : ResolverConfig)
    {candidates candidates' : List SnapTarget}
    (hnodup : (candidates.map SnapTarget.id).Nodup) (h : candidates.Perm candidates') :
    resolveSnapCandidates ctx outlet selectedLevel config candidates
      = resolveSnapCandidates ctx outlet selectedLevel config candidates' := by
  have hscores := h.map (scoreTarget ctx outlet selectedLevel config.searchRadius.value)
  have hscored := hscores.filterMap SnapScore.candidate
  have hids : (((candidates.map (scoreTarget ctx outlet selectedLevel
      config.searchRadius.value)).filterMap SnapScore.candidate).map (·.target.id)).Nodup := by
    rw [List.filterMap_map]
    refine (map_filterMap_sublist (fun target candidate hscore => ?_) candidates).nodup hnodup
    exact congrArg SnapTarget.id (target_of_scoreTarget hscore)
  simp only [resolveSnapCandidates, perm_nil_iff h, perm_nil_iff hscored,
    ConfiguredVectorCandidateRanker.selected_perm hids hscored, hscores.count_eq, h.length_eq]

theorem pipHits_perm {decoded decoded' : List (CatchmentUnit × P)} (h : decoded.Perm decoded') :
    (pipHits ctx outlet decoded).Perm (pipHits ctx outlet decoded') := by
  have hhits := (h.filter fun candidate => ctx.contains candidate.2 outlet).map Prod.fst
  simp only [pipHits, perm_nil_iff hhits]
  split_ifs
  · exact (h.filter _).map _
  · exact hhits

theorem pipHits_sublist (decoded : List (CatchmentUnit × P)) :
    (pipHits ctx outlet decoded).Sublist (decoded.map Prod.fst) := by
  simp only [pipHits]
  split_ifs
  · exact List.filter_sublist.map _
  · exact List.filter_sublist.map _

/-- **Containment resolution** does not depend on the order of catchments with distinct ids. -/
theorem resolvePipCandidates_perm {candidates candidates' : List CatchmentUnit}
    (hnodup : (candidates.map CatchmentUnit.id).Nodup) (h : candidates.Perm candidates') :
    resolvePipCandidates ctx outlet selectedLevel candidates
      = resolvePipCandidates ctx outlet selectedLevel candidates' := by
  have hdecoded : (decodeCandidates ctx candidates).Perm (decodeCandidates ctx candidates') :=
    h.filterMap _
  have hlevel : (atLevel selectedLevel (decodeCandidates ctx candidates)).Perm
      (atLevel selectedLevel (decodeCandidates ctx candidates')) := hdecoded.filter _
  have hids : ((pipHits ctx outlet (atLevel selectedLevel (decodeCandidates ctx candidates))).map
      CatchmentUnit.id).Nodup := by
    have hall : ((decodeCandidates ctx candidates).map fun c => c.1.id).Sublist
        (candidates.map CatchmentUnit.id) := by
      refine map_filterMap_sublist (fun unit decoded hdecode => ?_) candidates
      obtain ⟨mp, -, rfl⟩ := Option.map_eq_some_iff.mp hdecode
      rfl
    have hhits := (@pipHits_sublist G P ctx outlet (atLevel selectedLevel
      (decodeCandidates ctx candidates))).map CatchmentUnit.id
    rw [List.map_map] at hhits
    exact (hhits.trans ((List.filter_sublist.map _).trans hall)).nodup hnodup
  simp only [resolvePipCandidates, perm_nil_iff h, pipCascade_perm hids (pipHits_perm hlevel),
    hdecoded.length_eq, hlevel.length_eq, h.length_eq]

/-- What two stores find for one box: the same rows with distinct ids in any order, or the same
error. -/
inductive SameRows {α ι : Type} (id : α → ι) :
    Except SessionError (List α) → Except SessionError (List α) → Prop
  | found {rows rows' : List α} (nodup : (rows.map id).Nodup) (perm : rows.Perm rows') :
    SameRows id (.ok rows) (.ok rows')
  | failed (e : SessionError) : SameRows id (.error e) (.error e)

/-- Such rows lead to the same result if their order does not matter. -/
theorem SameRows.bind_eq {α ι β : Type} {id : α → ι} {rows rows' : Except SessionError (List α)}
    (h : SameRows id rows rows') {resolve : List α → Except OutletResolutionError β}
    (hresolve : ∀ {l l' : List α}, (l.map id).Nodup → l.Perm l' → resolve l = resolve l') :
    (rows.mapError .datasetRead >>= resolve) = (rows'.mapError .datasetRead >>= resolve) := by
  cases h with
  | found hnodup hperm => exact hresolve hnodup hperm
  | failed e => rfl

/-- Resolution is the same over snap stores that find the same targets. -/
theorem resolveViaSnapStore_perm (config : ResolverConfig)
    {query query' : BoundingBox → Except SessionError (List SnapTarget)}
    (h : ∀ bbox, SameRows SnapTarget.id (query bbox) (query' bbox)) :
    resolveViaSnapStore ctx outlet selectedLevel query config
      = resolveViaSnapStore ctx outlet selectedLevel query' config := by
  rw [resolveViaSnapStore, resolveViaSnapStore]
  refine congrArg (searchBboxOrError ctx outlet config.searchRadius.value >>= ·)
    (funext fun bbox => ?_)
  exact (h bbox).bind_eq (resolveSnapCandidates_perm config)

/-- Resolution is the same over catchment stores that find the same catchments. -/
theorem resolveViaPip_perm {query query' : BoundingBox → Except SessionError (List CatchmentUnit)}
    (h : ∀ bbox, SameRows CatchmentUnit.id (query bbox) (query' bbox)) :
    resolveViaPip ctx outlet selectedLevel query
      = resolveViaPip ctx outlet selectedLevel query' := by
  rw [resolveViaPip, resolveViaPip]
  refine congrArg (searchBboxOrError ctx outlet pipBufferM >>= ·) (funext fun bbox => ?_)
  exact (h bbox).bind_eq resolvePipCandidates_perm

end Order

/-! ### Samples -/

/-- A catchment of unit area, by its id and its upstream area. -/
def catchmentOfUpstream (id : Int) (upstreamArea : F32) : CatchmentUnit where
  id := ⟨id⟩
  level := ⟨0⟩
  parentId := none
  area := ⟨⟨0x3f800000⟩⟩
  upstreamArea := some ⟨upstreamArea⟩
  outlet := ⟨⟨0⟩, ⟨0⟩⟩
  bbox := ⟨⟨0⟩, ⟨0⟩, ⟨0x3f800000⟩, ⟨0x3f800000⟩, by decide, by decide, by decide⟩
  geometry := ⟨[]⟩
  sourceId := none
  levelLabel := none

/-- A geometry crate without shapes: every geometry is the outlet, and every catchment holds it. -/
def sampleContext : ResolverContext Unit Unit where
  searchBbox _ _ := .ok ⟨⟨0⟩, ⟨0⟩, ⟨0x3f800000⟩, ⟨0x3f800000⟩, by decide, by decide, by decide⟩
  decodeWkb _ := .ok ()
  snapNearestPoint outlet _ := some (⟨0⟩, outlet)
  decodeWkbMultiPolygon _ := .ok ()
  contains _ _ := true
  intersects _ _ := true
  levelOf _ := some ⟨0⟩

/-- **Outlet resolution does not depend on the order of candidates** with distinct ids: neither the
snap target nor the catchment that is selected, and under the strategy that puts distances first the
winner is the best of those within the tolerance of the least distance. The tie-break reported for
the catchments that hold the outlet is the first criterion that separates the two first, if and only
if their upstream areas are not zeros of different signs and not one NaN. -/
theorem outletResolution_orderFree {G P : Type} (ctx : ResolverContext G P) (outlet : GeoCoord)
    (selectedLevel : Option Level) :
    (∀ (ranker : ConfiguredVectorCandidateRanker) (candidates candidates' : List ScoredCandidate),
      (candidates.map (·.target.id)).Nodup → candidates.Perm candidates' →
      ranker.selected candidates = ranker.selected candidates') ∧
    (∀ (tolerance : F64) (candidates : List ScoredCandidate) (winner : ScoredCandidate),
      ConfiguredVectorCandidateRanker.selected ⟨.distanceFirst, tolerance⟩ candidates
        = some winner →
      ∃ minimum, minimum ∈ candidates.map ScoredCandidate.distanceM ∧
        (∀ c ∈ candidates, F64.totalCmp minimum c.distanceM ≠ .gt) ∧
        winner ∈ candidates ∧ winner.distanceM.le (minimum.add tolerance) ∧
        ∀ c ∈ candidates, c.distanceM.le (minimum.add tolerance) →
          vectorDominanceOrder false winner c ≠ .gt) ∧
    (∀ (config : ResolverConfig) (targets targets' : List SnapTarget),
      (targets.map SnapTarget.id).Nodup → targets.Perm targets' →
      resolveSnapCandidates ctx outlet selectedLevel config targets
        = resolveSnapCandidates ctx outlet selectedLevel config targets') ∧
    (∀ units units' : List CatchmentUnit,
      (units.map CatchmentUnit.id).Nodup → units.Perm units' →
      resolvePipCandidates ctx outlet selectedLevel units
        = resolvePipCandidates ctx outlet selectedLevel units') ∧
    ∀ hits : List CatchmentUnit, (hits.map CatchmentUnit.id).Nodup → hits ≠ [] →
      ((∃ winner label, winner ∈ hits ∧
        (∀ c ∈ hits, c = winner ∨ pipOrder winner c = .lt) ∧
        (∀ hits', hits.Perm hits' → pipCascade hits' = some (winner, label)) ∧
        (hits = [winner] → label = none) ∧
        ∀ b, TopTwo hits winner b → label = some (firstSeparating winner b)) ↔
      ∀ a b, TopTwo hits a b → ¬Misread a.upstreamArea b.upstreamArea) := by
  refine ⟨fun ranker candidates candidates' hnodup h =>
      ConfiguredVectorCandidateRanker.selected_perm hnodup h,
    fun tolerance candidates winner h =>
      ConfiguredVectorCandidateRanker.selected_distanceFirst h,
    fun config targets targets' hnodup h => resolveSnapCandidates_perm config hnodup h,
    fun units units' hnodup h => resolvePipCandidates_perm hnodup h,
    fun hits hnodup hne => pipCascade_label_iff hnodup hne⟩

/-- Catchments with different upstream areas. -/
theorem outletResolution_orderFree_upstream :
    let hits := [catchmentOfUpstream 1 ⟨0x3f800000⟩, catchmentOfUpstream 2 ⟨0x40000000⟩]
    ∃ winner label, winner ∈ hits ∧ (∀ c ∈ hits, c = winner ∨ pipOrder winner c = .lt) ∧
      (∀ hits', hits.Perm hits' → pipCascade hits' = some (winner, label)) ∧
      (hits = [winner] → label = none) ∧
      ∀ b, TopTwo hits winner b → label = some (firstSeparating winner b) := by
  intro hits
  have hread : ∀ a ∈ hits, ∀ b ∈ hits, ¬Misread a.upstreamArea b.upstreamArea := by
    decide +kernel
  exact ((outletResolution_orderFree sampleContext ⟨⟨0⟩, ⟨0⟩⟩ none).2.2.2.2 hits (by decide +kernel)
    (by simp [hits])).mpr fun a b htop => hread a htop.mem_fst b htop.mem_snd

/-- Catchments whose upstream areas are zeros of different signs: the label says that the lowest id
was chosen, but it is the upstream area, and the id is the higher one. -/
theorem pipCascade_zeros :
    let a := catchmentOfUpstream 2 ⟨0⟩
    let b := catchmentOfUpstream 1 ⟨0x80000000⟩
    TopTwo [a, b] a b ∧ pipCascade [a, b] = some (a, some .lowestUnitId) ∧
      firstSeparating a b = .highestUpstreamArea := by
  intro a b
  have hlt : pipOrder a b = .lt := by decide +kernel
  have hsorted : Comparison.sortBy pipOrder [a, b] = [a, b] :=
    List.mergeSort_of_pairwise (by simp [hlt])
  refine ⟨⟨List.mem_cons_self, by simp, hlt, fun c hc => ?_⟩, ?_, by decide +kernel⟩
  · exact (List.mem_cons.mp hc).imp_right fun h => .inl (List.mem_singleton.mp h)
  · rw [pipCascade_eq, hsorted]
    decide +kernel

end WatershedDelineation
