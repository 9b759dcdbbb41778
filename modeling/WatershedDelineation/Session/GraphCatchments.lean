import Mathlib.Data.List.Dedup
import WatershedDelineation.Drainage.Upstream
import WatershedDelineation.General.Checks
import WatershedDelineation.Session.Dataset

/-!
# Referential validation of graph and catchments

`validateGraphCatchments` is the open-time check of `session.rs`: counts first, then every
graph row against the catchment ids and the level map, then every catchment id against the
graph. Distinctness of the catchment ids is not checked anywhere; it follows from the two
inclusions and the equal counts (`nodup_of_subset_of_length_le`).

What the check buys is `DrainageGraph.LevelClosed`: every upstream reference stays in the
graph and on its level. From it traversal cannot fail, and never leaves the terminal's level.
-/

namespace WatershedDelineation

/-- A catchment row as the validation reads it. -/
structure CatchmentIdLevelRow where
  id : UnitId
  level : Level
  deriving DecidableEq, Repr

/-- One row collected into a level map; it replaces an earlier row of its id. -/
def insertLevel (levels : UnitId → Option Level) (row : CatchmentIdLevelRow) :
    UnitId → Option Level :=
  Function.update levels row.id (some row.level)

/-- The level map collected from rows. -/
def levelMap (rows : List CatchmentIdLevelRow) : UnitId → Option Level :=
  rows.foldl insertLevel fun _ => none

/-- An opened catchment store, as the open leaves it: the number of rows of the file, the unit ids
with their row groups, the level map if that pass read the levels, and the ids and levels that can
be read from the file. Validation does not look at the row groups; queries by id do. -/
structure CatchmentStore where
  totalRows : ℕ
  readAllIds : List UnitId
  idRowGroups : UnitId → Option ℕ
  validationLevelsFromOpen : Option (UnitId → Option Level)
  readIdLevels : Except SessionError (List CatchmentIdLevelRow)

/-- The level map of a store: the one from the open, or the one of the levels in the file. -/
def CatchmentStore.catchmentLevels (store : CatchmentStore) :
    Except SessionError (UnitId → Option Level) :=
  match store.validationLevelsFromOpen with
  | some levels => .ok levels
  | none => store.readIdLevels.map levelMap

/-- The store of a catchment table, opened with or without reading the levels. -/
def CatchmentStore.ofTable (rows : List CatchmentIdLevelRow) (idRowGroups : UnitId → Option ℕ)
    (levelsIndexed : Bool) : CatchmentStore :=
  ⟨rows.length, rows.map CatchmentIdLevelRow.id, idRowGroups,
    if levelsIndexed then some (levelMap rows) else none, .ok rows⟩

/-- The checks on one upstream reference of a graph row. -/
def checkUpstreamId (catchmentIdSet : Finset UnitId) (catchmentLevels : UnitId → Option Level)
    (row : AdjacencyRow) (upstreamId : UnitId) : Except SessionError Unit :=
  if upstreamId ∉ catchmentIdSet then
    .error (.graphReferentialIntegrity
      (s!"graph unit {row.id.raw} references upstream unit {upstreamId.raw} " ++
        "which has no catchment row"))
  else do
    let upstreamLevel ← Checks.okOr (catchmentLevels upstreamId)
      (.graphReferentialIntegrity s!"upstream unit {upstreamId.raw} has no catchment level")
    if upstreamLevel ≠ row.level then
      .error (.graphReferentialIntegrity
        (s!"graph edge {upstreamId.raw} -> {row.id.raw} " ++
          s!"crosses levels {upstreamLevel.raw} -> {row.level.raw}"))
    else .ok ()

/-- The checks on one graph row. -/
def checkGraphRow (catchmentIdSet : Finset UnitId) (catchmentLevels : UnitId → Option Level)
    (row : AdjacencyRow) : Except SessionError Unit :=
  if row.id ∉ catchmentIdSet then
    .error (.graphReferentialIntegrity
      s!"graph unit {row.id.raw} has no corresponding catchment row")
  else do
    let rowLevel ← Checks.okOr (catchmentLevels row.id)
      (.graphReferentialIntegrity s!"graph unit {row.id.raw} has no catchment level")
    if row.level ≠ rowLevel then
      .error (.graphReferentialIntegrity
        (s!"graph unit {row.id.raw} level {row.level.raw} " ++
          s!"differs from catchment level {rowLevel.raw}"))
    else row.upstreamIds.forM (checkUpstreamId catchmentIdSet catchmentLevels row)

/-- The check on one catchment id. -/
def checkCatchmentId (graph : DrainageGraph) (catchmentId : UnitId) : Except SessionError Unit :=
  if graph.get catchmentId = none then
    .error (.graphReferentialIntegrity
      s!"catchment unit {catchmentId.raw} has no corresponding graph row")
  else .ok ()

/-- Validate graph/catchment referential integrity; returns the catchment level map. -/
def validateGraphCatchments (manifest : Manifest) (graph : DrainageGraph)
    (catchments : CatchmentStore) : Except SessionError (UnitId → Option Level) :=
  if manifest.unitCount ≠ catchments.totalRows then
    .error (.unitCountMismatch manifest.unitCount catchments.totalRows)
  else do
    let catchmentIds := catchments.readAllIds
    let catchmentIdSet := catchmentIds.toFinset
    let catchmentLevels ← catchments.catchmentLevels
    if graph.len ≠ catchmentIds.length then
      .error (.graphReferentialIntegrity
        s!"graph row count {graph.len} does not match catchment row count {catchmentIds.length}")
    else do
      graph.rows.forM (checkGraphRow catchmentIdSet catchmentLevels)
      catchmentIds.forM (checkCatchmentId graph)
      .ok catchmentLevels

/-! ### Reading the checks off -/

section LevelMap

variable {rows : List CatchmentIdLevelRow} {id : UnitId}

private theorem foldl_insertLevel_eq {levels : UnitId → Option Level}
    (h : id ∉ rows.map CatchmentIdLevelRow.id) : rows.foldl insertLevel levels id = levels id := by
  induction rows generalizing levels with
  | nil => rfl
  | cons row rows ih =>
    rw [List.map_cons] at h
    rw [List.foldl_cons, ih (List.not_mem_of_not_mem_cons h), insertLevel,
      Function.update_of_ne (List.ne_of_not_mem_cons h)]

theorem levelMap_eq_none (h : id ∉ rows.map CatchmentIdLevelRow.id) : levelMap rows id = none :=
  foldl_insertLevel_eq h

/-- With distinct ids no row is replaced, and the map returns each row's own level. -/
theorem levelMap_eq_some_iff (hnodup : (rows.map CatchmentIdLevelRow.id).Nodup) {level : Level} :
    levelMap rows id = some level ↔ ⟨id, level⟩ ∈ rows := by
  have key : ∀ (rows : List CatchmentIdLevelRow) (levels : UnitId → Option Level),
      (rows.map CatchmentIdLevelRow.id).Nodup → ∀ row ∈ rows,
        rows.foldl insertLevel levels row.id = some row.level := by
    intro rows
    induction rows with
    | nil => intro _ _ row hrow; exact absurd hrow List.not_mem_nil
    | cons head rows ih =>
      intro levels hnd row hrow
      obtain ⟨hnot, hnd⟩ := List.nodup_cons.mp hnd
      rcases List.mem_cons.mp hrow with rfl | hrow
      · rw [List.foldl_cons, foldl_insertLevel_eq hnot, insertLevel, Function.update_self]
      · exact ih _ hnd row hrow
  constructor
  · intro h
    by_cases hmem : id ∈ rows.map CatchmentIdLevelRow.id
    · obtain ⟨row, hrow, rfl⟩ := List.mem_map.mp hmem
      have hlevel := key rows (fun _ => none) hnodup row hrow
      rw [levelMap, hlevel] at h
      obtain rfl := Option.some.inj h
      exact hrow
    · rw [levelMap_eq_none hmem] at h
      exact absurd h (by simp)
  · exact fun h => key rows _ hnodup _ h

end LevelMap

variable {catchmentIdSet : Finset UnitId} {levels : UnitId → Option Level}

theorem checkUpstreamId_eq_ok_iff {row : AdjacencyRow} {up : UnitId} :
    checkUpstreamId catchmentIdSet levels row up = .ok () ↔
      up ∈ catchmentIdSet ∧ levels up = some row.level := by
  rw [checkUpstreamId, Checks.ite_error_eq_ok_iff, Checks.bind_eq_ok_iff]
  simp only [Checks.ite_error_eq_ok_iff, Checks.okOr_eq_ok_iff, not_not, and_true, ne_eq,
    and_congr_right_iff]
  exact fun _ => ⟨fun ⟨_, h, heq⟩ => heq ▸ h, fun h => ⟨_, h, rfl⟩⟩

theorem checkGraphRow_eq_ok_iff {row : AdjacencyRow} :
    checkGraphRow catchmentIdSet levels row = .ok () ↔
      row.id ∈ catchmentIdSet ∧ levels row.id = some row.level ∧
        ∀ up ∈ row.upstreamIds, up ∈ catchmentIdSet ∧ levels up = some row.level := by
  rw [checkGraphRow, Checks.ite_error_eq_ok_iff, Checks.bind_eq_ok_iff]
  simp only [Checks.ite_error_eq_ok_iff, Checks.okOr_eq_ok_iff, Checks.forM_eq_ok_iff,
    checkUpstreamId_eq_ok_iff, not_not, ne_eq, and_congr_right_iff]
  exact fun _ => ⟨fun ⟨_, h, heq, hups⟩ => ⟨heq ▸ h, hups⟩, fun ⟨h, hups⟩ => ⟨_, h, rfl, hups⟩⟩

theorem checkCatchmentId_eq_ok_iff {graph : DrainageGraph} {id : UnitId} :
    checkCatchmentId graph id = .ok () ↔ id ∈ graph.ids := by
  rw [checkCatchmentId, Checks.ite_error_eq_ok_iff, DrainageGraph.get_eq_none_iff, not_not]
  exact and_iff_left rfl

/-- Whichever source the level map comes from, it is the map of the table's rows. -/
theorem catchmentLevels_ofTable (rows : List CatchmentIdLevelRow)
    (idRowGroups : UnitId → Option ℕ) (levelsIndexed : Bool) :
    (CatchmentStore.ofTable rows idRowGroups levelsIndexed).catchmentLevels
      = .ok (levelMap rows) := by
  cases levelsIndexed <;> rfl

/-- A list that covers a duplicate-free list of at least its own length has no duplicates. -/
theorem nodup_of_subset_of_length_le {α : Type*} [DecidableEq α] {l l' : List α}
    (hnodup : l.Nodup) (hsub : l ⊆ l') (hlen : l'.length ≤ l.length) : l'.Nodup := by
  have hcard : l'.length ≤ l'.toFinset.card :=
    calc l'.length ≤ l.length := hlen
      _ = l.toFinset.card := (List.toFinset_card_of_nodup hnodup).symm
      _ ≤ l'.toFinset.card := Finset.card_le_card fun a ha =>
          List.mem_toFinset.mpr (hsub (List.mem_toFinset.mp ha))
  exact Multiset.coe_nodup.mp
    (Multiset.toFinset_card_eq_card_iff_nodup.mp (le_antisymm l'.toFinset_card_le hcard))

/-! ### Exactness -/

/-- Graph and catchments agree: the row counts, the id sets, the levels, and every upstream
reference staying in the graph on its own level. -/
structure GraphCatchmentsAgree (manifest : Manifest) (graph : DrainageGraph)
    (rows : List CatchmentIdLevelRow) : Prop where
  count : rows.length = manifest.unitCount
  nodup : (rows.map CatchmentIdLevelRow.id).Nodup
  ids : ∀ id, id ∈ rows.map CatchmentIdLevelRow.id ↔ id ∈ graph.ids
  level : ∀ c ∈ rows, ∀ g ∈ graph.rows, c.id = g.id → c.level = g.level
  upstream : ∀ g ∈ graph.rows, ∀ up ∈ g.upstreamIds,
    ∃ u, graph.get up = some u ∧ u.level = g.level

variable {manifest : Manifest} {graph : DrainageGraph} {rows : List CatchmentIdLevelRow}
  {idRowGroups : UnitId → Option ℕ} {levelsIndexed : Bool}

/-- The success of the whole check, unfolded into its conjuncts. -/
theorem validateGraphCatchments_eq_ok_iff :
    validateGraphCatchments manifest graph (.ofTable rows idRowGroups levelsIndexed) = .ok levels ↔
      manifest.unitCount = rows.length ∧ graph.len = rows.length ∧
        (∀ g ∈ graph.rows,
          g.id ∈ rows.map CatchmentIdLevelRow.id ∧ levelMap rows g.id = some g.level ∧
          ∀ up ∈ g.upstreamIds, up ∈ rows.map CatchmentIdLevelRow.id ∧
            levelMap rows up = some g.level) ∧
        (∀ id ∈ rows.map CatchmentIdLevelRow.id, id ∈ graph.ids) ∧ levelMap rows = levels := by
  rw [validateGraphCatchments, Checks.ite_error_eq_ok_iff]
  simp only [catchmentLevels_ofTable, Checks.ok_bind]
  simp only [Checks.ite_error_eq_ok_iff, Checks.bind_eq_ok_iff, Checks.forM_eq_ok_iff,
    checkGraphRow_eq_ok_iff, checkCatchmentId_eq_ok_iff, not_not, ne_eq, List.mem_toFinset,
    CatchmentStore.ofTable, List.length_map, Except.ok.injEq]
  exact ⟨fun ⟨h1, h2, _, h3, _, h4, h5⟩ => ⟨h1, h2, h3, h4, h5⟩,
    fun ⟨h1, h2, h3, h4, h5⟩ => ⟨h1, h2, (), h3, (), h4, h5⟩⟩

theorem GraphCatchmentsAgree.of_validate
    (h : validateGraphCatchments manifest graph (.ofTable rows idRowGroups levelsIndexed)
      = .ok levels) :
    GraphCatchmentsAgree manifest graph rows := by
  obtain ⟨hcount, hlen, hgraph, hcatch, -⟩ := validateGraphCatchments_eq_ok_iff.mp h
  have hsub : graph.ids ⊆ rows.map CatchmentIdLevelRow.id := by
    intro id hid
    obtain ⟨g, hg, rfl⟩ := List.mem_map.mp hid
    exact (hgraph g hg).1
  -- distinctness is only implied: equal counts and an inclusion of the distinct graph ids
  have hnodup : (rows.map CatchmentIdLevelRow.id).Nodup :=
    nodup_of_subset_of_length_le graph.nodup_ids hsub
      (by rw [List.length_map, List.length_map]; exact hlen.ge)
  refine ⟨hcount.symm, hnodup, fun id => ⟨hcatch id, fun hid => hsub hid⟩, ?_, ?_⟩
  · intro c hc g hg hid
    have hlevel := (levelMap_eq_some_iff hnodup).mp (hgraph g hg).2.1
    have heq : c = ⟨g.id, g.level⟩ := List.inj_on_of_nodup_map hnodup hc hlevel hid
    rw [heq]
  · intro g hg up hup
    obtain ⟨hmem, hlevel⟩ := (hgraph g hg).2.2 up hup
    obtain ⟨u, hu, hid⟩ := List.mem_map.mp (hcatch up hmem)
    refine ⟨u, DrainageGraph.get_eq_some_iff.mpr ⟨hu, hid⟩, ?_⟩
    rw [← hid, (hgraph u hu).2.1] at hlevel
    exact Option.some.inj hlevel

theorem GraphCatchmentsAgree.validate (h : GraphCatchmentsAgree manifest graph rows) :
    validateGraphCatchments manifest graph (.ofTable rows idRowGroups levelsIndexed)
      = .ok (levelMap rows) := by
  have hlevel : ∀ g ∈ graph.rows, levelMap rows g.id = some g.level := by
    intro g hg
    have hid : g.id ∈ rows.map CatchmentIdLevelRow.id :=
      (h.ids g.id).mpr (List.mem_map_of_mem hg)
    obtain ⟨c, hc, hcid⟩ := List.mem_map.mp hid
    rw [levelMap_eq_some_iff h.nodup, ← hcid, ← h.level c hc g hg hcid]
    exact hc
  have hlen : graph.len = rows.length := by
    have hperm : graph.ids.Perm (rows.map CatchmentIdLevelRow.id) :=
      (List.perm_ext_iff_of_nodup graph.nodup_ids h.nodup).mpr fun id => (h.ids id).symm
    rw [← DrainageGraph.length_ids, hperm.length_eq, List.length_map]
  refine validateGraphCatchments_eq_ok_iff.mpr
    ⟨h.count.symm, hlen, fun g hg => ⟨?_, hlevel g hg, fun up hup => ?_⟩,
      fun id hid => (h.ids id).mp hid, rfl⟩
  · exact (h.ids g.id).mpr (List.mem_map_of_mem hg)
  · obtain ⟨u, hu, hul⟩ := h.upstream g hg up hup
    obtain ⟨hmem, rfl⟩ := DrainageGraph.get_eq_some_iff.mp hu
    exact ⟨(h.ids u.id).mpr (List.mem_map_of_mem hmem), hul ▸ hlevel u hmem⟩

/-! ### What validation makes safe -/

/-- Every upstream reference stays in the graph and on its level. -/
def DrainageGraph.LevelClosed (graph : DrainageGraph) : Prop :=
  ∀ row ∈ graph.rows, ∀ up ∈ row.upstreamIds, ∃ u, graph.get up = some u ∧ u.level = row.level

/-- The validated level of a unit. -/
def levelOf (graph : DrainageGraph) (id : UnitId) : Option Level :=
  (graph.get id).map AdjacencyRow.level

theorem DrainageGraph.LevelClosed.levelOf_eq (h : graph.LevelClosed) {terminal id : UnitId}
    (hid : graph.Reaches terminal id) : levelOf graph id = levelOf graph terminal := by
  induction hid with
  | refl => rfl
  | tail _ hup ih =>
    obtain ⟨row, hrow, hmem⟩ := hup
    obtain ⟨u, hu, hul⟩ := h row (DrainageGraph.get_eq_some_iff.mp hrow).1 _ hmem
    rw [← ih, levelOf, levelOf, hrow, hu, Option.map_some, Option.map_some, hul]

/-- On a level-closed graph traversal from any unit succeeds. -/
theorem DrainageGraph.LevelClosed.exists_collectUpstream (h : graph.LevelClosed)
    {terminal : UnitId} (hmem : terminal ∈ graph.ids) :
    ∃ u, collectUpstream terminal graph = .ok u := by
  refine (exists_collectUpstream_iff graph terminal).mpr ⟨hmem, fun id _ up hup => ?_⟩
  obtain ⟨row, hrow, hup⟩ := hup
  obtain ⟨u, hu, -⟩ := h row (DrainageGraph.get_eq_some_iff.mp hrow).1 up hup
  exact DrainageGraph.get_isSome_iff.mp (by simp [hu])

/-- **Validation is exact and makes traversal safe.** The check succeeds exactly when the
counts, the id sets, the levels and the upstream references agree; and then traversal from
any unit of the graph succeeds and stays on the terminal's level. -/
theorem validateGraphCatchments_exact (manifest : Manifest) (graph : DrainageGraph)
    (rows : List CatchmentIdLevelRow) (idRowGroups : UnitId → Option ℕ) (levelsIndexed : Bool) :
    let store := CatchmentStore.ofTable rows idRowGroups levelsIndexed
    ((∃ levels, validateGraphCatchments manifest graph store = .ok levels) ↔
        rows.length = manifest.unitCount ∧
        (rows.map CatchmentIdLevelRow.id).Nodup ∧
        (∀ id, id ∈ rows.map CatchmentIdLevelRow.id ↔ id ∈ graph.ids) ∧
        (∀ c ∈ rows, ∀ g ∈ graph.rows, c.id = g.id → c.level = g.level) ∧
        ∀ g ∈ graph.rows, ∀ up ∈ g.upstreamIds,
          ∃ u, graph.get up = some u ∧ u.level = g.level) ∧
      ((∃ levels, validateGraphCatchments manifest graph store = .ok levels) →
        ∀ terminal ∈ graph.ids, ∃ u, collectUpstream terminal graph = .ok u ∧
          ∀ id ∈ u.unitIds, levelOf graph id = levelOf graph terminal) := by
  intro store
  refine ⟨⟨fun ⟨_, h⟩ => ?_, fun ⟨h1, h2, h3, h4, h5⟩ => ?_⟩, fun ⟨_, h⟩ terminal hmem => ?_⟩
  · have hagree := GraphCatchmentsAgree.of_validate h
    exact ⟨hagree.count, hagree.nodup, hagree.ids, hagree.level, hagree.upstream⟩
  · exact ⟨_, GraphCatchmentsAgree.validate ⟨h1, h2, h3, h4, h5⟩⟩
  · have hclosed : graph.LevelClosed := (GraphCatchmentsAgree.of_validate h).upstream
    obtain ⟨u, hu⟩ := hclosed.exists_collectUpstream hmem
    exact ⟨u, hu, fun id hid => hclosed.levelOf_eq ((mem_unitIds_iff hu).mp hid)⟩

end WatershedDelineation
