import Mathlib.Data.Finset.Card
import WatershedDelineation.Drainage.Graph
import WatershedDelineation.General.BreadthFirst
import WatershedDelineation.General.FuelLoop

/-!
# Inclusive upstream traversal

`collectUpstream` is the breadth-first traversal of `algo/upstream.rs`: a queue, a visited
set, the list of units in pop order and the map of discovery links, over any drainage graph.

The `while` loop is a `FuelLoop.run` with one more round of fuel than the graph has rows.
Its invariant `TraversalInv` is `BreadthFirst.Inv` for the relation `DrainageGraph.Upstream`,
together with the visited set being the seen units and all of them being in the graph; the
inner `for` loop enters only through `visitUpstreamIds_ok` and `visitUpstreamIds_error`.
-/

namespace WatershedDelineation

open BreadthFirst

/-- Errors from upstream graph traversal. -/
inductive TraversalError
  /-- The terminal unit has no row in the graph. -/
  | terminalNotFound (unitId : Int)
  /-- An upstream reference points to a unit with no row in the graph. -/
  | danglingUpstreamRef (sourceId targetId : Int)
  deriving DecidableEq, Repr

/-- The set of units reachable upstream from a terminal unit, inclusive. -/
structure UpstreamUnits where
  units : List UnitId
  index : Finset UnitId
  downstream : UnitId → Option UnitId

namespace UpstreamUnits

/-- The unit ids, terminal first. -/
def unitIds (u : UpstreamUnits) : List UnitId := u.units

@[simp] theorem unitIds_eq (u : UpstreamUnits) : u.unitIds = u.units := rfl

/-- Whether `id` is part of this upstream set. -/
def contains (u : UpstreamUnits) (id : UnitId) : Bool := id ∈ u.index

/-- The unit through which `id` was first reached from the terminal. -/
def downstreamOf (u : UpstreamUnits) (id : UnitId) : Option UnitId := u.downstream id

end UpstreamUnits

/-- The local variables of the traversal loop. -/
structure Traversal where
  visited : Finset UnitId
  units : List UnitId
  downstream : UnitId → Option UnitId
  queue : List UnitId

/-- The `for` loop over the upstream ids of the unit `current`. -/
def visitUpstreamIds (graph : DrainageGraph) (current : UnitId) :
    List UnitId → Traversal → Except TraversalError Traversal
  | [], t => .ok t
  | upstreamId :: rest, t =>
    if upstreamId ∈ t.visited then visitUpstreamIds graph current rest t
    else
      match graph.get upstreamId with
      | none => .error (.danglingUpstreamRef current.raw upstreamId.raw)
      | some _ => visitUpstreamIds graph current rest
          { t with
            visited := insert upstreamId t.visited
            downstream := Function.update t.downstream upstreamId (some current)
            queue := t.queue ++ [upstreamId] }

/-- One round of the `while let Some(current) = queue.pop_front()` loop. -/
def traversalStep (graph : DrainageGraph) (t : Traversal) :
    Traversal ⊕ Except TraversalError UpstreamUnits :=
  match t.queue with
  | [] => .inr (.ok ⟨t.units, t.visited, t.downstream⟩)
  | current :: rest =>
    match graph.get current with
    | none => .inl { t with queue := rest, units := t.units ++ [current] }
    | some row =>
      match visitUpstreamIds graph current row.upstreamIds
          { t with queue := rest, units := t.units ++ [current] } with
      | .error e => .inr (.error e)
      | .ok t' => .inl t'

/-- The state the loop starts in: the terminal visited and queued. -/
def Traversal.start (terminal : UnitId) : Traversal where
  visited := {terminal}
  units := []
  downstream := fun _ => none
  queue := [terminal]

/-- Collect all units upstream of a terminal unit via breadth-first traversal. -/
def collectUpstream (terminal : UnitId) (graph : DrainageGraph) :
    Except (Fault TraversalError) UpstreamUnits :=
  match graph.get terminal with
  | none => .error (.err (.terminalNotFound terminal.raw))
  | some _ =>
    match FuelLoop.run (traversalStep graph) (graph.len + 1) (Traversal.start terminal) with
    | none => .error .diverge
    | some (.error e) => .error (.err e)
    | some (.ok u) => .ok u

/-! ### The inner loop -/

section Visit

variable {graph : DrainageGraph} {current : UnitId}

/-- A failing inner loop names an upstream id of the list that the graph does not have. -/
theorem visitUpstreamIds_error {ups : List UnitId} {t : Traversal} {e : TraversalError}
    (h : visitUpstreamIds graph current ups t = .error e) :
    ∃ up ∈ ups, graph.get up = none ∧ e = .danglingUpstreamRef current.raw up.raw := by
  induction ups generalizing t with
  | nil => simp [visitUpstreamIds] at h
  | cons up ups ih =>
    rw [visitUpstreamIds] at h
    split at h
    · obtain ⟨x, hx, hx'⟩ := ih h
      exact ⟨x, .tail _ hx, hx'⟩
    · cases hget : graph.get up with
      | none =>
        rw [hget] at h
        exact ⟨up, by simp, hget, (Except.error.inj h).symm⟩
      | some row =>
        rw [hget] at h
        obtain ⟨x, hx, hx'⟩ := ih h
        exact ⟨x, .tail _ hx, hx'⟩

/-- What a completed inner loop did: it queued, marked and linked to `current` exactly the
upstream ids not visited before, each once, and all of them are in the graph. -/
theorem visitUpstreamIds_ok {ups : List UnitId} {t t' : Traversal}
    (h : visitUpstreamIds graph current ups t = .ok t') :
    ∃ fresh : List UnitId, fresh.Nodup ∧
      (∀ id ∈ fresh, id ∈ ups ∧ id ∉ t.visited ∧ id ∈ graph.ids) ∧
      (∀ id ∈ ups, id ∈ t.visited ∨ id ∈ fresh) ∧
      t'.units = t.units ∧ t'.queue = t.queue ++ fresh ∧
      t'.visited = t.visited ∪ fresh.toFinset ∧
      (∀ id ∈ fresh, t'.downstream id = some current) ∧
      ∀ id, id ∉ fresh → t'.downstream id = t.downstream id := by
  induction ups generalizing t with
  | nil =>
    obtain rfl : t = t' := Except.ok.inj h
    exact ⟨[], by simp⟩
  | cons up ups ih =>
    rw [visitUpstreamIds] at h
    split at h
    case isTrue hvis =>
      -- a visited id is skipped
      obtain ⟨fresh, hnd, hnew, hall, hrest⟩ := ih h
      refine ⟨fresh, hnd, fun id hid => ?_, ?_, hrest⟩
      · exact ⟨.tail _ (hnew id hid).1, (hnew id hid).2⟩
      · intro id hid
        rcases List.mem_cons.mp hid with rfl | hid
        · exact .inl hvis
        · exact hall id hid
    case isFalse hvis =>
      cases hget : graph.get up with
      | none => simp [hget] at h
      | some row =>
        rw [hget] at h
        obtain ⟨fresh, hnd, hnew, hall, hunits, hqueue, hvisited, hlink, hkeep⟩ := ih h
        -- the rest of the loop runs with `up` marked, so it does not queue it again
        have hup : up ∉ fresh := fun hmem => (hnew up hmem).2.1 (Finset.mem_insert_self _ _)
        refine ⟨up :: fresh, List.nodup_cons.mpr ⟨hup, hnd⟩, ?_, ?_, hunits, ?_, ?_, ?_, ?_⟩
        · intro id hid
          rcases List.mem_cons.mp hid with rfl | hid
          · exact ⟨by simp, hvis, DrainageGraph.get_isSome_iff.mp (by simp [hget])⟩
          · obtain ⟨hmem, hnot, hid'⟩ := hnew id hid
            exact ⟨.tail _ hmem, fun hv => hnot (Finset.mem_insert_of_mem hv), hid'⟩
        · intro id hid
          rcases List.mem_cons.mp hid with rfl | hid
          · exact .inr (by simp)
          · rcases hall id hid with hv | hv
            · rcases Finset.mem_insert.mp hv with rfl | hv
              · exact .inr (by simp)
              · exact .inl hv
            · exact .inr (.tail _ hv)
        · rw [hqueue]
          simp
        · rw [hvisited, List.toFinset_cons, Finset.insert_union, Finset.union_insert]
        · intro id hid
          rcases List.mem_cons.mp hid with rfl | hid
          · rw [hkeep id hup]
            exact Function.update_self ..
          · exact hlink id hid
        · intro id hid
          rw [hkeep id (List.not_mem_of_not_mem_cons hid)]
          exact Function.update_of_ne (List.ne_of_not_mem_cons hid) ..

end Visit

/-! ### The loop invariant -/

/-- The invariant of the traversal loop. -/
structure TraversalInv (graph : DrainageGraph) (terminal : UnitId) (t : Traversal) : Prop where
  bfs : Inv graph.Upstream terminal t.units t.queue t.downstream
  visited : ∀ id, id ∈ t.visited ↔ id ∈ t.units ++ t.queue
  inGraph : ∀ id ∈ t.units ++ t.queue, id ∈ graph.ids

variable {graph : DrainageGraph} {terminal : UnitId}

theorem TraversalInv.start (h : terminal ∈ graph.ids) :
    TraversalInv graph terminal (.start terminal) where
  bfs := Inv.start _ _
  visited id := by simp [Traversal.start]
  inGraph id hid := by
    simp only [Traversal.start, List.nil_append, List.mem_singleton] at hid
    exact hid ▸ h

/-- Each seen unit is counted once among the graph's rows. -/
theorem TraversalInv.length_le {t : Traversal} (h : TraversalInv graph terminal t) :
    t.units.length + t.queue.length ≤ graph.len := by
  rw [← List.length_append, ← DrainageGraph.length_ids]
  exact (h.bfs.nodup.subperm h.inGraph).length_le

/-- **One round.** A round that continues keeps the invariant and expands one more unit. -/
theorem TraversalInv.step {t t' : Traversal} (h : TraversalInv graph terminal t)
    (hstep : traversalStep graph t = .inl t') :
    TraversalInv graph terminal t' ∧ t'.units.length = t.units.length + 1 := by
  obtain ⟨visited, units, downstream, queue⟩ := t
  cases queue with
  | nil => simp [traversalStep] at hstep
  | cons current rest =>
    have hcur : current ∈ graph.ids := h.inGraph current (by simp)
    obtain ⟨row, hrow⟩ := Option.isSome_iff_exists.mp (DrainageGraph.get_isSome_iff.mpr hcur)
    simp only [traversalStep, hrow] at hstep
    split at hstep
    case h_1 => simp at hstep
    case h_2 t₁ hok =>
      obtain rfl : t₁ = t' := Sum.inl.inj hstep
      obtain ⟨fresh, hnd, hnew, hall, hunits, hqueue, hvisited, hlink, hkeep⟩ :=
        visitUpstreamIds_ok hok
      simp only at hunits hqueue hvisited hnew hall
      have hfresh : ∀ id ∈ fresh, id ∉ units ++ current :: rest := fun id hid hmem =>
        (hnew id hid).2.1 ((h.visited id).mpr hmem)
      -- the visited set is the set of the seen units, so the round expands `current`
      have hbfs : Inv graph.Upstream terminal (units ++ [current]) (rest ++ fresh)
          t₁.downstream := by
        refine h.bfs.expand hnd hfresh (fun id hid => ⟨row, hrow, (hnew id hid).1⟩) ?_ hlink hkeep
        rintro id ⟨row', hrow', hid⟩
        obtain rfl : row = row' := Option.some.inj (hrow.symm.trans hrow')
        exact (hall id hid).imp_left (h.visited id).mp
      refine ⟨⟨?_, ?_, ?_⟩, by rw [hunits]; simp⟩
      · rw [hunits, hqueue]
        exact hbfs
      · intro id
        have hold := h.visited id
        simp only [List.mem_append, List.mem_cons] at hold
        rw [hvisited, hunits, hqueue, Finset.mem_union, List.mem_toFinset, hold]
        simp only [List.mem_append, List.mem_cons, List.not_mem_nil, or_false]
        tauto
      · intro id hid
        rw [hunits, hqueue] at hid
        have hid' : id ∈ units ++ current :: rest ∨ id ∈ fresh := by
          simp only [List.mem_append, List.mem_cons, List.not_mem_nil, or_false] at hid ⊢
          tauto
        exact hid'.elim (h.inGraph id) fun hid => (hnew id hid).2.2

/-! ### The result -/

/-- Every reference made by a unit upstream of `terminal` is to a unit of the graph. -/
def DrainageGraph.ClosedFrom (graph : DrainageGraph) (terminal : UnitId) : Prop :=
  ∀ id, graph.Reaches terminal id → ∀ up, graph.Upstream id up → up ∈ graph.ids

/-- What the loop hands back: on success a finished search, on failure a dangling
reference that really is upstream of the terminal. -/
def TraversalPost (graph : DrainageGraph) (terminal : UnitId) :
    Except TraversalError UpstreamUnits → Prop
  | .ok u => Inv graph.Upstream terminal u.units [] u.downstream ∧
      (∀ id, id ∈ u.index ↔ id ∈ u.units) ∧ ∀ id ∈ u.units, id ∈ graph.ids
  | .error e => ∃ id up, graph.Reaches terminal id ∧ graph.Upstream id up ∧ up ∉ graph.ids ∧
      e = .danglingUpstreamRef id.raw up.raw

theorem TraversalInv.post {t : Traversal} {result : Except TraversalError UpstreamUnits}
    (h : TraversalInv graph terminal t) (hstep : traversalStep graph t = .inr result) :
    TraversalPost graph terminal result := by
  obtain ⟨visited, units, downstream, queue⟩ := t
  cases queue with
  | nil =>
    obtain rfl := Sum.inr.inj hstep
    exact ⟨h.bfs, fun id => by simpa using h.visited id, fun id hid => h.inGraph id (by simpa)⟩
  | cons current rest =>
    cases hrow : graph.get current with
    | none => simp [traversalStep, hrow] at hstep
    | some row =>
      simp only [traversalStep, hrow] at hstep
      split at hstep
      case h_2 => simp at hstep
      case h_1 e herr =>
        obtain rfl := Sum.inr.inj hstep
        obtain ⟨up, hup, hget, rfl⟩ := visitUpstreamIds_error herr
        exact ⟨current, up, h.bfs.reach current (by simp), ⟨row, hrow, hup⟩,
          DrainageGraph.get_eq_none_iff.mp hget, rfl⟩

/-- The loop ends within its fuel, with a result satisfying `TraversalPost`. -/
theorem exists_run_traversalStep (h : terminal ∈ graph.ids) :
    ∃ result, FuelLoop.run (traversalStep graph) (graph.len + 1) (.start terminal) = some result ∧
      TraversalPost graph terminal result := by
  refine FuelLoop.run_spec (TraversalInv graph terminal)
    (fun t => graph.len - t.units.length) ?_ (fun t result ht => ht.post) _ _ (.start h) ?_
  · intro t t' ht hstep
    obtain ⟨ht', hlen⟩ := ht.step hstep
    have hle := ht'.length_le
    exact ⟨ht', by omega⟩
  · simp only [Traversal.start, List.length_nil]
    omega

/-- The three ways a traversal ends, each with what it says about the graph. -/
theorem collectUpstream_cases (graph : DrainageGraph) (terminal : UnitId) :
    (terminal ∉ graph.ids ∧
        collectUpstream terminal graph = .error (.err (.terminalNotFound terminal.raw))) ∨
      terminal ∈ graph.ids ∧
        ((∃ u, collectUpstream terminal graph = .ok u ∧ TraversalPost graph terminal (.ok u)) ∨
          ∃ e, collectUpstream terminal graph = .error (.err e) ∧
            TraversalPost graph terminal (.error e)) := by
  cases hget : graph.get terminal with
  | none =>
    exact .inl ⟨DrainageGraph.get_eq_none_iff.mp hget, by rw [collectUpstream, hget]⟩
  | some row =>
    have hmem : terminal ∈ graph.ids := DrainageGraph.get_isSome_iff.mp (by simp [hget])
    refine .inr ⟨hmem, ?_⟩
    obtain ⟨result, hrun, hpost⟩ := exists_run_traversalStep hmem
    simp only [collectUpstream, hget, hrun]
    cases result with
    | error e => exact .inr ⟨e, rfl, hpost⟩
    | ok u => exact .inl ⟨u, rfl, hpost⟩

theorem collectUpstream_post {u : UpstreamUnits} (h : collectUpstream terminal graph = .ok u) :
    TraversalPost graph terminal (.ok u) := by
  rcases collectUpstream_cases graph terminal with ⟨-, h'⟩ | ⟨-, ⟨u', h', hpost⟩ | ⟨e, h', -⟩⟩
  · simp [h] at h'
  · obtain rfl : u = u' := Except.ok.inj (h.symm.trans h')
    exact hpost
  · simp [h] at h'

/-- The collected units are exactly those upstream of the terminal. -/
theorem mem_unitIds_iff {u : UpstreamUnits} (h : collectUpstream terminal graph = .ok u)
    {id : UnitId} : id ∈ u.unitIds ↔ graph.Reaches terminal id :=
  (collectUpstream_post h).1.mem_done_iff

/-- A traversal succeeds exactly when the terminal and everything referenced from upstream
of it is in the graph. -/
theorem exists_collectUpstream_iff (graph : DrainageGraph) (terminal : UnitId) :
    (∃ u, collectUpstream terminal graph = .ok u) ↔
      terminal ∈ graph.ids ∧ graph.ClosedFrom terminal := by
  constructor
  · rintro ⟨u, hu⟩
    obtain ⟨hinv, -, hin⟩ := collectUpstream_post hu
    refine ⟨hin terminal (hinv.mem_done_iff.mpr .refl), fun id hid up hup => ?_⟩
    exact hin up (hinv.mem_done_iff.mpr (hid.tail hup))
  · rintro ⟨hmem, hclosed⟩
    rcases collectUpstream_cases graph terminal with ⟨hnot, -⟩ | ⟨-, ⟨u, hu, -⟩ | ⟨e, -, hpost⟩⟩
    · exact absurd hmem hnot
    · exact ⟨u, hu⟩
    · obtain ⟨id, up, hid, hup, hnot, -⟩ := hpost
      exact absurd (hclosed id hid up hup) hnot

/-- **Upstream collection is exact.** On every graph and terminal the traversal ends; it
succeeds exactly when the terminal is in the graph and no unit upstream of it refers to a
missing one; and then the result lists, without repeats and terminal first, exactly the
upstream units in order of breadth-first distance. -/
theorem collectUpstream_exact (graph : DrainageGraph) (terminal : UnitId) :
    collectUpstream terminal graph ≠ .error .diverge ∧
      collectUpstream terminal graph ≠ .error .panic ∧
      ((∃ u, collectUpstream terminal graph = .ok u) ↔
        (graph.get terminal).isSome ∧
          ∀ id, graph.Reaches terminal id → ∀ row, graph.get id = some row →
            ∀ up ∈ row.upstreamIds, (graph.get up).isSome) ∧
      ∀ u, collectUpstream terminal graph = .ok u →
        u.unitIds.Nodup ∧ u.unitIds.head? = some terminal ∧
          (∀ id, id ∈ u.unitIds ↔ graph.Reaches terminal id) ∧
          u.unitIds.Pairwise fun a b =>
            stepDist graph.Upstream terminal a ≤ stepDist graph.Upstream terminal b := by
  have hends : collectUpstream terminal graph ≠ .error .diverge ∧
      collectUpstream terminal graph ≠ .error .panic := by
    rcases collectUpstream_cases graph terminal with ⟨-, h⟩ | ⟨-, ⟨u, h, -⟩ | ⟨e, h, -⟩⟩ <;>
      simp [h]
  refine ⟨hends.1, hends.2, ?_, fun u hu => ?_⟩
  · rw [exists_collectUpstream_iff, DrainageGraph.get_isSome_iff]
    refine and_congr_right fun _ => forall₂_congr fun id _ => ?_
    simp only [DrainageGraph.Upstream, DrainageGraph.get_isSome_iff]
    exact ⟨fun h row hrow up hup => h up ⟨row, hrow, hup⟩,
      fun h up ⟨row, hrow, hup⟩ => h row hrow up hup⟩
  · obtain ⟨hinv, -⟩ := collectUpstream_post hu
    exact ⟨by simpa using hinv.nodup, by simpa using hinv.head, fun id => mem_unitIds_iff hu,
      by simpa using hinv.sorted⟩

/-- The discovery links point one step closer to the terminal, along the graph's own
references. -/
theorem downstreamOf_spec {u : UpstreamUnits} (h : collectUpstream terminal graph = .ok u) :
    (∀ id, id = terminal ∨ id ∉ u.unitIds → u.downstreamOf id = none) ∧
      ∀ id ∈ u.unitIds, id ≠ terminal → ∃ p ∈ u.unitIds, u.downstreamOf id = some p ∧
        graph.Upstream p id ∧
        stepDist graph.Upstream terminal id = stepDist graph.Upstream terminal p + 1 := by
  obtain ⟨hinv, -⟩ := collectUpstream_post h
  exact ⟨fun id hid => hinv.parent_none id (by simpa using hid),
    fun id hid hne => hinv.parent_some id (by simpa using hid) hne⟩

end WatershedDelineation
