import WatershedDelineation.Drainage.Upstream

/-!
# The drainage tree

The links that `collectUpstream` records (`downstreamOf`) form a spanning tree of the units found
(`collectUpstream_tree`): the first discovery of a unit is never overwritten, on graphs with
cycles and merging paths too, and so every link leads one step closer to the terminal.
-/

namespace WatershedDelineation

open BreadthFirst LinkTree Relation

variable {graph : DrainageGraph} {terminal : UnitId} {u : UpstreamUnits}

theorem spans_downstreamOf (h : collectUpstream terminal graph = .ok u) :
    Spans u.downstreamOf terminal u.unitIds :=
  (collectUpstream_post h).1.spans

/-- **The drainage tree.** The terminal and the units that were not found have no link. Every other
unit is linked to one that was found and that lists it as an upstream reference. From every unit the
links lead to the terminal in as many steps as its breadth-first distance, and in no other number of
steps; they have no cycle. -/
theorem collectUpstream_tree (h : collectUpstream terminal graph = .ok u) :
    u.downstreamOf terminal = none ∧
    (∀ id, id ∉ u.unitIds → u.downstreamOf id = none) ∧
    (∀ id ∈ u.unitIds, id ≠ terminal → ∃ down ∈ u.unitIds, u.downstreamOf id = some down ∧
      ∃ row, graph.get down = some row ∧ id ∈ row.upstreamIds) ∧
    (∀ id ∈ u.unitIds, ∀ n, follow u.downstreamOf n id = some terminal ↔
      n = stepDist graph.Upstream terminal id) ∧
    ∀ id, ¬TransGen (fun id down => u.downstreamOf id = some down) id id := by
  have hinv := (collectUpstream_post h).1
  have hspans := spans_downstreamOf h
  refine ⟨hspans.root_none, hspans.outside_none, fun id hid hne => ?_, fun id hid n => ?_,
    hspans.acyclic⟩
  · obtain ⟨down, hdown, hlink, hup, -⟩ := (downstreamOf_spec h).2 id hid hne
    exact ⟨down, hdown, hlink, hup⟩
  · exact hinv.follow_eq_some_iff hid

/-- Two ways from the terminal to a unit, and a cycle. -/
def diamondGraph : DrainageGraph where
  rows := [⟨⟨4⟩, ⟨0⟩, [⟨2⟩, ⟨3⟩]⟩, ⟨⟨2⟩, ⟨0⟩, [⟨1⟩, ⟨4⟩]⟩, ⟨⟨3⟩, ⟨0⟩, [⟨1⟩]⟩, ⟨⟨1⟩, ⟨0⟩, []⟩]
  nodup_ids := by decide

theorem collectUpstream_tree_diamond : ∃ u, collectUpstream ⟨4⟩ diamondGraph = .ok u ∧
    u.downstreamOf ⟨4⟩ = none ∧ u.downstreamOf ⟨1⟩ = some ⟨2⟩ ∧
      stepDist diamondGraph.Upstream ⟨4⟩ ⟨1⟩ = 2 := by
  have htree := @collectUpstream_tree diamondGraph ⟨4⟩ _ rfl
  obtain ⟨hterminal, -, -, hdist, -⟩ := htree
  exact ⟨_, rfl, hterminal, by decide, ((hdist ⟨1⟩ (by decide) 2).mp (by decide)).symm⟩

end WatershedDelineation
