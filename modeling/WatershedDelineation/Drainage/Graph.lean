import Mathlib.Data.List.Nodup
import Mathlib.Logic.Relation
import Mathlib.Tactic.Common

/-!
# The drainage graph

Units, levels and the adjacency table a session loads from `graph.parquet`. The rows of a
`DrainageGraph` carry pairwise distinct unit ids, as its constructor enforces; nothing is
assumed about the upstream lists, so cycles, shared ancestors, repeated parents and
references to absent units are all allowed.
-/

namespace WatershedDelineation

/-- A drainage unit identifier. -/
structure UnitId where
  raw : Int
  deriving DecidableEq, Repr

/-- The nesting level of a drainage unit. -/
structure Level where
  raw : Int
  deriving DecidableEq, Repr

/-- One row of the graph table: a unit, its level and its upstream neighbours. -/
structure AdjacencyRow where
  id : UnitId
  level : Level
  upstreamIds : List UnitId
  deriving DecidableEq, Repr

/-- The drainage graph: adjacency rows with pairwise distinct ids. -/
structure DrainageGraph where
  rows : List AdjacencyRow
  nodup_ids : (rows.map AdjacencyRow.id).Nodup

namespace DrainageGraph

variable (graph : DrainageGraph)

/-- The row of a unit, if the graph has one. -/
def get (id : UnitId) : Option AdjacencyRow := graph.rows.find? fun row => row.id = id

/-- The number of units. -/
def len : ℕ := graph.rows.length

/-- The unit ids in row order. -/
def ids : List UnitId := graph.rows.map AdjacencyRow.id

/-- `up` is listed as an upstream neighbour of the unit `id`. -/
def Upstream (id up : UnitId) : Prop := ∃ row, graph.get id = some row ∧ up ∈ row.upstreamIds

/-- `id` lies upstream of `terminal`, or is `terminal`. -/
def Reaches (terminal id : UnitId) : Prop := Relation.ReflTransGen graph.Upstream terminal id

variable {graph}

theorem get_eq_some_iff {id : UnitId} {row : AdjacencyRow} :
    graph.get id = some row ↔ row ∈ graph.rows ∧ row.id = id := by
  constructor
  · intro h
    exact ⟨List.mem_of_find?_eq_some h, by simpa using List.find?_some h⟩
  · rintro ⟨hmem, rfl⟩
    have hsome : (graph.get row.id).isSome := by
      rw [get, List.find?_isSome]
      exact ⟨row, hmem, by simp⟩
    obtain ⟨row', hrow'⟩ := Option.isSome_iff_exists.mp hsome
    -- distinct ids leave only one row to be found
    have hid : row'.id = row.id := by simpa using List.find?_some hrow'
    rw [hrow', List.inj_on_of_nodup_map graph.nodup_ids (List.mem_of_find?_eq_some hrow') hmem hid]

theorem get_isSome_iff {id : UnitId} : (graph.get id).isSome ↔ id ∈ graph.ids := by
  simp only [Option.isSome_iff_exists, get_eq_some_iff, ids, List.mem_map]

theorem get_eq_none_iff {id : UnitId} : graph.get id = none ↔ id ∉ graph.ids := by
  rw [← get_isSome_iff, Option.not_isSome_iff_eq_none]

theorem length_ids : graph.ids.length = graph.len := List.length_map _

end DrainageGraph

end WatershedDelineation
