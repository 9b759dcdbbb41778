import Mathlib.Data.List.Induction
import Mathlib.Data.List.Perm.Subperm
import WatershedDelineation.General.ClosedWalk
import WatershedDelineation.General.FuelLoop
import WatershedDelineation.General.SortedMultimap

/-!
# Assembling rings from directed edges

`assembleRings` chains directed edges into closed rings, as `assemble_rings` of
`algo/polygonize.rs` does: an ordered map from start points to stacks of end points, an outer
loop that starts a ring at the least remaining start point, and an inner loop that follows the
top end point until it is back at the origin. The two `unwrap`s on a missing successor are
panics.

On balanced edges, where every point is entered as often as it is left, no panic happens and
every edge is used once (`assembleRings_spec`). What each ring looks like when it is started
is `AssembledRing`; the shape arguments about polygons use it and never the loops. Renaming
the points by a strictly monotone map renames the rings (`assembleRings_map`), so where the
grid lies does not matter.
-/

namespace WatershedDelineation

open ClosedWalk SortedMultimap

variable {V : Type} [LinearOrder V]

/-- The map from start points to their end points. -/
abbrev Adjacency (V : Type) := List (V × List V)

/-- The local variables of the inner loop. -/
structure RingWalk (V : Type) where
  adjacency : Adjacency V
  ring : List V
  current : V

/-- One round of the inner loop: follow the top end point of `current`. -/
def walkStep (origin : V) (walk : RingWalk V) :
    RingWalk V ⊕ Except (Fault Empty) (Adjacency V × List V) :=
  match pop walk.current walk.adjacency with
  | none => .inr (.error .panic)
  | some (next, adjacency) =>
    if next = origin then .inr (.ok (adjacency, walk.ring ++ [origin]))
    else .inl ⟨adjacency, walk.ring ++ [next], next⟩

/-- The inner loop: one closed ring from `origin`. -/
def walkRing (fuel : ℕ) (origin : V) (adjacency : Adjacency V) :
    Except (Fault Empty) (Adjacency V × List V) :=
  FuelLoop.exec (walkStep origin) fuel ⟨adjacency, [origin], origin⟩

/-- One round of the outer loop: a ring from the least remaining start point. -/
def assembleStep (fuel : ℕ) (state : Adjacency V × List (List V)) :
    (Adjacency V × List (List V)) ⊕ Except (Fault Empty) (List (List V)) :=
  match state.1 with
  | [] => .inr (.ok state.2)
  | (origin, _) :: _ =>
    match walkRing fuel origin state.1 with
    | .error fault => .inr (.error fault)
    | .ok (adjacency, ring) => .inl (adjacency, state.2 ++ [ring])

/-- The map of all edges, built edge by edge. -/
def buildAdjacency (edges : List (V × V)) : Adjacency V :=
  edges.foldl (fun adjacency edge => push edge.1 edge.2 adjacency) []

/-- Chain directed edges into closed rings. -/
def assembleRings (edges : List (V × V)) : Except (Fault Empty) (List (List V)) :=
  FuelLoop.exec (assembleStep (edges.length + 1)) (edges.length + 1) (buildAdjacency edges, [])

/-! ### The map of all edges -/

/-- The end points of the edges from `v`, in edge order. -/
def outs (edges : List (V × V)) (v : V) : List V :=
  (edges.filter fun edge => edge.1 = v).map Prod.snd

theorem buildAdjacency_concat (edges : List (V × V)) (edge : V × V) :
    buildAdjacency (edges ++ [edge]) = push edge.1 edge.2 (buildAdjacency edges) := by
  rw [buildAdjacency, List.foldl_append]
  rfl

theorem buildAdjacency_spec (edges : List (V × V)) :
    WF (buildAdjacency edges) ∧ (entries (buildAdjacency edges)).Perm edges ∧
      ∀ v, get v (buildAdjacency edges) = outs edges v := by
  induction edges using List.reverseRecOn with
  | nil => exact ⟨WF.nil, List.Perm.nil, fun v => rfl⟩
  | append_singleton edges edge ih =>
    obtain ⟨hwf, hperm, hget⟩ := ih
    rw [buildAdjacency_concat]
    refine ⟨hwf.push, ?_, fun v => ?_⟩
    · exact entries_push.trans ((hperm.cons _).trans (List.perm_append_singleton _ _).symm)
    · rw [get_push hwf, hget, hget, outs, outs, outs, List.filter_append, List.map_append]
      by_cases hv : v = edge.1
      · simp [hv]
      · simp [hv, Ne.symm hv]

/-! ### Balance -/

/-- Every point is left as often as it is entered. -/
def Balanced (edges : List (V × V)) : Prop :=
  ∀ v, edges.countP (·.1 = v) = edges.countP (·.2 = v)

theorem Balanced.perm {edges edges' : List (V × V)} (h : Balanced edges)
    (hperm : edges.Perm edges') : Balanced edges' := fun v => by
  rw [← hperm.countP_eq, ← hperm.countP_eq, h v]

theorem Balanced.of_append_left {edges edges' : List (V × V)} (h : Balanced edges)
    (happ : Balanced (edges ++ edges')) : Balanced edges' := fun v => by
  have hv := happ v
  rw [List.countP_append, List.countP_append, h v] at hv
  exact Nat.add_left_cancel hv

theorem Balanced.steps {ring : List V} (h : Closed ring) : Balanced (steps ring) := by
  intro v
  cases ring with
  | nil => rfl
  | cons a l =>
    have hcount := countP_fst_steps v a l
    rw [closed_cons_iff.mp h] at hcount
    exact Nat.add_right_cancel hcount

/-! ### The inner loop -/

section Inner

variable {origin : V} {m : Adjacency V}

/-- The invariant of the inner loop that started from the map `m`. -/
structure RingWalkInv (origin : V) (m : Adjacency V) (walk : RingWalk V) : Prop where
  wf : WF walk.adjacency
  perm : (steps walk.ring ++ entries walk.adjacency).Perm (entries m)
  isPrefix : ∀ v, get v walk.adjacency <+: get v m
  ring : ∃ rest, walk.ring = origin :: rest ∧
    (origin :: rest).getLast (List.cons_ne_nil origin rest) = walk.current
  /-- The walk is still at its origin, or its first step took the top of the origin's stack. -/
  first : walk = ⟨m, [origin], origin⟩ ∨ walk.current ≠ origin ∧
    ∃ d rest, walk.ring = origin :: d :: rest ∧ (get origin m).getLast? = some d

theorem RingWalkInv.start (hwf : WF m) : RingWalkInv origin m ⟨m, [origin], origin⟩ where
  wf := hwf
  perm := List.Perm.refl _
  isPrefix _ := List.prefix_rfl
  ring := ⟨[], rfl, rfl⟩
  first := .inl rfl

/-- What one step of the walk does, whether or not it closes the ring. -/
theorem RingWalkInv.pop {walk : RingWalk V} (h : RingWalkInv origin m walk) {next : V}
    {adjacency : Adjacency V} (hpop : pop walk.current walk.adjacency = some (next, adjacency)) :
    WF adjacency ∧ (SortedMultimap.entries walk.adjacency).length = (entries adjacency).length + 1 ∧
      (steps (walk.ring ++ [next]) ++ entries adjacency).Perm (entries m) ∧
      (∀ v, get v adjacency <+: get v m) ∧
      ∃ d rest, walk.ring ++ [next] = origin :: d :: rest ∧ (get origin m).getLast? = some d := by
  obtain ⟨hwf, hget, hother, hperm, -⟩ := h.wf.pop hpop
  refine ⟨hwf, by simpa using hperm.length_eq, ?_, fun v => ?_, ?_⟩
  · obtain ⟨rest, hring, hlast⟩ := h.ring
    -- the new step is the edge that was taken from the map
    have hsteps : steps (walk.ring ++ [next]) = steps walk.ring ++ [(walk.current, next)] := by
      obtain ⟨l, a, hl⟩ := (List.eq_nil_or_concat' (origin :: rest)).resolve_left (by simp)
      have ha : a = walk.current := by
        rw [← hlast]
        simp [hl]
      rw [hring, hl, List.append_assoc, List.singleton_append, steps_concat, ha]
    rw [hsteps, List.append_assoc]
    exact (List.Perm.append_left _ hperm.symm).trans h.perm
  · by_cases hv : v = walk.current
    · subst hv
      exact (List.prefix_append _ _).trans (hget ▸ h.isPrefix walk.current)
    · rw [hother v hv]
      exact h.isPrefix v
  · rcases h.first with rfl | ⟨-, d, rest, hring, hlast⟩
    · exact ⟨next, [], rfl, by rw [hget, List.getLast?_concat]⟩
    · exact ⟨d, rest ++ [next], by rw [hring]; rfl, hlast⟩

/-- The walk is never stuck: it has entered the current point once more than it has left it. -/
theorem RingWalkInv.pop_ne_none {walk : RingWalk V} (h : RingWalkInv origin m walk)
    (hbal : Balanced (entries m)) (horigin : get origin m ≠ []) :
    SortedMultimap.pop walk.current walk.adjacency ≠ none := by
  intro hnone
  rw [h.wf.pop_eq_none_iff] at hnone
  rcases h.first with rfl | ⟨hne, -⟩
  · exact horigin hnone
  · obtain ⟨rest, hring, hlast⟩ := h.ring
    -- the edges of the map are balanced, those walked are not, so an edge is left
    have hwalk := countP_fst_steps walk.current origin rest
    rw [hlast, if_pos rfl, if_neg hne.symm] at hwalk
    have hall := hbal walk.current
    rw [← h.perm.countP_eq, ← h.perm.countP_eq, List.countP_append, List.countP_append,
      hring] at hall
    have hpos : 0 < (entries walk.adjacency).countP (·.1 = walk.current) := by omega
    obtain ⟨⟨a, b⟩, he, ha⟩ := List.countP_pos_iff.mp hpos
    obtain rfl : a = walk.current := by simpa using ha
    rw [mem_entries_iff h.wf, hnone] at he
    exact absurd he List.not_mem_nil

/-- **The inner loop.** From a map with a stack at `origin` and balanced edges it ends, with a
closed ring whose first step is the top of that stack; the steps of the ring are exactly the
edges taken from the map. -/
theorem walkRing_spec (hwf : WF m) (hbal : Balanced (entries m)) (horigin : get origin m ≠ [])
    {fuel : ℕ} (hfuel : (entries m).length < fuel) :
    ∃ adjacency d rest, walkRing fuel origin m = .ok (adjacency, origin :: d :: rest) ∧
      WF adjacency ∧ (steps (origin :: d :: rest) ++ entries adjacency).Perm (entries m) ∧
      (∀ v, get v adjacency <+: get v m) ∧ Closed (origin :: d :: rest) ∧
      (get origin m).getLast? = some d := by
  refine FuelLoop.exec_spec (RingWalkInv origin m)
    (fun walk => (entries walk.adjacency).length)
    (fun r => ∃ adjacency d rest, r = .ok (adjacency, origin :: d :: rest) ∧
      WF adjacency ∧ (steps (origin :: d :: rest) ++ entries adjacency).Perm (entries m) ∧
      (∀ v, get v adjacency <+: get v m) ∧ Closed (origin :: d :: rest) ∧
      (get origin m).getLast? = some d) ?_ ?_ (RingWalkInv.start hwf) hfuel
  · intro walk walk' hinv hstep
    rw [walkStep] at hstep
    cases hpop : SortedMultimap.pop walk.current walk.adjacency with
    | none => simp [hpop] at hstep
    | some p =>
      obtain ⟨next, adjacency⟩ := p
      obtain ⟨hwf', hlen, hperm, hbegin, d, rest, hring, hlast⟩ := hinv.pop hpop
      simp only [hpop] at hstep
      split_ifs at hstep with hnext
      obtain rfl := Sum.inl.inj hstep
      refine ⟨⟨hwf', hperm, hbegin, ⟨d :: rest, hring, ?_⟩, .inr ⟨hnext, d, rest, hring, hlast⟩⟩,
        by simp only; omega⟩
      simp [← hring]
  · intro walk r hinv hstep
    rw [walkStep] at hstep
    cases hpop : SortedMultimap.pop walk.current walk.adjacency with
    | none => exact absurd hpop (hinv.pop_ne_none hbal horigin)
    | some p =>
      obtain ⟨next, adjacency⟩ := p
      obtain ⟨hwf', hlen, hperm, hbegin, d, rest, hring, hlast⟩ := hinv.pop hpop
      simp only [hpop] at hstep
      split_ifs at hstep with hnext
      obtain rfl := Sum.inr.inj hstep
      subst hnext
      refine ⟨adjacency, d, rest, by rw [hring], hwf', hring ▸ hperm, hbegin, ?_, hlast⟩
      rw [closed_cons_iff]
      simp [← hring]

end Inner

/-! ### The outer loop -/

section Outer

variable {edges : List (V × V)}

/-- What is known of a ring when it is started: the edges `rem` remaining at that time are
balanced and start at or after its origin, all its steps are among them, and so are the edges
from the origin that were pushed before its first step. -/
structure AssembledRing (edges : List (V × V)) (origin d : V) (rest : List V)
    (rem : List (V × V)) : Prop where
  closed : Closed (origin :: d :: rest)
  balanced : Balanced rem
  subperm : rem.Subperm edges
  origin_le : ∀ e ∈ rem, origin ≤ e.1
  steps_subset : steps (origin :: d :: rest) ⊆ rem
  earlier : ∃ before after, outs edges origin = before ++ d :: after ∧
    ∀ u ∈ before, (origin, u) ∈ rem

/-- The invariant of the outer loop. -/
structure AssemblyInv (edges : List (V × V)) (state : Adjacency V × List (List V)) : Prop where
  wf : WF state.1
  balanced : Balanced (entries state.1)
  perm : (state.2.flatMap steps ++ entries state.1).Perm edges
  isPrefix : ∀ v, get v state.1 <+: outs edges v
  rings : ∀ ring ∈ state.2, ∃ origin d rest rem, ring = origin :: d :: rest ∧
    AssembledRing edges origin d rest rem
  sorted : state.2.Pairwise fun ring ring' => ∀ a ∈ ring.head?, ∀ b ∈ ring'.head?, a ≤ b
  heads : ∀ ring ∈ state.2, ∀ a ∈ ring.head?, ∀ e ∈ entries state.1, a ≤ e.1

theorem AssemblyInv.start (h : Balanced edges) : AssemblyInv edges (buildAdjacency edges, []) := by
  obtain ⟨hwf, hperm, hget⟩ := buildAdjacency_spec edges
  exact ⟨hwf, h.perm hperm.symm, hperm, fun v => (hget v).symm ▸ List.prefix_rfl, by simp,
    List.Pairwise.nil, by simp⟩

/-- **One ring.** A round that continues keeps the invariant and uses up edges. -/
theorem AssemblyInv.step {state : Adjacency V × List (List V)} {fuel : ℕ}
    (h : AssemblyInv edges state) (hfuel : edges.length < fuel) {origin : V} {vs : List V}
    {m : Adjacency V} (hstate : state.1 = (origin, vs) :: m) :
    ∃ adjacency ring, walkRing fuel origin state.1 = .ok (adjacency, ring) ∧
      AssemblyInv edges (adjacency, state.2 ++ [ring]) ∧
      (entries adjacency).length < (entries state.1).length := by
  have hlen : (entries state.1).length ≤ edges.length := by
    have hlen := h.perm.length_eq
    rw [List.length_append] at hlen
    omega
  have hget : SortedMultimap.get origin state.1 = vs := by
    rw [hstate, SortedMultimap.get, if_pos rfl]
  have hvs : vs ≠ [] := h.wf.ne_nil (origin, vs) (by rw [hstate]; simp)
  have hle : ∀ e ∈ entries state.1, origin ≤ e.1 := fun e he =>
    (hstate ▸ h.wf).head_le (hstate ▸ he)
  obtain ⟨adjacency, d, rest, hwalk, hwf, hperm, hbegin, hclosed, hlast⟩ :=
    walkRing_spec h.wf h.balanced (hget ▸ hvs) (hlen.trans_lt hfuel)
  have hring : AssembledRing edges origin d rest (entries state.1) := by
    refine ⟨hclosed, h.balanced, ?_, hle, ?_, ?_⟩
    · exact (List.sublist_append_right _ _).subperm.trans h.perm.subperm
    · exact List.Subset.trans (List.subset_append_left _ _) hperm.subset
    · obtain ⟨before, hbefore⟩ := List.getLast?_eq_some_iff.mp hlast
      obtain ⟨after, hafter⟩ := h.isPrefix origin
      -- the edges pushed before the first step of the ring are below it on the stack
      refine ⟨before, after, by rw [← hafter, hbefore]; simp, fun u hu => ?_⟩
      exact (mem_entries_iff h.wf).mpr (hbefore ▸ List.mem_append_left _ hu)
  have hrest : entries adjacency ⊆ entries state.1 :=
    List.Subset.trans (List.subset_append_right _ _) hperm.subset
  refine ⟨adjacency, origin :: d :: rest, hwalk, ⟨hwf, ?_, ?_, ?_, ?_, ?_, ?_⟩, ?_⟩
  · -- a closed ring is balanced, and so is what it leaves
    exact (Balanced.steps hclosed).of_append_left (h.balanced.perm hperm.symm)
  · rw [List.flatMap_append, List.flatMap_singleton, List.append_assoc]
    exact (List.Perm.append_left _ hperm).trans h.perm
  · exact fun v => (hbegin v).trans (h.isPrefix v)
  · intro ring hmem
    rcases List.mem_append.mp hmem with hmem | hmem
    · exact h.rings ring hmem
    · exact ⟨origin, d, rest, _, List.mem_singleton.mp hmem, hring⟩
  · refine List.pairwise_append.mpr ⟨h.sorted, List.pairwise_singleton _ _, ?_⟩
    intro ring hmem ring' hmem' a ha b hb
    rw [List.mem_singleton.mp hmem', List.head?_cons, Option.mem_some_iff] at hb
    have hne : (origin, d) ∈ entries state.1 := hring.steps_subset (by simp)
    exact hb ▸ h.heads ring hmem a ha _ hne
  · intro ring hmem a ha e he
    rcases List.mem_append.mp hmem with hmem | hmem
    · exact h.heads ring hmem a ha e (hrest he)
    · rw [List.mem_singleton.mp hmem, List.head?_cons, Option.mem_some_iff] at ha
      exact ha ▸ hle e (hrest he)
  · have hlen' := hperm.length_eq
    rw [List.length_append, steps_cons_cons, List.length_cons] at hlen'
    omega

/-- **Ring assembly is total and exact.** On balanced edges both loops end and no successor is
missing; every edge is a step of exactly one ring, every ring is closed, and rings come in
the order of their origins. -/
theorem assembleRings_spec (h : Balanced edges) :
    ∃ rings, assembleRings edges = .ok rings ∧ (rings.flatMap steps).Perm edges ∧
      (∀ ring ∈ rings, ∃ origin d rest rem, ring = origin :: d :: rest ∧
        AssembledRing edges origin d rest rem) ∧
      rings.Pairwise fun ring ring' => ∀ a ∈ ring.head?, ∀ b ∈ ring'.head?, a ≤ b := by
  refine FuelLoop.exec_spec (AssemblyInv edges) (fun state => (entries state.1).length)
    (fun r => ∃ rings : List (List V), r = .ok rings ∧ (rings.flatMap steps).Perm edges ∧
      (∀ ring ∈ rings, ∃ origin d rest rem, ring = origin :: d :: rest ∧
        AssembledRing edges origin d rest rem) ∧
      rings.Pairwise fun ring ring' => ∀ a ∈ ring.head?, ∀ b ∈ ring'.head?, a ≤ b)
    ?_ ?_ (AssemblyInv.start h) ?_
  · intro state state' hinv hstep
    rw [assembleStep] at hstep
    cases hstate : state.1 with
    | nil => simp [hstate] at hstep
    | cons e m =>
      obtain ⟨adjacency, ring, hwalk, hinv', hlt⟩ := hinv.step (Nat.lt_succ_self _) hstate
      rw [hstate] at hwalk
      simp only [hstate, hwalk] at hstep
      obtain rfl := Sum.inl.inj hstep
      exact ⟨hinv', hstate ▸ hlt⟩
  · intro state r hinv hstep
    rw [assembleStep] at hstep
    cases hstate : state.1 with
    | nil =>
      simp only [hstate] at hstep
      obtain rfl := Sum.inr.inj hstep
      have hperm := hinv.perm
      rw [hstate, entries_nil, List.append_nil] at hperm
      exact ⟨state.2, rfl, hperm, hinv.rings, hinv.sorted⟩
    | cons e m =>
      obtain ⟨adjacency, ring, hwalk, -⟩ := hinv.step (Nat.lt_succ_self _) hstate
      rw [hstate] at hwalk
      simp [hstate, hwalk] at hstep
  · rw [(buildAdjacency_spec edges).2.1.length_eq]
    exact Nat.lt_succ_self _

end Outer

/-! ### Renaming points -/

section Rename

variable {V' : Type} [LinearOrder V'] {f : V → V'}

/-- Rename the points of an adjacency map. -/
def Adjacency.map (f : V → V') : Adjacency V → Adjacency V' := rename f f

private theorem walkRing_map (hf : StrictMono f) (fuel : ℕ) (origin : V) (m : Adjacency V) :
    walkRing fuel (f origin) (Adjacency.map f m)
      = (walkRing fuel origin m).map (Prod.map (Adjacency.map f) (List.map f)) := by
  refine FuelLoop.exec_map
    (fun walk : RingWalk V =>
      (⟨Adjacency.map f walk.adjacency, walk.ring.map f, f walk.current⟩ : RingWalk V'))
    _ (fun walk => ?_) fuel ⟨m, [origin], origin⟩
  rw [walkStep, walkStep, Adjacency.map, pop_rename f hf]
  cases SortedMultimap.pop walk.current walk.adjacency with
  | none => rfl
  | some p =>
    simp only [Option.map_some, Prod.map, hf.injective.eq_iff]
    split_ifs <;> simp [Except.map]

/-- Renaming the points by a strictly monotone map renames the rings. -/
theorem assembleRings_map (hf : StrictMono f) (edges : List (V × V)) :
    assembleRings (edges.map (Prod.map f f))
      = (assembleRings edges).map (List.map (List.map f)) := by
  have hbuild : buildAdjacency (edges.map (Prod.map f f))
      = Adjacency.map f (buildAdjacency edges) := by
    induction edges using List.reverseRecOn with
    | nil => rfl
    | append_singleton edges edge ih =>
      rw [List.map_append, List.map_singleton, buildAdjacency_concat, ih, buildAdjacency_concat]
      exact push_rename f hf edge.1 edge.2 _
  rw [assembleRings, assembleRings, hbuild, List.length_map]
  refine FuelLoop.exec_map (fun state => (Adjacency.map f state.1, state.2.map (List.map f))) _
    (fun state => ?_) _ (buildAdjacency edges, [])
  rw [assembleStep, assembleStep]
  cases hstate : state.1 with
  | nil => rfl
  | cons e m =>
    have hwalk := walkRing_map hf (edges.length + 1) e.1 (e :: m)
    simp only [Adjacency.map, rename, List.map_cons, Prod.map] at hwalk ⊢
    rw [hwalk]
    cases walkRing (edges.length + 1) e.1 (e :: m) <;>
      simp [Except.map, rename]

end Rename

end WatershedDelineation
