import Mathlib.Data.Nat.Notation
import WatershedDelineation.Drainage.Delineation
import WatershedDelineation.General.StrahlerNumber

/-!
# Strahler orders

`strahlerOrders` of `main.rs` folds the units of a result into lists of children and visits the
tree with a stack, each unit twice. The visit is a `PostOrder` one, and the order that a unit gets
is its Strahler number, as long as the `i32` counter of its highest children does not overflow
(`Fits`).
-/

namespace WatershedDelineation

open LinkTree PostOrder Relation

/-- The children of the units, and the unit without a link. -/
def drainageTree (result : DelineationResult) : (UnitId → List UnitId) × UnitId :=
  result.upstreamUnits.foldl (fun (children, terminal) unit =>
    match unit.downstreamId with
    | some down => (Function.update children down (children down ++ [unit.id]), terminal)
    | none => (children, unit.id)) (fun _ => [], result.terminalUnitId)

/-- Count one child: the highest order so far and how many children have it. The counter is an
`i32`, the type of an integer literal on which nothing depends. -/
def countKid (order : UnitId → Option ℕ) (counts : ℕ × ℕ) (kid : UnitId) :
    Except (Fault Empty) (ℕ × ℕ) :=
  let (max, maxCount) := counts
  let o := (order kid).getD 1
  if o > max then pure (o, 1)
  else if o = max then do
    let maxCount ← Checked.orPanic (Checked.add 31 maxCount 1)
    pure (max, maxCount)
  else pure (max, maxCount)

/-- The order of a unit with children. -/
def orderOfKids (order : UnitId → Option ℕ) (kids : List UnitId) : Except (Fault Empty) ℕ := do
  let (max, maxCount) ← kids.foldlM (countKid order) (0, 0)
  if maxCount > 1 then Checked.orPanic (Checked.add 32 max 1) else pure max

/-- The local variables of the loop; the top of the stack is its head. -/
structure StrahlerState where
  stack : List (UnitId × Bool)
  order : UnitId → Option ℕ

/-- One round of the `while let Some((id, expanded)) = stack.pop()` loop. -/
def strahlerStep (children : UnitId → List UnitId) (s : StrahlerState) :
    StrahlerState ⊕ Except (Fault Empty) (UnitId → Option ℕ) :=
  match s.stack with
  | [] => .inr (.ok s.order)
  | (id, false) :: rest =>
    let pushed := (children id).foldl (fun stack kid => (kid, false) :: stack) ((id, true) :: rest)
    .inl { s with stack := pushed }
  | (id, true) :: rest =>
    if (children id).isEmpty then .inl ⟨rest, Function.update s.order id (some 1)⟩
    else
      match orderOfKids s.order (children id) with
      | .error e => .inr (.error e)
      | .ok n => .inl ⟨rest, Function.update s.order id (some n)⟩

/-- The state the loop starts in. -/
def StrahlerState.start (terminal : UnitId) : StrahlerState := ⟨[(terminal, false)], fun _ => none⟩

/-- The Strahler order of each unit. -/
def strahlerOrders (result : DelineationResult) : Except (Fault Empty) (UnitId → Option ℕ) :=
  let (children, terminal) := drainageTree result
  FuelLoop.exec (strahlerStep children) (2 * result.upstreamUnits.length + 1) (.start terminal)

/-! ### One unit -/

section Kids

/-- Over children with the numbers `l`, neither the counter nor the increment overflows. -/
def Fits (l : List ℕ) : Prop :=
  (∀ p, p <+: l → Strahler.topCount p < 2 ^ 31) ∧
    (Strahler.topCount l > 1 → Strahler.top l + 1 < 2 ^ 32)

/-- What is computed of a unit fits, when its children have their Strahler numbers. -/
def KidsFit (children : UnitId → List UnitId) (id : UnitId) : Prop :=
  ∀ number : UnitId → ℕ,
    (∀ kid ∈ children id, Strahler.HasNumber children kid (number kid)) →
      Fits ((children id).map number)

variable {order : UnitId → Option ℕ} {number : UnitId → ℕ} {kids : List UnitId}

/-- Counting one child with an order. -/
theorem countKid_eq {kid : UnitId} (p : List ℕ) (h : order kid = some (number kid))
    (hp : Strahler.topCount p < 2 ^ 31) :
    countKid order (Strahler.top p, Strahler.topCount p) kid =
      if Strahler.topCount (p ++ [number kid]) < 2 ^ 31 then
        .ok (Strahler.top (p ++ [number kid]), Strahler.topCount (p ++ [number kid]))
      else .error .panic := by
  rw [countKid, h, Option.getD_some, Strahler.top_concat]
  rcases Nat.lt_trichotomy (number kid) (Strahler.top p) with hlt | heq | hgt
  · rw [if_neg hlt.not_gt, if_neg hlt.ne, Strahler.topCount_concat_of_lt hlt, if_pos hp,
      max_eq_left hlt.le]
    rfl
  · rw [if_neg heq.not_gt, if_pos heq, heq, Strahler.topCount_concat_top, max_self, Checked.add]
    split_ifs <;> rfl
  · rw [if_pos hgt, Strahler.topCount_concat_of_gt hgt, if_pos (by decide), max_eq_right hgt.le]
    rfl

/-- Counting children with orders, after others with the numbers `p`. -/
theorem foldlM_countKid (p : List ℕ) (h : ∀ kid ∈ kids, order kid = some (number kid))
    (hp : Strahler.topCount p < 2 ^ 31) :
    (kids.foldlM (countKid order) (Strahler.top p, Strahler.topCount p) =
        .ok (Strahler.top (p ++ kids.map number), Strahler.topCount (p ++ kids.map number)) ∧
      ∀ q, q <+: kids.map number → Strahler.topCount (p ++ q) < 2 ^ 31) ∨
    (kids.foldlM (countKid order) (Strahler.top p, Strahler.topCount p) = .error .panic ∧
      ∃ q, q <+: kids.map number ∧ ¬Strahler.topCount (p ++ q) < 2 ^ 31) := by
  induction kids generalizing p with
  | nil =>
    refine .inl ⟨by rw [List.map_nil, List.append_nil]; rfl, fun q hq => ?_⟩
    rw [List.prefix_nil.mp hq, List.append_nil]
    exact hp
  | cons kid kids ih =>
    obtain ⟨hkid, hkids⟩ := List.forall_mem_cons.mp h
    rw [List.foldlM_cons, countKid_eq p hkid hp, List.map_cons]
    split_ifs with hfit
    · -- the rest is counted after `p` and the number of `kid`
      have hassoc : ∀ q, p ++ number kid :: q = p ++ [number kid] ++ q := fun q => by
        rw [List.append_assoc, List.singleton_append]
      rw [Checks.ok_bind]
      rcases ih (p ++ [number kid]) hkids hfit with ⟨heq, hall⟩ | ⟨heq, q, hq, hlarge⟩
      · refine .inl ⟨by rw [hassoc (kids.map number)]; exact heq, fun q hq => ?_⟩
        rcases List.prefix_cons_iff.mp hq with rfl | ⟨q, rfl, hq⟩
        · rw [List.append_nil]
          exact hp
        · rw [hassoc]
          exact hall q (List.cons_prefix_cons.mp hq).2
      · exact .inr ⟨heq, number kid :: q, List.cons_prefix_cons.mpr ⟨rfl, hq⟩, by rwa [hassoc]⟩
    · exact .inr ⟨rfl, [number kid], List.cons_prefix_cons.mpr ⟨rfl, List.nil_prefix⟩, hfit⟩

/-- **The order of a unit with children** is their Strahler number, or does not fit. -/
theorem orderOfKids_cases (hkids : kids ≠ [])
    (h : ∀ kid ∈ kids, order kid = some (number kid)) :
    (orderOfKids order kids = .ok (Strahler.ofChildren (kids.map number)) ∧
      Fits (kids.map number)) ∨
    (orderOfKids order kids = .error .panic ∧ ¬Fits (kids.map number)) := by
  have hne : kids.map number ≠ [] := by simpa using hkids
  have hcount := foldlM_countKid [] h (by decide)
  simp only [List.nil_append] at hcount
  change (_ = _ ∧ _) ∨ (_ = _ ∧ _) at hcount
  rw [orderOfKids]
  rcases hcount with ⟨heq, hall⟩ | ⟨heq, q, hq, hlarge⟩
  · change kids.foldlM (countKid order) (0, 0) = _ at heq
    rw [heq, Checks.ok_bind]
    dsimp only
    rw [Strahler.ofChildren, if_neg hne]
    split_ifs with hseveral
    · rw [Checked.add]
      split_ifs with hfit
      · exact .inl ⟨rfl, hall, fun _ => hfit⟩
      · exact .inr ⟨rfl, fun h => hfit (h.2 hseveral)⟩
    · exact .inl ⟨rfl, hall, fun h => absurd h hseveral⟩
  · change kids.foldlM (countKid order) (0, 0) = _ at heq
    rw [heq]
    exact .inr ⟨rfl, fun h => hlarge (h.1 q hq)⟩

end Kids

/-! ### The visit -/

section Visit

/-- The invariant of the loop: it visits the tree in post-order, and the units that have been
visited have their Strahler numbers as orders. -/
structure StrahlerInv (children : UnitId → List UnitId) (root : UnitId) (s : StrahlerState) :
    Prop where
  visit : Inv children root (fun id => (s.order id).isSome) s.stack
  number : ∀ id n, s.order id = some n → Strahler.HasNumber children id n
  fits : ∀ id, (s.order id).isSome → KidsFit children id

variable {children : UnitId → List UnitId} {parent : UnitId → Option UnitId} {root : UnitId}
  {members : List UnitId} {s s' : StrahlerState}

/-- The number of rounds that have been made. -/
def StrahlerState.rounds (members : List UnitId) (s : StrahlerState) : ℕ :=
  progress members (fun id => (s.order id).isSome) s.stack

theorem foldl_push (kids : List UnitId) (stack : List (UnitId × Bool)) :
    kids.foldl (fun stack kid => (kid, false) :: stack) stack
      = kids.reverse.map (·, false) ++ stack := by
  induction kids generalizing stack with
  | nil => rfl
  | cons kid kids ih => rw [List.foldl_cons, ih, List.reverse_cons, List.map_append,
      List.append_assoc, List.map_singleton, List.singleton_append]

theorem StrahlerInv.start (children : UnitId → List UnitId) (root : UnitId) :
    StrahlerInv children root (.start root) where
  visit := by
    have h := Inv.start children root
    simpa [StrahlerState.start] using h
  number id n h := (Option.some_ne_none n h.symm).elim
  fits id h := (Bool.false_ne_true h).elim

theorem StrahlerInv.visit_stack {stack : List (UnitId × Bool)} (h : StrahlerInv children root s)
    (hstack : s.stack = stack) : Inv children root (fun id => (s.order id).isSome) stack :=
  hstack ▸ h.visit

/-- When a unit is on top with its mark, its children have orders. -/
theorem StrahlerInv.order_kids {id : UnitId} {rest : List (UnitId × Bool)}
    (h : StrahlerInv children root s) (hstack : s.stack = (id, true) :: rest) :
    ∀ kid ∈ children id, ∃ n, s.order kid = some n ∧ Strahler.HasNumber children kid n := by
  intro kid hkid
  have hvisit := h.visit_stack hstack
  obtain ⟨n, hn⟩ := Option.isSome_iff_exists.mp (hvisit.children_done kid hkid)
  exact ⟨n, hn, h.number kid n hn⟩

/-- A unit is left with its Strahler number as its order. -/
theorem StrahlerInv.leave {id : UnitId} {rest : List (UnitId × Bool)} {number : UnitId → ℕ}
    (h : StrahlerInv children root s) (hstack : s.stack = (id, true) :: rest)
    (hnumber : ∀ kid ∈ children id, Strahler.HasNumber children kid (number kid))
    (hfits : Fits ((children id).map number)) :
    StrahlerInv children root
      ⟨rest, Function.update s.order id (some (Strahler.ofChildren ((children id).map number)))⟩ :=
    by
  have hvisit := h.visit_stack hstack
  refine ⟨hvisit.leave fun a => ?_, fun a n ha => ?_, fun a ha number' hnumber' => ?_⟩
  all_goals
    rcases eq_or_ne a id with rfl | hne
  · simp
  · simp [hne]
  · dsimp only at ha
    rw [Function.update_self] at ha
    obtain rfl := Option.some.inj ha
    exact .intro a number hnumber
  · dsimp only at ha
    rw [Function.update_of_ne hne] at ha
    exact h.number a n ha
  · rwa [List.map_congr_left fun kid hkid => (hnumber' kid hkid).unique (hnumber kid hkid)]
  · dsimp only at ha
    rw [Function.update_of_ne hne] at ha
    exact h.fits a ha number' hnumber'

/-- What a round does with a marked unit: it evaluates all the children, which have orders. -/
theorem StrahlerInv.step_marked {id : UnitId} {rest : List (UnitId × Bool)}
    (h : StrahlerInv children root s) (hstack : s.stack = (id, true) :: rest) :
    ∃ number : UnitId → ℕ,
      (∀ kid ∈ children id, Strahler.HasNumber children kid (number kid)) ∧
      ((strahlerStep children s = .inl ⟨rest, Function.update s.order id
            (some (Strahler.ofChildren ((children id).map number)))⟩ ∧
          Fits ((children id).map number)) ∨
        (strahlerStep children s = .inr (.error .panic) ∧ ¬Fits ((children id).map number))) := by
  have hkids : ∀ kid ∈ children id, s.order kid = some ((s.order kid).getD 1) ∧
      Strahler.HasNumber children kid ((s.order kid).getD 1) := by
    intro kid hkid
    obtain ⟨n, hn, hnumber⟩ := h.order_kids hstack kid hkid
    rw [hn]
    exact ⟨rfl, hnumber⟩
  refine ⟨fun kid => (s.order kid).getD 1, fun kid hkid => (hkids kid hkid).2, ?_⟩
  have hstep : strahlerStep children s =
      if (children id).isEmpty then .inl ⟨rest, Function.update s.order id (some 1)⟩
      else
        match orderOfKids s.order (children id) with
        | .error e => .inr (.error e)
        | .ok n => .inl ⟨rest, Function.update s.order id (some n)⟩ := by
    rw [strahlerStep, hstack]
  rw [hstep]
  split_ifs with hempty
  · rw [List.isEmpty_iff] at hempty
    rw [hempty]
    refine .inl ⟨rfl, fun p hp => ?_, fun hseveral => absurd hseveral (by simp [Strahler.topCount])⟩
    rw [List.prefix_nil.mp hp]
    decide
  · rw [List.isEmpty_iff] at hempty
    rcases orderOfKids_cases hempty fun kid hkid => (hkids kid hkid).1 with
      ⟨heq, hfits⟩ | ⟨heq, hlarge⟩
    · rw [heq]
      exact .inl ⟨rfl, hfits⟩
    · rw [heq]
      exact .inr ⟨rfl, hlarge⟩

/-- **One round** keeps the invariant and makes progress. -/
theorem StrahlerInv.step (h : StrahlerInv children root s) (hspans : Spans parent root members)
    (hchildren : Children children parent members) (hnodup : members.Nodup)
    (hstep : strahlerStep children s = .inl s') :
    StrahlerInv children root s' ∧ s'.rounds members = s.rounds members + 1 := by
  match hstack : s.stack with
  | [] =>
    rw [strahlerStep, hstack] at hstep
    cases hstep
  | (id, false) :: rest =>
    rw [strahlerStep, hstack] at hstep
    obtain rfl := Sum.inl.inj hstep
    have hvisit := h.visit_stack hstack
    rw [StrahlerState.rounds, StrahlerState.rounds, hstack]
    dsimp only
    rw [foldl_push]
    refine ⟨⟨?_, h.number, h.fits⟩, progress_enter members _ _ id rest⟩
    exact hvisit.enter hspans hchildren (List.reverse_perm _)
  | (id, true) :: rest =>
    obtain ⟨number, hnumber, ⟨heq, hfits⟩ | ⟨heq, -⟩⟩ := h.step_marked hstack
    · obtain rfl := Sum.inl.inj (heq.symm.trans hstep)
      have hvisit := h.visit_stack hstack
      refine ⟨h.leave hstack hnumber hfits, ?_⟩
      rw [StrahlerState.rounds, StrahlerState.rounds, hstack]
      refine progress_leave hnodup (hvisit.mem_of_seen hspans hchildren (.inr (by simp))) ?_ ?_
      · simpa using hvisit.not_done (id, true) List.mem_cons_self
      · intro b
        rcases eq_or_ne b id with rfl | hne
        · simp
        · simp [hne]
    · rw [heq] at hstep
      cases hstep

/-- How the loop ends. -/
theorem StrahlerInv.stop {r : Except (Fault Empty) (UnitId → Option ℕ)}
    (h : StrahlerInv children root s) (hspans : Spans parent root members)
    (hchildren : Children children parent members) (hstep : strahlerStep children s = .inr r) :
    (∃ order, r = .ok order ∧ ∀ id ∈ members,
        (∃ n, order id = some n ∧ Strahler.HasNumber children id n) ∧ KidsFit children id) ∨
      (r = .error .panic ∧ ∃ id ∈ members, ¬KidsFit children id) := by
  match hstack : s.stack with
  | [] =>
    rw [strahlerStep, hstack] at hstep
    obtain rfl := Sum.inr.inj hstep
    have hvisit := h.visit_stack hstack
    refine .inl ⟨s.order, rfl, fun id hid => ?_⟩
    have hdone := hvisit.done_of_mem hspans hchildren hid
    obtain ⟨n, hn⟩ := Option.isSome_iff_exists.mp hdone
    exact ⟨⟨n, hn, h.number id n hn⟩, h.fits id hdone⟩
  | (id, false) :: rest =>
    rw [strahlerStep, hstack] at hstep
    cases hstep
  | (id, true) :: rest =>
    have hvisit := h.visit_stack hstack
    obtain ⟨number, hnumber, ⟨heq, -⟩ | ⟨heq, hlarge⟩⟩ := h.step_marked hstack
    · rw [heq] at hstep
      cases hstep
    · obtain rfl := Sum.inr.inj (heq.symm.trans hstep)
      exact .inr ⟨rfl, id, hvisit.mem_of_seen hspans hchildren (.inr (by simp)),
        fun hfits => hlarge (hfits number hnumber)⟩

theorem StrahlerInv.of_reflTransGen (hspans : Spans parent root members)
    (hchildren : Children children parent members) (hnodup : members.Nodup)
    (h : ReflTransGen (fun s s' => strahlerStep children s = .inl s') (.start root) s) :
    StrahlerInv children root s := by
  induction h with
  | refl => exact .start children root
  | tail _ hstep ih => exact (ih.step hspans hchildren hnodup hstep).1

/-- **The loop ends**, with the numbers of all members or with a panic. -/
theorem exec_strahlerStep (hspans : Spans parent root members)
    (hchildren : Children children parent members) (hnodup : members.Nodup) :
    (∃ order, FuelLoop.exec (strahlerStep children) (2 * members.length + 1) (.start root)
        = .ok order ∧ ∀ id ∈ members,
          (∃ n, order id = some n ∧ Strahler.HasNumber children id n) ∧ KidsFit children id) ∨
      (FuelLoop.exec (strahlerStep children) (2 * members.length + 1) (.start root)
        = .error .panic ∧ ∃ id ∈ members, ¬KidsFit children id) := by
  refine FuelLoop.exec_spec (StrahlerInv children root)
    (fun s => 2 * members.length - s.rounds members)
    (fun r => (∃ order, r = .ok order ∧ ∀ id ∈ members,
        (∃ n, order id = some n ∧ Strahler.HasNumber children id n) ∧ KidsFit children id) ∨
      (r = .error .panic ∧ ∃ id ∈ members, ¬KidsFit children id))
    (fun s s' h hstep => ?_) (fun s r h hstep => h.stop hspans hchildren hstep)
    (.start children root) (Nat.lt_succ_of_le (Nat.sub_le _ _))
  obtain ⟨h', hrounds⟩ := h.step hspans hchildren hnodup hstep
  have hle : s'.rounds members ≤ 2 * members.length := h'.visit.progress_le hspans hchildren
  exact ⟨h', by omega⟩

end Visit

/-! ### The tree of a delineation -/

section Tree

/-- The children of a unit, in the order of the units. -/
def childrenOf (result : DelineationResult) (id : UnitId) : List UnitId :=
  (result.upstreamUnits.filter fun unit => unit.downstreamId = some id).map
    DelineationUnitMetadata.id

/-- The lists of children, and the last unit without a link. -/
theorem drainageTree_eq (result : DelineationResult) : drainageTree result =
    (childrenOf result, ((result.upstreamUnits.filter fun unit => unit.downstreamId = none).map
      DelineationUnitMetadata.id).getLastD result.terminalUnitId) := by
  have hfold : ∀ (units : List DelineationUnitMetadata) (children : UnitId → List UnitId)
      (terminal : UnitId),
      units.foldl (fun (children, terminal) unit =>
        match unit.downstreamId with
        | some down => (Function.update children down (children down ++ [unit.id]), terminal)
        | none => (children, unit.id)) (children, terminal) =
      (fun id => children id ++ (units.filter fun unit => unit.downstreamId = some id).map
          DelineationUnitMetadata.id,
        ((units.filter fun unit => unit.downstreamId = none).map
          DelineationUnitMetadata.id).getLastD terminal) := by
    intro units
    induction units with
    | nil => simp
    | cons unit units ih =>
      intro children terminal
      rw [List.foldl_cons]
      cases hdown : unit.downstreamId with
      | none =>
        simp only [ih, hdown, List.filter_cons, reduceCtorEq, decide_false, decide_true,
          Bool.false_eq_true, if_false, if_true, List.map_cons, List.getLastD_cons]
      | some down =>
        simp only [ih, hdown, List.filter_cons, reduceCtorEq, decide_false, Bool.false_eq_true,
          if_false, Prod.mk.injEq, and_true]
        funext id
        rcases eq_or_ne down id with rfl | hne
        · simp
        · simp [hne, Ne.symm hne]
  exact hfold result.upstreamUnits (fun _ => []) result.terminalUnitId

variable {P : Type} {graph : DrainageGraph} {levelOf : UnitId → Option Level}
  {queryByIds : List UnitId → Except SessionError (List CatchmentUnit)}
  {queryGeometriesByIds :
    List UnitId → Except CatchmentGeometryQueryError (List (DecodedCatchmentGeometryRow P))}
  {selectedLevel : Level} {terminal : UnitId} {result : DelineationResult}

/-- The tree of a result is the one of its traversal. -/
theorem drainageTree_of_delineate
    (h : delineate graph levelOf queryByIds queryGeometriesByIds selectedLevel terminal
      = .ok result) :
    ∃ u : UpstreamUnits, collectUpstream terminal graph = .ok u ∧ u.unitIds.Nodup ∧
      result.upstreamUnits.map DelineationUnitMetadata.id = u.unitIds ∧
      Spans u.downstreamOf terminal u.unitIds ∧
      Children (childrenOf result) u.downstreamOf u.unitIds ∧
      drainageTree result = (childrenOf result, terminal) := by
  obtain ⟨u, hu, hterminal, hunits⟩ := units_of_delineate h
  have hspans := spans_downstreamOf hu
  have hnodup : u.unitIds.Nodup := by simpa using (collectUpstream_post hu).1.nodup
  have hids : result.upstreamUnits.map DelineationUnitMetadata.id = u.unitIds := by
    have hfst := congrArg (List.map Prod.fst) hunits
    simpa [Function.comp_def] using hfst
  have hlinks : ∀ unit ∈ result.upstreamUnits,
      unit.id ∈ u.unitIds ∧ unit.downstreamId = u.downstreamOf unit.id := by
    intro unit hunit
    have hmem := hunits ▸ List.mem_map_of_mem hunit
    obtain ⟨id, hid, heq⟩ := List.mem_map.mp hmem
    obtain ⟨rfl, hdown⟩ := Prod.mk.inj heq
    exact ⟨hid, hdown.symm⟩
  refine ⟨u, hu, hnodup, hids, hspans, ⟨fun a => ?_, fun a k => ?_⟩, ?_⟩
  · rw [← hids] at hnodup
    exact hnodup.sublist (List.filter_sublist.map _)
  · constructor
    · intro hk
      obtain ⟨unit, hunit, rfl⟩ := List.mem_map.mp hk
      obtain ⟨hmem, hdown⟩ := List.mem_filter.mp hunit
      obtain ⟨hid, hlink⟩ := hlinks unit hmem
      exact ⟨hid, hlink.symm.trans (of_decide_eq_true hdown)⟩
    · rintro ⟨hk, hlink⟩
      rw [← hids] at hk
      obtain ⟨unit, hunit, rfl⟩ := List.mem_map.mp hk
      refine List.mem_map.mpr ⟨unit, List.mem_filter.mpr ⟨hunit, ?_⟩, rfl⟩
      exact decide_eq_true ((hlinks unit hunit).2.trans hlink)
  · -- only the terminal has no link
    rw [drainageTree_eq, hterminal, List.getLastD_eq_getLast?]
    cases hlast : ((result.upstreamUnits.filter fun unit => unit.downstreamId = none).map
        DelineationUnitMetadata.id).getLast? with
    | none => rfl
    | some id =>
      obtain ⟨unit, hunit, rfl⟩ := List.mem_map.mp (List.mem_of_getLast? hlast)
      obtain ⟨hmem, hnone⟩ := List.mem_filter.mp hunit
      obtain ⟨hid, hlink⟩ := hlinks unit hmem
      by_contra hne
      obtain ⟨down, -, hsome⟩ := hspans.linked unit.id hid fun heq => hne (by rw [heq]; rfl)
      rw [← hlink, of_decide_eq_true hnone] at hsome
      exact Option.some_ne_none _ hsome.symm

/-- The orders of a delineation: those of all units, or a panic. -/
theorem strahlerOrders_cases
    (h : delineate graph levelOf queryByIds queryGeometriesByIds selectedLevel terminal
      = .ok result) :
    (∃ order, strahlerOrders result = .ok order ∧ ∀ unit ∈ result.upstreamUnits,
      (∃ n, order unit.id = some n ∧ Strahler.HasNumber (childrenOf result) unit.id n) ∧
        KidsFit (childrenOf result) unit.id) ∨
    (strahlerOrders result = .error .panic ∧
      ∃ unit ∈ result.upstreamUnits, ¬KidsFit (childrenOf result) unit.id) := by
  obtain ⟨u, -, hnodup, hids, hspans, hchildren, htree⟩ := drainageTree_of_delineate h
  have hlength : result.upstreamUnits.length = u.unitIds.length := by
    rw [← hids, List.length_map]
  rw [strahlerOrders, htree]
  dsimp only
  rw [hlength]
  rcases exec_strahlerStep hspans hchildren hnodup with ⟨order, heq, hall⟩ | ⟨heq, id, hid, hlarge⟩
  · refine .inl ⟨order, heq, fun unit hunit => hall unit.id ?_⟩
    exact hids ▸ List.mem_map_of_mem hunit
  · rw [← hids] at hid
    obtain ⟨unit, hunit, rfl⟩ := List.mem_map.mp hid
    exact .inr ⟨heq, unit, hunit, hlarge⟩

/-- **Strahler orders.** Every unit of a delineation has exactly one Strahler number. The loop
ends, and whenever it evaluates a unit all children of the unit have orders. Every unit gets its
number exactly when, at every unit, fewer than 2 ^ 31 of the children, and of the first so many of
them, share the highest number, and one more than that number fits its type if several do. -/
theorem strahlerOrders_exact
    (h : delineate graph levelOf queryByIds queryGeometriesByIds selectedLevel terminal
      = .ok result) :
    (∀ unit ∈ result.upstreamUnits,
      ∃! n, Strahler.HasNumber (childrenOf result) unit.id n) ∧
    strahlerOrders result ≠ .error .diverge ∧
    (∀ s, ReflTransGen (fun s s' => strahlerStep (drainageTree result).1 s = .inl s')
        (.start (drainageTree result).2) s →
      ∀ id rest, s.stack = (id, true) :: rest →
        ∀ kid ∈ childrenOf result id, (s.order kid).isSome) ∧
    ((∃ order, strahlerOrders result = .ok order ∧ ∀ unit ∈ result.upstreamUnits,
        ∃ n, order unit.id = some n ∧ Strahler.HasNumber (childrenOf result) unit.id n) ↔
      ∀ unit ∈ result.upstreamUnits, KidsFit (childrenOf result) unit.id) := by
  obtain ⟨u, -, hnodup, hids, hspans, hchildren, htree⟩ := drainageTree_of_delineate h
  refine ⟨fun unit hunit => ?_, ?_, fun s hs id rest hstack kid hkid => ?_, ?_⟩
  · exact Strahler.existsUnique_hasNumber hspans hchildren (hids ▸ List.mem_map_of_mem hunit)
  · rcases strahlerOrders_cases h with ⟨order, heq, -⟩ | ⟨heq, -⟩
    · simp [heq]
    · simp [heq]
  · rw [htree] at hs
    have hinv := StrahlerInv.of_reflTransGen hspans hchildren hnodup hs
    obtain ⟨n, hn, -⟩ := hinv.order_kids hstack kid hkid
    rw [hn]
    rfl
  · rcases strahlerOrders_cases h with ⟨order, heq, hall⟩ | ⟨heq, unit, hunit, hlarge⟩
    · exact ⟨fun _ unit hunit => (hall unit hunit).2,
        fun _ => ⟨order, heq, fun unit hunit => (hall unit hunit).1⟩⟩
    · refine ⟨fun ⟨order, hok, _⟩ => ?_, fun hall => absurd (hall unit hunit) hlarge⟩
      rw [heq] at hok
      cases hok

/-- The row of a unit, with an area of one and a unit box. -/
def sampleUnit (id : UnitId) : CatchmentUnit where
  id := id
  level := ⟨0⟩
  parentId := none
  area := ⟨⟨0x3F800000#32⟩⟩
  upstreamArea := none
  outlet := ⟨⟨0#64⟩, ⟨0#64⟩⟩
  bbox := ⟨⟨0#32⟩, ⟨0#32⟩, ⟨0x3F800000#32⟩, ⟨0x3F800000#32⟩, by decide, by decide, by decide⟩
  geometry := ⟨[]⟩
  sourceId := none
  levelLabel := none

/-- A delineation over stores that have every unit. -/
def sampleDelineate (graph : DrainageGraph) (terminal : UnitId) :
    Except (Fault EngineError) DelineationResult :=
  delineate graph (fun _ => some ⟨0⟩) (fun ids => .ok (ids.map sampleUnit))
    (fun ids => .ok (ids.map fun id => ⟨id, ([] : List Unit)⟩)) ⟨0⟩ terminal

theorem exists_sampleDelineate {u : UpstreamUnits} (hu : collectUpstream terminal graph = .ok u) :
    ∃ result, sampleDelineate graph terminal = .ok result := by
  refine exists_delineate hu (fun _ _ => rfl) rfl rfl (fun id hid => ?_) (fun unit hunit => ?_)
    fun id hid => ?_
  · simpa [sampleUnit] using hid
  · obtain ⟨id, -, rfl⟩ := List.mem_map.mp hunit
    rfl
  · simpa using hid

theorem strahlerOrders_exact_diamond : ∃ result, sampleDelineate diamondGraph ⟨4⟩ = .ok result ∧
    strahlerOrders result ≠ .error .diverge ∧
    ∃ order, strahlerOrders result = .ok order ∧ order ⟨4⟩ = some 2 ∧ order ⟨2⟩ = some 1 := by
  obtain ⟨u, hu⟩ : ∃ u, collectUpstream ⟨4⟩ diamondGraph = .ok u := ⟨_, rfl⟩
  have hsome : sampleDelineate diamondGraph ⟨4⟩ = .ok _ := rfl
  exact ⟨_, hsome, (strahlerOrders_exact hsome).2.1, _, rfl, rfl, rfl⟩

def starLeaf (k : ℕ) : UnitId := ⟨k + 2⟩

theorem starLeaf_injective : Function.Injective starLeaf := fun j k h => by
  simp only [starLeaf, UnitId.mk.injEq] at h
  omega

/-- `n` units that flow into one. -/
def starGraph (n : ℕ) : DrainageGraph where
  rows := ⟨⟨1⟩, ⟨0⟩, (List.range n).map starLeaf⟩ ::
    (List.range n).map fun k => ⟨starLeaf k, ⟨0⟩, []⟩
  nodup_ids := by
    rw [List.map_cons, List.map_map, List.nodup_cons]
    constructor
    · simp only [List.mem_map, not_exists, not_and, Function.comp_apply, starLeaf, UnitId.mk.injEq]
      omega
    · exact List.nodup_range.map starLeaf_injective

theorem starGraph_upstream {n : ℕ} {id up : UnitId} :
    (starGraph n).Upstream id up ↔ id = ⟨1⟩ ∧ ∃ k < n, up = starLeaf k := by
  simp only [DrainageGraph.Upstream, DrainageGraph.get_eq_some_iff, starGraph, List.mem_cons,
    List.mem_map, List.mem_range]
  constructor
  · rintro ⟨row, ⟨rfl | ⟨k, -, rfl⟩, rfl⟩, hup⟩
    · obtain ⟨k, hk, rfl⟩ := List.mem_map.mp hup
      exact ⟨rfl, k, List.mem_range.mp hk, rfl⟩
    · exact absurd hup List.not_mem_nil
  · rintro ⟨rfl, k, hk, rfl⟩
    exact ⟨_, ⟨.inl rfl, rfl⟩, List.mem_map.mpr ⟨k, List.mem_range.mpr hk, rfl⟩⟩

theorem exists_collectUpstream_star (n : ℕ) :
    ∃ u, collectUpstream ⟨1⟩ (starGraph n) = .ok u := by
  rw [exists_collectUpstream_iff]
  refine ⟨List.mem_cons_self, fun id _ up hup => ?_⟩
  obtain ⟨-, k, hk, rfl⟩ := starGraph_upstream.mp hup
  refine List.mem_cons_of_mem _ ?_
  rw [List.map_map]
  exact List.mem_map.mpr ⟨k, List.mem_range.mpr hk, rfl⟩

/-- With 2 ^ 31 units that flow into one, the count of them overflows. -/
theorem not_kidsFit_star {n : ℕ} (hn : 2 ^ 31 ≤ n)
    (h : sampleDelineate (starGraph n) ⟨1⟩ = .ok result) :
    ¬KidsFit (childrenOf result) ⟨1⟩ := by
  obtain ⟨u, hu, -, -, hspans, hchildren, -⟩ := drainageTree_of_delineate h
  have hlink : ∀ {id up : UnitId}, up ∈ childrenOf result id → (starGraph n).Upstream id up := by
    intro id up hup
    obtain ⟨hmem, hdown⟩ := (hchildren.mem_iff id up).mp hup
    have hne : up ≠ ⟨1⟩ := by
      rintro rfl
      rw [hspans.root_none] at hdown
      exact Option.some_ne_none _ hdown.symm
    obtain ⟨down, -, hlink, hupstream, -⟩ := (downstreamOf_spec hu).2 up hmem hne
    obtain rfl := Option.some.inj (hlink.symm.trans hdown)
    exact hupstream
  -- every unit but the terminal is a child of it, and has no children
  have hleaf : ∀ kid ∈ childrenOf result ⟨1⟩, Strahler.HasNumber (childrenOf result) kid 1 := by
    intro kid hkid
    obtain ⟨-, k, -, rfl⟩ := starGraph_upstream.mp (hlink hkid)
    have hnil : childrenOf result (starLeaf k) = [] := by
      refine List.eq_nil_iff_forall_not_mem.mpr fun up hup => ?_
      have hid := (starGraph_upstream.mp (hlink hup)).1
      rw [starLeaf, UnitId.mk.injEq] at hid
      omega
    have hnumber := @Strahler.HasNumber.intro _ (childrenOf result) (starLeaf k) (fun _ => 0)
      (by simp [hnil])
    rwa [hnil] at hnumber
  have hsubset : (List.range n).map starLeaf ⊆ childrenOf result ⟨1⟩ := by
    intro kid hkid
    obtain ⟨k, hk, rfl⟩ := List.mem_map.mp hkid
    have hup : (starGraph n).Upstream ⟨1⟩ (starLeaf k) :=
      starGraph_upstream.mpr ⟨rfl, k, List.mem_range.mp hk, rfl⟩
    have hmem := (mem_unitIds_iff hu).mpr (ReflTransGen.single hup)
    have hne : starLeaf k ≠ ⟨1⟩ := fun heq => by
      rw [starLeaf, UnitId.mk.injEq] at heq
      omega
    obtain ⟨down, -, hdown, hupstream, -⟩ := (downstreamOf_spec hu).2 _ hmem hne
    obtain ⟨rfl, -⟩ := starGraph_upstream.mp hupstream
    exact (hchildren.mem_iff _ _).mpr ⟨hmem, hdown⟩
  have hlength := ((List.nodup_range.map starLeaf_injective).subperm hsubset).length_le
  rw [List.length_map, List.length_range] at hlength
  intro hfits
  have hcount := (hfits (fun _ => 1) hleaf).1 _ List.prefix_rfl
  rw [List.map_const', Strahler.topCount_replicate] at hcount
  omega

/-- The orders of `2 ^ 31` units that flow into one panic. -/
theorem strahlerOrders_star : ∃ result,
    sampleDelineate (starGraph (2 ^ 31)) ⟨1⟩ = .ok result ∧
      strahlerOrders result = .error .panic := by
  obtain ⟨u, hu⟩ := exists_collectUpstream_star (2 ^ 31)
  obtain ⟨result, hresult⟩ := exists_sampleDelineate hu
  refine ⟨result, hresult, ?_⟩
  rcases strahlerOrders_cases hresult with ⟨order, -, hall⟩ | ⟨heq, -⟩
  · obtain ⟨u', hu', -, hids, hspans, -⟩ := drainageTree_of_delineate hresult
    have hroot : (⟨1⟩ : UnitId) ∈ result.upstreamUnits.map DelineationUnitMetadata.id := by
      rw [hids]
      exact hspans.root_mem
    obtain ⟨unit, hunit, hid⟩ := List.mem_map.mp hroot
    have hfits := (hall unit hunit).2
    rw [hid] at hfits
    exact absurd hfits (not_kidsFit_star le_rfl hresult)
  · exact heq

end Tree

end WatershedDelineation
