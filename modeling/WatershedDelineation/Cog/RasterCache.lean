import Mathlib.Data.Fintype.Basic
import Mathlib.Data.List.GetD
import WatershedDelineation.Cog.TilePlan
import WatershedDelineation.General.Interleaving
import WatershedDelineation.General.SingleFlight
import WatershedDelineation.Session.ArtifactCache

/-!
# The raster window cache

`RemoteRasterCache::get_or_fetch_window` of `raster_cache.rs`, as tasks that run concurrently on one
cache. A task is split into steps wherever the code awaits something or releases a lock of the
in-flight map; what the object store and the file system do at a step is the answer of the outside.
-/

namespace WatershedDelineation

open Interleaving

/-! ### Requests and paths -/

/-- The name of a kind in the cache. -/
def RasterKind.cacheName : RasterKind → String
  | .flowDir => "flow-dir"
  | .flowAcc => "flow-acc"

/-- The text of a window in the cache. -/
def RasterPixelWindow.cacheFragment (window : RasterPixelWindow) : String :=
  s!"x{window.colOff}-y{window.rowOff}-w{window.width}-h{window.height}"

/-- What a call of the cache is asked for. The box is read where the window is prepared. -/
structure WindowRequest where
  remotePath : String
  kind : RasterKind
  fabricName : String
  adapterVersion : String
  deriving DecidableEq, Repr

/-- The file of a window. The name has the kind, a hash of the path in the store, and the window. -/
def canonicalWindowPath (root : CachePath) (request : WindowRequest) (fragment : String) :
    CachePath :=
  let remoteHash := fnv1a64 request.remotePath.toUTF8.toList
  let key := s!"{request.kind.cacheName}.{remoteHash}.{fragment}.tif"
  (((root.join request.fabricName).join request.adapterVersion).join "raster-windows").join key

/-- A local GeoTIFF window; of it the path is kept. -/
structure LocalizedRasterWindow where
  path : CachePath
  deriving DecidableEq, Repr

/-- A window that has been prepared, and where its file belongs. -/
structure WindowTarget where
  window : RasterPixelWindow
  canonical : CachePath
  deriving DecidableEq, Repr

/-! ### The state of a cache -/

/-- The files below the root by their paths, the in-flight map, and how often each `Notify` has been
notified. A temporary file belongs to the task that writes it. -/
structure RasterCacheState where
  files : CachePath → Option (List UInt8)
  inFlight : CachePath → Option ℕ
  notified : ℕ → ℕ
  nextNotify : ℕ

/-- The cache over a directory, before the first call. -/
def RasterCacheState.new (files : CachePath → Option (List UInt8)) : RasterCacheState :=
  ⟨files, fun _ => none, fun _ => 0, 0⟩

/-- Where a call is in the code. -/
inductive WindowCallState
  /-- `prepare_window` is awaited. -/
  | preparing
  /-- The first look for the file. -/
  | lookingUp (target : WindowTarget)
  /-- About to lock the entry of the in-flight map. -/
  | entering (target : WindowTarget)
  /-- The `Notify` of an occupied entry has been cloned, and the lock released. -/
  | cloned (target : WindowTarget) (notify : ℕ)
  /-- The `Notified` future is awaited; it was created after `seen` notifications. -/
  | waiting (target : WindowTarget) (notify seen : ℕ)
  /-- The look for the file after having been woken. -/
  | rechecking (target : WindowTarget)
  /-- Own entry inserted; the tiles are fetched and decoded. -/
  | fetching (target : WindowTarget) (notify : ℕ)
  /-- The encoded window is being written to a temporary file that holds `temp`. -/
  | writing (target : WindowTarget) (notify : ℕ) (window temp : List UInt8)
  /-- The temporary file is synced and about to be persisted. -/
  | persisting (target : WindowTarget) (notify : ℕ) (window temp : List UInt8)
  /-- The fetch has ended; the entry is about to be removed. -/
  | fetched (target : WindowTarget) (notify : ℕ)
      (result : Except CacheError LocalizedRasterWindow)
  /-- The entry has been removed; `notify_waiters` is about to be called. -/
  | removed (target : WindowTarget) (notify : ℕ)
      (result : Except CacheError LocalizedRasterWindow)
  | returned (result : Except CacheError LocalizedRasterWindow)
  deriving DecidableEq

/-- A call of `get_or_fetch_window`. -/
structure WindowCall where
  request : WindowRequest
  state : WindowCallState

/-- What the object store and the file system answer at a step. -/
structure Outside where
  /-- The outcome of `prepare_window`. -/
  prepareWindow : Except CacheError RasterPixelWindow
  /-- A failure of a look at a file, other than that there is none. -/
  metadata : Option CacheError
  /-- The encoded window that has been fetched and decoded. -/
  fetchWindow : RasterPixelWindow → Except CacheError (List UInt8)
  /-- How many bytes have been written. -/
  write : Except CacheError ℕ
  /-- The outcome of flushing and syncing. -/
  sync : Option CacheError
  /-- A failure to persist, other than that there is a file already. -/
  persist : Option CacheError

/-! ### Steps -/

/-- Whether there is a file with content. -/
def cacheHit (outside : Outside) (files : CachePath → Option (List UInt8)) (path : CachePath) :
    Except CacheError Bool :=
  match outside.metadata with
  | some e => .error e
  | none => .ok ((files path.resolve).any (0 < ·.length))

/-- Persist a temporary file, unless there is a file already. -/
def persistNoclobber (files : CachePath → Option (List UInt8)) (path : CachePath)
    (temp : List UInt8) : CachePath → Option (List UInt8) :=
  if (files path.resolve).isSome then files
  else Function.update files path.resolve (some temp)

namespace WindowCallState

/-- Look for the file, and return it or go on. -/
def look (outside : Outside) (s : RasterCacheState) (target : WindowTarget) : WindowCallState :=
  match cacheHit outside s.files target.canonical with
  | .error e => .returned (.error e)
  | .ok true => .returned (.ok ⟨target.canonical⟩)
  | .ok false => .entering target

/-- Write on, or sync the file when it is complete. -/
def writeOn (outside : Outside) (target : WindowTarget) (notify : ℕ) (window temp : List UInt8) :
    WindowCallState :=
  if temp.length < window.length then
    match outside.write with
    | .error e => .fetched target notify (.error e)
    | .ok count => .writing target notify window (window.take (temp.length + count))
  else
    match outside.sync with
    | some e => .fetched target notify (.error e)
    | none => .persisting target notify window temp

/-- One step of a call. -/
def step (root : CachePath) (request : WindowRequest) (outside : Outside) (s : RasterCacheState) :
    WindowCallState → RasterCacheState × WindowCallState
  | .preparing =>
    match outside.prepareWindow with
    | .error e => (s, .returned (.error e))
    | .ok window =>
      (s, .lookingUp ⟨window, canonicalWindowPath root request window.cacheFragment⟩)
  | .lookingUp target => (s, look outside s target)
  | .entering target =>
    match s.inFlight target.canonical with
    | some notify => (s, .cloned target notify)
    | none =>
      ({ s with
        inFlight := Function.update s.inFlight target.canonical (some s.nextNotify)
        nextNotify := s.nextNotify + 1 }, .fetching target s.nextNotify)
  | .cloned target notify => (s, .waiting target notify (s.notified notify))
  | .waiting target notify seen =>
    if s.notified notify = seen then (s, .waiting target notify seen) else (s, .rechecking target)
  | .rechecking target => (s, look outside s target)
  | .fetching target notify =>
    match outside.fetchWindow target.window with
    | .error e => (s, .fetched target notify (.error e))
    | .ok window => (s, .writing target notify window [])
  | .writing target notify window temp => (s, writeOn outside target notify window temp)
  | .persisting target notify _ temp =>
    match outside.persist with
    | some e => (s, .fetched target notify (.error e))
    | none => ({ s with files := persistNoclobber s.files target.canonical temp },
        .fetched target notify (.ok ⟨target.canonical⟩))
  | .fetched target notify result =>
    ({ s with inFlight := Function.update s.inFlight target.canonical none },
      .removed target notify result)
  | .removed _ notify result =>
    ({ s with notified := Function.update s.notified notify (s.notified notify + 1) },
      .returned result)
  | .returned result => (s, .returned result)

end WindowCallState

/-- The calls of one cache as interleaved tasks. -/
def rasterCache (root : CachePath) : System RasterCacheState WindowCall Outside Empty where
  step outside s call :=
    let next := call.state.step root call.request outside s
    (next.1, { call with state := next.2 })
  env e := e.elim

/-- A cache over a directory, and calls before their first step. -/
def RasterCacheState.start {ι : Type} (files : CachePath → Option (List UInt8))
    (requests : ι → WindowRequest) : Config ι RasterCacheState WindowCall :=
  ⟨.new files, fun i => ⟨requests i, .preparing⟩⟩

/-! ### What one step does -/

namespace WindowCallState

/-- The call has its entry in the in-flight map. -/
def Owns (path : CachePath) (notify : ℕ) : WindowCallState → Prop
  | .fetching target n | .writing target n _ _ | .persisting target n _ _ | .fetched target n _ =>
    target.canonical = path ∧ n = notify
  | _ => False

/-- The call is in `fetch_window_to_path`. -/
def Fetches (path : CachePath) : WindowCallState → Prop
  | .fetching target _ | .writing target _ _ _ | .persisting target _ _ _ =>
    target.canonical = path
  | _ => False

/-- The call will still notify the tasks that wait. -/
def OwesWakeup (notify : ℕ) : WindowCallState → Prop
  | .fetching _ n | .writing _ n _ _ | .persisting _ n _ _ | .fetched _ n _ | .removed _ n _ =>
    n = notify
  | _ => False

/-- The `Notify` with which the next step of the call notifies. -/
def notifies : WindowCallState → Option ℕ
  | .removed _ notify _ => some notify
  | _ => none

/-- The `Notify` that the call has cloned, while it has not yet created its future. -/
def holds : WindowCallState → Option ℕ
  | .cloned _ notify => some notify
  | _ => none

/-- The call has returned. -/
def isReturned : WindowCallState → Bool
  | .returned _ => true
  | _ => false

/-- The part of a call in the single flight. -/
def role : WindowCallState → SingleFlight.Role CachePath
  | .cloned _ notify => .cloned notify
  | .waiting _ notify seen => .waiting notify seen
  | .fetching target notify | .writing target notify _ _ | .persisting target notify _ _
  | .fetched target notify _ => .owner target.canonical notify
  | .removed _ notify _ => .leaving notify
  | _ => .idle

theorem owned_role_eq_some_iff {state : WindowCallState} {path : CachePath} {notify : ℕ} :
    state.role.owned = some (path, notify) ↔ state.Owns path notify := by
  cases state <;> simp [role, SingleFlight.Role.owned, Owns]

theorem owes_role_eq_some_iff {state : WindowCallState} {notify : ℕ} :
    state.role.owes = some notify ↔ state.OwesWakeup notify := by
  cases state <;> simp [role, SingleFlight.Role.owes, OwesWakeup]

instance (notify : ℕ) (state : WindowCallState) : Decidable (state.OwesWakeup notify) :=
  decidable_of_iff _ owes_role_eq_some_iff

theorem holds_of_role {state : WindowCallState} {notify : ℕ} (h : state.role = .cloned notify) :
    state.holds = some notify := by
  cases state with
  | cloned target n => exact congrArg some (SingleFlight.Role.cloned.inj h)
  | _ => cases h

theorem notifies_of_role {state : WindowCallState} {notify : ℕ}
    (h : state.role = .leaving notify) : state.notifies = some notify := by
  cases state with
  | removed target n result => exact congrArg some (SingleFlight.Role.leaving.inj h)
  | _ => cases h

theorem Fetches.owns {state : WindowCallState} {path : CachePath} (h : state.Fetches path) :
    ∃ notify, state.Owns path notify := by
  cases state with
  | fetching _ n | writing _ n _ _ | persisting _ n _ _ => exact ⟨n, h, rfl⟩
  | _ => exact h.elim

end WindowCallState

/-- The part of the state in the single flight. -/
def RasterCacheState.flights (s : RasterCacheState) : SingleFlight.Flights CachePath :=
  ⟨s.inFlight, s.notified, s.nextNotify⟩

section Step

variable {root : CachePath} {request : WindowRequest} {outside : Outside} {s : RasterCacheState}
  {state : WindowCallState} {target : WindowTarget}

open WindowCallState

theorem role_look : (look outside s target).role = .idle := by
  rw [look]
  split <;> rfl

theorem role_writeOn {notify : ℕ} {window temp : List UInt8} :
    (writeOn outside target notify window temp).role = .owner target.canonical notify := by
  rw [writeOn]
  split_ifs <;> split <;> rfl

/-- **Every step is a move of the single flight.** -/
theorem move_of_step (root : CachePath) (request : WindowRequest) (outside : Outside)
    (s : RasterCacheState) (state : WindowCallState) :
    SingleFlight.Move s.flights state.role (state.step root request outside s).1.flights
      (state.step root request outside s).2.role := by
  cases state with
  | preparing =>
    simp only [WindowCallState.step]
    split <;> exact .stay
  | lookingUp target | rechecking target =>
    simp only [WindowCallState.step, role_look]
    exact .stay
  | entering target =>
    simp only [WindowCallState.step]
    split
    · next hentry => exact .clone hentry
    · next hnone => exact .enter hnone
  | cloned target notify => exact .register
  | waiting target notify seen =>
    simp only [WindowCallState.step]
    split_ifs with hseen
    · exact .stay
    · exact .wake hseen
  | fetching target notify =>
    simp only [WindowCallState.step]
    split <;> exact .stay
  | writing target notify window temp =>
    simp only [WindowCallState.step, role_writeOn]
    exact .stay
  | persisting target notify window temp =>
    simp only [WindowCallState.step]
    split <;> exact .stay
  | fetched target notify result => exact .leave
  | removed target notify result => exact .notify
  | returned result => exact .stay

/-- Only the persisting of a temporary file changes the files, and only where there is none. -/
theorem files_step (root : CachePath) (request : WindowRequest) (outside : Outside)
    (s : RasterCacheState) (state : WindowCallState) :
    (state.step root request outside s).1.files = s.files ∨
    ∃ target notify window temp, state = .persisting target notify window temp ∧
      s.files target.canonical.resolve = none ∧
      (state.step root request outside s).1.files
        = Function.update s.files target.canonical.resolve (some temp) ∧
      (state.step root request outside s).2
        = .fetched target notify (.ok ⟨target.canonical⟩) := by
  cases state with
  | persisting target notify window temp =>
    simp only [WindowCallState.step]
    cases outside.persist with
    | some e => exact .inl rfl
    | none =>
      cases hfile : s.files target.canonical.resolve with
      | some bytes => exact .inl (if_pos (by rw [hfile]; rfl))
      | none =>
        exact .inr ⟨target, notify, window, temp, rfl, hfile, if_neg (by rw [hfile]; simp), rfl⟩
  | preparing | fetching target notify =>
    simp only [WindowCallState.step]
    split <;> exact .inl rfl
  | entering target =>
    simp only [WindowCallState.step]
    split <;> exact .inl rfl
  | waiting target notify seen =>
    simp only [WindowCallState.step]
    split_ifs <;> exact .inl rfl
  | _ => exact .inl rfl

end Step

/-! ### Files -/

/-- What a call relies on and has established about the files. -/
def WindowCallState.Settled (files : CachePath → Option (List UInt8)) : WindowCallState → Prop
  | .writing _ _ window temp => temp <+: window
  | .persisting _ _ window temp => temp = window
  | .fetched _ _ (.ok localized) | .removed _ _ (.ok localized) | .returned (.ok localized) =>
    (files localized.path.resolve).isSome
  | _ => True

theorem WindowCallState.Settled.mono {files files' : CachePath → Option (List UInt8)}
    {state : WindowCallState} (h : state.Settled files)
    (hfiles : ∀ path, (files path).isSome → (files' path).isSome) : state.Settled files' := by
  cases state with
  | fetched _ _ result | removed _ _ result | returned result =>
    cases result with
    | ok localized => exact hfiles _ h
    | error e => exact h
  | _ => exact h

section Step

variable {root : CachePath} {request : WindowRequest} {outside : Outside} {s : RasterCacheState}
  {state : WindowCallState} {target : WindowTarget}

/-- A file stays where it is, as it is. -/
theorem files_step_of_some (root : CachePath) (request : WindowRequest) (outside : Outside)
    (state : WindowCallState) {path : CachePath} {bytes : List UInt8}
    (h : s.files path = some bytes) :
    (state.step root request outside s).1.files path = some bytes := by
  rcases files_step root request outside s state with heq | ⟨target, _, _, _, -, hnone, heq, -⟩
  · rw [heq, h]
  · rw [heq, Function.update_of_ne, h]
    rintro rfl
    rw [h] at hnone
    exact Option.some_ne_none _ hnone

theorem settled_look : (WindowCallState.look outside s target).Settled s.files := by
  rw [WindowCallState.look]
  split
  · trivial
  · next hhit =>
    rw [cacheHit] at hhit
    split at hhit
    · cases hhit
    · exact Option.isSome_of_any (Except.ok.inj hhit)
  · trivial

theorem settled_step (h : state.Settled s.files) :
    (state.step root request outside s).2.Settled (state.step root request outside s).1.files := by
  cases state with
  | preparing =>
    simp only [WindowCallState.step]
    split <;> trivial
  | lookingUp target | rechecking target => exact settled_look
  | entering target =>
    simp only [WindowCallState.step]
    split <;> trivial
  | cloned target notify => trivial
  | waiting target notify seen =>
    simp only [WindowCallState.step]
    split_ifs <;> trivial
  | fetching target notify =>
    simp only [WindowCallState.step]
    split
    · trivial
    · exact List.nil_prefix
  | writing target notify window temp =>
    simp only [WindowCallState.step, WindowCallState.writeOn]
    -- bytes are left to write, or the temporary file is the whole window
    split_ifs with hlt
    · split
      · trivial
      · exact List.take_prefix _ _
    · split
      · trivial
      · exact h.eq_of_length_le (Nat.le_of_not_lt hlt)
  | persisting target notify window temp =>
    simp only [WindowCallState.step]
    split
    · trivial
    · change (persistNoclobber s.files target.canonical temp target.canonical.resolve).isSome
      rw [persistNoclobber]
      split_ifs with hsome
      · exact hsome
      · rw [Function.update_self]
        rfl
  | fetched target notify result | removed target notify result | returned result =>
    cases result <;> exact h

end Step

/-! ### Where windows come from -/

/-- The targets that a call works with have been prepared, and the bytes that it writes have been
fetched. -/
def WindowCallState.Traces (prepared : WindowTarget → Prop)
    (fetched : WindowTarget → List UInt8 → Prop) : WindowCallState → Prop
  | .preparing => True
  | .lookingUp target | .entering target | .cloned target _ | .waiting target _ _
  | .rechecking target | .fetching target _ => prepared target
  | .writing target _ window _ | .persisting target _ window _ =>
    prepared target ∧ fetched target window
  | .fetched target _ result | .removed target _ result =>
    prepared target ∧ ∀ localized, result = .ok localized → localized.path = target.canonical
  | .returned (.ok localized) => ∃ target, prepared target ∧ localized.path = target.canonical
  | .returned (.error _) => True

section Traces

variable {prepared prepared' : WindowTarget → Prop}
  {fetched fetched' : WindowTarget → List UInt8 → Prop}
  {root : CachePath} {request : WindowRequest} {outside : Outside} {s : RasterCacheState}
  {state : WindowCallState} {target : WindowTarget}

theorem WindowCallState.Traces.mono (h : state.Traces prepared fetched)
    (hprepared : ∀ target, prepared target → prepared' target)
    (hfetched : ∀ target window, fetched target window → fetched' target window) :
    state.Traces prepared' fetched' := by
  cases state with
  | preparing => trivial
  | lookingUp target | entering target | cloned target notify | waiting target notify seen
  | rechecking target | fetching target notify => exact hprepared target h
  | writing target notify window temp | persisting target notify window temp =>
    exact ⟨hprepared target h.1, hfetched target window h.2⟩
  | fetched target notify result | removed target notify result =>
    exact ⟨hprepared target h.1, h.2⟩
  | returned result =>
    cases result with
    | error e => trivial
    | ok localized =>
      obtain ⟨target, htarget, hpath⟩ := h
      exact ⟨target, hprepared target htarget, hpath⟩

theorem traces_look (h : prepared target) :
    (WindowCallState.look outside s target).Traces prepared fetched := by
  rw [WindowCallState.look]
  split
  · trivial
  · exact ⟨target, h, rfl⟩
  · exact h

/-- A step works with what it had, or with what the outside gives at it. -/
theorem traces_step
    (hprepare : ∀ window, state = .preparing → outside.prepareWindow = .ok window →
      prepared ⟨window, canonicalWindowPath root request window.cacheFragment⟩)
    (hfetch : ∀ target notify window, state = .fetching target notify →
      outside.fetchWindow target.window = .ok window → fetched target window)
    (h : state.Traces prepared fetched) :
    (state.step root request outside s).2.Traces prepared fetched := by
  cases state with
  | preparing =>
    simp only [WindowCallState.step]
    split
    · trivial
    · next window hwindow => exact hprepare window rfl hwindow
  | lookingUp target | rechecking target => exact traces_look h
  | entering target =>
    simp only [WindowCallState.step]
    split <;> exact h
  | cloned target notify => exact h
  | waiting target notify seen =>
    simp only [WindowCallState.step]
    split_ifs <;> exact h
  | fetching target notify =>
    simp only [WindowCallState.step]
    split
    · exact ⟨h, nofun⟩
    · next window hwindow => exact ⟨h, hfetch target notify window rfl hwindow⟩
  | writing target notify window temp =>
    simp only [WindowCallState.step, WindowCallState.writeOn]
    split_ifs <;> split
    · exact ⟨h.1, nofun⟩
    · exact h
    · exact ⟨h.1, nofun⟩
    · exact h
  | persisting target notify window temp =>
    simp only [WindowCallState.step]
    split
    · exact ⟨h.1, nofun⟩
    · refine ⟨h.1, fun localized hlocalized => ?_⟩
      obtain rfl := Except.ok.inj hlocalized
      rfl
  | fetched target notify result => exact h
  | removed target notify result =>
    cases result with
    | error e => trivial
    | ok localized => exact ⟨target, h.1, h.2 localized rfl⟩
  | returned result => exact h

end Traces

/-! ### Runs -/

section Run

variable {ι : Type} [DecidableEq ι]

/-- The configurations of a cache over a directory with files, whose calls run by a schedule. -/
def cacheRun (root : CachePath) (files : CachePath → Option (List UInt8))
    (requests : ι → WindowRequest) (schedule : ℕ → Event ι Outside Empty) :
    ℕ → Config ι RasterCacheState WindowCall :=
  run (rasterCache root) (RasterCacheState.start files requests) schedule

/-- A call waits on a `Notify` on which no call will call `notify_waiters` any more. -/
def Stranded (c : Config ι RasterCacheState WindowCall) (i : ι) : Prop :=
  ∃ target notify, (c.task i).state = .waiting target notify (c.shared.notified notify) ∧
    ∀ j, ¬(c.task j).state.OwesWakeup notify

/-- A call calls `notify_waiters` while another one has cloned the `Notify` and has not yet created
its future. -/
def LosesWakeup (c : Config ι RasterCacheState WindowCall) : Event ι Outside Empty → Prop
  | .task i _ => ∃ j, (c.task i).state.notifies.isSome ∧
      (c.task j).state.holds = (c.task i).state.notifies
  | .env _ => False

instance [Fintype ι] (c : Config ι RasterCacheState WindowCall) (event : Event ι Outside Empty) :
    Decidable (LosesWakeup c event) :=
  match event with
  | .task i _ => inferInstanceAs (Decidable (∃ j, (c.task i).state.notifies.isSome ∧
      (c.task j).state.holds = (c.task i).state.notifies))
  | .env _ => inferInstanceAs (Decidable False)

variable {root : CachePath} {files : CachePath → Option (List UInt8)}
  {requests : ι → WindowRequest} {schedule : ℕ → Event ι Outside Empty}
  {c : Config ι RasterCacheState WindowCall}

/-- The roles of all calls. -/
private def roles (c : Config ι RasterCacheState WindowCall) (i : ι) :
    SingleFlight.Role CachePath :=
  (c.task i).state.role

private theorem roles_fire (c : Config ι RasterCacheState WindowCall) (i : ι) (outside : Outside) :
    roles (fire (rasterCache root) c (.task i outside)) = Function.update (roles c) i
      ((c.task i).state.step root (c.task i).request outside c.shared).2.role := by
  funext j
  rcases eq_or_ne j i with rfl | hne
  · rw [Function.update_self, roles, fire_self]
    rfl
  · rw [Function.update_of_ne hne, roles, fire_of_ne hne]
    rfl

/-- A call that has returned does nothing more. -/
theorem fire_of_returned {i : ι} {outside : Outside}
    (h : (c.task i).state.isReturned = true) :
    fire (rasterCache root) c (.task i outside) = c := by
  have hstep : (rasterCache root).step outside c.shared (c.task i) = (c.shared, c.task i) := by
    cases hcall : c.task i with
    | mk request state =>
      rw [hcall] at h
      cases state with
      | returned result => rfl
      | _ => cases h
  rw [fire, hstep, Function.update_eq_self]

/-- The entries of the in-flight map and the calls that own them. -/
theorem exclusive_cacheRun (n : ℕ) :
    SingleFlight.Exclusive (cacheRun root files requests schedule n).shared.flights
      (roles (cacheRun root files requests schedule n)) := by
  refine run_invariant (c := RasterCacheState.start files requests)
      (P := fun c => SingleFlight.Exclusive c.shared.flights (roles c))
    (SingleFlight.exclusive_start (fun _ => rfl) fun _ => rfl) (fun n h => ?_) n
  cases schedule n with
  | env e => exact e.elim
  | task i outside =>
    rw [roles_fire]
    exact h.move (move_of_step root _ outside _ _)

/-- **No waiter is stranded**, in every run in which no call notifies while another one has cloned
the `Notify` and has not yet created its future. -/
theorem not_stranded_of_kept (root : CachePath) (files : CachePath → Option (List UInt8))
    (requests : ι → WindowRequest) (schedule : ℕ → Event ι Outside Empty)
    (hkept : ∀ n, ¬LosesWakeup (cacheRun root files requests schedule n) (schedule n))
    (n : ℕ) (i : ι) : ¬Stranded (cacheRun root files requests schedule n) i := by
  have howed : SingleFlight.Owed (cacheRun root files requests schedule n).shared.flights
      (roles (cacheRun root files requests schedule n)) := by
    refine run_invariant (c := RasterCacheState.start files requests)
      (P := fun c => SingleFlight.Owed c.shared.flights (roles c))
      (SingleFlight.owed_start (fun _ => rfl) fun _ => rfl) (fun n h => ?_) n
    have hkeptn := hkept n
    cases hevent : schedule n with
    | env e => exact e.elim
    | task j outside =>
      rw [roles_fire]
      refine h.move (move_of_step root _ outside _ _) ?_
      rintro ⟨notify, hleaving, -, k, hcloned⟩
      have hnotifies := WindowCallState.notifies_of_role hleaving
      rw [hevent] at hkeptn
      exact hkeptn ⟨k, congrArg Option.isSome hnotifies,
        (WindowCallState.holds_of_role hcloned).trans hnotifies.symm⟩
  rintro ⟨target, notify, hwaiting, hnone⟩
  have hrole : roles (cacheRun root files requests schedule n) i = .waiting notify
      ((cacheRun root files requests schedule n).shared.notified notify) := by
    rw [roles, hwaiting]
    rfl
  obtain ⟨j, hj⟩ := (howed.waiting i notify _ hrole).2 rfl
  exact hnone j (WindowCallState.owes_role_eq_some_iff.mp hj)

end Run

/-! ### Single flight and complete windows -/

section Run

variable {ι : Type} [DecidableEq ι] {root : CachePath} {files : CachePath → Option (List UInt8)}
  {requests : ι → WindowRequest} {schedule : ℕ → Event ι Outside Empty}

/-- The request of a call stays. -/
theorem request_cacheRun (n : ℕ) (i : ι) :
    ((cacheRun root files requests schedule n).task i).request = requests i := by
  refine run_invariant (c := RasterCacheState.start files requests)
    (P := fun c => ∀ i, (c.task i).request = requests i) (fun _ => rfl) ?_ n i
  intro n h j
  cases schedule n with
  | env e => exact e.elim
  | task i outside =>
    rcases eq_or_ne j i with rfl | hne
    · rw [fire_self]
      exact h j
    · rw [fire_of_ne hne]
      exact h j

/-- The step of a call in a run. -/
theorem cacheRun_succ {n : ℕ} {i : ι} {outside : Outside} (hevent : schedule n = .task i outside) :
    (cacheRun root files requests schedule (n + 1)).shared
        = (((cacheRun root files requests schedule n).task i).state.step root (requests i) outside
          (cacheRun root files requests schedule n).shared).1 ∧
      ((cacheRun root files requests schedule (n + 1)).task i).state
        = (((cacheRun root files requests schedule n).task i).state.step root (requests i) outside
          (cacheRun root files requests schedule n).shared).2 := by
  have hrun : cacheRun root files requests schedule (n + 1)
      = fire (rasterCache root) (cacheRun root files requests schedule n) (.task i outside) := by
    rw [← hevent]
    rfl
  rw [hrun, fire_shared, fire_self, ← @request_cacheRun ι _ root files requests schedule n i]
  exact ⟨rfl, rfl⟩

theorem settled_cacheRun (n : ℕ) (i : ι) :
    ((cacheRun root files requests schedule n).task i).state.Settled
      (cacheRun root files requests schedule n).shared.files := by
  refine run_invariant (c := RasterCacheState.start files requests)
    (P := fun c => ∀ i, (c.task i).state.Settled c.shared.files) (fun _ => trivial) ?_ n i
  intro n h j
  cases schedule n with
  | env e => exact e.elim
  | task i outside =>
    rcases eq_or_ne j i with rfl | hne
    · rw [fire_self, fire_shared]
      exact settled_step (h j)
    · rw [fire_of_ne hne, fire_shared]
      refine (h j).mono fun path hsome => ?_
      obtain ⟨bytes, hbytes⟩ := Option.isSome_iff_exists.mp hsome
      exact Option.isSome_iff_exists.mpr ⟨bytes, files_step_of_some root _ outside _ hbytes⟩

/-- What a call has been given: the window of the target was prepared for it, and the file belongs
to its key and that window. -/
def PreparedFor (root : CachePath) (files : CachePath → Option (List UInt8))
    (requests : ι → WindowRequest) (schedule : ℕ → Event ι Outside Empty) (i : ι) (n : ℕ)
    (target : WindowTarget) : Prop :=
  target.canonical = canonicalWindowPath root (requests i) target.window.cacheFragment ∧
    ∃ m < n, ∃ outside, schedule m = .task i outside ∧
      ((cacheRun root files requests schedule m).task i).state = .preparing ∧
      outside.prepareWindow = .ok target.window

/-- A fetch of a call has succeeded and has given the bytes of a window. -/
def FetchedBy (root : CachePath) (files : CachePath → Option (List UInt8))
    (requests : ι → WindowRequest) (schedule : ℕ → Event ι Outside Empty) (i : ι) (n : ℕ)
    (target : WindowTarget) (window : List UInt8) : Prop :=
  ∃ m < n, ∃ outside notify, schedule m = .task i outside ∧
    ((cacheRun root files requests schedule m).task i).state = .fetching target notify ∧
    outside.fetchWindow target.window = .ok window

/-- The windows and the bytes that a call works with have been given to it. -/
theorem traces_cacheRun (n : ℕ) (i : ι) :
    ((cacheRun root files requests schedule n).task i).state.Traces
      (PreparedFor root files requests schedule i n)
      (FetchedBy root files requests schedule i n) := by
  refine (@run_history _ _ _ _ _ _ (rasterCache root) (RasterCacheState.start files requests)
    schedule
    (fun i n call => call.request = requests i ∧ call.state.Traces
      (PreparedFor root files requests schedule i n) (FetchedBy root files requests schedule i n))
    (fun i => ⟨rfl, trivial⟩) ?_ ?_ n i).2
  · rintro i n call ⟨hrequest, htraces⟩
    refine ⟨hrequest, htraces.mono ?_ ?_⟩
    · rintro target ⟨hcanonical, m, hm, h⟩
      exact ⟨hcanonical, m, Nat.lt_succ_of_lt hm, h⟩
    · rintro target window ⟨m, hm, h⟩
      exact ⟨m, Nat.lt_succ_of_lt hm, h⟩
  · rintro n i outside hevent ⟨hrequest, htraces⟩
    refine ⟨hrequest, traces_step ?_ ?_ (htraces.mono ?_ ?_)⟩
    · intro window hstate hprepare
      rw [hrequest]
      exact ⟨rfl, n, Nat.lt_succ_self n, outside, hevent, hstate, hprepare⟩
    · intro target notify window hstate hfetch
      exact ⟨n, Nat.lt_succ_self n, outside, notify, hevent, hstate, hfetch⟩
    · rintro target ⟨hcanonical, m, hm, h⟩
      exact ⟨hcanonical, m, Nat.lt_succ_of_lt hm, h⟩
    · rintro target window ⟨m, hm, h⟩
      exact ⟨m, Nat.lt_succ_of_lt hm, h⟩

/-- At a step of a run, a fetch that has succeeded is published: all bytes that it gave become the
file of its target. -/
def Publishes (root : CachePath) (files : CachePath → Option (List UInt8))
    (requests : ι → WindowRequest) (schedule : ℕ → Event ι Outside Empty) (n : ℕ)
    (path : CachePath) (window : List UInt8) : Prop :=
  ∃ i target, target.canonical.resolve = path ∧
    PreparedFor root files requests schedule i n target ∧
    FetchedBy root files requests schedule i n target window ∧
    (cacheRun root files requests schedule n).shared.files path = none ∧
    (cacheRun root files requests schedule (n + 1)).shared.files path = some window

/-- **Files are complete windows.** A file that was not there from the start has been published. -/
private theorem published_cacheRun (n : ℕ) (path : CachePath) (bytes : List UInt8)
    (h : (cacheRun root files requests schedule n).shared.files path = some bytes) :
    files path = some bytes ∨ ∃ m < n, Publishes root files requests schedule m path bytes := by
  induction n with
  | zero => exact .inl h
  | succ n ih =>
    have hearlier (h : (cacheRun root files requests schedule n).shared.files path = some bytes) :
        files path = some bytes ∨
          ∃ m < n + 1, Publishes root files requests schedule m path bytes :=
      (ih h).imp_right fun ⟨m, hm, hpub⟩ => ⟨m, Nat.lt_succ_of_lt hm, hpub⟩
    cases hevent : schedule n with
    | env e => exact e.elim
    | task i outside =>
      have hsettled := @settled_cacheRun ι _ root files requests schedule n i
      have htraces := @traces_cacheRun ι _ root files requests schedule n i
      obtain ⟨hshared, -⟩ := @cacheRun_succ ι _ root files requests schedule n i _ hevent
      have hafter := h
      rw [hshared] at h
      rcases files_step root (requests i) outside
        (cacheRun root files requests schedule n).shared
        ((cacheRun root files requests schedule n).task i).state with
        heq | ⟨target, notify, window, temp, hstate, hnone, heq, -⟩
      · exact hearlier (heq ▸ h)
      · have hfiles : Function.update (cacheRun root files requests schedule n).shared.files
            target.canonical.resolve (some temp) path = some bytes := heq ▸ h
        rcases eq_or_ne path target.canonical.resolve with rfl | hne
        · rw [Function.update_self] at hfiles
          obtain rfl := Option.some.inj hfiles
          rw [hstate] at hsettled htraces
          -- a temporary file that is persisted has the whole window
          obtain rfl : temp = window := hsettled
          obtain ⟨hprepared, hfetched⟩ := htraces
          exact .inr ⟨n, Nat.lt_succ_self n, i, target, rfl, hprepared, hfetched, hnone, hafter⟩
        · rw [Function.update_of_ne hne] at hfiles
          exact hearlier hfiles

/-- A cache directory: the files that caches leave which run over it one after the other, and the
windows that their fetches have published. Files may be removed in between. -/
inductive CacheDirectory (root : CachePath) :
    (CachePath → Option (List UInt8)) → Set (CachePath × List UInt8) → Prop
  | empty : CacheDirectory root (fun _ => none) ∅
  | run {files : CachePath → Option (List UInt8)} {windows : Set (CachePath × List UInt8)}
      {κ : Type} [DecidableEq κ] (requests : κ → WindowRequest)
      (schedule : ℕ → Event κ Outside Empty) (n : ℕ) :
      CacheDirectory root files windows →
      CacheDirectory root (cacheRun root files requests schedule n).shared.files
        (windows ∪ {window | ∃ m < n, Publishes root files requests schedule m window.1 window.2})
  | remove {files files' : CachePath → Option (List UInt8)}
      {windows : Set (CachePath × List UInt8)} :
      CacheDirectory root files windows →
      (∀ path bytes, files' path = some bytes → files path = some bytes) →
      CacheDirectory root files' windows

/-- Every file of a cache directory has been published. -/
theorem CacheDirectory.mem_windows {windows : Set (CachePath × List UInt8)}
    (h : CacheDirectory root files windows) {path : CachePath} {bytes : List UInt8}
    (hfile : files path = some bytes) : (path, bytes) ∈ windows := by
  induction h with
  | empty => cases hfile
  | run requests schedule n _ ih =>
    rcases published_cacheRun n path bytes hfile with hstart | hpublished
    · exact .inl (ih hstart)
    · exact .inr hpublished
  | remove _ hfiles ih => exact ih (hfiles path bytes hfile)

/-- The entries of the in-flight map are those of the calls whose fetch is running or has just
ended. -/
theorem inFlight_iff_owns (n : ℕ) (path : CachePath) (notify : ℕ) :
    (cacheRun root files requests schedule n).shared.inFlight path = some notify ↔
      ∃ i, ((cacheRun root files requests schedule n).task i).state.Owns path notify := by
  have h := @exclusive_cacheRun ι _ root files requests schedule n
  constructor
  · intro hentry
    obtain ⟨i, hi⟩ := h.owner path notify hentry
    exact ⟨i, WindowCallState.owned_role_eq_some_iff.mp hi⟩
  · rintro ⟨i, hi⟩
    exact h.entry i path notify (WindowCallState.owned_role_eq_some_iff.mpr hi)

/-- **Single flight, and only complete windows.** In every interleaving of calls for any windows,
whose fetches succeed or fail, over a directory with files that earlier caches have left:

* at most one call at a time is fetching to a path;
* where a call has returned a window, it names the file of its own key and of the window that was
  prepared for it, and there is that file: it has all bytes of a window that a fetch to this file
  has given, in this run or in an earlier one;
* an entry of the in-flight map is that of a call whose fetch is running or has just ended, it is
  gone once that call has made its next step, and a call that finds none for its path fetches. -/
theorem getOrFetchWindow_singleFlight (root : CachePath)
    (files : CachePath → Option (List UInt8)) (windows : Set (CachePath × List UInt8))
    (hdirectory : CacheDirectory root files windows) (requests : ι → WindowRequest)
    (schedule : ℕ → Event ι Outside Empty) (n : ℕ) :
    (∀ i j path, ((cacheRun root files requests schedule n).task i).state.Fetches path →
      ((cacheRun root files requests schedule n).task j).state.Fetches path → i = j) ∧
    (∀ i localized,
      ((cacheRun root files requests schedule n).task i).state = .returned (.ok localized) →
      (∃ target, PreparedFor root files requests schedule i n target ∧
        localized.path = target.canonical) ∧
      ∃ bytes, (cacheRun root files requests schedule n).shared.files localized.path.resolve
          = some bytes ∧
        ((localized.path.resolve, bytes) ∈ windows ∨
          ∃ m < n, Publishes root files requests schedule m localized.path.resolve bytes)) ∧
    (∀ path notify, (cacheRun root files requests schedule n).shared.inFlight path = some notify →
      ∃ i, ((cacheRun root files requests schedule n).task i).state.Owns path notify) ∧
    (∀ i outside target notify result, schedule n = .task i outside →
      ((cacheRun root files requests schedule n).task i).state = .fetched target notify result →
      (cacheRun root files requests schedule (n + 1)).shared.inFlight target.canonical = none) ∧
    (∀ i outside target, schedule n = .task i outside →
      ((cacheRun root files requests schedule n).task i).state = .entering target →
      (∀ j notify,
        ¬((cacheRun root files requests schedule n).task j).state.Owns target.canonical notify) →
      ((cacheRun root files requests schedule (n + 1)).task i).state.Fetches target.canonical) := by
  refine ⟨fun i j path hi hj => ?_, fun i localized hreturned => ?_,
    fun path notify => (inFlight_iff_owns n path notify).mp,
    fun i outside target notify result hevent hfetched => ?_,
    fun i outside target hevent hentering hnone => ?_⟩
  · obtain ⟨notify, hi⟩ := hi.owns
    obtain ⟨notify', hj⟩ := hj.owns
    exact (exclusive_cacheRun n).unique i j path notify notify'
      (WindowCallState.owned_role_eq_some_iff.mpr hi)
      (WindowCallState.owned_role_eq_some_iff.mpr hj)
  · have hsettled := @settled_cacheRun ι _ root files requests schedule n i
    have htraces := @traces_cacheRun ι _ root files requests schedule n i
    rw [hreturned] at hsettled htraces
    obtain ⟨bytes, hbytes⟩ := Option.isSome_iff_exists.mp hsettled
    exact ⟨htraces, bytes, hbytes,
      (published_cacheRun n _ bytes hbytes).imp_left hdirectory.mem_windows⟩
  · rw [(cacheRun_succ hevent).1, hfetched]
    exact Function.update_self _ _ _
  · have hvacant : (cacheRun root files requests schedule n).shared.inFlight target.canonical
        = none := by
      rw [Option.eq_none_iff_forall_ne_some]
      intro notify hentry
      obtain ⟨j, hj⟩ := (inFlight_iff_owns n _ notify).mp hentry
      exact hnone j notify hj
    rw [(cacheRun_succ hevent).2, hentering]
    simp only [WindowCallState.step, hvacant]
    rfl

end Run

/-! ### A lost notification -/

section Sample

/-- Everything succeeds; the window has three bytes. -/
def Outside.ok : Outside :=
  ⟨.ok ⟨0, 0, 1, 1⟩, none, fun _ => .ok [1, 2, 3], .ok 3, none, none⟩

/-- Two calls for one window. -/
def sampleRequests : Bool → WindowRequest := fun _ => ⟨"flow_dir.tif", .flowDir, "fabric", "v1"⟩

/-- A schedule of the two calls, by turns; after its end the first call is scheduled. -/
def turns (l : List Bool) (n : ℕ) : Event Bool Outside Empty := .task (l.getD n true) .ok

/-- The second call clones the `Notify` of the first, which then fetches to the end; after that the
second call creates its future. -/
def lostWakeupTurns : List Bool := List.replicate 3 true ++ List.replicate 3 false
  ++ List.replicate 6 true ++ [false]

/-- A waiter can be stranded. -/
theorem stranded_lostWakeup : ¬∀ (root : CachePath) (files : CachePath → Option (List UInt8))
    (requests : Bool → WindowRequest) (schedule : ℕ → Event Bool Outside Empty) (n : ℕ) (i : Bool),
    ¬Stranded (cacheRun root files requests schedule n) i := by
  intro h
  refine h [] (fun _ => none) sampleRequests (turns lostWakeupTurns) 13 false
    ⟨⟨⟨0, 0, 1, 1⟩, canonicalWindowPath [] (sampleRequests true)
      (RasterPixelWindow.cacheFragment ⟨0, 0, 1, 1⟩)⟩, 0, ?_, ?_⟩
  · decide +kernel
  · decide +kernel

/-- The second call creates its future before the first one notifies, and is woken. -/
def keptTurns : List Bool := List.replicate 3 true ++ List.replicate 4 false
  ++ List.replicate 6 true ++ List.replicate 2 false

theorem not_stranded_of_kept_turns :
    (∀ n, ¬LosesWakeup (cacheRun [] (fun _ => none) sampleRequests (turns keptTurns) n)
      (turns keptTurns n)) ∧
    ∀ n i, ¬Stranded (cacheRun [] (fun _ => none) sampleRequests (turns keptTurns) n) i := by
  have hkept (n : ℕ) : ¬LosesWakeup
      (cacheRun [] (fun _ => none) sampleRequests (turns keptTurns) n) (turns keptTurns n) := by
    rcases Nat.lt_or_ge n 15 with hn | hn
    · have hturns : ∀ n < 15, ¬LosesWakeup
          (cacheRun [] (fun _ => none) sampleRequests (turns keptTurns) n) (turns keptTurns n) := by
        decide +kernel
      exact hturns n hn
    · -- both calls have returned, and the first is scheduled on and on
      have hturn (k : ℕ) : turns keptTurns (15 + k) = .task true .ok :=
        congrArg (Event.task · Outside.ok) (List.getD_eq_default _ _ (Nat.le_add_right 15 k))
      have hreturned : ((cacheRun [] (fun _ => none) sampleRequests (turns keptTurns) 15).task
          true).state.notifies = none := by decide +kernel
      have hstay (k : ℕ) : cacheRun [] (fun _ => none) sampleRequests (turns keptTurns) (15 + k)
          = cacheRun [] (fun _ => none) sampleRequests (turns keptTurns) 15 := by
        induction k with
        | zero => rfl
        | succ k ih =>
          change fire _ (cacheRun _ _ _ _ (15 + k)) (turns keptTurns (15 + k)) = _
          rw [ih, hturn]
          exact fire_of_returned (by decide +kernel)
      obtain ⟨k, rfl⟩ := Nat.exists_eq_add_of_le hn
      rw [hstay, hturn]
      rintro ⟨-, hsome, -⟩
      rw [hreturned] at hsome
      exact Bool.noConfusion hsome
  exact ⟨hkept, not_stranded_of_kept [] (fun _ => none) sampleRequests (turns keptTurns) hkept⟩

/-- In this run the second call returns the window that the first one has published. -/
theorem getOrFetchWindow_singleFlight_kept : ∃ localized bytes,
    ((cacheRun [] (fun _ => none) sampleRequests (turns keptTurns) 15).task false).state
        = .returned (.ok localized) ∧
      ∃ m < 15, Publishes [] (fun _ => none) sampleRequests (turns keptTurns) m
        localized.path.resolve bytes := by
  have hreturned : ((cacheRun [] (fun _ => none) sampleRequests (turns keptTurns) 15).task
      false).state = .returned (.ok ⟨canonicalWindowPath [] (sampleRequests false)
        (RasterPixelWindow.cacheFragment ⟨0, 0, 1, 1⟩)⟩) := by
    decide +kernel
  obtain ⟨-, hok, -⟩ := getOrFetchWindow_singleFlight [] (fun _ => none) ∅ .empty sampleRequests
    (turns keptTurns) 15
  obtain ⟨-, bytes, -, hsource⟩ := hok false _ hreturned
  exact ⟨_, bytes, hreturned, hsource.resolve_left (Set.notMem_empty _)⟩

end Sample

end WatershedDelineation
