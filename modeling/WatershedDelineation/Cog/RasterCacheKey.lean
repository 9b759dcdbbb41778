import WatershedDelineation.Cog.RasterCache

/-!
# What the raster window cache returns

Sequences of calls over one cache directory, by any sessions: each call names an object of some
store, and objects may be rewritten between calls. The file of a window is named by the kind of the
raster, the path inside the store, the window, the fabric and the adapter version, and a file that
is there is returned unread. So a call is right (`PointsAtOwn`) as long as its window is that of
every earlier call with the same file (`pointsAtOwn_of_keysAgree`), and two stores with one path
suffice to make it wrong (`not_pointsAtOwn_buckets`).
-/

namespace WatershedDelineation

open Interleaving

/-- What the header and the tiles of an object hold: the window for a box, and its GeoTIFF. -/
structure WindowReaders (Object Box : Type) where
  prepareWindow : Object → RasterKind → Box → Except CacheError RasterPixelWindow
  fetchWindow : Object → RasterPixelWindow → Except CacheError (List UInt8)

/-- A call of a session, with the object that it names, as it is during the call. The store does
not enter into the file name. -/
structure RasterCall (Object Box : Type) where
  store : String
  request : WindowRequest
  box : Box
  object : Option Object

namespace RasterCall

variable {Object Box : Type} (readers : WindowReaders Object Box) (call : RasterCall Object Box)

/-- The pixel window of the call. -/
def window : Option RasterPixelWindow :=
  call.object.bind fun object =>
    (readers.prepareWindow object call.request.kind call.box).toOption

/-- The file of the call. -/
def file (root : CachePath) : Option CachePath :=
  (call.window readers).map fun window =>
    (canonicalWindowPath root call.request window.cacheFragment).resolve

/-- The decoded window of the object that the call names. -/
def content : Option (List UInt8) :=
  call.object.bind fun object =>
    (call.window readers).bind fun window => (readers.fetchWindow object window).toOption

/-- What a step is answered stems from the object, unless it is an error. -/
structure Answers (outside : Outside) : Prop where
  prepareWindow : ∀ window, outside.prepareWindow = .ok window → call.window readers = some window
  fetchWindow : ∀ window bytes, outside.fetchWindow window = .ok bytes →
    ∃ object, call.object = some object ∧ readers.fetchWindow object window = .ok bytes

/-- The call runs alone, from a directory with files, and returns. -/
def Runs (root : CachePath) (files : CachePath → Option (List UInt8))
    (result : Except CacheError LocalizedRasterWindow)
    (files' : CachePath → Option (List UInt8)) : Prop :=
  ∃ answers : ℕ → Outside, (∀ n, call.Answers readers (answers n)) ∧ ∃ n,
    ((cacheRun root files (fun _ : Unit => call.request)
      (fun n => .task () (answers n)) n).task ()).state = .returned result ∧
    (cacheRun root files (fun _ : Unit => call.request)
      (fun n => .task () (answers n)) n).shared.files = files'

end RasterCall

/-- A call that has returned. -/
structure CompletedCall (Object Box : Type) where
  call : RasterCall Object Box
  result : Except CacheError LocalizedRasterWindow

section History

variable {Object Box : Type} (readers : WindowReaders Object Box) (root : CachePath)

/-- Sequences of calls over one cache directory, the last call first, with the files at the end. -/
inductive WindowHistory : (CachePath → Option (List UInt8)) → List (CompletedCall Object Box) → Prop
  | nil : WindowHistory (fun _ => none) []
  | call {files files' : CachePath → Option (List UInt8)}
      {earlier : List (CompletedCall Object Box)} {last : CompletedCall Object Box} :
      WindowHistory files earlier →
      last.call.Runs readers root files last.result files' →
      WindowHistory files' (last :: earlier)

/-- If the call has returned a window, its file holds the decoded window of the object that the call
named. -/
def PointsAtOwn (files : CachePath → Option (List UInt8)) (completed : CompletedCall Object Box) :
    Prop :=
  ∀ localized, completed.result = .ok localized →
    ∃ bytes, completed.call.content readers = some bytes ∧
      files localized.path.resolve = some bytes

/-- Every earlier call that has returned a window with the same file had the same decoded window. -/
def KeyAgrees (earlier : List (CompletedCall Object Box)) (call : RasterCall Object Box) : Prop :=
  ∀ completed ∈ earlier, completed.result.isOk = true →
    completed.call.file readers root = call.file readers root →
    completed.call.content readers = call.content readers

/-- Every call agrees with those before it. -/
def KeysAgree : List (CompletedCall Object Box) → Prop
  | [] => True
  | last :: earlier => KeyAgrees readers root earlier last.call ∧ KeysAgree earlier

end History

/-! ### One call -/

section Call

variable {Object Box : Type} {readers : WindowReaders Object Box} {root : CachePath}
  {call : RasterCall Object Box} {files files' : CachePath → Option (List UInt8)}
  {outside : Outside} {s : RasterCacheState} {state : WindowCallState}

/-- The target is the window and the file of the call. -/
structure IsTarget (readers : WindowReaders Object Box) (root : CachePath)
    (call : RasterCall Object Box) (target : WindowTarget) : Prop where
  window : call.window readers = some target.window
  canonical : target.canonical
    = canonicalWindowPath root call.request target.window.cacheFragment

theorem IsTarget.file {target : WindowTarget} (h : IsTarget readers root call target) :
    call.file readers root = some target.canonical.resolve := by
  rw [RasterCall.file, h.window, Option.map_some, h.canonical]

/-- What a call has done to the files when it ends with a result. -/
def Leaves (readers : WindowReaders Object Box) (root : CachePath) (call : RasterCall Object Box)
    (files files' : CachePath → Option (List UInt8)) :
    Except CacheError LocalizedRasterWindow → Prop
  | .error _ => files' = files
  | .ok localized => call.file readers root = some localized.path.resolve ∧
      (files' = files ∨ files localized.path.resolve = none ∧
        files' = Function.update files localized.path.resolve (call.content readers))

/-- Where a call that runs alone is, and what it has done to the files. -/
def RunsAlone (readers : WindowReaders Object Box) (root : CachePath)
    (call : RasterCall Object Box) (files files' : CachePath → Option (List UInt8)) :
    WindowCallState → Prop
  | .preparing => files' = files
  | .lookingUp target | .entering target | .cloned target _ | .waiting target _ _
  | .rechecking target | .fetching target _ => IsTarget readers root call target ∧ files' = files
  | .writing target _ window _ | .persisting target _ window _ =>
    IsTarget readers root call target ∧ call.content readers = some window ∧ files' = files
  | .fetched _ _ result | .removed _ _ result | .returned result =>
    Leaves readers root call files files' result

theorem runsAlone_look {target : WindowTarget} (h : IsTarget readers root call target) :
    RunsAlone readers root call files files (WindowCallState.look outside s target) := by
  rw [WindowCallState.look]
  split
  · exact rfl
  · exact ⟨h.file, .inl rfl⟩
  · exact ⟨h, rfl⟩

theorem runsAlone_step (hanswers : call.Answers readers outside)
    (hsettled : state.Settled s.files) (h : RunsAlone readers root call files s.files state) :
    RunsAlone readers root call files (state.step root call.request outside s).1.files
      (state.step root call.request outside s).2 := by
  cases state with
  | preparing =>
    simp only [WindowCallState.step]
    split
    · exact h
    · next window hwindow => exact ⟨⟨hanswers.prepareWindow window hwindow, rfl⟩, h⟩
  | lookingUp target | rechecking target =>
    obtain ⟨htarget, hfiles⟩ := h
    rw [← hfiles]
    exact runsAlone_look htarget
  | entering target =>
    simp only [WindowCallState.step]
    split <;> exact h
  | cloned target notify => exact h
  | waiting target notify seen =>
    simp only [WindowCallState.step]
    split_ifs <;> exact h
  | fetching target notify =>
    simp only [WindowCallState.step]
    split
    · exact h.2
    · next window hwindow =>
      obtain ⟨object, hobject, hfetch⟩ := hanswers.fetchWindow _ _ hwindow
      refine ⟨h.1, ?_, h.2⟩
      rw [RasterCall.content, hobject, Option.bind_some, h.1.window, Option.bind_some, hfetch]
      rfl
  | writing target notify window temp =>
    simp only [WindowCallState.step, WindowCallState.writeOn]
    split_ifs
    · split
      · exact h.2.2
      · exact h
    · split
      · exact h.2.2
      · exact h
  | persisting target notify window temp =>
    obtain ⟨htarget, hcontent, hfiles⟩ := h
    obtain rfl : temp = window := hsettled
    -- the file of the call is added, unless there is one
    simp only [WindowCallState.step]
    split
    · exact hfiles
    · refine ⟨htarget.file, ?_⟩
      rw [hcontent, ← hfiles, persistNoclobber]
      split_ifs with hsome
      · exact .inl rfl
      · exact .inr ⟨Option.not_isSome_iff_eq_none.mp hsome, rfl⟩
  | fetched target notify result | removed target notify result | returned result => exact h

/-- **What a call does to the files**: it leaves them, or adds its own window as its file. -/
theorem RasterCall.Runs.leaves {result : Except CacheError LocalizedRasterWindow}
    (h : call.Runs readers root files result files') :
    Leaves readers root call files files' result := by
  obtain ⟨answers, hanswers, n, hreturned, rfl⟩ := h
  have halone : ∀ n, RunsAlone readers root call files
      (cacheRun root files (fun _ : Unit => call.request)
        (fun n => .task () (answers n)) n).shared.files
      ((cacheRun root files (fun _ : Unit => call.request)
        (fun n => .task () (answers n)) n).task ()).state := by
    intro n
    induction n with
    | zero => exact rfl
    | succ n ih =>
      have hsettled := @settled_cacheRun Unit _ root files (fun _ => call.request)
        (fun n => .task () (answers n)) n ()
      obtain ⟨hshared, hstate⟩ := @cacheRun_succ Unit _ root files (fun _ => call.request)
        (fun n => .task () (answers n)) n () (answers n) rfl
      rw [hshared, hstate]
      exact runsAlone_step (hanswers n) hsettled ih
  have hlast := halone n
  rw [hreturned] at hlast
  exact hlast

theorem RasterCall.Runs.isSome {localized : LocalizedRasterWindow}
    (h : call.Runs readers root files (.ok localized) files') :
    (files' localized.path.resolve).isSome := by
  obtain ⟨answers, -, n, hreturned, rfl⟩ := h
  have hsettled := @settled_cacheRun Unit _ root files (fun _ => call.request)
    (fun n => .task () (answers n)) n ()
  rw [hreturned] at hsettled
  exact hsettled

end Call

/-! ### Sequences of calls -/

section History

variable {Object Box : Type} {readers : WindowReaders Object Box} {root : CachePath}
  {files files' : CachePath → Option (List UInt8)} {calls : List (CompletedCall Object Box)}

/-- A file stays as it is. -/
theorem RasterCall.Runs.files_of_some {call : RasterCall Object Box}
    {result : Except CacheError LocalizedRasterWindow}
    (h : call.Runs readers root files result files') {path : CachePath} {bytes : List UInt8}
    (hfile : files path = some bytes) : files' path = some bytes := by
  have hleaves := h.leaves
  cases result with
  | error e => rwa [show files' = files from hleaves]
  | ok localized =>
    obtain ⟨-, rfl | ⟨hnone, rfl⟩⟩ := hleaves
    · exact hfile
    · rwa [Function.update_of_ne]
      rintro rfl
      exact Option.some_ne_none _ (hfile.symm.trans hnone)

/-- A file is the decoded window of a call that has returned it. -/
theorem WindowHistory.exists_of_file (h : WindowHistory readers root files calls)
    {path : CachePath} {bytes : List UInt8} (hfile : files path = some bytes) :
    ∃ completed ∈ calls, completed.result.isOk = true ∧
      completed.call.file readers root = some path ∧
      completed.call.content readers = some bytes := by
  induction h with
  | nil => exact absurd hfile (by simp)
  | @call files files' earlier last _ hruns ih =>
    have hearlier (hfile : files path = some bytes) : ∃ completed ∈ last :: earlier,
        completed.result.isOk = true ∧ completed.call.file readers root = some path ∧
        completed.call.content readers = some bytes := by
      obtain ⟨completed, hmem, hcompleted⟩ := ih hfile
      exact ⟨completed, List.mem_cons_of_mem _ hmem, hcompleted⟩
    have hleaves := hruns.leaves
    cases hresult : last.result with
    | error e =>
      rw [hresult] at hleaves
      rw [show files' = files from hleaves] at hfile
      exact hearlier hfile
    | ok localized =>
      rw [hresult] at hleaves
      obtain ⟨hown, rfl | ⟨-, rfl⟩⟩ := hleaves
      · exact hearlier hfile
      · rcases eq_or_ne path localized.path.resolve with rfl | hne
        · rw [Function.update_self] at hfile
          exact ⟨last, List.mem_cons_self, by rw [hresult]; rfl, hown, hfile⟩
        · rw [Function.update_of_ne hne] at hfile
          exact hearlier hfile

/-- **The file of every call holds its own window**, in every sequence of calls each of which has
the same decoded window as the earlier ones with the same file. -/
theorem pointsAtOwn_of_keysAgree (h : WindowHistory readers root files calls)
    (hagree : KeysAgree readers root calls) :
    ∀ completed ∈ calls, PointsAtOwn readers files completed := by
  induction h with
  | nil => exact fun completed hmem => absurd hmem List.not_mem_nil
  | @call files files' earlier last hearlier hruns ih =>
    refine List.forall_mem_cons.mpr ⟨fun localized hresult => ?_, fun completed hmem => ?_⟩
    · rw [hresult] at hruns
      obtain ⟨bytes, hbytes⟩ := Option.isSome_iff_exists.mp hruns.isSome
      refine ⟨bytes, ?_, hbytes⟩
      obtain ⟨hown, rfl | ⟨-, rfl⟩⟩ := hruns.leaves
      · -- the file was there: it is the window of an earlier call
        obtain ⟨completed, hmem, hok, hfile, hcontent⟩ := hearlier.exists_of_file hbytes
        rw [← hagree.1 completed hmem hok (hfile.trans hown.symm), hcontent]
      · rwa [Function.update_self] at hbytes
    · intro localized hresult
      obtain ⟨bytes, hcontent, hbytes⟩ := ih hagree.2 completed hmem localized hresult
      exact ⟨bytes, hcontent, hruns.files_of_some hbytes⟩

end History

/-! ### Two buckets -/

section Sample

/-- Objects that are their own GeoTIFF. -/
def sampleReaders : WindowReaders (List UInt8) Unit where
  prepareWindow _ _ _ := .ok ⟨0, 0, 1, 1⟩
  fetchWindow object _ := .ok object

/-- A call for an object of a bucket. -/
def bucketCall (store : String) (object : List UInt8) : RasterCall (List UInt8) Unit :=
  ⟨store, ⟨"flow_dir.tif", .flowDir, "fabric", "v1"⟩, (), some object⟩

/-- The answers for an object when nothing fails. -/
def Outside.ofObject (object : List UInt8) : Outside :=
  ⟨.ok ⟨0, 0, 1, 1⟩, none, fun _ => .ok object, .ok object.length, none, none⟩

/-- A call for an object, alone. -/
def bucketRun (files : CachePath → Option (List UInt8)) (object : List UInt8) (n : ℕ) :
    Config Unit RasterCacheState WindowCall :=
  cacheRun [] files (fun _ => (bucketCall "" object).request)
    (fun _ => .task () (.ofObject object)) n

/-- The file of all these calls. -/
def bucketFile : LocalizedRasterWindow :=
  ⟨canonicalWindowPath [] (bucketCall "" []).request (RasterPixelWindow.cacheFragment ⟨0, 0, 1, 1⟩)⟩

private theorem answers_ofObject (store : String) (object : List UInt8) :
    (bucketCall store object).Answers sampleReaders (.ofObject object) :=
  ⟨fun _ h => congrArg some (Except.ok.inj h), fun _ _ h => ⟨object, rfl, h⟩⟩

/-- The files after a first call. -/
def bucketFiles : CachePath → Option (List UInt8) := (bucketRun (fun _ => none) [1] 9).shared.files

/-- A first call and a second one, for objects of two buckets. -/
private theorem bucketHistory {object : List UInt8}
    (h : ((bucketRun bucketFiles object 2).task ()).state = .returned (.ok bucketFile)) :
    WindowHistory sampleReaders [] (bucketRun bucketFiles object 2).shared.files
      [⟨bucketCall "s3://b" object, .ok bucketFile⟩,
        ⟨bucketCall "s3://a" [1], .ok bucketFile⟩] := by
  have hfirst : (bucketCall "s3://a" [1]).Runs sampleReaders [] (fun _ => none) (.ok bucketFile)
      bucketFiles :=
    ⟨fun _ => .ofObject [1], fun _ => answers_ofObject _ _, 9, by decide +kernel, rfl⟩
  have hsecond : (bucketCall "s3://b" object).Runs sampleReaders [] bucketFiles (.ok bucketFile)
      (bucketRun bucketFiles object 2).shared.files :=
    ⟨fun _ => .ofObject object, fun _ => answers_ofObject _ _, 2, h, rfl⟩
  exact .call (.call .nil hfirst) hsecond

/-- Two buckets with different objects at one path share a file. -/
theorem not_pointsAtOwn_buckets : ¬∀ (readers : WindowReaders (List UInt8) Unit) (root : CachePath)
    (files : CachePath → Option (List UInt8)) (calls : List (CompletedCall (List UInt8) Unit)),
    WindowHistory readers root files calls →
      ∀ completed ∈ calls, PointsAtOwn readers files completed := by
  intro h
  obtain ⟨bytes, hcontent, hfile⟩ :=
    h _ _ _ _ (@bucketHistory [2] (by decide +kernel)) _ List.mem_cons_self _ rfl
  obtain rfl : [2] = bytes := Option.some.inj hcontent
  have hfirst : (bucketRun bucketFiles [2] 2).shared.files bucketFile.path.resolve = some [1] := by
    decide +kernel
  rw [hfirst] at hfile
  exact absurd hfile (by decide)

/-- A second call for the same object is right. -/
theorem pointsAtOwn_of_keysAgree_buckets :
    WindowHistory sampleReaders [] (bucketRun bucketFiles [1] 2).shared.files
      [⟨bucketCall "s3://b" [1], .ok bucketFile⟩, ⟨bucketCall "s3://a" [1], .ok bucketFile⟩] ∧
    ∀ completed ∈ [⟨bucketCall "s3://b" [1], .ok bucketFile⟩,
        ⟨bucketCall "s3://a" [1], .ok bucketFile⟩],
      PointsAtOwn sampleReaders (bucketRun bucketFiles [1] 2).shared.files completed := by
  have hhistory := @bucketHistory [1] (by decide +kernel)
  refine ⟨hhistory, pointsAtOwn_of_keysAgree hhistory ⟨?_, ?_, trivial⟩⟩
  · intro completed hmem _ _
    obtain rfl := List.mem_singleton.mp hmem
    rfl
  · exact fun _ hmem => absurd hmem List.not_mem_nil

end Sample

end WatershedDelineation
