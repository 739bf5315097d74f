/-
Saving the configuration in a file system that fails.

Every call of a save to the file system ends as it is told to: it is done, it
fails, or the process ends in it.  A file that is being written holds anything
until the write is done, and a rename replaces its target at once.  The file,
its backup and the temporary file are three names of one store; a save that
only sees the contents of the file is the one of the module below.
-/
import NativeDNS.Config.File
import NativeDNS.Library.Interruption
import Mathlib.Logic.Function.Basic

namespace NativeDNS

open ByteText (text decimal)
open CheckedResult
open Interruption
open Throwing

abbrev Path := Bytes

abbrev FileStore := Path → Option Bytes

/-- How reading a whole file ends. -/
inductive Reading where
  | whole
  | unsized
  | unopened
  | unread
  | cut
  deriving DecidableEq, Repr

/-- What the reader gets to see of a file; nothing is read of an empty one. -/
def Reading.seen : Reading → Option Bytes → ConfigFile
  | _, none => .unsized
  | .whole, some content => .contents content
  | .unsized, some _ => .unsized
  | .unopened, some _ => .unopened
  | .unread, some content | .cut, some content =>
      if content = [] then .contents [] else .unread

/-- How the calls of one save end, in their order.  The texts are those of the
system; what an unfinished write leaves in its file is left by it. -/
structure SaveCalls where
  existing : Answer Bytes := .done
  loading : Reading := .whole
  directories : Answer Bytes := .done
  drawing : Answer Thrown := .done
  random : UInt32
  creating : Answer Unit := .done
  created : Option Bytes := none
  writing : Answer Unit := .done
  written : Option Bytes := none
  flushing : Answer Unit := .done
  flushed : Option Bytes := none
  reloading : Reading := .whole
  confirming : Answer Bytes := .done
  copying : Answer Bytes := .done
  copied : Option Bytes := none
  replacing : Answer Bytes := .done
  replaced : Bool := false
  removing : Answer Unit := .done
  removed : Bool := false

namespace FileStore

def put (path : Path) (content : Option Bytes) (files : FileStore) : FileStore :=
  Function.update files path content

def move (source target : Path) (files : FileStore) : FileStore :=
  put source none (put target (files source) files)

abbrev Saving (α : Type) := Computation Thrown FileStore α

def ioError (message : String) (reason : Bytes) : Thrown :=
  .error { code := "CONFIG_IO"
           message := text message ++ reason }

def checked {α : Type} (result : Checked α) : Saving α :=
  attempt (result.mapError fun error => .raised (.error error))

/-- `std::filesystem::exists`. -/
def fileExists (answer : Answer Bytes) (path : Path) : Saving Bool := do
  call Thrown.exception answer
  let files ← get
  pure (files path).isSome

def loadConfig (platform : Platform) (reading : Reading) (path : Path) :
    Saving Config := do
  let files ← get
  if reading = .cut then throw .cut
  else checked (NativeDNS.loadConfig platform (reading.seen (files path)))

section Save

variable (platform : Platform) (calls : SaveCalls)

def loadExisting (path : Path) : Saving Unit := do
  if (← fileExists calls.existing path) then do
    let _ ← loadConfig platform calls.loading path
    pure ()
  else pure ()

/-- The parent of a path without a separator is empty. -/
def createDirectories (path : Path) : Saving Unit :=
  if path.contains (ByteText.byte '/') then
    call Thrown.exception calls.directories
  else pure ()

def temporaryPath (path : Path) : Path :=
  path ++ (text "." ++ decimal calls.random.toNat ++ text ".tmp")

def backupPath (path : Path) : Path :=
  path ++ text ".bak"

def writeTemporary (temp : Path) (data : Bytes) : Saving Unit := do
  torn (fun _ => ioError "Cannot create sibling temporary config" []) calls.creating
    (put temp calls.created) (put temp (some []))
  torn (fun _ => ioError "Cannot write/flush configuration" []) calls.writing
    (put temp calls.written) id
  torn (fun _ => ioError "Cannot write/flush configuration" []) calls.flushing
    (put temp calls.flushed) (put temp (some data))

/-- The part of `atomic_publish_file` before the rename. -/
def copyToBackup (target backup : Path) : Saving Unit := do
  if (← fileExists calls.confirming target) then
    let files ← get
    torn (ioError "Cannot create config backup: ") calls.copying
      (put backup calls.copied) (put backup (files target))
  else pure ()

def atomicPublishFile (temp target backup : Path) : Saving Unit := do
  copyToBackup calls target backup
  atomic (ioError "Atomic config rename failed: ") calls.replacing calls.replaced
    (move temp target)

/-- `std::filesystem::remove` with an error code that nobody looks at. -/
def removeTemporary (temp : Path) : Saving Unit :=
  match calls.removing with
  | .done => modify (put temp none)
  | .failed _ => pure ()
  | .cut => do
      modify (if calls.removed then put temp none else id)
      throw .cut

/-- The body of the `try`. -/
def publishData (path : Path) (data : Bytes) : Saving Unit := do
  let temp := temporaryPath calls path
  writeTemporary calls temp data
  let _ ← loadConfig platform calls.reloading temp
  atomicPublishFile calls temp path (backupPath path)

def saveConfig (config : Config) (path : Path) : Saving Unit := do
  let data ← checked (serializeConfig platform config)
  loadExisting platform calls path
  createDirectories calls path
  call id calls.drawing
  cleaningUp (publishData platform calls path data)
    (removeTemporary calls (temporaryPath calls path))

end Save

/-! ### The three names -/

@[simp] theorem put_same (path : Path) (content : Option Bytes) (files : FileStore) :
    put path content files path = content :=
  Function.update_self ..

theorem put_other {path other : Path} (different : other ≠ path)
    (content : Option Bytes) (files : FileStore) :
    put path content files other = files other :=
  Function.update_of_ne different ..

@[simp] theorem put_put (path : Path) (first second : Option Bytes) (files : FileStore) :
    put path second (put path first files) = put path second files :=
  Function.update_idem ..

theorem append_ne {path ending : Bytes} (nonempty : ending ≠ []) :
    path ++ ending ≠ path := by
  intro same
  exact nonempty (List.append_right_eq_self.mp same)

theorem backupPath_ne (path : Path) : backupPath path ≠ path :=
  append_ne (by decide +kernel)

theorem temporaryPath_ne (calls : SaveCalls) (path : Path) :
    temporaryPath calls path ≠ path := by
  apply append_ne
  intro empty
  have parts := List.append_eq_nil_iff.mp empty
  exact absurd parts.2 (by decide +kernel)

theorem temporaryPath_ne_backupPath (calls : SaveCalls) (path : Path) :
    temporaryPath calls path ≠ backupPath path := by
  intro same
  have endings := List.append_cancel_left same
  have last := congrArg List.getLast? endings
  have ending : text ".tmp" ≠ [] := by decide +kernel
  rw [List.getLast?_append_of_ne_nil _ ending] at last
  exact absurd last (by decide +kernel)

/-! ### What a save does to the files -/

section Runs

variable (platform : Platform) (calls : SaveCalls) (config : Config) (path : Path)
  (before : FileStore)

def existingFile : Option ConfigFile :=
  if calls.existing = .done then
    (before path).map fun content => calls.loading.seen (some content)
  else none

/-- A save of the contents alone can raise the error too. -/
def Raisable (error : Thrown) : Prop :=
  ∃ outcome, NativeDNS.saveConfig platform outcome (existingFile calls path before) config =
    .error error

def Passed : Prop :=
  calls.existing = .done ∧
    ∃ found, NativeDNS.loadExisting platform (existingFile calls path before) = .ok found

/-- Nothing but the temporary file and the backup has changed. -/
def Unpublished (after : FileStore) : Prop :=
  ∀ other, other ≠ temporaryPath calls path → other ≠ backupPath path →
    after other = before other

/-- The three names behind the rename. -/
structure Published (data : Bytes) (after : FileStore) : Prop where
  target : after path = some data
  temporary : after (temporaryPath calls path) = none
  backup : ∀ previous, before path = some previous →
    after (backupPath path) = some previous
  others : ∀ other, other ≠ path → other ≠ temporaryPath calls path →
    other ≠ backupPath path → after other = before other

/-- The ends of a save; one that returns has none to stop it. -/
inductive SaveRun : Option (Stop Thrown) → FileStore → Prop
  | unwritten {stop : Stop Thrown}
      (raisable : ∀ error, stop = .raised error →
        Raisable platform calls config path before error) :
      SaveRun (some stop) before
  | unpublished {stop : Stop Thrown} {after : FileStore}
      (passed : Passed platform calls path before)
      (elsewhere : Unpublished calls path before after)
      (raisable : ∀ error, stop = .raised error →
        Raisable platform calls config path before error)
      (cleaned : ∀ error, stop = .raised error → calls.removing = .done →
        after (temporaryPath calls path) = none) :
      SaveRun (some stop) after
  | published {stop : Option (Stop Thrown)} {data : Bytes} {loaded : Config}
      {after : FileStore} (unraised : stop = none ∨ stop = some .cut)
      (passed : Passed platform calls path before)
      (serialized : serializeConfig platform config = .ok data)
      (reread : NativeDNS.loadConfig platform (.contents data) = .ok loaded)
      (state : Published calls path before data after) : SaveRun stop after

end Runs

/-! ### The calls one by one -/

section Calls

variable {platform : Platform} {calls : SaveCalls} {config : Config} {path : Path}
  {before : FileStore}

theorem checked_observes {α : Type} (result : Checked α) :
    Observes (checked result) before (fun value => result = .ok value)
      (fun stop => ∀ error, stop = .raised error → raised result = .error error) := by
  apply Ends.attempted
  · intro value returned
    cases result with
    | ok found =>
        cases returned
        exact ⟨rfl, rfl⟩
    | error error =>
        cases returned
  · intro stop failed
    cases result with
    | ok found =>
        cases failed
    | error error =>
        cases failed
        refine ⟨rfl, ?_⟩
        intro thrown same
        cases same
        rfl

theorem loadConfig_observes (reading : Reading) :
    Observes (loadConfig platform reading path) before
      (fun loaded =>
        NativeDNS.loadConfig platform (reading.seen (before path)) = .ok loaded)
      (fun stop => ∀ error, stop = .raised error →
        raised (NativeDNS.loadConfig platform (reading.seen (before path))) =
          .error error) := by
  apply Ends.reading
  by_cases ended : reading = .cut
  · rw [if_pos ended]
    refine Ends.raise ⟨rfl, ?_⟩
    intro error same
    cases same
  · rw [if_neg ended]
    exact checked_observes _

theorem fileExists_observes (answer : Answer Bytes) :
    Observes (fileExists answer path) before
      (fun present => answer = .done ∧ present = (before path).isSome)
      (fun _ => answer ≠ .done) := by
  cases answer with
  | done =>
      exact ⟨rfl, rfl, rfl⟩
  | failed reason =>
      exact ⟨rfl, by simp⟩
  | cut =>
      exact ⟨rfl, by simp⟩

theorem raised_existing {file : ConfigFile} {error : Thrown} {α : Type}
    {rest : Option Config → Except Thrown α}
    (refused : raised (NativeDNS.loadConfig platform file) = .error error) :
    (raised (NativeDNS.loadExisting platform (some file)) >>= rest) = .error error := by
  rw [NativeDNS.loadExisting]
  cases loaded : NativeDNS.loadConfig platform file with
  | ok config =>
      rw [loaded] at refused
      cases refused
  | error found =>
      rw [loaded] at refused
      cases refused
      rfl

theorem loadExisting_observes {data : Bytes}
    (serialized : serializeConfig platform config = .ok data) :
    Observes (loadExisting platform calls path) before
      (fun _ => Passed platform calls path before)
      (fun stop => ∀ error, stop = .raised error →
        Raisable platform calls config path before error) := by
  refine (fileExists_observes calls.existing).bind ?_ ?_
  · intro stop failed
    refine ⟨rfl, ?_⟩
    intro error _
    refine ⟨{ written := .error error }, ?_⟩
    rw [existingFile, if_neg failed, NativeDNS.saveConfig, serialized]
    rfl
  intro present ended
  obtain ⟨answered, found⟩ := ended
  have file : existingFile calls path before =
      (before path).map fun content => calls.loading.seen (some content) :=
    if_pos answered
  cases content : before path with
  | none =>
      rw [content] at found file
      subst found
      refine Ends.ret ⟨rfl, answered, none, ?_⟩
      rw [file]
      rfl
  | some previous =>
      rw [content] at found file
      subst found
      refine (loadConfig_observes calls.loading).bind ?_ ?_
      · intro stop failed
        refine ⟨rfl, ?_⟩
        intro error raisedError
        refine ⟨{}, ?_⟩
        have refused := failed error raisedError
        rw [content] at refused
        rw [file, NativeDNS.saveConfig, serialized]
        exact raised_existing refused
      · intro loaded accepted
        rw [content] at accepted
        refine Ends.ret ⟨rfl, answered, some loaded, ?_⟩
        rw [file]
        change (NativeDNS.loadConfig platform (calls.loading.seen (some previous)) >>=
          fun config => pure (some config)) = .ok (some loaded)
        rw [accepted]
        rfl

theorem Passed.raisable {data : Bytes} (passed : Passed platform calls path before)
    (serialized : serializeConfig platform config = .ok data) (error : Thrown) :
    Raisable platform calls config path before error := by
  obtain ⟨_, found, accepted⟩ := passed
  refine ⟨{ written := .error error }, ?_⟩
  rw [NativeDNS.saveConfig, serialized, accepted]
  rfl

theorem createDirectories_observes :
    Observes (createDirectories calls path) before (fun _ => True) (fun _ => True) := by
  unfold createDirectories
  split
  · exact call_ends ⟨rfl, trivial⟩ (fun _ => ⟨rfl, trivial⟩)
  · exact Ends.ret ⟨rfl, trivial⟩

theorem writeTemporary_ends (temp : Path) (data : Bytes) :
    Ends (writeTemporary calls temp data) before
      (fun _ after => after = put temp (some data) before)
      (fun _ after => ∃ content, after = put temp content before) := by
  refine torn_before (fun _ => ⟨calls.created, rfl⟩) ?_
  rw [put_put]
  refine torn_before (fun _ => ⟨calls.written, put_put ..⟩) ?_
  rw [put_put]
  refine torn_ends ?_ (fun _ => ⟨calls.flushed, put_put ..⟩)
  rw [id_eq, put_put, put_put]

theorem copyToBackup_ends (target backup : Path) :
    Ends (copyToBackup calls target backup) before
      (fun _ after => after = before ∧ before target = none ∨
        after = put backup (before target) before)
      (fun _ after => after = before ∨ ∃ content, after = put backup content before) := by
  refine (fileExists_observes calls.confirming).bind (fun _ _ => .inl rfl) ?_
  intro present ended
  obtain ⟨_, found⟩ := ended
  cases content : before target with
  | none =>
      rw [content] at found
      subst found
      exact Ends.ret (.inl ⟨rfl, rfl⟩)
  | some previous =>
      rw [content] at found
      subst found
      refine Ends.reading (torn_ends (.inr ?_) (fun _ => .inr ⟨calls.copied, rfl⟩))
      rw [put_put, content]

theorem Reading.loaded {reading : Reading} {content : Bytes} {loaded : Config}
    (returned : NativeDNS.loadConfig platform (reading.seen (some content)) = .ok loaded) :
    NativeDNS.loadConfig platform (.contents content) = .ok loaded := by
  have unreadable :
      reading.seen (some content) = (if content = [] then .contents [] else .unread) →
      NativeDNS.loadConfig platform (.contents content) = .ok loaded := by
    intro seen
    rw [seen] at returned
    by_cases empty : content = []
    · rw [if_pos empty] at returned
      rw [empty]
      exact returned
    · rw [if_neg empty] at returned
      cases returned
  cases reading with
  | whole =>
      exact returned
  | unsized =>
      cases returned
  | unopened =>
      cases returned
  | unread =>
      exact unreadable rfl
  | cut =>
      exact unreadable rfl

theorem unpublished_temporary (content : Option Bytes) :
    Unpublished calls path before (put (temporaryPath calls path) content before) :=
  fun _ notTemporary _ => put_other notTemporary ..

theorem Unpublished.backup {after : FileStore} (kept : Unpublished calls path before after)
    (content : Option Bytes) :
    Unpublished calls path before (put (backupPath path) content after) := by
  intro other notTemporary notBackup
  rw [put_other notBackup]
  exact kept other notTemporary notBackup

theorem Unpublished.target {after : FileStore} (kept : Unpublished calls path before after) :
    after path = before path :=
  kept path (temporaryPath_ne calls path).symm (backupPath_ne path).symm

theorem Unpublished.published {data : Bytes} {middle : FileStore}
    (kept : Unpublished calls path before middle)
    (written : middle (temporaryPath calls path) = some data)
    (copied : ∀ previous, before path = some previous →
      middle (backupPath path) = some previous) :
    Published calls path before data (move (temporaryPath calls path) path middle) := by
  refine ⟨?_, put_same .., ?_, ?_⟩
  · rw [move, put_other (temporaryPath_ne calls path).symm, put_same, written]
  · intro previous found
    rw [move, put_other (temporaryPath_ne_backupPath calls path).symm,
      put_other (backupPath_ne path)]
    exact copied previous found
  · intro other notTarget notTemporary notBackup
    rw [move, put_other notTemporary, put_other notTarget]
    exact kept other notTemporary notBackup

theorem atomicPublishFile_ends {data : Bytes} {middle : FileStore}
    (kept : Unpublished calls path before middle)
    (written : middle (temporaryPath calls path) = some data) :
    Ends (atomicPublishFile calls (temporaryPath calls path) path (backupPath path)) middle
      (fun _ after => Published calls path before data after)
      (fun stop after => Unpublished calls path before after ∨
        stop = .cut ∧ Published calls path before data after) := by
  refine (copyToBackup_ends path (backupPath path)).bind_failing ?_ ?_
  · intro stop after ended
    rcases ended with same | ⟨content, same⟩
    · subst same
      exact .inl kept
    · subst same
      exact .inl (kept.backup content)
  · intro _ copied ended
    have ready : Unpublished calls path before copied ∧
        copied (temporaryPath calls path) = some data ∧
        ∀ previous, before path = some previous →
          copied (backupPath path) = some previous := by
      rcases ended with ⟨same, absent⟩ | same
      · subst same
        refine ⟨kept, written, ?_⟩
        intro previous found
        rw [kept.target, found] at absent
        cases absent
      · subst same
        refine ⟨kept.backup _, ?_, ?_⟩
        · rw [put_other (temporaryPath_ne_backupPath calls path)]
          exact written
        · intro previous found
          rw [put_same, kept.target, found]
    obtain ⟨unpublished, temporary, backup⟩ := ready
    have published := unpublished.published temporary backup
    exact atomic_ends published (fun _ => .inl unpublished) (.inl unpublished)
      (.inr ⟨rfl, published⟩)

theorem publishData_ends (data : Bytes) :
    Ends (publishData platform calls path data) before
      (fun _ after => Published calls path before data after ∧
        ∃ loaded, NativeDNS.loadConfig platform (.contents data) = .ok loaded)
      (fun stop after => Unpublished calls path before after ∨
        stop = .cut ∧ Published calls path before data after ∧
        ∃ loaded, NativeDNS.loadConfig platform (.contents data) = .ok loaded) := by
  refine (writeTemporary_ends (temporaryPath calls path) data).bind_failing ?_ ?_
  · intro stop after ended
    obtain ⟨content, same⟩ := ended
    subst same
    exact .inl (unpublished_temporary content)
  intro _ written same
  subst same
  refine (loadConfig_observes calls.reloading).bind
    (fun _ _ => .inl (unpublished_temporary _)) ?_
  intro loaded returned
  rw [put_same] at returned
  have reread := Reading.loaded returned
  refine (atomicPublishFile_ends (unpublished_temporary _) (put_same ..)).weaken ?_ ?_
  · intro _ after published
    exact ⟨published, loaded, reread⟩
  · intro stop after ended
    rcases ended with unpublished | ⟨cut, published⟩
    · exact .inl unpublished
    · exact .inr ⟨cut, published, loaded, reread⟩

theorem removeTemporary_ends (temp : Path) :
    Ends (removeTemporary calls temp) before
      (fun _ after => (calls.removing = .done → after temp = none) ∧
        ∃ content, after = put temp content before)
      (fun stop after => stop = .cut ∧ ∃ content, after = put temp content before) := by
  have unchanged : before = put temp (before temp) before :=
    (Function.update_eq_self temp before).symm
  unfold removeTemporary
  cases answered : calls.removing with
  | done =>
      exact Ends.update ⟨fun _ => put_same .., none, rfl⟩
  | failed reason =>
      refine Ends.ret ⟨?_, before temp, unchanged⟩
      intro impossible
      cases impossible
  | cut =>
      refine Ends.updating (Ends.raise ⟨rfl, ?_⟩)
      cases calls.removed with
      | true =>
          exact ⟨none, rfl⟩
      | false =>
          exact ⟨before temp, unchanged⟩

theorem Unpublished.removed {after : FileStore} (kept : Unpublished calls path before after)
    (content : Option Bytes) :
    Unpublished calls path before (put (temporaryPath calls path) content after) := by
  intro other notTemporary notBackup
  rw [put_other notTemporary]
  exact kept other notTemporary notBackup

theorem saveConfig_run :
    Ends (saveConfig platform calls config path) before
      (fun _ after => SaveRun platform calls config path before none after)
      (fun stop after => SaveRun platform calls config path before (some stop) after) := by
  refine (checked_observes (serializeConfig platform config)).bind ?_ ?_
  · intro stop refused
    refine .unwritten ?_
    intro error raisedError
    refine ⟨{}, ?_⟩
    rw [NativeDNS.saveConfig, refused error raisedError]
    rfl
  intro data serialized
  refine (loadExisting_observes serialized).bind (fun _ raisable => .unwritten raisable) ?_
  intro _ passed
  have raisable : ∀ stop : Stop Thrown, ∀ error, stop = .raised error →
      Raisable platform calls config path before error :=
    fun _ error _ => passed.raisable serialized error
  refine createDirectories_observes.bind (fun stop _ => .unwritten (raisable stop)) ?_
  intro _ _
  refine call_before (fun stop => .unwritten (raisable stop)) ?_
  have body : Ends (publishData platform calls path data) before
      (fun _ => SaveRun platform calls config path before none)
      (fun stop after => Unpublished calls path before after ∨
        SaveRun platform calls config path before (some stop) after ∧ stop = .cut) := by
    refine (publishData_ends data).weaken ?_ ?_
    · intro _ after ended
      obtain ⟨published, loaded, reread⟩ := ended
      exact .published (.inl rfl) passed serialized reread published
    · intro stop after ended
      rcases ended with unpublished | ⟨cut, published, loaded, reread⟩
      · exact .inl unpublished
      · subst cut
        exact .inr ⟨.published (.inr rfl) passed serialized reread published, rfl⟩
  refine cleaningUp_ends body ?_ ?_
  · intro error middle ended
    rcases ended with unpublished | ⟨_, impossible⟩
    · refine (removeTemporary_ends (temporaryPath calls path)).weaken ?_ ?_
      · intro _ after ended
        obtain ⟨gone, content, same⟩ := ended
        subst same
        exact .unpublished passed (unpublished.removed content) (raisable _)
          (fun _ _ removed => gone removed)
      · intro stop after ended
        obtain ⟨cut, content, same⟩ := ended
        subst cut same
        exact .unpublished passed (unpublished.removed content) (raisable .cut)
          (fun _ impossible => by cases impossible)
    · cases impossible
  · intro middle ended
    rcases ended with unpublished | ⟨published, _⟩
    · exact .unpublished passed unpublished (raisable .cut)
        (fun _ impossible => by cases impossible)
    · exact published

end Calls

/-! ### All or nothing -/

section Atomic

variable {platform : Platform} {calls : SaveCalls} {config : Config} {path : Path}
  {before : FileStore}

/-- The end of a save that is all or nothing.  A file that had the name of the
temporary one before is left alone where nothing was written. -/
structure AtomicSave (platform : Platform) (calls : SaveCalls) (config : Config)
    (path : Path) (before : FileStore) (stop : Option (Stop Thrown))
    (after : FileStore) : Prop where
  target : after path = before path ∨
    ∃ data, serializeConfig platform config = .ok data ∧ after path = some data
  returned : stop = none →
    (∃ data, serializeConfig platform config = .ok data ∧ after path = some data) ∧
    ∀ previous, before path = some previous → after (backupPath path) = some previous
  raised : ∀ error, stop = some (.raised error) → after path = before path
  rejected : ∀ previous error, before path = some previous →
    NativeDNS.loadConfig platform (.contents previous) = .error error ∨
      NativeDNS.loadConfig platform (calls.loading.seen (some previous)) = .error error →
    after = before
  cleaned : ∀ error, stop = some (.raised error) → calls.removing = .done →
    after (temporaryPath calls path) = none ∨ after = before
  fresh : ∀ error, stop = some (.raised error) → calls.removing = .done →
    before (temporaryPath calls path) = none → after (temporaryPath calls path) = none
  others : ∀ other, other ≠ path → other ≠ temporaryPath calls path →
    other ≠ backupPath path → after other = before other

theorem Passed.loaded (passed : Passed platform calls path before) {previous : Bytes}
    (found : before path = some previous) :
    ∃ loaded,
      NativeDNS.loadConfig platform (calls.loading.seen (some previous)) = .ok loaded := by
  obtain ⟨answered, loaded, accepted⟩ := passed
  rw [existingFile, if_pos answered, found, Option.map_some, NativeDNS.loadExisting,
    bind_eq_ok] at accepted
  obtain ⟨config, returned, _⟩ := accepted
  exact ⟨config, returned⟩

theorem Passed.not_rejected (passed : Passed platform calls path before) {previous : Bytes}
    {error : Error} (found : before path = some previous) :
    ¬ (NativeDNS.loadConfig platform (.contents previous) = .error error ∨
      NativeDNS.loadConfig platform (calls.loading.seen (some previous)) = .error error) := by
  obtain ⟨loaded, returned⟩ := passed.loaded found
  intro refused
  rcases refused with whole | partly
  · rw [Reading.loaded returned] at whole
    cases whole
  · rw [returned] at partly
    cases partly

theorem SaveRun.atomicSave {stop : Option (Stop Thrown)} {after : FileStore}
    (run : SaveRun platform calls config path before stop after) :
    AtomicSave platform calls config path before stop after := by
  cases run with
  | unwritten raisable =>
      exact
        { target := .inl rfl
          returned := fun impossible => by cases impossible
          raised := fun _ _ => rfl
          rejected := fun _ _ _ _ => rfl
          cleaned := fun _ _ _ => .inr rfl
          fresh := fun _ _ _ absent => absent
          others := fun _ _ _ _ => rfl }
  | unpublished passed elsewhere raisable cleaned =>
      have gone : ∀ error, some _ = some (Stop.raised error) → calls.removing = .done →
          after (temporaryPath calls path) = none :=
        fun error same => cleaned error (Option.some.inj same)
      exact
        { target := .inl elsewhere.target
          returned := fun impossible => by cases impossible
          raised := fun _ _ => elsewhere.target
          rejected := fun _ _ found refused => (passed.not_rejected found refused).elim
          cleaned := fun error same removed => .inl (gone error same removed)
          fresh := fun error same removed _ => gone error same removed
          others := fun other _ notTemporary notBackup =>
            elsewhere other notTemporary notBackup }
  | @published _ data loaded _ unraised passed serialized reread state =>
      have not_raised : ∀ error, stop ≠ some (.raised error) := by
        intro error same
        rcases unraised with returned | cut
        · rw [returned] at same
          cases same
        · rw [cut] at same
          cases same
      exact
        { target := .inr ⟨data, serialized, state.target⟩
          returned := fun _ => ⟨⟨data, serialized, state.target⟩, state.backup⟩
          raised := fun error same => (not_raised error same).elim
          rejected := fun _ _ found refused => (passed.not_rejected found refused).elim
          cleaned := fun error same _ => (not_raised error same).elim
          fresh := fun error same _ _ => (not_raised error same).elim
          others := state.others }

/-- However the calls of a save end, and wherever the process ends in them, the
file holds what it held before or the document of the configuration. -/
theorem saveConfig_atomic (platform : Platform) (calls : SaveCalls) (config : Config)
    (path : Path) (before : FileStore) :
    Ends (saveConfig platform calls config path) before
      (fun _ after => AtomicSave platform calls config path before none after)
      (fun stop after => AtomicSave platform calls config path before (some stop) after) :=
  saveConfig_run.weaken (fun _ _ run => run.atomicSave) (fun _ _ run => run.atomicSave)

theorem saveConfig_refines (platform : Platform) (calls : SaveCalls) (config : Config)
    (path : Path) (before : FileStore) :
    Ends (saveConfig platform calls config path) before
      (fun _ after => ∃ outcome data, after path = some data ∧
        NativeDNS.saveConfig platform outcome (existingFile calls path before) config =
          .ok (.contents data))
      (fun stop after => ∀ error, stop = .raised error →
        Raisable platform calls config path before error ∧ after path = before path) := by
  refine saveConfig_run.weaken ?_ ?_
  · intro _ after run
    cases run with
    | @published _ data loaded _ unraised passed serialized reread state =>
        obtain ⟨_, found, accepted⟩ := passed
        refine ⟨{}, data, state.target, ?_⟩
        rw [NativeDNS.saveConfig, serialized, accepted]
        change (raised (NativeDNS.loadConfig platform (.contents data)) >>=
          fun _ => pure (ConfigFile.contents data)) = .ok (.contents data)
        rw [reread]
        rfl
  · intro stop after run error raisedError
    subst raisedError
    have kept := run.atomicSave.raised error rfl
    cases run with
    | unwritten raisable =>
        exact ⟨raisable error rfl, kept⟩
    | unpublished passed elsewhere raisable cleaned =>
        exact ⟨raisable error rfl, kept⟩
    | published unraised passed serialized reread state =>
        rcases unraised with impossible | impossible
        · cases impossible
        · cases impossible

end Atomic

end FileStore

end NativeDNS
