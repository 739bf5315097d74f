/-
The configuration of the main window and the file it is saved in.

Every operation of the window that changes its configuration is a step.  The
dialogs hold copies of their own and write into the window's configuration when
they are confirmed.  How saves and reload requests end is the environment's
choice; a save that raises leaves the file as it is.
-/
import NativeDNS.Config.File
import NativeDNS.Library.Transition

namespace NativeDNS

open ByteText (text)
open CheckedResult
open Transition (Reachable)

/-- How a reload request ends: with the status of CoreHost, with no CoreHost to
connect to, or with another error. -/
inductive ReloadAnswer where
  | accepted
  | rejected
  | absent
  | failed
  deriving DecidableEq

structure EditDialog where
  original : Config := {}
  working : Config := {}
  ready : Bool := false
  deriving DecidableEq

structure NativeDnsWindow where
  config : Config
  file : Option ConfigFile
  reloadRejected : Bool := false
  dialog : Option EditDialog := none
  deriving DecidableEq

structure ApplyOutcome where
  examined : Except Thrown Unit := .ok ()
  save : SaveOutcome := {}
  reload : ReloadAnswer := .accepted
  restore : SaveOutcome := {}

namespace NativeDnsWindow

variable (platform : Platform)

def saveConfiguration (outcome : SaveOutcome) (window : NativeDnsWindow) :
    Bool × NativeDnsWindow :=
  match saveConfig platform outcome window.file window.config with
  | .ok saved => (true, { window with file := some saved })
  | .error _ => (false, window)

/-- Without a CoreHost one is started, which counts as a reload. -/
def restartCore (answer : ReloadAnswer) (window : NativeDnsWindow) :
    Bool × NativeDnsWindow :=
  let window := { window with reloadRejected := false }
  match answer with
  | .accepted | .absent => (true, window)
  | .rejected => (false, { window with reloadRejected := true })
  | .failed => (false, window)

def previousConfiguration (outcome : ApplyOutcome) (window : NativeDnsWindow) :
    Except Thrown (Option Config) := do
  outcome.examined
  raised (loadExisting platform window.file)

def applyConfiguration (outcome : ApplyOutcome) (window : NativeDnsWindow) :
    Bool × NativeDnsWindow :=
  match previousConfiguration platform outcome window with
  | .error _ => (false, window)
  | .ok previous =>
      let (saved, window) := saveConfiguration platform outcome.save window
      if saved = false then (false, window)
      else
        let (restarted, window) := restartCore outcome.reload window
        if restarted = true then (true, window)
        else if window.reloadRejected = false then (true, window)
        else
          match previous with
          | none => (false, window)
          | some previous =>
              match saveConfig platform outcome.restore window.file previous with
              | .ok saved => (false, { window with file := some saved })
              | .error _ => (false, window)

/-! ### The operations -/

def newConfiguration (outcome : ApplyOutcome) (window : NativeDnsWindow) :
    NativeDnsWindow :=
  (applyConfiguration platform outcome { window with config := defaultConfig }).2

/-- A file of another program is tried where the file is no configuration. -/
def importedConfig (chosen : ConfigFile) (yoga : Except Thrown Config) :
    Except Thrown Config :=
  match loadConfig platform chosen with
  | .ok config => .ok config
  | .error _ => yoga

def importConfiguration (chosen : ConfigFile) (yoga : Except Thrown Config)
    (outcome : ApplyOutcome) (window : NativeDnsWindow) : NativeDnsWindow :=
  match importedConfig platform chosen yoga with
  | .error _ => window
  | .ok config =>
      (applyConfiguration platform outcome { window with config := config }).2

/-- `commit` of both dialogs: the window's configuration is put back when the
copy could not be applied, and the dialog stays open. -/
def commit (outcome : ApplyOutcome) (dialog : EditDialog) (window : NativeDnsWindow) :
    NativeDnsWindow :=
  if dialog.working = dialog.original then { window with dialog := none }
  else
    let previous := window.config
    let (changed, window) :=
      applyConfiguration platform outcome { window with config := dialog.working }
    if changed = true then { window with dialog := none }
    else { window with config := previous }

/-- The settings of the file log are saved before they are sent to a CoreHost
that may be absent. -/
def applyFileLogging (outcome : SaveOutcome) (window : NativeDnsWindow) :
    NativeDnsWindow :=
  (saveConfiguration platform outcome window).2

end NativeDnsWindow

inductive LoggingChange where
  | screen (level : Level)
  | fileEnabled (enabled : Bool)
  | file (level : Level)

def LoggingChange.apply (config : Config) : LoggingChange → Config
  | screen level => { config with logging := { config.logging with screen := level } }
  | fileEnabled enabled =>
      { config with logging := { config.logging with fileEnabled := enabled } }
  | file level => { config with logging := { config.logging with file := level } }

inductive WindowOperation where
  | newConfiguration (outcome : ApplyOutcome)
  | importConfiguration (chosen : ConfigFile) (yoga : Except Thrown Config)
      (outcome : ApplyOutcome)
  | logging (change : LoggingChange) (outcome : SaveOutcome)
  | openServers
  | openRules
  | initializeDialog
  | edit (working : Config)
  | commit (outcome : ApplyOutcome)
  | close

namespace NativeDnsWindow

variable (platform : Platform)

def changeLogging (change : LoggingChange) (outcome : SaveOutcome)
    (window : NativeDnsWindow) : NativeDnsWindow :=
  let window := { window with config := change.apply window.config }
  match change with
  | .screen _ => (saveConfiguration platform outcome window).2
  | .fileEnabled _ | .file _ => applyFileLogging platform outcome window

def editing (window : NativeDnsWindow) : NativeDnsWindow :=
  { window with
    dialog := some
      { original := window.config
        working := window.config
        ready := true } }

/-- One operation.  The dialogs are modal; the rules dialog takes its copies when
it has been painted, and its controls work from then on. -/
def perform (window : NativeDnsWindow) : WindowOperation → Option NativeDnsWindow
  | .newConfiguration outcome =>
      if window.dialog = none then some (window.newConfiguration platform outcome) else none
  | .importConfiguration chosen yoga outcome =>
      if window.dialog = none then
        some (window.importConfiguration platform chosen yoga outcome)
      else none
  | .logging change outcome =>
      if window.dialog = none then some (window.changeLogging platform change outcome)
      else none
  | .openServers => if window.dialog = none then some window.editing else none
  | .openRules =>
      if window.dialog = none then some { window with dialog := some {} } else none
  | .initializeDialog =>
      window.dialog.bind fun dialog =>
        if dialog.ready = false then some window.editing else none
  | .edit working =>
      window.dialog.bind fun dialog =>
        if dialog.ready = true then
          some { window with dialog := some { dialog with working := working } }
        else none
  | .commit outcome =>
      window.dialog.map fun dialog => window.commit platform outcome dialog
  | .close => window.dialog.map fun _ => { window with dialog := none }

/-! ### The file and the window -/

def Loads (window : NativeDnsWindow) (config : Config) : Prop :=
  ∃ file, window.file = some file ∧ loadConfig platform file = .ok config

/-- The window has the configuration of the file. -/
def Agrees (window : NativeDnsWindow) : Prop :=
  window.Loads platform window.config

end NativeDnsWindow

def readBack (platform : Platform) (config : Config) : Checked Config := do
  let data ← serializeConfig platform config
  loadConfig platform (.contents data)

/-! ### How applying a configuration goes -/

inductive Course where
  | unsaved
  | taken (file : ConfigFile)
  | restored (file : ConfigFile)
  | rejected (file : ConfigFile)
  deriving DecidableEq

def course (platform : Platform) (outcome : ApplyOutcome) (file : Option ConfigFile)
    (previous next : Config) : Course :=
  match outcome.examined, saveConfig platform outcome.save file next with
  | .ok _, .ok saved =>
      if outcome.reload = .rejected then
        match saveConfig platform outcome.restore (some saved) previous with
        | .ok restored => .restored restored
        | .error _ => .rejected saved
      else .taken saved
  | _, _ => .unsaved

/-- What applying a configuration returns and does to the window. -/
def Course.window (window : NativeDnsWindow) : Course → Bool × NativeDnsWindow
  | unsaved => (false, window)
  | taken file => (true, { window with file := some file, reloadRejected := false })
  | restored file => (false, { window with file := some file, reloadRejected := true })
  | rejected file => (false, { window with file := some file, reloadRejected := true })

/-- The file that is left is the document of the next or of the previous
configuration. -/
def Course.Leaves (platform : Platform) (previous next : Config) : Course → Prop
  | unsaved => True
  | taken file | rejected file => loadConfig platform file = readBack platform next
  | restored file => loadConfig platform file = readBack platform previous

section Applying

variable {platform : Platform} {outcome : ApplyOutcome} {window : NativeDnsWindow}

theorem saveConfig_reads {outcome : SaveOutcome} {file : Option ConfigFile}
    {config : Config} {saved : ConfigFile}
    (ran : saveConfig platform outcome file config = .ok saved) :
    loadConfig platform saved = readBack platform config := by
  obtain ⟨data, _, serialized, rfl, _⟩ := saveConfig_loads ran
  rw [readBack, serialized, ok_bind]

theorem course_leaves (platform : Platform) (outcome : ApplyOutcome)
    (file : Option ConfigFile) (previous next : Config) :
    (course platform outcome file previous next).Leaves platform previous next := by
  unfold course
  split
  · rename_i saved _ ran
    split
    · split
      · rename_i restored again
        exact saveConfig_reads again
      · exact saveConfig_reads ran
    · exact saveConfig_reads ran
  · trivial

theorem applyConfiguration_course {previous : Config} (loads : window.Loads platform previous) :
    window.applyConfiguration platform outcome =
      (course platform outcome window.file previous window.config).window window := by
  obtain ⟨file, present, loaded⟩ := loads
  have existing : raised (loadExisting platform window.file) = .ok (some previous) := by
    rw [present, loadExisting, loaded, ok_bind]
    rfl
  unfold NativeDnsWindow.applyConfiguration NativeDnsWindow.previousConfiguration course
  cases looked : outcome.examined with
  | error thrown =>
      rfl
  | ok found =>
      rw [ok_bind, existing]
      unfold NativeDnsWindow.saveConfiguration
      cases ran : saveConfig platform outcome.save window.file window.config with
      | error thrown =>
          rfl
      | ok saved =>
          cases answer : outcome.reload with
          | accepted | absent | failed =>
              rfl
          | rejected =>
              simp only [NativeDnsWindow.restartCore, if_true, Bool.true_eq_false, if_false,
                Bool.false_eq_true]
              cases saveConfig platform outcome.restore (some saved) previous with
              | ok restored =>
                  rfl
              | error thrown =>
                  rfl

end Applying

theorem Course.window_config (window : NativeDnsWindow) (taken : Course) :
    (taken.window window).2.config = window.config := by
  cases taken <;> rfl

/-! ### When the window and the file stay together -/

/-- Where the window keeps the next configuration whatever becomes of it. -/
def Course.keptByReplacement (platform : Platform) (previous next : Config) : Course → Prop
  | unsaved => next = previous
  | taken _ | rejected _ => readBack platform next = .ok next
  | restored _ => next = previous ∧ readBack platform previous = .ok previous

def Course.keptByDialog (platform : Platform) (previous next : Config) : Course → Prop
  | unsaved => True
  | taken _ => readBack platform next = .ok next
  | restored _ => readBack platform previous = .ok previous
  | rejected _ => readBack platform next = .ok previous

namespace WindowOperation

variable (platform : Platform) (window : NativeDnsWindow)

def applied : WindowOperation → Option (ApplyOutcome × Config)
  | newConfiguration outcome => some (outcome, defaultConfig)
  | importConfiguration chosen yoga outcome =>
      match NativeDnsWindow.importedConfig platform chosen yoga with
      | .ok next => some (outcome, next)
      | .error _ => none
  | commit outcome =>
      window.dialog.bind fun dialog =>
        if dialog.working = dialog.original then none else some (outcome, dialog.working)
  | _ => none

/-- CoreHost refuses what has been saved and the previous file is saved again. -/
def Restored (operation : WindowOperation) : Prop :=
  ∃ outcome next file, operation.applied platform window = some (outcome, next) ∧
    course platform outcome window.file window.config next = .restored file

/-- The window and the file stay together.  A replaced configuration must be
saved and must not be refused; a dialog's must not be refused without the file
being restored; a changed setting must be saved.  Each configuration that stays
in the file must be read back as it is. -/
def Kept (operation : WindowOperation) : Prop :=
  match operation with
  | logging change outcome =>
      match saveConfig platform outcome window.file (change.apply window.config) with
      | .ok _ =>
          readBack platform (change.apply window.config) = .ok (change.apply window.config)
      | .error _ => change.apply window.config = window.config
  | commit outcome =>
      ∀ next, operation.applied platform window = some (outcome, next) →
        (course platform outcome window.file window.config next).keptByDialog platform
          window.config next
  | operation =>
      ∀ outcome next, operation.applied platform window = some (outcome, next) →
        (course platform outcome window.file window.config next).keptByReplacement platform
          window.config next

end WindowOperation

/-- What an operation has to leave: the window agrees with the file again, and a
refused configuration has left no trace when the file was restored. -/
structure Settled (platform : Platform) (window : NativeDnsWindow)
    (operation : WindowOperation) (after : NativeDnsWindow) : Prop where
  agrees : after.Agrees platform
  restored : operation.Restored platform window →
    after.config = window.config ∧ after.Loads platform window.config

section Steps

variable {platform : Platform} {window : NativeDnsWindow}

theorem loads_file {file : ConfigFile} (present : window.file = some file) (config : Config) :
    window.Loads platform config ↔ loadConfig platform file = .ok config := by
  constructor
  · rintro ⟨_, same, loaded⟩
    rw [present] at same
    cases same
    exact loaded
  · exact fun loaded => ⟨file, present, loaded⟩

theorem NativeDnsWindow.Loads.unique {config other : Config}
    (loads : window.Loads platform config) (again : window.Loads platform other) :
    config = other := by
  obtain ⟨file, present, loaded⟩ := loads
  obtain ⟨_, same, more⟩ := again
  rw [present] at same
  cases same
  rw [loaded] at more
  exact Except.ok.inj more

theorem Course.replacement (agrees : window.Agrees platform) {next : Config} {taken : Course}
    {after : NativeDnsWindow} (leaves : taken.Leaves platform window.config next)
    (ends : (taken.window { window with config := next }).2 = after) :
    (after.Agrees platform ∧ ((∃ file, taken = .restored file) →
        after.config = window.config ∧ after.Loads platform window.config)) ↔
      taken.keptByReplacement platform window.config next := by
  subst ends
  cases taken with
  | unsaved =>
      constructor
      · exact fun both => both.1.unique agrees
      · rintro rfl
        exact ⟨agrees, fun ⟨_, impossible⟩ => by cases impossible⟩
  | taken file | rejected file =>
      refine (and_iff_left fun ⟨_, impossible⟩ => by cases impossible).trans ?_
      rw [keptByReplacement, ← show loadConfig platform file = _ from leaves]
      exact loads_file rfl next
  | restored file =>
      have saved : loadConfig platform file = readBack platform window.config := leaves
      constructor
      · rintro ⟨_, restored⟩
        obtain ⟨same, loads⟩ := restored ⟨file, rfl⟩
        exact ⟨same, saved ▸ (loads_file rfl window.config).mp loads⟩
      · rintro ⟨rfl, read⟩
        have loads : (Course.window window (.restored file)).2.Loads platform window.config :=
          (loads_file rfl window.config).mpr (saved.trans read)
        exact ⟨loads, fun _ => ⟨rfl, loads⟩⟩

theorem Course.dialog (agrees : window.Agrees platform) {next : Config} {taken : Course}
    {after : NativeDnsWindow} (leaves : taken.Leaves platform window.config next)
    (file : after.file = (taken.window { window with config := next }).2.file)
    (config : after.config =
      if (taken.window { window with config := next }).1 = true then next
      else window.config) :
    (after.Agrees platform ∧ ((∃ file, taken = .restored file) →
        after.config = window.config ∧ after.Loads platform window.config)) ↔
      taken.keptByDialog platform window.config next := by
  unfold NativeDnsWindow.Agrees
  cases taken with
  | unsaved =>
      refine iff_of_true ⟨?_, fun ⟨_, impossible⟩ => by cases impossible⟩ trivial
      obtain ⟨old, present, loaded⟩ := agrees
      exact ⟨old, file.trans present, config.trans rfl ▸ loaded⟩
  | taken saved =>
      refine (and_iff_left fun ⟨_, impossible⟩ => by cases impossible).trans ?_
      rw [keptByDialog, ← show loadConfig platform saved = _ from leaves, loads_file file,
        config.trans (if_pos rfl)]
  | rejected saved =>
      refine (and_iff_left fun ⟨_, impossible⟩ => by cases impossible).trans ?_
      rw [keptByDialog, ← show loadConfig platform saved = _ from leaves, loads_file file,
        config.trans (if_neg Bool.false_ne_true)]
  | restored saved =>
      have same : after.config = window.config := config.trans (if_neg Bool.false_ne_true)
      rw [keptByDialog, ← show loadConfig platform saved = _ from leaves, same,
        loads_file file]
      exact ⟨fun both => both.1, fun loads => ⟨loads, fun _ => ⟨rfl, loads⟩⟩⟩

theorem settled_applied {operation : WindowOperation} {after : NativeDnsWindow}
    {outcome : ApplyOutcome} {next : Config}
    (applied : operation.applied platform window = some (outcome, next)) :
    Settled platform window operation after ↔
      (after.Agrees platform ∧
        ((∃ file, course platform outcome window.file window.config next = .restored file) →
          after.config = window.config ∧ after.Loads platform window.config)) := by
  have same : operation.Restored platform window ↔
      ∃ file, course platform outcome window.file window.config next = .restored file := by
    constructor
    · rintro ⟨_, _, file, found, ends⟩
      rw [applied] at found
      cases found
      exact ⟨file, ends⟩
    · exact fun ⟨file, ends⟩ => ⟨outcome, next, file, applied, ends⟩
  rw [← same]
  exact ⟨fun settled => ⟨settled.agrees, settled.restored⟩,
    fun both => ⟨both.1, both.2⟩⟩

theorem settled_plain {operation : WindowOperation} {after : NativeDnsWindow}
    (plain : operation.applied platform window = none) :
    Settled platform window operation after ↔ after.Agrees platform := by
  refine ⟨Settled.agrees, fun agrees => ⟨agrees, ?_⟩⟩
  rintro ⟨_, _, _, found, _⟩
  rw [plain] at found
  cases found

theorem replacement_settled (agrees : window.Agrees platform) {operation : WindowOperation}
    {outcome : ApplyOutcome} {next : Config}
    (applied : operation.applied platform window = some (outcome, next)) :
    Settled platform window operation
        (NativeDnsWindow.applyConfiguration platform outcome
          { window with config := next }).2 ↔
      (course platform outcome window.file window.config next).keptByReplacement platform
        window.config next := by
  have loads : ({ window with config := next } : NativeDnsWindow).Loads platform
      window.config := agrees
  rw [settled_applied applied, applyConfiguration_course loads]
  exact Course.replacement agrees (course_leaves platform outcome _ _ _) rfl

theorem commit_settled (agrees : window.Agrees platform) {outcome : ApplyOutcome}
    {dialog : EditDialog} (shown : window.dialog = some dialog) :
    Settled platform window (.commit outcome) (window.commit platform outcome dialog) ↔
      (WindowOperation.commit outcome).Kept platform window := by
  unfold NativeDnsWindow.commit
  by_cases unchanged : dialog.working = dialog.original
  · have plain : (WindowOperation.commit outcome).applied platform window = none := by
      rw [WindowOperation.applied, shown, Option.bind_some, if_pos unchanged]
    rw [if_pos unchanged, settled_plain plain]
    refine iff_of_true agrees fun next found => ?_
    rw [plain] at found
    cases found
  · have applied : (WindowOperation.commit outcome).applied platform window =
        some (outcome, dialog.working) := by
      rw [WindowOperation.applied, shown, Option.bind_some, if_neg unchanged]
    have kept : (WindowOperation.commit outcome).Kept platform window ↔
        (course platform outcome window.file window.config
          dialog.working).keptByDialog platform window.config dialog.working := by
      constructor
      · exact fun holds => holds _ applied
      · intro holds next found
        rw [applied] at found
        cases found
        exact holds
    have loads : ({ window with config := dialog.working } : NativeDnsWindow).Loads platform
        window.config := agrees
    rw [if_neg unchanged, settled_applied applied, kept, applyConfiguration_course loads]
    refine Course.dialog agrees (course_leaves platform outcome _ _ _) ?_ ?_
    · dsimp only
      split <;> rfl
    · dsimp only
      split
      · exact Course.window_config _ _
      · rfl

theorem logging_settled (agrees : window.Agrees platform) (change : LoggingChange)
    (outcome : SaveOutcome) :
    Settled platform window (.logging change outcome)
        (window.changeLogging platform change outcome) ↔
      (WindowOperation.logging change outcome).Kept platform window := by
  have saves : window.changeLogging platform change outcome =
      (NativeDnsWindow.saveConfiguration platform outcome
        { window with config := change.apply window.config }).2 := by
    cases change <;> rfl
  rw [settled_plain rfl, saves, NativeDnsWindow.saveConfiguration, WindowOperation.Kept]
  cases ran : saveConfig platform outcome window.file (change.apply window.config) with
  | ok saved =>
      rw [← saveConfig_reads ran]
      exact loads_file rfl _
  | error thrown =>
      constructor
      · exact fun again => again.unique agrees
      · intro same
        obtain ⟨file, present, loaded⟩ := agrees
        exact ⟨file, present, loaded.trans (congrArg _ same.symm)⟩

theorem quiet_settled (agrees : window.Agrees platform) {operation : WindowOperation}
    {after : NativeDnsWindow} (plain : operation.applied platform window = none)
    (config : after.config = window.config) (file : after.file = window.file) :
    Settled platform window operation after := by
  refine (settled_plain plain).mpr ?_
  unfold NativeDnsWindow.Agrees NativeDnsWindow.Loads
  rw [config, file]
  exact agrees

theorem replacement_kept {operation : WindowOperation} {outcome : ApplyOutcome} {next : Config}
    (kept : operation.Kept platform window ↔
      ∀ outcome next, operation.applied platform window = some (outcome, next) →
        (course platform outcome window.file window.config next).keptByReplacement platform
          window.config next)
    (applied : operation.applied platform window = some (outcome, next)) :
    operation.Kept platform window ↔
      (course platform outcome window.file window.config next).keptByReplacement platform
        window.config next := by
  rw [kept]
  constructor
  · exact fun holds => holds _ _ applied
  · intro holds outcome next found
    rw [applied] at found
    cases found
    exact holds

theorem perform_settled (agrees : window.Agrees platform) {operation : WindowOperation}
    {after : NativeDnsWindow} (ran : window.perform platform operation = some after) :
    Settled platform window operation after ↔ operation.Kept platform window := by
  cases operation with
  | newConfiguration outcome =>
      obtain ⟨_, same⟩ := Option.ite_none_right_eq_some.mp ran
      cases same
      exact (replacement_settled agrees rfl).trans (replacement_kept Iff.rfl rfl).symm
  | importConfiguration chosen yoga outcome =>
      obtain ⟨_, same⟩ := Option.ite_none_right_eq_some.mp ran
      cases same
      unfold NativeDnsWindow.importConfiguration
      cases imported : NativeDnsWindow.importedConfig platform chosen yoga with
      | error thrown =>
          have plain : (WindowOperation.importConfiguration chosen yoga outcome).applied
              platform window = none := by
            rw [WindowOperation.applied, imported]
          refine iff_of_true (quiet_settled agrees plain rfl rfl) fun _ _ found => ?_
          rw [plain] at found
          cases found
      | ok next =>
          have applied : (WindowOperation.importConfiguration chosen yoga outcome).applied
              platform window = some (outcome, next) := by
            rw [WindowOperation.applied, imported]
          exact (replacement_settled agrees applied).trans
            (replacement_kept Iff.rfl applied).symm
  | logging change outcome =>
      obtain ⟨_, same⟩ := Option.ite_none_right_eq_some.mp ran
      cases same
      exact logging_settled agrees change outcome
  | openServers | openRules =>
      obtain ⟨_, same⟩ := Option.ite_none_right_eq_some.mp ran
      cases same
      exact iff_of_true (quiet_settled agrees rfl rfl rfl)
        fun _ _ found => (Option.some_ne_none _ found.symm).elim
  | initializeDialog | edit working =>
      obtain ⟨dialog, _, chosen⟩ := Option.bind_eq_some_iff.mp ran
      obtain ⟨_, same⟩ := Option.ite_none_right_eq_some.mp chosen
      cases same
      exact iff_of_true (quiet_settled agrees rfl rfl rfl)
        fun _ _ found => (Option.some_ne_none _ found.symm).elim
  | commit outcome =>
      obtain ⟨dialog, shown, rfl⟩ := Option.map_eq_some_iff.mp ran
      exact commit_settled agrees shown
  | close =>
      obtain ⟨dialog, _, rfl⟩ := Option.map_eq_some_iff.mp ran
      exact iff_of_true (quiet_settled agrees rfl rfl rfl)
        fun _ _ found => (Option.some_ne_none _ found.symm).elim

end Steps

/-! ### Runs -/

/-- An operation that meets its condition. -/
def KeptStep (platform : Platform) (window after : NativeDnsWindow) : Prop :=
  ∃ operation : WindowOperation, operation.Kept platform window ∧
    window.perform platform operation = some after

/-- In a run of operations that meet their conditions the window agrees with the
file in every state.  A further operation is settled if and only if it meets its
condition as well. -/
theorem windowConfiguration_agrees (platform : Platform) {start : NativeDnsWindow}
    (agrees : start.Agrees platform) {window : NativeDnsWindow}
    (ran : Reachable (· = start) (KeptStep platform) window) :
    window.Agrees platform ∧
    ∀ operation after, window.perform platform operation = some after →
      (Settled platform window operation after ↔ operation.Kept platform window) := by
  have agreed : window.Agrees platform := by
    refine ran.invariant ?_ ?_
    · rintro _ rfl
      exact agrees
    · rintro window after _ agrees ⟨operation, kept, performed⟩
      exact ((perform_settled agrees performed).mpr kept).agrees
  exact ⟨agreed, fun _ _ performed => perform_settled agreed performed⟩

def savedFile (platform : Platform) (config : Config) : ConfigFile :=
  match serializeConfig platform config with
  | .ok data => .contents data
  | .error _ => .unread

theorem savedFile_loads {platform : Platform} {config : Config}
    (read : readBack platform config = .ok config) :
    loadConfig platform (savedFile platform config) = .ok config := by
  obtain ⟨data, serialized, loaded⟩ := bind_eq_ok.mp read
  rw [savedFile, serialized]
  exact loaded

theorem saveConfig_savedFile {platform : Platform} {config existing : Config}
    {file : ConfigFile} (read : readBack platform config = .ok config)
    (loads : loadConfig platform file = .ok existing) :
    saveConfig platform {} (some file) config = .ok (savedFile platform config) := by
  obtain ⟨data, serialized, loaded⟩ := bind_eq_ok.mp read
  rw [saveConfig, savedFile, serialized, loadExisting, loads]
  change (raised (loadConfig platform (.contents data)) >>= fun _ => _) = _
  rw [loaded]
  rfl

section Refused

variable {platform : Platform} {saved : Config} {window : NativeDnsWindow}

theorem refused_course {edited : Config} (reads : readBack platform saved = .ok saved)
    (editedReads : readBack platform edited = .ok edited) :
    course platform { reload := .rejected } (some (savedFile platform saved)) saved edited =
      .restored (savedFile platform saved) := by
  unfold course
  rw [saveConfig_savedFile editedReads (savedFile_loads reads)]
  dsimp only
  rw [if_pos rfl, saveConfig_savedFile reads (savedFile_loads editedReads)]

theorem applyConfiguration_refused (file : window.file = some (savedFile platform saved))
    (reads : readBack platform saved = .ok saved)
    (editedReads : readBack platform window.config = .ok window.config) :
    window.applyConfiguration platform { reload := .rejected } =
      (false, { window with reloadRejected := true }) := by
  have loads : window.Loads platform saved := ⟨_, file, savedFile_loads reads⟩
  rw [applyConfiguration_course loads, file, refused_course reads editedReads, Course.window,
    ← file]

theorem newConfiguration_refused (free : window.dialog = none)
    (file : window.file = some (savedFile platform saved))
    (reads : readBack platform saved = .ok saved)
    (defaultReads : readBack platform defaultConfig = .ok defaultConfig) :
    window.perform platform (.newConfiguration { reload := .rejected }) =
      some { window with config := defaultConfig, reloadRejected := true } := by
  have refused :
      NativeDnsWindow.applyConfiguration platform { reload := .rejected }
          { window with config := defaultConfig } =
        (false, { window with config := defaultConfig, reloadRejected := true }) :=
    applyConfiguration_refused file reads defaultReads
  unfold NativeDnsWindow.perform NativeDnsWindow.newConfiguration
  dsimp only
  rw [if_pos free, refused]

theorem commit_refused {dialog : EditDialog} (shown : window.dialog = some dialog)
    (edited : dialog.working ≠ dialog.original)
    (file : window.file = some (savedFile platform saved))
    (reads : readBack platform saved = .ok saved)
    (workingReads : readBack platform dialog.working = .ok dialog.working) :
    window.perform platform (.commit { reload := .rejected }) =
      some { window with reloadRejected := true } := by
  have refused :
      NativeDnsWindow.applyConfiguration platform { reload := .rejected }
          { window with config := dialog.working } =
        (false, { window with config := dialog.working, reloadRejected := true }) :=
    applyConfiguration_refused file reads workingReads
  have committed : window.commit platform { reload := .rejected } dialog =
      { window with reloadRejected := true } := by
    unfold NativeDnsWindow.commit
    rw [if_neg edited, refused]
    rfl
  unfold NativeDnsWindow.perform
  dsimp only
  rw [shown, Option.map_some, committed, shown]

theorem changeLogging_saves {level : Level} (free : window.dialog = none)
    (file : window.file = some (savedFile platform saved))
    (reads : readBack platform saved = .ok saved)
    (changedReads : readBack platform (LoggingChange.apply window.config (.screen level)) =
      .ok (LoggingChange.apply window.config (.screen level))) :
    ∃ after, window.perform platform (.logging (.screen level) {}) = some after ∧
      after.Loads platform (LoggingChange.apply window.config (.screen level)) := by
  have written := saveConfig_savedFile changedReads (savedFile_loads reads)
  rw [← file] at written
  refine ⟨_, if_pos free, ?_⟩
  unfold NativeDnsWindow.changeLogging NativeDnsWindow.saveConfiguration
  dsimp only
  rw [written]
  exact ⟨_, rfl, savedFile_loads changedReads⟩

end Refused

def otherTarget : Config :=
  { defaultConfig with testTarget := text "example.com" }

theorem defaultConfig_reads : readBack ipv4Platform defaultConfig = .ok defaultConfig := by
  decide +kernel

theorem otherTarget_reads : readBack ipv4Platform otherTarget = .ok otherTarget := by
  decide +kernel

def savedWindow : NativeDnsWindow where
  config := otherTarget
  file := some (savedFile ipv4Platform otherTarget)

theorem savedWindow_agrees : savedWindow.Agrees ipv4Platform :=
  ⟨_, rfl, savedFile_loads otherTarget_reads⟩

def editedWindow : NativeDnsWindow :=
  { savedWindow with
    dialog := some
      { original := otherTarget
        working := defaultConfig
        ready := true } }

/-- CoreHost refuses the edited configuration, and the file is restored. -/
theorem windowConfiguration_agrees_restored :
    ({ editedWindow with reloadRejected := true } : NativeDnsWindow).Agrees ipv4Platform := by
  have opened : Reachable (· = savedWindow) (KeptStep ipv4Platform) savedWindow.editing :=
    .next (.start rfl)
      ⟨.openServers, fun _ _ found => (Option.some_ne_none _ found.symm).elim, rfl⟩
  have edited : Reachable (· = savedWindow) (KeptStep ipv4Platform) editedWindow :=
    .next opened
      ⟨.edit defaultConfig, fun _ _ found => (Option.some_ne_none _ found.symm).elim, rfl⟩
  have different : defaultConfig ≠ otherTarget := by decide
  refine (windowConfiguration_agrees ipv4Platform savedWindow_agrees (.next edited ?_)).1
  refine ⟨.commit { reload := .rejected }, fun next applied => ?_,
    commit_refused rfl different rfl otherTarget_reads defaultConfig_reads⟩
  have same : next = defaultConfig := by
    rw [WindowOperation.applied, show editedWindow.dialog = some
      { original := otherTarget, working := defaultConfig, ready := true } from rfl,
      Option.bind_some, if_neg different] at applied
    exact (Prod.mk.inj (Option.some.inj applied)).2.symm
  subst same
  rw [show editedWindow.config = otherTarget from rfl,
    show editedWindow.file = some (savedFile ipv4Platform otherTarget) from rfl,
    refused_course otherTarget_reads defaultConfig_reads]
  exact otherTarget_reads

/-- The window after CoreHost refused a new configuration and the file was
restored. -/
def driftedWindow : NativeDnsWindow :=
  { savedWindow with
    config := defaultConfig
    reloadRejected := true }

/-- The window and the file have drifted apart, and changing the log level saves
what CoreHost refused. -/
theorem windowConfiguration_drifts :
    savedWindow.Agrees ipv4Platform ∧
    savedWindow.perform ipv4Platform (.newConfiguration { reload := .rejected }) =
      some driftedWindow ∧
    ¬ driftedWindow.Agrees ipv4Platform ∧
    ∃ after, driftedWindow.perform ipv4Platform (.logging (.screen .debug) {}) = some after ∧
      after.Loads ipv4Platform (LoggingChange.apply defaultConfig (.screen .debug)) := by
  have changedReads : readBack ipv4Platform (LoggingChange.apply defaultConfig (.screen .debug)) =
      .ok (LoggingChange.apply defaultConfig (.screen .debug)) := by
    decide +kernel
  refine ⟨savedWindow_agrees,
    newConfiguration_refused rfl rfl otherTarget_reads defaultConfig_reads, fun drifted => ?_,
    changeLogging_saves rfl rfl otherTarget_reads changedReads⟩
  exact absurd (drifted.unique savedWindow_agrees) (by decide)

end NativeDNS
