/-
The reload of a running core.

The three backends check their own options and then let their router publish a
new snapshot; the core replaces its configuration and adjusts the log behind
that.  An error is raised where the source raises it and takes nothing back:
only the two handlers of the source catch what the cache of the system and the
file log raise.  The file thread and the other callers of the log work between
the submission of a file task and its completion; what they make of the log is
given by the outcome.
-/
import NativeDNS.Config.File
import NativeDNS.Library.Throwing
import NativeDNS.Listener.LinuxInterception
import NativeDNS.Logging.Sink
import NativeDNS.Router.Coalescing

namespace NativeDNS

open ByteText (text decimal)
open CheckedResult
open Throwing

/-! ### The routing snapshot -/

structure RoutingSnapshot extends Snapshot where
  health : HealthMap := OrderedMap.empty
  replies : CacheState := {}

structure Router where
  snapshot : RoutingSnapshot

/-- A validated configuration is published as a snapshot of its own. -/
def Router.reload (platform : Platform) (_ : Router) (config : Config) :
    Checked Router := do
  validate platform config
  let options ← runtimeOptions config
  pure
    { snapshot :=
        { platform := platform
          config := config
          options := options } }

inductive Interception where
  | winDivert (router : Router)
  | linuxNft (router : Router)
  | localProxy (router : Router)

namespace Interception

def router : Interception → Router
  | winDivert router => router
  | linuxNft router => router
  | localProxy router => router

def snapshot (interception : Interception) : RoutingSnapshot :=
  interception.router.snapshot

def restartRequired : Error :=
  .of "RESTART_REQUIRED" "Changing interceptOthers requires a CoreHost restart"

/-- WinDivert cannot change which packets it intercepts. -/
def reloadWinDivert (platform : Platform) (router : Router) (config : Config) :
    Checked Router := do
  let options ← runtimeOptions config
  rejectIf (options.interceptOthers ≠ router.snapshot.options.interceptOthers)
    restartRequired
  router.reload platform config

def reloadLinuxNft (platform : Platform) (router : Router) (config : Config) :
    Checked Router := do
  LinuxNftInterception.checkOptions config
  router.reload platform config

def reload (platform : Platform) : Interception → Config → Checked Interception
  | winDivert router, config => do
      let router ← reloadWinDivert platform router config
      pure (winDivert router)
  | linuxNft router, config => do
      let router ← reloadLinuxNft platform router config
      pure (linuxNft router)
  | localProxy router, config => do
      let router ← router.reload platform config
      pure (localProxy router)

structure Routes (platform : Platform) (config : Config) (snapshot : RoutingSnapshot) :
    Prop where
  valid : validate platform config = .ok ()
  holds : snapshot.config = config
  options : runtimeOptions config = .ok snapshot.options

/-- A new snapshot has no replies and no record of its servers. -/
structure Published (platform : Platform) (config : Config) (snapshot : RoutingSnapshot) :
    Prop extends Routes platform config snapshot where
  fresh : snapshot.health = OrderedMap.empty ∧ snapshot.replies = {}

private theorem router_reload_published {platform : Platform} {router reloaded : Router}
    {config : Config} (ran : router.reload platform config = .ok reloaded) :
    Published platform config reloaded.snapshot := by
  simp only [Router.reload, bind_eq_ok, pure_eq_ok] at ran
  obtain ⟨_, valid, options, read, built⟩ := ran
  cases built
  exact
    { valid := valid
      holds := rfl
      options := read
      fresh := ⟨rfl, rfl⟩ }

theorem reload_published {platform : Platform} {interception reloaded : Interception}
    {config : Config} (ran : interception.reload platform config = .ok reloaded) :
    Published platform config reloaded.snapshot := by
  cases interception with
  | winDivert router =>
      simp only [reload, reloadWinDivert, bind_eq_ok, pure_eq_ok] at ran
      obtain ⟨_, ⟨_, _, _, _, published⟩, built⟩ := ran
      cases built
      exact router_reload_published published
  | linuxNft router =>
      simp only [reload, reloadLinuxNft, bind_eq_ok, pure_eq_ok] at ran
      obtain ⟨_, ⟨_, _, published⟩, built⟩ := ran
      cases built
      exact router_reload_published published
  | localProxy router =>
      simp only [reload, bind_eq_ok, pure_eq_ok] at ran
      obtain ⟨_, published, built⟩ := ran
      cases built
      exact router_reload_published published

end Interception

/-! ### The cache of the system -/

/-- What the DNS client of Windows answers. -/
inductive FlushCall where
  | noModule
  | returned (success : Bool) (error : UInt32)

inductive HostSystem where
  | windows (flush : FlushCall)
  | linux

def flushDnsCache : HostSystem → Checked Unit
  | .windows .noModule =>
      throw (.of "DNS_CACHE_FLUSH" "Cannot load Windows DNS cache API")
  | .windows (.returned success error) =>
      rejectIf (success = false)
        { code := "DNS_CACHE_FLUSH"
          message := text "Windows DNS cache flush failed: " ++ decimal error.toNat }
  | .linux =>
      throw
        (.of "NOT_IMPLEMENTED"
          "System DNS cache flush requires a configured Linux resolver service")

/-! ### The core -/

inductive InterceptionMode where
  | localProxy
  | transparent
  deriving DecidableEq

structure IpcResponse where
  status : UInt32 := 0
  payload : Bytes
  deriving DecidableEq

structure CoreHost where
  config : Config
  mode : InterceptionMode
  configPath : Bytes
  interception : Interception
  log : LogSystem
  fileLogPath : Bytes
  fileLogEnabled : Bool

/-- The outcomes of what a reload asks the system and the file thread for. -/
structure ReloadOutcome where
  system : HostSystem
  logPath : Except Thrown Bytes
  /-- The log when the file task is done, and the exception it ended with. -/
  configured : LogSystem → LogSystem × Option Thrown
  flushTime : Int64
  fileTime : Int64
  endTime : Int64

/-- Only the transparent mode asks the resolvers of the system. -/
def Config.withBootstrap (mode : InterceptionMode) (config : Config) : Config :=
  { config with
    servers := config.servers.map fun server =>
      { server with useSystemBootstrap := decide (mode = .transparent) } }

def Thrown.what : Thrown → Bytes
  | .error failure => failure.message
  | .exception message => message

namespace CoreHost

abbrev HostM := EStateM Thrown CoreHost

def writeLog (time : Int64) (level : Level) (code message : Bytes) : HostM Unit :=
  modify fun host =>
    { host with
      log := host.log.storeWritten time
        { level := level
          code := code
          message := message
          context := {} } }

def setDisplayLevel (level : Level) : HostM Unit := do
  if level.exceeds .debug = true then
    throw (.exception (text "invalid display logging level"))
  modify fun host =>
    { host with
      log := { host.log with logger := { host.log.logger with displayLevel := level } } }

def clearDnsCache (outcome : ReloadOutcome) : HostM Unit := do
  let host ← get
  let options ← attempt (raised (runtimeOptions host.config))
  if options.clearDnsCache = true then
    tryCatch
      (do
        attempt (raised (flushDnsCache outcome.system))
        writeLog outcome.flushTime .normal (text "DNS_CACHE_CLEARED")
          (text "System DNS cache cleared after reload"))
      fun
        | .error error =>
            writeLog outcome.flushTime .errorsOnly (text error.code) error.message
        -- Only errors of the core are caught here.
        | .exception what => throw (.exception what)

/-- The checks of `Logger::configure_file`. -/
def checkFileSettings (settings : FileSettings) : Except Thrown Unit :=
  if settings.level.exceeds .debug = true ∨ settings.maximumBytes < 1024 ∨
      1024 * 1024 * 1024 < settings.maximumBytes ∨ 100 < settings.retainedFiles then
    .error (.exception (text "invalid file logging settings"))
  else if settings.enabled = true ∧ settings.path = [] then
    .error (.exception (text "file log path is empty"))
  else .ok ()

/-- `Logger::configure_file`, up to the completion of its task. -/
def configureFile (outcome : ReloadOutcome) (settings : FileSettings) : HostM Unit := do
  attempt (checkFileSettings settings)
  modify fun host =>
    { host with
      log := { host.log with
        logger := { host.log.logger with
          fileEnabled := host.log.logger.fileEnabled && settings.enabled }
        tasks := host.log.tasks ++ [.configure settings] } }
  let host ← get
  let (log, thrown) := outcome.configured host.log
  modify fun host => { host with log := log }
  match thrown with
  | none => pure ()
  | some thrown => throw thrown

def fileSettings (host : CoreHost) : FileSettings :=
  { enabled := host.config.logging.fileEnabled
    level := host.config.logging.file
    path := host.fileLogPath
    maximumBytes := 4 * 1024 * 1024
    retainedFiles := 3 }

def chooseLogPath (outcome : ReloadOutcome) : HostM Unit := do
  let host ← get
  if host.config.logging.fileEnabled = true ∧ host.fileLogEnabled = false then
    let path ← attempt outcome.logPath
    modify fun host => { host with fileLogPath := path }

def configureFileLog (outcome : ReloadOutcome) : HostM Unit :=
  tryCatch
    (do
      chooseLogPath outcome
      let host ← get
      configureFile outcome host.fileSettings
      modify fun host =>
        { host with fileLogEnabled := host.config.logging.fileEnabled })
    fun thrown =>
      writeLog outcome.fileTime .errorsOnly (text "FILE_LOG_CONFIG_FAILED") thrown.what

def prepareReload (platform : Platform) (file : ConfigFile) (payload : Bytes) :
    HostM Config := do
  attempt
    (raised (rejectIf (payload ≠ [])
      (.of "IPC_PROTOCOL" "This operation requires an empty payload")))
  let host ← get
  attempt
    (raised (rejectIf (host.configPath = [])
      (.of "CONFIG_IO" "CoreHost has no configuration path to reload")))
  let loaded ← attempt (raised (loadConfig platform file))
  pure (loaded.withBootstrap host.mode)

def applyReload (platform : Platform) (outcome : ReloadOutcome) (next : Config) :
    HostM IpcResponse := do
  let host ← get
  let interception ← attempt (raised (host.interception.reload platform next))
  modify fun host => { host with interception := interception }
  modify fun host => { host with config := next }
  setDisplayLevel next.logging.screen
  clearDnsCache outcome
  configureFileLog outcome
  writeLog outcome.endTime .normal (text "CONFIG_RELOADED")
    (text "Configuration applied without stopping DNS interception")
  pure { payload := text "RELOADED" }

/-- `CoreHost::handle` of a reload request. -/
def handleReload (platform : Platform) (file : ConfigFile) (outcome : ReloadOutcome)
    (payload : Bytes) : HostM IpcResponse := do
  let next ← prepareReload platform file payload
  applyReload platform outcome next

/-! ### Behind the first change -/

/-- The core routes by `config` through `interception`. -/
structure RoutesBy (config : Config) (interception : Interception) (host : CoreHost) :
    Prop where
  config : host.config = config
  interception : host.interception = interception

section Applied

variable {config : Config} {interception : Interception} {host : CoreHost}

theorem writeLog_returns (routes : RoutesBy config interception host) (time : Int64)
    (level : Level) (code message : Bytes) :
    Returns (writeLog time level code message) host
      (fun _ => RoutesBy config interception) :=
  Ends.update ⟨routes.config, routes.interception⟩

theorem setDisplayLevel_returns (routes : RoutesBy config interception host)
    {level : Level} (known : level.exceeds .debug = false) :
    Returns (setDisplayLevel level) host (fun _ => RoutesBy config interception) := by
  unfold setDisplayLevel
  rw [if_neg (by rw [known]; exact Bool.false_ne_true)]
  exact Ends.update ⟨routes.config, routes.interception⟩

theorem raised_error {α : Type} {result : Checked α} {thrown : Thrown}
    (failed : raised result = .error thrown) : ∃ error, thrown = .error error := by
  cases result with
  | ok value =>
      cases failed
  | error error =>
      cases failed
      exact ⟨error, rfl⟩

theorem clearDnsCache_returns (routes : RoutesBy config interception host)
    (outcome : ReloadOutcome) {options : RuntimeOptions}
    (accepted : runtimeOptions config = .ok options) :
    Returns (clearDnsCache outcome) host (fun _ => RoutesBy config interception) := by
  unfold clearDnsCache
  refine Ends.reading (Ends.checking ?_ ?_)
  · rw [routes.config, accepted]
    exact nofun
  intro found same
  by_cases wanted : found.clearDnsCache = true
  · rw [if_pos wanted]
    -- Whatever the system answers, it answers with an error of the core.
    have flushed : Ends
        (do
          attempt (raised (flushDnsCache outcome.system))
          writeLog outcome.flushTime .normal (text "DNS_CACHE_CLEARED")
            (text "System DNS cache cleared after reload"))
        host (fun _ => RoutesBy config interception)
        (fun thrown after =>
          RoutesBy config interception after ∧ ∃ error, thrown = .error error) :=
      Ends.checking (fun thrown failed => ⟨routes, raised_error failed⟩)
        (fun _ _ => (writeLog_returns routes _ _ _ _).weaken (fun _ _ held => held)
          (fun _ _ impossible => impossible.elim))
    refine flushed.caught ?_
    rintro thrown middle ⟨kept, error, rfl⟩
    exact writeLog_returns kept _ _ _ _
  · rw [if_neg wanted]
    exact Ends.ret routes

theorem configureFile_leaves (routes : RoutesBy config interception host)
    (outcome : ReloadOutcome) (settings : FileSettings) :
    Ends (configureFile outcome settings) host (fun _ => RoutesBy config interception)
      (fun _ => RoutesBy config interception) := by
  unfold configureFile
  refine Ends.checking (fun _ _ => routes) fun _ _ => ?_
  refine Ends.updating (Ends.reading (Ends.updating ?_))
  cases (outcome.configured _).2 with
  | none =>
      exact Ends.ret ⟨routes.config, routes.interception⟩
  | some thrown =>
      exact Ends.raise ⟨routes.config, routes.interception⟩

theorem chooseLogPath_leaves (routes : RoutesBy config interception host)
    (outcome : ReloadOutcome) :
    Ends (chooseLogPath outcome) host (fun _ => RoutesBy config interception)
      (fun _ => RoutesBy config interception) := by
  unfold chooseLogPath
  refine Ends.reading ?_
  split
  · exact Ends.checking (fun _ _ => routes)
      (fun _ _ => Ends.update ⟨routes.config, routes.interception⟩)
  · exact Ends.ret routes

theorem configureFileLog_returns (routes : RoutesBy config interception host)
    (outcome : ReloadOutcome) :
    Returns (configureFileLog outcome) host (fun _ => RoutesBy config interception) := by
  have configured : Ends
      (do
        chooseLogPath outcome
        let host ← get
        configureFile outcome host.fileSettings
        modify fun host =>
          { host with fileLogEnabled := host.config.logging.fileEnabled })
      host (fun _ => RoutesBy config interception)
      (fun _ => RoutesBy config interception) := by
    refine (chooseLogPath_leaves routes outcome).bind fun _ named chosen => ?_
    refine Ends.reading ((configureFile_leaves chosen outcome _).bind ?_)
    intro _ done kept
    exact Ends.update ⟨kept.config, kept.interception⟩
  exact configured.caught fun thrown middle kept => writeLog_returns kept _ _ _ _

end Applied

/-! ### The reload -/

def requested (platform : Platform) (file : ConfigFile) (payload : Bytes)
    (host : CoreHost) : Checked Config := do
  rejectIf (payload ≠ [])
    (.of "IPC_PROTOCOL" "This operation requires an empty payload")
  rejectIf (host.configPath = [])
    (.of "CONFIG_IO" "CoreHost has no configuration path to reload")
  let loaded ← loadConfig platform file
  pure (loaded.withBootstrap host.mode)

/-- What a reload applies: the configuration and the backend with the snapshot
of it. -/
def accepted (platform : Platform) (file : ConfigFile) (payload : Bytes)
    (host : CoreHost) : Checked (Config × Interception) := do
  let next ← requested platform file payload host
  let interception ← host.interception.reload platform next
  pure (next, interception)

variable {platform : Platform} {file : ConfigFile} {payload : Bytes} {host : CoreHost}

theorem prepareReload_eq :
    prepareReload platform file payload host =
      attempt (raised (requested platform file payload host)) host := by
  unfold prepareReload requested
  by_cases given : payload ≠ []
  · rw [rejectIf_of given]
    rfl
  rw [rejectIf_of_not given]
  change (attempt (raised (rejectIf (host.configPath = []) _)) >>= _) host = _
  by_cases pathless : host.configPath = []
  · rw [rejectIf_of pathless]
    rfl
  rw [rejectIf_of_not pathless]
  change (attempt (raised (loadConfig platform file)) >>= _) host = _
  cases loadConfig platform file with
  | error error =>
      rfl
  | ok loaded =>
      rfl

theorem handleReload_eq (outcome : ReloadOutcome) :
    handleReload platform file outcome payload host =
      (attempt (raised (requested platform file payload host)) >>=
        applyReload platform outcome) host := by
  change EStateM.bind _ _ host = EStateM.bind _ _ host
  rw [EStateM.bind, EStateM.bind, prepareReload_eq]

theorem handleReload_rejected (outcome : ReloadOutcome) {error : Error}
    (rejected : accepted platform file payload host = .error error) :
    handleReload platform file outcome payload host = .error (.error error) host := by
  rw [handleReload_eq]
  rcases bind_eq_error.mp rejected with unprepared | ⟨next, prepared, later⟩
  · rw [unprepared]
    rfl
  rw [prepared]
  change (attempt (raised (host.interception.reload platform next)) >>= _) host = _
  rcases bind_eq_error.mp later with refused | ⟨interception, _, impossible⟩
  · rw [refused]
    rfl
  · cases impossible

theorem handleReload_accepted (outcome : ReloadOutcome) {next : Config}
    {interception : Interception}
    (applies : accepted platform file payload host = .ok (next, interception)) :
    Returns (handleReload platform file outcome payload) host
      (fun response after =>
        response = { payload := text "RELOADED" } ∧ RoutesBy next interception after) := by
  simp only [accepted, bind_eq_ok, pure_eq_ok] at applies
  obtain ⟨_, prepared, _, reloaded, same⟩ := applies
  cases same
  have published := Interception.reload_published reloaded
  have levels := (validate_valid published.valid).levels
  have applied : Returns (applyReload platform outcome next) host
      (fun response after =>
        response = { payload := text "RELOADED" } ∧ RoutesBy next interception after) := by
    refine Ends.reading (Ends.checking (by rw [reloaded]; nofun) ?_)
    intro found same
    rw [reloaded] at same
    cases same
    refine Ends.updating (Ends.updating ?_)
    refine (setDisplayLevel_returns ⟨rfl, rfl⟩ levels.1).bind fun _ _ shown => ?_
    refine (clearDnsCache_returns shown outcome published.options).bind
      fun _ _ cleared => ?_
    refine (configureFileLog_returns cleared outcome).bind fun _ _ configured => ?_
    refine (writeLog_returns configured _ _ _ _).bind fun _ _ written => ?_
    exact Ends.ret ⟨rfl, written⟩
  unfold Returns Ends
  rw [handleReload_eq, prepared]
  exact applied

/-- A reload fails and changes nothing, or it answers and the configuration and
the routing snapshot are the loaded one; the system, the file log and the other
callers of the log have no say in which. -/
theorem reload_allOrNothing (platform : Platform) (file : ConfigFile) (payload : Bytes)
    (host : CoreHost) :
    (∃ error, ∀ outcome,
      handleReload platform file outcome payload host = .error error host) ∨
    ∃ loaded, loadConfig platform file = .ok loaded ∧
      ∀ outcome, ∃ after,
        handleReload platform file outcome payload host =
          .ok { payload := text "RELOADED" } after ∧
        after.config = loaded.withBootstrap host.mode ∧
        Interception.Published platform (loaded.withBootstrap host.mode)
          after.interception.snapshot := by
  cases decided : accepted platform file payload host with
  | error error =>
      exact .inl ⟨.error error, fun outcome => handleReload_rejected outcome decided⟩
  | ok applied =>
      obtain ⟨next, interception⟩ := applied
      have applies := decided
      simp only [accepted, requested, bind_eq_ok, pure_eq_ok] at applies
      obtain ⟨_, ⟨_, _, _, _, loaded, read, marked⟩, _, reloaded, same⟩ := applies
      cases marked
      cases same
      refine .inr ⟨loaded, read, fun outcome => ?_⟩
      obtain ⟨response, after, ran, answered, routes⟩ :=
        (handleReload_accepted outcome decided).exists
      subst answered
      refine ⟨after, ran, routes.config, ?_⟩
      rw [routes.interception]
      exact Interception.reload_published reloaded

/-! ### Any number of reloads -/

/-- The core and its backend hold the same valid configuration. -/
def Synchronized (platform : Platform) (host : CoreHost) : Prop :=
  Interception.Routes platform host.config host.interception.snapshot

structure ReloadRequest where
  file : ConfigFile
  outcome : ReloadOutcome
  payload : Bytes

def served (platform : Platform) (host : CoreHost) (request : ReloadRequest) : CoreHost :=
  match handleReload platform request.file request.outcome request.payload host with
  | .ok _ after => after
  | .error _ after => after

theorem served_synchronized (synchronized : Synchronized platform host)
    (request : ReloadRequest) :
    Synchronized platform (served platform host request) := by
  unfold served
  rcases reload_allOrNothing platform request.file request.payload host with
    ⟨error, fails⟩ | ⟨loaded, _, applies⟩
  · rw [fails]
    exact synchronized
  · obtain ⟨after, ran, config, published⟩ := applies request.outcome
    rw [ran]
    rw [← config] at published
    exact published.toRoutes

theorem reloads_synchronized (requests : List ReloadRequest) :
    ∀ {host : CoreHost}, Synchronized platform host →
      Synchronized platform (requests.foldl (served platform) host) := by
  induction requests with
  | nil =>
      exact fun synchronized => synchronized
  | cons request rest ih =>
      exact fun synchronized => ih (served_synchronized synchronized request)

end CoreHost

end NativeDNS
