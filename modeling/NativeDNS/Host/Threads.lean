/-
The threads of a running core.

The main thread starts the core, supervises its three endpoints and stops it.  Every
endpoint has a loop that takes connections, and every connection a worker that calls the
handler of the core.  They share three mutexes of the core and the one of the backend;
a thread is cut at its acquisitions, at its calls of the backend and at its reads and
writes of what is shared, so that the others come between any two of them.  Whatever the
system or the backend may answer is given by the step.  So is what a client does: on Linux
a worker that sends its reply can be kept waiting by it for as long as it likes.
-/
import NativeDNS.Ipc.Session
import NativeDNS.Listener.Events
import Mathlib.Logic.Function.Basic

namespace NativeDNS

open ByteText (text decimal)
open CheckedResult

/-! ### Requests -/

inductive IpcOperation where
  | ping
  | status
  | start
  | stop
  | logs
  | shutdown
  | clearFileLog
  | clearDisplay
  | restart
  | configureFileLog
  | reloadConfig
  | other
  deriving DecidableEq

def IpcOperation.ofCode (code : UInt16) : IpcOperation :=
  if code = 1 then .ping
  else if code = 2 then .status
  else if code = 3 then .start
  else if code = 4 then .stop
  else if code = 5 then .logs
  else if code = 6 then .shutdown
  else if code = 7 then .clearFileLog
  else if code = 8 then .clearDisplay
  else if code = 9 then .restart
  else if code = 10 then .configureFileLog
  else if code = 11 then .reloadConfig
  else .other

inductive IpcEndpoint where
  | command
  | logs
  | shutdown
  deriving DecidableEq

/-- What an endpoint lets through, and what `handle` checks first. -/
def IpcEndpoint.check (endpoint : IpcEndpoint) (operation : IpcOperation) (payload : Bytes) :
    Checked Unit := do
  match endpoint with
  | .command => pure ()
  | .logs =>
      rejectIf (operation ≠ .logs)
        (.of "IPC_PROTOCOL" "Log IPC endpoint only accepts logs operation")
  | .shutdown =>
      rejectIf (operation ≠ .shutdown ∧ operation ≠ .ping)
        (.of "IPC_PROTOCOL" "Shutdown endpoint only accepts shutdown and ping")
  rejectIf (operation ≠ .logs ∧ operation ≠ .configureFileLog ∧ payload ≠ [])
    (.of "IPC_PROTOCOL" "This operation requires an empty payload")

def State.name : State → Bytes
  | .stopped => text "STOPPED"
  | .starting => text "STARTING"
  | .running => text "RUNNING"
  | .stopping => text "STOPPING"
  | .error => text "ERROR"

def flagDigit (value : Bool) : Bytes :=
  if value then text "1" else text "0"

def InterceptionStatus.reply (value : InterceptionStatus) : IpcResponse :=
  { payload := value.state.name ++ text " port=" ++ decimal value.port.toNat ++
      text " transparent=" ++ flagDigit value.transparent ++
      text " udp=" ++ flagDigit value.udp ++ text " tcp=" ++ flagDigit value.tcp ++
      (if value.errorCode = "" then []
        else text " error=" ++ text value.errorCode ++ text " " ++ value.errorMessage) }

/-! ### Calls of the backend -/

inductive BackendKind where
  | localProxy (platform : IpcPlatform)
  | linuxNft
  | winDivert
  deriving DecidableEq

def BackendKind.platform : BackendKind → IpcPlatform
  | localProxy platform => platform
  | linuxNft => .linux
  | winDivert => .windows

def BackendKind.notStopped : BackendKind → Error
  | localProxy _ => .of "LIFECYCLE" "Proxy is not stopped"
  | linuxNft => .of "LIFECYCLE" "Linux interception is not stopped"
  | winDivert => .of "LIFECYCLE" "WinDivert interception is not stopped"

/-- What a start that fails leaves; the Linux backend catches only errors of its own. -/
def BackendKind.failed : BackendKind → Thrown → State
  | linuxNft, .exception _ => .starting
  | _, _ => .error

inductive BackendCall where
  | start
  | stop
  deriving DecidableEq

/-- A call waits for the mutex of the backend, works, and joins the backend's threads
where it stops it or fails. -/
inductive CallPhase where
  | entering
  | inside
  | joining (thrown : Option Thrown)
  deriving DecidableEq

/-- WinDivert lets its mutex go while it joins. -/
def CallPhase.holdsBackend (kind : BackendKind) : CallPhase → Bool
  | entering => false
  | inside => true
  | joining _ => decide (kind ≠ .winDivert)

def CallPhase.wantsBackend (kind : BackendKind) : CallPhase → Bool
  | entering => true
  | inside => false
  | joining _ => decide (kind = .winDivert)

inductive CallStep where
  | more (phase : CallPhase) (backend : State)
  | done (result : Except Thrown Unit) (backend : State)

/-- One step of a call; `failure` is what the backend raises, if it does.  A stop raises
nothing as long as there is memory to look after the driver's service. -/
def callStep (kind : BackendKind) (backend : State) (failure : Option Thrown) :
    BackendCall → CallPhase → CallStep
  | .start, .entering =>
      if backend ≠ .stopped then .done (.error (.error kind.notStopped)) backend
      else .more .inside .starting
  | .stop, .entering =>
      if backend = .stopped then .done (.ok ()) backend else .more .inside .stopping
  | .start, .inside =>
      match failure with
      | none => .done (.ok ()) .running
      -- WinDivert says so while it takes its start back.
      | some thrown =>
          .more (.joining (some thrown)) (if kind = .winDivert then .stopping else backend)
  | .stop, .inside => .more (.joining none) backend
  | .start, .joining (some thrown) => .done (.error thrown) (kind.failed thrown)
  | .start, .joining none => .done (.ok ()) .running
  | .stop, .joining _ => .done (.ok ()) .stopped

/-! ### The main thread -/

inductive HostEnd where
  | shutdown
  | restart
  | failed (thrown : Thrown)
  | startFailed (thrown : Thrown)
  deriving DecidableEq

inductive Launching where
  | starting
  | recovering
  deriving DecidableEq

inductive Closing where
  | stopping (outcome : HostEnd)
  | rollback (thrown : Thrown)
  deriving DecidableEq

inductive MainCall where
  | starting
  | closing (closing : Closing)
  deriving DecidableEq

inductive MainAt where
  /-- In front of `start`. -/
  | start
  | calling (why : MainCall) (phase : CallPhase)
  | clearing
  | endpointsLock
  | launch (why : Launching) (endpoint : IpcEndpoint)
  | ready (why : Launching) (endpoint : IpcEndpoint)
  | abandon (why : Launching) (endpoint : IpcEndpoint) (thrown : Thrown)
  | started
  /-- In front of `wait_for_shutdown`. -/
  | supervise
  | predicate
  | waiting
  | waking
  | woken
  | recoverLock
  | recoverCheck
  | recover (endpoint : IpcEndpoint)
  | rejoin (endpoint : IpcEndpoint)
  | resume
  | inspect
  | rollbackLock (thrown : Thrown)
  | closing (why : Closing) (endpoint : IpcEndpoint)
  | joining (why : Closing) (endpoint : IpcEndpoint)
  | returned
  | raised (thrown : Thrown)
  /-- In front of `stop`. -/
  | stop (outcome : HostEnd)
  | stopLock (outcome : HostEnd)
  | stopMutex (outcome : HostEnd)
  | finished (outcome : HostEnd)
  deriving DecidableEq

/-! ### The workers -/

inductive WorkerAt where
  | reading
  | handling (operation : IpcOperation) (payload : Bytes)
  | restarting
  | statusCall
  | reloadLock
  | loading
  | reloadMutex
  | applying
  | reloaded
  | mutexLock (operation : IpcOperation)
  | calling (call : BackendCall) (phase : CallPhase)
  | started
  | locked (operation : IpcOperation)
  | logging (operation : IpcOperation)
  | replying (result : Except Thrown IpcResponse)
  /-- In a `send` to a client that does not read. -/
  | blocked
  deriving DecidableEq

structure Worker where
  endpoint : IpcEndpoint
  at_ : WorkerAt := .reading
  deriving DecidableEq

def MainCall.call : MainCall → BackendCall
  | .starting => .start
  | .closing _ => .stop

/-! ### What is shared -/

inductive HostLock where
  /-- `ipc_lifecycle_mutex_`. -/
  | lifecycle
  /-- `reload_mutex_`. -/
  | reload
  /-- `mutex_`. -/
  | mutex
  | backend
  deriving DecidableEq

/-- What a thread may wait for: a mutex, or the end of an endpoint's threads. -/
inductive HostResource where
  | lock (lock : HostLock)
  | threads (endpoint : IpcEndpoint)
  deriving DecidableEq

def MainCall.holds : MainCall → HostLock → Bool
  | .starting, lock => decide (lock = .mutex)
  | .closing (.stopping _), lock => decide (lock = .mutex)
  | .closing (.rollback _), lock => decide (lock = .lifecycle)

@[simp] def MainAt.holds (kind : BackendKind) : MainAt → HostLock → Bool
  | .calling why phase, lock =>
      why.holds lock || (decide (lock = .backend) && phase.holdsBackend kind)
  | .clearing, lock => decide (lock = .mutex)
  | .launch _ _, lock => decide (lock = .lifecycle)
  | .ready _ _, lock => decide (lock = .lifecycle)
  | .abandon _ _ _, lock => decide (lock = .lifecycle)
  | .started, lock => decide (lock = .lifecycle)
  | .predicate, lock => decide (lock = .mutex)
  | .woken, lock => decide (lock = .mutex)
  | .recoverCheck, lock => decide (lock = .lifecycle)
  | .recover _, lock => decide (lock = .lifecycle)
  | .rejoin _, lock => decide (lock = .lifecycle)
  | .inspect, lock => decide (lock = .mutex)
  | .closing _ _, lock => decide (lock = .lifecycle)
  | .joining _ _, lock => decide (lock = .lifecycle)
  | _, _ => false

@[simp] def MainAt.wants (kind : BackendKind) : MainAt → Option HostResource
  | .start => some (.lock .mutex)
  | .calling _ phase => if phase.wantsBackend kind then some (.lock .backend) else none
  | .endpointsLock => some (.lock .lifecycle)
  | .abandon _ endpoint _ => some (.threads endpoint)
  | .started => some (.lock .backend)
  | .supervise => some (.lock .mutex)
  | .waking => some (.lock .mutex)
  | .recoverLock => some (.lock .lifecycle)
  | .rejoin endpoint => some (.threads endpoint)
  | .resume => some (.lock .mutex)
  | .inspect => some (.lock .backend)
  | .rollbackLock _ => some (.lock .lifecycle)
  | .joining _ endpoint => some (.threads endpoint)
  | .stopLock _ => some (.lock .lifecycle)
  | .stopMutex _ => some (.lock .mutex)
  | _ => none

@[simp] def WorkerAt.holds (kind : BackendKind) : WorkerAt → HostLock → Bool
  | .loading, lock => decide (lock = .reload)
  | .reloadMutex, lock => decide (lock = .reload)
  | .applying, lock => decide (lock = .reload) || decide (lock = .mutex)
  | .reloaded, lock => decide (lock = .reload)
  | .calling _ phase, lock =>
      decide (lock = .mutex) || (decide (lock = .backend) && phase.holdsBackend kind)
  | .started, lock => decide (lock = .mutex)
  | .locked _, lock => decide (lock = .mutex)
  | _, _ => false

@[simp] def WorkerAt.wants (kind : BackendKind) : WorkerAt → Option HostResource
  | .statusCall => some (.lock .backend)
  | .reloadLock => some (.lock .reload)
  | .reloadMutex => some (.lock .mutex)
  | .mutexLock _ => some (.lock .mutex)
  | .calling _ phase => if phase.wantsBackend kind then some (.lock .backend) else none
  | .started => some (.lock .backend)
  | _ => none

/-- The threads of a core and what they share.  The shutdown and restart requests the
handler has been asked for are kept in `asked`. -/
structure HostThreads where
  main : MainAt := .start
  running : IpcEndpoint → Bool := fun _ => false
  looping : IpcEndpoint → Bool := fun _ => false
  workers : List Worker := []
  backend : State := .stopped
  shutdownRequested : Bool := false
  restartRequested : Bool := false
  stopped : Bool := true
  asked : List IpcOperation := []

namespace HostThreads

/-- Nobody holds the mutex; the endpoint has no thread left. -/
def available (kind : BackendKind) (s : HostThreads) : HostResource → Bool
  | .lock lock => !s.main.holds kind lock && s.workers.all fun w => !w.at_.holds kind lock
  | .threads endpoint => !s.looping endpoint && s.workers.all fun w => w.endpoint ≠ endpoint

/-! ### Steps of the main thread -/

def requestShutdown (s : HostThreads) : HostThreads :=
  { s with shutdownRequested := true }

/-- `PipeServer::start` up to its wait, and the end of `running_`. -/
def launched (s : HostThreads) (endpoint : IpcEndpoint) : HostThreads :=
  { s with
    running := Function.update s.running endpoint true
    looping := Function.update s.looping endpoint true }

def halted (s : HostThreads) (endpoint : IpcEndpoint) : HostThreads :=
  { s with running := Function.update s.running endpoint false }

theorem launched_running (s : HostThreads) (endpoint other : IpcEndpoint) :
    (s.launched endpoint).running other = if other = endpoint then true else s.running other :=
  Function.update_apply s.running endpoint true other

theorem launched_looping (s : HostThreads) (endpoint other : IpcEndpoint) :
    (s.launched endpoint).looping other = if other = endpoint then true else s.looping other :=
  Function.update_apply s.looping endpoint true other

theorem halted_running (s : HostThreads) (endpoint other : IpcEndpoint) :
    (s.halted endpoint).running other = if other = endpoint then false else s.running other :=
  Function.update_apply s.running endpoint false other

end HostThreads

def IpcEndpoint.next : IpcEndpoint → Option IpcEndpoint
  | .command => some .logs
  | .logs => some .shutdown
  | .shutdown => none

def Launching.behind : Launching → IpcEndpoint → MainAt
  | .starting, endpoint =>
      match endpoint.next with
      | some next => .launch .starting next
      | none => .started
  | .recovering, endpoint =>
      match endpoint.next with
      | some next => .recover next
      | none => .resume

/-- An exception leaves `start` for its rollback, and the supervision. -/
def Launching.leave : Launching → Thrown → MainAt
  | .starting, thrown => .rollbackLock thrown
  | .recovering, thrown => .raised thrown

def Closing.behind : Closing → IpcEndpoint → MainAt
  | .stopping outcome, .logs => .closing (.stopping outcome) .command
  | .stopping outcome, .command => .closing (.stopping outcome) .shutdown
  | .stopping outcome, .shutdown => .stopMutex outcome
  | .rollback thrown, .shutdown => .closing (.rollback thrown) .logs
  | .rollback thrown, .logs => .closing (.rollback thrown) .command
  | .rollback thrown, .command => .calling (.closing (.rollback thrown)) .entering

inductive MainMove where
  | go
  | again
  | fail (thrown : Thrown)
  deriving DecidableEq

namespace HostThreads

def mainReturned (s : HostThreads) (why : MainCall) (result : Except Thrown Unit) :
    HostThreads :=
  match why, result with
  | .starting, .ok () => { s with main := .clearing }
  | .starting, .error thrown => { s.requestShutdown with main := .rollbackLock thrown }
  | .closing (.stopping outcome), _ => { s.requestShutdown with main := .finished outcome }
  | .closing (.rollback thrown), _ =>
      { s with main := .finished (.startFailed thrown), stopped := true }

/-! ### Calls and waits of the main thread -/

/-- `start` looks at the backend before its first call. -/
def begun (s : HostThreads) : HostThreads :=
  if s.backend ≠ .stopped then
    { s with
      main := .finished (.startFailed (.error (.of "LIFECYCLE" "Core is not stopped"))) }
  else
    { s with
      main := .calling .starting .entering
      shutdownRequested := false
      restartRequested := false
      stopped := false }

def mainCalling (kind : BackendKind) (s : HostThreads) (why : MainCall) (phase : CallPhase)
    (failure : Option Thrown) : HostThreads :=
  match callStep kind s.backend failure why.call phase with
  | .more phase backend => { s with main := .calling why phase, backend := backend }
  | .done result backend => { s with backend := backend }.mainReturned why result

/-- `stop` returns at once where the core has been stopped before. -/
def stopping (s : HostThreads) (outcome : HostEnd) : HostThreads :=
  if s.stopped then { s with main := .finished outcome }
  else { s.requestShutdown with main := .stopLock outcome, stopped := true }

def mainMove (kind : BackendKind) (s : HostThreads) (move : MainMove) : Option HostThreads :=
  match s.main, move with
  | .start, .go => some s.begun
  | .calling why phase, .go => some (s.mainCalling kind why phase none)
  | .calling why phase, .fail thrown => some (s.mainCalling kind why phase (some thrown))
  | .clearing, .go => some { s with main := .endpointsLock }
  | .clearing, .fail thrown => some { s.requestShutdown with main := .rollbackLock thrown }
  | .endpointsLock, .go => some { s with main := .launch .starting .command }
  | .launch why endpoint, .go => some { s.launched endpoint with main := .ready why endpoint }
  | .launch why _, .fail thrown => some { s.requestShutdown with main := why.leave thrown }
  | .ready why endpoint, .go =>
      if s.running endpoint then some { s with main := why.behind endpoint } else none
  | .ready why endpoint, .fail thrown =>
      some { s.halted endpoint with main := .abandon why endpoint thrown }
  | .abandon why _ thrown, .go => some { s.requestShutdown with main := why.leave thrown }
  | .started, .go => some { s with main := .supervise }
  | .supervise, .go => some { s with main := .predicate }
  | .predicate, .go =>
      some { s with main := if s.shutdownRequested then .returned else .waiting }
  | .waiting, .go => some { s with main := .waking }
  | .waking, .go => some { s with main := .woken }
  | .woken, .go =>
      some { s with main := if s.shutdownRequested then .returned else .recoverLock }
  | .woken, .again =>
      if s.shutdownRequested then none else some { s with main := .waiting }
  | .recoverLock, .go => some { s with main := .recoverCheck }
  | .recoverCheck, .go =>
      some { s with main := if s.shutdownRequested then .returned else .recover .command }
  | .recover endpoint, .go =>
      some
        { s with
          main := if s.running endpoint then Launching.recovering.behind endpoint
            else .rejoin endpoint }
  | .rejoin endpoint, .go => some { s with main := .launch .recovering endpoint }
  | .resume, .go => some { s with main := .inspect }
  | .inspect, .go => if s.backend = .error then none else some { s with main := .predicate }
  | .inspect, .fail thrown =>
      if s.backend = .error then some { s with main := .raised thrown } else none
  | .rollbackLock thrown, .go => some { s with main := .closing (.rollback thrown) .shutdown }
  | .closing why endpoint, .go => some { s.halted endpoint with main := .joining why endpoint }
  | .joining why endpoint, .go => some { s with main := why.behind endpoint }
  | .returned, .go =>
      some { s with main := .stop (if s.restartRequested then .restart else .shutdown) }
  | .raised thrown, .go => some { s.requestShutdown with main := .stop (.failed thrown) }
  | .stop outcome, .go => some (s.stopping outcome)
  | .stopLock outcome, .go => some { s with main := .closing (.stopping outcome) .logs }
  | .stopMutex outcome, .go =>
      some { s with main := .calling (.closing (.stopping outcome)) .entering }
  | _, _ => none

/-! ### Steps of the workers -/

end HostThreads

inductive HandlerMove where
  | request (code : UInt16) (payload : Bytes)
  | go
  | fail (thrown : Thrown)
  | status (value : InterceptionStatus)
  | result (result : Except Thrown IpcResponse)
  | leave
  /-- The client leaves no room for the reply. -/
  | block
  | taken

/-- Where the handler goes with an operation the endpoint lets through. -/
def IpcOperation.enter (operation : IpcOperation) : WorkerAt :=
  match operation with
  | .ping => .replying (.ok { payload := text "NativeDNS Core API 1" })
  | .reloadConfig => .reloadLock
  | .status => .statusCall
  | .start => .mutexLock .start
  | .stop => .mutexLock .stop
  | .shutdown => .replying (.ok { payload := text "SHUTTING_DOWN" })
  | .restart => .restarting
  | .logs => .mutexLock .logs
  | .clearFileLog => .logging .clearFileLog
  | .configureFileLog => .mutexLock .configureFileLog
  | .clearDisplay => .logging .clearDisplay
  | .other => .replying (.error (.error (.of "IPC_PROTOCOL" "Unsupported operation")))

namespace HostThreads

def workerReturned (call : BackendCall) (result : Except Thrown Unit) : WorkerAt :=
  match call, result with
  | .start, .ok () => .started
  | .stop, .ok () => .replying (.ok { payload := text "STOPPED" })
  | _, .error thrown => .replying (.error thrown)

/-- The worker goes on at `next`. -/
def moved (s : HostThreads) (index : Nat) (w : Worker) (next : WorkerAt) : HostThreads :=
  { s with workers := s.workers.set index { w with at_ := next } }

def workerCalling (kind : BackendKind) (s : HostThreads) (index : Nat) (w : Worker)
    (call : BackendCall) (phase : CallPhase) (failure : Option Thrown) : HostThreads :=
  match callStep kind s.backend failure call phase with
  | .more phase backend => { s with backend := backend }.moved index w (.calling call phase)
  | .done result backend =>
      { s with backend := backend }.moved index w (workerReturned call result)

/-- What `handle` sets for an operation before it goes on with it. -/
def entered (s : HostThreads) (operation : IpcOperation) : HostThreads :=
  match operation with
  | .shutdown => { s.requestShutdown with asked := s.asked ++ [.shutdown] }
  | .restart => { s with restartRequested := true, asked := s.asked ++ [.restart] }
  | _ => s

def workerMove (kind : BackendKind) (s : HostThreads) (index : Nat) (w : Worker)
    (move : HandlerMove) : Option HostThreads :=
  match w.at_, move with
  | .reading, .request code payload =>
      some (s.moved index w (.handling (.ofCode code) payload))
  | .reading, .leave => some { s with workers := s.workers.eraseIdx index }
  | .handling operation payload, .go =>
      match w.endpoint.check operation payload with
      | .error error => some (s.moved index w (.replying (.error (.error error))))
      | .ok () => some ((s.entered operation).moved index w operation.enter)
  | .restarting, .go =>
      some (s.requestShutdown.moved index w
        (.replying (.ok { payload := text "RESTARTING" })))
  | .statusCall, .status value =>
      if value.state = s.backend then some (s.moved index w (.replying (.ok value.reply)))
      else none
  | .reloadLock, .go => some (s.moved index w .loading)
  | .loading, .go => some (s.moved index w .reloadMutex)
  | .loading, .fail thrown => some (s.moved index w (.replying (.error thrown)))
  | .reloadMutex, .go => some (s.moved index w .applying)
  | .applying, .go => some (s.moved index w .reloaded)
  | .applying, .fail thrown => some (s.moved index w (.replying (.error thrown)))
  | .reloaded, .go =>
      some (s.moved index w (.replying (.ok { payload := text "RELOADED" })))
  | .mutexLock operation, .go =>
      some (s.moved index w
        (match operation with
        | .start => .calling .start .entering
        | .stop => .calling .stop .entering
        | operation => .locked operation))
  | .calling call phase, .go => some (s.workerCalling kind index w call phase none)
  | .calling call phase, .fail thrown =>
      some (s.workerCalling kind index w call phase (some thrown))
  | .started, .status value =>
      some (s.moved index w
        (.replying (.ok { payload := text "RUNNING port=" ++ decimal value.port.toNat })))
  -- Only the display level is read for a request for rows.
  | .locked operation, .go =>
      if operation = .logs then some (s.moved index w (.logging .logs)) else none
  | .locked operation, .result result =>
      if operation = .logs then none else some (s.moved index w (.replying result))
  | .logging _, .result result => some (s.moved index w (.replying result))
  | .replying _, .leave => some { s with workers := s.workers.eraseIdx index }
  -- The socket is a blocking one, and neither the deadline nor `running_` ends its `send`.
  | .replying _, .block =>
      if kind.platform = .linux then some (s.moved index w .blocked) else none
  | .blocked, .taken => some { s with workers := s.workers.eraseIdx index }
  | _, _ => none

end HostThreads

/-! ### The core -/

inductive HostEvent where
  | main (move : MainMove)
  /-- The loop takes a connection, also one it was waiting for when it was stopped. -/
  | connect (endpoint : IpcEndpoint)
  | loopFails (endpoint : IpcEndpoint)
  | loopEnds (endpoint : IpcEndpoint)
  | worker (index : Nat) (move : HandlerMove)
  | backendFails

/-- A connection is given a worker while the endpoint has fewer than sixteen. -/
def HostThreads.connect (s : HostThreads) (endpoint : IpcEndpoint) : Option HostThreads :=
  if s.looping endpoint = true ∧
      (s.workers.countP fun w => w.endpoint = endpoint) < maxWorkers then
    some { s with workers := s.workers ++ [{ endpoint := endpoint }] }
  else none

def HostThreads.perform (kind : BackendKind) (s : HostThreads) :
    HostEvent → Option HostThreads
  | .main move =>
      if (s.main.wants kind).all (s.available kind) then s.mainMove kind move else none
  | .connect endpoint => s.connect endpoint
  | .loopFails endpoint =>
      if s.looping endpoint then
        some
          { s with
            running := Function.update s.running endpoint false
            looping := Function.update s.looping endpoint false }
      else none
  | .loopEnds endpoint =>
      if s.looping endpoint = true ∧ s.running endpoint = false then
        some { s with looping := Function.update s.looping endpoint false }
      else none
  | .worker index move => do
      let w ← s.workers[index]?
      if (w.at_.wants kind).all (s.available kind) then s.workerMove kind index w move
      else none
  -- The Linux backend does not look at its proxy again.
  | .backendFails =>
      if s.backend = .running ∧ kind ≠ .linuxNft then some { s with backend := .error }
      else none

/-- The states of a core that is constructed once and run to its end. -/
abbrev HostThreads.Reached (kind : BackendKind) : HostThreads → Prop :=
  Transition.Reachable (fun s => s = {}) fun before after =>
    ∃ event, before.perform kind event = some after

end NativeDNS
