/-
How the window starts CoreHost again.

The window polls the status of CoreHost and starts it through a worker.  Each
result of a poll and each end of a worker is one step on the window's thread;
what the two workers find out is given.  Times are readings of a monotonic clock
in nanoseconds, and a timer is the reading at its start.  Status texts, log lines
and dialogs are left out.
-/
import NativeDNS.Model

namespace NativeDNS

open ByteText (text)

namespace CoreWindow

/-! ### Timers -/

abbrev ElapsedTimer := Option Nat

def milliseconds (since now : Nat) : Nat :=
  (now - since) / 1000000

/-- `isValid() && elapsed() < limit`. -/
def runsWithin (timer : ElapsedTimer) (limit now : Nat) : Bool :=
  match timer with
  | some since => decide (milliseconds since now < limit)
  | none => false

/-! ### What the workers find out -/

/-- How a request to CoreHost ends.  Texts are those the window would show. -/
inductive IpcAnswer where
  | answered (payload : Bytes)
  | refused (shown : Bytes)
  | error (code : String) (shown : Bytes)
  | exception (shown : Bytes)
  deriving DecidableEq

/-- The probe of the process lock; whatever it raises has a text. -/
inductive LockProbe where
  | acquired
  | held
  | raised (shown : Bytes) (nonempty : shown ≠ [])
  deriving DecidableEq

structure StatusPoll where
  status : IpcAnswer
  lock : LockProbe
  available : Bool
  signature : Bytes
  deriving DecidableEq

def StatusPoll.failed (poll : StatusPoll) : Bool :=
  match poll.status with
  | .answered _ => false
  | _ => true

/-- Without a sure sign of its absence the process counts as alive. -/
def StatusPoll.processAlive (poll : StatusPoll) : Bool :=
  match poll.lock with
  | .acquired => false
  | _ => true

def StatusPoll.running (poll : StatusPoll) : Bool :=
  match poll.status with
  | .answered payload => (text "RUNNING").isPrefixOf payload
  | _ => false

structure StartAnswers where
  status : IpcAnswer
  start : IpcAnswer
  lock : LockProbe
  /-- Whether `start_autostart_core` starts the process; never outside Windows. -/
  autostarted : Bool
  launched : Bool
  launchError : Bytes

structure StartResult where
  success : Bool
  running : Bool
  failure : Bytes
  launched : Bool := false
  deriving DecidableEq

/-- The failure text a request leaves; a missing endpoint leaves none. -/
def failureText : IpcAnswer → Bytes
  | .answered _ => []
  | .refused shown => shown
  | .error code shown =>
      if code ≠ "IPC_CONNECT" ∧ code ≠ "IPC_TIMEOUT" then shown else []
  | .exception shown => shown

def failedContact (answer : IpcAnswer) : StartResult :=
  { success := false
    running := false
    failure := failureText answer }

/-- The first part of the worker: CoreHost runs, or is asked to start. -/
def contactCore (answers : StartAnswers) : StartResult :=
  match answers.status with
  | .answered payload =>
      if (text "RUNNING").isPrefixOf payload || (text "STARTING").isPrefixOf payload then
        { success := true
          running := true
          failure := [] }
      else
        match answers.start with
        | .answered _ =>
            { success := true
              running := true
              failure := [] }
        | other => failedContact other
  | other => failedContact other

def controlUnavailable : Bytes :=
  text "CoreHost is running but its control channel is unavailable."

def probeLock (answers : StartAnswers) (result : StartResult) : StartResult :=
  if result.success = false ∧ result.failure = [] then
    match answers.lock with
    | .acquired => result
    | .held => { result with failure := controlUnavailable }
    | .raised shown _ => { result with failure := shown }
  else result

def launchProcess (answers : StartAnswers) (result : StartResult) : StartResult :=
  if result.success = false ∧ result.failure = [] then
    let launched := answers.autostarted || answers.launched
    { result with
      success := launched
      failure := if launched = true then result.failure else answers.launchError
      launched := launched }
  else result

def startWorker (answers : StartAnswers) : StartResult :=
  launchProcess answers (probeLock answers (contactCore answers))

/-! ### The window -/

structure CoreMonitor where
  networkAvailable : Bool
  networkSignature : Bytes
  coreLaunchPending : Bool := false
  restartWhenNetworkReturns : Bool := false
  coreStartOperationPending : Bool := false
  coreControlErrorLogged : Bool := false
  failedCorePolls : UInt32 := 0
  automaticRestarts : UInt32 := 0
  coreLaunchTimer : ElapsedTimer := none
  networkProbeTimer : ElapsedTimer := none
  coreHealthyTimer : ElapsedTimer := none
  coreFailureTimer : ElapsedTimer := none
  deriving DecidableEq

/-- `startCore`, and whether it hands an operation to a worker. -/
def startCore (now : Nat) (reportFailure : Bool) (core : CoreMonitor) :
    CoreMonitor × Bool :=
  let core := if reportFailure = true then { core with automaticRestarts := 0 } else core
  if (core.coreLaunchPending && runsWithin core.coreLaunchTimer 15000 now) = true then
    (core, false)
  else if (core.restartWhenNetworkReturns && !reportFailure &&
      runsWithin core.networkProbeTimer 5000 now) = true then
    (core, false)
  else if core.coreStartOperationPending = true then (core, false)
  else
    ({ core with
        coreStartOperationPending := true
        networkProbeTimer := some now }, true)

def startCompleted (now : Nat) (result : StartResult) (core : CoreMonitor) :
    CoreMonitor :=
  let core :=
    { core with
      coreStartOperationPending := false
      restartWhenNetworkReturns := false }
  if result.success = false then { core with coreLaunchPending := false }
  else if result.running = true then { core with coreLaunchPending := false }
  else
    { core with
      coreLaunchPending := true
      coreLaunchTimer := some now }

def showCoreControlFailure (core : CoreMonitor) : CoreMonitor :=
  { core with coreControlErrorLogged := true }

def noteFailure (now : Nat) (poll : StatusPoll) (core : CoreMonitor) : CoreMonitor :=
  if poll.failed = true then
    { core with
      coreHealthyTimer := none
      coreFailureTimer := some (core.coreFailureTimer.getD now) }
  else core

def noteNetwork (poll : StatusPoll) (core : CoreMonitor) : CoreMonitor :=
  { core with
    networkAvailable := poll.available
    networkSignature := poll.signature }

def noteHealth (now : Nat) (poll : StatusPoll) (core : CoreMonitor) : CoreMonitor :=
  if poll.running = true then
    let since := core.coreHealthyTimer.getD now
    let core := { core with coreHealthyTimer := some since }
    if 30000 ≤ milliseconds since now then
      { core with
        automaticRestarts := 0
        coreControlErrorLogged := false }
    else core
  else { core with coreHealthyTimer := none }

def isError (poll : StatusPoll) : Bool :=
  match poll.status with
  | .answered payload => (text "ERROR").isPrefixOf payload
  | _ => false

def answeredPoll (now : Nat) (poll : StatusPoll) (core : CoreMonitor) : CoreMonitor :=
  let core :=
    { core with
      failedCorePolls := 0
      coreFailureTimer := none }
  let core := if isError poll = true then showCoreControlFailure core else core
  { noteHealth now poll core with
    coreLaunchPending := false
    restartWhenNetworkReturns := false }

/-- A failed poll while the process holds its lock. -/
def unreachableCore (now : Nat) (core : CoreMonitor) : CoreMonitor :=
  let core :=
    { core with
      coreHealthyTimer := none
      failedCorePolls := core.failedCorePolls + 1 }
  if 3 ≤ core.failedCorePolls ∧
      10000 ≤ milliseconds (core.coreFailureTimer.getD now) now then
    showCoreControlFailure core
  else core

def retryDue (now : Nat) (core : CoreMonitor) : Bool :=
  decide (3 ≤ core.failedCorePolls) && !runsWithin core.networkProbeTimer 5000 now

/-- A failed poll without a start operation or a launch that may still answer. -/
def stoppedCore (core : CoreMonitor) : CoreMonitor :=
  let core :=
    { core with
      coreHealthyTimer := none
      coreLaunchPending := false
      failedCorePolls := core.failedCorePolls + 1 }
  if 3 ≤ core.failedCorePolls then showCoreControlFailure core else core

def startAgain (now : Nat) (networkChanged : Bool) (core : CoreMonitor) :
    CoreMonitor × Bool :=
  if core.automaticRestarts < 3 ∧ (retryDue now core || networkChanged) = true then
    startCore now false { core with automaticRestarts := core.automaticRestarts + 1 }
  else (core, false)

/-- The end of `refreshStatus`, and whether it begins a start operation. -/
def statusPolled (now : Nat) (poll : StatusPoll) (core : CoreMonitor) :
    CoreMonitor × Bool :=
  let networkChanged := decide (poll.signature ≠ core.networkSignature)
  let core := noteNetwork poll (noteFailure now poll core)
  if poll.failed = false then (answeredPoll now poll core, false)
  else if (poll.processAlive && !core.coreLaunchPending) = true then
    (unreachableCore now core, false)
  else if core.coreStartOperationPending = true then (core, false)
  else if (core.coreLaunchPending && runsWithin core.coreLaunchTimer 15000 now) = true then
    (core, false)
  else startAgain now networkChanged (stoppedCore core)

/-! ### What a worker starts -/

theorem contactCore_plain (answers : StartAnswers) :
    (contactCore answers).running = (contactCore answers).success ∧
      (contactCore answers).launched = false := by
  simp only [contactCore]
  split
  · split
    · exact ⟨rfl, rfl⟩
    · split
      · exact ⟨rfl, rfl⟩
      · exact ⟨rfl, rfl⟩
  · exact ⟨rfl, rfl⟩

/-- What `probeLock` leaves without a failure has been found free. -/
theorem probeLock_free {answers : StartAnswers} {result : StartResult}
    (unsuccessful : (probeLock answers result).success = false)
    (silent : (probeLock answers result).failure = []) :
    answers.lock = .acquired ∧ probeLock answers result = result := by
  simp only [probeLock] at unsuccessful silent ⊢
  split
  · rename_i asked
    simp only [if_pos asked] at unsuccessful silent
    cases lock : answers.lock with
    | acquired =>
        exact ⟨rfl, rfl⟩
    | held =>
        rw [lock] at silent
        exact absurd silent (show controlUnavailable ≠ [] by decide)
    | raised shown nonempty =>
        rw [lock] at silent
        exact absurd silent nonempty
  · rename_i unasked
    rw [if_neg unasked] at unsuccessful silent
    exact absurd ⟨unsuccessful, silent⟩ unasked

theorem probeLock_launched (answers : StartAnswers) (result : StartResult) :
    (probeLock answers result).launched = result.launched := by
  simp only [probeLock]
  split
  · split
    · rfl
    · rfl
    · rfl
  · rfl

/-- A worker starts a process only after it has found the process lock free, and
reports it as a success that does not run yet. -/
theorem startWorker_launched {answers : StartAnswers}
    (launched : (startWorker answers).launched = true) :
    answers.lock = .acquired ∧ (startWorker answers).success = true ∧
      (startWorker answers).running = false := by
  simp only [startWorker, launchProcess] at launched ⊢
  split at launched
  · rename_i asked
    obtain ⟨free, same⟩ := probeLock_free asked.1 asked.2
    rw [if_pos asked]
    refine ⟨free, launched, ?_⟩
    have unsuccessful := asked.1
    rw [same] at unsuccessful ⊢
    exact (contactCore_plain answers).1.trans unsuccessful
  · rw [probeLock_launched, (contactCore_plain answers).2] at launched
    cases launched

/-! ### What a poll changes -/

/-- The window behind a poll, before a start operation may begin. -/
structure Observed (now : Nat) (poll : StatusPoll) (before after : CoreMonitor) :
    Prop where
  probe : after.networkProbeTimer = before.networkProbeTimer
  pending : after.coreStartOperationPending = before.coreStartOperationPending
  waiting : before.restartWhenNetworkReturns = false →
    after.restartWhenNetworkReturns = false
  signature : after.networkSignature = poll.signature
  failures : after.failedCorePolls.toNat ≤
    if poll.failed = true then before.failedCorePolls.toNat + 1 else 0
  health : after.coreHealthyTimer =
    if poll.running = true then some (before.coreHealthyTimer.getD now) else none
  restarts : after.automaticRestarts = before.automaticRestarts ∨
    poll.running = true ∧ after.automaticRestarts = 0 ∧
      30000 ≤ milliseconds (before.coreHealthyTimer.getD now) now
  launch : poll.failed = true →
    after.coreLaunchPending = before.coreLaunchPending ∧
        after.coreLaunchTimer = before.coreLaunchTimer ∨
      (before.coreLaunchPending && runsWithin before.coreLaunchTimer 15000 now) = false

theorem counted_le (count : UInt32) : (count + 1).toNat ≤ count.toNat + 1 := by
  rw [UInt32.toNat_add]
  exact Nat.mod_le _ _

theorem running_answered {poll : StatusPoll} (running : poll.running = true) :
    poll.failed = false := by
  simp only [StatusPoll.running] at running
  split at running
  · rename_i payload status
    simp only [StatusPoll.failed, status]
  · cases running

theorem answeredPoll_observed {now : Nat} {poll : StatusPoll} {core : CoreMonitor}
    (answered : poll.failed = false) :
    Observed now poll core
      (answeredPoll now poll (noteNetwork poll (noteFailure now poll core))) := by
  have unchanged : noteFailure now poll core = core := by
    rw [noteFailure, if_neg]
    rw [answered]
    exact Bool.false_ne_true
  rw [unchanged]
  have count : ¬ poll.failed = true := by
    rw [answered]
    exact Bool.false_ne_true
  by_cases running : poll.running = true
  · by_cases long : 30000 ≤ milliseconds (core.coreHealthyTimer.getD now) now
    · constructor <;>
        simp [answeredPoll, noteHealth, noteNetwork, showCoreControlFailure, running,
          long, answered, apply_ite]
    · constructor <;>
        simp [answeredPoll, noteHealth, noteNetwork, showCoreControlFailure, running,
          long, answered, apply_ite]
  · constructor <;>
      simp [answeredPoll, noteHealth, noteNetwork, showCoreControlFailure, running,
        answered, apply_ite]

section Failing

variable {now : Nat} {poll : StatusPoll} {core : CoreMonitor}

theorem not_running_of_failed (failed : poll.failed = true) : poll.running = false := by
  cases running : poll.running with
  | false =>
      rfl
  | true =>
      rw [running_answered running] at failed
      cases failed

/-- A failed poll changes timers and the network, whatever else it finds. -/
theorem noted_observed (failed : poll.failed = true) :
    Observed now poll core (noteNetwork poll (noteFailure now poll core)) := by
  have running := not_running_of_failed failed
  have noted : noteFailure now poll core =
      { core with
        coreHealthyTimer := none
        coreFailureTimer := some (core.coreFailureTimer.getD now) } :=
    if_pos failed
  rw [noted]
  exact
    { probe := rfl
      pending := rfl
      waiting := fun waiting => waiting
      signature := rfl
      failures := by
        rw [if_pos failed]
        exact Nat.le_succ _
      health := by
        rw [running]
        rfl
      restarts := Or.inl rfl
      launch := fun _ => Or.inl ⟨rfl, rfl⟩ }

theorem unreachable_observed (failed : poll.failed = true) :
    Observed now poll core
      (unreachableCore now (noteNetwork poll (noteFailure now poll core))) := by
  have noted := @noted_observed now poll core failed
  have count := counted_le core.failedCorePolls
  simp only [noteFailure, if_pos failed, noteNetwork] at noted ⊢
  simp only [unreachableCore]
  split
  · exact
      { noted with
        failures := by
          rw [if_pos failed]
          exact count }
  · exact
      { noted with
        failures := by
          rw [if_pos failed]
          exact count }

theorem stopped_observed (failed : poll.failed = true)
    (expired : (core.coreLaunchPending && runsWithin core.coreLaunchTimer 15000 now) =
      false) :
    Observed now poll core
      (stoppedCore (noteNetwork poll (noteFailure now poll core))) := by
  have noted := @noted_observed now poll core failed
  have count := counted_le core.failedCorePolls
  simp only [noteFailure, if_pos failed, noteNetwork] at noted ⊢
  simp only [stoppedCore]
  split
  · exact
      { noted with
        failures := by
          rw [if_pos failed]
          exact count
        launch := fun _ => Or.inr expired }
  · exact
      { noted with
        failures := by
          rw [if_pos failed]
          exact count
        launch := fun _ => Or.inr expired }

structure Asks (now : Nat) (poll : StatusPoll) (core after : CoreMonitor) : Prop where
  observed : Observed now poll core after
  failed : poll.failed = true
  idle : core.coreStartOperationPending = false
  settled : after.coreLaunchPending = false
  allowed : after.automaticRestarts < 3
  due : retryDue now after = true ∨ poll.signature ≠ core.networkSignature

theorem statusPolled_cases (now : Nat) (poll : StatusPoll) (core : CoreMonitor) :
    (∃ after, Observed now poll core after ∧
      statusPolled now poll core = (after, false)) ∨
    ∃ after, Asks now poll core after ∧
      statusPolled now poll core =
        startCore now false { after with automaticRestarts := after.automaticRestarts + 1 } := by
  cases failed : poll.failed with
  | false =>
      refine Or.inl ⟨_, answeredPoll_observed failed, ?_⟩
      simp only [statusPolled, failed, if_true]
  | true =>
      have noted := @noted_observed now poll core failed
      have samePending : (noteNetwork poll (noteFailure now poll core)).coreLaunchPending =
          core.coreLaunchPending := by
        simp only [noteFailure, if_pos failed, noteNetwork]
      have sameTimer : (noteNetwork poll (noteFailure now poll core)).coreLaunchTimer =
          core.coreLaunchTimer := by
        simp only [noteFailure, if_pos failed, noteNetwork]
      simp only [statusPolled, failed, Bool.true_eq_false, if_false]
      split
      · exact Or.inl ⟨_, unreachable_observed failed, rfl⟩
      · split
        · exact Or.inl ⟨_, noted, rfl⟩
        · rename_i idle
          split
          · exact Or.inl ⟨_, noted, rfl⟩
          · rename_i expired
            rw [samePending, sameTimer, Bool.not_eq_true] at expired
            have stopped := stopped_observed failed expired
            simp only [startAgain]
            split
            · rename_i asked
              refine Or.inr ⟨_, ?_, rfl⟩
              exact
                { observed := stopped
                  failed := failed
                  idle := by
                    rw [← noted.pending]
                    exact Bool.eq_false_iff.mpr idle
                  settled := by
                    simp only [stoppedCore]
                    split
                    · rfl
                    · rfl
                  allowed := asked.1
                  due := by
                    rcases Bool.or_eq_true_iff.mp asked.2 with due | changed
                    · exact Or.inl due
                    · exact Or.inr (of_decide_eq_true changed) }
            · exact Or.inl ⟨_, stopped, rfl⟩

theorem startCore_settled {now : Nat} {core : CoreMonitor}
    (settled : core.coreLaunchPending = false)
    (waiting : core.restartWhenNetworkReturns = false)
    (idle : core.coreStartOperationPending = false) :
    startCore now false core =
      ({ core with
          coreStartOperationPending := true
          networkProbeTimer := some now }, true) := by
  simp only [startCore, settled, waiting, idle, Bool.false_eq_true, Bool.false_and,
    if_false]

end Failing

end CoreWindow

end NativeDNS
