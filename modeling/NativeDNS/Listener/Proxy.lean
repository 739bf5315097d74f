/-
The life of the Linux local proxy.

`start` and `stop` hold the `lifecycle` mutex, and so does `status`; the four
loops run beside them.  A call is cut where another thread can see the
difference.  The handlers and their clients neither read nor write what is kept
here; their executors only may fail to start.

`lost` records that a loop has ended on a failure since the last stop; the code
does not keep it.
-/
import NativeDNS.Listener.Loop

namespace NativeDNS

open ByteText (text)

inductive LoopThread where
  | none
  | live (point : LoopPoint)
  /-- Has returned, and is not joined yet. -/
  | ended
  deriving DecidableEq

inductive StartPoint where
  | entered
  | resume
  /-- The attempts left, and the error of the last one. -/
  | sockets (left last : Nat)
  | bound (last : Nat)
  | udpHandlers
  | tcpHandlers
  | setRunning
  | setState
  | spawn (left : List Listener)
  deriving DecidableEq

/-- The common part of `stop` and of the rollback of `start`. -/
inductive Teardown where
  | clearRunning
  | join (left : List Listener)
  | stopHandlers
  | closeListeners
  | finish
  deriving DecidableEq

/-- What the holder of the mutex is doing. -/
inductive ProxyCall where
  | free
  | starting (point : StartPoint)
  | rollback (thrown : Thrown) (point : Teardown)
  | stopEntered
  /-- `state` is `stopping`, and the router is to be cancelled. -/
  | cancelling
  | stopping (point : Teardown)
  deriving DecidableEq

structure Listening where
  state : State := .stopped
  boundPort : UInt16 := 0
  running : Bool := false
  opened : Listener → Bool := fun _ => false
  thread : Listener → LoopThread := fun _ => .none
  lost : Bool := false

structure Proxy extends Listening where
  requestedPort : UInt16 := 0
  call : ProxyCall := .free
  thrown : Option Thrown := none

/-- What the system answers to the next part of a call. -/
inductive Outcome where
  | done
  | raised (thrown : Thrown)
  | bound (random : UInt32)
  | refused (errno : Nat)
  /-- The sockets are not all created or not configured. -/
  | broken (opened : Listener → Bool) (error : Error)

inductive ProxyAction where
  | start
  | stop
  | proceed (outcome : Outcome)
  | loop (listener : Listener) (event : LoopEvent Unit)

namespace Listening

def status (listening : Listening) : InterceptionStatus :=
  { state := listening.state
    port := listening.boundPort
    udp := true
    tcp := true }

/-! ### The loops -/

variable {work : Type}

def moveLoop (listening : Listening) (listener : Listener) (move : LoopMove LoopPoint work) :
    Listening :=
  let moved :=
    { listening with
      thread := Function.update listening.thread listener
        (match move.next with
        | some point => .live point
        | none => .ended) }
  match move.effect with
  | .fail _ =>
      { moved with
        state := .error
        lost := true }
  | .none | .submit _ | .report _ => moved

def loopMove (strerror : Nat → Bytes) (listening : Listening) (listener : Listener)
    (event : LoopEvent work) : Option (LoopMove LoopPoint work) :=
  match listening.thread listener with
  | .live point => loopStep strerror listener.stream listening.running point event
  | .none | .ended => none

/-! ### The common end of `stop` and of the rollback of `start` -/

/-- The next part, and what is left; a `join` waits for the end of the thread. -/
def tearDown (listening : Listening) : Teardown → Option (Listening × Option Teardown)
  | .clearRunning => some ({ listening with running := false }, some (.join Listener.all))
  | .join (listener :: left) =>
      match listening.thread listener with
      | .live _ => none
      | .none => some (listening, some (.join left))
      | .ended =>
          some
            ({ listening with
                thread := Function.update listening.thread listener .none },
              some (.join left))
  | .join [] => some (listening, some .stopHandlers)
  | .stopHandlers => some (listening, some .closeListeners)
  | .closeListeners => some ({ listening with opened := fun _ => false }, some .finish)
  | .finish => some ({ listening with boundPort := 0 }, none)

end Listening

/-! ### The calls -/

namespace Proxy

def goes (proxy : Proxy) (call : ProxyCall) : Proxy :=
  { proxy with call := call }

def leave (proxy : Proxy) (thrown : Option Thrown) : Proxy :=
  { proxy with
    call := .free
    thrown := thrown }

def rollBack (proxy : Proxy) (thrown : Thrown) : Proxy :=
  proxy.goes (.rollback thrown .clearRunning)

def chosenPort (proxy : Proxy) (random : UInt32) : UInt16 :=
  if proxy.requestedPort ≠ 0 then proxy.requestedPort
  else UInt16.ofNat (20000 + random.toNat % 28000)

def attempts (proxy : Proxy) : Nat :=
  if proxy.requestedPort ≠ 0 then 1 else 128

def notStopped : Error :=
  .of "LIFECYCLE" "Proxy is not stopped"

def cannotBind (reason : Bytes) : Error :=
  { code := "PROXY_BIND"
    message := text "Cannot bind IPv4/IPv6 UDP/TCP loopback listeners: " ++ reason }

/-- The next part of `start`. -/
def startStep (strerror : Nat → Bytes) (proxy : Proxy) :
    StartPoint → Outcome → Option Proxy
  | .entered, .done =>
      if proxy.state = .stopped then
        some { proxy with
          state := .starting
          call := .starting .resume }
      else some (proxy.leave (some (.error notStopped)))
  | .resume, .done => some (proxy.goes (.starting (.sockets proxy.attempts 0)))
  | .sockets (_ + 1) last, .bound random =>
      some { proxy with
        opened := fun _ => true
        boundPort := proxy.chosenPort random
        call := .starting (.bound last) }
  | .sockets (left + 1) _, .refused errno =>
      some { proxy with
        opened := fun _ => false
        call := .starting (.sockets (if proxy.requestedPort ≠ 0 then 0 else left) errno) }
  | .sockets (_ + 1) _, .broken opened error =>
      some { proxy with
        opened := opened
        call := .rollback (.error error) .clearRunning }
  | .sockets 0 last, .done => some (proxy.goes (.starting (.bound last)))
  | .bound last, .done =>
      if proxy.boundPort = 0 then
        some (proxy.rollBack (.error (cannotBind (strerror last))))
      else some (proxy.goes (.starting .udpHandlers))
  | .udpHandlers, .done => some (proxy.goes (.starting .tcpHandlers))
  | .tcpHandlers, .done => some (proxy.goes (.starting .setRunning))
  | .setRunning, .done =>
      some { proxy with
        running := true
        call := .starting .setState }
  | .setState, .done =>
      some { proxy with
        state := .running
        call := .starting (.spawn Listener.all) }
  | .spawn (listener :: left), .done =>
      some { proxy with
        thread := Function.update proxy.thread listener (.live .head)
        call := .starting (.spawn left) }
  | .spawn [], .done => some (proxy.leave none)
  | .resume, .raised thrown
  | .udpHandlers, .raised thrown
  | .tcpHandlers, .raised thrown
  | .spawn (_ :: _), .raised thrown => some (proxy.rollBack thrown)
  | _, _ => none

/-- The next part of a rollback, which ends with `throw`. -/
def rollbackStep (proxy : Proxy) (thrown : Thrown) (point : Teardown) : Option Proxy :=
  (proxy.tearDown point).map fun
    | (listening, some next) =>
        { proxy with
          toListening := listening
          call := .rollback thrown next }
    | (listening, none) =>
        { proxy with
          toListening := { listening with state := .error }
          call := .free
          thrown := some thrown }

/-- The next part of `stop` after it has cancelled the router. -/
def stopStep (proxy : Proxy) (point : Teardown) : Option Proxy :=
  (proxy.tearDown point).map fun
    | (listening, some next) =>
        { proxy with
          toListening := listening
          call := .stopping next }
    | (listening, none) =>
        { proxy with
          toListening :=
            { listening with
              state := .stopped
              lost := false }
          call := .free
          thrown := none }

def proceed (strerror : Nat → Bytes) (proxy : Proxy) (outcome : Outcome) :
    Option Proxy :=
  match proxy.call, outcome with
  | .free, _ => none
  | .starting point, outcome => proxy.startStep strerror point outcome
  | .rollback thrown point, .done => proxy.rollbackStep thrown point
  | .stopEntered, .done =>
      if proxy.state = .stopped then some (proxy.leave none)
      else
        some { proxy with
          state := .stopping
          call := .cancelling }
  | .cancelling, .done => some (proxy.goes (.stopping .clearRunning))
  | .stopping point, .done => proxy.stopStep point
  | _, _ => none

end Proxy

def performProxy (strerror : Nat → Bytes) (proxy : Proxy) :
    ProxyAction → Option Proxy
  | .start =>
      if proxy.call = .free then some (proxy.goes (.starting .entered)) else none
  | .stop => if proxy.call = .free then some (proxy.goes .stopEntered) else none
  | .proceed outcome => proxy.proceed strerror outcome
  | .loop listener event =>
      (proxy.loopMove strerror listener event).map fun move =>
        { proxy with toListening := proxy.moveLoop listener move }

end NativeDNS
