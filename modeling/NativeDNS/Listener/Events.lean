/-
States of the interception backends, and what a listener loop meets and does.

A loop is cut at its reads of the `running` flag and at its system calls, so
that other threads come between any two of them.  The system answers the calls
as it likes.
-/
import NativeDNS.Model

namespace NativeDNS

inductive State where
  | stopped
  | starting
  | running
  | stopping
  | error
  deriving DecidableEq, Repr

structure InterceptionStatus where
  state : State := .stopped
  port : UInt16 := 0
  transparent : Bool := false
  udp : Bool := false
  tcp : Bool := false
  errorCode : String := ""
  errorMessage : Bytes := []
  deriving DecidableEq

inductive PollResult where
  /-- `POLLIN`, and one of `POLLERR`, `POLLHUP` and `POLLNVAL`. -/
  | ready (readable broken : Bool)
  | timeout
  | failed (errno : Nat)
  deriving DecidableEq

/-- The network events of a socket: the one the loop looks for, and its error. -/
structure NetworkEvents where
  wanted : Bool
  error : Nat
  deriving DecidableEq

/-- What lets a loop continue; `work` is a datagram or a connection. -/
inductive LoopEvent (work : Type) where
  | step
  | polled (result : PollResult)
  /-- The end of `WaitForMultipleObjects`. -/
  | waited (failed : Bool)
  /-- The result of `WSAEnumNetworkEvents`, `none` if it fails. -/
  | enumerated (events : Option NetworkEvents)
  /-- The result of `recvfrom` or `accept`. -/
  | received (result : Except Nat work)

inductive LoopEffect (work : Type) where
  | none
  | submit (item : work)
  | report (message : Bytes)
  /-- Log the message and set `state` to `error`; the loop ends. -/
  | fail (message : Bytes)

/-- The next point, `none` at the end of the loop. -/
structure LoopMove (point work : Type) where
  next : Option point
  effect : LoopEffect work

namespace LoopMove

variable {point work : Type}

def goTo (next : point) : LoopMove point work :=
  { next := some next
    effect := .none }

/-- `break`. -/
def leave : LoopMove point work :=
  { next := none
    effect := .none }

def submit (next : point) (item : work) : LoopMove point work :=
  { next := some next
    effect := .submit item }

def fail (message : Bytes) : LoopMove point work :=
  { next := none
    effect := .fail message }

end LoopMove

end NativeDNS
