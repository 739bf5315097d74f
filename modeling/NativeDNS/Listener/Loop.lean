/-
The listener loops of the Linux local proxy.

The loops of the two transports differ in the call and the texts.
-/
import NativeDNS.Listener.Events

namespace NativeDNS

open ByteText (text)

/-- The listening sockets of the proxy, in the order of their threads. -/
inductive Listener where
  | udp4
  | tcp4
  | udp6
  | tcp6
  deriving DecidableEq, Repr

def Listener.all : List Listener :=
  [.udp4, .tcp4, .udp6, .tcp6]

theorem Listener.mem_all (listener : Listener) : listener ∈ Listener.all := by
  cases listener <;> decide

def Listener.stream : Listener → Bool
  | .udp4 | .udp6 => false
  | .tcp4 | .tcp6 => true

/-! ### Error numbers of Linux -/

def eintr : Nat := 4

/-- Also `EWOULDBLOCK`. -/
def eagain : Nat := 11

def econnaborted : Nat := 103

/-! ### A loop -/

inductive LoopPoint where
  /-- The `while (running)` of the loop. -/
  | head
  /-- The `while (running)` of `wait_readable`. -/
  | waiting
  | polling
  /-- `wait_readable` has returned false. -/
  | unreadable
  /-- In `recvfrom` or `accept`. -/
  | receiving
  | refused (errno : Nat)
  /-- The loop has found `running` set and reports a failure. -/
  | failing (message : Bytes)
  deriving DecidableEq

variable {work : Type}

def pollFailed (stream : Bool) : Bytes :=
  if stream then text "Local TCP listener poll failed"
  else text "Local UDP listener poll failed"

/-- `wait_readable` after its `poll`. -/
def afterPoll : PollResult → LoopPoint
  | .ready readable broken =>
      if readable then .receiving
      else if broken then .unreadable
      else .waiting
  | .timeout => .waiting
  | .failed errno => if errno = eintr then .waiting else .unreadable

def afterRefused (strerror : Nat → Bytes) (errno : Nat) : LoopPoint :=
  if errno = eintr ∨ errno = eagain then .head else .failing (strerror errno)

/-- One step of `udp_loop`, or of `tcp_loop` of a stream listener. -/
def loopStep (strerror : Nat → Bytes) (stream running : Bool) :
    LoopPoint → LoopEvent work → Option (LoopMove LoopPoint work)
  | .head, .step => some (if running then .goTo .waiting else .leave)
  | .waiting, .step => some (.goTo (if running then .polling else .unreadable))
  | .polling, .polled result => some (.goTo (afterPoll result))
  | .unreadable, .step =>
      some (if running then .goTo (.failing (pollFailed stream)) else .leave)
  | .receiving, .received (.ok item) => some (.submit .head item)
  | .receiving, .received (.error errno) => some (.goTo (.refused errno))
  | .refused errno, .step =>
      some (if running then .goTo (afterRefused strerror errno) else .leave)
  | .failing message, .step => some (.fail message)
  | _, _ => none

variable {strerror : Nat → Bytes} {stream running : Bool} {point : LoopPoint}
  {event : LoopEvent work} {move : LoopMove LoopPoint work}

/-- A loop ends on a failure, or because `running` is not set. -/
theorem loopStep_ends
    (moved : loopStep strerror stream running point event = some move)
    (ends : move.next = none) :
    (∃ message, move.effect = .fail message) ∨ running = false := by
  unfold loopStep at moved
  split at moved
  case h_8 message =>
    cases moved
    exact Or.inl ⟨message, rfl⟩
  all_goals
    cases running with
    | false =>
        exact Or.inr rfl
    | true =>
        cases moved
        try cases ends

/-- Only a loop that has found `running` set fails, and then it ends. -/
theorem loopStep_fail {message : Bytes}
    (moved : loopStep strerror stream running point event = some move)
    (failed : move.effect = .fail message) :
    point = .failing message ∧ move.next = none := by
  unfold loopStep at moved
  split at moved
  case h_8 =>
    cases moved
    cases failed
    exact ⟨rfl, rfl⟩
  all_goals
    cases running <;> cases moved <;> cases failed

end NativeDNS
