/-
The listener loops of Windows: of the local proxy, and of the proxy of reflected
connections.

The loops of the local proxy wait for the stop event or for their socket, and
end by an exception on any error but `WSAEWOULDBLOCK`.  The accept loops of the
proxy of reflected connections log an error and go on.
-/
import NativeDNS.Listener.Events

namespace NativeDNS

open ByteText (text decimal)

def wsaeintr : Nat := 10004

def wsaewouldblock : Nat := 10035

def wsaeconnaborted : Nat := 10053

def wsaeconnreset : Nat := 10054

variable {work : Type}

/-! ### The local proxy -/

inductive WindowsPoint where
  /-- In `wait`. -/
  | waiting
  | enumerating
  /-- In `recvfrom` or `accept`. -/
  | receiving
  | throwing (message : Bytes)
  deriving DecidableEq

def enumerationFailed (stream : Bool) : Bytes :=
  if stream then text "TCP event enumeration failed"
  else text "UDP event enumeration failed"

def receiveFailed (stream : Bool) : Bytes :=
  if stream then text "Accept failed" else text "UDP receive failed"

/-- After `WSAEnumNetworkEvents`; only `tcp_loop` looks at the error. -/
def afterEvents (stream : Bool) : Option NetworkEvents → WindowsPoint
  | none => .throwing (enumerationFailed stream)
  | some events =>
      if events.wanted = false then .waiting
      else if stream = true ∧ events.error ≠ 0 then
        .throwing (text "TCP accept event failed: " ++ decimal events.error)
      else .receiving

/-- One step of `udp_loop`, or of `tcp_loop` of a stream listener.  The stop
event is set when `running` is not; `wait` finds it first. -/
def windowsLoopStep (stream running : Bool) :
    WindowsPoint → LoopEvent work → Option (LoopMove WindowsPoint work)
  | .waiting, .waited failed =>
      some
        (if running = false then .leave
        else if failed then .goTo (.throwing (text "Socket event wait failed"))
        else .goTo .enumerating)
  | .enumerating, .enumerated events => some (.goTo (afterEvents stream events))
  | .receiving, .received (.ok item) =>
      -- `tcp_loop` accepts until no connection is left.
      some (.submit (if stream then .receiving else .waiting) item)
  | .receiving, .received (.error code) =>
      some
        (if code = wsaewouldblock then .goTo .waiting
        else .goTo (.throwing (receiveFailed stream)))
  | .throwing message, .step => some (.fail message)
  | _, _ => none

/-! ### The proxy of reflected connections -/

inductive AcceptPoint where
  /-- The `while (running)`. -/
  | head
  | accepting
  | refused (code : Nat)
  deriving DecidableEq

def acceptLoopStep (running : Bool) :
    AcceptPoint → LoopEvent work → Option (LoopMove AcceptPoint work)
  | .head, .step => some (if running then .goTo .accepting else .leave)
  | .accepting, .received (.ok item) => some (.submit .head item)
  | .accepting, .received (.error code) => some (.goTo (.refused code))
  | .refused code, .step =>
      some
        (if running then
          { next := some .head
            effect := .report (text "TCP proxy accept failed: " ++ decimal code) }
        else .leave)
  | _, _ => none

end NativeDNS
