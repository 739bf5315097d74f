/-
A DNS service and its clients.

Clients send datagrams, connect, abort connections and go away in any order.
The system gives a loop only the results that clients can cause.  A handler
reads and writes its own client, so that a run needs no more of it than how it
ends: what it logs, whether its reply met a closed port, and what it throws.
-/
import NativeDNS.Listener.Events
import NativeDNS.Listener.Executor
import NativeDNS.Library.Transition

namespace NativeDNS

inductive Work (ι : Type) where
  | datagram (via : ι) (packet : Bytes) (client : Nat)
  | connection (client : Nat)
  deriving DecidableEq

structure ClientSocket where
  datagrams : List (Bytes × Nat) := []
  /-- The connections not accepted yet, and whether they are aborted. -/
  connections : List (Nat × Bool) := []
  /-- The replies that have met a closed port. -/
  resets : Nat := 0

/-- The results clients can cause. -/
structure SocketCodes where
  interrupted : Nat
  wouldBlock : Nat
  /-- Of `accept`. -/
  aborted : Nat
  /-- Of `recvfrom`. -/
  reset : Option Nat

namespace ClientSocket

def pending (socket : ClientSocket) (stream : Bool) : Bool :=
  if stream then !socket.connections.isEmpty else !socket.datagrams.isEmpty

variable {ι : Type}

/-- Take the next datagram or connection; an aborted one may be accepted. -/
def receive (socket : ClientSocket) (stream : Bool) : Work ι → Option ClientSocket
  | .datagram _ packet client =>
      match socket.datagrams with
      | next :: rest =>
          if stream = false ∧ next = (packet, client) then
            some { socket with datagrams := rest }
          else none
      | [] => none
  | .connection client =>
      match socket.connections with
      | next :: rest =>
          if stream = true ∧ next.1 = client then
            some { socket with connections := rest }
          else none
      | [] => none

def dropAborted (socket : ClientSocket) : Option ClientSocket :=
  match socket.connections with
  | (_, true) :: rest => some { socket with connections := rest }
  | _ => none

def dropReset (socket : ClientSocket) : Option ClientSocket :=
  match socket.resets with
  | resets + 1 => some { socket with resets := resets }
  | 0 => none

/-- A failed `recvfrom` or `accept`. -/
def refuse (codes : SocketCodes) (stream : Bool) (socket : ClientSocket) (code : Nat) :
    Option ClientSocket :=
  if code = codes.interrupted ∨ code = codes.wouldBlock then some socket
  else if stream = true ∧ code = codes.aborted then socket.dropAborted
  else if stream = false ∧ codes.reset = some code then socket.dropReset
  else none

/-- The socket after an event that clients can cause. -/
def answer (codes : SocketCodes) (stream : Bool) (socket : ClientSocket) :
    LoopEvent (Work ι) → Option ClientSocket
  | .step => some socket
  | .polled (.ready readable broken) =>
      if readable = true ∧ broken = false ∧ socket.pending stream = true then some socket
      else none
  | .polled .timeout => some socket
  | .polled (.failed code) => if code = codes.interrupted then some socket else none
  | .waited failed => if failed then none else some socket
  | .enumerated none => none
  | .enumerated (some events) => if events.error = 0 then some socket else none
  | .received (.ok item) => socket.receive stream item
  | .received (.error code) => socket.refuse codes stream code

end ClientSocket

/-! ### A service -/

structure ListenerProgram (ι point : Type) where
  stream : ι → Bool
  /-- One step of a loop, given `stream` and `running`. -/
  step : Bool → Bool → point → LoopEvent (Work ι) → Option (LoopMove point (Work ι))
  codes : SocketCodes
  failStops : Bool
  logCode : String
  /-- What it logs when the handlers can take no more. -/
  busy : Bool → String × Bytes

structure ServiceWorld (ι point : Type) where
  state : State := .running
  running : Bool := true
  stopCalled : Bool := false
  /-- Where the loops stand, `none` when they have ended. -/
  thread : ι → Option point
  udpHandlers : Executor (Work ι)
  tcpHandlers : Executor (Work ι)
  /-- The accepted connections that are not closed yet. -/
  clients : List Nat := []
  socket : ι → ClientSocket := fun _ => {}
  log : List (String × Bytes) := []

inductive ClientAction (ι : Type) where
  | datagram (listener : ι) (packet : Bytes) (client : Nat)
  | connect (listener : ι) (client : Nat)
  /-- Abort a connection that is not accepted yet. -/
  | abort (listener : ι) (index : Nat)

structure HandlerEnd where
  log : List (String × Bytes) := []
  replyLost : Bool := false
  thrown : Option Thrown := none

inductive ServiceAction (ι : Type) where
  | client (action : ClientAction ι)
  | loop (listener : ι) (event : LoopEvent (Work ι))
  /-- A thread of the handlers of a transport takes a job. -/
  | take (stream : Bool) (thread : Nat)
  | finish (stream : Bool) (thread : Nat) (ending : HandlerEnd)
  | stop

namespace ServiceWorld

variable {ι point : Type} [DecidableEq ι]

def setSocket (world : ServiceWorld ι point) (listener : ι) (socket : ClientSocket) :
    ServiceWorld ι point :=
  { world with socket := Function.update world.socket listener socket }

def clientAct (world : ServiceWorld ι point) : ClientAction ι → ServiceWorld ι point
  | .datagram listener packet client =>
      let socket := world.socket listener
      world.setSocket listener
        { socket with datagrams := socket.datagrams ++ [(packet, client)] }
  | .connect listener client =>
      let socket := world.socket listener
      world.setSocket listener
        { socket with connections := socket.connections ++ [(client, false)] }
  | .abort listener index =>
      let socket := world.socket listener
      world.setSocket listener
        { socket with
          connections := socket.connections.modify index fun (client, _) => (client, true) }

def handlers (world : ServiceWorld ι point) (stream : Bool) : Executor (Work ι) :=
  if stream then world.tcpHandlers else world.udpHandlers

def setHandlers (world : ServiceWorld ι point) (stream : Bool)
    (executor : Executor (Work ι)) : ServiceWorld ι point :=
  if stream then { world with tcpHandlers := executor }
  else { world with udpHandlers := executor }

/-- Offer the work to the handlers; a refused connection is closed. -/
def submit (program : ListenerProgram ι point) (world : ServiceWorld ι point)
    (stream : Bool) (item : Work ι) : ServiceWorld ι point :=
  match (world.handlers stream).submit item with
  | some executor =>
      let taken := world.setHandlers stream executor
      match item with
      | .connection client => { taken with clients := taken.clients ++ [client] }
      | .datagram _ _ _ => taken
  | none => { world with log := world.log ++ [program.busy stream] }

def applyEffect (program : ListenerProgram ι point) (world : ServiceWorld ι point)
    (stream : Bool) : LoopEffect (Work ι) → ServiceWorld ι point
  | .none => world
  | .submit item => world.submit program stream item
  | .report message => { world with log := world.log ++ [(program.logCode, message)] }
  | .fail message =>
      { world with
        log := world.log ++ [(program.logCode, message)]
        state := .error
        running := if program.failStops then false else world.running }

def runLoop (program : ListenerProgram ι point) (world : ServiceWorld ι point)
    (listener : ι) (event : LoopEvent (Work ι)) : Option (ServiceWorld ι point) := do
  let standing ← world.thread listener
  let stream := program.stream listener
  let socket ← (world.socket listener).answer program.codes stream event
  let move ← program.step stream world.running standing event
  let moved :=
    { world.setSocket listener socket with
      thread := Function.update world.thread listener move.next }
  pure (moved.applyEffect program stream move.effect)

def finishHandler (world : ServiceWorld ι point) (stream : Bool) (thread : Nat)
    (ending : HandlerEnd) : Option (ServiceWorld ι point) :=
  ((world.handlers stream).finish thread).map fun (item, executor) =>
    let ended :=
      { world.setHandlers stream executor with log := world.log ++ ending.log }
    match item with
    | .connection client => { ended with clients := ended.clients.erase client }
    | .datagram via _ _ =>
        if ending.replyLost then
          let socket := ended.socket via
          ended.setSocket via { socket with resets := socket.resets + 1 }
        else ended

end ServiceWorld

variable {ι point : Type} [DecidableEq ι]

def performService (program : ListenerProgram ι point) (world : ServiceWorld ι point) :
    ServiceAction ι → Option (ServiceWorld ι point)
  | .client action => some (world.clientAct action)
  | .loop listener event => world.runLoop program listener event
  | .take stream thread =>
      ((world.handlers stream).take thread).map (world.setHandlers stream)
  | .finish stream thread ending => world.finishHandler stream thread ending
  | .stop =>
      some { world with
        state := .stopping
        running := false
        stopCalled := true }

end NativeDNS
