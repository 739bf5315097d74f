/-
Any number of `PlainTransport::exchange` calls on one transport.

The atomic steps are the locked sections of the pool, the connect, the send and
each `recv` of an exchange, and its last checks, which hold no lease.  Between
any two of them the upstream may append any bytes to what a connection has not
read, and the clock may advance.  A connect, send or `recv` fails with whatever
error the environment chooses: a timeout, a cancellation, a closed connection.

`sent` records which exchange wrote its request to which connection, in order;
the code does not keep it.
-/
import NativeDNS.Transport.Pool
import NativeDNS.Router.Group
import NativeDNS.Wire.Response
import NativeDNS.Library.Transition

namespace NativeDNS

open CheckedResult

inductive ExchangePhase where
  | datagram
  | pooling
  | waiting
  | acquired (entry : Nat)
  | leased (entry attempt : Nat)
  | sending (entry attempt connection : Nat)
  | receiving (entry attempt connection : Nat) (received : Packet)
  /-- `pooled_tcp` has returned and its lease is gone. -/
  | replied (reply : Packet)
  | finished (result : Checked Packet)
  deriving DecidableEq

structure Exchange where
  request : Packet
  server : Server
  question : Question
  deadline : Nat
  phase : ExchangePhase
  deriving DecidableEq

structure TransportWorld where
  clock : Nat := 0
  pool : Pool := {}
  /-- What each connection has delivered and nobody has read. -/
  streams : List Packet := []
  exchanges : List Exchange := []
  sent : List (Nat × Nat) := []

/-! ### The code of the sections -/

def admitExchange (server : Server) (request : Packet) : Checked Question := do
  rejectIf (server.enabled = false)
    (.of "SERVER_DISABLED" "DNS server is disabled")
  rejectIf (server.timeoutMs = 0 ∨ 120000 < server.timeoutMs)
    (.of "CONFIG" "Invalid request timeout")
  let question ← parseQuestion request
  rejectIf (question.flags &&& 0x8000 ≠ 0)
    (.of "DNS_MALFORMED" "Expected query, not response")
  pure question

def replyTruncated (platform : Platform) (reply : Packet) (question : Question) :
    Checked Bool := do
  let answer ← parseResponse platform reply question
  pure answer.truncated

def settleDatagram (platform : Platform) (reply : Packet) (question : Question) :
    ExchangePhase :=
  match replyTruncated platform reply question with
  | .error error => .finished (.error error)
  | .ok true => .pooling
  | .ok false => .finished (.ok reply)

def settleReply (platform : Platform) (reply : Packet) (question : Question) :
    ExchangePhase :=
  match replyTruncated platform reply question with
  | .error error => .finished (.error error)
  | .ok true =>
      .finished (.error (.of "DNS_TRUNCATED" "Truncated response over TCP"))
  | .ok false => .finished (.ok reply)

def poolBusy : Error :=
  .of "TIMEOUT" "DNS TCP connection pool is busy"

def shutdownCancelled : Error :=
  .of "CANCELLED" "DNS operation cancelled during shutdown"

def shortFrame : Error :=
  .of "DNS_MALFORMED" "Invalid TCP DNS frame length"

def idleLimit : Nat := 30 * nanosPerSecond

def retryable (error : Error) : Bool :=
  error.code == "TIMEOUT" || error.code == "SOCKET" || error.code == "DNS_EOF"

/-- How many bytes the next `recv` may return. -/
def wantedBytes (received : Packet) : Nat :=
  if received.length < 2 then 2 - received.length
  else 2 + wordAt received 0 - received.length

namespace TransportWorld

def setPhase (world : TransportWorld) (index : Nat) (phase : ExchangePhase) :
    TransportWorld :=
  { world with
    exchanges := world.exchanges.modify index fun exchange =>
      { exchange with phase := phase } }

def setEntry (world : TransportWorld) (id : Nat) (entry : PoolEntry) :
    TransportWorld :=
  { world with pool := world.pool.setEntry id entry }

def acquire (world : TransportWorld) (index : Nat) (pool : Pool)
    (server : Server) : TransportWorld :=
  match acquireEntry pool (poolKey server) server.route.generation with
  | (pool, .leased id) => { world with pool := pool }.setPhase index (.acquired id)
  | (pool, .full) => { world with pool := pool }.setPhase index .waiting
  | (pool, .refused error) =>
      { world with pool := pool }.setPhase index (.finished (.error error))

def refresh (world : TransportWorld) (index id : Nat) : TransportWorld :=
  let entry := world.pool.entry id
  if idleLimit < world.clock - entry.lastUsed then
    (world.setEntry id { entry with connection := none }).setPhase index
      (.leased id 0)
  else world.setPhase index (.leased id 0)

def startSending (world : TransportWorld) (index id attempt : Nat) :
    TransportWorld :=
  let entry := world.pool.entry id
  match entry.connection with
  | some connection =>
      { world with sent := world.sent ++ [(index, connection)] }.setPhase index
        (.sending id attempt connection)
  | none =>
      let connection := world.streams.length
      ({ world with
          streams := world.streams ++ [[]]
          sent := world.sent ++ [(index, connection)] }.setEntry id
        { entry with connection := some connection }).setPhase index
          (.sending id attempt connection)

/-- An attempt that raised: the connection is discarded, and the lease ends
unless a second attempt follows. -/
def failAttempt (world : TransportWorld) (index id attempt : Nat)
    (error : Error) : TransportWorld :=
  let entry := world.pool.entry id
  if attempt ≠ 0 ∨ retryable error = false then
    (world.setEntry id
      { entry with
        connection := none
        busy := false }).setPhase index (.finished (.error error))
  else
    (world.setEntry id { entry with connection := none }).setPhase index
      (.leased id (attempt + 1))

/-- After bytes of a frame have been received: the lease of a complete frame
ends here. -/
def takeBytes (world : TransportWorld) (index id attempt connection : Nat)
    (received : Packet) : TransportWorld :=
  if received.length < 2 then
    world.setPhase index (.receiving id attempt connection received)
  else if wordAt received 0 < 12 then
    world.failAttempt index id attempt shortFrame
  else if received.length < 2 + wordAt received 0 then
    world.setPhase index (.receiving id attempt connection received)
  else
    (world.setEntry id
      { world.pool.entry id with
        busy := false
        lastUsed := world.clock }).setPhase index (.replied (received.drop 2))

end TransportWorld

/-! ### Steps -/

inductive ExchangeMove where
  | datagram (reply : Checked Packet)
  | enter
  | retry
  | expire
  | cancel
  | refresh
  | connect
  | transmit
  | receive (count : Nat)
  | fail (error : Error)
  | validate
  deriving DecidableEq

inductive TransportAction where
  | tick (now : Nat)
  | deliver (connection : Nat) (bytes : Packet)
  | «begin» (request : Packet) (configured : Server) (shared : NetworkSnapshot)
  | move (index : Nat) (move : ExchangeMove)

def advanceExchange (platform : Platform) (world : TransportWorld) (index : Nat)
    (exchange : Exchange) (move : ExchangeMove) : Option TransportWorld :=
  match move, exchange.phase with
  | .datagram (.error error), .datagram =>
      some (world.setPhase index (.finished (.error error)))
  | .datagram (.ok reply), .datagram =>
      some (world.setPhase index
        (settleDatagram platform reply exchange.question))
  | .enter, .pooling =>
      some (world.acquire index
        (world.pool.dropStale exchange.server.route.generation) exchange.server)
  | .retry, .waiting =>
      if world.clock < exchange.deadline then
        some (world.acquire index world.pool exchange.server)
      else none
  | .expire, .waiting =>
      if exchange.deadline ≤ world.clock then
        some (world.setPhase index (.finished (.error poolBusy)))
      else none
  | .cancel, .waiting =>
      some (world.setPhase index (.finished (.error shutdownCancelled)))
  | .refresh, .acquired id => some (world.refresh index id)
  | .connect, .leased id attempt => some (world.startSending index id attempt)
  | .fail error, .leased id attempt =>
      if (world.pool.entry id).connection = none then
        some (world.failAttempt index id attempt error)
      else none
  | .transmit, .sending id attempt connection =>
      some (world.setPhase index (.receiving id attempt connection []))
  | .fail error, .sending id attempt _ =>
      some (world.failAttempt index id attempt error)
  | .receive count, .receiving id attempt connection received =>
      let unread := world.streams.getD connection []
      if 0 < count ∧ count ≤ wantedBytes received ∧ count ≤ unread.length then
        some ({ world with
            streams := world.streams.set connection (unread.drop count) }.takeBytes
          index id attempt connection (received ++ unread.take count))
      else none
  | .fail error, .receiving id attempt _ _ =>
      some (world.failAttempt index id attempt error)
  | .validate, .replied reply =>
      some (world.setPhase index (settleReply platform reply exchange.question))
  | _, _ => none

/-- One step of the exchanges on a transport, of the upstream, or of the
clock. -/
def performTransport (platform : Platform) (tcp : Bool) (world : TransportWorld) :
    TransportAction → Option TransportWorld
  | .tick now =>
      if world.clock ≤ now then some { world with clock := now } else none
  | .deliver connection bytes =>
      some { world with
        streams := world.streams.modify connection (· ++ bytes) }
  | .begin request configured shared =>
      let server := withNetworkContext shared configured
      match admitExchange server request with
      | .error _ => some world
      | .ok question =>
          some { world with
            exchanges := world.exchanges ++
              [{ request := request
                 server := server
                 question := question
                 deadline := world.clock + server.timeoutMs.toNat * 1000000
                 phase := if tcp then .pooling else .datagram }] }
  | .move index move =>
      match world.exchanges[index]? with
      | some exchange => advanceExchange platform world index exchange move
      | none => none

end NativeDNS
