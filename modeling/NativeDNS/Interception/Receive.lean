/-
One pass of the receive loop, and the processing of one queued job.

The driver, the shared registry of upstream sockets, the reflection proxy and
the network monitor answer as the environment says.  A pass is a plan, which
may raise before or after the policy is selected, followed by the injection,
the offer to the queue, or the handler.  Logging is left out.
-/
import NativeDNS.Interception.Rewrites
import NativeDNS.Router.Route
import NativeDNS.Wire.Fitting

namespace NativeDNS

open ByteText (text decimal)
open CheckedResult

/-- The fields of a driver address that the code reads or writes. -/
structure DivertAddress where
  outbound : Bool := true
  impostor : Bool := false
  ipChecksum : Bool := false
  tcpChecksum : Bool := false
  udpChecksum : Bool := false
  interfaceIndex : UInt32 := 0
  deriving DecidableEq, Repr

inductive SendResult where
  | complete
  | failed (lastError : Nat)

/-- What the driver computes for a reflected segment: the packet, and the
checksum marks of its address. -/
structure Checksummed where
  packet : Packet
  ip : Bool
  tcp : Bool
  udp : Bool

/-- Everything the loop is not given by the packet itself. -/
structure Backend where
  snapshot : Snapshot
  network : NetworkSnapshot
  upstream : Bool → Nat → Bool → Bool
  interceptedTcpPort : Nat
  tcpProxyPort : Nat
  send : Packet → DivertAddress → SendResult
  expectConnection : Bytes → Nat → Checked Unit
  calcChecksums : Packet → Option Checksummed

structure Job where
  packet : Packet
  address : DivertAddress
  snapshot : Snapshot

structure JobQueue where
  jobs : List Job := []
  queuedBytes : Nat := 0

def hostUnreachable : Nat := 1232

/-- Hand a packet to the driver; a packet of this host that exhausted its hop
limit is given up silently. -/
def inject (backend : Backend) (packet : Packet) (address : DivertAddress) :
    Checked Unit :=
  match backend.send packet address with
  | .complete => pure ()
  | .failed lastError =>
      if address.impostor ∧ lastError = hostUnreachable then pure ()
      else
        throw
          { code := "WINDIVERT_SEND"
            message := text "WinDivertSend failed: " ++ decimal lastError }

/-! ### The plan of a pass -/

inductive Handling where
  | injects (packet : Packet) (address : DivertAddress)
  | ignores
  | offers (view : UdpView)

structure Raised where
  policySelected : Bool
  error : Error

/-- Say whether an error was raised after the policy was selected. -/
def marked {α : Type} (policySelected : Bool) (outcome : Checked α) :
    Except Raised α :=
  outcome.mapError fun error =>
    { policySelected := policySelected
      error := error }

def resetTcp (packet : Packet) (address : DivertAddress) :
    Checked Handling := do
  let reset ← makeInterceptedTcpReset packet
  if reset = [] then pure .ignores
  else
    pure (.injects reset
      { address with
        outbound := false
        ipChecksum := false
        tcpChecksum := false })

/-- Announce a connection attempt to the proxy.  It also forgets a connection
on a reset, which cannot fail. -/
def expectTcp (backend : Backend) (packet : Packet) (address : DivertAddress)
    (view : TcpView) (towardProxy : Bool) : Checked Unit :=
  let flags := tcpFlags packet view.tcp
  if towardProxy = true ∧ flags &&& 0x02 ≠ 0 ∧ flags &&& 0x10 = 0 then
    backend.expectConnection
      (destinationIp backend.snapshot.platform packet view.ipv6
        address.interfaceIndex)
      (wordAt packet view.tcp)
  else pure ()

def reflectTcp (backend : Backend) (packet : Packet) (address : DivertAddress)
    (view : TcpView) (towardProxy : Bool) : Checked Handling := do
  expectTcp backend packet address view towardProxy
  let reflected ← makeReflectedTcpPacket packet backend.tcpProxyPort towardProxy
    backend.interceptedTcpPort
  match backend.calcChecksums reflected with
  | none =>
      throw (.of "WINDIVERT_CHECKSUM"
        "Cannot calculate reflected TCP checksums")
  | some checked =>
      pure (.injects checked.packet
        { address with
          outbound := false
          ipChecksum := checked.ip
          tcpChecksum := checked.tcp
          udpChecksum := checked.udp })

def planTcp (backend : Backend) (packet : Packet) (address : DivertAddress)
    (view : TcpView) : Except Raised Handling :=
  let sourcePort := wordAt packet view.tcp
  let destinationPort := wordAt packet (view.tcp + 2)
  if address.outbound = false then .ok (.injects packet address)
  else if destinationPort = backend.interceptedTcpPort ∧
      backend.upstream true sourcePort view.ipv6 = true then
    .ok (.injects packet address)
  else if destinationPort = 53 ∧ backend.snapshot.options.blockTcp53 = true then
    marked true (resetTcp packet address)
  else if destinationPort ≠ backend.interceptedTcpPort ∧
      sourcePort ≠ backend.tcpProxyPort then
    .ok (.injects packet address)
  else
    marked true (reflectTcp backend packet address view
      (decide (destinationPort = backend.interceptedTcpPort)))

def judgeQuery (backend : Backend) (query : Packet) : Checked RuleDecision := do
  let question ← parseQuestion query
  rejectIf (question.flags &&& 0x8000 ≠ 0)
    (.of "DNS_MALFORMED" "Cannot route a reply as a query")
  evaluateRule backend.snapshot.config question.name backend.network

def planUdp (backend : Backend) (packet : Packet) (address : DivertAddress)
    (view : UdpView) : Except Raised Handling :=
  if backend.upstream false (wordAt packet view.udp) view.ipv6 = true then
    .ok (.injects packet address)
  else
    marked true do
      let decision ← judgeQuery backend (packet.drop view.payload)
      if decision.reinjectUdp = true then pure (.injects packet address)
      else pure (.offers view)

def planPacket (backend : Backend) (packet : Packet)
    (address : DivertAddress) : Except Raised Handling := do
  let tcp ← marked false (isTcpPacket packet)
  if tcp = true then do
    let view ← marked false (tcpView packet)
    planTcp backend packet address view
  else do
    let view ← marked false (udpView packet)
    planUdp backend packet address view

/-! ### The whole pass -/

/-- What a pass hands to the driver, the queue it leaves, and the error that
ends the loop. -/
structure Pass where
  sent : List (Packet × DivertAddress) := []
  queue : JobQueue
  stopped : Option Error := none

def JobQueue.hasRoom (queue : JobQueue) (packet : Packet) : Prop :=
  queue.jobs.length < 4096 ∧
    queue.queuedBytes + packet.length ≤ 32 * 1024 * 1024

instance (queue : JobQueue) (packet : Packet) :
    Decidable (queue.hasRoom packet) :=
  inferInstanceAs (Decidable (_ ∧ _))

def JobQueue.push (queue : JobQueue) (job : Job) : JobQueue :=
  { jobs := queue.jobs ++ [job]
    queuedBytes := queue.queuedBytes + job.packet.length }

def DivertAddress.answering (address : DivertAddress) : DivertAddress :=
  { address with
    outbound := false
    ipChecksum := false
    udpChecksum := false }

def overloadReply (packet : Packet) (view : UdpView) : Checked Packet := do
  let response ← makeErrorResponse (packet.drop view.payload) 2
  makeInterceptedUdpResponse packet response

section Passes

variable (backend : Backend) (queue : JobQueue) (packet : Packet)
variable (address : DivertAddress)

def injectOnce (sentPacket : Packet) (sentAddress : DivertAddress) : Pass :=
  { sent := [(sentPacket, sentAddress)]
    queue := queue
    stopped :=
      match inject backend sentPacket sentAddress with
      | .ok _ => none
      | .error error => some error }

/-- The handler inside the loop: a packet whose policy was not yet selected
passes. -/
def catchPass (raised : Raised) : Pass :=
  if raised.error.code = "WINDIVERT_SEND" then
    { queue := queue
      stopped := some raised.error }
  else if raised.policySelected = true then { queue := queue }
  else injectOnce backend queue packet address

def offer (view : UdpView) : Pass :=
  if queue.hasRoom packet then
    { queue := queue.push
        { packet := packet
          address := address
          snapshot := backend.snapshot } }
  else
    match overloadReply packet view with
    | .ok response => injectOnce backend queue response address.answering
    | .error error =>
        catchPass backend queue packet address
          { policySelected := true
            error := error }

def receivePass : Pass :=
  match planPacket backend packet address with
  | .error raised => catchPass backend queue packet address raised
  | .ok (.injects sentPacket sentAddress) =>
      injectOnce backend queue sentPacket sentAddress
  | .ok .ignores => { queue := queue }
  | .ok (.offers view) => offer backend queue packet address view

end Passes

/-! ### A worker -/

def jobOriginal (platform : Platform) (job : Job) (view : UdpView) : Server :=
  let original := originalServer platform job.packet view
  if view.ipv6 && isLinkLocal job.packet then
    { original with
      route := { original.route with scope6 := job.address.interfaceIndex } }
  else original

def answerJob (job : Job) (query : Packet) (routed : RouteResult) :
    Checked (Option (Packet × DivertAddress)) :=
  if routed.disposition = .forwardOriginal then
    pure (some (job.packet, job.address))
  else if routed.disposition = .silentDrop ∨ routed.packet = [] then pure none
  else do
    let fitted ← fitUdpResponse query routed.packet
    let response ← makeInterceptedUdpResponse job.packet fitted
    pure (some (response, job.address.answering))

/-- The packet a worker injects for a job, if it injects one; an exception
that is no error of this program ends the worker.  `running` is the state of
the backend after the routing. -/
def process (around : Surroundings)
    (exchanged : Demand → Except Thrown Reply) (running : Bool) (job : Job) :
    Except Thrown (Option (Packet × DivertAddress)) :=
  match udpView job.packet with
  | .error error => .error (.error error)
  | .ok view =>
      match route job.snapshot around exchanged (job.packet.drop view.payload)
          (jobOriginal job.snapshot.platform job view) with
      | .error thrown => .error thrown
      | .ok routed =>
          if running = false then .ok none
          else
            (answerJob job (job.packet.drop view.payload) routed).mapError
              Thrown.error

end NativeDNS
