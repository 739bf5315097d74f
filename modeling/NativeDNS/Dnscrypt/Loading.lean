/-
Any number of `load_certificate` calls on one DNSCrypt transport.

The atomic steps are the locked sections of the cache, the two reads of the
system clock and the end of a fetch.  Both clocks return whatever the
environment chooses at each read, and so does a fetch: certificates or an
error.  The order in which the eviction loop meets the entries of the unordered
map is the environment's choice too.

`times` records the system times a call has read; the code does not keep them.
-/
import NativeDNS.Dnscrypt.Certificate
import NativeDNS.Router.Group
import NativeDNS.Library.Transition

namespace NativeDNS

open ByteText (text byte decimal)
open CheckedResult

def certificateKey (server : Server) : Bytes :=
  protocolName server.protocol ++ byte '|' ::
    (server.ip ++ byte ':' ::
        decimal (if server.port = 0 then 443 else server.port.toNat) ++ byte '|' ::
      (server.providerName ++ byte '|' ::
        (server.publicKey ++ byte '|' ::
          (server.relay ++ byte '|' ::
            ((if server.allowDirectCertificateFallback then [byte '1']
              else [byte '0']) ++ byte '|' :: networkRouteKey server.route)))))

structure CertificateState where
  certificate : Option DnsCryptCertificate := none
  refreshAfter : Nat := 0
  refreshing : Bool := false
  deriving DecidableEq

inductive LoadPhase where
  | ready
  | waiting (state : Nat)
  /-- The flag is set; the system clock has not been read again. -/
  | leading (state : Nat) (current : Option DnsCryptCertificate)
  | fetching (state : Nat) (current : Option DnsCryptCertificate) (now : Nat)
  /-- The result is known; the shared state is still held. -/
  | leaving (state : Nat) (result : Except Thrown DnsCryptCertificate)
  | finished (result : Except Thrown DnsCryptCertificate)
  deriving DecidableEq

structure LoadCall where
  server : Server
  deadline : Nat
  phase : LoadPhase := .ready
  times : List Nat := []

structure CertificateWorld where
  entries : List (Bytes × Nat) := []
  states : List CertificateState := []
  calls : List LoadCall := []

def LoadPhase.held : LoadPhase → Option Nat
  | .waiting state => some state
  | .leading state _ => some state
  | .fetching state _ _ => some state
  | .leaving state _ => some state
  | _ => none

def LoadPhase.refreshes : LoadPhase → Option Nat
  | .leading state _ => some state
  | .fetching state _ _ => some state
  | _ => none

/-! ### The code of the sections -/

def maxCertificates : Nat := 128

/-- `unix_time` for a clock that shows a number of seconds. -/
def unixTime (seconds : Int) : Checked Nat :=
  if seconds < 0 then
    .error (.of "DNSCRYPT_CERT_TIME" "System clock predates the Unix epoch")
  else .ok seconds.toNat

/-- The eviction loop; `size` is the size of the map. -/
def evictUnused (unused : Nat → Bool) : Nat → List (Bytes × Nat) → List (Bytes × Nat)
  | _, [] => []
  | size, entry :: rest =>
      if size < maxCertificates then entry :: rest
      else if unused entry.2 then evictUnused unused (size - 1) rest
      else entry :: evictUnused unused size rest

def findEntry (entries : List (Bytes × Nat)) (key : Bytes) : Option Nat :=
  (entries.find? (·.1 == key)).map (·.2)

def cacheFull : Error :=
  .of "DNSCRYPT_CERT_CACHE" "DNSCrypt certificate cache is full"

def refreshBusy : Error :=
  .of "TIMEOUT" "DNSCrypt certificate refresh is busy"

def loadCancelled : Error :=
  .of "CANCELLED" "DNS operation cancelled during shutdown"

def fetchedCertificate (verify : SignatureCheck) (server : Server) (now : Nat)
    (blobs : Except Thrown (List Packet)) : Except Thrown DnsCryptCertificate :=
  match blobs with
  | .error thrown => .error thrown
  | .ok blobs =>
      match parseDnscryptProviderKey server.publicKey with
      | .error error => .error (.error error)
      | .ok providerKey =>
          match selectDnscryptCertificate verify blobs providerKey now with
          | .error error => .error (.error error)
          | .ok certificate => .ok certificate

namespace CertificateWorld

def state (world : CertificateWorld) (id : Nat) : CertificateState :=
  world.states.getD id {}

def setCall (world : CertificateWorld) (index : Nat) (call : LoadCall) :
    CertificateWorld :=
  { world with calls := world.calls.set index call }

def setState (world : CertificateWorld) (id : Nat) (state : CertificateState) :
    CertificateWorld :=
  { world with states := world.states.set id state }

/-- Nobody but the cache holds a state, and it is not being refreshed. -/
def unused (world : CertificateWorld) (id : Nat) : Bool :=
  world.calls.all (fun call => call.phase.held != some id) &&
    !(world.state id).refreshing

def loopPass (world : CertificateWorld) (index : Nat) (call : LoadCall)
    (id : Nat) (seconds : Int) (steady : Nat) : CertificateWorld :=
  match unixTime seconds with
  | .error error =>
      world.setCall index
        { call with phase := .leaving id (.error (.error error)) }
  | .ok now =>
      let call := { call with times := call.times ++ [now] }
      let state := world.state id
      let current := state.certificate.filter (·.validAt now)
      match current, decide (steady < state.refreshAfter) with
      | some certificate, true =>
          world.setCall index { call with phase := .leaving id (.ok certificate) }
      | _, _ =>
          if state.refreshing then
            world.setCall index { call with phase := .waiting id }
          else
            (world.setState id { state with refreshing := true }).setCall index
              { call with phase := .leading id current }

/-- The first locked section: eviction, the entry of the key, and a pass. -/
def enter (world : CertificateWorld) (index : Nat) (call : LoadCall)
    (order : List (Bytes × Nat)) (seconds : Int) (steady : Nat) :
    CertificateWorld :=
  let key := certificateKey call.server
  let entries := evictUnused world.unused order.length order
  match findEntry entries key with
  | some id => { world with entries := entries }.loopPass index call id seconds steady
  | none =>
      if maxCertificates ≤ entries.length then
        { world with entries := entries }.setCall index
          { call with phase := .finished (.error (.error cacheFull)) }
      else
        { world with
          entries := entries ++ [(key, world.states.length)]
          states := world.states ++ [({} : CertificateState)] }.loopPass index call
            world.states.length seconds steady

/-- The end of a refresh that raised: the flag is reset, and a certificate that
was valid in this call is returned instead of the error. -/
def failRefresh (world : CertificateWorld) (index : Nat) (call : LoadCall)
    (id : Nat) (current : Option DnsCryptCertificate) (thrown : Thrown) :
    CertificateWorld :=
  (world.setState id
    { world.state id with refreshing := false }).setCall index
    { call with
      phase := .leaving id
        (match current with
        | some certificate => .ok certificate
        | none => .error thrown) }

def completeRefresh (world : CertificateWorld) (index : Nat) (call : LoadCall)
    (id now : Nat) (certificate : DnsCryptCertificate) (steady : Nat) :
    CertificateWorld :=
  (world.setState id
    { certificate := some certificate
      refreshAfter :=
        steady + min 3600 (certificate.validUntil - now) * nanosPerSecond
      refreshing := false }).setCall index
    { call with phase := .leaving id (.ok certificate) }

end CertificateWorld

/-! ### Steps -/

inductive LoadAction where
  | «begin» (server : Server) (deadline : Nat)
  | enter (index : Nat) (order : List (Bytes × Nat)) (seconds : Int) (steady : Nat)
  | wake (index waited : Nat) (seconds : Int) (steady : Nat)
  | expire (index waited : Nat)
  | cancel (index : Nat)
  | readClock (index : Nat) (seconds : Int)
  | complete (index : Nat) (blobs : Except Thrown (List Packet)) (steady : Nat)
  | leave (index : Nat)

/-- The servers `exchange` lets through, of those a valid configuration has. -/
def admitsServer (platform : Platform) (server : Server) : Bool :=
  (validateDnscryptServer platform server).isOk &&
    (parseNumericEndpoint platform server.ip).isOk

def performLoad (verify : SignatureCheck) (platform : Platform)
    (world : CertificateWorld) : LoadAction → Option CertificateWorld
  | .begin server deadline =>
      if admitsServer platform server = true then
        some { world with
          calls := world.calls ++
            [{ server := server
               deadline := deadline }] }
      else none
  | .enter index order seconds steady =>
      match world.calls[index]? with
      | some call =>
          if call.phase = .ready ∧ order.isPerm world.entries = true then
            some (world.enter index call order seconds steady)
          else none
      | none => none
  | .wake index waited seconds steady =>
      match world.calls[index]? with
      | some call =>
          match call.phase with
          | .waiting id =>
              if waited < call.deadline then
                some (world.loopPass index call id seconds steady)
              else none
          | _ => none
      | none => none
  | .expire index waited =>
      match world.calls[index]? with
      | some call =>
          match call.phase with
          | .waiting id =>
              if call.deadline ≤ waited then
                some (world.setCall index
                  { call with
                    phase := .leaving id (.error (.error refreshBusy)) })
              else none
          | _ => none
      | none => none
  | .cancel index =>
      match world.calls[index]? with
      | some call =>
          match call.phase with
          | .waiting id =>
              some (world.setCall index
                { call with
                  phase := .leaving id (.error (.error loadCancelled)) })
          | _ => none
      | none => none
  | .readClock index seconds =>
      match world.calls[index]? with
      | some call =>
          match call.phase with
          | .leading id current =>
              match unixTime seconds with
              | .error error =>
                  some (world.failRefresh index call id current (.error error))
              | .ok now =>
                  some (world.setCall index
                    { call with
                      phase := .fetching id current now
                      times := call.times ++ [now] })
          | _ => none
      | none => none
  | .complete index blobs steady =>
      match world.calls[index]? with
      | some call =>
          match call.phase with
          | .fetching id current now =>
              match fetchedCertificate verify call.server now blobs with
              | .error thrown =>
                  some (world.failRefresh index call id current thrown)
              | .ok certificate =>
                  some (world.completeRefresh index call id now certificate steady)
          | _ => none
      | none => none
  | .leave index =>
      match world.calls[index]? with
      | some call =>
          match call.phase with
          | .leaving _ result =>
              some (world.setCall index { call with phase := .finished result })
          | _ => none
      | none => none

/-- The states of the calls on one transport. -/
abbrev LoadReached (verify : SignatureCheck) (platform : Platform) :
    CertificateWorld → Prop :=
  Transition.Reachable (fun world => world = {}) fun before after =>
    ∃ action, performLoad verify platform before action = some after

end NativeDNS
