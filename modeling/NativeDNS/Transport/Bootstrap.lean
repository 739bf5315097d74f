/-
The resolution of a secure server's host by plain resolvers.

Two passes over the resolvers, for the two address types, share one deadline.
The clock is read where the source reads it, and a reading never goes back;
the transport answers or raises whatever it likes.  The share of an attempt is
a quotient of integers, so a division by zero is a result of its own.
-/
import NativeDNS.Network
import NativeDNS.Router.Group
import NativeDNS.Wire.Query
import NativeDNS.Wire.Response

namespace NativeDNS

open ByteText (text byte decimal)
open CheckedResult

/-- What the surroundings of a resolution decide.  Attempts are numbered over
both passes. -/
structure BootstrapEnv where
  /-- The clock where an attempt asks for its budget. -/
  started : Nat → Nat
  /-- The clock where the handler of an attempt reads it. -/
  failed : Nat → Nat
  passed : Nat → Nat
  cancelled : Nat → Bool
  queryId : Nat → UInt16
  exchange : Nat → Packet → Server → Except Thrown Packet

structure BootstrapAttempt where
  type : UInt16
  resolver : Bytes
  timeoutMs : Nat
  deriving DecidableEq

structure BootstrapProgress where
  attemptsLeft : Nat
  failure : Bytes
  attempts : List BootstrapAttempt := []

inductive BootstrapResult where
  | resolved (endpoint : Bytes) (ttl : Nat)
  | raised (thrown : Thrown)
  | divisionByZero
  deriving DecidableEq

/-- How an attempt leaves the loop over the resolvers. -/
inductive BootstrapFlow where
  | again
  | leave
  | finish (result : BootstrapResult)

/-- The whole milliseconds left, cut to 32 bits. -/
def remaining (deadline now : Nat) (cancelled : Bool) : Checked Nat := do
  rejectIf (cancelled = true)
    (.of "CANCELLED" "DNS operation cancelled during shutdown")
  rejectIf ((deadline - now) / nanosPerMilli = 0)
    (.of "TIMEOUT" "Secure DNS deadline exceeded")
  pure ((deadline - now) / nanosPerMilli % 2 ^ 32)

def attemptTimeout (budget attemptsLeft : Nat) : Nat :=
  max 1 (min 1000 (budget / attemptsLeft))

section Attempt

variable (platform : Platform) (env : BootstrapEnv) (server : Server)
  (host : Bytes) (deadline : Nat)

def plainResolver (attempt : BootstrapAttempt) : Server :=
  { ip := attempt.resolver
    name := text "bootstrap"
    route := server.route
    timeoutMs := UInt32.ofNat attempt.timeoutMs }

def askResolver (index : Nat) (attempt : BootstrapAttempt) :
    Except Thrown DnsAnswer := do
  let request ←
    (makeQuery (env.queryId index) host attempt.type).mapError .error
  let response ← env.exchange index request (plainResolver server attempt)
  let question ← (parseQuestion request).mapError .error
  (parseResponse platform response question).mapError .error

def usableAddress (answer : DnsAnswer) : Option Bytes :=
  if answer.rcode = 0 then answer.addresses.head? else none

def attemptFailed (index : Nat) (type : UInt16) (resolver : Bytes)
    (error : Error) (state : BootstrapProgress) :
    BootstrapProgress × BootstrapFlow :=
  if error.code = "CANCELLED" then (state, .finish (.raised (.error error)))
  else
    let state :=
      { state with
        failure := text "resolver=" ++ resolver ++ text " type=" ++
          dnsTypeName type ++ text " error=" ++ text error.code ++
          text ": " ++ error.message }
    if deadline ≤ env.failed index then (state, .leave) else (state, .again)

def attemptAnswered (index : Nat) (attempt : BootstrapAttempt)
    (state : BootstrapProgress) : BootstrapProgress × BootstrapFlow :=
  match askResolver platform env server host index attempt with
  | .error (.error error) =>
      attemptFailed env deadline index attempt.type attempt.resolver error state
  | .error thrown => (state, .finish (.raised thrown))
  | .ok answer =>
      match usableAddress answer with
      | some endpoint =>
          (state, .finish (.resolved endpoint (min answer.cacheTtl 60)))
      | none =>
          ({ state with
              failure := text "resolver=" ++ attempt.resolver ++
                text " type=" ++ dnsTypeName attempt.type ++ text " RCODE=" ++
                decimal answer.rcode ++ text " no usable address" }, .again)

def bootstrapAttempt (index : Nat) (type : UInt16) (resolver : Bytes)
    (state : BootstrapProgress) : BootstrapProgress × BootstrapFlow :=
  match remaining deadline (env.started index) (env.cancelled index) with
  | .error error => attemptFailed env deadline index type resolver error state
  | .ok budget =>
      if state.attemptsLeft = 0 then (state, .finish .divisionByZero)
      else
        let attempt : BootstrapAttempt :=
          { type := type
            resolver := resolver
            timeoutMs := attemptTimeout budget state.attemptsLeft }
        attemptAnswered platform env server host deadline index attempt
          { state with
            attemptsLeft := state.attemptsLeft - 1
            attempts := state.attempts ++ [attempt] }

def bootstrapPass (type : UInt16) :
    List Bytes → Nat → BootstrapProgress →
      BootstrapProgress × Option BootstrapResult
  | [], _, state => (state, none)
  | resolver :: rest, index, state =>
      match bootstrapAttempt platform env server host deadline index type
        resolver state with
      | (state, .again) => bootstrapPass type rest (index + 1) state
      | (state, .leave) => (state, none)
      | (state, .finish result) => (state, some result)

def bootstrapPasses (resolvers : List Bytes) :
    List UInt16 → Nat → BootstrapProgress →
      BootstrapProgress × Option BootstrapResult
  | [], _, state => (state, none)
  | type :: types, pass, state =>
      match bootstrapPass platform env server host deadline type resolvers
        (pass * resolvers.length) state with
      | (state, some result) => (state, some result)
      | (state, none) =>
          if deadline ≤ env.passed pass then (state, none)
          else bootstrapPasses resolvers types (pass + 1) state

def bootstrapError (failure : Bytes) : Error :=
  { code := "BOOTSTRAP"
    message := text "host=" ++ host ++ text " context=" ++
      networkRouteKey server.route ++ text " upstream bootstrap failed: " ++
      failure }

def resolveBootstrap (resolvers : List Bytes) :
    List BootstrapAttempt × BootstrapResult :=
  match bootstrapPasses platform env server host deadline resolvers [1, 28] 0
    { attemptsLeft := resolvers.length * 2
      failure := text "no usable resolver" } with
  | (state, some result) => (state.attempts, result)
  | (state, none) =>
      (state.attempts,
        .raised (.error (bootstrapError server host state.failure)))

end Attempt

end NativeDNS
