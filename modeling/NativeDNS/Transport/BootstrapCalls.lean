/-
Any number of `bootstrap_endpoint` calls on one secure transport.

The atomic steps are the locked sections.  A resolution runs between the
section that sets the flag and the one that records its end; its result is
that of `resolve_bootstrap` in whatever surroundings the environment chooses.
Every reading of the clock is the environment's choice too.

`key` and `history` are not kept by the code: the key a shared state was made
for, and what was resolved, failed, handed out and rethrown, in order.
-/
import NativeDNS.Transport.Bootstrap
import NativeDNS.Library.Transition

namespace NativeDNS

open ByteText (text byte)

def bootstrapKey (host : Bytes) (route : NetworkRoute)
    (resolvers : List Bytes) : Bytes :=
  host ++ byte '|' :: networkRouteKey route ++
    resolvers.flatMap (byte '|' :: ·)

structure EndpointState where
  key : Bytes := []
  refreshing : Bool := false
  endpoint : Bytes := []
  failure : Option Thrown := none
  expires : Nat := 0
  retryAfter : Nat := 0

inductive EndpointPhase where
  | ready
  | waiting (state : Nat)
  | resolving (state : Nat)
  /-- The result is known; the shared state is still held. -/
  | leaving (state : Nat) (result : Except Thrown Bytes)
  | finished (result : Except Thrown Bytes)

structure EndpointCall where
  server : Server
  host : Bytes
  resolvers : List Bytes
  deadline : Nat
  phase : EndpointPhase := .ready

inductive EndpointEvent where
  | resolved (key : Bytes) (time : Nat) (endpoint : Bytes) (ttl : Nat)
  | failed (key : Bytes) (time : Nat) (thrown : Thrown)
  | served (key : Bytes) (time : Nat) (endpoint : Bytes)
  | rethrown (key : Bytes) (time : Nat) (thrown : Thrown)

structure EndpointWorld where
  entries : List (Bytes × Nat) := []
  states : List EndpointState := []
  calls : List EndpointCall := []
  history : List EndpointEvent := []

def EndpointCall.key (call : EndpointCall) : Bytes :=
  bootstrapKey call.host call.server.route call.resolvers

def EndpointPhase.held : EndpointPhase → Option Nat
  | .waiting state => some state
  | .resolving state => some state
  | .leaving state _ => some state
  | _ => none

def EndpointPhase.refreshes : EndpointPhase → Option Nat
  | .resolving state => some state
  | _ => none

/-! ### The code of the sections -/

def maxEndpoints : Nat := 128

def bootstrapBusy : Error :=
  .of "BOOTSTRAP_BUSY" "Bootstrap cache is at capacity"

def bootstrapRefreshBusy : Error :=
  .of "TIMEOUT" "Bootstrap refresh is busy"

def bootstrapCancelled : Error :=
  .of "CANCELLED" "DNS operation cancelled during shutdown"

namespace EndpointWorld

def state (world : EndpointWorld) (id : Nat) : EndpointState :=
  world.states.getD id {}

def setCall (world : EndpointWorld) (index : Nat) (call : EndpointCall) :
    EndpointWorld :=
  { world with calls := world.calls.set index call }

def setState (world : EndpointWorld) (id : Nat) (state : EndpointState) :
    EndpointWorld :=
  { world with states := world.states.set id state }

def note (world : EndpointWorld) (event : EndpointEvent) : EndpointWorld :=
  { world with history := world.history ++ [event] }

/-- Nobody but the cache holds a state, it is not being refreshed, and both of
its times have come; the clock is read for each of them. -/
def stale (world : EndpointWorld) (clock : Bytes → Nat × Nat)
    (entry : Bytes × Nat) : Bool :=
  world.calls.all (fun call => call.phase.held != some entry.2) &&
    !(world.state entry.2).refreshing &&
    decide ((world.state entry.2).expires ≤ (clock entry.1).1) &&
    decide ((world.state entry.2).retryAfter ≤ (clock entry.1).2)

def findEntry (entries : List (Bytes × Nat)) (key : Bytes) : Option Nat :=
  (entries.find? (·.1 == key)).map (·.2)

def recentFailure (state : EndpointState) (now : Nat) : Option Thrown :=
  state.failure.filter fun _ => decide (now < state.retryAfter)

def loopPass (world : EndpointWorld) (index : Nat) (call : EndpointCall)
    (id : Nat) (clock : Nat × Nat) : EndpointWorld :=
  let state := world.state id
  if state.endpoint ≠ [] ∧ clock.1 < state.expires then
    (world.setCall index
      { call with phase := .leaving id (.ok state.endpoint) }).note
      (.served call.key clock.1 state.endpoint)
  else
    match recentFailure state clock.2 with
    | some thrown =>
        (world.setCall index
          { call with phase := .leaving id (.error thrown) }).note
          (.rethrown call.key clock.2 thrown)
    | none =>
        if state.refreshing then
          world.setCall index { call with phase := .waiting id }
        else
          (world.setState id { state with refreshing := true }).setCall index
            { call with phase := .resolving id }

/-- The first locked section: the sweep, the entry of the key, and a pass. -/
def enter (world : EndpointWorld) (index : Nat) (call : EndpointCall)
    (sweep : Bytes → Nat × Nat) (clock : Nat × Nat) : EndpointWorld :=
  let world :=
    { world with
      entries := world.entries.filter fun entry => !world.stale sweep entry }
  match findEntry world.entries call.key with
  | some id => world.loopPass index call id clock
  | none =>
      if maxEndpoints ≤ world.entries.length then
        world.setCall index
          { call with phase := .finished (.error (.error bootstrapBusy)) }
      else
        { world with
          entries := world.entries ++ [(call.key, world.states.length)]
          states := world.states ++
            [({ key := call.key } : EndpointState)] }.loopPass index call
            world.states.length clock

def succeed (world : EndpointWorld) (index : Nat) (call : EndpointCall)
    (id : Nat) (endpoint : Bytes) (ttl now : Nat) : EndpointWorld :=
  ((world.setState id
    { world.state id with
      endpoint := endpoint
      failure := none
      expires := now + ttl * nanosPerSecond
      refreshing := false }).setCall index
    { call with phase := .leaving id (.ok endpoint) }).note
    (.resolved call.key now endpoint ttl)

def fail (world : EndpointWorld) (index : Nat) (call : EndpointCall)
    (id : Nat) (thrown : Thrown) (now : Nat) : EndpointWorld :=
  ((world.setState id
    { world.state id with
      refreshing := false
      failure := some thrown
      retryAfter := now + 1 * nanosPerSecond }).setCall index
    { call with phase := .leaving id (.error thrown) }).note
    (.failed call.key now thrown)

end EndpointWorld

/-! ### Steps -/

inductive EndpointAction where
  | «begin» (server : Server) (host : Bytes) (resolvers : List Bytes)
      (deadline : Nat)
  | enter (index : Nat) (sweep : Bytes → Nat × Nat) (clock : Nat × Nat)
  | wake (index waited : Nat) (clock : Nat × Nat)
  | expire (index waited : Nat)
  | cancel (index : Nat)
  | complete (index : Nat) (env : BootstrapEnv) (now : Nat)
  | leave (index : Nat)

def performEndpoint (platform : Platform) (world : EndpointWorld) :
    EndpointAction → Option EndpointWorld
  | .begin server host resolvers deadline =>
      some { world with
        calls := world.calls ++
          [{ server := server
             host := host
             resolvers := resolvers
             deadline := deadline }] }
  | .enter index sweep clock =>
      match world.calls[index]? with
      | some call =>
          match call.phase with
          | .ready => some (world.enter index call sweep clock)
          | _ => none
      | none => none
  | .wake index waited clock =>
      match world.calls[index]? with
      | some call =>
          match call.phase with
          | .waiting id =>
              if waited < call.deadline then
                some (world.loopPass index call id clock)
              else none
          | _ => none
      | none => none
  | .expire index waited =>
      match world.calls[index]? with
      | some call =>
          match call.phase with
          | .waiting id =>
              if call.deadline ≤ waited then
                some (world.setCall index
                  { call with
                    phase :=
                      .leaving id (.error (.error bootstrapRefreshBusy)) })
              else none
          | _ => none
      | none => none
  | .cancel index =>
      match world.calls[index]? with
      | some call =>
          match call.phase with
          | .waiting id =>
              some (world.setCall index
                { call with
                  phase := .leaving id (.error (.error bootstrapCancelled)) })
          | _ => none
      | none => none
  | .complete index env now =>
      match world.calls[index]? with
      | some call =>
          match call.phase with
          | .resolving id =>
              match (resolveBootstrap platform env call.server call.host
                call.deadline call.resolvers).2 with
              | .resolved endpoint ttl =>
                  some (world.succeed index call id endpoint ttl now)
              | .raised thrown => some (world.fail index call id thrown now)
              | .divisionByZero => none
          | _ => none
      | none => none
  | .leave index =>
      match world.calls[index]? with
      | some call =>
          match call.phase with
          | .leaving _ result =>
              some (world.setCall index { call with phase := .finished result })
          | _ => none
      | none => none

/-- The states of the calls on one transport. -/
abbrev EndpointReached (platform : Platform) : EndpointWorld → Prop :=
  Transition.Reachable (fun world => world = {}) fun before after =>
    ∃ action, performEndpoint platform before action = some after

end NativeDNS
