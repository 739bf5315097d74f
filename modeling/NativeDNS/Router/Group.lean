/-
One upstream exchange over a fallback group.

The environment supplies everything the code does not decide: the readings of
the steady clock (in nanoseconds), the result of each transport exchange, what
other callers do to the shared health map before each locked section, and the
order a stable sort produces.  The state counts readings, sections and
attempts, so that one environment describes one run.
-/
import NativeDNS.Rules.Validation
import NativeDNS.Wire.Bytes
import Mathlib.Data.List.Sort
import Mathlib.Data.Rat.Defs
import Mathlib.Algebra.Order.Ring.Rat

namespace NativeDNS

open ByteText (text byte decimal)

/-- The latency average is kept as an exact rational number of
milliseconds; the count of failures wraps. -/
structure Health where
  consecutiveFailures : UInt32 := 0
  retryAfter : Nat := 0
  latencyMs : Option Rat := none

abbrev HealthMap := OrderedMap Bytes Health

/-- A sort that returns a rearrangement, whatever the comparison. -/
structure StableSort where
  sort : (Server → Server → Bool) → List Server → List Server
  perm : ∀ before candidates, (sort before candidates).Perm candidates

def StableSort.insertion : StableSort where
  sort before candidates :=
    candidates.insertionSort (fun left right => before right left = false)
  perm _ candidates := List.perm_insertionSort _ candidates

structure GroupEnv where
  clock : Nat → Nat
  interfere : Nat → HealthMap → HealthMap
  exchange : Nat → Server → Except Thrown Packet
  sorting : StableSort

structure GroupState where
  health : HealthMap
  readings : Nat := 0
  sections : Nat := 0
  /-- The servers handed to a transport, in order. -/
  contacted : List Server := []

def GroupState.locked (env : GroupEnv) (state : GroupState) : GroupState :=
  { state with
    health := env.interfere state.sections state.health
    sections := state.sections + 1 }

def GroupState.readClock (state : GroupState) : GroupState :=
  { state with readings := state.readings + 1 }

def nanosPerMilli : Nat := 1000000

def nanosPerSecond : Nat := 1000000000

/-! ### Candidates -/

/-- Append a server and, depth first, its fallbacks, skipping what is already
listed. -/
def appendServer (servers : List Server) :
    Nat → List Server → Server → List Server
  | 0, candidates, _ => candidates
  | fuel + 1, candidates, server =>
      if candidates.any (·.id == server.id) then candidates
      else
        server.fallbackIds.foldl
          (fun candidates id =>
            match findServer servers id with
            | some found => appendServer servers fuel candidates found
            | none => candidates)
          (candidates ++ [server])

def groupCandidates (servers : List Server) (primary : Server) : List Server :=
  (appendServer servers (servers.length + 1) [] primary).filter (·.enabled)

/-! ### Health -/

def healthKey (route : NetworkRoute) (server : Server) : Bytes :=
  decimal server.id.toNat ++ byte '|' :: networkRouteKey route

def touch (health : HealthMap) (key : Bytes) : HealthMap :=
  match health.find? key with
  | some _ => health
  | none => health.insert key {}

def healthAt (health : HealthMap) (key : Bytes) : Health :=
  (health.find? key).getD {}

/-- The comparison of the candidate order: closed circuits before open ones,
recovery probes first, then the smaller known latency. -/
def precedes (health : HealthMap) (route : NetworkRoute) (now : Nat)
    (anyReady : Bool) (left right : Server) : Bool :=
  let a := healthAt health (healthKey route left)
  let b := healthAt health (healthKey route right)
  let aOpen := anyReady && decide (a.retryAfter > now)
  let bOpen := anyReady && decide (b.retryAfter > now)
  if aOpen ≠ bOpen then !aOpen
  else
    let aProbe := decide (a.consecutiveFailures ≥ 2) && decide (a.retryAfter ≤ now)
    let bProbe := decide (b.consecutiveFailures ≥ 2) && decide (b.retryAfter ≤ now)
    if aProbe ≠ bProbe then aProbe
    else
      match a.latencyMs, b.latencyMs with
      | some x, some y => decide (x < y)
      | _, _ => false

/-- The ranking section: a crowded map is cleared, missing entries are
created, and the candidates are sorted. -/
def rankCandidates (env : GroupEnv) (route : NetworkRoute)
    (candidates : List Server) (state : GroupState) :
    List Server × GroupState :=
  let state := state.locked env
  let now := env.clock state.readings
  let state := state.readClock
  let health :=
    if state.health.size + candidates.length > 8192 then OrderedMap.empty
    else state.health
  let health :=
    candidates.foldl (fun health server => touch health (healthKey route server))
      health
  let anyReady :=
    candidates.any (fun server =>
      decide ((healthAt health (healthKey route server)).retryAfter ≤ now))
  (env.sorting.sort (precedes health route now anyReady) candidates,
    { state with health := health })

/-- Whether another candidate is ready; entries are created for the
candidates that are looked at. -/
def anotherReady (route : NetworkRoute) (candidate : Server) (now : Nat) :
    HealthMap → List Server → Bool × HealthMap
  | health, [] => (false, health)
  | health, server :: rest =>
      if server.id = candidate.id then
        anotherReady route candidate now health rest
      else
        let health := touch health (healthKey route server)
        if (healthAt health (healthKey route server)).retryAfter ≤ now then
          (true, health)
        else anotherReady route candidate now health rest

def recordSuccess (env : GroupEnv) (route : NetworkRoute) (candidate : Server)
    (elapsed : Nat) (state : GroupState) : GroupState :=
  let state := state.locked env
  let key := healthKey route candidate
  let elapsedMs : Rat := (elapsed : Rat) / nanosPerMilli
  let latency :=
    match (healthAt state.health key).latencyMs with
    | some average => average * (8 / 10) + elapsedMs * (2 / 10)
    | none => elapsedMs
  { state with
    health := state.health.insert key
      { consecutiveFailures := 0
        retryAfter := 0
        latencyMs := some latency } }

/-- The section that records a failure; the second consecutive one opens the
circuit, and the one that wraps the count leaves it as it is. -/
def recordFailure (env : GroupEnv) (route : NetworkRoute) (candidate : Server)
    (state : GroupState) : GroupState :=
  let state := state.locked env
  let key := healthKey route candidate
  let health := healthAt state.health key
  let failures := health.consecutiveFailures + 1
  if failures ≥ 2 then
    let retryAfter := env.clock state.readings +
      (30 <<< min (failures.toNat - 2) 3) * nanosPerSecond
    { state.readClock with
      health := state.health.insert key
        { health with
          consecutiveFailures := failures
          retryAfter := retryAfter } }
  else
    { state with
      health := state.health.insert key
        { health with consecutiveFailures := failures } }

/-! ### The attempts -/

def GroupState.exchange (env : GroupEnv) (server : Server)
    (state : GroupState) : Except Thrown Packet × GroupState :=
  (env.exchange state.contacted.length server,
    { state with contacted := state.contacted ++ [server] })

/-- The server of one attempt: the primary's route and what is left of the
deadline. -/
def attemptServer (route : NetworkRoute) (remainingMs : Nat)
    (candidate : Server) : Server :=
  { candidate with
    route := route
    timeoutMs := UInt32.ofNat
      (min candidate.timeoutMs.toNat (max 1 remainingMs)) }

def attemptFailure (route : NetworkRoute) (candidate : Server) (error : Error) :
    Error :=
  { code := error.code
    message := text "server=" ++ candidate.name ++ text " protocol=" ++
      protocolName candidate.protocol ++ text " context=" ++
      networkRouteKey route ++ text " error=" ++ error.message }

def groupExhausted (last : Error) : Thrown :=
  .error
    { code := last.code
      message := text "Fallback group exhausted: " ++ last.message }

abbrev GroupOutcome := Except Thrown (Packet × Server)

def tryCandidates (env : GroupEnv) (route : NetworkRoute)
    (candidates : List Server) (deadline : Nat) :
    List Server → Error → GroupState → GroupOutcome × GroupState
  | [], last, state => (.error (groupExhausted last), state)
  | candidate :: rest, last, state =>
      let now := env.clock state.readings
      let state := state.readClock
      if now ≥ deadline then (.error (groupExhausted last), state)
      else
        let state := state.locked env
        let (another, health) :=
          anotherReady route candidate now state.health candidates
        let health := touch health (healthKey route candidate)
        let state := { state with health := health }
        if (healthAt health (healthKey route candidate)).retryAfter > now ∧
            another = true then
          tryCandidates env route candidates deadline rest last state
        else
          let started := env.clock state.readings
          let state := state.readClock
          match state.exchange env
              (attemptServer route ((deadline - now) / nanosPerMilli)
                candidate) with
          | (.ok packet, state) =>
              let elapsed := env.clock state.readings - started
              (.ok (packet, candidate),
                recordSuccess env route candidate elapsed state.readClock)
          | (.error (.exception what), state) =>
              (.error (.exception what), state)
          | (.error (.error error), state) =>
              if error.code = "CANCELLED" then (.error (.error error), state)
              else
                tryCandidates env route candidates deadline rest
                  (attemptFailure route candidate error)
                  (recordFailure env route candidate state)

def groupBudget (candidates : List Server) : Nat :=
  candidates.foldl
    (fun budget server => min 120000 (budget + server.timeoutMs.toNat)) 0

def exchangeGroup (env : GroupEnv) (servers : List Server) (primary : Server)
    (state : GroupState) : GroupOutcome × GroupState :=
  if primary.id = 0 ∨ primary.fallbackIds = [] then
    match state.exchange env primary with
    | (.ok packet, state) => (.ok (packet, primary), state)
    | (.error thrown, state) => (.error thrown, state)
  else
    let candidates := groupCandidates servers primary
    if candidates = [] then
      (.error (.error (.of "SERVER_DISABLED"
        "All servers in fallback group are disabled")), state)
    else
      let started := env.clock state.readings
      let deadline := started + groupBudget candidates * nanosPerMilli
      let (ordered, state) :=
        rankCandidates env primary.route candidates state.readClock
      tryCandidates env primary.route ordered deadline ordered
        (.of "UPSTREAM_UNAVAILABLE" "No upstream attempt completed") state

/-! ### Which servers are contacted -/

/-- A server of the list can be reached from an identifier by fallbacks. -/
inductive Reaches (servers : List Server) (start : UInt32) : Server → Prop
  | self {server : Server} (found : findServer servers start = some server) :
      Reaches servers start server
  | fallback {server next : Server} {id : UInt32}
      (before : Reaches servers start server) (listed : id ∈ server.fallbackIds)
      (found : findServer servers id = some next) :
      Reaches servers start next

/-- What holds of the primary and is kept by fallbacks holds of every listed
server. -/
theorem appendServer_forall {servers : List Server} {holds : Server → Prop}
    (closed : ∀ server id next, holds server → id ∈ server.fallbackIds →
      findServer servers id = some next → holds next) :
    ∀ {fuel : Nat} {candidates : List Server} {server : Server},
      (∀ listed ∈ candidates, holds listed) → holds server →
        ∀ listed ∈ appendServer servers fuel candidates server, holds listed
  | 0, candidates, server, listed, _ => listed
  | fuel + 1, candidates, server, listed, start => by
      unfold appendServer
      split
      · exact listed
      · have fallbacksHold : ∀ (ids : List UInt32) (acc : List Server),
            (∀ id ∈ ids, id ∈ server.fallbackIds) →
            (∀ item ∈ acc, holds item) →
            ∀ item ∈ ids.foldl
              (fun candidates id =>
                match findServer servers id with
                | some found => appendServer servers fuel candidates found
                | none => candidates) acc, holds item := by
          intro ids
          induction ids with
          | nil =>
              intro acc _ accHold
              exact accHold
          | cons id rest ih =>
              intro acc subset accHold
              rw [List.foldl_cons]
              apply ih
              · exact fun other member =>
                  subset other (List.mem_cons_of_mem id member)
              · cases found : findServer servers id with
                | none =>
                    exact accHold
                | some next =>
                    exact appendServer_forall closed accHold
                      (closed server id next start (subset id List.mem_cons_self)
                        found)
        apply fallbacksHold server.fallbackIds _ (fun _ member => member)
        intro item member
        rcases List.mem_append.mp member with earlier | last
        · exact listed item earlier
        · rw [List.mem_singleton.mp last]
          exact start

/-- Every candidate is enabled, and is the primary or one of the servers its
fallbacks lead to. -/
theorem groupCandidates_mem {servers : List Server} {primary candidate : Server}
    (member : candidate ∈ groupCandidates servers primary) :
    candidate.enabled = true ∧
      (candidate = primary ∨ ∃ id ∈ primary.fallbackIds,
        Reaches servers id candidate) := by
  obtain ⟨listed, enabled⟩ := List.mem_filter.mp member
  refine ⟨enabled, ?_⟩
  let holds : Server → Prop := fun server =>
    server = primary ∨ ∃ id ∈ primary.fallbackIds, Reaches servers id server
  have closed : ∀ server id next, holds server → id ∈ server.fallbackIds →
      findServer servers id = some next → holds next := by
    rintro server id next (rfl | ⟨first, isFallback, reached⟩) fallback found
    · exact Or.inr ⟨id, fallback, .self found⟩
    · exact Or.inr ⟨first, isFallback, .fallback reached fallback found⟩
  exact appendServer_forall closed (fun other member => by cases member)
    (Or.inl rfl) candidate listed

/-- What the servers handed to a transport by one group exchange are: attempts
at candidates of the group. -/
structure Tried (env : GroupEnv) (route : NetworkRoute)
    (candidates : List Server) (before after : GroupState)
    (outcome : GroupOutcome) : Prop where
  attempts : ∃ tried, after.contacted = before.contacted ++ tried ∧
    ∀ attempt ∈ tried, ∃ candidate ∈ candidates, ∃ remainingMs,
      attempt = attemptServer route remainingMs candidate
  /-- The reply is what a transport returned for the reported candidate. -/
  used : ∀ packet server, outcome = .ok (packet, server) →
    server ∈ candidates ∧ ∃ number remainingMs,
      env.exchange number (attemptServer route remainingMs server) = .ok packet

theorem Tried.none {env : GroupEnv} {route : NetworkRoute}
    {candidates : List Server} {before after : GroupState} {thrown : Thrown}
    (same : after.contacted = before.contacted) :
    Tried env route candidates before after (.error thrown) where
  attempts := ⟨[], by rw [same, List.append_nil], by simp⟩
  used := by
    intro packet server answered
    cases answered

private theorem Tried.cons {env : GroupEnv} {route : NetworkRoute}
    {candidates : List Server} {before middle after : GroupState}
    {outcome : GroupOutcome} {candidate : Server} {remainingMs : Nat}
    (member : candidate ∈ candidates)
    (contacted : middle.contacted =
      before.contacted ++ [attemptServer route remainingMs candidate])
    (rest : Tried env route candidates middle after outcome) :
    Tried env route candidates before after outcome where
  attempts := by
    obtain ⟨tried, grown, each⟩ := rest.attempts
    refine ⟨attemptServer route remainingMs candidate :: tried, ?_, ?_⟩
    · rw [grown, contacted, List.append_assoc, List.singleton_append]
    · intro attempt inTried
      rcases List.mem_cons.mp inTried with rfl | later
      · exact ⟨candidate, member, remainingMs, rfl⟩
      · exact each attempt later
  used := rest.used

@[simp] theorem locked_contacted (env : GroupEnv) (state : GroupState) :
    (state.locked env).contacted = state.contacted :=
  rfl

@[simp] theorem readClock_contacted (state : GroupState) :
    state.readClock.contacted = state.contacted :=
  rfl

@[simp] theorem recordSuccess_contacted (env : GroupEnv) (route : NetworkRoute)
    (candidate : Server) (elapsed : Nat) (state : GroupState) :
    (recordSuccess env route candidate elapsed state).contacted =
      state.contacted :=
  rfl

@[simp] theorem recordFailure_contacted (env : GroupEnv) (route : NetworkRoute)
    (candidate : Server) (state : GroupState) :
    (recordFailure env route candidate state).contacted = state.contacted := by
  unfold recordFailure
  dsimp only
  split
  · rfl
  · rfl

theorem tryCandidates_tried {env : GroupEnv} {route : NetworkRoute}
    {candidates : List Server} {deadline : Nat} :
    ∀ {ordered : List Server} {last : Error} {before after : GroupState}
      {outcome : GroupOutcome}, (∀ server ∈ ordered, server ∈ candidates) →
      tryCandidates env route candidates deadline ordered last before =
        (outcome, after) →
      Tried env route candidates before after outcome
  | [], last, before, after, outcome, _, run => by
      cases run
      exact .none rfl
  | candidate :: rest, last, before, after, outcome, subset, run => by
      have restSubset : ∀ server ∈ rest, server ∈ candidates :=
        fun server member => subset server (List.mem_cons_of_mem candidate member)
      have member := subset candidate List.mem_cons_self
      unfold tryCandidates at run
      dsimp only at run
      split at run
      · cases run
        exact .none rfl
      split at run
      · have skipped := tryCandidates_tried restSubset run
        exact ⟨skipped.attempts, skipped.used⟩
      unfold GroupState.exchange at run
      split at run
      · rename_i packet state exchanged
        obtain ⟨answerEq, rfl⟩ := Prod.mk.inj exchanged
        obtain ⟨rfl, rfl⟩ := Prod.mk.inj run
        refine ⟨⟨[_], rfl, ?_⟩, ?_⟩
        · intro attempt inTried
          exact ⟨candidate, member, _, List.mem_singleton.mp inTried⟩
        · intro reply server answered
          cases answered
          exact ⟨member, _, _, answerEq⟩
      · rename_i what state exchanged
        obtain ⟨_, rfl⟩ := Prod.mk.inj exchanged
        obtain ⟨rfl, rfl⟩ := Prod.mk.inj run
        exact .cons member rfl (.none rfl)
      · rename_i error state exchanged
        obtain ⟨_, rfl⟩ := Prod.mk.inj exchanged
        split at run
        · obtain ⟨rfl, rfl⟩ := Prod.mk.inj run
          exact .cons member rfl (.none rfl)
        · have later := tryCandidates_tried restSubset run
          exact .cons member (recordFailure_contacted ..) later

/-- A server that an exchange for a primary may hand to a transport, and the
server of the configuration it stands for. -/
inductive AttemptAt (servers : List Server) (primary : Server) :
    Server → Server → Prop
  | single (alone : primary.id = 0 ∨ primary.fallbackIds = []) :
      AttemptAt servers primary primary primary
  | candidate {candidate : Server} {remainingMs : Nat}
      (grouped : ¬ (primary.id = 0 ∨ primary.fallbackIds = []))
      (member : candidate ∈ groupCandidates servers primary) :
      AttemptAt servers primary
        (attemptServer primary.route remainingMs candidate) candidate

/-- What one group exchange does with the transports: it makes attempts for
its primary, and a reply it returns is what one of them was answered. -/
structure GroupTried (env : GroupEnv) (servers : List Server)
    (primary : Server) (before after : GroupState) (outcome : GroupOutcome) :
    Prop where
  attempts : ∃ tried, after.contacted = before.contacted ++ tried ∧
    ∀ attempt ∈ tried, ∃ candidate, AttemptAt servers primary attempt candidate
  used : ∀ packet server, outcome = .ok (packet, server) →
    ∃ number attempt, AttemptAt servers primary attempt server ∧
      env.exchange number attempt = .ok packet

theorem exchangeGroup_tried {env : GroupEnv} {servers : List Server}
    {primary : Server} {before after : GroupState} {outcome : GroupOutcome}
    (run : exchangeGroup env servers primary before = (outcome, after)) :
    GroupTried env servers primary before after outcome := by
  unfold exchangeGroup at run
  by_cases alone : primary.id = 0 ∨ primary.fallbackIds = []
  · rw [if_pos alone] at run
    have one : ∀ attempt ∈ [primary], ∃ candidate,
        AttemptAt servers primary attempt candidate := by
      intro attempt member
      rw [List.mem_singleton.mp member]
      exact ⟨primary, .single alone⟩
    unfold GroupState.exchange at run
    split at run
    · rename_i packet state exchanged
      obtain ⟨answerEq, rfl⟩ := Prod.mk.inj exchanged
      obtain ⟨rfl, rfl⟩ := Prod.mk.inj run
      refine ⟨⟨[primary], rfl, one⟩, ?_⟩
      intro reply server answered
      cases answered
      exact ⟨_, primary, .single alone, answerEq⟩
    · rename_i thrown state exchanged
      obtain ⟨_, rfl⟩ := Prod.mk.inj exchanged
      obtain ⟨rfl, rfl⟩ := Prod.mk.inj run
      refine ⟨⟨[primary], rfl, one⟩, ?_⟩
      intro reply server answered
      cases answered
  · rw [if_neg alone] at run
    dsimp only at run
    split at run
    · obtain ⟨rfl, rfl⟩ := Prod.mk.inj run
      refine ⟨⟨[], (List.append_nil _).symm, by simp⟩, ?_⟩
      intro reply server answered
      cases answered
    · have ordered : ∀ server ∈ (rankCandidates env primary.route
          (groupCandidates servers primary) before.readClock).1,
          server ∈ groupCandidates servers primary := by
        intro server member
        exact (env.sorting.perm _ _).mem_iff.mp member
      have loop := tryCandidates_tried (fun server member => member) run
      obtain ⟨⟨tried, grown, each⟩, used⟩ := loop
      refine ⟨⟨tried, grown, ?_⟩, ?_⟩
      · intro attempt inTried
        obtain ⟨candidate, member, remainingMs, rfl⟩ := each attempt inTried
        exact ⟨candidate, .candidate alone (ordered candidate member)⟩
      · intro packet server answered
        obtain ⟨member, number, remainingMs, answerEq⟩ :=
          used packet server answered
        exact ⟨number, _, .candidate alone (ordered server member), answerEq⟩

end NativeDNS
