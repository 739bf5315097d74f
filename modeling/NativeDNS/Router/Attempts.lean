/-
The attempts of one fallback exchange that no other caller disturbs.

The loop is described by what each turn does: the deadline has passed, the
candidate is passed over for another one, or it is tried and answers, ends the
exchange, or fails.
-/
import NativeDNS.Router.Members
import NativeDNS.Router.Ranking

namespace NativeDNS

/-- No other caller touches the health map. -/
def GroupEnv.Quiet (env : GroupEnv) : Prop :=
  ∀ number health, env.interfere number health = health

/-- The circuit of a server has not expired yet. -/
def OpenAt (health : HealthMap) (route : NetworkRoute) (now : Nat)
    (server : Server) : Prop :=
  now < (healthAt health (healthKey route server)).retryAfter

def OtherReady (health : HealthMap) (route : NetworkRoute) (now : Nat)
    (candidates : List Server) (candidate : Server) : Prop :=
  ∃ server ∈ candidates, server.id ≠ candidate.id ∧ ¬ OpenAt health route now server

def HasEntries (health : HealthMap) (route : NetworkRoute)
    (candidates : List Server) : Prop :=
  ∀ server ∈ candidates, ∃ entry, health.find? (healthKey route server) = some entry

/-! ### Health entries -/

theorem healthKey_inj {route : NetworkRoute} {left right : Server} :
    healthKey route left = healthKey route right ↔ left.id = right.id := by
  constructor
  · intro same
    exact UInt32.toNat_inj.mp
      (ByteText.decimal_injective (List.append_cancel_right same))
  · intro same
    rw [healthKey, healthKey, same]

theorem touch_of_entry {health : HealthMap} {key : Bytes} {entry : Health}
    (present : health.find? key = some entry) : touch health key = health := by
  rw [touch, present]

theorem healthAt_insert (health : HealthMap) (key other : Bytes) (entry : Health) :
    healthAt (health.insert key entry) other =
      if key = other then entry else healthAt health other := by
  unfold healthAt
  rw [OrderedMap.find?_insert]
  split
  · rfl
  · rfl

theorem HasEntries.insert {health : HealthMap} {route : NetworkRoute}
    {candidates : List Server} (entries : HasEntries health route candidates)
    (key : Bytes) (entry : Health) :
    HasEntries (health.insert key entry) route candidates := by
  intro server member
  obtain ⟨old, present⟩ := entries server member
  rw [OrderedMap.find?_insert]
  split
  · exact ⟨entry, rfl⟩
  · exact ⟨old, present⟩

theorem touch_entry (health : HealthMap) (key : Bytes) :
    ∃ entry, (touch health key).find? key = some entry := by
  unfold touch
  cases present : health.find? key with
  | some entry =>
      exact ⟨entry, present⟩
  | none =>
      exact ⟨{}, by rw [OrderedMap.find?_insert, if_pos rfl]⟩

theorem touch_keeps {health : HealthMap} {key other : Bytes} {entry : Health}
    (present : health.find? other = some entry) :
    (touch health key).find? other = some entry := by
  unfold touch
  cases found : health.find? key with
  | some _ =>
      exact present
  | none =>
      rw [OrderedMap.find?_insert, if_neg, present]
      rintro rfl
      rw [present] at found
      cases found

theorem healthAt_touch (health : HealthMap) (key other : Bytes) :
    healthAt (touch health key) other = healthAt health other := by
  unfold touch
  cases found : health.find? key with
  | some _ =>
      rfl
  | none =>
      change healthAt (health.insert key {}) other = _
      rw [healthAt_insert]
      split
      · rename_i same
        rw [healthAt, ← same, found]
        rfl
      · rfl

theorem touchAll_keeps {route : NetworkRoute} {servers : List Server}
    {health : HealthMap} {key : Bytes} {entry : Health}
    (present : health.find? key = some entry) :
    (servers.foldl (fun health server => touch health (healthKey route server))
      health).find? key = some entry := by
  induction servers generalizing health with
  | nil =>
      exact present
  | cons first rest ih =>
      exact ih (touch_keeps present)

theorem touchAll_entries (route : NetworkRoute) (servers : List Server)
    (health : HealthMap) :
    HasEntries
      (servers.foldl (fun health server => touch health (healthKey route server))
        health) route servers := by
  induction servers generalizing health with
  | nil =>
      exact fun _ member => absurd member List.not_mem_nil
  | cons first rest ih =>
      refine List.forall_mem_cons.mpr ⟨?_, ih _⟩
      obtain ⟨entry, present⟩ := touch_entry health (healthKey route first)
      exact ⟨entry, @touchAll_keeps route rest _ _ _ present⟩

theorem touchAll_healthAt (route : NetworkRoute) (servers : List Server)
    (health : HealthMap) (key : Bytes) :
    healthAt
      (servers.foldl (fun health server => touch health (healthKey route server))
        health) key = healthAt health key := by
  induction servers generalizing health with
  | nil =>
      rfl
  | cons first rest ih =>
      rw [List.foldl_cons, ih, healthAt_touch]

/-! ### One turn -/

def GroupState.turned (env : GroupEnv) (state : GroupState) : GroupState :=
  state.readClock.locked env

def turnServer (env : GroupEnv) (route : NetworkRoute) (deadline : Nat)
    (state : GroupState) (candidate : Server) : Server :=
  attemptServer route ((deadline - env.clock state.readings) / nanosPerMilli) candidate

def GroupState.attempted (env : GroupEnv) (route : NetworkRoute) (deadline : Nat)
    (candidate : Server) (state : GroupState) : GroupState :=
  { (state.turned env).readClock with
    contacted := state.contacted ++ [turnServer env route deadline state candidate] }

/-- The candidate is left out because another one may be tried. -/
def PassedOver (env : GroupEnv) (route : NetworkRoute) (candidates : List Server)
    (state : GroupState) (candidate : Server) : Prop :=
  OpenAt state.health route (env.clock state.readings) candidate ∧
    OtherReady state.health route (env.clock state.readings) candidates candidate

/-- The attempt loop, one constructor for each way a turn goes.  The attempts
are listed with the clock reading their turn began with. -/
inductive AttemptLoop (env : GroupEnv) (route : NetworkRoute)
    (candidates : List Server) (deadline : Nat) :
    List Server → GroupState → List (Server × Nat) → GroupOutcome → GroupState →
      Prop where
  | exhausted {state last} :
      AttemptLoop env route candidates deadline [] state []
        (.error (groupExhausted last)) state
  | late {candidate rest state last} (past : deadline ≤ env.clock state.readings) :
      AttemptLoop env route candidates deadline (candidate :: rest) state []
        (.error (groupExhausted last)) state.readClock
  | passes {candidate rest state attempts outcome after}
      (early : env.clock state.readings < deadline)
      (passed : PassedOver env route candidates state candidate)
      (later : AttemptLoop env route candidates deadline rest (state.turned env)
        attempts outcome after) :
      AttemptLoop env route candidates deadline (candidate :: rest) state attempts
        outcome after
  | answers {candidate rest state packet} (early : env.clock state.readings < deadline)
      (turn : ¬ PassedOver env route candidates state candidate)
      (answer : env.exchange state.contacted.length
        (turnServer env route deadline state candidate) = .ok packet) :
      AttemptLoop env route candidates deadline (candidate :: rest) state
        [(candidate, state.readings)] (.ok (packet, candidate))
        (recordSuccess env route candidate
          (env.clock (state.readings + 2) - env.clock (state.readings + 1))
          (state.attempted env route deadline candidate).readClock)
  | stops {candidate rest state thrown} (early : env.clock state.readings < deadline)
      (turn : ¬ PassedOver env route candidates state candidate)
      (failure : env.exchange state.contacted.length
        (turnServer env route deadline state candidate) = .error thrown)
      (final : ∀ error, thrown = .error error → error.code = "CANCELLED") :
      AttemptLoop env route candidates deadline (candidate :: rest) state
        [(candidate, state.readings)] (.error thrown)
        (state.attempted env route deadline candidate)
  | fails {candidate rest state error attempts outcome after}
      (early : env.clock state.readings < deadline)
      (turn : ¬ PassedOver env route candidates state candidate)
      (failure : env.exchange state.contacted.length
        (turnServer env route deadline state candidate) = .error (.error error))
      (goesOn : error.code ≠ "CANCELLED")
      (later : AttemptLoop env route candidates deadline rest
        (recordFailure env route candidate
          (state.attempted env route deadline candidate)) attempts outcome after) :
      AttemptLoop env route candidates deadline (candidate :: rest) state
        ((candidate, state.readings) :: attempts) outcome after

theorem locked_quiet {env : GroupEnv} (quiet : env.Quiet) (state : GroupState) :
    (state.locked env).health = state.health :=
  quiet _ _

theorem anotherReady_eq {route : NetworkRoute} {candidate : Server} {now : Nat}
    {health : HealthMap} {servers : List Server}
    (entries : HasEntries health route servers) :
    (anotherReady route candidate now health servers).2 = health ∧
      ((anotherReady route candidate now health servers).1 = true ↔
        OtherReady health route now servers candidate) := by
  induction servers with
  | nil =>
      refine ⟨rfl, iff_of_false Bool.false_ne_true ?_⟩
      rintro ⟨_, member, _⟩
      cases member
  | cons server rest ih =>
      have restEntries : HasEntries health route rest :=
        fun other member => entries other (List.mem_cons_of_mem server member)
      obtain ⟨kept, found⟩ := ih restEntries
      obtain ⟨entry, present⟩ := entries server List.mem_cons_self
      have behind (notHere : ¬ (server.id ≠ candidate.id ∧
          ¬ OpenAt health route now server)) :
          OtherReady health route now (server :: rest) candidate ↔
            OtherReady health route now rest candidate := by
        constructor
        · rintro ⟨other, member, ready⟩
          rcases List.mem_cons.mp member with rfl | later
          · exact absurd ready notHere
          · exact ⟨other, later, ready⟩
        · rintro ⟨other, member, ready⟩
          exact ⟨other, List.mem_cons_of_mem server member, ready⟩
      unfold anotherReady
      by_cases same : server.id = candidate.id
      · rw [if_pos same, behind fun ready => ready.1 same]
        exact ⟨kept, found⟩
      rw [if_neg same]
      dsimp only
      rw [touch_of_entry present]
      by_cases ready : (healthAt health (healthKey route server)).retryAfter ≤ now
      · rw [if_pos ready]
        exact ⟨rfl, iff_of_true rfl
          ⟨server, List.mem_cons_self, same, Nat.not_lt.mpr ready⟩⟩
      · rw [if_neg ready, behind fun other => other.2 (Nat.lt_of_not_le ready)]
        exact ⟨kept, found⟩

theorem recordFailure_entries {env : GroupEnv} {route : NetworkRoute}
    {candidates : List Server} {candidate : Server} {state : GroupState}
    (quiet : env.Quiet) (entries : HasEntries state.health route candidates) :
    HasEntries (recordFailure env route candidate state).health route candidates := by
  unfold recordFailure
  dsimp only
  split
  · rw [locked_quiet quiet]
    exact entries.insert _ _
  · rw [locked_quiet quiet]
    exact entries.insert _ _

theorem tryCandidates_loop {env : GroupEnv} {route : NetworkRoute}
    {candidates ordered : List Server} {deadline : Nat} {last : Error}
    {before after : GroupState} {outcome : GroupOutcome} (quiet : env.Quiet)
    (subset : ∀ server ∈ ordered, server ∈ candidates)
    (entries : HasEntries before.health route candidates)
    (run : tryCandidates env route candidates deadline ordered last before =
      (outcome, after)) :
    ∃ attempts,
      AttemptLoop env route candidates deadline ordered before attempts outcome after := by
  induction ordered generalizing last before with
  | nil =>
      cases run
      exact ⟨[], .exhausted⟩
  | cons candidate rest ih =>
      obtain ⟨member, later⟩ := List.forall_mem_cons.mp subset
      unfold tryCandidates at run
      dsimp only at run
      by_cases past : env.clock before.readings ≥ deadline
      · rw [if_pos past] at run
        cases run
        exact ⟨[], .late past⟩
      rw [if_neg past] at run
      have early := Nat.lt_of_not_le past
      have unchanged : (before.readClock.locked env).health = before.health :=
        quiet _ _
      obtain ⟨kept, found⟩ := @anotherReady_eq route candidate
        (env.clock before.readings) before.health candidates entries
      obtain ⟨entry, present⟩ := entries candidate member
      rw [unchanged, kept, touch_of_entry present] at run
      have same : { before.readClock.locked env with health := before.health } =
          before.turned env := by
        rw [← unchanged]
        rfl
      rw [same] at run
      have turnIff : ((healthAt before.health (healthKey route candidate)).retryAfter >
            env.clock before.readings ∧
          (anotherReady route candidate (env.clock before.readings) before.health
            candidates).1 = true) ↔ PassedOver env route candidates before candidate :=
        and_congr Iff.rfl found
      have turnedEntries : HasEntries (before.turned env).health route candidates := by
        rw [← same]
        exact entries
      by_cases passed : PassedOver env route candidates before candidate
      · rw [if_pos (turnIff.mpr passed)] at run
        obtain ⟨attempts, loop⟩ := ih later turnedEntries run
        exact ⟨attempts, .passes early passed loop⟩
      rw [if_neg fun also => passed (turnIff.mp also)] at run
      unfold GroupState.exchange at run
      cases exchanged : env.exchange before.contacted.length
          (turnServer env route deadline before candidate) with
      | ok packet =>
          have answer := exchanged
          unfold turnServer at exchanged
          simp only [GroupState.turned, readClock_contacted, locked_contacted] at run
          rw [exchanged] at run
          cases run
          exact ⟨_, .answers early passed answer⟩
      | error thrown =>
          have failure := exchanged
          unfold turnServer at exchanged
          simp only [GroupState.turned, readClock_contacted, locked_contacted] at run
          rw [exchanged] at run
          cases thrown with
          | exception what =>
              cases run
              exact ⟨_, .stops early passed failure fun _ impossible => by cases impossible⟩
          | error error =>
              dsimp only at run
              split at run
              · rename_i cancelled
                cases run
                refine ⟨_, .stops early passed failure fun _ same => ?_⟩
                cases same
                exact cancelled
              · rename_i goesOn
                have attemptedEntries : HasEntries
                    (before.attempted env route deadline candidate).health route
                    candidates := turnedEntries
                obtain ⟨attempts, loop⟩ := ih later
                  (recordFailure_entries quiet attemptedEntries) run
                exact ⟨_, .fails early passed failure goesOn loop⟩

/-! ### What a turn records -/

/-- Nanoseconds until the next probe after consecutive failures. -/
def backoff (failures : UInt32) : Nat :=
  (30 <<< min (failures.toNat - 2) 3) * nanosPerSecond

/-- An entry after one more failure; `reading` is the next clock reading. -/
def failedEntry (env : GroupEnv) (reading : Nat) (entry : Health) : Health :=
  if entry.consecutiveFailures + 1 ≥ 2 then
    { entry with
      consecutiveFailures := entry.consecutiveFailures + 1
      retryAfter := env.clock reading + backoff (entry.consecutiveFailures + 1) }
  else
    { entry with consecutiveFailures := entry.consecutiveFailures + 1 }

theorem recordFailure_healthAt {env : GroupEnv} {route : NetworkRoute}
    {candidate : Server} {state : GroupState} (quiet : env.Quiet) (key : Bytes) :
    healthAt (recordFailure env route candidate state).health key =
      if healthKey route candidate = key then
        failedEntry env state.readings (healthAt state.health (healthKey route candidate))
      else healthAt state.health key := by
  unfold recordFailure failedEntry
  dsimp only
  rw [locked_quiet quiet]
  split
  · rw [healthAt_insert]
    rfl
  · rw [healthAt_insert]

theorem recordFailure_readings {env : GroupEnv} {route : NetworkRoute}
    {candidate : Server} {state : GroupState} (quiet : env.Quiet) :
    (recordFailure env route candidate state).readings =
      state.readings +
        if (healthAt state.health (healthKey route candidate)).consecutiveFailures + 1 ≥ 2
        then 1 else 0 := by
  unfold recordFailure
  dsimp only
  rw [locked_quiet quiet]
  split
  · rfl
  · rfl

theorem recordSuccess_healthAt {env : GroupEnv} {route : NetworkRoute}
    {candidate : Server} {elapsed : Nat} {state : GroupState} (quiet : env.Quiet) :
    ∃ latency, ∀ key,
      healthAt (recordSuccess env route candidate elapsed state).health key =
        if healthKey route candidate = key then
          { consecutiveFailures := 0
            retryAfter := 0
            latencyMs := some latency }
        else healthAt state.health key := by
  unfold recordSuccess
  dsimp only
  rw [locked_quiet quiet]
  exact ⟨_, fun key => healthAt_insert _ _ _ _⟩

/-! ### What holds of every loop -/

section Loop

variable {env : GroupEnv} {route : NetworkRoute} {candidates ordered : List Server}
  {deadline : Nat} {before after : GroupState} {attempts : List (Server × Nat)}
  {outcome : GroupOutcome}

theorem AttemptLoop.sublist
    (loop : AttemptLoop env route candidates deadline ordered before attempts outcome after) :
    (attempts.map Prod.fst).Sublist ordered := by
  induction loop with
  | exhausted =>
      exact .slnil
  | late _ =>
      exact List.nil_sublist _
  | passes _ _ _ ih =>
      exact ih.cons _
  | answers _ _ _ =>
      exact (List.nil_sublist _).cons_cons _
  | stops _ _ _ _ =>
      exact (List.nil_sublist _).cons_cons _
  | fails _ _ _ _ _ ih =>
      exact ih.cons_cons _

theorem AttemptLoop.contacted
    (loop : AttemptLoop env route candidates deadline ordered before attempts outcome after) :
    after.contacted = before.contacted ++ attempts.map fun attempt =>
      attemptServer route ((deadline - env.clock attempt.2) / nanosPerMilli)
        attempt.1 := by
  induction loop with
  | exhausted =>
      exact (List.append_nil _).symm
  | late _ =>
      exact (List.append_nil _).symm
  | passes _ _ _ ih =>
      exact ih
  | answers _ _ _ =>
      rfl
  | stops _ _ _ _ =>
      rfl
  | fails _ _ _ _ _ ih =>
      rw [ih, recordFailure_contacted, List.map_cons]
      exact List.append_assoc _ [_] _

theorem AttemptLoop.readings (quiet : env.Quiet)
    (loop : AttemptLoop env route candidates deadline ordered before attempts outcome after) :
    before.readings ≤ after.readings ∧
      ∀ attempt ∈ attempts, before.readings ≤ attempt.2 ∧
        attempt.2 < after.readings ∧ env.clock attempt.2 < deadline := by
  induction loop with
  | exhausted =>
      exact ⟨Nat.le_refl _, fun _ member => absurd member List.not_mem_nil⟩
  | late _ =>
      exact ⟨Nat.le_succ _, fun _ member => absurd member List.not_mem_nil⟩
  | @passes _ _ state _ _ _ _ _ _ ih =>
      have step : (state.turned env).readings = state.readings + 1 := rfl
      rw [step] at ih
      refine ⟨by omega, fun attempt member => ?_⟩
      obtain ⟨later, inside, early⟩ := ih.2 attempt member
      exact ⟨by omega, inside, early⟩
  | @answers _ _ state _ early _ _ =>
      refine ⟨Nat.le_add_right _ 3, List.forall_mem_singleton.mpr ?_⟩
      exact ⟨Nat.le_refl _, Nat.lt_add_of_pos_right (by decide : 0 < 3), early⟩
  | stops early _ _ _ =>
      refine ⟨Nat.le_add_right _ 2, List.forall_mem_singleton.mpr ?_⟩
      exact ⟨Nat.le_refl _, Nat.lt_add_of_pos_right (by decide : 0 < 2), early⟩
  | @fails candidate _ state _ _ _ _ early _ _ _ _ ih =>
      have step : (recordFailure env route candidate
          (state.attempted env route deadline candidate)).readings ≥
            state.readings + 2 := by
        rw [recordFailure_readings quiet]
        exact Nat.le_add_right _ _
      refine ⟨by omega, List.forall_mem_cons.mpr
        ⟨⟨Nat.le_refl _, by omega, early⟩, fun attempt member => ?_⟩⟩
      obtain ⟨later, inside, soon⟩ := ih.2 attempt member
      exact ⟨by omega, inside, soon⟩

end Loop

end NativeDNS
