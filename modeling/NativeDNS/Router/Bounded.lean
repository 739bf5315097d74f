/-
Bounds of one fallback exchange: which members are tried, with what timeouts,
and what is left in the health map.
-/
import NativeDNS.Router.Attempts

namespace NativeDNS

open ByteText (text)
open CheckedResult
open DepthFirst

section Loop

variable {env : GroupEnv} {route : NetworkRoute} {candidates ordered : List Server}
  {deadline : Nat} {before after : GroupState} {attempts : List (Server × Nat)}
  {outcome : GroupOutcome}

theorem AttemptLoop.kept (quiet : env.Quiet)
    (loop : AttemptLoop env route candidates deadline ordered before attempts outcome after)
    (key : Bytes) (untried : ∀ attempt ∈ attempts, healthKey route attempt.1 ≠ key) :
    healthAt after.health key = healthAt before.health key := by
  have turned (state : GroupState) : (state.turned env).health = state.health :=
    quiet _ _
  induction loop with
  | exhausted =>
      rfl
  | late _ =>
      rfl
  | passes _ _ _ ih =>
      rw [ih untried, turned]
  | @answers candidate _ state _ _ _ _ =>
      obtain ⟨latency, entry⟩ := @recordSuccess_healthAt env route candidate
        (env.clock (state.readings + 2) - env.clock (state.readings + 1))
        (state.attempted env route deadline candidate).readClock quiet
      rw [entry, if_neg (untried _ List.mem_cons_self)]
      exact congrArg (healthAt · key) (turned state)
  | @stops _ _ state _ _ _ _ _ =>
      exact congrArg (healthAt · key) (turned state)
  | @fails _ _ state _ _ _ _ _ _ _ _ _ ih =>
      obtain ⟨here, later⟩ := List.forall_mem_cons.mp untried
      rw [ih later, recordFailure_healthAt quiet, if_neg here]
      exact congrArg (healthAt · key) (turned state)

/-- What a loop that found an answer leaves in the health map. -/
structure AnsweredBy (route : NetworkRoute) (before after : HealthMap)
    (attempts : List (Server × Nat)) (server : Server) : Prop where
  last : ∃ earlier reading, attempts = earlier ++ [(server, reading)]
  reset : ∃ latency, healthAt after (healthKey route server) =
    { consecutiveFailures := 0
      retryAfter := 0
      latencyMs := some latency }
  failed : ∀ attempt ∈ attempts, attempt.1.id ≠ server.id →
    (healthAt after (healthKey route attempt.1)).consecutiveFailures =
        (healthAt before (healthKey route attempt.1)).consecutiveFailures + 1 ∧
      (healthAt after (healthKey route attempt.1)).latencyMs =
        (healthAt before (healthKey route attempt.1)).latencyMs
  kept : ∀ key, (∀ attempt ∈ attempts, healthKey route attempt.1 ≠ key) →
    healthAt after key = healthAt before key

theorem failedEntry_counts (env : GroupEnv) (reading : Nat) (entry : Health) :
    (failedEntry env reading entry).consecutiveFailures = entry.consecutiveFailures + 1 ∧
      (failedEntry env reading entry).latencyMs = entry.latencyMs := by
  unfold failedEntry
  split
  · exact ⟨rfl, rfl⟩
  · exact ⟨rfl, rfl⟩

theorem AttemptLoop.answered {packet : Packet} {server : Server} (quiet : env.Quiet)
    (distinct : (ordered.map (·.id)).Nodup)
    (loop : AttemptLoop env route candidates deadline ordered before attempts
      (.ok (packet, server)) after) :
    AnsweredBy route before.health after.health attempts server := by
  have turned (state : GroupState) : (state.turned env).health = state.health :=
    quiet _ _
  have kept := loop.kept quiet
  generalize answered : (.ok (packet, server) : GroupOutcome) = outcome at loop
  induction loop with
  | exhausted =>
      cases answered
  | late _ =>
      cases answered
  | @passes _ _ state _ _ _ _ _ later ih =>
      have rest := ih (List.nodup_cons.mp distinct).2 (later.kept quiet) answered
      rw [turned] at rest
      exact rest
  | @answers candidate _ state _ _ _ _ =>
      cases answered
      obtain ⟨latency, entry⟩ := @recordSuccess_healthAt env route server
        (env.clock (state.readings + 2) - env.clock (state.readings + 1))
        (state.attempted env route deadline server).readClock quiet
      refine ⟨⟨[], _, rfl⟩, ⟨latency, by rw [entry, if_pos rfl]⟩, ?_, kept⟩
      exact List.forall_mem_singleton.mpr fun differ => absurd rfl differ
  | stops _ _ _ _ =>
      cases answered
  | @fails candidate rest state error attempts _ after _ _ _ _ later ih =>
      obtain ⟨fresh, restDistinct⟩ := List.nodup_cons.mp distinct
      obtain ⟨⟨earlier, reading, shape⟩, reset, failed, _⟩ :=
        ih restDistinct (later.kept quiet) answered
      have apart : ∀ attempt ∈ attempts,
          healthKey route candidate ≠ healthKey route attempt.1 := by
        intro attempt member same
        refine fresh ?_
        change candidate.id ∈ _
        rw [healthKey_inj.mp same]
        exact (later.sublist.map (·.id)).subset (List.mem_map_of_mem
          (List.mem_map_of_mem member))
      have behind := @recordFailure_healthAt env route candidate
        (state.attempted env route deadline candidate) quiet
      refine ⟨⟨(candidate, state.readings) :: earlier, reading, by rw [shape]; rfl⟩, reset,
        List.forall_mem_cons.mpr ⟨fun _ => ?_, fun attempt member differ => ?_⟩, kept⟩
      · rw [later.kept quiet _ fun attempt member => Ne.symm (apart attempt member), behind,
          if_pos rfl]
        have counts := failedEntry_counts env
          (state.attempted env route deadline candidate).readings
          (healthAt (state.attempted env route deadline candidate).health
            (healthKey route candidate))
        rw [counts.1, counts.2]
        exact ⟨congrArg (fun health => (healthAt health _).consecutiveFailures + 1)
          (turned state), congrArg (fun health => (healthAt health _).latencyMs)
            (turned state)⟩
      · have entry := failed attempt member differ
        rw [behind, if_neg (apart attempt member)] at entry
        exact ⟨entry.1.trans (congrArg (fun health =>
            (healthAt health _).consecutiveFailures + 1) (turned state)),
          entry.2.trans (congrArg (fun health => (healthAt health _).latencyMs)
            (turned state))⟩

theorem AttemptLoop.late_of_ready (quiet : env.Quiet) (steady : Monotone env.clock)
    (loop : AttemptLoop env route candidates deadline ordered before [] outcome after)
    (ready : ∃ server ∈ ordered,
      ¬ OpenAt before.health route (env.clock before.readings) server) :
    ∃ reading, before.readings ≤ reading ∧ reading < after.readings ∧
      deadline ≤ env.clock reading := by
  generalize none : ([] : List (Server × Nat)) = attempts at loop
  induction loop with
  | exhausted =>
      obtain ⟨_, member, _⟩ := ready
      cases member
  | @late _ _ state _ past =>
      exact ⟨state.readings, Nat.le_refl _, Nat.lt_succ_self _, past⟩
  | @passes _ _ state _ _ _ _ passed _ ih =>
      obtain ⟨server, member, notOpen⟩ := ready
      have health : (state.turned env).health = state.health := quiet _ _
      have readings : (state.turned env).readings = state.readings + 1 := rfl
      rcases List.mem_cons.mp member with rfl | later
      · exact absurd passed.1 notOpen
      · have still : ¬ OpenAt (state.turned env).health route
            (env.clock (state.turned env).readings) server := by
          intro opened
          rw [health, readings] at opened
          have waited := steady (Nat.le_succ state.readings)
          exact notOpen (Nat.lt_of_le_of_lt waited opened)
        obtain ⟨reading, after_, inside, past⟩ := ih ⟨server, later, still⟩ none
        exact ⟨reading, by omega, inside, past⟩
  | answers _ _ _ =>
      cases none
  | stops _ _ _ _ =>
      cases none
  | fails _ _ _ _ _ _ =>
      cases none

/-- A loop over all candidates without an attempt ran into the deadline: the
candidate that is ready when the first one is passed over has its turn later. -/
theorem AttemptLoop.late_of_none (quiet : env.Quiet) (steady : Monotone env.clock)
    (whole : ordered.Perm candidates) (nonempty : ordered ≠ [])
    (loop : AttemptLoop env route candidates deadline ordered before [] outcome after) :
    ∃ reading, before.readings ≤ reading ∧ reading < after.readings ∧
      deadline ≤ env.clock reading := by
  cases loop with
  | exhausted =>
      exact absurd rfl nonempty
  | late past =>
      exact ⟨before.readings, Nat.le_refl _, Nat.lt_succ_self _, past⟩
  | @passes candidate rest _ _ _ _ early passed later =>
      obtain ⟨server, member, other, notOpen⟩ := passed.2
      refine AttemptLoop.late_of_ready quiet steady (.passes early passed later)
        ⟨server, whole.mem_iff.mpr member, notOpen⟩

end Loop

/-! ### The whole exchange -/

/-- The end of the aggregate budget of a group. -/
def groupDeadline (env : GroupEnv) (servers : List Server) (primary : Server)
    (before : GroupState) : Nat :=
  env.clock before.readings +
    groupBudget (groupCandidates servers primary) * nanosPerMilli

/-- The health map a group starts with; a crowded one is given up. -/
def startingHealth (candidates : List Server) (health : HealthMap) : HealthMap :=
  if health.size + candidates.length > 8192 then OrderedMap.empty else health

/-- An attempt begins before the deadline.  Its timeout is the server's own,
cut to the whole milliseconds that are left, and at least one. -/
structure TimelyAttempt (env : GroupEnv) (route : NetworkRoute) (deadline : Nat)
    (candidate : Server) (reading : Nat) (attempt : Server) : Prop where
  server : attempt =
    attemptServer route ((deadline - env.clock reading) / nanosPerMilli) candidate
  early : env.clock reading < deadline
  timeout : attempt.timeoutMs.toNat =
    min candidate.timeoutMs.toNat (max 1 ((deadline - env.clock reading) / nanosPerMilli))
  positive : 1 ≤ attempt.timeoutMs.toNat

structure BoundedAttempts (env : GroupEnv) (servers : List Server) (primary : Server)
    (before after : GroupState) (outcome : GroupOutcome)
    (attempts : List (Server × Nat)) : Prop where
  contacted : ∃ tried, after.contacted = before.contacted ++ tried ∧
    List.Forall₂ (fun attempt server => TimelyAttempt env primary.route
      (groupDeadline env servers primary before) attempt.1 attempt.2 server)
      attempts tried
  once : (attempts.map (·.1.id)).Nodup
  members : ∀ attempt ∈ attempts,
    GroupMember servers primary attempt.1 ∧ attempt.1.enabled = true
  progress : attempts = [] →
    (∀ server, GroupMember servers primary server → server.enabled = false) ∨
      ∃ reading, before.readings + 2 ≤ reading ∧ reading < after.readings ∧
        groupDeadline env servers primary before ≤ env.clock reading
  answered : ∀ packet server, outcome = .ok (packet, server) →
    AnsweredBy primary.route
      (startingHealth (groupCandidates servers primary) before.health) after.health
      attempts server

/-- The expansion of a group, its budget and its attempts. -/
structure BoundedExchange (env : GroupEnv) (servers : List Server) (primary : Server)
    (before after : GroupState) (outcome : GroupOutcome) : Prop where
  expands : ∀ listed,
    Collects (·.id) (fallbackServers servers) [] [primary] listed ↔
      listed = groupMembers servers primary
  listedOnce : ((groupMembers servers primary).map (·.id)).Nodup
  listed : ∀ server, server ∈ groupMembers servers primary ↔
    GroupMember servers primary server
  budget : groupBudget (groupCandidates servers primary) ≤ 120000
  attempts : ∃ attempts,
    BoundedAttempts env servers primary before after outcome attempts

theorem groupBudget_le (candidates : List Server) : groupBudget candidates ≤ 120000 := by
  have bounded : ∀ (servers : List Server) (budget : Nat), budget ≤ 120000 →
      servers.foldl
        (fun budget server => min 120000 (budget + server.timeoutMs.toNat)) budget ≤
          120000 := by
    intro servers
    induction servers with
    | nil =>
        exact fun _ start => start
    | cons server rest ih =>
        exact fun budget _ => ih _ (Nat.min_le_left _ _)
  exact bounded candidates 0 (Nat.zero_le _)

theorem timelyAttempt {env : GroupEnv} {route : NetworkRoute} {deadline reading : Nat}
    {candidate : Server} (early : env.clock reading < deadline)
    (valid : candidate.timeoutMs ≠ 0) :
    TimelyAttempt env route deadline candidate reading
      (attemptServer route ((deadline - env.clock reading) / nanosPerMilli) candidate) := by
  have own : 1 ≤ candidate.timeoutMs.toNat := by
    refine Nat.pos_of_ne_zero fun zero => valid ?_
    exact UInt32.toNat_inj.mp zero
  have small := candidate.timeoutMs.toNat_lt
  have value : (attemptServer route ((deadline - env.clock reading) / nanosPerMilli)
      candidate).timeoutMs.toNat =
        min candidate.timeoutMs.toNat
          (max 1 ((deadline - env.clock reading) / nanosPerMilli)) := by
    change (UInt32.ofNat _).toNat = _
    rw [UInt32.toNat_ofNat']
    exact Nat.mod_eq_of_lt (Nat.lt_of_le_of_lt (Nat.min_le_left _ _) small)
  refine ⟨rfl, early, value, ?_⟩
  rw [value]
  exact Nat.le_min.mpr ⟨own, Nat.le_max_left _ _⟩

theorem AnsweredBy.of_healthAt {route : NetworkRoute} {before other after : HealthMap}
    {attempts : List (Server × Nat)} {server : Server}
    (same : ∀ key, healthAt before key = healthAt other key)
    (answered : AnsweredBy route before after attempts server) :
    AnsweredBy route other after attempts server where
  last := answered.last
  reset := answered.reset
  failed := fun attempt member differ => same _ ▸ answered.failed attempt member differ
  kept := fun key untried => (answered.kept key untried).trans (same key)

/-- A configured server on some route. -/
def ConfiguredPrimary (config : Config) (primary : Server) : Prop :=
  ∃ server ∈ config.servers, primary = { server with route := primary.route }

theorem GroupMember.configured {config : Config} {primary server : Server}
    (rooted : ConfiguredPrimary config primary)
    (member : GroupMember config.servers primary server) :
    ConfiguredPrimary config server := by
  rcases member with rfl | ⟨_, _, reached⟩
  · exact rooted
  · cases reached with
    | self found =>
        exact ⟨server, (findServer_some found).1, rfl⟩
    | fallback _ _ found =>
        exact ⟨server, (findServer_some found).1, rfl⟩

theorem ConfiguredPrimary.timeout {platform : Platform} {config : Config}
    {primary : Server} (accepted : validate platform config = .ok ())
    (rooted : ConfiguredPrimary config primary) : primary.timeoutMs ≠ 0 := by
  obtain ⟨server, member, same⟩ := rooted
  have checked := ((validate_valid accepted).servers server member).checked
  rw [same]
  exact (validateServer_eq_ok checked).1.1

/-- The order in which the candidates of a group are tried. -/
def groupOrder (env : GroupEnv) (servers : List Server) (primary : Server)
    (before : GroupState) : List Server :=
  (rankCandidates env primary.route (groupCandidates servers primary)
    before.readClock).1

theorem groupOrder_perm (env : GroupEnv) (servers : List Server) (primary : Server)
    (before : GroupState) :
    (groupOrder env servers primary before).Perm (groupCandidates servers primary) :=
  env.sorting.perm _ _

theorem groupOrder_nodup (env : GroupEnv) (servers : List Server) (primary : Server)
    (before : GroupState) :
    ((groupOrder env servers primary before).map (·.id)).Nodup :=
  ((groupOrder_perm env servers primary before).map _).nodup_iff.mpr
    (groupCandidates_nodup servers primary)

theorem exchangeGroup_loop {env : GroupEnv} {servers : List Server} {primary : Server}
    {before after : GroupState} {outcome : GroupOutcome} (quiet : env.Quiet)
    (grouped : ¬ (primary.id = 0 ∨ primary.fallbackIds = []))
    (nonempty : groupCandidates servers primary ≠ [])
    (run : exchangeGroup env servers primary before = (outcome, after)) :
    ∃ middle attempts, middle.readings = before.readings + 2 ∧
      middle.contacted = before.contacted ∧
      (∀ key, healthAt middle.health key = healthAt
        (startingHealth (groupCandidates servers primary) before.health) key) ∧
      AttemptLoop env primary.route (groupOrder env servers primary before)
        (groupDeadline env servers primary before)
        (groupOrder env servers primary before) middle attempts outcome after := by
  unfold exchangeGroup at run
  rw [if_neg grouped] at run
  dsimp only at run
  rw [if_neg nonempty] at run
  let ranked := rankCandidates env primary.route (groupCandidates servers primary)
    before.readClock
  have entries : HasEntries ranked.2.health primary.route ranked.1 := by
    intro server member
    have all := touchAll_entries primary.route (groupCandidates servers primary)
      (if (before.readClock.locked env).health.size +
          (groupCandidates servers primary).length > 8192 then OrderedMap.empty
        else (before.readClock.locked env).health)
    exact all server ((groupOrder_perm env servers primary before).mem_iff.mp member)
  obtain ⟨attempts, loop⟩ := tryCandidates_loop quiet (fun _ member => member) entries run
  refine ⟨ranked.2, attempts, rfl, rfl, fun key => ?_, loop⟩
  refine (touchAll_healthAt _ _ _ _).trans ?_
  have same : (before.readClock.locked env).readClock.health = before.health := quiet _ _
  unfold startingHealth
  rw [same]

/-- Undisturbed, an exchange for a server of an accepted configuration expands
its group, tries members in time and settles the entry of the one that
answered; a server without fallbacks is handed over as it is. -/
theorem exchangeGroup_bounded {platform : Platform} {config : Config} {env : GroupEnv}
    {primary : Server} {before after : GroupState} {outcome : GroupOutcome}
    (accepted : validate platform config = .ok ()) (quiet : env.Quiet)
    (steady : Monotone env.clock)
    (rooted : primary.id ≠ 0 → ConfiguredPrimary config primary)
    (run : exchangeGroup env config.servers primary before = (outcome, after)) :
    if primary.id = 0 ∨ primary.fallbackIds = [] then
      after.contacted = before.contacted ++ [primary] ∧ after.health = before.health
    else BoundedExchange env config.servers primary before after outcome := by
  split
  · rename_i alone
    unfold exchangeGroup at run
    rw [if_pos alone] at run
    unfold GroupState.exchange at run
    cases answer : env.exchange before.contacted.length primary with
    | ok packet =>
        rw [answer] at run
        cases run
        exact ⟨rfl, rfl⟩
    | error thrown =>
        rw [answer] at run
        cases run
        exact ⟨rfl, rfl⟩
  · rename_i grouped
    have root := rooted (not_or.mp grouped).1
    have acyclic : AcyclicGroup config.servers primary := by
      obtain ⟨server, member, same⟩ := root
      rw [same]
      exact validate_acyclicGroup accepted member primary.route
    have members (server : Server) :=
      @mem_groupCandidates_iff config.servers primary server acyclic
    refine
      { expands := fun listed =>
          ⟨fun run => run.unique (groupMembers_collects config.servers primary),
            fun same => same ▸ groupMembers_collects config.servers primary⟩
        listedOnce := groupMembers_nodup config.servers primary
        listed := fun server => mem_groupMembers_iff acyclic
        budget := groupBudget_le _
        attempts := ?_ }
    by_cases empty : groupCandidates config.servers primary = []
    · unfold exchangeGroup at run
      rw [if_neg grouped] at run
      dsimp only at run
      rw [if_pos empty] at run
      cases run
      refine ⟨[], ⟨[], (List.append_nil _).symm, .nil⟩, List.nodup_nil,
        fun _ member => absurd member List.not_mem_nil, fun _ => Or.inl ?_, ?_⟩
      · intro server member
        cases enabled : server.enabled with
        | false =>
            rfl
        | true =>
            have listed := (members server).mpr ⟨member, enabled⟩
            rw [empty] at listed
            cases listed
      · intro packet server impossible
        cases impossible
    obtain ⟨middle, attempts, readings, contacted, health, loop⟩ :=
      exchangeGroup_loop quiet grouped empty run
    have order := loop.sublist
    have perm := groupOrder_perm env config.servers primary before
    have distinct := groupOrder_nodup env config.servers primary before
    have candidate : ∀ attempt ∈ attempts,
        attempt.1 ∈ groupCandidates config.servers primary := fun attempt member =>
      perm.mem_iff.mp (order.subset (List.mem_map_of_mem member))
    have inTime := (loop.readings quiet).2
    refine ⟨attempts, ⟨_, contacted ▸ loop.contacted, ?_⟩, ?_, fun attempt member =>
      (members attempt.1).mp (candidate attempt member), fun none => Or.inr ?_, ?_⟩
    · rw [List.forall₂_map_right_iff, List.forall₂_same]
      intro attempt member
      exact timelyAttempt (inTime attempt member).2.2
        (((members attempt.1).mp (candidate attempt member)).1.configured root
          |>.timeout accepted)
    · have ids := distinct.sublist (order.map (·.id))
      rwa [List.map_map] at ids
    · subst none
      have someOrdered : groupOrder env config.servers primary before ≠ [] := fun none => by
        rw [none] at perm
        exact empty perm.nil_eq.symm
      obtain ⟨reading, late, inside, past⟩ :=
        loop.late_of_none quiet steady (List.Perm.refl _) someOrdered
      exact ⟨reading, readings ▸ late, inside, past⟩
    · rintro packet server rfl
      exact (loop.answered quiet distinct).of_healthAt health

/-! ### A group of two -/

def pairPrimary : Server :=
  { id := 1
    name := text "a"
    ip := text "192.0.2.1"
    timeoutMs := 1
    fallbackIds := [2] }

def pairConfig : Config :=
  { defaultConfig with
    servers :=
      [pairPrimary, { id := 2, name := text "b", ip := text "192.0.2.2", timeoutMs := 1 }] }

theorem pairConfig_accepted : validate ipv4Platform pairConfig = .ok () := by
  rfl

def timeoutEnv (clock : Nat → Nat) : GroupEnv where
  clock := clock
  interfere _ health := health
  exchange _ _ := .error (.error (.of "TIMEOUT" "No reply"))
  sorting := .insertion

theorem timeoutEnv_quiet (clock : Nat → Nat) : (timeoutEnv clock).Quiet :=
  fun _ _ => rfl

theorem exchangeGroup_bounded_pair :
    validate ipv4Platform pairConfig = .ok () ∧
      (timeoutEnv fun _ => 0).Quiet ∧ Monotone (timeoutEnv fun _ => 0).clock ∧
      ConfiguredPrimary pairConfig pairPrimary ∧
      BoundedExchange (timeoutEnv fun _ => 0) pairConfig.servers pairPrimary
        { health := OrderedMap.empty }
        (exchangeGroup (timeoutEnv fun _ => 0) pairConfig.servers pairPrimary
          { health := OrderedMap.empty }).2
        (exchangeGroup (timeoutEnv fun _ => 0) pairConfig.servers pairPrimary
          { health := OrderedMap.empty }).1 := by
  have rooted : ConfiguredPrimary pairConfig pairPrimary :=
    ⟨pairPrimary, List.mem_cons_self, rfl⟩
  have steady : Monotone (timeoutEnv fun _ => 0).clock := fun _ _ _ => Nat.le_refl 0
  have bounded := exchangeGroup_bounded pairConfig_accepted (timeoutEnv_quiet fun _ => 0)
    steady (fun _ => rooted) (@Prod.mk.eta _ _ (exchangeGroup (timeoutEnv fun _ => 0)
      pairConfig.servers pairPrimary { health := OrderedMap.empty })).symm
  rw [if_neg (by decide)] at bounded
  exact ⟨pairConfig_accepted, timeoutEnv_quiet _, steady, rooted, bounded⟩

/-- The first turn begins in time, the second too late. -/
def lateClock (reading : Nat) : Nat :=
  if reading < 2 then 0 else if reading < 3 then 1000000 else 3000000

/-- The first turn begins half a millisecond before the deadline. -/
def hurriedClock (reading : Nat) : Nat :=
  if reading < 2 then 0 else 1500000

/-- Both circuits are open at the ranking; the second is about to expire. -/
def waitingHealth : HealthMap :=
  (OrderedMap.empty.insert (healthKey {} { id := 1 })
      { consecutiveFailures := 2, retryAfter := 1000000000 }).insert
    (healthKey {} { id := 2 }) { consecutiveFailures := 2, retryAfter := 500000 }

/-- The first candidate is passed over for the second, whose turn comes too
late, so that nobody is tried; an attempt may get a millisecond of which half
is left; and a disabled server without fallbacks reaches its transport. -/
theorem exchangeGroup_unbounded :
    (validate ipv4Platform pairConfig = .ok () ∧ (timeoutEnv lateClock).Quiet ∧
        Monotone lateClock ∧
        lateClock 2 < groupDeadline (timeoutEnv lateClock) pairConfig.servers pairPrimary
          { health := waitingHealth } ∧
        (exchangeGroup (timeoutEnv lateClock) pairConfig.servers pairPrimary
          { health := waitingHealth }).2.contacted = []) ∧
      (Monotone hurriedClock ∧
        groupDeadline (timeoutEnv hurriedClock) pairConfig.servers pairPrimary
            { health := OrderedMap.empty } = hurriedClock 2 + 500000 ∧
        (exchangeGroup (timeoutEnv hurriedClock) pairConfig.servers pairPrimary
            { health := OrderedMap.empty }).2.contacted.head?.map (·.timeoutMs) =
          some 1) ∧
      (exchangeGroup (timeoutEnv fun _ => 0) [] { id := 3, enabled := false }
        { health := OrderedMap.empty }).2.contacted = [{ id := 3, enabled := false }] := by
  have late : Monotone lateClock := by
    intro i j before
    unfold lateClock
    split_ifs <;> omega
  have hurried : Monotone hurriedClock := by
    intro i j before
    unfold hurriedClock
    split_ifs <;> omega
  exact ⟨⟨pairConfig_accepted, timeoutEnv_quiet _, late, by decide +kernel,
      by decide +kernel⟩, ⟨hurried, by decide +kernel, by decide +kernel⟩,
    by decide +kernel⟩

end NativeDNS
