/-
When a fallback exchange that runs out of candidates has tried them all.

A candidate whose circuit is open is left out while another candidate's is
not.  As long as nobody has been left out, the readings and the health entries
at a turn follow from those of the ranking: every earlier candidate has failed
once more.
-/
import NativeDNS.Router.Bounded

namespace NativeDNS

open ByteText (text)

section Turns

variable (env : GroupEnv) (route : NetworkRoute) (health : HealthMap) (base : Nat)

/-- The clock readings of a turn that fails: two, and one more when the
failure opens the circuit. -/
def turnCost (candidate : Server) : Nat :=
  2 +
    if (healthAt health (healthKey route candidate)).consecutiveFailures + 1 ≥ 2 then 1
    else 0

def turnReading (earlier : List Server) : Nat :=
  base + (earlier.map (turnCost route health)).sum

/-- The end of a circuit after the turn of its server has failed. -/
def reopensAt (earlier : List Server) (candidate : Server) : Nat :=
  (failedEntry env (turnReading route health base earlier + 2)
    (healthAt health (healthKey route candidate))).retryAfter

/-- A candidate whose circuit is open at its turn finds every other circuit
open: those of the earlier ones by their failure, those of the later ones as
they were. -/
def Justified (front : List Server) (candidate : Server) (rest : List Server) : Prop :=
  OpenAt health route (env.clock (turnReading route health base front)) candidate →
    (∀ earlier failed between, front = earlier ++ failed :: between →
      env.clock (turnReading route health base front) <
        reopensAt env route health base earlier failed) ∧
    ∀ later ∈ rest,
      OpenAt health route (env.clock (turnReading route health base front)) later

/-- Nobody is passed over, in the order of the ranking. -/
def NobodyPassedOver (ordered : List Server) : Prop :=
  ∀ front candidate rest, ordered = front ++ candidate :: rest →
    Justified env route health base front candidate rest

/-- The state of the loop when all earlier candidates have failed. -/
structure AfterFailures (front : List Server) (state : GroupState) : Prop where
  readings : state.readings = turnReading route health base front
  failed : ∀ earlier failed between, front = earlier ++ failed :: between →
    (healthAt state.health (healthKey route failed)).retryAfter =
      reopensAt env route health base earlier failed
  fresh : ∀ key, (∀ failed ∈ front, healthKey route failed ≠ key) →
    healthAt state.health key = healthAt health key

end Turns

section Loop

variable {env : GroupEnv} {route : NetworkRoute} {health : HealthMap} {base : Nat}
  {candidates front rest : List Server} {candidate : Server} {deadline : Nat}
  {state : GroupState}

theorem AfterFailures.step (quiet : env.Quiet)
    (reached : AfterFailures env route health base front state)
    (fresh : ∀ failed ∈ front, healthKey route failed ≠ healthKey route candidate) :
    AfterFailures env route health base (front ++ [candidate])
      (recordFailure env route candidate
        (state.attempted env route deadline candidate)) := by
  have same : (state.attempted env route deadline candidate).health = state.health :=
    quiet _ _
  have readings : (state.attempted env route deadline candidate).readings =
      turnReading route health base front + 2 := by
    rw [← reached.readings]
    rfl
  have entry := reached.fresh _ fresh
  refine ⟨?_, ?_, ?_⟩
  · rw [recordFailure_readings quiet, readings, same, entry, turnReading, turnReading,
      List.map_append, List.sum_append, List.map_singleton, List.sum_singleton, turnCost]
    omega
  · intro earlier failed between split
    rw [recordFailure_healthAt quiet, readings, same, entry]
    rcases List.append_eq_append_iff.mp split with
      ⟨gap, grown, last⟩ | ⟨gap, shape, last⟩
    · cases gap with
      | nil =>
          rw [List.append_nil] at grown
          subst grown
          cases last
          rw [if_pos rfl]
          rfl
      | cons _ gap =>
          have lengths := congrArg List.length last
          rw [List.length_singleton, List.cons_append, List.length_cons, List.length_append,
            List.length_cons] at lengths
          omega
    · cases gap with
      | nil =>
          rw [List.append_nil] at shape
          subst shape
          cases last
          rw [if_pos rfl]
          rfl
      | cons first gap =>
          obtain ⟨rfl, _⟩ := List.cons.inj last
          rw [if_neg (Ne.symm (fresh failed (shape ▸ List.mem_append_right _
            List.mem_cons_self))), reached.failed earlier failed gap shape]
  · intro key untried
    rw [List.forall_mem_append] at untried
    rw [recordFailure_healthAt quiet, if_neg (untried.2 candidate List.mem_cons_self), same,
      reached.fresh key untried.1]

theorem AfterFailures.passedOver_iff
    (reached : AfterFailures env route health base front state)
    (whole : (front ++ candidate :: rest).Perm candidates)
    (distinct : ((front ++ candidate :: rest).map (·.id)).Nodup) :
    ¬ PassedOver env route candidates state candidate ↔
      Justified env route health base front candidate rest := by
  have apart : ∀ {left right : Server}, left.id ≠ right.id →
      healthKey route left ≠ healthKey route right :=
    fun differ same => differ (healthKey_inj.mp same)
  rw [List.map_append, List.map_cons, List.nodup_append] at distinct
  obtain ⟨_, later, disjoint⟩ := distinct
  have freshCandidate : ∀ failed ∈ front, failed.id ≠ candidate.id := fun failed member =>
    disjoint _ (List.mem_map_of_mem member) _ List.mem_cons_self
  have freshRest : ∀ other ∈ rest, ∀ failed ∈ front, failed.id ≠ other.id :=
    fun other inRest failed member => disjoint _ (List.mem_map_of_mem member) _
      (List.mem_cons_of_mem _ (List.mem_map_of_mem inRest))
  have restCandidate : ∀ other ∈ rest, other.id ≠ candidate.id := fun other inRest same =>
    (List.nodup_cons.mp later).1 (same ▸ List.mem_map_of_mem inRest)
  have asRanked {other : Server} (fresh : ∀ failed ∈ front, failed.id ≠ other.id) :
      OpenAt state.health route (env.clock state.readings) other ↔
        OpenAt health route (env.clock (turnReading route health base front)) other := by
    rw [OpenAt, OpenAt, reached.readings,
      reached.fresh _ fun failed member => apart (fresh failed member)]
  constructor
  · intro turn opened
    have closed : ∀ server ∈ candidates, server.id ≠ candidate.id →
        OpenAt state.health route (env.clock state.readings) server := by
      intro server member differ
      by_contra ready
      exact turn ⟨(asRanked freshCandidate).mpr opened, server, member, differ, ready⟩
    refine ⟨fun earlier failed between split => ?_, fun other inRest => ?_⟩
    · have inFront : failed ∈ front := split ▸ List.mem_append_right _ List.mem_cons_self
      have open_ := closed failed (whole.mem_iff.mp (List.mem_append_left _ inFront))
        (freshCandidate failed inFront)
      rwa [OpenAt, reached.failed earlier failed between split, reached.readings] at open_
    · exact (asRanked (freshRest other inRest)).mp (closed other
        (whole.mem_iff.mp (List.mem_append_right _ (List.mem_cons_of_mem _ inRest)))
        (restCandidate other inRest))
  · rintro justified ⟨opened, server, member, differ, ready⟩
    obtain ⟨failed, waiting⟩ := justified ((asRanked freshCandidate).mp opened)
    rcases List.mem_append.mp (whole.mem_iff.mpr member) with inFront | inRest
    · obtain ⟨earlier, between, split⟩ := List.append_of_mem inFront
      refine ready ?_
      rw [OpenAt, reached.failed earlier server between split, reached.readings]
      exact failed earlier server between split
    · rcases List.mem_cons.mp inRest with rfl | later
      · exact differ rfl
      · exact ready ((asRanked (freshRest server later)).mpr (waiting server later))

/-- A loop that runs out of candidates in time has tried all that were left
exactly when nobody is passed over from here on. -/
theorem AttemptLoop.exhausts_iff {attempts : List (Server × Nat)} {error : Error}
    {after : GroupState} (quiet : env.Quiet) (steady : Monotone env.clock)
    (notCancelled : error.code ≠ "CANCELLED")
    (timely : env.clock after.readings < deadline)
    (loop : AttemptLoop env route candidates deadline rest state attempts
      (.error (.error error)) after)
    (reached : AfterFailures env route health base front state)
    (whole : (front ++ rest).Perm candidates)
    (distinct : ((front ++ rest).map (·.id)).Nodup) :
    (∀ server ∈ rest, server ∈ attempts.map Prod.fst) ↔
      ∀ middle candidate later, rest = middle ++ candidate :: later →
        Justified env route health base (front ++ middle) candidate later := by
  generalize thrown : (.error (.error error) : GroupOutcome) = outcome at loop
  induction loop generalizing front with
  | exhausted =>
      refine iff_of_true (fun _ member => absurd member List.not_mem_nil) ?_
      intro middle candidate later split
      have lengths := congrArg List.length split
      rw [List.length_nil, List.length_append, List.length_cons] at lengths
      omega
  | @late _ _ state _ past =>
      have later := steady (Nat.le_succ state.readings)
      exact absurd timely (Nat.not_lt.mpr (Nat.le_trans past later))
  | @passes candidate rest state attempts _ _ _ passed loop _ =>
      refine iff_of_false (fun all => ?_) (fun justified => ?_)
      · have inRest := loop.sublist.subset (all candidate List.mem_cons_self)
        rw [List.map_append, List.map_cons] at distinct
        have fresh := (List.nodup_cons.mp (List.nodup_append.mp distinct).2.1).1
        exact fresh (List.mem_map_of_mem inRest)
      · have here := justified [] candidate rest rfl
        rw [List.append_nil] at here
        exact (reached.passedOver_iff whole distinct).mpr here passed
  | answers _ _ _ =>
      cases thrown
  | stops _ _ _ final =>
      cases thrown
      exact absurd (final error rfl) notCancelled
  | @fails candidate rest state _ attempts _ _ _ turn _ _ _ ih =>
      have here := (reached.passedOver_iff whole distinct).mp turn
      have assoc : front ++ candidate :: rest = (front ++ [candidate]) ++ rest := by
        rw [List.append_assoc, List.singleton_append]
      have ids := distinct
      rw [List.map_append, List.map_cons] at ids
      obtain ⟨_, later, disjoint⟩ := List.nodup_append.mp ids
      have freshRest : candidate ∉ rest := fun member =>
        (List.nodup_cons.mp later).1 (List.mem_map_of_mem member)
      have next := ih timely (reached.step quiet fun failed member same =>
        disjoint _ (List.mem_map_of_mem member) _ List.mem_cons_self
          (healthKey_inj.mp same)) (assoc ▸ whole) (assoc ▸ distinct) thrown
      rw [List.map_cons, List.forall_mem_cons]
      constructor
      · rintro ⟨_, all⟩ middle other later split
        cases middle with
        | nil =>
            cases split
            rwa [List.append_nil]
        | cons first middle =>
            obtain ⟨rfl, tail⟩ := List.cons.inj split
            have still := next.mp (fun server member => ?_) middle other later tail
            · rwa [List.append_assoc, List.singleton_append] at still
            · rcases List.mem_cons.mp (all server member) with rfl | tried
              · exact absurd member freshRest
              · exact tried
      · intro justified
        refine ⟨List.mem_cons_self, fun server member => List.mem_cons_of_mem _ ?_⟩
        refine next.mpr (fun middle other later tail => ?_) server member
        rw [List.append_assoc, List.singleton_append]
        exact justified (candidate :: middle) other later (by rw [tail]; rfl)

end Loop

/-- An undisturbed exchange of a group without cycles that fails in time has
tried every enabled member exactly when nobody is passed over. -/
theorem exchangeGroup_exhausts_iff {env : GroupEnv} {servers : List Server}
    {primary : Server} {before after : GroupState} {error : Error} (quiet : env.Quiet)
    (steady : Monotone env.clock) (acyclic : AcyclicGroup servers primary)
    (grouped : ¬ (primary.id = 0 ∨ primary.fallbackIds = []))
    (run : exchangeGroup env servers primary before = (.error (.error error), after))
    (notCancelled : error.code ≠ "CANCELLED")
    (timely : env.clock after.readings < groupDeadline env servers primary before) :
    (∀ server, GroupMember servers primary server → server.enabled = true →
        ∃ remainingMs, attemptServer primary.route remainingMs server ∈
          after.contacted.drop before.contacted.length) ↔
      NobodyPassedOver env primary.route
        (startingHealth (groupCandidates servers primary) before.health)
        (before.readings + 2) (groupOrder env servers primary before) := by
  have nonempty : groupCandidates servers primary ≠ [] := by
    intro empty
    unfold exchangeGroup at run
    rw [if_neg grouped] at run
    dsimp only at run
    rw [if_pos empty] at run
    cases run
    rw [groupDeadline, empty] at timely
    exact Nat.lt_irrefl _ timely
  obtain ⟨middle, attempts, readings, contacted, health, loop⟩ :=
    exchangeGroup_loop quiet grouped nonempty run
  have perm := groupOrder_perm env servers primary before
  have distinct := groupOrder_nodup env servers primary before
  have reached : AfterFailures env primary.route
      (startingHealth (groupCandidates servers primary) before.health)
      (before.readings + 2) [] middle :=
    { readings := readings
      failed := fun earlier failed between split => by
        have lengths := congrArg List.length split
        rw [List.length_nil, List.length_append, List.length_cons] at lengths
        omega
      fresh := fun key _ => health key }
  have exhausts := loop.exhausts_iff quiet steady notCancelled timely reached
    (List.Perm.refl _) distinct
  have tried : after.contacted.drop before.contacted.length = attempts.map fun attempt =>
      attemptServer primary.route
        ((groupDeadline env servers primary before - env.clock attempt.2) / nanosPerMilli)
        attempt.1 := by
    rw [loop.contacted, contacted, List.drop_left]
  have tried_iff (server : Server) (member : server ∈ groupOrder env servers primary before) :
      (∃ remainingMs, attemptServer primary.route remainingMs server ∈
          after.contacted.drop before.contacted.length) ↔
        server ∈ attempts.map Prod.fst := by
    rw [tried]
    constructor
    · rintro ⟨remainingMs, inTried⟩
      obtain ⟨attempt, inside, same⟩ := List.mem_map.mp inTried
      have ids := congrArg Server.id same
      change attempt.1.id = server.id at ids
      have listed := loop.sublist.subset (List.mem_map_of_mem inside)
      rw [← List.inj_on_of_nodup_map distinct listed member ids]
      exact List.mem_map_of_mem inside
    · intro inAttempts
      obtain ⟨attempt, inside, rfl⟩ := List.mem_map.mp inAttempts
      exact ⟨_, List.mem_map.mpr ⟨attempt, inside, rfl⟩⟩
  refine Iff.trans ?_ exhausts
  constructor
  · intro all server member
    obtain ⟨inGroup, enabled⟩ := (mem_groupCandidates_iff acyclic).mp (perm.mem_iff.mp member)
    exact (tried_iff server member).mp (all server inGroup enabled)
  · intro all server inGroup enabled
    have member := perm.mem_iff.mpr ((mem_groupCandidates_iff acyclic).mpr ⟨inGroup, enabled⟩)
    exact (tried_iff server member).mpr (all server member)

/-! ### The group of two -/

def timeoutExhausted (last : Server) : Error :=
  { code := "TIMEOUT"
    message := text "Fallback group exhausted: " ++
      (attemptFailure {} last (.of "TIMEOUT" "No reply")).message }

def pairBackup : Server :=
  { id := 2, name := text "b", ip := text "192.0.2.2", timeoutMs := 1 }

def pairRun (health : HealthMap) : GroupOutcome × GroupState :=
  exchangeGroup (timeoutEnv fun _ => 0) pairConfig.servers pairPrimary { health := health }

theorem timeoutEnv_steady : Monotone (timeoutEnv fun _ => 0).clock :=
  fun _ _ _ => Nat.le_refl 0

/-- Without a history both servers are tried, and nobody is passed over. -/
theorem exchangeGroup_exhausts_iff_pair :
    AcyclicGroup pairConfig.servers pairPrimary ∧
      pairRun OrderedMap.empty =
        (.error (.error (timeoutExhausted pairBackup)), (pairRun OrderedMap.empty).2) ∧
      (pairRun OrderedMap.empty).2.contacted.map (·.id) = [1, 2] ∧
      ((∀ server, GroupMember pairConfig.servers pairPrimary server →
          server.enabled = true → ∃ remainingMs,
            attemptServer {} remainingMs server ∈
              (pairRun OrderedMap.empty).2.contacted.drop 0) ↔
        NobodyPassedOver (timeoutEnv fun _ => 0) {} OrderedMap.empty 2
          [pairPrimary, pairBackup]) := by
  have acyclic : AcyclicGroup pairConfig.servers pairPrimary :=
    validate_acyclicGroup pairConfig_accepted List.mem_cons_self {}
  have run : pairRun OrderedMap.empty =
      (.error (.error (timeoutExhausted pairBackup)), (pairRun OrderedMap.empty).2) :=
    Prod.ext (by decide +kernel) rfl
  have order : groupOrder (timeoutEnv fun _ => 0) pairConfig.servers pairPrimary
      { health := OrderedMap.empty } = [pairPrimary, pairBackup] := by
    decide +kernel
  have exhausts := exchangeGroup_exhausts_iff (timeoutEnv_quiet _) timeoutEnv_steady acyclic
    (by decide) run (by decide) (by decide +kernel)
  rw [order] at exhausts
  exact ⟨acyclic, run, by decide +kernel, exhausts⟩

def openHealth : HealthMap :=
  OrderedMap.empty.insert (healthKey {} { id := 1 })
    { consecutiveFailures := 2, retryAfter := 1000000000 }

/-- The second server fails for the first time, so that its circuit stays
closed, and the first one is passed over for it: the exchange fails without an
attempt at its enabled primary. -/
theorem exchangeGroup_passesOver :
    validate ipv4Platform pairConfig = .ok () ∧ (timeoutEnv fun _ => 0).Quiet ∧
      Monotone (timeoutEnv fun _ => 0).clock ∧
      (pairRun openHealth).1 = .error (.error (timeoutExhausted pairBackup)) ∧
      (timeoutEnv fun _ => 0).clock (pairRun openHealth).2.readings <
        groupDeadline (timeoutEnv fun _ => 0) pairConfig.servers pairPrimary
          { health := openHealth } ∧
      pairPrimary.enabled = true ∧
      (pairRun openHealth).2.contacted.map (·.id) = [2] :=
  ⟨pairConfig_accepted, timeoutEnv_quiet _, timeoutEnv_steady, by decide +kernel,
    by decide +kernel, rfl, by decide +kernel⟩

end NativeDNS
