/-
What the calls of `bootstrap_endpoint` hand out and rethrow.

A shared state remembers a resolution and a failure of its own key, so what is
handed out or rethrown was recorded before and is still in time.  Together
with the flights of the calls this bounds what they share.
-/
import NativeDNS.Library.Lists
import NativeDNS.Transport.BootstrapFlights
import NativeDNS.Transport.RetryBudget

namespace NativeDNS

open ByteText (text byte)

/-! ### How a resolution ends

The clock of these lemmas may run in any way. -/

section Ends

variable (platform : Platform) (env : BootstrapEnv) (server : Server)
  (host : Bytes) (deadline : Nat)

/-- The loops end in a usable answer or in something raised. -/
def ProperEnd (result : BootstrapResult) : Prop :=
  result ≠ .divisionByZero ∧
    ∀ endpoint ttl, result = .resolved endpoint ttl →
      ∃ index attempt,
        UsableAnswer platform env server host index attempt endpoint ttl

theorem properEnd_raised (thrown : Thrown) :
    ProperEnd platform env server host (.raised thrown) := by
  refine ⟨fun impossible => BootstrapResult.noConfusion impossible, ?_⟩
  intro endpoint ttl impossible
  cases impossible

theorem attemptFailed_ends (index : Nat) (type : UInt16) (resolver : Bytes)
    (error : Error) (state : BootstrapProgress) :
    (attemptFailed env deadline index type resolver error state).1.attemptsLeft =
        state.attemptsLeft ∧
      ∀ result,
        (attemptFailed env deadline index type resolver error state).2 =
          .finish result → ProperEnd platform env server host result := by
  unfold attemptFailed
  split
  · refine ⟨rfl, ?_⟩
    intro result finished
    cases finished
    exact properEnd_raised platform env server host _
  · dsimp only
    split
    · exact ⟨rfl, fun _ impossible => BootstrapFlow.noConfusion impossible⟩
    · exact ⟨rfl, fun _ impossible => BootstrapFlow.noConfusion impossible⟩

theorem attemptAnswered_ends (index : Nat) (attempt : BootstrapAttempt)
    (state : BootstrapProgress) :
    (attemptAnswered platform env server host deadline index attempt
        state).1.attemptsLeft = state.attemptsLeft ∧
      ∀ result,
        (attemptAnswered platform env server host deadline index attempt
          state).2 = .finish result →
            ProperEnd platform env server host result := by
  unfold attemptAnswered
  split
  · exact attemptFailed_ends platform env server host deadline index _ _ _ state
  · refine ⟨rfl, ?_⟩
    intro result finished
    cases finished
    exact properEnd_raised platform env server host _
  · rename_i answer answered
    split
    · rename_i endpoint usable
      refine ⟨rfl, ?_⟩
      intro result finished
      cases finished
      refine ⟨fun impossible => BootstrapResult.noConfusion impossible, ?_⟩
      intro _ _ same
      cases same
      exact ⟨index, attempt, answer, answered, usable, rfl⟩
    · exact ⟨rfl, fun _ impossible => BootstrapFlow.noConfusion impossible⟩

theorem bootstrapAttempt_ends (index : Nat) (type : UInt16) (resolver : Bytes)
    (state : BootstrapProgress) (left : 0 < state.attemptsLeft) :
    state.attemptsLeft ≤
        (bootstrapAttempt platform env server host deadline index type resolver
          state).1.attemptsLeft + 1 ∧
      ∀ result,
        (bootstrapAttempt platform env server host deadline index type resolver
          state).2 = .finish result →
            ProperEnd platform env server host result := by
  unfold bootstrapAttempt
  split
  · rename_i error refused
    obtain ⟨kept, ends⟩ := attemptFailed_ends platform env server host deadline
      index type resolver error state
    exact ⟨by omega, ends⟩
  · rename_i budget funded
    rw [if_neg (by omega)]
    obtain ⟨kept, ends⟩ := attemptAnswered_ends platform env server host deadline
      index _ _
    refine ⟨?_, ends⟩
    dsimp only at kept ⊢
    rw [kept]
    omega

theorem bootstrapPass_ends (type : UInt16) (resolvers : List Bytes)
    (index : Nat) (state : BootstrapProgress)
    (left : resolvers.length ≤ state.attemptsLeft) :
    state.attemptsLeft ≤
        (bootstrapPass platform env server host deadline type resolvers index
          state).1.attemptsLeft + resolvers.length ∧
      ∀ result,
        (bootstrapPass platform env server host deadline type resolvers index
          state).2 = some result →
            ProperEnd platform env server host result := by
  induction resolvers generalizing index state with
  | nil =>
      exact ⟨Nat.le_refl _, fun _ impossible => (by cases impossible)⟩
  | cons resolver rest ih =>
      rw [List.length_cons] at left
      have first := bootstrapAttempt_ends platform env server host deadline
        index type resolver state (by omega)
      unfold bootstrapPass
      generalize bootstrapAttempt platform env server host deadline index type
        resolver state = attempted at first
      obtain ⟨after, flow⟩ := attempted
      obtain ⟨spent, ends⟩ := first
      dsimp only at spent ends
      rw [List.length_cons]
      cases flow with
      | again =>
          obtain ⟨later, finished⟩ := ih (index + 1) after (by omega)
          exact ⟨by dsimp only; omega, finished⟩
      | leave =>
          exact ⟨by dsimp only; omega, fun _ impossible => (by cases impossible)⟩
      | finish result =>
          refine ⟨by dsimp only; omega, ?_⟩
          intro other same
          cases same
          exact ends result rfl

theorem bootstrapPasses_ends (resolvers : List Bytes) (types : List UInt16)
    (pass : Nat) (state : BootstrapProgress)
    (left : types.length * resolvers.length ≤ state.attemptsLeft) :
    ∀ result,
      (bootstrapPasses platform env server host deadline resolvers types pass
        state).2 = some result → ProperEnd platform env server host result := by
  induction types generalizing pass state with
  | nil =>
      exact fun _ impossible => (by cases impossible)
  | cons type types ih =>
      rw [List.length_cons, Nat.succ_mul] at left
      have first := bootstrapPass_ends platform env server host deadline type
        resolvers (pass * resolvers.length) state (by omega)
      unfold bootstrapPasses
      generalize bootstrapPass platform env server host deadline type resolvers
        (pass * resolvers.length) state = passed at first
      obtain ⟨after, outcome⟩ := passed
      obtain ⟨spent, ends⟩ := first
      cases outcome with
      | some result =>
          intro other same
          cases same
          exact ends result rfl
      | none =>
          dsimp only
          split
          · exact fun _ impossible => (by cases impossible)
          · dsimp only at spent
            exact ih (pass + 1) after (by omega)

theorem resolveBootstrap_ends (resolvers : List Bytes) :
    ProperEnd platform env server host
      (resolveBootstrap platform env server host deadline resolvers).2 := by
  have passes := bootstrapPasses_ends platform env server host deadline resolvers
    [1, 28] 0
    { attemptsLeft := resolvers.length * 2
      failure := text "no usable resolver" }
    (by simp only [List.length_cons, List.length_nil]; omega)
  unfold resolveBootstrap
  generalize bootstrapPasses platform env server host deadline resolvers [1, 28]
    0
    { attemptsLeft := resolvers.length * 2
      failure := text "no usable resolver" } = ended at passes
  obtain ⟨after, outcome⟩ := ended
  cases outcome with
  | some result =>
      exact passes result rfl
  | none =>
      exact properEnd_raised platform env server host _

end Ends

/-! ### What is recorded -/

def EventJustified (platform : Platform) (before : List EndpointEvent) :
    EndpointEvent → Prop
  | .resolved key _ endpoint ttl =>
      ∃ env server host resolvers index attempt,
        key = bootstrapKey host server.route resolvers ∧
          UsableAnswer platform env server host index attempt endpoint ttl
  | .failed key _ thrown =>
      ∃ env server host deadline resolvers,
        key = bootstrapKey host server.route resolvers ∧
          (resolveBootstrap platform env server host deadline resolvers).2 =
            .raised thrown
  | .served key time endpoint =>
      ∃ resolvedAt ttl, .resolved key resolvedAt endpoint ttl ∈ before ∧
        ttl ≤ 60 ∧ time < resolvedAt + ttl * nanosPerSecond
  | .rethrown key time thrown =>
      ∃ failedAt, .failed key failedAt thrown ∈ before ∧
        time < failedAt + 1 * nanosPerSecond

def ResultRecorded (history : List EndpointEvent) (key : Bytes) :
    Except Thrown Bytes → Prop
  | .ok endpoint =>
      (∃ time, .served key time endpoint ∈ history) ∨
        ∃ time ttl, .resolved key time endpoint ttl ∈ history
  | .error thrown =>
      (∃ time, .rethrown key time thrown ∈ history) ∨
        (∃ time, .failed key time thrown ∈ history) ∨
        ∃ error ∈ bootstrapRefusals, thrown = .error error

def EndpointPhase.result : EndpointPhase → Option (Except Thrown Bytes)
  | .leaving _ result => some result
  | .finished result => some result
  | _ => none

/-- A shared state holds a resolution and a failure of its own key. -/
structure EndpointState.Recorded (state : EndpointState)
    (history : List EndpointEvent) : Prop where
  endpoint : state.endpoint ≠ [] →
    ∃ resolvedAt ttl, ttl ≤ 60 ∧
      .resolved state.key resolvedAt state.endpoint ttl ∈ history ∧
      state.expires = resolvedAt + ttl * nanosPerSecond
  failure : ∀ thrown, state.failure = some thrown →
    ∃ failedAt, .failed state.key failedAt thrown ∈ history ∧
      state.retryAfter = failedAt + 1 * nanosPerSecond

structure EndpointWorld.Recorded (platform : Platform) (world : EndpointWorld) :
    Prop where
  keyed : ∀ entry ∈ world.entries, (world.state entry.2).key = entry.1
  states : ∀ id, (world.state id).Recorded world.history
  justified : ∀ before event later,
    world.history = before ++ event :: later →
      EventJustified platform before event
  results : ∀ call ∈ world.calls, ∀ result, call.phase.result = some result →
    ResultRecorded world.history call.key result

section Recorded

variable {platform : Platform} {world : EndpointWorld} {index id : Nat}
  {call : EndpointCall}

theorem EndpointState.Recorded.mono {state : EndpointState}
    {history more : List EndpointEvent} (recorded : state.Recorded history)
    (kept : history ⊆ more) : state.Recorded more where
  endpoint := by
    intro present
    obtain ⟨resolvedAt, ttl, short, member, expires⟩ := recorded.endpoint present
    exact ⟨resolvedAt, ttl, short, kept member, expires⟩
  failure := by
    intro thrown failed
    obtain ⟨failedAt, member, retryAfter⟩ := recorded.failure thrown failed
    exact ⟨failedAt, kept member, retryAfter⟩

theorem ResultRecorded.mono {history more : List EndpointEvent} {key : Bytes}
    {result : Except Thrown Bytes}
    (recorded : ResultRecorded history key result) (kept : history ⊆ more) :
    ResultRecorded more key result := by
  cases result with
  | ok endpoint =>
      rcases recorded with ⟨time, member⟩ | ⟨time, ttl, member⟩
      · exact Or.inl ⟨time, kept member⟩
      · exact Or.inr ⟨time, ttl, kept member⟩
  | error thrown =>
      rcases recorded with ⟨time, member⟩ | ⟨time, member⟩ | refused
      · exact Or.inl ⟨time, kept member⟩
      · exact Or.inr (Or.inl ⟨time, kept member⟩)
      · exact Or.inr (Or.inr refused)

namespace EndpointWorld

theorem Recorded.note (recorded : world.Recorded platform)
    {event : EndpointEvent}
    (backed : EventJustified platform world.history event) :
    (world.note event).Recorded platform where
  keyed := recorded.keyed
  states := fun id => (recorded.states id).mono (List.subset_append_left _ _)
  justified := by
    intro before other later split
    change world.history ++ [event] = _ at split
    rcases Lists.snoc_split split with ⟨_, same, last⟩ | ⟨init, _, whole⟩
    · subst last same
      exact backed
    · exact recorded.justified before other init whole
  results := fun call member result returned =>
    (recorded.results call member result returned).mono
      (List.subset_append_left _ _)

theorem Recorded.swept (recorded : world.Recorded platform)
    (sweep : Bytes → Nat × Nat) : (world.swept sweep).Recorded platform where
  keyed := fun entry member =>
    recorded.keyed entry (List.mem_of_mem_filter member)
  states := recorded.states
  justified := recorded.justified
  results := recorded.results

theorem Recorded.grown (recorded : world.Recorded platform)
    (made : ∀ entry ∈ world.entries, entry.2 < world.states.length)
    (key : Bytes) : (world.grown key).Recorded platform where
  keyed := by
    intro entry member
    rw [world.state_grown]
    rcases List.mem_append.mp member with earlier | last
    · rw [if_neg (Nat.ne_of_lt (made entry earlier))]
      exact recorded.keyed entry earlier
    · rw [List.mem_singleton.mp last, if_pos rfl]
  states := by
    intro id
    rw [world.state_grown]
    split
    · exact
        { endpoint := fun present => absurd rfl present
          failure := fun _ impossible => (by cases impossible) }
    · exact recorded.states id
  justified := recorded.justified
  results := recorded.results

theorem Recorded.setState (recorded : world.Recorded platform)
    (made : id < world.states.length) {state : EndpointState}
    (named : state.key = (world.state id).key)
    (backed : state.Recorded world.history) :
    (world.setState id state).Recorded platform where
  keyed := by
    intro entry member
    rw [world.state_setState made]
    split
    · rename_i here
      rw [named, ← here]
      exact recorded.keyed entry member
    · exact recorded.keyed entry member
  states := by
    intro other
    rw [world.state_setState made]
    split
    · exact backed
    · exact recorded.states other
  justified := recorded.justified
  results := recorded.results

theorem Recorded.setCall (recorded : world.Recorded platform)
    (backed : ∀ result, call.phase.result = some result →
      ResultRecorded world.history call.key result) :
    (world.setCall index call).Recorded platform where
  keyed := recorded.keyed
  states := recorded.states
  justified := recorded.justified
  results := by
    intro other member
    rcases List.mem_or_eq_of_mem_set member with earlier | same
    · exact recorded.results other earlier
    · rw [same]
      exact backed

theorem Recorded.concluded (recorded : world.Recorded platform) {event : EndpointEvent}
    (justified : EventJustified platform world.history event)
    (made : id < world.states.length) {state : EndpointState}
    (named : state.key = (world.state id).key)
    (backed : state.Recorded (world.history ++ [event]))
    (results : ∀ result, call.phase.result = some result →
      ResultRecorded (world.history ++ [event]) call.key result) :
    EndpointWorld.Recorded platform
      (((world.note event).setState id state).setCall index call) :=
  Recorded.setCall (Recorded.setState (recorded.note justified) made named backed) results

theorem Recorded.loopPass (recorded : world.Recorded platform)
    (made : id < world.states.length)
    (named : (world.state id).key = call.key) (clock : Nat × Nat) :
    (world.loopPass index call id clock).Recorded platform := by
  have backed := recorded.states id
  rcases world.loopPass_cases index call id clock with
    ⟨present, fresh, pass⟩ | ⟨thrown, failed, early, pass⟩ | pass |
      ⟨lowered, pass⟩
  · rw [pass]
    obtain ⟨resolvedAt, ttl, short, member, expires⟩ := backed.endpoint present
    rw [named] at member
    rw [expires] at fresh
    have noted : (world.note
        (.served call.key clock.1 (world.state id).endpoint)).Recorded platform :=
      recorded.note ⟨resolvedAt, ttl, member, short, fresh⟩
    refine noted.setCall ?_
    intro result returned
    cases returned
    exact Or.inl ⟨clock.1, List.mem_append_right _ List.mem_cons_self⟩
  · rw [pass]
    obtain ⟨failedAt, member, retryAfter⟩ := backed.failure thrown failed
    rw [named] at member
    rw [retryAfter] at early
    have noted :
        (world.note (.rethrown call.key clock.2 thrown)).Recorded platform :=
      recorded.note ⟨failedAt, member, early⟩
    refine noted.setCall ?_
    intro result returned
    cases returned
    exact Or.inl ⟨clock.2, List.mem_append_right _ List.mem_cons_self⟩
  · rw [pass]
    refine recorded.setCall ?_
    intro result impossible
    cases impossible
  · rw [pass]
    have leading :
        (world.setState id { world.state id with refreshing := true }).Recorded
          platform :=
      recorded.setState made rfl ⟨backed.endpoint, backed.failure⟩
    refine leading.setCall ?_
    intro result impossible
    cases impossible

theorem Recorded.enter (recorded : world.Recorded platform)
    (made : ∀ entry ∈ world.entries, entry.2 < world.states.length)
    (sweep : Bytes → Nat × Nat) (clock : Nat × Nat) :
    (world.enter index call sweep clock).Recorded platform := by
  have clean := recorded.swept sweep
  have cleanMade : ∀ entry ∈ (world.swept sweep).entries,
      entry.2 < world.states.length :=
    fun entry member => made entry (List.mem_of_mem_filter member)
  rcases world.enter_cases index call sweep clock with
    ⟨id, member, entered⟩ | entered | ⟨missing, room, entered⟩
  · rw [entered]
    exact clean.loopPass (cleanMade _ member) (clean.keyed _ member) clock
  · rw [entered]
    refine clean.setCall ?_
    intro result returned
    cases returned
    exact Or.inr (Or.inr ⟨_, List.mem_cons_self, rfl⟩)
  · rw [entered]
    refine (clean.grown cleanMade call.key).loopPass ?_ ?_ clock
    · change _ < (world.states ++ [_]).length
      rw [List.length_append, List.length_singleton]
      exact Nat.lt_succ_self _
    · rw [(world.swept sweep).state_grown]
      exact congrArg EndpointState.key (if_pos rfl)

theorem Recorded.held_named (recorded : world.Recorded platform)
    (sound : SingleFlight.Sound maxEndpoints world.flights)
    (found : world.calls[index]? = some call)
    (held : call.phase.held = some id) :
    id < world.states.length ∧ (world.state id).key = call.key := by
  rw [← world.flights_holds found] at held
  obtain ⟨key, came, member⟩ := sound.held _ _ held
  rw [world.flights_key found] at came
  cases came
  exact ⟨sound.made _ member, recorded.keyed _ member⟩

end EndpointWorld

theorem EndpointStep.recorded {after : EndpointWorld}
    (sound : SingleFlight.Sound maxEndpoints world.flights)
    (before : world.Recorded platform)
    (moved : EndpointStep platform world after) : after.Recorded platform := by
  cases moved with
  | «begin» server host resolvers deadline =>
      exact
        { keyed := before.keyed
          states := before.states
          justified := before.justified
          results := by
            intro call member result returned
            rcases List.mem_append.mp member with earlier | last
            · exact before.results call earlier result returned
            · rw [List.mem_singleton.mp last] at returned
              cases returned }
  | enter found ready sweep clock =>
      exact before.enter sound.made sweep clock
  | @wake index id call found waiting clock =>
      have held : call.phase.held = some id := by
        rw [waiting]
        rfl
      obtain ⟨made, named⟩ := before.held_named sound found held
      exact before.loopPass made named clock
  | abandon found waiting refused =>
      refine before.setCall ?_
      intro result returned
      cases returned
      exact Or.inr (Or.inr ⟨_, refused, rfl⟩)
  | @succeed index id call found resolving env endpoint ttl resolved now =>
      have held : call.phase.held = some id := by
        rw [resolving]
        rfl
      obtain ⟨made, named⟩ := before.held_named sound found held
      obtain ⟨_, ends⟩ := resolveBootstrap_ends platform env call.server
        call.host call.deadline call.resolvers
      obtain ⟨attemptIndex, attempt, usable⟩ := ends endpoint ttl resolved
      have justified : EventJustified platform world.history
          (.resolved call.key now endpoint ttl) :=
        ⟨env, call.server, call.host, call.resolvers, attemptIndex, attempt, rfl, usable⟩
      obtain ⟨_, _, _, capped⟩ := usable
      have last : EndpointEvent.resolved call.key now endpoint ttl ∈
          world.history ++ [.resolved call.key now endpoint ttl] :=
        List.mem_concat_self
      refine before.concluded justified made rfl ?_ ?_
      · refine ⟨?_, fun _ impossible => (by cases impossible)⟩
        intro _
        refine ⟨now, ttl, ?_, ?_, rfl⟩
        · rw [capped]
          exact Nat.min_le_right _ _
        · change EndpointEvent.resolved (world.state id).key now endpoint ttl ∈ _
          rw [named]
          exact last
      · intro result returned
        cases returned
        exact Or.inr ⟨now, ttl, last⟩
  | @fail index id call found resolving env thrown raised now =>
      have held : call.phase.held = some id := by
        rw [resolving]
        rfl
      obtain ⟨made, named⟩ := before.held_named sound found held
      have justified : EventJustified platform world.history
          (.failed call.key now thrown) :=
        ⟨env, call.server, call.host, call.deadline, call.resolvers, rfl, raised⟩
      have last : EndpointEvent.failed call.key now thrown ∈
          world.history ++ [.failed call.key now thrown] :=
        List.mem_concat_self
      refine before.concluded justified made rfl ?_ ?_
      · refine ⟨((before.states id).mono (List.subset_append_left _ _)).endpoint, ?_⟩
        intro other same
        cases same
        refine ⟨now, ?_, rfl⟩
        change EndpointEvent.failed (world.state id).key now thrown ∈ _
        rw [named]
        exact last
      · intro result returned
        cases returned
        exact Or.inr (Or.inl ⟨now, last⟩)
  | @leave index id call result found leaving =>
      refine before.setCall ?_
      intro other returned
      cases returned
      refine before.results call (List.mem_of_getElem? found) result ?_
      rw [leaving]
      rfl

end Recorded

/-! ### Every run -/

/-- What the calls on a transport share at any time. -/
structure EndpointWorld.Bounded (platform : Platform) (world : EndpointWorld) :
    Prop where
  alone : ∀ (first second : Nat) (firstCall secondCall : EndpointCall)
      (firstId secondId : Nat),
    world.calls[first]? = some firstCall →
      world.calls[second]? = some secondCall →
        firstCall.phase = .resolving firstId →
          secondCall.phase = .resolving secondId →
            firstCall.key = secondCall.key → first = second
  marked : ∀ entry ∈ world.entries, (world.state entry.2).refreshing = true →
    ∃ call ∈ world.calls, call.phase = .resolving entry.2 ∧ call.key = entry.1
  keys : (world.entries.map Prod.fst).Nodup
  capacity : world.entries.length ≤ 128
  justified : ∀ before event later,
    world.history = before ++ event :: later →
      EventJustified platform before event
  results : ∀ call ∈ world.calls, ∀ result, call.phase.result = some result →
    ResultRecorded world.history call.key result
  /-- The end of a resolution, whatever it is, can be recorded. -/
  recordable : ∀ index call id env now, world.calls[index]? = some call →
    call.phase = .resolving id →
      ∃ after,
        performEndpoint platform world (.complete index env now) = some after

section Runs

variable {platform : Platform} {world : EndpointWorld}

theorem EndpointPhase.refreshes_eq_some {phase : EndpointPhase} {id : Nat}
    (refreshing : phase.refreshes = some id) : phase = .resolving id := by
  cases phase with
  | resolving state =>
      cases refreshing
      rfl
  | ready =>
      cases refreshing
  | waiting state =>
      cases refreshing
  | leaving state result =>
      cases refreshing
  | finished result =>
      cases refreshing

theorem endpointReached_sound (reached : EndpointReached platform world) :
    SingleFlight.Sound maxEndpoints world.flights ∧ world.Recorded platform := by
  induction reached with
  | start begins =>
      rw [begins]
      refine ⟨SingleFlight.sound_initial maxEndpoints, ?_⟩
      exact
        { keyed := fun _ member => absurd member List.not_mem_nil
          states := fun _ =>
            { endpoint := fun present => absurd rfl present
              failure := fun _ impossible => (by cases impossible) }
          justified := fun before _ _ split => by
            cases before with
            | nil => cases split
            | cons _ _ => cases split
          results := fun _ member => absurd member List.not_mem_nil }
  | next _ moved ih =>
      obtain ⟨sound, recorded⟩ := ih
      obtain ⟨action, performed⟩ := moved
      have step := performEndpoint_step performed
      exact ⟨sound.steps (step.moves sound), step.recorded sound recorded⟩

end Runs

/-- However calls interleave and whatever their resolutions bring: at most one
resolution of a key is going on and only its key is marked; an endpoint handed
out was resolved less than its TTL and a minute ago, a failure rethrown is
less than a second old; and no more than 128 keys are held. -/
theorem endpointReached_bounded {platform : Platform} {world : EndpointWorld}
    (reached : EndpointReached platform world) : world.Bounded platform := by
  obtain ⟨sound, recorded⟩ := endpointReached_sound reached
  have leads : ∀ {index id : Nat} {call : EndpointCall},
      world.calls[index]? = some call → call.phase = .resolving id →
        world.flights.leads index = some id := by
    intro index id call found resolving
    rw [world.flights_leads found, resolving]
    rfl
  refine
    { alone := ?_
      marked := ?_
      keys := sound.keys
      capacity := sound.bounded
      justified := recorded.justified
      results := recorded.results
      recordable := ?_ }
  · intro first second firstCall secondCall firstId secondId firstFound
      secondFound firstResolving secondResolving same
    refine sound.one_leader (leads firstFound firstResolving)
      (leads secondFound secondResolving) ?_
    rw [world.flights_key firstFound, world.flights_key secondFound, same]
  · intro entry member refreshing
    obtain ⟨caller, leading⟩ := sound.flagged entry.2 refreshing
    obtain ⟨holding, _⟩ := sound.leading caller entry.2 leading
    obtain ⟨key, came, held⟩ := sound.held caller entry.2 holding
    obtain ⟨call, found, refreshes⟩ := Option.bind_eq_some_iff.mp leading
    rw [world.flights_key found] at came
    cases came
    refine ⟨call, List.mem_of_getElem? found,
      EndpointPhase.refreshes_eq_some refreshes, ?_⟩
    exact congrArg Prod.fst (List.inj_on_of_nodup_map sound.apart held member rfl)
  · intro index call id env now found resolving
    have ends := (resolveBootstrap_ends platform env call.server call.host
      call.deadline call.resolvers).1
    simp only [performEndpoint, found, resolving]
    cases result : (resolveBootstrap platform env call.server call.host
        call.deadline call.resolvers).2 with
    | resolved endpoint ttl =>
        exact ⟨_, rfl⟩
    | raised thrown =>
        exact ⟨_, rfl⟩
    | divisionByZero =>
        exact absurd result ends

/-- Two calls for one host: the second waits for the resolution of the first
and is handed its endpoint. -/
def sharedResolution : List EndpointAction :=
  [.begin {} (text "dns.test") fallbackResolvers 3000000000,
    .begin {} (text "dns.test") fallbackResolvers 3000000000,
    .enter 0 (fun _ => (0, 0)) (0, 0),
    .enter 1 (fun _ => (0, 0)) (0, 0),
    .complete 0 fallbackEnv 1500000000,
    .wake 1 1600000000 (1600000000, 1600000000),
    .leave 0,
    .leave 1]

theorem endpointReached_bounded_shared :
    ∃ world, Transition.performAll (performEndpoint ipv4Platform) {} sharedResolution =
        some world ∧
      world.history.length = 2 ∧ world.Bounded ipv4Platform := by
  have runs : (Transition.performAll (performEndpoint ipv4Platform) {}
      sharedResolution).isSome = true := by
    decide +kernel
  obtain ⟨world, ran⟩ := Option.isSome_iff_exists.mp runs
  have events : (Transition.performAll (performEndpoint ipv4Platform) {}
      sharedResolution).map (·.history.length) = some 2 := by
    decide +kernel
  rw [ran, Option.map_some] at events
  refine ⟨world, ran, Option.some.inj events, ?_⟩
  refine endpointReached_bounded (Transition.Reachable.performAll ?_
    (.start rfl) ran)
  intro state action after performed
  exact ⟨action, performed⟩

end NativeDNS
