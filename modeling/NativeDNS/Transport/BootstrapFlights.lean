/-
Any interleaving of `bootstrap_endpoint` calls.

Every step of the calls is a few moves of the callers of a single-flight table
of 128 keys.
-/
import NativeDNS.Library.SingleFlight
import NativeDNS.Transport.BootstrapCalls

namespace NativeDNS

/-! ### What a step can do -/

section Cases

variable {platform : Platform} {world : EndpointWorld} {index id : Nat}
  {call : EndpointCall}

namespace EndpointWorld

def swept (world : EndpointWorld) (sweep : Bytes → Nat × Nat) : EndpointWorld :=
  { world with
    entries := world.entries.filter fun entry => !world.stale sweep entry }

/-- The table with a new shared state for a key. -/
def grown (world : EndpointWorld) (key : Bytes) : EndpointWorld :=
  { world with
    entries := world.entries ++ [(key, world.states.length)]
    states := world.states ++ [({ key := key } : EndpointState)] }

theorem findEntry_eq_some {entries : List (Bytes × Nat)} {key : Bytes}
    (found : findEntry entries key = some id) : (key, id) ∈ entries := by
  obtain ⟨entry, first, rfl⟩ := Option.map_eq_some_iff.mp found
  have named := List.find?_some first
  have same : entry.1 = key := beq_iff_eq.mp named
  rw [← same]
  exact List.mem_of_find?_eq_some first

theorem findEntry_eq_none {entries : List (Bytes × Nat)} {key : Bytes}
    (missing : findEntry entries key = none) :
    key ∉ entries.map Prod.fst := by
  intro member
  obtain ⟨entry, inside, same⟩ := List.mem_map.mp member
  have different :=
    List.find?_eq_none.mp (Option.map_eq_none_iff.mp missing) entry inside
  exact different (beq_iff_eq.mpr same)

theorem enter_cases (world : EndpointWorld) (index : Nat) (call : EndpointCall)
    (sweep : Bytes → Nat × Nat) (clock : Nat × Nat) :
    (∃ id, (call.key, id) ∈ (world.swept sweep).entries ∧
        world.enter index call sweep clock =
          (world.swept sweep).loopPass index call id clock) ∨
      world.enter index call sweep clock =
        (world.swept sweep).setCall index
          { call with phase := .finished (.error (.error bootstrapBusy)) } ∨
      (call.key ∉ (world.swept sweep).entries.map Prod.fst ∧
        (world.swept sweep).entries.length < maxEndpoints ∧
        world.enter index call sweep clock =
          ((world.swept sweep).grown call.key).loopPass index call
            world.states.length clock) := by
  unfold enter
  cases found : findEntry (world.swept sweep).entries call.key with
  | some id =>
      refine Or.inl ⟨id, findEntry_eq_some found, ?_⟩
      rw [swept] at found
      dsimp only at found ⊢
      rw [found]
      rfl
  | none =>
      refine Or.inr ?_
      have missing := findEntry_eq_none found
      rw [swept] at found
      dsimp only at found ⊢
      rw [found]
      dsimp only
      by_cases full : maxEndpoints ≤ (world.swept sweep).entries.length
      · exact Or.inl (if_pos full)
      · exact Or.inr ⟨missing, Nat.lt_of_not_le full, if_neg full⟩

theorem loopPass_cases (world : EndpointWorld) (index : Nat)
    (call : EndpointCall) (id : Nat) (clock : Nat × Nat) :
    ((world.state id).endpoint ≠ [] ∧ clock.1 < (world.state id).expires ∧
        world.loopPass index call id clock =
          (world.note (.served call.key clock.1 (world.state id).endpoint)).setCall
            index
            { call with phase := .leaving id (.ok (world.state id).endpoint) }) ∨
      (∃ thrown, (world.state id).failure = some thrown ∧
        clock.2 < (world.state id).retryAfter ∧
        world.loopPass index call id clock =
          (world.note (.rethrown call.key clock.2 thrown)).setCall index
            { call with phase := .leaving id (.error thrown) }) ∨
      world.loopPass index call id clock =
        world.setCall index { call with phase := .waiting id } ∨
      ((world.state id).refreshing = false ∧
        world.loopPass index call id clock =
          (world.setState id { world.state id with refreshing := true }).setCall
            index { call with phase := .resolving id }) := by
  unfold loopPass
  dsimp only
  by_cases fresh : (world.state id).endpoint ≠ [] ∧ clock.1 < (world.state id).expires
  · rw [if_pos fresh]
    exact Or.inl ⟨fresh.1, fresh.2, rfl⟩
  · rw [if_neg fresh]
    refine Or.inr ?_
    cases recent : recentFailure (world.state id) clock.2 with
    | some thrown =>
        obtain ⟨failed, early⟩ := Option.filter_eq_some_iff.mp recent
        exact Or.inl ⟨thrown, failed, of_decide_eq_true early, rfl⟩
    | none =>
        refine Or.inr ?_
        cases refreshing : (world.state id).refreshing with
        | true =>
            exact Or.inl rfl
        | false =>
            exact Or.inr ⟨rfl, rfl⟩

end EndpointWorld

/-- The errors of `bootstrap_endpoint` itself. -/
def bootstrapRefusals : List Error :=
  [bootstrapBusy, bootstrapRefreshBusy, bootstrapCancelled]

inductive EndpointStep (platform : Platform) (world : EndpointWorld) :
    EndpointWorld → Prop
  | «begin» (server : Server) (host : Bytes) (resolvers : List Bytes)
      (deadline : Nat) :
      EndpointStep platform world
        { world with
          calls := world.calls ++
            [{ server := server
               host := host
               resolvers := resolvers
               deadline := deadline }] }
  | enter {index : Nat} {call : EndpointCall}
      (found : world.calls[index]? = some call) (ready : call.phase = .ready)
      (sweep : Bytes → Nat × Nat) (clock : Nat × Nat) :
      EndpointStep platform world (world.enter index call sweep clock)
  | wake {index id : Nat} {call : EndpointCall}
      (found : world.calls[index]? = some call)
      (waiting : call.phase = .waiting id) (clock : Nat × Nat) :
      EndpointStep platform world (world.loopPass index call id clock)
  | abandon {index id : Nat} {call : EndpointCall}
      (found : world.calls[index]? = some call)
      (waiting : call.phase = .waiting id) {error : Error}
      (refused : error ∈ bootstrapRefusals) :
      EndpointStep platform world
        (world.setCall index
          { call with phase := .leaving id (.error (.error error)) })
  | succeed {index id : Nat} {call : EndpointCall}
      (found : world.calls[index]? = some call)
      (resolving : call.phase = .resolving id) {env : BootstrapEnv}
      {endpoint : Bytes} {ttl : Nat}
      (resolved : (resolveBootstrap platform env call.server call.host
        call.deadline call.resolvers).2 = .resolved endpoint ttl) (now : Nat) :
      EndpointStep platform world
        (world.succeed index call id endpoint ttl now)
  | fail {index id : Nat} {call : EndpointCall}
      (found : world.calls[index]? = some call)
      (resolving : call.phase = .resolving id) {env : BootstrapEnv}
      {thrown : Thrown}
      (raised : (resolveBootstrap platform env call.server call.host
        call.deadline call.resolvers).2 = .raised thrown) (now : Nat) :
      EndpointStep platform world (world.fail index call id thrown now)
  | leave {index id : Nat} {call : EndpointCall}
      {result : Except Thrown Bytes}
      (found : world.calls[index]? = some call)
      (leaving : call.phase = .leaving id result) :
      EndpointStep platform world
        (world.setCall index { call with phase := .finished result })

theorem performEndpoint_step {action : EndpointAction} {after : EndpointWorld}
    (performed : performEndpoint platform world action = some after) :
    EndpointStep platform world after := by
  cases action with
  | «begin» server host resolvers deadline =>
      cases performed
      exact .begin server host resolvers deadline
  | enter index sweep clock =>
      simp only [performEndpoint] at performed
      split at performed
      · rename_i call found
        split at performed
        · rename_i ready
          cases performed
          exact .enter found ready sweep clock
        · cases performed
      · cases performed
  | wake index waited clock =>
      simp only [performEndpoint] at performed
      split at performed
      · rename_i call found
        split at performed
        · rename_i id waiting
          split at performed
          · cases performed
            exact .wake found waiting clock
          · cases performed
        · cases performed
      · cases performed
  | expire index waited =>
      simp only [performEndpoint] at performed
      split at performed
      · rename_i call found
        split at performed
        · rename_i id waiting
          split at performed
          · cases performed
            exact .abandon found waiting
              (List.mem_cons_of_mem _ List.mem_cons_self)
          · cases performed
        · cases performed
      · cases performed
  | cancel index =>
      simp only [performEndpoint] at performed
      split at performed
      · rename_i call found
        split at performed
        · rename_i id waiting
          cases performed
          exact .abandon found waiting (List.mem_cons_of_mem _
            (List.mem_cons_of_mem _ List.mem_cons_self))
        · cases performed
      · cases performed
  | complete index env now =>
      simp only [performEndpoint] at performed
      split at performed
      · rename_i call found
        split at performed
        · rename_i id resolving
          split at performed
          · rename_i endpoint ttl resolved
            cases performed
            exact .succeed found resolving resolved now
          · rename_i thrown raised
            cases performed
            exact .fail found resolving raised now
          · cases performed
        · cases performed
      · cases performed
  | leave index =>
      simp only [performEndpoint] at performed
      split at performed
      · rename_i call found
        split at performed
        · rename_i id result leaving
          cases performed
          exact .leave found leaving
        · cases performed
      · cases performed

end Cases

/-! ### The calls as flights -/

section Flights

variable (world : EndpointWorld) {index id : Nat} {call : EndpointCall}

open SingleFlight (Step Sound)
open Relation (ReflTransGen)

namespace EndpointWorld

def flights (world : EndpointWorld) : SingleFlight.Flights Bytes where
  entries := world.entries
  cells := world.states.length
  flag id := (world.state id).refreshing
  key caller := world.calls[caller]?.map (·.key)
  holds caller := world.calls[caller]?.bind (·.phase.held)
  leads caller := world.calls[caller]?.bind (·.phase.refreshes)

theorem flights_holds (found : world.calls[index]? = some call) :
    world.flights.holds index = call.phase.held := by
  simp only [flights, found, Option.bind_some]

theorem flights_leads (found : world.calls[index]? = some call) :
    world.flights.leads index = call.phase.refreshes := by
  simp only [flights, found, Option.bind_some]

theorem flights_key (found : world.calls[index]? = some call) :
    world.flights.key index = some call.key := by
  simp only [flights, found, Option.map_some]

theorem flights_setCall (found : world.calls[index]? = some call)
    (phase : EndpointPhase) :
    (world.setCall index { call with phase := phase }).flights =
      { world.flights with
        holds := Function.update world.flights.holds index phase.held
        leads := Function.update world.flights.leads index phase.refreshes } := by
  have inside : index < world.calls.length :=
    (List.getElem?_eq_some_iff.mp found).1
  have calls : ∀ caller,
      (world.setCall index { call with phase := phase }).calls[caller]? =
        if caller = index then some { call with phase := phase }
        else world.calls[caller]? := by
    intro caller
    rw [setCall, List.getElem?_set]
    by_cases here : index = caller
    · rw [if_pos here, if_pos here.symm, if_pos inside]
    · rw [if_neg here, if_neg (Ne.symm here)]
  have key : (world.setCall index { call with phase := phase }).flights.key =
      world.flights.key := by
    funext caller
    simp only [flights, calls]
    split
    · rename_i here
      rw [here, found]
      rfl
    · rfl
  have holds : (world.setCall index { call with phase := phase }).flights.holds =
      Function.update world.flights.holds index phase.held := by
    funext caller
    simp only [flights, calls, Function.update_apply]
    split
    · rfl
    · rfl
  have leads : (world.setCall index { call with phase := phase }).flights.leads =
      Function.update world.flights.leads index phase.refreshes := by
    funext caller
    simp only [flights, calls, Function.update_apply]
    split
    · rfl
    · rfl
  rw [← holds, ← leads]
  dsimp only
  rw [← key]
  rfl

theorem state_setState (made : id < world.states.length)
    (state : EndpointState) (other : Nat) :
    (world.setState id state).state other =
      if other = id then state else world.state other := by
  unfold EndpointWorld.state setState
  dsimp only
  rw [List.getD_eq_getElem?_getD, List.getElem?_set,
    List.getD_eq_getElem?_getD]
  by_cases here : id = other
  · rw [if_pos here, if_pos here.symm, if_pos made, Option.getD_some]
  · rw [if_neg here, if_neg (Ne.symm here)]

theorem flights_setState (made : id < world.states.length)
    (state : EndpointState) :
    (world.setState id state).flights =
      { world.flights with
        flag := Function.update world.flights.flag id state.refreshing } := by
  have flag : (world.setState id state).flights.flag =
      Function.update world.flights.flag id state.refreshing := by
    funext other
    simp only [flights, world.state_setState made, Function.update_apply]
    split
    · rfl
    · rfl
  have cells : (world.setState id state).flights.cells = world.flights.cells :=
    List.length_set
  rw [← flag]
  dsimp only
  rw [← cells]
  rfl

theorem state_grown (key : Bytes) (other : Nat) :
    (world.grown key).state other =
      if other = world.states.length then { key := key }
      else world.state other := by
  unfold EndpointWorld.state grown
  dsimp only
  rw [List.getD_eq_getElem?_getD, List.getD_eq_getElem?_getD]
  rcases Nat.lt_trichotomy other world.states.length with before | here | past
  · rw [List.getElem?_append_left before, if_neg (by omega)]
  · rw [here, List.getElem?_concat_length, if_pos rfl, Option.getD_some]
  · have beyond : (world.states ++
        [({ key := key } : EndpointState)]).length ≤ other := by
      rw [List.length_append, List.length_singleton]
      exact past
    rw [if_neg (by omega), List.getElem?_eq_none beyond,
      List.getElem?_eq_none (Nat.le_of_lt past)]

theorem flights_grown (key : Bytes) :
    (world.grown key).flights =
      { world.flights with
        entries := world.flights.entries ++ [(key, world.flights.cells)]
        cells := world.flights.cells + 1 } := by
  have flag : (world.grown key).flights.flag = world.flights.flag := by
    funext other
    simp only [flights, world.state_grown]
    split
    · rename_i here
      rw [here, EndpointWorld.state, List.getD_eq_getElem?_getD,
        List.getElem?_eq_none (Nat.le_refl _)]
      rfl
    · rfl
  have cells : (world.grown key).flights.cells = world.flights.cells + 1 := by
    change (world.states ++ [_]).length = _
    rw [List.length_append, List.length_singleton]
    rfl
  dsimp only
  rw [← flag, ← cells]
  rfl

theorem flights_setCall_same (found : world.calls[index]? = some call)
    {phase : EndpointPhase} (held : phase.held = call.phase.held)
    (refreshes : phase.refreshes = call.phase.refreshes) :
    (world.setCall index { call with phase := phase }).flights =
      world.flights := by
  rw [world.flights_setCall found, held, refreshes, ← world.flights_holds found,
    ← world.flights_leads found, Function.update_eq_self, Function.update_eq_self]

/-! ### Every step is a few moves of the table -/

theorem loopPass_moves (found : world.calls[index]? = some call)
    (made : id < world.states.length) (clock : Nat × Nat) :
    ReflTransGen (Step maxEndpoints)
      (world.setCall index { call with phase := .waiting id }).flights
      (world.loopPass index call id clock).flights := by
  rw [world.flights_setCall found]
  rcases world.loopPass_cases index call id clock with
    ⟨_, _, pass⟩ | ⟨thrown, _, _, pass⟩ | pass | ⟨lowered, pass⟩
  · rw [pass, (world.note _).flights_setCall found]
    exact .refl
  · rw [pass, (world.note _).flights_setCall found]
    exact .refl
  · rw [pass, world.flights_setCall found]
  · rw [pass, (world.setState id _).flights_setCall found,
      world.flights_setState made]
    have lead := @Step.lead Bytes maxEndpoints
      { world.flights with
        holds := Function.update world.flights.holds index (some id)
        leads := Function.update world.flights.leads index none }
      index id (Function.update_self _ _ _) lowered
    rw [Function.update_idem] at lead
    exact .single lead

theorem swept_moves (sweep : Bytes → Nat × Nat) :
    Step maxEndpoints world.flights (world.swept sweep).flights := by
  refine Step.evict List.filter_sublist ?_
  intro entry member gone caller holding
  have stale : world.stale sweep entry = true := by
    cases staleness : world.stale sweep entry with
    | true =>
        rfl
    | false =>
        refine absurd (List.mem_filter.mpr ⟨member, ?_⟩) gone
        rw [staleness]
        rfl
  unfold EndpointWorld.stale at stale
  simp only [Bool.and_eq_true] at stale
  obtain ⟨call, inside, held⟩ := Option.bind_eq_some_iff.mp holding
  have unheld := List.all_eq_true.mp stale.1.1.1 call
    (List.mem_of_getElem? inside)
  rw [held, bne_self_eq_false] at unheld
  cases unheld

theorem joined_flights (found : world.calls[index]? = some call)
    (ready : call.phase = .ready) (id : Nat) :
    (world.setCall index { call with phase := .waiting id }).flights =
      { world.flights with
        holds := Function.update world.flights.holds index (some id) } := by
  have leads : Function.update world.flights.leads index none =
      world.flights.leads := by
    have unled := world.flights_leads found
    rw [ready] at unled
    rw [Function.update_eq_self_iff, unled]
    rfl
  rw [world.flights_setCall found]
  dsimp only [EndpointPhase.held, EndpointPhase.refreshes]
  rw [leads]

theorem enter_moves (sound : Sound maxEndpoints world.flights)
    (found : world.calls[index]? = some call) (ready : call.phase = .ready)
    (sweep : Bytes → Nat × Nat) (clock : Nat × Nat) :
    ReflTransGen (Step maxEndpoints) world.flights
      (world.enter index call sweep clock).flights := by
  have sweeping := world.swept_moves sweep
  have clean := sound.step sweeping
  have key := (world.swept sweep).flights_key found
  have free := (world.swept sweep).flights_holds found
  rw [ready] at free
  refine .head sweeping ?_
  rcases world.enter_cases index call sweep clock with
    ⟨id, member, entered⟩ | entered | ⟨missing, room, entered⟩
  · rw [entered]
    refine .head (Step.join key free member) ?_
    rw [← (world.swept sweep).joined_flights found ready id]
    exact (world.swept sweep).loopPass_moves found (clean.made _ member) clock
  · rw [entered, (world.swept sweep).flights_setCall_same found]
    · rw [ready]
      rfl
    · rw [ready]
      rfl
  · rw [entered]
    have create := Step.create key free missing room
    refine .head create ?_
    have growing := (world.swept sweep).flights_grown call.key
    have joined := ((world.swept sweep).grown call.key).joined_flights found
      ready world.states.length
    rw [growing] at joined
    change ReflTransGen _
      { world.flights with
        entries := (world.swept sweep).entries ++ [(call.key, world.states.length)]
        cells := world.states.length + 1
        holds := Function.update world.flights.holds index
          (some world.states.length) } _
    change _ =
      { world.flights with
        entries := (world.swept sweep).entries ++ [(call.key, world.states.length)]
        cells := world.states.length + 1
        holds := Function.update world.flights.holds index
          (some world.states.length) } at joined
    rw [← joined]
    refine ((world.swept sweep).grown call.key).loopPass_moves found ?_ clock
    change _ < (world.states ++ [_]).length
    rw [List.length_append, List.length_singleton]
    exact Nat.lt_succ_self _

theorem begin_moves (call : EndpointCall) (ready : call.phase = .ready) :
    Step maxEndpoints world.flights
      { world with calls := world.calls ++ [call] }.flights := by
  have new : world.flights.key world.calls.length = none := by
    simp only [flights, List.getElem?_eq_none (Nat.le_refl _), Option.map_none]
  have calls : ∀ caller, (world.calls ++ [call])[caller]? =
      if caller = world.calls.length then some call
      else world.calls[caller]? := by
    intro caller
    rw [List.getElem?_append]
    split
    · rw [if_neg (by omega)]
    · split
      · rename_i here
        rw [here, Nat.sub_self]
        rfl
      · rw [List.getElem?_eq_none, List.getElem?_eq_none (by omega)]
        rw [List.length_singleton]
        omega
  have key : { world with calls := world.calls ++ [call] }.flights.key =
      Function.update world.flights.key world.calls.length (some call.key) := by
    funext caller
    simp only [flights, calls, Function.update_apply]
    split
    · rfl
    · rfl
  have none_there : world.calls[world.calls.length]? = none :=
    List.getElem?_eq_none (Nat.le_refl _)
  have holds : { world with calls := world.calls ++ [call] }.flights.holds =
      world.flights.holds := by
    funext caller
    simp only [flights, calls]
    split
    · rename_i here
      rw [here, none_there, Option.bind_some, ready]
      rfl
    · rfl
  have leads : { world with calls := world.calls ++ [call] }.flights.leads =
      world.flights.leads := by
    funext caller
    simp only [flights, calls]
    split
    · rename_i here
      rw [here, none_there, Option.bind_some, ready]
      rfl
    · rfl
  have arrive := @Step.arrive Bytes maxEndpoints _ _ call.key new
  rw [← key, ← holds, ← leads] at arrive
  exact arrive

theorem leave_moves (found : world.calls[index]? = some call)
    {result : Except Thrown Bytes} (leaving : call.phase = .leaving id result) :
    Step maxEndpoints world.flights
      (world.setCall index { call with phase := .finished result }).flights := by
  have following := world.flights_leads found
  rw [leaving] at following
  have release := @Step.release Bytes maxEndpoints _ _ following
  have leads : Function.update world.flights.leads index none =
      world.flights.leads := by
    rw [Function.update_eq_self_iff, following]
    rfl
  rw [world.flights_setCall found]
  dsimp only [EndpointPhase.held, EndpointPhase.refreshes]
  rw [leads]
  exact release

theorem landed_moves (found : world.calls[index]? = some call)
    (resolving : call.phase = .resolving id) (made : id < world.states.length)
    {state : EndpointState} (lowered : state.refreshing = false)
    (event : EndpointEvent) (result : Except Thrown Bytes) :
    Step maxEndpoints world.flights
      (((world.setState id state).setCall index
        { call with phase := .leaving id result }).note event).flights := by
  have leads := world.flights_leads found
  have holds := world.flights_holds found
  rw [resolving] at leads holds
  have land := @Step.land Bytes maxEndpoints _ _ _ leads
  have held : Function.update world.flights.holds index (some id) =
      world.flights.holds := by
    rw [Function.update_eq_self_iff, holds]
    rfl
  change Step _ _ ((world.setState id state).setCall index
    { call with phase := .leaving id result }).flights
  rw [(world.setState id state).flights_setCall found,
    world.flights_setState made, lowered]
  dsimp only [EndpointPhase.held, EndpointPhase.refreshes]
  rw [held]
  exact land

end EndpointWorld

theorem EndpointStep.moves {platform : Platform} {world after : EndpointWorld}
    (sound : Sound maxEndpoints world.flights)
    (moved : EndpointStep platform world after) :
    ReflTransGen (Step maxEndpoints) world.flights after.flights := by
  have made : ∀ {index id : Nat} {call : EndpointCall},
      world.calls[index]? = some call → call.phase.held = some id →
        id < world.states.length := by
    intro index id call found held
    rw [← world.flights_holds found] at held
    obtain ⟨key, _, member⟩ := sound.held _ _ held
    exact sound.made _ member
  cases moved with
  | «begin» server host resolvers deadline =>
      exact .single (world.begin_moves _ rfl)
  | enter found ready sweep clock =>
      exact world.enter_moves sound found ready sweep clock
  | @wake index id call found waiting clock =>
      have held : call.phase.held = some id := by
        rw [waiting]
        rfl
      have moves := world.loopPass_moves found (made found held) clock
      rw [world.flights_setCall_same found] at moves
      · exact moves
      · exact held.symm
      · rw [waiting]
  | abandon found waiting refused =>
      rw [world.flights_setCall_same found]
      · rw [waiting]
        rfl
      · rw [waiting]
        rfl
  | succeed found resolving resolved now =>
      exact .single (world.landed_moves found resolving
        (made found (by rw [resolving]; rfl)) rfl _ _)
  | fail found resolving raised now =>
      exact .single (world.landed_moves found resolving
        (made found (by rw [resolving]; rfl)) rfl _ _)
  | leave found leaving =>
      exact .single (world.leave_moves found leaving)

end Flights

end NativeDNS
