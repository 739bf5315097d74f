/-
Where the packets that callers receive come from.

The invariant explains every packet the shared state holds by a group exchange
made for a demand with the same key: the cache entries, the objects followers
wait for, and the outcomes of leaders.  A returned reply is then one of three
things: the reply a leader prepared, a copy of it for a follower, or a copy
from the cache whose age is below its lifetime.
-/
import NativeDNS.Router.Coalescing
import NativeDNS.Wire.Delivery

namespace NativeDNS

open ByteText (text)
open CheckedResult

/-- The server id a leader reports: the candidate's, or none for an original
server. -/
def GroupRun.usedServerId (run : GroupRun) : UInt32 :=
  if run.demand.configured then run.server.id else 0

/-- A group exchange the code can make with these transports. -/
def Performed (snapshot : Snapshot) (run : GroupRun) : Prop :=
  ∃ env before after,
    exchangeGroup env snapshot.config.servers run.demand.primary before =
      (.ok (run.packet, run.server), after) ∧
    after.contacted = before.contacted ++ run.contacted

def Prepares (snapshot : Snapshot) (run : GroupRun) (packet : Packet)
    (answer : DnsAnswer) : Prop :=
  prepareReply snapshot run.demand run.packet = .ok (packet, answer)

/-- How a reply reaches a caller from a run. -/
inductive Delivered (snapshot : Snapshot) (run : GroupRun) (demand : Demand) :
    Source → Reply → Prop
  | led {packet : Packet} {answer : DnsAnswer} (own : run.demand = demand)
      (prepared : Prepares snapshot run packet answer) :
      Delivered snapshot run demand .led
        { packet := packet
          usedServerId := run.usedServerId }
  | coalesced {packet aged : Packet} {answer : DnsAnswer}
      (prepared : Prepares snapshot run packet answer)
      (copied : ageDnsResponse packet (wordAt demand.request 0) 0 = .ok aged) :
      Delivered snapshot run demand .coalesced
        { packet := aged
          usedServerId := run.usedServerId }
  | cache {packet aged : Packet} {answer : DnsAnswer} {elapsedSeconds : Nat}
      (prepared : Prepares snapshot run packet answer)
      (cacheable : answer.cacheable = true)
      (fresh : elapsedSeconds < min answer.cacheTtl maxCacheTtl)
      (copied : ageDnsResponse packet (wordAt demand.request 0) elapsedSeconds =
        .ok aged) :
      Delivered snapshot run demand .cache
        { packet := aged
          usedServerId := run.usedServerId }

/-! ### The invariant -/

/-- A cache entry explained by a run. -/
structure Kept (snapshot : Snapshot) (world : World) (key : Bytes)
    (entry : CacheEntry) (run : GroupRun) (answer : DnsAnswer) : Prop where
  member : run ∈ world.runs
  sameKey : run.demand.key = key
  prepared : Prepares snapshot run entry.packet answer
  cacheable : answer.cacheable = true
  used : entry.usedServerId = run.usedServerId
  expires : entry.expires =
    entry.stored + min answer.cacheTtl maxCacheTtl * nanosPerSecond
  stored : entry.stored ≤ world.clock

/-- A shared object that holds a packet, explained by a run. -/
structure Left (snapshot : Snapshot) (world : World) (pending : Pending)
    (run : GroupRun) (answer : DnsAnswer) : Prop where
  member : run ∈ world.runs
  sameKey : run.demand.key = pending.key
  prepared : Prepares snapshot run pending.packet answer
  used : pending.usedServerId = run.usedServerId

/-- The object a call waits for or leads is one for its key. -/
def Shares (world : World) (demand : Demand) (object : Nat) : Prop :=
  2 ≤ demand.request.length ∧ ∃ pending,
    world.state.objects[object]? = some pending ∧ pending.key = demand.key

/-- What the phase of a call says about its past. -/
def PhaseExplained (snapshot : Snapshot) (world : World) (demand : Demand) :
    Phase → Prop
  | .ready => True
  | .following object _ => Shares world demand object
  | .leading object => Shares world demand object
  | .prepared object outcome =>
      Shares world demand object ∧ ∀ ready, outcome = .ok ready →
        ∃ run ∈ world.runs, run.demand = demand ∧
          Prepares snapshot run ready.packet ready.answer ∧
          ready.usedServerId = run.usedServerId
  | .finished source result =>
      ∀ reply, result = .ok reply → 2 ≤ demand.request.length ∧
        ∃ run ∈ world.runs, run.demand.key = demand.key ∧
          Delivered snapshot run demand source reply

structure CallExplained (snapshot : Snapshot) (admits : Demand → Prop)
    (world : World) (call : Call) : Prop where
  admitted : admits call.demand
  contacted : ∀ attempt ∈ call.contacted, ∃ candidate,
    AttemptAt snapshot.config.servers call.demand.primary attempt candidate
  phase : PhaseExplained snapshot world call.demand call.phase

structure Provenant (snapshot : Snapshot) (admits : Demand → Prop)
    (world : World) : Prop where
  runs : ∀ run ∈ world.runs, Performed snapshot run ∧ admits run.demand ∧
    2 ≤ run.demand.request.length
  cached : ∀ key entry, world.state.cache.find? key = some entry →
    ∃ run answer, Kept snapshot world key entry run answer
  objects : ∀ (object : Nat) (pending : Pending),
    world.state.objects[object]? = some pending →
    pending.packet = [] ∨ ∃ run answer, Left snapshot world pending run answer
  pending : ∀ key object, world.state.pending.find? key = some object →
    ∃ pending, world.state.objects[object]? = some pending ∧ pending.key = key
  calls : ∀ call ∈ world.calls, CallExplained snapshot admits world call

/-! ### Explanations last -/

/-- What no step takes back: runs stay recorded, the clock does not go back,
and a shared object keeps its key. -/
structure Grows (world after : World) : Prop where
  runs : ∀ run ∈ world.runs, run ∈ after.runs
  clock : world.clock ≤ after.clock
  objects : ∀ (object : Nat) (pending : Pending),
    world.state.objects[object]? = some pending →
    ∃ pending' : Pending, after.state.objects[object]? = some pending' ∧
      pending'.key = pending.key

theorem Kept.mono {snapshot : Snapshot} {world after : World} {key : Bytes}
    {entry : CacheEntry} {run : GroupRun} {answer : DnsAnswer}
    (kept : Kept snapshot world key entry run answer)
    (grows : Grows world after) : Kept snapshot after key entry run answer :=
  { kept with
    member := grows.runs run kept.member
    stored := Nat.le_trans kept.stored grows.clock }

theorem Left.mono {snapshot : Snapshot} {world after : World}
    {pending : Pending} {run : GroupRun} {answer : DnsAnswer}
    (left : Left snapshot world pending run answer)
    (grows : Grows world after) : Left snapshot after pending run answer :=
  { left with member := grows.runs run left.member }

theorem Shares.mono {world after : World} {demand : Demand} {object : Nat}
    (shares : Shares world demand object) (grows : Grows world after) :
    Shares after demand object := by
  obtain ⟨long, pending, found, keyEq⟩ := shares
  obtain ⟨pending', found', keyEq'⟩ := grows.objects object pending found
  exact ⟨long, pending', found', keyEq'.trans keyEq⟩

theorem PhaseExplained.mono {snapshot : Snapshot} {world after : World}
    {demand : Demand} {phase : Phase}
    (explained : PhaseExplained snapshot world demand phase)
    (grows : Grows world after) :
    PhaseExplained snapshot after demand phase := by
  cases phase with
  | ready =>
      trivial
  | following object deadline =>
      exact Shares.mono explained grows
  | leading object =>
      exact Shares.mono explained grows
  | prepared object outcome =>
      refine ⟨explained.1.mono grows, ?_⟩
      intro ready succeeded
      obtain ⟨run, member, facts⟩ := explained.2 ready succeeded
      exact ⟨run, grows.runs run member, facts⟩
  | finished source result =>
      intro reply returned
      obtain ⟨long, run, member, facts⟩ := explained reply returned
      exact ⟨long, run, grows.runs run member, facts⟩

theorem CallExplained.mono {snapshot : Snapshot} {admits : Demand → Prop}
    {world after : World} {call : Call}
    (explained : CallExplained snapshot admits world call)
    (grows : Grows world after) : CallExplained snapshot admits after call :=
  { explained with phase := explained.phase.mono grows }

theorem calls_setCall {snapshot : Snapshot} {admits : Demand → Prop}
    {world after : World} {index : Nat} {call : Call}
    (provenant : Provenant snapshot admits world) (grows : Grows world after)
    (callsEq : after.calls = world.calls.set index call)
    (explained : CallExplained snapshot admits after call) :
    ∀ other ∈ after.calls, CallExplained snapshot admits after other := by
  intro other member
  rw [callsEq] at member
  rcases List.mem_or_eq_of_mem_set member with earlier | rfl
  · exact (provenant.calls other earlier).mono grows
  · exact explained

theorem Provenant.entriesKept {snapshot : Snapshot} {admits : Demand → Prop}
    {world after : World} (provenant : Provenant snapshot admits world)
    (grows : Grows world after) {key : Bytes} {entry : CacheEntry}
    (found : world.state.cache.find? key = some entry) :
    ∃ run answer, Kept snapshot after key entry run answer := by
  obtain ⟨run, answer, kept⟩ := provenant.cached key entry found
  exact ⟨run, answer, kept.mono grows⟩

theorem Provenant.objectsLeft {snapshot : Snapshot} {admits : Demand → Prop}
    {world after : World} (provenant : Provenant snapshot admits world)
    (grows : Grows world after) {object : Nat} {pending : Pending}
    (found : world.state.objects[object]? = some pending) :
    pending.packet = [] ∨
      ∃ run answer, Left snapshot after pending run answer := by
  rcases provenant.objects object pending found with empty | ⟨run, answer, left⟩
  · exact Or.inl empty
  · exact Or.inr ⟨run, answer, left.mono grows⟩

theorem Provenant.shrink {snapshot : Snapshot} {admits : Demand → Prop}
    {world after : World} (provenant : Provenant snapshot admits world)
    (grows : Grows world after)
    (shrinks : Shrinks world.state after.state)
    (runs : ∀ run ∈ after.runs, Performed snapshot run ∧ admits run.demand ∧
      2 ≤ run.demand.request.length)
    (calls : ∀ call ∈ after.calls, CallExplained snapshot admits after call) :
    Provenant snapshot admits after where
  runs := runs
  cached := fun key entry found =>
    provenant.entriesKept grows (shrinks.entries key entry found)
  objects := by
    intro object pending found
    rw [shrinks.objects] at found
    exact provenant.objectsLeft grows found
  pending := by
    intro key object found
    rw [shrinks.pending] at found
    rw [shrinks.objects]
    exact provenant.pending key object found
  calls := calls

theorem grows_of_shrinks {world after : World}
    (shrinks : Shrinks world.state after.state) (clock : world.clock ≤ after.clock)
    (runs : ∀ run ∈ world.runs, run ∈ after.runs) : Grows world after where
  runs := runs
  clock := clock
  objects := by
    intro object pending found
    exact ⟨pending, by rw [shrinks.objects, found], rfl⟩

/-! ### The sections -/

/-- A hit explained: the entry has not expired, so its age is below its
lifetime. -/
theorem hit_delivered {snapshot : Snapshot} {world : World} {demand : Demand}
    {entry : CacheEntry} {run : GroupRun} {answer : DnsAnswer} {now : Nat}
    {reply : Reply}
    (kept : Kept snapshot world demand.key entry run answer)
    (alive : now < entry.expires) (forward : world.clock ≤ now)
    (returned : deliver demand entry.packet entry.usedServerId
      ((now - entry.stored) / nanosPerSecond % 4294967296) = .ok reply) :
    Delivered snapshot run demand .cache reply := by
  unfold deliver at returned
  split at returned
  · rename_i aged copied
    cases returned
    have stored := kept.stored
    have expires := kept.expires
    have seconds : (now - entry.stored) / nanosPerSecond <
        min answer.cacheTtl maxCacheTtl := by
      apply Nat.div_lt_of_lt_mul
      rw [Nat.mul_comm]
      omega
    have fresh : (now - entry.stored) / nanosPerSecond % 4294967296 <
        min answer.cacheTtl maxCacheTtl :=
      Nat.lt_of_le_of_lt (Nat.mod_le _ _) seconds
    rw [kept.used]
    exact .cache kept.prepared kept.cacheable fresh copied
  · cases returned

/-- A finished object explained: a leader that failed without an error code
leaves an empty packet, which cannot be copied. -/
theorem follow_delivered {snapshot : Snapshot} {world : World} {demand : Demand}
    {pending : Pending} {reply : Reply}
    (explained : pending.packet = [] ∨
      ∃ run answer, Left snapshot world pending run answer)
    (sameKey : pending.key = demand.key)
    (returned : followResult demand pending = .ok reply) :
    ∃ run ∈ world.runs, run.demand.key = demand.key ∧
      Delivered snapshot run demand .coalesced reply := by
  unfold followResult at returned
  split at returned
  · cases returned
  · unfold deliver at returned
    rcases explained with empty | ⟨run, answer, left⟩
    · obtain ⟨error, failed⟩ :=
        ageDnsResponse_nil (wordAt demand.request 0) 0
      rw [empty, failed] at returned
      cases returned
    · split at returned
      · rename_i aged copied
        cases returned
        refine ⟨run, left.member, left.sameKey.trans sameKey, ?_⟩
        rw [left.used]
        exact .coalesced left.prepared copied
      · cases returned

theorem prepareOutcome_eq_ok {snapshot : Snapshot} {demand : Demand}
    {tried : List Server} {outcome : GroupOutcome} {ready : Prepared}
    (succeeded : prepareOutcome snapshot demand outcome = .ok ready) :
    ∃ run ∈ returnedRuns demand tried outcome, run.demand = demand ∧
      Prepares snapshot run ready.packet ready.answer ∧
      ready.usedServerId = run.usedServerId := by
  unfold prepareOutcome at succeeded
  split at succeeded
  · cases succeeded
  · rename_i packet server
    split at succeeded
    · cases succeeded
    · rename_i clamped answer prepared
      cases succeeded
      exact ⟨_, List.mem_singleton_self _, rfl, prepared, rfl⟩

theorem mem_returnedRuns {demand : Demand} {tried : List Server}
    {outcome : GroupOutcome} {run : GroupRun}
    (member : run ∈ returnedRuns demand tried outcome) :
    outcome = .ok (run.packet, run.server) ∧ run.demand = demand ∧
      run.contacted = tried := by
  unfold returnedRuns at member
  split at member
  · rw [List.mem_singleton] at member
    subst member
    exact ⟨rfl, rfl, rfl⟩
  · cases member

theorem Provenant.lead {snapshot : Snapshot} {admits : Demand → Prop}
    {world after : World} {key : Bytes}
    (provenant : Provenant snapshot admits world)
    (grows : Grows world after)
    (stateEq : after.state = addPending key world.state)
    (runsEq : after.runs = world.runs)
    (calls : ∀ call ∈ after.calls, CallExplained snapshot admits after call) :
    Provenant snapshot admits after where
  runs := runsEq ▸ provenant.runs
  cached := by
    intro key' entry found
    rw [stateEq] at found
    exact provenant.entriesKept grows found
  objects := by
    intro object pending found
    rw [stateEq] at found
    simp only [addPending] at found
    rw [List.getElem?_append] at found
    split at found
    · exact provenant.objectsLeft grows found
    · have member := List.mem_of_getElem? found
      rw [List.mem_singleton] at member
      subst member
      exact Or.inl rfl
  pending := by
    intro key' object found
    rw [stateEq] at found ⊢
    simp only [addPending] at found ⊢
    rw [OrderedMap.find?_insert] at found
    by_cases same : key = key'
    · rw [if_pos same] at found
      cases found
      refine ⟨{ key := key }, ?_, same⟩
      rw [List.getElem?_append_right (Nat.le_refl _), Nat.sub_self]
      rfl
    · rw [if_neg same] at found
      obtain ⟨pending, foundObject, keyEq⟩ := provenant.pending key' object found
      have inside := (List.getElem?_eq_some_iff.mp foundObject).1
      exact ⟨pending, by rw [List.getElem?_append_left inside, foundObject],
        keyEq⟩
  calls := calls

theorem addPending_grows {world after : World} {key : Bytes}
    (stateEq : after.state = addPending key world.state)
    (clock : world.clock ≤ after.clock)
    (runs : ∀ run ∈ world.runs, run ∈ after.runs) : Grows world after where
  runs := runs
  clock := clock
  objects := by
    intro object pending found
    have inside := (List.getElem?_eq_some_iff.mp found).1
    refine ⟨pending, ?_, rfl⟩
    rw [stateEq]
    simp only [addPending]
    rw [List.getElem?_append_left inside, found]

theorem finishPending_grows {world after : World} {key : Bytes} {object : Nat}
    {outcome : Pending → Pending} {stored : CacheState}
    (sameObjects : stored.objects = world.state.objects)
    (keyed : ∀ pending, (outcome pending).key = pending.key)
    (stateEq : after.state = finishPending key object outcome stored)
    (clock : world.clock ≤ after.clock)
    (runs : ∀ run ∈ world.runs, run ∈ after.runs) : Grows world after where
  runs := runs
  clock := clock
  objects := by
    intro other pending found
    rw [stateEq, finishPending_object, sameObjects, found]
    by_cases here : object = other
    · rw [if_pos here]
      exact ⟨_, rfl, keyed pending⟩
    · rw [if_neg here]
      exact ⟨pending, rfl, rfl⟩

/-- The completion of a leader: the cache keeps explained entries, and the
object of the leader is explained by what was written to it. -/
theorem Provenant.complete {snapshot : Snapshot} {admits : Demand → Prop}
    {world after : World} {key : Bytes} {object : Nat}
    {outcome : Pending → Pending} {stored : CacheState}
    (provenant : Provenant snapshot admits world)
    (grows : Grows world after)
    (samePending : stored.pending = world.state.pending)
    (sameObjects : stored.objects = world.state.objects)
    (cached : ∀ key' entry, stored.cache.find? key' = some entry →
      ∃ run answer, Kept snapshot after key' entry run answer)
    (written : ∀ pending, world.state.objects[object]? = some pending →
      (outcome pending).packet = [] ∨ ∃ run answer,
        Left snapshot after { outcome pending with done := true } run answer)
    (stateEq : after.state = finishPending key object outcome stored)
    (runsEq : after.runs = world.runs)
    (calls : ∀ call ∈ after.calls, CallExplained snapshot admits after call) :
    Provenant snapshot admits after where
  runs := runsEq ▸ provenant.runs
  cached := by
    intro key' entry found
    rw [stateEq] at found
    exact cached key' entry found
  objects := by
    intro other pending found
    rw [stateEq, finishPending_object, sameObjects] at found
    by_cases here : object = other
    · subst here
      rw [if_pos rfl, Option.map_eq_some_iff] at found
      obtain ⟨before, foundBefore, rfl⟩ := found
      exact written before foundBefore
    · rw [if_neg here] at found
      exact provenant.objectsLeft grows found
  pending := by
    intro key' other found
    rw [stateEq] at found
    simp only [finishPending] at found
    have before : world.state.pending.find? key' = some other := by
      rw [OrderedMap.find?_erase, samePending] at found
      split at found
      · cases found
      · exact found
    obtain ⟨pending, foundObject, keyEq⟩ := provenant.pending key' other before
    obtain ⟨pending', found', keyEq'⟩ := grows.objects other pending foundObject
    exact ⟨pending', found', keyEq'.trans keyEq⟩
  calls := calls

/-! ### Preservation -/

theorem provenant_initial (snapshot : Snapshot) (admits : Demand → Prop) :
    Provenant snapshot admits {} where
  runs := by simp
  cached := by
    intro key entry found
    cases found
  objects := by
    intro object pending found
    cases found
  pending := by
    intro key object found
    cases found
  calls := by simp

theorem Provenant.callStep {snapshot : Snapshot} {admits : Demand → Prop}
    {world : World} {index later : Nat} {call : Call} {state : CacheState}
    {phase : Phase} (provenant : Provenant snapshot admits world)
    (found : world.calls[index]? = some call) (clock : world.clock ≤ later)
    (shrinks : Shrinks world.state state)
    (explained : PhaseExplained snapshot world call.demand phase) :
    Provenant snapshot admits
      (({ world with clock := later, state := state } : World).setCall index
        { call with phase := phase }) := by
  let after : World :=
    ({ world with clock := later, state := state } : World).setCall index
      { call with phase := phase }
  have before := provenant.calls call (List.mem_of_getElem? found)
  have grows : Grows world after :=
    grows_of_shrinks shrinks clock (fun _ member => member)
  exact provenant.shrink grows shrinks provenant.runs
    (calls_setCall provenant grows rfl
      ⟨before.admitted, before.contacted, explained.mono grows⟩)

theorem Provenant.enter {snapshot : Snapshot} {admits : Demand → Prop}
    {world : World} {index : Nat} {call : Call} {now later : Nat}
    (provenant : Provenant snapshot admits world)
    (found : world.calls[index]? = some call)
    (forward : world.clock ≤ now) (onward : now ≤ later)
    {result : CacheState × Phase}
    (entered : Entering call.demand now later world.state result) :
    Provenant snapshot admits
      (({ world with clock := later, state := result.1 } : World).setCall index
        { call with phase := result.2 }) := by
  have swept := sweepExpired_shrinks now world.state
  have clock : world.clock ≤ later := Nat.le_trans forward onward
  cases entered with
  | short tooShort raised =>
      refine provenant.callStep found clock (Shrinks.refl _) ?_
      intro reply returned
      obtain ⟨thrown, rfl⟩ := raised
      cases returned
  | hit long cached =>
      refine provenant.callStep found clock swept ?_
      intro reply returned
      obtain ⟨run, answer, kept⟩ :=
        provenant.cached _ _ (swept.entries _ _ cached)
      exact ⟨long, run, kept.member, kept.sameKey,
        hit_delivered kept (sweepExpired_fresh cached) forward returned⟩
  | busy raised =>
      refine provenant.callStep found clock swept ?_
      intro reply returned
      obtain ⟨thrown, rfl⟩ := raised
      cases returned
  | follow long shared =>
      refine provenant.callStep found clock swept ?_
      exact ⟨long, provenant.pending _ _ shared⟩
  | lead long uncached free room =>
      -- the sweep and the new object, one after the other
      let middle : World :=
        { world with
          clock := later
          state := sweepExpired now world.state }
      let after : World :=
        ({ middle with
            state := addPending call.demand.key
              (sweepExpired now world.state) } : World).setCall index
          { call with phase := .leading world.state.objects.length }
      have toMiddle : Grows world middle :=
        grows_of_shrinks swept clock (fun _ member => member)
      have middleProvenant : Provenant snapshot admits middle :=
        provenant.shrink toMiddle swept provenant.runs
          (fun other member => (provenant.calls other member).mono toMiddle)
      have grows : Grows middle after :=
        addPending_grows rfl (Nat.le_refl later) (fun _ member => member)
      have before := middleProvenant.calls call (List.mem_of_getElem? found)
      refine middleProvenant.lead grows rfl rfl
        (calls_setCall middleProvenant grows rfl
          ⟨before.admitted, before.contacted, long,
            { key := call.demand.key }, ?_, rfl⟩)
      have created : world.state.objects.length =
          (sweepExpired now world.state).objects.length := by
        rw [swept.objects]
      change ((sweepExpired now world.state).objects ++
        [{ key := call.demand.key }])[world.state.objects.length]? = _
      rw [created, List.getElem?_append_right (Nat.le_refl _), Nat.sub_self]
      rfl

theorem Provenant.finish {snapshot : Snapshot} {admits : Demand → Prop}
    {world : World} {index object now : Nat} {call : Call}
    {outcome : Except Thrown Prepared}
    (provenant : Provenant snapshot admits world)
    (found : world.calls[index]? = some call)
    (prepared : call.phase = .prepared object outcome)
    (forward : world.clock ≤ now) {result : CacheState × Phase}
    (completed : Completing call.demand object outcome now world.state result) :
    Provenant snapshot admits
      (({ world with clock := now, state := result.1 } : World).setCall index
        { call with phase := result.2 }) := by
  have before := provenant.calls call (List.mem_of_getElem? found)
  have phase := before.phase
  rw [prepared] at phase
  obtain ⟨⟨long, shared, sharedFound, sharedKey⟩, explained⟩ := phase
  let after : World :=
    ({ world with clock := now, state := result.1 } : World).setCall index
      { call with phase := result.2 }
  cases completed with
  | @success ready succeeded =>
      obtain ⟨run, member, runDemand, prepares, used⟩ := explained ready succeeded
      have sharedFrame := storeReply_frame call.demand.key ready.packet ready.answer
        ready.usedServerId now world.state
      have stateEq : after.state = finishPending call.demand.key object
          (fun pending =>
            { pending with
              packet := ready.packet
              usedServerId := ready.usedServerId })
          (storeReply call.demand.key ready.packet ready.answer
            ready.usedServerId now world.state) := rfl
      have grows : Grows world after :=
        finishPending_grows sharedFrame.2 (fun _ => by rfl) stateEq forward
          (fun _ member => member)
      refine provenant.complete grows sharedFrame.1 sharedFrame.2 ?_ ?_ stateEq rfl
        (calls_setCall provenant grows rfl
          ⟨before.admitted, before.contacted, ?_⟩)
      · intro key entry stored
        rcases storeReply_entry stored with earlier | ⟨rfl, cacheable, rfl⟩
        · exact provenant.entriesKept grows earlier
        · exact ⟨run, ready.answer, member, by rw [runDemand], prepares,
            cacheable, used, rfl, Nat.le_refl now⟩
      · intro pending foundPending
        right
        rw [sharedFound] at foundPending
        cases foundPending
        exact ⟨run, ready.answer, member, by rw [runDemand]; exact sharedKey.symm,
          prepares, used⟩
      · intro reply returned
        cases returned
        refine ⟨long, run, member, by rw [runDemand], ?_⟩
        rw [used]
        exact .led runDemand prepares
  | @failure thrown failed =>
      have stateEq : after.state = finishPending call.demand.key object
          (fun pending =>
            { pending with
              errorCode := (pendingError thrown).code
              errorMessage := (pendingError thrown).message })
          world.state := rfl
      have grows : Grows world after :=
        finishPending_grows rfl (fun _ => by rfl) stateEq forward
          (fun _ member => member)
      refine provenant.complete grows rfl rfl
        (fun key entry => provenant.entriesKept grows)
        (fun pending foundPending => ?_) stateEq rfl
        (calls_setCall provenant grows rfl
          ⟨before.admitted, before.contacted, ?_⟩)
      · rcases provenant.objectsLeft grows foundPending with
          empty | ⟨run, answer, left⟩
        · exact Or.inl empty
        · exact Or.inr ⟨run, answer, left.member, left.sameKey, left.prepared,
            left.used⟩
      · intro reply returned
        cases returned

theorem Provenant.step {snapshot : Snapshot} {admits : Demand → Prop}
    {world after : World} (provenant : Provenant snapshot admits world)
    (moved : Step snapshot admits world after) :
    Provenant snapshot admits after := by
  have same := Shrinks.refl world.state
  cases moved with
  | @begin demand admitted =>
      have grows : Grows world
          { world with calls := world.calls ++ [{ demand := demand }] } :=
        grows_of_shrinks same (Nat.le_refl _) (fun _ member => member)
      refine provenant.shrink grows same provenant.runs ?_
      intro call member
      rcases List.mem_append.mp member with earlier | new
      · exact (provenant.calls call earlier).mono grows
      · rw [List.mem_singleton.mp new]
        exact ⟨admitted, by simp, trivial⟩
  | @tick now forward =>
      have grows : Grows world { world with clock := now } :=
        grows_of_shrinks same forward (fun _ member => member)
      exact provenant.shrink grows same provenant.runs
        (fun call member => (provenant.calls call member).mono grows)
  | enter found ready forward onward =>
      exact provenant.enter found forward onward (enterCall_entering ..)
  | @exchange index call object env before after outcome tried found leading run
      grown =>
      let moved : World :=
        ({ world with
            runs := world.runs ++ returnedRuns call.demand tried outcome } :
          World).setCall index
          { call with
            phase :=
              .prepared object (prepareOutcome snapshot call.demand outcome)
            contacted := call.contacted ++ tried }
      have explained := provenant.calls call (List.mem_of_getElem? found)
      have phase := explained.phase
      rw [leading] at phase
      have grows : Grows world moved :=
        grows_of_shrinks same (Nat.le_refl _)
          (fun _ member => List.mem_append_left _ member)
      refine provenant.shrink grows same ?_ (calls_setCall provenant grows rfl ?_)
      · intro other member
        rcases List.mem_append.mp member with earlier | new
        · exact provenant.runs other earlier
        · obtain ⟨outcomeEq, demandEq, contactedEq⟩ := mem_returnedRuns new
          rw [outcomeEq, ← demandEq] at run
          rw [← contactedEq] at grown
          exact ⟨⟨env, before, after, run, grown⟩,
            demandEq.symm ▸ explained.admitted, demandEq.symm ▸ phase.1⟩
      · have attempts := (exchangeGroup_tried run).attempts
        refine ⟨explained.admitted, ?_, phase.mono grows, ?_⟩
        · intro attempt member
          rcases List.mem_append.mp member with earlier | new
          · exact explained.contacted attempt earlier
          · obtain ⟨triedHere, grownHere, each⟩ := attempts
            have sameTried := List.append_cancel_left (grown.symm.trans grownHere)
            exact each attempt (sameTried ▸ new)
        · intro ready succeeded
          obtain ⟨other, member, facts⟩ := prepareOutcome_eq_ok succeeded
          exact ⟨other, List.mem_append_right _ member, facts⟩
  | complete found prepared forward =>
      exact provenant.finish found prepared forward (completeCall_completing ..)
  | @wake index call object deadline pending found following shared done =>
      refine provenant.callStep found (Nat.le_refl _) same ?_
      intro reply returned
      have phase := (provenant.calls call (List.mem_of_getElem? found)).phase
      rw [following] at phase
      obtain ⟨long, pending', shared', keyEq⟩ := phase
      rw [shared] at shared'
      cases shared'
      exact ⟨long, follow_delivered (provenant.objects object pending shared)
        keyEq returned⟩
  | timeout found following passed =>
      refine provenant.callStep found (Nat.le_refl _) same ?_
      intro reply returned
      cases returned
  | cancel found following =>
      refine provenant.callStep found (Nat.le_refl _) same ?_
      intro reply returned
      cases returned

theorem Reached.provenant {snapshot : Snapshot} {admits : Demand → Prop}
    {world : World} (reached : Reached snapshot admits world) :
    Provenant snapshot admits world :=
  Transition.Reachable.invariant
    (fun _ begins => begins ▸ provenant_initial snapshot admits)
    (fun _ _ _ provenant moved => provenant.step moved) reached

/-! ### Runs for evaluated examples -/

def answering (answer : Except Thrown Packet) : GroupEnv where
  clock := fun _ => 0
  interfere := fun _ health => health
  exchange := fun _ _ => answer
  sorting := .insertion

theorem exists_led_call (snapshot : Snapshot) {admits : Demand → Prop}
    {demand : Demand} (admitted : admits demand)
    (long : ¬ demand.request.length < 2) (env : GroupEnv) :
    ∃ world, Reached snapshot admits world ∧ ∃ call ∈ world.calls,
      call.demand = demand ∧
      call.contacted = (exchangeGroup env snapshot.config.servers
        demand.primary { health := OrderedMap.empty }).2.contacted ∧
      call.phase = (completeCall demand 0
        (prepareOutcome snapshot demand
          (exchangeGroup env snapshot.config.servers demand.primary
            { health := OrderedMap.empty }).1)
        0 (enterCall demand 0 0 {}).1).2 := by
  generalize run : exchangeGroup env snapshot.config.servers demand.primary
    { health := OrderedMap.empty } = result
  obtain ⟨outcome, after⟩ := result
  let call : Call := { demand := demand }
  let entered : Call := { call with phase := (enterCall demand 0 0 {}).2 }
  let exchanged : Call :=
    { entered with
      phase := .prepared 0 (prepareOutcome snapshot demand outcome)
      contacted := after.contacted }
  have begun : Reached snapshot admits { calls := [call] } :=
    .next (.start rfl) (.begin admitted)
  have afterEnter : Reached snapshot admits
      { state := (enterCall demand 0 0 {}).1
        calls := [entered] } :=
    .next begun (@Step.enter _ _ { calls := [call] } 0 call 0 0 rfl rfl
      (Nat.le_refl 0) (Nat.le_refl 0))
  have leads : entered.phase = .leading 0 := by
    change (enterCall demand 0 0 {}).2 = _
    unfold enterCall
    rw [if_neg long]
    rfl
  have afterExchange : Reached snapshot admits
      { state := (enterCall demand 0 0 {}).1
        calls := [exchanged]
        runs := returnedRuns demand after.contacted outcome } :=
    .next afterEnter (@Step.exchange _ _ _ 0 entered 0 _ _ _ _
      after.contacted rfl leads run rfl)
  exact ⟨_, .next afterExchange
    (@Step.complete _ _ _ 0 exchanged 0 0 _ rfl rfl (Nat.le_refl 0)),
    _, List.mem_cons_self, rfl, rfl, rfl⟩

section HitRun

variable (leader caller : Demand) (reply : Packet) (elapsed : Nat)

def hitOutcome : Except Thrown Prepared :=
  prepareOutcome defaultSnapshot leader (.ok (reply, leader.primary))

def hitState : CacheState :=
  (completeCall leader 0 (hitOutcome leader reply) 0
    (enterCall leader 0 0 {}).1).1

/-- The state after one call led an exchange at time zero and another call
entered some nanoseconds later. -/
def hitWorld : World :=
  { clock := elapsed
    state := (enterCall caller elapsed elapsed (hitState leader reply)).1
    calls :=
      [{ demand := leader
         phase :=
           (completeCall leader 0 (hitOutcome leader reply) 0
             (enterCall leader 0 0 {}).1).2
         contacted := [leader.primary] },
       { demand := caller
         phase :=
           (enterCall caller elapsed elapsed (hitState leader reply)).2 }]
    runs :=
      [{ demand := leader
         contacted := [leader.primary]
         packet := reply
         server := leader.primary }] }

theorem hitWorld_reached {admits : Demand → Prop} (admitsLeader : admits leader)
    (admitsCaller : admits caller) (original : leader.primary.id = 0)
    (leads : (enterCall leader 0 0 {}).2 = .leading 0) :
    Reached defaultSnapshot admits (hitWorld leader caller reply elapsed) := by
  let first : Call := { demand := leader }
  let second : Call := { demand := caller }
  let entered : Call := { first with phase := (enterCall leader 0 0 {}).2 }
  let exchanged : Call :=
    { entered with
      phase := .prepared 0 (hitOutcome leader reply)
      contacted := [leader.primary] }
  let run : GroupRun :=
    { demand := leader
      contacted := [leader.primary]
      packet := reply
      server := leader.primary }
  have begun : Reached defaultSnapshot admits { calls := [first, second] } :=
    .next (.next (.start rfl) (.begin admitsLeader)) (.begin admitsCaller)
  have afterEnter : Reached defaultSnapshot admits
      { state := (enterCall leader 0 0 {}).1
        calls := [entered, second] } :=
    .next begun (@Step.enter _ _ { calls := [first, second] } 0 first 0 0 rfl rfl
      (Nat.le_refl 0) (Nat.le_refl 0))
  have ran : exchangeGroup (answering (.ok reply))
      defaultSnapshot.config.servers leader.primary
      { health := OrderedMap.empty } =
        (.ok (reply, leader.primary),
          { health := OrderedMap.empty
            contacted := [leader.primary] }) := by
    unfold exchangeGroup
    rw [if_pos (Or.inl original)]
    rfl
  have afterExchange : Reached defaultSnapshot admits
      { state := (enterCall leader 0 0 {}).1
        calls := [exchanged, second]
        runs := [run] } :=
    .next afterEnter (@Step.exchange _ _ _ 0 entered 0 _ _ _ _
      [leader.primary] rfl leads ran rfl)
  have afterComplete : Reached defaultSnapshot admits
      { state := hitState leader reply
        calls :=
          [{ exchanged with
              phase :=
                (completeCall leader 0 (hitOutcome leader reply) 0
                  (enterCall leader 0 0 {}).1).2 },
            second]
        runs := [run] } :=
    .next afterExchange
      (@Step.complete _ _ _ 0 exchanged 0 0 _ rfl rfl (Nat.le_refl 0))
  exact .next afterComplete
    (@Step.enter _ _ _ 1 second elapsed elapsed rfl rfl (Nat.zero_le _)
      (Nat.le_refl _))

theorem hitWorld_call {phase : Phase}
    (entered :
      (enterCall caller elapsed elapsed (hitState leader reply)).2 = phase) :
    ∃ call ∈ (hitWorld leader caller reply elapsed).calls,
      call.demand = caller ∧ call.phase = phase :=
  ⟨_, List.mem_cons_of_mem _ List.mem_cons_self, rfl, entered⟩

end HitRun

end NativeDNS
