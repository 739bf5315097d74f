/-
Any number of `exchange_cached` calls on one snapshot.

The atomic steps are those of the source: the locked section that looks up,
follows or leads; the exchange of a leader, which holds no lock; and the locked
section that completes it.  A follower ends when the shared object is done,
when its deadline has passed, or when it is cancelled.  Each locked section
reads a clock that never goes back.

`runs` records the group exchanges that returned a reply, and `contacted` the
servers a call handed to a transport; the code keeps neither.
-/
import NativeDNS.Router.Cache
import NativeDNS.Library.Transition

namespace NativeDNS

open ByteText (text)
open CheckedResult

/-- The immutable part of a snapshot, and the platform it runs on. -/
structure Snapshot where
  platform : Platform
  config : Config
  options : RuntimeOptions

/-- The arguments of one `exchange_cached` call. -/
structure Demand where
  request : Packet
  primary : Server
  configured : Bool

def Demand.key (demand : Demand) : Bytes :=
  cacheKey demand.configured demand.primary demand.request

structure Reply where
  packet : Packet
  usedServerId : UInt32
  deriving DecidableEq

/-- A leader's reply after clamping and parsing. -/
structure Prepared where
  packet : Packet
  answer : DnsAnswer
  usedServerId : UInt32
  deriving DecidableEq

/-- Where the result of a call comes from. -/
inductive Source where
  | rejected
  | cache
  | coalesced
  | led
  deriving DecidableEq

inductive Phase where
  | ready
  | following (object deadline : Nat)
  | leading (object : Nat)
  | prepared (object : Nat) (outcome : Except Thrown Prepared)
  | finished (source : Source) (result : Except Thrown Reply)
  deriving DecidableEq

structure Call where
  demand : Demand
  phase : Phase := .ready
  contacted : List Server := []

structure GroupRun where
  demand : Demand
  contacted : List Server
  packet : Packet
  server : Server

structure World where
  clock : Nat := 0
  state : CacheState := {}
  calls : List Call := []
  runs : List GroupRun := []

/-! ### The code of the sections -/

def followLimit : Nat := 120 * nanosPerSecond

def deliver (demand : Demand) (packet : Packet) (usedServerId : UInt32)
    (elapsedSeconds : Nat) : Except Thrown Reply :=
  match ageDnsResponse packet (wordAt demand.request 0) elapsedSeconds with
  | .ok packet =>
      .ok
        { packet := packet
          usedServerId := usedServerId }
  | .error error => .error (.error error)

/-- The first section of a call; a follower reads the clock again for its
deadline. -/
def enterCall (demand : Demand) (now later : Nat) (state : CacheState) :
    CacheState × Phase :=
  if demand.request.length < 2 then
    (state, .finished .rejected
      (.error (.error (.of "DNS_MALFORMED" "DNS request is too short"))))
  else
    match enterCache demand.key now state with
    | (state, .hit entry elapsed) =>
        (state, .finished .cache
          (deliver demand entry.packet entry.usedServerId elapsed))
    | (state, .busy) =>
        (state, .finished .rejected
          (.error (.error
            (.of "UPSTREAM_BUSY" "Too many distinct DNS queries in flight"))))
    | (state, .follow object) => (state, .following object (later + followLimit))
    | (state, .lead object) => (state, .leading object)

def prepareReply (snapshot : Snapshot) (demand : Demand) (packet : Packet) :
    Checked (Packet × DnsAnswer) := do
  let clamped ←
    clampDnsTtl snapshot.platform packet snapshot.options.ttlMin
      snapshot.options.ttlMax
  let question ← parseQuestion demand.request
  let answer ← parseResponse snapshot.platform clamped question
  pure (clamped, answer)

/-- The part of a leader between its two locked sections, after the group
exchange. -/
def prepareOutcome (snapshot : Snapshot) (demand : Demand) :
    GroupOutcome → Except Thrown Prepared
  | .error thrown => .error thrown
  | .ok (packet, server) =>
      match prepareReply snapshot demand packet with
      | .error error => .error (.error error)
      | .ok (clamped, answer) =>
          .ok
            { packet := clamped
              answer := answer
              usedServerId := if demand.configured then server.id else 0 }

def completeCall (demand : Demand) (object : Nat)
    (outcome : Except Thrown Prepared) (now : Nat) (state : CacheState) :
    CacheState × Phase :=
  match outcome with
  | .ok ready =>
      (completeSuccess demand.key object ready.packet ready.answer
          ready.usedServerId now state,
        .finished .led
          (.ok
            { packet := ready.packet
              usedServerId := ready.usedServerId }))
  | .error thrown =>
      (completeFailure demand.key object thrown state,
        .finished .led (.error thrown))

def followResult (demand : Demand) (pending : Pending) : Except Thrown Reply :=
  if pending.errorCode ≠ "" then
    .error (.error
      { code := pending.errorCode
        message := pending.errorMessage })
  else deliver demand pending.packet pending.usedServerId 0

def followTimeout : Error :=
  .of "TIMEOUT" "Coalesced DNS request deadline exceeded"

def followCancelled : Error :=
  .of "CANCELLED" "DNS operation cancelled during shutdown"

/-! ### Steps -/

def returnedRuns (demand : Demand) (tried : List Server) :
    GroupOutcome → List GroupRun
  | .ok (packet, server) =>
      [{ demand := demand
         contacted := tried
         packet := packet
         server := server }]
  | .error _ => []

def World.setCall (world : World) (index : Nat) (call : Call) : World :=
  { world with calls := world.calls.set index call }

/-- One step of the calls on a snapshot.  `admits` says which calls there can
be. -/
inductive Step (snapshot : Snapshot) (admits : Demand → Prop) :
    World → World → Prop
  | begin {world : World} {demand : Demand} (admitted : admits demand) :
      Step snapshot admits world
        { world with calls := world.calls ++ [{ demand := demand }] }
  | tick {world : World} {now : Nat} (forward : world.clock ≤ now) :
      Step snapshot admits world { world with clock := now }
  | enter {world : World} {index : Nat} {call : Call} {now later : Nat}
      (found : world.calls[index]? = some call) (ready : call.phase = .ready)
      (forward : world.clock ≤ now) (onward : now ≤ later) :
      Step snapshot admits world
        ({ world with
            clock := later
            state := (enterCall call.demand now later world.state).1 }.setCall
          index
          { call with
            phase := (enterCall call.demand now later world.state).2 })
  | exchange {world : World} {index : Nat} {call : Call} {object : Nat}
      {env : GroupEnv} {before after : GroupState} {outcome : GroupOutcome}
      {tried : List Server}
      (found : world.calls[index]? = some call)
      (leading : call.phase = .leading object)
      (run : exchangeGroup env snapshot.config.servers call.demand.primary
        before = (outcome, after))
      (grown : after.contacted = before.contacted ++ tried) :
      Step snapshot admits world
        ({ world with
            runs := world.runs ++ returnedRuns call.demand tried outcome }.setCall
          index
          { call with
            phase :=
              .prepared object (prepareOutcome snapshot call.demand outcome)
            contacted := call.contacted ++ tried })
  | complete {world : World} {index : Nat} {call : Call} {object now : Nat}
      {outcome : Except Thrown Prepared}
      (found : world.calls[index]? = some call)
      (prepared : call.phase = .prepared object outcome)
      (forward : world.clock ≤ now) :
      Step snapshot admits world
        ({ world with
            clock := now
            state :=
              (completeCall call.demand object outcome now world.state).1 }.setCall
          index
          { call with
            phase :=
              (completeCall call.demand object outcome now world.state).2 })
  | wake {world : World} {index : Nat} {call : Call} {object deadline : Nat}
      {pending : Pending}
      (found : world.calls[index]? = some call)
      (following : call.phase = .following object deadline)
      (shared : world.state.objects[object]? = some pending)
      (done : pending.done = true) :
      Step snapshot admits world
        (world.setCall index
          { call with
            phase := .finished .coalesced (followResult call.demand pending) })
  | timeout {world : World} {index : Nat} {call : Call} {object deadline : Nat}
      (found : world.calls[index]? = some call)
      (following : call.phase = .following object deadline)
      (passed : deadline ≤ world.clock) :
      Step snapshot admits world
        (world.setCall index
          { call with
            phase := .finished .coalesced (.error (.error followTimeout)) })
  | cancel {world : World} {index : Nat} {call : Call} {object deadline : Nat}
      (found : world.calls[index]? = some call)
      (following : call.phase = .following object deadline) :
      Step snapshot admits world
        (world.setCall index
          { call with
            phase := .finished .coalesced (.error (.error followCancelled)) })

/-- The states of the calls on one snapshot. -/
abbrev Reached (snapshot : Snapshot) (admits : Demand → Prop) : World → Prop :=
  Transition.Reachable (fun world => world = {}) (Step snapshot admits)

/-! ### Leaders -/

def Phase.leads : Phase → Option Nat
  | .leading object => some object
  | .prepared object _ => some object
  | _ => none

/-- A call that leads the object of a key and has not completed. -/
def World.Leads (world : World) (index : Nat) (key : Bytes) (object : Nat) :
    Prop :=
  ∃ call, world.calls[index]? = some call ∧ call.demand.key = key ∧
    call.phase.leads = some object

theorem World.setCall_self {world : World} {index : Nat} {call after : Call}
    (found : world.calls[index]? = some call) :
    (world.setCall index after).calls[index]? = some after := by
  have inside : index < world.calls.length :=
    (List.getElem?_eq_some_iff.mp found).1
  simp only [setCall]
  rw [List.getElem?_set_self inside]

theorem World.setCall_other {world : World} {index other : Nat} {after : Call}
    (different : index ≠ other) :
    (world.setCall index after).calls[other]? = world.calls[other]? :=
  List.getElem?_set_ne different

theorem World.leads_setCall (world : World) {index other : Nat}
    {call after : Call} {key : Bytes} {object : Nat}
    (found : world.calls[index]? = some call)
    (sameDemand : after.demand = call.demand) :
    (world.setCall index after).Leads other key object ↔
      if index = other then
        call.demand.key = key ∧ after.phase.leads = some object
      else world.Leads other key object := by
  unfold World.Leads
  by_cases same : index = other
  · subst same
    rw [if_pos rfl, World.setCall_self found]
    constructor
    · rintro ⟨_, here, keyEq, leads⟩
      cases here
      exact ⟨sameDemand ▸ keyEq, leads⟩
    · rintro ⟨keyEq, leads⟩
      exact ⟨after, rfl, sameDemand.symm ▸ keyEq, leads⟩
  · rw [if_neg same, World.setCall_other same]

theorem World.leads_setCall_of_eq (world : World) {index other : Nat}
    {call after : Call} {key : Bytes} {object : Nat}
    (found : world.calls[index]? = some call)
    (sameDemand : after.demand = call.demand)
    (sameLead : after.phase.leads = call.phase.leads) :
    (world.setCall index after).Leads other key object ↔
      world.Leads other key object := by
  rw [World.leads_setCall world found sameDemand]
  by_cases same : index = other
  · subst same
    rw [if_pos rfl, sameLead]
    unfold World.Leads
    rw [found]
    simp
  · rw [if_neg same]

theorem World.leads_setCall_none (world : World) {index other : Nat}
    {call after : Call} {key : Bytes} {object : Nat}
    (found : world.calls[index]? = some call)
    (sameDemand : after.demand = call.demand)
    (unled : after.phase.leads = none) :
    (world.setCall index after).Leads other key object ↔
      if index = other then False else world.Leads other key object := by
  rw [World.leads_setCall world found sameDemand, unled]
  simp

/-! ### The invariant -/

structure Coherent (world : World) : Prop where
  accounted : Accounted world.state
  entries : world.state.cache.size ≤ maxCacheEntries
  bytes : world.state.cacheBytes ≤ maxCacheBytes ∨ world.state.cache.size ≤ 1
  inFlight : world.state.pending.size ≤ maxPending
  disjoint : ∀ key object, world.state.pending.find? key = some object →
    world.state.cache.find? key = none
  led : ∀ key object, world.state.pending.find? key = some object →
    ∃ index, world.Leads index key object
  leading : ∀ index key object, world.Leads index key object →
    world.state.pending.find? key = some object
  created : ∀ index key object, world.Leads index key object →
    object < world.state.objects.length
  alone : ∀ index other key key' object, world.Leads index key object →
    world.Leads other key' object → index = other

theorem coherent_initial : Coherent {} where
  accounted := ⟨rfl, rfl⟩
  entries := by decide
  bytes := Or.inl (by decide)
  inFlight := by decide
  disjoint := by
    intro key object found
    cases found
  led := by
    intro key object found
    cases found
  leading := by
    rintro index key object ⟨call, found, _⟩
    cases found
  created := by
    rintro index key object ⟨call, found, _⟩
    cases found
  alone := by
    rintro index other key key' object ⟨call, found, _⟩
    cases found

/-- Removing cache entries without touching any leadership keeps the
invariant. -/
theorem Coherent.shrink {world after : World} (coherent : Coherent world)
    (shrinks : Shrinks world.state after.state)
    (leads : ∀ index key object,
      after.Leads index key object ↔ world.Leads index key object) :
    Coherent after where
  accounted := shrinks.accounted coherent.accounted
  entries := Nat.le_trans shrinks.size coherent.entries
  bytes := by
    have accounted := (shrinks.accounted coherent.accounted).bytes
    have before := coherent.accounted.bytes
    have fewer := shrinks.bytes
    have smaller := shrinks.size
    exact coherent.bytes.imp (by omega) (by omega)
  inFlight := shrinks.pending ▸ coherent.inFlight
  disjoint := by
    intro key object found
    rw [shrinks.pending] at found
    have free := coherent.disjoint key object found
    cases cached : after.state.cache.find? key with
    | none =>
        rfl
    | some entry =>
        rw [shrinks.entries _ _ cached] at free
        cases free
  led := by
    intro key object found
    rw [shrinks.pending] at found
    obtain ⟨index, leader⟩ := coherent.led key object found
    exact ⟨index, (leads index key object).mpr leader⟩
  leading := by
    intro index key object leader
    rw [shrinks.pending]
    exact coherent.leading index key object ((leads _ _ _).mp leader)
  created := by
    intro index key object leader
    rw [shrinks.objects]
    exact coherent.created index key object ((leads _ _ _).mp leader)
  alone := by
    intro index other key key' object leader leader'
    exact coherent.alone index other key key' object ((leads _ _ _).mp leader)
      ((leads _ _ _).mp leader')

/-! ### What the sections do -/

def addPending (key : Bytes) (state : CacheState) : CacheState :=
  { state with
    pending := state.pending.insert key state.objects.length
    objects := state.objects ++ [{ key := key }] }

inductive Entering (demand : Demand) (now later : Nat) (state : CacheState) :
    CacheState × Phase → Prop
  | short (tooShort : demand.request.length < 2) {result : Except Thrown Reply}
      (raised : ∃ thrown, result = .error thrown) :
      Entering demand now later state (state, .finished .rejected result)
  | hit {entry : CacheEntry} (long : 2 ≤ demand.request.length)
      (cached : (sweepExpired now state).cache.find? demand.key = some entry) :
      Entering demand now later state
        (sweepExpired now state, .finished .cache
          (deliver demand entry.packet entry.usedServerId
            ((now - entry.stored) / nanosPerSecond % 4294967296)))
  | busy {result : Except Thrown Reply}
      (raised : ∃ thrown, result = .error thrown) :
      Entering demand now later state
        (sweepExpired now state, .finished .rejected result)
  | follow {object : Nat} (long : 2 ≤ demand.request.length)
      (shared : state.pending.find? demand.key = some object) :
      Entering demand now later state
        (sweepExpired now state, .following object (later + followLimit))
  | lead (long : 2 ≤ demand.request.length)
      (uncached : (sweepExpired now state).cache.find? demand.key = none)
      (free : state.pending.find? demand.key = none)
      (room : state.pending.size < maxPending) :
      Entering demand now later state
        (addPending demand.key (sweepExpired now state),
          .leading state.objects.length)

theorem enterCall_entering (demand : Demand) (now later : Nat)
    (state : CacheState) :
    Entering demand now later state (enterCall demand now later state) := by
  unfold enterCall
  split
  · rename_i tooShort
    exact .short tooShort ⟨_, rfl⟩
  · rename_i longEnough
    have long := Nat.le_of_not_lt longEnough
    have samePending := (sweepExpired_shrinks now state).pending
    have sameObjects := (sweepExpired_shrinks now state).objects
    unfold enterCache
    dsimp only
    cases cached : (sweepExpired now state).cache.find? demand.key with
    | some entry =>
        exact .hit long cached
    | none =>
        cases shared : (sweepExpired now state).pending.find? demand.key with
        | some object =>
            exact .follow long (samePending ▸ shared)
        | none =>
            dsimp only
            by_cases full : (sweepExpired now state).pending.size ≥ maxPending
            · rw [if_pos full]
              exact .busy ⟨_, rfl⟩
            · rw [if_neg full]
              dsimp only
              rw [sameObjects]
              have room : state.pending.size < maxPending := by
                rw [← samePending]
                omega
              have led : Entering demand now later state _ :=
                .lead long cached (samePending ▸ shared) room
              rwa [addPending, sameObjects] at led

inductive Completing (demand : Demand) (object : Nat)
    (outcome : Except Thrown Prepared) (now : Nat) (state : CacheState) :
    CacheState × Phase → Prop
  | success {ready : Prepared} (succeeded : outcome = .ok ready) :
      Completing demand object outcome now state
        (finishPending demand.key object
            (fun pending =>
              { pending with
                packet := ready.packet
                usedServerId := ready.usedServerId })
            (storeReply demand.key ready.packet ready.answer
              ready.usedServerId now state),
          .finished .led
            (.ok
              { packet := ready.packet
                usedServerId := ready.usedServerId }))
  | failure {thrown : Thrown} (failed : outcome = .error thrown) :
      Completing demand object outcome now state
        (finishPending demand.key object
            (fun pending =>
              { pending with
                errorCode := (pendingError thrown).code
                errorMessage := (pendingError thrown).message })
            state,
          .finished .led (.error thrown))

theorem completeCall_completing (demand : Demand) (object : Nat)
    (outcome : Except Thrown Prepared) (now : Nat) (state : CacheState) :
    Completing demand object outcome now state
      (completeCall demand object outcome now state) := by
  cases outcome with
  | ok ready =>
      exact .success rfl
  | error thrown =>
      exact .failure rfl

/-! ### Preservation -/

theorem Coherent.lead {world after : World} (coherent : Coherent world)
    (index : Nat) (key : Bytes)
    (idle : ∀ key' object, ¬ world.Leads index key' object)
    (uncached : world.state.cache.find? key = none)
    (free : world.state.pending.find? key = none)
    (room : world.state.pending.size < maxPending)
    (stateEq : after.state = addPending key world.state)
    (leads : ∀ other key' object, after.Leads other key' object ↔
      if index = other then key = key' ∧ some world.state.objects.length = some object
      else world.Leads other key' object) :
    Coherent after where
  accounted := stateEq ▸ ⟨coherent.accounted.bytes, coherent.accounted.unwrapped⟩
  entries := stateEq ▸ coherent.entries
  bytes := stateEq ▸ coherent.bytes
  inFlight := by
    rw [stateEq, addPending, OrderedMap.size_insert free]
    exact room
  disjoint := by
    intro key' object found
    rw [stateEq] at found ⊢
    rw [addPending, OrderedMap.find?_insert] at found
    by_cases same : key = key'
    · exact same ▸ uncached
    · rw [if_neg same] at found
      exact coherent.disjoint key' object found
  led := by
    intro key' object found
    rw [stateEq, addPending, OrderedMap.find?_insert] at found
    by_cases same : key = key'
    · rw [if_pos same] at found
      refine ⟨index, (leads _ _ _).mpr ?_⟩
      rw [if_pos rfl]
      exact ⟨same, found⟩
    · rw [if_neg same] at found
      obtain ⟨other, leader⟩ := coherent.led key' object found
      have different : index ≠ other := by
        rintro rfl
        exact idle key' object leader
      refine ⟨other, (leads _ _ _).mpr ?_⟩
      rw [if_neg different]
      exact leader
  leading := by
    intro other key' object leader
    have leader := (leads _ _ _).mp leader
    rw [stateEq, addPending, OrderedMap.find?_insert]
    by_cases here : index = other
    · rw [if_pos here] at leader
      rw [if_pos leader.1]
      exact leader.2
    · rw [if_neg here] at leader
      have pending := coherent.leading other key' object leader
      have different : key ≠ key' := by
        rintro rfl
        rw [free] at pending
        cases pending
      rw [if_neg different]
      exact pending
  created := by
    intro other key' object leader
    have leader := (leads _ _ _).mp leader
    rw [stateEq]
    simp only [addPending, List.length_append, List.length_singleton]
    by_cases here : index = other
    · rw [if_pos here] at leader
      have objectEq := Option.some.inj leader.2
      omega
    · rw [if_neg here] at leader
      have created := coherent.created other key' object leader
      omega
  alone := by
    intro first second key' key'' object leader leader'
    have leader := (leads _ _ _).mp leader
    have leader' := (leads _ _ _).mp leader'
    by_cases here : index = first
    · by_cases there : index = second
      · exact here.symm.trans there
      · rw [if_pos here] at leader
        rw [if_neg there] at leader'
        have objectEq := Option.some.inj leader.2
        have created := coherent.created second key'' object leader'
        omega
    · by_cases there : index = second
      · rw [if_neg here] at leader
        rw [if_pos there] at leader'
        have objectEq := Option.some.inj leader'.2
        have created := coherent.created first key' object leader
        omega
      · rw [if_neg here] at leader
        rw [if_neg there] at leader'
        exact coherent.alone first second key' key'' object leader leader'

/-- A leader that completes keeps the invariant: its key was pending, so it
was not cached. -/
theorem Coherent.complete {world after : World} {index object : Nat}
    {key : Bytes} {stored : CacheState} {outcome : Pending → Pending}
    (coherent : Coherent world) (leader : world.Leads index key object)
    (stores : Stored key world.state stored)
    (stateEq : after.state = finishPending key object outcome stored)
    (leads : ∀ other key' object, after.Leads other key' object ↔
      if index = other then False else world.Leads other key' object) :
    Coherent after where
  accounted := by
    have accounted := stores.accounted coherent.accounted
    exact stateEq ▸ ⟨accounted.bytes, accounted.unwrapped⟩
  entries := stateEq ▸ stores.size coherent.entries
  bytes := stateEq ▸ stores.bytes coherent.accounted coherent.bytes
  inFlight := by
    rw [stateEq]
    refine Nat.le_trans (OrderedMap.size_erase_le _ _) ?_
    exact stores.pending ▸ coherent.inFlight
  disjoint := by
    intro key' object' found
    rw [stateEq] at found ⊢
    simp only [finishPending] at found ⊢
    rw [OrderedMap.find?_erase] at found
    by_cases same : key = key'
    · rw [if_pos same] at found
      cases found
    · rw [if_neg same, stores.pending] at found
      have free := coherent.disjoint key' object' found
      cases cached : stored.cache.find? key' with
      | none =>
          rfl
      | some entry =>
          rw [stores.entries key' entry (Ne.symm same) cached] at free
          cases free
  led := by
    intro key' object' found
    rw [stateEq] at found
    simp only [finishPending] at found
    rw [OrderedMap.find?_erase] at found
    by_cases same : key = key'
    · rw [if_pos same] at found
      cases found
    · rw [if_neg same, stores.pending] at found
      obtain ⟨other, otherLeads⟩ := coherent.led key' object' found
      have different : index ≠ other := by
        rintro rfl
        obtain ⟨call, here, keyEq, _⟩ := leader
        obtain ⟨call', here', keyEq', _⟩ := otherLeads
        rw [here] at here'
        cases here'
        exact same (keyEq.symm.trans keyEq')
      refine ⟨other, (leads _ _ _).mpr ?_⟩
      rw [if_neg different]
      exact otherLeads
  leading := by
    intro other key' object' otherLeads
    have otherLeads := (leads _ _ _).mp otherLeads
    by_cases here : index = other
    · rw [if_pos here] at otherLeads
      exact otherLeads.elim
    · rw [if_neg here] at otherLeads
      have pending := coherent.leading other key' object' otherLeads
      have different : key ≠ key' := by
        rintro rfl
        have mine := coherent.leading index key object leader
        rw [mine] at pending
        cases pending
        exact here (coherent.alone index other key key object leader otherLeads)
      rw [stateEq]
      simp only [finishPending]
      rw [OrderedMap.find?_erase_of_ne _ different, stores.pending]
      exact pending
  created := by
    intro other key' object' otherLeads
    have otherLeads := (leads _ _ _).mp otherLeads
    by_cases here : index = other
    · rw [if_pos here] at otherLeads
      exact otherLeads.elim
    · rw [if_neg here] at otherLeads
      rw [stateEq]
      simp only [finishPending, List.length_modify]
      rw [stores.objects]
      exact coherent.created other key' object' otherLeads
  alone := by
    intro first second key' key'' object' leads₁ leads₂
    have leads₁ := (leads _ _ _).mp leads₁
    have leads₂ := (leads _ _ _).mp leads₂
    by_cases here : index = first
    · rw [if_pos here] at leads₁
      exact leads₁.elim
    · by_cases there : index = second
      · rw [if_pos there] at leads₂
        exact leads₂.elim
      · rw [if_neg here] at leads₁
        rw [if_neg there] at leads₂
        exact coherent.alone first second key' key'' object' leads₁ leads₂

theorem World.leads_of_found {world : World} {index object : Nat} {call : Call}
    (found : world.calls[index]? = some call)
    (leads : call.phase.leads = some object) :
    world.Leads index call.demand.key object :=
  ⟨call, found, rfl, leads⟩

theorem World.not_leads_of_found {world : World} {index : Nat} {call : Call}
    (found : world.calls[index]? = some call)
    (leads : call.phase.leads = none) (key : Bytes) (object : Nat) :
    ¬ world.Leads index key object := by
  rintro ⟨other, here, _, otherLeads⟩
  rw [found] at here
  cases here
  rw [leads] at otherLeads
  cases otherLeads

theorem Coherent.frame {world after : World} (coherent : Coherent world)
    (stateEq : after.state = world.state)
    (leads : ∀ index key object,
      after.Leads index key object ↔ world.Leads index key object) :
    Coherent after :=
  coherent.shrink (stateEq ▸ Shrinks.refl world.state) leads

theorem Coherent.step {snapshot : Snapshot} {admits : Demand → Prop}
    {world after : World} (coherent : Coherent world)
    (moved : Step snapshot admits world after) : Coherent after := by
  cases moved with
  | @begin demand admitted =>
      refine coherent.frame rfl ?_
      intro index key object
      unfold World.Leads
      -- the appended call leads nothing
      constructor
      · rintro ⟨call, found, keyEq, leads⟩
        rw [List.getElem?_append] at found
        split at found
        · exact ⟨call, found, keyEq, leads⟩
        · have member := List.mem_of_getElem? found
          rw [List.mem_singleton] at member
          subst member
          cases leads
      · rintro ⟨call, found, keyEq, leads⟩
        have inside := (List.getElem?_eq_some_iff.mp found).1
        exact ⟨call, by rw [List.getElem?_append_left inside, found], keyEq,
          leads⟩
  | tick forward =>
      exact coherent.frame rfl (fun _ _ _ => Iff.rfl)
  | @enter index call now later found ready forward onward =>
      have entered := enterCall_entering call.demand now later world.state
      have unled : call.phase.leads = none := by
        rw [ready]
        rfl
      generalize enterCall call.demand now later world.state = result at entered
      have swept := sweepExpired_shrinks now world.state
      cases entered with
      | short tooShort raised =>
          exact coherent.frame rfl (fun _ _ _ =>
            World.leads_setCall_of_eq { world with clock := later } found rfl unled.symm)
      | hit long cached =>
          exact coherent.shrink swept (fun _ _ _ =>
            World.leads_setCall_of_eq
              { world with
                clock := later
                state := sweepExpired now world.state } found rfl unled.symm)
      | busy raised =>
          exact coherent.shrink swept (fun _ _ _ =>
            World.leads_setCall_of_eq
              { world with
                clock := later
                state := sweepExpired now world.state } found rfl unled.symm)
      | follow long shared =>
          exact coherent.shrink swept (fun _ _ _ =>
            World.leads_setCall_of_eq
              { world with
                clock := later
                state := sweepExpired now world.state } found rfl unled.symm)
      | lead long uncached free room =>
          have sweptCoherent :
              Coherent { world with
                clock := later
                state := sweepExpired now world.state } :=
            coherent.shrink swept (fun _ _ _ => Iff.rfl)
          refine sweptCoherent.lead index call.demand.key
            (World.not_leads_of_found found unled) uncached
            (swept.pending ▸ free) (swept.pending ▸ room) rfl ?_
          intro other key object
          rw [swept.objects]
          exact World.leads_setCall
            { world with
              clock := later
              state := addPending call.demand.key
                (sweepExpired now world.state) } found rfl
  | @exchange index call object env before after outcome tried found leading run
      grown =>
      refine coherent.frame rfl (fun _ _ _ => ?_)
      refine World.leads_setCall_of_eq
        { world with
          runs := world.runs ++ returnedRuns call.demand tried outcome }
        found rfl ?_
      rw [leading]
      rfl
  | @complete index call object now outcome found prepared forward =>
      have completed :=
        completeCall_completing call.demand object outcome now world.state
      have leader : world.Leads index call.demand.key object := by
        refine World.leads_of_found found ?_
        rw [prepared]
        rfl
      have uncached : world.state.cache.find? call.demand.key = none :=
        coherent.disjoint _ _ (coherent.leading _ _ _ leader)
      generalize completeCall call.demand object outcome now world.state =
        result at completed
      have released : ∀ (state : CacheState) (result : Except Thrown Reply)
          (other : Nat) (key : Bytes) (object : Nat),
          (({ world with clock := now, state := state } : World).setCall index
            { call with phase := .finished .led result }).Leads other key object ↔
              if index = other then False else world.Leads other key object :=
        fun state result other key object =>
          World.leads_setCall_none
            { world with
              clock := now
              state := state } found rfl rfl
      cases completed with
      | success succeeded =>
          exact coherent.complete leader (storeReply_stored uncached) rfl
            (released _ _)
      | failure failed =>
          exact coherent.complete leader
            ⟨rfl, rfl, id, id, fun _ => id, fun _ _ _ found => found⟩ rfl
            (released _ _)
  | wake found following shared done =>
      refine coherent.frame rfl (fun _ _ _ =>
        World.leads_setCall_of_eq world found rfl ?_)
      rw [following]
      rfl
  | timeout found following passed =>
      refine coherent.frame rfl (fun _ _ _ =>
        World.leads_setCall_of_eq world found rfl ?_)
      rw [following]
      rfl
  | cancel found following =>
      refine coherent.frame rfl (fun _ _ _ =>
        World.leads_setCall_of_eq world found rfl ?_)
      rw [following]
      rfl

theorem Reached.coherent {snapshot : Snapshot} {admits : Demand → Prop}
    {world : World} (reached : Reached snapshot admits world) :
    Coherent world :=
  Transition.Reachable.invariant
    (fun _ begins => begins ▸ coherent_initial)
    (fun _ _ _ coherent moved => coherent.step moved) reached

/-! ### Bookkeeping -/

/-- What the counters and maps of the cache satisfy between any two steps. -/
structure Bookkeeping (world : World) : Prop where
  /-- The counter is the size of all packets and keys. -/
  bytes : world.state.cacheBytes = world.state.cache.total entrySize
  /-- No subtraction from the counter has gone below zero. -/
  unwrapped : world.state.wrapped = false
  entries : world.state.cache.size ≤ maxCacheEntries
  inFlight : world.state.pending.size ≤ maxPending
  disjoint : ∀ key, world.state.cache.find? key = none ∨
    world.state.pending.find? key = none
  /-- A pending key has exactly one leader that has not completed. -/
  leader : ∀ key object, world.state.pending.find? key = some object →
    ∃! index : Nat, ∃ call : Call, world.calls[index]? = some call ∧
      call.demand.key = key ∧ call.phase.leads.isSome
  bounded : (∀ item ∈ world.state.cache.entries, entrySize item ≤ maxCacheBytes) →
    world.state.cacheBytes ≤ maxCacheBytes

private theorem total_le_of_single {cache : OrderedMap Bytes CacheEntry}
    (single : cache.size ≤ 1)
    (fits : ∀ item ∈ cache.entries, entrySize item ≤ maxCacheBytes) :
    cache.total entrySize ≤ maxCacheBytes := by
  unfold OrderedMap.size at single
  unfold OrderedMap.total
  match entriesEq : cache.entries with
  | [] =>
      exact Nat.zero_le _
  | [item] =>
      rw [List.map_singleton, List.sum_singleton]
      exact fits item (entriesEq ▸ List.mem_cons_self)
  | _ :: _ :: _ =>
      rw [entriesEq] at single
      simp only [List.length_cons] at single
      omega

theorem Coherent.bookkeeping {world : World} (coherent : Coherent world) :
    Bookkeeping world where
  bytes := coherent.accounted.bytes
  unwrapped := coherent.accounted.unwrapped
  entries := coherent.entries
  inFlight := coherent.inFlight
  disjoint := by
    intro key
    cases pending : world.state.pending.find? key with
    | none =>
        exact Or.inr rfl
    | some object =>
        exact Or.inl (coherent.disjoint key object pending)
  leader := by
    intro key object pending
    obtain ⟨index, call, found, keyEq, leads⟩ := coherent.led key object pending
    refine ⟨index, ⟨call, found, keyEq, by rw [leads]; rfl⟩, ?_⟩
    rintro other ⟨otherCall, otherFound, otherKey, otherLeads⟩
    obtain ⟨object', leads'⟩ := Option.isSome_iff_exists.mp otherLeads
    have leader' : world.Leads other key object' :=
      ⟨otherCall, otherFound, otherKey, leads'⟩
    have pending' := coherent.leading other key object' leader'
    rw [pending] at pending'
    cases pending'
    exact coherent.alone other index key key object leader'
      ⟨call, found, keyEq, leads⟩
  bounded := by
    intro fits
    rcases coherent.bytes with within | single
    · exact within
    · rw [coherent.accounted.bytes]
      exact total_le_of_single single fits

/-- Every state that the calls on a snapshot can reach keeps its books. -/
theorem reached_bookkeeping {snapshot : Snapshot} {admits : Demand → Prop}
    {world : World} (reached : Reached snapshot admits world) :
    Bookkeeping world :=
  reached.coherent.bookkeeping

def defaultSnapshot : Snapshot :=
  { platform := ipv4Platform
    config := defaultConfig
    options := {} }

def originalDemand (request : Packet) : Demand :=
  { request := request
    primary :=
      { protocol := .udp
        ip := text "10.0.0.53"
        port := 53 }
    configured := false }

end NativeDNS
