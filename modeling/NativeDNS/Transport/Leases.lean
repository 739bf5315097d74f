/-
What a step of the plain transport does to leases, connections and outcomes.

Every step has one of five effects: it changes no entry, takes a lease,
discards the connection of a lease, starts to send on it, or ends the lease.
-/
import NativeDNS.Transport.Plain

namespace NativeDNS

open CheckedResult

namespace ExchangePhase

def lease : ExchangePhase → Option Nat
  | .acquired id => some id
  | .leased id _ => some id
  | .sending id _ _ => some id
  | .receiving id _ _ _ => some id
  | _ => none

def connection : ExchangePhase → Option (Nat × Nat)
  | .sending id _ connection => some (id, connection)
  | .receiving id _ connection _ => some (id, connection)
  | _ => none

def settled : ExchangePhase → Bool
  | .replied _ => true
  | .finished (.ok _) => true
  | _ => false

theorem lease_of_connection {phase : ExchangePhase} {pair : Nat × Nat}
    (uses : phase.connection = some pair) : phase.lease = some pair.1 := by
  cases phase <;> cases uses <;> rfl

theorem not_settled_of_lease {phase : ExchangePhase} {id : Nat}
    (holds : phase.lease = some id) : phase.settled = false := by
  cases phase with
  | replied reply =>
      cases holds
  | finished outcome =>
      cases holds
  | _ =>
      rfl

end ExchangePhase

namespace TransportWorld

def phase (world : TransportWorld) (index : Nat) : ExchangePhase :=
  match world.exchanges[index]? with
  | some exchange => exchange.phase
  | none => .datagram

def Failed (world : TransportWorld) (index : Nat) : Prop :=
  ∃ error, world.phase index = .finished (.error error)

theorem phase_setPhase {world : TransportWorld} {index other : Nat}
    {exchange : Exchange} (found : world.exchanges[index]? = some exchange)
    (phase : ExchangePhase) :
    (world.setPhase index phase).phase other =
      if other = index then phase else world.phase other := by
  simp only [TransportWorld.phase, setPhase, List.getElem?_modify]
  by_cases same : other = index
  · rw [if_pos same, same, found]
    simp
  · have apart : ¬ index = other := Ne.symm same
    cases world.exchanges[other]? <;> simp [same, apart]

end TransportWorld

/-! ### The effect of a step -/

structure Moved (before after : TransportWorld) (index : Nat)
    (phase : ExchangePhase) : Prop where
  same : ∀ other, after.phase other =
    if other = index then phase else before.phase other

theorem Moved.here {before after : TransportWorld} {index : Nat}
    {phase : ExchangePhase} (moved : Moved before after index phase) :
    after.phase index = phase := by
  rw [moved.same, if_pos rfl]

theorem Moved.other {before after : TransportWorld} {index other : Nat}
    {phase : ExchangePhase} (moved : Moved before after index phase)
    (different : other ≠ index) : after.phase other = before.phase other := by
  rw [moved.same, if_neg different]

/-- What a step does to the entries, the leases and the record of what was
sent. -/
inductive StepEffect (before after : TransportWorld) : Prop
  | quiet (entries : after.pool.entries = before.pool.entries)
      (sent : after.sent = before.sent)
      (streams : before.streams.length = after.streams.length)
      (leases : ∀ index, (after.phase index).lease = (before.phase index).lease)
      (uses : ∀ index,
        (after.phase index).connection = (before.phase index).connection)
      (settled : ∀ index, (before.phase index).settled = true →
        (after.phase index).settled = true)
  | leased (index id : Nat) (phase : ExchangePhase)
      (entries : Leases before.pool.entries after.pool.entries id)
      (sent : after.sent = before.sent)
      (streams : before.streams.length = after.streams.length)
      (free : (before.phase index).settled = false)
      (unheld : (before.phase index).connection = none)
      (holds : phase.lease = some id) (unused : phase.connection = none)
      (moved : Moved before after index phase)
  | discarded (index id : Nat) (phase : ExchangePhase) (entry : PoolEntry)
      (had : (before.phase index).lease = some id)
      (entries : after.pool.entries = before.pool.entries.set id entry)
      (busy : entry.busy = (before.pool.entry id).busy)
      (unconnected : entry.connection = none)
      (sent : after.sent = before.sent)
      (streams : before.streams.length = after.streams.length)
      (holds : phase.lease = some id) (unused : phase.connection = none)
      (moved : Moved before after index phase)
  | sends (index id connection : Nat) (phase : ExchangePhase) (entry : PoolEntry)
      (had : (before.phase index).lease = some id)
      (idle : (before.phase index).connection = none)
      (entries : after.pool.entries = before.pool.entries.set id entry)
      (busy : entry.busy = (before.pool.entry id).busy)
      (connected : entry.connection = some connection)
      (known : (before.pool.entry id).connection = some connection ∧
          before.streams.length = after.streams.length ∨
        connection = before.streams.length ∧
          after.streams.length = before.streams.length + 1)
      (sent : after.sent = before.sent ++ [(index, connection)])
      (uses : phase.connection = some (id, connection))
      (moved : Moved before after index phase)
  | released (index id : Nat) (phase : ExchangePhase) (entry : PoolEntry)
      (had : (before.phase index).lease = some id)
      (entries : after.pool.entries = before.pool.entries.set id entry)
      (left : entry.connection = none ∨
        entry.connection = (before.pool.entry id).connection ∧
          phase.settled = true)
      (sent : after.sent = before.sent)
      (streams : before.streams.length = after.streams.length)
      (free : phase.lease = none)
      (moved : Moved before after index phase)

theorem quietMove {before after : TransportWorld} {index : Nat}
    {phase : ExchangePhase} (moved : Moved before after index phase)
    (entries : after.pool.entries = before.pool.entries)
    (sent : after.sent = before.sent)
    (streams : before.streams.length = after.streams.length)
    (lease : phase.lease = (before.phase index).lease)
    (uses : phase.connection = (before.phase index).connection)
    (settled : (before.phase index).settled = true → phase.settled = true) :
    StepEffect before after := by
  apply StepEffect.quiet entries sent streams
  · intro other
    rw [moved.same]
    split
    · rename_i same
      rw [same, lease]
    · rfl
  · intro other
    rw [moved.same]
    split
    · rename_i same
      rw [same, uses]
    · rfl
  · intro other before
    rw [moved.same]
    split
    · rename_i same
      exact settled (same ▸ before)
    · exact before

section Effects

variable {world : TransportWorld} {index : Nat} {exchange : Exchange}

theorem phase_of_found (found : world.exchanges[index]? = some exchange) :
    world.phase index = exchange.phase := by
  simp only [TransportWorld.phase, found]

theorem moved_setPhase (found : world.exchanges[index]? = some exchange)
    {changed : TransportWorld} (same : changed.exchanges = world.exchanges)
    (phase : ExchangePhase) : Moved world (changed.setPhase index phase) index phase := by
  constructor
  intro other
  have moved : changed.exchanges[index]? = some exchange := by
    rw [same, found]
  rw [TransportWorld.phase_setPhase moved]
  simp only [TransportWorld.phase, same]

theorem acquire_effect (found : world.exchanges[index]? = some exchange)
    (lease : exchange.phase.lease = none)
    (uses : exchange.phase.connection = none)
    (open' : exchange.phase.settled = false) {pool : Pool} (filed : pool.Filed)
    (same : pool.entries = world.pool.entries) (server : Server) :
    StepEffect world (world.acquire index pool server) ∧
      (world.acquire index pool server).pool.Filed := by
  have phase := phase_of_found found
  unfold TransportWorld.acquire
  cases run : acquireEntry pool (poolKey server) server.route.generation with
  | mk after acquired =>
      obtain ⟨afterFiled, spec⟩ := acquireEntry_spec filed run
      rw [same] at spec
      cases acquired with
      | leased id =>
          dsimp only
          refine ⟨?_, afterFiled⟩
          refine StepEffect.leased index id (.acquired id) ?_ rfl rfl
            (by rw [phase, open']) (by rw [phase, uses]) rfl rfl
            (moved_setPhase found (by rfl) _)
          exact spec
      | full =>
          dsimp only
          refine ⟨?_, afterFiled⟩
          apply quietMove (moved_setPhase found (by rfl) _)
          · exact spec
          · rfl
          · rfl
          · rw [phase, lease]
            rfl
          · rw [phase, uses]
            rfl
          · rw [phase, open']
            exact nofun
      | refused error =>
          dsimp only
          refine ⟨?_, afterFiled⟩
          apply quietMove (moved_setPhase found (by rfl) _)
          · exact spec
          · rfl
          · rfl
          · rw [phase, lease]
            rfl
          · rw [phase, uses]
            rfl
          · rw [phase, open']
            exact nofun

theorem refresh_effect {id : Nat}
    (found : world.exchanges[index]? = some exchange)
    (lease : exchange.phase = .acquired id) :
    StepEffect world (world.refresh index id) := by
  have phase := phase_of_found found
  rw [lease] at phase
  unfold TransportWorld.refresh
  simp only
  split
  · apply StepEffect.discarded index id (.leased id 0)
      { world.pool.entry id with connection := none }
    case had =>
      rw [phase]
      rfl
    case moved =>
      exact moved_setPhase found (by rfl) _
    all_goals rfl
  · apply quietMove (moved_setPhase found (by rfl) _) rfl rfl rfl
    · rw [phase]
      rfl
    · rw [phase]
      rfl
    · rw [phase]
      exact nofun

theorem startSending_effect {id attempt : Nat}
    (found : world.exchanges[index]? = some exchange)
    (lease : exchange.phase = .leased id attempt) :
    StepEffect world (world.startSending index id attempt) := by
  have phase := phase_of_found found
  rw [lease] at phase
  have had : (world.phase index).lease = some id := by
    rw [phase]
    rfl
  have unused : (world.phase index).connection = none := by
    rw [phase]
    rfl
  unfold TransportWorld.startSending
  simp only
  cases known : (world.pool.entry id).connection with
  | some connection =>
      apply StepEffect.sends index id connection (.sending id attempt connection)
        (world.pool.entry id) had unused
      · have absent : (world.pool.entries.set id (world.pool.entry id)) =
            world.pool.entries := by
          apply List.ext_getElem?
          intro position
          by_cases here : position = id
          · rw [here, List.getElem?_set]
            simp only [Pool.entry, if_true]
            split
            · rename_i inside
              rw [List.getD_eq_getElem?_getD, List.getElem?_eq_getElem inside,
                Option.getD_some]
            · rename_i outside
              rw [List.getElem?_eq_none (Nat.le_of_not_lt outside)]
          · rw [List.getElem?_set_ne (Ne.symm here)]
        exact absent.symm
      · rfl
      · exact known
      · exact Or.inl ⟨known, rfl⟩
      · rfl
      · rfl
      · exact moved_setPhase found (by rfl) _
  | none =>
      apply StepEffect.sends index id world.streams.length
        (.sending id attempt world.streams.length)
        { world.pool.entry id with connection := some world.streams.length }
        had unused rfl rfl rfl
      · exact Or.inr ⟨rfl, List.length_append⟩
      · rfl
      · rfl
      · exact moved_setPhase found (by rfl) _

theorem failAttempt_effect {id : Nat}
    (found : world.exchanges[index]? = some exchange)
    (lease : exchange.phase.lease = some id) (attempt : Nat) (error : Error) :
    StepEffect world (world.failAttempt index id attempt error) := by
  have had : (world.phase index).lease = some id := by
    rw [phase_of_found found, lease]
  unfold TransportWorld.failAttempt
  simp only
  split
  · apply StepEffect.released index id (.finished (.error error))
      { world.pool.entry id with
        connection := none
        busy := false } had
    case left =>
      exact Or.inl rfl
    case moved =>
      exact moved_setPhase found (by rfl) _
    all_goals rfl
  · apply StepEffect.discarded index id (.leased id (attempt + 1))
      { world.pool.entry id with connection := none } had
    case moved =>
      exact moved_setPhase found (by rfl) _
    all_goals rfl

theorem takeBytes_effect {id attempt connection : Nat} {seen : Packet}
    (found : world.exchanges[index]? = some exchange)
    (receiving : exchange.phase = .receiving id attempt connection seen)
    (received : Packet) :
    StepEffect world (world.takeBytes index id attempt connection received) := by
  have phase := phase_of_found found
  rw [receiving] at phase
  have still : StepEffect world
      (world.setPhase index (.receiving id attempt connection received)) := by
    apply quietMove (moved_setPhase found (by rfl) _) rfl rfl rfl
    · rw [phase]
      rfl
    · rw [phase]
      rfl
    · rw [phase]
      exact nofun
  unfold TransportWorld.takeBytes
  split
  · exact still
  · split
    · exact failAttempt_effect found (by rw [receiving]; rfl) attempt shortFrame
    · split
      · exact still
      · apply StepEffect.released index id (.replied (received.drop 2))
          { world.pool.entry id with
            busy := false
            lastUsed := world.clock }
        case had =>
          rw [phase]
          rfl
        case left =>
          exact Or.inr ⟨rfl, rfl⟩
        case moved =>
          exact moved_setPhase found (by rfl) _
        all_goals rfl

end Effects

end NativeDNS
