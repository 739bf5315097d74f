/-
Stale replies on pooled connections.

A reply is checked after the lease on its connection has ended.  Every other
failure discards the connection under the lease; a reply that the last checks
refuse leaves it in the pool, and what the upstream sends next is read by the
next exchange.
-/
import NativeDNS.Transport.Leases

namespace NativeDNS

open CheckedResult

/-- Of the requests sent over one connection only the last may belong to an
exchange that fails, and a connection used by a failed exchange is in no
entry. -/
structure NothingStale (world : TransportWorld) : Prop where
  discarded : ∀ pair ∈ world.sent, world.Failed pair.1 →
    ∀ entry ∈ world.pool.entries, entry.connection ≠ some pair.2
  unshifted : world.sent.Pairwise fun earlier later =>
    earlier.2 = later.2 → ¬ world.Failed earlier.1

def acceptableReply (platform : Platform) (reply : Packet)
    (question : Question) : Bool :=
  replyTruncated platform reply question == .ok false

/-- In the last checks of an exchange, the reply it has read is acceptable. -/
def repliesAcceptably (platform : Platform) (world : TransportWorld) :
    TransportAction → Bool
  | .move index .validate =>
      match world.exchanges[index]? with
      | some exchange =>
          match exchange.phase with
          | .replied reply => acceptableReply platform reply exchange.question
          | _ => true
      | none => true
  | _ => true

def performAcceptable (platform : Platform) (tcp : Bool)
    (world : TransportWorld) (action : TransportAction) :
    Option TransportWorld :=
  if repliesAcceptably platform world action = true then
    performTransport platform tcp world action
  else none

abbrev TransportReached (platform : Platform) (tcp : Bool) :
    TransportWorld → Prop :=
  Transition.Reachable (fun world => world = {}) fun before after =>
    ∃ action, performTransport platform tcp before action = some after

/-- The states of the runs in which no complete reply is refused. -/
abbrev AcceptableReached (platform : Platform) (tcp : Bool) :
    TransportWorld → Prop :=
  Transition.Reachable (fun world => world = {}) fun before after =>
    ∃ action, repliesAcceptably platform before action = true ∧
      performTransport platform tcp before action = some after

/-! ### The effect of an acceptable step -/

theorem settleReply_acceptable {platform : Platform} {reply : Packet}
    {question : Question}
    (acceptable : acceptableReply platform reply question = true) :
    settleReply platform reply question = .finished (.ok reply) := by
  have checked : replyTruncated platform reply question = .ok false :=
    eq_of_beq acceptable
  unfold settleReply
  rw [checked]

theorem settleDatagram_free (platform : Platform) (reply : Packet)
    (question : Question) :
    (settleDatagram platform reply question).lease = none ∧
      (settleDatagram platform reply question).connection = none := by
  unfold settleDatagram
  split <;> exact ⟨rfl, rfl⟩

theorem StepEffect.unread {world after : TransportWorld}
    {streams : List Packet} (same : streams.length = world.streams.length)
    (effect : StepEffect { world with streams := streams } after) :
    StepEffect world after := by
  cases effect with
  | quiet entries sent length leases uses settled =>
      exact .quiet entries sent (same ▸ length) leases uses settled
  | leased index id phase entries sent length free unheld holds unused moved =>
      exact .leased index id phase entries sent (same ▸ length) free unheld holds
        unused ⟨moved.same⟩
  | discarded index id phase entry had entries busy unconnected sent length holds
      unused moved =>
      exact .discarded index id phase entry had entries busy unconnected sent
        (same ▸ length) holds unused ⟨moved.same⟩
  | sends index id connection phase entry had idle entries busy connected known
      sent uses moved =>
      exact .sends index id connection phase entry had idle entries busy connected
        (same ▸ known) sent uses ⟨moved.same⟩
  | released index id phase entry had entries left sent length free moved =>
      exact .released index id phase entry had entries left sent (same ▸ length)
        free ⟨moved.same⟩

structure SameFiling (before after : TransportWorld) : Prop where
  filed : after.pool.filed = before.pool.filed
  count : after.pool.entries.length = before.pool.entries.length

theorem SameFiling.keeps {before after : TransportWorld}
    (same : SameFiling before after) (filed : before.pool.Filed) :
    after.pool.Filed :=
  filed.grow same.filed (Nat.le_of_eq same.count.symm)

theorem setPhase_filing (world : TransportWorld) (index : Nat)
    (phase : ExchangePhase) : SameFiling world (world.setPhase index phase) :=
  ⟨rfl, rfl⟩

theorem setEntry_filing (world : TransportWorld) (id index : Nat)
    (entry : PoolEntry) (phase : ExchangePhase) :
    SameFiling world ((world.setEntry id entry).setPhase index phase) :=
  ⟨rfl, List.length_set⟩

theorem refresh_filing (world : TransportWorld) (index id : Nat) :
    SameFiling world (world.refresh index id) := by
  unfold TransportWorld.refresh
  simp only
  split
  · apply setEntry_filing
  · apply setPhase_filing

theorem startSending_filing (world : TransportWorld) (index id attempt : Nat) :
    SameFiling world (world.startSending index id attempt) := by
  unfold TransportWorld.startSending
  simp only
  split
  · exact ⟨rfl, rfl⟩
  · exact ⟨rfl, List.length_set⟩

theorem failAttempt_filing (world : TransportWorld) (index id attempt : Nat)
    (error : Error) :
    SameFiling world (world.failAttempt index id attempt error) := by
  unfold TransportWorld.failAttempt
  simp only
  split <;> apply setEntry_filing

theorem takeBytes_filing (world : TransportWorld)
    (index id attempt connection : Nat) (received : Packet) :
    SameFiling world (world.takeBytes index id attempt connection received) := by
  unfold TransportWorld.takeBytes
  split
  · apply setPhase_filing
  · split
    · apply failAttempt_filing
    · split
      · apply setPhase_filing
      · apply setEntry_filing

theorem advanceExchange_effect {platform : Platform}
    {world after : TransportWorld} {index : Nat} {exchange : Exchange}
    {move : ExchangeMove} (found : world.exchanges[index]? = some exchange)
    (filed : world.pool.Filed)
    (acceptable : repliesAcceptably platform world (.move index move) = true)
    (run : advanceExchange platform world index exchange move = some after) :
    StepEffect world after ∧ after.pool.Filed := by
  have phase := phase_of_found found
  -- A phase that holds no lease and has no reply gives way to another such.
  have without : ∀ {here next : ExchangePhase}, exchange.phase = here →
      here.lease = none → here.connection = none → here.settled = false →
      next.lease = none → next.connection = none →
      StepEffect world (world.setPhase index next) ∧
        (world.setPhase index next).pool.Filed := by
    intro here next at_ lease uses unsettled nextLease nextUses
    refine ⟨?_, (setPhase_filing world index next).keeps filed⟩
    apply quietMove (moved_setPhase found (by rfl) next) rfl rfl rfl
    · rw [phase, at_, lease, nextLease]
    · rw [phase, at_, uses, nextUses]
    · rw [phase, at_, unsettled]
      exact nofun
  unfold advanceExchange at run
  split at run
  · rename_i error at'
    cases run
    exact without at' rfl rfl rfl rfl rfl
  · rename_i reply at'
    cases run
    obtain ⟨lease, uses⟩ := settleDatagram_free platform reply exchange.question
    exact without at' rfl rfl rfl lease uses
  · rename_i at'
    cases run
    apply acquire_effect found (by rw [at']; rfl) (by rw [at']; rfl)
      (by rw [at']; rfl) (dropStale_filed filed _) rfl
  · rename_i at'
    split at run
    · cases run
      apply acquire_effect found (by rw [at']; rfl) (by rw [at']; rfl)
        (by rw [at']; rfl) filed rfl
    · cases run
  · rename_i at'
    split at run
    · cases run
      exact without at' rfl rfl rfl rfl rfl
    · cases run
  · rename_i at'
    cases run
    exact without at' rfl rfl rfl rfl rfl
  · rename_i id at'
    cases run
    exact ⟨refresh_effect found at', (refresh_filing world index id).keeps filed⟩
  · rename_i id attempt at'
    cases run
    exact ⟨startSending_effect found at',
      (startSending_filing world index id attempt).keeps filed⟩
  · rename_i error id attempt at'
    split at run
    · cases run
      exact ⟨failAttempt_effect found (by rw [at']; rfl) attempt error,
        (failAttempt_filing world index id attempt error).keeps filed⟩
    · cases run
  · rename_i id attempt connection at'
    cases run
    refine ⟨?_, (setPhase_filing world index _).keeps filed⟩
    apply quietMove (moved_setPhase found (by rfl) _) rfl rfl rfl
    · rw [phase, at']
      rfl
    · rw [phase, at']
      rfl
    · rw [phase, at']
      exact nofun
  · rename_i error id attempt connection at'
    cases run
    exact ⟨failAttempt_effect found (by rw [at']; rfl) attempt error,
      (failAttempt_filing world index id attempt error).keeps filed⟩
  · rename_i count id attempt connection received at'
    simp only at run
    split at run
    · cases run
      constructor
      · have effect := @takeBytes_effect
          { world with
            streams := world.streams.set connection
              ((world.streams.getD connection []).drop count) }
          index exchange id attempt connection received found at'
          (received ++ (world.streams.getD connection []).take count)
        exact effect.unread List.length_set
      · exact (takeBytes_filing _ index id attempt connection _).keeps filed
    · cases run
  · rename_i error id attempt connection received at'
    cases run
    exact ⟨failAttempt_effect found (by rw [at']; rfl) attempt error,
      (failAttempt_filing world index id attempt error).keeps filed⟩
  · rename_i reply at'
    cases run
    simp only [repliesAcceptably, found, at'] at acceptable
    rw [settleReply_acceptable acceptable]
    refine ⟨?_, (setPhase_filing world index _).keeps filed⟩
    apply quietMove (moved_setPhase found (by rfl) _) rfl rfl rfl
    · rw [phase, at']
      rfl
    · rw [phase, at']
      rfl
    · intro settled
      rfl
  · cases run

theorem newExchange_effect (world : TransportWorld) (exchange : Exchange)
    (lease : exchange.phase.lease = none)
    (uses : exchange.phase.connection = none) :
    StepEffect world
      { world with exchanges := world.exchanges ++ [exchange] } := by
  have outside : world.exchanges[world.exchanges.length]? = none :=
    List.getElem?_eq_none (Nat.le_refl _)
  have missing : world.phase world.exchanges.length = .datagram := by
    simp only [TransportWorld.phase, outside]
  have moved : Moved world
      { world with exchanges := world.exchanges ++ [exchange] }
      world.exchanges.length exchange.phase := by
    constructor
    intro other
    simp only [TransportWorld.phase]
    rw [Lists.getElem?_concat]
    by_cases last : other = world.exchanges.length
    · rw [if_pos last, if_pos last]
    · rw [if_neg last, if_neg last]
  apply quietMove moved rfl rfl rfl
  · rw [lease, missing]
    rfl
  · rw [uses, missing]
    rfl
  · rw [missing]
    intro impossible
    cases impossible

theorem performTransport_effect {platform : Platform} {tcp : Bool}
    {world after : TransportWorld} {action : TransportAction}
    (filed : world.pool.Filed)
    (acceptable : repliesAcceptably platform world action = true)
    (run : performTransport platform tcp world action = some after) :
    StepEffect world after ∧ after.pool.Filed := by
  cases action with
  | tick now =>
      simp only [performTransport] at run
      split at run
      · cases run
        exact ⟨.quiet rfl rfl rfl (fun _ => rfl) (fun _ => rfl) (fun _ => id), filed⟩
      · cases run
  | deliver connection bytes =>
      cases run
      exact ⟨.quiet rfl rfl (by simp) (fun _ => rfl) (fun _ => rfl) (fun _ => id),
        filed⟩
  | «begin» request configured shared =>
      simp only [performTransport] at run
      split at run
      · cases run
        exact ⟨.quiet rfl rfl rfl (fun _ => rfl) (fun _ => rfl) (fun _ => id), filed⟩
      · rename_i question admitted
        cases run
        refine ⟨newExchange_effect world _ ?_ ?_, filed⟩ <;>
          (cases tcp <;> rfl)
  | move index move =>
      simp only [performTransport] at run
      split at run
      · rename_i exchange found
        exact advanceExchange_effect found filed acceptable run
      · cases run

/-! ### The invariant -/

def Connects (entries : List PoolEntry) (id connection : Nat) : Prop :=
  ∃ entry, entries[id]? = some entry ∧ entry.connection = some connection

def Busy (entries : List PoolEntry) (id : Nat) : Prop :=
  ∃ entry, entries[id]? = some entry ∧ entry.busy = true

theorem connects_set {entries : List PoolEntry} {id other connection : Nat}
    {entry : PoolEntry} (connects : Connects (entries.set id entry) other connection) :
    (other = id ∧ entry.connection = some connection) ∨
      (other ≠ id ∧ Connects entries other connection) := by
  obtain ⟨held, found, holds⟩ := connects
  by_cases same : other = id
  · have inside : id < entries.length := by
      have within := (List.getElem?_eq_some_iff.mp found).1
      rw [List.length_set] at within
      exact same ▸ within
    rw [same, List.getElem?_set_self inside] at found
    cases found
    exact Or.inl ⟨same, holds⟩
  · rw [List.getElem?_set_ne (Ne.symm same)] at found
    exact Or.inr ⟨same, held, found, holds⟩

theorem busy_set {entries : List PoolEntry} {id other : Nat} {entry : PoolEntry}
    (different : other ≠ id) (busy : Busy entries other) :
    Busy (entries.set id entry) other := by
  obtain ⟨held, found, taken⟩ := busy
  exact ⟨held, by rw [List.getElem?_set_ne (Ne.symm different), found], taken⟩

theorem busy_set_self {entries : List PoolEntry} {id : Nat} {entry : PoolEntry}
    (within : id < entries.length) (taken : entry.busy = true) :
    Busy (entries.set id entry) id :=
  ⟨entry, List.getElem?_set_self within, taken⟩

/-- A lease is held by one exchange, a connection is in one entry, and an
exchange that has used a connection still in the pool is using it now or has
its reply. -/
structure Leasing (world : TransportWorld) : Prop where
  filed : world.pool.Filed
  held : ∀ index id, (world.phase index).lease = some id →
    Busy world.pool.entries id
  alone : ∀ index other id, (world.phase index).lease = some id →
    (world.phase other).lease = some id → index = other
  opened : ∀ id connection, Connects world.pool.entries id connection →
    connection < world.streams.length
  distinct : ∀ id other connection, Connects world.pool.entries id connection →
    Connects world.pool.entries other connection → id = other
  sentOpened : ∀ pair ∈ world.sent, pair.2 < world.streams.length
  users : ∀ pair ∈ world.sent, ∀ id, Connects world.pool.entries id pair.2 →
    (world.phase pair.1).connection = some (id, pair.2) ∨
      (world.phase pair.1).settled = true
  ordered : world.sent.Pairwise fun earlier later =>
    earlier.2 = later.2 → (world.phase earlier.1).settled = true

theorem leasing_initial : Leasing {} where
  filed := by
    intro item member
    cases member
  held := by
    intro index id lease
    cases lease
  alone := by
    intro index other id lease
    cases lease
  opened := by
    rintro id connection ⟨entry, found, _⟩
    cases found
  distinct := by
    rintro id other connection ⟨entry, found, _⟩
    cases found
  sentOpened := by
    intro pair member
    cases member
  users := by
    intro pair member
    cases member
  ordered := List.Pairwise.nil

section Preservation

variable {before after : TransportWorld}

theorem Leasing.leasedEntry (leasing : Leasing before) {index id : Nat}
    (had : (before.phase index).lease = some id) :
    before.pool.entries[id]? = some (before.pool.entry id) ∧
      (before.pool.entry id).busy = true := by
  obtain ⟨held, found, taken⟩ := leasing.held index id had
  have entryEq : before.pool.entry id = held := by
    rw [Pool.entry, List.getD_eq_getElem?_getD, found, Option.getD_some]
  rw [entryEq]
  exact ⟨found, taken⟩

theorem Leasing.quiet (leasing : Leasing before) (filed : after.pool.Filed)
    (entries : after.pool.entries = before.pool.entries)
    (sent : after.sent = before.sent)
    (streams : before.streams.length = after.streams.length)
    (leases : ∀ index, (after.phase index).lease = (before.phase index).lease)
    (uses : ∀ index,
      (after.phase index).connection = (before.phase index).connection)
    (settled : ∀ index, (before.phase index).settled = true →
      (after.phase index).settled = true) : Leasing after where
  filed := filed
  held := by
    intro index id lease
    rw [leases] at lease
    rw [entries]
    exact leasing.held index id lease
  alone := by
    intro index other id lease otherLease
    rw [leases] at lease otherLease
    exact leasing.alone index other id lease otherLease
  opened := by
    rw [entries, ← streams]
    exact leasing.opened
  distinct := by
    rw [entries]
    exact leasing.distinct
  sentOpened := by
    rw [sent, ← streams]
    exact leasing.sentOpened
  users := by
    intro pair member id connects
    rw [sent] at member
    rw [entries] at connects
    rw [uses]
    exact (leasing.users pair member id connects).imp_right (settled _)
  ordered := by
    rw [sent]
    exact leasing.ordered.imp fun kept same => settled _ (kept same)

theorem connects_of_leases {entries taken : List PoolEntry} {id other : Nat}
    {connection : Nat} (leases : Leases entries taken id)
    (connects : Connects taken other connection) :
    Connects entries other connection := by
  cases leases with
  | idle found free marked =>
      rename_i entry
      rw [marked] at connects
      rcases connects_set connects with ⟨same, holds⟩ | ⟨_, kept⟩
      · exact ⟨entry, same ▸ found, holds⟩
      · exact kept
  | fresh last unconnected taken added =>
      rw [added] at connects
      obtain ⟨held, found, holds⟩ := connects
      rw [Lists.getElem?_concat] at found
      split at found
      · cases found
        rw [unconnected] at holds
        cases holds
      · exact ⟨held, found, holds⟩

theorem busy_of_leases {entries taken : List PoolEntry} {id : Nat}
    (leases : Leases entries taken id) :
    Busy taken id ∧ (∀ other, Busy entries other → other ≠ id ∧ Busy taken other) := by
  cases leases with
  | idle found free marked =>
      rename_i entry
      have within := (List.getElem?_eq_some_iff.mp found).1
      rw [marked]
      refine ⟨busy_set_self within rfl, ?_⟩
      rintro other ⟨held, heldFound, taken⟩
      have different : other ≠ id := by
        intro same
        rw [same, found] at heldFound
        cases heldFound
        rw [free] at taken
        cases taken
      exact ⟨different, busy_set different ⟨held, heldFound, taken⟩⟩
  | fresh last unconnected taken added =>
      rename_i entry
      rw [added]
      constructor
      · exact ⟨entry, by rw [last, List.getElem?_concat_length], taken⟩
      · rintro other ⟨held, found, busy⟩
        have within := (List.getElem?_eq_some_iff.mp found).1
        refine ⟨by omega, held, ?_, busy⟩
        rw [Lists.getElem?_concat, if_neg (by omega), found]

theorem Leasing.leased (leasing : Leasing before) (filed : after.pool.Filed)
    {index id : Nat} {phase : ExchangePhase}
    (entries : Leases before.pool.entries after.pool.entries id)
    (sent : after.sent = before.sent)
    (streams : before.streams.length = after.streams.length)
    (free : (before.phase index).settled = false)
    (unheld : (before.phase index).connection = none)
    (holds : phase.lease = some id) (unused : phase.connection = none)
    (moved : Moved before after index phase) : Leasing after := by
  obtain ⟨taken, others⟩ := busy_of_leases entries
  have settled : ∀ other, (before.phase other).settled = true →
      (after.phase other).settled = true := by
    intro other was
    have different : other ≠ index := by
      intro same
      rw [same, free] at was
      cases was
    rw [moved.other different]
    exact was
  have uses : ∀ other,
      (after.phase other).connection = (before.phase other).connection := by
    intro other
    rw [moved.same]
    split
    · rename_i same
      rw [unused, same, unheld]
    · rfl
  have holder : ∀ other, (after.phase other).lease = some id → other = index := by
    intro other lease
    rcases Decidable.em (other = index) with same | different
    · exact same
    · rw [moved.other different] at lease
      exact absurd rfl (others id (leasing.held other id lease)).1
  constructor
  case filed =>
    exact filed
  case held =>
    intro other entry lease
    rcases Decidable.em (other = index) with same | different
    · rw [same, moved.here, holds] at lease
      cases lease
      exact taken
    · rw [moved.other different] at lease
      exact (others entry (leasing.held other entry lease)).2
  case alone =>
    intro first second entry lease lease'
    rcases Decidable.em (entry = id) with same | apart
    · rw [holder first (same ▸ lease), holder second (same ▸ lease')]
    · have still : ∀ other, (after.phase other).lease = some entry →
          (before.phase other).lease = some entry := by
        intro other lease
        have different : other ≠ index := by
          intro same
          rw [same, moved.here, holds] at lease
          exact apart (Option.some.inj lease).symm
        rwa [moved.other different] at lease
      exact leasing.alone first second entry (still first lease) (still second lease')
  case opened =>
    intro entry connection connects
    rw [← streams]
    exact leasing.opened entry connection (connects_of_leases entries connects)
  case distinct =>
    intro first second connection connects connects'
    exact leasing.distinct first second connection
      (connects_of_leases entries connects) (connects_of_leases entries connects')
  case sentOpened =>
    rw [sent, ← streams]
    exact leasing.sentOpened
  case users =>
    intro pair member entry connects
    rw [sent] at member
    rw [uses]
    exact (leasing.users pair member entry (connects_of_leases entries connects)).imp_right
      (settled _)
  case ordered =>
    rw [sent]
    exact leasing.ordered.imp fun kept same => settled _ (kept same)

/-- The holder of a lease may change its entry, if it keeps or ends the lease,
connects the entry to what it was connected to or to something new, and leaves
no pending user of it behind. -/
theorem Leasing.changed (leasing : Leasing before) (filed : after.pool.Filed)
    {index id : Nat} {phase : ExchangePhase} {entry : PoolEntry}
    (had : (before.phase index).lease = some id)
    (entries : after.pool.entries = before.pool.entries.set id entry)
    (kept : phase.lease = none ∨
      phase.lease = some id ∧ entry.busy = (before.pool.entry id).busy)
    (streams : before.streams.length ≤ after.streams.length)
    (bound : ∀ connection, entry.connection = some connection →
      connection < after.streams.length ∧
        ((before.pool.entry id).connection = some connection ∨
          connection = before.streams.length))
    (sentOpened : ∀ pair ∈ after.sent, pair.2 < after.streams.length)
    (others : ∀ pair ∈ after.sent, pair ∈ before.sent ∨
      entry.connection = some pair.2)
    (users : ∀ pair ∈ after.sent, entry.connection = some pair.2 →
      (after.phase pair.1).connection = some (id, pair.2) ∨
        (after.phase pair.1).settled = true)
    (ordered : after.sent.Pairwise fun earlier later =>
      earlier.2 = later.2 → (after.phase earlier.1).settled = true)
    (moved : Moved before after index phase) : Leasing after := by
  obtain ⟨found, taken⟩ := leasing.leasedEntry had
  have within : id < before.pool.entries.length :=
    (List.getElem?_eq_some_iff.mp found).1
  have holds : ∀ other slot, (after.phase other).lease = some slot →
      (before.phase other).lease = some slot := by
    intro other slot lease
    rw [moved.same] at lease
    split at lease
    · rename_i same
      rcases kept with gone | ⟨stays, _⟩
      · rw [gone] at lease
        cases lease
      · rw [same, had, ← stays, lease]
    · exact lease
  -- The entry of the lease shares its connection with no other entry.
  have apart : ∀ slot connection, slot ≠ id →
      Connects before.pool.entries slot connection →
      entry.connection ≠ some connection := by
    intro slot connection different connects same
    rcases (bound connection same).2 with known | new
    · exact different
        (leasing.distinct slot id connection connects ⟨_, found, known⟩)
    · exact absurd (leasing.opened slot connection connects) (by omega)
  constructor
  case filed =>
    exact filed
  case held =>
    intro other slot lease
    have before := leasing.held other slot (holds other slot lease)
    rw [entries]
    rcases Decidable.em (slot = id) with same | different
    · subst same
      have here : other = index := leasing.alone other index slot (holds _ _ lease) had
      rw [here, moved.here] at lease
      rcases kept with gone | ⟨_, busy⟩
      · rw [gone] at lease
        cases lease
      · exact busy_set_self within (busy.trans taken)
    · exact busy_set different before
  case alone =>
    intro first second slot lease lease'
    exact leasing.alone first second slot (holds _ _ lease) (holds _ _ lease')
  case opened =>
    intro slot connection connects
    rw [entries] at connects
    rcases connects_set connects with ⟨_, here⟩ | ⟨_, there⟩
    · exact (bound connection here).1
    · exact Nat.lt_of_lt_of_le (leasing.opened slot connection there) streams
  case distinct =>
    intro first second connection connects connects'
    rw [entries] at connects connects'
    rcases connects_set connects with ⟨same, here⟩ | ⟨different, there⟩
    · rcases connects_set connects' with ⟨same', _⟩ | ⟨different', there'⟩
      · rw [same, same']
      · exact absurd here (apart second connection different' there')
    · rcases connects_set connects' with ⟨_, here'⟩ | ⟨_, there'⟩
      · exact absurd here' (apart first connection different there)
      · exact leasing.distinct first second connection there there'
  case sentOpened =>
    exact sentOpened
  case users =>
    intro pair member slot connects
    rw [entries] at connects
    rcases connects_set connects with ⟨same, here⟩ | ⟨different, there⟩
    · rw [same]
      exact users pair member here
    · rcases others pair member with old | here
      · have mine : ∀ other, (before.phase other).lease = some slot → other ≠ index := by
          intro other lease same
          rw [same, had] at lease
          exact different (Option.some.inj lease).symm
        rcases leasing.users pair old slot there with uses | settled
        · have lease := ExchangePhase.lease_of_connection uses
          rw [moved.other (mine pair.1 lease)]
          exact Or.inl uses
        · have unheld : pair.1 ≠ index := by
            intro same
            rw [same, ExchangePhase.not_settled_of_lease had] at settled
            cases settled
          rw [moved.other unheld]
          exact Or.inr settled
      · exact absurd here (apart slot pair.2 different there)
  case ordered =>
    exact ordered

theorem Moved.settled {index id other : Nat} {phase : ExchangePhase}
    (moved : Moved before after index phase)
    (had : (before.phase index).lease = some id)
    (settled : (before.phase other).settled = true) :
    (after.phase other).settled = true := by
  have different : other ≠ index := by
    intro same
    rw [same, ExchangePhase.not_settled_of_lease had] at settled
    cases settled
  rw [moved.other different]
  exact settled

theorem Leasing.settled_user (leasing : Leasing before) {index id : Nat}
    (had : (before.phase index).lease = some id) {pair : Nat × Nat}
    (member : pair ∈ before.sent)
    (connects : (before.pool.entry id).connection = some pair.2) :
    pair.1 = index ∧ (before.phase index).connection = some (id, pair.2) ∨
      (before.phase pair.1).settled = true := by
  have found := (leasing.leasedEntry had).1
  rcases leasing.users pair member id ⟨_, found, connects⟩ with uses | settled
  · have same := leasing.alone pair.1 index id
      (ExchangePhase.lease_of_connection uses) had
    exact Or.inl ⟨same, same ▸ uses⟩
  · exact Or.inr settled

theorem Leasing.step (leasing : Leasing before) (filed : after.pool.Filed)
    (effect : StepEffect before after) : Leasing after := by
  cases effect with
  | quiet entries sent streams leases uses settled =>
      exact leasing.quiet filed entries sent streams leases uses settled
  | leased index id phase entries sent streams free unheld holds unused moved =>
      exact leasing.leased filed entries sent streams free unheld holds unused moved
  | discarded index id phase entry had entries busy unconnected sent streams holds
      unused moved =>
      have none' : ∀ connection, entry.connection ≠ some connection := by
        intro connection
        rw [unconnected]
        exact nofun
      apply leasing.changed filed had entries (Or.inr ⟨holds, busy⟩)
        (Nat.le_of_eq streams) _ _ _ _ _ moved
      · intro connection connected
        exact absurd connected (none' connection)
      · rw [sent, ← streams]
        exact leasing.sentOpened
      · rw [sent]
        exact fun pair member => Or.inl member
      · intro pair member connected
        exact absurd connected (none' pair.2)
      · rw [sent]
        exact leasing.ordered.imp fun kept same => moved.settled had (kept same)
  | sends index id connection phase entry had idle entries busy connected known sent
      uses moved =>
      have earlier : ∀ pair ∈ before.sent, pair.2 = connection →
          (after.phase pair.1).settled = true := by
        intro pair member same
        rcases known with ⟨held, _⟩ | ⟨new, _⟩
        · rcases leasing.settled_user had member (same ▸ held) with ⟨_, inUse⟩ | settled
          · rw [idle] at inUse
            cases inUse
          · exact moved.settled had settled
        · exact absurd (leasing.sentOpened pair member) (by omega)
      have streams : before.streams.length ≤ after.streams.length := by
        rcases known with ⟨_, same⟩ | ⟨_, more⟩ <;> omega
      have inside : connection < after.streams.length := by
        rcases known with ⟨held, same⟩ | ⟨new, more⟩
        · rw [← same]
          exact leasing.opened id connection
            ⟨_, (leasing.leasedEntry had).1, held⟩
        · omega
      apply leasing.changed filed had entries _ streams _ _ _ _ _ moved
      · exact Or.inr ⟨ExchangePhase.lease_of_connection uses, busy⟩
      · intro other same
        rw [connected] at same
        cases same
        exact ⟨inside, known.imp And.left And.left⟩
      · intro pair member
        rw [sent] at member
        rcases List.mem_append.mp member with old | new
        · exact Nat.lt_of_lt_of_le (leasing.sentOpened pair old) streams
        · cases List.mem_singleton.mp new
          exact inside
      · intro pair member
        rw [sent] at member
        rcases List.mem_append.mp member with old | new
        · exact Or.inl old
        · cases List.mem_singleton.mp new
          exact Or.inr connected
      · intro pair member same
        rw [sent] at member
        rw [connected] at same
        rcases List.mem_append.mp member with old | new
        · exact Or.inr (earlier pair old (Option.some.inj same).symm)
        · cases List.mem_singleton.mp new
          rw [moved.here]
          exact Or.inl uses
      · rw [sent, List.pairwise_append]
        refine ⟨?_, List.pairwise_singleton _ _, ?_⟩
        · exact leasing.ordered.imp fun kept same => moved.settled had (kept same)
        · intro pair member last new same
          cases List.mem_singleton.mp new
          exact earlier pair member same
  | released index id phase entry had entries left sent streams free moved =>
      apply leasing.changed filed had entries (Or.inl free) (Nat.le_of_eq streams) _ _
        _ _ _ moved
      · intro connection connected
        rcases left with gone | ⟨same, _⟩
        · rw [gone] at connected
          cases connected
        · rw [same] at connected
          refine ⟨?_, Or.inl connected⟩
          rw [← streams]
          exact leasing.opened id connection
            ⟨_, (leasing.leasedEntry had).1, connected⟩
      · rw [sent, ← streams]
        exact leasing.sentOpened
      · rw [sent]
        exact fun pair member => Or.inl member
      · intro pair member connected
        rw [sent] at member
        rcases left with gone | ⟨same, settled⟩
        · rw [gone] at connected
          cases connected
        · rw [same] at connected
          rcases leasing.settled_user had member connected with ⟨here, _⟩ | before
          · rw [here, moved.here]
            exact Or.inr settled
          · exact Or.inr (moved.settled had before)
      · rw [sent]
        exact leasing.ordered.imp fun kept same => moved.settled had (kept same)

end Preservation

/-! ### Runs -/

theorem leasing_reached {platform : Platform} {tcp : Bool} {world : TransportWorld}
    (reached : AcceptableReached platform tcp world) : Leasing world := by
  apply reached.invariant
  · intro state initial
    rw [initial]
    exact leasing_initial
  · rintro before after _ leasing ⟨action, acceptable, run⟩
    obtain ⟨effect, filed⟩ := performTransport_effect leasing.filed acceptable run
    exact leasing.step filed effect

theorem failed_not_settled {world : TransportWorld} {index : Nat}
    (failed : world.Failed index) :
    (world.phase index).settled = false ∧ (world.phase index).connection = none := by
  obtain ⟨error, phase⟩ := failed
  rw [phase]
  exact ⟨rfl, rfl⟩

/-- When every complete reply that is read is acceptable, no failed exchange
leaves its connection to another one. -/
theorem plainTransport_neverStale {platform : Platform} {tcp : Bool}
    {world : TransportWorld} (reached : AcceptableReached platform tcp world) :
    NothingStale world := by
  have leasing := leasing_reached reached
  constructor
  · intro pair member failed entry entryMember connected
    obtain ⟨id, found⟩ := List.mem_iff_getElem?.mp entryMember
    obtain ⟨unsettled, unused⟩ := failed_not_settled failed
    rcases leasing.users pair member id ⟨entry, found, connected⟩ with uses | settled
    · rw [unused] at uses
      cases uses
    · rw [unsettled] at settled
      cases settled
  · apply leasing.ordered.imp
    intro earlier later kept same failed
    have settled := kept same
    rw [(failed_not_settled failed).1] at settled
    cases settled

/-- A recursive query of type A for the name `a`. -/
def pooledQuery (id : UInt8) : Packet :=
  [0, id, 1, 0, 0, 1, 0, 0, 0, 0, 0, 0, 1, 97, 0, 0, 1, 0, 1]

def pooledFrame (id : UInt8) : Packet :=
  [0, 19, 0, id, 0x81, 0x80, 0, 1, 0, 0, 0, 0, 0, 0, 1, 97, 0, 0, 1, 0, 1]

def sendQuery (index : Nat) (id : UInt8) : List TransportAction :=
  [.begin (pooledQuery id) {} { generation := 1 }, .move index .enter,
    .move index .refresh, .move index .connect, .move index .transmit]

def readReply (index connection : Nat) (frame : Packet) : List TransportAction :=
  [.deliver connection frame, .move index (.receive 2), .move index (.receive 19),
    .move index .validate]

/-- After an answered exchange, one whose two attempts time out does not keep
the next from being answered. -/
def timedOutRun : List TransportAction :=
  sendQuery 0 7 ++ readReply 0 0 (pooledFrame 7) ++ sendQuery 1 8 ++
    [.move 1 (.fail (.of "TIMEOUT" "Socket wait deadline exceeded")),
      .move 1 .connect, .move 1 .transmit,
      .move 1 (.fail (.of "TIMEOUT" "Socket wait deadline exceeded"))] ++
    sendQuery 2 9 ++ readReply 2 2 (pooledFrame 9)

theorem plainTransport_neverStale_timeout :
    ∃ world, AcceptableReached ipv4Platform true world ∧
      world.sent = [(0, 0), (1, 0), (1, 1), (2, 2)] ∧ world.Failed 1 ∧
      NothingStale world := by
  have result : ((Transition.performAll (performAcceptable ipv4Platform true) {}
      timedOutRun).map fun world => (world.sent, world.phase 1)) =
        some ([(0, 0), (1, 0), (1, 1), (2, 2)],
          .finished (.error (.of "TIMEOUT" "Socket wait deadline exceeded"))) := by
    decide +kernel
  obtain ⟨world, ran, seen⟩ := Option.map_eq_some_iff.mp result
  obtain ⟨sent, failed⟩ := Prod.mk.inj seen
  have start : AcceptableReached ipv4Platform true {} := .start rfl
  have reached : AcceptableReached ipv4Platform true world := by
    apply start.performAll _ ran
    intro state action after performed
    unfold performAcceptable at performed
    split at performed
    · rename_i acceptable
      exact ⟨action, acceptable, performed⟩
    · cases performed
  exact ⟨world, reached, sent, ⟨_, failed⟩, plainTransport_neverStale reached⟩

def staleMismatch : Error :=
  .of "DNS_MISMATCH" "DNS response does not match request"

/-- A reply with a wrong id, and then the late right one. -/
def shiftedRun : List TransportAction :=
  sendQuery 0 7 ++ readReply 0 0 (pooledFrame 9) ++
    sendQuery 1 8 ++ [.deliver 0 (pooledFrame 7)] ++ readReply 1 0 (pooledFrame 8)

/-- A refused reply leaves its connection in the pool, and the next exchange
reads the late reply to the first in the place of its own. -/
theorem plainTransport_neverStale_fails :
    ∃ world, TransportReached ipv4Platform true world ∧
      world.sent = [(0, 0), (1, 0)] ∧
      (world.pool.entry 0).connection = some 0 ∧
      world.Failed 0 ∧ world.Failed 1 ∧
      world.streams = [pooledFrame 8] ∧ ¬ NothingStale world := by
  have result : ((Transition.performAll (performTransport ipv4Platform true) {}
      shiftedRun).map fun world =>
        ((world.sent, world.streams, (world.pool.entry 0).connection),
          world.phase 0, world.phase 1)) =
        some (([(0, 0), (1, 0)], [pooledFrame 8], some 0),
          .finished (.error staleMismatch), .finished (.error staleMismatch)) := by
    decide +kernel
  obtain ⟨world, ran, seen⟩ := Option.map_eq_some_iff.mp result
  simp only [Prod.mk.injEq] at seen
  obtain ⟨⟨sent, unread, connected⟩, first, second⟩ := seen
  have start : TransportReached ipv4Platform true {} := .start rfl
  have reached : TransportReached ipv4Platform true world :=
    start.performAll (fun _ action _ performed => ⟨action, performed⟩) ran
  refine ⟨world, reached, sent, connected, ⟨_, first⟩, ⟨_, second⟩, unread, ?_⟩
  intro fresh
  have ordered := fresh.unshifted
  rw [sent] at ordered
  have clean := (List.pairwise_cons.mp ordered).1 (1, 0) List.mem_cons_self rfl
  exact clean ⟨_, first⟩

end NativeDNS
