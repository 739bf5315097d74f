/-
Any number of requests on one connection pool.

The atomic steps are the sections under the pool mutex: the sweep and the first
pass of a request, a later pass after a wait, the end of a wait without an entry,
and the end of a lease.  Between them the holder of a lease changes the connection
of its entry as it likes.  The pools differ in their key and in how many entries a
key may have.

`makers` records the server each entry was made for, `refusals` how many other
keys had a busy entry at each refusal; the code keeps neither.
-/
import NativeDNS.Transport.LeasedPool
import NativeDNS.Library.Transition

namespace NativeDNS

open ByteText (text)

inductive RequestPhase where
  | entering
  | waiting
  | leased (id : Nat)
  | ended
  deriving DecidableEq

structure PoolRequest where
  server : Server
  phase : RequestPhase

structure LeaseWorld where
  pool : Pool := {}
  requests : List PoolRequest := []
  makers : List Server := []
  refusals : List Nat := []

inductive LeaseAction where
  | «begin» (server : Server)
  | enter (index : Nat)
  | retry (index : Nat)
  | giveUp (index : Nat)
  | use (index : Nat) (connection : Option Nat) (lastUsed : Nat)
  | release (index : Nat)

namespace LeaseWorld

def setPhase (world : LeaseWorld) (index : Nat) (request : PoolRequest)
    (phase : RequestPhase) : LeaseWorld :=
  { world with requests := world.requests.set index { request with phase := phase } }

def acquire (limit : Nat) (keyOf : Server → Bytes) (world : LeaseWorld) (index : Nat)
    (request : PoolRequest) (pool : Pool) : LeaseWorld :=
  let server := request.server
  match acquireWithin limit pool (keyOf server) server.route.generation with
  | (after, .leased id) =>
      { world with
        pool := after
        makers :=
          if id < world.makers.length then world.makers
          else world.makers ++ [server] }.setPhase index request (.leased id)
  | (after, .full) => { world with pool := after }.setPhase index request .waiting
  | (after, .refused _) =>
      { world with
        pool := after
        refusals := world.refusals ++ [busyKeys world.pool (keyOf server)] }.setPhase
          index request .ended

end LeaseWorld

def performLease (limit : Nat) (keyOf : Server → Bytes) (world : LeaseWorld) :
    LeaseAction → Option LeaseWorld
  | .begin server =>
      some { world with
        requests := world.requests ++ [{ server := server, phase := .entering }] }
  | .enter index =>
      match world.requests[index]? with
      | some request =>
          if request.phase = .entering then
            some (world.acquire limit keyOf index request
              (world.pool.dropStale request.server.route.generation))
          else none
      | none => none
  | .retry index =>
      match world.requests[index]? with
      | some request =>
          if request.phase = .waiting then
            some (world.acquire limit keyOf index request world.pool)
          else none
      | none => none
  | .giveUp index =>
      match world.requests[index]? with
      | some request =>
          if request.phase = .waiting then some (world.setPhase index request .ended)
          else none
      | none => none
  | .use index connection lastUsed =>
      match world.requests[index]? with
      | some { server := _, phase := .leased id } =>
          some { world with
            pool := world.pool.setEntry id
              { world.pool.entry id with
                connection := connection
                lastUsed := lastUsed } }
      | _ => none
  | .release index =>
      match world.requests[index]? with
      | some { server := server, phase := .leased id } =>
          some ({ world with
            pool := world.pool.setEntry id { world.pool.entry id with busy := false } }.setPhase
              index { server := server, phase := .leased id } .ended)
      | _ => none

/-- The states of a pool whose requests are for some servers only. -/
abbrev LeaseReached (limit : Nat) (keyOf : Server → Bytes) (used : Server → Prop) :
    LeaseWorld → Prop :=
  Transition.Reachable (fun world => world = {}) fun before after =>
    ∃ action, performLease limit keyOf before action = some after ∧
      ∀ server, action = .begin server → used server

/-! ### The property -/

def LeaseWorld.Holds (world : LeaseWorld) (index id : Nat) (server : Server) : Prop :=
  world.requests[index]? = some { server := server, phase := .leased id }

/-- An entry has one holder, is filed while it is held, and was made for the key it is
used for; the pool is within its bounds and refuses a key only when all others are
in use. -/
structure PoolExclusive (limit : Nat) (keyOf : Server → Bytes) (world : LeaseWorld) :
    Prop where
  exclusive : ∀ left right id leftServer rightServer, world.Holds left id leftServer →
    world.Holds right id rightServer → left = right
  filed : ∀ index id server, world.Holds index id server →
    id ∈ world.pool.ids (keyOf server)
  own : ∀ index id server, world.Holds index id server →
    ∃ maker, world.makers[id]? = some maker ∧ keyOf maker = keyOf server
  short : ∀ key, (world.pool.ids key).length ≤ limit
  size : world.pool.filed.size ≤ 128
  refused : ∀ others ∈ world.refusals, others = 128

/-- And an entry is used for the generation it was made for. -/
structure PoolSafe (limit : Nat) (keyOf : Server → Bytes) (world : LeaseWorld) : Prop
    extends PoolExclusive limit keyOf world where
  generation : ∀ index id server, world.Holds index id server →
    ∀ maker, world.makers[id]? = some maker →
      maker.route.generation = server.route.generation

/-- Servers in use whose keys are equal have routes of one generation. -/
def KeysTellGeneration (keyOf : Server → Bytes) (used : Server → Prop) : Prop :=
  ∀ left right, used left → used right → keyOf left = keyOf right →
    left.route.generation = right.route.generation

/-! ### The invariant -/

structure LeaseSound (limit : Nat) (keyOf : Server → Bytes) (used : Server → Prop)
    (world : LeaseWorld) : Prop where
  shape : PoolShape limit (world.makers.map keyOf) world.pool
  exclusive : ∀ left right id leftServer rightServer, world.Holds left id leftServer →
    world.Holds right id rightServer → left = right
  filed : ∀ index id server, world.Holds index id server →
    id ∈ world.pool.ids (keyOf server)
  busy : ∀ index id server, world.Holds index id server → world.pool.busy id = true
  requested : ∀ request ∈ world.requests, used request.server
  made : ∀ maker ∈ world.makers, used maker
  refused : ∀ others ∈ world.refusals, others = 128

theorem initial_free (index id : Nat) (server : Server) :
    ¬ ({} : LeaseWorld).Holds index id server := by
  intro holds
  unfold LeaseWorld.Holds at holds
  rw [List.getElem?_nil] at holds
  exact absurd holds (Option.some_ne_none _).symm

theorem leaseSound_initial (limit : Nat) (keyOf : Server → Bytes)
    (used : Server → Prop) : LeaseSound limit keyOf used {} where
  shape :=
    { size := Nat.zero_le _
      short := fun _ member => absurd member List.not_mem_nil
      own := fun _ member => absurd member List.not_mem_nil
      counted := rfl }
  exclusive := fun left _ id server _ holds _ =>
    absurd holds (initial_free left id server)
  filed := fun index id server holds => absurd holds (initial_free index id server)
  busy := fun index id server holds => absurd holds (initial_free index id server)
  requested := fun _ member => absurd member List.not_mem_nil
  made := fun _ member => absurd member List.not_mem_nil
  refused := fun _ member => absurd member List.not_mem_nil

section Steps

variable {limit : Nat} {keyOf : Server → Bytes} {used : Server → Prop}
  {world : LeaseWorld}

theorem LeaseSound.maker (sound : LeaseSound limit keyOf used world)
    {index id : Nat} {server : Server} (holds : world.Holds index id server) :
    ∃ maker, world.makers[id]? = some maker ∧ keyOf maker = keyOf server := by
  have own := sound.shape.ids_own (sound.filed index id server holds)
  rw [List.getElem?_map] at own
  exact Option.map_eq_some_iff.mp own

theorem LeaseSound.poolExclusive (sound : LeaseSound limit keyOf used world) :
    PoolExclusive limit keyOf world where
  exclusive := sound.exclusive
  filed := sound.filed
  own := fun _ _ _ holds => sound.maker holds
  short := sound.shape.ids_short
  size := sound.shape.size
  refused := sound.refused

theorem LeaseSound.safe (sound : LeaseSound limit keyOf used world)
    (tells : KeysTellGeneration keyOf used) : PoolSafe limit keyOf world where
  toPoolExclusive := sound.poolExclusive
  generation := by
    intro index id server holds maker found
    obtain ⟨other, present, key⟩ := sound.maker holds
    rw [found] at present
    cases present
    exact tells maker server (sound.made maker (List.mem_of_getElem? found))
      (sound.requested _ (List.mem_of_getElem? holds)) key

theorem holds_setPhase {request : PoolRequest} {index other id : Nat} {server : Server}
    {phase : RequestPhase} {requests : List PoolRequest}
    (found : requests[index]? = some request)
    (holds : (requests.set index { request with phase := phase })[other]? =
      some { server := server, phase := .leased id }) :
    (other = index ∧ phase = .leased id ∧ request.server = server) ∨
      (other ≠ index ∧ requests[other]? = some { server := server, phase := .leased id }) := by
  by_cases same : other = index
  · rw [same, List.getElem?_set_self (List.getElem?_eq_some_iff.mp found).1] at holds
    cases holds
    exact Or.inl ⟨same, rfl, rfl⟩
  · rw [List.getElem?_set_ne (Ne.symm same)] at holds
    exact Or.inr ⟨same, holds⟩

theorem requested_set {request : PoolRequest} {index : Nat} {phase : RequestPhase}
    {requests : List PoolRequest} (found : requests[index]? = some request)
    (each : ∀ other ∈ requests, used other.server) :
    ∀ other ∈ requests.set index { request with phase := phase }, used other.server := by
  intro other member
  rcases List.mem_or_eq_of_mem_set member with old | new
  · exact each other old
  · rw [new]
    exact each request (List.mem_of_getElem? found)

theorem LeaseSound.unleased (sound : LeaseSound limit keyOf used world)
    {index : Nat} {request : PoolRequest} (found : world.requests[index]? = some request)
    {phase : RequestPhase} (free : ∀ id, phase ≠ .leased id) {pool : Pool}
    (shape : PoolShape limit (world.makers.map keyOf) pool)
    (keeps : KeepsBusy world.pool pool)
    (entries : pool.entries = world.pool.entries) {refusals : List Nat}
    (refused : ∀ others ∈ refusals, others = 128) :
    LeaseSound limit keyOf used
      ({ world with
        pool := pool
        refusals := refusals }.setPhase index request phase) := by
  have still : ∀ {other id server}, ({ world with
      pool := pool
      refusals := refusals }.setPhase index request phase).Holds other id server →
        world.Holds other id server := by
    intro other id server holds
    rcases holds_setPhase found holds with ⟨_, leased, _⟩ | ⟨_, old⟩
    · exact absurd leased (free id)
    · exact old
  have sameBusy : ∀ id, pool.busy id = world.pool.busy id := by
    intro id
    unfold Pool.busy Pool.entry
    rw [entries]
  constructor
  case shape =>
    exact shape
  case exclusive =>
    intro left right id leftServer rightServer leftHolds rightHolds
    exact sound.exclusive left right id leftServer rightServer (still leftHolds)
      (still rightHolds)
  case filed =>
    intro other id server holds
    exact keeps _ id (sound.filed other id server (still holds))
      (sound.busy other id server (still holds))
  case busy =>
    intro other id server holds
    exact (sameBusy id).trans (sound.busy other id server (still holds))
  case requested =>
    exact requested_set found sound.requested
  case made =>
    exact sound.made
  case refused =>
    exact refused

theorem LeaseSound.leased (sound : LeaseSound limit keyOf used world)
    {index : Nat} {request : PoolRequest} (found : world.requests[index]? = some request)
    {id : Nat} {pool : Pool} {makers : List Server}
    (shape : PoolShape limit (makers.map keyOf) pool)
    (keeps : KeepsBusy world.pool pool)
    (filed : id ∈ pool.ids (keyOf request.server))
    (free : ∀ other server, ¬ world.Holds other id server)
    (taken : pool.busy id = true)
    (others : ∀ other, other ≠ id → world.pool.busy other = true → pool.busy other = true)
    (made : ∀ maker ∈ makers, used maker) :
    LeaseSound limit keyOf used
      ({ world with
        pool := pool
        makers := makers }.setPhase index request (.leased id)) := by
  have split : ∀ {other held server}, ({ world with
      pool := pool
      makers := makers }.setPhase index request (.leased id)).Holds other held server →
        (other = index ∧ held = id ∧ server = request.server) ∨
          (other ≠ index ∧ held ≠ id ∧ world.Holds other held server) := by
    intro other held server holds
    rcases holds_setPhase found holds with ⟨same, leased, own⟩ | ⟨different, old⟩
    · cases leased
      exact Or.inl ⟨same, rfl, own.symm⟩
    · refine Or.inr ⟨different, ?_, old⟩
      intro same
      exact free other server (same ▸ old)
  constructor
  case shape =>
    exact shape
  case exclusive =>
    intro left right held leftServer rightServer leftHolds rightHolds
    rcases split leftHolds with ⟨leftHere, leftId, _⟩ | ⟨_, leftOther, leftOld⟩
    · rcases split rightHolds with ⟨rightHere, _, _⟩ | ⟨_, rightOther, _⟩
      · rw [leftHere, rightHere]
      · exact absurd leftId rightOther
    · rcases split rightHolds with ⟨_, rightId, _⟩ | ⟨_, _, rightOld⟩
      · exact absurd rightId leftOther
      · exact sound.exclusive left right held leftServer rightServer leftOld rightOld
  case filed =>
    intro other held server holds
    rcases split holds with ⟨_, same, own⟩ | ⟨_, _, old⟩
    · rw [same, own]
      exact filed
    · exact keeps _ held (sound.filed other held server old)
        (sound.busy other held server old)
  case busy =>
    intro other held server holds
    rcases split holds with ⟨_, same, _⟩ | ⟨_, different, old⟩
    · rw [same]
      exact taken
    · exact others held different (sound.busy other held server old)
  case requested =>
    exact requested_set found sound.requested
  case made =>
    exact made
  case refused =>
    exact sound.refused

theorem busy_of_entries {left right : Pool} (same : left.entries = right.entries)
    (id : Nat) : left.busy id = right.busy id := by
  unfold Pool.busy Pool.entry
  rw [same]

theorem busy_of_set {before after : Pool} {id : Nat} {entry : PoolEntry}
    (inside : id < before.entries.length)
    (entries : after.entries = before.entries.set id entry) (other : Nat) :
    after.busy other = if other = id then entry.busy else before.busy other := by
  unfold Pool.busy Pool.entry
  rw [entries, List.getD_eq_getElem?_getD, List.getD_eq_getElem?_getD]
  split
  · rename_i same
    rw [same, List.getElem?_set_self inside, Option.getD_some]
  · rename_i different
    rw [List.getElem?_set_ne (Ne.symm different)]

theorem busy_of_concat {before after : Pool} {entry : PoolEntry}
    (entries : after.entries = before.entries ++ [entry]) (other : Nat) :
    after.busy other =
      if other = before.entries.length then entry.busy else before.busy other := by
  unfold Pool.busy Pool.entry
  rw [entries, List.getD_eq_getElem?_getD, List.getD_eq_getElem?_getD,
    Lists.getElem?_concat]
  split
  · rfl
  · rfl

theorem busyKeys_le (pool : Pool) (key : Bytes) : busyKeys pool key ≤ pool.filed.size :=
  List.length_filter_le _ _

/-- What the sweep leaves for the first pass, or the pool itself for a later one. -/
structure Swept (before after : Pool) (key : Bytes) : Prop where
  entries : after.entries = before.entries
  keeps : KeepsBusy before after
  fewer : busyKeys after key ≤ busyKeys before key

theorem dropStale_swept (pool : Pool) (generation : UInt64) (key : Bytes) :
    Swept pool (pool.dropStale generation) key where
  entries := rfl
  keeps := dropStale_keepsBusy pool generation
  fewer := by
    unfold busyKeys Pool.dropStale OrderedMap.filter
    exact (List.filter_sublist.filter _).length_le

theorem LeaseSound.acquire (sound : LeaseSound limit keyOf used world)
    {index : Nat} {request : PoolRequest} (found : world.requests[index]? = some request)
    {pool : Pool} (shape : PoolShape limit (world.makers.map keyOf) pool)
    (swept : Swept world.pool pool (keyOf request.server)) :
    LeaseSound limit keyOf used (world.acquire limit keyOf index request pool) := by
  unfold LeaseWorld.acquire
  rcases run : acquireWithin limit pool (keyOf request.server)
    request.server.route.generation with ⟨after, acquired⟩
  obtain ⟨keysAfter, spec⟩ := acquireWithin_spec shape run
  have keeps : KeepsBusy world.pool after := by
    intro key id member taken
    apply spec.keeps key id (swept.keeps key id member taken)
    rw [busy_of_entries swept.entries]
    exact taken
  have afterShape := spec.shape
  have filed := spec.filed
  simp only [run]
  cases spec.effect with
  | @taken id entry present free entries own =>
      have inside := (List.getElem?_eq_some_iff.mp present).1
      have known : id < world.makers.length := by
        rw [← List.length_map keyOf]
        exact (List.getElem?_eq_some_iff.mp own).1
      have changed := busy_of_set inside entries
      have unheld : world.pool.busy id = false := by
        rw [← busy_of_entries swept.entries]
        unfold Pool.busy Pool.entry
        rw [List.getD_eq_getElem?_getD, present, Option.getD_some]
        exact free
      simp only [if_pos known]
      apply sound.leased found afterShape keeps (filed id rfl)
      · intro other server holds
        rw [sound.busy other id server holds] at unheld
        cases unheld
      · rw [changed, if_pos rfl]
      · intro other different taken
        rw [changed, if_neg different, busy_of_entries swept.entries]
        exact taken
      · exact sound.made
  | made entries =>
      have number : pool.entries.length = world.makers.length := by
        rw [← shape.counted, List.length_map]
      have fresh : ¬ pool.entries.length < world.makers.length := by
        omega
      have changed := busy_of_concat entries
      simp only [if_neg fresh]
      apply sound.leased found _ keeps (filed _ rfl)
      · intro other server holds
        obtain ⟨maker, present, _⟩ := sound.maker holds
        have inside := (List.getElem?_eq_some_iff.mp present).1
        omega
      · rw [changed, if_pos rfl]
      · intro other different taken
        rw [changed, if_neg different, busy_of_entries swept.entries]
        exact taken
      · intro maker member
        rcases List.mem_append.mp member with old | new
        · exact sound.made maker old
        · rw [List.mem_singleton.mp new]
          exact sound.requested request (List.mem_of_getElem? found)
      · rw [List.map_append]
        exact afterShape
  | full entries =>
      have free : ∀ id, RequestPhase.waiting ≠ .leased id := nofun
      exact sound.unleased found free afterShape keeps (entries.trans swept.entries)
        sound.refused
  | refused entries crowded =>
      have free : ∀ id, RequestPhase.ended ≠ .leased id := nofun
      apply sound.unleased found free afterShape keeps (entries.trans swept.entries)
      intro others member
      rcases List.mem_append.mp member with old | new
      · exact sound.refused others old
      · rw [List.mem_singleton.mp new]
        have most := Nat.le_trans (busyKeys_le world.pool (keyOf request.server))
          sound.shape.size
        have least := Nat.le_trans crowded swept.fewer
        exact Nat.le_antisymm most least

theorem LeaseSound.«begin» (sound : LeaseSound limit keyOf used world) {server : Server}
    (allowed : used server) :
    LeaseSound limit keyOf used
      { world with
        requests := world.requests ++ [{ server := server, phase := .entering }] } := by
  have old : ∀ {index id holder}, ({ world with
      requests := world.requests ++
        [{ server := server, phase := .entering }] } : LeaseWorld).Holds index id holder →
        world.Holds index id holder := by
    intro index id holder holds
    unfold LeaseWorld.Holds at holds
    rw [Lists.getElem?_concat] at holds
    split at holds
    · have phases := congrArg PoolRequest.phase (Option.some.inj holds)
      cases phases
    · exact holds
  exact
    { shape := sound.shape
      exclusive := fun left right id leftServer rightServer leftHolds rightHolds =>
        sound.exclusive left right id leftServer rightServer (old leftHolds)
          (old rightHolds)
      filed := fun index id holder holds => sound.filed index id holder (old holds)
      busy := fun index id holder holds => sound.busy index id holder (old holds)
      requested := by
        intro request member
        rcases List.mem_append.mp member with before | new
        · exact sound.requested request before
        · rw [List.mem_singleton.mp new]
          exact allowed
      made := sound.made
      refused := sound.refused }

theorem LeaseSound.held (sound : LeaseSound limit keyOf used world) {index id : Nat}
    {server : Server} (holds : world.Holds index id server) :
    id < world.pool.entries.length := by
  obtain ⟨maker, present, _⟩ := sound.maker holds
  rw [← sound.shape.counted, List.length_map]
  exact (List.getElem?_eq_some_iff.mp present).1

theorem LeaseSound.use (sound : LeaseSound limit keyOf used world) {index id : Nat}
    {server : Server} (holds : world.Holds index id server) {entry : PoolEntry}
    (taken : entry.busy = true) :
    LeaseSound limit keyOf used { world with pool := world.pool.setEntry id entry } where
  shape := sound.shape.setEntry id entry
  exclusive := sound.exclusive
  filed := sound.filed
  busy := by
    intro other held holder otherHolds
    change (world.pool.setEntry id entry).busy held = true
    rw [busy_of_set (sound.held holds) rfl]
    split
    · exact taken
    · exact sound.busy other held holder otherHolds
  requested := sound.requested
  made := sound.made
  refused := sound.refused

theorem LeaseSound.release (sound : LeaseSound limit keyOf used world) {index id : Nat}
    {server : Server} (holds : world.Holds index id server) (entry : PoolEntry) :
    LeaseSound limit keyOf used
      ({ world with pool := world.pool.setEntry id entry }.setPhase index
        { server := server, phase := .leased id } .ended) := by
  have still : ∀ {other held holder},
      ({ world with pool := world.pool.setEntry id entry }.setPhase index
        { server := server, phase := .leased id } .ended).Holds other held holder →
        held ≠ id ∧ world.Holds other held holder := by
    intro other held holder otherHolds
    rcases holds_setPhase holds otherHolds with ⟨_, leased, _⟩ | ⟨different, old⟩
    · cases leased
    · refine ⟨?_, old⟩
      intro same
      exact different (sound.exclusive other index id holder server (same ▸ old) holds)
  constructor
  case shape =>
    exact sound.shape.setEntry id entry
  case exclusive =>
    intro left right held leftServer rightServer leftHolds rightHolds
    exact sound.exclusive left right held leftServer rightServer (still leftHolds).2
      (still rightHolds).2
  case filed =>
    intro other held holder otherHolds
    exact sound.filed other held holder (still otherHolds).2
  case busy =>
    intro other held holder otherHolds
    obtain ⟨different, old⟩ := still otherHolds
    change (world.pool.setEntry id entry).busy held = true
    rw [busy_of_set (sound.held holds) rfl, if_neg different]
    exact sound.busy other held holder old
  case requested =>
    exact requested_set holds sound.requested
  case made =>
    exact sound.made
  case refused =>
    exact sound.refused

theorem LeaseSound.step (sound : LeaseSound limit keyOf used world)
    {action : LeaseAction} {after : LeaseWorld}
    (performed : performLease limit keyOf world action = some after)
    (allowed : ∀ server, action = .begin server → used server) :
    LeaseSound limit keyOf used after := by
  cases action with
  | «begin» server =>
      cases performed
      exact sound.begin (allowed server rfl)
  | enter index =>
      simp only [performLease] at performed
      split at performed
      · rename_i request found
        split at performed
        · cases performed
          exact sound.acquire found (sound.shape.filter _) (dropStale_swept _ _ _)
        · cases performed
      · cases performed
  | retry index =>
      simp only [performLease] at performed
      split at performed
      · rename_i request found
        split at performed
        · cases performed
          exact sound.acquire found sound.shape
            ⟨rfl, fun _ _ member _ => member, Nat.le_refl _⟩
        · cases performed
      · cases performed
  | giveUp index =>
      simp only [performLease] at performed
      split at performed
      · rename_i request found
        split at performed
        · cases performed
          have free : ∀ id, RequestPhase.ended ≠ .leased id := nofun
          exact sound.unleased found free sound.shape (fun _ _ member _ => member) rfl
            sound.refused
        · cases performed
      · cases performed
  | use index connection lastUsed =>
      simp only [performLease] at performed
      split at performed
      · rename_i server id found
        cases performed
        exact sound.use found (sound.busy index id server found)
      · cases performed
  | release index =>
      simp only [performLease] at performed
      split at performed
      · rename_i server id found
        cases performed
        exact sound.release found _
      · cases performed

end Steps

theorem leaseSound_reached {limit : Nat} {keyOf : Server → Bytes} {used : Server → Prop}
    {world : LeaseWorld} (reached : LeaseReached limit keyOf used world) :
    LeaseSound limit keyOf used world := by
  apply reached.invariant
  · rintro _ rfl
    exact leaseSound_initial limit keyOf used
  · rintro before after _ sound ⟨action, performed, allowed⟩
    exact sound.step performed allowed

/-! ### Two servers with one key -/

def oneKeyPool (key : Bytes) (entries : List PoolEntry) (ids : List Nat) : Pool :=
  { entries := entries
    filed := OrderedMap.empty.insert key ids }

section OneKey

variable (key : Bytes) (entries : List PoolEntry) (ids : List Nat)

theorem oneKeyPool_ids : (oneKeyPool key entries ids).ids key = ids := by
  unfold oneKeyPool Pool.ids
  rw [OrderedMap.find?_insert, if_pos rfl]
  rfl

theorem oneKeyPool_insert (others : List Nat) :
    (oneKeyPool key entries ids).filed.insert key others =
      (oneKeyPool key entries others).filed := by
  apply OrderedMap.ext_entries
  change OrderedMap.insertEntry key others [(key, ids)] = [(key, others)]
  unfold OrderedMap.insertEntry
  rw [if_neg (lt_irrefl key), if_pos rfl]

theorem oneKeyPool_dropStale (generation : UInt64) {id : Nat} (member : id ∈ ids)
    (taken : (oneKeyPool key entries ids).busy id = true) :
    (oneKeyPool key entries ids).dropStale generation = oneKeyPool key entries ids := by
  have kept : (oneKeyPool key entries ids).filed.filter (fun item =>
      !item.2.all fun id => (oneKeyPool key entries ids).idle id &&
        ((oneKeyPool key entries ids).entry id).generation != generation) =
          (oneKeyPool key entries ids).filed := by
    apply OrderedMap.filter_eq_self
    intro item inside
    have one : (oneKeyPool key entries ids).filed.entries = [(key, ids)] := rfl
    rw [one] at inside
    rw [List.mem_singleton.mp inside]
    exact not_all_stale generation member taken
  unfold Pool.dropStale
  rw [kept]

theorem oneKeyPool_room :
    limitIdlePool (oneKeyPool key entries ids) key = (oneKeyPool key entries ids, .ok ()) := by
  have known : (oneKeyPool key entries ids).filed.contains key = true := by
    unfold OrderedMap.contains oneKeyPool
    rw [OrderedMap.find?_insert, if_pos rfl]
    rfl
  exact if_pos (Or.inl known)

theorem oneKeyPool_own : ((oneKeyPool key entries ids).filed.find? key).getD [] = ids :=
  oneKeyPool_ids key entries ids

theorem oneKeyPool_taken (limit : Nat) (generation : UInt64) {id : Nat}
    (found : ids.find? (oneKeyPool key entries ids).idle = some id) :
    acquireWithin limit (oneKeyPool key entries ids) key generation =
      ((oneKeyPool key entries ids).setEntry id
        { (oneKeyPool key entries ids).entry id with busy := true }, .leased id) := by
  unfold acquireWithin
  simp only [oneKeyPool_room, oneKeyPool_own, oneKeyPool_insert]
  split
  · rename_i other same
    cases found.symm.trans same
    rfl
  · rename_i missing
    cases found.symm.trans missing

theorem oneKeyPool_made (limit : Nat) (generation : UInt64)
    (noneIdle : ids.find? (oneKeyPool key entries ids).idle = none)
    (short : ids.length < limit) :
    acquireWithin limit (oneKeyPool key entries ids) key generation =
      (oneKeyPool key (entries ++ [{ busy := true, generation := generation }])
        (ids ++ [entries.length]), .leased entries.length) := by
  unfold acquireWithin
  simp only [oneKeyPool_room, oneKeyPool_own, oneKeyPool_insert]
  split
  · rename_i other same
    cases noneIdle.symm.trans same
  · simp only [if_pos short]
    rfl

end OneKey

theorem emptyPool_made (limit : Nat) (room : 0 < limit) (key : Bytes)
    (generation : UInt64) :
    acquireWithin limit {} key generation =
      (oneKeyPool key [{ busy := true, generation := generation }] [0], .leased 0) := by
  have empty : limitIdlePool {} key = ({}, .ok ()) :=
    if_pos (Or.inr (by decide))
  have nothing : ((OrderedMap.empty : OrderedMap Bytes (List Nat)).find? key).getD [] = [] :=
    rfl
  have filed := oneKeyPool_insert key [] [] [0]
  unfold acquireWithin
  simp only [empty, nothing, List.find?_nil, List.length_nil, if_pos room]
  unfold oneKeyPool at filed ⊢
  simp only at filed
  simp only [List.nil_append, filed]

def sharedRun (first second : Server) : List LeaseAction :=
  [.begin first, .enter 0, .begin first, .enter 1, .release 1, .begin second, .enter 2]

theorem sharedRun_performed {limit : Nat} (two : 2 ≤ limit) {keyOf : Server → Bytes}
    {first second : Server} (same : keyOf first = keyOf second) :
    ∃ pool, Transition.performAll (performLease limit keyOf) {} (sharedRun first second) =
      some
        { pool := pool
          requests :=
            [{ server := first, phase := .leased 0 }, { server := first, phase := .ended },
              { server := second, phase := .leased 1 }]
          makers := [first, first] } := by
  let key := keyOf first
  let taken : PoolEntry := { busy := true, generation := first.route.generation }
  let free : PoolEntry := { taken with busy := false }
  let one : LeaseWorld :=
    { pool := oneKeyPool key [taken] [0]
      requests := [{ server := first, phase := .leased 0 }]
      makers := [first] }
  let both : LeaseWorld :=
    { pool := oneKeyPool key [taken, taken] [0, 1]
      requests :=
        [{ server := first, phase := .leased 0 }, { server := first, phase := .leased 1 }]
      makers := [first, first] }
  let left : LeaseWorld :=
    { pool := oneKeyPool key [taken, free] [0, 1]
      requests :=
        [{ server := first, phase := .leased 0 }, { server := first, phase := .ended }]
      makers := [first, first] }
  have made : acquireWithin limit (oneKeyPool key [taken] [0]) (keyOf first)
      first.route.generation = (both.pool, .leased 1) :=
    oneKeyPool_made key [taken] [0] limit _ rfl two
  have found : acquireWithin limit (oneKeyPool key [taken, free] [0, 1]) (keyOf second)
      second.route.generation =
        (left.pool.setEntry 1 { free with busy := true }, .leased 1) := by
    rw [← same]
    exact oneKeyPool_taken key [taken, free] [0, 1] limit _ rfl
  have firstEnters : Transition.performAll (performLease limit keyOf) {}
      [.begin first, .enter 0] = some one := by
    change some (LeaseWorld.acquire limit keyOf _ 0 _ {}) = _
    unfold LeaseWorld.acquire
    simp only [emptyPool_made limit (by omega)]
    rfl
  have secondEnters : Transition.performAll (performLease limit keyOf) one
      [.begin first, .enter 1] = some both := by
    change some (LeaseWorld.acquire limit keyOf _ 1 _ (one.pool.dropStale _)) = _
    rw [oneKeyPool_dropStale key [taken] [0] _ List.mem_cons_self rfl]
    unfold LeaseWorld.acquire
    simp only [made]
    rfl
  have secondEnds : Transition.performAll (performLease limit keyOf) both
      [.release 1] = some left := rfl
  refine ⟨left.pool.setEntry 1 { free with busy := true }, ?_⟩
  change Transition.performAll (performLease limit keyOf) {}
    ([.begin first, .enter 0] ++ ([.begin first, .enter 1] ++
      ([.release 1] ++ [.begin second, .enter 2]))) = _
  rw [Transition.performAll_append firstEnters, Transition.performAll_append secondEnters,
    Transition.performAll_append secondEnds]
  change some (LeaseWorld.acquire limit keyOf _ 2 _ (left.pool.dropStale _)) = _
  rw [oneKeyPool_dropStale key [taken, free] [0, 1] _ List.mem_cons_self rfl]
  unfold LeaseWorld.acquire
  simp only [found]
  rfl

theorem sharedRun_reached {limit : Nat} (two : 2 ≤ limit) {keyOf : Server → Bytes}
    {used : Server → Prop} {first second : Server} (firstUsed : used first)
    (secondUsed : used second) (same : keyOf first = keyOf second) :
    ∃ world, LeaseReached limit keyOf used world ∧ world.Holds 2 1 second ∧
      world.makers[1]? = some first := by
  obtain ⟨pool, ran⟩ := sharedRun_performed two same
  have started : ∀ action ∈ sharedRun first second, ∀ server,
      action = .begin server → used server := by
    intro action member server begins
    rw [begins] at member
    simp only [sharedRun, List.mem_cons, LeaseAction.begin.injEq, reduceCtorEq, false_or,
      List.not_mem_nil, or_false] at member
    rcases member with rfl | rfl | rfl
    · exact firstUsed
    · exact firstUsed
    · exact secondUsed
  have start : LeaseReached limit keyOf used {} := .start rfl
  have reached := start.performAll_allowed
    (fun before action _ performed permitted => ⟨action, performed, permitted⟩) started ran
  exact ⟨_, reached, rfl, rfl⟩

theorem tells_of_safe {limit : Nat} (two : 2 ≤ limit) {keyOf : Server → Bytes}
    {used : Server → Prop}
    (safe : ∀ world, LeaseReached limit keyOf used world → PoolSafe limit keyOf world) :
    KeysTellGeneration keyOf used := by
  intro first second firstUsed secondUsed same
  obtain ⟨world, reached, holds, made⟩ := sharedRun_reached two firstUsed secondUsed same
  exact (safe world reached).generation 2 1 second holds first made

/-! ### The three pools -/

theorem poolKey_tells : KeysTellGeneration poolKey fun _ => True := by
  intro left right _ _ same
  unfold poolKey networkRouteKey at same
  simp only [← List.cons_append, ← List.append_assoc] at same
  obtain ⟨_, generation⟩ := ByteText.separator_append_inj
    (ByteText.not_mem_decimal (by decide) _) (ByteText.not_mem_decimal (by decide) _) same
  exact UInt64.toNat_inj.mp (ByteText.decimal_injective generation)

/-- The TCP pool is safe; the DoT and DoH pools are, but for the generation, and for
that exactly when the keys of the servers in use tell it. -/
theorem pooledConnections_safe (dot : Bool) (used : Server → Prop) :
    (∀ world, LeaseReached maxPoolEntries poolKey (fun _ => True) world →
      PoolSafe maxPoolEntries poolKey world) ∧
    (∀ world, LeaseReached (maxSecureEntries dot) securePoolKey used world →
      PoolExclusive (maxSecureEntries dot) securePoolKey world) ∧
    ((∀ world, LeaseReached (maxSecureEntries dot) securePoolKey used world →
      PoolSafe (maxSecureEntries dot) securePoolKey world) ↔
        KeysTellGeneration securePoolKey used) ∧
    ((∀ server, used server → BarFree server) →
      KeysTellGeneration securePoolKey used) := by
  refine ⟨?_, ?_, ?_, ?_⟩
  · intro world reached
    exact (leaseSound_reached reached).safe poolKey_tells
  · intro world reached
    exact (leaseSound_reached reached).poolExclusive
  · constructor
    · have two : 2 ≤ maxSecureEntries dot := by
        cases dot with
        | false | true =>
            decide
      exact tells_of_safe two
    · intro tells world reached
      exact (leaseSound_reached reached).safe tells
  · intro free left right leftUsed rightUsed same
    exact generation_of_key (free left leftUsed) (free right rightUsed) same

/-- A server whose bootstrap entries continue its key like the route of the other. -/
def listedServer : Server :=
  { id := 1
    name := text "listed"
    protocol := .doh
    ip := text "192.0.2.1"
    url := text "https://dns.example/dns-query"
    hostname := text "h"
    bootstrap := [[], text "0", text "0", text "0", text "7"]
    route := { generation := 5 } }

def barredServer : Server :=
  { id := 2
    name := text "barred"
    protocol := .doh
    ip := text "192.0.2.1"
    url := text "https://dns.example/dns-query"
    hostname := text "h||0|0|0|5"
    route := { generation := 7 } }

theorem pooledConnections_mixed :
    ∃ world, LeaseReached 8 securePoolKey (fun _ => True) world ∧
      world.Holds 2 1 barredServer ∧ world.makers[1]? = some listedServer ∧
      ¬ PoolSafe 8 securePoolKey world := by
  have same : securePoolKey listedServer = securePoolKey barredServer := by
    decide +kernel
  have shared : ∃ world, LeaseReached 8 securePoolKey (fun _ => True) world ∧
      world.Holds 2 1 barredServer ∧ world.makers[1]? = some listedServer :=
    sharedRun_reached (by decide) trivial trivial same
  obtain ⟨world, reached, holds, made⟩ := shared
  refine ⟨world, reached, holds, made, ?_⟩
  intro safe
  have generation := safe.generation 2 1 barredServer holds listedServer made
  revert generation
  decide

end NativeDNS
