/-
The reflected connections that the TCP proxy expects.

The proxy port is open to everyone.  A connection is taken only when the
packet loop has seen its first segment and has left its tuple in a table; the
handler of the connection takes the tuple out again.  The packet loop, the
handlers and `stop` work on the table under one mutex.

A handler reads the clock before it waits for the mutex, and the packet loop
reads it twice while it holds the mutex.  Between any two of these the clock may
advance and the others may go on.  `history` lists what was done to the tuples;
the code does not keep it.
-/
import NativeDNS.Library.Tickets
import NativeDNS.Library.Transition
import NativeDNS.Router.Cache
import Mathlib.Data.Prod.Lex

namespace NativeDNS

open CheckedResult

instance portOrder : LinearOrder UInt16 where
  le_refl := UInt16.le_refl
  le_trans := fun _ _ _ => UInt16.le_trans
  lt_iff_le_not_ge := fun left right => by
    rw [UInt16.le_iff_toNat_le, UInt16.le_iff_toNat_le, UInt16.lt_iff_toNat_lt]
    omega
  le_antisymm := fun _ _ => UInt16.le_antisymm
  le_total := UInt16.le_total
  toDecidableLE := inferInstance

/-- The address of the intercepted resolver and the port of the client. -/
abbrev ReflectedTuple := Bytes ×ₗ UInt16

def reflectedTuple (originalIp : Bytes) (clientPort : UInt16) : ReflectedTuple :=
  toLex (originalIp, clientPort)

abbrev ExpectedTable := OrderedMap ReflectedTuple Nat

def maxExpected : Nat := 4096

def expectedLifetime : Nat := 5 * nanosPerSecond

/-! ### The code of the sections -/

def pruneExpected (expected : ExpectedTable) (now : Nat) : ExpectedTable :=
  Tickets.prune expected now

/-- `consume_expected` with the clock that it has read. -/
def consumeExpected (expected : ExpectedTable) (address : Bytes)
    (clientPort : UInt16) (now : Nat) : Bool × ExpectedTable :=
  let pruned := pruneExpected expected now
  match pruned.find? (reflectedTuple address clientPort) with
  | none => (false, pruned)
  | some _ => (true, pruned.erase (reflectedTuple address clientPort))

/-- What `expect_connection` throws before it takes the mutex. -/
def checkExpectation (originalIp : Bytes) (clientPort : UInt16) : Checked Unit :=
  rejectIf (originalIp = [] ∨ clientPort = 0)
    (.of "TCP_PROXY_IO" "Invalid expected TCP connection")

def admitExpectation (pruned : ExpectedTable) (originalIp : Bytes)
    (clientPort : UInt16) : Checked Unit :=
  rejectIf (maxExpected ≤ pruned.size ∧
      pruned.contains (reflectedTuple originalIp clientPort) = false)
    (.of "TCP_PROXY_BUSY" "Too many pending reflected TCP connections")

def recordExpectation (pruned : ExpectedTable) (originalIp : Bytes)
    (clientPort : UInt16) (later : Nat) : ExpectedTable :=
  pruned.insert (reflectedTuple originalIp clientPort) (later + expectedLifetime)

/-- `expect_connection` with its two readings of the clock: what it throws, and
the table it leaves. -/
def expectConnection (expected : ExpectedTable) (originalIp : Bytes)
    (clientPort : UInt16) (now later : Nat) : Checked Unit × ExpectedTable :=
  match checkExpectation originalIp clientPort with
  | .error error => (.error error, expected)
  | .ok () =>
      let pruned := pruneExpected expected now
      match admitExpectation pruned originalIp clientPort with
      | .error error => (.error error, pruned)
      | .ok () => (.ok (), recordExpectation pruned originalIp clientPort later)

def forgetConnection (expected : ExpectedTable) (originalIp : Bytes)
    (clientPort : UInt16) : ExpectedTable :=
  if originalIp = [] ∨ clientPort = 0 then expected
  else expected.erase (reflectedTuple originalIp clientPort)

/-! ### Any number of calls -/

/-- A call of `consume_expected` that has read the clock. -/
structure ConsumeCall where
  address : Bytes
  clientPort : UInt16
  now : Nat

def ConsumeCall.tuple (call : ConsumeCall) : ReflectedTuple :=
  reflectedTuple call.address call.clientPort

structure ExpectedWorld where
  clock : Nat := 0
  expected : ExpectedTable := .empty
  consuming : List ConsumeCall := []
  /-- The call of `expect_connection` that is past its tests, with the mutex. -/
  expecting : Option (Bytes × UInt16) := none
  history : List (Tickets.Event ReflectedTuple) := []

def ConsumeCall.accepted (call : ConsumeCall) (accepts : Bool) :
    List (Tickets.Event ReflectedTuple) :=
  if accepts = true then [.admitted call.tuple call.now] else []

inductive ExpectedStep : ExpectedWorld → ExpectedWorld → Prop
  | pass {world : ExpectedWorld} {later : Nat} (onward : world.clock ≤ later) :
      ExpectedStep world { world with clock := later }
  | arrive {world : ExpectedWorld} (address : Bytes) (clientPort : UInt16) :
      ExpectedStep world { world with
        consuming := world.consuming ++ [⟨address, clientPort, world.clock⟩] }
  | consume {world : ExpectedWorld} {front back : List ConsumeCall}
      {call : ConsumeCall} {accepts : Bool} {expected : ExpectedTable}
      (unlocked : world.expecting = none)
      (waits : world.consuming = front ++ call :: back)
      (returns : consumeExpected world.expected call.address call.clientPort
        call.now = (accepts, expected)) :
      ExpectedStep world { world with
        consuming := front ++ back
        expected := expected
        history := world.history ++ call.accepted accepts }
  | refuse {world : ExpectedWorld} {originalIp : Bytes} {clientPort : UInt16}
      {error : Error} (unlocked : world.expecting = none)
      (valid : checkExpectation originalIp clientPort = .ok ())
      (busy : admitExpectation (pruneExpected world.expected world.clock)
        originalIp clientPort = .error error) :
      ExpectedStep world { world with
        expected := pruneExpected world.expected world.clock }
  | permit {world : ExpectedWorld} {originalIp : Bytes} {clientPort : UInt16}
      (unlocked : world.expecting = none)
      (valid : checkExpectation originalIp clientPort = .ok ())
      (room : admitExpectation (pruneExpected world.expected world.clock)
        originalIp clientPort = .ok ()) :
      ExpectedStep world { world with
        expected := pruneExpected world.expected world.clock
        expecting := some (originalIp, clientPort) }
  | record {world : ExpectedWorld} {originalIp : Bytes} {clientPort : UInt16}
      (held : world.expecting = some (originalIp, clientPort)) :
      ExpectedStep world { world with
        expected :=
          recordExpectation world.expected originalIp clientPort world.clock
        expecting := none
        history := world.history ++
          [.issued (reflectedTuple originalIp clientPort) world.clock] }
  | forget {world : ExpectedWorld} {originalIp : Bytes} {clientPort : UInt16}
      (unlocked : world.expecting = none)
      (named : ¬ (originalIp = [] ∨ clientPort = 0)) :
      ExpectedStep world { world with
        expected := forgetConnection world.expected originalIp clientPort
        history := world.history ++
          [.withdrawn (reflectedTuple originalIp clientPort)] }
  /-- The part of `stop` that clears the table. -/
  | stop {world : ExpectedWorld} (unlocked : world.expecting = none) :
      ExpectedStep world { world with
        expected := .empty
        history := world.history ++ [.cleared] }

def ExpectedReached (world : ExpectedWorld) : Prop :=
  Transition.Reachable (· = {}) ExpectedStep world

/-! ### What a section leaves -/

section Sections

variable {expected : ExpectedTable} {originalIp : Bytes} {clientPort : UInt16}
  {now later : Nat}

theorem consumeExpected_cases {accepts : Bool} {after : ExpectedTable}
    (returns : consumeExpected expected originalIp clientPort now =
      (accepts, after)) :
    (accepts = false ∧ after = pruneExpected expected now) ∨
      ∃ deadline, accepts = true ∧
        (pruneExpected expected now).find? (reflectedTuple originalIp clientPort) =
          some deadline ∧
        after = (pruneExpected expected now).erase
          (reflectedTuple originalIp clientPort) := by
  unfold consumeExpected at returns
  dsimp only at returns
  cases found : (pruneExpected expected now).find?
      (reflectedTuple originalIp clientPort) with
  | none =>
      rw [found] at returns
      cases returns
      exact .inl ⟨rfl, rfl⟩
  | some deadline =>
      rw [found] at returns
      cases returns
      exact .inr ⟨deadline, rfl, rfl, rfl⟩

theorem admitExpectation_ok {pruned : ExpectedTable} :
    admitExpectation pruned originalIp clientPort = .ok () ↔
      pruned.size < maxExpected ∨
        ∃ deadline, pruned.find? (reflectedTuple originalIp clientPort) =
          some deadline := by
  unfold admitExpectation
  rw [rejectIf_eq_ok, OrderedMap.contains]
  cases pruned.find? (reflectedTuple originalIp clientPort) with
  | none =>
      simp
  | some deadline =>
      simp

theorem size_recordExpectation_le {pruned : ExpectedTable}
    (within : pruned.size ≤ maxExpected)
    (room : pruned.size < maxExpected ∨
      ∃ deadline, pruned.find? (reflectedTuple originalIp clientPort) =
        some deadline) :
    (recordExpectation pruned originalIp clientPort later).size ≤ maxExpected := by
  unfold recordExpectation
  cases found : pruned.find? (reflectedTuple originalIp clientPort) with
  | none =>
      have free : pruned.size < maxExpected := by
        rcases room with free | ⟨deadline, bound⟩
        · exact free
        · rw [found] at bound
          cases bound
      rw [OrderedMap.size_insert found]
      exact free
  | some deadline =>
      rw [OrderedMap.size_insert_of_some found]
      exact within

theorem admitExpectation_of_present {deadline : Nat}
    (within : expected.size ≤ maxExpected)
    (present : expected.find? (reflectedTuple originalIp clientPort) =
      some deadline) :
    admitExpectation (pruneExpected expected now) originalIp clientPort =
      .ok () := by
  rw [admitExpectation_ok]
  cases found : (pruneExpected expected now).find?
      (reflectedTuple originalIp clientPort) with
  | none =>
      exact .inl (Nat.lt_of_lt_of_le (Tickets.size_prune_lt present found) within)
  | some kept =>
      exact .inr ⟨kept, rfl⟩

end Sections

/-! ### Every run -/

/-- What holds of the table, the history and the call that holds the mutex. -/
structure ExpectedInvariant (world : ExpectedWorld) : Prop where
  covers : Tickets.Covers expectedLifetime world.expected world.history
  admissions : Tickets.Admissions expectedLifetime world.history
  within : world.expected.size ≤ maxExpected
  /-- Only tuples that `expect_connection` takes are in the table. -/
  named : ∀ originalIp clientPort deadline,
    world.expected.find? (reflectedTuple originalIp clientPort) = some deadline →
      checkExpectation originalIp clientPort = .ok ()
  held : ∀ originalIp clientPort,
    world.expecting = some (originalIp, clientPort) →
      checkExpectation originalIp clientPort = .ok () ∧
      (world.expected.size < maxExpected ∨
        ∃ deadline, world.expected.find?
          (reflectedTuple originalIp clientPort) = some deadline)

theorem ExpectedInvariant.initial : ExpectedInvariant {} :=
  { covers := Tickets.Covers.empty []
    admissions := Tickets.Admissions.nil
    within := Nat.zero_le _
    named := by intro originalIp clientPort deadline impossible; cases impossible
    held := by intro originalIp clientPort impossible; cases impossible }

section Steps

variable {world : ExpectedWorld}

theorem ExpectedInvariant.pruned (invariant : ExpectedInvariant world) (now : Nat)
    (expecting : Option (Bytes × UInt16))
    (held : ∀ originalIp clientPort, expecting = some (originalIp, clientPort) →
      checkExpectation originalIp clientPort = .ok () ∧
        admitExpectation (pruneExpected world.expected now) originalIp
          clientPort = .ok ()) :
    ExpectedInvariant { world with
      expected := pruneExpected world.expected now
      expecting := expecting } :=
  { covers := invariant.covers.prune now
    admissions := invariant.admissions
    within := (Tickets.size_prune_le _ now).trans invariant.within
    named := by
      intro originalIp clientPort deadline found
      exact invariant.named originalIp clientPort deadline
        (Tickets.find?_prune found).1
    held := by
      intro originalIp clientPort holds
      obtain ⟨valid, room⟩ := held originalIp clientPort holds
      exact ⟨valid, admitExpectation_ok.mp room⟩ }

theorem ExpectedInvariant.acceptable (invariant : ExpectedInvariant world)
    {address : Bytes} {clientPort : UInt16} {now : Nat}
    (accepts : (consumeExpected world.expected address clientPort now).1 = true) :
    ∃ time, Tickets.Outstanding world.history (reflectedTuple address clientPort)
      time ∧ now < time + expectedLifetime := by
  rcases consumeExpected_cases (Prod.eta
      (consumeExpected world.expected address clientPort now)).symm with
    ⟨rejected, _⟩ | ⟨deadline, _, found, _⟩
  · rw [rejected] at accepts
    cases accepts
  · exact invariant.covers.admissible found

/-- A call of `consume_expected` takes the mutex. -/
theorem ExpectedInvariant.consume (invariant : ExpectedInvariant world)
    {call : ConsumeCall} {accepts : Bool} {expected : ExpectedTable}
    {consuming : List ConsumeCall} (unlocked : world.expecting = none)
    (returns : consumeExpected world.expected call.address call.clientPort
      call.now = (accepts, expected)) :
    ExpectedInvariant { world with
      consuming := consuming
      expected := expected
      history := world.history ++ call.accepted accepts } := by
  have pruned := invariant.pruned call.now none (by
    intro originalIp clientPort impossible
    cases impossible)
  have free : ∀ originalIp clientPort,
      world.expecting ≠ some (originalIp, clientPort) := by
    intro originalIp clientPort held
    rw [unlocked] at held
    cases held
  rcases consumeExpected_cases returns with
    ⟨rfl, rfl⟩ | ⟨deadline, rfl, found, rfl⟩
  · have same : world.history ++ call.accepted false = world.history :=
      List.append_nil _
    rw [same]
    exact
      { covers := pruned.covers
        admissions := pruned.admissions
        within := pruned.within
        named := pruned.named
        held := fun ip port held => absurd held (free ip port) }
  · have young := invariant.covers.admissible found
    exact
      { covers := pruned.covers.erase fun other ends => ends
        admissions := invariant.admissions.snoc (by
          intro key now same
          cases same
          exact young)
        within := (OrderedMap.size_erase_le _ _).trans pruned.within
        named := by
          intro originalIp clientPort kept present
          rw [OrderedMap.find?_erase] at present
          split at present
          · cases present
          · exact pruned.named originalIp clientPort kept present
        held := fun ip port held => absurd held (free ip port) }

theorem ExpectedInvariant.record (invariant : ExpectedInvariant world)
    {originalIp : Bytes} {clientPort : UInt16}
    (held : world.expecting = some (originalIp, clientPort)) :
    ExpectedInvariant { world with
      expected := recordExpectation world.expected originalIp clientPort world.clock
      expecting := none
      history := world.history ++
        [.issued (reflectedTuple originalIp clientPort) world.clock] } := by
  obtain ⟨valid, room⟩ := invariant.held originalIp clientPort held
  exact
    { covers := invariant.covers.issue _ world.clock
      admissions := invariant.admissions.snoc (by
        intro key now impossible
        cases impossible)
      within := size_recordExpectation_le invariant.within room
      named := by
        intro otherIp otherPort deadline found
        unfold recordExpectation at found
        rw [OrderedMap.find?_insert] at found
        split at found
        · rename_i same
          obtain ⟨rfl, rfl⟩ := Prod.mk.inj (toLex_inj.mp same)
          exact valid
        · exact invariant.named otherIp otherPort deadline found
      held := by intro otherIp otherPort impossible; cases impossible }

theorem ExpectedInvariant.forget (invariant : ExpectedInvariant world)
    (originalIp : Bytes) (clientPort : UInt16) (unlocked : world.expecting = none)
    (named : ¬ (originalIp = [] ∨ clientPort = 0)) :
    ExpectedInvariant { world with
      expected := forgetConnection world.expected originalIp clientPort
      history := world.history ++
        [.withdrawn (reflectedTuple originalIp clientPort)] } := by
  have erased : forgetConnection world.expected originalIp clientPort =
      world.expected.erase (reflectedTuple originalIp clientPort) := if_neg named
  rw [erased]
  exact
    { covers := invariant.covers.erase fun other ends => ends
      admissions := invariant.admissions.snoc (by
        intro key now impossible
        cases impossible)
      within := (OrderedMap.size_erase_le _ _).trans invariant.within
      named := by
        intro otherIp otherPort deadline found
        rw [OrderedMap.find?_erase] at found
        split at found
        · cases found
        · exact invariant.named otherIp otherPort deadline found
      held := by
        intro otherIp otherPort held
        rw [unlocked] at held
        cases held }

theorem ExpectedInvariant.step {after : ExpectedWorld}
    (invariant : ExpectedInvariant world) (moved : ExpectedStep world after) :
    ExpectedInvariant after := by
  cases moved with
  | pass onward =>
      exact { invariant with }
  | arrive address clientPort =>
      exact { invariant with }
  | consume unlocked waits returns =>
      exact invariant.consume unlocked returns
  | refuse unlocked valid busy =>
      exact invariant.pruned world.clock world.expecting (by
        intro originalIp clientPort held
        rw [unlocked] at held
        cases held)
  | permit unlocked valid room =>
      refine invariant.pruned world.clock (some _) ?_
      intro originalIp clientPort same
      cases same
      exact ⟨valid, room⟩
  | record held =>
      exact invariant.record held
  | forget unlocked named =>
      exact invariant.forget _ _ unlocked named
  | stop unlocked =>
      exact
        { covers := Tickets.Covers.empty _
          admissions := invariant.admissions.snoc (by
            intro key now impossible
            cases impossible)
          within := Nat.zero_le _
          named := by
            intro originalIp clientPort deadline impossible
            cases impossible
          held := by
            intro originalIp clientPort held
            rw [unlocked] at held
            cases held }

end Steps

theorem ExpectedReached.invariant {world : ExpectedWorld}
    (reached : ExpectedReached world) : ExpectedInvariant world :=
  Transition.Reachable.invariant
    (by
      intro state starts
      rw [starts]
      exact ExpectedInvariant.initial)
    (by
      intro state after _ invariant moved
      exact invariant.step moved)
    reached

theorem ExpectedInvariant.refreshes {world : ExpectedWorld}
    (invariant : ExpectedInvariant world) {originalIp : Bytes}
    {clientPort : UInt16} {deadline : Nat}
    (present : world.expected.find? (reflectedTuple originalIp clientPort) =
      some deadline) (now later : Nat) :
    expectConnection world.expected originalIp clientPort now later =
      (.ok (), recordExpectation (pruneExpected world.expected now) originalIp
        clientPort later) := by
  unfold expectConnection
  rw [invariant.named originalIp clientPort deadline present]
  dsimp only
  rw [admitExpectation_of_present invariant.within present]

/-- Reflected connections are admitted once for each captured segment. -/
structure AdmittedOnce (world : ExpectedWorld) : Prop where
  /-- A call that would be accepted finds an expectation that is younger than
  five seconds and neither accepted nor forgotten. -/
  accepts : ∀ call ∈ world.consuming,
    (consumeExpected world.expected call.address call.clientPort call.now).1 =
      true →
    ∃ before time after,
      world.history = before ++ .issued call.tuple time :: after ∧
      call.now < time + expectedLifetime ∧
      ∀ event ∈ after, ¬ event.Ends call.tuple
  accepted : ∀ first tuple now rest,
    world.history = first ++ .admitted tuple now :: rest →
    ∃ before time after, first = before ++ .issued tuple time :: after ∧
      now < time + expectedLifetime ∧ ∀ event ∈ after, ¬ event.Ends tuple
  once : ∀ first between rest tuple earlier later,
    world.history =
      first ++ .admitted tuple earlier :: (between ++ .admitted tuple later :: rest) →
    ∃ time, .issued tuple time ∈ between ∧ later < time + expectedLifetime
  within : world.expected.size ≤ maxExpected
  refreshes : ∀ originalIp clientPort,
    world.expected.contains (reflectedTuple originalIp clientPort) = true →
    ∀ now later, ∃ after,
      expectConnection world.expected originalIp clientPort now later =
        (.ok (), after) ∧
      after.find? (reflectedTuple originalIp clientPort) =
        some (later + expectedLifetime)

theorem expectedConnections_admittedOnce {world : ExpectedWorld}
    (reached : ExpectedReached world) : AdmittedOnce world := by
  have invariant := reached.invariant
  exact
    { accepts := by
        intro call _ accepting
        obtain ⟨time, ⟨before, after, split, quiet⟩, young⟩ :=
          invariant.acceptable accepting
        exact ⟨before, time, after, split, young, quiet⟩
      accepted := by
        intro first tuple now rest split
        obtain ⟨time, ⟨before, after, whole, quiet⟩, young⟩ :=
          invariant.admissions first tuple now rest split
        exact ⟨before, time, after, whole, young, quiet⟩
      once := by
        intro first between rest tuple earlier later split
        exact invariant.admissions.issued_between split
      within := invariant.within
      refreshes := by
        intro originalIp clientPort contained now later
        obtain ⟨deadline, present⟩ := Option.isSome_iff_exists.mp contained
        refine ⟨_, invariant.refreshes present now later, ?_⟩
        unfold recordExpectation
        rw [OrderedMap.find?_insert, if_pos rfl] }

/-- A segment is captured and its connection arrives a second later. -/
theorem expectedConnections_arrival :
    ∃ (world : ExpectedWorld)
        (before after : List (Tickets.Event ReflectedTuple)) (time : Nat),
      (consumeExpected world.expected [49] 5 nanosPerSecond).1 = true ∧
      world.history = before ++ .issued (reflectedTuple [49] 5) time :: after ∧
      nanosPerSecond < time + expectedLifetime := by
  have captured : ExpectedReached
      { expected := recordExpectation .empty [49] 5 0
        history := [.issued (reflectedTuple [49] 5) 0] } :=
    .next (.next (.start rfl) (.permit rfl rfl rfl)) (.record rfl)
  have later := Transition.Reachable.next captured
    (.pass (Nat.zero_le nanosPerSecond))
  have arrived := Transition.Reachable.next later (.arrive [49] 5)
  have accepting : (consumeExpected (recordExpectation .empty [49] 5 0) [49] 5
      nanosPerSecond).1 = true := by
    decide
  obtain ⟨before, time, after, split, young, _⟩ :=
    (expectedConnections_admittedOnce arrived).accepts
      ⟨[49], 5, nanosPerSecond⟩ List.mem_cons_self accepting
  exact ⟨_, before, after, time, accepting, split, young⟩

end NativeDNS
