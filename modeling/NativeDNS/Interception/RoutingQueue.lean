/-
The queue between the receive loop and its workers.

The receive loop, the workers and the callers of `start` and `stop` take turns
under the queue mutex.  The model lets any of them make its next move, and shows
how far the one that holds the mutex has come.  The lifecycle mutex is left out,
so that callers meet in more ways than it lets them, and so are allocations that
fail.  What a packet goes through is written down in a history that the code does
not have.
-/
import NativeDNS.Interception.Receive
import NativeDNS.Library.Transition
import NativeDNS.Listener.Events
import Mathlib.Logic.Function.Basic

namespace NativeDNS

open Transition (Reachable)

/-- The variables of the receive loop at the queue step, with the number of the
packet in the order of arrival. -/
structure OfferedPacket where
  number : Nat
  packet : Packet
  view : UdpView
  address : DivertAddress
  snapshot : Snapshot

def OfferedPacket.job (offered : OfferedPacket) : Job :=
  { packet := offered.packet
    address := offered.address
    snapshot := offered.snapshot }

/-- How far the receive loop has come in its critical section. -/
inductive OfferProgress where
  | testing
  | adding
  | moving
  | leaving (queued : Bool)
  deriving DecidableEq

/-- How far a worker has come in its critical section. -/
inductive TakeProgress where
  | testing
  | moved (job : Job)
  | subtracted (job : Job)
  | popped (job : Job)

/-- How far a caller that clears the queue has come. -/
inductive ClearProgress where
  | begun
  | emptied
  | zeroed
  deriving DecidableEq

/-- Why a caller waits for the threads to end. -/
inductive QueueTeardown where
  | rollback
  | stop
  deriving DecidableEq

/-- Who holds the queue mutex, and how far the holder has come. -/
inductive QueueHolder where
  | offer (offered : OfferedPacket) (progress : OfferProgress)
  | take (worker : Nat) (progress : TakeProgress)
  | clear (caller : Nat) (teardown : QueueTeardown) (progress : ClearProgress)

inductive ReceiverPoint where
  | absent
  | receiving
  | offering (offered : OfferedPacket)
  | inside
  | refused (offered : OfferedPacket)
  | ended

inductive WorkerPoint where
  | absent
  | waiting
  | inside
  | processing (job : Job)
  | ended

inductive CallerPoint where
  | outside
  | starting
  | joining (teardown : QueueTeardown)
  | locking (teardown : QueueTeardown)
  | inside
  | releasing (teardown : QueueTeardown)

inductive QueueEvent where
  | reached (number : Nat) (packet : Packet)
  | queued (number : Nat) (job : Job)
  | rejected (number : Nat) (packet : Packet)

def QueueEvent.number : QueueEvent → Nat
  | reached number _ | queued number _ | rejected number _ => number

structure RoutingWorld where
  state : State := .stopped
  queue : JobQueue := {}
  holder : Option QueueHolder := none
  receiver : ReceiverPoint := .absent
  workers : Nat → WorkerPoint := fun _ => .absent
  callers : Nat → CallerPoint := fun _ => .outside
  arrivals : Nat := 0
  history : List QueueEvent := []

namespace JobQueue

def addBytes (queue : JobQueue) (packet : Packet) : JobQueue :=
  { queue with queuedBytes := queue.queuedBytes + packet.length }

def pushBack (queue : JobQueue) (job : Job) : JobQueue :=
  { queue with jobs := queue.jobs ++ [job] }

/-- The front job is moved out; what is left of its packet is not specified. -/
def moveFront (queue : JobQueue) (left : Packet) : JobQueue :=
  { queue with
    jobs := match queue.jobs with
      | [] => []
      | job :: rest => { job with packet := left } :: rest }

def subtractBytes (queue : JobQueue) (packet : Packet) : JobQueue :=
  { queue with queuedBytes := queue.queuedBytes - packet.length }

def popFront (queue : JobQueue) : JobQueue :=
  { queue with jobs := queue.jobs.tail }

def size (queue : JobQueue) : Nat :=
  (queue.jobs.map (·.packet.length)).sum

end JobQueue

namespace RoutingWorld

def atWorker (world : RoutingWorld) (worker : Nat) (point : WorkerPoint) :
    RoutingWorld :=
  { world with workers := Function.update world.workers worker point }

def atCaller (world : RoutingWorld) (caller : Nat) (point : CallerPoint) :
    RoutingWorld :=
  { world with callers := Function.update world.callers caller point }

def note (world : RoutingWorld) (event : QueueEvent) : RoutingWorld :=
  { world with history := world.history ++ [event] }

/-- No thread of the backend is left running. -/
def Joined (world : RoutingWorld) : Prop :=
  (world.receiver = .absent ∨ world.receiver = .ended) ∧
    ∀ worker, world.workers worker = .absent ∨ world.workers worker = .ended

end RoutingWorld

def QueueTeardown.final : QueueTeardown → State
  | rollback => .error
  | stop => .stopped

/-! ### The moves -/

inductive ReceiverMove : RoutingWorld → RoutingWorld → Prop
  | arrive {world : RoutingWorld} (packet : Packet) (view : UdpView)
      (address : DivertAddress) (snapshot : Snapshot)
      (here : world.receiver = .receiving) :
      ReceiverMove world
        ({ world with
          arrivals := world.arrivals + 1
          receiver := .offering
            { number := world.arrivals
              packet := packet
              view := view
              address := address
              snapshot := snapshot } }.note (.reached world.arrivals packet))
  | finish {world : RoutingWorld} (here : world.receiver = .receiving) :
      ReceiverMove world { world with receiver := .ended }
  | lock {world : RoutingWorld} {offered : OfferedPacket}
      (here : world.receiver = .offering offered) (free : world.holder = none) :
      ReceiverMove world
        { world with
          receiver := .inside
          holder := some (.offer offered .testing) }
  | accept {world : RoutingWorld} {offered : OfferedPacket}
      (here : world.holder = some (.offer offered .testing))
      (room : world.queue.hasRoom offered.packet) :
      ReceiverMove world { world with holder := some (.offer offered .adding) }
  | refuse {world : RoutingWorld} {offered : OfferedPacket}
      (here : world.holder = some (.offer offered .testing))
      (full : ¬ world.queue.hasRoom offered.packet) :
      ReceiverMove world
        { world with holder := some (.offer offered (.leaving false)) }
  | add {world : RoutingWorld} {offered : OfferedPacket}
      (here : world.holder = some (.offer offered .adding)) :
      ReceiverMove world
        { world with
          queue := world.queue.addBytes offered.packet
          holder := some (.offer offered .moving) }
  | push {world : RoutingWorld} {offered : OfferedPacket}
      (here : world.holder = some (.offer offered .moving)) :
      ReceiverMove world
        ({ world with
          queue := world.queue.pushBack offered.job
          holder := some (.offer { offered with packet := [] } (.leaving true)) }.note
            (.queued offered.number offered.job))
  | unlock {world : RoutingWorld} {offered : OfferedPacket} {queued : Bool}
      (here : world.holder = some (.offer offered (.leaving queued))) :
      ReceiverMove world
        { world with
          holder := none
          receiver := if queued then .receiving else .refused offered }
  /-- The packet is handed to the overload reply. -/
  | reject {world : RoutingWorld} {offered : OfferedPacket}
      (here : world.receiver = .refused offered) :
      ReceiverMove world
        ({ world with receiver := .receiving }.note
          (.rejected offered.number offered.packet))

inductive WorkerMove (worker : Nat) : RoutingWorld → RoutingWorld → Prop
  | lock {world : RoutingWorld} (here : world.workers worker = .waiting)
      (free : world.holder = none) :
      WorkerMove worker world
        { world.atWorker worker .inside with holder := some (.take worker .testing) }
  /-- Nothing is queued, and the wait lets go of the mutex, whatever has become of
  the state. -/
  | wait {world : RoutingWorld} (here : world.holder = some (.take worker .testing))
      (idle : world.queue.jobs = []) :
      WorkerMove worker world { world.atWorker worker .waiting with holder := none }
  | leave {world : RoutingWorld} (here : world.holder = some (.take worker .testing))
      (halted : world.state ≠ .running) :
      WorkerMove worker world { world.atWorker worker .ended with holder := none }
  /-- The backend was running when the worker looked. -/
  | move {world : RoutingWorld} {job : Job} {rest : List Job} (left : Packet)
      (here : world.holder = some (.take worker .testing))
      (front : world.queue.jobs = job :: rest) :
      WorkerMove worker world
        { world with
          queue := world.queue.moveFront left
          holder := some (.take worker (.moved job)) }
  | subtract {world : RoutingWorld} {job : Job}
      (here : world.holder = some (.take worker (.moved job))) :
      WorkerMove worker world
        { world with
          queue := world.queue.subtractBytes job.packet
          holder := some (.take worker (.subtracted job)) }
  | pop {world : RoutingWorld} {job : Job}
      (here : world.holder = some (.take worker (.subtracted job))) :
      WorkerMove worker world
        { world with
          queue := world.queue.popFront
          holder := some (.take worker (.popped job)) }
  | unlock {world : RoutingWorld} {job : Job}
      (here : world.holder = some (.take worker (.popped job))) :
      WorkerMove worker world
        { world.atWorker worker (.processing job) with holder := none }
  | finish {world : RoutingWorld} {job : Job}
      (here : world.workers worker = .processing job) :
      WorkerMove worker world (world.atWorker worker .waiting)

/-- A move of a caller of `start` or `stop`. -/
inductive CallerMove (caller : Nat) : RoutingWorld → RoutingWorld → Prop
  | start {world : RoutingWorld} (here : world.callers caller = .outside)
      (stopped : world.state = .stopped) :
      CallerMove caller world
        { world.atCaller caller .starting with state := .starting }
  | run {world : RoutingWorld} (here : world.callers caller = .starting) :
      CallerMove caller world { world with state := .running }
  | startWorker {world : RoutingWorld} (worker : Nat)
      (here : world.callers caller = .starting)
      (free : world.workers worker = .absent) :
      CallerMove caller world (world.atWorker worker .waiting)
  | startReceiver {world : RoutingWorld} (here : world.callers caller = .starting)
      (free : world.receiver = .absent) :
      CallerMove caller world { world with receiver := .receiving }
  | started {world : RoutingWorld} (here : world.callers caller = .starting) :
      CallerMove caller world (world.atCaller caller .outside)
  /-- Whatever `start` has begun fails. -/
  | fail {world : RoutingWorld} (here : world.callers caller = .starting) :
      CallerMove caller world
        { world.atCaller caller (.joining .rollback) with state := .stopping }
  | stop {world : RoutingWorld} (here : world.callers caller = .outside)
      (begun : world.state ≠ .stopped) :
      CallerMove caller world
        { world.atCaller caller (.joining .stop) with state := .stopping }
  | join {world : RoutingWorld} {teardown : QueueTeardown}
      (here : world.callers caller = .joining teardown) (joined : world.Joined) :
      CallerMove caller world
        { world.atCaller caller (.locking teardown) with
          receiver := .absent
          workers := fun _ => .absent }
  | lock {world : RoutingWorld} {teardown : QueueTeardown}
      (here : world.callers caller = .locking teardown) (free : world.holder = none) :
      CallerMove caller world
        { world.atCaller caller .inside with
          holder := some (.clear caller teardown .begun) }
  | empty {world : RoutingWorld} {teardown : QueueTeardown}
      (here : world.holder = some (.clear caller teardown .begun)) :
      CallerMove caller world
        { world with
          queue := { world.queue with jobs := [] }
          holder := some (.clear caller teardown .emptied) }
  | zero {world : RoutingWorld} {teardown : QueueTeardown}
      (here : world.holder = some (.clear caller teardown .emptied)) :
      CallerMove caller world
        { world with
          queue := { world.queue with queuedBytes := 0 }
          holder := some (.clear caller teardown .zeroed) }
  | unlock {world : RoutingWorld} {teardown : QueueTeardown}
      (here : world.holder = some (.clear caller teardown .zeroed)) :
      CallerMove caller world
        { world.atCaller caller (.releasing teardown) with holder := none }
  | release {world : RoutingWorld} {teardown : QueueTeardown}
      (here : world.callers caller = .releasing teardown) :
      CallerMove caller world
        { world.atCaller caller .outside with state := teardown.final }

/-- A move of any thread; a running backend may also fail. -/
inductive RoutingMove (world after : RoutingWorld) : Prop
  | receiver (moved : ReceiverMove world after)
  | worker (worker : Nat) (moved : WorkerMove worker world after)
  | caller (caller : Nat) (moved : CallerMove caller world after)
  | broken (running : world.state = .running) (ended : after = { world with state := .error })

/-- The states of a backend that has just been built, and of its runs. -/
def RoutingReached (world : RoutingWorld) : Prop :=
  Reachable (· = {}) RoutingMove world

/-! ### The books -/

/-- The books of the queue.  They are exact but where the holder of the mutex is
in the middle of a change. -/
def JobQueue.Accounts (queue : JobQueue) : Option QueueHolder → Prop
  | some (.offer offered .adding) =>
      queue.queuedBytes = queue.size ∧ queue.hasRoom offered.packet
  | some (.offer offered .moving) =>
      queue.queuedBytes = queue.size + offered.packet.length ∧
        queue.jobs.length < 4096
  | some (.take _ (.moved job)) =>
      queue.jobs ≠ [] ∧
        queue.queuedBytes = job.packet.length + queue.popFront.size
  | some (.take _ (.subtracted _)) =>
      queue.jobs ≠ [] ∧ queue.queuedBytes = queue.popFront.size
  | some (.clear _ _ .emptied) => queue.jobs = []
  | _ => queue.queuedBytes = queue.size

structure Balanced (world : RoutingWorld) : Prop where
  accounts : world.queue.Accounts world.holder
  few : world.queue.jobs.length ≤ 4096
  small : world.queue.queuedBytes ≤ 32 * 1024 * 1024

theorem balanced_initial : Balanced {} :=
  { accounts := rfl
    few := Nat.zero_le _
    small := Nat.zero_le _ }

namespace Balanced

variable {world after : RoutingWorld}

theorem passed {holder next : QueueHolder} (balanced : Balanced world)
    (here : world.holder = some holder)
    (kept : world.queue.Accounts (some holder) → world.queue.Accounts (some next)) :
    Balanced { world with holder := some next } := by
  have accounts := balanced.accounts
  rw [here] at accounts
  exact
    { accounts := kept accounts
      few := balanced.few
      small := balanced.small }

theorem receiver (balanced : Balanced world) (moved : ReceiverMove world after) :
    Balanced after := by
  have accounts := balanced.accounts
  cases moved with
  | arrive | finish | reject =>
      exact ⟨accounts, balanced.few, balanced.small⟩
  | lock here free =>
      rw [free] at accounts
      exact ⟨accounts, balanced.few, balanced.small⟩
  | accept here room =>
      exact balanced.passed here fun sums => ⟨sums, room⟩
  | refuse here full =>
      exact balanced.passed here id
  | add here =>
      rw [here] at accounts
      obtain ⟨sums, room⟩ := accounts
      exact
        { accounts := ⟨congrArg (· + _) sums, room.1⟩
          few := balanced.few
          small := room.2 }
  | push here =>
      rw [here] at accounts
      obtain ⟨sums, room⟩ := accounts
      refine
        { accounts := ?_
          few := ?_
          small := balanced.small }
      · refine sums.trans ?_
        unfold JobQueue.size RoutingWorld.note JobQueue.pushBack
        rw [List.map_append, List.sum_append]
        rfl
      · unfold RoutingWorld.note JobQueue.pushBack
        rw [List.length_append]
        exact room
  | unlock here =>
      rw [here] at accounts
      exact ⟨accounts, balanced.few, balanced.small⟩

theorem worker {worker : Nat} (balanced : Balanced world)
    (moved : WorkerMove worker world after) : Balanced after := by
  have accounts := balanced.accounts
  cases moved with
  | lock here free =>
      rw [free] at accounts
      exact ⟨accounts, balanced.few, balanced.small⟩
  | wait here | leave here | unlock here =>
      rw [here] at accounts
      exact ⟨accounts, balanced.few, balanced.small⟩
  | finish =>
      exact ⟨accounts, balanced.few, balanced.small⟩
  | @move job rest left here front =>
      rw [here] at accounts
      have sums : world.queue.queuedBytes = world.queue.size := accounts
      have shape : (world.queue.moveFront left).jobs =
          { job with packet := left } :: rest := by
        unfold JobQueue.moveFront
        rw [front]
      have length : (world.queue.moveFront left).jobs.length =
          world.queue.jobs.length := by
        rw [shape, front, List.length_cons, List.length_cons]
      refine
        { accounts := ⟨?_, ?_⟩
          few := length.trans_le balanced.few
          small := balanced.small }
      · rw [shape]
        exact List.cons_ne_nil _ _
      · refine sums.trans ?_
        unfold JobQueue.size JobQueue.popFront
        rw [shape, front]
        rfl
  | @subtract job here =>
      rw [here] at accounts
      obtain ⟨some, sums⟩ := accounts
      refine
        { accounts := ⟨some, ?_⟩
          few := balanced.few
          small := Nat.le_trans (Nat.sub_le _ _) balanced.small }
      have difference := congrArg (· - job.packet.length) sums
      exact difference.trans (Nat.add_sub_cancel_left _ _)
  | pop here =>
      rw [here] at accounts
      obtain ⟨some, sums⟩ := accounts
      exact
        { accounts := sums
          few := Nat.le_trans (by
            unfold JobQueue.popFront
            rw [List.length_tail]
            exact Nat.sub_le _ _) balanced.few
          small := balanced.small }

theorem caller {caller : Nat} (balanced : Balanced world)
    (moved : CallerMove caller world after) : Balanced after := by
  have accounts := balanced.accounts
  cases moved with
  | start | run | startWorker | startReceiver | started | fail | stop | join | release =>
      exact ⟨accounts, balanced.few, balanced.small⟩
  | lock here free =>
      rw [free] at accounts
      exact ⟨accounts, balanced.few, balanced.small⟩
  | empty here =>
      exact
        { accounts := rfl
          few := Nat.zero_le _
          small := balanced.small }
  | zero here =>
      rw [here] at accounts
      have none : world.queue.jobs = [] := accounts
      refine
        { accounts := ?_
          few := balanced.few
          small := Nat.zero_le _ }
      change 0 = (world.queue.jobs.map (·.packet.length)).sum
      rw [none]
      rfl
  | unlock here =>
      rw [here] at accounts
      exact ⟨accounts, balanced.few, balanced.small⟩

theorem step (balanced : Balanced world) (moved : RoutingMove world after) :
    Balanced after := by
  cases moved with
  | receiver moved =>
      exact balanced.receiver moved
  | worker worker moved =>
      exact balanced.worker moved
  | caller caller moved =>
      exact balanced.caller moved
  | broken running ended =>
      subst ended
      exact ⟨balanced.accounts, balanced.few, balanced.small⟩

end Balanced

/-! ### The history of a packet -/

/-- The events of one packet. -/
def about (number : Nat) (history : List QueueEvent) : List QueueEvent :=
  history.filter fun event => event.number = number

theorem about_other {number : Nat} {history : List QueueEvent} {event : QueueEvent}
    (other : event.number ≠ number) :
    about number (history ++ [event]) = about number history := by
  unfold about
  rw [List.filter_append, List.filter_cons_of_neg (by simpa using other),
    List.filter_nil, List.append_nil]

theorem about_own (history : List QueueEvent) (event : QueueEvent) :
    about event.number (history ++ [event]) = about event.number history ++ [event] := by
  unfold about
  rw [List.filter_append, List.filter_cons_of_pos (by simp), List.filter_nil]

/-- A packet went into the queue once, or to the overload reply once, and it was
still the packet that had arrived. -/
inductive HandedOver (history : List QueueEvent) (number : Nat) : Prop
  | queued (packet : Packet) (job : Job) (whole : job.packet = packet)
      (events : about number history = [.reached number packet, .queued number job])
  | rejected (packet : Packet)
      (events : about number history =
        [.reached number packet, .rejected number packet])

theorem HandedOver.of_same {history others : List QueueEvent} {number : Nat}
    (handed : HandedOver history number)
    (same : about number others = about number history) : HandedOver others number := by
  cases handed with
  | queued packet job whole events =>
      exact .queued packet job whole (same.trans events)
  | rejected packet events =>
      exact .rejected packet (same.trans events)

/-- The packet that a holder has neither queued nor refused. -/
def QueueHolder.offered : Option QueueHolder → Option OfferedPacket
  | some (.offer _ (.leaving true)) => none
  | some (.offer offered _) => some offered
  | _ => none

/-- The packet that the receive loop has in hand. -/
def RoutingWorld.inHand (world : RoutingWorld) : Option OfferedPacket :=
  match world.receiver with
  | .offering offered | .refused offered => some offered
  | .inside => QueueHolder.offered world.holder
  | .absent | .receiving | .ended => none

structure Ledgered (world : RoutingWorld) : Prop where
  within : ∀ offered progress, world.holder = some (.offer offered progress) →
    world.receiver = .inside
  inHand : ∀ offered, world.inHand = some offered →
    offered.number < world.arrivals ∧
      about offered.number world.history =
        [.reached offered.number offered.packet]
  settled : ∀ number < world.arrivals,
    (∀ offered, world.inHand = some offered → offered.number ≠ number) →
      HandedOver world.history number
  fresh : ∀ number, world.arrivals ≤ number → about number world.history = []

theorem ledgered_initial : Ledgered {} :=
  { within := fun _ _ held => by cases held
    inHand := fun _ held => by cases held
    settled := fun _ arrived => absurd arrived (Nat.not_lt_zero _)
    fresh := fun _ _ => rfl }

namespace Ledgered

variable {world after : RoutingWorld}

theorem kept (ledgered : Ledgered world) (same : after.inHand = world.inHand)
    (arrivals : after.arrivals = world.arrivals)
    (history : after.history = world.history)
    (within : ∀ offered progress, after.holder = some (.offer offered progress) →
      after.receiver = .inside) : Ledgered after := by
  refine
    { within := within
      inHand := ?_
      settled := ?_
      fresh := ?_ }
  · rw [same, arrivals, history]
    exact ledgered.inHand
  · rw [same, arrivals, history]
    exact ledgered.settled
  · rw [arrivals, history]
    exact ledgered.fresh

theorem handedOver (ledgered : Ledgered world) {offered : OfferedPacket}
    (event : QueueEvent) (held : world.inHand = some offered)
    (own : event.number = offered.number) (free : after.inHand = none)
    (arrivals : after.arrivals = world.arrivals)
    (history : after.history = world.history ++ [event])
    (settles : about offered.number after.history =
        [.reached offered.number offered.packet, event] →
      HandedOver after.history offered.number)
    (within : ∀ offered progress, after.holder = some (.offer offered progress) →
      after.receiver = .inside) : Ledgered after := by
  obtain ⟨arrived, events⟩ := ledgered.inHand offered held
  refine
    { within := within
      inHand := fun _ found => by rw [free] at found; cases found
      settled := ?_
      fresh := ?_ }
  · intro number below _
    by_cases this_one : number = offered.number
    · subst this_one
      refine settles ?_
      rw [history, ← own, about_own, own, events]
      rfl
    · have other : about number after.history = about number world.history := by
        rw [history]
        exact about_other (by rw [own]; exact Ne.symm this_one)
      have before := ledgered.settled number (arrivals ▸ below) (fun found same => by
        rw [held] at same
        cases same
        exact Ne.symm this_one)
      exact before.of_same other
  · intro number later
    rw [arrivals] at later
    rw [history, about_other (by rw [own]; omega)]
    exact ledgered.fresh number later

theorem receiver (ledgered : Ledgered world) (moved : ReceiverMove world after) :
    Ledgered after := by
  have outside : ∀ point, world.receiver = point → point ≠ .inside →
      ∀ offered progress, world.holder = some (.offer offered progress) → False := by
    intro point here apart offered progress held
    exact apart (here.symm.trans (ledgered.within offered progress held))
  cases moved with
  | arrive packet view address snapshot here =>
      have free : world.inHand = none := by
        unfold RoutingWorld.inHand
        rw [here]
      refine
        { within := fun offered progress held =>
            (outside _ here (fun same => by cases same) offered progress held).elim
          inHand := ?_
          settled := ?_
          fresh := ?_ }
      · intro offered found
        cases found
        refine ⟨Nat.lt_succ_self _, ?_⟩
        have events := about_own world.history (.reached world.arrivals packet)
        rw [show (QueueEvent.reached world.arrivals packet).number = world.arrivals from rfl,
          ledgered.fresh world.arrivals (Nat.le_refl _)] at events
        exact events
      · intro number below others
        have different : world.arrivals ≠ number := others _ rfl
        have before := ledgered.settled number
          (Nat.lt_of_le_of_ne (Nat.le_of_lt_succ below) (Ne.symm different))
          (fun found same => by rw [free] at same; cases same)
        exact before.of_same (about_other different)
      · intro number later
        have above : world.arrivals < number := later
        exact (about_other (Nat.ne_of_lt above)).trans
          (ledgered.fresh number (Nat.le_of_lt above))
  | finish here =>
      refine ledgered.kept ?_ rfl rfl fun offered progress held =>
        (outside _ here (fun same => by cases same) offered progress held).elim
      unfold RoutingWorld.inHand
      rw [here]
  | lock here free =>
      refine ledgered.kept ?_ rfl rfl fun _ _ _ => rfl
      unfold RoutingWorld.inHand
      rw [here]
      rfl
  | accept here | refuse here | add here =>
      have inside := ledgered.within _ _ here
      refine ledgered.kept ?_ rfl rfl fun _ _ _ => inside
      unfold RoutingWorld.inHand
      rw [here, inside]
      rfl
  | @push offered here =>
      have inside := ledgered.within _ _ here
      have held : world.inHand = some offered := by
        unfold RoutingWorld.inHand
        rw [here, inside]
        rfl
      refine ledgered.handedOver (.queued offered.number offered.job) held rfl ?_ rfl rfl
        (fun events => .queued offered.packet offered.job rfl events) fun _ _ _ => inside
      unfold RoutingWorld.inHand RoutingWorld.note
      rw [inside]
      rfl
  | @unlock offered queued here =>
      have inside := ledgered.within _ _ here
      refine ledgered.kept ?_ rfl rfl fun _ _ held => by cases held
      unfold RoutingWorld.inHand
      rw [here, inside]
      cases queued with
      | false =>
          rfl
      | true =>
          rfl
  | @reject offered here =>
      have held : world.inHand = some offered := by
        unfold RoutingWorld.inHand
        rw [here]
      exact ledgered.handedOver (.rejected offered.number offered.packet) held rfl rfl rfl
        rfl (fun events => .rejected offered.packet events)
        fun offered progress held =>
          (outside _ here (fun same => by cases same) offered progress held).elim

theorem passed (ledgered : Ledgered world) {holder : Option QueueHolder}
    (same : after.receiver = world.receiver) (before : world.holder = holder)
    (free : ∀ offered progress, holder ≠ some (.offer offered progress))
    (behind : ∀ offered progress, after.holder ≠ some (.offer offered progress))
    (arrivals : after.arrivals = world.arrivals)
    (history : after.history = world.history) : Ledgered after := by
  have none : ∀ {held : Option QueueHolder},
      (∀ offered progress, held ≠ some (.offer offered progress)) →
        QueueHolder.offered held = none := by
    intro held apart
    cases held with
    | none =>
        rfl
    | some held =>
        cases held with
        | offer offered progress =>
            exact absurd rfl (apart offered progress)
        | take worker progress =>
            rfl
        | clear caller teardown progress =>
            rfl
  refine ledgered.kept ?_ arrivals history fun offered progress held =>
    absurd held (behind offered progress)
  unfold RoutingWorld.inHand
  rw [same, none behind, before, none free]

theorem worker {worker : Nat} (ledgered : Ledgered world)
    (moved : WorkerMove worker world after) : Ledgered after := by
  cases moved with
  | lock here free =>
      exact ledgered.passed rfl free (fun _ _ held => by cases held)
        (fun _ _ held => by cases held) rfl rfl
  | wait here | leave here | move _ here | subtract here | pop here | unlock here =>
      exact ledgered.passed rfl here (fun _ _ held => by cases held)
        (fun _ _ held => by cases held) rfl rfl
  | finish =>
      exact ledgered.kept rfl rfl rfl ledgered.within

theorem caller {caller : Nat} (ledgered : Ledgered world)
    (moved : CallerMove caller world after) : Ledgered after := by
  cases moved with
  | start | run | startWorker | started | fail | stop | release =>
      exact ledgered.kept rfl rfl rfl ledgered.within
  | startReceiver here free =>
      refine ledgered.kept ?_ rfl rfl fun offered progress held => ?_
      · unfold RoutingWorld.inHand
        rw [free]
      · have inside := ledgered.within offered progress held
        rw [free] at inside
        cases inside
  | join here joined =>
      refine ledgered.kept ?_ rfl rfl fun offered progress held => ?_
      · unfold RoutingWorld.inHand
        rcases joined.1 with absent | ended
        · rw [absent]
        · rw [ended]
      · have inside := ledgered.within offered progress held
        rcases joined.1 with absent | ended
        · rw [absent] at inside
          cases inside
        · rw [ended] at inside
          cases inside
  | lock here free =>
      exact ledgered.passed rfl free (fun _ _ held => by cases held)
        (fun _ _ held => by cases held) rfl rfl
  | empty here | zero here | unlock here =>
      exact ledgered.passed rfl here (fun _ _ held => by cases held)
        (fun _ _ held => by cases held) rfl rfl

theorem step (ledgered : Ledgered world) (moved : RoutingMove world after) :
    Ledgered after := by
  cases moved with
  | receiver moved =>
      exact ledgered.receiver moved
  | worker worker moved =>
      exact ledgered.worker moved
  | caller caller moved =>
      exact ledgered.caller moved
  | broken running ended =>
      subst ended
      exact ledgered.kept rfl rfl rfl ledgered.within

end Ledgered

/-! ### Every run -/

theorem RoutingReached.balanced {world : RoutingWorld} (reached : RoutingReached world) :
    Balanced world := by
  refine reached.invariant ?_ ?_
  · rintro _ rfl
    exact balanced_initial
  · intro world after _ balanced moved
    exact balanced.step moved

theorem RoutingReached.ledgered {world : RoutingWorld} (reached : RoutingReached world) :
    Ledgered world := by
  refine reached.invariant ?_ ?_
  · rintro _ rfl
    exact ledgered_initial
  · intro world after _ ledgered moved
    exact ledgered.step moved

/-- In every state that the receive loop, the workers and the callers of `start`
and `stop` can reach, the queue's books are exact whenever the mutex is free, and
within the limits at any time.  A worker never subtracts more than there is.  A
packet that has reached the queue step is still in the hands of the receive loop,
or it went once to the queue or once to the overload reply, unchanged. -/
theorem routingQueue_exact {world : RoutingWorld} (reached : RoutingReached world) :
    world.queue.Accounts world.holder ∧
    (world.holder = none → world.queue.queuedBytes = world.queue.size) ∧
    world.queue.jobs.length ≤ 4096 ∧
    world.queue.queuedBytes ≤ 32 * 1024 * 1024 ∧
    (∀ worker job, world.holder = some (.take worker (.moved job)) →
      job.packet.length ≤ world.queue.queuedBytes) ∧
    ∀ number < world.arrivals, HandedOver world.history number ∨
      ∃ offered, world.inHand = some offered ∧ offered.number = number ∧
        about number world.history = [.reached number offered.packet] := by
  have balanced := reached.balanced
  have ledgered := reached.ledgered
  have accounts := balanced.accounts
  refine ⟨accounts, ?_, balanced.few, balanced.small, ?_, ?_⟩
  · intro free
    rw [free] at accounts
    exact accounts
  · intro worker job held
    rw [held] at accounts
    obtain ⟨_, sums⟩ := accounts
    rw [sums]
    exact Nat.le_add_right _ _
  · intro number arrived
    by_cases held : ∃ offered, world.inHand = some offered ∧ offered.number = number
    · obtain ⟨offered, found, rfl⟩ := held
      exact .inr ⟨offered, found, rfl, (ledgered.inHand offered found).2⟩
    · refine .inl (ledgered.settled number arrived fun offered found same => ?_)
      exact held ⟨offered, found, same⟩

/-- The receive loop has queued a packet of three bytes and holds the mutex
still. -/
theorem routingQueue_exact_queued :
    ∃ world, RoutingReached world ∧ world.queue.queuedBytes = 3 ∧
      world.queue.queuedBytes = world.queue.size ∧ HandedOver world.history 0 := by
  have started : RoutingReached
      { state := .running
        receiver := .receiving
        callers := Function.update (fun _ => .outside) 0 .starting } :=
    .next (.next (.next (.start rfl) (.caller 0 (.start rfl rfl)))
      (.caller 0 (.run rfl))) (.caller 0 (.startReceiver rfl rfl))
  have offered := Reachable.next started (.receiver (.arrive [1, 2, 3]
    { udp := 0, payload := 0, ipv6 := false } {} defaultSnapshot rfl))
  have tested := Reachable.next (Reachable.next offered (.receiver (.lock rfl rfl)))
    (.receiver (.accept rfl (by decide)))
  have queued := Reachable.next (Reachable.next tested (.receiver (.add rfl)))
    (.receiver (.push rfl))
  obtain ⟨books, _, _, _, _, packets⟩ := routingQueue_exact queued
  refine ⟨_, queued, rfl, books, ?_⟩
  rcases packets 0 (Nat.zero_lt_succ 0) with handed | ⟨held, found, _⟩
  · exact handed
  · cases found

end NativeDNS
