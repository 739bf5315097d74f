/-
A core that is asked to stop does stop.

The threads of a core wait for its mutexes in one order, with the joining of an endpoint
above the mutex it is done under and below those the handlers take, so no group of them
waits for itself.  A core that has been asked to stop needs a bounded number of steps,
and until it has stopped there is always one that can be taken.  On Linux it may be one of
a client, which has to read the reply it was sent or to close.
-/
import NativeDNS.Host.ThreadsEnd
import NativeDNS.Library.Lists
import NativeDNS.Library.WaitsFor
import Mathlib.Algebra.Order.BigOperators.Group.List
import Mathlib.Algebra.Order.Ring.Nat

namespace NativeDNS

open CheckedResult

/-! ### Who waits for what -/

inductive HostThread where
  | main
  | loop (endpoint : IpcEndpoint)
  | worker (index : Nat)

def HostResource.rank : HostResource → Nat
  | .lock .lifecycle => 0
  | .threads _ => 1
  | .lock .reload => 2
  | .lock .mutex => 3
  | .lock .backend => 4

namespace HostThreads

variable {kind : BackendKind} {s after : HostThreads}

def waits (kind : BackendKind) (s : HostThreads) : HostThread → HostResource → Prop
  | .main, resource => s.main.wants kind = some resource
  | .loop _, _ => False
  | .worker index, resource =>
      ∃ w, s.workers[index]? = some w ∧ w.at_.wants kind = some resource

/-- A thread holds its mutexes, and keeps its endpoint from being joined. -/
def holds (kind : BackendKind) (s : HostThreads) : HostThread → HostResource → Prop
  | .main, .lock lock => s.main.holds kind lock = true
  | .main, .threads _ => False
  | .loop _, .lock _ => False
  | .loop endpoint, .threads other => other = endpoint ∧ s.looping endpoint = true
  | .worker index, .lock lock =>
      ∃ w, s.workers[index]? = some w ∧ w.at_.holds kind lock = true
  | .worker index, .threads endpoint =>
      ∃ w, s.workers[index]? = some w ∧ w.endpoint = endpoint

theorem available_iff {resource : HostResource} :
    s.available kind resource = true ↔ ∀ thread, ¬ s.holds kind thread resource := by
  cases resource with
  | lock lock =>
      simp only [available, Bool.and_eq_true, Bool.not_eq_true', List.all_eq_true]
      constructor
      · rintro ⟨main, workers⟩ thread held
        cases thread with
        | main =>
            exact absurd (main.symm.trans held) Bool.false_ne_true
        | loop endpoint =>
            exact held
        | worker index =>
            obtain ⟨w, found, held⟩ := held
            have free := workers w (List.mem_of_getElem? found)
            exact absurd (free.symm.trans held) Bool.false_ne_true
      · intro free
        refine ⟨Bool.eq_false_of_not_eq_true (free .main), fun w member => ?_⟩
        obtain ⟨index, found⟩ := List.mem_iff_getElem?.mp member
        exact Bool.eq_false_of_not_eq_true fun held => free (.worker index) ⟨w, found, held⟩
  | threads endpoint =>
      rw [available_threads]
      constructor
      · rintro ⟨looping, workers⟩ thread held
        cases thread with
        | main =>
            exact held
        | loop other =>
            obtain ⟨same, loops⟩ := held
            rw [same] at looping
            exact absurd (looping.symm.trans loops) Bool.false_ne_true
        | worker index =>
            obtain ⟨w, found, same⟩ := held
            exact workers w (List.mem_of_getElem? found) same
      · intro free
        refine ⟨Bool.eq_false_of_not_eq_true fun loops => free (.loop endpoint) ⟨rfl, loops⟩,
          fun w member same => ?_⟩
        obtain ⟨index, found⟩ := List.mem_iff_getElem?.mp member
        exact free (.worker index) ⟨w, found, same⟩

theorem MainAt.ordered {at_ : MainAt} {wanted : HostResource} {lock : HostLock}
    (wants : at_.wants kind = some wanted) (holds : at_.holds kind lock = true) :
    (HostResource.lock lock).rank < wanted.rank := by
  cases at_ with
  | calling why phase =>
      simp only [MainAt.wants, Option.ite_none_right_eq_some, Option.some.injEq] at wants
      obtain ⟨waiting, same⟩ := wants
      rw [← same]
      simp only [MainAt.holds, Bool.or_eq_true, Bool.and_eq_true, decide_eq_true_eq] at holds
      rcases holds with held | ⟨_, inside⟩
      · rcases why with _ | ⟨_ | _⟩ <;> cases lock <;>
          simp_all [MainCall.holds, HostResource.rank]
      · cases phase <;> simp_all [CallPhase.wantsBackend, CallPhase.holdsBackend]
  | _ =>
      cases lock <;> simp_all <;>
        (rw [← wants]; simp [HostResource.rank])

theorem WorkerAt.ordered {at_ : WorkerAt} {wanted : HostResource}
    (wants : at_.wants kind = some wanted) :
    1 < wanted.rank ∧ ∀ lock, at_.holds kind lock = true →
      (HostResource.lock lock).rank < wanted.rank := by
  cases at_ with
  | calling call phase =>
      simp only [WorkerAt.wants, Option.ite_none_right_eq_some, Option.some.injEq] at wants
      obtain ⟨waiting, same⟩ := wants
      rw [← same]
      refine ⟨by decide, fun lock holds => ?_⟩
      simp only [WorkerAt.holds, Bool.or_eq_true, Bool.and_eq_true, decide_eq_true_eq] at holds
      rcases holds with held | ⟨_, inside⟩
      · rw [held]
        decide
      · cases phase <;> simp_all [CallPhase.wantsBackend, CallPhase.holdsBackend]
  | statusCall | reloadLock | reloadMutex | mutexLock | started =>
      cases wants
      refine ⟨by decide, fun lock holds => ?_⟩
      cases lock <;> simp_all [HostResource.rank]
  | _ =>
      cases wants

theorem ranked (kind : BackendKind) (s : HostThreads) :
    WaitsFor.Ranked (s.waits kind) (s.holds kind) HostResource.rank 5 where
  ordered := by
    intro thread wanted held waiting holding
    cases thread with
    | main =>
        cases held with
        | lock lock =>
            exact MainAt.ordered waiting holding
        | threads endpoint =>
            exact holding.elim
    | loop endpoint =>
        exact waiting.elim
    | worker index =>
        obtain ⟨w, found, wants⟩ := waiting
        obtain ⟨above, higher⟩ := WorkerAt.ordered wants
        cases held with
        | lock lock =>
            obtain ⟨other, foundOther, holds⟩ := holding
            cases found.symm.trans foundOther
            exact higher lock holds
        | threads endpoint =>
            exact above
  bounded := by
    intro resource
    cases resource with
    | lock lock =>
        cases lock <;> decide
    | threads endpoint =>
        exact (by decide : 1 < 5)

/-! ### Threads that can go on -/

theorem main_moves (unfinished : ∀ outcome, s.main ≠ .finished outcome) :
    ∃ move, (s.mainMove kind move).isSome = true := by
  cases here : s.main with
  | finished outcome =>
      exact absurd here (unfinished outcome)
  | ready why endpoint =>
      exact ⟨.fail (.exception []), by simp [mainMove, here]⟩
  | inspect =>
      by_cases failed : s.backend = .error
      · exact ⟨.fail (.exception []), by simp [mainMove, here, failed]⟩
      · exact ⟨.go, by simp [mainMove, here, failed]⟩
  | _ =>
      exact ⟨.go, by simp [mainMove, here]⟩

theorem worker_moves (index : Nat) (w : Worker) (unblocked : w.at_ ≠ .blocked) :
    ∃ move, move ≠ .taken ∧ (s.workerMove kind index w move).isSome = true := by
  cases here : w.at_ with
  | reading | replying =>
      exact ⟨.leave, by simp, by simp [workerMove, here]⟩
  | blocked =>
      exact absurd here unblocked
  | handling operation payload =>
      refine ⟨.go, by simp, ?_⟩
      simp only [workerMove, here]
      split <;> rfl
  | statusCall =>
      exact ⟨.status { state := s.backend }, by simp, by simp [workerMove, here]⟩
  | started =>
      exact ⟨.status {}, by simp, by simp [workerMove, here]⟩
  | locked operation =>
      by_cases rows : operation = .logs
      · exact ⟨.go, by simp, by simp [workerMove, here, rows]⟩
      · exact ⟨.result (.ok { payload := [] }), by simp, by simp [workerMove, here, rows]⟩
  | logging operation =>
      exact ⟨.result (.ok { payload := [] }), by simp, by simp [workerMove, here]⟩
  | _ =>
      exact ⟨.go, by simp, by simp [workerMove, here]⟩

/-- The thread that takes a step, where a thread of the core goes on by itself. -/
def eventThread : HostEvent → Option HostThread
  | .main _ => some .main
  | .loopEnds endpoint => some (.loop endpoint)
  | .worker _ .taken => none
  | .worker index _ => some (.worker index)
  | _ => none

def CanMove (kind : BackendKind) (s : HostThreads) (thread : HostThread) : Prop :=
  ∃ event, eventThread event = some thread ∧ (s.perform kind event).isSome = true

/-- A worker of a core on Linux that goes on when its client reads the reply, or closes. -/
def AwaitsClient (kind : BackendKind) (s : HostThreads) (thread : HostThread) : Prop :=
  kind.platform = .linux ∧ ∃ index, thread = .worker index ∧
    (s.perform kind (.worker index .taken)).isSome = true

/-- The main thread before its end, every worker, and a loop that was told to end; the
other loops wait for connections. -/
def Alive (s : HostThreads) : HostThread → Prop
  | .main => ∀ outcome, s.main ≠ .finished outcome
  | .loop endpoint => s.looping endpoint = true ∧ s.running endpoint = false
  | .worker index => index < s.workers.length

theorem guarded {wants : Option HostResource} (free : ∀ resource, wants = some resource →
    s.available kind resource = true) : wants.all (s.available kind) = true := by
  cases wants with
  | none =>
      rfl
  | some resource =>
      exact free resource rfl

theorem alive_moves {thread : HostThread} (sound : s.Sound kind) (alive : s.Alive thread)
    (free : WaitsFor.Free (s.waits kind) (s.holds kind) thread) :
    CanMove kind s thread ∨ AwaitsClient kind s thread := by
  cases thread with
  | main =>
      obtain ⟨move, moved⟩ := @main_moves kind s alive
      refine .inl ⟨.main move, rfl, ?_⟩
      have available : (s.main.wants kind).all (s.available kind) = true :=
        guarded fun resource wanted =>
          available_iff.mpr fun other held => free other ⟨resource, wanted, held⟩
      simp only [perform]
      rw [if_pos available]
      exact moved
  | loop endpoint =>
      have told : s.looping endpoint = true ∧ s.running endpoint = false := alive
      refine .inl ⟨.loopEnds endpoint, rfl, ?_⟩
      simp only [perform]
      rw [if_pos told]
      rfl
  | worker index =>
      obtain ⟨w, found⟩ : ∃ w, s.workers[index]? = some w :=
        ⟨_, List.getElem?_eq_getElem alive⟩
      by_cases blocked : w.at_ = .blocked
      · refine .inr ⟨sound.blocked w (List.mem_of_getElem? found) blocked, index, rfl, ?_⟩
        simp only [perform, found, Option.bind_eq_bind, Option.bind_some, blocked,
          WorkerAt.wants, Option.all_none, if_true, workerMove]
        rfl
      obtain ⟨move, own, moved⟩ := @worker_moves kind s index w blocked
      refine .inl ⟨.worker index move, by cases move <;> first | rfl | exact absurd rfl own, ?_⟩
      have available : (w.at_.wants kind).all (s.available kind) = true :=
        guarded fun resource wanted =>
          available_iff.mpr fun other held =>
            free other ⟨resource, ⟨w, found, wanted⟩, held⟩
      simp only [perform, found, Option.bind_eq_bind, Option.bind_some]
      rw [if_pos available]
      exact moved

theorem waited_moves (sound : s.Sound kind) {thread other : HostThread}
    (on : WaitsFor.On (s.waits kind) (s.holds kind) thread other)
    (free : WaitsFor.Free (s.waits kind) (s.holds kind) other) :
    CanMove kind s other ∨ AwaitsClient kind s other := by
  obtain ⟨resource, waiting, holding⟩ := on
  refine alive_moves sound ?_ free
  cases other with
  | main =>
      intro outcome finished
      cases resource with
      | lock lock =>
          have holds : s.main.holds kind lock = true := holding
          rw [finished] at holds
          cases holds
      | threads endpoint =>
          exact holding
  | worker index =>
      cases resource with
      | lock lock =>
          obtain ⟨w, found, _⟩ := holding
          exact (List.getElem?_eq_some_iff.mp found).1
      | threads endpoint =>
          obtain ⟨w, found, _⟩ := holding
          exact (List.getElem?_eq_some_iff.mp found).1
  | loop endpoint =>
      cases resource with
      | lock lock =>
          exact holding.elim
      | threads joined =>
          obtain ⟨same, loops⟩ := holding
          have halts : s.main.halts endpoint = true := by
            cases thread with
            | main =>
                have wants : s.main.wants kind = some (.threads joined) := waiting
                rw [← same]
                revert wants
                cases s.main <;> simp_all
            | loop endpoint =>
                exact waiting.elim
            | worker index =>
                obtain ⟨w, _, wants⟩ := waiting
                cases here : w.at_ <;> rw [here] at wants <;>
                  simp at wants
          exact ⟨loops, sound.halted endpoint halts⟩

theorem Sound.goes_on (sound : s.Sound kind) {thread : HostThread} (alive : s.Alive thread) :
    ∃ other, Relation.ReflTransGen (WaitsFor.On (s.waits kind) (s.holds kind)) thread other ∧
      (CanMove kind s other ∨ AwaitsClient kind s other) := by
  obtain ⟨other, path, free⟩ := (ranked kind s).exists_free thread
  refine ⟨other, path, ?_⟩
  cases Relation.ReflTransGen.cases_tail path with
  | inl same =>
      rw [same]
      exact alive_moves sound alive (same ▸ free)
  | inr waited =>
      obtain ⟨_, _, on⟩ := waited
      exact waited_moves sound on free

end HostThreads

/-- The threads of a core never wait for each other: no group of them is deadlocked, and
behind everyone who waits stands one that can go on, or that is kept waiting by a client
which neither reads its reply nor closes. -/
theorem coreHost_noDeadlock (kind : BackendKind) (s : HostThreads)
    (reached : HostThreads.Reached kind s) :
    (∀ group, ¬ WaitsFor.Deadlocked (s.waits kind) (s.holds kind) group) ∧
      ∀ thread, s.Alive thread → ∃ other,
        Relation.ReflTransGen (WaitsFor.On (s.waits kind) (s.holds kind)) thread other ∧
          (HostThreads.CanMove kind s other ∨ HostThreads.AwaitsClient kind s other) :=
  ⟨(HostThreads.ranked kind s).not_deadlocked, fun _ alive => reached.sound.goes_on alive⟩

theorem coreHost_noDeadlock_crowded : ∃ s : HostThreads, s.main = .waking ∧
    s.workers.map (·.at_) = coreCrowd ∧
    (∀ group, ¬ WaitsFor.Deadlocked (s.waits .winDivert) (s.holds .winDivert) group) ∧
      ∃ other,
        Relation.ReflTransGen (WaitsFor.On (s.waits .winDivert) (s.holds .winDivert))
            .main other ∧
          HostThreads.CanMove .winDivert s other := by
  obtain ⟨s, ran, ends⟩ := Option.map_eq_some_iff.mp coreCrowdedRun_ends
  obtain ⟨waking, crowd⟩ := Prod.mk.inj ends
  obtain ⟨free, moves⟩ := coreHost_noDeadlock .winDivert s (.run ran)
  have alive : s.Alive .main := by
    intro outcome finished
    rw [waking] at finished
    cases finished
  obtain ⟨other, path, moves | ⟨elsewhere, _⟩⟩ := moves .main alive
  · exact ⟨s, waking, crowd, free, other, path, moves⟩
  · cases elsewhere

/-! ### What is left to do -/

def IpcEndpoint.left : IpcEndpoint → Nat
  | .command => 2
  | .logs => 1
  | .shutdown => 0

def CallPhase.effort : CallPhase → Nat
  | entering => 3
  | inside => 2
  | joining _ => 1

def MainAt.effort : MainAt → Nat
  | .start => 38
  | .calling .starting phase => 34 + phase.effort
  | .clearing => 33
  | .endpointsLock => 32
  | .launch _ endpoint => 19 + 6 * endpoint.left
  | .ready _ endpoint => 17 + 6 * endpoint.left
  | .abandon _ _ _ => 16
  | .started => 16
  | .supervise => 15
  | .predicate => 14
  | .waiting => 16
  | .waking => 15
  | .woken => 14
  | .recoverLock => 15
  | .recoverCheck => 14
  | .recover endpoint => 21 + 6 * endpoint.left
  | .rejoin endpoint => 20 + 6 * endpoint.left
  | .resume => 16
  | .inspect => 15
  | .rollbackLock _ => 11
  | .closing why endpoint => 10 - 2 * why.order endpoint
  | .joining why endpoint => 9 - 2 * why.order endpoint
  | .calling (.closing _) phase => phase.effort
  | .returned => 13
  | .raised _ => 13
  | .stop _ => 12
  | .stopLock _ => 11
  | .stopMutex _ => 4
  | .finished _ => 0

def WorkerAt.effort : WorkerAt → Nat
  | .reading => 10
  | .handling _ _ => 9
  | .restarting => 3
  | .statusCall => 3
  | .reloadLock => 7
  | .loading => 6
  | .reloadMutex => 5
  | .applying => 4
  | .reloaded => 3
  | .mutexLock _ => 8
  | .calling _ phase => 4 + phase.effort
  | .started => 3
  | .locked _ => 4
  | .logging _ => 3
  | .replying _ => 2
  | .blocked => 1

def HostEvent.connects : HostEvent → Bool
  | .connect _ => true
  | _ => false

def State.left : State → Nat
  | .running => 1
  | _ => 0

namespace HostThreads

variable {kind : BackendKind} {s after : HostThreads}

def loopsLeft (s : HostThreads) : Nat :=
  (s.looping .command).toNat + (s.looping .logs).toNat + (s.looping .shutdown).toNat

def workersLeft (s : HostThreads) : Nat :=
  (s.workers.map fun w => w.at_.effort).sum

def effort (s : HostThreads) : Nat :=
  s.main.effort + s.loopsLeft + s.backend.left + s.workersLeft

theorem loopsLeft_launched (s : HostThreads) (endpoint : IpcEndpoint) :
    (s.launched endpoint).loopsLeft ≤ s.loopsLeft + 1 := by
  have one := fun other => Bool.toNat_le (s.looping other)
  cases endpoint <;> simp only [loopsLeft, launched_looping, reduceCtorEq, if_true, if_false,
    Bool.toNat_true] <;> omega

theorem callStep_effort {backend : State} {failure : Option Thrown} {call : BackendCall}
    {phase : CallPhase} :
    (∀ later next, callStep kind backend failure call phase = .more later next →
      later.effort + next.left + 1 ≤ phase.effort + backend.left) ∧
    ∀ result next, callStep kind backend failure call phase = .done result next →
      next.left ≤ phase.effort := by
  have low : ∀ state : State, state.left ≤ 1 := fun state => by
    cases state <;> decide
  have least := low backend
  have failed : ∀ thrown, (kind.failed thrown).left = 0 := fun thrown => by
    cases kind <;> cases thrown <;> rfl
  have values : State.running.left = 1 ∧ State.starting.left = 0 ∧ State.stopping.left = 0 ∧
      State.stopped.left = 0 :=
    ⟨rfl, rfl, rfl, rfl⟩
  clear low
  cases call <;> rcases phase with _ | _ | _ | _ <;> cases failure <;>
    simp only [callStep] <;> (try split) <;> simp_all [CallPhase.effort] <;> omega

theorem CallPhase.effort_pos (phase : CallPhase) : 1 ≤ phase.effort := by
  cases phase <;> simp [CallPhase.effort]

theorem mainCalling_loopsLeft {why : MainCall} {phase : CallPhase} {failure : Option Thrown} :
    (s.mainCalling kind why phase failure).loopsLeft = s.loopsLeft := by
  unfold mainCalling
  split
  · rfl
  · rename_i result next _
    rcases why with _ | ⟨_ | _⟩
    · cases result <;> rfl
    · rfl
    · rfl

theorem mainCalling_effort {why : MainCall} {phase : CallPhase} {failure : Option Thrown}
    (here : s.main = .calling why phase) :
    (s.mainCalling kind why phase failure).main.effort +
        (s.mainCalling kind why phase failure).backend.left + 1 ≤
      s.main.effort + s.backend.left := by
  have steps := @callStep_effort kind s.backend failure why.call phase
  have some := CallPhase.effort_pos phase
  rw [here]
  unfold mainCalling
  split
  · rename_i later next stepped
    have less := steps.1 later next stepped
    rcases why with _ | _ <;> simp only [MainAt.effort] <;> omega
  · rename_i result next stepped
    have less := steps.2 result next stepped
    rcases why with _ | ⟨_ | _⟩
    · cases result <;> simp only [mainReturned, requestShutdown, MainAt.effort] <;> omega
    · rw [callStep_stopped stepped]
      simp only [mainReturned, requestShutdown, MainAt.effort, State.left]
      omega
    · rw [callStep_stopped stepped]
      simp only [mainReturned, MainAt.effort, State.left]
      omega

theorem mainMove_effort {move : MainMove} (asked : s.shutdownRequested = true)
    (begun : s.main ≠ .start) (live : s.main.begun = true → s.stopped = false)
    (ran : s.mainMove kind move = some after) :
    after.main.effort + after.loopsLeft + after.backend.left + 1 ≤
      s.main.effort + s.loopsLeft + s.backend.left := by
  cases here : s.main with
  | start =>
      exact absurd here begun
  | calling why phase =>
      have called : ∃ failure, s.mainCalling kind why phase failure = after := by
        cases move <;> simp only [mainMove, here, Option.some.injEq, reduceCtorEq] at ran
        · exact ⟨_, ran⟩
        · exact ⟨_, ran⟩
      obtain ⟨failure, same⟩ := called
      have less := @mainCalling_effort kind s why phase failure here
      rw [← same, ← here, mainCalling_loopsLeft]
      omega
  | launch why endpoint =>
      cases move <;> simp only [mainMove, here, Option.some.injEq, reduceCtorEq] at ran
      · have loops := s.loopsLeft_launched endpoint
        rw [← ran]
        simp only [MainAt.effort]
        change 17 + 6 * endpoint.left + (s.launched endpoint).loopsLeft + s.backend.left + 1 ≤ _
        omega
      · rw [← ran]
        change (why.leave _).effort + s.loopsLeft + s.backend.left + 1 ≤ _
        cases why <;> simp only [Launching.leave, MainAt.effort] <;> omega
  | ready why endpoint =>
      cases move <;> simp only [mainMove, here, Option.ite_none_right_eq_some,
        Option.some.injEq, reduceCtorEq] at ran
      · rw [← ran.2]
        change (why.behind endpoint).effort + s.loopsLeft + s.backend.left + 1 ≤ _
        cases why <;> cases endpoint <;>
          simp only [Launching.behind, IpcEndpoint.next, MainAt.effort, IpcEndpoint.left] <;>
          omega
      · rw [← ran]
        change 16 + s.loopsLeft + s.backend.left + 1 ≤ _
        simp only [MainAt.effort]
        omega
  | abandon why endpoint thrown =>
      cases move <;> simp only [mainMove, here, Option.some.injEq, reduceCtorEq] at ran
      rw [← ran]
      change (why.leave thrown).effort + s.loopsLeft + s.backend.left + 1 ≤ _
      cases why <;> simp only [Launching.leave, MainAt.effort] <;> omega
  | predicate | recoverCheck | woken =>
      cases move <;> simp only [mainMove, here, asked, if_true, Option.some.injEq,
        reduceCtorEq] at ran
      rw [← ran]
      change 13 + s.loopsLeft + s.backend.left + 1 ≤ _
      simp only [MainAt.effort]
      omega
  | recover endpoint =>
      cases move <;> cases flag : s.running endpoint <;>
        simp only [mainMove, here, flag, Bool.false_eq_true, if_true, if_false,
          Option.some.injEq, reduceCtorEq] at ran
      · rw [← ran]
        change 20 + 6 * endpoint.left + s.loopsLeft + s.backend.left + 1 ≤ _
        simp only [MainAt.effort]
        omega
      · rw [← ran]
        change (Launching.recovering.behind endpoint).effort + s.loopsLeft + s.backend.left + 1 ≤ _
        cases endpoint <;>
          simp only [Launching.behind, IpcEndpoint.next, MainAt.effort, IpcEndpoint.left] <;>
          omega
  | closing why endpoint =>
      cases move <;> simp only [mainMove, here, Option.some.injEq, reduceCtorEq] at ran
      rw [← ran]
      change 9 - 2 * why.order endpoint + s.loopsLeft + s.backend.left + 1 ≤ _
      have low : why.order endpoint ≤ 2 := by
        cases why <;> cases endpoint <;> simp [Closing.order]
      simp only [MainAt.effort]
      omega
  | joining why endpoint =>
      cases move <;> simp only [mainMove, here, Option.some.injEq, reduceCtorEq] at ran
      rw [← ran]
      change (why.behind endpoint).effort + s.loopsLeft + s.backend.left + 1 ≤ _
      cases why <;> cases endpoint <;>
        simp only [Closing.behind, MainAt.effort, Closing.order, CallPhase.effort] <;> omega
  | stop outcome =>
      cases move <;> simp only [mainMove, here, Option.some.injEq, reduceCtorEq] at ran
      rw [← ran]
      unfold stopping
      rw [if_neg (by rw [live (by rw [here]; rfl)]; exact Bool.false_ne_true)]
      change 11 + s.loopsLeft + s.backend.left + 1 ≤ _
      simp only [MainAt.effort]
      omega
  | _ =>
      cases move <;> simp only [mainMove, here, Option.some.injEq, reduceCtorEq,
        Option.ite_none_right_eq_some, Option.ite_none_left_eq_some] at ran
      all_goals
        first
        | rw [← ran]
        | rw [← ran.2]
        change MainAt.effort _ + s.loopsLeft + s.backend.left + 1 ≤ _
        simp only [MainAt.effort, Closing.order, IpcEndpoint.left, CallPhase.effort]
        omega

variable {index : Nat} {w : Worker}

theorem moved_effort {changed : HostThreads} {here next : WorkerAt} (at_ : w.at_ = here)
    (found : s.workers[index]? = some w) (workers : changed.workers = s.workers)
    (looping : changed.looping = s.looping)
    (less : next.effort + changed.backend.left + 1 ≤ here.effort + s.backend.left) :
    (changed.moved index w next).workersLeft + (changed.moved index w next).loopsLeft +
        (changed.moved index w next).backend.left + 1 ≤
      s.workersLeft + s.loopsLeft + s.backend.left := by
  have sums := Lists.sum_map_set (fun w : Worker => w.at_.effort) found { w with at_ := next }
  have same : (changed.moved index w next).workersLeft =
      ((s.workers.set index { w with at_ := next }).map fun w => w.at_.effort).sum := by
    rw [← workers]
    rfl
  have loops : (changed.moved index w next).loopsLeft = s.loopsLeft := by
    unfold loopsLeft
    rw [← looping]
    rfl
  have backend : (changed.moved index w next).backend = changed.backend := rfl
  rw [same, loops, backend]
  unfold workersLeft
  simp only [at_] at sums
  omega

theorem leaves_effort {here : WorkerAt} (at_ : w.at_ = here)
    (found : s.workers[index]? = some w) (some : 1 ≤ here.effort) :
    HostThreads.workersLeft { s with workers := s.workers.eraseIdx index } + 1 ≤
      s.workersLeft := by
  have sums := Lists.sum_map_eraseIdx (fun w : Worker => w.at_.effort) found
  change ((s.workers.eraseIdx index).map fun w => w.at_.effort).sum + 1 ≤
    (s.workers.map fun w => w.at_.effort).sum
  simp only [at_] at sums
  omega

theorem workerMove_effort {move : HandlerMove} (found : s.workers[index]? = some w)
    (ran : s.workerMove kind index w move = some after) :
    after.workersLeft + after.loopsLeft + after.backend.left + 1 ≤
      s.workersLeft + s.loopsLeft + s.backend.left := by
  cases here : w.at_ with
  | reading =>
      cases move <;> simp only [workerMove, here, Option.some.injEq, reduceCtorEq] at ran
      · rw [← ran]
        exact moved_effort here found rfl rfl (by simp only [WorkerAt.effort]; omega)
      · have less := leaves_effort here found (by decide)
        rw [← ran]
        change HostThreads.workersLeft { s with workers := s.workers.eraseIdx index } +
          s.loopsLeft + s.backend.left + 1 ≤ _
        omega
  | replying result =>
      cases move <;> simp only [workerMove, here, Option.ite_none_right_eq_some,
        Option.some.injEq, reduceCtorEq] at ran
      · have less := leaves_effort here found (Nat.le_succ 1)
        rw [← ran]
        change HostThreads.workersLeft { s with workers := s.workers.eraseIdx index } +
          s.loopsLeft + s.backend.left + 1 ≤ _
        omega
      · rw [← ran.2]
        exact moved_effort here found rfl rfl (by simp only [WorkerAt.effort]; omega)
  | blocked =>
      cases move <;> simp only [workerMove, here, Option.some.injEq, reduceCtorEq] at ran
      have less := leaves_effort here found (Nat.le_refl 1)
      rw [← ran]
      change HostThreads.workersLeft { s with workers := s.workers.eraseIdx index } +
        s.loopsLeft + s.backend.left + 1 ≤ _
      omega
  | handling operation payload =>
      cases move <;> simp only [workerMove, here, reduceCtorEq] at ran
      split at ran
      · rw [← Option.some.inj ran]
        exact moved_effort here found rfl rfl (by simp only [WorkerAt.effort]; omega)
      · rw [← Option.some.inj ran]
        cases operation <;>
          exact moved_effort here found rfl rfl
            (by simp only [IpcOperation.enter, entered, requestShutdown, WorkerAt.effort]; omega)
  | calling call phase =>
      have called : ∃ failure, s.workerCalling kind index w call phase failure = after := by
        cases move <;> simp only [workerMove, here, Option.some.injEq, reduceCtorEq] at ran
        · exact ⟨_, ran⟩
        · exact ⟨_, ran⟩
      obtain ⟨failure, same⟩ := called
      have steps := @callStep_effort kind s.backend failure call phase
      rw [← same]
      unfold workerCalling
      split
      · rename_i later next stepped
        have less := steps.1 later next stepped
        exact moved_effort here found rfl rfl (by simp only [WorkerAt.effort]; omega)
      · rename_i result next stepped
        have less := steps.2 result next stepped
        refine moved_effort here found rfl rfl ?_
        cases call <;> cases result <;> simp only [workerReturned, WorkerAt.effort] <;> omega
  | mutexLock operation =>
      cases move <;> simp only [workerMove, here, Option.some.injEq, reduceCtorEq] at ran
      rw [← ran]
      refine moved_effort here found rfl rfl ?_
      cases operation <;> simp only [WorkerAt.effort, CallPhase.effort] <;> omega
  | _ =>
      cases move <;> simp only [workerMove, here, Option.ite_none_left_eq_some,
        Option.ite_none_right_eq_some, Option.some.injEq, reduceCtorEq] at ran
      all_goals
        first
        | rw [← ran]
        | rw [← ran.2]
        exact moved_effort here found rfl rfl
          (by simp only [WorkerAt.effort, requestShutdown]; omega)

/-! ### A run of a core that is asked to stop -/

structure Stopping (kind : BackendKind) (s : HostThreads) : Prop where
  reached : Reached kind s
  asked : s.shutdownRequested = true

theorem Stopping.begun (stopping : s.Stopping kind) : s.main ≠ .start := by
  intro here
  have unasked := (stopping.reached.settled.fresh here).2.1
  exact absurd (unasked.symm.trans stopping.asked) Bool.false_ne_true

theorem Stopping.keeps {event : HostEvent} (stopping : s.Stopping kind)
    (ran : s.perform kind event = some after) : after.shutdownRequested = true := by
  have settled := stopping.reached.settled
  cases event with
  | main move =>
      obtain ⟨_, ran⟩ := Option.ite_none_right_eq_some.mp ran
      have flags := mainMove_flags (fun here => (settled.fresh here).1)
        stopping.reached.sound.live ran
      rcases flags.keeps stopping.asked with kept | start
      · exact kept
      · exact absurd start stopping.begun
  | worker index move =>
      obtain ⟨w, found, ran⟩ := Option.bind_eq_some_iff.mp ran
      obtain ⟨_, ran⟩ := Option.ite_none_right_eq_some.mp ran
      cases workerMove_flags found ran with
      | none _ _ flag _ _ =>
          exact flag.trans stopping.asked
      | shutdown _ _ flag _ =>
          exact flag
      | restart _ _ flag _ =>
          exact flag.trans stopping.asked
      | restarting _ _ _ flag _ =>
          exact flag
  | connect endpoint | loopFails endpoint | loopEnds endpoint | backendFails =>
      obtain ⟨_, made⟩ := Option.ite_none_right_eq_some.mp ran
      rw [← Option.some.inj made]
      exact stopping.asked

theorem loopsLeft_ends {changed : HostThreads} {endpoint : IpcEndpoint}
    (loops : s.looping endpoint = true)
    (looping : changed.looping = Function.update s.looping endpoint false) :
    changed.loopsLeft + 1 = s.loopsLeft := by
  unfold loopsLeft
  rw [looping]
  cases endpoint <;> simp only [Function.update_apply, reduceCtorEq, if_true, if_false,
    Bool.toNat_false, loops, Bool.toNat_true] <;> omega

theorem perform_effort {event : HostEvent} (stopping : s.Stopping kind)
    (ran : s.perform kind event = some after) :
    after.effort + 1 ≤ s.effort + if event.connects = true then 11 else 0 := by
  unfold effort
  cases event with
  | main move =>
      obtain ⟨_, ran⟩ := Option.ite_none_right_eq_some.mp ran
      have live := stopping.reached.sound.live
      have less := mainMove_effort stopping.asked stopping.begun live ran
      have step := mainMove_step (fun outcome here => live (by rw [here]; rfl)) ran
      have workers : after.workersLeft = s.workersLeft := by
        unfold workersLeft
        rw [step.workers]
      rw [workers]
      omega
  | worker index move =>
      obtain ⟨w, found, ran⟩ := Option.bind_eq_some_iff.mp ran
      obtain ⟨_, ran⟩ := Option.ite_none_right_eq_some.mp ran
      have less := workerMove_effort found ran
      rw [(workerMove_step ran).main]
      omega
  | connect endpoint =>
      obtain ⟨_, made⟩ := Option.ite_none_right_eq_some.mp ran
      have more : after.workersLeft = s.workersLeft + 10 := by
        rw [← Option.some.inj made]
        unfold workersLeft
        rw [List.map_append, List.sum_append]
        rfl
      have others : after.main = s.main ∧ after.loopsLeft = s.loopsLeft ∧
          after.backend = s.backend := by
        rw [← Option.some.inj made]
        exact ⟨rfl, rfl, rfl⟩
      rw [more, others.1, others.2.1, others.2.2]
      exact Nat.le_of_eq (by simp only [HostEvent.connects, if_true]; omega)
  | loopFails endpoint =>
      obtain ⟨loops, made⟩ := Option.ite_none_right_eq_some.mp ran
      have ends : after.loopsLeft + 1 = s.loopsLeft :=
        loopsLeft_ends loops (by rw [← Option.some.inj made])
      have others : after.main = s.main ∧ after.workersLeft = s.workersLeft ∧
          after.backend = s.backend := by
        rw [← Option.some.inj made]
        exact ⟨rfl, rfl, rfl⟩
      rw [others.1, others.2.1, others.2.2]
      omega
  | loopEnds endpoint =>
      obtain ⟨⟨loops, _⟩, made⟩ := Option.ite_none_right_eq_some.mp ran
      have ends : after.loopsLeft + 1 = s.loopsLeft :=
        loopsLeft_ends loops (by rw [← Option.some.inj made])
      have others : after.main = s.main ∧ after.workersLeft = s.workersLeft ∧
          after.backend = s.backend := by
        rw [← Option.some.inj made]
        exact ⟨rfl, rfl, rfl⟩
      rw [others.1, others.2.1, others.2.2]
      omega
  | backendFails =>
      obtain ⟨⟨running, _⟩, made⟩ := Option.ite_none_right_eq_some.mp ran
      rw [← Option.some.inj made, running]
      change s.main.effort + s.loopsLeft + 0 + s.workersLeft + 1 ≤
        s.main.effort + s.loopsLeft + 1 + s.workersLeft + _
      omega

/-- No place of a worker has more than ten steps before it, none of the main thread more
than thirty-seven once it has begun. -/
theorem effort_le (begun : s.main ≠ .start) : s.effort ≤ 41 + 10 * s.workers.length := by
  have main : s.main.effort ≤ 37 := by
    cases here : s.main with
    | start =>
        exact absurd here begun
    | calling why phase =>
        cases why <;> cases phase <;> simp [MainAt.effort, CallPhase.effort]
    | launch why endpoint | ready why endpoint | recover endpoint | rejoin endpoint =>
        cases endpoint <;> simp [MainAt.effort, IpcEndpoint.left]
    | closing why endpoint | joining why endpoint =>
        simp only [MainAt.effort]
        omega
    | _ =>
        simp [MainAt.effort]
  have loops : s.loopsLeft ≤ 3 := by
    have one := fun endpoint => Bool.toNat_le (s.looping endpoint)
    have sum := Nat.add_le_add (Nat.add_le_add (one .command) (one .logs)) (one .shutdown)
    exact sum
  have backend : s.backend.left ≤ 1 := by
    cases s.backend <;> decide
  have workers : s.workersLeft ≤ (s.workers.map fun w => w.at_.effort).length * 10 := by
    refine List.sum_le_card_nsmul _ 10 fun one member => ?_
    obtain ⟨w, _, same⟩ := List.mem_map.mp member
    rw [← same]
    cases w.at_ with
    | calling call phase =>
        cases phase <;> simp [WorkerAt.effort, CallPhase.effort]
    | _ =>
        simp [WorkerAt.effort]
  rw [List.length_map] at workers
  unfold effort
  omega

end HostThreads

/-- A core that has been asked to stop does stop: it takes at most forty-one steps, ten
more for every connection it has and eleven for every one it still takes, and as long as it
has not ended one of its threads can go on, or is kept waiting by a client which neither
reads its reply nor closes. -/
theorem coreHost_shutsDown (kind : BackendKind) (s : HostThreads)
    (reached : HostThreads.Reached kind s) (asked : s.shutdownRequested = true)
    (events : List HostEvent) (after : HostThreads)
    (ran : Transition.performAll (HostThreads.perform kind) s events = some after) :
    events.length ≤
        41 + 10 * s.workers.length + 11 * events.countP HostEvent.connects ∧
      ((∃ outcome, after.main = .finished outcome) ∨
        (∃ thread, HostThreads.CanMove kind after thread) ∨
          ∃ thread, HostThreads.AwaitsClient kind after thread) := by
  have begins : s.Stopping kind := { reached := reached, asked := asked }
  obtain ⟨ends, bound⟩ : after.Stopping kind ∧
      events.length + after.effort ≤ s.effort + 11 * events.countP HostEvent.connects :=
    Transition.performAll_bounded (fun state event next (stopping : state.Stopping kind) moved =>
      And.intro
        { reached := .next stopping.reached ⟨event, moved⟩
          asked := stopping.keeps moved : next.Stopping kind }
        (HostThreads.perform_effort stopping moved)) begins ran
  have most := HostThreads.effort_le begins.begun
  refine ⟨by omega, ?_⟩
  by_cases finished : ∃ outcome, after.main = .finished outcome
  · exact .inl finished
  · have alive : after.Alive .main := fun outcome here => finished ⟨outcome, here⟩
    obtain ⟨other, _, moves | awaits⟩ := ends.reached.sound.goes_on alive
    · exact .inr (.inl ⟨other, moves⟩)
    · exact .inr (.inr ⟨other, awaits⟩)

/-- A client of a core on Linux does not read its reply; another one asks the core to stop. -/
def coreStalledRun : List HostEvent :=
  coreStartRun ++
    [.connect .command, .worker 0 (.request 1 []), .worker 0 .go, .worker 0 .block,
      .connect .shutdown, .worker 1 (.request 6 []), .worker 1 .go, .worker 1 .leave]

def coreStalledStop : List HostEvent :=
  List.replicate 7 (.main .go) ++ [.loopEnds .logs] ++ List.replicate 2 (.main .go) ++
    [.loopEnds .command]

theorem coreHost_shutsDown_stalled : ∃ after : HostThreads,
    after.main = .joining (.stopping .shutdown) .command ∧
      after.workers = [{ endpoint := .command, at_ := .blocked }] ∧
      coreStalledStop.length ≤ 51 ∧
      ((∃ thread, HostThreads.CanMove .linuxNft after thread) ∨
        ∃ thread, HostThreads.AwaitsClient .linuxNft after thread) := by
  have asks : (Transition.performAll (HostThreads.perform .linuxNft) {} coreStalledRun).map
      (fun s => (s.shutdownRequested, s.workers.length)) = some (true, 1) := by
    decide +kernel
  have stops : (Transition.performAll (HostThreads.perform .linuxNft) {}
      (coreStalledRun ++ coreStalledStop)).map (fun s => (s.main, s.workers)) =
        some (.joining (.stopping .shutdown) .command,
          [{ endpoint := .command, at_ := .blocked }]) := by
    decide +kernel
  obtain ⟨s, asks, asked⟩ := Option.map_eq_some_iff.mp asks
  obtain ⟨after, ran, ends⟩ := Option.map_eq_some_iff.mp stops
  obtain ⟨requested, one⟩ := Prod.mk.inj asked
  obtain ⟨joining, workers⟩ := Prod.mk.inj ends
  rw [Transition.performAll_append asks] at ran
  obtain ⟨bound, ⟨outcome, finished⟩ | moves⟩ :=
    coreHost_shutsDown .linuxNft s (.run asks) requested coreStalledStop after ran
  · rw [joining] at finished
    cases finished
  · rw [one] at bound
    exact ⟨after, joining, workers, bound, moves⟩

end NativeDNS
