/-
What the threads of a core keep.

No mutex has two holders, the backend is started, stopped and reloaded by one thread at a
time, and where the main thread has joined an endpoint that endpoint stays without
threads.  One lemma says what a step of the main thread can do, one what a step of a
worker can do; the invariant follows from them.
-/
import NativeDNS.Host.Threads
import NativeDNS.Library.WaitsFor

namespace NativeDNS

open CheckedResult

/-! ### Places of the main thread -/

def IpcEndpoint.order : IpcEndpoint → Nat
  | .command => 0
  | .logs => 1
  | .shutdown => 2

/-- The place of an endpoint among those that are stopped. -/
def Closing.order : Closing → IpcEndpoint → Nat
  | .stopping _, .logs => 0
  | .stopping _, .command => 1
  | .stopping _, .shutdown => 2
  | .rollback _, .shutdown => 0
  | .rollback _, .logs => 1
  | .rollback _, .command => 2

/-- The endpoint has not been started yet, or has been joined. -/
@[simp] def MainAt.idle : MainAt → IpcEndpoint → Bool
  | .start, _ => true
  | .calling _ _, _ => true
  | .clearing, _ => true
  | .endpointsLock, _ => true
  | .launch .starting endpoint, other => decide (endpoint.order ≤ other.order)
  | .ready .starting endpoint, other => decide (endpoint.order < other.order)
  | .abandon .starting endpoint _, other => decide (endpoint.order < other.order)
  | .launch .recovering endpoint, other => decide (other = endpoint)
  | .closing why endpoint, other => decide (why.order other < why.order endpoint)
  | .joining why endpoint, other => decide (why.order other < why.order endpoint)
  | .stopMutex _, _ => true
  | .finished _, _ => true
  | _, _ => false

@[simp] def MainAt.halts : MainAt → IpcEndpoint → Bool
  | .abandon _ endpoint _, other => decide (other = endpoint)
  | .rejoin endpoint, other => decide (other = endpoint)
  | .joining _ endpoint, other => decide (other = endpoint)
  | _, _ => false

/-- `start` has set the core going and `stop` has not begun. -/
def MainAt.begun : MainAt → Bool
  | .start => false
  | .calling (.closing (.stopping _)) _ => false
  | .closing (.stopping _) _ => false
  | .joining (.stopping _) _ => false
  | .stopLock _ => false
  | .stopMutex _ => false
  | .finished _ => false
  | _ => true

def CallPhase.called : CallPhase → Bool
  | entering => false
  | _ => true

def MainAt.inBackend : MainAt → Bool
  | .calling _ phase => phase.called
  | _ => false

def WorkerAt.inBackend : WorkerAt → Bool
  | .calling _ phase => phase.called
  | .applying => true
  | _ => false

theorem MainAt.calling_begun {why : MainCall} {phase later : CallPhase}
    (begun : (MainAt.calling why later).begun = true) :
    (MainAt.calling why phase).begun = true := by
  cases why with
  | starting =>
      rfl
  | closing why =>
      cases why <;> exact begun

theorem MainAt.halts_wants {at_ : MainAt} {endpoint : IpcEndpoint} (kind : BackendKind)
    (halts : at_.halts endpoint = true) : at_.wants kind = some (.threads endpoint) := by
  cases at_ <;> simp_all

namespace HostThreads

structure MainStep (kind : BackendKind) (s after : HostThreads) : Prop where
  left : after.main ≠ .start
  live : after.main.begun = true →
    s.main.begun = true ∧ after.stopped = s.stopped ∨ after.stopped = false
  workers : after.workers = s.workers
  asked : after.asked = s.asked
  takes : ∀ lock, after.main.holds kind lock = true →
    s.main.holds kind lock = true ∨ s.main.wants kind = some (.lock lock)
  idle : ∀ endpoint, after.main.idle endpoint = true →
    s.main.idle endpoint = true ∨ s.main.halts endpoint = true
  halted : ∀ endpoint, after.main.halts endpoint = true → after.running endpoint = false
  runs : ∀ endpoint, after.running endpoint = true →
    s.running endpoint = true ∨ after.main.idle endpoint = false
  loops : ∀ endpoint, after.looping endpoint = true →
    s.looping endpoint = true ∨ after.main.idle endpoint = false

variable {kind : BackendKind} {s after : HostThreads}

/-- A step that goes on to `next` and leaves the endpoints alone. -/
theorem MainStep.goes {at_ : MainAt} (here : s.main = at_) (workers : after.workers = s.workers)
    (asked : after.asked = s.asked) (running : after.running = s.running)
    (looping : after.looping = s.looping)
    (takes : ∀ lock, after.main.holds kind lock = true →
      at_.holds kind lock = true ∨ at_.wants kind = some (.lock lock))
    (idle : ∀ endpoint, after.main.idle endpoint = true →
      at_.idle endpoint = true ∨ at_.halts endpoint = true)
    (halted : ∀ endpoint, after.main.halts endpoint = true → s.running endpoint = false)
    (left : after.main ≠ .start := by simp [mainReturned])
    (live : after.main.begun = true →
      at_.begun = true ∧ after.stopped = s.stopped ∨ after.stopped = false := by
        simp [MainAt.begun, mainReturned, requestShutdown]) :
    MainStep kind s after where
  left := left
  live := here ▸ live
  workers := workers
  asked := asked
  takes := here ▸ takes
  idle := here ▸ idle
  halted := fun endpoint halts => running ▸ halted endpoint halts
  runs := fun _ runs => .inl (running ▸ runs)
  loops := fun _ loops => .inl (looping ▸ loops)

theorem callStep_more {backend next : State} {failure : Option Thrown} {call : BackendCall}
    {phase later : CallPhase}
    (stepped : callStep kind backend failure call phase = .more later next) :
    (phase = .entering ∧ later = .inside) ∨
      (phase = .inside ∧ ∃ thrown, later = .joining thrown) := by
  unfold callStep at stepped
  split at stepped
  · split at stepped
    · cases stepped
    · cases stepped
      exact .inl ⟨rfl, rfl⟩
  · split at stepped
    · cases stepped
    · cases stepped
      exact .inl ⟨rfl, rfl⟩
  · split at stepped
    · cases stepped
    · cases stepped
      exact .inr ⟨rfl, _, rfl⟩
  · cases stepped
    exact .inr ⟨rfl, _, rfl⟩
  · cases stepped
  · cases stepped
  · cases stepped

theorem callStep_holds {backend next : State} {failure : Option Thrown} {call : BackendCall}
    {phase later : CallPhase}
    (stepped : callStep kind backend failure call phase = .more later next)
    (_ : later.holdsBackend kind = true) :
    phase.holdsBackend kind = true ∨ phase.wantsBackend kind = true := by
  rcases callStep_more stepped with ⟨here, _⟩ | ⟨here, _⟩
  · rw [here]
    exact .inr rfl
  · rw [here]
    exact .inl rfl

theorem mainCalling_step {why : MainCall} {phase : CallPhase} {failure : Option Thrown}
    (here : s.main = .calling why phase) :
    MainStep kind s (s.mainCalling kind why phase failure) := by
  unfold mainCalling
  split
  · rename_i later backend stepped
    refine .goes here rfl rfl rfl rfl ?_ (fun _ _ => .inl rfl)
      (fun _ halts => absurd halts Bool.false_ne_true) (by simp)
      (fun begun => .inl ⟨MainAt.calling_begun begun, rfl⟩)
    · intro lock holds
      simp only [MainAt.holds, Bool.or_eq_true, Bool.and_eq_true, decide_eq_true_eq] at holds ⊢
      rcases holds with held | ⟨same, held⟩
      · exact .inl (.inl held)
      · rcases callStep_holds stepped held with holding | wanting
        · exact .inl (.inr ⟨same, holding⟩)
        · right
          simp only [MainAt.wants, wanting, if_true, same]
  · rename_i result backend stepped
    cases why with
    | starting =>
        cases result with
        | ok value =>
            refine .goes here rfl rfl rfl rfl ?_ (fun _ _ => .inl rfl)
              (fun _ halts => absurd halts Bool.false_ne_true)
            intro lock holds
            left
            exact Bool.or_eq_true_iff.mpr (.inl holds)
        | error thrown =>
            exact .goes here rfl rfl rfl rfl (fun _ holds => absurd holds Bool.false_ne_true)
              (fun _ idle => absurd idle Bool.false_ne_true)
              (fun _ halts => absurd halts Bool.false_ne_true)
    | closing why =>
        cases why with
        | stopping outcome =>
            exact .goes here rfl rfl rfl rfl (fun _ holds => absurd holds Bool.false_ne_true)
              (fun _ _ => .inl rfl) (fun _ halts => absurd halts Bool.false_ne_true)
        | rollback thrown =>
            exact .goes here rfl rfl rfl rfl (fun _ holds => absurd holds Bool.false_ne_true)
              (fun _ _ => .inl rfl) (fun _ halts => absurd halts Bool.false_ne_true)

theorem Launching.behind_holds {why : Launching} {endpoint : IpcEndpoint} {lock : HostLock}
    (holds : (why.behind endpoint).holds kind lock = true) : lock = .lifecycle := by
  cases why <;> cases endpoint <;>
    simp [Launching.behind, IpcEndpoint.next] at holds <;> exact holds

theorem Launching.behind_idle {why : Launching} {endpoint other : IpcEndpoint}
    (idle : (why.behind endpoint).idle other = true) :
    (MainAt.ready why endpoint).idle other = true := by
  revert idle
  cases why <;> cases endpoint <;> cases other <;> decide

theorem Launching.behind_ne_start (why : Launching) (endpoint : IpcEndpoint) :
    why.behind endpoint ≠ .start := by
  cases why <;> cases endpoint <;> simp [Launching.behind, IpcEndpoint.next]

theorem Launching.leave_ne_start (why : Launching) (thrown : Thrown) :
    why.leave thrown ≠ .start := by
  cases why <;> simp [Launching.leave]

theorem Launching.behind_halts (why : Launching) (endpoint other : IpcEndpoint) :
    (why.behind endpoint).halts other = false := by
  cases why <;> cases endpoint <;> rfl

theorem Closing.behind_holds {why : Closing} {endpoint : IpcEndpoint} {lock : HostLock}
    (holds : (why.behind endpoint).holds kind lock = true) : lock = .lifecycle := by
  cases why <;> cases endpoint <;>
    simp [Closing.behind, MainCall.holds, CallPhase.holdsBackend] at holds <;>
    exact holds

theorem Closing.behind_idle {why : Closing} {endpoint other : IpcEndpoint}
    (idle : (why.behind endpoint).idle other = true) :
    (MainAt.joining why endpoint).idle other = true ∨ other = endpoint := by
  revert idle
  cases why <;> cases endpoint <;> cases other <;>
    simp [Closing.behind, Closing.order]

theorem Closing.behind_ne_start (why : Closing) (endpoint : IpcEndpoint) :
    why.behind endpoint ≠ .start := by
  cases why <;> cases endpoint <;> simp [Closing.behind]

theorem Closing.behind_begun {why : Closing} {endpoint : IpcEndpoint}
    (begun : (why.behind endpoint).begun = true) :
    (MainAt.joining why endpoint).begun = true := by
  cases why with
  | stopping outcome =>
      cases endpoint <;> exact begun
  | rollback thrown =>
      rfl

theorem Closing.behind_halts (why : Closing) (endpoint other : IpcEndpoint) :
    (why.behind endpoint).halts other = false := by
  cases why <;> cases endpoint <;> rfl

theorem begun_step (here : s.main = .start) : MainStep kind s s.begun := by
  unfold begun
  split
  · exact .goes here rfl rfl rfl rfl (fun _ holds => absurd holds Bool.false_ne_true)
      (fun _ _ => .inl rfl) (fun _ halts => absurd halts Bool.false_ne_true)
  · refine .goes here rfl rfl rfl rfl ?_ (fun _ _ => .inl rfl)
      (fun _ halts => absurd halts Bool.false_ne_true)
    simp [MainCall.holds, CallPhase.holdsBackend, eq_comm]

theorem stopping_step {outcome : HostEnd} (here : s.main = .stop outcome)
    (live : s.stopped = false) : MainStep kind s (s.stopping outcome) := by
  unfold stopping
  rw [if_neg (by rw [live]; exact Bool.false_ne_true)]
  exact .goes here rfl rfl rfl rfl (fun _ holds => absurd holds Bool.false_ne_true)
    (fun _ idle => absurd idle Bool.false_ne_true)
    (fun _ halts => absurd halts Bool.false_ne_true)

theorem launched_step {why : Launching} {endpoint : IpcEndpoint}
    (here : s.main = .launch why endpoint) :
    MainStep kind s { s.launched endpoint with main := .ready why endpoint } where
  left := by simp
  live := fun _ => .inl ⟨by rw [here]; rfl, rfl⟩
  workers := rfl
  asked := rfl
  takes := by
    intro lock holds
    rw [here]
    exact .inl holds
  idle := by
    intro other idle
    rw [here]
    revert idle
    cases why <;> simp only [MainAt.idle, decide_eq_true_eq, reduceCtorEq, false_implies]
    exact fun behind => .inl (Nat.le_of_lt behind)
  halted := fun _ halts => absurd halts Bool.false_ne_true
  runs := by
    intro other runs
    change (s.launched endpoint).running other = true at runs
    by_cases same : other = endpoint
    · right
      rw [same]
      cases why <;> simp
    · left
      rwa [launched_running, if_neg same] at runs
  loops := by
    intro other loops
    change (s.launched endpoint).looping other = true at loops
    by_cases same : other = endpoint
    · right
      rw [same]
      cases why <;> simp
    · left
      rwa [launched_looping, if_neg same] at loops

theorem halted_step {endpoint : IpcEndpoint} {next : MainAt}
    (takes : ∀ lock, next.holds kind lock = true → s.main.holds kind lock = true)
    (idle : ∀ other, next.idle other = true → s.main.idle other = true)
    (halts : ∀ other, next.halts other = true → other = endpoint) (left : next ≠ .start)
    (begun : next.begun = true → s.main.begun = true) :
    MainStep kind s { s.halted endpoint with main := next } where
  left := left
  live := fun going => .inl ⟨begun going, rfl⟩
  workers := rfl
  asked := rfl
  takes := fun lock holds => .inl (takes lock holds)
  idle := fun other idleNext => .inl (idle other idleNext)
  halted := by
    intro other halting
    exact (halted_running s endpoint other).trans (if_pos (halts other halting))
  runs := by
    intro other runs
    change (s.halted endpoint).running other = true at runs
    by_cases same : other = endpoint
    · rw [halted_running, if_pos same] at runs
      cases runs
    · rw [halted_running, if_neg same] at runs
      exact .inl runs
  loops := fun _ loops => .inl loops

theorem leave_step {why : Launching} {endpoint : IpcEndpoint} {thrown : Thrown}
    (here : s.main = .launch why endpoint ∨ s.main = .abandon why endpoint thrown) :
    MainStep kind s { s.requestShutdown with main := why.leave thrown } := by
  rcases here with here | here <;>
    refine .goes here rfl rfl rfl rfl ?_ ?_ ?_ (Launching.leave_ne_start _ _)
      (fun _ => .inl ⟨rfl, rfl⟩) <;> cases why <;>
      simp [Launching.leave]

theorem ready_step {why : Launching} {endpoint : IpcEndpoint}
    (here : s.main = .ready why endpoint) :
    MainStep kind s { s with main := why.behind endpoint } := by
  refine .goes here rfl rfl rfl rfl ?_ ?_ ?_ (Launching.behind_ne_start _ _)
    (fun _ => .inl ⟨rfl, rfl⟩)
  · intro lock holds
    rw [Launching.behind_holds holds]
    exact .inl rfl
  · exact fun other idle => .inl (Launching.behind_idle idle)
  · intro other halts
    exact absurd ((Launching.behind_halts why endpoint other).symm.trans halts)
      Bool.false_ne_true

theorem unready_step {why : Launching} {endpoint : IpcEndpoint} {thrown : Thrown}
    (here : s.main = .ready why endpoint) :
    MainStep kind s { s.halted endpoint with main := .abandon why endpoint thrown } := by
  refine halted_step ?_ ?_ ?_ (by simp) (fun _ => here ▸ rfl)
  · exact fun lock holds => here ▸ holds
  · intro other idle
    rw [here]
    cases why <;> exact idle
  · exact fun other halts => of_decide_eq_true halts

theorem looked_step {at_ first second : MainAt} (here : s.main = at_)
    (choice : after = { s with main := if s.shutdownRequested then first else second })
    (takes : ∀ next, next = first ∨ next = second → next ≠ .start ∧
      (next.begun = true → at_.begun = true) ∧
      (∀ lock, next.holds kind lock = true → at_.holds kind lock = true) ∧
      ∀ endpoint, next.idle endpoint = false ∧ next.halts endpoint = false) :
    MainStep kind s after := by
  have one : (if s.shutdownRequested then first else second) = first ∨
      (if s.shutdownRequested then first else second) = second := by
    split
    · exact .inl rfl
    · exact .inr rfl
  obtain ⟨left, begun, holds, quiet⟩ := takes _ one
  rw [choice]
  refine .goes here rfl rfl rfl rfl (fun lock held => .inl (holds lock held))
    (fun endpoint idle => ?_) (fun endpoint halts => ?_) left
    (fun going => .inl ⟨begun going, rfl⟩)
  · exact absurd ((quiet endpoint).1.symm.trans idle) Bool.false_ne_true
  · exact absurd ((quiet endpoint).2.symm.trans halts) Bool.false_ne_true

theorem recover_step {endpoint : IpcEndpoint} (here : s.main = .recover endpoint) :
    MainStep kind s
      { s with
        main := if s.running endpoint then Launching.recovering.behind endpoint
          else .rejoin endpoint } := by
  split
  · refine .goes here rfl rfl rfl rfl ?_ ?_ ?_ (Launching.behind_ne_start .recovering endpoint)
      (fun _ => .inl ⟨rfl, rfl⟩)
    · intro lock holds
      rw [@Launching.behind_holds kind .recovering endpoint lock holds]
      exact .inl rfl
    · intro other idle
      exact absurd (@Launching.behind_idle .recovering endpoint other idle)
        Bool.false_ne_true
    · intro other halts
      exact absurd ((Launching.behind_halts .recovering endpoint other).symm.trans halts)
        Bool.false_ne_true
  · rename_i quiet
    refine .goes here rfl rfl rfl rfl ?_ ?_ ?_
    · exact fun lock holds => .inl holds
    · exact fun other idle => absurd idle Bool.false_ne_true
    · intro other halts
      rw [of_decide_eq_true halts]
      exact Bool.not_eq_true _ ▸ quiet

theorem closing_step {why : Closing} {endpoint : IpcEndpoint}
    (here : s.main = .closing why endpoint) :
    MainStep kind s { s.halted endpoint with main := .joining why endpoint } := by
  refine halted_step ?_ ?_ ?_ (by simp) (fun begun => by rw [here]; cases why <;> exact begun)
  · exact fun lock holds => here ▸ holds
  · exact fun other idle => here ▸ idle
  · exact fun other halts => of_decide_eq_true halts

theorem joining_step {why : Closing} {endpoint : IpcEndpoint}
    (here : s.main = .joining why endpoint) :
    MainStep kind s { s with main := why.behind endpoint } := by
  refine .goes here rfl rfl rfl rfl ?_ ?_ ?_ (Closing.behind_ne_start _ _)
    (fun begun => .inl ⟨Closing.behind_begun begun, rfl⟩)
  · intro lock holds
    rw [Closing.behind_holds holds]
    exact .inl rfl
  · intro other idle
    rcases Closing.behind_idle idle with joined | same
    · exact .inl joined
    · exact .inr (decide_eq_true same)
  · intro other halts
    exact absurd ((Closing.behind_halts why endpoint other).symm.trans halts)
      Bool.false_ne_true

theorem mainMove_step {move : MainMove}
    (live : ∀ outcome, s.main = .stop outcome → s.stopped = false)
    (ran : s.mainMove kind move = some after) : MainStep kind s after := by
  cases here : s.main with
  | start =>
      cases move <;> simp only [mainMove, here, Option.some.injEq, reduceCtorEq] at ran
      rw [← ran]
      exact begun_step here
  | calling why phase =>
      cases move <;> simp only [mainMove, here, Option.some.injEq, reduceCtorEq] at ran
      · rw [← ran]
        exact mainCalling_step here
      · rw [← ran]
        exact mainCalling_step here
  | launch why endpoint =>
      cases move <;> simp only [mainMove, here, Option.some.injEq, reduceCtorEq] at ran
      · rw [← ran]
        exact launched_step here
      · rw [← ran]
        exact leave_step (.inl here)
  | ready why endpoint =>
      cases move <;> simp only [mainMove, here, Option.ite_none_right_eq_some,
        Option.some.injEq, reduceCtorEq] at ran
      · rw [← ran.2]
        exact ready_step here
      · rw [← ran]
        exact unready_step here
  | abandon why endpoint thrown =>
      cases move <;> simp only [mainMove, here, Option.some.injEq, reduceCtorEq] at ran
      rw [← ran]
      exact leave_step (.inr here)
  | predicate | recoverCheck =>
      cases move <;> simp only [mainMove, here, Option.some.injEq, reduceCtorEq] at ran
      refine looked_step here ran.symm ?_
      simp [MainAt.begun]
  | woken =>
      cases move <;> simp only [mainMove, here, Option.ite_none_left_eq_some, Option.some.injEq,
        reduceCtorEq] at ran
      · refine looked_step here ran.symm ?_
        simp [MainAt.begun]
      · rw [← ran.2]
        refine .goes here rfl rfl rfl rfl ?_ ?_ ?_ <;>
          simp
  | recover endpoint =>
      cases move <;> simp only [mainMove, here, Option.some.injEq, reduceCtorEq] at ran
      rw [← ran]
      exact recover_step here
  | inspect =>
      cases move <;> simp only [mainMove, here, Option.ite_none_left_eq_some,
        Option.ite_none_right_eq_some, Option.some.injEq, reduceCtorEq] at ran
      all_goals
        rw [← ran.2]
        refine .goes here rfl rfl rfl rfl ?_ ?_ ?_ <;>
          simp
  | closing why endpoint =>
      cases move <;> simp only [mainMove, here, Option.some.injEq, reduceCtorEq] at ran
      rw [← ran]
      exact closing_step here
  | joining why endpoint =>
      cases move <;> simp only [mainMove, here, Option.some.injEq, reduceCtorEq] at ran
      rw [← ran]
      exact joining_step here
  | stop outcome =>
      cases move <;> simp only [mainMove, here, Option.some.injEq, reduceCtorEq] at ran
      rw [← ran]
      exact stopping_step here (live outcome here)
  | clearing | endpointsLock | started | supervise | waiting | waking | recoverLock | rejoin
  | resume | returned | raised =>
      cases move <;> simp only [mainMove, here, Option.some.injEq, reduceCtorEq] at ran
      all_goals
        rw [← ran]
        refine .goes here rfl rfl rfl rfl ?_ ?_ ?_ <;>
          simp
  | rollbackLock thrown | stopLock outcome =>
      cases move <;> simp only [mainMove, here, Option.some.injEq, reduceCtorEq] at ran
      rw [← ran]
      refine .goes here rfl rfl rfl rfl ?_ ?_ ?_
      · simp
      · simp [Closing.order]
      · simp
  | stopMutex outcome =>
      cases move <;> simp only [mainMove, here, Option.some.injEq, reduceCtorEq] at ran
      rw [← ran]
      refine .goes here rfl rfl rfl rfl ?_ (fun _ _ => .inl rfl)
        (fun _ halts => absurd halts Bool.false_ne_true)
      simp [MainCall.holds, CallPhase.holdsBackend, eq_comm]
  | finished outcome =>
      cases move <;> simp only [mainMove, here, reduceCtorEq] at ran

/-! ### Steps of the workers -/

structure WorkerStep (kind : BackendKind) (s : HostThreads) (index : Nat) (w : Worker)
    (after : HostThreads) : Prop where
  main : after.main = s.main
  running : after.running = s.running
  looping : after.looping = s.looping
  stopped : after.stopped = s.stopped
  workers : after.workers = s.workers.eraseIdx index ∨
    ∃ next, after.workers = s.workers.set index { w with at_ := next } ∧
      (∀ lock, next.holds kind lock = true →
        w.at_.holds kind lock = true ∨ w.at_.wants kind = some (.lock lock)) ∧
      (next = .blocked → kind.platform = .linux)

variable {index : Nat} {w : Worker}

theorem WorkerStep.goes {changed : HostThreads} {next here : WorkerAt} (at_ : w.at_ = here)
    (main : changed.main = s.main) (running : changed.running = s.running)
    (looping : changed.looping = s.looping) (stopped : changed.stopped = s.stopped)
    (workers : changed.workers = s.workers)
    (takes : ∀ lock, next.holds kind lock = true →
      here.holds kind lock = true ∨ here.wants kind = some (.lock lock))
    (blocks : next = .blocked → kind.platform = .linux := by simp) :
    WorkerStep kind s index w (changed.moved index w next) where
  main := main
  running := running
  looping := looping
  stopped := stopped
  workers := .inr ⟨next, by rw [← workers]; rfl, at_ ▸ takes, blocks⟩

theorem WorkerStep.leaves :
    WorkerStep kind s index w { s with workers := s.workers.eraseIdx index } where
  main := rfl
  running := rfl
  looping := rfl
  stopped := rfl
  workers := .inl rfl

theorem workerCalling_step {call : BackendCall} {phase : CallPhase} {failure : Option Thrown}
    (here : w.at_ = .calling call phase) :
    WorkerStep kind s index w (s.workerCalling kind index w call phase failure) := by
  unfold workerCalling
  split
  · rename_i later backend stepped
    refine .goes here rfl rfl rfl rfl rfl ?_
    intro lock holds
    simp only [WorkerAt.holds, Bool.or_eq_true, Bool.and_eq_true, decide_eq_true_eq] at holds ⊢
    rcases holds with held | ⟨same, held⟩
    · exact .inl (.inl held)
    · rcases callStep_holds stepped held with holding | wanting
      · exact .inl (.inr ⟨same, holding⟩)
      · right
        simp only [WorkerAt.wants, wanting, if_true, same]
  · rename_i result backend stepped
    refine .goes here rfl rfl rfl rfl rfl ?_ ?_
    · intro lock holds
      cases call <;> cases result <;> simp_all [workerReturned]
    · cases call <;> cases result <;> simp [workerReturned]

theorem enter_holds {operation : IpcOperation} {lock : HostLock} :
    operation.enter.holds kind lock = false := by
  cases operation <;> rfl

theorem entered_step {operation : IpcOperation} {payload : Bytes}
    (here : w.at_ = .handling operation payload) :
    WorkerStep kind s index w ((s.entered operation).moved index w operation.enter) := by
  have takes : ∀ lock, operation.enter.holds kind lock = true →
      (WorkerAt.handling operation payload).holds kind lock = true ∨
        (WorkerAt.handling operation payload).wants kind = some (.lock lock) :=
    fun _ holds => absurd (enter_holds.symm.trans holds) Bool.false_ne_true
  cases operation <;>
    exact .goes here rfl rfl rfl rfl rfl takes (by simp [IpcOperation.enter])

theorem workerMove_step {move : HandlerMove}
    (ran : s.workerMove kind index w move = some after) : WorkerStep kind s index w after := by
  cases here : w.at_ with
  | reading =>
      cases move <;> simp only [workerMove, here, Option.some.injEq, reduceCtorEq] at ran
      · rw [← ran]
        exact .goes here rfl rfl rfl rfl rfl (fun _ holds => absurd holds Bool.false_ne_true)
      · rw [← ran]
        exact .leaves
  | handling operation payload =>
      cases move <;> simp only [workerMove, here, reduceCtorEq] at ran
      split at ran
      · rw [← Option.some.inj ran]
        exact .goes here rfl rfl rfl rfl rfl (fun _ holds => absurd holds Bool.false_ne_true)
      · rw [← Option.some.inj ran]
        exact entered_step here
  | calling call phase =>
      cases move <;> simp only [workerMove, here, Option.some.injEq, reduceCtorEq] at ran
      · rw [← ran]
        exact workerCalling_step here
      · rw [← ran]
        exact workerCalling_step here
  | mutexLock operation =>
      cases move <;> simp only [workerMove, here, Option.some.injEq, reduceCtorEq] at ran
      rw [← ran]
      refine .goes here rfl rfl rfl rfl rfl (fun lock => ?_) ?_
      · cases operation <;> cases lock <;>
          simp [CallPhase.holdsBackend]
      · cases operation <;> simp
  | locked operation =>
      cases move <;> simp only [workerMove, here, Option.ite_none_left_eq_some,
        Option.ite_none_right_eq_some, Option.some.injEq, reduceCtorEq] at ran
      all_goals
        rw [← ran.2]
        exact .goes here rfl rfl rfl rfl rfl (fun _ holds => absurd holds Bool.false_ne_true)
  | replying result =>
      cases move <;> simp only [workerMove, here, Option.ite_none_right_eq_some,
        Option.some.injEq, reduceCtorEq] at ran
      · rw [← ran]
        exact .leaves
      · rw [← ran.2]
        exact .goes here rfl rfl rfl rfl rfl (fun _ holds => absurd holds Bool.false_ne_true)
          (fun _ => ran.1)
  | blocked =>
      cases move <;> simp only [workerMove, here, Option.some.injEq, reduceCtorEq] at ran
      rw [← ran]
      exact .leaves
  | restarting =>
      cases move <;> simp only [workerMove, here, Option.some.injEq, reduceCtorEq] at ran
      rw [← ran]
      exact .goes here rfl rfl rfl rfl rfl (fun _ holds => absurd holds Bool.false_ne_true)
  | statusCall | reloadLock | loading | reloadMutex | applying | reloaded | started | logging =>
      cases move <;> simp only [workerMove, here, Option.ite_none_right_eq_some,
        Option.some.injEq, reduceCtorEq] at ran
      all_goals
        first
        | rw [← ran]
        | rw [← ran.2]
        refine .goes here rfl rfl rfl rfl rfl (fun lock => ?_)
        cases lock <;> simp

/-! ### What is kept -/

def holders (kind : BackendKind) (s : HostThreads) (lock : HostLock) : Nat :=
  (if s.main.holds kind lock then 1 else 0) + s.workers.countP fun w => w.at_.holds kind lock

structure Idle (s : HostThreads) (endpoint : IpcEndpoint) : Prop where
  running : s.running endpoint = false
  looping : s.looping endpoint = false
  workers : ∀ w ∈ s.workers, w.endpoint ≠ endpoint

theorem available_lock {lock : HostLock} :
    s.available kind (.lock lock) = true ↔ s.holders kind lock = 0 := by
  unfold available holders
  rw [Bool.and_eq_true, Nat.add_eq_zero_iff, List.countP_eq_zero, List.all_eq_true]
  refine and_congr ?_ (forall₂_congr fun w _ => ?_)
  · cases s.main.holds kind lock <;> simp
  · rw [Bool.not_eq_true', Bool.not_eq_true]

theorem available_threads {endpoint : IpcEndpoint} :
    s.available kind (.threads endpoint) = true ↔
      s.looping endpoint = false ∧ ∀ w ∈ s.workers, w.endpoint ≠ endpoint := by
  unfold available
  simp only [Bool.and_eq_true, Bool.not_eq_true', List.all_eq_true, decide_eq_true_eq]

structure Sound (kind : BackendKind) (s : HostThreads) : Prop where
  live : s.main.begun = true → s.stopped = false
  exclusive : ∀ lock, s.holders kind lock ≤ 1
  idle : ∀ endpoint, s.main.idle endpoint = true → s.Idle endpoint
  halted : ∀ endpoint, s.main.halts endpoint = true → s.running endpoint = false
  blocked : ∀ w ∈ s.workers, w.at_ = .blocked → kind.platform = .linux

theorem mainMove_sound {move : MainMove} (sound : s.Sound kind)
    (free : ∀ resource, s.main.wants kind = some resource → s.available kind resource = true)
    (ran : s.mainMove kind move = some after) : after.Sound kind := by
  have step := mainMove_step (fun outcome here => sound.live (by rw [here]; rfl)) ran
  refine
    { live := ?_
      exclusive := ?_
      idle := ?_
      halted := step.halted
      blocked := step.workers ▸ sound.blocked }
  · intro begun
    rcases step.live begun with ⟨before, same⟩ | live
    · rw [same]
      exact sound.live before
    · exact live
  · intro lock
    have before := sound.exclusive lock
    unfold holders at before ⊢
    rw [step.workers]
    cases holds : after.main.holds kind lock with
    | false =>
        rw [if_neg Bool.false_ne_true]
        omega
    | true =>
        rcases step.takes lock holds with held | wanted
        · rw [held] at before
          exact before
        · have none := available_lock.mp (free _ wanted)
          unfold holders at none
          rw [if_pos rfl]
          omega
  · intro endpoint idle
    -- An endpoint is idle because it was before, or because it has just been joined.
    have before : s.Idle endpoint := by
      rcases step.idle endpoint idle with idle | halts
      · exact sound.idle endpoint idle
      · obtain ⟨looping, workers⟩ :=
          available_threads.mp (free _ (MainAt.halts_wants kind halts))
        exact
          { running := sound.halted endpoint halts
            looping := looping
            workers := workers }
    refine { running := ?_, looping := ?_, workers := step.workers ▸ before.workers }
    · refine Bool.eq_false_of_not_eq_true fun runs => ?_
      rcases step.runs endpoint runs with running | busy
      · exact absurd (before.running.symm.trans running) Bool.false_ne_true
      · exact absurd (busy.symm.trans idle) Bool.false_ne_true
    · refine Bool.eq_false_of_not_eq_true fun loops => ?_
      rcases step.loops endpoint loops with looping | busy
      · exact absurd (before.looping.symm.trans looping) Bool.false_ne_true
      · exact absurd (busy.symm.trans idle) Bool.false_ne_true

theorem holders_set {next : WorkerAt} {lock : HostLock} (found : s.workers[index]? = some w)
    (main : after.main = s.main)
    (workers : after.workers = s.workers.set index { w with at_ := next }) :
    after.holders kind lock + (if w.at_.holds kind lock then 1 else 0) =
      s.holders kind lock + (if next.holds kind lock then 1 else 0) := by
  obtain ⟨inside, same⟩ := List.getElem?_eq_some_iff.mp found
  have counted : (if w.at_.holds kind lock = true then 1 else 0) ≤
      s.workers.countP fun w => w.at_.holds kind lock := by
    split
    · rename_i holds
      exact List.countP_pos_iff.mpr ⟨w, same ▸ List.getElem_mem inside, holds⟩
    · exact Nat.zero_le _
  unfold holders
  rw [main, workers, List.countP_set inside, same]
  simp only
  omega

theorem workerMove_sound {move : HandlerMove} (sound : s.Sound kind)
    (found : s.workers[index]? = some w)
    (free : ∀ resource, w.at_.wants kind = some resource → s.available kind resource = true)
    (ran : s.workerMove kind index w move = some after) : after.Sound kind := by
  have step := workerMove_step ran
  refine { live := ?_, exclusive := ?_, idle := ?_, halted := ?_, blocked := ?_ }
  · rw [step.main, step.stopped]
    exact sound.live
  · intro lock
    have before := sound.exclusive lock
    rcases step.workers with gone | ⟨next, moved, takes, _⟩
    · have fewer := (List.eraseIdx_sublist s.workers index).countP_le
        (p := fun w => w.at_.holds kind lock)
      unfold holders at before ⊢
      rw [step.main, gone]
      omega
    · have change := @holders_set kind s after index w next lock found step.main moved
      cases holds : next.holds kind lock with
      | false =>
          rw [holds, if_neg Bool.false_ne_true] at change
          omega
      | true =>
          rcases takes lock holds with held | wanted
          · rw [held, holds] at change
            omega
          · have none := available_lock.mp (free _ wanted)
            rw [holds, if_pos rfl] at change
            omega
  · intro endpoint idle
    rw [step.main] at idle
    have before := sound.idle endpoint idle
    refine
      { running := by rw [step.running]; exact before.running
        looping := by rw [step.looping]; exact before.looping
        workers := ?_ }
    intro other member
    rcases step.workers with gone | ⟨next, moved, _, _⟩
    · rw [gone] at member
      exact before.workers other (List.mem_of_mem_eraseIdx member)
    · rw [moved] at member
      rcases List.mem_or_eq_of_mem_set member with old | same
      · exact before.workers other old
      · rw [same]
        exact before.workers w (List.mem_of_getElem? found)
  · intro endpoint halts
    rw [step.main] at halts
    rw [step.running]
    exact sound.halted endpoint halts
  · intro other member
    rcases step.workers with gone | ⟨next, moved, _, blocks⟩
    · rw [gone] at member
      exact sound.blocked other (List.mem_of_mem_eraseIdx member)
    · rw [moved] at member
      rcases List.mem_or_eq_of_mem_set member with old | same
      · exact sound.blocked other old
      · rw [same]
        exact blocks

/-- A new worker holds nothing, and an idle endpoint gets none. -/
theorem connect_sound {endpoint : IpcEndpoint} (sound : s.Sound kind)
    (ran : s.connect endpoint = some after) : after.Sound kind := by
  obtain ⟨⟨looping, _⟩, same⟩ := Option.ite_none_right_eq_some.mp ran
  rw [← Option.some.inj same]
  refine
    { live := sound.live
      exclusive := ?_
      idle := ?_
      halted := sound.halted
      blocked := ?_ }
  · intro lock
    have before := sound.exclusive lock
    unfold holders at before ⊢
    rw [List.countP_append]
    exact before
  · intro other idle
    have before := sound.idle other idle
    refine { running := before.running, looping := before.looping, workers := ?_ }
    intro w member
    rcases List.mem_append.mp member with old | new
    · exact before.workers w old
    · rw [List.mem_singleton.mp new]
      intro same
      have busy := before.looping
      rw [← same] at busy
      exact absurd (busy.symm.trans looping) Bool.false_ne_true
  · intro w member
    rcases List.mem_append.mp member with old | new
    · exact sound.blocked w old
    · rw [List.mem_singleton.mp new]
      exact fun here => nomatch here

theorem sound_of_fewer (sound : s.Sound kind) (main : after.main = s.main)
    (workers : after.workers = s.workers) (stopped : after.stopped = s.stopped)
    (runs : ∀ endpoint, after.running endpoint = true → s.running endpoint = true)
    (loops : ∀ endpoint, after.looping endpoint = true → s.looping endpoint = true) :
    after.Sound kind := by
  have quiet : ∀ endpoint, s.running endpoint = false → after.running endpoint = false := by
    intro endpoint still
    refine Bool.eq_false_of_not_eq_true fun running => ?_
    exact absurd (still.symm.trans (runs endpoint running)) Bool.false_ne_true
  refine
    { live := by rw [main, stopped]; exact sound.live
      exclusive := by unfold holders; rw [main, workers]; exact sound.exclusive
      idle := ?_
      halted := ?_
      blocked := workers ▸ sound.blocked }
  · intro endpoint idle
    rw [main] at idle
    have before := sound.idle endpoint idle
    refine { running := quiet endpoint before.running, looping := ?_, workers := ?_ }
    · refine Bool.eq_false_of_not_eq_true fun looping => ?_
      exact absurd (before.looping.symm.trans (loops endpoint looping)) Bool.false_ne_true
    · rw [workers]
      exact before.workers
  · intro endpoint halts
    rw [main] at halts
    exact quiet endpoint (sound.halted endpoint halts)

theorem update_false {flags : IpcEndpoint → Bool} {endpoint other : IpcEndpoint}
    (still : Function.update flags endpoint false other = true) : flags other = true := by
  rw [Function.update_apply] at still
  split at still
  · cases still
  · exact still

theorem all_available {wants : Option HostResource} (all : wants.all (s.available kind) = true) :
    ∀ resource, wants = some resource → s.available kind resource = true := by
  intro resource wanted
  rw [wanted] at all
  exact all

theorem perform_sound {event : HostEvent} (sound : s.Sound kind)
    (ran : s.perform kind event = some after) : after.Sound kind := by
  cases event with
  | main move =>
      obtain ⟨free, ran⟩ := Option.ite_none_right_eq_some.mp ran
      exact mainMove_sound sound (all_available free) ran
  | connect endpoint =>
      exact connect_sound sound ran
  | loopFails endpoint =>
      obtain ⟨_, same⟩ := Option.ite_none_right_eq_some.mp ran
      rw [← Option.some.inj same]
      exact sound_of_fewer sound rfl rfl rfl (fun _ => update_false) (fun _ => update_false)
  | loopEnds endpoint =>
      obtain ⟨_, same⟩ := Option.ite_none_right_eq_some.mp ran
      rw [← Option.some.inj same]
      exact sound_of_fewer sound rfl rfl rfl (fun _ runs => runs) (fun _ => update_false)
  | worker index move =>
      obtain ⟨w, found, ran⟩ := Option.bind_eq_some_iff.mp ran
      obtain ⟨free, ran⟩ := Option.ite_none_right_eq_some.mp ran
      exact workerMove_sound sound found (all_available free) ran
  | backendFails =>
      obtain ⟨_, same⟩ := Option.ite_none_right_eq_some.mp ran
      rw [← Option.some.inj same]
      exact sound_of_fewer sound rfl rfl rfl (fun _ runs => runs) (fun _ loops => loops)

theorem Reached.sound (reached : Reached kind s) : s.Sound kind := by
  refine Transition.Reachable.invariant ?_ ?_ reached
  · intro state begins
    rw [begins]
    exact
      { live := fun begun => absurd begun Bool.false_ne_true
        exclusive := fun _ => Nat.zero_le 1
        idle := fun endpoint _ =>
          { running := rfl
            looping := rfl
            workers := fun _ member => absurd member List.not_mem_nil }
        halted := fun _ halts => absurd halts Bool.false_ne_true
        blocked := fun _ member => absurd member List.not_mem_nil }
  · intro state next _ sound moved
    obtain ⟨event, ran⟩ := moved
    exact perform_sound sound ran

/-! ### One call at a time -/

/-- The number of threads that are changing the backend. -/
def backendUsers (s : HostThreads) : Nat :=
  (if s.main.inBackend then 1 else 0) + s.workers.countP fun w => w.at_.inBackend

theorem WorkerAt.inBackend_holds {at_ : WorkerAt} (inside : at_.inBackend = true) :
    at_.holds kind .mutex = true := by
  cases at_ <;> first | rfl | cases inside

theorem no_workers (idle : ∀ endpoint, s.Idle endpoint) : s.workers = [] := by
  refine List.eq_nil_iff_forall_not_mem.mpr fun w member => ?_
  exact (idle w.endpoint).workers w member rfl

/-- The rollback of a failed start stops the backend without `mutex_`, but then every
worker has been joined. -/
theorem Sound.backendUsers_le (sound : s.Sound kind) : s.backendUsers ≤ 1 := by
  have fewer : (s.workers.countP fun w => w.at_.inBackend) ≤
      s.workers.countP fun w => w.at_.holds kind .mutex :=
    List.countP_mono_left fun w _ inside => WorkerAt.inBackend_holds inside
  have one := sound.exclusive .mutex
  unfold holders at one
  unfold backendUsers
  cases inside : s.main.inBackend with
  | false =>
      rw [if_neg Bool.false_ne_true]
      omega
  | true =>
      rw [if_pos rfl]
      cases here : s.main with
      | calling why phase =>
          by_cases held : why.holds .mutex = true
          · have holds : s.main.holds kind .mutex = true := by
              rw [here]
              exact Bool.or_eq_true_iff.mpr (.inl held)
            rw [holds, if_pos rfl] at one
            omega
          · have idle : ∀ endpoint, s.Idle endpoint :=
              fun endpoint => sound.idle endpoint (by rw [here]; rfl)
            rw [no_workers idle, List.countP_nil]
      | _ =>
          rw [here] at inside
          cases inside

end HostThreads

/-- Whatever the threads of a core do and in whatever order: no mutex has two holders, and
at most one thread is inside a call that starts, stops or reloads the backend. -/
theorem coreHost_exclusive (kind : BackendKind) (s : HostThreads)
    (reached : HostThreads.Reached kind s) :
    (∀ lock, s.holders kind lock ≤ 1) ∧ s.backendUsers ≤ 1 :=
  ⟨reached.sound.exclusive, reached.sound.backendUsers_le⟩

theorem HostThreads.Reached.run {kind : BackendKind} {events : List HostEvent}
    {s : HostThreads}
    (ran : Transition.performAll (HostThreads.perform kind) {} events = some s) :
    HostThreads.Reached kind s :=
  Transition.Reachable.performAll (fun _ event _ moved => ⟨event, moved⟩) (.start rfl) ran

def coreStartRun : List HostEvent :=
  List.replicate 14 (.main .go)

/-- One client stops WinDivert, whose threads are being joined, another one starts it, and
the main thread has slept enough. -/
def coreCrowdedRun : List HostEvent :=
  coreStartRun ++
    [.connect .command, .connect .command, .worker 0 (.request 4 []), .worker 0 .go,
      .worker 0 .go, .worker 0 .go, .worker 0 .go, .worker 1 (.request 3 []), .worker 1 .go,
      .main .go]

def coreCrowd : List WorkerAt :=
  [.calling .stop (.joining none), .mutexLock .start]

theorem coreCrowdedRun_ends :
    (Transition.performAll (HostThreads.perform .winDivert) {} coreCrowdedRun).map
      (fun s => (s.main, s.workers.map (·.at_))) = some (.waking, coreCrowd) := by
  decide +kernel

theorem coreHost_exclusive_crowded : ∃ s : HostThreads, s.main = .waking ∧
    s.workers.map (·.at_) = coreCrowd ∧ (∀ lock, s.holders .winDivert lock ≤ 1) ∧
      s.backendUsers ≤ 1 := by
  obtain ⟨s, ran, ends⟩ := Option.map_eq_some_iff.mp coreCrowdedRun_ends
  obtain ⟨waking, crowd⟩ := Prod.mk.inj ends
  exact ⟨s, waking, crowd, coreHost_exclusive .winDivert s (.run ran)⟩

end NativeDNS
