/-
How a core ends.

A core that has ended has stopped its backend, joined its endpoints and let go of every
mutex, also where it failed to start.  It ends without an error only because a client has
asked for it, and starts again only because a client has asked for that.
-/
import NativeDNS.Host.ThreadsSafety
import Mathlib.Data.List.Perm.Basic

namespace NativeDNS

open CheckedResult

/-! ### Places behind a shutdown -/

/-- The core is being stopped, or its start taken back. -/
def MainAt.ending : MainAt → Bool
  | .calling (.closing _) _ => true
  | .rollbackLock _ => true
  | .closing _ _ => true
  | .joining _ _ => true
  | .stopLock _ => true
  | .stopMutex _ => true
  | .finished _ => true
  | _ => false

def MainAt.quiet : MainAt → Bool
  | .raised _ => false
  | .stop _ => false
  | at_ => !at_.ending

def MainAt.outcome : MainAt → Option HostEnd
  | .calling (.closing (.stopping outcome)) _ => some outcome
  | .closing (.stopping outcome) _ => some outcome
  | .joining (.stopping outcome) _ => some outcome
  | .stop outcome => some outcome
  | .stopLock outcome => some outcome
  | .stopMutex outcome => some outcome
  | .finished outcome => some outcome
  | _ => none

/-- An end that is not an error has been asked for. -/
def HostEnd.Asked (asked : List IpcOperation) : HostEnd → Prop
  | .shutdown => .shutdown ∈ asked
  | .restart => .restart ∈ asked
  | _ => True

theorem HostEnd.Asked.more {outcome : HostEnd} {asked : List IpcOperation}
    (before : outcome.Asked asked) (operation : IpcOperation) :
    outcome.Asked (asked ++ [operation]) := by
  cases outcome with
  | shutdown =>
      exact List.mem_append.mpr (.inl before)
  | restart =>
      exact List.mem_append.mpr (.inl before)
  | failed thrown =>
      trivial
  | startFailed thrown =>
      trivial

namespace HostThreads

variable {kind : BackendKind} {s after : HostThreads}

/-! ### Steps of the main thread -/

structure MainFlags (s after : HostThreads) : Prop where
  ending : after.main.ending = true →
    s.main.ending = true ∧ after.shutdownRequested = s.shutdownRequested ∨
      after.shutdownRequested = true
  closed : after.main.begun = false →
    s.main.begun = false ∧ after.stopped = s.stopped ∨ after.stopped = true
  finished : ∀ outcome, after.main = .finished outcome → after.backend = .stopped
  quiet : after.main.quiet = true →
    s.main.quiet = true ∧ (after.shutdownRequested = true → s.shutdownRequested = true)
  outcome : ∀ outcome, after.main.outcome = some outcome →
    s.main.outcome = some outcome ∨
      s.main = .returned ∧ outcome = (if s.restartRequested then .restart else .shutdown) ∨
        ∃ thrown, outcome = .failed thrown ∨ outcome = .startFailed thrown
  returned : after.main = .returned → s.shutdownRequested = true
  restarts : after.restartRequested = s.restartRequested ∨
    s.main = .start ∧ after.restartRequested = false
  keeps : s.shutdownRequested = true → after.shutdownRequested = true ∨ s.main = .start

theorem callStep_stopped {backend next : State} {failure : Option Thrown} {phase : CallPhase}
    {result : Except Thrown Unit}
    (stepped : callStep kind backend failure .stop phase = .done result next) :
    next = .stopped := by
  cases phase with
  | entering =>
      simp only [callStep] at stepped
      split at stepped
      · rename_i same
        cases stepped
        exact same
      · cases stepped
  | inside =>
      cases stepped
  | joining thrown =>
      cases stepped
      rfl

theorem begun_flags (here : s.main = .start) (fresh : s.backend = .stopped) :
    MainFlags s s.begun := by
  unfold begun
  rw [if_neg (fun other => other fresh)]
  constructor <;> simp [here, MainAt.ending, MainAt.begun, MainAt.quiet, MainAt.outcome]

theorem stopping_flags {outcome : HostEnd} (here : s.main = .stop outcome)
    (live : s.stopped = false) : MainFlags s (s.stopping outcome) := by
  unfold stopping
  rw [if_neg (by rw [live]; exact Bool.false_ne_true)]
  constructor <;>
    simp [here, MainAt.ending, MainAt.begun, MainAt.quiet, MainAt.outcome, requestShutdown]

theorem mainCalling_flags {why : MainCall} {phase : CallPhase} {failure : Option Thrown}
    (here : s.main = .calling why phase) :
    MainFlags s (s.mainCalling kind why phase failure) := by
  unfold mainCalling
  split
  · rcases why with _ | ⟨_ | _⟩ <;> constructor <;>
      simp [here, MainAt.ending, MainAt.begun, MainAt.quiet, MainAt.outcome]
  · rename_i result backend stepped
    rcases why with _ | ⟨_ | _⟩
    · cases result <;> constructor <;>
        simp [here, mainReturned, MainAt.ending, MainAt.begun, MainAt.quiet, MainAt.outcome,
          requestShutdown]
    · have stopped := callStep_stopped stepped
      constructor <;>
        simp [here, mainReturned, MainAt.ending, MainAt.begun, MainAt.quiet, MainAt.outcome,
          requestShutdown, stopped]
    · have stopped := callStep_stopped stepped
      constructor <;>
        simp [here, mainReturned, MainAt.ending, MainAt.begun, MainAt.quiet, MainAt.outcome,
          stopped]

theorem mainMove_flags {move : MainMove} (fresh : s.main = .start → s.backend = .stopped)
    (live : s.main.begun = true → s.stopped = false)
    (ran : s.mainMove kind move = some after) : MainFlags s after := by
  cases here : s.main with
  | start =>
      cases move <;> simp only [mainMove, here, Option.some.injEq, reduceCtorEq] at ran
      rw [← ran]
      exact begun_flags here (fresh here)
  | calling why phase =>
      cases move <;> simp only [mainMove, here, Option.some.injEq, reduceCtorEq] at ran
      all_goals
        rw [← ran]
        exact mainCalling_flags here
  | launch why endpoint | abandon why endpoint thrown =>
      cases move <;> simp only [mainMove, here, Option.some.injEq, reduceCtorEq] at ran
      all_goals
        rw [← ran]
        cases why <;> constructor <;>
          simp [here, Launching.leave, MainAt.ending, MainAt.begun, MainAt.quiet,
            MainAt.outcome, requestShutdown, launched]
  | ready why endpoint =>
      cases move <;> simp only [mainMove, here, Option.ite_none_right_eq_some,
        Option.some.injEq, reduceCtorEq] at ran
      · rw [← ran.2]
        cases why <;> cases endpoint <;> constructor <;>
          simp [here, Launching.behind, IpcEndpoint.next, MainAt.ending, MainAt.begun,
            MainAt.quiet, MainAt.outcome]
      · rw [← ran]
        constructor <;>
          simp [here, MainAt.ending, MainAt.begun, MainAt.quiet, MainAt.outcome, halted]
  | predicate | recoverCheck | woken =>
      cases move <;> cases flag : s.shutdownRequested <;>
        simp only [mainMove, here, flag, Bool.false_eq_true, if_true, if_false,
          Option.some.injEq, reduceCtorEq] at ran
      all_goals
        rw [← ran]
        constructor <;>
          simp [here, flag, MainAt.ending, MainAt.begun, MainAt.quiet, MainAt.outcome]
  | recover endpoint =>
      cases move <;> cases flag : s.running endpoint <;>
        simp only [mainMove, here, flag, Bool.false_eq_true, if_true, if_false,
          Option.some.injEq, reduceCtorEq] at ran
      · rw [← ran]
        constructor <;>
          simp [here, MainAt.ending, MainAt.begun, MainAt.quiet, MainAt.outcome]
      · rw [← ran]
        cases endpoint <;> constructor <;>
          simp [here, Launching.behind, IpcEndpoint.next, MainAt.ending, MainAt.begun,
            MainAt.quiet, MainAt.outcome]
  | closing why endpoint =>
      cases move <;> simp only [mainMove, here, Option.some.injEq, reduceCtorEq] at ran
      rw [← ran]
      cases why <;> constructor <;>
        simp [here, MainAt.ending, MainAt.begun, MainAt.quiet, MainAt.outcome, halted]
  | joining why endpoint =>
      cases move <;> simp only [mainMove, here, Option.some.injEq, reduceCtorEq] at ran
      rw [← ran]
      cases why <;> cases endpoint <;> constructor <;>
        simp [here, Closing.behind, MainAt.ending, MainAt.begun, MainAt.quiet, MainAt.outcome]
  | stop outcome =>
      cases move <;> simp only [mainMove, here, Option.some.injEq, reduceCtorEq] at ran
      rw [← ran]
      exact stopping_flags here (live (by rw [here]; rfl))
  | _ =>
      cases move <;> simp only [mainMove, here, Option.some.injEq, reduceCtorEq,
        Option.ite_none_right_eq_some, Option.ite_none_left_eq_some] at ran
      all_goals
        first
        | rw [← ran]
        | rw [← ran.2]
        constructor <;>
          simp [here, MainAt.ending, MainAt.begun, MainAt.quiet, MainAt.outcome,
            requestShutdown]

/-! ### Steps of the workers -/

/-- The restart requests whose worker is in front of its second step. -/
def restartsPending (s : HostThreads) : Nat :=
  s.workers.countP fun w => w.at_ = .restarting

inductive WorkerFlags (s after : HostThreads) : Prop
  | none (asked : after.asked = s.asked)
      (restart : after.restartRequested = s.restartRequested)
      (flag : after.shutdownRequested = s.shutdownRequested)
      (others : ∀ other ∈ after.workers, other.at_ = .restarting → other ∈ s.workers)
      (pending : after.restartsPending = s.restartsPending)
  | shutdown (asked : after.asked = s.asked ++ [.shutdown])
      (restart : after.restartRequested = s.restartRequested)
      (flag : after.shutdownRequested = true)
      (others : ∀ other ∈ after.workers, other.at_ = .restarting → other ∈ s.workers)
  | restart (asked : after.asked = s.asked ++ [.restart])
      (restart : after.restartRequested = true)
      (flag : after.shutdownRequested = s.shutdownRequested)
      (pending : after.restartsPending = s.restartsPending + 1)
  | restarting (listed : ∃ w ∈ s.workers, w.at_ = .restarting) (asked : after.asked = s.asked)
      (restart : after.restartRequested = s.restartRequested)
      (flag : after.shutdownRequested = true)
      (others : ∀ other ∈ after.workers, other.at_ = .restarting → other ∈ s.workers)

variable {index : Nat} {w : Worker}

theorem moved_restarting {changed : HostThreads} {next : WorkerAt}
    (workers : changed.workers = s.workers) (other : next ≠ .restarting) :
    ∀ one ∈ (changed.moved index w next).workers, one.at_ = .restarting → one ∈ s.workers := by
  intro one member restarting
  rcases List.mem_or_eq_of_mem_set member with old | same
  · exact workers ▸ old
  · rw [same] at restarting
    exact absurd restarting other

theorem moved_pending {changed : HostThreads} {next : WorkerAt}
    (found : s.workers[index]? = some w) (workers : changed.workers = s.workers)
    (calm : w.at_ ≠ .restarting) :
    (changed.moved index w next).restartsPending =
      s.restartsPending + if next = .restarting then 1 else 0 := by
  obtain ⟨inside, same⟩ := List.getElem?_eq_some_iff.mp found
  unfold restartsPending moved
  rw [workers, List.countP_set inside, same, if_neg (by simp [calm]), Nat.sub_zero]
  simp only [decide_eq_true_eq]

theorem left_pending (found : s.workers[index]? = some w) (calm : w.at_ ≠ .restarting) :
    HostThreads.restartsPending { s with workers := s.workers.eraseIdx index } =
      s.restartsPending := by
  obtain ⟨inside, same⟩ := List.getElem?_eq_some_iff.mp found
  have whole := (List.getElem_cons_eraseIdx_perm inside).countP_eq
    fun w : Worker => decide (w.at_ = .restarting)
  rw [same, List.countP_cons, if_neg (by simp [calm])] at whole
  exact whole

theorem WorkerFlags.goes {changed : HostThreads} {at_ next : WorkerAt} (here : w.at_ = at_)
    (found : s.workers[index]? = some w) (asked : changed.asked = s.asked)
    (restart : changed.restartRequested = s.restartRequested)
    (flag : changed.shutdownRequested = s.shutdownRequested)
    (workers : changed.workers = s.workers) (other : next ≠ .restarting)
    (calm : at_ ≠ .restarting := by simp) :
    WorkerFlags s (changed.moved index w next) := by
  refine .none asked restart flag (moved_restarting workers other) ?_
  rw [moved_pending found workers (here ▸ calm), if_neg other, Nat.add_zero]

theorem WorkerFlags.leaves {at_ : WorkerAt} (here : w.at_ = at_)
    (found : s.workers[index]? = some w) (calm : at_ ≠ .restarting := by simp) :
    WorkerFlags s { s with workers := s.workers.eraseIdx index } :=
  .none rfl rfl rfl (fun _ member _ => List.mem_of_mem_eraseIdx member)
    (left_pending found (here ▸ calm))

theorem workerReturned_ne_restarting (call : BackendCall) (result : Except Thrown Unit) :
    workerReturned call result ≠ .restarting := by
  cases call <;> cases result <;> simp [workerReturned]

theorem entered_flags {operation : IpcOperation} {payload : Bytes}
    (here : w.at_ = .handling operation payload) (found : s.workers[index]? = some w) :
    WorkerFlags s ((s.entered operation).moved index w operation.enter) := by
  cases operation with
  | shutdown =>
      exact .shutdown rfl rfl rfl (moved_restarting rfl (by simp [IpcOperation.enter]))
  | restart =>
      exact .restart rfl rfl rfl (moved_pending found rfl (by rw [here]; simp))
  | _ =>
      exact .goes here found rfl rfl rfl rfl (by simp [IpcOperation.enter])

theorem workerMove_flags {move : HandlerMove} (found : s.workers[index]? = some w)
    (ran : s.workerMove kind index w move = some after) : WorkerFlags s after := by
  cases here : w.at_ with
  | reading =>
      cases move <;> simp only [workerMove, here, Option.some.injEq, reduceCtorEq] at ran
      · rw [← ran]
        exact .goes here found rfl rfl rfl rfl (by simp)
      · rw [← ran]
        exact .leaves here found
  | handling operation payload =>
      cases move <;> simp only [workerMove, here, reduceCtorEq] at ran
      split at ran
      · rw [← Option.some.inj ran]
        exact .goes here found rfl rfl rfl rfl (by simp)
      · rw [← Option.some.inj ran]
        exact entered_flags here found
  | restarting =>
      cases move <;> simp only [workerMove, here, Option.some.injEq, reduceCtorEq] at ran
      rw [← ran]
      exact .restarting ⟨w, List.mem_of_getElem? found, here⟩ rfl rfl rfl
        (moved_restarting rfl (by simp))
  | calling call phase =>
      cases move <;> simp only [workerMove, here, Option.some.injEq, reduceCtorEq] at ran
      all_goals
        rw [← ran]
        unfold workerCalling
        split
        · exact .goes here found rfl rfl rfl rfl (by simp)
        · exact .goes here found rfl rfl rfl rfl (workerReturned_ne_restarting _ _)
  | mutexLock operation =>
      cases move <;> simp only [workerMove, here, Option.some.injEq, reduceCtorEq] at ran
      rw [← ran]
      exact .goes here found rfl rfl rfl rfl (by cases operation <;> simp)
  | replying result =>
      cases move <;> simp only [workerMove, here, Option.ite_none_right_eq_some,
        Option.some.injEq, reduceCtorEq] at ran
      · rw [← ran]
        exact .leaves here found
      · rw [← ran.2]
        exact .goes here found rfl rfl rfl rfl (by simp)
  | blocked =>
      cases move <;> simp only [workerMove, here, Option.some.injEq, reduceCtorEq] at ran
      rw [← ran]
      exact .leaves here found
  | _ =>
      cases move <;> simp only [workerMove, here, Option.ite_none_left_eq_some,
        Option.ite_none_right_eq_some, Option.some.injEq, reduceCtorEq] at ran
      all_goals
        first
        | rw [← ran]
        | rw [← ran.2]
        exact .goes here found rfl rfl rfl rfl (by simp)

/-! ### What is kept -/

/-- What the flags of a core say at any time. -/
structure Settled (s : HostThreads) : Prop where
  fresh : s.main = .start → s.backend = .stopped ∧ s.shutdownRequested = false ∧
    s.restartRequested = false
  ending : s.main.ending = true → s.shutdownRequested = true
  closed : s.main.begun = false → s.stopped = true
  finished : ∀ outcome, s.main = .finished outcome → s.backend = .stopped
  asked : .shutdown ∈ s.asked → s.shutdownRequested = true
  restart : s.restartRequested = true ↔ .restart ∈ s.asked
  restarting : ∀ w ∈ s.workers, w.at_ = .restarting → .restart ∈ s.asked
  pending : s.shutdownRequested = false → s.asked.count .restart = s.restartsPending
  quiet : s.main.quiet = true → s.shutdownRequested = true →
    .shutdown ∈ s.asked ∨ .restart ∈ s.asked
  returned : s.main = .returned → s.shutdownRequested = true
  outcome : ∀ outcome, s.main.outcome = some outcome → outcome.Asked s.asked

theorem Settled.mainMove {move : MainMove} (settled : s.Settled) (sound : s.Sound kind)
    (ran : s.mainMove kind move = some after) : after.Settled := by
  have flags := mainMove_flags (fun here => (settled.fresh here).1) sound.live ran
  have step := mainMove_step (fun outcome here => sound.live (by rw [here]; rfl)) ran
  -- The flag is reset only where nobody has asked yet.
  have keeps : s.shutdownRequested = true → after.shutdownRequested = true := by
    intro asked
    rcases flags.keeps asked with kept | here
    · exact kept
    · exact absurd ((settled.fresh here).2.1.symm.trans asked) Bool.false_ne_true
  have restarts : after.restartRequested = s.restartRequested := by
    rcases flags.restarts with same | ⟨here, reset⟩
    · exact same
    · rw [reset, (settled.fresh here).2.2]
  refine
    { fresh := fun here => absurd here step.left
      ending := ?_
      closed := ?_
      finished := flags.finished
      asked := fun asked => keeps (settled.asked (step.asked ▸ asked))
      restart := by rw [restarts, step.asked]; exact settled.restart
      restarting := by rw [step.workers, step.asked]; exact settled.restarting
      pending := ?_
      quiet := ?_
      returned := fun here => keeps (flags.returned here)
      outcome := ?_ }
  · intro ending
    rcases flags.ending ending with ⟨before, same⟩ | requested
    · rw [same]
      exact settled.ending before
    · exact requested
  · intro closed
    rcases flags.closed closed with ⟨before, same⟩ | stopped
    · rw [same]
      exact settled.closed before
    · exact stopped
  · intro unasked
    have before : s.shutdownRequested = false :=
      Bool.eq_false_of_not_eq_true fun asked => by rw [keeps asked] at unasked; cases unasked
    unfold restartsPending
    rw [step.asked, step.workers]
    exact settled.pending before
  · intro quiet requested
    obtain ⟨before, back⟩ := flags.quiet quiet
    rw [step.asked]
    exact settled.quiet before (back requested)
  · intro outcome heading
    rw [step.asked]
    rcases flags.outcome outcome heading with before | ⟨here, same⟩ | ⟨thrown, failed⟩
    · exact settled.outcome outcome before
    · have quiet : s.main.quiet = true := by
        rw [here]
        rfl
      have some := settled.quiet quiet (settled.returned here)
      rw [same]
      cases restarted : s.restartRequested with
      | true =>
          exact settled.restart.mp restarted
      | false =>
          refine some.resolve_right fun listed => ?_
          exact absurd (restarted.symm.trans (settled.restart.mpr listed)) Bool.false_ne_true
    · rcases failed with same | same
      · rw [same]
        trivial
      · rw [same]
        trivial

/-- What a step leaves as it was, with the backend of a core that is not running. -/
structure Keeps (s after : HostThreads) : Prop where
  main : after.main = s.main
  stopped : after.stopped = s.stopped
  fresh : s.main = .start → after.backend = .stopped
  finished : ∀ outcome, s.main = .finished outcome → after.backend = .stopped

theorem Settled.none (settled : s.Settled) (keeps : Keeps s after)
    (asked : after.asked = s.asked) (restart : after.restartRequested = s.restartRequested)
    (flag : after.shutdownRequested = s.shutdownRequested)
    (others : ∀ other ∈ after.workers, other.at_ = .restarting → other ∈ s.workers)
    (pending : after.restartsPending = s.restartsPending) : after.Settled where
  fresh := by
    rw [keeps.main, flag, restart]
    exact fun here => ⟨keeps.fresh here, (settled.fresh here).2⟩
  ending := by rw [keeps.main, flag]; exact settled.ending
  closed := by rw [keeps.main, keeps.stopped]; exact settled.closed
  finished := by rw [keeps.main]; exact keeps.finished
  asked := by rw [asked, flag]; exact settled.asked
  restart := by rw [restart, asked]; exact settled.restart
  restarting := by
    rw [asked]
    exact fun w member here => settled.restarting w (others w member here) here
  pending := by rw [flag, asked, pending]; exact settled.pending
  quiet := by rw [keeps.main, asked, flag]; exact settled.quiet
  returned := by rw [keeps.main, flag]; exact settled.returned
  outcome := by rw [keeps.main, asked]; exact settled.outcome

theorem Settled.workerMove {move : HandlerMove} (settled : s.Settled) (sound : s.Sound kind)
    (found : s.workers[index]? = some w) (ran : s.workerMove kind index w move = some after) :
    after.Settled := by
  have step := workerMove_step ran
  have member : w ∈ s.workers := List.mem_of_getElem? found
  -- A core without endpoints has no worker that could move.
  have busy : ¬ ∀ endpoint, s.main.idle endpoint = true := by
    intro idle
    rw [no_workers fun endpoint => sound.idle endpoint (idle endpoint)] at member
    exact absurd member List.not_mem_nil
  have begun : s.main ≠ .start := fun here => busy fun _ => by rw [here]; rfl
  have unfinished : ∀ outcome, s.main ≠ .finished outcome :=
    fun _ here => busy fun _ => by rw [here]; rfl
  have keeps : Keeps s after :=
    { main := step.main
      stopped := step.stopped
      fresh := fun here => absurd here begun
      finished := fun outcome here => absurd here (unfinished outcome) }
  cases workerMove_flags found ran with
  | none asked restart flag others pending =>
      exact settled.none keeps asked restart flag others pending
  | shutdown asked restart flag others =>
      exact
        { fresh := fun here => absurd (step.main ▸ here) begun
          ending := fun _ => flag
          closed := by rw [step.main, step.stopped]; exact settled.closed
          finished := fun outcome here => absurd (step.main ▸ here) (unfinished outcome)
          asked := fun _ => flag
          restart := by
            rw [restart, asked, settled.restart, List.mem_append, List.mem_singleton]
            exact ⟨.inl, fun listed => listed.resolve_right (by simp)⟩
          restarting := by
            intro other listed here
            rw [asked]
            exact List.mem_append.mpr
              (.inl (settled.restarting other (others other listed here) here))
          pending := fun unasked => by rw [flag] at unasked; cases unasked
          quiet := fun _ _ => .inl (by rw [asked]; exact List.mem_concat_self)
          returned := fun _ => flag
          outcome := by
            rw [step.main, asked]
            exact fun outcome heading => (settled.outcome outcome heading).more .shutdown }
  | restart asked restart flag pending =>
      have listed : IpcOperation.restart ∈ after.asked := by
        rw [asked]
        exact List.mem_concat_self
      exact
        { fresh := fun here => absurd (step.main ▸ here) begun
          ending := by rw [step.main, flag]; exact settled.ending
          closed := by rw [step.main, step.stopped]; exact settled.closed
          finished := fun outcome here => absurd (step.main ▸ here) (unfinished outcome)
          asked := by
            rw [asked, flag, List.mem_append, List.mem_singleton]
            exact fun shut => settled.asked (shut.resolve_right (by simp))
          restart := ⟨fun _ => listed, fun _ => restart⟩
          restarting := fun _ _ _ => listed
          pending := by
            rw [flag, asked, pending, List.count_append, List.count_singleton_self]
            exact fun unasked => congrArg (· + 1) (settled.pending unasked)
          quiet := fun _ _ => .inr listed
          returned := by rw [step.main, flag]; exact settled.returned
          outcome := by
            rw [step.main, asked]
            exact fun outcome heading => (settled.outcome outcome heading).more .restart }
  | restarting listed asked restart flag others =>
      obtain ⟨other, among, here⟩ := listed
      have listed := settled.restarting other among here
      exact
        { fresh := fun here => absurd (step.main ▸ here) begun
          ending := fun _ => flag
          closed := by rw [step.main, step.stopped]; exact settled.closed
          finished := fun outcome here => absurd (step.main ▸ here) (unfinished outcome)
          asked := fun _ => flag
          restart := by rw [restart, asked]; exact settled.restart
          restarting := fun _ _ _ => asked ▸ listed
          pending := fun unasked => by rw [flag] at unasked; cases unasked
          quiet := fun _ _ => .inr (asked ▸ listed)
          returned := fun _ => flag
          outcome := by rw [step.main, asked]; exact settled.outcome }

theorem Settled.perform {event : HostEvent} (settled : s.Settled) (sound : s.Sound kind)
    (ran : s.perform kind event = some after) : after.Settled := by
  have same : ∀ other ∈ s.workers, other.at_ = .restarting → other ∈ s.workers :=
    fun _ member _ => member
  have quiet : Keeps s s :=
    { main := rfl
      stopped := rfl
      fresh := fun here => (settled.fresh here).1
      finished := settled.finished }
  cases event with
  | main move =>
      obtain ⟨_, ran⟩ := Option.ite_none_right_eq_some.mp ran
      exact settled.mainMove sound ran
  | connect endpoint =>
      obtain ⟨_, made⟩ := Option.ite_none_right_eq_some.mp ran
      rw [← Option.some.inj made]
      refine settled.none { quiet with } rfl rfl rfl (fun other member here => ?_)
        (by simp [restartsPending])
      rcases List.mem_append.mp member with old | new
      · exact old
      · rw [List.mem_singleton.mp new] at here
        cases here
  | loopFails endpoint =>
      obtain ⟨_, made⟩ := Option.ite_none_right_eq_some.mp ran
      rw [← Option.some.inj made]
      exact settled.none { quiet with } rfl rfl rfl same rfl
  | loopEnds endpoint =>
      obtain ⟨_, made⟩ := Option.ite_none_right_eq_some.mp ran
      rw [← Option.some.inj made]
      exact settled.none { quiet with } rfl rfl rfl same rfl
  | worker index move =>
      obtain ⟨w, found, ran⟩ := Option.bind_eq_some_iff.mp ran
      obtain ⟨_, ran⟩ := Option.ite_none_right_eq_some.mp ran
      exact settled.workerMove sound found ran
  | backendFails =>
      obtain ⟨⟨running, _⟩, made⟩ := Option.ite_none_right_eq_some.mp ran
      rw [← Option.some.inj made]
      have other : s.backend ≠ .stopped := by
        rw [running]
        exact fun same => by cases same
      refine settled.none
        { main := rfl
          stopped := rfl
          fresh := fun here => absurd (settled.fresh here).1 other
          finished := fun outcome here => absurd (settled.finished outcome here) other }
        rfl rfl rfl same rfl

theorem Reached.settled (reached : Reached kind s) : s.Settled := by
  refine Transition.Reachable.invariant ?_ ?_ reached
  · intro state begins
    rw [begins]
    exact
      { fresh := fun _ => ⟨rfl, rfl, rfl⟩
        ending := fun ending => absurd ending Bool.false_ne_true
        closed := fun _ => rfl
        finished := fun _ here => by cases here
        asked := fun asked => absurd asked List.not_mem_nil
        restart :=
          ⟨fun flag => absurd flag Bool.false_ne_true,
            fun asked => absurd asked List.not_mem_nil⟩
        restarting := fun _ member => absurd member List.not_mem_nil
        pending := fun _ => rfl
        quiet := fun _ flag => absurd flag Bool.false_ne_true
        returned := fun here => by cases here
        outcome := fun _ heading => by cases heading }
  · intro state next before settled moved
    obtain ⟨event, ran⟩ := moved
    exact settled.perform (Reached.sound before) ran

end HostThreads

def coreAskedRun : List HostEvent :=
  coreStartRun ++
    [.connect .shutdown, .worker 0 (.request 6 []), .worker 0 .go, .worker 0 .leave]

def coreStopRun : List HostEvent :=
  List.replicate 7 (.main .go) ++ [.loopEnds .logs] ++ List.replicate 2 (.main .go) ++
    [.loopEnds .command] ++ List.replicate 2 (.main .go) ++ [.loopEnds .shutdown] ++
    List.replicate 5 (.main .go)

theorem coreStopRun_ends :
    (Transition.performAll (HostThreads.perform .winDivert) {} (coreAskedRun ++ coreStopRun)).map
      (fun s => (s.main, s.asked)) = some (.finished .shutdown, [.shutdown]) := by
  decide +kernel

/-- A core that has ended, however it did and whatever was under way: its endpoints have
no thread left, its backend is stopped, every mutex is free and its flags say so. -/
theorem coreHost_released (kind : BackendKind) (s : HostThreads)
    (reached : HostThreads.Reached kind s) (outcome : HostEnd)
    (finished : s.main = .finished outcome) :
    s.workers = [] ∧ (∀ endpoint, s.running endpoint = false ∧ s.looping endpoint = false) ∧
      s.backend = .stopped ∧ (∀ lock, s.holders kind lock = 0) ∧ s.stopped = true ∧
      s.shutdownRequested = true := by
  have settled := reached.settled
  have idle : ∀ endpoint, s.Idle endpoint :=
    fun endpoint => reached.sound.idle endpoint (by rw [finished]; rfl)
  have none := HostThreads.no_workers idle
  refine ⟨none, fun endpoint => ⟨(idle endpoint).running, (idle endpoint).looping⟩,
    settled.finished outcome finished, ?_, settled.closed (by rw [finished]; rfl),
    settled.ending (by rw [finished]; rfl)⟩
  intro lock
  unfold HostThreads.holders
  rw [none, finished]
  rfl

theorem coreHost_released_stopped : ∃ s : HostThreads, s.main = .finished .shutdown ∧
    s.workers = [] ∧ (∀ endpoint, s.running endpoint = false ∧ s.looping endpoint = false) ∧
      s.backend = .stopped ∧ (∀ lock, s.holders .winDivert lock = 0) ∧ s.stopped = true ∧
      s.shutdownRequested = true := by
  obtain ⟨s, ran, ends⟩ := Option.map_eq_some_iff.mp coreStopRun_ends
  obtain ⟨finished, _⟩ := Prod.mk.inj ends
  exact ⟨s, finished, coreHost_released .winDivert s (.run ran) .shutdown finished⟩

/-- A shutdown request that has been taken keeps the core stopping, and so does a restart
request whose worker is past its second step: while the core is not stopping, each of them
still has a worker in front of it.  A core does not end by itself: without an error only if
a shutdown was asked for, and for another start only if a restart was. -/
theorem coreHost_asked (kind : BackendKind) (s : HostThreads)
    (reached : HostThreads.Reached kind s) :
    (.shutdown ∈ s.asked → s.shutdownRequested = true) ∧
      (.restart ∈ s.asked → s.restartRequested = true) ∧
      (s.shutdownRequested = false → s.asked.count .restart = s.restartsPending) ∧
      ∀ outcome, s.main = .finished outcome → outcome.Asked s.asked := by
  have settled := reached.settled
  refine ⟨settled.asked, settled.restart.mpr, settled.pending, fun outcome finished => ?_⟩
  exact settled.outcome outcome (by rw [finished]; rfl)

/-- Two clients have asked for a restart; one worker is past its second step. -/
def coreRestartsRun : List HostEvent :=
  coreStartRun ++
    [.connect .command, .connect .command, .worker 0 (.request 9 []), .worker 0 .go,
      .worker 1 (.request 9 []), .worker 1 .go, .worker 0 .go]

theorem coreHost_asked_restarts : ∃ s : HostThreads, s.asked = [.restart, .restart] ∧
    s.restartsPending = 1 ∧ s.restartRequested = true ∧ s.shutdownRequested = true := by
  have runs : (Transition.performAll (HostThreads.perform .winDivert) {} coreRestartsRun).map
      (fun s => (s.asked, s.restartsPending)) = some ([.restart, .restart], 1) := by
    decide +kernel
  obtain ⟨s, ran, ends⟩ := Option.map_eq_some_iff.mp runs
  obtain ⟨asked, pending⟩ := Prod.mk.inj ends
  obtain ⟨_, restarts, waiting, _⟩ := coreHost_asked .winDivert s (.run ran)
  refine ⟨s, asked, pending, restarts (by rw [asked]; decide), ?_⟩
  refine Bool.eq_true_of_not_eq_false fun unasked => ?_
  have counted := waiting unasked
  rw [asked, pending] at counted
  cases counted

end NativeDNS
