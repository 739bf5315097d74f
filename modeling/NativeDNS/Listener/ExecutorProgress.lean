/-
What becomes of a job of the bounded executor.

In a run in which every thread gets the processor and every job ends, each
accepted job is called, unless a stop discards it from the queue.
-/
import NativeDNS.Listener.ExecutorThreads

namespace NativeDNS

variable {job : Type} {world after : ExecutorWorld job}

/-! ### Threads that can go on -/

theorem WorkerStep.possible {index : Nat} {phase : ExecutorWorker job}
    (found : world.workers[index]? = some phase) (up : phase.Up) :
    ∃ after, WorkerStep index world after := by
  cases phase with
  | entering =>
      cases queue : world.jobs with
      | nil =>
          cases stops : world.stopping with
          | false => exact ⟨_, .sleep found stops queue⟩
          | true => exact ⟨_, .leave found stops queue⟩
      | cons queued rest =>
          exact ⟨_, .take found queue⟩
  | waiting => exact up.elim
  | holding queued => exact ⟨_, .call found⟩
  | running queued => exact ⟨_, .finish found⟩
  | exited => exact up.elim

theorem WorkerStep.up {index : Nat} (moved : WorkerStep index world after) :
    ∃ phase, world.workers[index]? = some phase ∧ phase.Up := by
  cases moved with
  | take enters first => exact ⟨_, enters, trivial⟩
  | leave enters stops empty => exact ⟨_, enters, trivial⟩
  | sleep enters runs empty => exact ⟨_, enters, trivial⟩
  | call holds => exact ⟨_, holds, trivial⟩
  | finish runs => exact ⟨_, runs, trivial⟩

theorem WorkerStep.other {index other : Nat} (moved : WorkerStep index world after)
    (differs : index ≠ other) : after.workers[other]? = world.workers[other]? := by
  cases moved with
  | take enters first => exact List.getElem?_set_ne differs
  | leave enters stops empty => exact List.getElem?_set_ne differs
  | sleep enters runs empty => exact List.getElem?_set_ne differs
  | call holds => exact List.getElem?_set_ne differs
  | finish runs => exact List.getElem?_set_ne differs

theorem woken_other {workers : List (ExecutorWorker job)} {index other : Nat}
    {phase : ExecutorWorker job} (waits : workers[index]? = some .waiting)
    (found : workers[other]? = some phase) (up : phase.Up) :
    (workers.set index .entering)[other]? = some phase := by
  by_cases same : index = other
  · rw [same, found] at waits
    cases waits
    exact up.elim
  · rw [List.getElem?_set_ne same]
    exact found

theorem ExecutorStep.lasts {event : ExecutorEvent job} {index : Nat}
    {phase : ExecutorWorker job} (moved : ExecutorStep event world after)
    (found : world.workers[index]? = some phase) (up : phase.Up) :
    after.workers[index]? = some phase ∨ WorkerStep index world after := by
  have occupied (idle : world.workers = []) : False := by
    rw [idle] at found
    cases found
  cases moved with
  | thread moved =>
      rename_i other
      by_cases same : other = index
      · rw [same] at moved
        exact .inr moved
      · rw [moved.other same]
        exact .inl found
  | wake waits =>
      exact .inl (woken_other waits found up)
  | submit item accepts notified =>
      cases notified with
      | wakes waits => exact .inl (woken_other waits found up)
      | nobody awake => exact .inl found
  | start positive unowned idle =>
      exact (occupied idle).elim
  | startFails positive unowned idle short =>
      exact (occupied idle).elim
  | stop calls =>
      exact .inl found
  | notify stops =>
      refine .inl ?_
      rw [List.getElem?_map, found]
      cases phase with
      | waiting => exact up.elim
      | entering => rfl
      | holding _ => rfl
      | running _ => rfl
      | exited => rfl
  | join stops ended =>
      rw [ended phase (List.mem_of_getElem? found)] at up
      exact up.elim

/-! ### A queued job -/

/-- How many steps of a thread lie before its next look at the queue. -/
def ExecutorWorker.rank : ExecutorWorker job → Nat
  | .entering | .exited => 0
  | .waiting | .running _ => 1
  | .holding _ => 2

/-- What must happen before a queued job is taken. -/
def ExecutorWorld.ahead (world : ExecutorWorld job) (number : Nat) : Nat :=
  3 * world.queued.countP (decide <| · < number) +
    (world.workers.map ExecutorWorker.rank).sum

theorem nearer {workers : List (ExecutorWorker job)} {index : Nat}
    {old : ExecutorWorker job} (found : workers[index]? = some old)
    (phase : ExecutorWorker job) (falls : phase.rank < old.rank) :
    ((workers.set index phase).map ExecutorWorker.rank).sum <
      (workers.map ExecutorWorker.rank).sum := by
  have changed := Lists.sum_map_set ExecutorWorker.rank found phase
  omega

theorem NotifiedOne.rank {workers notified : List (ExecutorWorker job)}
    (signalled : NotifiedOne workers notified) :
    (notified.map ExecutorWorker.rank).sum ≤
      (workers.map ExecutorWorker.rank).sum := by
  cases signalled with
  | wakes waits =>
      exact Nat.le_of_lt (nearer waits .entering (Nat.lt_succ_self 0))
  | nobody awake =>
      exact Nat.le_refl _

theorem WorkerStep.queued {index number : Nat} (invariant : ExecutorInvariant world)
    (moved : WorkerStep index world after) (waits : number ∈ world.queued) :
    number ∈ after.taken ∨
      (number ∈ after.queued ∧ after.ahead number < world.ahead number) := by
  have nonempty (empty : world.jobs = []) : False := by
    rw [ExecutorWorld.queued, empty] at waits
    cases waits
  cases moved with
  | @take queued rest enters first =>
      have queue : world.queued = queued.number :: rest.map (·.number) := by
        rw [ExecutorWorld.queued, first, List.map_cons]
      rw [queue] at waits
      rcases List.mem_cons.mp waits with this | later
      · rw [this]
        exact .inl (List.mem_append_right _ (List.mem_singleton_self _))
      · have ordered := (List.pairwise_append.mp invariant.ledger.ordered).2.1
        rw [queue] at ordered
        have before := (List.pairwise_cons.mp ordered).1 number later
        have toil := Lists.sum_map_set ExecutorWorker.rank enters
          (.holding queued)
        refine .inr ⟨later, ?_⟩
        change 3 * (rest.map (·.number)).countP (decide <| · < number) +
          ((world.workers.set index (.holding queued)).map ExecutorWorker.rank).sum < _
        have counted : (queued.number :: rest.map (·.number)).countP
            (decide <| · < number) =
              (rest.map (·.number)).countP (decide <| · < number) + 1 :=
          List.countP_cons_of_pos (decide_eq_true before)
        rw [ExecutorWorld.ahead, queue, counted]
        simp only [ExecutorWorker.rank] at toil
        omega
  | leave enters stops empty =>
      exact (nonempty empty).elim
  | sleep enters runs empty =>
      exact (nonempty empty).elim
  | @call queued holds =>
      have nearer := nearer holds (.running queued) (Nat.lt_succ_self 1)
      exact .inr ⟨waits, Nat.add_lt_add_left nearer _⟩
  | finish runs =>
      have nearer := nearer runs .entering (Nat.lt_succ_self 0)
      exact .inr ⟨waits, Nat.add_lt_add_left nearer _⟩

/-- Whatever else happens, the job waits on, no further from the front, unless a
stop discards it. -/
theorem ExecutorStep.queued {event : ExecutorEvent job} {number : Nat}
    (invariant : ExecutorInvariant world) (moved : ExecutorStep event world after)
    (waits : number ∈ world.queued) :
    (number ∈ after.taken ∨ number ∈ after.discarded) ∨
      (number ∈ after.queued ∧ after.ahead number ≤ world.ahead number) := by
  have runs : world.stopping = false := by
    cases stops : world.stopping with
    | false => rfl
    | true =>
        rw [ExecutorWorld.queued, invariant.threads.stopped stops] at waits
        cases waits
  cases moved with
  | thread moved =>
      rcases moved.queued invariant waits with taken | ⟨still, nearer⟩
      · exact .inl (.inl taken)
      · exact .inr ⟨still, Nat.le_of_lt nearer⟩
  | wake sleeps =>
      have nearer := nearer sleeps .entering (Nat.lt_succ_self 0)
      exact .inr ⟨waits, Nat.le_of_lt (Nat.add_lt_add_left nearer _)⟩
  | submit item accepts notified =>
      have known : number < world.accepted.length :=
        List.mem_range.mp (invariant.ledger.once.subset (List.mem_append_left _
          (List.mem_append_right _ waits)))
      have behind : ¬ decide (world.accepted.length < number) = true := by
        rw [decide_eq_true_eq]
        omega
      have grown (last : QueuedJob job) : (world.jobs ++ [last]).map (·.number) =
          world.queued ++ [last.number] :=
        List.map_append
      refine .inr ⟨?_, ?_⟩
      · rw [ExecutorWorld.queued, grown]
        exact List.mem_append_left _ waits
      · rw [ExecutorWorld.ahead, ExecutorWorld.queued, grown, List.countP_append,
          List.countP_singleton, if_neg behind]
        exact Nat.add_le_add_left notified.rank _
  | start positive unowned idle =>
      exact absurd idle (invariant.threads.staffed runs)
  | startFails positive unowned idle short =>
      exact absurd idle (invariant.threads.staffed runs)
  | stop calls =>
      exact .inl (.inr (List.mem_append_right _ waits))
  | notify stops =>
      cases stops.symm.trans (invariant.threads.owned runs)
  | join stops ended =>
      cases stops.symm.trans (invariant.threads.owned runs)

/-! ### Fair runs -/

/-- Any run of the executor; between its steps time may pass. -/
structure ExecutorRun (run : Nat → ExecutorWorld job) : Prop where
  begins : ExecutorReached (run 0)
  moves : ∀ time, run (time + 1) = run time ∨
    ∃ event, ExecutorStep event (run time) (run (time + 1))

/-- Every thread that can go on does so in time; so a job that runs ends. -/
def ThreadsRun (run : Nat → ExecutorWorld job) : Prop :=
  ∀ index, Response.Fair (WorkerStep index) run

section Runs

variable {run : Nat → ExecutorWorld job}

theorem ExecutorRun.reached (runs : ExecutorRun run) (time : Nat) :
    ExecutorReached (run time) := by
  induction time with
  | zero =>
      exact runs.begins
  | succ time ih =>
      rcases runs.moves time with same | moved
      · rw [same]
        exact ih
      · exact .next ih moved

theorem ExecutorRun.lasts (runs : ExecutorRun run) {time index : Nat}
    {phase : ExecutorWorker job} (found : (run time).workers[index]? = some phase)
    (up : phase.Up) : (run (time + 1)).workers[index]? = some phase ∨
      WorkerStep index (run time) (run (time + 1)) := by
  rcases runs.moves time with same | ⟨event, moved⟩
  · rw [same]
    exact .inl found
  · exact moved.lasts found up

theorem ThreadsRun.together (fair : ThreadsRun run) (runs : ExecutorRun run) :
    Response.Fair (fun before after => ∃ index, WorkerStep index before after)
      run := by
  refine Response.Fair.union fair ?_
  intro time index possible
  obtain ⟨_, moved⟩ := possible
  obtain ⟨phase, found, up⟩ := moved.up
  rcases runs.lasts found up with still | moved
  · exact .inl (WorkerStep.possible still up)
  · exact .inr ⟨index, moved⟩

theorem ExecutorRun.queued (runs : ExecutorRun run) (number : Nat) :
    Response.Answers (fun before after => ∃ index, WorkerStep index before after)
      (fun world => number ∈ world.queued)
      (fun world => number ∈ world.taken ∨ number ∈ world.discarded)
      (·.ahead number) run :=
  { possible := by
      intro time waits
      have nonempty : (run time).jobs ≠ [] := by
        intro empty
        rw [ExecutorWorld.queued, empty] at waits
        cases waits
      obtain ⟨phase, member, up⟩ := (runs.reached time).invariant.threads.awake nonempty
      obtain ⟨index, found⟩ := List.getElem?_of_mem member
      obtain ⟨after, moved⟩ := WorkerStep.possible found up
      exact ⟨after, index, moved⟩
    keeps := by
      intro time waits
      rcases runs.moves time with same | ⟨event, moved⟩
      · rw [same]
        exact .inr ⟨waits, Nat.le_refl _⟩
      · exact moved.queued (runs.reached time).invariant waits
    helps := by
      intro time waits moved
      obtain ⟨index, moved⟩ := moved
      rcases moved.queued (runs.reached time).invariant waits with taken | nearer
      · exact .inl (.inl taken)
      · exact .inr nearer.2 }

theorem WorkerStep.calls {index : Nat} {queued : QueuedJob job}
    (moved : WorkerStep index world after)
    (holds : world.workers[index]? = some (.holding queued)) :
    queued.number ∈ after.called := by
  cases moved with
  | take enters first => cases enters.symm.trans holds
  | leave enters stops empty => cases enters.symm.trans holds
  | sleep enters runs empty => cases enters.symm.trans holds
  | call found =>
      cases found.symm.trans holds
      exact List.mem_append_right _ (List.mem_singleton_self _)
  | finish runs => cases runs.symm.trans holds

theorem ExecutorRun.held (runs : ExecutorRun run) (index : Nat)
    (queued : QueuedJob job) :
    Response.Answers (WorkerStep index)
      (fun world => world.workers[index]? = some (.holding queued))
      (fun world => queued.number ∈ world.called) (fun _ => 0) run :=
  { possible := fun _ holds => WorkerStep.possible holds trivial
    keeps := by
      intro time holds
      rcases runs.lasts holds trivial with still | moved
      · exact .inr ⟨still, Nat.le_refl _⟩
      · exact .inl (moved.calls holds)
    helps := fun _ holds moved => .inl (moved.calls holds) }

theorem ExecutorRun.served (runs : ExecutorRun run) (fair : ThreadsRun run)
    {time number : Nat} (accepted : number < (run time).accepted.length) :
    ∃ later, time ≤ later ∧
      (number ∈ (run later).called ∨ number ∈ (run later).discarded) := by
  have settled : ∃ later, time ≤ later ∧
      (number ∈ (run later).taken ∨ number ∈ (run later).discarded) := by
    have once := (runs.reached time).invariant.ledger.once
    have member := once.symm.subset (List.mem_range.mpr accepted)
    rcases List.mem_append.mp member with member | discarded
    · rcases List.mem_append.mp member with taken | queued
      · exact ⟨time, Nat.le_refl _, .inl taken⟩
      · exact (runs.queued number).eventually (fair.together runs) queued
    · exact ⟨time, Nat.le_refl _, .inr discarded⟩
  obtain ⟨middle, after, outcome⟩ := settled
  rcases outcome with taken | discarded
  · have called := (runs.reached middle).invariant.ledger.called
    rcases List.mem_append.mp (called.symm.subset taken) with called | held
    · exact ⟨middle, after, .inl called⟩
    · obtain ⟨phase, member, holds⟩ := List.mem_filterMap.mp held
      cases phase with
      | holding queued =>
          cases holds
          obtain ⟨index, found⟩ := List.getElem?_of_mem member
          obtain ⟨later, behind, called⟩ :=
            (runs.held index queued).eventually (fair index) found
          exact ⟨later, Nat.le_trans after behind, .inl called⟩
      | entering => cases holds
      | waiting => cases holds
      | running _ => cases holds
      | exited => cases holds
  · exact ⟨middle, after, .inr discarded⟩

end Runs

/-! ### The executor that the listeners use -/

/-- What `Executor` keeps of the threads. -/
def ExecutorWorld.coarse (world : ExecutorWorld job) : Executor job :=
  { stopping := world.stopping
    capacity := world.capacity
    jobs := world.jobs.map (·.item)
    threads := world.workers.map fun phase => phase.work.map (·.item) }

theorem coarse_withWorker (world : ExecutorWorld job) (index : Nat)
    (phase : ExecutorWorker job) :
    (world.withWorker index phase).coarse =
      { world.coarse with
        threads := world.coarse.threads.set index (phase.work.map (·.item)) } := by
  rw [ExecutorWorld.coarse, ExecutorWorld.withWorker, List.map_set]
  rfl

theorem coarse_idle {index : Nat} {old phase : ExecutorWorker job}
    (found : world.workers[index]? = some old)
    (idle : old.work = none ∧ phase.work = none) :
    (world.withWorker index phase).coarse = world.coarse := by
  have here : world.coarse.threads[index]? = some (phase.work.map (·.item)) := by
    rw [ExecutorWorld.coarse, List.getElem?_map, found, idle.2, Option.map_some,
      idle.1]
  obtain ⟨inside, same⟩ := List.getElem?_eq_some_iff.mp here
  rw [coarse_withWorker, ← same, List.set_getElem_self]

/-- A step of a thread is a `take`, a `finish` or nothing for `Executor`. -/
theorem WorkerStep.coarse {index : Nat} (moved : WorkerStep index world after) :
    after.coarse = world.coarse ∨ world.coarse.take index = some after.coarse ∨
      ∃ item, world.coarse.finish index = some (item, after.coarse) := by
  have thread (phase : ExecutorWorker job)
      (found : world.workers[index]? = some phase) :
      world.coarse.threads[index]? = some (phase.work.map (·.item)) := by
    rw [ExecutorWorld.coarse, List.getElem?_map, found, Option.map_some]
  cases moved with
  | @take queued rest enters first =>
      refine .inr (.inl ?_)
      have queue : world.coarse.jobs = queued.item :: rest.map (·.item) := by
        rw [ExecutorWorld.coarse, first, List.map_cons]
      rw [Executor.take, thread _ enters, queue]
      change _ = some { (world.withWorker index (.holding queued)).coarse with
        jobs := rest.map QueuedJob.item }
      rw [coarse_withWorker]
      rfl
  | leave enters stops empty => exact .inl (coarse_idle enters ⟨rfl, rfl⟩)
  | sleep enters runs empty => exact .inl (coarse_idle enters ⟨rfl, rfl⟩)
  | @call queued holds =>
      obtain ⟨inside, same⟩ := List.getElem?_eq_some_iff.mp (thread _ holds)
      refine .inl ((coarse_withWorker world index (.running queued)).trans ?_)
      simp only [ExecutorWorker.work] at same ⊢
      rw [← same, List.set_getElem_self]
  | @finish queued runs =>
      refine .inr (.inr ⟨queued.item, ?_⟩)
      rw [Executor.finish, thread _ runs, coarse_withWorker]
      rfl

theorem NotifiedOne.coarse {workers notified : List (ExecutorWorker job)}
    (signalled : NotifiedOne workers notified) :
    notified.map (fun phase => phase.work.map (·.item)) =
      workers.map (fun phase => phase.work.map (·.item)) := by
  cases signalled with
  | wakes waits =>
      have same := @coarse_idle job { workers := workers } _ _ .entering waits
        ⟨rfl, rfl⟩
      exact congrArg Executor.threads same
  | nobody awake => rfl

theorem ExecutorStep.coarse_submit {item : job}
    (moved : ExecutorStep (.submit item) world after) :
    world.coarse.submit item = some after.coarse := by
  cases moved with
  | submit _ accepts notified =>
      obtain ⟨runs, staffed, room⟩ := ExecutorWorld.accepts accepts
      have admits : ¬ (world.coarse.stopping = true ∨ world.coarse.threads = [] ∨
          world.coarse.capacity ≤ world.coarse.jobs.length) := by
        simp only [ExecutorWorld.coarse, List.map_eq_nil_iff, List.length_map, runs]
        simp only [Bool.false_eq_true, staffed, false_or, Nat.not_le]
        exact room
      rw [Executor.submit, if_neg admits]
      simp only [ExecutorWorld.coarse, List.map_append, List.map_singleton,
        notified.coarse]

/-! ### Exactly once -/

/-- What the executor promises about the jobs it accepts. -/
structure ExecutorFacts (world : ExecutorWorld job) : Prop where
  /-- Jobs are taken in the order of their acceptance. -/
  ordered : (world.taken ++ world.queued).Pairwise (· < ·)
  once : (world.taken ++ world.queued ++ world.discarded).Perm
    (List.range world.accepted.length)
  /-- A job that is taken is called once, unless its thread has yet to. -/
  called : (world.called ++ world.held).Perm world.taken
  carried : ∀ phase ∈ world.workers, ∀ queued, phase.work = some queued →
    world.accepted[queued.number]? = some queued.item
  within : world.jobs.length ≤ world.capacity
  refused : world.refuses = true ↔
    world.stopping = true ∨ world.jobs.length = world.capacity
  discards : ∀ event after, ExecutorStep event world after →
    after.discarded = world.discarded ∨
      (event = .stop ∧ after.discarded = world.discarded ++ world.queued ∧
        after.jobs = [] ∧ after.stopping = true)
  halted : world.stopping = true → ∀ event after, ExecutorStep event world after →
    after.taken = world.taken ∧ (after.stopping = true ∨
      ∃ workers capacity, event = .start workers capacity)
  served : ∀ run, run 0 = world →
    (∀ time, run (time + 1) = run time ∨
      ∃ event, ExecutorStep event (run time) (run (time + 1))) →
    ThreadsRun run → ∀ time number, number < (run time).accepted.length →
      ∃ later, time ≤ later ∧
        (number ∈ (run later).called ∨ number ∈ (run later).discarded)

theorem ExecutorThreads.refused (threads : ExecutorThreads world) :
    world.refuses = true ↔
      world.stopping = true ∨ world.jobs.length = world.capacity := by
  cases runs : world.stopping with
  | true =>
      rw [ExecutorWorld.refuses, runs]
      simp
  | false =>
      have within := threads.within
      have staffed : world.workers.isEmpty = false :=
        List.isEmpty_eq_false_iff.mpr (threads.staffed runs)
      rw [ExecutorWorld.refuses, runs, staffed, Bool.false_or, Bool.false_or,
        decide_eq_true_eq]
      simp only [Bool.false_eq_true, false_or]
      omega

theorem ExecutorStep.discards {event : ExecutorEvent job}
    (moved : ExecutorStep event world after) :
    after.discarded = world.discarded ∨
      (event = .stop ∧ after.discarded = world.discarded ++ world.queued ∧
        after.jobs = [] ∧ after.stopping = true) := by
  cases moved with
  | thread moved =>
      left
      cases moved with
      | take enters first => rfl
      | leave enters stops empty => rfl
      | sleep enters runs empty => rfl
      | call holds => rfl
      | finish runs => rfl
  | wake waits => exact .inl rfl
  | submit item accepts notified => exact .inl rfl
  | start positive unowned idle => exact .inl rfl
  | startFails positive unowned idle short => exact .inl rfl
  | stop calls => exact .inr ⟨rfl, rfl, rfl, rfl⟩
  | notify stops => exact .inl rfl
  | join stops ended => exact .inl rfl

theorem ExecutorStep.halted {event : ExecutorEvent job}
    (threads : ExecutorThreads world) (stops : world.stopping = true)
    (moved : ExecutorStep event world after) :
    after.taken = world.taken ∧ (after.stopping = true ∨
      ∃ workers capacity, event = .start workers capacity) := by
  cases moved with
  | thread moved =>
      cases moved with
      | take enters first =>
          have empty := threads.stopped stops
          rw [first] at empty
          cases empty
      | leave enters _ empty => exact ⟨rfl, .inl stops⟩
      | sleep enters runs empty => exact ⟨rfl, .inl stops⟩
      | call holds => exact ⟨rfl, .inl stops⟩
      | finish runs => exact ⟨rfl, .inl stops⟩
  | wake waits => exact ⟨rfl, .inl stops⟩
  | submit item accepts notified =>
      cases stops.symm.trans (ExecutorWorld.accepts accepts).1
  | start positive unowned idle => exact ⟨rfl, .inr ⟨_, _, rfl⟩⟩
  | startFails positive unowned idle short => exact ⟨rfl, .inl rfl⟩
  | stop calls => exact ⟨rfl, .inl rfl⟩
  | notify _ => exact ⟨rfl, .inl stops⟩
  | join _ ended => exact ⟨rfl, .inl stops⟩

theorem boundedExecutor_exact {world : ExecutorWorld job}
    (reached : ExecutorReached world) : ExecutorFacts world :=
  { ordered := reached.invariant.ledger.ordered
    once := reached.invariant.ledger.once
    called := reached.invariant.ledger.called
    carried := reached.invariant.ledger.carried
    within := reached.invariant.threads.within
    refused := reached.invariant.threads.refused
    discards := fun _ _ moved => moved.discards
    halted := fun stops _ _ moved => moved.halted reached.invariant.threads stops
    served := by
      intro run begins moves fair time number accepted
      have runs : ExecutorRun run := { begins := begins ▸ reached, moves := moves }
      exact runs.served fair accepted }

def heldJobs : ExecutorWorld Unit :=
  { stopping := false
    capacity := 2
    workers := [.holding ⟨0, ()⟩, .holding ⟨1, ()⟩]
    accepted := [(), ()]
    taken := [0, 1] }

theorem heldJobs_reached : ExecutorReached heldJobs := by
  have started : ExecutorReached
      { stopping := false, capacity := 2, workers := [.entering, .entering] } :=
    .next (.start rfl) ⟨_, @ExecutorStep.start Unit {} 2 2 ⟨by decide, by decide⟩
      rfl rfl⟩
  have first : ExecutorReached
      { stopping := false, capacity := 2, workers := [.entering, .entering],
        jobs := [⟨0, ()⟩], accepted := [()] } :=
    .next started ⟨_, .submit () rfl (.nobody (by simp))⟩
  have second : ExecutorReached
      { stopping := false, capacity := 2, workers := [.entering, .entering],
        jobs := [⟨0, ()⟩, ⟨1, ()⟩], accepted := [(), ()] } :=
    .next first ⟨_, .submit () rfl (.nobody (by simp))⟩
  have taken : ExecutorReached
      { stopping := false, capacity := 2,
        workers := [.holding ⟨0, ()⟩, .entering], jobs := [⟨1, ()⟩],
        accepted := [(), ()], taken := [0] } :=
    .next second ⟨_, .thread (@WorkerStep.take Unit 0 _ ⟨0, ()⟩ _ rfl rfl)⟩
  exact .next taken ⟨_, .thread (@WorkerStep.take Unit 1 _ ⟨1, ()⟩ _ rfl rfl)⟩

theorem boundedExecutor_heldJobs : ExecutorFacts heldJobs :=
  boundedExecutor_exact heldJobs_reached

/-- The calls lie outside the lock: they may come in another order, and a stop may
come before them. -/
theorem boundedExecutor_lateCall :
    ¬ (∀ world : ExecutorWorld Unit, ExecutorReached world →
      world.called.Pairwise (· < ·)) ∧
    ¬ (∀ (world after : ExecutorWorld Unit) event, ExecutorReached world →
      world.stopping = true → ExecutorStep event world after →
        after.called = world.called) := by
  constructor
  · intro ordered
    have second := Transition.Reachable.next heldJobs_reached
      ⟨_, .thread (@WorkerStep.call Unit 1 _ ⟨1, ()⟩ rfl)⟩
    have first := Transition.Reachable.next second
      ⟨_, .thread (@WorkerStep.call Unit 0 _ ⟨0, ()⟩ rfl)⟩
    have reversed : [1, 0].Pairwise (· < ·) := ordered _ first
    exact absurd reversed (by decide)
  · intro halted
    have stopped := Transition.Reachable.next heldJobs_reached ⟨_, .stop (.inl rfl)⟩
    have same := halted _ _ _ stopped rfl
      (.thread (@WorkerStep.call Unit 0 _ ⟨0, ()⟩ rfl))
    cases same

end NativeDNS
