/-
The threads of the bounded executor.

Each locked section is one step, and so are the call of a job, its end, a
notification outside the lock and a wake-up for no reason.  One owner starts and
stops the executor; any threads submit.

A job has the number of its acceptance.  `accepted`, `taken`, `called` and
`discarded` record what became of the jobs; the code does not keep them.
-/
import NativeDNS.Library.Lists
import NativeDNS.Library.Response
import NativeDNS.Library.Transition
import NativeDNS.Listener.Executor

namespace NativeDNS

structure QueuedJob (job : Type) where
  number : Nat
  item : job

inductive ExecutorWorker (job : Type) where
  | entering
  | waiting
  /-- The job is out of the queue and not yet called. -/
  | holding (queued : QueuedJob job)
  | running (queued : QueuedJob job)
  | exited

inductive ExecutorOwner where
  | free
  /-- `start` could not make all threads. -/
  | failed
  | notifying
  | joining

structure ExecutorWorld (job : Type) where
  stopping : Bool := true
  capacity : Nat := 0
  jobs : List (QueuedJob job) := []
  workers : List (ExecutorWorker job) := []
  owner : ExecutorOwner := .free
  accepted : List job := []
  taken : List Nat := []
  called : List Nat := []
  discarded : List Nat := []

section Steps

variable {job : Type}

namespace ExecutorWorker

def Up : ExecutorWorker job → Prop
  | .waiting | .exited => False
  | _ => True

def held : ExecutorWorker job → Option Nat
  | .holding queued => some queued.number
  | _ => none

def work : ExecutorWorker job → Option (QueuedJob job)
  | .holding queued | .running queued => some queued
  | _ => none

/-- What `notify_all` makes of a thread. -/
def notified : ExecutorWorker job → ExecutorWorker job
  | .waiting => .entering
  | phase => phase

end ExecutorWorker

namespace ExecutorWorld

def queued (world : ExecutorWorld job) : List Nat :=
  world.jobs.map (·.number)

def held (world : ExecutorWorld job) : List Nat :=
  world.workers.filterMap ExecutorWorker.held

/-- The test of `submit`. -/
def refuses (world : ExecutorWorld job) : Bool :=
  world.stopping || world.workers.isEmpty ||
    decide (world.capacity ≤ world.jobs.length)

def withWorker (world : ExecutorWorld job) (index : Nat)
    (phase : ExecutorWorker job) : ExecutorWorld job :=
  { world with workers := world.workers.set index phase }

end ExecutorWorld

inductive NotifiedOne :
    List (ExecutorWorker job) → List (ExecutorWorker job) → Prop
  | wakes {workers : List (ExecutorWorker job)} {index : Nat}
      (waits : workers[index]? = some .waiting) :
      NotifiedOne workers (workers.set index .entering)
  | nobody {workers : List (ExecutorWorker job)}
      (awake : .waiting ∉ workers) : NotifiedOne workers workers

inductive WorkerStep (index : Nat) : ExecutorWorld job → ExecutorWorld job → Prop
  | take {world : ExecutorWorld job} {queued : QueuedJob job}
      {rest : List (QueuedJob job)}
      (enters : world.workers[index]? = some .entering)
      (first : world.jobs = queued :: rest) :
      WorkerStep index world { world.withWorker index (.holding queued) with
        jobs := rest
        taken := world.taken ++ [queued.number] }
  | leave {world : ExecutorWorld job}
      (enters : world.workers[index]? = some .entering)
      (stops : world.stopping = true) (empty : world.jobs = []) :
      WorkerStep index world (world.withWorker index .exited)
  | sleep {world : ExecutorWorld job}
      (enters : world.workers[index]? = some .entering)
      (runs : world.stopping = false) (empty : world.jobs = []) :
      WorkerStep index world (world.withWorker index .waiting)
  | call {world : ExecutorWorld job} {queued : QueuedJob job}
      (holds : world.workers[index]? = some (.holding queued)) :
      WorkerStep index world { world.withWorker index (.running queued) with
        called := world.called ++ [queued.number] }
  /-- The job returns, or throws. -/
  | finish {world : ExecutorWorld job} {queued : QueuedJob job}
      (runs : world.workers[index]? = some (.running queued)) :
      WorkerStep index world (world.withWorker index .entering)

inductive ExecutorEvent (job : Type) where
  | thread (index : Nat)
  | wake (index : Nat)
  | submit (item : job)
  | start (workers capacity : Nat)
  | startFails
  | stop
  | notify
  | join

inductive ExecutorStep :
    ExecutorEvent job → ExecutorWorld job → ExecutorWorld job → Prop
  | thread {world after : ExecutorWorld job} {index : Nat}
      (moved : WorkerStep index world after) :
      ExecutorStep (.thread index) world after
  | wake {world : ExecutorWorld job} {index : Nat}
      (waits : world.workers[index]? = some .waiting) :
      ExecutorStep (.wake index) world (world.withWorker index .entering)
  | submit {world : ExecutorWorld job} {workers : List (ExecutorWorker job)}
      (item : job) (accepts : world.refuses = false)
      (notified : NotifiedOne world.workers workers) :
      ExecutorStep (.submit item) world { world with
        jobs := world.jobs ++ [⟨world.accepted.length, item⟩]
        workers := workers
        accepted := world.accepted ++ [item] }
  | start {world : ExecutorWorld job} {workers capacity : Nat}
      (positive : 0 < workers ∧ 0 < capacity) (unowned : world.owner = .free)
      (idle : world.workers = []) :
      ExecutorStep (.start workers capacity) world { world with
        stopping := false
        capacity := capacity
        workers := List.replicate workers .entering }
  | startFails {world : ExecutorWorld job} {workers capacity created : Nat}
      (positive : 0 < workers ∧ 0 < capacity) (unowned : world.owner = .free)
      (idle : world.workers = []) (short : created < workers) :
      ExecutorStep .startFails world { world with
        stopping := true
        capacity := capacity
        workers := List.replicate created .entering
        owner := .failed }
  | stop {world : ExecutorWorld job}
      (calls : world.owner = .free ∨ world.owner = .failed) :
      ExecutorStep .stop world { world with
        stopping := true
        jobs := []
        owner := .notifying
        discarded := world.discarded ++ world.queued }
  | notify {world : ExecutorWorld job} (stops : world.owner = .notifying) :
      ExecutorStep .notify world { world with
        workers := world.workers.map ExecutorWorker.notified
        owner := .joining }
  | join {world : ExecutorWorld job} (stops : world.owner = .joining)
      (ended : ∀ phase ∈ world.workers, phase = .exited) :
      ExecutorStep .join world { world with
        workers := []
        capacity := 0
        owner := .free }

def ExecutorReached (world : ExecutorWorld job) : Prop :=
  Transition.Reachable (· = {})
    (fun before after => ∃ event, ExecutorStep event before after) world

end Steps

/-! ### The invariant -/

section Invariant

variable {job : Type}

structure ExecutorThreads (world : ExecutorWorld job) : Prop where
  within : world.jobs.length ≤ world.capacity
  stopped : world.stopping = true → world.jobs = []
  owned : world.stopping = false → world.owner = .free
  staffed : world.stopping = false → world.workers ≠ []
  present : world.stopping = false → .exited ∉ world.workers
  awake : world.jobs ≠ [] → ∃ phase ∈ world.workers, phase.Up

structure ExecutorLedger (world : ExecutorWorld job) : Prop where
  ordered : (world.taken ++ world.queued).Pairwise (· < ·)
  once : (world.taken ++ world.queued ++ world.discarded).Perm
    (List.range world.accepted.length)
  called : (world.called ++ world.held).Perm world.taken
  known : ∀ queued ∈ world.jobs,
    world.accepted[queued.number]? = some queued.item
  carried : ∀ phase ∈ world.workers, ∀ queued, phase.work = some queued →
    world.accepted[queued.number]? = some queued.item

structure ExecutorInvariant (world : ExecutorWorld job) : Prop where
  threads : ExecutorThreads world
  ledger : ExecutorLedger world

theorem ExecutorInvariant.initial : ExecutorInvariant ({} : ExecutorWorld job) :=
  { threads :=
      { within := Nat.le_refl 0
        stopped := fun _ => rfl
        owned := fun impossible => Bool.noConfusion impossible
        staffed := fun impossible => Bool.noConfusion impossible
        present := fun impossible => Bool.noConfusion impossible
        awake := fun impossible => absurd rfl impossible }
    ledger :=
      { ordered := List.Pairwise.nil
        once := List.Perm.refl []
        called := List.Perm.refl []
        known := fun _ impossible => absurd impossible List.not_mem_nil
        carried := fun _ impossible => absurd impossible List.not_mem_nil } }

/-! ### The threads -/

section Threads

variable {world after : ExecutorWorld job}

theorem mem_withWorker {index : Nat} {old : ExecutorWorker job}
    (found : world.workers[index]? = some old) (phase : ExecutorWorker job) :
    phase ∈ (world.withWorker index phase).workers := by
  obtain ⟨inside, _⟩ := List.getElem?_eq_some_iff.mp found
  exact List.mem_set inside phase

theorem withWorker_staffed {index : Nat} {phase : ExecutorWorker job}
    (staffed : world.workers ≠ []) : (world.withWorker index phase).workers ≠ [] := by
  intro empty
  have same := congrArg List.length empty
  rw [ExecutorWorld.withWorker, List.length_set] at same
  exact staffed (List.eq_nil_of_length_eq_zero same)

theorem not_mem_set {workers : List (ExecutorWorker job)} {index : Nat}
    {phase other : ExecutorWorker job} (absent : other ∉ workers)
    (differs : phase ≠ other) : other ∉ workers.set index phase := by
  intro member
  rcases List.mem_or_eq_of_mem_set member with old | same
  · exact absent old
  · exact differs same.symm

theorem ExecutorThreads.withWorker (threads : ExecutorThreads world) {index : Nat}
    {old : ExecutorWorker job} (found : world.workers[index]? = some old)
    (phase : ExecutorWorker job) (up : phase.Up) :
    ExecutorThreads (world.withWorker index phase) :=
  { within := threads.within
    stopped := threads.stopped
    owned := threads.owned
    staffed := fun runs => withWorker_staffed (threads.staffed runs)
    present := by
      intro runs
      refine not_mem_set (threads.present runs) ?_
      intro exited
      rw [exited] at up
      exact up
    awake := fun _ => ⟨phase, mem_withWorker found phase, up⟩ }

theorem ExecutorThreads.workerStep {index : Nat} (threads : ExecutorThreads world)
    (moved : WorkerStep index world after) : ExecutorThreads after := by
  cases moved with
  | @take queued rest enters first =>
      have kept := threads.withWorker enters (.holding queued) trivial
      have shorter : rest.length ≤ world.capacity := by
        have within := threads.within
        rw [first, List.length_cons] at within
        omega
      exact
        { within := shorter
          stopped := by
            intro stops
            have empty := threads.stopped stops
            rw [first] at empty
            cases empty
          owned := kept.owned
          staffed := kept.staffed
          present := kept.present
          awake := fun _ => ⟨_, mem_withWorker enters _, trivial⟩ }
  | leave enters stops empty =>
      exact
        { within := threads.within
          stopped := threads.stopped
          owned := threads.owned
          staffed := fun runs => withWorker_staffed (threads.staffed runs)
          present := fun runs => by cases stops.symm.trans runs
          awake := fun queued => absurd empty queued }
  | sleep enters runs empty =>
      exact
        { within := threads.within
          stopped := threads.stopped
          owned := threads.owned
          staffed := fun runs => withWorker_staffed (threads.staffed runs)
          present := fun runs =>
            not_mem_set (threads.present runs) (fun same => by cases same)
          awake := fun queued => absurd empty queued }
  | @call queued holds =>
      have kept := threads.withWorker holds (.running queued) trivial
      exact
        { within := kept.within
          stopped := kept.stopped
          owned := kept.owned
          staffed := kept.staffed
          present := kept.present
          awake := kept.awake }
  | finish runs =>
      exact threads.withWorker runs .entering trivial

theorem NotifiedOne.up {workers notified : List (ExecutorWorker job)}
    (signalled : NotifiedOne workers notified) (staffed : workers ≠ [])
    (present : .exited ∉ workers) :
    notified ≠ [] ∧ .exited ∉ notified ∧ ∃ phase ∈ notified, phase.Up := by
  cases signalled with
  | wakes waits =>
      have entering := @mem_withWorker job { workers := workers } _ _ waits .entering
      exact ⟨List.ne_nil_of_mem entering,
        not_mem_set present (fun same => by cases same), _, entering, trivial⟩
  | nobody awake =>
      obtain ⟨phase, member⟩ := List.exists_mem_of_ne_nil _ staffed
      refine ⟨staffed, present, phase, member, ?_⟩
      cases phase with
      | waiting => exact absurd member awake
      | exited => exact absurd member present
      | entering => trivial
      | holding _ => trivial
      | running _ => trivial

theorem ExecutorWorld.accepts {world : ExecutorWorld job}
    (accepts : world.refuses = false) :
    world.stopping = false ∧ world.workers ≠ [] ∧
      world.jobs.length < world.capacity := by
  rw [ExecutorWorld.refuses, Bool.or_eq_false_iff, Bool.or_eq_false_iff] at accepts
  obtain ⟨⟨runs, staffed⟩, room⟩ := accepts
  exact ⟨runs, List.isEmpty_eq_false_iff.mp staffed,
    Nat.lt_of_not_le (of_decide_eq_false room)⟩

theorem ExecutorThreads.idle (threads : ExecutorThreads world)
    (idle : world.workers = []) : world.stopping = true := by
  cases runs : world.stopping with
  | false => exact absurd idle (threads.staffed runs)
  | true => rfl

theorem ExecutorThreads.closing (threads : ExecutorThreads world)
    (owned : world.owner ≠ .free) : world.stopping = true := by
  cases runs : world.stopping with
  | false => exact absurd (threads.owned runs) owned
  | true => rfl

theorem ExecutorThreads.step {event : ExecutorEvent job}
    (threads : ExecutorThreads world) (moved : ExecutorStep event world after) :
    ExecutorThreads after := by
  cases moved with
  | thread moved =>
      exact threads.workerStep moved
  | wake waits =>
      exact threads.withWorker waits .entering trivial
  | submit item accepts notified =>
      obtain ⟨runs, staffed, room⟩ := ExecutorWorld.accepts accepts
      obtain ⟨some, present, awake⟩ := notified.up staffed (threads.present runs)
      exact
        { within := by
            rw [List.length_append, List.length_singleton]
            exact room
          stopped := fun stops => by cases runs.symm.trans stops
          owned := threads.owned
          staffed := fun _ => some
          present := fun _ => present
          awake := fun _ => awake }
  | start positive unowned idle =>
      have empty := threads.stopped (threads.idle idle)
      exact
        { within := by
            rw [empty]
            exact Nat.zero_le _
          stopped := fun impossible => Bool.noConfusion impossible
          owned := fun _ => unowned
          staffed := by
            intro _ nobody
            have missing := congrArg List.length nobody
            rw [List.length_replicate] at missing
            exact absurd missing (Nat.ne_of_gt positive.1)
          present := by
            intro _ exited
            cases List.eq_of_mem_replicate exited
          awake := fun queued => absurd empty queued }
  | startFails positive unowned idle short =>
      have empty := threads.stopped (threads.idle idle)
      exact
        { within := by
            rw [empty]
            exact Nat.zero_le _
          stopped := fun _ => empty
          owned := fun impossible => Bool.noConfusion impossible
          staffed := fun impossible => Bool.noConfusion impossible
          present := fun impossible => Bool.noConfusion impossible
          awake := fun queued => absurd empty queued }
  | stop calls =>
      exact
        { within := Nat.zero_le _
          stopped := fun _ => rfl
          owned := fun impossible => Bool.noConfusion impossible
          staffed := fun impossible => Bool.noConfusion impossible
          present := fun impossible => Bool.noConfusion impossible
          awake := fun queued => absurd rfl queued }
  | notify stops =>
      have stopping := threads.closing (by
        rw [stops]
        exact fun same => by cases same)
      exact
        { within := threads.within
          stopped := threads.stopped
          owned := fun runs => by cases stopping.symm.trans runs
          staffed := fun runs => by cases stopping.symm.trans runs
          present := fun runs => by cases stopping.symm.trans runs
          awake := fun queued => absurd (threads.stopped stopping) queued }
  | join stops ended =>
      have stopping := threads.closing (by
        rw [stops]
        exact fun same => by cases same)
      have empty := threads.stopped stopping
      exact
        { within := by
            rw [empty]
            exact Nat.zero_le _
          stopped := fun _ => empty
          owned := fun _ => rfl
          staffed := fun runs => by cases stopping.symm.trans runs
          present := fun runs => by cases stopping.symm.trans runs
          awake := fun queued => absurd empty queued }

end Threads

/-! ### The jobs -/

section Ledger

variable {world after : ExecutorWorld job}

theorem held_withWorker {index : Nat} {old : ExecutorWorker job}
    (found : world.workers[index]? = some old) (phase : ExecutorWorker job) :
    ((world.withWorker index phase).held ++ old.held.toList).Perm
      (world.held ++ phase.held.toList) :=
  Lists.filterMap_set ExecutorWorker.held found phase

def ExecutorWorld.Carried (world : ExecutorWorld job)
    (workers : List (ExecutorWorker job)) : Prop :=
  ∀ phase ∈ workers, ∀ queued, phase.work = some queued →
    world.accepted[queued.number]? = some queued.item

theorem ExecutorWorld.Carried.set {workers : List (ExecutorWorker job)}
    (carried : world.Carried workers) {index : Nat} {phase : ExecutorWorker job}
    (known : ∀ queued, phase.work = some queued →
      world.accepted[queued.number]? = some queued.item) :
    world.Carried (workers.set index phase) := by
  intro other member queued works
  rcases List.mem_or_eq_of_mem_set member with old | same
  · exact carried other old queued works
  · rw [same] at works
    exact known queued works

theorem ExecutorLedger.withWorker (ledger : ExecutorLedger world) {index : Nat}
    {old phase : ExecutorWorker job} (found : world.workers[index]? = some old)
    (light : old.held = none ∧ phase.held = none) (idle : phase.work = none) :
    ExecutorLedger (world.withWorker index phase) :=
  { ordered := ledger.ordered
    once := ledger.once
    called := by
      have moved := held_withWorker found phase
      rw [light.1, light.2, Option.toList_none, List.append_nil,
        List.append_nil] at moved
      exact (moved.append_left _).trans ledger.called
    known := ledger.known
    carried := by
      refine ExecutorWorld.Carried.set ledger.carried ?_
      intro queued works
      rw [idle] at works
      cases works }

theorem ExecutorLedger.workerStep {index : Nat} (ledger : ExecutorLedger world)
    (moved : WorkerStep index world after) : ExecutorLedger after := by
  cases moved with
  | @take queued rest enters first =>
      have whole : world.taken ++ [queued.number] ++ rest.map (·.number) =
          world.taken ++ world.queued := by
        rw [ExecutorWorld.queued, first, List.map_cons, List.append_assoc,
          List.singleton_append]
      have member : queued ∈ world.jobs := by
        rw [first]
        exact List.mem_cons_self
      exact
        { ordered := by
            have ordered := ledger.ordered
            rw [← whole] at ordered
            exact ordered
          once := by
            have once := ledger.once
            rw [← whole] at once
            exact once
          called := by
            have gained := held_withWorker enters (.holding queued)
            simp only [ExecutorWorker.held, Option.toList_none, Option.toList_some,
              List.append_nil] at gained
            refine (gained.append_left world.called).trans ?_
            rw [← List.append_assoc]
            exact ledger.called.append_right _
          known := by
            intro other later
            refine ledger.known other ?_
            rw [first]
            exact List.mem_cons_of_mem _ later
          carried := by
            refine ExecutorWorld.Carried.set ledger.carried ?_
            intro other works
            cases works
            exact ledger.known queued member }
  | leave enters stops empty =>
      exact ledger.withWorker enters ⟨rfl, rfl⟩ rfl
  | sleep enters runs empty =>
      exact ledger.withWorker enters ⟨rfl, rfl⟩ rfl
  | @call queued holds =>
      exact
        { ordered := ledger.ordered
          once := ledger.once
          called := by
            have lost := held_withWorker holds (.running queued)
            simp only [ExecutorWorker.held, Option.toList_none, Option.toList_some,
              List.append_nil] at lost
            refine .trans ?_ ledger.called
            rw [List.append_assoc]
            exact (List.perm_append_comm.trans lost).append_left _
          known := ledger.known
          carried := by
            refine ExecutorWorld.Carried.set ledger.carried ?_
            intro other works
            cases works
            exact ledger.carried _ (List.mem_of_getElem? holds) queued rfl }
  | finish runs =>
      exact ledger.withWorker runs ⟨rfl, rfl⟩ rfl

theorem kept_concat {items : List job} {number : Nat} {item : job}
    (known : items[number]? = some item) (last : job) :
    (items ++ [last])[number]? = some item := by
  rw [List.getElem?_append_left (List.getElem?_eq_some_iff.mp known).1]
  exact known

theorem NotifiedOne.light {workers notified : List (ExecutorWorker job)}
    (signalled : NotifiedOne workers notified) :
    (notified.filterMap ExecutorWorker.held).Perm
        (workers.filterMap ExecutorWorker.held) ∧
      ∀ phase ∈ notified, phase = .entering ∨ phase ∈ workers := by
  cases signalled with
  | wakes waits =>
      have same := Lists.filterMap_set ExecutorWorker.held waits .entering
      simp only [ExecutorWorker.held, Option.toList_none, List.append_nil] at same
      refine ⟨same, ?_⟩
      intro phase member
      exact (List.mem_or_eq_of_mem_set member).symm
  | nobody awake =>
      exact ⟨.refl _, fun phase member => .inr member⟩

theorem idle_workers {workers : List (ExecutorWorker job)}
    (idle : ∀ phase ∈ workers, phase.work = none) :
    workers.filterMap ExecutorWorker.held = [] := by
  rw [List.filterMap_eq_nil_iff]
  intro phase member
  have nothing := idle phase member
  cases phase with
  | holding queued => cases nothing
  | entering => rfl
  | waiting => rfl
  | running _ => rfl
  | exited => rfl

theorem ExecutorLedger.submit {workers : List (ExecutorWorker job)}
    (ledger : ExecutorLedger world) (item : job)
    (notified : NotifiedOne world.workers workers) :
    ExecutorLedger { world with
      jobs := world.jobs ++ [⟨world.accepted.length, item⟩]
      workers := workers
      accepted := world.accepted ++ [item] } := by
  obtain ⟨light, phases⟩ := notified.light
  have bounded : ∀ number ∈ world.taken ++ world.queued,
      number < world.accepted.length := by
    intro number member
    exact List.mem_range.mp (ledger.once.subset (List.mem_append_left _ member))
  have grown (last : QueuedJob job) :
      world.taken ++ (world.jobs ++ [last]).map (·.number) =
        world.taken ++ world.queued ++ [last.number] := by
    rw [List.map_append, List.append_assoc, ExecutorWorld.queued]
    rfl
  exact
    { ordered := by
        rw [ExecutorWorld.queued, grown, List.pairwise_append]
        refine ⟨ledger.ordered, List.pairwise_singleton _ _, ?_⟩
        intro number member last same
        rw [List.mem_singleton.mp same]
        exact bounded number member
      once := by
        rw [ExecutorWorld.queued, grown, List.length_append, List.length_singleton,
          List.range_succ, List.append_assoc]
        refine (List.perm_append_comm.append_left _).trans ?_
        rw [← List.append_assoc]
        exact ledger.once.append_right _
      called := (light.append_left _).trans ledger.called
      known := by
        intro queued member
        rcases List.mem_append.mp member with old | new
        · exact kept_concat (ledger.known queued old) item
        · rw [List.mem_singleton.mp new]
          exact List.getElem?_concat_length
      carried := by
        intro phase member queued works
        rcases phases phase member with entering | old
        · rw [entering] at works
          cases works
        · exact kept_concat (ledger.carried phase old queued works) item }

theorem ExecutorLedger.restaffed (ledger : ExecutorLedger world)
    (left : ∀ phase ∈ world.workers, phase.work = none)
    {workers : List (ExecutorWorker job)}
    (fresh : ∀ phase ∈ workers, phase.work = none)
    (stopping : Bool) (capacity : Nat) (owner : ExecutorOwner) :
    ExecutorLedger { world with
      stopping := stopping
      capacity := capacity
      workers := workers
      owner := owner } :=
  { ordered := ledger.ordered
    once := ledger.once
    called := by
      have called := ledger.called
      rw [ExecutorWorld.held, idle_workers left] at called
      rw [ExecutorWorld.held, idle_workers fresh]
      exact called
    known := ledger.known
    carried := by
      intro phase member queued works
      rw [fresh phase member] at works
      cases works }

theorem ExecutorLedger.step {event : ExecutorEvent job}
    (ledger : ExecutorLedger world) (moved : ExecutorStep event world after) :
    ExecutorLedger after := by
  have entering (count : Nat) : ∀ phase ∈ List.replicate count
      (.entering : ExecutorWorker job), phase.work = none := by
    intro phase member
    rw [List.eq_of_mem_replicate member]
    rfl
  have nobody (idle : world.workers = []) :
      ∀ phase ∈ world.workers, phase.work = none := by
    intro phase member
    rw [idle] at member
    cases member
  cases moved with
  | thread moved =>
      exact ledger.workerStep moved
  | wake waits =>
      exact ledger.withWorker waits ⟨rfl, rfl⟩ rfl
  | submit item accepts notified =>
      exact ledger.submit item notified
  | start positive unowned idle =>
      exact ledger.restaffed (nobody idle) (entering _) _ _ _
  | startFails positive unowned idle short =>
      exact ledger.restaffed (nobody idle) (entering _) _ _ _
  | stop calls =>
      exact
        { ordered := by
            change (world.taken ++ []).Pairwise (· < ·)
            rw [List.append_nil]
            exact (List.pairwise_append.mp ledger.ordered).1
          once := by
            change (world.taken ++ [] ++ (world.discarded ++ world.queued)).Perm _
            rw [List.append_nil]
            refine .trans ?_ ledger.once
            rw [List.append_assoc]
            exact List.perm_append_comm.append_left _
          called := ledger.called
          known := fun _ impossible => absurd impossible List.not_mem_nil
          carried := ledger.carried }
  | notify stops =>
      have held (phase : ExecutorWorker job) : phase.notified.held = phase.held := by
        cases phase <;> rfl
      have work (phase : ExecutorWorker job) : phase.notified.work = phase.work := by
        cases phase <;> rfl
      exact
        { ordered := ledger.ordered
          once := ledger.once
          called := by
            have same : ExecutorWorker.held ∘ ExecutorWorker.notified =
                (ExecutorWorker.held : ExecutorWorker job → Option Nat) :=
              funext held
            rw [ExecutorWorld.held, List.filterMap_map, same]
            exact ledger.called
          known := ledger.known
          carried := by
            intro phase member queued works
            obtain ⟨old, before, rfl⟩ := List.mem_map.mp member
            rw [work] at works
            exact ledger.carried old before queued works }
  | join stops ended =>
      refine ledger.restaffed ?_ (fun _ impossible => absurd impossible
        List.not_mem_nil) _ _ _
      intro phase member
      rw [ended phase member]
      rfl

theorem ExecutorReached.invariant (reached : ExecutorReached world) :
    ExecutorInvariant world := by
  refine Transition.Reachable.invariant ?_ ?_ reached
  · intro state begins
    rw [begins]
    exact .initial
  · intro state after _ holds moved
    obtain ⟨event, moved⟩ := moved
    exact { threads := holds.threads.step moved, ledger := holds.ledger.step moved }

end Ledger

end Invariant

end NativeDNS
