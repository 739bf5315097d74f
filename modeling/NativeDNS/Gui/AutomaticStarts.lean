/-
The policy of automatic starts over whole histories.

A history lists what has happened on the window's thread: ends of polls, begun
start operations and ends of their workers, the newest one first.  The policy
speaks of the history only; an invariant ties the flags, counters and timers of
the window to it.
-/
import NativeDNS.Library.Transition
import NativeDNS.Gui.CoreStarts

namespace NativeDNS

open ByteText (text)

namespace CoreWindow

/-! ### Histories -/

inductive Happening where
  | polled (now : Nat) (poll : StatusPoll)
  | started (now : Nat) (automatic : Bool)
  | completed (now : Nat) (answers : StartAnswers)

/-- The window at a time, with what has happened until then. -/
structure Session where
  now : Nat
  core : CoreMonitor
  history : List Happening

def entered (now : Nat) (automatic : Bool) (history : List Happening)
    (moved : CoreMonitor × Bool) : Session :=
  { now := now
    core := moved.1
    history :=
      if moved.2 = true then .started now automatic :: history else history }

/-- The constructor and `ensureCoreStarted`. -/
def opened (now : Nat) (available : Bool) (signature : Bytes) : Session :=
  entered now false []
    (startCore now true
      { networkAvailable := available
        networkSignature := signature })

def Session.poll (session : Session) (now : Nat) (poll : StatusPoll) : Session :=
  entered now true (.polled now poll :: session.history)
    (statusPolled now poll session.core)

def Session.complete (session : Session) (now : Nat) (answers : StartAnswers) :
    Session :=
  { now := now
    core := startCompleted now (startWorker answers) session.core
    history := .completed now answers :: session.history }

/-- Polls and the worker of a pending start operation end in any order. -/
inductive Session.Step : Session → Session → Prop
  | polled {session : Session} {now : Nat} (later : session.now ≤ now)
      (poll : StatusPoll) : Step session (session.poll now poll)
  | completed {session : Session} {now : Nat} (later : session.now ≤ now)
      (pending : session.core.coreStartOperationPending = true)
      (answers : StartAnswers) : Step session (session.complete now answers)

/-- The sessions of a window opened under a network signature. -/
def Lived (signature : Bytes) : Session → Prop :=
  Transition.Reachable
    (fun session => ∃ now available, session = opened now available signature)
    Session.Step

/-! ### Reading a history -/

def polls (history : List Happening) : List StatusPoll :=
  history.filterMap fun happening =>
    match happening with
    | .polled _ poll => some poll
    | _ => none

def failedPolls (history : List Happening) : Nat :=
  ((polls history).takeWhile StatusPoll.failed).length

def lastSignature (initial : Bytes) (history : List Happening) : Bytes :=
  ((polls history).head?.map StatusPoll.signature).getD initial

def operationPending : List Happening → Bool
  | [] => false
  | .polled _ _ :: before => operationPending before
  | .started _ _ :: _ => true
  | .completed _ _ :: _ => false

/-- A start operation has ended with a launch, and no poll has been answered
since. -/
def Unanswered (history : List Happening) (launch : Nat) : Prop :=
  ∃ recent answers before, history = recent ++ .completed launch answers :: before ∧
    (startWorker answers).launched = true ∧
    ∀ poll ∈ polls recent, poll.failed = true

def RunningFor (span now : Nat) (history : List Happening) : Prop :=
  ∃ recent since first before, history = recent ++ .polled since first :: before ∧
    first.running = true ∧ (∀ poll ∈ polls recent, poll.running = true) ∧
    span ≤ milliseconds since now

/-- The newest entry is a poll behind 30 seconds of RUNNING. -/
def Healthy : List Happening → Prop
  | .polled now poll :: before => RunningFor 30000 now (.polled now poll :: before)
  | _ => False

/-- No entry of a stretch of history is such a poll. -/
def Quiet (earlier stretch : List Happening) : Prop :=
  ∀ newer older, stretch = newer ++ older → older ≠ [] → ¬ Healthy (older ++ earlier)

def isAutomatic : Happening → Bool
  | .started _ automatic => automatic
  | _ => false

/-- What brings about an automatic start: three failed polls, the last start
operation having begun five seconds ago, or another network. -/
def Cause (initial : Bytes) (now : Nat) (before : List Happening) : Prop :=
  ∃ poll older, before = .polled now poll :: older ∧ poll.failed = true ∧
    (3 ≤ failedPolls before ∧
        (∀ earlier automatic, .started earlier automatic ∈ older →
          5000 ≤ milliseconds earlier now) ∨
      poll.signature ≠ lastSignature initial older)

/-- What must hold of an entry behind its past. -/
def Allowed (initial : Bytes) (before : List Happening) : Happening → Prop
  | .polled _ _ => True
  | .started now automatic =>
      operationPending before = false ∧
        (∀ launch, Unanswered before launch → 15000 ≤ milliseconds launch now) ∧
        (automatic = true → Cause initial now before)
  | .completed _ answers =>
      operationPending before = true ∧
        ((startWorker answers).launched = true → answers.lock = .acquired)

/-- The policy of automatic starts. -/
structure StartPolicy (initial : Bytes) (history : List Happening) : Prop where
  entries : ∀ entry before, entry :: before <:+ history → Allowed initial before entry
  bounded : ∀ stretch earlier, stretch ++ earlier <:+ history → Quiet earlier stretch →
    stretch.countP isAutomatic ≤ 3

/-! ### Longer histories -/

section Entries

variable {history : List Happening} {now launch : Nat} {poll : StatusPoll}
  {automatic : Bool} {answers : StartAnswers}

theorem milliseconds_later {since later : Nat} (passed : now ≤ later) :
    milliseconds since now ≤ milliseconds since later :=
  Nat.div_le_div_right (Nat.sub_le_sub_right passed since)

theorem milliseconds_earlier {earlier since : Nat} (before : earlier ≤ since) :
    milliseconds since now ≤ milliseconds earlier now :=
  Nat.div_le_div_right (Nat.sub_le_sub_left before now)

theorem failedPolls_polled :
    failedPolls (.polled now poll :: history) =
      if poll.failed = true then failedPolls history + 1 else 0 := by
  simp only [failedPolls, polls, List.filterMap_cons, List.takeWhile_cons]
  split
  · rfl
  · rfl

theorem unanswered_polled
    (unanswered : Unanswered (.polled now poll :: history) launch) :
    poll.failed = true ∧ Unanswered history launch := by
  obtain ⟨recent, answers, before, same, launched, failed⟩ := unanswered
  cases recent with
  | nil =>
      cases same
  | cons newest recent =>
      cases same
      exact
        ⟨failed poll List.mem_cons_self, recent, answers, before, rfl, launched,
          fun other member => failed other (List.mem_cons_of_mem _ member)⟩

theorem unanswered_started
    (unanswered : Unanswered (.started now automatic :: history) launch) :
    Unanswered history launch := by
  obtain ⟨recent, answers, before, same, launched, failed⟩ := unanswered
  cases recent with
  | nil =>
      cases same
  | cons newest recent =>
      cases same
      exact ⟨recent, answers, before, rfl, launched, failed⟩

theorem unanswered_completed
    (unanswered : Unanswered (.completed now answers :: history) launch) :
    launch = now ∧ (startWorker answers).launched = true ∨
      Unanswered history launch := by
  obtain ⟨recent, others, before, same, launched, failed⟩ := unanswered
  cases recent with
  | nil =>
      cases same
      exact Or.inl ⟨rfl, launched⟩
  | cons newest recent =>
      cases same
      exact Or.inr ⟨recent, others, before, rfl, launched, failed⟩

def RunningSince (since : Nat) (history : List Happening) : Prop :=
  ∃ recent first before, history = recent ++ .polled since first :: before ∧
    first.running = true ∧ ∀ poll ∈ polls recent, poll.running = true

theorem RunningSince.polled {since : Nat} (steady : RunningSince since history)
    (running : poll.running = true) :
    RunningSince since (.polled now poll :: history) := by
  obtain ⟨recent, first, before, same, began, all⟩ := steady
  refine ⟨.polled now poll :: recent, first, before, ?_, began, ?_⟩
  · rw [same]
    rfl
  · intro other member
    rcases List.mem_cons.mp member with newest | older
    · rw [newest]
      exact running
    · exact all other older

theorem RunningSince.other {since : Nat} {entry : Happening}
    (steady : RunningSince since history) (noPoll : polls [entry] = []) :
    RunningSince since (entry :: history) := by
  obtain ⟨recent, first, before, same, began, all⟩ := steady
  refine ⟨entry :: recent, first, before, ?_, began, ?_⟩
  · rw [same]
    rfl
  · have unchanged : polls ([entry] ++ recent) = polls [entry] ++ polls recent :=
      List.filterMap_append
    rw [noPoll, List.nil_append] at unchanged
    rw [← unchanged] at all
    exact all

/-! ### Stretches -/

/-- Every quiet stretch up to now has at most so many automatic starts. -/
def CountedUpTo (limit : Nat) (history : List Happening) : Prop :=
  ∀ stretch earlier, history = stretch ++ earlier → Quiet earlier stretch →
    stretch.countP isAutomatic ≤ limit

theorem CountedUpTo.cons {limit : Nat} (counted : CountedUpTo limit history)
    (entry : Happening) :
    CountedUpTo (limit + if isAutomatic entry = true then 1 else 0)
      (entry :: history) := by
  intro stretch earlier same quiet
  cases stretch with
  | nil =>
      exact Nat.zero_le _
  | cons newest stretch =>
      cases same
      have inside : Quiet earlier stretch := by
        intro newer older parts nonempty
        exact quiet (entry :: newer) older (congrArg (entry :: ·) parts) nonempty
      rw [List.countP_cons]
      exact Nat.add_le_add_right (counted stretch earlier rfl inside) _

theorem countedUpTo_healthy (healthy : Healthy history) : CountedUpTo 0 history := by
  intro stretch earlier same quiet
  cases stretch with
  | nil =>
      exact Nat.le_refl 0
  | cons newest stretch =>
      rw [same] at healthy
      exact absurd healthy (quiet [] _ rfl (List.cons_ne_nil _ _))

theorem StartPolicy.cons {initial : Bytes} {entry : Happening}
    (policy : StartPolicy initial history) (allowed : Allowed initial history entry)
    (counted : CountedUpTo 3 (entry :: history)) :
    StartPolicy initial (entry :: history) :=
  { entries := by
      intro other before inside
      rcases List.suffix_cons_iff.mp inside with same | older
      · cases same
        exact allowed
      · exact policy.entries other before older
    bounded := by
      intro stretch earlier inside quiet
      rcases List.suffix_cons_iff.mp inside with same | older
      · exact counted stretch earlier same.symm quiet
      · exact policy.bounded stretch earlier older quiet }

end Entries

/-! ### The invariant -/

/-- The fields of the window are what its history says. -/
structure Tracked (initial : Bytes) (session : Session) : Prop where
  policy : StartPolicy initial session.history
  pending : session.core.coreStartOperationPending = operationPending session.history
  waiting : session.core.restartWhenNetworkReturns = false
  signature : session.core.networkSignature = lastSignature initial session.history
  failures : session.core.failedCorePolls.toNat ≤ failedPolls session.history
  starts : ∀ earlier automatic, .started earlier automatic ∈ session.history →
    ∃ since, session.core.networkProbeTimer = some since ∧ earlier ≤ since
  probed : ∀ since, session.core.networkProbeTimer = some since → since ≤ session.now
  health : ∀ since, session.core.coreHealthyTimer = some since →
    RunningSince since session.history
  restarts : session.core.automaticRestarts.toNat ≤ 3
  counted : CountedUpTo session.core.automaticRestarts.toNat session.history
  launches : ∀ launch, Unanswered session.history launch →
    session.core.coreLaunchPending = true ∧
        session.core.coreLaunchTimer = some launch ∧
        operationPending session.history = false ∨
      15000 ≤ milliseconds launch session.now

section Steps

variable {initial : Bytes} {session : Session} {now : Nat}

theorem Tracked.observed (tracked : Tracked initial session)
    (later : session.now ≤ now) {poll : StatusPoll} {after : CoreMonitor}
    (observed : Observed now poll session.core after) :
    Tracked initial
      { now := now
        core := after
        history := .polled now poll :: session.history } := by
  have steady : ∀ since, after.coreHealthyTimer = some since →
      poll.running = true ∧ RunningSince since (.polled now poll :: session.history) := by
    intro since timer
    rw [observed.health] at timer
    split at timer
    · rename_i running
      refine ⟨running, ?_⟩
      cases before : session.core.coreHealthyTimer with
      | none =>
          rw [before] at timer
          cases timer
          exact ⟨[], poll, session.history, rfl, running, List.forall_mem_nil _⟩
      | some earlier =>
          rw [before] at timer
          cases timer
          exact (tracked.health earlier before).polled running
    · cases timer
  have counted : CountedUpTo after.automaticRestarts.toNat
      (.polled now poll :: session.history) := by
    rcases observed.restarts with same | ⟨running, reset, long⟩
    · rw [same]
      exact tracked.counted.cons _
    · rw [reset]
      have timer : after.coreHealthyTimer =
          some (session.core.coreHealthyTimer.getD now) := by
        rw [observed.health, if_pos running]
      obtain ⟨recent, first, before, same, began, all⟩ := (steady _ timer).2
      exact countedUpTo_healthy ⟨recent, _, first, before, same, began, all, long⟩
  have restarts : after.automaticRestarts.toNat ≤ 3 := by
    rcases observed.restarts with same | ⟨_, reset, _⟩
    · rw [same]
      exact tracked.restarts
    · rw [reset]
      decide
  exact
    { policy := tracked.policy.cons trivial
        (fun stretch earlier same quiet =>
          (counted stretch earlier same quiet).trans restarts)
      pending := observed.pending.trans tracked.pending
      waiting := observed.waiting tracked.waiting
      signature := observed.signature
      failures := by
        have bound := observed.failures
        have known := tracked.failures
        rw [failedPolls_polled]
        split
        · rename_i failed
          rw [if_pos failed] at bound
          exact bound.trans (Nat.succ_le_succ known)
        · rename_i answered
          rwa [if_neg answered] at bound
      starts := by
        intro earlier automatic member
        rw [observed.probe]
        rcases List.mem_cons.mp member with newest | older
        · cases newest
        · exact tracked.starts earlier automatic older
      probed := by
        intro since timer
        rw [observed.probe] at timer
        exact (tracked.probed since timer).trans later
      health := fun since timer => (steady since timer).2
      restarts := restarts
      counted := counted
      launches := by
        intro launch unanswered
        obtain ⟨failed, unanswered⟩ := unanswered_polled unanswered
        rcases tracked.launches launch unanswered with ⟨open_, timer, idle⟩ | passed
        · rcases observed.launch failed with ⟨samePending, sameTimer⟩ | expired
          · exact Or.inl ⟨samePending.trans open_, sameTimer.trans timer, idle⟩
          · refine Or.inr ?_
            rw [open_, timer, Bool.true_and] at expired
            exact Nat.not_lt.mp (of_decide_eq_false expired)
        · exact Or.inr (passed.trans (milliseconds_later later)) }

theorem Tracked.start (tracked : Tracked initial session)
    (settled : session.core.coreLaunchPending = false)
    (idle : session.core.coreStartOperationPending = false)
    (allowed : session.core.automaticRestarts < 3)
    (cause : Cause initial session.now session.history) :
    Tracked initial
      { now := session.now
        core :=
          { session.core with
            automaticRestarts := session.core.automaticRestarts + 1
            coreStartOperationPending := true
            networkProbeTimer := some session.now }
        history := .started session.now true :: session.history } := by
  have below : session.core.automaticRestarts.toNat < 3 := allowed
  have count : (session.core.automaticRestarts + 1).toNat =
      session.core.automaticRestarts.toNat + 1 := by
    rw [UInt32.toNat_add, show (1 : UInt32).toNat = 1 from rfl]
    omega
  have counted : CountedUpTo (session.core.automaticRestarts + 1).toNat
      (.started session.now true :: session.history) := by
    rw [count]
    exact tracked.counted.cons _
  have answered : ∀ launch, Unanswered session.history launch →
      15000 ≤ milliseconds launch session.now := by
    intro launch unanswered
    rcases tracked.launches launch unanswered with ⟨open_, _, _⟩ | passed
    · rw [settled] at open_
      cases open_
    · exact passed
  have alone : operationPending session.history = false :=
    tracked.pending.symm.trans idle
  exact
    { policy := tracked.policy.cons ⟨alone, answered, fun _ => cause⟩
        (fun stretch earlier same quiet => by
          have bound := counted stretch earlier same quiet
          omega)
      pending := rfl
      waiting := tracked.waiting
      signature := tracked.signature
      failures := tracked.failures
      starts := by
        intro earlier automatic member
        refine ⟨session.now, rfl, ?_⟩
        rcases List.mem_cons.mp member with newest | older
        · cases newest
          exact Nat.le_refl _
        · obtain ⟨since, timer, before⟩ := tracked.starts earlier automatic older
          exact before.trans (tracked.probed since timer)
      probed := by
        intro since timer
        cases timer
        exact Nat.le_refl _
      health := fun since timer => (tracked.health since timer).other rfl
      restarts := by
        rw [count]
        omega
      counted := counted
      launches := fun launch unanswered =>
        Or.inr (answered launch (unanswered_started unanswered)) }

theorem Tracked.complete (tracked : Tracked initial session)
    (later : session.now ≤ now) (pending : session.core.coreStartOperationPending = true)
    (answers : StartAnswers) : Tracked initial (session.complete now answers) := by
  have owned : operationPending session.history = true :=
    tracked.pending.symm.trans pending
  have passed : ∀ launch, Unanswered session.history launch →
      15000 ≤ milliseconds launch now := by
    intro launch unanswered
    rcases tracked.launches launch unanswered with ⟨_, _, idle⟩ | passed
    · rw [owned] at idle
      cases idle
    · exact passed.trans (milliseconds_later later)
  have core : ∃ pendingLaunch timer,
      startCompleted now (startWorker answers) session.core =
        { session.core with
          coreStartOperationPending := false
          restartWhenNetworkReturns := false
          coreLaunchPending := pendingLaunch
          coreLaunchTimer := timer } ∧
      ((startWorker answers).launched = true →
        pendingLaunch = true ∧ timer = some now) := by
    simp only [startCompleted]
    split
    · rename_i unsuccessful
      refine ⟨_, _, rfl, ?_⟩
      intro launched
      rw [(startWorker_launched launched).2.1] at unsuccessful
      cases unsuccessful
    · split
      · rename_i running
        refine ⟨_, _, rfl, ?_⟩
        intro launched
        rw [(startWorker_launched launched).2.2] at running
        cases running
      · exact ⟨_, _, rfl, fun _ => ⟨rfl, rfl⟩⟩
  obtain ⟨pendingLaunch, timer, same, launching⟩ := core
  have counted : CountedUpTo session.core.automaticRestarts.toNat
      (.completed now answers :: session.history) :=
    tracked.counted.cons _
  rw [Session.complete, same]
  exact
    { policy := tracked.policy.cons
        ⟨owned, fun launched => (startWorker_launched launched).1⟩
        (fun stretch earlier same quiet =>
          (counted stretch earlier same quiet).trans tracked.restarts)
      pending := rfl
      waiting := rfl
      signature := tracked.signature
      failures := tracked.failures
      starts := by
        intro earlier automatic member
        rcases List.mem_cons.mp member with newest | older
        · cases newest
        · exact tracked.starts earlier automatic older
      probed := fun since timer => (tracked.probed since timer).trans later
      health := fun since timer => (tracked.health since timer).other rfl
      restarts := tracked.restarts
      counted := counted
      launches := by
        intro launch unanswered
        rcases unanswered_completed unanswered with ⟨here, launched⟩ | older
        · obtain ⟨open_, timed⟩ := launching launched
          rw [here]
          exact Or.inl ⟨open_, timed, rfl⟩
        · exact Or.inr (passed launch older) }

theorem Tracked.poll (tracked : Tracked initial session) (later : session.now ≤ now)
    (poll : StatusPoll) : Tracked initial (session.poll now poll) := by
  rcases statusPolled_cases now poll session.core with
    ⟨after, observed, same⟩ | ⟨after, asks, same⟩
  · rw [Session.poll, same]
    exact tracked.observed later observed
  · have behind := tracked.observed later asks.observed
    have idle : after.coreStartOperationPending = false :=
      asks.observed.pending.trans asks.idle
    have cause : Cause initial now (.polled now poll :: session.history) := by
      refine ⟨poll, session.history, rfl, asks.failed, ?_⟩
      rcases asks.due with due | changed
      · obtain ⟨counted, spaced⟩ := Bool.and_eq_true_iff.mp due
        have three : 3 ≤ after.failedCorePolls.toNat := of_decide_eq_true counted
        refine Or.inl ⟨three.trans behind.failures, ?_⟩
        intro earlier automatic member
        obtain ⟨since, timer, before⟩ := tracked.starts earlier automatic member
        rw [asks.observed.probe, timer, Bool.not_eq_true'] at spaced
        exact (Nat.not_lt.mp (of_decide_eq_false spaced)).trans
          (milliseconds_earlier before)
      · refine Or.inr ?_
        rwa [← tracked.signature]
    have began := @startCore_settled now
      { after with automaticRestarts := after.automaticRestarts + 1 } asks.settled
      behind.waiting idle
    rw [Session.poll, same, began]
    exact behind.start asks.settled idle asks.allowed cause

theorem opened_tracked (now : Nat) (available : Bool) (signature : Bytes) :
    Tracked signature (opened now available signature) := by
  have nothing : ∀ launch, ¬ Unanswered [] launch := by
    intro launch unanswered
    obtain ⟨recent, answers, before, same, _⟩ := unanswered
    cases recent with
    | nil =>
        cases same
    | cons newest recent =>
        cases same
  have past : StartPolicy signature [] :=
    { entries := by
        intro entry before inside
        cases List.suffix_nil.mp inside
      bounded := by
        intro stretch earlier inside quiet
        rw [(List.append_eq_nil_iff.mp (List.suffix_nil.mp inside)).1]
        exact Nat.zero_le _ }
  have counted : CountedUpTo 0 [Happening.started now false] := by
    intro stretch earlier same quiet
    have inside : stretch.countP isAutomatic ≤
        [Happening.started now false].countP isAutomatic := by
      rw [same]
      exact List.Sublist.countP_le (List.sublist_append_left _ _)
    exact inside
  exact
    { policy := past.cons
        ⟨rfl, fun launch unanswered => absurd unanswered (nothing launch),
          fun automatic => Bool.noConfusion automatic⟩
        (fun stretch earlier same quiet =>
          (counted stretch earlier same quiet).trans (Nat.zero_le 3))
      pending := rfl
      waiting := rfl
      signature := rfl
      failures := Nat.le_refl 0
      starts := by
        intro earlier automatic member
        refine ⟨now, rfl, ?_⟩
        cases List.mem_singleton.mp member
        exact Nat.le_refl _
      probed := by
        intro since timer
        cases timer
        exact Nat.le_refl _
      health := by
        intro since timer
        cases timer
      restarts := Nat.zero_le 3
      counted := counted
      launches := fun launch unanswered =>
        absurd (unanswered_started unanswered) (nothing launch) }

end Steps

theorem lived_tracked {signature : Bytes} {session : Session}
    (lived : Lived signature session) : Tracked signature session := by
  refine lived.invariant ?_ ?_
  · rintro start ⟨now, available, begins⟩
    rw [begins]
    exact opened_tracked now available signature
  · intro before after _ tracked moved
    cases moved with
    | polled later poll =>
        exact tracked.poll later poll
    | completed later pending answers =>
        exact tracked.complete later pending answers

/-- In every history of the window a start operation begins while none is pending
and 15 seconds behind any launch that has not answered, an automatic one after
three failed polls and five seconds behind the last operation or when the network
has changed, and at most three automatic ones without 30 seconds of RUNNING; a
worker launches only where it found the process lock free. -/
theorem automaticStarts_policy {signature : Bytes} {session : Session}
    (lived : Lived signature session) : StartPolicy signature session.history :=
  (lived_tracked lived).policy

/-! ### Two histories -/

def seconds (count : Nat) : Nat :=
  count * 1000000000

def absentPoll (signature : String) : StatusPoll :=
  { status := .error "IPC_CONNECT" (text "Core is not running")
    lock := .acquired
    available := true
    signature := text signature }

def runningPoll (signature : String) : StatusPoll :=
  { status := .answered (text "RUNNING")
    lock := .held
    available := true
    signature := text signature }

/-- A worker that finds nothing running and is let start the process or not. -/
def absentAnswers (launched : Bool) : StartAnswers :=
  { status := .error "IPC_CONNECT" (text "Core is not running")
    start := .error "IPC_CONNECT" (text "Core is not running")
    lock := .acquired
    autostarted := false
    launched := launched
    launchError := text "Cannot start NativeDNSCoreHost" }

theorem lived_complete {signature : Bytes} {session : Session} {now : Nat}
    (lived : Lived signature session) (later : session.now ≤ now)
    (pending : session.core.coreStartOperationPending = true) (answers : StartAnswers) :
    Lived signature (session.complete now answers) :=
  .next lived (.completed later pending answers)

theorem lived_poll {signature : Bytes} {session : Session} {now : Nat}
    (lived : Lived signature session) (later : session.now ≤ now) (poll : StatusPoll) :
    Lived signature (session.poll now poll) :=
  .next lived (.polled later poll)

def restarted : Session :=
  (((((opened 0 true (text "home")).complete (seconds 1) (absentAnswers false)).poll
    (seconds 2) (absentPoll "home")).poll (seconds 3) (absentPoll "home")).poll
    (seconds 6) (absentPoll "home")).complete (seconds 7) (absentAnswers true)

theorem automaticStarts_policy_restarted :
    StartPolicy (text "home") restarted.history ∧
      restarted.history.countP isAutomatic = 1 := by
  have lived : Lived (text "home") restarted :=
    lived_complete (lived_poll (lived_poll (lived_poll
      (lived_complete (.start ⟨0, true, rfl⟩) (by decide) (by decide) _)
      (by decide) _) (by decide) _) (by decide) _) (by decide) (by decide) _
  exact ⟨automaticStarts_policy lived, by decide⟩

def roamed : Session :=
  (((((opened 0 true (text "home")).complete (seconds 1) (absentAnswers false)).poll
    (seconds 2) (absentPoll "away")).complete (seconds 3) (absentAnswers true)).poll
    (seconds 4) (runningPoll "away")).poll (seconds 5) (absentPoll "home")
    |>.complete (seconds 6) (absentAnswers true)

/-- Both changes bring about a launch: behind a single failed poll, and three
seconds apart. -/
theorem automaticStarts_roaming :
    Lived (text "home") roamed ∧
      (startWorker (absentAnswers true)).launched = true ∧
      roamed.history =
        [.completed (seconds 6) (absentAnswers true),
          .started (seconds 5) true,
          .polled (seconds 5) (absentPoll "home"),
          .polled (seconds 4) (runningPoll "away"),
          .completed (seconds 3) (absentAnswers true),
          .started (seconds 2) true,
          .polled (seconds 2) (absentPoll "away"),
          .completed (seconds 1) (absentAnswers false),
          .started 0 false] ∧
      milliseconds (seconds 2) (seconds 5) < 5000 := by
  have lived : Lived (text "home") roamed :=
    lived_complete (lived_poll (lived_poll (lived_complete (lived_poll
      (lived_complete (.start ⟨0, true, rfl⟩) (by decide) (by decide) _)
      (by decide) _) (by decide) (by decide) _) (by decide) _) (by decide) _)
      (by decide) (by decide) _
  exact ⟨lived, by decide, rfl, by decide⟩

end CoreWindow

end NativeDNS
