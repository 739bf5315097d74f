/-
Whether the watchdog of the host sees that a listener loop has failed.

The proxy reports a failed loop in its own `state`.  The backend never reads it
again: its `status` is set by `start` and `stop` only.  The steps that leave a
failure unseen are exactly those of `Unseen`.
-/
import NativeDNS.Listener.LinuxLifecycle

namespace NativeDNS

open LinuxNftInterception

/-- One step, and the states of a backend from its construction. -/
abbrev NftReached (platform : Platform) (strerror : Nat → Bytes) (config : Config)
    (intercepted : UInt16) : LinuxNftInterception → Prop :=
  Transition.Reachable
    (fun backend => backend =
      { config := config
        intercepted := intercepted })
    fun before after => ∃ action, performNft platform strerror before action = some after

namespace LinuxNftInterception

/-- What `status` promises when it can be read. -/
structure Intercepts (backend : LinuxNftInterception) : Prop where
  running : backend.call = .free → backend.status.state = .running →
    backend.table = some (backend.redirectTable backend.proxy.boundPort) ∧
      ∀ listener, backend.proxy.opened listener = true ∧
        ∃ point, backend.proxy.thread listener = .live point
  failed : backend.call = .free → backend.proxy.lost = true →
    backend.status.state = .error ∧ ∃ error, checkBackend backend.status = .error error

/-- Neither the redirect nor a listener is there. -/
def Gone (backend : LinuxNftInterception) : Prop :=
  backend.table = none ∧
    ∀ listener, backend.proxy.opened listener = false ∧
      backend.proxy.thread listener = .none

/-- A step that returns from `stop`. -/
def ReturnsFromStop (before after : LinuxNftInterception) (action : NftAction) : Prop :=
  (before.call = .stopping ∨ action = .stop) ∧ after.call = .free

/-- In the thread of a loop that ends on a failure with its next step. -/
def fails : LoopThread → Bool
  | .live (.failing _) => true
  | _ => false

/-- In the last part of `start`. -/
def completes : NftCall → Bool
  | .starting (.script _ []) => true
  | _ => false

def isException : Option Thrown → Bool
  | some (.exception _) => true
  | _ => false

/-- The steps that leave the failure of a loop unseen: the loop fails while no
call is in progress, or it has failed when `start` completes the redirect or is
left by an exception it does not catch. -/
def Unseen (backend : LinuxNftInterception) : NftAction → Prop
  | .loop listener _ =>
      backend.call = .free ∧ fails (backend.proxy.thread listener) = true
  | .proceed _ =>
      backend.proxy.lost = true ∧
        (completes backend.call = true ∨
          (backend.call = .starting .proxy ∧ isException backend.proxy.thrown = true))
  | .start | .stop | .reload _ | .proxy _ => False

instance (backend : LinuxNftInterception) :
    (action : NftAction) → Decidable (backend.Unseen action)
  | .loop _ _ => inferInstanceAs (Decidable (_ ∧ _))
  | .proceed _ => inferInstanceAs (Decidable (_ ∧ (_ ∨ (_ ∧ _))))
  | .start | .stop | .reload _ | .proxy _ => inferInstanceAs (Decidable False)

end LinuxNftInterception

/-- The states of the runs that leave no failure unseen. -/
abbrev WatchedReached (platform : Platform) (strerror : Nat → Bytes) (config : Config)
    (intercepted : UInt16) : LinuxNftInterception → Prop :=
  Transition.Reachable
    (fun backend => backend =
      { config := config
        intercepted := intercepted })
    fun before after => ∃ action, performNft platform strerror before action = some after ∧
      ¬ before.Unseen action

section Runs

variable {platform : Platform} {strerror : Nat → Bytes} {config : Config}
  {intercepted : UInt16} {backend after : LinuxNftInterception}

theorem nftSound_reached
    (reached : NftReached platform strerror config intercepted backend) : backend.Sound := by
  apply reached.invariant
  · rintro _ rfl
    exact nftSound_initial config intercepted
  · intro before after _ sound moved
    obtain ⟨action, performed⟩ := moved
    exact sound.step performed

theorem WatchedReached.reached
    (watched : WatchedReached platform strerror config intercepted backend) :
    NftReached platform strerror config intercepted backend := by
  apply watched.mono
  · exact fun _ same => same
  · intro before after moved
    obtain ⟨action, performed, _⟩ := moved
    exact ⟨action, performed⟩

def LinuxNftInterception.Reported (backend : LinuxNftInterception) : Prop :=
  backend.call = .free → backend.proxy.lost = true → backend.status.state = .error

theorem raise_reported (error : Error) : (backend.raise error).Reported :=
  fun _ _ => rfl

theorem busy_reported (busy : backend.call ≠ .free) : backend.Reported :=
  fun free => absurd free busy

theorem startStep_reported {point : NftStart} (call : backend.call = .starting point)
    {succeeded : Bool} (seen : ¬ backend.Unseen (.proceed succeeded))
    (stepped : backend.startStep succeeded point = some after) : after.Reported := by
  cases point with
  | options | privileges | findNft | port =>
      simp only [LinuxNftInterception.startStep, Option.some.injEq] at stepped
      split at stepped
      all_goals
        subst stepped
        first
          | exact raise_reported _
          | exact busy_reported NftCall.noConfusion
  | proxy =>
      simp only [LinuxNftInterception.startStep] at stepped
      split at stepped
      · split at stepped
        · cases stepped
          exact busy_reported NftCall.noConfusion
        · cases stepped
          exact raise_reported _
        · rename_i what threw
          cases stepped
          intro _ lost
          have exception : isException backend.proxy.thrown = true := by
            rw [threw]
            rfl
          exact absurd ⟨lost, Or.inr ⟨call, exception⟩⟩ seen
      · cases stepped
  | deleteStale port =>
      cases stepped
      exact busy_reported NftCall.noConfusion
  | script port left =>
      cases left with
      | nil =>
          cases stepped
          intro _ lost
          have last : completes backend.call = true := by
            rw [call]
            rfl
          exact absurd ⟨lost, Or.inl last⟩ seen
      | cons command left =>
          simp only [LinuxNftInterception.startStep, Option.some.injEq] at stepped
          split at stepped
          all_goals
            subst stepped
            exact busy_reported NftCall.noConfusion
  | undoProxy =>
      simp only [LinuxNftInterception.startStep] at stepped
      split at stepped
      · cases stepped
        exact busy_reported NftCall.noConfusion
      · cases stepped
  | undoTable =>
      cases stepped
      exact raise_reported _

theorem nftProceed_reported (sound : backend.Sound) {succeeded : Bool}
    (seen : ¬ backend.Unseen (.proceed succeeded))
    (stepped : backend.proceed succeeded = some after) : after.Reported := by
  have shaped := sound.shaped
  unfold Shaped at shaped
  unfold LinuxNftInterception.proceed at stepped
  split at stepped
  case h_1 =>
    cases stepped
  case h_2 point call =>
    exact startStep_reported call seen stepped
  case h_3 =>
    cases stepped
    exact busy_reported NftCall.noConfusion
  case h_4 call =>
    rw [call] at shaped
    split at stepped
    · rename_i free
      cases stepped
      intro _ lost
      obtain ⟨_, _, kept⟩ := shaped.2.ended free
      have lostBefore := kept.symm.trans lost
      cases lostBefore
    · cases stepped

theorem moveLoop_lost {listening : Listening} {listener : Listener}
    {event : LoopEvent Unit} {move : LoopMove LoopPoint Unit}
    (moves : listening.loopMove strerror listener event = some move) :
    (listening.moveLoop listener move).lost = listening.lost ∨
      fails (listening.thread listener) = true := by
  unfold Listening.loopMove at moves
  cases standing : listening.thread listener with
  | none =>
      rw [standing] at moves
      cases moves
  | ended =>
      rw [standing] at moves
      cases moves
  | live point =>
      rw [standing] at moves
      unfold Listening.moveLoop
      cases effect : move.effect with
      | none =>
          exact Or.inl rfl
      | submit item =>
          exact Or.inl rfl
      | report message =>
          exact Or.inl rfl
      | fail message =>
          obtain ⟨failing, _⟩ := loopStep_fail moves effect
          subst failing
          exact Or.inr rfl

theorem reported_step (sound : backend.Sound) (reported : backend.Reported)
    {action : NftAction} (seen : ¬ backend.Unseen action)
    (performed : performNft platform strerror backend action = some after) :
    after.Reported := by
  cases action with
  | start =>
      simp only [performNft] at performed
      split at performed
      · split at performed
        · cases performed
          exact busy_reported NftCall.noConfusion
        · cases performed
          exact reported
      · cases performed
  | stop =>
      simp only [performNft] at performed
      split at performed
      · split at performed
        · cases performed
          exact reported
        · cases performed
          exact busy_reported NftCall.noConfusion
      · cases performed
  | reload config =>
      cases performed
      unfold LinuxNftInterception.reload
      split
      · exact reported
      · split
        · exact reported
        · exact reported
  | proceed succeeded =>
      exact nftProceed_reported sound seen performed
  | proxy outcome =>
      obtain ⟨proxy, stepped, same⟩ := Option.map_eq_some_iff.mp performed
      rw [← same]
      intro free
      have idle := freeShaped_proxy (sound.free free)
      simp only [performProxy, Proxy.proceed] at stepped
      rw [idle] at stepped
      cases stepped
  | loop listener event =>
      obtain ⟨proxy, stepped, same⟩ := Option.map_eq_some_iff.mp performed
      obtain ⟨move, moves, moved⟩ := Option.map_eq_some_iff.mp stepped
      rw [← same, ← moved]
      intro free lost
      rcases moveLoop_lost moves with kept | failing
      · exact reported free (kept.symm.trans lost)
      · exact absurd ⟨free, failing⟩ seen

theorem reported_watched
    (watched : WatchedReached platform strerror config intercepted backend) :
    backend.Reported := by
  apply watched.invariant
  · rintro _ rfl _ lost
    cases lost
  · intro before after through reported moved
    obtain ⟨action, performed, seen⟩ := moved
    have sound := nftSound_reached (WatchedReached.reached through)
    exact reported_step sound reported seen performed

theorem checkBackend_error {status : InterceptionStatus} (failed : status.state = .error) :
    ∃ error, checkBackend status = .error error := by
  unfold checkBackend
  rw [if_pos failed]
  exact ⟨_, rfl⟩

theorem Reported.intercepts (sound : backend.Sound) (reported : backend.Reported) :
    backend.Intercepts where
  running := by
    intro free running
    have shaped := sound.free free
    rw [running] at shaped
    obtain ⟨⟨_, up⟩, complete⟩ := shaped
    refine ⟨complete, ?_⟩
    intro listener
    refine ⟨up.opened listener, ?_⟩
    cases standing : backend.proxy.thread listener with
    | live point =>
        exact ⟨point, rfl⟩
    | none =>
        exact absurd standing (up.spawned listener List.not_mem_nil)
    | ended =>
        have lost := sound.proxy.ended up.running listener standing
        have failed := reported free lost
        rw [running] at failed
        cases failed
  failed := by
    intro free lost
    have failed := reported free lost
    exact ⟨failed, checkBackend_error failed⟩

theorem gone_of_parked (parked : backend.Parked) : backend.Gone := by
  obtain ⟨_, quiet, bare⟩ := parked
  exact ⟨bare, fun listener => ⟨quiet.closed listener, quiet.joined listener⟩⟩

theorem stopped_of_returnsFromStop {action : NftAction}
    (performed : performNft platform strerror backend action = some after)
    (returns : ReturnsFromStop backend after action) : after.status.state = .stopped := by
  obtain ⟨stops, free⟩ := returns
  cases action with
  | start =>
      have stopping := stops.resolve_right NftAction.noConfusion
      simp only [performNft] at performed
      rw [stopping, if_neg NftCall.noConfusion] at performed
      cases performed
  | stop =>
      simp only [performNft] at performed
      split at performed
      · split at performed
        · rename_i stopped
          cases performed
          exact stopped
        · cases performed
          cases free
      · cases performed
  | reload config =>
      have stopping := stops.resolve_right NftAction.noConfusion
      cases performed
      unfold LinuxNftInterception.reload at free
      split at free
      · rw [stopping] at free
        cases free
      · split at free
        · exact NftCall.noConfusion (stopping.symm.trans free)
        · exact NftCall.noConfusion (stopping.symm.trans free)
  | proceed succeeded =>
      have stopping := stops.resolve_right NftAction.noConfusion
      simp only [performNft, LinuxNftInterception.proceed] at performed
      rw [stopping] at performed
      simp only at performed
      split at performed
      · cases performed
        rfl
      · cases performed
  | proxy outcome =>
      have stopping := stops.resolve_right NftAction.noConfusion
      obtain ⟨proxy, _, same⟩ := Option.map_eq_some_iff.mp performed
      rw [← same] at free
      exact NftCall.noConfusion (stopping.symm.trans free)
  | loop listener event =>
      have stopping := stops.resolve_right NftAction.noConfusion
      obtain ⟨proxy, _, same⟩ := Option.map_eq_some_iff.mp performed
      rw [← same] at free
      exact NftCall.noConfusion (stopping.symm.trans free)

theorem gone_of_returnsFromStop (sound : backend.Sound) {action : NftAction}
    (performed : performNft platform strerror backend action = some after)
    (returns : ReturnsFromStop backend after action) : after.Gone := by
  have shaped := (sound.step performed).free returns.2
  rw [stopped_of_returnsFromStop performed returns] at shaped
  exact gone_of_parked shaped.1

/-! ### Steps that leave a failure unseen -/

theorem of_fails {thread : LoopThread} (failing : fails thread = true) :
    ∃ message, thread = .live (.failing message) := by
  unfold fails at failing
  split at failing
  · exact ⟨_, rfl⟩
  · cases failing

theorem of_completes {call : NftCall} (last : completes call = true) :
    ∃ port, call = .starting (.script port []) := by
  unfold completes at last
  split at last
  · exact ⟨_, rfl⟩
  · cases last

theorem of_isException {thrown : Option Thrown} (exception : isException thrown = true) :
    ∃ what, thrown = some (.exception what) := by
  unfold isException at exception
  split at exception
  · exact ⟨_, rfl⟩
  · cases exception

/-- A loop that fails between two calls leaves `status` running. -/
theorem unseen_loop (sound : backend.Sound) {listener : Listener}
    {event : LoopEvent Unit} (unseen : backend.Unseen (.loop listener event))
    (performed : performNft platform strerror backend (.loop listener event) = some after) :
    ¬ after.Intercepts := by
  obtain ⟨free, failing⟩ := unseen
  obtain ⟨message, failing⟩ := of_fails failing
  obtain ⟨proxy, stepped, same⟩ := Option.map_eq_some_iff.mp performed
  obtain ⟨move, moves, moved⟩ := Option.map_eq_some_iff.mp stepped
  have there := (moveLoop_moved moves).there
  have running : backend.status.state = .running := by
    have shaped := sound.free free
    cases state : backend.status.state with
    | running =>
        rfl
    | stopped =>
        rw [state] at shaped
        exact absurd (shaped.1.2.1.joined listener) there
    | starting =>
        rw [state] at shaped
        exact absurd (shaped.2.1.joined listener) there
    | error =>
        rw [state] at shaped
        exact absurd (shaped.2.1.joined listener) there
    | stopping =>
        rw [state] at shaped
        exact shaped.elim
  unfold Listening.loopMove at moves
  rw [failing] at moves
  cases event with
  | step =>
      cases moves
      intro intercepts
      rw [← same, ← moved] at intercepts
      have failed := (intercepts.failed free rfl).1
      rw [running] at failed
      cases failed
  | polled _ | waited _ | enumerated _ | received _ =>
      cases moves

theorem unseen_proceed (sound : backend.Sound) {succeeded : Bool}
    (unseen : backend.Unseen (.proceed succeeded))
    (performed : performNft platform strerror backend (.proceed succeeded) = some after) :
    ¬ after.Intercepts := by
  obtain ⟨lost, last | ⟨call, exception⟩⟩ := unseen
  · obtain ⟨port, call⟩ := of_completes last
    simp only [performNft, LinuxNftInterception.proceed] at performed
    rw [call] at performed
    cases performed
    intro intercepts
    have failed := (intercepts.failed rfl lost).1
    cases failed
  · obtain ⟨what, threw⟩ := of_isException exception
    have shaped := sound.shaped
    unfold Shaped at shaped
    rw [call] at shaped
    simp only [performNft, LinuxNftInterception.proceed] at performed
    rw [call] at performed
    simp only [LinuxNftInterception.startStep] at performed
    split at performed
    · rw [threw] at performed
      cases performed
      intro intercepts
      have failed := (intercepts.failed rfl lost).1
      have state := shaped.1.symm.trans failed
      cases state
    · cases performed

theorem unseen_step (sound : backend.Sound) {action : NftAction}
    (unseen : backend.Unseen action)
    (performed : performNft platform strerror backend action = some after) :
    ¬ after.Intercepts := by
  cases action with
  | proceed succeeded =>
      exact unseen_proceed sound unseen performed
  | loop listener event =>
      exact unseen_loop sound unseen performed
  | start | stop | reload _ | proxy _ =>
      exact unseen.elim

end Runs

/-- In every run that leaves no failure unseen, the backend reports running only
while it intercepts, and a failed loop ends the process; every other step breaks
this.  In every run, nothing is left when `stop` returns. -/
theorem linuxInterception_watched (platform : Platform) (strerror : Nat → Bytes)
    (config : Config) (intercepted : UInt16) :
    (∀ backend, WatchedReached platform strerror config intercepted backend →
        backend.Intercepts) ∧
      (∀ before after action, NftReached platform strerror config intercepted before →
        performNft platform strerror before action = some after →
          (ReturnsFromStop before after action → after.Gone) ∧
            (before.Unseen action → ¬ after.Intercepts)) := by
  constructor
  · intro backend watched
    have sound := nftSound_reached (WatchedReached.reached watched)
    exact Reported.intercepts sound (reported_watched watched)
  · intro before after action reached performed
    have sound := nftSound_reached reached
    exact ⟨gone_of_returnsFromStop sound performed,
      fun unseen => unseen_step sound unseen performed⟩

/-- A `start` that succeeds, on the first attempt to bind the sockets. -/
def startRun : List NftAction :=
  [.start, .proceed true, .proceed true, .proceed true,
    .proxy .done, .proxy .done, .proxy (.bound 5), .proxy .done, .proxy .done,
    .proxy .done, .proxy .done, .proxy .done, .proxy .done, .proxy .done, .proxy .done,
    .proxy .done, .proxy .done, .proceed true, .proceed true, .proceed true,
    .proceed true, .proceed true, .proceed true, .proceed true, .proceed true,
    .proceed true]

/-- After it the IPv4 datagram loop takes a query. -/
def servingRun : List NftAction :=
  startRun ++
    [.loop .udp4 .step, .loop .udp4 .step, .loop .udp4 (.polled (.ready true false)),
      .loop .udp4 (.received (.ok ()))]

/-- After it the `poll` of that loop fails. -/
def failingRun : List NftAction :=
  startRun ++
    [.loop .udp4 .step, .loop .udp4 .step, .loop .udp4 (.polled (.failed 12)),
      .loop .udp4 .step, .loop .udp4 .step]

theorem linuxInterception_watched_serving :
    ∃ backend, WatchedReached ipv4Platform (fun _ => []) {} 53 backend ∧
      backend.Intercepts ∧ backend.status.state = .running ∧
      backend.status.port = 20005 := by
  have ran : ((Transition.performAll
      (fun backend action =>
        if backend.Unseen action then none
        else performNft ipv4Platform (fun _ => []) backend action)
      { config := {}
        intercepted := 53 } servingRun).map fun backend =>
          (backend.status.state, backend.status.port)) = some (.running, 20005) := by
    decide +kernel
  obtain ⟨backend, done, seen⟩ := Option.map_eq_some_iff.mp ran
  have start : WatchedReached ipv4Platform (fun _ => []) {} 53
      { config := {}
        intercepted := 53 } := .start rfl
  have reached : WatchedReached ipv4Platform (fun _ => []) {} 53 backend := by
    apply start.performAll _ done
    intro before action after performed
    split at performed
    · cases performed
    · rename_i seen
      exact ⟨action, performed, seen⟩
  obtain ⟨running, port⟩ := Prod.mk.inj seen
  exact ⟨backend, reached,
    (linuxInterception_watched ipv4Platform (fun _ => []) {} 53).1 backend reached,
    running, port⟩

/-- The watchdog does not see the failed loop, and the redirect stays. -/
theorem linuxInterception_unwatched :
    ¬ ∀ platform strerror config intercepted backend,
      NftReached platform strerror config intercepted backend → backend.Intercepts := by
  intro promised
  have ran : ((Transition.performAll (performNft ipv4Platform fun _ => [])
      { config := {}
        intercepted := 53 } failingRun).map fun backend =>
          (backend.call, backend.proxy.lost, backend.status.state)) =
        some (.free, true, .running) := by
    decide +kernel
  obtain ⟨backend, done, seen⟩ := Option.map_eq_some_iff.mp ran
  have start : NftReached ipv4Platform (fun _ => []) {} 53
      { config := {}
        intercepted := 53 } := .start rfl
  have reached : NftReached ipv4Platform (fun _ => []) {} 53 backend :=
    start.performAll (fun _ action _ performed => ⟨action, performed⟩) done
  obtain ⟨free, rest⟩ := Prod.mk.inj seen
  obtain ⟨lost, running⟩ := Prod.mk.inj rest
  have failed := ((promised _ _ _ _ backend reached).failed free lost).1
  rw [running] at failed
  cases failed

end NativeDNS
