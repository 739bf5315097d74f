/-
The redirect and the proxy together.

`Shaped` says what is installed and what listens at each point of a call, in
every run.  What a run may not do is leave the failure of a loop unseen: the
backend reports its own `status`, which no loop changes.
-/
import NativeDNS.Listener.Lifecycle
import NativeDNS.Listener.LinuxInterception

namespace NativeDNS

namespace LinuxNftInterception

def redirectTable (backend : LinuxNftInterception) (port : UInt16) : NftTable :=
  { chain := true
    rules := redirectRules backend.intercepted port }

/-- The commands left complete the redirect to the port of the proxy. -/
def Completes (backend : LinuxNftInterception) (left : List NftCommand) : Prop :=
  left.foldl NftCommand.run backend.table =
    some (backend.redirectTable backend.proxy.boundPort)

end LinuxNftInterception

/-! ### A call of the proxy -/

/-- A `start` of a stopped proxy, or its result. -/
def Proxy.Starts (proxy : Proxy) : Prop :=
  match proxy.call with
  | .starting .entered => proxy.state = .stopped
  | .starting _ | .rollback _ _ => True
  | .free =>
      (proxy.thrown = none ∧ proxy.Up) ∨ (proxy.thrown ≠ none ∧ proxy.Quiet)
  | .stopEntered | .cancelling | .stopping _ => False

/-- A `stop` of the proxy, or its result. -/
def Proxy.Stops (proxy : Proxy) : Prop :=
  match proxy.call with
  | .stopEntered | .cancelling | .stopping _ => True
  | .free => proxy.Quiet ∧ proxy.state = .stopped ∧ proxy.lost = false
  | .starting _ | .rollback _ _ => False

section Proxy

variable {strerror : Nat → Bytes} {proxy after : Proxy} {outcome : Outcome}

theorem rollbackStep_starts (sound : proxy.Sound) {thrown : Thrown} {point : Teardown}
    (call : proxy.call = .rollback thrown point)
    (stepped : proxy.rollbackStep thrown point = some after) : after.Starts := by
  have torn := sound.shape
  unfold Proxy.Shape at torn
  rw [call] at torn
  obtain ⟨⟨listening, next⟩, tore, same⟩ := Option.map_eq_some_iff.mp stepped
  have further := tearDown_torn torn tore
  cases next with
  | some next =>
      cases same
      trivial
  | none =>
      cases same
      have quiet : listening.Quiet := further.torn
      refine Or.inr ⟨nofun, ?_⟩
      exact ⟨quiet.halted, quiet.closed, quiet.unbound, quiet.joined⟩

theorem startStep_starts (sound : proxy.Sound) (starts : proxy.Starts)
    {point : StartPoint} (call : proxy.call = .starting point)
    (stepped : proxy.startStep strerror point outcome = some after) : after.Starts := by
  have shape := sound.shape
  unfold Proxy.Shape at shape
  unfold Proxy.Starts at starts
  rw [call] at shape starts
  unfold Proxy.startStep at stepped
  split at stepped
  case h_1 =>
    have stopped : proxy.state = .stopped := starts
    rw [if_pos stopped] at stepped
    cases stepped
    trivial
  case h_7 =>
    split at stepped <;> cases stepped <;> trivial
  case h_13 =>
    cases stepped
    exact Or.inl ⟨rfl, shape⟩
  case h_18 =>
    cases stepped
  all_goals
    cases stepped
    trivial

theorem proceed_starts (sound : proxy.Sound) (starts : proxy.Starts)
    (stepped : proxy.proceed strerror outcome = some after) : after.Starts := by
  have begun := starts
  unfold Proxy.Starts at starts
  unfold Proxy.proceed at stepped
  split at stepped
  case h_2 point _ call =>
    exact startStep_starts sound begun call stepped
  case h_3 thrown point call =>
    exact rollbackStep_starts sound call stepped
  case h_1 =>
    cases stepped
  case h_7 =>
    cases stepped
  all_goals
    rename_i call
    rw [call] at starts
    exact starts.elim

theorem proceed_stops (sound : proxy.Sound) (stops : proxy.Stops)
    (stepped : proxy.proceed strerror outcome = some after) : after.Stops := by
  have shape := sound.shape
  unfold Proxy.Shape at shape
  unfold Proxy.Stops at stops
  unfold Proxy.proceed at stepped
  split at stepped
  case h_1 =>
    cases stepped
  case h_2 call =>
    rw [call] at stops
    exact stops.elim
  case h_3 call =>
    rw [call] at stops
    exact stops.elim
  case h_4 call =>
    rw [call] at shape
    have settled : proxy.Settled := shape
    split at stepped
    · rename_i stopped
      cases stepped
      refine ⟨settled.stopped stopped, stopped, ?_⟩
      cases lost : proxy.lost with
      | false =>
          exact lost
      | true =>
          have keeps := Proxy.keepsState_of call trivial
          have failed := sound.reported keeps lost
          rw [stopped] at failed
          cases failed
    · cases stepped
      trivial
  case h_5 =>
    cases stepped
    trivial
  case h_6 point call =>
    rw [call] at shape
    obtain ⟨⟨listening, next⟩, tore, same⟩ := Option.map_eq_some_iff.mp stepped
    have further := tearDown_torn shape tore
    cases next with
    | some next =>
        cases same
        trivial
    | none =>
        cases same
        have quiet : listening.Quiet := further.torn
        exact ⟨⟨quiet.halted, quiet.closed, quiet.unbound, quiet.joined⟩, rfl, rfl⟩
  case h_7 =>
    cases stepped

theorem LoopMoved.starts {listening : Listening} {listener : Listener}
    (moved : LoopMoved proxy.toListening listening listener) (sound : proxy.Sound)
    (starts : proxy.Starts) : Proxy.Starts { proxy with toListening := listening } := by
  have shape := sound.shape
  unfold Proxy.Shape at shape
  unfold Proxy.Starts at starts ⊢
  cases call : proxy.call with
  | free =>
      rw [call] at starts
      rcases starts with ⟨returned, up⟩ | ⟨_, quiet⟩
      · exact Or.inl ⟨returned, moved.spawning up⟩
      · exact absurd (quiet.joined listener) moved.there
  | starting point =>
      rw [call] at starts shape
      cases point with
      | entered =>
          have settled : proxy.Settled := shape
          exact absurd ((settled.stopped starts).joined listener) moved.there
      | _ =>
          trivial
  | rollback thrown point =>
      trivial
  | stopEntered | cancelling | stopping _ =>
      rw [call] at starts
      exact starts.elim

theorem LoopMoved.stops {listening : Listening} {listener : Listener}
    (moved : LoopMoved proxy.toListening listening listener) (stops : proxy.Stops) :
    Proxy.Stops { proxy with toListening := listening } := by
  unfold Proxy.Stops at stops ⊢
  cases call : proxy.call with
  | free =>
      rw [call] at stops
      exact absurd (stops.1.joined listener) moved.there
  | stopEntered | cancelling | stopping _ =>
      trivial
  | starting _ | rollback _ _ =>
      rw [call] at stops
      exact stops.elim

end Proxy

/-! ### The backend -/

namespace LinuxNftInterception

/-- Nothing is installed and nothing listens. -/
def Parked (backend : LinuxNftInterception) : Prop :=
  backend.proxy.call = .free ∧ backend.proxy.Quiet ∧ backend.table = none

def Listens (backend : LinuxNftInterception) : Prop :=
  backend.proxy.call = .free ∧ backend.proxy.Up

/-- Between two calls; `starting` is left by a `start` that has thrown anything but
an error of the core. -/
def FreeShaped (backend : LinuxNftInterception) : State → Prop
  | .stopped => backend.Parked ∧ backend.proxy.state = .stopped
  | .starting | .error => backend.Parked
  | .running => backend.Listens ∧ backend.Completes []
  | .stopping => False

def StartShaped (backend : LinuxNftInterception) : NftStart → Prop
  | .options | .privileges | .findNft => backend.Parked ∧ backend.proxy.state = .stopped
  | .proxy => backend.table = none ∧ backend.proxy.Starts
  | .port => backend.table = none ∧ backend.Listens
  | .deleteStale port => backend.Listens ∧ port = backend.proxy.boundPort
  | .script port left =>
      backend.Listens ∧ port = backend.proxy.boundPort ∧ backend.Completes left
  | .undoProxy => backend.proxy.Stops
  | .undoTable => backend.proxy.call = .free ∧ backend.proxy.Stops

def Shaped (backend : LinuxNftInterception) : Prop :=
  match backend.call with
  | .free => backend.FreeShaped backend.status.state
  | .starting point => backend.status.state = .starting ∧ backend.StartShaped point
  | .deleting => backend.proxy.call = .free
  | .stopping => backend.table = none ∧ backend.proxy.Stops

structure Sound (backend : LinuxNftInterception) : Prop where
  proxy : backend.proxy.Sound
  shaped : backend.Shaped

end LinuxNftInterception

open LinuxNftInterception

section Backend

variable {platform : Platform} {strerror : Nat → Bytes}
  {backend after : LinuxNftInterception}

theorem nftSound_initial (config : Config) (intercepted : UInt16) :
    LinuxNftInterception.Sound
      { config := config
        intercepted := intercepted } where
  proxy := proxySound_initial 0
  shaped := ⟨⟨rfl, ⟨rfl, fun _ => rfl, rfl, fun _ => rfl⟩, rfl⟩, rfl⟩

theorem Proxy.Stops.ended {proxy : Proxy} (stops : proxy.Stops) (free : proxy.call = .free) :
    proxy.Quiet ∧ proxy.state = .stopped ∧ proxy.lost = false := by
  unfold Proxy.Stops at stops
  rw [free] at stops
  exact stops

theorem Proxy.Sound.called {proxy : Proxy} (sound : proxy.Sound) (free : proxy.call = .free)
    {call : ProxyCall} (begins : call = .starting .entered ∨ call = .stopEntered) :
    (proxy.goes call).Sound := by
  have shape := sound.shape
  unfold Proxy.Shape at shape
  rw [free] at shape
  have keeps := Proxy.keepsState_of free trivial
  rcases begins with starts | stops
  · subst starts
    exact sound.goes keeps shape
  · subst stops
    exact sound.goes keeps shape

theorem startStep_shaped (sound : backend.Sound) {point : NftStart}
    (call : backend.call = .starting point) {succeeded : Bool}
    (stepped : backend.startStep succeeded point = some after) : after.Sound := by
  have shaped := sound.shaped
  unfold Shaped at shaped
  rw [call] at shaped
  obtain ⟨starting, shape⟩ := shaped
  cases point with
  | options =>
      simp only [LinuxNftInterception.startStep, Option.some.injEq] at stepped
      obtain ⟨parked, stopped⟩ := shape
      split at stepped
      · subst stepped
        exact ⟨sound.proxy, starting, parked, stopped⟩
      · subst stepped
        exact ⟨sound.proxy, parked⟩
  | privileges =>
      simp only [LinuxNftInterception.startStep, Option.some.injEq] at stepped
      obtain ⟨parked, stopped⟩ := shape
      split at stepped
      · subst stepped
        exact ⟨sound.proxy, starting, parked, stopped⟩
      · subst stepped
        exact ⟨sound.proxy, parked⟩
  | findNft =>
      simp only [LinuxNftInterception.startStep, Option.some.injEq] at stepped
      obtain ⟨parked, stopped⟩ := shape
      split at stepped
      · subst stepped
        exact ⟨sound.proxy.called parked.1 (Or.inl rfl), starting, parked.2.2, stopped⟩
      · subst stepped
        exact ⟨sound.proxy, parked⟩
  | proxy =>
      simp only [LinuxNftInterception.startStep] at stepped
      obtain ⟨bare, starts⟩ := shape
      unfold Proxy.Starts at starts
      split at stepped
      · rename_i free
        rw [free] at starts
        split at stepped
        · rename_i returned
          cases stepped
          rcases starts with ⟨_, up⟩ | ⟨threw, _⟩
          · exact ⟨sound.proxy, starting, bare, free, up⟩
          · exact absurd returned threw
        · rename_i error threw
          cases stepped
          rcases starts with ⟨returned, _⟩ | ⟨_, quiet⟩
          · rw [returned] at threw
            cases threw
          · exact ⟨sound.proxy, free, quiet, bare⟩
        · rename_i what threw
          cases stepped
          rcases starts with ⟨returned, _⟩ | ⟨_, quiet⟩
          · rw [returned] at threw
            cases threw
          · refine ⟨sound.proxy, ?_⟩
            unfold Shaped
            simp only
            rw [starting]
            exact ⟨free, quiet, bare⟩
      · cases stepped
  | port =>
      simp only [LinuxNftInterception.startStep, Option.some.injEq] at stepped
      obtain ⟨_, listens⟩ := shape
      rw [if_neg listens.2.bound] at stepped
      subst stepped
      exact ⟨sound.proxy, starting, listens, rfl⟩
  | deleteStale port =>
      cases stepped
      obtain ⟨listens, same⟩ := shape
      subst same
      exact ⟨sound.proxy, starting, listens, rfl, rfl⟩
  | script port left =>
      obtain ⟨listens, same, completes⟩ := shape
      cases left with
      | nil =>
          cases stepped
          exact ⟨sound.proxy, listens, completes⟩
      | cons command left =>
          simp only [LinuxNftInterception.startStep, Option.some.injEq] at stepped
          split at stepped
          · subst stepped
            exact ⟨sound.proxy, starting, listens, same, completes⟩
          · subst stepped
            exact ⟨sound.proxy.called listens.1 (Or.inr rfl), starting, trivial⟩
  | undoProxy =>
      simp only [LinuxNftInterception.startStep] at stepped
      split at stepped
      · rename_i free
        cases stepped
        exact ⟨sound.proxy, starting, free, shape⟩
      · cases stepped
  | undoTable =>
      cases stepped
      obtain ⟨free, stops⟩ := shape
      exact ⟨sound.proxy, free, (stops.ended free).1, rfl⟩

theorem LinuxNftInterception.Sound.free (sound : backend.Sound)
    (free : backend.call = .free) : backend.FreeShaped backend.status.state := by
  have shaped := sound.shaped
  unfold Shaped at shaped
  rw [free] at shaped
  exact shaped

theorem freeShaped_proxy {state : State} (shaped : backend.FreeShaped state) :
    backend.proxy.call = .free := by
  cases state with
  | stopped =>
      exact shaped.1.1
  | starting =>
      exact shaped.1
  | running =>
      exact shaped.1.1
  | stopping =>
      exact shaped.elim
  | error =>
      exact shaped.1

theorem nftProceed_sound (sound : backend.Sound) {succeeded : Bool}
    (stepped : backend.proceed succeeded = some after) : after.Sound := by
  have shaped := sound.shaped
  unfold Shaped at shaped
  unfold LinuxNftInterception.proceed at stepped
  split at stepped
  case h_1 =>
    cases stepped
  case h_2 point call =>
    exact startStep_shaped sound call stepped
  case h_3 call =>
    rw [call] at shaped
    cases stepped
    exact ⟨sound.proxy.called shaped (Or.inr rfl), rfl, trivial⟩
  case h_4 call =>
    rw [call] at shaped
    obtain ⟨bare, stops⟩ := shaped
    split at stepped
    · rename_i free
      cases stepped
      obtain ⟨quiet, stopped, _⟩ := stops.ended free
      exact ⟨sound.proxy, ⟨free, quiet, bare⟩, stopped⟩
    · cases stepped

theorem nftProxy_sound (sound : backend.Sound) {outcome : Outcome} {proxy : Proxy}
    (stepped : backend.proxy.proceed strerror outcome = some proxy) :
    LinuxNftInterception.Sound { backend with proxy := proxy } := by
  have shaped := sound.shaped
  have busy : backend.proxy.call ≠ .free := by
    intro free
    unfold Proxy.proceed at stepped
    rw [free] at stepped
    cases stepped
  refine ⟨proceed_sound sound.proxy stepped, ?_⟩
  unfold Shaped at shaped ⊢
  cases call : backend.call with
  | free =>
      exact absurd (freeShaped_proxy (sound.free call)) busy
  | deleting =>
      rw [call] at shaped
      exact absurd shaped busy
  | stopping =>
      rw [call] at shaped
      exact ⟨shaped.1, proceed_stops sound.proxy shaped.2 stepped⟩
  | starting point =>
      rw [call] at shaped
      obtain ⟨starting, shape⟩ := shaped
      refine ⟨starting, ?_⟩
      cases point with
      | proxy =>
          exact ⟨shape.1, proceed_starts sound.proxy shape.2 stepped⟩
      | undoProxy =>
          exact proceed_stops sound.proxy shape stepped
      | options | privileges | findNft =>
          exact absurd shape.1.1 busy
      | port =>
          exact absurd shape.2.1 busy
      | deleteStale _ | script _ _ =>
          exact absurd shape.1.1 busy
      | undoTable =>
          exact absurd shape.1 busy

section Loops

variable {listening : Listening} {listener : Listener}

theorem LoopMoved.not_parked (moved : LoopMoved backend.proxy.toListening listening listener)
    (parked : backend.Parked) : False :=
  moved.there (parked.2.1.joined listener)

theorem LoopMoved.listens (moved : LoopMoved backend.proxy.toListening listening listener)
    (listens : backend.Listens) :
    Listens { backend with proxy := { backend.proxy with toListening := listening } } :=
  ⟨listens.1, moved.spawning listens.2⟩

theorem LoopMoved.completes
    (moved : LoopMoved backend.proxy.toListening listening listener)
    {left : List NftCommand} (completes : backend.Completes left) :
    Completes { backend with proxy := { backend.proxy with toListening := listening } }
      left := by
  unfold Completes at completes ⊢
  simp only
  rw [moved.boundPort]
  exact completes

theorem LoopMoved.shaped (moved : LoopMoved backend.proxy.toListening listening listener)
    (sound : backend.Sound) :
    Shaped { backend with proxy := { backend.proxy with toListening := listening } } := by
  have shaped := sound.shaped
  unfold Shaped at shaped ⊢
  cases call : backend.call with
  | free =>
      rw [call] at shaped
      simp only at shaped ⊢
      cases state : backend.status.state with
      | running =>
          rw [state] at shaped
          exact ⟨moved.listens shaped.1, moved.completes shaped.2⟩
      | stopped =>
          rw [state] at shaped
          exact (moved.not_parked shaped.1).elim
      | starting =>
          rw [state] at shaped
          exact (moved.not_parked shaped).elim
      | error =>
          rw [state] at shaped
          exact (moved.not_parked shaped).elim
      | stopping =>
          rw [state] at shaped
          exact shaped.elim
  | deleting =>
      rw [call] at shaped
      exact shaped
  | stopping =>
      rw [call] at shaped
      exact ⟨shaped.1, moved.stops shaped.2⟩
  | starting point =>
      rw [call] at shaped
      obtain ⟨starting, shape⟩ := shaped
      refine ⟨starting, ?_⟩
      cases point with
      | options | privileges | findNft =>
          exact (moved.not_parked shape.1).elim
      | proxy =>
          exact ⟨shape.1, moved.starts sound.proxy shape.2⟩
      | port =>
          exact ⟨shape.1, moved.listens shape.2⟩
      | deleteStale port =>
          exact ⟨moved.listens shape.1, shape.2.trans moved.boundPort.symm⟩
      | script port left =>
          obtain ⟨listens, same, completes⟩ := shape
          exact ⟨moved.listens listens, same.trans moved.boundPort.symm,
            moved.completes completes⟩
      | undoProxy =>
          exact moved.stops shape
      | undoTable =>
          exact ⟨shape.1, moved.stops shape.2⟩

end Loops

theorem LinuxNftInterception.Sound.step (sound : backend.Sound) {action : NftAction}
    (performed : performNft platform strerror backend action = some after) :
    after.Sound := by
  cases action with
  | start =>
      simp only [performNft] at performed
      split at performed
      · rename_i free
        split at performed
        · rename_i stopped
          cases performed
          have shaped := sound.free free
          rw [stopped] at shaped
          exact ⟨sound.proxy, rfl, shaped⟩
        · cases performed
          exact sound
      · cases performed
  | stop =>
      simp only [performNft] at performed
      split at performed
      · rename_i free
        split at performed
        · cases performed
          exact sound
        · cases performed
          exact ⟨sound.proxy, freeShaped_proxy (sound.free free)⟩
      · cases performed
  | reload config =>
      cases performed
      unfold LinuxNftInterception.reload
      split
      · exact sound
      · split
        · exact sound
        · exact ⟨sound.proxy, sound.shaped⟩
  | proceed succeeded =>
      exact nftProceed_sound sound performed
  | proxy outcome =>
      obtain ⟨proxy, stepped, same⟩ := Option.map_eq_some_iff.mp performed
      rw [← same]
      exact nftProxy_sound sound stepped
  | loop listener event =>
      obtain ⟨proxy, stepped, same⟩ := Option.map_eq_some_iff.mp performed
      obtain ⟨move, moves, moved⟩ := Option.map_eq_some_iff.mp stepped
      rw [← same, ← moved]
      have further := moveLoop_moved moves
      exact ⟨further.sound sound.proxy, further.shaped sound⟩

end Backend

end NativeDNS
