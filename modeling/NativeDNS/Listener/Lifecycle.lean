/-
What holds of the local proxy throughout its life.

Between two calls the sockets, the threads and the port are all there or all
gone, and a loop that has ended on a failure has left its mark in `state`.
-/
import NativeDNS.Listener.Proxy
import NativeDNS.Library.Transition

namespace NativeDNS

namespace Listening

structure Quiet (listening : Listening) : Prop where
  halted : listening.running = false
  closed : ∀ listener, listening.opened listener = false
  unbound : listening.boundPort = 0
  joined : ∀ listener, listening.thread listener = .none

structure Bound (listening : Listening) : Prop where
  opened : ∀ listener, listening.opened listener = true
  bound : listening.boundPort ≠ 0

structure Spawning (listening : Listening) (left : List Listener) : Prop
    extends Bound listening where
  running : listening.running = true
  spawned : ∀ listener, listener ∉ left → listening.thread listener ≠ .none
  state : listening.state = .running ∨ listening.state = .error

/-- Everything is there but, at most, the loops that have ended. -/
abbrev Up (listening : Listening) : Prop :=
  listening.Spawning []

def Settled (listening : Listening) : Prop :=
  (listening.Quiet ∧ (listening.state = .stopped ∨ listening.state = .error)) ∨
    listening.Up

/-- No thread has been created by the call in progress. -/
structure Fresh (listening : Listening) (running : Bool) : Prop where
  running : listening.running = running
  unspawned : ∀ listener, listening.thread listener = .none
  kept : listening.lost = false

def TornDown (listening : Listening) : Teardown → Prop
  | .clearRunning => True
  | .join left =>
      listening.running = false ∧
        ∀ listener, listener ∉ left → listening.thread listener = .none
  | .stopHandlers | .closeListeners =>
      listening.running = false ∧ ∀ listener, listening.thread listener = .none
  | .finish =>
      listening.running = false ∧ (∀ listener, listening.thread listener = .none) ∧
        ∀ listener, listening.opened listener = false

end Listening

namespace Proxy

def Shape (proxy : Proxy) : Prop :=
  match proxy.call with
  | .free | .stopEntered | .starting .entered => proxy.Settled
  | .starting .resume | .starting (.sockets _ _) =>
      proxy.Fresh false ∧ proxy.boundPort = 0
  | .starting (.bound _) =>
      proxy.Fresh false ∧ (proxy.boundPort = 0 ∨ proxy.Bound)
  | .starting .udpHandlers | .starting .tcpHandlers | .starting .setRunning =>
      proxy.Fresh false ∧ proxy.Bound
  | .starting .setState => proxy.Fresh true ∧ proxy.Bound
  | .starting (.spawn left) => proxy.Spawning left
  | .rollback _ point | .stopping point => proxy.TornDown point
  | .cancelling => True

/-- `stop` overwrites `state` when it has decided to stop. -/
def KeepsState (proxy : Proxy) : Prop :=
  match proxy.call with
  | .cancelling | .stopping _ => False
  | _ => True

structure Sound (proxy : Proxy) : Prop where
  shape : proxy.Shape
  /-- While `running` is set, loops end on failures only. -/
  ended : proxy.running = true → ∀ listener,
    proxy.thread listener = .ended → proxy.lost = true
  reported : proxy.KeepsState → proxy.lost = true → proxy.state = .error

end Proxy

open Listening

theorem proxySound_initial (requestedPort : UInt16) :
    Proxy.Sound { requestedPort := requestedPort } where
  shape := Or.inl ⟨⟨rfl, fun _ => rfl, rfl, fun _ => rfl⟩, Or.inl rfl⟩
  ended := nofun
  reported := nofun

variable {strerror : Nat → Bytes} {work : Type}

/-! ### Loops -/

section Loops

variable {listening after : Listening} {listener : Listener}

structure LoopMoved (before after : Listening) (listener : Listener) : Prop where
  running : after.running = before.running
  opened : after.opened = before.opened
  boundPort : after.boundPort = before.boundPort
  there : before.thread listener ≠ .none
  others : ∀ other, other ≠ listener → after.thread other = before.thread other
  stays : after.thread listener ≠ .none
  ends : after.thread listener = .ended →
    after.lost = true ∨ before.running = false
  state : (after.state = before.state ∧ after.lost = before.lost) ∨
    (after.state = .error ∧ after.lost = true)

theorem moveLoop_thread (listener : Listener) (move : LoopMove LoopPoint work) :
    (listening.moveLoop listener move).thread =
      Function.update listening.thread listener
        (match move.next with
        | some point => .live point
        | none => .ended) := by
  unfold moveLoop
  cases move.effect <;> rfl

/-- A step of a loop leaves `state` alone, or the loop fails. -/
theorem moveLoop_state (listener : Listener) (move : LoopMove LoopPoint work) :
    ((listening.moveLoop listener move).state = listening.state ∧
        (listening.moveLoop listener move).lost = listening.lost) ∨
      ((listening.moveLoop listener move).state = .error ∧
        (listening.moveLoop listener move).lost = true) := by
  unfold moveLoop
  cases move.effect with
  | none =>
      exact Or.inl ⟨rfl, rfl⟩
  | submit item =>
      exact Or.inl ⟨rfl, rfl⟩
  | report message =>
      exact Or.inl ⟨rfl, rfl⟩
  | fail message =>
      exact Or.inr ⟨rfl, rfl⟩

theorem moveLoop_moved {event : LoopEvent work} {move : LoopMove LoopPoint work}
    (moves : listening.loopMove strerror listener event = some move) :
    LoopMoved listening (listening.moveLoop listener move) listener := by
  unfold loopMove at moves
  cases standing : listening.thread listener with
  | none =>
      rw [standing] at moves
      cases moves
  | ended =>
      rw [standing] at moves
      cases moves
  | live point =>
      rw [standing] at moves
      have threads : (listening.moveLoop listener move).thread = _ :=
        moveLoop_thread listener move
      have frame : (listening.moveLoop listener move).running = listening.running ∧
          (listening.moveLoop listener move).opened = listening.opened ∧
          (listening.moveLoop listener move).boundPort = listening.boundPort := by
        unfold moveLoop
        cases move.effect <;> exact ⟨rfl, rfl, rfl⟩
      obtain ⟨running, opened, boundPort⟩ := frame
      refine ⟨running, opened, boundPort, ?_, ?_, ?_, ?_, moveLoop_state listener move⟩
      · rw [standing]
        exact nofun
      · intro other different
        rw [threads, Function.update_of_ne different]
      · rw [threads, Function.update_self]
        cases move.next <;> exact nofun
      · rw [threads, Function.update_self]
        intro ends
        have final : move.next = none := by
          cases next : move.next with
          | none =>
              rfl
          | some point =>
              rw [next] at ends
              cases ends
        rcases loopStep_ends moves final with ⟨message, failed⟩ | halted
        · apply Or.inl
          unfold moveLoop
          rw [failed]
        · exact Or.inr halted

namespace LoopMoved

theorem thread_none (moved : LoopMoved listening after listener) (other : Listener) :
    after.thread other = .none ↔ listening.thread other = .none := by
  by_cases same : other = listener
  · subst same
    exact ⟨fun none => absurd none moved.stays, fun none => absurd none moved.there⟩
  · rw [moved.others other same]

theorem state_kept (moved : LoopMoved listening after listener)
    (state : listening.state = .running ∨ listening.state = .error) :
    after.state = .running ∨ after.state = .error := by
  rcases moved.state with ⟨same, _⟩ | ⟨failed, _⟩
  · rw [same]
    exact state
  · exact Or.inr failed

theorem spawning (moved : LoopMoved listening after listener) {left : List Listener}
    (spawning : listening.Spawning left) : after.Spawning left where
  opened := moved.opened ▸ spawning.opened
  bound := moved.boundPort ▸ spawning.bound
  running := moved.running.trans spawning.running
  spawned := by
    intro other absent none
    exact spawning.spawned other absent ((moved.thread_none other).mp none)
  state := moved.state_kept spawning.state

theorem settled (moved : LoopMoved listening after listener)
    (settled : listening.Settled) : after.Settled := by
  rcases settled with ⟨quiet, _⟩ | up
  · exact absurd (quiet.joined listener) moved.there
  · exact Or.inr (moved.spawning up)

theorem tornDown (moved : LoopMoved listening after listener) {point : Teardown}
    (torn : listening.TornDown point) : after.TornDown point := by
  cases point with
  | clearRunning =>
      trivial
  | join left =>
      obtain ⟨halted, joined⟩ := torn
      refine ⟨moved.running.trans halted, ?_⟩
      intro other absent
      exact (moved.thread_none other).mpr (joined other absent)
  | stopHandlers =>
      exact absurd (torn.2 listener) moved.there
  | closeListeners =>
      exact absurd (torn.2 listener) moved.there
  | finish =>
      exact absurd (torn.2.1 listener) moved.there

theorem not_fresh (moved : LoopMoved listening after listener) {running : Bool}
    (fresh : listening.Fresh running) : False :=
  moved.there (fresh.unspawned listener)

end LoopMoved

end Loops

section Calls

variable {proxy : Proxy}

theorem LoopMoved.shape {listening : Listening} {listener : Listener}
    (moved : LoopMoved proxy.toListening listening listener) (shape : proxy.Shape) :
    Proxy.Shape { proxy with toListening := listening } := by
  unfold Proxy.Shape at shape ⊢
  cases call : proxy.call with
  | free =>
      rw [call] at shape
      exact moved.settled shape
  | stopEntered =>
      rw [call] at shape
      exact moved.settled shape
  | cancelling =>
      trivial
  | rollback thrown point =>
      rw [call] at shape
      exact moved.tornDown shape
  | stopping point =>
      rw [call] at shape
      exact moved.tornDown shape
  | starting point =>
      rw [call] at shape
      cases point with
      | entered =>
          exact moved.settled shape
      | spawn left =>
          exact moved.spawning shape
      | resume | sockets _ _ | bound _ | udpHandlers | tcpHandlers | setRunning | setState =>
          exact (moved.not_fresh shape.1).elim

theorem LoopMoved.sound {listening : Listening} {listener : Listener}
    (moved : LoopMoved proxy.toListening listening listener) (sound : proxy.Sound) :
    Proxy.Sound { proxy with toListening := listening } where
  shape := moved.shape sound.shape
  ended := by
    intro running other ended
    have before : proxy.running = true := moved.running.symm.trans running
    by_cases same : other = listener
    · subst same
      rcases moved.ends ended with lost | halted
      · exact lost
      · rw [halted] at before
        cases before
    · have lost := sound.ended before other ((moved.others other same).symm.trans ended)
      rcases moved.state with ⟨_, kept⟩ | ⟨_, now⟩
      · exact kept.trans lost
      · exact now
  reported := by
    intro keeps lost
    rcases moved.state with ⟨same, kept⟩ | ⟨failed, _⟩
    · exact same.trans (sound.reported keeps (kept.symm.trans lost))
    · exact failed

theorem Listening.Settled.stopped {listening : Listening} (settled : listening.Settled)
    (stopped : listening.state = .stopped) : listening.Quiet := by
  rcases settled with ⟨quiet, _⟩ | up
  · exact quiet
  · rcases up.state with running | error
    · rw [stopped] at running
      cases running
    · rw [stopped] at error
      cases error

theorem Proxy.keepsState_of {call : ProxyCall} (stands : proxy.call = call)
    (keeps : (proxy.goes call).KeepsState) : proxy.KeepsState := by
  unfold Proxy.KeepsState at keeps ⊢
  rw [stands]
  exact keeps

theorem Proxy.Sound.goes (sound : proxy.Sound) (keeps : proxy.KeepsState)
    {call : ProxyCall} (shape : (proxy.goes call).Shape) : (proxy.goes call).Sound where
  shape := shape
  ended := sound.ended
  reported := fun _ => sound.reported keeps

theorem Proxy.Sound.leave (sound : proxy.Sound) (keeps : proxy.KeepsState)
    (settled : proxy.Settled) (thrown : Option Thrown) : (proxy.leave thrown).Sound where
  shape := settled
  ended := sound.ended
  reported := fun _ => sound.reported keeps

theorem Listening.Fresh.sound {running : Bool} (fresh : proxy.Fresh running)
    (shape : proxy.Shape) : proxy.Sound where
  shape := shape
  ended := by
    intro _ listener ended
    rw [fresh.unspawned listener] at ended
    cases ended
  reported := by
    intro _ lost
    rw [fresh.kept] at lost
    cases lost

theorem Proxy.Sound.entered (sound : proxy.Sound) (settled : proxy.Settled)
    (keeps : proxy.KeepsState) (stopped : proxy.state = .stopped) :
    proxy.Fresh false ∧ proxy.boundPort = 0 := by
  have quiet := settled.stopped stopped
  have kept : proxy.lost = false := by
    cases lost : proxy.lost with
    | false =>
        rfl
    | true =>
        have failed := sound.reported keeps lost
        rw [stopped] at failed
        cases failed
  exact ⟨⟨quiet.halted, quiet.joined, kept⟩, quiet.unbound⟩

theorem startStep_sound (sound : proxy.Sound) {point : StartPoint}
    (call : proxy.call = .starting point) {outcome : Outcome} {after : Proxy}
    (stepped : proxy.startStep strerror point outcome = some after) : after.Sound := by
  have shape := sound.shape
  have keeps := Proxy.keepsState_of call trivial
  unfold Proxy.Shape at shape
  rw [call] at shape
  unfold Proxy.startStep at stepped
  split at stepped
  case h_1 =>
    have settled : proxy.Settled := shape
    split at stepped
    · rename_i stopped
      cases stepped
      obtain ⟨fresh, unbound⟩ := sound.entered settled keeps stopped
      have later : Listening.Fresh { proxy.toListening with state := .starting } false :=
        ⟨fresh.running, fresh.unspawned, fresh.kept⟩
      exact later.sound ⟨later, unbound⟩
    · cases stepped
      exact sound.leave keeps settled _
  case h_2 =>
    cases stepped
    exact sound.goes keeps shape
  case h_3 random =>
    cases stepped
    obtain ⟨fresh, _⟩ := shape
    have later : Listening.Fresh
        { proxy.toListening with
          opened := fun _ => true
          boundPort := proxy.chosenPort random } false :=
      ⟨fresh.running, fresh.unspawned, fresh.kept⟩
    refine later.sound ⟨later, ?_⟩
    by_cases unbound : proxy.chosenPort random = 0
    · exact Or.inl unbound
    · exact Or.inr ⟨fun _ => rfl, unbound⟩
  case h_4 =>
    cases stepped
    obtain ⟨fresh, unbound⟩ := shape
    have later : Listening.Fresh
        { proxy.toListening with opened := fun _ => false } false :=
      ⟨fresh.running, fresh.unspawned, fresh.kept⟩
    exact later.sound ⟨later, unbound⟩
  case h_5 opened _ =>
    cases stepped
    obtain ⟨fresh, _⟩ := shape
    have later : Listening.Fresh { proxy.toListening with opened := opened } false :=
      ⟨fresh.running, fresh.unspawned, fresh.kept⟩
    exact later.sound trivial
  case h_6 =>
    cases stepped
    obtain ⟨fresh, unbound⟩ := shape
    exact sound.goes keeps ⟨fresh, Or.inl unbound⟩
  case h_7 =>
    obtain ⟨fresh, either⟩ := shape
    split at stepped
    · cases stepped
      exact sound.goes keeps trivial
    · rename_i bound
      cases stepped
      exact sound.goes keeps ⟨fresh, either.resolve_left bound⟩
  case h_8 =>
    cases stepped
    exact sound.goes keeps shape
  case h_9 =>
    cases stepped
    exact sound.goes keeps shape
  case h_10 =>
    cases stepped
    obtain ⟨fresh, bound⟩ := shape
    have later : Listening.Fresh { proxy.toListening with running := true } true :=
      ⟨rfl, fresh.unspawned, fresh.kept⟩
    exact later.sound ⟨later, bound.opened, bound.bound⟩
  case h_11 =>
    cases stepped
    obtain ⟨fresh, bound⟩ := shape
    have later : Listening.Fresh { proxy.toListening with state := .running } true :=
      ⟨fresh.running, fresh.unspawned, fresh.kept⟩
    apply later.sound
    refine ⟨⟨bound.opened, bound.bound⟩, fresh.running, ?_, Or.inl rfl⟩
    intro listener absent
    exact absurd listener.mem_all absent
  case h_12 listener left =>
    cases stepped
    have spawning : proxy.Spawning (listener :: left) := shape
    constructor
    case shape =>
      refine ⟨⟨spawning.opened, spawning.bound⟩, spawning.running, ?_, spawning.state⟩
      intro other absent
      by_cases same : other = listener
      · rw [same]
        simp only [Function.update_self]
        exact nofun
      · simp only [Function.update_of_ne same]
        apply spawning.spawned
        intro member
        rcases List.mem_cons.mp member with equal | later
        · exact same equal
        · exact absent later
    case ended =>
      intro running other ended
      by_cases same : other = listener
      · rw [same] at ended
        simp only [Function.update_self] at ended
        cases ended
      · simp only [Function.update_of_ne same] at ended
        exact sound.ended running other ended
    case reported =>
      exact fun _ => sound.reported keeps
  case h_13 =>
    cases stepped
    exact sound.leave keeps (Or.inr shape) none
  case h_18 =>
    cases stepped
  all_goals
    cases stepped
    exact sound.goes keeps trivial

/-! ### The teardown -/

/-- What is left after a part of a teardown. -/
def Listening.Torn (listening : Listening) : Option Teardown → Prop
  | some point => listening.TornDown point
  | none => listening.Quiet

structure TornFurther (before after : Listening) (next : Option Teardown) : Prop where
  torn : after.Torn next
  halted : after.running = false
  state : after.state = before.state
  lost : after.lost = before.lost

theorem tearDown_torn {listening after : Listening} {point : Teardown}
    {next : Option Teardown} (torn : listening.TornDown point)
    (stepped : listening.tearDown point = some (after, next)) :
    TornFurther listening after next := by
  cases point with
  | clearRunning =>
      cases stepped
      refine ⟨⟨rfl, ?_⟩, rfl, rfl, rfl⟩
      intro listener absent
      exact absurd listener.mem_all absent
  | join left =>
      obtain ⟨halted, joined⟩ := torn
      cases left with
      | nil =>
          cases stepped
          exact ⟨⟨halted, fun listener => joined listener List.not_mem_nil⟩, halted, rfl, rfl⟩
      | cons listener left =>
          simp only [Listening.tearDown] at stepped
          cases standing : listening.thread listener with
          | live point =>
              rw [standing] at stepped
              cases stepped
          | none =>
              rw [standing] at stepped
              cases stepped
              refine ⟨⟨halted, ?_⟩, halted, rfl, rfl⟩
              intro other absent
              by_cases same : other = listener
              · rw [same]
                exact standing
              · exact joined other (List.not_mem_cons_of_ne_of_not_mem same absent)
          | ended =>
              rw [standing] at stepped
              cases stepped
              refine ⟨⟨halted, ?_⟩, halted, rfl, rfl⟩
              intro other absent
              by_cases same : other = listener
              · rw [same]
                exact Function.update_self listener _ _
              · simp only [Function.update_of_ne same]
                exact joined other (List.not_mem_cons_of_ne_of_not_mem same absent)
  | stopHandlers =>
      cases stepped
      exact ⟨torn, torn.1, rfl, rfl⟩
  | closeListeners =>
      cases stepped
      exact ⟨⟨torn.1, torn.2, fun _ => rfl⟩, torn.1, rfl, rfl⟩
  | finish =>
      cases stepped
      obtain ⟨halted, joined, closed⟩ := torn
      exact ⟨⟨halted, closed, rfl, joined⟩, halted, rfl, rfl⟩

theorem Proxy.Sound.halted (halted : proxy.running = false) (shape : proxy.Shape)
    (reported : proxy.KeepsState → proxy.lost = true → proxy.state = .error) :
    proxy.Sound where
  shape := shape
  ended := by
    intro running
    rw [halted] at running
    cases running
  reported := reported

theorem rollbackStep_sound (sound : proxy.Sound) {thrown : Thrown} {point : Teardown}
    (call : proxy.call = .rollback thrown point) {after : Proxy}
    (stepped : proxy.rollbackStep thrown point = some after) : after.Sound := by
  have torn := sound.shape
  unfold Proxy.Shape at torn
  rw [call] at torn
  have keeps := Proxy.keepsState_of call trivial
  obtain ⟨⟨listening, next⟩, tore, same⟩ := Option.map_eq_some_iff.mp stepped
  have further := tearDown_torn torn tore
  cases next with
  | some next =>
      cases same
      refine Proxy.Sound.halted further.halted ?_ ?_
      · exact further.torn
      · intro _ lost
        have kept : proxy.lost = true := further.lost.symm.trans lost
        exact further.state.trans (sound.reported keeps kept)
  | none =>
      cases same
      have quiet : listening.Quiet := further.torn
      apply Proxy.Sound.halted quiet.halted
      · exact Or.inl ⟨⟨quiet.halted, quiet.closed, quiet.unbound, quiet.joined⟩, Or.inr rfl⟩
      · exact fun _ _ => rfl

theorem stopStep_sound (sound : proxy.Sound) {point : Teardown}
    (call : proxy.call = .stopping point) {after : Proxy}
    (stepped : proxy.stopStep point = some after) : after.Sound := by
  have torn := sound.shape
  unfold Proxy.Shape at torn
  rw [call] at torn
  obtain ⟨⟨listening, next⟩, tore, same⟩ := Option.map_eq_some_iff.mp stepped
  have further := tearDown_torn torn tore
  cases next with
  | some next =>
      cases same
      refine Proxy.Sound.halted further.halted ?_ nofun
      exact further.torn
  | none =>
      cases same
      have quiet : listening.Quiet := further.torn
      apply Proxy.Sound.halted quiet.halted
      · exact Or.inl ⟨⟨quiet.halted, quiet.closed, quiet.unbound, quiet.joined⟩, Or.inl rfl⟩
      · exact nofun

theorem proceed_sound (sound : proxy.Sound) {outcome : Outcome} {after : Proxy}
    (stepped : proxy.proceed strerror outcome = some after) : after.Sound := by
  unfold Proxy.proceed at stepped
  split at stepped
  case h_1 =>
    cases stepped
  case h_2 point _ call =>
    exact startStep_sound sound call stepped
  case h_3 thrown point call =>
    exact rollbackStep_sound sound call stepped
  case h_4 call =>
    have shape := sound.shape
    unfold Proxy.Shape at shape
    rw [call] at shape
    have keeps := Proxy.keepsState_of call trivial
    split at stepped
    · cases stepped
      exact sound.leave keeps shape none
    · cases stepped
      exact ⟨trivial, sound.ended, nofun⟩
  case h_5 =>
    cases stepped
    exact ⟨trivial, sound.ended, nofun⟩
  case h_6 point call =>
    exact stopStep_sound sound call stepped
  case h_7 =>
    cases stepped

end Calls

end NativeDNS
