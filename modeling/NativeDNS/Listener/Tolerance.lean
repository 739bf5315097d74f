/-
What clients can do to a service.

A loop that tolerates every result clients can cause keeps running in every
run.  The proxy of reflected connections is of this kind; the local proxies are
so but for one or two error codes.
-/
import NativeDNS.Listener.Service
import NativeDNS.Listener.Loop
import NativeDNS.Listener.Windows

namespace NativeDNS

open ByteText (text)

/-! ### Loops that tolerate what clients can cause -/

section Service

variable {ι point : Type}

def ToleratedEvent (tolerates : Nat → Bool) : LoopEvent (Work ι) → Prop
  | .received (.error code) => tolerates code = true
  | _ => True

instance (tolerates : Nat → Bool) :
    (event : LoopEvent (Work ι)) → Decidable (ToleratedEvent tolerates event)
  | .received (.error code) => inferInstanceAs (Decidable (tolerates code = true))
  | .received (.ok _) | .step | .polled _ | .waited _ | .enumerated _ =>
      inferInstanceAs (Decidable True)

def ToleratedAction (tolerates : Nat → Bool) : ServiceAction ι → Prop
  | .loop _ event => ToleratedEvent tolerates event
  | _ => True

instance (tolerates : Nat → Bool) :
    (action : ServiceAction ι) → Decidable (ToleratedAction tolerates action)
  | .loop _ event => inferInstanceAs (Decidable (ToleratedEvent tolerates event))
  | .client _ | .take _ _ | .finish _ _ _ | .stop => inferInstanceAs (Decidable True)

/-- While `running` is set, a loop at a sound point goes on to a sound point. -/
def ListenerProgram.Robust (program : ListenerProgram ι point) (tolerates : Nat → Bool)
    (sound : point → Prop) : Prop :=
  ∀ {stream : Bool} {standing : point} {event : LoopEvent (Work ι)}
    {socket after : ClientSocket} {move : LoopMove point (Work ι)},
    sound standing → ToleratedEvent tolerates event →
    socket.answer program.codes stream event = some after →
    program.step stream true standing event = some move →
    (∃ next, move.next = some next ∧ sound next) ∧
      ∀ message, move.effect ≠ .fail message

namespace ServiceWorld

/-- The service runs and so do its loops. -/
def Serves (world : ServiceWorld ι point) : Prop :=
  world.stopCalled = false →
    world.state = .running ∧ ∀ listener, world.thread listener ≠ none

structure Healthy (sound : point → Prop) (world : ServiceWorld ι point) : Prop where
  state : world.state = .running
  running : world.running = true
  loops : ∀ listener, ∃ standing, world.thread listener = some standing ∧ sound standing

end ServiceWorld

/-- The states of a service of which every step is allowed. -/
abbrev ServiceReached [DecidableEq ι] (program : ListenerProgram ι point)
    (allowed : ServiceAction ι → Prop) (start : ServiceWorld ι point) :
    ServiceWorld ι point → Prop :=
  Transition.Reachable (fun world => world = start)
    fun before after => ∃ action, performService program before action = some after ∧
      allowed action

variable {program : ListenerProgram ι point} {tolerates : Nat → Bool}
  {sound : point → Prop} {world after : ServiceWorld ι point}

open ServiceWorld

/-- What the handlers and the clients do leaves the loops alone. -/
structure SameLoops (before after : ServiceWorld ι point) : Prop where
  state : after.state = before.state
  running : after.running = before.running
  stopCalled : after.stopCalled = before.stopCalled
  thread : after.thread = before.thread

theorem setHandlers_loops (stream : Bool) (executor : Executor (Work ι)) :
    SameLoops world (world.setHandlers stream executor) := by
  cases stream <;> exact ⟨rfl, rfl, rfl, rfl⟩

theorem submit_loops (stream : Bool) (item : Work ι) :
    SameLoops world (world.submit program stream item) := by
  unfold submit
  split
  · rename_i executor taken
    have same : SameLoops world (world.setHandlers stream executor) :=
      setHandlers_loops stream executor
    cases item with
    | datagram via packet client =>
        exact same
    | connection client =>
        exact ⟨same.state, same.running, same.stopCalled, same.thread⟩
  · exact ⟨rfl, rfl, rfl, rfl⟩

theorem applyEffect_loops (stream : Bool) {effect : LoopEffect (Work ι)}
    (lives : ∀ message, effect ≠ .fail message) :
    SameLoops world (world.applyEffect program stream effect) := by
  cases effect with
  | none =>
      exact ⟨rfl, rfl, rfl, rfl⟩
  | submit item =>
      exact submit_loops stream item
  | report message =>
      exact ⟨rfl, rfl, rfl, rfl⟩
  | fail message =>
      exact absurd rfl (lives message)

theorem ServiceWorld.Healthy.same (healthy : world.Healthy sound)
    (same : SameLoops world after) : after.Healthy sound where
  state := same.state.trans healthy.state
  running := same.running.trans healthy.running
  loops := same.thread ▸ healthy.loops

theorem ServiceWorld.Healthy.serves (healthy : world.Healthy sound) : world.Serves := by
  intro _
  refine ⟨healthy.state, ?_⟩
  intro listener ended
  obtain ⟨standing, stands, _⟩ := healthy.loops listener
  rw [ended] at stands
  cases stands

variable [DecidableEq ι]

theorem clientAct_loops (action : ClientAction ι) :
    SameLoops world (world.clientAct action) := by
  cases action <;> exact ⟨rfl, rfl, rfl, rfl⟩

theorem finishHandler_loops {stream : Bool} {thread : Nat} {ending : HandlerEnd}
    (finished : world.finishHandler stream thread ending = some after) :
    SameLoops world after := by
  obtain ⟨⟨item, executor⟩, _, same⟩ := Option.map_eq_some_iff.mp finished
  have set : SameLoops world (world.setHandlers stream executor) :=
    setHandlers_loops stream executor
  rw [← same]
  cases item with
  | connection client =>
      exact ⟨set.state, set.running, set.stopCalled, set.thread⟩
  | datagram via packet client =>
      simp only
      split
      · exact ⟨set.state, set.running, set.stopCalled, set.thread⟩
      · exact ⟨set.state, set.running, set.stopCalled, set.thread⟩

theorem runLoop_parts {listener : ι} {event : LoopEvent (Work ι)}
    (ran : world.runLoop program listener event = some after) :
    ∃ standing socket move, world.thread listener = some standing ∧
      (world.socket listener).answer program.codes (program.stream listener) event =
        some socket ∧
      program.step (program.stream listener) world.running standing event = some move ∧
      after = ServiceWorld.applyEffect program
        { world.setSocket listener socket with
          thread := Function.update world.thread listener move.next }
        (program.stream listener) move.effect := by
  unfold runLoop at ran
  obtain ⟨standing, stands, ran⟩ := Option.bind_eq_some_iff.mp ran
  obtain ⟨socket, answered, ran⟩ := Option.bind_eq_some_iff.mp ran
  obtain ⟨move, moves, ran⟩ := Option.bind_eq_some_iff.mp ran
  cases ran
  exact ⟨standing, socket, move, stands, answered, moves, rfl⟩

theorem healthy_loop (robust : program.Robust tolerates sound)
    (healthy : world.Healthy sound) {listener : ι} {event : LoopEvent (Work ι)}
    (tolerated : ToleratedEvent tolerates event)
    (ran : world.runLoop program listener event = some after) : after.Healthy sound := by
  obtain ⟨standing, socket, move, stands, answered, moves, rfl⟩ := runLoop_parts ran
  obtain ⟨known, known_eq, soundHere⟩ := healthy.loops listener
  have same : known = standing := Option.some.inj (known_eq.symm.trans stands)
  subst same
  rw [healthy.running] at moves
  obtain ⟨⟨next, goes, soundNext⟩, lives⟩ := robust soundHere tolerated answered moves
  refine ServiceWorld.Healthy.same ?_ (applyEffect_loops (program.stream listener) lives)
  constructor
  case state =>
    exact healthy.state
  case running =>
    exact healthy.running
  case loops =>
    intro other
    by_cases here : other = listener
    · subst here
      exact ⟨next, (Function.update_self _ _ _).trans goes, soundNext⟩
    · obtain ⟨point, stands, soundThere⟩ := healthy.loops other
      exact ⟨point, (Function.update_of_ne here _ _).trans stands, soundThere⟩

/-- Before `stop` is called, a healthy service stays healthy. -/
theorem healthy_step (robust : program.Robust tolerates sound)
    (healthy : world.Healthy sound) {action : ServiceAction ι}
    (tolerated : ToleratedAction tolerates action)
    (performed : performService program world action = some after) :
    after.stopCalled = true ∨ after.Healthy sound := by
  cases action with
  | client action =>
      cases performed
      exact Or.inr (healthy.same (clientAct_loops action))
  | loop listener event =>
      exact Or.inr (healthy_loop robust healthy tolerated performed)
  | take stream thread =>
      obtain ⟨executor, _, same⟩ := Option.map_eq_some_iff.mp performed
      rw [← same]
      exact Or.inr (healthy.same (setHandlers_loops stream executor))
  | finish stream thread ending =>
      exact Or.inr (healthy.same (finishHandler_loops performed))
  | stop =>
      cases performed
      exact Or.inl rfl

theorem stopCalled_step {action : ServiceAction ι} (called : world.stopCalled = true)
    (performed : performService program world action = some after) :
    after.stopCalled = true := by
  cases action with
  | client action =>
      cases performed
      exact (clientAct_loops action).stopCalled.trans called
  | loop listener event =>
      obtain ⟨standing, socket, move, _, _, _, rfl⟩ := runLoop_parts performed
      cases effect : move.effect with
      | fail message =>
          exact called
      | none | report _ =>
          exact called
      | submit item =>
          exact (submit_loops (program.stream listener) item).stopCalled.trans called
  | take stream thread =>
      obtain ⟨executor, _, same⟩ := Option.map_eq_some_iff.mp performed
      rw [← same]
      exact (setHandlers_loops stream executor).stopCalled.trans called
  | finish stream thread ending =>
      exact (finishHandler_loops performed).stopCalled.trans called
  | stop =>
      cases performed
      rfl

/-- Until `stop` is called, a service of tolerant loops is healthy. -/
theorem healthy_reached (robust : program.Robust tolerates sound)
    {start : ServiceWorld ι point} (healthy : start.Healthy sound)
    (reached : ServiceReached program (ToleratedAction tolerates) start world) :
    world.stopCalled = true ∨ world.Healthy sound := by
  apply reached.invariant
  · rintro _ rfl
    exact Or.inr healthy
  · intro before after _ either moved
    obtain ⟨action, performed, tolerated⟩ := moved
    rcases either with called | healthy
    · exact Or.inl (stopCalled_step called performed)
    · exact healthy_step robust healthy tolerated performed

theorem serves_reached (robust : program.Robust tolerates sound)
    {start : ServiceWorld ι point} (healthy : start.Healthy sound)
    (reached : ServiceReached program (ToleratedAction tolerates) start world) :
    world.Serves := by
  rcases healthy_reached robust healthy reached with called | healthy
  · intro running
    rw [called] at running
    cases running
  · exact healthy.serves

/-! ### Loops that do not -/

theorem runLoop_of (program : ListenerProgram ι point) {listener : ι}
    {event : LoopEvent (Work ι)} {standing : point} {socket : ClientSocket}
    {move : LoopMove point (Work ι)}
    (stands : world.thread listener = some standing)
    (answered : (world.socket listener).answer program.codes (program.stream listener)
      event = some socket)
    (moves : program.step (program.stream listener) world.running standing event =
      some move) :
    performService program world (.loop listener event) =
      some (ServiceWorld.applyEffect program
        { world.setSocket listener socket with
          thread := Function.update world.thread listener move.next }
        (program.stream listener) move.effect) := by
  change world.runLoop program listener event = _
  unfold runLoop
  rw [stands]
  simp only [Option.bind_eq_bind, Option.bind_some, answered, moves]
  rfl

/-- A service some steps of which break it. -/
def Breaks (program : ListenerProgram ι point) (world : ServiceWorld ι point) : Prop :=
  ∃ actions broken, Transition.performAll (performService program) world actions =
    some broken ∧ ¬ broken.Serves

theorem breaks_of_step {action : ServiceAction ι}
    (performed : performService program world action = some after)
    (breaks : Breaks program after) : Breaks program world := by
  obtain ⟨actions, broken, ran, fails⟩ := breaks
  refine ⟨action :: actions, broken, ?_, fails⟩
  simp only [Transition.performAll, performed, Option.bind_some]
  exact ran

theorem breaks_of_fail {listener : ι} {standing : point} {message : Bytes}
    (running : world.stopCalled = false) (stands : world.thread listener = some standing)
    (fails : program.step (program.stream listener) world.running standing .step =
      some (.fail message)) : Breaks program world := by
  have performed := runLoop_of program stands (by rfl) fails
  refine breaks_of_step performed ⟨[], _, rfl, ?_⟩
  intro serves
  exact absurd (serves running).1 nofun

structure MovedTo (before after : ServiceWorld ι point) (listener : ι) (next : point) :
    Prop where
  thread : after.thread listener = some next
  running : after.running = before.running
  stopCalled : after.stopCalled = before.stopCalled

theorem runLoop_goTo {listener : ι} {event : LoopEvent (Work ι)} {standing next : point}
    (stands : world.thread listener = some standing)
    (moves : program.step (program.stream listener) world.running standing event =
      some (.goTo next))
    (ran : performService program world (.loop listener event) = some after) :
    MovedTo world after listener next := by
  obtain ⟨known, socket, move, known_eq, _, moved, rfl⟩ := runLoop_parts ran
  have same : known = standing := Option.some.inj (known_eq.symm.trans stands)
  subst same
  rw [moves] at moved
  cases moved
  exact ⟨Function.update_self _ _ _, rfl, rfl⟩

theorem breaks_of_goTo {listener : ι} {standing next : point}
    (stands : world.thread listener = some standing)
    (moves : program.step (program.stream listener) world.running standing .step =
      some (.goTo next))
    (later : ∀ after, MovedTo world after listener next → Breaks program after) :
    Breaks program world := by
  have performed := runLoop_of program stands (by rfl) moves
  exact breaks_of_step performed (later _ (runLoop_goTo stands moves performed))

end Service

/-! ### The services -/

def linuxProxy (strerror : Nat → Bytes) : ListenerProgram Listener LoopPoint :=
  { stream := Listener.stream
    step := loopStep strerror
    codes :=
      { interrupted := eintr
        wouldBlock := eagain
        aborted := econnaborted
        reset := none }
    failStops := false
    logCode := "PROXY_IO"
    busy := fun stream => ("PROXY_BUSY",
      if stream then text "Local TCP proxy connection limit reached"
      else text "Local UDP proxy queue is full; query dropped") }

def linuxStart : ServiceWorld Listener LoopPoint :=
  { thread := fun _ => some .head
    udpHandlers := .started 8 1024
    tcpHandlers := .started 16 128 }

inductive WindowsListener where
  | udp
  | tcp
  deriving DecidableEq

def winsockCodes : SocketCodes :=
  { interrupted := wsaeintr
    wouldBlock := wsaewouldblock
    aborted := wsaeconnaborted
    reset := some wsaeconnreset }

def windowsProxy : ListenerProgram WindowsListener WindowsPoint :=
  { stream := fun listener => listener == .tcp
    step := windowsLoopStep
    codes := winsockCodes
    failStops := true
    logCode := "PROXY_IO"
    busy := fun stream => ("PROXY_BUSY",
      if stream then text "Local TCP proxy connection limit reached"
      else text "Local UDP proxy queue is full; query dropped") }

def windowsStart : ServiceWorld WindowsListener WindowsPoint :=
  { thread := fun _ => some .waiting
    udpHandlers := .started 8 1024
    tcpHandlers := .started 16 128 }

inductive AcceptListener where
  | ipv4
  | ipv6
  deriving DecidableEq

def tcpDnsProxy : ListenerProgram AcceptListener AcceptPoint :=
  { stream := fun _ => true
    step := fun _ => acceptLoopStep
    codes := winsockCodes
    failStops := false
    logCode := "TCP_PROXY_IO"
    busy := fun _ =>
      ("TCP_PROXY_BUSY", text "Transparent TCP proxy connection limit reached") }

def tcpDnsStart : ServiceWorld AcceptListener AcceptPoint :=
  { thread := fun _ => some .head
    udpHandlers := {}
    tcpHandlers := .started 32 128 }

/-! ### Which codes they tolerate -/

def linuxTolerates (errno : Nat) : Bool :=
  errno == eintr || errno == eagain

/-- The code the Windows loops of the local proxy retry. -/
def windowsTolerates (code : Nat) : Bool :=
  code == wsaewouldblock

def linuxSound : LoopPoint → Prop
  | .head | .waiting | .polling | .receiving => True
  | .refused errno => linuxTolerates errno = true
  | .unreadable | .failing _ => False

def windowsSound : WindowsPoint → Prop
  | .waiting | .enumerating | .receiving => True
  | .throwing _ => False

theorem afterRefused_tolerated {strerror : Nat → Bytes} {errno : Nat}
    (tolerated : linuxTolerates errno = true) : afterRefused strerror errno = .head := by
  unfold linuxTolerates at tolerated
  unfold afterRefused
  rw [if_pos]
  simpa using tolerated

theorem afterRefused_fatal {strerror : Nat → Bytes} {errno : Nat}
    (fatal : linuxTolerates errno = false) :
    afterRefused strerror errno = .failing (strerror errno) := by
  unfold linuxTolerates at fatal
  unfold afterRefused
  rw [if_neg]
  simpa using fatal

/-- `poll` results clients can cause leave the socket in use. -/
theorem afterPoll_sound {result : PollResult} {strerror : Nat → Bytes} {stream : Bool}
    {socket after : ClientSocket}
    (answered : socket.answer (linuxProxy strerror).codes stream
      (.polled result : LoopEvent (Work Listener)) = some after) :
    linuxSound (afterPoll result) := by
  cases result with
  | ready readable broken =>
      simp only [ClientSocket.answer] at answered
      split at answered
      · rename_i facts
        rw [facts.1]
        trivial
      · cases answered
  | timeout =>
      trivial
  | failed errno =>
      simp only [ClientSocket.answer] at answered
      split at answered
      · rename_i interrupted
        subst interrupted
        trivial
      · cases answered

theorem linux_robust (strerror : Nat → Bytes) :
    (linuxProxy strerror).Robust linuxTolerates linuxSound := by
  intro stream standing event socket after move sound tolerated answered moves
  change loopStep strerror stream true standing event = some move at moves
  unfold loopStep at moves
  split at moves
  case h_1 =>
    cases moves
    exact ⟨⟨_, rfl, trivial⟩, nofun⟩
  case h_2 =>
    cases moves
    exact ⟨⟨_, rfl, trivial⟩, nofun⟩
  case h_3 =>
    cases moves
    exact ⟨⟨_, rfl, afterPoll_sound answered⟩, nofun⟩
  case h_5 =>
    cases moves
    exact ⟨⟨_, rfl, trivial⟩, nofun⟩
  case h_6 =>
    cases moves
    exact ⟨⟨_, rfl, tolerated⟩, nofun⟩
  case h_7 errno =>
    cases moves
    refine ⟨⟨_, rfl, ?_⟩, nofun⟩
    rw [afterRefused_tolerated sound]
    trivial
  case h_9 =>
    cases moves
  all_goals
    exact sound.elim

theorem windows_robust : windowsProxy.Robust windowsTolerates windowsSound := by
  intro stream standing event socket after move sound tolerated answered moves
  change windowsLoopStep stream true standing event = some move at moves
  unfold windowsLoopStep at moves
  split at moves
  case h_1 failed =>
    cases failed with
    | true =>
        cases answered
    | false =>
        cases moves
        exact ⟨⟨_, rfl, trivial⟩, nofun⟩
  case h_2 events =>
    cases moves
    refine ⟨⟨_, rfl, ?_⟩, nofun⟩
    cases events with
    | none =>
        cases answered
    | some events =>
        simp only [ClientSocket.answer] at answered
        split at answered
        · rename_i quiet
          have noError : ¬ (stream = true ∧ events.error ≠ 0) := fun both => both.2 quiet
          by_cases wanted : events.wanted = false
          · simp only [afterEvents, if_pos wanted]
            trivial
          · simp only [afterEvents, if_neg wanted, if_neg noError]
            trivial
        · cases answered
  case h_3 =>
    cases moves
    refine ⟨⟨_, rfl, ?_⟩, nofun⟩
    cases stream <;> trivial
  case h_4 code =>
    cases moves
    have retried : code = wsaewouldblock := eq_of_beq tolerated
    rw [if_pos retried]
    exact ⟨⟨_, rfl, trivial⟩, nofun⟩
  case h_5 =>
    exact sound.elim
  case h_6 =>
    cases moves

theorem accept_robust : tcpDnsProxy.Robust (fun _ => true) fun _ => True := by
  intro stream standing event socket after move _ _ _ moves
  change acceptLoopStep true standing event = some move at moves
  unfold acceptLoopStep at moves
  split at moves
  case h_5 =>
    cases moves
  all_goals
    cases moves
    exact ⟨⟨_, rfl, trivial⟩, nofun⟩

/-! ### No client stops a service -/

theorem linuxStart_healthy : linuxStart.Healthy linuxSound :=
  ⟨rfl, rfl, fun _ => ⟨_, rfl, trivial⟩⟩

theorem windowsStart_healthy : windowsStart.Healthy windowsSound :=
  ⟨rfl, rfl, fun _ => ⟨_, rfl, trivial⟩⟩

theorem tcpDnsStart_healthy : tcpDnsStart.Healthy fun _ => True :=
  ⟨rfl, rfl, fun _ => ⟨_, rfl, trivial⟩⟩

theorem linux_breaks {strerror : Nat → Bytes} {world after : ServiceWorld Listener LoopPoint}
    (healthy : world.Healthy linuxSound) (running : world.stopCalled = false)
    {listener : Listener} {errno : Nat} (fatal : linuxTolerates errno = false)
    (performed : performService (linuxProxy strerror) world
      (.loop listener (.received (.error errno))) = some after) :
    Breaks (linuxProxy strerror) after := by
  obtain ⟨standing, _, move, stands, _, moves, _⟩ := runLoop_parts performed
  have refused : (linuxProxy strerror).step listener.stream world.running standing
      (.received (.error errno)) = some (.goTo (.refused errno)) := by
    change loopStep strerror listener.stream world.running standing _ = _
    change loopStep strerror listener.stream world.running standing _ = _ at moves
    cases standing with
    | receiving =>
        rfl
    | head | waiting | polling | unreadable | refused _ | failing _ =>
        cases moves
  have moved := runLoop_goTo stands refused performed
  have runs : after.running = true := moved.running.trans healthy.running
  have fails : (linuxProxy strerror).step listener.stream after.running (.refused errno)
      .step = some (.goTo (.failing (strerror errno))) := by
    rw [runs]
    change some (LoopMove.goTo (afterRefused strerror errno)) = _
    rw [afterRefused_fatal fatal]
  apply breaks_of_goTo moved.thread fails
  intro later movedOn
  apply breaks_of_fail _ movedOn.thread (by rfl)
  rw [movedOn.stopCalled, moved.stopCalled, running]

theorem windows_breaks {world after : ServiceWorld WindowsListener WindowsPoint}
    (running : world.stopCalled = false) {listener : WindowsListener} {code : Nat}
    (fatal : windowsTolerates code = false)
    (performed : performService windowsProxy world
      (.loop listener (.received (.error code))) = some after) :
    Breaks windowsProxy after := by
  obtain ⟨standing, _, move, stands, _, moves, _⟩ := runLoop_parts performed
  have different : code ≠ wsaewouldblock := ne_of_beq_false fatal
  have thrown : windowsProxy.step (windowsProxy.stream listener) world.running standing
      (.received (.error code)) =
        some (.goTo (.throwing (receiveFailed (windowsProxy.stream listener)))) := by
    change windowsLoopStep _ world.running standing _ = _
    change windowsLoopStep _ world.running standing _ = _ at moves
    cases standing with
    | receiving =>
        simp only [windowsLoopStep, if_neg different]
    | waiting | enumerating | throwing _ =>
        cases moves
  have moved := runLoop_goTo stands thrown performed
  apply breaks_of_fail _ moved.thread (by rfl)
  rw [moved.stopCalled, running]

/-- While their calls report the codes they retry, no client stops the loops of
the local proxies; any other code does.  Nothing stops the loops of the proxy of
reflected connections. -/
theorem clients_tolerated (strerror : Nat → Bytes) :
    (∀ world, ServiceReached (linuxProxy strerror) (ToleratedAction linuxTolerates)
        linuxStart world → world.Serves ∧
          ∀ listener errno after, world.stopCalled = false →
            linuxTolerates errno = false →
            performService (linuxProxy strerror) world
              (.loop listener (.received (.error errno))) = some after →
            Breaks (linuxProxy strerror) after) ∧
      (∀ world, ServiceReached windowsProxy (ToleratedAction windowsTolerates)
        windowsStart world → world.Serves ∧
          ∀ listener code after, world.stopCalled = false →
            windowsTolerates code = false →
            performService windowsProxy world
              (.loop listener (.received (.error code))) = some after →
            Breaks windowsProxy after) ∧
      (∀ world, ServiceReached tcpDnsProxy (fun _ => True) tcpDnsStart world →
        world.Serves) := by
  refine ⟨?_, ?_, ?_⟩
  · intro world reached
    have serves := serves_reached (linux_robust strerror) linuxStart_healthy reached
    refine ⟨serves, ?_⟩
    intro listener errno after running fatal performed
    rcases healthy_reached (linux_robust strerror) linuxStart_healthy reached with
      called | healthy
    · rw [running] at called
      cases called
    · exact linux_breaks healthy running fatal performed
  · intro world reached
    have serves := serves_reached windows_robust windowsStart_healthy reached
    refine ⟨serves, ?_⟩
    intro listener code after running fatal performed
    exact windows_breaks running fatal performed
  · intro world reached
    apply serves_reached accept_robust tcpDnsStart_healthy
    apply reached.mono
    · exact fun _ same => same
    · intro before after moved
      obtain ⟨action, performed, _⟩ := moved
      refine ⟨action, performed, ?_⟩
      cases action with
      | loop listener event =>
          cases event with
          | received result =>
              cases result with
              | ok item =>
                  trivial
              | error code =>
                  rfl
          | step | polled _ | waited _ | enumerated _ =>
              trivial
      | client _ | take _ _ | finish _ _ _ | stop =>
          trivial

/-- A query is taken and its handler throws; a connection is aborted after it is
accepted; an `accept` is interrupted. -/
def toleratedRun : List (ServiceAction Listener) :=
  [.client (.datagram .udp4 [1, 2] 40001), .loop .udp4 .step, .loop .udp4 .step,
    .loop .udp4 (.polled (.ready true false)),
    .loop .udp4 (.received (.ok (.datagram .udp4 [1, 2] 40001))), .take false 3,
    .client (.connect .tcp6 9), .client (.abort .tcp6 0), .loop .tcp6 .step,
    .loop .tcp6 .step, .loop .tcp6 (.polled (.ready true false)),
    .loop .tcp6 (.received (.error eintr)), .loop .tcp6 .step,
    .loop .tcp6 .step, .loop .tcp6 .step, .loop .tcp6 (.polled (.ready true false)),
    .loop .tcp6 (.received (.ok (.connection 9))),
    .finish false 3
      { replyLost := true
        thrown := some (.exception []) }]

theorem clients_tolerated_run :
    ∃ world, ServiceReached (linuxProxy fun _ => []) (ToleratedAction linuxTolerates)
      linuxStart world ∧ world.Serves ∧ world.clients = [9] ∧
        world.tcpHandlers.jobs = [.connection 9] := by
  have ran : ((Transition.performAll
      (fun world action =>
        if tolerated : ToleratedAction linuxTolerates action then
          performService (linuxProxy fun _ => []) world action
        else none) linuxStart toleratedRun).map fun world =>
          (world.clients, world.tcpHandlers.jobs)) = some ([9], [.connection 9]) := by
    decide +kernel
  obtain ⟨world, done, seen⟩ := Option.map_eq_some_iff.mp ran
  have start : ServiceReached (linuxProxy fun _ => []) (ToleratedAction linuxTolerates)
      linuxStart linuxStart := .start rfl
  have reached : ServiceReached (linuxProxy fun _ => []) (ToleratedAction linuxTolerates)
      linuxStart world := by
    apply start.performAll _ done
    intro before action after performed
    split at performed
    · rename_i tolerated
      exact ⟨action, performed, tolerated⟩
    · cases performed
  obtain ⟨clients, jobs⟩ := Prod.mk.inj seen
  exact ⟨world, reached, ((clients_tolerated fun _ => []).1 world reached).1, clients, jobs⟩

def abortedRun : List (ServiceAction Listener) :=
  [.client (.connect .tcp4 9), .client (.abort .tcp4 0), .loop .tcp4 .step,
    .loop .tcp4 .step, .loop .tcp4 (.polled (.ready true false)),
    .loop .tcp4 (.received (.error econnaborted)), .loop .tcp4 .step, .loop .tcp4 .step]

theorem clients_not_tolerated :
    ¬ ∀ strerror,
      (∀ world, ServiceReached (linuxProxy strerror) (fun _ => True) linuxStart world →
        world.Serves) ∧
      (∀ world, ServiceReached windowsProxy (fun _ => True) windowsStart world →
        world.Serves) ∧
      (∀ world, ServiceReached tcpDnsProxy (fun _ => True) tcpDnsStart world →
        world.Serves) := by
  intro promised
  have ran : ((Transition.performAll (performService (linuxProxy fun _ => []))
      linuxStart abortedRun).map fun world => (world.stopCalled, world.state)) =
        some (false, .error) := by
    decide +kernel
  obtain ⟨world, done, seen⟩ := Option.map_eq_some_iff.mp ran
  have start : ServiceReached (linuxProxy fun _ => []) (fun _ => True)
      linuxStart linuxStart := .start rfl
  have reached : ServiceReached (linuxProxy fun _ => []) (fun _ => True) linuxStart world :=
    start.performAll (fun _ action _ performed => ⟨action, performed, trivial⟩) done
  obtain ⟨running, failed⟩ := Prod.mk.inj seen
  have serves := (promised fun _ => []).1 world reached running
  rw [failed] at serves
  cases serves.1

end NativeDNS
