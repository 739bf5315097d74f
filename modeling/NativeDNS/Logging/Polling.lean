/-
One client that polls the log of one process.

The client asks for the rows after the last number it has received, and reads
the numbers of the rows it is sent.  Writes, clears and level changes come
between a request and its reply in any order.  A poll that waits ends at any
later time; the client may also give it up.

`created` and `dropped` record every event stored and every event evicted or
cleared, `polls` the completed polls; the code keeps none of them.
-/
import NativeDNS.Logging.Rows
import NativeDNS.Library.Numbered
import NativeDNS.Library.Transition

namespace NativeDNS

open Numbered
open ByteText (text)

structure PendingPoll where
  after : Nat
  level : Level
  structured : Bool

/-- A completed poll: the numbers the client had before and after it, what was
retained and dropped when its reply was made, and the reply. -/
structure LogPoll where
  after : Nat
  last : Nat
  retained : List LogEvent
  dropped : List LogEvent
  reply : Bytes

structure PollingWorld where
  logger : Logger := {}
  pending : Option PendingPoll := none
  last : Nat := 0
  received : List Nat := []
  created : List LogEvent := []
  dropped : List LogEvent := []
  polls : List LogPoll := []

inductive PollingAction where
  | write (time : Int64) (level : Level) (code message : Bytes)
      (context : LogContext)
  | fileQueueFull (time : Int64) (dropped : UInt64)
  | clear
  | configure (displayLevel fileLevel : Level) (fileEnabled : Bool)
  | ask (waitMs : Nat) (structured : Bool)
  | answer
  | giveUp

namespace PollingWorld

def store (world : PollingWorld) (event : LogEvent) : PollingWorld :=
  let logger := world.logger.store event
  let events := world.logger.events ++ [event]
  { world with
    logger := logger
    created := world.created ++ [event]
    dropped :=
      world.dropped ++ events.take (events.length - logger.events.length) }

/-- The core makes the reply to a pending request, and the client reads it. -/
def answer (world : PollingWorld) (request : PendingPoll) : PollingWorld :=
  let reply := logsReply request.structured
    (world.logger.collect request.level request.after)
  let numbers := rowSequences reply
  let last := numbers.getLast?.getD world.last
  { world with
    pending := none
    last := last
    received := world.received ++ numbers
    polls := world.polls ++
      [{ after := world.last
         last := last
         retained := world.logger.events
         dropped := world.dropped
         reply := reply }] }

end PollingWorld

/-- One step of the log, or of its client at a level.  The counter does not
reach 2^64, and the client asks for one of the four levels. -/
def performPolling (screen level : Level) (world : PollingWorld) :
    PollingAction → Option PollingWorld
  | .write time eventLevel code message context =>
      if world.logger.enabled eventLevel = true then
        if world.logger.sequence < maxUint64 then
          some (world.store
            (world.logger.writtenEvent time eventLevel code message context))
        else none
      else some world
  | .fileQueueFull time dropped =>
      if world.logger.sequence < maxUint64 then
        some (world.store
          (world.logger.failureEvent time (Logger.droppedMessage dropped)))
      else none
  | .clear =>
      some { world with
        logger := world.logger.clearDisplay
        dropped := world.dropped ++ world.logger.events }
  | .configure displayLevel fileLevel fileEnabled =>
      some { world with
        logger := { world.logger with
          displayLevel := displayLevel
          fileLevel := fileLevel
          fileEnabled := fileEnabled } }
  | .ask waitMs structured =>
      if waitMs ≤ 1000 ∧ level.value.toNat ≤ 3 ∧ world.pending.isNone = true then
        match parseLogsRequest screen (logsPayload
          { after := world.last
            waitMs := waitMs
            level := level
            structured := structured }) with
        | .ok request =>
            some { world with
              pending := some
                { after := world.logger.startAfter request.after
                  level := request.level
                  structured := request.structured } }
        | .error _ => none
      else none
  | .answer => world.pending.map world.answer
  | .giveUp => some { world with pending := none }

/-- The states of the log of a capacity and of a client of it. -/
abbrev PollingReached (screen level : Level) (capacity : Nat) :
    PollingWorld → Prop :=
  Transition.Reachable (fun world => world = { logger := { capacity := capacity } })
    fun before after => ∃ action, performPolling screen level before action = some after

/-! ### The property -/

def wanted (level : Level) (event : LogEvent) : Bool :=
  !event.level.exceeds level

/-- The poll that passed over the number of an event found it dropped. -/
def PollingWorld.Missed (world : PollingWorld) (event : LogEvent) : Prop :=
  ∃ poll ∈ world.polls, poll.after < event.sequence ∧
    event.sequence ≤ poll.last ∧ event ∈ poll.dropped

/-- The client gets every event of its level exactly once and in order, but for
those dropped before the poll that would have returned them. -/
structure ExactPolling (level : Level) (world : PollingWorld) : Prop where
  increasing : world.received.Pairwise (· < ·)
  small : ∀ poll ∈ world.polls, poll.reply.length ≤ 1048576
  answered : ∀ poll ∈ world.polls, ∀ event ∈ poll.retained,
    wanted level event = true → poll.after < event.sequence → poll.reply ≠ []
  exact : ∀ event ∈ world.created, wanted level event = true →
    event.sequence ≤ world.last →
      (event.sequence ∈ world.received ∧ ¬ world.Missed event) ∨
        (event.sequence ∉ world.received ∧ world.Missed event)
  origin : ∀ number ∈ world.received, ∃ event ∈ world.created,
    event.sequence = number ∧ wanted level event = true ∧ number ≤ world.last

/-! ### The invariant -/

structure PollingSound (level : Level) (world : PollingWorld) : Prop
    extends ExactPolling level world where
  split : world.created = world.dropped ++ world.logger.events
  numbered : Increasing LogEvent.sequence world.created
  positive : ∀ event ∈ world.created, 0 < event.sequence
  counted : ∀ event ∈ world.created, event.sequence ≤ world.logger.sequence
  bounded : world.logger.sequence ≤ maxUint64
  clean : ∀ event ∈ world.created, CleanEvent event
  last_le : world.last ≤ world.logger.sequence
  passed : ∀ poll ∈ world.polls, poll.last ≤ world.last
  asked : ∀ request, world.pending = some request →
    request.after = world.last ∧ request.level = level

theorem pollingSound_initial (level : Level) (capacity : Nat) :
    PollingSound level { logger := { capacity := capacity } } where
  increasing := List.Pairwise.nil
  small := nofun
  answered := nofun
  exact := nofun
  origin := nofun
  split := rfl
  numbered := List.Pairwise.nil
  positive := nofun
  counted := nofun
  bounded := Nat.zero_le _
  clean := nofun
  last_le := Nat.le_refl _
  passed := nofun
  asked := nofun

section Steps

variable {level : Level} {world : PollingWorld}

theorem store_split (logger : Logger) (event : LogEvent) :
    (logger.events ++ [event]).take
        ((logger.events ++ [event]).length - (logger.store event).events.length) ++
      (logger.store event).events = logger.events ++ [event] := by
  unfold Logger.store
  simp only
  split
  · have one : (logger.events ++ [event]).length -
        ((logger.events ++ [event]).drop 1).length = 1 := by
      rw [List.length_drop, List.length_append, List.length_singleton]
      omega
    rw [one, List.take_append_drop]
  · rw [Nat.sub_self, List.take_zero, List.nil_append]

theorem PollingSound.store (sound : PollingSound level world) {event : LogEvent}
    (next : event.sequence = world.logger.sequence + 1)
    (room : world.logger.sequence < maxUint64) (clean : CleanEvent event) :
    PollingSound level (world.store event) := by
  have old : ∀ other ∈ world.created, other.sequence < event.sequence := by
    intro other member
    rw [next]
    exact Nat.lt_succ_of_le (sound.counted other member)
  have created : ∀ {holds : LogEvent → Prop}, (∀ other ∈ world.created, holds other) →
      holds event → ∀ other ∈ world.created ++ [event], holds other := by
    intro holds before own other member
    rcases List.mem_append.mp member with inside | last
    · exact before other inside
    · rw [List.mem_singleton.mp last]
      exact own
  constructor
  case toExactPolling =>
    constructor
    case increasing =>
      exact sound.increasing
    case small =>
      exact sound.small
    case answered =>
      exact sound.answered
    case exact =>
      apply created sound.exact
      intro _ within
      exact absurd (Nat.le_trans within sound.last_le) (by omega)
    case origin =>
      intro number member
      obtain ⟨other, inside, facts⟩ := sound.origin number member
      exact ⟨other, List.mem_append_left _ inside, facts⟩
  case split =>
    have parts := store_split world.logger event
    change world.created ++ [event] =
      (world.dropped ++ (world.logger.events ++ [event]).take _) ++
        (world.logger.store event).events
    rw [List.append_assoc, parts, sound.split, List.append_assoc]
  case numbered =>
    exact sound.numbered.concat old
  case positive =>
    exact created sound.positive (by omega)
  case counted =>
    apply created
    · intro other member
      exact Nat.le_of_lt (old other member)
    · exact Nat.le_refl _
  case bounded =>
    change event.sequence ≤ maxUint64
    omega
  case clean =>
    exact created sound.clean clean
  case last_le =>
    change world.last ≤ event.sequence
    exact Nat.le_trans sound.last_le (by omega)
  case passed =>
    exact sound.passed
  case asked =>
    exact sound.asked

theorem PollingSound.changed (sound : PollingSound level world) {logger : Logger}
    {dropped : List LogEvent} (counter : logger.sequence = world.logger.sequence)
    (split : world.created = dropped ++ logger.events) :
    PollingSound level
      { world with
        logger := logger
        dropped := dropped } where
  toExactPolling := ⟨sound.increasing, sound.small, sound.answered, sound.exact,
    sound.origin⟩
  split := split
  numbered := sound.numbered
  positive := sound.positive
  counted := by
    intro event member
    exact counter ▸ sound.counted event member
  bounded := counter ▸ sound.bounded
  clean := sound.clean
  last_le := counter ▸ sound.last_le
  passed := sound.passed
  asked := sound.asked

theorem PollingSound.setPending (sound : PollingSound level world)
    {pending : Option PendingPoll}
    (asked : ∀ request, pending = some request →
      request.after = world.last ∧ request.level = level) :
    PollingSound level { world with pending := pending } where
  toExactPolling := ⟨sound.increasing, sound.small, sound.answered, sound.exact,
    sound.origin⟩
  split := sound.split
  numbered := sound.numbered
  positive := sound.positive
  counted := sound.counted
  bounded := sound.bounded
  clean := sound.clean
  last_le := sound.last_le
  passed := sound.passed
  asked := asked

/-! ### A reply -/

def answeredEvents (world : PollingWorld) (request : PendingPoll) : List LogEvent :=
  fittingEvents request.structured 0
    (world.logger.collect request.level request.after)

theorem PollingSound.retained (sound : PollingSound level world) {event : LogEvent}
    (member : event ∈ world.logger.events) : event ∈ world.created := by
  rw [sound.split]
  exact List.mem_append_right _ member

theorem mem_collect {event : LogEvent} {after : Nat} :
    event ∈ world.logger.collect level after ↔
      event ∈ world.logger.events ∧ after < event.sequence ∧
        wanted level event = true := by
  simp only [Logger.collect, List.mem_filter, Bool.and_eq_true, decide_eq_true_eq,
    wanted]

theorem mem_answered {request : PendingPoll} {event : LogEvent}
    (member : event ∈ answeredEvents world request) :
    event ∈ world.logger.collect request.level request.after :=
  (fittingEvents_initial _ _ _).subset member

theorem PollingSound.numbers (sound : PollingSound level world)
    (request : PendingPoll) :
    rowSequences (logsReply request.structured
      (world.logger.collect request.level request.after)) =
        (answeredEvents world request).map (·.sequence) := by
  rw [logsReply_eq]
  apply rowSequences_rows
  intro event member
  have collected := mem_answered member
  exact sound.clean event (sound.retained (mem_collect.mp collected).1)

theorem PollingSound.collected_increasing (sound : PollingSound level world)
    (request : PendingPoll) :
    Increasing LogEvent.sequence
      (world.logger.collect request.level request.after) := by
  have numbered := sound.numbered
  rw [sound.split] at numbered
  have retained := (List.pairwise_append.mp numbered).2.1
  exact retained.sublist List.filter_sublist

theorem PollingSound.last_cases (sound : PollingSound level world)
    (request : PendingPoll) :
    (answeredEvents world request = [] ∧ (world.answer request).last = world.last) ∨
      ∃ event ∈ answeredEvents world request,
        (world.answer request).last = event.sequence ∧
        ∀ other ∈ answeredEvents world request, other.sequence ≤ event.sequence := by
  have numbers := sound.numbers request
  change _ ∧ (rowSequences _).getLast?.getD world.last = _ ∨
    ∃ event ∈ _, (rowSequences _).getLast?.getD world.last = _ ∧ _
  rw [numbers, List.getLast?_map]
  have increasing := (sound.collected_increasing request).sublist
    (fittingEvents_initial request.structured 0 _).sublist
  change Increasing LogEvent.sequence (answeredEvents world request) at increasing
  cases ending : (answeredEvents world request).getLast? with
  | none =>
      exact Or.inl ⟨List.getLast?_eq_none_iff.mp ending, rfl⟩
  | some event =>
      have parts := List.dropLast_append_getLast? event ending
      refine Or.inr ⟨event, List.mem_of_getLast? ending, rfl, ?_⟩
      intro other member
      rw [← parts] at member increasing
      rcases List.mem_append.mp member with earlier | last
      · exact Nat.le_of_lt ((List.pairwise_append.mp increasing).2.2 other earlier
          event List.mem_cons_self)
      · rw [List.mem_singleton.mp last]

structure SentEvent (level : Level) (world : PollingWorld) (last : Nat)
    (event : LogEvent) : Prop where
  retained : event ∈ world.logger.events
  later : world.last < event.sequence
  wanted : wanted level event = true
  within : event.sequence ≤ last

theorem PollingSound.delivered (sound : PollingSound level world)
    {request : PendingPoll} (asked : world.pending = some request)
    {event : LogEvent} (member : event ∈ answeredEvents world request) :
    SentEvent level world (world.answer request).last event := by
  obtain ⟨after, levelEq⟩ := sound.asked request asked
  have collected := mem_answered member
  rw [levelEq, after] at collected
  obtain ⟨retained, later, wantedEvent⟩ := mem_collect.mp collected
  refine ⟨retained, later, wantedEvent, ?_⟩
  rcases sound.last_cases request with ⟨none, _⟩ | ⟨reached, _, lastEq, greatest⟩
  · rw [none] at member
    cases member
  · rw [lastEq]
    exact greatest event member

theorem PollingSound.last_mono (sound : PollingSound level world)
    {request : PendingPoll} (asked : world.pending = some request) :
    world.last ≤ (world.answer request).last := by
  rcases sound.last_cases request with ⟨_, same⟩ | ⟨reached, member, _, _⟩
  · exact Nat.le_of_eq same.symm
  · have delivered := sound.delivered asked member
    exact Nat.le_of_lt (Nat.lt_of_lt_of_le delivered.later delivered.within)

theorem PollingSound.covers (sound : PollingSound level world)
    {request : PendingPoll} (asked : world.pending = some request)
    {event : LogEvent} (retained : event ∈ world.logger.events)
    (wantedEvent : wanted level event = true) (later : world.last < event.sequence)
    (within : event.sequence ≤ (world.answer request).last) :
    event ∈ answeredEvents world request := by
  obtain ⟨after, levelEq⟩ := sound.asked request asked
  rcases sound.last_cases request with ⟨_, same⟩ | ⟨reached, member, lastEq, _⟩
  · rw [same] at within
    omega
  · have collected : event ∈ world.logger.collect request.level request.after := by
      rw [levelEq, after]
      exact mem_collect.mpr ⟨retained, later, wantedEvent⟩
    rw [lastEq] at within
    exact (sound.collected_increasing request).prefix_covers
      (fittingEvents_initial request.structured 0 _) collected member within

theorem missed_answer {request : PendingPoll} {event : LogEvent} :
    (world.answer request).Missed event ↔
      world.Missed event ∨ (world.last < event.sequence ∧
        event.sequence ≤ (world.answer request).last ∧ event ∈ world.dropped) := by
  constructor
  · rintro ⟨poll, member, facts⟩
    rcases List.mem_append.mp member with old | new
    · exact Or.inl ⟨poll, old, facts⟩
    · rw [List.mem_singleton.mp new] at facts
      exact Or.inr facts
  · rintro (⟨poll, member, facts⟩ | facts)
    · exact ⟨poll, List.mem_append_left _ member, facts⟩
    · exact ⟨_, List.mem_append_right _ List.mem_cons_self, facts⟩

theorem PollingSound.missed_within (sound : PollingSound level world)
    {event : LogEvent} (missed : world.Missed event) :
    event.sequence ≤ world.last := by
  obtain ⟨poll, member, _, within, _⟩ := missed
  exact Nat.le_trans within (sound.passed poll member)

theorem PollingSound.answer_exact (sound : PollingSound level world)
    {request : PendingPoll} (asked : world.pending = some request)
    {event : LogEvent} (created : event ∈ world.created)
    (wantedEvent : wanted level event = true)
    (within : event.sequence ≤ (world.answer request).last) :
    (event.sequence ∈ world.received ++ (answeredEvents world request).map (·.sequence) ∧
        ¬ (world.answer request).Missed event) ∨
      (event.sequence ∉
          world.received ++ (answeredEvents world request).map (·.sequence) ∧
        (world.answer request).Missed event) := by
  have numbered := sound.numbered
  rw [sound.split] at numbered
  rw [missed_answer]
  rcases Nat.lt_or_ge world.last event.sequence with later | earlier
  · -- Numbers after the last one are decided by this reply.
    have fresh : event.sequence ∉ world.received := by
      intro member
      obtain ⟨_, _, _, _, bound⟩ := sound.origin event.sequence member
      omega
    have unmissed : ¬ world.Missed event := by
      intro missed
      have bound := sound.missed_within missed
      omega
    rw [sound.split] at created
    rcases List.mem_append.mp created with dropped | retained
    · apply Or.inr
      refine ⟨?_, Or.inr ⟨later, within, dropped⟩⟩
      intro member
      rcases List.mem_append.mp member with old | new
      · exact fresh old
      · obtain ⟨other, sent, same⟩ := List.mem_map.mp new
        have retained := (sound.delivered asked sent).retained
        have equal := sound.numbered.inj (sound.retained retained)
          (by rw [sound.split]; exact List.mem_append_left _ dropped) same
        exact numbered.disjoint dropped (equal ▸ retained)
    · apply Or.inl
      constructor
      · have sent := sound.covers asked retained wantedEvent later within
        exact List.mem_append_right _ (List.mem_map_of_mem sent)
      · rintro (missed | ⟨_, _, dropped⟩)
        · exact unmissed missed
        · exact numbered.disjoint dropped retained
  · -- Numbers up to the last one were decided before.
    have notSent : event.sequence ∉ (answeredEvents world request).map (·.sequence) := by
      intro member
      obtain ⟨other, sent, same⟩ := List.mem_map.mp member
      have later := (sound.delivered asked sent).later
      omega
    rcases sound.exact event created wantedEvent earlier with ⟨got, unmissed⟩ | ⟨lost, missed⟩
    · apply Or.inl
      refine ⟨List.mem_append_left _ got, ?_⟩
      rintro (missed | ⟨later, _⟩)
      · exact unmissed missed
      · omega
    · apply Or.inr
      refine ⟨?_, Or.inl missed⟩
      intro member
      rcases List.mem_append.mp member with old | new
      · exact lost old
      · exact notSent new

theorem PollingSound.answer (sound : PollingSound level world)
    {request : PendingPoll} (asked : world.pending = some request) :
    PollingSound level (world.answer request) := by
  obtain ⟨afterEq, levelEq⟩ := sound.asked request asked
  have numbers := sound.numbers request
  have receivedEq : (world.answer request).received =
      world.received ++ (answeredEvents world request).map (·.sequence) := by
    rw [← numbers]
    rfl
  have increasing := (sound.collected_increasing request).sublist
    (fittingEvents_initial request.structured 0 _).sublist
  constructor
  case toExactPolling =>
    constructor
    case increasing =>
      rw [receivedEq]
      apply List.pairwise_append.mpr
      refine ⟨sound.increasing, Increasing.numbers increasing, ?_⟩
      intro earlier old later new
      obtain ⟨event, sent, same⟩ := List.mem_map.mp new
      obtain ⟨_, _, _, _, bound⟩ := sound.origin earlier old
      have after := (sound.delivered asked sent).later
      omega
    case small =>
      intro poll member
      rcases List.mem_append.mp member with old | new
      · exact sound.small poll old
      · rw [List.mem_singleton.mp new]
        exact logsReply_length_le _ _
    case answered =>
      intro poll member
      rcases List.mem_append.mp member with old | new
      · exact sound.answered poll old
      · rw [List.mem_singleton.mp new]
        intro event retained wantedEvent later
        have collected : event ∈
            world.logger.collect request.level request.after := by
          rw [levelEq, afterEq]
          exact mem_collect.mpr ⟨retained, later, wantedEvent⟩
        intro empty
        rw [show logsReply _ _ = _ from empty] at numbers
        have none : answeredEvents world request = [] := by
          apply List.map_eq_nil_iff.mp
          rw [← numbers]
          rfl
        revert none
        unfold answeredEvents
        cases rows : world.logger.collect request.level request.after with
        | nil =>
            rw [rows] at collected
            cases collected
        | cons first rest =>
            have firstMember : first ∈
                world.logger.collect request.level request.after := by
              rw [rows]
              exact List.mem_cons_self
            have firstCreated := sound.retained (mem_collect.mp firstMember).1
            exact fittingEvents_ne_nil request.structured
              (sound.clean first firstCreated)
              (Nat.le_trans (sound.counted first firstCreated) sound.bounded)
    case exact =>
      intro event created wantedEvent within
      rw [receivedEq]
      exact sound.answer_exact asked created wantedEvent within
    case origin =>
      intro number member
      rw [receivedEq] at member
      rcases List.mem_append.mp member with old | new
      · obtain ⟨event, created, same, wantedEvent, bound⟩ := sound.origin number old
        exact ⟨event, created, same, wantedEvent,
          Nat.le_trans bound (sound.last_mono asked)⟩
      · obtain ⟨event, sent, same⟩ := List.mem_map.mp new
        have delivered := sound.delivered asked sent
        exact ⟨event, sound.retained delivered.retained, same, delivered.wanted,
          same ▸ delivered.within⟩
  case split =>
    exact sound.split
  case numbered =>
    exact sound.numbered
  case positive =>
    exact sound.positive
  case counted =>
    exact sound.counted
  case bounded =>
    exact sound.bounded
  case clean =>
    exact sound.clean
  case last_le =>
    rcases sound.last_cases request with ⟨_, same⟩ | ⟨reached, member, lastEq, _⟩
    · rw [same]
      exact sound.last_le
    · rw [lastEq]
      exact sound.counted reached
        (sound.retained (sound.delivered asked member).retained)
  case passed =>
    intro poll member
    rcases List.mem_append.mp member with old | new
    · exact Nat.le_trans (sound.passed poll old) (sound.last_mono asked)
    · rw [List.mem_singleton.mp new]
      exact Nat.le_refl _
  case asked =>
    exact nofun

/-! ### The steps -/

theorem PollingSound.ask (sound : PollingSound level world) {screen : Level}
    {waitMs : Nat} {structured : Bool} (allowed : waitMs ≤ 1000)
    (known : level.value.toNat ≤ 3) {request : LogsRequest}
    (read : parseLogsRequest screen (logsPayload
      { after := world.last
        waitMs := waitMs
        level := level
        structured := structured }) = .ok request) :
    PollingSound level
      { world with
        pending := some
          { after := world.logger.startAfter request.after
            level := request.level
            structured := request.structured } } := by
  have counted : world.last ≤ maxUint64 := Nat.le_trans sound.last_le sound.bounded
  rw [parseLogsRequest_payload screen counted allowed known] at read
  cases read
  apply sound.setPending
  intro request asked
  cases asked
  constructor
  · -- The number is one of this process, so that it is not reset.
    change world.logger.startAfter world.last = world.last
    unfold Logger.startAfter
    rw [if_neg (Nat.not_lt.mpr sound.last_le)]
  · rfl

theorem PollingSound.step (sound : PollingSound level world) {screen : Level}
    {action : PollingAction} {after : PollingWorld}
    (performed : performPolling screen level world action = some after) :
    PollingSound level after := by
  cases action with
  | write time eventLevel code message context =>
      simp only [performPolling] at performed
      split at performed
      · split at performed
        · rename_i room
          cases performed
          exact sound.store rfl room (writtenEvent_clean _ _ _ _ _ _)
        · cases performed
      · cases performed
        exact sound
  | fileQueueFull time dropped =>
      simp only [performPolling] at performed
      split at performed
      · rename_i room
        cases performed
        exact sound.store rfl room (failureEvent_clean _ _ _)
      · cases performed
  | clear =>
      have cleared : world.created = (world.dropped ++ world.logger.events) ++ [] := by
        rw [List.append_nil]
        exact sound.split
      cases performed
      exact PollingSound.changed sound (by rfl) cleared
  | configure displayLevel fileLevel fileEnabled =>
      cases performed
      exact sound.changed rfl sound.split
  | ask waitMs structured =>
      simp only [performPolling] at performed
      split at performed
      · rename_i guards
        obtain ⟨allowed, known, _⟩ := guards
        split at performed
        · rename_i request read
          cases performed
          exact sound.ask allowed known read
        · cases performed
      · cases performed
  | answer =>
      obtain ⟨request, asked, same⟩ := Option.map_eq_some_iff.mp performed
      rw [← same]
      exact sound.answer asked
  | giveUp =>
      cases performed
      exact sound.setPending nofun

end Steps

theorem pollingSound_reached {screen level : Level} {capacity : Nat}
    {world : PollingWorld} (reached : PollingReached screen level capacity world) :
    PollingSound level world := by
  apply reached.invariant
  · rintro _ rfl
    exact pollingSound_initial level capacity
  · intro before after _ sound moved
    obtain ⟨action, performed⟩ := moved
    exact sound.step performed

/-- Whatever is written, evicted and cleared between the polls, a client that
passes on the last number it has received gets every event of its level once and
in order. -/
theorem logPolling_exact {screen level : Level} {capacity : Nat}
    {world : PollingWorld} (reached : PollingReached screen level capacity world) :
    ExactPolling level world :=
  (pollingSound_reached reached).toExactPolling

/-- Two of four events are evicted before the first poll; one is written between
the second request and its reply. -/
def pollingRun : List PollingAction :=
  [.write 0 .errorsOnly (text "A") (text "first") {},
   .write 1 .errorsOnly (text "B") (text "second") {},
   .write 2 .errorsOnly (text "C") (text "third") {},
   .write 3 .errorsOnly (text "D") (text "fourth") {},
   .ask 1000 false, .answer,
   .ask 1000 true, .write 4 .errorsOnly (text "E") (text "fifth") {}, .answer]

theorem logPolling_exact_evicted :
    ∃ world, PollingReached .normal .normal 2 world ∧
      ExactPolling .normal world ∧ world.received = [3, 4, 5] ∧
      world.dropped.map (·.sequence) = [1, 2, 3] := by
  have ran : ((Transition.performAll (performPolling .normal .normal)
      { logger := { capacity := 2 } } pollingRun).map fun world =>
        (world.received, world.dropped.map (·.sequence))) =
      some ([3, 4, 5], [1, 2, 3]) := by
    decide +kernel
  obtain ⟨world, done, seen⟩ := Option.map_eq_some_iff.mp ran
  have start : PollingReached .normal .normal 2 { logger := { capacity := 2 } } :=
    .start rfl
  have reached : PollingReached .normal .normal 2 world :=
    start.performAll (fun _ action _ performed => ⟨action, performed⟩) done
  obtain ⟨received, dropped⟩ := Prod.mk.inj seen
  exact ⟨world, reached, logPolling_exact reached, received, dropped⟩

end NativeDNS
