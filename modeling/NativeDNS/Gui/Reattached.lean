/-
A window that polls the log over restarts of the core.

Each run of the core begins a new logger.  The window keeps the greatest number
it has read; a core that has not counted so far takes that number for one of an
earlier run and answers from its beginning.  One poll is under way at a time: it
is asked, answered by whichever run is there, and read; it may fail before that.

`run`, `appended` and `polls` are kept for the statements only: the number of
the run, the run and number of every record appended to the panel, and the polls
that were read.
-/
import NativeDNS.Gui.LogRecords
import NativeDNS.Logging.Polling
import NativeDNS.Logging.RowLines

namespace NativeDNS

open Numbered
open ByteText (text)

/-- A reply on its way to the window: the run that made it, what that run had
counted and retained, the number in the request, the form and the text. -/
structure WindowReply where
  run : Nat
  counter : Nat
  retained : List LogEvent
  number : Nat
  structured : Bool
  payload : Bytes

inductive WindowPoll where
  | asked (after : Nat)
  | answered (reply : WindowReply)

/-- A poll that was read: its reply, what had been appended before, and the
numbers of its records. -/
structure ReadPoll where
  reply : WindowReply
  before : List (Nat × Nat)
  numbers : List Nat

structure WindowWorld where
  core : LogSystem := {}
  run : Nat := 0
  pending : Option WindowPoll := none
  logSequence : Nat := 0
  appended : List (Nat × Nat) := []
  polls : List ReadPoll := []

inductive WindowAction where
  | log (action : LogAction)
  | restart
  | refreshLogs
  | answer (structured : Bool)
  | appendLogLines
  | fail

namespace WindowWorld

/-- The core answers the request of the window; the wait is 0. -/
def answer (screen level : Level) (world : WindowWorld) (after : Nat)
    (structured : Bool) : Option WindowWorld :=
  match parseLogsRequest screen (logsPayload
    { after := after
      waitMs := 0
      level := level
      structured := structured }) with
  | .ok request =>
      some { world with
        pending := some (.answered
          { run := world.run
            counter := world.core.logger.sequence
            retained := world.core.logger.events
            number := request.after
            structured := request.structured
            payload := logsReply request.structured
              (world.core.logger.snapshot request.level request.after) }) }
  | .error _ => none

def appendLogLines (qt : Qt) (world : WindowWorld) (reply : WindowReply) : WindowWorld :=
  let records := decodeLogRecords qt (qt.fromUtf8 reply.payload)
  let numbers := records.map (·.sequence)
  { world with
    pending := none
    logSequence := numbers.foldl max world.logSequence
    appended := world.appended ++ numbers.map fun number => (reply.run, number)
    polls := world.polls ++
      [{ reply := reply
         before := world.appended
         numbers := numbers }] }

end WindowWorld

/-- One step of the core or of its window, which asks for one of the four
levels. -/
def performWindow (qt : Qt) (capacity : Nat) (screen level : Level)
    (world : WindowWorld) : WindowAction → Option WindowWorld
  | .log action =>
      (performLogging world.core action).map fun core => { world with core := core }
  | .restart =>
      some { world with
        core := { logger := { capacity := capacity } }
        run := world.run + 1 }
  | .refreshLogs =>
      if level.value.toNat ≤ 3 ∧ world.pending.isNone = true then
        some { world with pending := some (.asked world.logSequence) }
      else none
  | .answer structured =>
      match world.pending with
      | some (.asked after) => world.answer screen level after structured
      | some (.answered _) => none
      | none => none
  | .appendLogLines =>
      match world.pending with
      | some (.answered reply) => some (world.appendLogLines qt reply)
      | some (.asked _) => none
      | none => none
  | .fail => world.pending.map fun _ => { world with pending := none }

/-- The log is not cleared, and the failures of its file are clean rows. -/
def KeptLog (system : LogSystem) (action : LogAction) : Prop :=
  action ≠ .clearDisplay ∧ CleanFailures system action

/-- The steps of the core that the statements are about. -/
def WindowSteps (world : WindowWorld) : WindowAction → Prop
  | .log action => KeptLog world.core action
  | .restart | .refreshLogs | .answer _ | .appendLogLines | .fail => True

abbrev WindowReached (qt : Qt) (capacity : Nat) (screen level : Level)
    (allowed : WindowWorld → WindowAction → Prop) : WindowWorld → Prop :=
  Transition.Reachable
    (fun world => world = { core := { logger := { capacity := capacity } } })
    fun before after => ∃ action,
      performWindow qt capacity screen level before action = some after ∧
        WindowSteps before action ∧ allowed before action

/-! ### The property -/

/-- The retained events of the level that the poll had not been sent. -/
def ReadPoll.unread (level : Level) (poll : ReadPoll) : List LogEvent :=
  poll.reply.retained.filter fun event =>
    wanted level event && decide ((poll.reply.run, event.sequence) ∉ poll.before)

/-- Earlier runs come first, and in a run smaller numbers. -/
def Precedes (left right : Nat × Nat) : Prop :=
  left.1 < right.1 ∨ (left.1 = right.1 ∧ left.2 < right.2)

/-- Nothing is appended twice or out of order, and every poll brings as many of
the retained events still unread, from the first on, as its reply has room for. -/
structure SurvivesRestarts (level : Level) (world : WindowWorld) : Prop where
  ordered : world.appended.Pairwise Precedes
  complete : ∀ poll ∈ world.polls, poll.numbers =
    (fittingEvents poll.reply.structured 0 (poll.unread level)).map (·.sequence)

/-- The window has read a number of the run that is not below this one. -/
def Passed (appended : List (Nat × Nat)) (run number : Nat) : Prop :=
  ∃ seen, (run, seen) ∈ appended ∧ number ≤ seen

/-- The retained events of the level that the window has read are those numbered
up to the number of its request, which is not above the counter of the run; when
it is above it, none of them has been read. -/
def StartsWhereRead (level : Level) (appended : List (Nat × Nat))
    (reply : WindowReply) : Prop :=
  ∀ event ∈ reply.retained, wanted level event = true →
    (Passed appended reply.run event.sequence ↔
      event.sequence ≤ reply.number ∧ reply.number ≤ reply.counter)

/-- The replies that are read start where the window has read to. -/
def CurrentNumber (level : Level) (world : WindowWorld) : WindowAction → Prop
  | .appendLogLines =>
      ∀ reply, world.pending = some (.answered reply) →
        StartsWhereRead level world.appended reply
  | .log _ | .restart | .refreshLogs | .answer _ | .fail => True

/-! ### Stored events -/

structure StoredEvents (events : List LogEvent) : Prop where
  increasing : Increasing LogEvent.sequence events
  positive : ∀ event ∈ events, 0 < event.sequence
  counted : ∀ event ∈ events, event.sequence ≤ maxUint64
  clean : ∀ event ∈ events, CleanEvent event

theorem StoredEvents.nil : StoredEvents [] where
  increasing := List.Pairwise.nil
  positive := nofun
  counted := nofun
  clean := nofun

theorem StoredEvents.sublist {events fewer : List LogEvent}
    (stored : StoredEvents events) (part : fewer.Sublist events) :
    StoredEvents fewer where
  increasing := stored.increasing.sublist part
  positive := fun event member => stored.positive event (part.subset member)
  counted := fun event member => stored.counted event (part.subset member)
  clean := fun event member => stored.clean event (part.subset member)

theorem StoredEvents.concat {events : List LogEvent} {event : LogEvent} {counter : Nat}
    (stored : StoredEvents events)
    (within : ∀ other ∈ events, other.sequence ≤ counter)
    (next : event.sequence = counter + 1) (room : counter < maxUint64)
    (clean : CleanEvent event) : StoredEvents (events ++ [event]) := by
  have each : ∀ {holds : LogEvent → Prop}, (∀ other ∈ events, holds other) →
      holds event → ∀ other ∈ events ++ [event], holds other := by
    intro holds old own other member
    rcases List.mem_append.mp member with inside | last
    · exact old other inside
    · rw [List.mem_singleton.mp last]
      exact own
  constructor
  case increasing =>
    apply stored.increasing.concat
    intro other member
    have bound := within other member
    omega
  case positive =>
    exact each stored.positive (by omega)
  case counted =>
    exact each stored.counted (by omega)
  case clean =>
    exact each stored.clean clean

def laterEvents (level : Level) (after : Nat) (events : List LogEvent) :
    List LogEvent :=
  events.filter fun event => decide (after < event.sequence) && wanted level event

theorem mem_laterEvents {level : Level} {after : Nat} {events : List LogEvent}
    {event : LogEvent} :
    event ∈ laterEvents level after events ↔
      event ∈ events ∧ after < event.sequence ∧ wanted level event = true := by
  simp only [laterEvents, List.mem_filter, Bool.and_eq_true, decide_eq_true_eq]

theorem performLogging_part {system after : LogSystem} {action : LogAction}
    (performed : performLogging system action = some after) :
    after.logger.events.Sublist
        (system.logger.events ++ (system.stored action).toList) ∧
      system.logger.sequence ≤ after.logger.sequence ∧
      ∀ event, system.stored action = some event →
        event.sequence = system.logger.sequence + 1 ∧
          after.logger.sequence = event.sequence := by
  have change := performLogging_change performed
  cases stored : system.stored action with
  | none =>
      obtain ⟨sequence, events⟩ := change.kept stored
      refine ⟨?_, Nat.le_of_eq sequence.symm, nofun⟩
      rw [Option.toList_none, List.append_nil]
      rcases events with same | cleared
      · rw [same]
      · rw [cleared]
        exact List.nil_sublist _
  | some event =>
      obtain ⟨next, counter, events⟩ := change.appended event stored
      refine ⟨?_, by omega, ?_⟩
      · rw [events, Option.toList_some]
        simp only [Logger.store]
        split
        · exact List.drop_sublist 1 _
        · exact List.Sublist.refl _
      · intro other same
        cases same
        exact ⟨next, counter⟩

/-! ### The invariant -/

structure RunSound (level : Level) (appended : List (Nat × Nat)) (run : Nat)
    (logger : Logger) : Prop where
  stored : StoredEvents logger.events
  counted : ∀ event ∈ logger.events, event.sequence ≤ logger.sequence
  bounded : logger.sequence ≤ maxUint64
  runs : ∀ pair ∈ appended, pair.1 ≤ run ∧ (pair.1 = run → pair.2 ≤ logger.sequence)
  covered : ∀ event ∈ logger.events, wanted level event = true →
    Passed appended run event.sequence → (run, event.sequence) ∈ appended

structure ReplySound (level : Level) (world : WindowWorld) (reply : WindowReply) :
    Prop where
  stored : StoredEvents reply.retained
  payload : reply.payload = logsReply reply.structured
    (laterEvents level (if reply.counter < reply.number then 0 else reply.number)
      reply.retained)
  run : reply.run ≤ world.run
  runs : ∀ pair ∈ world.appended, pair.1 ≤ reply.run
  covered : ∀ event ∈ reply.retained, wanted level event = true →
    Passed world.appended reply.run event.sequence →
      (reply.run, event.sequence) ∈ world.appended
  counted : reply.run = world.run →
    ∀ event ∈ reply.retained, event.sequence ≤ world.core.logger.sequence
  kept : reply.run = world.run → ∀ event ∈ world.core.logger.events,
    event ∈ reply.retained ∨
      ∀ old ∈ reply.retained, old.sequence < event.sequence

structure WindowSound (level : Level) (world : WindowWorld) : Prop
    extends SurvivesRestarts level world where
  current : RunSound level world.appended world.run world.core.logger
  number : world.logSequence ≤ maxUint64
  asked : ∀ after, world.pending = some (.asked after) →
    after ≤ maxUint64 ∧ level.value.toNat ≤ 3
  answered : ∀ reply, world.pending = some (.answered reply) →
    ReplySound level world reply

theorem windowSound_initial (level : Level) (capacity : Nat) :
    WindowSound level { core := { logger := { capacity := capacity } } } where
  ordered := List.Pairwise.nil
  complete := nofun
  current :=
    { stored := .nil
      counted := nofun
      bounded := Nat.zero_le _
      runs := nofun
      covered := nofun }
  number := Nat.zero_le _
  asked := nofun
  answered := nofun

section Steps

variable {level : Level} {world : WindowWorld}

theorem RunSound.unpassed {appended : List (Nat × Nat)} {run : Nat} {logger : Logger}
    (sound : RunSound level appended run logger) {number : Nat}
    (later : logger.sequence < number) : ¬ Passed appended run number := by
  rintro ⟨seen, member, upTo⟩
  have bound := (sound.runs (run, seen) member).2 rfl
  simp only at bound
  omega

theorem WindowSound.log (sound : WindowSound level world) {action : LogAction}
    {core : LogSystem} (kept : KeptLog world.core action)
    (performed : performLogging world.core action = some core) :
    WindowSound level { world with core := core } := by
  obtain ⟨part, grows, next⟩ := performLogging_part performed
  have room := performLogging_counted performed
  have current := sound.current
  have whole : StoredEvents
      (world.core.logger.events ++ (world.core.stored action).toList) := by
    cases stored : world.core.stored action with
    | none =>
        rw [Option.toList_none, List.append_nil]
        exact current.stored
    | some event =>
        exact current.stored.concat current.counted (next event stored).1 room
          ((stored_clean stored).mpr kept.2)
  have split : ∀ event ∈ core.logger.events, event ∈ world.core.logger.events ∨
      (event.sequence = world.core.logger.sequence + 1 ∧
        core.logger.sequence = event.sequence) := by
    intro event member
    rcases List.mem_append.mp (part.subset member) with old | new
    · exact Or.inl old
    · exact Or.inr (next event (Option.mem_toList.mp new))
  refine
    { toSurvivesRestarts := ⟨sound.ordered, sound.complete⟩
      current := ?_
      number := sound.number
      asked := sound.asked
      answered := ?_ }
  · constructor
    case stored =>
      exact whole.sublist part
    case counted =>
      intro event member
      rcases split event member with old | ⟨_, counter⟩
      · exact Nat.le_trans (current.counted event old) grows
      · exact Nat.le_of_eq counter.symm
    case bounded =>
      change core.logger.sequence ≤ maxUint64
      cases stored : world.core.stored action with
      | none =>
          rw [((performLogging_change performed).kept stored).1]
          exact current.bounded
      | some event =>
          have counter := next event stored
          omega
    case runs =>
      intro pair member
      have bound := current.runs pair member
      exact ⟨bound.1, fun same => Nat.le_trans (bound.2 same) grows⟩
    case covered =>
      intro event member wantedEvent passed
      rcases split event member with old | ⟨new, _⟩
      · exact current.covered event old wantedEvent passed
      · exact absurd passed (current.unpassed (by omega))
  · intro reply answered
    have before := sound.answered reply answered
    exact
      { stored := before.stored
        payload := before.payload
        run := before.run
        runs := before.runs
        covered := before.covered
        counted := fun same event member =>
          Nat.le_trans (before.counted same event member) grows
        kept := by
          intro same event member
          rcases split event member with old | ⟨new, _⟩
          · exact before.kept same event old
          · apply Or.inr
            intro earlier retained
            have bound := before.counted same earlier retained
            omega }

theorem WindowSound.restart (sound : WindowSound level world) (capacity : Nat) :
    WindowSound level
      { world with
        core := { logger := { capacity := capacity } }
        run := world.run + 1 } where
  toSurvivesRestarts := ⟨sound.ordered, sound.complete⟩
  current :=
    { stored := .nil
      counted := nofun
      bounded := Nat.zero_le _
      runs := by
        intro pair member
        have bound := (sound.current.runs pair member).1
        exact ⟨Nat.le_succ_of_le bound,
          fun same => absurd same (Nat.ne_of_lt (Nat.lt_succ_of_le bound))⟩
      covered := nofun }
  number := sound.number
  asked := sound.asked
  answered := by
    intro reply answered
    have before := sound.answered reply answered
    have ended : reply.run ≠ world.run + 1 := by
      have bound := before.run
      omega
    exact
      { stored := before.stored
        payload := before.payload
        run := Nat.le_succ_of_le before.run
        runs := before.runs
        covered := before.covered
        counted := fun same => absurd same ended
        kept := fun same => absurd same ended }

theorem WindowSound.setPending (sound : WindowSound level world)
    {pending : Option WindowPoll}
    (asked : ∀ after, pending = some (.asked after) →
      after ≤ maxUint64 ∧ level.value.toNat ≤ 3)
    (answered : ∀ reply, pending = some (.answered reply) →
      ReplySound level { world with pending := pending } reply) :
    WindowSound level { world with pending := pending } where
  toSurvivesRestarts := ⟨sound.ordered, sound.complete⟩
  current := sound.current
  number := sound.number
  asked := asked
  answered := answered

theorem WindowSound.answer (sound : WindowSound level world) {screen : Level}
    (known : level.value.toNat ≤ 3) {number : Nat} (counted : number ≤ maxUint64)
    {structured : Bool} {after : WindowWorld}
    (answered : world.answer screen level number structured = some after) :
    WindowSound level after := by
  unfold WindowWorld.answer at answered
  rw [parseLogsRequest_payload screen counted (Nat.zero_le 1000) known] at answered
  cases answered
  apply sound.setPending
  · intro after same
    cases same
  intro reply same
  cases same
  have current := sound.current
  exact
    { stored := current.stored
      payload := rfl
      run := Nat.le_refl _
      runs := fun pair member => (current.runs pair member).1
      covered := current.covered
      counted := fun _ => current.counted
      kept := fun _ _ member => Or.inl member }

/-! ### Reading a reply -/

def WindowReply.events (level : Level) (reply : WindowReply) : List LogEvent :=
  fittingEvents reply.structured 0
    (laterEvents level (if reply.counter < reply.number then 0 else reply.number)
      reply.retained)

theorem ReplySound.mem {reply : WindowReply} {event : LogEvent}
    (member : event ∈ reply.events level) :
    event ∈ reply.retained ∧ wanted level event = true ∧
      (reply.number ≤ reply.counter → reply.number < event.sequence) := by
  obtain ⟨retained, later, wantedEvent⟩ :=
    mem_laterEvents.mp ((fittingEvents_initial _ _ _).subset member)
  refine ⟨retained, wantedEvent, ?_⟩
  intro known
  rw [if_neg (Nat.not_lt.mpr known)] at later
  exact later

theorem ReplySound.numbers {qt : Qt} {units : Bytes → QText}
    (correct : QtCorrect qt units) {reply : WindowReply}
    (sound : ReplySound level world reply) :
    (decodeLogRecords qt (qt.fromUtf8 reply.payload)).map (·.sequence) =
      (reply.events level).map (·.sequence) := by
  rw [sound.payload, logsReply_eq]
  apply correct.sequences
  · intro event member
    exact sound.stored.clean event (ReplySound.mem member).1
  · intro event member
    exact sound.stored.counted event (ReplySound.mem member).1

theorem ReplySound.increasing {reply : WindowReply}
    (sound : ReplySound level world reply) :
    Increasing LogEvent.sequence (reply.events level) :=
  sound.stored.increasing.sublist
    ((fittingEvents_initial _ _ _).sublist.trans List.filter_sublist)

theorem ReplySound.passed_iff {reply : WindowReply}
    (sound : ReplySound level world reply) {event : LogEvent}
    (retained : event ∈ reply.retained) (wantedEvent : wanted level event = true) :
    Passed world.appended reply.run event.sequence ↔
      (reply.run, event.sequence) ∈ world.appended := by
  constructor
  · exact sound.covered event retained wantedEvent
  · intro member
    exact ⟨event.sequence, member, Nat.le_refl _⟩

theorem ReplySound.later_iff {reply : WindowReply}
    (sound : ReplySound level world reply)
    (starts : StartsWhereRead level world.appended reply) {event : LogEvent}
    (retained : event ∈ reply.retained) (wantedEvent : wanted level event = true) :
    (if reply.counter < reply.number then 0 else reply.number) < event.sequence ↔
      (reply.run, event.sequence) ∉ world.appended := by
  rw [← sound.passed_iff retained wantedEvent, starts event retained wantedEvent]
  have positive := sound.stored.positive event retained
  split
  · omega
  · omega

theorem ReplySound.unread_eq {reply : WindowReply}
    (sound : ReplySound level world reply)
    (starts : StartsWhereRead level world.appended reply) {poll : ReadPoll}
    (same : poll.reply = reply) (before : poll.before = world.appended) :
    poll.unread level =
      laterEvents level (if reply.counter < reply.number then 0 else reply.number)
        reply.retained := by
  unfold ReadPoll.unread laterEvents
  rw [same, before]
  apply List.filter_congr
  intro event retained
  cases wantedEvent : wanted level event with
  | false =>
      rw [Bool.false_and, Bool.and_false]
  | true =>
      rw [Bool.true_and, Bool.and_true]
      exact decide_eq_decide.mpr (sound.later_iff starts retained wantedEvent).symm

theorem foldl_max_le {bound : Nat} (numbers : List Nat) {start : Nat}
    (starts : start ≤ bound) (each : ∀ number ∈ numbers, number ≤ bound) :
    numbers.foldl max start ≤ bound := by
  induction numbers generalizing start with
  | nil =>
      exact starts
  | cons number rest ih =>
      rw [List.foldl_cons]
      apply ih
      · exact Nat.max_le.mpr ⟨starts, each number List.mem_cons_self⟩
      · exact fun other member => each other (List.mem_cons_of_mem number member)

theorem WindowSound.appendLogLines {qt : Qt} {units : Bytes → QText}
    (correct : QtCorrect qt units) (sound : WindowSound level world)
    {reply : WindowReply} (answered : world.pending = some (.answered reply))
    (starts : StartsWhereRead level world.appended reply) :
    WindowSound level (world.appendLogLines qt reply) := by
  have facts := sound.answered reply answered
  have numbers := facts.numbers correct
  have appendedEq : (world.appendLogLines qt reply).appended =
      world.appended ++
        (reply.events level).map fun event => (reply.run, event.sequence) := by
    simp only [WindowWorld.appendLogLines, numbers, List.map_map]
    rfl
  constructor
  case toSurvivesRestarts =>
    constructor
    case ordered =>
      rw [appendedEq]
      apply List.pairwise_append.mpr
      refine ⟨sound.ordered, ?_, ?_⟩
      · apply List.pairwise_map.mpr
        exact facts.increasing.imp fun less => Or.inr ⟨rfl, less⟩
      · intro old oldMember new newMember
        obtain ⟨event, sent, same⟩ := List.mem_map.mp newMember
        obtain ⟨retained, wantedEvent, later⟩ := ReplySound.mem sent
        rw [← same]
        rcases Nat.lt_or_eq_of_le (facts.runs old oldMember) with earlier | sameRun
        · exact Or.inl earlier
        · apply Or.inr
          refine ⟨sameRun, Nat.lt_of_not_le ?_⟩
          intro upTo
          have pair : (reply.run, old.2) ∈ world.appended := by
            rw [← sameRun]
            exact oldMember
          obtain ⟨within, known⟩ :=
            (starts event retained wantedEvent).mp ⟨old.2, pair, upTo⟩
          have beyond := later known
          omega
    case complete =>
      intro poll member
      rcases List.mem_append.mp member with old | new
      · exact sound.complete poll old
      · rw [List.mem_singleton.mp new]
        simp only [numbers]
        rw [facts.unread_eq starts rfl rfl]
        rfl
  case current =>
    have current := sound.current
    refine
      { stored := current.stored
        counted := current.counted
        bounded := current.bounded
        runs := ?_
        covered := ?_ }
    · rw [appendedEq]
      intro pair member
      rcases List.mem_append.mp member with old | new
      · exact current.runs pair old
      · obtain ⟨event, sent, same⟩ := List.mem_map.mp new
        rw [← same]
        exact ⟨facts.run, fun sameRun =>
          facts.counted sameRun event (ReplySound.mem sent).1⟩
    · rw [appendedEq]
      rintro event member wantedEvent ⟨seen, seenMember, upTo⟩
      rcases List.mem_append.mp seenMember with old | new
      · exact List.mem_append_left _
          (current.covered event member wantedEvent ⟨seen, old, upTo⟩)
      · obtain ⟨other, sent, same⟩ := List.mem_map.mp new
        obtain ⟨sameRun, sameNumber⟩ := Prod.mk.inj same
        have otherRetained := (ReplySound.mem sent).1
        have retained : event ∈ reply.retained := by
          rcases facts.kept sameRun event member with inside | beyond
          · exact inside
          · have less := beyond other otherRetained
            omega
        by_cases read : (reply.run, event.sequence) ∈ world.appended
        · apply List.mem_append_left
          rw [← sameRun]
          exact read
        · have later := (facts.later_iff starts retained wantedEvent).mpr read
          have sentToo : event ∈ reply.events level :=
            Increasing.prefix_covers (facts.stored.increasing.sublist List.filter_sublist)
              (fittingEvents_initial _ _ _)
              (mem_laterEvents.mpr ⟨retained, later, wantedEvent⟩) sent (by omega)
          apply List.mem_append_right
          rw [← sameRun]
          exact List.mem_map_of_mem sentToo
  case number =>
    simp only [WindowWorld.appendLogLines, numbers]
    apply foldl_max_le _ sound.number
    intro number member
    obtain ⟨event, sent, same⟩ := List.mem_map.mp member
    rw [← same]
    exact facts.stored.counted event (ReplySound.mem sent).1
  case asked =>
    intro after asked
    cases asked
  case answered =>
    intro other asked
    cases asked

/-! ### The steps -/

theorem WindowSound.step {qt : Qt} {units : Bytes → QText}
    (correct : QtCorrect qt units) (sound : WindowSound level world) {capacity : Nat}
    {screen : Level} {action : WindowAction} {after : WindowWorld}
    (performed : performWindow qt capacity screen level world action = some after)
    (steps : WindowSteps world action) (current : CurrentNumber level world action) :
    WindowSound level after := by
  cases action with
  | log action =>
      obtain ⟨core, logged, same⟩ := Option.map_eq_some_iff.mp performed
      rw [← same]
      exact sound.log steps logged
  | restart =>
      cases performed
      exact sound.restart capacity
  | refreshLogs =>
      simp only [performWindow] at performed
      split at performed
      · rename_i guards
        cases performed
        apply sound.setPending
        · intro number same
          cases same
          exact ⟨sound.number, guards.1⟩
        · intro reply same
          cases same
      · cases performed
  | answer structured =>
      simp only [performWindow] at performed
      split at performed
      · rename_i number asked
        obtain ⟨counted, known⟩ := sound.asked number asked
        exact sound.answer known counted performed
      · cases performed
      · cases performed
  | appendLogLines =>
      simp only [performWindow] at performed
      split at performed
      · rename_i reply answered
        cases performed
        exact sound.appendLogLines correct answered (current reply answered)
      · cases performed
      · cases performed
  | fail =>
      obtain ⟨_, _, same⟩ := Option.map_eq_some_iff.mp performed
      rw [← same]
      exact sound.setPending nofun nofun

theorem StoredEvents.first_fits {events : List LogEvent} (stored : StoredEvents events)
    (structured : Bool) {event : LogEvent} (member : event ∈ events) :
    ∃ first ∈ fittingEvents structured 0 events, first.sequence ≤ event.sequence := by
  cases events with
  | nil =>
      cases member
  | cons first rest =>
      have some : fittingEvents structured 0 (first :: rest) ≠ [] :=
        fittingEvents_ne_nil structured (stored.clean first List.mem_cons_self)
          (stored.counted first List.mem_cons_self)
      obtain ⟨sent, more, fitting⟩ := List.exists_cons_of_ne_nil some
      have initial := fittingEvents_initial structured 0 (first :: rest)
      rw [fitting] at initial
      have same := (List.cons_prefix_cons.mp initial).1
      refine ⟨sent, ?_, ?_⟩
      · rw [fitting]
        exact List.mem_cons_self
      · rw [same]
        rcases List.mem_cons.mp member with here | later
        · rw [here]
        · exact Nat.le_of_lt ((List.pairwise_cons.mp stored.increasing).1 event later)

theorem ReplySound.starts_of_complete {reply : WindowReply}
    (sound : ReplySound level world reply) {poll : ReadPoll} (same : poll.reply = reply)
    (before : poll.before = world.appended)
    (complete : (reply.events level).map (·.sequence) =
      (fittingEvents reply.structured 0 (poll.unread level)).map (·.sequence)) :
    StartsWhereRead level world.appended reply := by
  have mem_unread : ∀ event, event ∈ poll.unread level ↔
      event ∈ reply.retained ∧ wanted level event = true ∧
        (reply.run, event.sequence) ∉ world.appended := by
    intro event
    unfold ReadPoll.unread
    rw [same, before, List.mem_filter, Bool.and_eq_true, decide_eq_true_eq]
  have unreadStored : StoredEvents (poll.unread level) := by
    apply sound.stored.sublist
    unfold ReadPoll.unread
    rw [same]
    exact List.filter_sublist
  intro event retained wantedEvent
  have positive := sound.stored.positive event retained
  rw [sound.passed_iff retained wantedEvent]
  constructor
  · intro read
    -- Were it sent again, the first event of the reply would be one already read.
    have notLater : ¬ (if reply.counter < reply.number then 0 else reply.number) <
        event.sequence := by
      intro later
      obtain ⟨first, sent, upTo⟩ :=
        (sound.stored.sublist List.filter_sublist).first_fits reply.structured
          (mem_laterEvents.mpr ⟨retained, later, wantedEvent⟩)
      have facts := ReplySound.mem sent
      have firstRead := sound.covered first facts.1 facts.2.1 ⟨event.sequence, read, upTo⟩
      have number : first.sequence ∈ (reply.events level).map (·.sequence) :=
        List.mem_map_of_mem sent
      rw [complete] at number
      obtain ⟨other, unread, equal⟩ := List.mem_map.mp number
      have fresh := ((mem_unread other).mp
        ((fittingEvents_initial _ _ _).subset unread)).2.2
      rw [equal] at fresh
      exact fresh firstRead
    split at notLater
    · omega
    · omega
  · rintro ⟨within, known⟩
    -- Were it skipped, the first unread event would not be in the reply.
    refine Decidable.byContradiction fun fresh => ?_
    obtain ⟨first, unread, upTo⟩ := unreadStored.first_fits reply.structured
      ((mem_unread event).mpr ⟨retained, wantedEvent, fresh⟩)
    have number : first.sequence ∈
        (fittingEvents reply.structured 0 (poll.unread level)).map (·.sequence) :=
      List.mem_map_of_mem unread
    rw [← complete] at number
    obtain ⟨other, sent, equal⟩ := List.mem_map.mp number
    have later := (ReplySound.mem sent).2.2 known
    omega

theorem WindowSound.starts_of_survives {qt : Qt} {units : Bytes → QText}
    (correct : QtCorrect qt units) (sound : WindowSound level world)
    {reply : WindowReply} (answered : world.pending = some (.answered reply))
    (survives : SurvivesRestarts level (world.appendLogLines qt reply)) :
    StartsWhereRead level world.appended reply := by
  have facts := sound.answered reply answered
  let poll : ReadPoll :=
    { reply := reply
      before := world.appended
      numbers := (decodeLogRecords qt (qt.fromUtf8 reply.payload)).map (·.sequence) }
  have last : poll ∈ (world.appendLogLines qt reply).polls :=
    List.mem_append_right _ List.mem_cons_self
  have complete := survives.complete poll last
  simp only [poll, facts.numbers correct] at complete
  exact facts.starts_of_complete rfl rfl complete

end Steps

theorem windowSound_reached {qt : Qt} {units : Bytes → QText}
    (correct : QtCorrect qt units) {capacity : Nat} {screen level : Level}
    {world : WindowWorld}
    (reached : WindowReached qt capacity screen level (CurrentNumber level) world) :
    WindowSound level world := by
  apply reached.invariant
  · rintro _ rfl
    exact windowSound_initial level capacity
  · intro before after _ sound moved
    obtain ⟨action, performed, steps, current⟩ := moved
    exact sound.step correct performed steps current

/-- In every run in which the replies that are read start where the window has
read to, the log survives restarts in every state, and the first reply that does
not start there ends that. -/
theorem windowLog_survives {qt : Qt} {units : Bytes → QText}
    (correct : QtCorrect qt units) {capacity : Nat} {screen level : Level}
    {world : WindowWorld}
    (reached : WindowReached qt capacity screen level (CurrentNumber level) world) :
    SurvivesRestarts level world ∧
      ∀ action after, performWindow qt capacity screen level world action = some after →
        WindowSteps world action →
          (SurvivesRestarts level after ↔ CurrentNumber level world action) := by
  have sound := windowSound_reached correct reached
  refine ⟨sound.toSurvivesRestarts, ?_⟩
  intro action after performed steps
  constructor
  · intro survives
    cases action with
    | appendLogLines =>
        intro reply answered
        simp only [performWindow, answered] at performed
        cases performed
        exact sound.starts_of_survives correct answered survives
    | log _ | restart | refreshLogs | answer _ | fail =>
        trivial
  · intro current
    exact (sound.step correct performed steps current).toSurvivesRestarts

/-! ### Runs -/

instance (appended : List (Nat × Nat)) (run number : Nat) :
    Decidable (Passed appended run number) :=
  decidable_of_iff (∃ pair ∈ appended, pair.1 = run ∧ number ≤ pair.2) <| by
    constructor
    · rintro ⟨⟨_, seen⟩, member, rfl, upTo⟩
      exact ⟨seen, member, upTo⟩
    · rintro ⟨seen, member, upTo⟩
      exact ⟨(run, seen), member, rfl, upTo⟩

instance (level : Level) (appended : List (Nat × Nat)) (reply : WindowReply) :
    Decidable (StartsWhereRead level appended reply) :=
  inferInstanceAs (Decidable (∀ event ∈ reply.retained, _))

instance (level : Level) (world : WindowWorld) (action : WindowAction) :
    Decidable (CurrentNumber level world action) :=
  match action with
  | .appendLogLines =>
      match pending : world.pending with
      | some (.answered reply) =>
          decidable_of_iff (StartsWhereRead level world.appended reply)
            ⟨fun starts other same => by
                rw [pending] at same
                cases same
                exact starts,
              fun current => current reply pending⟩
      | some (.asked _) => .isTrue fun _ same => by rw [pending] at same; cases same
      | none => .isTrue fun _ same => by rw [pending] at same; cases same
  | .log _ | .restart | .refreshLogs | .answer _ | .fail => .isTrue trivial

instance (left right : Nat × Nat) : Decidable (Precedes left right) :=
  inferInstanceAs (Decidable (_ ∨ _))

def writtenEvents (count : Nat) : List WindowAction :=
  List.replicate count (.log (.write 0
    { level := .normal
      code := text "DNS_RULE"
      message := text "rule=a"
      context := {} }))

def onePoll : List WindowAction :=
  [.refreshLogs, .answer true, .appendLogLines]

def WindowAction.isPlain : WindowAction → Bool
  | .log (.write _ _) => true
  | .log _ => false
  | .restart | .refreshLogs | .answer _ | .appendLogLines | .fail => true

theorem windowSteps_plain {actions : List WindowAction}
    (plain : actions.all WindowAction.isPlain = true) :
    ∀ action ∈ actions, ∀ world, WindowSteps world action := by
  intro action member world
  have own := List.all_eq_true.mp plain action member
  cases action with
  | log logged =>
      cases logged with
      | write _ _ =>
          exact ⟨nofun, trivial⟩
      | _ =>
          cases own
  | restart | refreshLogs | answer _ | appendLogLines | fail =>
      trivial

/-- One event is retained at a time; the second run has passed the old number
before its second poll, and what it numbered up to there is gone. -/
def reattachedRun : List WindowAction :=
  writtenEvents 3 ++ onePoll ++ .restart :: (writtenEvents 1 ++ onePoll ++
    writtenEvents 3 ++ onePoll)

theorem windowLog_survives_restart :
    ∃ world, WindowReached latinQt 1 .normal .normal (CurrentNumber .normal) world ∧
      SurvivesRestarts .normal world ∧ world.appended = [(0, 3), (1, 1), (1, 4)] := by
  let perform := fun (world : WindowWorld) (action : WindowAction) =>
    if CurrentNumber .normal world action then
      performWindow latinQt 1 .normal .normal world action
    else none
  have ran : ((Transition.performAll perform
      { core := { logger := { capacity := 1 } } } reattachedRun).map (·.appended)) =
      some [(0, 3), (1, 1), (1, 4)] := by
    decide +kernel
  obtain ⟨world, done, seen⟩ := Option.map_eq_some_iff.mp ran
  have steps : ∀ action ∈ reattachedRun, ∀ world, WindowSteps world action :=
    windowSteps_plain rfl
  have start : WindowReached latinQt 1 .normal .normal (CurrentNumber .normal)
      { core := { logger := { capacity := 1 } } } := .start rfl
  have reached : WindowReached latinQt 1 .normal .normal (CurrentNumber .normal) world := by
    refine Transition.Reachable.performAll_allowed ?_ steps start done
    intro before action after performed permitted
    simp only [perform] at performed
    split at performed
    · rename_i current
      exact ⟨action, performed, permitted before, current⟩
    · cases performed
  exact ⟨world, reached, (windowLog_survives latinQt_correct reached).1, seen⟩

/-- Three events are read; the next run is polled twice at its first event. -/
def replayedRun : List WindowAction :=
  writtenEvents 3 ++ onePoll ++ .restart :: (writtenEvents 1 ++ onePoll ++ onePoll)

/-- One event is read; the next run has counted as far when it is polled. -/
def skippedRun : List WindowAction :=
  writtenEvents 1 ++ onePoll ++ .restart :: (writtenEvents 1 ++ onePoll)

/-- The event of a run is appended twice, and the event of another one never. -/
theorem windowLog_not_survives :
    (∃ world, WindowReached latinQt 2048 .normal .normal (fun _ _ => True) world ∧
      world.appended = [(0, 1), (0, 2), (0, 3), (1, 1), (1, 1)] ∧
      ¬ SurvivesRestarts .normal world) ∧
    ∃ world, WindowReached latinQt 2048 .normal .normal (fun _ _ => True) world ∧
      world.appended = [(0, 1)] ∧ world.core.logger.events.length = 1 ∧
      ¬ SurvivesRestarts .normal world := by
  let perform := performWindow latinQt 2048 .normal .normal
  have start : WindowReached latinQt 2048 .normal .normal (fun _ _ => True)
      { core := { logger := { capacity := 2048 } } } := .start rfl
  have moves : ∀ before action after, perform before action = some after →
      (∀ world, WindowSteps world action) → ∃ action,
        performWindow latinQt 2048 .normal .normal before action = some after ∧
          WindowSteps before action ∧ True :=
    fun before action _ performed permitted =>
      ⟨action, performed, permitted before, trivial⟩
  constructor
  · have ran : ((Transition.performAll perform
        { core := { logger := { capacity := 2048 } } } replayedRun).map (·.appended)) =
        some [(0, 1), (0, 2), (0, 3), (1, 1), (1, 1)] := by
      decide +kernel
    obtain ⟨world, done, seen⟩ := Option.map_eq_some_iff.mp ran
    refine ⟨world, start.performAll_allowed moves (windowSteps_plain rfl) done, seen, ?_⟩
    intro survives
    have ordered := survives.ordered
    rw [seen] at ordered
    revert ordered
    decide
  · have ran : ((Transition.performAll perform
        { core := { logger := { capacity := 2048 } } } skippedRun).map fun world =>
          (world.appended, world.core.logger.events.length,
            world.polls.map fun poll => (poll.numbers,
              (fittingEvents poll.reply.structured 0 (poll.unread .normal)).map
                (·.sequence)))) =
        some ([(0, 1)], 1, [([1], [1]), ([], [1])]) := by
      decide +kernel
    obtain ⟨world, done, seen⟩ := Option.map_eq_some_iff.mp ran
    obtain ⟨appended, rest⟩ := Prod.mk.inj seen
    obtain ⟨retained, polls⟩ := Prod.mk.inj rest
    refine ⟨world, start.performAll_allowed moves (windowSteps_plain rfl) done,
      appended, retained, ?_⟩
    intro survives
    have skipped : (([] : List Nat), [1]) ∈ world.polls.map fun poll => (poll.numbers,
        (fittingEvents poll.reply.structured 0 (poll.unread .normal)).map
          (·.sequence)) := by
      rw [polls]
      decide
    obtain ⟨poll, member, same⟩ := List.mem_map.mp skipped
    have complete := survives.complete poll member
    obtain ⟨numbers, expected⟩ := Prod.mk.inj same
    rw [numbers, expected] at complete
    cases complete

end NativeDNS
