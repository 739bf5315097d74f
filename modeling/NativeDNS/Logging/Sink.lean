/-
The whole logger: its calls, the limited writes and the thread of the file sink.

A call is cut at its locked sections, so that the steps of several threads come
in any order: a limited write first looks at its key and then writes, and a
writer first stores its event and then offers it to the file queue.  What the
file system does is the outcome a step of the file thread is given; a failed
outcome carries the text of the exception.
-/
import NativeDNS.Logging.Rows
import NativeDNS.Library.Transition

namespace NativeDNS

open ByteText (text pieces)

/-- When a key may be written again, and how often it was held back. -/
structure RepeatedEvent where
  next : Int
  suppressed : UInt64
  deriving DecidableEq

/-- A `write` that is still to be made. -/
structure WriteCall where
  level : Level
  code : Bytes
  message : Bytes
  context : LogContext

structure FileSettings where
  enabled : Bool
  level : Level
  path : Bytes
  maximumBytes : UInt64
  retainedFiles : UInt32

inductive FileTask where
  | event (event : LogEvent)
  | configure (settings : FileSettings)
  | clear
  | flush
  | stop

structure LogSystem where
  logger : Logger := {}
  repeated : OrderedMap Bytes RepeatedEvent := OrderedMap.empty
  /-- The limited writes that have passed their key. -/
  calls : List WriteCall := []
  /-- The stored events whose writers have not looked at the file queue. -/
  unqueued : List LogEvent := []
  /-- The drop counts whose writers have not recorded them. -/
  reports : List UInt64 := []
  tasks : List FileTask := []
  dropped : UInt64 := 0
  filePath : Bytes := []
  sinkEnabled : Bool := false
  ended : Bool := false

inductive FileOutcome where
  | done
  | failed (what : Bytes)

inductive LogAction where
  | write (time : Int64) (call : WriteCall)
  | writeLimited (now : Int) (key : Bytes) (interval : Int) (call : WriteCall)
  | makeCall (position : Nat) (time : Int64)
  | offer (position : Nat)
  | report (position : Nat) (time : Int64)
  | setDisplayLevel (level : Level)
  | configureFile (settings : FileSettings)
  | clearFile
  | flushFile
  | stop
  | clearDisplay
  | runTask (time : Int64) (outcome : FileOutcome)

/-! ### The limited writes -/

def maxKey : Nat := 1024

def maxRepeated : Nat := 256

/-- The first key of those that may be written again soonest. -/
def oldestRepeated : List (Bytes × RepeatedEvent) → Option (Bytes × RepeatedEvent)
  | [] => none
  | entry :: rest =>
      match oldestRepeated rest with
      | none => some entry
      | some later => if later.2.next < entry.2.next then some later else some entry

def trimRepeated (repeated : OrderedMap Bytes RepeatedEvent) :
    OrderedMap Bytes RepeatedEvent :=
  if maxRepeated ≤ repeated.size then
    match oldestRepeated repeated.entries with
    | some (key, _) => repeated.erase key
    | none => repeated
  else repeated

/-- The locked section of `write_limited`: the new map and, when the call goes
on to write, how many calls were held back before it. -/
def admitRepeated (repeated : OrderedMap Bytes RepeatedEvent) (now : Int)
    (key : Bytes) (interval : Int) :
    OrderedMap Bytes RepeatedEvent × Option UInt64 :=
  match repeated.find? key with
  | some found =>
      if now < found.next then
        (repeated.insert key { found with suppressed := found.suppressed + 1 }, none)
      else
        (repeated.insert key { next := now + interval, suppressed := 0 },
          some found.suppressed)
  | none =>
      ((trimRepeated repeated).insert key { next := now + interval, suppressed := 0 },
        some 0)

/-- The message of a call that others were held back for. -/
def limitedMessage (suppressed : UInt64) (message : Bytes) : Bytes :=
  if suppressed = 0 then message
  else
    text "suppressed=" ++ ByteText.decimal suppressed.toNat ++ text " " ++ message

/-! ### The file queue -/

def maxFileTasks : Nat := 8192

def maxFileBatch : Nat := 256

def isReported (dropped : UInt64) : Bool :=
  dropped == 1 || dropped &&& (dropped - 1) == 0

/-- What `configure_file` accepts. -/
def FileSettings.accepted (settings : FileSettings) : Bool :=
  !settings.level.exceeds .debug && decide (1024 ≤ settings.maximumBytes) &&
    decide (settings.maximumBytes ≤ 1024 * 1024 * 1024) &&
    decide (settings.retainedFiles ≤ 100) &&
    (!settings.enabled || settings.path != [])

def FileTask.isEvent : FileTask → Bool
  | .event _ => true
  | .configure _ | .clear | .flush | .stop => false

namespace LogSystem

/-- Store the event of a `write`. -/
def storeWritten (system : LogSystem) (time : Int64) (call : WriteCall) : LogSystem :=
  if system.logger.enabled call.level = true then
    let event :=
      system.logger.writtenEvent time call.level call.code call.message call.context
    { system with
      logger := system.logger.store event
      unqueued := system.unqueued ++ [event] }
  else system

/-- The file part of `write`. -/
def offerEvent (system : LogSystem) (event : LogEvent) : LogSystem :=
  if system.logger.fileEnabled = true ∧
      event.level.exceeds system.logger.fileLevel = false then
    if system.tasks.length < maxFileTasks then
      { system with tasks := system.tasks ++ [.event event] }
    else
      let dropped := system.dropped + 1
      { system with
        dropped := dropped
        reports :=
          if isReported dropped = true then system.reports ++ [dropped]
          else system.reports }
  else system

/-- What the file thread does after an exception. -/
def failTask (system : LogSystem) (time : Int64) (what : Bytes) : LogSystem :=
  { system with
    sinkEnabled := false
    logger := { system.logger with fileEnabled := false }.recordFileFailure time what }

/-- The file thread has taken `task`; `rest` is what is left in the queue. -/
def finishTask (system : LogSystem) (time : Int64) (rest : List FileTask) :
    FileTask → FileOutcome → Option LogSystem
  | .event _, outcome =>
      -- A batch takes the events behind the first one too.
      let batch := (rest.takeWhile FileTask.isEvent).take (maxFileBatch - 1)
      let system := { system with tasks := rest.drop batch.length }
      match outcome with
      | .done => some system
      | .failed what =>
          if system.sinkEnabled = true then some (system.failTask time what) else none
  | .configure settings, .done =>
      some { system with
        tasks := rest
        filePath := settings.path
        sinkEnabled := settings.enabled
        dropped := 0
        logger := { system.logger with
          fileLevel := settings.level
          fileEnabled := settings.enabled } }
  | .configure settings, .failed what =>
      if settings.enabled = true then
        some ({ system with tasks := rest }.failTask time what)
      else none
  | .clear, .done => some { system with tasks := rest }
  | .clear, .failed what =>
      if system.filePath ≠ [] then
        some ({ system with tasks := rest }.failTask time what)
      else none
  | .flush, .done => some { system with tasks := rest }
  | .stop, .done =>
      some { system with
        tasks := rest
        ended := true }
  | .flush, .failed _ => none
  | .stop, .failed _ => none

end LogSystem

/-- One step of a call or of the file thread.  The counter does not reach
2^64. -/
def performLogging (system : LogSystem) (action : LogAction) : Option LogSystem :=
  if system.logger.sequence < maxUint64 then
    match action with
    | .write time call => some (system.storeWritten time call)
    | .writeLimited now key interval call =>
        if system.logger.enabled call.level = true ∧ 0 ≤ interval then
          let (repeated, admitted) :=
            admitRepeated system.repeated now (key.take maxKey) interval
          some { system with
            repeated := repeated
            calls :=
              match admitted with
              | some suppressed => system.calls ++
                  [{ call with message := limitedMessage suppressed call.message }]
              | none => system.calls }
        else some system
    | .makeCall position time =>
        (system.calls[position]?).map fun call =>
          { system with calls := system.calls.eraseIdx position }.storeWritten time call
    | .offer position =>
        (system.unqueued[position]?).map fun event =>
          { system with unqueued := system.unqueued.eraseIdx position }.offerEvent event
    | .report position time =>
        (system.reports[position]?).map fun dropped =>
          { system with
            reports := system.reports.eraseIdx position
            logger := system.logger.recordFileFailure time
              (Logger.droppedMessage dropped) }
    | .setDisplayLevel level =>
        if level.exceeds .debug = true then some system
        else some { system with logger := { system.logger with displayLevel := level } }
    | .configureFile settings =>
        if settings.accepted = true then
          some { system with
            logger := { system.logger with
              fileEnabled := system.logger.fileEnabled && settings.enabled }
            tasks := system.tasks ++ [.configure settings] }
        else some system
    | .clearFile => some { system with tasks := system.tasks ++ [.clear] }
    | .flushFile => some { system with tasks := system.tasks ++ [.flush] }
    | .stop =>
        some { system with
          logger := { system.logger with fileEnabled := false }
          tasks := system.tasks ++ [.stop] }
    | .clearDisplay =>
        some { system with
          logger := system.logger.clearDisplay
          repeated := OrderedMap.empty }
    | .runTask time outcome =>
        match system.tasks with
        | task :: rest =>
            if system.ended = true then none
            else system.finishTask time rest task outcome
        | [] => none
  else none

/-- The states of a logger in which only some steps are made. -/
abbrev LogReached (allowed : LogSystem → LogAction → Prop) (capacity : Nat) :
    LogSystem → Prop :=
  Transition.Reachable
    (fun system => system = { logger := { capacity := capacity } })
    fun before after => ∃ action, performLogging before action = some after ∧
      allowed before action

/-! ### The event a step stores -/

def LogSystem.writtenBy (system : LogSystem) (time : Int64) (call : WriteCall) :
    Option LogEvent :=
  if system.logger.enabled call.level = true then
    some (system.logger.writtenEvent time call.level call.code call.message call.context)
  else none

def LogSystem.stored (system : LogSystem) : LogAction → Option LogEvent
  | .write time call => system.writtenBy time call
  | .makeCall position time => (system.calls[position]?).bind (system.writtenBy time)
  | .report position time =>
      (system.reports[position]?).map fun dropped =>
        system.logger.failureEvent time (Logger.droppedMessage dropped)
  | .runTask time (.failed what) => some (system.logger.failureEvent time what)
  | .runTask _ .done | .writeLimited _ _ _ _ | .offer _ | .setDisplayLevel _
  | .configureFile _ | .clearFile | .flushFile | .stop | .clearDisplay => none

/-- How a step changes the log: it stores its event, drops all events, or keeps
them. -/
structure LogChange (before after : Logger) (stored : Option LogEvent) : Prop where
  capacity : after.capacity = before.capacity
  kept : stored = none → after.sequence = before.sequence ∧
    (after.events = before.events ∨ after.events = [])
  appended : ∀ event, stored = some event →
    event.sequence = before.sequence + 1 ∧ after.sequence = event.sequence ∧
      after.events = (before.store event).events

theorem store_events (logger : Logger) (event : LogEvent) :
    ∀ other ∈ (logger.store event).events, other ∈ logger.events ∨ other = event := by
  intro other member
  have inAll : other ∈ logger.events ++ [event] := by
    simp only [Logger.store] at member
    split at member
    · exact List.mem_of_mem_drop member
    · exact member
  rcases List.mem_append.mp inAll with old | new
  · exact Or.inl old
  · exact Or.inr (List.mem_singleton.mp new)

theorem store_retains {logger : Logger} (room : 0 < logger.capacity) (event : LogEvent)
    (within : logger.events.length ≤ logger.capacity) :
    event ∈ (logger.store event).events ∧
      (logger.store event).events.length ≤ logger.capacity := by
  simp only [Logger.store]
  split
  · rename_i full
    rw [List.length_append, List.length_singleton] at full
    constructor
    · rw [List.drop_append_of_le_length (by omega)]
      exact List.mem_append_right _ List.mem_cons_self
    · rw [List.length_drop, List.length_append, List.length_singleton]
      omega
  · rename_i fits
    exact ⟨List.mem_append_right _ List.mem_cons_self, Nat.le_of_not_lt fits⟩

theorem storeWritten_change (system : LogSystem) (time : Int64) (call : WriteCall) :
    LogChange system.logger (system.storeWritten time call).logger
      (system.writtenBy time call) := by
  unfold LogSystem.storeWritten LogSystem.writtenBy
  split
  · refine ⟨rfl, nofun, ?_⟩
    intro event same
    cases same
    exact ⟨rfl, rfl, rfl⟩
  · exact ⟨rfl, fun _ => ⟨rfl, Or.inl rfl⟩, nofun⟩

theorem logChange_of_same {before after : Logger}
    (capacity : after.capacity = before.capacity)
    (sequence : after.sequence = before.sequence)
    (same : after.events = before.events) :
    LogChange before after none :=
  ⟨capacity, fun _ => ⟨sequence, Or.inl same⟩, nofun⟩

theorem finishTask_change {system after : LogSystem} {time : Int64}
    {rest : List FileTask} {task : FileTask} {outcome : FileOutcome}
    (finished : system.finishTask time rest task outcome = some after) :
    LogChange system.logger after.logger
      (system.stored (.runTask time outcome)) := by
  have failed : ∀ (left : List FileTask) (what : Bytes),
      LogChange system.logger
        ({ system with tasks := left }.failTask time what).logger
        (some (system.logger.failureEvent time what)) := by
    intro left what
    refine ⟨rfl, nofun, ?_⟩
    intro event same
    cases same
    exact ⟨rfl, rfl, rfl⟩
  cases outcome with
  | done =>
      cases task with
      | event _ | configure _ | clear | flush | stop =>
          cases finished
          exact logChange_of_same rfl rfl rfl
  | failed what =>
      cases task with
      | event _ =>
          simp only [LogSystem.finishTask] at finished
          split at finished
          · cases finished
            exact failed _ what
          · cases finished
      | configure settings =>
          simp only [LogSystem.finishTask] at finished
          split at finished
          · cases finished
            exact failed _ what
          · cases finished
      | clear =>
          simp only [LogSystem.finishTask] at finished
          split at finished
          · cases finished
            exact failed _ what
          · cases finished
      | flush | stop =>
          cases finished

theorem performLogging_change {system after : LogSystem} {action : LogAction}
    (performed : performLogging system action = some after) :
    LogChange system.logger after.logger (system.stored action) := by
  unfold performLogging at performed
  split at performed
  case isFalse =>
    cases performed
  case isTrue =>
    cases action with
    | write time call =>
        cases performed
        exact storeWritten_change system time call
    | writeLimited now key interval call =>
        simp only at performed
        split at performed
        · cases performed
          exact logChange_of_same rfl rfl rfl
        · cases performed
          exact logChange_of_same rfl rfl rfl
    | makeCall position time =>
        obtain ⟨call, found, same⟩ := Option.map_eq_some_iff.mp performed
        rw [← same]
        simp only [LogSystem.stored, found, Option.bind_some]
        exact storeWritten_change
          { system with calls := system.calls.eraseIdx position } time call
    | offer position =>
        obtain ⟨event, _, same⟩ := Option.map_eq_some_iff.mp performed
        rw [← same]
        unfold LogSystem.offerEvent
        split
        · split
          · exact logChange_of_same rfl rfl rfl
          · exact logChange_of_same rfl rfl rfl
        · exact logChange_of_same rfl rfl rfl
    | report position time =>
        obtain ⟨dropped, found, same⟩ := Option.map_eq_some_iff.mp performed
        rw [← same]
        simp only [LogSystem.stored, found, Option.map_some]
        refine ⟨rfl, nofun, ?_⟩
        intro event same
        cases same
        exact ⟨rfl, rfl, rfl⟩
    | setDisplayLevel level =>
        simp only at performed
        split at performed
        · cases performed
          exact logChange_of_same rfl rfl rfl
        · cases performed
          exact logChange_of_same rfl rfl rfl
    | configureFile settings =>
        simp only at performed
        split at performed
        · cases performed
          exact logChange_of_same rfl rfl rfl
        · cases performed
          exact logChange_of_same rfl rfl rfl
    | clearFile | flushFile | stop =>
        cases performed
        exact logChange_of_same rfl rfl rfl
    | clearDisplay =>
        cases performed
        exact ⟨rfl, fun _ => ⟨rfl, Or.inr rfl⟩, nofun⟩
    | runTask time outcome =>
        simp only at performed
        split at performed
        · split at performed
          · cases performed
          · exact finishTask_change performed
        · cases performed

theorem performLogging_counted {system after : LogSystem} {action : LogAction}
    (performed : performLogging system action = some after) :
    system.logger.sequence < maxUint64 := by
  unfold performLogging at performed
  split at performed
  · assumption
  · cases performed

theorem logEvents_invariant (holds : LogEvent → Prop)
    {allowed : LogSystem → LogAction → Prop} {capacity : Nat} {system : LogSystem}
    (reached : LogReached allowed capacity system)
    (storedHolds : ∀ before after action,
      LogReached allowed capacity before →
      performLogging before action = some after →
      allowed before action → ∀ event, before.stored action = some event →
        holds event) :
    ∀ event ∈ system.logger.events, holds event := by
  refine @Transition.Reachable.invariant LogSystem _ _
    (fun system => ∀ event ∈ system.logger.events, holds event) ?_ ?_ _ reached
  · rintro _ rfl event member
    cases member
  · intro before after reachedBefore old moved
    obtain ⟨action, performed, permitted⟩ := moved
    have change := performLogging_change performed
    intro event member
    cases stored : before.stored action with
    | none =>
        rcases (change.kept stored).2 with same | none
        · exact old event (same ▸ member)
        · rw [none] at member
          cases member
    | some new =>
        rw [(change.appended new stored).2.2] at member
        rcases store_events _ _ event member with earlier | own
        · exact old event earlier
        · rw [own]
          exact storedHolds before after action reachedBefore performed permitted new
            stored

theorem logEvents_bounded {allowed : LogSystem → LogAction → Prop} {capacity : Nat}
    (room : 0 < capacity) {system : LogSystem}
    (reached : LogReached allowed capacity system) :
    system.logger.capacity = capacity ∧ system.logger.events.length ≤ capacity := by
  refine @Transition.Reachable.invariant LogSystem _ _
    (fun system => system.logger.capacity = capacity ∧
      system.logger.events.length ≤ capacity) ?_ ?_ _ reached
  · rintro _ rfl
    exact ⟨rfl, Nat.zero_le _⟩
  · rintro before after _ ⟨sameCapacity, within⟩ ⟨action, performed, _⟩
    have change := performLogging_change performed
    refine ⟨change.capacity.trans sameCapacity, ?_⟩
    cases stored : before.stored action with
    | none =>
        rcases (change.kept stored).2 with same | none
        · rw [same]
          exact within
        · rw [none]
          exact Nat.zero_le _
    | some event =>
        rw [(change.appended event stored).2.2]
        rw [← sameCapacity] at within room ⊢
        exact (store_retains room event within).2

theorem logEvents_counted {allowed : LogSystem → LogAction → Prop} {capacity : Nat}
    {system : LogSystem} (reached : LogReached allowed capacity system) :
    ∀ event ∈ system.logger.events, event.sequence ≤ system.logger.sequence := by
  refine @Transition.Reachable.invariant LogSystem _ _
    (fun system => ∀ event ∈ system.logger.events,
      event.sequence ≤ system.logger.sequence) ?_ ?_ _ reached
  · rintro _ rfl event member
    cases member
  · rintro before after _ counted ⟨action, performed, _⟩
    have change := performLogging_change performed
    intro event member
    cases stored : before.stored action with
    | none =>
        obtain ⟨same, events | none⟩ := change.kept stored
        · rw [same]
          exact counted event (events ▸ member)
        · rw [none] at member
          cases member
    | some new =>
        obtain ⟨next, counter, events⟩ := change.appended new stored
        rw [events] at member
        rw [counter]
        rcases store_events _ _ event member with earlier | own
        · have bound := counted event earlier
          omega
        · exact Nat.le_of_eq (congrArg LogEvent.sequence own)

end NativeDNS
