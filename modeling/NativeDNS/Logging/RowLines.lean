/-
One line and a fixed number of fields for every row of the log.

`write` cleans what it stores.  A failure of the file sink is stored with the
text of its exception as it is, so that the rows are unambiguous in the runs in
which these texts are clean themselves.
-/
import NativeDNS.Logging.Sink

namespace NativeDNS

open ByteText (text pieces)

def fieldCount (structured : Bool) : Nat :=
  if structured then 9 else 5

/-- Every stored event is clean, and every reply, also that of a poll that has
waited, is cut into one line a row and the fields of its kind. -/
structure UnambiguousRows (logger : Logger) : Prop where
  clean : ∀ event ∈ logger.events, CleanEvent event
  lines : ∀ structured level after,
    ∃ answered, answered <+: logger.collect level after ∧
      pieces newline (logsReply structured (logger.collect level after)) =
        answered.map (rowBody structured) ++ [[]] ∧
      ∀ event ∈ answered,
        (pieces tab (rowBody structured event)).length = fieldCount structured

theorem rowFields_length (structured : Bool) (event : LogEvent) :
    (rowFields structured event).length = fieldCount structured := by
  cases structured with
  | true =>
      rfl
  | false =>
      rfl

theorem unambiguousRows_of_clean {logger : Logger}
    (clean : ∀ event ∈ logger.events, CleanEvent event) : UnambiguousRows logger where
  clean := clean
  lines := by
    intro structured level after
    have initial := fittingEvents_initial structured 0 (logger.collect level after)
    have answeredClean : ∀ event ∈
        fittingEvents structured 0 (logger.collect level after), CleanEvent event :=
      fun event member => clean event (List.mem_of_mem_filter (initial.subset member))
    refine ⟨_, initial, ?_, ?_⟩
    · rw [logsReply_eq, pieces_rows structured answeredClean]
    · intro event member
      rw [pieces_rowBody structured (answeredClean event member), rowFields_length]

/-- The file sink fails with clean texts only. -/
def CleanFailures (_system : LogSystem) : LogAction → Prop
  | .runTask _ (.failed what) => CleanText maxMessage what
  | _ => True

theorem failureEvent_clean_iff (logger : Logger) (time : Int64) (what : Bytes) :
    CleanEvent (logger.failureEvent time what) ↔ CleanText maxMessage what := by
  constructor
  · intro clean
    exact clean.message
  · intro clean
    exact
      { code := failureCode_clean
        message := clean
        address := emptyText_clean maxMessage
        dnsType := emptyText_clean maxMessage
        rule := emptyText_clean maxMessage
        action := emptyText_clean maxMessage }

theorem stored_clean {system : LogSystem} {action : LogAction} {event : LogEvent}
    (stored : system.stored action = some event) :
    CleanEvent event ↔ CleanFailures system action := by
  have written : ∀ {time : Int64} {call : WriteCall},
      system.writtenBy time call = some event → CleanEvent event := by
    intro time call made
    unfold LogSystem.writtenBy at made
    split at made
    · cases made
      exact writtenEvent_clean _ _ _ _ _ _
    · cases made
  cases action with
  | write time call =>
      exact iff_of_true (written stored) trivial
  | makeCall position time =>
      obtain ⟨call, _, made⟩ := Option.bind_eq_some_iff.mp stored
      exact iff_of_true (written made) trivial
  | report position time =>
      obtain ⟨dropped, _, same⟩ := Option.map_eq_some_iff.mp stored
      rw [← same]
      exact iff_of_true (failureEvent_clean _ _ _) trivial
  | runTask time outcome =>
      cases outcome with
      | failed what =>
          cases stored
          exact failureEvent_clean_iff _ _ _
      | done =>
          cases stored
  | writeLimited _ _ _ _ | offer _ | setDisplayLevel _ | configureFile _ | clearFile
  | flushFile | stop | clearDisplay =>
      cases stored

theorem cleanFailures_of_none {system : LogSystem} {action : LogAction}
    (stored : system.stored action = none) : CleanFailures system action := by
  cases action with
  | runTask time outcome =>
      cases outcome with
      | done =>
          trivial
      | failed what =>
          cases stored
  | write _ _ | writeLimited _ _ _ _ | makeCall _ _ | offer _ | report _ _
  | setDisplayLevel _ | configureFile _ | clearFile | flushFile | stop | clearDisplay =>
      trivial

theorem cleanLog_reached {capacity : Nat} {system : LogSystem}
    (reached : LogReached CleanFailures capacity system) :
    ∀ event ∈ system.logger.events, CleanEvent event := by
  apply logEvents_invariant CleanEvent reached
  intro before after action _ _ permitted event stored
  exact (stored_clean stored).mpr permitted

/-- In every run whose file-sink failures have clean texts the rows are
unambiguous in every state, and the first failure with another text ends that. -/
theorem logRows_unambiguous {capacity : Nat} (room : 0 < capacity) {system : LogSystem}
    (reached : LogReached CleanFailures capacity system) :
    UnambiguousRows system.logger ∧
      ∀ action after, performLogging system action = some after →
        (UnambiguousRows after.logger ↔ CleanFailures system action) := by
  have clean := cleanLog_reached reached
  refine ⟨unambiguousRows_of_clean clean, ?_⟩
  intro action after performed
  constructor
  · intro unambiguous
    cases stored : system.stored action with
    | none =>
        exact cleanFailures_of_none stored
    | some event =>
        have change := performLogging_change performed
        obtain ⟨sameCapacity, within⟩ := logEvents_bounded room reached
        rw [← sameCapacity] at room within
        have retained := (store_retains room event within).1
        rw [← (change.appended event stored).2.2] at retained
        exact (stored_clean stored).mp (unambiguous.clean event retained)
  · intro permitted
    exact unambiguousRows_of_clean
      (cleanLog_reached (.next reached ⟨action, performed, permitted⟩))

/-- A file log that cannot be opened, then a message with a tab. -/
def cleanFailureRun : List LogAction :=
  [.configureFile
    { enabled := true
      level := .normal
      path := text "/opt/nativedns/logs/a.log"
      maximumBytes := 4194304
      retainedFiles := 3 },
   .runTask 0 (.failed (text "cannot open log file")),
   .write 1
    { level := .normal
      code := text "A\nB"
      message := text "one\ttwo"
      context := {} }]

theorem logRows_unambiguous_cleanFailure :
    ∃ system, LogReached CleanFailures 2 system ∧ UnambiguousRows system.logger ∧
      system.logger.events.map (·.message) =
        [text "cannot open log file", text "one two"] := by
  have start : LogReached CleanFailures 2 { logger := { capacity := 2 } } :=
    .start rfl
  have short : CleanText maxMessage (text "cannot open log file") :=
    { printable := by
        decide +kernel
      short := by
        decide }
  have ran : ((Transition.performAll performLogging
      { logger := { capacity := 2 } } cleanFailureRun).map fun system =>
        system.logger.events.map (·.message)) =
      some [text "cannot open log file", text "one two"] := by
    decide +kernel
  obtain ⟨system, done, seen⟩ := Option.map_eq_some_iff.mp ran
  have permitted : ∀ action ∈ cleanFailureRun, CleanFailures {} action := by
    intro action member
    simp only [cleanFailureRun, List.mem_cons, List.not_mem_nil, or_false] at member
    rcases member with rfl | rfl | rfl
    · trivial
    · exact short
    · trivial
  have reached : LogReached CleanFailures 2 system :=
    start.performAll_allowed
      (fun _ action _ performed allowed => ⟨action, performed, allowed⟩) permitted done
  exact ⟨system, reached, (logRows_unambiguous (by decide) reached).1, seen⟩

/-- The log directory lies under a directory whose name has a tab and cannot be
created. -/
def tabbedFailureRun : List LogAction :=
  [.configureFile
    { enabled := true
      level := .normal
      path := text "/srv/a\tb/logs/a.log"
      maximumBytes := 4194304
      retainedFiles := 3 },
   .runTask 0 (.failed
    (text "filesystem error: cannot create directories: Not a directory [/srv/a\tb/logs]"))]

theorem logRows_ambiguous :
    ∃ system, LogReached (fun _ _ => True) 2048 system ∧
      ∃ event ∈ system.logger.events, ¬ CleanEvent event ∧
        (pieces tab (rowBody false event)).length = 6 := by
  have start : LogReached (fun _ _ => True) 2048 { logger := { capacity := 2048 } } :=
    .start rfl
  have ran : ((Transition.performAll performLogging
      { logger := { capacity := 2048 } } tabbedFailureRun).bind fun system =>
        system.logger.events.head?.map fun event =>
          (decide ((9 : UInt8) ∈ event.message),
            (pieces tab (rowBody false event)).length)) = some (true, 6) := by
    decide +kernel
  obtain ⟨system, done, seen⟩ := Option.bind_eq_some_iff.mp ran
  obtain ⟨event, first, found⟩ := Option.map_eq_some_iff.mp seen
  obtain ⟨tabbed, six⟩ := Prod.mk.inj found
  have reached : LogReached (fun _ _ => True) 2048 system :=
    start.performAll (fun _ action _ performed => ⟨action, performed, trivial⟩) done
  refine ⟨system, reached, event, List.mem_of_head? first, ?_, six⟩
  intro clean
  exact clean.message.free (by decide) (of_decide_eq_true tabbed)

end NativeDNS
