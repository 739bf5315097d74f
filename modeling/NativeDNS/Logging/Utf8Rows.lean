/-
Where the payloads of the logs operation are valid UTF-8.

The limits of `write` count bytes.  A text that is cut between two characters
stays well formed, one that is cut inside a character does not, and a row is
well formed exactly when all its fields are, since its separators are ASCII.
-/
import NativeDNS.Logging.Sink
import NativeDNS.Utf8

namespace NativeDNS

open ByteText (text decimal)

/-! ### Cleaning and cutting -/

theorem wellFormedUtf8_map_blank (value : Bytes) :
    WellFormedUtf8 (value.map fun c => if c < 32 then 32 else c) ↔
      WellFormedUtf8 value := by
  induction size : value.length using Nat.strongRecOn generalizing value with
  | _ count ih =>
      by_cases control : ∃ c ∈ value, c < 32
      · obtain ⟨c, member, low⟩ := control
        obtain ⟨front, back, whole, _⟩ := List.eq_append_cons_of_mem member
        subst whole
        rw [List.length_append, List.length_cons] at size
        have ascii : c < 0x80 := UInt8.lt_trans low (by decide)
        rw [List.map_append, List.map_cons, if_pos low,
          wellFormedUtf8_append_ascii (by decide), wellFormedUtf8_append_ascii ascii,
          ih front.length (by omega) front rfl, ih back.length (by omega) back rfl]
      · have same : (value.map fun c => if c < 32 then 32 else c) = value.map id := by
          apply List.map_congr_left
          intro c member
          exact if_neg fun low => control ⟨c, member, low⟩
        rw [same, List.map_id]

theorem sanitized_wellFormed (limit : Nat) (value : Bytes) :
    WellFormedUtf8 (sanitized limit value) ↔ WellFormedUtf8 (value.take limit) := by
  unfold sanitized
  rw [← List.map_take]
  exact wellFormedUtf8_map_blank _

structure Utf8Call (call : WriteCall) : Prop where
  code : WellFormedUtf8 call.code
  message : WellFormedUtf8 call.message
  address : WellFormedUtf8 call.context.address
  dnsType : WellFormedUtf8 call.context.dnsType
  rule : WellFormedUtf8 call.context.rule
  action : WellFormedUtf8 call.context.action

structure CutBetweenCharacters (call : WriteCall) : Prop where
  code : WellFormedUtf8 (call.code.take maxCode)
  message : WellFormedUtf8 (call.message.take maxMessage)
  address : WellFormedUtf8 (call.context.address.take maxMessage)
  dnsType : WellFormedUtf8 (call.context.dnsType.take maxMessage)
  rule : WellFormedUtf8 (call.context.rule.take maxMessage)
  action : WellFormedUtf8 (call.context.action.take maxMessage)

structure Utf8Event (event : LogEvent) : Prop where
  code : WellFormedUtf8 event.code
  message : WellFormedUtf8 event.message
  address : WellFormedUtf8 event.context.address
  dnsType : WellFormedUtf8 event.context.dnsType
  rule : WellFormedUtf8 event.context.rule
  action : WellFormedUtf8 event.context.action

theorem writtenEvent_utf8 (logger : Logger) (time : Int64) (call : WriteCall) :
    Utf8Event (logger.writtenEvent time call.level call.code call.message
      call.context) ↔ CutBetweenCharacters call := by
  constructor
  · intro valid
    exact
      { code := (sanitized_wellFormed _ _).mp valid.code
        message := (sanitized_wellFormed _ _).mp valid.message
        address := (sanitized_wellFormed _ _).mp valid.address
        dnsType := (sanitized_wellFormed _ _).mp valid.dnsType
        rule := (sanitized_wellFormed _ _).mp valid.rule
        action := (sanitized_wellFormed _ _).mp valid.action }
  · intro cut
    exact
      { code := (sanitized_wellFormed _ _).mpr cut.code
        message := (sanitized_wellFormed _ _).mpr cut.message
        address := (sanitized_wellFormed _ _).mpr cut.address
        dnsType := (sanitized_wellFormed _ _).mpr cut.dnsType
        rule := (sanitized_wellFormed _ _).mpr cut.rule
        action := (sanitized_wellFormed _ _).mpr cut.action }

/-! ### Rows and replies -/

theorem decimal_wellFormed (value : Nat) : WellFormedUtf8 (decimal value) :=
  wellFormedUtf8_of_ascii (ByteText.decimal_ascii value)

theorem decimalInt_wellFormed (value : Int) : WellFormedUtf8 (decimalInt value) := by
  unfold decimalInt
  split
  · exact (wellFormedUtf8_ascii (by decide)).append (decimal_wellFormed _)
  · exact decimal_wellFormed _

theorem logRow_wellFormed (structured : Bool) {event : LogEvent}
    (valid : Utf8Event event) : WellFormedUtf8 (logRow structured event) := by
  have bar := @wellFormedUtf8_append_ascii
  have code := valid.code
  have message := valid.message
  have address := valid.address
  have dnsType := valid.dnsType
  have rule := valid.rule
  have action := valid.action
  cases structured with
  | true =>
      simp only [logRow, if_true, List.cons_append, List.append_assoc,
        bar (by decide : tab < 0x80), bar (by decide : newline < 0x80),
        decimal_wellFormed, decimalInt_wellFormed, code, message, address, dnsType,
        rule, action, wellFormedUtf8_nil, and_self]
  | false =>
      simp only [logRow, Bool.false_eq_true, if_false, List.nil_append,
        bar (by decide : tab < 0x80), bar (by decide : newline < 0x80),
        decimal_wellFormed, decimalInt_wellFormed, code, message, wellFormedUtf8_nil,
        and_self]

theorem logRow_utf8 {event : LogEvent} (valid : WellFormedUtf8 (logRow true event)) :
    Utf8Event event := by
  have bar := @wellFormedUtf8_append_ascii
  simp only [logRow, if_true, List.cons_append, List.append_assoc,
    bar (by decide : tab < 0x80), bar (by decide : newline < 0x80)] at valid
  obtain ⟨_, _, _, code, message, address, dnsType, rule, action, _⟩ := valid
  exact
    { code := code
      message := message
      address := address
      dnsType := dnsType
      rule := rule
      action := action }

theorem rows_wellFormed (structured : Bool) {events : List LogEvent}
    (valid : ∀ event ∈ events, Utf8Event event) :
    WellFormedUtf8 (events.flatMap (logRow structured)) := by
  induction events with
  | nil =>
      exact wellFormedUtf8_nil
  | cons event rest ih =>
      rw [List.flatMap_cons]
      exact (logRow_wellFormed structured (valid event List.mem_cons_self)).append
        (ih fun other member => valid other (List.mem_cons_of_mem event member))

/-- Every reply of the logs operation, also that of a poll that has waited, is
valid UTF-8. -/
def Utf8Payloads (logger : Logger) : Prop :=
  ∀ structured level after,
    WellFormedUtf8 (logsReply structured (logger.collect level after))

theorem utf8Payloads_of_events {logger : Logger}
    (valid : ∀ event ∈ logger.events, Utf8Event event) : Utf8Payloads logger := by
  intro structured level after
  rw [logsReply_eq]
  apply rows_wellFormed
  intro event member
  have collected := (fittingEvents_initial structured 0 _).subset member
  exact valid event (List.mem_of_mem_filter collected)

/-! ### Runs -/

/-- The texts given to the logger are UTF-8. -/
def Utf8Texts : LogAction → Prop
  | .write _ call => Utf8Call call
  | .writeLimited _ _ _ call => Utf8Call call
  | .runTask _ (.failed what) => WellFormedUtf8 what
  | _ => True

/-- What is written is cut between characters. -/
def CharacterCuts (system : LogSystem) : LogAction → Prop
  | .write _ call =>
      system.logger.enabled call.level = true → CutBetweenCharacters call
  | .makeCall position _ =>
      ∀ call, system.calls[position]? = some call →
        system.logger.enabled call.level = true → CutBetweenCharacters call
  | _ => True

theorem writtenBy_utf8 {system : LogSystem} {time : Int64} {call : WriteCall}
    {event : LogEvent} (written : system.writtenBy time call = some event) :
    CleanEvent event ∧ system.logger.enabled call.level = true ∧
      (Utf8Event event ↔ CutBetweenCharacters call) := by
  unfold LogSystem.writtenBy at written
  split at written
  · rename_i enabled
    cases written
    exact ⟨writtenEvent_clean _ _ _ _ _ _, enabled, writtenEvent_utf8 _ _ _⟩
  · cases written

theorem writtenBy_none {system : LogSystem} {time : Int64} {call : WriteCall}
    (written : system.writtenBy time call = none) :
    system.logger.enabled call.level = false := by
  unfold LogSystem.writtenBy at written
  split at written
  · cases written
  · rename_i disabled
    exact Bool.eq_false_iff.mpr disabled

theorem droppedMessage_utf8 (dropped : UInt64) :
    WellFormedUtf8 (Logger.droppedMessage dropped) := by
  have front : WellFormedUtf8 (text "file log queue is full; dropped events=") :=
    wellFormedUtf8_of_ascii (by decide +kernel)
  exact front.append (decimal_wellFormed _)

theorem failureEvent_utf8 (logger : Logger) (time : Int64) {what : Bytes}
    (valid : WellFormedUtf8 what) : Utf8Event (logger.failureEvent time what) :=
  have code : WellFormedUtf8 (text "FILE_LOG_FAILED") :=
    wellFormedUtf8_of_ascii (by decide +kernel)
  { code := code
    message := valid
    address := wellFormedUtf8_nil
    dnsType := wellFormedUtf8_nil
    rule := wellFormedUtf8_nil
    action := wellFormedUtf8_nil }

/-- The event a step with UTF-8 texts stores is UTF-8 exactly when it is cut
between characters. -/
theorem stored_utf8 {system : LogSystem} {action : LogAction} {event : LogEvent}
    (texts : Utf8Texts action) (stored : system.stored action = some event) :
    Utf8Event event ↔ CharacterCuts system action := by
  cases action with
  | write time call =>
      obtain ⟨_, enabled, cut⟩ := writtenBy_utf8 stored
      rw [cut]
      exact ⟨fun between _ => between, fun between => between enabled⟩
  | makeCall position time =>
      obtain ⟨call, found, written⟩ := Option.bind_eq_some_iff.mp stored
      obtain ⟨_, enabled, cut⟩ := writtenBy_utf8 written
      rw [cut]
      constructor
      · intro between other same _
        rw [found] at same
        cases same
        exact between
      · intro between
        exact between call found enabled
  | report position time =>
      obtain ⟨dropped, _, same⟩ := Option.map_eq_some_iff.mp stored
      rw [← same]
      exact iff_of_true (failureEvent_utf8 _ _ (droppedMessage_utf8 _)) trivial
  | runTask time outcome =>
      cases outcome with
      | failed what =>
          cases stored
          exact iff_of_true (failureEvent_utf8 _ _ texts) trivial
      | done =>
          cases stored
  | writeLimited _ _ _ _ | offer _ | setDisplayLevel _ | configureFile _ | clearFile
  | flushFile | stop | clearDisplay =>
      cases stored

theorem stored_clean_or_cut {system : LogSystem} {action : LogAction} {event : LogEvent}
    (stored : system.stored action = some event) :
    CleanEvent event ∨ CharacterCuts system action := by
  cases action with
  | write time call =>
      exact Or.inl (writtenBy_utf8 stored).1
  | makeCall position time =>
      obtain ⟨call, _, written⟩ := Option.bind_eq_some_iff.mp stored
      exact Or.inl (writtenBy_utf8 written).1
  | report _ _ | runTask _ _ | writeLimited _ _ _ _ | offer _ | setDisplayLevel _
  | configureFile _ | clearFile | flushFile | stop | clearDisplay =>
      exact Or.inr trivial

theorem characterCuts_of_none {system : LogSystem} {action : LogAction}
    (stored : system.stored action = none) : CharacterCuts system action := by
  cases action with
  | write time call =>
      intro enabled
      rw [writtenBy_none stored] at enabled
      cases enabled
  | makeCall position time =>
      intro call found enabled
      simp only [LogSystem.stored, found, Option.bind_some] at stored
      rw [writtenBy_none stored] at enabled
      cases enabled
  | report _ _ | runTask _ _ | writeLimited _ _ _ _ | offer _ | setDisplayLevel _
  | configureFile _ | clearFile | flushFile | stop | clearDisplay =>
      trivial

/-- Steps with UTF-8 texts that are cut between characters. -/
def Utf8Steps (system : LogSystem) (action : LogAction) : Prop :=
  Utf8Texts action ∧ CharacterCuts system action

theorem utf8Events_reached {capacity : Nat} {system : LogSystem}
    (reached : LogReached Utf8Steps capacity system) :
    ∀ event ∈ system.logger.events, Utf8Event event := by
  apply logEvents_invariant Utf8Event reached
  intro before after action _ _ permitted event stored
  exact (stored_utf8 permitted.1 stored).mpr permitted.2

theorem reply_of_last {logger : Logger} {event : LogEvent} (clean : CleanEvent event)
    (positive : 0 < event.sequence) (counted : event.sequence ≤ maxUint64)
    {kept : List LogEvent} (events : logger.events = kept ++ [event])
    (earlier : ∀ other ∈ kept, other.sequence < event.sequence) :
    logsReply true (logger.collect event.level (event.sequence - 1)) =
      logRow true event := by
  have own : event.level.exceeds event.level = false := by
    unfold Level.exceeds BitVec.slt
    exact decide_eq_false (Int.lt_irrefl _)
  have later : event.sequence - 1 < event.sequence := by
    omega
  have none : kept.filter (fun other => decide (event.sequence - 1 < other.sequence) &&
      !other.level.exceeds event.level) = [] := by
    apply List.filter_eq_nil_iff.mpr
    intro other member
    have before := earlier other member
    simp only [Bool.and_eq_true, decide_eq_true_eq, not_and]
    omega
  have collected : logger.collect event.level (event.sequence - 1) = [event] := by
    unfold Logger.collect
    rw [events, List.filter_append, none, List.nil_append]
    apply List.filter_eq_self.mpr
    intro other member
    rw [List.mem_singleton.mp member, own, decide_eq_true later]
    rfl
  have fits : ¬ maxLogsReply < 0 + (logRow true event).length := by
    have short := logRow_length_le true clean counted
    unfold maxLogsReply
    omega
  have fitting : fittingEvents true 0 [event] = [event] := by
    unfold fittingEvents
    simp only [if_neg fits]
    rfl
  rw [collected, logsReply_eq, fitting, List.flatMap_singleton]

theorem store_last {logger : Logger} (room : 0 < logger.capacity) (event : LogEvent)
    (within : logger.events.length ≤ logger.capacity) :
    ∃ kept, (logger.store event).events = kept ++ [event] ∧
      ∀ other ∈ kept, other ∈ logger.events := by
  simp only [Logger.store]
  split
  · rename_i full
    rw [List.length_append, List.length_singleton] at full
    refine ⟨logger.events.drop 1, List.drop_append_of_le_length (by omega), ?_⟩
    intro other member
    exact List.mem_of_mem_drop member
  · exact ⟨logger.events, rfl, fun _ member => member⟩

/-- In every run whose texts are UTF-8 and cut between characters every payload is
valid UTF-8 in every state, and the first call cut inside a character ends
that. -/
theorem logPayloads_utf8 {capacity : Nat} (room : 0 < capacity) {system : LogSystem}
    (reached : LogReached Utf8Steps capacity system) :
    Utf8Payloads system.logger ∧
      ∀ action after, Utf8Texts action → performLogging system action = some after →
        (Utf8Payloads after.logger ↔ CharacterCuts system action) := by
  have valid := utf8Events_reached reached
  refine ⟨utf8Payloads_of_events valid, ?_⟩
  intro action after texts performed
  constructor
  · intro payloads
    cases stored : system.stored action with
    | none =>
        exact characterCuts_of_none stored
    | some event =>
        rcases stored_clean_or_cut stored with clean | between
        case inr =>
          exact between
        apply (stored_utf8 texts stored).mp
        obtain ⟨sameCapacity, within⟩ := logEvents_bounded room reached
        rw [← sameCapacity] at room within
        have change := performLogging_change performed
        obtain ⟨next, _, events⟩ := change.appended event stored
        obtain ⟨kept, last, old⟩ := store_last room event within
        have counter := performLogging_counted performed
        have payload := payloads true event.level (event.sequence - 1)
        have earlier : ∀ other ∈ kept, other.sequence < event.sequence := by
          intro other member
          have bound := logEvents_counted reached other (old other member)
          omega
        rw [reply_of_last clean (by omega) (by omega) (events.trans last) earlier]
          at payload
        exact logRow_utf8 payload
  · intro between
    exact utf8Payloads_of_events
      (utf8Events_reached (.next reached ⟨action, performed, texts, between⟩))

def shortCall : WriteCall :=
  { level := .normal
    code := text "DNS_RULE"
    message := text "rule=Журнал"
    context := {} }

theorem logPayloads_utf8_short :
    ∃ system, LogReached Utf8Steps 16 system ∧ Utf8Payloads system.logger ∧
      system.logger.events.map (·.message) = [text "rule=Журнал"] := by
  have ran : ((performLogging { logger := { capacity := 16 } } (.write 0 shortCall)).map
      fun system => system.logger.events.map (·.message)) =
        some [text "rule=Журнал"] := by
    decide +kernel
  obtain ⟨system, performed, seen⟩ := Option.map_eq_some_iff.mp ran
  have texts : Utf8Call shortCall := by
    constructor <;> decide +kernel
  have cut : CutBetweenCharacters shortCall := by
    constructor <;> decide +kernel
  have reached : LogReached Utf8Steps 16 system :=
    .next (.start rfl) ⟨_, performed, texts, fun _ => cut⟩
  exact ⟨system, reached, (logPayloads_utf8 (by decide) reached).1, seen⟩

/-- 4095 letters and a character of two bytes, the second of which is cut off. -/
def longMessage : Bytes :=
  List.replicate 4095 97 ++ [0xC3, 0xA9]

def longCall : WriteCall :=
  { level := .normal
    code := text "DNS_RULE"
    message := longMessage
    context := {} }

theorem longMessage_cut : ¬ WellFormedUtf8 (longMessage.take maxMessage) := by
  have cut : longMessage.take maxMessage = List.replicate 4094 97 ++ 97 :: [0xC3] := by
    have split : List.replicate 4095 (97 : UInt8) = List.replicate 4094 97 ++ [97] :=
      List.replicate_succ'
    have length : (List.replicate 4095 (97 : UInt8)).length = 4095 :=
      List.length_replicate
    rw [longMessage, maxMessage, List.take_append, length,
      List.take_of_length_le (by rw [length]; decide), split, List.append_assoc]
    rfl
  rw [cut, wellFormedUtf8_append_ascii (by decide)]
  rintro ⟨_, lead⟩
  revert lead
  decide +kernel

theorem logPayloads_broken :
    ∃ system, LogReached (fun _ action => Utf8Texts action) 2048 system ∧
      ¬ WellFormedUtf8 (logsReply true (system.logger.collect .normal 0)) := by
  have letters : WellFormedUtf8 (List.replicate 4095 97) := by
    apply wellFormedUtf8_of_ascii
    intro c member
    rw [List.eq_of_mem_replicate member]
    decide
  have texts : Utf8Call longCall :=
    { code := by decide +kernel
      message := letters.append (by decide +kernel)
      address := wellFormedUtf8_nil
      dnsType := wellFormedUtf8_nil
      rule := wellFormedUtf8_nil
      action := wellFormedUtf8_nil }
  let logger : Logger := { capacity := 2048 }
  let event := logger.writtenEvent 0 longCall.level longCall.code longCall.message
    longCall.context
  have performed : performLogging { logger := logger } (.write 0 longCall) =
      some
        { logger := logger.store event
          unqueued := [event] } := rfl
  refine ⟨_, .next (.start rfl) ⟨_, performed, texts⟩, ?_⟩
  intro payload
  have clean : CleanEvent event := writtenEvent_clean _ _ _ _ _ _
  have alone : (logger.store event).events = [] ++ [event] := rfl
  rw [show logsReply true ((logger.store event).collect .normal 0) = logRow true event
    from reply_of_last clean (by decide) (by decide) alone nofun] at payload
  have message := (logRow_utf8 payload).message
  exact longMessage_cut ((sanitized_wellFormed maxMessage longMessage).mp message)

end NativeDNS
