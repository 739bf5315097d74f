/-
How the window reads the rows of the log.

Texts of the window are sequences of UTF-16 units.  What Qt does with them is a
parameter: decoding, the two number readers, the validity of a time and the
match of the routing expression.  A text is decoded character by character, so
that an ASCII byte stands for itself and separates what is around it.
-/
import NativeDNS.Logging.Sink
import Mathlib.Data.List.Basic

namespace NativeDNS

open ByteText (text decimal pieces)

abbrev QText := List UInt16

structure RouteMatch where
  address : QText
  dnsType : QText
  action : QText
  rule : QText

structure Qt where
  fromUtf8 : Bytes → QText
  toULongLong : QText → Option Nat
  toLongLong : QText → Option Int
  /-- Whether a number of milliseconds since the epoch is a time. -/
  isValid : Int → Bool
  /-- The match of the routing expression of `decodeLogRecords`. -/
  matchRoute : QText → Option RouteMatch

/-- A record; without a timestamp it has the time of its decoding. -/
structure LogRecord where
  sequence : Nat := 0
  timestamp : Option Int := none
  code : QText := []
  message : QText := []
  address : QText := []
  dnsType : QText := []
  rule : QText := []
  action : QText := []
  error : Bool := false
  deriving DecidableEq

def qTab : UInt16 := 9

def qNewline : UInt16 := 10

def qText (literal : String) : QText :=
  (text literal).map UInt8.toUInt16

/-! ### The decoder -/

def recoverRouting (qt : Qt) (record : LogRecord) : LogRecord :=
  if record.address = [] ∨ record.dnsType = [] ∨ record.rule = [] ∨
      record.action = [] then
    match qt.matchRoute record.message with
    | some found =>
        { record with
          address := if record.address = [] then found.address else record.address
          dnsType := if record.dnsType = [] then found.dnsType else record.dnsType
          action := if record.action = [] then found.action else record.action
          rule := if record.rule = [] then found.rule else record.rule }
    | none => record
  else record

def fieldAt (fields : List QText) (position : Nat) : QText :=
  (fields[position]?).getD []

def recordOfFields (qt : Qt) (sequence : Nat) (fields : List QText) : LogRecord :=
  let time := if 5 ≤ fields.length then qt.toLongLong (fieldAt fields 2) else none
  let message := if time.isSome = true then 4 else 3
  let record : LogRecord :=
    { sequence := sequence
      timestamp := time.filter qt.isValid
      error := fieldAt fields 1 == qText "0"
      code := fieldAt fields (message - 1) }
  if message = 4 ∧ fields.length = 9 then
    { record with
      message := fieldAt fields message
      address := fieldAt fields 5
      dnsType := fieldAt fields 6
      rule := fieldAt fields 7
      action := fieldAt fields 8 }
  else
    { record with message := [qTab].intercalate (fields.drop message) }

def decodeLogLine (qt : Qt) (line : QText) : Option LogRecord :=
  let fields := line.splitOn qTab
  if fields.length < 4 then none
  else
    (qt.toULongLong (fieldAt fields 0)).map fun sequence =>
      recoverRouting qt (recordOfFields qt sequence fields)

def decodeLogRecords (qt : Qt) (payload : QText) : List LogRecord :=
  ((payload.splitOn qNewline).filter (· ≠ [])).filterMap (decodeLogLine qt)

/-! ### What is taken from Qt -/

/-- Qt decodes and reads as documented.  `units` are the units of the bytes
inside a text; only a byte order mark in front of a whole text is dropped. -/
structure QtCorrect (qt : Qt) (units : Bytes → QText) : Prop where
  whole : ∀ bytes, bytes.head? ≠ some 0xEF → qt.fromUtf8 bytes = units bytes
  nil : units [] = []
  nonempty : ∀ bytes, bytes ≠ [] → units bytes ≠ []
  cut : ∀ front c back, c < 0x80 →
    units (front ++ c :: back) = units front ++ c.toUInt16 :: units back
  free : ∀ bytes c, c < 0x80 → c ∉ bytes → c.toUInt16 ∉ units bytes
  unsigned : ∀ value, value ≤ maxUint64 →
    qt.toULongLong ((decimal value).map UInt8.toUInt16) = some value
  signed : ∀ value : Int64,
    qt.toLongLong ((decimalInt value.toInt).map UInt8.toUInt16) = some value.toInt

section Correct

variable {qt : Qt} {units : Bytes → QText}

theorem QtCorrect.ascii (correct : QtCorrect qt units) {bytes : Bytes}
    (ascii : ∀ c ∈ bytes, c < 0x80) : units bytes = bytes.map UInt8.toUInt16 := by
  induction bytes with
  | nil =>
      exact correct.nil
  | cons c rest ih =>
      have here := correct.cut [] c rest (ascii c List.mem_cons_self)
      rw [List.nil_append, correct.nil, List.nil_append] at here
      rw [here, List.map_cons,
        ih fun other member => ascii other (List.mem_cons_of_mem c member)]

theorem QtCorrect.splitOn (correct : QtCorrect qt units) {separator : UInt8}
    (ascii : separator < 0x80) (bytes : Bytes) :
    (units bytes).splitOn separator.toUInt16 = (pieces separator bytes).map units := by
  induction size : bytes.length using Nat.strongRecOn generalizing bytes with
  | _ count ih =>
      by_cases found : separator ∈ bytes
      · obtain ⟨front, back, whole, free⟩ := List.eq_append_cons_of_mem found
        subst whole
        have shorter : back.length < count := by
          rw [← size, List.length_append, List.length_cons]
          omega
        rw [correct.cut front separator back ascii,
          List.splitOn_append_cons_self_of_not_mem (correct.free front separator ascii free),
          ByteText.pieces_append_separator free, List.map_cons,
          ih back.length shorter back rfl]
      · rw [List.splitOn_eq_singleton (correct.free bytes separator ascii found),
          ByteText.pieces_of_free found]
        rfl

/-! ### Rows -/

def logRecordOf (units : Bytes → QText) (event : LogEvent) : LogRecord :=
  { sequence := event.sequence
    timestamp := some event.time.toInt
    code := units event.code
    message := units event.message
    address := units event.context.address
    dnsType := units event.context.dnsType
    rule := units event.context.rule
    action := units event.context.action
    error := decide (event.level = .errorsOnly) }

structure NamedContext (context : LogContext) : Prop where
  address : context.address ≠ []
  dnsType : context.dnsType ≠ []
  rule : context.rule ≠ []
  action : context.action ≠ []

theorem decimalInt_ascii (value : Int) : ∀ c ∈ decimalInt value, c < 0x80 := by
  intro c member
  unfold decimalInt at member
  split at member
  · rcases List.mem_cons.mp member with sign | digit
    · rw [sign]
      decide
    · exact ByteText.decimal_ascii _ c digit
  · exact ByteText.decimal_ascii _ c member

theorem QtCorrect.level (correct : QtCorrect qt units) (level : Level) :
    (units (decimal level.value.toNat) == qText "0") =
      decide (level = .errorsOnly) := by
  rw [correct.ascii (ByteText.decimal_ascii _)]
  by_cases same : level = .errorsOnly
  · subst same
    rfl
  · rw [decide_eq_false same]
    apply beq_false_of_ne
    intro equal
    have digits : decimal level.value.toNat = decimal 0 := by
      have inverse : ∀ bytes : Bytes,
          (bytes.map UInt8.toUInt16).map UInt16.toUInt8 = bytes := by
        intro bytes
        rw [List.map_map]
        exact List.map_id'' (fun c => UInt8.toUInt8_toUInt16 c) bytes
      have back := congrArg (List.map UInt16.toUInt8) equal
      rw [inverse] at back
      rw [back]
      rfl
    apply same
    have zero := ByteText.decimal_injective digits
    cases level with
    | mk value =>
        rw [show value = 0 from BitVec.eq_of_toNat_eq zero]
        rfl

theorem recoverRouting_given {record : LogRecord} (address : record.address ≠ [])
    (dnsType : record.dnsType ≠ []) (rule : record.rule ≠ [])
    (action : record.action ≠ []) : recoverRouting qt record = record := by
  unfold recoverRouting
  rw [if_neg]
  simp only [address, dnsType, rule, action, or_self, not_false_eq_true]

theorem QtCorrect.line (correct : QtCorrect qt units) {event : LogEvent}
    (clean : CleanEvent event) (named : NamedContext event.context)
    (counted : event.sequence ≤ maxUint64)
    (valid : qt.isValid event.time.toInt = true) :
    decodeLogLine qt (units (rowBody true event)) = some (logRecordOf units event) := by
  have fields : (units (rowBody true event)).splitOn qTab =
      (rowFields true event).map units := by
    rw [← pieces_rowBody true clean]
    exact correct.splitOn (by decide : tab < 0x80) _
  have sequence : qt.toULongLong (units (decimal event.sequence)) =
      some event.sequence := by
    rw [correct.ascii (ByteText.decimal_ascii _)]
    exact correct.unsigned _ counted
  have time : qt.toLongLong (units (decimalInt event.time.toInt)) =
      some event.time.toInt := by
    rw [correct.ascii (decimalInt_ascii _)]
    exact correct.signed _
  have record : recordOfFields qt event.sequence ((rowFields true event).map units) =
      logRecordOf units event := by
    have timed : qt.toLongLong (fieldAt ((rowFields true event).map units) 2) =
        some event.time.toInt := time
    have nine : ((rowFields true event).map units).length = 9 := rfl
    unfold recordOfFields
    rw [nine]
    simp only [timed, Nat.reduceLeDiff, if_true, Option.isSome_some, and_self]
    unfold logRecordOf
    rw [Option.filter_some, if_pos valid, ← correct.level]
    rfl
  have enough : ¬ ((rowFields true event).map units).length < 4 := by
    rw [List.length_map]
    exact of_decide_eq_false rfl
  unfold decodeLogLine
  simp only [fields]
  rw [if_neg enough]
  have first : fieldAt ((rowFields true event).map units) 0 =
      units (decimal event.sequence) := rfl
  rw [first, sequence, Option.map_some, record, recoverRouting_given]
  · exact correct.nonempty _ named.address
  · exact correct.nonempty _ named.dnsType
  · exact correct.nonempty _ named.rule
  · exact correct.nonempty _ named.action

structure DecodableEvent (qt : Qt) (event : LogEvent) : Prop where
  clean : CleanEvent event
  named : NamedContext event.context
  counted : event.sequence ≤ maxUint64
  valid : qt.isValid event.time.toInt = true

theorem rowBody_ne_nil (structured : Bool) (event : LogEvent) :
    rowBody structured event ≠ [] := by
  unfold rowBody
  exact List.append_ne_nil_of_left_ne_nil (ByteText.decimal_ne_nil _) _

theorem rows_head (structured : Bool) (events : List LogEvent) :
    (events.flatMap (logRow structured)).head? ≠ some 0xEF := by
  cases events with
  | nil =>
      exact nofun
  | cons event rest =>
      intro mark
      rw [List.flatMap_cons, logRow, List.append_assoc,
        List.head?_append_of_ne_nil _ (ByteText.decimal_ne_nil _)] at mark
      have ascii := ByteText.decimal_ascii event.sequence 0xEF (List.mem_of_head? mark)
      revert ascii
      decide

theorem QtCorrect.lines (correct : QtCorrect qt units) (structured : Bool)
    {events : List LogEvent} (clean : ∀ event ∈ events, CleanEvent event) :
    ((qt.fromUtf8 (events.flatMap (logRow structured))).splitOn qNewline).filter (· ≠ []) =
      events.map (units ∘ rowBody structured) := by
  have lines : (qt.fromUtf8 (events.flatMap (logRow structured))).splitOn qNewline =
      (events.map (rowBody structured) ++ [[]]).map units := by
    rw [correct.whole _ (rows_head structured events), ← pieces_rows structured clean]
    exact correct.splitOn (by decide : newline < 0x80) _
  have kept : (events.map (units ∘ rowBody structured)).filter (· ≠ []) =
      events.map (units ∘ rowBody structured) := by
    apply List.filter_eq_self.mpr
    intro line member
    obtain ⟨event, _, same⟩ := List.mem_map.mp member
    rw [← same]
    exact decide_eq_true (correct.nonempty _ (rowBody_ne_nil structured event))
  have dropped : [([] : QText)].filter (· ≠ []) = [] := rfl
  rw [lines, List.map_append, List.map_map, List.filter_append, kept,
    List.map_singleton, correct.nil, dropped, List.append_nil]

theorem QtCorrect.rows (correct : QtCorrect qt units) {events : List LogEvent}
    (decodable : ∀ event ∈ events, DecodableEvent qt event) :
    decodeLogRecords qt (qt.fromUtf8 (events.flatMap (logRow true))) =
      events.map (logRecordOf units) := by
  have clean : ∀ event ∈ events, CleanEvent event := fun event member =>
    (decodable event member).clean
  unfold decodeLogRecords
  rw [correct.lines true clean, List.filterMap_map, ← List.filterMap_eq_map]
  apply List.filterMap_congr
  intro event member
  have facts := decodable event member
  exact correct.line facts.clean facts.named facts.counted facts.valid

/-! ### The numbers of the records -/

theorem recoverRouting_sequence (record : LogRecord) :
    (recoverRouting qt record).sequence = record.sequence := by
  unfold recoverRouting
  split
  · split
    · rfl
    · rfl
  · rfl

theorem recordOfFields_sequence (sequence : Nat) (fields : List QText) :
    (recordOfFields qt sequence fields).sequence = sequence := by
  unfold recordOfFields
  rw [apply_ite LogRecord.sequence, ite_self]

theorem QtCorrect.line_sequence (correct : QtCorrect qt units) (structured : Bool)
    {event : LogEvent} (clean : CleanEvent event)
    (counted : event.sequence ≤ maxUint64) :
    (decodeLogLine qt (units (rowBody structured event))).map (·.sequence) =
      some event.sequence := by
  have fields : (units (rowBody structured event)).splitOn qTab =
      (rowFields structured event).map units := by
    rw [← pieces_rowBody structured clean]
    exact correct.splitOn (by decide : tab < 0x80) _
  have sequence : qt.toULongLong (units (decimal event.sequence)) =
      some event.sequence := by
    rw [correct.ascii (ByteText.decimal_ascii _)]
    exact correct.unsigned _ counted
  have enough : ¬ ((rowFields structured event).map units).length < 4 := by
    rw [List.length_map]
    cases structured with
    | false | true =>
        exact of_decide_eq_false rfl
  have first : fieldAt ((rowFields structured event).map units) 0 =
      units (decimal event.sequence) := rfl
  unfold decodeLogLine
  simp only [fields]
  rw [if_neg enough, first, sequence, Option.map_some, Option.map_some,
    recoverRouting_sequence, recordOfFields_sequence]

theorem QtCorrect.sequences (correct : QtCorrect qt units) (structured : Bool)
    {events : List LogEvent} (clean : ∀ event ∈ events, CleanEvent event)
    (counted : ∀ event ∈ events, event.sequence ≤ maxUint64) :
    (decodeLogRecords qt (qt.fromUtf8 (events.flatMap (logRow structured)))).map
        (·.sequence) = events.map (·.sequence) := by
  unfold decodeLogRecords
  rw [correct.lines structured clean, List.filterMap_map, List.map_filterMap,
    ← List.filterMap_eq_map]
  apply List.filterMap_congr
  intro event member
  exact correct.line_sequence structured (clean event member) (counted event member)

/-- The routing fields of a line with nine fields and a time are kept, whatever
is found in its message. -/
theorem decodeLogLine_explicit {line : QText} {record : LogRecord}
    {number level time code message address dnsType rule action : QText}
    (fields : line.splitOn qTab =
      [number, level, time, code, message, address, dnsType, rule, action])
    (timed : (qt.toLongLong time).isSome = true)
    (decoded : decodeLogLine qt line = some record) :
    (address ≠ [] → record.address = address) ∧
      (dnsType ≠ [] → record.dnsType = dnsType) ∧
      (rule ≠ [] → record.rule = rule) ∧ (action ≠ [] → record.action = action) := by
  obtain ⟨milliseconds, read⟩ := Option.isSome_iff_exists.mp timed
  unfold decodeLogLine at decoded
  simp only [fields] at decoded
  rw [if_neg (by simp)] at decoded
  obtain ⟨sequence, _, same⟩ := Option.map_eq_some_iff.mp decoded
  have explicit := same
  unfold recordOfFields at explicit
  simp only [List.length_cons, List.length_nil, fieldAt, List.getElem?_cons_succ,
    List.getElem?_cons_zero, Option.getD_some, read, Nat.reduceAdd, Nat.reduceLeDiff,
    if_true, Option.isSome_some, and_self, Nat.reduceSub] at explicit
  rw [← explicit]
  unfold recoverRouting
  split
  · split
    · refine ⟨?_, ?_, ?_, ?_⟩ <;>
        · intro given
          simp only [given, if_false]
    · exact ⟨fun _ => rfl, fun _ => rfl, fun _ => rfl, fun _ => rfl⟩
  · exact ⟨fun _ => rfl, fun _ => rfl, fun _ => rfl, fun _ => rfl⟩

end Correct

/-! ### The written log -/

theorem sanitized_ne_nil {limit : Nat} {value : Bytes} (positive : 0 < limit)
    (given : value ≠ []) : sanitized limit value ≠ [] := by
  cases value with
  | nil =>
      exact absurd rfl given
  | cons c rest =>
      obtain ⟨more, same⟩ := Nat.exists_eq_succ_of_ne_zero (Nat.ne_of_gt positive)
      unfold sanitized
      rw [same, List.map_cons, List.take_succ_cons]
      exact List.cons_ne_nil _ _

theorem NamedContext.sanitized {context : LogContext} (named : NamedContext context) :
    NamedContext context.sanitized where
  address := sanitized_ne_nil (by decide) named.address
  dnsType := sanitized_ne_nil (by decide) named.dnsType
  rule := sanitized_ne_nil (by decide) named.rule
  action := sanitized_ne_nil (by decide) named.action

/-- Events are stored by `write` and `write_limited` only, with full contexts. -/
def NamedWrites (system : LogSystem) : LogAction → Prop
  | .write _ call => NamedContext call.context
  | .makeCall position _ =>
      ∀ call, system.calls[position]? = some call → NamedContext call.context
  | .report _ _ => False
  | .runTask _ (.failed _) => False
  | _ => True

structure NamedEvent (event : LogEvent) : Prop where
  clean : CleanEvent event
  named : NamedContext event.context
  counted : event.sequence ≤ maxUint64

theorem writtenBy_named {system : LogSystem} {time : Int64} {call : WriteCall}
    {event : LogEvent} (room : system.logger.sequence < maxUint64)
    (named : NamedContext call.context)
    (written : system.writtenBy time call = some event) : NamedEvent event := by
  unfold LogSystem.writtenBy at written
  split at written
  · cases written
    exact
      { clean := writtenEvent_clean _ _ _ _ _ _
        named := named.sanitized
        counted := Nat.succ_le_of_lt room }
  · cases written

theorem namedEvents_reached {capacity : Nat} {system : LogSystem}
    (reached : LogReached NamedWrites capacity system) :
    ∀ event ∈ system.logger.events, NamedEvent event := by
  apply logEvents_invariant NamedEvent reached
  intro before after action _ performed permitted event stored
  have room := performLogging_counted performed
  cases action with
  | write time call =>
      exact writtenBy_named room permitted stored
  | makeCall position time =>
      obtain ⟨call, found, written⟩ := Option.bind_eq_some_iff.mp stored
      exact writtenBy_named room (permitted call found) written
  | report position time =>
      exact absurd permitted id
  | runTask time outcome =>
      cases outcome with
      | failed what =>
          exact absurd permitted id
      | done =>
          cases stored
  | writeLimited _ _ _ _ | offer _ | setDisplayLevel _ | configureFile _ | clearFile
  | flushFile | stop | clearDisplay =>
      cases stored

/-- The structured reply is decoded to one record for each returned event, with
what was stored, and no explicit routing field is ever replaced. -/
theorem decodeLogRecords_exact {qt : Qt} {units : Bytes → QText}
    (correct : QtCorrect qt units) {capacity : Nat} {system : LogSystem}
    (reached : LogReached NamedWrites capacity system)
    (valid : ∀ event ∈ system.logger.events, qt.isValid event.time.toInt = true)
    (level : Level) (after : Nat) :
    (∃ returned, returned <+: system.logger.collect level after ∧
      logsReply true (system.logger.collect level after) =
        returned.flatMap (logRow true) ∧
      decodeLogRecords qt
          (qt.fromUtf8 (logsReply true (system.logger.collect level after))) =
        returned.map (logRecordOf units)) ∧
    ∀ line record number level time code message address dnsType rule action,
      line.splitOn qTab =
        [number, level, time, code, message, address, dnsType, rule, action] →
      (qt.toLongLong time).isSome = true → decodeLogLine qt line = some record →
        (address ≠ [] → record.address = address) ∧
          (dnsType ≠ [] → record.dnsType = dnsType) ∧
          (rule ≠ [] → record.rule = rule) ∧
          (action ≠ [] → record.action = action) := by
  constructor
  · have initial := fittingEvents_initial true 0 (system.logger.collect level after)
    refine ⟨_, initial, logsReply_eq true _, ?_⟩
    rw [logsReply_eq]
    apply correct.rows
    intro event member
    have retained := List.mem_of_mem_filter (initial.subset member)
    have facts := namedEvents_reached reached event retained
    exact
      { clean := facts.clean
        named := facts.named
        counted := facts.counted
        valid := valid event retained }
  · intro line record number level time code message address dnsType rule action
      fields timed decoded
    exact decodeLogLine_explicit fields timed decoded

def routedMessage : Bytes :=
  text "a.example [A] - block : rule=other x"

def routedMatch : RouteMatch where
  address := qText "a.example"
  dnsType := qText "A"
  action := qText "block"
  rule := qText "other x"

/-- Qt restricted to texts of single-byte units, for evaluated examples. -/
def latinQt : Qt :=
  { fromUtf8 := List.map UInt8.toUInt16
    toULongLong := fun digits =>
      ByteText.readDecimal maxUint64 (digits.map UInt16.toUInt8)
    toLongLong := fun digits =>
      match digits.map UInt16.toUInt8 with
      | 45 :: rest =>
          (ByteText.readDecimal 9223372036854775808 rest).map fun value : Nat => -(value : Int)
      | rest =>
          (ByteText.readDecimal 9223372036854775807 rest).map fun value : Nat => (value : Int)
    isValid := fun _ => true
    matchRoute := fun message =>
      if message = routedMessage.map UInt8.toUInt16 then some routedMatch else none }

theorem latin_inverse (bytes : Bytes) :
    (bytes.map UInt8.toUInt16).map UInt16.toUInt8 = bytes := by
  rw [List.map_map]
  exact List.map_id'' (fun c => UInt8.toUInt8_toUInt16 c) bytes

theorem latinQt_signed (value : Int64) :
    latinQt.toLongLong ((decimalInt value.toInt).map UInt8.toUInt16) =
      some value.toInt := by
  have low := Int64.le_toInt value
  have high := Int64.toInt_lt value
  unfold latinQt
  simp only [latin_inverse]
  by_cases negative : value.toInt < 0
  · have read : ByteText.readDecimal 9223372036854775808
        (decimal value.toInt.natAbs) = some value.toInt.natAbs :=
      ByteText.readDecimal_decimal (by omega)
    have sign : -(value.toInt.natAbs : Int) = value.toInt := by
      omega
    unfold decimalInt
    rw [if_pos negative]
    simp only [read, Option.map_some, sign]
  · have read : ByteText.readDecimal 9223372036854775807
        (decimal value.toInt.natAbs) = some value.toInt.natAbs :=
      ByteText.readDecimal_decimal (by omega)
    have plain : (value.toInt.natAbs : Int) = value.toInt := by
      omega
    have unsigned : decimalInt value.toInt = decimal value.toInt.natAbs :=
      if_neg negative
    split
    · rename_i rest digits
      have sign : (45 : UInt8) ∈ decimal value.toInt.natAbs := by
        rw [← unsigned, digits]
        exact List.mem_cons_self
      exact absurd sign (ByteText.not_mem_decimal (by decide) _)
    · rw [unsigned, read]
      exact congrArg some plain

theorem latinQt_correct : QtCorrect latinQt (List.map UInt8.toUInt16) where
  whole := fun _ _ => rfl
  nil := rfl
  nonempty := fun _ given => fun empty => given (List.map_eq_nil_iff.mp empty)
  cut := by
    intro front c back _
    rw [List.map_append, List.map_cons]
  free := by
    intro bytes c _ free member
    obtain ⟨other, inside, same⟩ := List.mem_map.mp member
    have equal : other = c := by
      have back := congrArg UInt16.toUInt8 same
      simpa using back
    exact free (equal ▸ inside)
  unsigned := by
    intro value within
    change ByteText.readDecimal maxUint64 _ = some value
    rw [latin_inverse]
    exact ByteText.readDecimal_decimal within
  signed := latinQt_signed

/-- A message with a line break and a rule name with a tab. -/
def namedRun : List LogAction :=
  [.write 1767225600000
    { level := .errorsOnly
      code := text "DNS_FAILED"
      message := text "a.example [A] - block : rule=other\nx"
      context :=
        { address := text "b.example"
          dnsType := text "AAAA"
          rule := text "my\trule"
          action := text "process" } }]

theorem decodeLogRecords_exact_named :
    ∃ system, LogReached NamedWrites 16 system ∧
      system.logger.events.map (·.message) = [routedMessage] ∧
      ∃ returned, returned <+: system.logger.collect .debug 0 ∧
        logsReply true (system.logger.collect .debug 0) =
          returned.flatMap (logRow true) ∧
        decodeLogRecords latinQt
            (latinQt.fromUtf8 (logsReply true (system.logger.collect .debug 0))) =
          returned.map (logRecordOf (List.map UInt8.toUInt16)) := by
  have ran : ((Transition.performAll performLogging
      { logger := { capacity := 16 } } namedRun).map fun system =>
        system.logger.events.map (·.message)) =
      some [routedMessage] := by
    decide +kernel
  obtain ⟨system, done, seen⟩ := Option.map_eq_some_iff.mp ran
  obtain ⟨after, performed, same⟩ := Option.bind_eq_some_iff.mp done
  cases same
  have start : LogReached NamedWrites 16 { logger := { capacity := 16 } } :=
    .start rfl
  have reached : LogReached NamedWrites 16 system :=
    .next start ⟨_, performed,
      { address := by decide
        dnsType := by decide
        rule := by decide
        action := by decide }⟩
  exact ⟨system, reached, seen,
    (decodeLogRecords_exact latinQt_correct reached (fun _ _ => rfl) .debug 0).1⟩

end NativeDNS
