/-
Rows of the logs operation: its request, its reply, and how a client reads one.

A row is one line of fields separated by tabs.  The reply ends before the first
row that would not fit any more.
-/
import NativeDNS.Logging.Logger
import NativeDNS.Library.Lists

namespace NativeDNS

open ByteText (text decimal pieces readDecimal digitsValue isDigit)
open CheckedResult

def tab : UInt8 := 9

def newline : UInt8 := 10

/-! ### The request -/

structure LogsRequest where
  after : Nat
  waitMs : Nat
  level : Level
  structured : Bool
  deriving DecidableEq

def maxUint64 : Nat := 18446744073709551615

def structuredSuffix : Bytes := tab :: text "structured"

def readSequence (sequence : Bytes) : Checked Nat :=
  if sequence = [] then pure 0
  else
    match readDecimal maxUint64 sequence with
    | some after => pure after
    | none => throw (.of "IPC_PROTOCOL" "logs payload has invalid sequence")

def readWait (wait : Bytes) : Checked Nat :=
  match readDecimal maxUint64 wait with
  | some waitMs => do
      rejectIf (1000 < waitMs) (.of "IPC_PROTOCOL" "logs wait must be 0..1000 ms")
      pure waitMs
  | none => throw (.of "IPC_PROTOCOL" "logs wait must be 0..1000 ms")

def readLevel (level : Bytes) : Checked Level :=
  match readDecimal maxUint64 level with
  | some value => do
      rejectIf (3 < value) (.of "IPC_PROTOCOL" "logs level must be 0..3")
      pure ⟨BitVec.ofNat 32 value⟩
  | none => throw (.of "IPC_PROTOCOL" "logs level must be 0..3")

/-- The fields of a request without its suffix: up to two tabs are looked
for. -/
def readLogsFields (screen : Level) (structured : Bool) (payload : Bytes) :
    Checked LogsRequest := do
  let sequence := payload.takeWhile (· != tab)
  let after ← readSequence sequence
  match payload.drop sequence.length with
  | [] =>
      pure
        { after := after
          waitMs := 0
          level := screen
          structured := structured }
  | _ :: rest => do
      let wait := rest.takeWhile (· != tab)
      let waitMs ← readWait wait
      match rest.drop wait.length with
      | [] =>
          pure
            { after := after
              waitMs := waitMs
              level := screen
              structured := structured }
      | _ :: level => do
          let level ← readLevel level
          pure
            { after := after
              waitMs := waitMs
              level := level
              structured := structured }

/-- The payload of a logs request; `screen` is the configured level. -/
def parseLogsRequest (screen : Level) (payload : Bytes) : Checked LogsRequest :=
  if structuredSuffix.isSuffixOf payload then
    readLogsFields screen true (payload.take (payload.length - 11))
  else readLogsFields screen false payload

def logsPayload (request : LogsRequest) : Bytes :=
  decimal request.after ++ tab :: (decimal request.waitMs ++ tab ::
    (decimal request.level.value.toNat ++
      if request.structured then structuredSuffix else []))

/-! ### The reply -/

def decimalInt (value : Int) : Bytes :=
  if value < 0 then 45 :: decimal value.natAbs else decimal value.natAbs

def logRow (structured : Bool) (event : LogEvent) : Bytes :=
  decimal event.sequence ++ tab :: (decimal event.level.value.toNat ++ tab ::
    (decimalInt event.time.toInt ++ tab :: (event.code ++ tab :: (event.message ++
      ((if structured then
          tab :: (event.context.address ++ tab :: (event.context.dnsType ++ tab ::
            (event.context.rule ++ tab :: event.context.action)))
        else []) ++ [newline])))))

def maxLogsReply : Nat := 1024 * 1024

/-- The loop over the events; it stops at the first row that does not fit. -/
def appendRows (structured : Bool) (output : Bytes) : List LogEvent → Bytes
  | [] => output
  | event :: rest =>
      let line := logRow structured event
      if maxLogsReply < output.length + line.length then output
      else appendRows structured (output ++ line) rest

def logsReply (structured : Bool) (events : List LogEvent) : Bytes :=
  appendRows structured [] events

/-- The events whose rows fit after `size` bytes. -/
def fittingEvents (structured : Bool) (size : Nat) : List LogEvent → List LogEvent
  | [] => []
  | event :: rest =>
      let line := logRow structured event
      if maxLogsReply < size + line.length then []
      else event :: fittingEvents structured (size + line.length) rest

/-! ### How a client reads a reply -/

def rowSequences (reply : Bytes) : List Nat :=
  (pieces newline reply).dropLast.map fun row =>
    digitsValue (row.takeWhile (· != tab))

/-! ### Rows that fit -/

theorem fittingEvents_initial (structured : Bool) (size : Nat)
    (events : List LogEvent) : fittingEvents structured size events <+: events := by
  induction events generalizing size with
  | nil =>
      exact List.prefix_rfl
  | cons event rest ih =>
      simp only [fittingEvents]
      split
      · exact List.nil_prefix
      · exact (List.prefix_cons_inj event).mpr (ih _)

theorem appendRows_eq (structured : Bool) (output : Bytes) (events : List LogEvent) :
    appendRows structured output events =
      output ++ (fittingEvents structured output.length events).flatMap
        (logRow structured) := by
  induction events generalizing output with
  | nil =>
      simp [appendRows, fittingEvents]
  | cons event rest ih =>
      simp only [appendRows, fittingEvents]
      split
      · simp
      · rw [ih, List.length_append, List.flatMap_cons, List.append_assoc]

theorem appendRows_length_le (structured : Bool) {output : Bytes}
    (fits : output.length ≤ maxLogsReply) (events : List LogEvent) :
    (appendRows structured output events).length ≤ maxLogsReply := by
  induction events generalizing output with
  | nil =>
      exact fits
  | cons event rest ih =>
      simp only [appendRows]
      split
      · exact fits
      · rename_i enough
        apply ih
        rw [List.length_append]
        exact Nat.le_of_not_lt enough

theorem logsReply_eq (structured : Bool) (events : List LogEvent) :
    logsReply structured events =
      (fittingEvents structured 0 events).flatMap (logRow structured) := by
  unfold logsReply
  rw [appendRows_eq]
  rfl

theorem logsReply_length_le (structured : Bool) (events : List LogEvent) :
    (logsReply structured events).length ≤ maxLogsReply :=
  appendRows_length_le structured (Nat.zero_le _) events

/-! ### Rows of clean events -/

theorem CleanText.free {limit : Nat} {value : Bytes} (clean : CleanText limit value)
    {separator : UInt8} (control : separator.toNat < 32) : separator ∉ value := by
  intro member
  have printable := clean.printable separator member
  omega

theorem decimalInt_free {separator : UInt8} (noDigit : isDigit separator = false)
    (noSign : separator ≠ 45) (value : Int) : separator ∉ decimalInt value := by
  unfold decimalInt
  split
  · intro member
    rcases List.mem_cons.mp member with sign | digit
    · exact noSign sign
    · exact ByteText.not_mem_decimal noDigit _ digit
  · exact ByteText.not_mem_decimal noDigit _

def rowBody (structured : Bool) (event : LogEvent) : Bytes :=
  decimal event.sequence ++ tab :: (decimal event.level.value.toNat ++ tab ::
    (decimalInt event.time.toInt ++ tab :: (event.code ++ tab :: (event.message ++
      if structured then
        tab :: (event.context.address ++ tab :: (event.context.dnsType ++ tab ::
          (event.context.rule ++ tab :: event.context.action)))
      else []))))

theorem logRow_eq (structured : Bool) (event : LogEvent) :
    logRow structured event = rowBody structured event ++ [newline] := by
  simp [logRow, rowBody]

theorem rowBody_sequence (structured : Bool) (event : LogEvent) :
    (rowBody structured event).takeWhile (· != tab) = decimal event.sequence :=
  ByteText.takeWhile_field (ByteText.not_mem_decimal (by decide) _) _

theorem rowBody_free (structured : Bool) {event : LogEvent}
    (clean : CleanEvent event) : newline ∉ rowBody structured event := by
  have control : newline.toNat < 32 := by decide
  have digits : ∀ value, newline ∉ decimal value :=
    ByteText.not_mem_decimal (by decide)
  have time : newline ∉ decimalInt event.time.toInt :=
    decimalInt_free (by decide) (by decide) _
  have bar : newline ≠ tab := by decide
  have code := clean.code.free control
  have message := clean.message.free control
  have address := clean.address.free control
  have dnsType := clean.dnsType.free control
  have rule := clean.rule.free control
  have action := clean.action.free control
  unfold rowBody
  cases structured with
  | true =>
      simp [digits, time, bar, code, message, address, dnsType, rule, action]
  | false =>
      simp [digits, time, bar, code, message]

theorem pieces_rows (structured : Bool) {events : List LogEvent}
    (clean : ∀ event ∈ events, CleanEvent event) :
    pieces newline (events.flatMap (logRow structured)) =
      events.map (rowBody structured) ++ [[]] := by
  induction events with
  | nil =>
      rfl
  | cons event rest ih =>
      rw [List.flatMap_cons, logRow_eq, List.append_assoc, List.singleton_append,
        ByteText.pieces_append_separator
          (rowBody_free structured (clean event List.mem_cons_self)),
        ih fun other member => clean other (List.mem_cons_of_mem event member)]
      rfl

theorem rowSequences_rows (structured : Bool) {events : List LogEvent}
    (clean : ∀ event ∈ events, CleanEvent event) :
    rowSequences (events.flatMap (logRow structured)) = events.map (·.sequence) := by
  unfold rowSequences
  rw [pieces_rows structured clean, List.dropLast_concat, List.map_map]
  apply List.map_congr_left
  intro event member
  rw [Function.comp_apply, rowBody_sequence, ByteText.digitsValue_decimal]

def rowFields (structured : Bool) (event : LogEvent) : List Bytes :=
  [decimal event.sequence, decimal event.level.value.toNat,
    decimalInt event.time.toInt, event.code, event.message] ++
    if structured then
      [event.context.address, event.context.dnsType, event.context.rule,
        event.context.action]
    else []

theorem pieces_rowBody (structured : Bool) {event : LogEvent}
    (clean : CleanEvent event) :
    pieces tab (rowBody structured event) = rowFields structured event := by
  have control : tab.toNat < 32 := by decide
  have digits : ∀ value, tab ∉ decimal value :=
    ByteText.not_mem_decimal (by decide)
  have time : tab ∉ decimalInt event.time.toInt :=
    decimalInt_free (by decide) (by decide) _
  have code := clean.code.free control
  have message := clean.message.free control
  have address := clean.address.free control
  have dnsType := clean.dnsType.free control
  have rule := clean.rule.free control
  have action := clean.action.free control
  unfold rowBody rowFields
  rw [ByteText.pieces_append_separator (digits _),
    ByteText.pieces_append_separator (digits _),
    ByteText.pieces_append_separator time, ByteText.pieces_append_separator code]
  cases structured with
  | true =>
      simp only [if_true]
      rw [ByteText.pieces_append_separator message,
        ByteText.pieces_append_separator address,
        ByteText.pieces_append_separator dnsType,
        ByteText.pieces_append_separator rule, ByteText.pieces_of_free action]
      rfl
  | false =>
      simp only [Bool.false_eq_true, if_false, List.append_nil]
      rw [ByteText.pieces_of_free message]

/-! ### Clean rows fit -/

theorem decimalInt_length_le (value : Int64) : (decimalInt value.toInt).length ≤ 21 := by
  have low := Int64.le_toInt value
  have high := Int64.toInt_lt value
  have digits : (decimal value.toInt.natAbs).length ≤ 20 :=
    ByteText.decimal_length_le (by decide) (by omega)
  unfold decimalInt
  split
  · rw [List.length_cons]
    omega
  · omega

theorem logRow_length_le (structured : Bool) {event : LogEvent}
    (clean : CleanEvent event) (counted : event.sequence ≤ maxUint64) :
    (logRow structured event).length ≤ 32768 := by
  have sequence : (decimal event.sequence).length ≤ 20 := by
    apply ByteText.decimal_length_le (by decide)
    unfold maxUint64 at counted
    omega
  have level : (decimal event.level.value.toNat).length ≤ 20 := by
    apply ByteText.decimal_length_le (by decide)
    have bounded := event.level.value.isLt
    omega
  have time := decimalInt_length_le event.time
  have code := clean.code.short
  have message := clean.message.short
  have address := clean.address.short
  have dnsType := clean.dnsType.short
  have rule := clean.rule.short
  have action := clean.action.short
  unfold maxCode at code
  unfold maxMessage at message address dnsType rule action
  unfold logRow
  cases structured with
  | true =>
      simp only [if_true, List.length_append, List.length_cons, List.length_nil]
      omega
  | false =>
      simp only [Bool.false_eq_true, if_false, List.length_append, List.length_cons,
        List.length_nil]
      omega

theorem fittingEvents_ne_nil (structured : Bool) {event : LogEvent}
    {rest : List LogEvent} (clean : CleanEvent event)
    (counted : event.sequence ≤ maxUint64) :
    fittingEvents structured 0 (event :: rest) ≠ [] := by
  have short := logRow_length_le structured clean counted
  simp only [fittingEvents]
  rw [if_neg (by unfold maxLogsReply; omega)]
  exact List.cons_ne_nil _ _

/-! ### Requests -/

theorem readSequence_decimal {after : Nat} (counted : after ≤ maxUint64) :
    readSequence (decimal after) = .ok after := by
  unfold readSequence
  rw [if_neg (ByteText.decimal_ne_nil after), ByteText.readDecimal_decimal counted]
  rfl

theorem readWait_decimal {waitMs : Nat} (bounded : waitMs ≤ 1000) :
    readWait (decimal waitMs) = .ok waitMs := by
  unfold readWait
  rw [ByteText.readDecimal_decimal (by unfold maxUint64; omega)]
  simp only
  rw [rejectIf_of_not (Nat.not_lt.mpr bounded), ok_bind]
  rfl

theorem readLevel_decimal {level : Level} (known : level.value.toNat ≤ 3) :
    readLevel (decimal level.value.toNat) = .ok level := by
  unfold readLevel
  rw [ByteText.readDecimal_decimal (by unfold maxUint64; omega)]
  simp only
  rw [rejectIf_of_not (Nat.not_lt.mpr known), ok_bind, pure_eq_ok,
    BitVec.ofNat_toNat, BitVec.setWidth_eq]

def logsFields (request : LogsRequest) : Bytes :=
  decimal request.after ++ tab :: (decimal request.waitMs ++ tab ::
    decimal request.level.value.toNat)

theorem logsPayload_eq (request : LogsRequest) :
    logsPayload request =
      logsFields request ++ if request.structured then structuredSuffix else [] := by
  simp [logsPayload, logsFields]

theorem readLogsFields_payload {request : LogsRequest} (screen : Level)
    (counted : request.after ≤ maxUint64) (bounded : request.waitMs ≤ 1000)
    (known : request.level.value.toNat ≤ 3) :
    readLogsFields screen request.structured (logsFields request) = .ok request := by
  have noTab : ∀ value, tab ∉ decimal value :=
    ByteText.not_mem_decimal (by decide)
  unfold readLogsFields logsFields
  simp only [ByteText.takeWhile_field (noTab request.after),
    readSequence_decimal counted, ok_bind, List.drop_left,
    ByteText.takeWhile_field (noTab request.waitMs), readWait_decimal bounded,
    readLevel_decimal known, pure_eq_ok]

theorem logsFields_plain (request : LogsRequest) :
    structuredSuffix.isSuffixOf (logsFields request) = false := by
  apply Bool.eq_false_iff.mpr
  intro ends
  obtain ⟨front, whole⟩ := List.isSuffixOf_iff_suffix.mp ends
  have level : tab ∉ decimal request.level.value.toNat :=
    ByteText.not_mem_decimal (by decide) _
  have digits := ByteText.decimal_all_isDigit request.level.value.toNat
  unfold logsFields structuredSuffix at whole
  have suffixFree : tab ∉ text "structured" := by decide
  rw [← List.cons_append, ← List.append_assoc] at whole
  obtain ⟨_, same⟩ := ByteText.separator_append_inj suffixFree level whole
  rw [← same] at digits
  revert digits
  decide

theorem parseLogsRequest_payload {request : LogsRequest} (screen : Level)
    (counted : request.after ≤ maxUint64) (bounded : request.waitMs ≤ 1000)
    (known : request.level.value.toNat ≤ 3) :
    parseLogsRequest screen (logsPayload request) = .ok request := by
  have read := readLogsFields_payload screen counted bounded known
  unfold parseLogsRequest
  rw [logsPayload_eq]
  cases kind : request.structured with
  | true =>
      rw [kind] at read
      simp only [if_true]
      have ends : structuredSuffix.isSuffixOf
          (logsFields request ++ structuredSuffix) = true :=
        List.isSuffixOf_iff_suffix.mpr (List.suffix_append _ _)
      have size : structuredSuffix.length = 11 := by decide
      rw [if_pos ends, List.length_append, size, Nat.add_sub_cancel, List.take_left]
      exact read
  | false =>
      rw [kind] at read
      simp only [Bool.false_eq_true, if_false, List.append_nil]
      rw [if_neg (by rw [logsFields_plain]; exact Bool.false_ne_true)]
      exact read

end NativeDNS
