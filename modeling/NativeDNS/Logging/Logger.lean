/-
The in-memory log of the core.

The file sink is not part of this model, except that `write` may find its queue
full and then records that itself.  The sequence counter is a natural number:
no process records 2^64 events.
-/
import NativeDNS.Model

namespace NativeDNS

open ByteText (text decimal)

structure LogContext where
  address : Bytes := []
  dnsType : Bytes := []
  rule : Bytes := []
  action : Bytes := []
  deriving DecidableEq

/-- An event; the time is in milliseconds since the epoch. -/
structure LogEvent where
  sequence : Nat
  time : Int64
  level : Level
  code : Bytes
  message : Bytes
  context : LogContext
  deriving DecidableEq

structure Logger where
  capacity : Nat := 2048
  sequence : Nat := 0
  events : List LogEvent := []
  displayLevel : Level := .debug
  fileEnabled : Bool := false
  fileLevel : Level := .normal

namespace Logger

/-- `level <= display_level || (file_enabled && level <= file_level)`. -/
def enabled (logger : Logger) (level : Level) : Bool :=
  !level.exceeds logger.displayLevel ||
    (logger.fileEnabled && !level.exceeds logger.fileLevel)

def nextEvent (logger : Logger) (time : Int64) (level : Level)
    (code message : Bytes) (context : LogContext) : LogEvent :=
  { sequence := logger.sequence + 1
    time := time
    level := level
    code := code
    message := message
    context := context }

def store (logger : Logger) (event : LogEvent) : Logger :=
  let events := logger.events ++ [event]
  { logger with
    sequence := event.sequence
    events := if logger.capacity < events.length then events.drop 1 else events }

end Logger

/-! ### Writing -/

/-- Replace control bytes by blanks, then cut. -/
def sanitized (limit : Nat) (value : Bytes) : Bytes :=
  (value.map fun character => if character < 32 then 32 else character).take limit

def maxMessage : Nat := 4096

def maxCode : Nat := 128

def LogContext.sanitized (context : LogContext) : LogContext :=
  { address := NativeDNS.sanitized maxMessage context.address
    dnsType := NativeDNS.sanitized maxMessage context.dnsType
    rule := NativeDNS.sanitized maxMessage context.rule
    action := NativeDNS.sanitized maxMessage context.action }

namespace Logger

def writtenEvent (logger : Logger) (time : Int64) (level : Level)
    (code message : Bytes) (context : LogContext) : LogEvent :=
  logger.nextEvent time level (sanitized maxCode code) (sanitized maxMessage message)
    context.sanitized

def failureEvent (logger : Logger) (time : Int64) (message : Bytes) : LogEvent :=
  logger.nextEvent time .errorsOnly (text "FILE_LOG_FAILED") message {}

def recordFileFailure (logger : Logger) (time : Int64) (message : Bytes) : Logger :=
  logger.store (logger.failureEvent time message)

/-- What `write` reports when it finds the file queue full. -/
def droppedMessage (dropped : UInt64) : Bytes :=
  text "file log queue is full; dropped events=" ++ decimal dropped.toNat

/-- A client may carry a number from a previous process. -/
def startAfter (logger : Logger) (after : Nat) : Nat :=
  if logger.sequence < after then 0 else after

def collect (logger : Logger) (level : Level) (after : Nat) : List LogEvent :=
  logger.events.filter fun event =>
    decide (after < event.sequence) && !event.level.exceeds level

def snapshot (logger : Logger) (level : Level) (after : Nat) : List LogEvent :=
  logger.collect level (logger.startAfter after)

def clearDisplay (logger : Logger) : Logger :=
  { logger with events := [] }

end Logger

/-! ### Stored events -/

/-- A text without control bytes and within a limit. -/
structure CleanText (limit : Nat) (value : Bytes) : Prop where
  printable : ∀ character ∈ value, 32 ≤ character.toNat
  short : value.length ≤ limit

theorem sanitized_clean (limit : Nat) (value : Bytes) :
    CleanText limit (sanitized limit value) where
  printable := by
    intro character member
    obtain ⟨original, _, replaced⟩ := List.mem_map.mp (List.mem_of_mem_take member)
    rw [← replaced]
    split
    · decide
    · rename_i visible
      exact UInt8.le_iff_toNat_le.mp (UInt8.not_lt.mp visible)
  short := by
    unfold sanitized
    rw [List.length_take]
    exact Nat.min_le_left _ _

/-- What every event stored by `write` satisfies. -/
structure CleanEvent (event : LogEvent) : Prop where
  code : CleanText maxCode event.code
  message : CleanText maxMessage event.message
  address : CleanText maxMessage event.context.address
  dnsType : CleanText maxMessage event.context.dnsType
  rule : CleanText maxMessage event.context.rule
  action : CleanText maxMessage event.context.action

theorem writtenEvent_clean (logger : Logger) (time : Int64) (level : Level)
    (code message : Bytes) (context : LogContext) :
    CleanEvent (logger.writtenEvent time level code message context) where
  code := sanitized_clean maxCode code
  message := sanitized_clean maxMessage message
  address := sanitized_clean maxMessage context.address
  dnsType := sanitized_clean maxMessage context.dnsType
  rule := sanitized_clean maxMessage context.rule
  action := sanitized_clean maxMessage context.action

theorem emptyText_clean (limit : Nat) : CleanText limit [] where
  printable := nofun
  short := Nat.zero_le limit

theorem droppedMessage_clean (dropped : UInt64) :
    CleanText maxMessage (Logger.droppedMessage dropped) where
  printable := by
    intro character member
    have literal : ∀ byte ∈ text "file log queue is full; dropped events=",
        32 ≤ byte.toNat := by
      decide +kernel
    rcases List.mem_append.mp member with front | digit
    · exact literal character front
    · have isOne := List.all_eq_true.mp (ByteText.decimal_all_isDigit _) _ digit
      have low := of_decide_eq_true (Bool.and_eq_true_iff.mp isOne).1
      omega
  short := by
    have digits : (decimal dropped.toNat).length ≤ 20 := by
      apply ByteText.decimal_length_le (by decide)
      have bounded := dropped.toNat_lt
      omega
    have front : (text "file log queue is full; dropped events=").length = 39 := by
      decide
    unfold Logger.droppedMessage maxMessage
    rw [List.length_append, front]
    omega

theorem failureCode_clean : CleanText maxCode (text "FILE_LOG_FAILED") where
  printable := by
    decide +kernel
  short := by
    decide

theorem failureEvent_clean (logger : Logger) (time : Int64) (dropped : UInt64) :
    CleanEvent (logger.failureEvent time (Logger.droppedMessage dropped)) where
  code := failureCode_clean
  message := droppedMessage_clean dropped
  address := emptyText_clean maxMessage
  dnsType := emptyText_clean maxMessage
  rule := emptyText_clean maxMessage
  action := emptyText_clean maxMessage

end NativeDNS
