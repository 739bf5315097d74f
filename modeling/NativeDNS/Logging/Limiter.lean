/-
What the limited writes of a log say.

The calls between two clears are recorded beside the logger, with the write
each goes on to make.  While their keys fit into the map, its entry for a key
is what the calls of that key amount to, so nothing that was held back is lost.
-/
import NativeDNS.Library.Suppression
import NativeDNS.Logging.Sink
import Mathlib.Data.List.Dedup
import Mathlib.Data.List.Perm.Subperm

namespace NativeDNS

open ByteText (text decimal)

/-- A limited write at an enabled level: its cut key, the clock it read, its
interval and message, and the write it goes on to make. -/
structure LimitedCall where
  key : Bytes
  now : Int
  interval : Int
  message : Bytes
  written : Option WriteCall

/-- A logger, and the limited calls since the display was last cleared; the
code does not keep them. -/
structure LimitedWorld where
  system : LogSystem := {}
  calls : List LimitedCall := []

def addedWrite (before after : LogSystem) : Option WriteCall :=
  if before.calls.length < after.calls.length then after.calls.getLast? else none

def LimitedWorld.callsAfter (world : LimitedWorld) (after : LogSystem) :
    LogAction → List LimitedCall
  | .writeLimited now key interval call =>
      if world.system.logger.enabled call.level = true ∧ 0 ≤ interval then
        world.calls ++
          [{ key := key.take maxKey
             now := now
             interval := interval
             message := call.message
             written := addedWrite world.system after }]
      else world.calls
  | .clearDisplay => []
  | _ => world.calls

/-- One step of the logger.  The calls between two clears do not reach 2^64
either. -/
def performLimited (world : LimitedWorld) (action : LogAction) :
    Option LimitedWorld :=
  if world.calls.length < maxUint64 then
    (performLogging world.system action).map fun after =>
      { system := after
        calls := world.callsAfter after action }
  else none

abbrev LimitedReached (capacity : Nat) : LimitedWorld → Prop :=
  Transition.Reachable
    (fun world => world = { system := { logger := { capacity := capacity } } })
    fun before after => ∃ action, performLimited before action = some after

/-! ### What the writes say -/

def suppressedSince (key : Bytes) (calls : List LimitedCall) : Nat :=
  ((calls.filter fun call => call.key = key).reverse.takeWhile
    (·.written.isNone)).length

def countedMessage (suppressed : Nat) (message : Bytes) : Bytes :=
  if suppressed = 0 then message
  else text "suppressed=" ++ decimal suppressed ++ text " " ++ message

/-- The first call of a key is written, the written ones keep the interval, and
each says how many calls were suppressed before it. -/
structure FaithfulWrites (calls : List LimitedCall) : Prop where
  first : ∀ before call after, calls = before ++ call :: after →
    (∀ other ∈ before, other.key ≠ call.key) → call.written ≠ none
  spaced : calls.Pairwise fun first second =>
    first.key = second.key → first.written ≠ none → second.written ≠ none →
      first.now + first.interval ≤ second.now
  counted : ∀ before call after written, calls = before ++ call :: after →
    call.written = some written →
      written.message =
        countedMessage (suppressedSince call.key before) call.message

/-! ### The map -/

section Map

variable {repeated : OrderedMap Bytes RepeatedEvent}

theorem oldestRepeated_mem {entries : List (Bytes × RepeatedEvent)}
    {oldest : Bytes × RepeatedEvent}
    (found : oldestRepeated entries = some oldest) : oldest ∈ entries := by
  induction entries with
  | nil =>
      cases found
  | cons entry rest ih =>
      simp only [oldestRepeated] at found
      split at found
      · cases found
        exact List.mem_cons_self
      · rename_i later isLater
        split at found
        · cases found
          exact List.mem_cons_of_mem _ (ih isLater)
        · cases found
          exact List.mem_cons_self

theorem oldestRepeated_ne_none {entries : List (Bytes × RepeatedEvent)}
    (nonempty : entries ≠ []) : oldestRepeated entries ≠ none := by
  cases entries with
  | nil =>
      exact absurd rfl nonempty
  | cons entry rest =>
      simp only [oldestRepeated]
      split
      · exact fun impossible => (by cases impossible)
      · split
        · exact fun impossible => (by cases impossible)
        · exact fun impossible => (by cases impossible)

theorem trimRepeated_size (small : repeated.size ≤ maxRepeated) :
    (trimRepeated repeated).size < maxRepeated := by
  unfold trimRepeated
  split
  · rename_i full
    split
    · rename_i key event oldest
      have present : repeated.find? key = some event :=
        OrderedMap.find?_eq_some_iff.mpr (oldestRepeated_mem oldest)
      have smaller := OrderedMap.size_erase present
      omega
    · rename_i missing
      refine absurd missing (oldestRepeated_ne_none ?_)
      intro empty
      have zero : repeated.size = 0 := by
        rw [OrderedMap.size, empty]
        rfl
      rw [zero] at full
      exact absurd full (by decide)
  · omega

theorem trimRepeated_find?_none {key : Bytes} (missing : repeated.find? key = none) :
    (trimRepeated repeated).find? key = none := by
  unfold trimRepeated
  split
  · split
    · rw [OrderedMap.find?_erase, missing]
      exact ite_self none
    · exact missing
  · exact missing

theorem admitRepeated_size (small : repeated.size ≤ maxRepeated) (now : Int)
    (key : Bytes) (interval : Int) :
    (admitRepeated repeated now key interval).1.size ≤ maxRepeated := by
  unfold admitRepeated
  cases found : repeated.find? key with
  | some event =>
      dsimp only
      split
      · rw [OrderedMap.size_insert_of_some found]
        exact small
      · rw [OrderedMap.size_insert_of_some found]
        exact small
  | none =>
      dsimp only
      rw [OrderedMap.size_insert (trimRepeated_find?_none found)]
      exact trimRepeated_size small

/-- The entry that the calls amount to, as the map holds it. -/
def heldEvent (entry : Suppression.Entry) : RepeatedEvent :=
  { next := entry.next
    suppressed := UInt64.ofNat entry.suppressed }

/-- With room for its key, the locked section decides as the entry of the key
does and changes that entry only. -/
theorem admitRepeated_eq {now : Int} {key : Bytes} {interval : Int}
    (room : repeated.find? key = none → repeated.size < maxRepeated)
    {entry : Option Suppression.Entry}
    (held : repeated.find? key = entry.map heldEvent) :
    admitRepeated repeated now key interval =
      (repeated.insert key (heldEvent (Suppression.pass entry now interval).1),
        (Suppression.pass entry now interval).2.map UInt64.ofNat) := by
  unfold admitRepeated
  cases entry with
  | none =>
      rw [Option.map_none] at held
      have untrimmed : trimRepeated repeated = repeated :=
        if_neg (Nat.not_le_of_lt (room held))
      rw [held]
      dsimp only
      rw [untrimmed]
      rfl
  | some entry =>
      rw [Option.map_some] at held
      rw [held]
      unfold Suppression.pass
      dsimp only [heldEvent]
      split
      · rw [Option.map_none, UInt64.ofNat_add]
        rfl
      · rfl

end Map

/-! ### The map and the calls behind a step -/

section Steps

variable {system after : LogSystem}

def LogSystem.repeatedAfter (system : LogSystem) :
    LogAction → OrderedMap Bytes RepeatedEvent
  | .writeLimited now key interval call =>
      if system.logger.enabled call.level = true ∧ 0 ≤ interval then
        (admitRepeated system.repeated now (key.take maxKey) interval).1
      else system.repeated
  | .clearDisplay => OrderedMap.empty
  | _ => system.repeated

theorem storeWritten_repeated (system : LogSystem) (time : Int64)
    (call : WriteCall) :
    (system.storeWritten time call).repeated = system.repeated := by
  unfold LogSystem.storeWritten
  split
  · rfl
  · rfl

theorem finishTask_repeated {time : Int64} {rest : List FileTask}
    {task : FileTask} {outcome : FileOutcome}
    (finished : system.finishTask time rest task outcome = some after) :
    after.repeated = system.repeated := by
  cases outcome with
  | done =>
      cases task with
      | event _ | configure _ | clear | flush | stop =>
          cases finished
          rfl
  | failed what =>
      cases task with
      | event _ | configure _ | clear =>
          simp only [LogSystem.finishTask] at finished
          split at finished
          · cases finished
            rfl
          · cases finished
      | flush | stop =>
          cases finished

theorem performLogging_repeated {action : LogAction}
    (performed : performLogging system action = some after) :
    after.repeated = system.repeatedAfter action := by
  unfold performLogging at performed
  split at performed
  case isFalse =>
    cases performed
  case isTrue =>
    cases action with
    | write time call =>
        cases performed
        exact storeWritten_repeated system time call
    | writeLimited now key interval call =>
        simp only at performed
        unfold LogSystem.repeatedAfter
        split at performed
        · rename_i accepted
          cases performed
          exact (if_pos accepted).symm
        · rename_i refused
          cases performed
          exact (if_neg refused).symm
    | makeCall position time =>
        obtain ⟨call, _, same⟩ := Option.map_eq_some_iff.mp performed
        rw [← same]
        exact storeWritten_repeated _ time call
    | offer position =>
        obtain ⟨event, _, same⟩ := Option.map_eq_some_iff.mp performed
        rw [← same]
        unfold LogSystem.offerEvent
        split
        · split
          · rfl
          · rfl
        · rfl
    | report position time =>
        obtain ⟨dropped, _, same⟩ := Option.map_eq_some_iff.mp performed
        rw [← same]
        rfl
    | setDisplayLevel level | configureFile settings =>
        simp only at performed
        split at performed
        · cases performed
          rfl
        · cases performed
          rfl
    | clearFile | flushFile | stop | clearDisplay =>
        cases performed
        rfl
    | runTask time outcome =>
        simp only at performed
        split at performed
        · split at performed
          · cases performed
          · exact finishTask_repeated performed
        · cases performed

theorem addedWrite_limited {now interval : Int} {key : Bytes} {call : WriteCall}
    (accepted : system.logger.enabled call.level = true ∧ 0 ≤ interval)
    (performed : performLogging system (.writeLimited now key interval call) =
      some after) :
    addedWrite system after =
      (admitRepeated system.repeated now (key.take maxKey) interval).2.map
        fun suppressed =>
          { call with message := limitedMessage suppressed call.message } := by
  have counted := performLogging_counted performed
  unfold performLogging at performed
  rw [if_pos counted] at performed
  dsimp only at performed
  rw [if_pos accepted] at performed
  cases performed
  unfold addedWrite
  cases admitted :
      (admitRepeated system.repeated now (key.take maxKey) interval).2 with
  | none =>
      dsimp only
      rw [if_neg (Nat.lt_irrefl _)]
      rfl
  | some suppressed =>
      dsimp only
      rw [if_pos, List.getLast?_concat]
      · rfl
      · rw [List.length_append, List.length_singleton]
        exact Nat.lt_succ_self _

end Steps

/-! ### The invariant of a run -/

def LimitedCall.call (limited : LimitedCall) : Suppression.Call Bytes where
  key := limited.key
  now := limited.now
  interval := limited.interval
  emitted := limited.written.isSome

def distinctKeys (calls : List LimitedCall) : List Bytes :=
  (calls.map (·.key)).dedup

/-- Nothing that was held back is lost. -/
structure LimitedWorld.Tracked (world : LimitedWorld) : Prop where
  honest : Suppression.Honest (world.calls.map (·.call))
  held : ∀ key, world.system.repeated.find? key =
    (Suppression.ledger key (world.calls.map (·.call))).map heldEvent
  counted : ∀ before call after written, world.calls = before ++ call :: after →
    call.written = some written →
      written.message =
        countedMessage (suppressedSince call.key before) call.message

structure LimitedWorld.Sound (world : LimitedWorld) : Prop where
  small : world.system.repeated.size ≤ maxRepeated
  tracked : (distinctKeys world.calls).length ≤ maxRepeated → world.Tracked

section Invariant

variable {world : LimitedWorld} {calls : List LimitedCall}

theorem suppressedSince_eq (key : Bytes) (calls : List LimitedCall) :
    suppressedSince key calls =
      Suppression.unreported key (calls.map (·.call)) := by
  unfold suppressedSince Suppression.unreported Suppression.ofKey
  rw [List.filter_map, ← List.map_reverse, List.takeWhile_map, List.length_map]
  congr 2
  funext call
  change _ = !call.written.isSome
  cases call.written with
  | none => rfl
  | some _ => rfl

theorem suppressedSince_le (key : Bytes) (calls : List LimitedCall) :
    suppressedSince key calls ≤ calls.length := by
  unfold suppressedSince
  refine Nat.le_trans (List.takeWhile_sublist _).length_le ?_
  rw [List.length_reverse]
  exact List.length_filter_le _ _

theorem limitedMessage_ofNat {suppressed : Nat} (small : suppressed < 2 ^ 64)
    (message : Bytes) :
    limitedMessage (UInt64.ofNat suppressed) message =
      countedMessage suppressed message := by
  have exact_count : (UInt64.ofNat suppressed).toNat = suppressed :=
    UInt64.toNat_ofNat_of_lt' small
  have zero_iff : UInt64.ofNat suppressed = 0 ↔ suppressed = 0 := by
    rw [← UInt64.toNat_inj, exact_count]
    rfl
  unfold limitedMessage countedMessage
  rw [exact_count]
  by_cases zero : suppressed = 0
  · rw [if_pos (zero_iff.mpr zero), if_pos zero]
  · rw [if_neg (mt zero_iff.mp zero), if_neg zero]

theorem length_le_distinctKeys {keys : List Bytes} (nodup : keys.Nodup)
    (among : keys ⊆ calls.map (·.key)) :
    keys.length ≤ (distinctKeys calls).length := by
  refine (nodup.subperm ?_).length_le
  intro key member
  exact List.mem_dedup.mpr (among member)

theorem distinctKeys_front (call : LimitedCall) :
    (distinctKeys calls).length ≤ (distinctKeys (calls ++ [call])).length := by
  refine length_le_distinctKeys (List.nodup_dedup _) ?_
  intro key member
  rw [List.map_append]
  exact List.mem_append_left _ (List.mem_dedup.mp member)

theorem LimitedWorld.Tracked.room (tracked : world.Tracked) {call : LimitedCall}
    (missing : world.system.repeated.find? call.key = none)
    (fits : (distinctKeys (world.calls ++ [call])).length ≤ maxRepeated) :
    world.system.repeated.size < maxRepeated := by
  have keys : (call.key :: world.system.repeated.entries.map Prod.fst).Nodup := by
    refine List.nodup_cons.mpr ⟨?_, ?_⟩
    · intro member
      obtain ⟨entry, inside, same⟩ := List.mem_map.mp member
      exact OrderedMap.find?_eq_none_iff.mp missing entry inside same
    · exact (List.pairwise_map.mpr world.system.repeated.sorted).imp ne_of_lt
  have among : (call.key :: world.system.repeated.entries.map Prod.fst) ⊆
      (world.calls ++ [call]).map (·.key) := by
    intro key member
    rw [List.map_append]
    rcases List.mem_cons.mp member with new | old
    · rw [new]
      exact List.mem_append_right _ List.mem_cons_self
    · obtain ⟨entry, inside, same⟩ := List.mem_map.mp old
      have found := OrderedMap.find?_eq_some_iff.mpr inside
      rw [tracked.held] at found
      obtain ⟨held, isLedger, _⟩ := Option.map_eq_some_iff.mp found
      obtain ⟨last, isLast, _⟩ := Option.map_eq_some_iff.mp isLedger
      obtain ⟨known, named, _⟩ := Suppression.mem_lastEmitted isLast
      obtain ⟨limited, wasCalled, lastEq⟩ := List.mem_map.mp known
      refine List.mem_append_left _ (List.mem_map.mpr ⟨limited, wasCalled, ?_⟩)
      rw [← same, ← named, ← lastEq]
      rfl
  have counted := length_le_distinctKeys keys among
  rw [List.length_cons, List.length_map] at counted
  exact Nat.lt_of_lt_of_le (Nat.lt_of_succ_le counted) fits

theorem LimitedWorld.Tracked.limited (tracked : world.Tracked)
    (few : world.calls.length < maxUint64) {after : LogSystem}
    {now interval : Int} {key : Bytes} {call : WriteCall}
    (accepted : world.system.logger.enabled call.level = true ∧ 0 ≤ interval)
    (performed : performLogging world.system
      (.writeLimited now key interval call) = some after)
    (fits : (distinctKeys (world.callsAfter after
      (.writeLimited now key interval call))).length ≤ maxRepeated) :
    LimitedWorld.Tracked
      { system := after
        calls := world.callsAfter after
          (.writeLimited now key interval call) } := by
  unfold LimitedWorld.callsAfter at fits ⊢
  dsimp only at fits ⊢
  rw [if_pos accepted] at fits ⊢
  have room : world.system.repeated.find? (key.take maxKey) = none →
      world.system.repeated.size < maxRepeated :=
    fun missing => tracked.room missing fits
  have decided := @admitRepeated_eq _ now _ interval room _ (tracked.held _)
  have map := performLogging_repeated performed
  have written := addedWrite_limited accepted performed
  unfold LogSystem.repeatedAfter at map
  dsimp only at map
  rw [if_pos accepted, decided] at map
  rw [decided] at written
  obtain ⟨new, isNew⟩ : ∃ new : LimitedCall, new =
      { key := key.take maxKey
        now := now
        interval := interval
        message := call.message
        written := addedWrite world.system after } := ⟨_, rfl⟩
  have named : new.call.key = key.take maxKey := by rw [isNew]; rfl
  have time : new.call.now = now ∧ new.call.interval = interval := by
    rw [isNew]
    exact ⟨rfl, rfl⟩
  have emitted : new.call.emitted =
      (Suppression.pass (Suppression.ledger (key.take maxKey)
        (world.calls.map (·.call))) now interval).2.isSome := by
    rw [isNew]
    change (addedWrite world.system after).isSome = _
    rw [written, Option.isSome_map, Option.isSome_map]
  rw [← isNew]
  refine ⟨?_, ?_, ?_⟩
  · change Suppression.Honest ((world.calls ++ [new]).map (·.call))
    rw [List.map_append]
    refine tracked.honest.snoc now interval time accepted.2 ?_
    rw [named]
    exact emitted
  · intro other
    change after.repeated.find? other =
      (Suppression.ledger other ((world.calls ++ [new]).map (·.call))).map
        heldEvent
    rw [map, OrderedMap.find?_insert, List.map_append]
    by_cases same : key.take maxKey = other
    · rw [if_pos same, ← same, List.map_singleton,
        Suppression.ledger_snoc now interval named time emitted,
        Option.map_some]
    · rw [if_neg same, tracked.held, List.map_singleton,
        Suppression.ledger_snoc_other (by rw [named]; exact same)]
  · intro before last later made split isWritten
    rcases Lists.snoc_split split with ⟨_, whole, same⟩ | ⟨init, _, earlier⟩
    · subst same
      rw [isNew] at isWritten
      change addedWrite world.system after = some made at isWritten
      rw [written, Option.map_eq_some_iff] at isWritten
      obtain ⟨suppressed, passed, madeEq⟩ := isWritten
      obtain ⟨number, decidedNumber, exact_number⟩ :=
        Option.map_eq_some_iff.mp passed
      have reported := tracked.honest.reported decidedNumber
      rw [← suppressedSince_eq] at reported
      have small := suppressedSince_le (key.take maxKey) world.calls
      have bounded : number < 2 ^ 64 := by
        unfold maxUint64 at few
        omega
      rw [← madeEq, ← exact_number, ← whole, limitedMessage_ofNat bounded,
        reported, isNew]
    · exact tracked.counted before last init made earlier isWritten

theorem LimitedWorld.Sound.unchanged (sound : world.Sound) {system : LogSystem}
    (map : system.repeated = world.system.repeated) :
    LimitedWorld.Sound { system := system, calls := world.calls } where
  small := by
    change system.repeated.size ≤ _
    rw [map]
    exact sound.small
  tracked := by
    intro fits
    obtain ⟨honest, held, counted⟩ := sound.tracked fits
    refine ⟨honest, ?_, counted⟩
    change ∀ key, system.repeated.find? key = _
    rw [map]
    exact held

theorem LimitedWorld.sound_empty {system : LogSystem}
    (map : system.repeated = OrderedMap.empty) :
    LimitedWorld.Sound { system := system, calls := [] } where
  small := by
    change system.repeated.size ≤ _
    rw [map]
    exact Nat.zero_le _
  tracked := by
    intro _
    refine ⟨⟨?_, List.Pairwise.nil, ?_⟩, ?_, ?_⟩
    · intro before call after split
      cases before with
      | nil => cases split
      | cons _ _ => cases split
    · intro call member
      cases member
    · intro key
      change system.repeated.find? key = _
      rw [map]
      rfl
    · intro before call after written split
      cases before with
      | nil => cases split
      | cons _ _ => cases split

theorem LimitedWorld.Sound.step (sound : world.Sound) {action : LogAction}
    {after : LimitedWorld} (performed : performLimited world action = some after) :
    after.Sound := by
  unfold performLimited at performed
  split at performed
  case isFalse =>
    cases performed
  case isTrue few =>
    obtain ⟨system, moved, same⟩ := Option.map_eq_some_iff.mp performed
    have map := performLogging_repeated moved
    cases action with
    | writeLimited now key interval call =>
        by_cases accepted :
            world.system.logger.enabled call.level = true ∧ 0 ≤ interval
        · rw [← same]
          refine ⟨?_, ?_⟩
          · unfold LogSystem.repeatedAfter at map
            dsimp only at map
            rw [if_pos accepted] at map
            change system.repeated.size ≤ _
            rw [map]
            exact admitRepeated_size sound.small _ _ _
          · intro fits
            have front : (distinctKeys world.calls).length ≤ maxRepeated := by
              refine Nat.le_trans ?_ fits
              unfold LimitedWorld.callsAfter
              dsimp only
              rw [if_pos accepted]
              exact distinctKeys_front _
            exact (sound.tracked front).limited few accepted moved fits
        · unfold LogSystem.repeatedAfter at map
          dsimp only at map
          rw [if_neg accepted] at map
          have calls : world.callsAfter system
              (.writeLimited now key interval call) = world.calls :=
            if_neg accepted
          rw [← same, calls]
          exact sound.unchanged map
    | clearDisplay =>
        rw [← same]
        change system.repeated = OrderedMap.empty at map
        exact LimitedWorld.sound_empty map
    | write time call | makeCall position time | offer position
    | report position time | setDisplayLevel level | configureFile settings
    | clearFile | flushFile | stop | runTask time outcome =>
        rw [← same]
        exact sound.unchanged map

theorem limitedReached_sound {capacity : Nat}
    (reached : LimitedReached capacity world) : world.Sound := by
  induction reached with
  | start begins =>
      rw [begins]
      exact LimitedWorld.sound_empty rfl
  | next _ moved ih =>
      obtain ⟨action, performed⟩ := moved
      exact ih.step performed

theorem LimitedWorld.Tracked.faithful (tracked : world.Tracked) :
    FaithfulWrites world.calls where
  first := by
    intro before call after split fresh missing
    have emitted := tracked.honest.first (before.map (·.call)) call.call
      (after.map (·.call)) (by rw [split, List.map_append, List.map_cons]) (by
        intro other member
        obtain ⟨limited, inside, same⟩ := List.mem_map.mp member
        rw [← same]
        exact fresh limited inside)
    change call.written.isSome = true at emitted
    rw [missing] at emitted
    cases emitted
  spaced := by
    refine (List.pairwise_map.mp tracked.honest.spaced).imp ?_
    intro first second spaced same firstWritten secondWritten
    exact spaced same (Option.isSome_iff_ne_none.mpr firstWritten)
      (Option.isSome_iff_ne_none.mpr secondWritten)
  counted := tracked.counted

end Invariant

/-- In every run of a logger the map holds at most 256 keys.  While the calls
since the last clear have no more, every first call of a key is written, the
written calls of a key keep the interval, and each of them states how many were
suppressed before it; the record of a write carries its message. -/
theorem limitedReached_faithful {capacity : Nat} {world : LimitedWorld}
    (reached : LimitedReached capacity world) :
    world.system.repeated.size ≤ 256 ∧
      ((distinctKeys world.calls).length ≤ 256 → FaithfulWrites world.calls) ∧
      ∀ position time event,
        world.system.stored (.makeCall position time) = some event →
          ∃ written, world.system.calls[position]? = some written ∧
            event.message = sanitized maxMessage written.message := by
  have sound := limitedReached_sound reached
  refine ⟨sound.small, fun fits => (sound.tracked fits).faithful, ?_⟩
  intro position time event stored
  obtain ⟨written, pending, isEvent⟩ := Option.bind_eq_some_iff.mp stored
  refine ⟨written, pending, ?_⟩
  unfold LogSystem.writtenBy at isEvent
  split at isEvent
  · cases isEvent
    rfl
  · cases isEvent

def failingResolvers : List LogAction :=
  let call : WriteCall :=
    { level := .errorsOnly
      code := text "TIMEOUT"
      message := text "no answer"
      context := {} }
  [.writeLimited 0 (text "resolver-1") 100 call,
    .writeLimited 10 (text "resolver-1") 100 call,
    .makeCall 0 0,
    .writeLimited 20 (text "resolver-2") 100 call,
    .writeLimited 30 (text "resolver-1") 100 call,
    .writeLimited 110 (text "resolver-1") 100 call]

theorem limitedReached_faithful_resolvers :
    ∃ world, LimitedReached 2048 world ∧
      world.calls.map (fun call => call.written.map (·.message)) =
        [some (text "no answer"), none, some (text "no answer"), none,
          some (text "suppressed=2 no answer")] ∧
      FaithfulWrites world.calls := by
  have runs : (Transition.performAll performLimited
      { system := { logger := { capacity := 2048 } } }
        failingResolvers).isSome = true := by
    decide +kernel
  obtain ⟨world, ran⟩ := Option.isSome_iff_exists.mp runs
  have reached : LimitedReached 2048 world := by
    refine Transition.Reachable.performAll ?_ (.start rfl) ran
    intro state action after performed
    exact ⟨action, performed⟩
  have messages : (Transition.performAll performLimited
      { system := { logger := { capacity := 2048 } } } failingResolvers).map
        (fun world => world.calls.map fun call => call.written.map (·.message)) =
      some [some (text "no answer"), none, some (text "no answer"), none,
        some (text "suppressed=2 no answer")] := by
    decide +kernel
  have keys : (Transition.performAll performLimited
      { system := { logger := { capacity := 2048 } } } failingResolvers).map
        (fun world => (distinctKeys world.calls).length) = some 2 := by
    decide +kernel
  rw [ran] at messages keys
  have few : (distinctKeys world.calls).length = 2 := Option.some.inj keys
  exact ⟨world, reached, Option.some.inj messages,
    (limitedReached_faithful reached).2.1 (by rw [few]; decide)⟩

end NativeDNS
