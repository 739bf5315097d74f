/-
The reply cache of one snapshot: its key, its locked sections and its byte
accounting.

`cacheBytes` is decremented like the unsigned counter of the source, so that a
decrement below zero would wrap around; `wrapped` records whether that ever
happened.  The object a leader and its followers share is found by its index
in `objects`, and remembers the key it was created for.
-/
import NativeDNS.Router.Group
import NativeDNS.Wire.Lifetime
import NativeDNS.Rules.Options

namespace NativeDNS

open ByteText (text byte decimal)
open CheckedResult

structure CacheEntry where
  packet : Packet
  stored : Nat
  expires : Nat
  usedServerId : UInt32
  deriving DecidableEq

structure Pending where
  key : Bytes
  done : Bool := false
  packet : Packet := []
  usedServerId : UInt32 := 0
  errorCode : String := ""
  errorMessage : Bytes := []
  deriving DecidableEq

structure CacheState where
  cache : OrderedMap Bytes CacheEntry := OrderedMap.empty
  cacheBytes : Nat := 0
  wrapped : Bool := false
  pending : OrderedMap Bytes Nat := OrderedMap.empty
  objects : List Pending := []

def maxCacheEntries : Nat := 4096

def maxCacheBytes : Nat := 33554432

def maxPending : Nat := 256

def maxCacheTtl : Nat := 86400

def cacheKey (configured : Bool) (primary : Server) (request : Packet) : Bytes :=
  (if configured then text "configured:" else text "original:") ++
    (decimal (if configured then primary.id.toNat
      else primary.protocol.toNat) ++ byte '|' ::
    (networkRouteKey primary.route ++ byte '|' ::
    ((if configured then []
      else primary.ip ++ byte '|' :: (decimal primary.port.toNat ++ [byte '|'])) ++
    (0 :: 0 :: request.drop 2))))

def entrySize (item : Bytes × CacheEntry) : Nat :=
  item.2.packet.length + item.1.length

/-! ### Removing entries -/

def releaseBytes (amount : Nat) (state : CacheState) : CacheState :=
  { state with
    cacheBytes :=
      if amount ≤ state.cacheBytes then state.cacheBytes - amount
      else state.cacheBytes + 18446744073709551616 - amount
    wrapped := state.wrapped || decide (state.cacheBytes < amount) }

def dropEntry (item : Bytes × CacheEntry) (state : CacheState) : CacheState :=
  { releaseBytes (entrySize item) state with
    cache := state.cache.erase item.1 }

/-- The expiry sweep visits the entries in key order. -/
def sweepExpired (now : Nat) (state : CacheState) : CacheState :=
  state.cache.entries.foldl
    (fun state item =>
      if item.2.expires ≤ now then dropEntry item state else state)
    state

def oldestEntry : List (Bytes × CacheEntry) → Option (Bytes × CacheEntry)
  | [] => none
  | item :: rest =>
      match oldestEntry rest with
      | none => some item
      | some best =>
          if best.2.expires < item.2.expires then some best else some item

def evictFor (entryBytes : Nat) : Nat → CacheState → CacheState
  | 0, state => state
  | fuel + 1, state =>
      if state.cache.size ≥ maxCacheEntries ∨
          state.cacheBytes + entryBytes > maxCacheBytes then
        match oldestEntry state.cache.entries with
        | none => state
        | some oldest => evictFor entryBytes fuel (dropEntry oldest state)
      else state

/-! ### The locked sections -/

inductive Entered where
  | hit (entry : CacheEntry) (elapsedSeconds : Nat)
  | busy
  | follow (object : Nat)
  | lead (object : Nat)

/-- The lookup section: sweep, then hit, follow, reject or lead. -/
def enterCache (key : Bytes) (now : Nat) (state : CacheState) :
    CacheState × Entered :=
  let state := sweepExpired now state
  match state.cache.find? key with
  | some entry =>
      (state, .hit entry ((now - entry.stored) / nanosPerSecond % 4294967296))
  | none =>
      match state.pending.find? key with
      | some object => (state, .follow object)
      | none =>
          if state.pending.size ≥ maxPending then (state, .busy)
          else
            ({ state with
                pending := state.pending.insert key state.objects.length
                objects := state.objects ++ [{ key := key }] },
              .lead state.objects.length)

def storeReply (key : Bytes) (packet : Packet) (answer : DnsAnswer)
    (usedServerId : UInt32) (now : Nat) (state : CacheState) : CacheState :=
  if answer.cacheable then
    let entryBytes := packet.length + key.length
    let state := evictFor entryBytes state.cache.size state
    { state with
      cache := state.cache.insert key
        { packet := packet
          stored := now
          expires := now + min answer.cacheTtl maxCacheTtl * nanosPerSecond
          usedServerId := usedServerId }
      cacheBytes := state.cacheBytes + entryBytes }
  else state

/-- Mark the shared object done and take the key out of the pending map. -/
def finishPending (key : Bytes) (object : Nat) (outcome : Pending → Pending)
    (state : CacheState) : CacheState :=
  { state with
    objects := state.objects.modify object
      (fun pending => { outcome pending with done := true })
    pending := state.pending.erase key }

def completeSuccess (key : Bytes) (object : Nat) (packet : Packet)
    (answer : DnsAnswer) (usedServerId : UInt32) (now : Nat)
    (state : CacheState) : CacheState :=
  finishPending key object
    (fun pending =>
      { pending with
        packet := packet
        usedServerId := usedServerId })
    (storeReply key packet answer usedServerId now state)

/-- The code and message a failed leader leaves to its followers. -/
def pendingError : Thrown → Error
  | .error raised => raised
  | .exception what =>
      { code := "INTERNAL"
        message := what }

def completeFailure (key : Bytes) (object : Nat) (thrown : Thrown)
    (state : CacheState) : CacheState :=
  finishPending key object
    (fun pending =>
      { pending with
        errorCode := (pendingError thrown).code
        errorMessage := (pendingError thrown).message })
    state

/-! ### Byte accounting -/

/-- The counter is the size of all entries and has never wrapped. -/
structure Accounted (state : CacheState) : Prop where
  bytes : state.cacheBytes = state.cache.total entrySize
  unwrapped : state.wrapped = false

/-- The effect of removing entries: nothing else changes, and the accounting
is kept. -/
structure Shrinks (before after : CacheState) : Prop where
  pending : after.pending = before.pending
  objects : after.objects = before.objects
  entries : ∀ key entry, after.cache.find? key = some entry →
    before.cache.find? key = some entry
  bytes : after.cache.total entrySize ≤ before.cache.total entrySize
  size : after.cache.size ≤ before.cache.size
  accounted : Accounted before → Accounted after

theorem Shrinks.refl (state : CacheState) : Shrinks state state :=
  ⟨rfl, rfl, fun _ _ found => found, Nat.le_refl _, Nat.le_refl _, id⟩

theorem Shrinks.trans {first second third : CacheState}
    (before : Shrinks first second) (after : Shrinks second third) :
    Shrinks first third where
  pending := after.pending.trans before.pending
  objects := after.objects.trans before.objects
  entries := fun key entry found =>
    before.entries key entry (after.entries key entry found)
  bytes := Nat.le_trans after.bytes before.bytes
  size := Nat.le_trans after.size before.size
  accounted := fun accounted => after.accounted (before.accounted accounted)

theorem dropEntry_total {item : Bytes × CacheEntry} {state : CacheState}
    (present : state.cache.find? item.1 = some item.2) :
    (dropEntry item state).cache.total entrySize + entrySize item =
      state.cache.total entrySize :=
  OrderedMap.total_erase entrySize present

theorem dropEntry_shrinks {item : Bytes × CacheEntry} {state : CacheState}
    (present : state.cache.find? item.1 = some item.2) :
    Shrinks state (dropEntry item state) where
  pending := rfl
  objects := rfl
  entries := by
    intro key entry found
    simp only [dropEntry] at found
    by_cases same : item.1 = key
    · subst same
      rw [OrderedMap.find?_erase_self] at found
      cases found
    · rwa [OrderedMap.find?_erase_of_ne _ same] at found
  bytes := by
    have removed := dropEntry_total present
    omega
  size := OrderedMap.size_erase_le ..
  accounted := by
    intro accounted
    have removed := dropEntry_total present
    have bytes := accounted.bytes
    have enough : entrySize item ≤ state.cacheBytes := by
      omega
    constructor
    · have counter : (dropEntry item state).cacheBytes =
          state.cacheBytes - entrySize item := if_pos enough
      omega
    · have flag : (dropEntry item state).wrapped =
          (state.wrapped || decide (state.cacheBytes < entrySize item)) := rfl
      rw [flag, accounted.unwrapped, decide_eq_false (by omega)]
      rfl

/-! ### The expiry sweep -/

private def sweepStep (now : Nat) (state : CacheState)
    (item : Bytes × CacheEntry) : CacheState :=
  if item.2.expires ≤ now then dropEntry item state else state

private theorem sweepStep_shrinks {now : Nat} {state : CacheState}
    {item : Bytes × CacheEntry}
    (present : state.cache.find? item.1 = some item.2) :
    Shrinks state (sweepStep now state item) := by
  unfold sweepStep
  split
  · exact dropEntry_shrinks present
  · exact Shrinks.refl state

private theorem sweepStep_find?_of_ne {now : Nat} {state : CacheState}
    {item : Bytes × CacheEntry} {key : Bytes} (different : item.1 ≠ key) :
    (sweepStep now state item).cache.find? key = state.cache.find? key := by
  unfold sweepStep
  split
  · exact OrderedMap.find?_erase_of_ne _ different
  · rfl

/-- The sweep over a list of distinct cached items drops the expired ones
among them. -/
private theorem sweep_items {now : Nat} :
    ∀ {items : List (Bytes × CacheEntry)} {state : CacheState},
      items.Pairwise (fun left right => left.1 < right.1) →
      (∀ item ∈ items, state.cache.find? item.1 = some item.2) →
      Shrinks state (items.foldl (sweepStep now) state) ∧
        ∀ item ∈ items, item.2.expires ≤ now →
          (items.foldl (sweepStep now) state).cache.find? item.1 = none
  | [], state, _, _ => ⟨Shrinks.refl state, by simp⟩
  | item :: rest, state, sorted, present => by
      have parts := List.pairwise_cons.mp sorted
      have first : Shrinks state (sweepStep now state item) :=
        sweepStep_shrinks (present item List.mem_cons_self)
      have restPresent : ∀ other ∈ rest,
          (sweepStep now state item).cache.find? other.1 = some other.2 := by
        intro other member
        rw [sweepStep_find?_of_ne (parts.1 other member).ne]
        exact present other (List.mem_cons_of_mem item member)
      obtain ⟨later, dropped⟩ := sweep_items parts.2 restPresent
      refine ⟨first.trans later, ?_⟩
      intro other member expired
      rcases List.mem_cons.mp member with rfl | inRest
      · -- the first item is gone before the rest of the sweep
        cases found : ((other :: rest).foldl (sweepStep now)
            state).cache.find? other.1 with
        | none =>
            rfl
        | some entry =>
            have kept := later.entries _ _ found
            simp only [sweepStep, if_pos expired, dropEntry,
              OrderedMap.find?_erase_self] at kept
            cases kept
      · exact dropped other inRest expired

theorem sweepExpired_shrinks (now : Nat) (state : CacheState) :
    Shrinks state (sweepExpired now state) :=
  (sweep_items state.cache.sorted
    (fun _ member => OrderedMap.find?_eq_some_iff.mpr member)).1

theorem sweepExpired_fresh {now : Nat} {state : CacheState} {key : Bytes}
    {entry : CacheEntry}
    (found : (sweepExpired now state).cache.find? key = some entry) :
    now < entry.expires := by
  by_contra expired
  have before := (sweepExpired_shrinks now state).entries _ _ found
  have gone : (sweepExpired now state).cache.find? key = none :=
    (sweep_items state.cache.sorted
      (fun _ member => OrderedMap.find?_eq_some_iff.mpr member)).2
      (key, entry) (OrderedMap.find?_eq_some_iff.mp before)
      (Nat.le_of_not_lt expired)
  rw [gone] at found
  cases found

/-! ### Eviction and storing -/

theorem oldestEntry_mem :
    ∀ {entries : List (Bytes × CacheEntry)} {oldest : Bytes × CacheEntry},
      oldestEntry entries = some oldest → oldest ∈ entries
  | [], oldest, chosen => by cases chosen
  | item :: rest, oldest, chosen => by
      unfold oldestEntry at chosen
      split at chosen
      · cases chosen
        exact List.mem_cons_self
      · rename_i best bestEq
        split at chosen
        · cases chosen
          exact List.mem_cons_of_mem item (oldestEntry_mem bestEq)
        · cases chosen
          exact List.mem_cons_self

theorem oldestEntry_eq_none {entries : List (Bytes × CacheEntry)}
    (chosen : oldestEntry entries = none) : entries = [] := by
  cases entries with
  | nil =>
      rfl
  | cons item rest =>
      unfold oldestEntry at chosen
      split at chosen
      · cases chosen
      · split at chosen <;> cases chosen

theorem evictFor_shrinks (entryBytes : Nat) :
    ∀ (fuel : Nat) (state : CacheState),
      Shrinks state (evictFor entryBytes fuel state)
  | 0, state => Shrinks.refl state
  | fuel + 1, state => by
      unfold evictFor
      split
      · split
        · exact Shrinks.refl state
        · rename_i oldest chosen
          have present : state.cache.find? oldest.1 = some oldest.2 :=
            OrderedMap.find?_eq_some_iff.mpr (oldestEntry_mem chosen)
          exact (dropEntry_shrinks present).trans
            (evictFor_shrinks entryBytes fuel (dropEntry oldest state))
      · exact Shrinks.refl state

/-- The state after eviction has room for the entry, or is empty. -/
def HasRoom (entryBytes : Nat) (state : CacheState) : Prop :=
  (state.cache.size < maxCacheEntries ∧
    state.cacheBytes + entryBytes ≤ maxCacheBytes) ∨ state.cache.entries = []

theorem evictFor_hasRoom {entryBytes : Nat} :
    ∀ {fuel : Nat} {state : CacheState}, state.cache.size ≤ fuel →
      HasRoom entryBytes (evictFor entryBytes fuel state)
  | 0, state, enough => by
      right
      exact List.length_eq_zero_iff.mp (Nat.le_zero.mp enough)
  | fuel + 1, state, enough => by
      unfold evictFor
      split
      · split
        · rename_i chosen
          exact Or.inr (oldestEntry_eq_none chosen)
        · rename_i oldest chosen
          have present : state.cache.find? oldest.1 = some oldest.2 :=
            OrderedMap.find?_eq_some_iff.mpr (oldestEntry_mem chosen)
          have smaller : (dropEntry oldest state).cache.size + 1 =
              state.cache.size := OrderedMap.size_erase present
          exact evictFor_hasRoom (by omega)
      · rename_i roomy
        rw [not_or] at roomy
        exact Or.inl ⟨by omega, by omega⟩

structure Stored (key : Bytes) (before after : CacheState) : Prop where
  pending : after.pending = before.pending
  objects : after.objects = before.objects
  accounted : Accounted before → Accounted after
  size : before.cache.size ≤ maxCacheEntries → after.cache.size ≤ maxCacheEntries
  bytes : Accounted before →
    before.cacheBytes ≤ maxCacheBytes ∨ before.cache.size ≤ 1 →
    after.cacheBytes ≤ maxCacheBytes ∨ after.cache.size ≤ 1
  entries : ∀ other entry, other ≠ key → after.cache.find? other = some entry →
    before.cache.find? other = some entry

theorem storeReply_stored {key : Bytes} {packet : Packet} {answer : DnsAnswer}
    {usedServerId : UInt32} {now : Nat} {state : CacheState}
    (free : state.cache.find? key = none) :
    Stored key state (storeReply key packet answer usedServerId now state) := by
  unfold storeReply
  split
  · let entryBytes := packet.length + key.length
    let evicted := evictFor entryBytes state.cache.size state
    have shrinks : Shrinks state evicted := evictFor_shrinks ..
    have room : HasRoom entryBytes evicted := evictFor_hasRoom (Nat.le_refl _)
    have freed : evicted.cache.find? key = none := by
      cases found : evicted.cache.find? key with
      | none =>
          rfl
      | some entry =>
          rw [shrinks.entries _ _ found] at free
          cases free
    refine
      { pending := shrinks.pending
        objects := shrinks.objects
        accounted := ?_
        size := ?_
        bytes := ?_
        entries := ?_ }
    · intro accounted
      have kept := shrinks.accounted accounted
      constructor
      · rw [OrderedMap.total_insert entrySize freed, ← kept.bytes]
        rfl
      · exact kept.unwrapped
    · intro _
      rw [OrderedMap.size_insert freed]
      rcases room with ⟨roomy, _⟩ | empty
      · exact roomy
      · have none : evicted.cache.size = 0 := List.length_eq_zero_iff.mpr empty
        rw [none]
        decide
    · intro _ _
      rcases room with ⟨_, roomy⟩ | empty
      · exact Or.inl roomy
      · right
        have none : evicted.cache.size = 0 := List.length_eq_zero_iff.mpr empty
        rw [OrderedMap.size_insert freed, none]
    · intro other entry different found
      rw [OrderedMap.find?_insert, if_neg (Ne.symm different)] at found
      exact shrinks.entries _ _ found
  · exact ⟨rfl, rfl, id, id, fun _ => id, fun _ _ _ found => found⟩

theorem storeReply_frame (key : Bytes) (packet : Packet) (answer : DnsAnswer)
    (usedServerId : UInt32) (now : Nat) (state : CacheState) :
    (storeReply key packet answer usedServerId now state).pending =
        state.pending ∧
      (storeReply key packet answer usedServerId now state).objects =
        state.objects := by
  unfold storeReply
  split
  · exact ⟨(evictFor_shrinks ..).pending, (evictFor_shrinks ..).objects⟩
  · exact ⟨rfl, rfl⟩

theorem storeReply_entry {key other : Bytes} {packet : Packet}
    {answer : DnsAnswer} {usedServerId : UInt32} {now : Nat}
    {state : CacheState} {entry : CacheEntry}
    (found : (storeReply key packet answer usedServerId now state).cache.find?
      other = some entry) :
    state.cache.find? other = some entry ∨
      (other = key ∧ answer.cacheable = true ∧
        entry =
          { packet := packet
            stored := now
            expires := now + min answer.cacheTtl maxCacheTtl * nanosPerSecond
            usedServerId := usedServerId }) := by
  unfold storeReply at found
  split at found
  · rename_i cacheable
    rw [OrderedMap.find?_insert] at found
    by_cases same : key = other
    · rw [if_pos same] at found
      exact Or.inr ⟨same.symm, cacheable, (Option.some.inj found).symm⟩
    · rw [if_neg same] at found
      exact Or.inl ((evictFor_shrinks _ _ _).entries _ _ found)
  · exact Or.inl found

theorem finishPending_object {key : Bytes} {object other : Nat}
    {outcome : Pending → Pending} {state : CacheState} :
    (finishPending key object outcome state).objects[other]? =
      if object = other then
        state.objects[other]?.map
          (fun pending => { outcome pending with done := true })
      else state.objects[other]? := by
  simp only [finishPending]
  rw [List.getElem?_modify]
  by_cases here : object = other
  · simp [here]
  · simp [here]

end NativeDNS
