/-
The locked sections that the connection pools share.

The TCP pool keeps at most four entries a key, the DoT pool four and the DoH pool
eight; otherwise their sections are the same code.  An entry is known by its
number, so that its connection or handle needs no place here.  What is said of an
entry is said with the keys that the entries were made for.
-/
import NativeDNS.Transport.Pool
import NativeDNS.Transport.SecureKey

namespace NativeDNS

/-- One pass of the acquiring loop of a pool with this many entries a key. -/
def acquireWithin (limit : Nat) (pool : Pool) (key : Bytes) (generation : UInt64) :
    Pool × Acquisition :=
  match limitIdlePool pool key with
  | (limited, .error error) => (limited, .refused error)
  | (limited, .ok ()) =>
      let ids := (limited.filed.find? key).getD []
      let known := { limited with filed := limited.filed.insert key ids }
      match ids.find? known.idle with
      | some id =>
          (known.setEntry id { known.entry id with busy := true }, .leased id)
      | none =>
          if ids.length < limit then
            let id := known.entries.length
            ({ entries :=
                known.entries ++ [{ busy := true, generation := generation }]
               filed := known.filed.insert key (ids ++ [id]) },
              .leased id)
          else (known, .full)

theorem acquireEntry_eq (pool : Pool) (key : Bytes) (generation : UInt64) :
    acquireEntry pool key generation = acquireWithin maxPoolEntries pool key generation :=
  rfl

/-- `dot_ ? 4 : 8`. -/
def maxSecureEntries (dot : Bool) : Nat :=
  if dot then 4 else 8

/-! ### Filed numbers -/

def Pool.ids (pool : Pool) (key : Bytes) : List Nat :=
  (pool.filed.find? key).getD []

theorem Pool.mem_ids {pool : Pool} {key : Bytes} {id : Nat} :
    id ∈ pool.ids key ↔ ∃ ids, (key, ids) ∈ pool.filed.entries ∧ id ∈ ids := by
  unfold Pool.ids
  cases found : pool.filed.find? key with
  | none =>
      constructor
      · intro member
        cases member
      · rintro ⟨ids, member, _⟩
        exact absurd rfl (OrderedMap.find?_eq_none_iff.mp found _ member)
  | some ids =>
      constructor
      · intro member
        exact ⟨ids, OrderedMap.find?_eq_some_iff.mp found, member⟩
      · rintro ⟨others, member, inside⟩
        rw [OrderedMap.find?_eq_some_iff.mpr member] at found
        cases found
        exact inside

theorem Pool.ids_filter {pool : Pool} {keep : Bytes × List Nat → Bool} {key : Bytes}
    {id : Nat} (member : id ∈ pool.ids key)
    (keeps : ∀ ids, id ∈ ids → keep (key, ids) = true) :
    id ∈ Pool.ids { pool with filed := pool.filed.filter keep } key := by
  obtain ⟨ids, filed, inside⟩ := Pool.mem_ids.mp member
  exact Pool.mem_ids.mpr
    ⟨ids, List.mem_filter.mpr ⟨filed, keeps ids inside⟩, inside⟩

theorem Pool.ids_insert (pool : Pool) (entries : List PoolEntry) (key other : Bytes)
    (ids : List Nat) :
    Pool.ids { entries := entries, filed := pool.filed.insert key ids } other =
      if key = other then ids else pool.ids other := by
  unfold Pool.ids
  rw [OrderedMap.find?_insert]
  split
  · rfl
  · rfl

/-! ### The shape of a pool -/

def Pool.busy (pool : Pool) (id : Nat) : Bool :=
  (pool.entry id).busy

def busyKeys (pool : Pool) (key : Bytes) : Nat :=
  (pool.filed.entries.filter fun item => item.1 != key && item.2.any pool.busy).length

/-- The pool is within its bounds, and entries are filed under the keys they were
made for. -/
structure PoolShape (limit : Nat) (keys : List Bytes) (pool : Pool) : Prop where
  size : pool.filed.size ≤ maxPoolKeys
  short : ∀ item ∈ pool.filed.entries, item.2.length ≤ limit
  own : ∀ item ∈ pool.filed.entries, ∀ id ∈ item.2, keys[id]? = some item.1
  counted : keys.length = pool.entries.length

section Shape

variable {limit : Nat} {keys : List Bytes} {pool : Pool}

theorem PoolShape.filter (shape : PoolShape limit keys pool)
    (keep : Bytes × List Nat → Bool) :
    PoolShape limit keys { pool with filed := pool.filed.filter keep } where
  size := Nat.le_trans (OrderedMap.size_filter_le _ _) shape.size
  short := fun item member => shape.short item (List.mem_of_mem_filter member)
  own := fun item member => shape.own item (List.mem_of_mem_filter member)
  counted := shape.counted

theorem PoolShape.ids_own (shape : PoolShape limit keys pool) {key : Bytes} {id : Nat}
    (member : id ∈ pool.ids key) : keys[id]? = some key := by
  obtain ⟨ids, filed, inside⟩ := Pool.mem_ids.mp member
  exact shape.own (key, ids) filed id inside

theorem PoolShape.ids_short (shape : PoolShape limit keys pool) (key : Bytes) :
    (pool.ids key).length ≤ limit := by
  unfold Pool.ids
  cases found : pool.filed.find? key with
  | none =>
      exact Nat.zero_le limit
  | some ids =>
      exact shape.short (key, ids) (OrderedMap.find?_eq_some_iff.mp found)

theorem PoolShape.insert (shape : PoolShape limit keys pool) {key : Bytes}
    (room : pool.filed.contains key = true ∨ pool.filed.size < maxPoolKeys)
    {ids : List Nat} (short : ids.length ≤ limit)
    (own : ∀ id ∈ ids, keys[id]? = some key) :
    PoolShape limit keys { pool with filed := pool.filed.insert key ids } where
  size := by
    change (pool.filed.insert key ids).size ≤ maxPoolKeys
    cases found : pool.filed.find? key with
    | none =>
        rw [OrderedMap.size_insert found]
        rcases room with known | room
        · unfold OrderedMap.contains at known
          rw [found] at known
          cases known
        · exact room
    | some old =>
        rw [OrderedMap.size_insert_of_some found]
        exact shape.size
  short := by
    intro item member
    rcases OrderedMap.mem_insertEntry member with same | old
    · rw [same]
      exact short
    · exact shape.short item old
  own := by
    intro item member
    rcases OrderedMap.mem_insertEntry member with same | old
    · rw [same]
      exact own
    · exact shape.own item old
  counted := shape.counted

theorem PoolShape.grow (shape : PoolShape limit keys pool) (entry : PoolEntry)
    (key : Bytes) :
    PoolShape limit (keys ++ [key]) { pool with entries := pool.entries ++ [entry] } where
  size := shape.size
  short := shape.short
  own := by
    intro item member id inside
    have old := shape.own item member id inside
    rw [List.getElem?_append_left (List.getElem?_eq_some_iff.mp old).1]
    exact old
  counted := by
    rw [List.length_append, List.length_append, shape.counted]
    rfl

theorem PoolShape.setEntry (shape : PoolShape limit keys pool) (id : Nat)
    (entry : PoolEntry) : PoolShape limit keys (pool.setEntry id entry) where
  size := shape.size
  short := shape.short
  own := shape.own
  counted := shape.counted.trans List.length_set.symm

/-! ### Room for a key -/

/-- What a section of the pool does to filed numbers that are busy: nothing. -/
def KeepsBusy (before after : Pool) : Prop :=
  ∀ key id, id ∈ before.ids key → before.busy id = true → id ∈ after.ids key

theorem keepsBusy_filter (pool : Pool) {keep : Bytes × List Nat → Bool}
    (keeps : ∀ key ids id, id ∈ ids → pool.busy id = true → keep (key, ids) = true) :
    KeepsBusy pool { pool with filed := pool.filed.filter keep } :=
  fun key _ member taken =>
    Pool.ids_filter member fun ids inside => keeps key ids _ inside taken

theorem not_all_idle {pool : Pool} {ids : List Nat} {id : Nat} (inside : id ∈ ids)
    (taken : pool.busy id = true) : ids.all pool.idle = false := by
  rw [Bool.eq_false_iff]
  intro idle
  have free := List.all_eq_true.mp idle id inside
  unfold Pool.idle Pool.busy at *
  rw [taken] at free
  cases free

theorem not_all_stale {pool : Pool} {ids : List Nat} {id : Nat} (generation : UInt64)
    (inside : id ∈ ids) (taken : pool.busy id = true) :
    (!ids.all fun id => pool.idle id && (pool.entry id).generation != generation) =
      true := by
  rw [Bool.not_eq_true', Bool.eq_false_iff]
  intro stale
  have each := List.all_eq_true.mp stale id inside
  have idle := (Bool.and_eq_true_iff.mp each).1
  unfold Pool.idle at idle
  unfold Pool.busy at taken
  rw [taken] at idle
  cases idle

theorem dropStale_keepsBusy (pool : Pool) (generation : UInt64) :
    KeepsBusy pool (pool.dropStale generation) := by
  apply keepsBusy_filter
  intro key ids id inside taken
  exact not_all_stale generation inside taken

/-- What making room for a key leaves. -/
structure Limited (before after : Pool) (key : Bytes) (outcome : Checked Unit) :
    Prop where
  entries : after.entries = before.entries
  held : KeepsBusy before after
  room : outcome = .ok () →
    after.filed.contains key = true ∨ after.filed.size < maxPoolKeys
  refused : ∀ error, outcome = .error error →
    error = poolAtCapacity ∧ maxPoolKeys ≤ busyKeys before key

theorem limitIdlePool_limited (pool : Pool) (key : Bytes) :
    Limited pool (limitIdlePool pool key).1 key (limitIdlePool pool key).2 := by
  unfold limitIdlePool
  split
  · rename_i room
    exact
      { entries := rfl
        held := fun _ _ member _ => member
        room := fun _ => room
        refused := nofun }
  · rename_i full
    rw [not_or] at full
    obtain ⟨missing, _⟩ := full
    let limited : Pool :=
      { pool with filed := pool.filed.filter fun item => !item.2.all pool.idle }
    have held : KeepsBusy pool limited := by
      apply keepsBusy_filter
      intro _ ids id inside taken
      rw [not_all_idle inside taken]
      rfl
    simp only
    split
    · rename_i crowded
      refine
        { entries := rfl
          held := held
          room := nofun
          refused := ?_ }
      intro error same
      cases same
      refine ⟨rfl, Nat.le_trans crowded (Nat.le_of_eq ?_)⟩
      -- The key is not among those that are left.
      apply congrArg List.length
      apply List.filter_congr
      intro item member
      have other : (item.1 != key) = true := by
        apply bne_iff_ne.mpr
        intro same
        apply missing
        unfold OrderedMap.contains
        rw [Option.isSome_iff_exists]
        exact ⟨item.2, OrderedMap.find?_eq_some_iff.mpr (same ▸ member)⟩
      rw [other, Bool.true_and, List.not_all_eq_any_not]
      apply List.any_congr
      · rfl
      · intro id
        exact Bool.not_not _
    · rename_i fits
      exact
        { entries := rfl
          held := held
          room := fun _ => Or.inr (Nat.lt_of_not_le fits)
          refused := nofun }

theorem limitIdlePool_shape (shape : PoolShape limit keys pool) (key : Bytes) :
    PoolShape limit keys (limitIdlePool pool key).1 := by
  unfold limitIdlePool
  split
  · exact shape
  · simp only
    split
    · exact shape.filter _
    · exact shape.filter _

/-! ### A pass -/

inductive PassEffect (before after : Pool) (keys : List Bytes) (key : Bytes)
    (generation : UInt64) : Acquisition → List Bytes → Prop
  | taken {id : Nat} {entry : PoolEntry} (found : before.entries[id]? = some entry)
      (free : entry.busy = false)
      (entries : after.entries = before.entries.set id { entry with busy := true })
      (own : keys[id]? = some key) :
      PassEffect before after keys key generation (.leased id) keys
  | made (entries : after.entries =
        before.entries ++ [{ busy := true, generation := generation }]) :
      PassEffect before after keys key generation (.leased before.entries.length)
        (keys ++ [key])
  | full (entries : after.entries = before.entries) :
      PassEffect before after keys key generation .full keys
  | refused (entries : after.entries = before.entries)
      (crowded : maxPoolKeys ≤ busyKeys before key) :
      PassEffect before after keys key generation (.refused poolAtCapacity) keys

structure PassSpec (limit : Nat) (before after : Pool) (keys : List Bytes) (key : Bytes)
    (generation : UInt64) (acquired : Acquisition) (keysAfter : List Bytes) : Prop where
  effect : PassEffect before after keys key generation acquired keysAfter
  shape : PoolShape limit keysAfter after
  keeps : KeepsBusy before after
  filed : ∀ id, acquired = .leased id → id ∈ after.ids key

theorem acquireWithin_spec (shape : PoolShape limit keys pool) {key : Bytes}
    {generation : UInt64} {after : Pool} {acquired : Acquisition}
    (run : acquireWithin limit pool key generation = (after, acquired)) :
    ∃ keysAfter, PassSpec limit pool after keys key generation acquired keysAfter := by
  have made := limitIdlePool_limited pool key
  have limitedShape := limitIdlePool_shape shape key
  unfold acquireWithin at run
  rcases limiting : limitIdlePool pool key with ⟨limited, outcome⟩
  rw [limiting] at run made limitedShape
  cases outcome with
  | error error =>
      cases run
      obtain ⟨rfl, crowded⟩ := made.refused error rfl
      exact ⟨keys, .refused made.entries crowded, limitedShape, made.held,
        fun _ impossible => by cases impossible⟩
  | ok done =>
      let ids := limited.ids key
      let known : Pool := { limited with filed := limited.filed.insert key ids }
      have idsEq : ∀ other, known.ids other = limited.ids other := by
        intro other
        rw [Pool.ids_insert]
        split
        · rename_i same
          rw [← same]
        · rfl
      have knownShape : PoolShape limit keys known :=
        limitedShape.insert (made.room rfl) (limitedShape.ids_short key)
          fun id member => limitedShape.ids_own member
      have keeps : KeepsBusy pool known := by
        intro other id member taken
        rw [idsEq]
        exact made.held other id member taken
      change (match ids.find? known.idle with
        | some id =>
            (known.setEntry id { known.entry id with busy := true }, Acquisition.leased id)
        | none =>
            if ids.length < limit then
              ({ entries := known.entries ++ [{ busy := true, generation := generation }]
                 filed := known.filed.insert key (ids ++ [known.entries.length]) },
                Acquisition.leased known.entries.length)
            else (known, Acquisition.full)) = (after, acquired) at run
      split at run
      · rename_i id found
        cases run
        have member : id ∈ ids := List.mem_of_find?_eq_some found
        have own := limitedShape.ids_own member
        have inside : id < limited.entries.length := by
          rw [← limitedShape.counted]
          exact (List.getElem?_eq_some_iff.mp own).1
        obtain ⟨entry, present⟩ : ∃ entry, limited.entries[id]? = some entry :=
          ⟨_, List.getElem?_eq_getElem inside⟩
        have entryEq : known.entry id = entry := by
          change limited.entries.getD id {} = entry
          rw [List.getD_eq_getElem?_getD, present, Option.getD_some]
        have free := List.find?_some found
        rw [Pool.idle, entryEq, Bool.not_eq_true'] at free
        rw [entryEq]
        have present' : pool.entries[id]? = some entry := by
          rw [← made.entries]
          exact present
        have changed : (known.setEntry id { entry with busy := true }).entries =
            pool.entries.set id { entry with busy := true } := by
          rw [← made.entries]
          rfl
        exact ⟨keys, .taken present' free changed own, knownShape.setEntry id _, keeps,
          by
            intro other same
            cases same
            exact (idsEq key).symm ▸ member⟩
      · split at run
        · rename_i room
          cases run
          have count : keys.length = known.entries.length := knownShape.counted
          have grown := (knownShape.grow { busy := true, generation := generation } key)
          have added : PoolShape limit (keys ++ [key])
              { entries := known.entries ++ [{ busy := true, generation := generation }]
                filed := known.filed.insert key (ids ++ [known.entries.length]) } := by
            apply grown.insert
            · apply Or.inl
              change (known.filed.find? key).isSome = true
              rw [OrderedMap.find?_insert, if_pos rfl]
              rfl
            · rw [List.length_append, List.length_singleton]
              exact room
            · intro id member
              rcases List.mem_append.mp member with old | new
              · have own := limitedShape.ids_own old
                rw [List.getElem?_append_left (List.getElem?_eq_some_iff.mp own).1]
                exact own
              · rw [List.mem_singleton.mp new, ← count, List.getElem?_concat_length]
          have number : known.entries.length = pool.entries.length := by
            rw [← made.entries]
          refine ⟨keys ++ [key], ?_, added, ?_, ?_⟩
          · rw [number]
            apply PassEffect.made
            rw [← made.entries]
          · intro other id member taken
            rw [Pool.ids_insert]
            split
            · rename_i same
              apply List.mem_append_left
              have kept := keeps other id member taken
              rw [idsEq, ← same] at kept
              exact kept
            · exact keeps other id member taken
          · intro id same
            cases same
            rw [Pool.ids_insert, if_pos rfl]
            exact List.mem_append_right _ List.mem_cons_self
        · obtain ⟨sameAfter, sameAcquired⟩ := Prod.mk.inj run
          rw [← sameAfter, ← sameAcquired]
          exact ⟨keys, .full made.entries, knownShape, keeps,
            fun _ impossible => by cases impossible⟩

end Shape

end NativeDNS
