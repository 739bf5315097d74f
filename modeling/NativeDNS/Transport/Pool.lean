/-
The connection pool of the plain transport.

An entry is shared by the pool and by the lease on it, so entries are kept by
number: erasing a key only unfiles its entries.  The functions here are the
parts of `pooled_tcp` that run under the pool mutex.
-/
import NativeDNS.Network
import NativeDNS.Library.Lists

namespace NativeDNS

open ByteText (text byte decimal)

structure PoolEntry where
  busy : Bool := false
  generation : UInt64 := 0
  connection : Option Nat := none
  lastUsed : Nat := 0
  deriving DecidableEq

/-- Every entry ever made, and the entries filed under each key. -/
structure Pool where
  entries : List PoolEntry := []
  filed : OrderedMap Bytes (List Nat) := OrderedMap.empty

namespace Pool

def entry (pool : Pool) (id : Nat) : PoolEntry :=
  pool.entries.getD id {}

def setEntry (pool : Pool) (id : Nat) (entry : PoolEntry) : Pool :=
  { pool with entries := pool.entries.set id entry }

def idle (pool : Pool) (id : Nat) : Bool :=
  !(pool.entry id).busy

/-- Unfile the keys whose entries are all idle and of another generation. -/
def dropStale (pool : Pool) (generation : UInt64) : Pool :=
  { pool with
    filed := pool.filed.filter fun item =>
      !item.2.all fun id =>
        pool.idle id && (pool.entry id).generation != generation }

end Pool

def poolKey (server : Server) : Bytes :=
  server.ip ++ byte ':' ::
    (decimal (if server.port = 0 then 53 else server.port.toNat) ++
      byte '|' :: networkRouteKey server.route)

def maxPoolKeys : Nat := 128

def maxPoolEntries : Nat := 4

def poolAtCapacity : Error :=
  .of "UPSTREAM_BUSY" "Upstream connection pool is at capacity"

/-- Make room for a new key by unfiling the keys whose entries are all idle. -/
def limitIdlePool (pool : Pool) (key : Bytes) : Pool × Checked Unit :=
  if pool.filed.contains key ∨ pool.filed.size < maxPoolKeys then (pool, .ok ())
  else
    let limited :=
      { pool with filed := pool.filed.filter fun item => !item.2.all pool.idle }
    if maxPoolKeys ≤ limited.filed.size then (limited, .error poolAtCapacity)
    else (limited, .ok ())

/-- What one pass of the acquiring loop comes to. -/
inductive Acquisition where
  | leased (id : Nat)
  | full
  | refused (error : Error)
  deriving DecidableEq

/-- One pass of the acquiring loop: an idle entry, a new one, or none. -/
def acquireEntry (pool : Pool) (key : Bytes) (generation : UInt64) :
    Pool × Acquisition :=
  match limitIdlePool pool key with
  | (limited, .error error) => (limited, .refused error)
  | (limited, .ok ()) =>
      let ids := (limited.filed.find? key).getD []
      let known := { limited with filed := limited.filed.insert key ids }
      match ids.find? known.idle with
      | some id =>
          (known.setEntry id { known.entry id with busy := true }, .leased id)
      | none =>
          if ids.length < maxPoolEntries then
            let id := known.entries.length
            ({ entries :=
                known.entries ++ [{ busy := true, generation := generation }]
               filed := known.filed.insert key (ids ++ [id]) },
              .leased id)
          else (known, .full)

/-! ### What the mutex sections change -/

def Pool.Filed (pool : Pool) : Prop :=
  ∀ item ∈ pool.filed.entries, ∀ id ∈ item.2, id < pool.entries.length

theorem Pool.Filed.filter {pool : Pool} (filed : pool.Filed)
    (keep : Bytes × List Nat → Bool) :
    Pool.Filed { pool with filed := pool.filed.filter keep } := by
  intro item member
  exact filed item (List.mem_of_mem_filter member)

theorem Pool.Filed.insert {pool : Pool} (filed : pool.Filed) (key : Bytes)
    {ids : List Nat} (within : ∀ id ∈ ids, id < pool.entries.length) :
    Pool.Filed { pool with filed := pool.filed.insert key ids } := by
  intro item member
  rcases OrderedMap.mem_insertEntry member with same | old
  · rw [same]
    exact within
  · exact filed item old

theorem Pool.Filed.lookup {pool : Pool} (filed : pool.Filed) (key : Bytes) :
    ∀ id ∈ (pool.filed.find? key).getD [], id < pool.entries.length := by
  cases found : pool.filed.find? key with
  | none =>
      intro id member
      cases member
  | some ids =>
      exact filed (key, ids) (OrderedMap.find?_eq_some_iff.mp found)

theorem Pool.Filed.grow {pool after : Pool} (filed : pool.Filed)
    (same : after.filed = pool.filed)
    (longer : pool.entries.length ≤ after.entries.length) : after.Filed := by
  intro item member id inside
  rw [same] at member
  exact Nat.lt_of_lt_of_le (filed item member id inside) longer

theorem limitIdlePool_spec {pool limited : Pool} {key : Bytes}
    {outcome : Checked Unit} (filed : pool.Filed)
    (run : limitIdlePool pool key = (limited, outcome)) :
    limited.entries = pool.entries ∧ limited.Filed := by
  unfold limitIdlePool at run
  split at run
  · cases run
    exact ⟨rfl, filed⟩
  · simp only at run
    split at run
    · cases run
      exact ⟨rfl, filed.filter _⟩
    · cases run
      exact ⟨rfl, filed.filter _⟩

inductive Leases (before after : List PoolEntry) (id : Nat) : Prop
  | idle {entry : PoolEntry} (found : before[id]? = some entry)
      (free : entry.busy = false)
      (marked : after = before.set id { entry with busy := true })
  | fresh {entry : PoolEntry} (last : id = before.length)
      (unconnected : entry.connection = none) (taken : entry.busy = true)
      (added : after = before ++ [entry])

/-- What a pass of the acquiring loop does to the entries. -/
def Acquisition.Changes (before after : List PoolEntry) : Acquisition → Prop
  | .leased id => Leases before after id
  | .full => after = before
  | .refused _ => after = before

theorem acquireEntry_spec {pool after : Pool} {key : Bytes} {generation : UInt64}
    {acquired : Acquisition} (filed : pool.Filed)
    (run : acquireEntry pool key generation = (after, acquired)) :
    after.Filed ∧ acquired.Changes pool.entries after.entries := by
  unfold acquireEntry at run
  cases limit : limitIdlePool pool key with
  | mk limited outcome =>
      obtain ⟨sameEntries, limitedFiled⟩ := limitIdlePool_spec filed limit
      have within := limitedFiled.lookup key
      have known := limitedFiled.insert key within
      rw [limit] at run
      cases outcome with
      | error error =>
          cases run
          exact ⟨limitedFiled, sameEntries⟩
      | ok done =>
          simp only at run
          split at run
          · rename_i id found
            cases run
            have member := List.mem_of_find?_eq_some found
            have inside := within id member
            have free := List.find?_some found
            simp only [Pool.idle, Pool.entry, Bool.not_eq_true'] at free
            obtain ⟨entry, found⟩ : ∃ entry, limited.entries[id]? = some entry :=
              ⟨_, List.getElem?_eq_getElem inside⟩
            have entryEq : limited.entries.getD id {} = entry := by
              rw [List.getD_eq_getElem?_getD, found, Option.getD_some]
            rw [entryEq] at free
            refine ⟨known.grow rfl (by simp [Pool.setEntry]), ?_⟩
            apply Leases.idle (sameEntries ▸ found) free
            simp only [Pool.setEntry, Pool.entry]
            rw [entryEq, sameEntries]
          · split at run
            · cases run
              constructor
              · have grown : Pool.Filed
                    { entries := limited.entries ++
                        [{ busy := true, generation := generation }]
                      filed := limited.filed.insert key
                        ((limited.filed.find? key).getD []) } :=
                  known.grow rfl (by simp)
                apply grown.insert key
                intro id member
                rw [List.length_append]
                rcases List.mem_append.mp member with old | new
                · exact Nat.lt_add_right 1 (within id old)
                · cases List.mem_singleton.mp new
                  exact Nat.lt_succ_self _
              · rw [← sameEntries]
                exact Leases.fresh rfl rfl rfl rfl
            · cases run
              exact ⟨known, sameEntries⟩

theorem dropStale_filed {pool : Pool} (filed : pool.Filed)
    (generation : UInt64) : (pool.dropStale generation).Filed :=
  filed.filter _

end NativeDNS
