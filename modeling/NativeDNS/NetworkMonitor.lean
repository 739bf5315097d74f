/-
The monitor of the network adapters.

`refresh` enumerates the adapters under a lock, and publishes a snapshot with
the next generation when something changed or when it is told to.  The
generation is a 64-bit number that wraps.
-/
import NativeDNS.Network
import NativeDNS.Library.Transition
import Mathlib.Data.List.Sort

namespace NativeDNS

open ByteText (text)

/-- What an enumeration gives: the adapters in any order, or an exception. -/
inductive Enumeration where
  | interfaces (found : List InterfaceInfo)
  | failed (what : Bytes)

def idUpTo (a b : InterfaceInfo) : Bool :=
  decide (a.id ≤ b.id)

/-- `std::sort` by identifier. -/
def sortInterfaces (interfaces : List InterfaceInfo) : List InterfaceInfo :=
  interfaces.mergeSort idUpTo

/-- The contents of the next snapshot; its generation is not set yet. -/
def enumerated (previous : NetworkSnapshot) : Enumeration → NetworkSnapshot
  | .interfaces found => { interfaces := sortInterfaces found }
  | .failed what =>
      { interfaces := previous.interfaces
        error := what }

/-- The monitor; `published` is every snapshot that has been stored, kept for the
statements only. -/
structure NetworkMonitor where
  snapshot : NetworkSnapshot := {}
  published : List NetworkSnapshot := [{}]

def NetworkMonitor.refresh (monitor : NetworkMonitor) (invalidate : Bool)
    (source : Enumeration) : NetworkMonitor :=
  let previous := monitor.snapshot
  let next := enumerated previous source
  if invalidate = false ∧ next.interfaces = previous.interfaces ∧
      next.error = previous.error then monitor
  else
    let next := { next with generation := previous.generation + 1 }
    { snapshot := next
      published := monitor.published ++ [next] }

abbrev MonitorReached : NetworkMonitor → Prop :=
  Transition.Reachable (fun monitor => monitor = {}) fun before after =>
    ∃ invalidate source, after = before.refresh invalidate source

/-! ### The order of the adapters -/

/-- No two adapters have one identifier. -/
def DistinctIds (interfaces : List InterfaceInfo) : Prop :=
  (interfaces.map (·.id)).Nodup

theorem sortInterfaces_perm (interfaces : List InterfaceInfo) :
    (sortInterfaces interfaces).Perm interfaces :=
  List.mergeSort_perm _ _

theorem sortInterfaces_sorted (interfaces : List InterfaceInfo) :
    (sortInterfaces interfaces).Pairwise fun a b => a.id ≤ b.id := by
  have transitive : ∀ a b c, idUpTo a b = true → idUpTo b c = true →
      idUpTo a c = true := by
    intro a b c first second
    exact decide_eq_true (le_trans (of_decide_eq_true first) (of_decide_eq_true second))
  have total : ∀ a b, (idUpTo a b || idUpTo b a) = true := by
    intro a b
    simp only [idUpTo, Bool.or_eq_true, decide_eq_true_eq]
    exact le_total a.id b.id
  exact (List.pairwise_mergeSort transitive total interfaces).imp of_decide_eq_true

theorem sorted_unique {interfaces sorted : List InterfaceInfo}
    (distinct : DistinctIds interfaces) (same : sorted.Perm interfaces)
    (ordered : sorted.Pairwise fun a b => a.id ≤ b.id) :
    sorted = sortInterfaces interfaces := by
  have perm : sorted.Perm (sortInterfaces interfaces) :=
    same.trans (sortInterfaces_perm interfaces).symm
  apply perm.eq_of_pairwise _ ordered (sortInterfaces_sorted interfaces)
  intro a b left right low high
  have equal : a.id = b.id := le_antisymm low high
  exact List.inj_on_of_nodup_map distinct (same.subset left)
    ((sortInterfaces_perm interfaces).subset right) equal

/-! ### One refresh -/

/-- It is forced, or the sorted adapters or the error changed. -/
def NetworkMonitor.Due (monitor : NetworkMonitor) (invalidate : Bool)
    (source : Enumeration) : Prop :=
  invalidate = true ∨
    (enumerated monitor.snapshot source).interfaces ≠ monitor.snapshot.interfaces ∨
    (enumerated monitor.snapshot source).error ≠ monitor.snapshot.error

theorem refresh_of_due {monitor : NetworkMonitor} {invalidate : Bool}
    {source : Enumeration} (due : monitor.Due invalidate source) :
    monitor.refresh invalidate source =
      { snapshot := { enumerated monitor.snapshot source with
          generation := monitor.snapshot.generation + 1 }
        published := monitor.published ++ [{ enumerated monitor.snapshot source with
          generation := monitor.snapshot.generation + 1 }] } := by
  apply if_neg
  rintro ⟨quiet, interfaces, error⟩
  rcases due with forced | changed | changed
  · rw [quiet] at forced
    cases forced
  · exact changed interfaces
  · exact changed error

theorem refresh_of_not_due {monitor : NetworkMonitor} {invalidate : Bool}
    {source : Enumeration} (quiet : ¬ monitor.Due invalidate source) :
    monitor.refresh invalidate source = monitor ∧
      (enumerated monitor.snapshot source).interfaces = monitor.snapshot.interfaces ∧
      (enumerated monitor.snapshot source).error = monitor.snapshot.error := by
  unfold NetworkMonitor.Due at quiet
  simp only [not_or, ne_eq, Decidable.not_not] at quiet
  obtain ⟨unforced, interfaces, error⟩ := quiet
  refine ⟨?_, interfaces, error⟩
  exact if_pos ⟨eq_false_of_ne_true unforced, interfaces, error⟩

/-- A refresh of a monitor. -/
structure RefreshExact (monitor : NetworkMonitor) (invalidate : Bool)
    (source : Enumeration) (after : NetworkMonitor) : Prop where
  publishes : monitor.Due invalidate source ↔
    after.published = monitor.published ++ [after.snapshot] ∧
      after.snapshot.generation = monitor.snapshot.generation + 1
  keeps : ¬ monitor.Due invalidate source → after = monitor
  failed : ∀ what, source = .failed what →
    after.snapshot.interfaces = monitor.snapshot.interfaces ∧ after.snapshot.error = what
  succeeded : ∀ found, source = .interfaces found →
    after.snapshot.interfaces = sortInterfaces found ∧ after.snapshot.error = []
  unordered : ∀ found shuffled, source = .interfaces found → DistinctIds found →
    shuffled.Perm found → monitor.refresh invalidate (.interfaces shuffled) = after

theorem refresh_contents (monitor : NetworkMonitor) (invalidate : Bool)
    (source : Enumeration) :
    (monitor.refresh invalidate source).snapshot.interfaces =
        (enumerated monitor.snapshot source).interfaces ∧
      (monitor.refresh invalidate source).snapshot.error =
        (enumerated monitor.snapshot source).error := by
  by_cases due : monitor.Due invalidate source
  · rw [refresh_of_due due]
    exact ⟨rfl, rfl⟩
  · obtain ⟨same, interfaces, error⟩ := refresh_of_not_due due
    rw [same]
    exact ⟨interfaces.symm, error.symm⟩

theorem sortInterfaces_shuffled {found shuffled : List InterfaceInfo}
    (distinct : DistinctIds found) (same : shuffled.Perm found) :
    sortInterfaces shuffled = sortInterfaces found :=
  sorted_unique distinct ((sortInterfaces_perm shuffled).trans same)
    (sortInterfaces_sorted shuffled)

theorem refresh_exact (monitor : NetworkMonitor) (invalidate : Bool)
    (source : Enumeration) :
    RefreshExact monitor invalidate source (monitor.refresh invalidate source) := by
  obtain ⟨interfaces, error⟩ := refresh_contents monitor invalidate source
  constructor
  case publishes =>
    constructor
    · intro due
      rw [refresh_of_due due]
      exact ⟨rfl, rfl⟩
    · rintro ⟨longer, _⟩
      refine Classical.byContradiction fun quiet => ?_
      rw [(refresh_of_not_due quiet).1] at longer
      have lengths := congrArg List.length longer
      rw [List.length_append, List.length_singleton] at lengths
      omega
  case keeps =>
    exact fun quiet => (refresh_of_not_due quiet).1
  case failed =>
    rintro what rfl
    exact ⟨interfaces, error⟩
  case succeeded =>
    rintro found rfl
    exact ⟨interfaces, error⟩
  case unordered =>
    rintro found shuffled rfl distinct same
    have contents : enumerated monitor.snapshot (.interfaces shuffled) =
        enumerated monitor.snapshot (.interfaces found) := by
      simp only [enumerated, sortInterfaces_shuffled distinct same]
    dsimp only [NetworkMonitor.refresh]
    rw [contents]

/-! ### The generations -/

/-- Generations never decrease, and a generation has one network state. -/
structure GenerationsIdentify (monitor : NetworkMonitor) : Prop where
  nondecreasing : monitor.published.Pairwise fun a b => a.generation ≤ b.generation
  identify : ∀ a ∈ monitor.published, ∀ b ∈ monitor.published,
    a.generation = b.generation → a.interfaces = b.interfaces ∧ a.error = b.error

structure MonitorSound (monitor : NetworkMonitor) : Prop where
  next : monitor.snapshot.generation + 1 = UInt64.ofNat monitor.published.length
  counted : monitor.published.map (·.generation) =
    (List.range monitor.published.length).map UInt64.ofNat

theorem MonitorSound.refresh {monitor : NetworkMonitor} (sound : MonitorSound monitor)
    (invalidate : Bool) (source : Enumeration) :
    MonitorSound (monitor.refresh invalidate source) := by
  by_cases due : monitor.Due invalidate source
  · rw [refresh_of_due due]
    constructor
    · simp only [List.length_append, List.length_singleton, UInt64.ofNat_add, sound.next]
      rfl
    · simp only [List.length_append, List.length_singleton, List.map_append,
        List.map_singleton, List.range_succ, sound.counted, sound.next]
  · rw [(refresh_of_not_due due).1]
    exact sound

theorem monitorSound_reached {monitor : NetworkMonitor}
    (reached : MonitorReached monitor) : MonitorSound monitor := by
  apply reached.invariant
  · rintro _ rfl
    exact ⟨rfl, rfl⟩
  · rintro before _ _ sound ⟨invalidate, source, rfl⟩
    exact sound.refresh invalidate source

theorem MonitorSound.increasing {monitor : NetworkMonitor} (sound : MonitorSound monitor)
    (few : monitor.published.length ≤ 2 ^ 64) :
    (monitor.published.map (·.generation)).Pairwise (· < ·) := by
  rw [sound.counted]
  apply List.pairwise_map.mpr
  apply List.pairwise_lt_range.imp_of_mem
  intro a b left right less
  have aBound := List.mem_range.mp left
  have bBound := List.mem_range.mp right
  have size : UInt64.size = 2 ^ 64 := rfl
  rw [UInt64.lt_iff_toNat_lt, UInt64.toNat_ofNat_of_lt' (by omega),
    UInt64.toNat_ofNat_of_lt' (by omega)]
  exact less

/-- Every refresh is exact, and until 2^64 new generations have been published the
generations never decrease and each has one network state. -/
theorem networkGeneration_identifies {monitor : NetworkMonitor}
    (reached : MonitorReached monitor) (few : monitor.published.length ≤ 2 ^ 64) :
    GenerationsIdentify monitor ∧
      ∀ invalidate source, RefreshExact monitor invalidate source
        (monitor.refresh invalidate source) := by
  have increasing := (monitorSound_reached reached).increasing few
  refine ⟨?_, fun invalidate source => refresh_exact monitor invalidate source⟩
  constructor
  case nondecreasing =>
    exact (List.pairwise_map.mp increasing).imp UInt64.le_of_lt
  case identify =>
    intro a left b right same
    have distinct : (monitor.published.map (·.generation)).Nodup :=
      increasing.imp UInt64.ne_of_lt
    rw [List.inj_on_of_nodup_map distinct left right same]
    exact ⟨rfl, rfl⟩

/-- An adapter appears, an enumeration fails, and nothing changes after that. -/
theorem networkGeneration_identifies_failed :
    ∃ monitor, MonitorReached monitor ∧ GenerationsIdentify monitor ∧
      monitor.published.map (fun snapshot =>
        (snapshot.generation, snapshot.interfaces.length, snapshot.error)) =
          [(0, 0, []), (1, 1, []), (2, 1, text "enumeration failed")] := by
  have start : MonitorReached {} := .start rfl
  have found : MonitorReached _ :=
    .next start ⟨false, .interfaces [{ id := text "wifi" }], rfl⟩
  have failed : MonitorReached _ :=
    .next found ⟨false, .failed (text "enumeration failed"), rfl⟩
  have again : MonitorReached _ :=
    .next failed ⟨false, .failed (text "enumeration failed"), rfl⟩
  have seen : ((({} : NetworkMonitor).refresh false
      (.interfaces [{ id := text "wifi" }])).refresh false
        (.failed (text "enumeration failed")) |>.refresh false
          (.failed (text "enumeration failed"))).published.map (fun snapshot =>
        (snapshot.generation, snapshot.interfaces.length, snapshot.error)) =
          [(0, 0, []), (1, 1, []), (2, 1, text "enumeration failed")] := by
    decide +kernel
  have few : ((({} : NetworkMonitor).refresh false
      (.interfaces [{ id := text "wifi" }])).refresh false
        (.failed (text "enumeration failed")) |>.refresh false
          (.failed (text "enumeration failed"))).published.length ≤ 2 ^ 64 := by
    have length := congrArg List.length seen
    rw [List.length_map] at length
    rw [length]
    decide
  exact ⟨_, again, (networkGeneration_identifies again few).1, seen⟩

/-! ### The wrap -/

def forcedRefreshes : Nat → NetworkMonitor
  | 0 => {}
  | count + 1 => (forcedRefreshes count).refresh true (.interfaces [])

theorem forcedRefreshes_facts (count : Nat) :
    MonitorReached (forcedRefreshes count) ∧
      {} ∈ (forcedRefreshes count).published ∧
      (forcedRefreshes count).snapshot.generation = UInt64.ofNat count := by
  induction count with
  | zero =>
      exact ⟨.start rfl, List.mem_cons_self, rfl⟩
  | succ count ih =>
      obtain ⟨reached, first, generation⟩ := ih
      have due : (forcedRefreshes count).Due true (.interfaces []) := Or.inl rfl
      refine ⟨.next reached ⟨true, _, rfl⟩, ?_⟩
      rw [forcedRefreshes, refresh_of_due due]
      refine ⟨List.mem_append_left _ first, ?_⟩
      simp only [generation, UInt64.ofNat_add]
      rfl

/-- After as many refreshes as the generation has values, an adapter is published
under the generation of the first snapshot. -/
theorem wrapped_identifies_not {count : Nat} (last : UInt64.ofNat count + 1 = 0) :
    ∃ monitor, MonitorReached monitor ∧ ¬ GenerationsIdentify monitor := by
  obtain ⟨reached, first, generation⟩ := forcedRefreshes_facts count
  let source : Enumeration := .interfaces [{ id := text "wifi" }]
  have due : (forcedRefreshes count).Due true source := Or.inl rfl
  refine ⟨(forcedRefreshes count).refresh true source,
    .next reached ⟨true, source, rfl⟩, ?_⟩
  rw [refresh_of_due due]
  intro identifies
  have same := identifies.identify {} (List.mem_append_left _ first) _
    (List.mem_append_right _ List.mem_cons_self) (by simp only [generation, last])
  have one : sortInterfaces [{ id := text "wifi" }] = [{ id := text "wifi" }] :=
    List.mergeSort_singleton _
  have none : [] = sortInterfaces [{ id := text "wifi" }] := same.1
  rw [one] at none
  cases none

theorem networkGeneration_wraps :
    ∃ monitor, MonitorReached monitor ∧ ¬ GenerationsIdentify monitor :=
  wrapped_identifies_not (by decide : UInt64.ofNat 18446744073709551615 + 1 = 0)

end NativeDNS
