/-
Single flight over a table of keys.

Callers come with a key and share one cell for it.  A caller that finds the
cell of its key unflagged may raise the flag and lead; it lands by lowering
the flag.  The table has a capacity, and a cell that nobody holds may leave it.
However the callers interleave, one of them leads for a key at a time and a
raised flag always has a leader.
-/
import Mathlib.Logic.Function.Basic
import Mathlib.Logic.Relation
import Mathlib.Data.List.Nodup

namespace SingleFlight

variable {κ : Type}

structure Flights (κ : Type) where
  entries : List (κ × Nat) := []
  cells : Nat := 0
  flag : Nat → Bool := fun _ => false
  key : Nat → Option κ := fun _ => none
  holds : Nat → Option Nat := fun _ => none
  leads : Nat → Option Nat := fun _ => none

/-- What a caller or the table does under the lock. -/
inductive Step (capacity : Nat) : Flights κ → Flights κ → Prop
  | arrive {flights : Flights κ} (caller : Nat) (key : κ)
      (new : flights.key caller = none) :
      Step capacity flights
        { flights with key := Function.update flights.key caller (some key) }
  | evict {flights : Flights κ} {kept : List (κ × Nat)}
      (fewer : kept.Sublist flights.entries)
      (unused : ∀ entry ∈ flights.entries, entry ∉ kept →
        ∀ caller, flights.holds caller ≠ some entry.2) :
      Step capacity flights { flights with entries := kept }
  | create {flights : Flights κ} {caller : Nat} {key : κ}
      (came : flights.key caller = some key)
      (free : flights.holds caller = none)
      (absent : key ∉ flights.entries.map Prod.fst)
      (room : flights.entries.length < capacity) :
      Step capacity flights
        { flights with
          entries := flights.entries ++ [(key, flights.cells)]
          cells := flights.cells + 1
          holds := Function.update flights.holds caller (some flights.cells) }
  | join {flights : Flights κ} {caller cell : Nat} {key : κ}
      (came : flights.key caller = some key)
      (free : flights.holds caller = none)
      (member : (key, cell) ∈ flights.entries) :
      Step capacity flights
        { flights with
          holds := Function.update flights.holds caller (some cell) }
  | lead {flights : Flights κ} {caller cell : Nat}
      (holding : flights.holds caller = some cell)
      (lowered : flights.flag cell = false) :
      Step capacity flights
        { flights with
          flag := Function.update flights.flag cell true
          leads := Function.update flights.leads caller (some cell) }
  | land {flights : Flights κ} {caller cell : Nat}
      (leading : flights.leads caller = some cell) :
      Step capacity flights
        { flights with
          flag := Function.update flights.flag cell false
          leads := Function.update flights.leads caller none }
  | release {flights : Flights κ} {caller : Nat}
      (following : flights.leads caller = none) :
      Step capacity flights
        { flights with holds := Function.update flights.holds caller none }

structure Sound (capacity : Nat) (flights : Flights κ) : Prop where
  keys : (flights.entries.map Prod.fst).Nodup
  bounded : flights.entries.length ≤ capacity
  made : ∀ entry ∈ flights.entries, entry.2 < flights.cells
  apart : (flights.entries.map Prod.snd).Nodup
  held : ∀ caller cell, flights.holds caller = some cell →
    ∃ key, flights.key caller = some key ∧ (key, cell) ∈ flights.entries
  leading : ∀ caller cell, flights.leads caller = some cell →
    flights.holds caller = some cell ∧ flights.flag cell = true
  alone : ∀ first second cell, flights.leads first = some cell →
    flights.leads second = some cell → first = second
  flagged : ∀ cell, flights.flag cell = true →
    ∃ caller, flights.leads caller = some cell

theorem sound_initial (capacity : Nat) : Sound capacity ({} : Flights κ) where
  keys := List.nodup_nil
  bounded := Nat.zero_le _
  made := fun _ member => absurd member List.not_mem_nil
  apart := List.nodup_nil
  held := fun _ _ impossible => (by cases impossible)
  leading := fun _ _ impossible => (by cases impossible)
  alone := fun _ _ _ impossible => (by cases impossible)
  flagged := fun _ impossible => (by cases impossible)

variable {capacity : Nat} {flights after : Flights κ}

theorem mem_nodup_fst {entries : List (κ × Nat)} {key : κ} {first second : Nat}
    (keys : (entries.map Prod.fst).Nodup) (one : (key, first) ∈ entries)
    (other : (key, second) ∈ entries) : first = second := by
  have same := List.inj_on_of_nodup_map keys one other rfl
  exact congrArg Prod.snd same

theorem Sound.one_leader (sound : Sound capacity flights)
    {first second firstCell secondCell : Nat}
    (firstLeads : flights.leads first = some firstCell)
    (secondLeads : flights.leads second = some secondCell)
    (same : flights.key first = flights.key second) : first = second := by
  obtain ⟨firstHolds, _⟩ := sound.leading _ _ firstLeads
  obtain ⟨secondHolds, _⟩ := sound.leading _ _ secondLeads
  obtain ⟨key, came, member⟩ := sound.held _ _ firstHolds
  obtain ⟨other, otherCame, otherMember⟩ := sound.held _ _ secondHolds
  rw [came, otherCame] at same
  cases same
  have cells := mem_nodup_fst sound.keys member otherMember
  subst cells
  exact sound.alone _ _ _ firstLeads secondLeads

/-! ### One move of a caller or of the table -/

section Moves

variable {caller cell : Nat} {key : κ}

theorem Sound.arrive (sound : Sound capacity flights)
    (new : flights.key caller = none) :
    Sound capacity
      { flights with key := Function.update flights.key caller (some key) } := by
  refine { sound with held := ?_ }
  intro other own holding
  obtain ⟨otherKey, came, member⟩ := sound.held other own holding
  refine ⟨otherKey, ?_, member⟩
  dsimp only
  rw [Function.update_of_ne, came]
  intro same
  rw [same, new] at came
  cases came

theorem Sound.evict (sound : Sound capacity flights) {kept : List (κ × Nat)}
    (fewer : kept.Sublist flights.entries)
    (unused : ∀ entry ∈ flights.entries, entry ∉ kept →
      ∀ caller, flights.holds caller ≠ some entry.2) :
    Sound capacity { flights with entries := kept } := by
  refine
    { sound with
      keys := sound.keys.sublist (fewer.map _)
      bounded := Nat.le_trans fewer.length_le sound.bounded
      made := fun entry member => sound.made entry (fewer.subset member)
      apart := sound.apart.sublist (fewer.map _)
      held := ?_ }
  intro caller cell holding
  obtain ⟨key, came, member⟩ := sound.held caller cell holding
  refine ⟨key, came, ?_⟩
  by_contra gone
  exact unused (key, cell) member gone caller holding

theorem Sound.leading_of_free (sound : Sound capacity flights)
    (free : flights.holds caller = none) {other own : Nat}
    (leading : flights.leads other = some own) :
    Function.update flights.holds caller (some cell) other = some own ∧
      flights.flag own = true := by
  obtain ⟨holding, raised⟩ := sound.leading other own leading
  refine ⟨?_, raised⟩
  rw [Function.update_of_ne, holding]
  intro same
  rw [same, free] at holding
  cases holding

theorem Sound.held_update (sound : Sound capacity flights)
    {entries : List (κ × Nat)} (more : flights.entries ⊆ entries)
    (came : flights.key caller = some key) (member : (key, cell) ∈ entries) :
    ∀ other own,
      Function.update flights.holds caller (some cell) other = some own →
        ∃ otherKey, flights.key other = some otherKey ∧
          (otherKey, own) ∈ entries := by
  intro other own holding
  by_cases here : other = caller
  · subst here
    rw [Function.update_self] at holding
    cases holding
    exact ⟨key, came, member⟩
  · rw [Function.update_of_ne here] at holding
    obtain ⟨otherKey, otherCame, otherMember⟩ := sound.held other own holding
    exact ⟨otherKey, otherCame, more otherMember⟩

theorem Sound.create (sound : Sound capacity flights)
    (came : flights.key caller = some key)
    (free : flights.holds caller = none)
    (absent : key ∉ flights.entries.map Prod.fst)
    (room : flights.entries.length < capacity) :
    Sound capacity
      { flights with
        entries := flights.entries ++ [(key, flights.cells)]
        cells := flights.cells + 1
        holds := Function.update flights.holds caller (some flights.cells) } := by
  refine
    { keys := ?_
      bounded := ?_
      made := ?_
      apart := ?_
      held := sound.held_update (List.subset_append_left _ _) came
        (List.mem_append_right _ List.mem_cons_self)
      leading := fun _ _ leading => sound.leading_of_free free leading
      alone := sound.alone
      flagged := sound.flagged }
  · rw [List.map_append]
    refine List.nodup_append.mpr ⟨sound.keys, List.nodup_singleton _, ?_⟩
    intro first member second last same
    rw [List.map_singleton, List.mem_singleton] at last
    rw [same, last] at member
    exact absent member
  · rw [List.length_append]
    exact room
  · intro entry member
    rcases List.mem_append.mp member with earlier | last
    · exact Nat.lt_succ_of_lt (sound.made entry earlier)
    · rw [List.mem_singleton.mp last]
      exact Nat.lt_succ_self _
  · rw [List.map_append]
    refine List.nodup_append.mpr ⟨sound.apart, List.nodup_singleton _, ?_⟩
    intro first member second last same
    rw [List.map_singleton, List.mem_singleton] at last
    obtain ⟨entry, inside, cellEq⟩ := List.mem_map.mp member
    have before := sound.made entry inside
    rw [cellEq, same, last] at before
    exact Nat.lt_irrefl _ before

theorem Sound.lead (sound : Sound capacity flights)
    (holding : flights.holds caller = some cell)
    (lowered : flights.flag cell = false) :
    Sound capacity
      { flights with
        flag := Function.update flights.flag cell true
        leads := Function.update flights.leads caller (some cell) } := by
  have unled : ∀ other, flights.leads other ≠ some cell := by
    intro other leading
    rw [(sound.leading other cell leading).2] at lowered
    cases lowered
  refine { sound with leading := ?_, alone := ?_, flagged := ?_ }
  · intro other own leading
    dsimp only at leading ⊢
    by_cases here : other = caller
    · subst here
      rw [Function.update_self] at leading
      cases leading
      exact ⟨holding, Function.update_self _ _ _⟩
    · rw [Function.update_of_ne here] at leading
      obtain ⟨otherHolds, raised⟩ := sound.leading other own leading
      refine ⟨otherHolds, ?_⟩
      rw [Function.update_of_ne, raised]
      intro same
      rw [same] at leading
      exact unled other leading
  · intro first second own firstLeads secondLeads
    dsimp only at firstLeads secondLeads
    by_cases firstHere : first = caller
    · by_cases secondHere : second = caller
      · rw [firstHere, secondHere]
      · rw [firstHere, Function.update_self] at firstLeads
        rw [Function.update_of_ne secondHere] at secondLeads
        cases firstLeads
        exact absurd secondLeads (unled second)
    · rw [Function.update_of_ne firstHere] at firstLeads
      by_cases secondHere : second = caller
      · rw [secondHere, Function.update_self] at secondLeads
        cases secondLeads
        exact absurd firstLeads (unled first)
      · rw [Function.update_of_ne secondHere] at secondLeads
        exact sound.alone first second own firstLeads secondLeads
  · intro own raised
    dsimp only at raised ⊢
    by_cases here : own = cell
    · subst here
      exact ⟨caller, Function.update_self _ _ _⟩
    · rw [Function.update_of_ne here] at raised
      obtain ⟨other, leading⟩ := sound.flagged own raised
      refine ⟨other, ?_⟩
      rw [Function.update_of_ne, leading]
      intro same
      subst same
      rw [(sound.leading other own leading).1] at holding
      exact here (Option.some.inj holding)

theorem Sound.land (sound : Sound capacity flights)
    (leading : flights.leads caller = some cell) :
    Sound capacity
      { flights with
        flag := Function.update flights.flag cell false
        leads := Function.update flights.leads caller none } := by
  have kept : ∀ other own,
      Function.update flights.leads caller none other = some own →
        other ≠ caller ∧ flights.leads other = some own := by
    intro other own otherLeads
    by_cases here : other = caller
    · rw [here, Function.update_self] at otherLeads
      cases otherLeads
    · rw [Function.update_of_ne here] at otherLeads
      exact ⟨here, otherLeads⟩
  refine { sound with leading := ?_, alone := ?_, flagged := ?_ }
  · intro other own otherLeads
    obtain ⟨different, before⟩ := kept other own otherLeads
    obtain ⟨holding, raised⟩ := sound.leading other own before
    refine ⟨holding, ?_⟩
    dsimp only
    rw [Function.update_of_ne, raised]
    intro same
    rw [same] at before
    exact different (sound.alone other caller cell before leading)
  · intro first second own firstLeads secondLeads
    exact sound.alone first second own (kept first own firstLeads).2
      (kept second own secondLeads).2
  · intro own raised
    dsimp only at raised ⊢
    by_cases here : own = cell
    · rw [here, Function.update_self] at raised
      cases raised
    · rw [Function.update_of_ne here] at raised
      obtain ⟨other, otherLeads⟩ := sound.flagged own raised
      refine ⟨other, ?_⟩
      rw [Function.update_of_ne, otherLeads]
      intro same
      rw [same, leading] at otherLeads
      exact here (Option.some.inj otherLeads).symm

theorem Sound.release (sound : Sound capacity flights)
    (following : flights.leads caller = none) :
    Sound capacity
      { flights with holds := Function.update flights.holds caller none } := by
  refine { sound with held := ?_, leading := ?_ }
  · intro other own holding
    dsimp only at holding
    by_cases here : other = caller
    · rw [here, Function.update_self] at holding
      cases holding
    · rw [Function.update_of_ne here] at holding
      exact sound.held other own holding
  · intro other own leading
    obtain ⟨holding, raised⟩ := sound.leading other own leading
    refine ⟨?_, raised⟩
    dsimp only
    rw [Function.update_of_ne, holding]
    intro same
    rw [same, following] at leading
    cases leading

end Moves

theorem Sound.step (sound : Sound capacity flights)
    (moved : Step capacity flights after) : Sound capacity after := by
  cases moved with
  | arrive caller key new =>
      exact sound.arrive new
  | evict fewer unused =>
      exact sound.evict fewer unused
  | create came free absent room =>
      exact sound.create came free absent room
  | join came free member =>
      exact
        { sound with
          held := sound.held_update (List.Subset.refl _) came member
          leading := fun _ _ leading => sound.leading_of_free free leading }
  | lead holding lowered =>
      exact sound.lead holding lowered
  | land leading =>
      exact sound.land leading
  | release following =>
      exact sound.release following

theorem Sound.steps (sound : Sound capacity flights)
    (moved : Relation.ReflTransGen (Step capacity) flights after) :
    Sound capacity after := by
  induction moved with
  | refl =>
      exact sound
  | tail _ last ih =>
      exact ih.step last

end SingleFlight
