/-
Tickets that are admitted once, and only for a while.

A ticket is issued for a key.  A table keeps for each key the time from which
its ticket is too old, and a history lists what happened to the tickets.  What
the table holds is outstanding in the history.
-/
import NativeDNS.Library.Lists
import NativeDNS.Library.OrderedMap

namespace Tickets

inductive Event (κ : Type) where
  | issued (key : κ) (time : Nat)
  | withdrawn (key : κ)
  | admitted (key : κ) (time : Nat)
  | cleared

def Event.Ends {κ : Type} (key : κ) : Event κ → Prop
  | .issued _ _ => False
  | .withdrawn other => other = key
  | .admitted other _ => other = key
  | .cleared => True

section Histories

variable {κ : Type}

/-- A ticket for the key was issued at the time and has not ended since. -/
def Outstanding (history : List (Event κ)) (key : κ) (time : Nat) : Prop :=
  ∃ before after, history = before ++ .issued key time :: after ∧
    ∀ event ∈ after, ¬ event.Ends key

/-- Every admission is of an outstanding ticket younger than the lifetime. -/
def Admissions (lifetime : Nat) (history : List (Event κ)) : Prop :=
  ∀ before key now after, history = before ++ .admitted key now :: after →
    ∃ time, Outstanding before key time ∧ now < time + lifetime

variable {lifetime : Nat} {history : List (Event κ)} {key : κ} {time : Nat}

theorem Outstanding.issue (history : List (Event κ)) (key : κ) (time : Nat) :
    Outstanding (history ++ [.issued key time]) key time :=
  ⟨history, [], rfl, by simp⟩

theorem Outstanding.snoc (outstanding : Outstanding history key time)
    {event : Event κ} (other : ¬ event.Ends key) :
    Outstanding (history ++ [event]) key time := by
  obtain ⟨before, after, split, quiet⟩ := outstanding
  refine ⟨before, after ++ [event], ?_, ?_⟩
  · rw [split, List.append_assoc, List.cons_append]
  · intro later member
    rcases List.mem_append.mp member with earlier | last
    · exact quiet later earlier
    · rw [List.mem_singleton.mp last]
      exact other

theorem Admissions.nil : Admissions lifetime ([] : List (Event κ)) := by
  intro before key now after split
  have impossible := congrArg List.length split
  rw [List.length_append, List.length_cons, List.length_nil] at impossible
  omega

theorem Admissions.snoc (admissions : Admissions lifetime history)
    {event : Event κ}
    (allowed : ∀ key now, event = .admitted key now →
      ∃ time, Outstanding history key time ∧ now < time + lifetime) :
    Admissions lifetime (history ++ [event]) := by
  intro before key now after split
  rcases Lists.snoc_split split with ⟨_, whole, last⟩ | ⟨init, _, whole⟩
  · rw [← whole]
    exact allowed key now last
  · exact admissions before key now init whole

theorem Admissions.issued_between (admissions : Admissions lifetime history)
    {first between rest : List (Event κ)} {earlier later : Nat}
    (split : history =
      first ++ .admitted key earlier :: (between ++ .admitted key later :: rest)) :
    ∃ time, .issued key time ∈ between ∧ later < time + lifetime := by
  obtain ⟨time, ⟨before, after, whole, quiet⟩, young⟩ :=
    admissions (first ++ .admitted key earlier :: between) key later rest (by
      rw [split, List.append_assoc, List.cons_append])
  refine ⟨time, ?_, young⟩
  rcases List.append_eq_append_iff.mp whole with
    ⟨shift, _, tail⟩ | ⟨shift, _, tail⟩
  · -- The ticket was issued behind the first admission.
    cases shift with
    | nil =>
        cases tail
    | cons head shift =>
        obtain ⟨_, same⟩ := List.cons.inj tail
        rw [same]
        exact List.mem_append_right shift List.mem_cons_self
  · -- The first admission would have ended it.
    cases shift with
    | nil =>
        cases tail
    | cons head shift =>
        obtain ⟨_, same⟩ := List.cons.inj tail
        have ended : ¬ (Event.admitted key earlier).Ends key := by
          apply quiet
          rw [same]
          exact List.mem_append_right shift List.mem_cons_self
        exact absurd rfl ended

end Histories

/-! ### The table -/

variable {κ : Type} [LinearOrder κ]

def prune (table : OrderedMap κ Nat) (now : Nat) : OrderedMap κ Nat :=
  table.filter fun entry => now < entry.2

/-- What the table holds is outstanding and as old as it says. -/
def Covers (lifetime : Nat) (table : OrderedMap κ Nat)
    (history : List (Event κ)) : Prop :=
  ∀ key deadline, table.find? key = some deadline →
    ∃ time, deadline = time + lifetime ∧ Outstanding history key time

variable {lifetime : Nat} {table : OrderedMap κ Nat} {history : List (Event κ)}
  {key : κ} {now deadline : Nat}

theorem find?_prune (found : (prune table now).find? key = some deadline) :
    table.find? key = some deadline ∧ now < deadline := by
  refine ⟨OrderedMap.find?_filter_of_some found, ?_⟩
  have member := OrderedMap.find?_eq_some_iff.mp found
  exact of_decide_eq_true (List.mem_filter.mp member).2

theorem size_prune_le (table : OrderedMap κ Nat) (now : Nat) :
    (prune table now).size ≤ table.size :=
  table.size_filter_le _

theorem size_prune_lt (present : table.find? key = some deadline)
    (pruned : (prune table now).find? key = none) :
    (prune table now).size < table.size := by
  refine List.length_filter_lt_length_iff_exists.mpr ⟨(key, deadline), ?_, ?_⟩
  · exact OrderedMap.find?_eq_some_iff.mp present
  · intro kept
    have member : (key, deadline) ∈ (prune table now).entries :=
      List.mem_filter.mpr
        ⟨OrderedMap.find?_eq_some_iff.mp present, kept⟩
    exact OrderedMap.find?_eq_none_iff.mp pruned _ member rfl

theorem Covers.empty (history : List (Event κ)) :
    Covers lifetime (.empty : OrderedMap κ Nat) history := by
  intro key deadline found
  cases found

theorem Covers.prune (covers : Covers lifetime table history) (now : Nat) :
    Covers lifetime (prune table now) history := by
  intro key deadline found
  exact covers key deadline (find?_prune found).1

theorem Covers.admissible (covers : Covers lifetime table history)
    (found : (Tickets.prune table now).find? key = some deadline) :
    ∃ time, Outstanding history key time ∧ now < time + lifetime := by
  obtain ⟨present, young⟩ := find?_prune found
  obtain ⟨time, same, outstanding⟩ := covers key deadline present
  exact ⟨time, outstanding, same ▸ young⟩

theorem Covers.issue (covers : Covers lifetime table history) (key : κ)
    (time : Nat) :
    Covers lifetime (table.insert key (time + lifetime))
      (history ++ [.issued key time]) := by
  intro other deadline found
  rw [OrderedMap.find?_insert] at found
  by_cases same : key = other
  · rw [if_pos same] at found
    exact ⟨time, (Option.some.inj found).symm,
      same ▸ Outstanding.issue history key time⟩
  · rw [if_neg same] at found
    obtain ⟨earlier, deadlineEq, outstanding⟩ := covers other deadline found
    exact ⟨earlier, deadlineEq, outstanding.snoc (by simp [Event.Ends])⟩

theorem Covers.erase (covers : Covers lifetime table history) {event : Event κ}
    (only : ∀ other, event.Ends other → key = other) :
    Covers lifetime (table.erase key) (history ++ [event]) := by
  intro other deadline found
  rw [OrderedMap.find?_erase] at found
  by_cases same : key = other
  · rw [if_pos same] at found
    cases found
  · rw [if_neg same] at found
    obtain ⟨time, deadlineEq, outstanding⟩ := covers other deadline found
    exact ⟨time, deadlineEq, outstanding.snoc (fun ends => same (only other ends))⟩

end Tickets
