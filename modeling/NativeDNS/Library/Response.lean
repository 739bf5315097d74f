/-
What a fair run answers in the end.

Some steps of a system are helpful.  A run is fair when a helpful step is made
again and again as long as one is possible.  Whatever is pending is answered in
such a run when every step leaves it pending or answers it, helpful steps are
possible while it is pending, no step raises a measure, and helpful ones lower it.
-/
import Mathlib.Tactic.ByContra

namespace Response

variable {σ : Type}

/-- A helpful step that stays possible is made. -/
def Fair (helpful : σ → σ → Prop) (run : Nat → σ) : Prop :=
  ∀ start, (∀ time, start ≤ time → ∃ after, helpful (run time) after) →
    ∃ time, start ≤ time ∧ helpful (run time) (run (time + 1))

/-- A run that is fair to each of several parties is fair to them together, when
only their own steps take a step away from them. -/
theorem Fair.union {ι : Type} {helpful : ι → σ → σ → Prop} {run : Nat → σ}
    (fair : ∀ party, Fair (helpful party) run)
    (lasts : ∀ time party, (∃ after, helpful party (run time) after) →
      (∃ after, helpful party (run (time + 1)) after) ∨
        ∃ other, helpful other (run time) (run (time + 1))) :
    Fair (fun before after => ∃ party, helpful party before after) run := by
  intro start possible
  by_contra never
  have idle : ∀ time, start ≤ time →
      ¬ ∃ other, helpful other (run time) (run (time + 1)) :=
    fun time later moved => never ⟨time, later, moved⟩
  obtain ⟨after, party, begins⟩ := possible start (Nat.le_refl start)
  have stays (later : Nat) : ∃ after, helpful party (run (start + later)) after := by
    induction later with
    | zero =>
        exact ⟨after, begins⟩
    | succ later ih =>
        exact (lasts _ party ih).resolve_right (idle _ (Nat.le_add_right _ _))
  obtain ⟨time, later, moved⟩ := fair party start (by
    intro time later
    obtain ⟨more, rfl⟩ := Nat.exists_eq_add_of_le later
    exact stays more)
  exact idle time later ⟨party, moved⟩

/-- How the steps of a run treat what is pending. -/
structure Answers (helpful : σ → σ → Prop) (pending goal : σ → Prop)
    (measure : σ → Nat) (run : Nat → σ) : Prop where
  possible : ∀ time, pending (run time) → ∃ after, helpful (run time) after
  keeps : ∀ time, pending (run time) → goal (run (time + 1)) ∨
    (pending (run (time + 1)) ∧ measure (run (time + 1)) ≤ measure (run time))
  helps : ∀ time, pending (run time) → helpful (run time) (run (time + 1)) →
    goal (run (time + 1)) ∨ measure (run (time + 1)) < measure (run time)

variable {helpful : σ → σ → Prop} {pending goal : σ → Prop} {measure : σ → Nat}
  {run : Nat → σ}

theorem Answers.stays (answers : Answers helpful pending goal measure run)
    {start : Nat} (begins : pending (run start))
    (unanswered : ∀ time, start ≤ time → ¬ goal (run time)) (later : Nat) :
    pending (run (start + later)) ∧
      measure (run (start + later)) ≤ measure (run start) := by
  induction later with
  | zero =>
      exact ⟨begins, Nat.le_refl _⟩
  | succ later ih =>
      obtain ⟨still, low⟩ := ih
      rcases answers.keeps (start + later) still with answered | ⟨kept, lower⟩
      · exact absurd answered (unanswered _ (by omega))
      · exact ⟨kept, Nat.le_trans lower low⟩

theorem Answers.eventually (answers : Answers helpful pending goal measure run)
    (fair : Fair helpful run) {start : Nat} (begins : pending (run start)) :
    ∃ time, start ≤ time ∧ goal (run time) := by
  induction level : measure (run start) using Nat.strongRecOn generalizing start with
  | _ level ih =>
      by_contra never
      have unanswered : ∀ time, start ≤ time → ¬ goal (run time) :=
        fun time after goals => never ⟨time, after, goals⟩
      obtain ⟨time, after, helpful⟩ := fair start (by
        intro time after
        obtain ⟨later, rfl⟩ := Nat.exists_eq_add_of_le after
        exact answers.possible _ (answers.stays begins unanswered later).1)
      obtain ⟨later, rfl⟩ := Nat.exists_eq_add_of_le after
      obtain ⟨still, low⟩ := answers.stays begins unanswered later
      have open_next := unanswered (start + later + 1) (by omega)
      have kept := (answers.keeps _ still).resolve_left open_next
      have lower := (answers.helps _ still helpful).resolve_left open_next
      obtain ⟨answered, behind, goals⟩ := ih _ (by omega) kept.1 rfl
      exact never ⟨answered, by omega, goals⟩

end Response
