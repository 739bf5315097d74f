/-
A sliding window with a filtered view that is kept up to date.

The window retains the latest elements of a history.  The view is not computed
from it again at every element: an element that leaves the window also leaves
the front of the view when the filter shows it, and a new one is added at the
back.
-/
import Mathlib.Data.List.DropRight

namespace FilteredWindow

variable {α : Type}

structure Window (α : Type) where
  retained : List α
  shown : List α

def Agrees (keep : α → Bool) (window : Window α) : Prop :=
  window.shown = window.retained.filter keep

def evict (keep : α → Bool) (window : Window α) : Window α :=
  match window.retained with
  | [] => window
  | front :: rest =>
      { retained := rest
        shown := if keep front = true then window.shown.tail else window.shown }

def extend (keep : α → Bool) (window : Window α) (item : α) : Window α :=
  { retained := window.retained ++ [item]
    shown := if keep item = true then window.shown ++ [item] else window.shown }

def push (capacity : Nat) (keep : α → Bool) (window : Window α) (item : α) :
    Window α :=
  extend keep
    (if window.retained.length = capacity then evict keep window else window)
    item

/-! ### Agreement -/

theorem evict_agrees {keep : α → Bool} {window : Window α}
    (agrees : Agrees keep window) : Agrees keep (evict keep window) := by
  unfold Agrees at agrees ⊢
  unfold evict
  cases retained : window.retained with
  | nil =>
      rw [retained] at agrees
      simp only [agrees, retained]
  | cons front rest =>
      rw [retained] at agrees
      by_cases shown : keep front = true
      · simp only [agrees, List.filter_cons_of_pos shown, if_pos shown,
          List.tail_cons]
      · simp only [agrees, List.filter_cons_of_neg shown, if_neg shown]

theorem extend_agrees {keep : α → Bool} {window : Window α} (item : α)
    (agrees : Agrees keep window) : Agrees keep (extend keep window item) := by
  unfold Agrees at agrees ⊢
  unfold extend
  dsimp only
  rw [List.filter_append, agrees]
  by_cases shown : keep item = true
  · rw [if_pos shown, List.filter_cons_of_pos shown, List.filter_nil]
  · rw [if_neg shown, List.filter_cons_of_neg shown, List.filter_nil,
      List.append_nil]

theorem push_agrees {capacity : Nat} {keep : α → Bool} {window : Window α}
    (item : α) (agrees : Agrees keep window) :
    Agrees keep (push capacity keep window item) := by
  unfold push
  apply extend_agrees
  split
  · exact evict_agrees agrees
  · exact agrees

/-! ### What is retained -/

theorem evict_retained (keep : α → Bool) (window : Window α) :
    (evict keep window).retained = window.retained.tail := by
  unfold evict
  cases retained : window.retained with
  | nil =>
      rw [retained]
      rfl
  | cons front rest =>
      rfl

theorem push_retained {capacity : Nat} {keep : α → Bool} {window : Window α}
    {history : List α} (positive : 0 < capacity)
    (latest : window.retained = history.rtake capacity) (item : α) :
    (push capacity keep window item).retained =
      (history ++ [item]).rtake capacity := by
  obtain ⟨room, rfl⟩ := Nat.exists_eq_succ_of_ne_zero positive.ne'
  have size : window.retained.length =
      history.length - (history.length - (room + 1)) := by
    rw [latest, List.rtake, List.length_drop]
  rw [List.rtake_concat_succ]
  unfold push extend
  dsimp only
  refine congrArg (· ++ [item]) ?_
  by_cases full : window.retained.length = room + 1
  · have enough : history.length - (room + 1) + 1 = history.length - room := by
      omega
    rw [if_pos full, evict_retained, latest, List.rtake, List.rtake,
      List.tail_drop, enough]
  · have short : history.length - (room + 1) = history.length - room := by
      omega
    rw [if_neg full, latest, List.rtake, List.rtake, short]

end FilteredWindow
