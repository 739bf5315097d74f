/-
Runs of a transition relation and what holds throughout them.
-/

namespace Transition

variable {σ : Type}

/-- The states a run can reach from an initial one. -/
inductive Reachable (initial : σ → Prop) (step : σ → σ → Prop) : σ → Prop
  | start {state : σ} (begins : initial state) : Reachable initial step state
  | next {state after : σ} (before : Reachable initial step state)
      (moved : step state after) : Reachable initial step after

variable {initial : σ → Prop} {step : σ → σ → Prop}

/-- What holds initially and is kept by every step holds of every reachable
state. -/
theorem Reachable.invariant {holds : σ → Prop}
    (base : ∀ state, initial state → holds state)
    (preserved : ∀ state after, Reachable initial step state → holds state →
      step state after → holds after)
    {state : σ} (reached : Reachable initial step state) : holds state := by
  induction reached with
  | start begins =>
      exact base _ begins
  | next before moved ih =>
      exact preserved _ _ before ih moved

theorem Reachable.mono {initial' : σ → Prop} {step' : σ → σ → Prop}
    (begins : ∀ state, initial state → initial' state)
    (moves : ∀ state after, step state after → step' state after)
    {state : σ} (reached : Reachable initial step state) :
    Reachable initial' step' state := by
  induction reached with
  | start started =>
      exact .start (begins _ started)
  | next before moved ih =>
      exact .next ih (moves _ _ moved)

/-! ### Runs of an executable step -/

variable {α : Type}

def performAll (perform : σ → α → Option σ) : σ → List α → Option σ
  | state, [] => some state
  | state, action :: rest => (perform state action).bind (performAll perform · rest)

theorem performAll_append {perform : σ → α → Option σ} {state middle : σ}
    {first : List α} (ran : Transition.performAll perform state first = some middle)
    (later : List α) :
    Transition.performAll perform state (first ++ later) =
      Transition.performAll perform middle later := by
  induction first generalizing state with
  | nil =>
      cases ran
      rfl
  | cons action rest ih =>
      obtain ⟨next, performed, rest⟩ := Option.bind_eq_some_iff.mp ran
      rw [List.cons_append, Transition.performAll, performed, Option.bind_some]
      exact ih rest

theorem Reachable.performAll {perform : σ → α → Option σ}
    (moves : ∀ state action after, perform state action = some after →
      step state after)
    {actions : List α} {state after : σ}
    (reached : Reachable initial step state)
    (ran : Transition.performAll perform state actions = some after) :
    Reachable initial step after := by
  induction actions generalizing state with
  | nil =>
      cases ran
      exact reached
  | cons action rest ih =>
      obtain ⟨middle, first, later⟩ := Option.bind_eq_some_iff.mp ran
      exact ih (.next reached (moves state action middle first)) later

theorem Reachable.performAll_allowed {perform : σ → α → Option σ} {allowed : α → Prop}
    (moves : ∀ state action after, perform state action = some after →
      allowed action → step state after)
    {actions : List α} (permitted : ∀ action ∈ actions, allowed action)
    {state after : σ} (reached : Reachable initial step state)
    (ran : Transition.performAll perform state actions = some after) :
    Reachable initial step after := by
  induction actions generalizing state with
  | nil =>
      cases ran
      exact reached
  | cons action rest ih =>
      obtain ⟨middle, first, later⟩ := Option.bind_eq_some_iff.mp ran
      exact ih (fun other member => permitted other (List.mem_cons_of_mem action member))
        (.next reached
          (moves state action middle first (permitted action List.mem_cons_self)))
        later

theorem performAll_bounded {perform : σ → α → Option σ} {holds : σ → Prop} {effort : σ → Nat}
    {gives : α → Bool} {worth : Nat}
    (step : ∀ state action after, holds state → perform state action = some after →
      holds after ∧
        effort after + 1 ≤ effort state + if gives action = true then worth else 0)
    {actions : List α} {state after : σ} (begins : holds state)
    (ran : Transition.performAll perform state actions = some after) :
    holds after ∧
      actions.length + effort after ≤ effort state + worth * actions.countP gives := by
  induction actions generalizing state with
  | nil =>
      cases ran
      rw [List.length_nil, List.countP_nil, Nat.zero_add]
      exact ⟨begins, Nat.le_refl _⟩
  | cons action rest ih =>
      obtain ⟨middle, first, later⟩ := Option.bind_eq_some_iff.mp ran
      obtain ⟨kept, less⟩ := step state action middle begins first
      obtain ⟨ends, bound⟩ := ih kept later
      refine ⟨ends, ?_⟩
      rw [List.length_cons, List.countP_cons, Nat.mul_add]
      split
      · rename_i given
        rw [if_pos given] at less
        omega
      · rename_i kept
        rw [if_neg kept] at less
        omega

end Transition
