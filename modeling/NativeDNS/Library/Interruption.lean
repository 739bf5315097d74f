/-
Computations that may be cut off.

The process can end in the middle of any call; then no handler runs and nothing
is cleaned up, so being cut off is an error that no one catches.  A call that is
not atomic leaves anything behind until it is done.  An atomic one is either
made or not, also where the process ends in it.
-/
import NativeDNS.Library.Throwing

namespace Interruption

open Throwing

/-- Why a computation does not return. -/
inductive Stop (ε : Type) where
  | raised (error : ε)
  | cut
  deriving DecidableEq, Repr

inductive Answer (ρ : Type) where
  | done
  | failed (reason : ρ)
  | cut
  deriving DecidableEq, Repr

variable {ε σ ρ α : Type}

/-- Computations on a store of type `σ` with errors of type `ε`. -/
abbrev Computation (ε σ α : Type) := EStateM (Stop ε) σ α

def call (raises : ρ → ε) : Answer ρ → Computation ε σ PUnit
  | .done => pure ⟨⟩
  | .failed reason => throw (.raised (raises reason))
  | .cut => throw .cut

/-- A call that has come as far as `partway` when it does not get done. -/
def torn (raises : ρ → ε) (answer : Answer ρ) (partway change : σ → σ) :
    Computation ε σ PUnit := do
  modify partway
  call raises answer
  modify change

/-- A call that is made at once or not at all; `made` tells which where the
process ends in it. -/
def atomic (raises : ρ → ε) (answer : Answer ρ) (made : Bool) (change : σ → σ) :
    Computation ε σ PUnit :=
  match answer with
  | .done => modify change
  | .failed reason => throw (.raised (raises reason))
  | .cut => do
      modify (if made then change else id)
      throw .cut

/-- Clean up behind an error and raise it again. -/
def cleaningUp (program : Computation ε σ α) (cleanup : Computation ε σ PUnit) :
    Computation ε σ α :=
  tryCatch program fun stop =>
    match stop with
    | .raised error => do
        cleanup
        throw (.raised error)
    | .cut => throw .cut

/-! ### What the calls leave behind -/

variable {raises : ρ → ε} {answer : Answer ρ} {before : σ} {fails : Stop ε → σ → Prop}

theorem call_ends {holds : PUnit → σ → Prop} (done : holds ⟨⟩ before)
    (stopped : ∀ stop, fails stop before) :
    Ends (call raises answer) before holds fails := by
  cases answer with
  | done =>
      exact Ends.ret done
  | failed reason =>
      exact Ends.raise (stopped (.raised (raises reason)))
  | cut =>
      exact Ends.raise (stopped .cut)

theorem call_before {next : PUnit → Computation ε σ α} {holds : α → σ → Prop}
    (stopped : ∀ stop, fails stop before) (rest : Ends (next ⟨⟩) before holds fails) :
    Ends (call raises answer >>= next) before holds fails := by
  have done : Ends (call raises answer) before (fun _ middle => middle = before) fails :=
    call_ends rfl stopped
  apply Ends.bind done
  intro _ middle same
  subst same
  exact rest

theorem torn_ends {partway change : σ → σ} {holds : PUnit → σ → Prop}
    (done : holds ⟨⟩ (change (partway before)))
    (stopped : ∀ stop, fails stop (partway before)) :
    Ends (torn raises answer partway change) before holds fails := by
  apply Ends.updating
  apply call_before stopped
  exact Ends.update done

theorem torn_before {partway change : σ → σ} {next : PUnit → Computation ε σ α}
    {holds : α → σ → Prop} (stopped : ∀ stop, fails stop (partway before))
    (rest : Ends (next ⟨⟩) (change (partway before)) holds fails) :
    Ends (torn raises answer partway change >>= next) before holds fails := by
  have done : Ends (torn raises answer partway change) before
      (fun _ middle => middle = change (partway before)) fails :=
    torn_ends rfl stopped
  apply Ends.bind done
  intro _ middle same
  subst same
  exact rest

theorem atomic_ends {made : Bool} {change : σ → σ} {holds : PUnit → σ → Prop}
    (done : holds ⟨⟩ (change before)) (failed : ∀ error, fails (.raised error) before)
    (unmade : fails .cut before) (cutBehind : fails .cut (change before)) :
    Ends (atomic raises answer made change) before holds fails := by
  cases answer with
  | done =>
      exact Ends.update done
  | failed reason =>
      exact Ends.raise (failed (raises reason))
  | cut =>
      apply Ends.updating
      cases made with
      | true =>
          exact Ends.raise cutBehind
      | false =>
          exact Ends.raise unmade

/-- What a raised error leaves behind is cleaned up; where the process ended it
stays. -/
theorem cleaningUp_ends {program : Computation ε σ α}
    {cleanup : Computation ε σ PUnit} {holds : α → σ → Prop}
    {leaves : Stop ε → σ → Prop} (first : Ends program before holds leaves)
    (cleaned : ∀ error middle, leaves (.raised error) middle →
      Ends cleanup middle (fun _ after => fails (.raised error) after) fails)
    (cut : ∀ middle, leaves .cut middle → fails .cut middle) :
    Ends (cleaningUp program cleanup) before holds fails := by
  apply Ends.caught first
  intro stop middle left
  cases stop with
  | raised error =>
      apply Ends.bind (cleaned error middle left)
      intro _ after failed
      exact Ends.raise failed
  | cut =>
      exact Ends.raise (cut middle left)

end Interruption
