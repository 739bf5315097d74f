/-
Inversion rules for computations that either return or raise.

A checked computation is a value of `Except`.  The rules below take a
sequenced computation apart once, so that a proof about a long sequence of
checks names the intermediate results instead of unfolding the monad.
-/

namespace CheckedResult

variable {ε α β : Type}

/-- Raise `error` exactly when `condition` holds, as a guard statement does. -/
def rejectIf (condition : Prop) [Decidable condition] (error : ε) :
    Except ε Unit :=
  if condition then .error error else .ok ()

@[simp] theorem ok_bind (value : α) (next : α → Except ε β) :
    ((Except.ok value : Except ε α) >>= next) = next value :=
  rfl

@[simp] theorem error_bind (error : ε) (next : α → Except ε β) :
    ((Except.error error : Except ε α) >>= next) = .error error :=
  rfl

@[simp] theorem pure_eq_ok (value : α) :
    (pure value : Except ε α) = .ok value :=
  rfl

/-- A sequence returns exactly when its first part returns and the rest
returns from that result. -/
theorem bind_eq_ok {first : Except ε α} {next : α → Except ε β} {result : β} :
    (first >>= next) = .ok result ↔
      ∃ value, first = .ok value ∧ next value = .ok result := by
  cases first with
  | error error =>
      simp
  | ok value =>
      simp

/-- A sequence raises when its first part raises, or when the rest raises
from the first result. -/
theorem bind_eq_error {first : Except ε α} {next : α → Except ε β} {error : ε} :
    (first >>= next) = .error error ↔
      first = .error error ∨
        ∃ value, first = .ok value ∧ next value = .error error := by
  cases first with
  | error raised =>
      simp
  | ok value =>
      simp

@[simp] theorem rejectIf_eq_ok {condition : Prop} [Decidable condition]
    {error : ε} {result : Unit} :
    rejectIf condition error = .ok result ↔ ¬ condition := by
  unfold rejectIf
  by_cases rejected : condition
  · simp [rejected]
  · simp [rejected]

@[simp] theorem rejectIf_eq_error {condition : Prop} [Decidable condition]
    {error raised : ε} :
    rejectIf condition error = .error raised ↔ condition ∧ error = raised := by
  unfold rejectIf
  by_cases rejected : condition
  · simp [rejected]
  · simp [rejected]

theorem rejectIf_of_not {condition : Prop} [Decidable condition] {error : ε}
    (accepted : ¬ condition) :
    rejectIf condition error = .ok () :=
  if_neg accepted

theorem rejectIf_of {condition : Prop} [Decidable condition] {error : ε}
    (rejected : condition) :
    rejectIf condition error = .error error :=
  if_pos rejected

theorem ok_of_optional {condition : Prop} [Decidable condition]
    {check : Except ε α} {rest : Except ε β} {result : β}
    (run : (if condition then check >>= fun _ => rest else rest) = .ok result) :
    rest = .ok result := by
  split at run
  · obtain ⟨_, _, passed⟩ := bind_eq_ok.mp run
    exact passed
  · exact run

/-! ### Errors a computation can raise -/

/-- Every error a computation raises is an allowed one. -/
def RaisesOnly (allowed : ε → Prop) (computation : Except ε α) : Prop :=
  ∀ error, computation = .error error → allowed error

theorem RaisesOnly.pure {allowed : ε → Prop} (value : α) :
    RaisesOnly allowed (Pure.pure value : Except ε α) := by
  intro error raised
  cases raised

theorem RaisesOnly.throw {allowed : ε → Prop} {error : ε} (admitted : allowed error) :
    RaisesOnly allowed (MonadExcept.throw error : Except ε α) := by
  intro raised same
  cases same
  exact admitted

theorem RaisesOnly.rejectIf {allowed : ε → Prop} {condition : Prop} [Decidable condition]
    {error : ε} (admitted : allowed error) :
    RaisesOnly allowed (CheckedResult.rejectIf condition error) := by
  intro raised rejected
  rw [← (rejectIf_eq_error.mp rejected).2]
  exact admitted

theorem RaisesOnly.bind {allowed : ε → Prop} {first : Except ε α} {next : α → Except ε β}
    (front : RaisesOnly allowed first) (back : ∀ value, RaisesOnly allowed (next value)) :
    RaisesOnly allowed (first >>= next) := by
  intro error raised
  rcases bind_eq_error.mp raised with early | ⟨value, _, late⟩
  · exact front error early
  · exact back value error late

/-! ### Counted loops -/

/-- A counted loop whose body may raise; `index` is the number of the next
pass. -/
def repeatFrom (step : Nat → α → Except ε α) : Nat → Nat → α → Except ε α
  | 0, _, state => pure state
  | left + 1, index, state => do
      let state ← step index state
      repeatFrom step left (index + 1) state

@[simp] theorem repeatFrom_zero (step : Nat → α → Except ε α) (index : Nat)
    (state : α) :
    repeatFrom step 0 index state = .ok state :=
  rfl

theorem repeatFrom_succ (step : Nat → α → Except ε α) (left index : Nat)
    (state : α) :
    repeatFrom step (left + 1) index state =
      (step index state >>= repeatFrom step left (index + 1)) :=
  rfl

theorem repeatFrom_invariant {step : Nat → α → Except ε α}
    {holds : Nat → α → Prop}
    (preserved : ∀ index state next, holds index state →
      step index state = .ok next → holds (index + 1) next) :
    ∀ {left index : Nat} {state result : α}, holds index state →
      repeatFrom step left index state = .ok result →
        holds (index + left) result
  | 0, index, state, result, start, run => by
      cases run
      exact start
  | left + 1, index, state, result, start, run => by
      obtain ⟨next, passed, rest⟩ := bind_eq_ok.mp run
      have after := repeatFrom_invariant preserved
        (preserved index state next start passed) rest
      rwa [Nat.add_assoc, Nat.add_comm 1 left] at after

theorem exists_error_of_not_ok {computation : Except ε α}
    (never : ∀ value, computation ≠ .ok value) :
    ∃ error, computation = .error error := by
  cases computation with
  | error error =>
      exact ⟨error, rfl⟩
  | ok value =>
      exact absurd rfl (never value)

/-! ### Loops over a list -/

/-- What each pass carries over to one more processed item holds of all items
behind a loop that returns. -/
theorem foldlM_processed {σ : Type} {step : σ → α → Except ε σ}
    {processed : List α → σ → Prop}
    (pass : ∀ before item state next, processed before state →
      step state item = .ok next → processed (before ++ [item]) next)
    {before items : List α} {state final : σ} (start : processed before state)
    (run : items.foldlM step state = .ok final) :
    processed (before ++ items) final := by
  induction items generalizing before state with
  | nil =>
      cases run
      rwa [List.append_nil]
  | cons item rest ih =>
      rw [List.foldlM_cons] at run
      obtain ⟨next, passed, others⟩ := bind_eq_ok.mp run
      have carried := pass before item state next start passed
      have done := ih carried others
      rwa [List.append_assoc] at done

end CheckedResult
