/-
Runs whose unchecked accesses are guarded.

A program in an unsafe language raises errors of its own, and may also do what
the language does not define: index outside an array or subtract below zero in
an unsigned type.  A guarded run makes each such access an explicit fault, and
a loop without a bound one that gives up.  A guarded run that `raising` relates
to a plain checked one commits none of these: `raising` has no fault in its
image.
-/
import NativeDNS.Library.CheckedResult

namespace GuardedAccess

open CheckedResult

/-- How a guarded run can end without a value. -/
inductive Fault (ε : Type) where
  /-- An error the program itself raises. -/
  | raised (error : ε)
  | outOfRange
  | underflow
  /-- A loop that would take another pass than the ones it was given. -/
  | unfinished
  deriving DecidableEq

abbrev Guarded (ε α : Type) := Except (Fault ε) α

variable {ε α β σ : Type}

/-- A checked computation as a guarded run that commits no fault. -/
def raising : Except ε α → Guarded ε α
  | .ok value => .ok value
  | .error error => .error (.raised error)

/-! ### The guarded accesses -/

def readAt (items : List α) (index : Nat) : Guarded ε α :=
  match items[index]? with
  | some item => .ok item
  | none => .error .outOfRange

def writeAt (items : List α) (index : Nat) (item : α) : Guarded ε (List α) :=
  if index < items.length then .ok (items.set index item)
  else .error .outOfRange

/-- The items from one position on, as many as `count`. -/
def readSpan (items : List α) (start count : Nat) : Guarded ε (List α) :=
  if start + count ≤ items.length then .ok ((items.drop start).take count)
  else .error .outOfRange

def minus (left right : Nat) : Guarded ε Nat :=
  if right ≤ left then .ok (left - right) else .error .underflow

/-- Pass after pass until one of them returns.  Before every pass the loop may
raise; the first argument is the number of passes it may take. -/
def passes (check : σ → Guarded ε Unit) (pass : σ → Guarded ε (σ ⊕ α)) :
    Nat → σ → Guarded ε α
  | left, state => do
      check state
      match left with
      | 0 => .error .unfinished
      | left + 1 => do
          match ← pass state with
          | .inl next => passes check pass left next
          | .inr result => .ok result

/-! ### Accesses within bounds -/

theorem readAt_of_lt {items : List α} {index : Nat} {fallback : α}
    (inside : index < items.length) :
    (readAt items index : Guarded ε α) = .ok (items.getD index fallback) := by
  unfold readAt
  rw [List.getD_eq_getElem?_getD, List.getElem?_eq_getElem inside]
  rfl

theorem writeAt_of_lt {items : List α} {index : Nat} {item : α}
    (inside : index < items.length) :
    (writeAt items index item : Guarded ε (List α)) =
      .ok (items.set index item) :=
  if_pos inside

theorem readSpan_of_le {items : List α} {start count : Nat}
    (inside : start + count ≤ items.length) :
    (readSpan items start count : Guarded ε (List α)) =
      .ok ((items.drop start).take count) :=
  if_pos inside

theorem minus_of_le {left right : Nat} (fits : right ≤ left) :
    (minus left right : Guarded ε Nat) = .ok (left - right) :=
  if_pos fits

/-! ### Checked computations as guarded runs -/

@[simp] theorem raising_ok (value : α) :
    raising (.ok value : Except ε α) = .ok value :=
  rfl

@[simp] theorem raising_error (error : ε) :
    raising (.error error : Except ε α) = .error (.raised error) :=
  rfl

theorem raising_rejectIf {condition : Prop} [Decidable condition] {error : ε} :
    raising (rejectIf condition error) =
      rejectIf condition (Fault.raised error) := by
  unfold rejectIf
  by_cases rejected : condition
  · rw [if_pos rejected, if_pos rejected]
    rfl
  · rw [if_neg rejected, if_neg rejected]
    rfl

theorem raising_bind (first : Except ε α) (next : α → Except ε β) :
    raising (first >>= next) =
      (raising first >>= fun value => raising (next value)) := by
  cases first with
  | error error =>
      rfl
  | ok value =>
      rfl

/-- A sequence commits no fault when its first part does not and, behind every
value of that, the rest does not. -/
theorem bind_raising {run : Guarded ε α} {rest : α → Guarded ε β}
    {first : Except ε α} {next : α → Except ε β} (here : run = raising first)
    (behind : ∀ value, first = .ok value → rest value = raising (next value)) :
    (run >>= rest) = raising (first >>= next) := by
  rw [here, raising_bind]
  cases computed : first with
  | error error =>
      rfl
  | ok value =>
      exact behind value computed

theorem rejectIf_raising {condition : Prop} [Decidable condition] {error : ε}
    {rest : Guarded ε β} {next : Except ε β}
    (behind : ¬ condition → rest = raising next) :
    (rejectIf condition (Fault.raised error) >>= fun _ => rest) =
      raising (rejectIf condition error >>= fun _ => next) := by
  refine bind_raising raising_rejectIf.symm ?_
  intro _ passed
  exact behind (rejectIf_eq_ok.mp passed)

theorem rejectIf_or_raising {first second : Prop} [Decidable first]
    [Decidable second] {error : ε} {rest : Guarded ε β} {next : Except ε β}
    (behind : ¬ first →
      rest = raising (rejectIf second error >>= fun _ => next)) :
    (rejectIf first (Fault.raised error) >>= fun _ => rest) =
      raising (rejectIf (first ∨ second) error >>= fun _ => next) := by
  by_cases rejected : first
  · rw [rejectIf_of rejected, rejectIf_of (.inl rejected)]
    rfl
  · rw [rejectIf_of_not rejected, ok_bind, behind rejected]
    unfold rejectIf
    simp only [rejected, false_or]

/-- A run that ends as the checked computation does and commits no fault. -/
structure Meets (run : Guarded ε α) (computation : Except ε α) : Prop where
  same : run = raising computation
  inRange : run ≠ .error .outOfRange
  nonnegative : run ≠ .error .underflow
  finished : run ≠ .error .unfinished

theorem meets_of_eq {run : Guarded ε α} {computation : Except ε α}
    (same : run = raising computation) : Meets run computation := by
  subst same
  cases computation with
  | error error =>
      exact { same := rfl, inRange := by simp, nonnegative := by simp, finished := by simp }
  | ok value =>
      exact { same := rfl, inRange := by simp, nonnegative := by simp, finished := by simp }

/-! ### Loops -/

/-- What a pass may do beside a loop: end as the loop does, or go on to a state
from which the loop does the same. -/
def Follows (pass : Guarded ε (σ ⊕ α)) (holds : σ → Prop) (whole : Except ε α)
    (rest : σ → Except ε α) : Prop :=
  (∃ error, pass = .error (.raised error) ∧ whole = .error error) ∨
    (∃ result, pass = .ok (.inr result) ∧ whole = .ok result) ∨
    ∃ next, pass = .ok (.inl next) ∧ holds next ∧ whole = rest next

theorem Follows.mono {pass : Guarded ε (σ ⊕ α)} {holds others : σ → Prop}
    {whole : Except ε α} {rest : σ → Except ε α}
    (follows : Follows pass holds whole rest)
    (weaker : ∀ next, holds next → others next) :
    Follows pass others whole rest := by
  rcases follows with raised | ended | ⟨next, went, still, same⟩
  · exact .inl raised
  · exact .inr (.inl ended)
  · exact .inr (.inr ⟨next, went, weaker next still, same⟩)

/-- Passes that follow a loop of checked ones end as it does, and need no more
passes than it is given. -/
theorem passes_raising {check : σ → Guarded ε Unit}
    {pass : σ → Guarded ε (σ ⊕ α)} {holds : Nat → σ → Prop}
    {checked : Nat → σ → Except ε α}
    (last : ∀ state, holds 0 state →
      ∃ error, check state = .error (.raised error) ∧
        checked 0 state = .error error)
    (each : ∀ left state, holds (left + 1) state →
      (∃ error, check state = .error (.raised error) ∧
        checked (left + 1) state = .error error) ∨
      check state = .ok () ∧
        Follows (pass state) (holds left) (checked (left + 1) state)
          (checked left)) :
    ∀ (left : Nat) (state : σ), holds left state →
      passes check pass left state = raising (checked left state)
  | 0, state, start => by
      obtain ⟨error, raised, same⟩ := last state start
      unfold passes
      rw [raised, same]
      rfl
  | left + 1, state, start => by
      unfold passes
      rcases each left state start with ⟨error, raised, same⟩ | ⟨passed, moved⟩
      · rw [raised, same]
        rfl
      · rw [passed, ok_bind]
        dsimp only
        rcases moved with ⟨error, raised, same⟩ | ⟨result, ended, same⟩ |
          ⟨next, went, still, same⟩
        · rw [raised, same]
          rfl
        · rw [ended, same]
          rfl
        · rw [went, same, ok_bind]
          exact passes_raising last each left next still

theorem repeatFrom_raising {guarded : Nat → σ → Guarded ε σ}
    {checked : Nat → σ → Except ε σ}
    (pass : ∀ index state,
      guarded index state = raising (checked index state)) :
    ∀ (count index : Nat) (state : σ),
      repeatFrom guarded count index state =
        raising (repeatFrom checked count index state)
  | 0, _, _ => rfl
  | count + 1, index, state => by
      rw [repeatFrom_succ, repeatFrom_succ]
      refine bind_raising (pass index state) ?_
      intro next _
      exact repeatFrom_raising pass count (index + 1) next

theorem foldlM_raising {guarded : σ → α → Guarded ε σ}
    {checked : σ → α → Except ε σ}
    (pass : ∀ state item, guarded state item = raising (checked state item)) :
    ∀ (items : List α) (state : σ),
      items.foldlM guarded state = raising (items.foldlM checked state)
  | [], _ => rfl
  | item :: rest, state => by
      rw [List.foldlM_cons, List.foldlM_cons]
      refine bind_raising (pass state item) ?_
      intro next _
      exact foldlM_raising pass rest next

end GuardedAccess
