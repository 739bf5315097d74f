/-
Scanners over a list of tokens.

A scanner that returns has read at least one token and leaves a suffix of its
input.  Both facts are fields of the outcome, so that a recursive scanner
terminates by the length of its input and can never run past the end.
-/
import NativeDNS.Library.CheckedResult
import Mathlib.Data.List.Infix
import Mathlib.Data.List.TakeWhile

namespace Scanner

open CheckedResult

variable {τ α β ε : Type} {input middle outer : List τ}

/-- The outcome of a scanner on `input`: a value and the tokens left. -/
structure Scanned (α : Type) (input : List τ) where
  value : α
  rest : List τ
  suffix : rest <:+ input
  advanced : rest.length < input.length

namespace Scanned

/-- The same scan, begun further inside a longer input. -/
def within (scanned : Scanned α input) (inside : input <:+ outer) :
    Scanned α outer :=
  { value := scanned.value
    rest := scanned.rest
    suffix := scanned.suffix.trans inside
    advanced := Nat.lt_of_lt_of_le scanned.advanced inside.length_le }

def after (first : Scanned α input) (second : Scanned β middle)
    (behind : middle <:+ first.rest) : Scanned β input :=
  second.within (behind.trans first.suffix)

def map (build : α → β) (scanned : Scanned α input) : Scanned β input :=
  { scanned with value := build scanned.value }

@[simp] theorem within_value (scanned : Scanned α input)
    (inside : input <:+ outer) : (scanned.within inside).value = scanned.value :=
  rfl

@[simp] theorem within_rest (scanned : Scanned α input)
    (inside : input <:+ outer) : (scanned.within inside).rest = scanned.rest :=
  rfl

@[simp] theorem after_value (first : Scanned α input)
    (second : Scanned β middle) (behind : middle <:+ first.rest) :
    (first.after second behind).value = second.value :=
  rfl

@[simp] theorem after_rest (first : Scanned α input)
    (second : Scanned β middle) (behind : middle <:+ first.rest) :
    (first.after second behind).rest = second.rest :=
  rfl

@[simp] theorem map_value (build : α → β) (scanned : Scanned α input) :
    (scanned.map build).value = build scanned.value :=
  rfl

@[simp] theorem map_rest (build : α → β) (scanned : Scanned α input) :
    (scanned.map build).rest = scanned.rest :=
  rfl

theorem behind_lt (scanned : Scanned α input)
    (behind : middle <:+ scanned.rest) : middle.length < input.length :=
  Nat.lt_of_le_of_lt behind.length_le scanned.advanced

end Scanned

/-! ### What a scan shows -/

/-- The value of a scan and what it leaves, without the input it was made on. -/
def seen (run : Except ε (Scanned α input)) : Except ε (α × List τ) :=
  run.map fun scanned => (scanned.value, scanned.rest)

@[simp] theorem seen_ok (scanned : Scanned α input) :
    seen (.ok scanned : Except ε (Scanned α input)) =
      .ok (scanned.value, scanned.rest) :=
  rfl

@[simp] theorem seen_error (error : ε) :
    seen (.error error : Except ε (Scanned α input)) = .error error :=
  rfl

theorem seen_bind {run : Except ε (Scanned α input)}
    {next : Scanned α input → Except ε (Scanned β outer)}
    {show_ : α × List τ → Except ε (β × List τ)}
    (same : ∀ scanned, seen (next scanned) = show_ (scanned.value, scanned.rest)) :
    seen (run >>= next) = (seen run >>= show_) := by
  cases run with
  | error error =>
      rfl
  | ok scanned =>
      exact same scanned

theorem seen_rejectIf {condition : Prop} [Decidable condition] {error : ε}
    {next : Except ε (Scanned α input)} :
    seen (rejectIf condition error >>= fun _ => next) =
      (rejectIf condition error >>= fun _ => seen next) := by
  by_cases rejected : condition
  · rw [rejectIf_of rejected]
    rfl
  · rw [rejectIf_of_not rejected]
    rfl

theorem seen_left {run : Except ε (Scanned α input)} {value : α} {rest : List τ}
    (shown : seen run = .ok (value, rest)) :
    rest <:+ input ∧ rest.length < input.length := by
  cases run with
  | error error =>
      cases shown
  | ok scanned =>
      cases shown
      exact ⟨scanned.suffix, scanned.advanced⟩

end Scanner
