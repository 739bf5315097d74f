/-
Stateful computations that may raise and keep their state when they do.

Raising does not undo what has been changed.  A computation is described by what
it leaves when it returns and what it leaves when it raises; the rules follow
its steps.
-/

namespace Throwing

variable {ε σ α β : Type}

/-- A computed result as a step that leaves the state alone. -/
def attempt (result : Except ε α) : EStateM ε σ α := fun state =>
  match result with
  | .ok value => .ok value state
  | .error error => .error error state

/-- From `before` the computation returns with `holds` or raises with `fails`. -/
def Ends (program : EStateM ε σ α) (before : σ) (holds : α → σ → Prop)
    (fails : ε → σ → Prop) : Prop :=
  match program before with
  | .ok value after => holds value after
  | .error error after => fails error after

abbrev Returns (program : EStateM ε σ α) (before : σ) (holds : α → σ → Prop) : Prop :=
  Ends program before holds (fun _ _ => False)

namespace Ends

variable {program : EStateM ε σ α} {before : σ} {holds : α → σ → Prop}
  {fails : ε → σ → Prop}

theorem ret {value : α} (held : holds value before) :
    Ends (pure value : EStateM ε σ α) before holds fails :=
  held

theorem raise {error : ε} (failed : fails error before) :
    Ends (throw error : EStateM ε σ α) before holds fails :=
  failed

theorem update {change : σ → σ} {holds : PUnit → σ → Prop}
    (held : holds ⟨⟩ (change before)) :
    Ends (modify change : EStateM ε σ PUnit) before holds fails :=
  held

theorem attempted {result : Except ε α}
    (held : ∀ value, result = .ok value → holds value before)
    (failed : ∀ error, result = .error error → fails error before) :
    Ends (attempt result) before holds fails := by
  cases result with
  | ok value =>
      exact held value rfl
  | error error =>
      exact failed error rfl

theorem weaken {weaker : α → σ → Prop} {worse : ε → σ → Prop}
    (ended : Ends program before holds fails)
    (held : ∀ value after, holds value after → weaker value after)
    (failed : ∀ error after, fails error after → worse error after) :
    Ends program before weaker worse := by
  unfold Ends at ended ⊢
  cases ran : program before with
  | ok value after =>
      rw [ran] at ended
      exact held value after ended
  | error error after =>
      rw [ran] at ended
      exact failed error after ended

theorem bind {next : α → EStateM ε σ β} {after : β → σ → Prop}
    (first : Ends program before holds fails)
    (rest : ∀ value middle, holds value middle →
      Ends (next value) middle after fails) :
    Ends (program >>= next) before after fails := by
  change match EStateM.bind program next before with
    | .ok value last => after value last
    | .error error last => fails error last
  unfold Ends at first
  rw [EStateM.bind]
  cases ran : program before with
  | ok value middle =>
      rw [ran] at first
      exact rest value middle first
  | error error middle =>
      rw [ran] at first
      exact first

theorem known {next : α → EStateM ε σ β} {value : α} {middle : σ} {after : β → σ → Prop}
    (ran : program before = .ok value middle)
    (rest : Ends (next value) middle after fails) :
    Ends (program >>= next) before after fails := by
  have first : Ends program before
      (fun result last => result = value ∧ last = middle) fails := by
    unfold Ends
    rw [ran]
    exact ⟨rfl, rfl⟩
  refine first.bind ?_
  rintro result last ⟨rfl, rfl⟩
  exact rest

theorem bind_failing {next : α → EStateM ε σ β} {after : β → σ → Prop}
    {raises : ε → σ → Prop} (first : Ends program before holds raises)
    (failed : ∀ error middle, raises error middle → fails error middle)
    (rest : ∀ value middle, holds value middle →
      Ends (next value) middle after fails) :
    Ends (program >>= next) before after fails :=
  (first.weaken (fun _ _ held => held) failed).bind rest

theorem reading {next : σ → EStateM ε σ β} {after : β → σ → Prop}
    (rest : Ends (next before) before after fails) :
    Ends (get >>= next) before after fails :=
  rest

theorem updating {change : σ → σ} {next : PUnit → EStateM ε σ β} {after : β → σ → Prop}
    (rest : Ends (next ⟨⟩) (change before) after fails) :
    Ends (modify change >>= next) before after fails :=
  rest

theorem checking {result : Except ε α} {next : α → EStateM ε σ β} {after : β → σ → Prop}
    (failed : ∀ error, result = .error error → fails error before)
    (rest : ∀ value, result = .ok value → Ends (next value) before after fails) :
    Ends (attempt result >>= next) before after fails := by
  cases result with
  | ok value =>
      exact rest value rfl
  | error error =>
      exact failed error rfl

theorem caught {handler : ε → EStateM ε σ α} {raises : ε → σ → Prop}
    (first : Ends program before holds raises)
    (handled : ∀ error middle, raises error middle →
      Ends (handler error) middle holds fails) :
    Ends (tryCatch program handler) before holds fails := by
  change match EStateM.tryCatch program handler before with
    | .ok value last => holds value last
    | .error error last => fails error last
  unfold Ends at first
  delta EStateM.tryCatch
  cases ran : program before with
  | ok value after =>
      rw [ran] at first
      exact first
  | error error middle =>
      rw [ran] at first
      exact handled error middle first

end Ends

/-- The computation leaves the state alone, whether it returns or raises. -/
abbrev Observes (program : EStateM ε σ α) (before : σ) (learned : α → Prop)
    (raises : ε → Prop) : Prop :=
  Ends program before (fun value after => after = before ∧ learned value)
    (fun error after => after = before ∧ raises error)

theorem Observes.bind {program : EStateM ε σ α} {before : σ} {learned : α → Prop}
    {raises : ε → Prop} {next : α → EStateM ε σ β} {after : β → σ → Prop}
    {fails : ε → σ → Prop} (first : Observes program before learned raises)
    (failed : ∀ error, raises error → fails error before)
    (rest : ∀ value, learned value → Ends (next value) before after fails) :
    Ends (program >>= next) before after fails := by
  refine Ends.bind_failing first ?_ ?_
  · intro error middle ended
    obtain ⟨same, raised⟩ := ended
    subst same
    exact failed error raised
  · intro value middle ended
    obtain ⟨same, known⟩ := ended
    subst same
    exact rest value known

variable {program : EStateM ε σ α} {before : σ} {holds : α → σ → Prop}

theorem Returns.exists (returned : Returns program before holds) :
    ∃ value after, program before = .ok value after ∧ holds value after := by
  unfold Returns Ends at returned
  cases ran : program before with
  | ok value after =>
      rw [ran] at returned
      exact ⟨value, after, rfl, returned⟩
  | error error after =>
      rw [ran] at returned
      exact returned.elim

end Throwing
