/-
The budget of a resolution and its attempts.

Every attempt gets an equal share of what is left, so no attempt takes the
time of a later one.  The attempts are made in the order of the two passes,
the first usable answer ends them, and only the deadline, a cancellation or an
exception that the loop does not handle can cut them short.
-/
import NativeDNS.Transport.Bootstrap

namespace NativeDNS

open ByteText (text)
open CheckedResult

def bootstrapQuestions (resolvers : List Bytes) : List (UInt16 × Bytes) :=
  resolvers.map (fun resolver => (1, resolver)) ++
    resolvers.map (fun resolver => (28, resolver))

def BootstrapAttempt.question (attempt : BootstrapAttempt) : UInt16 × Bytes :=
  (attempt.type, attempt.resolver)

/-- The readings of one resolution never go back. -/
structure BootstrapEnv.Steady (env : BootstrapEnv) (resolvers : Nat) :
    Prop where
  handled : ∀ index, env.started index ≤ env.failed index
  next : ∀ index, env.failed index ≤ env.started (index + 1)
  passEnd : ∀ pass index, index < (pass + 1) * resolvers →
    env.failed index ≤ env.passed pass
  passNext : ∀ pass, env.passed pass ≤ env.started ((pass + 1) * resolvers)

section Resolution

variable (platform : Platform) (env : BootstrapEnv) (server : Server)
  (host : Bytes) (deadline : Nat) (resolvers : List Bytes)

def UsableAnswer (index : Nat) (attempt : BootstrapAttempt) (endpoint : Bytes)
    (ttl : Nat) : Prop :=
  ∃ answer, askResolver platform env server host index attempt = .ok answer ∧
    usableAddress answer = some endpoint ∧ ttl = min answer.cacheTtl 60

/-- No attempt takes longer than its timeout and nothing else takes time. -/
def PromptAttempts (attempts : List BootstrapAttempt) : Prop :=
  ∀ index attempt, attempts[index]? = some attempt →
    env.started (index + 1) ≤
      env.started index + attempt.timeoutMs * nanosPerMilli

/-- A millisecond for every attempt remains at the start. -/
def EnoughTime : Prop :=
  resolvers.length * 2 * nanosPerMilli ≤ deadline - env.started 0

structure AttemptsMade (attempts : List BootstrapAttempt) : Prop where
  order : attempts.map (·.question) =
    (bootstrapQuestions resolvers).take attempts.length
  timeouts : ∀ attempt ∈ attempts,
    1 ≤ attempt.timeoutMs ∧ attempt.timeoutMs ≤ 1000
  early : ∀ index < attempts.length, env.started index < deadline

structure BootstrapResolved (attempts : List BootstrapAttempt)
    (result : BootstrapResult) : Prop where
  made : AttemptsMade env deadline resolvers attempts
  defined : result ≠ .divisionByZero
  resolved : ∀ endpoint ttl, result = .resolved endpoint ttl →
    ttl ≤ 60 ∧ ∃ index attempt, attempts[index]? = some attempt ∧
      attempts.length = index + 1 ∧
      UsableAnswer platform env server host index attempt endpoint ttl
  first : ∀ index attempt endpoint ttl, attempts[index]? = some attempt →
    UsableAnswer platform env server host index attempt endpoint ttl →
      attempts.length = index + 1 ∧ result = .resolved endpoint ttl
  fair : EnoughTime env deadline resolvers → PromptAttempts env attempts →
    attempts.length = resolvers.length * 2 ∨
      (∃ endpoint ttl, result = .resolved endpoint ttl) ∨
      (∃ error, result = .raised (.error error) ∧ error.code = "CANCELLED") ∨
      ∃ what, result = .raised (.exception what)

/-! ### The state between two attempts -/

/-- Attempts without a usable answer, and how many are left. -/
structure BootstrapUnanswered (state : BootstrapProgress) : Prop where
  made : AttemptsMade env deadline resolvers state.attempts
  left : state.attemptsLeft + state.attempts.length = resolvers.length * 2
  unusable : ∀ index attempt endpoint ttl,
    state.attempts[index]? = some attempt →
      ¬ UsableAnswer platform env server host index attempt endpoint ttl

/-- The loops stand before attempt `index`: all before it were made, or no
later one will be. -/
structure BootstrapReached (index : Nat) (state : BootstrapProgress) : Prop where
  unanswered : BootstrapUnanswered platform env server host deadline resolvers state
  reach : state.attempts.length = index ∨
    (deadline - env.started index) / nanosPerMilli = 0
  funded : EnoughTime env deadline resolvers → PromptAttempts env state.attempts →
    state.attempts.length = index ∧
      (resolvers.length * 2 - index) * nanosPerMilli ≤
        deadline - env.started index

/-- The loops were left without a result. -/
structure BootstrapStopped (state : BootstrapProgress) : Prop where
  unanswered : BootstrapUnanswered platform env server host deadline resolvers state
  fair : EnoughTime env deadline resolvers → PromptAttempts env state.attempts →
    state.attempts.length = resolvers.length * 2

/-- Attempt `index` has its budget and is about to be answered. -/
structure BootstrapAttempted (index : Nat) (attempt : BootstrapAttempt)
    (state : BootstrapProgress) : Prop where
  made : AttemptsMade env deadline resolvers state.attempts
  length : state.attempts.length = index + 1
  last : state.attempts[index]? = some attempt
  earlier : ∀ position other endpoint ttl,
    state.attempts[position]? = some other → position ≠ index →
      ¬ UsableAnswer platform env server host position other endpoint ttl
  onward : (∀ endpoint ttl,
      ¬ UsableAnswer platform env server host index attempt endpoint ttl) →
    BootstrapReached platform env server host deadline resolvers (index + 1) state

/-- What one attempt leaves behind, by how it ends. -/
structure BootstrapAdvances (index : Nat) (after : BootstrapProgress)
    (flow : BootstrapFlow) : Prop where
  again : flow = .again →
    BootstrapReached platform env server host deadline resolvers (index + 1) after
  leave : flow = .leave →
    BootstrapStopped platform env server host deadline resolvers after ∧
      deadline ≤ env.failed index
  finish : ∀ result, flow = .finish result →
    BootstrapResolved platform env server host deadline resolvers after.attempts result

end Resolution

section Attempts

variable {platform : Platform} {env : BootstrapEnv} {server : Server}
  {host : Bytes} {deadline : Nat} {resolvers : List Bytes}
  {state : BootstrapProgress} {index : Nat}

theorem bootstrapQuestions_length :
    (bootstrapQuestions resolvers).length = resolvers.length * 2 := by
  unfold bootstrapQuestions
  rw [List.length_append, List.length_map, List.length_map]
  omega

theorem PromptAttempts.front {attempts later : List BootstrapAttempt}
    (prompt : PromptAttempts env (attempts ++ later)) : PromptAttempts env attempts := by
  intro position attempt found
  have inside : position < attempts.length :=
    (List.getElem?_eq_some_iff.mp found).1
  apply prompt position attempt
  rw [List.getElem?_append_left inside]
  exact found

theorem attemptTimeout_le {budget left : Nat} (positive : 0 < left)
    (enough : left ≤ budget) :
    attemptTimeout (budget % 2 ^ 32) left ≤ budget - left + 1 := by
  have share : budget % 2 ^ 32 / left ≤ budget - left + 1 := by
    have wrapped : budget % 2 ^ 32 ≤ budget := Nat.mod_le _ _
    have whole := Nat.div_mul_le_self (budget % 2 ^ 32) left
    generalize budget % 2 ^ 32 / left = quotient at whole
    cases quotient with
    | zero =>
        exact Nat.zero_le _
    | succ quotient =>
        rw [Nat.succ_mul] at whole
        have spread := Nat.le_mul_of_pos_right quotient positive
        omega
  unfold attemptTimeout
  omega

theorem attemptTimeout_bounds (budget left : Nat) :
    1 ≤ attemptTimeout budget left ∧ attemptTimeout budget left ≤ 1000 := by
  unfold attemptTimeout
  omega

theorem remaining_eq_ok {now budget : Nat} {cancelled : Bool} :
    remaining deadline now cancelled = .ok budget ↔
      cancelled = false ∧ (deadline - now) / nanosPerMilli ≠ 0 ∧
        budget = (deadline - now) / nanosPerMilli % 2 ^ 32 := by
  simp only [remaining, bind_eq_ok, rejectIf_eq_ok, pure_eq_ok]
  constructor
  · rintro ⟨_, running, _, timely, returned⟩
    exact ⟨Bool.eq_false_iff.mpr running, timely, (Except.ok.inj returned).symm⟩
  · rintro ⟨running, timely, rfl⟩
    exact ⟨(), Bool.eq_false_iff.mp running, (), timely, rfl⟩

theorem remaining_eq_error {now : Nat} {cancelled : Bool} {error : Error}
    (refused : remaining deadline now cancelled = .error error) :
    error.code = "CANCELLED" ∨ (deadline - now) / nanosPerMilli = 0 := by
  simp only [remaining, bind_eq_error, rejectIf_eq_error] at refused
  rcases refused with ⟨_, rfl⟩ | ⟨_, _, ⟨late, _⟩ | ⟨_, _, returned⟩⟩
  · exact Or.inl rfl
  · exact Or.inr late
  · cases returned

/-- An attempt that fails without an answer: cancelled, out of time, or passed
over. -/
theorem attemptFailed_advances (steady : env.Steady resolvers.length)
    (within : index < resolvers.length * 2)
    (unanswered : BootstrapUnanswered platform env server host deadline resolvers state)
    {error : Error}
    (reached : error.code ≠ "CANCELLED" →
      BootstrapReached platform env server host deadline resolvers (index + 1) state)
    (type : UInt16) (resolver : Bytes) :
    BootstrapAdvances platform env server host deadline resolvers index
      (attemptFailed env deadline index type resolver error state).1
      (attemptFailed env deadline index type resolver error state).2 := by
  unfold attemptFailed
  by_cases cancelled : error.code = "CANCELLED"
  · rw [if_pos cancelled]
    refine ⟨fun impossible => BootstrapFlow.noConfusion impossible,
      fun impossible => BootstrapFlow.noConfusion impossible, ?_⟩
    intro result finished
    cases finished
    exact
      { made := unanswered.made
        defined := fun impossible => BootstrapResult.noConfusion impossible
        resolved := fun _ _ impossible =>
          BootstrapResult.noConfusion impossible
        first := fun position attempt endpoint ttl found usable =>
          absurd usable (unanswered.unusable position attempt endpoint ttl found)
        fair := fun _ _ =>
          Or.inr (Or.inr (Or.inl ⟨error, rfl, cancelled⟩)) }
  · rw [if_neg cancelled]
    have here := reached cancelled
    dsimp only
    by_cases late : deadline ≤ env.failed index
    · rw [if_pos late]
      refine ⟨fun impossible => BootstrapFlow.noConfusion impossible, ?_,
        fun _ impossible => BootstrapFlow.noConfusion impossible⟩
      intro _
      refine ⟨⟨⟨unanswered.made, unanswered.left, unanswered.unusable⟩, ?_⟩,
        late⟩
      intro enough prompt
      obtain ⟨length, funded⟩ := here.funded enough prompt
      have after := steady.next index
      have milli : 0 < nanosPerMilli := by decide
      have spent : (resolvers.length * 2 - (index + 1)) * nanosPerMilli = 0 := by
        omega
      have last : resolvers.length * 2 - (index + 1) = 0 :=
        (Nat.mul_eq_zero.mp spent).resolve_right (by omega)
      change state.attempts.length = _
      omega
    · rw [if_neg late]
      refine ⟨fun _ => ?_, fun impossible => BootstrapFlow.noConfusion impossible,
        fun _ impossible => BootstrapFlow.noConfusion impossible⟩
      exact ⟨⟨unanswered.made, unanswered.left, unanswered.unusable⟩, here.reach,
        here.funded⟩

theorem AttemptsMade.append
    (made : AttemptsMade env deadline resolvers state.attempts)
    {attempt : BootstrapAttempt}
    (next : (bootstrapQuestions resolvers)[state.attempts.length]? =
      some attempt.question)
    (bounds : 1 ≤ attempt.timeoutMs ∧ attempt.timeoutMs ≤ 1000)
    (early : env.started state.attempts.length < deadline) :
    AttemptsMade env deadline resolvers (state.attempts ++ [attempt]) where
  order := by
    rw [List.map_append, made.order, List.length_append, List.length_singleton,
      List.take_add_one, next]
    rfl
  timeouts := by
    intro other member
    rcases List.mem_append.mp member with earlier | last
    · exact made.timeouts other earlier
    · rw [List.mem_singleton.mp last]
      exact bounds
  early := by
    intro position inside
    rw [List.length_append, List.length_singleton] at inside
    rcases Nat.lt_succ_iff_lt_or_eq.mp inside with earlier | last
    · exact made.early position earlier
    · rw [last]
      exact early

theorem BootstrapReached.attempted
    (reached : BootstrapReached platform env server host deadline resolvers index state)
    (within : index < resolvers.length * 2)
    (timely : (deadline - env.started index) / nanosPerMilli ≠ 0)
    {attempt : BootstrapAttempt}
    (next : (bootstrapQuestions resolvers)[index]? = some attempt.question)
    (share : attempt.timeoutMs =
      attemptTimeout ((deadline - env.started index) / nanosPerMilli % 2 ^ 32)
        state.attemptsLeft) {after : BootstrapProgress}
    (attempts : after.attempts = state.attempts ++ [attempt])
    (left : after.attemptsLeft = state.attemptsLeft - 1) :
    state.attemptsLeft ≠ 0 ∧
      BootstrapAttempted platform env server host deadline resolvers index attempt
        after := by
  have length := reached.reach.resolve_right timely
  have total := reached.unanswered.left
  have bounds := attemptTimeout_bounds
    ((deadline - env.started index) / nanosPerMilli % 2 ^ 32) state.attemptsLeft
  rw [← share] at bounds
  have early : env.started index < deadline := by
    apply Nat.lt_of_not_le
    intro late
    rw [Nat.sub_eq_zero_of_le late, Nat.zero_div] at timely
    exact timely rfl
  have made : AttemptsMade env deadline resolvers after.attempts := by
    rw [attempts]
    exact reached.unanswered.made.append (by rw [length]; exact next) bounds
      (by rw [length]; exact early)
  have afterLength : after.attempts.length = index + 1 := by
    rw [attempts, List.length_append, length, List.length_singleton]
  have last : after.attempts[index]? = some attempt := by
    rw [attempts, ← length, List.getElem?_concat_length]
  have earlier : ∀ position other endpoint ttl,
      after.attempts[position]? = some other → position ≠ index →
        ¬ UsableAnswer platform env server host position other endpoint ttl := by
    intro position other endpoint ttl found different
    have inside := (List.getElem?_eq_some_iff.mp found).1
    rw [attempts, List.getElem?_append_left (by omega)] at found
    exact reached.unanswered.unusable position other endpoint ttl found
  refine ⟨by omega, made, afterLength, last, earlier, ?_⟩
  intro unused
  refine ⟨⟨made, by omega, ?_⟩, Or.inl afterLength, ?_⟩
  · intro position other endpoint ttl found
    by_cases here : position = index
    · subst here
      rw [last] at found
      cases found
      exact unused endpoint ttl
    · exact earlier position other endpoint ttl found here
  · intro enough prompt
    have taken := prompt index attempt last
    rw [attempts] at prompt
    obtain ⟨_, funded⟩ := reached.funded enough prompt.front
    refine ⟨afterLength, ?_⟩
    have milli : 0 < nanosPerMilli := by decide
    have whole := Nat.div_mul_le_self (deadline - env.started index)
      nanosPerMilli
    have least := (Nat.le_div_iff_mul_le milli).mpr funded
    have leftEq : state.attemptsLeft = resolvers.length * 2 - index := by omega
    rw [leftEq] at share
    have shared := @attemptTimeout_le
      ((deadline - env.started index) / nanosPerMilli)
      (resolvers.length * 2 - index) (by omega) least
    rw [← share] at shared
    generalize (deadline - env.started index) / nanosPerMilli = budget
      at whole least shared
    have kept : (resolvers.length * 2 - (index + 1)) + attempt.timeoutMs ≤
        budget := by
      omega
    have scaled := Nat.mul_le_mul_right nanosPerMilli kept
    rw [Nat.add_mul] at scaled
    omega

theorem attemptAnswered_advances (steady : env.Steady resolvers.length)
    (within : index < resolvers.length * 2) {attempt : BootstrapAttempt}
    (attempted : BootstrapAttempted platform env server host deadline resolvers index
      attempt state) :
    BootstrapAdvances platform env server host deadline resolvers index
      (attemptAnswered platform env server host deadline index attempt state).1
      (attemptAnswered platform env server host deadline index attempt
        state).2 := by
  unfold attemptAnswered
  cases answered : askResolver platform env server host index attempt with
  | error thrown =>
      have onward := attempted.onward (by
        rintro endpoint ttl ⟨answer, given, _⟩
        rw [answered] at given
        cases given)
      cases thrown with
      | error error =>
          exact attemptFailed_advances steady within onward.unanswered
            (fun _ => onward) attempt.type attempt.resolver
      | exception what =>
          dsimp only
          refine ⟨fun impossible => BootstrapFlow.noConfusion impossible,
            fun impossible => BootstrapFlow.noConfusion impossible, ?_⟩
          intro result finished
          cases finished
          exact
            { made := attempted.made
              defined := fun impossible =>
                BootstrapResult.noConfusion impossible
              resolved := fun _ _ impossible =>
                BootstrapResult.noConfusion impossible
              first := fun position other endpoint ttl found usable =>
                absurd usable (onward.unanswered.unusable position other
                  endpoint ttl found)
              fair := fun _ _ => Or.inr (Or.inr (Or.inr ⟨what, rfl⟩)) }
  | ok answer =>
      dsimp only
      cases used : usableAddress answer with
      | none =>
          have onward := attempted.onward (by
            rintro endpoint ttl ⟨other, given, usable, _⟩
            rw [answered] at given
            cases given
            rw [used] at usable
            cases usable)
          refine ⟨fun _ => ?_,
            fun impossible => BootstrapFlow.noConfusion impossible,
            fun _ impossible => BootstrapFlow.noConfusion impossible⟩
          exact ⟨⟨onward.unanswered.made, onward.unanswered.left,
            onward.unanswered.unusable⟩, onward.reach, onward.funded⟩
      | some endpoint =>
          refine ⟨fun impossible => BootstrapFlow.noConfusion impossible,
            fun impossible => BootstrapFlow.noConfusion impossible, ?_⟩
          intro result finished
          cases finished
          have usable : UsableAnswer platform env server host index attempt
              endpoint (min answer.cacheTtl 60) :=
            ⟨answer, answered, used, rfl⟩
          exact
            { made := attempted.made
              defined := fun impossible =>
                BootstrapResult.noConfusion impossible
              resolved := by
                intro returned ttl same
                cases same
                exact ⟨Nat.min_le_right _ _, index, attempt, attempted.last,
                  attempted.length, usable⟩
              first := by
                intro position other returned ttl found otherUsable
                by_cases here : position = index
                · subst here
                  rw [attempted.last] at found
                  cases found
                  obtain ⟨same, given, usedSame, ttlEq⟩ := otherUsable
                  rw [answered] at given
                  cases given
                  rw [used] at usedSame
                  cases usedSame
                  rw [ttlEq]
                  exact ⟨attempted.length, rfl⟩
                · exact absurd otherUsable
                    (attempted.earlier position other returned ttl found here)
              fair := fun _ _ => Or.inr (Or.inl ⟨endpoint, _, rfl⟩) }

theorem bootstrapAttempt_advances (steady : env.Steady resolvers.length)
    (within : index < resolvers.length * 2)
    (reached : BootstrapReached platform env server host deadline resolvers index state)
    {type : UInt16} {resolver : Bytes}
    (next : (bootstrapQuestions resolvers)[index]? = some (type, resolver)) :
    BootstrapAdvances platform env server host deadline resolvers index
      (bootstrapAttempt platform env server host deadline index type resolver
        state).1
      (bootstrapAttempt platform env server host deadline index type resolver
        state).2 := by
  have milli : 0 < nanosPerMilli := by decide
  unfold bootstrapAttempt
  cases budgeted :
      remaining deadline (env.started index) (env.cancelled index) with
  | error error =>
      dsimp only
      refine attemptFailed_advances steady within reached.unanswered ?_ type
        resolver
      intro uncancelled
      have late := (remaining_eq_error budgeted).resolve_left uncancelled
      have onward : env.started index ≤ env.started (index + 1) :=
        Nat.le_trans (steady.handled index) (steady.next index)
      rw [Nat.div_eq_zero_iff_lt milli] at late
      refine ⟨reached.unanswered, Or.inr ?_, ?_⟩
      · rw [Nat.div_eq_zero_iff_lt milli]
        omega
      · intro enough prompt
        obtain ⟨_, funded⟩ := reached.funded enough prompt
        have least := Nat.mul_le_mul_right nanosPerMilli
          (show 1 ≤ resolvers.length * 2 - index by omega)
        omega
  | ok budget =>
      obtain ⟨_, timely, budgetEq⟩ := remaining_eq_ok.mp budgeted
      dsimp only
      obtain ⟨nonzero, attempted⟩ :=
        @BootstrapReached.attempted platform env server host deadline resolvers state
          index reached within timely
          { type := type
            resolver := resolver
            timeoutMs := attemptTimeout budget state.attemptsLeft } next
          (by rw [← budgetEq])
          { state with
            attemptsLeft := state.attemptsLeft - 1
            attempts := state.attempts ++
              [{ type := type
                 resolver := resolver
                 timeoutMs := attemptTimeout budget state.attemptsLeft }] }
          rfl rfl
      rw [if_neg nonzero]
      exact attemptAnswered_advances steady within attempted

theorem BootstrapReached.stopped
    (reached : BootstrapReached platform env server host deadline resolvers index state)
    (inside : index ≤ resolvers.length * 2)
    (ended : index = resolvers.length * 2 ∨ deadline ≤ env.started index) :
    BootstrapStopped platform env server host deadline resolvers state := by
  refine ⟨reached.unanswered, ?_⟩
  intro enough prompt
  obtain ⟨length, funded⟩ := reached.funded enough prompt
  rcases ended with last | late
  · rw [length, last]
  · have milli : 0 < nanosPerMilli := by decide
    have spent : (resolvers.length * 2 - index) * nanosPerMilli = 0 := by
      omega
    have last := (Nat.mul_eq_zero.mp spent).resolve_right (by omega)
    omega

/-- One pass over the resolvers: by induction on those that are left, each
attempt from the state the one before it leaves. -/
theorem bootstrapPass_reaches (steady : env.Steady resolvers.length)
    (type : UInt16) (rest : List Bytes)
    (reached : BootstrapReached platform env server host deadline resolvers index state)
    (questions : ∀ offset resolver, rest[offset]? = some resolver →
      (bootstrapQuestions resolvers)[index + offset]? =
        some (type, resolver)) :
    (∀ result,
      (bootstrapPass platform env server host deadline type rest index
          state).2 = some result →
        BootstrapResolved platform env server host deadline resolvers
          (bootstrapPass platform env server host deadline type rest index
            state).1.attempts result) ∧
    ((bootstrapPass platform env server host deadline type rest index
        state).2 = none →
      BootstrapReached platform env server host deadline resolvers (index + rest.length)
          (bootstrapPass platform env server host deadline type rest index
            state).1 ∨
        BootstrapStopped platform env server host deadline resolvers
            (bootstrapPass platform env server host deadline type rest index
              state).1 ∧
          ∃ position < index + rest.length,
            deadline ≤ env.failed position) := by
  induction rest generalizing index state with
  | nil =>
      exact ⟨fun _ impossible => (by cases impossible),
        fun _ => Or.inl reached⟩
  | cons resolver rest ih =>
      have next := questions 0 resolver rfl
      rw [Nat.add_zero] at next
      have within := (List.getElem?_eq_some_iff.mp next).1
      rw [bootstrapQuestions_length] at within
      have advances := bootstrapAttempt_advances steady within reached next
      unfold bootstrapPass
      generalize bootstrapAttempt platform env server host deadline index type
        resolver state = attempt at advances
      obtain ⟨after, flow⟩ := attempt
      cases flow with
      | again =>
          have onward := ih (advances.again rfl) (by
            intro offset other found
            have later := questions (offset + 1) other found
            rw [← Nat.add_assoc] at later
            rw [Nat.add_right_comm]
            exact later)
          rw [List.length_cons, ← Nat.add_assoc, Nat.add_right_comm]
          exact onward
      | leave =>
          refine ⟨fun _ impossible => (by cases impossible), fun _ => Or.inr ?_⟩
          obtain ⟨stopped, late⟩ := advances.leave rfl
          exact ⟨stopped, index, by rw [List.length_cons]; omega, late⟩
      | finish result =>
          refine ⟨?_, fun impossible => (by cases impossible)⟩
          intro other same
          cases same
          exact advances.finish result rfl

theorem bootstrapQuestions_first {offset : Nat} {resolver : Bytes}
    (found : resolvers[offset]? = some resolver) :
    (bootstrapQuestions resolvers)[0 * resolvers.length + offset]? =
      some (1, resolver) := by
  have inside := (List.getElem?_eq_some_iff.mp found).1
  unfold bootstrapQuestions
  rw [Nat.zero_mul, Nat.zero_add, List.getElem?_append_left
    (by rw [List.length_map]; exact inside), List.getElem?_map, found]
  rfl

theorem bootstrapQuestions_second {offset : Nat} {resolver : Bytes}
    (found : resolvers[offset]? = some resolver) :
    (bootstrapQuestions resolvers)[(0 + 1) * resolvers.length + offset]? =
      some (28, resolver) := by
  unfold bootstrapQuestions
  rw [Nat.zero_add, Nat.one_mul, List.getElem?_append_right
    (by rw [List.length_map]; omega), List.length_map,
    Nat.add_sub_cancel_left, List.getElem?_map, found]
  rfl

theorem bootstrapPasses_reaches (steady : env.Steady resolvers.length)
    (reached : BootstrapReached platform env server host deadline resolvers 0 state) :
    (∀ result,
      (bootstrapPasses platform env server host deadline resolvers [1, 28] 0
          state).2 = some result →
        BootstrapResolved platform env server host deadline resolvers
          (bootstrapPasses platform env server host deadline resolvers [1, 28] 0
            state).1.attempts result) ∧
    ((bootstrapPasses platform env server host deadline resolvers [1, 28] 0
        state).2 = none →
      BootstrapStopped platform env server host deadline resolvers
        (bootstrapPasses platform env server host deadline resolvers [1, 28] 0
          state).1) := by
  have start : BootstrapReached platform env server host deadline resolvers
      (0 * resolvers.length) state := by
    rw [Nat.zero_mul]
    exact reached
  obtain ⟨finished, unfinished⟩ := bootstrapPass_reaches steady 1 resolvers
    start (fun offset resolver found => bootstrapQuestions_first found)
  unfold bootstrapPasses
  generalize bootstrapPass platform env server host deadline 1 resolvers
    (0 * resolvers.length) state = first at finished unfinished
  obtain ⟨after, outcome⟩ := first
  cases outcome with
  | some result =>
      refine ⟨?_, fun impossible => (by cases impossible)⟩
      intro other same
      cases same
      exact finished result rfl
  | none =>
      have ended := unfinished rfl
      dsimp only
      by_cases late : deadline ≤ env.passed 0
      · rw [if_pos late]
        refine ⟨fun _ impossible => (by cases impossible), fun _ => ?_⟩
        rcases ended with onward | ⟨stopped, _⟩
        · have next := steady.passNext 0
          refine onward.stopped (by omega) (Or.inr ?_)
          rw [Nat.zero_add, Nat.one_mul] at next
          rw [Nat.zero_mul, Nat.zero_add]
          omega
        · exact stopped
      · rw [if_neg late]
        have onward : BootstrapReached platform env server host deadline resolvers
            ((0 + 1) * resolvers.length) after := by
          rcases ended with onward | ⟨_, position, inside, past⟩
          · rw [Nat.zero_mul, Nat.zero_add] at onward
            rw [Nat.zero_add, Nat.one_mul]
            exact onward
          · have passEnd := steady.passEnd 0 position (by omega)
            exact absurd (Nat.le_trans past passEnd) late
        obtain ⟨finished, unfinished⟩ := bootstrapPass_reaches steady 28
          resolvers onward
          (fun offset resolver found => bootstrapQuestions_second found)
        unfold bootstrapPasses
        generalize bootstrapPass platform env server host deadline 28 resolvers
          ((0 + 1) * resolvers.length) after = second at finished unfinished
        obtain ⟨final, outcome⟩ := second
        cases outcome with
        | some result =>
            refine ⟨?_, fun impossible => (by cases impossible)⟩
            intro other same
            cases same
            exact finished result rfl
        | none =>
            have closed : BootstrapStopped platform env server host deadline resolvers
                final := by
              rcases unfinished rfl with onward | ⟨stopped, _⟩
              · exact onward.stopped (by omega) (Or.inl (by omega))
              · exact stopped
            dsimp only
            split
            · exact ⟨fun _ impossible => (by cases impossible), fun _ => closed⟩
            · unfold bootstrapPasses
              exact ⟨fun _ impossible => (by cases impossible), fun _ => closed⟩

theorem BootstrapStopped.resolved
    (stopped : BootstrapStopped platform env server host deadline resolvers state)
    {error : Error} :
    BootstrapResolved platform env server host deadline resolvers state.attempts
      (.raised (.error error)) where
  made := stopped.unanswered.made
  defined := fun impossible => BootstrapResult.noConfusion impossible
  resolved := fun _ _ impossible => BootstrapResult.noConfusion impossible
  first := fun position attempt endpoint ttl found usable =>
    absurd usable
      (stopped.unanswered.unusable position attempt endpoint ttl found)
  fair := fun enough prompt => Or.inl (stopped.fair enough prompt)

end Attempts

/-- The budget of a resolution is divided by no zero and gives every attempt 1
to 1000 ms; the attempts are made in the order of the questions until the
first usable answer; and with a millisecond for each of them at the start all
are made, unless one is answered, cancelled or ends in an exception that is no
checked error. -/
theorem resolveBootstrap_resolved (platform : Platform) {env : BootstrapEnv}
    (server : Server) (host : Bytes) (deadline : Nat) {resolvers : List Bytes}
    (steady : env.Steady resolvers.length) :
    BootstrapResolved platform env server host deadline resolvers
      (resolveBootstrap platform env server host deadline resolvers).1
      (resolveBootstrap platform env server host deadline resolvers).2 := by
  have start : BootstrapReached platform env server host deadline resolvers 0
      { attemptsLeft := resolvers.length * 2
        failure := text "no usable resolver" } := by
    refine ⟨⟨⟨rfl, ?_, ?_⟩, rfl, ?_⟩, Or.inl rfl, ?_⟩
    · intro attempt member
      exact absurd member List.not_mem_nil
    · intro position inside
      exact absurd inside (Nat.not_lt_zero position)
    · intro position attempt endpoint ttl found
      cases found
    · intro enough _
      exact ⟨rfl, enough⟩
  obtain ⟨finished, unfinished⟩ := bootstrapPasses_reaches steady start
  unfold resolveBootstrap
  generalize bootstrapPasses platform env server host deadline resolvers [1, 28]
    0
    { attemptsLeft := resolvers.length * 2
      failure := text "no usable resolver" } = passes at finished unfinished
  obtain ⟨after, outcome⟩ := passes
  cases outcome with
  | some result =>
      exact finished result rfl
  | none =>
      exact (unfinished rfl).resolved

def fallbackEnv : BootstrapEnv where
  started index := index * 500000000
  failed index := (index + 1) * 500000000
  passed pass := (pass + 1) * 3 * 500000000
  cancelled _ := false
  queryId _ := 7
  exchange index _ _ :=
    if index < 2 then .error (.error (.of "TIMEOUT" "No DNS response"))
    else
      .ok
        ([0, 7, 0x81, 0x80, 0, 1, 0, 1, 0, 0, 0, 0] ++
          [3, 100, 110, 115, 4, 116, 101, 115, 116, 0, 0, 1, 0, 1] ++
          [0xc0, 12, 0, 1, 0, 1, 0, 0, 0, 30, 0, 4, 192, 0, 2, 42])

def fallbackResolvers : List Bytes :=
  [text "127.0.0.2", text "127.0.0.3", text "127.0.0.4"]

theorem fallbackEnv_steady : fallbackEnv.Steady fallbackResolvers.length where
  handled := by
    intro index
    simp only [fallbackEnv]
    omega
  next := by
    intro index
    simp only [fallbackEnv]
    omega
  passEnd := by
    intro pass index inside
    have three : fallbackResolvers.length = 3 := rfl
    simp only [fallbackEnv]
    rw [three] at inside
    omega
  passNext := by
    intro pass
    have three : fallbackResolvers.length = 3 := rfl
    simp only [fallbackEnv]
    rw [three]

theorem resolveBootstrap_resolved_fallback :
    (resolveBootstrap ipv4Platform fallbackEnv {} (text "dns.test") 3000000000
        fallbackResolvers).1.map (·.timeoutMs) = [500, 500, 500] ∧
      BootstrapResolved ipv4Platform fallbackEnv {} (text "dns.test") 3000000000
        fallbackResolvers
        (resolveBootstrap ipv4Platform fallbackEnv {} (text "dns.test")
          3000000000 fallbackResolvers).1
        (resolveBootstrap ipv4Platform fallbackEnv {} (text "dns.test")
          3000000000 fallbackResolvers).2 ∧
      (resolveBootstrap ipv4Platform fallbackEnv {} (text "dns.test") 3000000000
        fallbackResolvers).2 = .resolved (text "192.0.2.42") 30 :=
  ⟨by decide +kernel, resolveBootstrap_resolved ipv4Platform {}
    (text "dns.test") 3000000000 fallbackEnv_steady, by decide +kernel⟩

def exhaustedEnv : BootstrapEnv where
  started _ := 0
  failed _ := 0
  passed _ := 0
  cancelled _ := false
  queryId _ := 7
  exchange _ _ _ := .error (.exception (text "std::bad_alloc"))

/-- Such an exception ends the attempts although no time has passed and no
attempt has succeeded or been cancelled. -/
theorem resolveBootstrap_abandons :
    exhaustedEnv.Steady fallbackResolvers.length ∧
      EnoughTime exhaustedEnv 3000000000 fallbackResolvers ∧
      PromptAttempts exhaustedEnv
        (resolveBootstrap ipv4Platform exhaustedEnv {} (text "dns.test")
          3000000000 fallbackResolvers).1 ∧
      ¬ ((resolveBootstrap ipv4Platform exhaustedEnv {} (text "dns.test")
            3000000000 fallbackResolvers).1.length =
            fallbackResolvers.length * 2 ∨
          (∃ endpoint ttl,
            (resolveBootstrap ipv4Platform exhaustedEnv {} (text "dns.test")
              3000000000 fallbackResolvers).2 = .resolved endpoint ttl) ∨
          ∃ error,
            (resolveBootstrap ipv4Platform exhaustedEnv {} (text "dns.test")
              3000000000 fallbackResolvers).2 = .raised (.error error) ∧
              error.code = "CANCELLED") := by
  have run : resolveBootstrap ipv4Platform exhaustedEnv {} (text "dns.test")
      3000000000 fallbackResolvers =
        ([{ type := 1
            resolver := text "127.0.0.2"
            timeoutMs := 500 }],
          .raised (.exception (text "std::bad_alloc"))) := by
    decide +kernel
  rw [run]
  refine ⟨⟨fun _ => Nat.le_refl _, fun _ => Nat.le_refl _,
    fun _ _ _ => Nat.le_refl _, fun _ => Nat.le_refl _⟩, ?_, ?_, ?_⟩
  · unfold EnoughTime
    decide
  · intro index attempt _
    exact Nat.zero_le _
  · rintro (length | ⟨_, _, resolved⟩ | ⟨_, raised, _⟩)
    · revert length
      decide
    · cases resolved
    · cases raised

end NativeDNS
