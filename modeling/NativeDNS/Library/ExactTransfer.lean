/-
Receiving and sending an exact number of elements over a connection.

A call on the connection moves some of the elements, as many as it likes, or
fails; some failures are retried.  Before each call there may be a wait.  What
happens in the passes of a loop is given as a list, so that a stream is cut in
every way by some list of passes.
-/
import Mathlib.Data.List.Basic

namespace ExactTransfer

inductive Answer where
  | moves (count : Nat)
  | fails (code : Nat)
  deriving DecidableEq

structure CallPass (κ : Type) where
  wait : κ
  answer : Answer

inductive Waited (ε : Type) where
  | ready
  | again
  | raises (error : ε)

/-- How the loops wait, and after which failures of a call they try again. -/
structure Manner (κ ε : Type) where
  wait : κ → Waited ε
  retries : Nat → Bool

/-- What a loop makes of the other failures, and of a call that moves nothing. -/
structure Faults (ε : Type) where
  failed : Nat → ε
  ended : ε

/-- Why a transfer does not come to its end. -/
inductive Halt (ε : Type) where
  | raised (error : ε)
  /-- There is nothing to receive, and the peer has not closed. -/
  | blocked
  /-- The list of passes has come to its end. -/
  | cut
  deriving DecidableEq

/-- One end of a connection: what the peer has sent and not yet been received,
whether it closes behind that, and what it has been sent. -/
structure Line (α κ : Type) where
  unread : List α
  closes : Bool
  written : List α := []
  passes : List (CallPass κ)

variable {α κ ε : Type}

/-- Receive until `size` elements are there; the end of the stream before the
first one may count as `none`.  The rest of the stream and the passes left come
with the result. -/
def receiveLoop (manner : Manner κ ε) (faults : Faults ε) (clean : Bool)
    (size : Nat) (closes : Bool) : List (CallPass κ) → List α → List α →
      Except (Halt ε) (Option (List α)) × List α × List (CallPass κ)
  | [], unread, got =>
      (if size ≤ got.length then .ok (some got) else .error .cut, unread, [])
  | pass :: rest, unread, got =>
      if size ≤ got.length then (.ok (some got), unread, pass :: rest)
      else
        match manner.wait pass.wait with
        | .again => receiveLoop manner faults clean size closes rest unread got
        | .raises error => (.error (.raised error), unread, rest)
        | .ready =>
            match pass.answer with
            | .fails code =>
                if manner.retries code then
                  receiveLoop manner faults clean size closes rest unread got
                else (.error (.raised (faults.failed code)), unread, rest)
            | .moves count =>
                if unread.isEmpty then
                  (if closes then
                      if clean && got.isEmpty then .ok none
                      else .error (.raised faults.ended)
                    else .error .blocked, unread, rest)
                else
                  let taken := min (max count 1) (size - got.length)
                  receiveLoop manner faults clean size closes rest
                    (unread.drop taken) (got ++ unread.take taken)

def receive (manner : Manner κ ε) (faults : Faults ε) (clean : Bool) (size : Nat)
    (line : Line α κ) : Except (Halt ε) (Option (List α)) × Line α κ :=
  let (result, unread, passes) :=
    receiveLoop manner faults clean size line.closes line.passes line.unread []
  (result, { line with unread := unread, passes := passes })

def sendLoop (manner : Manner κ ε) (faults : Faults ε) :
    List (CallPass κ) → List α → List α →
      Except (Halt ε) Unit × List α × List (CallPass κ)
  | [], written, left =>
      (if left.isEmpty then .ok ⟨⟩ else .error .cut, written, [])
  | pass :: rest, written, left =>
      if left.isEmpty then (.ok ⟨⟩, written, pass :: rest)
      else
        match manner.wait pass.wait with
        | .again => sendLoop manner faults rest written left
        | .raises error => (.error (.raised error), written, rest)
        | .ready =>
            match pass.answer with
            | .fails code =>
                if manner.retries code then
                  sendLoop manner faults rest written left
                else (.error (.raised (faults.failed code)), written, rest)
            | .moves count =>
                if count = 0 then (.error (.raised faults.ended), written, rest)
                else
                  sendLoop manner faults rest (written ++ left.take count)
                    (left.drop count)

def send (manner : Manner κ ε) (faults : Faults ε) (bytes : List α) (line : Line α κ) :
    Except (Halt ε) Unit × Line α κ :=
  let (result, written, passes) :=
    sendLoop manner faults line.passes line.written bytes
  (result, { line with written := written, passes := passes })

/-! ### Calm passes -/

/-- No wait raises, no call fails but for what is retried, and every other one
moves something. -/
def CallPass.Calm (manner : Manner κ ε) (pass : CallPass κ) : Prop :=
  match manner.wait pass.wait, pass.answer with
  | .again, _ => True
  | .raises _, _ => False
  | .ready, .fails code => manner.retries code = true
  | .ready, .moves count => 0 < count

def CallPass.moving (manner : Manner κ ε) (pass : CallPass κ) : Bool :=
  match manner.wait pass.wait, pass.answer with
  | .ready, .moves _ => true
  | _, _ => false

abbrev Calm (manner : Manner κ ε) (passes : List (CallPass κ)) : Prop :=
  ∀ pass ∈ passes, pass.Calm manner

abbrev moves (manner : Manner κ ε) (passes : List (CallPass κ)) : Nat :=
  passes.countP (CallPass.moving manner)

/-- Passes that are left when `count` elements have been moved. -/
structure Uses (manner : Manner κ ε) (before after : List (CallPass κ)) (count : Nat) :
    Prop where
  left : after <:+ before
  spent : moves manner before ≤ moves manner after + count

namespace Uses

variable {manner : Manner κ ε} {before middle after : List (CallPass κ)}

theorem refl (passes : List (CallPass κ)) : Uses manner passes passes 0 :=
  { left := List.suffix_rfl
    spent := Nat.le_refl _ }

theorem trans {first second : Nat} (uses : Uses manner before middle first)
    (later : Uses manner middle after second) :
    Uses manner before after (first + second) :=
  { left := later.left.trans uses.left
    spent := by
      have one := uses.spent
      have two := later.spent
      omega }

theorem calm {count : Nat} (uses : Uses manner before after count)
    (calm : Calm manner before) : Calm manner after :=
  fun pass member => calm pass (uses.left.subset member)

theorem quiet {pass : CallPass κ} (rest : List (CallPass κ))
    (still : pass.moving manner = false) : Uses manner (pass :: rest) rest 0 :=
  { left := List.suffix_cons pass rest
    spent := by
      have none : moves manner (pass :: rest) = moves manner rest :=
        List.countP_cons_of_neg (by rw [still]; exact Bool.false_ne_true)
      exact Nat.le_of_eq none }

theorem move (pass : CallPass κ) (rest : List (CallPass κ)) {count : Nat}
    (some : 0 < count) : Uses manner (pass :: rest) rest count :=
  { left := List.suffix_cons pass rest
    spent := by
      have most : moves manner (pass :: rest) ≤ moves manner rest + 1 := by
        simp only [moves, List.countP_cons]
        split <;> omega
      omega }

end Uses

/-! ### What the loops do in calm passes -/

section Receiving

variable {manner : Manner κ ε} {faults : Faults ε} {clean : Bool} {size : Nat}
  {closes : Bool}

/-- How receiving ends that has `got` some elements already. -/
inductive Receives (manner : Manner κ ε) (faults : Faults ε) (clean : Bool)
    (size : Nat) (closes : Bool) (passes : List (CallPass κ)) (unread got : List α) :
    Except (Halt ε) (Option (List α)) × List α × List (CallPass κ) → Prop
  | all {more rest : List α} {later : List (CallPass κ)}
      (split : unread = more ++ rest) (full : got.length + more.length = size)
      (uses : Uses manner passes later more.length)
      (shrinks : got.length < size → later.length < passes.length) :
      Receives manner faults clean size closes passes unread got
        (.ok (some (got ++ more)), rest, later)
  | clean (allowed : clean = true) (nothing : got ++ unread = [])
      (closed : closes = true) (later : List (CallPass κ)) :
      Receives manner faults clean size closes passes unread got (.ok none, [], later)
  | short (closed : closes = true) (few : (got ++ unread).length < size)
      (torn : clean = false ∨ got ++ unread ≠ []) (later : List (CallPass κ)) :
      Receives manner faults clean size closes passes unread got
        (.error (.raised faults.ended), [], later)
  | blocked (opened : closes = false) (few : (got ++ unread).length < size)
      (later : List (CallPass κ)) :
      Receives manner faults clean size closes passes unread got
        (.error .blocked, [], later)
  | cut {part rest : List α} (split : unread = part ++ rest)
      (spent : moves manner passes ≤ part.length) :
      Receives manner faults clean size closes passes unread got
        (.error .cut, rest, [])

theorem Receives.behind {got chunk unread : List α} {pass : CallPass κ}
    {rest : List (CallPass κ)}
    {result : Except (Halt ε) (Option (List α)) × List α × List (CallPass κ)}
    (uses : Uses manner (pass :: rest) rest chunk.length)
    (received : Receives manner faults clean size closes rest unread (got ++ chunk)
      result) :
    Receives manner faults clean size closes (pass :: rest) (chunk ++ unread) got
      result := by
  cases received with
  | all split full later shrinks =>
      rw [split, List.append_assoc]
      refine .all (List.append_assoc ..).symm ?_ ?_ ?_
      · rw [List.length_append] at full ⊢
        omega
      · rw [List.length_append]
        exact uses.trans later
      · intro _
        exact Nat.lt_succ_of_le later.left.length_le
  | clean allowed nothing closed later =>
      rw [List.append_assoc] at nothing
      exact .clean allowed nothing closed later
  | short closed few torn later =>
      rw [List.append_assoc] at few torn
      exact .short closed few torn later
  | blocked opened few later =>
      rw [List.append_assoc] at few
      exact .blocked opened few later
  | @cut part _ split spent =>
      rw [split, ← List.append_assoc]
      refine .cut rfl ?_
      have first := uses.spent
      rw [List.length_append]
      omega

theorem Receives.full (passes : List (CallPass κ)) (unread : List α) {got : List α}
    (full : got.length = size) :
    Receives manner faults clean size closes passes unread got
      (.ok (some got), unread, passes) := by
  have all : Receives manner faults clean size closes passes unread got
      (.ok (some (got ++ [])), unread, passes) :=
    .all rfl full (.refl passes) (by omega)
  rw [List.append_nil] at all
  exact all

theorem Receives.ending (passes later : List (CallPass κ)) {got : List α}
    (few : got.length < size) :
    Receives manner faults clean size closes passes [] got
      (if closes then if clean && got.isEmpty then .ok none else .error (.raised faults.ended)
        else .error .blocked, [], later) := by
  have short : (got ++ []).length < size := by
    rw [List.append_nil]
    exact few
  cases closed : closes with
  | false =>
      exact .blocked rfl short later
  | true =>
      rw [if_pos rfl]
      by_cases allowed : (clean && got.isEmpty) = true
      · rw [if_pos allowed]
        obtain ⟨isClean, empty⟩ := Bool.and_eq_true_iff.mp allowed
        refine .clean isClean ?_ rfl later
        rw [List.isEmpty_iff.mp empty]
        rfl
      · rw [if_neg allowed]
        refine .short rfl short ?_ later
        cases isClean : clean with
        | false => exact .inl rfl
        | true =>
            refine .inr ?_
            intro nothing
            rw [List.append_nil] at nothing
            rw [isClean, nothing] at allowed
            exact allowed rfl

theorem Receives.call {pass : CallPass κ} {rest : List (CallPass κ)} {unread got : List α}
    {taken : Nat} (positive : 0 < taken) (some : unread ≠ [])
    (later : Receives manner faults clean size closes rest (unread.drop taken)
      (got ++ unread.take taken)
      (receiveLoop manner faults clean size closes rest (unread.drop taken)
        (got ++ unread.take taken))) :
    Receives manner faults clean size closes (pass :: rest) unread got
      (receiveLoop manner faults clean size closes rest (unread.drop taken)
        (got ++ unread.take taken)) := by
  have moved : 0 < (unread.take taken).length := by
    have positive := List.length_pos_iff.mpr some
    rw [List.length_take]
    omega
  have behind := later.behind (.move pass rest moved)
  rw [List.take_append_drop] at behind
  exact behind

theorem receiveLoop_spec {passes : List (CallPass κ)} (calm : Calm manner passes)
    {unread got : List α} (within : got.length ≤ size) :
    Receives manner faults clean size closes passes unread got
      (receiveLoop manner faults clean size closes passes unread got) := by
  induction passes generalizing unread got with
  | nil =>
      by_cases full : size ≤ got.length
      · rw [receiveLoop, if_pos full]
        exact .full [] unread (Nat.le_antisymm within full)
      · rw [receiveLoop, if_neg full]
        exact .cut (List.nil_append unread).symm (Nat.le_refl 0)
  | cons pass rest ih =>
      by_cases full : size ≤ got.length
      · rw [receiveLoop, if_pos full]
        exact .full _ unread (Nat.le_antisymm within full)
      · have calmPass := calm pass List.mem_cons_self
        have calmRest : Calm manner rest :=
          fun other member => calm other (List.mem_cons_of_mem _ member)
        -- A pass that retries is one that has received nothing.
        have again (still : pass.moving manner = false) :
            Receives manner faults clean size closes (pass :: rest) unread got
              (receiveLoop manner faults clean size closes rest unread got) := by
          have later : Receives manner faults clean size closes rest unread (got ++ [])
              (receiveLoop manner faults clean size closes rest unread got) := by
            rw [List.append_nil]
            exact ih calmRest within
          exact later.behind (.quiet rest still)
        rw [receiveLoop, if_neg full]
        cases waited : manner.wait pass.wait with
        | again =>
            exact again (by rw [CallPass.moving, waited])
        | raises error =>
            rw [CallPass.Calm, waited] at calmPass
            exact calmPass.elim
        | ready =>
            cases answered : pass.answer with
            | fails code =>
                rw [CallPass.Calm, waited, answered] at calmPass
                simp only [calmPass, if_true]
                exact again (by rw [CallPass.moving, waited, answered])
            | moves count =>
                cases unread with
                | nil =>
                    exact .ending _ rest (by omega)
                | cons first others =>
                    refine Receives.call (by omega) (List.cons_ne_nil _ _) ?_
                    refine ih calmRest ?_
                    rw [List.length_append, List.length_take]
                    omega

end Receiving

theorem receive_spec {manner : Manner κ ε} (faults : Faults ε) (clean : Bool) (size : Nat)
    (line : Line α κ) (calm : Calm manner line.passes) :
    ∃ result unread passes,
      receive manner faults clean size line =
        (result, { line with unread := unread, passes := passes }) ∧
      Receives manner faults clean size line.closes line.passes line.unread []
        (result, unread, passes) :=
  ⟨_, _, _, rfl, receiveLoop_spec calm (Nat.zero_le size)⟩

section Sending

variable {manner : Manner κ ε} {faults : Faults ε}

/-- How sending what is `left` ends. -/
inductive Sends (manner : Manner κ ε) (passes : List (CallPass κ)) (written left : List α) :
    Except (Halt ε) Unit × List α × List (CallPass κ) → Prop
  | all {later : List (CallPass κ)} (uses : Uses manner passes later left.length) :
      Sends manner passes written left (.ok ⟨⟩, written ++ left, later)
  | cut {part rest : List α} (split : left = part ++ rest)
      (spent : moves manner passes ≤ part.length) :
      Sends manner passes written left (.error .cut, written ++ part, [])

theorem Sends.append {passes middle : List (CallPass κ)} {written first second : List α}
    {result : Except (Halt ε) Unit × List α × List (CallPass κ)}
    (uses : Uses manner passes middle first.length)
    (sent : Sends manner middle (written ++ first) second result) :
    Sends manner passes written (first ++ second) result := by
  cases sent with
  | all later =>
      rw [List.append_assoc]
      refine .all ?_
      rw [List.length_append]
      exact uses.trans later
  | cut split spent =>
      rw [split, List.append_assoc]
      refine .cut (List.append_assoc ..).symm ?_
      have first := uses.spent
      rw [List.length_append]
      omega

theorem Sends.done (passes : List (CallPass κ)) (written : List α) :
    Sends manner passes written [] (.ok ⟨⟩, written, passes) := by
  have all : Sends manner passes written [] (.ok ⟨⟩, written ++ [], passes) :=
    .all (.refl passes)
  rw [List.append_nil] at all
  exact all

theorem Sends.exhausted (written left : List α) :
    Sends manner [] written left (.error .cut, written, []) := by
  have cut : Sends manner [] written left (.error .cut, written ++ [], []) :=
    .cut (List.nil_append left).symm (Nat.le_refl 0)
  rw [List.append_nil] at cut
  exact cut

theorem sendLoop_spec {passes : List (CallPass κ)} (calm : Calm manner passes)
    {written left : List α} :
    Sends manner passes written left (sendLoop manner faults passes written left) := by
  induction passes generalizing written left with
  | nil =>
      cases left with
      | nil =>
          exact .done [] written
      | cons first others =>
          exact .exhausted written _
  | cons pass rest ih =>
      cases left with
      | nil =>
          exact .done _ written
      | cons first others =>
          have calmPass := calm pass List.mem_cons_self
          have calmRest : Calm manner rest :=
            fun other member => calm other (List.mem_cons_of_mem _ member)
          have again (still : pass.moving manner = false) :
              Sends manner (pass :: rest) written (first :: others)
                (sendLoop manner faults rest written (first :: others)) := by
            have later : Sends manner rest (written ++ []) (first :: others)
                (sendLoop manner faults rest written (first :: others)) := by
              rw [List.append_nil]
              exact ih calmRest
            exact .append (.quiet rest still) later
          simp only [sendLoop, List.isEmpty_cons, Bool.false_eq_true, if_false]
          cases waited : manner.wait pass.wait with
          | again =>
              exact again (by rw [CallPass.moving, waited])
          | raises error =>
              rw [CallPass.Calm, waited] at calmPass
              exact calmPass.elim
          | ready =>
              cases answered : pass.answer with
              | fails code =>
                  rw [CallPass.Calm, waited, answered] at calmPass
                  simp only [calmPass, if_true]
                  exact again (by rw [CallPass.moving, waited, answered])
              | moves count =>
                  rw [CallPass.Calm, waited, answered] at calmPass
                  have some : count ≠ 0 := Nat.ne_of_gt calmPass
                  have moved : 0 < ((first :: others).take count).length := by
                    rw [List.length_take, List.length_cons]
                    have positive : 0 < count := calmPass
                    omega
                  have behind : Sends manner (pass :: rest) written
                      ((first :: others).take count ++ (first :: others).drop count)
                      (sendLoop manner faults rest
                        (written ++ (first :: others).take count)
                        ((first :: others).drop count)) :=
                    Sends.append (.move pass rest moved) (ih calmRest)
                  rw [List.take_append_drop] at behind
                  simp only [if_neg some]
                  exact behind

end Sending

theorem send_spec {manner : Manner κ ε} (faults : Faults ε) (bytes : List α)
    (line : Line α κ) (calm : Calm manner line.passes) :
    ∃ result written passes,
      send manner faults bytes line =
        (result, { line with written := written, passes := passes }) ∧
      Sends manner line.passes line.written bytes (result, written, passes) :=
  ⟨_, _, _, rfl, sendLoop_spec calm⟩

/-! ### Waits that raise -/

def Raising (manner : Manner κ ε) (passes : List (CallPass κ)) : Prop :=
  ∃ pass ∈ passes, ∃ error, manner.wait pass.wait = .raises error

def RaisesOnly (manner : Manner κ ε) (error : ε) (passes : List (CallPass κ)) : Prop :=
  ∀ pass ∈ passes, ∀ other, manner.wait pass.wait = .raises other → other = error

/-- A loop raises what a wait of its passes raises, or the pass is left. -/
structure Escapes (manner : Manner κ ε) (error : ε) (passes : List (CallPass κ))
    {β : Type} (result : Except (Halt ε) β) (later : List (CallPass κ)) : Prop where
  raised : result = .error (.raised error) ∨ Raising manner later
  suffix : later <:+ passes

section Escaping

variable {manner : Manner κ ε} {faults : Faults ε} {error : ε} {pass : CallPass κ}
  {rest : List (CallPass κ)}

theorem RaisesOnly.tail (only : RaisesOnly manner error (pass :: rest)) :
    RaisesOnly manner error rest :=
  fun other member => only other (List.mem_cons_of_mem _ member)

theorem Raising.tail (raising : Raising manner (pass :: rest))
    (waits : ∀ other, manner.wait pass.wait ≠ .raises other) :
    Raising manner rest := by
  obtain ⟨other, member, raised, wait⟩ := raising
  rcases List.mem_cons.mp member with this | later
  · rw [this] at wait
    exact absurd wait (waits raised)
  · exact ⟨other, later, raised, wait⟩

theorem Escapes.behind {β : Type} {result : Except (Halt ε) β}
    {later : List (CallPass κ)} (escapes : Escapes manner error rest result later) :
    Escapes manner error (pass :: rest) result later :=
  { raised := escapes.raised
    suffix := escapes.suffix.trans (List.suffix_cons pass rest) }

theorem receiveLoop_escapes {clean : Bool} {size : Nat} {closes : Bool}
    {passes : List (CallPass κ)} (only : RaisesOnly manner error passes)
    (raising : Raising manner passes) (unread got : List α) :
    Escapes manner error passes
      (receiveLoop manner faults clean size closes passes unread got).1
      (receiveLoop manner faults clean size closes passes unread got).2.2 := by
  induction passes generalizing unread got with
  | nil =>
      obtain ⟨_, impossible, _⟩ := raising
      cases impossible
  | cons pass rest ih =>
      by_cases full : size ≤ got.length
      · rw [receiveLoop, if_pos full]
        exact { raised := .inr raising, suffix := List.suffix_rfl }
      · rw [receiveLoop, if_neg full]
        cases waited : manner.wait pass.wait with
        | again =>
            have later := raising.tail (by rw [waited]; exact fun _ same => by cases same)
            exact (ih only.tail later unread got).behind
        | raises other =>
            have same := only pass List.mem_cons_self other waited
            exact
              { raised := .inl (by rw [same])
                suffix := List.suffix_cons pass rest }
        | ready =>
            have later := raising.tail (by rw [waited]; exact fun _ same => by cases same)
            have left : rest <:+ pass :: rest := List.suffix_cons pass rest
            cases answered : pass.answer with
            | fails code =>
                cases retried : manner.retries code with
                | true =>
                    simp only [retried, if_true]
                    exact (ih only.tail later unread got).behind
                | false =>
                    simp only [retried, Bool.false_eq_true, if_false]
                    exact { raised := .inr later, suffix := left }
            | moves count =>
                cases unread with
                | nil =>
                    exact { raised := .inr later, suffix := left }
                | cons first others =>
                    exact (ih only.tail later _ _).behind

theorem sendLoop_escapes {passes : List (CallPass κ)}
    (only : RaisesOnly manner error passes) (raising : Raising manner passes)
    (written left : List α) :
    Escapes manner error passes
      (sendLoop manner faults passes written left).1
      (sendLoop manner faults passes written left).2.2 := by
  induction passes generalizing written left with
  | nil =>
      obtain ⟨_, impossible, _⟩ := raising
      cases impossible
  | cons pass rest ih =>
      cases left with
      | nil =>
          exact { raised := .inr raising, suffix := List.suffix_rfl }
      | cons first others =>
          simp only [sendLoop, List.isEmpty_cons, Bool.false_eq_true, if_false]
          cases waited : manner.wait pass.wait with
          | again =>
              have later := raising.tail
                (by rw [waited]; exact fun _ same => by cases same)
              exact (ih only.tail later _ _).behind
          | raises other =>
              have same := only pass List.mem_cons_self other waited
              exact
                { raised := .inl (by rw [same])
                  suffix := List.suffix_cons pass rest }
          | ready =>
              have later := raising.tail
                (by rw [waited]; exact fun _ same => by cases same)
              have left : rest <:+ pass :: rest := List.suffix_cons pass rest
              cases answered : pass.answer with
              | fails code =>
                  cases retried : manner.retries code with
                  | true =>
                      simp only [retried, if_true]
                      exact (ih only.tail later _ _).behind
                  | false =>
                      simp only [retried, Bool.false_eq_true, if_false]
                      exact { raised := .inr later, suffix := left }
              | moves count =>
                  by_cases none : count = 0
                  · simp only [none, if_true]
                    exact { raised := .inr later, suffix := left }
                  · simp only [none, if_false]
                    exact (ih only.tail later _ _).behind

theorem RaisesOnly.suffix {passes later : List (CallPass κ)}
    (only : RaisesOnly manner error passes) (left : later <:+ passes) :
    RaisesOnly manner error later :=
  fun pass member => only pass (left.subset member)

theorem receive_escapes (faults : Faults ε) (clean : Bool) (size : Nat) (line : Line α κ)
    (only : RaisesOnly manner error line.passes)
    (raising : Raising manner line.passes) :
    Escapes manner error line.passes (receive manner faults clean size line).1
      (receive manner faults clean size line).2.passes :=
  receiveLoop_escapes only raising line.unread []

theorem send_escapes (faults : Faults ε) (bytes : List α) (line : Line α κ)
    (only : RaisesOnly manner error line.passes)
    (raising : Raising manner line.passes) :
    Escapes manner error line.passes (send manner faults bytes line).1
      (send manner faults bytes line).2.passes :=
  sendLoop_escapes only raising line.written bytes

theorem Escapes.error_of_nil {β : Type} {passes later : List (CallPass κ)}
    {result : Except (Halt ε) β} (escapes : Escapes manner error passes result later)
    (none : later = []) : result = .error (.raised error) := by
  refine escapes.raised.resolve_right ?_
  rintro ⟨pass, member, _⟩
  rw [none] at member
  cases member

end Escaping

end ExactTransfer
