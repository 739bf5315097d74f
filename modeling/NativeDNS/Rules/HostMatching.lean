/-
What the matching loop of the rules decides.

The loop keeps one star and the position where the part behind it was last
tried.  An earlier star is never tried again: whatever a longer part for it
would give to the rest of the pattern, the later star can take as well.
-/
import NativeDNS.Library.Wildcard
import NativeDNS.Names
import Mathlib.Data.List.Forall2
import Mathlib.Tactic.Ring

namespace NativeDNS

open ByteText (text byte)
open Wildcard

/-- A star stands for any part, a question mark for one character. -/
def hostItem (character : UInt8) : Item UInt8 :=
  if character = byte '*' then .run
  else if character = byte '?' then .any
  else .literal character

def HostInstance (pattern host : Bytes) : Prop :=
  isInstance (· == ·) (fun _ => true) (pattern.map hostItem) host = true

abbrev AgreesAt (host pattern : Bytes) (h p : Nat) : Prop :=
  p < pattern.length ∧
    (pattern[p]? = some (byte '?') ∨ pattern[p]? = host[h]?)

abbrev StarAt (pattern : Bytes) (p : Nat) : Prop :=
  p < pattern.length ∧ pattern[p]? = some (byte '*')

/-- The loop run to its end, one constructor for each way an iteration goes. -/
inductive LoopReturns (host pattern : Bytes) :
    Nat → Nat → Option Nat → Nat → Bool → Prop where
  | ends {h p star retry} (past : ¬ h < host.length) :
      LoopReturns host pattern h p star retry
        ((pattern.drop p).all (· == byte '*'))
  | agrees {h p star retry result} (inside : h < host.length)
      (same : AgreesAt host pattern h p)
      (rest : LoopReturns host pattern (h + 1) (p + 1) star retry result) :
      LoopReturns host pattern h p star retry result
  | meets {h p star retry result} (inside : h < host.length)
      (differs : ¬ AgreesAt host pattern h p) (found : StarAt pattern p)
      (rest : LoopReturns host pattern h (p + 1) (some p) h result) :
      LoopReturns host pattern h p star retry result
  | retries {h p position retry result} (inside : h < host.length)
      (differs : ¬ AgreesAt host pattern h p) (plain : ¬ StarAt pattern p)
      (rest : LoopReturns host pattern (retry + 1) (position + 1)
        (some position) (retry + 1) result) :
      LoopReturns host pattern h p (some position) retry result
  | fails {h p retry} (inside : h < host.length)
      (differs : ¬ AgreesAt host pattern h p) (plain : ¬ StarAt pattern p) :
      LoopReturns host pattern h p none retry false

/-! ### The invariant of the loop -/

/-- Since the saved star the loop has matched one character of the host for
each character of the pattern, and none of these was a star. -/
structure StarInvariant (host pattern : Bytes) (h p : Nat) (star : Option Nat)
    (retry : Nat) : Prop where
  within : p ≤ pattern.length
  reached : h ≤ host.length
  behind : retry ≤ h
  saved : ∀ position, star = some position →
    p + retry = position + 1 + h ∧
      ∀ index, position < index → index < p → pattern[index]? ≠ some (byte '*')

section Iteration

variable {host pattern : Bytes} {h p retry : Nat} {star : Option Nat}

theorem starInvariant_start : StarInvariant host pattern 0 0 none 0 where
  within := Nat.zero_le _
  reached := Nat.zero_le _
  behind := Nat.le_refl 0
  saved := fun _ impossible => by cases impossible

theorem agreesAt_plain (noStar : byte '*' ∉ host)
    (same : AgreesAt host pattern h p) : pattern[p]? ≠ some (byte '*') := by
  rcases same.2 with question | equal
  · rw [question]
    decide
  · rw [equal]
    exact fun star => noStar (List.mem_of_getElem? star)

theorem StarInvariant.agrees (invariant : StarInvariant host pattern h p star retry)
    (noStar : byte '*' ∉ host) (inside : h < host.length)
    (same : AgreesAt host pattern h p) :
    StarInvariant host pattern (h + 1) (p + 1) star retry where
  within := same.1
  reached := inside
  behind := Nat.le_succ_of_le invariant.behind
  saved := by
    intro position isStar
    obtain ⟨balance, plain⟩ := invariant.saved position isStar
    refine ⟨by omega, fun index after before => ?_⟩
    rcases Nat.lt_succ_iff_lt_or_eq.mp before with earlier | rfl
    · exact plain index after earlier
    · exact agreesAt_plain noStar same

theorem StarInvariant.meets (invariant : StarInvariant host pattern h p star retry)
    (found : StarAt pattern p) :
    StarInvariant host pattern h (p + 1) (some p) h where
  within := found.1
  reached := invariant.reached
  behind := Nat.le_refl h
  saved := by
    intro position isStar
    cases isStar
    exact ⟨rfl, fun index after before => by omega⟩

theorem StarInvariant.retries {position : Nat}
    (invariant : StarInvariant host pattern h p (some position) retry)
    (inside : h < host.length) :
    StarInvariant host pattern (retry + 1) (position + 1) (some position)
      (retry + 1) where
  within := by
    have balance := (invariant.saved position rfl).1
    have within := invariant.within
    have behind := invariant.behind
    omega
  reached := Nat.lt_of_le_of_lt invariant.behind inside
  behind := Nat.le_refl _
  saved := by
    intro other isStar
    cases isStar
    exact ⟨rfl, fun index after before => by omega⟩

/-! ### Termination -/

/-- The iterations that are left at most: one retry costs more than all the
matches it gives up. -/
def loopMeasure (host pattern : Bytes) (p retry : Nat) : Nat :=
  (host.length - retry) * (pattern.length + 1) + (pattern.length - p)

theorem loopMeasure_meets (behind : retry ≤ h) (found : p < pattern.length) :
    loopMeasure host pattern (p + 1) h < loopMeasure host pattern p retry := by
  have fewer : (host.length - h) * (pattern.length + 1) ≤
      (host.length - retry) * (pattern.length + 1) :=
    Nat.mul_le_mul_right _ (Nat.sub_le_sub_left behind _)
  unfold loopMeasure
  omega

theorem loopMeasure_retries {position : Nat} (left : retry < host.length) :
    loopMeasure host pattern (position + 1) (retry + 1) <
      loopMeasure host pattern p retry := by
  have one : (host.length - retry) * (pattern.length + 1) =
      (host.length - (retry + 1)) * (pattern.length + 1) +
        (pattern.length + 1) := by
    rw [← Nat.succ_mul]
    congr 1
    omega
  unfold loopMeasure
  omega

theorem hostMatchesLoop_returns (noStar : byte '*' ∉ host) (fuel : Nat)
    (invariant : StarInvariant host pattern h p star retry)
    (enough : loopMeasure host pattern p retry < fuel) :
    LoopReturns host pattern h p star retry
      (hostMatchesLoop host pattern fuel h p star retry) := by
  induction fuel generalizing h p star retry with
  | zero =>
      exact absurd enough (Nat.not_lt_zero _)
  | succ fuel ih =>
      unfold hostMatchesLoop
      by_cases inside : h < host.length
      · rw [if_pos inside]
        by_cases same : AgreesAt host pattern h p
        · rw [if_pos same]
          refine .agrees inside same
            (ih (invariant.agrees noStar inside same) ?_)
          have left := same.1
          unfold loopMeasure at enough ⊢
          omega
        · rw [if_neg same]
          by_cases found : StarAt pattern p
          · rw [if_pos found]
            have less := @loopMeasure_meets host _ _ _ _ invariant.behind found.1
            exact .meets inside same found (ih (invariant.meets found) (by omega))
          · rw [if_neg found]
            cases star with
            | none =>
                exact .fails inside same found
            | some position =>
                have less := @loopMeasure_retries host pattern p retry position
                  (Nat.lt_of_le_of_lt invariant.behind inside)
                exact .retries inside same found
                  (ih (invariant.retries inside) (by omega))
      · rw [if_neg inside]
        exact .ends inside

theorem hostMatches_returns (noStar : byte '*' ∉ host) :
    LoopReturns host pattern 0 0 none 0 (hostMatches host pattern) := by
  refine hostMatchesLoop_returns noStar _ starInvariant_start ?_
  have product : (host.length + 1) * (host.length + pattern.length + 1) =
      host.length * (pattern.length + 1) + (pattern.length + 1) +
        (host.length + 1) * host.length := by
    ring
  unfold loopMeasure
  rw [Nat.sub_zero, Nat.sub_zero]
  omega

/-! ### What one iteration leaves to decide -/

theorem hostItem_star : hostItem (byte '*') = .run :=
  if_pos rfl

theorem hostItem_question : hostItem (byte '?') = .any :=
  rfl

theorem hostItem_run {character : UInt8} :
    hostItem character = .run ↔ character = byte '*' := by
  unfold hostItem
  constructor
  · intro run
    split at run
    · assumption
    · split at run
      · cases run
      · cases run
  · exact fun star => if_pos star

theorem hostInstance_empty {rest : Bytes} :
    HostInstance rest [] ↔ rest.all (· == byte '*') = true := by
  rw [HostInstance, isInstance_empty, List.forall_mem_map, List.all_eq_true]
  exact forall₂_congr fun character _ => hostItem_run.trans beq_iff_eq.symm

theorem hostInstance_star {rest tail : Bytes} :
    HostInstance (byte '*' :: rest) tail ↔
      ∃ skipped ≤ tail.length, HostInstance rest (tail.drop skipped) := by
  rw [HostInstance, List.map_cons, hostItem_star, isInstance, behindRun_iff]
  constructor
  · rintro ⟨front, back, rfl, _, found⟩
    refine ⟨front.length, by simp, ?_⟩
    rwa [List.drop_left]
  · rintro ⟨skipped, _, found⟩
    exact ⟨tail.take skipped, tail.drop skipped, (List.take_append_drop _ _).symm,
      List.all_eq_true.mpr fun _ _ => rfl, found⟩

theorem hostInstance_agrees (inside : h < host.length)
    (same : AgreesAt host pattern h p) (notStar : pattern[p]? ≠ some (byte '*')) :
    HostInstance (pattern.drop p) (host.drop h) ↔
      HostInstance (pattern.drop (p + 1)) (host.drop (h + 1)) := by
  obtain ⟨within, cause⟩ := same
  rw [List.drop_eq_getElem_cons within, List.drop_eq_getElem_cons inside]
  rw [List.getElem?_eq_getElem within] at cause notStar
  rw [List.getElem?_eq_getElem inside, Option.some.injEq, Option.some.injEq] at cause
  have plain : pattern[p] ≠ byte '*' := fun star => notStar (congrArg some star)
  unfold HostInstance
  rw [List.map_cons]
  rcases cause with question | equal
  · rw [question, hostItem_question, isInstance, Bool.true_and]
  · by_cases question : pattern[p] = byte '?'
    · rw [question, hostItem_question, isInstance, Bool.true_and]
    · rw [hostItem, if_neg plain, if_neg question, isInstance, equal, beq_self_eq_true,
        Bool.true_and]

theorem hostInstance_differs (inside : h < host.length)
    (differs : ¬ AgreesAt host pattern h p) (plain : ¬ StarAt pattern p) :
    ¬ HostInstance (pattern.drop p) (host.drop h) := by
  intro found
  rw [HostInstance, List.drop_eq_getElem_cons inside] at found
  by_cases within : p < pattern.length
  · rw [List.drop_eq_getElem_cons within, List.map_cons] at found
    have notQuestion : pattern[p] ≠ byte '?' := fun question =>
      differs ⟨within, Or.inl (by rw [List.getElem?_eq_getElem within, question])⟩
    have notStar : pattern[p] ≠ byte '*' := fun star =>
      plain ⟨within, by rw [List.getElem?_eq_getElem within, star]⟩
    rw [hostItem, if_neg notStar, if_neg notQuestion, isInstance, Bool.and_eq_true,
      beq_iff_eq] at found
    refine differs ⟨within, Or.inr ?_⟩
    rw [List.getElem?_eq_getElem within, List.getElem?_eq_getElem inside, found.1]
  · rw [List.drop_eq_nil_of_le (Nat.le_of_not_lt within)] at found
    cases found

/-- What matched behind the saved star at a later position has the matched
characters in front of it again. -/
theorem StarInvariant.shifted {position k : Nat}
    (invariant : StarInvariant host pattern h p (some position) retry)
    (found : HostInstance (pattern.drop (position + 1)) (host.drop k)) :
    h - retry ≤ host.length - k ∧
      HostInstance (pattern.drop p) (host.drop (k + (h - retry))) := by
  obtain ⟨balance, plain⟩ := invariant.saved position rfl
  have within := invariant.within
  have behind := invariant.behind
  have width : p - (position + 1) = h - retry := by omega
  have middle : pattern.drop (position + 1) =
      (pattern.drop (position + 1)).take (h - retry) ++ pattern.drop p := by
    have whole := List.take_append_drop (h - retry) (pattern.drop (position + 1))
    have place : position + 1 + (h - retry) = p := by omega
    rw [List.drop_drop, place] at whole
    exact whole.symm
  have size : ((pattern.drop (position + 1)).take (h - retry)).length = h - retry := by
    rw [List.length_take, List.length_drop]
    omega
  rw [middle, HostInstance, List.map_append] at found
  have fixed : Item.run ∉
      ((pattern.drop (position + 1)).take (h - retry)).map hostItem := by
    intro member
    obtain ⟨character, inPart, isRun⟩ := List.mem_map.mp member
    obtain ⟨index, before, rfl⟩ := List.mem_iff_getElem.mp inPart
    rw [size] at before
    rw [List.getElem_take, List.getElem_drop] at isRun
    refine plain (position + 1 + index) (by omega) (by omega) ?_
    rw [List.getElem?_eq_getElem (by omega), hostItem_run.mp isRun]
  obtain ⟨short, left⟩ := isInstance_fixed fixed found
  rw [List.length_map, size] at short left
  rw [List.length_drop] at short
  rw [List.drop_drop] at left
  exact ⟨short, left⟩

/-- What the loop still has to find: an instance from here on, or one behind
the saved star from a later position than the last one tried. -/
def Remaining (host pattern : Bytes) (h p : Nat) (star : Option Nat)
    (retry : Nat) : Prop :=
  HostInstance (pattern.drop p) (host.drop h) ∨
    ∃ position, star = some position ∧ ∃ k, retry < k ∧ k ≤ host.length ∧
      HostInstance (pattern.drop (position + 1)) (host.drop k)

theorem remaining_ends (invariant : StarInvariant host pattern h p star retry)
    (past : ¬ h < host.length) :
    Remaining host pattern h p star retry ↔
      (pattern.drop p).all (· == byte '*') = true := by
  rw [← hostInstance_empty]
  have atEnd : host.drop h = [] := List.drop_eq_nil_of_le (Nat.le_of_not_lt past)
  constructor
  · rintro (found | ⟨position, rfl, k, later, within, found⟩)
    · exact atEnd ▸ found
    · have short := (invariant.shifted found).1
      have reached := invariant.reached
      omega
  · exact fun found => Or.inl (atEnd ▸ found)

theorem remaining_agrees (noStar : byte '*' ∉ host) (inside : h < host.length)
    (same : AgreesAt host pattern h p) :
    Remaining host pattern h p star retry ↔
      Remaining host pattern (h + 1) (p + 1) star retry := by
  unfold Remaining
  rw [hostInstance_agrees inside same (agreesAt_plain noStar same)]

/-- A new star takes over from the old one: its part can be as long as
whatever a retry of the old one would put in front of the rest. -/
theorem remaining_meets (invariant : StarInvariant host pattern h p star retry)
    (found : StarAt pattern p) :
    Remaining host pattern h p star retry ↔
      Remaining host pattern h (p + 1) (some p) h := by
  have head : pattern.drop p = byte '*' :: pattern.drop (p + 1) := by
    have here := found.2
    rw [List.getElem?_eq_getElem found.1] at here
    rw [List.drop_eq_getElem_cons found.1, Option.some.inj here]
  have laterParts : HostInstance (pattern.drop p) (host.drop h) ↔
      ∃ k, h ≤ k ∧ k ≤ host.length ∧
        HostInstance (pattern.drop (p + 1)) (host.drop k) := by
    rw [head, hostInstance_star]
    constructor
    · rintro ⟨skipped, short, rest⟩
      rw [List.length_drop] at short
      rw [List.drop_drop] at rest
      have reached := invariant.reached
      exact ⟨h + skipped, by omega, by omega, rest⟩
    · rintro ⟨k, after, within, rest⟩
      refine ⟨k - h, by rw [List.length_drop]; omega, ?_⟩
      rwa [List.drop_drop, Nat.add_sub_cancel' after]
  have same : Remaining host pattern h (p + 1) (some p) h ↔
      HostInstance (pattern.drop p) (host.drop h) := by
    rw [laterParts]
    constructor
    · rintro (rest | ⟨position, isStar, k, after, within, rest⟩)
      · exact ⟨h, Nat.le_refl h, invariant.reached, rest⟩
      · cases isStar
        exact ⟨k, Nat.le_of_lt after, within, rest⟩
    · rintro ⟨k, after, within, rest⟩
      rcases Nat.lt_or_eq_of_le after with later | rfl
      · exact Or.inr ⟨p, rfl, k, later, within, rest⟩
      · exact Or.inl rest
  rw [same]
  constructor
  · rintro (here | ⟨position, rfl, k, later, within, rest⟩)
    · exact here
    · obtain ⟨short, moved⟩ := invariant.shifted rest
      rw [head, hostInstance_star] at moved
      obtain ⟨skipped, fits, rest⟩ := moved
      rw [List.length_drop] at fits
      rw [List.drop_drop] at rest
      have behind := invariant.behind
      exact laterParts.mpr
        ⟨k + (h - retry) + skipped, by omega, by omega, rest⟩
  · exact Or.inl

theorem remaining_retries {position : Nat}
    (invariant : StarInvariant host pattern h p (some position) retry)
    (inside : h < host.length) (differs : ¬ AgreesAt host pattern h p)
    (plain : ¬ StarAt pattern p) :
    Remaining host pattern h p (some position) retry ↔
      Remaining host pattern (retry + 1) (position + 1) (some position)
        (retry + 1) := by
  have behind := invariant.behind
  constructor
  · rintro (here | ⟨other, isStar, k, later, within, rest⟩)
    · exact absurd here (hostInstance_differs inside differs plain)
    · cases isStar
      rcases Nat.lt_or_eq_of_le later with beyond | rfl
      · exact Or.inr ⟨position, rfl, k, beyond, within, rest⟩
      · exact Or.inl rest
  · rintro (next | ⟨other, isStar, k, later, within, rest⟩)
    · exact Or.inr ⟨position, rfl, retry + 1, Nat.lt_succ_self retry, by omega, next⟩
    · cases isStar
      exact Or.inr ⟨position, rfl, k, by omega, within, rest⟩

theorem not_remaining_fails (inside : h < host.length)
    (differs : ¬ AgreesAt host pattern h p) (plain : ¬ StarAt pattern p) :
    ¬ Remaining host pattern h p none retry := by
  rintro (here | ⟨position, isStar, _⟩)
  · exact hostInstance_differs inside differs plain here
  · cases isStar

theorem LoopReturns.decides {result : Bool} (noStar : byte '*' ∉ host)
    (run : LoopReturns host pattern h p star retry result)
    (invariant : StarInvariant host pattern h p star retry) :
    result = true ↔ Remaining host pattern h p star retry := by
  induction run with
  | ends past =>
      exact (remaining_ends invariant past).symm
  | agrees inside same _ ih =>
      exact (ih (invariant.agrees noStar inside same)).trans
        (remaining_agrees noStar inside same).symm
  | meets inside differs found _ ih =>
      exact (ih (invariant.meets found)).trans (remaining_meets invariant found).symm
  | retries inside differs plain _ ih =>
      exact (ih (invariant.retries inside)).trans
        (remaining_retries invariant inside differs plain).symm
  | fails inside differs plain =>
      exact ⟨fun impossible => Bool.noConfusion impossible,
        fun remains => absurd remains (not_remaining_fails inside differs plain)⟩

end Iteration

/-! ### The wildcards of a pattern -/

/-- The part of a host that one character of a pattern stands for. -/
def StandsFor (character : UInt8) (part : Bytes) : Prop :=
  if character = byte '*' then True
  else if character = byte '?' then part.length = 1
  else part = [character]

theorem covers_iff_standsFor {character : UInt8} {part : Bytes} :
    (hostItem character).Covers (· == ·) (fun _ => true) part ↔
      StandsFor character part := by
  unfold hostItem StandsFor
  split
  · exact ⟨fun _ => trivial, fun _ => List.all_eq_true.mpr fun _ _ => rfl⟩
  · split
    · rw [List.length_eq_one_iff]
      exact exists_congr fun first => and_iff_left rfl
    · constructor
      · rintro ⟨first, rfl, same⟩
        rw [eq_of_beq same]
      · rintro rfl
        exact ⟨character, rfl, beq_self_eq_true character⟩

/-- On a host without wildcard characters the loop runs to its end with one
result, which says whether the host can be cut along the pattern. -/
theorem hostMatches_iff_parts (host pattern : Bytes)
    (plain : byte '*' ∉ host ∧ byte '?' ∉ host) :
    (∀ result, LoopReturns host pattern 0 0 none 0 result ↔
        result = hostMatches host pattern) ∧
      (hostMatches host pattern = true ↔
        ∃ parts : List Bytes, host = parts.flatten ∧
          List.Forall₂ StandsFor pattern parts) := by
  have run := @hostMatches_returns host pattern plain.1
  have decides {result : Bool}
      (returned : LoopReturns host pattern 0 0 none 0 result) :=
    returned.decides plain.1 starInvariant_start
  refine ⟨fun result => ⟨fun returned => ?_, fun same => same ▸ run⟩, ?_⟩
  · exact Bool.eq_iff_iff.mpr ((decides returned).trans (decides run).symm)
  have atStart : Remaining host pattern 0 0 none 0 ↔ HostInstance pattern host := by
    constructor
    · rintro (here | ⟨position, isStar, _⟩)
      · exact here
      · cases isStar
    · exact Or.inl
  rw [decides run, atStart, HostInstance, isInstance_iff_parts]
  refine exists_congr fun parts => and_congr_right fun _ => ?_
  rw [List.forall₂_map_left_iff]
  constructor
  · exact List.Forall₂.imp fun _ _ => covers_iff_standsFor.mp
  · exact List.Forall₂.imp fun _ _ => covers_iff_standsFor.mpr

theorem hostMatches_iff_parts_suffix :
    (byte '*' ∉ text "a.b.c" ∧ byte '?' ∉ text "a.b.c") ∧
      LoopReturns (text "a.b.c") (text "*.?") 0 0 none 0 true ∧
      ∃ parts : List Bytes, text "a.b.c" = parts.flatten ∧
        List.Forall₂ StandsFor (text "*.?") parts := by
  have plain : byte '*' ∉ text "a.b.c" ∧ byte '?' ∉ text "a.b.c" := by decide
  obtain ⟨returns, splits⟩ := hostMatches_iff_parts (text "a.b.c") (text "*.?") plain
  have found : hostMatches (text "a.b.c") (text "*.?") = true := by decide
  exact ⟨plain, (returns true).mpr found.symm, splits.mp found⟩

end NativeDNS
