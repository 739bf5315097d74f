/-
Suppression of repeated calls.

A call of a key is emitted when none was before or the interval of the last
emitted one is past; the others are counted.  An entry for a key holds what the
calls so far decide: the time from which the next call is emitted, and how many
have not been reported.
-/
import NativeDNS.Library.Lists

namespace Suppression

structure Call (κ : Type) where
  key : κ
  now : Int
  interval : Int
  emitted : Bool

structure Entry where
  next : Int
  suppressed : Nat
  deriving DecidableEq

/-- The entry behind a call, and for an emitted call how many were suppressed. -/
def pass (found : Option Entry) (now interval : Int) : Entry × Option Nat :=
  match found with
  | none => ({ next := now + interval, suppressed := 0 }, some 0)
  | some entry =>
      if now < entry.next then
        ({ entry with suppressed := entry.suppressed + 1 }, none)
      else ({ next := now + interval, suppressed := 0 }, some entry.suppressed)

variable {κ : Type} [DecidableEq κ]

def ofKey (key : κ) (calls : List (Call κ)) : List (Call κ) :=
  calls.filter fun call => call.key = key

def unreported (key : κ) (calls : List (Call κ)) : Nat :=
  ((ofKey key calls).reverse.takeWhile fun call => !call.emitted).length

def lastEmitted (key : κ) (calls : List (Call κ)) : Option (Call κ) :=
  ((ofKey key calls).filter (·.emitted)).getLast?

def ledger (key : κ) (calls : List (Call κ)) : Option Entry :=
  (lastEmitted key calls).map fun call =>
    { next := call.now + call.interval
      suppressed := unreported key calls }

/-- Every first call is emitted, and emitted calls of a key keep the interval. -/
structure Honest (calls : List (Call κ)) : Prop where
  first : ∀ before call after, calls = before ++ call :: after →
    (∀ other ∈ before, other.key ≠ call.key) → call.emitted = true
  spaced : calls.Pairwise fun first second =>
    first.key = second.key → first.emitted = true → second.emitted = true →
      first.now + first.interval ≤ second.now
  forward : ∀ call ∈ calls, 0 ≤ call.interval

/-! ### One more call -/

section Snoc

variable {key : κ} {calls : List (Call κ)} {call : Call κ}

theorem ofKey_snoc_same (same : call.key = key) :
    ofKey key (calls ++ [call]) = ofKey key calls ++ [call] := by
  rw [ofKey, List.filter_append, List.filter_singleton, decide_eq_true same]
  rfl

theorem ofKey_snoc_other (other : call.key ≠ key) :
    ofKey key (calls ++ [call]) = ofKey key calls := by
  rw [ofKey, List.filter_append, List.filter_singleton, decide_eq_false other,
    cond_false, List.append_nil]
  rfl

theorem ledger_snoc_other (other : call.key ≠ key) :
    ledger key (calls ++ [call]) = ledger key calls := by
  unfold ledger lastEmitted unreported
  rw [ofKey_snoc_other other]

theorem lastEmitted_snoc_emitted (same : call.key = key)
    (emitted : call.emitted = true) :
    lastEmitted key (calls ++ [call]) = some call := by
  rw [lastEmitted, ofKey_snoc_same same, List.filter_append,
    List.filter_singleton, emitted, cond_true, List.getLast?_concat]

theorem lastEmitted_snoc_silent (silent : call.emitted = false) :
    lastEmitted key (calls ++ [call]) = lastEmitted key calls := by
  by_cases same : call.key = key
  · rw [lastEmitted, ofKey_snoc_same same, List.filter_append,
      List.filter_singleton, silent, cond_false, List.append_nil]
    rfl
  · rw [lastEmitted, ofKey_snoc_other same]
    rfl

theorem unreported_snoc_emitted (same : call.key = key)
    (emitted : call.emitted = true) : unreported key (calls ++ [call]) = 0 := by
  rw [unreported, ofKey_snoc_same same, List.reverse_concat,
    List.takeWhile_cons_of_neg]
  · rfl
  · rw [emitted]
    exact Bool.false_ne_true

theorem unreported_snoc_silent (same : call.key = key)
    (silent : call.emitted = false) :
    unreported key (calls ++ [call]) = unreported key calls + 1 := by
  rw [unreported, ofKey_snoc_same same, List.reverse_concat,
    List.takeWhile_cons_of_pos]
  · rfl
  · rw [silent]
    rfl

end Snoc

/-! ### The ledger decides -/

section Decision

variable {key : κ} {calls : List (Call κ)}

theorem mem_lastEmitted {last : Call κ} (found : lastEmitted key calls = some last) :
    last ∈ calls ∧ last.key = key ∧ last.emitted = true := by
  have member := List.mem_of_getLast? found
  obtain ⟨ofKey, emitted⟩ := List.mem_filter.mp member
  obtain ⟨inside, same⟩ := List.mem_filter.mp ofKey
  exact ⟨inside, of_decide_eq_true same, emitted⟩

theorem Honest.fresh (honest : Honest calls) (missing : ledger key calls = none) :
    ∀ call ∈ calls, call.key ≠ key := by
  intro call member same
  have found : calls.find? (fun call => decide (call.key = key)) ≠ none := by
    intro none_found
    exact List.find?_eq_none.mp none_found call member (decide_eq_true same)
  obtain ⟨first, isFirst⟩ := Option.ne_none_iff_exists'.mp found
  obtain ⟨named, before, after, split, earlier⟩ :=
    List.find?_eq_some_iff_append.mp isFirst
  have firstKey : first.key = key := of_decide_eq_true named
  have emitted := honest.first before first after split (by
    intro other inside sameKey
    have apart := earlier other inside
    rw [sameKey, firstKey] at apart
    simp at apart)
  have inside : first ∈ (ofKey key calls).filter (·.emitted) := by
    refine List.mem_filter.mpr ⟨List.mem_filter.mpr ⟨?_, named⟩, emitted⟩
    rw [split]
    exact List.mem_append_right _ List.mem_cons_self
  have empty := Option.map_eq_none_iff.mp missing
  rw [lastEmitted, List.getLast?_eq_none_iff] at empty
  rw [empty] at inside
  cases inside

theorem Honest.reported (honest : Honest calls) {now interval : Int} {number : Nat}
    (passed : (pass (ledger key calls) now interval).2 = some number) :
    number = unreported key calls := by
  cases found : ledger key calls with
  | none =>
      rw [found] at passed
      cases passed
      have empty : ofKey key calls = [] := by
        refine List.filter_eq_nil_iff.mpr ?_
        intro call member same
        exact honest.fresh found call member (of_decide_eq_true same)
      rw [unreported, empty]
      rfl
  | some entry =>
      obtain ⟨last, _, same⟩ := Option.map_eq_some_iff.mp found
      rw [found] at passed
      unfold pass at passed
      dsimp only at passed
      split at passed
      · cases passed
      · cases passed
        rw [← same]

theorem ledger_snoc (now interval : Int) {call : Call κ} (same : call.key = key)
    (time : call.now = now ∧ call.interval = interval)
    (decided : call.emitted = (pass (ledger key calls) now interval).2.isSome) :
    ledger key (calls ++ [call]) =
      some (pass (ledger key calls) now interval).1 := by
  have emits : call.emitted = true → ledger key (calls ++ [call]) =
      some { next := now + interval, suppressed := 0 } := by
    intro emitted
    rw [ledger, lastEmitted_snoc_emitted same emitted,
      unreported_snoc_emitted same emitted, Option.map_some, time.1, time.2]
  cases found : ledger key calls with
  | none =>
      rw [found] at decided
      exact emits decided
  | some entry =>
      obtain ⟨last, isLast, entryEq⟩ := Option.map_eq_some_iff.mp found
      rw [found] at decided
      unfold pass at decided ⊢
      dsimp only at decided ⊢
      by_cases early : now < entry.next
      · rw [if_pos early] at decided ⊢
        rw [ledger, lastEmitted_snoc_silent decided,
          unreported_snoc_silent same decided, isLast, ← entryEq]
        rfl
      · rw [if_neg early] at decided ⊢
        exact emits decided

theorem Honest.snoc (honest : Honest calls) (now interval : Int)
    {call : Call κ} (time : call.now = now ∧ call.interval = interval)
    (onward : 0 ≤ interval)
    (decided : call.emitted =
      (pass (ledger call.key calls) now interval).2.isSome) :
    Honest (calls ++ [call]) where
  forward := by
    intro other member
    rcases List.mem_append.mp member with earlier | last
    · exact honest.forward other earlier
    · rw [List.mem_singleton.mp last, time.2]
      exact onward
  first := by
    intro before other after split fresh
    rcases Lists.snoc_split split with ⟨_, whole, last⟩ | ⟨init, _, whole⟩
    · subst last
      have unknown : ofKey call.key calls = [] := by
        refine List.filter_eq_nil_iff.mpr ?_
        intro earlier member same
        rw [whole] at member
        exact fresh earlier member (of_decide_eq_true same)
      have missing : ledger call.key calls = none := by
        rw [ledger, lastEmitted, unknown]
        rfl
      rw [decided, missing]
      rfl
    · exact honest.first before other init whole fresh
  spaced := by
    refine List.pairwise_append.mpr
      ⟨honest.spaced, List.pairwise_singleton _ _, ?_⟩
    intro earlier member last isLast same earlierEmitted lastEmits
    rw [List.mem_singleton.mp isLast] at same lastEmits ⊢
    have inside : earlier ∈ (ofKey call.key calls).filter (·.emitted) :=
      List.mem_filter.mpr
        ⟨List.mem_filter.mpr ⟨member, decide_eq_true same⟩, earlierEmitted⟩
    obtain ⟨last, found⟩ : ∃ last, lastEmitted call.key calls = some last := by
      refine Option.ne_none_iff_exists'.mp ?_
      intro missing
      rw [lastEmitted, List.getLast?_eq_none_iff] at missing
      rw [missing] at inside
      cases inside
    have due : last.now + last.interval ≤ now := by
      rw [ledger, found, Option.map_some, lastEmits] at decided
      unfold pass at decided
      dsimp only at decided
      by_cases early : now < last.now + last.interval
      · rw [if_pos early] at decided
        cases decided
      · exact Int.not_lt.mp early
    -- The call is the last emitted one of the key or stands before it.
    obtain ⟨front, whole⟩ := List.getLast?_eq_some_iff.mp found
    have pairs : ((ofKey call.key calls).filter (·.emitted)).Pairwise _ :=
      honest.spaced.sublist
        (List.filter_sublist.trans List.filter_sublist)
    rw [whole] at inside pairs
    rw [time.1]
    rcases List.mem_append.mp inside with before | itself
    · obtain ⟨known, lastKey, lastIsEmitted⟩ := mem_lastEmitted found
      have onward := honest.forward last known
      have kept := (List.pairwise_append.mp pairs).2.2 earlier before last
        List.mem_cons_self (same.trans lastKey.symm) earlierEmitted lastIsEmitted
      omega
    · rw [List.mem_singleton.mp itself]
      exact due

end Decision

end Suppression
