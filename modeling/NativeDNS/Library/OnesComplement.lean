/-
One's-complement sums of 16-bit words.

A sum of words is represented by a number up to 65535 that is zero only when
the sum is; the representative of a full multiple of 65535 is 65535 itself.  A
check word completes a sum when the whole has that representative.
-/
import Mathlib.Algebra.Ring.Nat
import Mathlib.Order.Lattice
import Mathlib.Data.List.Basic
import Mathlib.Algebra.Order.Group.Nat

namespace OnesComplement

/-- The sum of the big-endian words of a byte string; a last odd byte is the
high half of a word. -/
def wordSum : List UInt8 → Nat
  | [] => 0
  | [last] => last.toNat * 256
  | high :: low :: rest => high.toNat * 256 + low.toNat + wordSum rest

def residue (sum : Nat) : Nat :=
  if sum = 0 then 0 else if sum % 65535 = 0 then 65535 else sum % 65535

/-! ### Representatives -/

theorem residue_le (sum : Nat) : residue sum ≤ 65535 := by
  unfold residue
  split
  · exact Nat.zero_le _
  · split <;> omega

theorem residue_of_le {sum : Nat} (small : sum ≤ 65535) : residue sum = sum := by
  unfold residue
  split
  · omega
  · split <;> omega

theorem residue_mod (sum : Nat) : residue sum % 65535 = sum % 65535 := by
  unfold residue
  split
  · omega
  · split <;> omega

theorem residue_fold (sum : Nat) :
    residue (sum % 65536 + sum / 65536) = residue sum := by
  have same : (sum % 65536 + sum / 65536) % 65535 = sum % 65535 := by
    omega
  have zero : sum % 65536 + sum / 65536 = 0 ↔ sum = 0 := by
    omega
  unfold residue
  simp only [same, zero]

def checkWord (sum : Nat) : Nat :=
  if residue sum = 65535 then 65535 else 65535 - residue sum

theorem checkWord_pos (sum : Nat) : 0 < checkWord sum := by
  have bound := residue_le sum
  unfold checkWord
  split <;> omega

theorem checkWord_lt (sum : Nat) : checkWord sum < 65536 := by
  unfold checkWord
  split <;> omega

theorem residue_add_checkWord (sum : Nat) :
    residue (sum + checkWord sum) = 65535 := by
  have positive := checkWord_pos sum
  have multiple : (sum + checkWord sum) % 65535 = 0 := by
    have congruent := residue_mod sum
    have bound := residue_le sum
    unfold checkWord
    split <;> omega
  unfold residue
  rw [if_neg (by omega), if_pos multiple]

/-! ### Sums of byte strings -/

theorem wordSum_append (front back : List UInt8)
    (even : front.length % 2 = 0) :
    wordSum (front ++ back) = wordSum front + wordSum back := by
  induction front using wordSum.induct with
  | case1 =>
      rw [List.nil_append, wordSum, Nat.zero_add]
  | case2 last =>
      cases even
  | case3 high low rest ih =>
      have evenRest : rest.length % 2 = 0 := by
        simp only [List.length_cons] at even
        omega
      rw [List.cons_append, List.cons_append, wordSum, wordSum, ih evenRest]
      omega

theorem wordSum_le (bytes : List UInt8) :
    wordSum bytes ≤ 65535 * ((bytes.length + 1) / 2) := by
  induction bytes using wordSum.induct with
  | case1 =>
      exact Nat.zero_le _
  | case2 last =>
      have small := last.toNat_lt
      simp only [wordSum, List.length_cons, List.length_nil]
      omega
  | case3 high low rest ih =>
      have highSmall := high.toNat_lt
      have lowSmall := low.toNat_lt
      rw [wordSum]
      simp only [List.length_cons]
      omega

theorem wordSum_set {bytes : List UInt8} {position : Nat} (high low : UInt8)
    (even : position % 2 = 0) (within : position + 1 < bytes.length) :
    wordSum ((bytes.set position high).set (position + 1) low) +
        ((bytes.getD position 0).toNat * 256 +
          (bytes.getD (position + 1) 0).toNat) =
      wordSum bytes + (high.toNat * 256 + low.toNat) := by
  induction bytes using wordSum.induct generalizing position with
  | case1 =>
      cases within
  | case2 last =>
      simp only [List.length_cons, List.length_nil] at within
      omega
  | case3 first second rest ih =>
      rcases Nat.eq_zero_or_pos position with atFront | behind
      · subst atFront
        simp only [List.set_cons_zero, List.set_cons_succ, List.getD_cons_zero,
          List.getD_cons_succ, wordSum]
        omega
      · obtain ⟨earlier, rfl⟩ : ∃ earlier, position = earlier + 2 :=
          ⟨position - 2, by omega⟩
        simp only [List.length_cons] at within
        have later := @ih earlier (by omega) (by omega)
        simp only [List.set_cons_succ, List.getD_cons_succ, wordSum]
        omega

end OnesComplement
