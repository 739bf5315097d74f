/-
What edits in place and the checksum routines do to a packet.

The 32-bit sums of the source are exact for every packet that fits an IP
datagram, and their carries fold to the representative of the sum, so a packet
whose checksum field was zero while it was summed verifies at the receiver.
-/
import Mathlib.Tactic.SplitIfs
import NativeDNS.Interception.Rewrites
import NativeDNS.Library.OnesComplement

namespace NativeDNS

open OnesComplement
open CheckedResult

/-! ### The checksum routines -/

theorem foldCarries_eq (sum : Nat) : foldCarries sum = residue sum := by
  induction sum using foldCarries.induct with
  | case1 sum small =>
      rw [foldCarries, if_pos small, residue_of_le (by omega)]
  | case2 sum large ih =>
      rw [foldCarries, if_neg large, ih]
      exact residue_fold sum

theorem checksumFinish_eq (sum : Nat) : checksumFinish sum = checkWord sum := by
  have bound := residue_le sum
  unfold checksumFinish checkWord
  rw [foldCarries_eq]
  dsimp only
  split <;> split <;> omega

private theorem wordSum_pair (high low : UInt8) :
    high.toNat <<< 8 ||| low.toNat = high.toNat * 256 + low.toNat := by
  have here := wordAt_eq [high, low] 0
  exact here

theorem checksumAdd_eq {sum : Nat} {bytes : Packet}
    (fits : sum + wordSum bytes < 2 ^ 32) :
    checksumAdd sum bytes = sum + wordSum bytes := by
  induction bytes using wordSum.induct generalizing sum with
  | case1 =>
      rfl
  | case2 last =>
      rw [wordSum] at fits ⊢
      have shifted : last.toNat <<< 8 = last.toNat * 256 := by
        rw [Nat.shiftLeft_eq]
      rw [checksumAdd, shifted]
      exact Nat.mod_eq_of_lt fits
  | case3 high low rest ih =>
      rw [wordSum] at fits ⊢
      have unwrapped : (sum + (high.toNat * 256 + low.toNat)) % 2 ^ 32 =
          sum + (high.toNat * 256 + low.toNat) := by
        omega
      rw [checksumAdd, wordSum_pair, unwrapped, ih (by omega)]
      omega

/-! ### Words written in place -/

@[simp] theorem putWord_length (packet : Packet) (offset value : Nat) :
    (putWord packet offset value).length = packet.length := by
  unfold putWord
  rw [List.length_set, List.length_set]

theorem byteAt_putWord_of_outside {packet : Packet}
    {offset value position : Nat}
    (outside : position ≠ offset ∧ position ≠ offset + 1) :
    byteAt (putWord packet offset value) position = byteAt packet position := by
  unfold putWord
  rw [byteAt_set_of_ne (Ne.symm outside.2), byteAt_set_of_ne (Ne.symm outside.1)]

theorem wordAt_putWord {packet : Packet} {offset value : Nat}
    (within : offset + 1 < packet.length) (fits : value < 65536) :
    wordAt (putWord packet offset value) offset = value := by
  rw [wordAt_eq]
  unfold putWord
  rw [byteAt_set_of_ne (by omega), byteAt_set_self (by omega),
    byteAt_set_self (by rw [List.length_set]; exact within)]
  simp only [UInt8.toNat_ofNat', Nat.shiftRight_eq_div_pow]
  omega

theorem wordAt_putWord_of_outside {packet : Packet}
    {offset value position : Nat}
    (outside : position + 1 < offset ∨ offset + 1 < position) :
    wordAt (putWord packet offset value) position = wordAt packet position := by
  unfold wordAt
  rw [byteAt_putWord_of_outside (by omega),
    byteAt_putWord_of_outside (by omega)]

theorem wordSum_putWord {packet : Packet} {offset value : Nat}
    (even : offset % 2 = 0) (within : offset + 1 < packet.length)
    (fits : value < 65536) :
    wordSum (putWord packet offset value) + wordAt packet offset =
      wordSum packet + value := by
  have replaced := wordSum_set (UInt8.ofNat (value >>> 8)) (UInt8.ofNat value)
    even within
  have written : (UInt8.ofNat (value >>> 8)).toNat * 256 +
      (UInt8.ofNat value).toNat = value := by
    simp only [UInt8.toNat_ofNat', Nat.shiftRight_eq_div_pow]
    omega
  rw [wordAt_eq]
  unfold putWord byteAt
  omega

theorem drop_putWord_behind {packet : Packet} {bound offset value : Nat} :
    (putWord packet (bound + offset) value).drop bound =
      putWord (packet.drop bound) offset value := by
  unfold putWord
  rw [Nat.add_assoc, List.drop_set, if_neg (by omega), List.drop_set,
    if_neg (by omega), Nat.add_sub_cancel_left, Nat.add_sub_cancel_left]

theorem take_putWord {packet : Packet} {bound offset value : Nat} :
    (putWord packet offset value).take bound =
      putWord (packet.take bound) offset value := by
  unfold putWord
  rw [List.take_set, List.take_set]

theorem wordAt_drop (packet : Packet) (bound offset : Nat) :
    wordAt (packet.drop bound) offset = wordAt packet (bound + offset) := by
  unfold wordAt byteAt
  simp only [List.getD_eq_getElem?_getD, List.getElem?_drop, Nat.add_assoc]

theorem wordAt_take {packet : Packet} {bound offset : Nat}
    (before : offset + 1 < bound) :
    wordAt (packet.take bound) offset = wordAt packet offset := by
  unfold wordAt byteAt
  rw [List.getD_eq_getElem?_getD, List.getD_eq_getElem?_getD,
    List.getElem?_take_of_lt (by omega), List.getElem?_take_of_lt before,
    List.getD_eq_getElem?_getD, List.getD_eq_getElem?_getD]

/-! ### Exchanged bytes -/

@[simp] theorem swapBytes_length (packet : Packet) (left right : Nat) :
    (swapBytes packet left right).length = packet.length := by
  unfold swapBytes
  rw [List.length_set, List.length_set]

theorem byteAt_swapBytes {packet : Packet} {left right : Nat}
    (apart : left ≠ right) (leftWithin : left < packet.length)
    (rightWithin : right < packet.length) (position : Nat) :
    byteAt (swapBytes packet left right) position =
      byteAt packet
        (if position = left then right
        else if position = right then left
        else position) := by
  unfold swapBytes
  by_cases atRight : position = right
  · subst atRight
    rw [byteAt_set_self (by rw [List.length_set]; exact rightWithin),
      if_neg (Ne.symm apart), if_pos rfl]
  · rw [byteAt_set_of_ne (Ne.symm atRight)]
    by_cases atLeft : position = left
    · subst atLeft
      rw [byteAt_set_self leftWithin, if_pos rfl]
    · rw [byteAt_set_of_ne (Ne.symm atLeft), if_neg atLeft, if_neg atRight]

theorem swapRanges_succ (left right count : Nat) (packet : Packet) :
    swapRanges left right (count + 1) packet =
      swapBytes (swapRanges left right count packet) (left + count)
        (right + count) := by
  unfold swapRanges
  rw [List.range_succ, List.foldl_append]
  rfl

@[simp] theorem swapRanges_length (left right count : Nat) (packet : Packet) :
    (swapRanges left right count packet).length = packet.length := by
  induction count with
  | zero =>
      rfl
  | succ count ih =>
      rw [swapRanges_succ, swapBytes_length, ih]

theorem byteAt_swapRanges {packet : Packet} {left right count : Nat}
    (apart : left + count ≤ right) (within : right + count ≤ packet.length)
    (position : Nat) :
    byteAt (swapRanges left right count packet) position =
      byteAt packet
        (if left ≤ position ∧ position < left + count then
          right + (position - left)
        else if right ≤ position ∧ position < right + count then
          left + (position - right)
        else position) := by
  induction count generalizing position with
  | zero =>
      have nowhere : ∀ start, ¬ (start ≤ position ∧ position < start + 0) := by
        omega
      rw [if_neg (nowhere left), if_neg (nowhere right)]
      rfl
  | succ count ih =>
      have before := ih (by omega) (by omega)
      rw [swapRanges_succ, byteAt_swapBytes (by omega)
        (by rw [swapRanges_length]; omega) (by rw [swapRanges_length]; omega),
        before]
      congr 1
      split_ifs <;> omega

/-- Where a byte of an exchanged packet comes from. -/
def exchangedOffset (ipv6 : Bool) (position : Nat) : Nat :=
  if ipv6 then
    if 8 ≤ position ∧ position < 24 then position + 16
    else if 24 ≤ position ∧ position < 40 then position - 16
    else position
  else
    if 12 ≤ position ∧ position < 16 then position + 4
    else if 16 ≤ position ∧ position < 20 then position - 4
    else position

@[simp] theorem exchangeAddresses_length (ipv6 : Bool) (packet : Packet) :
    (exchangeAddresses ipv6 packet).length = packet.length := by
  unfold exchangeAddresses
  split <;> rw [swapRanges_length]

theorem byteAt_exchangeAddresses {ipv6 : Bool} {packet : Packet}
    (within : (if ipv6 then 40 else 20) ≤ packet.length) (position : Nat) :
    byteAt (exchangeAddresses ipv6 packet) position =
      byteAt packet (exchangedOffset ipv6 position) := by
  unfold exchangeAddresses exchangedOffset
  cases ipv6 with
  | false =>
      simp only [Bool.false_eq_true, if_false] at within ⊢
      rw [byteAt_swapRanges (by omega) (by omega)]
      congr 1
      split_ifs <;> omega
  | true =>
      simp only [if_true] at within ⊢
      rw [byteAt_swapRanges (by omega) (by omega)]
      congr 1
      split_ifs <;> omega

theorem exchangedOffset_of_le {ipv6 : Bool} {position : Nat}
    (behind : (if ipv6 then 40 else 20) ≤ position) :
    exchangedOffset ipv6 position = position := by
  unfold exchangedOffset
  cases ipv6 with
  | false =>
      simp only [Bool.false_eq_true, if_false] at behind ⊢
      rw [if_neg (by omega), if_neg (by omega)]
  | true =>
      simp only [if_true] at behind ⊢
      rw [if_neg (by omega), if_neg (by omega)]

@[simp] theorem exchangePorts_length (transport : Nat) (packet : Packet) :
    (exchangePorts transport packet).length = packet.length := by
  unfold exchangePorts
  rw [swapBytes_length, swapBytes_length]

theorem byteAt_exchangePorts {packet : Packet} {transport : Nat}
    (within : transport + 3 < packet.length) (position : Nat) :
    byteAt (exchangePorts transport packet) position =
      byteAt packet
        (if position = transport ∨ position = transport + 1 then position + 2
        else if position = transport + 2 ∨ position = transport + 3 then
          position - 2
        else position) := by
  unfold exchangePorts
  rw [byteAt_swapBytes (by omega) (by rw [swapBytes_length]; omega)
      (by rw [swapBytes_length]; omega),
    byteAt_swapBytes (by omega) (by omega) (by omega)]
  congr 1
  split_ifs <;> omega

end NativeDNS
