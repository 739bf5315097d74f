/-
Reading and writing packets by offset.

A packet is a list of bytes.  `word` and `dword` check the offset as the
source does; the raw reads behind them are total, so that a lemma about a
value read never carries the bound it was read under.
-/
import NativeDNS.Model

namespace NativeDNS

open ByteText (text)
open CheckedResult

abbrev Packet := List UInt8

def byteAt (packet : Packet) (offset : Nat) : UInt8 :=
  packet.getD offset 0

def wordAt (packet : Packet) (offset : Nat) : Nat :=
  (byteAt packet offset).toNat <<< 8 ||| (byteAt packet (offset + 1)).toNat

def dwordAt (packet : Packet) (offset : Nat) : Nat :=
  (byteAt packet offset).toNat <<< 24 |||
    (byteAt packet (offset + 1)).toNat <<< 16 |||
    (byteAt packet (offset + 2)).toNat <<< 8 |||
    (byteAt packet (offset + 3)).toNat

/-- The bytes of a packet from `offset` on, at most `count` of them. -/
def slice (packet : Packet) (offset count : Nat) : Packet :=
  (packet.drop offset).take count

def truncatedField : Error :=
  .of "DNS_MALFORMED" "Truncated DNS field"

def word (packet : Packet) (offset : Nat) : Checked Nat := do
  rejectIf (offset > packet.length ∨ packet.length - offset < 2) truncatedField
  pure (wordAt packet offset)

def dword (packet : Packet) (offset : Nat) : Checked Nat := do
  rejectIf (offset > packet.length ∨ packet.length - offset < 4) truncatedField
  pure (dwordAt packet offset)

def wordBytes (value : Nat) : Packet :=
  [UInt8.ofNat (value >>> 8), UInt8.ofNat value]

def putDword (packet : Packet) (offset value : Nat) : Packet :=
  (((packet.set offset (UInt8.ofNat (value >>> 24))).set (offset + 1)
    (UInt8.ofNat (value >>> 16))).set (offset + 2)
    (UInt8.ofNat (value >>> 8))).set (offset + 3) (UInt8.ofNat value)

/-! ### Values of the reads -/

theorem word_eq_ok {packet : Packet} {offset value : Nat} :
    word packet offset = .ok value ↔
      offset + 2 ≤ packet.length ∧ value = wordAt packet offset := by
  simp only [word, bind_eq_ok, rejectIf_eq_ok, pure_eq_ok, Except.ok.injEq,
    exists_and_left, exists_const]
  constructor
  · rintro ⟨within, read⟩
    exact ⟨by omega, read.symm⟩
  · rintro ⟨within, read⟩
    exact ⟨by omega, read.symm⟩

theorem dword_eq_ok {packet : Packet} {offset value : Nat} :
    dword packet offset = .ok value ↔
      offset + 4 ≤ packet.length ∧ value = dwordAt packet offset := by
  simp only [dword, bind_eq_ok, rejectIf_eq_ok, pure_eq_ok, Except.ok.injEq,
    exists_and_left, exists_const]
  constructor
  · rintro ⟨within, read⟩
    exact ⟨by omega, read.symm⟩
  · rintro ⟨within, read⟩
    exact ⟨by omega, read.symm⟩

theorem word_of_le {packet : Packet} {offset : Nat}
    (within : offset + 2 ≤ packet.length) :
    word packet offset = .ok (wordAt packet offset) :=
  word_eq_ok.mpr ⟨within, rfl⟩

theorem dword_of_le {packet : Packet} {offset : Nat}
    (within : offset + 4 ≤ packet.length) :
    dword packet offset = .ok (dwordAt packet offset) :=
  dword_eq_ok.mpr ⟨within, rfl⟩

private theorem shiftLeft_or_byte (high : Nat) (low : UInt8) :
    high <<< 8 ||| low.toNat = high * 256 + low.toNat := by
  have joined := Nat.two_pow_add_eq_or_of_lt (i := 8) low.toNat_lt high
  rw [Nat.shiftLeft_eq, Nat.mul_comm high (2 ^ 8), ← joined, Nat.mul_comm]

theorem wordAt_eq (packet : Packet) (offset : Nat) :
    wordAt packet offset =
      (byteAt packet offset).toNat * 256 +
        (byteAt packet (offset + 1)).toNat :=
  shiftLeft_or_byte _ _

theorem dwordAt_eq (packet : Packet) (offset : Nat) :
    dwordAt packet offset =
      (((byteAt packet offset).toNat * 256 +
        (byteAt packet (offset + 1)).toNat) * 256 +
        (byteAt packet (offset + 2)).toNat) * 256 +
        (byteAt packet (offset + 3)).toNat := by
  rw [← shiftLeft_or_byte, ← shiftLeft_or_byte, ← shiftLeft_or_byte]
  unfold dwordAt
  simp only [Nat.shiftLeft_or_distrib, ← Nat.shiftLeft_add]

theorem wordAt_lt (packet : Packet) (offset : Nat) :
    wordAt packet offset < 65536 := by
  have high := (byteAt packet offset).toNat_lt
  have low := (byteAt packet (offset + 1)).toNat_lt
  rw [wordAt_eq]
  omega

theorem dwordAt_lt (packet : Packet) (offset : Nat) :
    dwordAt packet offset < 4294967296 := by
  have first := (byteAt packet offset).toNat_lt
  have second := (byteAt packet (offset + 1)).toNat_lt
  have third := (byteAt packet (offset + 2)).toNat_lt
  have fourth := (byteAt packet (offset + 3)).toNat_lt
  rw [dwordAt_eq]
  omega

/-! ### Packets that agree on a range -/

/-- Two packets hold the same bytes at every offset of a range. -/
def AgreeOn (left right : Packet) (first last : Nat) : Prop :=
  ∀ offset, first ≤ offset → offset < last →
    byteAt left offset = byteAt right offset

theorem AgreeOn.mono {left right : Packet} {first last first' last' : Nat}
    (agree : AgreeOn left right first last) (lower : first ≤ first')
    (upper : last' ≤ last) : AgreeOn left right first' last' :=
  fun offset above below => agree offset (by omega) (by omega)

theorem wordAt_congr {left right : Packet} {first last offset : Nat}
    (agree : AgreeOn left right first last) (lower : first ≤ offset)
    (upper : offset + 2 ≤ last) :
    wordAt left offset = wordAt right offset := by
  unfold wordAt
  rw [agree offset lower (by omega), agree (offset + 1) (by omega) (by omega)]

theorem wordAt_congr_self {left right : Packet} {offset : Nat}
    (agree : AgreeOn left right offset (offset + 2)) :
    wordAt left offset = wordAt right offset :=
  wordAt_congr agree (Nat.le_refl _) (Nat.le_refl _)

theorem dwordAt_congr {left right : Packet} {first last offset : Nat}
    (agree : AgreeOn left right first last) (lower : first ≤ offset)
    (upper : offset + 4 ≤ last) :
    dwordAt left offset = dwordAt right offset := by
  unfold dwordAt
  rw [agree offset lower (by omega), agree (offset + 1) (by omega) (by omega),
    agree (offset + 2) (by omega) (by omega),
    agree (offset + 3) (by omega) (by omega)]

theorem dwordAt_congr_self {left right : Packet} {offset : Nat}
    (agree : AgreeOn left right offset (offset + 4)) :
    dwordAt left offset = dwordAt right offset :=
  dwordAt_congr agree (Nat.le_refl _) (Nat.le_refl _)

theorem slice_length {packet : Packet} {offset count : Nat}
    (within : offset + count ≤ packet.length) :
    (slice packet offset count).length = count := by
  unfold slice
  rw [List.length_take, List.length_drop]
  omega

theorem slice_getElem? {packet : Packet} {offset count index : Nat}
    (within : offset + count ≤ packet.length) (inside : index < count) :
    (slice packet offset count)[index]? =
      some (byteAt packet (offset + index)) := by
  unfold slice byteAt
  rw [List.getElem?_take_of_lt inside, List.getElem?_drop,
    List.getD_eq_getElem?_getD, List.getElem?_eq_getElem (by omega)]
  rfl

theorem slice_congr {left right : Packet} {offset count : Nat}
    (agree : AgreeOn left right offset (offset + count))
    (leftWithin : offset + count ≤ left.length)
    (rightWithin : offset + count ≤ right.length) :
    slice left offset count = slice right offset count := by
  apply List.ext_getElem?
  intro index
  by_cases inside : index < count
  · rw [slice_getElem? leftWithin inside, slice_getElem? rightWithin inside,
      agree (offset + index) (by omega) (by omega)]
  · rw [List.getElem?_eq_none (by rw [slice_length leftWithin]; omega),
      List.getElem?_eq_none (by rw [slice_length rightWithin]; omega)]

theorem byteAt_slice {packet : Packet} {offset count index : Nat}
    (within : offset + count ≤ packet.length) (inside : index < count) :
    byteAt (slice packet offset count) index =
      byteAt packet (offset + index) := by
  have found := slice_getElem? within inside
  conv_lhs => unfold byteAt
  rw [List.getD_eq_getElem?_getD, found]
  rfl

theorem slice_cons {packet : Packet} {offset count : Nat}
    (inside : offset < packet.length) :
    slice packet offset (count + 1) =
      byteAt packet offset :: slice packet (offset + 1) count := by
  unfold slice byteAt
  rw [List.drop_eq_getElem_cons inside, List.take_succ_cons,
    List.getD_eq_getElem?_getD, List.getElem?_eq_getElem inside]
  rfl

theorem slice_add (packet : Packet) (offset first second : Nat) :
    slice packet offset (first + second) =
      slice packet offset first ++ slice packet (offset + first) second := by
  unfold slice
  rw [List.take_add, List.drop_drop]

/-! ### Concatenated packets -/

theorem byteAt_append_left {front back : Packet} {offset : Nat}
    (inside : offset < front.length) :
    byteAt (front ++ back) offset = byteAt front offset := by
  unfold byteAt
  rw [List.getD_eq_getElem?_getD, List.getElem?_append_left inside,
    List.getD_eq_getElem?_getD]

theorem byteAt_append_right {front back : Packet} {offset : Nat}
    (behind : front.length ≤ offset) :
    byteAt (front ++ back) offset = byteAt back (offset - front.length) := by
  unfold byteAt
  rw [List.getD_eq_getElem?_getD, List.getElem?_append_right behind,
    List.getD_eq_getElem?_getD]

theorem wordAt_append_left {front back : Packet} {offset : Nat}
    (inside : offset + 2 ≤ front.length) :
    wordAt (front ++ back) offset = wordAt front offset :=
  wordAt_congr_self (fun _ _ _ => byteAt_append_left (by omega))

theorem wordAt_append_right {front back : Packet} {offset : Nat}
    (behind : front.length ≤ offset) :
    wordAt (front ++ back) offset = wordAt back (offset - front.length) := by
  unfold wordAt
  rw [byteAt_append_right behind, byteAt_append_right (by omega),
    Nat.sub_add_comm behind]

theorem byteAt_mem_slice {packet : Packet} {offset count position : Nat}
    (within : offset + count ≤ packet.length) (lower : offset ≤ position)
    (upper : position < offset + count) :
    byteAt packet position ∈ slice packet offset count := by
  have inside : position - offset < count := by omega
  have found := slice_getElem? within inside
  rw [Nat.add_sub_cancel' lower] at found
  exact List.mem_of_getElem? found

theorem wordAt_wordBytes {value : Nat} (fits : value < 65536) (rest : Packet) :
    wordAt (wordBytes value ++ rest) 0 = value := by
  rw [wordAt_eq]
  simp only [wordBytes, byteAt, List.cons_append, List.getD_cons_zero,
    List.getD_cons_succ, UInt8.toNat_ofNat', Nat.shiftRight_eq_div_pow]
  omega

theorem wordAt_wordBytes_add (value offset : Nat) (rest : Packet) :
    wordAt (wordBytes value ++ rest) (offset + 2) = wordAt rest offset := by
  have two : (wordBytes value).length = 2 := rfl
  rw [wordAt_append_right (by omega), two, Nat.add_sub_cancel]

/-! ### Writing bytes in place -/

theorem byteAt_set_self {packet : Packet} {offset : Nat} {value : UInt8}
    (within : offset < packet.length) :
    byteAt (packet.set offset value) offset = value := by
  unfold byteAt
  rw [List.getD_eq_getElem?_getD, List.getElem?_set_self within]
  rfl

theorem byteAt_set_of_ne {packet : Packet} {offset other : Nat} {value : UInt8}
    (different : offset ≠ other) :
    byteAt (packet.set offset value) other = byteAt packet other := by
  unfold byteAt
  rw [List.getD_eq_getElem?_getD, List.getElem?_set_ne different,
    List.getD_eq_getElem?_getD]

@[simp] theorem putDword_length (packet : Packet) (offset value : Nat) :
    (putDword packet offset value).length = packet.length := by
  unfold putDword
  simp only [List.length_set]

theorem byteAt_putDword_of_outside {packet : Packet}
    {offset value position : Nat}
    (outside : position < offset ∨ offset + 4 ≤ position) :
    byteAt (putDword packet offset value) position =
      byteAt packet position := by
  unfold putDword
  rw [byteAt_set_of_ne (by omega), byteAt_set_of_ne (by omega),
    byteAt_set_of_ne (by omega), byteAt_set_of_ne (by omega)]

theorem dwordAt_putDword {packet : Packet} {offset value : Nat}
    (within : offset + 4 ≤ packet.length) (fits : value < 4294967296) :
    dwordAt (putDword packet offset value) offset = value := by
  rw [dwordAt_eq]
  unfold putDword
  have firstByte :
      byteAt ((((packet.set offset (UInt8.ofNat (value >>> 24))).set
        (offset + 1) (UInt8.ofNat (value >>> 16))).set (offset + 2)
        (UInt8.ofNat (value >>> 8))).set (offset + 3) (UInt8.ofNat value))
        offset = UInt8.ofNat (value >>> 24) := by
    rw [byteAt_set_of_ne (by omega), byteAt_set_of_ne (by omega),
      byteAt_set_of_ne (by omega), byteAt_set_self (by omega)]
  have secondByte :
      byteAt ((((packet.set offset (UInt8.ofNat (value >>> 24))).set
        (offset + 1) (UInt8.ofNat (value >>> 16))).set (offset + 2)
        (UInt8.ofNat (value >>> 8))).set (offset + 3) (UInt8.ofNat value))
        (offset + 1) = UInt8.ofNat (value >>> 16) := by
    rw [byteAt_set_of_ne (by omega), byteAt_set_of_ne (by omega),
      byteAt_set_self (by rw [List.length_set]; omega)]
  have thirdByte :
      byteAt ((((packet.set offset (UInt8.ofNat (value >>> 24))).set
        (offset + 1) (UInt8.ofNat (value >>> 16))).set (offset + 2)
        (UInt8.ofNat (value >>> 8))).set (offset + 3) (UInt8.ofNat value))
        (offset + 2) = UInt8.ofNat (value >>> 8) := by
    rw [byteAt_set_of_ne (by omega),
      byteAt_set_self (by simp only [List.length_set]; omega)]
  rw [firstByte, secondByte, thirdByte,
    byteAt_set_self (by simp only [List.length_set]; omega)]
  simp only [UInt8.toNat_ofNat', Nat.shiftRight_eq_div_pow]
  omega

end NativeDNS
