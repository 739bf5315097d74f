/-
Buffers of bytes written in place, and little-endian integers.

A buffer is a list of a fixed length.  Writers fill it from the front, so the
working lemma is about a written part in front of a part that is still zero.
-/
import Mathlib.Algebra.Ring.Nat
import Mathlib.Order.Lattice
import Mathlib.Data.List.Basic

namespace ByteBuffer

def overwrite (buffer : List UInt8) (offset : Nat) (bytes : List UInt8) :
    List UInt8 :=
  buffer.take offset ++ bytes ++ buffer.drop (offset + bytes.length)

def littleEndian : Nat → Nat → List UInt8
  | 0, _ => []
  | count + 1, value => UInt8.ofNat value :: littleEndian count (value / 256)

def littleValue : List UInt8 → Nat
  | [] => 0
  | low :: rest => low.toNat + 256 * littleValue rest

/-! ### Writing in place -/

theorem overwrite_append {front old new : List UInt8} (back : List UInt8)
    {offset : Nat} (position : offset = front.length)
    (sameLength : old.length = new.length) :
    overwrite (front ++ (old ++ back)) offset new = front ++ (new ++ back) := by
  subst position
  unfold overwrite
  rw [List.take_left, ← sameLength, ← List.append_assoc front old back,
    List.drop_left' (by rw [List.length_append]), List.append_assoc]

theorem overwrite_zeros {front bytes : List UInt8} {offset left : Nat}
    (position : offset = front.length) (fits : bytes.length ≤ left) :
    overwrite (front ++ List.replicate left 0) offset bytes =
      (front ++ bytes) ++ List.replicate (left - bytes.length) 0 := by
  have split : List.replicate left (0 : UInt8) =
      List.replicate bytes.length 0 ++
        List.replicate (left - bytes.length) 0 := by
    rw [List.replicate_append_replicate, Nat.add_sub_cancel' fits]
  rw [split, overwrite_append _ position List.length_replicate,
    List.append_assoc]

theorem overwrite_start {bytes : List UInt8} {left : Nat}
    (fits : bytes.length ≤ left) :
    overwrite (List.replicate left 0) 0 bytes =
      bytes ++ List.replicate (left - bytes.length) 0 :=
  @overwrite_zeros [] bytes 0 left rfl fits

/-! ### Little-endian integers -/

@[simp] theorem littleEndian_length (count value : Nat) :
    (littleEndian count value).length = count := by
  induction count generalizing value with
  | zero =>
      rfl
  | succ count ih =>
      rw [littleEndian, List.length_cons, ih]

theorem littleValue_littleEndian (count value : Nat) :
    littleValue (littleEndian count value) = value % 256 ^ count := by
  induction count generalizing value with
  | zero =>
      rw [Nat.pow_zero, Nat.mod_one]
      rfl
  | succ count ih =>
      rw [littleEndian, littleValue, ih, UInt8.toNat_ofNat', @Nat.pow_succ 256,
        Nat.mul_comm (256 ^ count) 256, Nat.mod_mul]

theorem littleValue_lt (bytes : List UInt8) :
    littleValue bytes < 256 ^ bytes.length := by
  induction bytes with
  | nil =>
      exact Nat.one_pos
  | cons low rest ih =>
      have small := low.toNat_lt
      rw [littleValue, List.length_cons, Nat.pow_succ]
      omega

theorem littleEndian_littleValue (bytes : List UInt8) :
    littleEndian bytes.length (littleValue bytes) = bytes := by
  induction bytes with
  | nil =>
      rfl
  | cons low rest ih =>
      have small := low.toNat_lt
      have lowByte : UInt8.ofNat (low.toNat + 256 * littleValue rest) = low := by
        apply UInt8.toNat_inj.mp
        rw [UInt8.toNat_ofNat']
        omega
      have highBytes :
          (low.toNat + 256 * littleValue rest) / 256 = littleValue rest := by
        omega
      rw [List.length_cons, littleValue, littleEndian, lowByte, highBytes, ih]

theorem littleEndian_of_value {bytes : List UInt8} {count value : Nat}
    (length : bytes.length = count) (read : littleValue bytes = value) :
    littleEndian count value = bytes := by
  rw [← length, ← read]
  exact littleEndian_littleValue bytes

end ByteBuffer
