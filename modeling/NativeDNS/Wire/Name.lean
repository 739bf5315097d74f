/-
The wire decoder of domain names.

The decoder follows compression pointers to earlier bytes and counts labels,
pointers and the terminator in one hop counter.  `NameWalk` is its inversion:
one constructor for each thing an iteration can do, indexed by the exact number
of hops taken.  What a decoded name depends on, what it consists of and when a
pointer can occur are all read off that relation.
-/
import NativeDNS.Names
import NativeDNS.Wire.Bytes

namespace NativeDNS

open ByteText (text byte joined)
open CheckedResult

/-- The hop counter admits this many labels, pointers and terminators. -/
def maxHops : Nat := 128

def isNameByte (character : UInt8) : Bool :=
  decide (32 < character.toNat) && decide (character.toNat < 127) &&
    character != byte '.'

/-- The offset a compression pointer at `position` refers to. -/
def pointerTarget (packet : Packet) (position : Nat) : Nat :=
  ((byteAt packet position).toNat &&& 0x3f) <<< 8 |||
    (byteAt packet (position + 1)).toNat

def appendLabel (result label : Bytes) : Bytes :=
  (if result = [] then [] else result ++ [byte '.']) ++ label.map toLower

/-- The decoding loop.  The first argument is what is left of the hop counter;
`resume` is the offset after the first pointer once one has been followed. -/
def nameLoop (packet : Packet) :
    Nat → Nat → Option Nat → Bytes → Checked (Bytes × Nat)
  | 0, _, _, _ =>
      .error (.of "DNS_MALFORMED" "Invalid DNS name/compression chain")
  | hops + 1, position, resume, result =>
      if position ≥ packet.length then
        .error (.of "DNS_MALFORMED" "Invalid DNS name/compression chain")
      else
        let length := byteAt packet position
        if length &&& 0xc0 = 0xc0 then
          if position + 1 ≥ packet.length then
            .error (.of "DNS_MALFORMED" "Truncated compression pointer")
          else
            let target := pointerTarget packet position
            if target ≥ position ∨ target < 12 then
              .error (.of "DNS_MALFORMED"
                "Compression pointer must refer to earlier name data")
            else
              nameLoop packet hops target (some (resume.getD (position + 2)))
                result
        else if length &&& 0xc0 ≠ 0 then
          .error (.of "DNS_MALFORMED" "Unsupported DNS label encoding")
        else if length = 0 then .ok (result, resume.getD (position + 1))
        else if length.toNat > packet.length - (position + 1) then
          .error (.of "DNS_MALFORMED" "Truncated DNS label")
        else
          let label := slice packet (position + 1) length.toNat
          if label.all isNameByte = false then
            .error (.of "DNS_MALFORMED" "Non-host label bytes are unsupported")
          else
            let result := appendLabel result label
            if result.length > 253 then
              .error (.of "DNS_MALFORMED" "Expanded DNS name is too long")
            else
              nameLoop packet hops (position + 1 + length.toNat) resume result

/-- Decode the name at an offset; the second component is the offset after
it. -/
def name (packet : Packet) (offset : Nat) : Checked (Bytes × Nat) :=
  nameLoop packet maxHops offset none []

/-! ### Kinds of length bytes -/

set_option maxRecDepth 4000 in
private theorem lengthKinds :
    ∀ value < 256,
      ((UInt8.ofNat value &&& 0xc0 = 0xc0) ↔ 192 ≤ value) ∧
        ((UInt8.ofNat value &&& 0xc0 = 0) ↔ value < 64) := by
  decide

theorem isPointer_iff (length : UInt8) :
    length &&& 0xc0 = 0xc0 ↔ 192 ≤ length.toNat := by
  have kinds := (lengthKinds length.toNat length.toNat_lt).1
  rwa [UInt8.ofNat_toNat] at kinds

theorem isPlainLength_iff (length : UInt8) :
    length &&& 0xc0 = 0 ↔ length.toNat < 64 := by
  have kinds := (lengthKinds length.toNat length.toNat_lt).2
  rwa [UInt8.ofNat_toNat] at kinds

theorem isNameByte_lt {character : UInt8}
    (accepted : isNameByte character = true) : character.toNat < 127 := by
  simp only [isNameByte, Bool.and_eq_true, decide_eq_true_eq] at accepted
  exact accepted.1.2

theorem isNameByte_gt {character : UInt8}
    (accepted : isNameByte character = true) : 32 < character.toNat := by
  simp only [isNameByte, Bool.and_eq_true, decide_eq_true_eq] at accepted
  exact accepted.1.1

/-! ### What one iteration can do -/

/-- A successful run of the decoding loop with its exact number of hops. -/
inductive NameWalk (packet : Packet) :
    Nat → Nat → Option Nat → Bytes → Bytes → Nat → Prop
  | finish {position : Nat} {resume : Option Nat} {result : Bytes}
      (inside : position < packet.length)
      (zero : (byteAt packet position).toNat = 0) :
      NameWalk packet 1 position resume result result
        (resume.getD (position + 1))
  | pointer {hops position next : Nat} {resume : Option Nat}
      {result decoded : Bytes}
      (inside : position + 1 < packet.length)
      (marked : 192 ≤ (byteAt packet position).toNat)
      (header : 12 ≤ pointerTarget packet position)
      (earlier : pointerTarget packet position < position)
      (rest : NameWalk packet hops (pointerTarget packet position)
        (some (resume.getD (position + 2))) result decoded next) :
      NameWalk packet (hops + 1) position resume result decoded next
  | label {hops position next : Nat} {resume : Option Nat}
      {result decoded : Bytes}
      (nonempty : 0 < (byteAt packet position).toNat)
      (plain : (byteAt packet position).toNat < 64)
      (inside :
        position + 1 + (byteAt packet position).toNat ≤ packet.length)
      (characters :
        (slice packet (position + 1) (byteAt packet position).toNat).all
          isNameByte = true)
      (bounded :
        (appendLabel result (slice packet (position + 1)
          (byteAt packet position).toNat)).length ≤ 253)
      (rest : NameWalk packet hops
        (position + 1 + (byteAt packet position).toNat) resume
        (appendLabel result (slice packet (position + 1)
          (byteAt packet position).toNat)) decoded next) :
      NameWalk packet (hops + 1) position resume result decoded next

theorem nameWalk_of_nameLoop {packet : Packet} :
    ∀ {fuel position : Nat} {resume : Option Nat} {result decoded : Bytes}
      {next : Nat},
      nameLoop packet fuel position resume result = .ok (decoded, next) →
        ∃ hops ≤ fuel,
          NameWalk packet hops position resume result decoded next
  | 0, position, resume, result, decoded, next, returned => by
      cases returned
  | fuel + 1, position, resume, result, decoded, next, returned => by
      unfold nameLoop at returned
      split at returned
      · cases returned
      · rename_i inside
        simp only [isPointer_iff, ne_eq, isPlainLength_iff] at returned
        split at returned
        · rename_i marked
          split at returned
          · cases returned
          · rename_i second
            split at returned
            · cases returned
            · rename_i legal
              obtain ⟨hops, within, rest⟩ := nameWalk_of_nameLoop returned
              exact ⟨hops + 1, by omega,
                .pointer (by omega) marked (by omega) (by omega) rest⟩
        · split at returned
          · cases returned
          · rename_i plain
            split at returned
            · rename_i zero
              cases returned
              exact ⟨1, by omega, .finish (by omega) (by simp [zero])⟩
            · rename_i nonzero
              have nonempty : 0 < (byteAt packet position).toNat := by
                rw [Nat.pos_iff_ne_zero]
                exact fun zero => nonzero (UInt8.toNat_inj.mp zero)
              split at returned
              · cases returned
              · split at returned
                · cases returned
                · rename_i characters
                  split at returned
                  · cases returned
                  · obtain ⟨hops, within, rest⟩ :=
                      nameWalk_of_nameLoop returned
                    exact ⟨hops + 1, by omega,
                      .label nonempty (by omega) (by omega)
                        (by simpa using characters) (by omega) rest⟩

theorem NameWalk.nameLoop_eq {packet : Packet} {hops position next : Nat}
    {resume : Option Nat} {result decoded : Bytes}
    (walk : NameWalk packet hops position resume result decoded next) :
    ∀ fuel, hops ≤ fuel →
      nameLoop packet fuel position resume result = .ok (decoded, next) := by
  induction walk with
  | finish inside zero =>
      intro fuel within
      obtain ⟨fuel, rfl⟩ := Nat.exists_eq_succ_of_ne_zero (by omega : fuel ≠ 0)
      unfold nameLoop
      simp only [isPointer_iff, ne_eq, isPlainLength_iff]
      rw [if_neg (by omega), if_neg (by omega), if_neg (by omega),
        if_pos (UInt8.toNat_inj.mp zero)]
  | pointer inside marked header earlier rest ih =>
      intro fuel within
      obtain ⟨fuel, rfl⟩ := Nat.exists_eq_succ_of_ne_zero (by omega : fuel ≠ 0)
      unfold nameLoop
      simp only [isPointer_iff, ne_eq, isPlainLength_iff]
      rw [if_neg (by omega), if_pos marked, if_neg (by omega),
        if_neg (by omega)]
      exact ih fuel (by omega)
  | label nonempty plain inside characters bounded rest ih =>
      intro fuel within
      obtain ⟨fuel, rfl⟩ := Nat.exists_eq_succ_of_ne_zero (by omega : fuel ≠ 0)
      have nonzero : byteAt packet _ ≠ 0 := fun zero => by
        rw [zero] at nonempty
        exact Nat.lt_irrefl 0 nonempty
      unfold nameLoop
      simp only [isPointer_iff, ne_eq, isPlainLength_iff]
      rw [if_neg (by omega), if_neg (by omega), if_neg (by omega),
        if_neg nonzero, if_neg (by omega), if_neg (by simp [characters]),
        if_neg (by omega)]
      exact ih fuel (by omega)

theorem name_eq_ok {packet : Packet} {offset next : Nat} {decoded : Bytes} :
    name packet offset = .ok (decoded, next) ↔
      ∃ hops ≤ maxHops, NameWalk packet hops offset none [] decoded next :=
  ⟨nameWalk_of_nameLoop, fun ⟨_, within, walk⟩ =>
    walk.nameLoop_eq maxHops within⟩

end NativeDNS
