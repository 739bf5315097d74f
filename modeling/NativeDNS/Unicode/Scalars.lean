/-
The decoder reads exactly the well-formed texts.

A text is well formed when it is the encoding of a list of characters, that is
of code points that are no surrogates and at most 0x10FFFF, each in its shortest
form.  The lead byte and the continuation bytes of a character spell its code
point in base 64; the encoder and the decoder are compared on these digits.
-/
import NativeDNS.Utf8
import Mathlib.Data.List.Basic

namespace NativeDNS

open CheckedResult

def IsUtf8 (value : Bytes) : Prop :=
  ∃ characters : List Char, value = characters.flatMap String.utf8EncodeChar

/-! ### Bytes and their bits -/

def markedByte (mark bits : Nat) : UInt8 :=
  UInt8.ofNat (mark + bits)

private theorem tailKinds :
    ∀ bits < 64, markedByte 0x80 bits &&& 0xC0 = 0x80 ∧
      (markedByte 0x80 bits &&& 0x3F).toNat = bits := by
  decide

set_option maxRecDepth 4000 in
private theorem markedKinds :
    ∀ value < 256, UInt8.ofNat value &&& 0xC0 = 0x80 →
      (UInt8.ofNat value &&& 0x3F).toNat < 64 ∧
        UInt8.ofNat value =
          markedByte 0x80 (UInt8.ofNat value &&& 0x3F).toNat := by
  decide

set_option maxRecDepth 4000 in
private theorem leadKinds :
    ∀ value < 256,
      (UInt8.ofNat value < 0x80 → value < 128) ∧
      (UInt8.ofNat value &&& 0xE0 = 0xC0 →
        (UInt8.ofNat value &&& 0x1F).toNat < 32 ∧
          UInt8.ofNat value =
            markedByte 0xC0 (UInt8.ofNat value &&& 0x1F).toNat) ∧
      (UInt8.ofNat value &&& 0xF0 = 0xE0 →
        (UInt8.ofNat value &&& 0x0F).toNat < 16 ∧
          UInt8.ofNat value =
            markedByte 0xE0 (UInt8.ofNat value &&& 0x0F).toNat) ∧
      (UInt8.ofNat value &&& 0xF8 = 0xF0 →
        (UInt8.ofNat value &&& 0x07).toNat < 8 ∧
          UInt8.ofNat value =
            markedByte 0xF0 (UInt8.ofNat value &&& 0x07).toNat) := by
  decide

inductive LeadByte : UInt8 → Nat → Nat → Prop
  | one {bits : Nat} (small : bits < 128) : LeadByte (UInt8.ofNat bits) bits 0
  | two {bits : Nat} (shortest : 2 ≤ bits) (small : bits < 32) :
      LeadByte (markedByte 0xC0 bits) bits 1
  | three {bits : Nat} (small : bits < 16) : LeadByte (markedByte 0xE0 bits) bits 2
  | four {bits : Nat} (small : bits < 8) : LeadByte (markedByte 0xF0 bits) bits 3

theorem leadByte_of_utf8Lead {c : UInt8} {bits extra : Nat}
    (lead : utf8Lead c = .ok (bits, extra)) : LeadByte c bits extra := by
  have kinds := leadKinds c.toNat c.toNat_lt
  rw [UInt8.ofNat_toNat] at kinds
  obtain ⟨ascii, two, three, four⟩ := kinds
  unfold utf8Lead at lead
  split at lead
  · rename_i small
    cases lead
    have known := LeadByte.one (ascii small)
    rwa [UInt8.ofNat_toNat] at known
  · split at lead
    · rename_i marked
      simp only [bind_eq_ok, rejectIf_eq_ok, pure_eq_ok, Except.ok.injEq,
        Prod.mk.injEq] at lead
      obtain ⟨_, shortest, bitsEq, extraEq⟩ := lead
      obtain ⟨small, whole⟩ := two marked
      rw [UInt8.lt_iff_toNat_lt] at shortest
      rw [whole, bitsEq, ← extraEq]
      rw [bitsEq] at small shortest
      exact LeadByte.two (Nat.not_lt.mp shortest) small
    · split at lead
      · rename_i marked
        cases lead
        obtain ⟨small, whole⟩ := three marked
        have known := LeadByte.three small
        rwa [← whole] at known
      · split at lead
        · rename_i marked
          cases lead
          obtain ⟨small, whole⟩ := four marked
          have known := LeadByte.four small
          rwa [← whole] at known
        · cases lead

private theorem twoKinds :
    ∀ bits < 32, ¬ markedByte 0xC0 bits < 0x80 ∧
      markedByte 0xC0 bits &&& 0xE0 = 0xC0 ∧
      (markedByte 0xC0 bits &&& 0x1F).toNat = bits := by
  decide

private theorem threeKinds :
    ∀ bits < 16, ¬ markedByte 0xE0 bits < 0x80 ∧
      ¬ markedByte 0xE0 bits &&& 0xE0 = 0xC0 ∧
      markedByte 0xE0 bits &&& 0xF0 = 0xE0 ∧
      (markedByte 0xE0 bits &&& 0x0F).toNat = bits := by
  decide

private theorem fourKinds :
    ∀ bits < 16, ¬ markedByte 0xF0 bits < 0x80 ∧
      ¬ markedByte 0xF0 bits &&& 0xE0 = 0xC0 ∧
      ¬ markedByte 0xF0 bits &&& 0xF0 = 0xE0 ∧
      (markedByte 0xF0 bits &&& 0xF8 = 0xF0 ↔ bits < 8) ∧
      (bits < 8 → (markedByte 0xF0 bits &&& 0x07).toNat = bits) := by
  decide

theorem LeadByte.utf8Lead {c : UInt8} {bits extra : Nat}
    (lead : LeadByte c bits extra) : utf8Lead c = .ok (bits, extra) := by
  unfold NativeDNS.utf8Lead
  cases lead with
  | one small =>
      have value : (UInt8.ofNat bits).toNat = bits := by
        rw [UInt8.toNat_ofNat']
        omega
      have ascii : UInt8.ofNat bits < 0x80 := by
        rw [UInt8.lt_iff_toNat_lt, value]
        exact small
      rw [if_pos ascii, value]
      rfl
  | two shortest small =>
      obtain ⟨high, marked, value⟩ := twoKinds bits small
      have long : ¬ markedByte 0xC0 bits &&& 0x1F < 2 := by
        rw [UInt8.lt_iff_toNat_lt, value]
        exact Nat.not_lt.mpr shortest
      rw [if_neg high, if_pos marked, rejectIf_of_not long, value]
      rfl
  | three small =>
      obtain ⟨high, notTwo, marked, value⟩ := threeKinds bits small
      rw [if_neg high, if_neg notTwo, if_pos marked, value]
      rfl
  | four small =>
      obtain ⟨high, notTwo, notThree, marked, value⟩ :=
        fourKinds bits (by omega)
      rw [if_neg high, if_neg notTwo, if_neg notThree, if_pos (marked.mpr small),
        value small]
      rfl

theorem utf8Lead_refused {bits : Nat} (large : 8 ≤ bits) (small : bits < 16) :
    ∃ error, utf8Lead (markedByte 0xF0 bits) = .error error := by
  obtain ⟨high, notTwo, notThree, marked, _⟩ := fourKinds bits small
  have notFour : ¬ markedByte 0xF0 bits &&& 0xF8 = 0xF0 := fun same =>
    absurd (marked.mp same) (Nat.not_lt.mpr large)
  unfold utf8Lead
  rw [if_neg high, if_neg notTwo, if_neg notThree, if_neg notFour]
  exact ⟨_, rfl⟩

/-! ### Continuation bytes -/

/-- The code point that digits in base 64 spell. -/
def spelled (bits : Nat) (digits : List Nat) : Nat :=
  digits.foldl (fun value digit => value * 64 + digit) bits

def tailBytes (digits : List Nat) : Bytes :=
  digits.map (markedByte 0x80)

theorem utf8Continue_tailBytes {digits : List Nat}
    (small : ∀ digit ∈ digits, digit < 64) (bits : Nat) :
    utf8Continue bits (tailBytes digits) = .ok (spelled bits digits) := by
  induction digits generalizing bits with
  | nil =>
      rfl
  | cons digit rest ih =>
      have below := small digit List.mem_cons_self
      obtain ⟨marked, value⟩ := tailKinds digit below
      have added : bits <<< 6 ||| digit = bits * 64 + digit := by
        rw [Nat.shiftLeft_eq, Nat.mul_comm, ← Nat.two_pow_add_eq_or_of_lt below]
      rw [tailBytes, List.map_cons, utf8Continue, rejectIf_of_not (by simp [marked]),
        ok_bind, value, added]
      exact ih (fun other member => small other (List.mem_cons_of_mem digit member))
        (bits * 64 + digit)

theorem digits_of_utf8Continue {bits cp : Nat} {bytes : Bytes}
    (run : utf8Continue bits bytes = .ok cp) :
    ∃ digits, bytes = tailBytes digits ∧ (∀ digit ∈ digits, digit < 64) ∧
      cp = spelled bits digits := by
  induction bytes generalizing bits with
  | nil =>
      cases run
      exact ⟨[], rfl, fun _ member => absurd member List.not_mem_nil, rfl⟩
  | cons b rest ih =>
      simp only [utf8Continue, bind_eq_ok, rejectIf_eq_ok, Decidable.not_not] at run
      obtain ⟨_, marked, later⟩ := run
      have kinds := markedKinds b.toNat b.toNat_lt
      rw [UInt8.ofNat_toNat] at kinds
      obtain ⟨below, whole⟩ := kinds marked
      obtain ⟨digits, restEq, small, cpEq⟩ := ih later
      have added : bits <<< 6 ||| (b &&& 0x3F).toNat =
          bits * 64 + (b &&& 0x3F).toNat := by
        rw [Nat.shiftLeft_eq, Nat.mul_comm, ← Nat.two_pow_add_eq_or_of_lt below]
      refine ⟨(b &&& 0x3F).toNat :: digits, ?_, ?_, ?_⟩
      · rw [restEq, tailBytes, tailBytes, List.map_cons, ← whole]
      · intro digit member
        rcases List.mem_cons.mp member with here | behind
        · rw [here]
          exact below
        · exact small digit behind
      · rw [cpEq, added]
        rfl

/-! ### One character -/

def RefusedPoint (extra cp : Nat) : Prop :=
  (extra = 2 ∧ cp < 0x800) ∨ (extra = 3 ∧ cp < 0x10000) ∨ cp > 0x10FFFF ∨
    (0xD800 ≤ cp ∧ cp ≤ 0xDFFF)

theorem decodeUtf8_character {c : UInt8} {bits extra : Nat} {digits : List Nat}
    (lead : LeadByte c bits extra) (announced : digits.length = extra)
    (small : ∀ digit ∈ digits, digit < 64) {rest : Bytes} {points : List Nat} :
    decodeUtf8 (c :: (tailBytes digits ++ rest)) = .ok points ↔
      ¬ RefusedPoint extra (spelled bits digits) ∧
        ∃ others, decodeUtf8 rest = .ok others ∧
          points = spelled bits digits :: others := by
  have length : (tailBytes digits).length = extra := by
    rw [tailBytes, List.length_map, announced]
  have front : (tailBytes digits ++ rest).take extra = tailBytes digits := by
    rw [← length, List.take_left']
    rfl
  have back : (tailBytes digits ++ rest).drop extra = rest := by
    rw [← length, List.drop_left']
    rfl
  rw [decodeUtf8_cons_eq_ok]
  constructor
  · rintro ⟨bits', extra', cp, others, read, _, run, accepted, behind, whole⟩
    rw [lead.utf8Lead] at read
    cases read
    rw [front, utf8Continue_tailBytes small] at run
    cases run
    rw [back] at behind
    exact ⟨accepted, others, behind, whole⟩
  · rintro ⟨accepted, others, behind, whole⟩
    refine ⟨bits, extra, _, others, lead.utf8Lead, ?_,
      front.symm ▸ utf8Continue_tailBytes small bits, accepted,
      back.symm ▸ behind, whole⟩
    rw [List.length_append, length]
    omega

theorem decodeUtf8_cases {c : UInt8} {rest : Bytes} {points : List Nat}
    (run : decodeUtf8 (c :: rest) = .ok points) :
    ∃ bits digits others remaining, LeadByte c bits digits.length ∧
      (∀ digit ∈ digits, digit < 64) ∧ rest = tailBytes digits ++ remaining ∧
      ¬ RefusedPoint digits.length (spelled bits digits) ∧
      decodeUtf8 remaining = .ok others ∧
      points = spelled bits digits :: others := by
  obtain ⟨bits, extra, cp, others, lead, enough, continued, accepted, behind,
    whole⟩ := decodeUtf8_cons_eq_ok.mp run
  obtain ⟨digits, bytesEq, small, cpEq⟩ := digits_of_utf8Continue continued
  have announced : digits.length = extra := by
    have lengths := congrArg List.length bytesEq
    rw [List.length_take, tailBytes, List.length_map] at lengths
    omega
  subst announced cpEq
  refine ⟨bits, digits, others, rest.drop digits.length,
    leadByte_of_utf8Lead lead, small, ?_, accepted, behind, whole⟩
  rw [← bytesEq, List.take_append_drop]

/-! ### The encoder -/

theorem tail_or (value : Nat) :
    UInt8.ofNat (0x80 ||| value &&& 0x3F) = markedByte 0x80 (value % 64) := by
  have masked : value &&& 0x3F = value % 64 :=
    Nat.and_two_pow_sub_one_eq_mod value 6
  have below : value % 64 < 2 ^ 6 := Nat.mod_lt value (by decide)
  rw [masked, markedByte]
  exact congrArg UInt8.ofNat (Nat.two_pow_add_eq_or_of_lt below 2).symm

set_option maxRecDepth 4000 in
private theorem leadOrKinds :
    ∀ value < 256, 0xF0 ||| UInt8.ofNat value = markedByte 0xF0 (value % 16) := by
  decide

/-- The lead byte of a code point above 0xFFFF keeps four bits of it. -/
theorem lead_or (value : Nat) :
    UInt8.ofNat (0xF0 ||| value) = markedByte 0xF0 (value % 16) := by
  have reduced : UInt8.ofNat value = UInt8.ofNat (value % 256) :=
    UInt8.toNat_inj.mp (by rw [UInt8.toNat_ofNat', UInt8.toNat_ofNat',
      Nat.mod_mod])
  have kinds := leadOrKinds (value % 256) (Nat.mod_lt value (by decide))
  have twice : value % 256 % 16 = value % 16 := by omega
  rw [UInt8.ofNat_or, reduced, ← twice]
  exact kinds

theorem appendUtf8_one {cp : Nat} (small : cp ≤ 0x7F) :
    appendUtf8 cp = [UInt8.ofNat cp] :=
  if_pos small

theorem appendUtf8_two {cp : Nat} (large : 0x7F < cp) (small : cp ≤ 0x7FF) :
    appendUtf8 cp = markedByte 0xC0 (cp / 64) :: tailBytes [cp % 64] := by
  have below : cp / 64 < 2 ^ 5 := by omega
  have lead : 0xC0 ||| cp / 64 = 0xC0 + cp / 64 :=
    (Nat.two_pow_add_eq_or_of_lt below 6).symm
  unfold appendUtf8
  rw [if_neg (Nat.not_le.mpr large), if_pos small, tail_or,
    Nat.shiftRight_eq_div_pow, lead]
  rfl

theorem appendUtf8_three {cp : Nat} (large : 0x7FF < cp) (small : cp ≤ 0xFFFF) :
    appendUtf8 cp = markedByte 0xE0 (cp / 4096) ::
      tailBytes [cp / 64 % 64, cp % 64] := by
  have below : cp / 4096 < 2 ^ 4 := by omega
  have lead : 0xE0 ||| cp / 4096 = 0xE0 + cp / 4096 :=
    (Nat.two_pow_add_eq_or_of_lt below 14).symm
  unfold appendUtf8
  rw [if_neg (by omega), if_neg (Nat.not_le.mpr large), if_pos small, tail_or,
    tail_or, Nat.shiftRight_eq_div_pow, Nat.shiftRight_eq_div_pow, lead]
  rfl

theorem appendUtf8_four {cp : Nat} (large : 0xFFFF < cp) :
    appendUtf8 cp = markedByte 0xF0 (cp / 262144 % 16) ::
      tailBytes [cp / 4096 % 64, cp / 64 % 64, cp % 64] := by
  unfold appendUtf8
  rw [if_neg (by omega), if_neg (by omega), if_neg (Nat.not_le.mpr large), lead_or,
    tail_or, tail_or, tail_or]
  simp only [Nat.shiftRight_eq_div_pow]
  rfl

/-- A code point spelled by a lead byte and continuation bytes. -/
structure Spelling (cp : Nat) (bytes : Bytes) where
  lead : UInt8
  bits : Nat
  digits : List Nat
  leads : LeadByte lead bits digits.length
  small : ∀ digit ∈ digits, digit < 64
  value : spelled bits digits = cp
  accepted : ¬ RefusedPoint digits.length cp
  bytesEq : bytes = lead :: tailBytes digits

theorem appendUtf8_spelled {c : UInt8} {bits : Nat} {digits : List Nat}
    (lead : LeadByte c bits digits.length) (small : ∀ digit ∈ digits, digit < 64)
    (accepted : ¬ RefusedPoint digits.length (spelled bits digits)) :
    appendUtf8 (spelled bits digits) = c :: tailBytes digits := by
  rcases digits with _ | ⟨first, _ | ⟨second, _ | ⟨third, _ | ⟨fourth, more⟩⟩⟩⟩
  · cases lead with
    | one below =>
        exact appendUtf8_one (Nat.le_of_lt_succ below)
  · have firstSmall := small first (by simp)
    cases lead with
    | two shortest below =>
        have value : spelled bits [first] = bits * 64 + first := rfl
        rw [value, appendUtf8_two (by omega) (by omega)]
        have top : (bits * 64 + first) / 64 = bits := by omega
        have low : (bits * 64 + first) % 64 = first := by omega
        rw [top, low]
  · have firstSmall := small first (by simp)
    have secondSmall := small second (by simp)
    cases lead with
    | three below =>
        have value : spelled bits [first, second] =
            (bits * 64 + first) * 64 + second := rfl
        have long : 0x7FF < (bits * 64 + first) * 64 + second := by
          by_contra short
          exact accepted (.inl ⟨rfl, by rw [value]; omega⟩)
        rw [value, appendUtf8_three long (by omega)]
        have top : ((bits * 64 + first) * 64 + second) / 4096 = bits := by omega
        have middle : ((bits * 64 + first) * 64 + second) / 64 % 64 = first := by
          omega
        have low : ((bits * 64 + first) * 64 + second) % 64 = second := by omega
        rw [top, middle, low]
  · have firstSmall := small first (by simp)
    have secondSmall := small second (by simp)
    have thirdSmall := small third (by simp)
    cases lead with
    | four below =>
        have value : spelled bits [first, second, third] =
            ((bits * 64 + first) * 64 + second) * 64 + third := rfl
        have long : 0xFFFF < ((bits * 64 + first) * 64 + second) * 64 + third := by
          by_contra short
          exact accepted (.inr (.inl ⟨rfl, by rw [value]; omega⟩))
        rw [value, appendUtf8_four long]
        have top : (((bits * 64 + first) * 64 + second) * 64 + third) /
            262144 % 16 = bits := by omega
        have upper : (((bits * 64 + first) * 64 + second) * 64 + third) /
            4096 % 64 = first := by omega
        have middle : (((bits * 64 + first) * 64 + second) * 64 + third) /
            64 % 64 = second := by omega
        have low : (((bits * 64 + first) * 64 + second) * 64 + third) % 64 =
            third := by omega
        rw [top, upper, middle, low]
  · cases lead

def spellingOf {cp : Nat} (valid : cp.isValidChar) :
    Spelling cp (appendUtf8 cp) :=
  if one : cp ≤ 0x7F then
    { lead := UInt8.ofNat cp
      bits := cp
      digits := []
      leads := .one (Nat.lt_succ_of_le one)
      small := fun _ member => absurd member List.not_mem_nil
      value := rfl
      accepted := by unfold RefusedPoint; simp only [List.length_nil]; omega
      bytesEq := appendUtf8_one one }
  else if two : cp ≤ 0x7FF then
    { lead := markedByte 0xC0 (cp / 64)
      bits := cp / 64
      digits := [cp % 64]
      leads := .two (by omega) (by omega)
      small := by simp; omega
      value := by change cp / 64 * 64 + cp % 64 = cp; omega
      accepted := by
        unfold RefusedPoint
        simp only [List.length_cons, List.length_nil]
        omega
      bytesEq := appendUtf8_two (Nat.not_le.mp one) two }
  else if three : cp ≤ 0xFFFF then
    { lead := markedByte 0xE0 (cp / 4096)
      bits := cp / 4096
      digits := [cp / 64 % 64, cp % 64]
      leads := .three (by omega)
      small := by simp; omega
      value := by
        change (cp / 4096 * 64 + cp / 64 % 64) * 64 + cp % 64 = cp
        omega
      accepted := by
        unfold RefusedPoint
        simp only [List.length_cons, List.length_nil]
        omega
      bytesEq := appendUtf8_three (Nat.not_le.mp two) three }
  else
    have fourBits : cp / 262144 % 16 = cp / 262144 := by omega
    { lead := markedByte 0xF0 (cp / 262144)
      bits := cp / 262144
      digits := [cp / 4096 % 64, cp / 64 % 64, cp % 64]
      leads := .four (by omega)
      small := by simp; omega
      value := by
        change ((cp / 262144 * 64 + cp / 4096 % 64) * 64 + cp / 64 % 64) * 64 +
          cp % 64 = cp
        omega
      accepted := by
        unfold RefusedPoint
        simp only [List.length_cons, List.length_nil]
        omega
      bytesEq := by rw [appendUtf8_four (Nat.not_le.mp three), fourBits] }

theorem utf8EncodeChar_eq (character : Char) :
    String.utf8EncodeChar character = appendUtf8 character.toNat := by
  have valid : character.toNat.isValidChar := character.valid
  have value : character.val.toNat = character.toNat := rfl
  unfold String.utf8EncodeChar
  simp only [value]
  by_cases one : character.toNat ≤ 0x7F
  · rw [if_pos one, appendUtf8_one one]
  · rw [if_neg one]
    by_cases two : character.toNat ≤ 0x7FF
    · have top : character.toNat / 64 % 0x20 = character.toNat / 64 := by omega
      rw [if_pos two, appendUtf8_two (Nat.not_le.mp one) two, top, Nat.add_comm,
        Nat.add_comm _ 0x80]
      rfl
    · rw [if_neg two]
      by_cases three : character.toNat ≤ 0xFFFF
      · have top : character.toNat / 4096 % 0x10 = character.toNat / 4096 := by
          omega
        rw [if_pos three, appendUtf8_three (Nat.not_le.mp two) three, top,
          Nat.add_comm, Nat.add_comm _ 0x80, Nat.add_comm _ 0x80]
        rfl
      · have top : character.toNat / 262144 % 0x08 =
            character.toNat / 262144 % 16 := by omega
        rw [if_neg three, appendUtf8_four (Nat.not_le.mp three), top,
          Nat.add_comm, Nat.add_comm _ 0x80, Nat.add_comm _ 0x80,
          Nat.add_comm _ 0x80]
        rfl

/-! ### Texts -/

theorem isValidChar_of_accepted {extra cp : Nat} (accepted : ¬ RefusedPoint extra cp) :
    cp.isValidChar := by
  unfold RefusedPoint at accepted
  change cp < 0xD800 ∨ 0xDFFF < cp ∧ cp < 0x110000
  omega

theorem decodeUtf8_appendUtf8 {cp : Nat} (valid : cp.isValidChar) {rest : Bytes}
    {others : List Nat} (behind : decodeUtf8 rest = .ok others) :
    decodeUtf8 (appendUtf8 cp ++ rest) = .ok (cp :: others) := by
  let spelling := spellingOf valid
  rw [spelling.bytesEq, List.cons_append]
  refine (decodeUtf8_character spelling.leads rfl spelling.small).mpr ?_
  rw [spelling.value]
  exact ⟨spelling.accepted, others, behind, rfl⟩

/-- The decoder accepts exactly the well-formed texts, and returns their code
points. -/
theorem decodeUtf8_eq_ok {value : Bytes} {points : List Nat} :
    decodeUtf8 value = .ok points ↔
      value = points.flatMap appendUtf8 ∧ ∀ cp ∈ points, cp.isValidChar := by
  constructor
  · intro run
    induction length : value.length using Nat.strongRecOn
        generalizing value points with
    | _ size ih =>
        cases value with
        | nil =>
            rw [decodeUtf8_nil] at run
            cases run
            exact ⟨rfl, fun _ member => absurd member List.not_mem_nil⟩
        | cons c rest =>
            obtain ⟨bits, digits, others, remaining, lead, small, rest_eq, accepted,
              behind, whole⟩ := decodeUtf8_cases run
            have shorter : remaining.length < size := by
              rw [← length, rest_eq, List.length_cons, List.length_append]
              omega
            obtain ⟨remaining_eq, valid⟩ := ih _ shorter behind rfl
            subst whole
            rw [rest_eq, List.flatMap_cons, appendUtf8_spelled lead small accepted,
              ← remaining_eq]
            refine ⟨rfl, ?_⟩
            intro cp member
            rcases List.mem_cons.mp member with here | later
            · rw [here]
              exact isValidChar_of_accepted accepted
            · exact valid cp later
  · rintro ⟨rfl, valid⟩
    induction points with
    | nil =>
        exact decodeUtf8_nil
    | cons cp others ih =>
        rw [List.flatMap_cons]
        exact decodeUtf8_appendUtf8 (valid cp List.mem_cons_self)
          (ih fun other member => valid other (List.mem_cons_of_mem cp member))

theorem isUtf8_iff {value : Bytes} :
    IsUtf8 value ↔ ∃ points : List Nat, value = points.flatMap appendUtf8 ∧
      ∀ cp ∈ points, cp.isValidChar := by
  constructor
  · rintro ⟨characters, rfl⟩
    refine ⟨characters.map Char.toNat, ?_, ?_⟩
    · rw [List.flatMap_map]
      exact congrArg (characters.flatMap ·) (funext utf8EncodeChar_eq)
    · intro cp member
      obtain ⟨character, _, rfl⟩ := List.mem_map.mp member
      exact character.valid
  · rintro ⟨points, rfl, valid⟩
    induction points with
    | nil =>
        exact ⟨[], rfl⟩
    | cons cp others ih =>
        obtain ⟨characters, behind⟩ :=
          ih fun other member => valid other (List.mem_cons_of_mem cp member)
        refine ⟨Char.ofNatAux cp (valid cp List.mem_cons_self) :: characters, ?_⟩
        rw [List.flatMap_cons, List.flatMap_cons, utf8EncodeChar_eq, behind]
        rfl

theorem wellFormedUtf8_iff {value : Bytes} : WellFormedUtf8 value ↔ IsUtf8 value := by
  rw [isUtf8_iff]
  exact exists_congr fun points => decodeUtf8_eq_ok

end NativeDNS
