/-
Conversions between texts and wide strings.

The width of a wide character is chosen when the source is compiled, so that
`widen` and `narrow` are two functions each: with 16-bit units, which hold a
code point above 0xFFFF in two surrogates, and with 32-bit units, which hold one
code point each.
-/
import NativeDNS.Library.Lists
import NativeDNS.Unicode.Scalars

namespace NativeDNS

open CheckedResult

/-! ### The two widths -/

def wideUnits16 (cp : Nat) : List UInt16 :=
  if cp ≤ 0xFFFF then [UInt16.ofNat cp]
  else
    [UInt16.ofNat (0xD800 + (cp - 0x10000) >>> 10),
      UInt16.ofNat (0xDC00 + ((cp - 0x10000) &&& 0x3FF))]

def widen16 (value : Bytes) : Checked (List UInt16) := do
  let cps ← widenPoints value
  pure (cps.flatMap wideUnits16)

def widen32 (value : Bytes) : Checked (List UInt32) := do
  let cps ← widenPoints value
  pure (cps.map UInt32.ofNat)

/-- The loop of `narrow` with 16-bit units. -/
def narrowUnits16 : List UInt16 → Checked Bytes
  | [] => pure []
  | unit :: rest =>
      if 0xD800 ≤ unit ∧ unit ≤ 0xDBFF then
        match rest with
        | [] => throw (.of "UTF8" "Invalid UTF-16")
        | lo :: rest => do
            rejectIf (lo < 0xDC00 ∨ lo > 0xDFFF) (.of "UTF8" "Invalid UTF-16")
            let others ← narrowUnits16 rest
            pure (appendUtf8 (0x10000 + (unit.toNat - 0xD800) <<< 10 +
              (lo.toNat - 0xDC00)) ++ others)
      else if 0xDC00 ≤ unit ∧ unit ≤ 0xDFFF then
        throw (.of "UTF8" "Invalid UTF-16")
      else do
        let others ← narrowUnits16 rest
        pure (appendUtf8 unit.toNat ++ others)

def narrow16 (value : List UInt16) : Checked Bytes := do
  rejectIf (value.length > textLimit) (.of "INPUT_LIMIT" "Text exceeds limit")
  narrowUnits16 value

/-- With 32-bit units every unit is taken for a code point. -/
def narrow32 (value : List UInt32) : Checked Bytes := do
  rejectIf (value.length > textLimit) (.of "INPUT_LIMIT" "Text exceeds limit")
  pure (value.flatMap fun unit => appendUtf8 unit.toNat)

/-! ### What is accepted -/

theorem widenPoints_eq_ok {value : Bytes} {points : List Nat}
    (short : value.length ≤ textLimit) :
    widenPoints value = .ok points ↔ decodeUtf8 value = .ok points := by
  unfold widenPoints
  rw [rejectIf_of_not (Nat.not_lt.mpr short), ok_bind]

theorem widen_accepts {value : Bytes} (short : value.length ≤ textLimit) :
    ((∃ wide, widen16 value = .ok wide) ↔ IsUtf8 value) ∧
      ((∃ wide, widen32 value = .ok wide) ↔ IsUtf8 value) := by
  have points : (∃ cps, widenPoints value = .ok cps) ↔ IsUtf8 value := by
    rw [← wellFormedUtf8_iff]
    exact exists_congr fun cps => widenPoints_eq_ok short
  rw [← points]
  unfold widen16 widen32
  simp only [bind_eq_ok, pure_eq_ok, Except.ok.injEq]
  constructor
  · exact ⟨fun ⟨_, cps, read, _⟩ => ⟨cps, read⟩, fun ⟨cps, read⟩ => ⟨_, cps, read, rfl⟩⟩
  · exact ⟨fun ⟨_, cps, read, _⟩ => ⟨cps, read⟩, fun ⟨cps, read⟩ => ⟨_, cps, read, rfl⟩⟩

/-! ### Back from wide strings -/

section Units

variable {unit lo : UInt16} {rest : List UInt16}

/-- A unit of the first half of a surrogate pair, or of the second. -/
def HighSurrogate (unit : UInt16) : Prop :=
  0xD800 ≤ unit ∧ unit ≤ 0xDBFF

def LowSurrogate (unit : UInt16) : Prop :=
  0xDC00 ≤ unit ∧ unit ≤ 0xDFFF

theorem highSurrogate_iff :
    HighSurrogate unit ↔ 0xD800 ≤ unit.toNat ∧ unit.toNat ≤ 0xDBFF := by
  unfold HighSurrogate
  rw [UInt16.le_iff_toNat_le, UInt16.le_iff_toNat_le]
  exact Iff.rfl

theorem lowSurrogate_iff :
    LowSurrogate unit ↔ 0xDC00 ≤ unit.toNat ∧ unit.toNat ≤ 0xDFFF := by
  unfold LowSurrogate
  rw [UInt16.le_iff_toNat_le, UInt16.le_iff_toNat_le]
  exact Iff.rfl

theorem not_lowSurrogate_iff :
    ¬ LowSurrogate unit ↔ unit < 0xDC00 ∨ unit > 0xDFFF := by
  unfold LowSurrogate
  rw [not_and_or, UInt16.not_le, UInt16.not_le]

def pairPoint (unit lo : UInt16) : Nat :=
  0x10000 + (unit.toNat - 0xD800) <<< 10 + (lo.toNat - 0xDC00)

theorem narrowUnits16_single (notHigh : ¬ HighSurrogate unit)
    (notLow : ¬ LowSurrogate unit) :
    narrowUnits16 (unit :: rest) =
      (narrowUnits16 rest >>= fun others =>
        pure (appendUtf8 unit.toNat ++ others)) := by
  rw [narrowUnits16.eq_def]
  exact (if_neg notHigh).trans (if_neg notLow)

theorem narrowUnits16_pair (high : HighSurrogate unit) (low : LowSurrogate lo) :
    narrowUnits16 (unit :: lo :: rest) =
      (narrowUnits16 rest >>= fun others =>
        pure (appendUtf8 (pairPoint unit lo) ++ others)) := by
  have fine : ¬ (lo < 0xDC00 ∨ lo > 0xDFFF) := fun wrong =>
    not_lowSurrogate_iff.mpr wrong low
  rw [narrowUnits16.eq_def]
  refine (if_pos high).trans ?_
  dsimp only
  rw [rejectIf_of_not fine, ok_bind]
  rfl

theorem narrowUnits16_cases {result : Bytes}
    (run : narrowUnits16 (unit :: rest) = .ok result) :
    (∃ others, ¬ HighSurrogate unit ∧ ¬ LowSurrogate unit ∧
        narrowUnits16 rest = .ok others ∧
        result = appendUtf8 unit.toNat ++ others) ∨
      ∃ lo behind others, rest = lo :: behind ∧ HighSurrogate unit ∧
        LowSurrogate lo ∧ narrowUnits16 behind = .ok others ∧
        result = appendUtf8 (pairPoint unit lo) ++ others := by
  by_cases high : HighSurrogate unit
  · rw [narrowUnits16.eq_def] at run
    have paired := (if_pos high).symm.trans run
    cases rest with
    | nil =>
        cases paired
    | cons lo behind =>
        simp only [bind_eq_ok, rejectIf_eq_ok, pure_eq_ok, Except.ok.injEq] at paired
        obtain ⟨_, fine, others, narrowed, whole⟩ := paired
        have low : LowSurrogate lo := by
          by_contra other
          exact fine (not_lowSurrogate_iff.mp other)
        exact .inr ⟨lo, behind, others, rfl, high, low, narrowed, whole.symm⟩
  · by_cases low : LowSurrogate unit
    · rw [narrowUnits16.eq_def] at run
      have refused := ((if_neg high).trans (if_pos low)).symm.trans run
      cases refused
    · rw [narrowUnits16_single high low] at run
      obtain ⟨others, narrowed, whole⟩ := bind_eq_ok.mp run
      cases whole
      exact .inl ⟨others, high, low, narrowed, rfl⟩

end Units

theorem narrowUnits16_wideUnits16 {cp : Nat} (valid : cp.isValidChar)
    {rest : List UInt16} {others : Bytes}
    (behind : narrowUnits16 rest = .ok others) :
    narrowUnits16 (wideUnits16 cp ++ rest) = .ok (appendUtf8 cp ++ others) := by
  unfold wideUnits16
  by_cases single : cp ≤ 0xFFFF
  · have value : (UInt16.ofNat cp).toNat = cp := by
      rw [UInt16.toNat_ofNat']
      omega
    have notHigh : ¬ HighSurrogate (UInt16.ofNat cp) := by
      rw [highSurrogate_iff, value]
      omega
    have notLow : ¬ LowSurrogate (UInt16.ofNat cp) := by
      rw [lowSurrogate_iff, value]
      omega
    rw [if_pos single, List.singleton_append, narrowUnits16_single notHigh notLow,
      behind, ok_bind, value]
    rfl
  · have split : (cp - 0x10000) >>> 10 = (cp - 0x10000) / 1024 :=
      Nat.shiftRight_eq_div_pow _ 10
    have masked : (cp - 0x10000) &&& 0x3FF = (cp - 0x10000) % 1024 :=
      Nat.and_two_pow_sub_one_eq_mod _ 10
    have highValue : (UInt16.ofNat (0xD800 + (cp - 0x10000) / 1024)).toNat =
        0xD800 + (cp - 0x10000) / 1024 := by
      rw [UInt16.toNat_ofNat']
      omega
    have lowValue : (UInt16.ofNat (0xDC00 + (cp - 0x10000) % 1024)).toNat =
        0xDC00 + (cp - 0x10000) % 1024 := by
      rw [UInt16.toNat_ofNat']
      omega
    have high : HighSurrogate (UInt16.ofNat (0xD800 + (cp - 0x10000) / 1024)) := by
      rw [highSurrogate_iff, highValue]
      omega
    have low : LowSurrogate (UInt16.ofNat (0xDC00 + (cp - 0x10000) % 1024)) := by
      rw [lowSurrogate_iff, lowValue]
      omega
    have whole : pairPoint (UInt16.ofNat (0xD800 + (cp - 0x10000) / 1024))
        (UInt16.ofNat (0xDC00 + (cp - 0x10000) % 1024)) = cp := by
      unfold pairPoint
      rw [highValue, lowValue, Nat.shiftLeft_eq]
      omega
    rw [if_neg single, split, masked, List.cons_append, List.singleton_append,
      narrowUnits16_pair high low, behind, ok_bind, whole]
    rfl

theorem units_le_bytes (cp : Nat) :
    (wideUnits16 cp).length ≤ (appendUtf8 cp).length ∧
      1 ≤ (appendUtf8 cp).length := by
  unfold wideUnits16 appendUtf8
  split_ifs with single one two
  · exact ⟨Nat.le_refl 1, Nat.le_refl 1⟩
  all_goals
    simp only [List.length_cons, List.length_nil]
    omega

theorem narrow_widen {value : Bytes} (short : value.length ≤ textLimit) :
    (∀ wide, widen16 value = .ok wide → narrow16 wide = .ok value) ∧
      (∀ wide, widen32 value = .ok wide → narrow32 wide = .ok value) := by
  unfold widen16 widen32
  simp only [bind_eq_ok, pure_eq_ok, Except.ok.injEq, widenPoints_eq_ok short]
  constructor
  · rintro wide ⟨cps, read, rfl⟩
    obtain ⟨rfl, valid⟩ := decodeUtf8_eq_ok.mp read
    have fits : (cps.flatMap wideUnits16).length ≤ textLimit :=
      (Lists.length_flatMap_le (fun cp => (units_le_bytes cp).1) cps).trans short
    unfold narrow16
    rw [rejectIf_of_not (Nat.not_lt.mpr fits), ok_bind]
    clear read short fits
    induction cps with
    | nil =>
        rfl
    | cons cp others ih =>
        rw [List.flatMap_cons, List.flatMap_cons]
        exact narrowUnits16_wideUnits16 (valid cp List.mem_cons_self)
          (ih fun other member => valid other (List.mem_cons_of_mem cp member))
  · rintro wide ⟨cps, read, rfl⟩
    obtain ⟨rfl, valid⟩ := decodeUtf8_eq_ok.mp read
    have one : ∀ cp : Nat, [cp].length ≤ (appendUtf8 cp).length := fun cp =>
      (units_le_bytes cp).2
    have single : (cps.flatMap fun cp => [cp]).length ≤ textLimit :=
      (Lists.length_flatMap_le one cps).trans short
    rw [List.flatMap_singleton'] at single
    have fits : (cps.map UInt32.ofNat).length ≤ textLimit := by
      rwa [List.length_map]
    unfold narrow32
    rw [rejectIf_of_not (Nat.not_lt.mpr fits), ok_bind, List.flatMap_map, pure_eq_ok,
      Except.ok.injEq]
    refine List.flatMap_congr ?_
    intro cp member
    have bound : cp < 2 ^ 32 := by
      have known := valid cp member
      omega
    rw [UInt32.toNat_ofNat', Nat.mod_eq_of_lt bound]

/-! ### What is narrowed -/

theorem pairPoint_valid {unit lo : UInt16} (high : HighSurrogate unit)
    (low : LowSurrogate lo) : (pairPoint unit lo).isValidChar := by
  rw [highSurrogate_iff] at high
  rw [lowSurrogate_iff] at low
  unfold pairPoint
  rw [Nat.shiftLeft_eq]
  right
  omega

theorem IsUtf8.append {cp : Nat} (valid : cp.isValidChar) {others : Bytes}
    (behind : IsUtf8 others) : IsUtf8 (appendUtf8 cp ++ others) := by
  rw [isUtf8_iff] at behind ⊢
  obtain ⟨points, rfl, allValid⟩ := behind
  refine ⟨cp :: points, rfl, ?_⟩
  intro other member
  rcases List.mem_cons.mp member with here | later
  · rw [here]
    exact valid
  · exact allValid other later

theorem narrowUnits16_isUtf8 {value : List UInt16} {result : Bytes}
    (run : narrowUnits16 value = .ok result) : IsUtf8 result := by
  induction length : value.length using Nat.strongRecOn generalizing value result with
  | _ size ih =>
      cases value with
      | nil =>
          cases run
          exact ⟨[], rfl⟩
      | cons unit rest =>
          rcases narrowUnits16_cases run with
            ⟨others, notHigh, notLow, narrowed, whole⟩ |
            ⟨lo, behind, others, paired, high, low, narrowed, whole⟩
          · rw [whole]
            have shorter : rest.length < size := by
              rw [← length, List.length_cons]
              omega
            have valid : unit.toNat.isValidChar := by
              rw [highSurrogate_iff] at notHigh
              rw [lowSurrogate_iff] at notLow
              have bound := unit.toNat_lt
              omega
            exact (ih rest.length shorter narrowed rfl).append valid
          · rw [whole]
            have shorter : behind.length < size := by
              rw [← length, paired, List.length_cons, List.length_cons]
              omega
            exact (ih behind.length shorter narrowed rfl).append
              (pairPoint_valid high low)

theorem narrow16_isUtf8 {value : List UInt16} {result : Bytes}
    (run : narrow16 value = .ok result) : IsUtf8 result := by
  obtain ⟨_, _, narrowed⟩ := bind_eq_ok.mp run
  exact narrowUnits16_isUtf8 narrowed

/-- The 32-bit units that the encoder writes as a character: below 0x10000 all but
surrogates, and above those whose low 22 bits are in range, since the lead byte
keeps no more of them. -/
def EncodesCharacter (unit : Nat) : Prop :=
  (unit ≤ 0xFFFF ∧ ¬ (0xD800 ≤ unit ∧ unit ≤ 0xDFFF)) ∨
    (0xFFFF < unit ∧ 0x10000 ≤ unit % 4194304 ∧ unit % 4194304 ≤ 0x10FFFF)

theorem encodesCharacter_iff {unit : Nat} (small : unit < 0x110000) :
    EncodesCharacter unit ↔ unit.isValidChar := by
  unfold EncodesCharacter Nat.isValidChar
  omega

theorem EncodesCharacter.appendUtf8 {unit : Nat} (encodes : EncodesCharacter unit) :
    (unit % 4194304).isValidChar ∧
      NativeDNS.appendUtf8 unit = NativeDNS.appendUtf8 (unit % 4194304) := by
  rcases encodes with ⟨small, notSurrogate⟩ | ⟨large, above, below⟩
  · have same : unit % 4194304 = unit := by omega
    rw [same]
    exact ⟨by unfold Nat.isValidChar; omega, rfl⟩
  · refine ⟨.inr ⟨by omega, by omega⟩, ?_⟩
    rw [appendUtf8_four large, appendUtf8_four (Nat.lt_of_succ_le above)]
    have lead : unit % 4194304 / 262144 % 16 = unit / 262144 % 16 := by omega
    have upper : unit % 4194304 / 4096 % 64 = unit / 4096 % 64 := by omega
    have middle : unit % 4194304 / 64 % 64 = unit / 64 % 64 := by omega
    have last : unit % 4194304 % 64 = unit % 64 := by omega
    rw [lead, upper, middle, last]

theorem encodesCharacter_of_accepted {unit : Nat} {rest : Bytes} {points : List Nat}
    (run : decodeUtf8 (appendUtf8 unit ++ rest) = .ok points) :
    EncodesCharacter unit ∧ ∃ others, decodeUtf8 rest = .ok others := by
  by_cases valid : unit.isValidChar
  · let spelling := spellingOf valid
    rw [spelling.bytesEq, List.cons_append] at run
    obtain ⟨_, others, behind, _⟩ :=
      (decodeUtf8_character spelling.leads rfl spelling.small).mp run
    have small : unit < 0x110000 := by omega
    exact ⟨(encodesCharacter_iff small).mpr valid, others, behind⟩
  · by_cases three : unit ≤ 0xFFFF
    · -- A surrogate is spelled by three bytes, and refused.
      have large : 0x7FF < unit := by omega
      have value : spelled (unit / 4096) [unit / 64 % 64, unit % 64] = unit := by
        change (unit / 4096 * 64 + unit / 64 % 64) * 64 + unit % 64 = unit
        omega
      rw [appendUtf8_three large three, List.cons_append] at run
      obtain ⟨accepted, _⟩ := (decodeUtf8_character (.three (by omega)) rfl
        (by simp; omega)).mp run
      rw [value] at accepted
      exact absurd (isValidChar_of_accepted accepted) valid
    · have large : 0xFFFF < unit := Nat.not_le.mp three
      rw [appendUtf8_four large, List.cons_append] at run
      by_cases fits : unit / 262144 % 16 < 8
      · have value : spelled (unit / 262144 % 16)
            [unit / 4096 % 64, unit / 64 % 64, unit % 64] = unit % 4194304 := by
          change ((unit / 262144 % 16 * 64 + unit / 4096 % 64) * 64 +
            unit / 64 % 64) * 64 + unit % 64 = unit % 4194304
          omega
        obtain ⟨accepted, others, behind, _⟩ :=
          (decodeUtf8_character (.four fits) rfl (by simp; omega)).mp run
        rw [value] at accepted
        have above : 0x10000 ≤ unit % 4194304 := by
          by_contra short
          exact accepted (.inr (.inl ⟨rfl, Nat.not_le.mp short⟩))
        have below : unit % 4194304 ≤ 0x10FFFF := by
          by_contra long
          exact accepted (.inr (.inr (.inl (Nat.not_le.mp long))))
        exact ⟨.inr ⟨large, above, below⟩, others, behind⟩
      · obtain ⟨error, refused⟩ := utf8Lead_refused (Nat.not_lt.mp fits)
          (Nat.mod_lt _ (by decide))
        obtain ⟨_, _, _, _, lead, _⟩ := decodeUtf8_cons_eq_ok.mp run
        rw [refused] at lead
        cases lead

/-- Units of 32 bits are written as a well-formed text exactly when each of them is
written as a character. -/
theorem isUtf8_flatMap_iff {units : List Nat} :
    IsUtf8 (units.flatMap appendUtf8) ↔ ∀ unit ∈ units, EncodesCharacter unit := by
  induction units with
  | nil =>
      exact ⟨fun _ _ member => absurd member List.not_mem_nil, fun _ => ⟨[], rfl⟩⟩
  | cons unit rest ih =>
      rw [List.flatMap_cons, List.forall_mem_cons]
      constructor
      · intro utf8
        obtain ⟨points, run⟩ := wellFormedUtf8_iff.mpr utf8
        obtain ⟨encodes, others, behind⟩ := encodesCharacter_of_accepted run
        exact ⟨encodes, ih.mp (wellFormedUtf8_iff.mp ⟨others, behind⟩)⟩
      · rintro ⟨encodes, others⟩
        obtain ⟨valid, same⟩ := encodes.appendUtf8
        rw [same]
        exact (ih.mpr others).append valid

/-! ### Exact conversion -/

/-- Widening accepts exactly the well-formed texts, narrowing takes it back, and
what is narrowed is well formed. -/
structure ExactConversion (text : Bytes) (wide16 : List UInt16)
    (wide32 : List UInt32) : Prop where
  accepts16 : text.length ≤ textLimit →
    ((∃ wide, widen16 text = .ok wide) ↔ IsUtf8 text)
  accepts32 : text.length ≤ textLimit →
    ((∃ wide, widen32 text = .ok wide) ↔ IsUtf8 text)
  back16 : text.length ≤ textLimit →
    ∀ wide, widen16 text = .ok wide → narrow16 wide = .ok text
  back32 : text.length ≤ textLimit →
    ∀ wide, widen32 text = .ok wide → narrow32 wide = .ok text
  narrowed16 : ∀ result, narrow16 wide16 = .ok result → IsUtf8 result
  narrowed32 : ∀ result, narrow32 wide32 = .ok result → IsUtf8 result

/-- Everything but what 32-bit units are narrowed to holds of every input; that
holds when each unit is written as a character, or the wide string is too long. -/
theorem exactConversion_iff (text : Bytes) (wide16 : List UInt16)
    (wide32 : List UInt32) :
    ExactConversion text wide16 wide32 ↔
      textLimit < wide32.length ∨
        ∀ unit ∈ wide32, EncodesCharacter unit.toNat := by
  have units : (wide32.flatMap fun unit => appendUtf8 unit.toNat) =
      (wide32.map UInt32.toNat).flatMap appendUtf8 := by
    rw [List.flatMap_map]
  have characters : IsUtf8 (wide32.flatMap fun unit => appendUtf8 unit.toNat) ↔
      ∀ unit ∈ wide32, EncodesCharacter unit.toNat := by
    rw [units, isUtf8_flatMap_iff, List.forall_mem_map]
  constructor
  · intro conversion
    by_cases long : textLimit < wide32.length
    · exact .inl long
    · refine .inr (characters.mp (conversion.narrowed32 _ ?_))
      unfold narrow32
      rw [rejectIf_of_not long]
      rfl
  · intro condition
    exact
      { accepts16 := fun short => (widen_accepts short).1
        accepts32 := fun short => (widen_accepts short).2
        back16 := fun short => (narrow_widen short).1
        back32 := fun short => (narrow_widen short).2
        narrowed16 := fun result run => narrow16_isUtf8 run
        narrowed32 := by
          intro result run
          obtain ⟨_, fits, whole⟩ := bind_eq_ok.mp run
          cases whole
          rcases condition with long | encodes
          · exact absurd long (rejectIf_eq_ok.mp fits)
          · exact characters.mpr encodes }

/-- A lone surrogate of 32 bits is written as three bytes that are no UTF-8. -/
theorem exactConversion_surrogate :
    narrow32 [0xD800] = .ok [0xED, 0xA0, 0x80] ∧
      ¬ ExactConversion [] [] [0xD800] := by
  have written : narrow32 [0xD800] = .ok [0xED, 0xA0, 0x80] := by
    decide +kernel
  have malformed : ¬ WellFormedUtf8 [0xED, 0xA0, 0x80] := by
    decide +kernel
  refine ⟨written, ?_⟩
  intro conversion
  exact malformed (wellFormedUtf8_iff.mpr (conversion.narrowed32 _ written))

end NativeDNS
