/-
The UTF-8 decoder and encoder behind every text conversion of the core.

The decoder reads one character at a time: a lead byte, the continuation bytes
it announces, and a check of the code point they spell.  A text is well formed
when the decoder accepts it.  Well-formedness is local: it composes over
concatenation, and an ASCII byte cuts a text into independent halves.
-/
import NativeDNS.Model

namespace NativeDNS

open CheckedResult

/-! ### Decoding and encoding -/

/-- The value bits of a lead byte and the number of continuation bytes it
announces. -/
def utf8Lead (c : UInt8) : Checked (Nat × Nat) :=
  if c < 0x80 then pure (c.toNat, 0)
  else if c &&& 0xE0 = 0xC0 then do
    rejectIf (c &&& 0x1F < 2) (.of "UTF8" "Overlong UTF-8")
    pure ((c &&& 0x1F).toNat, 1)
  else if c &&& 0xF0 = 0xE0 then pure ((c &&& 0x0F).toNat, 2)
  else if c &&& 0xF8 = 0xF0 then pure ((c &&& 0x07).toNat, 3)
  else throw (.of "UTF8" "Invalid UTF-8 leading byte")

def utf8Continue : Nat → Bytes → Checked Nat
  | cp, [] => pure cp
  | cp, b :: rest => do
      rejectIf (b &&& 0xC0 ≠ 0x80)
        (.of "UTF8" "Invalid UTF-8 continuation byte")
      utf8Continue (cp <<< 6 ||| (b &&& 0x3F).toNat) rest

/-- `decode_utf8`: the code points of a text. -/
def decodeUtf8 : Bytes → Checked (List Nat)
  | [] => pure []
  | c :: rest => do
      let (bits, extra) ← utf8Lead c
      rejectIf (rest.length < extra) (.of "UTF8" "Truncated UTF-8")
      let cp ← utf8Continue bits (rest.take extra)
      rejectIf
        ((extra = 2 ∧ cp < 0x800) ∨ (extra = 3 ∧ cp < 0x10000) ∨
          cp > 0x10FFFF ∨ (0xD800 ≤ cp ∧ cp ≤ 0xDFFF))
        (.of "UTF8" "Invalid UTF-8 code point")
      let others ← decodeUtf8 (rest.drop extra)
      pure (cp :: others)
  termination_by bytes => bytes.length

/-- `append_utf8`: the bytes of one code point. -/
def appendUtf8 (cp : Nat) : Bytes :=
  if cp ≤ 0x7F then [UInt8.ofNat cp]
  else if cp ≤ 0x7FF then
    [UInt8.ofNat (0xC0 ||| cp >>> 6), UInt8.ofNat (0x80 ||| cp &&& 0x3F)]
  else if cp ≤ 0xFFFF then
    [UInt8.ofNat (0xE0 ||| cp >>> 12), UInt8.ofNat (0x80 ||| cp >>> 6 &&& 0x3F),
      UInt8.ofNat (0x80 ||| cp &&& 0x3F)]
  else
    [UInt8.ofNat (0xF0 ||| cp >>> 18), UInt8.ofNat (0x80 ||| cp >>> 12 &&& 0x3F),
      UInt8.ofNat (0x80 ||| cp >>> 6 &&& 0x3F), UInt8.ofNat (0x80 ||| cp &&& 0x3F)]

/-- The largest text any conversion or document accepts: 4 MiB. -/
def textLimit : Nat := 4 * 1024 * 1024

/-- The checks of `widen`, with the code points its wide text is made of. -/
def widenPoints (value : Bytes) : Checked (List Nat) := do
  rejectIf (value.length > textLimit) (.of "INPUT_LIMIT" "Text exceeds limit")
  decodeUtf8 value

example : decodeUtf8 [0x41, 0xD0, 0x96, 0xE2, 0x82, 0xAC] =
    .ok [0x41, 0x416, 0x20AC] := by
  decide +kernel

/-! ### Well-formed texts -/

def WellFormedUtf8 (value : Bytes) : Prop :=
  ∃ points, decodeUtf8 value = .ok points

instance : DecidablePred WellFormedUtf8 := fun value =>
  match decoded : decodeUtf8 value with
  | .ok points => isTrue ⟨points, decoded⟩
  | .error _ => isFalse fun ⟨_, other⟩ => nomatch decoded.symm.trans other

@[simp] theorem decodeUtf8_nil : decodeUtf8 [] = .ok [] := by
  rw [decodeUtf8]
  rfl

theorem wellFormedUtf8_nil : WellFormedUtf8 [] :=
  ⟨[], decodeUtf8_nil⟩

theorem decodeUtf8_cons_eq_ok {c : UInt8} {rest : Bytes} {points : List Nat} :
    decodeUtf8 (c :: rest) = .ok points ↔
      ∃ bits extra cp others, utf8Lead c = .ok (bits, extra) ∧
        extra ≤ rest.length ∧
        utf8Continue bits (rest.take extra) = .ok cp ∧
        ¬ ((extra = 2 ∧ cp < 0x800) ∨ (extra = 3 ∧ cp < 0x10000) ∨
          cp > 0x10FFFF ∨ (0xD800 ≤ cp ∧ cp ≤ 0xDFFF)) ∧
        decodeUtf8 (rest.drop extra) = .ok others ∧ points = cp :: others := by
  rw [decodeUtf8]
  simp only [bind_eq_ok, rejectIf_eq_ok, pure_eq_ok, Except.ok.injEq]
  constructor
  · rintro ⟨⟨bits, extra⟩, lead, _, enough, cp, spelled, _, valid, others, tail,
      same⟩
    exact ⟨bits, extra, cp, others, lead, Nat.le_of_not_lt enough, spelled,
      valid, tail, same.symm⟩
  · rintro ⟨bits, extra, cp, others, lead, enough, spelled, valid, tail, same⟩
    exact ⟨(bits, extra), lead, (), Nat.not_lt.mpr enough, cp, spelled, (),
      valid, others, tail, same.symm⟩

theorem decodeUtf8_append {front back : Bytes} {first second : List Nat}
    (frontOk : decodeUtf8 front = .ok first)
    (backOk : decodeUtf8 back = .ok second) :
    decodeUtf8 (front ++ back) = .ok (first ++ second) := by
  induction front using decodeUtf8.induct generalizing first with
  | case1 =>
      cases (decodeUtf8_nil.symm.trans frontOk)
      exact backOk
  | case2 c rest ih =>
      obtain ⟨bits, extra, cp, others, lead, enough, spelled, valid, tail, same⟩ :=
        decodeUtf8_cons_eq_ok.mp frontOk
      have restOk := ih extra tail
      rw [same, List.cons_append, List.cons_append, decodeUtf8_cons_eq_ok]
      refine ⟨bits, extra, cp, others ++ second, lead, ?_, ?_, valid, ?_, rfl⟩
      · rw [List.length_append]
        omega
      · rwa [List.take_append_of_le_length enough]
      · rwa [List.drop_append_of_le_length enough]

theorem WellFormedUtf8.append {front back : Bytes} (frontOk : WellFormedUtf8 front)
    (backOk : WellFormedUtf8 back) : WellFormedUtf8 (front ++ back) := by
  obtain ⟨first, frontRun⟩ := frontOk
  obtain ⟨second, backRun⟩ := backOk
  exact ⟨first ++ second, decodeUtf8_append frontRun backRun⟩

theorem utf8Lead_ascii {c : UInt8} (ascii : c < 0x80) :
    utf8Lead c = .ok (c.toNat, 0) := by
  unfold utf8Lead
  rw [if_pos ascii, pure_eq_ok]

theorem wellFormedUtf8_ascii {c : UInt8} (ascii : c < 0x80) :
    WellFormedUtf8 [c] := by
  refine ⟨[c.toNat], decodeUtf8_cons_eq_ok.mpr ⟨c.toNat, 0, c.toNat, [],
    utf8Lead_ascii ascii, Nat.zero_le _, rfl, ?_, decodeUtf8_nil, rfl⟩⟩
  have below : c.toNat < 128 := by
    simpa [UInt8.lt_iff_toNat_lt] using ascii
  omega

theorem wellFormedUtf8_of_ascii {value : Bytes} (ascii : ∀ c ∈ value, c < 0x80) :
    WellFormedUtf8 value := by
  induction value with
  | nil =>
      exact wellFormedUtf8_nil
  | cons c rest ih =>
      have tail := ih fun other member => ascii other (List.mem_cons_of_mem c member)
      exact (wellFormedUtf8_ascii (ascii c List.mem_cons_self)).append tail

theorem utf8Continue_not_ascii {bits cp : Nat} {bytes : Bytes}
    (spelled : utf8Continue bits bytes = .ok cp) :
    ∀ b ∈ bytes, ¬ b < 0x80 := by
  induction bytes generalizing bits with
  | nil =>
      simp
  | cons b rest ih =>
      simp only [utf8Continue, bind_eq_ok, rejectIf_eq_ok, Decidable.not_not]
        at spelled
      obtain ⟨_, marked, tail⟩ := spelled
      intro other member ascii
      rcases List.mem_cons.mp member with same | later
      · subst same
        have small : (other &&& 0xC0).toNat ≤ other.toNat := by
          rw [UInt8.toNat_and]
          exact Nat.and_le_left
        rw [marked] at small
        have below : other.toNat < 128 := by
          simpa [UInt8.lt_iff_toNat_lt] using ascii
        have mark : (0x80 : UInt8).toNat = 128 := rfl
        omega
      · exact ih tail other later ascii

theorem wellFormedUtf8_append_ascii {front back : Bytes} {c : UInt8}
    (ascii : c < 0x80) :
    WellFormedUtf8 (front ++ c :: back) ↔
      WellFormedUtf8 front ∧ WellFormedUtf8 back := by
  constructor
  · rintro ⟨points, run⟩
    induction front using decodeUtf8.induct generalizing points with
    | case1 =>
        obtain ⟨bits, extra, _, others, lead, _, _, _, tail, _⟩ :=
          decodeUtf8_cons_eq_ok.mp run
        have extraEq : extra = 0 := by
          rw [utf8Lead_ascii ascii] at lead
          cases lead
          rfl
        rw [extraEq, List.drop_zero] at tail
        exact ⟨wellFormedUtf8_nil, others, tail⟩
    | case2 first rest ih =>
        rw [List.cons_append] at run
        obtain ⟨bits, extra, cp, others, lead, _, spelled, valid, tail, _⟩ :=
          decodeUtf8_cons_eq_ok.mp run
        -- The cut lies behind the character, whose bytes are not ASCII.
        have enough : extra ≤ rest.length := by
          by_contra short
          apply utf8Continue_not_ascii spelled c _ ascii
          rw [List.take_append]
          refine List.mem_append_right _ ?_
          obtain ⟨more, moreEq⟩ : ∃ more, extra - rest.length = more + 1 :=
            ⟨extra - rest.length - 1, by omega⟩
          rw [moreEq, List.take_succ_cons]
          exact List.mem_cons_self
        rw [List.take_append_of_le_length enough] at spelled
        rw [List.drop_append_of_le_length enough] at tail
        obtain ⟨⟨frontPoints, frontRun⟩, backOk⟩ := ih extra others tail
        exact ⟨⟨cp :: frontPoints, decodeUtf8_cons_eq_ok.mpr ⟨bits, extra, cp,
          frontPoints, lead, enough, spelled, valid, frontRun, rfl⟩⟩, backOk⟩
  · rintro ⟨frontOk, backOk⟩
    exact frontOk.append ((wellFormedUtf8_ascii ascii).append backOk)

end NativeDNS
