/-
The question section and the header fields in front of it.
-/
import NativeDNS.Wire.NameText

namespace NativeDNS

open ByteText (text decimal)
open CheckedResult

structure Question where
  id : Nat := 0
  flags : Nat := 0
  type : Nat := 0
  klass : Nat := 0
  name : Bytes := []
  «end» : Nat := 0
  deriving DecidableEq, Repr

def dnsTypeName (type : UInt16) : Bytes :=
  match type.toNat with
  | 1 => text "A"
  | 2 => text "NS"
  | 5 => text "CNAME"
  | 6 => text "SOA"
  | 12 => text "PTR"
  | 15 => text "MX"
  | 16 => text "TXT"
  | 28 => text "AAAA"
  | 33 => text "SRV"
  | 64 => text "SVCB"
  | 65 => text "HTTPS"
  | 255 => text "ANY"
  | number => text "TYPE" ++ decimal number

def parseQuestion (packet : Packet) : Checked Question := do
  rejectIf
    (packet.length < 12 ∨ packet.length > 65535 ∨ wordAt packet 4 ≠ 1)
    (.of "DNS_MALFORMED" "Expected one DNS question and bounded header")
  let id ← word packet 0
  let flags ← word packet 2
  rejectIf (flags &&& 0x7800 ≠ 0)
    (.of "DNS_OPCODE" "Only standard DNS queries are supported")
  let (decoded, next) ← name packet 12
  let type ← word packet next
  let klass ← word packet (next + 2)
  pure
    { id := id
      flags := flags
      type := type
      klass := klass
      name := decoded
      «end» := next + 4 }

/-- Everything a successful question decode establishes. -/
structure QuestionAt (packet : Packet) (question : Question) : Prop where
  header : 12 ≤ packet.length
  bounded : packet.length ≤ 65535
  single : wordAt packet 4 = 1
  idEq : question.id = wordAt packet 0
  flagsEq : question.flags = wordAt packet 2
  standard : wordAt packet 2 &&& 0x7800 = 0
  nameEq : ∃ next, name packet 12 = .ok (question.name, next) ∧
    question.end = next + 4
  typeEq : question.type = wordAt packet (question.end - 4)
  klassEq : question.klass = wordAt packet (question.end - 2)
  fits : question.end ≤ packet.length

theorem parseQuestion_eq_ok {packet : Packet} {question : Question} :
    parseQuestion packet = .ok question ↔ QuestionAt packet question := by
  constructor
  · intro parsed
    simp only [parseQuestion, bind_eq_ok, rejectIf_eq_ok, pure_eq_ok,
      word_eq_ok] at parsed
    obtain ⟨_, bounds, id, ⟨_, idEq⟩, flags, ⟨_, flagsEq⟩, _, standard,
      ⟨decoded, next⟩, decode, type, ⟨_, typeEq⟩, klass, ⟨within, klassEq⟩,
      built⟩ := parsed
    cases built
    refine
      { header := by omega
        bounded := by omega
        single := by omega
        idEq := idEq
        flagsEq := flagsEq
        standard := ?_
        nameEq := ⟨next, decode, rfl⟩
        typeEq := typeEq
        klassEq := ?_
        fits := by simp only; omega }
    · rw [← flagsEq]
      simpa using standard
    · simp only [show next + 4 - 2 = next + 2 by omega]
      exact klassEq
  · intro parts
    obtain ⟨next, decode, endEq⟩ := parts.nameEq
    have header := parts.header
    have fits := parts.fits
    have bounded := parts.bounded
    have single := parts.single
    have typeEq := parts.typeEq
    have klassEq := parts.klassEq
    rw [endEq] at fits typeEq klassEq
    simp only [show next + 4 - 4 = next by omega] at typeEq
    simp only [show next + 4 - 2 = next + 2 by omega] at klassEq
    unfold parseQuestion
    rw [rejectIf_of_not (by omega), ok_bind, word_of_le (by omega), ok_bind,
      word_of_le (by omega), ok_bind,
      rejectIf_of_not (by simpa using parts.standard), ok_bind, decode, ok_bind]
    simp only
    rw [word_of_le (by omega), ok_bind, word_of_le (by omega), ok_bind,
      pure_eq_ok, ← typeEq, ← klassEq, ← parts.idEq, ← parts.flagsEq, ← endEq]

theorem QuestionAt.end_ge {packet : Packet} {question : Question}
    (parts : QuestionAt packet question) : 17 ≤ question.end := by
  obtain ⟨next, decode, endEq⟩ := parts.nameEq
  have after := name_lt_next decode
  omega

theorem parseQuestion_wireName {packet : Packet} {question : Question}
    (parsed : parseQuestion packet = .ok question) :
    WireName question.name := by
  obtain ⟨next, decode, _⟩ := (parseQuestion_eq_ok.mp parsed).nameEq
  exact name_wireName decode

/-- A packet that agrees with another one from byte twelve to the end of its
question, and has a legal header of its own, asks the same question. -/
theorem QuestionAt.transfer {packet other : Packet} {question : Question}
    (parts : QuestionAt packet question)
    (agree : AgreeOn other packet 12 question.end)
    (fits : question.end ≤ other.length) (bounded : other.length ≤ 65535)
    (single : wordAt other 4 = 1)
    (standard : wordAt other 2 &&& 0x7800 = 0) :
    QuestionAt other
      { question with
        id := wordAt other 0
        flags := wordAt other 2 } := by
  obtain ⟨next, decode, endEq⟩ := parts.nameEq
  have after := name_lt_next decode
  have header := parts.end_ge
  refine
    { header := by omega
      bounded := bounded
      single := single
      idEq := rfl
      flagsEq := rfl
      standard := standard
      nameEq := ⟨next, ?_, endEq⟩
      typeEq := ?_
      klassEq := ?_
      fits := fits }
  · exact name_congr decode (Nat.le_refl 12)
      (agree.mono (Nat.le_refl 12) (by omega)) (by omega)
  · rw [parts.typeEq]
    exact (wordAt_congr agree (by omega) (by omega)).symm
  · rw [parts.klassEq]
    exact (wordAt_congr agree (by omega) (by omega)).symm

/-! ### Questions on their own -/

theorem agreeOn_of_take {packet other : Packet} {last : Nat}
    (same : other.take last = packet.take last) : AgreeOn other packet 0 last := by
  intro offset _ below
  have read := congrArg (fun bytes => byteAt bytes offset) same
  simpa [byteAt, List.getElem?_take_of_lt below] using read

/-- The name of an accepted question is a run of plain labels.  The question ends
behind its name and is read alike from every packet that begins like this one. -/
theorem parseQuestion_selfContained {packet : Packet} {question : Question}
    (parsed : parseQuestion packet = .ok question) :
    (∃ labels, LabelRun packet 12 labels (question.end - 4) ∧
      question.name = labels.foldl appendLabel []) ∧
    (∀ offset, 12 ≤ offset → offset < question.end - 4 →
      (byteAt packet offset).toNat < 192) ∧
    question.end =
      12 + 4 + (if question.name = [] then 1 else question.name.length + 2) ∧
    question.end ≤ 271 ∧
    ∀ other : Packet, other.length ≤ 65535 →
      other.take question.end = packet.take question.end →
      parseQuestion other = .ok question := by
  have parts := parseQuestion_eq_ok.mp parsed
  obtain ⟨next, decode, endEq⟩ := parts.nameEq
  obtain ⟨labels, run, _, named, short⟩ := name_labelRun decode
  have nameEnd : question.end - 4 = next := by omega
  have exact_next := run.next_eq_text
  rw [← named] at exact_next
  refine ⟨⟨labels, ?_, named⟩, ?_, ?_, ?_, ?_⟩
  · rw [nameEnd]
    exact run
  · rw [nameEnd]
    exact run.unmarked
  · rw [endEq, exact_next]
    omega
  · rw [endEq, exact_next]
    split <;> omega
  · intro other bounded same
    have agree := agreeOn_of_take same
    have lengths := congrArg List.length same
    have inside := parts.fits
    have header := parts.end_ge
    rw [List.length_take, List.length_take] at lengths
    have id := wordAt_congr agree (Nat.zero_le 0) (by omega)
    have flags := wordAt_congr agree (Nat.zero_le 2) (by omega)
    have count := wordAt_congr agree (Nat.zero_le 4) (by omega)
    have moved := parts.transfer (agree.mono (Nat.zero_le 12) (Nat.le_refl _))
      (by omega) bounded (count.trans parts.single)
      (by rw [flags]; exact parts.standard)
    rw [id, flags, ← parts.idEq, ← parts.flagsEq] at moved
    exact parseQuestion_eq_ok.mpr moved

/-- A question for `a.` and the same question with bytes behind it. -/
theorem parseQuestion_selfContained_extended :
    parseQuestion [0, 7, 1, 0, 0, 1, 0, 0, 0, 0, 0, 0, 1, 97, 0, 0, 1, 0, 1, 192, 12] =
      parseQuestion [0, 7, 1, 0, 0, 1, 0, 0, 0, 0, 0, 0, 1, 97, 0, 0, 1, 0, 1] := by
  have parsed : parseQuestion [0, 7, 1, 0, 0, 1, 0, 0, 0, 0, 0, 0, 1, 97, 0, 0, 1, 0, 1] =
      .ok { id := 7, flags := 256, type := 1, klass := 1, name := text "a", «end» := 19 } := by
    decide +kernel
  rw [parsed]
  exact (parseQuestion_selfContained parsed).2.2.2.2 _ (by decide) rfl

end NativeDNS
