/-
Replies cut to the size of the client are replies in their own right.

The cut falls at the decoded end of the reply's own question.  A name right
after the header is not compressed and at most 255 bytes long, so the end is
below the smallest limit, and decoding the question again reads nothing that
was cut away.
-/
import NativeDNS.Wire.SyntheticAnswer

namespace NativeDNS

open ByteText (text byte)
open CheckedResult

/-! ### The limit of the client -/

theorem clientUdpPayloadSize_bounds {request : Packet} {limit : Nat}
    (announced : clientUdpPayloadSize request = .ok limit) :
    512 ≤ limit ∧ limit ≤ 1232 := by
  simp only [clientUdpPayloadSize, bind_eq_ok, pure_eq_ok,
    Except.ok.injEq] at announced
  obtain ⟨question, _, _, _, edns, walked, limitEq⟩ := announced
  have form := ednsRequest_form walked
  rw [← limitEq]
  cases edns.present with
  | false =>
      exact ⟨Nat.le_refl 512, (by decide : 512 ≤ 1232)⟩
  | true =>
      exact ⟨form.large, form.small⟩

/-! ### The cut reply -/

/-- A reply cut to its header and question: the TC bit is set, the counts are
those of a packet without records, and everything else is kept. -/
structure CutReply (response : Packet) (question : Question)
    (cut : Packet) : Prop where
  lengthEq : cut.length = question.end
  idKept : wordAt cut 0 = wordAt response 0
  flagsEq : wordAt cut 2 = wordAt response 2 ||| 0x0200
  questions : wordAt cut 4 = 1
  answers : wordAt cut 6 = 0
  authority : wordAt cut 8 = 0
  additional : wordAt cut 10 = 0
  questionKept : AgreeOn cut response 12 question.end

private theorem truncationFlag_lt (response : Packet) :
    wordAt response 2 ||| 0x0200 < 65536 :=
  Nat.or_lt_two_pow (n := 16) (wordAt_lt response 2) (by decide)

theorem truncatedReply_cut {response : Packet} {question : Question}
    (parts : QuestionAt response question) :
    CutReply response question (truncatedReply response question.end) := by
  have header := parts.end_ge
  have fits := parts.fits
  have identifier : (slice response 0 2).length = 2 :=
    slice_length (by omega)
  have kept : (slice response 12 (question.end - 12)).length =
      question.end - 12 :=
    slice_length (by omega)
  have fields : ∀ offset,
      wordAt (truncatedReply response question.end) (offset + 2) =
        wordAt (wordBytes (wordAt response 2 ||| 0x0200) ++
          ([0, 1, 0, 0, 0, 0, 0, 0] ++
            slice response 12 (question.end - 12))) offset := by
    intro offset
    unfold truncatedReply
    simp only [List.append_assoc]
    rw [wordAt_append_right (by omega), identifier, Nat.add_sub_cancel]
  have counts : ∀ offset ≤ 6,
      wordAt (truncatedReply response question.end) (offset + 4) =
        wordAt [0, 1, 0, 0, 0, 0, 0, 0] offset := by
    intro offset inside
    rw [fields (offset + 2), wordAt_wordBytes_add,
      wordAt_append_left (Nat.add_le_add_right inside 2)]
  refine
    { lengthEq := ?_
      idKept := ?_
      flagsEq := ?_
      questions := (counts 0 (by decide)).trans rfl
      answers := (counts 2 (by decide)).trans rfl
      authority := (counts 4 (by decide)).trans rfl
      additional := (counts 6 (by decide)).trans rfl
      questionKept := ?_ }
  · simp only [truncatedReply, wordBytes, List.length_append, identifier, kept,
      List.length_cons, List.length_nil]
    omega
  · unfold truncatedReply
    simp only [List.append_assoc]
    rw [wordAt_append_left (by omega)]
    refine wordAt_congr_self fun offset _ inside => ?_
    rw [byteAt_slice (by omega) (by omega), Nat.zero_add]
  · rw [fields 0, wordAt_wordBytes (truncationFlag_lt response)]
  · intro offset lower upper
    have front : (slice response 0 2 ++
        wordBytes (wordAt response 2 ||| 0x0200) ++
          [0, 1, 0, 0, 0, 0, 0, 0]).length = 12 := by
      simp only [wordBytes, List.length_append, identifier, List.length_cons,
        List.length_nil]
    unfold truncatedReply
    dsimp only
    rw [byteAt_append_right (by omega), front,
      byteAt_slice (by omega) (by omega), Nat.add_sub_cancel' lower]

section Cut

variable {response cut : Packet} {question : Question}

private theorem CutReply.flags_and (reply : CutReply response question cut)
    {mask : Nat} (other : 0x0200 &&& mask = 0) :
    wordAt cut 2 &&& mask = wordAt response 2 &&& mask := by
  rw [reply.flagsEq, Nat.and_or_distrib_right, other, Nat.or_zero]

theorem CutReply.questionAt (parts : QuestionAt response question)
    (reply : CutReply response question cut) :
    QuestionAt cut
      { question with
        flags := question.flags ||| 0x0200 } := by
  have bounded := parts.end_le
  have whole := reply.lengthEq
  have moved := parts.transfer reply.questionKept (by omega) (by omega)
    reply.questions
    (by rw [reply.flags_and (by decide)]; exact parts.standard)
  rw [reply.idKept, reply.flagsEq, ← parts.idEq, ← parts.flagsEq] at moved
  exact moved

theorem CutReply.parseResponse (parts : QuestionAt response question)
    (reply : CutReply response question cut) {expected : Question}
    (same : AnswersQuestion question expected) (platform : Platform) :
    parseResponse platform cut expected =
      .ok
        { rcode := question.flags &&& 15
          truncated := true
          authenticatedData := decide (question.flags &&& 0x0020 ≠ 0) } := by
  have parsed := parseQuestion_eq_ok.mpr (reply.questionAt parts)
  have keepBit : ∀ mask, 0x0200 &&& mask = 0 →
      (question.flags ||| 0x0200) &&& mask = question.flags &&& mask := by
    intro mask other
    rw [Nat.and_or_distrib_right, other, Nat.or_zero]
  have cutFlag : (question.flags ||| 0x0200) &&& 0x0200 ≠ 0 := by
    rw [Nat.and_or_distrib_right, Nat.and_self]
    intro none
    exact absurd (Nat.or_eq_zero_iff.mp none).2 (by decide)
  have answers : AnswersQuestion
      { question with
        flags := question.flags ||| 0x0200 } expected := by
    refine ⟨?_, same.2⟩
    rw [keepBit 0x8000 (by decide)]
    exact same.1
  unfold NativeDNS.parseResponse
  rw [parsed, ok_bind, rejectIf_of_not (not_not.mpr answers), ok_bind]
  simp only
  rw [if_pos cutFlag, pure_eq_ok, keepBit 15 (by decide),
    keepBit 0x0020 (by decide)]

end Cut

/-! ### Fitting -/

/-- A fitted reply keeps to the limit of the client.  It is the reply itself,
or the reply was larger and answers the request, and what is left of it is a
reply to the request that every parser sees as truncated. -/
theorem fitUdpResponse_fits {request response fitted : Packet}
    (fits : fitUdpResponse request response = .ok fitted) :
    ∃ limit, clientUdpPayloadSize request = .ok limit ∧
      512 ≤ limit ∧ limit ≤ 1232 ∧ fitted.length ≤ limit ∧
      (fitted = response ∨
        limit < response.length ∧
          ∃ expected actual, parseQuestion request = .ok expected ∧
            parseQuestion response = .ok actual ∧
            AnswersQuestion actual expected ∧
            CutReply response actual fitted ∧
            parseQuestion fitted =
              .ok { actual with flags := actual.flags ||| 0x0200 } ∧
            ∀ platform, parseResponse platform fitted expected =
              .ok
                { rcode := actual.flags &&& 15
                  truncated := true
                  authenticatedData :=
                    decide (actual.flags &&& 0x0020 ≠ 0) }) := by
  simp only [fitUdpResponse, bind_eq_ok] at fits
  obtain ⟨limit, announced, rest⟩ := fits
  obtain ⟨large, small⟩ := clientUdpPayloadSize_bounds announced
  refine ⟨limit, announced, large, small, ?_⟩
  by_cases short : response.length ≤ limit
  · rw [if_pos short] at rest
    cases rest
    exact ⟨short, .inl rfl⟩
  · rw [if_neg short] at rest
    simp only [bind_eq_ok, rejectIf_eq_ok, not_not, pure_eq_ok,
      Except.ok.injEq] at rest
    obtain ⟨expected, asked, actual, answered, _, same, cutEq⟩ := rest
    have parts := parseQuestion_eq_ok.mp answered
    have reply : CutReply response actual fitted := by
      rw [← cutEq]
      exact truncatedReply_cut parts
    have bounded := parts.end_le
    refine ⟨?_, .inr ⟨Nat.lt_of_not_le short, expected, actual, asked, answered,
      same, reply, parseQuestion_eq_ok.mpr (reply.questionAt parts),
      reply.parseResponse parts same⟩⟩
    rw [reply.lengthEq]
    omega

/-- A reply with seventy addresses, larger than the 1024 bytes announced by
`ednsQuery`. -/
def manyAddresses : Packet :=
  [0, 7, 0x85, 0x80, 0, 1, 0, 70, 0, 0, 0, 0, 1, 88, 0, 0, 1, 0, 1] ++
    (List.replicate 70
      [0xc0, 0x0c, 0, 1, 0, 1, 0, 0, 0, 60, 0, 4, 192, 0, 2, 1]).flatten

theorem fitUdpResponse_fits_many :
    ∃ limit, clientUdpPayloadSize ednsQuery = .ok limit ∧
      512 ≤ limit ∧ limit ≤ 1232 ∧
      (truncatedReply manyAddresses 19).length ≤ limit ∧
      (truncatedReply manyAddresses 19 = manyAddresses ∨
        limit < manyAddresses.length ∧
          ∃ expected actual, parseQuestion ednsQuery = .ok expected ∧
            parseQuestion manyAddresses = .ok actual ∧
            AnswersQuestion actual expected ∧
            CutReply manyAddresses actual (truncatedReply manyAddresses 19) ∧
            parseQuestion (truncatedReply manyAddresses 19) =
              .ok { actual with flags := actual.flags ||| 0x0200 } ∧
            ∀ platform,
              parseResponse platform (truncatedReply manyAddresses 19)
                  expected =
                .ok
                  { rcode := actual.flags &&& 15
                    truncated := true
                    authenticatedData :=
                      decide (actual.flags &&& 0x0020 ≠ 0) }) :=
  @fitUdpResponse_fits ednsQuery manyAddresses _ (by decide +kernel)

end NativeDNS
