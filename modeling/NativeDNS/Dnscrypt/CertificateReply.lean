/-
Reading certificates out of the reply to a certificate query.

The reader has its own walker over names.  It looks at less than the decoder of
names does, but it ends behind every name that can be decoded, so that on a
reply that the response parser accepts it stands at the same records.
-/
import NativeDNS.Library.Lists
import NativeDNS.Wire.Response

namespace NativeDNS

open ByteText (text)
open CheckedResult
open Lists (mapM_eq_ok mapM_eq_error)

/-- The walker over names.  The first argument is what is left of the labels. -/
def skipNameLoop (packet : Packet) : Nat → Nat → Checked Nat
  | 0, _ => .error (malformed "Too many DNS labels")
  | left + 1, position =>
      if position ≥ packet.length then .error (malformed "Truncated DNS name")
      else
        let length := byteAt packet position
        if length &&& 0xc0 = 0xc0 then
          if position + 1 ≥ packet.length then
            .error (malformed "Truncated DNS compression pointer")
          else
            let pointer := pointerTarget packet position
            if pointer < 12 ∨ pointer ≥ position then
              .error (malformed "Invalid DNS compression pointer")
            else .ok (position + 2)
        else if length &&& 0xc0 ≠ 0 then
          .error (malformed "Invalid DNS label encoding")
        else if length = 0 then .ok (position + 1)
        else if length.toNat > 63 ∨ position + 1 + length.toNat > packet.length then
          .error (malformed "Invalid DNS label length")
        else skipNameLoop packet left (position + 1 + length.toNat)

def skipName (packet : Packet) (position : Nat) : Checked Nat :=
  skipNameLoop packet 128 position

def be16 (bytes : Packet) (position : Nat) : Checked Nat := do
  rejectIf (position + 2 > bytes.length) (malformed "Truncated DNS field")
  pure (wordAt bytes position)

def questionStep (response : Packet) (_index position : Nat) : Checked Nat := do
  let position ← skipName response position
  rejectIf (position + 4 > response.length) (malformed "Truncated DNS question")
  pure (position + 4)

/-- The character-strings from one offset to another, put together. -/
def readCertificateText (response : Packet) (last part : Nat)
    (certificate : Packet) : Checked Packet :=
  if part < last then
    let chunk := (byteAt response part).toNat
    if part + 1 + chunk > last then
      .error (malformed "Invalid TXT character-string")
    else
      readCertificateText response last (part + 1 + chunk)
        (certificate ++ slice response (part + 1) chunk)
  else .ok certificate
termination_by last - part
decreasing_by omega

def answerStep (response : Packet) (_index : Nat) :
    Nat × List Packet → Checked (Nat × List Packet)
  | (position, result) => do
      let position ← skipName response position
      rejectIf (position + 10 > response.length) (malformed "Truncated DNS answer")
      let type ← be16 response position
      let klass ← be16 response (position + 2)
      let length ← be16 response (position + 8)
      let data := position + 10
      rejectIf (data + length > response.length) (malformed "Truncated DNS RDATA")
      if type = 16 ∧ klass = 1 then do
        let certificate ← readCertificateText response (data + length) data []
        pure (data + length, result ++ [certificate])
      else pure (data + length, result)

def extractDnscryptCertificates (response : Packet) : Checked (List Packet) := do
  rejectIf (response.length < 12) (malformed "Short DNS certificate response")
  let questions ← be16 response 4
  let answers ← be16 response 6
  let position ← repeatFrom (questionStep response) questions 0 12
  let (_, result) ← repeatFrom (answerStep response) answers 0 (position, [])
  rejectIf (result = [])
    (.of "DNSCRYPT_CERT" "Certificate response contains no TXT certificate")
  pure result

/-! ### The two walkers over names -/

theorem NameWalk.skipNameLoop_eq {packet : Packet} {hops position next : Nat}
    {resume : Option Nat} {result decoded : Bytes}
    (walk : NameWalk packet hops position resume result decoded next) :
    resume = none → ∀ left, hops ≤ left →
      skipNameLoop packet left position = .ok next := by
  induction walk with
  | finish inside zero =>
      intro unresumed left within
      subst unresumed
      obtain ⟨left, rfl⟩ := Nat.exists_eq_succ_of_ne_zero (by omega : left ≠ 0)
      unfold skipNameLoop
      simp only [isPointer_iff, ne_eq, isPlainLength_iff]
      rw [if_neg (by omega), if_neg (by omega), if_neg (by omega),
        if_pos (UInt8.toNat_inj.mp zero)]
      rfl
  | pointer inside marked header earlier rest ih =>
      intro unresumed left within
      have nextEq := rest.next_of_resume rfl
      obtain ⟨left, rfl⟩ := Nat.exists_eq_succ_of_ne_zero (by omega : left ≠ 0)
      unfold skipNameLoop
      simp only [isPointer_iff, ne_eq, isPlainLength_iff]
      rw [if_neg (by omega), if_pos marked, if_neg (by omega), if_neg (by omega),
        nextEq, unresumed]
      rfl
  | label nonempty plain inside characters bounded rest ih =>
      intro unresumed left within
      have nonzero : byteAt packet _ ≠ 0 := fun zero => by
        rw [zero] at nonempty
        exact Nat.lt_irrefl 0 nonempty
      obtain ⟨left, rfl⟩ := Nat.exists_eq_succ_of_ne_zero (by omega : left ≠ 0)
      unfold skipNameLoop
      simp only [isPointer_iff, ne_eq, isPlainLength_iff]
      rw [if_neg (by omega), if_neg (by omega), if_neg (by omega), if_neg nonzero,
        if_neg (by omega)]
      exact ih unresumed left (by omega)

theorem skipName_of_name {packet : Packet} {position next : Nat} {decoded : Bytes}
    (decode : name packet position = .ok (decoded, next)) :
    skipName packet position = .ok next := by
  obtain ⟨hops, within, walk⟩ := name_eq_ok.mp decode
  exact walk.skipNameLoop_eq rfl 128 within

theorem be16_of_le {bytes : Packet} {position : Nat}
    (within : position + 2 ≤ bytes.length) :
    be16 bytes position = .ok (wordAt bytes position) := by
  unfold be16
  rw [rejectIf_of_not (by omega), ok_bind]
  rfl

/-! ### Character-strings -/

inductive CharacterStrings : Bytes → List Bytes → Prop
  | done : CharacterStrings [] []
  | string {part rest : Bytes} {parts : List Bytes} (short : part.length < 256)
      (behind : CharacterStrings rest parts) :
      CharacterStrings (UInt8.ofNat part.length :: (part ++ rest)) (part :: parts)

def Record.bytes (packet : Packet) (record : Record) : Bytes :=
  slice packet record.data record.length

theorem readCertificateText_strings {response : Packet} {last part : Nat}
    {certificate text : Packet} (inside : last ≤ response.length)
    (read : readCertificateText response last part certificate = .ok text) :
    ∃ parts, CharacterStrings (slice response part (last - part)) parts ∧
      text = certificate ++ parts.flatten := by
  fun_induction readCertificateText response last part certificate with
  | case1 part certificate more chunk long =>
      cases read
  | case2 part certificate more chunk fits ih =>
      obtain ⟨parts, strings, textEq⟩ := ih read
      have cut : slice response part (last - part) =
          UInt8.ofNat (slice response (part + 1) chunk).length ::
            (slice response (part + 1) chunk ++
              slice response (part + 1 + chunk) (last - (part + 1 + chunk))) := by
        rw [slice_length (by omega), UInt8.ofNat_toNat, ← slice_add,
          ← slice_cons (by omega)]
        congr 1
        omega
      refine ⟨slice response (part + 1) chunk :: parts, ?_, ?_⟩
      · rw [cut]
        refine .string ?_ strings
        rw [slice_length (by omega)]
        exact UInt8.toNat_lt _
      · rw [textEq, List.flatten_cons, List.append_assoc]
  | case3 part certificate done =>
      cases read
      rw [Nat.sub_eq_zero_of_le (by omega)]
      exact ⟨[], .done, (List.append_nil _).symm⟩

theorem CharacterStrings.read {response : Packet} {data : Bytes}
    {parts : List Bytes} (strings : CharacterStrings data parts) :
    ∀ {last part : Nat} {certificate : Packet}, last ≤ response.length →
      part ≤ last → slice response part (last - part) = data →
        readCertificateText response last part certificate =
          .ok (certificate ++ parts.flatten) := by
  induction strings with
  | done =>
      intro last part certificate inside before none
      have length := slice_length (show part + (last - part) ≤ response.length by omega)
      rw [none] at length
      unfold readCertificateText
      rw [if_neg (by simp only [List.length_nil] at length; omega), List.flatten_nil,
        List.append_nil]
  | @string body rest parts short behind ih =>
      intro last part certificate inside before whole
      have length := slice_length (show part + (last - part) ≤ response.length by omega)
      rw [whole, List.length_cons, List.length_append] at length
      have first := @slice_cons response part (last - part - 1) (by omega)
      rw [Nat.sub_add_cancel (by omega), whole] at first
      obtain ⟨count, bodies⟩ := List.cons.inj first
      have chunk : (byteAt response part).toNat = body.length := by
        rw [← count, UInt8.toNat_ofNat', Nat.mod_eq_of_lt short]
      rw [show last - part - 1 = body.length + (last - (part + 1 + body.length)) by omega,
        slice_add] at bodies
      obtain ⟨bodyEq, restEq⟩ := List.append_inj bodies
        (slice_length (by omega)).symm
      unfold readCertificateText
      rw [if_pos (by omega)]
      dsimp only
      rw [chunk, if_neg (by omega), ih inside (by omega) restEq.symm, ← bodyEq,
        List.flatten_cons, List.append_assoc]

/-! ### The records of a reply -/

def Record.isCertificate (record : Record) : Bool :=
  decide (record.type = 16 ∧ record.klass = 1)

def Record.certificate (reply : Packet) (record : Record) : Checked Packet :=
  readCertificateText reply record.end record.data []

theorem Record.certificate_eq_ok {reply : Packet} {record : Record} {text : Packet}
    (inside : record.end ≤ reply.length) :
    record.certificate reply = .ok text ↔
      ∃ parts, CharacterStrings (record.bytes reply) parts ∧ text = parts.flatten := by
  have length : record.end - record.data = record.length := by
    unfold Record.end Record.data
    omega
  constructor
  · intro read
    obtain ⟨parts, strings, textEq⟩ := readCertificateText_strings inside read
    rw [length] at strings
    exact ⟨parts, strings, textEq⟩
  · rintro ⟨parts, strings, rfl⟩
    refine strings.read inside ?_ ?_
    · unfold Record.end Record.data
      omega
    · rw [length]
      rfl

theorem answerStep_record {reply : Packet} {position index : Nat} {record : Record}
    {result : List Packet} (here : RecordAt reply position record) :
    answerStep reply index (position, result) =
      if record.isCertificate then
        record.certificate reply >>= fun text => pure (record.end, result ++ [text])
      else pure (record.end, result) := by
  have inside := here.header_le
  have fits := here.fits
  unfold Record.end at fits
  have length : record.length = wordAt reply (record.header + 8) :=
    congrArg Record.length here.fieldsEq
  have type : record.type = wordAt reply record.header :=
    congrArg Record.type here.fieldsEq
  have klass : record.klass = wordAt reply (record.header + 2) :=
    congrArg Record.klass here.fieldsEq
  unfold answerStep
  dsimp only
  rw [skipName_of_name here.ownerEq, ok_bind, rejectIf_of_not (by omega), ok_bind,
    be16_of_le (by omega), ok_bind, be16_of_le (by omega), ok_bind,
    be16_of_le (by omega), ok_bind, ← length, ← type, ← klass,
    rejectIf_of_not (by omega), ok_bind]
  unfold Record.isCertificate
  simp only [decide_eq_true_eq]
  rfl

theorem answerLoop_run {reply : Packet} {position last : Nat}
    {records : List Record} (run : RecordRun reply position records last)
    (index : Nat) (result : List Packet) :
    repeatFrom (answerStep reply) records.length index (position, result) =
      (records.filter Record.isCertificate).mapM (Record.certificate reply) >>=
        fun found => pure (last, result ++ found) := by
  induction run generalizing index result with
  | done =>
      rw [List.filter_nil, List.mapM_nil, pure_eq_ok, ok_bind, List.append_nil]
      rfl
  | @record position last record rest here later ih =>
      rw [List.length_cons, repeatFrom_succ, answerStep_record here]
      by_cases certificate : record.isCertificate = true
      · rw [if_pos certificate, List.filter_cons_of_pos certificate, List.mapM_cons]
        simp only [bind_assoc, pure_eq_ok, ok_bind, ih, List.append_assoc,
          List.singleton_append]
      · rw [if_neg certificate, List.filter_cons_of_neg certificate, pure_eq_ok,
          ok_bind]
        exact ih (index + 1) result

theorem RecordRun.take {packet : Packet} {position last : Nat}
    {records : List Record} (run : RecordRun packet position records last)
    (count : Nat) : ∃ middle, RecordRun packet position (records.take count) middle := by
  induction run generalizing count with
  | done =>
      rw [List.take_nil]
      exact ⟨_, .done⟩
  | @record position last record rest here later ih =>
      cases count with
      | zero =>
          exact ⟨position, .done⟩
      | succ count =>
          obtain ⟨middle, front⟩ := ih count
          exact ⟨middle, .record here front⟩

/-- What the reader does on a reply with these records: it stands behind as many
of them as it has passed over, and returns the texts of the certificate records
of the answer section. -/
structure ReadsAnswers (reply : Packet) (first : Nat) (records : List Record) :
    Prop where
  questions : repeatFrom (questionStep reply) (wordAt reply 4) 0 12 = .ok first
  visits : ∀ count ≤ wordAt reply 6, ∀ last found,
    repeatFrom (answerStep reply) count 0 (first, []) = .ok (last, found) →
      RecordRun reply first (records.take count) last
  returns : ∀ certificates,
    extractDnscryptCertificates reply = .ok certificates ↔
      certificates ≠ [] ∧
        List.Forall₂
          (fun record text => ∃ parts,
            CharacterStrings (record.bytes reply) parts ∧ text = parts.flatten)
          ((records.take (wordAt reply 6)).filter Record.isCertificate) certificates
  fails : ∀ error, extractDnscryptCertificates reply = .error error →
    (records.take (wordAt reply 6)).filter Record.isCertificate = [] ∨
      ∃ record ∈ (records.take (wordAt reply 6)).filter Record.isCertificate,
        ¬ ∃ parts, CharacterStrings (record.bytes reply) parts

section Reading

variable {reply : Packet} {question : Question} {records : List Record}

theorem questionLoop_eq (parsed : parseQuestion reply = .ok question) :
    repeatFrom (questionStep reply) (wordAt reply 4) 0 12 = .ok question.end := by
  have parts := parseQuestion_eq_ok.mp parsed
  obtain ⟨next, decode, endEq⟩ := parts.nameEq
  have fits := parts.fits
  rw [parts.single, repeatFrom_succ]
  unfold questionStep
  rw [skipName_of_name decode, ok_bind, rejectIf_of_not (by omega), ok_bind, endEq]
  rfl

private theorem exists_answers (run : RecordRun reply question.end records reply.length)
    (counted : records.length = recordCount reply) {count : Nat}
    (few : count ≤ wordAt reply 6) :
    (records.take count).length = count ∧
      ∃ last, RecordRun reply question.end (records.take count) last := by
  unfold recordCount at counted
  exact ⟨List.length_take_of_le (by omega), run.take count⟩

theorem extractDnscryptCertificates_eq (parsed : parseQuestion reply = .ok question)
    (run : RecordRun reply question.end records reply.length)
    (counted : records.length = recordCount reply) :
    extractDnscryptCertificates reply =
      ((records.take (wordAt reply 6)).filter Record.isCertificate).mapM
          (Record.certificate reply) >>= fun found =>
        rejectIf (found = [])
          (.of "DNSCRYPT_CERT" "Certificate response contains no TXT certificate") >>=
          fun _ => pure found := by
  have header := (parseQuestion_eq_ok.mp parsed).header
  obtain ⟨length, last, answers⟩ := exists_answers run counted (Nat.le_refl _)
  have loop := answerLoop_run answers 0 []
  rw [length] at loop
  unfold extractDnscryptCertificates
  rw [rejectIf_of_not (by omega), ok_bind, be16_of_le (by omega), ok_bind,
    be16_of_le (by omega), ok_bind, questionLoop_eq parsed, ok_bind, loop]
  simp only [bind_assoc, pure_eq_ok, ok_bind, List.nil_append]

private theorem answers_inside (run : RecordRun reply question.end records reply.length) :
    ∀ record ∈ (records.take (wordAt reply 6)).filter Record.isCertificate,
      record.end ≤ reply.length :=
  fun _ member => (run.bounds (List.mem_of_mem_take (List.mem_filter.mp member).1)).2

theorem readsAnswers_of_run (parsed : parseQuestion reply = .ok question)
    (run : RecordRun reply question.end records reply.length)
    (counted : records.length = recordCount reply) :
    ReadsAnswers reply question.end records := by
  have extracted := extractDnscryptCertificates_eq parsed run counted
  have inside := answers_inside run
  refine
    { questions := questionLoop_eq parsed
      visits := ?_
      returns := ?_
      fails := ?_ }
  · intro count few last found passed
    obtain ⟨length, middle, front⟩ := exists_answers run counted few
    have loop := answerLoop_run front 0 []
    rw [length, passed] at loop
    obtain ⟨texts, _, built⟩ := bind_eq_ok.mp loop.symm
    cases built
    exact front
  · intro certificates
    rw [extracted, bind_eq_ok]
    constructor
    · rintro ⟨found, read, kept⟩
      obtain ⟨_, nonempty, built⟩ := bind_eq_ok.mp kept
      cases built
      refine ⟨rejectIf_eq_ok.mp nonempty, ?_⟩
      refine ((List.forall₂_and_left _ _).mpr ⟨inside, mapM_eq_ok.mp read⟩).imp ?_
      rintro record text ⟨within, read⟩
      exact (Record.certificate_eq_ok within).mp read
    · rintro ⟨nonempty, texts⟩
      refine ⟨certificates, mapM_eq_ok.mpr ?_, ?_⟩
      · refine ((List.forall₂_and_left _ _).mpr ⟨inside, texts⟩).imp ?_
        rintro record text ⟨within, strings⟩
        exact (Record.certificate_eq_ok within).mpr strings
      · rw [rejectIf_of_not nonempty, ok_bind]
        rfl
  · intro error raised
    rw [extracted] at raised
    rcases bind_eq_error.mp raised with raised | ⟨found, read, raised⟩
    · obtain ⟨record, member, fault, failed⟩ := mapM_eq_error.mp ⟨error, raised⟩
      refine .inr ⟨record, member, ?_⟩
      rintro ⟨parts, strings⟩
      have read := (Record.certificate_eq_ok (inside record member)).mpr
        ⟨parts, strings, rfl⟩
      rw [failed] at read
      cases read
    · rcases bind_eq_error.mp raised with rejected | ⟨_, _, impossible⟩
      · have empty := (rejectIf_eq_error.mp rejected).1
        rw [empty] at read
        exact .inl (List.forall₂_nil_right_iff.mp (mapM_eq_ok.mp read))
      · cases impossible

end Reading

/-- The walkers over names agree where the decoder succeeds, so that on every
reply that the parser accepts the reader of certificates passes over the answer
records and returns the texts of those that are certificates. -/
theorem certificateReader_agrees :
    (∀ (packet : Packet) (position next : Nat) (decoded : Bytes),
      name packet position = .ok (decoded, next) →
        skipName packet position = .ok next) ∧
    ∀ (platform : Platform) (reply : Packet) (expected : Question) (answer : DnsAnswer),
      parseResponse platform reply expected = .ok answer → answer.truncated = false →
        ∃ question records, parseQuestion reply = .ok question ∧
          replyRecords reply = .ok records ∧
          ReadsAnswers reply question.end records := by
  refine ⟨fun packet position next decoded => skipName_of_name, ?_⟩
  intro platform reply expected answer accepted complete
  obtain ⟨question, scan, reachable, parsed, _, _, scanned, _, _⟩ :=
    parseResponse_untruncated accepted complete
  obtain ⟨records, found, run, counted, _⟩ := replyRecords_of_scan parsed scanned
  exact ⟨question, records, parsed, found, readsAnswers_of_run parsed run counted⟩

/-- A reply with the character-strings `ab` and `c` in its only record. -/
def certificateReply : Packet :=
  [0, 7, 0x81, 0x80, 0, 1, 0, 1, 0, 0, 0, 0, 1, 97, 0, 0, 16, 0, 1,
    0xc0, 12, 0, 16, 0, 1, 0, 0, 0, 60, 0, 5, 2, 97, 98, 1, 99]

theorem certificateReader_agrees_strings :
    extractDnscryptCertificates certificateReply = .ok [text "abc"] := by
  have evaluated : (parseResponse ipv4Platform certificateReply
      { id := 7, flags := 0x8180, type := 16, klass := 1, name := text "a" }).toOption.map
        DnsAnswer.truncated = some false := by
    decide +kernel
  have only : replyRecords certificateReply =
      .ok [{ owner := text "a", header := 21, type := 16, klass := 1, ttl := 60,
             length := 5 }] := by
    decide +kernel
  cases accepted : parseResponse ipv4Platform certificateReply
      { id := 7, flags := 0x8180, type := 16, klass := 1, name := text "a" } with
  | error error =>
      rw [accepted] at evaluated
      cases evaluated
  | ok answer =>
      rw [accepted] at evaluated
      obtain ⟨question, records, _, found, reads⟩ :=
        certificateReader_agrees.2 _ _ _ answer accepted (Option.some.inj evaluated)
      rw [only] at found
      cases found
      refine (reads.returns [text "abc"]).mpr ⟨List.cons_ne_nil _ _, .cons ?_ .nil⟩
      have strings : CharacterStrings [2, 97, 98, 1, 99] [[97, 98], [99]] :=
        @CharacterStrings.string [97, 98] _ _ (by decide)
          (@CharacterStrings.string [99] _ _ (by decide) .done)
      exact ⟨[[97, 98], [99]], strings, by decide⟩

end NativeDNS
