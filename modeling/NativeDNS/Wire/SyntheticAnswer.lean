/-
Synthetic replies answer the query they were made from.

The reply is read back by two parsers the builder shares nothing with: the
response parser and the walk for an OPT record.  Both accept it for every
question shape and EDNS form with one exception, a zero answer whose owner
pointer leads to a name of 127 labels.
-/
import NativeDNS.Wire.Query
import NativeDNS.Wire.Synthetic
import NativeDNS.Wire.Fitting

namespace NativeDNS

open ByteText (text byte)
open CheckedResult

/-! ### The EDNS form of a request -/

/-- What the walk for an OPT record returns. -/
structure EdnsForm (edns : EdnsRequest) : Prop where
  absent : edns.present = false → edns = {}
  large : 512 ≤ edns.payload
  small : edns.payload ≤ 1232

theorem clampPayload_bounds (klass : Nat) :
    512 ≤ clampPayload klass ∧ clampPayload klass ≤ 1232 := by
  unfold clampPayload
  omega

theorem EdnsForm.clamped {edns : EdnsRequest} (form : EdnsForm edns) :
    clampPayload (edns.payload % 65536) = edns.payload := by
  have large := form.large
  have small := form.small
  unfold clampPayload
  omega

theorem ednsRequest_form {request : Packet} {question : Question}
    {edns : EdnsRequest} (walked : ednsRequest request question = .ok edns) :
    EdnsForm edns := by
  simp only [ednsRequest, bind_eq_ok, rejectIf_eq_ok, pure_eq_ok,
    Except.ok.injEq] at walked
  obtain ⟨answers, _, authority, _, additional, _, _, _, ⟨position, found⟩,
    loop, _, _, built⟩ := walked
  subst built
  refine @repeatFrom_invariant _ _ _
    (fun _ state => EdnsForm state.2) ?_ _ _ _ _ ?_ loop
  · intro index state next form passed
    obtain ⟨at_, edns⟩ := state
    simp only [ednsStep, bind_eq_ok, rejectIf_eq_ok] at passed
    obtain ⟨⟨owner, header⟩, _, type, _, klass, _, length, _, _, _, rest⟩ :=
      passed
    split at rest
    · simp only [bind_eq_ok, pure_eq_ok, Except.ok.injEq] at rest
      obtain ⟨_, _, nextEq⟩ := rest
      subst nextEq
      have bounds := clampPayload_bounds klass
      exact ⟨fun absent => (Bool.noConfusion absent), bounds.1, bounds.2⟩
    · cases rest
      exact form
  · exact ⟨fun _ => rfl, Nat.le_refl 512, (by decide : 512 ≤ 1232)⟩

theorem ednsStep_of_read {packet : Packet} {boundary index position : Nat}
    {record : Record} (read : readRecord packet position = .ok record)
    (edns : EdnsRequest) :
    ednsStep packet boundary index (position, edns) =
      if record.type = 41 then do
        rejectIf (edns.present = true ∨ record.owner ≠ [] ∨ index < boundary)
          (.of "DNS_MALFORMED" "Invalid OPT record")
        pure (record.end,
          { present := true
            doBit := byteAt packet (record.header + 6) &&& 0x80 != 0
            payload := clampPayload record.klass })
      else pure (record.end, edns) := by
  have here := (readRecord_eq_ok.mp read).1
  have inside := here.header_le
  have fits := here.fits
  have typeEq : wordAt packet record.header = record.type := by
    rw [here.fieldsEq]
    rfl
  have klassEq : wordAt packet (record.header + 2) = record.klass := by
    rw [here.fieldsEq]
    rfl
  have lengthEq : wordAt packet (record.header + 8) = record.length := by
    rw [here.fieldsEq]
    rfl
  unfold Record.end at fits
  unfold ednsStep
  dsimp only
  rw [here.ownerEq, ok_bind]
  dsimp only
  rw [word_of_le (by omega), ok_bind, word_of_le (by omega), ok_bind,
    word_of_le (by omega), ok_bind, typeEq, klassEq, lengthEq,
    rejectIf_of_not (by omega), ok_bind]
  rfl

/-! ### The reply read back -/

section Reply

variable {request : Packet} {question : Question} {edns : EdnsRequest}
variable {rcode : Nat} {zero : Bool}

def syntheticQuestion (question : Question) (rcode : Nat) : Question :=
  { question with flags := syntheticFlags question.flags rcode }

theorem syntheticFlags_copied (requestFlags : Nat) {rcode : Nat}
    (range : rcode ≤ 15) :
    syntheticFlags requestFlags rcode &&& 0x0110 = requestFlags &&& 0x0110 := by
  have plain : ∀ code ≤ 15, code &&& 0x0110 = 0 := by decide
  unfold syntheticFlags
  rw [Nat.and_or_distrib_right, Nat.and_or_distrib_right, Nat.and_assoc,
    plain rcode range]
  simp

/-- The last records of a synthetic reply as the walk for an OPT record sees
them. -/
theorem ednsPass_opt (parts : QuestionAt request question)
    (form : EdnsForm edns) (index : Nat)
    (additional : (answersZero zero question).toNat + 0 ≤ index) :
    repeatFrom
        (ednsStep (syntheticPacket request question edns rcode zero)
          ((answersZero zero question).toNat + 0))
        edns.present.toNat index
        (question.end + (if answersZero zero question = true then
          zeroRecord question.type else []).length, {}) =
      .ok ((syntheticPacket request question edns rcode zero).length, edns) := by
  have total := @syntheticPacket_length request question edns rcode zero parts
  cases present : edns.present with
  | false =>
      unfold syntheticRecords at total
      rw [present, if_neg Bool.false_ne_true, List.append_nil] at total
      rw [total, form.absent present]
      rfl
  | true =>
      obtain ⟨record, read, opt, root, _, atEnd, klassEq, doByte⟩ :=
        @optRecord_read request question edns rcode zero parts present
      have doBit : ((if edns.doBit then (0x80 : UInt8) else 0) &&& 0x80 != 0) =
          edns.doBit := by
        cases edns.doBit <;> decide
      rw [Bool.toNat_true, repeatFrom_succ, ednsStep_of_read read, if_pos opt,
        rejectIf_of_not (by rw [root]; simp; omega), ok_bind, atEnd, klassEq,
        form.clamped, doByte, doBit, ← present]
      rfl

theorem ednsRequest_synthetic (parts : QuestionAt request question)
    (form : EdnsForm edns) (range : rcode ≤ 15)
    (enough : answersZero zero question = true →
      labelCount question.name + 2 ≤ maxHops) :
    ednsRequest (syntheticPacket request question edns rcode zero)
        (syntheticQuestion question rcode) = .ok edns := by
  obtain ⟨_, _, _, answersWord, authorityWord, additionalWord⟩ :=
    @syntheticPacket_words request question edns rcode zero range
  have total := @syntheticPacket_length request question edns rcode
    zero parts
  have header := parts.end_ge
  have few : ∀ flag : Bool, flag.toNat ≤ 1 := by decide
  have answers := few (answersZero zero question)
  have additional := few edns.present
  have walk : repeatFrom
      (ednsStep (syntheticPacket request question edns rcode zero)
        ((answersZero zero question).toNat + 0))
      ((answersZero zero question).toNat + 0 + edns.present.toNat) 0
      (question.end, {}) =
        .ok ((syntheticPacket request question edns rcode zero).length,
          edns) := by
    cases answer : answersZero zero question with
    | false =>
        have pass := @ednsPass_opt request question edns rcode zero parts form 0
          (by rw [answer]; exact Nat.le_refl 0)
        rw [answer] at pass
        rw [Bool.toNat_false, Nat.add_zero, Nat.zero_add]
        exact pass
    | true =>
        have read := @zeroRecord_read request question edns rcode zero parts
          answer (enough answer)
        obtain ⟨_, typeKind⟩ := answersZero_type answer
        have pass := @ednsPass_opt request question edns rcode zero parts form 1
          (by rw [answer]; exact Nat.le_refl 1)
        rw [answer, if_pos rfl, zeroRecord_length] at pass
        rw [Bool.toNat_true, Nat.add_zero, Nat.add_comm 1, repeatFrom_succ,
          ednsStep_of_read read, if_neg (by simp only; omega)]
        have endEq : Record.end
            { owner := question.name
              header := question.end + 2
              type := question.type
              klass := 1
              ttl := 0
              length := if question.type = 1 then 4 else 16 } =
            question.end + if question.type = 1 then 16 else 28 := by
          simp only [Record.end]
          split <;> omega
        rw [endEq, pure_eq_ok, ok_bind]
        exact pass
  unfold ednsRequest
  rw [word_of_le (by omega), ok_bind, word_of_le (by omega), ok_bind,
    word_of_le (by omega), ok_bind, answersWord, authorityWord, additionalWord,
    rejectIf_of_not (by omega), ok_bind]
  simp only [syntheticQuestion]
  rw [walk, ok_bind]
  dsimp only
  rw [rejectIf_of_not (not_not.mpr rfl), ok_bind, pure_eq_ok]

theorem syntheticScan_uncacheable (platform : Platform) (expected : Question)
    (plain : zero = true → rcode = 0) :
    (syntheticScan platform question edns rcode zero).cacheable expected =
      false := by
  unfold syntheticScan
  by_cases answer : answersZero zero question = true
  · have zeroMode : zero = true := by
      simp only [answersZero, Bool.and_eq_true] at answer
      exact answer.1.1
    rw [if_pos answer, plain zeroMode]
    simp [ResponseScan.cacheable, ResponseScan.lifetime, ResponseScan.negative]
  · rw [if_neg answer]
    have unlimited : ∀ scan : ResponseScan, scan.positiveTtl = noTtl →
        scan.negativeTtl = noTtl → scan.lifetime = noTtl := by
      intro scan positive negative
      unfold ResponseScan.lifetime
      rw [positive, negative, ite_self]
    simp [ResponseScan.cacheable, unlimited]

theorem syntheticPacket_fits (parts : QuestionAt request question)
    (query : question.flags &&& 0x8000 = 0)
    (walked : ednsRequest request question = .ok edns) :
    ∃ limit, clientUdpPayloadSize request = .ok limit ∧
      (syntheticPacket request question edns rcode zero).length ≤ limit := by
  have form := ednsRequest_form walked
  have large := form.large
  have bound := parts.end_le
  have records := syntheticRecords_length_le question edns zero
  refine ⟨if edns.present then edns.payload else 512, ?_, ?_⟩
  · unfold clientUdpPayloadSize
    rw [parseQuestion_eq_ok.mpr parts, ok_bind,
      rejectIf_of_not (not_not.mpr query), ok_bind, walked, ok_bind, pure_eq_ok]
  · rw [syntheticPacket_length parts]
    split <;> omega

end Reply

/-! ### Valid answers -/

/-- How the platform writes the unspecified addresses. -/
structure FormatsUnspecified (platform : Platform) : Prop where
  ipv4 : platform.formatIp (List.replicate 4 0) false = text "0.0.0.0"
  ipv6 : platform.formatIp (List.replicate 16 0) true = text "::"

/-- A reply that answers a request with a response code and addresses: it is
accepted and not cacheable, keeps RD, CD and the EDNS form of the request, and
fits the client's datagram size. -/
structure ValidAnswer (platform : Platform) (request : Packet)
    (question : Question) (edns : EdnsRequest) (rcode : Nat)
    (addresses : List Bytes) (reply : Packet) : Prop where
  accepted : ∃ answer, parseResponse platform reply question = .ok answer ∧
    answer.rcode = rcode ∧ answer.addresses = addresses ∧
      answer.truncated = false ∧ answer.cacheable = false
  copied : ∃ asked, parseQuestion reply = .ok asked ∧
    asked.flags &&& 0x0110 = question.flags &&& 0x0110 ∧
      ednsRequest reply asked = .ok edns
  fits : ∃ limit, clientUdpPayloadSize request = .ok limit ∧
    reply.length ≤ limit

def blockAddresses (mode : BlockMode) (question : Question) : List Bytes :=
  if mode = .zeroAddress ∧ question.klass = 1 then
    if question.type = 1 then [text "0.0.0.0"]
    else if question.type = 28 then [text "::"]
    else []
  else []

theorem syntheticPacket_valid {platform : Platform} {request : Packet}
    {question : Question} {edns : EdnsRequest} {rcode : Nat} {zero : Bool}
    {addresses : List Bytes} (parts : QuestionAt request question)
    (query : question.flags &&& 0x8000 = 0)
    (walked : ednsRequest request question = .ok edns) (range : rcode ≤ 15)
    (plain : zero = true → rcode = 0)
    (found : (syntheticScan platform question edns rcode zero).addresses.map
      (·.2) = addresses)
    (enough : answersZero zero question = true →
      labelCount question.name + 2 ≤ maxHops) :
    ValidAnswer platform request question edns rcode addresses
      (syntheticPacket request question edns rcode zero) := by
  have owners : ∀ address ∈
      (syntheticScan platform question edns rcode zero).addresses,
        address.1 = question.name := by
    unfold syntheticScan
    split
    · intro address member
      rw [List.mem_singleton.mp member]
    · intro address member
      cases member
  refine
    { accepted := ⟨_, parseResponse_synthetic platform parts range enough,
        ?_, ?_, rfl, syntheticScan_uncacheable platform question plain⟩
      copied := ⟨syntheticQuestion question rcode,
        syntheticPacket_parsed parts range,
        syntheticFlags_copied question.flags range,
        ednsRequest_synthetic parts (ednsRequest_form walked) range enough⟩
      fits := syntheticPacket_fits parts query walked }
  · simp only [finishAnswer, syntheticScan]
    split <;> rfl
  · simp only [finishAnswer]
    rw [List.filter_eq_self.mpr]
    · exact found
    · intro address member
      simp [owners address member]

/-- A synthetic reply answers its query, whatever the question and the EDNS
form, if and only if it is not a zero answer for a name of 127 labels. -/
theorem syntheticReplies_valid_iff {platform : Platform}
    (unspecified : FormatsUnspecified platform) {request : Packet}
    {question : Question} {edns : EdnsRequest}
    (parsed : parseQuestion request = .ok question)
    (query : question.flags &&& 0x8000 = 0)
    (walked : ednsRequest request question = .ok edns) {mode : BlockMode}
    (answering : mode ≠ .silentDrop) {rcode : Nat} (range : rcode ≤ 15) :
    ((∃ reply, makeBlockResponse request mode = .ok reply ∧
        ValidAnswer platform request question edns (blockRcode mode)
          (blockAddresses mode question) reply) ∧
      ∃ reply, makeErrorResponse request rcode = .ok reply ∧
        ValidAnswer platform request question edns rcode [] reply) ↔
      (mode = .zeroAddress → question.klass = 1 →
        question.type = 1 ∨ question.type = 28 →
          labelCount question.name < 127) := by
  have parts := parseQuestion_eq_ok.mp parsed
  have blockRange : blockRcode mode ≤ 15 := by
    unfold blockRcode
    split
    · omega
    · split <;> omega
  have blocked : makeBlockResponse request mode =
      .ok (syntheticPacket request question edns (blockRcode mode)
        (decide (mode = .zeroAddress))) := by
    unfold makeBlockResponse
    rw [rejectIf_of_not answering, ok_bind]
    exact (syntheticResponse_eq_ok blockRange).mpr
      ⟨question, edns, parsed, query, walked, rfl⟩
  have zeroIff : answersZero (decide (mode = .zeroAddress)) question = true ↔
      mode = .zeroAddress ∧ question.klass = 1 ∧
        (question.type = 1 ∨ question.type = 28) := by
    simp only [answersZero, Bool.and_eq_true, Bool.or_eq_true,
      decide_eq_true_eq, and_assoc]
  constructor
  · rintro ⟨⟨reply, built, valid⟩, _⟩ zeroMode klass typeKind
    rw [blocked] at built
    cases built
    obtain ⟨answer, accepted, _⟩ := valid.accepted
    have enough := (syntheticPacket_accepted_iff platform parts
      blockRange).mp ⟨answer, accepted⟩ (zeroIff.mpr ⟨zeroMode, klass, typeKind⟩)
    unfold maxHops at enough
    omega
  · intro shallow
    refine ⟨⟨_, blocked, ?_⟩, _, (syntheticResponse_eq_ok range).mpr
      ⟨question, edns, parsed, query, walked, rfl⟩, ?_⟩
    · apply syntheticPacket_valid parts query walked blockRange
      · intro zeroMode
        rw [of_decide_eq_true zeroMode]
        decide
      · unfold syntheticScan blockAddresses
        by_cases zeroMode : mode = .zeroAddress ∧ question.klass = 1
        · by_cases ipv4 : question.type = 1
          · simp [answersZero, zeroMode, ipv4]
            exact unspecified.ipv4
          · by_cases ipv6 : question.type = 28
            · simp [answersZero, zeroMode, ipv6]
              exact unspecified.ipv6
            · simp [answersZero, zeroMode, ipv4, ipv6]
        · rw [if_neg zeroMode, if_neg]
          · rfl
          · intro answer
            have kinds := zeroIff.mp answer
            exact zeroMode ⟨kinds.1, kinds.2.1⟩
      · intro answer
        obtain ⟨zeroMode, klass, typeKind⟩ := zeroIff.mp answer
        have few := shallow zeroMode klass typeKind
        unfold maxHops
        omega
    · apply syntheticPacket_valid parts query walked range
      · intro impossible
        cases impossible
      · rfl
      · intro impossible
        cases impossible

def unspecifiedPlatform : Platform :=
  { ipv4Platform with
    formatIp := fun bytes ipv6 =>
      if ipv6 then text "::" else ipv4Platform.formatIp bytes false }

/-- An A query for "x" with an OPT record that sets the DO bit. -/
def ednsQuery : Packet :=
  [0, 7, 1, 16, 0, 1, 0, 0, 0, 0, 0, 1, 1, 120, 0, 0, 1, 0, 1] ++
    [0, 0, 41, 4, 0, 0, 0, 128, 0, 0, 0]

theorem syntheticReplies_valid_iff_ednsQuery :
    (∃ reply, makeBlockResponse ednsQuery .zeroAddress = .ok reply ∧
        ValidAnswer unspecifiedPlatform ednsQuery
          { id := 7
            flags := 0x0110
            type := 1
            klass := 1
            name := text "x"
            «end» := 19 }
          { present := true
            doBit := true
            payload := 1024 } 0 [text "0.0.0.0"] reply) ∧
      ∃ reply, makeErrorResponse ednsQuery 2 = .ok reply ∧
        ValidAnswer unspecifiedPlatform ednsQuery
          { id := 7
            flags := 0x0110
            type := 1
            klass := 1
            name := text "x"
            «end» := 19 }
          { present := true
            doBit := true
            payload := 1024 } 2 [] reply :=
  (@syntheticReplies_valid_iff unspecifiedPlatform
    ⟨by decide, by decide⟩ ednsQuery _ _ (by decide +kernel) (by decide)
    (by decide +kernel) .zeroAddress (by decide) 2 (by decide)).mpr
      (fun _ _ _ => by decide)

def deepQuery : Packet :=
  [0, 7, 1, 0, 0, 1, 0, 0, 0, 0, 0, 0] ++
    (encodeLabels (List.replicate 127 (text "x")) ++ 0 :: [0, 1, 0, 1])

def deepQuestion : Question :=
  { id := 7
    flags := 0x0100
    type := 1
    klass := 1
    name := ByteText.joined (byte '.') (List.replicate 127 (text "x"))
    «end» := 271 }

theorem deepQuery_questionAt : QuestionAt deepQuery deepQuestion := by
  have wire : ∀ item ∈ List.replicate 127 (text "x"), WireLabel item := by
    intro item member
    rw [List.eq_of_mem_replicate member]
    exact ⟨by decide, by decide, by decide +kernel, by decide +kernel⟩
  have decode := encodeLabels_name wire (by decide +kernel)
    [0, 7, 1, 0, 0, 1, 0, 0, 0, 0, 0, 0] [0, 1, 0, 1]
  have size : (encodeLabels (List.replicate 127 (text "x"))).length = 254 := by
    decide +kernel
  have decoded : name deepQuery 12 = .ok (deepQuestion.name, 267) := by
    simp only [size, List.length_cons, List.length_nil, Nat.reduceAdd]
      at decode
    exact decode
  exact
    { header := by decide +kernel
      bounded := by decide +kernel
      single := by decide +kernel
      idEq := by decide +kernel
      flagsEq := by decide +kernel
      standard := by decide +kernel
      nameEq := ⟨267, decoded, rfl⟩
      typeEq := by decide +kernel
      klassEq := by decide +kernel
      fits := by decide +kernel }

/-- The zero answer for a name of 127 labels is not accepted. -/
theorem syntheticReplies_valid_fails :
    parseQuestion deepQuery = .ok deepQuestion ∧
      deepQuestion.flags &&& 0x8000 = 0 ∧
      ednsRequest deepQuery deepQuestion = .ok {} ∧
      ∃ reply, makeBlockResponse deepQuery .zeroAddress = .ok reply ∧
        ∀ answer,
          parseResponse unspecifiedPlatform reply deepQuestion ≠ .ok answer := by
  have parts := deepQuery_questionAt
  have parsed := parseQuestion_eq_ok.mpr parts
  have query : deepQuestion.flags &&& 0x8000 = 0 := by decide
  have walked : ednsRequest deepQuery deepQuestion = .ok {} := by
    decide +kernel
  have blocked : makeBlockResponse deepQuery .zeroAddress =
      .ok (syntheticPacket deepQuery deepQuestion {} 0 true) := by
    unfold makeBlockResponse
    rw [rejectIf_of_not (by decide), ok_bind]
    exact (syntheticResponse_eq_ok (by decide)).mpr
      ⟨deepQuestion, {}, parsed, query, walked, rfl⟩
  refine ⟨parsed, query, walked, _, blocked, ?_⟩
  intro answer accepted
  have enough := (syntheticPacket_accepted_iff unspecifiedPlatform parts
    (by decide)).mp ⟨answer, accepted⟩ (by decide +kernel)
  revert enough
  decide +kernel

end NativeDNS
