/-
The direct accesses of the packet functions.

The definitions here repeat the packet functions with every index into a
packet, every write and every subtraction of an offset from a size guarded, in
the order of the source, and with the decoding loop of names under its own
cursor.  Each of them is shown to be the checked function of the same name: no
access leaves the packet and no difference is negative, whatever the bytes.
-/
import NativeDNS.Library.GuardedAccess
import NativeDNS.Wire.Fitting
import NativeDNS.Wire.Lifetime

namespace NativeDNS

open ByteText (text byte)
open CheckedResult
open GuardedAccess

namespace Direct

/-! ### Fields -/

theorem readByte {packet : Packet} {offset : Nat} (inside : offset < packet.length) :
    (readAt packet offset : Guarded Error UInt8) = .ok (byteAt packet offset) :=
  readAt_of_lt inside

def word (packet : Packet) (offset : Nat) : Guarded Error Nat := do
  rejectIf (offset > packet.length) (.raised truncatedField)
  let left ← minus packet.length offset
  rejectIf (left < 2) (.raised truncatedField)
  let high ← readAt packet offset
  let low ← readAt packet (offset + 1)
  pure (high.toNat <<< 8 ||| low.toNat)

theorem word_raising (packet : Packet) (offset : Nat) :
    word packet offset = raising (NativeDNS.word packet offset) := by
  unfold word NativeDNS.word
  refine rejectIf_or_raising ?_
  intro within
  rw [minus_of_le (by omega), ok_bind]
  refine rejectIf_raising ?_
  intro enough
  rw [readByte (by omega), ok_bind, readByte (by omega), ok_bind]
  rfl

def dword (packet : Packet) (offset : Nat) : Guarded Error Nat := do
  rejectIf (offset > packet.length) (.raised truncatedField)
  let left ← minus packet.length offset
  rejectIf (left < 4) (.raised truncatedField)
  let first ← readAt packet offset
  let second ← readAt packet (offset + 1)
  let third ← readAt packet (offset + 2)
  let fourth ← readAt packet (offset + 3)
  pure (first.toNat <<< 24 ||| second.toNat <<< 16 ||| third.toNat <<< 8 |||
    fourth.toNat)

theorem dword_raising (packet : Packet) (offset : Nat) :
    dword packet offset = raising (NativeDNS.dword packet offset) := by
  unfold dword NativeDNS.dword
  refine rejectIf_or_raising ?_
  intro within
  rw [minus_of_le (by omega), ok_bind]
  refine rejectIf_raising ?_
  intro enough
  rw [readByte (by omega), ok_bind, readByte (by omega), ok_bind,
    readByte (by omega), ok_bind, readByte (by omega), ok_bind]
  rfl

def putDword (packet : Packet) (offset value : Nat) : Guarded Error Packet := do
  let packet ← writeAt packet offset (UInt8.ofNat (value >>> 24))
  let packet ← writeAt packet (offset + 1) (UInt8.ofNat (value >>> 16))
  let packet ← writeAt packet (offset + 2) (UInt8.ofNat (value >>> 8))
  writeAt packet (offset + 3) (UInt8.ofNat value)

theorem putDword_of_le {packet : Packet} {offset value : Nat}
    (inside : offset + 4 ≤ packet.length) :
    putDword packet offset value =
      .ok (NativeDNS.putDword packet offset value) := by
  unfold putDword NativeDNS.putDword
  rw [writeAt_of_lt (by omega), ok_bind,
    writeAt_of_lt (by simp only [List.length_set]; omega), ok_bind,
    writeAt_of_lt (by simp only [List.length_set]; omega), ok_bind,
    writeAt_of_lt (by simp only [List.length_set]; omega)]

/-! ### Names -/

structure NameCursor where
  position : Nat
  offset : Nat
  jumped : Bool := false
  hops : Nat := 0
  result : Bytes := []

def nameChain : Error :=
  malformed "Invalid DNS name/compression chain"

def nameCheck (packet : Packet) (cursor : NameCursor) : Guarded Error Unit :=
  rejectIf (cursor.position ≥ packet.length ∨ cursor.hops + 1 > maxHops)
    (.raised nameChain)

def labelCharacters (packet : Packet) :
    Nat → Nat → Bytes → Guarded Error Bytes
  | 0, _, result => pure result
  | left + 1, position, result => do
      let character ← readAt packet position
      rejectIf
        (character.toNat ≤ 32 ∨ character.toNat ≥ 127 ∨ character = byte '.')
        (.raised (malformed "Non-host label bytes are unsupported"))
      labelCharacters packet left (position + 1) (result ++ [toLower character])

def namePass (packet : Packet) (cursor : NameCursor) :
    Guarded Error (NameCursor ⊕ (Bytes × Nat)) := do
  let length ← readAt packet cursor.position
  let position := cursor.position + 1
  if length &&& 0xc0 = 0xc0 then do
    rejectIf (position ≥ packet.length)
      (.raised (malformed "Truncated compression pointer"))
    let low ← readAt packet position
    let target := (length.toNat &&& 0x3f) <<< 8 ||| low.toNat
    let position := position + 1
    let start ← minus position 2
    rejectIf (target ≥ start ∨ target < 12)
      (.raised (malformed "Compression pointer must refer to earlier name data"))
    pure (.inl
      { cursor with
        position := target
        offset := if cursor.jumped then cursor.offset else position
        jumped := true
        hops := cursor.hops + 1 })
  else do
    rejectIf (length &&& 0xc0 ≠ 0)
      (.raised (malformed "Unsupported DNS label encoding"))
    if length = 0 then
      pure (.inr (cursor.result, if cursor.jumped then cursor.offset else position))
    else do
      let left ← minus packet.length position
      rejectIf (length.toNat > left) (.raised (malformed "Truncated DNS label"))
      let result ← labelCharacters packet length.toNat position
        (if cursor.result = [] then [] else cursor.result ++ [byte '.'])
      rejectIf (result.length > 253)
        (.raised (malformed "Expanded DNS name is too long"))
      pure (.inl
        { cursor with
          position := position + length.toNat
          hops := cursor.hops + 1
          result := result })

def name (packet : Packet) (offset : Nat) : Guarded Error (Bytes × Nat) :=
  passes (nameCheck packet) (namePass packet) maxHops
    { position := offset
      offset := offset }

def NameCursor.resume (cursor : NameCursor) : Option Nat :=
  if cursor.jumped then some cursor.offset else none

def NameCursor.decode (packet : Packet) (hops : Nat) (cursor : NameCursor) :
    Checked (Bytes × Nat) :=
  nameLoop packet hops cursor.position cursor.resume cursor.result

theorem labelCharacters_raising {packet : Packet} :
    ∀ {left position : Nat} {result : Bytes}, position + left ≤ packet.length →
      labelCharacters packet left position result =
        if (slice packet position left).all isNameByte = false then
          .error (.raised (malformed "Non-host label bytes are unsupported"))
        else .ok (result ++ (slice packet position left).map toLower)
  | 0, position, result, _ => by
      simp [labelCharacters, slice]
  | left + 1, position, result, within => by
      have inside : position < packet.length := by omega
      have legal : isNameByte (byteAt packet position) = false ↔
          ((byteAt packet position).toNat ≤ 32 ∨
            (byteAt packet position).toNat ≥ 127 ∨
            byteAt packet position = byte '.') := by
        simp only [isNameByte, Bool.and_eq_false_iff, decide_eq_false_iff_not,
          bne_eq_false_iff_eq, Nat.not_lt, or_assoc]
      unfold labelCharacters
      rw [readByte inside, ok_bind, slice_cons inside, List.all_cons]
      by_cases allowed : isNameByte (byteAt packet position) = false
      · rw [rejectIf_of (legal.mp allowed), error_bind, allowed,
          Bool.false_and, if_pos rfl]
      · rw [rejectIf_of_not (mt legal.mpr allowed), ok_bind,
          labelCharacters_raising (by omega), Bool.eq_true_of_not_eq_false allowed,
          Bool.true_and, List.map_cons, List.append_assoc, List.singleton_append]

theorem namePass_follows {packet : Packet} {cursor : NameCursor} {left : Nat}
    (inside : cursor.position < packet.length) :
    Follows (namePass packet cursor) (fun next => next.hops = cursor.hops + 1)
      (cursor.decode packet (left + 1)) (NameCursor.decode packet left) := by
  have begun : cursor.position + 1 + 1 - 2 = cursor.position := by omega
  have target : ((byteAt packet cursor.position).toNat &&& 0x3f) <<< 8 |||
      (byteAt packet (cursor.position + 1)).toNat =
        pointerTarget packet cursor.position := rfl
  unfold namePass
  rw [show cursor.decode packet (left + 1) = nameLoop packet (left + 1) cursor.position
    cursor.resume cursor.result from rfl, nameLoop, if_neg (Nat.not_le.mpr inside),
    readByte inside, ok_bind]
  dsimp only
  by_cases marked : byteAt packet cursor.position &&& 0xc0 = 0xc0
  · rw [if_pos marked, if_pos marked]
    by_cases cut : cursor.position + 1 ≥ packet.length
    · rw [rejectIf_of cut, if_pos cut]
      exact .inl ⟨_, rfl, rfl⟩
    · rw [rejectIf_of_not cut, ok_bind, if_neg cut, readByte (by omega), ok_bind,
        minus_of_le (by omega), ok_bind, begun, target]
      by_cases illegal : pointerTarget packet cursor.position ≥ cursor.position ∨
          pointerTarget packet cursor.position < 12
      · rw [rejectIf_of illegal, if_pos illegal]
        exact .inl ⟨_, rfl, rfl⟩
      · rw [rejectIf_of_not illegal, ok_bind, if_neg illegal]
        refine .inr (.inr ⟨_, rfl, rfl, ?_⟩)
        unfold NameCursor.resume
        cases cursor.jumped with
        | false =>
            rfl
        | true =>
            rfl
  · rw [if_neg marked, if_neg marked]
    by_cases encoded : byteAt packet cursor.position &&& 0xc0 ≠ 0
    · rw [rejectIf_of encoded, if_pos encoded]
      exact .inl ⟨_, rfl, rfl⟩
    · rw [rejectIf_of_not encoded, ok_bind, if_neg encoded]
      by_cases zero : byteAt packet cursor.position = 0
      · rw [if_pos zero, if_pos zero]
        refine .inr (.inl ⟨_, rfl, ?_⟩)
        unfold NameCursor.resume
        cases cursor.jumped with
        | false =>
            rfl
        | true =>
            rfl
      · rw [if_neg zero, if_neg zero, minus_of_le (by omega), ok_bind]
        by_cases cut : (byteAt packet cursor.position).toNat >
            packet.length - (cursor.position + 1)
        · rw [rejectIf_of cut, if_pos cut]
          exact .inl ⟨_, rfl, rfl⟩
        · rw [rejectIf_of_not cut, ok_bind, if_neg cut,
            labelCharacters_raising (by omega)]
          by_cases foreign : (slice packet (cursor.position + 1)
              (byteAt packet cursor.position).toNat).all isNameByte = false
          · rw [if_pos foreign, if_pos foreign]
            exact .inl ⟨_, rfl, rfl⟩
          · rw [if_neg foreign, if_neg foreign, ok_bind, ← appendLabel]
            by_cases long : (appendLabel cursor.result
                (slice packet (cursor.position + 1)
                  (byteAt packet cursor.position).toNat)).length > 253
            · rw [rejectIf_of long, if_pos long]
              exact .inl ⟨_, rfl, rfl⟩
            · rw [rejectIf_of_not long, ok_bind, if_neg long]
              exact .inr (.inr ⟨_, rfl, rfl, rfl⟩)

theorem name_raising (packet : Packet) (offset : Nat) :
    name packet offset = raising (NativeDNS.name packet offset) := by
  have loop : ∀ (left : Nat) (cursor : NameCursor), cursor.hops + left = maxHops →
      passes (nameCheck packet) (namePass packet) left cursor =
        raising (cursor.decode packet left) := by
    refine passes_raising ?_ ?_
    · intro cursor spent
      exact ⟨nameChain, rejectIf_of (.inr (by omega)), rfl⟩
    · intro left cursor spent
      by_cases outside : cursor.position ≥ packet.length
      · refine .inl ⟨nameChain, rejectIf_of (.inl outside), ?_⟩
        rw [NameCursor.decode, nameLoop, if_pos outside]
        rfl
      · refine .inr ⟨rejectIf_of_not (by omega), ?_⟩
        exact (namePass_follows (by omega)).mono (fun next counted => by omega)
  exact loop maxHops _ (Nat.zero_add _)

/-! ### Questions and requests -/

def parseQuestion (packet : Packet) : Guarded Error Question := do
  rejectIf (packet.length < 12 ∨ packet.length > 65535)
    (.raised (malformed "Expected one DNS question and bounded header"))
  let count ← word packet 4
  rejectIf (count ≠ 1)
    (.raised (malformed "Expected one DNS question and bounded header"))
  let id ← word packet 0
  let flags ← word packet 2
  rejectIf (flags &&& 0x7800 ≠ 0)
    (.raised (.of "DNS_OPCODE" "Only standard DNS queries are supported"))
  let (decoded, next) ← name packet 12
  let type ← word packet next
  let klass ← word packet (next + 2)
  pure
    { id := id
      flags := flags
      type := type
      klass := klass
      name := decoded
      «end» := next + 4 }

theorem parseQuestion_raising (packet : Packet) :
    parseQuestion packet = raising (NativeDNS.parseQuestion packet) := by
  unfold parseQuestion NativeDNS.parseQuestion
  simp only [← or_assoc]
  refine rejectIf_or_raising ?_
  intro sized
  rw [word_raising, word_of_le (by omega), raising_ok, ok_bind]
  refine rejectIf_raising ?_
  intro single
  refine bind_raising (word_raising ..) fun id _ => ?_
  refine bind_raising (word_raising ..) fun flags _ => ?_
  refine rejectIf_raising fun standard => ?_
  refine bind_raising (name_raising ..) fun decoded _ => ?_
  refine bind_raising (word_raising ..) fun type _ => ?_
  exact bind_raising (word_raising ..) fun klass _ => rfl

def ednsStep (request : Packet) (boundary index : Nat) :
    Nat × EdnsRequest → Guarded Error (Nat × EdnsRequest)
  | (position, edns) => do
      let (owner, position) ← name request position
      let type ← word request position
      let klass ← word request (position + 2)
      let length ← word request (position + 8)
      let left ← minus request.length position
      rejectIf (left < 10) (.raised (malformed "Truncated DNS record"))
      let left ← minus request.length (position + 10)
      rejectIf (length > left) (.raised (malformed "Truncated DNS record"))
      if type = 41 then do
        rejectIf (edns.present = true ∨ owner ≠ [] ∨ index < boundary)
          (.raised (malformed "Invalid OPT record"))
        let flags ← readAt request (position + 6)
        pure (position + 10 + length,
          { present := true
            doBit := flags &&& 0x80 != 0
            payload := clampPayload klass })
      else pure (position + 10 + length, edns)

theorem ednsStep_raising (request : Packet) (boundary index : Nat)
    (state : Nat × EdnsRequest) :
    ednsStep request boundary index state =
      raising (NativeDNS.ednsStep request boundary index state) := by
  obtain ⟨position, edns⟩ := state
  unfold ednsStep NativeDNS.ednsStep
  refine bind_raising (name_raising ..) ?_
  rintro ⟨owner, position⟩ decoded
  have before := name_next_le decoded
  refine bind_raising (word_raising ..) fun type _ => ?_
  refine bind_raising (word_raising ..) fun klass _ => ?_
  refine bind_raising (word_raising ..) fun length _ => ?_
  rw [minus_of_le before, ok_bind]
  refine rejectIf_or_raising fun header => ?_
  rw [minus_of_le (by omega), ok_bind]
  refine rejectIf_raising fun fits => ?_
  by_cases opt : type = 41
  · rw [if_pos opt, if_pos opt]
    refine rejectIf_raising fun valid => ?_
    rw [readByte (by omega), ok_bind]
    rfl
  · rw [if_neg opt, if_neg opt]
    rfl

def ednsRequest (request : Packet) (question : Question) :
    Guarded Error EdnsRequest := do
  let answers ← word request 6
  let authority ← word request 8
  let additional ← word request 10
  rejectIf (answers + authority + additional > 4096)
    (.raised (malformed "Too many DNS records"))
  let (position, edns) ←
    repeatFrom (ednsStep request (answers + authority))
      (answers + authority + additional) 0 (question.end, {})
  rejectIf (position ≠ request.length)
    (.raised (malformed "Unexpected bytes after DNS records"))
  pure edns

theorem ednsRequest_raising (request : Packet) (question : Question) :
    ednsRequest request question =
      raising (NativeDNS.ednsRequest request question) := by
  unfold ednsRequest NativeDNS.ednsRequest
  refine bind_raising (word_raising ..) fun answers _ => ?_
  refine bind_raising (word_raising ..) fun authority _ => ?_
  refine bind_raising (word_raising ..) fun additional _ => ?_
  refine rejectIf_raising fun counted => ?_
  refine bind_raising (repeatFrom_raising (ednsStep_raising request _) ..) ?_
  rintro ⟨position, edns⟩ _
  exact rejectIf_raising fun _ => rfl

/-! ### Replies made from a request -/

def writeHeader (response : Packet) (flags : Nat) : Guarded Error Packet := do
  let response ← writeAt response 2 (UInt8.ofNat (flags >>> 8))
  let response ← writeAt response 3 (UInt8.ofNat flags)
  let response ← writeAt response 4 0
  let response ← writeAt response 5 1
  repeatFrom (fun index response => writeAt response index 0) 6 6 response

theorem exists_header : ∀ {packet : Packet}, 12 ≤ packet.length →
    ∃ b0 b1 b2 b3 b4 b5 b6 b7 b8 b9 b10 b11 rest,
      packet = b0 :: b1 :: b2 :: b3 :: b4 :: b5 :: b6 :: b7 :: b8 :: b9 ::
        b10 :: b11 :: rest
  | b0 :: b1 :: b2 :: b3 :: b4 :: b5 :: b6 :: b7 :: b8 :: b9 :: b10 :: b11 ::
      rest, _ => ⟨b0, b1, b2, b3, b4, b5, b6, b7, b8, b9, b10, b11, rest, rfl⟩

theorem writeHeader_of_le {response : Packet} {flags : Nat}
    (long : 12 ≤ response.length) :
    writeHeader response flags =
      .ok (slice response 0 2 ++ wordBytes flags ++ [0, 1, 0, 0, 0, 0, 0, 0] ++
        response.drop 12) := by
  obtain ⟨b0, b1, b2, b3, b4, b5, b6, b7, b8, b9, b10, b11, rest, rfl⟩ :=
    exists_header long
  unfold writeHeader
  simp only [writeAt, repeatFrom_succ, repeatFrom_zero, List.length_cons,
    List.set_cons_succ, List.set_cons_zero, Nat.reduceAdd, Nat.zero_lt_succ,
    Nat.succ_lt_succ_iff, if_true, ok_bind]
  rfl

def syntheticResponse (request : Packet) (rcode : Nat) (zero : Bool) :
    Guarded Error Packet := do
  rejectIf (rcode > 15)
    (.raised (malformed "DNS response code is out of range"))
  let question ← parseQuestion request
  rejectIf (question.flags &&& 0x8000 ≠ 0)
    (.raised (malformed "Expected query, not response"))
  let edns ← ednsRequest request question
  let response ← readSpan request 0 question.end
  let response ← writeHeader response (syntheticFlags question.flags rcode)
  let response ←
    if answersZero zero question then do
      let response ← writeAt response 7 1
      pure (response ++ zeroRecord question.type)
    else pure response
  if edns.present then do
    let response ← writeAt response 11 1
    pure (response ++ optRecord edns)
  else pure response

theorem syntheticResponse_raising (request : Packet) (rcode : Nat) (zero : Bool) :
    syntheticResponse request rcode zero =
      raising (NativeDNS.syntheticResponse request rcode zero) := by
  unfold syntheticResponse NativeDNS.syntheticResponse
  refine rejectIf_raising fun _ => ?_
  refine bind_raising (parseQuestion_raising _) fun question parsed => ?_
  refine rejectIf_raising fun _ => ?_
  refine bind_raising (ednsRequest_raising ..) fun edns _ => ?_
  have parts := parseQuestion_eq_ok.mp parsed
  have long := parts.end_ge
  have fits := parts.fits
  rw [readSpan_of_le (by omega), ok_bind,
    writeHeader_of_le (by rw [List.length_take, List.length_drop]; omega), ok_bind]
  have front : slice ((request.drop 0).take question.end) 0 2 =
      [byteAt request 0, byteAt request 1] := by
    obtain ⟨b0, b1, b2, b3, b4, b5, b6, b7, b8, b9, b10, b11, rest, rfl⟩ :=
      @exists_header request (by omega)
    obtain ⟨last, lastEq⟩ := Nat.exists_eq_add_of_le (show 12 ≤ question.end by omega)
    rw [lastEq, Nat.add_comm]
    rfl
  have back : ((request.drop 0).take question.end).drop 12 =
      slice request 12 (question.end - 12) := by
    unfold slice
    rw [List.drop_zero, List.drop_take]
  rw [front, back]
  unfold syntheticPacket syntheticHeader
  cases answersZero zero question <;> cases edns.present <;>
    simp only [wordBytes, writeAt, List.cons_append, List.nil_append,
      List.length_cons, List.set_cons_succ, List.set_cons_zero,
      Nat.zero_lt_succ, Nat.succ_lt_succ_iff, Bool.false_eq_true, if_false,
      if_true, pure_eq_ok, ok_bind, raising_ok, List.append_nil,
      List.append_assoc]

def clientUdpPayloadSize (request : Packet) : Guarded Error Nat := do
  let question ← parseQuestion request
  rejectIf (question.flags &&& 0x8000 ≠ 0)
    (.raised (malformed "Expected query, not response"))
  let edns ← ednsRequest request question
  pure (if edns.present then edns.payload else 512)

theorem clientUdpPayloadSize_raising (request : Packet) :
    clientUdpPayloadSize request =
      raising (NativeDNS.clientUdpPayloadSize request) := by
  unfold clientUdpPayloadSize NativeDNS.clientUdpPayloadSize
  refine bind_raising (parseQuestion_raising _) fun question _ => ?_
  refine rejectIf_raising fun _ => ?_
  exact bind_raising (ednsRequest_raising ..) fun edns _ => rfl

def mismatch : Error :=
  .of "DNS_MISMATCH" "DNS response does not match request"

def fitUdpResponse (request response : Packet) : Guarded Error Packet := do
  let limit ← clientUdpPayloadSize request
  if response.length ≤ limit then pure response
  else do
    let expected ← parseQuestion request
    let actual ← parseQuestion response
    rejectIf (¬ AnswersQuestion actual expected) (.raised mismatch)
    let truncated ← readSpan response 0 actual.end
    let flags ← word response 2
    writeHeader truncated (flags ||| 0x0200)

theorem fitUdpResponse_raising (request response : Packet) :
    fitUdpResponse request response =
      raising (NativeDNS.fitUdpResponse request response) := by
  unfold fitUdpResponse NativeDNS.fitUdpResponse
  refine bind_raising (clientUdpPayloadSize_raising _) fun limit _ => ?_
  by_cases small : response.length ≤ limit
  · rw [if_pos small, if_pos small]
    rfl
  · rw [if_neg small, if_neg small]
    refine bind_raising (parseQuestion_raising _) fun expected _ => ?_
    refine bind_raising (parseQuestion_raising _) fun actual parsed => ?_
    refine rejectIf_raising fun _ => ?_
    have parts := parseQuestion_eq_ok.mp parsed
    have long := parts.end_ge
    have fits := parts.fits
    rw [readSpan_of_le (by omega), ok_bind, word_raising, word_of_le (by omega),
      raising_ok, ok_bind,
      writeHeader_of_le (by rw [List.length_take, List.length_drop]; omega)]
    unfold truncatedReply slice
    rw [List.drop_zero, List.take_take, List.drop_take,
      Nat.min_eq_left (by omega)]
    rfl

/-! ### Replies -/

def readRecord (packet : Packet) (position : Nat) : Guarded Error Record := do
  let (owner, header) ← name packet position
  let type ← word packet header
  let klass ← word packet (header + 2)
  let length ← word packet (header + 8)
  let ttl ← dword packet (header + 4)
  let left ← minus packet.length header
  rejectIf (left < 10) (.raised (malformed "Short DNS record header"))
  let left ← minus packet.length (header + 10)
  rejectIf (length > left) (.raised (malformed "Short DNS record data"))
  rejectIf ((type = 1 ∧ length ≠ 4) ∨ (type = 28 ∧ length ≠ 16))
    (.raised (malformed "Invalid address record length"))
  pure
    { owner := owner
      header := header
      type := type
      klass := klass
      ttl := ttl
      length := length }

theorem readRecord_raising (packet : Packet) (position : Nat) :
    readRecord packet position = raising (NativeDNS.readRecord packet position) := by
  unfold readRecord NativeDNS.readRecord
  refine bind_raising (name_raising ..) ?_
  rintro ⟨owner, header⟩ decoded
  have before := name_next_le decoded
  refine bind_raising (word_raising ..) fun type _ => ?_
  refine bind_raising (word_raising ..) fun klass _ => ?_
  refine bind_raising (word_raising ..) fun length _ => ?_
  refine bind_raising (dword_raising ..) fun ttl _ => ?_
  rw [minus_of_le before, ok_bind]
  refine rejectIf_raising fun whole => ?_
  rw [minus_of_le (by omega), ok_bind]
  refine rejectIf_raising fun fits => ?_
  exact rejectIf_raising fun sized => rfl

def scanData (platform : Platform) (packet : Packet) (expected : Question)
    (answers authority index : Nat) (record : Record) (scan : ResponseScan) :
    Guarded Error ResponseScan :=
  if isRequestedAddress expected answers index record then do
    let address ← readSpan packet record.data (if record.type = 28 then 16 else 4)
    pure
      { scan with
        addresses := scan.addresses ++
          [(record.owner, platform.formatIp address (decide (record.type = 28)))] }
  else if isNameRecord record then do
    let (target, next) ← name packet record.data
    rejectIf (next ≠ record.data + record.length)
      (.raised (malformed "Invalid name record length"))
    if record.type = 5 ∧ record.klass = 1 ∧ index < answers then
      pure { scan with aliases := scan.aliases.insert record.owner target }
    else pure scan
  else if record.type = 41 then do
    rejectIf
      (scan.optSeen = true ∨ record.owner ≠ [] ∨ index < answers + authority)
      (.raised (malformed "Invalid OPT record"))
    let extended ← readAt packet (record.header + 4)
    pure
      { scan with
        optSeen := true
        rcode := scan.rcode ||| extended.toNat <<< 4 }
  else pure scan

theorem scanData_raising {platform : Platform} {packet : Packet}
    {expected : Question} {answers authority index position : Nat}
    {record : Record} {scan : ResponseScan}
    (read : NativeDNS.readRecord packet position = .ok record) :
    scanData platform packet expected answers authority index record scan =
      raising (NativeDNS.scanData platform packet expected answers authority index
        record scan) := by
  obtain ⟨here, sized⟩ := readRecord_eq_ok.mp read
  have fits := here.fits
  unfold Record.end at fits
  unfold scanData NativeDNS.scanData
  by_cases requested : isRequestedAddress expected answers index record = true
  · rw [if_pos requested, if_pos requested]
    have length : (if record.type = 28 then 16 else 4) = record.length := by
      simp only [isRequestedAddress, Bool.and_eq_true, Bool.or_eq_true,
        decide_eq_true_eq] at requested
      unfold Record.WellSized at sized
      split <;> omega
    rw [length, readSpan_of_le (by unfold Record.data; omega), ok_bind]
    rfl
  · rw [if_neg requested, if_neg requested]
    by_cases named : isNameRecord record = true
    · rw [if_pos named, if_pos named]
      refine bind_raising (name_raising ..) fun target _ => ?_
      refine rejectIf_raising fun _ => ?_
      split <;> rfl
    · rw [if_neg named, if_neg named]
      by_cases opt : record.type = 41
      · rw [if_pos opt, if_pos opt]
        refine rejectIf_raising fun _ => ?_
        rw [readByte (by omega), ok_bind]
        rfl
      · rw [if_neg opt, if_neg opt]
        rfl

def scanSoa (packet : Packet) (expected : Question)
    (answers authority index : Nat) (record : Record) (scan : ResponseScan) :
    Guarded Error ResponseScan :=
  if isNegativeSoa expected answers authority index record then do
    let (_, soa) ← name packet record.data
    let (_, soa) ← name packet soa
    rejectIf (soa > record.data + record.length)
      (.raised (malformed "Invalid SOA record length"))
    let left ← minus (record.data + record.length) soa
    rejectIf (left ≠ 20) (.raised (malformed "Invalid SOA record length"))
    let minimum ← dword packet (soa + 16)
    pure
      { scan with
        negativeTtl := min scan.negativeTtl (min record.ttl minimum) }
  else pure scan

theorem scanSoa_raising (packet : Packet) (expected : Question)
    (answers authority index : Nat) (record : Record) (scan : ResponseScan) :
    scanSoa packet expected answers authority index record scan =
      raising (NativeDNS.scanSoa packet expected answers authority index record
        scan) := by
  unfold scanSoa NativeDNS.scanSoa
  by_cases negative : isNegativeSoa expected answers authority index record = true
  · rw [if_pos negative, if_pos negative]
    refine bind_raising (name_raising ..) fun _ _ => ?_
    refine bind_raising (name_raising ..) fun _ _ => ?_
    refine rejectIf_or_raising fun inside => ?_
    rw [minus_of_le (by omega), ok_bind]
    refine rejectIf_raising fun _ => ?_
    exact bind_raising (dword_raising ..) fun minimum _ => rfl
  · rw [if_neg negative, if_neg negative]
    rfl

def responseStep (platform : Platform) (packet : Packet) (expected : Question)
    (answers authority index : Nat) :
    Nat × ResponseScan → Guarded Error (Nat × ResponseScan)
  | (position, scan) => do
      let record ← readRecord packet position
      let scan ←
        scanData platform packet expected answers authority index record scan
      let scan := scanLifetime expected answers index record scan
      let scan ← scanSoa packet expected answers authority index record scan
      pure (record.end, scan)

theorem responseStep_raising (platform : Platform) (packet : Packet)
    (expected : Question) (answers authority index : Nat)
    (state : Nat × ResponseScan) :
    responseStep platform packet expected answers authority index state =
      raising (NativeDNS.responseStep platform packet expected answers authority
        index state) := by
  obtain ⟨position, scan⟩ := state
  unfold responseStep NativeDNS.responseStep
  refine bind_raising (readRecord_raising ..) fun record read => ?_
  refine bind_raising (scanData_raising read) fun noted _ => ?_
  exact bind_raising (scanSoa_raising ..) fun _ _ => rfl

def parseResponse (platform : Platform) (packet : Packet)
    (expected : Question) : Guarded Error DnsAnswer := do
  let question ← parseQuestion packet
  rejectIf (¬ AnswersQuestion question expected) (.raised mismatch)
  let authenticatedData := decide (question.flags &&& 0x0020 ≠ 0)
  if question.flags &&& 0x0200 ≠ 0 then
    pure
      { rcode := question.flags &&& 15
        truncated := true
        authenticatedData := authenticatedData }
  else do
    let answers ← word packet 6
    let authority ← word packet 8
    let additional ← word packet 10
    rejectIf (answers + authority + additional > 4096)
      (.raised (malformed "Too many DNS records"))
    let (position, scan) ←
      repeatFrom (responseStep platform packet expected answers authority)
        (answers + authority + additional) 0
        (question.end, { rcode := question.flags &&& 15 })
    rejectIf (position ≠ packet.length)
      (.raised (malformed "Unexpected bytes after DNS records"))
    let reachable ← raising
      (followAliases scan.aliases (scan.aliases.size + 1) expected.name
        [expected.name])
    pure (finishAnswer expected authenticatedData scan reachable)

theorem parseResponse_raising (platform : Platform) (packet : Packet)
    (expected : Question) :
    parseResponse platform packet expected =
      raising (NativeDNS.parseResponse platform packet expected) := by
  unfold parseResponse NativeDNS.parseResponse scanResponse
  refine bind_raising (parseQuestion_raising _) fun question _ => ?_
  refine rejectIf_raising fun _ => ?_
  dsimp only
  by_cases truncated : question.flags &&& 0x0200 ≠ 0
  · rw [if_pos truncated, if_pos truncated]
    rfl
  · rw [if_neg truncated, if_neg truncated]
    simp only [bind_assoc]
    refine bind_raising (word_raising ..) fun answers _ => ?_
    refine bind_raising (word_raising ..) fun authority _ => ?_
    refine bind_raising (word_raising ..) fun additional _ => ?_
    refine rejectIf_raising fun _ => ?_
    refine bind_raising
      (repeatFrom_raising (responseStep_raising platform packet expected _ _) ..) ?_
    rintro ⟨position, scan⟩ _
    refine rejectIf_raising fun _ => ?_
    exact bind_raising rfl fun _ _ => rfl

/-! ### Lifetimes -/

def clampOffsets (packet : Packet) :
    Nat → Nat → Guarded Error (Option (List Nat))
  | 0, _ => pure (some [])
  | left + 1, position => do
      let (_, position) ← name packet position
      let type ← word packet position
      let length ← word packet (position + 8)
      if type = 46 ∨ type = 249 ∨ type = 250 then pure none
      else do
        let rest ← clampOffsets packet left (position + 10 + length)
        pure (rest.map (fun offsets =>
          if type ≠ 41 then (position + 4) :: offsets else offsets))

theorem clampOffsets_raising {packet : Packet} :
    ∀ left position : Nat,
      clampOffsets packet left position =
        raising (NativeDNS.clampOffsets packet left position)
  | 0, _ => rfl
  | left + 1, position => by
      unfold clampOffsets NativeDNS.clampOffsets
      refine bind_raising (name_raising ..) ?_
      rintro ⟨_, position⟩ _
      refine bind_raising (word_raising ..) fun type _ => ?_
      refine bind_raising (word_raising ..) fun length _ => ?_
      by_cases signed : type = 46 ∨ type = 249 ∨ type = 250
      · rw [if_pos signed, if_pos signed]
        rfl
      · rw [if_neg signed, if_neg signed]
        exact bind_raising (clampOffsets_raising ..) fun _ _ => rfl

def clampDnsTtl (platform : Platform) (response : Packet)
    (minimum maximum : Nat) : Guarded Error Packet := do
  rejectIf (minimum > maximum)
    (.raised (.of "CONFIG_SETTING" "TTL minimum must not exceed maximum"))
  let question ← parseQuestion response
  let parsed ← parseResponse platform response question
  if parsed.truncated || parsed.authenticatedData then pure response
  else do
    let answers ← word response 6
    let authority ← word response 8
    let additional ← word response 10
    let found ←
      clampOffsets response (answers + authority + additional) question.end
    match found with
    | none => pure response
    | some offsets =>
        offsets.foldlM
          (fun result offset => do
            let ttl ← dword result offset
            putDword result offset (max minimum (min ttl maximum)))
          response

theorem clampDnsTtl_raising (platform : Platform) (response : Packet)
    (minimum maximum : Nat) :
    clampDnsTtl platform response minimum maximum =
      raising (NativeDNS.clampDnsTtl platform response minimum maximum) := by
  unfold clampDnsTtl NativeDNS.clampDnsTtl
  refine rejectIf_raising fun _ => ?_
  refine bind_raising (parseQuestion_raising _) fun question _ => ?_
  refine bind_raising (parseResponse_raising ..) fun parsed _ => ?_
  by_cases kept : (parsed.truncated || parsed.authenticatedData) = true
  · rw [if_pos kept, if_pos kept]
    rfl
  · rw [if_neg kept, if_neg kept]
    refine bind_raising (word_raising ..) fun answers _ => ?_
    refine bind_raising (word_raising ..) fun authority _ => ?_
    refine bind_raising (word_raising ..) fun additional _ => ?_
    refine bind_raising (clampOffsets_raising ..) fun found _ => ?_
    cases found with
    | none =>
        rfl
    | some offsets =>
        refine foldlM_raising (fun result offset => ?_) offsets response
        refine bind_raising (dword_raising ..) fun ttl read => ?_
        exact putDword_of_le (dword_eq_ok.mp read).1

def agedTtl (ttl elapsedSeconds : Nat) : Guarded Error Nat :=
  if ttl > elapsedSeconds then minus ttl elapsedSeconds else pure 0

theorem agedTtl_eq (ttl elapsedSeconds : Nat) :
    agedTtl ttl elapsedSeconds = .ok (ttl - elapsedSeconds) := by
  unfold agedTtl
  split
  · exact minus_of_le (by omega)
  · rw [Nat.sub_eq_zero_of_le (by omega)]
    rfl

def ageStep (elapsedSeconds _index : Nat) :
    Nat × Packet → Guarded Error (Nat × Packet)
  | (position, result) => do
      let (_, position) ← name result position
      let type ← word result position
      let length ← word result (position + 8)
      let left ← minus result.length position
      rejectIf (left < 10) (.raised (malformed "Truncated cached record"))
      let left ← minus result.length (position + 10)
      rejectIf (length > left) (.raised (malformed "Truncated cached record"))
      if type ≠ 41 then do
        let ttl ← dword result (position + 4)
        let aged ← agedTtl ttl elapsedSeconds
        let result ← putDword result (position + 4) aged
        pure (position + 10 + length, result)
      else pure (position + 10 + length, result)

theorem ageStep_raising (elapsedSeconds index : Nat) (state : Nat × Packet) :
    ageStep elapsedSeconds index state =
      raising (NativeDNS.ageStep elapsedSeconds index state) := by
  obtain ⟨position, result⟩ := state
  unfold ageStep NativeDNS.ageStep
  refine bind_raising (name_raising ..) ?_
  rintro ⟨_, position⟩ decoded
  have before := name_next_le decoded
  refine bind_raising (word_raising ..) fun type _ => ?_
  refine bind_raising (word_raising ..) fun length _ => ?_
  rw [minus_of_le before, ok_bind]
  refine rejectIf_or_raising fun header => ?_
  rw [minus_of_le (by omega), ok_bind]
  refine rejectIf_raising fun fits => ?_
  by_cases aging : type ≠ 41
  · rw [if_pos aging, if_pos aging]
    refine bind_raising (dword_raising ..) fun ttl read => ?_
    rw [agedTtl_eq, ok_bind, putDword_of_le (dword_eq_ok.mp read).1, ok_bind]
    rfl
  · rw [if_neg aging, if_neg aging]
    rfl

def ageDnsResponse (response : Packet) (transactionId elapsedSeconds : Nat) :
    Guarded Error Packet := do
  let question ← parseQuestion response
  rejectIf (question.flags &&& 0x8000 = 0)
    (.raised (malformed "Expected cached response"))
  let result ← writeAt response 0 (UInt8.ofNat (transactionId >>> 8))
  let result ← writeAt result 1 (UInt8.ofNat transactionId)
  let answers ← word result 6
  let authority ← word result 8
  let additional ← word result 10
  rejectIf (answers + authority + additional > 4096)
    (.raised (malformed "Too many DNS records"))
  let (position, result) ←
    repeatFrom (ageStep elapsedSeconds) (answers + authority + additional) 0
      (question.end, result)
  rejectIf (position ≠ result.length)
    (.raised (malformed "Unexpected bytes after cached response"))
  pure result

theorem ageDnsResponse_raising (response : Packet)
    (transactionId elapsedSeconds : Nat) :
    ageDnsResponse response transactionId elapsedSeconds =
      raising (NativeDNS.ageDnsResponse response transactionId elapsedSeconds) := by
  unfold ageDnsResponse NativeDNS.ageDnsResponse
  refine bind_raising (parseQuestion_raising _) fun question parsed => ?_
  have header := (parseQuestion_eq_ok.mp parsed).header
  refine rejectIf_raising fun _ => ?_
  rw [writeAt_of_lt (by omega), ok_bind,
    writeAt_of_lt (by rw [List.length_set]; omega), ok_bind]
  refine bind_raising (word_raising ..) fun answers _ => ?_
  refine bind_raising (word_raising ..) fun authority _ => ?_
  refine bind_raising (word_raising ..) fun additional _ => ?_
  refine rejectIf_raising fun _ => ?_
  refine bind_raising (repeatFrom_raising (ageStep_raising elapsedSeconds) ..) ?_
  rintro ⟨position, result⟩ _
  exact rejectIf_raising fun _ => rfl

end Direct

/-- Whatever the bytes and the arguments, the packet functions end in a value or
in an error of their own: they index, write and cut inside their packets only,
subtract no offset from a smaller size, and decode a name within 128 passes. -/
theorem packetFunctions_inRange (platform : Platform) (packet response : Packet)
    (offset rcode minimum maximum transactionId elapsedSeconds : Nat) (zero : Bool)
    (question : Question) :
    Meets (Direct.name packet offset) (name packet offset) ∧
    Meets (Direct.ednsRequest packet question) (ednsRequest packet question) ∧
    Meets (Direct.parseResponse platform packet question)
      (parseResponse platform packet question) ∧
    Meets (Direct.syntheticResponse packet rcode zero)
      (syntheticResponse packet rcode zero) ∧
    Meets (Direct.fitUdpResponse packet response) (fitUdpResponse packet response) ∧
    Meets (Direct.clampDnsTtl platform packet minimum maximum)
      (clampDnsTtl platform packet minimum maximum) ∧
    Meets (Direct.ageDnsResponse packet transactionId elapsedSeconds)
      (ageDnsResponse packet transactionId elapsedSeconds) :=
  ⟨meets_of_eq (Direct.name_raising ..),
    meets_of_eq (Direct.ednsRequest_raising ..),
    meets_of_eq (Direct.parseResponse_raising ..),
    meets_of_eq (Direct.syntheticResponse_raising ..),
    meets_of_eq (Direct.fitUdpResponse_raising ..),
    meets_of_eq (Direct.clampDnsTtl_raising ..),
    meets_of_eq (Direct.ageDnsResponse_raising ..)⟩

end NativeDNS
