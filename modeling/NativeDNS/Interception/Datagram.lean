/-
Replies to intercepted UDP queries as datagrams.

The reply is built over a copy of the captured headers.  Everything a receiver
checks is established for it: the lengths, the exchanged ends, the payload and
both checksums.
-/
import NativeDNS.Interception.Sealing

namespace NativeDNS

open OnesComplement
open CheckedResult

def sourceBytes (packet : Packet) (ipv6 : Bool) : Packet :=
  if ipv6 then slice packet 8 16 else slice packet 12 4

/-- The header bytes a reply does not keep: the length, the IPv4 checksum and
the addresses. -/
def EditedByte (ipv6 : Bool) (position : Nat) : Prop :=
  if ipv6 then
    (4 ≤ position ∧ position < 6) ∨ (8 ≤ position ∧ position < 40)
  else
    (2 ≤ position ∧ position < 4) ∨ (10 ≤ position ∧ position < 20)

/-! ### Exchanged ends -/

private theorem slice_ext {left right : Packet} {first second count : Nat}
    (leftWithin : first + count ≤ left.length)
    (rightWithin : second + count ≤ right.length)
    (same : ∀ index < count,
      byteAt left (first + index) = byteAt right (second + index)) :
    slice left first count = slice right second count := by
  apply List.ext_getElem?
  intro index
  by_cases inside : index < count
  · rw [slice_getElem? leftWithin inside, slice_getElem? rightWithin inside,
      same index inside]
  · rw [List.getElem?_eq_none (by rw [slice_length leftWithin]; omega),
      List.getElem?_eq_none (by rw [slice_length rightWithin]; omega)]

/-- A packet whose address bytes come from exchanged positions has the
addresses exchanged. -/
theorem addresses_exchanged {ipv6 : Bool} {packet captured : Packet}
    (within : (if ipv6 then 40 else 20) ≤ packet.length)
    (capturedWithin : (if ipv6 then 40 else 20) ≤ captured.length)
    (moved : ∀ position, (if ipv6 then 8 else 12) ≤ position →
      position < (if ipv6 then 40 else 20) →
        byteAt packet position =
          byteAt captured (exchangedOffset ipv6 position)) :
    sourceBytes packet ipv6 = destinationBytes captured ipv6 ∧
      destinationBytes packet ipv6 = sourceBytes captured ipv6 := by
  unfold sourceBytes destinationBytes
  cases ipv6 with
  | false =>
      simp only [Bool.false_eq_true, if_false] at within capturedWithin moved ⊢
      constructor
      · apply slice_ext (by omega) (by omega)
        intro index inside
        rw [moved (12 + index) (by omega) (by omega)]
        congr 1
        unfold exchangedOffset
        rw [if_neg Bool.false_ne_true, if_pos (by omega)]
        omega
      · apply slice_ext (by omega) (by omega)
        intro index inside
        rw [moved (16 + index) (by omega) (by omega)]
        congr 1
        unfold exchangedOffset
        rw [if_neg Bool.false_ne_true, if_neg (by omega), if_pos (by omega)]
        omega
  | true =>
      simp only [if_true] at within capturedWithin moved ⊢
      constructor
      · apply slice_ext (by omega) (by omega)
        intro index inside
        rw [moved (8 + index) (by omega) (by omega)]
        congr 1
        unfold exchangedOffset
        rw [if_pos rfl, if_pos (by omega)]
        omega
      · apply slice_ext (by omega) (by omega)
        intro index inside
        rw [moved (24 + index) (by omega) (by omega)]
        congr 1
        unfold exchangedOffset
        rw [if_pos rfl, if_neg (by omega), if_pos (by omega)]
        omega

theorem exchangedOffset_of_unedited {ipv6 : Bool} {position : Nat}
    (unedited : ¬ EditedByte ipv6 position) :
    exchangedOffset ipv6 position = position := by
  unfold EditedByte at unedited
  unfold exchangedOffset
  cases ipv6 with
  | false =>
      simp only [Bool.false_eq_true, if_false] at unedited ⊢
      rw [if_neg (by omega), if_neg (by omega)]
  | true =>
      simp only [if_true] at unedited ⊢
      rw [if_neg (by omega), if_neg (by omega)]

/-! ### The copy with its length field -/

section Readdressed

variable {view : UdpView} {captured dnsResponse : Packet}

/-- The captured headers over the answer, with the length of the whole. -/
def measuredCopy (view : UdpView) (captured dnsResponse : Packet) : Packet :=
  let result := captured.take view.payload ++ dnsResponse
  if view.ipv6 then putWord result 4 (result.length - 40)
  else putWord result 2 result.length

theorem measuredCopy_length (viewed : UdpViewed captured view) :
    (measuredCopy view captured dnsResponse).length =
      view.payload + dnsResponse.length := by
  have fits := viewed.fits
  have front : (captured.take view.payload).length = view.payload := by
    rw [List.length_take]
    omega
  unfold measuredCopy
  split <;> rw [putWord_length, List.length_append, front]

theorem measuredCopy_lengthField (viewed : UdpViewed captured view)
    (small : view.payload + dnsResponse.length ≤ 65535) :
    LengthField view.ipv6 (measuredCopy view captured dnsResponse) := by
  have behind := viewed.behind
  have fits := viewed.fits
  have payloadEq := viewed.payloadEq
  have whole : (captured.take view.payload ++ dnsResponse).length =
      view.payload + dnsResponse.length := by
    rw [List.length_append, List.length_take]
    omega
  unfold LengthField
  rw [measuredCopy_length viewed]
  unfold measuredCopy
  split
  · rename_i six
    rw [if_pos six] at behind
    rw [wordAt_putWord (by omega) (by omega), whole]
    omega
  · rw [wordAt_putWord (by omega) (by omega), whole]

theorem byteAt_measuredCopy {position : Nat} (inside : position < view.payload)
    (within : view.payload ≤ captured.length)
    (unwritten : ¬ (if view.ipv6 then 4 ≤ position ∧ position < 6
      else 2 ≤ position ∧ position < 4)) :
    byteAt (measuredCopy view captured dnsResponse) position =
      byteAt captured position := by
  have front : byteAt (captured.take view.payload ++ dnsResponse) position =
      byteAt captured position := by
    rw [byteAt_append_left (by rw [List.length_take]; omega)]
    unfold byteAt
    rw [List.getD_eq_getElem?_getD, List.getElem?_take_of_lt inside,
      List.getD_eq_getElem?_getD]
  unfold measuredCopy
  split
  · rename_i six
    rw [if_pos six] at unwritten
    rw [byteAt_putWord_of_outside (by omega), front]
  · rename_i four
    rw [if_neg four] at unwritten
    rw [byteAt_putWord_of_outside (by omega), front]

/-! ### The copy with its ends exchanged -/

def exchangedCopy (view : UdpView) (captured dnsResponse : Packet) : Packet :=
  exchangePorts view.udp
    (exchangeAddresses view.ipv6 (measuredCopy view captured dnsResponse))

theorem exchangedCopy_length (viewed : UdpViewed captured view) :
    (exchangedCopy view captured dnsResponse).length =
      view.payload + dnsResponse.length := by
  unfold exchangedCopy
  rw [exchangePorts_length, exchangeAddresses_length,
    measuredCopy_length viewed]

theorem byteAt_exchangedCopy (viewed : UdpViewed captured view)
    (position : Nat) :
    byteAt (exchangedCopy view captured dnsResponse) position =
      byteAt (measuredCopy view captured dnsResponse)
        (exchangedOffset view.ipv6
          (if position = view.udp ∨ position = view.udp + 1 then position + 2
          else if position = view.udp + 2 ∨ position = view.udp + 3 then
            position - 2
          else position)) := by
  have behind := viewed.behind
  have payloadEq := viewed.payloadEq
  have length := @measuredCopy_length view captured dnsResponse viewed
  unfold exchangedCopy
  rw [byteAt_exchangePorts (by rw [exchangeAddresses_length]; omega),
    byteAt_exchangeAddresses (by omega)]

theorem byteAt_exchangedCopy_header (viewed : UdpViewed captured view)
    {position : Nat} (inside : position < view.udp) :
    byteAt (exchangedCopy view captured dnsResponse) position =
      byteAt (measuredCopy view captured dnsResponse)
        (exchangedOffset view.ipv6 position) := by
  rw [byteAt_exchangedCopy viewed, if_neg (by omega), if_neg (by omega)]

theorem byteAt_exchangedCopy_port (viewed : UdpViewed captured view)
    {position : Nat} (lower : view.udp ≤ position)
    (upper : position < view.udp + 4) :
    byteAt (exchangedCopy view captured dnsResponse) position =
      byteAt captured (if position < view.udp + 2 then position + 2
        else position - 2) := by
  have behind := viewed.behind
  have fits := viewed.fits
  have payloadEq := viewed.payloadEq
  rw [byteAt_exchangedCopy viewed]
  generalize other : (if position = view.udp ∨ position = view.udp + 1 then
      position + 2
    else if position = view.udp + 2 ∨ position = view.udp + 3 then position - 2
    else position) = moved
  have movedEq : (if position < view.udp + 2 then position + 2
      else position - 2) = moved := by
    rw [← other]
    split_ifs <;> omega
  have range : view.udp ≤ moved ∧ moved < view.udp + 4 := by
    rw [← movedEq]
    split_ifs <;> omega
  rw [movedEq, exchangedOffset_of_le (Nat.le_trans behind range.1),
    byteAt_measuredCopy (by omega) (by omega)]
  split <;> split at behind <;> omega

theorem exchangedOffset_unwritten {ipv6 : Bool} {transport position : Nat}
    (behind : (if ipv6 then 40 else 20) ≤ transport)
    (inside : position < transport)
    (unwritten : ¬ (if ipv6 then 4 ≤ position ∧ position < 6
      else 2 ≤ position ∧ position < 4)) :
    exchangedOffset ipv6 position < transport ∧
      ¬ (if ipv6 then 4 ≤ exchangedOffset ipv6 position ∧
          exchangedOffset ipv6 position < 6
        else 2 ≤ exchangedOffset ipv6 position ∧
          exchangedOffset ipv6 position < 4) := by
  unfold exchangedOffset
  cases ipv6 with
  | false =>
      simp only [Bool.false_eq_true, if_false] at *
      split_ifs <;> omega
  | true =>
      simp only [if_true] at *
      split_ifs <;> omega

theorem exchangedCopy_lengthField (viewed : UdpViewed captured view)
    (small : view.payload + dnsResponse.length ≤ 65535) :
    LengthField view.ipv6 (exchangedCopy view captured dnsResponse) := by
  have behind := viewed.behind
  have field : ∀ position, position + 1 < view.udp →
      exchangedOffset view.ipv6 position = position →
        exchangedOffset view.ipv6 (position + 1) = position + 1 →
          wordAt (exchangedCopy view captured dnsResponse) position =
            wordAt (measuredCopy view captured dnsResponse) position := by
    intro position before high low
    unfold wordAt
    rw [byteAt_exchangedCopy_header viewed (by omega),
      byteAt_exchangedCopy_header viewed before, high, low]
  have measured := measuredCopy_lengthField viewed small
  unfold LengthField at measured ⊢
  rw [exchangedCopy_length viewed, ← measuredCopy_length viewed]
  cases ipv6 : view.ipv6 with
  | false =>
      rw [ipv6] at measured field behind
      simp only [Bool.false_eq_true, if_false] at measured behind ⊢
      rw [field 2 (by omega) (by rfl) (by rfl)]
      exact measured
  | true =>
      rw [ipv6] at measured field behind
      simp only [if_true] at measured behind ⊢
      rw [field 4 (by omega) (by rfl) (by rfl)]
      exact measured

/-! ### The readdressed datagram -/

theorem readdressedUdp_eq (view : UdpView) (captured dnsResponse : Packet) :
    readdressedUdp view captured dnsResponse =
      putWord (putWord (exchangedCopy view captured dnsResponse) (view.udp + 4)
        (8 + dnsResponse.length)) (view.udp + 6) 0 :=
  rfl

theorem byteAt_readdressedUdp {position : Nat}
    (before : position < view.udp + 4) :
    byteAt (readdressedUdp view captured dnsResponse) position =
      byteAt (exchangedCopy view captured dnsResponse) position := by
  rw [readdressedUdp_eq, byteAt_putWord_of_outside (by omega),
    byteAt_putWord_of_outside (by omega)]

theorem wordAt_readdressedUdp {position : Nat}
    (before : position + 1 < view.udp + 4) :
    wordAt (readdressedUdp view captured dnsResponse) position =
      wordAt (exchangedCopy view captured dnsResponse) position := by
  unfold wordAt
  rw [byteAt_readdressedUdp (by omega), byteAt_readdressedUdp before]

structure Readdressed (view : UdpView) (captured dnsResponse : Packet)
    (result : Packet) : Prop where
  length : result.length = view.payload + dnsResponse.length
  lengthField : LengthField view.ipv6 result
  header : ∀ position < view.udp,
    ¬ (if view.ipv6 then 4 ≤ position ∧ position < 6
      else 2 ≤ position ∧ position < 4) →
        byteAt result position =
          byteAt captured (exchangedOffset view.ipv6 position)
  sourcePort : wordAt result view.udp = wordAt captured (view.udp + 2)
  destinationPort : wordAt result (view.udp + 2) = wordAt captured view.udp
  udpLength : wordAt result (view.udp + 4) = 8 + dnsResponse.length
  unsummed : wordAt result (view.udp + 6) = 0

theorem readdressedUdp_holds (viewed : UdpViewed captured view)
    (small : view.payload + dnsResponse.length ≤ 65535) :
    Readdressed view captured dnsResponse
      (readdressedUdp view captured dnsResponse) := by
  have behind := viewed.behind
  have fits := viewed.fits
  have payloadEq := viewed.payloadEq
  have endsLength := @exchangedCopy_length view captured dnsResponse viewed
  have length : (readdressedUdp view captured dnsResponse).length =
      view.payload + dnsResponse.length := by
    rw [readdressedUdp_eq, putWord_length, putWord_length, endsLength]
  have port : ∀ position, view.udp ≤ position → position < view.udp + 4 →
      byteAt (readdressedUdp view captured dnsResponse) position =
        byteAt captured (if position < view.udp + 2 then position + 2
          else position - 2) := by
    intro position lower upper
    rw [byteAt_readdressedUdp upper,
      byteAt_exchangedCopy_port viewed lower upper]
  refine
    { length := length
      lengthField := ?_
      header := ?_
      sourcePort := ?_
      destinationPort := ?_
      udpLength := ?_
      unsummed := ?_ }
  · have field := exchangedCopy_lengthField viewed small
    have fixedPart : 20 ≤ view.udp := by
      split at behind <;> omega
    unfold LengthField at field ⊢
    rw [length, ← endsLength, wordAt_readdressedUdp (by omega),
      wordAt_readdressedUdp (by omega)]
    exact field
  · intro position inside unwritten
    obtain ⟨moved, unmoved⟩ :=
      exchangedOffset_unwritten behind inside unwritten
    rw [byteAt_readdressedUdp (by omega),
      byteAt_exchangedCopy_header viewed inside,
      byteAt_measuredCopy (by omega) (by omega) unmoved]
  · unfold wordAt
    rw [port view.udp (by omega) (by omega),
      port (view.udp + 1) (by omega) (by omega), if_pos (by omega),
      if_pos (by omega)]
  · unfold wordAt
    rw [port (view.udp + 2) (by omega) (by omega),
      port (view.udp + 2 + 1) (by omega) (by omega), if_neg (by omega),
      if_neg (by omega)]
    rfl
  · rw [readdressedUdp_eq, wordAt_putWord_of_outside (by omega),
      wordAt_putWord (by omega) (by omega)]
  · rw [readdressedUdp_eq, wordAt_putWord (by rw [putWord_length]; omega)
      (by omega)]

end Readdressed

/-! ### The sealed reply -/

/-- A reply that a receiver takes for the answer of the captured resolver. -/
structure ReplyDatagram (captured dnsResponse : Packet) (view : UdpView)
    (reply : Packet) : Prop where
  length : reply.length = view.payload + dnsResponse.length
  ipLength : LengthField view.ipv6 reply
  udpLength : wordAt reply (view.udp + 4) = reply.length - view.udp
  found : transportHeader protocolUdp 8 "Invalid IPv4 UDP packet"
    "Fragmented DNS packet is unsupported" "IPv6 packet is not UDP" reply =
      .ok (view.udp, view.ipv6)
  source : sourceBytes reply view.ipv6 = destinationBytes captured view.ipv6
  destination : destinationBytes reply view.ipv6 =
    sourceBytes captured view.ipv6
  sourcePort : wordAt reply view.udp = wordAt captured (view.udp + 2)
  destinationPort : wordAt reply (view.udp + 2) = wordAt captured view.udp
  payload : reply.drop view.payload = dnsResponse
  kept : ∀ position < view.udp, ¬ EditedByte view.ipv6 position →
    byteAt reply position = byteAt captured position
  headerVerifies : view.ipv6 = false → HeaderVerifies view.udp reply
  segmentVerifies : TransportVerifies view.ipv6 protocolUdp view.udp reply
  checksum : wordAt reply (view.udp + 6) ≠ 0

theorem interceptedUdpReply_sealed {view : UdpView}
    {captured dnsResponse : Packet} (viewed : UdpViewed captured view)
    (small : view.payload + dnsResponse.length ≤ 65535) :
    SealedOf view.ipv6 protocolUdp view.udp (view.udp + 6)
      (readdressedUdp view captured dnsResponse)
      (interceptedUdpReply view captured dnsResponse) := by
  have behind := viewed.behind
  have payloadEq := viewed.payloadEq
  have holds := readdressedUdp_holds viewed small
  have length := holds.length
  have segmentLength :
      (readdressedUdp view captured dnsResponse).length - view.udp =
        8 + dnsResponse.length := by
    omega
  have headers : (if view.ipv6 then 40 else 20) ≤
      (readdressedUdp view captured dnsResponse).length := by
    omega
  have fits := @segmentSum_lt view.ipv6 protocolUdp (8 + dnsResponse.length)
    view.udp _ headers (by omega)
  apply sealPacket_sealed behind (by omega) (by omega) (by omega)
    (fun _ => by omega) holds.unsummed
  rw [segmentLength, udpPseudoSum_eq headers (by omega) (by omega),
    checksumAdd_eq fits]

/-! ### What the reply keeps -/

theorem unedited_of_written {ipv6 : Bool} {position : Nat}
    (unedited : ¬ EditedByte ipv6 position) :
    ¬ (if ipv6 then 4 ≤ position ∧ position < 6
      else 2 ≤ position ∧ position < 4) ∧
      (ipv6 = false → position ≠ 10 ∧ position ≠ 11) := by
  unfold EditedByte at unedited
  cases ipv6 with
  | false =>
      simp only [Bool.false_eq_true, if_false] at unedited ⊢
      omega
  | true =>
      simp only [if_true] at unedited ⊢
      exact ⟨by omega, fun impossible => nomatch impossible⟩

/-- The version, the fields that tell the protocol and the extension headers
are not edited. -/
theorem unedited_headers (ipv6 : Bool) :
    ¬ EditedByte ipv6 0 ∧
      (∀ position, 6 ≤ position → position < (if ipv6 then 7 else 10) →
        ¬ EditedByte ipv6 position) ∧
      ∀ position, 40 ≤ position → ¬ EditedByte ipv6 position := by
  unfold EditedByte
  cases ipv6 with
  | false =>
      simp only [Bool.false_eq_true, if_false]
      exact ⟨by omega, fun _ _ _ => by omega, fun _ _ => by omega⟩
  | true =>
      simp only [if_true]
      exact ⟨by omega, fun _ _ _ => by omega, fun _ _ => by omega⟩

theorem udpView_header {packet : Packet} {view : UdpView}
    (viewed : udpView packet = .ok view) :
    transportHeader protocolUdp 8 "Invalid IPv4 UDP packet"
      "Fragmented DNS packet is unsupported" "IPv6 packet is not UDP" packet =
        .ok (view.udp, view.ipv6) := by
  simp only [udpView, bind_eq_ok, rejectIf_eq_ok, pure_eq_ok] at viewed
  obtain ⟨_, _, ⟨udp, ipv6⟩, found, _, _, _, _, built⟩ := viewed
  cases built
  exact found

section Sealed

variable {view : UdpView} {captured dnsResponse readdressed reply : Packet}

private theorem sealed_header
    (closed : SealedOf view.ipv6 protocolUdp view.udp (view.udp + 6)
      readdressed reply) {position : Nat} (inside : position < view.udp)
    (notHeader : view.ipv6 = false → position ≠ 10 ∧ position ≠ 11) :
    byteAt reply position = byteAt readdressed position :=
  closed.kept position (by omega) (by omega) notHeader

private theorem sealed_word
    (closed : SealedOf view.ipv6 protocolUdp view.udp (view.udp + 6)
      readdressed reply) (behind : 20 ≤ view.udp) {offset : Nat}
    (before : offset + 1 < 6) :
    wordAt reply (view.udp + offset) = wordAt readdressed (view.udp + offset) := by
  unfold wordAt
  rw [closed.kept (view.udp + offset) (by omega) (by omega)
      (fun _ => by omega),
    closed.kept (view.udp + offset + 1) (by omega) (by omega)
      (fun _ => by omega)]

private theorem sealed_kept
    (closed : SealedOf view.ipv6 protocolUdp view.udp (view.udp + 6)
      readdressed reply)
    (holds : Readdressed view captured dnsResponse readdressed)
    {position : Nat} (inside : position < view.udp)
    (unedited : ¬ EditedByte view.ipv6 position) :
    byteAt reply position = byteAt captured position := by
  obtain ⟨unwritten, notHeader⟩ := unedited_of_written unedited
  rw [sealed_header closed inside notHeader,
    holds.header position inside unwritten,
    exchangedOffset_of_unedited unedited]

private theorem sealed_moved
    (closed : SealedOf view.ipv6 protocolUdp view.udp (view.udp + 6)
      readdressed reply)
    (holds : Readdressed view captured dnsResponse readdressed)
    (behind : (if view.ipv6 then 40 else 20) ≤ view.udp) {position : Nat}
    (lower : (if view.ipv6 then 8 else 12) ≤ position)
    (upper : position < (if view.ipv6 then 40 else 20)) :
    byteAt reply position =
      byteAt captured (exchangedOffset view.ipv6 position) := by
  have inside : position < view.udp := by
    omega
  rw [sealed_header closed inside, holds.header position inside]
  · split at lower
    · rename_i six
      rw [if_pos six]
      omega
    · rename_i four
      rw [if_neg four]
      omega
  · intro ipv4
    rw [ipv4, if_neg Bool.false_ne_true] at lower
    omega

private theorem sealed_lengthField
    (closed : SealedOf view.ipv6 protocolUdp view.udp (view.udp + 6)
      readdressed reply)
    (holds : Readdressed view captured dnsResponse readdressed)
    (behind : 20 ≤ view.udp) : LengthField view.ipv6 reply := by
  have field := holds.lengthField
  unfold LengthField at field ⊢
  rw [closed.length]
  split
  · rename_i six
    rw [if_pos six] at field
    rw [← field]
    congr 1
    exact wordAt_congr (fun position _ upper =>
      sealed_header closed (by omega) (fun _ => by omega))
      (Nat.le_refl 4) (Nat.le_refl 6)
  · rename_i four
    rw [if_neg four] at field
    rw [← field]
    exact wordAt_congr (fun position _ upper =>
      sealed_header closed (by omega) (fun _ => by omega))
      (Nat.le_refl 2) (Nat.le_refl 4)

end Sealed

theorem interceptedUdpReply_datagram {view : UdpView}
    {captured dnsResponse : Packet} (viewed : udpView captured = .ok view)
    (small : view.payload + dnsResponse.length ≤ 65535) :
    ReplyDatagram captured dnsResponse view
      (interceptedUdpReply view captured dnsResponse) := by
  have parts := udpView_viewed viewed
  have behind := parts.behind
  have payloadEq := parts.payloadEq
  have fits := parts.fits
  have holds := readdressedUdp_holds parts small
  have closed := interceptedUdpReply_sealed parts small
  have fixedPart : 20 ≤ view.udp := by
    split at behind <;> omega
  have length : (interceptedUdpReply view captured dnsResponse).length =
      view.payload + dnsResponse.length :=
    closed.length.trans holds.length
  have kept := @sealed_kept view captured dnsResponse _ _ closed holds
  have ipLength := sealed_lengthField closed holds fixedPart
  obtain ⟨version, fields, chain⟩ := unedited_headers view.ipv6
  have ends := @addresses_exchanged view.ipv6
    (interceptedUdpReply view captured dnsResponse) captured (by omega)
    (by omega) (fun position lower upper =>
      sealed_moved closed holds behind lower upper)
  exact
    { length := length
      ipLength := ipLength
      udpLength := by
        rw [sealed_word closed fixedPart (by omega), holds.udpLength, length]
        omega
      found := transportHeader_congr (udpView_header viewed)
        (kept (by omega) version)
        (fun position lower upper => kept (by split at upper <;> omega)
          (fields position lower upper))
        (fun _ position lower upper => kept upper (chain position lower))
        ipLength (by omega)
      source := ends.1
      destination := ends.2
      sourcePort := (@sealed_word view _ _ closed fixedPart 0
        (by omega)).trans holds.sourcePort
      destinationPort := (sealed_word closed fixedPart (by omega)).trans
        holds.destinationPort
      payload := interceptedUdpReply_payload parts
      kept := fun position inside unedited => kept inside unedited
      headerVerifies := closed.headerVerifies
      segmentVerifies := closed.transportVerifies
      checksum := closed.nonzero }

/-- Every DNS reply of an admissible size becomes a datagram that a receiver
accepts as the answer from the captured destination. -/
theorem makeInterceptedUdpResponse_wellFormed {captured dnsResponse : Packet}
    {view : UdpView} (viewed : udpView captured = .ok view)
    (admissible : 12 ≤ dnsResponse.length ∧ dnsResponse.length ≤ 65507 ∧
      view.payload + dnsResponse.length ≤ 65535) :
    ∃ reply, makeInterceptedUdpResponse captured dnsResponse = .ok reply ∧
      ReplyDatagram captured dnsResponse view reply := by
  refine ⟨interceptedUdpReply view captured dnsResponse, ?_,
    interceptedUdpReply_datagram viewed admissible.2.2⟩
  unfold makeInterceptedUdpResponse
  rw [viewed, ok_bind, rejectIf_of_not (by omega), ok_bind, pure_eq_ok]

def capturedOptionsQuery : Packet :=
  [0x60, 0, 0, 0, 0, 28, 60, 64] ++ List.replicate 15 0x20 ++ [1] ++
    List.replicate 15 0x48 ++ [2] ++ [17, 0, 0, 0, 0, 0, 0, 0] ++
    [195, 81, 0, 53, 0, 20, 0, 0] ++ [0, 7, 1, 0, 0, 1, 0, 0, 0, 0, 0, 0]

theorem makeInterceptedUdpResponse_wellFormed_options :
    ∃ reply,
      makeInterceptedUdpResponse capturedOptionsQuery
          [0, 7, 129, 128, 0, 1, 0, 0, 0, 0, 0, 0, 0] = .ok reply ∧
        ReplyDatagram capturedOptionsQuery
          [0, 7, 129, 128, 0, 1, 0, 0, 0, 0, 0, 0, 0]
          { udp := 48
            payload := 56
            ipv6 := true } reply :=
  makeInterceptedUdpResponse_wellFormed (by rfl) (by decide)

end NativeDNS
