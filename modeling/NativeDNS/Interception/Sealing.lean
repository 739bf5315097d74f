/-
Checksums as a receiver verifies them.

Both rewrites end alike: the checksum field of the transport header is summed
as zero and written, and an IPv4 header gets its own checksum.  What a receiver
then sums, the pseudo header with the segment and the IPv4 header, folds to all
ones.
-/
import NativeDNS.Interception.Checksums

namespace NativeDNS

open OnesComplement
open CheckedResult

/-! ### What a receiver sums -/

/-- The addresses, length and protocol in front of a transport segment. -/
def pseudoHeader (ipv6 : Bool) (protocol : UInt8) (length : Nat)
    (packet : Packet) : Packet :=
  if ipv6 then slice packet 8 32 ++ (dwordBytes length ++ [0, 0, 0, protocol])
  else slice packet 12 8 ++ ([0, protocol] ++ wordBytes length)

def TransportVerifies (ipv6 : Bool) (protocol : UInt8) (header : Nat)
    (packet : Packet) : Prop :=
  foldCarries (wordSum
    (pseudoHeader ipv6 protocol (packet.length - header) packet ++
      packet.drop header)) = 0xffff

def HeaderVerifies (header : Nat) (packet : Packet) : Prop :=
  foldCarries (wordSum (packet.take header)) = 0xffff

theorem pseudoHeader_length {ipv6 : Bool} {protocol : UInt8} {length : Nat}
    {packet : Packet} (within : (if ipv6 then 40 else 20) ≤ packet.length) :
    (pseudoHeader ipv6 protocol length packet).length =
      if ipv6 then 40 else 12 := by
  unfold pseudoHeader
  cases ipv6 with
  | false =>
      simp only [Bool.false_eq_true, if_false] at within ⊢
      rw [List.length_append, slice_length within]
      rfl
  | true =>
      simp only [if_true] at within ⊢
      rw [List.length_append, slice_length within]
      rfl

theorem pseudoHeader_congr {ipv6 : Bool} {protocol : UInt8} {length : Nat}
    {left right : Packet}
    (leftWithin : (if ipv6 then 40 else 20) ≤ left.length)
    (rightWithin : (if ipv6 then 40 else 20) ≤ right.length)
    (agree : AgreeOn left right (if ipv6 then 8 else 12)
      (if ipv6 then 40 else 20)) :
    pseudoHeader ipv6 protocol length left =
      pseudoHeader ipv6 protocol length right := by
  unfold pseudoHeader
  cases ipv6 with
  | false =>
      simp only [Bool.false_eq_true, if_false] at leftWithin rightWithin agree ⊢
      rw [slice_congr agree leftWithin rightWithin]
  | true =>
      simp only [if_true] at leftWithin rightWithin agree ⊢
      rw [slice_congr agree leftWithin rightWithin]

theorem segmentSum_lt {ipv6 : Bool} {protocol : UInt8} {length header : Nat}
    {packet : Packet} (within : (if ipv6 then 40 else 20) ≤ packet.length)
    (short : packet.length - header ≤ 65535) :
    wordSum (pseudoHeader ipv6 protocol length packet) +
      wordSum (packet.drop header) < 2 ^ 32 := by
  have pseudo := wordSum_le (pseudoHeader ipv6 protocol length packet)
  have segment := wordSum_le (packet.drop header)
  rw [pseudoHeader_length within] at pseudo
  rw [List.length_drop] at segment
  cases ipv6 with
  | false =>
      simp only [Bool.false_eq_true, if_false] at pseudo
      omega
  | true =>
      simp only [if_true] at pseudo
      omega

private theorem checksumAdd_pieces {first second : Packet}
    (even : first.length % 2 = 0)
    (fits : wordSum (first ++ second) < 2 ^ 32) :
    checksumAdd (checksumAdd 0 first) second = wordSum (first ++ second) := by
  rw [wordSum_append first second even] at fits ⊢
  rw [@checksumAdd_eq 0 first (by omega), Nat.zero_add, checksumAdd_eq fits]

theorem udpPseudoSum_eq {ipv6 : Bool} {length : Nat} {packet : Packet}
    (within : (if ipv6 then 40 else 20) ≤ packet.length)
    (small : length < 65536)
    (fits : wordSum (pseudoHeader ipv6 protocolUdp length packet) < 2 ^ 32) :
    udpPseudoSum ipv6 length packet =
      wordSum (pseudoHeader ipv6 protocolUdp length packet) := by
  have high : [0, 0] ++ wordBytes length ++ [0, 0, 0, protocolUdp] =
      dwordBytes length ++ [0, 0, 0, protocolUdp] := by
    have first : length >>> 24 = 0 := by
      rw [Nat.shiftRight_eq_div_pow]
      omega
    have second : length >>> 16 = 0 := by
      rw [Nat.shiftRight_eq_div_pow]
      omega
    simp [wordBytes, dwordBytes, first, second]
  unfold udpPseudoSum
  unfold pseudoHeader at fits ⊢
  cases ipv6 with
  | false =>
      simp only [Bool.false_eq_true, if_false] at within fits ⊢
      exact checksumAdd_pieces (by rw [slice_length within]) fits
  | true =>
      simp only [if_true] at within fits ⊢
      rw [high]
      exact checksumAdd_pieces (by rw [slice_length within]) fits

theorem tcpPseudoSum_eq {ipv6 : Bool} {length : Nat} {packet : Packet}
    (within : (if ipv6 then 40 else 20) ≤ packet.length)
    (fits : wordSum (pseudoHeader ipv6 protocolTcp length packet) < 2 ^ 32) :
    tcpPseudoSum ipv6 length packet =
      wordSum (pseudoHeader ipv6 protocolTcp length packet) := by
  unfold tcpPseudoSum
  unfold pseudoHeader at fits ⊢
  cases ipv6 with
  | false =>
      simp only [Bool.false_eq_true, if_false] at within fits ⊢
      exact checksumAdd_pieces (by rw [slice_length within]) fits
  | true =>
      simp only [if_true] at within fits ⊢
      exact checksumAdd_pieces (by rw [slice_length within]) fits

/-! ### Writing both checksums -/

/-- The common end of the rewrites: the transport checksum at `field`, over a
header of `header` bytes. -/
def sealPacket (ipv6 : Bool) (header field sum : Nat) (packet : Packet) :
    Packet :=
  if ipv6 then putWord packet field (checksumFinish sum)
  else writeIpv4Checksum header (putWord packet field (checksumFinish sum))

/-- A packet that verifies and differs from the unsealed one in its checksum
fields only. -/
structure SealedOf (ipv6 : Bool) (protocol : UInt8) (header field : Nat)
    (unsealed result : Packet) : Prop where
  length : result.length = unsealed.length
  kept : ∀ position, position ≠ field → position ≠ field + 1 →
    (ipv6 = false → position ≠ 10 ∧ position ≠ 11) →
      byteAt result position = byteAt unsealed position
  headerVerifies : ipv6 = false → HeaderVerifies header result
  transportVerifies : TransportVerifies ipv6 protocol header result
  nonzero : wordAt result field ≠ 0

@[simp] theorem writeIpv4Checksum_length (header : Nat) (packet : Packet) :
    (writeIpv4Checksum header packet).length = packet.length := by
  unfold writeIpv4Checksum
  dsimp only
  rw [putWord_length, putWord_length]

theorem byteAt_writeIpv4Checksum {header position : Nat} {packet : Packet}
    (outside : position ≠ 10 ∧ position ≠ 11) :
    byteAt (writeIpv4Checksum header packet) position =
      byteAt packet position := by
  unfold writeIpv4Checksum
  dsimp only
  rw [byteAt_putWord_of_outside (by omega), byteAt_putWord_of_outside (by omega)]

theorem writeIpv4Checksum_verifies {header : Nat} {packet : Packet}
    (behind : 20 ≤ header) (within : header ≤ packet.length)
    (short : header ≤ 65535) :
    HeaderVerifies header (writeIpv4Checksum header packet) := by
  unfold HeaderVerifies writeIpv4Checksum
  dsimp only
  rw [foldCarries_eq, take_putWord]
  have length : ((putWord packet 10 0).take header).length = header := by
    rw [List.length_take, putWord_length]
    omega
  generalize zeroed : (putWord packet 10 0).take header = bytes at length
  have zero : wordAt bytes 10 = 0 := by
    rw [← zeroed, wordAt_take (by omega),
      wordAt_putWord (by omega) (by omega)]
  have bound := wordSum_le bytes
  rw [length] at bound
  have exactSum : checksumAdd 0 bytes = wordSum bytes := by
    rw [checksumAdd_eq (by omega), Nat.zero_add]
  rw [exactSum, checksumFinish_eq]
  have replaced := @wordSum_putWord bytes 10 (checkWord (wordSum bytes))
    (by omega) (by omega) (checkWord_lt _)
  rw [zero, Nat.add_zero] at replaced
  rw [replaced]
  exact residue_add_checkWord (wordSum bytes)

theorem sealPacket_sealed {ipv6 : Bool} {protocol : UInt8}
    {header offset sum : Nat} {packet : Packet}
    (behind : (if ipv6 then 40 else 20) ≤ header) (even : offset % 2 = 0)
    (within : header + offset + 1 < packet.length)
    (short : packet.length ≤ header + 65535) (small : ipv6 = false →
      header ≤ 65535)
    (zero : wordAt packet (header + offset) = 0)
    (sumEq : sum =
      wordSum (pseudoHeader ipv6 protocol (packet.length - header) packet) +
        wordSum (packet.drop header)) :
    SealedOf ipv6 protocol header (header + offset) packet
      (sealPacket ipv6 header (header + offset) sum packet) := by
  have fixedPart : 20 ≤ header := by
    split at behind <;> omega
  have checkSmall := checkWord_lt sum
  have length : (sealPacket ipv6 header (header + offset) sum packet).length =
      packet.length := by
    unfold sealPacket
    split
    · rw [putWord_length]
    · rw [writeIpv4Checksum_length, putWord_length]
  have kept : ∀ position, position ≠ header + offset →
      position ≠ header + offset + 1 →
        (ipv6 = false → position ≠ 10 ∧ position ≠ 11) →
          byteAt (sealPacket ipv6 header (header + offset) sum packet) position =
            byteAt packet position := by
    intro position notHigh notLow notHeader
    unfold sealPacket
    cases ipv6 with
    | false =>
        simp only [Bool.false_eq_true, if_false]
        rw [byteAt_writeIpv4Checksum (notHeader rfl),
          byteAt_putWord_of_outside ⟨notHigh, notLow⟩]
    | true =>
        simp only [if_true]
        rw [byteAt_putWord_of_outside ⟨notHigh, notLow⟩]
  have segment : (sealPacket ipv6 header (header + offset) sum packet).drop
      header = putWord (packet.drop header) offset (checkWord sum) := by
    unfold sealPacket
    rw [checksumFinish_eq]
    split
    · rw [drop_putWord_behind]
    · unfold writeIpv4Checksum
      dsimp only
      rw [drop_putWord (by omega), drop_putWord (by omega),
        drop_putWord_behind]
  have field : wordAt (sealPacket ipv6 header (header + offset) sum packet)
      (header + offset) = checkWord sum := by
    rw [← wordAt_drop, segment, wordAt_putWord _ checkSmall]
    rw [List.length_drop]
    omega
  have addresses : pseudoHeader ipv6 protocol (packet.length - header)
      (sealPacket ipv6 header (header + offset) sum packet) =
        pseudoHeader ipv6 protocol (packet.length - header) packet := by
    apply pseudoHeader_congr
    · rw [length]
      omega
    · omega
    · intro position lower upper
      apply kept position
      · omega
      · omega
      · intro ipv4
        rw [ipv4, if_neg Bool.false_ne_true] at lower
        omega
  refine ⟨length, kept, ?_, ?_, ?_⟩
  · intro ipv4
    subst ipv4
    unfold sealPacket
    rw [if_neg Bool.false_ne_true]
    exact writeIpv4Checksum_verifies fixedPart
      (by rw [putWord_length]; omega) (small rfl)
  · have pseudoEven : (pseudoHeader ipv6 protocol (packet.length - header)
        packet).length % 2 = 0 := by
      rw [pseudoHeader_length (by omega)]
      split <;> rfl
    have replaced := @wordSum_putWord (packet.drop header) offset (checkWord sum)
      even (by rw [List.length_drop]; omega) checkSmall
    rw [wordAt_drop, zero, Nat.add_zero] at replaced
    unfold TransportVerifies
    rw [length, addresses, segment, wordSum_append _ _ pseudoEven, replaced,
      ← Nat.add_assoc, ← sumEq, foldCarries_eq]
    exact residue_add_checkWord sum
  · rw [field]
    exact Nat.ne_of_gt (checkWord_pos sum)

end NativeDNS
