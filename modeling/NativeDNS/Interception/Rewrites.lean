/-
The packets that the Windows backend makes out of captured ones.

A reply keeps the captured headers with the two ends exchanged; a reflected
segment keeps everything but the addresses, one port and the checksums.  The
steps follow the source, which edits a copy in place.
-/
import NativeDNS.Interception.Views

namespace NativeDNS

open CheckedResult

/-! ### Editing in place -/

def putWord (packet : Packet) (offset value : Nat) : Packet :=
  (packet.set offset (UInt8.ofNat (value >>> 8))).set (offset + 1)
    (UInt8.ofNat value)

def swapBytes (packet : Packet) (left right : Nat) : Packet :=
  (packet.set left (byteAt packet right)).set right (byteAt packet left)

def swapRanges (left right count : Nat) (packet : Packet) : Packet :=
  (List.range count).foldl
    (fun packet index => swapBytes packet (left + index) (right + index)) packet

def exchangeAddresses (ipv6 : Bool) (packet : Packet) : Packet :=
  if ipv6 then swapRanges 8 24 16 packet else swapRanges 12 16 4 packet

def exchangePorts (transport : Nat) (packet : Packet) : Packet :=
  swapBytes (swapBytes packet transport (transport + 2)) (transport + 1)
    (transport + 3)

/-! ### Checksums -/

/-- The sum of the 16-bit words of a range, in 32-bit arithmetic. -/
def checksumAdd (sum : Nat) : Packet → Nat
  | [] => sum
  | [last] => (sum + last.toNat <<< 8) % 2 ^ 32
  | high :: low :: rest =>
      checksumAdd ((sum + (high.toNat <<< 8 ||| low.toNat)) % 2 ^ 32) rest

def foldCarries (sum : Nat) : Nat :=
  if sum / 2 ^ 16 = 0 then sum
  else foldCarries (sum % 2 ^ 16 + sum / 2 ^ 16)
termination_by sum
decreasing_by omega

/-- The complement of a folded sum; zero is written as its other
representation. -/
def checksumFinish (sum : Nat) : Nat :=
  let result := 65535 - foldCarries sum
  if result = 0 then 0xffff else result

def writeIpv4Checksum (header : Nat) (packet : Packet) : Packet :=
  let packet := putWord packet 10 0
  putWord packet 10 (checksumFinish (checksumAdd 0 (packet.take header)))

/-! ### The reply to a query -/

def udpPseudoSum (ipv6 : Bool) (length : Nat) (packet : Packet) : Nat :=
  if ipv6 then
    checksumAdd (checksumAdd 0 (slice packet 8 32))
      ([0, 0] ++ wordBytes length ++ [0, 0, 0, protocolUdp])
  else
    checksumAdd (checksumAdd 0 (slice packet 12 8))
      ([0, protocolUdp] ++ wordBytes length)

/-- The datagram with the payload replaced and the two ends exchanged, before
its checksums. -/
def readdressedUdp (view : UdpView) (captured dnsResponse : Packet) : Packet :=
  let result := captured.take view.payload ++ dnsResponse
  let result :=
    if view.ipv6 then putWord result 4 (result.length - 40)
    else putWord result 2 result.length
  let result := exchangePorts view.udp (exchangeAddresses view.ipv6 result)
  let result := putWord result (view.udp + 4) (8 + dnsResponse.length)
  putWord result (view.udp + 6) 0

def interceptedUdpReply (view : UdpView) (captured dnsResponse : Packet) :
    Packet :=
  let result := readdressedUdp view captured dnsResponse
  let sum := checksumAdd
    (udpPseudoSum view.ipv6 (8 + dnsResponse.length) result)
    (result.drop view.udp)
  let result := putWord result (view.udp + 6) (checksumFinish sum)
  if view.ipv6 then result else writeIpv4Checksum view.udp result

def makeInterceptedUdpResponse (captured dnsResponse : Packet) :
    Checked Packet := do
  let view ← udpView captured
  rejectIf
    (dnsResponse.length < 12 ∨ dnsResponse.length > 65507 ∨
      view.payload + dnsResponse.length > 65535)
    (interceptPacket "Invalid DNS response size")
  pure (interceptedUdpReply view captured dnsResponse)

/-! ### Reflected segments -/

def dwordBytes (value : Nat) : Packet :=
  [UInt8.ofNat (value >>> 24), UInt8.ofNat (value >>> 16),
    UInt8.ofNat (value >>> 8), UInt8.ofNat value]

def tcpPseudoSum (ipv6 : Bool) (length : Nat) (packet : Packet) : Nat :=
  if ipv6 then
    checksumAdd (checksumAdd 0 (slice packet 8 32))
      (dwordBytes length ++ [0, 0, 0, protocolTcp])
  else
    checksumAdd (checksumAdd 0 (slice packet 12 8))
      ([0, protocolTcp] ++ wordBytes length)

def reflectedTcpPacket (view : TcpView) (portOffset port : Nat)
    (captured : Packet) : Packet :=
  let result := exchangeAddresses view.ipv6 captured
  let result := putWord result (view.tcp + portOffset) port
  let result := putWord result (view.tcp + 16) 0
  let sum := checksumAdd
    (tcpPseudoSum view.ipv6 (result.length - view.tcp) result)
    (result.drop view.tcp)
  let result := putWord result (view.tcp + 16) (checksumFinish sum)
  if view.ipv6 then result else writeIpv4Checksum view.tcp result

def makeReflectedTcpPacket (captured : Packet) (proxyPort : Nat)
    (towardProxy : Bool) (interceptedPort : Nat) : Checked Packet := do
  let view ← tcpView captured
  rejectIf (proxyPort = 0 ∨ interceptedPort = 0)
    (interceptPacket "TCP reflection port is zero")
  rejectIf
    (towardProxy = true ∧ wordAt captured (view.tcp + 2) ≠ interceptedPort)
    (interceptPacket "TCP packet is not addressed to DNS")
  rejectIf (towardProxy = false ∧ wordAt captured view.tcp ≠ proxyPort)
    (interceptPacket "TCP packet is not from the stream proxy")
  pure
    (reflectedTcpPacket view (if towardProxy then 2 else 0)
      (if towardProxy then proxyPort else interceptedPort) captured)

/-! ### Resets -/

def tcpFlags (packet : Packet) (tcp : Nat) : UInt8 :=
  byteAt packet (tcp + 13)

/-- The sequence number that acknowledges a whole segment. -/
def resetAcknowledgement (captured : Packet) (view : TcpView) : Nat :=
  (dwordAt captured (view.tcp + 4) + (captured.length - view.payload) +
    (if tcpFlags captured view.tcp &&& 0x02 ≠ 0 then 1 else 0) +
    (if tcpFlags captured view.tcp &&& 0x01 ≠ 0 then 1 else 0)) % 2 ^ 32

/-- The reset in front of its reflection: the fixed header alone, with the
ports exchanged. -/
def resetSegment (captured : Packet) (view : TcpView) : Packet :=
  let result := exchangePorts view.tcp (captured.take (view.tcp + 20))
  let result :=
    (result.take (view.tcp + 4) ++ List.replicate 16 0).set (view.tcp + 12) 0x50
  let result :=
    if tcpFlags captured view.tcp &&& 0x10 ≠ 0 then
      (putDword result (view.tcp + 4) (dwordAt captured (view.tcp + 8))).set
        (view.tcp + 13) 0x04
    else
      (putDword result (view.tcp + 8) (resetAcknowledgement captured view)).set
        (view.tcp + 13) 0x14
  putWord result (if view.ipv6 then 4 else 2)
    (result.length - (if view.ipv6 then 40 else 0))

def makeInterceptedTcpReset (captured : Packet) : Checked Packet := do
  let view ← tcpView captured
  rejectIf (wordAt captured (view.tcp + 2) ≠ 53)
    (interceptPacket "Reset requires a TCP DNS destination")
  if tcpFlags captured view.tcp &&& 0x04 ≠ 0 then pure []
  else makeReflectedTcpPacket (resetSegment captured view) 53 false 53

/-! ### The payload of a reply -/

section Payload

variable {packet : Packet} {bound : Nat}

theorem drop_putWord {offset value : Nat} (before : offset + 1 < bound) :
    (putWord packet offset value).drop bound = packet.drop bound := by
  unfold putWord
  rw [List.drop_set_of_lt before, List.drop_set_of_lt (by omega)]

theorem drop_swapBytes {left right : Nat} (leftBefore : left < bound)
    (rightBefore : right < bound) :
    (swapBytes packet left right).drop bound = packet.drop bound := by
  unfold swapBytes
  rw [List.drop_set_of_lt rightBefore, List.drop_set_of_lt leftBefore]

theorem drop_swapRanges {left right count : Nat}
    (leftBefore : left + count ≤ bound) (rightBefore : right + count ≤ bound) :
    (swapRanges left right count packet).drop bound = packet.drop bound := by
  unfold swapRanges
  have fold : ∀ (indices : List Nat) (start : Packet),
      (∀ index ∈ indices, index < count) →
      (indices.foldl (fun packet index =>
        swapBytes packet (left + index) (right + index)) start).drop bound =
          start.drop bound := by
    intro indices
    induction indices with
    | nil =>
        intro start _
        rfl
    | cons index rest ih =>
        intro start inside
        have here := inside index List.mem_cons_self
        rw [List.foldl_cons, ih _ fun other member =>
            inside other (List.mem_cons_of_mem index member),
          drop_swapBytes (by omega) (by omega)]
  exact fold _ packet (fun index member => List.mem_range.mp member)

theorem drop_exchangeAddresses {ipv6 : Bool}
    (before : (if ipv6 then 40 else 20) ≤ bound) :
    (exchangeAddresses ipv6 packet).drop bound = packet.drop bound := by
  unfold exchangeAddresses
  cases ipv6 with
  | false => exact drop_swapRanges (by simp at before; omega) before
  | true => exact drop_swapRanges (by simp at before; omega) before

theorem drop_exchangePorts {transport : Nat} (before : transport + 3 < bound) :
    (exchangePorts transport packet).drop bound = packet.drop bound := by
  unfold exchangePorts
  rw [drop_swapBytes (by omega) before, drop_swapBytes (by omega) (by omega)]

end Payload

theorem interceptedUdpReply_payload {captured dnsResponse : Packet}
    {view : UdpView} (viewed : UdpViewed captured view) :
    (interceptedUdpReply view captured dnsResponse).drop view.payload =
      dnsResponse := by
  have behind := viewed.behind
  have fits := viewed.fits
  have payloadEq := viewed.payloadEq
  have headers : (if view.ipv6 then 40 else 20) ≤ view.payload := by omega
  have fixedPart : 20 ≤ view.payload := by
    split at headers <;> omega
  have readdressed :
      (readdressedUdp view captured dnsResponse).drop view.payload =
        dnsResponse := by
    unfold readdressedUdp
    dsimp only
    rw [drop_putWord (by omega), drop_putWord (by omega),
      drop_exchangePorts (by omega), drop_exchangeAddresses headers]
    have front : (captured.take view.payload).length = view.payload := by
      rw [List.length_take]
      omega
    have whole : (captured.take view.payload ++ dnsResponse).drop
        view.payload = dnsResponse := by
      rw [List.drop_append_of_le_length (Nat.le_of_eq front.symm),
        List.drop_eq_nil_of_le (Nat.le_of_eq front), List.nil_append]
    split
    · rw [drop_putWord (by omega), whole]
    · rw [drop_putWord (by omega), whole]
  unfold interceptedUdpReply
  dsimp only
  split
  · rw [drop_putWord (by omega), readdressed]
  · unfold writeIpv4Checksum
    rw [drop_putWord (by omega), drop_putWord (by omega),
      drop_putWord (by omega), readdressed]

theorem makeInterceptedUdpResponse_ne {captured dnsResponse response : Packet}
    {view : UdpView} (viewed : udpView captured = .ok view)
    (made : makeInterceptedUdpResponse captured dnsResponse = .ok response)
    (different : dnsResponse ≠ captured.drop view.payload) :
    response ≠ captured := by
  simp only [makeInterceptedUdpResponse, bind_eq_ok, pure_eq_ok] at made
  obtain ⟨view', viewed', _, _, built⟩ := made
  rw [viewed] at viewed'
  cases viewed'
  cases built
  intro same
  apply different
  have payload := @interceptedUdpReply_payload captured dnsResponse view
    (udpView_viewed viewed)
  rw [same] at payload
  exact payload.symm

end NativeDNS
