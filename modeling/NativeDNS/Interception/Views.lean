/-
The headers in front of a captured DNS message.

A view is the position of the transport header and of its payload, found by
checking the lengths a captured packet announces.  Every read below is behind
such a check.
-/
import NativeDNS.Wire.Bytes

namespace NativeDNS

open ByteText (text byte decimal)
open CheckedResult

structure UdpView where
  udp : Nat
  payload : Nat
  ipv6 : Bool
  deriving DecidableEq, Repr

structure TcpView where
  tcp : Nat
  payload : Nat
  ipv6 : Bool
  deriving DecidableEq, Repr

structure Ipv6Transport where
  protocol : UInt8
  offset : Nat
  deriving DecidableEq, Repr

def protocolTcp : UInt8 := 6

def protocolUdp : UInt8 := 17

def interceptPacket (message : String) : Error :=
  .of "INTERCEPT_PACKET" message

def skipHeader (packet : Packet) (position length : Nat) (overrun : String) :
    Checked (UInt8 × Nat) := do
  rejectIf (position + length > packet.length) (interceptPacket overrun)
  pure (byteAt packet position, position + length)

def ipv6Header (packet : Packet) (next : UInt8) (position : Nat) :
    Checked (UInt8 × Nat) :=
  if next = 0 ∨ next = 43 ∨ next = 60 then do
    rejectIf (position + 2 > packet.length)
      (interceptPacket "Truncated IPv6 extension header")
    skipHeader packet position (((byteAt packet (position + 1)).toNat + 1) * 8)
      "Invalid IPv6 extension header length"
  else if next = 44 then do
    rejectIf (position + 8 > packet.length)
      (interceptPacket "Truncated IPv6 fragment header")
    rejectIf (wordAt packet (position + 2) &&& 0xfff9 ≠ 0)
      (interceptPacket "Fragmented IPv6 DNS packet is unsupported")
    pure (byteAt packet position, position + 8)
  else if next = 51 then do
    rejectIf (position + 2 > packet.length)
      (interceptPacket "Truncated IPv6 authentication header")
    skipHeader packet position (((byteAt packet (position + 1)).toNat + 2) * 4)
      "Invalid IPv6 authentication header length"
  else
    throw
      { code := "INTERCEPT_PACKET"
        message := text "Unsupported IPv6 next header " ++ decimal next.toNat }

/-- The walk over the header chain, for a bounded number of headers. -/
def ipv6Headers (packet : Packet) :
    Nat → UInt8 → Nat → Checked Ipv6Transport
  | 0, _, _ => throw (interceptPacket "Too many IPv6 extension headers")
  | headers + 1, next, position =>
      if next = protocolUdp ∨ next = protocolTcp then
        pure
          { protocol := next
            offset := position }
      else do
        let (next, position) ← ipv6Header packet next position
        ipv6Headers packet headers next position

def ipv6Transport (packet : Packet) : Checked Ipv6Transport := do
  rejectIf (packet.length < 40 ∨ wordAt packet 4 + 40 ≠ packet.length)
    (interceptPacket "Invalid IPv6 packet length")
  ipv6Headers packet 16 (byteAt packet 6) 40

/-! ### The two views -/

def ipVersion (packet : Packet) : Nat :=
  (byteAt packet 0).toNat >>> 4

def ipv4HeaderLength (packet : Packet) : Nat :=
  (byteAt packet 0 &&& 0x0f).toNat * 4

/-- The position of a transport header that has at least `size` bytes, and
whether it is behind an IPv6 header.  The two views differ in the protocol, in
that size and in their messages. -/
def transportHeader (protocol : UInt8) (size : Nat)
    (invalid fragmented foreign : String) (packet : Packet) :
    Checked (Nat × Bool) :=
  if ipVersion packet = 4 then do
    rejectIf
      (ipv4HeaderLength packet < 20 ∨
        ipv4HeaderLength packet + size > packet.length ∨
        byteAt packet 9 ≠ protocol ∨ wordAt packet 2 ≠ packet.length)
      (interceptPacket invalid)
    rejectIf (wordAt packet 6 &&& 0x3fff ≠ 0) (interceptPacket fragmented)
    pure (ipv4HeaderLength packet, false)
  else if ipVersion packet = 6 then do
    let transport ← ipv6Transport packet
    rejectIf
      (transport.protocol ≠ protocol ∨ transport.offset + size > packet.length)
      (interceptPacket foreign)
    pure (transport.offset, true)
  else throw (interceptPacket "Unsupported IP version")

def udpView (packet : Packet) : Checked UdpView := do
  rejectIf (packet.length < 28)
    (interceptPacket "Captured packet is too short")
  let (udp, ipv6) ←
    transportHeader protocolUdp 8 "Invalid IPv4 UDP packet"
      "Fragmented DNS packet is unsupported" "IPv6 packet is not UDP" packet
  rejectIf
    (wordAt packet (udp + 2) ≠ 53 ∨
      wordAt packet (udp + 4) ≠ packet.length - udp)
    (interceptPacket "Packet is not a complete UDP DNS query")
  rejectIf (packet.length - (udp + 8) < 12)
    (interceptPacket "DNS payload is too short")
  pure
    { udp := udp
      payload := udp + 8
      ipv6 := ipv6 }

def tcpHeaderLength (packet : Packet) (tcp : Nat) : Nat :=
  (byteAt packet (tcp + 12)).toNat >>> 4 * 4

def tcpView (packet : Packet) : Checked TcpView := do
  rejectIf (packet.length < 40)
    (interceptPacket "Captured TCP packet is too short")
  let (tcp, ipv6) ←
    transportHeader protocolTcp 20 "Invalid IPv4 TCP packet"
      "Fragmented TCP packet is unsupported" "IPv6 packet is not TCP" packet
  rejectIf
    (tcpHeaderLength packet tcp < 20 ∨
      tcp + tcpHeaderLength packet tcp > packet.length)
    (interceptPacket "Invalid TCP header length")
  pure
    { tcp := tcp
      payload := tcp + tcpHeaderLength packet tcp
      ipv6 := ipv6 }

def isTcpPacket (packet : Packet) : Checked Bool :=
  if packet = [] then pure false
  else if ipVersion packet = 4 then
    pure (decide (packet.length > 9) && decide (byteAt packet 9 = protocolTcp))
  else if ipVersion packet ≠ 6 then pure false
  else do
    let transport ← ipv6Transport packet
    pure (decide (transport.protocol = protocolTcp))

/-! ### What the views establish -/

theorem skipHeader_position {packet : Packet} {position length : Nat}
    {overrun : String} {next : UInt8} {after : Nat}
    (passed : skipHeader packet position length overrun = .ok (next, after)) :
    after = position + length := by
  simp only [skipHeader, bind_eq_ok, rejectIf_eq_ok, pure_eq_ok] at passed
  obtain ⟨_, _, built⟩ := passed
  cases built
  rfl

theorem ipv6Header_ge {packet : Packet} {next after : UInt8}
    {position behind : Nat}
    (passed : ipv6Header packet next position = .ok (after, behind)) :
    position + 8 ≤ behind := by
  unfold ipv6Header at passed
  split at passed
  · obtain ⟨_, _, skipped⟩ := bind_eq_ok.mp passed
    rw [skipHeader_position skipped]
    omega
  · split at passed
    · simp only [bind_eq_ok, pure_eq_ok] at passed
      obtain ⟨_, _, _, _, built⟩ := passed
      cases built
      exact Nat.le_refl _
    · split at passed
      · obtain ⟨_, _, skipped⟩ := bind_eq_ok.mp passed
        rw [skipHeader_position skipped]
        omega
      · cases passed

theorem ipv6Headers_le {packet : Packet} {transport : Ipv6Transport} :
    ∀ {headers : Nat} {next : UInt8} {position : Nat},
      ipv6Headers packet headers next position = .ok transport →
        position ≤ transport.offset
  | 0, _, _, walked => by
      cases walked
  | headers + 1, next, position, walked => by
      unfold ipv6Headers at walked
      split at walked
      · cases walked
        exact Nat.le_refl _
      · obtain ⟨⟨after, behind⟩, passed, rest⟩ := bind_eq_ok.mp walked
        have grown := ipv6Header_ge passed
        have later := ipv6Headers_le rest
        omega

theorem ipv6Transport_le {packet : Packet} {transport : Ipv6Transport}
    (found : ipv6Transport packet = .ok transport) : 40 ≤ transport.offset := by
  simp only [ipv6Transport, bind_eq_ok] at found
  obtain ⟨_, _, walked⟩ := found
  exact ipv6Headers_le walked

theorem transportHeader_ge {protocol : UInt8} {size position : Nat}
    {invalid fragmented foreign : String} {packet : Packet} {ipv6 : Bool}
    (found : transportHeader protocol size invalid fragmented foreign packet =
      .ok (position, ipv6)) :
    (if ipv6 then 40 else 20) ≤ position := by
  unfold transportHeader at found
  split at found
  · simp only [bind_eq_ok, rejectIf_eq_ok, pure_eq_ok] at found
    obtain ⟨_, bounds, _, _, built⟩ := found
    cases built
    rw [if_neg Bool.false_ne_true]
    omega
  · split at found
    · simp only [bind_eq_ok, rejectIf_eq_ok, pure_eq_ok] at found
      obtain ⟨transport, located, _, _, built⟩ := found
      cases built
      rw [if_pos rfl]
      exact ipv6Transport_le located
    · cases found

structure UdpViewed (packet : Packet) (view : UdpView) : Prop where
  behind : (if view.ipv6 then 40 else 20) ≤ view.udp
  payloadEq : view.payload = view.udp + 8
  fits : view.payload + 12 ≤ packet.length

theorem udpView_viewed {packet : Packet} {view : UdpView}
    (viewed : udpView packet = .ok view) : UdpViewed packet view := by
  simp only [udpView, bind_eq_ok, rejectIf_eq_ok, pure_eq_ok] at viewed
  obtain ⟨_, _, ⟨udp, ipv6⟩, found, _, _, _, long, built⟩ := viewed
  cases built
  exact
    { behind := transportHeader_ge found
      payloadEq := rfl
      fits := by
        dsimp only
        omega }

theorem isTcpPacket_error {packet : Packet} {error : Error}
    (unknown : isTcpPacket packet = .error error) :
    ∃ rejected, udpView packet = .error rejected := by
  apply exists_error_of_not_ok
  intro view viewed
  simp only [udpView, bind_eq_ok] at viewed
  obtain ⟨_, _, ⟨udp, ipv6⟩, found, _⟩ := viewed
  unfold isTcpPacket at unknown
  split at unknown
  · cases unknown
  · split at unknown
    · cases unknown
    · rename_i notIpv4
      split at unknown
      · cases unknown
      · rename_i ipv6
        unfold transportHeader at found
        rw [if_neg notIpv4, if_pos (not_not.mp ipv6)] at found
        obtain ⟨transport, located, _⟩ := bind_eq_ok.mp found
        rw [located] at unknown
        cases unknown

/-! ### Packets with the same headers -/

private theorem skipHeader_congr {packet other : Packet}
    {position length : Nat} {overrun : String} {next : UInt8} {behind : Nat}
    (passed : skipHeader packet position length overrun = .ok (next, behind))
    (same : byteAt other position = byteAt packet position)
    (within : behind ≤ other.length) :
    skipHeader other position length overrun = .ok (next, behind) := by
  have behindEq := skipHeader_position passed
  simp only [skipHeader, bind_eq_ok, rejectIf_eq_ok, pure_eq_ok] at passed ⊢
  obtain ⟨_, _, built⟩ := passed
  refine ⟨(), by omega, ?_⟩
  rw [same]
  exact built

theorem ipv6Header_congr {packet other : Packet} {next after : UInt8}
    {position behind : Nat}
    (passed : ipv6Header packet next position = .ok (after, behind))
    (agree : AgreeOn other packet position behind)
    (within : behind ≤ other.length) :
    ipv6Header other next position = .ok (after, behind) := by
  have grown := ipv6Header_ge passed
  have first := agree position (Nat.le_refl _) (by omega)
  have second := agree (position + 1) (by omega) (by omega)
  have flags : wordAt other (position + 2) = wordAt packet (position + 2) :=
    wordAt_congr agree (by omega) (by omega)
  unfold ipv6Header at passed ⊢
  rw [second, flags, first]
  split at passed
  · rename_i option
    rw [if_pos option]
    obtain ⟨_, _, skipped⟩ := bind_eq_ok.mp passed
    rw [rejectIf_of_not (by omega), ok_bind]
    exact skipHeader_congr skipped first within
  · rename_i noOption
    rw [if_neg noOption]
    split at passed
    · rename_i fragment
      rw [if_pos fragment]
      simp only [bind_eq_ok, rejectIf_eq_ok, pure_eq_ok] at passed ⊢
      obtain ⟨_, _, _, whole, built⟩ := passed
      exact ⟨(), by omega, (), whole, built⟩
    · rename_i noFragment
      rw [if_neg noFragment]
      split at passed
      · rename_i authentication
        rw [if_pos authentication]
        obtain ⟨_, _, skipped⟩ := bind_eq_ok.mp passed
        rw [rejectIf_of_not (by omega), ok_bind]
        exact skipHeader_congr skipped first within
      · cases passed

theorem ipv6Headers_congr {packet other : Packet}
    {transport : Ipv6Transport} :
    ∀ {headers : Nat} {next : UInt8} {position : Nat},
      ipv6Headers packet headers next position = .ok transport →
        AgreeOn other packet position transport.offset →
          transport.offset ≤ other.length →
            ipv6Headers other headers next position = .ok transport
  | 0, _, _, walked, _, _ => by
      cases walked
  | headers + 1, next, position, walked, agree, within => by
      unfold ipv6Headers at walked ⊢
      split at walked
      · rename_i found
        rw [if_pos found]
        exact walked
      · rename_i unfound
        rw [if_neg unfound]
        obtain ⟨⟨after, behind⟩, passed, rest⟩ := bind_eq_ok.mp walked
        have inside := ipv6Headers_le rest
        have grown := ipv6Header_ge passed
        rw [ipv6Header_congr passed
          (agree.mono (Nat.le_refl _) inside) (by omega), ok_bind]
        exact ipv6Headers_congr rest
          (agree.mono (by omega) (Nat.le_refl _)) within

/-- The length field of the IP header gives the length of the packet. -/
def LengthField (ipv6 : Bool) (packet : Packet) : Prop :=
  if ipv6 then wordAt packet 4 + 40 = packet.length
  else wordAt packet 2 = packet.length

theorem transportHeader_length {protocol : UInt8} {size position : Nat}
    {invalid fragmented foreign : String} {packet : Packet} {ipv6 : Bool}
    (found : transportHeader protocol size invalid fragmented foreign packet =
      .ok (position, ipv6)) :
    LengthField ipv6 packet ∧ position + size ≤ packet.length ∧
      (ipv6 = false → position ≤ 60) := by
  unfold transportHeader at found
  split at found
  · simp only [bind_eq_ok, rejectIf_eq_ok, pure_eq_ok] at found
    obtain ⟨_, bounds, _, _, built⟩ := found
    cases built
    have nibble : (byteAt packet 0 &&& 0x0f).toNat ≤ 15 := by
      rw [UInt8.toNat_and]
      exact Nat.and_le_right
    unfold LengthField ipv4HeaderLength at *
    rw [if_neg Bool.false_ne_true]
    omega
  · split at found
    · simp only [bind_eq_ok, rejectIf_eq_ok, pure_eq_ok, ipv6Transport]
        at found
      obtain ⟨transport, ⟨_, lengths, _⟩, _, bounds, built⟩ := found
      cases built
      unfold LengthField
      rw [if_pos rfl]
      exact ⟨by omega, by omega, Bool.noConfusion⟩
    · cases found

theorem transportHeader_congr {protocol : UInt8} {size position : Nat}
    {invalid fragmented foreign : String} {packet other : Packet}
    {ipv6 : Bool}
    (found : transportHeader protocol size invalid fragmented foreign packet =
      .ok (position, ipv6))
    (version : byteAt other 0 = byteAt packet 0)
    (fields : AgreeOn other packet 6 (if ipv6 then 7 else 10))
    (chain : ipv6 = true → AgreeOn other packet 40 position)
    (length : LengthField ipv6 other)
    (within : position + size ≤ other.length) :
    transportHeader protocol size invalid fragmented foreign other =
      .ok (position, ipv6) := by
  have behind := transportHeader_ge found
  unfold transportHeader at found ⊢
  have sameVersion : ipVersion other = ipVersion packet := by
    unfold ipVersion
    rw [version]
  have sameHeader : ipv4HeaderLength other = ipv4HeaderLength packet := by
    unfold ipv4HeaderLength
    rw [version]
  rw [sameVersion]
  split at found
  · rename_i four
    rw [if_pos four]
    simp only [bind_eq_ok, rejectIf_eq_ok, pure_eq_ok] at found
    obtain ⟨_, bounds, _, whole, built⟩ := found
    cases built
    rw [if_neg Bool.false_ne_true] at fields behind
    have protocolByte := fields 9 (by omega) (by omega)
    have flags : wordAt other 6 = wordAt packet 6 :=
      wordAt_congr fields (by omega) (by omega)
    unfold LengthField at length
    rw [if_neg Bool.false_ne_true] at length
    rw [sameHeader, protocolByte, flags, rejectIf_of_not, ok_bind,
      rejectIf_of_not whole, ok_bind, pure_eq_ok]
    intro failing
    rcases failing with small | large | wrong | mismatched
    · omega
    · omega
    · exact bounds (Or.inr (Or.inr (Or.inl wrong)))
    · exact mismatched length
  · rename_i notFour
    rw [if_neg notFour]
    split at found
    · rename_i six
      rw [if_pos six]
      simp only [bind_eq_ok, rejectIf_eq_ok, pure_eq_ok, ipv6Transport]
        at found
      obtain ⟨transport, ⟨_, _, walked⟩, _, bounds, built⟩ := found
      cases built
      rw [if_pos rfl] at fields behind
      have next := fields 6 (by omega) (by omega)
      unfold LengthField at length
      rw [if_pos rfl] at length
      have sameChain := ipv6Headers_congr walked (chain rfl) (by omega)
      unfold ipv6Transport
      rw [rejectIf_of_not (by omega), ok_bind, next, sameChain, ok_bind,
        rejectIf_of_not, ok_bind, pure_eq_ok]
      intro failing
      rcases failing with wrong | large
      · exact bounds (Or.inl wrong)
      · omega
    · cases found

/-! ### The original resolver -/

def destinationBytes (packet : Packet) (ipv6 : Bool) : Packet :=
  if ipv6 then slice packet 24 16 else slice packet 16 4

def originalServer (platform : Platform) (packet : Packet) (view : UdpView) :
    Server :=
  { name := text "Original intercepted resolver"
    protocol := .udp
    ip := platform.formatIp (destinationBytes packet view.ipv6) view.ipv6
    port := UInt16.ofNat (wordAt packet (view.udp + 2)) }

def isLinkLocal (packet : Packet) : Bool :=
  byteAt packet 24 == 0xfe && byteAt packet 25 &&& 0xc0 == 0x80

def destinationIp (platform : Platform) (packet : Packet) (ipv6 : Bool)
    (scope6 : UInt32) : Bytes :=
  let address := platform.formatIp (destinationBytes packet ipv6) ipv6
  if ipv6 && scope6 != 0 && isLinkLocal packet then
    address ++ byte '%' :: decimal scope6.toNat
  else address

end NativeDNS
