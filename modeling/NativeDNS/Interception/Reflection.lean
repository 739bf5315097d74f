/-
Reflected TCP segments as an address translation.

A segment on its way to the stream proxy and one on its way back go through
the same rewrite, which exchanges the addresses and writes one port.  Taken
together the two directions give the client a connection with the server it
called.
-/
import NativeDNS.Interception.Datagram

namespace NativeDNS

open OnesComplement
open CheckedResult

/-- The bytes that a reflection may change: the addresses, one port and the
checksums. -/
def ReflectedByte (ipv6 : Bool) (port checksum position : Nat) : Prop :=
  (if ipv6 then 8 ≤ position ∧ position < 40
    else 10 ≤ position ∧ position < 20) ∨
    (position = port ∨ position = port + 1) ∨
    (position = checksum ∨ position = checksum + 1)

/-- A segment with the ends of its connection exchanged but for one port. -/
structure ReflectedSegment (captured : Packet) (view : TcpView)
    (portOffset port : Nat) (result : Packet) : Prop where
  length : result.length = captured.length
  viewed : tcpView result = .ok view
  source : sourceBytes result view.ipv6 = destinationBytes captured view.ipv6
  destination : destinationBytes result view.ipv6 =
    sourceBytes captured view.ipv6
  port : wordAt result (view.tcp + portOffset) = port
  kept : ∀ position,
    ¬ ReflectedByte view.ipv6 (view.tcp + portOffset) (view.tcp + 16)
      position → byteAt result position = byteAt captured position
  sequence : dwordAt result (view.tcp + 4) = dwordAt captured (view.tcp + 4) ∧
    dwordAt result (view.tcp + 8) = dwordAt captured (view.tcp + 8)
  flags : tcpFlags result view.tcp = tcpFlags captured view.tcp
  payload : result.drop view.payload = captured.drop view.payload
  headerVerifies : view.ipv6 = false → HeaderVerifies view.tcp result
  segmentVerifies : TransportVerifies view.ipv6 protocolTcp view.tcp result

/-! ### The view of a segment -/

structure TcpViewed (packet : Packet) (view : TcpView) : Prop where
  long : 40 ≤ packet.length
  header : transportHeader protocolTcp 20 "Invalid IPv4 TCP packet"
    "Fragmented TCP packet is unsupported" "IPv6 packet is not TCP" packet =
      .ok (view.tcp, view.ipv6)
  payloadEq : view.payload = view.tcp + tcpHeaderLength packet view.tcp
  headerLong : 20 ≤ tcpHeaderLength packet view.tcp
  fits : view.payload ≤ packet.length

theorem tcpView_eq_ok {packet : Packet} {view : TcpView} :
    tcpView packet = .ok view ↔ TcpViewed packet view := by
  simp only [tcpView, bind_eq_ok, rejectIf_eq_ok, pure_eq_ok]
  constructor
  · rintro ⟨_, long, ⟨tcp, ipv6⟩, header, _, bounds, built⟩
    cases built
    dsimp only at bounds
    exact
      { long := by omega
        header := header
        payloadEq := rfl
        headerLong := by
          dsimp only
          omega
        fits := by
          dsimp only
          omega }
  · intro parts
    have long := parts.long
    have headerLong := parts.headerLong
    have fits := parts.fits
    rw [parts.payloadEq] at fits
    refine ⟨(), by omega, (view.tcp, view.ipv6), parts.header, (), ?_, ?_⟩
    · dsimp only
      omega
    · dsimp only
      rw [← parts.payloadEq]

/-! ### The rewrite before its checksums -/

section Rewrite

variable {view : TcpView} {captured : Packet} {portOffset port : Nat}

def unsummedSegment (view : TcpView) (portOffset port : Nat)
    (captured : Packet) : Packet :=
  putWord
    (putWord (exchangeAddresses view.ipv6 captured) (view.tcp + portOffset) port)
    (view.tcp + 16) 0

@[simp] theorem unsummedSegment_length :
    (unsummedSegment view portOffset port captured).length =
      captured.length := by
  unfold unsummedSegment
  rw [putWord_length, putWord_length, exchangeAddresses_length]

theorem byteAt_unsummedSegment
    (within : (if view.ipv6 then 40 else 20) ≤ captured.length)
    {position : Nat}
    (outside : ¬ (position = view.tcp + portOffset ∨
      position = view.tcp + portOffset + 1) ∧
      ¬ (position = view.tcp + 16 ∨ position = view.tcp + 16 + 1)) :
    byteAt (unsummedSegment view portOffset port captured) position =
      byteAt captured (exchangedOffset view.ipv6 position) := by
  unfold unsummedSegment
  rw [byteAt_putWord_of_outside (by omega),
    byteAt_putWord_of_outside (by omega), byteAt_exchangeAddresses within]

theorem reflectedTcpPacket_eq :
    reflectedTcpPacket view portOffset port captured =
      sealPacket view.ipv6 view.tcp (view.tcp + 16)
        (checksumAdd
          (tcpPseudoSum view.ipv6
            ((unsummedSegment view portOffset port captured).length - view.tcp)
            (unsummedSegment view portOffset port captured))
          ((unsummedSegment view portOffset port captured).drop view.tcp))
        (unsummedSegment view portOffset port captured) :=
  rfl

theorem reflectedTcpPacket_sealed (parts : TcpViewed captured view) :
    SealedOf view.ipv6 protocolTcp view.tcp (view.tcp + 16)
      (unsummedSegment view portOffset port captured)
      (reflectedTcpPacket view portOffset port captured) := by
  have behind := transportHeader_ge parts.header
  obtain ⟨lengthField, fits, ipv4Small⟩ := transportHeader_length parts.header
  have bounded : captured.length ≤ view.tcp + 65535 := by
    unfold LengthField at lengthField
    have versionFour := wordAt_lt captured 2
    have versionSix := wordAt_lt captured 4
    split at lengthField
    · rename_i six
      rw [if_pos six] at behind
      omega
    · omega
  have headers : (if view.ipv6 then 40 else 20) ≤
      (unsummedSegment view portOffset port captured).length := by
    rw [unsummedSegment_length]
    omega
  have sums := @segmentSum_lt view.ipv6 protocolTcp
    ((unsummedSegment view portOffset port captured).length - view.tcp) view.tcp
    _ headers (by rw [unsummedSegment_length]; omega)
  rw [reflectedTcpPacket_eq]
  apply sealPacket_sealed behind (by omega)
    (by rw [unsummedSegment_length]; omega)
    (by rw [unsummedSegment_length]; omega)
    (fun ipv4 => by have := ipv4Small ipv4; omega)
  · unfold unsummedSegment
    rw [wordAt_putWord (by
      rw [putWord_length, exchangeAddresses_length]
      omega) (by omega)]
  · rw [tcpPseudoSum_eq headers (by omega), checksumAdd_eq sums]

/-- Every byte of a reflected segment but the port and the checksums comes
from its exchanged position. -/
theorem reflected_byte (parts : TcpViewed captured view) {position : Nat}
    (outside : ¬ (position = view.tcp + portOffset ∨
      position = view.tcp + portOffset + 1) ∧
      ¬ (position = view.tcp + 16 ∨ position = view.tcp + 16 + 1))
    (notHeader : view.ipv6 = false → position ≠ 10 ∧ position ≠ 11) :
    byteAt (reflectedTcpPacket view portOffset port captured) position =
      byteAt captured (exchangedOffset view.ipv6 position) := by
  have behind := transportHeader_ge parts.header
  obtain ⟨_, fits, _⟩ := transportHeader_length parts.header
  have closed := @reflectedTcpPacket_sealed view captured portOffset port parts
  rw [closed.kept position (by omega) (by omega) notHeader,
    byteAt_unsummedSegment (by omega) outside]

theorem reflected_kept (parts : TcpViewed captured view) {position : Nat}
    (unreflected : ¬ ReflectedByte view.ipv6 (view.tcp + portOffset)
      (view.tcp + 16) position) :
    byteAt (reflectedTcpPacket view portOffset port captured) position =
      byteAt captured position := by
  unfold ReflectedByte at unreflected
  have addresses : ¬ (if view.ipv6 then 8 ≤ position ∧ position < 40
      else 10 ≤ position ∧ position < 20) :=
    fun inside => unreflected (Or.inl inside)
  rw [reflected_byte parts (by omega)]
  · congr 1
    unfold exchangedOffset
    split
    · rename_i six
      rw [if_pos six] at addresses
      rw [if_neg (by omega), if_neg (by omega)]
    · rename_i four
      rw [if_neg four] at addresses
      rw [if_neg (by omega), if_neg (by omega)]
  · intro ipv4
    rw [ipv4, if_neg Bool.false_ne_true] at addresses
    omega

theorem reflected_addresses (parts : TcpViewed captured view) :
    sourceBytes (reflectedTcpPacket view portOffset port captured) view.ipv6 =
        destinationBytes captured view.ipv6 ∧
      destinationBytes (reflectedTcpPacket view portOffset port captured)
          view.ipv6 =
        sourceBytes captured view.ipv6 := by
  have behind := transportHeader_ge parts.header
  obtain ⟨_, fits, _⟩ := transportHeader_length parts.header
  have closed := @reflectedTcpPacket_sealed view captured portOffset port parts
  have length := closed.length
  rw [unsummedSegment_length] at length
  apply addresses_exchanged (by omega) (by omega)
  intro position lower upper
  apply reflected_byte parts (by omega)
  intro ipv4
  rw [ipv4, if_neg Bool.false_ne_true] at lower
  omega

theorem reflected_port (parts : TcpViewed captured view)
    (named : portOffset ≤ 2) (small : port < 65536) :
    wordAt (reflectedTcpPacket view portOffset port captured)
      (view.tcp + portOffset) = port := by
  have behind := transportHeader_ge parts.header
  obtain ⟨_, fits, _⟩ := transportHeader_length parts.header
  have fixedPart : 20 ≤ view.tcp := by
    split at behind <;> omega
  have closed := @reflectedTcpPacket_sealed view captured portOffset port parts
  have same : AgreeOn (reflectedTcpPacket view portOffset port captured)
      (unsummedSegment view portOffset port captured) (view.tcp + portOffset)
      (view.tcp + portOffset + 2) :=
    fun position lower upper => closed.kept position (by omega) (by omega)
      (fun _ => by omega)
  rw [wordAt_congr_self same]
  unfold unsummedSegment
  rw [wordAt_putWord_of_outside (by omega), wordAt_putWord (by
    rw [exchangeAddresses_length]
    omega) small]

/-- The bytes behind the fixed part of the IP header that a reflection does
not write. -/
theorem unreflected_transport {ipv6 : Bool} {tcp position : Nat}
    (behind : (if ipv6 then 40 else 20) ≤ tcp) (lower : tcp ≤ position)
    (notPort : ¬ (position = tcp + portOffset ∨ position = tcp + portOffset + 1))
    (notChecksum : ¬ (position = tcp + 16 ∨ position = tcp + 16 + 1)) :
    ¬ ReflectedByte ipv6 (tcp + portOffset) (tcp + 16) position := by
  unfold ReflectedByte
  cases ipv6 with
  | false =>
      simp only [Bool.false_eq_true, if_false] at behind ⊢
      omega
  | true =>
      simp only [if_true] at behind ⊢
      omega

/-- The version, length, protocol and extension header bytes are not
reflected. -/
theorem unreflected_headers {ipv6 : Bool} {tcp position : Nat}
    (behind : (if ipv6 then 40 else 20) ≤ tcp) (inside : position < tcp)
    (fixed : position < (if ipv6 then 8 else 10) ∨ 40 ≤ position) :
    ¬ ReflectedByte ipv6 (tcp + portOffset) (tcp + 16) position := by
  unfold ReflectedByte
  cases ipv6 with
  | false =>
      simp only [Bool.false_eq_true, if_false] at behind fixed ⊢
      omega
  | true =>
      simp only [if_true] at behind fixed ⊢
      omega

theorem reflected_viewed (parts : TcpViewed captured view)
    (named : portOffset ≤ 2) :
    TcpViewed (reflectedTcpPacket view portOffset port captured) view := by
  have behind := transportHeader_ge parts.header
  obtain ⟨lengthField, fits, _⟩ := transportHeader_length parts.header
  have fixedPart : 20 ≤ view.tcp := by
    split at behind <;> omega
  have closed := @reflectedTcpPacket_sealed view captured portOffset port parts
  have length := closed.length
  rw [unsummedSegment_length] at length
  have headerByte : ∀ position < view.tcp,
      position < (if view.ipv6 then 8 else 10) ∨ 40 ≤ position →
        byteAt (reflectedTcpPacket view portOffset port captured) position =
          byteAt captured position :=
    fun position inside fixed => reflected_kept parts
      (unreflected_headers behind inside fixed)
  have early : ∀ position < 8, byteAt
      (reflectedTcpPacket view portOffset port captured) position =
        byteAt captured position :=
    fun position before => headerByte position (by omega)
      (Or.inl (by split <;> omega))
  have field : LengthField view.ipv6
      (reflectedTcpPacket view portOffset port captured) := by
    unfold LengthField at lengthField ⊢
    rw [length]
    rw [wordAt_congr (fun position _ upper => early position (by omega))
      (Nat.le_refl 4) (Nat.le_refl 6),
      wordAt_congr (fun position _ upper => early position (by omega))
      (Nat.le_refl 2) (Nat.le_refl 4)]
    exact lengthField
  have sameLength : tcpHeaderLength
      (reflectedTcpPacket view portOffset port captured) view.tcp =
        tcpHeaderLength captured view.tcp := by
    unfold tcpHeaderLength
    rw [reflected_kept parts
      (unreflected_transport behind (by omega) (by omega) (by omega))]
  exact
    { long := by rw [length]; exact parts.long
      header := transportHeader_congr parts.header
        (early 0 (by omega))
        (fun position _ upper => headerByte position
          (by split at upper <;> omega)
          (Or.inl (by split <;> split at upper <;> omega)))
        (fun _ position lower upper => headerByte position upper
          (Or.inr lower))
        field (by omega)
      payloadEq := by rw [sameLength]; exact parts.payloadEq
      headerLong := by rw [sameLength]; exact parts.headerLong
      fits := by rw [length]; exact parts.fits }

end Rewrite

/-! ### Reflected segments -/

theorem reflectedTcpPacket_segment {view : TcpView} {captured : Packet}
    {portOffset port : Nat} (viewed : tcpView captured = .ok view)
    (named : portOffset = 0 ∨ portOffset = 2) (small : port < 65536) :
    ReflectedSegment captured view portOffset port
      (reflectedTcpPacket view portOffset port captured) := by
  have parts := tcpView_eq_ok.mp viewed
  have behind := transportHeader_ge parts.header
  have headerLong := parts.headerLong
  have payloadEq := parts.payloadEq
  have closed := @reflectedTcpPacket_sealed view captured portOffset port parts
  have length := closed.length
  rw [unsummedSegment_length] at length
  have ends := @reflected_addresses view captured portOffset port parts
  have transportByte : ∀ position, view.tcp + 4 ≤ position →
      ¬ (position = view.tcp + 16 ∨ position = view.tcp + 16 + 1) →
        byteAt (reflectedTcpPacket view portOffset port captured) position =
          byteAt captured position :=
    fun position lower notChecksum => reflected_kept parts
      (unreflected_transport behind (by omega) (by omega) notChecksum)
  exact
    { length := length
      viewed := tcpView_eq_ok.mpr (reflected_viewed parts (by omega))
      source := ends.1
      destination := ends.2
      port := reflected_port parts (by omega) small
      kept := fun position unreflected => reflected_kept parts unreflected
      sequence := by
        constructor
        · exact dwordAt_congr_self (fun position lower upper =>
            transportByte position lower (by omega))
        · exact dwordAt_congr_self (fun position lower upper =>
            transportByte position (by omega) (by omega))
      flags := transportByte (view.tcp + 13) (by omega) (by omega)
      payload := by
        apply List.ext_getElem?
        intro index
        rw [List.getElem?_drop, List.getElem?_drop]
        by_cases inside : view.payload + index < captured.length
        · have same := transportByte (view.payload + index) (by omega) (by omega)
          unfold byteAt at same
          rw [List.getD_eq_getElem?_getD, List.getD_eq_getElem?_getD,
            List.getElem?_eq_getElem (by omega),
            List.getElem?_eq_getElem inside] at same
          rw [List.getElem?_eq_getElem (by omega),
            List.getElem?_eq_getElem inside]
          exact congrArg some same
        · rw [List.getElem?_eq_none (by omega), List.getElem?_eq_none (by omega)]
      headerVerifies := closed.headerVerifies
      segmentVerifies := closed.transportVerifies }

theorem ReflectedSegment.otherPort {captured result : Packet} {view : TcpView}
    {portOffset port other : Nat}
    (reflected : ReflectedSegment captured view portOffset port result)
    (ports : (portOffset = 2 ∧ other = 0) ∨ (portOffset = 0 ∧ other = 2)) :
    wordAt result (view.tcp + other) = wordAt captured (view.tcp + other) := by
  have parts := tcpView_eq_ok.mp reflected.viewed
  have behind := transportHeader_ge parts.header
  exact wordAt_congr_self (fun position lower upper =>
    reflected.kept position
      (unreflected_transport behind (by omega) (by omega) (by omega)))

theorem makeReflectedTcpPacket_toward {captured : Packet} {view : TcpView}
    {proxyPort interceptedPort : Nat} (viewed : tcpView captured = .ok view)
    (addressed : wordAt captured (view.tcp + 2) = interceptedPort)
    (named : ¬ (proxyPort = 0 ∨ interceptedPort = 0)) :
    makeReflectedTcpPacket captured proxyPort true interceptedPort =
      .ok (reflectedTcpPacket view 2 proxyPort captured) := by
  unfold makeReflectedTcpPacket
  rw [viewed, ok_bind, rejectIf_of_not named, ok_bind,
    rejectIf_of_not (fun failing => failing.2 addressed), ok_bind,
    rejectIf_of_not (fun failing => Bool.noConfusion failing.1), ok_bind,
    if_pos rfl, if_pos rfl, pure_eq_ok]

theorem makeReflectedTcpPacket_back {answer : Packet} {view : TcpView}
    {proxyPort interceptedPort : Nat} (viewed : tcpView answer = .ok view)
    (sourcePort : wordAt answer view.tcp = proxyPort)
    (named : ¬ (proxyPort = 0 ∨ interceptedPort = 0)) :
    makeReflectedTcpPacket answer proxyPort false interceptedPort =
      .ok (reflectedTcpPacket view 0 interceptedPort answer) := by
  unfold makeReflectedTcpPacket
  rw [viewed, ok_bind, rejectIf_of_not named, ok_bind,
    rejectIf_of_not (fun failing => Bool.noConfusion failing.1), ok_bind,
    rejectIf_of_not (fun failing => failing.2 sourcePort), ok_bind,
    if_neg Bool.false_ne_true, if_neg Bool.false_ne_true, pure_eq_ok]

/-- A segment the proxy sends on a reflected connection: the addresses of the
reflected segment exchanged, from the proxy port to the client's port. -/
structure ProxyAnswer (captured : Packet) (view : TcpView) (proxyPort : Nat)
    (reflected answer : Packet) (answerView : TcpView) : Prop where
  viewed : tcpView answer = .ok answerView
  version : answerView.ipv6 = view.ipv6
  source : sourceBytes answer view.ipv6 = destinationBytes reflected view.ipv6
  destination : destinationBytes answer view.ipv6 =
    sourceBytes reflected view.ipv6
  sourcePort : wordAt answer answerView.tcp = proxyPort
  destinationPort : wordAt answer (answerView.tcp + 2) =
    wordAt captured view.tcp

/-- A segment that comes from the server and port the client called and goes
to the client and its port. -/
structure ServerAnswer (captured : Packet) (view : TcpView)
    (interceptedPort : Nat) (returned : Packet) (answerView : TcpView) :
    Prop where
  source : sourceBytes returned view.ipv6 = destinationBytes captured view.ipv6
  destination : destinationBytes returned view.ipv6 =
    sourceBytes captured view.ipv6
  sourcePort : wordAt returned answerView.tcp = interceptedPort
  destinationPort : wordAt returned (answerView.tcp + 2) =
    wordAt captured view.tcp

theorem ProxyAnswer.returned {captured reflected answer : Packet}
    {view answerView : TcpView} {proxyPort interceptedPort : Nat}
    (toward : ReflectedSegment captured view 2 proxyPort reflected)
    (sent : ProxyAnswer captured view proxyPort reflected answer answerView)
    (small : interceptedPort < 65536) :
    ReflectedSegment answer answerView 0 interceptedPort
        (reflectedTcpPacket answerView 0 interceptedPort answer) ∧
      ServerAnswer captured view interceptedPort
        (reflectedTcpPacket answerView 0 interceptedPort answer)
        answerView := by
  have back := @reflectedTcpPacket_segment answerView answer 0 interceptedPort
    sent.viewed (Or.inl rfl) small
  have source := back.source
  have destination := back.destination
  rw [sent.version] at source destination
  exact ⟨back,
    { source := by rw [source, sent.destination, toward.source]
      destination := by rw [destination, sent.source, toward.destination]
      sourcePort := back.port
      destinationPort :=
        (back.otherPort (Or.inr ⟨rfl, rfl⟩)).trans sent.destinationPort }⟩

/-- Reflection toward the proxy and back is an exact address translation: the
client's segment reaches the proxy as one of the original server to the proxy
port, and whatever the proxy sends back on that connection reaches the client
as one of the original server from the intercepted port. -/
theorem makeReflectedTcpPacket_translates {captured : Packet} {view : TcpView}
    {proxyPort interceptedPort : UInt16} (viewed : tcpView captured = .ok view)
    (addressed : wordAt captured (view.tcp + 2) = interceptedPort.toNat)
    (proxy : proxyPort ≠ 0) (intercepted : interceptedPort ≠ 0) :
    ∃ reflected,
      makeReflectedTcpPacket captured proxyPort.toNat true
          interceptedPort.toNat = .ok reflected ∧
        ReflectedSegment captured view 2 proxyPort.toNat reflected ∧
        wordAt reflected view.tcp = wordAt captured view.tcp ∧
        ∀ (answer : Packet) (answerView : TcpView),
          ProxyAnswer captured view proxyPort.toNat reflected answer
              answerView →
            ∃ returned,
              makeReflectedTcpPacket answer proxyPort.toNat false
                  interceptedPort.toNat = .ok returned ∧
                ReflectedSegment answer answerView 0 interceptedPort.toNat
                  returned ∧
                ServerAnswer captured view interceptedPort.toNat returned
                  answerView := by
  have named : ¬ (proxyPort.toNat = 0 ∨ interceptedPort.toNat = 0) := by
    intro failing
    rcases failing with zero | zero
    · exact proxy (UInt16.toNat_inj.mp zero)
    · exact intercepted (UInt16.toNat_inj.mp zero)
  have proxySmall : proxyPort.toNat < 65536 := proxyPort.toNat_lt
  have interceptedSmall : interceptedPort.toNat < 65536 :=
    interceptedPort.toNat_lt
  have toward := @reflectedTcpPacket_segment view captured 2 proxyPort.toNat
    viewed (Or.inr rfl) proxySmall
  have clientPort := @ReflectedSegment.otherPort _ _ _ _ _ 0 toward
    (Or.inl ⟨rfl, rfl⟩)
  refine ⟨reflectedTcpPacket view 2 proxyPort.toNat captured,
    makeReflectedTcpPacket_toward viewed addressed named, toward, clientPort, ?_⟩
  intro answer answerView sent
  obtain ⟨back, server⟩ := sent.returned toward interceptedSmall
  exact ⟨reflectedTcpPacket answerView 0 interceptedPort.toNat answer,
    makeReflectedTcpPacket_back sent.viewed sent.sourcePort named, back, server⟩

/-- A client segment from port 51000 to port 53, with four bytes of data. -/
def clientSegment : Packet :=
  [0x45, 0, 0, 44, 0, 1, 0, 0, 64, 6, 0, 0, 192, 0, 2, 10, 8, 8, 8, 8] ++
    [199, 56, 0, 53, 0, 0, 0, 1, 0, 0, 0, 2, 0x50, 0x18, 16, 0, 0, 0, 0, 0] ++
    [0, 2, 7, 9]

def proxySegment : Packet :=
  [0x45, 0, 0, 40, 0, 2, 0, 0, 64, 6, 0, 0, 192, 0, 2, 10, 8, 8, 8, 8] ++
    [132, 218, 199, 56, 0, 0, 0, 2, 0, 0, 0, 5, 0x50, 0x10, 16, 0, 0, 0, 0, 0]

theorem makeReflectedTcpPacket_translates_client :
    ∃ reflected,
      makeReflectedTcpPacket clientSegment 34010 true 53 = .ok reflected ∧
        ReflectedSegment clientSegment
          { tcp := 20
            payload := 40
            ipv6 := false } 2 34010 reflected ∧
        ∃ returned,
          makeReflectedTcpPacket proxySegment 34010 false 53 = .ok returned ∧
            ServerAnswer clientSegment
              { tcp := 20
                payload := 40
                ipv6 := false } 53 returned
              { tcp := 20
                payload := 40
                ipv6 := false } := by
  obtain ⟨reflected, made, segment, _, answers⟩ :=
    @makeReflectedTcpPacket_translates clientSegment
      { tcp := 20
        payload := 40
        ipv6 := false } 34010 53 (by rfl) (by decide) (by decide) (by decide)
  have source : sourceBytes proxySegment false =
      destinationBytes reflected false := by
    rw [segment.destination]
    rfl
  have destination : destinationBytes proxySegment false =
      sourceBytes reflected false := by
    rw [segment.source]
    rfl
  obtain ⟨returned, back, _, server⟩ := answers proxySegment
    { tcp := 20
      payload := 40
      ipv6 := false }
    { viewed := by rfl
      version := rfl
      source := source
      destination := destination
      sourcePort := by decide
      destinationPort := by decide }
  exact ⟨reflected, made, segment, returned, back, server⟩

end NativeDNS
