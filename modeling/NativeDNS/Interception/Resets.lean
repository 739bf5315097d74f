/-
Resets for captured TCP segments.

A reset is made in two stages: the fixed header of the captured segment with
its ports exchanged and its fields rewritten, and the reflection of that half
built packet, which must still be viewed like any captured one.
-/
import NativeDNS.Interception.Reflection

namespace NativeDNS

open CheckedResult

def hasFlag (captured : Packet) (tcp : Nat) (mask : UInt8) : Bool :=
  tcpFlags captured tcp &&& mask != 0

/-- The sequence numbers a segment takes up: its payload, SYN and FIN. -/
def sequenceSpace (captured : Packet) (view : TcpView) : Nat :=
  (captured.drop view.payload).length +
    (hasFlag captured view.tcp 0x02).toNat +
    (hasFlag captured view.tcp 0x01).toNat

def resetView (view : TcpView) : TcpView :=
  { tcp := view.tcp
    payload := view.tcp + 20
    ipv6 := view.ipv6 }

/-- The fields of a reset behind its ports: one that answers an acknowledgment
takes its sequence number, any other one acknowledges the whole segment. -/
structure ResetFields (captured : Packet) (view : TcpView) (reset : Packet) :
    Prop where
  flags : tcpFlags reset view.tcp =
    if hasFlag captured view.tcp 0x10 then 0x04 else 0x14
  sequence : dwordAt reset (view.tcp + 4) =
    if hasFlag captured view.tcp 0x10 then dwordAt captured (view.tcp + 8)
    else 0
  acknowledgement : dwordAt reset (view.tcp + 8) =
    if hasFlag captured view.tcp 0x10 then 0
    else (dwordAt captured (view.tcp + 4) + sequenceSpace captured view) %
      2 ^ 32

/-- A reset that answers a captured segment. -/
structure ResetOf (captured : Packet) (view : TcpView) (reset : Packet) :
    Prop where
  length : reset.length = view.tcp + 20
  viewed : tcpView reset = .ok (resetView view)
  noPayload : reset.drop (resetView view).payload = []
  source : sourceBytes reset view.ipv6 = destinationBytes captured view.ipv6
  destination : destinationBytes reset view.ipv6 =
    sourceBytes captured view.ipv6
  sourcePort : wordAt reset view.tcp = wordAt captured (view.tcp + 2)
  destinationPort : wordAt reset (view.tcp + 2) = wordAt captured view.tcp
  fields : ResetFields captured view reset
  headerVerifies : view.ipv6 = false → HeaderVerifies view.tcp reset
  segmentVerifies : TransportVerifies view.ipv6 protocolTcp view.tcp reset

/-! ### The half built packet -/

section HalfBuilt

variable {captured : Packet} {view : TcpView}

theorem byteAt_take {packet : Packet} {bound position : Nat}
    (before : position < bound) :
    byteAt (packet.take bound) position = byteAt packet position := by
  unfold byteAt
  rw [List.getD_eq_getElem?_getD, List.getElem?_take_of_lt before,
    List.getD_eq_getElem?_getD]

/-- The captured header cut behind its fixed part, with the ports exchanged
and everything behind them cleared. -/
def clearedSegment (captured : Packet) (tcp : Nat) : Packet :=
  (((exchangePorts tcp (captured.take (tcp + 20))).take (tcp + 4)) ++
    List.replicate 16 0).set (tcp + 12) 0x50

theorem clearedSegment_length {tcp : Nat} (fits : tcp + 20 ≤ captured.length) :
    (clearedSegment captured tcp).length = tcp + 20 := by
  unfold clearedSegment
  rw [List.length_set, List.length_append, List.length_take,
    exchangePorts_length, List.length_take, List.length_replicate]
  omega

theorem byteAt_clearedSegment {tcp position : Nat}
    (fits : tcp + 20 ≤ captured.length) (before : position < tcp + 4) :
    byteAt (clearedSegment captured tcp) position =
      byteAt captured
        (if position = tcp ∨ position = tcp + 1 then position + 2
        else if position = tcp + 2 ∨ position = tcp + 3 then position - 2
        else position) := by
  have front : ((exchangePorts tcp (captured.take (tcp + 20))).take
      (tcp + 4)).length = tcp + 4 := by
    rw [List.length_take, exchangePorts_length, List.length_take]
    omega
  unfold clearedSegment
  rw [byteAt_set_of_ne (by omega), byteAt_append_left (by omega),
    byteAt_take before,
    byteAt_exchangePorts (by rw [List.length_take]; omega)]
  apply byteAt_take
  split
  · omega
  · split <;> omega

theorem byteAt_clearedSegment_fields {tcp position : Nat}
    (fits : tcp + 20 ≤ captured.length) (behind : tcp + 4 ≤ position)
    (notOffset : position ≠ tcp + 12) :
    byteAt (clearedSegment captured tcp) position = 0 := by
  have front : ((exchangePorts tcp (captured.take (tcp + 20))).take
      (tcp + 4)).length = tcp + 4 := by
    rw [List.length_take, exchangePorts_length, List.length_take]
    omega
  unfold clearedSegment
  rw [byteAt_set_of_ne (Ne.symm notOffset), byteAt_append_right (by omega)]
  unfold byteAt
  rw [List.getD_eq_getElem?_getD, List.getElem?_replicate]
  split <;> rfl

/-- The half built packet: one number and the flags written into the cleared
segment, and its length into the IP header. -/
def halfBuiltReset (captured : Packet) (view : TcpView) (number value : Nat)
    (flags : UInt8) : Packet :=
  let result := (putDword (clearedSegment captured view.tcp)
    (view.tcp + number) value).set (view.tcp + 13) flags
  putWord result (if view.ipv6 then 4 else 2)
    (result.length - (if view.ipv6 then 40 else 0))

/-- Both kinds of resets are half built alike, but for the number that is
written and the flags. -/
theorem resetSegment_eq :
    resetSegment captured view =
      if hasFlag captured view.tcp 0x10 then
        halfBuiltReset captured view 4 (dwordAt captured (view.tcp + 8)) 0x04
      else
        halfBuiltReset captured view 8 (resetAcknowledgement captured view)
          0x14 := by
  unfold resetSegment hasFlag halfBuiltReset clearedSegment
  dsimp only
  by_cases acknowledged : tcpFlags captured view.tcp &&& 0x10 ≠ 0
  · rw [if_pos acknowledged, if_pos (bne_iff_ne.mpr acknowledged)]
  · rw [if_neg acknowledged, if_neg (fun flagged =>
      acknowledged (bne_iff_ne.mp flagged))]

section Numbers

variable {number value : Nat} {flags : UInt8}

theorem halfBuiltReset_length (fits : view.tcp + 20 ≤ captured.length) :
    (halfBuiltReset captured view number value flags).length =
      view.tcp + 20 := by
  unfold halfBuiltReset
  dsimp only
  rw [putWord_length, List.length_set, putDword_length,
    clearedSegment_length fits]

/-- Behind the length field only the number and the flags differ from the
cleared segment. -/
theorem byteAt_halfBuiltReset {position : Nat}
    (notLength : position < 2 ∨ 6 ≤ position)
    (notNumber : position < view.tcp + number ∨
      view.tcp + number + 4 ≤ position)
    (notFlags : position ≠ view.tcp + 13) :
    byteAt (halfBuiltReset captured view number value flags) position =
      byteAt (clearedSegment captured view.tcp) position := by
  unfold halfBuiltReset
  dsimp only
  rw [byteAt_putWord_of_outside (by split <;> omega),
    byteAt_set_of_ne (Ne.symm notFlags), byteAt_putDword_of_outside notNumber]

theorem halfBuiltReset_lengthField (fits : view.tcp + 20 ≤ captured.length)
    (field : LengthField view.ipv6 captured)
    (fixedPart : (if view.ipv6 then 40 else 20) ≤ view.tcp) :
    LengthField view.ipv6
      (halfBuiltReset captured view number value flags) := by
  have length := @halfBuiltReset_length captured view number value flags fits
  have versionFour := wordAt_lt captured 2
  have versionSix := wordAt_lt captured 4
  unfold LengthField at field ⊢
  rw [length]
  unfold halfBuiltReset
  dsimp only
  rw [List.length_set, putDword_length, clearedSegment_length fits]
  have within : ∀ offset, offset < 10 → offset + 1 <
      ((putDword (clearedSegment captured view.tcp) (view.tcp + number)
        value).set (view.tcp + 13) flags).length := by
    intro offset small
    rw [List.length_set, putDword_length, clearedSegment_length fits]
    omega
  split
  · rename_i six
    rw [if_pos six] at field fixedPart
    rw [wordAt_putWord (within 4 (by omega)) (by omega)]
    omega
  · rename_i four
    rw [if_neg four] at field
    rw [wordAt_putWord (within 2 (by omega)) (by omega)]
    omega

theorem halfBuiltReset_flags (behind : 20 ≤ view.tcp)
    (fits : view.tcp + 20 ≤ captured.length) :
    tcpFlags (halfBuiltReset captured view number value flags) view.tcp =
      flags := by
  unfold tcpFlags halfBuiltReset
  dsimp only
  rw [byteAt_putWord_of_outside (by split <;> omega), byteAt_set_self]
  rw [putDword_length, clearedSegment_length fits]
  omega

theorem halfBuiltReset_number (behind : 20 ≤ view.tcp)
    (fits : view.tcp + 20 ≤ captured.length) (named : number ≤ 8)
    (small : value < 4294967296) :
    dwordAt (halfBuiltReset captured view number value flags)
      (view.tcp + number) = value := by
  have same : AgreeOn (halfBuiltReset captured view number value flags)
      (putDword (clearedSegment captured view.tcp) (view.tcp + number) value)
      (view.tcp + number) (view.tcp + number + 4) := by
    intro position lower upper
    unfold halfBuiltReset
    dsimp only
    rw [byteAt_putWord_of_outside (by split <;> omega),
      byteAt_set_of_ne (by omega)]
  rw [dwordAt_congr_self same, dwordAt_putDword _ small]
  rw [clearedSegment_length fits]
  omega

theorem halfBuiltReset_otherNumber (behind : 20 ≤ view.tcp)
    (fits : view.tcp + 20 ≤ captured.length) {other : Nat}
    (numbers : (number = 4 ∧ other = 8) ∨ (number = 8 ∧ other = 4)) :
    dwordAt (halfBuiltReset captured view number value flags)
      (view.tcp + other) = 0 := by
  have zero : ∀ position, view.tcp + other ≤ position →
      position < view.tcp + other + 4 →
        byteAt (halfBuiltReset captured view number value flags) position =
          0 := by
    intro position lower upper
    rw [byteAt_halfBuiltReset (by omega) (by omega) (by omega),
      byteAt_clearedSegment_fields fits (by omega) (by omega)]
  rw [dwordAt_eq, zero _ (by omega) (by omega), zero _ (by omega) (by omega),
    zero _ (by omega) (by omega), zero _ (by omega) (by omega)]
  rfl

theorem byteAt_halfBuiltReset_header
    (fits : view.tcp + 20 ≤ captured.length) {position : Nat}
    (notLength : position < 2 ∨ 6 ≤ position) (inside : position < view.tcp) :
    byteAt (halfBuiltReset captured view number value flags) position =
      byteAt captured position := by
  rw [byteAt_halfBuiltReset notLength (by omega) (by omega),
    byteAt_clearedSegment fits (by omega), if_neg (by omega),
    if_neg (by omega)]

theorem halfBuiltReset_ports (behind : 20 ≤ view.tcp)
    (fits : view.tcp + 20 ≤ captured.length) (named : 4 ≤ number) :
    wordAt (halfBuiltReset captured view number value flags) view.tcp =
        wordAt captured (view.tcp + 2) ∧
      wordAt (halfBuiltReset captured view number value flags)
          (view.tcp + 2) =
        wordAt captured view.tcp := by
  have port : ∀ position, view.tcp ≤ position → position < view.tcp + 4 →
      byteAt (halfBuiltReset captured view number value flags) position =
        byteAt captured
          (if position = view.tcp ∨ position = view.tcp + 1 then position + 2
          else if position = view.tcp + 2 ∨ position = view.tcp + 3 then
            position - 2
          else position) := by
    intro position lower upper
    rw [byteAt_halfBuiltReset (by omega) (by omega) (by omega),
      byteAt_clearedSegment fits upper]
  constructor
  · unfold wordAt
    rw [port view.tcp (by omega) (by omega),
      port (view.tcp + 1) (by omega) (by omega), if_pos (by omega),
      if_pos (by omega)]
  · unfold wordAt
    rw [port (view.tcp + 2) (by omega) (by omega),
      port (view.tcp + 2 + 1) (by omega) (by omega), if_neg (by omega),
      if_pos (by omega), if_neg (by omega), if_pos (by omega)]
    rfl

theorem halfBuiltReset_viewed (parts : TcpViewed captured view)
    (named : number = 4 ∨ number = 8) :
    TcpViewed (halfBuiltReset captured view number value flags)
      (resetView view) := by
  have fixedPart := transportHeader_ge parts.header
  obtain ⟨field, fits, _⟩ := transportHeader_length parts.header
  have behind : 20 ≤ view.tcp := by
    split at fixedPart <;> omega
  have length := @halfBuiltReset_length captured view number value flags fits
  have kept : ∀ position, position < 2 ∨ 6 ≤ position → position < view.tcp →
      byteAt (halfBuiltReset captured view number value flags) position =
        byteAt captured position :=
    fun position notLength inside =>
      byteAt_halfBuiltReset_header fits notLength inside
  have offset : tcpHeaderLength
      (halfBuiltReset captured view number value flags) view.tcp = 20 := by
    unfold tcpHeaderLength
    rw [byteAt_halfBuiltReset (by omega) (by omega) (by omega)]
    unfold clearedSegment
    rw [byteAt_set_self]
    · rfl
    · rw [List.length_append, List.length_take, exchangePorts_length,
        List.length_take, List.length_replicate]
      omega
  exact
    { long := by rw [length]; omega
      header := transportHeader_congr parts.header
        (kept 0 (by omega) (by omega))
        (fun position lower upper => kept position (by omega)
          (by split at upper <;> omega))
        (fun _ position lower upper => kept position (by omega) upper)
        (halfBuiltReset_lengthField fits field fixedPart)
        (Nat.le_of_eq length.symm)
      payloadEq := by
        change view.tcp + 20 = _
        rw [← offset]
        rfl
      headerLong := Nat.le_of_eq offset.symm
      fits := Nat.le_of_eq length.symm }

end Numbers

/-! ### The reflected reset -/

theorem resetAcknowledgement_eq :
    resetAcknowledgement captured view =
      (dwordAt captured (view.tcp + 4) + sequenceSpace captured view) %
        2 ^ 32 := by
  have flag : ∀ mask : UInt8,
      (if tcpFlags captured view.tcp &&& mask ≠ 0 then 1 else 0) =
        (hasFlag captured view.tcp mask).toNat := by
    intro mask
    unfold hasFlag
    by_cases raised : tcpFlags captured view.tcp &&& mask ≠ 0
    · rw [if_pos raised, bne_iff_ne.mpr raised]
      rfl
    · rw [if_neg raised, bne_eq_false_iff_eq.mpr (not_not.mp raised)]
      rfl
  unfold resetAcknowledgement sequenceSpace
  rw [flag, flag, List.length_drop, Nat.add_assoc, Nat.add_assoc, Nat.add_assoc]

theorem resetSegment_fields (parts : TcpViewed captured view) :
    ResetFields captured view (resetSegment captured view) := by
  have fixedPart := transportHeader_ge parts.header
  obtain ⟨_, fits, _⟩ := transportHeader_length parts.header
  have behind : 20 ≤ view.tcp := by
    split at fixedPart <;> omega
  rw [resetSegment_eq]
  cases acknowledged : hasFlag captured view.tcp 0x10 with
  | true =>
      rw [if_pos rfl]
      exact
        { flags := by
            rw [halfBuiltReset_flags behind fits, acknowledged, if_pos rfl]
          sequence := by
            rw [halfBuiltReset_number behind fits (by omega)
              (dwordAt_lt captured _), acknowledged, if_pos rfl]
          acknowledgement := by
            rw [halfBuiltReset_otherNumber behind fits (Or.inl ⟨rfl, rfl⟩),
              acknowledged, if_pos rfl] }
  | false =>
      rw [if_neg Bool.false_ne_true]
      exact
        { flags := by
            rw [halfBuiltReset_flags behind fits, acknowledged,
              if_neg Bool.false_ne_true]
          sequence := by
            rw [halfBuiltReset_otherNumber behind fits (Or.inr ⟨rfl, rfl⟩),
              acknowledged, if_neg Bool.false_ne_true]
          acknowledgement := by
            have small : resetAcknowledgement captured view < 4294967296 := by
              unfold resetAcknowledgement
              omega
            rw [halfBuiltReset_number behind fits (by omega) small,
              acknowledged, if_neg Bool.false_ne_true,
              resetAcknowledgement_eq] }

theorem resetSegment_eq_halfBuilt :
    ∃ number value flags, (number = 4 ∨ number = 8) ∧
      resetSegment captured view =
        halfBuiltReset captured view number value flags := by
  rw [resetSegment_eq]
  split
  · exact ⟨4, _, _, Or.inl rfl, rfl⟩
  · exact ⟨8, _, _, Or.inr rfl, rfl⟩

theorem halfBuiltReset_addresses {number value : Nat} {flags : UInt8}
    (fixedPart : (if view.ipv6 then 40 else 20) ≤ view.tcp)
    (fits : view.tcp + 20 ≤ captured.length) :
    sourceBytes (halfBuiltReset captured view number value flags) view.ipv6 =
        sourceBytes captured view.ipv6 ∧
      destinationBytes (halfBuiltReset captured view number value flags)
          view.ipv6 =
        destinationBytes captured view.ipv6 := by
  have length := @halfBuiltReset_length captured view number value flags fits
  have kept : ∀ first last, 6 ≤ first → last ≤ view.tcp →
      AgreeOn (halfBuiltReset captured view number value flags) captured first
        last :=
    fun first last behind inside position lower upper =>
      byteAt_halfBuiltReset_header fits (by omega) (by omega)
  unfold sourceBytes destinationBytes
  cases six : view.ipv6 with
  | false =>
      rw [six, if_neg Bool.false_ne_true] at fixedPart
      simp only [Bool.false_eq_true, if_false]
      exact ⟨slice_congr (kept 12 16 (by omega) (by omega)) (by omega)
          (by omega),
        slice_congr (kept 16 20 (by omega) (by omega)) (by omega) (by omega)⟩
  | true =>
      rw [six, if_pos rfl] at fixedPart
      simp only [if_true]
      exact ⟨slice_congr (kept 8 24 (by omega) (by omega)) (by omega)
          (by omega),
        slice_congr (kept 24 40 (by omega) (by omega)) (by omega) (by omega)⟩

theorem reflectedReset_of (viewed : tcpView captured = .ok view)
    (addressed : wordAt captured (view.tcp + 2) = 53) :
    makeReflectedTcpPacket (resetSegment captured view) 53 false 53 =
        .ok (reflectedTcpPacket (resetView view) 0 53
          (resetSegment captured view)) ∧
      ResetOf captured view
        (reflectedTcpPacket (resetView view) 0 53
          (resetSegment captured view)) := by
  have parts := tcpView_eq_ok.mp viewed
  have fixedPart := transportHeader_ge parts.header
  obtain ⟨_, fits, _⟩ := transportHeader_length parts.header
  have behind : 20 ≤ view.tcp := by
    split at fixedPart <;> omega
  have fields := resetSegment_fields parts
  obtain ⟨number, value, flags, named, built⟩ :=
    @resetSegment_eq_halfBuilt captured view
  have halfViewed := @halfBuiltReset_viewed captured view number value flags
    parts named
  have ports := @halfBuiltReset_ports captured view number value flags behind
    fits (by omega)
  have addresses := @halfBuiltReset_addresses captured view number value flags
    fixedPart fits
  have length := @halfBuiltReset_length captured view number value flags fits
  rw [← built] at halfViewed ports addresses length
  have half := tcpView_eq_ok.mpr halfViewed
  have reflected := @reflectedTcpPacket_segment (resetView view)
    (resetSegment captured view) 0 53 half (Or.inl rfl) (by omega)
  have otherPort := @ReflectedSegment.otherPort _ _ _ _ _ 2 reflected
    (Or.inr ⟨rfl, rfl⟩)
  refine ⟨makeReflectedTcpPacket_back half (ports.1.trans addressed) (by omega),
    ?_⟩
  exact
    { length := reflected.length.trans length
      viewed := reflected.viewed
      noPayload := List.drop_eq_nil_of_le
        (Nat.le_of_eq (reflected.length.trans length))
      source := reflected.source.trans addresses.2
      destination := reflected.destination.trans addresses.1
      sourcePort := reflected.port.trans addressed.symm
      destinationPort := otherPort.trans ports.2
      fields :=
        { flags := reflected.flags.trans fields.flags
          sequence := reflected.sequence.1.trans fields.sequence
          acknowledgement := reflected.sequence.2.trans fields.acknowledgement }
      headerVerifies := reflected.headerVerifies
      segmentVerifies := reflected.segmentVerifies }

end HalfBuilt

/-- Every captured segment to port 53 is answered by a reset of its
connection, but a reset is not answered. -/
theorem makeInterceptedTcpReset_answers {captured : Packet} {view : TcpView}
    (viewed : tcpView captured = .ok view)
    (addressed : wordAt captured (view.tcp + 2) = 53) :
    ∃ reset, makeInterceptedTcpReset captured = .ok reset ∧
      (reset = [] ↔ hasFlag captured view.tcp 0x04 = true) ∧
      (hasFlag captured view.tcp 0x04 = false →
        ResetOf captured view reset) := by
  obtain ⟨made, answers⟩ := reflectedReset_of viewed addressed
  unfold makeInterceptedTcpReset
  rw [viewed, ok_bind, rejectIf_of_not (not_not.mpr addressed), ok_bind]
  cases flagged : hasFlag captured view.tcp 0x04 with
  | true =>
      rw [if_pos (bne_iff_ne.mp flagged), pure_eq_ok]
      exact ⟨[], rfl, ⟨fun _ => rfl, fun _ => rfl⟩,
        fun unset => Bool.noConfusion unset⟩
  | false =>
      rw [if_neg (not_not.mpr (bne_eq_false_iff_eq.mp flagged)), made]
      refine ⟨_, rfl, ⟨?_, fun raised => Bool.noConfusion raised⟩, fun _ => answers⟩
      intro empty
      have long := answers.length
      rw [empty, List.length_nil] at long
      omega

/-- A connection request behind an IPv6 extension header, with the last
sequence number. -/
def synSegment : Packet :=
  [0x60, 0, 0, 0, 0, 28, 0, 64] ++
    [0x20, 1, 0x0d, 0xb8, 0, 0, 0, 0, 0, 0, 0, 0, 0, 0, 0, 10] ++
    [0x20, 1, 0x48, 0x60, 0, 0, 0, 0, 0, 0, 0, 0, 0, 0, 0, 53] ++
    [6, 0, 0, 0, 0, 0, 0, 0] ++
    [199, 56, 0, 53, 255, 255, 255, 255, 0, 0, 0, 0, 0x50, 0x02, 16, 0, 0, 0,
      0, 0]

theorem makeInterceptedTcpReset_answers_syn :
    ∃ reset, makeInterceptedTcpReset synSegment = .ok reset ∧ reset ≠ [] ∧
      ResetOf synSegment
        { tcp := 48
          payload := 68
          ipv6 := true } reset := by
  obtain ⟨reset, made, empty, answers⟩ :=
    @makeInterceptedTcpReset_answers synSegment
      { tcp := 48
        payload := 68
        ipv6 := true } (by rfl) (by decide)
  have flagged : hasFlag synSegment 48 0x04 = false := by rfl
  refine ⟨reset, made, ?_, answers flagged⟩
  intro emptied
  have answered := empty.mp emptied
  rw [flagged] at answered
  cases answered

end NativeDNS
