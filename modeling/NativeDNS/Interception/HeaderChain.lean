/-
The chain of extension headers in front of an IPv6 transport header.

A chain is given by the numbers of its headers and the lengths they announce.
The walk of the views accepts exactly the packets of the announced size with a
chain of at most fifteen headers, and reads nothing behind their end.
-/
import NativeDNS.Library.GuardedAccess
import NativeDNS.Interception.Views

namespace NativeDNS

open ByteText (text decimal)
open CheckedResult
open GuardedAccess

/-! ### Chains -/

/-- The offset and the flags of a fragment that is a whole packet: the offset is
zero and no fragments follow. -/
def IsAtomicFragment (field : Nat) : Prop :=
  field / 8 = 0 ∧ field % 2 = 0

/-- A whole extension header at a position, with its number and its length. -/
inductive ExtensionHeader (packet : Packet) (position : Nat) :
    UInt8 → Nat → Prop
  /-- Hop-by-Hop, Routing and Destination Options count units of eight bytes
  behind the first. -/
  | options {number : UInt8} (kind : number = 0 ∨ number = 43 ∨ number = 60)
      (fits : position + ((byteAt packet (position + 1)).toNat + 1) * 8 ≤
        packet.length) :
      ExtensionHeader packet position number
        (((byteAt packet (position + 1)).toNat + 1) * 8)
  | fragment (fits : position + 8 ≤ packet.length)
      (atomic : IsAtomicFragment (wordAt packet (position + 2))) :
      ExtensionHeader packet position 44 8
  /-- An Authentication header counts units of four bytes behind the first
  two. -/
  | authentication
      (fits : position + ((byteAt packet (position + 1)).toNat + 2) * 4 ≤
        packet.length) :
      ExtensionHeader packet position 51
        (((byteAt packet (position + 1)).toNat + 2) * 4)

/-- Extension headers of these lengths from a position on, the first of them of
the given number, in front of a transport header. -/
inductive HeaderChain (packet : Packet) :
    UInt8 → Nat → List Nat → UInt8 → Prop
  | transport {protocol : UInt8} {position : Nat}
      (kind : protocol = protocolUdp ∨ protocol = protocolTcp) :
      HeaderChain packet protocol position [] protocol
  | header {number protocol : UInt8} {position length : Nat} {lengths : List Nat}
      (here : ExtensionHeader packet position number length)
      (rest : HeaderChain packet (byteAt packet position) (position + length)
        lengths protocol) :
      HeaderChain packet number position (length :: lengths) protocol

/-! ### The walk -/

theorem isAtomicFragment_iff {field : Nat} (small : field < 65536) :
    field &&& 0xfff9 = 0 ↔ IsAtomicFragment field := by
  unfold IsAtomicFragment
  constructor
  · intro cleared
    have bit (index : Nat) (kept : (0xfff9 : Nat).testBit index = true) :
        field.testBit index = false := by
      have both := congrArg (fun value => Nat.testBit value index) cleared
      simpa only [Nat.testBit_and, kept, Bool.and_true, Nat.zero_testBit] using both
    have masked : ∀ index < 16, 3 ≤ index → (0xfff9 : Nat).testBit index = true := by
      decide
    have low : field < 2 ^ 3 := by
      refine Nat.lt_pow_two_of_testBit field fun index high => ?_
      by_cases inside : index < 16
      · exact bit index (masked index inside high)
      · have wide : 2 ^ 16 ≤ 2 ^ index := Nat.pow_le_pow_right (by decide) (by omega)
        exact Nat.testBit_lt_two_pow (Nat.lt_of_lt_of_le small wide)
    have even := bit 0 rfl
    rw [Nat.testBit_zero, decide_eq_false_iff_not] at even
    omega
  · rintro ⟨low, even⟩
    have table : ∀ field < 8, field % 2 = 0 → field &&& 0xfff9 = 0 := by decide
    exact table field (by omega) even

theorem skipHeader_eq_ok {packet : Packet} {position length : Nat}
    {overrun : String} {next : UInt8} {behind : Nat} :
    skipHeader packet position length overrun = .ok (next, behind) ↔
      position + length ≤ packet.length ∧ next = byteAt packet position ∧
        behind = position + length := by
  simp only [skipHeader, bind_eq_ok, rejectIf_eq_ok, pure_eq_ok, Except.ok.injEq,
    Prod.mk.injEq, exists_const, Nat.not_lt]
  constructor
  · rintro ⟨fits, nextEq, behindEq⟩
    exact ⟨fits, nextEq.symm, behindEq.symm⟩
  · rintro ⟨fits, nextEq, behindEq⟩
    exact ⟨fits, nextEq.symm, behindEq.symm⟩

theorem ipv6Header_eq_ok {packet : Packet} {number next : UInt8}
    {position behind : Nat} :
    ipv6Header packet number position = .ok (next, behind) ↔
      ∃ length, ExtensionHeader packet position number length ∧
        next = byteAt packet position ∧ behind = position + length := by
  unfold ipv6Header
  constructor
  · intro passed
    split at passed
    · rename_i kind
      obtain ⟨_, _, skipped⟩ := bind_eq_ok.mp passed
      obtain ⟨fits, nextEq, behindEq⟩ := skipHeader_eq_ok.mp skipped
      exact ⟨_, .options kind fits, nextEq, behindEq⟩
    · split at passed
      · rename_i kind
        simp only [bind_eq_ok, rejectIf_eq_ok, pure_eq_ok] at passed
        obtain ⟨_, fits, _, cleared, built⟩ := passed
        cases built
        subst kind
        refine ⟨8, .fragment (by omega) ?_, rfl, rfl⟩
        exact (isAtomicFragment_iff (wordAt_lt ..)).mp (not_not.mp cleared)
      · split at passed
        · rename_i kind
          obtain ⟨_, _, skipped⟩ := bind_eq_ok.mp passed
          obtain ⟨fits, nextEq, behindEq⟩ := skipHeader_eq_ok.mp skipped
          subst kind
          exact ⟨_, .authentication fits, nextEq, behindEq⟩
        · cases passed
  · rintro ⟨length, here, rfl, rfl⟩
    cases here with
    | options kind fits =>
        rw [if_pos kind, rejectIf_of_not (by omega), ok_bind]
        exact skipHeader_eq_ok.mpr ⟨fits, rfl, rfl⟩
    | fragment fits atomic =>
        have cleared := (isAtomicFragment_iff (wordAt_lt ..)).mpr atomic
        rw [if_neg (by decide), if_pos rfl, rejectIf_of_not (by omega), ok_bind,
          rejectIf_of_not (not_not.mpr cleared), ok_bind]
        rfl
    | authentication fits =>
        rw [if_neg (by decide), if_neg (by decide), if_pos rfl,
          rejectIf_of_not (by omega), ok_bind]
        exact skipHeader_eq_ok.mpr ⟨fits, rfl, rfl⟩

theorem ExtensionHeader.not_transport {packet : Packet} {position length : Nat}
    {number : UInt8} (here : ExtensionHeader packet position number length) :
    ¬ (number = protocolUdp ∨ number = protocolTcp) := by
  cases here with
  | options kind =>
      rcases kind with rfl | rfl | rfl <;> decide
  | fragment =>
      decide
  | authentication =>
      decide

theorem ipv6Headers_eq_ok {packet : Packet} {transport : Ipv6Transport} :
    ∀ {headers : Nat} {number : UInt8} {position : Nat},
      ipv6Headers packet headers number position = .ok transport ↔
        ∃ lengths, lengths.length < headers ∧
          HeaderChain packet number position lengths transport.protocol ∧
          transport.offset = position + lengths.sum
  | 0, number, position => by
      constructor
      · intro walked
        cases walked
      · rintro ⟨lengths, few, _⟩
        omega
  | headers + 1, number, position => by
      unfold ipv6Headers
      constructor
      · intro walked
        split at walked
        · rename_i kind
          cases walked
          exact ⟨[], Nat.succ_pos _, .transport kind, rfl⟩
        · obtain ⟨⟨next, behind⟩, passed, walked⟩ := bind_eq_ok.mp walked
          obtain ⟨length, here, rfl, rfl⟩ := ipv6Header_eq_ok.mp passed
          obtain ⟨lengths, few, rest, offset⟩ := ipv6Headers_eq_ok.mp walked
          refine ⟨length :: lengths, Nat.succ_lt_succ few, .header here rest, ?_⟩
          rw [offset, List.sum_cons, Nat.add_assoc]
      · rintro ⟨lengths, few, chain, offset⟩
        cases chain with
        | transport kind =>
            obtain ⟨protocol, behind⟩ := transport
            have same : behind = position := offset
            subst same
            rw [if_pos kind]
            rfl
        | @header _ _ _ length lengths here rest =>
            rw [if_neg here.not_transport, ipv6Header_eq_ok.mpr ⟨length, here, rfl, rfl⟩,
              ok_bind]
            refine ipv6Headers_eq_ok.mpr ⟨lengths, Nat.lt_of_succ_lt_succ few, rest, ?_⟩
            rw [offset, List.sum_cons, Nat.add_assoc]

/-! ### Errors -/

theorem rejected_error {condition : Prop} [Decidable condition] {reason : String}
    {error : Error}
    (raised : rejectIf condition (interceptPacket reason) = .error error) :
    error.code = "INTERCEPT_PACKET" := by
  rw [← (rejectIf_eq_error.mp raised).2]
  rfl

theorem skipHeader_error {packet : Packet} {position length : Nat}
    {overrun : String} {error : Error}
    (raised : skipHeader packet position length overrun = .error error) :
    error.code = "INTERCEPT_PACKET" := by
  simp only [skipHeader, bind_eq_error, rejectIf_eq_error, pure_eq_ok] at raised
  rcases raised with ⟨_, rfl⟩ | ⟨_, _, impossible⟩
  · rfl
  · cases impossible

theorem ipv6Header_error {packet : Packet} {number : UInt8} {position : Nat}
    {error : Error} (raised : ipv6Header packet number position = .error error) :
    error.code = "INTERCEPT_PACKET" := by
  unfold ipv6Header at raised
  split at raised
  · rcases bind_eq_error.mp raised with rejected | ⟨_, _, skipped⟩
    · exact rejected_error rejected
    · exact skipHeader_error skipped
  · split at raised
    · rcases bind_eq_error.mp raised with rejected | ⟨_, _, raised⟩
      · exact rejected_error rejected
      · rcases bind_eq_error.mp raised with rejected | ⟨_, _, impossible⟩
        · exact rejected_error rejected
        · cases impossible
    · split at raised
      · rcases bind_eq_error.mp raised with rejected | ⟨_, _, skipped⟩
        · exact rejected_error rejected
        · exact skipHeader_error skipped
      · cases raised
        rfl

theorem ipv6Headers_error {packet : Packet} {error : Error} :
    ∀ {headers : Nat} {number : UInt8} {position : Nat},
      ipv6Headers packet headers number position = .error error →
        error.code = "INTERCEPT_PACKET"
  | 0, _, _, raised => by
      cases raised
      rfl
  | headers + 1, number, position, raised => by
      unfold ipv6Headers at raised
      split at raised
      · cases raised
      · rcases bind_eq_error.mp raised with raised | ⟨_, _, raised⟩
        · exact ipv6Header_error raised
        · exact ipv6Headers_error raised

/-! ### Reads -/

namespace Direct

def read16 (packet : Packet) (offset : Nat) : Guarded Error Nat := do
  let high ← readAt packet offset
  let low ← readAt packet (offset + 1)
  pure (high.toNat <<< 8 ||| low.toNat)

theorem read16_of_le {packet : Packet} {offset : Nat}
    (inside : offset + 2 ≤ packet.length) :
    read16 packet offset = .ok (wordAt packet offset) := by
  unfold read16
  rw [readAt_of_lt (by omega), ok_bind, readAt_of_lt (by omega), ok_bind]
  rfl

def announcedHeader (packet : Packet) (position : Nat) (length : UInt8 → Nat)
    (truncated overrun : String) : Guarded Error (UInt8 × Nat) := do
  rejectIf (position + 2 > packet.length) (.raised (interceptPacket truncated))
  let units ← readAt packet (position + 1)
  rejectIf (position + length units > packet.length)
    (.raised (interceptPacket overrun))
  let next ← readAt packet position
  pure (next, position + length units)

def ipv6Header (packet : Packet) (next : UInt8) (position : Nat) :
    Guarded Error (UInt8 × Nat) :=
  if next = 0 ∨ next = 43 ∨ next = 60 then
    announcedHeader packet position (fun units => (units.toNat + 1) * 8)
      "Truncated IPv6 extension header" "Invalid IPv6 extension header length"
  else if next = 44 then do
    rejectIf (position + 8 > packet.length)
      (.raised (interceptPacket "Truncated IPv6 fragment header"))
    let field ← read16 packet (position + 2)
    rejectIf (field &&& 0xfff9 ≠ 0)
      (.raised (interceptPacket "Fragmented IPv6 DNS packet is unsupported"))
    let next ← readAt packet position
    pure (next, position + 8)
  else if next = 51 then
    announcedHeader packet position (fun units => (units.toNat + 2) * 4)
      "Truncated IPv6 authentication header"
      "Invalid IPv6 authentication header length"
  else
    .error (.raised
      { code := "INTERCEPT_PACKET"
        message := text "Unsupported IPv6 next header " ++ decimal next.toNat })

def ipv6Headers (packet : Packet) :
    Nat → UInt8 → Nat → Guarded Error Ipv6Transport
  | 0, _, _ => .error (.raised (interceptPacket "Too many IPv6 extension headers"))
  | headers + 1, next, position =>
      if next = protocolUdp ∨ next = protocolTcp then
        pure
          { protocol := next
            offset := position }
      else do
        let (next, position) ← ipv6Header packet next position
        ipv6Headers packet headers next position

def ipv6Transport (packet : Packet) : Guarded Error Ipv6Transport := do
  rejectIf (packet.length < 40)
    (.raised (interceptPacket "Invalid IPv6 packet length"))
  let payload ← read16 packet 4
  rejectIf (payload + 40 ≠ packet.length)
    (.raised (interceptPacket "Invalid IPv6 packet length"))
  let next ← readAt packet 6
  ipv6Headers packet 16 next 40

theorem announcedHeader_raising {packet : Packet} {position : Nat}
    {length : UInt8 → Nat} {truncated overrun : String} :
    announcedHeader packet position length truncated overrun =
      raising (rejectIf (position + 2 > packet.length) (interceptPacket truncated) >>=
        fun _ => skipHeader packet position (length (byteAt packet (position + 1)))
          overrun) := by
  unfold announcedHeader skipHeader
  refine rejectIf_raising fun whole => ?_
  rw [readAt_of_lt (by omega), ok_bind]
  refine rejectIf_raising fun fits => ?_
  rw [readAt_of_lt (by omega), ok_bind]
  rfl

theorem ipv6Header_raising (packet : Packet) (next : UInt8) (position : Nat) :
    ipv6Header packet next position =
      raising (NativeDNS.ipv6Header packet next position) := by
  unfold ipv6Header NativeDNS.ipv6Header
  by_cases options : next = 0 ∨ next = 43 ∨ next = 60
  · rw [if_pos options, if_pos options]
    exact announcedHeader_raising
  · rw [if_neg options, if_neg options]
    by_cases fragment : next = 44
    · rw [if_pos fragment, if_pos fragment]
      refine rejectIf_raising fun whole => ?_
      rw [read16_of_le (by omega), ok_bind]
      refine rejectIf_raising fun atomic => ?_
      rw [readAt_of_lt (by omega), ok_bind]
      rfl
    · rw [if_neg fragment, if_neg fragment]
      by_cases authentication : next = 51
      · rw [if_pos authentication, if_pos authentication]
        exact announcedHeader_raising
      · rw [if_neg authentication, if_neg authentication]
        rfl

theorem ipv6Headers_raising (packet : Packet) :
    ∀ (headers : Nat) (next : UInt8) (position : Nat),
      ipv6Headers packet headers next position =
        raising (NativeDNS.ipv6Headers packet headers next position)
  | 0, _, _ => rfl
  | headers + 1, next, position => by
      unfold ipv6Headers NativeDNS.ipv6Headers
      by_cases transport : next = protocolUdp ∨ next = protocolTcp
      · rw [if_pos transport, if_pos transport]
        rfl
      · rw [if_neg transport, if_neg transport]
        refine bind_raising (ipv6Header_raising ..) ?_
        rintro ⟨after, behind⟩ _
        exact ipv6Headers_raising packet headers after behind

theorem ipv6Transport_raising (packet : Packet) :
    ipv6Transport packet = raising (NativeDNS.ipv6Transport packet) := by
  unfold ipv6Transport NativeDNS.ipv6Transport
  refine rejectIf_or_raising fun long => ?_
  rw [read16_of_le (by omega), ok_bind]
  refine rejectIf_raising fun sized => ?_
  rw [readAt_of_lt (by omega), ok_bind]
  exact ipv6Headers_raising ..

end Direct

/-- A packet of the size it announces whose first header is followed by at most
fifteen extension headers and a transport header is given that transport header,
whatever its version field.  Every other packet is refused as an intercepted one,
and nothing behind the end of a packet is read. -/
theorem ipv6Transport_exact (packet : Packet) :
    (∀ transport, ipv6Transport packet = .ok transport ↔
      40 ≤ packet.length ∧ wordAt packet 4 + 40 = packet.length ∧
        ∃ lengths, lengths.length ≤ 15 ∧
          HeaderChain packet (byteAt packet 6) 40 lengths transport.protocol ∧
          transport.offset = 40 + lengths.sum) ∧
    (∀ error, ipv6Transport packet = .error error →
      error.code = "INTERCEPT_PACKET") ∧
    Meets (Direct.ipv6Transport packet) (ipv6Transport packet) := by
  refine ⟨fun transport => ?_, fun error raised => ?_,
    meets_of_eq (Direct.ipv6Transport_raising packet)⟩
  · unfold ipv6Transport
    constructor
    · intro found
      obtain ⟨_, sized, walked⟩ := bind_eq_ok.mp found
      have sizes := rejectIf_eq_ok.mp sized
      obtain ⟨lengths, few, chain, offset⟩ := ipv6Headers_eq_ok.mp walked
      exact ⟨by omega, by omega, lengths, Nat.le_of_lt_succ few, chain, offset⟩
    · rintro ⟨long, sized, lengths, few, chain, offset⟩
      rw [rejectIf_of_not (by omega), ok_bind]
      exact ipv6Headers_eq_ok.mpr ⟨lengths, Nat.lt_succ_of_le few, chain, offset⟩
  · rcases bind_eq_error.mp raised with rejected | ⟨_, _, raised⟩
    · exact rejected_error rejected
    · exact ipv6Headers_error raised

/-- The walk leaves the version field to its callers. -/
theorem ipv6Transport_versionless :
    ∃ packet, ipVersion packet ≠ 6 ∧
      ipv6Transport packet = .ok { protocol := protocolUdp, offset := 40 } :=
  ⟨[0x40, 0, 0, 0, 0, 0, 17] ++ List.replicate 33 0, by decide, by decide⟩

end NativeDNS
