/-
Rewriting the lifetimes of a reply: clamping before it is stored and aging
before it is delivered.

Aging rewrites the packet while it is walked.  The fixed fields of the records
stay where they are, because the extent of a name is decided by its own bytes;
what a compressed name decodes to may change with a field it points into.
-/
import NativeDNS.Wire.Response

namespace NativeDNS

open CheckedResult

/-! ### Clamping -/

def clampOffsets (packet : Packet) : Nat → Nat → Checked (Option (List Nat))
  | 0, _ => pure (some [])
  | left + 1, position => do
      let (_, position) ← name packet position
      let type ← word packet position
      let length ← word packet (position + 8)
      if type = 46 ∨ type = 249 ∨ type = 250 then pure none
      else do
        let rest ← clampOffsets packet left (position + 10 + length)
        pure (rest.map (fun offsets =>
          if type ≠ 41 then (position + 4) :: offsets else offsets))

def clampDnsTtl (platform : Platform) (response : Packet)
    (minimum maximum : Nat) : Checked Packet := do
  rejectIf (minimum > maximum)
    (.of "CONFIG_SETTING" "TTL minimum must not exceed maximum")
  let question ← parseQuestion response
  let parsed ← parseResponse platform response question
  if parsed.truncated || parsed.authenticatedData then pure response
  else do
    let answers ← word response 6
    let authority ← word response 8
    let additional ← word response 10
    let found ←
      clampOffsets response (answers + authority + additional) question.end
    match found with
    | none => pure response
    | some offsets =>
        offsets.foldlM
          (fun result offset => do
            let ttl ← dword result offset
            pure (putDword result offset (max minimum (min ttl maximum))))
          response

/-! ### Aging -/

def withTransactionId (packet : Packet) (id : Nat) : Packet :=
  (packet.set 0 (UInt8.ofNat (id >>> 8))).set 1 (UInt8.ofNat id)

/-- One record of the aging walk; the lifetime is written back at once. -/
def ageStep (elapsedSeconds _index : Nat) :
    Nat × Packet → Checked (Nat × Packet)
  | (position, result) => do
      let (_, position) ← name result position
      let type ← word result position
      let length ← word result (position + 8)
      rejectIf
        (result.length - position < 10 ∨
          length > result.length - (position + 10))
        (.of "DNS_MALFORMED" "Truncated cached record")
      if type ≠ 41 then do
        let ttl ← dword result (position + 4)
        pure (position + 10 + length,
          putDword result (position + 4) (ttl - elapsedSeconds))
      else pure (position + 10 + length, result)

def ageDnsResponse (response : Packet) (transactionId elapsedSeconds : Nat) :
    Checked Packet := do
  let question ← parseQuestion response
  rejectIf (question.flags &&& 0x8000 = 0)
    (.of "DNS_MALFORMED" "Expected cached response")
  let result := withTransactionId response transactionId
  let answers ← word result 6
  let authority ← word result 8
  let additional ← word result 10
  rejectIf (answers + authority + additional > 4096)
    (.of "DNS_MALFORMED" "Too many DNS records")
  let (position, result) ←
    repeatFrom (ageStep elapsedSeconds) (answers + authority + additional) 0
      (question.end, result)
  rejectIf (position ≠ result.length)
    (.of "DNS_MALFORMED" "Unexpected bytes after cached response")
  pure result

/-! ### The extent of a name -/

/-- The bytes of a name that are read before a pointer is followed. -/
inductive NameSpan (packet : Packet) : Nat → Nat → Prop
  | finish {position : Nat} (zero : (byteAt packet position).toNat = 0) :
      NameSpan packet position (position + 1)
  | pointer {position : Nat} (marked : 192 ≤ (byteAt packet position).toNat) :
      NameSpan packet position (position + 2)
  | label {position next : Nat}
      (nonempty : 0 < (byteAt packet position).toNat)
      (plain : (byteAt packet position).toNat < 64)
      (rest : NameSpan packet
        (position + 1 + (byteAt packet position).toNat) next) :
      NameSpan packet position next

theorem NameWalk.span {packet : Packet} {hops position next : Nat}
    {resume : Option Nat} {result decoded : Bytes}
    (walk : NameWalk packet hops position resume result decoded next) :
    resume = none → NameSpan packet position next := by
  induction walk with
  | finish inside zero =>
      intro unresumed
      subst unresumed
      exact .finish zero
  | pointer inside marked header earlier rest ih =>
      intro unresumed
      have nextEq := rest.next_of_resume rfl
      rw [nextEq, unresumed]
      exact .pointer marked
  | label nonempty plain inside characters bounded rest ih =>
      intro unresumed
      exact .label nonempty plain (ih unresumed)

theorem NameSpan.lt {packet : Packet} {position next : Nat}
    (span : NameSpan packet position next) : position < next := by
  induction span with
  | finish zero =>
      omega
  | pointer marked =>
      omega
  | label nonempty plain rest ih =>
      omega

theorem NameSpan.unique {packet other : Packet} {position next next' : Nat}
    (span : NameSpan packet position next)
    (otherSpan : NameSpan other position next')
    (agree : AgreeOn other packet position next) : next' = next := by
  induction span with
  | @finish position zero =>
      have same := agree position (Nat.le_refl _) (Nat.lt_succ_self _)
      cases otherSpan with
      | finish =>
          rfl
      | pointer marked =>
          rw [same] at marked
          omega
      | label nonempty plain rest =>
          rw [same] at nonempty
          omega
  | @pointer position marked =>
      have same := agree position (Nat.le_refl _) (by omega)
      cases otherSpan with
      | finish zero =>
          rw [same] at zero
          omega
      | pointer =>
          rfl
      | label nonempty plain rest =>
          rw [same] at plain
          omega
  | @label position next nonempty plain rest ih =>
      have inner := rest.lt
      have same := agree position (Nat.le_refl _) (by omega)
      cases otherSpan with
      | finish zero =>
          rw [same] at zero
          omega
      | pointer marked =>
          rw [same] at marked
          omega
      | label _ _ otherRest =>
          rw [same] at otherRest
          exact ih otherRest (agree.mono (by omega) (Nat.le_refl _))

theorem name_next_unique {packet other : Packet} {position next next' : Nat}
    {decoded decoded' : Bytes}
    (decode : name packet position = .ok (decoded, next))
    (otherDecode : name other position = .ok (decoded', next'))
    (agree : AgreeOn other packet position next) : next' = next := by
  obtain ⟨_, _, walk⟩ := name_eq_ok.mp decode
  obtain ⟨_, _, otherWalk⟩ := name_eq_ok.mp otherDecode
  exact (walk.span rfl).unique (otherWalk.span rfl) agree

end NativeDNS
