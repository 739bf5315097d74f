/-
Replies cut to the datagram size of the client.
-/
import NativeDNS.Wire.Response

namespace NativeDNS

open CheckedResult

def clientUdpPayloadSize (request : Packet) : Checked Nat := do
  let question ← parseQuestion request
  rejectIf (question.flags &&& 0x8000 ≠ 0)
    (.of "DNS_MALFORMED" "Expected query, not response")
  let edns ← ednsRequest request question
  pure (if edns.present then edns.payload else 512)

/-- The header and the question of a reply, with the TC bit set and no
records. -/
def truncatedReply (response : Packet) (last : Nat) : Packet :=
  let flags := wordAt response 2 ||| 0x0200
  slice response 0 2 ++ wordBytes flags ++ [0, 1, 0, 0, 0, 0, 0, 0] ++
    slice response 12 (last - 12)

def fitUdpResponse (request response : Packet) : Checked Packet := do
  let limit ← clientUdpPayloadSize request
  if response.length ≤ limit then pure response
  else do
    let expected ← parseQuestion request
    let actual ← parseQuestion response
    rejectIf (¬ AnswersQuestion actual expected)
      (.of "DNS_MISMATCH" "DNS response does not match request")
    pure (truncatedReply response actual.end)

def IsReply (packet : Packet) : Prop :=
  wordAt packet 2 &&& 0x8000 ≠ 0

theorem isReply_of_parse {packet : Packet} {question : Question}
    (parsed : parseQuestion packet = .ok question)
    (reply : question.flags &&& 0x8000 ≠ 0) : IsReply packet := by
  unfold IsReply
  rw [← (parseQuestion_eq_ok.mp parsed).flagsEq]
  exact reply

theorem truncatedReply_isReply {response : Packet} {last : Nat}
    (long : 2 ≤ response.length) (reply : IsReply response) :
    IsReply (truncatedReply response last) := by
  have small := wordAt_lt response 2
  have bounded : wordAt response 2 ||| 0x0200 < 65536 :=
    Nat.or_lt_two_pow (n := 16) small (by decide)
  have front : (slice response 0 2).length = 2 := slice_length long
  have flags : wordAt (truncatedReply response last) 2 =
      wordAt response 2 ||| 0x0200 := by
    unfold truncatedReply
    rw [List.append_assoc, List.append_assoc,
      wordAt_append_right (Nat.le_of_eq front), front, wordAt_eq,
      Nat.sub_self]
    simp only [wordBytes, byteAt, List.cons_append, List.getD_cons_zero,
      List.getD_cons_succ, UInt8.toNat_ofNat', Nat.shiftRight_eq_div_pow]
    omega
  unfold IsReply at reply ⊢
  rw [flags, Nat.and_or_distrib_right]
  intro none
  exact reply (Nat.or_eq_zero_iff.mp none).1

theorem fitUdpResponse_isReply {request response fitted : Packet}
    (reply : IsReply response)
    (fits : fitUdpResponse request response = .ok fitted) : IsReply fitted := by
  simp only [fitUdpResponse, bind_eq_ok] at fits
  obtain ⟨limit, _, rest⟩ := fits
  split at rest
  · cases rest
    exact reply
  · simp only [bind_eq_ok, pure_eq_ok] at rest
    obtain ⟨_, _, actual, parsed, _, _, built⟩ := rest
    cases built
    have header := (parseQuestion_eq_ok.mp parsed).header
    exact truncatedReply_isReply (by omega) reply

theorem fitUdpResponse_query {request response fitted : Packet}
    (fits : fitUdpResponse request response = .ok fitted) :
    ¬ IsReply request := by
  simp only [fitUdpResponse, clientUdpPayloadSize, bind_eq_ok,
    rejectIf_eq_ok, not_not] at fits
  obtain ⟨_, ⟨question, parsed, _, query, _⟩, _⟩ := fits
  unfold IsReply
  rw [← (parseQuestion_eq_ok.mp parsed).flagsEq, query]
  exact not_not.mpr rfl

end NativeDNS
