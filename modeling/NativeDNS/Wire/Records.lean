/-
Resource records: their fixed fields and runs of consecutive records.

Every walker of the record sections reads an owner name, the ten fixed bytes
and the data length; they differ in what they check next.  `RecordRun` is what
they have in common.
-/
import NativeDNS.Wire.Question

namespace NativeDNS

open ByteText (text byte)
open CheckedResult

structure Record where
  owner : Bytes
  /-- The offset of the fixed fields, right after the owner name. -/
  header : Nat
  type : Nat
  klass : Nat
  ttl : Nat
  length : Nat
  deriving DecidableEq, Repr

def Record.data (record : Record) : Nat :=
  record.header + 10

def Record.«end» (record : Record) : Nat :=
  record.header + 10 + record.length

/-- The record whose owner name has been read up to `header`. -/
def recordOf (packet : Packet) (owner : Bytes) (header : Nat) : Record :=
  { owner := owner
    header := header
    type := wordAt packet header
    klass := wordAt packet (header + 2)
    ttl := dwordAt packet (header + 4)
    length := wordAt packet (header + 8) }

structure RecordAt (packet : Packet) (position : Nat) (record : Record) :
    Prop where
  ownerEq : name packet position = .ok (record.owner, record.header)
  fieldsEq : record = recordOf packet record.owner record.header
  fits : record.end ≤ packet.length

/-- Consecutive records from one offset to another. -/
inductive RecordRun (packet : Packet) : Nat → List Record → Nat → Prop
  | done {position : Nat} : RecordRun packet position [] position
  | record {position last : Nat} {record : Record} {rest : List Record}
      (here : RecordAt packet position record)
      (later : RecordRun packet record.end rest last) :
      RecordRun packet position (record :: rest) last

theorem RecordAt.lt_header {packet : Packet} {position : Nat} {record : Record}
    (here : RecordAt packet position record) : position < record.header :=
  name_lt_next here.ownerEq

theorem RecordAt.lt_end {packet : Packet} {position : Nat} {record : Record}
    (here : RecordAt packet position record) :
    position + 10 < record.end := by
  have header := here.lt_header
  unfold Record.end
  omega

theorem RecordAt.header_le {packet : Packet} {position : Nat} {record : Record}
    (here : RecordAt packet position record) :
    record.header + 10 ≤ packet.length := by
  have fits := here.fits
  unfold Record.end at fits
  omega

theorem RecordAt.unique {packet : Packet} {position : Nat}
    {left right : Record} (first : RecordAt packet position left)
    (second : RecordAt packet position right) : left = right := by
  have same := first.ownerEq.symm.trans second.ownerEq
  simp only [Except.ok.injEq, Prod.mk.injEq] at same
  rw [first.fieldsEq, second.fieldsEq, same.1, same.2]

theorem RecordRun.append {packet : Packet} {position middle last : Nat}
    {records others : List Record} (run : RecordRun packet position records middle)
    (rest : RecordRun packet middle others last) :
    RecordRun packet position (records ++ others) last := by
  induction run with
  | done =>
      exact rest
  | record here later ih =>
      exact .record here (ih rest)

theorem RecordRun.le {packet : Packet} {position last : Nat}
    {records : List Record} (run : RecordRun packet position records last) :
    position ≤ last := by
  induction run with
  | done =>
      exact Nat.le_refl _
  | record here later ih =>
      have step := here.lt_end
      omega

theorem RecordRun.unique {packet : Packet} {position last last' : Nat}
    {records others : List Record} (run : RecordRun packet position records last)
    (other : RecordRun packet position others last')
    (sameLength : records.length = others.length) :
    records = others ∧ last = last' := by
  induction run generalizing others last' with
  | done =>
      cases other with
      | done =>
          exact ⟨rfl, rfl⟩
      | record here later =>
          cases sameLength
  | record here later ih =>
      cases other with
      | done =>
          cases sameLength
      | record otherHere otherLater =>
          obtain rfl := here.unique otherHere
          obtain ⟨rfl, rfl⟩ := ih otherLater (Nat.succ.inj sameLength)
          exact ⟨rfl, rfl⟩

theorem RecordRun.bounds {packet : Packet} {position last : Nat}
    {records : List Record} (run : RecordRun packet position records last)
    {record : Record} (member : record ∈ records) :
    position < record.header ∧ record.end ≤ last := by
  induction run with
  | done =>
      cases member
  | record here later ih =>
      rcases List.mem_cons.mp member with rfl | inRest
      · exact ⟨here.lt_header, later.le⟩
      · have below := ih inRest
        have step := here.lt_end
        exact ⟨by omega, below.2⟩

theorem RecordRun.fields {packet : Packet} {position last : Nat}
    {records : List Record} (run : RecordRun packet position records last)
    {record : Record} (member : record ∈ records) :
    record.ttl = dwordAt packet (record.header + 4) := by
  induction run with
  | done =>
      cases member
  | record here later ih =>
      rcases List.mem_cons.mp member with rfl | inRest
      · rw [here.fieldsEq]
        rfl
      · exact ih inRest

/-! ### Section counts -/

def recordCount (packet : Packet) : Nat :=
  wordAt packet 6 + wordAt packet 8 + wordAt packet 10

/-! ### The EDNS record of a request -/

structure EdnsRequest where
  present : Bool := false
  doBit : Bool := false
  payload : Nat := 512
  deriving DecidableEq, Repr

def clampPayload (klass : Nat) : Nat :=
  min (max klass 512) 1232

def ednsStep (request : Packet) (boundary index : Nat) :
    Nat × EdnsRequest → Checked (Nat × EdnsRequest)
  | (position, edns) => do
      let (owner, position) ← name request position
      let type ← word request position
      let klass ← word request (position + 2)
      let length ← word request (position + 8)
      rejectIf
        (request.length - position < 10 ∨
          length > request.length - (position + 10))
        (.of "DNS_MALFORMED" "Truncated DNS record")
      if type = 41 then do
        rejectIf (edns.present = true ∨ owner ≠ [] ∨ index < boundary)
          (.of "DNS_MALFORMED" "Invalid OPT record")
        pure (position + 10 + length,
          { present := true
            doBit := byteAt request (position + 6) &&& 0x80 != 0
            payload := clampPayload klass })
      else pure (position + 10 + length, edns)

def ednsRequest (request : Packet) (question : Question) :
    Checked EdnsRequest := do
  let answers ← word request 6
  let authority ← word request 8
  let additional ← word request 10
  rejectIf (answers + authority + additional > 4096)
    (.of "DNS_MALFORMED" "Too many DNS records")
  let (position, edns) ←
    repeatFrom (ednsStep request (answers + authority))
      (answers + authority + additional) 0 (question.end, {})
  rejectIf (position ≠ request.length)
    (.of "DNS_MALFORMED" "Unexpected bytes after DNS records")
  pure edns

/-! ### Synthetic replies -/

/-- The header flags of a synthetic reply: reply, recursion available, the
request's RD and CD bits and the response code. -/
def syntheticFlags (requestFlags rcode : Nat) : Nat :=
  0x8080 ||| (requestFlags &&& 0x0110) ||| rcode

/-- The address record of a zero answer, owned by a pointer to the
question. -/
def zeroRecord (type : Nat) : Packet :=
  let length := if type = 1 then 4 else 16
  [0xc0, 0x0c, 0, UInt8.ofNat type, 0, 1, 0, 0, 0, 0, 0, UInt8.ofNat length] ++
    List.replicate length 0

/-- The OPT record that echoes the client's payload size and DO bit. -/
def optRecord (edns : EdnsRequest) : Packet :=
  [0, 0, 41, UInt8.ofNat (edns.payload >>> 8), UInt8.ofNat edns.payload, 0, 0,
    if edns.doBit then 0x80 else 0, 0, 0, 0]

/-- Whether a zero answer carries an address record for this question. -/
def answersZero (zero : Bool) (question : Question) : Bool :=
  zero && decide (question.klass = 1) &&
    (decide (question.type = 1) || decide (question.type = 28))

def syntheticHeader (request : Packet) (flags : Nat) (answer opt : Bool) :
    Packet :=
  [byteAt request 0, byteAt request 1, UInt8.ofNat (flags >>> 8),
    UInt8.ofNat flags, 0, 1, 0, if answer then 1 else 0, 0, 0, 0,
    if opt then 1 else 0]

def syntheticPacket (request : Packet) (question : Question)
    (edns : EdnsRequest) (rcode : Nat) (zero : Bool) : Packet :=
  syntheticHeader request (syntheticFlags question.flags rcode)
      (answersZero zero question) edns.present ++
    slice request 12 (question.end - 12) ++
    (if answersZero zero question then zeroRecord question.type else []) ++
    (if edns.present then optRecord edns else [])

def syntheticResponse (request : Packet) (rcode : Nat) (zero : Bool) :
    Checked Packet := do
  rejectIf (rcode > 15)
    (.of "DNS_MALFORMED" "DNS response code is out of range")
  let question ← parseQuestion request
  rejectIf (question.flags &&& 0x8000 ≠ 0)
    (.of "DNS_MALFORMED" "Expected query, not response")
  let edns ← ednsRequest request question
  pure (syntheticPacket request question edns rcode zero)

def makeErrorResponse (request : Packet) (rcode : Nat) : Checked Packet :=
  syntheticResponse request rcode false

/-- The response code of a block mode; values outside the enumeration give
NOERROR without an address. -/
def blockRcode (mode : BlockMode) : Nat :=
  if mode = .nxdomain then 3 else if mode = .refused then 5 else 0

def makeBlockResponse (request : Packet) (mode : BlockMode) :
    Checked Packet := do
  rejectIf (mode = .silentDrop)
    (.of "CONFIG" "Silent-drop block mode has no DNS response")
  syntheticResponse request (blockRcode mode) (decide (mode = .zeroAddress))

end NativeDNS
