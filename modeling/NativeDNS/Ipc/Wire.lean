/-
Frames of the local control protocol.

Each platform has its own frame writer and both share the header reader.  The
Windows writer lays out a request first and moves its header in front of the
status of a response; the Linux writer reserves the status from the start.
Both fill a zeroed buffer from front to back.
-/
import Mathlib.Data.Nat.Bitwise
import NativeDNS.Model
import NativeDNS.Wire.Bytes
import NativeDNS.Library.ByteBuffer

namespace NativeDNS

open ByteBuffer
open CheckedResult

def ipcHeaderSize : Nat := 20

def ipcMaxPayload : UInt32 := 1024 * 1024

/-- The bytes `NND1`. -/
def ipcMagic : UInt32 := 0x31444e4e

structure IpcWireHeader where
  operation : UInt16
  request : UInt64
  length : UInt32
  deriving DecidableEq, Repr

def put16 (out : Packet) (offset : Nat) (value : UInt16) : Packet :=
  overwrite out offset (littleEndian 2 value.toNat)

def put32 (out : Packet) (offset : Nat) (value : UInt32) : Packet :=
  overwrite out offset (littleEndian 4 value.toNat)

def put64 (out : Packet) (offset : Nat) (value : UInt64) : Packet :=
  overwrite out offset (littleEndian 8 value.toNat)

def get16 (bytes : Packet) (offset : Nat) : UInt16 :=
  UInt16.ofNat (littleValue (slice bytes offset 2))

def get32 (bytes : Packet) (offset : Nat) : UInt32 :=
  UInt32.ofNat (littleValue (slice bytes offset 4))

def get64 (bytes : Packet) (offset : Nat) : UInt64 :=
  UInt64.ofNat (littleValue (slice bytes offset 8))

def ipcProtocol (message : String) : Error :=
  .of "IPC_PROTOCOL" message

def parseIpcHeader (bytes : Packet) (response : Bool) :
    Checked IpcWireHeader := do
  rejectIf (bytes.length ≠ ipcHeaderSize)
    (ipcProtocol "Invalid IPC header size")
  rejectIf (get32 bytes 0 ≠ ipcMagic ∨ get16 bytes 4 ≠ 1)
    (ipcProtocol "Bad IPC magic/version")
  let header : IpcWireHeader :=
    { operation := get16 bytes 6
      request := get64 bytes 8
      length := get32 bytes 16 }
  let base := header.operation &&& 0x7fff
  rejectIf
    (header.request = 0 ∨ base < 1 ∨ base > 11 ∨
      (if response then header.operation &&& 0x8000 = 0
        else header.operation &&& 0x8000 ≠ 0))
    (ipcProtocol "Invalid IPC request header")
  rejectIf
    (if response then
      header.length < 4 ∨ header.length > ipcMaxPayload + 4
    else header.length > ipcMaxPayload)
    (ipcProtocol "Invalid IPC payload size")
  pure header

def windowsFrame (operation : UInt16) (request : UInt64) (status : UInt32)
    (payload : Bytes) : Checked Packet := do
  rejectIf (payload.length > ipcMaxPayload.toNat)
    (.of "IPC_LIMIT" "IPC payload exceeds 1 MiB")
  let out : Packet := List.replicate (ipcHeaderSize + payload.length) 0
  let out := put32 out 0 ipcMagic
  let out := put16 out 4 1
  let out := put16 out 6 operation
  let out := put64 out 8 request
  let out := put32 out 16 (UInt32.ofNat payload.length)
  if operation &&& 0x8000 ≠ 0 then
    let response : Packet :=
      List.replicate (ipcHeaderSize + 4 + payload.length) 0
    let response := overwrite response 0 (out.take ipcHeaderSize)
    let response := put32 response 16 (UInt32.ofNat (payload.length + 4))
    let response := put32 response ipcHeaderSize status
    pure (overwrite response (ipcHeaderSize + 4) payload)
  else pure (overwrite out ipcHeaderSize payload)

def linuxFrame (operation : UInt16) (request : UInt64) (status : UInt32)
    (payload : Bytes) : Checked Packet := do
  rejectIf (payload.length > ipcMaxPayload.toNat)
    (.of "IPC_LIMIT" "IPC payload exceeds 1 MiB")
  let extra := if operation &&& 0x8000 ≠ 0 then 4 else 0
  let output : Packet :=
    List.replicate (ipcHeaderSize + extra + payload.length) 0
  let output := put32 output 0 ipcMagic
  let output := put16 output 4 1
  let output := put16 output 6 operation
  let output := put64 output 8 request
  let output := put32 output 16 (UInt32.ofNat (extra + payload.length))
  let output := if extra ≠ 0 then put32 output ipcHeaderSize status else output
  pure (overwrite output (ipcHeaderSize + extra) payload)

/-! ### The layout of a frame -/

def ipcPrologue (operation : UInt16) (request : UInt64) : Packet :=
  littleEndian 4 ipcMagic.toNat ++ littleEndian 2 1 ++
    littleEndian 2 operation.toNat ++ littleEndian 8 request.toNat

def ipcLayout (operation : UInt16) (request : UInt64) (body : Packet) :
    Packet :=
  ipcPrologue operation request ++ littleEndian 4 body.length ++ body

def ipcBody (operation : UInt16) (status : UInt32) (payload : Bytes) : Packet :=
  (if operation &&& 0x8000 ≠ 0 then littleEndian 4 status.toNat else []) ++
    payload

@[simp] theorem ipcPrologue_length (operation : UInt16) (request : UInt64) :
    (ipcPrologue operation request).length = 16 := by
  simp only [ipcPrologue, List.length_append, littleEndian_length]

theorem header_written (operation : UInt16) (request : UInt64)
    (length : UInt32) (left : Nat) :
    put32 (put64 (put16 (put16 (put32 (List.replicate (20 + left) 0) 0 ipcMagic)
        4 1) 6 operation) 8 request) 16 length =
      (ipcPrologue operation request ++ littleEndian 4 length.toNat) ++
        List.replicate left 0 := by
  unfold put16 put32 put64
  rw [overwrite_start (by simp; omega),
    overwrite_zeros (by simp) (by simp; omega),
    overwrite_zeros (by simp) (by simp; omega),
    overwrite_zeros (by simp) (by simp; omega),
    overwrite_zeros (by simp) (by simp; omega)]
  simp only [littleEndian_length]
  have rest : 20 + left - 4 - 2 - 2 - 8 - 4 = left := by
    omega
  rw [rest]
  rfl

/-! ### Both writers produce the layout -/

private theorem length_toNat {length : Nat} (small : length ≤ 1048580) :
    (UInt32.ofNat length).toNat = length := by
  rw [UInt32.toNat_ofNat']
  omega

private theorem ipcMaxPayload_toNat : ipcMaxPayload.toNat = 1048576 := by
  decide

theorem windowsFrame_eq {operation : UInt16} {request : UInt64}
    {status : UInt32} {payload : Bytes}
    (small : payload.length ≤ ipcMaxPayload.toNat) :
    windowsFrame operation request status payload =
      .ok (ipcLayout operation request
        (ipcBody operation status payload)) := by
  rw [ipcMaxPayload_toNat] at small
  have lengthEq : (UInt32.ofNat payload.length).toNat = payload.length :=
    length_toNat (by omega)
  have longerEq :
      (UInt32.ofNat (payload.length + 4)).toNat = payload.length + 4 :=
    length_toNat (by omega)
  unfold windowsFrame ipcLayout ipcBody ipcHeaderSize
  rw [rejectIf_of_not (by rw [ipcMaxPayload_toNat]; omega), ok_bind]
  dsimp only
  rw [header_written, lengthEq]
  split
  · have header : ((ipcPrologue operation request ++
        littleEndian 4 payload.length) ++
          List.replicate payload.length 0).take 20 =
        ipcPrologue operation request ++ littleEndian 4 payload.length :=
      List.take_left' (by simp)
    rw [header, overwrite_start (by simp; omega), put32, put32,
      List.append_assoc, overwrite_append _ (by simp) (by simp),
      ← List.append_assoc, overwrite_zeros (by simp) (by simp; omega),
      overwrite_zeros (by simp) (by simp; omega), longerEq, pure_eq_ok]
    have rest : 20 + 4 + payload.length - (ipcPrologue operation request ++
        littleEndian 4 payload.length).length -
          (littleEndian 4 status.toNat).length - payload.length = 0 := by
      simp
      omega
    rw [rest, List.replicate_zero, List.append_nil, List.length_append,
      littleEndian_length, Nat.add_comm payload.length 4, List.append_assoc]
  · rw [overwrite_zeros (by simp) (by simp), Nat.sub_self, List.replicate_zero,
      List.append_nil, List.nil_append, pure_eq_ok]

theorem linuxFrame_eq {operation : UInt16} {request : UInt64}
    {status : UInt32} {payload : Bytes}
    (small : payload.length ≤ ipcMaxPayload.toNat) :
    linuxFrame operation request status payload =
      .ok (ipcLayout operation request
        (ipcBody operation status payload)) := by
  rw [ipcMaxPayload_toNat] at small
  unfold linuxFrame ipcLayout ipcBody ipcHeaderSize
  rw [rejectIf_of_not (by rw [ipcMaxPayload_toNat]; omega), ok_bind]
  dsimp only
  rw [Nat.add_assoc 20, header_written, length_toNat (by split <;> omega)]
  split
  · rw [if_pos (by decide), put32, overwrite_zeros (by simp) (by simp),
      overwrite_zeros (by simp) (by simp), pure_eq_ok]
    have rest : 4 + payload.length - (littleEndian 4 status.toNat).length -
        payload.length = 0 := by
      simp
    rw [rest, List.replicate_zero, List.append_nil, List.length_append,
      littleEndian_length, List.append_assoc]
  · rw [if_neg (by decide), overwrite_zeros (by simp) (by simp), Nat.zero_add,
      Nat.sub_self, List.replicate_zero, List.append_nil, List.nil_append,
      pure_eq_ok]

theorem windowsFrame_eq_linuxFrame (operation : UInt16) (request : UInt64)
    (status : UInt32) (payload : Bytes) :
    windowsFrame operation request status payload =
      linuxFrame operation request status payload := by
  by_cases small : payload.length ≤ ipcMaxPayload.toNat
  · rw [windowsFrame_eq small, linuxFrame_eq small]
  · unfold windowsFrame linuxFrame
    rw [rejectIf_of (by omega)]
    rfl

/-! ### Reading a header back -/

private theorem slice_middle {front middle back : Packet} {offset count : Nat}
    (position : offset = front.length) (size : count = middle.length) :
    slice (front ++ (middle ++ back)) offset count = middle := by
  subst position size
  unfold slice
  rw [List.drop_left, List.take_left]

private theorem littleValue_written {front back : Packet} {offset size value : Nat}
    (small : value < 256 ^ size) (position : offset = front.length) :
    littleValue (slice (front ++ (littleEndian size value ++ back)) offset size) =
      value := by
  rw [slice_middle position (by simp), littleValue_littleEndian, Nat.mod_eq_of_lt small]

theorem get16_written {front back : Packet} {offset : Nat} (value : UInt16)
    (position : offset = front.length) :
    get16 (front ++ (littleEndian 2 value.toNat ++ back)) offset = value := by
  rw [get16, littleValue_written value.toNat_lt position, UInt16.ofNat_toNat]

theorem get32_written {front back : Packet} {offset : Nat} (value : UInt32)
    (position : offset = front.length) :
    get32 (front ++ (littleEndian 4 value.toNat ++ back)) offset = value := by
  rw [get32, littleValue_written value.toNat_lt position, UInt32.ofNat_toNat]

theorem get64_written {front back : Packet} {offset : Nat} (value : UInt64)
    (position : offset = front.length) :
    get64 (front ++ (littleEndian 8 value.toNat ++ back)) offset = value := by
  rw [get64, littleValue_written value.toNat_lt position, UInt64.ofNat_toNat]

def ipcHeaderBytes (header : IpcWireHeader) : Packet :=
  ipcPrologue header.operation header.request ++
    littleEndian 4 header.length.toNat

/-- A header the reader may accept: the fields of its size and magic checks
are as they must be. -/
structure IpcHeaderAt (bytes : Packet) (header : IpcWireHeader) : Prop where
  size : bytes.length = ipcHeaderSize
  magic : get32 bytes 0 = ipcMagic
  version : get16 bytes 4 = 1
  operation : header.operation = get16 bytes 6
  request : header.request = get64 bytes 8
  length : header.length = get32 bytes 16

theorem ipcHeaderAt_bytes (header : IpcWireHeader) :
    IpcHeaderAt (ipcHeaderBytes header) header := by
  have layout : ipcHeaderBytes header =
      [] ++ (littleEndian 4 ipcMagic.toNat ++
        (littleEndian 2 (1 : UInt16).toNat ++
          (littleEndian 2 header.operation.toNat ++
            (littleEndian 8 header.request.toNat ++
              (littleEndian 4 header.length.toNat ++ []))))) := by
    simp only [ipcHeaderBytes, ipcPrologue, List.append_assoc, List.append_nil,
      List.nil_append]
    rfl
  refine
    { size := by rw [layout]; simp [ipcHeaderSize]
      magic := by rw [layout]; exact get32_written ipcMagic rfl
      version := ?_
      operation := ?_
      request := ?_
      length := ?_ }
  · rw [layout, ← List.append_assoc]
    exact get16_written 1 (by simp)
  · rw [layout, ← List.append_assoc, ← List.append_assoc]
    exact (get16_written header.operation (by simp)).symm
  · rw [layout, ← List.append_assoc, ← List.append_assoc, ← List.append_assoc]
    exact (get64_written header.request (by simp)).symm
  · rw [layout, ← List.append_assoc, ← List.append_assoc, ← List.append_assoc,
      ← List.append_assoc]
    exact (get32_written header.length (by simp)).symm

private theorem littleValue_slice {bytes : Packet} {offset size : Nat}
    (within : offset + size ≤ bytes.length) :
    littleValue (slice bytes offset size) < 256 ^ size ∧
      slice bytes offset size =
        littleEndian size (littleValue (slice bytes offset size)) := by
  have bound := littleValue_lt (slice bytes offset size)
  rw [slice_length within] at bound
  exact ⟨bound, (littleEndian_of_value (slice_length within) rfl).symm⟩

private theorem slice_of_get16 {bytes : Packet} {offset : Nat} {value : UInt16}
    (within : offset + 2 ≤ bytes.length) (read : get16 bytes offset = value) :
    slice bytes offset 2 = littleEndian 2 value.toNat := by
  obtain ⟨small, cut⟩ := littleValue_slice within
  rw [← read, get16, UInt16.toNat_ofNat_of_lt' small]
  exact cut

private theorem slice_of_get32 {bytes : Packet} {offset : Nat} {value : UInt32}
    (within : offset + 4 ≤ bytes.length) (read : get32 bytes offset = value) :
    slice bytes offset 4 = littleEndian 4 value.toNat := by
  obtain ⟨small, cut⟩ := littleValue_slice within
  rw [← read, get32, UInt32.toNat_ofNat_of_lt' small]
  exact cut

private theorem slice_of_get64 {bytes : Packet} {offset : Nat} {value : UInt64}
    (within : offset + 8 ≤ bytes.length) (read : get64 bytes offset = value) :
    slice bytes offset 8 = littleEndian 8 value.toNat := by
  obtain ⟨small, cut⟩ := littleValue_slice within
  rw [← read, get64, UInt64.toNat_ofNat_of_lt' small]
  exact cut

private theorem drop_eq_slice (bytes : Packet) (offset count : Nat) :
    bytes.drop offset = slice bytes offset count ++
      bytes.drop (offset + count) := by
  unfold slice
  rw [← List.drop_drop, List.take_append_drop]

theorem IpcHeaderAt.bytes_eq {bytes : Packet} {header : IpcWireHeader}
    (here : IpcHeaderAt bytes header) : bytes = ipcHeaderBytes header := by
  have size : bytes.length = 20 := here.size
  have cut : bytes = slice bytes 0 4 ++ (slice bytes 4 2 ++ (slice bytes 6 2 ++
      (slice bytes 8 8 ++ (slice bytes 16 4 ++ bytes.drop 20)))) := by
    rw [← drop_eq_slice bytes 16 4, ← drop_eq_slice bytes 8 8,
      ← drop_eq_slice bytes 6 2, ← drop_eq_slice bytes 4 2,
      ← drop_eq_slice bytes 0 4, List.drop_zero]
  rw [cut, slice_of_get32 (by omega) here.magic,
    slice_of_get16 (by omega) here.version,
    slice_of_get16 (by omega) here.operation.symm,
    slice_of_get64 (by omega) here.request.symm,
    slice_of_get32 (by omega) here.length.symm,
    List.drop_eq_nil_of_le (by omega)]
  simp only [ipcHeaderBytes, ipcPrologue, List.append_assoc, List.append_nil]
  rfl

/-- The checks of the reader on the header fields. -/
structure IpcLegal (header : IpcWireHeader) (response : Bool) : Prop where
  request : header.request ≠ 0
  known : 1 ≤ header.operation &&& 0x7fff ∧ header.operation &&& 0x7fff ≤ 11
  direction : (header.operation &&& 0x8000 ≠ 0) ↔ response = true
  length : if response then
      4 ≤ header.length ∧ header.length ≤ ipcMaxPayload + 4
    else header.length ≤ ipcMaxPayload

theorem parseIpcHeader_eq_ok {bytes : Packet} {response : Bool}
    {header : IpcWireHeader} :
    parseIpcHeader bytes response = .ok header ↔
      IpcHeaderAt bytes header ∧ IpcLegal header response := by
  simp only [parseIpcHeader, bind_eq_ok, rejectIf_eq_ok, pure_eq_ok,
    Except.ok.injEq, not_not, not_or, UInt16.not_lt, exists_and_left,
    exists_const]
  constructor
  · rintro ⟨size, ⟨magic, version⟩, ⟨request, low, high, direction⟩, length,
      built⟩
    subst built
    refine ⟨⟨size, magic, version, rfl, rfl, rfl⟩, request, ⟨low, high⟩, ?_, ?_⟩
    · cases response <;> simpa using direction
    · cases response <;> simpa using length
  · rintro ⟨here, legal⟩
    obtain ⟨operation, request, length⟩ := header
    obtain ⟨size, magic, version, rfl, rfl, rfl⟩ := here
    refine ⟨size, ⟨magic, version⟩,
      ⟨legal.request, legal.known.1, legal.known.2, ?_⟩, ?_, rfl⟩
    · have direction := legal.direction
      cases response <;> simpa using direction
    · have bounds := legal.length
      cases response <;> simpa using bounds

theorem parseIpcHeader_opposite {bytes : Packet} {response : Bool}
    {header : IpcWireHeader} (here : IpcHeaderAt bytes header)
    (legal : IpcLegal header response) :
    parseIpcHeader bytes (!response) =
      .error (ipcProtocol "Invalid IPC request header") := by
  have direction := legal.direction
  unfold parseIpcHeader
  rw [rejectIf_of_not (not_not.mpr here.size), ok_bind,
    rejectIf_of_not (by simp [here.magic, here.version]), ok_bind]
  dsimp only
  rw [← here.operation, rejectIf_of, error_bind]
  cases response with
  | false =>
      simp only [Bool.false_eq_true, iff_false, not_not] at direction
      simp [direction]
  | true =>
      simp only [iff_true] at direction
      simp [direction]

/-! ### Operations and their response form -/

def wireOperation (operation : UInt16) (response : Bool) : UInt16 :=
  if response then operation ||| 0x8000 else operation

private theorem operationKinds : ∀ value < 12,
    UInt16.ofNat value &&& 0x8000 = 0 ∧
      UInt16.ofNat value &&& 0x7fff = UInt16.ofNat value ∧
      (UInt16.ofNat value ||| 0x8000) &&& 0x8000 ≠ 0 ∧
      (UInt16.ofNat value ||| 0x8000) &&& 0x7fff = UInt16.ofNat value := by
  decide

theorem wireOperation_direction {operation : UInt16} (high : operation ≤ 11)
    (response : Bool) :
    wireOperation operation response &&& 0x8000 ≠ 0 ↔ response = true := by
  have small : operation.toNat ≤ 11 := UInt16.le_iff_toNat_le.mp high
  have kinds := operationKinds operation.toNat (by omega)
  rw [UInt16.ofNat_toNat] at kinds
  cases response with
  | false =>
      simp [wireOperation, kinds.1]
  | true =>
      simp only [wireOperation, if_true, iff_true]
      exact kinds.2.2.1

theorem wireOperation_base {operation : UInt16} (high : operation ≤ 11)
    (response : Bool) :
    wireOperation operation response &&& 0x7fff = operation := by
  have small : operation.toNat ≤ 11 := UInt16.le_iff_toNat_le.mp high
  have kinds := operationKinds operation.toNat (by omega)
  rw [UInt16.ofNat_toNat] at kinds
  cases response with
  | false =>
      exact kinds.2.1
  | true =>
      exact kinds.2.2.2

theorem wireOperation_of_field (field : UInt16) :
    wireOperation (field &&& 0x7fff) (decide (field &&& 0x8000 ≠ 0)) =
      field := by
  have small := field.toNat_lt
  have low : field.toNat &&& 0x7fff = field.toNat % 32768 :=
    Nat.and_two_pow_sub_one_eq_mod field.toNat 15
  have whole : field.toNat &&& (0x7fff ||| 0x8000) = field.toNat := by
    rw [show 0x7fff ||| 0x8000 = 2 ^ 16 - 1 by decide,
      Nat.and_two_pow_sub_one_eq_mod, Nat.mod_eq_of_lt small]
  rw [Nat.and_or_distrib_left] at whole
  have high : field.toNat &&& 0x8000 = 0 ∨ field.toNat &&& 0x8000 = 0x8000 := by
    rw [show 0x8000 = 2 ^ 15 by decide, Nat.and_two_pow]
    cases field.toNat.testBit 15 <;> simp
  apply UInt16.toNat_inj.mp
  rcases high with clear | marked
  · have noBit : field &&& 0x8000 = 0 := by
      apply UInt16.toNat_inj.mp
      rw [UInt16.toNat_and]
      exact clear
    rw [clear, Nat.or_zero] at whole
    rw [noBit]
    simp only [wireOperation, ne_eq, not_true_eq_false, decide_false,
      Bool.false_eq_true, if_false]
    rw [UInt16.toNat_and]
    exact whole
  · have bit : field &&& 0x8000 ≠ 0 := by
      intro none
      have noBit := congrArg UInt16.toNat none
      rw [UInt16.toNat_and] at noBit
      have clear : field.toNat &&& 0x8000 = 0 := noBit
      omega
    rw [marked] at whole
    simp only [wireOperation, ne_eq, bit, not_false_eq_true, decide_true,
      if_true]
    rw [UInt16.toNat_or, UInt16.toNat_and]
    exact whole

/-! ### The round trip -/

/-- The frame of an operation is read back as it was written. -/
structure FrameReadBack (operation : UInt16) (response : Bool)
    (request : UInt64) (status : UInt32) (payload bytes : Bytes) : Prop where
  windows : windowsFrame (wireOperation operation response) request status
    payload = .ok bytes
  linux : linuxFrame (wireOperation operation response) request status
    payload = .ok bytes
  header : ∃ header, parseIpcHeader (bytes.take ipcHeaderSize) response =
    .ok header ∧ header.operation = wireOperation operation response ∧
      header.request = request ∧
      header.length.toNat = bytes.length - ipcHeaderSize
  body : bytes.drop ipcHeaderSize =
    (if response then littleEndian 4 status.toNat else []) ++ payload
  status : response = true → get32 bytes ipcHeaderSize = status
  opposite : parseIpcHeader (bytes.take ipcHeaderSize) (!response) =
    .error (ipcProtocol "Invalid IPC request header")

theorem ipcBody_wireOperation {operation : UInt16} (high : operation ≤ 11)
    (response : Bool) (status : UInt32) (payload : Bytes) :
    ipcBody (wireOperation operation response) status payload =
      (if response then littleEndian 4 status.toNat else []) ++ payload := by
  unfold ipcBody
  simp only [wireOperation_direction high]

theorem frame_readBack {operation : UInt16} {response : Bool}
    {request : UInt64} {status : UInt32} {payload : Bytes}
    (low : 1 ≤ operation) (high : operation ≤ 11) (named : request ≠ 0)
    (small : payload.length ≤ 1048576) :
    ∃ bytes, FrameReadBack operation response request status payload bytes := by
  have within : payload.length ≤ ipcMaxPayload.toNat := by
    rw [ipcMaxPayload_toNat]
    exact small
  have bodyEq := ipcBody_wireOperation high response status payload
  have bodyLength : (ipcBody (wireOperation operation response) status
      payload).length = (if response then 4 else 0) + payload.length := by
    rw [bodyEq, List.length_append]
    split <;> simp
  generalize bodyIs : ipcBody (wireOperation operation response) status
    payload = body at bodyEq bodyLength
  have lengthEq : (UInt32.ofNat body.length).toNat = body.length := by
    apply length_toNat
    split at bodyLength <;> omega
  have layout : ipcLayout (wireOperation operation response) request body =
      ipcHeaderBytes
        { operation := wireOperation operation response
          request := request
          length := UInt32.ofNat body.length } ++ body := by
    simp only [ipcLayout, ipcHeaderBytes, lengthEq]
  have headerSize : (ipcHeaderBytes
      { operation := wireOperation operation response
        request := request
        length := UInt32.ofNat body.length }).length = ipcHeaderSize :=
    (ipcHeaderAt_bytes _).size
  have legal : IpcLegal
      { operation := wireOperation operation response
        request := request
        length := UInt32.ofNat body.length } response := by
    refine ⟨named, ?_, wireOperation_direction high response, ?_⟩
    · simp only [wireOperation_base high]
      exact ⟨low, high⟩
    · simp only [UInt32.le_iff_toNat_le, lengthEq]
      cases response with
      | false =>
          simp only [Bool.false_eq_true, if_false] at bodyLength ⊢
          rw [ipcMaxPayload_toNat]
          omega
      | true =>
          simp only [if_true] at bodyLength ⊢
          have limit : (ipcMaxPayload + 4).toNat = 1048580 := by decide
          have four : (4 : UInt32).toNat = 4 := by decide
          rw [limit, four]
          omega
  have taken := @List.take_left' _ _ body _ headerSize
  have dropped := @List.drop_left' _ _ body _ headerSize
  rw [← layout] at taken dropped
  refine ⟨ipcLayout (wireOperation operation response) request body,
    { windows := by rw [windowsFrame_eq within, bodyIs]
      linux := by rw [linuxFrame_eq within, bodyIs]
      header := ⟨_, by
        rw [taken]
        exact parseIpcHeader_eq_ok.mpr ⟨ipcHeaderAt_bytes _, legal⟩,
        rfl, rfl, ?_⟩
      body := by rw [dropped, bodyEq]
      status := ?_
      opposite := by
        rw [taken]
        exact parseIpcHeader_opposite (ipcHeaderAt_bytes _) legal }⟩
  · rw [layout, List.length_append, headerSize, Nat.add_sub_cancel_left]
    exact lengthEq
  · intro isResponse
    rw [layout, bodyEq, if_pos isResponse]
    exact get32_written status headerSize.symm

theorem accepted_header_framed {header : Packet} {response : Bool}
    {fields : IpcWireHeader}
    (accepted : parseIpcHeader header response = .ok fields) :
    ∃ (operation : UInt16) (request : UInt64) (payload : Bytes),
      1 ≤ operation ∧ operation ≤ 11 ∧ request ≠ 0 ∧
        payload.length ≤ 1048576 ∧
        ∀ status, ∃ bytes,
          windowsFrame (wireOperation operation response) request status
            payload = .ok bytes ∧ bytes.take ipcHeaderSize = header := by
  obtain ⟨here, legal⟩ := parseIpcHeader_eq_ok.mp accepted
  have fieldEq : wireOperation (fields.operation &&& 0x7fff) response =
      fields.operation := by
    have direction : decide (fields.operation &&& 0x8000 ≠ 0) = response := by
      rw [Bool.eq_iff_iff, decide_eq_true_eq]
      exact legal.direction
    rw [← direction]
    exact wireOperation_of_field fields.operation
  -- the payload takes what the status leaves of the length
  have bounds : (if response then 4 else 0) ≤ fields.length.toNat ∧
      fields.length.toNat ≤ (if response then 4 else 0) + 1048576 := by
    have length := legal.length
    have limit : (ipcMaxPayload + 4).toNat = 1048580 := by decide
    have four : (4 : UInt32).toNat = 4 := by decide
    cases response with
    | false =>
        simp only [Bool.false_eq_true, if_false, UInt32.le_iff_toNat_le,
          ipcMaxPayload_toNat] at length ⊢
        omega
    | true =>
        simp only [if_true, UInt32.le_iff_toNat_le, limit, four] at length ⊢
        omega
  generalize extraIs : (if response then 4 else 0) = extra at bounds
  refine ⟨fields.operation &&& 0x7fff, fields.request,
    List.replicate (fields.length.toNat - extra) 0, legal.known.1,
    legal.known.2, legal.request, by rw [List.length_replicate]; omega, ?_⟩
  intro status
  have within : (List.replicate (fields.length.toNat - extra)
      (0 : UInt8)).length ≤ ipcMaxPayload.toNat := by
    rw [List.length_replicate, ipcMaxPayload_toNat]
    omega
  refine ⟨_, windowsFrame_eq within, ?_⟩
  have bodyEq := ipcBody_wireOperation legal.known.2 response status
    (List.replicate (fields.length.toNat - extra) 0)
  rw [fieldEq] at bodyEq ⊢
  have bodyLength : (ipcBody fields.operation status
      (List.replicate (fields.length.toNat - extra) 0)).length =
        fields.length.toNat := by
    rw [bodyEq, List.length_append, List.length_replicate]
    cases response with
    | false =>
        simp only [Bool.false_eq_true, if_false, List.length_nil] at extraIs ⊢
        omega
    | true =>
        simp only [if_true, littleEndian_length] at extraIs ⊢
        omega
  have size : (ipcPrologue fields.operation fields.request ++
      littleEndian 4 fields.length.toNat).length = ipcHeaderSize := by
    simp [ipcHeaderSize]
  rw [ipcLayout, bodyLength, List.take_left' size]
  exact here.bytes_eq.symm

/-- Both platforms write the same frame for every operation, direction,
request, status and payload, the reader takes it apart in that direction and
refuses it in the other; and every header the reader accepts is the header of
such a frame. -/
theorem ipc_framing_roundTrip :
    (∀ (operation : UInt16) (response : Bool) (request : UInt64)
        (status : UInt32) (payload : Bytes),
      1 ≤ operation → operation ≤ 11 → request ≠ 0 →
        payload.length ≤ 1048576 →
          ∃ bytes,
            FrameReadBack operation response request status payload bytes) ∧
      ∀ (header : Packet) (response : Bool) (fields : IpcWireHeader),
        parseIpcHeader header response = .ok fields →
          ∃ (operation : UInt16) (request : UInt64) (status : UInt32)
            (payload bytes : Bytes),
            1 ≤ operation ∧ operation ≤ 11 ∧ request ≠ 0 ∧
              payload.length ≤ 1048576 ∧
              FrameReadBack operation response request status payload bytes ∧
              bytes.take ipcHeaderSize = header := by
  constructor
  · intro operation response request status payload low high named small
    exact frame_readBack low high named small
  · intro header response fields accepted
    obtain ⟨operation, request, payload, low, high, named, small, framed⟩ :=
      accepted_header_framed accepted
    obtain ⟨bytes, written, headed⟩ := framed 0
    obtain ⟨others, readBack⟩ :=
      @frame_readBack operation response request 0 payload low high named small
    have same : others = bytes := by
      have both := readBack.windows.symm.trans written
      exact Except.ok.inj both
    subst same
    exact ⟨operation, request, 0, payload, others, low, high, named, small,
      readBack, headed⟩

/-- A response to a ping and a request whose header is accepted. -/
theorem ipc_framing_roundTrip_ping :
    (∃ bytes, FrameReadBack 1 true 7 0 [112, 111, 110, 103] bytes) ∧
      ∃ (operation : UInt16) (request : UInt64) (status : UInt32)
        (payload bytes : Bytes),
        1 ≤ operation ∧ operation ≤ 11 ∧ request ≠ 0 ∧
          payload.length ≤ 1048576 ∧
          FrameReadBack operation false request status payload bytes ∧
          bytes.take ipcHeaderSize =
            [0x4e, 0x4e, 0x44, 0x31, 1, 0, 11, 0, 9, 0, 0, 0, 0, 0, 0, 0,
              0, 0, 0, 0] :=
  ⟨ipc_framing_roundTrip.1 1 true 7 0 [112, 111, 110, 103] (by decide)
      (by decide) (by decide) (by decide),
    ipc_framing_roundTrip.2 _ false
      { operation := 11
        request := 9
        length := 0 } (by rfl)⟩

end NativeDNS
