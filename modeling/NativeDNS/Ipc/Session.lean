/-
Sessions of the local control protocol.

A connection carries bytes both ways in pieces of any size.  A worker of the server
reads a header and a payload, calls its handler once and writes the reply; the client
of the core writes one request and reads the reply back.  Every party may give up or
break down between two calls of the system, and a client that is not the one of the
core may send anything.  What has crossed a connection is kept beside what it does.
-/
import NativeDNS.Host.Reload
import NativeDNS.Ipc.Wire
import NativeDNS.Library.Transition

namespace NativeDNS

open ByteText (text)
open CheckedResult

/-! ### The two ends of a connection -/

inductive IpcPlatform where
  | windows
  | linux
  deriving DecidableEq

def IpcPlatform.frame : IpcPlatform → UInt16 → UInt64 → UInt32 → Bytes → Checked Packet
  | .windows => windowsFrame
  | .linux => linuxFrame

/-- What `pipe_request` is asked for, with the number it takes for the request. -/
structure IpcRequest where
  operation : UInt16
  request : UInt64
  payload : Bytes
  deriving DecidableEq

/-- What `pipe_request` is doing. -/
inductive Requesting where
  | sending (left : Bytes)
  | header (got : Bytes)
  | body (length : Nat) (got : Bytes)
  | returned (response : IpcResponse)
  | failed
  deriving DecidableEq

inductive IpcClient where
  | pipe (request : IpcRequest) (phase : Requesting)
  | foreign
  deriving DecidableEq

inductive Serving where
  | waiting
  | header (got : Bytes)
  | payload (header : IpcWireHeader) (got : Bytes)
  | handling (header : IpcWireHeader) (payload : Bytes)
  | replying (left : Bytes)
  | replied
  | closed
  deriving DecidableEq

structure HandlerCall where
  operation : UInt16
  payload : Bytes
  deriving DecidableEq

/-- A connection.  The bytes under way are `up` and `down`; all bytes the client has
sent, all bytes the server has sent and all bytes the client has received are kept,
with what the handler was called with and what came of it. -/
structure IpcConnection where
  client : IpcClient
  server : Serving := .waiting
  up : Bytes := []
  down : Bytes := []
  sent : Bytes := []
  delivered : Bytes := []
  taken : Bytes := []
  calls : List HandlerCall := []
  answers : List (Except Thrown IpcResponse) := []
  deriving DecidableEq

/-- One call that receives: something has come, and no more is read than is wanted. -/
def receiveSome (size : Nat) (got line : Bytes) (count : Nat) : Option (Bytes × Bytes) :=
  if 0 < count ∧ count ≤ line.length ∧ got.length + count ≤ size then
    some (got ++ line.take count, line.drop count)
  else none

def sendSome (left : Bytes) (count : Nat) : Option (Bytes × Bytes) :=
  if 0 < count ∧ count ≤ left.length then some (left.take count, left.drop count) else none

def respond : Except Thrown IpcResponse → IpcResponse
  | .ok response => response
  | .error (.error error) =>
      { status := 1
        payload := text error.code ++ text ": " ++ error.message }
  | .error (.exception what) =>
      { status := 2
        payload := text "INTERNAL: " ++ what }

/-! ### The client of the core -/

/-- `pipe_request` on a new connection, in front of its first transfer. -/
def IpcConnection.open (platform : IpcPlatform) (request : IpcRequest) : IpcConnection :=
  match platform.frame request.operation request.request 0 request.payload with
  | .ok output => { client := .pipe request (.sending output) }
  | .error _ => { client := .pipe request .failed }

/-- The checks of `pipe_request` on the header of a reply. -/
def responseHeader (request : IpcRequest) (bytes : Bytes) : Requesting :=
  match parseIpcHeader bytes true with
  | .ok parsed =>
      if parsed.operation ≠ request.operation ||| 0x8000 ∨ parsed.request ≠ request.request then
        .failed
      else .body parsed.length.toNat []
  | .error _ => .failed

def responseBody (body : Bytes) : IpcResponse :=
  { status := get32 body 0
    payload := body.drop 4 }

namespace IpcConnection

def clientSend (c : IpcConnection) (count : Nat) : Option IpcConnection :=
  match c.client with
  | .pipe request (.sending left) => do
      let (part, left) ← sendSome left count
      pure
        { c with
          client := .pipe request (if left = [] then .header [] else .sending left)
          up := c.up ++ part
          sent := c.sent ++ part }
  | _ => none

def clientReceive (c : IpcConnection) (count : Nat) : Option IpcConnection :=
  match c.client with
  | .pipe request (.header got) => do
      let (got, down) ← receiveSome ipcHeaderSize got c.down count
      pure
        { c with
          client := .pipe request
            (if got.length = ipcHeaderSize then responseHeader request got else .header got)
          down := down
          taken := c.taken ++ c.down.take count }
  | .pipe request (.body length got) => do
      let (got, down) ← receiveSome length got c.down count
      pure
        { c with
          client := .pipe request
            (if got.length = length then .returned (responseBody got) else .body length got)
          down := down
          taken := c.taken ++ c.down.take count }
  | _ => none

def clientFail (c : IpcConnection) : Option IpcConnection :=
  match c.client with
  | .pipe _ (.returned _) => none
  | .pipe _ .failed => none
  | .pipe request _ => some { c with client := .pipe request .failed }
  | .foreign => none

def foreignSend (c : IpcConnection) (bytes : Bytes) : Option IpcConnection :=
  match c.client with
  | .foreign => some { c with up := c.up ++ bytes, sent := c.sent ++ bytes }
  | .pipe _ _ => none

/-! ### The worker of the server -/

def call (c : IpcConnection) (header : IpcWireHeader) (payload : Bytes) : IpcConnection :=
  { c with
    server := .handling header payload
    calls := c.calls ++
      [{ operation := header.operation
         payload := payload }] }

def headerRead (c : IpcConnection) (bytes : Bytes) : IpcConnection :=
  match parseIpcHeader bytes false with
  | .ok header =>
      if header.length = 0 then c.call header [] else { c with server := .payload header [] }
  | .error _ => { c with server := .closed }

def serverReceive (c : IpcConnection) (count : Nat) : Option IpcConnection :=
  match c.server with
  | .header got => do
      let (got, up) ← receiveSome ipcHeaderSize got c.up count
      let c := { c with up := up }
      pure (if got.length = ipcHeaderSize then c.headerRead got
        else { c with server := .header got })
  | .payload header got => do
      let (got, up) ← receiveSome header.length.toNat got c.up count
      let c := { c with up := up }
      pure (if got.length = header.length.toNat then c.call header got
        else { c with server := .payload header got })
  | _ => none

/-- The handler returns or raises, and its reply is framed. -/
def answer (platform : IpcPlatform) (c : IpcConnection) (result : Except Thrown IpcResponse) :
    Option IpcConnection :=
  match c.server with
  | .handling header _ =>
      let response := respond result
      let server :=
        match platform.frame (header.operation ||| 0x8000) header.request response.status
            response.payload with
        | .ok output => Serving.replying output
        | .error _ => .closed
      some { c with server := server, answers := c.answers ++ [result] }
  | _ => none

def serverSend (c : IpcConnection) (count : Nat) : Option IpcConnection :=
  match c.server with
  | .replying left => do
      let (part, left) ← sendSome left count
      pure
        { c with
          server := if left = [] then .replied else .replying left
          down := c.down ++ part
          delivered := c.delivered ++ part }
  | _ => none

def accept (c : IpcConnection) : Option IpcConnection :=
  match c.server with
  | .waiting => some { c with server := .header [] }
  | _ => none

/-- The connection is refused, has ended, timed out, broken down or is stopped, but not
while its handler runs.  What the client has not received may be lost. -/
def close (c : IpcConnection) (discards : Bool) : Option IpcConnection :=
  match c.server with
  | .closed => none
  | .handling _ _ => none
  | _ => some { c with server := .closed, down := if discards then [] else c.down }

end IpcConnection

inductive IpcAction where
  | clientSend (count : Nat)
  | clientReceive (count : Nat)
  | clientFail
  | foreignSend (bytes : Bytes)
  | accept
  | serverReceive (count : Nat)
  | answer (result : Except Thrown IpcResponse)
  | serverSend (count : Nat)
  | close (discards : Bool)
  deriving DecidableEq

def IpcConnection.perform (platform : IpcPlatform) (c : IpcConnection) :
    IpcAction → Option IpcConnection
  | .clientSend count => c.clientSend count
  | .clientReceive count => c.clientReceive count
  | .clientFail => c.clientFail
  | .foreignSend bytes => c.foreignSend bytes
  | .accept => c.accept
  | .serverReceive count => c.serverReceive count
  | .answer result => c.answer platform result
  | .serverSend count => c.serverSend count
  | .close discards => c.close discards

/-! ### The server -/

def maxWorkers : Nat := 16

/-- The connections of one endpoint. -/
structure PipeServer where
  connections : List IpcConnection := []
  deriving DecidableEq

def Serving.busy : Serving → Bool
  | .waiting => false
  | .closed => false
  | _ => true

def PipeServer.busy (server : PipeServer) : Nat :=
  server.connections.countP fun c => c.server.busy

inductive IpcEvent where
  | connect (client : Option IpcRequest)
  | act (index : Nat) (action : IpcAction)
  deriving DecidableEq

/-- One step of an endpoint.  A connection is taken only while a worker is free. -/
def PipeServer.perform (platform : IpcPlatform) (server : PipeServer) :
    IpcEvent → Option PipeServer
  | .connect none => some { connections := server.connections ++ [{ client := .foreign }] }
  | .connect (some request) =>
      some { connections := server.connections ++ [IpcConnection.open platform request] }
  | .act index action => do
      let c ← server.connections[index]?
      guard (action ≠ .accept ∨ server.busy < maxWorkers)
      let after ← c.perform platform action
      pure { connections := server.connections.set index after }

abbrev PipeServer.Reached (platform : IpcPlatform) : PipeServer → Prop :=
  Transition.Reachable (fun server => server = {}) fun before after =>
    ∃ event, before.perform platform event = some after

/-! ### Frames and their front -/

theorem IpcPlatform.frame_eq_ok {platform : IpcPlatform} {operation : UInt16}
    {request : UInt64} {status : UInt32} {payload output : Bytes} :
    platform.frame operation request status payload = .ok output ↔
      payload.length ≤ ipcMaxPayload.toNat ∧
        output = ipcLayout operation request (ipcBody operation status payload) := by
  have linux : platform.frame operation request status payload =
      linuxFrame operation request status payload := by
    cases platform with
    | windows =>
        exact windowsFrame_eq_linuxFrame operation request status payload
    | linux =>
        rfl
  rw [linux]
  by_cases small : payload.length ≤ ipcMaxPayload.toNat
  · rw [linuxFrame_eq small]
    constructor
    · intro same
      cases same
      exact ⟨small, rfl⟩
    · rintro ⟨_, same⟩
      rw [same]
  · constructor
    · intro ran
      unfold linuxFrame at ran
      rw [rejectIf_of (Nat.not_le.mp small)] at ran
      cases ran
    · rintro ⟨within, _⟩
      exact absurd within small

theorem parseIpcHeader_bytes {written parsed : IpcWireHeader} {response : Bool}
    (accepted : parseIpcHeader (ipcHeaderBytes written) response = .ok parsed) :
    parsed = written := by
  have here := (parseIpcHeader_eq_ok.mp accepted).1
  have there := ipcHeaderAt_bytes written
  obtain ⟨operation, request, length⟩ := parsed
  obtain ⟨writtenOperation, writtenRequest, writtenLength⟩ := written
  have sameOperation := here.operation.trans there.operation.symm
  have sameRequest := here.request.trans there.request.symm
  have sameLength := here.length.trans there.length.symm
  simp only at sameOperation sameRequest sameLength
  rw [sameOperation, sameRequest, sameLength]

theorem frame_front {platform : IpcPlatform} {operation : UInt16} {request : UInt64}
    {status : UInt32} {payload output head more : Bytes} {response : Bool}
    {parsed : IpcWireHeader}
    (framed : platform.frame operation request status payload = .ok output)
    (front : head ++ more <+: output) (accepted : parseIpcHeader head response = .ok parsed) :
    parsed.operation = operation ∧ parsed.request = request ∧
      parsed.length.toNat = (ipcBody operation status payload).length ∧
        more <+: ipcBody operation status payload := by
  obtain ⟨small, same⟩ := IpcPlatform.frame_eq_ok.mp framed
  have limit : ipcMaxPayload.toNat = 1048576 := by
    decide
  have bodyLength : (ipcBody operation status payload).length ≤ 1048580 := by
    unfold ipcBody
    rw [List.length_append]
    split
    · rw [ByteBuffer.littleEndian_length]
      omega
    · rw [List.length_nil]
      omega
  have lengthEq : (UInt32.ofNat (ipcBody operation status payload).length).toNat =
      (ipcBody operation status payload).length := by
    rw [UInt32.toNat_ofNat']
    exact Nat.mod_eq_of_lt (by omega)
  have layout : output = ipcHeaderBytes
      { operation := operation
        request := request
        length := UInt32.ofNat (ipcBody operation status payload).length } ++
          ipcBody operation status payload := by
    rw [same]
    simp only [ipcLayout, ipcHeaderBytes, lengthEq]
  have headSize : head.length = ipcHeaderSize := (parseIpcHeader_eq_ok.mp accepted).1.size
  obtain ⟨behind, whole⟩ := front
  rw [layout, List.append_assoc] at whole
  have parts := List.append_inj whole (by rw [headSize]; exact (ipcHeaderAt_bytes _).size.symm)
  rw [parts.1] at accepted
  have fields := parseIpcHeader_bytes accepted
  rw [fields]
  exact ⟨rfl, rfl, lengthEq, behind, parts.2⟩

/-! ### What a request and a reply are read as -/

structure RequestRead (sent : Bytes) (header : IpcWireHeader) (payload : Bytes) : Prop where
  framed : ∃ head behind, sent = head ++ payload ++ behind ∧
    parseIpcHeader head false = .ok header
  whole : payload.length = header.length.toNat

theorem RequestRead.more {sent payload : Bytes} {header : IpcWireHeader}
    (read : RequestRead sent header payload) (later : Bytes) :
    RequestRead (sent ++ later) header payload := by
  obtain ⟨head, behind, all, parsed⟩ := read.framed
  refine { framed := ⟨head, behind ++ later, ?_, parsed⟩, whole := read.whole }
  rw [all, List.append_assoc]

theorem RequestRead.identified {platform : IpcPlatform} {request : IpcRequest}
    {output sent payload : Bytes} {header : IpcWireHeader}
    (framed : platform.frame request.operation request.request 0 request.payload = .ok output)
    (front : sent <+: output) (read : RequestRead sent header payload) :
    header.operation = request.operation ∧ header.request = request.request ∧
      payload = request.payload := by
  obtain ⟨head, behind, all, parsed⟩ := read.framed
  have within : head ++ payload <+: output := by
    refine List.IsPrefix.trans ⟨behind, ?_⟩ front
    rw [all]
  obtain ⟨operation, number, length, inside⟩ := frame_front framed within parsed
  have legal := (parseIpcHeader_eq_ok.mp parsed).2
  have noStatus : ¬ request.operation &&& 0x8000 ≠ 0 := by
    rw [← operation]
    intro bit
    cases legal.direction.mp bit
  have body : ipcBody request.operation 0 request.payload = request.payload := by
    unfold ipcBody
    rw [if_neg noStatus, List.nil_append]
  rw [body] at length inside
  exact ⟨operation, number, inside.eq_of_length (read.whole.trans length)⟩

theorem reply_identified {platform : IpcPlatform} {operation : UInt16} {request : UInt64}
    {response : IpcResponse} {reply head body : Bytes} {parsed : IpcWireHeader}
    (framed : platform.frame operation request response.status response.payload = .ok reply)
    (front : head ++ body <+: reply) (accepted : parseIpcHeader head true = .ok parsed)
    (whole : parsed.length.toNat = body.length) : responseBody body = response := by
  obtain ⟨sameOperation, _, length, inside⟩ := frame_front framed front accepted
  have legal := (parseIpcHeader_eq_ok.mp accepted).2
  have status : operation &&& 0x8000 ≠ 0 := by
    rw [← sameOperation]
    exact legal.direction.mpr rfl
  have bodyEq := inside.eq_of_length (whole.symm.trans length)
  unfold ipcBody at bodyEq
  rw [if_pos status] at bodyEq
  have four : (ByteBuffer.littleEndian 4 response.status.toNat).length = 4 :=
    ByteBuffer.littleEndian_length 4 _
  have read : get32 body 0 = response.status := by
    rw [bodyEq]
    exact @get32_written [] response.payload 0 response.status rfl
  have rest : body.drop 4 = response.payload := by
    rw [bodyEq, List.drop_left' four]
  unfold responseBody
  rw [read, rest]

end NativeDNS
