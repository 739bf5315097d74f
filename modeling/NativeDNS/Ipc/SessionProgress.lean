/-
Requests that nobody interrupts.

A line takes only some bytes before its reader has come, so that both parties can be kept
waiting.  As long as no transfer times out or breaks and the handler's answers fit into a
frame, one of them can still go on until the request has returned and its worker is free,
and everything either does brings that nearer.
-/
import NativeDNS.Ipc.SessionSafety

namespace NativeDNS

open CheckedResult

/-- A request the client of the core can make. -/
structure IpcRequest.Legal (request : IpcRequest) : Prop where
  low : 1 ≤ request.operation
  high : request.operation ≤ 11
  named : request.request ≠ 0
  small : request.payload.length ≤ 1048576

instance (request : IpcRequest) : Decidable request.Legal :=
  decidable_of_iff (1 ≤ request.operation ∧ request.operation ≤ 11 ∧ request.request ≠ 0 ∧
      request.payload.length ≤ 1048576)
    ⟨fun all => ⟨all.1, all.2.1, all.2.2.1, all.2.2.2⟩,
      fun legal => ⟨legal.low, legal.high, legal.named, legal.small⟩⟩

def IpcClient.done : IpcClient → Bool
  | .pipe _ (.returned _) => true
  | _ => false

/-- What happens on a connection both of whose parties go on.  A line holds at most `room`
bytes, so that a send may have to wait for the other side; what the handler answers fits
into a frame; a worker ends the connection behind its reply, and throws nothing away
before the client has returned. -/
def IpcConnection.Calm (room : Nat) (c : IpcConnection) : IpcAction → Prop
  | .clientSend count => c.up.length + count ≤ room
  | .serverSend count => c.down.length + count ≤ room
  | .answer result => (respond result).payload.length ≤ 1048576
  | .close discards => c.server = .replied ∧ (discards = true → c.client.done = true)
  | .clientFail => False
  | .foreignSend _ => False
  | .clientReceive _ => True
  | .serverReceive _ => True
  | .accept => True

instance (room : Nat) (c : IpcConnection) : DecidablePred (c.Calm room)
  | .clientSend count => inferInstanceAs (Decidable (c.up.length + count ≤ room))
  | .serverSend count => inferInstanceAs (Decidable (c.down.length + count ≤ room))
  | .answer result =>
      inferInstanceAs (Decidable ((respond result).payload.length ≤ 1048576))
  | .close discards =>
      inferInstanceAs
        (Decidable (c.server = .replied ∧ (discards = true → c.client.done = true)))
  | .clientFail => .isFalse id
  | .foreignSend _ => .isFalse id
  | .clientReceive _ => .isTrue trivial
  | .serverReceive _ => .isTrue trivial
  | .accept => .isTrue trivial

/-- A worker that waits for something that can come. -/
def Serving.Live : Serving → Prop
  | .header got => got.length < ipcHeaderSize
  | .payload wire got => got.length < wire.length.toNat
  | .replying left => left ≠ []
  | _ => True

def Requesting.Live : Requesting → Prop
  | .sending left => left ≠ []
  | .header got => got.length < ipcHeaderSize
  | .body length got => got.length < length
  | .returned _ => True
  | .failed => False

/-- The reply has been sent as a whole, and what the client has not received of it is
still under way. -/
structure IpcConnection.Replied (platform : IpcPlatform) (c : IpcConnection) : Prop where
  flight : c.taken ++ c.down = c.delivered
  framed : ∃ header payload result, RequestRead c.sent header payload ∧
    platform.frame (header.operation ||| 0x8000) header.request (respond result).status
      (respond result).payload = .ok c.delivered

structure IpcConnection.Lively (platform : IpcPlatform) (request : IpcRequest)
    (c : IpcConnection) : Prop where
  sound : c.Sound platform
  server : c.server.Live
  client : ∃ phase, c.client = .pipe request phase ∧ phase.Live
  ended : c.server = .closed → c.Replied platform

section

variable {platform : IpcPlatform} {request : IpcRequest}

/-! ### Headers are accepted -/

theorem header_accepted {operation : UInt16} {response : Bool} {number : UInt64}
    {status : UInt32} {payload output head : Bytes} (low : 1 ≤ operation)
    (high : operation ≤ 11) (named : number ≠ 0)
    (framed : platform.frame (wireOperation operation response) number status payload =
      .ok output)
    (front : head <+: output) (size : head.length = ipcHeaderSize) :
    ∃ parsed, parseIpcHeader head response = .ok parsed ∧
      parsed.operation = wireOperation operation response ∧ parsed.request = number := by
  obtain ⟨small, _⟩ := IpcPlatform.frame_eq_ok.mp framed
  have limit : ipcMaxPayload.toNat = 1048576 := by
    decide
  rw [limit] at small
  obtain ⟨bytes, readBack⟩ :=
    @frame_readBack operation response number status payload low high named small
  have same : bytes = output := by
    have windows := (windowsFrame_eq_linuxFrame (wireOperation operation response) number
      status payload).symm
    cases platform with
    | windows =>
        exact Except.ok.inj (readBack.windows.symm.trans framed)
    | linux =>
        exact Except.ok.inj (readBack.linux.symm.trans framed)
  obtain ⟨parsed, accepted, operationEq, requestEq, _⟩ := readBack.header
  have headEq : bytes.take ipcHeaderSize = head := by
    rw [same, ← size]
    exact (List.prefix_iff_eq_take.mp front).symm
  rw [headEq] at accepted
  exact ⟨parsed, accepted, operationEq, requestEq⟩

theorem request_accepted (legal : request.Legal) {output head : Bytes}
    (framed : platform.frame request.operation request.request 0 request.payload = .ok output)
    (front : head <+: output) (size : head.length = ipcHeaderSize) :
    ∃ parsed, parseIpcHeader head false = .ok parsed := by
  obtain ⟨parsed, accepted, _⟩ :=
    @header_accepted platform request.operation false request.request 0 request.payload output
      head legal.low legal.high legal.named framed front size
  exact ⟨parsed, accepted⟩

theorem IpcConnection.Lively.flight {c : IpcConnection} (lively : c.Lively platform request) :
    c.taken ++ c.down = c.delivered := by
  by_cases closed : c.server = .closed
  · exact (lively.ended closed).flight
  · exact lively.sound.open_ closed

theorem IpcConnection.Lively.replying {c : IpcConnection} (lively : c.Lively platform request)
    (sentAll : platform.frame request.operation request.request 0 request.payload =
      .ok c.sent) (some : c.delivered ≠ []) :
    ∃ result reply, c.delivered <+: reply ∧
      platform.frame (request.operation ||| 0x8000) request.request (respond result).status
        (respond result).payload = .ok reply := by
  have handled := lively.sound.server.handled
  generalize c.calls = calls at handled
  generalize c.answers = answers at handled
  generalize c.delivered = delivered at handled some
  cases handled with
  | none =>
      exact absurd rfl some
  | called read =>
      exact absurd rfl some
  | @answered header payload result _ read framed =>
      obtain ⟨reply, front, framed⟩ := framed.resolve_left some
      obtain ⟨operation, number, _⟩ :=
        RequestRead.identified sentAll List.prefix_rfl read
      rw [operation, number] at framed
      exact ⟨result, reply, front, framed⟩

/-! ### Calm steps -/

theorem IpcConnection.Lively.clientSend {c after : IpcConnection} {count : Nat}
    (lively : c.Lively platform request) (moved : c.clientSend count = some after) :
    after.Lively platform request := by
  refine { sound := lively.sound.clientSend moved, server := ?_, client := ?_, ended := ?_ }
  · unfold IpcConnection.clientSend at moved
    split at moved
    · obtain ⟨_, _, same⟩ := Option.bind_eq_some_iff.mp moved
      cases same
      exact lively.server
    · cases moved
  · obtain ⟨phase, here, live⟩ := lively.client
    unfold IpcConnection.clientSend at moved
    split at moved
    · rename_i asked left sending
      obtain ⟨⟨part, rest⟩, _, same⟩ := Option.bind_eq_some_iff.mp moved
      cases same
      cases here.symm.trans sending
      refine ⟨_, rfl, ?_⟩
      split
      · exact Nat.zero_lt_succ 19
      · rename_i remains
        exact remains
    · cases moved
  · unfold IpcConnection.clientSend at moved
    split at moved
    · obtain ⟨⟨part, _⟩, _, same⟩ := Option.bind_eq_some_iff.mp moved
      cases same
      intro closed
      obtain ⟨flight, header, payload, result, read, framed⟩ := lively.ended closed
      exact ⟨flight, header, payload, result, read.more part, framed⟩
    · cases moved

theorem IpcConnection.Lively.clientReceive {c after : IpcConnection} {count : Nat}
    (lively : c.Lively platform request) (legal : request.Legal)
    (moved : c.clientReceive count = some after) : after.Lively platform request := by
  have sound := lively.sound.clientReceive moved
  obtain ⟨phase, here, live⟩ := lively.client
  have requests := lively.sound.client
  have flight := lively.flight
  unfold IpcConnection.clientReceive at moved
  split at moved
  · rename_i asked got reading
    obtain ⟨⟨all, down⟩, received, same⟩ := Option.bind_eq_some_iff.mp moved
    cases same
    cases here.symm.trans reading
    obtain ⟨allEq, downEq, short, together⟩ := receiveSome_eq_some received
    refine
      { sound := sound
        server := lively.server
        client := ⟨_, rfl, ?_⟩
        ended := fun closed =>
          { flight := by rw [downEq, List.append_assoc, List.take_append_drop, flight]
            framed := (lively.ended closed).framed } }
    by_cases full : all.length = ipcHeaderSize
    · rw [if_pos full]
      rw [reading] at requests
      cases requests with
      | header taken framed =>
          have still := flight
          rw [taken, ← together] at still
          have some : c.delivered ≠ [] := by
            intro nothing
            have length := congrArg List.length (still.trans nothing)
            rw [List.length_append, full, List.length_nil] at length
            unfold ipcHeaderSize at length
            omega
          obtain ⟨result, reply, front, replyFramed⟩ := lively.replying framed some
          have headFront : all <+: reply := List.IsPrefix.trans ⟨down, still⟩ front
          obtain ⟨parsed, accepted, operation, number⟩ :=
            @header_accepted platform request.operation true request.request _ _ reply all
              legal.low legal.high legal.named replyFramed headFront full
          have matching : ¬ (parsed.operation ≠ request.operation ||| 0x8000 ∨
              parsed.request ≠ request.request) := by
            rintro (other | other)
            · exact other operation
            · exact other number
          unfold responseHeader
          rw [accepted]
          simp only
          rw [if_neg matching]
          have length := (parseIpcHeader_eq_ok.mp accepted).2.length
          rw [if_pos rfl] at length
          have four : (4 : UInt32).toNat ≤ parsed.length.toNat :=
            UInt32.le_iff_toNat_le.mp length.1
          exact Nat.lt_of_lt_of_le (by decide) four
    · rw [if_neg full]
      exact Nat.lt_of_le_of_ne short full
  · rename_i asked length got reading
    obtain ⟨⟨all, down⟩, received, same⟩ := Option.bind_eq_some_iff.mp moved
    cases same
    cases here.symm.trans reading
    obtain ⟨_, downEq, short, _⟩ := receiveSome_eq_some received
    refine
      { sound := sound
        server := lively.server
        client := ⟨_, rfl, ?_⟩
        ended := fun closed =>
          { flight := by rw [downEq, List.append_assoc, List.take_append_drop, flight]
            framed := (lively.ended closed).framed } }
    split
    · trivial
    · rename_i less
      exact Nat.lt_of_le_of_ne short less
  · cases moved

theorem IpcConnection.Lively.accept {c after : IpcConnection}
    (lively : c.Lively platform request) (moved : c.accept = some after) :
    after.Lively platform request := by
  have sound := lively.sound.accept moved
  unfold IpcConnection.accept at moved
  split at moved
  · cases moved
    exact
      { sound := sound
        server := Nat.zero_lt_succ 19
        client := lively.client
        ended := fun closed => nomatch closed }
  · cases moved

/-- A header that has been read in full is the one the client has sent. -/
theorem IpcConnection.Lively.header_accepted {c : IpcConnection} {got all up : Bytes}
    (lively : c.Lively platform request) (legal : request.Legal)
    (reading : c.server = .header got) (together : all ++ up = got ++ c.up)
    (full : all.length = ipcHeaderSize) :
    ∃ header, parseIpcHeader all false = .ok header := by
  obtain ⟨phase, here, live⟩ := lively.client
  have requests := lively.sound.client
  rw [here] at requests
  have serves := lively.sound.server
  rw [reading] at serves
  generalize c.calls = calls at serves
  generalize c.answers = answers at serves
  generalize c.delivered = delivered at serves
  cases serves with
  | header sentAll =>
      have nowAll : c.sent = all ++ up := by
        rw [sentAll, together]
      have framed : ∃ left, platform.frame request.operation request.request 0
          request.payload = .ok (c.sent ++ left) := by
        refine requests.front.resolve_left ?_
        intro nothing
        have length := congrArg List.length (nowAll.symm.trans nothing)
        rw [List.length_append, full, List.length_nil] at length
        unfold ipcHeaderSize at length
        omega
      obtain ⟨left, framed⟩ := framed
      have front : all <+: c.sent ++ left := by
        rw [nowAll, List.append_assoc]
        exact List.prefix_append _ _
      exact request_accepted legal framed front full

theorem IpcConnection.Lively.serverReceive {c after : IpcConnection} {count : Nat}
    (lively : c.Lively platform request) (legal : request.Legal)
    (moved : c.serverReceive count = some after) : after.Lively platform request := by
  have sound := lively.sound.serverReceive moved
  unfold IpcConnection.serverReceive at moved
  split at moved
  · rename_i got reading
    obtain ⟨⟨all, up⟩, received, same⟩ := Option.bind_eq_some_iff.mp moved
    cases same
    obtain ⟨_, _, short, together⟩ := receiveSome_eq_some received
    by_cases full : all.length = ipcHeaderSize
    · rw [if_pos full] at sound ⊢
      obtain ⟨header, parsed⟩ := lively.header_accepted legal reading together full
      unfold IpcConnection.headerRead at sound ⊢
      rw [parsed] at sound ⊢
      simp only at sound ⊢
      split
      · rename_i empty
        rw [if_pos empty] at sound
        exact
          { sound := sound
            server := trivial
            client := lively.client
            ended := fun closed => nomatch closed }
      · rename_i some
        rw [if_neg some] at sound
        have positive : 0 < header.length.toNat :=
          Nat.pos_of_ne_zero fun zero => some (UInt32.toNat_inj.mp zero)
        exact
          { sound := sound
            server := positive
            client := lively.client
            ended := fun closed => nomatch closed }
    · rw [if_neg full] at sound ⊢
      exact
        { sound := sound
          server := Nat.lt_of_le_of_ne short full
          client := lively.client
          ended := fun closed => nomatch closed }
  · rename_i header got reading
    obtain ⟨⟨all, up⟩, received, same⟩ := Option.bind_eq_some_iff.mp moved
    cases same
    obtain ⟨_, _, short, _⟩ := receiveSome_eq_some received
    by_cases full : all.length = header.length.toNat
    · rw [if_pos full] at sound ⊢
      exact
        { sound := sound
          server := trivial
          client := lively.client
          ended := fun closed => nomatch closed }
    · rw [if_neg full] at sound ⊢
      exact
        { sound := sound
          server := Nat.lt_of_le_of_ne short full
          client := lively.client
          ended := fun closed => nomatch closed }
  · cases moved

theorem IpcConnection.Lively.answer {c after : IpcConnection}
    {result : Except Thrown IpcResponse} (lively : c.Lively platform request)
    (fits : (respond result).payload.length ≤ 1048576)
    (moved : c.answer platform result = some after) : after.Lively platform request := by
  have sound := lively.sound.answer moved
  unfold IpcConnection.answer at moved
  split at moved
  · rename_i header payload handling
    cases moved
    have limit : ipcMaxPayload.toNat = 1048576 := by
      decide
    have framed := (@IpcPlatform.frame_eq_ok platform (header.operation ||| 0x8000)
      header.request (respond result).status (respond result).payload _).mpr
        ⟨by rw [limit]; exact fits, rfl⟩
    simp only [framed] at sound ⊢
    refine
      { sound := sound
        server := ?_
        client := lively.client
        ended := fun closed => nomatch closed }
    intro nothing
    have length := congrArg List.length nothing
    unfold ipcLayout at length
    rw [List.length_append, List.length_append, ipcPrologue_length, List.length_nil] at length
    omega
  · cases moved

theorem IpcConnection.Lively.serverSend {c after : IpcConnection} {count : Nat}
    (lively : c.Lively platform request) (moved : c.serverSend count = some after) :
    after.Lively platform request := by
  have sound := lively.sound.serverSend moved
  unfold IpcConnection.serverSend at moved
  split at moved
  · rename_i left replying
    obtain ⟨⟨part, rest⟩, _, same⟩ := Option.bind_eq_some_iff.mp moved
    cases same
    refine { sound := sound, server := ?_, client := lively.client, ended := ?_ }
    · simp only
      split
      · trivial
      · rename_i remains
        exact remains
    · simp only
      split
      · intro closed
        cases closed
      · intro closed
        cases closed
  · cases moved

/-! ### The end of a connection -/

theorem frame_length {operation : UInt16} {number : UInt64} {status : UInt32}
    {payload output : Bytes}
    (framed : platform.frame operation number status payload = .ok output) :
    output.length = ipcHeaderSize + (ipcBody operation status payload).length := by
  rw [(IpcPlatform.frame_eq_ok.mp framed).2]
  unfold ipcLayout
  rw [List.length_append, List.length_append, ipcPrologue_length,
    ByteBuffer.littleEndian_length]
  rfl

theorem frame_whole {operation : UInt16} {number : UInt64} {status : UInt32}
    {payload head body behind : Bytes} {response : Bool} {parsed : IpcWireHeader}
    (framed : platform.frame operation number status payload = .ok (head ++ body ++ behind))
    (accepted : parseIpcHeader head response = .ok parsed)
    (whole : body.length = parsed.length.toNat) : behind = [] := by
  obtain ⟨_, _, length, _⟩ := frame_front framed (List.prefix_append _ behind) accepted
  have all := frame_length framed
  have size := (parseIpcHeader_eq_ok.mp accepted).1.size
  rw [List.length_append, List.length_append, size, whole, length] at all
  exact List.length_eq_zero_iff.mp (by omega)

theorem IpcConnection.Lively.replied {c : IpcConnection} (lively : c.Lively platform request)
    (finished : c.server = .replied ∨ c.server = .closed) : c.Replied platform := by
  rcases finished with done | closed
  · refine { flight := lively.flight, framed := ?_ }
    have serves := lively.sound.server
    rw [done] at serves
    generalize c.calls = calls at serves
    generalize c.answers = answers at serves
    generalize c.delivered = delivered at serves ⊢
    cases serves with
    | replied read framed =>
        exact ⟨_, _, _, read, framed⟩
  · exact lively.ended closed

theorem IpcConnection.Lively.returned {c : IpcConnection} (lively : c.Lively platform request)
    {response : IpcResponse} (returned : c.client = .pipe request (.returned response)) :
    c.server = .replied ∨ c.server = .closed := by
  have flight := lively.flight
  have serves := lively.sound.server
  have live := lively.server
  have requests := lively.sound.client
  rw [returned] at requests
  cases requests with
  | @returned _ head body parsed all accepted whole framed =>
      rw [all] at flight
      have size := (parseIpcHeader_eq_ok.mp accepted).1.size
      have some : c.delivered ≠ [] := by
        intro nothing
        have length := congrArg List.length (flight.trans nothing)
        rw [List.length_append, List.length_append, size, List.length_nil] at length
        unfold ipcHeaderSize at length
        omega
      generalize c.calls = calls at serves
      generalize c.answers = answers at serves
      generalize c.delivered = delivered at serves some flight
      cases state : c.server with
      | waiting =>
          rw [state] at serves
          cases serves
          exact absurd rfl some
      | header got =>
          rw [state] at serves
          cases serves
          exact absurd rfl some
      | payload wire got =>
          rw [state] at serves
          cases serves
          exact absurd rfl some
      | handling wire payload =>
          rw [state] at serves
          cases serves
          exact absurd rfl some
      | replying left =>
          rw [state] at serves live
          cases serves with
          | replying _ replies =>
              rw [← flight, List.append_assoc] at replies
              have nothing := frame_whole replies accepted whole.symm
              exact absurd (List.append_eq_nil_iff.mp nothing).2 live
      | replied =>
          exact .inl rfl
      | closed =>
          exact .inr rfl

theorem IpcConnection.Lively.emptied {c : IpcConnection} (lively : c.Lively platform request)
    (done : c.client.done = true) : c.down = [] := by
  obtain ⟨phase, here, _⟩ := lively.client
  rw [here] at done
  cases phase with
  | returned response =>
      obtain ⟨flight, _, _, _, _, replies⟩ := lively.replied (lively.returned here)
      have requests := lively.sound.client
      rw [here] at requests
      cases requests with
      | returned all accepted whole framed =>
          rw [← flight, all] at replies
          exact frame_whole replies accepted whole.symm
  | sending left =>
      cases done
  | header got =>
      cases done
  | body length got =>
      cases done
  | failed =>
      cases done

theorem IpcConnection.Lively.close {c after : IpcConnection} {room : Nat} {discards : Bool}
    (lively : c.Lively platform request) (calm : c.Calm room (.close discards))
    (moved : c.close discards = some after) : after.Lively platform request := by
  obtain ⟨replied, settled⟩ := calm
  have kept : (if discards then [] else c.down) = c.down := by
    cases discards with
    | false =>
        rfl
    | true =>
        exact (lively.emptied (settled rfl)).symm
  have sound := lively.sound.close moved
  have whole := lively.replied (.inl replied)
  unfold IpcConnection.close at moved
  simp only [replied] at moved
  cases moved
  exact
    { sound := sound
      server := trivial
      client := lively.client
      ended := fun _ =>
        { flight := by rw [kept]; exact whole.flight
          framed := whole.framed } }

theorem IpcConnection.Lively.perform {c after : IpcConnection} {room : Nat}
    {action : IpcAction} (lively : c.Lively platform request) (legal : request.Legal)
    (calm : c.Calm room action) (moved : c.perform platform action = some after) :
    after.Lively platform request := by
  cases action with
  | clientSend count =>
      exact lively.clientSend moved
  | clientReceive count =>
      exact lively.clientReceive legal moved
  | clientFail =>
      exact calm.elim
  | foreignSend bytes =>
      exact calm.elim
  | accept =>
      exact lively.accept moved
  | serverReceive count =>
      exact lively.serverReceive legal moved
  | answer result =>
      exact lively.answer calm moved
  | serverSend count =>
      exact lively.serverSend moved
  | close discards =>
      exact lively.close calm moved

/-! ### Something is left to be done -/

theorem receiveSome_one {size : Nat} {got line : Bytes} (wanted : got.length < size)
    (come : line ≠ []) :
    receiveSome size got line 1 = some (got ++ line.take 1, line.drop 1) := by
  have positive := List.length_pos_iff.mpr come
  unfold receiveSome
  rw [if_pos ⟨Nat.one_pos, positive, wanted⟩]

theorem sendSome_one {left : Bytes} (remains : left ≠ []) :
    sendSome left 1 = some (left.take 1, left.drop 1) := by
  unfold sendSome
  rw [if_pos ⟨Nat.one_pos, List.length_pos_iff.mpr remains⟩]

/-- One of the two parties can go on by itself. -/
def IpcConnection.Moves (platform : IpcPlatform) (room : Nat) (c : IpcConnection) : Prop :=
  ∃ action, action ≠ .accept ∧ c.Calm room action ∧ (c.perform platform action).isSome = true

theorem IpcConnection.receives {c : IpcConnection} {room : Nat} {got : Bytes}
    (reading : c.server = .header got) (short : got.length < ipcHeaderSize)
    (come : c.up ≠ []) : c.Moves platform room := by
  refine ⟨.serverReceive 1, nofun, trivial, ?_⟩
  simp only [IpcConnection.perform, IpcConnection.serverReceive, reading]
  rw [receiveSome_one short come]
  rfl

theorem IpcConnection.receives_payload {c : IpcConnection} {room : Nat} {got : Bytes}
    {wire : IpcWireHeader} (reading : c.server = .payload wire got)
    (short : got.length < wire.length.toNat) (come : c.up ≠ []) : c.Moves platform room := by
  refine ⟨.serverReceive 1, nofun, trivial, ?_⟩
  simp only [IpcConnection.perform, IpcConnection.serverReceive, reading]
  rw [receiveSome_one short come]
  rfl

theorem IpcConnection.answers_now {c : IpcConnection} {room : Nat} {wire : IpcWireHeader}
    {payload : Bytes} (handling : c.server = .handling wire payload) :
    c.Moves platform room := by
  refine ⟨.answer (.ok { payload := [] }), nofun, Nat.zero_le _, ?_⟩
  simp only [IpcConnection.perform, IpcConnection.answer, handling]
  rfl

/-- A client that is still sending has not been read to the end: with its line full, the
worker has bytes to read. -/
theorem IpcConnection.Lively.sending_moves {c : IpcConnection} {room : Nat} {left : Bytes}
    (lively : c.Lively platform request) (positive : 0 < room) (remains : left ≠ [])
    (here : c.client = .pipe request (.sending left)) :
    c.Moves platform room ∨ c.server = .waiting := by
  by_cases full : c.up.length + 1 ≤ room
  · refine .inl ⟨.clientSend 1, nofun, full, ?_⟩
    simp only [IpcConnection.perform, IpcConnection.clientSend, here]
    rw [sendSome_one remains]
    rfl
  have come : c.up ≠ [] := by
    intro nothing
    rw [nothing, List.length_nil] at full
    omega
  have requests := lively.sound.client
  rw [here] at requests
  cases requests with
  | sending empty framed =>
      have unread : ∀ {header : IpcWireHeader} {payload : Bytes},
          ¬ RequestRead c.sent header payload := by
        intro header payload read
        obtain ⟨head, behind, all, parsed⟩ := read.framed
        rw [all, List.append_assoc] at framed
        have nothing := frame_whole framed parsed read.whole
        exact remains (List.append_eq_nil_iff.mp nothing).2
      have serves := lively.sound.server
      have live := lively.server
      generalize c.calls = calls at serves
      generalize c.answers = answers at serves
      generalize c.delivered = delivered at serves
      cases state : c.server with
      | waiting =>
          exact .inr rfl
      | header got =>
          rw [state] at live
          exact .inl (IpcConnection.receives state live come)
      | payload wire got =>
          rw [state] at live
          exact .inl (IpcConnection.receives_payload state live come)
      | handling wire payload =>
          exact .inl (IpcConnection.answers_now state)
      | replying left =>
          rw [state] at serves
          cases serves with
          | replying read _ =>
              exact absurd read unread
      | replied =>
          obtain ⟨_, _, _, _, read, _⟩ := lively.replied (.inl state)
          exact absurd read unread
      | closed =>
          obtain ⟨_, _, _, _, read, _⟩ := lively.replied (.inr state)
          exact absurd read unread

/-- With the whole request sent, the worker goes on until it has replied or the client has
something to read. -/
theorem IpcConnection.Lively.server_moves {c : IpcConnection} {room : Nat}
    (lively : c.Lively platform request) (positive : 0 < room)
    (framed : platform.frame request.operation request.request 0 request.payload =
      .ok c.sent) :
    c.Moves platform room ∨ c.server = .waiting ∨ c.down ≠ [] ∨ c.Replied platform := by
  have serves := lively.sound.server
  have live := lively.server
  have whole := frame_length framed
  generalize callsEq : c.calls = calls at serves
  generalize answersEq : c.answers = answers at serves
  generalize deliveredEq : c.delivered = delivered at serves
  cases state : c.server with
  | waiting =>
      exact .inr (.inl rfl)
  | header got =>
      rw [state] at serves live
      cases serves with
      | header all =>
          have short : got.length < ipcHeaderSize := live
          have come : c.up ≠ [] := by
            intro nothing
            rw [all, nothing, List.append_nil] at whole
            omega
          exact .inl (IpcConnection.receives state short come)
  | payload wire got =>
      rw [state] at serves live
      cases serves with
      | @payload _ head _ _ all parsed =>
          have short : got.length < wire.length.toNat := live
          have come : c.up ≠ [] := by
            intro nothing
            rw [nothing, List.append_nil] at all
            have front : head ++ got <+: c.sent := ⟨[], by rw [all, List.append_nil]⟩
            obtain ⟨_, _, length, _⟩ := frame_front framed front parsed
            have size := (parseIpcHeader_eq_ok.mp parsed).1.size
            rw [all, List.length_append, size] at whole
            omega
          exact .inl (IpcConnection.receives_payload state short come)
  | handling wire payload =>
      exact .inl (IpcConnection.answers_now state)
  | replying left =>
      rw [state] at live
      have remains : left ≠ [] := live
      by_cases empty : c.down = []
      · refine .inl ⟨.serverSend 1, nofun, ?_, ?_⟩
        · change c.down.length + 1 ≤ room
          rw [empty, List.length_nil]
          exact positive
        · simp only [IpcConnection.perform, IpcConnection.serverSend, state]
          rw [sendSome_one remains]
          rfl
      · exact .inr (.inr (.inl empty))
  | replied =>
      exact .inr (.inr (.inr (lively.replied (.inl state))))
  | closed =>
      exact .inr (.inr (.inr (lively.replied (.inr state))))

/-- A connection that nobody interrupts moves on, waits for a worker, or has ended with its
request returned. -/
theorem IpcConnection.Lively.moves {c : IpcConnection} {room : Nat}
    (lively : c.Lively platform request) (positive : 0 < room) :
    c.Moves platform room ∨ c.server = .waiting ∨
      (c.server = .closed ∧ ∃ response, c.client = .pipe request (.returned response)) := by
  obtain ⟨phase, here, live⟩ := lively.client
  have requests := lively.sound.client
  rw [here] at requests
  cases phase with
  | sending left =>
      rcases lively.sending_moves positive live here with moves | waits
      · exact .inl moves
      · exact .inr (.inl waits)
  | header got =>
      have short : got.length < ipcHeaderSize := live
      have reads : c.down ≠ [] → c.Moves platform room := by
        intro come
        refine ⟨.clientReceive 1, nofun, trivial, ?_⟩
        simp only [IpcConnection.perform, IpcConnection.clientReceive, here]
        rw [receiveSome_one short come]
        rfl
      cases requests with
      | header all framed =>
          rcases lively.server_moves positive framed with moves | waits | come | replied
          · exact .inl moves
          · exact .inr (.inl waits)
          · exact .inl (reads come)
          · refine .inl (reads fun nothing => ?_)
            obtain ⟨flight, _, _, _, _, replyFramed⟩ := replied
            rw [← flight, all, nothing, List.append_nil] at replyFramed
            have length := frame_length replyFramed
            omega
  | body size got =>
      have short : got.length < size := live
      have reads : c.down ≠ [] → c.Moves platform room := by
        intro come
        refine ⟨.clientReceive 1, nofun, trivial, ?_⟩
        simp only [IpcConnection.perform, IpcConnection.clientReceive, here]
        rw [receiveSome_one short come]
        rfl
      cases requests with
      | @body _ head _ parsed all accepted framed =>
          rcases lively.server_moves positive framed with moves | waits | come | replied
          · exact .inl moves
          · exact .inr (.inl waits)
          · exact .inl (reads come)
          · refine .inl (reads fun nothing => ?_)
            obtain ⟨flight, _, _, _, _, replyFramed⟩ := replied
            rw [← flight, all, nothing, List.append_nil] at replyFramed
            have length := frame_length replyFramed
            obtain ⟨_, _, whole, _⟩ := frame_front replyFramed List.prefix_rfl accepted
            have headSize := (parseIpcHeader_eq_ok.mp accepted).1.size
            rw [List.length_append, headSize] at length
            omega
  | returned response =>
      rcases lively.returned here with replied | closed
      · refine .inl ⟨.close false, nofun, ⟨replied, nofun⟩, ?_⟩
        simp only [IpcConnection.perform, IpcConnection.close, replied]
        rfl
      · exact .inr (.inr ⟨closed, response, here⟩)
  | failed =>
      exact live.elim

/-! ### Every step brings the end nearer -/

def maxReply : Nat := 1048600

def IpcClient.effort : IpcClient → Nat
  | .pipe _ (.sending left) => 2 * left.length
  | _ => 0

def Serving.effort : Serving → Nat
  | .waiting => 2 * maxReply + 4
  | .header _ => 2 * maxReply + 3
  | .payload _ _ => 2 * maxReply + 3
  | .handling _ _ => 2 * maxReply + 2
  | .replying left => 2 * left.length + 1
  | .replied => 1
  | .closed => 0

def IpcConnection.effort (c : IpcConnection) : Nat :=
  c.client.effort + c.up.length + c.server.effort + c.down.length

theorem receiveSome_length {size count : Nat} {got line after rest : Bytes}
    (received : receiveSome size got line count = some (after, rest)) :
    rest.length < line.length := by
  unfold receiveSome at received
  split at received
  · cases received
    rw [List.length_drop]
    omega
  · cases received

theorem sendSome_length {count : Nat} {left part rest : Bytes}
    (sent : sendSome left count = some (part, rest)) :
    part.length + rest.length = left.length ∧ 0 < part.length := by
  obtain ⟨whole, some⟩ := sendSome_eq_some sent
  rw [← whole, List.length_append]
  exact ⟨rfl, List.length_pos_iff.mpr some⟩

theorem responseHeader_effort (asked : IpcRequest) (bytes : Bytes) :
    (IpcClient.pipe asked (responseHeader asked bytes)).effort = 0 := by
  unfold responseHeader
  split
  · split
    · rfl
    · rfl
  · rfl

theorem IpcConnection.headerRead_effort (c : IpcConnection) (bytes : Bytes) :
    (c.headerRead bytes).effort ≤
      c.client.effort + c.up.length + (2 * maxReply + 3) + c.down.length := by
  unfold IpcConnection.headerRead
  split
  · split
    · simp only [IpcConnection.effort, IpcConnection.call, Serving.effort]
      omega
    · exact Nat.le_refl _
  · simp only [IpcConnection.effort, Serving.effort]
    omega

theorem IpcConnection.clientSend_effort {c after : IpcConnection} {count : Nat}
    (moved : c.clientSend count = some after) : after.effort < c.effort := by
  unfold IpcConnection.clientSend at moved
  split at moved
  · rename_i asked left sending
    obtain ⟨⟨part, rest⟩, sent, same⟩ := Option.bind_eq_some_iff.mp moved
    cases same
    obtain ⟨whole, some⟩ := sendSome_length sent
    have client : (IpcClient.pipe asked
        (if rest = [] then .header [] else .sending rest)).effort = 2 * rest.length := by
      split
      · rename_i none
        rw [none]
        rfl
      · rfl
    unfold IpcConnection.effort
    simp only [client, sending, List.length_append]
    simp only [IpcClient.effort]
    omega
  · cases moved

theorem IpcConnection.clientReceive_effort {c after : IpcConnection} {count : Nat}
    (moved : c.clientReceive count = some after) : after.effort < c.effort := by
  unfold IpcConnection.clientReceive at moved
  split at moved
  · rename_i asked got reading
    obtain ⟨⟨all, down⟩, received, same⟩ := Option.bind_eq_some_iff.mp moved
    cases same
    have shorter := receiveSome_length received
    have client : (IpcClient.pipe asked
        (if all.length = ipcHeaderSize then responseHeader asked all else .header all)).effort =
          0 := by
      split
      · exact responseHeader_effort asked all
      · rfl
    unfold IpcConnection.effort
    simp only [client, reading]
    simp only [IpcClient.effort]
    omega
  · rename_i asked size got reading
    obtain ⟨⟨all, down⟩, received, same⟩ := Option.bind_eq_some_iff.mp moved
    cases same
    have shorter := receiveSome_length received
    have client : (IpcClient.pipe asked
        (if all.length = size then .returned (responseBody all) else .body size all)).effort =
          0 := by
      split
      · rfl
      · rfl
    unfold IpcConnection.effort
    simp only [client, reading]
    simp only [IpcClient.effort]
    omega
  · cases moved

theorem IpcConnection.serverReceive_effort {c after : IpcConnection} {count : Nat}
    (moved : c.serverReceive count = some after) : after.effort < c.effort := by
  unfold IpcConnection.serverReceive at moved
  split at moved
  · rename_i got reading
    obtain ⟨⟨all, up⟩, received, same⟩ := Option.bind_eq_some_iff.mp moved
    cases same
    have shorter := receiveSome_length received
    have before : c.effort = c.client.effort + c.up.length + (2 * maxReply + 3) +
        c.down.length := by
      unfold IpcConnection.effort
      rw [reading]
      rfl
    rw [before]
    split
    · have bound := IpcConnection.headerRead_effort { c with up := up } all
      simp only at bound
      omega
    · simp only [IpcConnection.effort, Serving.effort]
      omega
  · rename_i header got reading
    obtain ⟨⟨all, up⟩, received, same⟩ := Option.bind_eq_some_iff.mp moved
    cases same
    have shorter := receiveSome_length received
    have before : c.effort = c.client.effort + c.up.length + (2 * maxReply + 3) +
        c.down.length := by
      unfold IpcConnection.effort
      rw [reading]
      rfl
    rw [before]
    split
    · simp only [IpcConnection.effort, IpcConnection.call, Serving.effort]
      omega
    · simp only [IpcConnection.effort, Serving.effort]
      omega
  · cases moved

theorem IpcConnection.answer_effort {c after : IpcConnection}
    {result : Except Thrown IpcResponse} (fits : (respond result).payload.length ≤ 1048576)
    (moved : c.answer platform result = some after) : after.effort < c.effort := by
  unfold IpcConnection.answer at moved
  split at moved
  · rename_i header payload handling
    cases moved
    unfold IpcConnection.effort
    rw [handling]
    cases framed : platform.frame (header.operation ||| 0x8000) header.request
        (respond result).status (respond result).payload with
    | ok output =>
        have whole := frame_length framed
        have body : (ipcBody (header.operation ||| 0x8000) (respond result).status
            (respond result).payload).length ≤ 1048580 := by
          unfold ipcBody
          rw [List.length_append]
          split
          · rw [ByteBuffer.littleEndian_length]
            omega
          · rw [List.length_nil]
            omega
        have limit : maxReply = 1048600 := rfl
        unfold ipcHeaderSize at whole
        simp only [Serving.effort]
        omega
    | error error =>
        simp only [Serving.effort]
        omega
  · cases moved

theorem IpcConnection.serverSend_effort {c after : IpcConnection} {count : Nat}
    (moved : c.serverSend count = some after) : after.effort < c.effort := by
  unfold IpcConnection.serverSend at moved
  split at moved
  · rename_i left replying
    obtain ⟨⟨part, rest⟩, sent, same⟩ := Option.bind_eq_some_iff.mp moved
    cases same
    obtain ⟨whole, some⟩ := sendSome_length sent
    have server : (if rest = [] then Serving.replied else .replying rest).effort =
        2 * rest.length + 1 := by
      split
      · rename_i none
        rw [none]
        rfl
      · rfl
    unfold IpcConnection.effort
    simp only [server, replying, List.length_append]
    simp only [Serving.effort]
    omega
  · cases moved

theorem IpcConnection.close_effort {c after : IpcConnection} {room : Nat} {discards : Bool}
    (calm : c.Calm room (.close discards)) (moved : c.close discards = some after) :
    after.effort < c.effort := by
  obtain ⟨replied, _⟩ := calm
  unfold IpcConnection.close at moved
  simp only [replied] at moved
  cases moved
  unfold IpcConnection.effort
  rw [replied]
  have fewer : (if discards then [] else c.down).length ≤ c.down.length := by
    cases discards with
    | false =>
        exact Nat.le_refl _
    | true =>
        exact Nat.zero_le _
  simp only [Serving.effort]
  omega

theorem IpcConnection.perform_effort {c after : IpcConnection} {room : Nat}
    {action : IpcAction} (calm : c.Calm room action)
    (moved : c.perform platform action = some after) : after.effort < c.effort := by
  cases action with
  | clientSend count =>
      exact IpcConnection.clientSend_effort moved
  | clientReceive count =>
      exact IpcConnection.clientReceive_effort moved
  | clientFail =>
      exact calm.elim
  | foreignSend bytes =>
      exact calm.elim
  | accept =>
      change c.accept = some after at moved
      unfold IpcConnection.accept at moved
      split at moved
      · rename_i waiting
        cases moved
        unfold IpcConnection.effort
        rw [waiting]
        simp only [Serving.effort]
        omega
      · cases moved
  | serverReceive count =>
      exact IpcConnection.serverReceive_effort moved
  | answer result =>
      exact IpcConnection.answer_effort calm moved
  | serverSend count =>
      exact IpcConnection.serverSend_effort moved
  | close discards =>
      exact IpcConnection.close_effort calm moved

/-- The most steps that one request takes, with the one that connects. -/
def requestSteps : Nat := 4194397

theorem IpcRequest.Legal.opened (platform : IpcPlatform) (legal : request.Legal) :
    (IpcConnection.open platform request).Lively platform request ∧
      (IpcConnection.open platform request).effort + 1 ≤ requestSteps := by
  have limit : ipcMaxPayload.toNat = 1048576 := by
    decide
  have framed := (@IpcPlatform.frame_eq_ok platform request.operation request.request 0
    request.payload _).mpr ⟨by rw [limit]; exact legal.small, rfl⟩
  have length := frame_length framed
  have noStatus : ¬ request.operation &&& 0x8000 ≠ 0 := by
    intro bit
    cases (wireOperation_direction legal.high false).mp bit
  have body : ipcBody request.operation 0 request.payload = request.payload := by
    unfold ipcBody
    rw [if_neg noStatus, List.nil_append]
  have sound := IpcConnection.open_sound platform request
  unfold IpcConnection.open at sound ⊢
  rw [framed] at sound ⊢
  rw [body] at length
  constructor
  · refine
      { sound := sound
        server := trivial
        client := ⟨_, rfl, ?_⟩
        ended := fun closed => nomatch closed }
    intro nothing
    rw [body] at nothing
    rw [nothing, List.length_nil] at length
    unfold ipcHeaderSize at length
    omega
  · have small := legal.small
    have long : maxReply = 1048600 := rfl
    have steps : requestSteps = 4194397 := rfl
    unfold IpcConnection.effort
    simp only [IpcClient.effort, Serving.effort, List.length_nil, body]
    rw [length]
    unfold ipcHeaderSize
    omega

end

end NativeDNS
