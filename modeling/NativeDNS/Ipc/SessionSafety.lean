/-
What comes of a request, whatever clients, workers and failures make of an endpoint.

A connection is sound when its worker has read the front of what was sent, has called its
handler once at most and is writing the frame of the answer, and when its client has sent
the front of its frame and has read the front of the reply.  Every action of either side
keeps that.
-/
import NativeDNS.Ipc.Session

namespace NativeDNS

open CheckedResult

/-! ### What a worker has done -/

section

variable (platform : IpcPlatform)

/-- What a handler has been called with and has returned on one connection, and what of
its reply has been sent. -/
inductive Handled (sent : Bytes) :
    List HandlerCall → List (Except Thrown IpcResponse) → Bytes → Prop
  | none : Handled sent [] [] []
  | called {header : IpcWireHeader} {payload : Bytes}
      (read : RequestRead sent header payload) :
      Handled sent [{ operation := header.operation, payload := payload }] [] []
  | answered {header : IpcWireHeader} {payload : Bytes} {result : Except Thrown IpcResponse}
      {delivered : Bytes} (read : RequestRead sent header payload)
      (framed : delivered = [] ∨ ∃ reply, delivered <+: reply ∧
        platform.frame (header.operation ||| 0x8000) header.request (respond result).status
          (respond result).payload = .ok reply) :
      Handled sent [{ operation := header.operation, payload := payload }] [result] delivered

inductive ServesSession (sent : Bytes) : Serving → Bytes → List HandlerCall →
    List (Except Thrown IpcResponse) → Bytes → Prop
  | waiting {up : Bytes} (all : sent = up) : ServesSession sent .waiting up [] [] []
  | header {got up : Bytes} (all : sent = got ++ up) : ServesSession sent (.header got) up [] [] []
  | payload {header : IpcWireHeader} {head got up : Bytes} (all : sent = head ++ got ++ up)
      (parsed : parseIpcHeader head false = .ok header) :
      ServesSession sent (.payload header got) up [] [] []
  | handling {header : IpcWireHeader} {payload up : Bytes}
      (read : RequestRead sent header payload) :
      ServesSession sent (.handling header payload) up
        [{ operation := header.operation, payload := payload }] [] []
  | replying {header : IpcWireHeader} {payload up left delivered : Bytes}
      {result : Except Thrown IpcResponse} (read : RequestRead sent header payload)
      (framed : platform.frame (header.operation ||| 0x8000) header.request
        (respond result).status (respond result).payload = .ok (delivered ++ left)) :
      ServesSession sent (.replying left) up
        [{ operation := header.operation, payload := payload }] [result] delivered
  | replied {header : IpcWireHeader} {payload up delivered : Bytes}
      {result : Except Thrown IpcResponse} (read : RequestRead sent header payload)
      (framed : platform.frame (header.operation ||| 0x8000) header.request
        (respond result).status (respond result).payload = .ok delivered) :
      ServesSession sent .replied up
        [{ operation := header.operation, payload := payload }] [result] delivered
  | closed {up delivered : Bytes} {calls : List HandlerCall}
      {answers : List (Except Thrown IpcResponse)}
      (handled : Handled platform sent calls answers delivered) :
      ServesSession sent .closed up calls answers delivered

/-- The client of the core between two calls of the system. -/
inductive Requests (sent taken : Bytes) : IpcClient → Prop
  | foreign : Requests sent taken .foreign
  | sending {request : IpcRequest} {left : Bytes} (empty : taken = [])
      (framed : platform.frame request.operation request.request 0 request.payload =
        .ok (sent ++ left)) :
      Requests sent taken (.pipe request (.sending left))
  | header {request : IpcRequest} {got : Bytes} (all : taken = got)
      (framed : platform.frame request.operation request.request 0 request.payload =
        .ok sent) :
      Requests sent taken (.pipe request (.header got))
  | body {request : IpcRequest} {head got : Bytes} {parsed : IpcWireHeader}
      (all : taken = head ++ got) (accepted : parseIpcHeader head true = .ok parsed)
      (framed : platform.frame request.operation request.request 0 request.payload =
        .ok sent) :
      Requests sent taken (.pipe request (.body parsed.length.toNat got))
  | returned {request : IpcRequest} {head body : Bytes} {parsed : IpcWireHeader}
      (all : taken = head ++ body) (accepted : parseIpcHeader head true = .ok parsed)
      (whole : parsed.length.toNat = body.length)
      (framed : platform.frame request.operation request.request 0 request.payload =
        .ok sent) :
      Requests sent taken (.pipe request (.returned (responseBody body)))
  | failed {request : IpcRequest}
      (framed : sent = [] ∨ ∃ left,
        platform.frame request.operation request.request 0 request.payload =
          .ok (sent ++ left)) :
      Requests sent taken (.pipe request .failed)

structure IpcConnection.Sound (c : IpcConnection) : Prop where
  server : ServesSession platform c.sent c.server c.up c.calls c.answers c.delivered
  client : Requests platform c.sent c.taken c.client
  flight : c.taken ++ c.down <+: c.delivered
  open_ : c.server ≠ .closed → c.taken ++ c.down = c.delivered

end

section Steps

variable {platform : IpcPlatform}

theorem Handled.more {sent : Bytes} {calls : List HandlerCall}
    {answers : List (Except Thrown IpcResponse)} {delivered : Bytes}
    (handled : Handled platform sent calls answers delivered) (later : Bytes) :
    Handled platform (sent ++ later) calls answers delivered := by
  cases handled with
  | none =>
      exact .none
  | called read =>
      exact .called (read.more later)
  | answered read framed =>
      exact .answered (read.more later) framed

theorem ServesSession.more {sent up : Bytes} {server : Serving} {calls : List HandlerCall}
    {answers : List (Except Thrown IpcResponse)} {delivered : Bytes}
    (serves : ServesSession platform sent server up calls answers delivered) (later : Bytes) :
    ServesSession platform (sent ++ later) server (up ++ later) calls answers delivered := by
  cases serves with
  | waiting all =>
      exact .waiting (by rw [all])
  | header all =>
      exact .header (by rw [all, List.append_assoc])
  | payload all parsed =>
      exact .payload (by rw [all, List.append_assoc]) parsed
  | handling read =>
      exact .handling (read.more later)
  | replying read framed =>
      exact .replying (read.more later) framed
  | replied read framed =>
      exact .replied (read.more later) framed
  | closed handled =>
      exact .closed (handled.more later)

theorem ServesSession.handled {sent up : Bytes} {server : Serving} {calls : List HandlerCall}
    {answers : List (Except Thrown IpcResponse)} {delivered : Bytes}
    (serves : ServesSession platform sent server up calls answers delivered) :
    Handled platform sent calls answers delivered := by
  cases serves with
  | waiting all =>
      exact .none
  | header all =>
      exact .none
  | payload all parsed =>
      exact .none
  | handling read =>
      exact .called read
  | replying read framed =>
      exact .answered read (.inr ⟨_, ⟨_, rfl⟩, framed⟩)
  | replied read framed =>
      exact .answered read (.inr ⟨_, List.prefix_rfl, framed⟩)
  | closed handled =>
      exact handled

theorem Requests.front {sent taken : Bytes} {request : IpcRequest} {phase : Requesting}
    (requests : Requests platform sent taken (.pipe request phase)) :
    sent = [] ∨ ∃ left,
      platform.frame request.operation request.request 0 request.payload =
        .ok (sent ++ left) := by
  cases requests with
  | sending empty framed =>
      exact .inr ⟨_, framed⟩
  | header all framed =>
      exact .inr ⟨[], by rw [List.append_nil, framed]⟩
  | body all accepted framed =>
      exact .inr ⟨[], by rw [List.append_nil, framed]⟩
  | returned all accepted whole framed =>
      exact .inr ⟨[], by rw [List.append_nil, framed]⟩
  | failed framed =>
      exact framed

theorem receiveSome_eq_some {size count : Nat} {got line after rest : Bytes}
    (received : receiveSome size got line count = some (after, rest)) :
    after = got ++ line.take count ∧ rest = line.drop count ∧ after.length ≤ size ∧
      after ++ rest = got ++ line := by
  unfold receiveSome at received
  split at received
  · rename_i fits
    cases received
    refine ⟨rfl, rfl, ?_, ?_⟩
    · rw [List.length_append, List.length_take]
      omega
    · rw [List.append_assoc, List.take_append_drop]
  · cases received

theorem sendSome_eq_some {count : Nat} {left part rest : Bytes}
    (sent : sendSome left count = some (part, rest)) :
    part ++ rest = left ∧ part ≠ [] := by
  unfold sendSome at sent
  split at sent
  · rename_i fits
    cases sent
    refine ⟨List.take_append_drop count left, ?_⟩
    intro none
    have length := congrArg List.length none
    rw [List.length_take, List.length_nil] at length
    omega
  · cases sent

/-! ### The client -/

theorem IpcConnection.Sound.clientSend {c after : IpcConnection} {count : Nat}
    (sound : c.Sound platform) (moved : c.clientSend count = some after) :
    after.Sound platform := by
  unfold IpcConnection.clientSend at moved
  split at moved
  · rename_i request left sending
    obtain ⟨⟨part, rest⟩, sent, same⟩ := Option.bind_eq_some_iff.mp moved
    cases same
    obtain ⟨whole, _⟩ := sendSome_eq_some sent
    have requests := sound.client
    rw [sending] at requests
    cases requests with
    | sending empty framed =>
        rw [← whole, ← List.append_assoc] at framed
        refine
          { server := sound.server.more part
            client := ?_
            flight := sound.flight
            open_ := sound.open_ }
        by_cases done : rest = []
        · simp only [if_pos done]
          rw [done, List.append_nil] at framed
          exact .header empty framed
        · simp only [if_neg done]
          exact .sending empty framed
  · cases moved

theorem IpcConnection.Sound.clientReceive {c after : IpcConnection} {count : Nat}
    (sound : c.Sound platform) (moved : c.clientReceive count = some after) :
    after.Sound platform := by
  have flight : ∀ down, down = c.down.drop count →
      c.taken ++ c.down.take count ++ down = c.taken ++ c.down := by
    intro down same
    rw [same, List.append_assoc, List.take_append_drop]
  unfold IpcConnection.clientReceive at moved
  split at moved
  · rename_i request got reading
    obtain ⟨⟨all, down⟩, received, same⟩ := Option.bind_eq_some_iff.mp moved
    cases same
    obtain ⟨allEq, downEq, short, _⟩ := receiveSome_eq_some received
    have requests := sound.client
    rw [reading] at requests
    cases requests with
    | header taken framed =>
        refine
          { server := sound.server
            client := ?_
            flight := by rw [flight down downEq]; exact sound.flight
            open_ := fun isOpen => by rw [flight down downEq]; exact sound.open_ isOpen }
        have takenAll : c.taken ++ c.down.take count = all := by
          rw [taken, allEq]
        simp only [takenAll]
        by_cases full : all.length = ipcHeaderSize
        · rw [if_pos full]
          unfold responseHeader
          cases accepted : parseIpcHeader all true with
          | error error =>
              exact .failed (.inr ⟨[], by rw [List.append_nil, framed]⟩)
          | ok parsed =>
              simp only
              split
              · exact .failed (.inr ⟨[], by rw [List.append_nil, framed]⟩)
              · exact .body (List.append_nil all).symm accepted framed
        · rw [if_neg full]
          exact .header rfl framed
  · rename_i request length got reading
    obtain ⟨⟨all, down⟩, received, same⟩ := Option.bind_eq_some_iff.mp moved
    cases same
    obtain ⟨allEq, downEq, short, _⟩ := receiveSome_eq_some received
    have requests := sound.client
    rw [reading] at requests
    cases requests with
    | @body _ head _ parsed taken accepted framed =>
        refine
          { server := sound.server
            client := ?_
            flight := by rw [flight down downEq]; exact sound.flight
            open_ := fun isOpen => by rw [flight down downEq]; exact sound.open_ isOpen }
        have takenAll : c.taken ++ c.down.take count = head ++ all := by
          rw [taken, allEq, List.append_assoc]
        simp only [takenAll]
        by_cases full : all.length = parsed.length.toNat
        · rw [if_pos full]
          exact .returned rfl accepted full.symm framed
        · rw [if_neg full]
          exact .body rfl accepted framed
  · cases moved

theorem IpcConnection.Sound.clientFail {c after : IpcConnection} (sound : c.Sound platform)
    (moved : c.clientFail = some after) : after.Sound platform := by
  have gaveUp : ∀ request phase, c.client = .pipe request phase →
      ({ c with client := .pipe request .failed } : IpcConnection).Sound platform := by
    intro request phase here
    have requests := sound.client
    rw [here] at requests
    exact
      { server := sound.server
        client := .failed requests.front
        flight := sound.flight
        open_ := sound.open_ }
  unfold IpcConnection.clientFail at moved
  split at moved
  · cases moved
  · cases moved
  · rename_i request phase _ _ here
    cases moved
    exact gaveUp request phase here
  · cases moved

theorem IpcConnection.Sound.foreignSend {c after : IpcConnection} {bytes : Bytes}
    (sound : c.Sound platform) (moved : c.foreignSend bytes = some after) :
    after.Sound platform := by
  unfold IpcConnection.foreignSend at moved
  split at moved
  · rename_i other
    cases moved
    exact
      { server := sound.server.more bytes
        client := by
          simp only [other]
          exact .foreign
        flight := sound.flight
        open_ := sound.open_ }
  · cases moved

/-! ### The worker -/

theorem IpcConnection.Sound.accept {c after : IpcConnection} (sound : c.Sound platform)
    (moved : c.accept = some after) : after.Sound platform := by
  obtain ⟨client, server, up, down, sent, delivered, taken, calls, answers⟩ := c
  unfold IpcConnection.accept at moved
  split at moved
  · rename_i same
    simp only at same
    subst same
    cases moved
    have serves := sound.server
    cases serves with
    | waiting all =>
        exact
          { server := .header (by rw [List.nil_append]; exact all)
            client := sound.client
            flight := sound.flight
            open_ := fun _ => sound.open_ (by intro other; cases other) }
  · cases moved

theorem IpcConnection.Sound.serverReceive {c after : IpcConnection} {count : Nat}
    (sound : c.Sound platform) (moved : c.serverReceive count = some after) :
    after.Sound platform := by
  obtain ⟨client, server, line, down, sent, delivered, taken, calls, answers⟩ := c
  unfold IpcConnection.serverReceive at moved
  split at moved
  · rename_i got reading
    simp only at reading
    subst reading
    obtain ⟨⟨all, up⟩, received, same⟩ := Option.bind_eq_some_iff.mp moved
    cases same
    obtain ⟨_, _, _, together⟩ := receiveSome_eq_some received
    have still := sound.open_ (by intro other; cases other)
    have serves := sound.server
    cases serves with
    | header sentAll =>
        have nowAll : sent = all ++ up := by
          rw [together]
          exact sentAll
        by_cases full : all.length = ipcHeaderSize
        · rw [if_pos full]
          unfold IpcConnection.headerRead
          cases parsed : parseIpcHeader all false with
          | error error =>
              exact
                { server := .closed .none
                  client := sound.client
                  flight := sound.flight
                  open_ := fun other => absurd rfl other }
          | ok header =>
              simp only
              split
              · rename_i empty
                have read : RequestRead sent header [] :=
                  { framed := ⟨all, up, by rw [List.append_nil]; exact nowAll, parsed⟩
                    whole := by rw [empty]; rfl }
                exact
                  { server := .handling read
                    client := sound.client
                    flight := sound.flight
                    open_ := fun _ => still }
              · exact
                  { server := .payload (by rw [List.append_nil]; exact nowAll) parsed
                    client := sound.client
                    flight := sound.flight
                    open_ := fun _ => still }
        · rw [if_neg full]
          exact
            { server := .header nowAll
              client := sound.client
              flight := sound.flight
              open_ := fun _ => still }
  · rename_i header got reading
    simp only at reading
    subst reading
    obtain ⟨⟨all, up⟩, received, same⟩ := Option.bind_eq_some_iff.mp moved
    cases same
    obtain ⟨_, _, _, together⟩ := receiveSome_eq_some received
    have still := sound.open_ (by intro other; cases other)
    have serves := sound.server
    cases serves with
    | @payload _ head _ _ sentAll parsed =>
        have nowAll : sent = head ++ all ++ up := by
          rw [List.append_assoc, together, ← List.append_assoc]
          exact sentAll
        by_cases full : all.length = header.length.toNat
        · rw [if_pos full]
          have read : RequestRead sent header all :=
            { framed := ⟨head, up, nowAll, parsed⟩
              whole := full }
          exact
            { server := .handling read
              client := sound.client
              flight := sound.flight
              open_ := fun _ => still }
        · rw [if_neg full]
          exact
            { server := .payload nowAll parsed
              client := sound.client
              flight := sound.flight
              open_ := fun _ => still }
  · cases moved

theorem IpcConnection.Sound.answer {c after : IpcConnection}
    {result : Except Thrown IpcResponse} (sound : c.Sound platform)
    (moved : c.answer platform result = some after) : after.Sound platform := by
  obtain ⟨client, server, up, down, sent, delivered, taken, calls, answers⟩ := c
  unfold IpcConnection.answer at moved
  split at moved
  · rename_i header payload handling
    simp only at handling
    subst handling
    cases moved
    have serves := sound.server
    cases serves with
    | handling read =>
        have still := sound.open_ (by intro other; cases other)
        cases framed : platform.frame (header.operation ||| 0x8000) header.request
            (respond result).status (respond result).payload with
        | ok output =>
            exact
              { server := .replying read framed
                client := sound.client
                flight := sound.flight
                open_ := fun _ => still }
        | error error =>
            exact
              { server := .closed (.answered read (.inl rfl))
                client := sound.client
                flight := sound.flight
                open_ := fun other => absurd rfl other }
  · cases moved

theorem IpcConnection.Sound.serverSend {c after : IpcConnection} {count : Nat}
    (sound : c.Sound platform) (moved : c.serverSend count = some after) :
    after.Sound platform := by
  obtain ⟨client, server, up, down, sent, delivered, taken, calls, answers⟩ := c
  unfold IpcConnection.serverSend at moved
  split at moved
  · rename_i left replying
    simp only at replying
    subst replying
    obtain ⟨⟨part, rest⟩, sentPart, same⟩ := Option.bind_eq_some_iff.mp moved
    cases same
    obtain ⟨whole, _⟩ := sendSome_eq_some sentPart
    have together : taken ++ (down ++ part) = delivered ++ part := by
      have still := sound.open_ (by intro other; cases other)
      simp only at still
      rw [← List.append_assoc, still]
    have serves := sound.server
    cases serves with
    | replying read framed =>
        rw [← whole, ← List.append_assoc] at framed
        refine
          { server := ?_
            client := sound.client
            flight := ⟨[], by rw [List.append_nil]; exact together⟩
            open_ := fun _ => together }
        by_cases done : rest = []
        · simp only [if_pos done]
          rw [done, List.append_nil] at framed
          exact .replied read framed
        · simp only [if_neg done]
          exact .replying read framed
  · cases moved

theorem IpcConnection.Sound.close {c after : IpcConnection} {discards : Bool}
    (sound : c.Sound platform) (moved : c.close discards = some after) :
    after.Sound platform := by
  unfold IpcConnection.close at moved
  split at moved
  · cases moved
  · cases moved
  · cases moved
    refine
      { server := .closed sound.server.handled
        client := sound.client
        flight := ?_
        open_ := fun other => absurd rfl other }
    cases discards with
    | false =>
        exact sound.flight
    | true =>
        exact List.IsPrefix.trans ⟨c.down, by simp only [if_true, List.append_nil]⟩ sound.flight

theorem IpcConnection.Sound.perform {c after : IpcConnection} {action : IpcAction}
    (sound : c.Sound platform) (moved : c.perform platform action = some after) :
    after.Sound platform := by
  cases action with
  | clientSend count =>
      exact sound.clientSend moved
  | clientReceive count =>
      exact sound.clientReceive moved
  | clientFail =>
      exact sound.clientFail moved
  | foreignSend bytes =>
      exact sound.foreignSend moved
  | accept =>
      exact sound.accept moved
  | serverReceive count =>
      exact sound.serverReceive moved
  | answer result =>
      exact sound.answer moved
  | serverSend count =>
      exact sound.serverSend moved
  | close discards =>
      exact sound.close moved

end Steps

/-! ### What a sound connection says -/

section Results

variable {platform : IpcPlatform} {c : IpcConnection}

/-- The handler is called at most once, with a whole request from the front of what the
client has sent. -/
theorem IpcConnection.Sound.calls_once (sound : c.Sound platform) :
    c.calls.length ≤ 1 ∧ ∀ call ∈ c.calls, ∃ head behind header,
      c.sent = head ++ call.payload ++ behind ∧ parseIpcHeader head false = .ok header ∧
        header.operation = call.operation ∧ header.length.toNat = call.payload.length := by
  have handled := sound.server.handled
  generalize c.calls = calls at handled ⊢
  generalize c.answers = answers at handled
  generalize c.delivered = delivered at handled
  cases handled with
  | none =>
      exact ⟨Nat.zero_le 1, fun _ member => absurd member List.not_mem_nil⟩
  | called read =>
      refine ⟨Nat.le_refl 1, List.forall_mem_singleton.mpr ?_⟩
      obtain ⟨head, behind, all, parsed⟩ := read.framed
      exact ⟨head, behind, _, all, parsed, rfl, read.whole.symm⟩
  | answered read framed =>
      refine ⟨Nat.le_refl 1, List.forall_mem_singleton.mpr ?_⟩
      obtain ⟨head, behind, all, parsed⟩ := read.framed
      exact ⟨head, behind, _, all, parsed, rfl, read.whole.symm⟩

theorem IpcConnection.Sound.calls_requested (sound : c.Sound platform)
    {request : IpcRequest} {phase : Requesting} (here : c.client = .pipe request phase) :
    ∀ call ∈ c.calls, call.operation = request.operation ∧ call.payload = request.payload := by
  have requests := sound.client
  rw [here] at requests
  have identified : ∀ header payload, RequestRead c.sent header payload →
      header.operation = request.operation ∧ payload = request.payload := by
    intro header payload read
    rcases requests.front with nothing | ⟨left, framed⟩
    · obtain ⟨head, behind, all, parsed⟩ := read.framed
      have size := (parseIpcHeader_eq_ok.mp parsed).1.size
      have lengths := congrArg List.length (nothing.symm.trans all)
      rw [List.length_nil, List.length_append, List.length_append, size] at lengths
      unfold ipcHeaderSize at lengths
      omega
    · obtain ⟨operation, _, same⟩ :=
        RequestRead.identified framed (List.prefix_append _ _) read
      exact ⟨operation, same⟩
  have handled := sound.server.handled
  generalize c.calls = calls at handled ⊢
  generalize c.answers = answers at handled
  generalize c.delivered = delivered at handled
  cases handled with
  | none =>
      exact fun _ member => absurd member List.not_mem_nil
  | called read =>
      exact List.forall_mem_singleton.mpr (identified _ _ read)
  | answered read framed =>
      exact List.forall_mem_singleton.mpr (identified _ _ read)

theorem IpcConnection.Sound.returned (sound : c.Sound platform) {request : IpcRequest}
    {response : IpcResponse} (here : c.client = .pipe request (.returned response)) :
    c.calls = [{ operation := request.operation, payload := request.payload }] ∧
      ∃ result, c.answers = [result] ∧ response = respond result ∧
        response.payload.length ≤ 1048576 := by
  have requested := sound.calls_requested here
  have requests := sound.client
  rw [here] at requests
  cases requests with
  | @returned _ head body parsed all accepted whole framed =>
      have handled := sound.server.handled
      have inside : head ++ body <+: c.delivered := by
        rw [← all]
        exact (List.prefix_append _ _).trans sound.flight
      have nonempty : c.delivered ≠ [] := by
        intro nothing
        have size := (parseIpcHeader_eq_ok.mp accepted).1.size
        have length := inside.length_le
        rw [nothing, List.length_append, size, List.length_nil] at length
        unfold ipcHeaderSize at length
        omega
      generalize c.delivered = delivered at handled inside nonempty
      generalize c.answers = answers at handled ⊢
      generalize c.calls = calls at handled requested ⊢
      cases handled with
      | none =>
          exact absurd rfl nonempty
      | called read =>
          exact absurd rfl nonempty
      | @answered header payload result _ read framed =>
          obtain ⟨reply, front, framed⟩ := framed.resolve_left nonempty
          have response := reply_identified framed (inside.trans front) accepted whole
          obtain ⟨operation, same⟩ := requested _ List.mem_cons_self
          simp only at operation same
          refine ⟨by rw [operation, same], result, rfl, response, ?_⟩
          rw [response]
          exact (IpcPlatform.frame_eq_ok.mp framed).1

end Results

/-! ### The endpoint -/

theorem IpcConnection.open_sound (platform : IpcPlatform) (request : IpcRequest) :
    (IpcConnection.open platform request).Sound platform := by
  unfold IpcConnection.open
  cases framed : platform.frame request.operation request.request 0 request.payload with
  | ok output =>
      exact
        { server := .waiting rfl
          client := .sending rfl framed
          flight := List.prefix_rfl
          open_ := fun _ => rfl }
  | error error =>
      exact
        { server := .waiting rfl
          client := .failed (.inl rfl)
          flight := List.prefix_rfl
          open_ := fun _ => rfl }

theorem IpcConnection.perform_busy {platform : IpcPlatform} {c after : IpcConnection}
    {action : IpcAction} (moved : c.perform platform action = some after)
    (other : action ≠ .accept) (works : after.server.busy = true) : c.server.busy = true := by
  cases action with
  | clientSend count =>
      change c.clientSend count = some after at moved
      unfold IpcConnection.clientSend at moved
      split at moved
      · obtain ⟨_, _, same⟩ := Option.bind_eq_some_iff.mp moved
        cases same
        exact works
      · cases moved
  | clientReceive count =>
      change c.clientReceive count = some after at moved
      unfold IpcConnection.clientReceive at moved
      split at moved
      · obtain ⟨_, _, same⟩ := Option.bind_eq_some_iff.mp moved
        cases same
        exact works
      · obtain ⟨_, _, same⟩ := Option.bind_eq_some_iff.mp moved
        cases same
        exact works
      · cases moved
  | clientFail =>
      change c.clientFail = some after at moved
      unfold IpcConnection.clientFail at moved
      split at moved
      · cases moved
      · cases moved
      · cases moved
        exact works
      · cases moved
  | foreignSend bytes =>
      change c.foreignSend bytes = some after at moved
      unfold IpcConnection.foreignSend at moved
      split at moved
      · cases moved
        exact works
      · cases moved
  | accept =>
      exact absurd rfl other
  | serverReceive count =>
      change c.serverReceive count = some after at moved
      unfold IpcConnection.serverReceive at moved
      split at moved
      · rename_i reading
        rw [reading]
        rfl
      · rename_i reading
        rw [reading]
        rfl
      · cases moved
  | answer result =>
      change c.answer platform result = some after at moved
      unfold IpcConnection.answer at moved
      split at moved
      · rename_i handling
        rw [handling]
        rfl
      · cases moved
  | serverSend count =>
      change c.serverSend count = some after at moved
      unfold IpcConnection.serverSend at moved
      split at moved
      · rename_i replying
        rw [replying]
        rfl
      · cases moved
  | close discards =>
      change c.close discards = some after at moved
      unfold IpcConnection.close at moved
      split at moved
      · cases moved
      · cases moved
      · cases moved
        cases works

structure PipeServer.Sound (platform : IpcPlatform) (server : PipeServer) : Prop where
  connections : ∀ c ∈ server.connections, c.Sound platform
  workers : server.busy ≤ maxWorkers

theorem PipeServer.Sound.connect {platform : IpcPlatform} {server : PipeServer}
    (sound : server.Sound platform) {c : IpcConnection} (fresh : c.Sound platform)
    (idle : c.server.busy = false) :
    PipeServer.Sound platform { connections := server.connections ++ [c] } := by
  refine
    { connections := List.forall_mem_append.mpr
        ⟨sound.connections, List.forall_mem_singleton.mpr fresh⟩
      workers := ?_ }
  have same : PipeServer.busy { connections := server.connections ++ [c] } = server.busy := by
    unfold PipeServer.busy
    rw [List.countP_append, List.countP_singleton, idle]
    rfl
  rw [same]
  exact sound.workers

theorem PipeServer.Sound.perform {platform : IpcPlatform} {server after : PipeServer}
    {event : IpcEvent} (sound : server.Sound platform)
    (moved : server.perform platform event = some after) : after.Sound platform := by
  cases event with
  | connect client =>
      cases client with
      | none =>
          cases moved
          exact sound.connect
            { server := .waiting rfl
              client := .foreign
              flight := List.prefix_rfl
              open_ := fun _ => rfl } rfl
      | some request =>
          cases moved
          refine sound.connect (IpcConnection.open_sound platform request) ?_
          unfold IpcConnection.open
          split
          · rfl
          · rfl
  | act index action =>
      simp only [PipeServer.perform, Option.bind_eq_bind, Option.bind_eq_some_iff,
        Option.guard_eq_some', Option.pure_def, Option.some.injEq] at moved
      obtain ⟨c, found, _, admitted, changed, performed, same⟩ := moved
      cases same
      obtain ⟨inside, here⟩ := List.getElem?_eq_some_iff.mp found
      have listed : c ∈ server.connections := List.mem_of_getElem? found
      refine { connections := ?_, workers := ?_ }
      · intro other member
        rcases List.mem_or_eq_of_mem_set member with old | new
        · exact sound.connections other old
        · rw [new]
          exact (sound.connections c listed).perform performed
      · have count : PipeServer.busy { connections := server.connections.set index changed } =
            server.busy - (if c.server.busy = true then 1 else 0) +
              if changed.server.busy = true then 1 else 0 := by
          unfold PipeServer.busy
          rw [List.countP_set inside, here]
        rw [count]
        have bound := sound.workers
        by_cases accepting : action = .accept
        · have free := admitted.resolve_left fun other => other accepting
          have one : (if changed.server.busy = true then 1 else 0) ≤ 1 := by
            split
            · exact Nat.le_refl 1
            · exact Nat.zero_le 1
          omega
        · by_cases works : changed.server.busy = true
          · have before := IpcConnection.perform_busy performed accepting works
            have counted : 0 < server.busy := List.countP_pos_iff.mpr ⟨c, listed, before⟩
            rw [if_pos before, if_pos works]
            omega
          · rw [if_neg works]
            omega

theorem PipeServer.Reached.sound {platform : IpcPlatform} {server : PipeServer}
    (reached : PipeServer.Reached platform server) : server.Sound platform := by
  refine Transition.Reachable.invariant ?_ ?_ reached
  · rintro _ rfl
    exact
      { connections := fun _ member => absurd member List.not_mem_nil
        workers := Nat.zero_le _ }
  · rintro before after _ sound ⟨event, moved⟩
    exact sound.perform moved

/-- Whatever clients, workers and failures make of an endpoint, a request that returns was
handled exactly once, with its own operation and payload, and it returns what that call
of the handler came to. -/
theorem pipeRequest_once (platform : IpcPlatform) (server : PipeServer)
    (reached : PipeServer.Reached platform server) (c : IpcConnection)
    (listed : c ∈ server.connections) (request : IpcRequest) (response : IpcResponse)
    (returned : c.client = .pipe request (.returned response)) :
    c.calls = [{ operation := request.operation, payload := request.payload }] ∧
      ∃ result, c.answers = [result] ∧ response = respond result ∧
        response.payload.length ≤ 1048576 :=
  (reached.sound.connections c listed).returned returned

def pingEvents : List IpcEvent :=
  [.connect (some { operation := 1, request := 7, payload := [] }), .connect none,
    .act 0 (.clientSend 13), .act 0 .accept, .act 0 (.serverReceive 5), .act 0 (.clientSend 7),
    .act 0 (.serverReceive 15), .act 1 (.foreignSend [1, 2, 3]), .act 0 (.answer (.ok
      { status := 0
        payload := [112] })),
    .act 0 (.serverSend 25), .act 0 (.close false), .act 0 (.clientReceive 20),
    .act 0 (.clientReceive 5)]

theorem pipeRequest_once_ping :
    ∃ server c, PipeServer.Reached .linux server ∧ c ∈ server.connections ∧
      c.calls = [{ operation := 1, payload := [] }] ∧
        c.client = .pipe { operation := 1, request := 7, payload := [] } (.returned
          { status := 0
            payload := [112] }) := by
  have ran : ((Transition.performAll (PipeServer.perform .linux) {} pingEvents).bind
      fun server => server.connections.head?.map (·.client)) =
        some (.pipe { operation := 1, request := 7, payload := [] } (.returned
          { status := 0
            payload := [112] })) := by
    decide +kernel
  obtain ⟨server, performed, ran⟩ := Option.bind_eq_some_iff.mp ran
  obtain ⟨c, first, client⟩ := Option.map_eq_some_iff.mp ran
  have reached : PipeServer.Reached .linux server :=
    Transition.Reachable.performAll (fun _ event _ moved => ⟨event, moved⟩) (.start rfl)
      performed
  have listed : c ∈ server.connections := List.mem_of_head? first
  exact ⟨server, c, reached, listed,
    (pipeRequest_once .linux server reached c listed _ _ client).1, client⟩

/-- An endpoint never runs more than its sixteen workers, calls its handler at most once on
a connection, and calls it only with a whole well-formed request that stands in front of
what the client has sent; for a client of the core that is its own request. -/
theorem pipeServer_calls (platform : IpcPlatform) (server : PipeServer)
    (reached : PipeServer.Reached platform server) :
    server.busy ≤ maxWorkers ∧ ∀ c ∈ server.connections,
      c.calls.length ≤ 1 ∧ ∀ call ∈ c.calls,
        (∃ head behind header, c.sent = head ++ call.payload ++ behind ∧
          parseIpcHeader head false = .ok header ∧ header.operation = call.operation ∧
            header.length.toNat = call.payload.length) ∧
        ∀ request phase, c.client = .pipe request phase →
          call.operation = request.operation ∧ call.payload = request.payload := by
  have sound := reached.sound
  refine ⟨sound.workers, fun c listed => ?_⟩
  have connection := sound.connections c listed
  refine ⟨connection.calls_once.1, fun call member => ⟨connection.calls_once.2 call member, ?_⟩⟩
  intro request phase here
  exact connection.calls_requested here call member

theorem pipeServer_calls_ping :
    ∃ server c call, PipeServer.Reached .linux server ∧ server.busy ≤ maxWorkers ∧
      c ∈ server.connections ∧ c.calls = [call] ∧ call.operation = 1 ∧ call.payload = [] ∧
        ∃ head behind header, c.sent = head ++ behind ∧
          parseIpcHeader head false = .ok header ∧ header.operation = 1 := by
  have ran : ((Transition.performAll (PipeServer.perform .linux) {} pingEvents).bind
      fun server => server.connections.head?.map fun c => (c.calls.length, c.client)) =
        some (1, .pipe { operation := 1, request := 7, payload := [] } (.returned
          { status := 0
            payload := [112] })) := by
    decide +kernel
  obtain ⟨server, performed, ran⟩ := Option.bind_eq_some_iff.mp ran
  obtain ⟨c, first, both⟩ := Option.map_eq_some_iff.mp ran
  obtain ⟨one, client⟩ := Prod.mk.inj both
  obtain ⟨call, calls⟩ := List.length_eq_one_iff.mp one
  have reached : PipeServer.Reached .linux server :=
    Transition.Reachable.performAll (fun _ event _ moved => ⟨event, moved⟩) (.start rfl)
      performed
  have listed : c ∈ server.connections := List.mem_of_head? first
  obtain ⟨few, requests⟩ := pipeServer_calls .linux server reached
  obtain ⟨_, whole⟩ := requests c listed
  obtain ⟨⟨head, behind, header, sent, parsed, operation, _⟩, own⟩ :=
    whole call (calls ▸ List.mem_singleton_self call)
  obtain ⟨one, empty⟩ := own _ _ client
  rw [empty, List.append_nil] at sent
  exact ⟨server, c, call, reached, few, listed, calls, one, empty, head, behind, header,
    sent, parsed, operation.trans one⟩

end NativeDNS
