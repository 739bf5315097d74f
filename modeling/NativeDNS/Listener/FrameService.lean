/-
The connections of the TCP proxies and of the upstream exchanges.

`handle_client` of the Linux local proxy and `handle` of the Windows interception
proxy answer the frames of a client, each in a loop of its own; `exchange_tcp`
sends one frame to a server and reads one.  The proxies run throughout.  A call
on a client of the Linux proxy blocks; the others wait for the socket, and what a
wait raises stands in its pass.
-/
import NativeDNS.Listener.Loop
import NativeDNS.Listener.Windows
import NativeDNS.Router.Route
import NativeDNS.Wire.TcpFrames

namespace NativeDNS

open ByteText (text decimal)
open ExactTransfer

/-- What a proxy makes of a request; it may depend on all requests before. -/
abbrev Process := List Packet → Packet → Except Thrown Packet

/-- `process`, from what `Router::route` and `Router::exchange` do. -/
def proxyProcess (route : List Packet → Packet → Except Thrown RouteResult)
    (exchange : Process) : Process := fun handed request =>
  match route handed request with
  | .error thrown => .error thrown
  | .ok result =>
      match result.disposition with
      | .silentDrop => .ok []
      | .forwardOriginal => exchange handed request
      | .reply => .ok result.packet

structure FrameServer (κ : Type) extends FrameReader κ where
  sending : Faults Thrown
  permit : Packet → Checked Unit
  /-- What is logged of an error that ends the loop. -/
  report : Thrown → Option Error

/-- A connection and the requests that were handed to `process`; its end is
`ok` when the client closed between two frames. -/
structure Served (κ : Type) where
  handed : List Packet
  line : Line UInt8 κ
  ending : Except (Halt Thrown) Unit

section Serving

variable {κ : Type}

def sendReply (server : FrameServer κ) (response : Packet) (line : Line UInt8 κ) :
    Except (Halt Thrown) Unit × Line UInt8 κ :=
  if response.isEmpty then (.ok (), line)
  else
    match server.permit response with
    | .error error => (.error (.raised (.error error)), line)
    | .ok () =>
        match send server.manner server.sending (wordBytes response.length) line with
        | (.error halt, line) => (.error halt, line)
        | (.ok (), line) => send server.manner server.sending response line

/-- The loop over the frames of a client.  Every frame takes a pass at least, so
that `passes.length + 1` frames are all there can be. -/
def serveFrames (server : FrameServer κ) (process : Process) :
    Nat → List Packet → Line UInt8 κ → Served κ
  | 0, handed, line => ⟨handed, line, .error .cut⟩
  | count + 1, handed, line =>
      match readFrame server.toFrameReader true line with
      | (.error halt, line) => ⟨handed, line, .error halt⟩
      | (.ok none, line) => ⟨handed, line, .ok ()⟩
      | (.ok (some request), line) =>
          match process handed request with
          | .error thrown => ⟨handed ++ [request], line, .error (.raised thrown)⟩
          | .ok response =>
              match sendReply server response line with
              | (.error halt, line) => ⟨handed ++ [request], line, .error halt⟩
              | (.ok (), line) =>
                  serveFrames server process count (handed ++ [request]) line

def serve (server : FrameServer κ) (process : Process) (line : Line UInt8 κ) :
    Served κ :=
  serveFrames server process (line.passes.length + 1) [] line

def Served.report (server : FrameServer κ) (served : Served κ) : Option Error :=
  match served.ending with
  | .error (.raised thrown) => server.report thrown
  | _ => none

end Serving

/-! ### The loops of the source -/

/-- The Linux local proxy.  `recv` and `send` block; one that takes two seconds
fails with `EAGAIN`. -/
def linuxClient (strerror : Nat → Bytes) : FrameServer Unit :=
  let sysError (what : String) (code : Nat) : Thrown :=
    .error ⟨"PROXY_IO", text what ++ text ": " ++ strerror code⟩
  { manner := { wait := fun _ => .ready, retries := fun code => code == eintr }
    receiving :=
      { failed := sysError "recv"
        ended := .error (.of "DNS_EOF" "Client TCP frame incomplete") }
    tooShort := .of "DNS_MALFORMED" "Client DNS frame too short"
    sending :=
      { failed := sysError "send"
        ended := .error (.of "DNS_EOF" "Client connection closed") }
    permit := fun _ => .ok ()
    report := fun
      | .error error => some error
      -- Only the executor catches what is not an `Error`.
      | .exception _ => none }

def awaited (raised : Option Error) : Waited Thrown :=
  match raised with
  | some error => .raises (.error error)
  | none => .ready

/-- The Windows interception proxy.  `lastError` is what `WSAGetLastError` says
behind a `send` that moved nothing. -/
def tcpProxyClient (lastError : Nat) : FrameServer (Option Error) :=
  let failure (what : String) (code : Nat) : Thrown :=
    .error ⟨"TCP_PROXY_IO", text what ++ decimal code⟩
  { manner := { wait := awaited, retries := fun code => code == wsaewouldblock }
    receiving :=
      { failed := failure "TCP proxy receive failed: "
        ended := .error (.of "DNS_EOF" "Client TCP frame incomplete") }
    tooShort := .of "DNS_MALFORMED" "Client TCP DNS frame too short"
    sending :=
      { failed := failure "TCP proxy send failed: "
        ended := failure "TCP proxy send failed: " lastError }
    permit := fun response =>
      CheckedResult.rejectIf (response.length > 65535)
        (.of "DNS_MALFORMED" "TCP DNS response is too large")
    report := fun
      | .error error => some error
      | .exception what => some ⟨"TCP_PROXY_IO", what⟩ }

/-! ### The other end -/

/-- What distinguishes the two `exchange_tcp`. -/
structure FrameExchange where
  reader : FrameReader (Option Error)
  sending : Faults Thrown

def exchangeTcp (upstream : FrameExchange) (request : Packet)
    (line : Line UInt8 (Option Error)) :
    Except (Halt Thrown) (Option Packet) × Line UInt8 (Option Error) :=
  match send upstream.reader.manner upstream.sending (frame request) line with
  | (.error halt, line) => (.error halt, line)
  | (.ok (), line) => readFrame upstream.reader false line

def incompleteFrame : Thrown :=
  .error (.of "DNS_EOF" "Connection closed before a complete DNS frame")

def linuxUpstream (strerror : Nat → Bytes) : FrameExchange :=
  let socketError (operation : String) (code : Nat) : Thrown :=
    .error ⟨if code = 110 then "TIMEOUT" else "SOCKET",
      text operation ++ text ": " ++ strerror code⟩
  { reader :=
      { manner :=
          { wait := awaited
            retries := fun code => code == eagain || code == eintr }
        receiving := { failed := socketError "recv", ended := incompleteFrame }
        tooShort := .of "DNS_MALFORMED" "Invalid TCP DNS frame length" }
    sending := { failed := socketError "send", ended := incompleteFrame } }

def windowsUpstream : FrameExchange :=
  let socketError (operation : String) (code : Nat) : Thrown :=
    .error ⟨if code = 10060 then "TIMEOUT" else "SOCKET",
      text operation ++ text ": Winsock " ++ decimal code⟩
  { reader :=
      { manner := { wait := awaited, retries := fun code => code == wsaewouldblock }
        receiving := { failed := socketError "recv", ended := incompleteFrame }
        tooShort := .of "DNS_MALFORMED" "Invalid TCP DNS frame length" }
    sending := { failed := socketError "send", ended := incompleteFrame } }

/-! ### What the client gets -/

section Answers

variable {κ : Type} {server : FrameServer κ} {process : Process}

def replyFrame (response : Packet) : Packet :=
  if response.isEmpty then [] else frame response

def answer (process : Process) (handed : List Packet) (request : Packet) : Packet :=
  match process handed request with
  | .ok response => replyFrame response
  | .error _ => []

/-- What is sent for requests that come behind the `handed` ones. -/
def answers (process : Process) : List Packet → List Packet → Packet
  | _, [] => []
  | handed, request :: later =>
      answer process handed request ++ answers process (handed ++ [request]) later

theorem answer_of_error {handed : List Packet} {request : Packet} {thrown : Thrown}
    (raised : process handed request = .error thrown) :
    answer process handed request = [] := by
  rw [answer, raised]

theorem answer_of_ok {handed : List Packet} {request response : Packet}
    (returned : process handed request = .ok response) :
    answer process handed request = replyFrame response := by
  rw [answer, returned]

/-- `process` returns what can be sent. -/
def Replies (server : FrameServer κ) (process : Process) (handed : List Packet)
    (request : Packet) : Prop :=
  ∃ response, process handed request = .ok response ∧
    (response.isEmpty = true ∨ server.permit response = .ok ())

def RepliesAll (server : FrameServer κ) (process : Process) :
    List Packet → List Packet → Prop
  | _, [] => True
  | handed, request :: later =>
      Replies server process handed request ∧
        RepliesAll server process (handed ++ [request]) later

/-- The loop ends with this error at a request. -/
def Stops (server : FrameServer κ) (process : Process) (handed : List Packet)
    (request : Packet) (thrown : Thrown) : Prop :=
  process handed request = .error thrown ∨
    ∃ response error, process handed request = .ok response ∧
      response.isEmpty = false ∧ server.permit response = .error error ∧
      thrown = .error error

theorem Stops.not_replies {handed : List Packet} {request : Packet} {thrown : Thrown}
    (stops : Stops server process handed request thrown) :
    ¬ Replies server process handed request := by
  rintro ⟨reply, returned, sendable⟩
  rcases stops with raised | ⟨response, error, same, full, refused, _⟩
  · cases raised.symm.trans returned
  · cases same.symm.trans returned
    rcases sendable with empty | admitted
    · cases full.symm.trans empty
    · cases refused.symm.trans admitted

theorem Stops.unique {handed : List Packet} {request : Packet}
    {thrown thrown' : Thrown} (stops : Stops server process handed request thrown)
    (stops' : Stops server process handed request thrown') : thrown = thrown' := by
  rcases stops with raised | ⟨response, error, returned, _, refused, same⟩
  · rcases stops' with raised' | ⟨_, _, returned', _⟩
    · cases raised.symm.trans raised'
      rfl
    · cases raised.symm.trans returned'
  · rcases stops' with raised' | ⟨response', error', returned', _, refused', same'⟩
    · cases raised'.symm.trans returned
    · cases returned.symm.trans returned'
      cases refused.symm.trans refused'
      exact same.trans same'.symm

theorem Stops.first {handed front front' behind behind' : List Packet}
    {request request' : Packet} {thrown thrown' : Thrown}
    (before : RepliesAll server process handed front)
    (stops : Stops server process (handed ++ front) request thrown)
    (before' : RepliesAll server process handed front')
    (stops' : Stops server process (handed ++ front') request' thrown')
    (same : front ++ request :: behind = front' ++ request' :: behind') :
    front = front' ∧ request = request' := by
  induction front generalizing handed front' with
  | nil =>
      cases front' with
      | nil =>
          exact ⟨rfl, (List.cons.inj same).1⟩
      | cons first others =>
          rw [List.append_nil, (List.cons.inj same).1] at stops
          exact absurd before'.1 stops.not_replies
  | cons first others ih =>
      cases front' with
      | nil =>
          rw [List.append_nil, ← (List.cons.inj same).1] at stops'
          exact absurd before.1 stops'.not_replies
      | cons first' others' =>
          obtain ⟨equal, others⟩ := List.cons.inj same
          subst equal
          rw [List.append_cons] at stops stops'
          obtain ⟨fronts, requests⟩ := ih before.2 stops before'.2 stops' others
          exact ⟨congrArg _ fronts, requests⟩

theorem RepliesAll.not_stops {handed front behind : List Packet} {request : Packet}
    {thrown : Thrown}
    (all : RepliesAll server process handed (front ++ request :: behind)) :
    ¬ Stops server process (handed ++ front) request thrown := by
  induction front generalizing handed with
  | nil =>
      rw [List.append_nil]
      exact fun stops => stops.not_replies all.1
  | cons first others ih =>
      rw [List.append_cons]
      exact ih all.2

theorem exists_stops {handed : List Packet} {request : Packet}
    (refused : ¬ Replies server process handed request) :
    ∃ thrown, Stops server process handed request thrown := by
  cases returned : process handed request with
  | error thrown =>
      exact ⟨thrown, .inl returned⟩
  | ok response =>
      have full : response.isEmpty = false := by
        rw [← Bool.not_eq_true]
        exact fun empty => refused ⟨response, returned, .inl empty⟩
      cases admitted : server.permit response with
      | ok _ =>
          exact absurd ⟨response, returned, .inr admitted⟩ refused
      | error error =>
          exact ⟨.error error, .inr ⟨response, error, returned, full, admitted, rfl⟩⟩

theorem repliesAll_or_stops (server : FrameServer κ) (process : Process)
    (handed bodies : List Packet) : RepliesAll server process handed bodies ∨
      ∃ front request behind thrown, bodies = front ++ request :: behind ∧
        RepliesAll server process handed front ∧
          Stops server process (handed ++ front) request thrown := by
  induction bodies generalizing handed with
  | nil =>
      exact .inl trivial
  | cons first later ih =>
      by_cases replies : Replies server process handed first
      · rcases ih (handed ++ [first]) with all | ⟨front, request, behind, thrown, split,
          replied, stops⟩
        · exact .inl ⟨replies, all⟩
        · refine .inr ⟨first :: front, request, behind, thrown, ?_, ⟨replies, replied⟩, ?_⟩
          · rw [split, List.cons_append]
          · rw [List.append_cons]
            exact stops
      · obtain ⟨thrown, stops⟩ := exists_stops replies
        rw [← List.append_nil handed] at stops
        exact .inr ⟨[], first, later, thrown, rfl, trivial, stops⟩

end Answers

/-! ### What one connection does -/

section Connections

variable {κ : Type} {server : FrameServer κ} {process : Process}

/-- How the loop ends behind the last frame of a stream. -/
inductive EndsBehind (server : FrameServer κ) (closes : Bool) (tail : Packet) :
    Except (Halt Thrown) Unit → Prop
  | closed (nothing : tail = []) (ended : closes = true) :
      EndsBehind server closes tail (.ok ())
  | refused {thrown : Thrown} (torn : tail ≠ [])
      (reason : (thrown = .error server.tooShort ∧ 2 ≤ tail.length ∧
          wordAt tail 0 < 12) ∨
        (thrown = server.receiving.ended ∧ closes = true)) :
      EndsBehind server closes tail (.error (.raised thrown))
  | blocked (opened : closes = false) : EndsBehind server closes tail (.error .blocked)

/-- How a connection is served from where `handed` and `written` have come to. -/
inductive Serves (server : FrameServer κ) (process : Process) (closes : Bool)
    (passes : List (CallPass κ)) (unread : Packet) (handed : List Packet)
    (written : Packet) (bodies : List Packet) (tail : Packet) : Served κ → Prop
  | done {ending : Except (Halt Thrown) Unit} (rest : Packet) (later : List (CallPass κ))
      (replied : RepliesAll server process handed bodies)
      (ends : EndsBehind server closes tail ending) :
      Serves server process closes passes unread handed written bodies tail
        ⟨handed ++ bodies,
          ⟨rest, closes, written ++ answers process handed bodies, later⟩, ending⟩
  | stopped {front behind : List Packet} {request : Packet} {thrown : Thrown}
      (rest : Packet) (later : List (CallPass κ))
      (split : bodies = front ++ request :: behind)
      (replied : RepliesAll server process handed front)
      (stops : Stops server process (handed ++ front) request thrown) :
      Serves server process closes passes unread handed written bodies tail
        ⟨handed ++ front ++ [request],
          ⟨rest, closes, written ++ answers process handed front, later⟩,
          .error (.raised thrown)⟩
  | cut {front behind : List Packet} {part missing : Packet} (rest : Packet)
      (split : bodies = front ++ behind)
      (sent : answers process handed bodies = part ++ missing)
      (spent : moves server.manner passes ≤ unread.length + part.length) :
      Serves server process closes passes unread handed written bodies tail
        ⟨handed ++ front, ⟨rest, closes, written ++ part, []⟩, .error .cut⟩

theorem sendReply_spec {handed : List Packet} {request response : Packet}
    (returned : process handed request = .ok response)
    (replies : Replies server process handed request) (line : Line UInt8 κ)
    (calm : Calm server.manner line.passes) :
    ∃ result written passes,
      sendReply server response line =
        (result, { line with written := written, passes := passes }) ∧
      Sends server.manner line.passes line.written (answer process handed request)
        (result, written, passes) := by
  obtain ⟨same, again, sendable⟩ := replies
  cases returned.symm.trans again
  rw [answer_of_ok returned]
  cases full : response.isEmpty with
  | true =>
      refine ⟨.ok (), line.written, line.passes, ?_, ?_⟩
      · rw [sendReply, if_pos full]
      · simp only [replyFrame, full, if_true]
        exact .done _ _
  | false =>
      have admitted := sendable.resolve_left (by
        rw [full]
        exact Bool.false_ne_true)
      obtain ⟨result, written, passes, sent, spec⟩ :=
        send_spec server.sending (wordBytes response.length) line calm
      simp only [sendReply, replyFrame, full, Bool.false_eq_true, if_false, admitted,
        sent]
      cases spec with
      | all uses =>
          obtain ⟨result, written, later, sent, spec⟩ :=
            send_spec server.sending response
              { line with
                written := line.written ++ wordBytes response.length
                passes := passes } (uses.calm calm)
          exact ⟨_, _, _, sent, .append uses spec⟩
      | @cut part rest split spent =>
          refine ⟨_, _, _, rfl, ?_⟩
          rw [frame, split, List.append_assoc]
          exact .cut rfl spent

theorem answers_cons (process : Process) (handed later : List Packet)
    (request : Packet) :
    answers process handed (request :: later) =
      answer process handed request ++ answers process (handed ++ [request]) later :=
  rfl

theorem Serves.behind {closes : Bool} {passes later : List (CallPass κ)}
    {unread body rest written tail : Packet} {handed bodies : List Packet}
    {served : Served κ} (split : unread = frame body ++ rest)
    (replies : Replies server process handed body)
    (uses : Uses server.manner passes later
      ((frame body).length + (answer process handed body).length))
    (serves : Serves server process closes later rest (handed ++ [body])
      (written ++ answer process handed body) bodies tail served) :
    Serves server process closes passes unread handed written (body :: bodies) tail
      served := by
  cases serves with
  | done left passes replied ends =>
      rw [List.append_assoc, List.append_assoc]
      exact .done left passes ⟨replies, replied⟩ ends
  | @stopped front behind request thrown left passes parts replied stops =>
      have stops : Stops server process (handed ++ body :: front) request thrown := by
        rw [List.append_cons]
        exact stops
      rw [List.append_assoc written, ← List.append_cons, ← answers_cons]
      have whole : body :: bodies = body :: front ++ request :: behind := by
        rw [parts]
        rfl
      exact .stopped left passes whole ⟨replies, replied⟩ stops
  | @cut front behind part missing left parts sent spent =>
      rw [List.append_assoc written, ← List.append_cons]
      have whole : body :: bodies = body :: front ++ behind := by
        rw [parts]
        rfl
      have replies : answers process handed (body :: bodies) =
          answer process handed body ++ part ++ missing := by
        rw [answers_cons, sent, List.append_assoc]
      refine .cut left whole replies ?_
      have first := uses.spent
      rw [split, List.length_append, List.length_append]
      omega

section Ends

variable {closes : Bool} {passes : List (CallPass κ)} {unread written tail : Packet}
  {handed bodies : List Packet} {request : Packet} (rest : Packet)
  (later : List (CallPass κ))

theorem Serves.ended {ending : Except (Halt Thrown) Unit}
    (ends : EndsBehind server closes tail ending) :
    Serves server process closes passes unread handed written [] tail
      ⟨handed, ⟨rest, closes, written, later⟩, ending⟩ := by
  have done : Serves server process closes passes unread handed written [] tail
      ⟨handed ++ [], ⟨rest, closes, written ++ [], later⟩, ending⟩ :=
    .done rest later trivial ends
  rw [List.append_nil, List.append_nil] at done
  exact done

theorem Serves.stops {thrown : Thrown}
    (stops : Stops server process handed request thrown) :
    Serves server process closes passes unread handed written (request :: bodies) tail
      ⟨handed ++ [request], ⟨rest, closes, written, later⟩,
        .error (.raised thrown)⟩ := by
  have stopped : Serves server process closes passes unread handed written
      (request :: bodies) tail ⟨handed ++ [] ++ [request],
        ⟨rest, closes, written ++ [], later⟩, .error (.raised thrown)⟩ := by
    refine .stopped rest later (List.nil_append _).symm trivial ?_
    rw [List.append_nil]
    exact stops
  rw [List.append_nil, List.append_nil] at stopped
  exact stopped

theorem Serves.exhausted (spent : moves server.manner passes ≤ unread.length) :
    Serves server process closes passes unread handed written bodies tail
      ⟨handed, ⟨rest, closes, written, []⟩, .error .cut⟩ := by
  have cut : Serves server process closes passes unread handed written bodies tail
      ⟨handed ++ [], ⟨rest, closes, written ++ [], []⟩, .error .cut⟩ :=
    .cut rest (List.nil_append _).symm (List.nil_append _).symm spent
  rw [List.append_nil, List.append_nil] at cut
  exact cut

theorem Serves.sending {part missing : Packet}
    (sent : answer process handed request = part ++ missing)
    (spent : moves server.manner passes ≤ unread.length + part.length) :
    Serves server process closes passes unread handed written (request :: bodies) tail
      ⟨handed ++ [request], ⟨rest, closes, written ++ part, []⟩, .error .cut⟩ := by
  have whole : answers process handed (request :: bodies) =
      part ++ (missing ++ answers process (handed ++ [request]) bodies) := by
    rw [answers_cons, sent, List.append_assoc]
  exact .cut rest List.singleton_append.symm whole spent

end Ends

theorem sendReply_refused {handed : List Packet} {request response : Packet}
    {thrown : Thrown} (returned : process handed request = .ok response)
    (stops : Stops server process handed request thrown) (line : Line UInt8 κ) :
    sendReply server response line = (.error (.raised thrown), line) := by
  rcases stops with raised | ⟨reply, error, again, full, refused, same⟩
  · cases returned.symm.trans raised
  · cases returned.symm.trans again
    simp only [sendReply, full, Bool.false_eq_true, if_false, refused, same]

theorem serveFrames_spec (server : FrameServer κ) (process : Process) {count : Nat}
    {handed bodies : List Packet} {tail : Packet} (line : Line UInt8 κ)
    (calm : Calm server.manner line.passes) (enough : line.passes.length < count)
    (cut : Cut line.unread bodies tail) :
    Serves server process line.closes line.passes line.unread handed line.written
      bodies tail (serveFrames server process count handed line) := by
  induction count generalizing handed bodies line with
  | zero =>
      exact absurd enough (Nat.not_lt_zero _)
  | succ count ih =>
      obtain ⟨result, unread, passes, read, spec⟩ :=
        readFrame_spec server.toFrameReader true line calm
      rw [serveFrames, read]
      cases spec with
      | @frame body _ _ framed split uses shrinks =>
          rw [split] at cut
          obtain ⟨others, same, cut⟩ := cut.head framed
          rw [same]
          cases returned : process handed body with
          | error thrown =>
              simp only [returned]
              exact .stops unread passes (.inl returned)
          | ok response =>
              by_cases replies : Replies server process handed body
              · obtain ⟨result, written, later, sent, spec⟩ := sendReply_spec returned
                  replies { line with unread := unread, passes := passes }
                  (uses.calm calm)
                simp only [returned, sent]
                cases spec with
                | all more =>
                    have both := uses.trans more
                    have fewer : later.length ≤ passes.length := more.left.length_le
                    have small : later.length < count := by omega
                    exact .behind split replies both (ih
                      ⟨unread, line.closes, line.written ++ answer process handed body,
                        later⟩ (both.calm calm) small cut)
                | @cut part missing parts spent =>
                    have first := uses.spent
                    have spent : moves server.manner passes ≤ part.length := spent
                    refine .sending unread parts ?_
                    rw [split, List.length_append]
                    omega
              · obtain ⟨thrown, stops⟩ := exists_stops replies
                have sent := sendReply_refused returned stops
                  { line with unread := unread, passes := passes }
                simp only [returned, sent]
                exact .stops unread passes stops
      | clean allowed nothing closed _ =>
          have noFrame : ¬ StartsFrame line.unread := by
            rw [nothing]
            exact not_startsFrame (by decide)
          obtain ⟨none, same⟩ := cut.empty noFrame
          rw [none]
          exact .ended _ _ (.closed (same.trans nothing) closed)
      | refused _ _ noFrame torn reason =>
          obtain ⟨none, same⟩ := cut.empty noFrame
          rw [none, same]
          exact .ended _ _ (.refused (torn.resolve_left (by decide)) reason)
      | blocked noFrame opened _ =>
          obtain ⟨none, same⟩ := cut.empty noFrame
          rw [none]
          exact .ended _ _ (.blocked opened)
      | @cut part _ split spent =>
          have all : line.unread.length = part.length + unread.length := by
            rw [split, List.length_append]
          have spent : moves server.manner line.passes ≤ line.unread.length := by
            omega
          exact .exhausted unread spent

/-- What a loop makes of a stream of frames, however its calls cut it. -/
structure FramesServed (server : FrameServer κ) (process : Process)
    (stream : Packet) (closes : Bool) (passes : List (CallPass κ)) (bodies : List Packet)
    (tail : Packet) (served : Served κ) : Prop where
  inOrder : served.handed <+: bodies
  sent : served.line.written <+: answers process [] bodies
  complete : RepliesAll server process [] bodies → served.ending ≠ .error .cut →
    served.handed = bodies ∧ served.line.written = answers process [] bodies ∧
      EndsBehind server closes tail served.ending
  /-- No error is logged exactly when the client closes behind a frame. -/
  reported : RepliesAll server process [] bodies → served.ending ≠ .error .cut →
    closes = true → (served.report server = none ↔ tail = [])
  stopped : ∀ front request behind thrown, bodies = front ++ request :: behind →
    RepliesAll server process [] front → Stops server process front request thrown →
      served.ending ≠ .error .cut →
        served.handed = front ++ [request] ∧
          served.line.written = answers process [] front ∧
          served.ending = .error (.raised thrown)
  /-- Enough calls bring the loop to its end. -/
  progress : served.ending = .error .cut →
    moves server.manner passes ≤ stream.length + (answers process [] bodies).length

theorem answers_append (process : Process) (handed front behind : List Packet) :
    answers process handed (front ++ behind) =
      answers process handed front ++ answers process (handed ++ front) behind := by
  induction front generalizing handed with
  | nil =>
      rw [List.append_nil]
      rfl
  | cons first others ih =>
      rw [List.cons_append, answers_cons, answers_cons, ih]
      simp only [List.append_assoc, List.cons_append, List.nil_append]

theorem EndsBehind.reported {closes : Bool} {tail : Packet}
    {ending : Except (Halt Thrown) Unit}
    (logs : ∀ error, server.report (.error error) = some error)
    (ended : ∃ error, server.receiving.ended = .error error)
    (ends : EndsBehind server closes tail ending) (closed : closes = true)
    (handed : List Packet) (line : Line UInt8 κ) :
    (⟨handed, line, ending⟩ : Served κ).report server = none ↔ tail = [] := by
  cases ends with
  | closed nothing _ =>
      exact ⟨fun _ => nothing, fun _ => rfl⟩
  | @refused thrown torn reason =>
      have logged : ∃ error, server.report thrown = some error := by
        rcases reason with ⟨short, _⟩ | ⟨ending, _⟩
        · rw [short]
          exact ⟨_, logs _⟩
        · obtain ⟨error, same⟩ := ended
          rw [ending, same]
          exact ⟨_, logs _⟩
      obtain ⟨error, logged⟩ := logged
      constructor
      · intro silent
        cases logged.symm.trans silent
      · intro nothing
        exact absurd nothing torn
  | blocked opened =>
      cases opened.symm.trans closed

theorem serve_frames (server : FrameServer κ) (process : Process) (stream : Packet)
    (closes : Bool) (passes : List (CallPass κ)) (calm : Calm server.manner passes)
    (logs : ∀ error, server.report (.error error) = some error)
    (ended : ∃ error, server.receiving.ended = .error error)
    {bodies : List Packet} {tail : Packet} (cut : Cut stream bodies tail) :
    FramesServed server process stream closes passes bodies tail
      (serve server process ⟨stream, closes, [], passes⟩) := by
  have serves : Serves server process closes passes stream [] [] bodies tail
      (serve server process ⟨stream, closes, [], passes⟩) :=
    serveFrames_spec server process ⟨stream, closes, [], passes⟩ calm
      (Nat.lt_succ_self _) cut
  generalize serve server process ⟨stream, closes, [], passes⟩ = served at serves ⊢
  cases serves with
  | @done ending rest later replied ends =>
      exact
        { inOrder := List.prefix_rfl
          sent := List.prefix_rfl
          complete := fun _ _ => ⟨rfl, rfl, ends⟩
          reported := fun _ _ closed => ends.reported logs ended closed _ _
          stopped := by
            intro front request behind thrown split _ stops _
            rw [split] at replied
            exact absurd stops replied.not_stops
          progress := by
            intro cutShort
            cases cutShort
            cases ends }
  | @stopped front behind request thrown rest later split replied stops =>
      have unfinished (all : RepliesAll server process [] bodies) : False := by
        rw [split] at all
        exact all.not_stops stops
      exact
        { inOrder := by
            change front ++ [request] <+: bodies
            rw [split, List.append_cons front request behind]
            exact List.prefix_append _ _
          sent := by
            rw [split, answers_append]
            exact List.prefix_append _ _
          complete := fun all _ => (unfinished all).elim
          reported := fun all _ _ => (unfinished all).elim
          stopped := by
            intro front' request' behind' thrown' split' replied' stops' _
            obtain ⟨fronts, requests⟩ := Stops.first replied stops replied' stops'
              (split.symm.trans split')
            subst fronts requests
            rw [stops.unique stops']
            exact ⟨rfl, rfl, rfl⟩
          progress := fun cutShort => by cases cutShort }
  | @cut front behind part missing rest split sent spent =>
      exact
        { inOrder := by
            rw [split]
            exact List.prefix_append _ _
          sent := by
            rw [sent]
            exact List.prefix_append _ _
          complete := fun _ unfinished => absurd rfl unfinished
          reported := fun _ unfinished => absurd rfl unfinished
          stopped := fun _ _ _ _ _ _ _ unfinished => absurd rfl unfinished
          progress := by
            intro _
            rw [sent, List.length_append]
            omega }

end Connections

/-! ### The two proxies and the other end -/

/-- What an upstream exchange reads of frames like those a proxy sends. -/
structure ReadBack (upstream : FrameExchange) (request reply rest : Packet)
    (closes : Bool) (passes : List (CallPass (Option Error)))
    (exchanged : Except (Halt Thrown) (Option Packet) × Line UInt8 (Option Error)) :
    Prop where
  unchanged : exchanged.1 ≠ .error .cut →
    exchanged.1 = .ok (some reply) ∧ exchanged.2.unread = rest ∧
      exchanged.2.written = frame request
  progress : exchanged.1 = .error .cut →
    moves upstream.reader.manner passes ≤
      (frame request).length + (frame reply ++ rest).length

theorem exchangeTcp_readBack (upstream : FrameExchange) (request : Packet)
    {reply : Packet} (rest : Packet) (closes : Bool)
    (passes : List (CallPass (Option Error)))
    (calm : Calm upstream.reader.manner passes) (framed : Framed reply) :
    ReadBack upstream request reply rest closes passes
      (exchangeTcp upstream request ⟨frame reply ++ rest, closes, [], passes⟩) := by
  obtain ⟨result, written, later, sent, spec⟩ := send_spec upstream.sending
    (frame request)
    (⟨frame reply ++ rest, closes, [], passes⟩ : Line UInt8 (Option Error)) calm
  rw [exchangeTcp, sent]
  cases spec with
  | all uses =>
      obtain ⟨result, unread, last, read, spec⟩ := readFrame_spec upstream.reader false
        ⟨frame reply ++ rest, closes, frame request, later⟩ (uses.calm calm)
      have first := uses.spent
      simp only [List.nil_append, read]
      cases spec with
      | frame other split more shrinks =>
          obtain ⟨same, left⟩ := frame_inj framed other split
          rw [same, left]
          exact
            { unchanged := fun _ => ⟨rfl, rfl, rfl⟩
              progress := fun cutShort => by cases cutShort }
      | clean impossible nothing closed _ => cases impossible
      | refused _ _ noFrame torn reason =>
          exact absurd ⟨reply, rest, framed, rfl⟩ noFrame
      | blocked noFrame opened _ =>
          exact absurd ⟨reply, rest, framed, rfl⟩ noFrame
      | @cut part _ split spent =>
          exact
            { unchanged := fun unfinished => absurd rfl unfinished
              progress := by
                intro _
                have split : frame reply ++ rest = part ++ unread := split
                have spent : moves upstream.reader.manner later ≤ part.length := spent
                have first : moves upstream.reader.manner passes ≤ _ := first
                rw [split, List.length_append]
                omega }
  | @cut part missing split spent =>
      exact
        { unchanged := fun unfinished => absurd rfl unfinished
          progress := by
            intro _
            have spent : moves upstream.reader.manner passes ≤ part.length := spent
            rw [split, List.length_append]
            omega }

/-- Both proxies cut the stream of a client into the same frames, and an upstream
exchange reads such frames unchanged. -/
theorem tcpStreams_framed (strerror : Nat → Bytes) (lastError : Nat)
    (process : Process) (stream : Packet) (closes : Bool)
    (linuxPasses : List (CallPass Unit)) (windowsPasses : List (CallPass (Option Error)))
    (linuxCalm : Calm (linuxClient strerror).manner linuxPasses)
    (windowsCalm : Calm (tcpProxyClient lastError).manner windowsPasses) :
    (∃ bodies tail, Cut stream bodies tail ∧
      FramesServed (linuxClient strerror) process stream closes linuxPasses bodies tail
        (serve (linuxClient strerror) process ⟨stream, closes, [], linuxPasses⟩) ∧
      FramesServed (tcpProxyClient lastError) process stream closes windowsPasses
        bodies tail
        (serve (tcpProxyClient lastError) process
          ⟨stream, closes, [], windowsPasses⟩)) ∧
    ∀ upstream, upstream = linuxUpstream strerror ∨ upstream = windowsUpstream →
      ∀ request reply rest ends passes, Calm upstream.reader.manner passes →
        Framed reply →
          ReadBack upstream request reply rest ends passes
            (exchangeTcp upstream request
              ⟨frame reply ++ rest, ends, [], passes⟩) := by
  obtain ⟨bodies, tail, cut⟩ := exists_cut stream
  refine ⟨⟨bodies, tail, cut, ?_, ?_⟩, ?_⟩
  · exact serve_frames _ process stream closes linuxPasses linuxCalm
      (fun _ => rfl) ⟨_, rfl⟩ cut
  · exact serve_frames _ process stream closes windowsPasses windowsCalm
      (fun _ => rfl) ⟨_, rfl⟩ cut
  · intro upstream _ request reply rest ends passes calm framed
    exact exchangeTcp_readBack upstream request rest ends passes calm framed

def bareQuery : Packet := List.replicate 12 0

def wholeReads {κ : Type} (wait : κ) (count : Nat) : List (CallPass κ) :=
  List.replicate count ⟨wait, .moves 12⟩

theorem tcpStreams_framed_twoQueries :
    (∃ bodies tail, Cut (frame bareQuery ++ frame bareQuery) bodies tail ∧
      FramesServed (linuxClient fun _ => []) (fun _ request => .ok request)
        (frame bareQuery ++ frame bareQuery) true (wholeReads () 9) bodies tail
        (serve (linuxClient fun _ => []) (fun _ request => .ok request)
          ⟨frame bareQuery ++ frame bareQuery, true, [], wholeReads () 9⟩) ∧
      FramesServed (tcpProxyClient 0) (fun _ request => .ok request)
        (frame bareQuery ++ frame bareQuery) true (wholeReads none 9) bodies tail
        (serve (tcpProxyClient 0) (fun _ request => .ok request)
          ⟨frame bareQuery ++ frame bareQuery, true, [], wholeReads none 9⟩)) ∧
    ∀ upstream, upstream = linuxUpstream (fun _ => []) ∨ upstream = windowsUpstream →
      ∀ request reply rest ends passes, Calm upstream.reader.manner passes →
        Framed reply →
          ReadBack upstream request reply rest ends passes
            (exchangeTcp upstream request
              ⟨frame reply ++ rest, ends, [], passes⟩) :=
  tcpStreams_framed (fun _ => []) 0 (fun _ request => .ok request)
    (frame bareQuery ++ frame bareQuery) true (wholeReads () 9) (wholeReads none 9)
    (fun pass member => by
      rw [List.eq_of_mem_replicate member]
      exact Nat.succ_pos 11)
    (fun pass member => by
      rw [List.eq_of_mem_replicate member]
      exact Nat.succ_pos 11)

/-- A request at which `process` raises is the last one handed on. -/
theorem tcpStreams_framed_raising :
    ¬ (∀ (process : Process) (stream : Packet) (passes : List (CallPass Unit)) bodies tail,
      Calm (linuxClient fun _ => []).manner passes → Cut stream bodies tail →
        (serve (linuxClient fun _ => []) process
          ⟨stream, true, [], passes⟩).ending ≠ .error .cut →
        (serve (linuxClient fun _ => []) process
          ⟨stream, true, [], passes⟩).handed = bodies) := by
  intro all
  have framed : Framed bareQuery := { header := by decide, fits := by decide }
  have cut : Cut (frame bareQuery ++ frame bareQuery) [bareQuery, bareQuery] [] :=
    { whole := by rw [List.append_nil]; rfl
      framed := by
        intro body member
        rw [List.eq_of_mem_replicate (n := 2) member]
        exact framed
      longest := not_startsFrame (by decide) }
  have handed := all (fun _ _ => .error (.error (.of "TIMEOUT" "No reply")))
    (frame bareQuery ++ frame bareQuery) (wholeReads () 2) _ _
    (fun pass member => by
      rw [List.eq_of_mem_replicate member]
      exact Nat.succ_pos 11) cut (by decide +kernel)
  exact absurd (congrArg List.length handed) (by decide +kernel)

end NativeDNS
