/-
The client connections of the Windows local proxy, beside the Linux ones.

`transfer` waits for the socket in slices of a hundred milliseconds.  What is left
of a slice is computed from two readings of the clock: the end of the slice from
the first, what is left of it from the second.  `handle_client` answers one
request; its counterpart on Linux answers all.  The proxy runs throughout, and
times are nanoseconds of the steady clock.
-/
import NativeDNS.Listener.FrameService

namespace NativeDNS

open ByteText (text)
open ExactTransfer

inductive SelectOutcome where
  | timedOut
  | failed
  | ready
  deriving DecidableEq

/-- One pass of `transfer`: what it reads from the clock for the left and for the right
operand of its difference, and what `select` finds.  Either operand may be read before the
other one. -/
structure SelectPass where
  first : Nat
  second : Nat
  selected : SelectOutcome

/-- The microseconds that `select` is given. -/
def sliceLeft (deadline : Nat) (pass : SelectPass) : Int :=
  Int.tdiv (min deadline (pass.first + 100 * nanosPerMilli) - pass.second : Int) 1000

def clientDeadline : Error :=
  .of "TIMEOUT" "Client TCP frame deadline"

def transferManner (deadline : Nat) : Manner SelectPass Thrown :=
  { wait := fun pass =>
      if sliceLeft deadline pass ≤ 0 then .raises (.error clientDeadline)
      else
        match pass.selected with
        | .timedOut => .again
        | .failed => .raises (.error (.of "PROXY_IO" "Client TCP select failed"))
        | .ready => .ready
    retries := fun code => code == wsaewouldblock }

def transferFaults : Faults Thrown :=
  let incomplete : Thrown := .error (.of "DNS_EOF" "Client TCP frame incomplete")
  { failed := fun _ => incomplete, ended := incomplete }

def transferReader (deadline : Nat) : FrameReader SelectPass :=
  { manner := transferManner deadline
    receiving := transferFaults
    tooShort := .of "DNS_MALFORMED" "Client DNS frame too short" }

/-- How `handle_client` comes to its end. -/
inductive ClientEnd where
  | returns
  /-- Reading the request or sending the reply. -/
  | connection (halt : Halt Thrown)
  | process (thrown : Thrown)
  deriving DecidableEq

structure ClientServed where
  handed : List Packet
  written : Packet
  ending : ClientEnd
  readingLeft : List (CallPass SelectPass)
  sendingLeft : List (CallPass SelectPass)

/-- What the clock shows to a connection, and what its passes see. -/
structure ClientRecord where
  begins : Nat
  answered : Nat
  reading : List (CallPass SelectPass)
  sending : List (CallPass SelectPass)

namespace ClientRecord

def readDeadline (clock : ClientRecord) : Nat :=
  clock.begins + 2 * nanosPerSecond

def sendDeadline (clock : ClientRecord) : Nat :=
  clock.answered + 2 * nanosPerSecond

end ClientRecord

/-- `handle_client` of the Windows local proxy. -/
def handleClient (process : Process) (clock : ClientRecord) (stream : Packet)
    (closes : Bool) : ClientServed :=
  match readFrame (transferReader clock.readDeadline) false
      ⟨stream, closes, [], clock.reading⟩ with
  | (.error halt, line) => ⟨[], [], .connection halt, line.passes, clock.sending⟩
  -- The end of the stream is an error at the first byte, too.
  | (.ok none, line) => ⟨[], [], .returns, line.passes, clock.sending⟩
  | (.ok (some request), line) =>
      match process [] request with
      | .error thrown =>
          ⟨[request], [], .process thrown, line.passes, clock.sending⟩
      | .ok response =>
          if response.isEmpty then
            ⟨[request], [], .returns, line.passes, clock.sending⟩
          else
            match send (transferManner clock.sendDeadline) transferFaults
                (frame response) { line with passes := clock.sending } with
            | (.ok (), after) =>
                ⟨[request], after.written, .returns, line.passes, after.passes⟩
            | (.error halt, after) =>
                ⟨[request], after.written, .connection halt, line.passes,
                  after.passes⟩

/-! ### Slices -/

/-- No call of the pass fails but for one that would block, and its deadline is not
reached. -/
def SelectPass.ordinary (deadline : Nat) (pass : CallPass SelectPass) : Prop :=
  pass.wait.second < deadline ∧
    match pass.wait.selected, pass.answer with
    | .timedOut, _ => True
    | .failed, _ => False
    | .ready, .fails code => code = wsaewouldblock
    | .ready, .moves count => 0 < count

/-- A microsecond of the slice, and of the deadline, is left at the second
reading. -/
def SelectPass.leavesSlice (deadline : Nat) (pass : CallPass SelectPass) : Prop :=
  pass.wait.second + 1000 ≤ min deadline (pass.wait.first + 100 * nanosPerMilli)

theorem tdiv_pos_iff (left : Int) : ¬ left.tdiv 1000 ≤ 0 ↔ 1000 ≤ left := by
  rcases Int.le_total 0 left with positive | negative
  · rw [Int.tdiv_eq_ediv_of_nonneg positive]
    omega
  · obtain ⟨amount, rfl⟩ : ∃ amount, left = -amount := ⟨-left, (Int.neg_neg left).symm⟩
    rw [Int.neg_tdiv, Int.tdiv_eq_ediv_of_nonneg (by omega)]
    omega

theorem sliceLeft_pos {deadline : Nat} {pass : CallPass SelectPass} :
    ¬ sliceLeft deadline pass.wait ≤ 0 ↔ SelectPass.leavesSlice deadline pass := by
  rw [sliceLeft, SelectPass.leavesSlice, tdiv_pos_iff]
  omega

theorem transfer_calm {deadline : Nat} {pass : CallPass SelectPass}
    (ordinary : SelectPass.ordinary deadline pass)
    (slice : SelectPass.leavesSlice deadline pass) :
    pass.Calm (transferManner deadline) := by
  obtain ⟨_, fair⟩ := ordinary
  simp only [CallPass.Calm, transferManner, if_neg (sliceLeft_pos.mpr slice)]
  cases selected : pass.wait.selected with
  | timedOut => trivial
  | failed =>
      rw [selected] at fair
      exact fair.elim
  | ready =>
      cases answered : pass.answer with
      | fails code =>
          rw [selected, answered] at fair
          exact beq_iff_eq.mpr fair
      | moves count =>
          rw [selected, answered] at fair
          exact fair

theorem transfer_raises {deadline : Nat} {pass : CallPass SelectPass}
    (ordinary : SelectPass.ordinary deadline pass) (thrown : Thrown) :
    (transferManner deadline).wait pass.wait = .raises thrown ↔
      ¬ SelectPass.leavesSlice deadline pass ∧ thrown = .error clientDeadline := by
  obtain ⟨_, fair⟩ := ordinary
  rw [← sliceLeft_pos, not_not]
  by_cases short : sliceLeft deadline pass.wait ≤ 0
  · simp only [transferManner, short, if_true, Waited.raises.injEq, true_and]
    exact eq_comm
  · simp only [transferManner, short, if_false, false_and, iff_false]
    cases selected : pass.wait.selected with
    | timedOut => exact fun same => by cases same
    | failed =>
        rw [selected] at fair
        exact fair.elim
    | ready => exact fun same => by cases same

/-! ### One connection of both proxies -/

/-- A connection that both proxies serve to the end: no call fails, no deadline is
reached, and the record of the clock has the passes that are made. -/
structure ClientRuns (strerror : Nat → Bytes) (process : Process) (stream : Packet)
    (closes : Bool) (linuxPasses : List (CallPass Unit)) (clock : ClientRecord) :
    Prop where
  linuxCalm : Calm (linuxClient strerror).manner linuxPasses
  linuxEnds : (serve (linuxClient strerror) process
    ⟨stream, closes, [], linuxPasses⟩).ending ≠ .error .cut
  reading : ∀ pass ∈ clock.reading, SelectPass.ordinary clock.readDeadline pass
  sending : ∀ pass ∈ clock.sending, SelectPass.ordinary clock.sendDeadline pass
  windowsEnds : (handleClient process clock stream closes).ending ≠ .connection .cut
  readingMade : (handleClient process clock stream closes).readingLeft = []
  sendingMade : (handleClient process clock stream closes).sendingLeft = []

/-- The same requests and bytes, and no deadline reported that is not reached. -/
structure AnswersAlike (strerror : Nat → Bytes) (process : Process) (stream : Packet)
    (closes : Bool) (linuxPasses : List (CallPass Unit)) (clock : ClientRecord) :
    Prop where
  handed : (handleClient process clock stream closes).handed =
    (serve (linuxClient strerror) process ⟨stream, closes, [], linuxPasses⟩).handed
  written : (handleClient process clock stream closes).written =
    (serve (linuxClient strerror) process
      ⟨stream, closes, [], linuxPasses⟩).line.written
  deadline : (handleClient process clock stream closes).ending ≠
    .connection (.raised (.error clientDeadline))

/-- Every pass comes to its `select` in time. -/
structure LeavesSlices (clock : ClientRecord) : Prop where
  reading : ∀ pass ∈ clock.reading, SelectPass.leavesSlice clock.readDeadline pass
  sending : ∀ pass ∈ clock.sending, SelectPass.leavesSlice clock.sendDeadline pass

/-- No second message comes behind one that `process` answers. -/
def OneMessage (process : Process) (stream : Packet) : Prop :=
  ∀ first second later tail, Cut stream (first :: second :: later) tail →
    ∃ thrown, process [] first = .error thrown

structure FirstAnswer (process : Process) (bodies : List Packet)
    (served : ClientServed) : Prop where
  handed : served.handed = bodies.take 1
  written : served.written = answers process [] (bodies.take 1)
  deadline : served.ending ≠ .connection (.raised (.error clientDeadline))

section Windows

variable {process : Process} {stream : Packet} {closes : Bool} {clock : ClientRecord}

theorem refused_ne_deadline {thrown : Thrown} {few ended : Prop}
    (reason : (thrown = .error (transferReader clock.readDeadline).tooShort ∧ few) ∨
      (thrown = (transferReader clock.readDeadline).receiving.ended ∧ ended)) :
    thrown ≠ .error clientDeadline := by
  intro same
  rcases reason with ⟨short, _⟩ | ⟨ending, _⟩
  · injection short.symm.trans same with errors
    have codes : "DNS_MALFORMED" = "TIMEOUT" := congrArg Error.code errors
    exact absurd codes (by decide)
  · injection ending.symm.trans same with errors
    have codes : "DNS_EOF" = "TIMEOUT" := congrArg Error.code errors
    exact absurd codes (by decide)

theorem handleClient_first
    (reading : Calm (transferManner clock.readDeadline) clock.reading)
    (sending : Calm (transferManner clock.sendDeadline) clock.sending)
    (ends : (handleClient process clock stream closes).ending ≠ .connection .cut)
    {bodies : List Packet} {tail : Packet} (cut : Cut stream bodies tail) :
    FirstAnswer process bodies (handleClient process clock stream closes) := by
  obtain ⟨result, unread, later, read, spec⟩ := readFrame_spec
    (transferReader clock.readDeadline) false ⟨stream, closes, [], clock.reading⟩ reading
  rw [handleClient, read] at ends ⊢
  cases spec with
  | @frame body _ _ framed split uses shrinks =>
      have split : stream = frame body ++ unread := split
      rw [split] at cut
      obtain ⟨others, same, _⟩ := cut.head framed
      rw [same]
      have one : answers process [] ((body :: others).take 1) =
          answer process [] body :=
        List.append_nil _
      cases returned : process [] body with
      | error thrown =>
          simp only [returned]
          exact
            { handed := rfl
              written := by
                rw [one, answer_of_error returned]
              deadline := fun same => by cases same }
      | ok response =>
          cases full : response.isEmpty with
          | true =>
              simp only [returned, full, if_true]
              exact
                { handed := rfl
                  written := by
                    rw [one, answer_of_ok returned]
                    simp only [replyFrame, full, if_true]
                  deadline := fun same => by cases same }
          | false =>
              obtain ⟨result, written, left, sent, spec⟩ := send_spec transferFaults
                (frame response)
                (⟨unread, closes, [], clock.sending⟩ : Line UInt8 SelectPass) sending
              simp only [returned, full, Bool.false_eq_true, if_false, sent] at ends ⊢
              cases spec with
              | all uses =>
                  exact
                    { handed := rfl
                      written := by
                        rw [one, answer_of_ok returned]
                        simp only [replyFrame, full, Bool.false_eq_true, if_false,
                          List.nil_append]
                      deadline := fun same => by cases same }
              | cut parts spent => exact absurd rfl ends
  | clean impossible nothing closed _ => cases impossible
  | refused _ _ noFrame torn reason =>
      rw [(cut.empty noFrame).1]
      exact
        { handed := rfl
          written := rfl
          deadline := by
            intro same
            cases same
            exact refused_ne_deadline reason rfl }
  | blocked noFrame opened _ =>
      rw [(cut.empty noFrame).1]
      exact
        { handed := rfl
          written := rfl
          deadline := fun same => by cases same }
  | cut split spent => exact absurd rfl ends

theorem transfer_raisesOnly {deadline : Nat} {passes : List (CallPass SelectPass)}
    (ordinary : ∀ pass ∈ passes, SelectPass.ordinary deadline pass) :
    RaisesOnly (transferManner deadline) (.error clientDeadline) passes :=
  fun pass member thrown raised =>
    ((transfer_raises (ordinary pass member) thrown).mp raised).2

/-- Passes whose waits do not raise have time for their `select`. -/
theorem leavesSlice_of_not_raising {deadline : Nat} {passes : List (CallPass SelectPass)}
    (ordinary : ∀ pass ∈ passes, SelectPass.ordinary deadline pass)
    (calm : ¬ Raising (transferManner deadline) passes) :
    ∀ pass ∈ passes, SelectPass.leavesSlice deadline pass := by
  intro pass member
  by_contra short
  exact calm ⟨pass, member, _,
    (transfer_raises (ordinary pass member) _).mpr ⟨short, rfl⟩⟩

/-- A transfer that has made its passes and does not time out has made them in
time. -/
theorem leavesSlice_of_escapes {deadline : Nat} {passes later : List (CallPass SelectPass)}
    {β : Type} {result : Except (Halt Thrown) β}
    (ordinary : ∀ pass ∈ passes, SelectPass.ordinary deadline pass)
    (escapes : Raising (transferManner deadline) passes →
      Escapes (transferManner deadline) (.error clientDeadline) passes result later)
    (made : later = []) (untimed : result ≠ .error (.raised (.error clientDeadline))) :
    ∀ pass ∈ passes, SelectPass.leavesSlice deadline pass := by
  refine leavesSlice_of_not_raising ordinary ?_
  intro raising
  exact untimed ((escapes raising).error_of_nil made)

/-- A pass without time for its `select` ends the transfer with `TIMEOUT`. -/
theorem handleClient_slices
    (reading : ∀ pass ∈ clock.reading, SelectPass.ordinary clock.readDeadline pass)
    (sending : ∀ pass ∈ clock.sending, SelectPass.ordinary clock.sendDeadline pass)
    (readingMade : (handleClient process clock stream closes).readingLeft = [])
    (sendingMade : (handleClient process clock stream closes).sendingLeft = [])
    (untimed : (handleClient process clock stream closes).ending ≠
      .connection (.raised (.error clientDeadline))) : LeavesSlices clock := by
  cases read : readFrame (transferReader clock.readDeadline) false
      (⟨stream, closes, [], clock.reading⟩ : Line UInt8 SelectPass) with
  | mk result line =>
      rw [handleClient, read] at readingMade sendingMade untimed
      have escapes (raising : Raising (transferManner clock.readDeadline) clock.reading) :
          Escapes (transferManner clock.readDeadline) (.error clientDeadline)
            clock.reading result line.passes := by
        have escapes := readFrame_escapes (transferReader clock.readDeadline) false
          ⟨stream, closes, [], clock.reading⟩ (transfer_raisesOnly reading) raising
        rw [read] at escapes
        exact escapes
      have idle (none : clock.sending = []) : ∀ pass ∈ clock.sending,
          SelectPass.leavesSlice clock.sendDeadline pass := by
        intro pass member
        rw [none] at member
        cases member
      cases result with
      | error halt =>
          exact
            { reading := leavesSlice_of_escapes reading escapes readingMade
                (fun same => untimed (by cases same; rfl))
              sending := idle sendingMade }
      | ok taken =>
          have inTime (made : line.passes = []) : ∀ pass ∈ clock.reading,
              SelectPass.leavesSlice clock.readDeadline pass :=
            leavesSlice_of_escapes reading escapes made (fun same => by cases same)
          cases taken with
          | none =>
              exact { reading := inTime readingMade, sending := idle sendingMade }
          | some request =>
              cases returned : process [] request with
              | error thrown =>
                  simp only [returned] at readingMade sendingMade
                  exact { reading := inTime readingMade, sending := idle sendingMade }
              | ok response =>
                  cases full : response.isEmpty with
                  | true =>
                      simp only [returned, full, if_true] at readingMade sendingMade
                      exact
                        { reading := inTime readingMade
                          sending := idle sendingMade }
                  | false =>
                      have escapes := send_escapes transferFaults (frame response)
                        { line with passes := clock.sending }
                        (transfer_raisesOnly sending)
                      simp only [returned, full, Bool.false_eq_true, if_false]
                        at readingMade sendingMade untimed
                      cases sent : send (transferManner clock.sendDeadline)
                          transferFaults (frame response)
                          { line with passes := clock.sending } with
                      | mk result after =>
                          rw [sent] at readingMade sendingMade untimed escapes
                          cases result with
                          | error halt =>
                              exact
                                { reading := inTime readingMade
                                  sending := leavesSlice_of_escapes sending escapes
                                    sendingMade
                                    (fun same => untimed (by cases same; rfl)) }
                          | ok _ =>
                              exact
                                { reading := inTime readingMade
                                  sending := leavesSlice_of_escapes sending escapes
                                    sendingMade (fun same => by cases same) }

end Windows

/-! ### The other proxy -/

section Linux

variable {strerror : Nat → Bytes} {process : Process}

theorem linux_replies {handed : List Packet} {request response : Packet}
    (returned : process handed request = .ok response) :
    Replies (linuxClient strerror) process handed request :=
  ⟨response, returned, .inr rfl⟩

/-- What the loop hands on and sends when `process` raises at the first message,
or answers the only one. -/
theorem linux_first {stream tail : Packet} {bodies : List Packet} {closes : Bool}
    {passes : List (CallPass Unit)} {served : Served Unit}
    (facts : FramesServed (linuxClient strerror) process stream closes passes bodies
      tail served)
    (ends : served.ending ≠ .error .cut)
    (one : ∀ first second later, bodies = first :: second :: later →
      ∃ thrown, process [] first = .error thrown) :
    served.handed = bodies.take 1 ∧
      served.line.written = answers process [] (bodies.take 1) := by
  cases bodies with
  | nil =>
      obtain ⟨handed, written, _⟩ := facts.complete trivial ends
      exact ⟨handed, written⟩
  | cons first later =>
      have single : answers process [] ((first :: later).take 1) =
          answer process [] first :=
        List.append_nil _
      cases returned : process [] first with
      | error thrown =>
          obtain ⟨handed, written, _⟩ := facts.stopped [] first later thrown rfl trivial
            (.inl returned) ends
          rw [single, answer_of_error returned]
          exact ⟨handed, written⟩
      | ok response =>
          cases later with
          | nil =>
              obtain ⟨handed, written, _⟩ :=
                facts.complete ⟨linux_replies returned, trivial⟩ ends
              exact ⟨handed, written⟩
          | cons second others =>
              obtain ⟨thrown, raised⟩ := one first second others rfl
              cases returned.symm.trans raised

theorem linux_second {stream tail first second response : Packet}
    {later : List Packet} {closes : Bool} {passes : List (CallPass Unit)}
    {served : Served Unit}
    (facts : FramesServed (linuxClient strerror) process stream closes passes
      (first :: second :: later) tail served)
    (ends : served.ending ≠ .error .cut)
    (returned : process [] first = .ok response) : 2 ≤ served.handed.length := by
  rcases repliesAll_or_stops (linuxClient strerror) process []
    (first :: second :: later) with all | ⟨front, request, behind, thrown, split,
      replied, stops⟩
  · rw [(facts.complete all ends).1]
    exact Nat.le_add_left 2 _
  · rw [(facts.stopped front request behind thrown split replied stops ends).1]
    cases front with
    | nil =>
        rw [← (List.cons.inj split).1] at stops
        exact absurd (linux_replies returned) stops.not_replies
    | cons _ _ =>
        rw [List.length_append, List.length_cons, List.length_singleton]
        omega

end Linux

/-! ### The same answers -/

/-- Both proxies answer a connection alike exactly when the Windows one comes to
each `select` in time and no message follows one that is answered. -/
theorem localProxies_agree {strerror : Nat → Bytes}
    {route : List Packet → Packet → Except Thrown RouteResult} {exchange : Process}
    {stream : Packet} {closes : Bool} {linuxPasses : List (CallPass Unit)}
    {clock : ClientRecord}
    (runs : ClientRuns strerror (proxyProcess route exchange) stream closes linuxPasses
      clock) :
    AnswersAlike strerror (proxyProcess route exchange) stream closes linuxPasses
        clock ↔
      LeavesSlices clock ∧ OneMessage (proxyProcess route exchange) stream := by
  generalize proxyProcess route exchange = process at runs ⊢
  obtain ⟨bodies, tail, cut⟩ := exists_cut stream
  have facts := serve_frames (linuxClient strerror) process stream closes linuxPasses
    runs.linuxCalm (fun _ => rfl) ⟨_, rfl⟩ cut
  have answered (slices : LeavesSlices clock) : FirstAnswer process bodies
      (handleClient process clock stream closes) :=
    handleClient_first
      (fun pass member => transfer_calm (runs.reading pass member)
        (slices.reading pass member))
      (fun pass member => transfer_calm (runs.sending pass member)
        (slices.sending pass member))
      runs.windowsEnds cut
  constructor
  · intro alike
    have slices := handleClient_slices runs.reading runs.sending runs.readingMade
      runs.sendingMade alike.deadline
    refine ⟨slices, ?_⟩
    intro first second later tail' cut'
    cases returned : process [] first with
    | error thrown => exact ⟨thrown, rfl⟩
    | ok response =>
        have same := cut.unique cut'
        rw [same] at facts answered
        have more := linux_second facts runs.linuxEnds returned
        rw [← alike.handed, (answered slices).handed] at more
        exact absurd more (Nat.not_succ_le_self 1)
  · rintro ⟨slices, one⟩
    obtain ⟨handed, written⟩ := linux_first facts runs.linuxEnds
      (fun first second later same => one first second later tail (same ▸ cut))
    exact
      { handed := (answered slices).handed.trans handed.symm
        written := (answered slices).written.trans written.symm
        deadline := (answered slices).deadline }

def echoRoute : List Packet → Packet → Except Thrown RouteResult :=
  fun _ request => .ok { packet := request }

def echoProcess : Process :=
  proxyProcess echoRoute fun _ _ => .error (.exception [])

def clientPass (between : Nat) : CallPass SelectPass :=
  ⟨⟨0, between, .ready⟩, .moves 14⟩

def promptClient : ClientRecord :=
  { begins := 0
    answered := 0
    reading := [clientPass 0, clientPass 0]
    sending := [clientPass 0] }

theorem clientPass_ordinary {between deadline : Nat} (early : between < deadline) :
    SelectPass.ordinary deadline (clientPass between) :=
  ⟨early, Nat.succ_pos 13⟩

theorem promptClient_runs (queries : List Packet)
    (some : queries = [bareQuery] ∨ queries = [bareQuery, bareQuery]) :
    ClientRuns (fun _ => []) echoProcess (queries.flatMap frame) true
      (wholeReads () 9) promptClient := by
  have calm : Calm (linuxClient fun _ => []).manner (wholeReads () 9) := by
    intro pass member
    rw [List.eq_of_mem_replicate member]
    exact Nat.succ_pos 11
  have reading : ∀ pass ∈ promptClient.reading,
      SelectPass.ordinary promptClient.readDeadline pass := by
    intro pass member
    rw [List.eq_of_mem_replicate (n := 2) member]
    exact clientPass_ordinary (by decide)
  have sending : ∀ pass ∈ promptClient.sending,
      SelectPass.ordinary promptClient.sendDeadline pass := by
    intro pass member
    rw [List.mem_singleton.mp member]
    exact clientPass_ordinary (by decide)
  rcases some with rfl | rfl
  · exact
      { linuxCalm := calm
        linuxEnds := by decide +kernel
        reading := reading
        sending := sending
        windowsEnds := by decide +kernel
        readingMade := by rfl
        sendingMade := by rfl }
  · exact
      { linuxCalm := calm
        linuxEnds := by decide +kernel
        reading := reading
        sending := sending
        windowsEnds := by decide +kernel
        readingMade := by rfl
        sendingMade := by rfl }

theorem localProxies_agree_oneQuery :
    AnswersAlike (fun _ => []) echoProcess ([bareQuery].flatMap frame) true
        (wholeReads () 9) promptClient ↔
      LeavesSlices promptClient ∧
        OneMessage echoProcess ([bareQuery].flatMap frame) :=
  localProxies_agree (promptClient_runs [bareQuery] (.inl rfl))

/-- A tenth of a second passes between the reading for the left operand and the one for the
right operand, which the compiler has to take in this order. -/
def delayedClient : ClientRecord :=
  { begins := 0
    answered := 0
    reading := [clientPass (100 * nanosPerMilli)]
    sending := [] }

/-- The second of two queries gets an answer on Linux only; and a deadline may be
reported that is not reached. -/
theorem localProxies_disagree :
    ¬ (∀ (process : Process) (stream : Packet) (linuxPasses : List (CallPass Unit))
        (clock : ClientRecord),
      ClientRuns (fun _ => []) process stream true linuxPasses clock →
        AnswersAlike (fun _ => []) process stream true linuxPasses clock) ∧
    ClientRuns (fun _ => []) echoProcess (frame bareQuery) true (wholeReads () 9)
        delayedClient ∧
      (handleClient echoProcess delayedClient (frame bareQuery) true).ending =
        .connection (.raised (.error clientDeadline)) := by
  refine ⟨?_, ?_, by decide +kernel⟩
  · intro all
    have alike := all echoProcess ([bareQuery, bareQuery].flatMap frame)
      (wholeReads () 9) promptClient (promptClient_runs _ (.inr rfl))
    exact absurd (congrArg List.length alike.handed) (by decide +kernel)
  · exact
      { linuxCalm := by
          intro pass member
          rw [List.eq_of_mem_replicate member]
          exact Nat.succ_pos 11
        linuxEnds := by decide +kernel
        reading := by
          intro pass member
          rw [List.mem_singleton.mp member]
          exact clientPass_ordinary (by decide)
        sending := fun _ impossible => absurd impossible List.not_mem_nil
        windowsEnds := by decide +kernel
        readingMade := by rfl
        sendingMade := by rfl }

end NativeDNS
