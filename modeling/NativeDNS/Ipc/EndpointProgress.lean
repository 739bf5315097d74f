/-
An endpoint whose clients all are of the core, and go on.

Any number of them share sixteen workers, and every send may have to wait until its line
has been read.  They do not keep one another waiting for ever: a connection that holds a
worker needs nobody but its own client, and ends.
-/
import NativeDNS.Ipc.SessionProgress
import NativeDNS.Library.Lists

namespace NativeDNS

open CheckedResult

def IpcClient.request : IpcClient → Option IpcRequest
  | .pipe request _ => some request
  | .foreign => none

def IpcEvent.requested : IpcEvent → Option IpcRequest
  | .connect client => client
  | .act _ _ => none

/-- One step of an endpoint whose clients are of the core and, like its workers, go on,
over lines of `room` bytes. -/
def PipeServer.proceed (platform : IpcPlatform) (room : Nat) (server : PipeServer) :
    IpcEvent → Option PipeServer
  | .connect none => none
  | .connect (some request) => do
      guard request.Legal
      server.perform platform (.connect (some request))
  | .act index action => do
      let c ← server.connections[index]?
      guard (c.Calm room action)
      server.perform platform (.act index action)

def PipeServer.effort (server : PipeServer) : Nat :=
  (server.connections.map IpcConnection.effort).sum

/-- An endpoint that has come to these requests without being interrupted. -/
structure PipeServer.Lively (platform : IpcPlatform) (requests : List IpcRequest)
    (server : PipeServer) : Prop where
  connections : ∀ c ∈ server.connections, ∃ request : IpcRequest,
    request.Legal ∧ c.Lively platform request
  requested : server.connections.filterMap (fun c => c.client.request) = requests

/-- The request of a connection has come back with what its one call of the handler came
to, and its worker is free. -/
def IpcConnection.Answered (c : IpcConnection) : Prop :=
  c.server = .closed ∧ ∃ request result,
    c.client = .pipe request (.returned (respond result)) ∧
      c.calls = [{ operation := request.operation, payload := request.payload }] ∧
        c.answers = [result]

section

variable {platform : IpcPlatform} {room : Nat}

theorem IpcConnection.perform_request {c after : IpcConnection} {action : IpcAction}
    (moved : c.perform platform action = some after) :
    after.client.request = c.client.request := by
  cases action with
  | clientSend count =>
      change c.clientSend count = some after at moved
      unfold IpcConnection.clientSend at moved
      split at moved
      · rename_i sending
        obtain ⟨_, _, same⟩ := Option.bind_eq_some_iff.mp moved
        cases same
        rw [sending]
        rfl
      · cases moved
  | clientReceive count =>
      change c.clientReceive count = some after at moved
      unfold IpcConnection.clientReceive at moved
      split at moved
      · rename_i reading
        obtain ⟨_, _, same⟩ := Option.bind_eq_some_iff.mp moved
        cases same
        rw [reading]
        rfl
      · rename_i reading
        obtain ⟨_, _, same⟩ := Option.bind_eq_some_iff.mp moved
        cases same
        rw [reading]
        rfl
      · cases moved
  | clientFail =>
      change c.clientFail = some after at moved
      unfold IpcConnection.clientFail at moved
      split at moved
      · cases moved
      · cases moved
      · rename_i here
        cases moved
        rw [here]
        rfl
      · cases moved
  | foreignSend bytes =>
      change c.foreignSend bytes = some after at moved
      unfold IpcConnection.foreignSend at moved
      split at moved
      · cases moved
        rfl
      · cases moved
  | accept =>
      change c.accept = some after at moved
      unfold IpcConnection.accept at moved
      split at moved
      · cases moved
        rfl
      · cases moved
  | serverReceive count =>
      change c.serverReceive count = some after at moved
      unfold IpcConnection.serverReceive at moved
      split at moved
      · obtain ⟨_, _, same⟩ := Option.bind_eq_some_iff.mp moved
        cases same
        split
        · unfold IpcConnection.headerRead
          split
          · split
            · rfl
            · rfl
          · rfl
        · rfl
      · obtain ⟨_, _, same⟩ := Option.bind_eq_some_iff.mp moved
        cases same
        split
        · rfl
        · rfl
      · cases moved
  | answer result =>
      change c.answer platform result = some after at moved
      unfold IpcConnection.answer at moved
      split at moved
      · cases moved
        rfl
      · cases moved
  | serverSend count =>
      change c.serverSend count = some after at moved
      unfold IpcConnection.serverSend at moved
      split at moved
      · obtain ⟨_, _, same⟩ := Option.bind_eq_some_iff.mp moved
        cases same
        rfl
      · cases moved
  | close discards =>
      change c.close discards = some after at moved
      unfold IpcConnection.close at moved
      split at moved
      · cases moved
      · cases moved
      · cases moved
        rfl

theorem IpcConnection.open_request (platform : IpcPlatform) (request : IpcRequest) :
    (IpcConnection.open platform request).client.request = some request := by
  unfold IpcConnection.open
  split
  · rfl
  · rfl

/-! ### One step -/

theorem PipeServer.proceed_act {server after : PipeServer} {index : Nat} {action : IpcAction}
    (moved : server.proceed platform room (.act index action) = some after) :
    ∃ c changed, server.connections[index]? = some c ∧ c.Calm room action ∧
      c.perform platform action = some changed ∧
        after = { connections := server.connections.set index changed } := by
  simp only [PipeServer.proceed, PipeServer.perform, Option.bind_eq_bind,
    Option.bind_eq_some_iff, Option.guard_eq_some', Option.pure_def,
    Option.some.injEq] at moved
  obtain ⟨c, found, _, calm, again, foundAgain, _, _, changed, performed, same⟩ := moved
  cases found.symm.trans foundAgain
  exact ⟨c, changed, found, calm, performed, same.symm⟩

/-- A step keeps an endpoint lively, and uses up what is left to be done; a client that
connects adds its request. -/
theorem PipeServer.Lively.proceed {server after : PipeServer} {requests : List IpcRequest}
    {event : IpcEvent} (lively : server.Lively platform requests)
    (moved : server.proceed platform room event = some after) :
    after.Lively platform (requests ++ event.requested.toList) ∧
      after.effort + 1 ≤ server.effort + requestSteps * event.requested.toList.length := by
  cases event with
  | connect client =>
      cases client with
      | none =>
          cases moved
      | some request =>
          simp only [PipeServer.proceed, PipeServer.perform, Option.bind_eq_bind,
            Option.bind_eq_some_iff, Option.guard_eq_some', Option.some.injEq] at moved
          obtain ⟨_, legal, same⟩ := moved
          cases same
          obtain ⟨opened, steps⟩ := legal.opened platform
          constructor
          · refine
              { connections := List.forall_mem_append.mpr
                  ⟨lively.connections, List.forall_mem_singleton.mpr ⟨request, legal, opened⟩⟩
                requested := ?_ }
            rw [List.filterMap_append, lively.requested, List.filterMap_cons,
              IpcConnection.open_request]
            rfl
          · unfold PipeServer.effort
            rw [List.map_append, List.sum_append, List.map_singleton, List.sum_singleton]
            simp only [IpcEvent.requested, Option.toList_some, List.length_singleton]
            omega
  | act index action =>
      obtain ⟨c, changed, found, calm, performed, same⟩ := PipeServer.proceed_act moved
      cases same
      obtain ⟨request, legal, alive⟩ := lively.connections c (List.mem_of_getElem? found)
      constructor
      · refine { connections := ?_, requested := ?_ }
        · intro other member
          rcases List.mem_or_eq_of_mem_set member with old | new
          · exact lively.connections other old
          · exact ⟨request, legal, new ▸ alive.perform legal calm performed⟩
        · rw [Lists.filterMap_set_eq found (IpcConnection.perform_request performed),
            lively.requested]
          exact (List.append_nil requests).symm
      · have less := IpcConnection.perform_effort calm performed
        have sums := Lists.sum_map_set IpcConnection.effort found changed
        unfold PipeServer.effort
        simp only [IpcEvent.requested, Option.toList_none, List.length_nil]
        omega

theorem PipeServer.Lively.run {events : List IpcEvent} {server after : PipeServer}
    {requests : List IpcRequest} (lively : server.Lively platform requests)
    (ran : Transition.performAll (PipeServer.proceed platform room) server events =
      some after) :
    after.Lively platform (requests ++ events.filterMap IpcEvent.requested) ∧
      events.length + after.effort ≤
        server.effort + requestSteps * (events.filterMap IpcEvent.requested).length := by
  induction events generalizing server requests with
  | nil =>
      cases ran
      rw [List.filterMap_nil, List.append_nil, List.length_nil, List.length_nil]
      exact ⟨lively, by omega⟩
  | cons event rest ih =>
      obtain ⟨middle, moved, ran⟩ := Option.bind_eq_some_iff.mp ran
      obtain ⟨kept, less⟩ := lively.proceed moved
      obtain ⟨ends, bound⟩ := ih kept ran
      have first : (event :: rest).filterMap IpcEvent.requested =
          event.requested.toList ++ rest.filterMap IpcEvent.requested := by
        rw [List.filterMap_cons]
        cases event.requested with
        | none =>
            rfl
        | some request =>
            rfl
      rw [first, ← List.append_assoc, List.length_append, Nat.mul_add, List.length_cons]
      exact ⟨ends, by omega⟩

/-! ### Nobody waits for ever -/

theorem PipeServer.proceed_of {server : PipeServer} {index : Nat} {c : IpcConnection}
    {action : IpcAction} (found : server.connections[index]? = some c)
    (calm : c.Calm room action) (possible : (c.perform platform action).isSome = true)
    (admitted : action ≠ .accept ∨ server.busy < maxWorkers) :
    (server.proceed platform room (.act index action)).isSome = true := by
  obtain ⟨changed, performed⟩ := Option.isSome_iff_exists.mp possible
  have moves : server.proceed platform room (.act index action) =
      some { connections := server.connections.set index changed } := by
    simp only [PipeServer.proceed, PipeServer.perform, Option.bind_eq_bind,
      Option.bind_eq_some_iff, Option.guard_eq_some', Option.pure_def, Option.some.injEq]
    exact ⟨c, found, (), calm, c, found, (), admitted, changed, performed, rfl⟩
  rw [moves]
  rfl

theorem PipeServer.Lively.goes_on {server : PipeServer} {requests : List IpcRequest}
    (lively : server.Lively platform requests) (positive : 0 < room) :
    (∃ index action, (server.proceed platform room (.act index action)).isSome = true) ∨
      ∀ c ∈ server.connections, c.Answered := by
  by_cases some : ∃ c ∈ server.connections, c.Moves platform room
  · obtain ⟨c, listed, action, other, calm, possible⟩ := some
    obtain ⟨index, found⟩ := List.getElem?_of_mem listed
    exact .inl ⟨index, action, PipeServer.proceed_of found calm possible (.inl other)⟩
  have rests : ∀ c ∈ server.connections, c.server = .waiting ∨ c.Answered := by
    intro c listed
    obtain ⟨request, _, alive⟩ := lively.connections c listed
    rcases alive.moves positive with moves | waits | ⟨closed, response, returned⟩
    · exact absurd ⟨c, listed, moves⟩ some
    · exact .inl waits
    · obtain ⟨calls, result, answers, same, _⟩ := alive.sound.returned returned
      exact .inr ⟨closed, request, result, same ▸ returned, calls, answers⟩
  by_cases waiting : ∃ c ∈ server.connections, c.server = .waiting
  · -- nobody who can go on, so that nobody holds a worker
    obtain ⟨c, listed, waits⟩ := waiting
    obtain ⟨index, found⟩ := List.getElem?_of_mem listed
    have free : server.busy = 0 := by
      refine List.countP_eq_zero.mpr fun other among busy => ?_
      rcases rests other among with idle | ⟨closed, _⟩
      · rw [idle] at busy
        cases busy
      · rw [closed] at busy
        cases busy
    refine .inl ⟨index, .accept, PipeServer.proceed_of found trivial ?_ (.inr ?_)⟩
    · simp only [IpcConnection.perform, IpcConnection.accept, waits]
      rfl
    · rw [free]
      exact Nat.zero_lt_succ 15
  · refine .inr fun c listed => (rests c listed).resolve_left fun waits => ?_
    exact waiting ⟨c, listed, waits⟩

end

/-- Requests that nobody interrupts do not deadlock and do not go on for ever, however many
they are, however little a line takes and however their bytes are cut: after a bounded
number of steps nothing is left to be done, and then every request has returned the answer
of the one call it was made for, and all workers are free. -/
theorem pipeServer_completes (platform : IpcPlatform) (room : Nat) (positive : 0 < room)
    (events : List IpcEvent) (server : PipeServer)
    (ran : Transition.performAll (PipeServer.proceed platform room) {} events = some server) :
    server.connections.filterMap (fun c => c.client.request) =
        events.filterMap IpcEvent.requested ∧
      events.length ≤ requestSteps * (events.filterMap IpcEvent.requested).length ∧
      ((∃ index action, (server.proceed platform room (.act index action)).isSome = true) ∨
        ∀ c ∈ server.connections, c.Answered) := by
  have begins : PipeServer.Lively platform [] {} :=
    { connections := fun _ member => absurd member List.not_mem_nil
      requested := rfl }
  obtain ⟨lively, bound⟩ := begins.run ran
  rw [List.nil_append] at lively
  have nothing : PipeServer.effort {} = 0 := rfl
  exact ⟨lively.requested, by omega, lively.goes_on positive⟩

def narrowPings : List IpcEvent :=
  [.connect (some { operation := 1, request := 7, payload := [] }),
    .connect (some { operation := 1, request := 8, payload := [] }),
    .act 0 (.clientSend 7), .act 1 (.clientSend 7), .act 1 .accept, .act 0 .accept,
    .act 0 (.serverReceive 5), .act 0 (.clientSend 5), .act 0 (.serverReceive 7),
    .act 0 (.clientSend 7), .act 0 (.serverReceive 7), .act 0 (.clientSend 1),
    .act 0 (.serverReceive 1), .act 0 (.answer (.ok { payload := [112] })),
    .act 0 (.serverSend 7)]

theorem pipeServer_completes_narrow :
    ∃ server, Transition.performAll (PipeServer.proceed .linux 7) {} narrowPings = some server ∧
      (∃ index action, (server.proceed .linux 7 (.act index action)).isSome = true) ∧
      (server.proceed .linux 7 (.act 0 (.serverSend 1))).isSome = false := by
  have runs : ((Transition.performAll (PipeServer.proceed .linux 7) {} narrowPings).map
      fun server => (server.connections.all fun c => c.client.done,
        (server.proceed .linux 7 (.act 0 (.serverSend 1))).isSome)) = some (false, false) := by
    decide +kernel
  obtain ⟨server, ran, both⟩ := Option.map_eq_some_iff.mp runs
  obtain ⟨undone, blocked⟩ := Prod.mk.inj both
  obtain ⟨_, _, goes | answered⟩ :=
    pipeServer_completes .linux 7 (by decide) narrowPings server ran
  · exact ⟨server, ran, goes, blocked⟩
  · refine absurd (List.all_eq_true.mpr fun c listed => ?_) (Bool.eq_false_iff.mp undone)
    obtain ⟨_, request, result, client, _⟩ := answered c listed
    rw [client]
    rfl

end NativeDNS
