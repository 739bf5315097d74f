/-
The transparent backend does not leak a query that the policy controls.
-/
import NativeDNS.Interception.Reinjection
import NativeDNS.Router.Policy

namespace NativeDNS

open ByteText (text)
open CheckedResult

section Pass

variable {backend : Backend} {queue : JobQueue} {packet : Packet}
variable {address : DivertAddress}

theorem overloadReply_ne {view : UdpView} {question : Question}
    {response : Packet} (viewed : udpView packet = .ok view)
    (query : ValidQuery (packet.drop view.payload) question)
    (made : overloadReply packet view = .ok response) : response ≠ packet := by
  simp only [overloadReply, bind_eq_ok] at made
  obtain ⟨reply, built, made⟩ := made
  apply makeInterceptedUdpResponse_ne viewed made
  intro same
  have isReply := syntheticResponse_isReply built
  rw [same] at isReply
  unfold IsReply at isReply
  rw [← (parseQuestion_eq_ok.mp query.1).flagsEq] at isReply
  exact isReply query.2

theorem offer_withholds {view : UdpView} {question : Question}
    (viewed : udpView packet = .ok view)
    (query : ValidQuery (packet.drop view.payload) question) :
    (packet, address) ∉ (offer backend queue packet address view).sent := by
  unfold offer
  split
  · exact List.not_mem_nil
  · cases made : overloadReply packet view with
    | error error =>
        dsimp only
        unfold catchPass
        split
        · exact List.not_mem_nil
        · exact List.not_mem_nil
    | ok response =>
        intro sent
        have same := List.mem_singleton.mp sent
        exact overloadReply_ne viewed query made (Prod.mk.inj same).1.symm

theorem receivePass_mayPass
    (sent : (packet, address) ∈ (receivePass backend queue packet address).sent) :
    MayPass backend packet address := by
  have planned := planPacket_planned backend packet address
  unfold receivePass at sent
  cases plan : planPacket backend packet address with
  | error raised =>
      rw [plan] at sent
      dsimp only at sent
      unfold catchPass at sent
      split at sent
      · cases sent
      · split at sent
        · cases sent
        · rename_i unselected
          exact planned.raised raised plan (Bool.not_eq_true _ ▸ unselected)
  | ok handling =>
      rw [plan] at sent
      cases handling with
      | injects sentPacket sentAddress =>
          have same := List.mem_singleton.mp sent
          obtain ⟨rfl, rfl⟩ := Prod.mk.inj same
          exact planned.injects plan
      | ignores =>
          cases sent
      | offers view =>
          obtain ⟨viewed, question, query⟩ := planned.offers view plan
          exact absurd sent (offer_withholds viewed query)

theorem receivePass_queue {job : Job}
    (member : job ∈ (receivePass backend queue packet address).queue.jobs) :
    job ∈ queue.jobs ∨
      job =
        { packet := packet
          address := address
          snapshot := backend.snapshot } := by
  have caught : ∀ {raised : Raised},
      job ∈ (catchPass backend queue packet address raised).queue.jobs →
      job ∈ queue.jobs := by
    intro raised inQueue
    unfold catchPass at inQueue
    split at inQueue
    · exact inQueue
    · split at inQueue
      · exact inQueue
      · exact inQueue
  unfold receivePass at member
  cases plan : planPacket backend packet address with
  | error raised =>
      rw [plan] at member
      exact Or.inl (caught member)
  | ok handling =>
      rw [plan] at member
      cases handling with
      | injects sentPacket sentAddress =>
          exact Or.inl member
      | ignores =>
          exact Or.inl member
      | offers view =>
          dsimp only at member
          unfold offer at member
          split at member
          · rcases List.mem_append.mp member with earlier | last
            · exact Or.inl earlier
            · exact Or.inr (List.mem_singleton.mp last)
          · split at member
            · exact Or.inl member
            · exact Or.inl (caught member)

end Pass

theorem process_policyPasses {around : Surroundings}
    {exchanged : Demand → Except Thrown Reply} {running : Bool} {job : Job}
    (handed : process around exchanged running job =
      .ok (some (job.packet, job.address))) :
    ∃ view decision rule, udpView job.packet = .ok view ∧
      PolicyPasses job.snapshot.config around.network
        (job.packet.drop view.payload) decision rule := by
  unfold process at handed
  cases viewed : udpView job.packet with
  | error error =>
      rw [viewed] at handed
      cases handed
  | ok view =>
      rw [viewed] at handed
      dsimp only at handed
      cases returned : route job.snapshot around exchanged
          (job.packet.drop view.payload)
          (jobOriginal job.snapshot.platform job view) with
      | error thrown =>
          rw [returned] at handed
          cases handed
      | ok routed =>
          rw [returned] at handed
          have ends := route_ends returned
          cases running with
          | false =>
              cases handed
          | true =>
              dsimp only at handed
              rw [if_neg (by decide)] at handed
              cases answer : answerJob job (job.packet.drop view.payload)
                  routed with
              | error error =>
                  rw [answer] at handed
                  cases handed
              | ok injected =>
                  rw [answer] at handed
                  cases handed
                  unfold answerJob at answer
                  split at answer
                  · rename_i forwarded
                    obtain ⟨decision, rule, passes⟩ := ends.forwarded forwarded
                    exact ⟨view, decision, rule, rfl, passes⟩
                  · rename_i notForwarded
                    split at answer
                    · cases answer
                    · rename_i audible
                      have reply : routed.disposition = .reply := by
                        cases disposition : routed.disposition with
                        | reply => rfl
                        | forwardOriginal => exact absurd disposition notForwarded
                        | silentDrop => exact absurd (Or.inl disposition) audible
                      simp only [bind_eq_ok, pure_eq_ok] at answer
                      obtain ⟨fitted, fits, response, made, built⟩ := answer
                      have same : response = job.packet :=
                        (Prod.mk.inj (Option.some.inj (Except.ok.inj built))).1
                      refine absurd same
                        (makeInterceptedUdpResponse_ne viewed made ?_)
                      intro isQuery
                      have fittedReply :=
                        fitUdpResponse_isReply (ends.replied reply) fits
                      rw [isQuery] at fittedReply
                      exact fitUdpResponse_query fits fittedReply

/-- What a pass over a captured packet, and a worker on any job, hand back to
the driver. -/
structure Contained (backend : Backend) (queue : JobQueue) (packet : Packet)
    (address : DivertAddress) : Prop where
  udp : isTcpPacket packet ≠ .ok true →
    (packet, address) ∈ (receivePass backend queue packet address).sent →
    UdpPasses backend packet
  tcp : isTcpPacket packet = .ok true → address.outbound = true →
    (packet, address) ∈ (receivePass backend queue packet address).sent →
    TcpPasses backend packet
  queued : ∀ job ∈ (receivePass backend queue packet address).queue.jobs,
    job ∈ queue.jobs ∨
      job =
        { packet := packet
          address := address
          snapshot := backend.snapshot }
  worker : ∀ around exchanged running (job : Job),
    process around exchanged running job =
      .ok (some (job.packet, job.address)) →
    ∃ view decision rule, udpView job.packet = .ok view ∧
      PolicyPasses job.snapshot.config around.network
        (job.packet.drop view.payload) decision rule
  withheld : ∀ view decision rule, isTcpPacket packet ≠ .ok true →
    udpView packet = .ok view →
    backend.upstream false (wordAt packet view.udp) view.ipv6 = false →
    PolicyControls backend.snapshot.config backend.network
      (packet.drop view.payload) decision rule →
    (packet, address) ∉ (receivePass backend queue packet address).sent
  workerWithheld : ∀ around exchanged running (job : Job) view decision rule,
    udpView job.packet = .ok view →
    PolicyControls job.snapshot.config around.network
      (job.packet.drop view.payload) decision rule →
    process around exchanged running job ≠
      .ok (some (job.packet, job.address))

/-- No captured packet is handed back unless its view, the registry of upstream
sockets or the policy allows it. -/
theorem reinjection_contained (backend : Backend) (queue : JobQueue)
    (packet : Packet) (address : DivertAddress) :
    Contained backend queue packet address where
  udp := fun notTcp sent => (receivePass_mayPass sent).udp notTcp
  tcp := fun isTcp outbound sent =>
    (receivePass_mayPass sent).tcp isTcp outbound
  queued := fun _ member => receivePass_queue member
  worker := fun _ _ _ _ handed => process_policyPasses handed
  withheld := by
    intro view decision rule notTcp viewed unregistered controls sent
    cases (receivePass_mayPass sent).udp notTcp with
    | rejected rejected =>
        rw [viewed] at rejected
        cases rejected
    | upstream viewed' registered =>
        rw [viewed] at viewed'
        cases viewed'
        rw [unregistered] at registered
        cases registered
    | policy viewed' passes =>
        rw [viewed] at viewed'
        cases viewed'
        exact controls.not_passes passes
  workerWithheld := by
    intro around exchanged running job view decision rule viewed controls handed
    obtain ⟨view', _, _, viewed', passes⟩ := process_policyPasses handed
    rw [viewed] at viewed'
    cases viewed'
    exact controls.not_passes passes

/-! ### The captive-portal exception -/

/-- A Default rule for a configured server, with captive-portal detection. -/
def portalConfig : Config :=
  { groupConfig 10 with
    settings := OrderedMap.empty.insert (text "captivePortalDetection")
      (text "1") }

def portalNetwork : NetworkSnapshot :=
  { interfaces :=
      [{ id := text "a"
         up := true
         captivePortal := true }] }

/-- A driver that accepts everything, and no registered socket. -/
def portalBackend : Backend where
  snapshot :=
    { platform := ipv4Platform
      config := portalConfig
      options := { captivePortalDetection := true } }
  network := portalNetwork
  upstream := fun _ _ _ => false
  interceptedTcpPort := 53
  tcpProxyPort := 40000
  send := fun _ _ => .complete
  expectConnection := fun _ _ => .ok ()
  calcChecksums := fun packet =>
    some
      { packet := packet
        ip := true
        tcp := true
        udp := true }

/-- The query for `a` in an IPv4 datagram to 10.0.0.53. -/
def capturedQuery : Packet :=
  [0x45, 0, 0, 47, 0, 0, 0, 0, 64, 17, 0, 0, 10, 0, 0, 2, 10, 0, 0, 53] ++
    [192, 0, 0, 53, 0, 27, 0, 0] ++ plainQuery

/-- Behind a portal, a query whose rule names a configured server goes to its
original resolver. -/
theorem reinjection_passes_portal :
    validate ipv4Platform portalConfig = .ok () ∧
      runtimeOptions portalConfig = .ok portalBackend.snapshot.options ∧
      ∃ view question decision rule,
        udpView capturedQuery = .ok view ∧
        ValidQuery (capturedQuery.drop view.payload) question ∧
        evaluateRule portalConfig question.name portalNetwork =
          .ok decision ∧
        decision.rule = some rule ∧ rule.action = .process ∧
        rule.serverId = 10 ∧
        (capturedQuery, ({} : DivertAddress)) ∈
          (receivePass portalBackend {} capturedQuery {}).sent := by
  refine ⟨by rfl, by rfl, _, _, _, _, rfl, ⟨rfl, by decide⟩, rfl, rfl, rfl, rfl,
    ?_⟩
  decide +kernel

end NativeDNS
