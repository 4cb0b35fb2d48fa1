import RemoteInfra.Library.Ledger
import RemoteInfra.Vehicle.Agent

/-!
# Delivery of the safety audit events

The agent's runs with a ledger of the audit events: which are still queued, which the audit loop
holds, which the gateway has accepted, and under which session each was posted.
-/

namespace RemoteInfra.Vehicle

open RemoteInfra.Library RemoteInfra.Python

/-- An exception gets past the audit loop's handler. -/
def HTTPOutcome.escapes : HTTPOutcome → Bool
  | .raised e => !clientError e
  | .answered _ _ => false

/-- The id of the loaded session, as a report gives it. -/
def SessionCommandVerifier.loadedID (v : SessionCommandVerifier) : PyValue :=
  match v.session with
  | some session => session.sessionID
  | none => .str []

/-- An event, and the id of the session that was loaded when it was queued. -/
structure QueuedEvent where
  event : AuditEvent
  sessionID : PyValue

structure AuditHistory where
  ledger : Ledger QueuedEvent
  /-- every event posted so far, with the session id it was posted with -/
  sent : List (Numbered QueuedEvent × PyValue)

namespace AuditHistory

def new : AuditHistory := ⟨.empty, []⟩

/-- What became of the queue when `r` turned into `r'`. -/
def observe (m : AuditHistory) (r r' : SessionVehicleRuntime) : AuditHistory :=
  { m with
    ledger := m.ledger.enqueue
      ((r'.auditEvents.drop r.auditEvents.length).map (⟨·, r'.verifier.loadedID⟩)) }

/-- The first event held is posted. -/
def post (m : AuditHistory) (sessionID : PyValue) : AuditHistory :=
  { m with sent := m.sent ++ (m.ledger.held.head?.map (·, sessionID)).toList }

def record [PythonPlatform] [Ed25519] (m : AuditHistory) (st : AgentState) :
    AgentLabel → AuditHistory
  | .message rawMessage senderIdentity =>
      m.observe st.runtime
        (st.runtime.onDatachannelMessage rawMessage senderIdentity st.nowMS st.monotonic).1
  | .watchdogWakes =>
      if st.runtime.running then
        m.observe st.runtime (st.runtime.watchdogRound 300 st.monotonic)
      else m
  | .auditWakes => { m with ledger := m.ledger.take }.post st.runtime.verifier.loadedID
  | .auditPosted outcome =>
      let settled := { m with ledger := m.ledger.settle outcome.accepted }
      if outcome.escapes then { settled with ledger := settled.ledger.abandon }
      else settled.post st.runtime.verifier.loadedID
  | .gatherEnds | .agentCancelled => { m with ledger := m.ledger.abandon }
  | _ => m

end AuditHistory

def auditSystem [PythonPlatform] [Ed25519] :
    TransitionSystem (AgentState × AuditHistory) AgentLabel :=
  agentSystem.remember (fun _ ↦ .new) AuditHistory.record

/-- Every event ever queued is still queued, held by the audit loop or accepted; none is
accepted twice; and each was posted with the session under which it was queued. -/
structure AuditHistory.Intact (m : AuditHistory) : Prop where
  kept : m.ledger.Kept
  once : m.ledger.delivered.Nodup
  attributed : ∀ p ∈ m.sent, p.2 = p.1.item.sessionID

/-- Asked of every step: a post that starts finds the session loaded under which its event was
queued, a post that ends has been accepted, and the agent is not shut down over a batch. -/
def DeliversAudits : TransitionSystem.StepCondition (AgentState × AuditHistory) AgentLabel
  | _, (st, m), .auditWakes =>
      ∀ t ∈ m.ledger.waiting.head?, st.runtime.verifier.loadedID = t.item.sessionID
  | _, (st, m), .auditPosted outcome =>
      outcome.accepted = true ∧
        ∀ t ∈ m.ledger.held.tail.head?, st.runtime.verifier.loadedID = t.item.sessionID
  | _, (_, m), .gatherEnds => m.ledger.held = []
  | _, (_, m), .agentCancelled => m.ledger.held = []
  | _, _, _ => True

/-! ## The ledger follows the agent -/

/-- The events of the batch that the audit loop is posting. -/
def AgentState.heldEvents (st : AgentState) : List AuditEvent :=
  match st.audit with
  | .pending (.posting event _ rest) => event :: rest
  | _ => []

structure AuditTracked (st : AgentState) (m : AuditHistory) : Prop where
  ordered : m.ledger.Ordered
  waiting_eq : m.ledger.waiting.map (·.item.event) = st.runtime.auditEvents
  held_eq : m.ledger.held.map (·.item.event) = st.heldEvents
  posting : ∀ event sessionID rest, st.audit = .pending (.posting event sessionID rest) →
    m.sent.getLast?.map (fun p ↦ (p.1.item.event, p.2)) = some (event, sessionID)

namespace SessionVehicleRuntime

theorem queueAuditEvent_extends {r : SessionVehicleRuntime} {events : List AuditEvent}
    (h : r.auditEvents = events) (event reason : String) (monotonic : ℚ) :
    events <+: (r.queueAuditEvent event reason monotonic).auditEvents := by
  subst h
  unfold queueAuditEvent
  split
  · exact List.prefix_rfl
  · exact List.prefix_append _ _

theorem watchdogRound_extends (r : SessionVehicleRuntime) (timeoutMS monotonic : ℚ) :
    r.auditEvents <+: (r.watchdogRound timeoutMS monotonic).auditEvents := by
  simp only [watchdogRound]
  split_ifs
  · exact List.prefix_rfl
  · apply queueAuditEvent_extends
    rfl
  · exact List.prefix_rfl

theorem handlePacket_extends [PythonPlatform] (r : SessionVehicleRuntime) (packet : PyValue)
    (nowMS : ℤ) (monotonic : ℚ) :
    r.auditEvents <+: (r.handlePacket packet nowMS monotonic).1.auditEvents := by
  unfold handlePacket
  split
  · exact List.prefix_rfl
  · dsimp only
    split
    · exact List.prefix_rfl
    · split
      · exact List.prefix_rfl
      · split_ifs
        · apply queueAuditEvent_extends
          rfl
        · exact List.prefix_rfl

theorem onDatachannelMessage_extends [PythonPlatform] [Ed25519] (r : SessionVehicleRuntime)
    (rawMessage senderIdentity : PyStr) (nowMS : ℤ) (monotonic : ℚ) :
    r.auditEvents <+:
      (r.onDatachannelMessage rawMessage senderIdentity nowMS monotonic).1.auditEvents := by
  unfold onDatachannelMessage
  split
  · exact List.prefix_rfl
  · apply queueAuditEvent_extends
    rfl
  · rename_i v packet _
    exact handlePacket_extends { r with verifier := v } packet nowMS monotonic

@[simp] theorem takeTelemetry_auditEvents (r : SessionVehicleRuntime) :
    r.takeTelemetry.2.auditEvents = r.auditEvents := by
  unfold takeTelemetry
  split <;> rfl

end SessionVehicleRuntime

/-- A queue that grew is followed, whatever else happened. -/
theorem AuditTracked.observe {st st' : AgentState} {m : AuditHistory} (h : AuditTracked st m)
    (hextends : st.runtime.auditEvents <+: st'.runtime.auditEvents) (haudit : st'.audit = st.audit) :
    AuditTracked st' (m.observe st.runtime st'.runtime) := by
  obtain ⟨events, hevents⟩ := hextends
  constructor
  · exact h.ordered.enqueue _
  · have hnew := Ledger.map_item_numbered m.ledger.queued.length
      (events.map fun event ↦ (⟨event, st'.runtime.verifier.loadedID⟩ : QueuedEvent))
    simp only [AuditHistory.observe, Ledger.enqueue, ← hevents, List.drop_left, List.map_append,
      h.waiting_eq]
    congr 1
    calc
      _ = ((Ledger.numbered m.ledger.queued.length (events.map fun event ↦
            (⟨event, st'.runtime.verifier.loadedID⟩ : QueuedEvent))).map Numbered.item).map
            QueuedEvent.event := by rw [List.map_map]; rfl
      _ = events := by
        rw [hnew, List.map_map]
        exact List.map_id' events
  · rw [AgentState.heldEvents, haudit]
    exact h.held_eq
  · rw [haudit]
    exact h.posting

/-- Nothing is held by a loop that is not posting. -/
theorem AuditTracked.held_eq_nil {st : AgentState} {m : AuditHistory} (h : AuditTracked st m)
    (hnot : st.heldEvents = []) : m.ledger.held = [] :=
  List.map_eq_nil_iff.mp (h.held_eq.trans hnot)

/-- The loop goes on with the events that are held now. -/
theorem AuditTracked.post (st : AgentState) {m : AuditHistory} (hordered : m.ledger.Ordered)
    (hwaiting : m.ledger.waiting.map (·.item.event) = st.runtime.auditEvents)
    {st' : AgentState} {events : List AuditEvent} (hruntime : st'.runtime = st.runtime)
    (haudit : st'.audit = st.postEvents events)
    (hheld : m.ledger.held.map (·.item.event) = events) :
    AuditTracked st' (m.post st.runtime.verifier.loadedID) := by
  constructor
  · exact hordered
  · rw [hruntime]
    exact hwaiting
  · rw [AgentState.heldEvents, haudit]
    cases events with
    | nil =>
        rw [AgentState.postEvents, AgentState.whileRunning]
        split_ifs <;> exact hheld
    | cons event rest => exact hheld
  · intro event sessionID rest hposting
    rw [haudit] at hposting
    cases events with
    | nil =>
        rw [AgentState.postEvents, AgentState.whileRunning] at hposting
        split_ifs at hposting
        cases hposting
    | cons first others =>
        obtain ⟨t, ts, hcons, hfirst, -⟩ := List.map_eq_cons_iff.mp hheld
        obtain ⟨rfl, rfl, rfl⟩ := AuditLoop.posting.inj (Coroutine.pending.inj hposting)
        simp [AuditHistory.post, hcons, hfirst]
        rfl

/-- Nothing is queued, and the audit loop stays where it is. -/
theorem AuditTracked.of_eq {st st' : AgentState} {m : AuditHistory} (h : AuditTracked st m)
    (hevents : st'.runtime.auditEvents = st.runtime.auditEvents) (haudit : st'.audit = st.audit) :
    AuditTracked st' m := by
  constructor
  · exact h.ordered
  · rw [hevents]
    exact h.waiting_eq
  · rw [AgentState.heldEvents, haudit]
    exact h.held_eq
  · rw [haudit]
    exact h.posting

/-- The audit loop has come to an end, whatever it held. -/
theorem AuditTracked.abandon (st : AgentState) {st' : AgentState} {m : AuditHistory}
    (hordered : m.ledger.Ordered)
    (hwaiting : m.ledger.waiting.map (·.item.event) = st.runtime.auditEvents)
    (hevents : st'.runtime.auditEvents = st.runtime.auditEvents)
    (haudit : ∀ loc, st'.audit ≠ .pending loc) :
    AuditTracked st' { m with ledger := m.ledger.abandon } := by
  constructor
  · exact hordered.abandon
  · rw [hevents]
    exact hwaiting
  · rw [AgentState.heldEvents]
    split
    · rename_i hposting
      exact absurd hposting (haudit _)
    · rfl
  · intro event sessionID rest hposting
    exact absurd hposting (haudit _)

theorem not_pending_cancel {Exc Loc : Type} (task : Coroutine Exc Loc) (loc : Loc) :
    task.cancel ≠ .pending loc := by
  cases task <;> simp [Coroutine.cancel]

theorem not_pending_of_escapes {Loc : Type} {outcome : HTTPOutcome}
    (h : outcome.escapes = true) (next : AgentTask Loc) (loc : Loc) :
    Coroutine.contain clientError (HTTPOutcome.result outcome) next ≠ .pending loc := by
  cases outcome with
  | raised e =>
      rw [HTTPOutcome.result, Coroutine.contain_of_escaped (by simpa [HTTPOutcome.escapes] using h)]
      simp
  | answered status payload => cases h

theorem contain_of_not_escapes {Loc : Type} {outcome : HTTPOutcome}
    (h : ¬outcome.escapes = true) (next : AgentTask Loc) :
    Coroutine.contain clientError (HTTPOutcome.result outcome) next = next := by
  cases outcome with
  | raised e =>
      apply contain_post
      intro e' he
      obtain rfl := SessionCommandVerifier.RefreshOutcome.raised.inj he
      simpa [HTTPOutcome.escapes, clientError] using h
  | answered status payload => rfl

theorem AuditTracked.step [PythonPlatform] [Ed25519] {st st' : AgentState} {m : AuditHistory}
    {l : AgentLabel} (h : AuditTracked st m) (hstep : AgentState.Step st l st') :
    AuditTracked st' (m.record st l) := by
  cases hstep with
  | @message rawMessage senderIdentity r result hmessage =>
      obtain rfl : _ = r := congrArg Prod.fst hmessage
      apply h.observe
      · exact SessionVehicleRuntime.onDatachannelMessage_extends _ _ _ _ _
      · rfl
  | watchdogWakes _ hrunning =>
      simp only [AuditHistory.record, hrunning, if_true]
      apply h.observe
      · exact SessionVehicleRuntime.watchdogRound_extends _ _ _
      · rfl
  | watchdogEnds _ hstopped =>
      simp only [AuditHistory.record, hstopped, Bool.false_eq_true, if_false]
      exact h.of_eq rfl rfl
  | telemetryWakes _ htake =>
      apply h.of_eq
      · have hevents := SessionVehicleRuntime.takeTelemetry_auditEvents st.runtime
        rw [htake] at hevents
        exact hevents
      · rfl
  | auditWakes hsleeping htake =>
      obtain ⟨rfl, rfl⟩ := Prod.mk.inj htake
      have hnone : m.ledger.held = [] := h.held_eq_nil (by rw [AgentState.heldEvents, hsleeping])
      apply AuditTracked.post { st with runtime := st.runtime.takeAuditEvents.2 }
      · exact h.ordered.take hnone
      · rfl
      · rfl
      · rfl
      · exact h.waiting_eq
  | @auditPosted event sessionID rest outcome hposting =>
      have hheld : m.ledger.held.map (·.item.event) = event :: rest := by
        rw [h.held_eq, AgentState.heldEvents, hposting]
      have hwaiting : (m.ledger.settle outcome.accepted).waiting.map (·.item.event) =
          st.runtime.auditEvents := h.waiting_eq
      simp only [AuditHistory.record]
      split_ifs with hescapes
      · apply AuditTracked.abandon st
          (m := { m with ledger := m.ledger.settle outcome.accepted })
        · exact h.ordered.settle _
        · exact hwaiting
        · rfl
        · exact not_pending_of_escapes hescapes _
      · apply AuditTracked.post st
          (m := { m with ledger := m.ledger.settle outcome.accepted }) (h.ordered.settle _)
          hwaiting
        · rfl
        · exact contain_of_not_escapes hescapes _
        · simp only [Ledger.settle, List.map_tail, hheld, List.tail_cons]
  | gatherEnds =>
      apply AuditTracked.abandon st h.ordered h.waiting_eq
      · rfl
      · exact not_pending_cancel _
  | agentCancelled =>
      apply AuditTracked.abandon st h.ordered h.waiting_eq
      · rfl
      · exact not_pending_cancel _
  | _ => exact h.of_eq rfl rfl

theorem AuditTracked.of_run [PythonPlatform] [Ed25519] {ls : List AgentLabel}
    {p : AgentState × AuditHistory} (hrun : auditSystem.Run ls p) : AuditTracked p.1 p.2 := by
  apply hrun.invariant (P := fun _ p ↦ AuditTracked p.1 p.2)
  · intro p hinit
    obtain ⟨⟨⟨verifier, hruntime⟩, -, -, -, -, haudit, -⟩, hnew⟩ := hinit
    rw [hnew]
    constructor
    · exact Ledger.ordered_empty
    · rw [hruntime]
      rfl
    · rw [AgentState.heldEvents, haudit]
      rfl
    · intro event sessionID rest hposting
      rw [haudit] at hposting
      cases hposting
  · intro ls p l p' _ h _ hstep
    rw [hstep.2]
    exact h.step hstep.1

/-! ## Which steps keep the events intact -/

/-- No event is accepted twice, whatever happens. -/
theorem intact_iff {st : AgentState} {m : AuditHistory} (h : AuditTracked st m) :
    m.Intact ↔ m.ledger.Kept ∧ ∀ p ∈ m.sent, p.2 = p.1.item.sessionID :=
  ⟨fun hintact ↦ ⟨hintact.kept, hintact.attributed⟩,
    fun ⟨hkept, hattributed⟩ ↦ ⟨hkept, h.ordered.nodup_delivered, hattributed⟩⟩

/-- A post is attributed if the loaded session is the event's. -/
theorem attributed_post_iff (m : AuditHistory) (sessionID : PyValue) :
    (∀ p ∈ (m.post sessionID).sent, p.2 = p.1.item.sessionID) ↔
      (∀ p ∈ m.sent, p.2 = p.1.item.sessionID) ∧
        ∀ t ∈ m.ledger.held.head?, sessionID = t.item.sessionID := by
  cases hheld : m.ledger.held with
  | nil => simp [AuditHistory.post, hheld]
  | cons t rest =>
      simp only [AuditHistory.post, hheld, List.head?_cons, Option.map_some, Option.toList_some,
        List.forall_mem_append, List.forall_mem_singleton, Option.mem_some_iff, forall_eq']

/-- A step leaves the events intact if and only if they were and it meets the condition. -/
theorem intact_record_iff [PythonPlatform] [Ed25519] {ls : List AgentLabel}
    {st st' : AgentState} {m : AuditHistory} {l : AgentLabel} (h : AuditTracked st m)
    (hstep : AgentState.Step st l st') :
    (m.record st l).Intact ↔ m.Intact ∧ DeliversAudits ls (st, m) l := by
  rw [intact_iff (h.step hstep), intact_iff h]
  have hsame : ∀ P : Prop, P ↔ P ∧ True := fun P ↦ (iff_of_eq (and_true P)).symm
  have hobserve : ∀ r r' : SessionVehicleRuntime,
      ((m.observe r r').ledger.Kept ∧ ∀ p ∈ m.sent, p.2 = p.1.item.sessionID) ↔
        (m.ledger.Kept ∧ ∀ p ∈ m.sent, p.2 = p.1.item.sessionID) ∧ True := by
    intro r r'
    rw [← hsame]
    exact and_congr_left fun _ ↦ Ledger.kept_enqueue_iff h.ordered _
  have habandon : (m.ledger.abandon.Kept ∧ ∀ p ∈ m.sent, p.2 = p.1.item.sessionID) ↔
      (m.ledger.Kept ∧ ∀ p ∈ m.sent, p.2 = p.1.item.sessionID) ∧ m.ledger.held = [] := by
    rw [Ledger.kept_abandon_iff h.ordered]
    exact and_right_comm
  cases hstep with
  | message => exact hobserve _ _
  | watchdogWakes _ hrunning =>
      simp only [AuditHistory.record, hrunning, if_true]
      exact hobserve _ _
  | watchdogEnds _ hstopped =>
      simp only [AuditHistory.record, hstopped, Bool.false_eq_true, if_false]
      exact hsame _
  | auditWakes hsleeping =>
      have hnone : m.ledger.held = [] := h.held_eq_nil (by rw [AgentState.heldEvents, hsleeping])
      rw [AuditHistory.record, attributed_post_iff]
      have hkept : m.ledger.take.Kept ↔ m.ledger.Kept := Ledger.kept_take_iff hnone
      exact (and_congr_left fun _ ↦ hkept).trans and_assoc.symm
  | @auditPosted event sessionID rest outcome hposting =>
      have hheld : m.ledger.held ≠ [] := by
        intro hnone
        have heq := h.held_eq
        rw [hnone, AgentState.heldEvents, hposting] at heq
        cases heq
      have hkept : (m.ledger.settle outcome.accepted).Kept ↔
          m.ledger.Kept ∧ outcome.accepted = true := Ledger.kept_settle_iff h.ordered hheld
      rw [AuditHistory.record]
      split_ifs with hescapes
      · -- what escapes the loop was not accepted
        have hrefused : outcome.accepted ≠ true := by
          cases outcome with
          | raised e => exact Bool.false_ne_true
          | answered status payload => cases hescapes
        apply iff_of_false
        · intro hintact
          have hsettled := ((Ledger.kept_abandon_iff (h.ordered.settle _)).mp hintact.1).1
          exact hrefused (hkept.mp hsettled).2
        · intro hintact
          exact hrefused hintact.2.1
      · rw [attributed_post_iff]
        exact (and_congr_left fun _ ↦ hkept).trans and_and_and_comm
  | gatherEnds => exact habandon
  | agentCancelled => exact habandon
  | _ => exact hsame _

/-- The ledger follows what the agent holds, and in a run of the agent every audit event is kept
or accepted, accepted once at most and posted with its own session if and only if every step
delivers: each post finds the session of its event loaded and is answered with success. -/
theorem audit_events_intact_iff [PythonPlatform] [Ed25519] {ls : List AgentLabel}
    {st : AgentState} {m : AuditHistory} (hrun : auditSystem.Run ls (st, m)) :
    AuditTracked st m ∧ (m.Intact ↔ auditSystem.RunWhere DeliversAudits ls (st, m)) := by
  refine ⟨AuditTracked.of_run hrun, ?_⟩
  apply TransitionSystem.RunWhere.holds_iff (P := fun p ↦ p.2.Intact) _ _ hrun
  · intro p hinit
    rw [hinit.2]
    exact ⟨by simp [Ledger.Kept, AuditHistory.new, Ledger.empty], List.nodup_nil, by
      simp [AuditHistory.new]⟩
  · intro ls p l p' hrun hstep
    rw [hstep.2]
    exact intact_record_iff (AuditTracked.of_run hrun) hstep.1

section Sample

/-! ## One report -/

def rejectedOnce : Ledger QueuedEvent := Ledger.empty.enqueue [⟨rejection, .str []⟩]

/-- A rejected message, and the post of its event starts. -/
theorem reporting_run :
    (@auditSystem PythonPlatform.ascii Ed25519.sample).RunWhere DeliversAudits
      [.message [] [], .auditWakes]
      (reportingAgent,
        ⟨rejectedOnce.take, [(⟨0, ⟨rejection, .str []⟩⟩, .str [])]⟩) := by
  let := PythonPlatform.ascii
  let := Ed25519.sample
  have hinit : auditSystem.RunWhere DeliversAudits [] (quietAgent, .new) :=
    .init ⟨⟨⟨_, rfl⟩, rfl, .inl rfl, rfl, rfl, rfl, rfl, rfl⟩, rfl⟩
  have hmessage : auditSystem.RunWhere DeliversAudits [.message [] []]
      ({ quietAgent with runtime := { reportingAgent.runtime with auditEvents := [rejection] } },
        ⟨rejectedOnce, []⟩) := by
    refine .step hinit trivial ⟨.message onDatachannelMessage_quietAgent, ?_⟩
    simp only [AuditHistory.record]
    rw [show quietAgent.nowMS = 0 from rfl, show quietAgent.monotonic = 10 from rfl,
      onDatachannelMessage_quietAgent]
    rfl
  refine .step hmessage ?_ ⟨.auditWakes rfl rfl, rfl⟩
  intro t ht
  obtain rfl := Option.some.inj ht
  rfl

/-- The gateway takes the report. -/
theorem audit_events_intact_accepted :
    ∃ m : AuditHistory, (@auditSystem PythonPlatform.ascii Ed25519.sample).Run
        [.message [] [], .auditWakes, .auditPosted (.answered 204 .none)]
        ({ reportingAgent with audit := .pending .sleeping }, m) ∧
      m.ledger.delivered.map (·.item.event) = [rejection] ∧ m.Intact := by
  let := PythonPlatform.ascii
  let := Ed25519.sample
  have hposted : auditSystem.RunWhere DeliversAudits
      [.message [] [], .auditWakes, .auditPosted (.answered 204 .none)]
      ({ reportingAgent with audit := .pending .sleeping },
        ⟨rejectedOnce.take.settle true, [(⟨0, ⟨rejection, .str []⟩⟩, .str [])]⟩) := by
    refine .step reporting_run ⟨rfl, ?_⟩ ⟨.auditPosted reportingAgent_audit, rfl⟩
    intro t ht
    cases ht
  exact ⟨_, hposted.toRun, rfl, (audit_events_intact_iff hposted.toRun).2.mpr hposted⟩

/-- The connection fails, and the event is neither queued nor accepted. -/
theorem audit_event_lost :
    ∃ st m, (@auditSystem PythonPlatform.ascii Ed25519.sample).Run
        [.message [] [], .auditWakes, .auditPosted (.raised .clientError)] (st, m) ∧
      m.ledger.queued.map (·.item.event) = [rejection] ∧ m.ledger.present = [] ∧ ¬m.Intact := by
  let := PythonPlatform.ascii
  let := Ed25519.sample
  have hposted : auditSystem.Run
      [.message [] [], .auditWakes, .auditPosted (.raised .clientError)]
      ({ reportingAgent with audit := .pending .sleeping },
        ⟨rejectedOnce.take.settle false, [(⟨0, ⟨rejection, .str []⟩⟩, .str [])]⟩) :=
    .step reporting_run.toRun trivial ⟨.auditPosted reportingAgent_audit, rfl⟩
  refine ⟨_, _, hposted, rfl, rfl, fun hintact ↦ ?_⟩
  have hpresent := hintact.kept ⟨0, ⟨rejection, .str []⟩⟩ (List.mem_singleton.mpr rfl)
  cases hpresent

end Sample

end RemoteInfra.Vehicle
