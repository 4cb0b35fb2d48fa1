import Mathlib.Tactic.NormNum
import RemoteInfra.Library.Supervision
import RemoteInfra.Library.TransitionSystem
import RemoteInfra.Vehicle.Runtime

/-!
# The vehicle agent

`run_agent` of `vehicle_node.py` once its tasks are created: six loops under one gather.  Every
loop is cut at its awaits, and how an awaited call ends is left open, exceptions included.
Whatever ends the gather ends the watchdog with it.
-/

namespace RemoteInfra.Vehicle

open RemoteInfra.Library RemoteInfra.Python

/-- How an HTTP call ends. -/
abbrev HTTPOutcome := SessionCommandVerifier.RefreshOutcome

/-- How an awaited call whose answer nobody reads ends. -/
def HTTPOutcome.result : HTTPOutcome → Except PyExc Unit
  | .raised e => .error e
  | .answered _ _ => .ok ()

/-- The gateway answers, and not with an error.  A call that raised counts as not accepted, though
the gateway may have stored what it was sent. -/
def HTTPOutcome.accepted : HTTPOutcome → Bool
  | .raised _ => false
  | .answered status _ => status < 400

/-! ## The loops -/

/-- `_periodic_session_refresh`. -/
inductive SessionRefreshLoop
  | sleeping
  | refreshing (refresh : SessionCommandVerifier.Refresh)

/-- `VehicleTokenManager.refresh_loop`. -/
inductive TokenRefreshLoop
  | sleeping
  | requesting
  | retrying

inductive TelemetryLoop
  | sleeping
  | posting (latencies : List ℤ) (lostCount : ℤ)

/-- An event is posted with the id of the session loaded when its turn comes. -/
inductive AuditLoop
  | sleeping
  | posting (event : AuditEvent) (sessionID : PyValue) (rest : List AuditEvent)

inductive CameraLayout
  | off
  | single
  | three
  deriving DecidableEq

def cameraConfigs : CameraLayout → List (String × ℕ)
  | .single => [("front", 0)]
  | .three => [("left", 0), ("center", 1), ("right", 2)]
  | .off => []

/-- `livekit_connect_loop`; there is a video publisher when the layout is not off. -/
inductive LiveKitLoop
  | importing
  | connecting
  | publishing (name : String) (rest : List (String × ℕ))
  | sleeping
  | unpublishing (name : String) (rest : List String)
  | disconnecting (e : PyExc)

abbrev AgentTask := Coroutine PyExc

/-- `except Exception`. -/
def exception : PyExc → Bool := fun _ ↦ true

/-- `except aiohttp.ClientError`. -/
def clientError (e : PyExc) : Bool := e = .clientError

structure AgentState where
  nowMS : ℤ
  monotonic : ℚ
  authToken : PyStr
  refreshBeforeSeconds : ℤ
  layout : CameraLayout
  runtime : SessionVehicleRuntime
  sessionRefresh : AgentTask SessionRefreshLoop
  /-- absent without a token manager -/
  tokenRefresh : Option (AgentTask TokenRefreshLoop)
  /-- the watchdog only ever sleeps -/
  watchdog : AgentTask Unit
  telemetry : AgentTask TelemetryLoop
  audit : AgentTask AuditLoop
  livekit : AgentTask LiveKitLoop
  /-- `run_agent` waits for its gather -/
  gathering : Bool

inductive AgentLabel
  | time (nowMS : ℤ) (monotonic : ℚ)
  | message (rawMessage senderIdentity : PyStr)
  | sessionRefreshWakes
  | sessionRefreshed (outcome : HTTPOutcome)
  | tokenRefreshWakes
  | tokenAnswered (outcome : HTTPOutcome)
  | tokenRetryWakes
  | watchdogWakes
  | telemetryWakes
  | telemetryPosted (outcome : HTTPOutcome)
  | auditWakes
  | auditPosted (outcome : HTTPOutcome)
  | livekitImported (available : Bool)
  | livekitConnected (result : Except PyExc Unit)
  | connectionDropped
  | cameraPublished (result : Except PyExc Unit)
  | livekitWakes (stopped : List String)
  | cameraUnpublished (result : Except PyExc Unit)
  | livekitDisconnected (result : Except PyExc Unit)
  | gatherEnds
  /-- `run_agent` is cancelled from outside -/
  | agentCancelled

/-- `expires_in <= self.refresh_before_seconds`, after the check for a number. -/
def tooShortLived (refreshBeforeSeconds : ℤ) : PyValue → Bool
  | .bool b => (if b then 1 else 0) ≤ refreshBeforeSeconds
  | .int n => n ≤ refreshBeforeSeconds
  | .float .nan => false
  | .float (.infinity negative) => negative
  | .float x =>
      match x.val with
      | some q => q ≤ refreshBeforeSeconds
      | none => false
  | _ => true

/-- What `VehicleTokenManager.refresh` takes from an answer, once it has passed the checks. -/
def admitToken (refreshBeforeSeconds : ℤ) : HTTPOutcome → Except PyExc (PyStr × PyValue)
  | .raised e => .error e
  | .answered status body =>
      if status ≠ 200 then .error .runtimeError
      else do
        let token ← body.get "access_token" .none
        let expiresIn ← body.get "expires_in" .none
        match token with
        | .str token =>
            if token = [] || tooShortLived refreshBeforeSeconds expiresIn then
              .error .runtimeError
            else return (token, expiresIn)
        | _ => .error .runtimeError

/-- `VehicleTokenManager.refresh` from the answer on. -/
def readToken [PythonPlatform] (refreshBeforeSeconds : ℤ) (outcome : HTTPOutcome) :
    Except PyExc PyStr := do
  let (token, expiresIn) ← admitToken refreshBeforeSeconds outcome
  let _ ← pyFloat expiresIn
  return token

namespace AgentState

/-- The head of a `while self.running` loop whose body starts with a sleep. -/
def whileRunning {Loc : Type} (st : AgentState) (sleeping : Loc) : AgentTask Loc :=
  if st.runtime.running then .pending sleeping else .finished (.ok ())

/-- `self.verifier.session.session_id if self.verifier.session else ""`. -/
def auditSessionID (st : AgentState) : PyValue :=
  match st.runtime.verifier.session with
  | some session => session.sessionID
  | none => .str []

def postEvents (st : AgentState) : List AuditEvent → AgentTask AuditLoop
  | [] => st.whileRunning .sleeping
  | event :: rest => .pending (.posting event st.auditSessionID rest)

def publishCameras : List (String × ℕ) → AgentTask LiveKitLoop
  | [] => .pending .sleeping
  | (name, _) :: rest => .pending (.publishing name rest)

def unpublishCameras : List String → AgentTask LiveKitLoop
  | [] => .pending .sleeping
  | name :: rest => .pending (.unpublishing name rest)

def statuses (st : AgentState) : List CoroutineStatus :=
  st.tokenRefresh.toList.map Coroutine.status ++
    [st.sessionRefresh.status, st.watchdog.status, st.telemetry.status, st.audit.status,
      st.livekit.status]

/-- The `finally` of `run_agent`. -/
def shutDown (st : AgentState) : AgentState :=
  { st with
    runtime := { st.runtime with running := false }
    sessionRefresh := st.sessionRefresh.cancel
    tokenRefresh := st.tokenRefresh.map Coroutine.cancel
    watchdog := st.watchdog.cancel
    telemetry := st.telemetry.cancel
    audit := st.audit.cancel
    livekit := st.livekit.cancel
    gathering := false }

inductive Step [PythonPlatform] [Ed25519] : AgentState → AgentLabel → AgentState → Prop
  /-- the wall clock may be set back -/
  | time {st : AgentState} {nowMS : ℤ} {monotonic : ℚ} :
      st.monotonic ≤ monotonic →
        Step st (.time nowMS monotonic) { st with nowMS := nowMS, monotonic := monotonic }
  /-- a message has a task of its own, and nobody waits for it -/
  | message {st : AgentState} {rawMessage senderIdentity : PyStr} {r : SessionVehicleRuntime}
      {result : Except PyExc Unit} :
      st.runtime.onDatachannelMessage rawMessage senderIdentity st.nowMS st.monotonic =
          (r, result) →
        Step st (.message rawMessage senderIdentity) { st with runtime := r }
  | sessionRefreshWakes {st : AgentState} {refresh : SessionCommandVerifier.Refresh}
      {v : SessionCommandVerifier} :
      st.sessionRefresh = .pending .sleeping → st.runtime.verifier.beginRefresh = (refresh, v) →
        Step st .sessionRefreshWakes
          { st with
            runtime := { st.runtime with verifier := v }
            sessionRefresh := .pending (.refreshing refresh) }
  | sessionRefreshed {st : AgentState} {refresh : SessionCommandVerifier.Refresh}
      {outcome : HTTPOutcome} {v : SessionCommandVerifier} {result : Except PyExc Unit} :
      st.sessionRefresh = .pending (.refreshing refresh) →
        st.runtime.verifier.finishRefresh refresh outcome = (v, result) →
          Step st (.sessionRefreshed outcome)
            { st with
              runtime := { st.runtime with verifier := v }
              sessionRefresh := .contain exception result (.pending .sleeping) }
  | tokenRefreshWakes {st : AgentState} :
      st.tokenRefresh = some (.pending .sleeping) →
        Step st .tokenRefreshWakes { st with tokenRefresh := some (.pending .requesting) }
  | tokenReplaced {st : AgentState} {outcome : HTTPOutcome} {token : PyStr} :
      st.tokenRefresh = some (.pending .requesting) →
        readToken st.refreshBeforeSeconds outcome = .ok token →
          Step st (.tokenAnswered outcome)
            { st with authToken := token, tokenRefresh := some (.pending .sleeping) }
  | tokenFailed {st : AgentState} {outcome : HTTPOutcome} {e : PyExc} :
      st.tokenRefresh = some (.pending .requesting) →
        readToken st.refreshBeforeSeconds outcome = .error e →
          Step st (.tokenAnswered outcome)
            { st with
              tokenRefresh := some (.contain exception (.error e) (.pending .retrying)) }
  | tokenRetryWakes {st : AgentState} :
      st.tokenRefresh = some (.pending .retrying) →
        Step st .tokenRetryWakes { st with tokenRefresh := some (.pending .sleeping) }
  | watchdogWakes {st : AgentState} :
      st.watchdog = .pending () → st.runtime.running = true →
        Step st .watchdogWakes
          { st with runtime := st.runtime.watchdogRound 300 st.monotonic }
  | watchdogEnds {st : AgentState} :
      st.watchdog = .pending () → st.runtime.running = false →
        Step st .watchdogWakes { st with watchdog := .finished (.ok ()) }
  | telemetryIdle {st : AgentState} {r : SessionVehicleRuntime} :
      st.telemetry = .pending .sleeping → st.runtime.takeTelemetry = (none, r) →
        Step st .telemetryWakes { st with telemetry := st.whileRunning .sleeping }
  | telemetryWakes {st : AgentState} {latencies : List ℤ} {lostCount : ℤ}
      {r : SessionVehicleRuntime} :
      st.telemetry = .pending .sleeping →
        st.runtime.takeTelemetry = (some (latencies, lostCount), r) →
          Step st .telemetryWakes
            { st with runtime := r, telemetry := .pending (.posting latencies lostCount) }
  | telemetryPosted {st : AgentState} {latencies : List ℤ} {lostCount : ℤ}
      {outcome : HTTPOutcome} :
      st.telemetry = .pending (.posting latencies lostCount) →
        Step st (.telemetryPosted outcome)
          { st with
            telemetry :=
              .contain clientError (HTTPOutcome.result outcome) (st.whileRunning .sleeping) }
  | auditWakes {st : AgentState} {events : List AuditEvent} {r : SessionVehicleRuntime} :
      st.audit = .pending .sleeping → st.runtime.takeAuditEvents = (events, r) →
        Step st .auditWakes { st with runtime := r, audit := st.postEvents events }
  | auditPosted {st : AgentState} {event : AuditEvent} {sessionID : PyValue}
      {rest : List AuditEvent} {outcome : HTTPOutcome} :
      st.audit = .pending (.posting event sessionID rest) →
        Step st (.auditPosted outcome)
          { st with
            audit := .contain clientError (HTTPOutcome.result outcome) (st.postEvents rest) }
  | livekitImported {st : AgentState} {available : Bool} :
      st.livekit = .pending .importing →
        Step st (.livekitImported available)
          { st with livekit := if available then .pending .connecting else .finished (.ok ()) }
  | livekitConnected {st : AgentState} :
      st.livekit = .pending .connecting →
        Step st (.livekitConnected (.ok ()))
          { st with livekit := publishCameras (cameraConfigs st.layout) }
  /-- the `finally` runs before the exception leaves the loop -/
  | livekitRefused {st : AgentState} {e : PyExc} :
      st.livekit = .pending .connecting →
        Step st (.livekitConnected (.error e)) { st with livekit := .pending (.disconnecting e) }
  /-- the loop does not look at the room -/
  | connectionDropped {st : AgentState} : Step st .connectionDropped st
  | cameraPublished {st : AgentState} {name : String} {rest : List (String × ℕ)}
      {result : Except PyExc Unit} :
      st.livekit = .pending (.publishing name rest) →
        Step st (.cameraPublished result)
          { st with livekit := .contain exception result (publishCameras rest) }
  | livekitWakes {st : AgentState} {stopped : List String} :
      st.livekit = .pending .sleeping → (st.layout = .off → stopped = []) →
        Step st (.livekitWakes stopped) { st with livekit := unpublishCameras stopped }
  | cameraUnpublished {st : AgentState} {name : String} {rest : List String}
      {result : Except PyExc Unit} :
      st.livekit = .pending (.unpublishing name rest) →
        Step st (.cameraUnpublished result)
          { st with livekit := .contain exception result (unpublishCameras rest) }
  | livekitDisconnected {st : AgentState} {e : PyExc} {result : Except PyExc Unit} :
      st.livekit = .pending (.disconnecting e) →
        Step st (.livekitDisconnected result)
          { st with livekit := .contain exception result (.finished (.error e)) }
  | gatherEnds {st : AgentState} :
      st.gathering = true → gatherEnded st.statuses = true → Step st .gatherEnds st.shutDown
  | agentCancelled {st : AgentState} :
      st.gathering = true → Step st .agentCancelled st.shutDown

end AgentState

/-- The tasks are created and have not run yet. -/
def agentSystem [PythonPlatform] [Ed25519] : TransitionSystem AgentState AgentLabel where
  Init st := (∃ verifier, st.runtime = .new verifier .new) ∧
    st.sessionRefresh = .pending .sleeping ∧
    (st.tokenRefresh = none ∨ st.tokenRefresh = some (.pending .sleeping)) ∧
    st.watchdog = .pending () ∧ st.telemetry = .pending .sleeping ∧
    st.audit = .pending .sleeping ∧ st.livekit = .pending .importing ∧ st.gathering = true
  Step := AgentState.Step

/-! ## The watchdog under the gather -/

/-- The watchdog task waits for its next round, and will do it. -/
def WatchdogScheduled (st : AgentState) : Prop :=
  st.watchdog = .pending () ∧ st.runtime.running = true

/-- Asked of every step: a post raises nothing but a client error, the connect call does not
raise, and nobody cancels the agent. -/
def Contained : TransitionSystem.StepCondition AgentState AgentLabel
  | _, _, .telemetryPosted (.raised e) => e = .clientError
  | _, _, .auditPosted (.raised e) => e = .clientError
  | _, _, .livekitConnected (.error _) => False
  | _, _, .agentCancelled => False
  | _, _, _ => True

/-- No task of the gather has failed, nor is about to. -/
structure Healthy (st : AgentState) : Prop where
  running : st.runtime.running = true
  watchdog : st.watchdog = .pending ()
  sessionRefresh : st.sessionRefresh.status = .pending
  tokenRefresh : ∀ task, st.tokenRefresh = some task → task.status = .pending
  telemetry : st.telemetry.status = .pending
  audit : st.audit.status = .pending
  livekit : st.livekit.status ≠ .failed
  connected : ∀ e, st.livekit ≠ .pending (.disconnecting e)

theorem Healthy.not_gatherEnded {st : AgentState} (h : Healthy st) :
    gatherEnded st.statuses = false := by
  refine RemoteInfra.Library.not_gatherEnded ?_ ?_
  · simp [AgentState.statuses, h.sessionRefresh]
  · intro hmem
    rcases List.mem_append.mp hmem with hmem | hmem
    · obtain ⟨task, htask, hstatus⟩ := List.mem_map.mp hmem
      simp [h.tokenRefresh task (Option.mem_toList.mp htask)] at hstatus
    · simp only [h.sessionRefresh, h.watchdog, h.telemetry, h.audit, Coroutine.status_pending,
        List.mem_cons, List.not_mem_nil, reduceCtorEq, or_false, false_or] at hmem
      exact h.livekit hmem.symm

theorem status_whileRunning {Loc : Type} {st : AgentState} (h : st.runtime.running = true)
    (sleeping : Loc) : (st.whileRunning sleeping).status = .pending := by
  simp [AgentState.whileRunning, h]

theorem status_postEvents {st : AgentState} (h : st.runtime.running = true)
    (events : List AuditEvent) : (st.postEvents events).status = .pending := by
  cases events with
  | nil => exact status_whileRunning h _
  | cons event rest => rfl

theorem status_publishCameras (cameras : List (String × ℕ)) :
    (AgentState.publishCameras cameras).status = .pending ∧
      ∀ e, AgentState.publishCameras cameras ≠ .pending (.disconnecting e) := by
  cases cameras <;> simp [AgentState.publishCameras]

theorem status_unpublishCameras (names : List String) :
    (AgentState.unpublishCameras names).status = .pending ∧
      ∀ e, AgentState.unpublishCameras names ≠ .pending (.disconnecting e) := by
  cases names <;> simp [AgentState.unpublishCameras]

theorem contain_exception {Loc : Type} (result : Except PyExc Unit) (next : AgentTask Loc) :
    Coroutine.contain exception result next = next :=
  Coroutine.contain_of_caught (fun _ _ ↦ rfl) next

theorem contain_post {Loc : Type} {outcome : HTTPOutcome}
    (h : ∀ e, outcome = .raised e → e = .clientError) (next : AgentTask Loc) :
    Coroutine.contain clientError (HTTPOutcome.result outcome) next = next := by
  refine Coroutine.contain_of_caught (fun e he ↦ ?_) next
  cases outcome with
  | raised e' =>
      obtain rfl : e' = e := Except.error.inj he
      simp [clientError, h e' rfl]
  | answered status payload => cases he

/-- Handling a message, a round of the watchdog and the takers leave `running` alone. -/
theorem running_onDatachannelMessage [PythonPlatform] [Ed25519] {r r' : SessionVehicleRuntime}
    {rawMessage senderIdentity : PyStr} {nowMS : ℤ} {monotonic : ℚ} {result : Except PyExc Unit}
    (h : r.onDatachannelMessage rawMessage senderIdentity nowMS monotonic = (r', result)) :
    r'.running = r.running := by
  rcases SessionVehicleRuntime.onDatachannelMessage_cases rfl h with
    ⟨packet, session, key, sequence, command, -, -, -, hobeys⟩ | ⟨-, -, hrunning, -⟩
  · exact hobeys.running_eq
  · exact hrunning

theorem Healthy.step [PythonPlatform] [Ed25519] {ls : List AgentLabel} {st st' : AgentState}
    {l : AgentLabel} (h : Healthy st) (hcond : Contained ls st l)
    (hstep : AgentState.Step st l st') : Healthy st' := by
  cases hstep with
  | time _ => exact { h with }
  | message hmessage =>
      exact { h with running := (running_onDatachannelMessage hmessage).trans h.running }
  | sessionRefreshWakes _ _ => exact { h with sessionRefresh := rfl }
  | sessionRefreshed _ _ =>
      exact { h with sessionRefresh := by rw [contain_exception]; rfl }
  | tokenRefreshWakes _ => exact { h with tokenRefresh := by rintro _ ⟨⟩; rfl }
  | tokenReplaced _ _ => exact { h with tokenRefresh := by rintro _ ⟨⟩; rfl }
  | tokenFailed _ _ =>
      refine { h with tokenRefresh := ?_ }
      rintro _ ⟨⟩
      rw [contain_exception]
      rfl
  | tokenRetryWakes _ => exact { h with tokenRefresh := by rintro _ ⟨⟩; rfl }
  | watchdogWakes _ _ =>
      exact { h with running := (SessionVehicleRuntime.watchdogRound_running _ _ _).trans h.running }
  | watchdogEnds _ hstopped => simp [h.running] at hstopped
  | telemetryIdle _ _ => exact { h with telemetry := status_whileRunning h.running _ }
  | telemetryWakes _ htake =>
      refine { h with running := ?_, telemetry := rfl }
      have hrunning := st.runtime.takeTelemetry_running
      rw [htake] at hrunning
      exact hrunning.trans h.running
  | @telemetryPosted _ _ outcome _ =>
      refine { h with telemetry := ?_ }
      have hraised : ∀ e, outcome = .raised e → e = .clientError := by
        rintro e rfl
        exact hcond
      rw [contain_post hraised]
      exact status_whileRunning h.running _
  | auditWakes _ htake =>
      obtain ⟨-, rfl⟩ := Prod.mk.inj htake
      exact { h with running := h.running, audit := status_postEvents h.running _ }
  | @auditPosted _ _ rest outcome _ =>
      refine { h with audit := ?_ }
      have hraised : ∀ e, outcome = .raised e → e = .clientError := by
        rintro e rfl
        exact hcond
      rw [contain_post hraised]
      exact status_postEvents h.running rest
  | @livekitImported available _ =>
      cases available
      · exact { h with livekit := by simp [Coroutine.status], connected := by simp }
      · exact { h with livekit := by simp [Coroutine.status], connected := by simp }
  | livekitConnected _ =>
      obtain ⟨hstatus, hconnected⟩ := status_publishCameras (cameraConfigs st.layout)
      exact { h with livekit := by simp [hstatus], connected := hconnected }
  | livekitRefused _ => exact hcond.elim
  | connectionDropped => exact h
  | @cameraPublished _ rest _ _ =>
      obtain ⟨hstatus, hconnected⟩ := status_publishCameras rest
      refine { h with livekit := ?_, connected := ?_ }
      · simp [contain_exception, hstatus]
      · simpa [contain_exception] using hconnected
  | @livekitWakes stopped _ _ =>
      obtain ⟨hstatus, hconnected⟩ := status_unpublishCameras stopped
      exact { h with livekit := by simp [hstatus], connected := hconnected }
  | @cameraUnpublished _ rest _ _ =>
      obtain ⟨hstatus, hconnected⟩ := status_unpublishCameras rest
      refine { h with livekit := ?_, connected := ?_ }
      · simp [contain_exception, hstatus]
      · simpa [contain_exception] using hconnected
  | livekitDisconnected hlivekit => exact absurd hlivekit (h.connected _)
  | gatherEnds _ hended => simp [h.not_gatherEnded] at hended
  | agentCancelled _ => exact hcond.elim

/-- In a run whose steps let no exception out of a loop, the watchdog stays scheduled. -/
theorem watchdog_stays_scheduled [PythonPlatform] [Ed25519] {ls : List AgentLabel}
    {st : AgentState} (hrun : agentSystem.RunWhere Contained ls st) : WatchdogScheduled st := by
  suffices h : Healthy st from ⟨h.watchdog, h.running⟩
  refine hrun.invariant (P := fun _ st ↦ Healthy st) ?_ ?_
  · rintro st ⟨⟨verifier, hruntime⟩, hsession, htoken, hwatchdog, htelemetry, haudit, hlivekit, -⟩
    refine ⟨by rw [hruntime]; rfl, hwatchdog, by rw [hsession]; rfl, ?_, by rw [htelemetry]; rfl,
      by rw [haudit]; rfl, by simp [hlivekit], by simp [hlivekit]⟩
    rintro task htask
    rcases htoken with hnone | hsome
    · simp [hnone] at htask
    · obtain rfl := Option.some.inj (hsome.symm.trans htask)
      rfl
  · rintro ls st l st' - h hcond hstep
    exact h.step hcond hstep

/-- Once a task has failed, the gather can end, and the watchdog is no longer scheduled. -/
theorem gather_ends_of_failed [PythonPlatform] [Ed25519] {st : AgentState}
    (hgathering : st.gathering = true) (hfailed : .failed ∈ st.statuses) :
    AgentState.Step st .gatherEnds st.shutDown ∧ ¬WatchdogScheduled st.shutDown := by
  refine ⟨.gatherEnds hgathering (gatherEnded_of_failed hfailed), fun h ↦ ?_⟩
  cases h.2

section Sample

/-- An agent just started, without a token manager or cameras. -/
def quietAgent : AgentState where
  nowMS := 0
  monotonic := 10
  authToken := []
  refreshBeforeSeconds := 300
  layout := .off
  runtime := .new (.new (PyStr.ofString "car-001") 100 100 10) .new
  sessionRefresh := .pending .sleeping
  tokenRefresh := none
  watchdog := .pending ()
  telemetry := .pending .sleeping
  audit := .pending .sleeping
  livekit := .pending .importing
  gathering := true

def rejection : AuditEvent := ⟨"command_rejected", "session command validation failed"⟩

/-- The agent reports a rejected message. -/
def reportingAgent : AgentState :=
  { quietAgent with
    runtime :=
      { quietAgent.runtime with
        lastAuditAt := Function.update quietAgent.runtime.lastAuditAt "command_rejected" 10 }
    audit := .pending (.posting rejection (.str []) []) }

theorem reportingAgent_audit :
    reportingAgent.audit = .pending (.posting rejection (.str []) []) := rfl

theorem onDatachannelMessage_quietAgent :
    @SessionVehicleRuntime.onDatachannelMessage PythonPlatform.ascii Ed25519.sample
      quietAgent.runtime [] [] 0 10 =
        ({ reportingAgent.runtime with auditEvents := [rejection] }, .ok ()) := by
  have hlate : ¬(10 : ℚ) - 0 < 5 := by norm_num
  simp only [SessionVehicleRuntime.onDatachannelMessage, SessionCommandVerifier.verifyPacket,
    quietAgent, SessionVehicleRuntime.new, SessionCommandVerifier.new,
    SessionVehicleRuntime.queueAuditEvent, hlate, if_false]
  rfl

theorem reportingAgent_run :
    (@agentSystem PythonPlatform.ascii Ed25519.sample).RunWhere Contained
      [.message [] [], .auditWakes] reportingAgent := by
  let := PythonPlatform.ascii
  let := Ed25519.sample
  have hinit : agentSystem.RunWhere Contained [] quietAgent :=
    .init ⟨⟨_, rfl⟩, rfl, .inl rfl, rfl, rfl, rfl, rfl, rfl⟩
  have hmessage : agentSystem.RunWhere Contained [.message [] []]
      { quietAgent with runtime := { reportingAgent.runtime with auditEvents := [rejection] } } :=
    .step hinit trivial (.message onDatachannelMessage_quietAgent)
  exact .step hmessage trivial (.auditWakes rfl rfl)

theorem watchdog_stays_scheduled_reporting :
    WatchdogScheduled { reportingAgent with audit := .pending .sleeping } := by
  let := PythonPlatform.ascii
  let := Ed25519.sample
  have hposted : agentSystem.RunWhere Contained
      [.message [] [], .auditWakes, .auditPosted (.raised .clientError)]
      { reportingAgent with audit := .pending .sleeping } :=
    .step reportingAgent_run rfl (.auditPosted reportingAgent_audit)
  exact watchdog_stays_scheduled hposted

/-- A report that times out stops the watchdog, and nobody cancelled the agent. -/
theorem audit_timeout_stops_watchdog :
    ∃ st, (@agentSystem PythonPlatform.ascii Ed25519.sample).Run
        [.message [] [], .auditWakes, .auditPosted (.raised .timeoutError), .gatherEnds] st ∧
      ¬WatchdogScheduled st := by
  let := PythonPlatform.ascii
  let := Ed25519.sample
  let timedOut : AgentState := { reportingAgent with audit := .finished (.error .timeoutError) }
  have hposted : agentSystem.Run
      [.message [] [], .auditWakes, .auditPosted (.raised .timeoutError)] timedOut :=
    .step reportingAgent_run.toRun trivial (.auditPosted reportingAgent_audit)
  have hfailed : .failed ∈ timedOut.statuses := by simp [timedOut, AgentState.statuses]
  obtain ⟨hends, hstopped⟩ := gather_ends_of_failed rfl hfailed
  exact ⟨_, .step hposted trivial hends, hstopped⟩

/-- So does a connect call that raises. -/
theorem connect_failure_stops_watchdog :
    ∃ st, (@agentSystem PythonPlatform.ascii Ed25519.sample).Run
        [.livekitImported true, .livekitConnected (.error .runtimeError),
          .livekitDisconnected (.ok ()), .gatherEnds] st ∧
      ¬WatchdogScheduled st := by
  let := PythonPlatform.ascii
  let := Ed25519.sample
  let failed : AgentState := { quietAgent with livekit := .finished (.error .runtimeError) }
  have hinit : agentSystem.Run [] quietAgent :=
    .init ⟨⟨_, rfl⟩, rfl, .inl rfl, rfl, rfl, rfl, rfl, rfl⟩
  have hconnecting : agentSystem.Run [.livekitImported true]
      { quietAgent with livekit := .pending .connecting } :=
    .step hinit trivial (.livekitImported rfl)
  have hrefused : agentSystem.Run [.livekitImported true, .livekitConnected (.error .runtimeError)]
      { quietAgent with livekit := .pending (.disconnecting .runtimeError) } :=
    .step hconnecting trivial (.livekitRefused rfl)
  have hended : agentSystem.Run
      [.livekitImported true, .livekitConnected (.error .runtimeError),
        .livekitDisconnected (.ok ())] failed :=
    .step hrefused trivial (.livekitDisconnected rfl)
  have hfailed : .failed ∈ failed.statuses := by simp [failed, AgentState.statuses]
  obtain ⟨hends, hstopped⟩ := gather_ends_of_failed rfl hfailed
  exact ⟨_, .step hended trivial hends, hstopped⟩

end Sample

end RemoteInfra.Vehicle
