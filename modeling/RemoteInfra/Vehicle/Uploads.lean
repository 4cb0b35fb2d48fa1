import RemoteInfra.Vehicle.Agent

/-!
# What telemetry counts and uploads

An accepted packet adds its latency, and what it skipped to the count of lost packets.  The
telemetry loop takes both away and posts them; whatever becomes of the post, the runtime has
forgotten them.  Here the agent's runs are read as the runs of that small machine.
-/

namespace RemoteInfra.Vehicle

open RemoteInfra.Library RemoteInfra.Python

/-- What the runtime holds for telemetry, and the upload under way. -/
structure Telemetry where
  latencies : List ℤ
  lostCount : ℤ
  lastSequence : Option ℤ
  uploading : Option (List ℤ × ℤ)

/-- What a step of the agent means to telemetry. -/
inductive TelemetryEvent
  | accepted (sessionID : PyValue) (sequence latency : ℤ)
  | taken (latencies : List ℤ) (lostCount : ℤ)
  /-- an upload ended or was cut off; the gateway has accepted it or not -/
  | uploaded (latencies : List ℤ) (lostCount : ℤ) (delivered : Bool)

/-- The sequences missing between two packets, none if the second is not ahead. -/
def missing (last sequence : ℤ) : ℤ := max 0 (sequence - last - 1)

namespace Telemetry

def empty : Telemetry := ⟨[], 0, none, none⟩

/-- The loss that has been counted and not been reported, that of the upload under way included. -/
def held (t : Telemetry) : ℤ := t.lostCount + (t.uploading.map Prod.snd).getD 0

inductive Step : Telemetry → Option TelemetryEvent → Telemetry → Prop
  | accepted {t : Telemetry} {sessionID : PyValue} {sequence latency : ℤ} :
      Step t (some (.accepted sessionID sequence latency))
        { t with
          latencies := t.latencies ++ [latency]
          lostCount := t.lostCount + (t.lastSequence.map (missing · sequence)).getD 0
          lastSequence := some sequence }
  | taken {t : Telemetry} :
      t.uploading = none → (t.latencies ≠ [] ∨ t.lostCount ≠ 0) →
        Step t (some (.taken t.latencies.mergeSort t.lostCount))
          { t with
            latencies := []
            lostCount := 0
            uploading := some (t.latencies.mergeSort, t.lostCount) }
  | uploaded {t : Telemetry} {latencies : List ℤ} {lostCount : ℤ} {delivered : Bool} :
      t.uploading = some (latencies, lostCount) →
        Step t (some (.uploaded latencies lostCount delivered)) { t with uploading := none }
  | idle {t : Telemetry} : Step t none t

end Telemetry

namespace AgentState

def uploading (st : AgentState) : Option (List ℤ × ℤ) :=
  match st.telemetry with
  | .pending (.posting latencies lostCount) => some (latencies, lostCount)
  | _ => none

def telemetryHeld (st : AgentState) : Telemetry where
  latencies := st.runtime.latencies
  lostCount := st.runtime.lostCount
  lastSequence := st.runtime.lastSequence
  uploading := st.uploading

/-- A packet is accepted under the session that is loaded. -/
def acceptance [PythonPlatform] [Ed25519] (st : AgentState)
    (rawMessage senderIdentity : PyStr) : Option TelemetryEvent :=
  match st.runtime.verifier.session,
      (st.runtime.verifier.verifyPacket rawMessage senderIdentity st.nowMS st.monotonic).2 with
  | some session, .ok (some packet) =>
      match packet.getItem "sequence" >>= pyInt, packet.getItem "timestamp_ms" >>= pyInt with
      | .ok sequence, .ok timestamp =>
          some (.accepted session.sessionID sequence (max 0 (st.nowMS - timestamp)))
      | _, _ => none
  | _, _ => none

def uploadEnds (st : AgentState) (delivered : Bool) : Option TelemetryEvent :=
  st.uploading.map fun report ↦ .uploaded report.1 report.2 delivered

def telemetryEvent [PythonPlatform] [Ed25519] (st : AgentState) :
    AgentLabel → Option TelemetryEvent
  | .message rawMessage senderIdentity => st.acceptance rawMessage senderIdentity
  | .telemetryWakes => st.runtime.takeTelemetry.1.map fun report ↦ .taken report.1 report.2
  | .telemetryPosted outcome => st.uploadEnds outcome.accepted
  -- the shutdown cancels the loop and with it a post under way
  | .gatherEnds | .agentCancelled => st.uploadEnds false
  | _ => none

end AgentState

/-! ## What handling a message counts -/

namespace SessionVehicleRuntime

theorem countLost_lostCount (r : SessionVehicleRuntime) (sequence : ℤ) :
    (r.countLost sequence).lostCount =
      r.lostCount + (r.lastSequence.map (missing · sequence)).getD 0 := by
  unfold countLost
  cases r.lastSequence with
  | none => simp
  | some last =>
      simp only [missing, Option.map_some, Option.getD_some]
      split_ifs <;> omega

/-- `r'` holds for telemetry what `r` holds. -/
structure SameTelemetry (r r' : SessionVehicleRuntime) : Prop where
  latencies_eq : r'.latencies = r.latencies
  lostCount_eq : r'.lostCount = r.lostCount
  lastSequence_eq : r'.lastSequence = r.lastSequence

theorem sameTelemetry_queueAuditEvent (r : SessionVehicleRuntime) (event reason : String)
    (monotonic : ℚ) : r.SameTelemetry (r.queueAuditEvent event reason monotonic) := by
  unfold queueAuditEvent
  split <;> exact ⟨rfl, rfl, rfl⟩

theorem sameTelemetry_watchdogRound (r : SessionVehicleRuntime) (timeoutMS monotonic : ℚ) :
    r.SameTelemetry (r.watchdogRound timeoutMS monotonic) := by
  simp only [watchdogRound]
  split_ifs
  · exact ⟨rfl, rfl, rfl⟩
  · obtain ⟨hlatencies, hlost, hlast⟩ := sameTelemetry_queueAuditEvent
      { r with brakeController := r.brakeController.emergencyBrake } "watchdog_timeout"
      "no valid remote control command" monotonic
    exact ⟨hlatencies, hlost, hlast⟩
  · exact ⟨rfl, rfl, rfl⟩

/-- Handling an accepted packet notes its latency and counts what it skipped. -/
theorem handlePacket_counts [PythonPlatform] {r : SessionVehicleRuntime}
    {v : SessionCommandVerifier} {session : ActiveControlSession} {packet : PyValue}
    {senderIdentity : PyStr} {checkedMS sequence : ℤ}
    (hpasses : v.Passes session packet senderIdentity checkedMS sequence) (nowMS : ℤ)
    (monotonic : ℚ) :
    ∃ timestamp, packet.getItem "timestamp_ms" >>= pyInt = .ok timestamp ∧
      (r.handlePacket packet nowMS monotonic).1.latencies =
        r.latencies ++ [max 0 (nowMS - timestamp)] ∧
      (r.handlePacket packet nowMS monotonic).1.lostCount = (r.countLost sequence).lostCount ∧
      (r.handlePacket packet nowMS monotonic).1.lastSequence = some sequence := by
  obtain ⟨x, t, hx, ht, -⟩ := hpasses.timestamp
  obtain ⟨y, hy, hsequence, -⟩ := hpasses.sequence
  obtain ⟨command, hcommand, hvalid⟩ := hpasses.command
  obtain ⟨resolved, hresolved⟩ := resolveCommand_of_validCommand hvalid
  refine ⟨t, by rw [hx, ok_bind, ht], ?_⟩
  simp only [handlePacket, hx, ht, hy, hsequence, hcommand, hresolved, ok_bind]
  split_ifs
  · obtain ⟨hlatencies, hlost, hlast⟩ := sameTelemetry_queueAuditEvent
      { r.countLost sequence with
        latencies := (r.countLost sequence).latencies ++ [max 0 (nowMS - t)] }
      "emergency_stop" "remote full brake command" monotonic
    exact ⟨hlatencies, hlost, hlast⟩
  · exact ⟨rfl, rfl, rfl⟩

end SessionVehicleRuntime

/-! ## The agent's steps -/

theorem Telemetry.Step.of_same {st st' : AgentState}
    (h : st.runtime.SameTelemetry st'.runtime) (htask : st'.telemetry = st.telemetry) :
    Telemetry.Step st.telemetryHeld none st'.telemetryHeld := by
  have hsame : st'.telemetryHeld = st.telemetryHeld := by
    simp only [AgentState.telemetryHeld, AgentState.uploading, h.latencies_eq, h.lostCount_eq,
      h.lastSequence_eq, htask]
  rw [hsame]
  exact .idle

/-- A message is accepted and counted, or telemetry does not notice it. -/
theorem AgentState.telemetry_step_message [PythonPlatform] [Ed25519] {st : AgentState}
    {rawMessage senderIdentity : PyStr} {r : SessionVehicleRuntime} {result : Except PyExc Unit}
    (h : st.runtime.onDatachannelMessage rawMessage senderIdentity st.nowMS st.monotonic =
      (r, result)) :
    Telemetry.Step st.telemetryHeld (st.acceptance rawMessage senderIdentity)
      { st with runtime := r }.telemetryHeld := by
  unfold SessionVehicleRuntime.onDatachannelMessage at h
  cases hverify : st.runtime.verifier.verifyPacket rawMessage senderIdentity st.nowMS
      st.monotonic with
  | mk v verdict =>
      rw [hverify] at h
      rcases SessionCommandVerifier.verifyPacket_cases hverify with
        ⟨packet, session, key, sequence, rfl, haccepts⟩ | ⟨hrejected, -⟩
      · obtain rfl : _ = r := congrArg Prod.fst h
        obtain ⟨y, hy, hsequence, -⟩ := haccepts.passes.sequence
        obtain ⟨timestamp, htimestamp, hlatencies, hlost, hlast⟩ :=
          SessionVehicleRuntime.handlePacket_counts (r := { st.runtime with verifier := v })
            haccepts.passes st.nowMS st.monotonic
        have hevent : st.acceptance rawMessage senderIdentity =
            some (.accepted session.sessionID sequence (max 0 (st.nowMS - timestamp))) := by
          simp only [acceptance, haccepts.session_eq, hverify, hy, ok_bind, hsequence, htimestamp]
        rw [hevent]
        simp only [telemetryHeld, hlatencies, hlost, hlast,
          SessionVehicleRuntime.countLost_lostCount]
        exact .accepted
      · have hevent : st.acceptance rawMessage senderIdentity = none := by
          simp only [acceptance, hverify]
          split
          · rename_i packet _
            exact absurd rfl (hrejected packet)
          · rfl
        rw [hevent]
        match verdict, hrejected with
        | .error e, _ =>
            obtain ⟨rfl, -⟩ := Prod.mk.inj h
            exact .idle
        | .ok none, _ =>
            obtain ⟨rfl, -⟩ := Prod.mk.inj h
            have hqueue := SessionVehicleRuntime.sameTelemetry_queueAuditEvent
              { st.runtime with verifier := v } "command_rejected"
              "session command validation failed" st.monotonic
            exact .of_same ⟨hqueue.latencies_eq, hqueue.lostCount_eq, hqueue.lastSequence_eq⟩ rfl
        | .ok (some packet), hrejected => exact absurd rfl (hrejected packet)

/-- A post under way ends, and the loop goes on, fails or is cancelled. -/
theorem AgentState.telemetry_step_uploadEnds {st st' : AgentState} (delivered : Bool)
    (h : st.runtime.SameTelemetry st'.runtime) (hended : st'.uploading = none) :
    Telemetry.Step st.telemetryHeld (st.uploadEnds delivered) st'.telemetryHeld := by
  have hheld : st'.telemetryHeld = { st.telemetryHeld with uploading := none } := by
    simp only [telemetryHeld, h.latencies_eq, h.lostCount_eq, h.lastSequence_eq, hended]
  rw [hheld, uploadEnds]
  cases hupload : st.uploading with
  | none =>
      have hnone : { st.telemetryHeld with uploading := none } = st.telemetryHeld := by
        simp only [telemetryHeld, hupload]
      rw [hnone]
      exact .idle
  | some report => exact .uploaded hupload

theorem AgentState.uploading_whileRunning (st : AgentState) (caught : PyExc → Bool)
    (result : Except PyExc Unit) :
    { st with
      telemetry := .contain caught result (st.whileRunning .sleeping) }.uploading = none := by
  simp only [uploading, whileRunning]
  cases result with
  | ok _ =>
      simp only [Coroutine.contain]
      cases st.runtime.running <;> rfl
  | error e =>
      simp only [Coroutine.contain]
      cases caught e
      · rfl
      · cases st.runtime.running <;> rfl

theorem AgentState.uploading_shutDown (st : AgentState) : st.shutDown.uploading = none := by
  simp only [uploading, shutDown]
  cases st.telemetry <;> rfl

/-- What a step of the agent does to telemetry is a step of telemetry. -/
theorem AgentState.Step.telemetry_step [PythonPlatform] [Ed25519] {st st' : AgentState}
    {l : AgentLabel} (h : Step st l st') :
    Telemetry.Step st.telemetryHeld (st.telemetryEvent l) st'.telemetryHeld := by
  cases h with
  | message hmessage => exact telemetry_step_message hmessage
  | watchdogWakes _ _ =>
      exact .of_same (SessionVehicleRuntime.sameTelemetry_watchdogRound _ _ _) rfl
  | @telemetryIdle r hsleeping htake =>
      have hevent : st.telemetryEvent .telemetryWakes = none := by
        rw [telemetryEvent, htake]
        rfl
      have hidle : { st with telemetry := st.whileRunning .sleeping }.telemetryHeld =
          st.telemetryHeld := by
        simp only [telemetryHeld, uploading, whileRunning, hsleeping]
        split_ifs <;> rfl
      rw [hevent, hidle]
      exact .idle
  | @telemetryWakes latencies lostCount r hsleeping htake =>
      have hevent : st.telemetryEvent .telemetryWakes = some (.taken latencies lostCount) := by
        rw [telemetryEvent, htake]
        rfl
      rw [hevent]
      unfold SessionVehicleRuntime.takeTelemetry at htake
      split at htake
      · cases htake
      · rename_i hsome
        obtain ⟨htaken, rfl⟩ := Prod.mk.inj htake
        obtain ⟨rfl, rfl⟩ := Prod.mk.inj (Option.some.inj htaken)
        refine Telemetry.Step.taken (t := st.telemetryHeld) ?_ (not_and_or.mp hsome)
        simp only [telemetryHeld, uploading, hsleeping]
  | telemetryPosted _ =>
      exact telemetry_step_uploadEnds _ ⟨rfl, rfl, rfl⟩ (uploading_whileRunning _ _ _)
  | gatherEnds _ _ => exact telemetry_step_uploadEnds _ ⟨rfl, rfl, rfl⟩ (uploading_shutDown st)
  | agentCancelled _ => exact telemetry_step_uploadEnds _ ⟨rfl, rfl, rfl⟩ (uploading_shutDown st)
  | auditWakes _ htake =>
      obtain ⟨-, rfl⟩ := Prod.mk.inj htake
      exact .of_same ⟨rfl, rfl, rfl⟩ rfl
  | _ => exact .of_same ⟨rfl, rfl, rfl⟩ rfl

/-- The agent's runs, with what they mean to telemetry. -/
def telemetrySystem [PythonPlatform] [Ed25519] :
    TransitionSystem (AgentState × List TelemetryEvent) AgentLabel :=
  agentSystem.remember (fun _ ↦ []) fun events st l ↦ events ++ (st.telemetryEvent l).toList

/-- What holds of an empty machine and an empty history, and is kept by every step of telemetry,
holds of every run. -/
theorem telemetry_invariant [PythonPlatform] [Ed25519]
    {P : Telemetry → List TelemetryEvent → Prop} (hempty : P .empty [])
    (hstep : ∀ t events e t', P t events → Telemetry.Step t (some e) t' → P t' (events ++ [e]))
    {ls : List AgentLabel} {st : AgentState} {events : List TelemetryEvent}
    (hrun : telemetrySystem.Run ls (st, events)) : P st.telemetryHeld events := by
  refine hrun.invariant (P := fun _ p ↦ P p.1.telemetryHeld p.2) ?_ ?_
  · rintro ⟨st, events⟩ ⟨⟨⟨verifier, hruntime⟩, -, -, -, htelemetry, -⟩, hevents⟩
    obtain rfl : events = [] := hevents
    dsimp only at hruntime htelemetry
    have hstart : st.telemetryHeld = .empty := by
      simp only [AgentState.telemetryHeld, AgentState.uploading, hruntime, htelemetry]
      rfl
    rw [hstart]
    exact hempty
  · rintro ls ⟨st, events⟩ l ⟨st', events'⟩ - hp - ⟨hagent, hevents⟩
    obtain rfl : events' = events ++ (st.telemetryEvent l).toList := hevents
    have htelemetry := hagent.telemetry_step
    cases hevent : st.telemetryEvent l with
    | none =>
        rw [hevent] at htelemetry
        generalize hheld : st.telemetryHeld = t, st'.telemetryHeld = t' at htelemetry hp
        cases htelemetry
        simpa using hp
    | some e => exact hstep _ _ _ _ hp (hevent ▸ htelemetry)

/-! ## An agent that drives -/

section Drive

/-- An agent whose loops sleep, at a fixed time, with a verifier and what it holds for telemetry. -/
structure AgentState.Drives (st : AgentState) (v : SessionCommandVerifier) (t : Telemetry) :
    Prop where
  nowMS_eq : st.nowMS = 1050
  monotonic_eq : st.monotonic = 0
  verifier_eq : st.runtime.verifier = v
  running_eq : st.runtime.running = true
  sessionRefresh_eq : st.sessionRefresh = .pending .sleeping
  telemetry_eq : st.telemetry = .pending .sleeping
  held_eq : st.telemetryHeld = t

variable [PythonPlatform] [Ed25519]

/-- A run with these events leads to an agent that drives. -/
def Driven (v : SessionCommandVerifier) (t : Telemetry) (events : List TelemetryEvent) : Prop :=
  ∃ ls st, telemetrySystem.Run ls (st, events) ∧ st.Drives v t

variable {v : SessionCommandVerifier} {t : Telemetry} {events : List TelemetryEvent}
  {session : ActiveControlSession} {key : VerifyKey} {rawMessage senderIdentity : PyStr}
  {packet : PyValue}

theorem run_of_step {ls : List AgentLabel} {st st' : AgentState} {l : AgentLabel}
    (hrun : telemetrySystem.Run ls (st, events)) (hstep : AgentState.Step st l st') :
    telemetrySystem.Run (ls ++ [l]) (st', events ++ (st.telemetryEvent l).toList) :=
  hrun.step trivial ⟨hstep, rfl⟩

theorem driven_start (v : SessionCommandVerifier) : Driven v .empty [] := by
  let agent : AgentState :=
    { quietAgent with nowMS := 1050, monotonic := 0, runtime := .new v .new }
  exact ⟨[], agent, .init ⟨⟨⟨v, rfl⟩, rfl, .inl rfl, rfl, rfl, rfl, rfl, rfl⟩, rfl⟩,
    ⟨rfl, rfl, rfl, rfl, rfl, rfl, rfl⟩⟩

theorem Driven.load (h : Driven v t events) {payload : PyValue}
    (hload : SessionCommandVerifier.loadSession v.vehicleID payload = .ok (session, key)) :
    Driven (v.beginRefresh.2.install v.beginRefresh.1 session key) t events := by
  obtain ⟨ls, st, hrun, hst⟩ := h
  obtain ⟨hnow, hmonotonic, rfl, hrunning, hrefresh, htelemetry, hheld⟩ := hst
  have hfinish := SessionCommandVerifier.finishRefresh_of_loaded
    (v := st.runtime.verifier.beginRefresh.2) hload st.runtime.verifier.beginRefresh.1
  have hloaded := run_of_step (run_of_step hrun (.sessionRefreshWakes hrefresh rfl))
    (.sessionRefreshed rfl hfinish)
  simp only [AgentState.telemetryEvent, Option.toList_none, List.append_nil] at hloaded
  exact ⟨_, _, hloaded, ⟨hnow, hmonotonic, rfl, hrunning, rfl, htelemetry, hheld⟩⟩

theorem Driven.accept (h : Driven v t events) (hsession : v.session = some session)
    (hkey : v.verifyKey = some key) {n : ℤ}
    (hexamine : v.examine session key rawMessage senderIdentity 1050 = .ok (.passed n, packet))
    (timestamp : ℤ) (hsequence : packet.getItem "sequence" >>= pyInt = .ok n)
    (htimestamp : packet.getItem "timestamp_ms" >>= pyInt = .ok timestamp) :
    Driven { v with lastSequence := n, lastValidCmdTime := 0 }
      { t with
        latencies := t.latencies ++ [max 0 (1050 - timestamp)]
        lostCount := t.lostCount + (t.lastSequence.map (missing · n)).getD 0
        lastSequence := some n }
      (events ++ [.accepted session.sessionID n (max 0 (1050 - timestamp))]) := by
  obtain ⟨ls, st, hrun, hst⟩ := h
  obtain ⟨hnow, hmonotonic, rfl, hrunning, hrefresh, htelemetry, rfl⟩ := hst
  have hverify := SessionCommandVerifier.verifyPacket_of_passed hsession hkey hexamine 0
  rw [← hnow, ← hmonotonic] at hverify
  obtain ⟨r, result, command, hmessage, hobeys⟩ := SessionVehicleRuntime.exists_obeys hverify
  have hevent : st.telemetryEvent (.message rawMessage senderIdentity) =
      some (.accepted session.sessionID n (max 0 (1050 - timestamp))) := by
    simp only [AgentState.telemetryEvent, AgentState.acceptance, hsession, hverify, hsequence,
      htimestamp]
    rw [hnow]
  have hstep : AgentState.Step st (.message rawMessage senderIdentity) { st with runtime := r } :=
    .message hmessage
  have hheld := hstep.telemetry_step
  rw [hevent] at hheld
  have haccepted := run_of_step hrun hstep
  rw [hevent] at haccepted
  refine ⟨_, _, haccepted, ?_⟩
  refine ⟨hnow, hmonotonic, ?_, hobeys.running_eq.trans hrunning, hrefresh, htelemetry, ?_⟩
  · rw [hobeys.verifier_eq, hmonotonic]
  · generalize { st with runtime := r }.telemetryHeld = t' at hheld ⊢
    cases hheld
    rfl

theorem Driven.reject (h : Driven v t events) (hsession : v.session = some session)
    (hkey : v.verifyKey = some key)
    (hexamine : v.examine session key rawMessage senderIdentity 1050 = .ok (.rejected, packet)) :
    Driven v t events := by
  obtain ⟨ls, st, hrun, hst⟩ := h
  obtain ⟨hnow, hmonotonic, rfl, hrunning, hrefresh, htelemetry, rfl⟩ := hst
  have hverify := SessionCommandVerifier.verifyPacket_of_rejected hsession hkey hexamine 0
  rw [← hnow, ← hmonotonic] at hverify
  cases hmessage : st.runtime.onDatachannelMessage rawMessage senderIdentity st.nowMS
      st.monotonic with
  | mk r result =>
      have hevent : st.telemetryEvent (.message rawMessage senderIdentity) = none := by
        simp only [AgentState.telemetryEvent, AgentState.acceptance, hsession, hverify]
      have hstep : AgentState.Step st (.message rawMessage senderIdentity)
          { st with runtime := r } := .message hmessage
      have hheld := hstep.telemetry_step
      rw [hevent] at hheld
      have hrejected := run_of_step hrun hstep
      rw [hevent, Option.toList_none, List.append_nil] at hrejected
      rcases SessionVehicleRuntime.onDatachannelMessage_cases hverify hmessage with
        ⟨accepted, _, _, _, _, haccepted, -⟩ | ⟨-, hverifier, hsame, -⟩
      · cases haccepted
      · refine ⟨_, _, hrejected,
          ⟨hnow, hmonotonic, hverifier, hsame.trans hrunning, hrefresh, htelemetry, ?_⟩⟩
        generalize { st with runtime := r }.telemetryHeld = t' at hheld ⊢
        cases hheld
        rfl

/-- What is held is uploaded, and the call ends. -/
theorem Driven.upload (h : Driven v t events) (hsome : t.latencies ≠ [] ∨ t.lostCount ≠ 0)
    (outcome : HTTPOutcome) (hcaught : ∀ e, outcome = .raised e → e = .clientError) :
    Driven v { t with latencies := [], lostCount := 0 }
      (events ++ [.taken t.latencies.mergeSort t.lostCount] ++
        [.uploaded t.latencies.mergeSort t.lostCount outcome.accepted]) := by
  obtain ⟨ls, st, hrun, hst⟩ := h
  obtain ⟨hnow, hmonotonic, rfl, hrunning, hrefresh, htelemetry, rfl⟩ := hst
  have htake : st.runtime.takeTelemetry =
      (some (st.runtime.latencies.mergeSort, st.runtime.lostCount),
        { st.runtime with latencies := [], lostCount := 0 }) := by
    have hnonempty : ¬(st.runtime.latencies = [] ∧ st.runtime.lostCount = 0) :=
      not_and_or.mpr hsome
    rw [SessionVehicleRuntime.takeTelemetry, if_neg hnonempty]
  have htaken := run_of_step hrun (.telemetryWakes htelemetry htake)
  have hposted := run_of_step htaken (@AgentState.Step.telemetryPosted _ _ _ _ _ outcome rfl)
  simp only [AgentState.telemetryEvent, htake, contain_post hcaught, AgentState.whileRunning,
    hrunning, if_true] at hposted
  refine ⟨_, _, hposted, ⟨hnow, hmonotonic, rfl, rfl, hrefresh, rfl, ?_⟩⟩
  simp only [AgentState.telemetryHeld, AgentState.uploading, htelemetry]

end Drive

end RemoteInfra.Vehicle
