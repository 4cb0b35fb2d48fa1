import RemoteInfra.Vehicle.SessionVerifier

/-!
# The vehicle runtime

`SessionVehicleRuntime` of `control_session_receiver.py` over the `EmergencyBrakeController`
of `secure_receiver.py`.  None of their awaits suspends, so handling a message and one round
of the watchdog are each one function of the clock readings.
-/

namespace RemoteInfra.Vehicle

open RemoteInfra.Library RemoteInfra.Python

/-- The controller, with everything it was told to apply. -/
structure EmergencyBrakeController where
  inEmergency : Bool
  applied : List (String × ActuatorCommand)

namespace EmergencyBrakeController

def new : EmergencyBrakeController := ⟨false, []⟩

def applyControl (b : EmergencyBrakeController) (cmd : String) (val : ActuatorCommand) :
    EmergencyBrakeController :=
  { inEmergency := false, applied := b.applied ++ [(cmd, val)] }

def emergencyBrake (b : EmergencyBrakeController) : EmergencyBrakeController :=
  { b with inEmergency := true }

end EmergencyBrakeController

structure AuditEvent where
  event : String
  reason : String

structure SessionVehicleRuntime where
  verifier : SessionCommandVerifier
  brakeController : EmergencyBrakeController
  running : Bool
  latencies : List ℤ
  lostCount : ℤ
  lastSequence : Option ℤ
  auditEvents : List AuditEvent
  /-- an event that was never queued reads as 0 -/
  lastAuditAt : String → ℚ

namespace SessionVehicleRuntime

def new (verifier : SessionCommandVerifier) (brakeController : EmergencyBrakeController) :
    SessionVehicleRuntime where
  verifier := verifier
  brakeController := brakeController
  running := true
  latencies := []
  lostCount := 0
  lastSequence := none
  auditEvents := []
  lastAuditAt := fun _ ↦ 0

def queueAuditEvent (r : SessionVehicleRuntime) (event reason : String) (monotonic : ℚ) :
    SessionVehicleRuntime :=
  if monotonic - r.lastAuditAt event < 5 then r
  else
    { r with
      lastAuditAt := Function.update r.lastAuditAt event monotonic
      auditEvents := r.auditEvents ++ [⟨event, reason⟩] }

def countLost (r : SessionVehicleRuntime) (sequence : ℤ) : SessionVehicleRuntime :=
  { r with
    lostCount :=
      match r.lastSequence with
      | some last =>
          if sequence > last + 1 then r.lostCount + (sequence - last - 1) else r.lostCount
      | none => r.lostCount
    lastSequence := some sequence }

/-- `command["brake"] >= 1`. -/
def fullBrake (command : ActuatorCommand) : Bool :=
  match command.brake with
  | .nan => false
  | .infinity negative => !negative
  | .finite negative d => 1 ≤ if negative then -d.val else d.val

/-- The rest of `on_datachannel_message`, once a packet is accepted.  The clock is read once for
the check of the packet and for its latency, where the source reads it twice. -/
def handlePacket [PythonPlatform] (r : SessionVehicleRuntime) (packet : PyValue) (nowMS : ℤ)
    (monotonic : ℚ) : SessionVehicleRuntime × Except PyExc Unit :=
  match packet.getItem "sequence" >>= pyInt with
  | .error e => (r, .error e)
  | .ok sequence =>
      let counted := r.countLost sequence
      match packet.getItem "timestamp_ms" >>= pyInt with
      | .error e => (counted, .error e)
      | .ok timestamp =>
          let timed :=
            { counted with latencies := counted.latencies ++ [max 0 (nowMS - timestamp)] }
          match packet.getItem "command" >>= resolveCommand with
          | .error e => (timed, .error e)
          | .ok command =>
              let queued :=
                if fullBrake command then
                  timed.queueAuditEvent "emergency_stop" "remote full brake command" monotonic
                else timed
              ({ queued with
                  brakeController := queued.brakeController.applyControl "remote" command },
                .ok ())

def onDatachannelMessage [PythonPlatform] [Ed25519] (r : SessionVehicleRuntime)
    (rawMessage senderIdentity : PyStr) (nowMS : ℤ) (monotonic : ℚ) :
    SessionVehicleRuntime × Except PyExc Unit :=
  match r.verifier.verifyPacket rawMessage senderIdentity nowMS monotonic with
  | (verifier, .error e) => ({ r with verifier := verifier }, .error e)
  | (verifier, .ok none) =>
      (({ r with verifier := verifier }).queueAuditEvent "command_rejected"
        "session command validation failed" monotonic, .ok ())
  | (verifier, .ok (some packet)) =>
      ({ r with verifier := verifier }).handlePacket packet nowMS monotonic

/-- One round of `safety_watchdog`.  The clock's floats are exact rationals here, so that an elapsed
time within a rounding of the timeout may fall on the other side of it. -/
def watchdogRound (r : SessionVehicleRuntime) (timeoutMS monotonic : ℚ) :
    SessionVehicleRuntime :=
  let elapsedMS := (monotonic - r.verifier.lastValidCmdTime) * 1000
  if elapsedMS > timeoutMS then
    let braked := { r with brakeController := r.brakeController.emergencyBrake }
    if r.brakeController.inEmergency then braked
    else
      braked.queueAuditEvent "watchdog_timeout" "no valid remote control command" monotonic
  else r

/-- `audit_loop` takes the queued events to report them. -/
def takeAuditEvents (r : SessionVehicleRuntime) : List AuditEvent × SessionVehicleRuntime :=
  (r.auditEvents, { r with auditEvents := [] })

/-- `telemetry_loop` takes the latencies, sorted, and the count of lost packets. -/
def takeTelemetry (r : SessionVehicleRuntime) :
    Option (List ℤ × ℤ) × SessionVehicleRuntime :=
  if r.latencies = [] ∧ r.lostCount = 0 then (none, r)
  else
    (some (r.latencies.mergeSort, r.lostCount), { r with latencies := [], lostCount := 0 })

/-! ## What each of them leaves alone -/

@[simp] theorem queueAuditEvent_verifier (r : SessionVehicleRuntime) (event reason : String)
    (monotonic : ℚ) : (r.queueAuditEvent event reason monotonic).verifier = r.verifier := by
  unfold queueAuditEvent
  split <;> rfl

@[simp] theorem queueAuditEvent_brakeController (r : SessionVehicleRuntime)
    (event reason : String) (monotonic : ℚ) :
    (r.queueAuditEvent event reason monotonic).brakeController = r.brakeController := by
  unfold queueAuditEvent
  split <;> rfl

@[simp] theorem queueAuditEvent_running (r : SessionVehicleRuntime) (event reason : String)
    (monotonic : ℚ) : (r.queueAuditEvent event reason monotonic).running = r.running := by
  unfold queueAuditEvent
  split <;> rfl

@[simp] theorem watchdogRound_verifier (r : SessionVehicleRuntime) (timeoutMS monotonic : ℚ) :
    (r.watchdogRound timeoutMS monotonic).verifier = r.verifier := by
  simp only [watchdogRound]
  split_ifs <;> simp

@[simp] theorem watchdogRound_running (r : SessionVehicleRuntime) (timeoutMS monotonic : ℚ) :
    (r.watchdogRound timeoutMS monotonic).running = r.running := by
  simp only [watchdogRound]
  split_ifs <;> simp

@[simp] theorem watchdogRound_applied (r : SessionVehicleRuntime) (timeoutMS monotonic : ℚ) :
    (r.watchdogRound timeoutMS monotonic).brakeController.applied = r.brakeController.applied := by
  simp only [watchdogRound]
  split_ifs <;> simp [EmergencyBrakeController.emergencyBrake]

/-- After a round of the watchdog the brake is on if it was, or if the timeout has passed. -/
theorem watchdogRound_inEmergency (r : SessionVehicleRuntime) (timeoutMS monotonic : ℚ) :
    (r.watchdogRound timeoutMS monotonic).brakeController.inEmergency =
      (r.brakeController.inEmergency ||
        decide ((monotonic - r.verifier.lastValidCmdTime) * 1000 > timeoutMS)) := by
  simp only [watchdogRound]
  split_ifs with helapsed <;> simp [EmergencyBrakeController.emergencyBrake, helapsed]

@[simp] theorem takeTelemetry_verifier (r : SessionVehicleRuntime) :
    r.takeTelemetry.2.verifier = r.verifier := by
  unfold takeTelemetry
  split <;> rfl

@[simp] theorem takeTelemetry_brakeController (r : SessionVehicleRuntime) :
    r.takeTelemetry.2.brakeController = r.brakeController := by
  unfold takeTelemetry
  split <;> rfl

@[simp] theorem takeTelemetry_running (r : SessionVehicleRuntime) :
    r.takeTelemetry.2.running = r.running := by
  unfold takeTelemetry
  split <;> rfl

/-! ## Handling a message -/

/-- What handling an accepted packet comes to. -/
structure Obeys [PythonPlatform] (r : SessionVehicleRuntime) (packet : PyValue)
    (command : ActuatorCommand) (r' : SessionVehicleRuntime) : Prop where
  resolves : packet.getItem "command" >>= resolveCommand = .ok command
  verifier_eq : r'.verifier = r.verifier
  running_eq : r'.running = r.running
  brakeController_eq : r'.brakeController = r.brakeController.applyControl "remote" command

theorem handlePacket_of_passes [PythonPlatform] {r : SessionVehicleRuntime}
    {v : SessionCommandVerifier} {session : ActiveControlSession} {packet : PyValue}
    {senderIdentity : PyStr} {checkedMS sequence : ℤ}
    (hpasses : v.Passes session packet senderIdentity checkedMS sequence) (nowMS : ℤ)
    (monotonic : ℚ) :
    ∃ command r', r.handlePacket packet nowMS monotonic = (r', .ok ()) ∧
      r.Obeys packet command r' := by
  obtain ⟨x, t, hx, ht, -⟩ := hpasses.timestamp
  obtain ⟨y, hy, hsequence, -⟩ := hpasses.sequence
  obtain ⟨command, hcommand, hvalid⟩ := hpasses.command
  obtain ⟨resolved, hresolved⟩ := resolveCommand_of_validCommand hvalid
  simp only [handlePacket, hx, ht, hy, hsequence, hcommand, hresolved, ok_bind]
  refine ⟨resolved, _, rfl, ⟨?_, ?_, ?_, ?_⟩⟩
  · rw [hcommand, ok_bind, hresolved]
  all_goals split_ifs <;> simp [countLost]

/-- A message is accepted and its command applied, or it is not accepted: then the brake
controller and the time of the last valid command are as they were. -/
theorem onDatachannelMessage_cases [PythonPlatform] [Ed25519] {r r' : SessionVehicleRuntime}
    {rawMessage senderIdentity : PyStr} {nowMS : ℤ} {monotonic : ℚ}
    {v : SessionCommandVerifier} {verdict : Except PyExc (Option PyValue)}
    {result : Except PyExc Unit}
    (hverify : r.verifier.verifyPacket rawMessage senderIdentity nowMS monotonic = (v, verdict))
    (h : r.onDatachannelMessage rawMessage senderIdentity nowMS monotonic = (r', result)) :
    (∃ packet session key sequence command, verdict = .ok (some packet) ∧ result = .ok () ∧
        r.verifier.Accepts rawMessage senderIdentity nowMS monotonic packet session key sequence
          v ∧
        ({ r with verifier := v }).Obeys packet command r') ∨
      ((∀ packet, verdict ≠ .ok (some packet)) ∧ r'.verifier = v ∧ r'.running = r.running ∧
        (v = r.verifier ∨ v = r.verifier.clearSession) ∧
        r'.brakeController = r.brakeController) := by
  unfold onDatachannelMessage at h
  rw [hverify] at h
  rcases SessionCommandVerifier.verifyPacket_cases hverify with
    ⟨packet, session, key, sequence, rfl, haccepts⟩ | ⟨hrejected, hv⟩
  · obtain ⟨command, r'', hhandle, hobeys⟩ :=
      handlePacket_of_passes (r := { r with verifier := v }) haccepts.passes nowMS monotonic
    obtain ⟨rfl, rfl⟩ := Prod.mk.inj (hhandle.symm.trans h)
    exact .inl ⟨packet, session, key, sequence, command, rfl, rfl, haccepts, hobeys⟩
  · right
    match verdict, hrejected with
    | .error e, _ =>
        obtain ⟨rfl, -⟩ := Prod.mk.inj h
        exact ⟨by simp, rfl, rfl, hv, rfl⟩
    | .ok none, _ =>
        obtain ⟨rfl, -⟩ := Prod.mk.inj h
        exact ⟨by simp, by simp, by simp, hv, by simp⟩
    | .ok (some packet), hrejected => exact absurd rfl (hrejected packet)

/-- An accepted packet is obeyed. -/
theorem exists_obeys [PythonPlatform] [Ed25519] {r : SessionVehicleRuntime}
    {rawMessage senderIdentity : PyStr} {nowMS : ℤ} {monotonic : ℚ}
    {v : SessionCommandVerifier} {packet : PyValue}
    (hverify : r.verifier.verifyPacket rawMessage senderIdentity nowMS monotonic =
      (v, .ok (some packet))) :
    ∃ r' result command,
      r.onDatachannelMessage rawMessage senderIdentity nowMS monotonic = (r', result) ∧
        ({ r with verifier := v }).Obeys packet command r' := by
  cases hmessage : r.onDatachannelMessage rawMessage senderIdentity nowMS monotonic with
  | mk r' result =>
      rcases onDatachannelMessage_cases hverify hmessage with
        ⟨accepted, _, _, _, command, haccepted, -, -, hobeys⟩ | ⟨hrejected, -⟩
      · obtain rfl : packet = accepted := Option.some.inj (Except.ok.inj haccepted)
        exact ⟨r', result, command, rfl, hobeys⟩
      · exact absurd rfl (hrejected packet)

end SessionVehicleRuntime

end RemoteInfra.Vehicle
