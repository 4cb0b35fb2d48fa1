import Mathlib.Tactic.Linarith
import RemoteInfra.Library.TransitionSystem
import RemoteInfra.Vehicle.Runtime

/-!
# Runs of the vehicle runtime and the safety of its watchdog

Messages, refreshes, rounds of the watchdog, and the loops that take the audit events and the
telemetry share one runtime.  Time passes between their steps.
-/

namespace RemoteInfra.Vehicle

open RemoteInfra.Library RemoteInfra.Python

structure RuntimeState where
  nowMS : ℤ
  monotonic : ℚ
  runtime : SessionVehicleRuntime
  /-- every refresh ever started; `none` once it has ended -/
  flights : List (Option SessionCommandVerifier.Refresh)
  /-- when a packet was last accepted, or the verifier created; for the statements only -/
  lastAccepted : ℚ
  /-- when the watchdog last looked, once it has; for the statements only -/
  lastRound : Option ℚ

inductive RuntimeLabel
  | time (nowMS : ℤ) (monotonic : ℚ)
  | beginRefresh
  | finishRefresh (i : ℕ) (outcome : SessionCommandVerifier.RefreshOutcome)
      (result : Except PyExc Unit)
  | message (rawMessage senderIdentity : PyStr) (verdict : Except PyExc (Option PyValue))
  | watchdog
  | audit (events : List AuditEvent)
  | telemetry (report : Option (List ℤ × ℤ))
  | stop

namespace RuntimeState

def inEmergency (st : RuntimeState) : Bool := st.runtime.brakeController.inEmergency

/-- The time of an acceptance is the present. -/
def acceptedAt (st : RuntimeState) : Except PyExc (Option PyValue) → ℚ
  | .ok (some _) => st.monotonic
  | _ => st.lastAccepted

inductive Step [PythonPlatform] [Ed25519] (timeoutMS : ℚ) :
    RuntimeState → RuntimeLabel → RuntimeState → Prop
  /-- the wall clock may be set back -/
  | time {st : RuntimeState} {nowMS : ℤ} {monotonic : ℚ} :
      st.monotonic ≤ monotonic →
        Step timeoutMS st (.time nowMS monotonic)
          { st with nowMS := nowMS, monotonic := monotonic }
  | beginRefresh {st : RuntimeState} {refresh : SessionCommandVerifier.Refresh}
      {v : SessionCommandVerifier} :
      st.runtime.verifier.beginRefresh = (refresh, v) →
        Step timeoutMS st .beginRefresh
          { st with
            runtime := { st.runtime with verifier := v }
            flights := st.flights ++ [some refresh] }
  | finishRefresh {st : RuntimeState} {i : ℕ} {refresh : SessionCommandVerifier.Refresh}
      {outcome : SessionCommandVerifier.RefreshOutcome} {v : SessionCommandVerifier}
      {result : Except PyExc Unit} :
      st.flights[i]? = some (some refresh) →
        st.runtime.verifier.finishRefresh refresh outcome = (v, result) →
          Step timeoutMS st (.finishRefresh i outcome result)
            { st with
              runtime := { st.runtime with verifier := v }
              flights := st.flights.set i none }
  | message {st : RuntimeState} {rawMessage senderIdentity : PyStr}
      {v : SessionCommandVerifier} {verdict : Except PyExc (Option PyValue)}
      {r : SessionVehicleRuntime} {result : Except PyExc Unit} :
      st.runtime.verifier.verifyPacket rawMessage senderIdentity st.nowMS st.monotonic =
          (v, verdict) →
        st.runtime.onDatachannelMessage rawMessage senderIdentity st.nowMS st.monotonic =
            (r, result) →
          Step timeoutMS st (.message rawMessage senderIdentity verdict)
            { st with runtime := r, lastAccepted := st.acceptedAt verdict }
  | watchdog {st : RuntimeState} :
      st.runtime.running = true →
        Step timeoutMS st .watchdog
          { st with
            runtime := st.runtime.watchdogRound timeoutMS st.monotonic
            lastRound := some st.monotonic }
  | audit {st : RuntimeState} {events : List AuditEvent} {r : SessionVehicleRuntime} :
      st.runtime.running = true → st.runtime.takeAuditEvents = (events, r) →
        Step timeoutMS st (.audit events) { st with runtime := r }
  | telemetry {st : RuntimeState} {report : Option (List ℤ × ℤ)} {r : SessionVehicleRuntime} :
      st.runtime.running = true → st.runtime.takeTelemetry = (report, r) →
        Step timeoutMS st (.telemetry report) { st with runtime := r }
  | stop {st : RuntimeState} :
      Step timeoutMS st .stop { st with runtime := { st.runtime with running := false } }

end RuntimeState

/-- A runtime as constructed, over a verifier as constructed. -/
def RuntimeState.Initial (st : RuntimeState) : Prop :=
  (∃ vehicleID maxAgeMS maxFutureSkewMS, st.runtime =
    .new (.new vehicleID maxAgeMS maxFutureSkewMS st.monotonic) .new) ∧
    st.flights = [] ∧ st.lastAccepted = st.monotonic ∧ st.lastRound = none

def runtimeSystem [PythonPlatform] [Ed25519] (timeoutMS : ℚ) :
    TransitionSystem RuntimeState RuntimeLabel where
  Init := RuntimeState.Initial
  Step := RuntimeState.Step timeoutMS

/-! ## What one step does to brake and clock -/

/-- The brake and the time of the last valid command are as they were. -/
structure KeepsBrake (st st' : RuntimeState) : Prop where
  inEmergency_eq : st'.inEmergency = st.inEmergency
  lastValidCmdTime_eq :
    st'.runtime.verifier.lastValidCmdTime = st.runtime.verifier.lastValidCmdTime
  lastAccepted_eq : st'.lastAccepted = st.lastAccepted

/-- A step keeps brake and time, or is a round of the watchdog, or accepts a packet. -/
theorem RuntimeState.Step.cases_brake [PythonPlatform] [Ed25519] {timeoutMS : ℚ}
    {st st' : RuntimeState} {l : RuntimeLabel} (h : Step timeoutMS st l st') :
    (∃ nowMS monotonic, l = .time nowMS monotonic ∧ st.monotonic ≤ monotonic ∧
        st'.monotonic = monotonic ∧ st'.lastRound = st.lastRound ∧ KeepsBrake st st') ∨
      (l = .watchdog ∧ st'.monotonic = st.monotonic ∧ st'.lastRound = some st.monotonic ∧
        st'.runtime = st.runtime.watchdogRound timeoutMS st.monotonic ∧
        st'.lastAccepted = st.lastAccepted) ∨
      (∃ rawMessage senderIdentity packet, l = .message rawMessage senderIdentity (.ok (some packet))
        ∧ st'.monotonic = st.monotonic ∧ st'.lastRound = st.lastRound ∧
        st'.lastAccepted = st.monotonic ∧
        st'.runtime.verifier.lastValidCmdTime = st.monotonic) ∨
      (l ≠ .watchdog ∧ (∀ rawMessage senderIdentity packet,
          l ≠ .message rawMessage senderIdentity (.ok (some packet))) ∧
        st'.monotonic = st.monotonic ∧ st'.lastRound = st.lastRound ∧ KeepsBrake st st') := by
  cases h with
  | time hmonotonic =>
      exact .inl ⟨_, _, rfl, hmonotonic, rfl, rfl, rfl, rfl, rfl⟩
  | beginRefresh hbegin =>
      obtain ⟨-, rfl⟩ := Prod.mk.inj hbegin
      exact .inr (.inr (.inr ⟨by simp, by simp, rfl, rfl, rfl, rfl, rfl⟩))
  | finishRefresh _ hfinish =>
      refine .inr (.inr (.inr ⟨by simp, by simp, rfl, rfl, rfl, ?_, rfl⟩))
      rcases SessionCommandVerifier.finishRefresh_cases hfinish with
        rfl | ⟨payload, session, key, -, -, -, rfl⟩
      · rfl
      · rfl
  | message hverify hmessage =>
      rcases SessionVehicleRuntime.onDatachannelMessage_cases hverify hmessage with
        ⟨packet, session, key, sequence, command, rfl, -, haccepts, hobeys⟩ |
          ⟨hrejected, hverifier, -, hv, hbrake⟩
      · refine .inr (.inr (.inl ⟨_, _, packet, rfl, rfl, rfl, rfl, ?_⟩))
        simp only [hobeys.verifier_eq, haccepts.state_eq]
      · refine .inr (.inr (.inr ⟨by simp, ?_, rfl, rfl, ?_, ?_, ?_⟩))
        · rintro _ _ packet ⟨⟩
          exact hrejected packet rfl
        · simp only [inEmergency, hbrake]
        · simp only [hverifier]
          rcases hv with rfl | rfl <;> rfl
        · simp only [acceptedAt]
  | watchdog _ => exact .inr (.inl ⟨rfl, rfl, rfl, rfl, rfl⟩)
  | audit _ htake =>
      obtain ⟨-, rfl⟩ := Prod.mk.inj htake
      exact .inr (.inr (.inr ⟨by simp, by simp, rfl, rfl, rfl, rfl, rfl⟩))
  | @telemetry report r _ htake =>
      obtain rfl : st.runtime.takeTelemetry.2 = r := congrArg Prod.snd htake
      exact .inr (.inr (.inr ⟨by simp, by simp, rfl, rfl, by simp [inEmergency], by simp, rfl⟩))
  | stop => exact .inr (.inr (.inr ⟨by simp, by simp, rfl, rfl, rfl, rfl, rfl⟩))

/-! ## The watchdog -/

/-- Asked of every step: time does not pass `d` milliseconds beyond the last round. -/
def RoundsWithin (d : ℚ) : TransitionSystem.StepCondition RuntimeState RuntimeLabel
  | _, st, .time _ monotonic => ∀ round, st.lastRound = some round →
      (monotonic - round) * 1000 ≤ d
  | _, _, _ => True

/-- The verifier keeps the time of the last acceptance, and the brake was on when the watchdog
last looked and found the timeout passed. -/
structure Watched (timeoutMS : ℚ) (st : RuntimeState) : Prop where
  lastValidCmdTime_eq : st.runtime.verifier.lastValidCmdTime = st.lastAccepted
  notAhead : ∀ round, st.lastRound = some round → round ≤ st.monotonic
  braked : 0 ≤ timeoutMS → ∀ round, st.lastRound = some round →
    (round - st.lastAccepted) * 1000 > timeoutMS → st.inEmergency = true

theorem Watched.step [PythonPlatform] [Ed25519] {timeoutMS : ℚ} {st st' : RuntimeState}
    {l : RuntimeLabel} (h : Watched timeoutMS st)
    (hstep : RuntimeState.Step timeoutMS st l st') : Watched timeoutMS st' := by
  rcases hstep.cases_brake with
    ⟨nowMS, monotonic, -, hle, hmonotonic, hround, hkeeps⟩ |
      ⟨-, hmonotonic, hround, hruntime, haccepted⟩ |
      ⟨rawMessage, senderIdentity, packet, -, hmonotonic, hround, haccepted, hvalid⟩ |
      ⟨-, -, hmonotonic, hround, hkeeps⟩
  · refine ⟨?_, ?_, ?_⟩
    · rw [hkeeps.lastValidCmdTime_eq, hkeeps.lastAccepted_eq, h.lastValidCmdTime_eq]
    · rw [hround, hmonotonic]
      exact fun round hr ↦ (h.notAhead round hr).trans hle
    · rw [hround, hkeeps.lastAccepted_eq, hkeeps.inEmergency_eq]
      exact h.braked
  · refine ⟨?_, ?_, ?_⟩
    · rw [hruntime, haccepted, SessionVehicleRuntime.watchdogRound_verifier,
        h.lastValidCmdTime_eq]
    · rw [hround, hmonotonic]
      exact fun round hr ↦ (Option.some.inj hr).ge
    · intro _ round hr helapsed
      obtain rfl : st.monotonic = round := Option.some.inj (hround.symm.trans hr)
      rw [haccepted] at helapsed
      rw [RuntimeState.inEmergency, hruntime, SessionVehicleRuntime.watchdogRound_inEmergency,
        h.lastValidCmdTime_eq]
      simp [helapsed]
  · refine ⟨hvalid.trans haccepted.symm, ?_, ?_⟩
    · rw [hround, hmonotonic]
      exact h.notAhead
    · -- the watchdog has not looked since the acceptance
      intro htimeout round hr helapsed
      have hle : round ≤ st.monotonic := h.notAhead round (hround ▸ hr)
      rw [haccepted] at helapsed
      linarith
  · refine ⟨?_, ?_, ?_⟩
    · rw [hkeeps.lastValidCmdTime_eq, hkeeps.lastAccepted_eq, h.lastValidCmdTime_eq]
    · rw [hround, hmonotonic]
      exact h.notAhead
    · rw [hround, hkeeps.lastAccepted_eq, hkeeps.inEmergency_eq]
      exact h.braked

theorem Watched.of_run [PythonPlatform] [Ed25519] {timeoutMS : ℚ} {ls : List RuntimeLabel}
    {st : RuntimeState} (hrun : (runtimeSystem timeoutMS).Run ls st) : Watched timeoutMS st := by
  refine hrun.invariant (P := fun _ st ↦ Watched timeoutMS st) ?_ ?_
  · rintro st ⟨⟨vehicleID, maxAgeMS, maxFutureSkewMS, hruntime⟩, -, haccepted, hround⟩
    refine ⟨?_, by simp [hround], by simp [hround]⟩
    rw [hruntime, haccepted]
    rfl
  · intro ls st l st' _ h _ hstep
    exact h.step hstep

theorem withinRound_of_run [PythonPlatform] [Ed25519] {timeoutMS d : ℚ} (hd : 0 ≤ d)
    {ls : List RuntimeLabel} {st : RuntimeState}
    (hrun : (runtimeSystem timeoutMS).RunWhere (RoundsWithin d) ls st) :
    ∀ round, st.lastRound = some round → (st.monotonic - round) * 1000 ≤ d := by
  refine hrun.invariant
    (P := fun _ st ↦ ∀ round, st.lastRound = some round → (st.monotonic - round) * 1000 ≤ d)
    ?_ ?_
  · rintro st ⟨-, -, -, hround⟩
    simp [hround]
  · intro ls st l st' _ h hwithin hstep
    rcases hstep.cases_brake with
      ⟨nowMS, monotonic, rfl, -, hmonotonic, hround, -⟩ | ⟨-, hmonotonic, hround, -⟩ |
        ⟨rawMessage, senderIdentity, packet, -, hmonotonic, hround, -⟩ |
        ⟨-, -, hmonotonic, hround, -⟩
    · rw [hround, hmonotonic]
      exact hwithin
    · rw [hround, hmonotonic]
      rintro round ⟨⟩
      simpa using hd
    · rw [hround, hmonotonic]
      exact h
    · rw [hround, hmonotonic]
      exact h

/-- After every round of the watchdog the brake is on if the timeout has passed since the last
acceptance; only an accepted message takes it off; a message that is not accepted leaves the
time of the last valid command alone.  So, with rounds at most `d` apart, the brake is on at
every instant later than the timeout and `d` after the last acceptance. -/
theorem watchdog_keeps_brake [PythonPlatform] [Ed25519] {timeoutMS : ℚ}
    {ls : List RuntimeLabel} {st : RuntimeState}
    (hrun : (runtimeSystem timeoutMS).Run ls st) :
    (∀ st', (runtimeSystem timeoutMS).Step st .watchdog st' →
        (st'.monotonic - st'.lastAccepted) * 1000 > timeoutMS → st'.inEmergency = true) ∧
      (∀ l st', (runtimeSystem timeoutMS).Step st l st' → st.inEmergency = true →
        st'.inEmergency = false →
          ∃ rawMessage senderIdentity packet,
            l = .message rawMessage senderIdentity (.ok (some packet))) ∧
      (∀ rawMessage senderIdentity verdict st',
        (runtimeSystem timeoutMS).Step st (.message rawMessage senderIdentity verdict) st' →
          (∀ packet, verdict ≠ .ok (some packet)) →
            st'.runtime.verifier.lastValidCmdTime = st.runtime.verifier.lastValidCmdTime) ∧
      (∀ d, 0 ≤ timeoutMS → 0 ≤ d → (runtimeSystem timeoutMS).RunWhere (RoundsWithin d) ls st →
        st.lastRound ≠ none → (st.monotonic - st.lastAccepted) * 1000 > timeoutMS + d →
          st.inEmergency = true) := by
  have hwatched := Watched.of_run hrun
  refine ⟨fun st' hstep helapsed ↦ ?_, fun l st' hstep hon hoff ↦ ?_,
    fun rawMessage senderIdentity verdict st' hstep hrejected ↦ ?_,
    fun d htimeout hd hrounds hround helapsed ↦ ?_⟩
  · rcases RuntimeState.Step.cases_brake hstep with
      ⟨_, _, ⟨⟩, -⟩ | ⟨-, hmonotonic, -, hruntime, haccepted⟩ | ⟨_, _, _, ⟨⟩, -⟩ | ⟨hother, -⟩
    · rw [hmonotonic, haccepted, ← hwatched.lastValidCmdTime_eq] at helapsed
      rw [RuntimeState.inEmergency, hruntime, SessionVehicleRuntime.watchdogRound_inEmergency]
      simp [helapsed]
    · exact absurd rfl hother
  · rcases RuntimeState.Step.cases_brake hstep with
      ⟨_, _, -, -, -, -, hkeeps⟩ | ⟨-, -, -, hruntime, -⟩ |
        ⟨rawMessage, senderIdentity, packet, rfl, -⟩ | ⟨-, -, -, -, hkeeps⟩
    · simp [hkeeps.inEmergency_eq, hon] at hoff
    · rw [RuntimeState.inEmergency, hruntime,
        SessionVehicleRuntime.watchdogRound_inEmergency] at hoff
      rw [RuntimeState.inEmergency] at hon
      simp [hon] at hoff
    · exact ⟨rawMessage, senderIdentity, packet, rfl⟩
    · simp [hkeeps.inEmergency_eq, hon] at hoff
  · rcases RuntimeState.Step.cases_brake hstep with
      ⟨_, _, ⟨⟩, -⟩ | ⟨⟨⟩, -⟩ | ⟨_, _, packet, hl, -⟩ | ⟨-, -, -, -, hkeeps⟩
    · cases hl
      exact absurd rfl (hrejected packet)
    · exact hkeeps.lastValidCmdTime_eq
  · obtain ⟨round, hr⟩ := Option.ne_none_iff_exists'.mp hround
    have hwithin := withinRound_of_run hd hrounds round hr
    refine hwatched.braked htimeout round hr ?_
    linarith

/-- An accepted message is a step of the runtime. -/
theorem exists_message_step [PythonPlatform] [Ed25519] (timeoutMS : ℚ) (st : RuntimeState)
    {rawMessage senderIdentity : PyStr} {v : SessionCommandVerifier} {packet : PyValue}
    (hverify : st.runtime.verifier.verifyPacket rawMessage senderIdentity st.nowMS
      st.monotonic = (v, .ok (some packet))) :
    ∃ r command, ({ st.runtime with verifier := v }).Obeys packet command r ∧
      RuntimeState.Step timeoutMS st (.message rawMessage senderIdentity (.ok (some packet)))
        { st with runtime := r, lastAccepted := st.monotonic } := by
  obtain ⟨r, result, command, hmessage, hobeys⟩ := SessionVehicleRuntime.exists_obeys hverify
  exact ⟨r, command, hobeys, .message hverify hmessage⟩

/-- The brake is on when the first packet comes; then the operator falls silent. -/
def silence : List RuntimeLabel :=
  [.beginRefresh, .finishRefresh 0 (.answered 200 (sessionPayload drivingSession)) (.ok ()),
    .time 1050 1, .watchdog, .message firstMessage sampleSender (.ok (some firstPacket)),
    .time 1250 (6 / 5), .watchdog, .time 1450 (7 / 5), .watchdog, .time 1600 (31 / 20)]

/-- The packet takes the brake off; 550 milliseconds later it is on again. -/
theorem watchdog_keeps_brake_silence :
    ∃ st, (@runtimeSystem PythonPlatform.ascii Ed25519.driving 300).RunWhere (RoundsWithin 200)
        silence st ∧
      st.lastAccepted = 1 ∧ st.monotonic = 31 / 20 ∧ st.inEmergency = true := by
  let := PythonPlatform.ascii
  let := Ed25519.driving
  let runtime : SessionVehicleRuntime :=
    .new (.new (PyStr.ofString "car-001") 100 100 0) .new
  let loaded : SessionVehicleRuntime := { runtime with verifier := drivingVerifier }
  have hinit : (runtimeSystem 300).RunWhere (RoundsWithin 200) []
      ⟨1000, 0, runtime, [], 0, none⟩ := .init ⟨⟨_, _, _, rfl⟩, rfl, rfl, rfl⟩
  have hbegin : (runtimeSystem 300).RunWhere (RoundsWithin 200) (silence.take 1)
      ⟨1000, 0, runtime, [some ⟨.none, 0⟩], 0, none⟩ := .step hinit trivial (.beginRefresh rfl)
  have hloaded : (runtimeSystem 300).RunWhere (RoundsWithin 200) (silence.take 2)
      ⟨1000, 0, loaded, [none], 0, none⟩ :=
    .step hbegin trivial (.finishRefresh rfl
      (SessionCommandVerifier.finishRefresh_of_loaded loadSession_drivingPayloads.1 _))
  have hsecond : (runtimeSystem 300).RunWhere (RoundsWithin 200) (silence.take 3)
      ⟨1050, 1, loaded, [none], 0, none⟩ :=
    .step hloaded (by simp [RoundsWithin]) (.time zero_le_one)
  have hbraked : (runtimeSystem 300).RunWhere (RoundsWithin 200) (silence.take 4)
      ⟨1050, 1, loaded.watchdogRound 300 1, [none], 0, some 1⟩ :=
    .step hsecond trivial (.watchdog rfl)
  have hverify : (loaded.watchdogRound 300 1).verifier.verifyPacket firstMessage sampleSender
      1050 1 = ({ drivingVerifier with lastSequence := 1, lastValidCmdTime := 1 },
        .ok (some firstPacket)) := by
    rw [SessionVehicleRuntime.watchdogRound_verifier]
    exact SessionCommandVerifier.verifyPacket_of_passed rfl rfl examine_drivingMessages.1 1
  obtain ⟨r, command, hobeys, hstep⟩ := exists_message_step 300
    ⟨1050, 1, loaded.watchdogRound 300 1, [none], 0, some 1⟩ hverify
  have hrunning : r.running = true := by
    rw [hobeys.running_eq]
    exact SessionVehicleRuntime.watchdogRound_running _ _ _
  have haccepted : (runtimeSystem 300).RunWhere (RoundsWithin 200) (silence.take 5)
      ⟨1050, 1, r, [none], 1, some 1⟩ := .step hbraked trivial hstep
  have hlater : (runtimeSystem 300).RunWhere (RoundsWithin 200) (silence.take 6)
      ⟨1250, 6 / 5, r, [none], 1, some 1⟩ :=
    .step haccepted (by norm_num [RoundsWithin]) (.time (by norm_num))
  have hround : (runtimeSystem 300).RunWhere (RoundsWithin 200) (silence.take 7)
      ⟨1250, 6 / 5, r.watchdogRound 300 (6 / 5), [none], 1, some (6 / 5)⟩ :=
    .step hlater trivial (.watchdog hrunning)
  have hlate : (runtimeSystem 300).RunWhere (RoundsWithin 200) (silence.take 8)
      ⟨1450, 7 / 5, r.watchdogRound 300 (6 / 5), [none], 1, some (6 / 5)⟩ :=
    .step hround (by norm_num [RoundsWithin]) (.time (by norm_num))
  have hbrakes : (runtimeSystem 300).RunWhere (RoundsWithin 200) (silence.take 9)
      ⟨1450, 7 / 5, (r.watchdogRound 300 (6 / 5)).watchdogRound 300 (7 / 5), [none], 1,
        some (7 / 5)⟩ :=
    .step hlate trivial
      (.watchdog ((SessionVehicleRuntime.watchdogRound_running _ _ _).trans hrunning))
  have hsilent : (runtimeSystem 300).RunWhere (RoundsWithin 200) silence
      ⟨1600, 31 / 20, (r.watchdogRound 300 (6 / 5)).watchdogRound 300 (7 / 5), [none], 1,
        some (7 / 5)⟩ :=
    .step hbrakes (by norm_num [RoundsWithin]) (.time (by norm_num))
  exact ⟨_, hsilent, rfl, rfl, (watchdog_keeps_brake hsilent.toRun).2.2.2 200 (by norm_num)
    (by norm_num) hsilent (by simp) (by norm_num)⟩

end RemoteInfra.Vehicle
