import RemoteInfra.EndToEnd.World
import RemoteInfra.Gateway.LeaseExpiry
import RemoteInfra.Vehicle.VerifierRuns

/-!
# No overlap of controllers through expiry

Gateway, Redis and vehicle read one clock.  The vehicle works from a copy of the lease that
may be old, but the expiry in that copy is never later than the deadline of the key, so while
the vehicle accepts a session's packets the lease is still that session's.
-/

namespace RemoteInfra.EndToEnd

open RemoteInfra.Library RemoteInfra.Python RemoteInfra.Gateway RemoteInfra.Vehicle

/-- Asked of every step: the gateway and the vehicle read the clock of Redis. -/
def OneClock : TransitionSystem.StepCondition World WorldLabel
  | _, w, .gateway (.exec _ _ .timeNow t) => t = w.gateway.shared.clock
  | _, w, .vehicle (.message _ _ _) => w.vehicle.nowMS = w.gateway.shared.clock
  | _, _, _ => True

theorem readsClock_of_oneClock (ls : List WorldLabel) (w : World) (l : GatewayLabel GatewayCall)
    (h : OneClock ls w (.gateway l)) : ReadsClock (gatewayLabels ls) w.gateway l := by
  cases l with
  | spawn | env => trivial
  | exec i c e r =>
      cases e with
      | timeNow => exact h
      | newUUID | redis | issueOperatorToken | recordAudit => trivial

/-- A message that is accepted is accepted under a session that was read from the lease of the
vehicle. -/
theorem accepted_under_lease [Cjson] [PythonPlatform] [Ed25519] {g : GatewayConfig}
    {timeoutMS : ℚ} {C : TransitionSystem.StepCondition World WorldLabel} {ls : List WorldLabel}
    {w w' : World} (hrun : (worldSystem g timeoutMS).RunWhere C ls w)
    {rawMessage senderIdentity : PyStr} {packet : PyValue}
    (hstep : (worldSystem g timeoutMS).Step w
      (.vehicle (.message rawMessage senderIdentity (.ok (some packet)))) w') :
    ∃ s r publicKeyB64 key sequence v, LeaseRead ls r.vehicleID s ∧
      AcquiredBy g (gatewayLabels ls) r publicKeyB64 s ∧
      Installed ls w.verifier (activeSession s) key s ∧
      w.verifier.Accepts rawMessage senderIdentity w.vehicle.nowMS w.vehicle.monotonic packet
        (activeSession s) key sequence v := by
  cases hstep with
  | vehicle _ hvehicle =>
      cases hvehicle with
      | message hverify _ =>
          rcases SessionCommandVerifier.verifyPacket_cases hverify with
            ⟨packet', session, key, sequence, hpacket, haccepts⟩ | ⟨hrejected, -⟩
          · obtain rfl := Option.some.inj (Except.ok.inj hpacket)
            obtain ⟨s, hinstalled⟩ :=
              installed_of_run hrun haccepts.session_eq haccepts.verifyKey_eq
            obtain rfl := hinstalled.session_eq
            obtain ⟨leaseOf, hread⟩ := hinstalled.read
            obtain ⟨i, c, raw, hmem, rfl⟩ := id hread
            have hgateway : (handlerPool g).system.Run (gatewayLabels ls) w.gateway :=
              gatewayRun_of_run (fun _ _ _ _ ↦ trivial) hrun
            obtain ⟨r, publicKeyB64, rfl, hacquired⟩ :=
              acquiredBy_of_read hgateway (mem_gatewayLabels.mpr hmem)
            exact ⟨raw.session, r, publicKeyB64, key, sequence, _, hread, hacquired, hinstalled,
              haccepts⟩
          · exact absurd rfl (hrejected packet)

/-- While a packet of a session is accepted, the lease of the vehicle holds that session,
unless the session was released. -/
theorem lease_held_while_accepted [Cjson] [PythonPlatform] [Ed25519] {g : GatewayConfig}
    {timeoutMS : ℚ} {ls : List WorldLabel} {w w' : World}
    (hrun : (worldSystem g timeoutMS).RunWhere OneClock ls w)
    {rawMessage senderIdentity : PyStr} {packet : PyValue}
    (hclock : OneClock ls w
      (.vehicle (.message rawMessage senderIdentity (.ok (some packet)))))
    (hstep : (worldSystem g timeoutMS).Step w
      (.vehicle (.message rawMessage senderIdentity (.ok (some packet)))) w') :
    ∃ v sessionID x, v.ValidUTF8 ∧ toPy v = w.verifier.vehicleID ∧ sessionID.ValidUTF8 ∧
      packet.getItem "session_id" = .ok x ∧ x.eq (.str (toPy sessionID)) = true ∧
      (Released (gatewayLabels ls) sessionID ∨
        ∃ e, w.gateway.shared.redis.live w.gateway.shared.clock (.controlLease v) = some e ∧
          e.value.session.sessionID = sessionID) := by
  obtain ⟨s, r, publicKeyB64, key, sequence, _, ⟨i, c, raw, hmem, rfl⟩, hacquired, hinstalled,
    haccepts⟩ := accepted_under_lease hrun hstep
  have hvalid : r.vehicleID.ValidUTF8 :=
    VehicleAuthorizer.validUTF8_of_authorize hacquired.admitted.authorize_eq
  obtain ⟨j, sessionID, now, reply, -, -, hsession⟩ := hacquired.stored
  have hvehicle : toPy r.vehicleID = w.verifier.vehicleID := by
    rw [← hinstalled.vehicleID_eq, hsession]
    simp [ControlSession.marshal, AcquireControlRequest.session]
  have hid : raw.session.sessionID.ValidUTF8 := by
    rw [hsession]
    exact GoString.validUTF8_throughJSON sessionID
  obtain ⟨x, hx, heq⟩ := haccepts.passes.sessionID
  refine ⟨r.vehicleID, raw.session.sessionID, x, hvalid, hvehicle, hid, hx, heq, ?_⟩
  have hgateway := gatewayRun_of_run readsClock_of_oneClock hrun
  have hcovered := covered_of_read hgateway (mem_gatewayLabels.mpr hmem)
  have hnow : w.gateway.shared.clock ≤ raw.session.expiresAtMS := by
    have hnotExpired : w.vehicle.nowMS ≤ raw.session.expiresAtMS := haccepts.passes.notExpired
    rwa [show w.vehicle.nowMS = w.gateway.shared.clock from hclock] at hnotExpired
  rcases hcovered.held with hreleased | hpast | ⟨e, hlive, hholds, -⟩
  · exact .inl hreleased
  · exact absurd hpast (not_lt.mpr hnow)
  · exact .inr ⟨e, hlive, hholds⟩

section Sample

/-! ## Alice drives car-001 -/

/-- Alice acquires, and the vehicle reads the lease. -/
def sampleAcquire : List (GatewayLabel GatewayCall) :=
  [.spawn (.acquireControl aliceRequest),
    .exec 0 (.acquireControl aliceRequest) .timeNow (0 : ℤ),
    .exec 0 (.acquireControl aliceRequest) .newUUID (GoString.ofString "s-1"),
    .exec 0 (.acquireControl aliceRequest) (.redis (.acquireScript leasedSession.vehicleID
      leasedSession.sessionID leasedSession.marshal 5000 leasedSession.vehicleID)) (.ok (1 : ℤ)),
    .spawn (.getControl pollRequest),
    .exec 1 (.getControl pollRequest) (.redis (.get (.controlLease leasedSession.vehicleID)))
      (.ok (some leasedSession.marshal)),
    .env 1050]

/-- Asked of every step of the sample: the clock is read as it is, and only alice acquires. -/
def SampleStep : TransitionSystem.StepCondition (GatewayPool GatewayCall HTTPResponse)
    (GatewayLabel GatewayCall)
  | ls, st, l => ReadsClock ls st l ∧
      ∀ r, l = .spawn (.acquireControl r) → r = aliceRequest

/-- The gateway once alice has acquired and the vehicle has read, at time `clock`. -/
def leasedGateway (clock : ℤ) (p q : GatewayProgram HTTPResponse) :
    GatewayPool GatewayCall HTTPResponse :=
  ⟨⟨clock, leasedRedis, [GoString.ofString "s-1"]⟩,
    [(.acquireControl aliceRequest, p), (.getControl pollRequest, q)]⟩

theorem sampleAcquire_run [Cjson] : ∃ p,
    (handlerPool sampleGateway).system.RunWhere SampleStep sampleAcquire
      (leasedGateway 1050 p (.pure ⟨200, .control leasedSession [] 0⟩)) := by
  obtain ⟨tail, htail⟩ := handleAcquireControl_of_check check_aliceRequest
  have hself : vehicleSelfMatches pollRequest.claims pollRequest.vehicleID
      sampleGateway.vehicleIdentities = true := by decide +kernel
  obtain ⟨next, hnext, hanswer⟩ := handleGetControl_of_self rfl hself
  let S := handlerPool sampleGateway
  let c := GatewayCall.acquireControl aliceRequest
  let sessionID := GoString.ofString "s-1"
  have hinit : S.system.RunWhere SampleStep [] ⟨⟨0, Store.empty, []⟩, []⟩ := .init ⟨rfl, rfl⟩
  have hspawn : S.system.RunWhere SampleStep [.spawn c]
      ⟨⟨0, Store.empty, []⟩, [(c, handleAcquireControl sampleGateway aliceRequest)]⟩ :=
    .step hinit
      ⟨trivial, fun r hr ↦ (GatewayCall.acquireControl.inj (PoolLabel.spawn.inj hr)).symm⟩
      (.spawn _ _ _)
  rw [htail] at hspawn
  have htime : S.system.RunWhere SampleStep [.spawn c, .exec 0 c .timeNow (0 : ℤ)]
      ⟨⟨0, Store.empty, []⟩, [(c, _)]⟩ :=
    .step hspawn ⟨rfl, by simp⟩ (.exec rfl (.timeNow 0))
  have hid : S.system.RunWhere SampleStep
      [.spawn c, .exec 0 c .timeNow (0 : ℤ), .exec 0 c .newUUID sessionID]
      ⟨⟨0, Store.empty, [sessionID]⟩, [(c, _)]⟩ :=
    .step htime ⟨trivial, by simp⟩ (.exec rfl (.newUUID (by simp)
      (GoString.validUTF8_ofString _) (by decide)))
  have hscript : S.system.RunWhere SampleStep
      [.spawn c, .exec 0 c .timeNow (0 : ℤ), .exec 0 c .newUUID sessionID,
        .exec 0 c (.redis (.acquireScript leasedSession.vehicleID sessionID leasedSession.marshal
          5000 leasedSession.vehicleID)) (.ok (1 : ℤ))]
      ⟨⟨0, leasedRedis, [sessionID]⟩, [(c, _)]⟩ :=
    .step hid ⟨trivial, by simp⟩ (.exec rfl (Effect.Exec.ran rfl .heard))
  have hpoll : S.system.RunWhere SampleStep
      [.spawn c, .exec 0 c .timeNow (0 : ℤ), .exec 0 c .newUUID sessionID,
        .exec 0 c (.redis (.acquireScript leasedSession.vehicleID sessionID leasedSession.marshal
          5000 leasedSession.vehicleID)) (.ok (1 : ℤ)), .spawn (.getControl pollRequest)]
      (leasedGateway 0 _ (handleGetControl sampleGateway pollRequest)) :=
    .step hscript ⟨trivial, by simp⟩ (.spawn _ _ _)
  rw [hnext] at hpoll
  have hread : S.system.RunWhere SampleStep
      [.spawn c, .exec 0 c .timeNow (0 : ℤ), .exec 0 c .newUUID sessionID,
        .exec 0 c (.redis (.acquireScript leasedSession.vehicleID sessionID leasedSession.marshal
          5000 leasedSession.vehicleID)) (.ok (1 : ℤ)), .spawn (.getControl pollRequest),
        .exec 1 (.getControl pollRequest) (.redis (.get (.controlLease leasedSession.vehicleID)))
          (.ok (some leasedSession.marshal))]
      (leasedGateway 0 _ (next (.ok (some leasedSession.marshal)))) :=
    .step hpoll ⟨trivial, by simp⟩ (.exec rfl (Effect.Exec.ran rfl .heard))
  rw [hanswer leasedSession.marshal leasedSession rfl] at hread
  exact ⟨_, .step hread ⟨trivial, by simp⟩ (.env (.tick (by decide)))⟩

/-- The vehicle with `v` loaded or not, a moment after the read. -/
def sampleVehicle (v : SessionCommandVerifier)
    (flights : List (Option SessionCommandVerifier.Refresh)) : RuntimeState :=
  ⟨1050, 0, .new v .new, flights, 0, none⟩

def sampleAnswer : SessionCommandVerifier.RefreshOutcome :=
  .answered 200 (controlSessionResponse leasedSession [] 0)

def signedCharacters : List Char := "1|control|s-1|1|1000|high_level|forward".toList

def sampleWorldLabels : List WorldLabel :=
  sampleAcquire.map .gateway ++ [.vehicle .beginRefresh] ++
    [.vehicle (.finishRefresh 0 sampleAnswer (.ok ()))] ++ [.sign sampleKey signedCharacters]

def sampleWorld (p : GatewayProgram HTTPResponse) : World where
  gateway := leasedGateway 1050 p (.pure ⟨200, .control leasedSession [] 0⟩)
  vehicle := sampleVehicle sampleVerifier [none]

/-- Asked of every step of the sample: one clock, only alice acquires, and no message yet. -/
def SampleWorldStep : TransitionSystem.StepCondition World WorldLabel
  | ls, w, l => OneClock ls w l ∧
      (∀ r, l = .gateway (.spawn (.acquireControl r)) → r = aliceRequest) ∧
      ∀ rawMessage senderIdentity verdict,
        l ≠ .vehicle (.message rawMessage senderIdentity verdict)

theorem loadSession_sampleAnswer :
    @SessionCommandVerifier.loadSession PythonPlatform.ascii (PyStr.ofString "car-001")
      (controlSessionResponse leasedSession [] 0) = .ok (sampleSession, sampleKey) := by
  decide +kernel

theorem finishRefresh_sampleAnswer :
    @SessionCommandVerifier.finishRefresh PythonPlatform.ascii newVerifier ⟨.none, 0⟩
      sampleAnswer = (sampleVerifier, .ok ()) := by
  simp only [SessionCommandVerifier.finishRefresh, sampleAnswer]
  rw [show newVerifier.vehicleID = PyStr.ofString "car-001" from rfl, loadSession_sampleAnswer]
  rfl

theorem oneClock_of_readsClock {ls : List (GatewayLabel GatewayCall)}
    {p : GatewayPool GatewayCall HTTPResponse} {l : GatewayLabel GatewayCall}
    (h : ReadsClock ls p l) (ls' : List WorldLabel) (v : RuntimeState) :
    OneClock ls' ⟨p, v⟩ (.gateway l) := by
  cases l with
  | spawn | env => trivial
  | exec i c e r =>
      cases e with
      | timeNow => exact h
      | newUUID | redis | issueOperatorToken | recordAudit => trivial

theorem sampleWorld_run [Cjson] : ∃ p,
    (@worldSystem _ PythonPlatform.ascii Ed25519.sample sampleGateway 300).RunWhere
      SampleWorldStep sampleWorldLabels (sampleWorld p) := by
  let := PythonPlatform.ascii
  let := Ed25519.sample
  obtain ⟨p, hgateway⟩ := sampleAcquire_run
  let gateway := leasedGateway 1050 p (.pure ⟨200, .control leasedSession [] 0⟩)
  have hread : (worldSystem sampleGateway 300).RunWhere SampleWorldStep
      ([] ++ sampleAcquire.map .gateway) ⟨gateway, sampleVehicle newVerifier []⟩ := by
    refine run_of_gatewayRun
      (fun _ h ↦ .init ⟨h, ⟨_, _, _, rfl⟩, rfl, rfl, rfl⟩) ?_ hgateway
    rintro ls q l ⟨hclock, halice⟩
    exact ⟨oneClock_of_readsClock hclock _ _,
      fun r hr ↦ halice r (WorldLabel.gateway.inj hr), by simp⟩
  have hbegun : (worldSystem sampleGateway 300).RunWhere SampleWorldStep
      (sampleAcquire.map .gateway ++ [.vehicle .beginRefresh])
      ⟨gateway, sampleVehicle newVerifier [some ⟨.none, 0⟩]⟩ :=
    .step hread ⟨trivial, by simp, by simp⟩ (.vehicle trivial (.beginRefresh rfl))
  have hauthentic : Authentic ⟨gateway, sampleVehicle newVerifier [some ⟨.none, 0⟩]⟩
      (.finishRefresh 0 sampleAnswer (.ok ())) :=
    ⟨1, pollRequest, leasedSession, [], 0, rfl, rfl⟩
  have hloaded : (worldSystem sampleGateway 300).RunWhere SampleWorldStep
      (sampleAcquire.map .gateway ++ [.vehicle .beginRefresh] ++
        [.vehicle (.finishRefresh 0 sampleAnswer (.ok ()))]) (sampleWorld p) :=
    .step hbegun ⟨trivial, by simp, by simp⟩ (.vehicle hauthentic (.finishRefresh rfl finishRefresh_sampleAnswer))
  exact ⟨p, .step hloaded ⟨trivial, by simp, by simp⟩ .sign⟩

/-- Whatever the gateway has done since. -/
theorem sampleWorld_accepts [Cjson] {w : World}
    (hw : w.vehicle = sampleVehicle sampleVerifier [none]) :
    ∃ w', (@worldSystem _ PythonPlatform.ascii Ed25519.sample sampleGateway 300).Step w
      (.vehicle (.message sampleMessage sampleSender (.ok (some acceptedPacket)))) w' := by
  let := PythonPlatform.ascii
  let := Ed25519.sample
  obtain ⟨gateway, _⟩ := w
  obtain rfl := hw
  exact ⟨_, .vehicle trivial (.message verifyPacket_sampleMessage Prod.mk.eta.symm)⟩

def renewalTurns : List (Turn GatewayCall ℤ Answer) :=
  .start (.renewControl renewRequest) :: List.replicate 5 (.next 2 .served)

def renewedAt1050 : GatewayLabel GatewayCall :=
  .exec 2 (.renewControl renewRequest) (.redis (.renewScript leasedSession.vehicleID
    leasedSession.sessionID leasedSession.sessionID leasedSession.operatorID 6050 5000
    leasedSession.vehicleID)) (.ok (1 : ℤ))

/-- Alice renews before her packet arrives; the vehicle has the old expiry. -/
theorem lease_held_while_accepted_sample :
    letI := Cjson.fourteenDigits
    ∃ ls w v sessionID, sampleWorldLabels ⊆ ls ∧ .gateway renewedAt1050 ∈ ls ∧
      (@worldSystem _ PythonPlatform.ascii Ed25519.sample sampleGateway 300).RunWhere OneClock ls w ∧
      toPy v = PyStr.ofString "car-001" ∧
      (Released (gatewayLabels ls) sessionID ∨
        ∃ e, w.gateway.shared.redis.live w.gateway.shared.clock (.controlLease v) = some e ∧
          e.value.session.sessionID = sessionID) := by
  let := Cjson.fourteenDigits
  let := PythonPlatform.ascii
  let := Ed25519.sample
  obtain ⟨p, hrun⟩ := sampleWorld_run
  let P := gatewayPlayer (GatewayCall.handle sampleGateway)
  obtain ⟨gls, q, hplay, hrenewed, hclock⟩ : ∃ gls q,
      P.play [] (sampleWorld p).gateway renewalTurns = some (gls, q) ∧ renewedAt1050 ∈ gls ∧
      q.shared.clock = 1050 := ⟨_, _, rfl, List.mem_of_getElem? (i := 4) rfl, rfl⟩
  have hkeeps : P.Keeps ReadsClock [] (sampleWorld p).gateway renewalTurns :=
    .intro trivial <| .intro trivial <| .intro trivial <| .intro rfl <| .intro trivial <|
      .intro trivial trivial
  obtain ⟨_, rfl, hlater⟩ := run_of_gatewayPlay P
    (fun ls w _ _ h ↦ oneClock_of_readsClock h ls w.vehicle) (hrun.mono fun _ _ _ h ↦ h.1)
    hplay hkeeps
  have hvehicle : { sampleWorld p with gateway := q }.vehicle = sampleVehicle sampleVerifier [none] :=
    rfl
  obtain ⟨w', hstep⟩ := sampleWorld_accepts hvehicle
  obtain ⟨v, sessionID, -, -, hv, -, -, -, hheld⟩ :=
    lease_held_while_accepted hlater hclock.symm hstep
  exact ⟨_, _, v, sessionID, List.subset_append_left _ _,
    List.mem_append_right _ (List.mem_map_of_mem hrenewed), hlater, hv, hheld⟩

end Sample

end RemoteInfra.EndToEnd
