import RemoteInfra.EndToEnd.Expiry
import RemoteInfra.Vehicle.FailClosed
import RemoteInfra.Vehicle.SignedMessage

/-!
# Command provenance

Whatever the vehicle applies goes back to an acquire request that the gateway admitted for
this vehicle, and to a packet signed with the key that the request registered.
-/

namespace RemoteInfra.EndToEnd

open RemoteInfra.Library RemoteInfra.Python RemoteInfra.Gateway RemoteInfra.Vehicle

/-! ## The registered key is the loaded key -/

/-- The characters of a Go string that went through JSON. -/
def characters (s : GoString) : List Char :=
  s.map fun
    | .rune c => c
    | .stray _ => Char.ofNat 0xFFFD

theorem mapM_eq_some_map {α β : Type} {f : α → Option β} {g : α → β} {s : List α}
    (h : ∀ u ∈ s, f u = some (g u)) : s.mapM f = some (s.map g) := by
  induction s with
  | nil => rfl
  | cons u s ih =>
      rw [List.mapM_cons, h u List.mem_cons_self, ih fun v hv ↦ h v (List.mem_cons_of_mem _ hv)]
      rfl

theorem encode_toPy (s : GoString) : encode (toPy s) = .ok (characters s) := by
  unfold encode toPy characters
  rw [List.mapM_map, mapM_eq_some_map]
  intro u _
  cases u <;> rfl

theorem b64decode_toPy {s : GoString} {bytes : List UInt8} :
    b64decode (.str (toPy s)) = .ok bytes ↔
      Base64.decodeStrictly (characters s) = some bytes := by
  simp only [b64decode, encode_toPy, ok_bind]
  cases Base64.decodeStrictly (characters s) with
  | none => simp
  | some decoded =>
      constructor
      · intro h
        exact congrArg some (Except.ok.inj h)
      · intro h
        exact congrArg Except.ok (Option.some.inj h)

/-- A key is too long or too short for surplus padding. -/
theorem decode_of_b64decode {s : GoString} {bytes : List UInt8}
    (h : b64decode (.str (toPy s)) = .ok bytes) (hlength : ¬3 ∣ bytes.length) :
    Base64.decode (characters s) = some bytes :=
  Base64.decode_of_decodeStrictly (b64decode_toPy.mp h) hlength

/-- A text that decodes has nothing in it for Go to pass over. -/
theorem decodeBase64_of_characters {s : GoString} {bytes : List UInt8}
    (h : Base64.decode (characters s) = some bytes) : s.decodeBase64 = some bytes := by
  have hrune : ∀ u ∈ s, ∃ c, u = .rune c ∧ c ≠ '\r' ∧ c ≠ '\n' := by
    intro u hu
    cases u with
    | rune c =>
        have hmem : c ∈ characters s := List.mem_map.mpr ⟨.rune c, hu, rfl⟩
        refine ⟨c, rfl, ?_, ?_⟩
        · rintro rfl
          exact Base64.not_mem_of_decode h (by decide) (by decide) hmem
        · rintro rfl
          exact Base64.not_mem_of_decode h (by decide) (by decide) hmem
    | stray b =>
        have hmem : Char.ofNat 0xFFFD ∈ characters s := List.mem_map.mpr ⟨.stray b, hu, rfl⟩
        exact absurd hmem (Base64.not_mem_of_decode h (by decide) (by decide))
  have hkept : (s.filter fun u ↦ decide (u ≠ GoUnit.rune '\r' ∧ u ≠ GoUnit.rune '\n')) = s := by
    refine List.filter_eq_self.mpr fun u hu ↦ ?_
    obtain ⟨c, rfl, hr, hn⟩ := hrune u hu
    simp [hr, hn]
  unfold GoString.decodeBase64
  simp only [hkept]
  unfold characters at h
  rw [mapM_eq_some_map]
  · exact h
  · intro u hu
    obtain ⟨c, rfl, -⟩ := hrune u hu
    rfl

/-- The gateway and the vehicle decode a public key to the same bytes. -/
theorem decodeBase64_of_sessionKey {s : ControlSession} {publicKeyB64 : GoString}
    (hs : s.publicKeyB64 = publicKeyB64.throughJSON) {key : VerifyKey}
    (h : SessionCommandVerifier.sessionKey (activeSession s) = .ok key) :
    publicKeyB64.decodeBase64 = some key.bytes := by
  have htext : (activeSession s).publicKeyB64 = .str (toPy publicKeyB64) := by
    simp [activeSession, hs]
  have hkey : b64decode (.str (toPy publicKeyB64)) >>= newVerifyKey = .ok key := by
    rw [← htext]
    unfold SessionCommandVerifier.sessionKey at h
    split at h
    · cases h
    · cases h
    · exact h
  obtain ⟨bytes, hbytes, hnew⟩ := bind_eq_ok.mp hkey
  unfold newVerifyKey at hnew
  split_ifs at hnew with hlength
  obtain rfl := Except.ok.inj hnew
  exact decodeBase64_of_characters (decode_of_b64decode hbytes (by simp [hlength]))

/-! ## Provenance -/

/-- Asked of every step: whoever acquires has a name of valid UTF-8, and a signature that
verifies was made by whoever has the private key. -/
def Trusted [PythonPlatform] [Ed25519] : TransitionSystem.StepCondition World WorldLabel
  | _, _, .gateway (.spawn (.acquireControl r)) => r.claims.name.ValidUTF8
  | ls, _, .vehicle (.message rawMessage _ _) =>
      ∀ packet key message characters x signature, loads rawMessage = .ok packet →
        buildSignMessage packet = .ok message → encode message = .ok characters →
          packet.getItem "signature" = .ok x → b64decode x = .ok signature →
            Ed25519.verify key characters signature = true → .sign key characters ∈ ls
  | _, _, _ => True

/-- Where the command of an applied packet comes from. -/
structure Provenance [PythonPlatform] [Ed25519] (g : GatewayConfig) (ls : List WorldLabel)
    (vehicleID senderIdentity : PyStr) (packet : PyValue) (command : ActuatorCommand)
    (r : AcquireControlRequest) (publicKeyB64 sessionID : GoString) (key : VerifyKey) : Prop where
  /-- `handleAcquireControl` was called for this vehicle by a caller it admits -/
  called : .gateway (.spawn (.acquireControl r)) ∈ ls
  vehicleID_eq : toPy r.vehicleID = vehicleID
  admitted : r.Admitted g publicKeyB64
  /-- and got the lease for a session -/
  acquired : ∃ i payload px reply, scriptAnswer reply = some 1 ∧ .gateway (.exec i
    (.acquireControl r) (.redis (.acquireScript r.vehicleID sessionID payload px r.vehicleID))
      reply) ∈ ls
  /-- the key it registered is the one that signed -/
  registered : publicKeyB64.decodeBase64 = some key.bytes
  signed : ∃ message characters, buildSignMessage packet = .ok message ∧
    encode message = .ok characters ∧ .sign key characters ∈ ls
  /-- the packet belongs to the session -/
  session : ∃ x, packet.getItem "session_id" = .ok x ∧ x.eq (.str (toPy sessionID)) = true
  resolves : packet.getItem "command" >>= resolveCommand = .ok command
  /-- and no other packet of the session with this signed text means anything else -/
  binds : ∀ v s other sender nowMS n, s.sessionID = .str (toPy sessionID) →
    SessionCommandVerifier.Passes v s other sender nowMS n →
      buildSignMessage other = buildSignMessage packet →
        other.getItem "command" >>= resolveCommand = .ok command
  /-- it came under the identity of the caller, whose name JSON and LiveKit keep -/
  sender : senderIdentity = PyStr.ofString "operator-" ++ toPy r.claims.name
  validName : r.claims.name.ValidUTF8

theorem validName_of_spawn [Cjson] [PythonPlatform] [Ed25519] {g : GatewayConfig} {timeoutMS : ℚ}
    {ls : List WorldLabel} {w : World} (hrun : (worldSystem g timeoutMS).RunWhere Trusted ls w)
    {r : AcquireControlRequest} (hmem : .gateway (.spawn (.acquireControl r)) ∈ ls) :
    r.claims.name.ValidUTF8 := by
  induction hrun with
  | init => simp at hmem
  | step _ htrusted _ ih =>
      rcases List.mem_append.mp hmem with hmem | hmem
      · exact ih hmem
      · obtain rfl := List.mem_singleton.mp hmem
        exact htrusted

/-- What a message that is accepted goes back to. -/
theorem provenance_of_accepted [Cjson] [PythonPlatform] [Ed25519] {g : GatewayConfig}
    {timeoutMS : ℚ} {ls : List WorldLabel} {w w' : World}
    (hrun : (worldSystem g timeoutMS).RunWhere Trusted ls w)
    {rawMessage senderIdentity : PyStr} {packet : PyValue} {command : ActuatorCommand}
    (htrusted : Trusted ls w (.vehicle (.message rawMessage senderIdentity (.ok (some packet)))))
    (hstep : (worldSystem g timeoutMS).Step w
      (.vehicle (.message rawMessage senderIdentity (.ok (some packet)))) w')
    (hresolves : packet.getItem "command" >>= resolveCommand = .ok command) :
    ∃ r publicKeyB64 sessionID key, Provenance g ls w.verifier.vehicleID senderIdentity packet
      command r publicKeyB64 sessionID key := by
  obtain ⟨s, r, publicKeyB64, key, sequence, v, hread, hacquired, hinstalled, haccepts⟩ :=
    accepted_under_lease hrun hstep
  obtain ⟨i, sessionID, now, reply, hreply, hscript, hs⟩ := hacquired.stored
  have hname : r.claims.name.ValidUTF8 :=
    validName_of_spawn hrun (mem_gatewayLabels.mp hacquired.spawned)
  have hsessionID : s.sessionID = sessionID.throughJSON := by rw [hs]; rfl
  have hoperator : s.operatorID = r.claims.name.throughJSON := by rw [hs]; rfl
  have hvehicle : s.vehicleID = r.vehicleID.throughJSON := by rw [hs]; rfl
  have hpublic : s.publicKeyB64 = publicKeyB64.throughJSON := by rw [hs]; rfl
  obtain ⟨message, chars, x, signature, hmessage, hchars, hx, hsignature, hverify⟩ :=
    signedBy_of_checkSignature haccepts.signature
  have hid : (activeSession s).sessionID = .str (toPy sessionID) := by
    simp [activeSession, hsessionID]
  refine ⟨r, publicKeyB64, sessionID, key,
    { called := mem_gatewayLabels.mp hacquired.spawned
      vehicleID_eq := ?_
      admitted := hacquired.admitted
      acquired := ⟨i, _, _, reply, hreply, mem_gatewayLabels.mp hscript⟩
      registered := decodeBase64_of_sessionKey hpublic hinstalled.sessionKey_eq
      signed := ⟨message, chars, hmessage, hchars,
        htrusted packet key message chars x signature haccepts.loads_eq hmessage hchars hx
          hsignature hverify⟩
      session := ?_
      resolves := hresolves
      binds := ?_
      sender := ?_
      validName := hname }⟩
  · rw [← hinstalled.vehicleID_eq, hvehicle, toPy_throughJSON]
  · rw [← hid]
    exact haccepts.passes.sessionID
  · intro u session other sender nowMS n hsession hpasses hsame
    obtain ⟨-, -, resolved, hother, hthis⟩ :=
      meaning_eq_of_passes (hsession.trans hid.symm) hpasses haccepts.passes hsame
    rw [hother]
    exact hthis.symm.trans hresolves
  · rw [haccepts.passes.sender]
    simp [SessionCommandVerifier.operatorIdentity, activeSession, hoperator, pyText]

/-- A step of the vehicle applies a command only with a message that it accepts. -/
theorem applied_of_step [PythonPlatform] [Ed25519] {timeoutMS : ℚ} {st st' : RuntimeState}
    {l : RuntimeLabel} (h : RuntimeState.Step timeoutMS st l st') :
    st'.runtime.brakeController.applied = st.runtime.brakeController.applied ∨
      ∃ rawMessage senderIdentity packet command,
        l = .message rawMessage senderIdentity (.ok (some packet)) ∧
        loads rawMessage = .ok packet ∧
        packet.getItem "command" >>= resolveCommand = .ok command ∧
        st'.runtime.brakeController.applied =
          st.runtime.brakeController.applied ++ [("remote", command)] := by
  cases h with
  | time | stop | beginRefresh | finishRefresh => exact .inl rfl
  | watchdog => exact .inl (by simp)
  | audit _ htake =>
      obtain ⟨-, rfl⟩ := Prod.mk.inj htake
      exact .inl rfl
  | @telemetry report r _ htake =>
      obtain rfl : st.runtime.takeTelemetry.2 = r := congrArg Prod.snd htake
      exact .inl (by simp)
  | message hverify hmessage =>
      rcases SessionVehicleRuntime.onDatachannelMessage_cases hverify hmessage with
        ⟨packet, session, key, sequence, command, rfl, -, haccepts, hobeys⟩ | ⟨-, -, -, -, hkept⟩
      · right
        refine ⟨_, _, packet, command, rfl, haccepts.loads_eq, hobeys.resolves, ?_⟩
        simp only [hobeys.brakeController_eq]
        rfl
      · left
        simp only [hkept]

/-- Every command that is applied goes back to an admitted acquire request for this vehicle and
to a packet signed with the key registered there. -/
theorem applied_has_provenance [Cjson] [PythonPlatform] [Ed25519] {g : GatewayConfig}
    {timeoutMS : ℚ} {ls : List WorldLabel} {w w' : World} {l : WorldLabel}
    (hrun : (worldSystem g timeoutMS).RunWhere Trusted ls w) (htrusted : Trusted ls w l)
    (hstep : (worldSystem g timeoutMS).Step w l w') :
    w'.vehicle.runtime.brakeController.applied = w.vehicle.runtime.brakeController.applied ∨
      ∃ rawMessage senderIdentity packet command r publicKeyB64 sessionID key,
        l = .vehicle (.message rawMessage senderIdentity (.ok (some packet))) ∧
        loads rawMessage = .ok packet ∧
        w'.vehicle.runtime.brakeController.applied =
          w.vehicle.runtime.brakeController.applied ++ [("remote", command)] ∧
        Provenance g ls w.verifier.vehicleID senderIdentity packet command r publicKeyB64
          sessionID key := by
  cases hstep with
  | gateway | sign => exact .inl rfl
  | vehicle hauthentic hvehicle =>
      rcases applied_of_step hvehicle with
        hkept | ⟨rawMessage, senderIdentity, packet, command, rfl, hloads, hresolves, happlied⟩
      · exact .inl hkept
      · obtain ⟨r, publicKeyB64, sessionID, key, hprovenance⟩ :=
          provenance_of_accepted hrun htrusted (.vehicle hauthentic hvehicle) hresolves
        exact .inr ⟨rawMessage, senderIdentity, packet, command, r, publicKeyB64, sessionID, key,
          rfl, hloads, happlied, hprovenance⟩

theorem applied_ne_of_accepted [Cjson] [PythonPlatform] [Ed25519] {g : GatewayConfig}
    {timeoutMS : ℚ} {w w' : World} {rawMessage senderIdentity : PyStr} {packet : PyValue}
    (hstep : (worldSystem g timeoutMS).Step w
      (.vehicle (.message rawMessage senderIdentity (.ok (some packet)))) w') :
    w'.vehicle.runtime.brakeController.applied ≠
      w.vehicle.runtime.brakeController.applied := by
  cases hstep with
  | vehicle _ hvehicle =>
      cases hvehicle with
      | message hverify hmessage =>
          rcases SessionVehicleRuntime.onDatachannelMessage_cases hverify hmessage with
            ⟨_, session, key, sequence, command, -, -, -, hobeys⟩ | ⟨hrejected, -⟩
          · simp [hobeys.brakeController_eq, EmergencyBrakeController.applyControl]
          · exact absurd rfl (hrejected packet)

theorem signed_of_sample {key : VerifyKey} {message : List Char} {signature : List UInt8}
    (h : @Ed25519.verify Ed25519.sample key message signature = true) :
    key = sampleKey ∧ message = signedCharacters := by
  simp only [Ed25519.verify, Bool.and_eq_true, decide_eq_true_eq] at h
  obtain ⟨⟨hkey, hmessage⟩, -⟩ := h
  cases key
  exact ⟨by simp only [sampleKey, hkey, Option.getD_some], hmessage⟩

/-- Alice's first command. -/
theorem applied_has_provenance_alice :
    letI := Cjson.fourteenDigits
    letI := PythonPlatform.ascii
    letI := Ed25519.sample
    ∃ command r publicKeyB64 sessionID key, Provenance sampleGateway sampleWorldLabels
      (PyStr.ofString "car-001") sampleSender acceptedPacket command r publicKeyB64 sessionID
        key := by
  let := Cjson.fourteenDigits
  let := PythonPlatform.ascii
  let := Ed25519.sample
  obtain ⟨p, hrun⟩ := sampleWorld_run
  obtain ⟨w', hstep⟩ := sampleWorld_accepts (w := sampleWorld p) rfl
  have htrusted : (worldSystem sampleGateway 300).RunWhere Trusted sampleWorldLabels
      (sampleWorld p) := by
    refine hrun.mono ?_
    rintro ls w l ⟨-, halice, hquiet⟩
    cases l with
    | sign => trivial
    | gateway l =>
        cases l with
        | exec | env => trivial
        | spawn c =>
            cases c with
            | acquireControl r =>
                obtain rfl := halice r rfl
                exact GoString.validUTF8_ofString _
            | _ => trivial
    | vehicle l =>
        cases l with
        | message raw sender verdict => exact absurd rfl (hquiet raw sender verdict)
        | _ => trivial
  have hmessage : Trusted sampleWorldLabels (sampleWorld p)
      (.vehicle (.message sampleMessage sampleSender (.ok (some acceptedPacket)))) := by
    rintro packet key message chars x signature - - - - - hverify
    obtain ⟨rfl, rfl⟩ := signed_of_sample hverify
    simp [sampleWorldLabels]
  rcases applied_has_provenance htrusted hmessage hstep with
    hkept | ⟨raw, sender, packet, command, r, publicKeyB64, sessionID, key, hl, -, -, h⟩
  · exact absurd hkept (applied_ne_of_accepted hstep)
  · cases hl
    exact ⟨command, r, publicKeyB64, sessionID, key, h⟩

end RemoteInfra.EndToEnd
