import RemoteInfra.Vehicle.VerifierRuns

/-!
# The verifier fails closed

While one refresh is under way at a time, the loaded session is the one the latest refresh
brought: starting a refresh unloads the session, and only a 200 answer loads one.  A packet
that is accepted is accepted under that answer.
-/

namespace RemoteInfra.Vehicle

open RemoteInfra.Library RemoteInfra.Python

/-- Asked of every step: a refresh starts only when none is under way. -/
def OneRefresh : TransitionSystem.StepCondition VerifierState VerifierLabel
  | _, st, .beginRefresh => ∀ flight ∈ st.flights, flight = none
  | _, _, _ => True

def VerifierLabel.startsRefresh : VerifierLabel → Bool
  | .beginRefresh => true
  | _ => false

/-- How many refreshes `ls` starts; they are numbered from zero. -/
def refreshesStarted (ls : List VerifierLabel) : ℕ := ls.countP VerifierLabel.startsRefresh

/-- The most recently started refresh of `ls` has completed, with a 200 answer of `payload`. -/
def LastRefreshAnswered (ls : List VerifierLabel) (payload : PyValue) : Prop :=
  ∃ i, refreshesStarted ls = i + 1 ∧ .finishRefresh i (.answered 200 payload) (.ok ()) ∈ ls

/-- Session and key are both unset, or both are what the latest refresh brought. -/
def LoadedTogether [PythonPlatform] (ls : List VerifierLabel) (v : SessionCommandVerifier) :
    Prop :=
  v.session = none ∧ v.verifyKey = none ∨
    ∃ payload session key, LastRefreshAnswered ls payload ∧
      SessionCommandVerifier.loadSession v.vehicleID payload = .ok (session, key) ∧
        v.session = some session ∧ v.verifyKey = some key

/-- The signature of `packet` verifies its sign message under `key`. -/
def SignedBy [PythonPlatform] [Ed25519] (key : VerifyKey) (packet : PyValue) : Prop :=
  ∃ message characters x signature, buildSignMessage packet = .ok message ∧
    encode message = .ok characters ∧ packet.getItem "signature" = .ok x ∧
      b64decode x = .ok signature ∧ Ed25519.verify key characters signature = true

/-- The session of the answer `payload` lets `packet` pass at time `nowMS`. -/
structure AuthorisedBy [PythonPlatform] [Ed25519] (v : SessionCommandVerifier)
    (payload packet : PyValue) (senderIdentity : PyStr) (nowMS : ℤ)
    (session : ActiveControlSession) (key : VerifyKey) : Prop where
  answered : SessionCommandVerifier.readSession payload = .ok session
  vehicleID : session.vehicleID = .str v.vehicleID
  active : session.status = .str (PyStr.ofString "ACTIVE")
  sessionID : ∃ x, packet.getItem "session_id" = .ok x ∧ x.eq session.sessionID = true
  sender : senderIdentity = PyStr.ofString "operator-" ++ pyText session.operatorID
  notExpired : nowMS ≤ session.expiresAtMS
  timestamp : ∃ x t, packet.getItem "timestamp_ms" = .ok x ∧ pyInt x = .ok t ∧
    nowMS - t ≤ v.maxAgeMS ∧ t - nowMS ≤ v.maxFutureSkewMS
  publicKey : SessionCommandVerifier.sessionKey session = .ok key
  signature : SignedBy key packet

theorem signedBy_of_checkSignature [PythonPlatform] [Ed25519] {key : VerifyKey} {packet : PyValue}
    (h : SessionCommandVerifier.checkSignature key packet = .ok ()) : SignedBy key packet := by
  unfold SessionCommandVerifier.checkSignature at h
  obtain ⟨message, hmessage, h⟩ := bind_eq_ok.mp h
  obtain ⟨characters, hcharacters, h⟩ := bind_eq_ok.mp h
  obtain ⟨x, hx, h⟩ := bind_eq_ok.mp h
  obtain ⟨signature, hsignature, h⟩ := bind_eq_ok.mp h
  split_ifs at h with hlength hverify
  exact ⟨message, characters, x, signature, hmessage, hcharacters, hx, hsignature, hverify⟩

@[simp] theorem refreshesStarted_append (ls : List VerifierLabel) (l : VerifierLabel) :
    refreshesStarted (ls ++ [l]) = refreshesStarted ls + if l.startsRefresh then 1 else 0 := by
  simp [refreshesStarted, List.countP_append, List.countP_singleton]

theorem LastRefreshAnswered.append {ls : List VerifierLabel} {payload : PyValue}
    (h : LastRefreshAnswered ls payload) {l : VerifierLabel} (hl : l.startsRefresh = false) :
    LastRefreshAnswered (ls ++ [l]) payload := by
  obtain ⟨i, hstarted, hmem⟩ := h
  exact ⟨i, by simp [hl, hstarted], List.mem_append_left _ hmem⟩

/-- A step that starts no refresh and keeps or unloads the session. -/
theorem LoadedTogether.append [PythonPlatform] {ls : List VerifierLabel}
    {v v' : SessionCommandVerifier} (h : LoadedTogether ls v) {l : VerifierLabel}
    (hl : l.startsRefresh = false) (hvehicle : v'.vehicleID = v.vehicleID)
    (hv : v'.session = v.session ∧ v'.verifyKey = v.verifyKey ∨
      v'.session = none ∧ v'.verifyKey = none) : LoadedTogether (ls ++ [l]) v' := by
  rcases hv with ⟨hsession, hkey⟩ | hnone
  · unfold LoadedTogether at h ⊢
    rw [hsession, hkey, hvehicle]
    rcases h with h | ⟨payload, session, key, hlast, hload⟩
    · exact .inl h
    · exact .inr ⟨payload, session, key, hlast.append hl, hload⟩
  · exact .inl hnone

/-- The refresh under way, if any, is the latest, and nothing is loaded meanwhile. -/
structure FailsClosed [PythonPlatform] (ls : List VerifierLabel) (st : VerifierState) : Prop where
  numbered : st.flights.length = refreshesStarted ls
  flying : ∀ (i : ℕ) (flight : Flight), st.flights[i]? = some (some flight) →
    refreshesStarted ls = i + 1 ∧ st.verifier.session = none ∧ st.verifier.verifyKey = none
  loaded : LoadedTogether ls st.verifier

theorem FailsClosed.beginRefresh [PythonPlatform] {ls : List VerifierLabel} {st : VerifierState}
    (h : FailsClosed ls st) (hone : OneRefresh ls st .beginRefresh)
    {refresh : SessionCommandVerifier.Refresh} {v : SessionCommandVerifier}
    (hbegin : st.verifier.beginRefresh = (refresh, v)) {flight : Flight} :
    FailsClosed (ls ++ [.beginRefresh])
      { st with verifier := v, flights := st.flights ++ [some flight] } := by
  obtain ⟨-, rfl⟩ := Prod.mk.inj hbegin
  refine ⟨?_, fun i other hother ↦ ⟨?_, rfl, rfl⟩, .inl ⟨rfl, rfl⟩⟩
  · simp [h.numbered, VerifierLabel.startsRefresh]
  · rcases getElem?_append_singleton hother with hother | ⟨rfl, -⟩
    · cases hone _ (List.mem_of_getElem? hother)
    · simp [h.numbered, VerifierLabel.startsRefresh]

theorem FailsClosed.finishRefresh [PythonPlatform] {ls : List VerifierLabel} {st : VerifierState}
    (h : FailsClosed ls st) {i : ℕ} {flight : Flight}
    {outcome : SessionCommandVerifier.RefreshOutcome} {v : SessionCommandVerifier}
    {result : Except PyExc Unit} (hflight : st.flights[i]? = some (some flight))
    (hfinish : st.verifier.finishRefresh flight.refresh outcome = (v, result)) :
    FailsClosed (ls ++ [.finishRefresh i outcome result])
      { st with verifier := v, flights := st.flights.set i none } := by
  obtain ⟨hlast, hnone⟩ := h.flying i flight hflight
  refine ⟨by simp [h.numbered, VerifierLabel.startsRefresh], fun j other hother ↦ ?_, ?_⟩
  · -- the refresh that ends was the only one under way
    have hj := (h.flying j other (flight_of_set_none hother)).1
    obtain rfl : i = j := by omega
    rw [List.getElem?_set_self (List.getElem?_eq_some_iff.mp hflight).1] at hother
    cases Option.some.inj hother
  · rcases SessionCommandVerifier.finishRefresh_cases hfinish with
      rfl | ⟨payload, session, key, rfl, rfl, hload, rfl⟩
    · exact .inl hnone
    · refine .inr ⟨payload, session, key, ⟨i, ?_, by simp⟩, hload, rfl, rfl⟩
      simp [hlast, VerifierLabel.startsRefresh]

theorem FailsClosed.packet [PythonPlatform] [Ed25519] {ls : List VerifierLabel}
    {st : VerifierState} (h : FailsClosed ls st) {rawMessage senderIdentity : PyStr}
    {v : SessionCommandVerifier} {result : Except PyExc (Option PyValue)}
    {accepted : List (PyValue × ℤ)}
    (hverify : st.verifier.verifyPacket rawMessage senderIdentity st.nowMS st.monotonic =
      (v, result)) :
    FailsClosed (ls ++ [.packet rawMessage senderIdentity result])
      { st with verifier := v, accepted := accepted } := by
  have hv : v.vehicleID = st.verifier.vehicleID ∧
      (v.session = st.verifier.session ∧ v.verifyKey = st.verifier.verifyKey ∨
        v.session = none ∧ v.verifyKey = none) := by
    rcases SessionCommandVerifier.verifyPacket_cases hverify with
      ⟨packet, session, key, sequence, rfl, haccepts⟩ | ⟨-, rfl | rfl⟩
    · simp [haccepts.state_eq]
    · simp
    · simp [SessionCommandVerifier.clearSession]
  refine ⟨by simp [h.numbered, VerifierLabel.startsRefresh], fun i flight hflight ↦ ?_,
    h.loaded.append rfl hv.1 hv.2⟩
  obtain ⟨hlast, hsession, hkey⟩ := h.flying i flight hflight
  refine ⟨by simp [hlast, VerifierLabel.startsRefresh], ?_⟩
  simpa [hsession, hkey] using hv.2

theorem FailsClosed.of_run [PythonPlatform] [Ed25519] {ls : List VerifierLabel}
    {st : VerifierState} (hrun : verifierSystem.RunWhere OneRefresh ls st) :
    FailsClosed ls st := by
  refine hrun.invariant ?_ ?_
  · rintro st ⟨⟨vehicleID, maxAgeMS, maxFutureSkewMS, hverifier⟩, hflights, -⟩
    refine ⟨by simp [hflights, refreshesStarted], fun i flight hflight ↦ ?_, .inl ?_⟩
    · simp [hflights] at hflight
    · rw [hverifier]
      exact ⟨rfl, rfl⟩
  · rintro ls st l st' - h hone hstep
    cases hstep with
    | tick _ =>
        refine ⟨by simpa [VerifierLabel.startsRefresh] using h.numbered, ?_,
          h.loaded.append rfl rfl (.inl ⟨rfl, rfl⟩)⟩
        intro i flight hflight
        simpa [VerifierLabel.startsRefresh] using h.flying i flight hflight
    | beginRefresh hbegin => exact h.beginRefresh hone hbegin
    | finishRefresh hflight hfinish => exact h.finishRefresh hflight hfinish
    | packet hverify => exact h.packet hverify

/-- While one refresh is under way at a time, session and key are loaded together, by the
latest refresh, and a packet is accepted only under the 200 answer that completed it. -/
theorem accepted_under_last_refresh [PythonPlatform] [Ed25519] {ls : List VerifierLabel}
    {st : VerifierState} (hrun : verifierSystem.RunWhere OneRefresh ls st) :
    LoadedTogether ls st.verifier ∧
      ∀ rawMessage senderIdentity v packet,
        st.verifier.verifyPacket rawMessage senderIdentity st.nowMS st.monotonic =
          (v, .ok (some packet)) →
        ∃ payload session key, LastRefreshAnswered ls payload ∧
          AuthorisedBy st.verifier payload packet senderIdentity st.nowMS session key := by
  have h := (FailsClosed.of_run hrun).loaded
  refine ⟨h, fun rawMessage senderIdentity v packet hverify ↦ ?_⟩
  rcases SessionCommandVerifier.verifyPacket_cases hverify with
    ⟨packet', session, key, sequence, hpacket, haccepts⟩ | ⟨hrejected, -⟩
  · obtain rfl := Option.some.inj (Except.ok.inj hpacket)
    rcases h with ⟨hnone, -⟩ | ⟨payload, loaded, loadedKey, hlast, hload, hsession, hkey⟩
    · simp [haccepts.session_eq] at hnone
    · obtain rfl := Option.some.inj (haccepts.session_eq.symm.trans hsession)
      obtain rfl := Option.some.inj (haccepts.verifyKey_eq.symm.trans hkey)
      obtain ⟨hread, hvehicle, hactive, hpublic⟩ := SessionCommandVerifier.loadSession_ok hload
      exact ⟨payload, session, key, hlast,
        { answered := hread
          vehicleID := hvehicle
          active := hactive
          sessionID := haccepts.passes.sessionID
          sender := haccepts.passes.sender
          notExpired := haccepts.passes.notExpired
          timestamp := haccepts.passes.timestamp
          publicKey := hpublic
          signature := signedBy_of_checkSignature haccepts.signature }⟩
  · exact absurd rfl (hrejected packet)

theorem accepted_under_last_refresh_sample :
    letI := PythonPlatform.ascii
    letI := Ed25519.sample
    ∃ payload session key,
      LastRefreshAnswered
          [.beginRefresh, .finishRefresh 0 (.answered 200 samplePayload) (.ok ())] payload ∧
        AuthorisedBy sampleVerifier payload acceptedPacket sampleSender 1050 session key := by
  let := PythonPlatform.ascii
  let := Ed25519.sample
  have hinit : verifierSystem.RunWhere OneRefresh [] ⟨1050, 0, newVerifier, [], []⟩ :=
    .init ⟨⟨_, _, _, rfl⟩, rfl, rfl⟩
  have hnone : OneRefresh [] ⟨1050, 0, newVerifier, [], []⟩ .beginRefresh := by
    simp [OneRefresh]
  have hbegin : verifierSystem.RunWhere OneRefresh [.beginRefresh]
      ⟨1050, 0, newVerifier, [some ⟨⟨.none, 0⟩, none, 0⟩], []⟩ :=
    .step hinit hnone (.beginRefresh rfl)
  have hloaded : verifierSystem.RunWhere OneRefresh
      [.beginRefresh, .finishRefresh 0 (.answered 200 samplePayload) (.ok ())]
      ⟨1050, 0, sampleVerifier, [none], []⟩ :=
    .step hbegin trivial (.finishRefresh rfl (finishRefresh_samplePayload rfl))
  exact (accepted_under_last_refresh hloaded).2 _ _ _ _ verifyPacket_sampleMessage

end RemoteInfra.Vehicle
