import RemoteInfra.Library.TransitionSystem
import RemoteInfra.Vehicle.SessionVerifier

/-!
# Runs of the session verifier

Refreshes start and end, packets arrive, time passes.  A refresh that loads a session anew
starts its sequence numbers over, unless it began while that session was loaded: a failed
refresh in between forgets the last sequence, and packets already accepted pass again.
-/

namespace RemoteInfra.Vehicle

open RemoteInfra.Library RemoteInfra.Python

/-- A refresh under way.  What was loaded when it began and how many packets had been
accepted by then is kept for the statements only. -/
structure Flight where
  refresh : SessionCommandVerifier.Refresh
  startedWith : Option ActiveControlSession
  acceptedBefore : ℕ

structure VerifierState where
  nowMS : ℤ
  monotonic : ℚ
  verifier : SessionCommandVerifier
  /-- every refresh ever started; `none` once it has ended -/
  flights : List (Option Flight)
  /-- session id and sequence of every packet accepted so far -/
  accepted : List (PyValue × ℤ)

inductive VerifierLabel
  | tick (nowMS : ℤ) (monotonic : ℚ)
  | beginRefresh
  | finishRefresh (i : ℕ) (outcome : SessionCommandVerifier.RefreshOutcome)
      (result : Except PyExc Unit)
  | packet (rawMessage senderIdentity : PyStr) (result : Except PyExc (Option PyValue))

/-- The session id and `int(sequence)` of a returned packet. -/
def acceptedEntry [PythonPlatform] : Except PyExc (Option PyValue) → List (PyValue × ℤ)
  | .ok (some packet) =>
      match packet.getItem "session_id", packet.getItem "sequence" >>= pyInt with
      | .ok sessionID, .ok sequence => [(sessionID, sequence)]
      | _, _ => []
  | _ => []

namespace VerifierState

inductive Step [PythonPlatform] [Ed25519] :
    VerifierState → VerifierLabel → VerifierState → Prop
  /-- the wall clock may be set back -/
  | tick {st : VerifierState} {nowMS : ℤ} {monotonic : ℚ} :
      st.monotonic ≤ monotonic →
        Step st (.tick nowMS monotonic) { st with nowMS := nowMS, monotonic := monotonic }
  | beginRefresh {st : VerifierState} {refresh : SessionCommandVerifier.Refresh}
      {v : SessionCommandVerifier} :
      st.verifier.beginRefresh = (refresh, v) →
        Step st .beginRefresh
          { st with
            verifier := v
            flights := st.flights ++ [some ⟨refresh, st.verifier.session, st.accepted.length⟩] }
  | finishRefresh {st : VerifierState} {i : ℕ} {flight : Flight}
      {outcome : SessionCommandVerifier.RefreshOutcome} {v : SessionCommandVerifier}
      {result : Except PyExc Unit} :
      st.flights[i]? = some (some flight) →
        st.verifier.finishRefresh flight.refresh outcome = (v, result) →
          Step st (.finishRefresh i outcome result)
            { st with verifier := v, flights := st.flights.set i none }
  | packet {st : VerifierState} {rawMessage senderIdentity : PyStr} {v : SessionCommandVerifier}
      {result : Except PyExc (Option PyValue)} :
      st.verifier.verifyPacket rawMessage senderIdentity st.nowMS st.monotonic = (v, result) →
        Step st (.packet rawMessage senderIdentity result)
          { st with verifier := v, accepted := st.accepted ++ acceptedEntry result }

end VerifierState

/-- A verifier for some vehicle, as constructed, with nothing under way. -/
def verifierSystem [PythonPlatform] [Ed25519] : TransitionSystem VerifierState VerifierLabel where
  Init st := (∃ vehicleID maxAgeMS maxFutureSkewMS, st.verifier =
    SessionCommandVerifier.new vehicleID maxAgeMS maxFutureSkewMS st.monotonic) ∧
      st.flights = [] ∧ st.accepted = []
  Step := VerifierState.Step

/-! ## Replays -/

/-- The sequences accepted for one session strictly increase. -/
def Increasing (accepted : List (PyValue × ℤ)) : Prop :=
  accepted.Pairwise fun a b ↦ a.1.eq b.1 = true → a.2 < b.2

/-- No packet of `sessionID` is among `accepted`. -/
def NoneOf (sessionID : PyValue) (accepted : List (PyValue × ℤ)) : Prop :=
  ∀ a ∈ accepted, a.1.eq sessionID = false

/-- The refresh `flight` does not forget sequences when it loads `session` into `st`: no packet
of the session has been accepted; or it began while the session was loaded, and none has been
accepted since; or it began otherwise, and the session is loaded at this moment. -/
def SequenceKept (st : VerifierState) (flight : Flight) (session : ActiveControlSession) : Prop :=
  NoneOf session.sessionID st.accepted ∨
    (∃ before, flight.startedWith = some before ∧
      before.sessionID.eq session.sessionID = true ∧
        NoneOf session.sessionID (st.accepted.drop flight.acceptedBefore)) ∨
    (session.sessionID.eq flight.refresh.previousSessionID = false ∧
      ∃ loaded, st.verifier.session = some loaded ∧
        loaded.sessionID.eq session.sessionID = true)

/-- Asked of every step: a refresh that is about to load a session keeps its sequence. -/
def KeepsSequences [PythonPlatform] :
    TransitionSystem.StepCondition VerifierState VerifierLabel
  | _, st, .finishRefresh i (.answered 200 payload) _ =>
      ∀ flight session key, st.flights[i]? = some (some flight) →
        SessionCommandVerifier.loadSession st.verifier.vehicleID payload = .ok (session, key) →
          SequenceKept st flight session
  | _, _, _ => True

/-- What a run that keeps sequences maintains. -/
structure SequencesGuarded (st : VerifierState) : Prop where
  increasing : Increasing st.accepted
  loaded : ∀ session, st.verifier.session = some session →
    ∀ a ∈ st.accepted, a.1.eq session.sessionID = true → a.2 ≤ st.verifier.lastSequence
  flights : ∀ (i : ℕ) (flight : Flight), st.flights[i]? = some (some flight) →
    flight.acceptedBefore ≤ st.accepted.length ∧
      ∀ before, flight.startedWith = some before →
        flight.refresh.previousSessionID = before.sessionID ∧
          ∀ a ∈ st.accepted.take flight.acceptedBefore,
            a.1.eq before.sessionID = true → a.2 ≤ flight.refresh.previousSequence

theorem getElem?_append_singleton {α : Type} {l : List α} {a b : α} {i : ℕ}
    (h : (l ++ [a])[i]? = some b) : l[i]? = some b ∨ (i = l.length ∧ b = a) := by
  rcases lt_or_ge i l.length with hlt | hge
  · rw [List.getElem?_append_left hlt] at h
    exact .inl h
  · rw [List.getElem?_append_right hge, List.getElem?_singleton] at h
    split_ifs at h with hi
    exact .inr ⟨by omega, (Option.some.inj h).symm⟩

theorem flight_of_set_none {flights : List (Option Flight)} {i j : ℕ} {flight : Flight}
    (h : (flights.set i none)[j]? = some (some flight)) : flights[j]? = some (some flight) := by
  rw [List.getElem?_set] at h
  split_ifs at h with hij hlt
  · simp at h
  · exact h

/-- Accepted before a refresh began or since. -/
theorem mem_take_or_drop {α : Type} {l : List α} {a : α} (k : ℕ) (h : a ∈ l) :
    a ∈ l.take k ∨ a ∈ l.drop k := by
  rw [← List.take_append_drop k l] at h
  exact List.mem_append.mp h

theorem SequencesGuarded.beginRefresh {st : VerifierState} (h : SequencesGuarded st)
    {refresh : SessionCommandVerifier.Refresh} {v : SessionCommandVerifier}
    (hbegin : st.verifier.beginRefresh = (refresh, v)) :
    SequencesGuarded
      { st with
        verifier := v
        flights := st.flights ++ [some ⟨refresh, st.verifier.session, st.accepted.length⟩] } := by
  obtain ⟨rfl, rfl⟩ := Prod.mk.inj hbegin
  refine ⟨h.increasing, fun session hsession ↦ ?_, fun i flight hflight ↦ ?_⟩
  · cases hsession
  · rcases getElem?_append_singleton hflight with hflight | ⟨-, hflight⟩
    · exact h.flights i flight hflight
    · obtain rfl := Option.some.inj hflight
      refine ⟨le_rfl, fun before hbefore ↦ ⟨?_, fun a ha heq ↦ ?_⟩⟩
      · have hbefore : st.verifier.session = some before := hbefore
        simp [hbefore]
      · exact h.loaded before hbefore a (List.mem_of_mem_take ha) heq

theorem SequencesGuarded.finishRefresh [PythonPlatform] {st : VerifierState}
    (h : SequencesGuarded st) {i : ℕ} {flight : Flight}
    {outcome : SessionCommandVerifier.RefreshOutcome} {v : SessionCommandVerifier}
    {result : Except PyExc Unit} {ls : List VerifierLabel}
    (hcond : KeepsSequences ls st (.finishRefresh i outcome result))
    (hflight : st.flights[i]? = some (some flight))
    (hfinish : st.verifier.finishRefresh flight.refresh outcome = (v, result)) :
    SequencesGuarded { st with verifier := v, flights := st.flights.set i none } := by
  refine ⟨h.increasing, ?_, fun j other hother ↦ h.flights j other (flight_of_set_none hother)⟩
  rcases SessionCommandVerifier.finishRefresh_cases hfinish with
    rfl | ⟨payload, session, key, rfl, -, hload, rfl⟩
  · exact h.loaded
  rintro loaded hloaded a ha heq
  obtain rfl : session = loaded := Option.some.inj hloaded
  have hkept := hcond flight session key hflight hload
  simp only [SessionCommandVerifier.install]
  rcases hkept with hnone | ⟨before, hbefore, hsame, hnone⟩ | ⟨hother, now, hnow, hsame⟩
  · simp [hnone a ha] at heq
  · obtain ⟨-, hflights⟩ := h.flights i flight hflight
    obtain ⟨hprevious, hbound⟩ := hflights before hbefore
    rw [hprevious, if_pos (PyValue.eq_symm hsame)]
    rcases mem_take_or_drop flight.acceptedBefore ha with ha | ha
    · exact hbound a ha (PyValue.eq_trans heq (PyValue.eq_symm hsame))
    · simp [hnone a ha] at heq
  · rw [if_neg (by simp [hother])]
    exact h.loaded now hnow a ha (PyValue.eq_trans heq (PyValue.eq_symm hsame))

theorem SequencesGuarded.packet [PythonPlatform] [Ed25519] {st : VerifierState}
    (h : SequencesGuarded st) {rawMessage senderIdentity : PyStr}
    {v : SessionCommandVerifier} {result : Except PyExc (Option PyValue)}
    (hverify : st.verifier.verifyPacket rawMessage senderIdentity st.nowMS st.monotonic =
      (v, result)) :
    SequencesGuarded { st with verifier := v, accepted := st.accepted ++ acceptedEntry result } := by
  have htake : ∀ entries, ∀ k ≤ st.accepted.length,
      (st.accepted ++ entries).take k = st.accepted.take k := fun entries k hk ↦ by
    rw [List.take_append_of_le_length hk]
  have hflights : ∀ entries (i : ℕ) (flight : Flight), st.flights[i]? = some (some flight) →
      flight.acceptedBefore ≤ (st.accepted ++ entries).length ∧
        ∀ before, flight.startedWith = some before →
          flight.refresh.previousSessionID = before.sessionID ∧
            ∀ a ∈ (st.accepted ++ entries).take flight.acceptedBefore,
              a.1.eq before.sessionID = true → a.2 ≤ flight.refresh.previousSequence := by
    intro entries i flight hflight
    obtain ⟨hle, hbefore⟩ := h.flights i flight hflight
    refine ⟨by simp only [List.length_append]; omega, ?_⟩
    rw [htake entries _ hle]
    exact hbefore
  rcases SessionCommandVerifier.verifyPacket_cases hverify with
    ⟨packet, session, key, sequence, rfl, haccepts⟩ | ⟨hrejected, hv⟩
  · obtain ⟨sessionID, hsessionID, hsame⟩ := haccepts.passes.sessionID
    obtain ⟨x, hx, hsequence, hlast⟩ := haccepts.passes.sequence
    have hentry : acceptedEntry (.ok (some packet)) = [(sessionID, sequence)] := by
      simp [acceptedEntry, hsessionID, hx, hsequence]
    have hbound : ∀ a ∈ st.accepted, a.1.eq session.sessionID = true → a.2 < sequence :=
      fun a ha heq ↦ (h.loaded session haccepts.session_eq a ha heq).trans_lt hlast
    obtain rfl := haccepts.state_eq
    refine ⟨?_, fun loaded hloaded a ha heq ↦ ?_, hflights _⟩
    · rw [hentry]
      refine List.pairwise_append.mpr ⟨h.increasing, List.pairwise_singleton _ _, ?_⟩
      intro a ha b hb heq
      obtain rfl := List.mem_singleton.mp hb
      exact hbound a ha (PyValue.eq_trans heq hsame)
    · obtain rfl : session = loaded := Option.some.inj (haccepts.session_eq.symm.trans hloaded)
      rw [hentry] at ha
      rcases List.mem_append.mp ha with ha | ha
      · exact (hbound a ha heq).le
      · obtain rfl := List.mem_singleton.mp ha
        exact le_rfl
  · have hentry : acceptedEntry result = [] := by
      unfold acceptedEntry
      split
      · rename_i packet
        exact absurd rfl (hrejected packet)
      · rfl
    refine ⟨by simpa [hentry] using h.increasing, fun loaded hloaded a ha heq ↦ ?_, hflights _⟩
    rw [hentry, List.append_nil] at ha
    rcases hv with rfl | rfl
    · exact h.loaded loaded hloaded a ha heq
    · cases hloaded

/-- In a run whose refreshes keep the sequences of the sessions they load, the sequences
accepted for one session strictly increase. -/
theorem accepted_sequences_increase [PythonPlatform] [Ed25519] {ls : List VerifierLabel}
    {st : VerifierState} (hrun : verifierSystem.RunWhere KeepsSequences ls st) :
    Increasing st.accepted := by
  suffices h : SequencesGuarded st from h.increasing
  refine hrun.invariant (P := fun _ st ↦ SequencesGuarded st) ?_ ?_
  · rintro st ⟨⟨vehicleID, maxAgeMS, maxFutureSkewMS, hverifier⟩, hflights, haccepted⟩
    refine ⟨?_, fun session hsession ↦ ?_, fun i flight hflight ↦ ?_⟩
    · rw [haccepted]
      exact List.Pairwise.nil
    · rw [hverifier] at hsession
      cases hsession
    · simp [hflights] at hflight
  · rintro ls st l st' - h hcond hstep
    cases hstep with
    | tick _ => exact ⟨h.increasing, h.loaded, h.flights⟩
    | beginRefresh hbegin => exact h.beginRefresh hbegin
    | finishRefresh hflight hfinish => exact h.finishRefresh hcond hflight hfinish
    | packet hverify => exact h.packet hverify

/-! ## A replay -/

section Replay

def replayID : PyValue := sampleSession.sessionID

def newVerifier : SessionCommandVerifier :=
  SessionCommandVerifier.new (PyStr.ofString "car-001") 100 100 0

def acceptedPacket : PyValue := samplePacket (.int 1) (.int 1000)

/-- The session loads, and its first packet is accepted. -/
def firstAcceptance : List VerifierLabel :=
  [.beginRefresh, .finishRefresh 0 (.answered 200 samplePayload) (.ok ()),
    .packet sampleMessage sampleSender (.ok (some acceptedPacket))]

/-- One refresh fails, the next loads the session again, and the packet comes once more. -/
def secondAcceptance : List VerifierLabel :=
  [.beginRefresh, .finishRefresh 1 (.raised .timeoutError) (.error .timeoutError),
    .beginRefresh, .finishRefresh 2 (.answered 200 samplePayload) (.ok ()),
    .packet sampleMessage sampleSender (.ok (some acceptedPacket))]

def afterAcceptance (flights : List (Option Flight)) (accepted : List (PyValue × ℤ)) :
    VerifierState :=
  ⟨1050, 0, { sampleVerifier with lastSequence := 1 }, flights, accepted⟩

theorem finishRefresh_samplePayload {v : SessionCommandVerifier}
    {refresh : SessionCommandVerifier.Refresh} (hv : v.vehicleID = PyStr.ofString "car-001") :
    @SessionCommandVerifier.finishRefresh PythonPlatform.ascii v refresh
      (.answered 200 samplePayload) = (v.install refresh sampleSession sampleKey, .ok ()) :=
  @SessionCommandVerifier.finishRefresh_of_loaded PythonPlatform.ascii _ _ _ _
    (hv ▸ loadSession_samplePayload) refresh

theorem verifyPacket_sampleMessage :
    @SessionCommandVerifier.verifyPacket PythonPlatform.ascii Ed25519.sample sampleVerifier
      sampleMessage sampleSender 1050 0 =
        ({ sampleVerifier with lastSequence := 1 }, .ok (some acceptedPacket)) :=
  @SessionCommandVerifier.verifyPacket_of_passed PythonPlatform.ascii Ed25519.sample _ _ _ _ _ _ _
    _ rfl rfl examine_sampleMessage 0

theorem loaded_run :
    (@verifierSystem PythonPlatform.ascii Ed25519.sample).RunWhere
      (@KeepsSequences PythonPlatform.ascii)
      [.beginRefresh, .finishRefresh 0 (.answered 200 samplePayload) (.ok ())]
      ⟨1050, 0, sampleVerifier, [none], []⟩ := by
  let := PythonPlatform.ascii
  let := Ed25519.sample
  have hinit : verifierSystem.RunWhere KeepsSequences [] ⟨1050, 0, newVerifier, [], []⟩ :=
    .init ⟨⟨_, _, _, rfl⟩, rfl, rfl⟩
  have hbegin : verifierSystem.RunWhere KeepsSequences [.beginRefresh]
      ⟨1050, 0, newVerifier, [some ⟨⟨.none, 0⟩, none, 0⟩], []⟩ :=
    .step hinit trivial (.beginRefresh rfl)
  have hkept : KeepsSequences [.beginRefresh]
      ⟨1050, 0, newVerifier, [some ⟨⟨.none, 0⟩, none, 0⟩], []⟩
      (.finishRefresh 0 (.answered 200 samplePayload) (.ok ())) := by
    intro flight session key _ _
    exact .inl fun a ha ↦ by simp at ha
  exact .step hbegin hkept (.finishRefresh rfl (finishRefresh_samplePayload rfl))

theorem firstAcceptance_run :
    (@verifierSystem PythonPlatform.ascii Ed25519.sample).RunWhere
      (@KeepsSequences PythonPlatform.ascii) firstAcceptance
      (afterAcceptance [none] [(replayID, 1)]) := by
  let := PythonPlatform.ascii
  let := Ed25519.sample
  exact .step loaded_run trivial (.packet verifyPacket_sampleMessage)

/-- A failed refresh forgets the last sequence: the packet that was accepted before it is
accepted again once the session is back. -/
theorem replay_after_failed_refresh :
    (@verifierSystem PythonPlatform.ascii Ed25519.sample).Run
        (firstAcceptance ++ secondAcceptance)
        (afterAcceptance [none, none, none] [(replayID, 1), (replayID, 1)]) ∧
      ¬Increasing [(replayID, 1), (replayID, 1)] := by
  let := PythonPlatform.ascii
  let := Ed25519.sample
  refine ⟨?_, ?_⟩
  · have hfirst := firstAcceptance_run.toRun
    have hbegin : verifierSystem.Run (firstAcceptance ++ [.beginRefresh])
        ⟨1050, 0, newVerifier, [none, some ⟨⟨replayID, 1⟩, some sampleSession, 1⟩],
          [(replayID, 1)]⟩ :=
      .step hfirst trivial (.beginRefresh rfl)
    have hfailed : verifierSystem.Run (firstAcceptance ++ secondAcceptance.take 2)
        ⟨1050, 0, newVerifier, [none, none], [(replayID, 1)]⟩ :=
      .step hbegin trivial (.finishRefresh rfl rfl)
    have hagain : verifierSystem.Run (firstAcceptance ++ secondAcceptance.take 3)
        ⟨1050, 0, newVerifier, [none, none, some ⟨⟨.none, 0⟩, none, 1⟩], [(replayID, 1)]⟩ :=
      .step hfailed trivial (.beginRefresh rfl)
    have hloaded : verifierSystem.Run (firstAcceptance ++ secondAcceptance.take 4)
        ⟨1050, 0, sampleVerifier, [none, none, none], [(replayID, 1)]⟩ :=
      .step hagain trivial (.finishRefresh rfl (finishRefresh_samplePayload rfl))
    exact .step hloaded trivial (.packet verifyPacket_sampleMessage)
  · simp [Increasing, replayID]
    decide

end Replay

/-! ## Refreshes between the packets of a session -/

section KeptSequences

/-- The session loads, and its first packet is accepted. -/
def firstDriven : List VerifierLabel :=
  [.beginRefresh, .finishRefresh 0 (.answered 200 (sessionPayload drivingSession)) (.ok ()),
    .packet firstMessage sampleSender (.ok (some firstPacket))]

/-- A refresh loads it again; then come a later packet and the first one once more. -/
def drivenOn : List VerifierLabel :=
  [.beginRefresh, .finishRefresh 1 (.answered 200 (sessionPayload drivingSession)) (.ok ()),
    .packet fourthMessage sampleSender (.ok (some fourthPacket)),
    .packet firstMessage sampleSender (.ok none)]

theorem firstDriven_run :
    (@verifierSystem PythonPlatform.ascii Ed25519.driving).RunWhere
      (@KeepsSequences PythonPlatform.ascii) firstDriven
      ⟨1050, 0, { drivingVerifier with lastSequence := 1 }, [none], [(replayID, 1)]⟩ := by
  let := PythonPlatform.ascii
  let := Ed25519.driving
  have hinit : verifierSystem.RunWhere KeepsSequences [] ⟨1050, 0, newVerifier, [], []⟩ :=
    .init ⟨⟨_, _, _, rfl⟩, rfl, rfl⟩
  have hbegin : verifierSystem.RunWhere KeepsSequences (firstDriven.take 1)
      ⟨1050, 0, newVerifier, [some ⟨⟨.none, 0⟩, none, 0⟩], []⟩ :=
    .step hinit trivial (.beginRefresh rfl)
  have hkept : KeepsSequences (firstDriven.take 1)
      ⟨1050, 0, newVerifier, [some ⟨⟨.none, 0⟩, none, 0⟩], []⟩
      (.finishRefresh 0 (.answered 200 (sessionPayload drivingSession)) (.ok ())) := by
    intro flight session key _ _
    exact .inl fun a ha ↦ by simp at ha
  have hloaded : verifierSystem.RunWhere KeepsSequences (firstDriven.take 2)
      ⟨1050, 0, drivingVerifier, [none], []⟩ :=
    .step hbegin hkept (.finishRefresh rfl
      (SessionCommandVerifier.finishRefresh_of_loaded loadSession_drivingPayloads.1 _))
  exact .step hloaded trivial
    (.packet (SessionCommandVerifier.verifyPacket_of_passed rfl rfl examine_drivingMessages.1 0))

/-- The refresh keeps the sequence: it began while the session was loaded, and no packet has
been accepted since. -/
theorem accepted_sequences_increase_refreshed :
    (∃ st, (@verifierSystem PythonPlatform.ascii Ed25519.driving).RunWhere
        (@KeepsSequences PythonPlatform.ascii) (firstDriven ++ drivenOn) st ∧
      st.accepted = [(replayID, 1), (replayID, 4)]) ∧
      Increasing [(replayID, 1), (replayID, 4)] := by
  let := PythonPlatform.ascii
  let := Ed25519.driving
  let refreshing : VerifierState :=
    ⟨1050, 0, newVerifier, [none, some ⟨⟨replayID, 1⟩, some drivingSession, 1⟩],
      [(replayID, 1)]⟩
  have hbegin : verifierSystem.RunWhere KeepsSequences (firstDriven ++ drivenOn.take 1)
      refreshing :=
    .step firstDriven_run trivial (.beginRefresh rfl)
  have hkept : KeepsSequences (firstDriven ++ drivenOn.take 1) refreshing
      (.finishRefresh 1 (.answered 200 (sessionPayload drivingSession)) (.ok ())) := by
    intro flight session key hflight hload
    obtain rfl : _ = flight := Option.some.inj (Option.some.inj hflight)
    obtain ⟨rfl, -⟩ := Prod.mk.inj (Except.ok.inj (loadSession_drivingPayloads.1.symm.trans hload))
    exact .inr (.inl ⟨drivingSession, rfl, by decide, fun a ha ↦ by simp [refreshing] at ha⟩)
  have hreloaded : verifierSystem.RunWhere KeepsSequences (firstDriven ++ drivenOn.take 2)
      ⟨1050, 0, { drivingVerifier with lastSequence := 1 }, [none, none], [(replayID, 1)]⟩ :=
    .step hbegin hkept (.finishRefresh rfl
      (SessionCommandVerifier.finishRefresh_of_loaded loadSession_drivingPayloads.1 _))
  have hfourth : verifierSystem.RunWhere KeepsSequences (firstDriven ++ drivenOn.take 3)
      ⟨1050, 0, { drivingVerifier with lastSequence := 4 }, [none, none],
        [(replayID, 1), (replayID, 4)]⟩ :=
    .step hreloaded trivial
      (.packet (SessionCommandVerifier.verifyPacket_of_passed rfl rfl examine_drivingMessages.2.2.1 0))
  have hreplayed : verifierSystem.RunWhere KeepsSequences (firstDriven ++ drivenOn)
      ⟨1050, 0, { drivingVerifier with lastSequence := 4 }, [none, none],
        [(replayID, 1), (replayID, 4)]⟩ :=
    .step hfourth trivial
      (.packet (SessionCommandVerifier.verifyPacket_of_rejected rfl rfl
        examine_drivingMessages.2.2.2 0))
  exact ⟨⟨_, hreplayed, rfl⟩, accepted_sequences_increase hreplayed⟩

end KeptSequences

end RemoteInfra.Vehicle
