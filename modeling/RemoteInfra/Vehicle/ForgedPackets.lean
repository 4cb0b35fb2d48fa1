import Mathlib.Data.List.Forall2
import RemoteInfra.Library.Unwinding
import RemoteInfra.Vehicle.FailClosed

/-!
# Forged packets

The signature is checked last.  A packet that carries none can still find the session expired
and unload it, and the last sequence is forgotten with it: once the session is renewed,
packets accepted before pass again.  No other forged packet has an influence on what is
accepted.
-/

namespace RemoteInfra.Vehicle

open RemoteInfra.Library RemoteInfra.Python

inductive VerifierEvent
  | tick (elapsedMS : ℕ) (elapsed : ℚ≥0)
  | beginRefresh
  | finishRefresh (i : ℕ) (outcome : SessionCommandVerifier.RefreshOutcome)
  | packet (rawMessage senderIdentity : PyStr)

def isAccepted : Except PyExc (Option PyValue) → Bool
  | .ok (some _) => true
  | _ => false

/-- The message is a packet whose signature verifies under `key`. -/
def signedUnder [PythonPlatform] [Ed25519] (key : VerifyKey) (rawMessage : PyStr) : Bool :=
  match loads rawMessage >>= SessionCommandVerifier.checkSignature key with
  | .ok () => true
  | .error _ => false

namespace VerifierState

def next [PythonPlatform] [Ed25519] (st : VerifierState) : VerifierEvent → VerifierState
  | .tick elapsedMS elapsed =>
      { st with nowMS := st.nowMS + elapsedMS, monotonic := st.monotonic + elapsed }
  | .beginRefresh =>
      { st with
        verifier := st.verifier.beginRefresh.2
        flights := st.flights ++
          [some ⟨st.verifier.beginRefresh.1, st.verifier.session, st.accepted.length⟩] }
  | .finishRefresh i outcome =>
      match st.flights[i]? with
      | some (some flight) =>
          { st with
            verifier := (st.verifier.finishRefresh flight.refresh outcome).1
            flights := st.flights.set i none }
      | _ => st
  | .packet rawMessage senderIdentity =>
      let (v, result) := st.verifier.verifyPacket rawMessage senderIdentity st.nowMS st.monotonic
      { st with verifier := v, accepted := st.accepted ++ acceptedEntry result }

def accepts [PythonPlatform] [Ed25519] (st : VerifierState) : VerifierEvent → Bool
  | .packet rawMessage senderIdentity =>
      isAccepted (st.verifier.verifyPacket rawMessage senderIdentity st.nowMS st.monotonic).2
  | _ => false

/-- A packet whose signature does not verify under the key of the loaded session. -/
def forges [PythonPlatform] [Ed25519] (st : VerifierState) : VerifierEvent → Bool
  | .packet rawMessage _ =>
      match st.verifier.verifyKey with
      | some key => !signedUnder key rawMessage
      | none => false
  | _ => false

end VerifierState

/-- The verifier as a machine that shows whether a packet is accepted. -/
def verifierMachine [PythonPlatform] [Ed25519] : Machine VerifierState VerifierEvent Bool where
  next := VerifierState.next
  shown := VerifierState.accepts

/-- What the machine does is a run of the verifier. -/
theorem run_of_events [PythonPlatform] [Ed25519] {start : VerifierState}
    (hstart : verifierSystem.Init start) (es : List VerifierEvent) :
    ∃ ls, verifierSystem.Run ls (verifierMachine.after start es) := by
  refine Machine.after_invariant (Q := fun st ↦ ∃ ls, verifierSystem.Run ls st) ?_
    ⟨[], .init hstart⟩ es
  rintro st e ⟨ls, hrun⟩
  cases e with
  | tick elapsedMS elapsed =>
      exact ⟨_, .step hrun trivial (.tick (le_add_of_nonneg_right elapsed.2))⟩
  | beginRefresh => exact ⟨_, .step hrun trivial (.beginRefresh rfl)⟩
  | finishRefresh i outcome =>
      change ∃ ls, verifierSystem.Run ls (st.next (.finishRefresh i outcome))
      simp only [VerifierState.next]
      split
      · rename_i flight hflight
        exact ⟨_, .step hrun trivial (.finishRefresh hflight rfl)⟩
      · exact ⟨ls, hrun⟩
  | packet rawMessage senderIdentity => exact ⟨_, .step hrun trivial (.packet rfl)⟩

/-! ## The expiry branch -/

/-- The packet names the loaded session and comes from its operator, and the session has
expired. -/
structure FindsExpired [PythonPlatform] (v : SessionCommandVerifier)
    (rawMessage senderIdentity : PyStr) (nowMS : ℤ) (session : ActiveControlSession)
    (packet : PyValue) : Prop where
  session_eq : v.session = some session
  loads_eq : loads rawMessage = .ok packet
  names : ∃ entries, packet = .dict entries ∧
    ∀ name ∈ SessionCommandVerifier.REQUIRED, ∃ e ∈ entries, e.1 = PyStr.ofString name
  version : ∃ x, packet.getItem "version" = .ok x ∧ x.eq PROTOCOL_VERSION = true
  type : ∃ x, packet.getItem "type" = .ok x ∧ x.eq CONTROL_TYPE = true
  sessionID : ∃ x, packet.getItem "session_id" = .ok x ∧ x.eq session.sessionID = true
  sender : senderIdentity = SessionCommandVerifier.operatorIdentity session
  expired : session.expiresAtMS < nowMS

theorem findsExpired_of_examine [PythonPlatform] [Ed25519] {v : SessionCommandVerifier}
    {session : ActiveControlSession} {key : VerifyKey} {rawMessage senderIdentity : PyStr}
    {nowMS : ℤ} {packet : PyValue} (hsession : v.session = some session)
    (h : v.examine session key rawMessage senderIdentity nowMS = .ok (.expired, packet)) :
    FindsExpired v rawMessage senderIdentity nowMS session packet := by
  obtain ⟨loaded, hloads, h⟩ := bind_eq_ok.mp h
  obtain ⟨check, hcheck, h⟩ := bind_eq_ok.mp h
  obtain ⟨rfl, rfl⟩ : check = .expired ∧ loaded = packet := by
    cases check with
    | passed n =>
        obtain ⟨⟨⟩, -, h⟩ := bind_eq_ok.mp h
        cases h
    | rejected => cases h
    | expired => exact ⟨rfl, (Prod.mk.inj (Except.ok.inj h)).2⟩
  unfold SessionCommandVerifier.checkPacket at hcheck
  cases loaded with
  | dict entries =>
      dsimp only at hcheck
      split at hcheck
      · cases hcheck
      rename_i hnames
      obtain ⟨version, hversion, hcheck⟩ := bind_eq_ok.mp hcheck
      obtain ⟨type, htype, hcheck⟩ := bind_eq_ok.mp hcheck
      split at hcheck
      · cases hcheck
      rename_i hprotocol
      obtain ⟨sessionID, hsessionID, hcheck⟩ := bind_eq_ok.mp hcheck
      split at hcheck
      · cases hcheck
      rename_i hparties
      split at hcheck
      · rename_i hexpiry
        simp only [Bool.or_eq_true, Bool.not_eq_true', not_or, Bool.not_eq_false,
          decide_eq_true_eq, ne_eq, not_not] at hprotocol hparties
        refine
          { session_eq := hsession
            loads_eq := hloads
            names := ⟨entries, rfl, fun name hname ↦ ?_⟩
            version := ⟨version, hversion, hprotocol.1⟩
            type := ⟨type, htype, hprotocol.2⟩
            sessionID := ⟨sessionID, hsessionID, hparties.1⟩
            sender := hparties.2
            expired := hexpiry }
        simp only [Bool.not_eq_true', Bool.not_eq_false, List.all_eq_true, List.any_eq_true,
          decide_eq_true_eq] at hnames
        exact hnames name hname
      · obtain ⟨x, -, hcheck⟩ := bind_eq_ok.mp hcheck
        obtain ⟨t, -, hcheck⟩ := bind_eq_ok.mp hcheck
        split at hcheck
        · cases hcheck
        obtain ⟨y, -, hcheck⟩ := bind_eq_ok.mp hcheck
        obtain ⟨n, -, hcheck⟩ := bind_eq_ok.mp hcheck
        split at hcheck
        · cases hcheck
        obtain ⟨command, -, hcheck⟩ := bind_eq_ok.mp hcheck
        obtain ⟨valid, -, hcheck⟩ := bind_eq_ok.mp hcheck
        split at hcheck <;> cases hcheck
  | _ => cases hcheck

/-- A packet the loaded key has not signed is not accepted and changes nothing, unless it finds
the session expired and unloads it. -/
theorem verifyPacket_unsigned [PythonPlatform] [Ed25519] {v : SessionCommandVerifier}
    {rawMessage : PyStr}
    (hunsigned : ∀ key, v.verifyKey = some key → signedUnder key rawMessage = false)
    (senderIdentity : PyStr) (nowMS : ℤ) (monotonic : ℚ) :
    isAccepted (v.verifyPacket rawMessage senderIdentity nowMS monotonic).2 = false ∧
      ((v.verifyPacket rawMessage senderIdentity nowMS monotonic).1 = v ∨
        (∃ session packet, FindsExpired v rawMessage senderIdentity nowMS session packet) ∧
          (v.verifyPacket rawMessage senderIdentity nowMS monotonic).1 = v.clearSession) := by
  unfold SessionCommandVerifier.verifyPacket
  split
  · rename_i session key hsession hkey
    split
    · -- the signature was checked and verified
      rename_i sequence packet hexamine
      obtain ⟨loaded, hloads, hexamine⟩ := bind_eq_ok.mp hexamine
      obtain ⟨check, -, hexamine⟩ := bind_eq_ok.mp hexamine
      cases check with
      | passed n =>
          obtain ⟨⟨⟩, hsignature, -⟩ := bind_eq_ok.mp hexamine
          have hsigned := hunsigned key hkey
          rw [signedUnder, bind_eq_ok.mpr ⟨loaded, hloads, hsignature⟩] at hsigned
          cases hsigned
      | rejected => cases hexamine
      | expired => cases hexamine
    · rename_i packet hexamine
      exact ⟨rfl, .inr ⟨⟨session, packet, findsExpired_of_examine hsession hexamine⟩, rfl⟩⟩
    · exact ⟨rfl, .inl rfl⟩
    · refine ⟨?_, .inl rfl⟩
      split_ifs <;> rfl
  · exact ⟨rfl, .inl rfl⟩

/-- A forged packet changes nothing, unless it finds the session expired and unloads it. -/
theorem verifyPacket_of_forged [PythonPlatform] [Ed25519] {st : VerifierState}
    {rawMessage senderIdentity : PyStr}
    (hforged : st.forges (.packet rawMessage senderIdentity) = true) :
    (st.next (.packet rawMessage senderIdentity)).verifier = st.verifier ∨
      (∃ session packet, FindsExpired st.verifier rawMessage senderIdentity st.nowMS session
        packet) ∧
          (st.next (.packet rawMessage senderIdentity)).verifier = st.verifier.clearSession := by
  refine (verifyPacket_unsigned (fun key hkey ↦ ?_) senderIdentity _ _).2
  simpa only [VerifierState.forges, hkey, Bool.not_eq_true'] using hforged

theorem verifyPacket_unloaded [PythonPlatform] [Ed25519] {v : SessionCommandVerifier}
    (h : v.session = none) (rawMessage senderIdentity : PyStr) (nowMS : ℤ) (monotonic : ℚ) :
    v.verifyPacket rawMessage senderIdentity nowMS monotonic = (v, .ok none) := by
  simp [SessionCommandVerifier.verifyPacket, h]

/-! ## Two runs -/

/-- Asked of every event.  Either no forged packet finds the session expired; or refreshes do
not overlap, and a forged packet finds it expired only while no sequence is remembered. -/
def SparesReplayState [PythonPlatform] [Ed25519] (oneRefresh : Prop) (st : VerifierState) :
    VerifierEvent → Prop
  | .beginRefresh => oneRefresh → ∀ flight ∈ st.flights, flight = none
  | .packet rawMessage senderIdentity =>
      st.forges (.packet rawMessage senderIdentity) = true →
        (∃ session packet,
          FindsExpired st.verifier rawMessage senderIdentity st.nowMS session packet) →
            oneRefresh ∧ st.verifier.lastSequence = 0
  | _ => True

/-- `w` still holds an expired session that `v` has unloaded, with no sequence remembered. -/
structure Outlives (nowMS : ℤ) (v w : SessionCommandVerifier) : Prop where
  unloaded : v.session = none
  lastSequence : v.lastSequence = 0
  clears : w.clearSession = v
  sequence : w.lastSequence = 0
  expired : ∃ session, w.session = some session ∧ session.expiresAtMS < nowMS

inductive AlikeFlight (oneRefresh : Prop) : Option Flight → Option Flight → Prop
  | ended : AlikeFlight oneRefresh none none
  | same {f g : Flight} : g.refresh = f.refresh → AlikeFlight oneRefresh (some f) (some g)
  | forgetful {f g : Flight} : oneRefresh → f.refresh.previousSequence = 0 →
      g.refresh.previousSequence = 0 → AlikeFlight oneRefresh (some f) (some g)

/-- `st` is a state of the whole run, `tt` that of the run without the forged packets. -/
structure Alike (oneRefresh : Prop) (st tt : VerifierState) : Prop where
  nowMS : tt.nowMS = st.nowMS
  monotonic : tt.monotonic = st.monotonic
  verifier : tt.verifier = st.verifier ∨ oneRefresh ∧ Outlives st.nowMS st.verifier tt.verifier
  flights : List.Forall₂ (AlikeFlight oneRefresh) st.flights tt.flights
  waiting : oneRefresh → ∀ (i : ℕ) (flight : Flight), st.flights[i]? = some (some flight) →
    st.flights.length = i + 1 ∧ st.verifier.session = none ∧ st.verifier.lastSequence = 0 ∧
      tt.verifier = st.verifier

theorem Alike.of_init [PythonPlatform] [Ed25519] {oneRefresh : Prop} {st : VerifierState}
    (h : verifierSystem.Init st) : Alike oneRefresh st st := by
  obtain ⟨-, hflights, -⟩ := h
  refine ⟨rfl, rfl, .inl rfl, ?_, fun _ i flight hflight ↦ ?_⟩
  · rw [hflights]
    exact .nil
  · simp [hflights] at hflight

theorem forall₂_set {α β : Type} {R : α → β → Prop} {l : List α} {m : List β}
    (h : List.Forall₂ R l m) {a : α} {b : β} (hab : R a b) (i : ℕ) :
    List.Forall₂ R (l.set i a) (m.set i b) := by
  induction h generalizing i with
  | nil => exact .nil
  | cons hhead htail ih =>
      cases i with
      | zero => exact .cons hab htail
      | succ i => exact .cons hhead (ih i)

theorem install_forgetful {v : SessionCommandVerifier} {f g : SessionCommandVerifier.Refresh}
    (hv : v.lastSequence = 0) (hf : f.previousSequence = 0) (hg : g.previousSequence = 0)
    (session : ActiveControlSession) (key : VerifyKey) :
    v.install f session key = v.install g session key := by
  simp [SessionCommandVerifier.install, hv, hf, hg]

theorem finishRefresh_forgetful [PythonPlatform] {v : SessionCommandVerifier}
    {f g : SessionCommandVerifier.Refresh} (hv : v.lastSequence = 0)
    (hf : f.previousSequence = 0) (hg : g.previousSequence = 0)
    (outcome : SessionCommandVerifier.RefreshOutcome) :
    v.finishRefresh f outcome = v.finishRefresh g outcome := by
  cases outcome with
  | raised e => rfl
  | answered status payload =>
      simp only [SessionCommandVerifier.finishRefresh]
      split_ifs
      · rfl
      · rfl
      · cases SessionCommandVerifier.loadSession v.vehicleID payload with
        | error e => rfl
        | ok loaded =>
            obtain ⟨session, key⟩ := loaded
            simp only [install_forgetful hv hf hg session key]

section Events

variable [PythonPlatform] [Ed25519] {oneRefresh : Prop} {st tt : VerifierState}

theorem Alike.tick (h : Alike oneRefresh st tt) (elapsedMS : ℕ) (elapsed : ℚ≥0) :
    Alike oneRefresh (st.next (.tick elapsedMS elapsed)) (tt.next (.tick elapsedMS elapsed)) := by
  refine ⟨?_, ?_, ?_, h.flights, h.waiting⟩
  · simp [VerifierState.next, h.nowMS]
  · simp [VerifierState.next, h.monotonic]
  · rcases h.verifier with heq | ⟨hone, houtlives⟩
    · exact .inl heq
    · obtain ⟨session, hsession, hexpired⟩ := houtlives.expired
      have hlater : session.expiresAtMS < st.nowMS + elapsedMS := by omega
      exact .inr ⟨hone, { houtlives with expired := ⟨session, hsession, hlater⟩ }⟩

theorem Alike.beginRefresh (h : Alike oneRefresh st tt)
    (hcond : SparesReplayState oneRefresh st .beginRefresh) :
    Alike oneRefresh (st.next .beginRefresh) (tt.next .beginRefresh) := by
  have hcleared : tt.verifier.clearSession = st.verifier.clearSession := by
    rcases h.verifier with heq | ⟨-, houtlives⟩
    · rw [heq]
    · rw [houtlives.clears, ← houtlives.clears]
      rfl
  refine ⟨h.nowMS, h.monotonic, .inl hcleared, ?_, fun hone i flight hflight ↦ ?_⟩
  · refine List.rel_append h.flights (.cons ?_ .nil)
    rcases h.verifier with heq | ⟨hone, houtlives⟩
    · refine .same ?_
      rw [heq]
    · exact .forgetful hone houtlives.lastSequence houtlives.sequence
  · rcases getElem?_append_singleton hflight with hflight | ⟨rfl, -⟩
    · cases hcond hone _ (List.mem_of_getElem? hflight)
    · exact ⟨by simp [VerifierState.next], rfl, rfl, hcleared⟩

/-- A refresh under way in one run is under way in the other. -/
theorem Alike.flight (h : Alike oneRefresh st tt) (i : ℕ) :
    (∃ f g, st.flights[i]? = some (some f) ∧ tt.flights[i]? = some (some g) ∧
        AlikeFlight oneRefresh (some f) (some g)) ∨
      (∀ e, st.next (.finishRefresh i e) = st) ∧ ∀ e, tt.next (.finishRefresh i e) = tt := by
  have hlength : st.flights.length = tt.flights.length := h.flights.length_eq
  by_cases hi : i < st.flights.length
  · have hi' : i < tt.flights.length := hlength ▸ hi
    have hrel := h.flights.get hi hi'
    have hst : st.flights[i]? = some (st.flights.get ⟨i, hi⟩) := List.getElem?_eq_getElem hi
    have htt : tt.flights[i]? = some (tt.flights.get ⟨i, hi'⟩) := List.getElem?_eq_getElem hi'
    generalize hf : st.flights.get ⟨i, hi⟩ = f at hst hrel
    generalize hg : tt.flights.get ⟨i, hi'⟩ = g at htt hrel
    cases hrel with
    | ended =>
        right
        simp [VerifierState.next, hst, htt]
    | same heq => exact .inl ⟨_, _, hst, htt, .same heq⟩
    | forgetful hone hst0 htt0 => exact .inl ⟨_, _, hst, htt, .forgetful hone hst0 htt0⟩
  · right
    have hst : st.flights[i]? = none := List.getElem?_eq_none (not_lt.mp hi)
    have htt : tt.flights[i]? = none := List.getElem?_eq_none (hlength ▸ not_lt.mp hi)
    simp [VerifierState.next, hst, htt]

theorem Alike.finishRefresh (h : Alike oneRefresh st tt) (i : ℕ)
    (outcome : SessionCommandVerifier.RefreshOutcome) :
    Alike oneRefresh (st.next (.finishRefresh i outcome))
      (tt.next (.finishRefresh i outcome)) := by
  rcases h.flight i with ⟨f, g, hf, hg, hrel⟩ | ⟨hst, htt⟩
  · have hwaiting := fun hone ↦ h.waiting hone i f hf
    have hverifier : tt.verifier = st.verifier := by
      rcases h.verifier with heq | ⟨hone, -⟩
      · exact heq
      · exact (hwaiting hone).2.2.2
    have houtcome : tt.verifier.finishRefresh g.refresh outcome =
        st.verifier.finishRefresh f.refresh outcome := by
      rw [hverifier]
      cases hrel with
      | same heq => rw [heq]
      | forgetful hone hf hg =>
          exact finishRefresh_forgetful (hwaiting hone).2.2.1 hg hf outcome
    simp only [VerifierState.next, hf, hg, houtcome]
    refine ⟨h.nowMS, h.monotonic, .inl rfl, ?_, fun hone j flight hflight ↦ ?_⟩
    · exact forall₂_set h.flights .ended i
    · -- the refresh that ended was the only one under way
      have hj := (h.waiting hone j flight (flight_of_set_none hflight)).1
      obtain rfl : i = j := by have := (hwaiting hone).1; omega
      have hi : i < st.flights.length := (List.getElem?_eq_some_iff.mp hf).1
      rw [List.getElem?_set_self hi] at hflight
      cases Option.some.inj hflight
  · rw [hst, htt]
    exact h

theorem Alike.packet_forged (h : Alike oneRefresh st tt) {rawMessage senderIdentity : PyStr}
    (hcond : SparesReplayState oneRefresh st (.packet rawMessage senderIdentity))
    (hforged : st.forges (.packet rawMessage senderIdentity) = true) :
    Alike oneRefresh (st.next (.packet rawMessage senderIdentity)) tt := by
  rcases verifyPacket_of_forged hforged with hsame | ⟨hexpired, hcleared⟩
  · refine ⟨h.nowMS, h.monotonic, ?_, h.flights, ?_⟩
    · rw [hsame]
      exact h.verifier
    · rw [hsame]
      exact h.waiting
  · obtain ⟨hone, hzero⟩ := hcond hforged hexpired
    obtain ⟨session, packet, hfinds⟩ := hexpired
    have hverifier : tt.verifier = st.verifier := by
      rcases h.verifier with heq | ⟨-, houtlives⟩
      · exact heq
      · cases houtlives.unloaded.symm.trans hfinds.session_eq
    refine ⟨h.nowMS, h.monotonic, .inr ⟨hone, ?_⟩, h.flights, fun _ i flight hflight ↦ ?_⟩
    · rw [hcleared, hverifier]
      exact
        { unloaded := rfl
          lastSequence := rfl
          clears := rfl
          sequence := hzero
          expired := ⟨session, hfinds.session_eq, hfinds.expired⟩ }
    · -- while a refresh waits nothing is loaded
      have hnone := (h.waiting hone i flight hflight).2.1
      cases hnone.symm.trans hfinds.session_eq

theorem Alike.packet (h : Alike oneRefresh st tt) {rawMessage senderIdentity : PyStr} :
    tt.accepts (.packet rawMessage senderIdentity) =
        st.accepts (.packet rawMessage senderIdentity) ∧
      Alike oneRefresh (st.next (.packet rawMessage senderIdentity))
        (tt.next (.packet rawMessage senderIdentity)) := by
  rcases h.verifier with heq | ⟨hone, houtlives⟩
  · have hverify :
        tt.verifier.verifyPacket rawMessage senderIdentity tt.nowMS tt.monotonic =
          st.verifier.verifyPacket rawMessage senderIdentity st.nowMS st.monotonic := by
      rw [heq, h.nowMS, h.monotonic]
    have hnext : (tt.next (.packet rawMessage senderIdentity)).verifier =
        (st.next (.packet rawMessage senderIdentity)).verifier := congrArg Prod.fst hverify
    refine ⟨?_, h.nowMS, h.monotonic, .inl hnext, h.flights, fun hone i flight hflight ↦ ?_⟩
    · exact congrArg isAccepted (congrArg Prod.snd hverify)
    · obtain ⟨hlength, hnone, hzero, -⟩ := h.waiting hone i flight hflight
      have hstays : (st.next (.packet rawMessage senderIdentity)).verifier = st.verifier :=
        congrArg Prod.fst (verifyPacket_unloaded hnone rawMessage senderIdentity _ _)
      rw [hnext, hstays]
      exact ⟨hlength, hnone, hzero, rfl⟩
  · -- one run has nothing loaded, the other only what has expired
    have hunloaded := verifyPacket_unloaded houtlives.unloaded rawMessage senderIdentity
      st.nowMS st.monotonic
    have hstays : (st.next (.packet rawMessage senderIdentity)).verifier = st.verifier :=
      congrArg Prod.fst hunloaded
    have haccepts : st.accepts (.packet rawMessage senderIdentity) = false :=
      congrArg isAccepted (congrArg Prod.snd hunloaded)
    obtain ⟨session, hsession, hexpired⟩ := houtlives.expired
    generalize hresult :
      tt.verifier.verifyPacket rawMessage senderIdentity tt.nowMS tt.monotonic = result
    obtain ⟨w, result⟩ := result
    have hnext : (tt.next (.packet rawMessage senderIdentity)).verifier = w :=
      congrArg Prod.fst hresult
    have htt : tt.accepts (.packet rawMessage senderIdentity) = isAccepted result :=
      congrArg isAccepted (congrArg Prod.snd hresult)
    rcases SessionCommandVerifier.verifyPacket_cases hresult with
      ⟨packet, loaded, key, sequence, -, haccepted⟩ | ⟨hrejected, hw⟩
    · obtain rfl := Option.some.inj (hsession.symm.trans haccepted.session_eq)
      have := haccepted.passes.notExpired
      rw [h.nowMS] at this
      omega
    · have hfalse : isAccepted result = false := by
        unfold isAccepted
        split
        · rename_i packet
          exact absurd rfl (hrejected packet)
        · rfl
      refine ⟨by rw [htt, haccepts, hfalse], h.nowMS, h.monotonic, ?_, h.flights,
        fun _ i flight hflight ↦ ?_⟩
      · rw [hnext, hstays]
        rcases hw with rfl | rfl
        · exact .inr ⟨hone, houtlives⟩
        · exact .inl houtlives.clears
      · obtain ⟨-, -, -, heq⟩ := h.waiting hone i flight hflight
        rw [heq, houtlives.unloaded] at hsession
        cases hsession

theorem alike_unwinding :
    verifierMachine.Unwinding VerifierState.forges (SparesReplayState oneRefresh)
      (Alike oneRefresh) where
  dropped := by
    intro st tt e h hcond hforged
    cases e with
    | packet rawMessage senderIdentity => exact h.packet_forged hcond hforged
    | _ => cases hforged
  kept := by
    intro st tt e h hcond _
    cases e with
    | tick elapsedMS elapsed => exact ⟨rfl, h.tick elapsedMS elapsed⟩
    | beginRefresh => exact ⟨rfl, h.beginRefresh hcond⟩
    | finishRefresh i outcome => exact ⟨rfl, h.finishRefresh i outcome⟩
    | packet rawMessage senderIdentity => exact h.packet

end Events

/-- Where forged packets spare the replay state, deleting them from a run does not change which
of the other packets are accepted. -/
theorem forged_packets_inert [PythonPlatform] [Ed25519] (oneRefresh : Prop)
    {start : VerifierState} (hstart : verifierSystem.Init start) (es : List VerifierEvent)
    (hspares : verifierMachine.Throughout (SparesReplayState oneRefresh) start es) :
    verifierMachine.Inert VerifierState.forges start es :=
  alike_unwinding.inert (Alike.of_init hstart) hspares

/-! ## A forged packet and a replay -/

section Replay

/-- The sample packet with another sequence: nobody has signed it. -/
def forgedMessage : PyStr :=
  PyStr.ofString "\x7b\"version\":1,\"type\":\"control\",\"session_id\":\"s-1\"," ++
    (PyStr.ofString "\"sequence\":2,\"timestamp_ms\":1000,\"command\":" ++
      (PyStr.ofString "\x7b\"mode\":\"high_level\",\"action\":\"forward\"\x7d," ++
        (PyStr.ofString "\"signature\":\"" ++
          (sampleSignatureB64 ++ PyStr.ofString "\"\x7d"))))

/-- The gateway's answer while the session expires at `expiresAtMS`. -/
def payloadUntil (expiresAtMS : ℤ) : PyValue :=
  .dict [(PyStr.ofString "session", .dict
    [(PyStr.ofString "session_id", sampleSession.sessionID),
      (PyStr.ofString "vehicle_id", sampleSession.vehicleID),
      (PyStr.ofString "operator_id", sampleSession.operatorID),
      (PyStr.ofString "public_key_b64", sampleSession.publicKeyB64),
      (PyStr.ofString "status", sampleSession.status),
      (PyStr.ofString "expires_at_ms", .int expiresAtMS)])]

def freshVerifier : VerifierState := ⟨1050, 0, newVerifier, [], []⟩

theorem spares_of_unexpired [PythonPlatform] [Ed25519] {oneRefresh : Prop} {st : VerifierState}
    {rawMessage senderIdentity : PyStr}
    (h : st.verifier.session.all (fun session ↦ st.nowMS ≤ session.expiresAtMS) = true) :
    SparesReplayState oneRefresh st (.packet rawMessage senderIdentity) := by
  rintro - ⟨session, packet, hfinds⟩
  have hexpired := hfinds.expired
  rw [hfinds.session_eq, Option.all_some, decide_eq_true_eq] at h
  omega

/-- The forged packet comes while the session lives, and then the signed one. -/
def harmlessEvents : List VerifierEvent :=
  [.beginRefresh, .finishRefresh 0 (.answered 200 (payloadUntil 5000)),
    .packet forgedMessage sampleSender, .packet sampleMessage sampleSender]

theorem forged_packets_inert_unexpired :
    (@verifierMachine PythonPlatform.ascii Ed25519.sample).Inert
      (@VerifierState.forges PythonPlatform.ascii Ed25519.sample) freshVerifier
        harmlessEvents := by
  let := PythonPlatform.ascii
  let := Ed25519.sample
  refine forged_packets_inert False ⟨⟨_, _, _, rfl⟩, rfl, rfl⟩ _
    ⟨False.elim, trivial, ?_, ?_, trivial⟩
  · exact spares_of_unexpired (by decide +kernel)
  · exact spares_of_unexpired (by decide +kernel)

/-- The sample packet is accepted, then its session expires; a forged packet comes, the session
is loaded again, renewed, and the sample packet comes again. -/
def replayEvents : List VerifierEvent :=
  [.beginRefresh, .finishRefresh 0 (.answered 200 (payloadUntil 1060)),
    .packet sampleMessage sampleSender, .tick 20 0, .packet forgedMessage sampleSender,
    .beginRefresh, .finishRefresh 1 (.answered 200 (payloadUntil 5000)),
    .packet sampleMessage sampleSender]

theorem forged_packet_reopens_replay :
    (@verifierSystem PythonPlatform.ascii Ed25519.sample).Init freshVerifier ∧
      ¬(@verifierMachine PythonPlatform.ascii Ed25519.sample).Inert
        (@VerifierState.forges PythonPlatform.ascii Ed25519.sample) freshVerifier
          replayEvents := by
  refine ⟨⟨⟨_, _, _, rfl⟩, rfl, rfl⟩, ?_⟩
  decide +kernel

end Replay

end RemoteInfra.Vehicle
