import RemoteInfra.Vehicle.ForgedPackets
import RemoteInfra.Vehicle.Watchdog

/-!
# False alarms of the watchdog

A refresh unloads the session before it asks the gateway, and until the answer is there the
verifier is deaf: packets of the operator are lost.  The watchdog brakes although the operator
never stopped, exactly when a round comes too late after the last packet that was not lost.
-/

namespace RemoteInfra.Vehicle

open RemoteInfra.Library RemoteInfra.Python

/-- Whether a packet of the operator would be heard. -/
inductive Ear
  | unready
  | deaf (since : ℚ)
  /-- a session is loaded; `heard` once a packet has come since -/
  | listening (heard : Bool)
  deriving DecidableEq

/-- When a packet of the operator last arrived, and when one last arrived that was heard. -/
structure Hearing where
  ear : Ear
  arrived : Option ℚ
  heard : Option ℚ

namespace Hearing

def new : Hearing := ⟨.unready, none, none⟩

def update [PythonPlatform] [Ed25519] (key : VerifyKey) (h : Hearing) (st : RuntimeState) :
    RuntimeLabel → Hearing
  | .beginRefresh =>
      match h.ear with
      | .deaf _ => h
      | _ => { h with ear := .deaf st.monotonic }
  | .finishRefresh _ _ _ =>
      match h.ear with
      | .listening _ => h
      | _ => { h with ear := .listening false }
  | .message rawMessage _ _ =>
      if signedUnder key rawMessage then
        match h.ear with
        | .listening _ => ⟨.listening true, some st.monotonic, some st.monotonic⟩
        | _ => { h with arrived := some st.monotonic }
      else h
  | _ => h

end Hearing

/-- The runtime, with what of the operator's packets has been heard. -/
def hearingSystem [PythonPlatform] [Ed25519] (key : VerifyKey) (timeoutMS : ℚ) :
    TransitionSystem (RuntimeState × Hearing) RuntimeLabel :=
  (runtimeSystem timeoutMS).remember (fun _ ↦ Hearing.new) (Hearing.update key)

/-! ## A run that is operated well -/

/-- Renewed perhaps, but the same. -/
def SameSession (loaded session : ActiveControlSession) : Prop :=
  loaded.sessionID = session.sessionID ∧ loaded.operatorID = session.operatorID

/-- A packet of the operator of `session`, signed, in its time window, with sequence `n`. -/
structure FromOperator [PythonPlatform] [Ed25519] (v : SessionCommandVerifier)
    (session : ActiveControlSession) (key : VerifyKey) (rawMessage senderIdentity : PyStr)
    (nowMS : ℤ) (packet : PyValue) (n : ℤ) : Prop where
  loads_eq : loads rawMessage = .ok packet
  version : ∃ x, packet.getItem "version" = .ok x ∧ x.eq PROTOCOL_VERSION = true
  type : ∃ x, packet.getItem "type" = .ok x ∧ x.eq CONTROL_TYPE = true
  sessionID : ∃ x, packet.getItem "session_id" = .ok x ∧ x.eq session.sessionID = true
  sender : senderIdentity = SessionCommandVerifier.operatorIdentity session
  timestamp : ∃ x t, packet.getItem "timestamp_ms" = .ok x ∧ pyInt x = .ok t ∧
    nowMS - t ≤ v.maxAgeMS ∧ t - nowMS ≤ v.maxFutureSkewMS
  sequence : ∃ x, packet.getItem "sequence" = .ok x ∧ pyInt x = .ok n
  command : ∃ x, packet.getItem "command" = .ok x ∧ validCommand x = .ok true
  signature : SessionCommandVerifier.checkSignature key packet = .ok ()

def sequenceOf [PythonPlatform] (rawMessage : PyStr) : Except PyExc ℤ := do
  pyInt (← (← loads rawMessage).getItem "sequence")

/-- The sequence `n` is positive and above that of every packet signed so far. -/
def Above [PythonPlatform] [Ed25519] (key : VerifyKey) (ls : List RuntimeLabel) (n : ℤ) : Prop :=
  0 < n ∧ ∀ rawMessage senderIdentity verdict m,
    .message rawMessage senderIdentity verdict ∈ ls → signedUnder key rawMessage = true →
      sequenceOf rawMessage = .ok m → m < n

/-- Asked of every step: packets of the operator come at most `gMS` milliseconds apart, with
increasing sequences, and nobody else signs; a refresh brings the session within two seconds,
and it does not expire. -/
def Operated [PythonPlatform] [Ed25519] (session : ActiveControlSession) (key : VerifyKey)
    (gMS : ℚ) : TransitionSystem.StepCondition (RuntimeState × Hearing) RuntimeLabel
  | _, (_, h), .time _ monotonic =>
      (∀ a, h.arrived = some a → (monotonic - a) * 1000 ≤ gMS) ∧
        ∀ since, h.ear = .deaf since → (monotonic - since) * 1000 ≤ 2000
  | _, (st, _), .finishRefresh _ outcome _ =>
      ∃ payload loaded, outcome = .answered 200 payload ∧
        SessionCommandVerifier.loadSession st.runtime.verifier.vehicleID payload =
          .ok (loaded, key) ∧ SameSession loaded session
  | ls, (st, _), .message rawMessage senderIdentity _ =>
      (∀ loaded, st.runtime.verifier.session = some loaded → st.nowMS ≤ loaded.expiresAtMS) ∧
        (signedUnder key rawMessage = true →
          ∃ packet n, FromOperator st.runtime.verifier session key rawMessage senderIdentity
            st.nowMS packet n ∧ Above key ls n)
  | _, _, _ => True

def SomeAccepted (ls : List RuntimeLabel) : Prop :=
  ∃ rawMessage senderIdentity packet, .message rawMessage senderIdentity (.ok (some packet)) ∈ ls

/-- Asked of every step: once a packet has been accepted, a round of the watchdog leaves the
brake off. -/
def NoFalseBrake (timeoutMS : ℚ) :
    TransitionSystem.StepCondition (RuntimeState × Hearing) RuntimeLabel
  | ls, (st, _), .watchdog => SomeAccepted ls →
      (st.runtime.watchdogRound timeoutMS st.monotonic).brakeController.inEmergency = false
  | _, _, _ => True

/-- Asked of every step: a round of the watchdog comes at most the timeout after the last packet
that was heard. -/
def RoundsTimely (timeoutMS : ℚ) :
    TransitionSystem.StepCondition (RuntimeState × Hearing) RuntimeLabel
  | _, (st, h), .watchdog => ∀ a, h.heard = some a → (st.monotonic - a) * 1000 ≤ timeoutMS
  | _, _, _ => True

/-- Asked of every step: a refresh ends within `lMS` milliseconds, and once the operator has been
heard another one begins only after a packet has been heard again. -/
def QuickRefreshes (lMS : ℚ) :
    TransitionSystem.StepCondition (RuntimeState × Hearing) RuntimeLabel
  | _, (_, h), .time _ monotonic =>
      ∀ since, h.ear = .deaf since → (monotonic - since) * 1000 ≤ lMS
  | _, (_, h), .beginRefresh => h.heard ≠ none → h.ear ≠ .listening false
  | _, _, _ => True

/-! ## Who is heard -/

theorem FromOperator.verifyPacket [PythonPlatform] [Ed25519] {v : SessionCommandVerifier}
    {session loaded : ActiveControlSession} {key : VerifyKey} {rawMessage senderIdentity : PyStr}
    {nowMS : ℤ} {packet : PyValue} {n : ℤ}
    (h : FromOperator v session key rawMessage senderIdentity nowMS packet n)
    (hsession : v.session = some loaded) (hkey : v.verifyKey = some key)
    (hsame : SameSession loaded session) (hexpiry : nowMS ≤ loaded.expiresAtMS)
    (hsequence : v.lastSequence < n) (monotonic : ℚ) :
    v.verifyPacket rawMessage senderIdentity nowMS monotonic =
      ({ v with lastSequence := n, lastValidCmdTime := monotonic }, .ok (some packet)) := by
  have hpasses : v.Passes loaded packet senderIdentity nowMS n :=
    { version := h.version
      type := h.type
      sessionID := by rw [hsame.1]; exact h.sessionID
      sender := by
        rw [h.sender, SessionCommandVerifier.operatorIdentity,
          SessionCommandVerifier.operatorIdentity, hsame.2]
      notExpired := hexpiry
      timestamp := h.timestamp
      sequence := by
        obtain ⟨x, hx, hn⟩ := h.sequence
        exact ⟨x, hx, hn, hsequence⟩
      command := h.command }
  have hsigned : ∃ x, packet.getItem "signature" = .ok x := by
    obtain ⟨_, _, x, _, _, _, hx, _⟩ := signedBy_of_checkSignature h.signature
    exact ⟨x, hx⟩
  obtain ⟨x, hx⟩ := hsigned
  have hcheck := SessionCommandVerifier.checkPacket_of_passes hpasses hx
  have hexamine : v.examine loaded key rawMessage senderIdentity nowMS =
      .ok (.passed n, packet) := by
    simp only [SessionCommandVerifier.examine, h.loads_eq, ok_bind, hcheck, h.signature]
    rfl
  simp only [SessionCommandVerifier.verifyPacket, hsession, hkey]
  rw [hexamine]

theorem FromOperator.of_examine [PythonPlatform] [Ed25519] {v : SessionCommandVerifier}
    {session : ActiveControlSession} {key : VerifyKey} {rawMessage senderIdentity : PyStr}
    {nowMS : ℤ} {packet : PyValue} {n : ℤ}
    (h : v.examine session key rawMessage senderIdentity nowMS = .ok (.passed n, packet)) :
    FromOperator v session key rawMessage senderIdentity nowMS packet n := by
  obtain ⟨loaded, hloads, h⟩ := bind_eq_ok.mp h
  obtain ⟨check, hcheck, h⟩ := bind_eq_ok.mp h
  cases check with
  | passed m =>
      obtain ⟨⟨⟩, hsignature, h⟩ := bind_eq_ok.mp h
      obtain ⟨hm, rfl⟩ := Prod.mk.inj (Except.ok.inj h)
      obtain rfl := SessionCommandVerifier.Check.passed.inj hm
      have hpasses := SessionCommandVerifier.passes_of_checkPacket hcheck
      obtain ⟨x, hx, hn, -⟩ := hpasses.sequence
      exact
        { loads_eq := hloads
          version := hpasses.version
          type := hpasses.type
          sessionID := hpasses.sessionID
          sender := hpasses.sender
          timestamp := hpasses.timestamp
          sequence := ⟨x, hx, hn⟩
          command := hpasses.command
          signature := hsignature }
  | rejected => cases h
  | expired => cases h

theorem FromOperator.signedUnder [PythonPlatform] [Ed25519] {v : SessionCommandVerifier}
    {session : ActiveControlSession} {key : VerifyKey} {rawMessage senderIdentity : PyStr}
    {nowMS : ℤ} {packet : PyValue} {n : ℤ}
    (h : FromOperator v session key rawMessage senderIdentity nowMS packet n) :
    signedUnder key rawMessage = true := by
  rw [Vehicle.signedUnder, h.loads_eq, ok_bind, h.signature]

theorem FromOperator.sequenceOf [PythonPlatform] [Ed25519] {v : SessionCommandVerifier}
    {session : ActiveControlSession} {key : VerifyKey} {rawMessage senderIdentity : PyStr}
    {nowMS : ℤ} {packet : PyValue} {n : ℤ}
    (h : FromOperator v session key rawMessage senderIdentity nowMS packet n) :
    sequenceOf rawMessage = .ok n := by
  obtain ⟨x, hx, hn⟩ := h.sequence
  simp only [Vehicle.sequenceOf, h.loads_eq, ok_bind, hx, hn]

section Runs

variable {gMS timeoutMS : ℚ} {ls : List RuntimeLabel} {st st' : RuntimeState} {h h' : Hearing}
  {l : RuntimeLabel}

/-- The last packet heard is the last one accepted. -/
structure HeardAccepted (ls : List RuntimeLabel) (st : RuntimeState) (h : Hearing) : Prop where
  heard : ∀ a, h.heard = some a → st.lastAccepted = a
  some_iff : h.heard ≠ none ↔ SomeAccepted ls

theorem someAccepted_append_iff (hl : ∀ rawMessage senderIdentity packet,
    l ≠ .message rawMessage senderIdentity (.ok (some packet))) :
    SomeAccepted (ls ++ [l]) ↔ SomeAccepted ls := by
  constructor
  · rintro ⟨rawMessage, senderIdentity, packet, hmem⟩
    rcases List.mem_append.mp hmem with hold | hnew
    · exact ⟨rawMessage, senderIdentity, packet, hold⟩
    · exact absurd (List.mem_singleton.mp hnew).symm (hl rawMessage senderIdentity packet)
  · rintro ⟨rawMessage, senderIdentity, packet, hmem⟩
    exact ⟨rawMessage, senderIdentity, packet, List.mem_append_left _ hmem⟩

theorem HeardAccepted.frame (hheard : HeardAccepted ls st h)
    (hl : ∀ rawMessage senderIdentity packet,
      l ≠ .message rawMessage senderIdentity (.ok (some packet)))
    (haccepted : st'.lastAccepted = st.lastAccepted) (hsame : h'.heard = h.heard) :
    HeardAccepted (ls ++ [l]) st' h' := by
  refine ⟨?_, ?_⟩
  · rw [haccepted, hsame]
    exact hheard.heard
  · rw [someAccepted_append_iff hl, hsame]
    exact hheard.some_iff

/-- With `a` the last packet heard and `b` the last that arrived, how far apart the two are. -/
def Ear.Within (gMS lMS now a b : ℚ) : Ear → Prop
  | .unready => False
  | .deaf since => (since - a) * 1000 ≤ gMS ∧ (now - since) * 1000 ≤ lMS
  | .listening true => b = a
  | .listening false => (b - a) * 1000 ≤ gMS + lMS

structure Bounded (gMS lMS : ℚ) (st : RuntimeState) (h : Hearing) : Prop where
  unheard : h.ear = .unready → h.heard = none
  fresh : h.ear = .listening true → h.heard ≠ none
  within : ∀ a, h.heard = some a → ∃ b, h.arrived = some b ∧ b ≤ st.monotonic ∧
    (st.monotonic - b) * 1000 ≤ gMS ∧ h.ear.Within gMS lMS st.monotonic a b

theorem Bounded.of_monotonic {lMS : ℚ} (hbounded : Bounded gMS lMS st h)
    (hnow : st'.monotonic = st.monotonic) : Bounded gMS lMS st' h := by
  refine ⟨hbounded.unheard, hbounded.fresh, ?_⟩
  rw [hnow]
  exact hbounded.within

theorem Bounded.timely {lMS : ℚ} (hbounded : Bounded gMS lMS st h) (hg : 0 ≤ gMS) (hl : 0 ≤ lMS)
    {a : ℚ} (ha : h.heard = some a) : (st.monotonic - a) * 1000 ≤ 2 * gMS + lMS := by
  obtain ⟨b, -, hle, hgap, hwithin⟩ := hbounded.within a ha
  match hear : h.ear with
  | .unready =>
      rw [hear] at hwithin
      exact hwithin.elim
  | .deaf since =>
      rw [hear] at hwithin
      obtain ⟨hbefore, hsince⟩ := hwithin
      linarith
  | .listening true =>
      rw [hear] at hwithin
      obtain rfl : b = a := hwithin
      linarith
  | .listening false =>
      rw [hear] at hwithin
      have hlost : (b - a) * 1000 ≤ gMS + lMS := hwithin
      linarith

variable [PythonPlatform] [Ed25519] {session : ActiveControlSession} {key : VerifyKey}

theorem Above.of_append {n : ℤ} (habove : Above key (ls ++ [l]) n) :
    Above key ls n :=
  ⟨habove.1, fun _ _ _ m hmem ↦ habove.2 _ _ _ m (List.mem_append_left _ hmem)⟩

/-- The verifier has the session loaded unless it is deaf, and remembers no sequence that a
packet to come may not exceed. -/
structure Tuned (session : ActiveControlSession) (key : VerifyKey) (ls : List RuntimeLabel)
    (st : RuntimeState) (h : Hearing) : Prop where
  unloaded : (∀ b, h.ear ≠ .listening b) → st.runtime.verifier.session = none
  loaded : ∀ b, h.ear = .listening b → ∃ loaded, st.runtime.verifier.session = some loaded ∧
    SameSession loaded session ∧ st.runtime.verifier.verifyKey = some key
  sequence : ∀ n, Above key ls n → st.runtime.verifier.lastSequence < n
  flights : ∀ (i : ℕ) refresh, st.flights[i]? = some (some refresh) → ∀ n, Above key ls n →
    refresh.previousSequence < n

theorem Tuned.message (htuned : Tuned session key ls st h) {rawMessage senderIdentity : PyStr}
    {v : SessionCommandVerifier} {verdict : Except PyExc (Option PyValue)}
    (hcond : Operated session key gMS ls (st, h) (.message rawMessage senderIdentity verdict))
    (hverify : st.runtime.verifier.verifyPacket rawMessage senderIdentity st.nowMS st.monotonic =
      (v, verdict)) :
    (∃ b packet n, h.ear = .listening b ∧ signedUnder key rawMessage = true ∧
        verdict = .ok (some packet) ∧ sequenceOf rawMessage = .ok n ∧
        v = { st.runtime.verifier with lastSequence := n, lastValidCmdTime := st.monotonic }) ∨
      ((∀ b, h.ear = .listening b → signedUnder key rawMessage = false) ∧
        (∀ packet, verdict ≠ .ok (some packet)) ∧ v = st.runtime.verifier) := by
  obtain ⟨hexpiry, hoperator⟩ := hcond
  by_cases hear : ∃ b, h.ear = .listening b
  · obtain ⟨b, hb⟩ := hear
    obtain ⟨loaded, hsession, hsame, hkey⟩ := htuned.loaded b hb
    by_cases hsigned : signedUnder key rawMessage = true
    · obtain ⟨packet, n, hpacket, habove⟩ := hoperator hsigned
      have haccepted := hpacket.verifyPacket hsession hkey hsame (hexpiry loaded hsession)
        (htuned.sequence n habove) st.monotonic
      obtain ⟨rfl, rfl⟩ := Prod.mk.inj (haccepted.symm.trans hverify)
      exact .inl ⟨b, packet, n, hb, hsigned, rfl, hpacket.sequenceOf, rfl⟩
    · have hsigned : signedUnder key rawMessage = false := (Bool.not_eq_true _).mp hsigned
      have hunsigned : ∀ k, st.runtime.verifier.verifyKey = some k →
          signedUnder k rawMessage = false := by
        intro k hk
        obtain rfl := Option.some.inj (hkey.symm.trans hk)
        exact hsigned
      obtain ⟨hrejected, hv⟩ :=
        verifyPacket_unsigned hunsigned senderIdentity st.nowMS st.monotonic
      rw [hverify] at hrejected hv
      refine .inr ⟨fun _ _ ↦ hsigned, ?_, ?_⟩
      · rintro packet rfl
        cases hrejected
      · rcases hv with hv | ⟨⟨expired, packet, hfinds⟩, -⟩
        · exact hv
        · have := hexpiry expired hfinds.session_eq
          have := hfinds.expired
          omega
  · have hnone := htuned.unloaded fun b hb ↦ hear ⟨b, hb⟩
    rw [verifyPacket_unloaded hnone] at hverify
    obtain ⟨rfl, rfl⟩ := Prod.mk.inj hverify
    exact .inr ⟨fun b hb ↦ absurd ⟨b, hb⟩ hear, by simp, rfl⟩

/-- Steps that change neither verifier nor refreshes. -/
theorem Tuned.frame (htuned : Tuned session key ls st h)
    (hverifier : st'.runtime.verifier = st.runtime.verifier) (hflights : st'.flights = st.flights)
    (hear : h'.ear = h.ear) : Tuned session key (ls ++ [l]) st' h' := by
  refine ⟨?_, ?_, fun n habove ↦ ?_, fun i refresh hrefresh n habove ↦ ?_⟩
  · rw [hverifier, hear]
    exact htuned.unloaded
  · rw [hverifier, hear]
    exact htuned.loaded
  · rw [hverifier]
    exact htuned.sequence n habove.of_append
  · rw [hflights] at hrefresh
    exact htuned.flights i refresh hrefresh n habove.of_append

theorem Tuned.beginRefresh (htuned : Tuned session key ls st h)
    {refresh : SessionCommandVerifier.Refresh} {v : SessionCommandVerifier}
    (hbegin : st.runtime.verifier.beginRefresh = (refresh, v)) :
    Tuned session key (ls ++ [.beginRefresh])
      { st with
        runtime := { st.runtime with verifier := v }
        flights := st.flights ++ [some refresh] }
      (Hearing.update key h st .beginRefresh) := by
  obtain ⟨rfl, rfl⟩ := Prod.mk.inj hbegin
  refine ⟨fun _ ↦ rfl, fun b hb ↦ ?_, fun n habove ↦ habove.1, fun i other hother n habove ↦ ?_⟩
  · simp only [Hearing.update] at hb
    split at hb
    · rename_i since hdeaf
      cases hdeaf.symm.trans hb
    · cases hb
  · rcases getElem?_append_singleton hother with hother | ⟨-, hother⟩
    · exact htuned.flights i other hother n habove.of_append
    · obtain rfl := Option.some.inj hother
      exact htuned.sequence n habove.of_append

theorem Tuned.finishRefresh (htuned : Tuned session key ls st h) {i : ℕ}
    {refresh : SessionCommandVerifier.Refresh}
    {outcome : SessionCommandVerifier.RefreshOutcome} {v : SessionCommandVerifier}
    {result : Except PyExc Unit}
    (hcond : Operated session key gMS ls (st, h) (.finishRefresh i outcome result))
    (hflight : st.flights[i]? = some (some refresh))
    (hfinish : st.runtime.verifier.finishRefresh refresh outcome = (v, result)) :
    Tuned session key (ls ++ [.finishRefresh i outcome result])
      { st with
        runtime := { st.runtime with verifier := v }
        flights := st.flights.set i none }
      (Hearing.update key h st (.finishRefresh i outcome result)) := by
  obtain ⟨payload, loaded, rfl, hload, hsame⟩ := hcond
  have hinstall : v = st.runtime.verifier.install refresh loaded key := by
    simp only [SessionCommandVerifier.finishRefresh, hload] at hfinish
    exact (Prod.mk.inj hfinish).1.symm
  have hlistening : ∃ b, (Hearing.update key h st
      (.finishRefresh i (.answered 200 payload) result)).ear = .listening b := by
    simp only [Hearing.update]
    split
    · rename_i b hb
      exact ⟨b, hb⟩
    · exact ⟨false, rfl⟩
  refine ⟨fun hdeaf ↦ ?_, fun _ _ ↦ ?_, fun n habove ↦ ?_, fun j other hother n habove ↦ ?_⟩
  · obtain ⟨b, hb⟩ := hlistening
    exact absurd hb (hdeaf b)
  · rw [hinstall]
    exact ⟨loaded, rfl, hsame, rfl⟩
  · rw [hinstall]
    simp only [SessionCommandVerifier.install]
    split_ifs
    · exact htuned.flights i refresh hflight n habove.of_append
    · exact htuned.sequence n habove.of_append
  · have hold : st.flights[j]? = some (some other) := by
      rw [List.getElem?_set] at hother
      split_ifs at hother with hij hlt
      · simp at hother
      · exact hother
    exact htuned.flights j other hold n habove.of_append

theorem Tuned.received (htuned : Tuned session key ls st h) {rawMessage senderIdentity : PyStr}
    {v : SessionCommandVerifier} {verdict : Except PyExc (Option PyValue)}
    {r : SessionVehicleRuntime}
    (hcond : Operated session key gMS ls (st, h) (.message rawMessage senderIdentity verdict))
    (hverify : st.runtime.verifier.verifyPacket rawMessage senderIdentity st.nowMS st.monotonic =
      (v, verdict)) (hr : r.verifier = v) :
    Tuned session key (ls ++ [.message rawMessage senderIdentity verdict])
      { st with runtime := r, lastAccepted := st.acceptedAt verdict }
      (Hearing.update key h st (.message rawMessage senderIdentity verdict)) := by
  rcases htuned.message hcond hverify with
    ⟨b, packet, n, hb, hsigned, rfl, hn, rfl⟩ | ⟨hunheard, -, rfl⟩
  · obtain ⟨loaded, hsession, hsame, hkey⟩ := htuned.loaded b hb
    have hupdate : (Hearing.update key h st
        (.message rawMessage senderIdentity (.ok (some packet)))).ear = .listening true := by
      simp only [Hearing.update, hsigned, if_true, hb]
    refine ⟨fun hdeaf ↦ absurd hupdate (hdeaf true), fun _ _ ↦ ?_, fun m habove ↦ ?_,
      fun i refresh hrefresh m habove ↦ htuned.flights i refresh hrefresh m habove.of_append⟩
    · rw [hr]
      exact ⟨loaded, hsession, hsame, hkey⟩
    · rw [hr]
      exact habove.2 _ _ _ n (List.mem_append_right _ (List.mem_singleton.mpr rfl)) hsigned hn
  · have hear : (Hearing.update key h st
        (.message rawMessage senderIdentity verdict)).ear = h.ear := by
      simp only [Hearing.update]
      split_ifs with hsigned
      · split
        · rename_i b hb
          cases (hunheard b hb).symm.trans hsigned
        · rfl
      · rfl
    exact htuned.frame hr rfl hear

theorem onDatachannelMessage_verifier {r r' : SessionVehicleRuntime}
    {rawMessage senderIdentity : PyStr} {nowMS : ℤ} {monotonic : ℚ}
    {v : SessionCommandVerifier} {verdict : Except PyExc (Option PyValue)}
    {result : Except PyExc Unit}
    (hverify : r.verifier.verifyPacket rawMessage senderIdentity nowMS monotonic = (v, verdict))
    (hmessage : r.onDatachannelMessage rawMessage senderIdentity nowMS monotonic = (r', result)) :
    r'.verifier = v := by
  rcases SessionVehicleRuntime.onDatachannelMessage_cases hverify hmessage with
    ⟨packet, loaded, k, sequence, command, -, -, -, hobeys⟩ | ⟨-, hverifier, -⟩
  · exact hobeys.verifier_eq
  · exact hverifier

theorem Tuned.step (htuned : Tuned session key ls st h)
    (hcond : Operated session key gMS ls (st, h) l)
    (hstep : RuntimeState.Step timeoutMS st l st') :
    Tuned session key (ls ++ [l]) st' (Hearing.update key h st l) := by
  cases hstep with
  | time _ => exact htuned.frame rfl rfl rfl
  | beginRefresh hbegin => exact htuned.beginRefresh hbegin
  | finishRefresh hflight hfinish => exact htuned.finishRefresh hcond hflight hfinish
  | message hverify hmessage =>
      exact htuned.received hcond hverify (onDatachannelMessage_verifier hverify hmessage)
  | watchdog _ =>
      exact htuned.frame (SessionVehicleRuntime.watchdogRound_verifier _ _ _) rfl rfl
  | audit _ htake =>
      obtain ⟨-, rfl⟩ := Prod.mk.inj htake
      exact htuned.frame rfl rfl rfl
  | @telemetry report r _ htake =>
      obtain rfl : st.runtime.takeTelemetry.2 = r := congrArg Prod.snd htake
      exact htuned.frame (SessionVehicleRuntime.takeTelemetry_verifier _) rfl rfl
  | stop => exact htuned.frame rfl rfl rfl

theorem Tuned.of_run {p : RuntimeState × Hearing}
    (hrun : (hearingSystem key timeoutMS).RunWhere (Operated session key gMS) ls p) :
    Tuned session key ls p.1 p.2 := by
  refine hrun.invariant (P := fun ls p ↦ Tuned session key ls p.1 p.2) ?_ ?_
  · rintro ⟨st, h⟩ ⟨⟨⟨vehicleID, maxAgeMS, maxFutureSkewMS, hruntime⟩, hflights, -⟩, hnew⟩
    obtain rfl : h = Hearing.new := hnew
    dsimp only at hruntime hflights
    refine ⟨fun _ ↦ ?_, fun b hb ↦ (by cases hb), fun n habove ↦ ?_, fun i refresh hrefresh ↦ ?_⟩
    · rw [hruntime]
      rfl
    · rw [hruntime]
      exact habove.1
    · simp [hflights] at hrefresh
  · rintro ls ⟨st, h⟩ l ⟨st', h'⟩ - htuned hcond ⟨hstep, rfl⟩
    exact htuned.step hcond hstep

/-! ## The brake -/

theorem HeardAccepted.step (hheard : HeardAccepted ls st h) (htuned : Tuned session key ls st h)
    (hcond : Operated session key gMS ls (st, h) l)
    (hstep : RuntimeState.Step timeoutMS st l st') :
    HeardAccepted (ls ++ [l]) st' (Hearing.update key h st l) := by
  cases hstep with
  | time _ => exact hheard.frame (by simp) rfl rfl
  | beginRefresh _ =>
      refine hheard.frame (by simp) rfl ?_
      simp only [Hearing.update]
      split <;> rfl
  | finishRefresh _ _ =>
      refine hheard.frame (by simp) rfl ?_
      simp only [Hearing.update]
      split <;> rfl
  | @message rawMessage senderIdentity v verdict r result hverify _ =>
      rcases htuned.message hcond hverify with
        ⟨b, packet, n, hb, hsigned, rfl, -, -⟩ | ⟨hunheard, hrejected, -⟩
      · have hupdate : (Hearing.update key h st
            (.message rawMessage senderIdentity (.ok (some packet)))).heard =
              some st.monotonic := by
          simp only [Hearing.update, hsigned, if_true, hb]
        refine ⟨fun a ha ↦ Option.some.inj (hupdate.symm.trans ha), ?_⟩
        rw [hupdate]
        exact ⟨fun _ ↦ ⟨rawMessage, senderIdentity, packet, by simp⟩, fun _ ↦ by simp⟩
      · refine hheard.frame ?_ ?_ ?_
        · rintro _ _ packet heq
          obtain ⟨-, -, hverdict⟩ := RuntimeLabel.message.inj heq
          exact hrejected packet hverdict
        · unfold RuntimeState.acceptedAt
          split
          · rename_i packet
            exact absurd rfl (hrejected packet)
          · rfl
        · simp only [Hearing.update]
          split_ifs with hsigned
          · split
            · rename_i b hb
              cases (hunheard b hb).symm.trans hsigned
            · rfl
          · rfl
  | watchdog _ => exact hheard.frame (by simp) rfl rfl
  | audit _ _ => exact hheard.frame (by simp) rfl rfl
  | telemetry _ _ => exact hheard.frame (by simp) rfl rfl
  | stop => exact hheard.frame (by simp) rfl rfl

theorem HeardAccepted.of_run {p : RuntimeState × Hearing}
    (hrun : (hearingSystem key timeoutMS).RunWhere (Operated session key gMS) ls p) :
    HeardAccepted ls p.1 p.2 := by
  refine hrun.invariant (P := fun ls p ↦ HeardAccepted ls p.1 p.2) ?_ ?_
  · rintro ⟨st, h⟩ ⟨-, hnew⟩
    obtain rfl : h = Hearing.new := hnew
    refine ⟨fun a ha ↦ (by cases ha), ?_⟩
    simp [SomeAccepted, Hearing.new]
  · rintro ls ⟨st, h⟩ l ⟨st', h'⟩ hrun hheard hcond ⟨hstep, rfl⟩
    exact hheard.step (Tuned.of_run hrun) hcond hstep

theorem lastValidCmdTime_of_run {p : RuntimeState × Hearing}
    (hrun : (hearingSystem key timeoutMS).RunWhere (Operated session key gMS) ls p) {a : ℚ}
    (ha : p.2.heard = some a) : p.1.runtime.verifier.lastValidCmdTime = a := by
  have hwatched := Watched.of_run hrun.forget
  rw [hwatched.lastValidCmdTime_eq]
  exact (HeardAccepted.of_run hrun).heard a ha

/-- While the rounds are timely the brake stays off. -/
theorem brakeOff_of_timely {p : RuntimeState × Hearing}
    (hrun : (hearingSystem key timeoutMS).RunWhere
      ((Operated session key gMS).and (RoundsTimely timeoutMS)) ls p)
    (hheard : p.2.heard ≠ none) : p.1.inEmergency = false := by
  refine hrun.invariant (P := fun _ p ↦ p.2.heard ≠ none → p.1.inEmergency = false) ?_ ?_ hheard
  · rintro ⟨st, h⟩ ⟨-, hnew⟩ hsome
    obtain rfl : h = Hearing.new := hnew
    exact absurd rfl hsome
  · rintro ls ⟨st, h⟩ l ⟨st', h'⟩ hrun hoff ⟨hcond, htimely⟩ ⟨hstep, rfl⟩ hsome
    have hrun' := hrun.left
    have hafter := (HeardAccepted.of_run hrun').step (Tuned.of_run hrun') hcond hstep
    have hsome' := hafter.some_iff.mp hsome
    by_cases hl : ∃ rawMessage senderIdentity packet,
        l = .message rawMessage senderIdentity (.ok (some packet))
    · obtain ⟨rawMessage, senderIdentity, packet, rfl⟩ := hl
      cases hstep with
      | message hverify hmessage =>
          rcases SessionVehicleRuntime.onDatachannelMessage_cases hverify hmessage with
            ⟨packet', loaded, k, sequence, command, -, -, -, hobeys⟩ | ⟨hrejected, -⟩
          · simp only [RuntimeState.inEmergency, hobeys.brakeController_eq]
            rfl
          · exact absurd rfl (hrejected packet)
    · -- something was heard before this step
      have hbefore : h.heard ≠ none := by
        refine (HeardAccepted.of_run hrun').some_iff.mpr ?_
        exact (someAccepted_append_iff fun r s packet heq ↦ hl ⟨r, s, packet, heq⟩).mp hsome'
      rcases hstep.cases_brake with
        ⟨_, _, -, -, -, -, hkeeps⟩ | ⟨rfl, -, -, hruntime, -⟩ |
          ⟨rawMessage, senderIdentity, packet, heq, -⟩ | ⟨-, -, -, -, hkeeps⟩
      · exact hkeeps.inEmergency_eq.trans (hoff hbefore)
      · obtain ⟨a, ha⟩ := Option.ne_none_iff_exists'.mp hbefore
        have hlast : st.runtime.verifier.lastValidCmdTime = a := lastValidCmdTime_of_run hrun' ha
        have hround : st'.runtime = st.runtime.watchdogRound timeoutMS st.monotonic := hruntime
        have hwithin : ¬ (st.monotonic - a) * 1000 > timeoutMS := not_lt.mpr (htimely a ha)
        have hbrake := hoff hbefore
        simp only [RuntimeState.inEmergency] at hbrake
        simp only [RuntimeState.inEmergency, hround,
          SessionVehicleRuntime.watchdogRound_inEmergency, hbrake, hlast, hwithin,
          decide_false, Bool.or_self]
      · exact absurd ⟨rawMessage, senderIdentity, packet, heq⟩ hl
      · exact hkeeps.inEmergency_eq.trans (hoff hbefore)

/-! ## How quick a refresh has to be -/

theorem Bounded.beginRefresh {lMS : ℚ} (hbounded : Bounded gMS lMS st h) (hl : 0 ≤ lMS)
    (hquick : h.heard ≠ none → h.ear ≠ .listening false) (hnow : st'.monotonic = st.monotonic) :
    Bounded gMS lMS st' (Hearing.update key h st .beginRefresh) := by
  match hear : h.ear with
  | .deaf since =>
      have hupdate : Hearing.update key h st .beginRefresh = h := by
        simp only [Hearing.update, hear]
      rw [hupdate]
      exact hbounded.of_monotonic hnow
  | .unready =>
      have hnone := hbounded.unheard hear
      simp only [Hearing.update, hear]
      refine ⟨fun hunready ↦ (by cases hunready), fun hfresh ↦ (by cases hfresh), fun a ha ↦ ?_⟩
      cases hnone.symm.trans ha
  | .listening false =>
      simp only [Hearing.update, hear]
      refine ⟨fun hunready ↦ (by cases hunready), fun hfresh ↦ (by cases hfresh), fun a ha ↦ ?_⟩
      have hsome : h.heard ≠ none := by
        intro hnone
        cases hnone.symm.trans ha
      exact absurd hear (hquick hsome)
  | .listening true =>
      simp only [Hearing.update, hear]
      refine ⟨fun hunready ↦ (by cases hunready), fun hfresh ↦ (by cases hfresh), fun a ha ↦ ?_⟩
      obtain ⟨b, hb, hle, hgap, hwithin⟩ := hbounded.within a ha
      rw [hear] at hwithin
      obtain rfl : b = a := hwithin
      rw [hnow]
      refine ⟨b, hb, hle, hgap, hgap, ?_⟩
      rw [sub_self, zero_mul]
      exact hl

theorem Bounded.finishRefresh {lMS : ℚ} (hbounded : Bounded gMS lMS st h)
    (hnow : st'.monotonic = st.monotonic) (i : ℕ)
    (outcome : SessionCommandVerifier.RefreshOutcome) (result : Except PyExc Unit) :
    Bounded gMS lMS st' (Hearing.update key h st (.finishRefresh i outcome result)) := by
  match hear : h.ear with
  | .listening fresh =>
      have hupdate : Hearing.update key h st (.finishRefresh i outcome result) = h := by
        simp only [Hearing.update, hear]
      rw [hupdate]
      exact hbounded.of_monotonic hnow
  | .unready =>
      have hnone := hbounded.unheard hear
      simp only [Hearing.update, hear]
      refine ⟨fun hunready ↦ (by cases hunready), fun hfresh ↦ (by cases hfresh), fun a ha ↦ ?_⟩
      cases hnone.symm.trans ha
  | .deaf since =>
      simp only [Hearing.update, hear]
      refine ⟨fun hunready ↦ (by cases hunready), fun hfresh ↦ (by cases hfresh), fun a ha ↦ ?_⟩
      obtain ⟨b, hb, hle, hgap, hwithin⟩ := hbounded.within a ha
      rw [hear] at hwithin
      obtain ⟨hbefore, hsince⟩ := hwithin
      rw [hnow]
      refine ⟨b, hb, hle, hgap, ?_⟩
      change (b - a) * 1000 ≤ gMS + lMS
      linarith

theorem Bounded.message {lMS : ℚ} (hbounded : Bounded gMS lMS st h) (hg : 0 ≤ gMS)
    (hnow : st'.monotonic = st.monotonic) (rawMessage senderIdentity : PyStr)
    (verdict : Except PyExc (Option PyValue)) :
    Bounded gMS lMS st' (Hearing.update key h st (.message rawMessage senderIdentity verdict)) := by
  have hpresent : (st.monotonic - st.monotonic) * 1000 ≤ gMS := by
    rw [sub_self, zero_mul]
    exact hg
  by_cases hsigned : signedUnder key rawMessage = true
  · match hear : h.ear with
    | .unready =>
        have hnone := hbounded.unheard hear
        simp only [Hearing.update, hsigned, if_true, hear]
        refine ⟨fun _ ↦ hnone, fun hfresh ↦ ?_, fun a ha ↦ ?_⟩
        · cases hfresh
        · cases hnone.symm.trans ha
    | .deaf since =>
        simp only [Hearing.update, hsigned, if_true, hear]
        refine ⟨fun hunready ↦ ?_, fun hfresh ↦ ?_, fun a ha ↦ ?_⟩
        · cases hunready
        · cases hfresh
        · obtain ⟨b, -, -, -, hwithin⟩ := hbounded.within a ha
          rw [hnow]
          refine ⟨st.monotonic, rfl, le_rfl, hpresent, ?_⟩
          simp only [hear] at hwithin ⊢
          exact hwithin
    | .listening fresh =>
        simp only [Hearing.update, hsigned, if_true, hear]
        refine ⟨fun hunready ↦ (by cases hunready), fun _ ↦ by simp, fun a ha ↦ ?_⟩
        obtain rfl : st.monotonic = a := Option.some.inj ha
        rw [hnow]
        exact ⟨st.monotonic, rfl, le_rfl, hpresent, rfl⟩
  · have hupdate :
        Hearing.update key h st (.message rawMessage senderIdentity verdict) = h := by
      simp only [Hearing.update, hsigned]
      rfl
    rw [hupdate]
    exact hbounded.of_monotonic hnow

theorem Bounded.step {lMS : ℚ} (hbounded : Bounded gMS lMS st h) (hg : 0 ≤ gMS) (hl : 0 ≤ lMS)
    (hcond : Operated session key gMS ls (st, h) l) (hquick : QuickRefreshes lMS ls (st, h) l)
    (hstep : RuntimeState.Step timeoutMS st l st') :
    Bounded gMS lMS st' (Hearing.update key h st l) := by
  cases hstep with
  | @time nowMS monotonic hmonotonic =>
      refine ⟨hbounded.unheard, hbounded.fresh, fun a ha ↦ ?_⟩
      obtain ⟨b, hb, hle, -, hwithin⟩ := hbounded.within a ha
      refine ⟨b, hb, hle.trans hmonotonic, hcond.1 b hb, ?_⟩
      change h.ear.Within gMS lMS monotonic a b
      match hear : h.ear with
      | .unready =>
          rw [hear] at hwithin
          exact hwithin
      | .deaf since =>
          rw [hear] at hwithin
          exact ⟨hwithin.1, hquick since hear⟩
      | .listening true =>
          rw [hear] at hwithin
          exact hwithin
      | .listening false =>
          rw [hear] at hwithin
          exact hwithin
  | beginRefresh _ => exact hbounded.beginRefresh hl hquick rfl
  | finishRefresh _ _ =>
      refine hbounded.finishRefresh ?_ _ _ _
      rfl
  | message _ _ =>
      refine hbounded.message hg ?_ _ _ _
      rfl
  | watchdog _ => exact ⟨hbounded.unheard, hbounded.fresh, hbounded.within⟩
  | audit _ _ => exact ⟨hbounded.unheard, hbounded.fresh, hbounded.within⟩
  | telemetry _ _ => exact ⟨hbounded.unheard, hbounded.fresh, hbounded.within⟩
  | stop => exact ⟨hbounded.unheard, hbounded.fresh, hbounded.within⟩

theorem Bounded.of_run {lMS : ℚ} (hg : 0 ≤ gMS) (hl : 0 ≤ lMS) {p : RuntimeState × Hearing}
    (hrun : (hearingSystem key timeoutMS).RunWhere
      ((Operated session key gMS).and (QuickRefreshes lMS)) ls p) : Bounded gMS lMS p.1 p.2 := by
  refine hrun.invariant (P := fun _ p ↦ Bounded gMS lMS p.1 p.2) ?_ ?_
  · rintro ⟨st, h⟩ ⟨-, hnew⟩
    obtain rfl : h = Hearing.new := hnew
    exact ⟨fun _ ↦ rfl, fun hfresh ↦ (by cases hfresh), fun a ha ↦ (by cases ha)⟩
  · rintro ls ⟨st, h⟩ l ⟨st', h'⟩ - hbounded ⟨hcond, hquick⟩ ⟨hstep, rfl⟩
    exact hbounded.step hg hl hcond hquick hstep

end Runs

/-- Among the runs of an operator whose packets keep coming, those in which the watchdog never
engages the brake once a packet has been accepted are those whose rounds are timely.  Rounds
are timely when a refresh takes at most `lMS`, packets come at most `gMS` apart, and
`2 * gMS + lMS` is within the timeout. -/
theorem no_false_brake_iff [PythonPlatform] [Ed25519] (session : ActiveControlSession)
    (key : VerifyKey) (gMS timeoutMS : ℚ) (ls : List RuntimeLabel)
    (p : RuntimeState × Hearing) :
    ((hearingSystem key timeoutMS).RunWhere
          ((Operated session key gMS).and (NoFalseBrake timeoutMS)) ls p ↔
        (hearingSystem key timeoutMS).RunWhere
          ((Operated session key gMS).and (RoundsTimely timeoutMS)) ls p) ∧
      ∀ lMS, 0 ≤ gMS → 0 ≤ lMS → 2 * gMS + lMS ≤ timeoutMS →
        (hearingSystem key timeoutMS).RunWhere
            ((Operated session key gMS).and (QuickRefreshes lMS)) ls p →
          (hearingSystem key timeoutMS).RunWhere
            ((Operated session key gMS).and (NoFalseBrake timeoutMS)) ls p := by
  have hof : ∀ {ls p}, (hearingSystem key timeoutMS).RunWhere
      ((Operated session key gMS).and (RoundsTimely timeoutMS)) ls p →
        (hearingSystem key timeoutMS).RunWhere
          ((Operated session key gMS).and (NoFalseBrake timeoutMS)) ls p := by
    intro ls p hrun
    refine hrun.strengthen ?_
    rintro ls ⟨st, h⟩ l - hrun ⟨hcond, htimely⟩ -
    refine ⟨hcond, ?_⟩
    cases l with
    | watchdog =>
        intro haccepted
        have hheard := (HeardAccepted.of_run hrun.left).some_iff.mpr haccepted
        obtain ⟨a, ha⟩ := Option.ne_none_iff_exists'.mp hheard
        have hoff : st.runtime.brakeController.inEmergency = false :=
          brakeOff_of_timely hrun hheard
        have hlast : st.runtime.verifier.lastValidCmdTime = a :=
          lastValidCmdTime_of_run hrun.left ha
        have hwithin : ¬(st.monotonic - a) * 1000 > timeoutMS := not_lt.mpr (htimely a ha)
        rw [SessionVehicleRuntime.watchdogRound_inEmergency, hoff, hlast]
        simpa using hwithin
    | _ => trivial
  refine ⟨⟨fun hrun ↦ ?_, hof⟩, fun lMS hg hl htimeout hrun ↦ ?_⟩
  · refine hrun.strengthen ?_
    rintro ls ⟨st, h⟩ l - hrun ⟨hcond, hquiet⟩ -
    refine ⟨hcond, ?_⟩
    cases l with
    | watchdog =>
        intro a ha
        have haccepted := (HeardAccepted.of_run hrun.left).some_iff.mp
          (Option.ne_none_iff_exists'.mpr ⟨a, ha⟩)
        have hoff := hquiet haccepted
        have hlast : st.runtime.verifier.lastValidCmdTime = a :=
          lastValidCmdTime_of_run hrun.left ha
        rw [SessionVehicleRuntime.watchdogRound_inEmergency, hlast, Bool.or_eq_false_iff,
          decide_eq_false_iff_not, not_lt] at hoff
        exact hoff.2
    | _ => trivial
  · refine hof (hrun.strengthen ?_)
    rintro ls ⟨st, h⟩ l - hrun ⟨hcond, -⟩ -
    refine ⟨hcond, ?_⟩
    cases l with
    | watchdog =>
        intro a ha
        exact ((Bounded.of_run hg hl hrun).timely hg hl ha).trans htimeout
    | _ => trivial

/-! ## A refresh that takes too long -/

section Alarm

def drivingRuntime : SessionVehicleRuntime := .new newVerifier .new

def loadedRuntime : SessionVehicleRuntime := { drivingRuntime with verifier := drivingVerifier }

/-- The session loads and its first packet arrives. -/
def firstHeard : List RuntimeLabel :=
  [.beginRefresh, .finishRefresh 0 (.answered 200 (sessionPayload drivingSession)) (.ok ()),
    .message firstMessage sampleSender (.ok (some firstPacket))]

/-- What loading the session asks of an operated run. -/
theorem operated_drivingPayload {gMS : ℚ} {ls : List RuntimeLabel}
    {p : RuntimeState × Hearing} {i : ℕ} {result : Except PyExc Unit}
    (hv : p.1.runtime.verifier.vehicleID = PyStr.ofString "car-001") :
    @Operated PythonPlatform.ascii Ed25519.driving drivingSession drivingKey gMS ls p
      (.finishRefresh i (.answered 200 (sessionPayload drivingSession)) result) :=
  ⟨_, drivingSession, rfl, hv ▸ loadSession_drivingPayloads.1, rfl, rfl⟩

/-- The first packet is heard, and leaves a runtime that goes on. -/
theorem firstHeard_run (gMS lMS timeoutMS : ℚ) :
    ∃ r : SessionVehicleRuntime, r.verifier = { drivingVerifier with lastSequence := 1 } ∧
      r.running = true ∧ r.brakeController.inEmergency = false ∧
      (@hearingSystem PythonPlatform.ascii Ed25519.driving drivingKey timeoutMS).RunWhere
        ((@Operated PythonPlatform.ascii Ed25519.driving drivingSession drivingKey gMS).and
          (QuickRefreshes lMS)) firstHeard
        (⟨1050, 0, r, [none], 0, none⟩, ⟨.listening true, some 0, some 0⟩) := by
  let := PythonPlatform.ascii
  let := Ed25519.driving
  have hinit : (hearingSystem drivingKey timeoutMS).RunWhere
      ((Operated drivingSession drivingKey gMS).and (QuickRefreshes lMS)) []
      (⟨1050, 0, drivingRuntime, [], 0, none⟩, Hearing.new) :=
    .init ⟨⟨⟨_, _, _, rfl⟩, rfl, rfl, rfl⟩, rfl⟩
  have hbegin : (hearingSystem drivingKey timeoutMS).RunWhere
      ((Operated drivingSession drivingKey gMS).and (QuickRefreshes lMS)) (firstHeard.take 1)
      (⟨1050, 0, drivingRuntime, [some ⟨.none, 0⟩], 0, none⟩, ⟨.deaf 0, none, none⟩) :=
    .step hinit ⟨trivial, fun hsome ↦ absurd rfl hsome⟩ ⟨.beginRefresh rfl, rfl⟩
  have hloaded : (hearingSystem drivingKey timeoutMS).RunWhere
      ((Operated drivingSession drivingKey gMS).and (QuickRefreshes lMS)) (firstHeard.take 2)
      (⟨1050, 0, loadedRuntime, [none], 0, none⟩, ⟨.listening false, none, none⟩) :=
    .step hbegin ⟨operated_drivingPayload rfl, trivial⟩
      ⟨.finishRefresh rfl
        (SessionCommandVerifier.finishRefresh_of_loaded loadSession_drivingPayloads.1 _), rfl⟩
  have hfirst : FromOperator loadedRuntime.verifier drivingSession drivingKey firstMessage
      sampleSender 1050 firstPacket 1 := FromOperator.of_examine examine_drivingMessages.1
  have hverify := SessionCommandVerifier.verifyPacket_of_passed (v := loadedRuntime.verifier) rfl
    rfl examine_drivingMessages.1 0
  obtain ⟨r, command, hobeys, hstep⟩ := exists_message_step timeoutMS
    ⟨1050, 0, loadedRuntime, [none], 0, none⟩ hverify
  refine ⟨r, hobeys.verifier_eq, hobeys.running_eq, ?_, .step hloaded
    ⟨⟨?_, fun _ ↦ ⟨firstPacket, 1, hfirst, by decide, ?_⟩⟩, trivial⟩ ⟨hstep, ?_⟩⟩
  · rw [hobeys.brakeController_eq]
    rfl
  · rintro loaded hloaded
    obtain rfl : drivingSession = loaded := Option.some.inj hloaded
    decide
  · simp [firstHeard]
  · simp only [Hearing.update, hfirst.signedUnder, if_true]

/-- Above the first packet, where it is the only one. -/
theorem above_firstHeard {ls : List RuntimeLabel} {n : ℤ} (hn : 1 < n)
    (hfirst : ∀ rawMessage senderIdentity verdict,
      .message rawMessage senderIdentity verdict ∈ ls → rawMessage = firstMessage) :
    @Above PythonPlatform.ascii Ed25519.driving drivingKey ls n := by
  let := PythonPlatform.ascii
  let := Ed25519.driving
  refine ⟨by omega, fun rawMessage senderIdentity verdict m hmem _ hm ↦ ?_⟩
  rw [hfirst _ _ _ hmem, (FromOperator.of_examine examine_drivingMessages.1).sequenceOf] at hm
  obtain rfl : (1 : ℤ) = m := Except.ok.inj hm
  exact hn

/-- A refresh of 30 milliseconds follows, a packet 50 milliseconds after the first one, and
rounds of the watchdog. -/
def quickRefresh : List RuntimeLabel :=
  firstHeard ++ [.beginRefresh, .time 1080 (3 / 100),
    .finishRefresh 1 (.answered 200 (sessionPayload drivingSession)) (.ok ()),
    .time 1100 (5 / 100), .watchdog,
    .message fourthMessage sampleSender (.ok (some fourthPacket)), .time 1150 (10 / 100),
    .watchdog]

/-- Refreshes are quick, and the brake stays off. -/
theorem no_false_brake_quick :
    ∃ p, (@hearingSystem PythonPlatform.ascii Ed25519.driving drivingKey 300).RunWhere
        ((@Operated PythonPlatform.ascii Ed25519.driving drivingSession drivingKey 100).and
          (NoFalseBrake 300)) quickRefresh p ∧
      p.2.heard = some (5 / 100) ∧ p.1.lastRound = some (10 / 100) := by
  let := PythonPlatform.ascii
  let := Ed25519.driving
  obtain ⟨r, hr, hrunning, -, hheard⟩ := firstHeard_run 100 100 300
  let waiting : SessionVehicleRuntime := { r with verifier := newVerifier }
  let reloaded : SessionVehicleRuntime :=
    { r with verifier := { drivingVerifier with lastSequence := 1 } }
  have hbegin : (hearingSystem drivingKey 300).RunWhere
      ((Operated drivingSession drivingKey 100).and (QuickRefreshes 100)) (quickRefresh.take 4)
      (⟨1050, 0, waiting, [none, some ⟨replayID, 1⟩], 0, none⟩,
        ⟨.deaf 0, some 0, some 0⟩) := by
    refine .step hheard ⟨trivial, fun _ hlistening ↦ by cases hlistening⟩ ⟨.beginRefresh ?_, rfl⟩
    simp only [hr]
    rfl
  have hlater : (hearingSystem drivingKey 300).RunWhere
      ((Operated drivingSession drivingKey 100).and (QuickRefreshes 100)) (quickRefresh.take 5)
      (⟨1080, 3 / 100, waiting, [none, some ⟨replayID, 1⟩], 0, none⟩,
        ⟨.deaf 0, some 0, some 0⟩) := by
    refine .step hbegin ⟨⟨fun a ha ↦ ?_, fun since hsince ↦ ?_⟩, fun since hsince ↦ ?_⟩
      ⟨.time (by norm_num), rfl⟩
    · obtain rfl : (0 : ℚ) = a := Option.some.inj ha
      norm_num
    · obtain rfl : (0 : ℚ) = since := Ear.deaf.inj hsince
      norm_num
    · obtain rfl : (0 : ℚ) = since := Ear.deaf.inj hsince
      norm_num
  have hreloaded : (hearingSystem drivingKey 300).RunWhere
      ((Operated drivingSession drivingKey 100).and (QuickRefreshes 100)) (quickRefresh.take 6)
      (⟨1080, 3 / 100, reloaded, [none, none], 0, none⟩,
        ⟨.listening false, some 0, some 0⟩) :=
    .step hlater ⟨operated_drivingPayload rfl, trivial⟩
      ⟨.finishRefresh rfl
        (SessionCommandVerifier.finishRefresh_of_loaded loadSession_drivingPayloads.1 _), rfl⟩
  have hagain : (hearingSystem drivingKey 300).RunWhere
      ((Operated drivingSession drivingKey 100).and (QuickRefreshes 100)) (quickRefresh.take 7)
      (⟨1100, 5 / 100, reloaded, [none, none], 0, none⟩,
        ⟨.listening false, some 0, some 0⟩) := by
    refine .step hreloaded ⟨⟨fun a ha ↦ ?_, fun since hsince ↦ by cases hsince⟩,
      fun since hsince ↦ by cases hsince⟩ ⟨.time (by norm_num), rfl⟩
    obtain rfl : (0 : ℚ) = a := Option.some.inj ha
    norm_num
  have hround : (hearingSystem drivingKey 300).RunWhere
      ((Operated drivingSession drivingKey 100).and (QuickRefreshes 100)) (quickRefresh.take 8)
      (⟨1100, 5 / 100, reloaded.watchdogRound 300 (5 / 100), [none, none], 0, some (5 / 100)⟩,
        ⟨.listening false, some 0, some 0⟩) :=
    .step hagain ⟨trivial, trivial⟩ ⟨.watchdog hrunning, rfl⟩
  have hexamine : SessionCommandVerifier.examine { drivingVerifier with lastSequence := 1 }
      drivingSession drivingKey fourthMessage sampleSender 1100 =
        .ok (.passed 4, fourthPacket) := by
    decide +kernel
  have hverifier : (reloaded.watchdogRound 300 (5 / 100)).verifier =
      { drivingVerifier with lastSequence := 1 } :=
    SessionVehicleRuntime.watchdogRound_verifier _ _ _
  have hfourth : FromOperator (reloaded.watchdogRound 300 (5 / 100)).verifier drivingSession
      drivingKey fourthMessage sampleSender 1100 fourthPacket 4 := by
    rw [hverifier]
    exact FromOperator.of_examine hexamine
  have hverify : (reloaded.watchdogRound 300 (5 / 100)).verifier.verifyPacket fourthMessage
      sampleSender 1100 (5 / 100) =
        ({ drivingVerifier with lastSequence := 4, lastValidCmdTime := 5 / 100 },
          .ok (some fourthPacket)) := by
    rw [hverifier]
    exact SessionCommandVerifier.verifyPacket_of_passed rfl rfl hexamine _
  obtain ⟨r', command, hobeys, hstep⟩ := exists_message_step 300
    ⟨1100, 5 / 100, reloaded.watchdogRound 300 (5 / 100), [none, none], 0, some (5 / 100)⟩ hverify
  have hsecond : (hearingSystem drivingKey 300).RunWhere
      ((Operated drivingSession drivingKey 100).and (QuickRefreshes 100)) (quickRefresh.take 9)
      (⟨1100, 5 / 100, r', [none, none], 5 / 100, some (5 / 100)⟩,
        ⟨.listening true, some (5 / 100), some (5 / 100)⟩) := by
    refine .step hround ⟨⟨?_, fun _ ↦ ⟨fourthPacket, 4, hfourth, ?_⟩⟩, trivial⟩ ⟨hstep, ?_⟩
    · intro loaded hloaded
      rw [hverifier] at hloaded
      obtain rfl : drivingSession = loaded := Option.some.inj hloaded
      exact (by decide : (1100 : ℤ) ≤ 5000)
    · refine above_firstHeard (by decide) fun rawMessage senderIdentity verdict hmem ↦ ?_
      simp [quickRefresh, firstHeard] at hmem
      exact hmem.1
    · simp only [Hearing.update, hfourth.signedUnder, if_true]
  have hlast : (hearingSystem drivingKey 300).RunWhere
      ((Operated drivingSession drivingKey 100).and (QuickRefreshes 100)) (quickRefresh.take 10)
      (⟨1150, 10 / 100, r', [none, none], 5 / 100, some (5 / 100)⟩,
        ⟨.listening true, some (5 / 100), some (5 / 100)⟩) := by
    refine .step hsecond ⟨⟨fun a ha ↦ ?_, fun since hsince ↦ by cases hsince⟩,
      fun since hsince ↦ by cases hsince⟩ ⟨.time (by norm_num), rfl⟩
    obtain rfl : (5 / 100 : ℚ) = a := Option.some.inj ha
    norm_num
  have hrunning' : r'.running = true :=
    hobeys.running_eq.trans ((SessionVehicleRuntime.watchdogRound_running _ _ _).trans hrunning)
  have hrun : (hearingSystem drivingKey 300).RunWhere
      ((Operated drivingSession drivingKey 100).and (QuickRefreshes 100)) quickRefresh
      (⟨1150, 10 / 100, r'.watchdogRound 300 (10 / 100), [none, none], 5 / 100,
        some (10 / 100)⟩, ⟨.listening true, some (5 / 100), some (5 / 100)⟩) :=
    .step hlast ⟨trivial, trivial⟩ ⟨.watchdog hrunning', rfl⟩
  exact ⟨_, (no_false_brake_iff drivingSession drivingKey 100 300 _ _).2 100 (by norm_num)
    (by norm_num) (by norm_num) hrun, rfl, rfl⟩

/-- A message that arrives while nothing is loaded. -/
theorem onDatachannelMessage_unloaded [PythonPlatform] [Ed25519] {r : SessionVehicleRuntime}
    (hnone : r.verifier.session = none) (rawMessage senderIdentity : PyStr) (nowMS : ℤ)
    (monotonic : ℚ) :
    ∃ r' result, r.onDatachannelMessage rawMessage senderIdentity nowMS monotonic = (r', result) ∧
      r'.verifier = r.verifier ∧ r'.running = r.running ∧
        r'.brakeController = r.brakeController := by
  generalize hmessage : r.onDatachannelMessage rawMessage senderIdentity nowMS monotonic = handled
  obtain ⟨r', result⟩ := handled
  have hverify := verifyPacket_unloaded hnone rawMessage senderIdentity nowMS monotonic
  rcases SessionVehicleRuntime.onDatachannelMessage_cases hverify hmessage with
    ⟨packet, loaded, k, sequence, command, heq, -⟩ | ⟨-, hverifier, hrunning, -, hbrake⟩
  · cases heq
  · exact ⟨r', result, rfl, hverifier, hrunning, hbrake⟩

/-- The second refresh starts right after the first packet and is still under way when the
second packet comes, 240 milliseconds later. -/
def slowRefresh : List RuntimeLabel :=
  firstHeard ++ [.beginRefresh, .time 1290 (24 / 100),
    .message secondMessage sampleSender (.ok none), .time 1310 (26 / 100), .watchdog,
    .time 1360 (31 / 100)]

/-- From a runtime `r` that has handled the first packet. -/
theorem slowRefresh_run {r : SessionVehicleRuntime}
    (hheard : (@hearingSystem PythonPlatform.ascii Ed25519.driving drivingKey 300).RunWhere
      (@Operated PythonPlatform.ascii Ed25519.driving drivingSession drivingKey 240)
      firstHeard
      (⟨1050, 0, r, [none], 0, none⟩, ⟨.listening true, some 0, some 0⟩))
    (hverifier : r.verifier = { drivingVerifier with lastSequence := 1 })
    (hrunning : r.running = true) (hbrake : r.brakeController.inEmergency = false) :
    ∃ r' flights, (@hearingSystem PythonPlatform.ascii Ed25519.driving drivingKey 300).RunWhere
        (@Operated PythonPlatform.ascii Ed25519.driving drivingSession drivingKey 240)
        slowRefresh
        (⟨1360, 31 / 100, r', flights, 0, some (26 / 100)⟩,
          ⟨.deaf 0, some (24 / 100), some 0⟩) ∧
      r'.verifier.lastValidCmdTime = 0 ∧ r'.running = true ∧
        r'.brakeController.inEmergency = false := by
  let := PythonPlatform.ascii
  let := Ed25519.driving
  obtain ⟨waiting, refresh, hbegin, hcleared, hwaiting, hoff⟩ : ∃ waiting refresh,
      (hearingSystem drivingKey 300).RunWhere (Operated drivingSession drivingKey 240)
        (slowRefresh.take 4)
        (⟨1050, 0, waiting, [none, some refresh], 0, none⟩, ⟨.deaf 0, some 0, some 0⟩) ∧
      waiting.verifier = newVerifier ∧ waiting.running = true ∧
        waiting.brakeController.inEmergency = false := by
    refine ⟨_, _, .step hheard trivial ⟨.beginRefresh rfl, rfl⟩, ?_, hrunning, hbrake⟩
    rw [hverifier]
    rfl
  have hlater : (hearingSystem drivingKey 300).RunWhere (Operated drivingSession drivingKey 240)
      (slowRefresh.take 5)
      (⟨1290, 24 / 100, waiting, [none, some refresh], 0, none⟩,
        ⟨.deaf 0, some 0, some 0⟩) := by
    refine .step hbegin ⟨fun a ha ↦ ?_, fun since hsince ↦ ?_⟩
      ⟨.time (by norm_num), rfl⟩
    · obtain rfl : (0 : ℚ) = a := Option.some.inj ha
      norm_num
    · obtain rfl : (0 : ℚ) = since := Ear.deaf.inj hsince
      norm_num
  have hnone : waiting.verifier.session = none := by
    rw [hcleared]
    rfl
  obtain ⟨ignoring, result, hmessage, hsame, hstill, hkept⟩ :=
    onDatachannelMessage_unloaded hnone secondMessage sampleSender 1290 (24 / 100)
  have hsecond : FromOperator waiting.verifier drivingSession drivingKey secondMessage
      sampleSender 1290 secondPacket 2 := by
    rw [hcleared]
    exact { FromOperator.of_examine examine_drivingMessages.2.1 with }
  have hlost : (hearingSystem drivingKey 300).RunWhere (Operated drivingSession drivingKey 240)
      (slowRefresh.take 6)
      (⟨1290, 24 / 100, ignoring, [none, some refresh], 0, none⟩,
        ⟨.deaf 0, some (24 / 100), some 0⟩) := by
    refine .step hlater ⟨fun loaded hloaded ↦ ?_, fun _ ↦ ⟨_, 2, hsecond,
      above_firstHeard (by decide) fun rawMessage senderIdentity verdict hmem ↦ ?_⟩⟩
      ⟨.message (verifyPacket_unloaded hnone _ _ _ _) hmessage, ?_⟩
    · cases hnone.symm.trans hloaded
    · simp [slowRefresh, firstHeard] at hmem
      exact hmem.1
    · simp only [Hearing.update, hsecond.signedUnder, if_true]
  have hround : (hearingSystem drivingKey 300).RunWhere (Operated drivingSession drivingKey 240)
      (slowRefresh.take 7)
      (⟨1310, 26 / 100, ignoring, [none, some refresh], 0, none⟩,
        ⟨.deaf 0, some (24 / 100), some 0⟩) := by
    refine .step hlost ⟨fun a ha ↦ ?_, fun since hsince ↦ ?_⟩
      ⟨.time (by norm_num), rfl⟩
    · obtain rfl : (24 / 100 : ℚ) = a := Option.some.inj ha
      norm_num
    · obtain rfl : (0 : ℚ) = since := Ear.deaf.inj hsince
      norm_num
  have hlooked : (hearingSystem drivingKey 300).RunWhere (Operated drivingSession drivingKey 240)
      (slowRefresh.take 8)
      (⟨1310, 26 / 100, ignoring.watchdogRound 300 (26 / 100), [none, some refresh], 0,
        some (26 / 100)⟩, ⟨.deaf 0, some (24 / 100), some 0⟩) :=
    .step hround trivial ⟨.watchdog (hstill.trans hwaiting), rfl⟩
  have hlast : ignoring.verifier.lastValidCmdTime = 0 := by
    rw [hsame, hcleared]
    rfl
  have hearly : ignoring.watchdogRound 300 (26 / 100) = ignoring := by
    have hwithin : ¬((26 / 100 : ℚ) - 0) * 1000 > 300 := by norm_num
    simp only [SessionVehicleRuntime.watchdogRound, hlast, if_neg hwithin]
  rw [hearly] at hlooked
  refine ⟨ignoring, [none, some refresh], .step hlooked ⟨fun a ha ↦ ?_, fun since hsince ↦ ?_⟩
    ⟨.time (by norm_num), rfl⟩, hlast, hstill.trans hwaiting, ?_⟩
  · obtain rfl : (24 / 100 : ℚ) = a := Option.some.inj ha
    norm_num
  · obtain rfl : (0 : ℚ) = since := Ear.deaf.inj hsince
    norm_num
  · rw [hkept]
    exact hoff

theorem slow_refresh_brakes :
    ∃ p, (@hearingSystem PythonPlatform.ascii Ed25519.driving drivingKey 300).RunWhere
        (@Operated PythonPlatform.ascii Ed25519.driving drivingSession drivingKey 240)
        slowRefresh p ∧
      (240 : ℚ) + 50 < 300 ∧ p.1.lastRound = some (26 / 100) ∧
        (p.1.monotonic - 26 / 100) * 1000 = 50 ∧ p.1.runtime.running = true ∧
        p.1.inEmergency = false ∧ ¬NoFalseBrake 300 slowRefresh p .watchdog := by
  let := PythonPlatform.ascii
  let := Ed25519.driving
  obtain ⟨r, hverifier, hrunning, hbrake, hheard⟩ := firstHeard_run 240 240 300
  obtain ⟨r', flights, hrun, hlast, hrunning, hbrake⟩ :=
    slowRefresh_run hheard.left hverifier hrunning hbrake
  refine ⟨_, hrun, by norm_num, rfl, by norm_num, hrunning, hbrake, fun hquiet ↦ ?_⟩
  have haccepted : SomeAccepted slowRefresh :=
    ⟨firstMessage, sampleSender, firstPacket, by simp [slowRefresh, firstHeard]⟩
  have hoff := hquiet haccepted
  rw [SessionVehicleRuntime.watchdogRound_inEmergency, hlast] at hoff
  norm_num at hoff

end Alarm

end RemoteInfra.Vehicle
