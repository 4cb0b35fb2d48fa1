import RemoteInfra.Library.TransitionSystem
import RemoteInfra.Vehicle.CommandVerifier

/-!
# Runs of the stage-1 command verifier

Keys are loaded, by hand or by a refresh, and packets arrive while time passes.  A load that
fails leaves the new registration beside the key of the old one; the expiry of a registration
is never looked at; and every load starts the sequence numbers over.
-/

namespace RemoteInfra.Vehicle

open RemoteInfra.Library RemoteInfra.Python

/-- A packet that was accepted, with the registration that was held then. -/
structure AcceptedPacket where
  registration : Option OperatorKeyRegistration
  payload : PyValue
  acceptedAtMS : ℤ

structure KeyedState where
  nowMS : ℤ
  verifier : CommandVerifier
  accepted : List AcceptedPacket

inductive KeyedLabel
  | tick (nowMS : ℤ)
  | load (reg : OperatorKeyRegistration) (result : Except PyExc Unit)
  | refresh (outcome : CommandVerifier.RefreshOutcome) (result : Except PyExc Unit)
  | packet (rawMessage : PyStr) (monotonic : ℚ) (result : Except PyExc (Option PyValue))

namespace KeyedState

/-- The entry for what `verify_packet` returned. -/
def acceptedNow (st : KeyedState) : Except PyExc (Option PyValue) → List AcceptedPacket
  | .ok (some payload) => [⟨st.verifier.currentKey, payload, st.nowMS⟩]
  | _ => []

inductive Step [PythonPlatform] [Ed25519] : KeyedState → KeyedLabel → KeyedState → Prop
  /-- the wall clock may be set back -/
  | tick {st : KeyedState} {nowMS : ℤ} : Step st (.tick nowMS) { st with nowMS := nowMS }
  | load {st : KeyedState} {reg : OperatorKeyRegistration} {v : CommandVerifier}
      {result : Except PyExc Unit} : st.verifier.loadRegistration reg = (v, result) →
        Step st (.load reg result) { st with verifier := v }
  | refresh {st : KeyedState} {outcome : CommandVerifier.RefreshOutcome} {v : CommandVerifier}
      {result : Except PyExc Unit} : st.verifier.refreshKey outcome = (v, result) →
        Step st (.refresh outcome result) { st with verifier := v }
  | packet {st : KeyedState} {rawMessage : PyStr} {monotonic : ℚ} {v : CommandVerifier}
      {result : Except PyExc (Option PyValue)} :
      st.verifier.verifyPacket rawMessage st.nowMS monotonic = (v, result) →
        Step st (.packet rawMessage monotonic result)
          { st with verifier := v, accepted := st.accepted ++ st.acceptedNow result }

end KeyedState

/-- A verifier of some vehicle, as constructed. -/
def keyedSystem [PythonPlatform] [Ed25519] : TransitionSystem KeyedState KeyedLabel where
  Init st := (∃ vehicleID maxSkewMS monotonic,
    st.verifier = CommandVerifier.new vehicleID maxSkewMS monotonic) ∧ st.accepted = []
  Step := KeyedState.Step

/-! ## Soundness -/

/-- The packet was signed under the public key of the registration that was held, and at a time
not after its expiry. -/
def AcceptedPacket.Sound [PythonPlatform] [Ed25519] (a : AcceptedPacket) : Prop :=
  ∃ reg key, a.registration = some reg ∧ CommandVerifier.publicKey reg = .ok key ∧
    CommandVerifier.SignedUnder key a.payload ∧ a.acceptedAtMS ≤ reg.expiresAtMS

/-- The packets have the same key id and the same `int(seq)`. -/
def AcceptedPacket.Repeats [PythonPlatform] (a b : AcceptedPacket) : Prop :=
  (∃ x y, a.payload.getItem "key_id" = .ok x ∧ b.payload.getItem "key_id" = .ok y ∧
      x.eq y = true) ∧
    ∃ seq, (a.payload.getItem "seq" >>= pyInt) = .ok seq ∧
      (b.payload.getItem "seq" >>= pyInt) = .ok seq

structure SoundlyAccepted [PythonPlatform] [Ed25519] (accepted : List AcceptedPacket) : Prop where
  sound : ∀ a ∈ accepted, a.Sound
  once : accepted.Pairwise fun a b ↦ ¬a.Repeats b

/-- Some packet with the key id has been accepted. -/
def AcceptedUnder (keyID : PyValue) (accepted : List AcceptedPacket) : Prop :=
  ∃ a ∈ accepted, ∃ x, a.payload.getItem "key_id" = .ok x ∧ x.eq keyID = true

/-- The registration, if its key is good, starts the sequence numbers of a new key id. -/
def StartsAfresh (st : KeyedState) (reg : OperatorKeyRegistration) : Prop :=
  ∀ key, CommandVerifier.publicKey reg = .ok key → ¬AcceptedUnder reg.keyID st.accepted

/-- Asked of every step: a packet that passes the checks before the signature, and whose signature
the key in use verifies, comes while the registration held has a good key and has not expired;
and no key is loaded once a packet has been accepted under its id. -/
def KeysInOrder [PythonPlatform] [Ed25519] :
    TransitionSystem.StepCondition KeyedState KeyedLabel
  | _, st, .load reg _ => StartsAfresh st reg
  | _, st, .refresh (.answered 200 data) _ =>
      ∀ reg, CommandVerifier.readRegistration data = .ok reg → StartsAfresh st reg
  | _, st, .packet rawMessage _ _ => ∀ reg inUse payload seq, st.verifier.currentKey = some reg →
      st.verifier.verifyKey = some inUse → loads rawMessage = .ok payload →
        st.verifier.Passes reg payload st.nowMS seq → CommandVerifier.SignedUnder inUse payload →
          (∃ key, CommandVerifier.publicKey reg = .ok key) ∧ st.nowMS ≤ reg.expiresAtMS
  | _, _, _ => True

/-- What a run with its keys in order maintains. -/
structure KeysGuarded [PythonPlatform] [Ed25519] (st : KeyedState) : Prop where
  accepted : SoundlyAccepted st.accepted
  /-- the key in use is that of the registration held, if that one has any -/
  verifyKey : ∀ reg key, st.verifier.currentKey = some reg →
    CommandVerifier.publicKey reg = .ok key → st.verifier.verifyKey = some key
  /-- the last sequence covers what was accepted under its key id -/
  lastSeq : ∀ reg key, st.verifier.currentKey = some reg →
    CommandVerifier.publicKey reg = .ok key →
      ∀ a ∈ st.accepted, ∀ x, a.payload.getItem "key_id" = .ok x → x.eq reg.keyID = true →
        ∀ seq, (a.payload.getItem "seq" >>= pyInt) = .ok seq → seq ≤ st.verifier.lastSeq

section Runs

variable [PythonPlatform] [Ed25519] {st : KeyedState} {v : CommandVerifier}

theorem KeysGuarded.load (h : KeysGuarded st) {reg : OperatorKeyRegistration}
    {result : Except PyExc Unit} (hfresh : StartsAfresh st reg)
    (hload : st.verifier.loadRegistration reg = (v, result)) :
    KeysGuarded { st with verifier := v } := by
  unfold CommandVerifier.loadRegistration at hload
  dsimp only at hload
  split at hload
  · rename_i e hbad
    obtain ⟨rfl, -⟩ := Prod.mk.inj hload
    have hnone : ∀ other key, some reg = some other →
        CommandVerifier.publicKey other ≠ .ok key := by
      rintro other key ⟨⟩ hgood
      cases hbad.symm.trans hgood
    exact ⟨h.accepted, fun other key hheld hgood ↦ absurd hgood (hnone other key hheld),
      fun other key hheld hgood ↦ absurd hgood (hnone other key hheld)⟩
  · rename_i key hgood
    obtain ⟨rfl, -⟩ := Prod.mk.inj hload
    refine ⟨h.accepted, ?_, ?_⟩
    · rintro other key' ⟨⟩ hgood'
      exact congrArg some (Except.ok.inj (hgood.symm.trans hgood'))
    · rintro other key' ⟨⟩ - a ha x hx heq
      exact absurd ⟨a, ha, x, hx, heq⟩ (hfresh key hgood)

/-- The packet is the first with its key id and `int(seq)`. -/
theorem KeysGuarded.packet (h : KeysGuarded st) {rawMessage : PyStr} {monotonic : ℚ}
    {payload : PyValue} {reg : OperatorKeyRegistration} {key : VerifyKey} {seq : ℤ}
    (haccepts : st.verifier.Accepts rawMessage st.nowMS monotonic payload reg key seq v)
    (hgood : ∃ key, CommandVerifier.publicKey reg = .ok key)
    (hearly : st.nowMS ≤ reg.expiresAtMS) :
    KeysGuarded { st with
      verifier := v
      accepted := st.accepted ++ [⟨st.verifier.currentKey, payload, st.nowMS⟩] } := by
  obtain ⟨key', hgood⟩ := hgood
  have hheld := haccepts.currentKey_eq
  obtain rfl : key = key' := Option.some.inj
    (haccepts.verifyKey_eq.symm.trans (h.verifyKey reg key' hheld hgood))
  obtain ⟨keyID, hkeyID, heq⟩ := haccepts.passes.keyID
  obtain ⟨x, hx, hseq, hlast⟩ := haccepts.passes.seq
  have hseq' : (payload.getItem "seq" >>= pyInt) = .ok seq := by rw [hx, ok_bind, hseq]
  obtain rfl := haccepts.state_eq
  refine ⟨⟨fun a ha ↦ ?_, ?_⟩, h.verifyKey, ?_⟩
  · rcases List.mem_append.mp ha with hold | hnew
    · exact h.accepted.sound a hold
    · obtain rfl := List.mem_singleton.mp hnew
      exact ⟨reg, key, hheld, hgood, haccepts.signed, hearly⟩
  · refine List.pairwise_append.mpr ⟨h.accepted.once, List.pairwise_singleton _ _, ?_⟩
    rintro a ha b hb ⟨⟨y, z, hy, hz, hsame⟩, n, hn, hn'⟩
    obtain rfl := List.mem_singleton.mp hb
    obtain rfl := Except.ok.inj (hkeyID.symm.trans hz)
    obtain rfl := Except.ok.inj (hseq'.symm.trans hn')
    have hcovered := h.lastSeq reg key hheld hgood a ha y hy (PyValue.eq_trans hsame heq) seq hn
    omega
  · intro other key' hheld' hgood' a ha y hy hsame n hn
    dsimp only at hheld' ⊢
    rcases List.mem_append.mp ha with hold | hnew
    · exact (h.lastSeq other key' hheld' hgood' a hold y hy hsame n hn).trans hlast.le
    · obtain rfl := List.mem_singleton.mp hnew
      exact (Except.ok.inj (hseq'.symm.trans hn)).ge

theorem KeysGuarded.step (h : KeysGuarded st) {ls : List KeyedLabel} {l : KeyedLabel}
    {st' : KeyedState} (hcond : KeysInOrder ls st l) (hstep : KeyedState.Step st l st') :
    KeysGuarded st' := by
  cases hstep with
  | tick => exact ⟨h.accepted, h.verifyKey, h.lastSeq⟩
  | load hload => exact h.load hcond hload
  | refresh hrefresh =>
      rcases CommandVerifier.refreshKey_cases hrefresh with rfl | ⟨data, reg, rfl, hreg, hload⟩
      · exact h
      · exact h.load (hcond reg hreg) hload
  | packet hverify =>
      rcases CommandVerifier.verifyPacket_cases hverify with
        ⟨payload, reg, key, seq, rfl, haccepts⟩ | ⟨hrejected, rfl⟩
      · obtain ⟨hgood, hearly⟩ := hcond reg key payload seq haccepts.currentKey_eq
          haccepts.verifyKey_eq haccepts.loads_eq haccepts.passes haccepts.signed
        exact h.packet haccepts hgood hearly
      · rename_i result
        have hnone : st.acceptedNow result = [] := by
          unfold KeyedState.acceptedNow
          split
          · exact absurd rfl (hrejected _)
          · rfl
        rw [hnone, List.append_nil]
        exact h

end Runs

/-- As long as every packet that passes the checks and is signed under the key in use meets a good,
unexpired registration, and no key id is loaded again after a packet was accepted under it, every
accepted packet was signed under the key of the registration held, before its expiry, and none is
accepted twice. -/
theorem accepted_soundly [PythonPlatform] [Ed25519] {ls : List KeyedLabel} {st : KeyedState}
    (hrun : keyedSystem.RunWhere KeysInOrder ls st) : SoundlyAccepted st.accepted := by
  have hguarded : KeysGuarded st := by
    refine hrun.invariant (P := fun _ st ↦ KeysGuarded st) ?_ ?_
    · rintro st ⟨⟨vehicleID, maxSkewMS, monotonic, hnew⟩, hnone⟩
      have hkey : st.verifier.currentKey = none := by
        rw [hnew]
        rfl
      refine ⟨⟨?_, ?_⟩, fun reg key hheld ↦ ?_, fun reg key hheld ↦ ?_⟩
      · simp [hnone]
      · simp [hnone]
      · cases hkey.symm.trans hheld
      · cases hkey.symm.trans hheld
    · intro ls st l st' _ h hcond hstep
      exact h.step hcond hstep
  exact hguarded.accepted

/-! ## A registration that is loaded twice -/

section Sample

def operatorKeyB64 : PyStr := PyStr.ofString "vaiSFBboZzRWNnIuiD5v0XEGVENwpyULgZKpxbleNT4="

def steerSignatureB64 : PyStr := PyStr.ofString
  "duwwB/frJBujfDT/cgeXO4AAjZNRgoy6YcuL7csmpod0U6lTB2udsZrFk6scPo6LOfU5UhWdXfAVqudpWeYDBg=="

def operatorKey : VerifyKey where
  bytes := (Base64.decode "vaiSFBboZzRWNnIuiD5v0XEGVENwpyULgZKpxbleNT4=".toList).getD []
  length_eq := by decide

def laterSignatureB64 : PyStr := PyStr.ofString
  "aNKBJVNhExADYxrbsw5oxm+9p6JOIaMQOhd/GiMr65Dt7sfLCj2+arf4ViRg83Xo7HXO+Bdf+20TKmO/E8vaBg=="

/-- Ed25519 as far as the two signatures go. -/
@[reducible] def Ed25519.steering : Ed25519 where
  verify key message signature :=
    key.bytes = operatorKey.bytes &&
      (message = "car-001|kid-2|steer|20|5|1000".toList &&
          CommandVerifier.b64decode (.str steerSignatureB64) = .ok signature ||
        message = "car-001|kid-2|steer|20|6|1010".toList &&
          CommandVerifier.b64decode (.str laterSignatureB64) = .ok signature)

def steerRegistration : OperatorKeyRegistration where
  vehicleID := .str (PyStr.ofString "car-001")
  operatorID := .str (PyStr.ofString "driver-105")
  keyID := .str (PyStr.ofString "kid-2")
  publicKeyB64 := .str operatorKeyB64
  expiresAtMS := 1060
  registeredAtMS := 0

def signedSteer (seq ts : ℤ) (signatureB64 : PyStr) : PyValue :=
  .dict
    [(PyStr.ofString "vehicle_id", .str (PyStr.ofString "car-001")),
      (PyStr.ofString "key_id", .str (PyStr.ofString "kid-2")),
      (PyStr.ofString "cmd", .str (PyStr.ofString "steer")),
      (PyStr.ofString "val", .int 20),
      (PyStr.ofString "seq", .int seq),
      (PyStr.ofString "ts", .int ts),
      (PyStr.ofString "sig", .str signatureB64),
      (PyStr.ofString "alg", .str (PyStr.ofString "Ed25519"))]

def steerPayload : PyValue := signedSteer 5 1000 steerSignatureB64

def laterPayload : PyValue := signedSteer 6 1010 laterSignatureB64

def steerText (seqAndTs : String) (signatureB64 : PyStr) : PyStr :=
  PyStr.ofString "\x7b\"vehicle_id\":\"car-001\",\"key_id\":\"kid-2\",\"cmd\":\"steer\"," ++
    (PyStr.ofString "\"val\":20," ++ (PyStr.ofString seqAndTs ++ (PyStr.ofString ",\"sig\":\"" ++
      (signatureB64 ++ PyStr.ofString "\",\"alg\":\"Ed25519\"\x7d"))))

def steerMessage : PyStr := steerText "\"seq\":5,\"ts\":1000" steerSignatureB64

def laterMessage : PyStr := steerText "\"seq\":6,\"ts\":1010" laterSignatureB64

/-- Nothing is loaded yet. -/
def keylessVerifier : CommandVerifier := .new (PyStr.ofString "car-001") 100 0

/-- The registration is loaded, and `lastSeq` accepted last. -/
def steerVerifier (lastSeq : ℤ) : CommandVerifier :=
  { keylessVerifier with
    currentKey := some steerRegistration
    verifyKey := some operatorKey
    lastSeq := lastSeq }

theorem loadRegistration_steer (v : CommandVerifier)
    (hv : v = keylessVerifier ∨ v = steerVerifier 5) :
    v.loadRegistration steerRegistration = (steerVerifier 0, .ok ()) := by
  rcases hv with rfl | rfl <;> decide +kernel

theorem verifyPacket_steer (nowMS : ℤ) (hnow : nowMS = 1050 ∨ nowMS = 1090) :
    @CommandVerifier.verifyPacket PythonPlatform.ascii Ed25519.steering (steerVerifier 0)
      steerMessage nowMS 0 = (steerVerifier 5, .ok (some steerPayload)) := by
  rcases hnow with rfl | rfl <;> decide +kernel

/-- The same packet once more, and the next one. -/
theorem verifyPacket_later :
    @CommandVerifier.verifyPacket PythonPlatform.ascii Ed25519.steering (steerVerifier 5)
        steerMessage 1050 0 = (steerVerifier 5, .ok none) ∧
      @CommandVerifier.verifyPacket PythonPlatform.ascii Ed25519.steering (steerVerifier 5)
        laterMessage 1055 0 = (steerVerifier 6, .ok (some laterPayload)) := by
  constructor <;> decide +kernel

def steerAccepted (atMS : ℤ) : AcceptedPacket := ⟨some steerRegistration, steerPayload, atMS⟩

def laterAccepted (atMS : ℤ) : AcceptedPacket := ⟨some steerRegistration, laterPayload, atMS⟩

theorem keysInOrder_steer {ls : List KeyedLabel} {st : KeyedState}
    (hheld : st.verifier.currentKey = some steerRegistration) (hearly : st.nowMS ≤ 1060)
    (rawMessage : PyStr) (result : Except PyExc (Option PyValue)) :
    @KeysInOrder PythonPlatform.ascii Ed25519.steering ls st (.packet rawMessage 0 result) := by
  intro reg inUse payload seq hreg _ _ _ _
  obtain rfl := Option.some.inj (hheld.symm.trans hreg)
  have hgood : CommandVerifier.publicKey steerRegistration = .ok operatorKey := by decide +kernel
  exact ⟨⟨operatorKey, hgood⟩, hearly⟩

theorem steer_run :
    (@keyedSystem PythonPlatform.ascii Ed25519.steering).RunWhere
      (@KeysInOrder PythonPlatform.ascii Ed25519.steering)
      [.load steerRegistration (.ok ()), .packet steerMessage 0 (.ok (some steerPayload))]
      ⟨1050, steerVerifier 5, [steerAccepted 1050]⟩ := by
  let := PythonPlatform.ascii
  let := Ed25519.steering
  have hinit : keyedSystem.RunWhere KeysInOrder [] ⟨1050, keylessVerifier, []⟩ :=
    .init ⟨⟨_, _, _, rfl⟩, rfl⟩
  have hfresh : StartsAfresh ⟨1050, keylessVerifier, []⟩ steerRegistration := by
    rintro key - ⟨a, ha, -⟩
    cases ha
  have hloaded : keyedSystem.RunWhere KeysInOrder [.load steerRegistration (.ok ())]
      ⟨1050, steerVerifier 0, []⟩ :=
    .step hinit hfresh (.load (loadRegistration_steer _ (.inl rfl)))
  exact .step hloaded (keysInOrder_steer rfl (by decide) _ _)
    (.packet (verifyPacket_steer 1050 (.inl rfl)))

/-- The packet is sent once more, and rejected, before the next one is accepted. -/
theorem accepted_soundly_steer :
    (@keyedSystem PythonPlatform.ascii Ed25519.steering).RunWhere
        (@KeysInOrder PythonPlatform.ascii Ed25519.steering)
        [.load steerRegistration (.ok ()), .packet steerMessage 0 (.ok (some steerPayload)),
          .packet steerMessage 0 (.ok none), .tick 1055,
          .packet laterMessage 0 (.ok (some laterPayload))]
        ⟨1055, steerVerifier 6, [steerAccepted 1050, laterAccepted 1055]⟩ ∧
      @SoundlyAccepted PythonPlatform.ascii Ed25519.steering
        [steerAccepted 1050, laterAccepted 1055] := by
  let := PythonPlatform.ascii
  let := Ed25519.steering
  have hagain : keyedSystem.RunWhere KeysInOrder
      [.load steerRegistration (.ok ()), .packet steerMessage 0 (.ok (some steerPayload)),
        .packet steerMessage 0 (.ok none)] ⟨1050, steerVerifier 5, [steerAccepted 1050]⟩ :=
    .step steer_run (keysInOrder_steer rfl (by decide) _ _) (.packet verifyPacket_later.1)
  have htick : keyedSystem.RunWhere KeysInOrder
      [.load steerRegistration (.ok ()), .packet steerMessage 0 (.ok (some steerPayload)),
        .packet steerMessage 0 (.ok none), .tick 1055]
      ⟨1055, steerVerifier 5, [steerAccepted 1050]⟩ :=
    .step hagain trivial .tick
  have hrun := htick.step (keysInOrder_steer rfl (by decide) _ _) (.packet verifyPacket_later.2)
  exact ⟨hrun, accepted_soundly hrun⟩

/-- The registration expires, is loaded again, and the same packet is accepted again. -/
theorem steer_accepted_again :
    (@keyedSystem PythonPlatform.ascii Ed25519.steering).Run
        [.load steerRegistration (.ok ()), .packet steerMessage 0 (.ok (some steerPayload)),
          .tick 1090, .load steerRegistration (.ok ()),
          .packet steerMessage 0 (.ok (some steerPayload))]
        ⟨1090, steerVerifier 5, [steerAccepted 1050, steerAccepted 1090]⟩ ∧
      ¬@SoundlyAccepted PythonPlatform.ascii Ed25519.steering
        [steerAccepted 1050, steerAccepted 1090] := by
  let := PythonPlatform.ascii
  let := Ed25519.steering
  refine ⟨?_, fun h ↦ ?_⟩
  · have htick : keyedSystem.Run
        [.load steerRegistration (.ok ()), .packet steerMessage 0 (.ok (some steerPayload)),
          .tick 1090] ⟨1090, steerVerifier 5, [steerAccepted 1050]⟩ :=
      .step steer_run.toRun trivial .tick
    have hreload : keyedSystem.Run
        [.load steerRegistration (.ok ()), .packet steerMessage 0 (.ok (some steerPayload)),
          .tick 1090, .load steerRegistration (.ok ())]
        ⟨1090, steerVerifier 0, [steerAccepted 1050]⟩ :=
      .step htick trivial (.load (loadRegistration_steer _ (.inr rfl)))
    exact .step hreload trivial (.packet (verifyPacket_steer 1090 (.inr rfl)))
  · obtain ⟨reg, key, hheld, -, -, hearly⟩ := h.sound (steerAccepted 1090) (by simp)
    obtain rfl := Option.some.inj hheld
    exact absurd hearly (by decide)

end Sample

end RemoteInfra.Vehicle
