import RemoteInfra.EndToEnd.Provenance

/-!
# Public keys on both sides

The gateway admits a public key that Go's decoder turns into 32 bytes, and Go passes over line
breaks.  Python, asked to validate, refuses them: a session whose key was sent with a line break
holds its lease and never loads.
-/

namespace RemoteInfra.EndToEnd

open RemoteInfra.Library RemoteInfra.Python RemoteInfra.Gateway RemoteInfra.Vehicle

/-- No character that Go passes over. -/
def NoLineBreak (s : GoString) : Prop := GoUnit.rune '\r' ∉ s ∧ GoUnit.rune '\n' ∉ s

theorem exists_of_mapM {α β : Type} {f : α → Option β} {s : List α} {t : List β}
    (h : s.mapM f = some t) : ∀ u ∈ s, ∃ v, f u = some v := by
  induction s generalizing t with
  | nil => simp
  | cons u s ih =>
      rw [List.mapM_cons] at h
      obtain ⟨v, hv, h⟩ := Option.bind_eq_some_iff.mp h
      obtain ⟨t', ht, -⟩ := Option.bind_eq_some_iff.mp h
      intro w hw
      rcases List.mem_cons.mp hw with rfl | hw
      · exact ⟨v, hv⟩
      · exact ih ht w hw

/-- A text that Go decodes is one of runes, the line breaks included. -/
theorem validUTF8_of_decodeBase64 {s : GoString} {bytes : List UInt8}
    (h : s.decodeBase64 = some bytes) : s.ValidUTF8 := by
  obtain ⟨characters, hcharacters, -⟩ := Option.bind_eq_some_iff.mp h
  intro u hu
  cases u with
  | rune c => exact ⟨c, rfl⟩
  | stray b =>
      have hkept : GoUnit.stray b ∈
          s.filter fun u ↦ decide (u ≠ GoUnit.rune '\r' ∧ u ≠ GoUnit.rune '\n') :=
        List.mem_filter.mpr ⟨hu, by simp⟩
      obtain ⟨c, hc⟩ := exists_of_mapM hcharacters _ hkept
      cases hc

/-- Without line breaks both decoders see the same characters. -/
theorem decode_characters {s : GoString} {bytes : List UInt8} (h : s.decodeBase64 = some bytes)
    (hbreak : NoLineBreak s) : Base64.decode (characters s) = some bytes := by
  have hvalid := validUTF8_of_decodeBase64 h
  have hkept : (s.filter fun u ↦ decide (u ≠ GoUnit.rune '\r' ∧ u ≠ GoUnit.rune '\n')) = s := by
    refine List.filter_eq_self.mpr fun u hu ↦ ?_
    have hr : u ≠ .rune '\r' := ne_of_mem_of_not_mem hu hbreak.1
    have hn : u ≠ .rune '\n' := ne_of_mem_of_not_mem hu hbreak.2
    simp [hr, hn]
  unfold GoString.decodeBase64 at h
  simp only [hkept] at h
  have hread : ∀ f : GoUnit → Option Char, (∀ c, f (.rune c) = some c) →
      s.mapM f = some (characters s) := by
    intro f hf
    refine mapM_eq_some_map fun u hu ↦ ?_
    obtain ⟨c, rfl⟩ := hvalid u hu
    exact hf c
  rw [hread _ fun _ ↦ rfl] at h
  exact h

/-- A line break stays in the text that Python refuses. -/
theorem noLineBreak_of_decode {s : GoString} {bytes : List UInt8}
    (h : Base64.decode (characters s) = some bytes) : NoLineBreak s := by
  constructor
  · intro hmem
    exact Base64.not_mem_of_decode h (by decide) (by decide)
      (List.mem_map.mpr ⟨.rune '\r', hmem, rfl⟩)
  · intro hmem
    exact Base64.not_mem_of_decode h (by decide) (by decide)
      (List.mem_map.mpr ⟨.rune '\n', hmem, rfl⟩)

/-- The refresh decodes the key to what the gateway decoded it to, and installs the session. -/
def InstallsKey [PythonPlatform] (v : SessionCommandVerifier)
    (refresh : SessionCommandVerifier.Refresh) (payload : PyValue) (publicKeyB64 : GoString) :
    Prop :=
  ∃ session key, v.finishRefresh refresh (.answered 200 payload) =
      (v.install refresh session key, .ok ()) ∧
    publicKeyB64.decodeBase64 = some key.bytes

/-- The answer that carries an acquired session to the vehicle, however often it was renewed. -/
def acquiredAnswer (g : GatewayConfig) (r : AcquireControlRequest)
    (publicKeyB64 sessionID : GoString) (acquiredAt expiresAtMS : ℤ) (token : GoString)
    (renewAfterMS : ℤ) : PyValue :=
  controlSessionResponse
    { (r.session g publicKeyB64 sessionID acquiredAt).marshal.session with
      expiresAtMS := expiresAtMS } token renewAfterMS


/-- What the vehicle makes of the answer is up to the key alone. -/
theorem loadSession_acquiredAnswer [PythonPlatform] {g : GatewayConfig}
    {r : AcquireControlRequest} {vehicleID : PyStr} (hvehicle : vehicleID = toPy r.vehicleID)
    (publicKeyB64 sessionID : GoString) (acquiredAt expiresAtMS : ℤ) (token : GoString)
    (renewAfterMS : ℤ) : ∃ session, session.publicKeyB64 = .str (toPy publicKeyB64) ∧
      SessionCommandVerifier.loadSession vehicleID (acquiredAnswer g r publicKeyB64 sessionID
        acquiredAt expiresAtMS token renewAfterMS) =
        (SessionCommandVerifier.sessionKey session).map fun key ↦ (session, key) := by
  set s : ControlSession :=
    { (r.session g publicKeyB64 sessionID acquiredAt).marshal.session with
      expiresAtMS := expiresAtMS } with hs
  have hread : SessionCommandVerifier.readSession (acquiredAnswer g r publicKeyB64 sessionID
      acquiredAt expiresAtMS token renewAfterMS) = .ok (activeSession s) :=
    readSession_controlSessionResponse s token renewAfterMS
  have hid : (activeSession s).vehicleID.eq (.str vehicleID) = true := by
    rw [PyValue.eq_str_iff, hvehicle]
    exact congrArg PyValue.str (toPy_throughJSON r.vehicleID)
  have hstatus : (activeSession s).status.eq SessionCommandVerifier.ACTIVE = true :=
    PyValue.eq_str_iff.mpr rfl
  refine ⟨activeSession s, congrArg PyValue.str (toPy_throughJSON publicKeyB64), ?_⟩
  rw [SessionCommandVerifier.loadSession, hread, ok_bind, hid, hstatus]
  cases SessionCommandVerifier.sessionKey (activeSession s) <;> rfl

/-- A key is made of a text exactly when Python decodes it to 32 bytes. -/
theorem sessionKey_eq_ok {session : ActiveControlSession} {text : GoString}
    (htext : session.publicKeyB64 = .str (toPy text)) {key : VerifyKey} :
    SessionCommandVerifier.sessionKey session = .ok key ↔
      Base64.decode (characters text) = some key.bytes := by
  have hkey : SessionCommandVerifier.sessionKey session = .ok key ↔
      b64decode (.str (toPy text)) >>= newVerifyKey = .ok key := by
    rw [SessionCommandVerifier.sessionKey, htext]
    split
    · rename_i h
      simp [h]
    · rename_i h
      simp [h]
    · rfl
  rw [hkey, bind_eq_ok]
  constructor
  · rintro ⟨bytes, hbytes, hnew⟩
    unfold newVerifyKey at hnew
    split_ifs at hnew with hlength
    obtain rfl := Except.ok.inj hnew
    exact decode_of_b64decode hbytes (by simp [hlength])
  · intro h
    refine ⟨key.bytes, b64decode_toPy.mpr (Base64.decodeStrictly_of_decode h), ?_⟩
    rw [newVerifyKey, dif_pos key.length_eq]

/-- A session whose admitted key came without a line break is installed with that key; any
other one is refused. -/
theorem public_key_installs_iff [PythonPlatform] {g : GatewayConfig} {r : AcquireControlRequest}
    {publicKeyB64 : GoString} (hcheck : r.check g = .ok publicKeyB64)
    {v : SessionCommandVerifier} (hvehicle : v.vehicleID = toPy r.vehicleID)
    (refresh : SessionCommandVerifier.Refresh) (sessionID : GoString)
    (acquiredAt expiresAtMS : ℤ) (token : GoString) (renewAfterMS : ℤ) :
    InstallsKey v refresh (acquiredAnswer g r publicKeyB64 sessionID acquiredAt expiresAtMS token
        renewAfterMS) publicKeyB64 ↔
      NoLineBreak publicKeyB64 := by
  obtain ⟨session, htext, hload⟩ := loadSession_acquiredAnswer (g := g) hvehicle publicKeyB64
    sessionID acquiredAt expiresAtMS token renewAfterMS
  constructor
  · rintro ⟨installed, key, hfinish, -⟩
    simp only [SessionCommandVerifier.finishRefresh, hload] at hfinish
    cases hkey : SessionCommandVerifier.sessionKey session with
    | error e =>
        rw [hkey] at hfinish
        cases (Prod.mk.inj hfinish).2
    | ok own => exact noLineBreak_of_decode ((sessionKey_eq_ok htext).mp hkey)
  · intro hbreak
    have haccepted := (AcquireControlRequest.admitted_of_check hcheck).isEd25519PublicKey_eq
    unfold isEd25519PublicKey at haccepted
    split at haccepted
    · rename_i bytes hbytes
      have hkey : SessionCommandVerifier.sessionKey session =
          .ok ⟨bytes, of_decide_eq_true haccepted⟩ :=
        (sessionKey_eq_ok htext).mpr (decode_characters hbytes hbreak)
      refine ⟨session, ⟨bytes, of_decide_eq_true haccepted⟩, ?_, hbytes⟩
      simp only [SessionCommandVerifier.finishRefresh, hload, hkey]
      rfl
    · cases haccepted

/-! ## Alice's key, with and without a line break -/

def brokenPublicKeyB64 : GoString :=
  GoString.ofString "f4etwOvULernnH43Zwo82wV28lfC\nUiGx561BoLsh978="

def brokenKeyRequest : AcquireControlRequest :=
  { aliceRequest with publicKeyB64 := some brokenPublicKeyB64 }

theorem check_brokenKeyRequest : brokenKeyRequest.check sampleGateway = .ok brokenPublicKeyB64 := by
  have hkey : isEd25519PublicKey brokenPublicKeyB64 = true := by decide +kernel
  have hcontrol : canControl brokenKeyRequest.claims = true := by decide +kernel
  have hacl : sampleGateway.vehicleAuthorizer.authorize brokenKeyRequest.claims
      brokenKeyRequest.vehicleID .control = true := by decide +kernel
  have hvehicle : brokenKeyRequest.vehicleID ≠ [] := by decide +kernel
  have hbody : brokenKeyRequest.publicKeyB64 = some brokenPublicKeyB64 := rfl
  have hmethod : brokenKeyRequest.method = .post := rfl
  simp [AcquireControlRequest.check, hmethod, hcontrol, hvehicle, hacl, hbody, hkey]

/-- Alice's key as her console sends it. -/
theorem public_key_installs_alice :
    @InstallsKey PythonPlatform.ascii newVerifier ⟨.none, 0⟩
      (acquiredAnswer sampleGateway aliceRequest leasedSession.publicKeyB64
        (GoString.ofString "s-1") 0 5000 (GoString.ofString "token") 1666)
      leasedSession.publicKeyB64 := by
  let := PythonPlatform.ascii
  have hbreak : NoLineBreak leasedSession.publicKeyB64 := by
    constructor <;> decide +kernel
  exact (public_key_installs_iff check_aliceRequest (v := newVerifier) rfl ⟨.none, 0⟩
    (GoString.ofString "s-1") 0 5000 (GoString.ofString "token") 1666).mpr hbreak

/-- The same key with one line break in it: the gateway decodes it, and the vehicle raises and
is left without a session. -/
theorem admitted_key_not_installed :
    brokenKeyRequest.check sampleGateway = .ok brokenPublicKeyB64 ∧
      brokenPublicKeyB64.decodeBase64 = some sampleKey.bytes ∧
      @SessionCommandVerifier.finishRefresh PythonPlatform.ascii newVerifier ⟨.none, 0⟩
        (.answered 200 (acquiredAnswer sampleGateway brokenKeyRequest brokenPublicKeyB64
          (GoString.ofString "s-1") 0 5000 (GoString.ofString "token") 1666)) =
        (newVerifier, .error .runtimeError) := by
  let := PythonPlatform.ascii
  refine ⟨check_brokenKeyRequest, by decide +kernel, ?_⟩
  obtain ⟨session, htext, hload⟩ := loadSession_acquiredAnswer (g := sampleGateway)
    (show newVerifier.vehicleID = toPy brokenKeyRequest.vehicleID from rfl) brokenPublicKeyB64
    (GoString.ofString "s-1") 0 5000 (GoString.ofString "token") 1666
  have hrefused : SessionCommandVerifier.sessionKey session = .error .runtimeError := by
    rw [SessionCommandVerifier.sessionKey, htext]
    decide +kernel
  simp only [SessionCommandVerifier.finishRefresh, hload, hrefused]
  rfl

end RemoteInfra.EndToEnd
