import RemoteInfra.Library.Base64
import RemoteInfra.Python.Json
import RemoteInfra.Vehicle.ControlProtocol

/-!
# The vehicle's session verifier

`SessionCommandVerifier` of `control_session_receiver.py`.  A refresh suspends while it waits
for the gateway, so it is cut in two: what happens before the request is sent, and what
happens when its outcome is there.
-/

namespace RemoteInfra.Vehicle

open RemoteInfra.Library RemoteInfra.Python

/-- The fields are what the gateway's JSON held; only the expiry is converted. -/
structure ActiveControlSession where
  sessionID : PyValue
  vehicleID : PyValue
  operatorID : PyValue
  publicKeyB64 : PyValue
  status : PyValue
  expiresAtMS : ℤ
  deriving DecidableEq

structure VerifyKey where
  bytes : List UInt8
  length_eq : bytes.length = 32
  deriving DecidableEq

/-- Ed25519 as PyNaCl offers it; a message is the text whose UTF-8 bytes are signed. -/
class Ed25519 where
  verify : VerifyKey → List Char → List UInt8 → Bool

/-- `s.encode()`, which a lone surrogate fails. -/
def encode (s : PyStr) : Except PyExc (List Char) :=
  let characters := s.mapM fun
    | .scalar c => some c
    | .surrogate _ => none
  match characters with
  | some cs => .ok cs
  | none => .error .valueError

/-- `base64.b64decode(v, validate=True)` of Python 3.11, which refuses what is not base64 but
passes over surplus padding. -/
def b64decode : PyValue → Except PyExc (List UInt8)
  | .str s => do
      match Base64.decodeStrictly (← encode s) with
      | some bytes => return bytes
      | none => .error .valueError
  | _ => .error .typeError

def newVerifyKey (bytes : List UInt8) : Except PyExc VerifyKey :=
  if h : bytes.length = 32 then .ok ⟨bytes, h⟩ else .error .valueError

structure SessionCommandVerifier where
  vehicleID : PyStr
  maxAgeMS : ℤ
  maxFutureSkewMS : ℤ
  session : Option ActiveControlSession
  verifyKey : Option VerifyKey
  lastSequence : ℤ
  lastValidCmdTime : ℚ

namespace SessionCommandVerifier

def new (vehicleID : PyStr) (maxAgeMS maxFutureSkewMS : ℤ) (monotonic : ℚ) :
    SessionCommandVerifier where
  vehicleID := vehicleID
  maxAgeMS := maxAgeMS
  maxFutureSkewMS := maxFutureSkewMS
  session := none
  verifyKey := none
  lastSequence := 0
  lastValidCmdTime := monotonic

def clearSession (v : SessionCommandVerifier) : SessionCommandVerifier :=
  { v with session := none, verifyKey := none, lastSequence := 0 }

/-! ## Refreshing -/

/-- The locals a suspended refresh keeps. -/
structure Refresh where
  previousSessionID : PyValue
  previousSequence : ℤ

def beginRefresh (v : SessionCommandVerifier) : Refresh × SessionCommandVerifier :=
  ({ previousSessionID := (v.session.map ActiveControlSession.sessionID).getD .none
     previousSequence := v.lastSequence },
    v.clearSession)

/-- How the request ends: an exception of the transport or of reading the body, or an
answer. -/
inductive RefreshOutcome
  | raised (e : PyExc)
  | answered (status : ℕ) (payload : PyValue)

def readSession [PythonPlatform] (payload : PyValue) : Except PyExc ActiveControlSession := do
  let data ← payload.getItem "session"
  return {
    sessionID := ← data.getItem "session_id"
    vehicleID := ← data.getItem "vehicle_id"
    operatorID := ← data.getItem "operator_id"
    publicKeyB64 := ← data.getItem "public_key_b64"
    status := ← data.getItem "status"
    expiresAtMS := ← pyInt (← data.getItem "expires_at_ms") }

def ACTIVE : PyValue := .str (PyStr.ofString "ACTIVE")

/-- The key of a session; a bad one is reported as a `RuntimeError`. -/
def sessionKey (session : ActiveControlSession) : Except PyExc VerifyKey :=
  match b64decode session.publicKeyB64 >>= newVerifyKey with
  | .error .valueError | .error .typeError => .error .runtimeError
  | result => result

def loadSession [PythonPlatform] (vehicleID : PyStr) (payload : PyValue) :
    Except PyExc (ActiveControlSession × VerifyKey) := do
  let session ← readSession payload
  if session.vehicleID.eq (.str vehicleID) && session.status.eq ACTIVE then
    let key ← sessionKey session
    return (session, key)
  else .error .runtimeError

def install (v : SessionCommandVerifier) (refresh : Refresh) (session : ActiveControlSession)
    (key : VerifyKey) : SessionCommandVerifier :=
  { v with
    session := some session
    verifyKey := some key
    lastSequence :=
      if session.sessionID.eq refresh.previousSessionID then refresh.previousSequence
      else v.lastSequence }

def finishRefresh [PythonPlatform] (v : SessionCommandVerifier) (refresh : Refresh) :
    RefreshOutcome → SessionCommandVerifier × Except PyExc Unit
  | .raised e => (v, .error e)
  | .answered status payload =>
      if status = 404 then (v, .ok ())
      else if status ≠ 200 then (v, .error .runtimeError)
      else
        match loadSession v.vehicleID payload with
        | .ok (session, key) => (v.install refresh session key, .ok ())
        | .error e => (v, .error e)

/-! ## Verifying packets -/

inductive Check
  | rejected
  | expired
  | passed (sequence : ℤ)
  deriving DecidableEq

def REQUIRED : List String :=
  ["version", "type", "session_id", "sequence", "timestamp_ms", "command", "signature"]

/-- The LiveKit identity of the session's operator. -/
def operatorIdentity [PythonPlatform] (session : ActiveControlSession) : PyStr :=
  PyStr.ofString "operator-" ++ pyText session.operatorID

/-- Everything `verify_packet` checks before the signature.  A packet that is no dict fails
one way or another: it lacks the names, has unhashable items, or cannot be subscripted. -/
def checkPacket [PythonPlatform] (v : SessionCommandVerifier) (session : ActiveControlSession)
    (packet : PyValue) (senderIdentity : PyStr) (nowMS : ℤ) : Except PyExc Check := do
  match packet with
  | .dict entries =>
      if !(REQUIRED.all fun name ↦ entries.any fun e ↦ e.1 = PyStr.ofString name) then
        return .rejected
      if !((← packet.getItem "version").eq PROTOCOL_VERSION) ||
          !((← packet.getItem "type").eq CONTROL_TYPE) then
        return .rejected
      if !((← packet.getItem "session_id").eq session.sessionID) ||
          senderIdentity ≠ operatorIdentity session then
        return .rejected
      if nowMS > session.expiresAtMS then
        return .expired
      let timestamp ← pyInt (← packet.getItem "timestamp_ms")
      if nowMS - timestamp > v.maxAgeMS || timestamp - nowMS > v.maxFutureSkewMS then
        return .rejected
      let sequence ← pyInt (← packet.getItem "sequence")
      if sequence ≤ v.lastSequence then
        return .rejected
      if !(← validCommand (← packet.getItem "command")) then
        return .rejected
      return .passed sequence
  | _ => return .rejected

/-- `verify_key.verify(build_sign_message(packet).encode(), b64decode(packet["signature"]))`. -/
def checkSignature [PythonPlatform] [Ed25519] (key : VerifyKey) (packet : PyValue) :
    Except PyExc Unit := do
  let message ← encode (← buildSignMessage packet)
  let signature ← b64decode (← packet.getItem "signature")
  if signature.length ≠ 64 then .error .valueError
  else if Ed25519.verify key message signature then return ()
  else .error .badSignatureError

/-- The body of the `try` block. -/
def examine [PythonPlatform] [Ed25519] (v : SessionCommandVerifier)
    (session : ActiveControlSession) (key : VerifyKey) (rawMessage senderIdentity : PyStr)
    (nowMS : ℤ) : Except PyExc (Check × PyValue) := do
  let packet ← loads rawMessage
  match ← v.checkPacket session packet senderIdentity nowMS with
  | .passed sequence =>
      checkSignature key packet
      return (.passed sequence, packet)
  | check => return (check, packet)

/-- The exceptions `verify_packet` catches. -/
def caught : List PyExc :=
  [.keyError, .typeError, .valueError, .jsonDecodeError, .badSignatureError]

/-- `verify_packet` at wall-clock time `nowMS` and monotonic time `monotonic`. -/
def verifyPacket [PythonPlatform] [Ed25519] (v : SessionCommandVerifier)
    (rawMessage senderIdentity : PyStr) (nowMS : ℤ) (monotonic : ℚ) :
    SessionCommandVerifier × Except PyExc (Option PyValue) :=
  match v.session, v.verifyKey with
  | some session, some key =>
      match v.examine session key rawMessage senderIdentity nowMS with
      | .ok (.passed sequence, packet) =>
          ({ v with lastSequence := sequence, lastValidCmdTime := monotonic }, .ok (some packet))
      | .ok (.expired, _) => (v.clearSession, .ok none)
      | .ok (.rejected, _) => (v, .ok none)
      | .error e => (v, if e ∈ caught then .ok none else .error e)
  | _, _ => (v, .ok none)

/-! ## What acceptance says -/

theorem verifyPacket_of_passed [PythonPlatform] [Ed25519] {v : SessionCommandVerifier}
    {session : ActiveControlSession} {key : VerifyKey} {rawMessage senderIdentity : PyStr}
    {nowMS sequence : ℤ} {packet : PyValue} (hsession : v.session = some session)
    (hkey : v.verifyKey = some key)
    (h : v.examine session key rawMessage senderIdentity nowMS = .ok (.passed sequence, packet))
    (monotonic : ℚ) :
    v.verifyPacket rawMessage senderIdentity nowMS monotonic =
      ({ v with lastSequence := sequence, lastValidCmdTime := monotonic }, .ok (some packet)) := by
  simp only [verifyPacket, hsession, hkey, h]

theorem verifyPacket_of_rejected [PythonPlatform] [Ed25519] {v : SessionCommandVerifier}
    {session : ActiveControlSession} {key : VerifyKey} {rawMessage senderIdentity : PyStr}
    {nowMS : ℤ} {packet : PyValue} (hsession : v.session = some session)
    (hkey : v.verifyKey = some key)
    (h : v.examine session key rawMessage senderIdentity nowMS = .ok (.rejected, packet))
    (monotonic : ℚ) :
    v.verifyPacket rawMessage senderIdentity nowMS monotonic = (v, .ok none) := by
  simp only [verifyPacket, hsession, hkey, h]

/-- What a packet that passes every check before the signature has shown. -/
structure Passes [PythonPlatform] (v : SessionCommandVerifier) (session : ActiveControlSession)
    (packet : PyValue) (senderIdentity : PyStr) (nowMS sequence : ℤ) : Prop where
  version : ∃ x, packet.getItem "version" = .ok x ∧ x.eq PROTOCOL_VERSION = true
  type : ∃ x, packet.getItem "type" = .ok x ∧ x.eq CONTROL_TYPE = true
  sessionID : ∃ x, packet.getItem "session_id" = .ok x ∧ x.eq session.sessionID = true
  sender : senderIdentity = operatorIdentity session
  notExpired : nowMS ≤ session.expiresAtMS
  timestamp : ∃ x t, packet.getItem "timestamp_ms" = .ok x ∧ pyInt x = .ok t ∧
    nowMS - t ≤ v.maxAgeMS ∧ t - nowMS ≤ v.maxFutureSkewMS
  sequence : ∃ x, packet.getItem "sequence" = .ok x ∧ pyInt x = .ok sequence ∧
    v.lastSequence < sequence
  command : ∃ x, packet.getItem "command" = .ok x ∧ validCommand x = .ok true

theorem passes_of_checkPacket [PythonPlatform] {v : SessionCommandVerifier}
    {session : ActiveControlSession} {packet : PyValue} {senderIdentity : PyStr}
    {nowMS sequence : ℤ}
    (h : v.checkPacket session packet senderIdentity nowMS = .ok (.passed sequence)) :
    v.Passes session packet senderIdentity nowMS sequence := by
  unfold checkPacket at h
  cases packet with
  | dict entries =>
      dsimp only at h
      split at h
      · cases h
      obtain ⟨version, hversion, h⟩ := bind_eq_ok.mp h
      obtain ⟨type, htype, h⟩ := bind_eq_ok.mp h
      split at h
      · cases h
      rename_i hprotocol
      obtain ⟨sessionID, hsessionID, h⟩ := bind_eq_ok.mp h
      split at h
      · cases h
      rename_i hparties
      split at h
      · cases h
      rename_i hexpiry
      obtain ⟨x, hx, h⟩ := bind_eq_ok.mp h
      obtain ⟨t, ht, h⟩ := bind_eq_ok.mp h
      split at h
      · cases h
      rename_i hwindow
      obtain ⟨y, hy, h⟩ := bind_eq_ok.mp h
      obtain ⟨n, hn, h⟩ := bind_eq_ok.mp h
      split at h
      · cases h
      rename_i hlast
      obtain ⟨command, hcommand, h⟩ := bind_eq_ok.mp h
      obtain ⟨valid, hvalid, h⟩ := bind_eq_ok.mp h
      split at h
      · cases h
      rename_i hcheck
      obtain rfl : n = sequence := Check.passed.inj (Except.ok.inj h)
      simp only [Bool.or_eq_true, Bool.not_eq_true', not_or, Bool.not_eq_false,
        decide_eq_true_eq, not_lt, gt_iff_lt, ne_eq, not_not] at hprotocol hparties hwindow hcheck
      subst hcheck
      exact
        { version := ⟨version, hversion, hprotocol.1⟩
          type := ⟨type, htype, hprotocol.2⟩
          sessionID := ⟨sessionID, hsessionID, hparties.1⟩
          sender := hparties.2
          notExpired := not_lt.mp hexpiry
          timestamp := ⟨x, t, hx, ht, hwindow.1, hwindow.2⟩
          sequence := ⟨y, hy, hn, not_le.mp hlast⟩
          command := ⟨command, hcommand, hvalid⟩ }
  | _ => cases h

theorem exists_entry_of_getItem {entries : List (PyStr × PyValue)} {name : String} {x : PyValue}
    (h : (PyValue.dict entries).getItem name = .ok x) :
    (entries.any fun e ↦ e.1 = PyStr.ofString name) = true := by
  unfold PyValue.getItem at h
  dsimp only at h
  split at h
  · rename_i value hlookup
    obtain ⟨before, after, rfl, -⟩ := List.lookup_eq_some_iff.mp hlookup
    exact List.any_eq_true.mpr ⟨(PyStr.ofString name, value), by simp, by simp⟩
  · cases h

theorem checkPacket_of_passes [PythonPlatform] {v : SessionCommandVerifier}
    {session : ActiveControlSession} {packet : PyValue} {senderIdentity : PyStr}
    {nowMS sequence : ℤ} (h : v.Passes session packet senderIdentity nowMS sequence)
    {signature : PyValue} (hsignature : packet.getItem "signature" = .ok signature) :
    v.checkPacket session packet senderIdentity nowMS = .ok (.passed sequence) := by
  obtain ⟨version, hversion, hprotocol⟩ := h.version
  obtain ⟨type, htype, hcontrol⟩ := h.type
  obtain ⟨sessionID, hsessionID, hsame⟩ := h.sessionID
  obtain ⟨x, t, hx, ht, hage, hskew⟩ := h.timestamp
  obtain ⟨y, hy, hn, hlast⟩ := h.sequence
  obtain ⟨command, hcommand, hvalid⟩ := h.command
  cases packet with
  | dict entries =>
      have hnames : (REQUIRED.all fun name ↦ entries.any fun e ↦ e.1 = PyStr.ofString name) =
          true := by
        simp only [REQUIRED, List.all_cons, List.all_nil, exists_entry_of_getItem hversion,
          exists_entry_of_getItem htype, exists_entry_of_getItem hsessionID,
          exists_entry_of_getItem hy, exists_entry_of_getItem hx,
          exists_entry_of_getItem hcommand, exists_entry_of_getItem hsignature, Bool.and_self]
      have hwindow : ¬(v.maxAgeMS < nowMS - t ∨ v.maxFutureSkewMS < t - nowMS) := by omega
      simp only [checkPacket, hnames, hversion, htype, hsessionID, hx, hy, hcommand, ok_bind,
        hprotocol, hcontrol, hsame, h.sender, ht, hn, hvalid, not_lt.mpr h.notExpired,
        not_le.mpr hlast]
      simp [hwindow]
      rfl
  | _ => cases hversion

/-- What an accepted packet has shown, and what accepting it does. -/
structure Accepts [PythonPlatform] [Ed25519] (v : SessionCommandVerifier)
    (rawMessage senderIdentity : PyStr) (nowMS : ℤ) (monotonic : ℚ) (packet : PyValue)
    (session : ActiveControlSession) (key : VerifyKey) (sequence : ℤ)
    (v' : SessionCommandVerifier) : Prop where
  session_eq : v.session = some session
  verifyKey_eq : v.verifyKey = some key
  loads_eq : loads rawMessage = .ok packet
  passes : v.Passes session packet senderIdentity nowMS sequence
  signature : checkSignature key packet = .ok ()
  state_eq : v' = { v with lastSequence := sequence, lastValidCmdTime := monotonic }

/-- `verify_packet` accepts, or changes nothing, or drops a session that has expired. -/
theorem verifyPacket_cases [PythonPlatform] [Ed25519] {v v' : SessionCommandVerifier}
    {rawMessage senderIdentity : PyStr} {nowMS : ℤ} {monotonic : ℚ}
    {result : Except PyExc (Option PyValue)}
    (h : v.verifyPacket rawMessage senderIdentity nowMS monotonic = (v', result)) :
    (∃ packet session key sequence, result = .ok (some packet) ∧
        v.Accepts rawMessage senderIdentity nowMS monotonic packet session key sequence v') ∨
      ((∀ packet, result ≠ .ok (some packet)) ∧ (v' = v ∨ v' = v.clearSession)) := by
  unfold verifyPacket at h
  split at h
  · rename_i session key hsession hkey
    split at h
    · rename_i sequence packet hexamine
      obtain ⟨rfl, rfl⟩ := Prod.mk.inj h
      left
      obtain ⟨loaded, hloads, hexamine⟩ := bind_eq_ok.mp hexamine
      obtain ⟨check, hcheck, hexamine⟩ := bind_eq_ok.mp hexamine
      cases check with
      | passed n =>
          obtain ⟨⟨⟩, hsignature, hexamine⟩ := bind_eq_ok.mp hexamine
          obtain ⟨hn, rfl⟩ := Prod.mk.inj (Except.ok.inj hexamine)
          obtain rfl := Check.passed.inj hn
          exact ⟨loaded, session, key, n, rfl,
            { session_eq := hsession
              verifyKey_eq := hkey
              loads_eq := hloads
              passes := passes_of_checkPacket hcheck
              signature := hsignature
              state_eq := rfl }⟩
      | rejected => cases hexamine
      | expired => cases hexamine
    · obtain ⟨rfl, rfl⟩ := Prod.mk.inj h
      exact .inr ⟨by simp, .inr rfl⟩
    · obtain ⟨rfl, rfl⟩ := Prod.mk.inj h
      exact .inr ⟨by simp, .inl rfl⟩
    · obtain ⟨rfl, rfl⟩ := Prod.mk.inj h
      refine .inr ⟨fun packet ↦ ?_, .inl rfl⟩
      split_ifs <;> simp
  · obtain ⟨rfl, rfl⟩ := Prod.mk.inj h
    exact .inr ⟨by simp, .inl rfl⟩

theorem finishRefresh_of_loaded [PythonPlatform] {v : SessionCommandVerifier} {payload : PyValue}
    {session : ActiveControlSession} {key : VerifyKey}
    (h : loadSession v.vehicleID payload = .ok (session, key)) (refresh : Refresh) :
    v.finishRefresh refresh (.answered 200 payload) = (v.install refresh session key, .ok ()) := by
  simp only [finishRefresh, h]
  rfl

/-- A refresh that ends installs the session of a 200 answer or leaves the verifier as it
is. -/
theorem finishRefresh_cases [PythonPlatform] {v v' : SessionCommandVerifier} {refresh : Refresh}
    {outcome : RefreshOutcome} {result : Except PyExc Unit}
    (h : v.finishRefresh refresh outcome = (v', result)) :
    v' = v ∨ ∃ payload session key, outcome = .answered 200 payload ∧ result = .ok () ∧
      loadSession v.vehicleID payload = .ok (session, key) ∧
      v' = v.install refresh session key := by
  unfold finishRefresh at h
  split at h
  · exact .inl (Prod.mk.inj h).1.symm
  · rename_i status payload
    split_ifs at h with hmissing hother
    · exact .inl (Prod.mk.inj h).1.symm
    · exact .inl (Prod.mk.inj h).1.symm
    · obtain rfl : status = 200 := not_not.mp hother
      split at h
      · rename_i session key hload
        obtain ⟨rfl, rfl⟩ := Prod.mk.inj h
        exact .inr ⟨payload, session, key, rfl, rfl, hload, rfl⟩
      · exact .inl (Prod.mk.inj h).1.symm

/-- A session that loads is the verifier's own, active, and has its key. -/
theorem loadSession_ok [PythonPlatform] {vehicleID : PyStr} {payload : PyValue}
    {session : ActiveControlSession} {key : VerifyKey}
    (h : loadSession vehicleID payload = .ok (session, key)) :
    readSession payload = .ok session ∧ session.vehicleID = .str vehicleID ∧
      session.status = ACTIVE ∧ sessionKey session = .ok key := by
  obtain ⟨loaded, hread, h⟩ := bind_eq_ok.mp h
  split at h
  · rename_i hvalid
    rw [Bool.and_eq_true, PyValue.eq_str_iff] at hvalid
    obtain ⟨loadedKey, hkey, h⟩ := bind_eq_ok.mp h
    obtain ⟨rfl, rfl⟩ := Prod.mk.inj (Except.ok.inj h)
    exact ⟨hread, hvalid.1, PyValue.eq_str_iff.mp hvalid.2, hkey⟩
  · cases h

end SessionCommandVerifier

/-! ## A concrete session and a signed packet -/

section Sample

def samplePublicKeyB64 : PyStr := PyStr.ofString "f4etwOvULernnH43Zwo82wV28lfCUiGx561BoLsh978="

def sampleSignatureB64 : PyStr := PyStr.ofString
  "XfNpQtPN0zcJjWeyUnwrJb270tXEqMB8poIahpaC0R3O2IbtkdqoR3LvbGotXx6Eo+FKeXCoATcgO+ORmicRCQ=="

/-- Ed25519 as far as the sample goes: the one signature made with the sample's key. -/
@[reducible] def Ed25519.sample : Ed25519 where
  verify key message signature :=
    Base64.decode "f4etwOvULernnH43Zwo82wV28lfCUiGx561BoLsh978=".toList = some key.bytes &&
      message = "1|control|s-1|1|1000|high_level|forward".toList &&
        b64decode (.str sampleSignatureB64) = .ok signature

def sampleSession : ActiveControlSession where
  sessionID := .str (PyStr.ofString "s-1")
  vehicleID := .str (PyStr.ofString "car-001")
  operatorID := .str (PyStr.ofString "alice")
  publicKeyB64 := .str samplePublicKeyB64
  status := SessionCommandVerifier.ACTIVE
  expiresAtMS := 5000

/-- The gateway's answer that carries the sample session. -/
def samplePayload : PyValue :=
  .dict [(PyStr.ofString "session", .dict
    [(PyStr.ofString "session_id", sampleSession.sessionID),
      (PyStr.ofString "vehicle_id", sampleSession.vehicleID),
      (PyStr.ofString "operator_id", sampleSession.operatorID),
      (PyStr.ofString "public_key_b64", sampleSession.publicKeyB64),
      (PyStr.ofString "status", sampleSession.status),
      (PyStr.ofString "expires_at_ms", .int 5000)])]

def sampleKey : VerifyKey where
  bytes := (Base64.decode "f4etwOvULernnH43Zwo82wV28lfCUiGx561BoLsh978=".toList).getD []
  length_eq := by decide

def sampleSender : PyStr := PyStr.ofString "operator-alice"

def samplePacket (sequence timestamp : PyValue) : PyValue :=
  .dict
    [(PyStr.ofString "version", .int 1),
      (PyStr.ofString "type", .str (PyStr.ofString "control")),
      (PyStr.ofString "session_id", sampleSession.sessionID),
      (PyStr.ofString "sequence", sequence),
      (PyStr.ofString "timestamp_ms", timestamp),
      (PyStr.ofString "command", .dict
        [(PyStr.ofString "mode", .str HIGH_LEVEL_MODE),
          (PyStr.ofString "action", .str (PyStr.ofString "forward"))]),
      (PyStr.ofString "signature", .str sampleSignatureB64)]

def sampleMessage : PyStr :=
  PyStr.ofString "\x7b\"version\":1,\"type\":\"control\",\"session_id\":\"s-1\"," ++
    (PyStr.ofString "\"sequence\":1,\"timestamp_ms\":1000,\"command\":" ++
      (PyStr.ofString "\x7b\"mode\":\"high_level\",\"action\":\"forward\"\x7d," ++
        (PyStr.ofString "\"signature\":\"" ++
          (sampleSignatureB64 ++ PyStr.ofString "\"\x7d"))))

def sampleVerifier : SessionCommandVerifier :=
  { SessionCommandVerifier.new (PyStr.ofString "car-001") 100 100 0 with
    session := some sampleSession
    verifyKey := some sampleKey }

theorem loadSession_samplePayload :
    @SessionCommandVerifier.loadSession PythonPlatform.ascii (PyStr.ofString "car-001")
      samplePayload = .ok (sampleSession, sampleKey) := by
  decide +kernel

theorem examine_sampleMessage :
    @SessionCommandVerifier.examine PythonPlatform.ascii Ed25519.sample sampleVerifier
      sampleSession sampleKey sampleMessage sampleSender 1050 =
        .ok (.passed 1, samplePacket (.int 1) (.int 1000)) := by
  decide +kernel

end Sample

/-! ## A drive of several packets -/

section Drive

def drivingPublicKeyB64 : PyStr :=
  PyStr.ofString "ZHcg3UeCx6KSZIE4y+sIBxyJG9wyVsaa01ghXOq+bSY="

def drivingKey : VerifyKey where
  bytes := (Base64.decode "ZHcg3UeCx6KSZIE4y+sIBxyJG9wyVsaa01ghXOq+bSY=".toList).getD []
  length_eq := by decide

/-- The key of the session that follows. -/
def nextPublicKeyB64 : PyStr := PyStr.ofString "YVhD4REuMexWJW/FWLvE5V5CPTU//JRgU8Xd3qMmWx0="

def nextKey : VerifyKey where
  bytes := (Base64.decode "YVhD4REuMexWJW/FWLvE5V5CPTU//JRgU8Xd3qMmWx0=".toList).getD []
  length_eq := by decide

/-- The texts that were signed, with their keys and signatures. -/
def drivingSignatures : List (VerifyKey × List Char × PyStr) :=
  [(drivingKey, "1|control|s-1|1|1000|high_level|forward".toList, PyStr.ofString
      "paMjxbPm/E7Qbh/cBAmlxqwZ11vZ3AO4CYRM4wL3qV12s9UGn8yQDrg1T64ZzAaCBdXOQaJGmbbndlXpEJeiAQ=="),
    (drivingKey, "1|control|s-1|2|1240|high_level|forward".toList, PyStr.ofString
      "vFSUEusUvPa65N2KFkSpqyDTgQbYFm4lWMEtNwJCqpmaN8Uw6bxq3KpHz8aZcevxp5Fiwy9/+tgDX6zOTWYhBQ=="),
    (drivingKey, "1|control|s-1|4|1020|high_level|forward".toList, PyStr.ofString
      "OkFanykm/KN65CEgojsy0J46r4f/lxUdp1gIzAWSeH8bRb+BpIB9cmgZvp1OwzXbPM36SbZFySjkB8FHRwOADA=="),
    (drivingKey, "1|control|s-1|2|1000|high_level|stop".toList, PyStr.ofString
      "imya95A7A9KNE1xRAJkpS7EoNHxUXVbyjiftavEuFrSKqV1F53ZLqQASrszpkmzKWe5Yd+CLDlQ8mTK4DXc4Aw=="),
    (nextKey, "1|control|s-2|3|1040|high_level|forward".toList, PyStr.ofString
      "IdnXrLX/phHy6cxWsM/7k0dBlGCK1kgzlLHcps6rFQQHFUkT34giNnh5FFKniWimjvhH/boPVnVbj9fFqe+oBg=="),
    (nextKey, "1|control|s-2|9|1000|high_level|forward".toList, PyStr.ofString
      "UA4QlpigiLkWWe5U/r2otGnsioXHVaRKvIi45Ofc/8LU9qGPUiLtPggbNYBtQF2a0HdvQpINfmw//YhPi6JbBw==")]

def drivingSignature (i : ℕ) : PyStr := ((drivingSignatures[i]?).map fun signed ↦ signed.2.2).getD []

/-- Ed25519 as far as the drive goes. -/
@[reducible] def Ed25519.driving : Ed25519 where
  verify key message signature :=
    drivingSignatures.any fun signed ↦ signed.1.bytes = key.bytes &&
      message = signed.2.1 && b64decode (.str signed.2.2) = .ok signature

def drivingSession : ActiveControlSession :=
  { sampleSession with publicKeyB64 := .str drivingPublicKeyB64 }

def nextSession : ActiveControlSession :=
  { sampleSession with
    sessionID := .str (PyStr.ofString "s-2")
    publicKeyB64 := .str nextPublicKeyB64 }

/-- The gateway's answer that carries the session. -/
def sessionPayload (session : ActiveControlSession) : PyValue :=
  .dict [(PyStr.ofString "session", .dict
    [(PyStr.ofString "session_id", session.sessionID),
      (PyStr.ofString "vehicle_id", session.vehicleID),
      (PyStr.ofString "operator_id", session.operatorID),
      (PyStr.ofString "public_key_b64", session.publicKeyB64),
      (PyStr.ofString "status", session.status),
      (PyStr.ofString "expires_at_ms", .int session.expiresAtMS)])]

def forwardMessage (sessionID sequence timestamp signature : PyStr) : PyStr :=
  PyStr.ofString "\x7b\"version\":1,\"type\":\"control\",\"session_id\":\"" ++
    (sessionID ++ (PyStr.ofString "\",\"sequence\":" ++ (sequence ++
      (PyStr.ofString ",\"timestamp_ms\":" ++ (timestamp ++ (PyStr.ofString
          ",\"command\":\x7b\"mode\":\"high_level\",\"action\":\"forward\"\x7d," ++
        (PyStr.ofString "\"signature\":\"" ++ (signature ++ PyStr.ofString "\"\x7d"))))))))

def forwardPacket (session : ActiveControlSession) (sequence timestamp : ℤ) (signature : PyStr) :
    PyValue :=
  .dict
    [(PyStr.ofString "version", .int 1),
      (PyStr.ofString "type", .str (PyStr.ofString "control")),
      (PyStr.ofString "session_id", session.sessionID),
      (PyStr.ofString "sequence", .int sequence),
      (PyStr.ofString "timestamp_ms", .int timestamp),
      (PyStr.ofString "command", .dict
        [(PyStr.ofString "mode", .str HIGH_LEVEL_MODE),
          (PyStr.ofString "action", .str (PyStr.ofString "forward"))]),
      (PyStr.ofString "signature", .str signature)]

def firstMessage : PyStr :=
  forwardMessage (PyStr.ofString "s-1") (PyStr.ofString "1") (PyStr.ofString "1000")
    (drivingSignature 0)

def firstPacket : PyValue := forwardPacket drivingSession 1 1000 (drivingSignature 0)

def secondMessage : PyStr :=
  forwardMessage (PyStr.ofString "s-1") (PyStr.ofString "2") (PyStr.ofString "1240")
    (drivingSignature 1)

def secondPacket : PyValue := forwardPacket drivingSession 2 1240 (drivingSignature 1)

/-- Two packets are lost before this one. -/
def fourthMessage : PyStr :=
  forwardMessage (PyStr.ofString "s-1") (PyStr.ofString "4") (PyStr.ofString "1020")
    (drivingSignature 2)

def fourthPacket : PyValue := forwardPacket drivingSession 4 1020 (drivingSignature 2)

/-- A packet of the session that follows. -/
def nextMessage : PyStr :=
  forwardMessage (PyStr.ofString "s-2") (PyStr.ofString "3") (PyStr.ofString "1040")
    (drivingSignature 4)

def nextPacket : PyValue := forwardPacket nextSession 3 1040 (drivingSignature 4)

def ninthMessage : PyStr :=
  forwardMessage (PyStr.ofString "s-2") (PyStr.ofString "9") (PyStr.ofString "1000")
    (drivingSignature 5)

def ninthPacket : PyValue := forwardPacket nextSession 9 1000 (drivingSignature 5)

/-- A verifier of the drive that has accepted no packet yet. -/
def drivingVerifier : SessionCommandVerifier :=
  { SessionCommandVerifier.new (PyStr.ofString "car-001") 100 100 0 with
    session := some drivingSession
    verifyKey := some drivingKey }

def nextVerifier : SessionCommandVerifier :=
  { drivingVerifier with
    session := some nextSession
    verifyKey := some nextKey }

theorem loadSession_drivingPayloads :
    @SessionCommandVerifier.loadSession PythonPlatform.ascii (PyStr.ofString "car-001")
        (sessionPayload drivingSession) = .ok (drivingSession, drivingKey) ∧
      @SessionCommandVerifier.loadSession PythonPlatform.ascii (PyStr.ofString "car-001")
        (sessionPayload nextSession) = .ok (nextSession, nextKey) := by
  constructor <;> decide +kernel

theorem examine_drivingMessages :
    @SessionCommandVerifier.examine PythonPlatform.ascii Ed25519.driving drivingVerifier
        drivingSession drivingKey firstMessage sampleSender 1050 = .ok (.passed 1, firstPacket) ∧
      @SessionCommandVerifier.examine PythonPlatform.ascii Ed25519.driving drivingVerifier
          drivingSession drivingKey secondMessage sampleSender 1290 =
        .ok (.passed 2, secondPacket) ∧
      @SessionCommandVerifier.examine PythonPlatform.ascii Ed25519.driving
          { drivingVerifier with lastSequence := 1 } drivingSession drivingKey fourthMessage
            sampleSender 1050 = .ok (.passed 4, fourthPacket) ∧
      @SessionCommandVerifier.examine PythonPlatform.ascii Ed25519.driving
          { drivingVerifier with lastSequence := 4 } drivingSession drivingKey firstMessage
            sampleSender 1050 = .ok (.rejected, firstPacket) := by
  refine ⟨?_, ?_, ?_, ?_⟩ <;> decide +kernel

theorem examine_nextMessages :
    @SessionCommandVerifier.examine PythonPlatform.ascii Ed25519.driving nextVerifier nextSession
        nextKey nextMessage sampleSender 1050 = .ok (.passed 3, nextPacket) ∧
      @SessionCommandVerifier.examine PythonPlatform.ascii Ed25519.driving nextVerifier nextSession
        nextKey ninthMessage sampleSender 1050 = .ok (.passed 9, ninthPacket) := by
  constructor <;> decide +kernel

end Drive

end RemoteInfra.Vehicle
