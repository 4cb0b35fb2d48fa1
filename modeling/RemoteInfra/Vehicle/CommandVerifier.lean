import Mathlib.Algebra.Order.Group.Unbundled.Abs
import RemoteInfra.Python.Decoded
import RemoteInfra.Vehicle.SessionVerifier

/-!
# The stage-1 command verifier

`OperatorKeyRegistration`, `build_sign_message` and `CommandVerifier` of `secure_receiver.py`.
-/

namespace RemoteInfra.Vehicle

open RemoteInfra.Library RemoteInfra.Python

/-- The fields are what the gateway's JSON held; only the times are converted. -/
structure OperatorKeyRegistration where
  vehicleID : PyValue
  operatorID : PyValue
  keyID : PyValue
  publicKeyB64 : PyValue
  expiresAtMS : ℤ
  registeredAtMS : ℤ
  deriving DecidableEq

structure CommandVerifier where
  vehicleID : PyStr
  maxSkewMS : ℤ
  currentKey : Option OperatorKeyRegistration
  verifyKey : Option VerifyKey
  lastSeq : ℤ
  lastValidCmdTime : ℚ
  deriving DecidableEq

namespace CommandVerifier

def buildSignMessage [PythonPlatform] (payload : PyValue) : Except PyExc PyStr := do
  let vehicleID ← payload.getItem "vehicle_id"
  let keyID ← payload.getItem "key_id"
  let cmd ← payload.getItem "cmd"
  let val ← payload.getItem "val"
  let seq ← payload.getItem "seq"
  let ts ← payload.getItem "ts"
  return joinWith [bar]
    [pyText vehicleID, pyText keyID, pyText cmd, pyText val, pyText seq, pyText ts]

/-- `base64.b64decode(v)`, which skips what is not base64. -/
def b64decode : PyValue → Except PyExc (List UInt8)
  | .str s => do
      let text ← encode s
      if text.any fun c ↦ 128 ≤ c.toNat then .error .valueError
      else
        match Base64.decodeLoosely 0 0 0 text with
        | some bytes => return bytes
        | none => .error .valueError
  | _ => .error .typeError

def new (vehicleID : PyStr) (maxSkewMS : ℤ) (monotonic : ℚ) : CommandVerifier where
  vehicleID := vehicleID
  maxSkewMS := maxSkewMS
  currentKey := none
  verifyKey := none
  lastSeq := 0
  lastValidCmdTime := monotonic

/-! ## Loading keys -/

/-- `VerifyKey(base64.b64decode(reg.public_key_b64))`. -/
def publicKey (reg : OperatorKeyRegistration) : Except PyExc VerifyKey :=
  b64decode reg.publicKeyB64 >>= newVerifyKey

/-- The registration is in place before its key is decoded. -/
def loadRegistration (v : CommandVerifier) (reg : OperatorKeyRegistration) :
    CommandVerifier × Except PyExc Unit :=
  let v := { v with currentKey := some reg }
  match publicKey reg with
  | .error e => (v, .error e)
  | .ok key => ({ v with verifyKey := some key, lastSeq := 0 }, .ok ())

/-- How the request for a key ends: an exception of the transport or of reading the body, or
an answer. -/
inductive RefreshOutcome
  | raised (e : PyExc)
  | answered (status : ℕ) (data : PyValue)

def readRegistration [PythonPlatform] (data : PyValue) :
    Except PyExc OperatorKeyRegistration := do
  return {
    vehicleID := ← data.getItem "vehicle_id"
    operatorID := ← data.getItem "operator_id"
    keyID := ← data.getItem "key_id"
    publicKeyB64 := ← data.getItem "public_key_b64"
    expiresAtMS := ← pyInt (← data.getItem "expires_at_ms")
    registeredAtMS := ← pyInt (← data.get "registered_at_ms" (.int 0)) }

def refreshKey [PythonPlatform] (v : CommandVerifier) :
    RefreshOutcome → CommandVerifier × Except PyExc Unit
  | .raised e => (v, .error e)
  | .answered status data =>
      if status ≠ 200 then (v, .error .runtimeError)
      else
        match readRegistration data with
        | .error e => (v, .error e)
        | .ok reg => v.loadRegistration reg

/-! ## Verifying packets -/

def required : List String :=
  ["vehicle_id", "key_id", "cmd", "val", "seq", "ts", "sig", "alg"]

/-- Everything `verify_packet` checks before the signature; a packet that passes has its
`int(seq)`. -/
def checkPayload [PythonPlatform] (v : CommandVerifier) (reg : OperatorKeyRegistration)
    (payload : PyValue) (nowMS : ℤ) : Except PyExc (Option ℤ) := do
  match payload with
  | .dict entries =>
      if !(required.all fun name ↦ entries.any fun e ↦ e.1 = PyStr.ofString name) then
        return none
      if !((← payload.getItem "alg").eq (.str (PyStr.ofString "Ed25519"))) then
        return none
      if !((← payload.getItem "vehicle_id").eq (.str v.vehicleID)) then
        return none
      if !((← payload.getItem "key_id").eq reg.keyID) then
        return none
      let ts ← pyInt (← payload.getItem "ts")
      if |nowMS - ts| > v.maxSkewMS then
        return none
      let seq ← pyInt (← payload.getItem "seq")
      if seq ≤ v.lastSeq then
        return none
      return some seq
  | _ => .error .attributeError

/-- `verify_key.verify(sign_msg.encode("utf-8"), b64decode(sig))`. -/
def checkSignature [Ed25519] (key : VerifyKey) (signMsg : PyStr) (sig : PyValue) :
    Except PyExc Unit := do
  let signature ← b64decode sig
  let message ← encode signMsg
  if signature.length ≠ 64 then .error .valueError
  else if Ed25519.verify key message signature then return ()
  else .error .badSignatureError

/-- The rest of `verify_packet`, once the checks before the signature have passed. -/
def checkSigned [PythonPlatform] [Ed25519] (key : VerifyKey) (payload : PyValue) :
    Except PyExc Bool := do
  let signMsg ← buildSignMessage payload
  let sig ← payload.getItem "sig"
  match checkSignature key signMsg sig with
  | .ok () => return true
  | .error .valueError | .error .badSignatureError => return false
  | .error e => .error e

/-- `verify_packet` at wall-clock time `nowMS` and monotonic time `monotonic`. -/
def verifyPacket [PythonPlatform] [Ed25519] (v : CommandVerifier) (rawMessage : PyStr)
    (nowMS : ℤ) (monotonic : ℚ) : CommandVerifier × Except PyExc (Option PyValue) :=
  match v.currentKey, v.verifyKey with
  | some reg, some key =>
      match loads rawMessage with
      | .error .jsonDecodeError => (v, .ok none)
      | .error e => (v, .error e)
      | .ok payload =>
          match v.checkPayload reg payload nowMS with
          | .error e => (v, .error e)
          | .ok none => (v, .ok none)
          | .ok (some seq) =>
              match checkSigned key payload with
              | .error e => (v, .error e)
              | .ok false => (v, .ok none)
              | .ok true =>
                  ({ v with lastSeq := seq, lastValidCmdTime := monotonic }, .ok (some payload))
  | _, _ => (v, .ok none)

/-! ## What acceptance says -/

/-- What a payload that passes every check before the signature has shown. -/
structure Passes [PythonPlatform] (v : CommandVerifier) (reg : OperatorKeyRegistration)
    (payload : PyValue) (nowMS seq : ℤ) : Prop where
  names : ∀ name ∈ required, ∃ x, payload.getItem name = .ok x
  alg : payload.getItem "alg" = .ok (.str (PyStr.ofString "Ed25519"))
  vehicleID : payload.getItem "vehicle_id" = .ok (.str v.vehicleID)
  keyID : ∃ x, payload.getItem "key_id" = .ok x ∧ x.eq reg.keyID = true
  ts : ∃ x t, payload.getItem "ts" = .ok x ∧ pyInt x = .ok t ∧ |nowMS - t| ≤ v.maxSkewMS
  seq : ∃ x, payload.getItem "seq" = .ok x ∧ pyInt x = .ok seq ∧ v.lastSeq < seq

/-- A dict has the keys it is said to have. -/
theorem exists_getItem {entries : List (PyStr × PyValue)} {name : String}
    (h : (entries.any fun e ↦ e.1 = PyStr.ofString name) = true) :
    ∃ x, (PyValue.dict entries).getItem name = .ok x := by
  obtain ⟨e, he, hkey⟩ := List.any_eq_true.mp h
  rw [decide_eq_true_eq] at hkey
  cases hlookup : entries.lookup (PyStr.ofString name) with
  | some x => exact ⟨x, by simp only [PyValue.getItem, hlookup]⟩
  | none =>
      have hnone := List.lookup_eq_none_iff.mp hlookup e he
      simp [hkey] at hnone

theorem checkPayload_iff [PythonPlatform] {v : CommandVerifier} {reg : OperatorKeyRegistration}
    {payload : PyValue} {nowMS seq : ℤ} :
    v.checkPayload reg payload nowMS = .ok (some seq) ↔ v.Passes reg payload nowMS seq := by
  constructor
  · intro h
    unfold checkPayload at h
    cases payload with
    | dict entries =>
        dsimp only at h
        split at h
        · cases h
        rename_i hnames
        obtain ⟨alg, halg, h⟩ := bind_eq_ok.mp h
        split at h
        · cases h
        rename_i hed
        obtain ⟨vehicleID, hvehicleID, h⟩ := bind_eq_ok.mp h
        split at h
        · cases h
        rename_i hvehicle
        obtain ⟨keyID, hkeyID, h⟩ := bind_eq_ok.mp h
        split at h
        · cases h
        rename_i hkey
        obtain ⟨x, hx, h⟩ := bind_eq_ok.mp h
        obtain ⟨t, ht, h⟩ := bind_eq_ok.mp h
        split at h
        · cases h
        rename_i hskew
        obtain ⟨y, hy, h⟩ := bind_eq_ok.mp h
        obtain ⟨n, hn, h⟩ := bind_eq_ok.mp h
        split at h
        · cases h
        rename_i hlast
        obtain rfl := Option.some.inj (Except.ok.inj h)
        simp only [Bool.not_eq_true', Bool.not_eq_false, List.all_eq_true]
          at hnames hed hvehicle hkey
        rw [PyValue.eq_str_iff] at hed hvehicle
        subst hed hvehicle
        exact
          { names := fun name hname ↦ exists_getItem (hnames name hname)
            alg := halg
            vehicleID := hvehicleID
            keyID := ⟨keyID, hkeyID, hkey⟩
            ts := ⟨x, t, hx, ht, not_lt.mp hskew⟩
            seq := ⟨y, hy, hn, not_le.mp hlast⟩ }
    | _ => cases h
  · intro h
    obtain ⟨keyID, hkeyID, hkey⟩ := h.keyID
    obtain ⟨x, t, hx, ht, hskew⟩ := h.ts
    obtain ⟨y, hy, hn, hlast⟩ := h.seq
    cases payload with
    | dict entries =>
        have hnames : (required.all fun name ↦ entries.any fun e ↦ e.1 = PyStr.ofString name) =
            true := by
          refine List.all_eq_true.mpr fun name hname ↦ ?_
          obtain ⟨value, hvalue⟩ := h.names name hname
          exact SessionCommandVerifier.exists_entry_of_getItem hvalue
        have hself : ∀ s, (PyValue.str s).eq (.str s) = true := fun s ↦ PyValue.eq_str_iff.mpr rfl
        simp only [checkPayload, hnames, h.alg, h.vehicleID, hkeyID, hx, hy, ok_bind, hself, hkey,
          ht, hn, gt_iff_lt, not_lt.mpr hskew, not_le.mpr hlast, Bool.not_true, Bool.false_eq_true,
          if_false]
        rfl
    | _ => cases h.alg

/-- The payload carries a signature made with the private half of `key`. -/
def SignedUnder [PythonPlatform] [Ed25519] (key : VerifyKey) (payload : PyValue) : Prop :=
  ∃ signMsg sig, buildSignMessage payload = .ok signMsg ∧ payload.getItem "sig" = .ok sig ∧
    checkSignature key signMsg sig = .ok ()

theorem signedUnder_of_checkSigned [PythonPlatform] [Ed25519] {key : VerifyKey}
    {payload : PyValue} (h : checkSigned key payload = .ok true) : SignedUnder key payload := by
  obtain ⟨signMsg, hmessage, h⟩ := bind_eq_ok.mp h
  obtain ⟨sig, hsig, h⟩ := bind_eq_ok.mp h
  refine ⟨signMsg, sig, hmessage, hsig, ?_⟩
  split at h
  · assumption
  all_goals cases h

/-- What an accepted packet has shown, and what accepting it does. -/
structure Accepts [PythonPlatform] [Ed25519] (v : CommandVerifier) (rawMessage : PyStr)
    (nowMS : ℤ) (monotonic : ℚ) (payload : PyValue) (reg : OperatorKeyRegistration)
    (key : VerifyKey) (seq : ℤ) (v' : CommandVerifier) : Prop where
  currentKey_eq : v.currentKey = some reg
  verifyKey_eq : v.verifyKey = some key
  loads_eq : loads rawMessage = .ok payload
  passes : v.Passes reg payload nowMS seq
  signed : SignedUnder key payload
  state_eq : v' = { v with lastSeq := seq, lastValidCmdTime := monotonic }

/-- `verify_packet` accepts or changes nothing. -/
theorem verifyPacket_cases [PythonPlatform] [Ed25519] {v v' : CommandVerifier}
    {rawMessage : PyStr} {nowMS : ℤ} {monotonic : ℚ} {result : Except PyExc (Option PyValue)}
    (h : v.verifyPacket rawMessage nowMS monotonic = (v', result)) :
    (∃ payload reg key seq, result = .ok (some payload) ∧
        v.Accepts rawMessage nowMS monotonic payload reg key seq v') ∨
      ((∀ payload, result ≠ .ok (some payload)) ∧ v' = v) := by
  unfold verifyPacket at h
  split at h
  · rename_i reg key hreg hkey
    split at h
    · obtain ⟨rfl, rfl⟩ := Prod.mk.inj h
      exact .inr ⟨by simp, rfl⟩
    · obtain ⟨rfl, rfl⟩ := Prod.mk.inj h
      exact .inr ⟨by simp, rfl⟩
    · rename_i payload hloads
      split at h
      · obtain ⟨rfl, rfl⟩ := Prod.mk.inj h
        exact .inr ⟨by simp, rfl⟩
      · obtain ⟨rfl, rfl⟩ := Prod.mk.inj h
        exact .inr ⟨by simp, rfl⟩
      · rename_i seq hchecks
        split at h
        · obtain ⟨rfl, rfl⟩ := Prod.mk.inj h
          exact .inr ⟨by simp, rfl⟩
        · obtain ⟨rfl, rfl⟩ := Prod.mk.inj h
          exact .inr ⟨by simp, rfl⟩
        · rename_i hsigned
          obtain ⟨rfl, rfl⟩ := Prod.mk.inj h
          exact .inl ⟨payload, reg, key, seq, rfl,
            { currentKey_eq := hreg
              verifyKey_eq := hkey
              loads_eq := hloads
              passes := checkPayload_iff.mp hchecks
              signed := signedUnder_of_checkSigned hsigned
              state_eq := rfl }⟩
  · obtain ⟨rfl, rfl⟩ := Prod.mk.inj h
    exact .inr ⟨by simp, rfl⟩

/-- A refresh loads a registration or changes nothing. -/
theorem refreshKey_cases [PythonPlatform] {v v' : CommandVerifier} {outcome : RefreshOutcome}
    {result : Except PyExc Unit} (h : v.refreshKey outcome = (v', result)) :
    v' = v ∨ ∃ data reg, outcome = .answered 200 data ∧ readRegistration data = .ok reg ∧
      v.loadRegistration reg = (v', result) := by
  unfold refreshKey at h
  split at h
  · exact .inl (Prod.mk.inj h).1.symm
  · rename_i status data
    split_ifs at h with hstatus
    · exact .inl (Prod.mk.inj h).1.symm
    · obtain rfl : status = 200 := not_not.mp hstatus
      split at h
      · exact .inl (Prod.mk.inj h).1.symm
      · rename_i reg hreg
        exact .inr ⟨data, reg, rfl, hreg, h⟩

end CommandVerifier

end RemoteInfra.Vehicle
