import RemoteInfra.Gateway.ControlSession
import RemoteInfra.Gateway.VideoSession

/-!
# The gateway's control and video handlers

`control_session_api.go` and `video_session_api.go`, from an authenticated request to its
response.
-/

namespace RemoteInfra.Gateway

open RemoteInfra.Library

inductive HTTPMethod
  | get
  | post
  | other
  deriving DecidableEq

inductive ResponseBody
  | text (message : String)
  | token (token : GoString)
  | control (session : ControlSession) (token : GoString) (renewAfterMS : ℤ)
  | video (session : VideoSession)
  | empty

structure HTTPResponse where
  status : ℕ
  body : ResponseBody

/-- `http.Error`. -/
def httpError (message : String) (status : ℕ) : HTTPResponse := ⟨status, .text message⟩

/-- What the process is configured with. -/
structure GatewayConfig where
  controlLeases : ControlLeaseStore
  videoSessions : VideoSessionStore
  vehicleAuthorizer : VehicleAuthorizer
  vehicleIdentities : VehicleIdentityResolver

def isEd25519PublicKey (encoded : GoString) : Bool :=
  match encoded.decodeBase64 with
  | some key => key.length = 32
  | none => false

/-- `writeControlSessionError`. -/
def controlSessionErrorResponse : ControlSessionError → HTTPResponse
  | .leaseHeld => httpError "control lease is already held" 409
  | .sessionNotFound => httpError "control session not found" 404
  | .sessionOwner => httpError "control session is not owned by operator" 403
  | .wrapped => httpError "control session unavailable" 503

theorem controlSessionErrorResponse_status (e : ControlSessionError) :
    (controlSessionErrorResponse e).status ≠ 200 ∧
      (controlSessionErrorResponse e).status ≠ 204 := by
  cases e <;> decide

/-- `writeVideoSessionError`. -/
def videoSessionErrorResponse : VideoSessionError → HTTPResponse
  | .sessionNotFound => httpError "video session not found" 404
  | .wrapped => httpError "video session unavailable" 503

def recordAudit (event : AuditEvent) : GatewayProgram Unit := Program.call (.recordAudit event) .pure

def issueOperatorToken (vehicleID operatorID : GoString) (access : OperatorAccess) :
    GatewayProgram (Option GoString) :=
  Program.call (.issueOperatorToken vehicleID operatorID access) .pure

/-- What the control and video handlers audit. -/
def successAudit (event : String) (operatorID vehicleID sessionID : GoString) : AuditEvent where
  operatorID := operatorID
  vehicleID := vehicleID
  sessionID := sessionID
  event := GoString.ofString event
  reason := []
  result := GoString.ofString "success"

def controlAudit (event : String) (session : ControlSession) : AuditEvent :=
  successAudit event session.operatorID session.vehicleID session.sessionID

/-- An acquire request; the body is what the JSON decoder makes of it. -/
structure AcquireControlRequest where
  method : HTTPMethod
  claims : UserClaims
  vehicleID : GoString
  publicKeyB64 : Option GoString

/-- The checks of `handleAcquireControl`: the public key, or the refusal. -/
def AcquireControlRequest.check (g : GatewayConfig) (r : AcquireControlRequest) :
    Except HTTPResponse GoString :=
  if r.method ≠ .post then .error (httpError "method not allowed" 405)
  else if !canControl r.claims then .error (httpError "forbidden: controller role required" 403)
  else if r.vehicleID = [] then .error (httpError "missing vehicle id" 400)
  else if !g.vehicleAuthorizer.authorize r.claims r.vehicleID .control then
    .error (httpError "forbidden: vehicle ACL denied" 403)
  else
    match r.publicKeyB64 with
    | none => .error (httpError "invalid json" 400)
    | some publicKeyB64 =>
        if !isEd25519PublicKey publicKeyB64 then
          .error (httpError "invalid Ed25519 public key" 400)
        else .ok publicKeyB64

/-- The session `handleAcquireControl` makes. -/
def AcquireControlRequest.session (g : GatewayConfig) (r : AcquireControlRequest)
    (publicKeyB64 sessionID : GoString) (now : ℤ) : ControlSession where
  sessionID := sessionID
  vehicleID := r.vehicleID
  operatorID := r.claims.name
  publicKeyB64 := publicKeyB64
  status := .active
  createdAtMS := now
  expiresAtMS := now + g.controlLeases.ttl

def handleAcquireControl (g : GatewayConfig) (r : AcquireControlRequest) :
    GatewayProgram HTTPResponse := do
  match r.check g with
  | .error response => return response
  | .ok publicKeyB64 =>
      let now ← timeNow
      let sessionID ← newUUID
      let session := r.session g publicKeyB64 sessionID now
      match ← g.controlLeases.acquireControlSession session with
      | .error e => return controlSessionErrorResponse e
      | .ok _ =>
          match ← VideoSessionStore.setController r.vehicleID sessionID with
          | .error _ =>
              let _ ← ControlLeaseStore.releaseControlSession sessionID session.operatorID
              return httpError "video session unavailable" 503
          | .ok _ =>
              match ← issueOperatorToken session.vehicleID session.operatorID .controller with
              | none =>
                  let _ ← ControlLeaseStore.releaseControlSession sessionID session.operatorID
                  return httpError "failed to issue LiveKit token" 500
              | some token =>
                  recordAudit (controlAudit "control_acquire" session)
                  return ⟨200, .control session token (g.controlLeases.ttl.tdiv 2)⟩

/-- A request about one session. -/
structure SessionRequest where
  method : HTTPMethod
  claims : UserClaims
  sessionID : GoString

def handleRenewControl (g : GatewayConfig) (r : SessionRequest) : GatewayProgram HTTPResponse := do
  if r.method ≠ .post then return httpError "method not allowed" 405
  else
    match ← g.controlLeases.renewControlSession r.sessionID r.claims.name with
    | .error e => return controlSessionErrorResponse e
    | .ok session =>
        recordAudit (controlAudit "control_renew" session)
        return ⟨200, .control session [] (g.controlLeases.ttl.tdiv 2)⟩

def handleReleaseControl (g : GatewayConfig) (r : SessionRequest) : GatewayProgram HTTPResponse := do
  if r.method ≠ .post then return httpError "method not allowed" 405
  else
    match ← ControlLeaseStore.getSessionByID r.sessionID with
    | .error e => return controlSessionErrorResponse e
    | .ok session =>
        match ← ControlLeaseStore.releaseControlSession session.sessionID r.claims.name with
        | .error e => return controlSessionErrorResponse e
        | .ok _ =>
            match ← g.videoSessions.clearController session.vehicleID session.sessionID with
            | .error _ => return httpError "video session unavailable" 503
            | .ok _ =>
                recordAudit (controlAudit "control_release" session)
                return ⟨204, .empty⟩

/-- A request about one vehicle. -/
structure VehicleRequest where
  method : HTTPMethod
  claims : UserClaims
  vehicleID : GoString

def VehicleRequest.mayObserve (g : GatewayConfig) (r : VehicleRequest) : Bool :=
  canObserve r.claims && g.vehicleAuthorizer.authorize r.claims r.vehicleID .observe

def handleGetControl (g : GatewayConfig) (r : VehicleRequest) : GatewayProgram HTTPResponse := do
  if r.method ≠ .get then return httpError "method not allowed" 405
  else if !vehicleSelfMatches r.claims r.vehicleID g.vehicleIdentities && !r.mayObserve g then
    return httpError "forbidden: vehicle or observer role required" 403
  else
    match ← ControlLeaseStore.getControlSession r.vehicleID with
    | .error e => return controlSessionErrorResponse e
    | .ok session => return ⟨200, .control session [] 0⟩

def handleAcquireVideo (g : GatewayConfig) (r : VehicleRequest) : GatewayProgram HTTPResponse := do
  if !r.mayObserve g then return httpError "forbidden: observer role required" 403
  else
    match ← g.videoSessions.acquireViewer r.vehicleID with
    | .error e => return videoSessionErrorResponse e
    | .ok session =>
        recordAudit (successAudit "video_acquire" r.claims.name r.vehicleID session.sessionID)
        return ⟨200, .video session⟩

def handleReleaseVideo (g : GatewayConfig) (r : SessionRequest) : GatewayProgram HTTPResponse := do
  match ← g.videoSessions.releaseViewer r.sessionID with
  | .error e => return videoSessionErrorResponse e
  | .ok session =>
      recordAudit (successAudit "video_release" r.claims.name session.vehicleID r.sessionID)
      return ⟨204, .empty⟩

def handleGetVideo (g : GatewayConfig) (r : VehicleRequest) : GatewayProgram HTTPResponse := do
  if !hasRole r.claims.roles (GoString.ofString "vehicle") && !r.mayObserve g then
    return httpError "forbidden: observer role required" 403
  else
    match ← VideoSessionStore.get r.vehicleID with
    | .error e => return videoSessionErrorResponse e
    | .ok session => return ⟨200, .video session⟩

/-- The requests on these routes. -/
inductive GatewayCall
  | acquireControl (r : AcquireControlRequest)
  | renewControl (r : SessionRequest)
  | releaseControl (r : SessionRequest)
  | getControl (r : VehicleRequest)
  | acquireVideo (r : VehicleRequest)
  | releaseVideo (r : SessionRequest)
  | getVideo (r : VehicleRequest)

def GatewayCall.handle (g : GatewayConfig) : GatewayCall → GatewayProgram HTTPResponse
  | .acquireControl r => handleAcquireControl g r
  | .renewControl r => handleRenewControl g r
  | .releaseControl r => handleReleaseControl g r
  | .getControl r => handleGetControl g r
  | .acquireVideo r => handleAcquireVideo g r
  | .releaseVideo r => handleReleaseVideo g r
  | .getVideo r => handleGetVideo g r

/-- What a request that passes the checks has shown. -/
structure AcquireControlRequest.Admitted (g : GatewayConfig) (r : AcquireControlRequest)
    (publicKeyB64 : GoString) : Prop where
  canControl_eq : canControl r.claims = true
  authorize_eq : g.vehicleAuthorizer.authorize r.claims r.vehicleID .control = true
  publicKeyB64_eq : r.publicKeyB64 = some publicKeyB64
  isEd25519PublicKey_eq : isEd25519PublicKey publicKeyB64 = true

theorem AcquireControlRequest.admitted_of_check {g : GatewayConfig} {r : AcquireControlRequest}
    {publicKeyB64 : GoString} (h : r.check g = .ok publicKeyB64) : r.Admitted g publicKeyB64 := by
  unfold check at h
  split_ifs at h with hmethod hrole hvehicle hacl
  split at h
  · cases h
  · rename_i text hbody
    split_ifs at h with hkey
    obtain rfl := Except.ok.inj h
    exact
      { canControl_eq := by simpa using hrole
        authorize_eq := by simpa using hacl
        publicKeyB64_eq := hbody
        isEd25519PublicKey_eq := by simpa using hkey }

/-- An admitted request reads the time, draws a session id and runs the acquire script. -/
theorem handleAcquireControl_of_check {g : GatewayConfig} {r : AcquireControlRequest}
    {publicKeyB64 : GoString} (h : r.check g = .ok publicKeyB64) :
    ∃ tail : ℤ → GoString → Except RedisError ℤ → GatewayProgram HTTPResponse,
      handleAcquireControl g r = .call .timeNow fun now ↦ .call .newUUID fun sessionID ↦
      .call (.redis (.acquireScript r.vehicleID sessionID
        (r.session g publicKeyB64 sessionID now).marshal g.controlLeases.ttl r.vehicleID))
        (tail now sessionID) := by
  unfold handleAcquireControl
  rw [h]
  exact ⟨_, rfl⟩

/-- A read that the vehicle may make answers with the session of the lease. -/
theorem handleGetControl_of_self {g : GatewayConfig} {r : VehicleRequest} (hmethod : r.method = .get)
    (hself : vehicleSelfMatches r.claims r.vehicleID g.vehicleIdentities = true) :
    ∃ next : Except RedisError (Option ControlSessionJSON) → GatewayProgram HTTPResponse,
      handleGetControl g r = .call (.redis (.get (.controlLease r.vehicleID))) next ∧
        ∀ raw session, raw.unmarshal = some session →
          next (.ok (some raw)) = .pure ⟨200, .control session [] 0⟩ := by
  refine ⟨?next, ?_, ?_⟩
  rotate_left
  · unfold handleGetControl
    simp only [hmethod, hself]
    rfl
  · intro raw session hraw
    simp only [Program.bind, hraw]
    rfl

section Sample

/-! ## Alice asks for car-001 -/

def aliceRequest : AcquireControlRequest where
  method := .post
  claims := ⟨GoString.ofString "alice", [GoString.ofString "operator"], [], []⟩
  vehicleID := GoString.ofString "car-001"
  publicKeyB64 := some (GoString.ofString "f4etwOvULernnH43Zwo82wV28lfCUiGx561BoLsh978=")

def pollRequest : VehicleRequest where
  method := .get
  claims := ⟨GoString.ofString "car-001", [GoString.ofString "vehicle"], [], []⟩
  vehicleID := GoString.ofString "car-001"

def sampleGateway : GatewayConfig where
  controlLeases := ⟨5000⟩
  videoSessions := ⟨45000⟩
  vehicleAuthorizer :=
    { entries := [⟨GoString.ofString "alice", [], GoString.ofString "car-001", [.control]⟩]
      supported := by decide
      validVehicleIDs := by
        intro entry hentry
        obtain rfl := List.mem_singleton.mp hentry
        exact GoString.validUTF8_ofString _
      validUserIDs := by
        intro entry hentry
        obtain rfl := List.mem_singleton.mp hentry
        exact GoString.validUTF8_ofString _ }
  vehicleIdentities := ⟨[]⟩

def leasedSession : ControlSession where
  sessionID := GoString.ofString "s-1"
  vehicleID := GoString.ofString "car-001"
  operatorID := GoString.ofString "alice"
  publicKeyB64 := GoString.ofString "f4etwOvULernnH43Zwo82wV28lfCUiGx561BoLsh978="
  status := .active
  createdAtMS := 0
  expiresAtMS := 5000

def renewRequest : SessionRequest where
  method := .post
  claims := aliceRequest.claims
  sessionID := leasedSession.sessionID

def leasedRedis : Redis :=
  (Store.empty.set (.controlLease leasedSession.vehicleID) leasedSession.marshal (0 + 5000)).set
    (.controlSessionIndex leasedSession.sessionID) leasedSession.vehicleID (0 + 5000)

theorem check_aliceRequest :
    aliceRequest.check sampleGateway = .ok leasedSession.publicKeyB64 := by
  have hkey : isEd25519PublicKey leasedSession.publicKeyB64 = true := by decide +kernel
  have hcontrol : canControl aliceRequest.claims = true := by decide +kernel
  have hacl : sampleGateway.vehicleAuthorizer.authorize aliceRequest.claims
      aliceRequest.vehicleID .control = true := by decide +kernel
  have hvehicle : aliceRequest.vehicleID ≠ [] := by decide +kernel
  have hbody : aliceRequest.publicKeyB64 = some leasedSession.publicKeyB64 := rfl
  have hmethod : aliceRequest.method = .post := rfl
  simp [AcquireControlRequest.check, hmethod, hcontrol, hvehicle, hacl, hbody, hkey]

end Sample

end RemoteInfra.Gateway
