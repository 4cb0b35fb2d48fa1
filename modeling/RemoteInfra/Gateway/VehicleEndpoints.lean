import RemoteInfra.Gateway.Handlers

/-!
# The endpoints of the vehicles

`handleVehicleConnect` and `handleTelemetry` of `app.go` and `handleVehicleAudit` of
`audit.go`.  Each of them, and `handleGetControl`, settles in its own way which vehicle the
caller is; they agree exactly for the callers whose name is the id of their vehicle.
-/

namespace RemoteInfra.Gateway

/-- What a vehicle's request comes to, once the token is signed or not. -/
structure VehicleAnswer where
  response : HTTPResponse
  audits : List AuditEvent
  /-- the vehicle whose latency gauge was set -/
  gauge : Option GoString

def refuse (message : String) (status : ℕ) : VehicleAnswer := ⟨httpError message status, [], none⟩

def hasScope (scopes : List GoString) (wanted : GoString) : Bool :=
  scopes.any fun scope ↦ scope = wanted

/-- A request for a media token; `vid` is empty when the query has none. -/
structure ConnectRequest where
  claims : UserClaims
  vid : GoString

def hasVehicleRole (claims : UserClaims) : Bool :=
  hasRole claims.roles (GoString.ofString "vehicle")

def hasVehicleScope (claims : UserClaims) : Bool :=
  hasScope claims.scopes (GoString.ofString "teleop:vehicle")

def accessAudit (event : String) (vehicleID : GoString) : AuditEvent :=
  successAudit event [] vehicleID []

/-- The answer that hands out a token for the vehicle. -/
def connected (vehicleID token : GoString) : VehicleAnswer where
  response := ⟨200, .token token⟩
  audits := [accessAudit "login" vehicleID, accessAudit "vehicle_access" vehicleID]
  gauge := none

/-- The end of `handleVehicleConnect`, with the caller's vehicle settled. -/
def connectAs (issueVehicleToken : GoString → Option GoString) (vid vehicleID : GoString) :
    VehicleAnswer :=
  if vid ≠ [] ∧ vid ≠ vehicleID then
    refuse "forbidden: vehicle identity does not match vid" 403
  else
    match issueVehicleToken vehicleID with
    | none => refuse "failed to issue LiveKit token" 500
    | some token => connected vehicleID token

def handleVehicleConnect (identities : VehicleIdentityResolver)
    (issueVehicleToken : GoString → Option GoString) (r : ConnectRequest) : VehicleAnswer :=
  let resolved := identities.resolve r.claims.name
  if !hasVehicleRole r.claims && !(resolved.isSome && hasVehicleScope r.claims) then
    refuse "Forbidden: vehicle role required" 403
  else
    match resolved with
    | some vehicleID => connectAs issueVehicleToken r.vid vehicleID
    | none =>
        -- the fallback to the name is off whenever subjects are registered
        if identities.strict then refuse "forbidden: vehicle identity is not registered" 403
        else connectAs issueVehicleToken r.vid r.claims.name

structure TelemetryPayload where
  vehicleID : GoString

/-- A request with a JSON body; `none` when the decoder refuses it. -/
structure PostRequest (Body : Type) where
  method : HTTPMethod
  claims : UserClaims
  body : Option Body

def handleTelemetry (r : PostRequest TelemetryPayload) : VehicleAnswer :=
  if r.method ≠ .post then refuse "Method not allowed" 405
  else if !hasVehicleRole r.claims then refuse "Forbidden: Only vehicles can post telemetry" 403
  else
    match r.body with
    | none => refuse "Invalid json" 400
    | some payload =>
        if payload.vehicleID ≠ r.claims.name then refuse "Forbidden: vehicle mismatch" 403
        else ⟨⟨200, .empty⟩, [], some payload.vehicleID⟩

structure VehicleAuditRequest where
  sessionID : GoString
  event : GoString
  reason : GoString

def vehicleSafetyAuditEvent (event : GoString) : Bool :=
  event = GoString.ofString "watchdog_timeout" || event = GoString.ofString "command_rejected" ||
    event = GoString.ofString "emergency_stop"

/-- What `handleVehicleAudit` records for a report of the vehicle. -/
def reportedAudit (vehicleID : GoString) (request : VehicleAuditRequest) : AuditEvent where
  operatorID := []
  vehicleID := vehicleID
  sessionID := request.sessionID
  event := request.event
  reason := request.reason
  result := GoString.ofString "reported"

def handleVehicleAudit (r : PostRequest VehicleAuditRequest) : VehicleAnswer :=
  if r.method ≠ .post then refuse "method not allowed" 405
  else if !hasVehicleRole r.claims then refuse "forbidden: vehicle role required" 403
  else
    match r.body with
    | none => refuse "invalid json" 400
    | some request =>
        if !vehicleSafetyAuditEvent request.event || request.reason = [] then
          refuse "invalid vehicle audit event" 400
        else ⟨⟨204, .empty⟩, [reportedAudit r.claims.name request], none⟩

/-! ## Who the endpoints take the caller for -/

/-- With signing succeeding, some connect request of the caller gets a token for `v`. -/
def ConnectsAs (identities : VehicleIdentityResolver) (claims : UserClaims) (v : GoString) : Prop :=
  ∃ issueVehicleToken vid token, issueVehicleToken v = some token ∧
    handleVehicleConnect identities issueVehicleToken ⟨claims, vid⟩ = connected v token

/-- The other endpoints take the caller for the vehicle `v` and for no other. -/
structure TakenFor (identities : VehicleIdentityResolver) (claims : UserClaims) (v : GoString) :
    Prop where
  control : ∀ u, vehicleSelfMatches claims u identities = true ↔ u = v
  telemetry : ∀ payload, (handleTelemetry ⟨.post, claims, some payload⟩).response.status = 200 ↔
    payload.vehicleID = v
  audit : ∀ request, vehicleSafetyAuditEvent request.event = true → request.reason ≠ [] →
    (handleVehicleAudit ⟨.post, claims, some request⟩).response.status = 204 ∧
      (handleVehicleAudit ⟨.post, claims, some request⟩).audits = [reportedAudit v request]
  auditOther : ∀ r, r.claims = claims → ∀ event ∈ (handleVehicleAudit r).audits,
    event.vehicleID = v

section Identity

variable {identities : VehicleIdentityResolver} {claims : UserClaims} {v : GoString}

theorem connectAs_eq_connected {issueVehicleToken : GoString → Option GoString}
    {vid vehicleID token : GoString}
    (h : connectAs issueVehicleToken vid vehicleID = connected v token) : vehicleID = v := by
  unfold connectAs at h
  split_ifs at h
  · cases congrArg (fun a ↦ a.response.status) h
  · cases htoken : issueVehicleToken vehicleID with
    | none =>
        simp only [htoken] at h
        cases congrArg (fun a ↦ a.response.status) h
    | some signed =>
        simp only [htoken] at h
        have haudits := congrArg VehicleAnswer.audits h
        exact congrArg AuditEvent.vehicleID (List.cons.inj haudits).1

theorem connectAs_signed (vehicleID : GoString) :
    connectAs (fun _ ↦ some []) [] vehicleID = connected vehicleID [] := by
  simp [connectAs]

theorem not_refused_iff (role registered scope : Bool) :
    ¬ ((!role && !(registered && scope)) = true) ↔
      (role = true ∨ (registered = true ∧ scope = true)) := by
  cases role <;> cases registered <;> cases scope <;> decide

/-- A caller connects as its registered vehicle, or under its own name when none is
registered at all. -/
theorem connectsAs_iff : ConnectsAs identities claims v ↔
    (hasVehicleRole claims = true ∨
        ((identities.resolve claims.name).isSome = true ∧ hasVehicleScope claims = true)) ∧
      (identities.resolve claims.name = some v ∨
        (identities.resolve claims.name = none ∧ identities.strict = false ∧ claims.name = v)) := by
  rw [← not_refused_iff]
  constructor
  · rintro ⟨issueVehicleToken, vid, token, -, h⟩
    unfold handleVehicleConnect at h
    dsimp only at h
    by_cases hrefused : (!hasVehicleRole claims &&
        !((identities.resolve claims.name).isSome && hasVehicleScope claims)) = true
    · rw [if_pos hrefused] at h
      cases congrArg (fun a ↦ a.response.status) h
    · rw [if_neg hrefused] at h
      refine ⟨hrefused, ?_⟩
      cases hresolve : identities.resolve claims.name with
      | some vehicleID =>
          simp only [hresolve] at h
          exact .inl (congrArg some (connectAs_eq_connected h))
      | none =>
          simp only [hresolve] at h
          split_ifs at h with hstrict
          · cases congrArg (fun a ↦ a.response.status) h
          · exact .inr ⟨rfl, by simpa using hstrict, connectAs_eq_connected h⟩
  · rintro ⟨hadmitted, hvehicle⟩
    refine ⟨fun _ ↦ some [], [], [], rfl, ?_⟩
    unfold handleVehicleConnect
    dsimp only
    rw [if_neg hadmitted]
    rcases hvehicle with hresolve | ⟨hresolve, hstrict, rfl⟩
    · simp only [hresolve, connectAs_signed]
    · simp only [hresolve, hstrict, connectAs_signed]
      rfl

theorem handleTelemetry_status (payload : TelemetryPayload) :
    (handleTelemetry ⟨.post, claims, some payload⟩).response.status = 200 ↔
      hasVehicleRole claims = true ∧ payload.vehicleID = claims.name := by
  unfold handleTelemetry
  dsimp only
  split_ifs with hmethod hrole hname
  · exact absurd rfl hmethod
  · simp [refuse, httpError, show hasVehicleRole claims = false by simpa using hrole]
  · simp [refuse, httpError, hname]
  · simpa using ⟨by simpa using hrole, by simpa using hname⟩

theorem handleVehicleAudit_audits (r : PostRequest VehicleAuditRequest) :
    ∀ event ∈ (handleVehicleAudit r).audits, event.vehicleID = r.claims.name := by
  intro event hevent
  unfold handleVehicleAudit at hevent
  split_ifs at hevent
  · cases hevent
  · cases hevent
  · split at hevent
    · cases hevent
    · split_ifs at hevent
      · cases hevent
      · obtain rfl := List.mem_singleton.mp hevent
        rfl

theorem resolve_of_not_strict (h : identities.strict = false) (subject : GoString) :
    identities.resolve subject = none := by
  have hempty : identities.bySubject = [] := by
    simpa [VehicleIdentityResolver.strict] using h
  simp [VehicleIdentityResolver.resolve, hempty]

theorem vehicleSelfMatches_iff : vehicleSelfMatches claims v identities = true ↔
    hasVehicleRole claims = true ∧ (identities.resolve claims.name = some v ∨
      (identities.strict = false ∧ claims.name = v)) := by
  simp [vehicleSelfMatches, hasVehicleRole]

/-- Telemetry and audit go by the role and the name, so the caller must be a namesake. -/
theorem takenFor_iff : TakenFor identities claims v ↔
    hasVehicleRole claims = true ∧ claims.name = v ∧
      (identities.resolve claims.name = some v ∨ identities.strict = false) := by
  constructor
  · intro h
    obtain ⟨hrole, hname⟩ := handleTelemetry_status ⟨v⟩ |>.mp ((h.telemetry ⟨v⟩).mpr rfl)
    obtain ⟨-, hresolve | ⟨hstrict, -⟩⟩ := vehicleSelfMatches_iff.mp ((h.control v).mpr rfl)
    · exact ⟨hrole, hname.symm, .inl hresolve⟩
    · exact ⟨hrole, hname.symm, .inr hstrict⟩
  · rintro ⟨hrole, rfl, hresolve⟩
    refine ⟨fun u ↦ ?_, fun payload ↦ ?_, fun request hevent hreason ↦ ?_, ?_⟩
    · rw [vehicleSelfMatches_iff]
      rcases hresolve with hresolve | hstrict
      · have hstrict : identities.strict = true := by
          by_contra hnot
          simp [resolve_of_not_strict (by simpa using hnot)] at hresolve
        simp [hrole, hresolve, hstrict, eq_comm]
      · simp [hrole, hstrict, resolve_of_not_strict hstrict, eq_comm]
    · rw [handleTelemetry_status]
      simp [hrole]
    · simp [handleVehicleAudit, hrole, hevent, hreason]
    · rintro r rfl
      exact handleVehicleAudit_audits r

/-- The caller's name is the id of its vehicle, or the caller gets no token. -/
def NamedAsVehicle (identities : VehicleIdentityResolver) (claims : UserClaims) : Prop :=
  (hasVehicleRole claims = true ∧ ∀ v, identities.resolve claims.name = some v → v = claims.name) ∨
    (hasVehicleRole claims = false ∧
      (identities.resolve claims.name = none ∨ hasVehicleScope claims = false))

/-- Every endpoint takes a caller for the vehicle that it connects as, exactly if the caller
has the vehicle role and no vehicle but its namesake is registered for it, or cannot
connect. -/
theorem one_identity_iff (identities : VehicleIdentityResolver) (claims : UserClaims) :
    (∀ v, ConnectsAs identities claims v → TakenFor identities claims v) ↔
      NamedAsVehicle identities claims := by
  simp only [connectsAs_iff, takenFor_iff, NamedAsVehicle]
  cases hrole : hasVehicleRole claims with
  | true =>
      cases hresolve : identities.resolve claims.name with
      | some w =>
          constructor
          · intro h
            obtain ⟨-, hname, -⟩ := h w ⟨.inl rfl, .inl rfl⟩
            refine .inl ⟨rfl, ?_⟩
            rintro v ⟨⟩
            exact hname.symm
          · rintro (⟨-, hname⟩ | ⟨⟨⟩, -⟩) v ⟨-, hv | ⟨⟨⟩, -⟩⟩
            exact ⟨rfl, (hname v hv).symm, .inl hv⟩
      | none =>
          constructor
          · intro _
            exact .inl ⟨rfl, by simp⟩
          · rintro - v ⟨-, ⟨⟨⟩⟩ | ⟨-, hstrict, hname⟩⟩
            exact ⟨rfl, hname, .inr hstrict⟩
  | false =>
      cases hresolve : identities.resolve claims.name with
      | some w =>
          constructor
          · intro h
            refine .inr ⟨rfl, .inr ?_⟩
            by_contra hscope
            cases (h w ⟨.inr ⟨rfl, by simpa using hscope⟩, .inl rfl⟩).1
          · rintro (⟨⟨⟩, -⟩ | ⟨-, ⟨⟨⟩⟩ | hscope⟩) v ⟨⟨⟨⟩⟩ | ⟨-, hadmits⟩, -⟩
            simp [hscope] at hadmits
      | none =>
          constructor
          · intro _
            exact .inr ⟨rfl, .inl rfl⟩
          · rintro - v ⟨⟨⟨⟩⟩ | ⟨⟨⟩, -⟩, -⟩

end Identity

section Sample

def clientMap : VehicleIdentityResolver :=
  ⟨[(GoString.ofString "vehicle-client", GoString.ofString "car-001")]⟩

def vehicleClient : UserClaims :=
  ⟨GoString.ofString "vehicle-client", [GoString.ofString "vehicle"], [], []⟩

def obstacleReport : VehicleAuditRequest :=
  ⟨GoString.ofString "s-1", GoString.ofString "emergency_stop", GoString.ofString "obstacle"⟩

/-- A client that is registered for car-001 connects as car-001; its telemetry for car-001 is
refused, and its reports are recorded under another name. -/
theorem registered_client_split :
    ConnectsAs clientMap vehicleClient (GoString.ofString "car-001") ∧
      ¬ TakenFor clientMap vehicleClient (GoString.ofString "car-001") ∧
      (handleTelemetry ⟨.post, vehicleClient, some ⟨GoString.ofString "car-001"⟩⟩).response.status =
        403 ∧
      (handleVehicleAudit ⟨.post, vehicleClient, some obstacleReport⟩).audits.map
        AuditEvent.vehicleID = [GoString.ofString "vehicle-client"] := by
  refine ⟨connectsAs_iff.mpr ⟨.inl ?_, .inl ?_⟩, fun h ↦ ?_, ?_, ?_⟩
  · decide +kernel
  · decide +kernel
  · have hname : vehicleClient.name ≠ GoString.ofString "car-001" := by decide +kernel
    exact hname (takenFor_iff.mp h).2.1
  · decide +kernel
  · decide +kernel

end Sample

end RemoteInfra.Gateway
