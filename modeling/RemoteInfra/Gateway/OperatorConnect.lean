import RemoteInfra.Gateway.Handlers

/-!
# Operators joining a room

`handleOperatorConnect` of `app.go` with `resolveOperatorAccess` and `operatorVideoGrant` of
`operator_access.go`.  A request that names its access is checked against the roles; one that
names none is given observer access without a look at them.
-/

namespace RemoteInfra.Gateway

def OperatorAccess.text : OperatorAccess → GoString
  | .observer => GoString.ofString "observer"
  | .controller => GoString.ofString "controller"

def unsupportedAccess (requested : GoString) : FormattedError :=
  ⟨"unsupported access mode %q", requested⟩

def accessNotPermitted (requested : GoString) : FormattedError :=
  ⟨"access mode %q is not permitted", requested⟩

def resolveOperatorAccess (claims : UserClaims) (requested : GoString) :
    Except FormattedError OperatorAccess :=
  if requested = [] then
    if canControl claims then .ok .controller else .ok .observer
  else if requested = OperatorAccess.observer.text then
    if canObserve claims then .ok .observer else .error (accessNotPermitted requested)
  else if requested = OperatorAccess.controller.text then
    if canControl claims then .ok .controller else .error (accessNotPermitted requested)
  else .error (unsupportedAccess requested)

/-- `auth.VideoGrant`, as far as it is set. -/
structure VideoGrant where
  roomJoin : Bool
  room : GoString
  canPublish : Bool
  canPublishData : Bool
  canSubscribe : Bool

def operatorVideoGrant (vehicleID : GoString) (access : OperatorAccess) : VideoGrant where
  roomJoin := true
  room := GoString.ofString "teleop-" ++ vehicleID
  canPublish := false
  canPublishData := access = .controller
  canSubscribe := true

/-- A LiveKit token before it is signed. -/
structure AccessToken where
  grant : VideoGrant
  identity : GoString
  validForMinutes : ℕ

def operatorToken (vehicleID operatorID : GoString) (access : OperatorAccess) : AccessToken where
  grant := operatorVideoGrant vehicleID access
  identity := GoString.ofString "operator-" ++ operatorID
  validForMinutes := 15

inductive OperatorBody
  | text (message : String)
  | error (e : FormattedError)
  | joined (token operatorID mode : GoString) (canControl : Bool) (msg : String)

structure OperatorAnswer where
  status : ℕ
  body : OperatorBody
  audits : List AuditEvent
  /-- the token that was signed and handed out -/
  issued : Option AccessToken

/-- The query parameters are empty when they are missing. -/
structure OperatorConnectRequest where
  claims : UserClaims
  vid : GoString
  access : GoString

def refuseOperator (body : OperatorBody) (status : ℕ) : OperatorAnswer := ⟨status, body, [], none⟩

def permissionFor : OperatorAccess → VehiclePermission
  | .controller => .control
  | .observer => .observe

def joinedRoom (r : OperatorConnectRequest) (access : OperatorAccess) (signed : GoString) :
    OperatorAnswer where
  status := 200
  body := .joined signed r.claims.name access.text (access = .controller)
    "Authenticated and joined the vehicle room"
  audits := [successAudit "login" r.claims.name r.vid [],
    successAudit "vehicle_access" r.claims.name r.vid []]
  issued := some (operatorToken r.vid r.claims.name access)

/-- `toJWT` signs a token, or fails to. -/
def handleOperatorConnect (vehicleAuthorizer : VehicleAuthorizer)
    (toJWT : AccessToken → Option GoString) (r : OperatorConnectRequest) : OperatorAnswer :=
  if r.vid = [] then refuseOperator (.text "Missing vehicle ID (vid)") 400
  else
    match resolveOperatorAccess r.claims r.access with
    | .error e => refuseOperator (.error e) 403
    | .ok access =>
        if !vehicleAuthorizer.authorize r.claims r.vid (permissionFor access) then
          refuseOperator (.text "forbidden: vehicle ACL denied") 403
        else
          match toJWT (operatorToken r.vid r.claims.name access) with
          | none => refuseOperator (.text "failed to issue LiveKit token") 500
          | some signed => joinedRoom r access signed

/-! ## What a token says about its holder -/

/-- The claims hold the role of an access mode. -/
def permits (claims : UserClaims) : OperatorAccess → Bool
  | .observer => canObserve claims
  | .controller => canControl claims

theorem canObserve_of_canControl {claims : UserClaims} (h : canControl claims = true) :
    canObserve claims = true := by
  simp [canObserve, h]

theorem VehicleAuthorizer.authorize_observe {a : VehicleAuthorizer} {claims : UserClaims}
    {vehicleID : GoString} (h : a.authorize claims vehicleID .control = true) :
    a.authorize claims vehicleID .observe = true := by
  simp only [authorize, Bool.and_eq_true, List.any_eq_true] at h ⊢
  obtain ⟨hid, entry, hentry, hgrants⟩ := h
  refine ⟨hid, entry, hentry, ?_⟩
  simp only [VehicleACL.grants, Bool.and_eq_true, List.any_eq_true, Bool.or_eq_true,
    decide_eq_true_eq] at hgrants ⊢
  obtain ⟨hentries, granted, hmem, hgranted⟩ := hgrants
  refine ⟨hentries, granted, hmem, ?_⟩
  rcases hgranted with rfl | ⟨-, hobserve⟩
  · simp
  · cases hobserve

/-- A token is issued for a resolved access the list allows on the vehicle. -/
theorem issued_cases {vehicleAuthorizer : VehicleAuthorizer}
    {toJWT : AccessToken → Option GoString} {r : OperatorConnectRequest} {token : AccessToken}
    (h : (handleOperatorConnect vehicleAuthorizer toJWT r).issued = some token) :
    ∃ access, resolveOperatorAccess r.claims r.access = .ok access ∧
      vehicleAuthorizer.authorize r.claims r.vid (permissionFor access) = true ∧
        token = operatorToken r.vid r.claims.name access := by
  unfold handleOperatorConnect at h
  split at h
  · cases h
  · split at h
    · cases h
    · rename_i access hresolve
      split at h
      · cases h
      · rename_i hallowed
        split at h
        · cases h
        · exact ⟨access, hresolve, by simpa using hallowed, (Option.some.inj h).symm⟩

/-- An access that is asked for by name is granted to those who hold its role. -/
theorem resolveOperatorAccess_text (claims : UserClaims) (access : OperatorAccess) :
    resolveOperatorAccess claims access.text = .ok access ↔ permits claims access = true := by
  have hobserver : OperatorAccess.observer.text ≠ [] := by decide
  have hcontroller : OperatorAccess.controller.text ≠ [] := by decide
  have hdiffer : OperatorAccess.controller.text ≠ OperatorAccess.observer.text := by decide
  cases access with
  | observer => cases h : canObserve claims <;> simp [resolveOperatorAccess, permits, hobserver, h]
  | controller =>
      cases h : canControl claims <;>
        simp [resolveOperatorAccess, permits, hcontroller, hdiffer, h]

/-- Whatever is resolved is held as a role, except the observer access of a request that names
none. -/
theorem permits_of_resolve {claims : UserClaims} {requested : GoString} {access : OperatorAccess}
    (h : resolveOperatorAccess claims requested = .ok access) :
    permits claims access = true ∨ (requested = [] ∧ access = .observer) := by
  unfold resolveOperatorAccess at h
  split_ifs at h with hnone hcontrol hobserver hcan hcontroller hcan
  · obtain rfl := Except.ok.inj h
    exact .inl hcontrol
  · obtain rfl := Except.ok.inj h
    exact .inr ⟨hnone, rfl⟩
  · obtain rfl := Except.ok.inj h
    exact .inl hcan
  · obtain rfl := Except.ok.inj h
    exact .inl hcan

/-- A token gives away no more than its holder's roles and the list allow, and a default is
what could have been asked for. -/
structure LeastPrivilege (vehicleAuthorizer : VehicleAuthorizer)
    (toJWT : AccessToken → Option GoString) (r : OperatorConnectRequest) : Prop where
  observes : ∀ token, (handleOperatorConnect vehicleAuthorizer toJWT r).issued = some token →
    canObserve r.claims = true ∧ vehicleAuthorizer.authorize r.claims r.vid .observe = true
  publishes : ∀ token, (handleOperatorConnect vehicleAuthorizer toJWT r).issued = some token →
    token.grant.canPublishData = true →
      canControl r.claims = true ∧ vehicleAuthorizer.authorize r.claims r.vid .control = true
  grantable : r.access = [] → ∀ access, resolveOperatorAccess r.claims r.access = .ok access →
    resolveOperatorAccess r.claims access.text = .ok access

/-- Least privilege holds of a request that names its access or comes from an observer. -/
theorem least_privilege_iff (vehicleAuthorizer : VehicleAuthorizer)
    (toJWT : AccessToken → Option GoString) (r : OperatorConnectRequest) :
    LeastPrivilege vehicleAuthorizer toJWT r ↔ r.access ≠ [] ∨ canObserve r.claims = true := by
  constructor
  · intro h
    by_cases hnamed : r.access = []
    · right
      by_contra hobserve
      have hcontrol : canControl r.claims = false := by
        by_contra hcontrol
        exact hobserve (canObserve_of_canControl (by simpa using hcontrol))
      have hdefault : resolveOperatorAccess r.claims r.access = .ok .observer := by
        simp [resolveOperatorAccess, hnamed, hcontrol]
      have hpermits := (resolveOperatorAccess_text _ _).mp (h.grantable hnamed _ hdefault)
      exact hobserve hpermits
    · exact .inl hnamed
  · intro h
    have hpermits : ∀ access, resolveOperatorAccess r.claims r.access = .ok access →
        permits r.claims access = true := by
      intro access hresolve
      rcases permits_of_resolve hresolve with hpermits | ⟨hnone, rfl⟩
      · exact hpermits
      · rcases h with hnamed | hobserve
        · exact absurd hnone hnamed
        · exact hobserve
    refine ⟨fun token hissued ↦ ?_, fun token hissued hpublish ↦ ?_, fun _ access hresolve ↦ ?_⟩
    · obtain ⟨access, hresolve, hallowed, -⟩ := issued_cases hissued
      cases access with
      | observer => exact ⟨hpermits _ hresolve, hallowed⟩
      | controller =>
          exact ⟨canObserve_of_canControl (hpermits _ hresolve),
            VehicleAuthorizer.authorize_observe hallowed⟩
    · obtain ⟨access, hresolve, hallowed, rfl⟩ := issued_cases hissued
      have haccess : access = .controller := of_decide_eq_true hpublish
      subst haccess
      exact ⟨hpermits _ hresolve, hallowed⟩
    · exact (resolveOperatorAccess_text _ _).mpr (hpermits _ hresolve)

/-- One operator without roles may observe one vehicle. -/
def roleless : UserClaims where
  name := GoString.ofString "mallory"
  roles := []
  scopes := []
  organization := []

def observableACL : VehicleACL where
  userID := GoString.ofString "mallory"
  tenantID := []
  vehicleID := GoString.ofString "car-001"
  permissions := [.observe]

def observableAuthorizer : VehicleAuthorizer where
  entries := [observableACL]
  supported := by decide
  validVehicleIDs := by
    intro entry hentry
    obtain rfl := List.mem_singleton.mp hentry
    exact GoString.validUTF8_ofString _
  validUserIDs := by
    intro entry hentry
    obtain rfl := List.mem_singleton.mp hentry
    exact GoString.validUTF8_ofString _

theorem token_without_role : ¬ ∀ (vehicleAuthorizer : VehicleAuthorizer)
    (toJWT : AccessToken → Option GoString) (r : OperatorConnectRequest),
    LeastPrivilege vehicleAuthorizer toJWT r := by
  intro hall
  have hissued : ∃ token, (handleOperatorConnect observableAuthorizer (fun _ ↦ some [])
      ⟨roleless, GoString.ofString "car-001", []⟩).issued = some token := ⟨_, rfl⟩
  obtain ⟨token, hissued⟩ := hissued
  have hobserves := (hall _ _ _).observes token hissued
  exact absurd hobserves.1 (by decide)

end RemoteInfra.Gateway
