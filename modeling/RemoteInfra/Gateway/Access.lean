import RemoteInfra.Gateway.GoString

/-!
# Roles and the vehicle access list

`operator_access.go`, `vehicle_acl.go` and `vehicle_identity.go`: what authenticated claims
allow, and on which vehicle.
-/

namespace RemoteInfra.Gateway

structure UserClaims where
  name : GoString
  roles : List GoString
  scopes : List GoString
  organization : GoString

def hasRole (roles : List GoString) (target : GoString) : Bool :=
  roles.any fun r ↦ r = target

def canControl (claims : UserClaims) : Bool :=
  hasRole claims.roles (GoString.ofString "controller") ||
    hasRole claims.roles (GoString.ofString "supervisor") ||
    hasRole claims.roles (GoString.ofString "operator") ||
    hasRole claims.roles (GoString.ofString "admin")

def canObserve (claims : UserClaims) : Bool :=
  hasRole claims.roles (GoString.ofString "observer") || canControl claims

inductive VehiclePermission
  | observe
  | control
  | other (text : GoString)
  deriving DecidableEq

structure VehicleACL where
  userID : GoString
  tenantID : GoString
  vehicleID : GoString
  permissions : List VehiclePermission

/-- What `NewVehicleAuthorizer` asks of each entry. -/
def VehicleACL.Supported (entry : VehicleACL) : Prop :=
  entry.userID ≠ [] ∧ entry.vehicleID ≠ [] ∧ entry.permissions ≠ [] ∧
    ∀ p ∈ entry.permissions, p = .observe ∨ p = .control

instance (entry : VehicleACL) : Decidable entry.Supported :=
  inferInstanceAs (Decidable (_ ∧ _))

/-- An entry as `json.Unmarshal` reads it out of `VEHICLE_ACL_JSON`. -/
def VehicleACL.unmarshal (entry : VehicleACL) : VehicleACL :=
  { entry with
    userID := entry.userID.throughJSON
    tenantID := entry.tenantID.throughJSON
    vehicleID := entry.vehicleID.throughJSON }

/-- An authorizer read from the environment: its entries passed the constructor's checks and
their ids came out of JSON. -/
structure VehicleAuthorizer where
  entries : List VehicleACL
  supported : ∀ entry ∈ entries, entry.Supported
  validVehicleIDs : ∀ entry ∈ entries, entry.vehicleID.ValidUTF8
  validUserIDs : ∀ entry ∈ entries, entry.userID.ValidUTF8

/-- `NewVehicleAuthorizerFromEnvironment` over the decoded list; it refuses the whole list
for one bad entry. -/
def newVehicleAuthorizerFromEnvironment (decoded : List VehicleACL) : Option VehicleAuthorizer :=
  let entries := decoded.map VehicleACL.unmarshal
  if h : ∀ entry ∈ entries, entry.Supported then
    some
      { entries := entries
        supported := h
        validVehicleIDs := by
          intro entry hentry
          obtain ⟨d, -, rfl⟩ := List.mem_map.mp hentry
          exact GoString.validUTF8_throughJSON d.vehicleID
        validUserIDs := by
          intro entry hentry
          obtain ⟨d, -, rfl⟩ := List.mem_map.mp hentry
          exact GoString.validUTF8_throughJSON d.userID }
  else none

/-- The part of `Authorize` that looks at one entry. -/
def VehicleACL.grants (entry : VehicleACL) (claims : UserClaims) (vehicleID : GoString)
    (permission : VehiclePermission) : Bool :=
  entry.userID = claims.name && entry.vehicleID = vehicleID &&
    (entry.tenantID = [] || entry.tenantID = claims.organization) &&
    entry.permissions.any fun granted ↦
      granted = permission || (granted = .control && permission = .observe)

def VehicleAuthorizer.authorize (a : VehicleAuthorizer) (claims : UserClaims)
    (vehicleID : GoString) (permission : VehiclePermission) : Bool :=
  vehicleID ≠ [] && a.entries.any fun entry ↦ entry.grants claims vehicleID permission

/-- Whoever is authorized is named by the list, as is the vehicle. -/
theorem VehicleAuthorizer.entry_of_authorize {a : VehicleAuthorizer} {claims : UserClaims}
    {vehicleID : GoString} {permission : VehiclePermission}
    (h : a.authorize claims vehicleID permission = true) :
    ∃ entry ∈ a.entries, entry.userID = claims.name ∧ entry.vehicleID = vehicleID := by
  simp only [authorize, Bool.and_eq_true, List.any_eq_true] at h
  obtain ⟨-, entry, hentry, hgrants⟩ := h
  simp only [VehicleACL.grants, Bool.and_eq_true, decide_eq_true_eq] at hgrants
  exact ⟨entry, hentry, hgrants.1.1.1, hgrants.1.1.2⟩

theorem VehicleAuthorizer.validUTF8_of_authorize {a : VehicleAuthorizer} {claims : UserClaims}
    {vehicleID : GoString} {permission : VehiclePermission}
    (h : a.authorize claims vehicleID permission = true) : vehicleID.ValidUTF8 := by
  obtain ⟨entry, hentry, -, rfl⟩ := a.entry_of_authorize h
  exact a.validVehicleIDs entry hentry

theorem VehicleAuthorizer.validName_of_authorize {a : VehicleAuthorizer} {claims : UserClaims}
    {vehicleID : GoString} {permission : VehiclePermission}
    (h : a.authorize claims vehicleID permission = true) : claims.name.ValidUTF8 := by
  obtain ⟨entry, hentry, hname, -⟩ := a.entry_of_authorize h
  rw [← hname]
  exact a.validUserIDs entry hentry

/-- `VehicleIdentityResolver`: OAuth subjects registered for vehicles. -/
structure VehicleIdentityResolver where
  bySubject : List (GoString × GoString)

def VehicleIdentityResolver.resolve (r : VehicleIdentityResolver) (subject : GoString) :
    Option GoString :=
  r.bySubject.lookup subject

def VehicleIdentityResolver.strict (r : VehicleIdentityResolver) : Bool :=
  !r.bySubject.isEmpty

def vehicleSelfMatches (claims : UserClaims) (vehicleID : GoString)
    (identities : VehicleIdentityResolver) : Bool :=
  hasRole claims.roles (GoString.ofString "vehicle") &&
    (identities.resolve claims.name = some vehicleID ||
      (!identities.strict && claims.name = vehicleID))

inductive OperatorAccess
  | observer
  | controller
  deriving DecidableEq

end RemoteInfra.Gateway
