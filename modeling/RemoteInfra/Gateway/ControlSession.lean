import RemoteInfra.Gateway.Redis

/-!
# The control lease store

`control_lease.go` and `control_session.go`: acquiring, reading, renewing and releasing the
lease of a vehicle, as programs of Redis commands.
-/

namespace RemoteInfra.Gateway

open RemoteInfra.Library

/-- The errors a caller of the store can tell apart; every other one is wrapped. -/
inductive ControlSessionError
  | leaseHeld
  | sessionNotFound
  | sessionOwner
  | wrapped
  deriving DecidableEq

/-- `ttl` in milliseconds, as `ttl.Milliseconds()` gives it. -/
structure ControlLeaseStore where
  ttl : ℤ

namespace ControlLeaseStore

def acquireControlSession (s : ControlLeaseStore) (session : ControlSession) :
    GatewayProgram (Except ControlSessionError Unit) := do
  let payload := session.marshal
  match ← runRedis (.acquireScript session.vehicleID session.sessionID payload s.ttl
      session.vehicleID) with
  | .error _ => return .error .wrapped
  | .ok result => return if result = 0 then .error .leaseHeld else .ok ()

def getControlSession (vehicleID : GoString) :
    GatewayProgram (Except ControlSessionError ControlSession) := do
  match ← runRedis (.get (.controlLease vehicleID)) with
  | .error _ => return .error .wrapped
  | .ok none => return .error .sessionNotFound
  | .ok (some raw) =>
      match raw.unmarshal with
      | none => return .error .wrapped
      | some session => return .ok session

def getSessionByID (sessionID : GoString) :
    GatewayProgram (Except ControlSessionError ControlSession) := do
  match ← runRedis (.get (.controlSessionIndex sessionID)) with
  | .error _ => return .error .wrapped
  | .ok none => return .error .sessionNotFound
  | .ok (some vehicleID) =>
      match ← getControlSession vehicleID with
      | .error e => return .error e
      | .ok session =>
          if session.sessionID ≠ sessionID then return .error .sessionNotFound
          else return .ok session

def renewControlSession (s : ControlLeaseStore) (sessionID operatorID : GoString) :
    GatewayProgram (Except ControlSessionError ControlSession) := do
  match ← getSessionByID sessionID with
  | .error e => return .error e
  | .ok session =>
      if session.operatorID ≠ operatorID then return .error .sessionOwner
      else
        let now ← timeNow
        let expiresAt := now + s.ttl
        match ← runRedis (.renewScript session.vehicleID sessionID sessionID operatorID
            expiresAt s.ttl session.vehicleID) with
        | .error _ => return .error .wrapped
        | .ok result =>
            if result = 0 then return .error .sessionNotFound
            else if result < 0 then return .error .sessionOwner
            else return .ok { session with expiresAtMS := expiresAt }

def releaseControlSession (sessionID operatorID : GoString) :
    GatewayProgram (Except ControlSessionError Unit) := do
  match ← getSessionByID sessionID with
  | .error e => return .error e
  | .ok session =>
      if session.operatorID ≠ operatorID then return .error .sessionOwner
      else
        match ← runRedis (.releaseScript session.vehicleID sessionID sessionID operatorID) with
        | .error _ => return .error .wrapped
        | .ok result =>
            if result = 0 then return .error .sessionNotFound
            else if result < 0 then return .error .sessionOwner
            else return .ok ()

section Asking

open Program

variable {allowed : Effect → Prop}

theorem onlyAsks_getControlSession (hget : ∀ k, allowed (.redis (.get k)))
    (vehicleID : GoString) : OnlyAsks allowed (getControlSession vehicleID) := by
  refine onlyAsks_runRedis_bind (hget _) fun reply ↦ ?_
  rcases reply with error | _ | raw
  · exact OnlyAsks.pure _
  · exact OnlyAsks.pure _
  · dsimp only
    cases raw.unmarshal <;> exact OnlyAsks.pure _

theorem onlyAsks_getSessionByID (hget : ∀ k, allowed (.redis (.get k)))
    (sessionID : GoString) : OnlyAsks allowed (getSessionByID sessionID) := by
  refine onlyAsks_runRedis_bind (hget _) fun reply ↦ ?_
  rcases reply with error | _ | vehicleID
  · exact OnlyAsks.pure _
  · exact OnlyAsks.pure _
  · refine (onlyAsks_getControlSession hget vehicleID).bind fun result ↦ ?_
    rcases result with error | session
    · exact OnlyAsks.pure _
    · dsimp only
      split_ifs <;> exact OnlyAsks.pure _

theorem onlyAsks_acquireControlSession {s : ControlLeaseStore} {session : ControlSession}
    (h : allowed (.redis (.acquireScript session.vehicleID session.sessionID session.marshal
      s.ttl session.vehicleID))) : OnlyAsks allowed (s.acquireControlSession session) := by
  refine onlyAsks_runRedis_bind h fun reply ↦ ?_
  rcases reply with error | result <;> exact OnlyAsks.pure _

/-- A renewal reads, looks at the clock, and runs only scripts with its own session id and
operator. -/
theorem onlyAsks_renewControlSession {s : ControlLeaseStore} {sessionID operatorID : GoString}
    (hget : ∀ k, allowed (.redis (.get k))) (hnow : allowed .timeNow)
    (hscript : ∀ vehicleID expiresAt, allowed (.redis (.renewScript vehicleID sessionID sessionID
      operatorID expiresAt s.ttl vehicleID))) :
    OnlyAsks allowed (s.renewControlSession sessionID operatorID) := by
  refine (onlyAsks_getSessionByID hget sessionID).bind fun result ↦ ?_
  rcases result with error | session
  · exact OnlyAsks.pure _
  · dsimp only
    split_ifs
    · exact OnlyAsks.pure _
    · refine onlyAsks_timeNow_bind hnow fun now ↦
        onlyAsks_runRedis_bind (hscript _ _) fun reply ↦ ?_
      rcases reply with error | result
      · exact OnlyAsks.pure _
      · dsimp only
        split_ifs <;> exact OnlyAsks.pure _

theorem onlyAsks_releaseControlSession {sessionID operatorID : GoString}
    (hget : ∀ k, allowed (.redis (.get k)))
    (hscript : ∀ vehicleID, allowed (.redis (.releaseScript vehicleID sessionID sessionID
      operatorID))) :
    OnlyAsks allowed (releaseControlSession sessionID operatorID) := by
  refine (onlyAsks_getSessionByID hget sessionID).bind fun result ↦ ?_
  rcases result with error | session
  · exact OnlyAsks.pure _
  · dsimp only
    split_ifs
    · exact OnlyAsks.pure _
    · refine onlyAsks_runRedis_bind (hscript _) fun reply ↦ ?_
      rcases reply with error | result
      · exact OnlyAsks.pure _
      · dsimp only
        split_ifs <;> exact OnlyAsks.pure _

end Asking

end ControlLeaseStore

end RemoteInfra.Gateway
