import RemoteInfra.Gateway.Redis

/-!
# The video session store

`video_session.go`: who watches a vehicle's video and who controls it, in one record that
every operation reads, changes and writes back.
-/

namespace RemoteInfra.Gateway

open RemoteInfra.Library

/-- The errors a caller of the store can tell apart; every other one is wrapped. -/
inductive VideoSessionError
  | sessionNotFound
  | wrapped
  deriving DecidableEq

/-- `gracePeriod` in milliseconds. -/
structure VideoSessionStore where
  gracePeriod : ℤ

/-- 24 hours. -/
def videoSessionTTL : ℤ := 24 * 60 * 60 * 1000

namespace VideoSessionStore

/-- A session without an expiry gets one. -/
def stamped (session : VideoSession) : GatewayProgram VideoSession := do
  if session.expiresAtMS = 0 then
    let now ← timeNow
    return { session with expiresAtMS := now + videoSessionTTL }
  else return session

def save (session : VideoSession) : GatewayProgram (Except VideoSessionError Unit) := do
  let session ← stamped session
  match ← runRedis (.set (.videoSession session.vehicleID) session.marshal videoSessionTTL) with
  | .error _ => return .error .wrapped
  | .ok _ => return .ok ()

/-- `session, s.save(ctx, session)`. -/
def andSave (session : VideoSession) :
    GatewayProgram (Except VideoSessionError VideoSession) := do
  match ← save session with
  | .error e => return .error e
  | .ok _ => return .ok session

/-- What a vehicle without a record has. -/
def standbySession (vehicleID : GoString) (now : ℤ) : VideoSession where
  vehicleID := vehicleID
  sessionID := []
  mode := .standby
  viewerCount := 0
  controllerSessionID := []
  graceDeadlineMS := 0
  createdAtMS := now
  expiresAtMS := now

/-- Whether nobody watches or controls and a grace period is running. -/
def inGrace (session : VideoSession) : Bool :=
  session.mode = .active && session.viewerCount = 0 && session.controllerSessionID = [] &&
    0 < session.graceDeadlineMS

def get (vehicleID : GoString) : GatewayProgram (Except VideoSessionError VideoSession) := do
  match ← runRedis (.get (.videoSession vehicleID)) with
  | .error _ => return .error .wrapped
  | .ok none =>
      let now ← timeNow
      return .ok (standbySession vehicleID now)
  | .ok (some session) =>
      if inGrace session then
        let now ← timeNow
        if now ≥ session.graceDeadlineMS then
          andSave { session with mode := .standby, graceDeadlineMS := 0 }
        else return .ok session
      else return .ok session

/-- A session without an id gets one. -/
def named (session : VideoSession) : GatewayProgram VideoSession := do
  if session.sessionID = [] then
    let sessionID ← newUUID
    let now ← timeNow
    return { session with sessionID := sessionID, createdAtMS := now }
  else return session

def acquireViewer (s : VideoSessionStore) (vehicleID : GoString) :
    GatewayProgram (Except VideoSessionError VideoSession) := do
  match ← get vehicleID with
  | .error e => return .error e
  | .ok session =>
      let session ← named session
      let session :=
        { session with
          viewerCount := session.viewerCount + 1
          mode := .active
          graceDeadlineMS := 0 }
      match ← save session with
      | .error e => return .error e
      | .ok _ =>
          match ← runRedis (.set (.videoViewer session.sessionID) vehicleID
              (s.gracePeriod + 60 * 60 * 1000)) with
          | .error _ => return .error .wrapped
          | .ok _ => return .ok session

def saveAfterViewerChange (s : VideoSessionStore) (session : VideoSession) :
    GatewayProgram (Except VideoSessionError VideoSession) := do
  if session.viewerCount = 0 ∧ session.controllerSessionID = [] then
    let now ← timeNow
    andSave { session with mode := .active, graceDeadlineMS := now + s.gracePeriod }
  else andSave session

def releaseViewer (s : VideoSessionStore) (sessionID : GoString) :
    GatewayProgram (Except VideoSessionError VideoSession) := do
  match ← runRedis (.get (.videoViewer sessionID)) with
  | .error _ => return .error .wrapped
  | .ok none => return .error .sessionNotFound
  | .ok (some vehicleID) =>
      match ← get vehicleID with
      | .error e => return .error e
      | .ok session =>
          let _ ← runRedis (.del (.videoViewer sessionID))
          s.saveAfterViewerChange
            { session with
              viewerCount :=
                if session.viewerCount > 0 then session.viewerCount - 1
                else session.viewerCount }

def setController (vehicleID controlSessionID : GoString) :
    GatewayProgram (Except VideoSessionError VideoSession) := do
  match ← get vehicleID with
  | .error e => return .error e
  | .ok session =>
      let session ← named session
      andSave
        { session with
          controllerSessionID := controlSessionID
          mode := .active
          graceDeadlineMS := 0 }

def clearController (s : VideoSessionStore) (vehicleID controlSessionID : GoString) :
    GatewayProgram (Except VideoSessionError VideoSession) := do
  match ← get vehicleID with
  | .error e => return .error e
  | .ok session =>
      s.saveAfterViewerChange
        { session with
          controllerSessionID :=
            if session.controllerSessionID = controlSessionID then []
            else session.controllerSessionID }

end VideoSessionStore

end RemoteInfra.Gateway
