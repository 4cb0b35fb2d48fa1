import RemoteInfra.Console.SecureControlSender
import RemoteInfra.Library.Arena
import RemoteInfra.Library.TransitionSystem

/-!
# The operator's page

The script of `index.html` around `SecureControlSender`.  An event of the browser runs one
function up to its first await; what is left of it stays suspended until its answer comes, and
answers come in any order.  The texts, the classes and the disabled flags of the page are left
out: every event may happen at any time.
-/

namespace RemoteInfra.Console

open RemoteInfra.Library RemoteInfra.JavaScript RemoteInfra.Python

/-- A string that a condition takes for true. -/
def filled : Option JSString → Option JSString
  | some (unit :: units) => some (unit :: units)
  | _ => none

/-- What a button asks for. -/
inductive Press
  | highLevel (action : Action)
  | lowLevel (steering throttle brake : Number) (direction : Direction)

/-- In this order the properties are created; what is undefined is not there. -/
def Press.order : List Property := [.mode, .action, .steering, .throttle, .brake, .direction]

theorem Press.nodup_order : Press.order.Nodup := by decide

theorem Press.mem_order (p : Property) : p ∈ Press.order := by
  cases p <;> decide

def Press.command : Press → ControlCommand
  | .highLevel action =>
      { mode := .highLevel, action := some action, steering := none, throttle := none
        brake := none, direction := none
        order := Press.order, nodup := Press.nodup_order, complete := Press.mem_order }
  | .lowLevel steering throttle brake direction =>
      { mode := .lowLevel, action := none, steering := some steering, throttle := some throttle
        brake := some brake, direction := some direction
        order := Press.order, nodup := Press.nodup_order, complete := Press.mem_order }

def stop : ControlCommand := (Press.highLevel .stop).command

/-- The sender with what its requests and its renewals use. -/
structure ConsoleSender (Key : Type) extends SecureControlSender Key where
  publicKeyB64 : Option JSString
  renewTimer : Option ℕ
  vehicleID : JSString
  authToken : JSString

def ConsoleSender.new {Key : Type} (vehicleID authToken : JSString) : ConsoleSender Key where
  privateKey := none
  sessionID := none
  publishData := false
  sequence := ⟨0, SafeInteger.natAbs_zero_le⟩
  publicKeyB64 := none
  renewTimer := none
  vehicleID := vehicleID
  authToken := authToken

/-- The callback of an interval. -/
inductive Interval
  | sendActiveCommand
  | renew (sender : ℕ)
  deriving DecidableEq

/-- What is left of a function after an await, as far as it does more than log. -/
inductive Suspended (Key : Type)
  | generateKey (sender : ℕ)
  | exportKey (sender : ℕ)
  | keyPairCreated
  | acquireSession (sender : ℕ)
  | sessionAcquired (token : Option JSString)
  | observe
  | connect
  /-- an exception on its way to the `catch` of `startTeleop` -/
  | failing
  /-- the `catch` of `startTeleop`, once the control session is stopped -/
  | failed
  | sign (sent : SentCommand Key)
  | identity

inductive Answer (Key : Type)
  | failure
  | done
  | keyPair (privateKey : Key)
  | publicKey (publicKeyB64 : JSString)
  | session (sessionID token : Option JSString)
  | token (token : Option JSString)

/-- What leaves the page: the requests of the senders, the commands they sign, and what goes to
the room. -/
inductive PageEffect (Key : Type)
  | acquire (sender : ℕ) (vehicleID authToken : JSString) (publicKeyB64 : Option JSString)
  | renew (sender : ℕ) (sessionID : JSString)
  | release (sender : ℕ) (sessionID : JSString)
  | sign (sender : ℕ) (command : ControlCommand) (now : SafeInteger) (sent : SentCommand Key)
  | publish (room : ℕ) (message : PyStr)
  | connect (room : ℕ) (token : Option JSString)
  | disconnect (room : ℕ)
  | observe (vehicleID authToken : JSString)
  | identity (authToken : JSString)

structure TeleopPage (Key : Type) where
  currentRoom : Option ℕ
  canControl : Bool
  secureSender : Option ℕ
  accessToken : Option JSString
  activeCommandTimer : Option ℕ
  activeCommand : Option ControlCommand
  senders : Arena (ConsoleSender Key)
  intervals : Arena Interval
  suspended : Arena (Suspended Key)
  /-- how many rooms were made -/
  rooms : ℕ
  /-- everything that left the page so far -/
  effects : List (PageEffect Key)

namespace TeleopPage

variable {Key : Type}

/-- The page once it is loaded. -/
def initial : TeleopPage Key where
  currentRoom := none
  canControl := false
  secureSender := none
  accessToken := none
  activeCommandTimer := none
  activeCommand := none
  senders := .empty
  intervals := .empty
  suspended := .empty
  rooms := 0
  effects := []

def emit (p : TeleopPage Key) (e : PageEffect Key) : TeleopPage Key :=
  { p with effects := p.effects ++ [e] }

def suspend (p : TeleopPage Key) (rest : Suspended Key) : TeleopPage Key :=
  { p with suspended := p.suspended.add rest }

def modifySender (p : TeleopPage Key) (s : ℕ) (f : ConsoleSender Key → ConsoleSender Key) :
    TeleopPage Key :=
  { p with senders := p.senders.modify s f }

/-- `clearInterval`, if there is one. -/
def clearInterval (p : TeleopPage Key) : Option ℕ → TeleopPage Key
  | none => p
  | some id => { p with intervals := p.intervals.remove id }

/-! ## The methods of the sender that is numbered `s` -/

def stopRenewal (p : TeleopPage Key) (s : ℕ) : TeleopPage Key :=
  (p.clearInterval ((p.senders.get s).bind ConsoleSender.renewTimer)).modifySender s
    fun sender ↦ { sender with renewTimer := none }

def startRenewal (p : TeleopPage Key) (s : ℕ) : TeleopPage Key :=
  match p.senders.get s with
  | none => p
  | some _ =>
      let stopped := p.stopRenewal s
      { stopped with intervals := stopped.intervals.add (.renew s) }.modifySender s
        fun sender ↦ { sender with renewTimer := some stopped.intervals.next }

/-- The session that the sender controls. -/
def sessionOf (p : TeleopPage Key) (s : ℕ) : Option JSString :=
  filled ((p.senders.get s).bind fun sender ↦ sender.sessionID)

def renew (p : TeleopPage Key) (s : ℕ) : TeleopPage Key :=
  match p.sessionOf s with
  | none => p
  | some sessionID => p.emit (.renew s sessionID)

def release (p : TeleopPage Key) (s : ℕ) : TeleopPage Key :=
  let stopped := p.stopRenewal s
  match stopped.sessionOf s with
  | none => stopped
  | some sessionID =>
      (stopped.modifySender s fun sender ↦ { sender with sessionID := none }).emit
        (.release s sessionID)

/-- `acquireSession` up to its request. -/
def acquireSession (p : TeleopPage Key) (s : ℕ) : TeleopPage Key :=
  match p.senders.get s with
  | none => p
  | some sender =>
      (p.emit (.acquire s sender.vehicleID sender.authToken sender.publicKeyB64)).suspend
        (.acquireSession s)

/-- `sendCommand` of the sender; the error that it throws is only logged. -/
def signCommand (p : TeleopPage Key) (sign : Key → JSString → JSString) (s : ℕ)
    (command : ControlCommand) (now : SafeInteger) : TeleopPage Key :=
  match p.senders.get s with
  | none => p
  | some sender =>
      match sender.toSecureControlSender.sendCommand sign command now with
      | .error _ => p
      | .ok sent =>
          (p.modifySender s fun sender ↦ { sender with sequence := sent.sender.sequence }).emit
            (.sign s command now sent) |>.suspend (.sign sent)

/-! ## The functions of the page -/

def sendCommand (p : TeleopPage Key) (sign : Key → JSString → JSString) (command : ControlCommand)
    (now : SafeInteger) : TeleopPage Key :=
  match p.canControl, p.secureSender with
  | true, some s => p.signCommand sign s command now
  | _, _ => p

/-- The timer and the command that it repeats are forgotten. -/
def clearActiveCommand (p : TeleopPage Key) : TeleopPage Key :=
  { p.clearInterval p.activeCommandTimer with activeCommandTimer := none, activeCommand := none }

/-- `stopControlSession` up to the request that releases the session. -/
def stopControlSession (p : TeleopPage Key) : TeleopPage Key :=
  let stopped := { p with secureSender := none, canControl := false }.clearActiveCommand
  match p.secureSender with
  | none => stopped
  | some s => stopped.release s

def checkLoginState (p : TeleopPage Key) : TeleopPage Key :=
  match filled p.accessToken with
  | none => p
  | some token => (p.emit (.identity token)).suspend .identity

/-- `dev` tells whether the page prompts for a token; else a sign-in leaves the page. -/
def handleAuth (p : TeleopPage Key) (dev : Bool) (prompted : Option JSString) : TeleopPage Key :=
  match filled p.accessToken with
  | some _ => { p with accessToken := none }.stopControlSession
  | none =>
      match dev, filled prompted with
      | true, some token => { p with accessToken := some token }.checkLoginState
      | _, _ => p

def stopTeleop (p : TeleopPage Key) : TeleopPage Key :=
  match p.currentRoom with
  | none => p.stopControlSession
  | some room => ({ p with currentRoom := none }.emit (.disconnect room)).stopControlSession

/-- `startTeleop` up to its first await; `controller` tells whether control is asked for. -/
def startTeleop (p : TeleopPage Key) (controller : Bool) (vehicleID : JSString) :
    TeleopPage Key :=
  match filled p.accessToken with
  | none => p
  | some token =>
      if controller then
        { p with
          secureSender := some p.senders.next
          senders := p.senders.add (.new vehicleID token) }.suspend
            (.generateKey p.senders.next)
      else (p.emit (.observe vehicleID token)).suspend .observe

/-- The `catch` of `startTeleop` up to its await. -/
def catchFailure (p : TeleopPage Key) : TeleopPage Key := p.stopControlSession.suspend .failed

/-- `startTeleop` from its answer on: a room is made and connected to. -/
def joinRoom (p : TeleopPage Key) (token : Option JSString) : TeleopPage Key :=
  ({ p with currentRoom := some p.rooms, rooms := p.rooms + 1 }.emit
    (.connect p.rooms token)).suspend .connect

/-- `startTeleop` once the room is connected. -/
def roomConnected (p : TeleopPage Key) : TeleopPage Key :=
  if p.canControl then
    match p.secureSender with
    | none => p.catchFailure
    | some s =>
        (p.modifySender s fun sender ↦ { sender with publishData := true }).startRenewal s
  else p

def endCommand (p : TeleopPage Key) (sign : Key → JSString → JSString) (now : SafeInteger) :
    TeleopPage Key :=
  p.clearActiveCommand.sendCommand sign stop now

def beginCommand (p : TeleopPage Key) (sign : Key → JSString → JSString) (command : ControlCommand)
    (ended begun : SafeInteger) : TeleopPage Key :=
  let ended := p.endCommand sign ended
  let sent := { ended with activeCommand := some command }.sendCommand sign command begun
  { sent with
    intervals := sent.intervals.add .sendActiveCommand
    activeCommandTimer := some sent.intervals.next }

def setCommandMode (p : TeleopPage Key) (sign : Key → JSString → JSString) (mode : JSString)
    (now : SafeInteger) : TeleopPage Key :=
  if mode ≠ text Mode.highLevel.name ∧ mode ≠ text Mode.lowLevel.name then p
  else if p.activeCommandTimer.isSome then p.endCommand sign now
  else p

/-- A command that is null still counts before its mode is read. -/
def sendNull (p : TeleopPage Key) (s : ℕ) : TeleopPage Key :=
  p.modifySender s fun sender ↦
    if sender.privateKey.isSome ∧ (filled sender.sessionID).isSome ∧ sender.publishData then
      { sender with sequence := sender.sequence.increment }
    else sender

/-- The callback of an interval. -/
def tick (p : TeleopPage Key) (sign : Key → JSString → JSString) (now : SafeInteger) :
    Interval → TeleopPage Key
  | .renew s => p.renew s
  | .sendActiveCommand =>
      match p.activeCommand with
      | some command => p.sendCommand sign command now
      | none =>
          match p.canControl, p.secureSender with
          | true, some s => p.sendNull s
          | _, _ => p

/-- What is left of a function runs on with its answer; any other counts as a failure. -/
def resume (p : TeleopPage Key) : Suspended Key → Answer Key → TeleopPage Key
  | .generateKey s, .keyPair privateKey =>
      (p.modifySender s fun sender ↦ { sender with privateKey := some privateKey }).suspend
        (.exportKey s)
  | .exportKey s, .publicKey publicKeyB64 =>
      (p.modifySender s fun sender ↦ { sender with publicKeyB64 := some publicKeyB64 }).suspend
        .keyPairCreated
  | .keyPairCreated, _ =>
      match p.secureSender with
      | none => p.catchFailure
      | some s => p.acquireSession s
  | .acquireSession s, .session sessionID token =>
      (p.modifySender s fun sender ↦ { sender with sessionID := sessionID }).suspend
        (.sessionAcquired token)
  | .sessionAcquired token, _ => { p with canControl := true }.joinRoom token
  | .observe, .token token => { p with canControl := false }.joinRoom token
  | .connect, .done => p.roomConnected
  | .generateKey _, _ | .exportKey _, _ | .acquireSession _, _ => p.suspend .failing
  | .observe, _ | .connect, _ | .failing, _ => p.catchFailure
  | .failed, _ =>
      match p.currentRoom with
      | none => p
      | some room => { p with currentRoom := none }.emit (.disconnect room)
  | .sign sent, .done =>
      match p.currentRoom with
      | none => p
      | some room => p.emit (.publish room sent.published)
  | .identity, .failure => { p with accessToken := none }
  | .sign _, _ | .identity, _ => p

end TeleopPage

/-- What may happen to the page. -/
inductive PageEvent (Key : Type)
  /-- the sign-in has brought a token -/
  | signedIn (token : JSString)
  | checkLoginState
  | handleAuth (prompted : Option JSString)
  | startTeleop (vehicleID : JSString)
  | stopTeleop
  | send (press : Press) (now : SafeInteger)
  | beginCommand (press : Press) (ended begun : SafeInteger)
  | endCommand (now : SafeInteger)
  | setCommandMode (mode : JSString) (now : SafeInteger)
  | pagehide
  /-- a room says that it is disconnected -/
  | disconnected
  | interval (id : ℕ) (now : SafeInteger)
  | resume (i : ℕ) (answer : Answer Key)

/-- What the page is opened with. -/
structure PageConfig (Key : Type) where
  /-- the signature of a text in base64 -/
  sign : Key → JSString → JSString
  dev : Bool
  controller : Bool

def TeleopPage.handle {Key : Type} (config : PageConfig Key) (p : TeleopPage Key) :
    PageEvent Key → TeleopPage Key
  | .signedIn token => { p with accessToken := some token }
  | .checkLoginState => p.checkLoginState
  | .handleAuth prompted => p.handleAuth config.dev prompted
  | .startTeleop vehicleID => p.startTeleop config.controller vehicleID
  | .stopTeleop => p.stopTeleop
  | .send press now => p.sendCommand config.sign press.command now
  | .beginCommand press ended begun => p.beginCommand config.sign press.command ended begun
  | .endCommand now => p.endCommand config.sign now
  | .setCommandMode mode now => p.setCommandMode config.sign mode now
  | .pagehide => if p.secureSender.isSome then p.stopControlSession else p
  | .disconnected => { p.stopControlSession with currentRoom := none }
  | .interval id now =>
      match p.intervals.get id with
      | none => p
      | some callback => p.tick config.sign now callback
  | .resume i answer =>
      match p.suspended.get i with
      | none => p
      | some rest => { p with suspended := p.suspended.remove i }.resume rest answer

def teleopSystem {Key : Type} (config : PageConfig Key) :
    TransitionSystem (TeleopPage Key) (PageEvent Key) where
  Init p := p = .initial
  Step p e p' := p' = p.handle config e

end RemoteInfra.Console
