import RemoteInfra.Console.TeleopPage

/-!
# The moves of the operator's page

An event does a few moves, and each of them does little: it keeps the timers known to whoever has
to clear them, and it sends out only what is listed here.
-/

namespace RemoteInfra.Console

open RemoteInfra.Library RemoteInfra.JavaScript RemoteInfra.Python

variable {Key : Type} {config : PageConfig Key}

/-! ## What an event may do -/

/-- The sender that an effect is of. -/
def PageEffect.sender : PageEffect Key → Option ℕ
  | .acquire s _ _ _ | .renew s _ | .release s _ | .sign s _ _ _ => some s
  | _ => none

/-- The event itself asks for the command. -/
def PageEvent.Asks (command : ControlCommand) : PageEvent Key → Prop
  | .send press _ => command = press.command
  | .beginCommand press _ _ => command = stop ∨ command = press.command
  | .endCommand _ | .setCommandMode _ _ => command = stop
  | _ => False

/-- The event sends the command, or repeats it for the button that is held. -/
def PageEvent.Sends (p : TeleopPage Key) (command : ControlCommand) (e : PageEvent Key) : Prop :=
  e.Asks command ∨
    ∃ id now, e = .interval id now ∧ p.intervals.get id = some .sendActiveCommand ∧
      p.activeCommand = some command

/-- The event is that a button is held from now on. -/
def PageEvent.Holds (command : ControlCommand) : PageEvent Key → Prop
  | .beginCommand press _ _ => command = press.command
  | _ => False

/-- Whatever button was held is held no more. -/
def PageEvent.LetsGo : PageEvent Key → Prop
  | .beginCommand _ _ _ | .endCommand _ | .stopTeleop | .disconnected => True
  | .setCommandMode mode _ => mode = text Mode.highLevel.name ∨ mode = text Mode.lowLevel.name
  | _ => False

namespace TeleopPage

/-- What an event that found the page `p₀` may do on its way. -/
inductive Move (config : PageConfig Key) (e : PageEvent Key) (p₀ : TeleopPage Key) :
    TeleopPage Key → TeleopPage Key → Prop
  | stopControlSession (p : TeleopPage Key) : Move config e p₀ p p.stopControlSession
  | clearActiveCommand (p : TeleopPage Key) : Move config e p₀ p p.clearActiveCommand
  | hold (p : TeleopPage Key) {command : ControlCommand} :
      e.Holds command → Move config e p₀ p { p with activeCommand := some command }
  | startTimer {p : TeleopPage Key} {command : ControlCommand} :
      e.Holds command → p.activeCommandTimer = none → p.activeCommand = some command →
        Move config e p₀ p
          { p with
            intervals := p.intervals.add .sendActiveCommand
            activeCommandTimer := some p.intervals.next }
  | sign {p : TeleopPage Key} {s : ℕ} {command : ControlCommand} (now : SafeInteger) :
      p₀.canControl = true → p₀.secureSender = some s → p.secureSender = some s →
        e.Sends p₀ command → Move config e p₀ p (p.signCommand config.sign s command now)
  | publish {p : TeleopPage Key} {i : ℕ} {sent : SentCommand Key} (room : ℕ) :
      p₀.suspended.get i = some (.sign sent) →
        Move config e p₀ p (p.emit (.publish room sent.published))
  | newSender (p : TeleopPage Key) (vehicleID : JSString) (token : JSString) :
      e = .startTeleop vehicleID →
        Move config e p₀ p
          { p with
            secureSender := some p.senders.next
            senders := p.senders.add (.new vehicleID token) }
  | acquireSession {p : TeleopPage Key} {s : ℕ} :
      p.secureSender = some s → Move config e p₀ p (p.acquireSession s)
  | startRenewal {p : TeleopPage Key} {s : ℕ} :
      p.secureSender = some s → Move config e p₀ p (p.startRenewal s)
  | renew {p : TeleopPage Key} {id s : ℕ} :
      p.intervals.get id = some (.renew s) → Move config e p₀ p (p.renew s)
  | setSender (p : TeleopPage Key) (s : ℕ) {f : ConsoleSender Key → ConsoleSender Key} :
      (∀ x, (f x).renewTimer = x.renewTimer ∧ (f x).sequence = x.sequence) →
        Move config e p₀ p (p.modifySender s f)
  | emit (p : TeleopPage Key) {x : PageEffect Key} :
      x.sender = none → (∀ room message, x ≠ .publish room message) → Move config e p₀ p (p.emit x)
  | suspend (p : TeleopPage Key) {rest : Suspended Key} :
      (∀ sent, rest ≠ .sign sent) → Move config e p₀ p (p.suspend rest)
  | other {p p' : TeleopPage Key} :
      p'.secureSender = p.secureSender → p'.activeCommandTimer = p.activeCommandTimer →
        p'.activeCommand = p.activeCommand → p'.senders = p.senders →
          p'.intervals = p.intervals → p'.effects = p.effects →
            (∀ i rest, p'.suspended.get i = some rest → p.suspended.get i = some rest) →
              Move config e p₀ p p'

/-- The moves of an event, from the page that it found. -/
abbrev Moves (config : PageConfig Key) (e : PageEvent Key) (p₀ : TeleopPage Key) :
    TeleopPage Key → TeleopPage Key → Prop :=
  Relation.ReflTransGen (Move config e p₀)

section Functions

variable {p p₀ : TeleopPage Key} {e : PageEvent Key} {sign : Key → JSString → JSString} {s : ℕ}
  {command : ControlCommand} {now : SafeInteger}

/-! ### What signing leaves alone -/

theorem signCommand_cases (p : TeleopPage Key) (sign : Key → JSString → JSString) (s : ℕ)
    (command : ControlCommand) (now : SafeInteger) :
    p.signCommand sign s command now = p ∨
      ∃ sender sent, p.senders.get s = some sender ∧
        sender.toSecureControlSender.sendCommand sign command now = .ok sent ∧
          p.signCommand sign s command now =
            ((p.modifySender s fun sender ↦ { sender with sequence := sent.sender.sequence }).emit
              (.sign s command now sent)).suspend (.sign sent) := by
  cases hsender : p.senders.get s with
  | none => exact .inl (by simp only [signCommand, hsender])
  | some sender =>
      cases hsent : sender.toSecureControlSender.sendCommand sign command now with
      | error _ => exact .inl (by simp only [signCommand, hsender, hsent])
      | ok sent => exact .inr ⟨sender, sent, rfl, hsent, by simp only [signCommand, hsender, hsent]⟩

/-- Signing changes the sender's sequence, what is suspended and what left the page. -/
structure Signs (p p' : TeleopPage Key) : Prop where
  canControl : p'.canControl = p.canControl
  secureSender : p'.secureSender = p.secureSender
  activeCommandTimer : p'.activeCommandTimer = p.activeCommandTimer
  activeCommand : p'.activeCommand = p.activeCommand

theorem Signs.refl (p : TeleopPage Key) : Signs p p := ⟨rfl, rfl, rfl, rfl⟩

theorem signs_signCommand : Signs p (p.signCommand sign s command now) := by
  obtain heq | ⟨sender, sent, -, -, heq⟩ := signCommand_cases p sign s command now
  · rw [heq]
    exact .refl p
  · rw [heq]
    exact ⟨rfl, rfl, rfl, rfl⟩

theorem sendCommand_cases (p : TeleopPage Key) (sign : Key → JSString → JSString)
    (command : ControlCommand) (now : SafeInteger) :
    p.sendCommand sign command now = p ∨
      ∃ s, p.canControl = true ∧ p.secureSender = some s ∧
        p.sendCommand sign command now = p.signCommand sign s command now := by
  unfold sendCommand
  split
  · exact .inr ⟨_, ‹_›, ‹_›, rfl⟩
  · exact .inl rfl

theorem signs_sendCommand : Signs p (p.sendCommand sign command now) := by
  obtain heq | ⟨s, -, -, heq⟩ := sendCommand_cases p sign command now
  · rw [heq]
    exact .refl p
  · rw [heq]
    exact signs_signCommand

/-! ### The moves of each function -/

theorem moves_sendCommand (hcontrol : p.canControl = p₀.canControl)
    (hsender : p.secureSender = p₀.secureSender) (hsends : e.Sends p₀ command) :
    Moves config e p₀ p (p.sendCommand config.sign command now) := by
  obtain heq | ⟨s, hcan, hcurrent, heq⟩ := sendCommand_cases p config.sign command now
  · rw [heq]
  · rw [heq]
    exact .single (.sign now (hcontrol ▸ hcan) (hsender ▸ hcurrent) hcurrent hsends)

theorem clearActiveCommand_canControl : p.clearActiveCommand.canControl = p.canControl := by
  unfold clearActiveCommand
  cases p.activeCommandTimer <;> rfl

theorem clearActiveCommand_secureSender :
    p.clearActiveCommand.secureSender = p.secureSender := by
  unfold clearActiveCommand
  cases p.activeCommandTimer <;> rfl

theorem moves_endCommand (hsends : e.Sends p stop) :
    Moves config e p p (p.endCommand config.sign now) :=
  .trans (.single (.clearActiveCommand p))
    (moves_sendCommand clearActiveCommand_canControl clearActiveCommand_secureSender hsends)

theorem signs_endCommand : Signs p.clearActiveCommand (p.endCommand sign now) :=
  signs_sendCommand

theorem moves_beginCommand {ended begun : SafeInteger} (hstop : e.Sends p stop)
    (hcommand : e.Sends p command) (hholds : e.Holds command) :
    Moves config e p p (p.beginCommand config.sign command ended begun) := by
  have hended : Signs p.clearActiveCommand (p.endCommand config.sign ended) := signs_endCommand
  let held := { p.endCommand config.sign ended with activeCommand := some command }
  have hheld : Moves config e p p held := .tail (moves_endCommand hstop) (.hold _ hholds)
  have hcontrol : held.canControl = p.canControl :=
    hended.canControl.trans clearActiveCommand_canControl
  have hsender : held.secureSender = p.secureSender :=
    hended.secureSender.trans clearActiveCommand_secureSender
  have hsent : Signs held (held.sendCommand config.sign command begun) := signs_sendCommand
  have hidle : held.activeCommandTimer = none := hended.activeCommandTimer
  have hsent' : Moves config e p p (held.sendCommand config.sign command begun) :=
    hheld.trans (moves_sendCommand hcontrol hsender hcommand)
  exact hsent'.tail (.startTimer hholds (hsent.activeCommandTimer.trans hidle) hsent.activeCommand)

theorem moves_setCommandMode {mode : JSString} (hsends : e.Sends p stop) :
    Moves config e p p (p.setCommandMode config.sign mode now) := by
  unfold setCommandMode
  split_ifs
  · exact .refl
  · exact moves_endCommand hsends
  · exact .refl

theorem moves_checkLoginState : Moves config e p₀ p p.checkLoginState := by
  unfold checkLoginState
  split
  · exact .refl
  · exact .tail (.single (.emit p rfl (by simp))) (.suspend _ (by simp))

theorem moves_handleAuth {prompted : Option JSString} :
    Moves config e p₀ p (p.handleAuth config.dev prompted) := by
  unfold handleAuth
  split
  · refine .tail ?_ (.stopControlSession _)
    exact .single (.other rfl rfl rfl rfl rfl rfl fun _ _ h ↦ h)
  · split
    · refine .trans ?_ moves_checkLoginState
      exact .single (.other rfl rfl rfl rfl rfl rfl fun _ _ h ↦ h)
    · exact .refl

theorem moves_stopTeleop : Moves config e p₀ p p.stopTeleop := by
  unfold stopTeleop
  split
  · exact .single (.stopControlSession p)
  · have hleft : Move config e p₀ p { p with currentRoom := none } :=
      .other rfl rfl rfl rfl rfl rfl fun _ _ h ↦ h
    exact .tail (.tail (.single hleft) (.emit _ rfl (by simp))) (.stopControlSession _)

theorem moves_startTeleop {controller : Bool} {vehicleID : JSString}
    (he : e = .startTeleop vehicleID) :
    Moves config e p₀ p (p.startTeleop controller vehicleID) := by
  unfold startTeleop
  split
  · exact .refl
  · split_ifs
    · exact .tail (.single (.newSender p vehicleID _ he)) (.suspend _ (by simp))
    · exact .tail (.single (.emit p rfl (by simp))) (.suspend _ (by simp))

theorem moves_catchFailure : Moves config e p₀ p p.catchFailure :=
  .tail (.single (.stopControlSession p)) (.suspend _ (by simp))

theorem moves_joinRoom {token : Option JSString} : Moves config e p₀ p (p.joinRoom token) := by
  have hroom : Move config e p₀ p { p with currentRoom := some p.rooms, rooms := p.rooms + 1 } :=
    .other rfl rfl rfl rfl rfl rfl fun _ _ h ↦ h
  exact .tail (.tail (.single hroom) (.emit _ rfl (by simp))) (.suspend _ (by simp))

theorem moves_roomConnected : Moves config e p₀ p p.roomConnected := by
  unfold roomConnected
  split_ifs
  · split
    · exact moves_catchFailure
    · refine .tail ?_ (.startRenewal ‹_›)
      exact .single (.setSender p _ fun _ ↦ ⟨rfl, rfl⟩)
  · exact .refl

theorem moves_leaveRoom {room : ℕ} :
    Moves config e p₀ p ({ p with currentRoom := none }.emit (.disconnect room)) := by
  have hleft : Move config e p₀ p { p with currentRoom := none } :=
    .other rfl rfl rfl rfl rfl rfl fun _ _ h ↦ h
  exact .tail (.single hleft) (.emit _ rfl (by simp))

theorem moves_setSender {f : ConsoleSender Key → ConsoleSender Key} {rest : Suspended Key}
    (hf : ∀ x, (f x).renewTimer = x.renewTimer ∧ (f x).sequence = x.sequence)
    (hrest : ∀ sent, rest ≠ .sign sent) :
    Moves config e p₀ p ((p.modifySender s f).suspend rest) :=
  .tail (.single (.setSender p s hf)) (.suspend _ hrest)

theorem moves_resume {rest : Suspended Key} {i : ℕ} (hrest : p₀.suspended.get i = some rest)
    (answer : Answer Key) : Moves config e p₀ p (p.resume rest answer) := by
  unfold TeleopPage.resume
  split
  · apply moves_setSender <;> simp
  · apply moves_setSender <;> simp
  · split
    · exact moves_catchFailure
    · exact .single (.acquireSession ‹_›)
  · apply moves_setSender <;> simp
  · refine .trans ?_ moves_joinRoom
    exact .single (.other rfl rfl rfl rfl rfl rfl fun _ _ h ↦ h)
  · refine .trans ?_ moves_joinRoom
    exact .single (.other rfl rfl rfl rfl rfl rfl fun _ _ h ↦ h)
  · exact moves_roomConnected
  · exact .single (.suspend p (by simp))
  · exact .single (.suspend p (by simp))
  · exact .single (.suspend p (by simp))
  · exact moves_catchFailure
  · exact moves_catchFailure
  · exact moves_catchFailure
  · split
    · exact .refl
    · exact moves_leaveRoom
  · split
    · exact .refl
    · exact .single (.publish _ hrest)
  · exact .single (.other rfl rfl rfl rfl rfl rfl fun _ _ h ↦ h)
  · exact .refl
  · exact .refl

/-! ### The moves of an event -/

/-- A timer that runs is known to whoever has to clear it. -/
structure Sound (p : TeleopPage Key) : Prop where
  active : ∀ id, p.intervals.get id = some .sendActiveCommand → p.activeCommandTimer = some id
  held : p.activeCommandTimer.isSome → p.activeCommand.isSome
  renewing : ∀ id s, p.intervals.get id = some (.renew s) →
    ∃ sender, p.senders.get s = some sender ∧ sender.renewTimer = some id
  current : ∀ s, p.secureSender = some s → s < p.senders.next

theorem moves_interval (hsound : p.Sound) {id : ℕ} {callback : Interval}
    (hcallback : p.intervals.get id = some callback) :
    Moves config (.interval id now) p p (p.tick config.sign now callback) := by
  cases callback with
  | renew s => exact .single (.renew hcallback)
  | sendActiveCommand =>
      have htimer := hsound.active id hcallback
      obtain ⟨command, hcommand⟩ :=
        Option.isSome_iff_exists.mp (hsound.held (by rw [htimer, Option.isSome_some]))
      simp only [tick, hcommand]
      exact moves_sendCommand rfl rfl (.inr ⟨id, now, rfl, hcallback, hcommand⟩)

theorem moves_handle (hsound : p.Sound) (e : PageEvent Key) :
    Moves config e p p (p.handle config e) := by
  cases e with
  | signedIn token => exact .single (.other rfl rfl rfl rfl rfl rfl fun _ _ h ↦ h)
  | checkLoginState => exact moves_checkLoginState
  | handleAuth prompted => exact moves_handleAuth
  | startTeleop vehicleID => exact moves_startTeleop rfl
  | stopTeleop => exact moves_stopTeleop
  | send press now => exact moves_sendCommand rfl rfl (.inl rfl)
  | beginCommand press ended begun =>
      exact moves_beginCommand (.inl (.inl rfl)) (.inl (.inr rfl)) rfl
  | endCommand now => exact moves_endCommand (.inl rfl)
  | setCommandMode mode now => exact moves_setCommandMode (.inl rfl)
  | pagehide =>
      simp only [handle]
      split_ifs
      · exact .single (.stopControlSession p)
      · exact .refl
  | disconnected =>
      refine .tail (.single (.stopControlSession p)) ?_
      exact .other rfl rfl rfl rfl rfl rfl fun _ _ h ↦ h
  | interval id now =>
      simp only [handle]
      split
      · exact .refl
      · exact moves_interval hsound ‹_›
  | resume i answer =>
      simp only [handle]
      split
      · exact .refl
      · refine .trans ?_ (moves_resume ‹_› answer)
        apply Relation.ReflTransGen.single
        refine .other rfl rfl rfl rfl rfl rfl fun j rest h ↦ ?_
        exact (Arena.get_remove_iff.mp h).2

end Functions

/-! ## Timers that run -/

section Timers

variable {p p' p₀ : TeleopPage Key} {e : PageEvent Key} {s s' id : ℕ} {callback : Interval}

theorem get_clearInterval {timer : Option ℕ}
    (h : (p.clearInterval timer).intervals.get id = some callback) :
    timer ≠ some id ∧ p.intervals.get id = some callback := by
  cases timer with
  | none => exact ⟨by simp, h⟩
  | some cleared =>
      obtain ⟨hne, hget⟩ := Arena.get_remove_iff.mp h
      exact ⟨by simpa using hne.symm, hget⟩

@[simp] theorem clearInterval_secureSender {timer : Option ℕ} :
    (p.clearInterval timer).secureSender = p.secureSender := by
  cases timer <;> rfl

@[simp] theorem clearInterval_senders {timer : Option ℕ} :
    (p.clearInterval timer).senders = p.senders := by
  cases timer <;> rfl

@[simp] theorem clearInterval_activeCommandTimer {timer : Option ℕ} :
    (p.clearInterval timer).activeCommandTimer = p.activeCommandTimer := by
  cases timer <;> rfl

@[simp] theorem clearInterval_activeCommand {timer : Option ℕ} :
    (p.clearInterval timer).activeCommand = p.activeCommand := by
  cases timer <;> rfl

@[simp] theorem clearInterval_effects {timer : Option ℕ} :
    (p.clearInterval timer).effects = p.effects := by
  cases timer <;> rfl

@[simp] theorem clearInterval_suspended {timer : Option ℕ} :
    (p.clearInterval timer).suspended = p.suspended := by
  cases timer <;> rfl

theorem get_stopRenewal (h : (p.stopRenewal s).intervals.get id = some callback) :
    ((p.senders.get s).bind ConsoleSender.renewTimer) ≠ some id ∧
      p.intervals.get id = some callback :=
  get_clearInterval h

/-- The rest of the page does not matter. -/
theorem Sound.congr (h : p.Sound) (hsender : p'.secureSender = p.secureSender)
    (htimer : p'.activeCommandTimer = p.activeCommandTimer)
    (hcommand : p'.activeCommand = p.activeCommand) (hsenders : p'.senders = p.senders)
    (hintervals : p'.intervals = p.intervals) : p'.Sound where
  active := by simpa only [htimer, hintervals] using h.active
  held := by simpa only [htimer, hcommand] using h.held
  renewing := by simpa only [hsenders, hintervals] using h.renewing
  current := by simpa only [hsender, hsenders] using h.current

theorem Sound.modifySender (h : p.Sound) {f : ConsoleSender Key → ConsoleSender Key}
    (hf : ∀ x, (f x).renewTimer = x.renewTimer) : (p.modifySender s f).Sound where
  active := h.active
  held := h.held
  renewing := by
    intro id s' hget
    obtain ⟨sender, hsender, htimer⟩ := h.renewing id s' hget
    by_cases hs : s' = s
    · subst hs
      exact ⟨f sender, by simp [TeleopPage.modifySender, hsender], (hf sender).trans htimer⟩
    · exact ⟨sender, (Arena.get_modify_of_ne f hs).trans hsender, htimer⟩
  current := h.current

theorem Sound.clearActiveCommand (h : p.Sound) : p.clearActiveCommand.Sound where
  active := by
    intro id hget
    obtain ⟨hne, hget⟩ := get_clearInterval hget
    exact absurd (h.active id hget) hne
  held := by simp [TeleopPage.clearActiveCommand]
  renewing := by
    intro id s hget
    simpa [TeleopPage.clearActiveCommand] using h.renewing id s (get_clearInterval hget).2
  current := by simpa [TeleopPage.clearActiveCommand] using h.current

/-- No interval renews the sender's session any more. -/
theorem Sound.not_renewing (h : p.Sound) :
    (p.stopRenewal s).intervals.get id ≠ some (.renew s) := by
  intro hget
  obtain ⟨hne, hget⟩ := get_stopRenewal hget
  obtain ⟨sender, hsender, htimer⟩ := h.renewing id s hget
  exact hne (by rw [hsender, Option.bind_some, htimer])

theorem Sound.stopRenewal (h : p.Sound) : (p.stopRenewal s).Sound where
  active := by
    intro id hget
    simpa [TeleopPage.stopRenewal, TeleopPage.modifySender] using
      h.active id (get_stopRenewal hget).2
  held := by simpa [TeleopPage.stopRenewal, TeleopPage.modifySender] using h.held
  renewing := by
    intro id s' hget
    obtain ⟨hne, hbefore⟩ := get_stopRenewal hget
    obtain ⟨sender, hsender, htimer⟩ := h.renewing id s' hbefore
    have hs : s' ≠ s := by
      rintro rfl
      exact h.not_renewing hget
    refine ⟨sender, ?_, htimer⟩
    simpa [TeleopPage.stopRenewal, TeleopPage.modifySender, Arena.get_modify_of_ne _ hs] using
      hsender
  current := by simpa [TeleopPage.stopRenewal, TeleopPage.modifySender] using h.current

theorem Sound.startRenewal (h : p.Sound) : (p.startRenewal s).Sound := by
  unfold TeleopPage.startRenewal
  cases hsender : p.senders.get s with
  | none => exact h
  | some sender =>
      have hstopped := h.stopRenewal (s := s)
      refine ⟨?_, hstopped.held, ?_, hstopped.current⟩
      · intro id hget
        obtain ⟨-, hrenew⟩ | hget := Arena.get_add_iff.mp hget
        · cases hrenew
        · exact hstopped.active id hget
      · intro id s' hget
        obtain ⟨rfl, hrenew⟩ | hget := Arena.get_add_iff.mp hget
        · cases hrenew
          exact ⟨{ sender with renewTimer := some (p.stopRenewal s).intervals.next },
            by simp [TeleopPage.stopRenewal, TeleopPage.modifySender, hsender], rfl⟩
        · obtain ⟨sender', hsender', htimer⟩ := hstopped.renewing id s' hget
          have hs : s' ≠ s := by
            rintro rfl
            exact h.not_renewing hget
          exact ⟨sender', (Arena.get_modify_of_ne _ hs).trans hsender', htimer⟩

/-- What `release` does besides stopping the renewal. -/
theorem release_cases (p : TeleopPage Key) (s : ℕ) :
    p.release s = p.stopRenewal s ∨
      ∃ sessionID, p.release s =
        ((p.stopRenewal s).modifySender s fun sender ↦ { sender with sessionID := none }).emit
          (.release s sessionID) := by
  unfold release
  dsimp only
  split
  · exact .inl rfl
  · exact .inr ⟨_, rfl⟩

theorem Sound.release (h : p.Sound) : (p.release s).Sound := by
  obtain heq | ⟨sessionID, heq⟩ := release_cases p s
  · rw [heq]
    exact h.stopRenewal
  · rw [heq]
    refine Sound.congr (h.stopRenewal.modifySender ?_) rfl rfl rfl rfl rfl
    exact fun _ ↦ rfl

theorem Sound.stopControlSession (h : p.Sound) : p.stopControlSession.Sound := by
  have hdropped : ({ p with secureSender := none, canControl := false } : TeleopPage Key).Sound :=
    ⟨h.active, h.held, h.renewing, by simp⟩
  unfold TeleopPage.stopControlSession
  dsimp only
  split
  · exact hdropped.clearActiveCommand
  · exact hdropped.clearActiveCommand.release

theorem Sound.move (h : p.Sound) (hmove : Move config e p₀ p p') : p'.Sound := by
  cases hmove with
  | stopControlSession => exact h.stopControlSession
  | clearActiveCommand => exact h.clearActiveCommand
  | hold => exact ⟨h.active, fun _ ↦ rfl, h.renewing, h.current⟩
  | startTimer _ hidle hcommand =>
      refine ⟨?_, fun _ ↦ by rw [hcommand, Option.isSome_some], ?_, h.current⟩
      · intro id hget
        obtain ⟨rfl, -⟩ | hget := Arena.get_add_iff.mp hget
        · rfl
        · cases hidle.symm.trans (h.active id hget)
      · intro id s hget
        obtain ⟨-, hrenew⟩ | hget := Arena.get_add_iff.mp hget
        · cases hrenew
        · exact h.renewing id s hget
  | @sign s command now hcontrol hcurrent hsender hsends =>
      obtain heq | ⟨sender, sent, -, -, heq⟩ := signCommand_cases p config.sign s command now
      · rw [heq]
        exact h
      · rw [heq]
        refine Sound.congr (h.modifySender ?_) rfl rfl rfl rfl rfl
        exact fun _ ↦ rfl
  | newSender vehicleID token he =>
      refine ⟨h.active, h.held, ?_, ?_⟩
      · intro id s hget
        obtain ⟨sender, hsender, htimer⟩ := h.renewing id s hget
        exact ⟨sender, (Arena.get_add_of_lt (Arena.lt_next hsender)).trans hsender, htimer⟩
      · rintro s ⟨⟩
        exact Nat.lt_succ_self _
  | acquireSession hsender =>
      unfold TeleopPage.acquireSession
      split
      · exact h
      · exact h.congr rfl rfl rfl rfl rfl
  | startRenewal hsender => exact h.startRenewal
  | renew hget =>
      unfold TeleopPage.renew
      split
      · exact h
      · exact h.congr rfl rfl rfl rfl rfl
  | setSender s hf => exact h.modifySender fun x ↦ (hf x).1
  | emit | suspend | publish => exact h.congr rfl rfl rfl rfl rfl
  | other hsender htimer hcommand hsenders hintervals =>
      exact h.congr hsender htimer hcommand hsenders hintervals

theorem Sound.initial : (initial : TeleopPage Key).Sound :=
  ⟨by simp [TeleopPage.initial], by simp [TeleopPage.initial], by simp [TeleopPage.initial],
    by simp [TeleopPage.initial]⟩

theorem Sound.moves (h : p.Sound) (hmoves : Moves config e p₀ p p') : p'.Sound := by
  induction hmoves with
  | refl => exact h
  | tail _ hmove ih => exact ih.move hmove

theorem Sound.handle (h : p.Sound) (e : PageEvent Key) : (p.handle config e).Sound :=
  h.moves (moves_handle h e)

theorem Sound.of_run {ls : List (PageEvent Key)} (hrun : (teleopSystem config).Run ls p) :
    p.Sound := by
  refine hrun.invariant (P := fun _ p ↦ p.Sound) ?_ ?_
  · rintro _ rfl
    exact .initial
  · rintro ls p e _ - h - rfl
    exact h.handle e

end Timers

/-! ## What leaves the page -/

/-- What a move may send out. -/
inductive May (config : PageConfig Key) (e : PageEvent Key) (p₀ p : TeleopPage Key) :
    PageEffect Key → Prop
  | acquire {s : ℕ} {vehicleID authToken : JSString} {publicKeyB64 : Option JSString} :
      p.secureSender = some s → May config e p₀ p (.acquire s vehicleID authToken publicKeyB64)
  | release {s : ℕ} {sessionID : JSString} :
      p.secureSender = some s → May config e p₀ p (.release s sessionID)
  | renew {id s : ℕ} {sessionID : JSString} :
      p.intervals.get id = some (.renew s) → May config e p₀ p (.renew s sessionID)
  | sign {s : ℕ} {command : ControlCommand} {now : SafeInteger} {sent : SentCommand Key} :
      p₀.canControl = true → p₀.secureSender = some s → p.secureSender = some s →
        e.Sends p₀ command → May config e p₀ p (.sign s command now sent)
  | publish {i room : ℕ} {sent : SentCommand Key} :
      p₀.suspended.get i = some (.sign sent) → May config e p₀ p (.publish room sent.published)
  | room {x : PageEffect Key} :
      x.sender = none → (∀ room message, x ≠ .publish room message) → May config e p₀ p x

section Effects

variable {p p' p₀ : TeleopPage Key} {e : PageEvent Key} {s : ℕ} {x : PageEffect Key}

@[simp] theorem stopRenewal_effects : (p.stopRenewal s).effects = p.effects :=
  clearInterval_effects

@[simp] theorem startRenewal_effects : (p.startRenewal s).effects = p.effects := by
  unfold startRenewal
  split
  · rfl
  · exact stopRenewal_effects

theorem clearActiveCommand_effects : p.clearActiveCommand.effects = p.effects :=
  clearInterval_effects

/-- Stopping the control session does no more than release the session of the sender. -/
theorem stopControlSession_effects (p : TeleopPage Key) :
    p.stopControlSession.effects = p.effects ∨
      ∃ s sessionID, p.secureSender = some s ∧
        p.stopControlSession.effects = p.effects ++ [.release s sessionID] := by
  unfold stopControlSession
  dsimp only
  split
  · exact .inl clearActiveCommand_effects
  · rename_i s hsender
    obtain heq | ⟨sessionID, heq⟩ :=
      release_cases ({ p with secureSender := none, canControl := false }.clearActiveCommand) s
    · rw [heq, stopRenewal_effects, clearActiveCommand_effects]
      exact .inl rfl
    · refine .inr ⟨s, sessionID, hsender, ?_⟩
      rw [heq]
      exact congrArg (· ++ _) (stopRenewal_effects.trans clearActiveCommand_effects)

theorem acquireSession_effects (p : TeleopPage Key) (s : ℕ) :
    (p.acquireSession s).effects = p.effects ∨ ∃ vehicleID authToken publicKeyB64,
      (p.acquireSession s).effects =
        p.effects ++ [.acquire s vehicleID authToken publicKeyB64] := by
  unfold acquireSession
  split
  · exact .inl rfl
  · exact .inr ⟨_, _, _, rfl⟩

theorem renew_effects (p : TeleopPage Key) (s : ℕ) :
    (p.renew s).effects = p.effects ∨
      ∃ sessionID, (p.renew s).effects = p.effects ++ [.renew s sessionID] := by
  unfold renew
  split
  · exact .inl rfl
  · exact .inr ⟨_, rfl⟩

theorem Move.emits (hmove : Move config e p₀ p p') :
    ∃ new, p'.effects = p.effects ++ new ∧ ∀ x ∈ new, May config e p₀ p x := by
  have hnone : p'.effects = p.effects →
      ∃ new, p'.effects = p.effects ++ new ∧ ∀ x ∈ new, May config e p₀ p x :=
    fun heq ↦ ⟨[], by rw [heq, List.append_nil], by simp⟩
  have hone : ∀ x, p'.effects = p.effects ++ [x] → May config e p₀ p x →
      ∃ new, p'.effects = p.effects ++ new ∧ ∀ x ∈ new, May config e p₀ p x :=
    fun x heq hx ↦ ⟨[x], heq, by simpa using hx⟩
  cases hmove with
  | stopControlSession =>
      obtain heq | ⟨s, sessionID, hsender, heq⟩ := stopControlSession_effects p
      · exact hnone heq
      · exact hone _ heq (.release hsender)
  | clearActiveCommand => exact hnone clearActiveCommand_effects
  | hold | startTimer | newSender | setSender | suspend => exact hnone rfl
  | @sign s command now hcontrol hcurrent hsender hsends =>
      obtain heq | ⟨sender, sent, -, -, heq⟩ := signCommand_cases p config.sign s command now
      · exact hnone (by rw [heq])
      · exact hone _ (by rw [heq]; rfl) (.sign hcontrol hcurrent hsender hsends)
  | publish room hsigned => exact hone _ rfl (.publish hsigned)
  | acquireSession hsender =>
      obtain heq | ⟨vehicleID, authToken, publicKeyB64, heq⟩ := acquireSession_effects p _
      · exact hnone heq
      · exact hone _ heq (.acquire hsender)
  | startRenewal hsender => exact hnone startRenewal_effects
  | renew hget =>
      obtain heq | ⟨sessionID, heq⟩ := renew_effects p _
      · exact hnone heq
      · exact hone _ heq (.renew hget)
  | emit hsender hpublish => exact hone _ rfl (.room hsender hpublish)
  | other _ _ _ _ _ heffects => exact hnone heffects

end Effects

end TeleopPage

end RemoteInfra.Console
