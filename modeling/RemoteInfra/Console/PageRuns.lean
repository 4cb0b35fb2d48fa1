import RemoteInfra.Console.PageMoves

/-!
# What the operator's page signs

A command is signed only while a button asks for it, and a sender that the page has dropped is
never heard of again.
-/

namespace RemoteInfra.Console

open RemoteInfra.Library RemoteInfra.JavaScript RemoteInfra.Python

variable {Key : Type} {config : PageConfig Key}

namespace TeleopPage

/-! ## A sender that is dropped -/

/-- The page has let go of the sender and no interval renews its session. -/
structure Dropped (s : ℕ) (p : TeleopPage Key) : Prop where
  current : p.secureSender ≠ some s
  made : s < p.senders.next
  idle : ∀ id, p.intervals.get id ≠ some (.renew s)

/-- The page keeps its sender, no sender is made and no timer started. -/
structure Settles (p p' : TeleopPage Key) : Prop where
  secureSender : p'.secureSender = p.secureSender
  next : p'.senders.next = p.senders.next
  intervals : ∀ id callback, p'.intervals.get id = some callback →
    p.intervals.get id = some callback

section Dropping

variable {p p' q p₀ : TeleopPage Key} {e : PageEvent Key} {s s' id : ℕ} {x : PageEffect Key}

theorem Settles.refl (p : TeleopPage Key) : Settles p p := ⟨rfl, rfl, fun _ _ h ↦ h⟩

theorem Settles.trans (h : Settles p q) (h' : Settles q p') : Settles p p' where
  secureSender := h'.secureSender.trans h.secureSender
  next := h'.next.trans h.next
  intervals id callback hget := h.intervals id callback (h'.intervals id callback hget)

theorem settles_stopRenewal : Settles p (p.stopRenewal s) where
  secureSender := clearInterval_secureSender
  next := (Arena.next_modify _).trans (congrArg Arena.next clearInterval_senders)
  intervals _ _ hget := (get_stopRenewal hget).2

theorem settles_release : Settles (p.stopRenewal s) (p.release s) := by
  obtain heq | ⟨sessionID, heq⟩ := release_cases p s
  · rw [heq]
    exact .refl _
  · rw [heq]
    exact ⟨rfl, rfl, fun _ _ h ↦ h⟩

theorem settles_clearActiveCommand : Settles p p.clearActiveCommand where
  secureSender := clearActiveCommand_secureSender
  next := congrArg Arena.next clearInterval_senders
  intervals _ _ hget := (get_clearInterval hget).2

theorem settles_stopControlSession :
    Settles { p with secureSender := none, canControl := false } p.stopControlSession := by
  unfold stopControlSession
  dsimp only
  split
  · exact settles_clearActiveCommand
  · exact settles_clearActiveCommand.trans (settles_stopRenewal.trans settles_release)

theorem settles_signCommand {sign : Key → JSString → JSString} {command : ControlCommand}
    {now : SafeInteger} : Settles p (p.signCommand sign s command now) := by
  obtain heq | ⟨sender, sent, -, -, heq⟩ := signCommand_cases p sign s command now
  · rw [heq]
    exact .refl p
  · rw [heq]
    exact ⟨rfl, rfl, fun _ _ h ↦ h⟩

theorem settles_acquireSession : Settles p (p.acquireSession s) := by
  unfold acquireSession
  split
  · exact .refl p
  · exact ⟨rfl, rfl, fun _ _ h ↦ h⟩

theorem settles_renew : Settles p (p.renew s) := by
  unfold renew
  split
  · exact .refl p
  · exact ⟨rfl, rfl, fun _ _ h ↦ h⟩

theorem renewing_startRenewal (hget : (p.startRenewal s).intervals.get id = some (.renew s')) :
    s' = s ∨ p.intervals.get id = some (.renew s') := by
  unfold startRenewal at hget
  split at hget
  · exact .inr hget
  · obtain ⟨-, hrenew⟩ | hget := Arena.get_add_iff.mp hget
    · cases hrenew
      exact .inl rfl
    · exact .inr (get_stopRenewal hget).2

theorem startRenewal_secureSender : (p.startRenewal s).secureSender = p.secureSender := by
  unfold startRenewal
  split
  · rfl
  · exact clearInterval_secureSender

theorem next_startRenewal : (p.startRenewal s).senders.next = p.senders.next := by
  unfold startRenewal
  split
  · rfl
  · exact settles_stopRenewal.next

/-- The page drops its sender when it stops the control session. -/
theorem Sound.dropped (h : p.Sound) (hsender : p.secureSender = some s) :
    Dropped s p.stopControlSession where
  current := by simp [settles_stopControlSession.secureSender]
  made := (h.current s hsender).trans_eq settles_stopControlSession.next.symm
  idle := by
    intro id hget
    have hnone : ({ p with secureSender := none, canControl := false } : TeleopPage Key).Sound :=
      ⟨h.active, h.held, h.renewing, by simp⟩
    rw [TeleopPage.stopControlSession, hsender] at hget
    exact hnone.clearActiveCommand.not_renewing (settles_release.intervals id _ hget)

theorem Dropped.settles (h : Dropped s p) (hsettles : Settles p p') : Dropped s p' where
  current := by
    rw [hsettles.secureSender]
    exact h.current
  made := by
    rw [hsettles.next]
    exact h.made
  idle id hget := h.idle id (hsettles.intervals id _ hget)

theorem Dropped.stopControlSession (h : Dropped s p) : Dropped s p.stopControlSession := by
  have hnone : Dropped s { p with secureSender := none, canControl := false } :=
    ⟨by simp, h.made, h.idle⟩
  exact hnone.settles settles_stopControlSession

/-- Nothing brings a sender back. -/
theorem Dropped.move (h : Dropped s p) (hmove : Move config e p₀ p p') : Dropped s p' := by
  cases hmove with
  | stopControlSession => exact h.stopControlSession
  | clearActiveCommand => exact h.settles settles_clearActiveCommand
  | sign => exact h.settles settles_signCommand
  | acquireSession => exact h.settles settles_acquireSession
  | renew => exact h.settles settles_renew
  | hold | publish | setSender | emit | suspend => exact ⟨h.current, h.made, h.idle⟩
  | startTimer =>
      refine ⟨h.current, h.made, fun id hget ↦ ?_⟩
      obtain ⟨-, hrenew⟩ | hget := Arena.get_add_iff.mp hget
      · cases hrenew
      · exact h.idle id hget
  | newSender vehicleID token he =>
      refine ⟨fun heq ↦ ?_, h.made.trans (Nat.lt_succ_self _), h.idle⟩
      exact h.made.ne (Option.some.inj heq).symm
  | startRenewal hsender =>
      refine ⟨startRenewal_secureSender.trans_ne h.current,
        h.made.trans_eq next_startRenewal.symm, fun id hget ↦ ?_⟩
      obtain rfl | hget := renewing_startRenewal hget
      · exact h.current hsender
      · exact h.idle id hget
  | other hsender _ _ hsenders hintervals =>
      exact ⟨hsender ▸ h.current, hsenders ▸ h.made, hintervals ▸ h.idle⟩

/-- Nothing that leaves the page is of a sender that is dropped. -/
theorem May.sender_ne (hmay : May config e p₀ p x) (h : Dropped s p) : x.sender ≠ some s := by
  intro hx
  cases hmay with
  | acquire hsender | release hsender | sign _ _ hsender =>
      cases hx
      exact h.current hsender
  | renew hget =>
      cases hx
      exact h.idle _ hget
  | publish => cases hx
  | room hnone => cases hnone.symm.trans hx

/-- The sender stays dropped and nothing of it has left the page since `p`. -/
def Silent (s : ℕ) (p p' : TeleopPage Key) : Prop :=
  Dropped s p' ∧ ∃ new, p'.effects = p.effects ++ new ∧ ∀ x ∈ new, x.sender ≠ some s

theorem Silent.refl (h : Dropped s p) : Silent s p p := ⟨h, [], by simp, by simp⟩

theorem Silent.trans (h : Silent s p q) (h' : Silent s q p') : Silent s p p' := by
  obtain ⟨-, new, heffects, hnew⟩ := h
  obtain ⟨hdropped, new', heffects', hnew'⟩ := h'
  refine ⟨hdropped, new ++ new', by rw [heffects', heffects, List.append_assoc], ?_⟩
  intro x hx
  obtain hx | hx := List.mem_append.mp hx
  · exact hnew x hx
  · exact hnew' x hx

theorem Dropped.silent_move (h : Dropped s p) (hmove : Move config e p₀ p p') :
    Silent s p p' := by
  obtain ⟨new, heffects, hnew⟩ := hmove.emits
  exact ⟨h.move hmove, new, heffects, fun x hx ↦ (hnew x hx).sender_ne h⟩

theorem Dropped.silent_moves (h : Dropped s p) (hmoves : Moves config e p₀ p p') :
    Silent s p p' := by
  induction hmoves with
  | refl => exact .refl h
  | tail _ hmove ih => exact ih.trans (ih.1.silent_move hmove)

theorem Dropped.silent_later (h : Dropped s p) (hsound : p.Sound) (later : List (PageEvent Key)) :
    Silent s p (later.foldl (TeleopPage.handle config) p) := by
  induction later generalizing p with
  | nil => exact .refl h
  | cons e later ih =>
      have hsilent : Silent s p (p.handle config e) := h.silent_moves (moves_handle hsound e)
      exact hsilent.trans (ih hsilent.1 (hsound.handle e))

/-- An event that takes the sender from the page drops it. -/
theorem dropped_of_moves (hsound : p.Sound) (hsender : p.secureSender = some s)
    (he : ∀ vehicleID, e ≠ .startTeleop vehicleID) (hmoves : Moves config e p₀ p p') :
    p'.secureSender = some s ∧ p'.Sound ∨ Dropped s p' := by
  induction hmoves with
  | refl => exact .inl ⟨hsender, hsound⟩
  | tail _ hmove ih =>
      obtain ⟨hcurrent, hsound⟩ | hdropped := ih
      · have hnext := hsound.move hmove
        cases hmove with
        | stopControlSession => exact .inr (hsound.dropped hcurrent)
        | newSender vehicleID token heq => exact absurd heq (he vehicleID)
        | clearActiveCommand =>
            exact .inl ⟨settles_clearActiveCommand.secureSender.trans hcurrent, hnext⟩
        | sign => exact .inl ⟨settles_signCommand.secureSender.trans hcurrent, hnext⟩
        | acquireSession => exact .inl ⟨settles_acquireSession.secureSender.trans hcurrent, hnext⟩
        | renew => exact .inl ⟨settles_renew.secureSender.trans hcurrent, hnext⟩
        | startRenewal => exact .inl ⟨startRenewal_secureSender.trans hcurrent, hnext⟩
        | hold | startTimer | publish | setSender | emit | suspend => exact .inl ⟨hcurrent, hnext⟩
        | other hsame => exact .inl ⟨hsame.trans hcurrent, hnext⟩
      · exact .inr (hdropped.move hmove)

end Dropping

/-! ## The button that is held -/

section Held

variable {p p' p₀ : TeleopPage Key} {e : PageEvent Key} {s : ℕ}

/-- No timer runs and no command is kept for it. -/
def Idle (p : TeleopPage Key) : Prop := p.activeCommandTimer = none ∧ p.activeCommand = none

theorem idle_clearActiveCommand : p.clearActiveCommand.Idle := ⟨rfl, rfl⟩

theorem Idle.signs (h : p.Idle) (hsigns : Signs p p') : p'.Idle :=
  ⟨hsigns.activeCommandTimer.trans h.1, hsigns.activeCommand.trans h.2⟩

theorem idle_endCommand {sign : Key → JSString → JSString} {now : SafeInteger} :
    (p.endCommand sign now).Idle :=
  idle_clearActiveCommand.signs signs_endCommand

theorem Idle.release (h : p.Idle) : (p.release s).Idle := by
  have hstopped : (p.stopRenewal s).Idle :=
    ⟨clearInterval_activeCommandTimer.trans h.1, clearInterval_activeCommand.trans h.2⟩
  obtain heq | ⟨sessionID, heq⟩ := release_cases p s
  · rwa [heq]
  · rw [heq]
    exact hstopped

theorem idle_stopControlSession : p.stopControlSession.Idle := by
  unfold stopControlSession
  dsimp only
  split
  · exact idle_clearActiveCommand
  · exact idle_clearActiveCommand.release

/-- Nothing but a button that is pressed changes what is held, but to nothing. -/
theorem Move.held (hmove : Move config e p₀ p p') (he : ∀ command, ¬e.Holds command) :
    p'.Idle ∨
      p'.activeCommandTimer = p.activeCommandTimer ∧ p'.activeCommand = p.activeCommand := by
  cases hmove with
  | stopControlSession => exact .inl idle_stopControlSession
  | clearActiveCommand => exact .inl idle_clearActiveCommand
  | hold hholds | startTimer hholds => exact absurd hholds (he _)
  | sign =>
      exact .inr ⟨signs_signCommand.activeCommandTimer, signs_signCommand.activeCommand⟩
  | publish | newSender | setSender | emit | suspend => exact .inr ⟨rfl, rfl⟩
  | acquireSession =>
      unfold TeleopPage.acquireSession
      split
      · exact .inr ⟨rfl, rfl⟩
      · exact .inr ⟨rfl, rfl⟩
  | startRenewal =>
      unfold TeleopPage.startRenewal
      split
      · exact .inr ⟨rfl, rfl⟩
      · exact .inr ⟨clearInterval_activeCommandTimer, clearInterval_activeCommand⟩
  | renew =>
      unfold TeleopPage.renew
      split
      · exact .inr ⟨rfl, rfl⟩
      · exact .inr ⟨rfl, rfl⟩
  | other _ htimer hcommand => exact .inr ⟨htimer, hcommand⟩

theorem held_of_moves (hmoves : Moves config e p₀ p p') (he : ∀ command, ¬e.Holds command) :
    p'.Idle ∨
      p'.activeCommandTimer = p.activeCommandTimer ∧ p'.activeCommand = p.activeCommand := by
  induction hmoves with
  | refl => exact .inr ⟨rfl, rfl⟩
  | tail _ hmove ih =>
      obtain hidle | ⟨htimer, hcommand⟩ := hmove.held he
      · exact .inl hidle
      · obtain hidle | ⟨htimer', hcommand'⟩ := ih
        · exact .inl ⟨htimer.trans hidle.1, hcommand.trans hidle.2⟩
        · exact .inr ⟨htimer.trans htimer', hcommand.trans hcommand'⟩

theorem activeCommand_beginCommand {sign : Key → JSString → JSString} {command : ControlCommand}
    {ended begun : SafeInteger} :
    (p.beginCommand sign command ended begun).activeCommand = some command :=
  signs_sendCommand.activeCommand

/-- Between the events, a command is kept exactly for the timer that repeats it. -/
theorem paired_of_run {ls : List (PageEvent Key)} (hrun : (teleopSystem config).Run ls p) :
    p.activeCommandTimer = none → p.activeCommand = none := by
  refine hrun.invariant (P := fun _ p ↦ p.activeCommandTimer = none → p.activeCommand = none) ?_ ?_
  · rintro _ rfl -
    rfl
  · rintro ls p e _ hrun h - rfl htimer
    by_cases he : ∃ command, e.Holds command
    · obtain ⟨command, hholds⟩ := he
      cases e <;> cases hholds
      cases htimer
    · obtain hidle | ⟨hsame, hcommand⟩ :=
        held_of_moves (moves_handle (.of_run hrun) e) (not_exists.mp he)
      · exact hidle.2
      · rw [hcommand]
        exact h (hsame.symm.trans htimer)

theorem idle_of_letsGo (hpaired : p.activeCommandTimer = none → p.activeCommand = none)
    (he : e.LetsGo) (hholds : ∀ command, ¬e.Holds command) : (p.handle config e).Idle := by
  cases e with
  | beginCommand press => exact absurd rfl (hholds press.command)
  | endCommand => exact idle_endCommand
  | stopTeleop =>
      simp only [handle, stopTeleop]
      split
      · exact idle_stopControlSession
      · exact idle_stopControlSession
  | disconnected => exact idle_stopControlSession
  | setCommandMode mode now =>
      simp only [handle, setCommandMode]
      rw [if_neg (by rintro ⟨hhigh, hlow⟩; exact he.elim hhigh hlow)]
      split_ifs with htimer
      · exact idle_endCommand
      · have hnone := Option.not_isSome_iff_eq_none.mp htimer
        exact ⟨hnone, hpaired hnone⟩
  | _ => exact he.elim

/-- What is held was pressed, and has not been let go since. -/
theorem held_since {ls : List (PageEvent Key)} (hrun : (teleopSystem config).Run ls p)
    {command : ControlCommand} (hcommand : p.activeCommand = some command) :
    ∃ before e after, ls = before ++ e :: after ∧ e.Holds command ∧ ∀ x ∈ after, ¬x.LetsGo := by
  induction hrun generalizing command with
  | init hinit =>
      obtain rfl := hinit
      cases hcommand
  | @step ls p p' e hrun _ hstep ih =>
      obtain rfl := hstep
      by_cases he : ∃ command, e.Holds command
      · obtain ⟨command', hholds⟩ := he
        refine ⟨ls, e, [], rfl, ?_, by simp⟩
        cases e <;> cases hholds
        rw [TeleopPage.handle, activeCommand_beginCommand] at hcommand
        exact (Option.some.inj hcommand).symm
      · obtain hidle | ⟨-, hsame⟩ :=
          held_of_moves (moves_handle (.of_run hrun) e) (not_exists.mp he)
        · cases hidle.2.symm.trans hcommand
        · obtain ⟨before, press, after, rfl, hpress, hafter⟩ := ih (hsame.symm.trans hcommand)
          refine ⟨before, press, after ++ [e], by simp, hpress, fun x hx ↦ ?_⟩
          obtain hx | hx := List.mem_append.mp hx
          · exact hafter x hx
          · obtain rfl := List.mem_singleton.mp hx
            intro hgo
            have hidle : (p.handle config x).Idle :=
              idle_of_letsGo (paired_of_run hrun) hgo (not_exists.mp he)
            cases hidle.2.symm.trans hcommand

end Held

end TeleopPage

/-! ## What the senders have signed -/

/-- The command that the sender signed. -/
def PageEffect.signed (s : ℕ) : PageEffect Key → Option (SentCommand Key)
  | .sign s' _ _ sent => if s' = s then some sent else none
  | _ => none

namespace TeleopPage

def signedBy (s : ℕ) (effects : List (PageEffect Key)) : List (SentCommand Key) :=
  effects.filterMap (PageEffect.signed s)

/-- The sequences of the first `n` commands: `++` stops at `2 ^ 53`. -/
def sequences (n : ℕ) : List ℤ := (List.range n).map fun k : ℕ ↦ min ((k : ℤ) + 1) (2 ^ 53)

/-- Each sender numbers what it signs, and what is published was signed before. -/
structure Counted (p : TeleopPage Key) : Prop where
  numbered : ∀ s, (signedBy s p.effects).map (fun sent ↦ sent.sender.sequence.val) =
    sequences (signedBy s p.effects).length
  sequence : ∀ s sender, p.senders.get s = some sender →
    sender.sequence.val = min ((signedBy s p.effects).length : ℤ) (2 ^ 53)
  unmade : ∀ s, p.senders.get s = none → signedBy s p.effects = []
  suspended : ∀ i sent, p.suspended.get i = some (.sign sent) → ∃ s, sent ∈ signedBy s p.effects
  published : ∀ room message, .publish room message ∈ p.effects →
    ∃ s, ∃ sent ∈ signedBy s p.effects, message = sent.published

section Counting

variable {p p' q p₀ : TeleopPage Key} {e : PageEvent Key} {s : ℕ} {x : PageEffect Key}

theorem sequences_succ (n : ℕ) : sequences (n + 1) = sequences n ++ [min (n + 1 : ℤ) (2 ^ 53)] := by
  rw [sequences, List.range_succ, List.map_append]
  rfl

theorem val_increment {n : SafeInteger} {k : ℕ} (h : n.val = min (k : ℤ) (2 ^ 53)) :
    n.increment.val = min (k + 1 : ℤ) (2 ^ 53) := by
  unfold SafeInteger.increment
  split_ifs with hlt
  · have hnext : min (k + 1 : ℤ) (2 ^ 53) = n.val + 1 := by omega
    rw [hnext]
  · omega

theorem sequence_of_sendCommand {sender : SecureControlSender Key}
    {sign : Key → JSString → JSString} {command : ControlCommand} {now : SafeInteger}
    {sent : SentCommand Key} (h : sender.sendCommand sign command now = .ok sent) :
    sent.sender.sequence = sender.sequence.increment := by
  unfold SecureControlSender.sendCommand at h
  split at h
  · cases h
    rfl
  · cases h

/-- No sender counts. -/
def SameSequences (p p' : TeleopPage Key) : Prop :=
  ∀ s, (p'.senders.get s).map (fun sender ↦ sender.sequence) =
    (p.senders.get s).map fun sender ↦ sender.sequence

theorem SameSequences.trans (h : SameSequences p q) (h' : SameSequences q p') :
    SameSequences p p' :=
  fun s ↦ (h' s).trans (h s)

theorem sameSequences_modifySender {f : ConsoleSender Key → ConsoleSender Key}
    (hf : ∀ x, (f x).sequence = x.sequence) : SameSequences p (p.modifySender s f) := by
  intro s'
  by_cases hs : s' = s
  · subst hs
    rw [modifySender, Arena.get_modify_self, Option.map_map]
    exact congrArg (Option.map · _) (funext hf)
  · rw [modifySender, Arena.get_modify_of_ne _ hs]

theorem sameSequences_stopRenewal : SameSequences p (p.stopRenewal s) :=
  SameSequences.trans (fun _ ↦ by rw [clearInterval_senders])
    (sameSequences_modifySender fun _ ↦ rfl)

theorem sameSequences_release : SameSequences p (p.release s) := by
  obtain heq | ⟨sessionID, heq⟩ := release_cases p s
  · rw [heq]
    exact sameSequences_stopRenewal
  · rw [heq]
    exact sameSequences_stopRenewal.trans (sameSequences_modifySender fun _ ↦ rfl)

theorem sameSequences_stopControlSession : SameSequences p p.stopControlSession := by
  have hcleared : SameSequences p
      { p with secureSender := none, canControl := false }.clearActiveCommand := by
    intro s
    rw [clearActiveCommand, clearInterval_senders]
  unfold stopControlSession
  dsimp only
  split
  · exact hcleared
  · exact hcleared.trans sameSequences_release

theorem sameSequences_startRenewal : SameSequences p (p.startRenewal s) := by
  unfold startRenewal
  split
  · exact fun _ ↦ rfl
  · exact sameSequences_stopRenewal.trans (sameSequences_modifySender fun _ ↦ rfl)

theorem signedBy_append (effects new : List (PageEffect Key)) :
    signedBy s (effects ++ new) = signedBy s effects ++ new.filterMap (PageEffect.signed s) :=
  List.filterMap_append

theorem signedBy_append_of_silent {effects new : List (PageEffect Key)}
    (hnew : ∀ x ∈ new, x.sender ≠ some s) : signedBy s (effects ++ new) = signedBy s effects := by
  rw [signedBy_append, List.filterMap_eq_nil_iff.mpr, List.append_nil]
  intro x hx
  cases x with
  | sign s' command now sent =>
      have hother : s' ≠ s := fun hs ↦ hnew _ hx (congrArg some hs)
      exact if_neg hother
  | _ => rfl

/-- What neither signs nor suspends a signature nor publishes keeps the count. -/
theorem Counted.keep (h : p.Counted) (hsenders : SameSequences p p')
    (hsigned : ∀ s, signedBy s p'.effects = signedBy s p.effects)
    (hsuspended : ∀ i sent, p'.suspended.get i = some (.sign sent) →
      p.suspended.get i = some (.sign sent))
    (hpublished : ∀ room message, .publish room message ∈ p'.effects →
      .publish room message ∈ p.effects) : p'.Counted where
  numbered s := by
    rw [hsigned]
    exact h.numbered s
  sequence s sender hsender := by
    have hsame := hsenders s
    rw [hsender, Option.map_some] at hsame
    obtain ⟨before, hbefore, heq⟩ := Option.map_eq_some_iff.mp hsame.symm
    rw [← heq, hsigned]
    exact h.sequence s before hbefore
  unmade s hnone := by
    have hsame := hsenders s
    rw [hnone, Option.map_none] at hsame
    rw [hsigned]
    exact h.unmade s (Option.map_eq_none_iff.mp hsame.symm)
  suspended i sent hi := by
    simp only [hsigned]
    exact h.suspended i sent (hsuspended i sent hi)
  published room message hmem := by
    simp only [hsigned]
    exact h.published room message (hpublished room message hmem)

/-- The effects of a move that signs and publishes nothing. -/
theorem Counted.keep_effects (h : p.Counted) (hsenders : SameSequences p p')
    (hsuspended : ∀ i sent, p'.suspended.get i = some (.sign sent) →
      p.suspended.get i = some (.sign sent)) {new : List (PageEffect Key)}
    (heffects : p'.effects = p.effects ++ new)
    (hsign : ∀ s command now sent, .sign s command now sent ∉ new)
    (hpublish : ∀ room message, .publish room message ∉ new) : p'.Counted := by
  refine h.keep hsenders (fun s ↦ ?_) hsuspended fun room message hmem ↦ ?_
  · rw [heffects, signedBy_append, List.filterMap_eq_nil_iff.mpr, List.append_nil]
    intro x hx
    cases x with
    | sign s' command now sent => exact absurd hx (hsign s' command now sent)
    | _ => rfl
  · rw [heffects] at hmem
    exact (List.mem_append.mp hmem).resolve_right (hpublish room message)

/-- The sender signs one more command. -/
theorem Counted.sign (h : p.Counted) {sender : ConsoleSender Key} {command : ControlCommand}
    {now : SafeInteger} {sent : SentCommand Key} (hsender : p.senders.get s = some sender)
    (hsequence : sent.sender.sequence = sender.sequence.increment) :
    (((p.modifySender s fun sender ↦ { sender with sequence := sent.sender.sequence }).emit
      (.sign s command now sent)).suspend (.sign sent)).Counted := by
  set p' := ((p.modifySender s fun sender ↦ { sender with sequence := sent.sender.sequence }).emit
      (.sign s command now sent)).suspend (.sign sent)
  have heffects : p'.effects = p.effects ++ [.sign s command now sent] := rfl
  have hself : signedBy s p'.effects = signedBy s p.effects ++ [sent] := by
    rw [heffects, signedBy_append]
    simp [PageEffect.signed]
  have hother : ∀ s', s' ≠ s → signedBy s' p'.effects = signedBy s' p.effects := by
    intro s' hs
    rw [heffects, signedBy_append]
    simp [PageEffect.signed, hs.symm]
  have hmono : ∀ s' t, t ∈ signedBy s' p.effects → t ∈ signedBy s' p'.effects := by
    intro s' t ht
    rw [heffects, signedBy_append]
    exact List.mem_append_left _ ht
  have hval : sent.sender.sequence.val = min ((signedBy s p.effects).length + 1 : ℤ) (2 ^ 53) := by
    rw [hsequence]
    exact val_increment (h.sequence s sender hsender)
  refine ⟨fun s' ↦ ?_, fun s' sender' hsender' ↦ ?_, fun s' hnone ↦ ?_, fun i t hi ↦ ?_,
    fun room message hmem ↦ ?_⟩
  · by_cases hs : s' = s
    · subst hs
      rw [hself, List.map_append, h.numbered, List.length_append, List.length_singleton,
        sequences_succ, List.map_singleton, hval]
    · rw [hother s' hs]
      exact h.numbered s'
  · obtain ⟨rfl, before, hbefore, rfl⟩ | ⟨hs, hget⟩ := (Arena.get_modify_iff _).mp hsender'
    · rw [hself, List.length_append, List.length_singleton]
      exact_mod_cast hval
    · rw [hother s' hs]
      exact h.sequence s' sender' hget
  · by_cases hs : s' = s
    · subst hs
      have hsome : p'.senders.get s' = (p.senders.get s').map _ := Arena.get_modify_self _
      rw [hnone, hsender] at hsome
      cases hsome
    · rw [hother s' hs]
      exact h.unmade s' ((Arena.get_modify_of_ne _ hs).symm.trans hnone)
  · obtain ⟨-, hsent⟩ | hget := Arena.get_add_iff.mp hi
    · cases hsent
      exact ⟨s, by simp [hself]⟩
    · obtain ⟨s', ht⟩ := h.suspended i t hget
      exact ⟨s', hmono s' t ht⟩
  · have hold : .publish room message ∈ p.effects := by simpa [heffects] using hmem
    obtain ⟨s', t, ht, hmessage⟩ := h.published room message hold
    exact ⟨s', t, hmono s' t ht, hmessage⟩

theorem Counted.publish (h : p.Counted) {room : ℕ} {sent : SentCommand Key}
    (hsent : ∃ s, sent ∈ signedBy s p.effects) :
    (p.emit (.publish room sent.published)).Counted := by
  have hsigned : ∀ s,
      signedBy s (p.emit (.publish room sent.published)).effects = signedBy s p.effects := by
    intro s
    rw [emit, signedBy_append]
    simp [PageEffect.signed]
  refine ⟨fun s ↦ ?_, fun s sender hsender ↦ ?_, fun s hnone ↦ ?_, fun i t hi ↦ ?_,
    fun room' message hmem ↦ ?_⟩
  · rw [hsigned]
    exact h.numbered s
  · rw [hsigned]
    exact h.sequence s sender hsender
  · rw [hsigned]
    exact h.unmade s hnone
  · simp only [hsigned]
    exact h.suspended i t hi
  · simp only [hsigned]
    obtain hmem | hmem := List.mem_append.mp hmem
    · exact h.published room' message hmem
    · cases List.mem_singleton.mp hmem
      obtain ⟨s, hs⟩ := hsent
      exact ⟨s, sent, hs, rfl⟩

theorem Counted.newSender (h : p.Counted) (vehicleID authToken : JSString) :
    ({ p with
      secureSender := some p.senders.next
      senders := p.senders.add (.new vehicleID authToken) } : TeleopPage Key).Counted := by
  refine ⟨h.numbered, fun s sender hsender ↦ ?_, fun s hnone ↦ ?_, h.suspended, h.published⟩
  · obtain ⟨rfl, rfl⟩ | hget := Arena.get_add_iff.mp hsender
    · have hunmade : signedBy p.senders.next p.effects = [] :=
        h.unmade _ (p.senders.unused _ le_rfl)
      rw [hunmade]
      rfl
    · exact h.sequence s sender hget
  · by_cases hs : s = p.senders.next
    · subst hs
      exact h.unmade _ (p.senders.unused _ le_rfl)
    · apply h.unmade s
      cases hget : p.senders.get s with
      | none => rfl
      | some sender =>
          cases hnone.symm.trans ((Arena.get_add_of_lt (Arena.lt_next hget)).trans hget)

theorem stopControlSession_suspended : p.stopControlSession.suspended = p.suspended := by
  have hrelease : ∀ (q : TeleopPage Key) (s : ℕ), (q.release s).suspended = q.suspended := by
    intro q s
    have hstopped : (q.stopRenewal s).suspended = q.suspended := clearInterval_suspended
    obtain heq | ⟨sessionID, heq⟩ := release_cases q s
    · rw [heq, hstopped]
    · rw [heq]
      exact hstopped
  unfold stopControlSession
  dsimp only
  split
  · exact clearInterval_suspended
  · exact (hrelease _ _).trans clearInterval_suspended

theorem Counted.move (h : p.Counted) (h₀ : p₀.Counted) {since : List (PageEffect Key)}
    (hsince : p.effects = p₀.effects ++ since) (hmove : Move config e p₀ p p') : p'.Counted := by
  cases hmove with
  | stopControlSession =>
      have hsuspended := stopControlSession_suspended (p := p)
      obtain heq | ⟨s, sessionID, -, heq⟩ := stopControlSession_effects p
      · exact h.keep_effects sameSequences_stopControlSession (by simp [hsuspended])
          (heq.trans (List.append_nil _).symm) (by simp) (by simp)
      · exact h.keep_effects sameSequences_stopControlSession (by simp [hsuspended]) heq (by simp)
          (by simp)
  | clearActiveCommand =>
      have hsuspended : p.clearActiveCommand.suspended = p.suspended := clearInterval_suspended
      have hsenders : SameSequences p p.clearActiveCommand := fun s ↦ by
        rw [TeleopPage.clearActiveCommand, clearInterval_senders]
      exact h.keep_effects hsenders (by simp [hsuspended])
        (clearActiveCommand_effects.trans (List.append_nil _).symm) (by simp) (by simp)
  | hold | startTimer => exact ⟨h.numbered, h.sequence, h.unmade, h.suspended, h.published⟩
  | @sign s command now _ _ _ _ =>
      obtain heq | ⟨sender, sent, hsender, hsent, heq⟩ :=
        signCommand_cases p config.sign s command now
      · rw [heq]
        exact h
      · rw [heq]
        exact h.sign hsender (sequence_of_sendCommand hsent)
  | publish room hsuspended =>
      obtain ⟨s, hs⟩ := h₀.suspended _ _ hsuspended
      refine h.publish ⟨s, ?_⟩
      rw [hsince, signedBy_append]
      exact List.mem_append_left _ hs
  | newSender vehicleID token he => exact h.newSender vehicleID token
  | @acquireSession s hsender =>
      unfold TeleopPage.acquireSession
      split
      · exact h
      · refine h.keep_effects (fun _ ↦ rfl) (fun i sent hi ↦ ?_) rfl (by simp) (by simp)
        obtain ⟨-, hnone⟩ | hget := Arena.get_add_iff.mp hi
        · cases hnone
        · exact hget
  | @startRenewal s hsender =>
      have hsuspended : (p.startRenewal s).suspended = p.suspended := by
        unfold TeleopPage.startRenewal
        split
        · rfl
        · exact clearInterval_suspended
      exact h.keep_effects sameSequences_startRenewal (by simp [hsuspended])
        (startRenewal_effects.trans (List.append_nil _).symm) (by simp) (by simp)
  | renew hget =>
      unfold TeleopPage.renew
      split
      · exact h
      · exact h.keep_effects (fun _ ↦ rfl) (fun _ _ hi ↦ hi) rfl (by simp) (by simp)
  | setSender s hf =>
      exact h.keep_effects (sameSequences_modifySender fun x ↦ (hf x).2) (fun _ _ hi ↦ hi)
        (List.append_nil _).symm (by simp) (by simp)
  | emit hsender hpublish =>
      refine h.keep_effects (fun _ ↦ rfl) (fun _ _ hi ↦ hi) rfl ?_ ?_
      · intro s command now sent hmem
        cases List.mem_singleton.mp hmem
        cases hsender
      · exact fun room message hmem ↦ hpublish room message (List.mem_singleton.mp hmem).symm
  | suspend hrest =>
      refine h.keep_effects (fun _ ↦ rfl) (fun i sent hi ↦ ?_) (List.append_nil _).symm (by simp)
        (by simp)
      obtain ⟨-, hsign⟩ | hget := Arena.get_add_iff.mp hi
      · exact absurd hsign (hrest sent)
      · exact hget
  | other _ _ _ hsenders _ heffects hsuspended =>
      exact h.keep_effects (fun s ↦ by rw [hsenders]) (fun i sent hi ↦ hsuspended i _ hi)
        (heffects.trans (List.append_nil _).symm) (by simp) (by simp)

theorem Counted.moves (h : p.Counted) (hmoves : Moves config e p p p') : p'.Counted := by
  suffices p'.Counted ∧ ∃ since, p'.effects = p.effects ++ since from this.1
  induction hmoves with
  | refl => exact ⟨h, [], (List.append_nil _).symm⟩
  | tail _ hmove ih =>
      obtain ⟨hcounted, since, hsince⟩ := ih
      obtain ⟨new, heffects, -⟩ := hmove.emits
      refine ⟨hcounted.move h hsince hmove, since ++ new, ?_⟩
      rw [heffects, hsince, List.append_assoc]

theorem Counted.of_run {ls : List (PageEvent Key)} (hrun : (teleopSystem config).Run ls p) :
    p.Counted := by
  refine hrun.invariant (P := fun _ p ↦ p.Counted) ?_ ?_
  · rintro _ rfl
    refine ⟨fun _ ↦ rfl, ?_, fun _ _ ↦ rfl, ?_, ?_⟩
    · intro s sender hsender
      cases hsender
    · intro i sent hsuspended
      cases hsuspended
    · intro room message hmem
      cases hmem
  · rintro ls p e _ hrun h - rfl
    exact h.moves (moves_handle (.of_run hrun) e)

end Counting

end TeleopPage

section Runs

variable {p p' p₀ : TeleopPage Key} {e : PageEvent Key} {ls : List (PageEvent Key)} {s : ℕ}

/-- An event signs only what it sends, and only for the sender that is in control. -/
theorem TeleopPage.signed_of_moves (hmoves : TeleopPage.Moves config e p₀ p p') :
    ∃ new, p'.effects = p.effects ++ new ∧ ∀ s command now sent,
      .sign s command now sent ∈ new →
        p₀.canControl = true ∧ p₀.secureSender = some s ∧ e.Sends p₀ command := by
  induction hmoves with
  | refl => exact ⟨[], by simp, by simp⟩
  | tail _ hmove ih =>
      obtain ⟨new, heffects, hnew⟩ := ih
      obtain ⟨new', heffects', hnew'⟩ := hmove.emits
      refine ⟨new ++ new', by rw [heffects', heffects, List.append_assoc], ?_⟩
      intro s command now sent hmem
      obtain hmem | hmem := List.mem_append.mp hmem
      · exact hnew s command now sent hmem
      · cases hnew' _ hmem with
        | sign hcontrol hcurrent _ hsends => exact ⟨hcontrol, hcurrent, hsends⟩
        | room hnone => cases hnone

/-- A command is signed while the page is in control, by its sender, and for an event that asks
for it or for the button that has been held ever since it was pressed. -/
theorem signed_while_held (hrun : (teleopSystem config).Run ls p) {new : List (PageEffect Key)}
    (heffects : (p.handle config e).effects = p.effects ++ new) {command : ControlCommand}
    {now : SafeInteger} {sent : SentCommand Key} (hsigned : .sign s command now sent ∈ new) :
    p.canControl = true ∧ p.secureSender = some s ∧
      (e.Asks command ∨
        ∃ id tick, e = .interval id tick ∧ ∃ before press after, ls = before ++ press :: after ∧
          press.Holds command ∧ ∀ x ∈ after, ¬x.LetsGo) := by
  obtain ⟨new', heffects', hnew⟩ :=
    TeleopPage.signed_of_moves (TeleopPage.moves_handle (.of_run hrun) e)
  obtain rfl := List.append_cancel_left (heffects.symm.trans heffects')
  obtain ⟨hcontrol, hcurrent, hasks | ⟨id, tick, he, -, hcommand⟩⟩ := hnew _ _ _ _ hsigned
  · exact ⟨hcontrol, hcurrent, .inl hasks⟩
  · exact ⟨hcontrol, hcurrent, .inr ⟨id, tick, he, TeleopPage.held_since hrun hcommand⟩⟩

/-- Nothing is held and nothing but a stop is asked for. -/
def PageEvent.Stops (e : PageEvent Key) : Prop :=
  (∀ command, ¬e.Holds command) ∧ ∀ command, e.Asks command → command = stop

/-- From the event on that lets the button go, only stops are signed, until one is pressed. -/
theorem signed_after_letting_go {before after : List (PageEvent Key)}
    (hrun : (teleopSystem config).Run (before ++ e :: after) p) (hgo : e.LetsGo) (he : e.Stops)
    (hafter : ∀ x ∈ after, x.Stops) :
    p.Idle ∧ ∃ q, (teleopSystem config).Run before q ∧ ∃ new, p.effects = q.effects ++ new ∧
      ∀ s command now sent, .sign s command now sent ∈ new → command = stop := by
  generalize hls : before ++ e :: after = ls at hrun
  induction hrun generalizing after with
  | init => simp at hls
  | @step ls q p x hrun _ hstep ih =>
      obtain rfl := hstep
      obtain ⟨new, heffects, hnew⟩ :=
        TeleopPage.signed_of_moves (TeleopPage.moves_handle (.of_run hrun) x)
      obtain rfl | ⟨after, last, rfl⟩ := List.eq_nil_or_concat after
      · obtain ⟨rfl, hx⟩ := List.append_inj' hls rfl
        obtain rfl := List.singleton_inj.mp hx
        refine ⟨TeleopPage.idle_of_letsGo (TeleopPage.paired_of_run hrun) hgo he.1, q, hrun, new,
          heffects, fun s command now sent hmem ↦ ?_⟩
        obtain ⟨-, -, hasks | ⟨id, tick, rfl, -⟩⟩ := hnew s command now sent hmem
        · exact he.2 command hasks
        · exact hgo.elim
      · have hsplit : (before ++ e :: after) ++ [last] = ls ++ [x] := by simpa using hls
        obtain ⟨hbefore, hx⟩ := List.append_inj' hsplit rfl
        obtain rfl := List.singleton_inj.mp hx
        obtain ⟨hidle, q', hq', old, hold, hstops⟩ :=
          ih (fun y hy ↦ hafter y (by simp [hy])) hbefore
        have hlast := hafter last (by simp)
        refine ⟨?_, q', hq', old ++ new, by rw [heffects, hold, List.append_assoc], ?_⟩
        · obtain hnow | ⟨htimer, hcommand⟩ :=
            TeleopPage.held_of_moves (TeleopPage.moves_handle (.of_run hrun) last) hlast.1
          · exact hnow
          · exact ⟨htimer.trans hidle.1, hcommand.trans hidle.2⟩
        · intro s command now sent hmem
          obtain hmem | hmem := List.mem_append.mp hmem
          · exact hstops s command now sent hmem
          · obtain ⟨-, -, hasks | ⟨id, tick, -, -, hheld⟩⟩ := hnew s command now sent hmem
            · exact hlast.2 command hasks
            · cases hidle.2.symm.trans hheld

theorem run_append_events (hrun : (teleopSystem config).Run ls p) (events : List (PageEvent Key)) :
    (teleopSystem config).Run (ls ++ events) (events.foldl (TeleopPage.handle config) p) := by
  induction events using List.reverseRecOn with
  | nil => rwa [List.append_nil]
  | append_singleton events e ih =>
      rw [List.foldl_append, ← List.append_assoc]
      exact ih.step trivial rfl

/-- Once the page has let go of a sender, it makes no request for it, neither signs with it nor
renews its session any more, whatever answers still come.  Of its commands only those that it had
signed by then may still be published. -/
theorem dropped_sender_silent (hrun : (teleopSystem config).Run ls p)
    (hsender : p.secureSender = some s) (hgone : (p.handle config e).secureSender = none)
    (later : List (PageEvent Key)) :
    ∃ new, (later.foldl (TeleopPage.handle config) (p.handle config e)).effects =
        (p.handle config e).effects ++ new ∧ (∀ x ∈ new, x.sender ≠ some s) ∧
      ∀ room message, .publish room message ∈ new → ∃ s', ∃ sent,
        message = sent.published ∧
          (s' = s → sent ∈ TeleopPage.signedBy s (p.handle config e).effects) ∧
          sent ∈ TeleopPage.signedBy s'
            (later.foldl (TeleopPage.handle config) (p.handle config e)).effects := by
  have hsound := TeleopPage.Sound.of_run hrun
  have hstart : ∀ vehicleID, e ≠ .startTeleop vehicleID := by
    rintro vehicleID rfl
    simp only [TeleopPage.handle, TeleopPage.startTeleop] at hgone
    split at hgone
    · cases hsender.symm.trans hgone
    · split_ifs at hgone
      · cases hgone
      · cases hsender.symm.trans hgone
  have hdropped : TeleopPage.Dropped s (p.handle config e) := by
    obtain ⟨hcurrent, -⟩ | hdropped :=
      TeleopPage.dropped_of_moves hsound hsender hstart (TeleopPage.moves_handle hsound e)
    · cases hcurrent.symm.trans hgone
    · exact hdropped
  obtain ⟨-, new, heffects, hsilent⟩ := hdropped.silent_later (hsound.handle e) later
  refine ⟨new, heffects, hsilent, fun room message hpublish ↦ ?_⟩
  have hcounted : (later.foldl (TeleopPage.handle config) (p.handle config e)).Counted :=
    TeleopPage.Counted.of_run (run_append_events hrun (e :: later))
  have hmem := List.mem_append_right (p.handle config e).effects hpublish
  obtain ⟨s', sent, hsigned, hmessage⟩ := hcounted.published room message (heffects ▸ hmem)
  refine ⟨s', sent, hmessage, ?_, hsigned⟩
  rintro rfl
  rwa [heffects, TeleopPage.signedBy_append_of_silent hsilent] at hsigned

/-- Each sender numbers the commands that it signs one after another, and nothing is published in
a room that was not signed before. -/
theorem signed_in_order (hrun : (teleopSystem config).Run ls p) :
    (∀ s, (TeleopPage.signedBy s p.effects).map (fun sent ↦ sent.sender.sequence.val) =
        TeleopPage.sequences (TeleopPage.signedBy s p.effects).length) ∧
      ∀ room message, .publish room message ∈ p.effects →
        ∃ s, ∃ sent ∈ TeleopPage.signedBy s p.effects, message = sent.published :=
  have hcounted := TeleopPage.Counted.of_run hrun
  ⟨hcounted.numbered, hcounted.published⟩

theorem run_of_events (events : List (PageEvent Key)) :
    (teleopSystem config).Run events (events.foldl (TeleopPage.handle config) .initial) :=
  run_append_events (.init rfl) events

end Runs

/-! ### A page that takes control -/

section Sample

def sampleConfig (sign : Unit → JSString → JSString) : PageConfig Unit := ⟨sign, false, true⟩

/-- Everything is answered at once: the page is in control of the session `s-1`. -/
def takingControl : List (PageEvent Unit) :=
  [.signedIn (text "token"), .startTeleop (text "car-001"), .resume 0 (.keyPair ()),
    .resume 1 (.publicKey (text "key")), .resume 2 .done,
    .resume 3 (.session (some (text "s-1")) none), .resume 4 .done, .resume 5 .done]

def zeroMS : SafeInteger := ⟨0, SafeInteger.natAbs_zero_le⟩

def pressing : List (PageEvent Unit) :=
  takingControl ++ [.beginCommand (.highLevel .forward) zeroMS zeroMS]

def pressed : TeleopPage Unit :=
  pressing.foldl (TeleopPage.handle (sampleConfig fun _ _ ↦ [])) .initial

/-- The timer repeats the command while the button is held. -/
theorem signed_while_held_forward :
    ∃ new sent, .sign 0 (Press.highLevel .forward).command zeroMS sent ∈ new ∧
      (pressed.handle (sampleConfig fun _ _ ↦ []) (.interval 1 zeroMS)).effects =
        pressed.effects ++ new ∧
      pressed.canControl = true ∧ pressed.secureSender = some 0 ∧
        ((PageEvent.interval 1 zeroMS : PageEvent Unit).Asks (Press.highLevel .forward).command ∨
          ∃ id tick, (PageEvent.interval 1 zeroMS : PageEvent Unit) = .interval id tick ∧
            ∃ before press after, pressing = before ++ press :: after ∧
              press.Holds (Press.highLevel .forward).command ∧ ∀ x ∈ after, ¬x.LetsGo) := by
  have hrun : (teleopSystem (sampleConfig fun _ _ ↦ [])).Run pressing pressed :=
    run_of_events pressing
  obtain ⟨sent, heffects⟩ : ∃ sent,
      (pressed.handle (sampleConfig fun _ _ ↦ []) (.interval 1 zeroMS)).effects =
        pressed.effects ++ [.sign 0 (Press.highLevel .forward).command zeroMS sent] :=
    ⟨_, rfl⟩
  have hmem := List.mem_singleton_self
    (PageEffect.sign 0 (Press.highLevel .forward).command zeroMS sent)
  exact ⟨_, sent, hmem, heffects, signed_while_held hrun heffects hmem⟩

/-- The timers that the page had started tick on for nothing; the command that was signed before
the operator signed out is published late. -/
theorem dropped_sender_silent_signed_out :
    let config := sampleConfig fun _ _ ↦ []
    let signedOut := pressed.handle config (.handleAuth none)
    let later := [.interval 0 zeroMS, .interval 1 zeroMS, .resume 7 .done]
    ∃ new message, .publish 0 message ∈ new ∧
      (later.foldl (TeleopPage.handle config) signedOut).effects = signedOut.effects ++ new ∧
        (∀ x ∈ new, x.sender ≠ some 0) ∧
      ∀ room message, .publish room message ∈ new → ∃ s', ∃ sent, message = sent.published ∧
        (s' = 0 → sent ∈ TeleopPage.signedBy 0 signedOut.effects) ∧
          sent ∈ TeleopPage.signedBy s'
            (later.foldl (TeleopPage.handle config) signedOut).effects := by
  intro config signedOut later
  have hrun : (teleopSystem config).Run pressing pressed := run_of_events pressing
  obtain ⟨new, heffects, hsilent, hpublished⟩ :=
    dropped_sender_silent (s := 0) (e := .handleAuth none) hrun rfl rfl later
  obtain ⟨message, hmessage⟩ : ∃ message,
      (later.foldl (TeleopPage.handle config) signedOut).effects =
        signedOut.effects ++ [.publish 0 message] := ⟨_, rfl⟩
  have hmem : .publish 0 message ∈ new := by
    rw [List.append_cancel_left (heffects.symm.trans hmessage)]
    exact List.mem_singleton_self _
  exact ⟨new, message, hmem, heffects, hsilent, hpublished⟩

def publishing : List (PageEvent Unit) := [.resume 6 .done, .resume 7 .done]

/-- The stop and the command that were signed are published. -/
def published : TeleopPage Unit :=
  publishing.foldl (TeleopPage.handle (sampleConfig fun _ _ ↦ [])) pressed

theorem effects_published : ∃ stopped forward, published.effects =
    pressed.effects ++ [.publish 0 stopped, .publish 0 forward] := by
  let config := sampleConfig fun _ _ ↦ []
  obtain ⟨stopped, hstopped⟩ : ∃ stopped, (pressed.handle config (.resume 6 .done)).effects =
      pressed.effects ++ [.publish 0 stopped] := ⟨_, rfl⟩
  obtain ⟨forward, hforward⟩ : ∃ forward,
      ((pressed.handle config (.resume 6 .done)).handle config (.resume 7 .done)).effects =
        (pressed.handle config (.resume 6 .done)).effects ++ [.publish 0 forward] := ⟨_, rfl⟩
  refine ⟨stopped, forward, ?_⟩
  simp only [published, publishing, List.foldl_cons, List.foldl_nil]
  rw [hforward, hstopped, List.append_assoc, List.singleton_append]

theorem signed_in_order_published :
    (∃ stopped forward, published.effects =
      pressed.effects ++ [.publish 0 stopped, .publish 0 forward]) ∧
    (∀ s, (TeleopPage.signedBy s published.effects).map (fun sent ↦ sent.sender.sequence.val) =
        TeleopPage.sequences (TeleopPage.signedBy s published.effects).length) ∧
      ∀ room message, .publish room message ∈ published.effects →
        ∃ s, ∃ sent ∈ TeleopPage.signedBy s published.effects, message = sent.published := by
  have hrun : (teleopSystem (sampleConfig fun _ _ ↦ [])).Run (pressing ++ publishing) published :=
    run_append_events (run_of_events pressing) publishing
  exact ⟨effects_published, signed_in_order hrun⟩

end Sample

end RemoteInfra.Console
