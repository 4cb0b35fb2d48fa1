import RemoteInfra.Console.PageRuns
import RemoteInfra.EndToEnd.Channel

/-!
# Letting go of a button

The operator's page, the channel and the vehicle together.  Once the operator has let go, the
page signs only stops, and the vehicle obeys what it hears in the order in which it was signed:
a packet of the button that was held may come late, but not after a stop.
-/

namespace RemoteInfra.EndToEnd

open RemoteInfra.Library RemoteInfra.Python RemoteInfra.JavaScript RemoteInfra.Console
  RemoteInfra.Vehicle

/-- The command that the sender `s` has signed and is sending. -/
def transmission {Key : Type} (s : ℕ) : PageEffect Key → Option (Transmission Key)
  | .sign s' command now sent => if s' = s then some ⟨command, now, sent⟩ else none
  | _ => none

def transmissions {Key : Type} (s : ℕ) (effects : List (PageEffect Key)) :
    List (Transmission Key) :=
  effects.filterMap (transmission s)

/-- What the vehicle does for a stop. -/
def fullStop : String × ActuatorCommand := ("remote", ⟨zero, zero, one, zero⟩)

section LettingGo

variable [PythonPlatform] [Ed25519] {Key : Type} {config : PageConfig Key}
  {session : ActiveControlSession} {key : VerifyKey} {sessionID : JSString} {timeoutMS : ℚ}
  {c : Channel Key} {s : ℕ}

omit [Ed25519] in
theorem eq_fullStop {a : String × ActuatorCommand} {t : Transmission Key} (h : Obeyed a t)
    (ht : t.command = stop) : a = fullStop := by
  obtain ⟨hcmd, hresolved⟩ := h
  rw [ht] at hresolved
  have hstop : resolveCommand (.dict stop.entries) = .ok fullStop.2 := rfl
  exact Prod.ext hcmd (Except.ok.inj (hresolved.symm.trans hstop))

omit [PythonPlatform] [Ed25519] in
theorem command_of_transmission {x : PageEffect Key} {t : Transmission Key}
    (h : transmission s x = some t) : ∃ now sent, x = .sign s t.command now sent := by
  cases x with
  | sign s' command now sent =>
      simp only [transmission] at h
      split_ifs at h with hs
      subst hs
      cases h
      exact ⟨now, sent, rfl⟩
  | _ => cases h

omit [Ed25519] in
theorem fullStops {applied : List (String × ActuatorCommand)} {sent : List (Transmission Key)}
    (h : List.Forall₂ Obeyed applied sent) (hsent : ∀ t ∈ sent, t.command = stop) :
    ∀ a ∈ applied, a = fullStop := by
  induction h with
  | nil => simp
  | cons hobeyed _ ih =>
      intro a ha
      obtain rfl | ha := List.mem_cons.mp ha
      · exact eq_fullStop hobeyed (hsent _ List.mem_cons_self)
      · exact ih (fun t ht ↦ hsent t (List.mem_cons_of_mem _ ht)) a ha

/-- Once the button is let go, the vehicle does what was asked for before and then nothing but
stop, whatever the channel makes of the packets. -/
theorem only_stops_after_letting_go (hlimit : 2 ≤ PythonPlatform.nestingLimit)
    (hsession : session.sessionID = .str (codePoints sessionID))
    (hencodes : Encodes (codePoints sessionID)) {before after : List (PageEvent Key)}
    {e : PageEvent Key} {page : TeleopPage Key}
    (hpage : (teleopSystem config).Run (before ++ e :: after) page) (hgo : e.LetsGo)
    (he : e.Stops) (hafter : ∀ x ∈ after, x.Stops) {ls : List ChannelLabel}
    (hrun : (channelSystem config.sign sessionID timeoutMS).RunWhere
      (Connected config.sign session key) ls c)
    (hsent : c.sent = transmissions s page.effects) :
    ∃ held, (teleopSystem config).Run before held ∧ ∃ driven obeyed halted,
      c.applied = driven ++ halted ∧ List.Forall₂ Obeyed driven obeyed ∧
        obeyed.Sublist (transmissions s held.effects) ∧ ∀ a ∈ halted, a = fullStop := by
  obtain ⟨-, held, hheld, new, heffects, hstops⟩ := signed_after_letting_go hpage hgo he hafter
  have hsends := Sends.of_run hlimit hsession hencodes hrun
  have happlied := (Keeps.of_run hlimit hsession hencodes hrun).applied
  have hsublist := records_sublist_of_subset hsends.heard hsends.increasing 0
  have hsplit : c.sent = transmissions s held.effects ++ transmissions s new := by
    rw [hsent, heffects]
    exact List.filterMap_append
  rw [hsplit] at hsublist
  obtain ⟨obeyed, stopped, hrecords, hobeyed, hstopped⟩ := List.sublist_append_iff.mp hsublist
  rw [hrecords] at happlied
  refine ⟨held, hheld, c.applied.take obeyed.length, obeyed, c.applied.drop obeyed.length,
    (List.take_append_drop _ _).symm, List.forall₂_take_append _ _ _ happlied, hobeyed, ?_⟩
  apply fullStops (List.forall₂_drop_append _ _ _ happlied)
  intro t ht
  obtain ⟨x, hx, htransmission⟩ := List.mem_filterMap.mp (hstopped.subset ht)
  obtain ⟨now, sent, rfl⟩ := command_of_transmission htransmission
  exact hstops s t.command now sent hx

end LettingGo

/-! ### A step forward -/

section Sample

attribute [local instance] PythonPlatform.ascii Ed25519.driving

/-- The operator asks for one step forward, and ends it. -/
def steppingForward : List (PageEvent Unit) :=
  takingControl ++ [.send (.highLevel .forward) thousand]

def stepEnded : List (PageEvent Unit) := steppingForward ++ [.endCommand thousand]

def stoppedPage : TeleopPage Unit :=
  stepEnded.foldl (TeleopPage.handle (sampleConfig signDriving)) .initial

theorem transmissions_stoppedPage {s s' : SentCommand Unit}
    (hsend : aliceConsole.sendCommand signDriving driveForward thousand = .ok s)
    (hnext : s.sender.sendCommand signDriving driveStop thousand = .ok s') :
    transmissions 0 stoppedPage.effects =
      [⟨driveForward, thousand, s⟩, ⟨driveStop, thousand, s'⟩] := by
  obtain rfl := Except.ok.inj hsend
  obtain rfl := Except.ok.inj hnext
  rfl

/-- The vehicle drives, stops, and ignores the command that comes again after the stop. -/
theorem only_stops_after_stepping : ∃ ls c held driven obeyed halted,
    (channelSystem signDriving (text "s-1") 500).RunWhere
        (Connected signDriving drivingSession drivingKey) ls c ∧
      (∃ forward stopping, c.heard = [forward, stopping, forward] ∧
        stopping.command = driveStop ∧ c.applied.length = 2) ∧
      (teleopSystem (sampleConfig signDriving)).Run steppingForward held ∧
        c.applied = driven ++ halted ∧ List.Forall₂ Obeyed driven obeyed ∧
          obeyed.Sublist (transmissions 0 held.effects) ∧ ∀ a ∈ halted, a = fullStop := by
  obtain ⟨ls, c, s, s', hrun, hsend, hnext, hsent, hheard⟩ := forward_stop_run
  have hpage : (teleopSystem (sampleConfig signDriving)).Run stepEnded stoppedPage :=
    run_of_events stepEnded
  have hsame : c.sent = transmissions 0 stoppedPage.effects :=
    hsent.trans (transmissions_stoppedPage hsend hnext).symm
  have hstops : (PageEvent.endCommand thousand : PageEvent Unit).Stops :=
    ⟨fun _ h ↦ h, fun _ h ↦ h⟩
  have happlied := forward_stop_applied hrun hsend hnext hheard
  obtain ⟨held, hheld, driven, obeyed, halted, hsplit, hdriven, hobeyed, hhalted⟩ :=
    only_stops_after_letting_go (by decide) drivingSession_named (encodes_name (by decide)) hpage
      trivial hstops (by simp) hrun hsame
  exact ⟨ls, c, held, driven, obeyed, halted, hrun, ⟨_, _, hheard, rfl, happlied⟩, hheld, hsplit,
    hdriven, hobeyed, hhalted⟩

end Sample

end RemoteInfra.EndToEnd
