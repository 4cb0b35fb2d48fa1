import RemoteInfra.Vehicle.Bars
import RemoteInfra.Vehicle.SessionVerifier

/-!
# What a signed text binds

Every field of a checked packet holds no bar of its own or, the session id, as many as the
loaded session's.  So the text falls apart into its fields again, and the text of each field
settles the number behind it.
-/

namespace RemoteInfra.Vehicle

open RemoteInfra.Library RemoteInfra.Python

section

variable [PythonPlatform]

/-- The plainest command with a high-level action. -/
def highLevelCommand (action : PyStr) : PyValue :=
  .dict [(PyStr.ofString "mode", .str HIGH_LEVEL_MODE), (PyStr.ofString "action", .str action)]

/-- The fields a valid command adds to the signed text. -/
inductive SignedTail (command : PyValue) : List PyStr → Prop
  | highLevel (action : PyStr) (hmem : action ∈ HIGH_LEVEL_ACTIONS)
      (hresolve : resolveCommand command = resolveCommand (highLevelCommand action)) :
      SignedTail command [HIGH_LEVEL_MODE, action]
  | lowLevel (direction steering throttle brake : PyValue) (resolved : ActuatorCommand)
      (hactuation : Actuation command direction steering throttle brake resolved)
      (hresolve : resolveCommand command = .ok resolved) :
      SignedTail command
        [LOW_LEVEL_MODE, pyText steering, pyText throttle, pyText brake, pyText direction]
  | bare (steering throttle brake : PyValue) (resolved : ActuatorCommand)
      (hactuation : Actuation command (.int 1) steering throttle brake resolved)
      (hresolve : resolveCommand command = .ok resolved) :
      SignedTail command [pyText steering, pyText throttle, pyText brake]

/-- A checked packet is signed as its header fields followed by those of its command. -/
structure Signed (packet sessionID sequence timestamp command : PyValue)
    (tail : List PyStr) : Prop where
  sequence_eq : packet.getItem "sequence" = .ok sequence
  timestamp_eq : packet.getItem "timestamp_ms" = .ok timestamp
  command_eq : packet.getItem "command" = .ok command
  tail_of : SignedTail command tail
  message_eq : ∃ version type : PyValue, buildSignMessage packet = .ok (joinWith [bar]
      ([pyText version, pyText type, pyText sessionID, pyText sequence, pyText timestamp] ++
        tail)) ∧
    bar ∉ pyText version ∧ bar ∉ pyText type

theorem resolveCommand_highLevel {command : PyValue} {action : PyStr}
    (hmode : command.get "mode" .none = .ok (.str HIGH_LEVEL_MODE))
    (haction : command.getItem "action" = .ok (.str action)) :
    resolveCommand command = resolveCommand (highLevelCommand action) := by
  have hmode' : (highLevelCommand action).get "mode" .none = .ok (.str HIGH_LEVEL_MODE) := rfl
  have haction' : (highLevelCommand action).getItem "action" = .ok (.str action) := rfl
  have hself : (PyValue.str HIGH_LEVEL_MODE).eq (.str HIGH_LEVEL_MODE) = true :=
    PyValue.eq_str_iff.mpr rfl
  simp only [resolveCommand, hmode, hmode', haction, haction', hself, ok_bind, if_true]

/-- A checked packet has a signed text, and its command resolves. -/
theorem signed_of_passes {v : SessionCommandVerifier} {session : ActiveControlSession}
    {packet : PyValue} {senderIdentity : PyStr} {nowMS n : ℤ}
    (h : v.Passes session packet senderIdentity nowMS n) :
    ∃ sessionID sequence timestamp command tail,
      Signed packet sessionID sequence timestamp command tail ∧
        sessionID.eq session.sessionID = true ∧ pyInt sequence = .ok n ∧
        ∃ t, pyInt timestamp = .ok t := by
  obtain ⟨version, hversion, hversionEq⟩ := h.version
  obtain ⟨type, htype, htypeEq⟩ := h.type
  obtain ⟨sessionID, hsessionID, hsessionIDEq⟩ := h.sessionID
  obtain ⟨sequence, hsequence, hn, -⟩ := h.sequence
  obtain ⟨timestamp, t, htimestamp, ht, -, -⟩ := h.timestamp
  obtain ⟨command, hcommand, hvalid⟩ := h.command
  have hversionBar := bar_not_mem_version hversionEq
  have htypeBar : bar ∉ pyText type := by
    obtain rfl := PyValue.eq_str_iff.mp htypeEq
    simp only [pyText]
    decide
  suffices htail : ∃ tail, SignedTail command tail ∧ buildSignMessage packet = .ok (joinWith [bar]
      ([pyText version, pyText type, pyText sessionID, pyText sequence, pyText timestamp] ++
        tail)) by
    obtain ⟨tail, htail, hmessage⟩ := htail
    exact ⟨sessionID, sequence, timestamp, command, tail,
      { sequence_eq := hsequence
        timestamp_eq := htimestamp
        command_eq := hcommand
        tail_of := htail
        message_eq := ⟨version, type, hmessage, hversionBar, htypeBar⟩ },
      hsessionIDEq, hn, t, ht⟩
  have hself : ∀ s, (PyValue.str s).eq (.str s) = true := fun s ↦ PyValue.eq_str_iff.mpr rfl
  have hlow : (PyValue.str LOW_LEVEL_MODE).eq (.str HIGH_LEVEL_MODE) = false := by decide
  cases layout_of_validCommand hvalid with
  | highLevel action hmode haction hmem =>
      refine ⟨_, .highLevel action hmem (resolveCommand_highLevel hmode haction), ?_⟩
      simp only [buildSignMessage, hcommand, hversion, htype, hsessionID, hsequence, htimestamp,
        hmode, haction, hself, ok_bind, if_true, pyText]
      rfl
  | lowLevel direction steering throttle brake resolved hmode hdirection hactuation =>
      refine ⟨_, .lowLevel direction steering throttle brake resolved hactuation
        (resolveCommand_actuation hmode hlow hdirection hactuation), ?_⟩
      simp only [buildSignMessage, hcommand, hversion, htype, hsessionID, hsequence, htimestamp,
        hmode, hlow, hself, hdirection, hactuation.steering_eq, hactuation.throttle_eq,
        hactuation.brake_eq, ok_bind, Bool.false_eq_true, if_true, if_false]
      rfl
  | bare mode steering throttle brake resolved hmode hhigh hlow' hdirection hactuation =>
      refine ⟨_, .bare steering throttle brake resolved hactuation
        (resolveCommand_actuation hmode hhigh hdirection hactuation), ?_⟩
      simp only [buildSignMessage, hcommand, hversion, htype, hsessionID, hsequence, htimestamp,
        hmode, hhigh, hlow', hactuation.steering_eq, hactuation.throttle_eq,
        hactuation.brake_eq, ok_bind, Bool.false_eq_true, if_false]
      rfl

/-! ## Taking signed texts apart -/

theorem bar_not_mem_tail {command : PyValue} {tail : List PyStr} (h : SignedTail command tail) :
    ∀ field ∈ tail, bar ∉ field := by
  have hactions : ∀ action ∈ HIGH_LEVEL_ACTIONS, bar ∉ action := by decide
  have hhigh : bar ∉ HIGH_LEVEL_MODE := by decide
  have hlow : bar ∉ LOW_LEVEL_MODE := by decide
  cases h with
  | highLevel action hmem hresolve => simp [hhigh, hactions action hmem]
  | lowLevel direction steering throttle brake resolved hactuation hresolve =>
      obtain ⟨n, hn⟩ := hactuation.pyInt_direction
      simp [hlow, bar_not_mem_of_pyFloat hactuation.pyFloat_steering,
        bar_not_mem_of_pyFloat hactuation.pyFloat_throttle,
        bar_not_mem_of_pyFloat hactuation.pyFloat_brake, bar_not_mem_of_pyInt hn]
  | bare steering throttle brake resolved hactuation hresolve =>
      simp [bar_not_mem_of_pyFloat hactuation.pyFloat_steering,
        bar_not_mem_of_pyFloat hactuation.pyFloat_throttle,
        bar_not_mem_of_pyFloat hactuation.pyFloat_brake]

/-- The resolved numbers are settled by the texts of the numbers. -/
theorem actuation_eq_of_texts {command command' d d' s s' t t' b b' : PyValue}
    {resolved resolved' : ActuatorCommand} (h : Actuation command d s t b resolved)
    (h' : Actuation command' d' s' t' b' resolved') (hs : pyText s = pyText s')
    (ht : pyText t = pyText t') (hb : pyText b = pyText b') (hd : pyText d = pyText d') :
    resolved = resolved' := by
  have hsteering := pyFloat_eq_of_text hs h.pyFloat_steering h'.pyFloat_steering
  have hthrottle := pyFloat_eq_of_text ht h.pyFloat_throttle h'.pyFloat_throttle
  have hbrake := pyFloat_eq_of_text hb h.pyFloat_brake h'.pyFloat_brake
  have hdirection := pyFloat_eq_of_text hd h.pyFloat_direction h'.pyFloat_direction
  obtain ⟨x, y, z, w⟩ := resolved
  obtain ⟨x', y', z', w'⟩ := resolved'
  simp only at hsteering hthrottle hbrake hdirection
  rw [hsteering, hthrottle, hbrake, hdirection]

/-- The signed fields of a command settle what it resolves to. -/
theorem resolve_eq_of_tail {command command' : PyValue} {tail : List PyStr}
    (h : SignedTail command tail) (h' : SignedTail command' tail) :
    resolveCommand command = resolveCommand command' := by
  cases h with
  | highLevel action hmem hresolve =>
      generalize htail : [HIGH_LEVEL_MODE, action] = tail at h'
      cases h' with
      | highLevel action' hmem' hresolve' =>
          obtain rfl : action = action' := by simpa using htail
          rw [hresolve, hresolve']
      | lowLevel => simp at htail
      | bare => simp at htail
  | lowLevel direction steering throttle brake resolved hactuation hresolve =>
      generalize htail : [LOW_LEVEL_MODE, pyText steering, pyText throttle, pyText brake,
        pyText direction] = tail at h'
      cases h' with
      | highLevel => simp at htail
      | lowLevel direction' steering' throttle' brake' resolved' hactuation' hresolve' =>
          simp only [List.cons.injEq, and_true, true_and] at htail
          obtain ⟨hs, ht, hb, hd⟩ := htail
          rw [hresolve, hresolve', actuation_eq_of_texts hactuation hactuation' hs ht hb hd]
      | bare => simp at htail
  | bare steering throttle brake resolved hactuation hresolve =>
      generalize htail : [pyText steering, pyText throttle, pyText brake] = tail at h'
      cases h' with
      | highLevel => simp at htail
      | lowLevel => simp at htail
      | bare steering' throttle' brake' resolved' hactuation' hresolve' =>
          simp only [List.cons.injEq, and_true] at htail
          obtain ⟨hs, ht, hb⟩ := htail
          rw [hresolve, hresolve', actuation_eq_of_texts hactuation hactuation' hs ht hb rfl]

theorem meaning_eq_of_passes {v w : SessionCommandVerifier}
    {session session' : ActiveControlSession} (hid : session.sessionID = session'.sessionID)
    {p q : PyValue} {sender sender' : PyStr} {nowMS nowMS' m n : ℤ}
    (hp : v.Passes session p sender nowMS m) (hq : w.Passes session' q sender' nowMS' n)
    (h : buildSignMessage p = buildSignMessage q) :
    (∃ sequence, (p.getItem "sequence" >>= pyInt) = .ok sequence ∧
        (q.getItem "sequence" >>= pyInt) = .ok sequence) ∧
      (∃ timestamp, (p.getItem "timestamp_ms" >>= pyInt) = .ok timestamp ∧
        (q.getItem "timestamp_ms" >>= pyInt) = .ok timestamp) ∧
      ∃ command, (p.getItem "command" >>= resolveCommand) = .ok command ∧
        (q.getItem "command" >>= resolveCommand) = .ok command := by
  obtain ⟨sid, seq, ts, command, tail, hsigned, hsid, hm, t, ht⟩ :=
    signed_of_passes hp
  obtain ⟨sid', seq', ts', command', tail', hsigned', hsid', hn, t', ht'⟩ :=
    signed_of_passes hq
  rw [hid] at hsid
  obtain ⟨version, type, hmessage, hversion, htype⟩ := hsigned.message_eq
  obtain ⟨version', type', hmessage', hversion', htype'⟩ := hsigned'.message_eq
  have hjoined := Except.ok.inj (hmessage.symm.trans (h.trans hmessage'))
  have hbars : (pyText sid).count bar = (pyText sid').count bar :=
    count_pyText_of_eq (PyValue.eq_trans hsid (PyValue.eq_symm hsid'))
  obtain ⟨hheader, rfl⟩ := joinWith_append_inj
    (by simp [hbars, List.count_eq_zero.mpr hversion, List.count_eq_zero.mpr hversion',
      List.count_eq_zero.mpr htype, List.count_eq_zero.mpr htype',
      List.count_eq_zero.mpr (bar_not_mem_of_pyInt hm),
      List.count_eq_zero.mpr (bar_not_mem_of_pyInt hn),
      List.count_eq_zero.mpr (bar_not_mem_of_pyInt ht),
      List.count_eq_zero.mpr (bar_not_mem_of_pyInt ht')])
    (bar_not_mem_tail hsigned.tail_of) (bar_not_mem_tail hsigned'.tail_of)
    (List.cons_ne_nil _ _) hjoined
  simp only [List.cons.injEq, and_true] at hheader
  obtain ⟨-, -, -, hsequence, htimestamp⟩ := hheader
  obtain rfl := pyInt_eq_of_text hsequence hm hn
  obtain rfl := pyInt_eq_of_text htimestamp ht ht'
  obtain ⟨_, hcommand, hvalid⟩ := hp.command
  obtain rfl := Except.ok.inj (hsigned.command_eq.symm.trans hcommand)
  obtain ⟨resolved, hresolved⟩ := resolveCommand_of_validCommand hvalid
  have hresolved' : resolveCommand command' = .ok resolved :=
    (resolve_eq_of_tail hsigned'.tail_of hsigned.tail_of).trans hresolved
  refine ⟨⟨m, ?_, ?_⟩, ⟨t, ?_, ?_⟩, ⟨resolved, ?_, ?_⟩⟩
  · rw [hsigned.sequence_eq, ok_bind, hm]
  · rw [hsigned'.sequence_eq, ok_bind, hn]
  · rw [hsigned.timestamp_eq, ok_bind, ht]
  · rw [hsigned'.timestamp_eq, ok_bind, ht']
  · rw [hsigned.command_eq, ok_bind, hresolved]
  · rw [hsigned'.command_eq, ok_bind, hresolved']

/-- Two packets that pass every check before the signature under one loaded session, and whose
signed texts are the same, have the same sequence, time and actuation. -/
theorem signature_binds_meaning {v w : SessionCommandVerifier} {session : ActiveControlSession}
    {p q : PyValue} {sender sender' : PyStr} {nowMS nowMS' m n : ℤ}
    (hp : v.checkPacket session p sender nowMS = .ok (.passed m))
    (hq : w.checkPacket session q sender' nowMS' = .ok (.passed n))
    (h : buildSignMessage p = buildSignMessage q) :
    (∃ sequence, (p.getItem "sequence" >>= pyInt) = .ok sequence ∧
        (q.getItem "sequence" >>= pyInt) = .ok sequence) ∧
      (∃ timestamp, (p.getItem "timestamp_ms" >>= pyInt) = .ok timestamp ∧
        (q.getItem "timestamp_ms" >>= pyInt) = .ok timestamp) ∧
      ∃ command, (p.getItem "command" >>= resolveCommand) = .ok command ∧
        (q.getItem "command" >>= resolveCommand) = .ok command :=
  meaning_eq_of_passes rfl (SessionCommandVerifier.passes_of_checkPacket hp)
    (SessionCommandVerifier.passes_of_checkPacket hq) h

end

/-- The sequence may be an integer in one packet and its text in the other. -/
theorem signature_binds_meaning_int_and_text :
    letI := PythonPlatform.ascii
    (∃ sequence, ((samplePacket (.int 5) (.int 1000)).getItem "sequence" >>= pyInt) =
          .ok sequence ∧
        ((samplePacket (.str (PyStr.ofString "5")) (.int 1000)).getItem "sequence" >>= pyInt) =
          .ok sequence) ∧
      (∃ timestamp, ((samplePacket (.int 5) (.int 1000)).getItem "timestamp_ms" >>= pyInt) =
          .ok timestamp ∧
        ((samplePacket (.str (PyStr.ofString "5")) (.int 1000)).getItem "timestamp_ms" >>=
          pyInt) = .ok timestamp) ∧
      ∃ command, ((samplePacket (.int 5) (.int 1000)).getItem "command" >>= resolveCommand) =
          .ok command ∧
        ((samplePacket (.str (PyStr.ofString "5")) (.int 1000)).getItem "command" >>=
          resolveCommand) = .ok command := by
  let := PythonPlatform.ascii
  have hp : sampleVerifier.checkPacket sampleSession (samplePacket (.int 5) (.int 1000))
      sampleSender 1050 = .ok (.passed 5) := by decide
  have hq : sampleVerifier.checkPacket sampleSession
      (samplePacket (.str (PyStr.ofString "5")) (.int 1000)) sampleSender 1060 =
        .ok (.passed 5) := by decide
  exact signature_binds_meaning hp hq (by decide)

end RemoteInfra.Vehicle
