import RemoteInfra.Python.Exceptions
import RemoteInfra.Vehicle.ForgedPackets
import RemoteInfra.Vehicle.Runtime
import RemoteInfra.Vehicle.SignedMessage

/-!
# Malformed packets

`verify_packet` catches what the conversions, the subscripts, the decoder and the signature
check raise, except an `OverflowError`: `int` of an infinity and `float` of an integer past
the largest finite float escape it.
-/

namespace RemoteInfra.Vehicle

open RemoteInfra.Library RemoteInfra.Python

/-! ## Commands whose numbers overflow -/

def InfiniteFloat (x : PyValue) : Prop := ∃ negative, x = .float (.infinity negative)

def NumberOverflows (command : PyValue) (name : String) : Prop :=
  ∃ x, command.getItem name = .ok x ∧ hugeInt x = true

theorem getItem_ne_overflow {v : PyValue} {key : String} :
    v.getItem key ≠ .error .overflowError := by
  intro h
  have hmem := getItem_raises v key _ h
  simp at hmem

theorem catchInvalid_overflow_iff {result : Except PyExc Bool} :
    catchInvalid result = .error .overflowError ↔ result = .error .overflowError := by
  unfold catchInvalid
  split <;> simp

theorem inHighLevelActions_raises (value : PyValue) :
    RaisesOnly [.typeError] (inHighLevelActions value) := by
  unfold inHighLevelActions
  split
  · exact .error (by simp)
  · exact .error (by simp)
  · exact .ok _

/-- All that the checks before the signature raise. -/
def checkErrors : List PyExc := [.keyError, .typeError, .valueError, .overflowError]

theorem getItem_raises_check (v : PyValue) (key : String) :
    RaisesOnly checkErrors (v.getItem key) :=
  (getItem_raises v key).mono (by simp [checkErrors])

section

variable [PythonPlatform]

def NumberReads (command : PyValue) (name : String) : Prop :=
  ∃ x y, command.getItem name = .ok x ∧ pyFloat x = .ok y

/-- The conversions run in this order, and one that fails ends them. -/
def NumbersOverflow (command direction : PyValue) : Prop :=
  NumberOverflows command "steering" ∨ NumberReads command "steering" ∧
    (NumberOverflows command "throttle" ∨ NumberReads command "throttle" ∧
      (NumberOverflows command "brake" ∨ NumberReads command "brake" ∧ InfiniteFloat direction))

/-- A command with the keys of its layout and a number that overflows. -/
inductive CommandOverflows : PyValue → Prop
  | lowLevel {entries : List (PyStr × PyValue)} {direction : PyValue}
      (hmode : (PyValue.dict entries).get "mode" .none = .ok (.str LOW_LEVEL_MODE))
      (hkeys : keysAre entries ["mode", "steering", "throttle", "brake", "direction"] = true)
      (hdirection : (PyValue.dict entries).getItem "direction" = .ok direction)
      (hnumbers : NumbersOverflow (.dict entries) direction) : CommandOverflows (.dict entries)
  | bare {entries : List (PyStr × PyValue)} {mode : PyValue}
      (hmode : (PyValue.dict entries).get "mode" .none = .ok mode)
      (hhigh : mode.eq (.str HIGH_LEVEL_MODE) = false)
      (hlow : mode.eq (.str LOW_LEVEL_MODE) = false)
      (hkeys : keysAre entries ["steering", "throttle", "brake"] = true)
      (hnumbers : NumbersOverflow (.dict entries) (.int 1)) : CommandOverflows (.dict entries)

/-- One conversion of `valid_command`, whose rest overflows or not whatever it yields. -/
theorem readNumber_overflow_iff {α : Type} {command : PyValue} {name : String}
    {f : PyFloat → Except PyExc α} {rest : Prop}
    (hf : ∀ y, f y = .error .overflowError ↔ rest) :
    (command.getItem name >>= fun x ↦ pyFloat x >>= f) = .error .overflowError ↔
      NumberOverflows command name ∨ NumberReads command name ∧ rest := by
  rw [bind_eq_error, or_iff_right getItem_ne_overflow]
  constructor
  · rintro ⟨x, hx, h⟩
    rcases bind_eq_error.mp h with h | ⟨y, hy, h⟩
    · exact .inl ⟨x, hx, pyFloat_eq_overflow_iff.mp h⟩
    · exact .inr ⟨⟨x, y, hx, hy⟩, (hf y).mp h⟩
  · rintro (⟨x, hx, h⟩ | ⟨⟨x, y, hx, hy⟩, h⟩)
    · exact ⟨x, hx, bind_eq_error.mpr (.inl (pyFloat_eq_overflow_iff.mpr h))⟩
    · exact ⟨x, hx, bind_eq_error.mpr (.inr ⟨y, hy, (hf y).mpr h⟩)⟩

theorem validNumbers_overflow_iff {command direction : PyValue} :
    validNumbers command direction = .error .overflowError ↔
      NumbersOverflow command direction := by
  unfold validNumbers NumbersOverflow
  apply readNumber_overflow_iff
  intro steering
  apply readNumber_overflow_iff
  intro throttle
  apply readNumber_overflow_iff
  intro brake
  rw [bind_eq_error, pyInt_eq_overflow_iff]
  apply or_iff_left
  rintro ⟨n, -, h⟩
  cases h

theorem validCommand_overflow_iff {command : PyValue} :
    validCommand command = .error .overflowError ↔ CommandOverflows command := by
  constructor
  · intro h
    unfold validCommand at h
    cases command with
    | dict entries =>
        rcases bind_eq_error.mp h with hmode | ⟨mode, hmode, h⟩
        · cases hmode
        split at h
        · split at h
          · rcases bind_eq_error.mp h with h | ⟨action, -, h⟩
            · exact absurd h getItem_ne_overflow
            · exact absurd (inHighLevelActions_raises action _ h) (by simp)
          · cases h
        · rename_i hhigh
          split at h
          · rename_i hlow
            obtain rfl := PyValue.eq_str_iff.mp hlow
            split at h
            · rename_i hkeys
              rcases bind_eq_error.mp h with h | ⟨direction, hdirection, h⟩
              · exact absurd h getItem_ne_overflow
              · rw [catchInvalid_overflow_iff, validNumbers_overflow_iff] at h
                exact .lowLevel hmode hkeys hdirection h
            · cases h
          · rename_i hlow
            split at h
            · rename_i hkeys
              rw [catchInvalid_overflow_iff, validNumbers_overflow_iff] at h
              exact .bare hmode (by simpa using hhigh) (by simpa using hlow) hkeys h
            · cases h
    | _ => cases h
  · intro h
    cases h with
    | lowLevel hmode hkeys hdirection hnumbers =>
        have hhigh : (PyValue.str LOW_LEVEL_MODE).eq (.str HIGH_LEVEL_MODE) = false := by decide
        have hlow : (PyValue.str LOW_LEVEL_MODE).eq (.str LOW_LEVEL_MODE) = true := by decide
        simp only [validCommand, hmode, hhigh, hlow, hkeys, hdirection, ok_bind,
          Bool.false_eq_true, if_true, if_false, catchInvalid_overflow_iff,
          validNumbers_overflow_iff]
        exact hnumbers
    | bare hmode hhigh hlow hkeys hnumbers =>
        simp only [validCommand, hmode, hhigh, hlow, hkeys, ok_bind, Bool.false_eq_true, if_true,
          if_false, catchInvalid_overflow_iff, validNumbers_overflow_iff]
        exact hnumbers

/-! ## What checking a packet raises -/

theorem pyInt_raises_check (v : PyValue) : RaisesOnly checkErrors (pyInt v) :=
  (pyInt_raises v).mono (by simp [checkErrors])

theorem pyFloat_raises_check (v : PyValue) : RaisesOnly checkErrors (pyFloat v) :=
  (pyFloat_raises v).mono (by simp [checkErrors])

theorem validNumbers_raises (command direction : PyValue) :
    RaisesOnly checkErrors (validNumbers command direction) := by
  have hread : ∀ name {f : PyFloat → Except PyExc Bool}, (∀ y, RaisesOnly checkErrors (f y)) →
      RaisesOnly checkErrors (command.getItem name >>= fun x ↦ pyFloat x >>= f) := by
    intro name f hf
    exact .bind (getItem_raises_check _ _) fun x _ ↦ .bind (pyFloat_raises_check x) fun y _ ↦ hf y
  apply hread
  intro steering
  apply hread
  intro throttle
  apply hread
  intro brake
  exact .bind (pyInt_raises_check _) fun n _ ↦ .ok _

theorem validCommand_raises (command : PyValue) : RaisesOnly checkErrors (validCommand command) := by
  have hcatch : ∀ direction,
      RaisesOnly checkErrors (catchInvalid (validNumbers command direction)) := by
    intro direction
    unfold catchInvalid
    split
    · exact .ok _
    · exact .ok _
    · exact validNumbers_raises command direction
  unfold validCommand
  cases command with
  | dict entries =>
      refine .bind (.ok _) fun mode _ ↦ ?_
      split
      · split
        · refine .bind (getItem_raises_check _ _) fun action _ ↦ ?_
          exact (inHighLevelActions_raises action).mono (by simp [checkErrors])
        · exact .ok _
      · split
        · split
          · exact .bind (getItem_raises_check _ _) fun direction _ ↦ hcatch direction
          · exact .ok _
        · split
          · exact hcatch _
          · exact .ok _
  | _ => exact .ok _

namespace SessionCommandVerifier

theorem checkPacket_raises (v : SessionCommandVerifier) (session : ActiveControlSession)
    (packet : PyValue) (senderIdentity : PyStr) (nowMS : ℤ) :
    RaisesOnly checkErrors (v.checkPacket session packet senderIdentity nowMS) := by
  unfold checkPacket
  cases packet with
  | dict entries =>
      dsimp only
      split
      · exact .ok _
      refine .bind (getItem_raises_check _ _) fun version _ ↦ ?_
      refine .bind (getItem_raises_check _ _) fun type _ ↦ ?_
      split
      · exact .ok _
      refine .bind (getItem_raises_check _ _) fun sessionID _ ↦ ?_
      split
      · exact .ok _
      split
      · exact .ok _
      refine .bind (getItem_raises_check _ _) fun x _ ↦ ?_
      refine .bind (pyInt_raises_check _) fun timestamp _ ↦ ?_
      split
      · exact .ok _
      refine .bind (getItem_raises_check _ _) fun y _ ↦ ?_
      refine .bind (pyInt_raises_check _) fun sequence _ ↦ ?_
      split
      · exact .ok _
      refine .bind (getItem_raises_check _ _) fun command _ ↦ ?_
      refine .bind (validCommand_raises _) fun valid _ ↦ ?_
      split <;> exact .ok _
  | _ => exact .ok _

/-- The signature check of a packet that passed the others raises nothing that escapes. -/
theorem checkSignature_raises [Ed25519] {v : SessionCommandVerifier}
    {session : ActiveControlSession} {key : VerifyKey} {packet : PyValue}
    {senderIdentity : PyStr} {nowMS sequence : ℤ}
    (h : v.Passes session packet senderIdentity nowMS sequence) :
    RaisesOnly caught (checkSignature key packet) := by
  obtain ⟨_, _, _, _, _, hsigned, -⟩ := signed_of_passes h
  obtain ⟨_, _, hmessage, -⟩ := hsigned.message_eq
  have hencode : ∀ s, RaisesOnly caught (encode s) := by
    intro s
    unfold encode
    dsimp only
    split
    · exact .ok _
    · exact .error (by simp [caught])
  have hdecode : ∀ x, RaisesOnly caught (b64decode x) := by
    intro x
    unfold b64decode
    split
    · refine .bind (hencode _) fun characters _ ↦ ?_
      split
      · exact .ok _
      · exact .error (by simp [caught])
    · exact .error (by simp [caught])
  unfold checkSignature
  rw [hmessage, ok_bind]
  refine .bind (hencode _) fun characters _ ↦ ?_
  refine .bind ((getItem_raises _ _).mono (by simp [caught])) fun x _ ↦ ?_
  refine .bind (hdecode x) fun signature _ ↦ ?_
  split
  · exact .error (by simp [caught])
  · split
    · exact .ok _
    · exact .error (by simp [caught])

/-! ## Packets whose checks overflow -/

/-- The packet names the loaded session, which has not expired, and comes from its operator. -/
structure Addressed (session : ActiveControlSession) (packet : PyValue) (senderIdentity : PyStr)
    (nowMS : ℤ) : Prop where
  names : ∃ entries, packet = .dict entries ∧
    (REQUIRED.all fun name ↦ entries.any fun e ↦ e.1 = PyStr.ofString name) = true
  version : ∃ x, packet.getItem "version" = .ok x ∧ x.eq PROTOCOL_VERSION = true
  type : ∃ x, packet.getItem "type" = .ok x ∧ x.eq CONTROL_TYPE = true
  sessionID : ∃ x, packet.getItem "session_id" = .ok x ∧ x.eq session.sessionID = true
  sender : senderIdentity = operatorIdentity session
  notExpired : nowMS ≤ session.expiresAtMS

/-- Its timestamp is infinite; or lies in the window, and its sequence is infinite; or that is
fresh, and its command overflows. -/
def PacketOverflows (v : SessionCommandVerifier) (packet : PyValue) (nowMS : ℤ) : Prop :=
  ∃ timestamp, packet.getItem "timestamp_ms" = .ok timestamp ∧
    (InfiniteFloat timestamp ∨
      ∃ t, pyInt timestamp = .ok t ∧ nowMS - t ≤ v.maxAgeMS ∧ t - nowMS ≤ v.maxFutureSkewMS ∧
        ∃ sequence, packet.getItem "sequence" = .ok sequence ∧
          (InfiniteFloat sequence ∨
            ∃ n, pyInt sequence = .ok n ∧ v.lastSequence < n ∧
              ∃ command, packet.getItem "command" = .ok command ∧ CommandOverflows command))

theorem checkPacket_overflow {v : SessionCommandVerifier} {session : ActiveControlSession}
    {packet : PyValue} {senderIdentity : PyStr} {nowMS : ℤ}
    (h : v.checkPacket session packet senderIdentity nowMS = .error .overflowError) :
    Addressed session packet senderIdentity nowMS ∧ v.PacketOverflows packet nowMS := by
  unfold checkPacket at h
  cases packet with
  | dict entries =>
      dsimp only at h
      split at h
      · cases h
      rename_i hnames
      rcases bind_eq_error.mp h with h | ⟨version, hversion, h⟩
      · exact absurd h getItem_ne_overflow
      rcases bind_eq_error.mp h with h | ⟨type, htype, h⟩
      · exact absurd h getItem_ne_overflow
      split at h
      · cases h
      rename_i hprotocol
      rcases bind_eq_error.mp h with h | ⟨sessionID, hsessionID, h⟩
      · exact absurd h getItem_ne_overflow
      split at h
      · cases h
      rename_i hparties
      split at h
      · cases h
      rename_i hexpiry
      simp only [Bool.or_eq_true, Bool.not_eq_true', not_or, Bool.not_eq_false,
        decide_eq_true_eq, ne_eq, not_not] at hnames hprotocol hparties
      refine ⟨⟨⟨entries, rfl, hnames⟩, ⟨version, hversion, hprotocol.1⟩,
        ⟨type, htype, hprotocol.2⟩, ⟨sessionID, hsessionID, hparties.1⟩, hparties.2,
        not_lt.mp hexpiry⟩, ?_⟩
      rcases bind_eq_error.mp h with h | ⟨timestamp, htimestamp, h⟩
      · exact absurd h getItem_ne_overflow
      refine ⟨timestamp, htimestamp, ?_⟩
      rcases bind_eq_error.mp h with h | ⟨t, ht, h⟩
      · exact .inl (pyInt_eq_overflow_iff.mp h)
      split at h
      · cases h
      rename_i hwindow
      simp only [Bool.or_eq_true, not_or, decide_eq_true_eq, not_lt, gt_iff_lt] at hwindow
      rcases bind_eq_error.mp h with h | ⟨sequence, hsequence, h⟩
      · exact absurd h getItem_ne_overflow
      refine .inr ⟨t, ht, hwindow.1, hwindow.2, sequence, hsequence, ?_⟩
      rcases bind_eq_error.mp h with h | ⟨n, hn, h⟩
      · exact .inl (pyInt_eq_overflow_iff.mp h)
      split at h
      · cases h
      rename_i hlast
      rcases bind_eq_error.mp h with h | ⟨command, hcommand, h⟩
      · exact absurd h getItem_ne_overflow
      refine .inr ⟨n, hn, not_le.mp hlast, command, hcommand, ?_⟩
      rcases bind_eq_error.mp h with h | ⟨valid, -, h⟩
      · exact validCommand_overflow_iff.mp h
      · split at h <;> cases h
  | _ => cases h

theorem checkPacket_of_overflows {v : SessionCommandVerifier} {session : ActiveControlSession}
    {packet : PyValue} {senderIdentity : PyStr} {nowMS : ℤ}
    (haddressed : Addressed session packet senderIdentity nowMS)
    (h : v.PacketOverflows packet nowMS) :
    v.checkPacket session packet senderIdentity nowMS = .error .overflowError := by
  obtain ⟨entries, rfl, hnames⟩ := haddressed.names
  obtain ⟨version, hversion, hprotocol⟩ := haddressed.version
  obtain ⟨type, htype, hcontrol⟩ := haddressed.type
  obtain ⟨sessionID, hsessionID, hsame⟩ := haddressed.sessionID
  have hsender := haddressed.sender
  have hexpiry : ¬nowMS > session.expiresAtMS := not_lt.mpr haddressed.notExpired
  obtain ⟨timestamp, htimestamp, h⟩ := h
  simp only [checkPacket, hnames, hversion, htype, hsessionID, htimestamp, ok_bind, hprotocol,
    hcontrol, hsame, hsender, hexpiry, Bool.not_true, Bool.false_eq_true, Bool.or_self, ne_eq,
    not_true_eq_false, decide_false, if_false]
  rcases h with h | ⟨t, ht, hage, hskew, sequence, hsequence, h⟩
  · rw [pyInt_eq_overflow_iff.mpr h]
    rfl
  · have hold : ¬nowMS - t > v.maxAgeMS := not_lt.mpr hage
    have hfuture : ¬t - nowMS > v.maxFutureSkewMS := not_lt.mpr hskew
    simp only [ht, hsequence, ok_bind, hold, hfuture, decide_false, Bool.or_self,
      Bool.false_eq_true, if_false]
    rcases h with h | ⟨n, hn, hlast, command, hcommand, h⟩
    · rw [pyInt_eq_overflow_iff.mpr h]
      rfl
    · simp only [hn, hcommand, ok_bind, not_le.mpr hlast, if_false,
        validCommand_overflow_iff.mpr h]
      rfl

/-- The packet is examined up to a conversion that overflows. -/
def Overflows (v : SessionCommandVerifier) (rawMessage senderIdentity : PyStr) (nowMS : ℤ) :
    Prop :=
  ∃ session key packet, v.session = some session ∧ v.verifyKey = some key ∧
    loads rawMessage = .ok packet ∧ Addressed session packet senderIdentity nowMS ∧
      v.PacketOverflows packet nowMS

/-- What escapes from examining a packet is the overflow of one of its checks. -/
theorem examine_escape_iff [Ed25519] {v : SessionCommandVerifier}
    {session : ActiveControlSession} {key : VerifyKey} {rawMessage senderIdentity : PyStr}
    {nowMS : ℤ} (hnesting : loads rawMessage ≠ .error .recursionError) :
    (∃ e, v.examine session key rawMessage senderIdentity nowMS = .error e ∧ e ∉ caught) ↔
      ∃ packet, loads rawMessage = .ok packet ∧ Addressed session packet senderIdentity nowMS ∧
        v.PacketOverflows packet nowMS := by
  constructor
  · rintro ⟨e, h, hescapes⟩
    rcases bind_eq_error.mp h with h | ⟨packet, hloads, h⟩
    · have hmem := loads_raises rawMessage e h
      simp only [decodeErrors, List.mem_cons, List.not_mem_nil, or_false] at hmem
      rcases hmem with rfl | rfl | rfl
      · exact absurd (by simp [caught]) hescapes
      · exact absurd (by simp [caught]) hescapes
      · exact absurd h hnesting
    · rcases bind_eq_error.mp h with h | ⟨check, hcheck, h⟩
      · have hmem := v.checkPacket_raises session packet senderIdentity nowMS e h
        obtain rfl : e = .overflowError := by
          simp only [checkErrors, caught, List.mem_cons, List.not_mem_nil, or_false] at hmem hescapes
          grind
        exact ⟨packet, hloads, checkPacket_overflow h⟩
      · cases check with
        | passed n =>
            rcases bind_eq_error.mp h with h | ⟨-, -, h⟩
            · exact absurd (checkSignature_raises (passes_of_checkPacket hcheck) e h) hescapes
            · cases h
        | rejected => cases h
        | expired => cases h
  · rintro ⟨packet, hloads, haddressed, h⟩
    refine ⟨.overflowError, ?_, by simp [caught]⟩
    rw [examine, hloads, ok_bind, checkPacket_of_overflows haddressed h]
    rfl

end SessionCommandVerifier

/-! ## Rejection without an exception -/

/-- `verify_packet` returns, on `None` without a change but to unload an expired session, and
`on_datachannel_message` returns too and passes a rejected packet on to the audit. -/
def HandlesMessage [Ed25519] (r : SessionVehicleRuntime) (rawMessage senderIdentity : PyStr)
    (nowMS : ℤ) (monotonic : ℚ) : Prop :=
  ∃ v verdict r', r.verifier.verifyPacket rawMessage senderIdentity nowMS monotonic =
      (v, .ok verdict) ∧
    (verdict = none → v = r.verifier ∨
      (∃ session packet, FindsExpired r.verifier rawMessage senderIdentity nowMS session packet) ∧
        v = r.verifier.clearSession) ∧
    r.onDatachannelMessage rawMessage senderIdentity nowMS monotonic = (r', .ok ()) ∧
    (verdict = none → r' = ({ r with verifier := v }).queueAuditEvent "command_rejected"
      "session command validation failed" monotonic)

theorem handlesMessage_of_none [Ed25519] {r : SessionVehicleRuntime}
    {rawMessage senderIdentity : PyStr} {nowMS : ℤ} {monotonic : ℚ} {v : SessionCommandVerifier}
    (hverify : r.verifier.verifyPacket rawMessage senderIdentity nowMS monotonic = (v, .ok none))
    (hv : v = r.verifier ∨
      (∃ session packet, FindsExpired r.verifier rawMessage senderIdentity nowMS session packet) ∧
        v = r.verifier.clearSession) :
    HandlesMessage r rawMessage senderIdentity nowMS monotonic := by
  refine ⟨v, none, _, hverify, fun _ ↦ hv, ?_, fun _ ↦ rfl⟩
  simp only [SessionVehicleRuntime.onDatachannelMessage, hverify]

theorem not_handlesMessage_of_escape [Ed25519] {r : SessionVehicleRuntime}
    {session : ActiveControlSession} {key : VerifyKey} {rawMessage senderIdentity : PyStr}
    {nowMS : ℤ} {monotonic : ℚ} {e : PyExc} (hsession : r.verifier.session = some session)
    (hkey : r.verifier.verifyKey = some key)
    (hexamine : r.verifier.examine session key rawMessage senderIdentity nowMS = .error e)
    (he : e ∉ SessionCommandVerifier.caught) :
    ¬HandlesMessage r rawMessage senderIdentity nowMS monotonic := by
  rintro ⟨v, verdict, r', hverify, -⟩
  simp only [SessionCommandVerifier.verifyPacket, hsession, hkey, hexamine, he,
    if_false] at hverify
  cases (Prod.mk.inj hverify).2

/-- A message is handled without an exception unless a check of its packet overflows. -/
theorem message_handled_iff [Ed25519] {r : SessionVehicleRuntime}
    {rawMessage senderIdentity : PyStr} {nowMS : ℤ} {monotonic : ℚ}
    (hnesting : loads rawMessage ≠ .error .recursionError) :
    HandlesMessage r rawMessage senderIdentity nowMS monotonic ↔
      ¬ r.verifier.Overflows rawMessage senderIdentity nowMS := by
  cases hsession : r.verifier.session with
  | none =>
      refine iff_of_true (handlesMessage_of_none ?_ (.inl rfl)) ?_
      · simp only [SessionCommandVerifier.verifyPacket, hsession]
      · rintro ⟨session, key, packet, h, -⟩
        cases hsession.symm.trans h
  | some session =>
  cases hkey : r.verifier.verifyKey with
  | none =>
      refine iff_of_true (handlesMessage_of_none ?_ (.inl rfl)) ?_
      · simp only [SessionCommandVerifier.verifyPacket, hsession, hkey]
      · rintro ⟨session, key, packet, -, h, -⟩
        cases hkey.symm.trans h
  | some key =>
  have hoverflows : r.verifier.Overflows rawMessage senderIdentity nowMS ↔
      ∃ e, r.verifier.examine session key rawMessage senderIdentity nowMS = .error e ∧
        e ∉ SessionCommandVerifier.caught := by
    rw [SessionCommandVerifier.examine_escape_iff hnesting]
    constructor
    · rintro ⟨session', key', packet, hsession', -, h⟩
      obtain rfl := Option.some.inj (hsession.symm.trans hsession')
      exact ⟨packet, h⟩
    · rintro ⟨packet, h⟩
      exact ⟨session, key, packet, hsession, hkey, h⟩
  rw [hoverflows]
  cases hexamine : r.verifier.examine session key rawMessage senderIdentity nowMS with
  | error e =>
      by_cases he : e ∈ SessionCommandVerifier.caught
      · refine iff_of_true (handlesMessage_of_none ?_ (.inl rfl)) ?_
        · simp only [SessionCommandVerifier.verifyPacket, hsession, hkey, hexamine, he, if_true]
        · rintro ⟨e', h, he'⟩
          cases h
          exact he' he
      · exact iff_of_false (not_handlesMessage_of_escape hsession hkey hexamine he)
          (not_not.mpr ⟨e, rfl, he⟩)
  | ok result =>
      refine iff_of_true ?_ (by rintro ⟨e, h, -⟩; cases h)
      obtain ⟨check, packet⟩ := result
      cases check with
      | rejected =>
          refine handlesMessage_of_none ?_ (.inl rfl)
          simp only [SessionCommandVerifier.verifyPacket, hsession, hkey, hexamine]
      | expired =>
          refine handlesMessage_of_none ?_
            (.inr ⟨⟨session, packet, findsExpired_of_examine hsession hexamine⟩, rfl⟩)
          simp only [SessionCommandVerifier.verifyPacket, hsession, hkey, hexamine]
      | passed sequence =>
          cases hmessage : r.onDatachannelMessage rawMessage senderIdentity nowMS monotonic with
          | mk r' result =>
          have hverify : r.verifier.verifyPacket rawMessage senderIdentity nowMS monotonic =
              ({ r.verifier with lastSequence := sequence, lastValidCmdTime := monotonic },
                .ok (some packet)) := by
            simp only [SessionCommandVerifier.verifyPacket, hsession, hkey, hexamine]
          rcases SessionVehicleRuntime.onDatachannelMessage_cases hverify hmessage with
            ⟨_, _, _, _, _, -, rfl, -⟩ | ⟨hrejected, -⟩
          · exact ⟨_, _, r', hverify, by simp, hmessage, by simp⟩
          · exact absurd rfl (hrejected packet)

end

/-! ## A packet from the end of time -/

def infiniteTimestampMessage : PyStr :=
  PyStr.ofString "\x7b\"version\":1,\"type\":\"control\",\"session_id\":\"s-1\"," ++
    PyStr.ofString
      "\"sequence\":1,\"timestamp_ms\":Infinity,\"command\":null,\"signature\":null\x7d"

def infiniteTimestampPacket : PyValue :=
  .dict
    [(PyStr.ofString "version", .int 1),
      (PyStr.ofString "type", .str (PyStr.ofString "control")),
      (PyStr.ofString "session_id", sampleSession.sessionID),
      (PyStr.ofString "sequence", .int 1),
      (PyStr.ofString "timestamp_ms", .float (.infinity false)),
      (PyStr.ofString "command", .none),
      (PyStr.ofString "signature", .none)]

def sampleRuntime : SessionVehicleRuntime := .new sampleVerifier .new

section

attribute [local instance] PythonPlatform.ascii Ed25519.sample

theorem loads_infiniteTimestamp :
    loads infiniteTimestampMessage = .ok infiniteTimestampPacket := by
  decide +kernel

theorem overflows_infiniteTimestamp :
    sampleVerifier.Overflows infiniteTimestampMessage sampleSender 1050 := by
  refine ⟨sampleSession, sampleKey, infiniteTimestampPacket, rfl, rfl, loads_infiniteTimestamp,
    ?_, ?_⟩
  · exact
      { names := ⟨_, rfl, by decide⟩
        version := ⟨.int 1, by decide, by decide⟩
        type := ⟨.str (PyStr.ofString "control"), by decide, by decide⟩
        sessionID := ⟨sampleSession.sessionID, by decide, by decide⟩
        sender := by decide
        notExpired := by decide }
  · exact ⟨.float (.infinity false), by decide, .inl ⟨false, rfl⟩⟩

theorem infinite_timestamp_raises :
    loads infiniteTimestampMessage ≠ .error .recursionError ∧
      ¬HandlesMessage sampleRuntime infiniteTimestampMessage sampleSender 1050 0 := by
  have hnesting : loads infiniteTimestampMessage ≠ .error .recursionError := by
    rw [loads_infiniteTimestamp]
    simp
  exact ⟨hnesting, fun h ↦ (message_handled_iff hnesting).mp h overflows_infiniteTimestamp⟩

theorem not_every_message_handled :
    ¬ ∀ (r : SessionVehicleRuntime) (rawMessage senderIdentity : PyStr) (nowMS : ℤ)
      (monotonic : ℚ), loads rawMessage ≠ .error .recursionError →
        HandlesMessage r rawMessage senderIdentity nowMS monotonic := by
  intro hall
  have hexamine : sampleVerifier.examine sampleSession sampleKey infiniteTimestampMessage
      sampleSender 1050 = .error .overflowError := by
    rw [SessionCommandVerifier.examine, loads_infiniteTimestamp, ok_bind]
    decide +kernel
  refine not_handlesMessage_of_escape (r := sampleRuntime) rfl rfl hexamine (by decide)
    (hall sampleRuntime infiniteTimestampMessage sampleSender 1050 0 ?_)
  rw [loads_infiniteTimestamp]
  simp

end

end RemoteInfra.Vehicle
